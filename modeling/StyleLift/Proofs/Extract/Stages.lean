import StyleLift.Extract.Extraction
import StyleLift.Proofs.Run.Outcome

/-! # The stages of an extraction

What reading, verifying and extracting come to, one stage after the other. Remarks in the log do
not change an outcome, and of the faults only a compiler's own error is turned into a bundle.
-/
namespace StyleLift

theorem readRules_outcome (css : Text) :
    (readRules css).outcome = ((Css.read css).mapError Fault.numeral).map Css.Sheet.rules := by
  have hlog : ∀ sheet : Css.Sheet,
      (sheet.unfinished.forM fun p => Action.log .debug p.remark).outcome = .ok () :=
    fun sheet => Action.outcome_forM fun _ _ => rfl
  simp only [readRules, Action.outcome_bind, Action.outcome_ofExcept, Action.outcome_pure, hlog]
  cases Css.read css <;> rfl

theorem request_outcome (compiler : Compiler) (stylesheet : Text) (documents : List Text) :
    (compiler.request stylesheet documents).outcome =
      (compiler.compile stylesheet documents).outcome := by
  rw [Compiler.request, Action.outcome_bind, Action.outcome_emit]
  rfl

/-- What is confirmed among candidates by compiled text. -/
def Verification.of (css : Text) (candidates : List Text) : Verification where
  compiled := ClassSelector.names css
  confirmed := (ClassSelector.names css).filter candidates.contains

theorem verify_outcome (html : Text) (rules : List Rule) (compiler : Compiler) :
    (verify html rules compiler).outcome =
      (compiler.compile (syntheticStylesheet rules) [html]).outcome >>= fun css =>
        ((candidateClasses rules).mapError Fault.numeral).map (Verification.of css) := by
  simp only [verify, Action.outcome_bind, request_outcome, Action.outcome_ofExcept,
    Action.outcome_log, Action.outcome_pure]
  congr 1

/-- The bundle that a verification's end leads to. -/
def Bundle.ofOutcome (existing : List Text) (entries : List Entry) :
    Except Fault Verification → Except Fault Bundle
  | .ok v => .ok (.confirmed existing entries v)
  | .error (.compiler e) => .ok (.failed existing entries e)
  | .error fault => .error fault

theorem extract_outcome (html css : Text) (compiler : Compiler) :
    (extract html css compiler).outcome =
      (Markup.classNames html).mapError Fault.ofDocument >>= fun existing =>
        (readRules css).outcome >>= fun rules =>
          (rules.mapM Entry.ofRule).mapError Fault.numeral >>= fun entries =>
            Bundle.ofOutcome existing entries (verify html rules compiler).outcome := by
  simp only [extract, Action.outcome_bind, Action.outcome_ofExcept, Action.outcome_tryCatch,
    Action.outcome_map]
  congr 1
  funext existing
  congr 1
  funext rules
  congr 1
  funext entries
  cases (verify html rules compiler).outcome with
  | ok v => rfl
  | error fault =>
    cases fault with
    | compiler e =>
      simp only [Except.map, Bundle.ofOutcome, Action.outcome_bind, Action.outcome_log]
      rfl
    | _ => rfl

end StyleLift
