import StyleLift.Proofs.Extract.Confirmation

/-! # What an extraction prepares

Before a compiler is asked for anything, an extraction reads the document's classes and the rules of
its styles and finds the candidates. All that a compiler then adds are marks and the last members of
the bundle, so two extractions of one document and its styles differ in these alone.
-/
namespace StyleLift

/-- What an extraction knows before it asks the compiler. -/
structure Preparation where
  existing : List Text
  rules : List Rule
  entries : List Entry

/-- The stages before the compiler. -/
def prepare (html css : Text) : Except Fault Preparation := do
  let existing ← (Markup.classNames html).mapError Fault.ofDocument
  let sheet ← (Css.read css).mapError Fault.numeral
  let entries ← (sheet.rules.mapM Entry.ofRule).mapError Fault.numeral
  return ⟨existing,sheet.rules,entries⟩

theorem extract_prepare (html css : Text) (compiler : Compiler) :
    (extract html css compiler).outcome = prepare html css >>= fun p =>
      Bundle.ofOutcome p.existing p.entries (verify html p.rules compiler).outcome := by
  rw [extract_outcome,prepare]
  cases (Markup.classNames html).mapError Fault.ofDocument with
  | error fault => rfl
  | ok existing =>
    rw [readRules_outcome]
    cases (Css.read css).mapError Fault.numeral with
    | error fault => rfl
    | ok sheet =>
      change ((sheet.rules.mapM Entry.ofRule).mapError Fault.numeral >>= _) =
        ((sheet.rules.mapM Entry.ofRule).mapError Fault.numeral >>= _) >>= _
      cases (sheet.rules.mapM Entry.ofRule).mapError Fault.numeral <;> rfl

theorem prepare_eq_ok {html css : Text} {p : Preparation} :
    prepare html css = .ok p ↔ Markup.classNames html = .ok p.existing ∧
      (∃ sheet, Css.read css = .ok sheet ∧ sheet.rules = p.rules) ∧ Entries p.rules p.entries := by
  simp only [prepare,bind_eq_ok,mapError_eq_ok]
  constructor
  · rintro ⟨existing,hexisting,sheet,hsheet,entries,hentries,hp⟩
    cases hp
    exact ⟨hexisting,⟨sheet,hsheet,rfl⟩,hentries⟩
  · rintro ⟨hexisting,⟨sheet,hsheet,hrules⟩,hentries⟩
    rw [← hrules] at hentries
    refine ⟨_,hexisting,sheet,hsheet,_,hentries,?_⟩
    rw [hrules]
    rfl

/-- Candidates that were found for the entries are found again for the verification. -/
theorem Entries.candidateClasses_ok {rules : List Rule} {entries : List Entry}
    (h : Entries rules entries) : ∃ candidates, candidateClasses rules = .ok candidates := by
  obtain ⟨suggested,hs⟩ : ∃ suggested, rules.mapM Rule.suggestedClasses = .ok suggested := by
    refine ⟨entries.map Entry.classes,mapM_eq_ok.mpr ?_⟩
    have hf := mapM_eq_ok.mp h
    clear h
    induction hf with
    | nil => exact .nil
    | cons he _ ih =>
      obtain ⟨rfl,hc⟩ := Entry.ofRule_eq_ok.mp he
      exact .cons (map_eq_ok.mpr ⟨_,hc,rfl⟩) ih
  exact ⟨_,bind_eq_ok.mpr ⟨suggested,hs,rfl⟩⟩

/-- A compiler that ends in one error for every sheet and all documents. -/
def Compiler.Fails (c : Compiler) (e : CompilerError) : Prop :=
  ∀ stylesheet documents, (c.compile stylesheet documents).outcome = .error (.compiler e)

variable {html css out : Text} {compiler : Compiler} {p : Preparation}

/-- Once prepared, an extraction comes to what its compilation leads to. -/
theorem extract_of_prepared (compiler : Compiler) (hp : prepare html css = .ok p) :
    ∃ candidates, candidateClasses p.rules = .ok candidates ∧
      (extract html css compiler).outcome = Bundle.ofOutcome p.existing p.entries
        ((compiler.compile (syntheticStylesheet p.rules) [html]).outcome.map fun out =>
          Verification.of out candidates) := by
  obtain ⟨candidates,hc⟩ := (prepare_eq_ok.mp hp).2.2.candidateClasses_ok
  refine ⟨candidates,hc,?_⟩
  rw [extract_prepare,hp]
  change Bundle.ofOutcome _ _ (verify html p.rules compiler).outcome = _
  rw [verify_outcome,hc]
  cases (compiler.compile (syntheticStylesheet p.rules) [html]).outcome <;> rfl

/-- A bundle is made of a preparation and of what its compilation ends with. -/
theorem extract_eq_bundle {b : Bundle} : (extract html css compiler).outcome = .ok b ↔
    ∃ p, prepare html css = .ok p ∧
      ((∃ out candidates,
          (compiler.compile (syntheticStylesheet p.rules) [html]).outcome = .ok out ∧
          candidateClasses p.rules = .ok candidates ∧
          b = .confirmed p.existing p.entries (.of out candidates)) ∨
        ∃ e, (compiler.compile (syntheticStylesheet p.rules) [html]).outcome =
            .error (.compiler e) ∧
          b = .failed p.existing p.entries e) := by
  cases hp : prepare html css with
  | error fault =>
    rw [extract_prepare,hp]
    exact iff_of_false (fun h => by cases h) fun ⟨_,h,_⟩ => by cases h
  | ok p =>
    obtain ⟨candidates,hc,hextract⟩ := extract_of_prepared compiler hp
    rw [hextract]
    cases hcompile : (compiler.compile (syntheticStylesheet p.rules) [html]).outcome with
    | ok out =>
      constructor
      · exact fun h => ⟨p,rfl,.inl ⟨out,candidates,hcompile,hc,(Except.ok.inj h).symm⟩⟩
      · rintro ⟨_,⟨⟩,⟨_,_,hout,hfound,rfl⟩ | ⟨e,he,-⟩⟩
        · cases hcompile.symm.trans hout
          cases hc.symm.trans hfound
          rfl
        · cases hcompile.symm.trans he
    | error fault =>
      constructor
      · intro h
        cases fault with
        | compiler e => exact ⟨p,rfl,.inr ⟨e,hcompile,(Except.ok.inj h).symm⟩⟩
        | _ => cases h
      · rintro ⟨_,⟨⟩,⟨_,_,hout,-⟩ | ⟨e,he,rfl⟩⟩
        · cases hcompile.symm.trans hout
        · cases hcompile.symm.trans he
          rfl

theorem extract_of_fails {e : CompilerError} (hf : compiler.Fails e)
    (hp : prepare html css = .ok p) :
    (extract html css compiler).outcome = .ok (.failed p.existing p.entries e) := by
  obtain ⟨candidates,-,hextract⟩ := extract_of_prepared compiler hp
  rw [hextract,hf]
  rfl

theorem extract_of_returns (hr : compiler.Returns out) (hp : prepare html css = .ok p) :
    ∃ candidates, candidateClasses p.rules = .ok candidates ∧
      (extract html css compiler).outcome =
        .ok (.confirmed p.existing p.entries (.of out candidates)) := by
  obtain ⟨candidates,hc,hextract⟩ := extract_of_prepared compiler hp
  refine ⟨candidates,hc,?_⟩
  rw [hextract,hr]
  rfl

/-- No bundle without the preparation. -/
theorem prepare_of_extract {b : Bundle} (h : (extract html css compiler).outcome = .ok b) :
    ∃ p, prepare html css = .ok p := by
  rw [extract_prepare] at h
  obtain ⟨p,hp,-⟩ := bind_eq_ok.mp h
  exact ⟨p,hp⟩

end StyleLift
