import StyleLift.Proofs.Css.Lexing
import StyleLift.Proofs.Extract.Preparation
import StyleLift.Proofs.Markup.Passes
import StyleLift.Proofs.Utility.Lengths

/-! # When an extraction gives a bundle

With a compiler that ends in a text or in an error of its own, every stage fails only for a document
that is rejected or for a numeral with too many digits: in a reference, in the styles, or in a
length. An extraction gives a bundle just if no stage meets such a construct.
-/
namespace StyleLift

/-- A compiler that ends in a text or in an error of its own, for every sheet and all documents. -/
def Compiler.Answers (c : Compiler) : Prop :=
  ∀ stylesheet documents, (∃ out, (c.compile stylesheet documents).outcome = .ok out) ∨
    ∃ e, (c.compile stylesheet documents).outcome = .error (.compiler e)

/-- A fault for a rejected construct of a document or a numeral with too many digits. -/
def Fault.Foreseen : Fault → Prop
  | .rejectedMarkup _ => True
  | .numeral e => e.OverLimit
  | _ => False

/-! ## Styles -/

theorem Css.checkNumbers_eq_error {ls : List (Text × Lexeme)} {e : NumeralError}
    (h : checkNumbers ls = .error e) : e.OverLimit := by
  fun_induction checkNumbers ls with
  | case1 => cases h
  | case2 _ _ _ _ ih => exact ih h
  | case3 _ _ _ _ hd => cases h; exact ⟨_,checkDigits_eq_error.mp hd⟩
  | case4 _ _ _ ih => exact ih h

theorem Css.read_eq_error {css : Text} {e : NumeralError} (h : read css = .error e) :
    e.OverLimit := by
  rcases bind_eq_error.mp h with h | ⟨_,-,h⟩
  · exact checkNumbers_eq_error (map_eq_error.mp h)
  · cases h

theorem Css.reads_returns {css : Text} :
    (∃ rules, Reads css rules) ↔ ∀ l ∈ lexed css, l.digitCount ≤ Numeral.digitLimit := by
  simp only [reads_iff]
  exact ⟨fun ⟨_,h,_⟩ => h,fun h => ⟨_,h,rfl⟩⟩

/-! ## Candidates of many rules -/

theorem Entry.ofRule_returns {r : Rule} : (∃ e, Entry.ofRule r = .ok e) ↔ r.Measurable := by
  rw [← Rule.candidates_returns,Entry.ofRule,map_returns]

theorem candidateClasses_returns {rules : List Rule} :
    (∃ classes, candidateClasses rules = .ok classes) ↔ ∀ r ∈ rules, r.Measurable := by
  rw [candidateClasses,bind_returns]
  simp only [← Rule.candidates_returns]
  constructor
  · rintro ⟨suggested,hs,-⟩ r hr
    obtain ⟨found,hf⟩ := mapM_returns.mp ⟨suggested,hs⟩ r hr
    exact map_returns.mp ⟨found,hf⟩
  · intro h
    obtain ⟨suggested,hs⟩ := mapM_returns.mpr fun r hr => map_returns.mpr (h r hr)
    exact ⟨suggested,hs,_,rfl⟩

/-! ## Verification and extraction -/

variable {html css : Text} {compiler : Compiler}

/-- Beside the compiler's own error there is only one for a length that is not measured. -/
theorem verify_fault {rules : List Rule} (hc : compiler.Answers) :
    (∃ fault, (verify html rules compiler).outcome = .error fault ∧ ∀ e, fault ≠ .compiler e) ↔
      (∃ out, (compiler.compile (syntheticStylesheet rules) [html]).outcome = .ok out) ∧
        ∃ r ∈ rules, ¬ r.Measurable := by
  have hany : (∃ r ∈ rules, ¬ r.Measurable) ↔
      ¬ ∃ classes, candidateClasses rules = .ok classes := by
    simp [candidateClasses_returns]
  rw [verify_outcome,hany]
  rcases hc (syntheticStylesheet rules) [html] with ⟨out,hout⟩ | ⟨e,he⟩
  · rw [hout]
    change (∃ fault, ((candidateClasses rules).mapError Fault.numeral).map (Verification.of out) =
      .error fault ∧ _) ↔ _
    cases candidateClasses rules with
    | ok classes => simp [Except.mapError,Except.map]
    | error e => simp [Except.mapError,Except.map]
  · rw [he]
    simp [bind,Except.bind]

theorem prepare_returns : (∃ p, prepare html css = .ok p) ↔
    (∀ t, Markup.Visits html t → ¬ Markup.Faulty t) ∧
      ∃ rules, Css.Reads css rules ∧ ∀ r ∈ rules, r.Measurable := by
  rw [← Markup.classNames_returns]
  simp only [← Entry.ofRule_returns,← mapM_returns]
  constructor
  · rintro ⟨p,hp⟩
    obtain ⟨hexisting,hrules,hentries⟩ := prepare_eq_ok.mp hp
    exact ⟨⟨_,hexisting⟩,p.rules,hrules,p.entries,hentries⟩
  · rintro ⟨⟨existing,hexisting⟩,rules,hrules,entries,hentries⟩
    exact ⟨⟨existing,rules,entries⟩,prepare_eq_ok.mpr ⟨hexisting,hrules,hentries⟩⟩

theorem prepare_eq_error {fault : Fault} (h : prepare html css = .error fault) :
    fault.Foreseen := by
  rcases bind_eq_error.mp h with h | ⟨_,-,h⟩
  · obtain ⟨e,he,rfl⟩ := mapError_eq_error.mp h
    have hforeseen := Markup.classNames_eq_error he
    cases e with
    | rejected r => trivial
    | numeral e => exact hforeseen
  rcases bind_eq_error.mp h with h | ⟨_,-,h⟩
  · obtain ⟨e,he,rfl⟩ := mapError_eq_error.mp h
    exact Css.read_eq_error he
  rcases bind_eq_error.mp h with h | ⟨_,-,h⟩
  · obtain ⟨e,he,rfl⟩ := mapError_eq_error.mp h
    obtain ⟨r,-,hr⟩ := mapM_eq_error he
    exact Rule.candidates_eq_error (map_eq_error.mp hr)
  · cases h

/-- Once prepared, an extraction gives a bundle. -/
theorem extract_returns (hc : compiler.Answers) :
    (∃ b, (extract html css compiler).outcome = .ok b) ↔ ∃ p, prepare html css = .ok p := by
  refine ⟨fun ⟨b,hb⟩ => prepare_of_extract hb,fun ⟨p,hp⟩ => ?_⟩
  obtain ⟨candidates,-,hextract⟩ := extract_of_prepared compiler hp
  rw [hextract]
  rcases hc (syntheticStylesheet p.rules) [html] with ⟨out,hout⟩ | ⟨e,he⟩
  · rw [hout]
    exact ⟨_,rfl⟩
  · rw [he]
    exact ⟨_,rfl⟩

theorem extract_eq_error {fault : Fault} (hc : compiler.Answers)
    (h : (extract html css compiler).outcome = .error fault) : fault.Foreseen := by
  cases hp : prepare html css with
  | error f =>
    rw [extract_prepare,hp] at h
    cases h
    exact prepare_eq_error hp
  | ok p =>
    obtain ⟨b,hb⟩ := (extract_returns hc).mpr ⟨p,hp⟩
    cases h.symm.trans hb

/-- The styles are read, the candidates of a rule are found, a verification ends in nothing but the
compiler's error, and an extraction gives a bundle, each just if there is no numeral with too many
digits among those that the stage reads, and for the last no rejected construct in the document. -/
theorem extraction_returns (hc : compiler.Answers) (html css : Text) :
    ((∃ rules, Css.Reads css rules) ↔
      ∀ l ∈ Css.lexed css, l.digitCount ≤ Numeral.digitLimit) ∧
    (∀ r : Rule, (∃ found, r.candidates = .ok found) ↔ ∀ length ∈ r.measured, ¬ Overlong length) ∧
    (∀ rules, (∃ fault, (verify html rules compiler).outcome = .error fault ∧
        ∀ e, fault ≠ .compiler e) ↔
      (∃ out, (compiler.compile (syntheticStylesheet rules) [html]).outcome = .ok out) ∧
        ∃ r ∈ rules, ∃ length ∈ r.measured, Overlong length) ∧
    ((∃ b, (extract html css compiler).outcome = .ok b) ↔
      (∀ t, Markup.Visits html t → ¬ Markup.Faulty t) ∧
        ∃ rules, Css.Reads css rules ∧ ∀ r ∈ rules, ∀ length ∈ r.measured, ¬ Overlong length) ∧
    ∀ fault, (extract html css compiler).outcome = .error fault → fault.Foreseen := by
  refine ⟨Css.reads_returns,fun r => Rule.candidates_returns,fun rules => ?_,?_,
    fun fault => extract_eq_error hc⟩
  · rw [verify_fault hc]
    simp only [Rule.Measurable,not_forall,not_not,exists_prop]
  · rw [extract_returns hc,prepare_returns]
    rfl

/-- A margin of as many pixels as are measured: the styles are read and the bundle is there. -/
theorem extraction_returns_margin : ∃ b, (extract "" ".a{margin-top:4px}"
    ⟨fun _ _ => throw (.compiler ⟨"gone",none,"",none⟩)⟩).outcome = .ok b := by
  have hanswers : Compiler.Answers ⟨fun _ _ => throw (.compiler ⟨"gone",none,"",none⟩)⟩ :=
    fun _ _ => .inr ⟨_,rfl⟩
  refine (extraction_returns hanswers "" ".a{margin-top:4px}").2.2.2.1.mpr ⟨?_,?_⟩
  · rw [← Markup.classNames_returns]
    exact ⟨[],by cbv⟩
  · refine ⟨[⟨".a",[⟨"margin-top","4px",false⟩]⟩],⟨⟨[⟨".a",[⟨"margin-top","4px",false⟩]⟩],[]⟩,
      by cbv,rfl⟩,?_⟩
    intro r hr
    rw [List.mem_singleton.mp hr]
    exact Rule.candidates_returns.mp ⟨[⟨⟨"margin-top","4px",false⟩,["mt-1"],false⟩],by cbv⟩

section Overlong
variable {digits : Text} (hd : ∀ c ∈ digits, c.isAsciiDigit = true)
  (hlong : Numeral.digitLimit < digits.length)
include hd hlong

theorem overlong_pixels : Overlong (digits ++ ("px" : Text)) := by
  refine ⟨_,hlong,[],[],digits,"px",[],by simp,by simp,.inl rfl,
    fun c hc => ?_,rfl,by decide,by simp⟩
  exact CodePoint.isDigit_of_isAsciiDigit (hd c hc)

theorem not_measurable_margin :
    ¬ Rule.Measurable ⟨".a",[⟨"margin-top",digits ++ ("px" : Text),false⟩]⟩ :=
  fun h => h _ (List.mem_singleton_self _) (overlong_pixels hd hlong)

theorem not_reads_overlong : ¬ ∃ rules, Css.Reads (digits ++ ("px" : Text)) rules := by
  have hmark : ∀ c, c.isAsciiDigit = false → ∀ d ∈ digits, d ≠ c := by
    rintro c hc d h rfl
    exact absurd (hc.symm.trans (hd d h)) (by decide)
  have hunit : ∀ c ∈ ("px" : Text), Css.isSettled c = true := by decide
  have hsettled : ∀ c ∈ digits ++ ("px" : Text), Css.isSettled c = true := by
    intro c hc
    rcases List.mem_append.mp hc with hc | hc
    · simp [Css.isSettled,hmark (.char '\x00') rfl c hc,hmark (.char '\r') rfl c hc,
        hmark (.char '\x0c') rfl c hc]
    · exact hunit c hc
  have hpre := Css.preprocess_settled_append hsettled []
  rw [List.append_nil] at hpre
  have hkinds : Css.kinds (digits ++ ("px" : Text) ++ Css.preprocess []) =
      [.leaf (.dimension digits "px")] := by
    have hpixels := Css.kinds_pixels false (List.ne_nil_of_length_pos (by omega)) hd
      (show Css.stopsName [] = true from rfl)
    rw [Css.kinds_nil] at hpixels
    rw [show Css.preprocess [] = [] by simp [Css.preprocess],List.append_nil]
    exact hpixels
  have hcount : (Css.Lexeme.leaf (.dimension digits "px")).digitCount = digits.length := by
    obtain ⟨d,ds,rfl⟩ := List.exists_cons_of_length_pos (Nat.zero_lt_of_lt hlong)
    have hsign := Css.takeSign_signOf false (hd d List.mem_cons_self) ds
    rw [Css.Lexeme.digitCount,Css.Leaf.digitCount,Css.integerDigits?]
    change ((let digits := (Css.takeSign (Css.signOf false ++ d :: ds)).2
      if digits.all CodePoint.isAsciiDigit then some digits.length
      else none : Option Nat)).getD 0 = _
    rw [hsign,if_pos (List.all_eq_true.mpr hd)]
    rfl
  rw [Css.reads_returns,Css.lexed,hpre,hkinds]
  intro h
  have := h _ List.mem_cons_self
  omega

end Overlong

/-- A document with an unknown marked section has no bundle, a sheet with an overlong number is not
read, and a margin of overlong pixels has no candidates and is not verified. -/
theorem stages_fail :
    (¬ ∃ b, (extract "<![x>" "" ⟨fun _ _ => pure ""⟩).outcome = .ok b) ∧
    (¬ ∃ rules, Css.Reads (List.replicate 4301 (.char '1') ++ ("px" : Text)) rules) ∧
    (¬ ∃ found, Rule.candidates
      ⟨".a",[⟨"margin-top",List.replicate 4301 (.char '1') ++ ("px" : Text),false⟩]⟩ = .ok found) ∧
    ∃ fault, (verify ""
      [⟨".a",[⟨"margin-top",List.replicate 4301 (.char '1') ++ ("px" : Text),false⟩]⟩]
      ⟨fun _ _ => pure ""⟩).outcome = .error fault ∧ ∀ e, fault ≠ .compiler e := by
  have hanswers : Compiler.Answers ⟨fun _ _ => pure ""⟩ := fun _ _ => .inl ⟨_,rfl⟩
  have hd : ∀ c ∈ List.replicate 4301 (.char '1' : CodePoint), c.isAsciiDigit = true := by
    intro c hc
    rw [List.eq_of_mem_replicate hc]
    rfl
  have hlong : Numeral.digitLimit < (List.replicate 4301 (.char '1' : CodePoint)).length := by
    rw [List.length_replicate,Numeral.digitLimit]
    omega
  have hrule := not_measurable_margin hd hlong
  refine ⟨?_,not_reads_overlong hd hlong,fun h => hrule (Rule.candidates_returns.mp h),
    (verify_fault hanswers).mpr ⟨⟨_,rfl⟩,_,List.mem_singleton_self _,hrule⟩⟩
  rw [extract_returns hanswers,prepare_returns]
  rintro ⟨h,-⟩
  have hsection : Markup.UnknownSection ("x>" : Text) :=
    @Markup.UnknownSection.unknown (.char 'x') (.char '>') [] [] [] rfl (by simp) (by simp) rfl
      (by simp; rfl) (by decide) (by decide)
  exact h _ (.inl .refl) (.markedSection hsection)

end StyleLift
