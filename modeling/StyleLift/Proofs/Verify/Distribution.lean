import Mathlib.Data.Finset.Basic
import StyleLift.Proofs.Extract.Totality
import StyleLift.Proofs.Text.Joining
import StyleLift.Proofs.Text.Repetitions
import StyleLift.Proofs.Verify.Scanning

/-! # Confirmation by parts

A class is confirmed if one of the rules has a candidate for it and one of the lines of the compiled
text has a selector for it. So rules and lines may be verified apart and in any order, and more of
them take no confirmed class back.
-/
namespace StyleLift

namespace ClassSelector

/-- The names in two lines are those in the one, and then those in the other that are new. -/
theorem names_newline (s t : Text) :
    names (s ++ .char '\n' :: t) = (names s ++ names t).eraseDups := by
  simp only [names,scan_newline,List.filter_append,eraseDups_append_eraseDups]

theorem mem_names_lines {lines : List Text} {k : Text} :
    k ∈ names (Text.joinWith [.char '\n'] lines) ↔ ∃ line ∈ lines, k ∈ names line := by
  induction lines with
  | nil => simp [Text.joinWith,List.intercalate,names,scan]
  | cons line lines ih =>
    cases lines with
    | nil => simp [Text.joinWith_singleton]
    | cons next lines =>
      rw [Text.joinWith_cons_cons,List.singleton_append,names_newline]
      simp only [List.mem_eraseDups,List.mem_append,ih,List.exists_mem_cons_iff]

end ClassSelector

open ClassSelector

variable {rules others : List Rule} {out : Text} {k : Text}

/-! ## Candidates of two lists of rules -/

theorem candidateClasses_append (rules others : List Rule) :
    candidateClasses (rules ++ others) = do
      let found ← candidateClasses rules
      let more ← candidateClasses others
      return (found ++ more).eraseDups := by
  simp only [candidateClasses,List.mapM_append]
  cases rules.mapM Rule.suggestedClasses with
  | error e => rfl
  | ok found =>
    cases others.mapM Rule.suggestedClasses with
    | error e => rfl
    | ok more =>
      refine congrArg Except.ok ?_
      rw [List.flatten_append,eraseDups_append_eraseDups]

/-! ## Confirmed classes -/

/-- The classes that are confirmed for some rules by a compiled text. -/
def confirmedBy (rules : List Rule) (out : Text) : Except Fault (Finset Text) :=
  (verify [] rules ⟨fun _ _ => pure out⟩).outcome.map fun v => v.confirmed.toFinset

/-- Neither the document nor what else a compiler does makes a difference. -/
theorem verify_confirmed {compiler : Compiler} (h : compiler.Returns out) (html : Text)
    (rules : List Rule) : (verify html rules compiler).outcome.map
      (fun v => v.confirmed.toFinset) = confirmedBy rules out := by
  rw [confirmedBy,verify_outcome,verify_outcome,h]
  rfl

theorem confirmedBy_eq (rules : List Rule) (out : Text) : confirmedBy rules out =
    ((candidateClasses rules).mapError Fault.numeral).map fun found =>
      (names out).toFinset ∩ found.toFinset := by
  have hinter : ∀ found : List Text,
      ((names out).filter found.contains).toFinset = (names out).toFinset ∩ found.toFinset := by
    intro found
    ext k
    simp
  rw [confirmedBy,verify_outcome]
  cases h : candidateClasses rules with
  | error e => rfl
  | ok found => exact congrArg Except.ok (hinter found)

theorem confirmedBy_eq_ok {A : Finset Text} : confirmedBy rules out = .ok A ↔
    (∀ r ∈ rules, r.Measurable) ∧ ∀ k, k ∈ A ↔ k ∈ names out ∧ ∃ r ∈ rules, r.Suggests k := by
  rw [confirmedBy_eq,← candidateClasses_returns]
  cases h : candidateClasses rules with
  | error e => simp [Except.mapError,Except.map]
  | ok found =>
    simp only [Except.mapError,Except.map,Except.ok.injEq,exists_eq',true_and,
      ← mem_candidateClasses h]
    rw [eq_comm,Finset.ext_iff]
    simp

theorem confirmedBy_append (rules others : List Rule) (out : Text) :
    confirmedBy (rules ++ others) out = do
      return (← confirmedBy rules out) ∪ (← confirmedBy others out) := by
  simp only [confirmedBy_eq,candidateClasses_append]
  cases candidateClasses rules with
  | error e => rfl
  | ok found =>
    cases candidateClasses others with
    | error e => rfl
    | ok more =>
      refine congrArg Except.ok ?_
      ext k
      simp [and_or_left]

theorem confirmedBy_newline (rules : List Rule) (out more : Text) :
    confirmedBy rules (out ++ .char '\n' :: more) = do
      return (← confirmedBy rules out) ∪ (← confirmedBy rules more) := by
  simp only [confirmedBy_eq,names_newline]
  cases candidateClasses rules with
  | error e => rfl
  | ok found =>
    refine congrArg Except.ok ?_
    ext k
    simp [or_and_right]

/-- Rules that are all among others have no class confirmed that those have not. -/
theorem confirmedBy_subset {A B : Finset Text} (h : rules ⊆ others)
    (hA : confirmedBy rules out = .ok A) (hB : confirmedBy others out = .ok B) : A ⊆ B := by
  obtain ⟨-,hmemA⟩ := confirmedBy_eq_ok.mp hA
  obtain ⟨-,hmemB⟩ := confirmedBy_eq_ok.mp hB
  intro k hk
  obtain ⟨hname,r,hr,hsuggests⟩ := (hmemA k).mp hk
  exact (hmemB k).mpr ⟨hname,r,h hr,hsuggests⟩

theorem confirmedBy_lines {lines longer : List Text} {A B : Finset Text} (h : lines ⊆ longer)
    (hA : confirmedBy rules (Text.joinWith [.char '\n'] lines) = .ok A)
    (hB : confirmedBy rules (Text.joinWith [.char '\n'] longer) = .ok B) : A ⊆ B := by
  obtain ⟨-,hmemA⟩ := confirmedBy_eq_ok.mp hA
  obtain ⟨-,hmemB⟩ := confirmedBy_eq_ok.mp hB
  intro k hk
  obtain ⟨hname,hsuggests⟩ := (hmemA k).mp hk
  obtain ⟨line,hline,hk⟩ := mem_names_lines.mp hname
  exact (hmemB k).mpr ⟨mem_names_lines.mpr ⟨line,h hline,hk⟩,hsuggests⟩

theorem confirmedBy_perm {A : Finset Text} (h : rules.Perm others) :
    confirmedBy rules out = .ok A ↔ confirmedBy others out = .ok A := by
  simp only [confirmedBy_eq_ok,h.mem_iff]

theorem confirmedBy_returns :
    (∃ A, confirmedBy rules out = .ok A) ↔ ∀ r ∈ rules, ∃ found, r.candidates = .ok found := by
  simp only [Rule.candidates_returns,← candidateClasses_returns,confirmedBy_eq,map_returns]
  cases candidateClasses rules <;> simp [Except.mapError]

/-- Classes are confirmed rule by rule and line by line, and a rule whose candidates are not found
fails the whole. More rules or more lines take nothing back, and the order of rules is of no
account. -/
theorem confirmation_distributes (rules others : List Rule) (out more : Text) :
    (∀ html compiler, compiler.Returns out →
      (verify html rules compiler).outcome.map (fun v => v.confirmed.toFinset) =
        confirmedBy rules out) ∧
    ((∃ A, confirmedBy rules out = .ok A) ↔ ∀ r ∈ rules, ∃ found, r.candidates = .ok found) ∧
    (confirmedBy (rules ++ others) out = do
      return (← confirmedBy rules out) ∪ (← confirmedBy others out)) ∧
    (confirmedBy rules (out ++ .char '\n' :: more) = do
      return (← confirmedBy rules out) ∪ (← confirmedBy rules more)) ∧
    names (out ++ .char '\n' :: more) = (names out ++ names more).eraseDups ∧
    (∀ A B, rules ⊆ others → confirmedBy rules out = .ok A → confirmedBy others out = .ok B →
      A ⊆ B) ∧
    (∀ lines longer A B, lines ⊆ longer →
      confirmedBy rules (Text.joinWith [.char '\n'] lines) = .ok A →
      confirmedBy rules (Text.joinWith [.char '\n'] longer) = .ok B → A ⊆ B) ∧
    (rules.Perm others → ∀ A, confirmedBy rules out = .ok A ↔ confirmedBy others out = .ok A) := by
  refine ⟨?_,confirmedBy_returns,confirmedBy_append rules others out,
    confirmedBy_newline rules out more,names_newline out more,?_,?_,?_⟩
  · intro html compiler h
    exact verify_confirmed h html rules
  · intro A B
    exact confirmedBy_subset
  · intro lines longer A B
    exact confirmedBy_lines
  · intro h A
    exact confirmedBy_perm h

/-- Two rules, and a line of compiled text for the candidate of each. -/
def flexRule : Rule := ⟨".a",[⟨"display","flex",false⟩]⟩
def topRule : Rule := ⟨".b",[⟨"top","0",false⟩]⟩
def flexLine : Text := ".flex\x7b\x7d"
def topLine : Text := ".top-\\[0\\]\x7b\x7d"

def bothLines : Text := Text.joinWith [.char '\n'] [topLine,flexLine]

theorem confirmedBy_of_names {found listed : List Text} (hnames : names out = listed)
    (hfound : candidateClasses rules = .ok found) :
    confirmedBy rules out = .ok (listed.toFinset ∩ found.toFinset) := by
  rw [confirmedBy_eq,hnames,hfound]
  rfl

/-- The other rule and the other line confirm a class of their own, and leave the first one. -/
theorem confirmation_distributes_flex :
    (verify "" [flexRule] ⟨fun _ _ => pure bothLines⟩).outcome.map
      (fun v => v.confirmed.toFinset) = .ok {("flex" : Text)} ∧
    ∃ B, confirmedBy [topRule,flexRule] bothLines = .ok B ∧ ("top-[0]" : Text) ∈ B ∧
      {("flex" : Text)} ⊆ B ∧
      (∀ A, confirmedBy [topRule,flexRule] flexLine = .ok A → A ⊆ B) ∧
      confirmedBy [flexRule,topRule] bothLines = .ok B := by
  have hnames : names bothLines = [("top-[0]" : Text),("flex" : Text)] := by cbv
  have hone : candidateClasses [flexRule] = .ok [("flex" : Text)] := by decide
  have htwo : candidateClasses [topRule,flexRule] = .ok [("top-[0]" : Text),("flex" : Text)] := by
    decide
  have hA : confirmedBy [flexRule] bothLines = .ok {("flex" : Text)} :=
    (confirmedBy_of_names hnames hone).trans (congrArg Except.ok (by decide))
  have hB := confirmedBy_of_names hnames htwo
  obtain ⟨hverify,-,-,-,-,hrules,-⟩ :=
    confirmation_distributes [flexRule] [topRule,flexRule] bothLines []
  obtain ⟨-,-,-,-,-,-,hlonger,hperm⟩ :=
    confirmation_distributes [topRule,flexRule] [flexRule,topRule] bothLines []
  refine ⟨(hverify "" _ fun _ _ => rfl).trans hA,_,hB,by decide,hrules _ _ (by simp) hA hB,?_,?_⟩
  · intro A hflex
    exact hlonger [flexLine] _ A _ (by simp) (by rwa [Text.joinWith_singleton]) hB
  · exact (hperm (List.Perm.swap _ _ _) _).mp hB

end StyleLift
