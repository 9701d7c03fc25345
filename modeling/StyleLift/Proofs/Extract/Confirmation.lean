import Mathlib.Computability.Primrec.List
import Mathlib.Data.List.Permutation
import StyleLift.Proofs.Extract.Stages
import StyleLift.Proofs.Text.Order

/-! # What a completed extraction confirms

Candidates are found twice, once for the entries and once for the verification, and are then marked
again by what the compiled text holds. All three agree: the confirmed classes are the candidate
classes that the compiled text has a selector for, and every candidate is marked by its own.
-/
namespace StyleLift

/-! ## Candidates, found and marked -/

/-- A candidate as it was before any verification. -/
def Candidate.unconfirmed (c : Candidate) : Candidate := { c with confirmed := false }

@[simp] theorem Candidate.classes_confirm (c : Candidate) (seen : List Text) :
    (c.confirm seen).classes = c.classes := rfl

@[simp] theorem Candidate.unconfirmed_confirm (c : Candidate) (seen : List Text) :
    (c.confirm seen).unconfirmed = c.unconfirmed := rfl

theorem Candidate.confirmed_confirm (c : Candidate) (seen : List Text) :
    (c.confirm seen).confirmed = true ↔ ∃ k ∈ c.classes, k ∈ seen := by
  simp [confirm]

theorem Candidate.unconfirmed_ofDeclaration {d : Declaration} {c : Candidate}
    (h : ofDeclaration d = .ok c) : c.unconfirmed = c := by
  obtain ⟨classes,_,rfl⟩ := map_eq_ok.mp h
  rfl

theorem Rule.map_unconfirmed {r : Rule} {found : List Candidate} (h : r.candidates = .ok found) :
    found.map Candidate.unconfirmed = found := by
  have hf := mapM_eq_ok.mp h
  clear h
  generalize r.effectiveDeclarations = declarations at hf
  induction hf with
  | nil => rfl
  | cons hc _ ih => rw [List.map_cons,Candidate.unconfirmed_ofDeclaration hc,ih]

theorem Entry.ofRule_eq_ok {r : Rule} {e : Entry} :
    Entry.ofRule r = .ok e ↔ e.rule = r ∧ r.candidates = .ok e.candidates := by
  rw [Entry.ofRule,map_eq_ok]
  constructor
  · rintro ⟨found,hf,rfl⟩
    exact ⟨rfl,hf⟩
  · rintro ⟨rfl,hf⟩
    exact ⟨e.candidates,hf,rfl⟩

@[simp] theorem Entry.classes_confirm (e : Entry) (seen : List Text) :
    (e.confirm seen).classes = e.classes := by
  simp [Entry.classes,Entry.confirm,List.flatMap_map]

/-- The entries of some rules, each with the candidates found for its rule. -/
def Entries (rules : List Rule) (entries : List Entry) : Prop :=
  rules.mapM Entry.ofRule = .ok entries

theorem Entries.rules {rules : List Rule} {entries : List Entry} (h : Entries rules entries) :
    entries.map Entry.rule = rules := by
  have hf := mapM_eq_ok.mp h
  clear h
  induction hf with
  | nil => rfl
  | cons he _ ih => rw [List.map_cons,(Entry.ofRule_eq_ok.mp he).1,ih]

theorem Entries.candidates {rules : List Rule} {entries : List Entry} (h : Entries rules entries)
    {e : Entry} (he : e ∈ entries) : e.rule.candidates = .ok e.candidates := by
  have hf := mapM_eq_ok.mp h
  clear h
  induction hf with
  | nil => cases he
  | cons hr _ ih =>
    obtain ⟨hrule,hc⟩ := Entry.ofRule_eq_ok.mp hr
    rcases List.mem_cons.mp he with rfl | he
    · rw [hrule,hc]
    · exact ih he

theorem Entries.suggestedClasses {rules : List Rule} {entries : List Entry}
    (h : Entries rules entries) {e : Entry} (he : e ∈ entries) :
    e.rule.suggestedClasses = .ok e.classes := by
  rw [Rule.suggestedClasses,h.candidates he]
  rfl

/-- A class is among the candidates of a rule. -/
def Rule.Suggests (r : Rule) (k : Text) : Prop :=
  ∃ classes, r.suggestedClasses = .ok classes ∧ k ∈ classes

/-- The classes that are looked for are those of all rules. -/
theorem mem_candidateClasses {rules : List Rule} {found : List Text} {k : Text}
    (h : candidateClasses rules = .ok found) : k ∈ found ↔ ∃ r ∈ rules, r.Suggests k := by
  obtain ⟨suggested,hsuggested,heq⟩ := bind_eq_ok.mp h
  obtain rfl := Except.ok.inj heq
  rw [List.mem_eraseDups]
  have hall := mapM_eq_ok.mp hsuggested
  clear h hsuggested heq
  induction hall with
  | nil => simp
  | cons hr _ ih => simp [ih,Rule.Suggests,hr]

/-- The verification looks for the classes that the entries hold. -/
theorem Entries.mem_candidateClasses {rules : List Rule} {entries : List Entry}
    (h : Entries rules entries) {candidates : List Text}
    (hc : candidateClasses rules = .ok candidates) (k : Text) :
    k ∈ candidates ↔ k ∈ entries.flatMap Entry.classes := by
  rw [StyleLift.mem_candidateClasses hc,← h.rules,List.mem_flatMap]
  simp only [List.mem_map,exists_exists_and_eq_and]
  refine exists_congr fun e => and_congr_right fun he => ?_
  simp [Rule.Suggests,h.suggestedClasses he]

/-! ## Groups -/

theorem mem_addToGroup {key k : Text} {items : List Text} {groups : Groups} :
    (∃ g ∈ addToGroup key items groups, k ∈ g.2) ↔ k ∈ items ∨ ∃ g ∈ groups, k ∈ g.2 := by
  induction groups with
  | nil => simp [addToGroup]
  | cons g rest ih =>
    obtain ⟨name,found⟩ := g
    simp only [addToGroup]
    split
    · simp only [List.mem_cons,exists_eq_or_imp,List.mem_append]
      tauto
    · simp only [List.mem_cons,exists_eq_or_imp,ih]
      tauto

/-- Grouping keeps every item of every entry. -/
theorem Bundle.mem_group {itemsOf : Entry → List Text} {entries : List Entry} {k : Text} :
    (∃ g ∈ Bundle.group itemsOf entries, k ∈ g.2) ↔ k ∈ entries.flatMap itemsOf := by
  have hfold : ∀ groups : Groups,
      (∃ g ∈ entries.foldl (fun gs e => addToGroup e.rule.selector (itemsOf e) gs) groups,
        k ∈ g.2) ↔
        (∃ g ∈ groups, k ∈ g.2) ∨ k ∈ entries.flatMap itemsOf := by
    induction entries with
    | nil => simp
    | cons e rest ih =>
      intro groups
      rw [List.foldl_cons,ih,mem_addToGroup,List.flatMap_cons,List.mem_append,or_assoc,or_left_comm]
  simpa [Bundle.group] using hfold []

/-! ## Completed bundles -/

namespace Bundle
variable {rules : List Rule} {entries : List Entry} {existing : List Text} {v : Verification}

theorem map_rule_confirmed (h : Entries rules entries) :
    (confirmed existing entries v).entries.map Entry.rule = rules := by
  rw [confirmed,List.map_map]
  exact h.rules

theorem candidates_confirmed (h : Entries rules entries) {e : Entry}
    (he : e ∈ (confirmed existing entries v).entries) :
    e.rule.candidates = .ok (e.candidates.map Candidate.unconfirmed) := by
  obtain ⟨fresh,hfresh,rfl⟩ := List.mem_map.mp he
  have hc := h.candidates hfresh
  simp only [Entry.confirm,List.map_map]
  rw [hc]
  exact congrArg Except.ok (Rule.map_unconfirmed hc).symm

theorem flatMap_classes_confirmed :
    (confirmed existing entries v).entries.flatMap Entry.classes =
      entries.flatMap Entry.classes := by
  simp [confirmed,List.flatMap_map]

theorem mem_confirmed {css : Text} {candidates : List Text} (h : Entries rules entries)
    (hc : StyleLift.candidateClasses rules = .ok candidates) (k : Text) :
    k ∈ (Verification.of css candidates).confirmed ↔ k ∈ ClassSelector.names css ∧
      k ∈ (confirmed existing entries (.of css candidates)).candidateClasses := by
  rw [candidateClasses,List.mem_eraseDups,flatMap_classes_confirmed,← h.mem_candidateClasses hc]
  simp [Verification.of]

/-- A mark says whether a class of the candidate was confirmed. -/
theorem marked_confirmed {e : Entry} (he : e ∈ (confirmed existing entries v).entries)
    {c : Candidate} (hc : c ∈ e.candidates) :
    c.confirmed = true ↔ ∃ k ∈ c.classes, k ∈ v.confirmed := by
  obtain ⟨fresh,_,rfl⟩ := List.mem_map.mp he
  obtain ⟨c,_,rfl⟩ := List.mem_map.mp hc
  exact c.confirmed_confirm v.confirmed

end Bundle

/-- A compiler that gives the same text for every sheet and all documents. -/
def Compiler.Returns (c : Compiler) (out : Text) : Prop :=
  ∀ stylesheet documents, (c.compile stylesheet documents).outcome = .ok out

/-- With a compiler that gives a text, an extraction ends in no bundle but a confirmed one. -/
theorem extract_eq_ok {html css out : Text} {compiler : Compiler} {b : Bundle}
    (hr : compiler.Returns out) (hb : (extract html css compiler).outcome = .ok b) :
    ∃ existing sheet entries candidates, Css.read css = .ok sheet ∧ Entries sheet.rules entries ∧
      candidateClasses sheet.rules = .ok candidates ∧
      b = .confirmed existing entries (.of out candidates) := by
  rw [extract_outcome,bind_eq_ok] at hb
  obtain ⟨existing,_,hb⟩ := hb
  obtain ⟨rules,hrules,hb⟩ := bind_eq_ok.mp hb
  obtain ⟨entries,he,hb⟩ := bind_eq_ok.mp hb
  rw [readRules_outcome] at hrules
  obtain ⟨sheet,hs,rfl⟩ := map_eq_ok.mp hrules
  rw [verify_outcome,hr] at hb
  cases hc : candidateClasses sheet.rules with
  | error e =>
    rw [hc] at hb
    cases hb
  | ok candidates =>
    rw [hc] at hb
    cases hb
    exact ⟨existing,sheet,entries,candidates,mapError_eq_ok.mp hs,mapError_eq_ok.mp he,hc,rfl⟩

/-- Whatever text is compiled, a completed extraction confirms just the candidate classes that the
text has selectors for, marks its candidates by them, and lists them in ascending order. -/
theorem extract_confirms {html css out : Text} {compiler : Compiler} {b : Bundle}
    (hr : compiler.Returns out) (hb : (extract html css compiler).outcome = .ok b) :
    b.error = none ∧
    (∃ sheet, Css.read css = .ok sheet ∧ b.entries.map Entry.rule = sheet.rules) ∧
    (∀ e ∈ b.entries, e.rule.candidates = .ok (e.candidates.map Candidate.unconfirmed)) ∧
    ∃ confirmed, b.confirmedClasses = some confirmed ∧ confirmed.Nodup ∧
      (∀ k, k ∈ confirmed ↔ k ∈ ClassSelector.names out ∧ k ∈ b.candidateClasses) ∧
      (∀ e ∈ b.entries, ∀ c ∈ e.candidates,
        (c.confirmed = true ↔ ∃ k ∈ c.classes, k ∈ confirmed) ∧
        (c.confirmed = true ↔ ∃ k ∈ c.classes, k ∈ ClassSelector.names out)) ∧
      ∃ extracted suggestions,
        Json.member? "extractedClasses" b.toMembers = some (Json.texts extracted) ∧
        Json.member? "tailwindSuggestions" b.toMembers = some (Json.groups suggestions) ∧
        (∀ k, k ∈ extracted ↔ k ∈ confirmed) ∧
        extracted.Pairwise Text.Before ∧
        ∀ k ∈ extracted, ∃ g ∈ suggestions, k ∈ g.2 := by
  obtain ⟨existing,sheet,entries,candidates,hs,he,hc,rfl⟩ := extract_eq_ok hr hb
  have hmem : ∀ k, k ∈ (Verification.of out candidates).confirmed ↔ k ∈ ClassSelector.names out ∧
      k ∈ (Bundle.confirmed existing entries (.of out candidates)).candidateClasses :=
    fun k => Bundle.mem_confirmed he hc k
  have hnodup : (Verification.of out candidates).confirmed.Nodup :=
    (nodup_eraseDups _).filter _
  refine ⟨rfl,⟨sheet,hs,Bundle.map_rule_confirmed he⟩,fun e => Bundle.candidates_confirmed he,
    _,rfl,hnodup,hmem,?_,_,_,rfl,rfl,fun k => Text.mem_sorted,Text.sorted_ascending hnodup,?_⟩
  · intro e hentry c hcand
    have hmark := Bundle.marked_confirmed hentry hcand
    refine ⟨hmark,hmark.trans ⟨?_,?_⟩⟩
    · rintro ⟨k,hk,hconf⟩
      exact ⟨k,hk,((hmem k).mp hconf).1⟩
    · rintro ⟨k,hk,hname⟩
      refine ⟨k,hk,(hmem k).mpr ⟨hname,?_⟩⟩
      rw [Bundle.candidateClasses,List.mem_eraseDups]
      exact List.mem_flatMap.mpr ⟨e,hentry,List.mem_flatMap.mpr ⟨c,hcand,hk⟩⟩
  · intro k hk
    have hcand := ((hmem k).mp (Text.mem_sorted.mp hk)).2
    rw [Bundle.candidateClasses,List.mem_eraseDups] at hcand
    exact Bundle.mem_group.mpr hcand

/-- One candidate class is in the compiled text, the other is not. -/
theorem extract_confirms_flex :
    ∃ b : Bundle, (extract "" ".a\x7bdisplay:flex;top:0\x7d"
        ⟨fun _ _ => pure ".flex\x7b\x7d .box\x7b\x7d"⟩).outcome = .ok b ∧
      b.confirmedClasses = some [("flex" : Text)] ∧
      b.candidateClasses = ([("flex" : Text),("top-[0]" : Text)]) ∧
      ∃ confirmed, b.confirmedClasses = some confirmed ∧
        ∀ k, k ∈ confirmed ↔
          k ∈ ClassSelector.names ".flex\x7b\x7d .box\x7b\x7d" ∧ k ∈ b.candidateClasses := by
  have hb : (extract "" ".a\x7bdisplay:flex;top:0\x7d"
      ⟨fun _ _ => pure ".flex\x7b\x7d .box\x7b\x7d"⟩).outcome = .ok (.confirmed []
        [⟨⟨".a",[⟨"display","flex",false⟩,⟨"top","0",false⟩]⟩,
          [⟨⟨"display","flex",false⟩,["flex"],false⟩,⟨⟨"top","0",false⟩,["top-[0]"],false⟩]⟩]
        ⟨["flex","box"],["flex"]⟩) := by cbv
  obtain ⟨_,_,_,confirmed,hc,_,hmem,_⟩ := extract_confirms (fun _ _ => rfl) hb
  exact ⟨_,hb,rfl,by decide,confirmed,hc,hmem⟩

end StyleLift