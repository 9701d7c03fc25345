import StyleLift.Proofs.Css.Collapsing
import StyleLift.Proofs.Utility.SameClasses

/-! # The candidates of a rule

A rule has one candidate for every property, found for the declaration of it that collapsing keeps.
A candidate has one class, or one for every component of a box shorthand, and no class is empty.
-/
namespace StyleLift
open Shorthand

/-! ## Classes -/

theorem Named.ne_nil {c : Text} (h : Named c) : c ≠ [] := by
  have htokens : ∀ token ∈ scaleTokens, token ≠ [] := by decide
  obtain ⟨token,htoken,rfl | ⟨stem,rfl⟩⟩ := h
  · exact htokens c htoken
  · simp

theorem Bracketed.ne_nil {c : Text} (h : Bracketed c) : c ≠ [] := by
  obtain ⟨stem,value,rfl⟩ := h
  simp [arbitraryClass]

section Classes
variable {property value c : Text} {cs : List Text}

theorem length_partsOf (stem value : Text) : (partsOf stem value).length ∈ [1,2,4] := by
  by_cases h : Positional value
  · rw [h.length_partsOf]
    exact h
  · simp [partsOf_other h]

theorem Utility.length_classes (utility : Utility) (property value : Text) :
    (utility.classes property value).length ∈ [1,2,4] := by
  cases utility with
  | box stem => simpa [classes] using length_partsOf stem value
  | _ => simp [classes]

/-- Only the box shorthands have components. -/
theorem mem_boxes {stem : Text} (h : utilityOf property = .box stem) :
    property ∈ (["margin","padding"] : List Text) := by
  cases hlookup : utilities.lookup property with
  | none => simp [utilityOf,hlookup] at h
  | some utility =>
    obtain rfl : utility = .box stem := by simpa [utilityOf,hlookup] using h
    obtain ⟨before,after,hutilities,-⟩ := List.lookup_eq_some_iff.mp hlookup
    have hmem : (property,Utility.box stem) ∈ utilities := by simp [hutilities]
    simp only [utilities,List.mem_cons,Prod.mk.injEq,Utility.box.injEq,reduceCtorEq,and_false,
      List.not_mem_nil,or_false,false_or] at hmem
    rcases hmem with ⟨rfl,-⟩ | ⟨rfl,-⟩ <;> simp

theorem ne_nil_of_mem_classesOf (h : classesOf property value = .ok cs) (hc : c ∈ cs) : c ≠ [] := by
  rw [classesOf_eq_ok h] at hc
  by_cases hnamed : Named c
  · exact hnamed.ne_nil
  · have hbracketed : Bracketed c := by
      by_contra hnot
      exact hnamed ((classes_named_iff _ hc).mpr hnot)
    exact hbracketed.ne_nil

theorem length_classesOf (h : classesOf property value = .ok cs) : cs.length ∈ [1,2,4] := by
  rw [classesOf_eq_ok h]
  exact Utility.length_classes _ property value

theorem mem_boxes_of_several (h : classesOf property value = .ok cs) (hseveral : 1 < cs.length) :
    property ∈ (["margin","padding"] : List Text) := by
  rw [classesOf_eq_ok h] at hseveral
  cases hutility : utilityOf property with
  | box stem => exact mem_boxes hutility
  | _ => simp [hutility,Utility.classes] at hseveral

end Classes

/-! ## Candidates -/

theorem Candidate.ofDeclaration_eq_ok {d : Declaration} {c : Candidate} :
    ofDeclaration d = .ok c ↔
      c.declaration = d ∧ classesOf d.property d.value = .ok c.classes ∧ c.confirmed = false := by
  obtain ⟨declaration,classes,confirmed⟩ := c
  rw [ofDeclaration,map_eq_ok]
  constructor
  · rintro ⟨found,hfound,heq⟩
    cases heq
    exact ⟨rfl,hfound,rfl⟩
  · rintro ⟨rfl,hfound,rfl⟩
    exact ⟨classes,hfound,rfl⟩

/-- The candidates of a rule stand for its kept declarations, and each has the classes of its
own. -/
theorem Rule.candidates_eq_ok {r : Rule} {cs : List Candidate} : r.candidates = .ok cs ↔
    cs.map Candidate.declaration = r.effectiveDeclarations ∧ ∀ c ∈ cs,
      classesOf c.declaration.property c.declaration.value = .ok c.classes ∧
      c.confirmed = false := by
  rw [candidates,mapM_eq_ok]
  generalize r.effectiveDeclarations = ds
  constructor
  · intro h
    induction h with
    | nil => simp
    | cons hc _ ih =>
      obtain ⟨rfl,hclasses,hfresh⟩ := Candidate.ofDeclaration_eq_ok.mp hc
      exact ⟨by simp [ih.1],List.forall_mem_cons.mpr ⟨⟨hclasses,hfresh⟩,ih.2⟩⟩
  · rintro ⟨rfl,h⟩
    rw [List.forall₂_map_left_iff,List.forall₂_same]
    intro c hc
    exact Candidate.ofDeclaration_eq_ok.mpr ⟨rfl,h c hc⟩

/-- A rule keeps the last declaration of every property in the order of their first uses, and may be
collapsed early. Its candidates are found for what is kept, and depend on nothing else. -/
theorem one_candidate_per_property (r : Rule) (ds more : List Declaration) :
    r.effectiveDeclarations.map Declaration.property =
      (r.declarations.map Declaration.property).eraseDups ∧
    (∀ d, d ∈ r.effectiveDeclarations ↔ IsLastBy Declaration.property r.declarations d) ∧
    collapse (collapse ds ++ more) = collapse (ds ++ more) ∧
    collapse (collapse ds) = collapse ds ∧
    (∀ cs, r.candidates = .ok cs →
      cs.map Candidate.declaration = r.effectiveDeclarations ∧
      (cs.map fun c => c.declaration.property) =
        (r.declarations.map Declaration.property).eraseDups ∧
      ∀ c ∈ cs, c.confirmed = false ∧
        classesOf c.declaration.property c.declaration.value = .ok c.classes ∧
        c.classes.length ∈ [1,2,4] ∧ (∀ k ∈ c.classes, k ≠ []) ∧
        (1 < c.classes.length → c.declaration.property ∈ (["margin","padding"] : List Text))) ∧
    ∀ other : Rule, other.effectiveDeclarations = r.effectiveDeclarations →
      other.candidates = r.candidates := by
  refine ⟨collapse_properties r.declarations,fun d => mem_collapse,collapse_collapse_append ds more,
    collapse_collapse ds,?_,?_⟩
  · intro cs hcs
    obtain ⟨hkept,hclasses⟩ := Rule.candidates_eq_ok.mp hcs
    have hproperties : (cs.map fun c => c.declaration.property) =
        (r.declarations.map Declaration.property).eraseDups :=
      calc (cs.map fun c => c.declaration.property)
        _ = (cs.map Candidate.declaration).map Declaration.property := by simp
        _ = r.effectiveDeclarations.map Declaration.property := by rw [hkept]
        _ = (r.declarations.map Declaration.property).eraseDups :=
          collapse_properties r.declarations
    refine ⟨hkept,hproperties,?_⟩
    intro c hc
    obtain ⟨hfound,hfresh⟩ := hclasses c hc
    exact ⟨hfresh,hfound,length_classesOf hfound,fun k => ne_nil_of_mem_classesOf hfound,
      mem_boxes_of_several hfound⟩
  · intro other hsame
    rw [Rule.candidates,hsame,Rule.candidates]

/-- A property comes up twice. -/
def repeated : Rule :=
  ⟨".a",[⟨"margin","1px",false⟩,⟨"top","0",false⟩,⟨"margin","4px 1px",true⟩]⟩

def unrepeated : Rule := ⟨".b",[⟨"margin","4px 1px",true⟩,⟨"top","0",false⟩]⟩

/-- The property has its last value at its first place, and has the same candidates alone. -/
theorem one_candidate_per_property_repeated :
    repeated.candidates = .ok [⟨⟨"margin","4px 1px",true⟩,["my-1","mx-px"],false⟩,
      ⟨⟨"top","0",false⟩,["top-[0]"],false⟩] ∧
    [("margin" : Text),"top"] = (repeated.declarations.map Declaration.property).eraseDups ∧
    unrepeated.effectiveDeclarations = repeated.effectiveDeclarations ∧
    unrepeated.candidates = repeated.candidates := by
  have hcs : repeated.candidates = .ok [⟨⟨"margin","4px 1px",true⟩,["my-1","mx-px"],false⟩,
      ⟨⟨"top","0",false⟩,["top-[0]"],false⟩] := by decide
  have hsame : unrepeated.effectiveDeclarations = repeated.effectiveDeclarations := by decide
  obtain ⟨-,-,-,-,hcandidates,hother⟩ := one_candidate_per_property repeated [] []
  exact ⟨hcs,(hcandidates _ hcs).2.1,hsame,hother unrepeated hsame⟩

end StyleLift
