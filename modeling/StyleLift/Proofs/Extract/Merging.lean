import StyleLift.Proofs.Extract.Confirmation
import StyleLift.Proofs.Text.Repetitions

/-! # What merging keeps

Entries with one selector are merged under the place where the selector first occurs. The lists of
a selector are those of its entries one after the other, so nothing is lost, and entries of other
selectors in between make no difference.
-/
namespace StyleLift

/-! ## Groups -/

section Groups
variable {key k : Text} {items : List Text} {groups : Groups}

/-- The list of a key; empty for a key that has none. -/
def listOf (k : Text) (groups : Groups) : List Text := (groups.lookup k).getD []

def totalLength (groups : Groups) : Nat := (groups.map fun g => g.2.length).sum

theorem listOf_cons (k first : Text) (found : List Text) (rest : Groups) :
    listOf k ((first,found) :: rest) = if k = first then found else listOf k rest := by
  by_cases h : k = first
  · simp [listOf,h]
  · simp [listOf,List.lookup_cons,beq_false_of_ne h,h]

theorem lookup_eq (k : Text) (groups : Groups) :
    groups.lookup k = if k ∈ groups.map Prod.fst then some (listOf k groups) else none := by
  cases hlookup : groups.lookup k with
  | none =>
    have hnone : k ∉ groups.map Prod.fst := by
      intro hmem
      obtain ⟨g,hg,rfl⟩ := List.mem_map.mp hmem
      simpa using List.lookup_eq_none_iff.mp hlookup g hg
    rw [if_neg hnone]
  | some found =>
    obtain ⟨before,after,hgroups,-⟩ := List.lookup_eq_some_iff.mp hlookup
    have hmem : k ∈ groups.map Prod.fst := by simp [hgroups]
    rw [if_pos hmem,listOf,hlookup,Option.getD_some]

theorem keys_addToGroup (key : Text) (items : List Text) (groups : Groups) :
    (addToGroup key items groups).map Prod.fst =
      if key ∈ groups.map Prod.fst then groups.map Prod.fst else groups.map Prod.fst ++ [key] := by
  induction groups with
  | nil => rfl
  | cons g rest ih =>
    obtain ⟨first,found⟩ := g
    by_cases h : first = key
    · simp [addToGroup,h]
    · simp only [addToGroup,if_neg h,List.map_cons,ih,List.mem_cons,Ne.symm h,false_or]
      split <;> rfl

/-- Adding to the list of a key leaves all other lists as they are. -/
theorem listOf_addToGroup (key k : Text) (items : List Text) (groups : Groups) :
    listOf k (addToGroup key items groups) =
      if k = key then listOf k groups ++ items else listOf k groups := by
  induction groups with
  | nil =>
    have hnil : listOf k [] = [] := rfl
    simp [addToGroup,listOf_cons,hnil]
  | cons g rest ih =>
    obtain ⟨first,found⟩ := g
    by_cases h : first = key
    · subst h
      by_cases hk : k = first <;> simp [addToGroup,listOf_cons,hk]
    · by_cases hk : k = first
      · subst hk
        simp [addToGroup,listOf_cons,h]
      · simp [addToGroup,listOf_cons,h,hk,ih]

theorem totalLength_addToGroup (key : Text) (items : List Text) (groups : Groups) :
    totalLength (addToGroup key items groups) = totalLength groups + items.length := by
  induction groups with
  | nil => simp [totalLength,addToGroup]
  | cons g rest ih =>
    obtain ⟨first,found⟩ := g
    by_cases h : first = key
    · simp [totalLength,addToGroup,h]
      omega
    · simp only [totalLength,addToGroup,if_neg h,List.map_cons,List.sum_cons] at ih ⊢
      omega

end Groups

/-! ## Entries by their selectors -/

def Entry.selector (e : Entry) : Text := e.rule.selector

/-- The declarations of the rule as they were written. -/
def Entry.written (e : Entry) : List Text := e.rule.declarations.map Declaration.toCss

namespace Bundle

/-- The selectors of some entries in the order of their first uses. -/
def selectorsOf (entries : List Entry) : List Text := (entries.map Entry.selector).eraseDups

/-- The lists of the entries with a selector, one after the other. -/
def joined (itemsOf : Entry → List Text) (entries : List Entry) (selector : Text) : List Text :=
  (entries.filter fun e => e.selector = selector).flatMap itemsOf

variable {itemsOf : Entry → List Text}

theorem group_concat (itemsOf : Entry → List Text) (entries : List Entry) (e : Entry) :
    group itemsOf (entries ++ [e]) = addToGroup e.selector (itemsOf e) (group itemsOf entries) := by
  simp [group,Entry.selector]

theorem keys_group (itemsOf : Entry → List Text) (entries : List Entry) :
    (group itemsOf entries).map Prod.fst = selectorsOf entries := by
  induction entries using List.reverseRecOn with
  | nil => rfl
  | append_singleton entries e ih =>
    rw [group_concat,keys_addToGroup,ih,selectorsOf,selectorsOf,List.map_append,List.map_singleton,
      eraseDups_concat]

theorem listOf_group (itemsOf : Entry → List Text) (entries : List Entry) (selector : Text) :
    listOf selector (group itemsOf entries) = joined itemsOf entries selector := by
  induction entries using List.reverseRecOn with
  | nil => rfl
  | append_singleton entries e ih =>
    rw [group_concat,listOf_addToGroup,ih]
    by_cases h : selector = e.selector
    · simp [joined,h]
    · simp [joined,h,Ne.symm h]

theorem lookup_group (itemsOf : Entry → List Text) (entries : List Entry) (selector : Text) :
    (group itemsOf entries).lookup selector =
      if selector ∈ selectorsOf entries then some (joined itemsOf entries selector) else none := by
  rw [lookup_eq,keys_group,listOf_group]

theorem totalLength_group (itemsOf : Entry → List Text) (entries : List Entry) :
    totalLength (group itemsOf entries) = (entries.map fun e => (itemsOf e).length).sum := by
  induction entries using List.reverseRecOn with
  | nil => rfl
  | append_singleton entries e ih => simp [group_concat,totalLength_addToGroup,ih]

/-- Two entries with different selectors may stand in either order. -/
theorem lookup_exchange {before after : List Entry} {e f : Entry} (h : e.selector ≠ f.selector)
    (selector : Text) : (group itemsOf (before ++ f :: e :: after)).lookup selector =
      (group itemsOf (before ++ e :: f :: after)).lookup selector := by
  have hperm : (before ++ f :: e :: after).Perm (before ++ e :: f :: after) :=
    (List.Perm.swap e f after).append_left before
  have hselectors : selector ∈ selectorsOf (before ++ f :: e :: after) ↔
      selector ∈ selectorsOf (before ++ e :: f :: after) := by
    simp only [selectorsOf,List.mem_eraseDups]
    exact (hperm.map Entry.selector).mem_iff
  have hjoined : joined itemsOf (before ++ f :: e :: after) selector =
      joined itemsOf (before ++ e :: f :: after) selector := by
    by_cases he : e.selector = selector
    · have hf : f.selector ≠ selector := fun hf => h (he.trans hf.symm)
      simp [joined,he,hf]
    · simp [joined,List.filter_cons,he]
  simp only [lookup_group,hselectors,hjoined]

/-- In a serialized bundle both groups have the selectors as their keys in the order of first uses,
and under each the lists of its entries one after the other. No declaration and no class is lost or
comes up twice, and neighbours with different selectors may be exchanged. -/
theorem merged_losslessly (b : Bundle) :
    Json.member? "cssToTailwind" b.toMembers = some (Json.groups b.declarationGroups) ∧
    Json.member? "tailwindSuggestions" b.toMembers = some (Json.groups b.suggestionGroups) ∧
    b.declarationGroups.map Prod.fst = selectorsOf b.entries ∧
    b.suggestionGroups.map Prod.fst = selectorsOf b.entries ∧
    (∀ s ∈ selectorsOf b.entries,
      b.declarationGroups.lookup s = some (joined Entry.written b.entries s) ∧
      b.suggestionGroups.lookup s = some (joined Entry.classes b.entries s)) ∧
    totalLength b.declarationGroups = (b.entries.map fun e => e.rule.declarations.length).sum ∧
    totalLength b.suggestionGroups = (b.entries.map fun e => e.classes.length).sum ∧
    (∀ k, (∃ g ∈ b.suggestionGroups, k ∈ g.2) ↔ k ∈ b.candidateClasses) ∧
    ∀ (exchanged : Bundle) before e f after, b.entries = before ++ e :: f :: after →
      exchanged.entries = before ++ f :: e :: after → e.selector ≠ f.selector → ∀ s,
        exchanged.declarationGroups.lookup s = b.declarationGroups.lookup s ∧
        exchanged.suggestionGroups.lookup s = b.suggestionGroups.lookup s := by
  have hwritten : b.declarationGroups = group Entry.written b.entries := rfl
  have hsuggested : b.suggestionGroups = group Entry.classes b.entries := rfl
  refine ⟨rfl,rfl,keys_group Entry.written b.entries,
    keys_group Entry.classes b.entries,?_,?_,?_,?_,?_⟩
  · intro s hs
    simp [hwritten,hsuggested,lookup_group,hs]
  · simp [hwritten,totalLength_group,Entry.written]
  · simp [hsuggested,totalLength_group]
  · intro k
    rw [hsuggested,mem_group,candidateClasses,List.mem_eraseDups]
  · intro exchanged before e f after hentries hexchanged hne s
    rw [hwritten,hsuggested,declarationGroups,suggestionGroups,hexchanged,hentries]
    exact ⟨lookup_exchange hne s,lookup_exchange hne s⟩

/-- A rule with one declaration, and a candidate of one class for it. -/
def entryOf (selector property value : Text) : Entry :=
  ⟨⟨selector,[⟨property,value,false⟩]⟩,
    [⟨⟨property,value,false⟩,[arbitraryClass property value],false⟩]⟩

/-- One selector comes up twice, around another one. -/
def around : Bundle :=
  ⟨[],[entryOf ".a" "top" "0",entryOf ".b" "left" "1px",entryOf ".a" "top" "2px"],none,none⟩

/-- The other selector comes first. -/
def behind : Bundle :=
  ⟨[],[entryOf ".b" "left" "1px",entryOf ".a" "top" "0",entryOf ".a" "top" "2px"],none,none⟩

/-- The selector's list is joined at its first place, wherever the other entry stands. -/
theorem merged_losslessly_around :
    around.suggestionGroups.map Prod.fst = ([(".a" : Text),(".b" : Text)]) ∧
    (entryOf ".a" "top" "0").selector ≠ (entryOf ".b" "left" "1px").selector ∧
    around.declarationGroups.lookup (".a" : Text) =
      some ([("top: 0" : Text),("top: 2px" : Text)]) ∧
    behind.declarationGroups.lookup (".a" : Text) =
      around.declarationGroups.lookup (".a" : Text) := by
  obtain ⟨-,-,-,hkeys,-,-,-,-,hexchange⟩ := merged_losslessly around
  have hne : (entryOf ".a" "top" "0").selector ≠ (entryOf ".b" "left" "1px").selector := by decide
  exact ⟨hkeys.trans (by decide),hne,by decide,
    (hexchange behind [] _ _ [entryOf ".a" "top" "2px"] rfl rfl hne ".a").1⟩

end Bundle
end StyleLift
