import Mathlib.Data.List.Induction
import Mathlib.Data.List.Nodup
import StyleLift.Proofs.Text.Order

/-! # First uses

Without its repetitions a list has its items in the order of their first uses. An item at the end
changes nothing if it was used before, so the parts of a list may lose their own repetitions first.
-/
namespace StyleLift

variable {α : Type} [BEq α] [LawfulBEq α] {items : List α} {a : α}

theorem eraseDups_concat_of_mem (h : a ∈ items) : (items ++ [a]).eraseDups = items.eraseDups := by
  simp [List.eraseDups_append,List.removeAll,h]

theorem eraseDups_concat_of_not_mem (h : a ∉ items) :
    (items ++ [a]).eraseDups = items.eraseDups ++ [a] := by
  simp [List.eraseDups_append,List.removeAll,h,List.eraseDups_cons]

theorem eraseDups_concat (items : List α) (a : α) : (items ++ [a]).eraseDups =
    if a ∈ items.eraseDups then items.eraseDups else items.eraseDups ++ [a] := by
  by_cases h : a ∈ items
  · rw [if_pos (List.mem_eraseDups.mpr h),eraseDups_concat_of_mem h]
  · rw [if_neg (mt List.mem_eraseDups.mp h),eraseDups_concat_of_not_mem h]

/-- What is left stands in the order of the first uses. -/
theorem eraseDups_ordered (items : List α) :
    items.eraseDups.Pairwise fun p q => items.idxOf p < items.idxOf q := by
  induction items using List.reverseRecOn with
  | nil => exact List.Pairwise.nil
  | append_singleton items a ih =>
    have hkept : items.eraseDups.Pairwise fun p q =>
        (items ++ [a]).idxOf p < (items ++ [a]).idxOf q := by
      apply List.Pairwise.imp_of_mem _ ih
      intro p q hp hq h
      rwa [List.idxOf_append_of_mem (List.mem_eraseDups.mp hp),
        List.idxOf_append_of_mem (List.mem_eraseDups.mp hq)]
    by_cases ha : a ∈ items
    · rwa [eraseDups_concat_of_mem ha]
    · rw [eraseDups_concat_of_not_mem ha,List.pairwise_append]
      refine ⟨hkept,List.pairwise_singleton _ _,?_⟩
      intro p hp q hq
      obtain rfl := List.mem_singleton.mp hq
      have hused := List.mem_eraseDups.mp hp
      calc (items ++ [q]).idxOf p
        _ = items.idxOf p := List.idxOf_append_of_mem hused
        _ < items.length := List.idxOf_lt_length_of_mem hused
        _ ≤ (items ++ [q]).idxOf q := by simp [List.idxOf_append_of_notMem ha]

theorem eraseDups_eq_self (h : items.Nodup) : items.eraseDups = items := by
  induction items using List.reverseRecOn with
  | nil => rfl
  | append_singleton items a ih =>
    obtain ⟨hnew,hitems⟩ := (List.nodup_concat items a).mp (by simpa using h)
    rw [eraseDups_concat_of_not_mem hnew,ih hitems]

/-- Repetitions within a part do not count in the whole. -/
theorem eraseDups_append_eraseDups (items more : List α) :
    (items.eraseDups ++ more.eraseDups).eraseDups = (items ++ more).eraseDups := by
  induction more using List.reverseRecOn with
  | nil => simpa using eraseDups_eq_self (nodup_eraseDups items)
  | append_singleton more a ih =>
    rw [← List.append_assoc]
    by_cases hmore : a ∈ more
    · rw [eraseDups_concat_of_mem hmore,ih,
        eraseDups_concat_of_mem (List.mem_append_right items hmore)]
    · rw [eraseDups_concat_of_not_mem hmore,← List.append_assoc]
      by_cases hitems : a ∈ items
      · have hmem : a ∈ items ++ more := List.mem_append_left more hitems
        rw [eraseDups_concat_of_mem (by simpa using .inl hitems),ih,eraseDups_concat_of_mem hmem]
      · have hnew : a ∉ items ++ more := by simp [hitems,hmore]
        rw [eraseDups_concat_of_not_mem (by simpa using hnew),ih,eraseDups_concat_of_not_mem hnew]

end StyleLift
