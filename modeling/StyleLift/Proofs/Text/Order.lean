import Mathlib.Data.List.Basic
import StyleLift.Text.CodePoint

/-! # The order of texts

Code points are told apart by their numbers, and texts are ordered by the first code point in which
they differ. Sorting a list without repetitions gives a strictly ascending one.
-/
namespace StyleLift

theorem CodePoint.val_injective : Function.Injective CodePoint.val := by
  intro c d h
  cases c with
  | char c =>
    cases d with
    | char d => exact congrArg CodePoint.char (Char.ext (UInt32.toNat_inj.mp h))
    | surrogate low =>
      have hv := c.valid
      have hl := low.isLt
      simp only [val, Char.toNat] at h
      simp only [UInt32.isValidChar, Nat.isValidChar] at hv
      omega
  | surrogate low =>
    cases d with
    | char d =>
      have hv := d.valid
      have hl := low.isLt
      simp only [val, Char.toNat] at h
      simp only [UInt32.isValidChar, Nat.isValidChar] at hv
      omega
    | surrogate low' =>
      simp only [val] at h
      exact congrArg CodePoint.surrogate (Fin.ext (by omega))

@[simp] theorem CodePoint.val_inj {c d : CodePoint} : c.val = d.val ↔ c = d :=
  val_injective.eq_iff

namespace Text

/-- Strictly before by code point: a proper start of it, or smaller where they first differ. -/
def Before (s t : Text) : Prop := List.Lex (fun c d : CodePoint => c.val < d.val) s t

theorem le_iff {s t : Text} : s.le t = true ↔ s = t ∨ Before s t := by
  induction s generalizing t with
  | nil => cases t <;> simp [le, Before]
  | cons c s ih =>
    cases t with
    | nil => simp [le, Before]
    | cons d t =>
      simp only [le, Bool.or_eq_true, Bool.and_eq_true, decide_eq_true_eq, beq_iff_eq,
        CodePoint.val_inj, ih, Before, List.cons_lex_cons_iff, List.cons.injEq]
      grind

theorem le_trans (s t u : Text) (h : s.le t = true) (h' : t.le u = true) : s.le u = true := by
  induction s generalizing t u with
  | nil => simp [le]
  | cons c s ih =>
    cases t with
    | nil => simp [le] at h
    | cons d t =>
      cases u with
      | nil => simp [le] at h'
      | cons e u =>
        simp only [le, Bool.or_eq_true, Bool.and_eq_true, decide_eq_true_eq, beq_iff_eq] at *
        rcases h with h | ⟨h,hs⟩
        · left; omega
        · rcases h' with h' | ⟨h',hs'⟩
          · left; omega
          · exact .inr ⟨h.trans h',ih t u hs hs'⟩

theorem le_total (s t : Text) : (s.le t || t.le s) = true := by
  induction s generalizing t with
  | nil => simp [le]
  | cons c s ih =>
    cases t with
    | nil => simp [le]
    | cons d t =>
      have hr := ih t
      simp only [le, Bool.or_eq_true, Bool.and_eq_true, decide_eq_true_eq, beq_iff_eq] at *
      rcases Nat.lt_trichotomy c.val d.val with h | h | h
      · exact .inl (.inl h)
      · rcases hr with hr | hr
        · exact .inl (.inr ⟨h,hr⟩)
        · exact .inr (.inr ⟨h.symm,hr⟩)
      · exact .inr (.inl h)

@[simp] theorem mem_sorted {t : Text} {texts : List Text} : t ∈ sorted texts ↔ t ∈ texts :=
  List.mem_mergeSort

theorem sorted_ascending {texts : List Text} (h : texts.Nodup) :
    (sorted texts).Pairwise Before := by
  have hs : (sorted texts).Pairwise (fun s t => s.le t = true) :=
    List.pairwise_mergeSort le_trans le_total texts
  have hn : (sorted texts).Nodup := (List.mergeSort_perm texts le).nodup_iff.mpr h
  refine (hs.and hn).imp ?_
  rintro s t ⟨hle,hne⟩
  exact (le_iff.mp hle).resolve_left hne

end Text

theorem nodup_eraseDups {α : Type} [BEq α] [LawfulBEq α] (items : List α) :
    items.eraseDups.Nodup := by
  induction h : items.length using Nat.strongRecOn generalizing items with
  | ind n ih =>
    cases items with
    | nil => simp
    | cons a rest =>
      have hl := List.length_filter_le (fun b => !b == a) rest
      rw [List.eraseDups_cons, List.nodup_cons]
      refine ⟨?_,ih _ (by simp only [List.length_cons] at h; omega) _ rfl⟩
      intro ha
      have := List.mem_eraseDups.mp ha
      simp at this

end StyleLift
