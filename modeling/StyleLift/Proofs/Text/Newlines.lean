import StyleLift.Text.Lines

/-! # Line ends read as newlines

A text whose line ends are all read as newlines has no carriage return, and is the text itself just
if that had none. It is never longer.
-/
namespace StyleLift.Text

theorem normalizeNewlines_plain {s : Text} (h : .char '\r' ∉ s) : normalizeNewlines s = s := by
  fun_induction normalizeNewlines s with
  | case1 => rfl
  | case2 => exact absurd List.mem_cons_self h
  | case3 => exact absurd List.mem_cons_self h
  | case4 c rest _ _ ih => rw [ih fun hmem => h (List.mem_cons_of_mem _ hmem)]

theorem return_not_mem_normalizeNewlines (s : Text) : .char '\r' ∉ normalizeNewlines s := by
  fun_induction normalizeNewlines s with
  | case1 => exact List.not_mem_nil
  | case2 rest ih => exact List.not_mem_cons_of_ne_of_not_mem (by decide) ih
  | case3 rest _ ih => exact List.not_mem_cons_of_ne_of_not_mem (by decide) ih
  | case4 c rest _ hother ih =>
    exact List.not_mem_cons_of_ne_of_not_mem (fun h => hother h.symm) ih

theorem normalizeNewlines_length (s : Text) : (normalizeNewlines s).length ≤ s.length := by
  fun_induction normalizeNewlines s with
  | case1 => exact Nat.le_refl 0
  | case2 rest ih =>
    rw [List.length_cons,List.length_cons,List.length_cons]
    omega
  | case3 rest _ ih => exact Nat.succ_le_succ ih
  | case4 c rest _ _ ih => exact Nat.succ_le_succ ih

end StyleLift.Text
