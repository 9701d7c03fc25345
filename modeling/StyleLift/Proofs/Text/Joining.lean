import Mathlib.Data.List.Basic
import StyleLift.Text.CodePoint

/-! # Joined texts

How a join starts and ends, and what it is made of. Glue of one code point marks the start of every
other part.
-/
namespace StyleLift.Text

variable {glue part next rest : Text} {parts : List Text}

theorem joinWith_cons (c : CodePoint) (first : Text) (others : List Text) :
    joinWith [c] (first :: others) = first ++ others.flatMap fun other => c :: other := by
  induction others generalizing first with
  | nil => simp [joinWith,List.intercalate]
  | cons other others ih =>
    have hrest := ih other
    rw [joinWith] at hrest
    rw [joinWith,List.intercalate_cons_cons,hrest,List.flatMap_cons]
    simp

theorem joinWith_singleton : joinWith glue [part] = part := List.intercalate_singleton

theorem joinWith_cons_cons :
    joinWith glue (part :: next :: parts) = part ++ (glue ++ joinWith glue (next :: parts)) := by
  simp only [joinWith,List.intercalate_cons_cons,List.append_assoc]

/-- A join starts with its first part. -/
theorem joinWith_starts (glue part : Text) (parts : List Text) :
    ∃ more, joinWith glue (part :: parts) = part ++ more := by
  cases parts with
  | nil => exact ⟨[],by rw [joinWith_singleton,List.append_nil]⟩
  | cons next parts => exact ⟨_,joinWith_cons_cons⟩

/-- A join ends with its last part. -/
theorem joinWith_ends (glue part : Text) (parts : List Text) :
    ∃ before, joinWith glue (parts ++ [part]) = before ++ part := by
  induction parts with
  | nil => exact ⟨[],by rw [List.nil_append,joinWith_singleton,List.nil_append]⟩
  | cons first parts ih =>
    obtain ⟨before,hbefore⟩ := ih
    obtain ⟨next,rest,hrest⟩ := List.exists_cons_of_ne_nil
      (List.append_ne_nil_of_right_ne_nil parts (List.cons_ne_nil part []))
    refine ⟨first ++ (glue ++ before),?_⟩
    rw [List.cons_append,hrest,joinWith_cons_cons,← hrest,hbefore]
    simp only [List.append_assoc]

/-- What holds of the glue and of all parts holds of the join. -/
theorem forall_joinWith {p : CodePoint → Prop} (hglue : ∀ c ∈ glue, p c)
    (h : ∀ part ∈ parts, ∀ c ∈ part, p c) : ∀ c ∈ joinWith glue parts, p c := by
  induction parts with
  | nil => exact fun c hc => by cases hc
  | cons part parts ih =>
    obtain ⟨hpart,hparts⟩ := List.forall_mem_cons.mp h
    cases parts with
    | nil => rwa [joinWith_singleton]
    | cons next parts =>
      rw [joinWith_cons_cons]
      exact List.forall_mem_append.mpr ⟨hpart,List.forall_mem_append.mpr ⟨hglue,ih hparts⟩⟩

/-- What holds of a join holds of its parts. -/
theorem mem_joinWith {c : CodePoint} (hpart : part ∈ parts) (hc : c ∈ part) :
    c ∈ joinWith glue parts := by
  induction parts with
  | nil => cases hpart
  | cons first parts ih =>
    cases parts with
    | nil => rwa [joinWith_singleton,← List.mem_singleton.mp hpart]
    | cons next parts =>
      rw [joinWith_cons_cons]
      rcases List.mem_cons.mp hpart with rfl | hpart
      · exact List.mem_append_left _ hc
      · exact List.mem_append_right _ (List.mem_append_right _ (ih hpart))

/-- A part of a split text is made of the text's code points. -/
theorem mem_of_mem_splitOn {s : Text} {c d : CodePoint} (hpart : part ∈ splitOn c s)
    (hd : d ∈ part) : d ∈ s := by
  have hjoin : joinWith [c] (splitOn c s) = s := List.intercalate_splitOn c
  rw [← hjoin]
  exact mem_joinWith hpart hd

end StyleLift.Text
