import Mathlib.Data.List.Infix
import StyleLift.Text.CodePoint

/-! # First occurrences

A text is cut at the first occurrence of another. Text in which no occurrence starts is passed over,
and text with an occurrence in it is never passed as a whole.
-/
namespace StyleLift.Text
variable {part s t : Text} {c : CodePoint}

theorem occursIn_iff : part.occursIn s = true ↔ part <:+: s := by
  induction s with
  | nil => rw [occursIn,List.isEmpty_iff,List.infix_nil]
  | cons c s ih =>
    rw [occursIn,Bool.or_eq_true,List.isPrefixOf_iff_prefix,ih,List.infix_cons_iff]

theorem occursIn_eq_false_iff : part.occursIn s = false ↔ ¬ part <:+: s := by
  rw [← occursIn_iff,Bool.not_eq_true]

/-- What stands before the first occurrence of a part, and what stands behind it. -/
def cut (part : Text) : Text → Option (Text × Text)
  | [] => if part.isEmpty then some ([],[]) else none
  | c :: s =>
    match dropPrefix? part (c :: s) with
    | some rest => some ([],rest)
    | none => (cut part s).map fun (before,after) => (c :: before,after)

theorem cut_self (part rest : Text) : cut part (part ++ rest) = some ([],rest) := by
  cases hs : part ++ rest with
  | nil =>
    obtain ⟨rfl,rfl⟩ := List.append_eq_nil_iff.mp hs
    rfl
  | cons c s => rw [cut,← hs,dropPrefix?_eq_some_iff.mpr rfl]

/-- No occurrence of the part starts in a text, whatever follows it. -/
def Clear (part s : Text) : Prop := ∀ t ∈ s.tails, t ≠ [] → ¬ t <+: part ∧ ¬ part <+: t

instance : Decidable (Clear part s) :=
  inferInstanceAs (Decidable (∀ t ∈ s.tails, t ≠ [] → ¬ t <+: part ∧ ¬ part <+: t))

theorem clear_nil : Clear part [] := by
  intro t ht hne
  exact absurd (List.mem_singleton.mp ht) hne

theorem clear_cons :
    Clear part (c :: s) ↔ (¬ (c :: s) <+: part ∧ ¬ part <+: c :: s) ∧ Clear part s := by
  rw [Clear,List.tails_cons,List.forall_mem_cons]
  exact and_congr_left fun _ => ⟨fun h => h (List.cons_ne_nil c s),fun h _ => h⟩

theorem Clear.append (hs : Clear part s) (ht : Clear part t) : Clear part (s ++ t) := by
  induction s with
  | nil => exact ht
  | cons c s ih =>
    obtain ⟨⟨hstart,hpart⟩,hs⟩ := clear_cons.mp hs
    have hgrown : (c :: s) <+: c :: s ++ t := List.prefix_append _ _
    refine clear_cons.mpr ⟨⟨fun h => hstart (hgrown.trans h),fun h => ?_⟩,ih hs⟩
    exact (List.prefix_or_prefix_of_prefix h hgrown).elim hpart hstart

theorem clear_flatten {pieces : List Text} (h : ∀ piece ∈ pieces, Clear part piece) :
    Clear part pieces.flatten := by
  induction pieces with
  | nil => exact clear_nil
  | cons piece pieces ih =>
    obtain ⟨hpiece,hpieces⟩ := List.forall_mem_cons.mp h
    exact hpiece.append (ih hpieces)

/-- An occurrence starts with the first code point of the part. -/
theorem clear_of_not_mem (h : c ∉ s) : Clear (c :: part) s := by
  intro t ht hne
  cases t with
  | nil => exact absurd rfl hne
  | cons d t =>
    have hd : d ∈ s := ((List.mem_tails _ _).mp ht).subset List.mem_cons_self
    refine ⟨fun hstarts => ?_,fun hstarts => ?_⟩
    · obtain rfl := (List.cons_prefix_cons.mp hstarts).1
      exact h hd
    · obtain rfl := (List.cons_prefix_cons.mp hstarts).1
      exact h hd

theorem cut_clear (h : Clear part s) (rest : Text) :
    cut part (s ++ rest) = (cut part rest).map fun (before,after) => (s ++ before,after) := by
  induction s with
  | nil => exact Option.map_id'.symm
  | cons c s ih =>
    obtain ⟨⟨hstart,hpart⟩,hs⟩ := clear_cons.mp h
    have hdrop : dropPrefix? part (c :: (s ++ rest)) = none := by
      rw [Option.eq_none_iff_forall_not_mem]
      intro more hmore
      have hmeets := dropPrefix?_eq_some_iff.mp hmore
      have hwhole : part <+: c :: s ++ rest := ⟨more,hmeets.symm⟩
      exact (List.prefix_or_prefix_of_prefix hwhole (List.prefix_append _ _)).elim hpart hstart
    rw [List.cons_append,cut,hdrop,ih hs,Option.map_map]
    rfl

theorem Clear.occursIn_append (h : Clear part s) :
    part.occursIn (s ++ t) = part.occursIn t := by
  induction s with
  | nil => rfl
  | cons c s ih =>
    obtain ⟨⟨hstart,hpart⟩,hs⟩ := clear_cons.mp h
    have hnot : List.isPrefixOf part (c :: (s ++ t)) = false := by
      rw [Bool.eq_false_iff,ne_eq,List.isPrefixOf_iff_prefix]
      intro hwhole
      have hgrown : (c :: s) <+: c :: (s ++ t) := List.prefix_append (c :: s) t
      exact (List.prefix_or_prefix_of_prefix hwhole hgrown).elim hpart hstart
    rw [List.cons_append,occursIn,hnot,Bool.false_or,ih hs]

/-- A code point that is not in the part ends what has no occurrence in it. -/
theorem clear_of_not_occursIn (h : part.occursIn s = false) (hc : c ∉ part) :
    Clear part (s ++ [c]) := by
  rw [occursIn_eq_false_iff] at h
  intro t ht hne
  have hsuffix := (List.mem_tails _ _).mp ht
  obtain ⟨u,rfl,hu⟩ := (List.suffix_concat_iff.mp hsuffix).resolve_left hne
  refine ⟨fun hstarts => hc (hstarts.subset (List.mem_append_right u List.mem_cons_self)),?_⟩
  intro hstarts
  rcases List.prefix_concat_iff.mp hstarts with rfl | hinner
  · exact hc (List.mem_append_right u List.mem_cons_self)
  · exact h (hinner.isInfix.trans hu.isInfix)

/-- No occurrence goes over a code point that is not in the part. -/
theorem occursIn_append_cons (hc : c ∉ part) :
    part.occursIn (s ++ c :: t) = true ↔ part.occursIn s = true ∨ part.occursIn t = true := by
  rw [occursIn_iff,occursIn_iff,occursIn_iff]
  have hshorter : ∀ u, part <+: u ++ c :: t → part <+: u := by
    intro u h
    have hu : (u ++ [c]) <+: u ++ c :: t := ⟨t,by simp⟩
    rcases List.prefix_or_prefix_of_prefix h hu with hinner | houter
    · rcases List.prefix_concat_iff.mp hinner with rfl | hinner
      · exact absurd (List.mem_append_right u List.mem_cons_self) hc
      · exact hinner
    · exact absurd (houter.subset (List.mem_append_right u List.mem_cons_self)) hc
  constructor
  · intro h
    induction s with
    | nil =>
      rcases List.infix_cons_iff.mp h with hstarts | hinner
      · exact .inl (hshorter [] hstarts).isInfix
      · exact .inr hinner
    | cons d s ih =>
      rcases List.infix_cons_iff.mp h with hstarts | hinner
      · exact .inl (hshorter (d :: s) hstarts).isInfix
      · exact (ih hinner).imp_left List.infix_cons
  · rintro (h | h)
    · exact h.trans (List.prefix_append _ _).isInfix
    · exact h.trans ((List.suffix_cons c t).trans (List.suffix_append _ _)).isInfix

/-- A text is cut before the end of what has an occurrence in it. -/
theorem cut_of_occursIn (h : part.occursIn s = true) (rest : Text) :
    ∃ before after, cut part (s ++ rest) = some (before,after) ∧
      before.length + part.length ≤ s.length := by
  rw [occursIn_iff] at h
  induction s with
  | nil =>
    obtain rfl := List.infix_nil.mp h
    exact ⟨[],rest,cut_self [] rest,Nat.le_refl 0⟩
  | cons c s ih =>
    have hfits := h.length_le
    rw [List.cons_append,cut]
    split
    · exact ⟨[],_,rfl,by simpa using hfits⟩
    · next hdrop =>
      rcases List.infix_cons_iff.mp h with ⟨more,hmore⟩ | hinner
      · have hsome : dropPrefix? part (c :: (s ++ rest)) = some (more ++ rest) := by
          rw [dropPrefix?_eq_some_iff,← List.append_assoc,hmore]
          rfl
        rw [hdrop] at hsome
        cases hsome
      · obtain ⟨before,after,hcut,hlength⟩ := ih hinner
        refine ⟨c :: before,after,?_,?_⟩
        · rw [hcut]
          rfl
        · rw [List.length_cons,List.length_cons]
          omega

end StyleLift.Text
