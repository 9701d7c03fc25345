import Mathlib.Data.List.Basic
import Mathlib.Data.List.Induction
import Mathlib.Data.List.Nodup
import StyleLift.Css.Rule
import StyleLift.Proofs.Text.Repetitions

/-! # Collapsed declarations

Collapsing keeps the last declaration of every property. What is kept stands in the order in which
the properties first occur, whatever stands between a first declaration and a last. Declarations
that are collapsed already may be collapsed on with what comes after them.
-/
namespace StyleLift

/-- An item with a key that none of the items behind it has. -/
def IsLastBy {α κ : Type} (key : α → κ) (items : List α) (item : α) : Prop :=
  ∃ before after, items = before ++ item :: after ∧ ∀ other ∈ after, key other ≠ key item

theorem IsLastBy.mem {α κ : Type} {key : α → κ} {items : List α} {item : α}
    (h : IsLastBy key items item) : item ∈ items := by
  obtain ⟨before,after,rfl,-⟩ := h
  exact List.mem_append_right _ List.mem_cons_self

theorem isLastBy_concat {α κ : Type} {key : α → κ} {items : List α} {final item : α} :
    IsLastBy key (items ++ [final]) item ↔
      item = final ∨ key final ≠ key item ∧ IsLastBy key items item := by
  constructor
  · rintro ⟨before,after,hitems,hafter⟩
    rcases List.eq_nil_or_concat' after with rfl | ⟨after,other,rfl⟩
    · exact .inl (List.cons.inj (List.append_inj' hitems rfl).2).1.symm
    · rw [← List.cons_append,← List.append_assoc] at hitems
      obtain ⟨rfl,hfinal⟩ := List.append_inj' hitems rfl
      obtain rfl := (List.cons.inj hfinal).1
      obtain ⟨hafter,hother⟩ := List.forall_mem_append.mp hafter
      exact .inr ⟨hother _ (List.mem_singleton_self _),before,after,rfl,hafter⟩
  · rintro (rfl | ⟨hfinal,before,after,rfl,hafter⟩)
    · exact ⟨items,[],rfl,fun _ h => absurd h List.not_mem_nil⟩
    · refine ⟨before,after ++ [final],?_,List.forall_mem_append.mpr ⟨hafter,?_⟩⟩
      · rw [List.append_assoc,List.cons_append]
      · simpa using hfinal

variable {d e : Declaration} {ds kept : List Declaration}

/-- Where a property first occurs. -/
def firstAt (properties : List Text) (property : Text) : Nat := properties.idxOf property

theorem override_properties (d : Declaration) (kept : List Declaration) :
    (override d kept).map Declaration.property =
      if d.property ∈ kept.map Declaration.property then kept.map Declaration.property
      else kept.map Declaration.property ++ [d.property] := by
  induction kept with
  | nil => rfl
  | cons e kept ih =>
    rw [override]
    by_cases h : e.property = d.property
    · rw [if_pos h,List.map_cons,List.map_cons,if_pos (List.mem_cons.mpr (.inl h.symm)),h]
    · rw [if_neg h,List.map_cons,List.map_cons,ih]
      simp only [List.mem_cons,Ne.symm h,false_or]
      split <;> rfl

theorem mem_override (h : (kept.map Declaration.property).Nodup) :
    e ∈ override d kept ↔ e = d ∨ d.property ≠ e.property ∧ e ∈ kept := by
  induction kept with
  | nil => simp [override]
  | cons f kept ih =>
    obtain ⟨hf,hkept⟩ := List.nodup_cons.mp h
    have hother : ∀ e ∈ kept, e.property ≠ f.property := fun e he hsame =>
      hf (List.mem_map.mpr ⟨e,he,hsame⟩)
    rw [override]
    by_cases hd : f.property = d.property
    · rw [if_pos hd,List.mem_cons,List.mem_cons]
      refine or_congr_right ⟨fun he => ⟨hd ▸ (hother e he).symm,.inr he⟩,fun ⟨hne,he⟩ => ?_⟩
      rcases he with rfl | he
      · exact absurd hd.symm hne
      · exact he
    · rw [if_neg hd,List.mem_cons,List.mem_cons,ih hkept]
      constructor
      · rintro (rfl | rfl | ⟨hne,he⟩)
        · exact .inr ⟨Ne.symm hd,.inl rfl⟩
        · exact .inl rfl
        · exact .inr ⟨hne,.inr he⟩
      · rintro (rfl | ⟨hne,rfl | he⟩)
        · exact .inr (.inl rfl)
        · exact .inl rfl
        · exact .inr (.inr ⟨hne,he⟩)

theorem collapse_concat (ds : List Declaration) (d : Declaration) :
    collapse (ds ++ [d]) = override d (collapse ds) := by
  rw [collapse,List.foldl_append]
  rfl

/-- One declaration is kept for every property, in the order of the first uses. -/
theorem collapse_properties (ds : List Declaration) :
    (collapse ds).map Declaration.property = (ds.map Declaration.property).eraseDups := by
  induction ds using List.reverseRecOn with
  | nil => rfl
  | append_singleton ds d ih =>
    rw [collapse_concat,override_properties,ih,List.map_append,List.map_singleton,eraseDups_concat]

/-- The properties that are kept stand in the order in which they first occur. -/
theorem collapse_ordered (ds : List Declaration) :
    ((collapse ds).map Declaration.property).Pairwise fun p q =>
      firstAt (ds.map Declaration.property) p < firstAt (ds.map Declaration.property) q := by
  rw [collapse_properties]
  exact eraseDups_ordered _

theorem collapse_nodup (ds : List Declaration) :
    ((collapse ds).map Declaration.property).Nodup := by
  rw [collapse_properties]
  exact nodup_eraseDups _

/-- What is kept is the last of its property. -/
theorem mem_collapse : d ∈ collapse ds ↔ IsLastBy Declaration.property ds d := by
  induction ds using List.reverseRecOn with
  | nil => exact iff_of_false List.not_mem_nil fun ⟨before,after,h,_⟩ => by simp at h
  | append_singleton ds e ih =>
    rw [collapse_concat,mem_override (collapse_nodup ds),isLastBy_concat,ih]

/-! ## Collapsing early -/

theorem override_new (h : d.property ∉ kept.map Declaration.property) :
    override d kept = kept ++ [d] := by
  induction kept with
  | nil => rfl
  | cons e kept ih =>
    obtain ⟨he,hkept⟩ := not_or.mp (List.mem_cons.not.mp h)
    simp [override,Ne.symm he,ih hkept]

theorem collapse_eq_self (h : (ds.map Declaration.property).Nodup) : collapse ds = ds := by
  induction ds using List.reverseRecOn with
  | nil => rfl
  | append_singleton ds d ih =>
    obtain ⟨hnew,hds⟩ := (List.nodup_concat (ds.map Declaration.property) d.property).mp (by
      simpa using h)
    rw [collapse_concat,ih hds,override_new hnew]

theorem collapse_collapse (ds : List Declaration) : collapse (collapse ds) = collapse ds :=
  collapse_eq_self (collapse_nodup ds)

/-- What comes later overrides what is kept just as it overrides all that was written. -/
theorem collapse_collapse_append (ds more : List Declaration) :
    collapse (collapse ds ++ more) = collapse (ds ++ more) := by
  induction more using List.reverseRecOn with
  | nil => simpa using collapse_collapse ds
  | append_singleton more d ih =>
    rw [← List.append_assoc,← List.append_assoc,collapse_concat,collapse_concat,ih]

end StyleLift
