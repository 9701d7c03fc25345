import StyleLift.Proofs.Css.Collapsing
import StyleLift.Utility.Shorthand

/-! # Sides of a box

What the sides of a box end up with when declarations are applied in order: a later declaration
overrides an earlier one on every side that it sets, unless only the earlier one is important.
Collapsing moves the last value of a property to the place of the property's first declaration. It
keeps a side, whatever the values are, just if the declaration that decides the side is the last of
its property and what would override it from there comes up before it.
-/
namespace StyleLift

/-- What is to be seen of a declaration but its value. -/
structure Trait where
  property : Text
  important : Bool
deriving DecidableEq

def Declaration.trait (d : Declaration) : Trait := ⟨d.property,d.important⟩

/-- A declaration with a trait. -/
def Trait.give (value : Text) (trait : Trait) : Declaration :=
  ⟨trait.property,value,trait.important⟩

inductive Side
  | top
  | right
  | bottom
  | left
deriving DecidableEq

namespace Side

def shorthand : Text := "margin"

def longhand : Side → Text
  | .top => "margin-top"
  | .right => "margin-right"
  | .bottom => "margin-bottom"
  | .left => "margin-left"

/-- The stems of the parts of a shorthand that set a side. -/
def stems : Side → List Text
  | .top => ["m","my","mt"]
  | .right => ["m","mx","mr"]
  | .bottom => ["m","my","mb"]
  | .left => ["m","mx","ml"]

def IsSetBy (side : Side) (property : Text) : Prop :=
  property = shorthand ∨ property = side.longhand

/-- The value that a declaration has for a side, if it sets the side. -/
def valueOf (side : Side) (d : Declaration) : Option Text :=
  if d.property = shorthand then
    ((Shorthand.partsOf "m" d.value).find? fun part => side.stems.contains part.stem).map
      Shorthand.Part.value
  else if d.property = side.longhand then some d.value
  else none

/-- Applies a declaration to what a side has, a value and whether it is important. -/
def settle (side : Side) (now : Option (Text × Bool)) (d : Declaration) : Option (Text × Bool) :=
  match side.valueOf d with
  | none => now
  | some value => if now.any Prod.snd && !d.important then now else some (value,d.important)

/-- What a side ends up with. -/
def value (side : Side) (ds : List Declaration) : Option Text :=
  (ds.foldl side.settle none).map Prod.fst

/-- A shorthand with one component, with two, or with one for every side. -/
def IsWhole (d : Declaration) : Prop :=
  d.property = shorthand → (Shorthand.splitValues d.value).length ∈ [1,2,4]

variable {side : Side} {d : Declaration} {ds : List Declaration} {before after traits : List Trait}
  {w : Trait}

/-- Every value of the shorthand has a part for every side. -/
theorem valueOf_isSome : (side.valueOf d).isSome ↔ side.IsSetBy d.property := by
  rw [valueOf,IsSetBy]
  by_cases hshort : d.property = shorthand
  · rw [if_pos hshort,Option.isSome_map]
    refine iff_of_true ?_ (.inl hshort)
    rw [Shorthand.partsOf]
    split <;> cases side <;> rfl
  · rw [if_neg hshort]
    by_cases hlong : d.property = side.longhand
    · rw [if_pos hlong]
      exact iff_of_true rfl (.inr hlong)
    · rw [if_neg hlong]
      exact iff_of_false (by decide) (by simp [hshort,hlong])

theorem isSetBy_of_valueOf {v : Text} (h : side.valueOf d = some v) : side.IsSetBy d.property :=
  valueOf_isSome.mp (Option.isSome_of_eq_some h)

/-! ## The declaration that decides a side -/

/-- A declaration among others that a side keeps its value from. -/
structure Decides (side : Side) (before : List Trait) (w : Trait) (after : List Trait) : Prop where
  sets : side.IsSetBy w.property
  prevails : ∀ e ∈ before, side.IsSetBy e.property → e.important = true → w.important = true
  outlasts : ∀ e ∈ after, side.IsSetBy e.property → w.important = true ∧ e.important = false

/-- What a side has comes from a declaration. -/
theorem settled_from {now : Text × Bool} (h : ds.foldl side.settle none = some now) :
    ∃ d ∈ ds, side.valueOf d = some now.1 ∧ d.important = now.2 := by
  induction ds using List.reverseRecOn generalizing now with
  | nil => cases h
  | append_singleton ds d ih =>
    have hearlier : ds.foldl side.settle none = some now →
        ∃ e ∈ ds ++ [d], side.valueOf e = some now.1 ∧ e.important = now.2 := fun h => by
      obtain ⟨e,he,hnow⟩ := ih h
      exact ⟨e,List.mem_append_left _ he,hnow⟩
    have hd : d ∈ ds ++ [d] := List.mem_append_right _ (List.mem_singleton_self d)
    rw [List.foldl_append,List.foldl_cons,List.foldl_nil,settle] at h
    split at h
    · exact hearlier h
    · next value hvalue =>
      split at h
      · exact hearlier h
      · obtain rfl := Option.some.inj h
        exact ⟨d,hd,hvalue,rfl⟩

theorem value_from {v : Text} (h : side.value ds = some v) :
    ∃ d ∈ ds, side.valueOf d = some v := by
  obtain ⟨now,hnow,rfl⟩ := Option.map_eq_some_iff.mp h
  obtain ⟨d,hd,hvalue,-⟩ := settled_from hnow
  exact ⟨d,hd,hvalue⟩

theorem value_eq_none (h : ∀ d ∈ ds, ¬ side.IsSetBy d.property) : side.value ds = none := by
  cases hvalue : side.value ds with
  | none => rfl
  | some v =>
    obtain ⟨d,hd,hv⟩ := value_from hvalue
    exact absurd (isSetBy_of_valueOf hv) (h d hd)

/-- Nothing weaker changes what a side has. -/
theorem foldl_settle_weaker {now : Text × Bool}
    (h : ∀ d ∈ ds, side.IsSetBy d.property → now.2 = true ∧ d.important = false) :
    ds.foldl side.settle (some now) = some now := by
  induction ds with
  | nil => rfl
  | cons d ds ih =>
    obtain ⟨hd,hds⟩ := List.forall_mem_cons.mp h
    have hkept : side.settle (some now) d = some now := by
      rw [settle]
      split
      · rfl
      · next value hvalue =>
        obtain ⟨hnow,himportant⟩ := hd (isSetBy_of_valueOf hvalue)
        rw [Option.any_some,hnow,himportant]
        rfl
    rw [List.foldl_cons,hkept,ih hds]

/-- The declaration that decides a side gives it its value. -/
theorem value_of_decides {before after : List Declaration}
    (h : Decides side (before.map Declaration.trait) d.trait (after.map Declaration.trait)) :
    side.value (before ++ d :: after) = side.valueOf d := by
  obtain ⟨v,hv⟩ := Option.isSome_iff_exists.mp (valueOf_isSome.mpr h.sets)
  have hsettled : side.settle (before.foldl side.settle none) d = some (v,d.important) := by
    have hwins : ((before.foldl side.settle none).any Prod.snd && !d.important) = false := by
      cases hnow : before.foldl side.settle none with
      | none => rfl
      | some now =>
        obtain ⟨e,he,hset,himportant⟩ := settled_from hnow
        rw [Option.any_some,← himportant]
        cases hi : e.important with
        | false => rfl
        | true =>
          have hd : d.important = true :=
            h.prevails e.trait (List.mem_map_of_mem he) (isSetBy_of_valueOf hset) hi
          rw [hd]
          rfl
    rw [settle,hv]
    dsimp only
    rw [hwins,if_neg Bool.false_ne_true]
  have hkept : after.foldl side.settle (some (v,d.important)) = some (v,d.important) :=
    foldl_settle_weaker fun e he => h.outlasts e.trait (List.mem_map_of_mem he)
  rw [value,List.foldl_append,List.foldl_cons,hsettled,hkept,hv]
  rfl

/-- The declaration that decides a side is important if any that sets the side is. -/
theorem Decides.important (h : Decides side before w after) {e : Trait}
    (he : e ∈ before ++ w :: after) (hset : side.IsSetBy e.property)
    (himportant : e.important = true) : w.important = true := by
  rcases List.mem_append.mp he with he | he
  · exact h.prevails e he hset himportant
  rcases List.mem_cons.mp he with rfl | he
  · exact himportant
  · exact (h.outlasts e he hset).1

/-- Where a side is set at all, a declaration decides it. -/
theorem exists_decides (h : ∃ e ∈ traits, side.IsSetBy e.property) :
    ∃ before w after, traits = before ++ w :: after ∧ Decides side before w after := by
  induction traits using List.reverseRecOn with
  | nil =>
    obtain ⟨e,he,-⟩ := h
    cases he
  | append_singleton traits e ih =>
    by_cases hearlier : ∃ e ∈ traits, side.IsSetBy e.property
    · obtain ⟨before,w,after,rfl,hw⟩ := ih hearlier
      by_cases hweaker : side.IsSetBy e.property → w.important = true ∧ e.important = false
      · refine ⟨before,w,after ++ [e],by simp,hw.sets,hw.prevails,?_⟩
        exact List.forall_mem_append.mpr ⟨hw.outlasts,by simpa using hweaker⟩
      · obtain ⟨hset,hstronger⟩ := Classical.not_imp.mp hweaker
        refine ⟨before ++ w :: after,e,[],rfl,hset,fun f hf hfset hfimportant => ?_,
          fun _ h => absurd h List.not_mem_nil⟩
        have hwimportant := hw.important hf hfset hfimportant
        exact Bool.not_eq_false _ ▸ fun he => hstronger ⟨hwimportant,he⟩
    · obtain ⟨f,hf,hset⟩ := h
      rcases List.mem_append.mp hf with hf | hf
      · exact absurd ⟨f,hf,hset⟩ hearlier
      obtain rfl := List.mem_singleton.mp hf
      exact ⟨traits,f,[],rfl,hset,fun e he hset => absurd ⟨e,he,hset⟩ hearlier,
        fun _ h => absurd h List.not_mem_nil⟩

/-! ## Sides that collapsing keeps -/

/-- A declaration that still decides a side once its rule is collapsed: the last of its property, in
a place behind what could override it. -/
structure Stays (side : Side) (traits : List Trait) (w : Trait) (after : List Trait) : Prop where
  last : ∀ e ∈ after, e.property ≠ w.property
  behind : ∀ u, IsLastBy Trait.property traits u → side.IsSetBy u.property →
    u.property ≠ w.property → u.important = w.important →
      firstAt (traits.map Trait.property) u.property <
        firstAt (traits.map Trait.property) w.property

/-- Whatever declaration decides a side still does once the rule is collapsed. -/
def Steady (side : Side) (traits : List Trait) : Prop :=
  ∀ before w after, traits = before ++ w :: after → Decides side before w after →
    Stays side traits w after

theorem map_trait_property (ds : List Declaration) :
    (ds.map Declaration.trait).map Trait.property = ds.map Declaration.property := by
  rw [List.map_map]
  rfl

theorem isLastBy_trait (h : IsLastBy Declaration.property ds d) :
    IsLastBy Trait.property (ds.map Declaration.trait) d.trait := by
  obtain ⟨before,after,rfl,hafter⟩ := h
  refine ⟨before.map Declaration.trait,after.map Declaration.trait,by simp,fun e he => ?_⟩
  obtain ⟨f,hf,rfl⟩ := List.mem_map.mp he
  exact hafter f hf

theorem exists_of_isLastBy_trait (h : IsLastBy Trait.property (ds.map Declaration.trait) w) :
    ∃ d, d.trait = w ∧ IsLastBy Declaration.property ds d := by
  obtain ⟨before,after,hds,hafter⟩ := h
  obtain ⟨first,rest,rfl,rfl,hrest⟩ := List.map_eq_append_iff.mp hds
  obtain ⟨d,final,rfl,rfl,rfl⟩ := List.map_eq_cons_iff.mp hrest
  exact ⟨d,rfl,first,final,rfl,fun e he => hafter e.trait (List.mem_map_of_mem he)⟩

/-- Only two properties set a side. -/
theorem IsSetBy.eq_or_eq {p q r : Text} (hp : side.IsSetBy p) (hq : side.IsSetBy q)
    (hr : side.IsSetBy r) (hne : p ≠ q) : r = p ∨ r = q := by
  rcases hp with rfl | rfl <;> rcases hq with rfl | rfl <;> rcases hr with rfl | rfl <;>
    simp_all

/-- A kept declaration stands where its property comes up among those of the others. -/
theorem firstAt_ordered {before after : List Declaration}
    (h : collapse ds = before ++ d :: after) :
    (∀ e ∈ before, firstAt (ds.map Declaration.property) e.property <
      firstAt (ds.map Declaration.property) d.property) ∧
    ∀ e ∈ after, firstAt (ds.map Declaration.property) d.property <
      firstAt (ds.map Declaration.property) e.property := by
  have hordered := collapse_ordered ds
  rw [h,List.map_append,List.map_cons] at hordered
  obtain ⟨-,hafter,hbefore⟩ := List.pairwise_append.mp hordered
  exact ⟨fun e he => hbefore _ (List.mem_map_of_mem he) _ List.mem_cons_self,
    fun e he => (List.pairwise_cons.mp hafter).1 _ (List.mem_map_of_mem he)⟩

/-- A declaration that stays decides the side of the collapsed declarations too. -/
theorem decides_collapse {first final front back : List Declaration}
    (hw : Decides side (first.map Declaration.trait) d.trait (final.map Declaration.trait))
    (hstays : Stays side ((first ++ d :: final).map Declaration.trait) d.trait
      (final.map Declaration.trait))
    (hcollapsed : collapse (first ++ d :: final) = front ++ d :: back) :
    Decides side (front.map Declaration.trait) d.trait (back.map Declaration.trait) := by
  have hlast : ∀ e ∈ front ++ d :: back,
      IsLastBy Trait.property ((first ++ d :: final).map Declaration.trait) e.trait :=
    fun e he => isLastBy_trait (mem_collapse.mp (hcollapsed ▸ he))
  have himportant : ∀ e ∈ front ++ d :: back, side.IsSetBy e.property → e.important = true →
      d.important = true := fun e he => by
    have hmem := (hlast e he).mem
    rw [List.map_append,List.map_cons] at hmem
    exact hw.important hmem
  refine ⟨hw.sets,fun e he hset => ?_,fun e he hset => ?_⟩
  · obtain ⟨f,hf,rfl⟩ := List.mem_map.mp he
    exact himportant f (List.mem_append_left _ hf) hset
  · obtain ⟨f,hf,rfl⟩ := List.mem_map.mp he
    have hf' : f ∈ front ++ d :: back := List.mem_append_right _ (List.mem_cons_of_mem _ hf)
    have hlater := (firstAt_ordered hcollapsed).2 f hf
    -- `f` comes up behind `d`, so it is not as important.
    have hdiffers : f.important ≠ d.important := fun hsame => by
      have hne : f.property ≠ d.property := fun h => Nat.ne_of_lt hlater (congrArg _ h.symm)
      have hearlier := hstays.behind f.trait (hlast f hf') hset hne hsame
      rw [map_trait_property] at hearlier
      exact Nat.lt_asymm hlater hearlier
    cases hfi : f.important with
    | true => exact absurd (hfi.trans (himportant f hf' hset hfi).symm) hdiffers
    | false =>
      rw [hfi] at hdiffers
      exact ⟨(Bool.not_eq_false _).mp (Ne.symm hdiffers),hfi⟩

theorem value_collapse (h : Steady side (ds.map Declaration.trait)) :
    side.value (collapse ds) = side.value ds := by
  by_cases hset : ∃ e ∈ ds.map Declaration.trait, side.IsSetBy e.property
  · obtain ⟨before,w,after,hds,hw⟩ := exists_decides hset
    have hstays := h before w after hds hw
    obtain ⟨first,rest,rfl,rfl,hrest⟩ := List.map_eq_append_iff.mp hds
    obtain ⟨d,final,rfl,rfl,rfl⟩ := List.map_eq_cons_iff.mp hrest
    have hkept : d ∈ collapse (first ++ d :: final) := mem_collapse.mpr
      ⟨first,final,rfl,fun e he => hstays.last e.trait (List.mem_map_of_mem he)⟩
    obtain ⟨front,back,hcollapsed⟩ := List.append_of_mem hkept
    rw [hcollapsed,value_of_decides (decides_collapse hw hstays hcollapsed),value_of_decides hw]
  · have hnone : ∀ d ∈ ds, ¬ side.IsSetBy d.property := fun d hd hset' =>
      hset ⟨d.trait,List.mem_map_of_mem hd,hset'⟩
    rw [value_eq_none hnone]
    exact value_eq_none fun d hd => hnone d (mem_collapse.mp hd).mem

/-! ## Sides that collapsing loses -/

/-- The value of one declaration, and that of all others. -/
def own : Text := "a"
def common : Text := "b"

theorem give_isWhole {value : Text} (hv : value = own ∨ value = common) :
    IsWhole (w.give value) := by
  intro _
  change (Shorthand.splitValues value).length ∈ [1,2,4]
  rcases hv with rfl | rfl <;> decide

theorem valueOf_give {value : Text} (hv : value = own ∨ value = common)
    (hset : side.IsSetBy w.property) : side.valueOf (w.give value) = some value := by
  rw [valueOf,Trait.give]
  dsimp only
  by_cases hshort : w.property = shorthand
  · rw [if_pos hshort]
    rcases hv with rfl | rfl <;> cases side <;> rfl
  · rw [if_neg hshort,if_pos (hset.resolve_left hshort)]

/-- Declarations for traits of which one has a value of its own. -/
def told (before : List Trait) (w : Trait) (after : List Trait) : List Declaration :=
  before.map (Trait.give common) ++ w.give own :: after.map (Trait.give common)

theorem mem_told (hd : d ∈ told before w after) :
    d = w.give own ∨ ∃ e, d = Trait.give common e := by
  rcases List.mem_append.mp hd with hd | hd
  · obtain ⟨e,-,rfl⟩ := List.mem_map.mp hd
    exact .inr ⟨e,rfl⟩
  rcases List.mem_cons.mp hd with rfl | hd
  · exact .inl rfl
  · obtain ⟨e,-,rfl⟩ := List.mem_map.mp hd
    exact .inr ⟨e,rfl⟩

theorem map_trait_give (value : Text) (traits : List Trait) :
    (traits.map (Trait.give value)).map Declaration.trait = traits := by
  rw [List.map_map]
  exact List.map_id traits

theorem told_trait (before : List Trait) (w : Trait) (after : List Trait) :
    (told before w after).map Declaration.trait = before ++ w :: after := by
  rw [told,List.map_append,List.map_cons,map_trait_give,map_trait_give]
  rfl

theorem told_isWhole : ∀ d ∈ told before w after, IsWhole d := by
  intro d hd
  rcases mem_told hd with rfl | ⟨e,rfl⟩
  · exact give_isWhole (.inl rfl)
  · exact give_isWhole (.inr rfl)

/-- The value tells which declaration a side has it from. -/
theorem eq_of_valueOf_told (hd : d ∈ told before w after) (h : side.valueOf d = some own) :
    d = w.give own := by
  rcases mem_told hd with rfl | ⟨e,rfl⟩
  · rfl
  · have hset : side.IsSetBy e.property := isSetBy_of_valueOf h
    have hvalue := h.symm.trans (valueOf_give (.inr rfl) hset)
    exact absurd hvalue (by decide)

/-- Behind a declaration that is the last of its property, and not among those, none has it. -/
theorem forall_of_isLastBy {first final : List Declaration}
    (h : IsLastBy Declaration.property (first ++ d :: final) d) (hd : d ∉ final) :
    ∀ e ∈ final, e.property ≠ d.property := by
  induction final using List.reverseRecOn with
  | nil => exact fun _ h => absurd h List.not_mem_nil
  | append_singleton final e ih =>
    rw [← List.cons_append,← List.append_assoc,isLastBy_concat] at h
    rcases h with rfl | ⟨he,h⟩
    · exact absurd (List.mem_append_right _ (List.mem_singleton_self _)) hd
    · refine List.forall_mem_append.mpr
        ⟨ih h fun hmem => hd (List.mem_append_left _ hmem),?_⟩
      simpa using he

/-- A declaration that does not come up before the one with a value of its own, though as important,
decides the side of the collapsed declarations. -/
theorem decides_told {front back : List Declaration} (hw : Decides side before w after)
    (hkept : w.give own ∈ collapse (told before w after))
    (hcollapsed : collapse (told before w after) = front ++ d :: back)
    (hset : side.IsSetBy d.property) (hne : d.property ≠ w.property)
    (hsame : d.important = w.important)
    (hbehind : ¬ firstAt ((told before w after).map Declaration.property) d.property <
      firstAt ((told before w after).map Declaration.property) w.property) :
    Decides side (front.map Declaration.trait) d.trait (back.map Declaration.trait) := by
  obtain ⟨hfront,hback⟩ := firstAt_ordered hcollapsed
  refine ⟨hset,fun e he heset himportant => ?_,fun e he heset => ?_⟩
  · obtain ⟨f,hf,rfl⟩ := List.mem_map.mp he
    rcases IsSetBy.eq_or_eq hset hw.sets heset hne with hfd | hfw
    · exact absurd (congrArg (firstAt _) hfd) (Nat.ne_of_lt (hfront f hf))
    · have hmem : f ∈ collapse (told before w after) := hcollapsed ▸ List.mem_append_left _ hf
      have hf' : f = w.give own := List.inj_on_of_nodup_map (collapse_nodup _) hmem hkept hfw
      rw [hf'] at himportant
      exact hsame.trans himportant
  · obtain ⟨f,hf,rfl⟩ := List.mem_map.mp he
    have hlater := hback f hf
    rcases IsSetBy.eq_or_eq hset hw.sets heset hne with hfd | hfw
    · exact absurd (congrArg (firstAt _) hfd.symm) (Nat.ne_of_lt hlater)
    · exact absurd (hfw ▸ hlater) hbehind

/-- A side that keeps its value whatever the values are is steady. -/
theorem steady_of_told (hw : Decides side before w after)
    (h : side.value (collapse (told before w after)) = side.value (told before w after)) :
    Stays side (before ++ w :: after) w after := by
  have hown : w.give own ∉ after.map (Trait.give common) := fun hmem => by
    obtain ⟨e,-,he⟩ := List.mem_map.mp hmem
    have hcommon : common = own := congrArg Declaration.value he
    exact absurd hcommon (by decide)
  have hvalue : side.value (told before w after) = some own := by
    rw [told,value_of_decides (by rwa [map_trait_give,map_trait_give]),
      valueOf_give (.inl rfl) hw.sets]
  rw [hvalue] at h
  have hkept : w.give own ∈ collapse (told before w after) := by
    obtain ⟨d,hd,hfrom⟩ := value_from h
    exact eq_of_valueOf_told (mem_collapse.mp hd).mem hfrom ▸ hd
  refine ⟨fun e he => ?_,fun u hu hset hne hsame => ?_⟩
  · exact forall_of_isLastBy (mem_collapse.mp hkept) hown (e.give common) (List.mem_map_of_mem he)
  by_contra hbehind
  -- Otherwise `u` is what decides the side of the collapsed rule.
  rw [← told_trait] at hu hbehind
  obtain ⟨d,rfl,hlast⟩ := exists_of_isLastBy_trait hu
  obtain ⟨front,back,hcollapsed⟩ := List.append_of_mem (mem_collapse.mpr hlast)
  rw [map_trait_property] at hbehind
  have hdecides := decides_told hw hkept hcollapsed hset hne hsame hbehind
  rw [hcollapsed,value_of_decides hdecides] at h
  exact hne (congrArg Declaration.property (eq_of_valueOf_told hlast.mem h))

/-- Collapsing keeps the value of a side, for all values that declarations with some properties and
flags can have, just if the side is steady. -/
theorem collapse_keeps_side_iff (side : Side) (traits : List Trait) :
    (∀ r : Rule, r.declarations.map Declaration.trait = traits → (∀ d ∈ r.declarations, IsWhole d) →
        side.value r.effectiveDeclarations = side.value r.declarations) ↔
      Steady side traits := by
  constructor
  · rintro h before w after rfl hw
    exact steady_of_told hw (h ⟨[],told before w after⟩ (told_trait before w after) told_isWhole)
  · rintro hsteady r rfl -
    exact value_collapse hsteady

/-- A shorthand around a declaration for one side. -/
def surrounding : Rule :=
  ⟨".a",[⟨"margin","1px",false⟩,⟨"margin-top","2px",false⟩,⟨"margin","3px",false⟩]⟩

/-- The last shorthand sets all sides, but collapsing puts it before the declaration it
overrides. -/
theorem surrounding_loses_top :
    (∀ d ∈ surrounding.declarations, IsWhole d) ∧
    Side.top.value surrounding.declarations = some ("3px" : Text) ∧
    Side.top.value surrounding.effectiveDeclarations = some ("2px" : Text) := by
  refine ⟨?_,rfl,rfl⟩
  intro d hd _
  simp only [surrounding,List.mem_cons,List.not_mem_nil,or_false] at hd
  rcases hd with rfl | rfl | rfl <;> decide

end Side
end StyleLift
