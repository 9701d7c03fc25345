import StyleLift.Proofs.Utility.Scales

/-! # Values with the same classes

Two values of a property have the same classes just if they are the same text, have the same token
of the property's scale or, for the box shorthands, are so component by component. Tokens of lengths
are not used twice, and what is named is not in brackets, so the classes give all of this away.
-/
namespace StyleLift
open Shorthand

/-- Lengths that are the same text, or the same number of pixels of a scale. -/
def SameLength (scale : Scale Int) (v w : Text) : Prop :=
  v = w ∨ ∃ n, OnScale scale v n ∧ OnScale scale w n

/-- Values that are the same text, or keywords with the same token. -/
def SameKeyword (scale : Scale Text) (v w : Text) : Prop :=
  v = w ∨ ∃ token, scale.lookup? (keyword v) = some token ∧ scale.lookup? (keyword w) = some token

/-- Values of a box shorthand with the same lengths at the same positions. -/
def SameBox (v w : Text) : Prop :=
  Positional v ∧ List.Forall₂ (SameLength spacingScale) (splitValues v) (splitValues w) ∨
    ¬ Positional v ∧ ¬ Positional w ∧ v.trim = w.trim

/-- Values that mean the same for a property. -/
def Equivalent (property v w : Text) : Prop :=
  if property ∈ (["margin","padding"] : List Text) then SameBox v w
  else if property ∈ (["margin-top","margin-right","margin-bottom","margin-left"] : List Text) then
    SameLength spacingScale v w
  else if property = ("font-size" : Text) then SameLength typeScale v w
  else if property ∈ (["color","background-color"] : List Text) then SameKeyword colorScale v w
  else if property = ("font-weight" : Text) then SameKeyword fontWeightScale v w
  else if property = ("display" : Text) then SameKeyword displayScale v w
  else v = w

/-- Values that a way to find classes does not tell apart. -/
def Utility.Same : Utility → Text → Text → Prop
  | .color _ => SameKeyword colorScale
  | .box _ => SameBox
  | .side _ => SameLength spacingScale
  | .fontSize => SameLength typeScale
  | .fontWeight => SameKeyword fontWeightScale
  | .display => SameKeyword displayScale
  | .other => Eq

theorem equivalent_iff {property v w : Text} :
    Equivalent property v w ↔ (utilityOf property).Same v w := by
  by_cases h : property ∈ utilities.map Prod.fst
  · simp only [utilities,List.map_cons,List.map_nil,List.mem_cons,List.not_mem_nil,or_false] at h
    rcases h with rfl | rfl | rfl | rfl | rfl | rfl | rfl | rfl | rfl | rfl | rfl <;> exact Iff.rfl
  · have hutility : utilityOf property = .other := by
      have hnone : utilities.lookup property = none := List.lookup_eq_none_iff.mpr fun p hp =>
        bne_iff_ne.mpr fun heq => h (heq ▸ List.mem_map_of_mem hp)
      rw [utilityOf,hnone,Option.getD_none]
    simp only [utilities,List.map_cons,List.map_nil,List.mem_cons,List.not_mem_nil,or_false,
      not_or] at h
    simp [Equivalent,h,hutility,Utility.Same]

/-! ## One class -/

section Class
variable {named : Text → Option Text} {scale : Scale Int} {stem v w c : Text}

/-- The class that a value is named by, or else the value in brackets, tells the value as far as
values with other names go. -/
theorem class_eq_iff (h : ∀ value c, named value = some c → Named c) :
    (named v).getD (arbitraryClass stem v) = (named w).getD (arbitraryClass stem w) ↔
      v = w ∨ ∃ c, named v = some c ∧ named w = some c := by
  constructor
  · intro heq
    cases hv : named v with
    | none =>
      cases hw : named w with
      | none =>
        rw [hv,hw] at heq
        exact .inl (arbitraryClass_injective heq)
      | some d =>
        rw [hv,hw] at heq
        exact absurd ⟨stem,v,heq.symm⟩ (h w d hw).not_bracketed
    | some c =>
      cases hw : named w with
      | none =>
        rw [hv,hw] at heq
        exact absurd ⟨stem,w,heq⟩ (h v c hv).not_bracketed
      | some d =>
        rw [hv,hw] at heq
        exact .inr ⟨c,rfl,congrArg some heq.symm⟩
  · rintro (rfl | ⟨c,hv,hw⟩)
    · rfl
    · rw [hv,hw,Option.getD_some,Option.getD_some]

theorem named_iff_not_bracketed (h : ∀ value c, named value = some c → Named c) :
    Named ((named v).getD (arbitraryClass stem v)) ↔
      ¬ Bracketed ((named v).getD (arbitraryClass stem v)) := by
  refine ⟨Named.not_bracketed,fun hnot => ?_⟩
  cases hv : named v with
  | none => exact absurd ⟨stem,v,by rw [hv]; rfl⟩ hnot
  | some c => exact h v c hv

theorem stepClass?_named (hscale : scale.tokens ⊆ scaleTokens) (value c : Text)
    (h : stepClass? scale stem value = some c) : Named c := by
  obtain ⟨n,step,-,hstep,rfl⟩ := stepClass?_eq_some.mp h
  exact ⟨step,hscale (Scale.mem_tokens hstep),.inr ⟨stem,rfl⟩⟩

theorem lengthClass_eq_iff (hscale : scale.tokens ⊆ scaleTokens) (hnodup : scale.tokens.Nodup) :
    lengthClass scale stem v = lengthClass scale stem w ↔ SameLength scale v w := by
  rw [lengthClass,lengthClass,class_eq_iff (stepClass?_named hscale),SameLength]
  refine or_congr_right ⟨?_,?_⟩
  · rintro ⟨c,hv,hw⟩
    obtain ⟨n,step,hn,hstep,rfl⟩ := stepClass?_eq_some.mp hv
    obtain ⟨m,other,hm,hother,heq⟩ := stepClass?_eq_some.mp hw
    obtain rfl : other = step := (List.cons.inj (List.append_cancel_left heq)).2
    obtain rfl := Scale.lookup?_injective hnodup hstep hother
    have hkey := Scale.lookup?_isSome.mp (Option.isSome_of_eq_some hstep)
    exact ⟨n,⟨hkey,hn⟩,hkey,hm⟩
  · rintro ⟨n,⟨hkey,hv⟩,-,hw⟩
    obtain ⟨step,hstep⟩ := Option.isSome_iff_exists.mp (Scale.lookup?_isSome.mpr hkey)
    exact ⟨_,stepClass?_eq_some.mpr ⟨n,step,hv,hstep,rfl⟩,
      stepClass?_eq_some.mpr ⟨n,step,hw,hstep,rfl⟩⟩

theorem mem_scaleTokens {token : Text} : token ∈ scaleTokens ↔ token ∈ spacingScale.tokens ∨
    token ∈ typeScale.tokens ∨ token ∈ colorScale.tokens ∨ token ∈ fontWeightScale.tokens ∨
      token ∈ displayScale.tokens := by
  simp only [scaleTokens,List.mem_append,or_assoc]

theorem spacing_tokens : spacingScale.tokens ⊆ scaleTokens ∧ spacingScale.tokens.Nodup :=
  ⟨fun _ h => mem_scaleTokens.mpr (.inl h),by decide⟩

theorem type_tokens : typeScale.tokens ⊆ scaleTokens ∧ typeScale.tokens.Nodup :=
  ⟨fun _ h => mem_scaleTokens.mpr (.inr (.inl h)),by decide⟩

theorem color?_named (value c : Text) (h : color? value stem = some c) : Named c := by
  obtain ⟨token,htoken,rfl⟩ := Option.map_eq_some_iff.mp h
  exact ⟨token,mem_scaleTokens.mpr (.inr (.inr (.inl (Scale.mem_tokens htoken)))),
    .inr ⟨stem,by simp⟩⟩

theorem fontWeight?_named (value c : Text) (h : fontWeight? value = some c) : Named c :=
  ⟨c,mem_scaleTokens.mpr (.inr (.inr (.inr (.inl (Scale.mem_tokens h))))),.inl rfl⟩

theorem display?_named (value c : Text) (h : display? value = some c) : Named c :=
  ⟨c,mem_scaleTokens.mpr (.inr (.inr (.inr (.inr (Scale.mem_tokens h))))),.inl rfl⟩

theorem color_class_eq_iff : (color? v stem).getD (arbitraryClass stem v) =
    (color? w stem).getD (arbitraryClass stem w) ↔ SameKeyword colorScale v w := by
  rw [class_eq_iff color?_named,SameKeyword]
  refine or_congr_right ⟨?_,?_⟩
  · rintro ⟨c,hv,hw⟩
    obtain ⟨token,htoken,rfl⟩ := Option.map_eq_some_iff.mp hv
    obtain ⟨other,hother,heq⟩ := Option.map_eq_some_iff.mp hw
    obtain rfl : other = token := List.append_cancel_left heq
    exact ⟨other,htoken,hother⟩
  · rintro ⟨token,hv,hw⟩
    exact ⟨_,Option.map_eq_some_iff.mpr ⟨token,hv,rfl⟩,Option.map_eq_some_iff.mpr ⟨token,hw,rfl⟩⟩

end Class

/-! ## Classes of a box shorthand -/

section Boxes
variable {stem v w : Text} {cs ds : List Text}

/-- The class for a part of a value. -/
def Shorthand.Part.className (part : Part) : Text := lengthClass spacingScale part.stem part.value

theorem className_zipWith {stems as bs : List Text} (ha : as.length = stems.length)
    (hb : bs.length = stems.length) :
    (List.zipWith Shorthand.Part.mk stems as).map Part.className =
      (List.zipWith Shorthand.Part.mk stems bs).map Part.className ↔
        List.Forall₂ (SameLength spacingScale) as bs := by
  induction stems generalizing as bs with
  | nil =>
    rw [List.length_eq_zero_iff.mp ha,List.length_eq_zero_iff.mp hb]
    exact iff_of_true rfl .nil
  | cons stem stems ih =>
    obtain ⟨a,as,rfl⟩ := List.exists_cons_of_length_eq_add_one ha
    obtain ⟨b,bs,rfl⟩ := List.exists_cons_of_length_eq_add_one hb
    rw [List.zipWith_cons_cons,List.zipWith_cons_cons,List.map_cons,List.map_cons,List.cons.injEq,
      ih (Nat.succ.inj ha) (Nat.succ.inj hb),List.forall₂_cons]
    exact and_congr_left' (lengthClass_eq_iff spacing_tokens.1 spacing_tokens.2)

/-- One component is told from any other number of them, though all of these have one class. -/
theorem positional_of_same (hv : Positional v) (h : (partsOf stem v).map Part.className =
    (partsOf stem w).map Part.className) : Positional w := by
  by_contra hw
  have hlength : (splitValues v).length = 1 := by
    have hsame := congrArg List.length h
    rwa [List.length_map,List.length_map,hv.length_partsOf,partsOf_other hw] at hsame
  obtain ⟨a,ha⟩ := List.length_eq_one_iff.mp hlength
  rw [partsOf_other hw,partsOf,ha] at h
  rcases (lengthClass_eq_iff spacing_tokens.1 spacing_tokens.2).mp (List.singleton_inj.mp h) with
    rfl | ⟨n,-,-,hn⟩
  · have hsplit := splitValues_congr (trim_of_split ha)
    exact hw (by rwa [Positional,← hsplit])
  · cases (pixels?_of_other hw).symm.trans hn

theorem box_classes_eq_iff :
    (partsOf stem v).map Part.className = (partsOf stem w).map Part.className ↔ SameBox v w := by
  rw [SameBox]
  constructor
  · intro h
    by_cases hv : Positional v
    · have hw := positional_of_same hv h
      have hlength : (splitValues v).length = (splitValues w).length := by
        have hsame := congrArg List.length h
        rwa [List.length_map,List.length_map,hv.length_partsOf,hw.length_partsOf] at hsame
      rw [hv.partsOf,hw.partsOf,← hlength] at h
      have hstems := hv.length_componentStems stem
      exact .inl ⟨hv,(className_zipWith hstems.symm (hlength ▸ hstems.symm)).mp h⟩
    · have hw : ¬ Positional w := fun hw => hv (positional_of_same hw h.symm)
      rw [partsOf_other hv,partsOf_other hw] at h
      rcases (lengthClass_eq_iff spacing_tokens.1 spacing_tokens.2).mp
        (List.singleton_inj.mp h) with htrim | ⟨n,⟨-,hn⟩,-⟩
      · exact .inr ⟨hv,hw,htrim⟩
      · cases (pixels?_of_other hv).symm.trans hn
  · rintro (⟨hv,hsame⟩ | ⟨hv,hw,htrim⟩)
    · have hlength := hsame.length_eq
      have hw : Positional w := by rwa [Positional,← hlength]
      have hstems := hv.length_componentStems stem
      rw [hv.partsOf,hw.partsOf,← hlength]
      exact (className_zipWith hstems.symm (hlength ▸ hstems.symm)).mpr hsame
    · rw [partsOf_other hv,partsOf_other hw,htrim]

end Boxes

/-! ## All properties -/

theorem classes_eq_iff {property v w : Text} (utility : Utility) :
    utility.classes property v = utility.classes property w ↔ utility.Same v w := by
  cases utility with
  | color stem => exact List.singleton_inj.trans color_class_eq_iff
  | box stem => exact box_classes_eq_iff
  | side stem =>
    exact List.singleton_inj.trans (lengthClass_eq_iff spacing_tokens.1 spacing_tokens.2)
  | fontSize => exact List.singleton_inj.trans (lengthClass_eq_iff type_tokens.1 type_tokens.2)
  | fontWeight => exact List.singleton_inj.trans (class_eq_iff fontWeight?_named)
  | display => exact List.singleton_inj.trans (class_eq_iff display?_named)
  | other =>
    exact List.singleton_inj.trans ⟨arbitraryClass_injective,congrArg (arbitraryClass property)⟩

/-- No class is both named and bracketed. -/
theorem classes_named_iff {property v c : Text} (utility : Utility)
    (hc : c ∈ utility.classes property v) : Named c ↔ ¬ Bracketed c := by
  cases utility with
  | color stem =>
    obtain rfl := List.mem_singleton.mp hc
    exact named_iff_not_bracketed color?_named
  | box stem =>
    obtain ⟨part,-,rfl⟩ := List.mem_map.mp hc
    exact named_iff_not_bracketed (stepClass?_named spacing_tokens.1)
  | side stem =>
    obtain rfl := List.mem_singleton.mp hc
    exact named_iff_not_bracketed (stepClass?_named spacing_tokens.1)
  | fontSize =>
    obtain rfl := List.mem_singleton.mp hc
    exact named_iff_not_bracketed (stepClass?_named type_tokens.1)
  | fontWeight =>
    obtain rfl := List.mem_singleton.mp hc
    exact named_iff_not_bracketed fontWeight?_named
  | display =>
    obtain rfl := List.mem_singleton.mp hc
    exact named_iff_not_bracketed display?_named
  | other =>
    obtain rfl := List.mem_singleton.mp hc
    exact iff_of_false (fun h => h.not_bracketed ⟨property,v,rfl⟩) (not_not_intro ⟨property,v,rfl⟩)

/-- Values of a property have the same classes just if they are equivalent for it. Every class is
either named or bracketed, so one of these is never taken for one of those. -/
theorem classesOf_eq_iff {property v w : Text} {cs ds : List Text}
    (hv : classesOf property v = .ok cs) (hw : classesOf property w = .ok ds) :
    (cs = ds ↔ Equivalent property v w) ∧ ∀ c ∈ cs, Named c ↔ ¬ Bracketed c := by
  rw [classesOf_eq_ok hv,classesOf_eq_ok hw,equivalent_iff]
  exact ⟨classes_eq_iff _,fun c hc => classes_named_iff _ hc⟩

/-- Pixels in another letter case and other blanks are the same margin, and have the same
classes. -/
theorem classesOf_eq_iff_margin :
    classesOf "margin" "16PX calc(1px + 2px)" = .ok ["my-4","mx-[calc(1px + 2px)]"] ∧
    classesOf "margin" "\t16px  calc(1px + 2px) " = .ok ["my-4","mx-[calc(1px + 2px)]"] ∧
    Equivalent "margin" "16PX calc(1px + 2px)" "\t16px  calc(1px + 2px) " := by
  have hv : classesOf "margin" "16PX calc(1px + 2px)" =
      .ok ["my-4","mx-[calc(1px + 2px)]"] := by decide
  have hw : classesOf "margin" "\t16px  calc(1px + 2px) " =
      .ok ["my-4","mx-[calc(1px + 2px)]"] := by decide
  exact ⟨hv,hw,(classesOf_eq_iff hv hw).1.mp rfl⟩

end StyleLift
