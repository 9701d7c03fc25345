import StyleLift.Component.Framework
import StyleLift.Component.Styled
import StyleLift.Proofs.Json.Bytes

/-! # What sources are made of

The source of a component is made of what is written out, of its name as it is and lowered, and of
its styles. It has a surrogate only where its name or its styles have one: lowering a code point
gives none.
-/
namespace StyleLift

theorem CodePoint.not_surrogate_ofNat {n : Nat} (h : n < 0xD800 ∨ 0xDFFF < n) :
    Text.isSurrogate (CodePoint.ofNat n) = false := by
  rw [CodePoint.ofNat,CodePoint.ofNat?]
  split
  · rfl
  · rw [dif_neg (by omega)]
    rfl

/-- No lowercase form in the table is a surrogate. -/
theorem loweringRuns_not_surrogate : ∀ run ∈ loweringRuns,
    (run.2.1 : Int) + run.2.2.2 < 0xD800 ∨ 0xDFFF < (run.1 : Int) + run.2.2.2 := by
  decide +kernel

/-- What holds of every form that a code point can lower to. -/
theorem CodePoint.forall_lower {p : CodePoint → Prop} {c : CodePoint}
    (hascii : c.val < 0x80 → p c.asciiLower) (hdotted : p (.char 'i') ∧ p (.char '\u0307'))
    (hruns : ∀ run ∈ loweringRuns, run.1 ≤ c.val → c.val ≤ run.2.1 →
      p (.ofNat (Int.toNat (c.val + run.2.2.2))))
    (hself : p c) : ∀ d ∈ c.lower, p d := by
  rw [CodePoint.lower]
  dsimp only
  split
  · next hlow => exact List.forall_mem_singleton.mpr (hascii hlow)
  split
  · exact List.forall_mem_cons.mpr ⟨hdotted.1,List.forall_mem_singleton.mpr hdotted.2⟩
  split
  · next first last step distance hrun =>
    have hrange := List.find?_some hrun
    simp only [Bool.and_eq_true,decide_eq_true_eq,beq_iff_eq] at hrange
    refine List.forall_mem_singleton.mpr ?_
    exact hruns _ (List.mem_of_find?_eq_some hrun) hrange.1.1 hrange.1.2
  · exact List.forall_mem_singleton.mpr hself

theorem CodePoint.lower_isScalar {c : CodePoint} (h : Text.isSurrogate c = false) :
    c.lower.IsScalar := by
  refine CodePoint.forall_lower (fun _ => ?_) (by decide) (fun run hrun hfirst hlast => ?_) h
  · cases c with
    | char c => rfl
    | surrogate low => cases h
  · have hform := loweringRuns_not_surrogate run hrun
    refine CodePoint.not_surrogate_ofNat ?_
    omega

theorem Text.mem_of_mem_trim {s : Text} {c : CodePoint} (h : c ∈ trim s) : c ∈ s := by
  have hstart := (List.dropWhile_sublist _).subset (List.mem_reverse.mp h)
  exact (List.dropWhile_sublist _).subset (List.mem_reverse.mp hstart)

/-- What holds of all that can be typed and of the styles holds of their sheet. -/
theorem Component.forall_styledSheet {p : CodePoint → Prop} (hp : ∀ c, Json.IsTypable c → p c)
    {styles : Text} (h : ∀ c ∈ styles, p c) : ∀ c ∈ styledSheet styles, p c := by
  have himport : ∀ c ∈ styledImport ++ Text.ofString "\n\n", Json.IsTypable c := by decide
  have hnewline : ∀ c ∈ [CodePoint.char '\n'], Json.IsTypable c := by decide
  refine List.forall_mem_append.mpr ⟨fun c hc => hp c (himport c hc),?_⟩
  refine Text.forall_joinWith (fun c hc => hp c (hnewline c hc)) fun line hline c hc => ?_
  obtain ⟨part,hpart,rfl⟩ := List.mem_map.mp hline
  exact h c (Text.mem_of_mem_splitOn hpart (Text.mem_of_mem_trim hc))

theorem Component.mem_kebab {name : Text} {d : CodePoint} (h : d ∈ kebab name) :
    d = .char '-' ∨ ∃ c ∈ name, d ∈ c.lower := by
  cases name with
  | nil => cases h
  | cons c rest =>
    obtain ⟨e,he,rfl⟩ := List.mem_map.mp h
    rw [hyphenate]
    split
    · exact .inl rfl
    rcases List.mem_append.mp he with he | he
    · exact .inr ⟨c,List.mem_cons_self,he⟩
    · obtain ⟨b,hb,hbe⟩ := List.mem_flatMap.mp he
      rw [kebabCodePoint] at hbe
      split at hbe
      · exact (List.mem_cons.mp hbe).imp_right fun hbe => ⟨b,List.mem_cons_of_mem _ hb,hbe⟩
      · exact .inr ⟨b,List.mem_cons_of_mem _ hb,hbe⟩

namespace Framework
variable {name styles : Text} {parts : List (List Text)}

/-- A part of a source that depends on the name, or is written out. -/
def IsPart (name part : Text) : Prop :=
  part = name ∨ part = Component.kebab name ∨ ∀ c ∈ part, Json.IsTypable c

theorem forall_lines {p : CodePoint → Prop} (hnewline : p (.char '\n'))
    (h : ∀ line ∈ parts, ∀ part ∈ line, ∀ c ∈ part, p c) : ∀ c ∈ lines parts, p c := by
  refine Text.forall_joinWith ?_ fun line hline => ?_
  · exact List.forall_mem_cons.mpr ⟨hnewline,fun _ h => absurd h List.not_mem_nil⟩
  · obtain ⟨pieces,hpieces,rfl⟩ := List.mem_map.mp hline
    intro c hc
    obtain ⟨part,hpart,hmem⟩ := List.mem_flatten.mp hc
    exact h pieces hpieces part hpart c hmem

/-- What holds of all that can be typed, of the name, of its lowered form and of the styles holds of
the source of a component. -/
theorem forall_component {p : CodePoint → Prop} (hp : ∀ c, Json.IsTypable c → p c) (f : Framework)
    (hname : ∀ c ∈ name, p c) (hlower : ∀ c ∈ name, ∀ d ∈ c.lower, p d)
    (hstyles : ∀ c ∈ styles, p c) : ∀ c ∈ f.component name styles, p c := by
  have hkebab : ∀ d ∈ Component.kebab name, p d := fun d hd => by
    rcases Component.mem_kebab hd with rfl | ⟨c,hc,hd⟩
    · exact hp _ (by decide)
    · exact hlower c hc d hd
  have hpart : ∀ part, IsPart name part → ∀ c ∈ part, p c := by
    rintro part (rfl | rfl | hpart)
    · exact hname
    · exact hkebab
    · exact fun c hc => hp c (hpart c hc)
  have hlines : ∀ parts : List (List Text), (∀ line ∈ parts, ∀ part ∈ line, IsPart name part) →
      ∀ c ∈ lines parts, p c := fun parts h =>
    forall_lines (hp _ (by decide)) fun line hline part hmem => hpart part (h line hline part hmem)
  have hopening : ∀ c ∈ f.opening name, p c := by
    cases f <;> refine hlines _ ?_ <;> simp only [List.forall_mem_cons]
    all_goals
      repeat' apply And.intro
      all_goals first
        | exact fun _ h => absurd h List.not_mem_nil
        | exact .inl rfl
        | exact .inr (.inl rfl)
        | exact .inr (.inr (by decide +kernel))
  have hclosing : ∀ c ∈ f.closing name, p c := by
    cases f <;> refine hlines _ ?_ <;> simp only [List.forall_mem_cons]
    all_goals
      repeat' apply And.intro
      all_goals first
        | exact fun _ h => absurd h List.not_mem_nil
        | exact .inl rfl
        | exact .inr (.inr (by decide +kernel))
  exact List.forall_mem_append.mpr ⟨List.forall_mem_append.mpr ⟨hopening,hstyles⟩,hclosing⟩

theorem component_isScalar (f : Framework) (hname : name.IsScalar) (hstyles : styles.IsScalar) :
    (f.component name styles).IsScalar :=
  forall_component (fun _ => Json.IsTypable.not_surrogate) f hname
    (fun c hc => CodePoint.lower_isScalar (hname c hc)) hstyles

end Framework
end StyleLift
