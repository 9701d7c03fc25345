import StyleLift.Proofs.Run.Outcome
import StyleLift.Text.Shifting

/-! # Which bytes with shifts are read

A decoder with shifts goes over its bytes in steps. It comes to a text unless some steps lead it to
bytes at which it is stuck. HZ is never stuck. ISO 2022 is stuck where the end cuts a sequence off
that is too long to be kept, and where a single character is to come from a set that gives none.
-/
namespace StyleLift

namespace ShiftStep

/-- Some steps lead from a state and its bytes to another state and the bytes that are left. -/
inductive Reaches {State : Type} (step : State → List UInt8 → ShiftStep State) :
    State → List UInt8 → State → List UInt8 → Prop
  | refl (s : State) (bytes : List UInt8) : Reaches step s bytes s bytes
  | text {s next last : State} {b : UInt8} {rest left : List UInt8} {written : Text} {length : Nat}
      (h : step s (b :: rest) = .text written length next)
      (hrest : Reaches step next (rest.drop (length - 1)) last left) :
      Reaches step s (b :: rest) last left
  | wrong {s last : State} {b : UInt8} {rest left : List UInt8} {length : Nat}
      (h : step s (b :: rest) = .wrong length)
      (hrest : Reaches step s (rest.drop (length - 1)) last left) :
      Reaches step s (b :: rest) last left

variable {State : Type} {step : State → List UInt8 → ShiftStep State} {s : State}
  {bytes : List UInt8}

/-- A decoder cannot go on, and what is left is more than is kept of a code that is cut off. -/
def IsStuck (step : State → List UInt8 → ShiftStep State) (s : State) (bytes : List UInt8) : Prop :=
  bytes ≠ [] ∧ (step s bytes = .failed ∨ step s bytes = .cut ∧ longestCut < bytes.length)

theorem not_isStuck (hfailed : step s bytes ≠ .failed) (hcut : step s bytes ≠ .cut) :
    ¬ IsStuck step s bytes := by
  rintro ⟨-,hstuck | ⟨hstuck,-⟩⟩
  · exact hfailed hstuck
  · exact hcut hstuck

/-- Bytes come to a text just if no steps lead to where the decoder is stuck. -/
theorem decode_returns : (∃ text, decode false step s bytes = .ok text) ↔
    ∀ last left, Reaches step s bytes last left → ¬ IsStuck step last left := by
  fun_induction decode false step s bytes with
  | case1 s =>
    refine iff_of_true ⟨_,rfl⟩ fun last left hreaches hstuck => ?_
    cases hreaches
    exact hstuck.1 rfl
  | case2 s b rest written length next hstep ih =>
    rw [map_returns,ih]
    refine ⟨fun h last left hreaches => ?_,fun h last left hreaches =>
      h last left (.text hstep hreaches)⟩
    cases hreaches with
    | refl =>
      exact not_isStuck (fun h => by cases hstep.symm.trans h) fun h => by cases hstep.symm.trans h
    | text hother hrest =>
      cases hstep.symm.trans hother
      exact h last left hrest
    | wrong hother hrest => cases hstep.symm.trans hother
  | case3 s b rest length hstep hstrict => cases hstrict
  | case4 s b rest length hstep hstrict ih =>
    rw [map_returns,ih]
    refine ⟨fun h last left hreaches => ?_,fun h last left hreaches =>
      h last left (.wrong hstep hreaches)⟩
    cases hreaches with
    | refl =>
      exact not_isStuck (fun h => by cases hstep.symm.trans h) fun h => by cases hstep.symm.trans h
    | text hother hrest => cases hstep.symm.trans hother
    | wrong hother hrest =>
      cases hstep.symm.trans hother
      exact h last left hrest
  | case5 s b rest hstep hstrict => cases hstrict
  | case6 s b rest hstep hstrict hlong =>
    exact iff_of_false (fun ⟨_,h⟩ => by cases h) fun h =>
      h s (b :: rest) (.refl s _) ⟨List.cons_ne_nil _ _,.inr ⟨hstep,hlong⟩⟩
  | case7 s b rest hstep hstrict hshort =>
    refine iff_of_true ⟨_,rfl⟩ fun last left hreaches hstuck => ?_
    cases hreaches with
    | refl =>
      rcases hstuck.2 with hfailed | ⟨-,hlong⟩
      · cases hstep.symm.trans hfailed
      · exact hshort hlong
    | text hother hrest => cases hstep.symm.trans hother
    | wrong hother hrest => cases hstep.symm.trans hother
  | case8 s b rest hstep =>
    exact iff_of_false (fun ⟨_,h⟩ => by cases h) fun h =>
      h s (b :: rest) (.refl s _) ⟨List.cons_ne_nil _ _,.inl hstep⟩

end ShiftStep

/-! ## HZ -/

theorem Hz.step_ne_failed (wide : Bool) (bytes : List UInt8) : step wide bytes ≠ .failed := by
  unfold step
  (repeat' split) <;> exact fun h => by cases h

/-- Only one byte is left where HZ is cut off. -/
theorem Hz.length_of_cut {wide : Bool} {bytes : List UInt8} (h : step wide bytes = .cut) :
    bytes.length ≤ 1 := by
  unfold step at h
  (repeat' split at h) <;> cases h <;> simp

theorem Hz.decode_returns (bytes : List UInt8) : ∃ text, decode false bytes = .ok text := by
  refine ShiftStep.decode_returns.mpr fun wide left _ hstuck => ?_
  rcases hstuck.2 with hfailed | ⟨hcut,hlong⟩
  · exact step_ne_failed wide left hfailed
  · exact absurd (Nat.lt_of_lt_of_le hlong (length_of_cut hcut)) (by decide)

/-! ## ISO 2022 -/

namespace Iso2022

/-- Where a form of ISO 2022 is stuck. -/
inductive Stuck (v : Iso2022) (s : State) : List UInt8 → Prop
  | sequence {b : UInt8} {rest : List UInt8} (hpassing : s.passing = false)
      (hb : isIntroducer b = true) (hcut : extentFrom v.hasAnnouncements 1 (b :: rest) = .cut)
      (hlong : ShiftStep.longestCut < (escape :: b :: rest).length) :
      Stuck v s (escape :: b :: rest)
  | single {c : UInt8} {rest : List UInt8} (hpassing : s.passing = false)
      (hv : v.hasSingleShift = true) (hthird : s.third ∉ [asciiMark,latinMark,greekMark]) :
      Stuck v s (escape :: 0x4E :: c :: rest)

variable {v : Iso2022} {s : State} {b : UInt8} {bytes rest : List UInt8}

theorem readSequence_ne_failed : v.readSequence s bytes ≠ .failed := by
  unfold readSequence
  (repeat' split) <;> exact fun h => by cases h

theorem readSequence_eq_cut :
    v.readSequence s bytes = .cut ↔ extentFrom v.hasAnnouncements 1 (bytes.drop 1) = .cut := by
  unfold readSequence
  split
  · next hcut => exact iff_of_true rfl hcut
  · next hendless =>
    exact iff_of_false (fun h => by cases h) fun h => by cases hendless.symm.trans h
  · next length hends =>
    refine iff_of_false (fun h => ?_) fun h => by cases hends.symm.trans h
    revert h
    (repeat' split) <;> exact fun h => by cases h

theorem singles?_eq_none {mark : Mark} :
    singles? mark = none ↔ mark ∉ [asciiMark,latinMark,greekMark] := by
  simp only [singles?,List.mem_cons,List.not_mem_nil,or_false,not_or]
  split
  · next h => exact iff_of_false (fun h => by cases h) fun hnot => hnot.2.1 h
  · split
    · next h => exact iff_of_false (fun h => by cases h) fun hnot => hnot.2.2 h
    · split
      · next h => exact iff_of_false (fun h => by cases h) fun hnot => hnot.1 h
      · next hlatin hgreek hascii => exact iff_of_true rfl ⟨hascii,hlatin,hgreek⟩

theorem readSingle_ne_cut : readSingle s b ≠ .cut := by
  unfold readSingle
  (repeat' split) <;> exact fun h => by cases h

theorem readSingle_eq_failed :
    readSingle s b = .failed ↔ s.third ∉ [asciiMark,latinMark,greekMark] := by
  rw [← singles?_eq_none,readSingle]
  split
  · next hnone => exact iff_of_true rfl hnone
  · next hsome =>
    refine iff_of_false ?_ fun h => by cases hsome.symm.trans h
    split <;> exact fun h => by cases h

theorem readCharacter_ne_failed : v.readCharacter s b rest ≠ .failed := by
  unfold readCharacter
  dsimp only
  (repeat' split) <;> exact fun h => by cases h

theorem nil_of_readCharacter_eq_cut (h : v.readCharacter s b rest = .cut) : rest = [] := by
  unfold readCharacter at h
  dsimp only at h
  (repeat' split at h) <;> cases h <;> rfl

theorem readPlain_ne_failed : v.readPlain s b rest ≠ .failed := by
  unfold readPlain
  (repeat' split) <;> first | exact readCharacter_ne_failed | exact fun h => by cases h

/-- A character that the end cuts off has but one byte left. -/
theorem nil_of_readPlain_eq_cut (h : v.readPlain s b rest = .cut) : rest = [] := by
  revert h
  unfold readPlain
  (repeat' split) <;> first | exact nil_of_readCharacter_eq_cut | exact fun h => by cases h

theorem readEscape_stuck (hpassing : s.passing = false) :
    (v.readEscape s rest = .failed ∨
      v.readEscape s rest = .cut ∧ ShiftStep.longestCut < (escape :: rest).length) ↔
        v.Stuck s (escape :: rest) := by
  rcases rest with _ | ⟨b,rest⟩
  · refine iff_of_false ?_ fun h => by cases h
    rintro (hfailed | ⟨-,hlong⟩)
    · cases hfailed
    · exact absurd hlong (by decide)
  unfold readEscape
  dsimp only
  by_cases hb : isIntroducer b = true
  · rw [if_pos hb,or_iff_right readSequence_ne_failed,readSequence_eq_cut]
    refine ⟨fun ⟨hcut,hlong⟩ => .sequence hpassing hb hcut hlong,fun h => ?_⟩
    cases h with
    | sequence _ _ hcut hlong => exact ⟨hcut,hlong⟩
    | single => cases hb
  rw [if_neg hb]
  by_cases hsingle : v.hasSingleShift = true ∧ b = 0x4E
  · obtain ⟨hv,rfl⟩ := hsingle
    rw [if_pos (by simp [hv])]
    rcases rest with _ | ⟨c,rest⟩
    · refine iff_of_false ?_ fun h => ?_
      · rintro (hfailed | ⟨-,hlong⟩)
        · cases hfailed
        · exact absurd hlong (by decide)
      · cases h with
        | sequence _ hintroducer => exact hb hintroducer
    · dsimp only
      rw [or_iff_left fun h => readSingle_ne_cut h.1,readSingle_eq_failed]
      refine ⟨fun hthird => .single hpassing hv hthird,fun h => ?_⟩
      cases h with
      | sequence _ hintroducer => exact absurd hintroducer hb
      | single _ _ hthird => exact hthird
  · rw [if_neg (by simpa using hsingle)]
    refine iff_of_false ?_ fun h => ?_
    · rintro (hfailed | ⟨hcut,-⟩)
      · cases hfailed
      · cases hcut
    · cases h with
      | sequence _ hintroducer => exact hb hintroducer
      | single _ hv => exact hsingle ⟨hv,rfl⟩

theorem isStuck_iff : ShiftStep.IsStuck v.step s bytes ↔ v.Stuck s bytes := by
  rcases bytes with _ | ⟨a,rest⟩
  · exact iff_of_false (fun h => h.1 rfl) fun h => by cases h
  rw [ShiftStep.IsStuck,and_iff_right (List.cons_ne_nil _ _),step]
  by_cases hpassing : s.passing = true
  · rw [if_pos hpassing]
    refine iff_of_false ?_ fun h => ?_
    · rintro (hfailed | ⟨hcut,-⟩)
      · cases hfailed
      · cases hcut
    · cases h with
      | sequence hnot => cases hpassing.symm.trans hnot
      | single hnot => cases hpassing.symm.trans hnot
  rw [if_neg hpassing]
  by_cases ha : a = escape
  · rw [if_pos ha,ha]
    exact readEscape_stuck (Bool.eq_false_iff.mpr hpassing)
  · rw [if_neg ha,or_iff_right readPlain_ne_failed]
    refine iff_of_false ?_ fun h => ?_
    · rintro ⟨hcut,hlong⟩
      rw [nil_of_readPlain_eq_cut hcut] at hlong
      exact absurd (show 8 < 1 from hlong) (by decide)
    · cases h <;> exact ha rfl

/-- Bytes that a form of ISO 2022 reads: no steps lead to where it is stuck. -/
def Reads (v : Iso2022) (bytes : List UInt8) : Prop :=
  ∀ s left, ShiftStep.Reaches v.step .start bytes s left → ¬ v.Stuck s left

theorem decode_returns : (∃ text, v.decode false bytes = .ok text) ↔ v.Reads bytes := by
  simp only [decode,ShiftStep.decode_returns,isStuck_iff,Reads]

end Iso2022
end StyleLift
