import Mathlib.Data.List.TakeWhile
import StyleLift.Markup.Reference
import StyleLift.Proofs.Number.Limits

/-! # References that are not decoded

A numeric reference in base ten is decoded if it has few enough digits. No reference takes the
ampersand of another one, so a value is decoded just if none of its ampersands starts such a
reference.
-/
namespace StyleLift

namespace Markup

/-- What comes after the ampersand of a reference with more digits than are read. -/
def StartsOverlong (s : Text) : Prop :=
  ∃ digits after : Text, s = .char '#' :: (digits ++ after) ∧
    (∀ c ∈ digits, c.isAsciiDigit = true) ∧ Numeral.digitLimit < digits.length

/-- A value with a reference of more digits than are read. -/
def OverlongReference (s : Text) : Prop :=
  ∃ before rest : Text, s = before ++ .char '&' :: rest ∧ StartsOverlong rest

theorem overlongReference_cons {c : CodePoint} {s : Text} :
    OverlongReference (c :: s) ↔ c = .char '&' ∧ StartsOverlong s ∨ OverlongReference s := by
  constructor
  · rintro ⟨before,rest,h,hs⟩
    cases before with
    | nil =>
      cases h
      exact .inl ⟨rfl,hs⟩
    | cons d before =>
      cases h
      exact .inr ⟨before,rest,rfl,hs⟩
  · rintro (⟨rfl,hs⟩ | ⟨before,rest,rfl,hs⟩)
    · exact ⟨[],s,rfl,hs⟩
    · exact ⟨c :: before,rest,rfl,hs⟩

theorem not_overlongReference_nil : ¬ OverlongReference [] := by
  rintro ⟨before,rest,h,-⟩
  simp at h

/-- A run of digits at the start of a text belongs to the longest one there. -/
theorem startsOverlong_number {s : Text} : StartsOverlong (.char '#' :: s) ↔
    Numeral.digitLimit < (s.takeWhile CodePoint.isAsciiDigit).length := by
  constructor
  · rintro ⟨digits,after,h,hd,hlong⟩
    cases h
    rw [List.takeWhile_append_of_pos hd,List.length_append]
    omega
  · intro h
    exact ⟨_,_,by rw [List.takeWhile_append_dropWhile],fun c hc => List.mem_takeWhile_imp hc,h⟩

theorem takeReference_eq_error {s : Text} {e : NumeralError} (h : takeReference s = .error e) :
    StartsOverlong s ∧ e.OverLimit := by
  unfold takeReference at h
  dsimp only at h
  split at h
  · next rest =>
    split at h
    · obtain ⟨hlong,rfl⟩ := checkDigits_eq_error.mp (map_eq_error.mp h)
      exact ⟨startsOverlong_number.mpr hlong,_,hlong,rfl⟩
    split at h <;> cases h
  · split at h <;> cases h

theorem takeReference_returns {s : Text} :
    (∃ found, takeReference s = .ok found) ↔ ¬ StartsOverlong s := by
  constructor
  · rintro ⟨found,h⟩ ⟨digits,after,rfl,hd⟩
    have hlong := startsOverlong_number.mp ⟨digits,after,rfl,hd⟩
    have hne : (!((digits ++ after).takeWhile CodePoint.isAsciiDigit).isEmpty) = true := by
      cases hrun : (digits ++ after).takeWhile CodePoint.isAsciiDigit with
      | nil => exact absurd hlong (by rw [hrun]; simp)
      | cons c run => rfl
    rw [takeReference] at h
    dsimp only at h
    rw [if_pos hne] at h
    obtain ⟨u,hu,-⟩ := map_eq_ok.mp h
    exact checkDigits_returns.mp ⟨u,hu⟩ hlong
  · intro h
    cases hs : takeReference s with
    | ok found => exact ⟨found,rfl⟩
    | error e => exact (h (takeReference_eq_error hs).1).elim

/-! ## What a reference takes -/

def NoAmpersand (s : Text) : Prop := ∀ c ∈ s, c ≠ .char '&'

theorem noAmpersand_of_forall {p : CodePoint → Bool} {s : Text} (hp : p (.char '&') = false)
    (h : ∀ c ∈ s, p c = true) : NoAmpersand s := by
  rintro c hc rfl
  exact absurd (hp.symm.trans (h _ hc)) (by decide)

theorem NoAmpersand.semicolon {s : Text} {n : Nat} (h : NoAmpersand (s.take n)) :
    NoAmpersand (s.take (n + if Text.startsWith (s.drop n) ";" then 1 else 0)) := by
  split
  · next hs =>
    obtain ⟨rest,hrest⟩ := List.isPrefixOf_iff_prefix.mp hs
    rw [List.take_add,← hrest]
    intro c hc
    rcases List.mem_append.mp hc with hc | hc
    · exact h c hc
    · rw [List.mem_singleton.mp hc]
      decide
  · exact h

theorem take_takeWhile (p : CodePoint → Bool) (s : Text) :
    s.take (s.takeWhile p).length = s.takeWhile p :=
  (List.prefix_iff_eq_take.mp (List.takeWhile_prefix p)).symm

/-- No reference goes over an ampersand. -/
theorem takeReference_noAmpersand {s text : Text} {taken : Nat}
    (h : takeReference s = .ok (some (text,taken))) : NoAmpersand (s.take taken) := by
  unfold takeReference at h
  dsimp only at h
  split at h
  · next rest =>
    split at h
    · obtain ⟨-,-,h⟩ := map_eq_ok.mp h
      cases h
      refine NoAmpersand.semicolon ?_
      rw [Nat.add_comm,List.take_succ_cons,take_takeWhile]
      exact List.forall_mem_cons.mpr
        ⟨by decide,noAmpersand_of_forall rfl fun c hc => List.mem_takeWhile_imp hc⟩
    split at h
    · next hx =>
      cases h
      refine NoAmpersand.semicolon ?_
      obtain ⟨hx,-⟩ := (Bool.and_eq_true _ _).mp hx
      obtain ⟨x,tail,rfl,hmark⟩ : ∃ x tail, rest = x :: tail ∧ x ≠ .char '&' := by
        rcases (Bool.or_eq_true _ _).mp hx with hx | hx <;>
          obtain ⟨tail,rfl⟩ := List.isPrefixOf_iff_prefix.mp hx <;>
          exact ⟨_,tail,rfl,by decide⟩
      rw [Nat.add_comm,List.take_succ_cons,List.take_succ_cons]
      change NoAmpersand (_ :: x :: tail.take (tail.takeWhile CodePoint.isHexDigit).length)
      rw [take_takeWhile]
      exact List.forall_mem_cons.mpr ⟨by decide,List.forall_mem_cons.mpr
        ⟨hmark,noAmpersand_of_forall rfl fun c hc => List.mem_takeWhile_imp hc⟩⟩
    · cases h
  · split at h
    · cases h
    · cases h
      have hrun : NoAmpersand (s.take ((s.take 32).takeWhile isReferencePart).length) := by
        rw [← List.prefix_iff_eq_take.mp ((List.takeWhile_prefix _).trans (List.take_prefix 32 s))]
        exact noAmpersand_of_forall rfl fun c hc => List.mem_takeWhile_imp hc
      have h := hrun.semicolon
      split at h
      · next hs => rwa [if_pos hs,List.length_append]
      · next hs => rwa [if_neg hs]

/-! ## Decoding -/

theorem decodeFrom_eq_error {skip : Nat} {s : Text} {e : NumeralError}
    (h : decodeFrom skip s = .error e) : e.OverLimit := by
  induction s generalizing skip e with
  | nil => cases skip <;> cases h
  | cons c s ih =>
    cases skip with
    | succ skip => exact ih h
    | zero =>
      rw [decodeFrom] at h
      split at h
      · rcases bind_eq_error.mp h with h | ⟨found,-,h⟩
        · exact (takeReference_eq_error h).2
        cases found with
        | none =>
          rcases bind_eq_error.mp h with h | ⟨_,-,h⟩
          · exact ih h
          · cases h
        | some found =>
          rcases bind_eq_error.mp h with h | ⟨_,-,h⟩
          · exact ih h
          · cases h
      · exact ih (map_eq_error.mp h)

/-- A value is decoded just if it has no reference with too many digits. -/
theorem decodeFrom_returns {skip : Nat} {s : Text} (h : NoAmpersand (s.take skip)) :
    (∃ t, decodeFrom skip s = .ok t) ↔ ¬ OverlongReference s := by
  induction s generalizing skip with
  | nil => cases skip <;> simp [decodeFrom,not_overlongReference_nil]
  | cons c s ih =>
    cases skip with
    | succ skip =>
      obtain ⟨hc,hs⟩ := List.forall_mem_cons.mp h
      rw [decodeFrom,ih hs,overlongReference_cons]
      simp [hc]
    | zero =>
      have hnil : NoAmpersand (s.take 0) := fun c hc => absurd hc List.not_mem_nil
      rw [decodeFrom,overlongReference_cons]
      split
      · next hc =>
        rw [bind_returns]
        constructor
        · rintro ⟨found,hfound,t,ht⟩ (⟨-,hover⟩ | hover)
          · exact takeReference_returns.mp ⟨found,hfound⟩ hover
          cases found with
          | none =>
            obtain ⟨u,hu,-⟩ := bind_eq_ok.mp ht
            exact (ih hnil).mp ⟨u,hu⟩ hover
          | some found =>
            obtain ⟨u,hu,-⟩ := bind_eq_ok.mp ht
            exact (ih (takeReference_noAmpersand hfound)).mp ⟨u,hu⟩ hover
        · intro hover
          obtain ⟨found,hfound⟩ := takeReference_returns.mpr fun hs => hover (.inl ⟨hc,hs⟩)
          refine ⟨found,hfound,?_⟩
          cases found with
          | none =>
            obtain ⟨u,hu⟩ := (ih hnil).mpr fun hs => hover (.inr hs)
            exact ⟨_,bind_eq_ok.mpr ⟨u,hu,rfl⟩⟩
          | some found =>
            obtain ⟨u,hu⟩ := (ih (takeReference_noAmpersand hfound)).mpr fun hs => hover (.inr hs)
            exact ⟨_,bind_eq_ok.mpr ⟨u,hu,rfl⟩⟩
      · next hc => simp [map_returns,ih hnil,hc]

theorem decodeReferences_returns {s : Text} :
    (∃ t, decodeReferences s = .ok t) ↔ ¬ OverlongReference s :=
  decodeFrom_returns fun _ h => absurd h List.not_mem_nil

end Markup
end StyleLift
