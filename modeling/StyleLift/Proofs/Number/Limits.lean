import StyleLift.Number.Numeral
import StyleLift.Proofs.Run.Outcome

/-! # Limits of numerals

Only the number of its digits keeps a run of digits from being read.
-/
namespace StyleLift

/-- The error of a numeral that has more digits than are read. -/
def NumeralError.OverLimit (e : NumeralError) : Prop :=
  ∃ count, Numeral.digitLimit < count ∧ e = .tooManyDigits count

theorem checkDigits_eq_error {count : Nat} {e : NumeralError} :
    Numeral.checkDigits count = .error e ↔
      Numeral.digitLimit < count ∧ e = .tooManyDigits count := by
  unfold Numeral.checkDigits
  split
  · next h => simp [h,eq_comm]
  · next h => simp [h]

theorem checkDigits_returns {count : Nat} :
    (∃ u, Numeral.checkDigits count = .ok u) ↔ ¬ Numeral.digitLimit < count := by
  unfold Numeral.checkDigits
  split
  · next h => simp [h]
  · next h => simp [h]

/-! ## Digits and blanks -/

/-- No script has a digit among the blanks. -/
theorem CodePoint.not_isBlank_of_isDigit {c : CodePoint} (h : c.isDigit = true) :
    c.isBlank = false := by
  have hzeros : ∀ z ∈ scriptZeros, 0xA0 < z ∧ z + 10 ≤ 0x1680 ∨ 0x1680 < z ∧ z + 10 ≤ 0x2000 ∨
      0x205F < z ∧ z + 10 ≤ 0x3000 ∨ 0x3000 < z := by decide
  have hval : 0x30 ≤ c.val ∧ c.val ≤ 0x39 ∨ ∃ z ∈ scriptZeros, z ≤ c.val ∧ c.val < z + 10 := by
    unfold isDigit digit? at h
    dsimp only at h
    split at h
    · next hascii =>
      split at h
      · next hdigit => exact .inl hdigit
      · cases h
    · rw [Option.isSome_map] at h
      obtain ⟨z,hz⟩ := Option.isSome_iff_exists.mp h
      have hrange := List.find?_some hz
      simp only [Bool.and_eq_true,decide_eq_true_eq] at hrange
      exact .inr ⟨z,List.mem_of_find?_eq_some hz,hrange⟩
  simp only [isBlank,Bool.or_eq_false_iff,Bool.and_eq_false_iff,decide_eq_false_iff_not,
    beq_eq_false_iff_ne]
  rcases hval with hascii | ⟨z,hz,hrange⟩
  · omega
  · have hzone := hzeros z hz
    omega

theorem CodePoint.isDigit_of_ascii {c : CodePoint} (h : c.val < 0x80) :
    c.isDigit = (0x30 ≤ c.val && c.val ≤ 0x39) := by
  unfold isDigit digit?
  dsimp only
  rw [if_pos h]
  split
  · next hd => simp [hd]
  · next hd => simpa [Decidable.not_and_iff_not_or_not] using hd

theorem CodePoint.isDigit_of_isAsciiDigit {c : CodePoint} (h : c.isAsciiDigit = true) :
    c.isDigit = true := by
  have hrange := h
  simp only [isAsciiDigit,Bool.and_eq_true,decide_eq_true_eq] at hrange
  rw [isDigit_of_ascii (by omega)]
  exact h

end StyleLift
