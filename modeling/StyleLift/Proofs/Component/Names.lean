import StyleLift.Proofs.Component.Sources

/-! # Names in sources

A framework is found by its name. An identifier and its form in markup have letters and digits of
ASCII, low lines and hyphens, and nothing else of ASCII: a code point that is not ASCII lowers to
ASCII only where that is a letter.
-/
namespace StyleLift

theorem Framework.ofName?_name (f : Framework) : Framework.ofName? f.name = some f := by
  cases f <;> rfl

/-- No code point of ASCII but one of a word. -/
def CodePoint.IsWordy (c : CodePoint) : Prop :=
  c.val < 0x80 → c.isAsciiLetter ∨ c.isAsciiDigit ∨ c = .char '_' ∨ c = .char '-'

namespace CodePoint
variable {c : CodePoint} {n : Nat}

instance : Decidable c.IsWordy :=
  inferInstanceAs (Decidable (c.val < 0x80 → _ ∨ _ ∨ c = .char '_' ∨ c = .char '-'))

theorem isWordy_of_high (h : 0x80 ≤ c.val) : c.IsWordy := fun hlow => absurd h (by omega)

theorem isWordy_ofNat (h : 0x80 ≤ n ∨ 0x61 ≤ n ∧ n ≤ 0x7A) : (ofNat n).IsWordy := by
  rw [ofNat,ofNat?]
  split
  · next hvalid =>
    intro hlow
    have hval : ((some (char (Char.ofNatAux n hvalid))).getD replacement).val = n := rfl
    left
    rw [isAsciiLetter]
    simp only [hval,Bool.or_eq_true,Bool.and_eq_true,decide_eq_true_eq] at hlow ⊢
    omega
  split
  · next hhalf =>
    apply isWordy_of_high
    rw [Option.getD_some,val]
    omega
  · exact isWordy_of_high (by decide)

/-- What a run lowers to is above ASCII, or letters. -/
theorem loweringRuns_wordy : ∀ run ∈ loweringRuns,
    (0x80 : Int) ≤ run.1 + run.2.2.2 ∨
      (0x61 : Int) ≤ run.1 + run.2.2.2 ∧ run.2.1 + run.2.2.2 ≤ (0x7A : Int) := by
  decide +kernel

theorem IsWordy.lower (h : c.IsWordy) : ∀ d ∈ c.lower, d.IsWordy := by
  have hascii : ∀ n < 0x80, (ofNat n).IsWordy → (ofNat n).asciiLower.IsWordy := by decide
  refine forall_lower (fun hlow => ?_) (by decide) (fun run hrun hfirst hlast => ?_) h
  · have hc := hascii c.val hlow
    rw [c.ofNat_val] at hc
    exact hc h
  · have hform := loweringRuns_wordy run hrun
    refine isWordy_ofNat ?_
    omega

theorem isWordy_of_isIdentifierPart
    (h : c.isIdentifierStart = true ∨ c.isIdentifierPart = true) : c.IsWordy := by
  have hascii : ∀ n < 0x80, (ofNat n).isIdentifierStart = true ∨
      (ofNat n).isIdentifierPart = true → (ofNat n).IsWordy := by decide
  intro hlow
  have hc := hascii c.val hlow
  rw [c.ofNat_val] at hc
  exact hc h hlow

end CodePoint

variable {name : Text}

theorem Text.isWordy_of_isIdentifier (h : Text.isIdentifier name = true) :
    ∀ c ∈ name, c.IsWordy := by
  cases name with
  | nil => cases h
  | cons c rest =>
    simp only [Text.isIdentifier,Bool.and_eq_true,List.all_eq_true] at h
    exact List.forall_mem_cons.mpr ⟨CodePoint.isWordy_of_isIdentifierPart (.inl h.1),
      fun d hd => CodePoint.isWordy_of_isIdentifierPart (.inr (h.2 d hd))⟩

theorem Component.isWordy_kebab (h : ∀ c ∈ name, c.IsWordy) : ∀ d ∈ kebab name, d.IsWordy := by
  intro d hd
  rcases mem_kebab hd with rfl | ⟨c,hc,hlower⟩
  · decide
  · exact (h c hc).lower d hlower

end StyleLift
