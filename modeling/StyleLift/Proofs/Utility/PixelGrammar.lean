import StyleLift.Proofs.Number.Digits
import StyleLift.Proofs.Utility.Lengths

/-! # The grammar of pixels

A length in whole pixels is an integer in decimal digits of any script with its unit, among blanks.
The sign and the digits of such a text are fixed by it, and measuring reads just these: what is no
such text has no measure, one with too many digits cannot be read, and every other one is worth what
its digits say.
-/
namespace StyleLift

/-- The parts that a whole number of pixels is written in. -/
structure PixelForm where
  before : Text
  sign : Text
  digits : Text
  unit : Text
  after : Text
  blank_before : ∀ c ∈ before, c.isBlank = true
  sign_cases : sign = [] ∨ sign = [.char '-']
  digits_ne_nil : digits ≠ []
  isDigit_digits : ∀ c ∈ digits, c.isDigit = true
  unit_mem : unit ∈ pixelUnits
  blank_after : ∀ c ∈ after, c.isBlank = true

namespace PixelForm

/-- The text that is written so. -/
def text (f : PixelForm) : Text := f.before ++ (f.sign ++ (f.digits ++ (f.unit ++ f.after)))

/-- What the digits stand for to base ten, the last of them for ones, and its opposite after a
minus. -/
def value (f : PixelForm) : Int :=
  let magnitude : Nat := Nat.ofDigits 10 (f.digits.reverse.map fun c => c.digit?.getD 0)
  if f.sign.isEmpty then magnitude else -magnitude

/-- An integer of a sign and digits, after any number of zeros. -/
def ofInt (n : Int) (zeros : Nat) {before unit after : Text}
    (hb : ∀ c ∈ before, c.isBlank = true) (hu : unit ∈ pixelUnits)
    (ha : ∀ c ∈ after, c.isBlank = true) : PixelForm where
  before := before
  sign := if n < 0 then [.char '-'] else []
  digits := List.replicate zeros (.char '0') ++ Text.ofNat n.natAbs
  unit := unit
  after := after
  blank_before := hb
  sign_cases := by split <;> simp
  digits_ne_nil := List.append_ne_nil_of_right_ne_nil _ (Text.ofNat_ne_nil _)
  isDigit_digits := by
    intro c hc
    have hdigits := Text.isDigits_append.mpr ⟨Text.isDigits_zeros zeros,
      Text.isDigits_ofNat n.natAbs⟩
    exact CodePoint.isDigit_of_isAsciiDigit (hdigits c hc)
  unit_mem := hu
  blank_after := ha

variable {f g : PixelForm} {s : Text}

theorem value_eq (f : PixelForm) : f.value =
    if f.sign.isEmpty then (f.digits.decimalValue : Int) else -f.digits.decimalValue := by
  rw [Text.decimalValue_eq_ofDigits]
  rfl

theorem value_ofInt (n : Int) (zeros : Nat) {before unit after : Text}
    (hb : ∀ c ∈ before, c.isBlank = true) (hu : unit ∈ pixelUnits)
    (ha : ∀ c ∈ after, c.isBlank = true) : (ofInt n zeros hb hu ha).value = n := by
  rw [value_eq]
  simp only [ofInt,Text.decimalValue_padded]
  by_cases hn : n < 0
  · simp only [if_pos hn,List.isEmpty_cons,Bool.false_eq_true,if_false]
    omega
  · simp only [if_neg hn,List.isEmpty_nil,if_true]
    omega

/-! ## Reading a form -/

/-- Measuring finds the sign and the digits of a form. -/
theorem unsign_text (f : PixelForm) :
    unsign f.text.trimStart = (!f.sign.isEmpty,f.digits ++ (f.unit ++ f.after)) :=
  unsign_written f.blank_before f.sign_cases f.isDigit_digits f.digits_ne_nil _

/-- No text is read in two ways. -/
theorem parts_unique (h : f.text = g.text) : f.sign = g.sign ∧ f.digits = g.digits := by
  have hread := unsign_text f
  rw [h,unsign_text g,Prod.mk.injEq,Bool.not_inj_iff] at hread
  obtain ⟨hempty,hrest⟩ := hread
  constructor
  · rcases f.sign_cases with hf | hf <;> rcases g.sign_cases with hg | hg <;> simp_all
  · calc f.digits
      _ = (f.digits ++ (f.unit ++ f.after)).takeWhile CodePoint.isDigit :=
        (takeWhile_digits f.isDigit_digits (mem_pixelUnits.mp f.unit_mem) f.after).symm
      _ = (g.digits ++ (g.unit ++ g.after)).takeWhile CodePoint.isDigit := by rw [hrest]
      _ = g.digits := takeWhile_digits g.isDigit_digits (mem_pixelUnits.mp g.unit_mem) g.after

theorem pixels?_text (f : PixelForm) :
    pixels? f.text = (Numeral.checkDigits f.digits.length).map fun () => some f.value := by
  rw [value_eq]
  exact pixels?_written f.blank_before f.sign_cases f.isDigit_digits f.digits_ne_nil
    (mem_pixelUnits.mp f.unit_mem) f.blank_after

/-- A whole number of pixels that has digits is written in the parts of a form. -/
theorem of_pixelLength {count : Nat} (hcount : 0 < count) (h : PixelLength count s) :
    ∃ f : PixelForm, f.text = s ∧ f.digits.length = count := by
  obtain ⟨before,sign,digits,unit,after,rfl,hb,hsign,hd,rfl,hu,ha⟩ := h
  exact ⟨⟨before,sign,digits,unit,after,hb,hsign,List.ne_nil_of_length_pos hcount,hd,
    mem_pixelUnits.mpr hu,ha⟩,rfl,rfl⟩

theorem pixels?_of_le (hf : f.text = s) (hlength : f.digits.length ≤ Numeral.digitLimit) :
    pixels? s = .ok (some f.value) := by
  obtain ⟨u,hu⟩ := checkDigits_returns.mpr (Nat.not_lt.mpr hlength)
  rw [← hf,pixels?_text,hu]
  rfl

theorem pixels?_error_iff {e : NumeralError} : pixels? s = .error e ↔ ∃ f : PixelForm,
    f.text = s ∧ Numeral.digitLimit < f.digits.length ∧ e = .tooManyDigits f.digits.length := by
  constructor
  · intro h
    obtain ⟨count,hlong,hlength,rfl⟩ := pixels?_eq_error.mp h
    obtain ⟨f,hf,rfl⟩ := of_pixelLength (Nat.zero_lt_of_lt hlong) hlength
    exact ⟨f,hf,hlong,rfl⟩
  · rintro ⟨f,rfl,hlong,rfl⟩
    rw [pixels?_text]
    exact map_eq_error.mpr (checkDigits_eq_error.mpr ⟨hlong,rfl⟩)

/-- Nothing is measured just if there is nothing to measure. -/
theorem pixels?_none_iff : pixels? s = .ok none ↔ ∀ f : PixelForm, f.text ≠ s := by
  constructor
  · rintro h f rfl
    obtain ⟨-,-,hnone⟩ := map_eq_ok.mp ((pixels?_text f).symm.trans h)
    cases hnone
  · intro h
    cases hs : pixels? s with
    | error e =>
      obtain ⟨f,hf,-⟩ := pixels?_error_iff.mp hs
      exact (h f hf).elim
    | ok found =>
      cases found with
      | none => rfl
      | some n =>
        obtain ⟨count,hcount,hlength⟩ := pixelLength_of_pixels? hs
        obtain ⟨f,hf,-⟩ := of_pixelLength hcount hlength
        exact (h f hf).elim

end PixelForm

/-- Every text is of the form in one way at most as far as sign and digits go. It is measured as
`none` just if it is of no form, its measuring fails just if it is of a form with more than 4300
digits, and else it is worth the signed value of its digits. So each integer is read back, with
zeros before its digits, a unit right behind them and any blanks around. -/
theorem pixels?_grammar (s : Text) :
    (∀ f g : PixelForm, f.text = s → g.text = s → f.sign = g.sign ∧ f.digits = g.digits) ∧
    (pixels? s = .ok none ↔ ∀ f : PixelForm, f.text ≠ s) ∧
    (∀ e, pixels? s = .error e ↔ ∃ f : PixelForm,
      f.text = s ∧ 4300 < f.digits.length ∧ e = .tooManyDigits f.digits.length) ∧
    (∀ f : PixelForm, f.text = s → f.digits.length ≤ 4300 → pixels? s = .ok (some f.value)) ∧
    ∀ (n : Int) (zeros : Nat) (before unit after : Text), (∀ c ∈ before, c.isBlank = true) →
      unit ∈ pixelUnits → (∀ c ∈ after, c.isBlank = true) →
      zeros + (Text.ofNat n.natAbs).length ≤ 4300 →
      s = before ++ ((if n < 0 then [.char '-'] else []) ++
        ((List.replicate zeros (.char '0') ++ Text.ofNat n.natAbs) ++ (unit ++ after))) →
      pixels? s = .ok (some n) := by
  refine ⟨?_,PixelForm.pixels?_none_iff,fun e => PixelForm.pixels?_error_iff,
    fun f => PixelForm.pixels?_of_le,?_⟩
  · intro f g hf hg
    exact PixelForm.parts_unique (hf.trans hg.symm)
  · intro n zeros before unit after hb hu ha hlength hs
    have hdigits : (PixelForm.ofInt n zeros hb hu ha).digits.length ≤ Numeral.digitLimit := by
      simpa [PixelForm.ofInt,Numeral.digitLimit] using hlength
    have hread := PixelForm.pixels?_of_le (f := PixelForm.ofInt n zeros hb hu ha) hs.symm hdigits
    rwa [PixelForm.value_ofInt] at hread

/-- Minus four in two scripts, among blanks of two kinds. -/
def minusFour : PixelForm where
  before := "\u3000"
  sign := "-"
  digits := "\u06604"
  unit := "pX"
  after := "\n"
  blank_before := by decide
  sign_cases := .inr rfl
  digits_ne_nil := by decide
  isDigit_digits := by decide
  unit_mem := by decide
  blank_after := by decide

theorem pixels?_grammar_minusFour :
    minusFour.digits.length ≤ 4300 ∧ pixels? minusFour.text = .ok (some (-4)) ∧
    (∀ g : PixelForm, g.text = minusFour.text → ("-" : Text) = g.sign ∧ "\u06604" = g.digits) ∧
    3 + (Text.ofNat (-4 : Int).natAbs).length ≤ 4300 ∧ pixels? "\t-0004Px" = .ok (some (-4)) := by
  obtain ⟨hunique,-,-,hvalue,-⟩ := pixels?_grammar minusFour.text
  obtain ⟨-,-,-,-,hint⟩ := pixels?_grammar "\t-0004Px"
  refine ⟨by decide,hvalue minusFour rfl (by decide),fun g hg => hunique minusFour g rfl hg,
    by decide,?_⟩
  exact hint (-4) 3 "\t" "Px" "" (by decide) (by decide) (by decide) (by decide) (by decide)

end StyleLift
