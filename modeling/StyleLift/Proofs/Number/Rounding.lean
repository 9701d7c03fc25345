import Mathlib
import StyleLift.Number.Binary64

/-! # Rounding to binary64 numbers

A positive quotient between the middles to the neighbours of a number is rounded to that number,
whatever numerator and denominator it is given by. At the lowest mantissa of a binade the neighbour
below is only half as far away.
-/
namespace StyleLift.Binary64

/-! ## Scaling -/

theorem scaled_spec {base : Nat} (hb : 0 < base) (e : Int) (num : Nat) {den : Nat} (hd : 0 < den) :
    0 < (scaled base e num den).2 ∧
      ((scaled base e num den).1 : ℚ) / (scaled base e num den).2 = num / den * (base : ℚ) ^ e := by
  have hbase : (base : ℚ) ≠ 0 := by exact_mod_cast hb.ne'
  unfold scaled
  split
  · next he =>
    obtain ⟨k,rfl⟩ := Int.eq_ofNat_of_zero_le he
    refine ⟨hd,?_⟩
    simp only [Int.toNat_natCast,Nat.pow_eq,Nat.cast_mul,Nat.cast_pow,zpow_natCast]
    ring
  · next he =>
    obtain ⟨k,hk⟩ := Int.eq_ofNat_of_zero_le (show 0 ≤ -e by omega)
    obtain rfl : e = -(k : Int) := by omega
    refine ⟨Nat.mul_pos hd (Nat.pow_pos hb),?_⟩
    simp only [neg_neg,Int.toNat_natCast,Nat.pow_eq,Nat.cast_mul,Nat.cast_pow,zpow_neg,zpow_natCast]
    field_simp

/-! ## Rounding to a natural -/

/-- A quotient is rounded to the natural that it is nearest to; of two, to the even one. -/
theorem roundQuotient_nearest {n d r : Nat} (hlower : 2 * r * d ≤ 2 * n + d)
    (hupper : 2 * n ≤ (2 * r + 1) * d)
    (hodd : r % 2 = 1 → 2 * r * d < 2 * n + d ∧ 2 * n < (2 * r + 1) * d) (hd : 0 < d) :
    roundQuotient n d = r := by
  have hn := Nat.div_add_mod n d
  have hrest := Nat.mod_lt n hd
  unfold roundQuotient
  generalize n / d = q at *
  generalize n % d = rest at *
  have hcase : r = q ∨ r = q + 1 := by
    have h1 : q ≤ r := by
      by_contra hlt
      have : (r + 1) * d ≤ q * d := Nat.mul_le_mul_right d (by omega)
      nlinarith
    have h2 : r ≤ q + 1 := by
      by_contra hlt
      have : (q + 2) * d ≤ r * d := Nat.mul_le_mul_right d (by omega)
      nlinarith
    omega
  dsimp only
  rcases hcase with rfl | rfl
  · have hhalf : 2 * rest ≤ d := by nlinarith
    split
    · rfl
    rw [if_neg (by omega)]
    rcases Nat.mod_two_eq_zero_or_one r with heven | hr
    · omega
    · have := (hodd hr).2
      nlinarith
  · have hhalf : d ≤ 2 * rest := by nlinarith
    rw [if_neg (by omega)]
    split
    · rfl
    rcases Nat.mod_two_eq_zero_or_one q with heven | hr
    · have := (hodd (by omega)).1
      nlinarith
    · omega

theorem roundQuotient_eq {n d r : Nat} (hd : 0 < d) (hlower : (r : ℚ) - 1 / 2 ≤ n / d)
    (hupper : (n : ℚ) / d ≤ r + 1 / 2)
    (hodd : r % 2 = 1 → (r : ℚ) - 1 / 2 < n / d ∧ (n : ℚ) / d < r + 1 / 2) :
    roundQuotient n d = r := by
  have hdq : (0 : ℚ) < d := by exact_mod_cast hd
  have hl : (r : ℚ) - 1 / 2 ≤ n / d ↔ 2 * r * d ≤ 2 * n + d := by
    rw [le_div_iff₀ hdq,← Nat.cast_le (α := ℚ)]
    push_cast
    constructor <;> intro h <;> linarith
  have hu : (n : ℚ) / d ≤ r + 1 / 2 ↔ 2 * n ≤ (2 * r + 1) * d := by
    rw [div_le_iff₀ hdq,← Nat.cast_le (α := ℚ)]
    push_cast
    constructor <;> intro h <;> linarith
  have hl' : (r : ℚ) - 1 / 2 < n / d ↔ 2 * r * d < 2 * n + d := by
    rw [lt_div_iff₀ hdq,← Nat.cast_lt (α := ℚ)]
    push_cast
    constructor <;> intro h <;> linarith
  have hu' : (n : ℚ) / d < r + 1 / 2 ↔ 2 * n < (2 * r + 1) * d := by
    rw [div_lt_iff₀ hdq,← Nat.cast_lt (α := ℚ)]
    push_cast
    constructor <;> intro h <;> linarith
  rw [hl',hu'] at hodd
  exact roundQuotient_nearest (hl.mp hlower) (hu.mp hupper) hodd hd

/-! ## The exponent of a quotient -/

variable {negative : Bool} {num den m : Nat} {e : Int}

/-- What a quotient gives once the exponent is known; a mantissa at the bound is carried over. -/
def roundedAt (negative : Bool) (exponent : Int) (num den : Nat) : Binary64 :=
  let mantissa := roundQuotient (scaled 2 (-exponent) num den).1 (scaled 2 (-exponent) num den).2
  let carried := if mantissa = mantissaBound then (mantissaBound / 2, exponent + 1)
    else (mantissa, exponent)
  if maxExponent < carried.2 then .infinity negative else .finite negative carried.1 carried.2

theorem two_zpow_pos (k : Int) : (0 : ℚ) < 2 ^ k := zpow_pos (by norm_num) k

theorem two_zpow_le {j k : Int} (h : j ≤ k) : (2 : ℚ) ^ j ≤ 2 ^ k :=
  zpow_le_zpow_right₀ (by norm_num) h

theorem two_zpow_succ (k : Int) : (2 : ℚ) ^ (k + 1) = 2 ^ k * 2 := zpow_add_one₀ (by norm_num) k

theorem mantissaBound_cast : ((mantissaBound : Nat) : ℚ) = 2 ^ 53 := by
  norm_num [mantissaBound]

/-- A quotient of naturals between the powers that their lengths in base two allow. -/
theorem quotient_between (hn : 0 < num) (hd : 0 < den) :
    (2 : ℚ) ^ ((num.log2 : Int) - den.log2 - 1) < num / den ∧
      (num : ℚ) / den < 2 ^ ((num.log2 : Int) - den.log2 + 1) := by
  have hdq : (0 : ℚ) < den := by exact_mod_cast hd
  have hnl : ((2 : ℚ) ^ num.log2) ≤ num := by exact_mod_cast Nat.log2_self_le hn.ne'
  have hnu : (num : ℚ) < 2 ^ (num.log2 + 1) := by exact_mod_cast (Nat.lt_log2_self (n := num))
  have hdl : ((2 : ℚ) ^ den.log2) ≤ den := by exact_mod_cast Nat.log2_self_le hd.ne'
  have hdu : (den : ℚ) < 2 ^ (den.log2 + 1) := by exact_mod_cast (Nat.lt_log2_self (n := den))
  have hlow : (2 : ℚ) ^ ((num.log2 : Int) - den.log2 - 1) = 2 ^ num.log2 / 2 ^ (den.log2 + 1) := by
    rw [sub_sub,zpow_sub₀ (by norm_num),zpow_natCast]
    norm_cast
  have hhigh : (2 : ℚ) ^ ((num.log2 : Int) - den.log2 + 1) = 2 ^ (num.log2 + 1) / 2 ^ den.log2 := by
    rw [sub_add_eq_add_sub,zpow_sub₀ (by norm_num),zpow_natCast]
    norm_cast
  rw [hlow,hhigh,div_lt_div_iff₀ (by positivity) hdq,div_lt_div_iff₀ hdq (by positivity)]
  constructor
  · calc (2 : ℚ) ^ num.log2 * den ≤ num * den := by gcongr
      _ < num * 2 ^ (den.log2 + 1) := by gcongr
  · calc (num : ℚ) * 2 ^ den.log2 ≤ num * den := by gcongr
      _ < 2 ^ (num.log2 + 1) * den := by gcongr

/-- A quotient is rounded at the exponent that gives a mantissa of 53 digits in base two, or at the
lowest one. -/
theorem ofQuotient_eq (negative : Bool) (hn : 0 < num) (hd : 0 < den) : ∃ k : Int,
    2 ^ 52 * (2 : ℚ) ^ k ≤ num / den ∧ (num : ℚ) / den < 2 ^ 53 * 2 ^ k ∧
      ofQuotient negative num den = roundedAt negative (max k minExponent) num den := by
  obtain ⟨low,hlow⟩ : ∃ low : Int, low = (num.log2 : Int) - den.log2 - 53 := ⟨_,rfl⟩
  obtain ⟨hbelow,habove⟩ := quotient_between hn hd
  rw [show (num.log2 : Int) - den.log2 - 1 = 52 + low by omega,zpow_add₀ (by norm_num)] at hbelow
  rw [show (num.log2 : Int) - den.log2 + 1 = 53 + (low + 1) by omega,
    zpow_add₀ (by norm_num)] at habove
  obtain ⟨hpos,hscaled⟩ := scaled_spec (by norm_num : 0 < 2) (-low) num hd
  have hposq : (0 : ℚ) < (scaled 2 (-low) num den).2 := by exact_mod_cast hpos
  have hfits : mantissaBound * (scaled 2 (-low) num den).2 ≤ (scaled 2 (-low) num den).1 ↔
      2 ^ 53 * (2 : ℚ) ^ low ≤ num / den := by
    rw [← Nat.cast_le (α := ℚ),Nat.cast_mul,mantissaBound_cast,← le_div_iff₀ hposq,hscaled,
      zpow_neg,← div_eq_mul_inv,Nat.cast_ofNat,le_div_iff₀ (two_zpow_pos low)]
  have hopen : ofQuotient negative num den = roundedAt negative
      (max
        (if mantissaBound * (scaled 2 (-low) num den).2 ≤ (scaled 2 (-low) num den).1
          then low + 1 else low) minExponent) num den := by
    unfold ofQuotient roundedAt
    rw [if_neg (by omega),← hlow]
  by_cases h : mantissaBound * (scaled 2 (-low) num den).2 ≤ (scaled 2 (-low) num den).1
  · refine ⟨low + 1,?_,by exact_mod_cast habove,by rw [hopen,if_pos h]⟩
    have := hfits.mp h
    rw [two_zpow_succ]
    linarith
  · refine ⟨low,by exact_mod_cast hbelow.le,?_,by rw [hopen,if_neg h]⟩
    exact lt_of_not_ge fun hge => h (hfits.mpr hge)

/-! ## Rounding to a number -/

/-- A finite number as rounding gives it, with the lowest exponent for small mantissas. -/
def Canonical : Binary64 → Prop
  | .finite _ m e => m < mantissaBound ∧ minExponent ≤ e ∧ e ≤ maxExponent ∧
      (mantissaBound / 2 ≤ m ∨ e = minExponent)
  | _ => True

/-- How far the middle to the neighbour below is from a mantissa. -/
def gapBelow (m : Nat) (e : Int) : ℚ :=
  if m = mantissaBound / 2 ∧ minExponent < e then 1 / 4 else 1 / 2

/-- Between the middles to the neighbours, which count where the mantissa is even. -/
structure RoundsTo (m : Nat) (e : Int) (q : ℚ) : Prop where
  lower : (m - gapBelow m e) * 2 ^ e ≤ q
  upper : q ≤ (m + 1 / 2) * 2 ^ e
  odd : m % 2 = 1 → (m - gapBelow m e) * 2 ^ e < q ∧ q < (m + 1 / 2) * 2 ^ e

theorem gapBelow_le (m : Nat) (e : Int) : gapBelow m e ≤ 1 / 2 := by
  unfold gapBelow
  split <;> norm_num

/-- At the exponent of the number the mantissa is the nearest natural. -/
theorem roundedAt_of_roundsTo (hm : m < mantissaBound) (he : e ≤ maxExponent) (hd : 0 < den)
    (h : RoundsTo m e (num / den)) : roundedAt negative e num den = .finite negative m e := by
  have hu := two_zpow_pos e
  have hgap := gapBelow_le m e
  obtain ⟨hpos,hscaled⟩ := scaled_spec (by norm_num : 0 < 2) (-e) num hd
  rw [zpow_neg,← div_eq_mul_inv,Nat.cast_ofNat] at hscaled
  have hlower : (m : ℚ) - 1 / 2 ≤ num / den / 2 ^ e := by
    rw [le_div_iff₀ hu]
    exact le_trans (by gcongr) h.lower
  have hupper : (num : ℚ) / den / 2 ^ e ≤ m + 1 / 2 := by
    rw [div_le_iff₀ hu]
    exact h.upper
  have hodd : m % 2 = 1 → (m : ℚ) - 1 / 2 < num / den / 2 ^ e ∧
      (num : ℚ) / den / 2 ^ e < m + 1 / 2 := by
    intro ho
    rw [lt_div_iff₀ hu,div_lt_iff₀ hu]
    exact ⟨lt_of_le_of_lt (by gcongr) (h.odd ho).1,(h.odd ho).2⟩
  rw [← hscaled] at hlower hupper hodd
  rw [roundedAt,roundQuotient_eq hpos hlower hupper hodd,if_neg hm.ne,if_neg (by omega)]

/-- Below the lowest mantissa of a binade, rounding carries over to it. -/
theorem roundedAt_of_carry (he : e ≤ maxExponent) (hd : 0 < den)
    (hlower : (2 ^ 52 - 1 / 4) * (2 : ℚ) ^ e ≤ num / den)
    (hupper : (num : ℚ) / den < 2 ^ 52 * 2 ^ e) :
    roundedAt negative (e - 1) num den = .finite negative (mantissaBound / 2) e := by
  have hu := two_zpow_pos (e - 1)
  have htwice : (2 : ℚ) ^ e = 2 ^ (e - 1) * 2 := by rw [← two_zpow_succ,sub_add_cancel]
  obtain ⟨hpos,hscaled⟩ := scaled_spec (by norm_num : 0 < 2) (-(e - 1)) num hd
  rw [zpow_neg,← div_eq_mul_inv,Nat.cast_ofNat] at hscaled
  have hl : ((mantissaBound : Nat) : ℚ) - 1 / 2 ≤ num / den / 2 ^ (e - 1) := by
    rw [le_div_iff₀ hu,mantissaBound_cast]
    rw [htwice] at hlower
    linarith
  have hh : (num : ℚ) / den / 2 ^ (e - 1) ≤ (mantissaBound : Nat) + 1 / 2 := by
    rw [div_le_iff₀ hu,mantissaBound_cast]
    rw [htwice] at hupper
    linarith
  rw [← hscaled] at hl hh
  rw [roundedAt,roundQuotient_eq hpos hl hh (fun hodd => absurd hodd (by decide)),if_pos rfl,
    sub_add_cancel,if_neg (by omega)]

theorem ofQuotient_of_roundsTo (hc : Canonical (.finite negative m e)) (hn : 0 < num)
    (hd : 0 < den) (h : RoundsTo m e (num / den)) :
    ofQuotient negative num den = .finite negative m e := by
  obtain ⟨hbound,hmin,hmax,hnormal⟩ := hc
  obtain ⟨k,hk,hk',heq⟩ := ofQuotient_eq negative hn hd
  have hmq : (m : ℚ) + 1 ≤ 2 ^ 53 := by
    rw [← mantissaBound_cast]
    exact_mod_cast hbound
  have hu := two_zpow_pos e
  rw [heq]
  rcases lt_trichotomy e (max k minExponent) with hlt | rfl | hgt
  · -- the quotient would be beyond the middle to the neighbour above
    exfalso
    have hke : (2 : ℚ) ^ (e + 1) ≤ 2 ^ k := two_zpow_le (by omega)
    rw [two_zpow_succ] at hke
    have := h.upper
    nlinarith
  · exact roundedAt_of_roundsTo hbound hmax hd h
  · have hke : (2 : ℚ) ^ (k + 1) ≤ 2 ^ e := two_zpow_le (by omega)
    rw [two_zpow_succ] at hke
    have hbelow : (num : ℚ) / den < 2 ^ 52 * 2 ^ e := by linarith
    have hhalf : mantissaBound / 2 ≤ m := hnormal.resolve_right (by omega)
    have hgap := gapBelow_le m e
    have hcast : ((mantissaBound / 2 : Nat) : ℚ) = 2 ^ 52 := by norm_num [mantissaBound]
    have hm52 : m = mantissaBound / 2 := by
      by_contra hne
      have : (2 : ℚ) ^ 52 + 1 ≤ m := by
        rw [← hcast]
        exact_mod_cast (show mantissaBound / 2 + 1 ≤ m by omega)
      have := h.lower
      nlinarith
    have hlower : (2 ^ 52 - 1 / 4) * (2 : ℚ) ^ e ≤ num / den := by
      have := h.lower
      rwa [gapBelow,if_pos ⟨hm52,by omega⟩,hm52,hcast] at this
    have hlast : max k minExponent = e - 1 := by
      by_contra hne
      have hke : (2 : ℚ) ^ (k + 1 + 1) ≤ 2 ^ e := two_zpow_le (by omega)
      rw [two_zpow_succ,two_zpow_succ] at hke
      nlinarith [two_zpow_pos k]
    rw [hlast,hm52]
    exact roundedAt_of_carry hmax hd hlower hbelow

end StyleLift.Binary64
