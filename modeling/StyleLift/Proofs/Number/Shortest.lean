import StyleLift.Number.Decimal
import StyleLift.Proofs.Number.Rounding

/-! # Shortest digits

The digits written for a number lie between the middles to its neighbours, and seventeen digits
always reach there. So every decimal of their value, whatever its digits and its place, is read back
as the number.
-/
namespace StyleLift.Binary64

variable {negative : Bool} {num den m : Nat} {e : Int}

theorem ten_zpow_pos (k : Int) : (0 : ℚ) < 10 ^ k := zpow_pos (by norm_num) k

theorem two_pow_le_ten (k : Nat) : (2 : ℚ) ^ (3 * k) ≤ 10 ^ k := by
  rw [pow_mul]
  gcongr
  norm_num

/-! ## Lengths -/

/-- A positive number has the length that its powers of ten allow. -/
theorem toDigits_length_bounds {n : Nat} (hn : 0 < n) :
    (10 : ℚ) ^ (((Nat.toDigits 10 n).length : Int) - 1) ≤ n ∧
      (n : ℚ) < 10 ^ ((Nat.toDigits 10 n).length : Int) := by
  obtain ⟨k,hk⟩ : ∃ k, (Nat.toDigits 10 n).length = k + 1 :=
    Nat.exists_eq_succ_of_ne_zero (Nat.length_toDigits_pos).ne'
  have hupper : n < 10 ^ (k + 1) :=
    (Nat.length_toDigits_le_iff (by norm_num) (by omega)).mp hk.le
  have hlower : 10 ^ k ≤ n := by
    rcases Nat.eq_zero_or_pos k with rfl | hpos
    · exact hn
    · by_contra hlt
      have := (Nat.length_toDigits_le_iff (b := 10) (by norm_num) hpos).mpr (not_le.mp hlt)
      omega
  rw [hk,show (((k + 1 : Nat) : Int) - 1) = (k : Int) by omega,zpow_natCast,zpow_natCast]
  exact ⟨by exact_mod_cast hlower,by exact_mod_cast hupper⟩

/-- The leading decimal digit of a quotient stands at its decimal exponent or above. -/
theorem decimalExponent_le (hn : 0 < num) (hd : 0 < den) :
    (10 : ℚ) ^ decimalExponent num den ≤ num / den := by
  obtain ⟨guess,hguess⟩ :
      ∃ guess : Int, guess = (Nat.toDigits 10 num).length - (Nat.toDigits 10 den).length := ⟨_,rfl⟩
  have hdq : (0 : ℚ) < den := by exact_mod_cast hd
  obtain ⟨hpos,hscaled⟩ := scaled_spec (by norm_num : 0 < 10) (-guess) num hd
  have hposq : (0 : ℚ) < (scaled 10 (-guess) num den).2 := by exact_mod_cast hpos
  have hopen : decimalExponent num den =
      if (scaled 10 (-guess) num den).2 ≤ (scaled 10 (-guess) num den).1 then guess
      else guess - 1 := by
    rw [decimalExponent,← hguess]
  rw [hopen]
  split
  · next hle =>
    have hone : (1 : ℚ) ≤ num / den * 10 ^ (-guess) := by
      have : (1 : ℚ) ≤ (scaled 10 (-guess) num den).1 / (scaled 10 (-guess) num den).2 := by
        rw [le_div_iff₀ hposq,one_mul]
        exact_mod_cast hle
      rwa [hscaled,Nat.cast_ofNat] at this
    rwa [zpow_neg,← div_eq_mul_inv,le_div_iff₀ (ten_zpow_pos guess),one_mul] at hone
  · rw [le_div_iff₀ hdq]
    have hn := (toDigits_length_bounds hn).1
    have hd := (toDigits_length_bounds hd).2.le
    calc (10 : ℚ) ^ (guess - 1) * den
        ≤ 10 ^ (guess - 1) * 10 ^ ((Nat.toDigits 10 den).length : Int) :=
          mul_le_mul_of_nonneg_left hd (ten_zpow_pos _).le
      _ = 10 ^ (((Nat.toDigits 10 num).length : Int) - 1) := by
          rw [← zpow_add₀ (by norm_num)]
          congr 1
          omega
      _ ≤ num := hn

/-! ## The neighbourhood of a number -/

/-- Rounding goes half a unit at most. -/
theorem roundQuotient_near (n : Nat) {d : Nat} (hd : 0 < d) :
    (n : ℚ) / d - 1 / 2 ≤ roundQuotient n d ∧ (roundQuotient n d : ℚ) ≤ n / d + 1 / 2 := by
  have hdq : (0 : ℚ) < d := by exact_mod_cast hd
  have hn : (n : ℚ) = d * (n / d : Nat) + (n % d : Nat) := by
    exact_mod_cast (Nat.div_add_mod n d).symm
  have hvalue : (n : ℚ) / d = (n / d : Nat) + (n % d : Nat) / d := by
    rw [hn]
    field_simp
  have hnonneg : (0 : ℚ) ≤ (n % d : Nat) / d := by positivity
  have hless : ((n % d : Nat) : ℚ) / d < 1 := by
    rw [div_lt_one hdq]
    exact_mod_cast Nat.mod_lt n hd
  have hlow : 2 * (n % d) ≤ d → ((n % d : Nat) : ℚ) / d ≤ 1 / 2 := fun h => by
    rw [div_le_div_iff₀ hdq (by norm_num)]
    have : (2 * (n % d : Nat) : ℚ) ≤ d := by exact_mod_cast h
    linarith
  have hhigh : d ≤ 2 * (n % d) → (1 / 2 : ℚ) ≤ (n % d : Nat) / d := fun h => by
    rw [div_le_div_iff₀ (by norm_num) hdq]
    have : (d : ℚ) ≤ 2 * (n % d : Nat) := by exact_mod_cast h
    linarith
  unfold roundQuotient
  rw [hvalue]
  dsimp only
  split
  · next h =>
    have := hlow h.le
    constructor <;> linarith
  split
  · next h =>
    have := hhigh h.le
    push_cast
    constructor <;> linarith
  · next hl hh =>
    have := hlow (by omega)
    have := hhigh (by omega)
    rcases Nat.mod_two_eq_zero_or_one (n / d) with h | h
    · rw [h,Nat.add_zero]
      constructor <;> linarith
    · rw [h]
      push_cast
      constructor <;> linarith

theorem neighbourhood_spec (hm : 0 < m) : 0 < (neighbourhood m e).den ∧
    ((neighbourhood m e).lower : ℚ) / (neighbourhood m e).den = (m - gapBelow m e) * 2 ^ e ∧
    ((neighbourhood m e).centre : ℚ) / (neighbourhood m e).den = m * 2 ^ e ∧
    ((neighbourhood m e).upper : ℚ) / (neighbourhood m e).den = (m + 1 / 2) * 2 ^ e := by
  obtain ⟨hpos,hscaled⟩ := scaled_spec (by norm_num : 0 < 2) (e - 2) 1 Nat.one_pos
  have hquarter : (2 : ℚ) ^ (e - 2) = 2 ^ e / 4 := by
    rw [zpow_sub₀ (by norm_num)]
    norm_num
  rw [Nat.cast_one,div_one,one_mul,Nat.cast_ofNat,hquarter] at hscaled
  have hunit : ∀ k : Nat, ((k * (scaled 2 (e - 2) 1 1).1 : Nat) : ℚ) / (scaled 2 (e - 2) 1 1).2 =
      k / 4 * 2 ^ e := fun k => by
    rw [Nat.cast_mul,mul_div_assoc,hscaled]
    ring
  refine ⟨hpos,?_,?_,?_⟩
  · refine (hunit _).trans ?_
    unfold gapBelow
    split
    · rw [Nat.cast_sub (by omega)]
      push_cast
      ring
    · rw [Nat.cast_sub (by omega)]
      push_cast
      ring
  · refine (hunit _).trans ?_
    push_cast
    ring
  · refine (hunit _).trans ?_
    push_cast
    ring

theorem holds_iff (hm : 0 < m) (digits : Nat) (place : Int) :
    (neighbourhood m e).holds digits place = true ↔ RoundsTo m e (digits * 10 ^ place) := by
  obtain ⟨hden,hlower,-,hupper⟩ := neighbourhood_spec (e := e) hm
  obtain ⟨hpos,hscaled⟩ := scaled_spec (by norm_num : 0 < 10) place
    (digits * (neighbourhood m e).den) Nat.one_pos
  have hclosed : (neighbourhood m e).closed = (m % 2 == 0) := rfl
  obtain ⟨b,hb⟩ : ∃ b, b = neighbourhood m e := ⟨_,rfl⟩
  rw [← hb] at hden hlower hupper hscaled hpos hclosed ⊢
  obtain ⟨top,htop⟩ : ∃ top, top = (scaled 10 place (digits * b.den) 1).1 := ⟨_,rfl⟩
  obtain ⟨bottom,hbottom⟩ : ∃ bottom, bottom = (scaled 10 place (digits * b.den) 1).2 := ⟨_,rfl⟩
  rw [← htop,← hbottom] at hscaled
  rw [← hbottom] at hpos
  have hdq : (0 : ℚ) < b.den := by exact_mod_cast hden
  have hbq : (0 : ℚ) < bottom := by exact_mod_cast hpos
  have hvalue : (digits : ℚ) * 10 ^ place = top / bottom / b.den := by
    rw [hscaled,Nat.cast_mul,Nat.cast_one,div_one,Nat.cast_ofNat]
    field_simp
  have hle : ∀ k : Nat, k * bottom ≤ top ↔ (k : ℚ) / b.den ≤ digits * 10 ^ place := fun k => by
    rw [hvalue,div_le_div_iff_of_pos_right hdq,le_div_iff₀ hbq]
    exact_mod_cast Iff.rfl
  have hge : ∀ k : Nat, top ≤ k * bottom ↔ (digits : ℚ) * 10 ^ place ≤ k / b.den := fun k => by
    rw [hvalue,div_le_div_iff_of_pos_right hdq,div_le_iff₀ hbq]
    exact_mod_cast Iff.rfl
  have hopen : b.holds digits place =
      if b.closed then b.lower * bottom ≤ top && top ≤ b.upper * bottom
      else b.lower * bottom < top && top < b.upper * bottom := by
    rw [Neighbourhood.holds,htop,hbottom]
  rw [hopen,hclosed]
  rcases Nat.mod_two_eq_zero_or_one m with heven | hodd
  · rw [heven,if_pos (by decide),Bool.and_eq_true,decide_eq_true_eq,decide_eq_true_eq,hle,hge,
      hlower,hupper]
    exact ⟨fun h => ⟨h.1,h.2,fun ho => by omega⟩,fun h => ⟨h.lower,h.upper⟩⟩
  · rw [hodd,if_neg (by decide),Bool.and_eq_true,decide_eq_true_eq,decide_eq_true_eq,← not_le,
      ← not_le,hle,hge,hlower,hupper,not_le,not_le]
    exact ⟨fun h => ⟨h.1.le,h.2.le,fun _ => h⟩,fun h => h.odd hodd⟩

/-! ## Seventeen digits -/

theorem sixteen_digits (hm : m < mantissaBound) : (m : ℚ) / (2 * 10 ^ 16) < gapBelow m e := by
  have hmq : (m : ℚ) < 2 ^ 53 := by
    rw [← mantissaBound_cast]
    exact_mod_cast hm
  unfold gapBelow
  split
  · next h =>
    rw [h.1]
    norm_num [mantissaBound]
  · rw [div_lt_div_iff₀ (by norm_num) (by norm_num)]
    linarith

theorem nearest?_holds {b : Neighbourhood} {leading : Int} {count : Nat} {found : Nat × Int}
    (h : b.nearest? leading count = some found) : b.holds found.1 found.2 = true := by
  unfold Neighbourhood.nearest? at h
  dsimp only at h
  split at h
  · next hnear =>
    obtain rfl := Option.some.inj h
    exact hnear
  generalize (if roundQuotient (scaled 10 (-(leading - count + 1)) b.centre b.den).1
    (scaled 10 (-(leading - count + 1)) b.centre b.den).2 *
      (scaled 10 (-(leading - count + 1)) b.centre b.den).2 ≤
    (scaled 10 (-(leading - count + 1)) b.centre b.den).1 then _ else _) = far at h
  split at h
  · next hfar =>
    obtain rfl := Option.some.inj h
    exact hfar
  · cases h

/-- The nearest number of seventeen digits is near enough. -/
theorem nearest?_seventeen (hm : 0 < m) (hbound : m < mantissaBound) {leading : Int}
    (hl : (10 : ℚ) ^ leading ≤ m * 2 ^ e) : ((neighbourhood m e).nearest? leading 17).isSome := by
  obtain ⟨hden,-,hcentre,-⟩ := neighbourhood_spec (e := e) hm
  obtain ⟨place,hplace⟩ : ∃ place : Int, place = leading - (17 : Nat) + 1 := ⟨_,rfl⟩
  obtain ⟨hpos,hscaled⟩ := scaled_spec (by norm_num : 0 < 10) (-place)
    (neighbourhood m e).centre hden
  rw [hcentre,zpow_neg,← div_eq_mul_inv,Nat.cast_ofNat] at hscaled
  obtain ⟨hnl,hnu⟩ := roundQuotient_near (scaled 10 (-place) (neighbourhood m e).centre
    (neighbourhood m e).den).1 hpos
  obtain ⟨near,hnear⟩ : ∃ near, near = roundQuotient
      (scaled 10 (-place) (neighbourhood m e).centre (neighbourhood m e).den).1
      (scaled 10 (-place) (neighbourhood m e).centre (neighbourhood m e).den).2 := ⟨_,rfl⟩
  rw [hscaled,← hnear] at hnl hnu
  have hten := ten_zpow_pos place
  have hu := two_zpow_pos e
  have hunit : (10 : ℚ) ^ place ≤ m * 2 ^ e / 10 ^ 16 := by
    rw [hplace,show leading - (17 : Nat) + 1 = leading - (16 : Nat) by omega,
      zpow_sub₀ (by norm_num),zpow_natCast]
    gcongr
  have hgap := sixteen_digits (e := e) hbound
  have hhalf := gapBelow_le m e
  have hshift : (m : ℚ) * 2 ^ e / 10 ^ 16 / 2 < gapBelow m e * 2 ^ e := by
    calc (m : ℚ) * 2 ^ e / 10 ^ 16 / 2 = m / (2 * 10 ^ 16) * 2 ^ e := by ring
      _ < gapBelow m e * 2 ^ e := by gcongr
  have hlower : (m - gapBelow m e) * 2 ^ e < near * 10 ^ place := by
    rw [div_sub' hten.ne',div_le_iff₀ hten] at hnl
    nlinarith
  have hupper : (near : ℚ) * 10 ^ place < (m + 1 / 2) * 2 ^ e := by
    rw [div_add' _ _ _ hten.ne',le_div_iff₀ hten] at hnu
    nlinarith
  have hholds := (holds_iff hm near place).mpr ⟨hlower.le,hupper.le,fun _ => ⟨hlower,hupper⟩⟩
  unfold Neighbourhood.nearest?
  rw [← hplace]
  dsimp only
  rw [← hnear,if_pos hholds]
  rfl

theorem shortestDigits_roundsTo (hm : 0 < m) (hbound : m < mantissaBound) :
    RoundsTo m e ((shortestDigits m e).1 * 10 ^ (shortestDigits m e).2) := by
  obtain ⟨hden,-,hcentre,-⟩ := neighbourhood_spec (e := e) hm
  obtain ⟨leading,hleading⟩ : ∃ leading, leading =
    decimalExponent (neighbourhood m e).centre (neighbourhood m e).den := ⟨_,rfl⟩
  have hpositive : 0 < (neighbourhood m e).centre := by
    have hdq : (0 : ℚ) < (neighbourhood m e).den := by exact_mod_cast hden
    have hv : (0 : ℚ) < (neighbourhood m e).centre / (neighbourhood m e).den := by
      rw [hcentre]
      exact mul_pos (by exact_mod_cast hm) (two_zpow_pos e)
    exact_mod_cast (div_pos_iff_of_pos_right hdq).mp hv
  have hl : (10 : ℚ) ^ leading ≤ m * 2 ^ e := by
    rw [hleading,← hcentre]
    exact decimalExponent_le hpositive hden
  have hsome : ((List.range 17).findSome? fun count =>
      (neighbourhood m e).nearest? leading (count + 1)).isSome := by
    rw [List.findSome?_isSome_iff]
    exact ⟨16,by decide,nearest?_seventeen hm hbound hl⟩
  obtain ⟨found,hfound⟩ := Option.isSome_iff_exists.mp hsome
  obtain ⟨count,-,hcount⟩ := List.exists_of_findSome?_eq_some hfound
  have heq : shortestDigits m e = found := by
    rw [shortestDigits,← hleading,hfound]
    rfl
  rw [heq]
  exact (holds_iff hm _ _).mp (nearest?_holds hcount)

/-! ## Reading decimals -/

/-- What rounds to a number is as far from zero as numbers are. -/
theorem RoundsTo.between {q : ℚ} (h : RoundsTo m e q) (hc : Canonical (.finite negative m e))
    (hm : 0 < m) : (2 : ℚ) ^ (-1075 : Int) ≤ q ∧ q ≤ 2 ^ (1024 : Int) := by
  obtain ⟨hbound,hmin,hmax,-⟩ := hc
  have hgap := gapBelow_le m e
  have hu := two_zpow_pos e
  have hone : (1 : ℚ) ≤ m := by exact_mod_cast hm
  have hlast : (m : ℚ) + 1 ≤ 2 ^ 53 := by
    rw [← mantissaBound_cast]
    exact_mod_cast hbound
  have hlowest : (2 : ℚ) ^ (-1075 + 1 : Int) ≤ 2 ^ e := two_zpow_le hmin
  have hhighest : (2 : ℚ) ^ e ≤ 2 ^ (971 : Int) := two_zpow_le hmax
  constructor
  · rw [two_zpow_succ] at hlowest
    have := h.lower
    nlinarith
  · calc q ≤ (m + 1 / 2) * 2 ^ e := h.upper
      _ ≤ 2 ^ 53 * 2 ^ (971 : Int) := by gcongr; linarith
      _ = 2 ^ (1024 : Int) := by
        rw [show (1024 : Int) = (53 : Nat) + 971 by norm_num,zpow_add₀ (by norm_num),zpow_natCast]

/-- A decimal lies between the powers of ten that its length and its place allow. -/
theorem decimal_between {digits : Nat} (hdigits : 0 < digits) (place : Int) :
    (10 : ℚ) ^ (place + (Nat.toDigits 10 digits).length - 1) ≤ digits * 10 ^ place ∧
      (digits : ℚ) * 10 ^ place < 10 ^ (place + (Nat.toDigits 10 digits).length) := by
  obtain ⟨hlower,hupper⟩ := toDigits_length_bounds hdigits
  have hten := ten_zpow_pos place
  rw [add_sub_assoc,zpow_add₀ (by norm_num),zpow_add₀ (by norm_num),mul_comm,
    mul_comm ((10 : ℚ) ^ place)]
  exact ⟨mul_le_mul_of_nonneg_right hlower hten.le,mul_lt_mul_of_pos_right hupper hten⟩

/-- What is as far from zero as numbers are is not beyond the places that are looked at. -/
theorem magnitude_between {q : ℚ} {magnitude : Int} (hlow : (2 : ℚ) ^ (-1075 : Int) ≤ q)
    (hhigh : q ≤ 2 ^ (1024 : Int)) (hbelow : (10 : ℚ) ^ (magnitude - 1) ≤ q)
    (habove : q < 10 ^ magnitude) : -400 ≤ magnitude ∧ magnitude ≤ 400 := by
  constructor
  · by_contra hlt
    have hbig : (2 : ℚ) ^ (1203 : Int) ≤ 10 ^ (401 : Int) := two_pow_le_ten 401
    have hreach : (10 : ℚ) ^ magnitude ≤ 2 ^ (-1075 : Int) := calc
      (10 : ℚ) ^ magnitude ≤ 10 ^ (-401 : Int) := zpow_le_zpow_right₀ (by norm_num) (by omega)
      _ ≤ 2 ^ (-1203 : Int) := by
        rw [zpow_neg,zpow_neg]
        exact inv_anti₀ (two_zpow_pos _) hbig
      _ ≤ 2 ^ (-1075 : Int) := two_zpow_le (by norm_num)
    exact absurd (hlow.trans_lt habove) (not_lt.mpr hreach)
  · by_contra hgt
    have hbig : (2 : ℚ) ^ (1200 : Int) ≤ 10 ^ (400 : Int) := two_pow_le_ten 400
    have hreach : (2 : ℚ) ^ (1024 : Int) < 10 ^ (magnitude - 1) := calc
      (2 : ℚ) ^ (1024 : Int) < 2 ^ (1200 : Int) := zpow_lt_zpow_right₀ (by norm_num) (by norm_num)
      _ ≤ 10 ^ (400 : Int) := hbig
      _ ≤ 10 ^ (magnitude - 1) := zpow_le_zpow_right₀ (by norm_num) (by omega)
    exact absurd (hbelow.trans hhigh) (not_le.mpr hreach)

/-- Every decimal that is near enough to a number is read as the number. -/
theorem ofDecimal_of_roundsTo (hc : Canonical (.finite negative m e)) (hm : 0 < m) {digits : Nat}
    {place : Int} (h : RoundsTo m e (digits * 10 ^ place)) :
    ofDecimal negative digits place = .finite negative m e := by
  obtain ⟨hlow,hhigh⟩ := h.between hc hm
  have hvalue : (0 : ℚ) < digits * 10 ^ place := (two_zpow_pos _).trans_le hlow
  have hdigits : 0 < digits := by
    exact_mod_cast (pos_iff_pos_of_mul_pos hvalue).mpr (ten_zpow_pos place)
  obtain ⟨hbelow,habove⟩ := decimal_between hdigits place
  obtain ⟨hsmall,hlarge⟩ := magnitude_between hlow hhigh hbelow habove
  obtain ⟨hpos,hscaled⟩ := scaled_spec (by norm_num : 0 < 10) place digits Nat.one_pos
  rw [Nat.cast_one,div_one,Nat.cast_ofNat] at hscaled
  have hposq : (0 : ℚ) < (scaled 10 place digits 1).2 := by exact_mod_cast hpos
  have hnum : 0 < (scaled 10 place digits 1).1 := by
    rw [← hscaled,div_pos_iff_of_pos_right hposq] at hvalue
    exact_mod_cast hvalue
  have hopen : ofDecimal negative digits place =
      ofQuotient negative (scaled 10 place digits 1).1 (scaled 10 place digits 1).2 := by
    unfold ofDecimal
    dsimp only
    rw [if_neg (by omega),if_neg (by omega)]
  rw [hopen]
  exact ofQuotient_of_roundsTo hc hnum hpos (by rwa [hscaled])

/-- A decimal of the value of a number's shortest digits is read as the number. -/
theorem ofDecimal_shortestDigits (hc : Canonical (.finite negative m e)) (hm : 0 < m) {digits : Nat}
    {place : Int}
    (h : (digits : ℚ) * 10 ^ place = (shortestDigits m e).1 * 10 ^ (shortestDigits m e).2) :
    ofDecimal negative digits place = .finite negative m e :=
  ofDecimal_of_roundsTo hc hm (h ▸ shortestDigits_roundsTo hm hc.1)

theorem shortestDigits_pos (hm : 0 < m) (hbound : m < mantissaBound) :
    0 < (shortestDigits m e).1 := by
  rcases Nat.eq_zero_or_pos (shortestDigits m e).1 with hzero | hpos
  · have hlower := (shortestDigits_roundsTo (e := e) hm hbound).lower
    have hgap := gapBelow_le m e
    have hmq : (1 : ℚ) ≤ m := by exact_mod_cast hm
    rw [hzero,Nat.cast_zero,zero_mul] at hlower
    have hpositive : (0 : ℚ) < (m - gapBelow m e) * 2 ^ e :=
      mul_pos (by linarith) (two_zpow_pos e)
    exact absurd hlower (not_le.mpr hpositive)
  · exact hpos

end StyleLift.Binary64
