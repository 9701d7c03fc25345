import StyleLift.Text.Utf8

/-! # Decoding what was encoded

The bytes of a text are read back as the text: each code point from its own bytes, surrogates where
they are let through.
-/
namespace StyleLift

namespace CodePoint

theorem val_lt (c : CodePoint) : c.val < 0x110000 := by
  cases c with
  | char d =>
    rcases d.valid with h | ⟨-,h⟩
    · exact Nat.lt_trans h (by decide)
    · exact h
  | surrogate low =>
    have := low.isLt
    simp only [val]
    omega

theorem ofNat_val (c : CodePoint) : ofNat c.val = c := by
  cases c with
  | char d =>
    have hvalid : d.toNat.isValidChar := d.valid
    rw [ofNat,val,ofNat?,dif_pos hvalid]
    rfl
  | surrogate low =>
    have hlow := low.isLt
    have hinvalid : ¬ (0xD800 + low.val).isValidChar := by
      rintro (h | ⟨h,-⟩) <;> omega
    have hrange : 0xD800 ≤ 0xD800 + low.val ∧ 0xD800 + low.val < 0xE000 := by omega
    rw [ofNat,val,ofNat?,dif_neg hinvalid,dif_pos hrange]
    simp

theorem isSurrogate_iff {c : CodePoint} :
    Text.isSurrogate c = true ↔ 0xD800 ≤ c.val ∧ c.val < 0xE000 := by
  cases c with
  | char d =>
    have hvalid : d.toNat.isValidChar := d.valid
    simp only [Text.isSurrogate,val,Bool.false_eq_true,false_iff]
    rcases hvalid with h | ⟨h,-⟩ <;> omega
  | surrogate low =>
    have := low.isLt
    simp only [Text.isSurrogate,val,true_iff]
    omega

end CodePoint

namespace Text

variable {allow : Bool} {acc rest : Text} {pos n k : Nat}

theorem toNat_ofNat_byte (h : n < 256) : (UInt8.ofNat n).toNat = n := by
  rw [UInt8.toNat_ofNat']
  omega

/-- A continuation byte holds six bits. -/
theorem tail_toNat (n : Nat) : (UInt8.ofNat (0x80 + n % 64)).toNat = 0x80 + n % 64 :=
  toNat_ofNat_byte (by omega)

theorem leadByte?_two (h : 0x80 ≤ n ∧ n < 0x800) :
    leadByte? allow (UInt8.ofNat (0xC0 + n / 64)) = some (1,0x80,0xBF) := by
  obtain ⟨b,hb⟩ : ∃ b, b = UInt8.ofNat (0xC0 + n / 64) := ⟨_,rfl⟩
  have hlead : b.toNat = 0xC0 + n / 64 := by rw [hb,toNat_ofNat_byte (by omega)]
  rw [← hb]
  simp only [leadByte?,UInt8.le_iff_toNat_le,hlead,Bool.and_eq_true,decide_eq_true_eq,
    UInt8.reduceToNat]
  rw [if_pos (by omega)]

/-- The second of three bytes is within the bounds that the first one sets. -/
theorem leadByte?_three (h : 0x800 ≤ n ∧ n < 0x10000)
    (hs : allow = true ∨ ¬ (0xD800 ≤ n ∧ n < 0xE000)) :
    ∃ low high, leadByte? allow (UInt8.ofNat (0xE0 + n / 4096)) = some (2,low,high) ∧
      low.toNat ≤ 0x80 + n / 64 % 64 ∧ 0x80 + n / 64 % 64 ≤ high.toNat := by
  obtain ⟨b,hb⟩ : ∃ b, b = UInt8.ofNat (0xE0 + n / 4096) := ⟨_,rfl⟩
  have hlead : b.toNat = 0xE0 + n / 4096 := by rw [hb,toNat_ofNat_byte (by omega)]
  rw [← hb]
  simp only [leadByte?,UInt8.le_iff_toNat_le,beq_iff_eq,← UInt8.toNat_inj,hlead,Bool.and_eq_true,
    decide_eq_true_eq,UInt8.reduceToNat]
  rw [if_neg (by omega)]
  by_cases hfirst : n / 4096 = 0
  · rw [if_pos (by omega)]
    exact ⟨_,_,rfl,by simp only [UInt8.reduceToNat]; omega,by simp only [UInt8.reduceToNat]; omega⟩
  rw [if_neg (by omega)]
  by_cases hsurrogate : n / 4096 = 13
  · rw [if_pos (by omega)]
    refine ⟨_,_,rfl,by simp only [UInt8.reduceToNat]; omega,?_⟩
    split
    · simp only [UInt8.reduceToNat]; omega
    · next hallow =>
      have := hs.resolve_left hallow
      simp only [UInt8.reduceToNat]; omega
  rw [if_neg (by omega),if_pos (by omega)]
  exact ⟨_,_,rfl,by simp only [UInt8.reduceToNat]; omega,by simp only [UInt8.reduceToNat]; omega⟩

/-- The second of four bytes is within the bounds that the first one sets. -/
theorem leadByte?_four (h : 0x10000 ≤ n ∧ n < 0x110000) :
    ∃ low high, leadByte? allow (UInt8.ofNat (0xF0 + n / 262144)) = some (3,low,high) ∧
      low.toNat ≤ 0x80 + n / 4096 % 64 ∧ 0x80 + n / 4096 % 64 ≤ high.toNat := by
  obtain ⟨b,hb⟩ : ∃ b, b = UInt8.ofNat (0xF0 + n / 262144) := ⟨_,rfl⟩
  have hlead : b.toNat = 0xF0 + n / 262144 := by rw [hb,toNat_ofNat_byte (by omega)]
  rw [← hb]
  simp only [leadByte?,UInt8.le_iff_toNat_le,beq_iff_eq,← UInt8.toNat_inj,hlead,Bool.and_eq_true,
    decide_eq_true_eq,UInt8.reduceToNat]
  rw [if_neg (by omega),if_neg (by omega),if_neg (by omega),if_neg (by omega)]
  by_cases hfirst : n / 262144 = 0
  · rw [if_pos (by omega)]
    exact ⟨_,_,rfl,by simp only [UInt8.reduceToNat]; omega,by simp only [UInt8.reduceToNat]; omega⟩
  rw [if_neg (by omega)]
  by_cases hlast : n / 262144 = 4
  · rw [if_pos (by omega)]
    exact ⟨_,_,rfl,by simp only [UInt8.reduceToNat]; omega,by simp only [UInt8.reduceToNat]; omega⟩
  rw [if_neg (by omega),if_pos (by omega)]
  exact ⟨_,_,rfl,by simp only [UInt8.reduceToNat]; omega,by simp only [UInt8.reduceToNat]; omega⟩

/-! ## One code point -/

variable {low high lead : UInt8} {seen need value : Nat} {bytes : List UInt8}

theorem not_lt_byte (hn : 0x80 ≤ n ∧ n < 256) : ¬ UInt8.ofNat n < 0x80 := by
  simp only [UInt8.lt_iff_toNat_lt,toNat_ofNat_byte hn.2,UInt8.reduceToNat]
  omega

theorem decodeFrom_lead (hn : 0x80 ≤ n ∧ n < 256)
    (h : leadByte? allow (UInt8.ofNat n) = some (need,low,high)) :
    decodeFrom allow .start pos acc (UInt8.ofNat n :: bytes) =
      decodeFrom allow (.inside (UInt8.ofNat n) 1 need (n % Nat.pow 2 (6 - need)) low high)
        (pos + 1) acc bytes := by
  rw [decodeFrom,if_neg (not_lt_byte hn),h,toNat_ofNat_byte hn.2]

/-- A continuation byte within its bounds adds six bits. -/
theorem decodeFrom_tail (hk : low.toNat ≤ 0x80 + k % 64 ∧ 0x80 + k % 64 ≤ high.toNat) :
    decodeFrom allow (.inside lead seen need value low high) pos acc
        (UInt8.ofNat (0x80 + k % 64) :: bytes) =
      if need ≤ 1 then
        decodeFrom allow .start (pos + 1) (CodePoint.ofNat (value * 64 + k % 64) :: acc) bytes
      else
        decodeFrom allow (.inside lead (seen + 1) (need - 1) (value * 64 + k % 64) 0x80 0xBF)
          (pos + 1) acc bytes := by
  have hbounds : ¬ (UInt8.ofNat (0x80 + k % 64) < low ||
      high < UInt8.ofNat (0x80 + k % 64)) = true := by
    simp only [UInt8.lt_iff_toNat_lt,tail_toNat,Bool.or_eq_true,decide_eq_true_eq]
    omega
  have hvalue : (0x80 + k % 64) % 64 = k % 64 := by omega
  rw [decodeFrom,if_neg hbounds,tail_toNat,hvalue]

/-- Later continuation bytes are all within theirs. -/
theorem tail_between (k : Nat) :
    (0x80 : UInt8).toNat ≤ 0x80 + k % 64 ∧ 0x80 + k % 64 ≤ (0xBF : UInt8).toNat := by
  simp only [UInt8.reduceToNat]
  omega

theorem decodeFrom_one (h : n < 0x80) : decodeFrom allow .start pos acc (UInt8.ofNat n :: bytes) =
    decodeFrom allow .start (pos + 1) (CodePoint.ofNat n :: acc) bytes := by
  have hbyte : (UInt8.ofNat n).toNat = n := toNat_ofNat_byte (Nat.lt_trans h (by decide))
  have hlow : UInt8.ofNat n < 0x80 := by
    simp only [UInt8.lt_iff_toNat_lt,hbyte,UInt8.reduceToNat]
    exact h
  rw [decodeFrom,if_pos hlow,hbyte]

theorem decodeFrom_two (h : 0x80 ≤ n ∧ n < 0x800) :
    decodeFrom allow .start pos acc
        (UInt8.ofNat (0xC0 + n / 64) :: UInt8.ofNat (0x80 + n % 64) :: bytes) =
      decodeFrom allow .start (pos + 1 + 1) (CodePoint.ofNat n :: acc) bytes := by
  have hvalue : (0xC0 + n / 64) % Nat.pow 2 (6 - 1) * 64 + n % 64 = n := by
    change (0xC0 + n / 64) % 32 * 64 + n % 64 = n
    omega
  rw [decodeFrom_lead (by omega) (leadByte?_two h),decodeFrom_tail (tail_between n),
    if_pos (Nat.le_refl 1),hvalue]

theorem decodeFrom_three (h : 0x800 ≤ n ∧ n < 0x10000)
    (hs : allow = true ∨ ¬ (0xD800 ≤ n ∧ n < 0xE000)) :
    decodeFrom allow .start pos acc (UInt8.ofNat (0xE0 + n / 4096) ::
        UInt8.ofNat (0x80 + n / 64 % 64) :: UInt8.ofNat (0x80 + n % 64) :: bytes) =
      decodeFrom allow .start (pos + 1 + 1 + 1) (CodePoint.ofNat n :: acc) bytes := by
  have hvalue : ((0xE0 + n / 4096) % Nat.pow 2 (6 - 2) * 64 + n / 64 % 64) * 64 + n % 64 = n := by
    change ((0xE0 + n / 4096) % 16 * 64 + n / 64 % 64) * 64 + n % 64 = n
    omega
  obtain ⟨low,high,hbyte,hbounds⟩ := leadByte?_three h hs
  rw [decodeFrom_lead (by omega) hbyte,decodeFrom_tail hbounds,if_neg (by decide),
    decodeFrom_tail (tail_between n),if_pos (by decide),hvalue]

theorem decodeFrom_four (h : 0x10000 ≤ n ∧ n < 0x110000) :
    decodeFrom allow .start pos acc (UInt8.ofNat (0xF0 + n / 262144) ::
        UInt8.ofNat (0x80 + n / 4096 % 64) :: UInt8.ofNat (0x80 + n / 64 % 64) ::
          UInt8.ofNat (0x80 + n % 64) :: bytes) =
      decodeFrom allow .start (pos + 1 + 1 + 1 + 1) (CodePoint.ofNat n :: acc) bytes := by
  have hvalue : (((0xF0 + n / 262144) % Nat.pow 2 (6 - 3) * 64 + n / 4096 % 64) * 64 +
      n / 64 % 64) * 64 + n % 64 = n := by
    change (((0xF0 + n / 262144) % 8 * 64 + n / 4096 % 64) * 64 + n / 64 % 64) * 64 + n % 64 = n
    omega
  obtain ⟨low,high,hbyte,hbounds⟩ := leadByte?_four h
  rw [decodeFrom_lead (by omega) hbyte,decodeFrom_tail hbounds,if_neg (by decide),
    decodeFrom_tail (tail_between (n / 64)),if_neg (by decide),decodeFrom_tail (tail_between n),
    if_pos (by decide),hvalue]

/-- The bytes of a number are read as its code point, with six bits from each continuation byte. -/
theorem decodeFrom_number (hlimit : n < 0x110000)
    (hs : allow = true ∨ ¬ (0xD800 ≤ n ∧ n < 0xE000)) :
    decodeFrom allow .start pos acc (utf8Bytes n ++ bytes) =
      decodeFrom allow .start (pos + (utf8Bytes n).length) (CodePoint.ofNat n :: acc) bytes := by
  have hshift : n >>> 0 = n ∧ n >>> 6 = n / 64 ∧ n >>> 12 = n / 4096 :=
    ⟨rfl,Nat.shiftRight_eq_div_pow n 6,Nat.shiftRight_eq_div_pow n 12⟩
  unfold utf8Bytes
  simp only [hshift]
  by_cases hone : n < 0x80
  · rw [if_pos hone]
    exact decodeFrom_one hone
  by_cases htwo : n < 0x800
  · rw [if_neg hone,if_pos htwo]
    exact decodeFrom_two ⟨Nat.not_lt.mp hone,htwo⟩
  by_cases hthree : n < 0x10000
  · rw [if_neg hone,if_neg htwo,if_pos hthree]
    exact decodeFrom_three ⟨Nat.not_lt.mp htwo,hthree⟩ hs
  · rw [if_neg hone,if_neg htwo,if_neg hthree]
    exact decodeFrom_four ⟨Nat.not_lt.mp hthree,hlimit⟩

/-! ## Whole texts -/

theorem decodeFrom_utf8 {s : Text} (hs : allow = true ∨ ∀ c ∈ s, isSurrogate c = false) :
    decodeFrom allow .start pos acc (utf8 s) = .ok (acc.reverse ++ s) := by
  induction s generalizing pos acc with
  | nil => rw [List.append_nil]; rfl
  | cons c s ih =>
    have hc : allow = true ∨ ¬ (0xD800 ≤ c.val ∧ c.val < 0xE000) :=
      hs.imp_right fun h hrange => by
        have := h c List.mem_cons_self
        rw [CodePoint.isSurrogate_iff.mpr hrange] at this
        cases this
    have hrest : allow = true ∨ ∀ d ∈ s, isSurrogate d = false :=
      hs.imp_right fun h d hd => h d (List.mem_cons_of_mem _ hd)
    rw [utf8,List.flatMap_cons,decodeFrom_number c.val_lt hc,c.ofNat_val]
    rw [show s.flatMap (fun c => utf8Bytes c.val) = utf8 s from rfl,ih hrest]
    simp

theorem decode_utf8 {s : Text} (hs : ∀ c ∈ s, isSurrogate c = false) : decode (utf8 s) = .ok s :=
  decodeFrom_utf8 (.inr hs)

theorem decodeLossy_utf8 {s : Text} (hs : ∀ c ∈ s, isSurrogate c = false) :
    decodeLossy (utf8 s) = s := by
  rw [decodeLossy,decodeStretches,decode_utf8 hs]

/-- A text without surrogates has an encoding. -/
theorem encode_of_not_surrogate {s : Text} (hs : ∀ c ∈ s, isSurrogate c = false) :
    encode s = .ok (utf8 s) := by
  have htake : s.takeWhile (fun c => !isSurrogate c) = s := by
    have hplain : ∀ c ∈ s, (!isSurrogate c) = true := fun c hc => by simp [hs c hc]
    have hrun := @List.takeWhile_append_of_pos _ (fun c => !isSurrogate c) s [] hplain
    rwa [List.takeWhile_nil,List.append_nil] at hrun
  rw [encode,htake,List.drop_length]

theorem utf8_ascii {s : Text} (hs : ∀ c ∈ s, c.val < 0x80) :
    utf8 s = s.map fun c => UInt8.ofNat c.val := by
  induction s with
  | nil => rfl
  | cons c s ih =>
    rw [utf8,List.flatMap_cons,utf8Bytes,if_pos (hs c List.mem_cons_self),List.map_cons,
      ← ih fun d hd => hs d (List.mem_cons_of_mem _ hd)]
    rfl

end Text
end StyleLift
