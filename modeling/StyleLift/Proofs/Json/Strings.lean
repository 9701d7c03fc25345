import StyleLift.Json.Printer
import StyleLift.Json.Reader
import StyleLift.Proofs.Text.Encoding

/-! # Strings in JSON text

A written string is read back. In ASCII a code point is written as one UTF-16 unit or as two, and a
reader joins two that make a pair, so the halves of a surrogate pair that stood side by side in the
string come back as the code point of the pair.
-/
namespace StyleLift

/-- The text with the halves of each surrogate pair made one code point. -/
def Text.joined : Text → Text
  | .surrogate high :: .surrogate low :: rest =>
    if high.val < 0x400 ∧ 0x400 ≤ low.val then
      CodePoint.ofNat (0x10000 + high.val * 0x400 + (low.val - 0x400)) :: joined rest
    else .surrogate high :: joined (.surrogate low :: rest)
  | c :: rest => c :: joined rest
  | [] => []

theorem Text.joined_of_not_surrogate {s : Text} (h : ∀ c ∈ s, isSurrogate c = false) :
    s.joined = s := by
  fun_induction joined s with
  | case1 high low rest hpair ih => exact absurd (h _ List.mem_cons_self) (by simp [isSurrogate])
  | case2 high low rest hpair ih => exact absurd (h _ List.mem_cons_self) (by simp [isSurrogate])
  | case3 c rest hne ih => rw [ih fun d hd => h d (List.mem_cons_of_mem _ hd)]
  | case4 => rfl

namespace Json

/-! ## Units -/

/-- The hexadecimal digit of a number below 16. -/
def hexChar (k : Nat) : CodePoint := .char (Nat.digitChar k)

theorem hexDigit?_hexChar : ∀ k < 16, (hexChar k).hexDigit? = some k := by decide

theorem isHexDigit_hexChar {k : Nat} (h : k < 16) : (hexChar k).isHexDigit = true := by
  rw [CodePoint.isHexDigit,hexDigit?_hexChar k h]
  rfl

theorem toDigits_hex {n : Nat} (h : 16 ≤ n) :
    Nat.toDigits 16 n = Nat.toDigits 16 (n / 16) ++ [Nat.digitChar (n % 16)] :=
  Nat.toDigits_of_base_le (by decide) h

theorem paddedHex_four {n : Nat} (h : n < 0x10000) : Text.paddedHex 4 n =
    [hexChar (n / 4096),hexChar (n / 256 % 16),hexChar (n / 16 % 16),hexChar (n % 16)] := by
  have hzero : ∀ {k}, k = 0 → hexChar k = .char '0' := by rintro k rfl; rfl
  unfold Text.paddedHex
  by_cases h1 : n < 16
  · rw [Nat.toDigits_of_lt_base h1,hzero (show n / 4096 = 0 by omega),
      hzero (show n / 256 % 16 = 0 by omega),hzero (show n / 16 % 16 = 0 by omega),
      show n % 16 = n by omega]
    rfl
  by_cases h2 : n < 256
  · rw [toDigits_hex (by omega),Nat.toDigits_of_lt_base (show n / 16 < 16 by omega),
      hzero (show n / 4096 = 0 by omega),hzero (show n / 256 % 16 = 0 by omega),
      show n / 16 % 16 = n / 16 by omega]
    rfl
  by_cases h3 : n < 4096
  · rw [toDigits_hex (by omega),toDigits_hex (show 16 ≤ n / 16 by omega),
      Nat.toDigits_of_lt_base (show n / 16 / 16 < 16 by omega),hzero (show n / 4096 = 0 by omega),
      show n / 256 % 16 = n / 16 / 16 by omega]
    rfl
  · rw [toDigits_hex (by omega),toDigits_hex (show 16 ≤ n / 16 by omega),
      toDigits_hex (show 16 ≤ n / 16 / 16 by omega),
      Nat.toDigits_of_lt_base (show n / 16 / 16 / 16 < 16 by omega),
      show n / 4096 = n / 16 / 16 / 16 by omega,show n / 256 % 16 = n / 16 / 16 % 16 by omega]
    rfl

theorem hexValue_four {n : Nat} (h : n < 0x10000) : Text.hexValue
    [hexChar (n / 4096),hexChar (n / 256 % 16),hexChar (n / 16 % 16),hexChar (n % 16)] = n := by
  simp only [Text.hexValue,List.foldl_cons,List.foldl_nil,
    hexDigit?_hexChar _ (show n / 4096 < 16 by omega),
    hexDigit?_hexChar _ (show n / 256 % 16 < 16 by omega),
    hexDigit?_hexChar _ (show n / 16 % 16 < 16 by omega),
    hexDigit?_hexChar _ (show n % 16 < 16 by omega),Option.getD_some]
  omega

/-! ## Pieces -/

variable {pieces : List Piece} {rest tail : Text}

theorem stringPieces_unit {n : Nat} (h : n < 0x10000)
    (hrest : stringPieces rest = some (pieces,tail)) :
    stringPieces (unitEscape n ++ rest) = some (.unit n :: pieces,tail) := by
  have hall : [hexChar (n / 4096),hexChar (n / 256 % 16),hexChar (n / 16 % 16),
      hexChar (n % 16)].all CodePoint.isHexDigit = true := by
    simp only [List.all_cons,List.all_nil,isHexDigit_hexChar (show n / 4096 < 16 by omega),
      isHexDigit_hexChar (show n / 256 % 16 < 16 by omega),
      isHexDigit_hexChar (show n / 16 % 16 < 16 by omega),
      isHexDigit_hexChar (show n % 16 < 16 by omega),Bool.and_true]
  rw [unitEscape,paddedHex_four h]
  change stringPieces (.char '\\' :: .char 'u' :: _ :: _ :: _ :: _ :: rest) = _
  rw [stringPieces,if_pos hall,hexValue_four h,hrest]
  rfl

theorem stringPieces_short {c e : CodePoint} (hu : e ≠ .char 'u') (h : shortEscape? e = some c)
    (hrest : stringPieces rest = some (pieces,tail)) :
    stringPieces (.char '\\' :: e :: rest) = some (.plain c :: pieces,tail) := by
  rw [stringPieces,h,hrest]
  · rfl
  · rintro _ _ _ _ _ he
    exact (hu he).elim

theorem stringPieces_plain {c : CodePoint} (hquote : c ≠ .char '"') (hslash : c ≠ .char '\\')
    (h : 0x20 ≤ c.val) (hrest : stringPieces rest = some (pieces,tail)) :
    stringPieces (c :: rest) = some (.plain c :: pieces,tail) := by
  have hplain : ¬ (c.val < 0x20 ∨ c = .char '\\') := by
    rintro (hlow | he)
    · omega
    · exact hslash he
  rw [stringPieces,if_neg hplain,hrest]
  · rfl
  · exact fun he => (hquote he).elim
  · exact fun _ _ _ _ _ he _ => (hslash he).elim
  · exact fun _ _ he _ => (hslash he).elim

/-- The code points with an escape of one letter. -/
def isShort (c : CodePoint) : Bool :=
  c == .char '"' || c == .char '\\' || c == .char '\n' || c == .char '\r' || c == .char '\t' ||
    c == .char '\x0c' || c == .char '\x08'

/-- The pieces that a reader makes of a code point as it is written. -/
def piecesOf (inAscii : Bool) (c : CodePoint) : List Piece :=
  if isShort c ∨ 0x20 ≤ c.val ∧ (c.val < 0x7F ∨ !inAscii) then [.plain c]
  else if c.val < 0x10000 then [.unit c.val]
  else [.unit (0xD800 + (c.val - 0x10000) / 0x400),.unit (0xDC00 + (c.val - 0x10000) % 0x400)]

theorem eq_char_of_val {c : CodePoint} {d : Char} (h : c.val = d.toNat) : c = .char d := by
  rw [← c.ofNat_val,h]
  exact CodePoint.ofNat_val (.char d)

theorem isShort_iff {c : CodePoint} : isShort c = true ↔ c = .char '"' ∨ c = .char '\\' ∨
    c = .char '\n' ∨ c = .char '\r' ∨ c = .char '\t' ∨ c = .char '\x0c' ∨ c = .char '\x08' := by
  simp only [isShort,Bool.or_eq_true,beq_iff_eq,or_assoc]

/-- A code point with a short escape is read back from it. -/
theorem stringPieces_isShort {inAscii : Bool} {c : CodePoint} (hc : isShort c = true)
    (hrest : stringPieces rest = some (pieces,tail)) :
    stringPieces (escapeCodePoint inAscii c ++ rest) = some (.plain c :: pieces,tail) := by
  rcases isShort_iff.mp hc with rfl | rfl | rfl | rfl | rfl | rfl | rfl
  all_goals exact stringPieces_short (by decide) rfl hrest

/-- Other code points are written as they are or by their units. -/
theorem escapeCodePoint_of_not_isShort {inAscii : Bool} {c : CodePoint} (hc : ¬ isShort c = true) :
    escapeCodePoint inAscii c =
      if 0x20 ≤ c.val ∧ (c.val < 0x7F ∨ !inAscii) then [c]
      else if c.val < 0x10000 then unitEscape c.val
      else unitEscape (0xD800 + (c.val - 0x10000) / 0x400) ++
        unitEscape (0xDC00 + (c.val - 0x10000) % 0x400) := by
  simp only [isShort_iff,not_or] at hc
  obtain ⟨hquote,hslash,hline,hreturn,htab,hfeed,hback⟩ := hc
  have hfeed : ¬ c.val = 0x0C := fun h => hfeed (eq_char_of_val h)
  have hback : ¬ c.val = 0x08 := fun h => hback (eq_char_of_val h)
  rw [escapeCodePoint]
  simp only [if_neg hquote,if_neg hslash,if_neg hline,if_neg hreturn,if_neg htab,if_neg hfeed,
    if_neg hback]

theorem stringPieces_codePoint {inAscii : Bool} (c : CodePoint)
    (hrest : stringPieces rest = some (pieces,tail)) :
    stringPieces (escapeCodePoint inAscii c ++ rest) =
      some (piecesOf inAscii c ++ pieces,tail) := by
  by_cases hc : isShort c = true
  · rw [piecesOf,if_pos (.inl hc)]
    exact stringPieces_isShort hc hrest
  rw [escapeCodePoint_of_not_isShort hc,piecesOf]
  by_cases h : 0x20 ≤ c.val ∧ (c.val < 0x7F ∨ (!inAscii) = true)
  · rw [if_pos h,if_pos (.inr h)]
    simp only [isShort_iff,not_or] at hc
    exact stringPieces_plain hc.1 hc.2.1 h.1 hrest
  rw [if_neg h,if_neg (not_or.mpr ⟨hc,h⟩)]
  by_cases hsmall : c.val < 0x10000
  · rw [if_pos hsmall,if_pos hsmall]
    exact stringPieces_unit hsmall hrest
  · rw [if_neg hsmall,if_neg hsmall]
    have hlimit := c.val_lt
    rw [List.append_assoc]
    exact stringPieces_unit (by omega) (stringPieces_unit (by omega) hrest)

theorem stringPieces_string (inAscii : Bool) (s rest : Text) :
    stringPieces (s.flatMap (escapeCodePoint inAscii) ++ .char '"' :: rest) =
      some (s.flatMap (piecesOf inAscii),rest) := by
  induction s with
  | nil => simp [stringPieces]
  | cons c s ih =>
    rw [List.flatMap_cons,List.flatMap_cons,List.append_assoc]
    exact stringPieces_codePoint c ih

/-! ## Joining -/

/-- A unit stands for itself unless it makes a pair with the next one. -/
theorem joinUnits_unit {n : Nat} (h : ∀ m tail, pieces = .unit m :: tail →
    ¬ (0xD800 ≤ n ∧ n < 0xDC00 ∧ 0xDC00 ≤ m ∧ m < 0xE000)) :
    joinUnits (.unit n :: pieces) = CodePoint.ofNat n :: joinUnits pieces := by
  cases pieces with
  | nil => simp [joinUnits]
  | cons piece tail =>
    cases piece with
    | plain c => simp [joinUnits]
    | unit m => rw [joinUnits,if_neg (h m tail rfl)]

theorem joinUnits_pair {high low : Nat} (hhigh : 0xD800 ≤ high ∧ high < 0xDC00)
    (hlow : 0xDC00 ≤ low ∧ low < 0xE000) : joinUnits (.unit high :: .unit low :: pieces) =
      CodePoint.ofNat (0x10000 + (high - 0xD800) * 0x400 + (low - 0xDC00)) :: joinUnits pieces := by
  rw [joinUnits,if_pos ⟨hhigh.1,hhigh.2,hlow⟩]

theorem joinUnits_unescaped (s : Text) : joinUnits (s.flatMap (piecesOf false)) = s := by
  induction s with
  | nil => rfl
  | cons c s ih =>
    rw [List.flatMap_cons]
    by_cases h : isShort c = true ∨ 0x20 ≤ c.val ∧ (c.val < 0x7F ∨ (!false) = true)
    · rw [piecesOf,if_pos h]
      exact congrArg (c :: ·) ih
    · have hlow : c.val < 0x20 := by
        rcases Nat.lt_or_ge c.val 0x20 with hlow | hhigh
        · exact hlow
        · exact (h (.inr ⟨hhigh,.inr rfl⟩)).elim
      rw [piecesOf,if_neg h,if_pos (by omega),List.singleton_append,
        joinUnits_unit (fun m tail _ => by omega),c.ofNat_val,ih]

theorem eq_surrogate {c : CodePoint} (h : 0xD800 ≤ c.val ∧ c.val < 0xE000) :
    ∃ low, c = .surrogate low := by
  cases c with
  | surrogate low => exact ⟨low,rfl⟩
  | char d => exact absurd (CodePoint.isSurrogate_iff.mpr h) (by simp [Text.isSurrogate])

/-- What comes after a high surrogate makes no pair with it unless a low one comes next. -/
theorem not_low_of_piecesOf {c : CodePoint} {m : Nat} {s : Text}
    (hc : ∀ low, c ≠ .surrogate low) {others : List Piece}
    (h : (c :: s).flatMap (piecesOf true) = .unit m :: others) :
    ¬ (0xDC00 ≤ m ∧ m < 0xE000) := by
  have hplace : ¬ (0xD800 ≤ c.val ∧ c.val < 0xE000) := fun hrange => by
    obtain ⟨low,hlow⟩ := eq_surrogate hrange
    exact hc low hlow
  have hlimit := c.val_lt
  rw [List.flatMap_cons,piecesOf] at h
  split at h
  · cases h
  split at h
  · cases h
    omega
  · cases h
    omega

theorem piecesOf_surrogate (low : Fin 0x800) :
    piecesOf true (.surrogate low) = [.unit (0xD800 + low.val)] := by
  have hlow := low.isLt
  have hunit : ¬ (isShort (.surrogate low) = true ∨ 0x20 ≤ (CodePoint.surrogate low).val ∧
      ((CodePoint.surrogate low).val < 0x7F ∨ (!true) = true)) := by
    simp [isShort,CodePoint.val]
    omega
  rw [piecesOf,if_neg hunit,if_pos (by simp only [CodePoint.val]; omega)]
  rfl

theorem joinUnits_inAscii (s : Text) : joinUnits (s.flatMap (piecesOf true)) = s.joined := by
  fun_induction Text.joined s with
  | case1 high low rest hpair ih =>
    rw [List.flatMap_cons,List.flatMap_cons,piecesOf_surrogate,piecesOf_surrogate,
      List.singleton_append,List.singleton_append,joinUnits_pair (by omega) (by omega),ih,
      show 0xD800 + high.val - 0xD800 = high.val by omega,
      show 0xD800 + low.val - 0xDC00 = low.val - 0x400 by omega]
  | case2 high low rest hpair ih =>
    rw [List.flatMap_cons,piecesOf_surrogate,List.singleton_append,joinUnits_unit ?_,ih]
    · congr 1
      exact CodePoint.ofNat_val (.surrogate high)
    · intro m tail hm
      rw [List.flatMap_cons,piecesOf_surrogate] at hm
      cases hm
      have := low.isLt
      omega
  | case3 c rest hne ih =>
    rw [List.flatMap_cons,piecesOf]
    split
    · exact congrArg (c :: ·) ih
    split
    · rw [List.singleton_append,joinUnits_unit ?_,c.ofNat_val,ih]
      rintro m tail hm ⟨hlow,hhigh,hpair⟩
      obtain ⟨high,rfl⟩ := eq_surrogate ⟨hlow,by omega⟩
      cases rest with
      | nil => cases hm
      | cons d rest =>
        exact not_low_of_piecesOf (fun low hd => hne high low rest rfl (by rw [hd])) hm hpair
    · next hlarge =>
      have hlimit := c.val_lt
      have hvalue : 0x10000 + (0xD800 + (c.val - 0x10000) / 0x400 - 0xD800) * 0x400 +
          (0xDC00 + (c.val - 0x10000) % 0x400 - 0xDC00) = c.val := by omega
      rw [List.cons_append,List.singleton_append,joinUnits_pair (by omega) (by omega),hvalue,
        c.ofNat_val,ih]
  | case4 => rfl

/-- A written string is read back, its surrogate pairs joined where it was written in ASCII. -/
theorem readString_render (room : Room) (inAscii : Bool) (s rest : Text) :
    readString room (s.flatMap (escapeCodePoint inAscii) ++ .char '"' :: rest) =
      .ok (if inAscii then s.joined else s,rest) := by
  rw [readString,stringPieces_string]
  cases inAscii with
  | true => exact congrArg (fun t => Except.ok (t,rest)) (joinUnits_inAscii s)
  | false => exact congrArg (fun t => Except.ok (t,rest)) (joinUnits_unescaped s)

end Json
end StyleLift
