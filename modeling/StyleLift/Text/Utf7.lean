import StyleLift.Text.CodePoint

/-! # UTF-7

Text in ASCII bytes. What is not ASCII stands in shifted runs, which a plus sign opens and a hyphen
may close: two-byte units in base 64, with no more bits left over than they need.
-/
namespace StyleLift.Utf7

/-- The place of a byte in the alphabet of base 64. -/
def digit? (b : UInt8) : Option Nat :=
  let n := b.toNat
  if 0x41 ≤ n && n ≤ 0x5A then some (n - 0x41)
  else if 0x61 ≤ n && n ≤ 0x7A then some (n - 0x61 + 26)
  else if 0x30 ≤ n && n ≤ 0x39 then some (n - 0x30 + 52)
  else if n = 0x2B then some 62
  else if n = 0x2F then some 63
  else none

/-- What a shifted run has not written yet: some bits, and a high surrogate. -/
structure Run where
  bits : Nat
  value : Nat
  high : Option Nat

namespace Run

def start : Run := ⟨0, 0, none⟩

/-- Whether bits are left over that a unit has begun with, or that are not zero. -/
def isCut (r : Run) : Bool := 6 ≤ r.bits || (0 < r.bits && r.value ≠ 0)

/-- Takes a unit of two bytes. -/
def takeUnit (high : Option Nat) (unit : Nat) : Text × Option Nat :=
  let isHigh := 0xD800 ≤ unit && unit < 0xDC00
  let isLow := 0xDC00 ≤ unit && unit < 0xE000
  match high with
  | some first =>
    if isLow then
      ([CodePoint.ofNat (0x10000 + (first - 0xD800) * 0x400 + (unit - 0xDC00))], none)
    else if isHigh then ([CodePoint.ofNat first], some unit)
    else ([CodePoint.ofNat first, CodePoint.ofNat unit], none)
  | none => if isHigh then ([], some unit) else ([CodePoint.ofNat unit], none)

/-- Takes a digit of base 64. -/
def push (r : Run) (digit : Nat) : Text × Run :=
  let bits := r.bits + 6
  let value := r.value * 64 + digit
  if 16 ≤ bits then
    let (text, high) := takeUnit r.high (value >>> (bits - 16))
    (text, ⟨bits - 16, value % (1 <<< (bits - 16)), high⟩)
  else ([], ⟨bits, value, r.high⟩)

end Run

def plus : UInt8 := 0x2B
def hyphen : UInt8 := 0x2D

/-- Decodes bytes, inside a shifted run or outside. -/
def decodeFrom : Option Run → List UInt8 → Text
  | none, [] => []
  | some r, [] => if r.isCut || r.high.isSome then [.replacement] else []
  | none, b :: rest =>
    if b = plus then
      match rest with
      | [] => []
      | c :: after =>
        if c = hyphen then .char '+' :: decodeFrom none after
        else if (digit? c).isSome then decodeFrom (some .start) (c :: after)
        else .replacement :: decodeFrom none after
    else (if b < 128 then CodePoint.ofNat b.toNat else .replacement) :: decodeFrom none rest
  | some r, b :: rest =>
    match digit? b with
    | some digit => (r.push digit).1 ++ decodeFrom (some (r.push digit).2) rest
    | none =>
      if r.isCut then .replacement :: decodeFrom none rest
      else
        (if b < 128 then (r.high.toList.map CodePoint.ofNat) else []) ++
          (if b = hyphen then decodeFrom none rest else decodeFrom none (b :: rest))
termination_by run bytes => (bytes.length, if run.isSome then 1 else 0)

def decode (bytes : List UInt8) : Text := decodeFrom none bytes

end StyleLift.Utf7
