import StyleLift.Json.Reader

/-! # JSON in bytes

The encoding of JSON bytes is told by their byte order mark, or else by where the first bytes are
zero. A lone surrogate is let through in every encoding.
-/
namespace StyleLift.Json

inductive Encoding
  | utf8
  | utf16 (bigEndian : Bool)
  | utf32 (bigEndian : Bool)
deriving DecidableEq

/-- The encoding of some bytes and how many bytes its mark takes. -/
def detectEncoding : List UInt8 → Encoding × Nat
  | 0x00 :: 0x00 :: 0xFE :: 0xFF :: _ => (.utf32 true, 4)
  | 0xFF :: 0xFE :: 0x00 :: 0x00 :: _ => (.utf32 false, 4)
  | 0xFE :: 0xFF :: _ => (.utf16 true, 2)
  | 0xFF :: 0xFE :: _ => (.utf16 false, 2)
  | 0xEF :: 0xBB :: 0xBF :: _ => (.utf8, 3)
  | [a, b] => if a = 0 then (.utf16 true, 0) else if b = 0 then (.utf16 false, 0) else (.utf8, 0)
  | a :: b :: c :: d :: _ =>
    if a = 0 then (if b = 0 then .utf32 true else .utf16 true, 0)
    else if b = 0 then (if c = 0 ∧ d = 0 then .utf32 false else .utf16 false, 0)
    else (.utf8, 0)
  | _ => (.utf8, 0)

/-- The number written by some bytes. -/
def ofBytesOrder (bigEndian : Bool) (bytes : List UInt8) : Nat :=
  (if bigEndian then bytes else bytes.reverse).foldl (fun n b => n * 256 + b.toNat) 0

def utf16Units? (bigEndian : Bool) : List UInt8 → Option (List Nat)
  | [] => some []
  | a :: b :: rest => (utf16Units? bigEndian rest).map (ofBytesOrder bigEndian [a, b] :: ·)
  | _ => none

def utf32Text? (bigEndian : Bool) : List UInt8 → Option Text
  | [] => some []
  | a :: b :: c :: d :: rest => do
    let first ← CodePoint.ofNat? (ofBytesOrder bigEndian [a, b, c, d])
    return first :: (← utf32Text? bigEndian rest)
  | _ => none

def decodeBytes? (bytes : List UInt8) : Option Text :=
  let (encoding, mark) := detectEncoding bytes
  let bytes := bytes.drop mark
  match encoding with
  | .utf8 => (Text.decodeFrom true .start 0 [] bytes).toOption
  | .utf16 bigEndian => (utf16Units? bigEndian bytes).map fun units => joinUnits (units.map .unit)
  | .utf32 bigEndian => utf32Text? bigEndian bytes

/-- Bytes that are one value, if they can be read. -/
def ofBytes? (bytes : List UInt8) : Option Json := do
  (ofText (← decodeBytes? bytes)).toOption

/-- Bytes that are one value, as far as there is room for it. -/
def loadWithin (room : Room) (bytes : List UInt8) : Except ReadError Json :=
  match decodeBytes? bytes with
  | none => .error .malformed
  | some s => readWithin room s

/-- The value of some bytes, where an empty object stands for what cannot be read. What is nested
too deeply has none. -/
def loadOrEmpty? (room : Room) (bytes : List UInt8) : Option Json :=
  match loadWithin room bytes with
  | .ok v => some v
  | .error .tooDeep => none
  | .error _ => some (.obj [])

end StyleLift.Json
