import StyleLift.Text.Digit

/-! # UTF-8

Encoding text to bytes and decoding bytes to text. Surrogates have no encoding; a decoding that
`allowSurrogates` reads the three bytes that would stand for one. An error names the first offending
stretch: of the longest start of a well-formed sequence, or of a whole run of surrogates.
-/
namespace StyleLift.Text

inductive DecodeReason
  | invalidStart
  | invalidContinuation
  | unexpectedEnd
deriving DecidableEq

/-- Bytes `start` to `start + length - 1` cannot be read. -/
structure DecodeError where
  start : Nat
  length : Nat
  byte : UInt8
  reason : DecodeReason
deriving DecidableEq

/-- Code points `start` to `start + length - 1` have no encoding. -/
structure EncodeError where
  start : Nat
  length : Nat
  first : CodePoint
deriving DecidableEq

def DecodeReason.message : DecodeReason → Text
  | .invalidStart => "invalid start byte"
  | .invalidContinuation => "invalid continuation byte"
  | .unexpectedEnd => "unexpected end of data"

def DecodeError.message (e : DecodeError) : Text :=
  ofString "'utf-8' codec can't decode " ++
    (if e.length = 1 then
      ofString "byte 0x" ++ paddedHex 2 e.byte.toNat ++ ofString " in position " ++ ofNat e.start
    else
      ofString "bytes in position " ++ ofNat e.start ++ ofString "-" ++
        ofNat (e.start + e.length - 1)) ++
    ofString ": " ++ e.reason.message

def EncodeError.message (e : EncodeError) : Text :=
  ofString "'utf-8' codec can't encode " ++
    (if e.length = 1 then
      ofString "character '\\u" ++ paddedHex 4 e.first.val ++ ofString "' in position " ++
        ofNat e.start
    else
      ofString "characters in position " ++ ofNat e.start ++ ofString "-" ++
        ofNat (e.start + e.length - 1)) ++
    ofString ": surrogates not allowed"

/-- The bytes of a number below 0x110000. -/
def utf8Bytes (n : Nat) : List UInt8 :=
  let tail (shift : Nat) : UInt8 := UInt8.ofNat (0x80 + (n >>> shift) % 64)
  if n < 0x80 then [UInt8.ofNat n]
  else if n < 0x800 then [UInt8.ofNat (0xC0 + n / 64), tail 0]
  else if n < 0x10000 then [UInt8.ofNat (0xE0 + n / 4096), tail 6, tail 0]
  else [UInt8.ofNat (0xF0 + n / 262144), tail 12, tail 6, tail 0]

def isSurrogate : CodePoint → Bool
  | .char _ => false
  | .surrogate _ => true

/-- The bytes of a text, the surrogates' included. -/
def utf8 (s : Text) : List UInt8 := s.flatMap fun c => utf8Bytes c.val

def encode (s : Text) : Except EncodeError (List UInt8) :=
  let start := s.takeWhile fun c => !isSurrogate c
  match s.drop start.length with
  | [] => .ok (utf8 s)
  | c :: rest => .error ⟨start.length, 1 + (rest.takeWhile isSurrogate).length, c⟩

/-- The bytes that may follow a lead byte at once, and how many continuation bytes it announces. -/
def leadByte? (allowSurrogates : Bool) (lead : UInt8) : Option (Nat × UInt8 × UInt8) :=
  if 0xC2 ≤ lead && lead ≤ 0xDF then some (1, 0x80, 0xBF)
  else if lead == 0xE0 then some (2, 0xA0, 0xBF)
  else if lead == 0xED then some (2, 0x80, if allowSurrogates then 0xBF else 0x9F)
  else if 0xE1 ≤ lead && lead ≤ 0xEF then some (2, 0x80, 0xBF)
  else if lead == 0xF0 then some (3, 0x90, 0xBF)
  else if lead == 0xF4 then some (3, 0x80, 0x8F)
  else if 0xF1 ≤ lead && lead ≤ 0xF3 then some (3, 0x80, 0xBF)
  else none

/-- Where a byte stands: at the start of a code point, or inside one. -/
inductive DecodeState
  | start
  /-- `need` more bytes, the next between `low` and `high`, after `seen` bytes worth `value`. -/
  | inside (lead : UInt8) (seen need value : Nat) (low high : UInt8)

/-- Reads bytes from position `at` on; `acc` holds the code points so far, the last one first. -/
def decodeFrom (allowSurrogates : Bool) :
    DecodeState → Nat → Text → List UInt8 → Except DecodeError Text
  | .start, _, acc, [] => .ok acc.reverse
  | .inside lead seen _ _ _ _, pos, _, [] => .error ⟨pos - seen, seen, lead, .unexpectedEnd⟩
  | .start, pos, acc, b :: rest =>
    if b < 0x80 then
      decodeFrom allowSurrogates .start (pos + 1) (CodePoint.ofNat b.toNat :: acc) rest
    else
      match leadByte? allowSurrogates b with
      | none => .error ⟨pos, 1, b, .invalidStart⟩
      | some (need, low, high) =>
        decodeFrom allowSurrogates (.inside b 1 need (b.toNat % Nat.pow 2 (6 - need)) low high)
          (pos + 1) acc rest
  | .inside lead seen need value low high, pos, acc, b :: rest =>
    if b < low || high < b then .error ⟨pos - seen, seen, lead, .invalidContinuation⟩
    else
      let value := value * 64 + b.toNat % 64
      if need ≤ 1 then
        decodeFrom allowSurrogates .start (pos + 1) (CodePoint.ofNat value :: acc) rest
      else
        decodeFrom allowSurrogates (.inside lead (seen + 1) (need - 1) value 0x80 0xBF)
          (pos + 1) acc rest

def decode (bytes : List UInt8) : Except DecodeError Text := decodeFrom false .start 0 [] bytes

/-- Decodes at most `count` stretches, each followed by a replacement character. -/
def decodeStretches : Nat → List UInt8 → Text
  | 0, _ => []
  | count + 1, bytes =>
    match decode bytes with
    | .ok s => s
    | .error e =>
      (decode (bytes.take e.start)).toOption.getD [] ++
        CodePoint.replacement :: decodeStretches count (bytes.drop (e.start + e.length))

/-- Decodes with a replacement character for every stretch that cannot be read. -/
def decodeLossy (bytes : List UInt8) : Text := decodeStretches (bytes.length + 1) bytes

end StyleLift.Text
