import StyleLift.Text.Utf8

/-! # Percent encoding

How the target of a request writes what it cannot hold: every byte of the UTF-8 form as a percent
sign and two hexadecimal digits. A percent sign stays as it is, so that text which is encoded
already is not encoded twice.
-/
namespace StyleLift.Text

def percentSign : CodePoint := .char '%'

/-- The bytes of a text; only a percent sign before two hexadecimal digits is a code. -/
def percentBytes : Text → List UInt8
  | .char '%' :: a :: b :: rest =>
    if a.isHexDigit && b.isHexDigit then UInt8.ofNat (hexValue [a, b]) :: percentBytes rest
    else utf8 [percentSign] ++ percentBytes (a :: b :: rest)
  | c :: rest => utf8 [c] ++ percentBytes rest
  | [] => []

def percentDecode (s : Text) : Text := decodeLossy (percentBytes s)

def percentCode (b : UInt8) : Text :=
  percentSign :: (List.replicate (if b < 16 then 1 else 0) (.char '0') ++ upperHexDigits b.toNat)

/-- Writes the code points that are not `plain` as codes. -/
def percentEncode (plain : CodePoint → Bool) (s : Text) : Text :=
  s.flatMap fun c => if plain c then [c] else (utf8 [c]).flatMap percentCode

end StyleLift.Text
