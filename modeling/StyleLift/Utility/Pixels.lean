import StyleLift.Number.Numeral

/-! # Pixel lengths

A pixel length is a whole number with its unit in any letter case, and blanks around both. Its
digits may be of any script and are limited in number.
-/
namespace StyleLift

/-- The unit and blanks, and nothing else. -/
def isPixelUnit (s : Text) : Bool := (Text.trimEnd s).asciiLower == Text.ofString "px"

/-- The number of pixels of a length; `none` for anything that is no whole number of pixels. -/
def pixels? (value : Text) : Except NumeralError (Option Int) :=
  let (negative, unsigned) := match value.trimStart with
    | .char '-' :: rest => (true, rest)
    | rest => (false, rest)
  let digits := unsigned.takeWhile CodePoint.isDigit
  if digits.isEmpty || !isPixelUnit (unsigned.drop digits.length) then .ok none
  else
    let n : Int := Text.decimalValue digits
    (Numeral.checkDigits digits.length).map fun () => some (if negative then -n else n)

end StyleLift
