import StyleLift.Number.Binary64
import StyleLift.Text.Blank
import StyleLift.Text.Digit
import StyleLift.Text.Quoted

/-! # Numerals

Reading integers and real numbers from text. Digits of every script count, single low lines may
stand between digits, blanks may stand around, and an integer has at most `digitLimit` digits.
-/
namespace StyleLift

inductive NumeralError
  | notInteger (source : Text)
  | notReal (source : Text)
  | tooManyDigits (count : Nat)
deriving DecidableEq

namespace Numeral

def digitLimit : Nat := 4300

/-- What is said of an integer that has too many digits to be written. -/
def unwrittenMessage : Text :=
  Text.ofString "Exceeds the limit (" ++ Text.ofNat digitLimit ++
    Text.ofString " digits) for integer string conversion; use " ++
    Text.ofString "sys.set_int_max_str_digits() to increase the limit"

/-- Whether an integer has few enough digits to be written. -/
def isWritten (n : Int) : Bool := (Text.ofNat n.natAbs).length ≤ digitLimit

end Numeral

def NumeralError.message : NumeralError → Text
  | .notInteger source => "invalid literal for int() with base 10: " ++ source.quoted
  | .notReal source => "could not convert string to float: " ++ source.quoted
  | .tooManyDigits count =>
    Text.ofString "Exceeds the limit (" ++ Text.ofNat Numeral.digitLimit ++
      Text.ofString " digits) for integer string conversion: value has " ++ Text.ofNat count ++
      Text.ofString " digits; use sys.set_int_max_str_digits() to increase the limit"

namespace Numeral

/-- Fails when a run of digits is over the limit. -/
def checkDigits (count : Nat) : Except NumeralError Unit :=
  if digitLimit < count then .error (.tooManyDigits count) else .ok ()

/-- Blanks around a numeral: of the ASCII ones, the information separators do not count. -/
def isPadding (c : CodePoint) : Bool :=
  c.isBlank && !(0x1C ≤ c.val && c.val ≤ 0x1F)

def isLowLine (c : CodePoint) : Bool := c == .char '_'

/-- Whether each low line stands between two digits; `afterDigit` says what came before. -/
def lowLinesBetweenDigits (afterDigit : Bool) : Text → Bool
  | [] => true
  | c :: rest =>
    if isLowLine c then
      afterDigit && (match rest with | d :: _ => d.isDigit | [] => false) &&
        lowLinesBetweenDigits false rest
    else lowLinesBetweenDigits c.isDigit rest

/-- The sign in front of a numeral, `true` for minus, and the rest. -/
def takeSign : Text → Bool × Text
  | .char '-' :: rest => (true, rest)
  | .char '+' :: rest => (false, rest)
  | s => (false, s)

/-- A text that is an integer and nothing else, padding apart. -/
def integer (source : Text) : Except NumeralError Int := do
  let (negative, s) := takeSign (source.dropWhile isPadding)
  let run := s.takeWhile fun c => c.isDigit || isLowLine c
  if run.isEmpty || !lowLinesBetweenDigits false run then throw (.notInteger source)
  let digits := run.filter CodePoint.isDigit
  checkDigits digits.length
  if !(s.drop run.length).all isPadding then throw (.notInteger source)
  let n : Int := Text.decimalValue digits
  return if negative then -n else n

/-- Digits, then the rest. -/
def takeDigits (s : Text) : Text × Text :=
  (s.takeWhile CodePoint.isDigit, s.dropWhile CodePoint.isDigit)

/-- The exponent part at the start of `s`, zero if there is none, and the rest. -/
def takeExponent (s : Text) : Int × Text :=
  match s with
  | .char 'e' :: rest | .char 'E' :: rest =>
    let (negative, rest) := takeSign rest
    match takeDigits rest with
    | ([], _) => (0, s)
    | (digits, rest) =>
      let n : Int := Text.decimalValue digits
      (if negative then -n else n, rest)
  | _ => (0, s)

/-- An unsigned decimal at the start of `s`: its digits, the place of the last one, the rest. -/
def takeDecimal (s : Text) : Option (Nat × Int × Text) :=
  let (whole, rest) := takeDigits s
  let (fraction, rest) := match rest with
    | .char '.' :: tail => takeDigits tail
    | _ => ([], rest)
  if whole.isEmpty && fraction.isEmpty then none
  else
    let (exponent, rest) := takeExponent rest
    some (Text.decimalValue (whole ++ fraction), exponent - fraction.length, rest)

/-- A text that is a real number and nothing else, padding apart. -/
def real (source : Text) : Except NumeralError Binary64 := do
  let s := ((source.dropWhile isPadding).reverse.dropWhile isPadding).reverse
  if !lowLinesBetweenDigits false s then throw (.notReal source)
  let (negative, s) := takeSign (s.filter fun c => !isLowLine c)
  match takeDecimal s with
  | some (digits, place, []) => return .ofDecimal negative digits place
  | _ =>
    let word := s.asciiLower
    if word = ("inf" : Text) ∨ word = ("infinity" : Text) then return .infinity negative
    else if word = ("nan" : Text) then return .nan
    else throw (.notReal source)

end Numeral
end StyleLift
