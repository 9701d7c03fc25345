import StyleLift.Number.Binary64
import StyleLift.Text.CodePoint

/-! # Decimal text of binary64 numbers

Two forms: the shortest digits that read back as the number, and six significant digits. Both are
positional in a middle range of exponents and use an exponent of at least two digits outside it.
-/
namespace StyleLift.Binary64

/-- The exponent of the leading decimal digit of a positive quotient. -/
def decimalExponent (num den : Nat) : Int :=
  let guess : Int := (Nat.toDigits 10 num).length - (Nat.toDigits 10 den).length
  let (n, d) := scaled 10 (-guess) num den
  if d ≤ n then guess else guess - 1

/-- A rounding interval and its centre, as numerators over `den`. -/
structure Neighbourhood where
  lower : Nat
  centre : Nat
  upper : Nat
  den : Nat
  closed : Bool

/-- The quotients that round to `mantissa * 2 ^ exponent`. -/
def neighbourhood (mantissa : Nat) (exponent : Int) : Neighbourhood :=
  let below := if mantissa = mantissaBound / 2 ∧ minExponent < exponent then 1 else 2
  let (unit, den) := scaled 2 (exponent - 2) 1 1
  ⟨(4 * mantissa - below) * unit, 4 * mantissa * unit, (4 * mantissa + 2) * unit, den,
    mantissa % 2 == 0⟩

/-- Whether `digits * 10 ^ place` lies in the neighbourhood. -/
def Neighbourhood.holds (b : Neighbourhood) (digits : Nat) (place : Int) : Bool :=
  let (num, den) := scaled 10 place (digits * b.den) 1
  if b.closed then b.lower * den ≤ num && num ≤ b.upper * den
  else b.lower * den < num && num < b.upper * den

/-- The nearest number of `count` digits in the neighbourhood, if there is one. -/
def Neighbourhood.nearest? (b : Neighbourhood) (leading : Int) (count : Nat) :
    Option (Nat × Int) :=
  let place := leading - count + 1
  let (num, den) := scaled 10 (-place) b.centre b.den
  let near := roundQuotient num den
  let far := if near * den ≤ num then near + 1 else near - 1
  if b.holds near place then some (near, place)
  else if b.holds far place then some (far, place)
  else none

/-- The fewest digits that read back as a positive number, and the place of the last one. -/
def shortestDigits (mantissa : Nat) (exponent : Int) : Nat × Int :=
  let b := neighbourhood mantissa exponent
  let leading := decimalExponent b.centre b.den
  ((List.range 17).findSome? fun count => b.nearest? leading (count + 1)).getD (mantissa, exponent)

/-- A positive quotient to six significant digits, and the place of the last one. -/
def sixDigits (mantissa : Nat) (exponent : Int) : Nat × Int :=
  let (num, den) := scaled 2 exponent mantissa 1
  let place := decimalExponent num den - 5
  let (num, den) := scaled 10 (-place) num den
  (roundQuotient num den, place)

def dropTrailingZeros (digits : List Char) : List Char :=
  (digits.reverse.dropWhile (· == '0')).reverse

structure DecimalForm where
  /-- From this exponent of the leading digit on, an exponent is written. -/
  exponentFrom : Int
  /-- Whether a whole number in positional form ends in a point and a zero. -/
  keepsPoint : Bool

def exponentText (e : Int) : List Char :=
  let digits := Nat.toDigits 10 e.natAbs
  (if e < 0 then '-' else '+') :: (if digits.length < 2 then '0' :: digits else digits)

/-- The digits of a positive decimal number in a given form. -/
def DecimalForm.layout (form : DecimalForm) (number : Nat × Int) : List Char :=
  let all := Nat.toDigits 10 number.1
  let leading : Int := number.2 + all.length - 1
  let digits := dropTrailingZeros all
  if leading < -4 ∨ form.exponentFrom ≤ leading then
    let tail := digits.drop 1
    digits.take 1 ++ (if tail.isEmpty then [] else '.' :: tail) ++ 'e' :: exponentText leading
  else if leading < 0 then
    '0' :: '.' :: List.replicate (leading.natAbs - 1) '0' ++ digits
  else
    let whole := leading.toNat + 1
    let integral := digits.take whole ++ List.replicate (whole - digits.length) '0'
    let fraction := digits.drop whole
    integral ++
      (if fraction.isEmpty then (if form.keepsPoint then ['.', '0'] else []) else '.' :: fraction)

def render (form : DecimalForm) (digitsOf : Nat → Int → Nat × Int) : Binary64 → Text
  | .nan => "nan"
  | .infinity negative => if negative then "-inf" else "inf"
  | .finite negative m e =>
    let body := if m = 0 then (if form.keepsPoint then ['0', '.', '0'] else ['0'])
      else form.layout (digitsOf m e)
    ((if negative then '-' :: body else body).map .char : Text)

/-- The shortest text that reads back; an exponent is written from `1e16` on. -/
def shortest (x : Binary64) : Text := render ⟨16, true⟩ shortestDigits x

/-- Six significant digits; an exponent is written from `1e6` on. -/
def compact (x : Binary64) : Text := render ⟨6, false⟩ sixDigits x

end StyleLift.Binary64
