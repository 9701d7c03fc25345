/-! # Binary64 numbers

Floating-point numbers of 53 significant bits as exact values, and the nearest one to a quotient of
naturals, where a tie goes to the even significand.
-/
namespace StyleLift

/-- A finite number is `mantissa * 2 ^ exponent`, with its sign kept apart so that zero has two. -/
inductive Binary64
  | nan
  | infinity (negative : Bool)
  | finite (negative : Bool) (mantissa : Nat) (exponent : Int)
deriving DecidableEq, Inhabited

namespace Binary64

def minExponent : Int := -1074
def maxExponent : Int := 971

/-- Mantissas are below this number; outside the lowest exponent they are at least half of it. -/
def mantissaBound : Nat := Nat.pow 2 53

/-- `x * base ^ e` as a numerator and a denominator, on top of those given. -/
def scaled (base : Nat) (e : Int) (num den : Nat) : Nat × Nat :=
  if 0 ≤ e then (num * base.pow e.toNat, den) else (num, den * base.pow (-e).toNat)

/-- The nearest natural to a quotient; a tie goes to the even one. -/
def roundQuotient (num den : Nat) : Nat :=
  let q := num / den
  let twice := 2 * (num % den)
  if twice < den then q else if den < twice then q + 1 else q + q % 2

/-- The nearest number to `num / den`. -/
def ofQuotient (negative : Bool) (num den : Nat) : Binary64 :=
  if num = 0 ∨ den = 0 then .finite negative 0 minExponent
  else
    let low : Int := (num.log2 : Int) - den.log2 - 53
    let (n, d) := scaled 2 (-low) num den
    let exponent := max (if mantissaBound * d ≤ n then low + 1 else low) minExponent
    let (n, d) := scaled 2 (-exponent) num den
    let mantissa := roundQuotient n d
    let (mantissa, exponent) :=
      if mantissa = mantissaBound then (mantissaBound / 2, exponent + 1) else (mantissa, exponent)
    if maxExponent < exponent then .infinity negative else .finite negative mantissa exponent

/-- The nearest number to `digits * 10 ^ exponent`. Powers far out of range are cut off first. -/
def ofDecimal (negative : Bool) (digits : Nat) (exponent : Int) : Binary64 :=
  let magnitude := exponent + (Nat.toDigits 10 digits).length
  if digits = 0 ∨ magnitude < -400 then .finite negative 0 minExponent
  else if 400 < magnitude then .infinity negative
  else
    let (num, den) := scaled 10 exponent digits 1
    ofQuotient negative num den

def ofInt (n : Int) : Binary64 := ofQuotient (n < 0) n.natAbs 1

def isZero : Binary64 → Bool
  | .finite _ m _ => m == 0
  | _ => false

/-- Equality of values: a number that is not a number differs from itself, and zeros agree. -/
def sameValue : Binary64 → Binary64 → Bool
  | .nan, _ | _, .nan => false
  | .infinity a, .infinity b => a == b
  | .finite a m e, .finite b n f => (m == 0 && n == 0) || (a == b && m == n && e == f)
  | _, _ => false

/-- Whether the value is exactly the integer `n`. -/
def isInt (x : Binary64) (n : Int) : Bool :=
  match x with
  | .finite negative m e =>
    let (num, den) := scaled 2 e m 1
    num == n.natAbs * den && (n == 0 || negative == (n < 0))
  | _ => false

end Binary64
end StyleLift
