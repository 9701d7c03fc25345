import StyleLift.Text.CodePoint

/-! # Punycode

Text with few code points above ASCII. What is ASCII stands before the last hyphen. The digits after
it are numbers that say which other code points to insert, and where: the code points ascend, and a
number tells how many places to go on, counted round and round through the text. The digits have a
threshold, which ends a number and follows the numbers before.
-/
namespace StyleLift.Punycode

/-- The value of a digit: the letters of either case, then the digits of ASCII. -/
def digit? (b : UInt8) : Option Nat :=
  let n := b.toNat
  if 0x41 ≤ n && n ≤ 0x5A then some (n - 0x41)
  else if 0x61 ≤ n && n ≤ 0x7A then some (n - 0x61)
  else if 0x30 ≤ n && n ≤ 0x39 then some (n - 0x30 + 26)
  else none

def base : Nat := 36

/-- The threshold of the digit at a place. -/
def threshold (place bias : Nat) : Nat := min 26 (max 1 (base * (place + 1) - bias))

/-- What a number has so far: the place and the weight of the next digit, and the value. -/
structure Partial where
  place : Nat
  weight : Nat
  value : Nat

def Partial.start : Partial := ⟨0, 1, 0⟩

/-- Reads a number, up to the first digit below its threshold. -/
def readNumber? (bias : Nat) (p : Partial) : List UInt8 → Option (Nat × List UInt8)
  | [] => none
  | b :: rest =>
    match digit? b with
    | none => none
    | some digit =>
      let t := threshold p.place bias
      let value := p.value + digit * p.weight
      if digit < t then some (value, rest)
      else readNumber? bias ⟨p.place + 1, p.weight * (base - t), value⟩ rest

theorem readNumber?_length {bias : Nat} {p : Partial} {bytes rest : List UInt8} {n : Nat}
    (h : readNumber? bias p bytes = some (n, rest)) : rest.length < bytes.length := by
  induction bytes generalizing p with
  | nil => cases h
  | cons b bytes ih =>
    rw [readNumber?] at h
    split at h
    · cases h
    · dsimp only at h
      split at h
      · cases h
        exact Nat.lt_succ_self _
      · exact Nat.lt_succ_of_lt (ih h)

/-- Brings a number down to what a bias is made of, and counts the steps in it. -/
def scaleDown (n bias : Nat) : Nat × Nat :=
  if 455 < n then scaleDown (n / 35) (bias + base) else (n, bias)
termination_by n

/-- The bias after a number, in a text of some length. -/
def adapt (n length : Nat) (isFirst : Bool) : Nat :=
  let n := if isFirst then n / 700 else n / 2
  let (n, bias) := scaleDown (n + n / length) 0
  bias + base * n / (n + 38)

/-- What the numbers so far come to. -/
structure State where
  text : Text
  /-- The number of the last code point. -/
  last : Nat
  /-- The place after it. -/
  place : Nat
  bias : Nat
  isFirst : Bool
  /-- Whether all could be read. -/
  clean : Bool

def beyond : Nat := 0x110000

/-- Inserts the code point of a number. Where there is none, a question mark stands for it. -/
def State.insert (s : State) (n : Nat) : State :=
  let slots := s.text.length + 1
  let next := s.last + (s.place + n) / slots
  let place := (s.place + n) % slots
  let isKnown := decide (next < beyond)
  let last := if isKnown then next else 0x3F
  { text := s.text.take place ++ CodePoint.ofNat last :: s.text.drop place
    last
    place := place + 1
    bias := adapt n slots s.isFirst
    isFirst := false
    clean := s.clean && isKnown }

/-- Inserts what some digits say, up to the first that is none. -/
def State.insertAll (s : State) (digits : List UInt8) : State :=
  match digits with
  | [] => s
  | b :: rest =>
    match _h : readNumber? s.bias .start (b :: rest) with
    | none => { s with clean := false }
    | some (n, rest) => (s.insert n).insertAll rest
termination_by digits.length
decreasing_by exact readNumber?_length _h

def hyphen : UInt8 := 0x2D

/-- The bytes before the last hyphen and those after it. -/
def split (bytes : List UInt8) : List UInt8 × List UInt8 :=
  let digits := (bytes.reverse.takeWhile (· ≠ hyphen)).reverse
  (bytes.take (bytes.length - digits.length - 1), digits)

def startOf (basic : List UInt8) : State where
  text := basic.map fun b => if b < 128 then CodePoint.ofNat b.toNat else .replacement
  last := 0x80
  place := 0
  bias := 72
  isFirst := true
  clean := basic.all (· < 128)

/-- Reads bytes as far as they can be read, if what stands after the last hyphen is ASCII. -/
def read? (bytes : List UInt8) : Option State :=
  let (basic, digits) := split bytes
  if digits.all (· < 128) then some ((startOf basic).insertAll digits) else none

end StyleLift.Punycode
