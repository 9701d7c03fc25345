import StyleLift.Json.Room
import StyleLift.Json.Value
import StyleLift.Number.Numeral
import StyleLift.Text.Utf8

/-! # Reading JSON

A strict reader that also knows the words for the three numbers that are not finite. Of repeated
members the last counts, at the place of the first. What is nested too deeply for the room that
there is cannot be read, whether it is JSON or not.
-/
namespace StyleLift.Json

inductive ReadError
  | malformed
  | numeral (e : NumeralError)
  | tooDeep
deriving DecidableEq

/-- To say where a text goes wrong takes three levels. -/
def malformedAt (room : Room) : ReadError := if room.has 3 then .malformed else .tooDeep

abbrev Reading (α : Type) := Except ReadError (α × Text)

def isSpace (c : CodePoint) : Bool :=
  c == .char ' ' || c == .char '\t' || c == .char '\n' || c == .char '\r'

def skipSpace (s : Text) : Text := s.dropWhile isSpace

/-- A piece of a string: a code point that stands for itself, or an escaped UTF-16 unit. -/
inductive Piece
  | plain (c : CodePoint)
  | unit (n : Nat)

/-- Escaped surrogate pairs become one code point. -/
def joinUnits : List Piece → Text
  | [] => []
  | .plain c :: rest => c :: joinUnits rest
  | .unit high :: .unit low :: rest =>
    if 0xD800 ≤ high ∧ high < 0xDC00 ∧ 0xDC00 ≤ low ∧ low < 0xE000 then
      CodePoint.ofNat (0x10000 + (high - 0xD800) * 0x400 + (low - 0xDC00)) :: joinUnits rest
    else CodePoint.ofNat high :: joinUnits (.unit low :: rest)
  | .unit n :: rest => CodePoint.ofNat n :: joinUnits rest

/-- The character of a one-letter escape. -/
def shortEscape? (c : CodePoint) : Option CodePoint :=
  if c = .char '"' ∨ c = .char '\\' ∨ c = .char '/' then some c
  else if c = .char 'b' then some (.char '\x08')
  else if c = .char 'f' then some (.char '\x0c')
  else if c = .char 'n' then some (.char '\n')
  else if c = .char 'r' then some (.char '\r')
  else if c = .char 't' then some (.char '\t')
  else none

/-- The pieces of a string up to its closing quote, and the rest. -/
def stringPieces : Text → Option (List Piece × Text)
  | [] => none
  | .char '"' :: rest => some ([], rest)
  | .char '\\' :: .char 'u' :: a :: b :: c :: d :: rest =>
    if [a, b, c, d].all CodePoint.isHexDigit then
      (stringPieces rest).map fun (pieces, rest) =>
        (.unit (Text.hexValue [a, b, c, d]) :: pieces, rest)
    else none
  | .char '\\' :: c :: rest => do
    let c ← shortEscape? c
    let (pieces, rest) ← stringPieces rest
    return (.plain c :: pieces, rest)
  | c :: rest =>
    if c.val < 0x20 ∨ c = .char '\\' then none
    else (stringPieces rest).map fun (pieces, rest) => (.plain c :: pieces, rest)

/-- A string whose opening quote has been read. -/
def readString (room : Room) (s : Text) : Reading Text :=
  match stringPieces s with
  | some (pieces, rest) => .ok (joinUnits pieces, rest)
  | none => .error (malformedAt room)

def takeAsciiDigits (s : Text) : Text × Text :=
  (s.takeWhile CodePoint.isAsciiDigit, s.dropWhile CodePoint.isAsciiDigit)

/-- A point and digits at the start of `s`. -/
def takeFraction? : Text → Option (Text × Text)
  | .char '.' :: rest =>
    match takeAsciiDigits rest with
    | ([], _) => none
    | found => some found
  | _ => none

/-- An exponent at the start of `s`. -/
def takeExponent? : Text → Option (Int × Text)
  | .char 'e' :: rest | .char 'E' :: rest =>
    let (negative, rest) := Numeral.takeSign rest
    match takeAsciiDigits rest with
    | ([], _) => none
    | (digits, rest) =>
      let n : Int := Text.decimalValue digits
      some (if negative then -n else n, rest)
  | _ => none

/-- The digits before a point at the start of `s`. A zero stands alone. -/
def takeWhole : Text → Text × Text
  | .char '0' :: rest => ([.char '0'], rest)
  | s => takeAsciiDigits s

/-- A number whose sign has been read. -/
def readNumber (negative : Bool) (s : Text) : Reading Json :=
  let (whole, rest) := takeWhole s
  if whole.isEmpty then .error .malformed
  else
    match takeFraction? rest with
    | some (fraction, rest) =>
      let (exponent, rest) := (takeExponent? rest).getD (0, rest)
      let digits := Text.decimalValue (whole ++ fraction)
      .ok (.real (.ofDecimal negative digits (exponent - fraction.length)), rest)
    | none =>
      match takeExponent? rest with
      | some (exponent, rest) =>
        .ok (.real (.ofDecimal negative (Text.decimalValue whole) exponent), rest)
      | none =>
        match Numeral.checkDigits whole.length with
        | .error e => .error (.numeral e)
        | .ok () =>
          let n : Int := Text.decimalValue whole
          .ok (.int (if negative then -n else n), rest)

/-- The values that are written as words. -/
def literals : List (Text × Json) :=
  [("null", .null), ("true", .bool true), ("false", .bool false), ("NaN", .real .nan),
    ("Infinity", .real (.infinity false)), ("-Infinity", .real (.infinity true))]

/-- A value that is no string, array or object. -/
def readScalar (room : Room) (s : Text) : Reading Json :=
  match literals.findSome? fun (word, v) => (Text.dropPrefix? word s).map (v, ·) with
  | some (v, rest) => if room.has v.depth then .ok (v, rest) else .error .tooDeep
  | none =>
    match s with
    | .char '-' :: rest => readNumber true rest
    | _ => readNumber false s

/-- A member's key, up to the value after the colon. -/
def readKey (room : Room) : Text → Reading Text
  | .char '"' :: s =>
    match readString room s with
    | .error e => .error e
    | .ok (key, rest) =>
      match skipSpace rest with
      | .char ':' :: rest => .ok (key, skipSpace rest)
      | _ => .error (malformedAt room)
  | _ => .error (malformedAt room)

mutual

/-- A value at the start of a text; `fuel` bounds the number of values. -/
def readValue : Nat → Room → Text → Reading Json
  | 0, _, _ => .error .malformed
  | _ + 1, room, .char '"' :: rest => (readString room rest).map fun (s, rest) => (.str s, rest)
  | fuel + 1, room, .char '[' :: rest =>
    match room.inside? with
    | none => .error .tooDeep
    | some room =>
      match skipSpace rest with
      | .char ']' :: rest => .ok (.arr [], rest)
      | rest => (readItems fuel room rest).map fun (items, rest) => (.arr items, rest)
  | fuel + 1, room, .char '\x7b' :: rest =>
    match room.inside? with
    | none => .error .tooDeep
    | some room =>
      match skipSpace rest with
      | .char '\x7d' :: rest => .ok (.obj [], rest)
      | rest => (readMembers fuel room [] rest).map fun (members, rest) => (.obj members, rest)
  | _ + 1, room, s => readScalar room s

/-- Items up to the closing bracket. -/
def readItems : Nat → Room → Text → Reading (List Json)
  | 0, _, _ => .error .malformed
  | fuel + 1, room, s =>
    match readValue fuel room s with
    | .error e => .error e
    | .ok (v, rest) =>
      match skipSpace rest with
      | .char ']' :: rest => .ok ([v], rest)
      | .char ',' :: rest =>
        (readItems fuel room (skipSpace rest)).map fun (items, rest) => (v :: items, rest)
      | _ => .error (malformedAt room)

/-- Members up to the closing brace, set on top of those read before. -/
def readMembers : Nat → Room → Members → Text → Reading Members
  | 0, _, _, _ => .error .malformed
  | fuel + 1, room, before, s =>
    match readKey room s with
    | .error e => .error e
    | .ok (key, rest) =>
      match readValue fuel room rest with
      | .error e => .error e
      | .ok (v, rest) =>
        match skipSpace rest with
        | .char '\x7d' :: rest => .ok (setMember key v before, rest)
        | .char ',' :: rest => readMembers fuel room (setMember key v before) (skipSpace rest)
        | _ => .error (malformedAt room)

end

/-- A text that is one value, spaces around it apart, as far as there is room for it. -/
def readWithin (room : Room) (s : Text) : Except ReadError Json :=
  match readValue (2 * s.length + 1) room (skipSpace s) with
  | .error e => .error e
  | .ok (v, rest) => if (skipSpace rest).isEmpty then .ok v else .error .malformed

/-- A text that is one value, nested as it may be. -/
def ofText (s : Text) : Except ReadError Json := readWithin .endless s

end StyleLift.Json
