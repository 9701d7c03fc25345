import Std.Data.HashMap
import StyleLift.Markup.ReferenceNames
import StyleLift.Number.Numeral

/-! # Character references

Decoding the references in an attribute value. A numeric reference stands for its code point, with
a table for the numbers that stand for another one or for none. A named reference is looked up
whole, and else by its longest start that is a name.
-/
namespace StyleLift.Markup

/-- What the numbers 0x80 to 0x9F stand for. -/
def legacyCodePoints : List Nat := [
  0x20AC, 0x81, 0x201A, 0x192, 0x201E, 0x2026, 0x2020, 0x2021, 0x2C6, 0x2030, 0x160, 0x2039, 0x152,
  0x8D, 0x17D, 0x8F, 0x90, 0x2018, 0x2019, 0x201C, 0x201D, 0x2022, 0x2013, 0x2014, 0x2DC, 0x2122,
  0x161, 0x203A, 0x153, 0x9D, 0x17E, 0x178]

def standsForNothing (n : Nat) : Bool :=
  (0x01 ≤ n && n ≤ 0x08) || n == 0x0B || (0x0E ≤ n && n ≤ 0x1F) || n == 0x7F ||
    (0xFDD0 ≤ n && n ≤ 0xFDEF) || n % 0x10000 == 0xFFFE || n % 0x10000 == 0xFFFF

/-- The text of a numeric reference. -/
def numericReference (n : Nat) : Text :=
  if n = 0 then [.replacement]
  else if 0x80 ≤ n ∧ n ≤ 0x9F then [.ofNat (legacyCodePoints.getD (n - 0x80) n)]
  else if 0xD800 ≤ n ∧ n < 0xE000 ∨ 0x110000 ≤ n then [.replacement]
  else if standsForNothing n then []
  else [.ofNat n]

def hexNumber (digits : String) : Nat := Text.hexValue (Text.ofString digits)

/-- The code points behind a name, from words in pairs. -/
def referencePairs : List String → List (String × Text)
  | name :: codes :: rest =>
    (name, (codes.splitOn "+").map fun code => .ofNat (hexNumber code)) :: referencePairs rest
  | _ => []

def namedReferences : Std.HashMap String Text :=
  .ofList (referencePairs (namedReferenceWords.flatMap (·.splitOn " ")))

/-- The characters of a text, if it holds no surrogate. -/
def characters? : Text → Option (List Char)
  | [] => some []
  | .char c :: rest => (characters? rest).map (c :: ·)
  | .surrogate _ :: _ => none

def namedReference? (name : Text) : Option Text := do
  namedReferences[String.ofList (← characters? name)]?

/-- The text of a reference by its name and whatever was read along with it. -/
def resolveName (name : Text) : Text :=
  match namedReference? name with
  | some t => t
  | none =>
    let cuts := (List.range name.length).reverse.filter (2 ≤ ·)
    match cuts.findSome? fun n => (namedReference? (name.take n)).map (· ++ name.drop n) with
    | some t => t
    | none => .char '&' :: name

/-- Whether a code point can belong to the name of a reference. -/
def isReferencePart (c : CodePoint) : Bool :=
  !(c == .char '\t' || c == .char '\n' || c == .char '\x0c' || c == .char ' ' || c == .char '<' ||
    c == .char '&' || c == .char '#' || c == .char ';')

/-- The reference after an ampersand: its text, and how much of the source it takes. -/
def takeReference (s : Text) : Except NumeralError (Option (Text × Nat)) :=
  let numeric (marks : Nat) (digits : Text) (n : Nat) : Option (Text × Nat) :=
    let semicolon := if Text.startsWith (s.drop (marks + digits.length)) ";" then 1 else 0
    some (numericReference n, marks + digits.length + semicolon)
  match s with
  | .char '#' :: rest =>
    let digits := rest.takeWhile CodePoint.isAsciiDigit
    let hex := (rest.drop 1).takeWhile CodePoint.isHexDigit
    if !digits.isEmpty then
      (Numeral.checkDigits digits.length).map fun () => numeric 1 digits (Text.decimalValue digits)
    else if (Text.startsWith rest "x" || Text.startsWith rest "X") && !hex.isEmpty then
      .ok (numeric 2 hex (Text.hexValue hex))
    else .ok none
  | _ =>
    let run := (s.take 32).takeWhile isReferencePart
    if run.isEmpty then .ok none
    else
      let name := if Text.startsWith (s.drop run.length) ";" then run ++ [.char ';'] else run
      .ok (some (resolveName name, name.length))

/-- Decodes references; `skip` counts code points that a reference already took. -/
def decodeFrom : Nat → Text → Except NumeralError Text
  | _, [] => .ok []
  | skip + 1, _ :: rest => decodeFrom skip rest
  | 0, c :: rest =>
    if c = .char '&' then do
      match ← takeReference rest with
      | some (text, taken) => return text ++ (← decodeFrom taken rest)
      | none => return c :: (← decodeFrom 0 rest)
    else (decodeFrom 0 rest).map (c :: ·)

def decodeReferences (s : Text) : Except NumeralError Text := decodeFrom 0 s

end StyleLift.Markup
