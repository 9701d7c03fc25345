import StyleLift.Json.Room
import StyleLift.Json.Value
import StyleLift.Number.Decimal
import StyleLift.Number.Numeral

/-! # Writing JSON

JSON text on one line or indented. Text in ASCII has code points above it as UTF-16 units.
-/
namespace StyleLift.Json

/-- Spacing of the written text: with an indentation, every item stands on its own line. -/
structure Layout where
  separator : Text
  colon : Text
  indentation : Option Nat
  inAscii : Bool

def compact : Layout := ⟨",", ":", none, true⟩
def spaced : Layout := ⟨", ", ": ", none, true⟩
def indented : Layout := ⟨",", ": ", some 2, true⟩

/-- Compact, with the code points above ASCII as they are. -/
def unescaped : Layout := ⟨",", ":", none, false⟩

def unitEscape (n : Nat) : Text := Text.ofString "\\u" ++ Text.paddedHex 4 n

def escapeCodePoint (inAscii : Bool) (c : CodePoint) : Text :=
  let n := c.val
  if c = .char '"' then Text.ofString "\\\""
  else if c = .char '\\' then Text.ofString "\\\\"
  else if c = .char '\n' then Text.ofString "\\n"
  else if c = .char '\r' then Text.ofString "\\r"
  else if c = .char '\t' then Text.ofString "\\t"
  else if n = 0x0C then Text.ofString "\\f"
  else if n = 0x08 then Text.ofString "\\b"
  else if 0x20 ≤ n ∧ (n < 0x7F ∨ !inAscii) then [c]
  else if n < 0x10000 then unitEscape n
  else unitEscape (0xD800 + (n - 0x10000) / 0x400) ++ unitEscape (0xDC00 + (n - 0x10000) % 0x400)

def renderString (inAscii : Bool) (s : Text) : Text :=
  .char '"' :: s.flatMap (escapeCodePoint inAscii) ++ [.char '"']

def renderReal : Binary64 → Text
  | .nan => "NaN"
  | .infinity negative => if negative then "-Infinity" else "Infinity"
  | x => x.shortest

/-- A line break and the indentation of a depth, or nothing. -/
def Layout.lineBreak (layout : Layout) (depth : Nat) : Text :=
  match layout.indentation with
  | none => []
  | some width => .char '\n' :: List.replicate (width * depth) (.char ' ')

/-- Written items between two brackets. -/
def Layout.enclose (layout : Layout) (depth : Nat) (opening closing : CodePoint)
    (parts : List Text) : Text :=
  if parts.isEmpty then [opening, closing]
  else
    opening :: layout.lineBreak (depth + 1) ++
      Text.joinWith (layout.separator ++ layout.lineBreak (depth + 1)) parts ++
      layout.lineBreak depth ++ [closing]

mutual

def render (layout : Layout) (depth : Nat) : Json → Text
  | .null => "null"
  | .bool b => if b then "true" else "false"
  | .int n => Text.ofInt n
  | .real x => renderReal x
  | .str s => renderString layout.inAscii s
  | .arr items =>
    layout.enclose depth (.char '[') (.char ']') (renderItems layout (depth + 1) items)
  | .obj members =>
    layout.enclose depth (.char '\x7b') (.char '\x7d') (renderMembers layout (depth + 1) members)

def renderItems (layout : Layout) (depth : Nat) : List Json → List Text
  | [] => []
  | v :: rest => render layout depth v :: renderItems layout depth rest

def renderMembers (layout : Layout) (depth : Nat) : Members → List Text
  | [] => []
  | (key, v) :: rest =>
    (renderString layout.inAscii key ++ layout.colon ++ render layout depth v) ::
      renderMembers layout depth rest

end

/-- The text of a value in a layout. -/
def toText (layout : Layout) (v : Json) : Text := render layout 0 v

/-! ## What is not written -/

inductive WriteError
  | tooManyDigits
  | notFinite
  | tooDeep
deriving DecidableEq

def WriteError.message : WriteError → Text
  | .tooManyDigits => Numeral.unwrittenMessage
  | .notFinite => "Out of range float values are not JSON compliant"
  | .tooDeep => tooDeepMessage

/-- Why a number is not written: an integer has too many digits, or JSON has no form for it. -/
def writeError? (finiteOnly : Bool) : Json → Option WriteError
  | .int n =>
    if Numeral.digitLimit < (Text.ofNat n.natAbs).length then some .tooManyDigits else none
  | .real (.finite _ _ _) => none
  | .real _ => if finiteOnly then some .notFinite else none
  | _ => none

/-- The text of a value, if all of its numbers are written. -/
def write (layout : Layout) (finiteOnly : Bool) (v : Json) : Except WriteError Text :=
  match v.numbers.findSome? (writeError? finiteOnly) with
  | some e => .error e
  | none => .ok (v.toText layout)

mutual

/-- Why a value is not written: the first number that is not, or the first array or object that
there is no room for. -/
def refusal? (finiteOnly : Bool) (room : Room) : Json → Option WriteError
  | .arr items =>
    match room.inside? with
    | none => some .tooDeep
    | some room => refusalOfItems? finiteOnly room items
  | .obj members =>
    match room.inside? with
    | none => some .tooDeep
    | some room => refusalOfMembers? finiteOnly room members
  | v => writeError? finiteOnly v

def refusalOfItems? (finiteOnly : Bool) (room : Room) : List Json → Option WriteError
  | [] => none
  | v :: rest => (refusal? finiteOnly room v).or (refusalOfItems? finiteOnly room rest)

def refusalOfMembers? (finiteOnly : Bool) (room : Room) : Members → Option WriteError
  | [] => none
  | (_, v) :: rest => (refusal? finiteOnly room v).or (refusalOfMembers? finiteOnly room rest)

end

/-- The text of a value, as far as there is room for it and all of its numbers are written. -/
def writeWithin (room : Room) (layout : Layout) (finiteOnly : Bool) (v : Json) :
    Except WriteError Text :=
  match refusal? finiteOnly room v with
  | some e => .error e
  | none => .ok (v.toText layout)

end StyleLift.Json
