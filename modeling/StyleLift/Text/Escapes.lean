import StyleLift.Text.CodePoint

/-! # Text with escapes

Bytes that stand for the code points with their numbers, apart from escapes, which a backslash
opens. There are two forms. The raw one has no escapes but those with a fixed number of hexadecimal
digits, and in the other a code point may also be given by the name of its character.
-/
namespace StyleLift

/-- The characters that have names, by these. -/
def CharacterNames : Type := Text → Option CodePoint

namespace Escapes

def backslash : UInt8 := 0x5C

def plain (b : UInt8) : CodePoint := CodePoint.ofNat b.toNat

/-- What an escape of one letter stands for. -/
def simple? (b : UInt8) : Option Text :=
  [('\n', []), ('\\', [plain 0x5C]), ('\'', [plain 0x27]), ('"', [plain 0x22]), ('b', [plain 0x08]),
    ('f', [plain 0x0C]), ('t', [plain 0x09]), ('n', [plain 0x0A]), ('r', [plain 0x0D]),
    ('v', [plain 0x0B]), ('a', [plain 0x07])].lookup (Char.ofNat b.toNat)

def isOctal (b : UInt8) : Bool := 0x30 ≤ b && b ≤ 0x37

def octalValue (digits : List UInt8) : Nat :=
  digits.foldl (fun n b => n * 8 + (b.toNat - 0x30)) 0

/-- How many hexadecimal digits a letter asks for. -/
def digitCount? (raw : Bool) (b : UInt8) : Option Nat :=
  if b = 0x75 then some 4
  else if b = 0x55 then some 8
  else if !raw && b = 0x78 then some 2
  else none

/-- The code point of the digits that bytes start with, and how many there are. -/
def readHex (count : Nat) (bytes : List UInt8) : CodePoint × Nat :=
  let digits := ((bytes.take count).map plain).takeWhile CodePoint.isHexDigit
  (if digits.length = count then CodePoint.ofNat (Text.hexValue digits) else .replacement,
    digits.length)

/-- The code point of the name that bytes start with, and the length of the name in braces. -/
def readName (named : CharacterNames) : List UInt8 → CodePoint × Nat
  | 0x7B :: rest =>
    let name := rest.takeWhile (· ≠ 0x7D)
    if name.length = rest.length then (.replacement, name.length + 1)
    else if name.isEmpty then (.replacement, 1)
    else ((named (name.map plain)).getD .replacement, name.length + 2)
  | _ => (.replacement, 0)

/-- What an escape stands for, by the bytes after its backslash, and how many of them belong to
it. -/
def read (named : CharacterNames) : List UInt8 → Text × Nat
  | [] => ([.replacement], 0)
  | b :: rest =>
    match simple? b, digitCount? false b with
    | some s, _ => (s, 1)
    | none, some count =>
      let (c, length) := readHex count rest
      ([c], length + 1)
    | none, none =>
      if isOctal b then
        let digits := b :: (rest.take 2).takeWhile isOctal
        ([CodePoint.ofNat (octalValue digits)], digits.length)
      else if b = 0x4E then
        let (c, length) := readName named rest
        ([c], length + 1)
      else ([plain backslash, plain b], 1)

/-- What an escape of the raw form stands for. -/
def readRaw : List UInt8 → Text × Nat
  | [] => ([plain backslash], 0)
  | b :: rest =>
    match digitCount? true b with
    | some count =>
      let (c, length) := readHex count rest
      ([c], length + 1)
    | none => ([plain backslash, plain b], 1)

def decodeWith (read : List UInt8 → Text × Nat) : List UInt8 → Text
  | [] => []
  | b :: rest =>
    if b = backslash then
      let (s, length) := read rest
      s ++ decodeWith read (rest.drop length)
    else plain b :: decodeWith read rest
termination_by bytes => bytes.length

def decode (named : CharacterNames) (bytes : List UInt8) : Text := decodeWith (read named) bytes
def decodeRaw (bytes : List UInt8) : Text := decodeWith readRaw bytes

/-- The bytes of a text in the raw form. -/
def encodeRaw (s : Text) : List UInt8 :=
  s.flatMap fun c =>
    if c.val < 0x100 then [UInt8.ofNat c.val]
    else
      let (letter, width) := if c.val < 0x10000 then ('u', 4) else ('U', 8)
      (Text.ofString "\\" ++ .char letter :: Text.paddedHex width c.val).map fun c =>
        UInt8.ofNat c.val

end Escapes
end StyleLift
