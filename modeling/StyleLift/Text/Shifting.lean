import StyleLift.Text.CodePage
import StyleLift.Text.DoubleByte

/-! # Encodings that shift

In some encodings the same bytes stand for other characters after a shift: a sequence of bytes that
writes nothing but says which character set comes next. HZ has two shifts, and ISO 2022 designates
character sets to places and takes its characters from there.
-/
namespace StyleLift

/-- Why bytes with shifts come to no text. -/
inductive ShiftError
  /-- The end cuts off more bytes than are kept. -/
  | longCut
  /-- A single character is asked for from a set that gives none. -/
  | noSingle
  /-- The bytes stand for nothing, where no replacement is taken. -/
  | illegal
deriving DecidableEq

/-- What a decoder makes of the next bytes. -/
inductive ShiftStep (State : Type)
  | text (s : Text) (length : Nat) (next : State)
  | wrong (length : Nat)
  | cut
  | failed

namespace ShiftStep
variable {State : Type}

/-- How many bytes of a code that is cut off are kept. -/
def longestCut : Nat := 8

/-- Decodes bytes, with replacement characters or strictly. -/
def decode (strict : Bool) (step : State → List UInt8 → ShiftStep State) (state : State) :
    List UInt8 → Except ShiftError Text
  | [] => .ok []
  | b :: rest =>
    match step state (b :: rest) with
    | .text s length next => (decode strict step next (rest.drop (length - 1))).map (s ++ ·)
    | .wrong length =>
      if strict then .error .illegal
      else (decode strict step state (rest.drop (length - 1))).map (CodePoint.replacement :: ·)
    | .cut =>
      if strict then .error .illegal
      else if longestCut < (b :: rest).length then .error .longCut
      else .ok [CodePoint.replacement]
    | .failed => .error .noSingle
termination_by bytes => bytes.length

end ShiftStep

/-- Finds a pair of bytes from 33 to 126 in a grid. -/
def Grid.lowerCell? (g : Grid) (a b : Nat) : Option CodePoint :=
  if DoubleByte.within 0x21 0x7E a && DoubleByte.within 0x21 0x7E b then
    g.cell? (a - 0x21) (b - 0x21)
  else none

/-! ## HZ -/

namespace Hz

def tilde : UInt8 := 0x7E

/-- In wide mode two bytes make a character of GB 2312. -/
def step (wide : Bool) : List UInt8 → ShiftStep Bool
  | [] => .cut
  | a :: rest =>
    if a = tilde then
      match wide, rest with
      | _, [] => .cut
      | false, 0x7E :: _ => .text "~" 2 false
      | false, 0x7B :: _ => .text [] 2 true
      | false, 0x0A :: _ => .text [] 2 false
      | true, 0x7D :: _ => .text [] 2 false
      | _, _ => .wrong 1
    else if 128 ≤ a then .wrong 1
    else if !wide then .text [CodePoint.ofNat a.toNat] 1 false
    else
      match rest with
      | [] => .cut
      | b :: _ =>
        match Grid.gb2312.lowerCell? a.toNat b.toNat with
        | some c => .text [c] 2 true
        | none => .wrong 1

def decode (strict : Bool) (bytes : List UInt8) : Except ShiftError Text :=
  ShiftStep.decode strict step false bytes

end Hz

/-! ## ISO 2022 -/

/-- The forms of ISO 2022, by the sets that they designate. -/
inductive Iso2022
  | japanese
  | japanese1
  | japanese2
  | japanese3
  | japanese2004
  | japaneseExtended
  | korean
deriving DecidableEq

namespace Iso2022

/-- How a set is named: by a final byte, apart for sets of one byte and of two. -/
structure Mark where
  wide : Bool
  final : UInt8
deriving DecidableEq

def narrowMark (c : Char) : Mark := ⟨false, UInt8.ofNat c.toNat⟩
def wideMark (c : Char) : Mark := ⟨true, UInt8.ofNat c.toNat⟩

def asciiMark : Mark := narrowMark 'B'
def latinMark : Mark := narrowMark 'A'
def greekMark : Mark := narrowMark 'F'

inductive CodedSet
  | narrow (find? : UInt8 → Option CodePoint)
  | wide (find? : Nat → Nat → Option Text)

namespace CodedSet

def ofGrid (g : Grid) : CodedSet := .wide fun a b => (g.lowerCell? a b).map fun c => [c]

def roman : CodedSet := .narrow fun b => some (DoubleByte.romanCharacter b)

def katakana : CodedSet := .narrow fun b =>
  if DoubleByte.isKatakanaByte (b + 0x80) then some (DoubleByte.katakana (b + 0x80)) else none

/-- A set whose characters are only for single shifts. -/
def shiftedOnly : CodedSet := .narrow fun _ => none

def firstPlane (revised : Bool) : CodedSet := .wide fun a b =>
  if DoubleByte.within 0x21 0x7E a && DoubleByte.within 0x21 0x7E b &&
      (revised || !DoubleByte.revisedCells.contains (a - 0x21, b - 0x21)) then
    DoubleByte.firstPlane? (a - 0x21) (b - 0x21)
  else none

/-- The second plane is that of the revision in all forms. -/
def secondPlane : CodedSet := .wide fun a b =>
  if DoubleByte.within 0x21 0x7E a && DoubleByte.within 0x21 0x7E b then
    (DoubleByte.secondPlane? true (a - 0x21) (b - 0x21)).map fun c => [c]
  else none

end CodedSet

open CodedSet in
/-- The sets that a form designates beside ASCII. -/
def sets : Iso2022 → List (Mark × CodedSet)
  | .japanese =>
    [(wideMark 'B', ofGrid Grid.jis208), (narrowMark 'J', roman),
      (wideMark '@', ofGrid Grid.jis208)]
  | .japanese1 =>
    [(wideMark 'B', ofGrid Grid.jis208), (wideMark 'D', ofGrid Grid.jis212),
      (narrowMark 'J', roman), (wideMark '@', ofGrid Grid.jis208)]
  | .japanese2 =>
    [(wideMark 'B', ofGrid Grid.jis208), (wideMark 'D', ofGrid Grid.jis212),
      (wideMark 'C', ofGrid Grid.ksx1001), (wideMark 'A', ofGrid Grid.gb2312),
      (narrowMark 'J', roman), (wideMark '@', ofGrid Grid.jis208), (latinMark, shiftedOnly),
      (greekMark, shiftedOnly)]
  | .japanese3 =>
    [(wideMark 'B', ofGrid Grid.jis208), (wideMark 'O', firstPlane false),
      (wideMark 'P', secondPlane)]
  | .japanese2004 =>
    [(wideMark 'B', ofGrid Grid.jis208), (wideMark 'Q', firstPlane true),
      (wideMark 'P', secondPlane)]
  | .japaneseExtended =>
    [(wideMark 'B', ofGrid Grid.jis208), (wideMark 'D', ofGrid Grid.jis212),
      (narrowMark 'J', roman), (narrowMark 'I', katakana), (wideMark '@', ofGrid Grid.jis208)]
  | .korean => [(wideMark 'C', ofGrid Grid.ksx1001)]

/-- Whether two bytes switch between the first two places. -/
def hasShifts (v : Iso2022) : Bool := v == .korean

/-- Whether a third place is there for single characters. -/
def hasSingleShift (v : Iso2022) : Bool := v == .japanese2

/-- Whether a revision of a set may be announced before its designation. -/
def hasAnnouncements (v : Iso2022) : Bool := v != .korean

/-- The sets in the three places, whether the second is in use, and whether an escape that is none
of the encoding's own passes through. -/
structure State where
  first : Mark
  second : Mark
  third : Mark
  shifted : Bool
  passing : Bool

def State.start : State := ⟨asciiMark, asciiMark, asciiMark, false, false⟩

/-! ### Sequences -/

def escape : UInt8 := 0x1B

def isIntroducer (b : UInt8) : Bool := b == 0x28 || b == 0x29 || b == 0x24 || b == 0x2E || b == 0x26

def isFinal (b : UInt8) : Bool := (0x41 ≤ b && b ≤ 0x5A) || b == 0x40

/-- The length from which on a sequence is none. -/
def longestSequence : Nat := 16

/-- How far an escape sequence goes. -/
inductive Extent
  | ends (length : Nat)
  | cut
  | endless
deriving DecidableEq

/-- The extent of a sequence, by what follows its first bytes. An announcement has a final byte of
its own, and the byte after it is not looked at. -/
def extentFrom (announcements : Bool) (length : Nat) : List UInt8 → Extent
  | [] => if length < longestSequence then .cut else .endless
  | b :: rest =>
    if longestSequence ≤ length then .endless
    else if isFinal b then .ends (length + 1)
    else if announcements ∧ b = 0x26 ∧ rest.head? = some 0x40 then
      extentFrom announcements (length + 3) (rest.drop 2)
    else extentFrom announcements (length + 1) rest
termination_by bytes => bytes.length

inductive Place
  | first
  | second
  | third

def State.designate (s : State) (mark : Mark) : Place → State
  | .first => { s with first := mark }
  | .second => { s with second := mark }
  | .third => { s with third := mark }

/-- The place and the set that a sequence names. -/
def designation? (v : Iso2022) : List UInt8 → Option (Place × Mark)
  | [_, 0x24, final] => some (.first, ⟨true, final⟩)
  | [_, 0x28, final] => some (.first, ⟨false, final⟩)
  | [_, 0x29, final] => some (.second, ⟨false, final⟩)
  | [_, 0x2E, final] => if v.hasSingleShift then some (.third, ⟨false, final⟩) else none
  | [_, 0x24, 0x28, final] => some (.first, ⟨true, final⟩)
  | [_, 0x24, 0x29, final] => some (.second, ⟨true, final⟩)
  | [_, _, _, 0x1B, 0x24, 0x42] => if v.hasAnnouncements then some (.first, wideMark 'B') else none
  | _ => none

def set? (v : Iso2022) (mark : Mark) : Option CodedSet := v.sets.lookup mark

/-- Reads a sequence. -/
def readSequence (v : Iso2022) (s : State) (bytes : List UInt8) : ShiftStep State :=
  match extentFrom v.hasAnnouncements 1 (bytes.drop 1) with
  | .cut => .cut
  | .endless => .wrong 1
  | .ends length =>
    match v.designation? (bytes.take length) with
    | some (place, mark) =>
      if mark = asciiMark ∨ (v.set? mark).isSome then .text [] length (s.designate mark place)
      else .wrong length
    | none => .wrong length

/-! ### Characters -/

/-- A Greek character, of those that the set had at first. -/
def greek? (b : UInt8) : Option CodePoint :=
  if b = 0xA4 ∨ b = 0xA5 ∨ b = 0xAA then none
  else ((CodePage.all.find? fun p => p.names.head? == some "iso8859_7").bind
    fun p => p.character? b).filter (· != CodePoint.replacement)

/-- The characters that a set gives for single shifts, if it gives some. -/
def singles? (mark : Mark) : Option (UInt8 → Option CodePoint) :=
  if mark = latinMark then
    some fun b => if b < 128 then some (CodePoint.ofNat (b.toNat + 128)) else none
  else if mark = greekMark then some fun b => greek? (b ^^^ 0x80)
  else if mark = asciiMark then
    some fun b => if b < 128 then some (CodePoint.ofNat b.toNat) else none
  else none

/-- Reads the character of a single shift. -/
def readSingle (s : State) (b : UInt8) : ShiftStep State :=
  match singles? s.third with
  | none => .failed
  | some find? =>
    match find? b with
    | some c => .text [c] 3 s
    | none => .wrong 3

/-- Reads a character of the set in use. -/
def readCharacter (v : Iso2022) (s : State) (a : UInt8) (rest : List UInt8) : ShiftStep State :=
  let mark := if s.shifted then s.second else s.first
  if mark = asciiMark then .text [CodePoint.ofNat a.toNat] 1 s
  else
    match v.set? mark, rest with
    | some (.narrow find?), _ =>
      match find? a with
      | some c => .text [c] 1 s
      | none => .wrong 1
    | some (.wide _), [] => .cut
    | some (.wide find?), b :: _ =>
      match find? a.toNat b.toNat with
      | some found => .text found 2 s
      | none => .wrong 2
    | none, _ => .wrong 1

/-- Reads a byte that opens no sequence. -/
def readPlain (v : Iso2022) (s : State) (a : UInt8) (rest : List UInt8) : ShiftStep State :=
  if v.hasShifts && a = 0x0F then .text [] 1 { s with shifted := false }
  else if v.hasShifts && a = 0x0E then .text [] 1 { s with shifted := true }
  else if a = 0x0A then .text "\n" 1 { s with shifted := false }
  else if a < 0x20 then .text [CodePoint.ofNat a.toNat] 1 s
  else if 0x80 ≤ a then .wrong 1
  else v.readCharacter s a rest

/-- Reads an escape, by what follows it. One that is none of the encoding's own passes through, up
to a final byte. -/
def readEscape (v : Iso2022) (s : State) : List UInt8 → ShiftStep State
  | [] => .cut
  | b :: rest =>
    if isIntroducer b then v.readSequence s (escape :: b :: rest)
    else if v.hasSingleShift && b = 0x4E then
      match rest with
      | [] => .cut
      | c :: _ => readSingle s c
    else .text [CodePoint.ofNat escape.toNat] 1 { s with passing := true }

def step (v : Iso2022) (s : State) : List UInt8 → ShiftStep State
  | [] => .cut
  | a :: rest =>
    if s.passing then .text [CodePoint.ofNat a.toNat] 1 { s with passing := !isFinal a }
    else if a = escape then v.readEscape s rest
    else v.readPlain s a rest

def decode (v : Iso2022) (strict : Bool) (bytes : List UInt8) : Except ShiftError Text :=
  ShiftStep.decode strict v.step .start bytes

/-- The names of the forms: the form's own, then its aliases. -/
def names : List (Iso2022 × List String) := [
  (.japanese, ["iso2022_jp", "csiso2022jp", "iso2022jp", "iso_2022_jp"]),
  (.japanese1, ["iso2022_jp_1", "iso2022jp_1", "iso_2022_jp_1"]),
  (.japanese2, ["iso2022_jp_2", "iso2022jp_2", "iso_2022_jp_2"]),
  (.japanese3, ["iso2022_jp_3", "iso2022jp_3", "iso_2022_jp_3"]),
  (.japanese2004, ["iso2022_jp_2004", "iso2022jp_2004", "iso_2022_jp_2004"]),
  (.japaneseExtended, ["iso2022_jp_ext", "iso2022jp_ext", "iso_2022_jp_ext"]),
  (.korean, ["iso2022_kr", "csiso2022kr", "iso2022kr", "iso_2022_kr"])]

end Iso2022
end StyleLift
