import StyleLift.Text.Grid.Big5
import StyleLift.Text.Grid.Guobiao
import StyleLift.Text.Grid.Hangul
import StyleLift.Text.Grid.HongKong
import StyleLift.Text.Grid.Jis
import StyleLift.Text.Grid.Jis213

/-! # Character sets of two bytes

East Asian character sets, in which the bytes below 128 are ASCII or close to it and most other
characters take two bytes, a lead and a trail. A code that stands for nothing loses its first byte
to a replacement character, and one that the end cuts off is replaced as a whole.
-/
namespace StyleLift

inductive DoubleByte
  | shiftJis
  /-- Shift JIS with what vendors added. -/
  | vendorShiftJis
  /-- Shift JIS with the characters of JIS X 0213, in its revision of 2004 or before. -/
  | newShiftJis (revised : Bool)
  | eucJapanese
  | newEucJapanese (revised : Bool)
  | gb2312
  | gbk
  | gb18030
  | big5
  /-- Big5 with what a vendor added. -/
  | vendorBig5
  /-- Big5 with the characters of Hong Kong. -/
  | hongKongBig5
  | eucKorean
  /-- The Korean set with all syllables. -/
  | unifiedHangul
  /-- Korean syllables by their letters. -/
  | johab
deriving DecidableEq

/-- What some bytes start with. -/
inductive Code
  | text (s : Text) (length : Nat)
  | cut
  /-- Nothing, and some bytes are lost. -/
  | wrong (length : Nat)

namespace DoubleByte

def codeOf (length : Nat) : Option CodePoint → Code
  | some c => .text [c] length
  | none => .wrong 1

/-- A code of a lead and a trail. -/
def pair (find? : Nat → Nat → Option CodePoint) : List UInt8 → Code
  | a :: b :: _ => codeOf 2 (find? a.toNat b.toNat)
  | _ => .cut

/-- Puts other characters in the place of some. -/
def instead (changes : List (Char × Char)) : CodePoint → CodePoint
  | .char c => .char ((changes.lookup c).getD c)
  | c => c

def within (low high n : Nat) : Bool := low ≤ n && n ≤ high

/-- Finds a pair of bytes from 161 to 254 in a grid. -/
def upperCell? (g : Grid) (a b : Nat) : Option CodePoint :=
  if within 0xA1 0xFE a && within 0xA1 0xFE b then g.cell? (a - 0xA1) (b - 0xA1) else none

/-! ## Japanese -/

/-- The row and the cell of a pair: each lead has two rows of 94 cells. -/
def shiftJisPlace? (a b : Nat) : Option (Nat × Nat) :=
  let lead? := if within 0x81 0x9F a then some (a - 0x81) else
    if within 0xE0 0xFC a then some (a - 0xC1) else none
  let trail? := if within 0x40 0x7E b then some (b - 0x40) else
    if within 0x80 0xFC b then some (b - 0x41) else none
  match lead?, trail? with
  | some lead, some trail => some (2 * lead + trail / 94, trail % 94)
  | _, _ => none

def shiftJisCell? (g : Grid) (a b : Nat) : Option CodePoint :=
  (shiftJisPlace? a b).bind fun (row, cell) => g.cell? row cell

def isKatakanaByte (b : UInt8) : Bool := 0xA1 ≤ b && b ≤ 0xDF

/-- The narrow katakana of a byte. -/
def katakana (b : UInt8) : CodePoint := CodePoint.ofNat (b.toNat + 0xFEC0)

def readShiftJis : List UInt8 → Code
  | [] => .cut
  | a :: rest =>
    if isKatakanaByte a then .text [katakana a] 1
    else pair (shiftJisCell? Grid.jis208) (a :: rest)

def vendorJisChanges : List (Char × Char) := [
  ('〜', '～'), ('‖', '∥'), ('−', '－'), ('¢', '￠'), ('£', '￡'), ('¬', '￢')]

/-- The code point of a pair in the private area, which ten leads of 188 trails fill. -/
def privateCell? (a b : Nat) : Option CodePoint :=
  if within 0xF0 0xF9 a then
    (shiftJisPlace? a b).map fun (row, cell) =>
      CodePoint.ofNat (0xE000 + (row - 2 * (0xF0 - 0xC1)) * 94 + cell)
  else none

def vendorShiftJisCell? (a b : Nat) : Option CodePoint :=
  (privateCell? a b <|> shiftJisCell? Grid.vendorJis a b) <|>
    (shiftJisCell? Grid.jis208 a b).map (instead vendorJisChanges)

def readVendorShiftJis : List UInt8 → Code
  | [] => .cut
  | a :: rest =>
    if isKatakanaByte a then .text [katakana a] 1
    else if a = 0x80 then .text [CodePoint.ofNat 0x80] 1
    else if a = 0xA0 then .text [CodePoint.ofNat 0xF8F0] 1
    else if 0xFD ≤ a then .text [CodePoint.ofNat (a.toNat - 0xFD + 0xF8F1)] 1
    else pair vendorShiftJisCell? (a :: rest)

/-- Two single shifts lead to narrow katakana and to the supplement. -/
def readEucJapanese : List UInt8 → Code
  | 0x8E :: b :: _ => codeOf 2 (if isKatakanaByte b then some (katakana b) else none)
  | 0x8F :: a :: b :: _ => codeOf 3 (upperCell? Grid.jis212 a.toNat b.toNat)
  | 0x8F :: _ => .cut
  | bytes => pair (upperCell? Grid.jis208) bytes

/-! ### JIS X 0213 -/

/-- Rows and cells of the first plane that only the revision has. -/
def revisedCells : List (Nat × Nat) := [
  (13, 0), (14, 93), (46, 51), (46, 93), (83, 6), (93, 89), (93, 90), (93, 91), (93, 92), (93, 93)]

/-- What a cell of the first plane holds. -/
def firstPlane? (row cell : Nat) : Option Text :=
  ((Grid.jis208.cell? row cell <|> Grid.onStrips? Grid.jis213First row cell).map fun c => [c]) <|>
    (Grid.jis213Pairs.lookup (row, cell)).map Text.ofString

/-- What a cell of the second plane holds. The revision has another form of one character. -/
def secondPlane? (revised : Bool) (row cell : Nat) : Option CodePoint :=
  if !revised && row = 92 && cell = 26 then some (.char '\u9B1D')
  else Grid.onStrips? Grid.jis213Second row cell

/-- A code of the first plane at a row and a cell. -/
def firstPlaneCode (revised : Bool) (change : Text → Text) (row cell : Nat) : Code :=
  if !revised && revisedCells.contains (row, cell) then .wrong 2
  else
    match firstPlane? row cell with
    | some s => .text (change s) 2
    | none => .wrong 1

/-- The rows of the second plane that Shift JIS has room for. -/
def shiftJisRows : List Nat := [0, 7, 2, 3, 4, 11, 12, 13, 14] ++ (List.range 17).map (77 + ·)

def readNewShiftJis (revised : Bool) : List UInt8 → Code
  | [] => .cut
  | a :: rest =>
    if isKatakanaByte a then .text [katakana a] 1
    else
      match rest with
      | [] => .cut
      | b :: _ =>
        match shiftJisPlace? a.toNat b.toNat with
        | none => .wrong 1
        | some (row, cell) =>
          if row < 94 then
            firstPlaneCode revised (fun s => if s = "＼" then "\\" else s) row cell
          else codeOf 2 ((shiftJisRows[row - 94]?).bind (secondPlane? revised · cell))

def readNewEucJapanese (revised : Bool) : List UInt8 → Code
  | 0x8E :: b :: _ => codeOf 2 (if isKatakanaByte b then some (katakana b) else none)
  | 0x8F :: a :: b :: _ =>
    codeOf 3 (if within 0xA1 0xFE a.toNat && within 0xA1 0xFE b.toNat then
      secondPlane? revised (a.toNat - 0xA1) (b.toNat - 0xA1) <|>
      upperCell? Grid.jis212 a.toNat b.toNat
      else none)
  | 0x8F :: _ => .cut
  | a :: b :: _ =>
    if within 0xA1 0xFE a.toNat && within 0xA1 0xFE b.toNat then
      firstPlaneCode revised (fun s => if s = "~" then "～" else s) (a.toNat - 0xA1) (b.toNat - 0xA1)
    else .wrong 1
  | _ => .cut

/-! ## Chinese -/

def readGb2312 : List UInt8 → Code := pair (upperCell? Grid.gb2312)

def gbkChanges : List (Char × Char) := [('・', '·'), ('―', '—')]

/-- The row and the cell of a pair in the extended table. -/
def gbkPlace? (a b : Nat) : Option (Nat × Nat) :=
  if !within 0x81 0xFE a then none
  else if within 0x40 0x7E b then some (a - 0x81, b - 0x40)
  else if within 0x80 0xFE b then some (a - 0x81, b - 0x41)
  else none

def firstIdeograph : Nat := 0x4E00
def lastIdeograph : Nat := 0x9FA5

def basicIdeographs : List Nat := Grid.gb2312.valuesWithin firstIdeograph lastIdeograph

/-- The ideograph with a number among those that are not in the basic table. -/
def spareIdeograph? (n : Nat) : Option CodePoint :=
  let found := Grid.skipping basicIdeographs firstIdeograph n
  if found ≤ lastIdeograph then some (CodePoint.ofNat found) else none

/-- The number of a cell among those of the spare ideographs: the first 32 rows, and the first 96
cells of the rows from the 42nd on. -/
def spareIndex? (row cell : Nat) : Option Nat :=
  if row < 32 then some (row * 190 + cell)
  else if 41 ≤ row ∧ cell < 96 then some (32 * 190 + (row - 41) * 96 + cell)
  else none

def gbkCell? (a b : Nat) : Option CodePoint :=
  (upperCell? Grid.gb2312 a b).map (instead gbkChanges) <|>
    (gbkPlace? a b).bind fun (row, cell) =>
      Grid.onStrips? Grid.guobiaoStrips row cell <|>
        (spareIndex? row cell).bind spareIdeograph?

def readGbk : List UInt8 → Code := pair gbkCell?

def gb18030Cell? (a b : Nat) : Option CodePoint :=
  gbkCell? a b <|> (gbkPlace? a b).bind fun (row, cell) =>
    let n := row * 190 + cell
    Grid.guobiaoRuns.findSome? fun (first, value, count) =>
      if within first (first + count - 1) n then some (CodePoint.ofNat (value + (n - first)))
      else none

/-- The code point of the four bytes with a number. -/
def gb18030Long? (n : Nat) : Option CodePoint :=
  let beyond := 15 * 12600
  if n < Grid.guobiaoLongCount then
    (Grid.guobiaoLongRuns.reverse.find? fun (first, _) => first ≤ n).map fun (first, value) =>
      CodePoint.ofNat (value + (n - first))
  else if within beyond (beyond + 0xFFFFF) n then CodePoint.ofNat? (0x10000 + (n - beyond))
  else none

/-- A trail that is a digit starts a code of four bytes. -/
def readGb18030 : List UInt8 → Code
  | a :: b :: rest =>
    if 0x30 ≤ b && b ≤ 0x39 then
      match rest with
      | c :: d :: _ =>
        if within 0x81 0xFE a.toNat && within 0x81 0xFE c.toNat && within 0x30 0x39 d.toNat then
          codeOf 4 (gb18030Long? ((a.toNat - 0x81) * 12600 + (b.toNat - 0x30) * 1260 +
            (c.toNat - 0x81) * 10 + (d.toNat - 0x30)))
        else .wrong 1
      | _ => .cut
    else pair gb18030Cell? (a :: b :: rest)
  | _ => .cut

def big5Place? (a b : Nat) : Option (Nat × Nat) :=
  if !within 0xA1 0xFE a then none
  else if within 0x40 0x7E b then some (a - 0xA1, b - 0x40)
  else if within 0xA1 0xFE b then some (a - 0xA1, b - 0x62)
  else none

def readBig5 : List UInt8 → Code :=
  pair fun a b => (big5Place? a b).bind fun (row, cell) => Grid.big5.cell? row cell

def vendorBig5Changes : List (Char × Char) := [
  ('•', '‧'), ('､', '﹑'), ('‾', '¯'), ('∼', '～'), ('♁', '⊕'), ('☉', '⊙'), ('／', '∕'),
  ('＼', '﹨'), ('¥', '￥'), ('¢', '￠'), ('£', '￡')]

def readVendorBig5 : List UInt8 → Code :=
  pair fun a b => (big5Place? a b).bind fun (row, cell) =>
    Grid.onStrips? Grid.big5Strips row cell <|>
      (Grid.big5.cell? row cell).map (instead vendorBig5Changes)

/-- The row and the cell of a pair among the characters of Hong Kong. -/
def hongKongPlace? (a b : Nat) : Option (Nat × Nat) :=
  if !within 0x87 0xFE a then none
  else if within 0x40 0x7E b then some (a - 0x87, b - 0x40)
  else if within 0xA1 0xFE b then some (a - 0x87, b - 0x62)
  else none

/-- Whether a pair is left to Hong Kong though Big5 may have it. -/
def isHongKongOwn (a b : Nat) : Bool := (a == 0xC6 && 0xA1 ≤ b) || within 0xC7 0xC8 a

def hongKong? (a b : Nat) : Option Text :=
  (hongKongPlace? a b).bind fun (row, cell) =>
    (Grid.onStrips? Grid.hongKong row cell).map (fun c => [c]) <|>
      (Grid.hongKongPairs.lookup (row, cell)).map Text.ofString

def readHongKongBig5 : List UInt8 → Code
  | a :: b :: rest =>
    match hongKong? a.toNat b.toNat with
    | some s => .text s 2
    | none => if isHongKongOwn a.toNat b.toNat then .wrong 1 else readBig5 (a :: b :: rest)
  | _ => .cut

/-! ## Korean -/

/-- The filler that starts a syllable written in parts. -/
def isFiller (a b : Nat) : Bool := a == 0xA4 && b == 0xD4

def readEucKorean : List UInt8 → Code :=
  pair fun a b => if isFiller a b then none else upperCell? Grid.ksx1001 a b

def firstSyllable : Nat := 0xAC00
def lastSyllable : Nat := 0xD7A3

def basicSyllables : List Nat := Grid.ksx1001.valuesWithin firstSyllable lastSyllable

/-- The syllable with a number among those that are not in the basic table. -/
def spareSyllable? (n : Nat) : Option CodePoint :=
  let found := Grid.skipping basicSyllables firstSyllable n
  if found ≤ lastSyllable then some (CodePoint.ofNat found) else none

/-- The number of a pair among those of the spare syllables: 178 trails for each of 32 leads, and 84
for the leads after them. -/
def spareSyllableIndex? (a b : Nat) : Option Nat :=
  let trail? := if within 0x41 0x5A b then some (b - 0x41) else
    if within 0x61 0x7A b then some (b - 0x61 + 26) else
    if within 0x81 0xFE b then some (b - 0x81 + 52) else none
  trail?.bind fun trail =>
    if within 0x81 0xA0 a then some ((a - 0x81) * 178 + trail)
    else if within 0xA1 0xC6 a && trail < 84 then some (32 * 178 + (a - 0xA1) * 84 + trail)
    else none

def readUnifiedHangul : List UInt8 → Code :=
  pair fun a b => upperCell? Grid.ksx1001 a b <|>
    (spareSyllableIndex? a b).bind spareSyllable?

/-! ### Letters of syllables

Five bits stand for each of the three letters of a syllable, and no letter is a filler in its place.
-/

inductive Letter
  | filler
  | letter (n : Nat) (c : Char)

/-- The letters that a table has from a code on. The gaps in it are marked. -/
def letterOf? (filler first : Nat) (letters : String) (code : Nat) : Option Letter :=
  if code = filler then some .filler
  else if code < first then none
  else
    match letters.toList[code - first]? with
    | none | some '-' => none
    | some c => some (.letter ((letters.toList.take (code - first)).filter (· ≠ '-')).length c)

def initialLetter? : Nat → Option Letter := letterOf? 1 2 "ㄱㄲㄴㄷㄸㄹㅁㅂㅃㅅㅆㅇㅈㅉㅊㅋㅌㅍㅎ"
def vowel? : Nat → Option Letter := letterOf? 2 3 "ㅏㅐㅑㅒㅓ--ㅔㅕㅖㅗㅘㅙ--ㅚㅛㅜㅝㅞㅟ--ㅠㅡㅢㅣ"
def finalLetter? : Nat → Option Letter := letterOf? 1 2 "ㄱㄲㄳㄴㄵㄶㄷㄹㄺㄻㄼㄽㄾㄿㅀㅁ-ㅂㅄㅅㅆㅇㅈㅊㅋㅌㅍㅎ"

/-- A syllable, or one letter of it. -/
def syllable? : Letter → Letter → Letter → Option CodePoint
  | .filler, .filler, .filler => some (.char '\u3000')
  | .letter _ c, .filler, .filler | .filler, .letter _ c, .filler | .filler, .filler, .letter _ c =>
    some (.char c)
  | .letter i _, .letter v _, .filler => some (CodePoint.ofNat (firstSyllable + i * 588 + v * 28))
  | .letter i _, .letter v _, .letter f _ =>
    some (CodePoint.ofNat (firstSyllable + i * 588 + v * 28 + f + 1))
  | _, _, _ => none

/-- The place of a pair beyond the syllables: each lead has two rows of 94 cells. -/
def johabPlace? (a b : Nat) : Option (Nat × Nat) :=
  if !within 0xD9 0xF9 a || a = 0xDF || (a = 0xDA && within 0xA1 0xD3 b) then none
  else
    let trail? := if within 0x31 0x7E b then some (b - 0x31) else
      if within 0x91 0xFE b then some (b - 0x43) else none
    trail?.map fun trail =>
      ((if a < 0xE0 then 2 * (a - 0xD9) else 2 * a - 0x197) + trail / 94, trail % 94)

def johabCell? (a b : Nat) : Option CodePoint :=
  if a < 0xD8 then do
    syllable? (← initialLetter? (a / 4 % 32)) (← vowel? (a % 4 * 8 + b / 32))
      (← finalLetter? (b % 32))
  else (johabPlace? a b).bind fun (row, cell) => Grid.ksx1001.cell? row cell

def readJohab : List UInt8 → Code := pair johabCell?

/-! ## Decoding -/

/-- The code that some bytes start with, of which the first is not ASCII. -/
def readCode : DoubleByte → List UInt8 → Code
  | .shiftJis => readShiftJis
  | .vendorShiftJis => readVendorShiftJis
  | .newShiftJis revised => readNewShiftJis revised
  | .eucJapanese => readEucJapanese
  | .newEucJapanese revised => readNewEucJapanese revised
  | .gb2312 => readGb2312
  | .gbk => readGbk
  | .gb18030 => readGb18030
  | .big5 => readBig5
  | .vendorBig5 => readVendorBig5
  | .hongKongBig5 => readHongKongBig5
  | .eucKorean => readEucKorean
  | .unifiedHangul => readUnifiedHangul
  | .johab => readJohab

/-- The character of a byte below 128 in the Japanese form of ASCII. -/
def romanCharacter (b : UInt8) : CodePoint :=
  if b = 0x5C then .char '¥' else if b = 0x7E then .char '‾' else CodePoint.ofNat b.toNat

/-- The character of a byte below 128. -/
def narrow : DoubleByte → UInt8 → CodePoint
  | .newShiftJis _, b => romanCharacter b
  | _, b => CodePoint.ofNat b.toNat

def decode (s : DoubleByte) : List UInt8 → Text
  | [] => []
  | b :: rest =>
    if b < 128 then s.narrow b :: s.decode rest
    else
      match s.readCode (b :: rest) with
      | .text found length => found ++ s.decode (rest.drop (length - 1))
      | .cut => [.replacement]
      | .wrong length => .replacement :: s.decode (rest.drop (length - 1))
termination_by bytes => bytes.length

/-- The names of the sets: the set's own, then its aliases. -/
def names : List (DoubleByte × List String) := [
  (.shiftJis, ["shift_jis", "csshiftjis", "s_jis", "shiftjis", "sjis", "x_mac_japanese"]),
  (.vendorShiftJis, ["cp932", "932", "ms932", "ms_kanji", "mskanji"]),
  (.newShiftJis true, ["shift_jis_2004", "s_jis_2004", "shiftjis2004", "sjis_2004"]),
  (.newShiftJis false, ["shift_jisx0213", "s_jisx0213", "shiftjisx0213", "sjisx0213"]),
  (.newEucJapanese true, ["euc_jis_2004", "euc_jis2004", "eucjis2004", "jisx0213"]),
  (.newEucJapanese false, ["euc_jisx0213", "eucjisx0213"]),
  (.eucJapanese, ["euc_jp", "eucjp", "u_jis", "ujis"]),
  (.gb2312, ["gb2312", "chinese", "csiso58gb231280", "euc_cn", "euccn", "eucgb2312_cn",
    "gb2312_1980", "gb2312_80", "iso_ir_58", "x_mac_simp_chinese"]),
  (.gbk, ["gbk", "936", "cp936", "ms936"]),
  (.gb18030, ["gb18030", "gb18030_2000"]),
  (.big5, ["big5", "big5_tw", "csbig5", "x_mac_trad_chinese"]),
  (.vendorBig5, ["cp950", "950", "ms950"]),
  (.hongKongBig5, ["big5hkscs", "big5_hkscs", "hkscs"]),
  (.johab, ["johab", "cp1361", "ms1361"]),
  (.eucKorean, ["euc_kr", "euckr", "korean", "ks_c_5601", "ks_c_5601_1987", "ks_x_1001", "ksc5601",
    "ksx1001", "x_mac_korean"]),
  (.unifiedHangul, ["cp949", "949", "ms949", "uhc"])]

end DoubleByte
end StyleLift
