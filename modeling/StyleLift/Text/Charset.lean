import StyleLift.Text.CodePage
import StyleLift.Text.DoubleByte
import StyleLift.Text.Escapes
import StyleLift.Text.Punycode
import StyleLift.Text.Shifting
import StyleLift.Text.Utf7
import StyleLift.Text.Utf8

/-! # Charsets

The named ways to read bytes as text. Bytes that cannot be read give replacement characters. The
wide charsets that tell their byte order by a mark cannot do without one, Punycode cannot do with
digits beyond ASCII, and shifts can lead to nowhere. Some names are of encodings that do not lead
from bytes to text.
-/
namespace StyleLift

/-- Why bytes are not read at all. -/
inductive CharsetError
  | noUtf16Mark
  | noUtf32Mark
  | shift (e : ShiftError)
  /-- What should be digits is not ASCII. -/
  | noDigits
  /-- The encoding takes no replacements. -/
  | noReplacement
  /-- The encoding leads from bytes to bytes. -/
  | givesBytes
  /-- The encoding leads from text to text. -/
  | takesText
deriving DecidableEq

def CharsetError.message : CharsetError → Text
  | .noUtf16Mark => "UTF-16 stream does not start with BOM"
  | .noUtf32Mark => "UTF-32 stream does not start with BOM"
  | .shift .longCut => "pending buffer overflow"
  | .shift .noSingle => "internal codec error"
  | .shift .illegal => "illegal multibyte sequence"
  | .noDigits => "the digits are not ASCII"
  | .noReplacement => "the encoding takes no replacements"
  | .givesBytes => "the encoding gives bytes"
  | .takesText => "the encoding takes text"

inductive Charset
  | utf7
  | utf8
  /-- UTF-8 that may start with a byte order mark. -/
  | utf8Marked
  | utf16 (bigEndian : Bool)
  | utf16Marked
  | utf32 (bigEndian : Bool)
  | utf32Marked
  | page (p : CodePage)
  | doubleByte (s : DoubleByte)
  | hz
  | iso2022 (v : Iso2022)
  | punycode
  | escapes (raw : Bool)
  /-- An encoding that cannot read bytes as text. -/
  | unusable (e : CharsetError)
deriving DecidableEq

namespace Charset

/-! ## Names -/

/-- The names of the charsets of all code points: the charset's own, then its aliases. -/
def wideNames : List (Charset × List String) := [
  (.utf7, ["utf_7", "u7", "unicode_1_1_utf_7", "utf7"]),
  (.utf8, ["utf_8", "cp65001", "u8", "utf", "utf8", "utf8_ucs2", "utf8_ucs4"]),
  (.utf8Marked, ["utf_8_sig"]),
  (.utf16 false, ["utf_16_le", "unicodelittleunmarked", "utf_16le"]),
  (.utf16 true, ["utf_16_be", "unicodebigunmarked", "utf_16be"]),
  (.utf16Marked, ["utf_16", "u16", "utf16"]),
  (.utf32 false, ["utf_32_le", "utf_32le"]),
  (.utf32 true, ["utf_32_be", "utf_32be"]),
  (.utf32Marked, ["utf_32", "u32", "utf32"])]

/-- The names of the encodings that are none of a character set's own. -/
def plainNames : List (Charset × List String) := [
  (.hz, ["hz", "hz_gb", "hz_gb_2312", "hzgb"]),
  (.punycode, ["punycode"]),
  (.escapes false, ["unicode_escape"]),
  (.escapes true, ["raw_unicode_escape"])]

/-- The names of the encodings that cannot read bytes as text. -/
def unusableNames : List (Charset × List String) := [
  (.unusable .noReplacement, ["idna"]),
  (.unusable .noReplacement, ["undefined"]),
  (.unusable .givesBytes, ["base64_codec", "base64", "base_64"]),
  (.unusable .givesBytes, ["bz2_codec", "bz2"]),
  (.unusable .givesBytes, ["hex_codec", "hex"]),
  (.unusable .givesBytes, ["quopri_codec", "quopri", "quoted_printable", "quotedprintable"]),
  (.unusable .givesBytes, ["uu_codec", "uu"]),
  (.unusable .givesBytes, ["zlib_codec", "zip", "zlib"]),
  (.unusable .takesText, ["rot_13", "rot13"])]

def all : List (Charset × List String) :=
  wideNames ++ CodePage.all.map (fun p => (.page p, p.names)) ++
    DoubleByte.names.map (fun (s, names) => (.doubleByte s, names)) ++
    Iso2022.names.map (fun (v, names) => (.iso2022 v, names)) ++ plainNames ++ unusableNames

def isNamePart (c : CodePoint) : Bool := c.isAsciiLetter || c.isAsciiDigit || c == .char '.'

/-- The words of a name in lowercase, with one underscore between them. -/
def plainName (name : Text) : Text :=
  Text.joinWith [.char '_']
    ((List.splitOnP (fun c => !isNamePart c) (Text.asciiLower name)).filter (!·.isEmpty))

/-- The charset of a name. In an alias a point may stand for an underscore. -/
def ofName? (name : Text) : Option Charset :=
  let plain := plainName name
  let pointless := plain.map fun c => if c = .char '.' then .char '_' else c
  (all.find? fun (_, names) =>
    names.any (fun n => Text.ofString n == plain) ||
      (names.drop 1).any fun n => Text.ofString n == pointless).map (·.1)

/-! ## Decoding -/

/-- The number that some bytes write. -/
def numberOf (bigEndian : Bool) (bytes : List UInt8) : Nat :=
  (if bigEndian then bytes else bytes.reverse).foldl (fun n b => n * 256 + b.toNat) 0

def isHigh (n : Nat) : Bool := 0xD800 ≤ n && n < 0xDC00
def isLow (n : Nat) : Bool := 0xDC00 ≤ n && n < 0xE000

/-- Decodes units of two bytes. A high surrogate that the end cuts off takes all that is left. -/
def decodeUtf16 (bigEndian : Bool) : List UInt8 → Text
  | [] => []
  | [_] => [.replacement]
  | a :: b :: rest =>
    let first := numberOf bigEndian [a, b]
    if isHigh first then
      match rest with
      | c :: d :: after =>
        let second := numberOf bigEndian [c, d]
        if isLow second then
          CodePoint.ofNat (0x10000 + (first - 0xD800) * 0x400 + (second - 0xDC00)) ::
            decodeUtf16 bigEndian after
        else .replacement :: decodeUtf16 bigEndian (c :: d :: after)
      | _ => [.replacement]
    else (if isLow first then .replacement else CodePoint.ofNat first) :: decodeUtf16 bigEndian rest

def decodeUtf32 (bigEndian : Bool) : List UInt8 → Text
  | a :: b :: c :: d :: rest =>
    let n := numberOf bigEndian [a, b, c, d]
    (if isHigh n || isLow n then .replacement else CodePoint.ofNat n) ::
      decodeUtf32 bigEndian rest
  | [] => []
  | _ => [.replacement]

def decodeMarkedUtf16 : List UInt8 → Except CharsetError Text
  | 0xFF :: 0xFE :: rest => .ok (decodeUtf16 false rest)
  | 0xFE :: 0xFF :: rest => .ok (decodeUtf16 true rest)
  | _ :: _ :: _ => .error .noUtf16Mark
  | bytes => .ok (decodeUtf16 false bytes)

def decodeMarkedUtf32 : List UInt8 → Except CharsetError Text
  | 0xFF :: 0xFE :: 0x00 :: 0x00 :: rest => .ok (decodeUtf32 false rest)
  | 0x00 :: 0x00 :: 0xFE :: 0xFF :: rest => .ok (decodeUtf32 true rest)
  | _ :: _ :: _ :: _ :: _ => .error .noUtf32Mark
  | bytes => .ok (decodeUtf32 false bytes)

def utf8Mark : List UInt8 := [0xEF, 0xBB, 0xBF]

/-- The bytes after a mark; a mark that is cut off counts as one. -/
def dropUtf8Mark (bytes : List UInt8) : List UInt8 :=
  if bytes.isPrefixOf utf8Mark || utf8Mark.isPrefixOf bytes then bytes.drop 3 else bytes

/-- Reads Punycode as far as it can be read. -/
def decodePunycode (bytes : List UInt8) : Except CharsetError Text :=
  match Punycode.read? bytes with
  | some found => .ok found.text
  | none => .error .noDigits

/-- Reads bytes that come in a body. -/
def decode (named : CharacterNames) : Charset → List UInt8 → Except CharsetError Text
  | .utf7, bytes => .ok (Utf7.decode bytes)
  | .utf8, bytes => .ok (Text.decodeLossy bytes)
  | .utf8Marked, bytes => .ok (Text.decodeLossy (dropUtf8Mark bytes))
  | .utf16 bigEndian, bytes => .ok (decodeUtf16 bigEndian bytes)
  | .utf16Marked, bytes => decodeMarkedUtf16 bytes
  | .utf32 bigEndian, bytes => .ok (decodeUtf32 bigEndian bytes)
  | .utf32Marked, bytes => decodeMarkedUtf32 bytes
  | .page p, bytes => .ok (p.decode bytes)
  | .doubleByte s, bytes => .ok (s.decode bytes)
  | .hz, bytes => (Hz.decode false bytes).mapError .shift
  | .iso2022 v, bytes => (v.decode false bytes).mapError .shift
  | .punycode, bytes => decodePunycode bytes
  | .escapes false, bytes => .ok (Escapes.decode named bytes)
  | .escapes true, bytes => .ok (Escapes.decodeRaw bytes)
  | .unusable e, _ => .error e

/-- A text in which nothing had to be replaced. -/
def whole? (s : Text) : Option Text := if s.contains .replacement then none else some s

/-- What comes of shifts where no replacement is taken. Only one error is no refusal of the
bytes. -/
def shifted? : Except ShiftError Text → Except CharsetError (Option Text)
  | .ok s => .ok (some s)
  | .error .noSingle => .error (.shift .noSingle)
  | .error _ => .ok none

/-- Reads bytes that stand in a header. All of them have to be read, and wide units without a mark
have their low byte first. -/
def decodeStrict (named : CharacterNames) (c : Charset) (bytes : List UInt8) :
    Except CharsetError (Option Text) :=
  match c with
  | .utf8Marked => .ok (whole? (Text.decodeLossy
      (if utf8Mark.isPrefixOf bytes then bytes.drop utf8Mark.length else bytes)))
  | .punycode => .ok (((Punycode.read? bytes).filter (·.clean)).map (·.text))
  | .hz => shifted? (Hz.decode true bytes)
  | .iso2022 v => shifted? (v.decode true bytes)
  | c =>
    match c.decode named bytes with
    | .ok s => .ok (whole? s)
    | .error .noUtf16Mark => .ok (whole? (decodeUtf16 false bytes))
    | .error .noUtf32Mark => .ok (whole? (decodeUtf32 false bytes))
    | .error _ => .ok none

end Charset
end StyleLift
