import StyleLift.Http.Message
import StyleLift.Text.Blank
import StyleLift.Text.Charset
import StyleLift.Text.Digit
import StyleLift.Text.Percent

/-! # Content types

A content type is a media type and parameters, parted by semicolons that are not inside quotes. A
parameter may name the charset of the body. The value of a parameter may be written in pieces, which
are percent encoded or plain.
-/
namespace StyleLift.Http

/-- What may stand around a media type. -/
def isPadding (c : CodePoint) : Bool := c == .char ' ' || c == .char '\t'

/-- The media type of a content type, without parameters. -/
def mediaType (contentType : Text) : Text :=
  let named := (contentType.takeWhile (· ≠ .char ';')).dropWhile isPadding
  Text.asciiLower (named.reverse.dropWhile isPadding).reverse

/-- Whether a media type is JSON or built on it. -/
def isJson (contentType : Text) : Bool :=
  let media := mediaType contentType
  media == jsonType ||
    (Text.startsWith media "application/" && (Text.ofString "+json").isSuffixOf media)

/-- The parts between semicolons. A quote after a backslash neither opens nor closes. -/
def partsFrom (quoted afterBackslash : Bool) : Text → List Text
  | [] => [[]]
  | c :: rest =>
    if c = .char ';' ∧ !quoted then [] :: partsFrom false false rest
    else
      let quoted := quoted ^^ (c == .char '"' && !afterBackslash)
      match partsFrom quoted (c == .char '\\') rest with
      | part :: parts => (c :: part) :: parts
      | [] => [[c]]

def parts (contentType : Text) : List Text := partsFrom false false contentType

/-- A text without the quotes or angle brackets around it. -/
def unwrap (s : Text) : Text :=
  match s, s.getLast? with
  | .char '"' :: inner@(_ :: _), some (.char '"') => inner.dropLast
  | .char '<' :: inner@(_ :: _), some (.char '>') => inner.dropLast
  | _, _ => s

/-! ## Parameters -/

structure Parameter where
  name : Text
  value : Text
deriving DecidableEq

/-- The parameter that a part writes, with its name in lowercase. -/
def Parameter.ofPart (part : Text) : Parameter :=
  let name := part.takeWhile (· ≠ .char '=')
  ⟨Text.asciiLower (Text.trim name), unwrap (Text.trim (part.drop (name.length + 1)))⟩

/-- A piece of a value that is written in pieces. -/
structure Piece where
  number : Option Nat
  encoded : Bool
  value : Text

namespace Piece

def isNamePart (c : CodePoint) : Bool := c.isAsciiLetter || c.isAsciiDigit || c == .char '_'

/-- The piece in a parameter, and the name without its star, the number of the piece, and the star
of an encoded one. -/
def ofParameter? (p : Parameter) : Option (Text × Piece) :=
  let name := p.name.takeWhile isNamePart
  match name, p.name.drop name.length with
  | _ :: _, .char '*' :: rest =>
    let digits := rest.takeWhile CodePoint.isAsciiDigit
    match digits, rest.drop digits.length with
    | [], [] => some (name, ⟨none, true, p.value⟩)
    | _ :: _, [] => some (name, ⟨some (Text.decimalValue digits), false, p.value⟩)
    | _ :: _, [.char '*'] => some (name, ⟨some (Text.decimalValue digits), true, p.value⟩)
    | _, _ => none
  | _, _ => none

/-- Pieces are in order by their numbers, and those without a number by their values. -/
def le (a b : Piece) : Bool :=
  let m := a.number.getD 0
  let n := b.number.getD 0
  m < n || (m == n && Text.le a.value b.value)

def text (p : Piece) : Text :=
  if p.encoded then (Text.percentBytes p.value).map fun b => CodePoint.ofNat b.toNat else p.value

end Piece

/-- Why a content type has no charset, or the charset no text for a body. -/
inductive ContentTypeError
  /-- Of the pieces of a value some are numbered and some are not. -/
  | mixedPieces
  /-- The name of a charset holds a null, so it cannot be looked up. -/
  | nullInName
  | charset (e : CharsetError)
deriving DecidableEq

/-- All the pieces of values, by the names of their parameters. -/
def pieces (contentType : Text) : List (Text × Piece) :=
  ((parts contentType).drop 1).filterMap fun part => Piece.ofParameter? (.ofPart part)

def piecesOf (name contentType : Text) : List Piece :=
  (pieces contentType).filterMap fun (n, piece) => if n = name then some piece else none

def isMixed (found : List Piece) : Bool :=
  found.any (·.number.isSome) && found.any (·.number.isNone)

/-- The charset of a name, if there is one. -/
def findCharset (label : Text) : Except ContentTypeError (Option Charset) :=
  if label.contains (.char '\x00') then .error .nullInName else .ok (Charset.ofName? label)

section Values
variable (named : CharacterNames)

/-- A value as a charset reads its bytes. Without that charset, or unread, it stays. No charset is
looked for where there is nothing to read. -/
def readAs (label value : Text) : Except ContentTypeError Text :=
  if value.isEmpty then .ok []
  else do
    match ← findCharset label with
    | none => return value
    | some charset =>
      let read ← (charset.decodeStrict named (Escapes.encodeRaw value)).mapError .charset
      return read.getD value

/-- A value in the charset that it names before two quotes, or else in ASCII. -/
def readLabelled (s : Text) : Except ContentTypeError Text :=
  match Text.splitOn (.char '\'') s with
  | label :: _ :: first :: rest =>
    let label := if label.isEmpty then Text.ofString "us-ascii" else label
    readAs named label (Text.joinWith [.char '\''] (first :: rest))
  | _ => readAs named "us-ascii" s

/-- The value of a parameter that is not written in pieces. -/
def parameter? (name contentType : Text) : Option Text :=
  (parts contentType).findSome? fun part =>
    let p := Parameter.ofPart part
    if p.name = name then some p.value else none

/-- The value of a parameter, by its name in lowercase. -/
def value? (name contentType : Text) : Except ContentTypeError (Option Text) :=
  match parameter? name contentType, piecesOf name contentType with
  | some value, _ => .ok (some value)
  | none, [] => .ok none
  | none, found =>
    let joined := (found.mergeSort Piece.le).flatMap Piece.text
    if found.any (·.encoded) then (readLabelled named joined).map some else .ok (some joined)

/-! ## Bodies -/

/-- The charset of a content type. UTF-8 stands for one that has no name or an unknown one. -/
def charsetOf (contentType : Text) : Except ContentTypeError Charset :=
  let all := pieces contentType
  if all.any fun (name, _) => isMixed (piecesOf name contentType) then .error .mixedPieces
  else do
    match (← value? named "charset" contentType).filter fun label => label.all (·.val < 128) with
    | none => return .utf8
    | some label => return (← findCharset label).getD .utf8

/-- The text of a body. No charset is looked for where there is nothing to read. -/
def Response.text (r : Response) : Except ContentTypeError Text :=
  if r.body.isEmpty then .ok []
  else do
    let charset ← charsetOf named ((r.headers.lookup contentTypeHeader).getD [])
    (charset.decode named r.body).mapError .charset

end Values

end StyleLift.Http
