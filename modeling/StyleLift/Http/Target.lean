import StyleLift.Http.Authority
import StyleLift.Text.Percent

/-! # Request targets

Writing a path as the target of a request and reading the path back. A target may start with a
scheme and a host. It may end in a query, after a question mark; a fragment, after a number sign,
is no part of it.
-/
namespace StyleLift.Http

def isControl (c : CodePoint) : Bool := c.val < 0x20 || c.val == 0x7F

/-- The code points that a query holds as they are. -/
def isQueryPlain (c : CodePoint) : Bool :=
  0x20 < c.val && c.val < 0x7F && !(Text.ofString "\"#<>").contains c

/-- The code points that a path holds as they are. -/
def isPathPlain (c : CodePoint) : Bool :=
  isQueryPlain c && !(Text.ofString "?`\x7b\x7d").contains c

/-- Steps without those that stay or go up. What goes up from the root stays there. -/
def removeDots (steps : List Text) : List Text :=
  (steps.foldl (fun (kept : List Text) step =>
    if step = Text.ofString "." then kept
    else if step = Text.ofString ".." then (if kept = [[]] then kept else kept.dropLast)
    else kept ++ [step]) [])

def slash : CodePoint := .char '/'
def questionMark : CodePoint := .char '?'

/-- A text up to its query or fragment. -/
def beforeQuery (s : Text) : Text := s.takeWhile fun c => c ≠ questionMark ∧ c ≠ .char '#'

/-- The query of a text with its question mark, up to a fragment. -/
def queryPart (s : Text) : Text :=
  (s.takeWhile (· ≠ .char '#')).dropWhile (· ≠ questionMark)

/-! ## Writing -/

/-- The most code points of a text that becomes a target, and of the path or query made of it. -/
def maxLength : Nat := 65536

/-- The target for a path and whatever follows it, if they can be written. -/
def writeTarget? (s : Text) : Option Text :=
  let path := Text.percentEncode isPathPlain (beforeQuery s)
  let query := Text.percentEncode isQueryPlain (queryPart s)
  if s.any isControl || maxLength < s.length || maxLength < path.length ||
      maxLength < query.length - 1 then none
  else
    match Text.joinWith [slash] (removeDots (Text.splitOn slash path)) with
    | [] => some (slash :: query)
    | path => some (path ++ query)

/-! ## Reading -/

def isSchemePart (c : CodePoint) : Bool :=
  c.isAsciiLetter || c.isAsciiDigit || (Text.ofString "+-.").contains c

/-- What follows a scheme with its colon. A scheme starts with a letter. -/
def dropScheme (s : Text) : Text :=
  match s.takeWhile isSchemePart, s.dropWhile isSchemePart with
  | c :: _, .char ':' :: rest => if c.isAsciiLetter then rest else s
  | _, _ => s

/-- The authority after two slashes, and what follows it. A scheme before them is dropped. -/
def splitAuthority (s : Text) : Text × Text :=
  match Text.dropPrefix? "//" (dropScheme s) with
  | some rest => (rest.takeWhile (· ≠ slash), rest.dropWhile (· ≠ slash))
  | none => ([], dropScheme s)

/-- A path with one leading slash. -/
def fromRoot (path : Text) : Text := slash :: path.dropWhile (· = slash)

/-- Tabs and line ends count for nothing in a target. -/
def isIgnored (c : CodePoint) : Bool := c == .char '\t' || c == .char '\r' || c == .char '\n'

/-- The path of a target. What follows an authority may start with a second one, which is dropped as
well, and with a third, which is checked and stays. The second need not lead anywhere. -/
def pathOf (target : Text) : Except AuthorityError Text := do
  let (first, rest) := splitAuthority (beforeQuery (target.filter fun c => !isIgnored c))
  checkAuthority first
  let (second, path) := splitAuthority rest
  checkAuthority second
  let (third, _) := splitAuthority path
  checkAuthority third
  checkAddress third
  checkAddress first
  return fromRoot (Text.percentDecode path)

/-- The path of a target that never leaves the process. What it decodes to stands for bytes: there
is no path where a code point is no byte. -/
def handedPath? (target : Text) : Option Text := do
  let bytes ← (Text.percentDecode (beforeQuery target)).mapM fun c =>
    if c.val < 256 then some (UInt8.ofNat c.val) else none
  return fromRoot (Text.decodeLossy bytes)

end StyleLift.Http
