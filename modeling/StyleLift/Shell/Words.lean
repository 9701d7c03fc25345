import StyleLift.Text.CodePoint

/-! # Shell words

Splitting a command line into words and joining words into one. Outside quotes a backslash escapes
whatever follows; between double quotes it escapes only itself and the quote; single quotes are
literal. Joining quotes the words that are not plain.
-/
namespace StyleLift.Shell

inductive SplitError
  | openQuote
  | openEscape
deriving DecidableEq

def SplitError.message : SplitError → Text
  | .openQuote => "No closing quotation"
  | .openEscape => "No escaped character"

/-- Where the splitting stands; within a word `read` holds its code points, the last one first. -/
inductive SplitState
  | between
  | word (read : Text)
  | quoted (quote : CodePoint) (read : Text)
  | escaped (read : Text)
  | escapedInQuote (read : Text)

def isSpace (c : CodePoint) : Bool :=
  c == .char ' ' || c == .char '\t' || c == .char '\r' || c == .char '\n'

/-- The state after a code point of a word, outside quotes. -/
def SplitState.enter (read : Text) (c : CodePoint) : SplitState :=
  if c = .char '\\' then .escaped read
  else if c = .char '"' ∨ c = .char '\'' then .quoted c read
  else .word (c :: read)

def splitFrom : SplitState → Text → Except SplitError (List Text)
  | .between, [] => .ok []
  | .word read, [] => .ok [read.reverse]
  | .quoted _ _, [] => .error .openQuote
  | .escaped _, [] | .escapedInQuote _, [] => .error .openEscape
  | .between, c :: rest =>
    if isSpace c then splitFrom .between rest else splitFrom (.enter [] c) rest
  | .word read, c :: rest =>
    if isSpace c then (splitFrom .between rest).map (read.reverse :: ·)
    else splitFrom (.enter read c) rest
  | .quoted quote read, c :: rest =>
    if c = quote then splitFrom (.word read) rest
    else if c = .char '\\' ∧ quote = .char '"' then splitFrom (.escapedInQuote read) rest
    else splitFrom (.quoted quote (c :: read)) rest
  | .escaped read, c :: rest => splitFrom (.word (c :: read)) rest
  | .escapedInQuote read, c :: rest =>
    let read := if c = .char '"' ∨ c = .char '\\' then c :: read else c :: .char '\\' :: read
    splitFrom (.quoted (.char '"') read) rest

def split (line : Text) : Except SplitError (List Text) := splitFrom .between line

def isPlain (c : CodePoint) : Bool :=
  c.isAsciiLetter || c.isAsciiDigit ||
    (Text.ofString "_@%+=:,./-").contains c

def quoteWord (word : Text) : Text :=
  if !word.isEmpty && word.all isPlain then word
  else
    .char '\'' :: word.flatMap (fun c => if c = .char '\'' then Text.ofString "'\"'\"'" else [c]) ++
      [.char '\'']

def join (words : List Text) : Text := Text.joinWith [.char ' '] (words.map quoteWord)

end StyleLift.Shell
