import StyleLift.Text.Digit
import StyleLift.Text.Quoted

/-! # Authorities

What may stand between two slashes and the path of a target: a host, with a user before an at sign,
and with a number after a colon. A host in brackets may hold colons itself.
-/
namespace StyleLift.Http

inductive AuthorityError
  | unbalancedBrackets
  /-- It holds a sign that is another form of one with a meaning of its own in a target. -/
  | disguisedSign (authority : Text)
  | notNumber (word : Text)
  | outOfRange
  /-- A part of the host between dots is empty or too long. -/
  | badLabel
deriving DecidableEq

def AuthorityError.message : AuthorityError → Text
  | .unbalancedBrackets => "Invalid IPv6 URL"
  | .disguisedSign authority =>
    Text.ofString "netloc '" ++ authority ++
      Text.ofString "' contains invalid characters under NFKC normalization"
  | .notNumber word =>
    Text.ofString "Port could not be cast to integer value as " ++ word.quoted
  | .outOfRange => "Port out of range 0-65535"
  | .badLabel => "label empty or too long"

/-- The code points above ASCII whose compatible form holds a slash, a question mark, a number sign,
an at sign or a colon. -/
def disguisedSigns : Text :=
  Text.ofString "⁇⁈⁉℀℁℅℆⩴︓︖﹕﹖﹟﹫＃／：？＠"

/-- Checks what is wrong with an authority wherever it stands. -/
def checkAuthority (authority : Text) : Except AuthorityError Unit :=
  if authority.contains (.char '[') != authority.contains (.char ']') then
    .error .unbalancedBrackets
  else if authority.any disguisedSigns.contains then .error (.disguisedSign authority)
  else .ok ()

/-- What follows the last at sign. -/
def afterUser (authority : Text) : Text :=
  (authority.reverse.takeWhile (· ≠ .char '@')).reverse

/-- The host of an authority, and the word after its colon. -/
def hostAndNumber (authority : Text) : Text × Text :=
  let address := afterUser authority
  let bracketed := (address.dropWhile (· ≠ .char '[')).drop 1
  if address.contains (.char '[') then
    let after := (bracketed.dropWhile (· ≠ .char ']')).drop 1
    (bracketed.takeWhile (· ≠ .char ']'), (after.dropWhile (· ≠ .char ':')).drop 1)
  else
    (address.takeWhile (· ≠ .char ':'), (address.dropWhile (· ≠ .char ':')).drop 1)

def maxLabelLength : Nat := 63

/-- The parts of a host between dots are not empty, but for the last one, and not too long. -/
def isHost (host : Text) : Bool :=
  let labels := Text.splitOn (.char '.') host
  labels.dropLast.all (!·.isEmpty) && labels.all (·.length ≤ maxLabelLength)

/-- Checks that an authority leads somewhere. -/
def checkAddress (authority : Text) : Except AuthorityError Unit :=
  let (host, word) := hostAndNumber authority
  if !isHost host then .error .badLabel
  else if !word.all CodePoint.isAsciiDigit then .error (.notNumber word)
  else if 65535 < Text.decimalValue word then .error .outOfRange
  else .ok ()

end StyleLift.Http
