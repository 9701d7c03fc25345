import StyleLift.Text.CodePoint

/-! # Class selectors in compiled text

Scanning a text for class selectors: a point, an optional hyphen, a letter or a low line, and then
name code points and escapes. The names are read without their backslashes.
-/
namespace StyleLift.ClassSelector

/-- Marks the selectors that stand for input rules. -/
def placeholder : Text := "temp-selector"

def isStart (c : CodePoint) : Bool := c.isAsciiLetter || c == .char '_'

def isPart (c : CodePoint) : Bool :=
  isStart c || c.isAsciiDigit || c == .char '-' || c == .char ':' || c == .char '/'

/-- The rest of a name after its start, and the rest of the text. -/
def takeParts : Text → Text × Text
  | [] => ([], [])
  | .char '\\' :: c :: rest =>
    if c = .char '\n' then ([], .char '\\' :: c :: rest)
    else
      let (name, after) := takeParts rest
      (c :: name, after)
  | c :: rest =>
    if isPart c then
      let (name, after) := takeParts rest
      (c :: name, after)
    else ([], c :: rest)

/-- A name at the start of a text. -/
def takeName? : Text → Option (Text × Text)
  | .char '-' :: c :: rest =>
    if isStart c then
      let (name, after) := takeParts rest
      some (.char '-' :: c :: name, after)
    else none
  | c :: rest =>
    if isStart c then
      let (name, after) := takeParts rest
      some (c :: name, after)
    else none
  | [] => none

theorem takeParts_length (s : Text) : (takeParts s).2.length ≤ s.length := by
  fun_induction takeParts s with
  | case1 | case2 | case5 => simp
  | case3 c rest _ name after h ih => simp [h] at ih ⊢; omega
  | case4 c rest _ _ name after h ih => simp [h] at ih ⊢; omega

theorem takeName?_length {s name rest : Text} (h : takeName? s = some (name, rest)) :
    rest.length ≤ s.length := by
  unfold takeName? at h
  split at h
  · next c tail =>
    have := takeParts_length tail
    split at h
    · cases h; simp; omega
    · cases h
  · next c tail _ =>
    have := takeParts_length tail
    split at h
    · cases h; simp; omega
    · cases h
  · cases h

/-- The names in a text, in order, repetitions included. -/
def scan : Text → List Text
  | [] => []
  | c :: rest =>
    if c = .char '.' then
      match _h : takeName? rest with
      | some (name, after) => name :: scan after
      | none => scan rest
    else scan rest
termination_by s => s.length
decreasing_by
  · exact Nat.lt_succ_of_le (takeName?_length _h)
  all_goals simp

/-- The class names in a text in order of first use, without placeholders. -/
def names (css : Text) : List Text :=
  ((scan css).filter fun name => !placeholder.occursIn name).eraseDups

end StyleLift.ClassSelector
