import StyleLift.Text.Blank

/-! # Start tags

A start tag is read from the text after its opening angle bracket. An attribute may start only
after a blank, a slash or a quote; `opens` says whether one of them stands before a place.
-/
namespace StyleLift.Markup

/-- A tag's name and its attributes with their values as written, in source order. -/
structure StartTag where
  name : Text
  attributes : List (Text × Text)
  selfClosing : Bool
deriving DecidableEq, Inhabited

/-- How a start tag ends. A `broken` one is text; an `incomplete` one may be text or not. -/
inductive TagReading
  | complete (tag : StartTag) (rest : Text)
  | broken (tag : StartTag) (rest : Text)
  | incomplete

def isTagNamePart (c : CodePoint) : Bool :=
  !(c == .char '\t' || c == .char '\n' || c == .char '\r' || c == .char '\x0c' || c == .char ' ' ||
    c == .char '/' || c == .char '>' || c == .char '\x00')

def isSlash (c : CodePoint) : Bool := c == .char '/'
def isQuote (c : CodePoint) : Bool := c == .char '"' || c == .char '\''

/-- Whether a text starts with a blank, or a slash that no closing bracket follows. -/
def startsGap : Text → Bool
  | [] => false
  | c :: rest => c.isBlank || (isSlash c && !Text.startsWith rest ">")

def skipGaps : Text → Text
  | [] => []
  | c :: rest => if startsGap (c :: rest) then skipGaps rest else c :: rest

def isBarePart (c : CodePoint) : Bool := c != .char '>' && !c.isBlank

/-- A value as written, whether it opens an attribute, and the rest. -/
abbrev ValueReading := Text × Bool × Text

def bareValue (s : Text) : ValueReading := (s.takeWhile isBarePart, false, s.dropWhile isBarePart)

/-- A value after equals signs. A quote that is never closed starts no value: it leaves an empty
value before it where a blank stands, or else a bare one from the last of several signs on. -/
def takeValue (signs : Nat) (s : Text) : Option ValueReading :=
  match s.dropWhile CodePoint.isBlank with
  | [] => some (bareValue [])
  | q :: body =>
    if !isQuote q then some (bareValue (q :: body))
    else if body.contains q then
      some (body.takeWhile (· != q), true, (body.dropWhile (· != q)).drop 1)
    else if s.head?.any CodePoint.isBlank then some ([], true, q :: body)
    else if 2 ≤ signs then
      let (value, opens, rest) := bareValue (q :: body)
      some (.char '=' :: value, opens, rest)
    else none

def isEquals (c : CodePoint) : Bool := c == .char '='

/-- Equals signs, blanks around them, and a value. -/
def takeAssignment (s : Text) : Option ValueReading :=
  let start := s.dropWhile CodePoint.isBlank
  let signs := start.takeWhile isEquals
  if signs.isEmpty then none else takeValue signs.length (start.dropWhile isEquals)

def isAttributeStart (c : CodePoint) : Bool := !(c.isBlank || isSlash c || c == .char '>')

def isAttributePart (c : CodePoint) : Bool := isAttributeStart c && !isEquals c

/-- Whether an attribute may start after a text; `before` stands for an empty one. -/
def opensAfter (before : Bool) (s : Text) : Bool :=
  match s.getLast? with
  | some c => isQuote c || isSlash c || c.isBlank
  | none => before

/-- An attribute at the start of a text, and what is left after the gaps behind it. -/
def takeAttribute (opens : Bool) : Text → Option ((Text × Text) × Bool × Text)
  | [] => none
  | c :: rest =>
    if opens && isAttributeStart c then
      let name := c :: rest.takeWhile isAttributePart
      let after := rest.dropWhile isAttributePart
      let (value, opens, after) := (takeAssignment after).getD ([], opensAfter false name, after)
      some ((name, value), opens || startsGap after, skipGaps after)
    else none

theorem skipGaps_length (s : Text) : (skipGaps s).length ≤ s.length := by
  fun_induction skipGaps s <;> simp
  omega

theorem takeValue_length {signs : Nat} {s : Text} {v : ValueReading}
    (h : takeValue signs s = some v) : v.2.2.length ≤ s.length := by
  have hs := Text.dropWhile_length CodePoint.isBlank s
  unfold takeValue at h
  split at h
  · cases h; simp [bareValue]
  · next q body e =>
    rw [e] at hs
    have hb := Text.dropWhile_length isBarePart (q :: body)
    have hq := Text.dropWhile_length (· != q) body
    simp only [List.length_cons] at hs hb
    split at h
    · cases h; exact Nat.le_trans hb hs
    split at h
    · cases h; simp; omega
    split at h
    · cases h; simpa using hs
    split at h
    · cases h; exact Nat.le_trans hb hs
    · cases h

theorem takeAssignment_length {s : Text} {v : ValueReading} (h : takeAssignment s = some v) :
    v.2.2.length ≤ s.length := by
  simp only [takeAssignment, Option.ite_none_left_eq_some] at h
  exact Nat.le_trans (takeValue_length h.2)
    (Nat.le_trans (Text.dropWhile_length _ _) (Text.dropWhile_length _ _))

theorem takeAttribute_lt {opens next : Bool} {s rest : Text} {a : Text × Text}
    (h : takeAttribute opens s = some (a, next, rest)) : rest.length < s.length := by
  cases s with
  | nil => cases h
  | cons c tail =>
    simp only [takeAttribute, Option.ite_none_right_eq_some] at h
    obtain ⟨-, h⟩ := h
    cases h
    have hd := Text.dropWhile_length isAttributePart tail
    refine Nat.lt_succ_of_le (Nat.le_trans (skipGaps_length _) (Nat.le_trans ?_ hd))
    cases e : takeAssignment (tail.dropWhile isAttributePart) with
    | none => simp
    | some v => exact takeAssignment_length e

/-- The attributes at the start of a text, and the rest. -/
def takeAttributes (opens : Bool) (s : Text) : List (Text × Text) × Text :=
  match _h : takeAttribute opens s with
  | none => ([], s)
  | some (a, opens, rest) =>
    let found := takeAttributes opens rest
    (a :: found.1, found.2)
termination_by s.length
decreasing_by exact takeAttribute_lt _h

theorem takeAttributes_length (opens : Bool) (s : Text) :
    (takeAttributes opens s).2.length ≤ s.length := by
  fun_induction takeAttributes opens s with
  | case1 => simp
  | case2 opens s a next rest h _ ih =>
    exact Nat.le_of_lt (Nat.lt_of_le_of_lt ih (takeAttribute_lt h))

/-- Reads a start tag after its angle bracket. -/
def readStartTag (s : Text) : TagReading :=
  let name := s.takeWhile isTagNamePart
  let afterName := s.dropWhile isTagNamePart
  let gap := afterName.takeWhile fun c => c.isBlank || isSlash c
  let start := afterName.dropWhile fun c => c.isBlank || isSlash c
  let found := takeAttributes (opensAfter (opensAfter false name) gap) start
  let tag (selfClosing : Bool) : StartTag := ⟨name, found.1, selfClosing⟩
  match found.2.dropWhile CodePoint.isBlank with
  | [] => .incomplete
  | c :: after =>
    if c = .char '>' then
      .complete (tag (found.1.isEmpty && gap.getLast?.any isSlash)) after
    else if isSlash c && Text.startsWith after ">" then .complete (tag true) (after.drop 1)
    else if c.isAsciiLetter || isEquals c || isSlash c then .incomplete
    else .broken (tag false) (c :: after)

def TagReading.restLength : TagReading → Nat
  | .complete _ rest | .broken _ rest => rest.length
  | .incomplete => 0

theorem readStartTag_length (s : Text) : (readStartTag s).restLength ≤ s.length := by
  have h1 := Text.dropWhile_length isTagNamePart s
  have h2 := Text.dropWhile_length (fun c => c.isBlank || isSlash c) (s.dropWhile isTagNamePart)
  unfold readStartTag
  dsimp only
  generalize opensAfter _ _ = opens
  have h3 := takeAttributes_length opens
    ((s.dropWhile isTagNamePart).dropWhile fun c => c.isBlank || isSlash c)
  split
  · simp [TagReading.restLength]
  · next c after e =>
    have h4 := e ▸ Text.dropWhile_length CodePoint.isBlank _
    simp only [List.length_cons] at h4
    split
    · simp only [TagReading.restLength]; omega
    split
    · simp only [TagReading.restLength, List.length_drop]; omega
    split
    · simp [TagReading.restLength]
    · simp only [TagReading.restLength, List.length_cons]; omega

end StyleLift.Markup
