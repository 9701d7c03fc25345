import StyleLift.Markup.Reference
import StyleLift.Markup.StartTag
import StyleLift.Text.FinalSigma
import StyleLift.Text.Quoted

/-! # Tags of a text

The tags of a text in source order. A construct that the end of the text cuts off ends the first
pass over the text; the second pass goes on from there and takes such constructs for text. A numeric
reference that cannot be read ends a pass for good.
-/
namespace StyleLift.Markup

/-- Why a document is rejected: a marked section without a name, or with an unknown one. -/
inductive Rejection
  | missingSectionName (source : Text)
  | unknownSectionName (source : Text)
deriving DecidableEq

inductive DocumentError
  | rejected (reason : Rejection)
  | numeral (e : NumeralError)
deriving DecidableEq

def Rejection.reason : Rejection → Text
  | .missingSectionName source => "expected name token at " ++ source.quoted
  | .unknownSectionName source =>
    Text.ofString "unknown status keyword " ++ source.quoted ++ Text.ofString " in marked section"

def Rejection.message (r : Rejection) : Text :=
  Text.ofString "The markup you provided was rejected by the parser. " ++
    Text.ofString "Trying a different parser or a different encoding may help.\n\n" ++
    Text.ofString "Original exception(s) from parser:\n AssertionError: " ++ r.reason

/-! ## Ends of constructs -/

/-- The text after the first place where `ends` finds an end. -/
def afterFirst? (ends : Text → Option Text) : Text → Option Text
  | [] => none
  | c :: rest => match ends (c :: rest) with
    | some after => some after
    | none => afterFirst? ends rest

/-- A mark, with blanks before it, at the start of a text. -/
def dropMark? (mark : CodePoint) (s : Text) : Option Text :=
  match s.dropWhile CodePoint.isBlank with
  | [] => none
  | c :: rest => if c = mark then some rest else none

def tagEnd? (s : Text) : Option Text := Text.dropPrefix? ">" s

def commentEnd? (s : Text) : Option Text :=
  (Text.dropPrefix? "--" s).bind (dropMark? (.char '>'))

def conditionalEnd? (s : Text) : Option Text :=
  (Text.dropPrefix? "]" s).bind (dropMark? (.char '>'))

def sectionEnd? (s : Text) : Option Text :=
  ((Text.dropPrefix? "]" s).bind (dropMark? (.char ']'))).bind (dropMark? (.char '>'))

/-- The end tag of an element whose content is raw text. -/
def rawEnd? (name s : Text) : Option Text :=
  match Text.dropPrefix? "</" s with
  | none => none
  | some rest =>
    let rest := rest.dropWhile CodePoint.isBlank
    if Text.asciiLower (rest.take name.length) = name then
      dropMark? (.char '>') (rest.drop name.length)
    else none

/-! ## Constructs -/

/-- What stands at an opening angle bracket. -/
inductive Construct
  | skipped (rest : Text)
  | tag (t : StartTag) (rest : Text)
  | brokenTag (t : StartTag) (rest : Text)
  | endTag (name : Text) (rest : Text)
  | incomplete
  | rejected (r : Rejection)

def Construct.restLength : Construct → Nat
  | .skipped rest | .tag _ rest | .brokenTag _ rest | .endTag _ rest => rest.length
  | .incomplete | .rejected _ => 0

/-- Goes on at an end, if there is one. -/
def skipTo (ends : Text → Option Text) (s : Text) : Construct :=
  match afterFirst? ends s with
  | some rest => .skipped rest
  | none => .incomplete

def isSectionNamePart (c : CodePoint) : Bool :=
  c.isAsciiLetter || c.isAsciiDigit || c == .char '-' || c == .char '_' || c == .char '.'

def standardSections : List Text := ["temp", "cdata", "ignore", "include", "rcdata"]
def conditionalSections : List Text := ["if", "else", "endif"]

/-- A marked section after its opening. -/
def markedSection (s : Text) : Construct :=
  match s with
  | [] => .incomplete
  | c :: _ =>
    if !c.isAsciiLetter then
      .rejected (.missingSectionName (Text.ofString "<![" ++ s.take 17))
    else
      let name : Text := s.takeWhile isSectionNamePart
      let rest := s.dropWhile isSectionNamePart
      let blanks := rest.takeWhile CodePoint.isBlank
      if blanks.length = rest.length then .incomplete
      else if standardSections.contains name.asciiLower then skipTo sectionEnd? s
      else if conditionalSections.contains name.asciiLower then skipTo conditionalEnd? s
      else .rejected (.unknownSectionName (name ++ blanks))

def isEndTagNamePart (c : CodePoint) : Bool :=
  c.isAsciiLetter || c.isAsciiDigit || c == .char '-' || c == .char '.' || c == .char ':' ||
    c == .char '_'

/-- The name of an end tag after its slash. A plain one may have blanks around it, and any other
starts right after the slash. -/
def endTagName? (s : Text) : Option Text :=
  let start := s.dropWhile CodePoint.isBlank
  let plain := start.takeWhile isEndTagNamePart
  if start.head?.any CodePoint.isAsciiLetter &&
      (dropMark? (.char '>') (start.dropWhile isEndTagNamePart)).isSome then
    some (Text.lowercase plain)
  else if s.head?.any CodePoint.isAsciiLetter then some (Text.lowercase (s.takeWhile isTagNamePart))
  else none

/-- An end tag after its slash. Without a name it is a comment. -/
def endTag (s : Text) : Construct :=
  match afterFirst? tagEnd? s, endTagName? s with
  | none, _ => .incomplete
  | some rest, some name => .endTag name rest
  | some rest, none => .skipped rest

/-- What stands after an opening angle bracket. -/
def construct (s : Text) : Construct :=
  match s with
  | [] => .skipped []
  | c :: rest =>
    if c.isAsciiLetter then
      match readStartTag s with
      | .complete t rest => .tag t rest
      | .broken t rest => .brokenTag t rest
      | .incomplete => .incomplete
    else if c = .char '/' then endTag rest
    else if c = .char '?' then skipTo tagEnd? rest
    else if c = .char '!' then
      match Text.dropPrefix? "--" rest, Text.dropPrefix? "[" rest with
      | some comment, _ => skipTo commentEnd? comment
      | _, some content => markedSection content
      | _, _ => skipTo tagEnd? rest
    else .skipped s

/-- A tag. The name of an end tag is in lowercase. -/
inductive Tag
  | start (t : StartTag)
  | stop (name : Text)

/-- The names of the elements whose content is raw text. -/
def rawElements : List Text := ["script", "style"]

/-- Goes over the content of an element after its start tag, where that is raw text: the end tag
that the content has, and what is left. -/
def StartTag.readContent (t : StartTag) (s : Text) : List Tag × Text :=
  let name := t.name.asciiLower
  if !t.selfClosing && rawElements.contains name then
    match afterFirst? (rawEnd? name) s with
    | some rest => ([.stop name], rest)
    | none => ([], [])
  else ([], s)

/-- What is left of a text after a start tag, and after its content where that is raw text. -/
def StartTag.skipContent (t : StartTag) (s : Text) : Text := (t.readContent s).2

/-- Where text goes on after an incomplete construct that is taken for text. -/
def recover (s : Text) : Text :=
  match afterFirst? tagEnd? s with
  | some rest => rest
  | none => if s.contains (.char '<') then s.dropWhile (· != .char '<') else s

/-- A numeric reference after its ampersand and number sign: how many digits it has in base ten, and
the rest. It needs a code point after it that is no hexadecimal digit. -/
def numericReference? (s : Text) : Option (Nat × Text) :=
  let decimal := s.takeWhile CodePoint.isAsciiDigit
  let hex := (s.drop 1).dropWhile CodePoint.isHexDigit
  if !decimal.isEmpty then
    match s.dropWhile CodePoint.isAsciiDigit with
    | [] => none
    | c :: rest => if c.isHexDigit then none else some (decimal.length, c :: rest)
  else if (Text.startsWith s "x" || Text.startsWith s "X") &&
      (s.drop 1).head?.any CodePoint.isHexDigit then
    if hex.isEmpty then none else some (0, hex)
  else none

/-! ## Passes -/

theorem dropPrefix?_length {head s rest : Text} (h : Text.dropPrefix? head s = some rest) :
    rest.length ≤ s.length := by
  rw [Text.dropPrefix?_eq_some_iff.1 h]
  simp

/-- A way to end takes nothing back. -/
def Shortens (ends : Text → Option Text) : Prop :=
  ∀ s rest, ends s = some rest → rest.length ≤ s.length

theorem afterFirst?_length {ends : Text → Option Text} (he : Shortens ends) :
    Shortens (afterFirst? ends) := by
  intro s rest h
  induction s with
  | nil => cases h
  | cons c s ih =>
    unfold afterFirst? at h
    split at h
    · next e => cases h; exact he _ _ e
    · exact Nat.le_succ_of_le (ih h)

theorem dropMark?_length (mark : CodePoint) : Shortens (dropMark? mark) := by
  intro s rest h
  have hs := Text.dropWhile_length CodePoint.isBlank s
  unfold dropMark? at h
  split at h
  · cases h
  · next e =>
    rw [e] at hs
    simp only [Option.ite_none_right_eq_some] at h
    obtain ⟨-, h⟩ := h
    cases h
    simp at hs
    omega

theorem Shortens.bind {f g : Text → Option Text} (hf : Shortens f) (hg : Shortens g) :
    Shortens fun s => (f s).bind g := by
  intro s rest h
  obtain ⟨t, h1, h2⟩ := Option.bind_eq_some_iff.1 h
  exact Nat.le_trans (hg _ _ h2) (hf _ _ h1)

theorem dropPrefix?_shortens (head : Text) : Shortens (Text.dropPrefix? head) :=
  fun _ _ h => dropPrefix?_length h

theorem skipTo_length {ends : Text → Option Text} (he : Shortens ends) (s : Text) :
    (skipTo ends s).restLength ≤ s.length := by
  unfold skipTo
  split
  · next h => exact afterFirst?_length he _ _ h
  · simp [Construct.restLength]

theorem commentEnd?_shortens : Shortens commentEnd? :=
  (dropPrefix?_shortens _).bind (dropMark?_length _)

theorem conditionalEnd?_shortens : Shortens conditionalEnd? :=
  (dropPrefix?_shortens _).bind (dropMark?_length _)

theorem sectionEnd?_shortens : Shortens sectionEnd? :=
  ((dropPrefix?_shortens _).bind (dropMark?_length _)).bind (dropMark?_length _)

theorem rawEnd?_shortens (name : Text) : Shortens (rawEnd? name) := by
  intro s rest h
  unfold rawEnd? at h
  split at h
  · cases h
  · next t e =>
    simp only [Option.ite_none_right_eq_some] at h
    have h1 := dropMark?_length _ _ _ h.2
    have h2 := Text.dropWhile_length CodePoint.isBlank t
    have h3 := dropPrefix?_length e
    simp at h1
    omega

theorem markedSection_length (s : Text) : (markedSection s).restLength ≤ s.length := by
  unfold markedSection
  split
  · simp [Construct.restLength]
  · split
    · simp [Construct.restLength]
    · dsimp only
      split
      · simp [Construct.restLength]
      split
      · exact skipTo_length sectionEnd?_shortens _
      split
      · exact skipTo_length conditionalEnd?_shortens _
      · simp [Construct.restLength]

theorem endTag_length (s : Text) : (endTag s).restLength ≤ s.length := by
  unfold endTag
  split
  · simp [Construct.restLength]
  · next h _ => exact afterFirst?_length (dropPrefix?_shortens _) _ _ h
  · next h _ => exact afterFirst?_length (dropPrefix?_shortens _) _ _ h

theorem construct_length (s : Text) : (construct s).restLength ≤ s.length := by
  unfold construct
  split
  · simp [Construct.restLength]
  · next c rest =>
    split
    · have h := readStartTag_length (c :: rest)
      split <;> next e => simp_all [TagReading.restLength, Construct.restLength]
    split
    · exact Nat.le_succ_of_le (endTag_length rest)
    split
    · exact Nat.le_succ_of_le (skipTo_length (dropPrefix?_shortens _) rest)
    split
    · split
      · next e =>
        exact Nat.le_trans (skipTo_length commentEnd?_shortens _)
          (Nat.le_succ_of_le (dropPrefix?_length e))
      · next e _ =>
        exact Nat.le_trans (markedSection_length _) (Nat.le_succ_of_le (dropPrefix?_length e))
      · exact Nat.le_succ_of_le (skipTo_length (dropPrefix?_shortens _) rest)
    · simp [Construct.restLength]

theorem skipContent_length (t : StartTag) (s : Text) : (t.skipContent s).length ≤ s.length := by
  unfold StartTag.skipContent StartTag.readContent
  dsimp only
  split
  · split
    · next e => exact afterFirst?_length (rawEnd?_shortens _) _ _ e
    · simp
  · simp

theorem recover_length (s : Text) : (recover s).length ≤ s.length := by
  unfold recover
  split
  · next e => exact afterFirst?_length (dropPrefix?_shortens _) _ _ e
  · split
    · exact Text.dropWhile_length _ s
    · simp

theorem numericReference?_length {s rest : Text} {n : Nat}
    (h : numericReference? s = some (n, rest)) : rest.length ≤ s.length := by
  have h1 := Text.dropWhile_length CodePoint.isAsciiDigit s
  have h2 := Text.dropWhile_length CodePoint.isHexDigit (s.drop 1)
  unfold numericReference? at h
  dsimp only at h
  split at h
  · split at h
    · cases h
    · next e =>
      simp only [Option.ite_none_left_eq_some] at h
      obtain ⟨-, h⟩ := h
      cases h
      exact e ▸ h1
  · split at h
    · simp only [Option.ite_none_left_eq_some] at h
      obtain ⟨-, h⟩ := h
      cases h
      simp at h2 ⊢
      omega
    · cases h

/-- Decodes the values of a tag's attributes. -/
def decodeAttributes : List (Text × Text) → Except NumeralError (List (Text × Text))
  | [] => .ok []
  | (name, value) :: rest => do
    let value ← decodeReferences value
    return (name, value) :: (← decodeAttributes rest)

def StartTag.decoded (t : StartTag) : Except DocumentError StartTag :=
  match decodeAttributes t.attributes with
  | .ok attributes => .ok { t with attributes }
  | .error e => .error (.numeral e)

def checkReference (digits : Nat) : Except DocumentError Unit :=
  match Numeral.checkDigits digits with
  | .ok () => .ok ()
  | .error e => .error (.numeral e)

/-- One pass over a text: its tags, and the rest from the place where the pass ends early. In the
`final` pass nothing is incomplete. -/
def pass (final : Bool) (s : Text) : Except DocumentError (List Tag × Text) :=
  match s with
  | [] => .ok ([], [])
  | c :: rest =>
    if c = .char '<' then
      match _h : construct rest with
      | .skipped after => pass final after
      | .tag tag after => do
        let t ← tag.decoded
        let (others, left) ← pass final (tag.skipContent after)
        return (.start t :: (tag.readContent after).1 ++ others, left)
      | .brokenTag t after => do
        let _ ← t.decoded
        pass final after
      | .endTag name after => do
        let (others, left) ← pass final after
        return (.stop name :: others, left)
      | .incomplete => if final then pass final (recover rest) else .ok ([], c :: rest)
      | .rejected r => .error (.rejected r)
    else
      match c, rest with
      | .char '&', .char '#' :: after =>
        match _h : numericReference? after with
        | some (digits, after) => do
          checkReference digits
          pass final after
        | none => .ok ([], if after.contains (.char ';') then after else c :: rest)
      | _, rest => pass final rest
termination_by s.length
decreasing_by
  · have h := construct_length rest
    rw [_h] at h
    exact Nat.lt_succ_of_le h
  · have h := construct_length rest
    rw [_h] at h
    exact Nat.lt_succ_of_le (Nat.le_trans (skipContent_length tag after) h)
  · have h := construct_length rest
    rw [_h] at h
    exact Nat.lt_succ_of_le h
  · have h := construct_length rest
    rw [_h] at h
    exact Nat.lt_succ_of_le h
  · have := recover_length rest; simp; omega
  · have := numericReference?_length _h; simp; omega
  · simp

/-- The tags of a text. -/
def tags (html : Text) : Except DocumentError (List Tag) := do
  let (first, rest) ← pass false html
  let (second, _) ← pass true rest
  return first ++ second

end StyleLift.Markup
