import StyleLift.Css.Lexer
import StyleLift.Css.Printer
import StyleLift.Css.Rule
import StyleLift.Number.Numeral
import StyleLift.Text.Blank

/-! # Rules of a style sheet

Any text is read as rules in source order. Grouping at-rules contribute the rules inside them and
other at-rules nothing; what cannot be read as a declaration is left out of its rule. A text that
ends inside a rule leaves a remark instead of the rule. Only an integer of too many digits makes
the whole text unreadable.
-/
namespace StyleLift.Css

/-! ## Numbers -/

/-- The number of digits of an integer; none where a point or an exponent stands. -/
def integerDigits? (source : Text) : Option Nat :=
  let digits := (takeSign source).2
  if digits.all CodePoint.isAsciiDigit then some digits.length else none

def Leaf.digitCount : Leaf → Nat
  | .number source | .percentage source | .dimension source _ => (integerDigits? source).getD 0
  | _ => 0

def checkNumbers : List (Text × Lexeme) → Except NumeralError Unit
  | [] => .ok ()
  | (_, .leaf l) :: rest =>
    match Numeral.checkDigits l.digitCount with
    | .ok () => checkNumbers rest
    | .error e => .error e
  | _ :: rest => checkNumbers rest

/-- The tokens of a text. -/
def tokens (css : Text) : Except NumeralError (List Token) :=
  let found := lexemes (preprocess css)
  (checkNumbers found).map fun () => nest found

/-! ## Declarations -/

/-- How far a value has come in ending with an importance mark; `before` is what is kept then. -/
inductive Importance
  | none
  | bang (before : List Token)
  | important (before : List Token)

/-- A value read up to some token: the tokens so far, the last one first. -/
structure ValueState where
  importance : Importance
  read : List Token
  hasContent : Bool
  hasLateBlock : Bool

def Token.isImportant : Token → Bool
  | .leaf _ (.ident name) => name.asciiLower == Text.ofString "important"
  | _ => false

def ValueState.step (s : ValueState) (t : Token) : ValueState :=
  let read := t :: s.read
  let asContent : ValueState :=
    if t.isWhitespace then { s with read }
    else ⟨.none, read, true, s.hasLateBlock || (t.curly?.isSome && s.hasContent)⟩
  match s.importance with
  | .none => if t.isLiteral "!" then { s with read, importance := .bang s.read } else asContent
  | .bang before =>
    if t.isImportant then { s with read, importance := .important before } else asContent
  | .important _ => asContent

def readValue (tokens : List Token) : ValueState :=
  tokens.foldl ValueState.step ⟨.none, [], false, false⟩

/-- A property name: lowercase letters count for capital ones unless it starts with two hyphens. -/
def propertyName (name : Text) : Text :=
  if Text.startsWith name "--" then name else name.asciiLower

/-- The declaration made of a first token and those after it. -/
def declaration? (first : Token) (rest : List Token) : Option Declaration :=
  match first, rest.dropWhile Token.isWhitespace with
  | .leaf _ (.ident name), colon :: value =>
    let state := readValue value
    if !colon.isLiteral ":" || state.hasLateBlock then none
    else
      let (kept, important) := match state.importance with
        | .important before => (before.reverse, true)
        | _ => (state.read.reverse, false)
      match Text.trim (writeTokens kept) with
      | [] => none
      | text => some ⟨propertyName name, text, important⟩
  | _, _ => none

/-- The tokens up to a semicolon, which goes, or through a block in curly brackets. -/
def takeUnit : List Token → List Token × List Token
  | [] => ([], [])
  | t :: rest =>
    if t.isLiteral ";" then ([], rest)
    else if t.curly?.isSome then ([t], rest)
    else
      let (unit, after) := takeUnit rest
      (t :: unit, after)

theorem takeUnit_length (ts : List Token) : (takeUnit ts).2.length ≤ ts.length := by
  fun_induction takeUnit ts with
  | case1 | case3 => simp
  | case2 => simp
  | case4 t rest _ _ unit after h ih => simp [h] at ih ⊢; omega

def Token.isAtKeyword : Token → Bool
  | .leaf _ (.atKeyword _) => true
  | _ => false

/-- The declarations of a rule's content. -/
def declarations : List Token → List Declaration
  | [] => []
  | t :: rest =>
    if t.isWhitespace || t.isLiteral ";" || t.curly?.isSome then declarations rest
    else if t.isAtKeyword then declarations (takeUnit rest).2
    else
      match declaration? t (takeUnit rest).1 with
      | some d => d :: declarations (takeUnit rest).2
      | none => declarations (takeUnit rest).2
termination_by ts => ts.length
decreasing_by
  · simp
  all_goals exact Nat.lt_succ_of_le (takeUnit_length rest)

/-! ## Rules -/

/-- The tokens before a block in curly brackets, its content, and the tokens after it. -/
structure Prelude where
  tokens : List Token
  content : Option (List Token)
  rest : List Token

/-- The prelude at the start of some tokens; a semicolon may end it early. -/
def takePrelude (endsAtSemicolon : Bool) : List Token → Prelude
  | [] => ⟨[], none, []⟩
  | t :: rest =>
    match t.curly? with
    | some content => ⟨[], some content, rest⟩
    | none =>
      if endsAtSemicolon && t.isLiteral ";" then ⟨[], none, rest⟩
      else
        let p := takePrelude endsAtSemicolon rest
        { p with tokens := t :: p.tokens }

theorem takePrelude_rest (stop : Bool) (ts : List Token) :
    sizeOf (takePrelude stop ts).rest ≤ sizeOf ts := by
  induction ts with
  | nil => simp [takePrelude]
  | cons t rest ih =>
    unfold takePrelude
    split
    · simp
    · split
      · simp
      · simp; omega

theorem curly?_lt {t : Token} {content : List Token} (h : t.curly? = some content) :
    sizeOf content < sizeOf t := by
  unfold Token.curly? at h
  split at h
  · cases h; simp
  · cases h

theorem takePrelude_cons_rest (stop : Bool) (t : Token) (ts : List Token) :
    sizeOf (takePrelude stop (t :: ts)).rest ≤ sizeOf ts := by
  have := takePrelude_rest stop ts
  unfold takePrelude
  split
  · simp
  · split <;> simp [this]

theorem takePrelude_content {stop : Bool} {ts content : List Token}
    (h : (takePrelude stop ts).content = some content) : sizeOf content < sizeOf ts := by
  induction ts with
  | nil => simp [takePrelude] at h
  | cons t rest ih =>
    unfold takePrelude at h
    split at h
    · next e => cases h; have := curly?_lt e; simp; omega
    · split at h
      · cases h
      · have := ih h; simp; omega

/-- The at-rules whose content is rules. -/
def groupingRules : List Text := ["media", "supports", "layer", "container", "document"]

/-- A rule, or the mark of the last token of a rule that the text does not finish. -/
inductive Finding
  | rule (r : Rule)
  | unfinished (mark : Text)

/-- A selector: written, with each run of blanks made one space. -/
def selectorText (prelude : List Token) : Text :=
  Text.joinWith [.char ' '] (Text.words (writeTokens prelude))

def skipsAt (outermost : Bool) (t : Token) : Bool :=
  t.isWhitespace || (outermost && (t.isLiteral "<!--" || t.isLiteral "-->"))

/-- The rules among some tokens, in order. -/
def findings (outermost : Bool) : List Token → List Finding
  | [] => []
  | t :: rest =>
    if skipsAt outermost t then findings outermost rest
    else
      match t with
      | .leaf _ (.atKeyword name) =>
        (match h : (takePrelude true rest).content with
          | some content =>
            if groupingRules.contains name.asciiLower then findings false content else []
          | none => []) ++ findings outermost (takePrelude true rest).rest
      | t =>
        let p := takePrelude false (t :: rest)
        match p.content with
        | some content =>
          .rule ⟨selectorText p.tokens, declarations content⟩ ::
            findings outermost (takePrelude false (t :: rest)).rest
        | none => [.unfinished ((t :: rest).getLast (by simp)).mark]
termination_by ts => sizeOf ts
decreasing_by
  · simp only [List.cons.sizeOf_spec]; omega
  · have := takePrelude_content h; simp; omega
  · have := takePrelude_rest true rest; simp; omega
  · have := takePrelude_cons_rest false t rest; simp; omega

/-- A place in a text: line and column, both from one. -/
structure Position where
  line : Nat
  column : Nat

/-- The place after some text. -/
def Position.after (before : Text) : Position :=
  ⟨1 + before.count (.char '\n'), 1 + (before.reverse.takeWhile (· ≠ .char '\n')).length⟩

/-- What a text holds: its rules, and the places where a rule was left unfinished. -/
structure Sheet where
  rules : List Rule
  unfinished : List Position

def Finding.rule? : Finding → Option Rule
  | .rule r => some r
  | .unfinished _ => none

def Finding.mark? : Finding → Option Text
  | .rule _ => none
  | .unfinished mark => some mark

def read (css : Text) : Except NumeralError Sheet := do
  let found := findings true (← tokens css)
  let source := preprocess css
  return ⟨found.filterMap Finding.rule?, (found.filterMap Finding.mark?).map fun mark =>
    .after (source.take (source.length - mark.length))⟩

/-- The remark about an unfinished rule. -/
def Position.remark (p : Position) : Text :=
  Text.ofString "Skipping unparseable CSS at " ++ Text.ofNat p.line ++ Text.ofString ":" ++
    Text.ofNat p.column ++
    Text.ofString ": EOF reached before \x7b\x7d block for a qualified rule."

end StyleLift.Css
