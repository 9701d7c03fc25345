import StyleLift.Proofs.Css.Lexing

/-! # Style sheets written from trees

A tree of style rules, at-rules and comments, the text it is written as, and the rules that it
stands for. Parts that hold a text carry what makes it one of theirs, so every tree can be written.
-/
namespace StyleLift.Css.Written

/-! ## Trees -/

/-- ASCII white space. -/
def isGap (c : CodePoint) : Bool := isSpace c || c == .char '\r' || c == .char '\x0c'

structure Gap where
  text : Text
  gap : ∀ c ∈ text, isGap c = true

/-- A gap that parts its neighbours. -/
structure Break extends Gap where
  parts : text ≠ []

def isPlain (c : CodePoint) : Bool :=
  c.isAsciiLetter || c.isAsciiDigit || c == .char '-' || c == .char '_'

/-- ASCII letters, digits, hyphens and low lines, in an order that starts a name. -/
structure Name where
  text : Text
  plain : ∀ c ∈ text, isPlain c = true
  starts : startsIdent text = true

/-- A whole number of pixels. -/
structure Pixels where
  negative : Bool
  digits : Text
  digit : ∀ c ∈ digits, c.isAsciiDigit = true
  some : digits ≠ []
  few : digits.length ≤ Numeral.digitLimit

inductive Word
  | name (n : Name)
  | pixels (p : Pixels)

/-- A declaration: a property, at least one word, and maybe the mark of importance. -/
structure Entry where
  property : Name
  first : Word
  others : List Word
  important : Bool

/-- Each entry is ended by a semicolon, only the last one may do without. -/
structure Body where
  ended : List (Gap × Entry × Gap)
  last : Option (Gap × Entry)
  after : Gap

/-- Class names, each one but the first below the one before it. -/
structure Selector where
  first : Name
  others : List (Break × Name)

structure Condition where
  feature : Name
  value : Word

inductive Term
  | name (n : Name)
  | condition (c : Condition)

/-- An at-rule up to its semicolon or block. A condition may stand right after the keyword. -/
structure Head where
  keyword : Name
  attached : Option Condition
  terms : List (Break × Term)
  after : Gap

structure Comment where
  text : Text
  unclosed : Text.occursIn "*/" text = false

inductive Item
  | comment (before : Gap) (c : Comment)
  | style (before : Gap) (selector : Selector) (gap : Gap) (body : Body)
  | statement (before : Gap) (head : Head)
  | block (before : Gap) (head : Head) (items : List Item) (after : Gap)

structure Sheet where
  items : List Item
  after : Gap

/-! ## Writing -/

/-- Texts with a single space before each one but the first. -/
def spaced (first : Text) (others : List Text) : Text :=
  first ++ others.flatMap fun other => .char ' ' :: other

def Pixels.source (p : Pixels) : Text := signOf p.negative ++ p.digits

def Word.text : Word → Text
  | .name n => n.text
  | .pixels p => p.source ++ [.char 'p',.char 'x']

def Entry.value (e : Entry) : Text := spaced e.first.text (e.others.map Word.text)

/-- What an entry writes after its value. -/
def importance (important : Bool) : Text :=
  if important then .char ' ' :: .char '!' :: Text.ofString "important" else []

def Entry.text (e : Entry) : Text :=
  e.property.text ++ .char ':' :: .char ' ' :: (e.value ++ importance e.important)

def endedText (p : Gap × Entry × Gap) : Text :=
  p.1.text ++ (p.2.1.text ++ (p.2.2.text ++ [.char ';']))

def lastText (p : Gap × Entry) : Text := p.1.text ++ p.2.text

def Body.text (b : Body) : Text :=
  b.ended.flatMap endedText ++ (b.last.elim [] lastText ++ b.after.text)

def Selector.text (s : Selector) : Text :=
  .char '.' :: (s.first.text ++ s.others.flatMap fun p => p.1.text ++ .char '.' :: p.2.text)

def Condition.text (c : Condition) : Text :=
  .char '(' :: (c.feature.text ++ .char ':' :: .char ' ' :: (c.value.text ++ [.char ')']))

def Term.text : Term → Text
  | .name n => n.text
  | .condition c => c.text

def Head.text (h : Head) : Text :=
  .char '@' :: (h.keyword.text ++ (h.attached.elim [] Condition.text ++
    ((h.terms.flatMap fun p => p.1.text ++ p.2.text) ++ h.after.text)))

mutual

def Item.text : Item → Text
  | .comment before c =>
    before.text ++ .char '/' :: .char '*' :: (c.text ++ [.char '*',.char '/'])
  | .style before selector gap body =>
    before.text ++ (selector.text ++ (gap.text ++ .char '\x7b' :: (body.text ++ [.char '\x7d'])))
  | .statement before head => before.text ++ (head.text ++ [.char ';'])
  | .block before head items after =>
    before.text ++ (head.text ++
      .char '\x7b' :: (itemsText items ++ (after.text ++ [.char '\x7d'])))

def itemsText : List Item → Text
  | [] => []
  | i :: rest => i.text ++ itemsText rest

end

def Sheet.text (s : Sheet) : Text := itemsText s.items ++ s.after.text

/-! ## What is meant -/

def Entry.declaration (e : Entry) : Declaration :=
  ⟨propertyName e.property.text,e.value,e.important⟩

def Body.declarations (b : Body) : List Declaration :=
  b.ended.map (fun p => p.2.1.declaration) ++ b.last.toList.map fun p => p.2.declaration

/-- A selector with each of its gaps made one space. -/
def Selector.normal (s : Selector) : Text :=
  spaced (.char '.' :: s.first.text) (s.others.map fun p => .char '.' :: p.2.text)

mutual

/-- The rules of an item: an at-rule has those of its items if it groups rules, else none. -/
def Item.rules : Item → List Rule
  | .comment _ _ | .statement _ _ => []
  | .style _ selector _ body => [⟨selector.normal,body.declarations⟩]
  | .block _ head items _ =>
    if groupingRules.contains head.keyword.text.asciiLower then itemsRules items else []

def itemsRules : List Item → List Rule
  | [] => []
  | i :: rest => i.rules ++ itemsRules rest

end

def Sheet.rules (s : Sheet) : List Rule := itemsRules s.items

end StyleLift.Css.Written
