import StyleLift.Css.Escape
import StyleLift.Css.Token

/-! # Lexemes of a style sheet

Each step takes one lexeme, or one comment, off a text that is not empty. A step never gives back
more than it was given (`next_length`), so the steps end.
-/
namespace StyleLift.Css

/-- Zero becomes the replacement character, and every line end becomes a newline. -/
def preprocess : Text → Text
  | [] => []
  | .char '\r' :: .char '\n' :: rest => .char '\n' :: preprocess rest
  | c :: rest =>
    (if c = .char '\x00' then .replacement
      else if c = .char '\r' ∨ c = .char '\x0c' then .char '\n'
      else c) :: preprocess rest

def skipSpace (s : Text) : Text := s.dropWhile isSpace

/-! ## Strings and locations -/

/-- A string up to its quote. The first part is `none` where a newline cuts it off. -/
def takeString (quote : CodePoint) : Text → Option (Text × Bool) × Text
  | [] => (some ([], false), [])
  | c :: rest =>
    if c = quote then (some ([], true), rest)
    else if c = .char '\n' then (none, c :: rest)
    else if c = .char '\\' then
      match rest with
      | [] => (some ([], false), [])
      | .char '\n' :: rest => takeString quote rest
      | d :: rest =>
        let (found, after) := takeString quote (takeEscape (d :: rest)).2
        (found.map fun (value, closed) => ((takeEscape (d :: rest)).1 :: value, closed), after)
    else
      let (found, after) := takeString quote rest
      (found.map fun (value, closed) => (c :: value, closed), after)
termination_by s => s.length
decreasing_by
  · simp only [List.length_cons]; omega
  · have := takeEscape_length (d :: rest)
    simp at this ⊢
    omega
  · simp

/-- Control characters that no bare location may hold. -/
def isNonPrinting (c : CodePoint) : Bool :=
  let n := c.val
  n ≤ 0x08 || n == 0x0B || (0x0E ≤ n && n ≤ 0x1F) || n == 0x7F

/-- What is left after a broken location: all up to the next bracket that is not escaped. -/
def skipBadUrl : Text → Text
  | [] => []
  | .char '\\' :: .char ')' :: rest => skipBadUrl rest
  | .char ')' :: rest => rest
  | _ :: rest => skipBadUrl rest

/-- The end of a location after blanks; `none` where something else follows. -/
def closeUrl (s : Text) : Option Bool × Text :=
  match skipSpace s with
  | [] => (some false, [])
  | .char ')' :: rest => (some true, rest)
  | rest => (none, skipBadUrl rest)

/-- A bare location whose leading blanks have been read. -/
def takeUrl : Text → Option (Text × Bool) × Text
  | [] => (some ([], false), [])
  | c :: rest =>
    if c = .char ')' then (some ([], true), rest)
    else if isSpace c then
      let (closed, after) := closeUrl rest
      (closed.map ([], ·), after)
    else if c = .char '\\' ∧ escapes rest then
      let (found, after) := takeUrl (takeEscape rest).2
      (found.map fun (value, closed) => ((takeEscape rest).1 :: value, closed), after)
    else if c = .char '"' ∨ c = .char '\'' ∨ c = .char '(' ∨ isNonPrinting c then
      (none, skipBadUrl rest)
    else
      let (found, after) := takeUrl rest
      (found.map fun (value, closed) => (c :: value, closed), after)
termination_by s => s.length
decreasing_by
  · exact Nat.lt_succ_of_le (takeEscape_length rest)
  · simp

/-! ## Numbers -/

/-- Digits at the start of a text, and the rest. -/
def takeDigits (s : Text) : Text × Text :=
  (s.takeWhile CodePoint.isAsciiDigit, s.dropWhile CodePoint.isAsciiDigit)

/-- A sign, if there is one, and the rest. -/
def takeSign : Text → Text × Text
  | [] => ([], [])
  | c :: rest => if c = .char '+' ∨ c = .char '-' then ([c], rest) else ([], c :: rest)

/-- An exponent with its letter, if digits follow. -/
def takeExponent : Text → Text × Text
  | [] => ([], [])
  | c :: rest =>
    let (sign, unsigned) := takeSign rest
    let (digits, after) := takeDigits unsigned
    if (c = .char 'e' ∨ c = .char 'E') ∧ digits ≠ [] then (c :: sign ++ digits, after)
    else ([], c :: rest)

/-- A point and digits after it, if both are there. -/
def takeFraction : Text → Text × Text
  | [] => ([], [])
  | c :: rest =>
    let (digits, after) := takeDigits rest
    if c = .char '.' ∧ digits ≠ [] then (c :: digits, after) else ([], c :: rest)

/-- The source of a number at the start of a text, and the rest. -/
def takeNumber? (s : Text) : Option (Text × Text) :=
  let (sign, unsigned) := takeSign s
  let (whole, rest) := takeDigits unsigned
  let (fraction, rest) := takeFraction rest
  let (exponent, after) := takeExponent rest
  if whole = [] ∧ fraction = [] then none
  else some (sign ++ whole ++ fraction ++ exponent, after)

/-! ## Ranges of code points -/

/-- Up to `limit` hexadecimal digits. -/
def takeHex (limit : Nat) (s : Text) : Text := (s.take limit).takeWhile CodePoint.isHexDigit

/-- A range whose first two code points have been read. -/
def takeUnicodeRange (s : Text) : (Nat × Nat) × Text :=
  let start := takeHex 6 s
  let rest := s.drop start.length
  let wild := (rest.take (6 - start.length)).takeWhile (· == .char '?')
  if !wild.isEmpty then
    ((Text.hexValue (start ++ List.replicate wild.length (.char '0')),
      Text.hexValue (start ++ List.replicate wild.length (.char 'F'))),
      rest.drop wild.length)
  else
    match rest with
    | .char '-' :: tail =>
      let stop := takeHex 6 tail
      if stop.isEmpty then ((Text.hexValue start, Text.hexValue start), rest)
      else ((Text.hexValue start, Text.hexValue stop), tail.drop stop.length)
    | _ => ((Text.hexValue start, Text.hexValue start), rest)

/-! ## One step -/

/-- What is left after a comment whose opening has been read. -/
def skipComment : Text → Text
  | [] => []
  | .char '*' :: .char '/' :: rest => rest
  | _ :: rest => skipComment rest

/-- One step: a lexeme, or nothing for a comment, and the rest of the text. -/
abbrev Step := Option Lexeme × Text

/-- A name, or what a parenthesis after it makes of it. -/
def nextIdent (s : Text) : Step :=
  let (name, rest) := takeName s
  match rest with
  | .char '(' :: inner =>
    if name.asciiLower = ("url" : Text) then
      match skipSpace inner with
      | .char '"' :: _ | .char '\'' :: _ => (some (.opening (.function name)), inner)
      | location =>
        match takeUrl location with
        | (some (value, closed), after) => (some (.leaf (.url value closed)), after)
        | (none, after) => (some (.leaf .badUrl), after)
    else (some (.opening (.function name)), inner)
  | _ => (some (.leaf (.ident name)), rest)

/-- What a number and the text after it make. -/
def nextNumber (source rest : Text) : Step :=
  if startsIdent rest then
    let (unit, after) := takeName rest
    (some (.leaf (.dimension source unit)), after)
  else
    match rest with
    | .char '%' :: after => (some (.leaf (.percentage source)), after)
    | _ => (some (.leaf (.number source)), rest)

def literal (source rest : Text) : Step := (some (.leaf (.literal source)), rest)

/-- Marks with an equals sign after them are one literal. -/
def takesEquals (c : CodePoint) : Bool :=
  c == .char '~' || c == .char '|' || c == .char '^' || c == .char '$' || c == .char '*'

def bracket? (c : CodePoint) : Option Lexeme :=
  if c = .char '\x7b' then some (.opening (.bracket .curly))
  else if c = .char '[' then some (.opening (.bracket .square))
  else if c = .char '(' then some (.opening (.bracket .paren))
  else if c = .char '\x7d' then some (.closing .curly)
  else if c = .char ']' then some (.closing .square)
  else if c = .char ')' then some (.closing .paren)
  else none

/-- The step at marks and brackets. -/
def nextMark (c : CodePoint) (rest : Text) : Step :=
  match bracket? c with
  | some l => (some l, rest)
  | none =>
    match c, rest with
    | .char '/', .char '*' :: rest => (none, skipComment rest)
    | .char '<', .char '!' :: .char '-' :: .char '-' :: rest => literal "<!--" rest
    | .char '|', .char '|' :: rest => literal "||" rest
    | c, .char '=' :: rest =>
      if takesEquals c then literal [c, .char '='] rest else literal [c] (.char '=' :: rest)
    | c, rest => literal [c] rest

/-- Whether the text after a letter U makes a range of code points with it. -/
def startsUnicodeRange (c : CodePoint) : Text → Bool
  | .char '+' :: d :: _ =>
    (c == .char 'u' || c == .char 'U') && (d.isHexDigit || d == .char '?')
  | _ => false

def startsName : Text → Bool
  | .char '\\' :: rest => escapes rest
  | c :: _ => isNamePart c
  | [] => false

/-- The step at a code point and the text after it. -/
def next (c : CodePoint) (rest : Text) : Step :=
  if isSpace c then
    (some (.leaf (.whitespace (c :: rest.takeWhile isSpace))), skipSpace rest)
  else if startsUnicodeRange c rest then
    let ((first, last), after) := takeUnicodeRange (rest.drop 1)
    (some (.leaf (.unicodeRange first last)), after)
  else if c = .char '-' ∧ Text.startsWith rest "->" then literal "-->" (rest.drop 2)
  else if startsIdent (c :: rest) then nextIdent (c :: rest)
  else
    match takeNumber? (c :: rest) with
    | some (source, after) => nextNumber source after
    | none =>
      if c = .char '@' then
        if startsIdent rest then
          let (name, after) := takeName rest
          (some (.leaf (.atKeyword name)), after)
        else literal [c] rest
      else if c = .char '#' then
        if startsName rest then
          let (name, after) := takeName rest
          (some (.leaf (.hash name (startsIdent rest))), after)
        else literal [c] rest
      else if c = .char '"' ∨ c = .char '\'' then
        match takeString c rest with
        | (some (value, closed), after) => (some (.leaf (.string value closed)), after)
        | (none, after) => (some (.leaf .badString), after)
      else nextMark c rest

/-! ## Steps shorten the text -/

theorem skipSpace_length (s : Text) : (skipSpace s).length ≤ s.length := Text.dropWhile_length _ s

theorem takeString_length (quote : CodePoint) (s : Text) :
    (takeString quote s).2.length ≤ s.length := by
  fun_induction takeString quote s with
  | case1 | case2 | case3 | case4 => simp
  | case5 _ _ _ ih => simp; omega
  | case6 d rest _ found after h _ _ ih =>
    have := takeEscape_length (d :: rest)
    simp [h] at ih this ⊢
    omega
  | case7 c rest _ _ _ found after h ih => simp [h] at ih ⊢; omega

theorem skipBadUrl_length (s : Text) : (skipBadUrl s).length ≤ s.length := by
  fun_induction skipBadUrl s <;> simp <;> omega

theorem closeUrl_length (s : Text) : (closeUrl s).2.length ≤ s.length := by
  have h := skipSpace_length s
  unfold closeUrl
  split
  · simp
  · next rest e => rw [e] at h; simp at h ⊢; omega
  · exact Nat.le_trans (skipBadUrl_length _) h

theorem takeUrl_length (s : Text) : (takeUrl s).2.length ≤ s.length := by
  fun_induction takeUrl s with
  | case1 | case2 => simp
  | case3 c rest _ _ closed after h =>
    have := closeUrl_length rest
    simp [h] at this ⊢
    omega
  | case4 c rest _ _ _ found after h ih =>
    have := takeEscape_length rest
    simp [h] at ih ⊢
    omega
  | case5 c rest => have := skipBadUrl_length rest; simp; omega
  | case6 c rest _ _ _ _ found after h ih => simp [h] at ih ⊢; omega

theorem takeDigits_length (s : Text) : (takeDigits s).2.length ≤ s.length :=
  Text.dropWhile_length _ s

theorem takeDigits_lt {s : Text} (h : (takeDigits s).1 ≠ []) :
    (takeDigits s).2.length < s.length := by
  have e := congrArg List.length (s.takeWhile_append_dropWhile (p := CodePoint.isAsciiDigit))
  have := List.length_pos_iff.2 h
  simp only [takeDigits, List.length_append] at *
  omega

theorem takeSign_length (s : Text) : (takeSign s).2.length ≤ s.length := by
  cases s with
  | nil => simp [takeSign]
  | cons c rest => simp only [takeSign]; split <;> simp

theorem takeExponent_length (s : Text) : (takeExponent s).2.length ≤ s.length := by
  cases s with
  | nil => simp [takeExponent]
  | cons c rest =>
    have h := Nat.le_trans (takeDigits_length (takeSign rest).2) (takeSign_length rest)
    simp only [takeExponent]
    split
    · simp; omega
    · simp

theorem takeFraction_length (s : Text) : (takeFraction s).2.length ≤ s.length := by
  cases s with
  | nil => simp [takeFraction]
  | cons c rest =>
    have h := takeDigits_length rest
    simp only [takeFraction]
    split
    · simp; omega
    · simp

theorem takeFraction_lt {s : Text} (h : (takeFraction s).1 ≠ []) :
    (takeFraction s).2.length < s.length := by
  cases s with
  | nil => simp [takeFraction] at h
  | cons c rest =>
    have := takeDigits_length rest
    simp only [takeFraction] at h ⊢
    split
    · simp; omega
    · next e => simp [e] at h

theorem takeNumber?_lt {s source after : Text} (h : takeNumber? s = some (source, after)) :
    after.length < s.length := by
  simp only [takeNumber?, Option.ite_none_left_eq_some] at h
  obtain ⟨hne, h⟩ := h
  cases h
  have h1 := takeSign_length s
  have h2 := takeDigits_length (takeSign s).2
  have h3 := takeFraction_length (takeDigits (takeSign s).2).2
  have h4 := takeExponent_length (takeFraction (takeDigits (takeSign s).2).2).2
  by_cases hw : (takeDigits (takeSign s).2).1 = []
  · have := takeFraction_lt fun hf => hne ⟨hw, hf⟩
    omega
  · have := takeDigits_lt hw
    omega

theorem takeUnicodeRange_length (s : Text) : (takeUnicodeRange s).2.length ≤ s.length := by
  unfold takeUnicodeRange
  dsimp only
  split
  · simp
  · split
    · next tail e =>
      have := congrArg List.length e
      split
      · simp
      · simp at this ⊢; omega
    · simp

theorem skipComment_length (s : Text) : (skipComment s).length ≤ s.length := by
  fun_induction skipComment s <;> simp <;> omega

theorem startsIdent_cons {c : CodePoint} {rest : Text} (h : startsIdent (c :: rest) = true) :
    isNamePart c = true ∨ (c = .char '\\' ∧ escapes rest = true) := by
  unfold startsIdent at h
  split at h
  · next e => cases e; left; decide
  · next e => cases e; left; decide
  · next e => cases e; exact .inr ⟨rfl, h⟩
  · next e => cases e; left; simp [isNamePart, h]
  · next e => cases e

theorem takeName_lt {c : CodePoint} {rest : Text} (h : startsIdent (c :: rest) = true) :
    (takeName (c :: rest)).2.length ≤ rest.length := by
  rw [takeName]
  rcases startsIdent_cons h with hc | ⟨rfl, he⟩
  · simpa [hc] using takeName_length rest
  · have hn : isNamePart (.char '\\') = false := by decide
    simp only [hn, he, Bool.false_eq_true, ↓reduceIte, and_self]
    exact Nat.le_trans (takeName_length _) (takeEscape_length rest)

theorem nextIdent_length (s : Text) : (nextIdent s).2.length ≤ (takeName s).2.length := by
  unfold nextIdent
  dsimp only
  split
  · next inner e =>
    have hs := skipSpace_length inner
    rw [e]
    split
    · split
      · simp
      · simp
      · have hu := takeUrl_length (skipSpace inner)
        split <;> next hf => simp [hf] at hu ⊢; omega
    · simp
  · simp

theorem nextNumber_length (source rest : Text) :
    (nextNumber source rest).2.length ≤ rest.length := by
  unfold nextNumber
  split
  · exact takeName_length rest
  · split <;> simp

theorem nextMark_length (c : CodePoint) (rest : Text) :
    (nextMark c rest).2.length ≤ rest.length := by
  unfold nextMark literal
  split
  · simp
  · split
    · next tail _ => have := skipComment_length tail; simp; omega
    · simp; omega
    · simp
    · split <;> simp
    · simp

/-- A step takes at least the first code point. -/
theorem next_length (c : CodePoint) (rest : Text) : (next c rest).2.length ≤ rest.length := by
  unfold next
  split
  · exact skipSpace_length rest
  split
  · exact Nat.le_trans (takeUnicodeRange_length _) (by simp)
  split
  · simp [literal]
  split
  · next h => exact Nat.le_trans (nextIdent_length _) (takeName_lt h)
  split
  · next h =>
    have := takeNumber?_lt h
    exact Nat.le_trans (nextNumber_length _ _) (by simp at this; omega)
  split
  · split
    · exact takeName_length rest
    · simp [literal]
  split
  · split
    · exact takeName_length rest
    · simp [literal]
  split
  · have h := takeString_length c rest
    split <;> next e => simpa [e] using h
  · exact nextMark_length c rest

/-- The lexemes of a text, each with the text from its start on. -/
def lexemes : Text → List (Text × Lexeme)
  | [] => []
  | c :: rest =>
    match (next c rest).1 with
    | some l => (c :: rest, l) :: lexemes (next c rest).2
    | none => lexemes (next c rest).2
termination_by s => s.length
decreasing_by
  all_goals exact Nat.lt_succ_of_le (next_length c rest)

end StyleLift.Css
