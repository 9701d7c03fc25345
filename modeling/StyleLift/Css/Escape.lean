import StyleLift.Text.CodePoint

/-! # Names and escapes

Names are runs of name code points and escapes. An escape is a backslash before one to six
hexadecimal digits and one optional space, or before any other code point but a newline.
-/
namespace StyleLift.Css

def isSpace (c : CodePoint) : Bool := c == .char ' ' || c == .char '\n' || c == .char '\t'

def isNameStart (c : CodePoint) : Bool :=
  c.isAsciiLetter || c == .char '_' || 0x80 ≤ c.val

def isNamePart (c : CodePoint) : Bool :=
  isNameStart c || c.isAsciiDigit || c == .char '-'

def dropSpace : Text → Text
  | [] => []
  | c :: rest => if isSpace c then rest else c :: rest

/-- The hexadecimal digits an escape starts with. -/
def escapeDigits (s : Text) : Text := (s.take 6).takeWhile CodePoint.isHexDigit

/-- The code point of an escape whose backslash has been read, and the rest. -/
def takeEscape (s : Text) : CodePoint × Text :=
  match escapeDigits s with
  | [] =>
    match s with
    | [] => (.replacement, [])
    | c :: rest => (c, rest)
  | digits =>
    let n := Text.hexValue digits
    (if n = 0 then .replacement else CodePoint.ofNat n, dropSpace (s.drop digits.length))

theorem dropSpace_length (s : Text) : (dropSpace s).length ≤ s.length := by
  cases s with
  | nil => simp [dropSpace]
  | cons c rest => simp only [dropSpace]; split <;> simp

theorem takeEscape_length (s : Text) : (takeEscape s).2.length ≤ s.length := by
  unfold takeEscape
  split
  · split <;> simp
  · exact Nat.le_trans (dropSpace_length _) (by simp)

/-- Whether a text that follows a backslash completes an escape. -/
def escapes : Text → Bool
  | .char '\n' :: _ => false
  | _ => true

def startsIdent : Text → Bool
  | .char '-' :: .char '\\' :: rest => escapes rest
  | .char '-' :: c :: _ => isNameStart c || c == .char '-'
  | .char '\\' :: rest => escapes rest
  | c :: _ => isNameStart c
  | [] => false

/-- A name at the start of a text, with its escapes decoded, and the rest. -/
def takeName : Text → Text × Text
  | [] => ([], [])
  | c :: rest =>
    if isNamePart c then
      let (name, rest) := takeName rest
      (c :: name, rest)
    else if c = .char '\\' ∧ escapes rest then
      let (name, after) := takeName (takeEscape rest).2
      ((takeEscape rest).1 :: name, after)
    else ([], c :: rest)
termination_by s => s.length
decreasing_by
  · simp
  · exact Nat.lt_succ_of_le (takeEscape_length rest)

theorem takeName_length (s : Text) : (takeName s).2.length ≤ s.length := by
  fun_induction takeName s with
  | case1 => simp
  | case2 c rest _ name after h ih => rw [h] at ih; simp at ih ⊢; omega
  | case3 c rest _ _ name after h ih =>
    rw [h] at ih
    have := takeEscape_length rest
    simp at ih ⊢
    omega
  | case4 => simp

end StyleLift.Css
