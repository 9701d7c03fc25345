/-! # Code points and text

An escape in a stylesheet or in a JSON string may name one half of a surrogate pair, so a code
point is a Unicode scalar value or a surrogate standing alone. Every text of the library is a list
of code points.
-/
namespace StyleLift

inductive CodePoint
  | char (c : Char)
  | surrogate (low : Fin 0x800)
deriving DecidableEq, Inhabited

abbrev Text := List CodePoint

namespace CodePoint

instance : Coe Char CodePoint := ⟨.char⟩

def val : CodePoint → Nat
  | .char c => c.toNat
  | .surrogate low => 0xD800 + low.val

def ofNat? (n : Nat) : Option CodePoint :=
  if h : n.isValidChar then some (.char (Char.ofNatAux n h))
  else if h : 0xD800 ≤ n ∧ n < 0xE000 then some (.surrogate ⟨n - 0xD800, by omega⟩)
  else none

def replacement : CodePoint := .char '\uFFFD'

/-- The code point of a number, or the replacement character where there is none. -/
def ofNat (n : Nat) : CodePoint := (ofNat? n).getD replacement

def isAsciiLetter (c : CodePoint) : Bool :=
  (0x41 ≤ c.val && c.val ≤ 0x5A) || (0x61 ≤ c.val && c.val ≤ 0x7A)

def isAsciiDigit (c : CodePoint) : Bool := 0x30 ≤ c.val && c.val ≤ 0x39

/-- The value of an ASCII hexadecimal digit. -/
def hexDigit? (c : CodePoint) : Option Nat :=
  let n := c.val
  if 0x30 ≤ n && n ≤ 0x39 then some (n - 0x30)
  else if 0x41 ≤ n && n ≤ 0x46 then some (n - 0x37)
  else if 0x61 ≤ n && n ≤ 0x66 then some (n - 0x57)
  else none

def isHexDigit (c : CodePoint) : Bool := c.hexDigit?.isSome

/-- ASCII letters lose their capital form; all else stays. -/
def asciiLower : CodePoint → CodePoint
  | .char c => .char (if 'A' ≤ c ∧ c ≤ 'Z' then Char.ofNat (c.toNat + 32) else c)
  | .surrogate low => .surrogate low

end CodePoint

namespace Text

def ofString (s : String) : Text := s.toList.map .char

instance : Coe String Text := ⟨ofString⟩

def ofNat (n : Nat) : Text := (Nat.toDigits 10 n).map .char

def ofInt : Int → Text
  | .ofNat n => ofNat n
  | .negSucc n => .char '-' :: ofNat (n + 1)

def asciiLower (s : Text) : Text := s.map CodePoint.asciiLower

/-- What is left of `s` after `head`, if `s` starts with it. -/
def dropPrefix? : Text → Text → Option Text
  | [], s => some s
  | _ :: _, [] => none
  | a :: head, c :: s => if a = c then dropPrefix? head s else none

theorem dropPrefix?_eq_some_iff {head s rest : Text} :
    dropPrefix? head s = some rest ↔ s = head ++ rest := by
  fun_induction dropPrefix? head s with
  | case1 => simp [eq_comm]
  | case2 => simp
  | case3 a head s ih => simp [ih]
  | case4 a head c s h => simp [Ne.symm h]

theorem dropWhile_length (p : CodePoint → Bool) (s : Text) :
    (s.dropWhile p).length ≤ s.length := (List.dropWhile_suffix p).length_le

def startsWith (s head : Text) : Bool := head.isPrefixOf s

/-- Whether `part` occurs anywhere in `s`. -/
def occursIn (part : Text) : Text → Bool
  | [] => part.isEmpty
  | c :: rest => part.isPrefixOf (c :: rest) || occursIn part rest

def splitOn (c : CodePoint) (s : Text) : List Text := List.splitOnP (· == c) s

def joinWith (glue : Text) (parts : List Text) : Text := List.intercalate glue parts

/-- The order of texts by code point, a proper start before what extends it. -/
def le : Text → Text → Bool
  | [], _ => true
  | _ :: _, [] => false
  | c :: s, d :: t => c.val < d.val || (c.val == d.val && le s t)

def sorted (texts : List Text) : List Text := texts.mergeSort le

/-- The value of a run of hexadecimal digits; other code points count as zero. -/
def hexValue (digits : Text) : Nat :=
  digits.foldl (fun n c => n * 16 + c.hexDigit?.getD 0) 0

def upperHexDigits (n : Nat) : Text := (Nat.toDigits 16 n).map fun c => .char c.toUpper

/-- Lowercase hexadecimal digits, at least `width` of them. -/
def paddedHex (width n : Nat) : Text :=
  let digits := Nat.toDigits 16 n
  (List.replicate (width - digits.length) '0' ++ digits).map .char

end Text

end StyleLift
