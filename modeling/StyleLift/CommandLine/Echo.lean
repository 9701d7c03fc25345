import StyleLift.Text.CodePoint

/-! # Printed lines

What the commands print. Control sequences are for terminals, so they are left out: an escape, an
opening square bracket, parameters, intermediate marks, and a final mark.
-/
namespace StyleLift.CommandLine

def escape : CodePoint := .char '\x1b'

def isParameter (c : CodePoint) : Bool := 0x30 ≤ c.val && c.val ≤ 0x3F

def isIntermediate (c : CodePoint) : Bool := 0x20 ≤ c.val && c.val ≤ 0x2F

def isFinal (c : CodePoint) : Bool := 0x40 ≤ c.val && c.val ≤ 0x7E

/-- What is left of a text after the part of a control sequence that follows the escape. -/
def dropControl? : Text → Option Text
  | .char '[' :: rest =>
    match (rest.dropWhile isParameter).dropWhile isIntermediate with
    | c :: after => if isFinal c then some after else none
    | [] => none
  | _ => none

theorem dropControl?_length {s after : Text} (h : dropControl? s = some after) :
    after.length ≤ s.length := by
  unfold dropControl? at h
  split at h
  · next rest =>
    have h1 := Text.dropWhile_length isParameter rest
    have h2 := Text.dropWhile_length isIntermediate (rest.dropWhile isParameter)
    split at h
    · next c tail hc =>
      split at h
      · cases h
        simp [hc] at h2 ⊢
        omega
      · cases h
    · cases h
  · cases h

/-- A text without its control sequences. -/
def dropControls : Text → Text
  | [] => []
  | c :: rest =>
    if c = escape then
      match _h : dropControl? rest with
      | some after => dropControls after
      | none => c :: dropControls rest
    else c :: dropControls rest
termination_by s => s.length
decreasing_by
  · exact Nat.lt_succ_of_le (dropControl?_length _h)
  all_goals simp

/-- A text as a printed line. -/
def echo (s : Text) : Text := dropControls (s ++ [.char '\n'])

end StyleLift.CommandLine
