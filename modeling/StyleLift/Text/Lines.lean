import StyleLift.Text.CodePoint

/-! # Lines

Two notions of a line end: any of the Unicode line boundaries, used to cut a message down to its
first line, and the three spellings of a newline in a text file.
-/
namespace StyleLift

def CodePoint.isLineBoundary (c : CodePoint) : Bool :=
  let n := c.val
  (0x0A ≤ n && n ≤ 0x0D) || (0x1C ≤ n && n ≤ 0x1E) || n == 0x85 || n == 0x2028 || n == 0x2029

namespace Text

def firstLine (s : Text) : Text := s.takeWhile fun c => !c.isLineBoundary

/-- A carriage return, alone or before a newline, reads as one newline. -/
def normalizeNewlines : Text → Text
  | [] => []
  | .char '\r' :: .char '\n' :: rest => .char '\n' :: normalizeNewlines rest
  | .char '\r' :: rest => .char '\n' :: normalizeNewlines rest
  | c :: rest => c :: normalizeNewlines rest

end Text
end StyleLift
