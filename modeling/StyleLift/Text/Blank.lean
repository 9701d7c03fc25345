import StyleLift.Text.CodePoint

/-! # Blanks

The blank code points are the white space of Unicode together with the four information
separators. Trimming and splitting into words go by them.
-/
namespace StyleLift

def CodePoint.isBlank (c : CodePoint) : Bool :=
  let n := c.val
  (0x09 ≤ n && n ≤ 0x0D) || (0x1C ≤ n && n ≤ 0x20) || n == 0x85 || n == 0xA0 || n == 0x1680 ||
    (0x2000 ≤ n && n ≤ 0x200A) || n == 0x2028 || n == 0x2029 || n == 0x202F || n == 0x205F ||
    n == 0x3000

namespace Text

def trimStart (s : Text) : Text := s.dropWhile CodePoint.isBlank

def trimEnd (s : Text) : Text := (s.reverse.dropWhile CodePoint.isBlank).reverse

def trim (s : Text) : Text := trimEnd (trimStart s)

/-- The maximal runs without a blank. -/
def words (s : Text) : List Text :=
  (List.splitOnP CodePoint.isBlank s).filter fun word => !word.isEmpty

end Text
end StyleLift
