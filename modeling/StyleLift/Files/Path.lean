import StyleLift.Text.CodePoint

/-! # Paths

A path in its plain form: no empty and no dot steps, and no slash at its end. A path that starts
with exactly two slashes keeps both.
-/
namespace StyleLift.Path

def slash : CodePoint := .char '/'

/-- What a path starts from: nothing, one slash, or two. -/
def root (path : Text) : Text :=
  match (path.takeWhile (· == slash)).length with
  | 0 => []
  | 2 => [slash, slash]
  | _ => [slash]

/-- The steps of a path from its root. -/
def steps (path : Text) : List Text :=
  (Text.splitOn slash path).filter fun step => !step.isEmpty && step != [.char '.']

def ofSteps (root : Text) (steps : List Text) : Text :=
  if root.isEmpty && steps.isEmpty then [.char '.'] else root ++ Text.joinWith [slash] steps

/-- The plain form of a path. -/
def normalize (path : Text) : Text := ofSteps (root path) (steps path)

/-- The plain form of a path followed by a relative one. -/
def append (path tail : Text) : Text := ofSteps (root path) (steps path ++ steps tail)

def isAbsolute (path : Text) : Bool := path.head? == some slash

end StyleLift.Path
