import StyleLift.Files.Path
import StyleLift.Text.Utf8

/-! # Files

The files around a working directory. A directory exists where it is entered as one or where
something lies below it. A path is followed step by step: a step up needs nothing, and every other
step but the last needs a directory.
-/
namespace StyleLift

inductive FileEntry
  | directory
  | file (bytes : List UInt8)
deriving DecidableEq

/-- Entries by the steps of their paths from the root of all files. -/
structure FileTree where
  workingDirectory : List Text
  entries : List (List Text × FileEntry)

namespace FileTree

/-- The entry at steps from the root of all files. -/
def entryAt? (tree : FileTree) (steps : List Text) : Option FileEntry :=
  if steps.isPrefixOf tree.workingDirectory then some .directory
  else
    match tree.entries.lookup steps with
    | some entry => some entry
    | none =>
      if tree.entries.any fun (path, _) => steps.isPrefixOf path then some .directory else none

/-- Why a path leads nowhere, or not to a file. -/
inductive PathError
  | missing
  | notDirectory
  | isDirectory
  | nameTooLong
  | holdsNull
deriving DecidableEq

/-- The most bytes of one step of a path, and of a whole path. -/
def maxStepSize : Nat := 255
def maxPathSize : Nat := 4095

/-- Follows steps from a place, which has to be a directory if there are any. -/
def follow (tree : FileTree) : List Text → List Text → Except PathError (List Text)
  | here, [] => .ok here
  | here, step :: rest =>
    match tree.entryAt? here with
    | none => .error .missing
    | some (.file _) => .error .notDirectory
    | some .directory =>
      if step = Text.ofString ".." then follow tree here.dropLast rest
      else if maxStepSize < (Text.utf8 step).length then .error .nameTooLong
      else follow tree (here ++ [step]) rest

/-- Where a path leads, from the root of all files. -/
def resolve (tree : FileTree) (path : Text) : Except PathError (List Text) :=
  if path.contains (.char '\x00') then .error .holdsNull
  else if maxPathSize < (Text.utf8 path).length then .error .nameTooLong
  else tree.follow (if Path.isAbsolute path then [] else tree.workingDirectory) (Path.steps path)

/-- Whether a path ends in a slash or in a dot step, and so can lead to a directory only. -/
def namesDirectory (path : Text) : Bool :=
  let final := (Text.splitOn Path.slash path).getLast?
  final = some [] ∨ final = some [.char '.']

/-- What lies at a path. The empty path leads nowhere. -/
def find (tree : FileTree) (path : Text) : Except PathError FileEntry := do
  let steps ← tree.resolve path
  match tree.entryAt? steps with
  | none => throw .missing
  | some .directory => if path.isEmpty then throw .missing else return .directory
  | some entry => if namesDirectory path then throw .notDirectory else return entry

/-- Whether a file lies at a path. Only the path's length can be a hindrance to finding out. -/
def isFile (tree : FileTree) (path : Text) : Except PathError Bool :=
  match tree.find path with
  | .ok (.file _) => .ok true
  | .error .nameTooLong => .error .nameTooLong
  | _ => .ok false

def workingPath (tree : FileTree) : Text := Path.ofSteps [Path.slash] tree.workingDirectory

/-- The tree with a file written at a path. -/
def write (tree : FileTree) (path : Text) (bytes : List UInt8) : Except PathError FileTree := do
  let steps ← tree.resolve path
  if tree.entryAt? steps = some .directory then throw .isDirectory
  return { tree with entries := (steps, .file bytes) :: tree.entries.filter (·.1 ≠ steps) }

/-- The bytes of the file at a path. -/
def read (tree : FileTree) (path : Text) : Except PathError (List UInt8) := do
  match ← tree.find path with
  | .file bytes => return bytes
  | .directory => throw .isDirectory

end FileTree
end StyleLift
