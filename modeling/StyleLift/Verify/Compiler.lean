import StyleLift.Run.Trace

/-! # Compilers

A compiler turns a style sheet into compiled text, scanning documents for class names. A machine
says what becomes of an invocation of a program and where scratch files go.
-/
namespace StyleLift

structure Compiler where
  compile : Text → List Text → Action Text

/-- Compiles and leaves a record of what was asked for. -/
def Compiler.request (c : Compiler) (stylesheet : Text) (documents : List Text) : Action Text := do
  Action.emit (.compile stylesheet documents)
  c.compile stylesheet documents

/-- What a program left where it was told to write. -/
inductive OutputFile
  | missing
  | directory
  | bytes (content : List UInt8)
deriving DecidableEq

structure Completion where
  status : Int
  stdout : Text
  stderr : Text
  output : OutputFile
deriving DecidableEq

inductive Outcome
  | programMissing
  | notPermitted
  | timedOut
  | completed (c : Completion)
deriving DecidableEq

structure Machine where
  run : Invocation → Outcome
  scratch : Text

end StyleLift
