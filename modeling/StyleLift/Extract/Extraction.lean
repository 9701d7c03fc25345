import StyleLift.Extract.Bundle
import StyleLift.Verify.Verification

/-! # Extraction

From a document and its styles to a bundle. A compiler error does not abort an extraction: the
bundle then has every candidate unconfirmed and carries the error.
-/
namespace StyleLift

def processingErrorCode : Text := "TAILWIND_PROCESSING_ERROR"

/-- The description of a compiler error; its type is the cause's, or its own without one. -/
def CompilerError.describe (e : CompilerError) : ProcessingError where
  message := Text.ofString "Failed to process with Tailwind: " ++ e.message
  code := processingErrorCode
  details := .obj [
    ("type", .str (e.cause.getD .compiler).name),
    ("returncode", match e.status with | some n => .int n | none => .null),
    ("stderr", .str e.stderr)]

def Entry.ofRule (r : Rule) : Except NumeralError Entry :=
  r.candidates.map fun candidates => ⟨r, candidates⟩

def Entry.confirm (e : Entry) (seen : List Text) : Entry :=
  { e with candidates := e.candidates.map (·.confirm seen) }

/-- The bundle of a completed verification. -/
def Bundle.confirmed (existing : List Text) (entries : List Entry) (v : Verification) : Bundle :=
  ⟨existing, entries.map (·.confirm v.confirmed), some v.confirmed, none⟩

/-- The bundle of a failed verification. -/
def Bundle.failed (existing : List Text) (entries : List Entry) (e : CompilerError) : Bundle :=
  ⟨existing, entries, none, some e.describe⟩

def extract (html styles : Text) (compiler : Compiler) : Action Bundle := do
  let existing ← Action.ofExcept Fault.ofDocument (Markup.classNames html)
  let rules ← readRules styles
  let entries ← Action.ofExcept .numeral (rules.mapM Entry.ofRule)
  tryCatch (Bundle.confirmed existing entries <$> verify html rules compiler) fun
  | .compiler e => do
    Action.log .warning (Text.ofString "Tailwind verification failed: " ++ e.message)
    return .failed existing entries e
  | fault => throw fault

end StyleLift
