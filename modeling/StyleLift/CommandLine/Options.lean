import StyleLift.Text.CodePoint

/-! # Options and operands

Telling options from operands. An option's value follows it or an equals sign in it; several flags
of one letter may share a hyphen; after two hyphens alone everything is an operand.
-/
namespace StyleLift.CommandLine

/-- What the value of an option has to be. -/
inductive ValueForm
  | any
  /-- A path that something lies at. -/
  | existingPath
  /-- A path that no directory lies at. -/
  | filePath
  | choice (among : List Text)
  | integer
deriving DecidableEq

/-- An option that takes a value, or a flag. -/
structure OptionForm where
  name : Text
  value : Option ValueForm
deriving DecidableEq

/-- Why arguments cannot be used. -/
inductive UsageError
  | noCommand
  | unknownCommand (name : Text)
  | unknownOption (name : Text)
  | missingValue (name : Text)
  | unexpectedValue (name : Text)
  | missingOption (name : Text)
  | missingOperand (name : Text)
  | extraOperand (operand : Text)
  | noSuchFile (path : Text)
  | isDirectory (path : Text)
  | notChoice (value : Text)
  | notInteger (value : Text)
deriving DecidableEq

def UsageError.message : UsageError → Text
  | .noCommand => "a command is missing"
  | .unknownCommand name => Text.ofString "there is no command " ++ name
  | .unknownOption name => Text.ofString "there is no option " ++ name
  | .missingValue name => Text.ofString "a value is missing for " ++ name
  | .unexpectedValue name => Text.ofString "no value is allowed for " ++ name
  | .missingOption name => Text.ofString "the option is missing: " ++ name
  | .missingOperand name => Text.ofString "the argument is missing: " ++ name
  | .extraOperand operand => Text.ofString "one argument too many: " ++ operand
  | .noSuchFile path => Text.ofString "there is no file " ++ path
  | .isDirectory path => Text.ofString "this is a directory: " ++ path
  | .notChoice value => Text.ofString "this is not one of the choices: " ++ value
  | .notInteger value => Text.ofString "this is not an integer: " ++ value

/-- What an argument is. -/
inductive Argument
  | operand
  | terminator
  | flags (names : List Text)
  | option (name : Text) (value : Option Text)
deriving DecidableEq

def hyphen : CodePoint := .char '-'
def equalsSign : CodePoint := .char '='

/-- The names of the flags that share the hyphen of an argument. -/
def sharedFlags (forms : List OptionForm) (argument : Text) : Except UsageError (List Text) :=
  let names := (argument.drop 1).map fun c => [hyphen, c]
  match names.find? fun name => !forms.contains ⟨name, none⟩ with
  | some name => .error (.unknownOption name)
  | none => .ok names

def classify (forms : List OptionForm) (argument : Text) : Except UsageError Argument :=
  if argument = [hyphen, hyphen] then .ok .terminator
  else if argument.head? = some hyphen ∧ 1 < argument.length then
    let name := argument.takeWhile (· ≠ equalsSign)
    let value :=
      if argument.contains equalsSign then some (argument.drop (name.length + 1)) else none
    match forms.find? (·.name = name) with
    | some form =>
      if form.value.isSome then .ok (.option name value)
      else if value.isSome then .error (.unexpectedValue name)
      else .ok (.flags [name])
    | none =>
      if Text.startsWith argument [hyphen, hyphen] then .error (.unknownOption name)
      else (sharedFlags forms argument).map .flags
  else .ok .operand

/-- Options in the order in which they were given, and operands. -/
structure Parsed where
  options : List (Text × Text)
  operands : List Text
deriving DecidableEq

namespace Parsed

def addFlags (names : List Text) (p : Parsed) : Parsed :=
  { p with options := names.map (·, []) ++ p.options }

def addOption (name value : Text) (p : Parsed) : Parsed :=
  { p with options := (name, value) :: p.options }

def addOperand (operand : Text) (p : Parsed) : Parsed :=
  { p with operands := operand :: p.operands }

/-- The value that was given last. -/
def value? (p : Parsed) (name : Text) : Option Text := p.options.reverse.lookup name

def has (p : Parsed) (name : Text) : Bool := (p.value? name).isSome

def required (p : Parsed) (name : Text) : Except UsageError Text :=
  match p.value? name with
  | some value => .ok value
  | none => .error (.missingOption name)

end Parsed

/-- Reads arguments; `pending` is an option that waits for its value. With `stops`, the first
operand ends the options. -/
def readOptions (forms : List OptionForm) (stops : Bool) :
    Option Text → List Text → Except UsageError Parsed
  | none, [] => .ok ⟨[], []⟩
  | some name, [] => .error (.missingValue name)
  | some name, value :: rest => (readOptions forms stops none rest).map (·.addOption name value)
  | none, argument :: rest => do
    match ← classify forms argument with
    | .terminator => return ⟨[], rest⟩
    | .operand =>
      if stops then return ⟨[], argument :: rest⟩
      else return (← readOptions forms stops none rest).addOperand argument
    | .flags names => return (← readOptions forms stops none rest).addFlags names
    | .option name (some value) =>
      return (← readOptions forms stops none rest).addOption name value
    | .option name none => readOptions forms stops (some name) rest

end StyleLift.CommandLine
