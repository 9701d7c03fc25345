import StyleLift.CommandLine.Options
import StyleLift.Extract.Format

/-! # Commands

The commands of the program and how arguments name them. Files that a command reads have to exist.
-/
namespace StyleLift.CommandLine

inductive Command
  | snapshot (url : Text) (selector output : Option Text)
  | extract (html styles : Text) (format : Format)
  | apply (styles framework name : Text)
  | tools
  | serve (host : Option Text) (portNumber : Option Int) (debug : Bool)
deriving DecidableEq

/-- What a command line asks for. -/
inductive Call
  | version
  /-- Help on the program, or on a command of it. -/
  | help (verbose : Option Bool)
  | run (verbose : Bool) (command : Command)
  /-- Nothing, as a fault kept its values from being checked. -/
  | abandoned (verbose : Bool) (fault : Fault)

def flag (name : Text) : OptionForm := ⟨name, none⟩
def valued (name : Text) (form : ValueForm) : OptionForm := ⟨name, some form⟩

def programForms : List OptionForm :=
  [flag "--version", flag "--help", flag "-v", flag "--verbose"]

/-- The options of every command by its name. -/
def commandForms : List (Text × List OptionForm) := [
  ("snapshot", [flag "--help", valued "--selector" .any, valued "--output" .filePath]),
  ("extract", [flag "--help", valued "--html" .existingPath, valued "--styles" .existingPath,
    valued "--format" (.choice (Format.all.map Format.name))]),
  ("apply", [flag "--help", valued "--styles" .existingPath, valued "--framework" .any,
    valued "--name" .any]),
  ("tools", [flag "--help"]),
  ("serve", [flag "--help", valued "--host" .any, valued "--port" .integer, flag "--debug",
    flag "--no-debug"])]

/-! ## Checking values -/

/-- Why a value was not accepted. -/
inductive Rejection
  | usage (e : UsageError)
  | fault (f : Fault)

/-- Paths are looked up, which only a null in them makes impossible. -/
def checkValue (tree : FileTree) (value : Text) : ValueForm → Except Rejection Unit
  | .any => .ok ()
  | .existingPath =>
    match tree.find value with
    | .ok _ => .ok ()
    | .error .holdsNull => .error (.fault (Fault.ofPath value .holdsNull))
    | .error _ => .error (.usage (.noSuchFile value))
  | .filePath =>
    match tree.find value with
    | .ok .directory => .error (.usage (.isDirectory value))
    | .error .holdsNull => .error (.fault (Fault.ofPath value .holdsNull))
    | _ => .ok ()
  | .choice among => if among.contains value then .ok () else .error (.usage (.notChoice value))
  | .integer =>
    match Numeral.integer value with
    | .ok _ => .ok ()
    | .error _ => .error (.usage (.notInteger value))

/-- Checks the options in the order in which they were first given, each with its last value. -/
def checkValues (tree : FileTree) (forms : List OptionForm) (p : Parsed) :
    Except Rejection Unit :=
  (p.options.map (·.1)).eraseDups.forM fun name =>
    match (forms.find? (·.name = name)).bind OptionForm.value, p.value? name with
    | some form, some value => checkValue tree value form
    | _, _ => .ok ()

/-! ## Reading commands -/

def noOperands (p : Parsed) : Except UsageError Unit :=
  match p.operands with
  | [] => .ok ()
  | operand :: _ => .error (.extraOperand operand)

def readSnapshot (p : Parsed) : Except UsageError Command :=
  match p.operands with
  | [] => throw (.missingOperand "URL")
  | [url] => return .snapshot url (p.value? "--selector") (p.value? "--output")
  | _ :: operand :: _ => throw (.extraOperand operand)

def readExtract (p : Parsed) : Except UsageError Command := do
  let html ← p.required "--html"
  let styles ← p.required "--styles"
  noOperands p
  return .extract html styles (((p.value? "--format").bind Format.ofName?).getD .tailwind)

def readApply (p : Parsed) : Except UsageError Command := do
  let styles ← p.required "--styles"
  let framework ← p.required "--framework"
  let name ← p.required "--name"
  noOperands p
  return .apply styles framework name

/-- Whether the later of the two opposite flags switches debugging on. -/
def debugFlag (p : Parsed) : Bool :=
  match p.options.reverse.find? fun (name, _) =>
    name = Text.ofString "--debug" ∨ name = Text.ofString "--no-debug" with
  | some (name, _) => name = Text.ofString "--debug"
  | none => false

def readServe (p : Parsed) : Except UsageError Command := do
  let portNumber := (p.value? "--port").bind fun value => (Numeral.integer value).toOption
  noOperands p
  return .serve (p.value? "--host") portNumber (debugFlag p)

/-- The command for checked arguments. -/
def commandOf (name : Text) (p : Parsed) : Except UsageError Command :=
  if name = Text.ofString "snapshot" then readSnapshot p
  else if name = Text.ofString "extract" then readExtract p
  else if name = Text.ofString "apply" then readApply p
  else if name = Text.ofString "serve" then readServe p
  else do
    noOperands p
    return .tools

/-- What the arguments of a command ask for. -/
def readCommand (tree : FileTree) (verbose : Bool) (name : Text) (forms : List OptionForm)
    (arguments : List Text) : Except UsageError Call := do
  let p ← readOptions forms false none arguments
  if p.has "--help" then return .help (some verbose)
  match checkValues tree forms p with
  | .ok () => return .run verbose (← commandOf name p)
  | .error (.usage e) => throw e
  | .error (.fault f) => return .abandoned verbose f

/-- The version or the help, whichever was asked for first. -/
def shown? (p : Parsed) : Option Call :=
  p.options.findSome? fun (name, _) =>
    if name = Text.ofString "--version" then some .version
    else if name = Text.ofString "--help" then some (.help none)
    else none

/-- What arguments ask for without a command. One that is no command but looks like an option is
taken for the option that it would be. -/
def readUnknown (name : Text) (arguments : List Text) : Except UsageError Call := do
  if name.head? = some hyphen then
    match shown? (← readOptions programForms true none arguments) with
    | some call => return call
    | none => throw (.unknownCommand name)
  else throw (.unknownCommand name)

/-- What arguments ask for. -/
def read (tree : FileTree) (arguments : List Text) : Except UsageError Call := do
  let p ← readOptions programForms true none arguments
  match shown? p, p.operands with
  | some call, _ => return call
  | none, [] => throw .noCommand
  | none, name :: rest =>
    match commandForms.lookup name with
    | some forms => readCommand tree (p.has "-v" || p.has "--verbose") name forms rest
    | none => readUnknown name (name :: rest)

end StyleLift.CommandLine
