import StyleLift.CommandLine.Command
import StyleLift.CommandLine.Echo
import StyleLift.Tool.BuiltIn

/-! # The program

Running a command in its surroundings. A run ends with an exit code and what was printed; a fault
that no command expects ends it with code one, and arguments that cannot be used with code two.
-/
namespace StyleLift.CommandLine

/-- What a command finds around it. -/
structure Surroundings where
  environment : Environment
  files : FileTree
  machine : Machine
  browser : Browser

/-- A server to be started. -/
structure Service where
  host : Text
  portNumber : Int
  debug : Bool
  registry : Registry

/-- What a command leaves behind. -/
structure Report where
  exitCode : Nat
  stdout : Text
  stderr : Text
  files : FileTree
  service : Option Service

/-- How a run ends: what it left behind, the level of its remarks if it came to that, and the fault
that no command expected. -/
structure Ending where
  report : Report
  level : Option Level
  fault : Option Fault

namespace Surroundings

def printed (s : Surroundings) (text : Text) : Report := ⟨0, echo text, [], s.files, none⟩

def complained (s : Surroundings) (text : Text) : Report := ⟨1, [], echo text, s.files, none⟩

def settings (s : Surroundings) : Action Settings :=
  Action.ofExcept .numeral (Settings.ofEnvironment s.environment)

def tailwind (s : Surroundings) (settings : Settings) : Action Tailwind :=
  Action.ofExcept id (settings.tailwind s.files)

/-- The text of a file, with every line end read as a newline. -/
def readText (s : Surroundings) (path : Text) : Action Text := do
  let bytes ← Action.ofExcept (Fault.ofPath path) (s.files.read path)
  let text ← Action.ofExcept (fun e => .other .undecodable e.message) (Text.decode bytes)
  return text.normalizeNewlines

/-! ## The commands -/

/-- The page, or the message of a failed capture. -/
def capturePage (s : Surroundings) (settings : Settings) (url : Text) (selector : Option Text) :
    Action (Except Text CapturedPage) :=
  tryCatch
    (Except.ok <$> capture s.browser url selector ⟨settings.captureTimeout, settings.waitUntil⟩) fun
  | .capture m _ => pure (.error m)
  | fault => throw fault

def snapshot (s : Surroundings) (url : Text) (selector output : Option Text) : Action Report := do
  match ← s.capturePage (← s.settings) url selector with
  | .error m => return s.complained (Text.ofString "Capture error: " ++ m)
  | .ok page =>
    let text := page.toJson.toText Json.indented
    match output.filter fun path => !path.isEmpty with
    | none => return s.printed text
    | some path =>
      let files ← Action.ofExcept (Fault.ofPath path)
        (s.files.write (Path.normalize path) (Text.utf8 text))
      return { s.printed (Text.ofString "Snapshot written to " ++ path) with files }

/-- What is printed on a bundle: its JSON, and a warning where it has an error. -/
def bundleReport (s : Surroundings) (b : Bundle) : Report :=
  { s.printed (b.toJson.toText Json.indented) with
    stderr := match b.error with
      | some e => echo (Text.ofString "Warning: " ++ e.message)
      | none => [] }

def extract (s : Surroundings) (htmlPath stylesPath : Text) (format : Format) : Action Report := do
  let html ← s.readText htmlPath
  let styles ← s.readText stylesPath
  match format.direct? styles with
  | some text => return s.printed text
  | none =>
    let t ← s.tailwind (← s.settings)
    s.bundleReport <$> StyleLift.extract html styles (t.compiler s.machine)

def apply (s : Surroundings) (stylesPath framework name : Text) : Action Report := do
  let styles ← s.readText stylesPath
  match frameworkComponent styles framework name with
  | .ok text => return s.printed text
  | .error fault => return s.complained (Text.ofString "Error: " ++ fault.message)

/-- The names of a definition's required arguments. -/
def requiredNames (d : ToolDefinition) : List Text :=
  match d.parameters with
  | .obj members =>
    match Json.member? "required" members with
    | some (.arr items) => items.map Json.display
    | _ => []
  | _ => []

def describe (d : ToolDefinition) : Text :=
  echo (d.name ++ Text.ofString ": " ++ d.description) ++
    echo (Text.ofString "  required: " ++ Text.joinWith ", " (requiredNames d))

def tools (s : Surroundings) : Report :=
  ⟨0, BuiltIn.definitions.flatMap describe, [], s.files, none⟩

/-- Settings with another address; an empty host and the number zero change nothing. -/
def withAddress (settings : Settings) (host : Option Text) (portNumber : Option Int) : Settings :=
  { settings with
    host := (host.filter fun h => !h.isEmpty).getD settings.host
    portNumber := (portNumber.filter (· ≠ 0)).getD settings.portNumber }

def serve (s : Surroundings) (host : Option Text) (portNumber : Option Int) (debug : Bool) :
    Action Report := do
  let settings := withAddress (← s.settings) host portNumber
  let t ← s.tailwind settings
  let _ ← t.checkVersion s.machine
  let registry := Registry.builtIn settings (t.compiler s.machine) s.browser
  return { s.printed (Text.ofString "Starting Design Copier on " ++ settings.host ++
      Text.ofString ":" ++ Text.ofInt settings.portNumber) with
    service := some ⟨settings.host, settings.portNumber, debug, registry⟩ }

def command (s : Surroundings) : Command → Action Report
  | .snapshot url selector output => s.snapshot url selector output
  | .extract html styles format => s.extract html styles format
  | .apply styles framework name => s.apply styles framework name
  | .tools => pure s.tools
  | .serve host portNumber debug => s.serve host portNumber debug

/-! ## Runs -/

def levelOf (verbose : Bool) : Level := if verbose then .debug else .warning

def helpText : Text :=
  Text.joinWith [.char '\n'] (Text.ofString "Usage: design-copier [OPTIONS] COMMAND [ARGS]..." ::
    [] :: Text.ofString "Commands:" ::
      commandForms.map fun (name, forms) =>
        Text.ofString "  " ++ Text.joinWith [.char ' '] (name :: forms.map OptionForm.name))

/-- A run with given arguments. -/
def run (s : Surroundings) (arguments : List Text) : Traced Ending :=
  match read s.files arguments with
  | .error e => pure ⟨{ s.complained e.message with exitCode := 2 }, none, none⟩
  | .ok .version =>
    pure ⟨s.printed (Text.ofString "design-copier, version " ++ programVersion), none, none⟩
  | .ok (.help verbose) => pure ⟨s.printed helpText, verbose.map levelOf, none⟩
  | .ok (.abandoned verbose fault) =>
    pure ⟨⟨1, [], [], s.files, none⟩, some (levelOf verbose), some fault⟩
  | .ok (.run verbose command) => do
    let level := some (levelOf verbose)
    match ← (s.command command).run with
    | .ok report => return ⟨report, level, none⟩
    | .error fault => return ⟨⟨1, [], [], s.files, none⟩, level, some fault⟩

end Surroundings
end StyleLift.CommandLine
