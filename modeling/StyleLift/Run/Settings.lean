import StyleLift.Files.Tree
import StyleLift.Text.LetterCase
import StyleLift.Verify.Tailwind

/-! # Settings

The program's settings and how environment variables change them. The configuration file for the
compiler is the one that is set, or else the one with the usual name in the working directory.
-/
namespace StyleLift

def programVersion : Text := "0.1.0"

abbrev Environment := List (Text × Text)

structure Settings where
  program : Text
  configPath : Option Text
  compileTimeout : Binary64
  addsVendorPrefixes : Bool
  captureTimeout : Int
  waitUntil : Text
  host : Text
  portNumber : Int
deriving DecidableEq

namespace Settings

def default : Settings where
  program := Tailwind.defaultExecutable
  configPath := none
  compileTimeout := Tailwind.defaultTimeout
  addsVendorPrefixes := true
  captureTimeout := 30000
  waitUntil := "networkidle"
  host := "127.0.0.1"
  portNumber := 5000

def variableStem : Text := "DESIGN_COPIER_"

/-- The names of all of the program's variables. -/
def variableNames : List Text :=
  (["TAILWIND_BIN", "TAILWIND_CONFIG", "COMPILE_TIMEOUT", "AUTOPREFIX", "CAPTURE_TIMEOUT_MS",
    "HOST", "PORT"] : List Text).map (variableStem ++ ·)

/-- The value of one of the program's variables. -/
def read (env : Environment) (name : Text) : Option Text := env.lookup (variableStem ++ name)

/-- The words that switch a setting on, in any letter case. -/
def onWords : List Text := ["1", "true", "yes", "on"]

def isOn (word : Text) : Bool := onWords.contains (Text.lower (Text.trim word))

/-- The value of a variable as a number, or its default where it is unset. -/
def readNumber {α : Type} (env : Environment) (name : Text)
    (parse : Text → Except NumeralError α) (unset : α) : Except NumeralError α :=
  match read env name with
  | some word => parse word
  | none => .ok unset

/-- The settings of an environment. An empty configuration path counts as none. -/
def ofEnvironment (env : Environment) : Except NumeralError Settings := do
  let compileTimeout ←
    readNumber env "COMPILE_TIMEOUT" Numeral.real default.compileTimeout
  let captureTimeout ←
    readNumber env "CAPTURE_TIMEOUT_MS" Numeral.integer default.captureTimeout
  let portNumber ← readNumber env "PORT" Numeral.integer default.portNumber
  return {
    program := (read env "TAILWIND_BIN").getD default.program
    configPath := (read env "TAILWIND_CONFIG").filter fun path => !path.isEmpty
    compileTimeout
    addsVendorPrefixes := ((read env "AUTOPREFIX").map isOn).getD default.addsVendorPrefixes
    captureTimeout
    waitUntil := default.waitUntil
    host := (read env "HOST").getD default.host
    portNumber }

def usualConfigName : Text := "tailwind.config.js"

/-- The configuration file to compile with, for a directory or else the working directory. -/
def configFile (s : Settings) (tree : FileTree) (directory : Option Text) :
    Except Fault (Option Text) :=
  match s.configPath.filter fun path => !path.isEmpty with
  | some path => .ok (some (Path.normalize path))
  | none => do
    let directory := (directory.filter fun path => !path.isEmpty).getD tree.workingPath
    let usual := Path.append directory usualConfigName
    let present ← (tree.isFile usual).mapError (Fault.ofPath usual)
    return if present then some usual else none

/-- The compiler that the settings describe. -/
def tailwind (s : Settings) (tree : FileTree) : Except Fault Tailwind := do
  let path ← s.configFile tree none
  (Tailwind.ofExecutable s.program path s.compileTimeout s.addsVendorPrefixes).mapError .splitting

end Settings
end StyleLift
