import StyleLift.CommandLine.Program

/-! # The executable

Runs a command line on the files that its arguments name and on the process's environment. Other
programs are not started from here, so neither a compiler nor a browser is at hand.
-/
namespace StyleLift.Executable

open CommandLine

def stringOf (s : Text) : String :=
  String.ofList (s.map fun
    | .char c => c
    | .surrogate _ => '\uFFFD')

def systemPath (steps : List Text) : String := stringOf (Path.ofSteps [Path.slash] steps)

/-- What lies at steps from the root of all files. -/
def entryAt (steps : List Text) : IO (Option FileEntry) := do
  try
    return some (.file (← IO.FS.readBinFile (systemPath steps)).toList)
  catch _ =>
    try
      let path ← IO.FS.realPath (systemPath steps)
      return if ← path.isDir then some .directory else none
    catch _ => return none

/-- The paths that a command line may mean: its arguments, and what follows an equals sign. -/
def pathsIn (arguments : List Text) : List Text :=
  Settings.usualConfigName :: arguments.flatMap fun a =>
    [a, (a.dropWhile (· ≠ equalsSign)).drop 1]

/-- Where the first steps of a path lead, for every number of them. -/
def placesOn (workingDirectory : List Text) (path : Text) : List (List Text) :=
  let start := if Path.isAbsolute path then [] else workingDirectory
  let steps := Path.steps path
  (List.range (steps.length + 1)).map fun count =>
    (steps.take count).foldl (fun here step =>
      if step = Text.ofString ".." then here.dropLast else here ++ [step]) start

/-- The files that a command line may mean. -/
def filesFor (arguments : List Text) : IO FileTree := do
  let workingDirectory := Path.steps (Text.ofString (← IO.currentDir).toString)
  let places := ((pathsIn arguments).flatMap (placesOn workingDirectory)).eraseDups
  let entries ← places.filterMapM fun place => do
    return (← entryAt place).map (place, ·)
  return ⟨workingDirectory, entries⟩

def environment : IO Environment :=
  Settings.variableNames.filterMapM fun name => do
    return (← IO.getEnv (stringOf name)).map fun value => (name, Text.ofString value)

/-- A machine on which no program is found. -/
def machine : Machine := ⟨fun _ => .programMissing, "/tmp"⟩

/-- A browser that cannot be launched. -/
def browser : Browser where
  fault? step :=
    if step = .launch then some (.other .browser "no browser is available") else none
  styles := none
  html := []

def weight : Level → Nat
  | .debug => 0
  | .info => 1
  | .warning => 2
  | .error => 3

/-- The remarks from a level on. -/
def remarks (level : Level) (events : List Event) : List Text :=
  events.filterMap fun
    | .log l message => if weight level ≤ weight l then some message else none
    | _ => none

def writeNew (before after : FileTree) : IO Unit :=
  after.entries.forM fun (steps, entry) => do
    match entry with
    | .file bytes =>
      if before.entries.lookup steps ≠ some entry then
        IO.FS.writeBinFile (systemPath steps) bytes.toByteArray
    | .directory => pure ()

/-- What is left to say on standard error. -/
def complaints (run : Traced Ending) : List Text :=
  remarks (run.result.level.getD .error) run.events ++
    (match run.result.fault with
      | some fault => [fault.kind.name ++ Text.ofString ": " ++ fault.message]
      | none => []) ++
    (if run.result.report.service.isSome then [Text.ofString "no network is available"] else [])

def runProgram (arguments : List Text) : IO UInt32 := do
  let files ← filesFor arguments
  let run := Surroundings.run ⟨← environment, files, machine, browser⟩ arguments
  let report := run.result.report
  writeNew files report.files
  (← IO.getStdout).putStr (stringOf report.stdout)
  let stderr ← IO.getStderr
  stderr.putStr (stringOf report.stderr)
  (complaints run).forM fun line => stderr.putStrLn (stringOf line)
  return if report.service.isSome then 1 else UInt32.ofNat report.exitCode

end StyleLift.Executable

def main (arguments : List String) : IO UInt32 :=
  StyleLift.Executable.runProgram (arguments.map StyleLift.Text.ofString)
