import StyleLift.Files.Path
import StyleLift.Text.LetterCase
import StyleLift.Text.Lines
import StyleLift.Text.Utf8
import StyleLift.Verify.Compiler

/-! # The Tailwind compiler

Compiling with the Tailwind command line program. The style sheet and the documents are laid out in
a scratch directory, the program runs there, and its output is read back. Whatever fails on the way
becomes a compiler error with its cause.
-/
namespace StyleLift

structure Tailwind where
  command : List Text
  configPath : Option Text
  timeout : Binary64
  addsVendorPrefixes : Bool
deriving DecidableEq

namespace Tailwind

def defaultExecutable : Text := "tailwindcss"
def defaultTimeout : Binary64 := .ofInt 60

/-- The compiler for a command line. An empty configuration path counts as none. -/
def ofExecutable (executable : Text) (configPath : Option Text) (timeout : Binary64)
    (addsVendorPrefixes : Bool) : Except Shell.SplitError Tailwind :=
  (Shell.split executable).map fun command =>
    ⟨command, (configPath.filter fun path => !path.isEmpty).map Path.normalize, timeout,
      addsVendorPrefixes⟩

/-! ## Errors -/

def failure (message : Text) (cause : Option Kind) : Fault := .compiler ⟨message, none, [], cause⟩

def unwritable (e : Text.EncodeError) : Fault :=
  failure (Text.ofString "Could not write Tailwind input: " ++ e.message) (some .unencodable)

def undecodable (e : Text.DecodeError) : Fault :=
  failure (Text.ofString "Could not read Tailwind output: " ++ e.message) (some .undecodable)

def outputMissing : Fault :=
  failure "Tailwind finished without writing output" (some .noSuchFile)

def outputIsDirectory (path : Text) : Fault :=
  failure (Text.ofString "Could not read Tailwind output: [Errno 21] Is a directory: " ++
    path.quoted) (some .isDirectory)

/-- The program is missing; without any command there is no program to name. -/
def programMissing (t : Tailwind) : Fault :=
  match t.command with
  | program :: _ =>
    failure (Text.ofString "Tailwind executable not found: " ++ program) (some .noSuchFile)
  | [] => .other .outOfRange "list index out of range"

def timedOut (t : Tailwind) : Fault :=
  failure (Text.ofString "Tailwind timed out after " ++ t.timeout.compact ++ [.char 's'])
    (some .timeExpired)

def notPermitted : Fault :=
  failure "Could not run Tailwind: [Errno 13] Permission denied" (some .notPermitted)

def statusUnwritten : Fault := .other .badValue Numeral.unwrittenMessage

/-- The program ended with a status other than zero, which the message shows. -/
def exited (status : Int) (stderr : Text) : Fault :=
  let stderr := stderr.trim
  let reason := if stderr.isEmpty then Text.ofString "no output" else stderr.firstLine
  if Numeral.isWritten status then
    .compiler ⟨Text.ofString "Tailwind exited with status " ++ Text.ofInt status ++
      Text.ofString ": " ++ reason, some status, stderr, none⟩
  else statusUnwritten

/-! ## Running -/

/-- The completion of an outcome that is none of the errors. -/
def completion (t : Tailwind) : Outcome → Except Fault Completion
  | .programMissing => .error t.programMissing
  | .notPermitted => .error notPermitted
  | .timedOut => .error t.timedOut
  | .completed c => if c.status = 0 then .ok c else .error (exited c.status c.stderr)

/-- One run of the program. -/
def run (t : Tailwind) (m : Machine) (i : Invocation) : Action Completion := do
  Action.log .debug (Text.ofString "Running " ++ Shell.join i.arguments)
  Action.emit (.run i)
  Action.ofExcept id (t.completion (m.run i))

/-! ## Compiling -/

def inScratch (m : Machine) (name : Text) : Text := Path.append m.scratch name

def documentPath (m : Machine) (index : Nat) : Text :=
  inScratch m (Text.ofString "page-" ++ Text.ofNat index ++ Text.ofString ".html")

def documentPaths (m : Machine) (documents : List Text) : List Text :=
  (List.range documents.length).map (documentPath m)

/-- The options after the command. -/
def options (t : Tailwind) (m : Machine) (paths : List Text) : List Text :=
  [Text.ofString "-i", inScratch m "input.css", Text.ofString "-o", inScratch m "output.css"] ++
    (if paths.isEmpty then []
      else [Text.ofString "--content", Text.joinWith [.char ','] paths]) ++
    (match t.configPath with
      | some path => [Text.ofString "-c", path]
      | none => []) ++
    (if t.addsVendorPrefixes then [] else [Text.ofString "--no-autoprefixer"])

def invocation (t : Tailwind) (m : Machine) (stylesheet : Text) (documents : List Text) :
    Invocation :=
  let paths := documentPaths m documents
  ⟨t.command ++ t.options m paths, t.timeout, some m.scratch,
    (inScratch m "input.css", stylesheet) :: paths.zip documents⟩

/-- Fails at the first text that has no encoding. -/
def checkEncodable (texts : List Text) : Except Text.EncodeError Unit :=
  texts.forM fun text => (Text.encode text).map fun _ => ()

/-- The text of the output file, with every line end read as a newline. -/
def readOutput (m : Machine) : OutputFile → Except Fault Text
  | .missing => .error outputMissing
  | .directory => .error (outputIsDirectory (inScratch m "output.css"))
  | .bytes content =>
    match Text.decode content with
    | .ok text => .ok text.normalizeNewlines
    | .error e => .error (undecodable e)

def compile (t : Tailwind) (m : Machine) (stylesheet : Text) (documents : List Text) :
    Action Text := do
  Action.ofExcept unwritable (checkEncodable (stylesheet :: documents))
  let c ← t.run m (t.invocation m stylesheet documents)
  Action.ofExcept id (readOutput m c.output)

def compiler (t : Tailwind) (m : Machine) : Compiler := ⟨t.compile m⟩

/-! ## Version -/

/-- Three numbers with points between them at the start of a text. -/
def startsWithVersion (s : Text) : Bool :=
  let number (s : Text) : Option Text :=
    if s.head?.any CodePoint.isDigit then some (s.dropWhile CodePoint.isDigit) else none
  let point (s : Text) : Option Text := Text.dropPrefix? "." s
  (number s |>.bind point |>.bind number |>.bind point |>.bind number).isSome

/-- A version at the start of a text: the program's name, blanks, and a version word. -/
def versionHere? (s : Text) : Option Text := do
  let rest ← Text.dropWord? "tailwindcss".toList s
  let word := rest.dropWhile CodePoint.isBlank
  guard (word.length < rest.length)
  let word := (Text.dropWord? ['v'] word).getD word
  guard (startsWithVersion word)
  return word.takeWhile fun c => !c.isBlank

/-- The first version that a text names. -/
def versionIn? : Text → Option Text
  | [] => none
  | c :: rest => (versionHere? (c :: rest)).orElse fun () => versionIn? rest

/-- The version that the program reports. -/
def version (t : Tailwind) (m : Machine) : Action (Option Text) := do
  let c ← t.run m ⟨t.command ++ [Text.ofString "--help"], t.timeout, none, []⟩
  return (versionIn? c.stdout).orElse fun () => versionIn? c.stderr

/-- The remarks about a version. -/
def remarkVersion (t : Tailwind) : Option Text → Action Unit
  | none =>
    Action.log .warning (Text.ofString "Could not determine Tailwind version from " ++
      Text.quotedList t.command)
  | some v => do
    Action.log .info (Text.ofString "Using Tailwind CSS v" ++ v)
    if Text.startsWith v "4." then
      Action.log .warning (Text.ofString "Tailwind CSS v" ++ v ++
        Text.ofString " may not accept the v3 CLI flags used for verification; " ++
        Text.ofString "consider Tailwind CSS v3.x.")

/-- Remarks on the version; a compiler error is a remark too. -/
def checkVersion (t : Tailwind) (m : Machine) : Action (Option Text) :=
  tryCatch (do
    let v ← t.version m
    t.remarkVersion v
    return v) fun
  | .compiler e => do
    Action.log .warning (Text.ofString "Could not check Tailwind version: " ++ e.message)
    return none
  | fault => throw fault

end Tailwind
end StyleLift
