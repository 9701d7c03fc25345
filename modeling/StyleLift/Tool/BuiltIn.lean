import StyleLift.Capture.Session
import StyleLift.Component.Framework
import StyleLift.Extract.Format
import StyleLift.Run.Settings
import StyleLift.Tool.Registry

/-! # The built-in tools

Capturing a page, converting styles to a format, and wrapping styles in a component. The checked
arguments of each are strings.
-/
namespace StyleLift

namespace BuiltIn

/-- The schema of a string that may be any. -/
def stringSchema (description : String) : Json :=
  .obj [("type", .str "string"), ("description", .str description)]

def parameters (properties : List (Text × Json)) (required : List Text) : Json :=
  .obj [("type", .str "object"), ("properties", .obj properties),
    ("required", Json.texts required)]

def snapshotDefinition : ToolDefinition where
  name := "designcopier_snapshot"
  description := "Capture webpage or element styles"
  parameters := parameters [
    ("url", stringSchema "URL to capture"),
    ("selector", stringSchema "Optional CSS selector for specific element")] ["url"]

def extractDefinition : ToolDefinition where
  name := "designcopier_extract"
  description := "Extract styles and convert to different formats"
  parameters := parameters [
    ("html", stringSchema "HTML content"),
    ("styles", stringSchema "CSS styles"),
    ("format", .obj [("type", .str "string"), ("enum", Json.texts (Format.all.map Format.name)),
      ("description", .str "Output format")])] ["html", "styles", "format"]

def applyDefinition : ToolDefinition where
  name := "designcopier_apply"
  description := "Apply extracted styles to target framework"
  parameters := parameters [
    ("styles", stringSchema "Extracted styles"),
    ("targetFramework", .obj [("type", .str "string"), ("description", .str "Target framework"),
      ("enum", Json.texts (Framework.all.map Framework.name))]),
    ("componentName", stringSchema "Name for the generated component")]
    ["styles", "targetFramework", "componentName"]

def definitions : List ToolDefinition := [snapshotDefinition, extractDefinition, applyDefinition]

/-- An argument that is a string. -/
def text? (key : Text) (arguments : Json.Members) : Option Text :=
  match Json.member? key arguments with
  | some (.str s) => some s
  | _ => none

def text (key : Text) (arguments : Json.Members) : Text := (text? key arguments).getD []

/-- A failed capture is the tool's, with its own message. -/
def reportCapture : Fault → Fault
  | .capture m _ => .tool ⟨.internalError, m, some .capture⟩
  | fault => fault

def snapshot (s : Settings) (take : PageCapture) (arguments : Json.Members) : Action Text := do
  let page ← ExceptT.adapt reportCapture
    (take (text "url" arguments) (text? "selector" arguments) ⟨s.captureTimeout, s.waitUntil⟩)
  return page.toJson.toText Json.indented

def extract (compiler : Compiler) (arguments : Json.Members) : Action Text := do
  let result ← convertTo (text "format" arguments) (text "html" arguments)
    (text "styles" arguments) compiler
  Action.ofExcept (fun e => .other .badValue e.message) (result.write Json.indented false)

def apply (arguments : Json.Members) : Action Text :=
  Action.ofExcept id (frameworkComponent (text "styles" arguments)
    (text "targetFramework" arguments) (text "componentName" arguments))

end BuiltIn

/-- The registry of the built-in tools, for a way to capture pages. -/
def Registry.builtInWith (s : Settings) (compiler : Compiler) (take : PageCapture) : Registry :=
  ((Registry.empty.register ⟨BuiltIn.snapshotDefinition, BuiltIn.snapshot s take⟩).register
    ⟨BuiltIn.extractDefinition, BuiltIn.extract compiler⟩).register
    ⟨BuiltIn.applyDefinition, BuiltIn.apply⟩

/-- The registry of the built-in tools, with the pages that a browser shows. -/
def Registry.builtIn (s : Settings) (compiler : Compiler) (b : Browser) : Registry :=
  .builtInWith s compiler (capture b)

end StyleLift
