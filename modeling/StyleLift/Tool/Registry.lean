import StyleLift.Run.Trace
import StyleLift.Tool.Schema

/-! # Tool registries

A registry holds tools in the order of their registration; a tool that is registered again keeps
its place. A call checks the arguments before the tool runs, and every failure of the tool becomes a
tool error.
-/
namespace StyleLift

structure ToolDefinition where
  name : Text
  description : Text
  parameters : Json

def ToolDefinition.toJson (d : ToolDefinition) : Json :=
  .obj [("name", .str d.name), ("description", .str d.description), ("inputSchema", d.parameters)]

/-- A definition with what it runs: arguments give the text of the answer. -/
structure Tool where
  definition : ToolDefinition
  execute : Json.Members → Action Text

namespace Tool

def name (t : Tool) : Text := t.definition.name

def failed (name : Text) (fault : Fault) : Fault :=
  .tool ⟨.internalError, Text.ofString "Tool " ++ name ++ Text.ofString " failed: " ++
    fault.message, some fault.kind⟩

/-- The tool error for a fault: bad arguments are the caller's. -/
def blame (name : Text) : Fault → Action Text
  | .tool e => throw (.tool e)
  | .invalidArgument m => throw (.tool ⟨.invalidParams, m, some .invalidArgument⟩)
  | .unsupportedTarget m => throw (.tool ⟨.invalidParams, m, some .unsupportedTarget⟩)
  | fault => do
    Action.log .error (Text.ofString "Tool " ++ name ++ Text.ofString " failed")
    throw (failed name fault)

def run (t : Tool) (arguments : Json.Members) : Action Text :=
  tryCatch (t.execute arguments) (blame t.name)

end Tool

structure Registry where
  tools : List Tool

namespace Registry

def empty : Registry := ⟨[]⟩

/-- Puts a tool in the place of the one with its name, or at the end. -/
def place (t : Tool) : List Tool → List Tool
  | [] => [t]
  | s :: rest => if s.name = t.name then t :: rest else s :: place t rest

def register (r : Registry) (t : Tool) : Registry := ⟨place t r.tools⟩

def unregister (r : Registry) (name : Text) : Registry := ⟨r.tools.filter (·.name ≠ name)⟩

def get? (r : Registry) (name : Text) : Option Tool := r.tools.find? (·.name = name)

def definitions (r : Registry) : List ToolDefinition := r.tools.map Tool.definition

def names (r : Registry) : List Text := r.tools.map Tool.name

def unknownTool (name : Text) : Fault :=
  .tool ⟨.methodNotFound, Text.ofString "Unknown tool: " ++ name, none⟩

/-- Runs a tool on arguments. Whatever counts as empty stands for no arguments. -/
def call (r : Registry) (name : Text) (arguments : Json) : Action Text :=
  match r.get? name with
  | none => throw (unknownTool name)
  | some t => do
    let arguments := if arguments.isEmptyValue then .obj [] else arguments
    let members ← Action.ofExcept id (Schema.check t.definition.parameters arguments)
    t.run members

end Registry
end StyleLift
