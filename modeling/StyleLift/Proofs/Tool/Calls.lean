import StyleLift.Proofs.Tool.Checking
import StyleLift.Tool.Registry

/-! # Calls of tools

A call either runs its tool once, on the arguments as they were given, or runs nothing. Whatever a
run fails with becomes a tool error.
-/
namespace StyleLift

namespace Tool
variable {t : Tool} {name text : Text} {members : Json.Members} {fault : Fault}

/-- The tool error that a fault of a run becomes. -/
def blamed (name : Text) : Fault → ToolError
  | .tool e => e
  | .invalidArgument m => ⟨.invalidParams,m,some .invalidArgument⟩
  | .unsupportedTarget m => ⟨.invalidParams,m,some .unsupportedTarget⟩
  | fault => ⟨.internalError,Text.ofString "Tool " ++ name ++ Text.ofString " failed: " ++
      fault.message,some fault.kind⟩

/-- What is left in the log of a fault that nobody foresaw. -/
def remarks (name : Text) : Fault → List Event
  | .tool _ | .invalidArgument _ | .unsupportedTarget _ => []
  | _ => [.log .error (Text.ofString "Tool " ++ name ++ Text.ofString " failed")]

theorem blame_outcome (name : Text) (fault : Fault) :
    (blame name fault).outcome = .error (.tool (blamed name fault)) := by
  cases fault <;> rfl

theorem blame_events (name : Text) (fault : Fault) :
    (blame name fault).events = remarks name fault := by
  cases fault <;> rfl

theorem run_outcome (t : Tool) (members : Json.Members) : (t.run members).outcome =
    (t.execute members).outcome.mapError fun fault => .tool (blamed t.name fault) := by
  rw [run,Action.outcome_tryCatch]
  cases (t.execute members).outcome with
  | ok text => rfl
  | error fault => exact blame_outcome t.name fault

/-- A run leaves the events of one execution, and a remark if that fails in an unforeseen way. -/
theorem run_events (t : Tool) (members : Json.Members) : (t.run members).events =
    (t.execute members).events ++ match (t.execute members).outcome with
      | .ok _ => []
      | .error fault => remarks t.name fault := by
  rw [run,Action.events_tryCatch]
  cases (t.execute members).outcome with
  | ok text => rfl
  | error fault => exact congrArg _ (blame_events t.name fault)

theorem run_eq_ok :
    (t.run members).outcome = .ok text ↔ (t.execute members).outcome = .ok text := by
  rw [run_outcome,mapError_eq_ok]

theorem run_eq_error : (t.run members).outcome = .error fault ↔
    ∃ cause, (t.execute members).outcome = .error cause ∧ fault = .tool (blamed t.name cause) := by
  rw [run_outcome,mapError_eq_error]
  simp only [eq_comm]

end Tool

namespace Registry
variable {r : Registry} {t : Tool} {name text : Text} {members : Json.Members}

theorem call_unknown (h : r.get? name = none) (arguments : Json) :
    r.call name arguments = throw (unknownTool name) := by
  rw [call,h]

theorem call_known (ht : r.get? name = some t) : r.call name (.obj members) =
    Action.ofExcept id (Schema.check t.definition.parameters (.obj members)) >>= t.run := by
  have harguments : (if (Json.obj members).isEmptyValue then .obj [] else .obj members) =
      Json.obj members := by
    cases members <;> rfl
  rw [call,ht]
  dsimp only
  rw [harguments]

/-- Arguments that the tool accepts are what it is run on. -/
theorem call_accepted (ht : r.get? name = some t)
    (h : Schema.Accepts t.definition.parameters members) :
    r.call name (.obj members) = t.run members := by
  obtain ⟨found,hfound⟩ := Schema.check_returns.mpr h
  obtain rfl := Schema.check_eq_ok hfound
  rw [call_known ht,hfound]
  rfl

/-- With other arguments nothing is run. -/
theorem call_refused (ht : r.get? name = some t)
    (h : ¬ Schema.Accepts t.definition.parameters members) :
    ∃ fault, Schema.check t.definition.parameters (.obj members) = .error fault ∧
      r.call name (.obj members) = throw fault := by
  rw [call_known ht]
  cases hcheck : Schema.check t.definition.parameters (.obj members) with
  | ok found => exact absurd (Schema.check_returns.mp ⟨found,hcheck⟩) h
  | error fault => exact ⟨fault,rfl,rfl⟩

/-- A call that succeeds is a run of the tool on the arguments. -/
theorem call_eq_ok (h : (r.call name (.obj members)).outcome = .ok text) :
    ∃ t, r.get? name = some t ∧ (t.execute members).outcome = .ok text := by
  cases ht : r.get? name with
  | none =>
    rw [call_unknown ht] at h
    cases h
  | some t =>
    by_cases haccepts : Schema.Accepts t.definition.parameters members
    · rw [call_accepted ht haccepts] at h
      exact ⟨t,rfl,Tool.run_eq_ok.mp h⟩
    · obtain ⟨fault,-,hfault⟩ := call_refused ht haccepts
      rw [hfault] at h
      cases h

end Registry
end StyleLift
