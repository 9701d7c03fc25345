import StyleLift.Http.Message
import StyleLift.Number.Decimal
import StyleLift.Run.Fault

/-! # Traces

A step of the program gives a result and the events it caused, in order: remarks in the log, runs
of the compiler, requests to a server, and what a browser was told to do. A step that fails keeps
its events.
-/
namespace StyleLift

inductive Level
  | debug
  | info
  | warning
  | error
deriving DecidableEq

/-- A run of the compiler's program: its arguments and time limit in seconds, the directory it runs
in, and the files laid out for it by their paths. -/
structure Invocation where
  arguments : List Text
  timeout : Binary64
  directory : Option Text
  files : List (Text × Text)
deriving DecidableEq

/-- What a browser is told to do in a session. -/
inductive BrowserStep
  | enter
  | launch
  | newPage
  | goto (url : Text) (timeout : Int) (waitUntil : Text)
  | evaluate (script : Text) (selector : Option Text)
  | content
  | close
  | exit
deriving DecidableEq

inductive Event
  | log (level : Level) (message : Text)
  | compile (stylesheet : Text) (documents : List Text)
  | run (invocation : Invocation)
  | browser (step : BrowserStep)
  | request (request : Http.Request)
deriving DecidableEq

structure Traced (α : Type) where
  result : α
  events : List Event

namespace Traced

instance : Monad Traced where
  pure a := ⟨a, []⟩
  bind x f :=
    let y := f x.result
    ⟨y.result, x.events ++ y.events⟩

@[simp] theorem result_bind {α β : Type} (x : Traced α) (f : α → Traced β) :
    (x >>= f).result = (f x.result).result := rfl

@[simp] theorem events_bind {α β : Type} (x : Traced α) (f : α → Traced β) :
    (x >>= f).events = x.events ++ (f x.result).events := rfl

@[simp] theorem result_pure {α : Type} (a : α) : (pure a : Traced α).result = a := rfl

@[simp] theorem events_pure {α : Type} (a : α) : (pure a : Traced α).events = [] := rfl

end Traced

/-- A step that may fail. -/
abbrev Action := ExceptT Fault Traced

namespace Action

def emit (event : Event) : Action Unit := ExceptT.mk ⟨.ok (), [event]⟩

def log (level : Level) (message : Text) : Action Unit := emit (.log level message)

/-- A result without events. -/
def ofExcept {ε α : Type} (fault : ε → Fault) : Except ε α → Action α
  | .ok a => pure a
  | .error e => throw (fault e)

end Action
end StyleLift
