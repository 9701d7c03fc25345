import StyleLift.Capture.Script
import StyleLift.Json.Value
import StyleLift.Run.Trace

/-! # Capturing a page

A browser session that loads a page and reads its markup and styles. The session is left on every
way out, and a browser that was launched is closed before.
-/
namespace StyleLift

structure CapturedPage where
  html : Text
  styles : Text
deriving DecidableEq

/-- A browser with the page it would show: the steps at which it fails once a session is entered,
the styles that evaluating a script gives, if any, and the markup. -/
structure Browser where
  fault? : BrowserStep → Option Fault
  styles : Option Text
  html : Text

/-- How a page is loaded: the time limit in milliseconds and the state to wait for. -/
structure CaptureOptions where
  timeout : Int
  waitUntil : Text
deriving DecidableEq

def CaptureOptions.default : CaptureOptions := ⟨30000, "networkidle"⟩

/-- An action followed by another, whatever comes of the first. A fault of the second is what stands
then. -/
def Action.ensuring {α : Type} (last : Action Unit) (x : Action α) : Action α :=
  ExceptT.mk do
    let result ← x.run
    let done ← last.run
    return done.bind fun () => result

namespace Browser

/-- A step that may fail; it is on record either way. -/
def perform (b : Browser) (step : BrowserStep) : Action Unit := do
  Action.emit (.browser step)
  match b.fault? step with
  | some fault => throw fault
  | none => pure ()

/-- What is done on a page. -/
def pageSteps (url : Text) (selector : Option Text) (o : CaptureOptions) : List BrowserStep :=
  [.newPage, .goto url o.timeout o.waitUntil, .evaluate Capture.styleScript selector, .content]

def session (b : Browser) (url : Text) (selector : Option Text) (o : CaptureOptions) :
    Action CapturedPage := do
  Action.emit (.browser .enter)
  Action.ensuring (b.perform .exit) do
    b.perform .launch
    Action.ensuring (b.perform .close) do
      (pageSteps url selector o).forM b.perform
      return ⟨b.html, b.styles.getD []⟩

end Browser

/-- A way to capture the page at an address, or one element of it. -/
abbrev PageCapture := Text → Option Text → CaptureOptions → Action CapturedPage

/-- What the browser itself reports is a failed capture. -/
def Fault.ofBrowser (fault : Fault) : Fault :=
  if fault.kind = .browser then
    .capture (Text.ofString "Failed to capture styles: " ++ fault.message) (some .browser)
  else fault

/-- The selector as remarks show it. -/
def shownSelector (selector : Option Text) : Text :=
  match selector with
  | none | some [] => [.char '-']
  | some s => s

def capture (b : Browser) : PageCapture := fun url selector o => do
  Action.log .info (Text.ofString "Capturing " ++ url ++ Text.ofString " (selector=" ++
    shownSelector selector ++ Text.ofString ")")
  let page ← ExceptT.adapt Fault.ofBrowser (b.session url selector o)
  Action.log .info (Text.ofString "Captured " ++ Text.ofNat page.html.length ++
    Text.ofString " bytes of HTML and " ++ Text.ofNat page.styles.length ++
    Text.ofString " bytes of CSS")
  return page

def CapturedPage.toJson (p : CapturedPage) : Json :=
  .obj [("styles", .str p.styles), ("html", .str p.html)]

end StyleLift
