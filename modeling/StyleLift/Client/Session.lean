import StyleLift.Http.ContentType
import StyleLift.Http.Target
import StyleLift.Json.Encoding
import StyleLift.Json.Printer
import StyleLift.Run.Trace
import StyleLift.Tool.Schema

/-! # The client

Calling the tools of a server. Whatever keeps a request from being answered is a transport fault,
and an answer with a status from 300 on is a tool error. The bodies of other answers are taken as
they come, so one of another shape than the server's is a fault of its own.
-/
namespace StyleLift

/-- Whether nothing came in time. -/
def NetworkKind.isTimeout : NetworkKind → Bool
  | .readTimeout | .connectTimeout | .writeTimeout | .poolTimeout | .timeout => true
  | _ => false

/-- Whether no answer came at all. -/
def NetworkKind.isTransport : NetworkKind → Bool
  | .decoding | .tooManyRedirects | .request | .exchange | .stream | .cookies => false
  | _ => true

def Fault.ofNetwork : Fault → Fault
  | .other (.network k) m =>
    if k.isTimeout then
      .transport (Text.ofString "Request timed out: " ++ m) (some (.network k))
    else if k.isTransport then
      .transport (Text.ofString "Could not reach server: " ++ m) (some (.network k))
    else .other (.network k) m
  | fault => fault

def Fault.tooDeep : Fault := .other .recursion Json.tooDeepMessage

def Fault.ofReadError : Json.ReadError → Fault
  | .malformed => .other .malformedJson "the text is not JSON"
  | .numeral e => .numeral e
  | .tooDeep => .tooDeep

def Fault.ofWriteError : Json.WriteError → Fault
  | .tooDeep => .tooDeep
  | e => .other .badValue e.message

def Fault.ofContentType : Http.ContentTypeError → Fault
  | .mixedPieces => .other .wrongType "numbered pieces and others have no order"
  | .nullInName => .other .badValue "embedded null character"
  | .charset e =>
    .other
      (match e with
        | .noUtf16Mark | .noUtf32Mark | .noReplacement | .shift .longCut => .malformedText
        | .shift .noSingle => .runtime
        | .shift .illegal | .noDigits => .undecodable
        | .givesBytes => .brokenAssumption
        | .takesText => .wrongType)
      e.message

/-- The room for nesting where a client writes what it sends, and where it reads the body of an
answer and the text that an answer holds. -/
structure Client.Limits where
  sent : Json.Stack
  received : Json.Stack
  result : Json.Stack

/-- What carries a request to the server at an origin and brings the answer back. A text of the
answer may name characters. -/
structure Client where
  origin : Text
  send : Http.Request → Action Http.Response
  limits : Client.Limits
  named : CharacterNames

namespace Client

/-- The tool error for an answer: by the code and the message of its body, if it has them. -/
def replyError (status : Nat) (text : Text) (body : Json) : ToolError :=
  let error := match body with
    | .obj members => Json.member? "error" members
    | _ => none
  match error with
  | some (.obj members) =>
    let code := match Json.member? "code" members with
      | some (.str name) => (ErrorCode.ofName? name).getD .internalError
      | _ => .internalError
    ⟨code, ((Json.member? "message" members).map Json.display).getD text, none⟩
  | _ =>
    ⟨.internalError,
      Text.ofString "HTTP " ++ Text.ofNat status ++ Text.ofString ": " ++ text, none⟩

/-- The body of an answer. One that cannot be read counts as an empty object, but what is nested too
deeply to be read is a fault. -/
def bodyOf (room : Json.Room) (response : Http.Response) : Except Fault Json :=
  match Json.loadOrEmpty? room response.body with
  | some body => .ok body
  | none => .error .tooDeep

/-- What a client makes of an answer: the body, or the tool error that it tells of. -/
def heard (c : Client) (response : Http.Response) : Action Json := do
  let body ← Action.ofExcept id (bodyOf c.limits.received.room response)
  if 300 ≤ response.status then
    let text ← Action.ofExcept Fault.ofContentType (response.text c.named)
    throw (.tool (replyError response.status text body))
  return body

/-- The request for a path, with a body of JSON or none. -/
def requestFor (c : Client) (method path : Text) (body : Json) : Except Fault Http.Request :=
  match Http.writeTarget? path with
  | none => .error (.other .malformedUrl "a target is too long or holds control characters")
  | some target =>
    match body with
    | .null => .ok ⟨method, c.origin, target, [], []⟩
    | body =>
      match body.writeWithin c.limits.sent.room Json.unescaped true with
      | .error e => .error (.ofWriteError e)
      | .ok text =>
        match Text.encode text with
        | .error e => .error (.other .unencodable e.message)
        | .ok bytes => .ok ⟨method, c.origin, target, Http.jsonType, bytes⟩

/-- Sends a request and gives the body of the answer. -/
def exchange (c : Client) (method path : Text) (body : Json) : Action Json := do
  let request ← Action.ofExcept id (c.requestFor method path body)
  Action.emit (.request request)
  c.heard (← ExceptT.adapt Fault.ofNetwork (c.send request))

def toolsPath : Text := "/api/tools"

def listTools (c : Client) : Action Json := do
  let body ← c.exchange "GET" toolsPath .null
  return (← Action.ofExcept id (body.member "tools")).getD (.arr [])

/-- The first item of a value, if that is a list or a string. -/
def firstItem : Json → Except Fault Json
  | .arr (item :: _) => .ok item
  | .str (c :: _) => .ok (.str [c])
  | .obj _ => .error (.missingKey "0")
  | _ => .error .notContainer

/-- The text of the first content item of an answer. Without content it is empty. -/
def firstText (body : Json) : Except Fault Json := do
  let content := (← body.member "content").getD .null
  if content.isEmptyValue then return .str []
  return (← (← firstItem content).member "text").getD (.str [])

def callTool (c : Client) (name : Text) (arguments : Json) : Action Json := do
  let body ← c.exchange "POST" (toolsPath ++ Text.ofString "/" ++ name) arguments
  Action.ofExcept id (firstText body)

/-- The value that a tool's answer writes as JSON. -/
def readValue (c : Client) : Json → Except Fault Json
  | .str s => (Json.readWithin c.limits.result.room s).mapError .ofReadError
  | _ => .error .notContainer

/-! ## The built-in tools -/

/-- An empty selector is not sent. -/
def snapshot (c : Client) (url : Text) (selector : Option Text) : Action Json := do
  let chosen := match selector with
    | none | some [] => []
    | some s => [("selector", Json.str s)]
  let text ← c.callTool "designcopier_snapshot" (.obj (("url", .str url) :: chosen))
  Action.ofExcept id (c.readValue text)

def extract (c : Client) (html styles format : Text) : Action Json := do
  let text ← c.callTool "designcopier_extract"
    (.obj [("html", .str html), ("styles", .str styles), ("format", .str format)])
  Action.ofExcept id (c.readValue text)

def apply (c : Client) (styles framework name : Text) : Action Json :=
  c.callTool "designcopier_apply"
    (.obj [("styles", .str styles), ("targetFramework", .str framework),
      ("componentName", .str name)])

end Client
end StyleLift
