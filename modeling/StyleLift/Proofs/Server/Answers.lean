import StyleLift.Client.Session
import StyleLift.Proofs.Http.Paths
import StyleLift.Proofs.Json.Nesting
import StyleLift.Proofs.Run.Outcome
import StyleLift.Server.Api

/-! # Answers to tool calls

A request for a tool that brings an object is answered by what the call of the tool comes to: its
text in an envelope, or its error in another. A client finds in the envelope what was put there,
with the surrogate pairs joined. A body that is nested too deeply for the server is answered with
the page for faults.
-/
namespace StyleLift

namespace Server
open Http

variable {stack : Json.Stack} {r : Registry} {name origin text message : Text} {body : List UInt8}
  {members : Json.Members} {code : ErrorCode}

/-! ## Requests for a tool -/

/-- A name that a path can end in. -/
structure IsToolName (name : Text) : Prop extends IsPlainStep name where
  short : name.length ≤ 65525

/-- The path of a tool. -/
def toolPath (name : Text) : Text := pathOfSteps [Text.ofString "api",Text.ofString "tools",name]

theorem toolPath_eq (name : Text) :
    Client.toolsPath ++ Text.ofString "/" ++ name = toolPath name := by
  simp [toolPath,pathOfSteps,Client.toolsPath,Text.ofString,slash]

theorem length_toolPath (name : Text) : (toolPath name).length = name.length + 11 := by
  simp [toolPath,pathOfSteps,Text.ofString]

theorem toolSteps_plain (h : IsPlainStep name) :
    ∀ step ∈ [Text.ofString "api",Text.ofString "tools",name], IsPlainStep step := by
  intro step hstep
  simp only [List.mem_cons,List.not_mem_nil,or_false] at hstep
  rcases hstep with rfl | rfl | rfl
  · exact ⟨by decide,by decide⟩
  · exact ⟨by decide,by decide⟩
  · exact h

theorem writeTarget?_toolPath (h : IsToolName name) :
    writeTarget? (toolPath name) = some (toolPath name) := by
  refine writeTarget?_pathOfSteps (toolSteps_plain h.toIsPlainStep) (List.cons_ne_nil _ _) ?_
  rw [← toolPath,length_toolPath,maxLength]
  have := h.short
  omega

theorem ofPath?_toolPath (h : IsPlainStep name) :
    Route.ofPath? (toolPath name) = some (.tool name) := by
  rw [Route.ofPath?,toolPath,splitOn_pathOfSteps (toolSteps_plain h),List.drop_succ_cons,
    List.drop_zero]
  change (if Text.ofString "tools" = Text.ofString "tools" ∧ name ≠ [] then some (Route.tool name)
    else none) = _
  rw [if_pos ⟨rfl,h.nonempty⟩]

/-- A request that is posted for a tool is answered by a call of it. -/
theorem respondAt_posted {q : Request} (h : IsPlainStep name) (hmethod : q.method = "POST") :
    (respondAt stack r (toolPath name) q).result = (callTool stack r name q).result := by
  have hpost : Method.ofName? q.method = some .post := by
    rw [hmethod]
    decide
  have hanswer : (answerAt stack r (toolPath name) q).result =
      (callTool stack r name q).result := by
    rw [answerAt,ofPath?_toolPath h]
    dsimp only
    rw [hpost]
    rfl
  rw [respondAt,Traced.result_bind,hanswer,hpost]
  rfl

theorem respondWithin_posted {q : Request} (h : IsPlainStep name) (hmethod : q.method = "POST")
    (htarget : q.target = toolPath name) :
    (respondWithin stack r q).outcome = .ok (callTool stack r name q).result := by
  have hpath : handedPath? q.target = some (toolPath name) := by
    rw [htarget]
    exact handedPath?_pathOfSteps (toolSteps_plain h) (List.cons_ne_nil _ _)
  rw [respondWithin,hpath]
  change Except.ok (respondAt stack r (toolPath name) _).result = _
  rw [respondAt_posted h hmethod]

theorem respond_posted {q : Request} (h : IsPlainStep name) (hmethod : q.method = "POST")
    (htarget : q.target = toolPath name) (htype : isHeaderValue q.contentType = true) :
    (respond stack r q).outcome = .ok (callTool stack r name q).result := by
  have hpath : pathOf q.target = .ok (toolPath name) := by
    rw [htarget]
    exact pathOf_pathOfSteps (toolSteps_plain h) (List.cons_ne_nil _ _)
  rw [respond,hpath,htype]
  change Except.ok (respondAt stack r (toolPath name) _).result = _
  rw [respondAt_posted h hmethod]

theorem callTool_result {q : Request} (harguments : argumentsOf? stack q = some (.obj members)) :
    (callTool stack r name q).result = resultResponse (r.call name (.obj members)).outcome := by
  rw [callTool,harguments]
  rfl

theorem callTool_notObject {q : Request} {v : Json} (harguments : argumentsOf? stack q = some v)
    (hv : ∀ members, v ≠ .obj members) : (callTool stack r name q).result = notObject := by
  rw [callTool,harguments]
  cases v with
  | obj members => exact absurd rfl (hv members)
  | _ => rfl

theorem callTool_failed {q : Request} (harguments : argumentsOf? stack q = none) :
    (callTool stack r name q).result = failed := by
  rw [callTool,harguments]
  rfl

/-- What a request for a tool with an object of arguments is answered with. -/
theorem respondWithin_tool (h : IsPlainStep name)
    (hbody : Json.loadWithin stack.room body = .ok (.obj members)) :
    (respondWithin stack r ⟨"POST",origin,toolPath name,jsonType,body⟩).outcome =
      .ok (resultResponse (r.call name (.obj members)).outcome) := by
  have harguments : argumentsOf? stack ⟨"POST",origin,toolPath name,jsonType,body⟩ =
      some (.obj members) := by
    have hjson : isJson jsonType = true := by decide
    rw [argumentsOf?,if_pos hjson,Json.loadOrEmpty?_of_eq_ok hbody]
    rfl
  rw [respondWithin_posted h rfl rfl,callTool_result harguments]

/-- A path that leads nowhere, also once its runs of slashes are made one. -/
theorem respondWithin_notFound {q : Request} {path : Text}
    (hpath : handedPath? q.target = some path) (hroute : Route.ofPath? path = none)
    (hmerged : Route.ofPath? (mergeSlashes path) = none)
    (hmethod : Method.ofName? q.method ≠ some .head) :
    (respondWithin stack r q).outcome = .ok (Refusal.notFound.response []) := by
  have hanswer : answerAt stack r path q = pure (Refusal.notFound.response []) := by
    rw [answerAt,hroute]
    dsimp only
    rw [hmerged]
  rw [respondWithin,hpath]
  change Except.ok (respondAt stack r path q).result = _
  rw [respondAt,hanswer]
  change Except.ok (if Method.ofName? q.method = some .head then _
    else Refusal.notFound.response []) = _
  rw [if_neg hmethod]

/-! ## Envelopes -/

theorem content_sortKeys (text : Text) : (content text).sortKeys =
    .obj [("content",.arr [.obj [("text",.str text),("type",.str "text")]])] := by
  have horder : Text.le "type" "text" = false := by decide
  simp [content,Json.sortKeys,Json.sortItems,Json.sortMembers,List.mergeSort,
    List.MergeSort.Internal.splitInTwo,horder]

/-- The body of an error, before its keys are sorted. -/
def errorBody (code : ErrorCode) (message : Text) : Json :=
  .obj [("error",.obj [("code",.str code.name),("message",.str message)])]

theorem errorBody_sortKeys (code : ErrorCode) (message : Text) :
    (errorBody code message).sortKeys = errorBody code message := by
  have horder : Text.le "code" "message" = true := by decide
  simp [errorBody,Json.sortKeys,Json.sortMembers,List.mergeSort,
    List.MergeSort.Internal.splitInTwo,horder]

theorem loadWithin_jsonResponse {v : Json} {room : Json.Room} (hsorted : v.sortKeys = .obj members)
    (hv : Json.Readable (.obj members)) (hroom : room.has (Json.obj members).depth = true)
    (status : Nat) : Json.loadWithin room (jsonResponse status v).body =
      .ok (Json.received true (.obj members)) := by
  have hspaces : Json.IsSpaces [.char '\n'] := by decide
  rw [jsonResponse,jsonText,hsorted]
  exact Json.loadWithin_obj Json.compact_isPlain hv hroom hspaces

/-- What is read in the answer for a text. -/
theorem loadWithin_content {room : Json.Room} (hroom : room.has 3 = true) (text : Text) :
    Json.loadWithin room (jsonResponse 200 (content text)).body =
      .ok (.obj [("content",.arr [.obj [("text",.str text.joined),("type",.str "text")]])]) := by
  rw [loadWithin_jsonResponse (content_sortKeys text) (fun n hn => by cases hn) hroom]
  rfl

/-- What is read in the answer for an error. -/
theorem loadWithin_error {room : Json.Room} (hroom : room.has 2 = true) (code : ErrorCode)
    (message : Text) : Json.loadWithin room (errorResponse code message).body =
      .ok (errorBody code message.joined) := by
  have hreadable : Json.Readable (errorBody code message) := fun n hn => by cases hn
  rw [errorResponse,← errorBody,
    loadWithin_jsonResponse (errorBody_sortKeys code message) hreadable hroom]
  cases code <;> rfl

theorem ofBytes?_content (text : Text) : Json.ofBytes? (jsonResponse 200 (content text)).body =
    some (.obj [("content",.arr [.obj [("text",.str text.joined),("type",.str "text")]])]) := by
  rw [Json.ofBytes?_eq,loadWithin_content rfl]
  rfl

theorem ofBytes?_error (code : ErrorCode) (message : Text) :
    Json.ofBytes? (errorResponse code message).body = some (errorBody code message.joined) := by
  rw [Json.ofBytes?_eq,loadWithin_error rfl]
  rfl

/-- What a client finds in the answer for a text. -/
theorem bodyOf_content (stack : Json.Stack) (text : Text) :
    Client.bodyOf stack.room (jsonResponse 200 (content text)) =
      .ok (.obj [("content",.arr [.obj [("text",.str text.joined),("type",.str "text")]])]) := by
  have hroom := Json.Room.has_mono (show 3 ≤ 16 by decide) stack.ample
  rw [Client.bodyOf,Json.loadOrEmpty?_of_eq_ok (loadWithin_content hroom text)]

/-- What a client finds in the answer for an error. -/
theorem bodyOf_error (stack : Json.Stack) (code : ErrorCode) (message : Text) :
    Client.bodyOf stack.room (errorResponse code message) =
      .ok (errorBody code message.joined) := by
  have hroom := Json.Room.has_mono (show 2 ≤ 16 by decide) stack.ample
  rw [Client.bodyOf,Json.loadOrEmpty?_of_eq_ok (loadWithin_error hroom code message)]

/-- The charset of a content type that has no values in pieces. -/
def plainCharset (type : Text) : Except ContentTypeError Charset :=
  match (parameter? "charset" type).filter fun label => label.all (·.val < 128) with
  | none => .ok .utf8
  | some label => (findCharset label).map (·.getD .utf8)

/-- Which characters have names matters only to values in pieces. -/
theorem charsetOf_eq {named : CharacterNames} {type : Text} (hpieces : pieces type = []) :
    charsetOf named type = plainCharset type := by
  have hnone : piecesOf "charset" type = [] := by rw [piecesOf,hpieces,List.filterMap_nil]
  have hvalue : value? named "charset" type = .ok (parameter? "charset" type) := by
    rw [value?,hnone]
    cases parameter? "charset" type <;> rfl
  rw [charsetOf,hpieces,hvalue,plainCharset]
  change (match (parameter? "charset" type).filter fun label => label.all (·.val < 128) with
    | none => (.ok .utf8 : Except ContentTypeError Charset)
    | some label => (findCharset label).bind fun found => .ok (found.getD .utf8)) = _
  split
  · rfl
  · next label _ => cases findCharset label <;> rfl

/-- The body of an answer in UTF-8 is a text, whatever its bytes are. -/
theorem text_of_utf8 {named : CharacterNames} {response : Response} {type : Text}
    (htype : response.headers.lookup contentTypeHeader = some type) (hpieces : pieces type = [])
    (hcharset : plainCharset type = .ok .utf8) : ∃ text, response.text named = .ok text := by
  rw [Response.text,htype,Option.getD_some,charsetOf_eq hpieces,hcharset]
  split
  · exact ⟨_,rfl⟩
  · exact ⟨_,rfl⟩

end Server
end StyleLift
