import StyleLift.Proofs.Extract.Results
import StyleLift.Proofs.Server.Answers
import StyleLift.Proofs.Tool.Calls
import StyleLift.Tool.BuiltIn

/-! # Calls through the server

A tool called through the server comes to what a call of the registry comes to: the same text, or an
error with the same code and message. The arguments have to fit on the stacks that they pass.
-/
namespace StyleLift
open Server

/-- A value that a request can carry: no text in it has a surrogate, and its numbers are finite and
not too long. No object has a key twice. -/
structure Json.Sendable (v : Json) : Prop where
  scalar : ∀ s ∈ v.strings, s.IsScalar
  readable : v.Readable
  finite : ∀ x, .real x ∈ v.numbers → ∃ negative m e, x = .finite negative m e
  distinct : v.DistinctKeys

/-- The client of a registry in the same process, and the stacks of both. -/
def Client.within (limits : Client.Limits) (stack : Json.Stack) (named : CharacterNames)
    (r : Registry) (origin : Text) : Client :=
  ⟨origin,respondWithin stack r,limits,named⟩

variable {limits : Client.Limits} {stack : Json.Stack} {named : CharacterNames} {r : Registry}
  {name path origin text : Text} {members : Json.Members} {e : ToolError}

namespace Json
variable {v : Json}

theorem Sendable.write (h : v.Sendable) : v.write unescaped true = .ok (v.toText unescaped) := by
  have hnone : v.numbers.findSome? (writeError? true) = none := by
    refine List.findSome?_eq_none_iff.mpr fun n hn => ?_
    have hreadable := h.readable n hn
    cases n with
    | int n => exact if_neg (Nat.not_lt.mpr hreadable)
    | real x =>
      obtain ⟨negative,m,e,rfl⟩ := h.finite x hn
      rfl
    | _ => rfl
  rw [Json.write,hnone]

theorem Sendable.writeWithin {room : Room} (h : v.Sendable) (hroom : room.has v.depth = true) :
    v.writeWithin room unescaped true = .ok (v.toText unescaped) := by
  rw [writeWithin_eq hroom,h.write]

theorem Sendable.encode (h : v.Sendable) :
    Text.encode (v.toText unescaped) = .ok (Text.utf8 (v.toText unescaped)) :=
  Text.encode_of_not_surrogate
    (render_isScalar unescaped_isPlain 0 v fun s hs => .inr (h.scalar s hs))

theorem sendable_nil : Sendable (.obj []) :=
  ⟨fun t ht => (by cases ht),fun n hn => (by cases hn),fun x hx => (by cases hx),
    List.nodup_nil,trivial⟩

/-- The bytes of a request's body are read as the object that was sent. -/
theorem Sendable.loadWithin {room : Room} (h : Sendable (.obj members))
    (hroom : room.has (Json.obj members).depth = true) :
    Json.loadWithin room (Text.utf8 (toText unescaped (.obj members))) = .ok (.obj members) := by
  have hread := loadWithin_obj (s := []) unescaped_isPlain h.readable hroom fun c hc => by cases hc
  rwa [List.append_nil,received_of_not_surrogate _ h.distinct h.scalar] at hread

end Json

namespace Client

variable {c : Client} {target : Text}

/-- The request for a path that can be written. -/
theorem requestFor_eq (htarget : Http.writeTarget? path = some target)
    (h : Json.Sendable (.obj members))
    (hsent : c.limits.sent.room.has (Json.obj members).depth = true) :
    c.requestFor "POST" path (.obj members) = .ok ⟨"POST",c.origin,target,Http.jsonType,
      Text.utf8 (Json.toText Json.unescaped (.obj members))⟩ := by
  rw [requestFor,htarget]
  dsimp only
  rw [h.writeWithin hsent]
  dsimp only
  rw [h.encode]

/-- A call is what the client makes of the answer to its request. -/
theorem callTool_of_answer {response : Http.Response}
    (htarget : Http.writeTarget? (toolPath name) = some target) (h : Json.Sendable (.obj members))
    (hsent : limits.sent.room.has (Json.obj members).depth = true)
    (hanswer : (respondWithin stack r ⟨"POST",origin,target,Http.jsonType,
      Text.utf8 (Json.toText Json.unescaped (.obj members))⟩).outcome = .ok response) :
    ((Client.within limits stack named r origin).callTool name (.obj members)).outcome =
      ((Client.within limits stack named r origin).heard response).outcome >>= firstText := by
  have hrequest := requestFor_eq (c := Client.within limits stack named r origin) htarget h hsent
  have hid : ∀ x : Except Fault Json, x.mapError id = x := fun x => by cases x <;> rfl
  rw [callTool,toolPath_eq,exchange]
  simp only [Action.outcome_bind,Action.outcome_ofExcept,Action.outcome_emit,Action.outcome_adapt,
    hid]
  rw [hrequest]
  exact congrArg (fun answer : Except Fault Http.Response => (answer.mapError Fault.ofNetwork >>=
    fun response => ((Client.within limits stack named r origin).heard response).outcome) >>=
      firstText) hanswer

/-- The object of a call's arguments fits on the stacks of a client and of a server. -/
structure Fits (limits : Client.Limits) (stack : Json.Stack) (members : Json.Members) : Prop where
  sent : limits.sent.room.has (Json.obj members).depth = true
  taken : stack.room.has (Json.obj members).depth = true

/-- What the program itself nests fits everywhere. -/
theorem fits_of_le (h : (Json.obj members).depth ≤ 16) : Fits limits stack members :=
  ⟨Json.Room.has_mono h limits.sent.ample,Json.Room.has_mono h stack.ample⟩

theorem callTool_outcome (hname : IsToolName name) (h : Json.Sendable (.obj members))
    (hfits : Fits limits stack members) :
    ((Client.within limits stack named r origin).callTool name (.obj members)).outcome =
      ((Client.within limits stack named r origin).heard
        (resultResponse (r.call name (.obj members)).outcome)).outcome >>= firstText :=
  callTool_of_answer (writeTarget?_toolPath hname) h hfits.sent
    (respondWithin_tool hname.toIsPlainStep (h.loadWithin hfits.taken))

/-- A request that cannot be made is the end of a call. -/
theorem callTool_refused {fault : Fault} {body : Json}
    (h : c.requestFor "POST" (toolPath name) body = .error fault) :
    (c.callTool name body).outcome = .error fault := by
  rw [callTool,toolPath_eq,exchange]
  simp only [Action.outcome_bind,Action.outcome_ofExcept]
  rw [h]
  rfl

/-- What becomes of an answer whose body is not too deep. -/
theorem heard_outcome {response : Http.Response} {body : Json}
    (hbody : bodyOf c.limits.received.room response = .ok body) : (c.heard response).outcome =
      if 300 ≤ response.status then
        (response.text c.named).mapError Fault.ofContentType >>=
          fun text => .error (.tool (replyError response.status text body))
      else .ok body := by
  rw [heard,hbody,Action.outcome_bind]
  change (if 300 ≤ response.status then (do
    let text ← Action.ofExcept Fault.ofContentType (response.text c.named)
    throw (.tool (replyError response.status text body))) else pure body : Action Json).outcome = _
  split
  · rw [Action.outcome_bind,Action.outcome_ofExcept]
    rfl
  · rfl

theorem heard_content (c : Client) (text : Text) :
    (c.heard (jsonResponse 200 (content text))).outcome >>= firstText = .ok (.str text.joined) := by
  have hstatus : ¬ 300 ≤ (jsonResponse 200 (content text)).status := by
    change ¬ 300 ≤ 200
    decide
  rw [heard_outcome (bodyOf_content _ text),if_neg hstatus]
  rfl

theorem heard_error (c : Client) (code : ErrorCode) (message : Text) :
    (c.heard (errorResponse code message)).outcome =
      .error (.tool ⟨code,message.joined,none⟩) := by
  have hstatus : 300 ≤ errorStatus code := by cases code <;> decide
  obtain ⟨text,htext⟩ : ∃ text, (errorResponse code message).text c.named = .ok text :=
    text_of_utf8 (show _ = some Http.jsonType from rfl) (by decide) (by decide)
  have hreply : replyError (errorStatus code) text (errorBody code message.joined) =
    ⟨code,message.joined,none⟩ := by cases code <;> rfl
  rw [heard_outcome (bodyOf_error _ code message),
    if_pos (show 300 ≤ (errorResponse code message).status from hstatus),htext]
  change Except.error (Fault.tool (replyError (errorStatus code) text _)) = _
  rw [hreply]

/-- The text of a value in ASCII holds no halves to join, and it is read as the value. -/
theorem readValue_toText {v : Json} (hv : v.Readable)
    (hroom : c.limits.result.room.has v.depth = true) :
    c.readValue (.str (v.toText Json.indented).joined) = .ok (v.received true) := by
  have hscalar : (v.toText Json.indented).IsScalar :=
    Json.render_isScalar Json.indented_isPlain 0 v fun _ _ => .inl rfl
  have hread := Json.readWithin_toText (s := []) Json.indented_isPlain hv hroom
    fun c hc => by cases hc
  rw [List.append_nil] at hread
  rw [Text.joined_of_not_surrogate hscalar,readValue,hread]
  rfl

end Client

/-! ## Extraction through the server -/

section Extraction
variable {s : Settings} {compiler : Compiler} {b : Browser} {html styles format : Text}

/-- What the client sends for an extraction. -/
def extractArguments (html styles format : Text) : Json.Members :=
  [("html",.str html),("styles",.str styles),("format",.str format)]

theorem extractArguments_sendable (hh : html.IsScalar) (hs : styles.IsScalar)
    (hf : format.IsScalar) : Json.Sendable (.obj (extractArguments html styles format)) := by
  have hkeys : ([("html" : Text),"styles","format"]).Nodup := by decide
  refine ⟨?_,fun n hn => (by cases hn),fun x hx => (by cases hx),hkeys,trivial,trivial,trivial,
    trivial⟩
  intro t ht
  simp only [Json.strings,Json.stringsOfMembers,extractArguments,List.mem_cons,List.cons_append,
    List.nil_append,List.append_nil,List.not_mem_nil,or_false] at ht
  rcases ht with rfl | rfl | rfl | rfl | rfl | rfl
  · exact Text.isScalar_chars _
  · exact hh
  · exact Text.isScalar_chars _
  · exact hs
  · exact Text.isScalar_chars _
  · exact hf

/-- The text of a successful extraction is that of the value that the conversion gives. -/
theorem extract_call_eq_ok (h : ((Registry.builtIn s compiler b).call "designcopier_extract"
    (.obj (extractArguments html styles format))).outcome = .ok text) :
    ∃ v, (convertTo format html styles compiler).outcome = .ok v ∧
      text = v.toText Json.indented ∧ v.Readable := by
  obtain ⟨t,ht,hexecute⟩ := Registry.call_eq_ok h
  have htool : (Registry.builtIn s compiler b).get? "designcopier_extract" =
    some ⟨BuiltIn.extractDefinition,BuiltIn.extract compiler⟩ := rfl
  obtain rfl := Option.some.inj (ht.symm.trans htool)
  change (BuiltIn.extract compiler (extractArguments html styles format)).outcome = _ at hexecute
  rw [BuiltIn.extract,Action.outcome_bind] at hexecute
  obtain ⟨v,hv,hwrite⟩ := bind_eq_ok.mp hexecute
  rw [Action.outcome_ofExcept] at hwrite
  obtain ⟨htext,hnumbers⟩ := Json.write_eq_ok.mp (mapError_eq_ok.mp hwrite)
  refine ⟨v,hv,htext,fun n hn => ?_⟩
  obtain ⟨status,rfl⟩ := (convertTo_value hv).1 n hn
  have hlimit := hnumbers _ hn
  by_contra hlong
  rw [Json.writeError?,if_pos (Nat.lt_of_not_le hlong)] at hlimit
  cases hlimit

end Extraction

/-! ## Pages -/

/-- A page is no JSON, so what it says becomes the message of an internal error. -/
theorem Client.heard_notFound (c : Client) : ∃ message,
    (c.heard (Refusal.notFound.response [])).outcome =
      .error (.tool ⟨.internalError,message,none⟩) := by
  obtain ⟨rest,hrest⟩ : ∃ rest : Text,
      page (Text.ofNat Refusal.notFound.status ++ Text.ofString " " ++ Refusal.notFound.heading)
        Refusal.notFound.heading (Refusal.notFound.explanation ++ Text.ofString "</p>") =
          .char '<' :: .char '!' :: rest := ⟨_,rfl⟩
  have hbytes : (Refusal.notFound.response []).body =
      Text.utf8 (.char '<' :: .char '!' :: rest) := by
    rw [← hrest]
    rfl
  have hbody : bodyOf c.limits.received.room (Refusal.notFound.response []) = .ok (.obj []) := by
    rw [bodyOf,hbytes,Json.loadOrEmpty?,Json.loadWithin,
      Json.decodeBytes?_opening (by decide) (by decide) (by decide)]
    rfl
  obtain ⟨text,htext⟩ : ∃ text, (Refusal.notFound.response []).text c.named = .ok text :=
    text_of_utf8 (show _ = some Http.htmlType from rfl) (by decide) (by decide)
  have hstatus : 300 ≤ (Refusal.notFound.response []).status := by
    change 300 ≤ 404
    decide
  rw [heard_outcome hbody,if_pos hstatus,htext]
  exact ⟨_,rfl⟩

/-- Without a name the path leads nowhere. -/
theorem Client.callTool_nameless (h : Json.Sendable (.obj members))
    (hfits : Fits limits stack members) : ∃ message,
    ((Client.within limits stack named r origin).callTool [] (.obj members)).outcome =
      .error (.tool ⟨.internalError,message,none⟩) := by
  have htarget : Http.writeTarget? (toolPath []) = some (toolPath []) := by decide
  have hpath : Http.handedPath? (toolPath []) = some (toolPath []) := by decide
  have hmethod : Method.ofName? (Text.ofString "POST") ≠ some .head := by decide
  have hanswer : ∀ body, (respondWithin stack r
      ⟨"POST",origin,toolPath [],Http.jsonType,body⟩).outcome =
        .ok (Refusal.notFound.response []) := fun body =>
    respondWithin_notFound hpath (by decide) (by decide) hmethod
  obtain ⟨message,hmessage⟩ := heard_notFound (Client.within limits stack named r origin)
  refine ⟨message,?_⟩
  rw [callTool_of_answer htarget h hfits.sent (hanswer _),hmessage]
  rfl

/-! ## The client and the registry -/

/-- A call through the server comes to what the call of the registry comes to: the same text, or an
error with the same code and message, where the halves of surrogate pairs that stood side by side
are joined. The arguments have to fit on the stacks of both, as those of an extraction do. So an
extraction gives the value of the conversion, with such halves joined in its strings. -/
theorem transport_transparent :
    (∀ (limits : Client.Limits) (stack : Json.Stack) (named : CharacterNames) (r : Registry)
      (origin name : Text) (members : Json.Members), IsToolName name →
      Json.Sendable (.obj members) →
        Client.Fits limits stack members →
          (∀ text, (r.call name (.obj members)).outcome = .ok text →
            ((Client.within limits stack named r origin).callTool name (.obj members)).outcome =
              .ok (.str text.joined)) ∧
          ∀ e : ToolError, (r.call name (.obj members)).outcome = .error (.tool e) →
            ((Client.within limits stack named r origin).callTool name (.obj members)).outcome =
              .error (.tool ⟨e.code,e.message.joined,none⟩)) ∧
    ∀ (limits : Client.Limits) (stack : Json.Stack) (named : CharacterNames) (s : Settings)
      (compiler : Compiler) (b : Browser) (origin html styles format text : Text),
      html.IsScalar → styles.IsScalar → format.IsScalar →
        ((Registry.builtIn s compiler b).call "designcopier_extract"
          (.obj (extractArguments html styles format))).outcome = .ok text →
        ∃ v, (convertTo format html styles compiler).outcome = .ok v ∧
          ((Client.within limits stack named (Registry.builtIn s compiler b) origin).extract
            html styles format).outcome = .ok (v.received true) ∧
          ((∀ t ∈ v.strings, t.joined = t) → v.received true = v) := by
  refine ⟨fun limits stack named r origin name members hname harguments hfits =>
    ⟨fun text htext => ?_,fun e he => ?_⟩,
    fun limits stack named s compiler b origin html styles format text hh hs hf htext => ?_⟩
  · rw [Client.callTool_outcome hname harguments hfits,htext]
    exact Client.heard_content _ text
  · rw [Client.callTool_outcome hname harguments hfits,he]
    exact congrArg (· >>= Client.firstText) (Client.heard_error _ e.code e.message)
  · obtain ⟨v,hv,rfl,hreadable⟩ := extract_call_eq_ok htext
    refine ⟨v,hv,?_,Json.received_eq true v (convertTo_value hv).2⟩
    have hname : IsToolName "designcopier_extract" := ⟨⟨by decide,by decide⟩,by decide⟩
    have hroom := Json.Room.has_mono (Nat.le_trans (convertTo_depth hv) (by decide))
      limits.result.ample
    rw [Client.extract,Action.outcome_bind,← extractArguments,
      Client.callTool_outcome hname (extractArguments_sendable hh hs hf)
        (Client.fits_of_le (show 1 ≤ 16 by decide)),htext]
    change (((Client.within limits stack named _ origin).heard
      (jsonResponse 200 (content _))).outcome >>= Client.firstText) >>= _ = _
    rw [Client.heard_content]
    change (Action.ofExcept id
      ((Client.within limits stack named _ origin).readValue (.str _))).outcome = _
    rw [Client.readValue_toText hreadable hroom]
    rfl

/-! Calls on stacks with a thousand levels. -/

def Client.Limits.thousandLevels : Client.Limits :=
  ⟨.thousandLevels,.thousandLevels,.thousandLevels⟩

/-- The client of a registry where both have a thousand levels. -/
def Client.nearby (r : Registry) : Client :=
  .within .thousandLevels .thousandLevels (fun _ => none) r "http://localhost"

theorem transport_transparent_css :
    ((Client.nearby (.mk [⟨⟨"empty","",.obj []⟩,fun _ => pure []⟩])).callTool "empty"
      (.obj [("count",.int 2)])).outcome = .ok (.str []) ∧
    ((Client.nearby .empty).callTool "no_tool" (.obj [])).outcome =
      .error (.tool ⟨.methodNotFound,"Unknown tool: no_tool",none⟩) ∧
    ((Client.nearby (.builtIn .default ⟨fun _ _ => pure []⟩ ⟨fun _ => none,none,[]⟩)).extract
      "" ".a {}" "css").outcome = .ok (.str ".a {}") := by
  have hempty : IsToolName "empty" := ⟨⟨by decide,by decide⟩,by decide⟩
  have hunknown : IsToolName "no_tool" := ⟨⟨by decide,by decide⟩,by decide⟩
  have hcount : Json.Sendable (.obj [("count",.int 2)]) := by
    refine ⟨fun t ht => ?_,fun n hn => ?_,
      fun x hx => (by simp [Json.numbers,Json.numbersOfMembers] at hx),by decide,trivial,trivial⟩
    · obtain rfl := List.mem_singleton.mp ht
      exact Text.isScalar_chars _
    · obtain rfl := List.mem_singleton.mp hn
      change (Text.ofNat 2).length ≤ Numeral.digitLimit
      decide
  obtain ⟨v,hv,hextract,-⟩ := transport_transparent.2 .thousandLevels .thousandLevels
    (fun _ => none) .default ⟨fun _ _ => pure []⟩ ⟨fun _ => none,none,[]⟩
    "http://localhost" "" ".a {}" "css" "\".a {}\""
    (Text.isScalar_chars _) (Text.isScalar_chars _) (Text.isScalar_chars _) rfl
  obtain rfl : .str ".a {}" = v := Except.ok.inj hv
  exact ⟨(transport_transparent.1 _ _ _ _ _ _ _ hempty hcount ⟨rfl,rfl⟩).1 [] rfl,
    (transport_transparent.1 _ _ _ _ _ _ _ hunknown Json.sendable_nil ⟨rfl,rfl⟩).2
      ⟨.methodNotFound,"Unknown tool: no_tool",none⟩ rfl,hextract⟩

/-- Without the conditions the two differ: a call without a name finds no path, the path of a long
name is no target, a request holds no half of a surrogate pair and no more lists inside one another
than there are levels, and two halves come back joined. -/
theorem transport_differs :
    ((Registry.empty.call [] (.obj [])).outcome =
        .error (.tool ⟨.methodNotFound,"Unknown tool: ",none⟩) ∧
      ∀ message, ((Client.nearby .empty).callTool [] (.obj [])).outcome ≠
        .error (.tool ⟨.methodNotFound,message,none⟩)) ∧
    ((Registry.empty.call (List.replicate 65526 (.char 'a')) (.obj [])).outcome =
        .error (Registry.unknownTool (List.replicate 65526 (.char 'a'))) ∧
      ∀ e, ((Client.nearby .empty).callTool (List.replicate 65526 (.char 'a'))
        (.obj [])).outcome ≠ .error (.tool e)) ∧
    ((Registry.empty.call "no_tool" (.obj [("x",.str [.surrogate 0])])).outcome =
        .error (.tool ⟨.methodNotFound,"Unknown tool: no_tool",none⟩) ∧
      ∀ e, ((Client.nearby .empty).callTool "no_tool"
        (.obj [("x",.str [.surrogate 0])])).outcome ≠ .error (.tool e)) ∧
    ((Registry.empty.call "no_tool" (.obj [("x",Json.nested 1000)])).outcome =
        .error (.tool ⟨.methodNotFound,"Unknown tool: no_tool",none⟩) ∧
      ∀ e, ((Client.nearby .empty).callTool "no_tool"
        (.obj [("x",Json.nested 1000)])).outcome ≠ .error (.tool e)) ∧
    (((Registry.mk [⟨⟨"pair","",.obj []⟩,fun _ => pure [.surrogate 0,.surrogate 0x400]⟩]).call
        "pair" (.obj [])).outcome = .ok [.surrogate 0,.surrogate 0x400] ∧
      ((Client.nearby (.mk [⟨⟨"pair","",.obj []⟩,fun _ =>
        pure [.surrogate 0,.surrogate 0x400]⟩])).callTool "pair" (.obj [])).outcome =
          .ok (.str [CodePoint.ofNat 0x10000])) := by
  have htarget : Http.writeTarget? (toolPath "no_tool") = some (toolPath "no_tool") := by decide
  refine ⟨⟨rfl,fun message h => ?_⟩,⟨rfl,fun e h => ?_⟩,⟨rfl,fun e h => ?_⟩,⟨rfl,fun e h => ?_⟩,
    rfl,?_⟩
  · obtain ⟨found,hfound⟩ : ∃ message, ((Client.nearby .empty).callTool [] (.obj [])).outcome =
        .error (.tool ⟨.internalError,message,none⟩) :=
      Client.callTool_nameless Json.sendable_nil ⟨rfl,rfl⟩
    cases hfound.symm.trans h
  · have hlong : Http.maxLength < (toolPath (List.replicate 65526 (.char 'a'))).length := by
      rw [length_toolPath,List.length_replicate]
      decide
    have hrefused : (Client.nearby .empty).requestFor "POST"
        (toolPath (List.replicate 65526 (.char 'a'))) (.obj []) =
          .error (.other .malformedUrl "a target is too long or holds control characters") := by
      rw [Client.requestFor,Http.writeTarget?_of_long hlong]
    rw [Client.callTool_refused hrefused] at h
    cases h
  · obtain ⟨error,hrefused⟩ : ∃ error : Text.EncodeError,
        (Client.nearby .empty).requestFor "POST" (toolPath "no_tool")
          (.obj [("x",.str [.surrogate 0])]) = .error (.other .unencodable error.message) := by
      have hwrite : Json.writeWithin (.levels 1000) Json.unescaped true
          (.obj [("x",.str [.surrogate 0])]) =
            .ok (Json.toText Json.unescaped (.obj [("x",.str [.surrogate 0])])) := rfl
      rw [Client.requestFor,htarget]
      dsimp only
      rw [show (Client.nearby .empty).limits.sent.room = .levels 1000 from rfl,hwrite]
      exact ⟨_,rfl⟩
    rw [Client.callTool_refused hrefused] at h
    cases h
  · have hwrite : Json.writeWithin (.levels 1000) Json.unescaped true
        (.obj [("x",Json.nested 1000)]) = .error .tooDeep := Json.writeWithin_nested (Nat.le_refl _)
    have hrefused : (Client.nearby .empty).requestFor "POST" (toolPath "no_tool")
        (.obj [("x",Json.nested 1000)]) = .error .tooDeep := by
      rw [Client.requestFor,htarget]
      dsimp only
      rw [show (Client.nearby .empty).limits.sent.room = .levels 1000 from rfl,hwrite]
      exact congrArg Except.error rfl
    rw [Client.callTool_refused hrefused] at h
    cases h
  · have hname : IsToolName "pair" := ⟨⟨by decide,by decide⟩,by decide⟩
    exact (Client.callTool_outcome hname Json.sendable_nil ⟨rfl,rfl⟩).trans
      (Client.heard_content _ [.surrogate 0,.surrogate 0x400])

end StyleLift
