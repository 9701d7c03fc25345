import StyleLift.Proofs.Component.Sources
import StyleLift.Proofs.Server.Answers
import StyleLift.Proofs.Tool.Attribution

/-! # Every posted call is answered

Whatever bytes are posted for a built-in tool, the answer is an object in JSON that every origin may
read: the text of the call, its error, or the refusal of a body that is JSON but no object. Only a
body that is nested too deeply for the server's stack is answered with the page for faults.
-/
namespace StyleLift

/-! ## Texts of the built-in tools -/

/-- A value has no surrogate in any of its strings. -/
def Json.IsScalar (v : Json) : Prop := ∀ t ∈ v.strings, t.IsScalar

theorem Json.mem_strings_of_mem {members : Json.Members} {key t : Text}
    (h : (key,.str t) ∈ members) : t ∈ (Json.obj members).strings := by
  change t ∈ stringsOfMembers members
  induction members with
  | nil => cases h
  | cons member members ih =>
    obtain ⟨k,v⟩ := member
    rw [stringsOfMembers,List.cons_append,List.mem_cons,List.mem_append]
    rcases List.mem_cons.mp h with h | h
    · cases h
      exact .inr (.inl (List.mem_singleton_self t))
    · exact .inr (.inr (ih h))

namespace BuiltIn
variable {members : Json.Members}

theorem text_isScalar (h : Json.IsScalar (.obj members)) (key : Text) :
    (text key members).IsScalar := by
  rw [text,text?]
  split
  · next t ht =>
    obtain ⟨before,after,rfl,-⟩ := List.lookup_eq_some_iff.mp ht
    have hmem : (key,Json.str t) ∈ before ++ (key,.str t) :: after := by simp
    exact h t (Json.mem_strings_of_mem hmem)
  · exact fun c hc => by cases hc

/-- The text of a value in ASCII. -/
theorem toText_indented_isScalar (v : Json) : (v.toText Json.indented).IsScalar :=
  Json.render_isScalar Json.indented_isPlain 0 v fun _ _ => .inl rfl

/-- No surrogate comes out of a built-in tool where none goes in. -/
theorem call_isScalar {s : Settings} {compiler : Compiler} {take : PageCapture} {name t : Text}
    (hmembers : Json.IsScalar (.obj members))
    (h : ((Registry.builtInWith s compiler take).call name (.obj members)).outcome = .ok t) :
    t.IsScalar := by
  obtain ⟨tool,htool,hrun⟩ := Registry.call_eq_ok h
  have hmem := List.mem_of_find?_eq_some htool
  simp only [Registry.builtInWith_tools,List.mem_cons,List.not_mem_nil,or_false] at hmem
  rcases hmem with rfl | rfl | rfl
  · simp only [snapshot,Action.outcome_bind,Action.outcome_pure] at hrun
    obtain ⟨page,-,hpage⟩ := bind_eq_ok.mp hrun
    cases hpage
    exact toText_indented_isScalar _
  · simp only [extract,Action.outcome_bind,Action.outcome_ofExcept] at hrun
    obtain ⟨v,-,hwrite⟩ := bind_eq_ok.mp hrun
    rw [(Json.write_eq_ok.mp (mapError_eq_ok.mp hwrite)).1]
    exact toText_indented_isScalar _
  · dsimp only at hrun
    rw [apply_outcome,frameworkComponent] at hrun
    split at hrun
    · cases hrun
    · next f _ =>
      split at hrun
      · cases hrun
        exact f.component_isScalar (text_isScalar hmembers _) (text_isScalar hmembers _)
      · cases hrun

end BuiltIn

namespace Server
open Http

/-! ## What a request brings -/

/-- The arguments that a request brings: the object in its body, or none if the body is null, cannot
be read or is of another type. -/
inductive Brings (q : Request) : Json.Members → Prop
  | object {members : Json.Members} (htype : isJson q.contentType = true)
      (h : Json.ofBytes? q.body = some (.obj members)) : Brings q members
  | null (htype : isJson q.contentType = true) (h : Json.ofBytes? q.body = some .null) : Brings q []
  | unreadable (htype : isJson q.contentType = true) (h : Json.ofBytes? q.body = none) : Brings q []
  | otherType (htype : isJson q.contentType = false) : Brings q []

/-- A body that is JSON but neither an object nor null. -/
def BringsOther (q : Request) : Prop := isJson q.contentType = true ∧
  ∃ v, Json.ofBytes? q.body = some v ∧ v ≠ .null ∧ ∀ members, v ≠ .obj members

variable {stack : Json.Stack} {q : Request} {members : Json.Members}

theorem brings_cases (q : Request) : BringsOther q ∨ ∃ members, Brings q members := by
  cases htype : isJson q.contentType with
  | false => exact .inr ⟨[],.otherType htype⟩
  | true =>
    cases hbody : Json.ofBytes? q.body with
    | none => exact .inr ⟨[],.unreadable htype hbody⟩
    | some v =>
      cases v with
      | null => exact .inr ⟨[],.null htype hbody⟩
      | obj members => exact .inr ⟨members,.object htype hbody⟩
      | _ => exact .inl ⟨htype,_,hbody,fun h => (by cases h),fun _ h => by cases h⟩

/-- A body that is to be JSON and is nested too deeply for a stack. -/
def IsTooDeep (stack : Json.Stack) (q : Request) : Prop :=
  isJson q.contentType = true ∧ Json.loadWithin stack.room q.body = .error .tooDeep

theorem argumentsOf?_eq_none : argumentsOf? stack q = none ↔ IsTooDeep stack q := by
  rw [argumentsOf?,IsTooDeep,← Json.loadOrEmpty?_eq_none]
  split
  · next htype => rw [Option.map_eq_none_iff,and_iff_right htype]
  · next htype => exact iff_of_false (fun h => by cases h) fun h => htype h.1

/-- What is not too deep brings the value of its body, where an empty object stands for null and for
what cannot be read. -/
theorem argumentsOf?_eq (htype : isJson q.contentType = true) (hdeep : ¬ IsTooDeep stack q) :
    argumentsOf? stack q = some (if ((Json.ofBytes? q.body).getD (.obj [])).isNull then .obj []
      else (Json.ofBytes? q.body).getD (.obj [])) := by
  rw [argumentsOf?,if_pos htype,Json.loadOrEmpty?_eq fun h => hdeep ⟨htype,h⟩]
  rfl

theorem Brings.argumentsOf? (h : Brings q members) (hdeep : ¬ IsTooDeep stack q) :
    Server.argumentsOf? stack q = some (.obj members) := by
  cases h with
  | object htype h => rw [argumentsOf?_eq htype hdeep,h]; rfl
  | null htype h => rw [argumentsOf?_eq htype hdeep,h]; rfl
  | unreadable htype h => rw [argumentsOf?_eq htype hdeep,h]; rfl
  | otherType htype => rw [Server.argumentsOf?,if_neg (by rw [htype]; decide)]

theorem BringsOther.argumentsOf? (h : BringsOther q) (hdeep : ¬ IsTooDeep stack q) :
    ∃ v, Server.argumentsOf? stack q = some v ∧ ∀ members, v ≠ .obj members := by
  obtain ⟨htype,v,hbody,hnull,hobject⟩ := h
  refine ⟨v,?_,hobject⟩
  rw [argumentsOf?_eq htype hdeep,hbody,Option.getD_some]
  cases v with
  | null => exact absurd rfl hnull
  | _ => rfl

/-! ## Answers -/

/-- An object in JSON that every origin may read, with a status of its kind. -/
structure IsJsonAnswer (response : Response) : Prop where
  status : response.status ∈ [200,400,404,500]
  headers : ∀ header ∈ (contentTypeHeader,jsonType) :: crossOriginHeaders, header ∈ response.headers
  body : ∃ members, Json.ofBytes? response.body = some (.obj members)

theorem isJsonAnswer_content (text : Text) : IsJsonAnswer (jsonResponse 200 (content text)) :=
  ⟨List.mem_cons_self,fun _ h => h,_,ofBytes?_content text⟩

theorem isJsonAnswer_error (code : ErrorCode) (message : Text) :
    IsJsonAnswer (errorResponse code message) := by
  have hstatus : errorStatus code ∈ [200,400,404,500] := by cases code <;> decide
  exact ⟨hstatus,fun _ h => h,_,ofBytes?_error code message⟩

/-- A call that is posted for a built-in tool under a name of ASCII letters, digits, low lines and
hyphens is answered in JSON, whatever the content type and the bytes of the body are, as long as
these are not nested too deeply. A body that is JSON but neither an object nor null is refused.
Otherwise the answer has the text of the call, which is the same text where no surrogate was sent,
or the code and the message of its error. -/
theorem posted_calls_answered (stack : Json.Stack) (s : Settings) (compiler : Compiler)
    (take : PageCapture) {name : Text} (hname : IsPlainStep name) (hmethod : q.method = "POST")
    (htarget : q.target = toolPath name) (hdeep : ¬ IsTooDeep stack q) :
    ∃ response : Response,
      (respondWithin stack (.builtInWith s compiler take) q).outcome = .ok response ∧
      (isHeaderValue q.contentType = true →
        (respond stack (.builtInWith s compiler take) q).outcome = .ok response) ∧
      IsJsonAnswer response ∧ (BringsOther q ∨ ∃ members, Brings q members) ∧
      (BringsOther q → response = errorResponse .invalidParams "arguments must be a JSON object" ∧
        response.status = 400 ∧ Json.ofBytes? response.body =
          some (errorBody .invalidParams "arguments must be a JSON object")) ∧
      ∀ members, Brings q members →
        ((∃ t, ((Registry.builtInWith s compiler take).call name (.obj members)).outcome = .ok t) ∨
          ∃ e, ((Registry.builtInWith s compiler take).call name (.obj members)).outcome =
            .error (.tool e)) ∧
        (∀ t, ((Registry.builtInWith s compiler take).call name (.obj members)).outcome = .ok t →
          response = jsonResponse 200 (content t) ∧ response.status = 200 ∧
          Json.ofBytes? response.body = some (.obj [("content",
            .arr [.obj [("text",.str t.joined),("type",.str "text")]])]) ∧
          (Json.IsScalar (.obj members) → t.joined = t)) ∧
        ∀ e, ((Registry.builtInWith s compiler take).call name (.obj members)).outcome =
            .error (.tool e) →
          response = errorResponse e.code e.message ∧ response.status = errorStatus e.code ∧
          Json.ofBytes? response.body = some (errorBody e.code e.message.joined) := by
  have hnotObject : BringsOther q →
      (callTool stack (.builtInWith s compiler take) name q).result = notObject := fun hother => by
    obtain ⟨v,harguments,hv⟩ := hother.argumentsOf? hdeep
    exact callTool_notObject harguments hv
  refine ⟨_,respondWithin_posted hname hmethod htarget,respond_posted hname hmethod htarget,?_,
    brings_cases q,fun hother => ?_,fun members hbrings => ?_⟩
  · rcases brings_cases q with hother | ⟨members,hbrings⟩
    · rw [hnotObject hother]
      exact isJsonAnswer_error ..
    · rw [callTool_result (hbrings.argumentsOf? hdeep)]
      rcases Registry.call_closed Registry.builtInWith_takes name members with ⟨t,ht⟩ | ⟨e,he⟩
      · rw [ht]
        exact isJsonAnswer_content t
      · rw [he]
        exact isJsonAnswer_error ..
  · rw [hnotObject hother]
    have hmessage : Text.joined "arguments must be a JSON object" =
        "arguments must be a JSON object" :=
      Text.joined_of_not_surrogate (Text.isScalar_chars _)
    have hread := ofBytes?_error .invalidParams "arguments must be a JSON object"
    rw [hmessage] at hread
    exact ⟨rfl,rfl,hread⟩
  · rw [callTool_result (hbrings.argumentsOf? hdeep)]
    refine ⟨Registry.call_closed Registry.builtInWith_takes name members,fun t ht => ?_,
      fun e he => ?_⟩
    · rw [ht]
      exact ⟨rfl,rfl,ofBytes?_content t,fun hscalar =>
        Text.joined_of_not_surrogate (BuiltIn.call_isScalar hscalar ht)⟩
    · rw [he]
      exact ⟨rfl,rfl,ofBytes?_error e.code e.message⟩

/-- Text that is posted for a path as JSON. -/
def textPost (path text : Text) : Request :=
  ⟨"POST","http://localhost",path,jsonType,Text.utf8 text⟩

theorem isJson_textPost (path text : Text) : isJson (textPost path text).contentType = true := by
  have hjson : isJson jsonType = true := by decide
  exact hjson

theorem loadWithin_emptyPost (room : Json.Room) (hroom : room.has 1 = true) (path : Text) :
    Json.loadWithin room (textPost path "\x7b\x7d").body = .ok (.obj []) := by
  have hnil : Json.Readable (.obj []) := fun n h => by cases h
  exact Json.loadWithin_obj (s := []) Json.compact_isPlain hnil hroom fun _ h => by cases h

theorem emptyPost_brings (path : Text) : Brings (textPost path "\x7b\x7d") [] := by
  refine .object (isJson_textPost _ _) ?_
  rw [Json.ofBytes?_eq,loadWithin_emptyPost .endless rfl]
  rfl

theorem emptyPost_not_tooDeep (path : Text) : ¬ IsTooDeep stack (textPost path "\x7b\x7d") := by
  rintro ⟨-,h⟩
  rw [loadWithin_emptyPost _ (Json.Room.has_mono (by decide) stack.ample)] at h
  cases h

/-- For a tool that is not there an empty object is answered with an error. -/
theorem posted_calls_answered_unknown : IsPlainStep "paint" ∧
    ¬ IsTooDeep .thousandLevels (textPost (toolPath "paint") "\x7b\x7d") ∧
    (respondWithin .thousandLevels
      (.builtInWith .default Registry.silentCompiler Registry.noBrowser)
        (textPost (toolPath "paint") "\x7b\x7d")).outcome =
          .ok (errorResponse .methodNotFound "Unknown tool: paint") := by
  have hname : IsPlainStep "paint" := ⟨by decide,by decide⟩
  have hdeep : ¬ IsTooDeep .thousandLevels (textPost (toolPath "paint") "\x7b\x7d") :=
    emptyPost_not_tooDeep _
  obtain ⟨response,hresponse,-,-,-,-,hcalls⟩ := posted_calls_answered .thousandLevels .default
    Registry.silentCompiler Registry.noBrowser hname rfl rfl hdeep
  refine ⟨hname,hdeep,?_⟩
  have hanswer :=
    (hcalls [] (emptyPost_brings _)).2.2 ⟨.methodNotFound,"Unknown tool: paint",none⟩ rfl
  rw [hresponse,hanswer.1]

/-- What is nested too deeply is answered with the page for faults, whatever the tool. -/
theorem respondWithin_tooDeep {r : Registry} {name : Text} (hname : IsPlainStep name)
    (hmethod : q.method = "POST") (htarget : q.target = toolPath name)
    (hdeep : IsTooDeep stack q) : (respondWithin stack r q).outcome = .ok failed := by
  rw [respondWithin_posted hname hmethod htarget,callTool_failed (argumentsOf?_eq_none.mpr hdeep)]

theorem failed_not_jsonAnswer : ¬ IsJsonAnswer failed := fun h =>
  absurd (h.headers _ List.mem_cons_self) (by decide)

/-- Without a name there is no tool to answer, and the page that says so is for its own origin. With
more brackets than levels the answer is a page too. -/
theorem posted_unanswered :
    (((Registry.builtInWith .default Registry.silentCompiler Registry.noBrowser).call []
      (.obj [])).outcome = .error (.tool ⟨.methodNotFound,"Unknown tool: ",none⟩) ∧
    ∃ response : Response, (respondWithin .thousandLevels
        (.builtInWith .default Registry.silentCompiler Registry.noBrowser)
          (textPost (toolPath []) "\x7b\x7d")).outcome = .ok response ∧
      response ≠ errorResponse .methodNotFound "Unknown tool: " ∧
      ∀ header ∈ crossOriginHeaders, header ∉ response.headers) ∧
    ∃ response : Response, (respondWithin .thousandLevels
        (.builtInWith .default Registry.silentCompiler Registry.noBrowser)
          (textPost (toolPath "paint") (List.replicate 1200 (.char '[')))).outcome = .ok response ∧
      ¬ IsJsonAnswer response := by
  have hpath : handedPath? (toolPath []) = some (toolPath []) := by decide
  have hmethod : Method.ofName? (Text.ofString "POST") ≠ some .head := by decide
  have hname : IsPlainStep "paint" := ⟨by decide,by decide⟩
  have hbrackets : List.replicate 1200 (CodePoint.char '[') =
      List.replicate (999 + 2) (.char '[') ++ List.replicate 199 (.char '[') := by
    rw [List.replicate_append_replicate]
  have hdeep : IsTooDeep .thousandLevels
      (textPost (toolPath "paint") (List.replicate 1200 (.char '['))) := by
    refine ⟨isJson_textPost _ _,?_⟩
    rw [hbrackets]
    exact Json.loadWithin_brackets 999 _
  refine ⟨⟨rfl,_,respondWithin_notFound hpath (by decide) (by decide) hmethod,fun h => ?_,
    by decide⟩,_,respondWithin_tooDeep hname rfl rfl hdeep,failed_not_jsonAnswer⟩
  exact absurd (congrArg (fun r => r.headers.length) h) (by decide)

end Server
end StyleLift
