import StyleLift.Proofs.Capture.Sessions

/-! # Sessions of calls

Calls of the built-in tools one after another, each with whatever arguments and a browser that fails
at whatever steps. The browser goes through one whole session for every call of the snapshot whose
arguments pass the check and is left alone by the others, and such a call gives a text just if no
step failed.
-/
namespace StyleLift
open BuiltIn

namespace Registry
variable {r : Registry} {t : Tool} {s : Settings} {compiler : Compiler}
    {take : PageCapture} {name : Text}
  {arguments : Json} {members : Json.Members}

/-- A call tells the browser what its tool does, if the arguments pass. -/
theorem browserSteps_call (ht : r.get? name = some t) (arguments : Json) :
    (r.call name arguments).browserSteps =
      match Schema.check t.definition.parameters
        (if arguments.isEmptyValue then .obj [] else arguments) with
      | .ok members => (t.execute members).browserSteps
      | .error _ => [] := by
  rw [call,ht]
  dsimp only
  rw [Action.browserSteps_bind,Action.browserSteps_ofExcept,Action.outcome_ofExcept]
  cases Schema.check t.definition.parameters
      (if arguments.isEmptyValue then .obj [] else arguments) with
  | ok members => exact t.browserSteps_run members
  | error fault => rfl

theorem browserSteps_call_quiet (ht : r.get? name = some t)
    (h : ∀ members, (t.execute members).browserSteps = []) (arguments : Json) :
    (r.call name arguments).browserSteps = [] := by
  rw [browserSteps_call ht]
  split
  · exact h _
  · rfl

/-- Arguments of the snapshot that are let through are an object that violates no parameter. -/
theorem snapshot_check (h : Schema.check snapshotDefinition.parameters
    (if arguments.isEmptyValue then .obj [] else arguments) = .ok members) :
    arguments = .obj members ∧ ∀ p ∈ snapshotParameters, ¬ p.Violated members := by
  have hmembers := Schema.check_eq_ok_obj h
  obtain ⟨described,hdescribed,hps⟩ := snapshot_takes
  have hpasses : ∀ p ∈ snapshotParameters, ¬ p.Violated members := by
    rw [hmembers] at h
    exact hps.accepts_iff.mp (hdescribed ▸ Schema.check_returns.mp ⟨members,h⟩)
  refine ⟨?_,hpasses⟩
  split at hmembers
  · -- what counts as empty stands for an object without the address
    cases hmembers
    exact absurd (.absent rfl fun v => List.not_mem_nil)
      (hpasses ⟨"url",false,none⟩ List.mem_cons_self)
  · exact hmembers

/-- No other call tells the browser anything. -/
theorem browserSteps_uncaptured (hc : compiler.LeavesBrowser)
    (h : name = snapshotDefinition.name → ∀ members, arguments = .obj members →
      ∃ p ∈ snapshotParameters, p.Violated members) :
    ((builtInWith s compiler take).call name arguments).browserSteps = [] := by
  by_cases hname : name ∈ BuiltIn.definitions.map ToolDefinition.name
  · simp only [BuiltIn.definitions,List.map_cons,List.map_nil,List.mem_cons,List.not_mem_nil,
      or_false] at hname
    rcases hname with rfl | rfl | rfl
    · rw [browserSteps_call get?_snapshot]
      split
      · next members hcheck =>
        obtain ⟨harguments,hpasses⟩ := snapshot_check hcheck
        obtain ⟨p,hp,hviolated⟩ := h rfl members harguments
        exact absurd hviolated (hpasses p hp)
      · rfl
    · exact browserSteps_call_quiet get?_extract (fun _ => BuiltIn.browserSteps_extract hc)
        arguments
    · exact browserSteps_call_quiet get?_apply (fun _ => Action.browserSteps_ofExcept _ _) arguments
  · rw [call_unknown (get?_unknown hname)]
    rfl

end Registry

/-- A call of a built-in tool, with the compiler and the browser as they are then. -/
structure ToolCall where
  name : Text
  arguments : Json
  compiler : Compiler
  browser : Browser

namespace ToolCall
variable {s : Settings} {call : ToolCall} {calls : List ToolCall} {members : Json.Members}

def action (s : Settings) (call : ToolCall) : Action Text :=
  (Registry.builtIn s call.compiler call.browser).call call.name call.arguments

/-- Calls one after another, whatever comes of each. -/
def runAll (s : Settings) : List ToolCall → Traced (List (Except Fault Text))
  | [] => pure []
  | call :: rest => do
    let result ← (call.action s).run
    let results ← runAll s rest
    return result :: results

/-- A call of the snapshot with arguments that pass the check. -/
structure Captures (call : ToolCall) (members : Json.Members) : Prop where
  name_eq : call.name = snapshotDefinition.name
  arguments_eq : call.arguments = .obj members
  passes : ∀ p ∈ snapshotParameters, ¬ p.Violated members

/-- What becomes of a call: a session, if it captures a page, and with it a text just if no step
failed. -/
structure Ran (s : Settings) (call : ToolCall) (result : Except Fault Text)
    (told : List BrowserStep) :
    Prop where
  session : ∀ members, call.Captures members → call.browser.Session (capturedSteps s members) told
  closed : ∀ members, call.Captures members → told.count .enter = 1 ∧ told.count .exit = 1 ∧
    (call.browser.fault? .launch = none → told.count .close = 1 ∧ [.close,.exit] <:+ told) ∧
    (call.browser.fault? .launch ≠ none → .close ∉ told)
  returns_iff : ∀ members, call.Captures members → ((∃ text, result = .ok text) ↔
    ∀ step ∈ told, step ≠ .enter → call.browser.fault? step = none)
  alone : (∀ members, ¬ call.Captures members) → told = []

theorem action_ran (s : Settings) (hc : call.compiler.LeavesBrowser) :
    call.Ran s (call.action s).outcome (call.action s).browserSteps := by
  have hrun : ∀ members, call.Captures members → call.action s =
      Tool.run ⟨snapshotDefinition,snapshot s (capture call.browser)⟩ members := by
    intro members h
    rw [action,h.name_eq,h.arguments_eq]
    exact Registry.call_unviolated Registry.get?_snapshot snapshot_takes h.passes
  have hsession : ∀ members, call.Captures members →
      call.browser.Session (capturedSteps s members) (call.action s).browserSteps := by
    intro members h
    rw [hrun members h,Tool.browserSteps_run]
    exact snapshot_told
  refine ⟨hsession,fun members h => (hsession members h).closed ?_,fun members h => ?_,fun h => ?_⟩
  · simp [capturedSteps,Browser.pageSteps]
  · rw [hrun members h,Tool.browserSteps_run]
    simp only [Tool.run_eq_ok]
    exact decides_snapshot
  · refine Registry.browserSteps_uncaptured hc fun hname members harguments => ?_
    by_contra hpasses
    exact h members ⟨hname,harguments,fun p hp hviolated => hpasses ⟨p,hp,hviolated⟩⟩

/-- Over any calls the browser goes through whole sessions, one for each call of the snapshot whose
arguments pass the check and none for another. A browser that was launched is closed once before its
session ends, and the call gives a text just if nothing failed in it. The compiler is another
program. -/
theorem sessions_complete (s : Settings) :
    (∀ (t : Tailwind) (m : Machine), (t.compiler m).LeavesBrowser) ∧
    ∀ calls : List ToolCall, (∀ call ∈ calls, call.compiler.LeavesBrowser) →
      ∃ ran : List (Except Fault Text × List BrowserStep),
        (runAll s calls).result = ran.map Prod.fst ∧
        (runAll s calls).events.filterMap Event.browserStep? = (ran.map Prod.snd).flatten ∧
        List.Forall₂ (fun call r => call.Ran s r.1 r.2) calls ran := by
  refine ⟨Tailwind.compiler_leavesBrowser,fun calls h => ?_⟩
  induction calls with
  | nil => exact ⟨[],rfl,rfl,.nil⟩
  | cons call rest ih =>
    -- a call adds its own session or nothing in front, whatever it ends with
    obtain ⟨hcall,hrest⟩ := List.forall_mem_cons.mp h
    obtain ⟨ran,hresults,htold,hran⟩ := ih hrest
    refine ⟨((call.action s).outcome,(call.action s).browserSteps) :: ran,?_,?_,
      .cons (action_ran s hcall) hran⟩
    · exact congrArg ((call.action s).outcome :: ·) hresults
    · change ((call.action s).events ++ ((runAll s rest).events ++ [])).filterMap _ = _
      rw [List.append_nil,List.filterMap_append,htold]
      rfl

/-! A page that is not reached by a browser that cannot even be closed, an address that is no text,
and a page that is shown. -/

def missingTailwind : Compiler :=
  Tailwind.compiler ⟨["tailwindcss"],none,Tailwind.defaultTimeout,true⟩
    ⟨fun _ => .programMissing,"/tmp"⟩

def brokenBrowser : Browser where
  fault?
    | .goto .. => some (.other .browser "net::ERR_CONNECTION_REFUSED")
    | .close => some (.other .runtime "closed already")
    | _ => none
  styles := none
  html := []

def showingBrowser : Browser := ⟨fun _ => none,some "p {}","<p></p>"⟩

def threeCalls : List ToolCall := [
  ⟨snapshotDefinition.name,.obj [("url",.str "http://localhost")],missingTailwind,brokenBrowser⟩,
  ⟨snapshotDefinition.name,.obj [("url",.int 1)],missingTailwind,showingBrowser⟩,
  ⟨snapshotDefinition.name,.obj [("selector",.null),("url",.str "http://localhost")],
    missingTailwind,showingBrowser⟩]

theorem sessions_complete_three :
    (∀ call ∈ threeCalls, call.compiler.LeavesBrowser) ∧
    (runAll .default threeCalls).result.map Except.toBool = [false,false,true] ∧
    ∃ failed shown,
      (runAll .default threeCalls).events.filterMap Event.browserStep? = failed ++ shown ∧
      brokenBrowser.Session (capturedSteps .default [("url",.str "http://localhost")]) failed ∧
      failed.count .close = 1 ∧ [.close,.exit] <:+ failed ∧
      ∀ step ∈ shown, step ≠ .enter → showingBrowser.fault? step = none := by
  have hcompilers : ∀ call ∈ threeCalls, call.compiler.LeavesBrowser := by
    simp only [threeCalls,List.forall_mem_cons]
    exact ⟨Tailwind.compiler_leavesBrowser _ _,Tailwind.compiler_leavesBrowser _ _,
      Tailwind.compiler_leavesBrowser _ _,List.forall_mem_nil _⟩
  obtain ⟨ran,hresults,htold,hran⟩ := (sessions_complete .default).2 threeCalls hcompilers
  have hends : (runAll .default threeCalls).result.map Except.toBool = [false,false,true] := by
    decide +kernel
  rw [hresults] at hends
  cases hran with
  | @cons _ first _ _ hfirst hran =>
  cases hran with
  | @cons _ second _ _ hsecond hran =>
  cases hran with
  | @cons _ third _ _ hthird hran =>
  cases hran
  have hurl : ∀ p ∈ snapshotParameters, ¬ p.Violated [("url",.str "http://localhost")] := by
    simp [snapshotParameters,Parameter.not_violated_iff,Parameter.Admits]
  have hnull : ∀ p ∈ snapshotParameters,
      ¬ p.Violated [("selector",.null),("url",.str "http://localhost")] := by
    have hkeys : ("url" : Text) ≠ "selector" := by decide
    simp [snapshotParameters,Parameter.not_violated_iff,Parameter.Admits,hkeys]
  have hsilent : second.2 = [] := by
    refine hsecond.alone fun members hcaptures => ?_
    obtain ⟨-,harguments,hpasses⟩ := hcaptures
    cases harguments
    refine hpasses ⟨"url",false,none⟩ List.mem_cons_self (.notString List.mem_cons_self ?_ ?_)
    · rintro ⟨h,-⟩
      cases h
    · exact fun s h => by cases h
  obtain ⟨-,-,hclosed,-⟩ := hfirst.closed _ ⟨rfl,rfl,hurl⟩
  obtain ⟨hcount,hlast⟩ := hclosed rfl
  have hthree : third.1.toBool = true := by
    simp only [List.map_cons,List.map_nil,List.cons.injEq] at hends
    exact hends.2.2.1
  have htext : ∃ text, third.1 = .ok text := by
    cases hresult : third.1 with
    | ok text => exact ⟨text,rfl⟩
    | error fault =>
      rw [hresult] at hthree
      cases hthree
  refine ⟨hcompilers,hresults ▸ hends,first.2,third.2,?_,
    hfirst.session _ ⟨rfl,rfl,hurl⟩,hcount,hlast,
    (hthird.returns_iff _ ⟨rfl,rfl,hnull⟩).mp htext⟩
  rw [htold]
  simp [hsilent]

end ToolCall
end StyleLift
