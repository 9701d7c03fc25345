import StyleLift.Proofs.Tool.Attribution
import StyleLift.Proofs.Verify.Configuration

/-! # Sessions of a browser

A capture of a page is one session of the browser. It ends with the exit on every way out, a browser
that was launched is closed once, right before, and there is a page just if no step failed.
Compiling, extracting and applying styles leave the browser alone.
-/
namespace StyleLift

/-- What a browser is told by an event. -/
def Event.browserStep? : Event → Option BrowserStep
  | .browser step => some step
  | _ => none

namespace Action
variable {α β : Type} {a : Action α} {f : α → Action β}

/-- What a browser is told by an action, in order. -/
def browserSteps (a : Action α) : List BrowserStep := a.events.filterMap Event.browserStep?

theorem browserSteps_bind (a : Action α) (f : α → Action β) :
    (a >>= f).browserSteps = a.browserSteps ++ match a.outcome with
      | .ok x => (f x).browserSteps
      | .error _ => [] := by
  rw [browserSteps,events_bind,List.filterMap_append]
  cases a.outcome <;> rfl

theorem browserSteps_tryCatch_nil {handle : Fault → Action α} (ha : a.browserSteps = [])
    (hhandle : ∀ fault, (handle fault).browserSteps = []) :
    (tryCatch a handle).browserSteps = [] := by
  rw [browserSteps,events_tryCatch,List.filterMap_append,← browserSteps,ha]
  cases a.outcome with
  | ok x => rfl
  | error fault => exact hhandle fault

theorem browserSteps_bind_quiet (hf : ∀ x, (f x).browserSteps = []) :
    (a >>= f).browserSteps = a.browserSteps := by
  rw [browserSteps_bind]
  cases a.outcome with
  | ok x => exact (congrArg _ (hf x)).trans (List.append_nil _)
  | error fault => exact List.append_nil _

theorem browserSteps_map (f : α → β) (a : Action α) : (f <$> a).browserSteps = a.browserSteps := by
  rw [browserSteps,events_map]
  rfl

theorem browserSteps_adapt (f : Fault → Fault) (a : Action α) :
    Action.browserSteps (ExceptT.adapt f a) = a.browserSteps := by
  rw [browserSteps,events_adapt]
  rfl

theorem browserSteps_ofExcept {ε : Type} (fault : ε → Fault) (x : Except ε α) :
    (ofExcept fault x).browserSteps = [] := by
  rw [browserSteps,events_ofExcept]
  rfl

theorem browserSteps_forM_nil {items : List α} {f : α → Action Unit}
    (h : ∀ x ∈ items, (f x).browserSteps = []) : (items.forM f).browserSteps = [] := by
  induction items with
  | nil => rfl
  | cons x rest ih =>
    obtain ⟨hx,hrest⟩ := List.forall_mem_cons.mp h
    exact (browserSteps_bind_quiet fun _ => ih hrest).trans hx

/-! ## What comes last whatever happens -/

theorem outcome_ensuring (last : Action Unit) (a : Action α) :
    (ensuring last a).outcome = last.outcome >>= fun _ => a.outcome := rfl

theorem browserSteps_ensuring (last : Action Unit) (a : Action α) :
    (ensuring last a).browserSteps = a.browserSteps ++ last.browserSteps := by
  change (a.events ++ (last.events ++ [])).filterMap _ = _
  rw [List.append_nil,List.filterMap_append]
  rfl

end Action

/-! ## A session -/

namespace Browser
variable {α β : Type} {b : Browser} {a : Action α} {f : α → Action β} {step : BrowserStep}
  {steps done : List BrowserStep}

/-- Steps one after another: all of them, or those up to the first that fails. -/
inductive Performs (b : Browser) : List BrowserStep → List BrowserStep → Prop
  | all {steps : List BrowserStep} (h : ∀ step ∈ steps, b.fault? step = none) :
    b.Performs steps steps
  | failing {before after : List BrowserStep} {step : BrowserStep}
    (hbefore : ∀ earlier ∈ before, b.fault? earlier = none) (hstep : b.fault? step ≠ none) :
    b.Performs (before ++ step :: after) (before ++ [step])

/-- What a browser is told in a session on a page: nothing more is done once the launch has failed,
and otherwise it is closed behind what was done on the page. -/
inductive Session (b : Browser) (page : List BrowserStep) : List BrowserStep → Prop
  | unlaunched (h : b.fault? .launch ≠ none) : b.Session page [.enter,.launch,.exit]
  | launched {done : List BrowserStep} (h : b.fault? .launch = none) (hne : done ≠ [])
    (hstart : done <+: page) (hdone : b.Performs page done) :
    b.Session page (.enter :: .launch :: (done ++ [.close,.exit]))

/-- An action that a browser decides: it ends well just if no step of it fails. The entering of a
session is none of the steps that can. -/
def Decides (b : Browser) (a : Action α) : Prop :=
  (∃ x, a.outcome = .ok x) ↔ ∀ step ∈ a.browserSteps, step ≠ .enter → b.fault? step = none

theorem browserSteps_perform (b : Browser) (step : BrowserStep) :
    (b.perform step).browserSteps = [step] := by
  rw [perform,Action.browserSteps_bind]
  cases b.fault? step <;> rfl

theorem perform_eq_ok : (b.perform step).outcome = .ok () ↔ b.fault? step = none := by
  rw [perform,Action.outcome_bind]
  cases b.fault? step with
  | none => exact iff_of_true rfl rfl
  | some fault => exact iff_of_false (fun h => by cases h) (fun h => by cases h)

namespace Performs

theorem cons (hstep : b.fault? step = none) (h : b.Performs steps done) :
    b.Performs (step :: steps) (step :: done) := by
  cases h with
  | all hall => exact .all (List.forall_mem_cons.mpr ⟨hstep,hall⟩)
  | failing hbefore hfails => exact .failing (List.forall_mem_cons.mpr ⟨hstep,hbefore⟩) hfails

theorem isPrefix (h : b.Performs steps done) : done <+: steps := by
  cases h with
  | all => exact List.prefix_rfl
  | @failing before after step => exact ⟨after,(List.append_cons before step after).symm⟩

theorem ne_nil (h : b.Performs steps done) (hsteps : steps ≠ []) : done ≠ [] := by
  cases h with
  | all => exact hsteps
  | failing => exact List.append_ne_nil_of_right_ne_nil _ (List.cons_ne_nil _ _)

end Performs

/-- A loop over steps performs them. -/
theorem performs_forM (b : Browser) (steps : List BrowserStep) :
    b.Performs steps (steps.forM b.perform).browserSteps := by
  induction steps with
  | nil => exact .all (List.forall_mem_nil _)
  | cons step rest ih =>
    change b.Performs _ (b.perform step >>= fun _ => rest.forM b.perform).browserSteps
    rw [Action.browserSteps_bind,browserSteps_perform]
    cases hstep : (b.perform step).outcome with
    | ok => exact ih.cons (perform_eq_ok.mp hstep)
    | error fault =>
      have hfails : b.fault? step ≠ none := fun hnone => by
        cases hstep.symm.trans (perform_eq_ok.mpr hnone)
      exact @Performs.failing b [] rest step (List.forall_mem_nil _) hfails

namespace Decides

theorem perform (h : step ≠ .enter) : b.Decides (b.perform step) := by
  rw [Decides,browserSteps_perform,List.forall_mem_singleton,imp_iff_right h,← perform_eq_ok]
  exact ⟨fun ⟨(),hstep⟩ => hstep,fun hstep => ⟨(),hstep⟩⟩

theorem of_quiet (hreturns : ∃ x, a.outcome = .ok x) (h : a.browserSteps = []) : b.Decides a := by
  rw [Decides,h]
  exact iff_of_true hreturns (List.forall_mem_nil _)

theorem bind (ha : b.Decides a) (hf : ∀ x, b.Decides (f x)) : b.Decides (a >>= f) := by
  rw [Decides,Action.outcome_bind,Action.browserSteps_bind]
  rw [Decides] at ha
  cases hx : a.outcome with
  | ok x =>
    have hsteps := ha.mp ⟨x,hx⟩
    simp only [List.forall_mem_append]
    exact (hf x).trans (and_iff_right hsteps).symm
  | error fault =>
    rw [List.append_nil,← ha,hx]
    exact iff_of_false (fun ⟨_,h⟩ => by cases h) (fun ⟨_,h⟩ => by cases h)

theorem ensuring {last : Action Unit} (hlast : b.Decides last) (ha : b.Decides a) :
    b.Decides (Action.ensuring last a) := by
  rw [Decides] at hlast ha
  rw [Decides,Action.outcome_ensuring,Action.browserSteps_ensuring,bind_returns]
  simp only [List.forall_mem_append]
  rw [← hlast,← ha]
  exact ⟨fun ⟨x,hx,hy⟩ => ⟨hy,x,hx⟩,fun ⟨hy,x,hx⟩ => ⟨x,hx,hy⟩⟩

theorem forM (h : ∀ step ∈ steps, step ≠ .enter) : b.Decides (steps.forM b.perform) := by
  induction steps with
  | nil => exact of_quiet ⟨(),rfl⟩ rfl
  | cons step rest ih =>
    obtain ⟨hstep,hrest⟩ := List.forall_mem_cons.mp h
    exact (Decides.perform hstep).bind fun _ => ih hrest

theorem adapt (fault : Fault → Fault) (ha : b.Decides a) : b.Decides (ExceptT.adapt fault a) := by
  rw [Decides,Action.browserSteps_adapt,Action.outcome_adapt]
  simp only [mapError_eq_ok]
  exact ha

end Decides

section Page
variable (b : Browser) (url : Text) (selector : Option Text) (o : CaptureOptions)

/-- What becomes of a browser that was launched. -/
def visit : Action CapturedPage :=
  Action.ensuring (b.perform .close) do
    (pageSteps url selector o).forM b.perform
    return ⟨b.html,b.styles.getD []⟩

theorem session_eq : b.session url selector o = (do
    Action.emit (.browser .enter)
    Action.ensuring (b.perform .exit) do
      b.perform .launch
      b.visit url selector o) := rfl

theorem browserSteps_visit : (b.visit url selector o).browserSteps =
    ((pageSteps url selector o).forM b.perform).browserSteps ++ [.close] := by
  rw [visit,Action.browserSteps_ensuring,browserSteps_perform,
    Action.browserSteps_bind_quiet fun _ => rfl]

theorem session_told :
    b.Session (pageSteps url selector o) (b.session url selector o).browserSteps := by
  have hperforms := b.performs_forM (pageSteps url selector o)
  have htold : (b.session url selector o).browserSteps =
      .enter :: (b.perform .launch >>= fun _ => b.visit url selector o).browserSteps ++
        [.exit] := by
    rw [session_eq,Action.browserSteps_bind,Action.outcome_emit]
    change [.enter] ++ (Action.ensuring _ _).browserSteps = _
    rw [Action.browserSteps_ensuring,browserSteps_perform]
    rfl
  rw [htold,Action.browserSteps_bind,browserSteps_perform]
  cases hlaunch : (b.perform .launch).outcome with
  | ok =>
    dsimp only
    rw [browserSteps_visit]
    have hsession := Session.launched (perform_eq_ok.mp hlaunch)
      (hperforms.ne_nil (List.cons_ne_nil _ _)) hperforms.isPrefix hperforms
    simpa only [List.cons_append,List.nil_append,List.append_assoc] using hsession
  | error fault =>
    refine .unlaunched fun hnone => ?_
    cases hlaunch.symm.trans (perform_eq_ok.mpr hnone)

theorem decides_session : b.Decides (b.session url selector o) := by
  have henter : b.Decides (Action.emit (.browser .enter)) := by
    refine iff_of_true ⟨(),rfl⟩ fun step hstep hne => ?_
    exact absurd (List.mem_singleton.mp hstep) hne
  have hpage : ∀ step ∈ pageSteps url selector o, step ≠ .enter := by simp [pageSteps]
  have hvisit : b.Decides (b.visit url selector o) := .ensuring (.perform (by decide))
    (.bind (.forM hpage) fun _ => .of_quiet ⟨_,rfl⟩ rfl)
  rw [session_eq]
  exact henter.bind fun _ => .ensuring (.perform (by decide))
    (.bind (.perform (by decide)) fun _ => hvisit)

/-- A capture is a session. -/
theorem browserSteps_capture :
    (capture b url selector o).browserSteps = (b.session url selector o).browserSteps := by
  rw [capture,Action.browserSteps_bind,Action.outcome_log]
  exact (Action.browserSteps_bind_quiet fun _ => rfl).trans (Action.browserSteps_adapt _ _)

theorem decides_capture : b.Decides (capture b url selector o) :=
  .bind (.of_quiet ⟨(),rfl⟩ rfl) fun _ =>
    .bind (.adapt _ (b.decides_session url selector o)) fun _ =>
    .of_quiet ⟨_,rfl⟩ rfl

end Page

/-- A browser that was launched is closed once, right before the exit; another is not closed. No
session has another in it. -/
theorem Session.closed (h : b.Session steps done)
    (hpage : ∀ step ∈ [.enter,.close,.exit], step ∉ steps) :
    done.count .enter = 1 ∧ done.count .exit = 1 ∧
    (b.fault? .launch = none → done.count .close = 1 ∧ [.close,.exit] <:+ done) ∧
    (b.fault? .launch ≠ none → .close ∉ done) := by
  cases h with
  | unlaunched hlaunch => exact ⟨rfl,rfl,fun hnone => absurd hnone hlaunch,fun _ => by decide⟩
  | @launched done hlaunch hne hstart hdone =>
    have hcount : ∀ step ∈ [BrowserStep.enter,.close,.exit], done.count step = 0 :=
      fun step hstep =>
        List.count_eq_zero.mpr fun hmem => hpage step hstep (hstart.subset hmem)
    simp only [List.forall_mem_cons] at hcount
    obtain ⟨henter,hclose,hexit,-⟩ := hcount
    refine ⟨?_,?_,fun _ => ⟨?_,?_⟩,fun hfails => absurd hlaunch hfails⟩
    · simp [henter]
    · simp [hexit]
    · simp [hclose]
    · exact ⟨.enter :: .launch :: done,rfl⟩

end Browser

/-! ## Actions that leave the browser alone -/

/-- A compiler that has nothing to do with the browser. -/
def Compiler.LeavesBrowser (c : Compiler) : Prop :=
  ∀ stylesheet documents, (c.compile stylesheet documents).browserSteps = []

theorem Tailwind.compiler_leavesBrowser (t : Tailwind) (m : Machine) :
    (t.compiler m).LeavesBrowser := by
  intro stylesheet documents
  change (Action.ofExcept unwritable (checkEncodable (stylesheet :: documents)) >>= fun _ =>
    t.run m (t.invocation m stylesheet documents) >>= fun c =>
      Action.ofExcept id (readOutput m c.output)).browserSteps = []
  have hrun : ∀ i, (t.run m i).browserSteps = [] := fun i => by
    rw [Action.browserSteps,run_events]
    rfl
  refine (Action.browserSteps_bind_quiet fun _ => ?_).trans (Action.browserSteps_ofExcept _ _)
  exact (Action.browserSteps_bind_quiet fun _ => Action.browserSteps_ofExcept _ _).trans (hrun _)

section Extraction
variable {compiler : Compiler} {html styles : Text}

theorem browserSteps_readRules (css : Text) : (readRules css).browserSteps = [] := by
  refine (Action.browserSteps_bind_quiet fun sheet => ?_).trans (Action.browserSteps_ofExcept _ _)
  exact (Action.browserSteps_bind_quiet fun _ => rfl).trans
    (Action.browserSteps_forM_nil fun _ _ => rfl)

theorem browserSteps_verify (hc : compiler.LeavesBrowser) (rules : List Rule) :
    (verify html rules compiler).browserSteps = [] := by
  have hrequest : (compiler.request (syntheticStylesheet rules) [html]).browserSteps = [] :=
    Action.browserSteps_bind_quiet fun _ => hc _ _
  refine (Action.browserSteps_bind_quiet fun css => ?_).trans hrequest
  exact (Action.browserSteps_bind_quiet fun _ => rfl).trans (Action.browserSteps_ofExcept _ _)

theorem browserSteps_extract (hc : compiler.LeavesBrowser) :
    (extract html styles compiler).browserSteps = [] := by
  refine (Action.browserSteps_bind_quiet fun existing => ?_).trans
    (Action.browserSteps_ofExcept _ _)
  refine (Action.browserSteps_bind_quiet fun rules => ?_).trans (browserSteps_readRules styles)
  refine (Action.browserSteps_bind_quiet fun entries => ?_).trans (Action.browserSteps_ofExcept _ _)
  refine Action.browserSteps_tryCatch_nil ?_ fun fault => ?_
  · rw [Action.browserSteps_map,browserSteps_verify hc]
  · cases fault <;> rfl

theorem browserSteps_convertTo (hc : compiler.LeavesBrowser) (format : Text) :
    (convertTo format html styles compiler).browserSteps = [] := by
  rw [convertTo]
  cases Format.ofName? format with
  | none => rfl
  | some f =>
    cases f with
    | tailwind => exact (Action.browserSteps_map _ _).trans (browserSteps_extract hc)
    | css => rfl
    | react => rfl

end Extraction

/-! ## Calls -/

theorem Tool.browserSteps_run (t : Tool) (members : Json.Members) :
    (t.run members).browserSteps = (t.execute members).browserSteps := by
  rw [Action.browserSteps,Tool.run_events,List.filterMap_append]
  refine (congrArg _ ?_).trans (List.append_nil _)
  cases (t.execute members).outcome with
  | ok text => rfl
  | error fault => cases fault <;> rfl

namespace BuiltIn
variable {s : Settings} {compiler : Compiler} {b : Browser} {members : Json.Members}

/-- What a capture does on the page that the arguments are about. -/
def capturedSteps (s : Settings) (members : Json.Members) : List BrowserStep :=
  Browser.pageSteps (text "url" members) (text? "selector" members) ⟨s.captureTimeout,s.waitUntil⟩

theorem snapshot_told :
    b.Session (capturedSteps s members) (snapshot s (capture b) members).browserSteps := by
  have htold : (snapshot s (capture b) members).browserSteps = (b.session (text "url" members)
      (text? "selector" members) ⟨s.captureTimeout,s.waitUntil⟩).browserSteps :=
    (Action.browserSteps_bind_quiet fun _ => rfl).trans
      ((Action.browserSteps_adapt _ _).trans (b.browserSteps_capture _ _ _))
  rw [htold]
  exact b.session_told _ _ _

theorem decides_snapshot : b.Decides (snapshot s (capture b) members) :=
  .bind (.adapt _ (b.decides_capture _ _ _)) fun _ => .of_quiet ⟨_,rfl⟩ rfl

theorem browserSteps_extract (hc : compiler.LeavesBrowser) :
    (BuiltIn.extract compiler members).browserSteps = [] :=
  (Action.browserSteps_bind_quiet fun _ => Action.browserSteps_ofExcept _ _).trans
    (browserSteps_convertTo hc _)

end BuiltIn
end StyleLift
