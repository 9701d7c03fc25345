import StyleLift.Proofs.Component.Names
import StyleLift.Proofs.Extract.Results
import StyleLift.Proofs.Extract.Totality
import StyleLift.Proofs.Tool.Parameters
import StyleLift.Tool.BuiltIn

/-! # Who is to blame for a failed call

A call of a built-in tool ends in a text or in a tool error, and the code of the error tells what
went wrong: there is no such tool, the arguments violate a parameter of the tool, or a page could
not be captured or a document with its styles not be read.
-/
namespace StyleLift

/-- A way to capture pages that ends in a page or in a failed capture. -/
def PageCapture.Answers (take : PageCapture) : Prop :=
  ∀ url selector o, (∃ page, (take url selector o).outcome = .ok page) ∨
    ∃ message cause, (take url selector o).outcome = .error (.capture message cause)

/-- The statuses in a compiler's errors are exit statuses that can be written: those of programs
have far fewer digits. -/
def Compiler.EndsPrograms (c : Compiler) : Prop :=
  ∀ stylesheet documents e status, (c.compile stylesheet documents).outcome = .error (.compiler e) →
    e.status = some status → (Text.ofNat status.natAbs).length ≤ Numeral.digitLimit

namespace BuiltIn

/-! ## Parameters -/

def snapshotParameters : List Parameter := [⟨"url",false,none⟩,⟨"selector",true,none⟩]

def extractParameters : List Parameter := [⟨"html",false,none⟩,⟨"styles",false,none⟩,
  ⟨"format",false,some (Format.all.map Format.name)⟩]

def applyParameters : List Parameter := [⟨"styles",false,none⟩,
  ⟨"targetFramework",false,some (Framework.all.map Framework.name)⟩,⟨"componentName",false,none⟩]

theorem snapshot_ne_extract : snapshotDefinition.name ≠ extractDefinition.name := by decide

theorem snapshot_ne_apply : snapshotDefinition.name ≠ applyDefinition.name := by decide

theorem extract_ne_apply : extractDefinition.name ≠ applyDefinition.name := by decide

/-- The parameters of a tool. -/
def parametersOf (name : Text) : List Parameter :=
  if name = snapshotDefinition.name then snapshotParameters
  else if name = extractDefinition.name then extractParameters
  else if name = applyDefinition.name then applyParameters
  else []

theorem parametersOf_snapshot : parametersOf snapshotDefinition.name = snapshotParameters := by
  rw [parametersOf,if_pos rfl]

theorem parametersOf_extract : parametersOf extractDefinition.name = extractParameters := by
  rw [parametersOf,if_neg snapshot_ne_extract.symm,if_pos rfl]

theorem parametersOf_apply : parametersOf applyDefinition.name = applyParameters := by
  rw [parametersOf,if_neg snapshot_ne_apply.symm,if_neg extract_ne_apply.symm,if_pos rfl]

theorem takes_parameters {properties : List (Text × Json)} {required : List Text}
    {ps : List Parameter} {d : ToolDefinition} (hd : d.parameters = parameters properties required)
    (hps : List.Forall₂ Parameter.DescribedBy ps properties)
    (hrequired : required = (ps.filter fun p => !p.optional).map Parameter.key)
    (hdistinct : (ps.map Parameter.key).Nodup) : d.Takes ps :=
  ⟨_,hd,rfl,⟨properties,rfl,hps⟩,congrArg Json.texts hrequired,hdistinct⟩

theorem describedBy_stringSchema (key : Text) (optional : Bool) (description : String) :
    Parameter.DescribedBy ⟨key,optional,none⟩ (key,stringSchema description) :=
  ⟨rfl,_,rfl,rfl,rfl⟩

theorem snapshot_takes : snapshotDefinition.Takes snapshotParameters :=
  takes_parameters rfl
    (.cons (describedBy_stringSchema ..) (.cons (describedBy_stringSchema ..) .nil)) rfl
    (by decide)

theorem extract_takes : extractDefinition.Takes extractParameters :=
  takes_parameters rfl (.cons (describedBy_stringSchema ..) (.cons (describedBy_stringSchema ..)
    (.cons ⟨rfl,_,rfl,rfl,rfl⟩ .nil))) rfl (by decide)

theorem apply_takes : applyDefinition.Takes applyParameters :=
  takes_parameters rfl (.cons (describedBy_stringSchema ..) (.cons ⟨rfl,_,rfl,rfl,rfl⟩
    (.cons (describedBy_stringSchema ..) .nil))) rfl (by decide)

/-- Arguments that a built-in tool refuses. -/
def Refuses (name : Text) (members : Json.Members) : Prop :=
  (∃ p ∈ parametersOf name, p.Violated members) ∨ name = applyDefinition.name ∧
    ∃ s, (("componentName" : Text),.str s) ∈ members ∧ Text.isIdentifier s = false

end BuiltIn

/-- An object without a key twice has at a key what stands there. -/
theorem Json.member?_eq_some {members : Json.Members} (hd : (members.map Prod.fst).Nodup)
    {key : Text} {v : Json} : Json.member? key members = some v ↔ (key,v) ∈ members := by
  constructor
  · intro h
    obtain ⟨before,after,rfl,-⟩ := List.lookup_eq_some_iff.mp h
    simp
  · intro h
    obtain ⟨before,after,rfl⟩ := List.append_of_mem h
    refine List.lookup_eq_some_iff.mpr ⟨before,after,rfl,fun p hp => ?_⟩
    rw [List.map_append,List.map_cons] at hd
    rw [bne_iff_ne]
    rintro rfl
    exact List.disjoint_of_nodup_append hd (List.mem_map_of_mem hp) List.mem_cons_self

theorem Format.ofName?_name (f : Format) : Format.ofName? f.name = some f := by
  cases f <;> rfl

/-- An outcome that is a tool error with a code. -/
def FailsWith (code : ErrorCode) (x : Except Fault Text) : Prop :=
  ∃ e : ToolError, x = .error (.tool e) ∧ e.code = code

namespace BuiltIn

/-! ## Runs -/

section Runs
variable {s : Settings} {compiler : Compiler} {take : PageCapture} {members : Json.Members}
  {key html styles : Text} {t : Text} {fault : Fault}

theorem text_eq (hd : (members.map Prod.fst).Nodup) (h : (key,.str t) ∈ members) :
    text key members = t := by
  rw [text,text?,(Json.member?_eq_some hd).mpr h]
  rfl

theorem format_eq (hd : (members.map Prod.fst).Nodup) {f : Format}
    (h : (("format" : Text),.str f.name) ∈ members) :
    Format.ofName? (text "format" members) = some f := by
  rw [text_eq hd h,Format.ofName?_name]

/-- Only a failed capture keeps a page from its text. -/
theorem snapshot_run (ht : take.Answers) (s : Settings) (members : Json.Members) :
    (∃ text, (Tool.run ⟨snapshotDefinition,snapshot s take⟩ members).outcome = .ok text) ∨
      FailsWith .internalError (Tool.run ⟨snapshotDefinition,snapshot s take⟩ members).outcome := by
  simp only [Tool.run_outcome,snapshot,Action.outcome_bind,Action.outcome_adapt,Action.outcome_pure]
  rcases ht (text "url" members) (text? "selector" members) ⟨s.captureTimeout,s.waitUntil⟩ with
    ⟨page,hpage⟩ | ⟨message,cause,hcapture⟩
  · rw [hpage]
    exact .inl ⟨_,rfl⟩
  · rw [hcapture]
    exact .inr ⟨_,rfl,rfl⟩

theorem apply_outcome (members : Json.Members) : (apply members).outcome = frameworkComponent
    (text "styles" members) (text "targetFramework" members) (text "componentName" members) := by
  rw [apply,Action.outcome_ofExcept]
  cases frameworkComponent _ _ _ <;> rfl

theorem extract_outcome {f : Format} (hf : Format.ofName? (text "format" members) = some f) :
    (extract compiler members).outcome =
      (convert (text "html" members) (text "styles" members) compiler f).outcome >>= fun v =>
        (v.write Json.indented false).mapError fun e => .other .badValue e.message := by
  rw [extract,Action.outcome_bind,convertTo,hf]
  simp only [Action.outcome_ofExcept]

/-- Formats that need no document always give a text. -/
theorem extract_direct (compiler : Compiler) {f : Format}
    (hf : Format.ofName? (text "format" members) = some f) (hdirect : f ≠ .tailwind) :
    ∃ text, (extract compiler members).outcome = .ok text := by
  rw [extract_outcome hf]
  cases f with
  | tailwind => exact absurd rfl hdirect
  | css | react => exact ⟨_,rfl⟩

/-- With the statuses of programs nothing but the preparation can fail. -/
theorem extract_tailwind (hc : compiler.Answers) (hstatus : compiler.EndsPrograms)
    (hf : Format.ofName? (text "format" members) = some .tailwind) :
    (∃ text, (extract compiler members).outcome = .ok text) ↔
      ∃ p, prepare (text "html" members) (text "styles" members) = .ok p := by
  rw [extract_outcome hf,bind_returns,← StyleLift.extract_returns hc]
  have hconvert :
      (convert (text "html" members) (text "styles" members) compiler .tailwind).outcome =
      (StyleLift.extract (text "html" members) (text "styles" members) compiler).outcome.map
        Bundle.toJson := Action.outcome_map ..
  rw [hconvert]
  constructor
  · rintro ⟨v,hv,-⟩
    exact map_returns.mp ⟨v,hv⟩
  · rintro ⟨b,hb⟩
    refine ⟨_,map_eq_ok.mpr ⟨b,hb,rfl⟩,_,mapError_eq_ok.mpr (Json.write_eq_ok.mpr ⟨rfl,?_⟩)⟩
    intro n hn
    obtain ⟨status,rfl,stylesheet,e,hcompile,he⟩ := extract_numbers hb n hn
    exact if_neg (Nat.not_lt.mpr (hstatus _ _ _ _ hcompile he))

theorem extract_error (hc : compiler.Answers) {f : Format}
    (hf : Format.ofName? (text "format" members) = some f)
    (h : (extract compiler members).outcome = .error fault) :
    fault.Foreseen ∨ ∃ message, fault = .other .badValue message := by
  rw [extract_outcome hf] at h
  rcases bind_eq_error.mp h with h | ⟨v,-,h⟩
  · cases f with
    | tailwind =>
      have hconvert := (Action.outcome_map Bundle.toJson (StyleLift.extract (text "html" members)
        (text "styles" members) compiler)).symm.trans h
      exact .inl (extract_eq_error hc (map_eq_error.mp hconvert))
    | _ => cases h
  · obtain ⟨e,-,rfl⟩ := mapError_eq_error.mp h
    exact .inr ⟨_,rfl⟩

end Runs

theorem refuses_snapshot {members : Json.Members} :
    Refuses snapshotDefinition.name members ↔ ∃ p ∈ snapshotParameters, p.Violated members := by
  rw [Refuses,parametersOf_snapshot]
  exact or_iff_left fun h => snapshot_ne_apply h.1

theorem refuses_extract {members : Json.Members} :
    Refuses extractDefinition.name members ↔ ∃ p ∈ extractParameters, p.Violated members := by
  rw [Refuses,parametersOf_extract]
  exact or_iff_left fun h => extract_ne_apply h.1

theorem refuses_apply {members : Json.Members} : Refuses applyDefinition.name members ↔
    (∃ p ∈ applyParameters, p.Violated members) ∨
      ∃ s, (("componentName" : Text),.str s) ∈ members ∧ Text.isIdentifier s = false := by
  rw [Refuses,parametersOf_apply]
  exact or_congr_right (and_iff_right rfl)

theorem not_refuses_unknown {name : Text} {members : Json.Members}
    (h : name ∉ definitions.map ToolDefinition.name) : ¬ Refuses name members := by
  simp only [definitions,List.map_cons,List.map_nil,List.mem_cons,List.not_mem_nil,or_false,
    not_or] at h
  obtain ⟨hsnapshot,hextract,happly⟩ := h
  rintro (⟨p,hp,-⟩ | ⟨hname,-⟩)
  · rw [parametersOf,if_neg hsnapshot,if_neg hextract,if_neg happly] at hp
    cases hp
  · exact happly hname

/-- The order of the arguments does not matter, and neither do other keys. -/
theorem Refuses.of_same {name : Text} {members others : Json.Members}
    (h : ∀ p ∈ parametersOf name, ∀ v, (p.key,v) ∈ members ↔ (p.key,v) ∈ others)
    (hr : Refuses name members) : Refuses name others := by
  rcases hr with ⟨p,hp,hv⟩ | ⟨rfl,t,ht,hidentifier⟩
  · exact .inl ⟨p,hp,hv.of_same (h p hp)⟩
  · have hp : (⟨"componentName",false,none⟩ : Parameter) ∈ parametersOf applyDefinition.name := by
      rw [parametersOf_apply]
      exact List.mem_cons_of_mem _ (List.mem_cons_of_mem _ List.mem_cons_self)
    exact .inr ⟨rfl,t,(h _ hp _).mp ht,hidentifier⟩

end BuiltIn

/-! ## Calls -/

/-- An outcome that puts refused arguments on the caller, and nothing else. -/
structure Attributed (refused : Prop) (x : Except Fault Text) : Prop where
  ends : (∃ text, x = .ok text) ∨ ∃ code, FailsWith code x
  invalid : FailsWith .invalidParams x ↔ refused
  known : ¬ FailsWith .methodNotFound x

namespace Attributed
variable {refused : Prop} {x : Except Fault Text}

theorem of_invalid {e : ToolError} (hx : x = .error (.tool e)) (hcode : e.code = .invalidParams)
    (h : refused) : Attributed refused x := by
  refine ⟨.inr ⟨_,e,hx,hcode⟩,⟨fun _ => h,fun _ => ⟨e,hx,hcode⟩⟩,?_⟩
  rintro ⟨e',hx',hcode'⟩
  cases hx.symm.trans hx'
  cases hcode.symm.trans hcode'

theorem of_run (hx : (∃ text, x = .ok text) ∨ FailsWith .internalError x) (h : ¬ refused) :
    Attributed refused x := by
  have hcode : ∀ code, FailsWith code x → code = .internalError := by
    rintro code ⟨e,he,rfl⟩
    rcases hx with ⟨text,htext⟩ | ⟨e',he',hinternal⟩
    · cases he.symm.trans htext
    · cases he.symm.trans he'
      exact hinternal
  exact ⟨hx.imp_right fun hfails => ⟨_,hfails⟩,⟨fun hfails => absurd (hcode _ hfails) (by decide),
    fun hr => absurd hr h⟩,fun hfails => absurd (hcode _ hfails) (by decide)⟩

end Attributed

namespace Registry
open BuiltIn

section Calls
variable {s : Settings} {compiler : Compiler} {take : PageCapture} {name : Text}
  {members : Json.Members}

theorem builtInWith_tools : (builtInWith s compiler take).tools =
    [⟨snapshotDefinition,snapshot s take⟩,⟨extractDefinition,BuiltIn.extract compiler⟩,
      ⟨applyDefinition,apply⟩] := by
  simp only [builtInWith,register,empty,place,Tool.name,snapshot_ne_extract,snapshot_ne_apply,
    extract_ne_apply,if_false]

theorem get?_snapshot : (builtInWith s compiler take).get? snapshotDefinition.name =
    some ⟨snapshotDefinition,snapshot s take⟩ := by
  simp [get?,builtInWith_tools,Tool.name]

theorem get?_extract : (builtInWith s compiler take).get? extractDefinition.name =
    some ⟨extractDefinition,BuiltIn.extract compiler⟩ := by
  simp [get?,builtInWith_tools,Tool.name,snapshot_ne_extract]

theorem get?_apply : (builtInWith s compiler take).get? applyDefinition.name =
    some ⟨applyDefinition,apply⟩ := by
  simp [get?,builtInWith_tools,Tool.name,snapshot_ne_apply,extract_ne_apply]

theorem get?_unknown (h : name ∉ BuiltIn.definitions.map ToolDefinition.name) :
    (builtInWith s compiler take).get? name = none := by
  have hnames : (builtInWith s compiler take).tools.map Tool.name =
      BuiltIn.definitions.map ToolDefinition.name := by
    rw [builtInWith_tools]
    rfl
  refine List.find?_eq_none.mpr fun t ht hname => h ?_
  rw [← hnames,← of_decide_eq_true hname]
  exact List.mem_map_of_mem ht

theorem builtInWith_takes :
    ∀ t ∈ (builtInWith s compiler take).tools, ∃ ps, t.definition.Takes ps := by
  intro t ht
  simp only [builtInWith_tools,List.mem_cons,List.not_mem_nil,or_false] at ht
  rcases ht with rfl | rfl | rfl
  · exact ⟨_,snapshot_takes⟩
  · exact ⟨_,extract_takes⟩
  · exact ⟨_,apply_takes⟩

theorem call_snapshot (ht : take.Answers) : Attributed (Refuses snapshotDefinition.name members)
    ((builtInWith s compiler take).call snapshotDefinition.name (.obj members)).outcome := by
  rw [refuses_snapshot]
  by_cases hv : ∃ p ∈ snapshotParameters, p.Violated members
  · obtain ⟨p,hp,hviolated⟩ := hv
    obtain ⟨message,hcall⟩ := call_violated get?_snapshot snapshot_takes hp hviolated
    exact .of_invalid (congrArg Action.outcome hcall) rfl ⟨p,hp,hviolated⟩
  · rw [call_unviolated get?_snapshot snapshot_takes fun p hp hp' => hv ⟨p,hp,hp'⟩]
    exact .of_run (snapshot_run ht s members) hv

/-- What becomes of a run of the extraction on a format that is one of the three. -/
theorem run_extract (hc : compiler.Answers) {f : Format}
    (hf : Format.ofName? (text "format" members) = some f) :
    (∃ text, (Tool.run ⟨extractDefinition,BuiltIn.extract compiler⟩ members).outcome = .ok text) ∨
      ∃ e : ToolError, (Tool.run ⟨extractDefinition,BuiltIn.extract compiler⟩ members).outcome =
        .error (.tool e) ∧ e.code = .internalError ∧ e.cause ≠ some .invalidArgument := by
  rw [Tool.run_outcome]
  cases hrun : (BuiltIn.extract compiler members).outcome with
  | ok text => exact .inl ⟨text,rfl⟩
  | error fault =>
    refine .inr ⟨_,rfl,?_⟩
    rcases extract_error hc hf hrun with hforeseen | ⟨message,rfl⟩
    · cases fault with
      | rejectedMarkup | numeral => exact ⟨rfl,fun h => by cases h⟩
      | _ => cases hforeseen
    · exact ⟨rfl,fun h => by cases h⟩

/-- A format that is accepted is one of the three. -/
theorem format_of_not_violated (hd : (members.map Prod.fst).Nodup)
    (h : ∀ p ∈ extractParameters, ¬ p.Violated members) :
    ∃ f : Format, (("format" : Text),.str f.name) ∈ members ∧
      Format.ofName? (text "format" members) = some f := by
  obtain ⟨format,hformat,hchoices⟩ := Parameter.given_of_not_violated
    (p := ⟨"format",false,some (Format.all.map Format.name)⟩) rfl
    (h _ (List.mem_cons_of_mem _ (List.mem_cons_of_mem _ List.mem_cons_self)))
  obtain ⟨f,-,rfl⟩ := List.mem_map.mp (hchoices _ rfl)
  exact ⟨f,hformat,format_eq hd hformat⟩

/-- A run of the application on a framework that is one of the four comes down to the name. -/
theorem run_apply (hd : (members.map Prod.fst).Nodup)
    (h : ∀ p ∈ applyParameters, ¬ p.Violated members) :
    ∃ c, (("componentName" : Text),.str c) ∈ members ∧
      ((Text.isIdentifier c = true ∧
        ∃ text, (Tool.run ⟨applyDefinition,apply⟩ members).outcome = .ok text) ∨
      (Text.isIdentifier c = false ∧ ∃ message, (Tool.run ⟨applyDefinition,apply⟩ members).outcome =
        .error (.tool ⟨.invalidParams,message,some .invalidArgument⟩))) := by
  obtain ⟨target,htarget,hchoices⟩ := Parameter.given_of_not_violated
    (p := ⟨"targetFramework",false,some (Framework.all.map Framework.name)⟩) rfl
    (h _ (List.mem_cons_of_mem _ List.mem_cons_self))
  obtain ⟨c,hcomponent,-⟩ := Parameter.given_of_not_violated (p := ⟨"componentName",false,none⟩) rfl
    (h _ (List.mem_cons_of_mem _ (List.mem_cons_of_mem _ List.mem_cons_self)))
  obtain ⟨f,-,rfl⟩ := List.mem_map.mp (hchoices _ rfl)
  refine ⟨c,hcomponent,?_⟩
  rw [Tool.run_outcome]
  dsimp only
  rw [apply_outcome,text_eq hd htarget,text_eq hd hcomponent,frameworkComponent,
    Framework.ofName?_name]
  dsimp only
  cases Text.isIdentifier c with
  | true => exact .inl ⟨rfl,_,rfl⟩
  | false => exact .inr ⟨rfl,_,rfl⟩

/-- Arguments of the extraction are rejected, or it is run on a format that is one of the three. -/
theorem call_extract_cases (s : Settings) (compiler : Compiler) (take : PageCapture)
    (hd : (members.map Prod.fst).Nodup) :
    (Refuses extractDefinition.name members ∧ ∃ message,
      (builtInWith s compiler take).call extractDefinition.name (.obj members) =
        throw (Schema.rejected message)) ∨
    ¬ Refuses extractDefinition.name members ∧
      (builtInWith s compiler take).call extractDefinition.name (.obj members) =
        Tool.run ⟨extractDefinition,BuiltIn.extract compiler⟩ members ∧
      ∃ f : Format, (("format" : Text),.str f.name) ∈ members ∧
        Format.ofName? (text "format" members) = some f := by
  rw [refuses_extract]
  by_cases hv : ∃ p ∈ extractParameters, p.Violated members
  · obtain ⟨p,hp,hviolated⟩ := hv
    exact .inl ⟨⟨p,hp,hviolated⟩,call_violated get?_extract extract_takes hp hviolated⟩
  · have hall : ∀ p ∈ extractParameters, ¬ p.Violated members := fun p hp hp' => hv ⟨p,hp,hp'⟩
    exact .inr ⟨hv,call_unviolated get?_extract extract_takes hall,format_of_not_violated hd hall⟩

/-- Arguments of the application are refused, or it gives a text. -/
theorem call_apply_cases (s : Settings) (compiler : Compiler) (take : PageCapture)
    (hd : (members.map Prod.fst).Nodup) :
    (Refuses applyDefinition.name members ∧ ∃ message cause, cause ≠ some .unsupportedTarget ∧
      ((builtInWith s compiler take).call applyDefinition.name (.obj members)).outcome =
        .error (.tool ⟨.invalidParams,message,cause⟩)) ∨
    ¬ Refuses applyDefinition.name members ∧ ∃ text,
      ((builtInWith s compiler take).call applyDefinition.name (.obj members)).outcome =
        .ok text := by
  rw [refuses_apply]
  by_cases hv : ∃ p ∈ applyParameters, p.Violated members
  · obtain ⟨p,hp,hviolated⟩ := hv
    obtain ⟨message,hcall⟩ := call_violated get?_apply apply_takes hp hviolated
    exact .inl ⟨.inl ⟨p,hp,hviolated⟩,message,none,fun h => (by cases h),
      congrArg Action.outcome hcall⟩
  · have hall : ∀ p ∈ applyParameters, ¬ p.Violated members := fun p hp hp' => hv ⟨p,hp,hp'⟩
    rw [call_unviolated get?_apply apply_takes hall]
    obtain ⟨c,hc,⟨hidentifier,htext⟩ | ⟨hidentifier,message,herror⟩⟩ := run_apply hd hall
    · refine .inr ⟨?_,htext⟩
      rintro (hv' | ⟨c',hc',hidentifier'⟩)
      · exact hv hv'
      · have hsame := (text_eq hd hc).symm.trans (text_eq hd hc')
        rw [← hsame,hidentifier] at hidentifier'
        cases hidentifier'
    · exact .inl ⟨.inr ⟨c,hc,hidentifier⟩,message,_,fun h => (by cases h),herror⟩

theorem call_extract (hc : compiler.Answers) (hd : (members.map Prod.fst).Nodup) :
    Attributed (Refuses extractDefinition.name members)
      ((builtInWith s compiler take).call extractDefinition.name (.obj members)).outcome := by
  rcases call_extract_cases s compiler take hd with
    ⟨hrefused,message,hcall⟩ | ⟨haccepted,hcall,f,-,hf⟩
  · exact .of_invalid (congrArg Action.outcome hcall) rfl hrefused
  · rw [hcall]
    refine .of_run ((run_extract hc hf).imp_right ?_) haccepted
    rintro ⟨e,he,hcode,-⟩
    exact ⟨e,he,hcode⟩

theorem call_apply (hd : (members.map Prod.fst).Nodup) :
    Attributed (Refuses applyDefinition.name members)
      ((builtInWith s compiler take).call applyDefinition.name (.obj members)).outcome := by
  rcases call_apply_cases s compiler take hd with
    ⟨hrefused,message,cause,-,herror⟩ | ⟨haccepted,htext⟩
  · exact .of_invalid herror rfl hrefused
  · exact .of_run (.inl htext) haccepted

/-- Whatever tool is called, refused arguments are the only fault of the caller. -/
theorem call_attributed (hc : compiler.Answers) (ht : take.Answers)
    (hd : (members.map Prod.fst).Nodup)
    (hname : name ∈ BuiltIn.definitions.map ToolDefinition.name) :
    Attributed (Refuses name members)
      ((builtInWith s compiler take).call name (.obj members)).outcome := by
  simp only [BuiltIn.definitions,List.map_cons,List.map_nil,List.mem_cons,List.not_mem_nil,
    or_false] at hname
  rcases hname with rfl | rfl | rfl
  · exact call_snapshot ht
  · exact call_extract hc hd
  · exact call_apply hd

/-- With the statuses of programs the extraction to a bundle gives a text just if the document and
its styles can be prepared. -/
theorem call_tailwind (hc : compiler.Answers) (hstatus : compiler.EndsPrograms)
    (hd : (members.map Prod.fst).Nodup) (h : ¬ Refuses extractDefinition.name members)
    (hformat : (("format" : Text),.str Format.tailwind.name) ∈ members) :
    (∃ text, ((builtInWith s compiler take).call extractDefinition.name (.obj members)).outcome =
      .ok text) ↔ ∃ p, prepare (text "html" members) (text "styles" members) = .ok p := by
  rcases call_extract_cases s compiler take hd with ⟨hrefused,-⟩ | ⟨-,hcall,-⟩
  · exact absurd hrefused h
  · rw [hcall,← extract_tailwind hc hstatus (format_eq hd hformat)]
    exact exists_congr fun t => Tool.run_eq_ok

/-- The extraction to styles gives a text. -/
theorem call_direct (hd : (members.map Prod.fst).Nodup)
    (h : ¬ Refuses extractDefinition.name members) {f : Format} (hdirect : f ≠ .tailwind)
    (hformat : (("format" : Text),.str f.name) ∈ members) :
    ∃ text, ((builtInWith s compiler take).call extractDefinition.name (.obj members)).outcome =
      .ok text := by
  rcases call_extract_cases s compiler take hd with ⟨hrefused,-⟩ | ⟨-,hcall,-⟩
  · exact absurd hrefused h
  · obtain ⟨text,htext⟩ := extract_direct compiler (format_eq hd hformat) hdirect
    exact ⟨text,by rw [hcall]; exact Tool.run_eq_ok.mpr htext⟩

/-- No extraction meets a format that is not supported. -/
theorem call_extract_cause (hc : compiler.Answers) (hd : (members.map Prod.fst).Nodup)
    {e : ToolError}
    (h : ((builtInWith s compiler take).call extractDefinition.name (.obj members)).outcome =
      .error (.tool e)) : e.cause ≠ some .invalidArgument := by
  rcases call_extract_cases s compiler take hd with ⟨-,message,hcall⟩ | ⟨-,hcall,f,-,hf⟩
  · rw [hcall] at h
    cases h
    exact fun h => by cases h
  · rw [hcall] at h
    rcases run_extract hc hf with ⟨text,htext⟩ | ⟨_,he,-,hcause⟩
    · cases htext.symm.trans h
    · cases he.symm.trans h
      exact hcause

/-- No application meets a framework that is not supported. -/
theorem call_apply_cause (hd : (members.map Prod.fst).Nodup) {e : ToolError}
    (h : ((builtInWith s compiler take).call applyDefinition.name (.obj members)).outcome =
      .error (.tool e)) : e.cause ≠ some .unsupportedTarget := by
  rcases call_apply_cases s compiler take hd with ⟨-,message,cause,hcause,he⟩ | ⟨-,text,htext⟩
  · cases he.symm.trans h
    exact hcause
  · cases htext.symm.trans h

/-- A call of a built-in tool ends in a text or in a tool error. The method is not found just if
there is no tool of that name. The parameters are invalid just if a required argument is missing, a
declared one is no string (or null for an optional one) or none of its choices, or a component has a
name that is no identifier; the order of the arguments and other keys do not matter. Otherwise the
application, and the extraction to styles, always give a text; the extraction to a bundle and the
snapshot fail with internal errors alone, the first for any two compilers alike. A format or a
framework that is not supported is never met. -/
theorem errors_attributed (s : Settings) {compiler : Compiler} {take : PageCapture}
    (hc : compiler.Answers) (ht : take.Answers) (name : Text) {members : Json.Members}
    (hd : (members.map Prod.fst).Nodup) {x : Except Fault Text}
    (hx : ((builtInWith s compiler take).call name (.obj members)).outcome = x) :
    ((∃ text, x = .ok text) ∨ ∃ code, FailsWith code x) ∧
    (FailsWith .methodNotFound x ↔ name ∉ BuiltIn.definitions.map ToolDefinition.name) ∧
    (FailsWith .invalidParams x ↔ Refuses name members) ∧
    (∀ others : Json.Members, (others.map Prod.fst).Nodup →
      (∀ p ∈ parametersOf name, ∀ v, (p.key,v) ∈ members ↔ (p.key,v) ∈ others) →
        (FailsWith .invalidParams x ↔ FailsWith .invalidParams
          ((builtInWith s compiler take).call name (.obj others)).outcome)) ∧
    (¬ Refuses name members →
      (name = applyDefinition.name → ∃ text, x = .ok text) ∧
      (name = extractDefinition.name → (("format" : Text),.str "css") ∈ members ∨
        (("format" : Text),.str "react") ∈ members → ∃ text, x = .ok text) ∧
      (name = extractDefinition.name ∨ name = snapshotDefinition.name →
        ∀ code, FailsWith code x → code = .internalError) ∧
      (name = extractDefinition.name → (("format" : Text),.str "tailwind") ∈ members →
        compiler.EndsPrograms → ∀ other : Compiler, other.Answers → other.EndsPrograms →
          ((∃ text, x = .ok text) ↔ ∃ text,
            ((builtInWith s other take).call name (.obj members)).outcome = .ok text))) ∧
    ∀ e : ToolError, x = .error (.tool e) →
      (name = applyDefinition.name → e.cause ≠ some .unsupportedTarget) ∧
      (name = extractDefinition.name → e.cause ≠ some .invalidArgument) := by
  subst hx
  by_cases hname : name ∈ BuiltIn.definitions.map ToolDefinition.name
  · have h := call_attributed (s := s) hc ht hd hname
    refine ⟨h.ends,iff_of_false h.known (not_not.mpr hname),h.invalid,
      fun others hothers hsame => ?_,
      fun haccepted => ⟨?_,?_,fun _ code hfails => ?_,?_⟩,fun e he => ⟨?_,?_⟩⟩
    · rw [h.invalid,(call_attributed hc ht hothers hname).invalid]
      exact ⟨.of_same hsame,.of_same fun p hp v => (hsame p hp v).symm⟩
    · rintro rfl
      rcases call_apply_cases s compiler take hd with ⟨hrefused,-⟩ | ⟨-,htext⟩
      · exact absurd hrefused haccepted
      · exact htext
    · rintro rfl (hformat | hformat)
      · exact call_direct hd haccepted (f := .css) (by decide) hformat
      · exact call_direct hd haccepted (f := .react) (by decide) hformat
    · cases code with
      | internalError => rfl
      | methodNotFound => exact absurd hfails h.known
      | invalidParams => exact absurd (h.invalid.mp hfails) haccepted
    · rintro rfl hformat hstatus other hother hotherstatus
      rw [call_tailwind hc hstatus hd haccepted hformat,
        call_tailwind hother hotherstatus hd haccepted hformat]
    · rintro rfl
      exact call_apply_cause hd he
    · rintro rfl
      exact call_extract_cause hc hd he
  · -- under an unknown name all calls fail alike, whatever the arguments are
    have hcall : ∀ others, ((builtInWith s compiler take).call name (.obj others)).outcome =
        .error (unknownTool name) := fun others => by rw [call_unknown (get?_unknown hname)]; rfl
    have hfails : ∀ code, FailsWith code (.error (unknownTool name)) ↔ code = .methodNotFound := by
      refine fun code => ⟨?_,fun h => ⟨_,rfl,h.symm⟩⟩
      rintro ⟨e,he,rfl⟩
      cases he
      rfl
    have hother : ∀ d ∈ BuiltIn.definitions, name ≠ d.name := fun d hd h =>
      hname (List.mem_map.mpr ⟨d,hd,h.symm⟩)
    have hsnapshot := hother snapshotDefinition (.head _)
    have hextract := hother extractDefinition (.tail _ (.head _))
    have happly := hother applyDefinition (.tail _ (.tail _ (.head _)))
    simp [hcall,hfails,hname,not_refuses_unknown hname,hsnapshot,hextract,happly]

end Calls

/-! A document with its styles, for a compiler that is gone and for one that says nothing. -/

def goneCompiler : Compiler :=
  ⟨fun _ _ => throw (.compiler ⟨"gone",some 2,"no such file",some .noSuchFile⟩)⟩

def silentCompiler : Compiler := ⟨fun _ _ => pure ""⟩

def noBrowser : PageCapture := fun _ _ _ => throw (.capture "no browser" none)

def flexArguments : Json.Members := [("format",.str "tailwind"),("other",.null),
  ("styles",.str ".a{display:flex}"),("html",.str "")]

/-- Both give a text for it. -/
theorem errors_attributed_flex :
    goneCompiler.Answers ∧ goneCompiler.EndsPrograms ∧ noBrowser.Answers ∧
    ¬ Refuses extractDefinition.name flexArguments ∧
    (∃ text, ((builtInWith .default goneCompiler noBrowser).call extractDefinition.name
      (.obj flexArguments)).outcome = .ok text) ∧
    ∃ text, ((builtInWith .default silentCompiler noBrowser).call extractDefinition.name
      (.obj flexArguments)).outcome = .ok text := by
  have hgone : goneCompiler.Answers := fun _ _ => .inr ⟨_,rfl⟩
  have hstatus : goneCompiler.EndsPrograms := by
    intro stylesheet documents e status h he
    cases h
    cases he
    decide
  have hsilent : silentCompiler.Answers := fun _ _ => .inl ⟨_,rfl⟩
  have hsilentStatus : silentCompiler.EndsPrograms := fun _ _ e status h => by cases h
  have hbrowser : noBrowser.Answers := fun _ _ _ => .inr ⟨_,_,rfl⟩
  have hreturns : ((builtInWith .default goneCompiler noBrowser).call extractDefinition.name
      (.obj flexArguments)).outcome.toBool = true := by decide +kernel
  obtain ⟨text,htext⟩ : ∃ text, ((builtInWith .default goneCompiler noBrowser).call
      extractDefinition.name (.obj flexArguments)).outcome = .ok text := by
    cases h : ((builtInWith .default goneCompiler noBrowser).call extractDefinition.name
        (.obj flexArguments)).outcome with
    | ok text => exact ⟨text,rfl⟩
    | error fault =>
      rw [h] at hreturns
      cases hreturns
  obtain ⟨-,-,hinvalid,-,haccepting,-⟩ :=
    errors_attributed .default hgone hbrowser extractDefinition.name (by decide) htext
  have haccepted : ¬ Refuses extractDefinition.name flexArguments := by
    intro hrefused
    obtain ⟨e,he,-⟩ := hinvalid.mpr hrefused
    cases he
  exact ⟨hgone,hstatus,hbrowser,haccepted,⟨text,htext⟩,((haccepting haccepted).2.2.2 rfl
    List.mem_cons_self hstatus silentCompiler hsilent hsilentStatus).mp ⟨text,rfl⟩⟩

end Registry
end StyleLift
