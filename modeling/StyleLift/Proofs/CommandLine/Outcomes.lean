import StyleLift.CommandLine.Program
import StyleLift.Proofs.Client.Transparency
import StyleLift.Proofs.Text.Newlines
import StyleLift.Proofs.Tool.Attribution

/-! # What commands and calls come to

A command and a call of the tool that it matches, on the same texts: each comes to what is at the
heart of both, a captured page, a conversion or a component. The arguments that a command makes up
for the tool violate none of its parameters, but for a framework that is none of its choices.
-/
namespace StyleLift

/-- A file with a text in UTF-8 whose only line ends are newlines. -/
structure FileTree.Holds (tree : FileTree) (path text : Text) : Prop where
  scalar : text.IsScalar
  plain : .char '\r' ∉ text
  bytes : tree.read path = .ok (Text.utf8 text)

/-! ## Arguments of tools -/

namespace Parameter
variable {p : Parameter} {members : Json.Members} {value : Text}

theorem not_violated_of_given (hd : (members.map Prod.fst).Nodup) (h : (p.key,.str value) ∈ members)
    (hchoices : ∀ choices, p.choices = some choices → value ∈ choices) : ¬ p.Violated members := by
  refine not_violated_iff.mpr ⟨fun _ => List.mem_map_of_mem (f := Prod.fst) h,fun v hv => ?_⟩
  have hsame := ((Json.member?_eq_some hd).mpr h).symm.trans ((Json.member?_eq_some hd).mpr hv)
  exact .inr ⟨value,(Option.some.inj hsame).symm,hchoices⟩

theorem not_violated_of_absent (hoptional : p.optional = true) (h : p.key ∉ members.map Prod.fst) :
    ¬ p.Violated members :=
  not_violated_iff.mpr ⟨fun hrequired => absurd (hoptional.symm.trans hrequired) (by decide),
    fun _ hv => absurd (List.mem_map_of_mem (f := Prod.fst) hv) h⟩

end Parameter

namespace CommandLine
open BuiltIn

def snapshotArguments (url : Text) (selector : Option Text) : Json.Members :=
  ("url",.str url) :: (selector.map fun s => (("selector" : Text),Json.str s)).toList

def applyArguments (styles framework name : Text) : Json.Members :=
  [("styles",.str styles),("targetFramework",.str framework),("componentName",.str name)]

theorem snapshot_not_violated (url : Text) (selector : Option Text) :
    ∀ p ∈ snapshotParameters, ¬ p.Violated (snapshotArguments url selector) := by
  have hd : ((snapshotArguments url selector).map Prod.fst).Nodup := by
    cases selector with
    | none => exact List.nodup_singleton _
    | some selector =>
      change ([("url" : Text),"selector"]).Nodup
      decide
  refine List.forall_mem_cons.mpr ⟨?_,List.forall_mem_cons.mpr ⟨?_,fun _ h => by cases h⟩⟩
  · exact Parameter.not_violated_of_given hd List.mem_cons_self fun _ h => by cases h
  · cases selector with
    | none =>
      refine Parameter.not_violated_of_absent rfl ?_
      change ("selector" : Text) ∉ ([("url" : Text)] : List Text)
      decide
    | some selector =>
      exact Parameter.not_violated_of_given hd (List.mem_cons_of_mem _ List.mem_cons_self)
        fun _ h => by cases h

theorem extract_not_violated (html styles : Text) (f : Format) :
    ∀ p ∈ extractParameters, ¬ p.Violated (extractArguments html styles f.name) := by
  have hd : ((extractArguments html styles f.name).map Prod.fst).Nodup := by
    change ([("html" : Text),"styles","format"]).Nodup
    decide
  refine List.forall_mem_cons.mpr ⟨?_,List.forall_mem_cons.mpr ⟨?_,List.forall_mem_cons.mpr
    ⟨?_,fun _ h => by cases h⟩⟩⟩
  · exact Parameter.not_violated_of_given hd (.head _) fun _ h => by cases h
  · exact Parameter.not_violated_of_given hd (.tail _ (.head _)) fun _ h => by cases h
  · refine Parameter.not_violated_of_given hd (.tail _ (.tail _ (.head _))) fun choices h => ?_
    obtain rfl := Option.some.inj h
    cases f <;> decide

theorem apply_not_violated (styles name : Text) (f : Framework) :
    ∀ p ∈ applyParameters, ¬ p.Violated (applyArguments styles f.name name) := by
  have hd : ((applyArguments styles f.name name).map Prod.fst).Nodup := by
    change ([("styles" : Text),"targetFramework","componentName"]).Nodup
    decide
  refine List.forall_mem_cons.mpr ⟨?_,List.forall_mem_cons.mpr ⟨?_,List.forall_mem_cons.mpr
    ⟨?_,fun _ h => by cases h⟩⟩⟩
  · exact Parameter.not_violated_of_given hd (.head _) fun _ h => by cases h
  · refine Parameter.not_violated_of_given hd (.tail _ (.head _)) fun choices h => ?_
    obtain rfl := Option.some.inj h
    cases f <;> decide
  · exact Parameter.not_violated_of_given hd (.tail _ (.tail _ (.head _))) fun _ h => by cases h

/-- The file that a snapshot is written to; an empty path counts as none. -/
def outputPath (output : Option Text) : Option Text := output.filter fun path => !path.isEmpty

/-! ## Calls -/

/-- What a call of a built-in tool comes to in the surroundings of a command. -/
def Surroundings.called (s : Surroundings) (settings : Settings) (t : Tailwind) (name : Text)
    (members : Json.Members) : Except Fault Text :=
  ((Registry.builtIn settings (t.compiler s.machine) s.browser).call name (.obj members)).outcome

namespace Surroundings
variable {s : Surroundings} {settings : Settings} {t : Tailwind} {text : Text}

/-- The page that a snapshot is of. -/
def page (s : Surroundings) (settings : Settings) (url : Text) (selector : Option Text) :
    Except Fault CapturedPage :=
  (capture s.browser url selector ⟨settings.captureTimeout,settings.waitUntil⟩).outcome

theorem called_snapshot {url : Text} {selector : Option Text} :
    s.called settings t snapshotDefinition.name (snapshotArguments url selector) = .ok text ↔
      ∃ page, s.page settings url selector = .ok page ∧
        text = page.toJson.toText Json.indented := by
  rw [called,Registry.builtIn,Registry.call_unviolated Registry.get?_snapshot snapshot_takes
    (snapshot_not_violated url selector),Tool.run_eq_ok]
  have hselector : text? "selector" (snapshotArguments url selector) = selector := by
    cases selector <;> rfl
  change (BuiltIn.snapshot settings (capture s.browser) (snapshotArguments url selector)).outcome =
    _ ↔ _
  rw [BuiltIn.snapshot,Action.outcome_bind,Action.outcome_adapt,hselector]
  change (Except.mapError reportCapture (s.page settings url selector)) >>= _ = _ ↔ _
  rw [bind_eq_ok]
  exact exists_congr fun page => and_congr mapError_eq_ok
    ⟨fun h => (Except.ok.inj h).symm,fun h => congrArg _ h.symm⟩

theorem called_extract {html styles : Text} {f : Format} :
    s.called settings t extractDefinition.name (extractArguments html styles f.name) = .ok text ↔
      ∃ v, (convert html styles (t.compiler s.machine) f).outcome = .ok v ∧
        v.write Json.indented false = .ok text := by
  rw [called,Registry.builtIn,Registry.call_unviolated Registry.get?_extract extract_takes
    (extract_not_violated html styles f),Tool.run_eq_ok]
  have hf : Format.ofName? (BuiltIn.text "format" (extractArguments html styles f.name)) = some f :=
    Format.ofName?_name f
  refine (Eq.congr_left (BuiltIn.extract_outcome hf)).trans (bind_eq_ok.trans ?_)
  exact exists_congr fun v => and_congr Iff.rfl mapError_eq_ok

theorem called_apply {styles framework name : Text} :
    s.called settings t applyDefinition.name (applyArguments styles framework name) = .ok text ↔
      frameworkComponent styles framework name = .ok text := by
  rw [called,Registry.builtIn]
  cases hf : Framework.ofName? framework with
  | some f =>
    obtain rfl : f.name = framework := by
      have hfound := List.find?_some hf
      exact eq_of_beq hfound
    rw [Registry.call_unviolated Registry.get?_apply apply_takes (apply_not_violated styles name f),
      Tool.run_eq_ok]
    exact Eq.congr_left (apply_outcome _)
  | none =>
    have hv : Parameter.Violated ⟨"targetFramework",false,some (Framework.all.map Framework.name)⟩
        (applyArguments styles framework name) := by
      refine .notChoice (.tail _ (.head _)) rfl fun hmem => ?_
      obtain ⟨f,-,rfl⟩ := List.mem_map.mp hmem
      rw [Framework.ofName?_name] at hf
      cases hf
    obtain ⟨message,hcall⟩ := Registry.call_violated Registry.get?_apply apply_takes
      (.tail _ (.head _)) hv
    rw [hcall,frameworkComponent,hf]
    exact iff_of_false (fun h => by cases h) fun h => by cases h

/-! ## Commands -/

/-- What a run leaves behind. -/
def report (s : Surroundings) (arguments : List Text) : Report := (s.run arguments).result.report

/-- What a command's end leaves behind. -/
def ended (s : Surroundings) : Except Fault Report → Report
  | .ok r => r
  | .error _ => ⟨1,[],[],s.files,none⟩

theorem report_eq {arguments : List Text} {verbose : Bool} {command : Command}
    (hread : read s.files arguments = .ok (.run verbose command)) :
    s.report arguments = s.ended (s.command command).outcome := by
  rw [report,run,hread]
  dsimp only
  rw [Traced.result_bind,Action.outcome]
  cases (s.command command).run.result <;> rfl

theorem settings_outcome (h : Settings.ofEnvironment s.environment = .ok settings) :
    s.settings.outcome = .ok settings := by
  rw [Surroundings.settings,Action.outcome_ofExcept,h]
  rfl

theorem tailwind_outcome (h : settings.tailwind s.files = .ok t) :
    (s.tailwind settings).outcome = .ok t := by
  rw [Surroundings.tailwind,Action.outcome_ofExcept,h]
  rfl

theorem readText_outcome {path : Text} (h : s.files.Holds path text) :
    (s.readText path).outcome = .ok text := by
  simp only [readText,Action.outcome_bind,Action.outcome_ofExcept,h.bytes]
  change (Text.decode (Text.utf8 text)).mapError _ >>= _ = _
  rw [Text.decode_utf8 h.scalar]
  change Except.ok text.normalizeNewlines = _
  rw [Text.normalizeNewlines_plain h.plain]

/-- What is made of the text of a page. -/
def handOut (s : Surroundings) (output : Option Text) (text : Text) : Except Fault Report :=
  match outputPath output with
  | none => .ok (s.printed text)
  | some path =>
    ((s.files.write (Path.normalize path) (Text.utf8 text)).mapError (Fault.ofPath path)).map
      fun files => { s.printed (Text.ofString "Snapshot written to " ++ path) with files }

theorem snapshot_outcome (h : Settings.ofEnvironment s.environment = .ok settings) (url : Text)
    (selector output : Option Text) :
    (s.snapshot url selector output).outcome = match s.page settings url selector with
      | .ok page => s.handOut output (page.toJson.toText Json.indented)
      | .error (.capture m _) => .ok (s.complained (Text.ofString "Capture error: " ++ m))
      | .error fault => .error fault := by
  have hcapture : (s.capturePage settings url selector).outcome =
      match s.page settings url selector with
      | .ok page => .ok (.ok page)
      | .error (.capture m _) => .ok (.error m)
      | .error fault => .error fault := by
    rw [capturePage,Action.outcome_tryCatch,Action.outcome_map,page]
    cases (capture s.browser url selector _).outcome with
    | ok page => rfl
    | error fault => cases fault <;> rfl
  rw [snapshot,Action.outcome_bind,settings_outcome h]
  change (s.capturePage settings url selector >>= _).outcome = _
  rw [Action.outcome_bind,hcapture]
  cases s.page settings url selector with
  | error fault => cases fault <;> rfl
  | ok page =>
    dsimp only [bind,Except.bind]
    rw [handOut,outputPath]
    cases output.filter fun path => !path.isEmpty with
    | none => rfl
    | some path =>
      dsimp only
      cases s.files.write (Path.normalize path)
        (Text.utf8 (page.toJson.toText Json.indented)) <;> rfl

theorem extract_outcome (hsettings : Settings.ofEnvironment s.environment = .ok settings)
    (htailwind : settings.tailwind s.files = .ok t) {htmlPath stylesPath html styles : Text}
    (hhtml : s.files.Holds htmlPath html) (hstyles : s.files.Holds stylesPath styles) (f : Format) :
    (s.extract htmlPath stylesPath f).outcome = match f.direct? styles with
      | some text => .ok (s.printed text)
      | none =>
        (StyleLift.extract html styles (t.compiler s.machine)).outcome.map s.bundleReport := by
  rw [extract,Action.outcome_bind,readText_outcome hhtml]
  change (s.readText stylesPath >>= _).outcome = _
  rw [Action.outcome_bind,readText_outcome hstyles]
  dsimp only [bind,Except.bind]
  cases f.direct? styles with
  | some text => rfl
  | none =>
    change (s.settings >>= fun settings => s.tailwind settings >>= _).outcome = _
    rw [Action.outcome_bind,settings_outcome hsettings]
    change (s.tailwind settings >>= _).outcome = _
    rw [Action.outcome_bind,tailwind_outcome htailwind]
    exact Action.outcome_map _ _

theorem apply_outcome {stylesPath styles : Text} (h : s.files.Holds stylesPath styles)
    (framework name : Text) : (s.apply stylesPath framework name).outcome =
      match frameworkComponent styles framework name with
      | .ok text => .ok (s.printed text)
      | .error fault => .ok (s.complained (Text.ofString "Error: " ++ fault.message)) := by
  rw [apply,Action.outcome_bind,readText_outcome h]
  dsimp only [bind,Except.bind]
  cases frameworkComponent styles framework name <;> rfl

end Surroundings
end CommandLine
end StyleLift
