import StyleLift.Proofs.CommandLine.Outcomes
import StyleLift.Proofs.CommandLine.Printing
import StyleLift.Proofs.Files.Writing
import StyleLift.Proofs.Verify.Failures

/-! # Commands and tools

A command ends with code zero just if the call of the tool that it matches gives a text, and it
prints what the call gives. Only a snapshot does more: it may write what it would print to a file,
and it fails where no file can be written.
-/
namespace StyleLift.CommandLine
open BuiltIn

/-- How a snapshot and the call it matches agree. -/
structure SnapshotAgrees (files : FileTree) (output : Option Text) (x : Except Fault Text)
    (r : Report) : Prop where
  exits : r.exitCode = 0 ↔
    (∃ text, x = .ok text) ∧ ∀ path ∈ outputPath output, files.Writable (Path.normalize path)
  prints : ∀ text, x = .ok text → outputPath output = none → r.stdout = text ++ [.char '\n']
  writes : ∀ text, x = .ok text → ∀ path ∈ outputPath output, files.Writable (Path.normalize path) →
    r.files.read (Path.normalize path) = .ok (Text.utf8 text)

/-- How an extraction to styles and the call it matches agree: the call delivers a string as
JSON. -/
structure StylesAgree (styles : Text) (x : Except Fault Text) (r : Report) : Prop where
  exits : r.exitCode = 0 ↔ ∃ text, x = .ok text
  prints : ∀ text, x = .ok text → ∃ found, Json.ofText text = .ok (.str found) ∧
    (escape ∉ styles → r.stdout = found ++ [.char '\n'])

/-- How an extraction to a bundle and the call it matches agree. A compiler's error leaves the code
as it is; the bundle then has an error, and there is a warning. -/
structure BundleAgrees (html styles : Text) (compilation : Preparation → Except Fault Text)
    (x : Except Fault Text) (r : Report) : Prop where
  exits : r.exitCode = 0 ↔ ∃ text, x = .ok text
  prints : ∀ text, x = .ok text → r.stdout = text ++ [.char '\n']
  degrades : r.exitCode = 0 ↔ ∃ p, prepare html styles = .ok p ∧ Described (compilation p)
  warns : ∀ text, x = .ok text → ∃ p members, prepare html styles = .ok p ∧
    text = (Json.obj members).toText Json.indented ∧
    ((∃ e, compilation p = .error (.compiler e)) ↔ ("error" : Text) ∈ members.map Prod.fst) ∧
    (∀ e, compilation p = .error (.compiler e) →
      r.stderr = echo (Text.ofString "Warning: " ++ e.describe.message)) ∧
    (("error" : Text) ∉ members.map Prod.fst → r.stderr = [])

/-- How an application and the call it matches agree. -/
structure ComponentAgrees (styles : Text) (x : Except Fault Text) (r : Report) : Prop where
  exits : r.exitCode = 0 ↔ ∃ text, x = .ok text
  prints : ∀ text, x = .ok text → escape ∉ styles → r.stdout = text ++ [.char '\n']

/-! ## Bundles with an error -/

section Bundles
variable {html css : Text} {existing : List Text} {entries : List Entry}

theorem extract_returns_described (compiler : Compiler) :
    (∃ b, (StyleLift.extract html css compiler).outcome = .ok b) ↔ ∃ p, prepare html css = .ok p ∧
      Described (compiler.compile (syntheticStylesheet p.rules) [html]).outcome := by
  simp only [extract_eq_bundle]
  constructor
  · rintro ⟨_,p,hp,⟨out,_,hout,-⟩ | ⟨e,he,-⟩⟩
    · exact ⟨p,hp,.inl ⟨out,hout⟩⟩
    · exact ⟨p,hp,.inr ⟨e,he⟩⟩
  · rintro ⟨p,hp,⟨out,hout⟩ | ⟨e,he⟩⟩
    · obtain ⟨candidates,hc⟩ := (prepare_eq_ok.mp hp).2.2.candidateClasses_ok
      exact ⟨_,p,hp,.inl ⟨out,candidates,hout,hc,rfl⟩⟩
    · exact ⟨_,p,hp,.inr ⟨e,he,rfl⟩⟩

theorem error_mem_failed (e : CompilerError) :
    ("error" : Text) ∈ (Bundle.failed existing entries e).toMembers.map Prod.fst := by
  rw [Bundle.toMembers_failed,List.map_append]
  exact List.mem_append_right _ (List.mem_singleton_self _)

theorem error_not_mem_confirmed (v : Verification) :
    ("error" : Text) ∉ (Bundle.confirmed existing entries v).toMembers.map Prod.fst := by
  rw [Bundle.toMembers_confirmed]
  change ("error" : Text) ∉
    [("existingClasses" : Text),"cssToTailwind","tailwindSuggestions","extractedClasses"]
  decide

end Bundles

/-! ## Snapshots -/

section Failures
variable {files : FileTree} {output : Option Text} {styles : Text} {x : Except Fault Text}
  {r : Report} (hcode : r.exitCode ≠ 0) (hx : ∀ text, x ≠ .ok text)
include hcode hx

theorem SnapshotAgrees.of_failure : SnapshotAgrees files output x r :=
  ⟨iff_of_false hcode fun ⟨⟨text,h⟩,_⟩ => hx text h,fun text h => absurd h (hx text),
    fun text h => absurd h (hx text)⟩

theorem ComponentAgrees.of_failure : ComponentAgrees styles x r :=
  ⟨iff_of_false hcode fun ⟨text,h⟩ => hx text h,fun text h => absurd h (hx text)⟩

end Failures

namespace Surroundings
variable {s : Surroundings} {settings : Settings} {t : Tailwind} {arguments : List Text}
  {verbose : Bool}

/-- Where the text of a page goes, it goes as it is. -/
theorem handOut_agrees (output : Option Text) {text : Text} (h : escape ∉ text) :
    SnapshotAgrees s.files output (.ok text) (s.ended (s.handOut output text)) := by
  rw [handOut]
  cases hnamed : outputPath output with
  | none =>
    refine ⟨iff_of_true rfl ⟨⟨text,rfl⟩,?_⟩,?_,?_⟩
    · rw [hnamed]
      exact fun path hpath => absurd hpath (Option.not_mem_none path)
    · rintro _ ⟨⟩ -
      exact echo_plain h
    · rw [hnamed]
      exact fun _ _ path hpath => absurd hpath (Option.not_mem_none path)
  | some path =>
    have hwrites : (∀ named ∈ outputPath output, s.files.Writable (Path.normalize named)) ↔
        ∃ files, s.files.write (Path.normalize path) (Text.utf8 text) = .ok files := by
      rw [hnamed,FileTree.write_returns]
      exact ⟨fun h => h path rfl,fun h _ hsame => Option.some.inj hsame ▸ h⟩
    dsimp only
    cases hwrite : s.files.write (Path.normalize path) (Text.utf8 text) with
    | error e =>
      have hnot : ¬ ∀ named ∈ outputPath output, s.files.Writable (Path.normalize named) := by
        rw [hwrites,hwrite]
        rintro ⟨_,⟨⟩⟩
      refine ⟨iff_of_false Nat.one_ne_zero fun h => hnot h.2,fun _ _ hnone => ?_,
        fun _ _ named hpath hwritable => absurd (fun other hother => ?_) hnot⟩
      · cases hnamed.symm.trans hnone
      · exact Option.some.inj (hpath.symm.trans hother) ▸ hwritable
    | ok files =>
      refine ⟨iff_of_true rfl ⟨⟨text,rfl⟩,hwrites.mpr ⟨files,hwrite⟩⟩,fun _ _ hnone => ?_,?_⟩
      · cases hnamed.symm.trans hnone
      · rintro _ ⟨⟩ named hpath -
        obtain rfl := Option.some.inj (hnamed.symm.trans hpath)
        exact FileTree.read_write hwrite

section Runs
variable (hsettings : Settings.ofEnvironment s.environment = .ok settings)
include hsettings

theorem snapshot_agrees (t : Tailwind) {url : Text} {selector output : Option Text}
    (hread : read s.files arguments = .ok (.run verbose (.snapshot url selector output))) :
    SnapshotAgrees s.files output
      (s.called settings t snapshotDefinition.name (snapshotArguments url selector))
      (s.report arguments) := by
  rw [report_eq hread,command,snapshot_outcome hsettings]
  cases hpage : s.page settings url selector with
  | error fault =>
    refine .of_failure ?_ fun text htext => ?_
    · cases fault <;> exact Nat.one_ne_zero
    · obtain ⟨page,hcaptured,-⟩ := called_snapshot.mp htext
      cases hpage.symm.trans hcaptured
  | ok page =>
    rw [called_snapshot.mpr ⟨page,hpage,rfl⟩]
    exact handOut_agrees output (escape_not_mem_indented _)

/-! ## Extractions -/

section Extraction
variable (htailwind : settings.tailwind s.files = .ok t) {htmlPath stylesPath html styles : Text}
  (hhtml : s.files.Holds htmlPath html) (hstyles : s.files.Holds stylesPath styles)
include htailwind hhtml hstyles

theorem styles_agree {f : Format} (hf : f ≠ .tailwind)
    (hread : read s.files arguments = .ok (.run verbose (.extract htmlPath stylesPath f))) :
    StylesAgree styles (s.called settings t extractDefinition.name
      (extractArguments html styles f.name)) (s.report arguments) := by
  obtain ⟨found,hfound,hall⟩ : ∃ found, f.direct? styles = some found ∧
      ∀ p : CodePoint → Prop, (∀ c, Json.IsTypable c → p c) → (∀ c ∈ styles, p c) →
        ∀ c ∈ found, p c := by
    cases f with
    | css => exact ⟨styles,rfl,fun _ _ h => h⟩
    | react => exact ⟨_,rfl,fun p hp h => Component.forall_styledSheet hp h⟩
    | tailwind => exact absurd rfl hf
  have hcalled : s.called settings t extractDefinition.name (extractArguments html styles f.name) =
      .ok ((Json.str found).toText Json.indented) := by
    rw [called_extract,convert,hfound]
    exact ⟨_,rfl,Json.write_eq_ok.mpr ⟨rfl,fun _ hn => absurd hn List.not_mem_nil⟩⟩
  rw [report_eq hread,command,extract_outcome hsettings htailwind hhtml hstyles,hfound,hcalled]
  refine ⟨iff_of_true rfl ⟨_,rfl⟩,?_⟩
  rintro _ ⟨⟩
  refine ⟨found,?_,fun hescape => ?_⟩
  · have hof := Json.ofText_toText (v := .str found) (s := []) Json.indented_isPlain
      (fun n hn => absurd hn List.not_mem_nil) fun c hc => absurd hc List.not_mem_nil
    have hscalar := hall _ (fun _ => Json.IsTypable.not_surrogate) hstyles.scalar
    rw [List.append_nil] at hof
    rw [hof]
    change Except.ok (Json.str found.joined) = _
    rw [Text.joined_of_not_surrogate hscalar]
  · have hplain := hall (· ≠ escape) (fun _ => ne_escape_of_isTypable) fun c hc heq =>
      hescape (heq ▸ hc)
    exact echo_plain fun hmem => hplain _ hmem rfl

omit hsettings htailwind hhtml hstyles in
/-- The statuses of programs are all that could keep a bundle from being written. -/
theorem called_bundle {text : Text} : s.called settings t extractDefinition.name
      (extractArguments html styles Format.tailwind.name) = .ok text ↔
    ∃ b, (StyleLift.extract html styles (t.compiler s.machine)).outcome = .ok b ∧
      text = b.toJson.toText Json.indented := by
  rw [called_extract]
  change (∃ v, (Bundle.toJson <$> StyleLift.extract html styles (t.compiler s.machine)).outcome =
    .ok v ∧ _) ↔ _
  rw [Action.outcome_map]
  constructor
  · rintro ⟨v,hv,hwrite⟩
    obtain ⟨b,hb,rfl⟩ := map_eq_ok.mp hv
    exact ⟨b,hb,(Json.write_eq_ok.mp hwrite).1⟩
  · rintro ⟨b,hb,rfl⟩
    refine ⟨_,map_eq_ok.mpr ⟨b,hb,rfl⟩,Json.write_eq_ok.mpr ⟨rfl,fun n hn => ?_⟩⟩
    obtain ⟨status,rfl,stylesheet,e,hcompile,hstatus⟩ := extract_numbers hb n hn
    have hwritten := Tailwind.compile_status hcompile hstatus
    rw [Json.writeError?,if_neg (Nat.not_lt.mpr (of_decide_eq_true hwritten))]

omit hsettings htailwind hhtml hstyles in
theorem bundleReport_agrees {b : Bundle}
    (h : (StyleLift.extract html styles (t.compiler s.machine)).outcome = .ok b) :
    BundleAgrees html styles
      (fun p => (t.compile s.machine (syntheticStylesheet p.rules) [html]).outcome)
      (.ok (b.toJson.toText Json.indented)) (s.bundleReport b) := by
  obtain ⟨p,hp,hend⟩ := extract_eq_bundle.mp h
  refine ⟨iff_of_true rfl ⟨_,rfl⟩,?_,iff_of_true rfl ((extract_returns_described _).mp ⟨b,h⟩),?_⟩
  · rintro _ ⟨⟩
    exact echo_plain (escape_not_mem_indented _)
  rintro _ ⟨⟩
  refine ⟨p,b.toMembers,hp,rfl,?_⟩
  rcases hend with ⟨out,candidates,hout,-,rfl⟩ | ⟨e,he,rfl⟩
  · have hnot : ∀ e, (t.compile s.machine (syntheticStylesheet p.rules) [html]).outcome ≠
        .error (.compiler e) := fun e he => by cases hout.symm.trans he
    exact ⟨iff_of_false (fun ⟨e,he⟩ => hnot e he) (error_not_mem_confirmed _),
      fun e he => absurd he (hnot e),fun _ => rfl⟩
  · refine ⟨iff_of_true ⟨e,he⟩ (error_mem_failed e),fun e' he' => ?_,
      fun h => absurd (error_mem_failed e) h⟩
    cases he.symm.trans he'
    rfl

theorem bundle_agrees
    (hread : read s.files arguments = .ok (.run verbose (.extract htmlPath stylesPath .tailwind))) :
    BundleAgrees html styles
      (fun p => (t.compile s.machine (syntheticStylesheet p.rules) [html]).outcome)
      (s.called settings t extractDefinition.name
        (extractArguments html styles Format.tailwind.name)) (s.report arguments) := by
  rw [report_eq hread,command,extract_outcome hsettings htailwind hhtml hstyles]
  dsimp only [Format.direct?]
  cases hextract : (StyleLift.extract html styles (t.compiler s.machine)).outcome with
  | ok b =>
    rw [called_bundle.mpr ⟨b,hextract,rfl⟩]
    exact bundleReport_agrees hextract
  | error fault =>
    have hno : ∀ b, (StyleLift.extract html styles (t.compiler s.machine)).outcome ≠ .ok b :=
      fun b hb => by cases hextract.symm.trans hb
    have hnone : ∀ text, s.called settings t extractDefinition.name
        (extractArguments html styles Format.tailwind.name) ≠ .ok text := fun text htext => by
      obtain ⟨b,hb,-⟩ := called_bundle.mp htext
      exact hno b hb
    refine ⟨iff_of_false Nat.one_ne_zero fun ⟨text,htext⟩ => hnone text htext,
      fun text htext => absurd htext (hnone text),iff_of_false Nat.one_ne_zero fun h => ?_,
      fun text htext => absurd htext (hnone text)⟩
    obtain ⟨b,hb⟩ := (extract_returns_described (t.compiler s.machine)).mpr h
    exact hno b hb

end Extraction
end Runs

/-! ## Applications -/

theorem component_agrees (settings : Settings) (t : Tailwind)
    {stylesPath styles framework name : Text} (hstyles : s.files.Holds stylesPath styles)
    (hread : read s.files arguments = .ok (.run verbose (.apply stylesPath framework name))) :
    ComponentAgrees styles (s.called settings t applyDefinition.name
      (applyArguments styles framework name)) (s.report arguments) := by
  rw [report_eq hread,command,apply_outcome hstyles]
  cases hmade : frameworkComponent styles framework name with
  | error fault =>
    refine .of_failure Nat.one_ne_zero fun text htext => ?_
    cases hmade.symm.trans (called_apply.mp htext)
  | ok found =>
    rw [called_apply.mpr hmade]
    refine ⟨iff_of_true rfl ⟨found,rfl⟩,?_⟩
    rintro _ ⟨⟩ hescape
    refine echo_plain ?_
    rw [frameworkComponent] at hmade
    split at hmade
    · cases hmade
    · next f _ =>
      split at hmade
      · next hname =>
        obtain rfl := Except.ok.inj hmade
        exact escape_not_mem_component f hname hescape
      · cases hmade

/-- Run on given texts in given settings, every command agrees with the tool that it matches. -/
theorem commands_agree (hsettings : Settings.ofEnvironment s.environment = .ok settings)
    (htailwind : settings.tailwind s.files = .ok t) {command : Command}
    (hread : read s.files arguments = .ok (.run verbose command)) :
    (∀ url selector output, command = .snapshot url selector output →
      SnapshotAgrees s.files output
        (s.called settings t snapshotDefinition.name (snapshotArguments url selector))
        (s.report arguments)) ∧
    (∀ htmlPath stylesPath f html styles, command = .extract htmlPath stylesPath f →
      s.files.Holds htmlPath html → s.files.Holds stylesPath styles →
      (f ≠ .tailwind → StylesAgree styles
        (s.called settings t extractDefinition.name (extractArguments html styles f.name))
        (s.report arguments)) ∧
      (f = .tailwind → BundleAgrees html styles
        (fun p => (t.compile s.machine (syntheticStylesheet p.rules) [html]).outcome)
        (s.called settings t extractDefinition.name (extractArguments html styles f.name))
        (s.report arguments))) ∧
    ∀ stylesPath framework name styles, command = .apply stylesPath framework name →
      s.files.Holds stylesPath styles → ComponentAgrees styles
        (s.called settings t applyDefinition.name (applyArguments styles framework name))
        (s.report arguments) := by
  refine ⟨?_,?_,?_⟩
  · rintro url selector output rfl
    exact snapshot_agrees hsettings t hread
  · rintro htmlPath stylesPath f html styles rfl hhtml hstyles
    refine ⟨fun hf => styles_agree hsettings htailwind hhtml hstyles hf hread,?_⟩
    rintro rfl
    exact bundle_agrees hsettings htailwind hhtml hstyles hread
  · rintro stylesPath framework name styles rfl hstyles
    exact component_agrees settings t hstyles hread

/-- A working directory with a page and its styles, a working browser and no compiler. -/
def bare : Surroundings where
  environment := []
  files := ⟨["work"],[(["work","a.html"],.file (Text.utf8 "Hi")),
    (["work","a.css"],.file (Text.utf8 ".a\x7bdisplay:flex\x7d"))]⟩
  machine := Tailwind.gone
  browser := ⟨fun _ => none,none,"Hi"⟩

def plainCompiler : Tailwind :=
  ⟨[Tailwind.defaultExecutable],none,Tailwind.defaultTimeout,true⟩

/-- Without a compiler there is a bundle all the same, with an error in it. -/
theorem commands_agree_bare : ∃ members,
    (bare.report ["extract","--html","a.html","--styles","a.css"]).exitCode = 0 ∧
    bare.called .default plainCompiler extractDefinition.name
      (extractArguments "Hi" ".a\x7bdisplay:flex\x7d" Format.tailwind.name) =
        .ok ((Json.obj members).toText Json.indented) ∧
        ("error" : Text) ∈ members.map Prod.fst := by
  have hread : read bare.files ["extract","--html","a.html","--styles","a.css"] =
      .ok (.run false (.extract "a.html" "a.css" .tailwind)) := rfl
  have hhtml : bare.files.Holds "a.html" "Hi" := ⟨by decide,by decide,rfl⟩
  have hstyles : bare.files.Holds "a.css" ".a\x7bdisplay:flex\x7d" := ⟨by decide,by decide,rfl⟩
  have htailwind : Settings.default.tailwind bare.files = .ok plainCompiler := rfl
  obtain ⟨exits,-,degrades,warns⟩ :=
    ((commands_agree rfl htailwind hread).2.1 _ _ _ _ _ rfl hhtml hstyles).2 rfl
  have hp : prepare "Hi" ".a\x7bdisplay:flex\x7d" = .ok ⟨[],[⟨".a",[⟨"display","flex",false⟩]⟩],
      [⟨⟨".a",[⟨"display","flex",false⟩]⟩,[⟨⟨"display","flex",false⟩,["flex"],false⟩]⟩]⟩ := by cbv
  have hcompile : (plainCompiler.compile bare.machine
      (syntheticStylesheet [⟨".a",[⟨"display","flex",false⟩]⟩]) ["Hi"]).outcome =
        .error plainCompiler.programMissing := rfl
  have hcode := degrades.mpr ⟨_,hp,.inr ⟨_,hcompile⟩⟩
  obtain ⟨text,htext⟩ := exits.mp hcode
  obtain ⟨p,members,hsame,rfl,herror,-⟩ := warns text htext
  cases hp.symm.trans hsame
  exact ⟨members,hcode,htext,herror.mp ⟨_,hcompile⟩⟩

/-- A snapshot whose file has no directory to lie in fails, though the call gives a text. -/
theorem snapshot_unwritten :
    Settings.ofEnvironment bare.environment = .ok .default ∧
    Settings.default.tailwind bare.files = .ok plainCompiler ∧
    (bare.report ["snapshot","u","--output","no/dir.json"]).exitCode = 1 ∧
    read bare.files ["snapshot","u","--output","no/dir.json"] =
      .ok (.run false (.snapshot "u" none (some "no/dir.json"))) ∧
    bare.called .default plainCompiler snapshotDefinition.name (snapshotArguments "u" none) =
      .ok ((Json.obj [("styles",.str ""),("html",.str "Hi")]).toText Json.indented) :=
  ⟨rfl,rfl,rfl,rfl,rfl⟩

end Surroundings
end StyleLift.CommandLine
