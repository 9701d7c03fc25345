import Mathlib.Data.List.Nodup
import StyleLift.Proofs.Text.Decoding
import StyleLift.Proofs.Verify.Configuration

/-! # What the compiler's program is given

A compilation runs the program once. The files laid out for that run hold the style sheet and the
documents, each under a path of its own that the arguments name, and the run alone decides what
comes of the compilation.
-/
namespace StyleLift

/-- The run of a program that an event is. -/
def Event.invocation? : Event → Option Invocation
  | .run i => some i
  | _ => none

namespace Tailwind
variable {t : Tailwind} {m : Machine} {stylesheet : Text} {documents : List Text}

/-! ## Paths of the documents -/

def pageName (index : Nat) : Text :=
  Text.ofString "page-" ++ Text.ofNat index ++ Text.ofString ".html"

/-- A document's name has digits and what all such names have. -/
theorem not_mem_pageName {c : CodePoint} (hplain : c ∉ Text.ofString "page-.html")
    (hdigit : c.isAsciiDigit = false) (index : Nat) : c ∉ pageName index := by
  have hparts : Text.ofString "page-.html" = Text.ofString "page-" ++ Text.ofString ".html" := rfl
  rw [hparts,List.mem_append,not_or] at hplain
  have hnumber : c ∉ Text.ofNat index := by
    intro hmem
    rw [Text.isDigits_ofNat index c hmem] at hdigit
    cases hdigit
  simp only [pageName,List.mem_append,not_or]
  exact ⟨⟨hplain.1,hnumber⟩,hplain.2⟩

theorem pageName_isStep (index : Nat) : Path.IsStep (pageName index) where
  nonempty := by
    intro h
    cases h
  notDot := by
    intro h
    cases h
  unbroken := not_mem_pageName (by decide) (by decide) index

theorem pageName_injective : Function.Injective pageName := by
  intro i j h
  have hdigits := List.append_cancel_left (List.append_cancel_right h)
  rw [← Text.decimalValue_ofNat i,hdigits,Text.decimalValue_ofNat]

/-- Different names stand for different files in the scratch directory. -/
theorem inScratch_inj {one other : Text} (hone : Path.IsStep one) (hother : Path.IsStep other)
    (h : inScratch m one = inScratch m other) : one = other := by
  have hsteps := congrArg Path.steps h
  rw [inScratch,inScratch,Path.steps_append,Path.steps_append,Path.steps_of_isStep hone,
    Path.steps_of_isStep hother] at hsteps
  exact List.singleton_inj.mp (List.append_cancel_left hsteps)

theorem documentPath_injective : Function.Injective (documentPath m) := by
  intro i j h
  exact pageName_injective (inScratch_inj (pageName_isStep i) (pageName_isStep j) h)

theorem documentPaths_nodup : (documentPaths m documents).Nodup :=
  List.Nodup.map documentPath_injective List.nodup_range

theorem length_documentPaths : (documentPaths m documents).length = documents.length := by
  simp [documentPaths]

/-- A file that is no document is at no document's path. -/
theorem inScratch_not_mem_documentPaths {name : Text} (hname : Path.IsStep name)
    (hpage : ∀ index, name ≠ pageName index) :
    inScratch m name ∉ documentPaths m documents := by
  intro h
  obtain ⟨index,-,hindex⟩ := List.mem_map.mp h
  exact hpage index (inScratch_inj hname (pageName_isStep index) hindex.symm)

theorem isStep_input : Path.IsStep "input.css" := ⟨by decide,by decide,by decide⟩

theorem isStep_output : Path.IsStep "output.css" := ⟨by decide,by decide,by decide⟩

theorem splitOn_documentPaths (hcomma : CodePoint.char ',' ∉ m.scratch)
    (hdocuments : documents ≠ []) :
    Text.splitOn (.char ',') (Text.joinWith [.char ','] (documentPaths m documents)) =
      documentPaths m documents := by
  refine List.splitOn_intercalate (CodePoint.char ',') ?_ ?_
  · intro path hpath
    obtain ⟨index,-,rfl⟩ := List.mem_map.mp hpath
    intro h
    have hname : CodePoint.char ',' ∉ pageName index :=
      not_mem_pageName (by decide) (by decide) index
    have hplain := Path.forall_append (p := (· ≠ CodePoint.char ',')) (by decide) (by decide)
      (fun c hc => ne_of_mem_of_not_mem hc hcomma) (fun c hc => ne_of_mem_of_not_mem hc hname)
    exact hplain _ h rfl
  · intro h
    have hlength : (documentPaths m documents).length = documents.length := length_documentPaths
    rw [h] at hlength
    exact hdocuments (List.length_eq_zero_iff.mp hlength.symm)

/-! ## Files -/

/-- What is found under distinct keys. -/
theorem map_lookup_zip {α β : Type} [BEq α] [LawfulBEq α] {keys : List α} {values : List β}
    (hkeys : keys.Nodup) (hlength : keys.length = values.length) :
    keys.map (fun key => List.lookup key (keys.zip values)) = values.map some := by
  induction keys generalizing values with
  | nil =>
    obtain rfl := List.length_eq_zero_iff.mp hlength.symm
    rfl
  | cons key keys ih =>
    cases values with
    | nil => cases hlength
    | cons value values =>
      obtain ⟨hnew,hkeys⟩ := List.nodup_cons.mp hkeys
      have hrest : keys.map (fun other => List.lookup other ((key,value) :: keys.zip values)) =
          keys.map (fun other => List.lookup other (keys.zip values)) := by
        apply List.map_congr_left
        intro other hother
        have hne : (other == key) = false := by
          rw [beq_eq_false_iff_ne]
          exact ne_of_mem_of_not_mem hother hnew
        rw [List.lookup_cons,hne]
      rw [List.zip_cons_cons,List.map_cons,List.map_cons,hrest,ih hkeys (Nat.succ.inj hlength),
        List.lookup_cons,beq_self_eq_true]

/-- What is not among the keys has no value. -/
theorem lookup_zip_eq_none {α β : Type} [BEq α] [LawfulBEq α] {keys : List α} {values : List β}
    {key : α} (h : key ∉ keys) : List.lookup key (keys.zip values) = none := by
  rw [List.lookup_eq_none_iff]
  rintro ⟨other,value⟩ hmem
  rw [bne_iff_ne]
  exact (ne_of_mem_of_not_mem (List.of_mem_zip hmem).1 h).symm

/-- The files that are laid out for a run. -/
def laidFiles (m : Machine) (stylesheet : Text) (documents : List Text) : List (Text × Text) :=
  (inScratch m "input.css",stylesheet) :: (documentPaths m documents).zip documents

theorem input_not_mem_documentPaths : inScratch m "input.css" ∉ documentPaths m documents := by
  apply inScratch_not_mem_documentPaths isStep_input
  intro index h
  cases h

theorem output_not_mem_documentPaths : inScratch m "output.css" ∉ documentPaths m documents := by
  apply inScratch_not_mem_documentPaths isStep_output
  intro index h
  cases h

theorem output_ne_input : inScratch m "output.css" ≠ inScratch m "input.css" := by
  intro h
  exact absurd (inScratch_inj isStep_output isStep_input h) (by decide)

/-- No file is laid out twice. -/
theorem laidFiles_nodup : ((laidFiles m stylesheet documents).map Prod.fst).Nodup := by
  have hpaths : ((documentPaths m documents).zip documents).map Prod.fst =
      documentPaths m documents := by
    apply List.map_fst_zip
    exact Nat.le_of_eq length_documentPaths
  rw [laidFiles,List.map_cons,hpaths,List.nodup_cons]
  exact ⟨input_not_mem_documentPaths,documentPaths_nodup⟩

theorem length_laidFiles : (laidFiles m stylesheet documents).length = documents.length + 1 := by
  rw [laidFiles,List.length_cons,List.length_zip,length_documentPaths,Nat.min_self]

theorem lookup_output :
    List.lookup (inScratch m "output.css") (laidFiles m stylesheet documents) = none := by
  rw [laidFiles,List.lookup_cons,beq_eq_false_iff_ne.mpr output_ne_input]
  exact lookup_zip_eq_none output_not_mem_documentPaths

theorem map_lookup_documentPaths :
    (documentPaths m documents).map
        (fun path => List.lookup path (laidFiles m stylesheet documents)) =
      documents.map some := by
  rw [← map_lookup_zip documentPaths_nodup length_documentPaths]
  apply List.map_congr_left
  intro path hpath
  have hne : (path == inScratch m "input.css") = false := by
    rw [beq_eq_false_iff_ne]
    exact ne_of_mem_of_not_mem hpath input_not_mem_documentPaths
  rw [laidFiles,List.lookup_cons,hne]

/-! ## The run -/

/-- A run of the program on a style sheet and documents: which arguments it has, and what stands in
the files that they name. No other file is laid out. -/
structure RunsOn (i : Invocation) (command : List Text) (config : Option Text) (vendor : Bool)
    (stylesheet : Text) (documents : List Text) (input output content : Text) : Prop where
  arguments : i.arguments = command ++
    [Text.ofString "-i",input,Text.ofString "-o",output] ++
    (if documents = [] then [] else [Text.ofString "--content",content]) ++
    (match config with
      | some path => [Text.ofString "-c",Path.normalize path]
      | none => []) ++
    (if vendor then [] else [Text.ofString "--no-autoprefixer"])
  distinct : (i.files.map Prod.fst).Nodup
  count : i.files.length = documents.length + 1
  stylesheet : List.lookup input i.files = some stylesheet
  output : List.lookup output i.files = none

/-- The paths that are joined into one argument lead to the documents, in their order. -/
structure LeadsTo (i : Invocation) (content : Text) (documents : List Text) : Prop where
  distinct : (Text.splitOn (.char ',') content).Nodup
  length : (Text.splitOn (.char ',') content).length = documents.length
  documents : (Text.splitOn (.char ',') content).map (fun path => List.lookup path i.files) =
    documents.map some

variable {executable : Text} {config : Option Text} {timeout : Binary64} {vendor : Bool}

theorem invocation_runsOn {command : List Text} (hcommand : Shell.split executable = .ok command)
    (ht : ofExecutable executable config timeout vendor = .ok t) :
    RunsOn (t.invocation m stylesheet documents) command
      (config.filter fun path => !path.isEmpty) vendor stylesheet documents
      (inScratch m "input.css") (inScratch m "output.css")
      (Text.joinWith [.char ','] (documentPaths m documents)) where
  arguments := by
    rw [ofExecutable,hcommand] at ht
    obtain rfl := Except.ok.inj ht
    have hempty : (documentPaths m documents).isEmpty = true ↔ documents = [] := by
      rw [List.isEmpty_iff,← List.length_eq_zero_iff,length_documentPaths,List.length_eq_zero_iff]
    simp only [invocation,options,hempty,List.append_assoc]
    cases config.filter fun path => !path.isEmpty <;> rfl
  distinct := laidFiles_nodup
  count := length_laidFiles
  stylesheet := List.lookup_cons_self
  output := lookup_output

theorem invocation_leadsTo (hcomma : CodePoint.char ',' ∉ m.scratch) (hdocuments : documents ≠ []) :
    LeadsTo (t.invocation m stylesheet documents)
      (Text.joinWith [.char ','] (documentPaths m documents)) documents where
  distinct := by
    rw [splitOn_documentPaths hcomma hdocuments]
    exact documentPaths_nodup
  length := by
    rw [splitOn_documentPaths hcomma hdocuments]
    exact length_documentPaths
  documents := by
    rw [splitOn_documentPaths hcomma hdocuments]
    exact map_lookup_documentPaths

/-- Texts that have bytes are compiled in one run. -/
theorem compile_runs_once (hs : ∀ s ∈ stylesheet :: documents, s.IsScalar) :
    (t.compile m stylesheet documents).events.filterMap Event.invocation? =
      [t.invocation m stylesheet documents] := by
  rw [compile,Action.events_bind,Action.events_ofExcept,Action.outcome_ofExcept,
    checkEncodable_returns.mpr hs]
  change List.filterMap _ ([] ++ (t.run m _ >>= fun c =>
    Action.ofExcept id (readOutput m c.output)).events) = _
  rw [Action.events_bind,run_events]
  cases (t.run m (t.invocation m stylesheet documents)).outcome with
  | error fault => rfl
  | ok c =>
    simp only [Action.events_ofExcept]
    rfl

/-! ## What comes of the run -/

theorem completion_eq_ok {o : Outcome} {c : Completion} :
    t.completion o = .ok c ↔ o = .completed c ∧ c.status = 0 := by
  cases o with
  | completed d =>
    rw [completion]
    split
    · next hzero =>
      constructor
      · intro h
        obtain rfl := Except.ok.inj h
        exact ⟨rfl,hzero⟩
      · rintro ⟨h,-⟩
        rw [Outcome.completed.inj h]
    · next hzero =>
      refine iff_of_false (fun h => by cases h) ?_
      rintro ⟨h,hstatus⟩
      rw [← Outcome.completed.inj h] at hstatus
      exact hzero hstatus
  | programMissing => exact iff_of_false (fun h => by cases h) fun h => by cases h.1
  | notPermitted => exact iff_of_false (fun h => by cases h) fun h => by cases h.1
  | timedOut => exact iff_of_false (fun h => by cases h) fun h => by cases h.1

/-- The output is read if it is a file whose bytes encode a text. -/
theorem readOutput_eq_ok {output : OutputFile} {text : Text} :
    readOutput m output = .ok text ↔
      ∃ written : Text, written.IsScalar ∧ output = .bytes written.utf8 ∧
        text = written.normalizeNewlines := by
  cases output with
  | missing => exact iff_of_false (fun h => by cases h) fun ⟨_,_,h,_⟩ => by cases h
  | directory => exact iff_of_false (fun h => by cases h) fun ⟨_,_,h,_⟩ => by cases h
  | bytes content =>
    constructor
    · intro h
      rw [readOutput] at h
      split at h
      · next written hwritten =>
        obtain ⟨hscalar,rfl⟩ := Text.decode_eq_ok.mp hwritten
        exact ⟨written,hscalar,rfl,(Except.ok.inj h).symm⟩
      · cases h
    · rintro ⟨written,hscalar,hbytes,rfl⟩
      obtain rfl := OutputFile.bytes.inj hbytes
      rw [readOutput,Text.decode_eq_ok.mpr ⟨hscalar,rfl⟩]

theorem compile_outcome_scalar (hs : ∀ s ∈ stylesheet :: documents, s.IsScalar) :
    (t.compile m stylesheet documents).outcome =
      t.completion (m.run (t.invocation m stylesheet documents)) >>= fun c =>
        readOutput m c.output := by
  rw [compile_outcome,checkEncodable_returns.mpr hs]
  rfl

theorem exited_written {status : Int} (h : Numeral.isWritten status = true) (stderr : Text) :
    ∃ e : CompilerError, exited status stderr = .compiler e ∧ e.status = some status ∧
      e.stderr = stderr.trim := by
  rw [exited,if_pos h]
  exact ⟨_,rfl,rfl,rfl⟩

/-- Texts that have bytes are compiled in one run of the program, on them and nothing else. A text
comes of it just if the run ends well and leaves a file whose bytes encode one, and then it is that
text with every line end read as a newline. A run that ends with another status is an error with
this status and what the program complained of, whatever it left. -/
theorem compile_invokes (ht : ofExecutable executable config timeout vendor = .ok t)
    (hs : ∀ s ∈ stylesheet :: documents, s.IsScalar) :
    ∃ command i input output content,
      Shell.split executable = .ok command ∧
      (t.compile m stylesheet documents).events.filterMap Event.invocation? = [i] ∧
      RunsOn i command (config.filter fun path => !path.isEmpty) vendor stylesheet documents
        input output content ∧
      (CodePoint.char ',' ∉ m.scratch → documents ≠ [] → LeadsTo i content documents) ∧
      (∀ text, (t.compile m stylesheet documents).outcome = .ok text ↔
        ∃ (c : Completion) (written : Text), m.run i = .completed c ∧ c.status = 0 ∧
          written.IsScalar ∧ c.output = .bytes written.utf8 ∧
          text = written.normalizeNewlines) ∧
      ∀ c, m.run i = .completed c → c.status ≠ 0 → Numeral.isWritten c.status = true →
        ∃ e : CompilerError, (t.compile m stylesheet documents).outcome = .error (.compiler e) ∧
          e.status = some c.status ∧ e.stderr = c.stderr.trim := by
  obtain ⟨command,hcommand,-⟩ := map_eq_ok.mp ht
  refine ⟨command,t.invocation m stylesheet documents,_,_,_,hcommand,compile_runs_once hs,
    invocation_runsOn hcommand ht,invocation_leadsTo,fun text => ?_,fun c hc hstatus hwritten => ?_⟩
  · rw [compile_outcome_scalar hs,bind_eq_ok]
    simp only [completion_eq_ok,readOutput_eq_ok]
    constructor
    · rintro ⟨c,⟨hc,hzero⟩,written,hscalar,hbytes,htext⟩
      exact ⟨c,written,hc,hzero,hscalar,hbytes,htext⟩
    · rintro ⟨c,written,hc,hzero,hscalar,hbytes,htext⟩
      exact ⟨c,⟨hc,hzero⟩,written,hscalar,hbytes,htext⟩
  · obtain ⟨e,he,hdata⟩ := exited_written hwritten c.stderr
    refine ⟨e,?_,hdata⟩
    rw [compile_outcome_scalar hs,hc,completion,if_neg hstatus,he]
    rfl

/-! A program of two words that writes a file with line ends of two kinds. -/

def pairTailwind : Tailwind := ⟨["npx","tailwindcss"],some "tw.js",defaultTimeout,false⟩

def writing : Machine :=
  ⟨fun _ => .completed ⟨0,"","warn",.bytes (Text.utf8 "a{}\r\nb{}\r")⟩,"/tmp/work"⟩

theorem compile_invokes_pair :
    ofExecutable "npx tailwindcss" (some "./tw.js") defaultTimeout false = .ok pairTailwind ∧
    (pairTailwind.compile writing "@tailwind;" ["<p>","<b>"]).outcome = .ok "a{}\nb{}\n" ∧
    ∃ i content,
      (pairTailwind.compile writing "@tailwind;" ["<p>","<b>"]).events.filterMap
        Event.invocation? = [i] ∧
      LeadsTo i content ["<p>","<b>"] := by
  have ht : ofExecutable "npx tailwindcss" (some "./tw.js") defaultTimeout false =
      .ok pairTailwind := rfl
  have hs : ∀ s ∈ ("@tailwind;" : Text) :: ["<p>","<b>"], s.IsScalar := by decide
  obtain ⟨_,i,_,_,content,-,hruns,-,hleads,hreturns,-⟩ := compile_invokes (m := writing) ht hs
  refine ⟨ht,(hreturns _).mpr ?_,i,content,hruns,hleads (by decide) (List.cons_ne_nil _ _)⟩
  exact ⟨_,"a{}\r\nb{}\r",rfl,rfl,by decide,rfl,rfl⟩

/-- A document without bytes keeps the program from being run. -/
theorem compile_unwritten :
    ofExecutable "tailwindcss" none defaultTimeout true =
      .ok ⟨["tailwindcss"],none,defaultTimeout,true⟩ ∧
    (compile ⟨["tailwindcss"],none,defaultTimeout,true⟩ gone "" [[.surrogate 0]]).events.filterMap
      Event.invocation? = [] := by
  exact ⟨rfl,rfl⟩

end Tailwind
end StyleLift
