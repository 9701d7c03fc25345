import StyleLift.Proofs.Files.Places
import StyleLift.Proofs.Verify.Failures
import StyleLift.Run.Settings

/-! # The configuration that is compiled with

The program is given the configuration file of the settings just if there is one. It is given the
file's path as it is, but runs in the scratch directory: a relative path leads it elsewhere, unless
the path goes up to where the scratch directory and the working directory are the same.
-/
namespace StyleLift

namespace Tailwind
variable {t : Tailwind} {m : Machine} {stylesheet : Text} {documents : List Text}

theorem run_events (t : Tailwind) (m : Machine) (i : Invocation) : (t.run m i).events =
    [.log .debug (Text.ofString "Running " ++ Shell.join i.arguments),.run i] := by
  rw [run,Action.events_bind,Action.outcome_log,Action.events_log]
  change _ ++ (Action.emit (.run i) >>= fun _ => _).events = _
  rw [Action.events_bind,Action.outcome_emit,Action.events_emit]
  change _ ++ (_ ++ (Action.ofExcept id _).events) = _
  rw [Action.events_ofExcept]
  rfl

/-- A compilation runs the program once, unless a text has no bytes. -/
theorem compile_runs {i : Invocation} :
    .run i ∈ (t.compile m stylesheet documents).events ↔
      (∀ s ∈ stylesheet :: documents, s.IsScalar) ∧ i = t.invocation m stylesheet documents := by
  rw [compile,Action.events_bind,Action.events_ofExcept,Action.outcome_ofExcept,
    ← checkEncodable_returns]
  cases checkEncodable (stylesheet :: documents) with
  | error e => exact iff_of_false List.not_mem_nil fun h => by cases h.1
  | ok u =>
    change _ ∈ [] ++ (t.run m _ >>= fun c => Action.ofExcept id (readOutput m c.output)).events ↔ _
    rw [Action.events_bind,run_events]
    cases (t.run m (t.invocation m stylesheet documents)).outcome <;> simp

/-! ## Arguments -/

/-- The argument that follows a name. -/
def argumentAfter (name : Text) : List Text → Option Text
  | argument :: value :: rest =>
    if argument = name then some value else argumentAfter name (value :: rest)
  | _ => none

theorem argumentAfter_skip {name : Text} {before after : List Text}
    (h : ∀ argument ∈ before, argument ≠ name) :
    argumentAfter name (before ++ after) = argumentAfter name after := by
  induction before with
  | nil => rfl
  | cons argument before ih =>
    obtain ⟨hargument,hbefore⟩ := List.forall_mem_cons.mp h
    rw [← ih hbefore,List.cons_append]
    cases before ++ after with
    | nil => rfl
    | cons value rest => rw [argumentAfter,if_neg hargument]

/-- A path in the scratch directory ends with the name there. -/
theorem length_inScratch (m : Machine) {name : Text} (h : Path.steps name = [name]) :
    name.length ≤ (inScratch m name).length := by
  obtain ⟨before,hbefore⟩ := Text.joinWith_ends [Path.slash] name (Path.steps m.scratch)
  have hsome : ¬ ((Path.root m.scratch).isEmpty &&
      (Path.steps m.scratch ++ [name]).isEmpty) = true := by
    simp
  rw [inScratch,Path.append,h,Path.ofSteps,if_neg hsome,hbefore,List.length_append,
    List.length_append]
  omega

def configFlag : Text := "-c"

/-- None of the options with a path in the scratch directory names a configuration. -/
theorem argumentAfter_options (t : Tailwind) (m : Machine) (documents : List Text) :
    argumentAfter configFlag (t.options m (documentPaths m documents)) = t.configPath := by
  have hlong : ∀ argument : Text, 2 < argument.length → argument ≠ configFlag := by
    rintro argument h rfl
    exact absurd h (by decide)
  have hinput : inScratch m "input.css" ≠ configFlag :=
    hlong _ (Nat.lt_of_lt_of_le (by decide) (length_inScratch m (by decide)))
  have houtput : inScratch m "output.css" ≠ configFlag :=
    hlong _ (Nat.lt_of_lt_of_le (by decide) (length_inScratch m (by decide)))
  have hcontent : Text.joinWith [.char ','] (documentPaths m documents) ≠ configFlag := by
    cases documents with
    | nil =>
      change ([] : Text) ≠ configFlag
      decide
    | cons document documents =>
      have hfirst : documentPaths m (document :: documents) =
          documentPath m 0 :: (List.range documents.length).map fun i =>
            documentPath m (i + 1) := by
        rw [documentPaths,List.length_cons,List.range_succ_eq_map,List.map_cons,List.map_map]
        rfl
      obtain ⟨more,hmore⟩ := Text.joinWith_starts [.char ','] (documentPath m 0)
        ((List.range documents.length).map fun i => documentPath m (i + 1))
      have hpage : 2 < (documentPath m 0).length :=
        Nat.lt_of_lt_of_le (by decide) (length_inScratch m (by decide))
      rw [hfirst,hmore]
      refine hlong _ ?_
      rw [List.length_append]
      omega
  rw [options,List.append_assoc,List.append_assoc,argumentAfter_skip,argumentAfter_skip]
  · cases t.configPath with
    | none => cases t.addsVendorPrefixes <;> rfl
    | some path => rfl
  · split
    · exact fun _ h => absurd h List.not_mem_nil
    · simpa using ⟨by decide,hcontent⟩
  · simpa using ⟨by decide,hinput,by decide,houtput⟩

end Tailwind

namespace Settings
variable {s : Settings} {tree : FileTree} {t : Tailwind}

/-! ## The configuration file -/

/-- The path that the settings name; an empty one counts as none. -/
def namedConfig (s : Settings) : Option Text := s.configPath.filter fun path => !path.isEmpty

theorem workingPath_isAbsolute (tree : FileTree) : Path.isAbsolute tree.workingPath = true := rfl

/-- The configuration file is in its plain form, and absolute if no path is named. -/
theorem configFile_plain {path : Text} (h : s.configFile tree none = .ok (some path)) :
    path ≠ [] ∧ Path.normalize path = path ∧
      (s.namedConfig = none → Path.isAbsolute path = true) := by
  rw [configFile,← namedConfig] at h
  cases hnamed : s.namedConfig with
  | some named =>
    rw [hnamed] at h
    obtain rfl := Option.some.inj (Except.ok.inj h)
    exact ⟨Path.ofSteps_ne_nil Path.steps_isStep,Path.normalize_normalize named,fun h => by cases h⟩
  | none =>
    rw [hnamed] at h
    obtain ⟨present,-,hpath⟩ := bind_eq_ok.mp h
    cases present with
    | false => cases hpath
    | true =>
      obtain rfl := Option.some.inj (Except.ok.inj hpath)
      refine ⟨Path.ofSteps_ne_nil (Path.append_isStep _ _),Path.normalize_append _ _,fun _ => ?_⟩
      rw [Path.isAbsolute_append]
      exact workingPath_isAbsolute tree

theorem configFile_tailwind (ht : s.tailwind tree = .ok t) :
    s.configFile tree none = .ok t.configPath := by
  obtain ⟨config,hconfig,hmade⟩ := bind_eq_ok.mp ht
  obtain ⟨command,-,rfl⟩ := map_eq_ok.mp (mapError_eq_ok.mp hmade)
  rw [hconfig]
  cases config with
  | none => rfl
  | some path =>
    obtain ⟨hne,hplain,-⟩ := configFile_plain hconfig
    have hkept : (some path).filter (fun path : Text => !path.isEmpty) = some path := by
      simp [hne]
    rw [hkept,Option.map_some,hplain]

/-- A run of the program is told of the configuration file of the settings, if there is one. The
path leads the run, which starts in the scratch directory, to the place of that file just if it is
absolute or goes up to where the scratch directory and the working directory are the same; a path
that the settings do not name is absolute. -/
theorem config_passed (ht : s.tailwind tree = .ok t) (m : Machine) (stylesheet : Text)
    (documents : List Text) :
    ∃ config, s.configFile tree none = .ok config ∧
      ∀ i, .run i ∈ (t.compile m stylesheet documents).events →
        i.directory = some m.scratch ∧ t.command <+: i.arguments ∧
        Tailwind.argumentAfter Tailwind.configFlag (i.arguments.drop t.command.length) = config ∧
        ∀ path, config = some path →
          (∀ file, tree.resolve path = .ok file →
            file = Path.place tree.workingDirectory path) ∧
          (Path.place (Path.place tree.workingDirectory m.scratch) path =
              Path.place tree.workingDirectory path ↔
            Path.isAbsolute path = true ∨
              Path.above (Path.levels path) (Path.place tree.workingDirectory m.scratch) =
                Path.above (Path.levels path) tree.workingDirectory) ∧
          (s.namedConfig = none → Path.isAbsolute path = true) := by
  have hconfig := configFile_tailwind ht
  refine ⟨t.configPath,hconfig,fun i hi => ?_⟩
  obtain ⟨-,rfl⟩ := Tailwind.compile_runs.mp hi
  refine ⟨rfl,List.prefix_append _ _,?_,fun path hpath => ?_⟩
  · rw [Tailwind.invocation,List.drop_left]
    exact Tailwind.argumentAfter_options t m documents
  · rw [hpath] at hconfig
    exact ⟨fun file => FileTree.resolve_eq_ok,Path.place_eq_iff,(configFile_plain hconfig).2.2⟩

/-! A working directory with a configuration file beside it, and a machine whose scratch directory
is beside both. -/

def siteTree : FileTree :=
  ⟨["work","site"],[(["work","tw.js"],.file []),(["work","site","tw.js"],.file [])]⟩

def idleMachine : Machine := ⟨fun _ => .timedOut,"/work/scratch"⟩

def withConfig (path : Text) : Settings := { default with configPath := some path }

def siteTailwind (path : Text) : Tailwind :=
  ⟨["tailwindcss"],some path,Tailwind.defaultTimeout,true⟩

/-- A file beside both directories is found from the scratch directory too. -/
theorem config_passed_beside :
    (withConfig "../tw.js").tailwind siteTree = .ok (siteTailwind "../tw.js") ∧
    siteTree.resolve "../tw.js" = .ok ["work","tw.js"] ∧
    Path.place (Path.place ["work","site"] "/work/scratch") "../tw.js" = ["work","tw.js"] := by
  have ht : (withConfig "../tw.js").tailwind siteTree = .ok (siteTailwind "../tw.js") := by rfl
  have hfile : siteTree.resolve "../tw.js" = .ok ["work","tw.js"] := by rfl
  obtain ⟨config,hconfig,hpassed⟩ := config_passed ht idleMachine "" ["<p>"]
  have hsome : (withConfig "../tw.js").configFile siteTree none = .ok (some "../tw.js") := by rfl
  obtain rfl := Except.ok.inj (hconfig.symm.trans hsome)
  obtain ⟨-,-,-,hplace⟩ := hpassed _ (Tailwind.compile_runs.mpr ⟨by decide,rfl⟩)
  obtain ⟨hfound,hsame,-⟩ := hplace _ rfl
  exact ⟨ht,hfile,(hsame.mpr (.inr (by decide))).trans (hfound _ hfile).symm⟩

/-- A file in the working directory is not what the run is told of. -/
theorem config_elsewhere :
    (withConfig "tw.js").tailwind siteTree = .ok (siteTailwind "tw.js") ∧
    siteTree.resolve "tw.js" = .ok ["work","site","tw.js"] ∧
    ∃ i, .run i ∈ ((siteTailwind "tw.js").compile idleMachine "" ["<p>"]).events ∧
      i.directory = some idleMachine.scratch ∧
      Tailwind.argumentAfter Tailwind.configFlag (i.arguments.drop 1) = some "tw.js" ∧
      Path.place (Path.place ["work","site"] "/work/scratch") "tw.js" =
        ["work","scratch","tw.js"] :=
  ⟨rfl,rfl,_,Tailwind.compile_runs.mpr ⟨by decide,rfl⟩,rfl,rfl,rfl⟩

end Settings
end StyleLift
