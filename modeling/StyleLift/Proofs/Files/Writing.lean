import StyleLift.Proofs.Files.Places

/-! # Written files

A file can be written where a path leads to no directory, whatever its bytes are, and what was
written is read back. Writing takes no directory away, so the path still leads to the file.
-/
namespace StyleLift

namespace Path
variable {start : Text} {parts : List Text}

/-- The plain form of a path with steps ends in its last step, which stays no directory. -/
theorem not_namesDirectory_ofSteps (hstart : IsRoot start) (hparts : ∀ step ∈ parts, IsStep step)
    (hne : parts ≠ []) : FileTree.namesDirectory (ofSteps start parts) = false := by
  have hsplit : Text.splitOn slash (Text.joinWith [slash] parts) = parts :=
    List.splitOn_intercalate slash (fun step h => (hparts step h).unbroken) hne
  have hlast : ∀ before : List Text, (before ++ parts).getLast? = some (parts.getLast hne) :=
    fun before => by rw [List.getLast?_append_of_ne_nil _ hne,List.getLast?_eq_some_getLast hne]
  have hfinal : (Text.splitOn slash (ofSteps start parts)).getLast? = some (parts.getLast hne) := by
    have hsome : ¬ (start.isEmpty && parts.isEmpty) = true := by simp [hne]
    rw [ofSteps,if_neg hsome]
    rcases hstart with rfl | rfl | rfl
    · rw [List.nil_append,hsplit]
      exact hlast []
    · rw [List.singleton_append,splitOn_slash,hsplit]
      exact hlast [[]]
    · rw [List.cons_append,splitOn_slash,List.singleton_append,splitOn_slash,hsplit]
      exact hlast [[],[]]
  have hstep := hparts _ (List.getLast_mem hne)
  simp [FileTree.namesDirectory,hfinal,hstep.nonempty,hstep.notDot]

end Path

namespace FileTree
variable {tree after : FileTree} {path : Text} {bytes : List UInt8} {here there parts : List Text}

/-- Whether a file can be written at a path. -/
def Writable (tree : FileTree) (path : Text) : Prop :=
  ∃ place, tree.resolve path = .ok place ∧ tree.entryAt? place ≠ some .directory

theorem write_eq_ok : tree.write path bytes = .ok after ↔
    ∃ place, tree.resolve path = .ok place ∧ tree.entryAt? place ≠ some .directory ∧
      after = { tree with
        entries := (place,.file bytes) :: tree.entries.filter (·.1 ≠ place) } := by
  rw [write,bind_eq_ok]
  refine exists_congr fun place => and_congr_right fun _ => ?_
  by_cases hdirectory : tree.entryAt? place = some .directory
  · rw [if_pos hdirectory]
    exact iff_of_false (fun h => by cases h) fun h => h.1 hdirectory
  · rw [if_neg hdirectory]
    exact ⟨fun h => ⟨hdirectory,(Except.ok.inj h).symm⟩,fun h => congrArg _ h.2.symm⟩

/-- What is written has no say in whether it can be. -/
theorem write_returns : (∃ after, tree.write path bytes = .ok after) ↔ tree.Writable path := by
  simp only [write_eq_ok,Writable]
  constructor
  · rintro ⟨_,place,hplace,hdirectory,-⟩
    exact ⟨place,hplace,hdirectory⟩
  · rintro ⟨place,hplace,hdirectory⟩
    exact ⟨_,place,hplace,hdirectory,rfl⟩

theorem lookup_filter {entries : List (List Text × FileEntry)} {place : List Text}
    (h : here ≠ place) : (entries.filter (·.1 ≠ place)).lookup here = entries.lookup here := by
  induction entries with
  | nil => rfl
  | cons entry entries ih =>
    obtain ⟨key,found⟩ := entry
    by_cases hkey : key = place
    · rw [List.filter_cons_of_neg (by simpa using hkey),ih,List.lookup_cons,hkey,
        beq_eq_false_iff_ne.mpr h]
    · rw [List.filter_cons_of_pos (by simpa using hkey),List.lookup_cons,List.lookup_cons,ih]

section Written
variable {place : List Text} (hplace : tree.entryAt? place ≠ some .directory)
  (hafter : after = { tree with
    entries := (place,.file bytes) :: tree.entries.filter (·.1 ≠ place) })
include hplace hafter

theorem entryAt?_written : after.entryAt? place = some (.file bytes) := by
  have houtside : ¬ place.isPrefixOf tree.workingDirectory = true := fun h => by
    rw [entryAt?,if_pos h] at hplace
    exact hplace rfl
  rw [hafter,entryAt?,if_neg houtside,List.lookup_cons_self]

/-- A directory stays one. -/
theorem entryAt?_directory (h : tree.entryAt? here = some .directory) :
    after.entryAt? here = some .directory := by
  have hne : here ≠ place := fun heq => hplace (heq ▸ h)
  have hlookup : ((place,.file bytes) :: tree.entries.filter (·.1 ≠ place)).lookup here =
      tree.entries.lookup here := by
    rw [List.lookup_cons,beq_eq_false_iff_ne.mpr hne]
    exact lookup_filter hne
  rw [hafter,entryAt?]
  rw [entryAt?] at h
  dsimp only
  split
  · rfl
  · next houtside =>
    rw [if_neg houtside] at h
    rw [hlookup]
    cases hentry : tree.entries.lookup here with
    | some entry =>
      rw [hentry] at h
      exact h
    | none =>
      rw [hentry] at h
      have habove : tree.entries.any (fun entry => here.isPrefixOf entry.1) = true := by
        by_contra hnone
        dsimp only at h
        rw [if_neg hnone] at h
        cases h
      obtain ⟨entry,hmem,hstarts⟩ := List.any_eq_true.mp habove
      refine if_pos (List.any_eq_true.mpr ?_)
      by_cases heq : entry.1 = place
      · exact ⟨_,List.mem_cons_self,heq ▸ hstarts⟩
      · exact ⟨entry,List.mem_cons_of_mem _ (List.mem_filter.mpr ⟨hmem,decide_eq_true heq⟩),hstarts⟩

theorem follow_written (h : tree.follow here parts = .ok there) :
    after.follow here parts = .ok there := by
  fun_induction FileTree.follow tree here parts with
  | case1 => exact h
  | case4 here rest hhere ih =>
    rw [follow,entryAt?_directory hplace hafter hhere]
    exact ih h
  | case6 here step rest hhere hup hsize ih =>
    rw [follow,entryAt?_directory hplace hafter hhere]
    dsimp only
    rw [if_neg hup,if_neg hsize]
    exact ih h
  | _ => cases h

theorem resolve_written (h : tree.resolve path = .ok there) : after.resolve path = .ok there := by
  have hdirectory : after.workingDirectory = tree.workingDirectory := by rw [hafter]
  rw [resolve] at h ⊢
  split at h
  · cases h
  · next hnull =>
    rw [if_neg hnull]
    split at h
    · cases h
    · next hsize =>
      rw [if_neg hsize,hdirectory]
      exact follow_written hplace hafter h

end Written

/-- A path without steps leads to a directory. -/
theorem steps_ne_nil (h : tree.Writable path) : Path.steps path ≠ [] := by
  obtain ⟨place,hresolve,hplace⟩ := h
  intro hnone
  have hstart := resolve_eq_ok hresolve
  rw [Path.place,hnone,List.foldl_nil] at hstart
  refine hplace (if_pos ?_)
  rw [hstart]
  split
  · rfl
  · exact List.isPrefixOf_iff_prefix.mpr (List.prefix_refl _)

/-- A file that was written at the plain form of a path is read back there. -/
theorem read_write (h : tree.write (Path.normalize path) bytes = .ok after) :
    after.read (Path.normalize path) = .ok bytes := by
  obtain ⟨place,hresolve,hplace,hafter⟩ := write_eq_ok.mp h
  have hsteps : Path.steps path ≠ [] := by
    have hsteps := steps_ne_nil (write_returns.mp ⟨_,h⟩)
    rwa [Path.normalize,Path.steps_ofSteps (Path.root_isRoot path) Path.steps_isStep] at hsteps
  have hfile : namesDirectory (Path.normalize path) = false :=
    Path.not_namesDirectory_ofSteps (Path.root_isRoot path) Path.steps_isStep hsteps
  have hfind : after.find (Path.normalize path) = .ok (.file bytes) := by
    refine bind_eq_ok.mpr ⟨place,resolve_written hplace hafter hresolve,?_⟩
    rw [entryAt?_written hplace hafter]
    dsimp only
    rw [hfile]
    rfl
  rw [read,hfind]
  rfl

end FileTree
end StyleLift
