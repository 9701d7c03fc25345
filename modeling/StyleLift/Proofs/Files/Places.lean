import StyleLift.Files.Tree
import StyleLift.Proofs.Run.Outcome
import StyleLift.Proofs.Text.Joining

/-! # Places of paths

The plain form of a path has the path's steps and starts where the path does, so both lead to the
same place. A relative path leads to one place from two directories just if the directories agree
in what is left of them once the path has gone up as far as it goes.
-/
namespace StyleLift

namespace Path
open Text (splitOn joinWith)

/-! ## Plain forms -/

/-- A step of a plain form. -/
structure IsStep (step : Text) : Prop where
  nonempty : step ≠ []
  notDot : step ≠ [.char '.']
  unbroken : slash ∉ step

/-- What a path can start from. -/
def IsRoot (start : Text) : Prop := start = [] ∨ start = [slash] ∨ start = [slash,slash]

variable {start path step : Text} {parts : List Text}

theorem splitOn_unbroken {c : CodePoint} {s : Text} : ∀ part ∈ splitOn c s, c ∉ part := by
  unfold splitOn
  induction s with
  | nil => simp [List.splitOnP_nil]
  | cons d s ih =>
    rw [List.splitOnP_cons_eq_if_modifyHead]
    split
    · exact List.forall_mem_cons.mpr ⟨List.not_mem_nil,ih⟩
    · next hd =>
      cases hparts : List.splitOnP (· == c) s with
      | nil => exact fun _ h => by cases h
      | cons part parts =>
        rw [hparts] at ih
        obtain ⟨hpart,hrest⟩ := List.forall_mem_cons.mp ih
        refine List.forall_mem_cons.mpr ⟨fun h => ?_,hrest⟩
        rcases List.mem_cons.mp h with rfl | h
        · exact hd (beq_self_eq_true _)
        · exact hpart h

theorem steps_isStep : ∀ step ∈ steps path, IsStep step := by
  intro step hstep
  obtain ⟨hmem,hkept⟩ := List.mem_filter.mp hstep
  simp only [Bool.and_eq_true,Bool.not_eq_true',List.isEmpty_eq_false_iff,bne_iff_ne] at hkept
  exact ⟨hkept.1,hkept.2,splitOn_unbroken _ hmem⟩

theorem root_isRoot (path : Text) : IsRoot (root path) := by
  unfold root
  split
  · exact .inl rfl
  · exact .inr (.inr rfl)
  · exact .inr (.inl rfl)

theorem splitOn_slash (s : Text) : splitOn slash (slash :: s) = [] :: splitOn slash s := by
  rw [splitOn,List.splitOnP_cons_eq_if_modifyHead,if_pos (beq_self_eq_true _)]
  rfl

theorem steps_slash (s : Text) : steps (slash :: s) = steps s := by
  rw [steps,splitOn_slash]
  rfl

theorem steps_ofSteps (hstart : IsRoot start) (hparts : ∀ step ∈ parts, IsStep step) :
    steps (ofSteps start parts) = parts := by
  have hjoined : steps (joinWith [slash] parts) = parts := by
    cases parts with
    | nil => rfl
    | cons part parts =>
      have hsplit : splitOn slash (joinWith [slash] (part :: parts)) = part :: parts :=
        List.splitOn_intercalate slash (fun step h => (hparts step h).unbroken)
          (List.cons_ne_nil _ _)
      rw [steps,hsplit,List.filter_eq_self]
      intro step h
      simp [(hparts step h).nonempty,(hparts step h).notDot]
  rw [ofSteps]
  split
  · next hnone =>
    simp only [Bool.and_eq_true,List.isEmpty_iff] at hnone
    rw [hnone.2]
    rfl
  · rcases hstart with rfl | rfl | rfl
    · exact hjoined
    · exact (steps_slash _).trans hjoined
    · exact (steps_slash _).trans ((steps_slash _).trans hjoined)

theorem head?_joinWith (hparts : ∀ step ∈ parts, IsStep step) :
    (joinWith [slash] parts).head? ≠ some slash := by
  cases parts with
  | nil => exact fun h => by cases h
  | cons part parts =>
    have hpart := hparts part List.mem_cons_self
    obtain ⟨more,hmore⟩ := Text.joinWith_starts [slash] part parts
    rw [hmore]
    cases part with
    | nil => exact absurd rfl hpart.nonempty
    | cons c part =>
      exact fun h => hpart.unbroken (List.mem_cons.mpr (.inl (Option.some.inj h).symm))

theorem root_ofSteps (hstart : IsRoot start) (hparts : ∀ step ∈ parts, IsStep step) :
    root (ofSteps start parts) = start := by
  have hjoined : (joinWith [slash] parts).takeWhile (· == slash) = [] := by
    have hhead := head?_joinWith hparts
    cases hjoin : joinWith [slash] parts with
    | nil => rfl
    | cons c s =>
      rw [hjoin] at hhead
      exact List.takeWhile_cons_of_neg fun hc => hhead (congrArg some (eq_of_beq hc))
  rw [ofSteps]
  split
  · next hnone =>
    simp only [Bool.and_eq_true,List.isEmpty_iff] at hnone
    rw [hnone.1]
    rfl
  · have hslashes : ∀ s ∈ start, (s == slash) = true := by
      rcases hstart with rfl | rfl | rfl <;> decide
    rw [root,List.takeWhile_append_of_pos hslashes,hjoined,List.append_nil]
    rcases hstart with rfl | rfl | rfl <;> rfl

/-- A plain form is its own plain form. -/
theorem normalize_ofSteps (hstart : IsRoot start) (hparts : ∀ step ∈ parts, IsStep step) :
    normalize (ofSteps start parts) = ofSteps start parts := by
  rw [normalize,root_ofSteps hstart hparts,steps_ofSteps hstart hparts]

theorem normalize_normalize (path : Text) : normalize (normalize path) = normalize path :=
  normalize_ofSteps (root_isRoot path) steps_isStep

theorem append_isStep (path tail : Text) : ∀ step ∈ steps path ++ steps tail, IsStep step :=
  List.forall_mem_append.mpr ⟨steps_isStep,steps_isStep⟩

theorem normalize_append (path tail : Text) : normalize (append path tail) = append path tail :=
  normalize_ofSteps (root_isRoot path) (append_isStep path tail)

/-- A step is a path of one step. -/
theorem steps_of_isStep (h : IsStep step) : steps step = [step] := by
  have hsteps : steps (ofSteps [] [step]) = [step] :=
    steps_ofSteps (.inl rfl) (List.forall_mem_singleton.mpr h)
  have hpath : ofSteps [] [step] = step := by
    simp [ofSteps,Text.joinWith_singleton]
  rwa [hpath] at hsteps

theorem steps_append (path tail : Text) : steps (append path tail) = steps path ++ steps tail :=
  steps_ofSteps (root_isRoot path) (append_isStep path tail)

/-- A path made of two has nothing in it that they have not, but slashes and a point. -/
theorem forall_append {p : CodePoint → Prop} {tail : Text} (hslash : p slash)
    (hpoint : p (.char '.')) (hpath : ∀ c ∈ path, p c) (htail : ∀ c ∈ tail, p c) :
    ∀ c ∈ append path tail, p c := by
  have hroot : ∀ c ∈ root path, p c := by
    rcases root_isRoot path with h | h | h <;> simp [h,hslash]
  have hsteps : ∀ s : Text, (∀ c ∈ s, p c) → ∀ step ∈ steps s, ∀ c ∈ step, p c :=
    fun s hs step hstep c hc => hs c (Text.mem_of_mem_splitOn (List.mem_filter.mp hstep).1 hc)
  rw [append,ofSteps]
  split
  · exact List.forall_mem_singleton.mpr hpoint
  · refine List.forall_mem_append.mpr ⟨hroot,?_⟩
    apply Text.forall_joinWith (List.forall_mem_singleton.mpr hslash)
    exact List.forall_mem_append.mpr ⟨hsteps path hpath,hsteps tail htail⟩

theorem ofSteps_ne_nil (hparts : ∀ step ∈ parts, IsStep step) : ofSteps start parts ≠ [] := by
  rw [ofSteps]
  split
  · exact List.cons_ne_nil _ _
  · next hsome =>
    cases start with
    | cons c start => exact List.cons_ne_nil _ _
    | nil =>
      cases parts with
      | nil => exact absurd rfl hsome
      | cons part parts =>
        obtain ⟨more,hmore⟩ := Text.joinWith_starts [slash] part parts
        rw [List.nil_append,hmore]
        exact List.append_ne_nil_of_left_ne_nil (hparts part List.mem_cons_self).nonempty _

/-! ## Places -/

def up : Text := ".."

/-- One step from a place. -/
def enter (here : List Text) (step : Text) : List Text :=
  if step = up then here.dropLast else here ++ [step]

/-- Where a path leads from a directory, given by steps from the root of all files. -/
def place (directory : List Text) (path : Text) : List Text :=
  (steps path).foldl enter (if isAbsolute path then [] else directory)

/-- A path starts at the root of all files just if it has a root. -/
theorem isAbsolute_iff : isAbsolute path = true ↔ root path ≠ [] := by
  rw [isAbsolute,beq_iff_eq]
  cases path with
  | nil => exact iff_of_false (fun h => by cases h) fun h => h rfl
  | cons c path =>
    rw [List.head?_cons,Option.some.injEq,root]
    by_cases hc : c = slash
    · rw [List.takeWhile_cons_of_pos (p := (· == slash)) (beq_iff_eq.mpr hc),List.length_cons]
      refine iff_of_true hc ?_
      split
      · next hzero => cases hzero
      · exact List.cons_ne_nil _ _
      · exact List.cons_ne_nil _ _
    · rw [List.takeWhile_cons_of_neg (p := (· == slash)) fun h => hc (eq_of_beq h)]
      exact iff_of_false hc fun h => h rfl

theorem isAbsolute_ofSteps (hstart : IsRoot start) (hparts : ∀ step ∈ parts, IsStep step) :
    isAbsolute (ofSteps start parts) = true ↔ start ≠ [] := by
  rw [isAbsolute_iff,root_ofSteps hstart hparts]

theorem isAbsolute_append (path tail : Text) :
    isAbsolute (append path tail) = isAbsolute path := by
  rw [Bool.eq_iff_iff,append,isAbsolute_ofSteps (root_isRoot path) (append_isStep path tail),
    isAbsolute_iff]

/-- How many levels of a start are left by some steps, and the steps taken below what is left. -/
def climb (taken : Nat × List Text) (step : Text) : Nat × List Text :=
  if step ≠ up then (taken.1,taken.2 ++ [step])
  else if taken.2 = [] then (taken.1 + 1,[])
  else (taken.1,taken.2.dropLast)

/-- What is left of a place some levels up. -/
def above (levels : Nat) (directory : List Text) : List Text :=
  directory.take (directory.length - levels)

/-- How far up a path goes from its start. -/
def levels (path : Text) : Nat := ((steps path).foldl climb (0,[])).1

theorem above_succ (n : Nat) (directory : List Text) :
    (above n directory).dropLast = above (n + 1) directory := by
  rw [above,List.dropLast_eq_take,List.take_take,List.length_take,above]
  congr 1
  omega

theorem enter_climb (directory : List Text) (taken : Nat × List Text) (step : Text) :
    enter (above taken.1 directory ++ taken.2) step =
      above (climb taken step).1 directory ++ (climb taken step).2 := by
  rw [enter,climb]
  by_cases hup : step = up
  · rw [if_pos hup,if_neg (not_not.mpr hup)]
    by_cases hbelow : taken.2 = []
    · rw [if_pos hbelow,hbelow,List.append_nil,List.append_nil,above_succ]
    · rw [if_neg hbelow,List.dropLast_append_of_ne_nil hbelow]
  · rw [if_neg hup,if_pos hup,List.append_assoc]

theorem foldl_enter (directory : List Text) (taken : Nat × List Text) (parts : List Text) :
    parts.foldl enter (above taken.1 directory ++ taken.2) =
      above (parts.foldl climb taken).1 directory ++ (parts.foldl climb taken).2 := by
  induction parts generalizing taken with
  | nil => rfl
  | cons step parts ih => rw [List.foldl_cons,enter_climb,ih,List.foldl_cons]

theorem place_relative (directory : List Text) (h : isAbsolute path = false) :
    place directory path =
      above (levels path) directory ++ ((steps path).foldl climb (0,[])).2 := by
  have hstart : above 0 directory ++ [] = directory :=
    (List.append_nil _).trans List.take_length
  have hfold := foldl_enter directory (0,[]) (steps path)
  rw [hstart] at hfold
  rw [place,h,if_neg Bool.false_ne_true,hfold,levels]

theorem place_absolute (one other : List Text) (h : isAbsolute path = true) :
    place one path = place other path := by
  simp only [place,if_pos h]

/-- A path leads to one place from two directories just if it is absolute or goes up to where the
two are the same. -/
theorem place_eq_iff {one other : List Text} : place one path = place other path ↔
    isAbsolute path = true ∨ above (levels path) one = above (levels path) other := by
  cases h : isAbsolute path with
  | true => exact iff_of_true (place_absolute one other h) (.inl rfl)
  | false =>
    rw [place_relative one h,place_relative other h,List.append_left_inj]
    exact ⟨.inr,fun h => h.resolve_left Bool.false_ne_true⟩

end Path

namespace FileTree
variable {tree : FileTree} {path : Text} {there : List Text}

theorem follow_eq_ok {here parts : List Text} (h : tree.follow here parts = .ok there) :
    there = parts.foldl Path.enter here := by
  fun_induction FileTree.follow tree here parts with
  | case1 => exact (Except.ok.inj h).symm
  | case4 here rest _ ih => exact ih h
  | case6 here step rest _ hup _ ih =>
    have hbelow : step ≠ Path.up := hup
    rw [List.foldl_cons,Path.enter,if_neg hbelow]
    exact ih h
  | _ => cases h

/-- A path that leads somewhere leads to its place. -/
theorem resolve_eq_ok (h : tree.resolve path = .ok there) :
    there = Path.place tree.workingDirectory path := by
  rw [resolve] at h
  split at h
  · cases h
  split at h
  · cases h
  · exact follow_eq_ok h

end FileTree
end StyleLift
