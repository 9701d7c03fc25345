import Mathlib.Data.List.Basic
import StyleLift.Verify.ClassSelector

/-! # The scan for class selectors

A scan takes a name at every point that one follows, unless the point lies in a name that was
taken already. No name goes past the end of a line, so a text may be scanned line by line.
-/
namespace StyleLift.ClassSelector

/-! ## Names -/

/-- A letter or a low line, with a hyphen before it or not. -/
def startsName : Text → Bool
  | .char '-' :: c :: _ => isStart c
  | c :: _ => isStart c
  | [] => false

theorem isPart_of_isStart {c : CodePoint} (h : isStart c = true) : isPart c = true := by
  simp [isPart,h]

theorem ne_backslash_of_isPart {c : CodePoint} (h : isPart c = true) : c ≠ .char '\\' := by
  rintro rfl
  exact absurd h (by decide)

theorem takeParts_part {c : CodePoint} (h : isPart c = true) (rest : Text) :
    takeParts (c :: rest) = (c :: (takeParts rest).1,(takeParts rest).2) := by
  have hne := ne_backslash_of_isPart h
  rw [takeParts.eq_3 c rest fun d tail hc _ => hne hc,if_pos h]

theorem takeParts_escape {c : CodePoint} (h : c ≠ .char '\n') (rest : Text) :
    takeParts (.char '\\' :: c :: rest) = (c :: (takeParts rest).1,(takeParts rest).2) := by
  rw [takeParts,if_neg h]

theorem takeParts_stop {c : CodePoint} (hslash : c ≠ .char '\\') (h : isPart c = false)
    (rest : Text) : takeParts (c :: rest) = ([],c :: rest) := by
  rw [takeParts.eq_3 c rest fun d tail hc _ => hslash hc,if_neg (by simp [h])]

theorem startsName_stop {c : CodePoint} (hhyphen : c ≠ .char '-') (h : isStart c = false)
    (s t : Text) : startsName (s ++ c :: t) = startsName s := by
  fun_cases startsName s with
  | case1 d rest => rfl
  | case2 d rest hne =>
    cases rest with
    | nil =>
      by_cases hd : d = .char '-'
      · subst hd
        exact h
      · exact startsName.eq_2 d _ fun e tail he _ => hd he
    | cons e rest => exact startsName.eq_2 d _ fun f tail he htail => hne e rest he rfl
  | case3 =>
    rw [List.nil_append,startsName.eq_2 c _ fun d tail hc _ => hhyphen hc,h]

theorem takeName?_eq (s : Text) :
    takeName? s = if startsName s then some (takeParts s) else none := by
  fun_cases startsName s with
  | case1 c rest =>
    cases h : isStart c with
    | true =>
      rw [takeName?,if_pos h,if_pos rfl,takeParts_part rfl,takeParts_part (isPart_of_isStart h)]
    | false => rw [takeName?,if_neg (by simp [h]),if_neg (by simp)]
  | case2 c rest hne =>
    cases h : isStart c with
    | true =>
      rw [takeName?.eq_2 c rest hne,if_pos h,if_pos rfl,takeParts_part (isPart_of_isStart h)]
    | false => rw [takeName?.eq_2 c rest hne,if_neg (by simp [h]),if_neg (by simp)]
  | case3 => rfl

theorem takeParts_suffix (s : Text) : (takeParts s).2 <:+ s := by
  fun_induction takeParts s with
  | case1 => exact List.suffix_refl _
  | case2 rest => exact List.suffix_refl _
  | case3 c rest _ name after h ih =>
    rw [h] at ih
    exact ih.trans ((List.suffix_cons c rest).trans (List.suffix_cons _ _))
  | case4 c rest _ _ name after h ih =>
    rw [h] at ih
    exact ih.trans (List.suffix_cons c rest)
  | case5 c rest => exact List.suffix_refl _

/-- Nothing more is taken where a name ended. -/
theorem takeParts_after (s : Text) : takeParts (takeParts s).2 = ([],(takeParts s).2) := by
  fun_induction takeParts s with
  | case1 => rfl
  | case2 rest => simp [takeParts]
  | case3 c rest _ name after h ih => rwa [h] at ih
  | case4 c rest _ _ name after h ih => rwa [h] at ih
  | case5 c rest hne h => rw [takeParts.eq_3 c rest hne,if_neg h]

theorem takeParts_append {name : Text} (h : ∀ c ∈ name, isPart c = true) (rest : Text) :
    takeParts (name ++ rest) = (name ++ (takeParts rest).1,(takeParts rest).2) := by
  induction name with
  | nil => rfl
  | cons c name ih =>
    rw [List.cons_append,takeParts_part (h c List.mem_cons_self),
      ih fun d hd => h d (List.mem_cons_of_mem _ hd)]
    rfl

/-! ## Places -/

/-- A class selector in a text: all from its point on, its name, and what follows the name. -/
structure Found where
  source : Text
  name : Text
  after : Text

/-- The class selectors that a scan finds, each with its place. -/
def found : Text → List Found
  | [] => []
  | c :: rest =>
    if c = .char '.' ∧ startsName rest then
      ⟨c :: rest,(takeParts rest).1,(takeParts rest).2⟩ :: found (takeParts rest).2
    else found rest
termination_by s => s.length
decreasing_by
  · exact Nat.lt_succ_of_le (takeParts_length rest)
  · simp

theorem map_name_found (s : Text) : (found s).map Found.name = scan s := by
  induction h : s.length using Nat.strongRecOn generalizing s with
  | ind n ih =>
    subst h
    cases s with
    | nil => simp [found,scan]
    | cons c rest =>
      have hlength := takeParts_length rest
      have hrest := ih _ (Nat.lt_succ_self rest.length) rest rfl
      have hafter := ih _ (Nat.lt_succ_of_le hlength) (takeParts rest).2 rfl
      rw [found,scan]
      by_cases hc : c = .char '.'
      · cases hs : startsName rest with
        | true =>
          have htake : takeName? rest = some ((takeParts rest).1,(takeParts rest).2) := by
            rw [takeName?_eq,if_pos hs]
          rw [if_pos ⟨hc,rfl⟩,if_pos hc,List.map_cons,hafter]
          split
          · next name after h =>
            rw [htake] at h
            cases h
            rfl
          · next h => rw [htake] at h; cases h
        | false =>
          have htake : takeName? rest = none := by rw [takeName?_eq,hs]; rfl
          rw [if_neg (by simp),if_pos hc,hrest]
          split
          · next name after h => rw [htake] at h; cases h
          · rfl
      · rw [if_neg (fun h => hc h.1),if_neg hc,hrest]

theorem scan_cons {c : CodePoint} (h : c ≠ .char '.') (s : Text) : scan (c :: s) = scan s := by
  rw [← map_name_found,found,if_neg (fun hc => h hc.1),map_name_found]

theorem scan_point {s : Text} (h : startsName s = true) :
    scan (.char '.' :: s) = (takeParts s).1 :: scan (takeParts s).2 := by
  rw [← map_name_found,found,if_pos ⟨rfl,h⟩,List.map_cons,map_name_found]

theorem scan_append {s : Text} (h : ∀ c ∈ s, c ≠ .char '.') (t : Text) :
    scan (s ++ t) = scan t := by
  induction s with
  | nil => rfl
  | cons c s ih =>
    rw [List.cons_append,scan_cons (h c List.mem_cons_self),
      ih fun d hd => h d (List.mem_cons_of_mem _ hd)]

variable {s q : Text} {f g : Found}

theorem found_spec (hf : f ∈ found s) : f.source <:+ s ∧ ∃ q, f.source = .char '.' :: q ∧
    startsName q = true ∧ takeParts q = (f.name,f.after) := by
  fun_induction found s with
  | case1 => cases hf
  | case2 c rest h ih =>
    rcases List.mem_cons.mp hf with rfl | hf
    · exact ⟨List.suffix_refl _,rest,by rw [h.1],h.2,rfl⟩
    · obtain ⟨hsource,hspec⟩ := ih hf
      exact ⟨(hsource.trans (takeParts_suffix rest)).trans (List.suffix_cons c rest),hspec⟩
  | case3 c rest h ih =>
    obtain ⟨hsource,hspec⟩ := ih hf
    exact ⟨hsource.trans (List.suffix_cons c rest),hspec⟩

/-- Every point that a name follows lies in what a scan takes for a class selector. -/
theorem found_covers (hq : startsName q = true) (h : .char '.' :: q <:+ s) :
    ∃ f ∈ found s, .char '.' :: q <:+ f.source ∧ f.after.length ≤ q.length := by
  fun_induction found s with
  | case1 => exact absurd h.length_le (by simp)
  | case2 c rest hstart ih =>
    rcases List.suffix_cons_iff.mp h with heq | h
    · cases heq
      exact ⟨_,List.mem_cons_self,List.suffix_refl _,takeParts_length q⟩
    · rcases Nat.lt_or_ge q.length (takeParts rest).2.length with hlt | hge
      · have hafter := List.suffix_of_suffix_length_le h (takeParts_suffix rest) hlt
        obtain ⟨f,hf,hcovers⟩ := ih hafter
        exact ⟨f,List.mem_cons_of_mem _ hf,hcovers⟩
      · exact ⟨_,List.mem_cons_self,h.trans (List.suffix_cons c rest),hge⟩
  | case3 c rest hstart ih =>
    rcases List.suffix_cons_iff.mp h with heq | h
    · cases heq
      exact absurd ⟨rfl,hq⟩ hstart
    · exact ih h

/-- What a scan takes for two class selectors does not overlap. -/
theorem found_disjoint (hf : f ∈ found s) (hg : g ∈ found s)
    (h : g.source.length < f.source.length) : g.source.length ≤ f.after.length := by
  fun_induction found s with
  | case1 => cases hf
  | case2 c rest hstart ih =>
    have htake := takeParts_length rest
    rcases List.mem_cons.mp hf with rfl | hf
    · rcases List.mem_cons.mp hg with rfl | hg
      · exact absurd h (Nat.lt_irrefl _)
      · exact (found_spec hg).1.length_le
    · rcases List.mem_cons.mp hg with rfl | hg
      · have hlength := (found_spec hf).1.length_le
        simp only [List.length_cons] at h
        omega
      · exact ih hf hg
  | case3 c rest hstart ih => exact ih hf hg

/-! ## Lines -/

theorem takeParts_newline (s t : Text) :
    takeParts (s ++ .char '\n' :: t) = ((takeParts s).1,(takeParts s).2 ++ .char '\n' :: t) := by
  fun_induction takeParts s with
  | case1 => rw [List.nil_append,takeParts_stop (by decide) rfl]
  | case2 rest => simp [takeParts]
  | case3 c rest hc name after h ih =>
    rw [h] at ih
    rw [List.cons_append,List.cons_append,takeParts_escape hc,ih]
  | case4 c rest hne hc name after h ih =>
    rw [h] at ih
    rw [List.cons_append,takeParts_part hc,ih]
  | case5 c rest hne hc =>
    have hc := Bool.eq_false_iff.mpr hc
    cases rest with
    | nil =>
      by_cases hslash : c = .char '\\'
      · subst hslash
        simp [takeParts]
      · rw [List.cons_append,takeParts_stop hslash hc]
    | cons d rest =>
      have hslash : c ≠ .char '\\' := fun h => hne d rest h rfl
      rw [List.cons_append,takeParts_stop hslash hc]

/-- The names in two lines are those in the one and those in the other. -/
theorem scan_newline (s t : Text) : scan (s ++ .char '\n' :: t) = scan s ++ scan t := by
  induction h : s.length using Nat.strongRecOn generalizing s with
  | ind n ih =>
    subst h
    cases s with
    | nil =>
      have hnil : scan [] = [] := by rw [scan]
      rw [List.nil_append,scan_cons (by decide),hnil,List.nil_append]
    | cons c rest =>
      have hlength := takeParts_length rest
      have hline : startsName (rest ++ .char '\n' :: t) = startsName rest :=
        startsName_stop (by decide) rfl rest t
      by_cases hc : c = .char '.' ∧ startsName rest = true
      · obtain ⟨rfl,hstarts⟩ := hc
        rw [List.cons_append,scan_point (by rw [hline,hstarts]),scan_point hstarts,
          takeParts_newline,ih _ (Nat.lt_succ_of_le hlength) _ rfl,List.cons_append]
      · have hskip : ∀ tail, startsName tail = startsName rest →
            scan (c :: tail) = scan tail := by
          intro tail htail
          rw [← map_name_found,found,if_neg (by rwa [htail]),map_name_found]
        rw [List.cons_append,hskip _ hline,hskip rest rfl]
        exact ih _ (Nat.lt_succ_self _) rest rfl

end StyleLift.ClassSelector
