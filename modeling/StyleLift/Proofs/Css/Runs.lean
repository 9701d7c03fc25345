import StyleLift.Proofs.Css.Steps

/-! # Runs of the lexer

A run is some steps from a text to an end of it. A run over a piece of text before a semicolon
stops at the semicolon, and then it would find the same before anything else that may follow, or
else one of its steps goes past the semicolon.
-/
namespace StyleLift.Css

/-- Steps from one text to an end of it, with the lexemes they find. -/
inductive Run : Text → List Lexeme → Text → Prop
  | stop (s : Text) : Run s [] s
  | next (c : CodePoint) {s t : Text} {ls : List Lexeme} (h : Run (next c s).2 ls t) :
      Run (c :: s) ((next c s).1.toList ++ ls) t

namespace Run

variable {s t u : Text} {ls ks : List Lexeme}

theorem kinds_eq (h : Run s ls t) : kinds s = ls ++ kinds t := by
  induction h with
  | stop s => rfl
  | next c h ih => rw [kinds_cons,ih,List.append_assoc]

theorem of_next {c : CodePoint} {x : Option Lexeme} (h : Css.next c s = (x,t)) (hrun : Run t ls u) :
    Run (c :: s) (x.toList ++ ls) u := by
  have hnext := Run.next c (s := s) (by rw [h]; exact hrun)
  rwa [h] at hnext

/-- A run that gets anywhere takes the step at the start of the text. -/
theorem of_length_lt {c : CodePoint} (h : Run (c :: s) ls t) (hlength : t.length ≤ s.length) :
    ∃ ks, Run (Css.next c s).2 ks t ∧ ls = (Css.next c s).1.toList ++ ks := by
  cases h with
  | stop => exact absurd hlength (Nat.not_succ_le_self _)
  | next c h => exact ⟨_,h,rfl⟩

theorem trans (h : Run s ls t) (h' : Run t ks u) : Run s (ls ++ ks) u := by
  induction h with
  | stop s => exact h'
  | next c h ih =>
    rw [List.append_assoc]
    exact .next c (ih h')

theorem suffix (h : Run s ls t) : t <:+ s := by
  induction h with
  | stop s => exact List.suffix_refl s
  | next c h ih => exact (ih.trans (next_suffix c _)).trans (List.suffix_cons c _)

/-- Of two runs from one text, the longer goes on where the other stops. -/
theorem of_length_le (h : Run s ls t) (h' : Run s ks u) (hlength : u.length ≤ t.length) :
    ∃ js, Run t js u ∧ ks = ls ++ js := by
  induction h generalizing ks with
  | stop s => exact ⟨ks,h',rfl⟩
  | next c h ih =>
    cases h' with
    | stop =>
      have hsuffix := (h.suffix.trans (next_suffix c _)).length_le
      rw [List.length_cons] at hlength
      omega
    | next c h' =>
      obtain ⟨js,hjs,rfl⟩ := ih h' hlength
      exact ⟨js,hjs,by rw [List.append_assoc]⟩

theorem eq_nil (h : Run s ls t) (hlength : s.length ≤ t.length) : ls = [] := by
  cases h with
  | stop s => rfl
  | next c h =>
    have hsuffix := (h.suffix.trans (next_suffix c _)).length_le
    rw [List.length_cons] at hlength
    omega

/-- The lexemes of a run, each with its place. -/
theorem lexemes_eq (h : Run s ls t) :
    ∃ found, lexemes s = found ++ lexemes t ∧ found.map Prod.snd = ls := by
  induction h with
  | stop s => exact ⟨[],rfl,rfl⟩
  | next c h ih =>
    obtain ⟨found,hfound,rfl⟩ := ih
    rw [lexemes,hfound]
    cases (Css.next c _).1 with
    | none => exact ⟨found,rfl,rfl⟩
    | some l => exact ⟨(_,l) :: found,rfl,rfl⟩

/-- A name is no longer than what a run reads it from. -/
theorem length_le_of_ident (h : Run s ls t) {name : Text} (hname : .leaf (.ident name) ∈ ls) :
    name.length + t.length ≤ s.length := by
  induction h with
  | stop s => cases hname
  | next c h ih =>
    rename_i rest t ls
    have hrest := (next_suffix c rest).length_le
    rw [List.length_cons]
    rcases List.mem_append.mp hname with hfound | hname
    · obtain ⟨-,htake⟩ := next_spells (Option.mem_toList.mp hfound)
      have hlength := takeName_length_le (c :: rest)
      rw [htake] at hlength
      simp only [List.length_cons] at hlength
      have hrun := h.suffix.length_le
      omega
    · have hlength := ih hname
      omega

end Run

/-- The run over a whole text. -/
theorem run_kinds (s : Text) : Run s (kinds s) [] := by
  induction hn : s.length using Nat.strongRecOn generalizing s with
  | ind n ih =>
    cases s with
    | nil =>
      rw [kinds_nil]
      exact .stop []
    | cons c s =>
      subst hn
      rw [kinds_cons]
      exact .next c (ih _ (Nat.lt_succ_of_le (next_length c s)) _ rfl)

/-- A run leads to every lexeme of a text. -/
theorem run_of_mem_lexemes {s m : Text} {l : Lexeme} (h : (m,l) ∈ lexemes s) :
    ∃ ls c rest, m = c :: rest ∧ Run s ls (c :: rest) ∧ (next c rest).1 = some l := by
  fun_induction lexemes s with
  | case1 => cases h
  | case2 c rest found hfound ih =>
    rcases List.mem_cons.mp h with h | h
    · cases h
      exact ⟨[],c,rest,rfl,.stop _,hfound⟩
    · obtain ⟨ls,d,tail,rfl,hrun,hl⟩ := ih h
      exact ⟨_,d,tail,rfl,.next c hrun,hl⟩
  | case3 c rest hfound ih =>
    obtain ⟨ls,d,tail,rfl,hrun,hl⟩ := ih h
    exact ⟨_,d,tail,rfl,.next c hrun,hl⟩

theorem ne_stray_of_mem_lexemes {s : Text} :
    ∀ p ∈ lexemes s, ∀ b, p.2 ≠ .leaf (.stray b) := by
  rintro ⟨m,l⟩ hp b rfl
  obtain ⟨ls,c,rest,-,-,hnext⟩ := run_of_mem_lexemes hp
  exact next_spells hnext

theorem ne_stray_of_mem_kinds {s : Text} : ∀ l ∈ kinds s, ∀ b, l ≠ .leaf (.stray b) := by
  intro l hl
  obtain ⟨p,hp,rfl⟩ := List.mem_map.mp hl
  exact ne_stray_of_mem_lexemes p hp

/-- One lexeme starts at a place. -/
theorem eq_of_mem_lexemes {s m n : Text} {k l : Lexeme} (hm : (m,k) ∈ lexemes s)
    (hn : (n,l) ∈ lexemes s) (h : m.length = n.length) : k = l := by
  obtain ⟨ls,c,rest,rfl,hrun,hk⟩ := run_of_mem_lexemes hm
  obtain ⟨ks,d,tail,rfl,hrun',hl⟩ := run_of_mem_lexemes hn
  have hsuffix := List.suffix_of_suffix_length_le hrun.suffix hrun'.suffix (Nat.le_of_eq h)
  cases hsuffix.eq_of_length h
  rw [hk] at hl
  exact Option.some.inj hl

/-- A lexeme starts behind those before it. -/
theorem length_le_of_mem_lexemes {s m : Text} {c : CodePoint} {rest : Text} {k l : Lexeme}
    (hm : (c :: rest,k) ∈ lexemes s) (hl : (m,l) ∈ lexemes s) (h : m.length < (c :: rest).length) :
    m.length ≤ (next c rest).2.length := by
  obtain ⟨ls,d,tail,hd,hrun,-⟩ := run_of_mem_lexemes hm
  obtain ⟨ks,e,after,rfl,hrun',-⟩ := run_of_mem_lexemes hl
  cases hd
  obtain ⟨js,hjs,-⟩ := hrun.of_length_le hrun' (Nat.le_of_lt h)
  obtain ⟨is,his,-⟩ := hjs.of_length_lt (Nat.le_of_lt_succ h)
  exact his.suffix.length_le

/-! ## Runs before what follows a piece -/

/-- What a run finds in a piece of text, whatever ends it. -/
def Ended (blank : Bool) (piece : Text) (ls : List Lexeme) : Prop :=
  ∀ after, Follows blank after → ∃ after', Leaves [] after after' ∧ Run (piece ++ after) ls after'

/-- Whether a step from inside the piece goes past the semicolon after it. -/
def Passed (piece rest : Text) : Prop :=
  ∃ ls c left, c :: left <:+ piece ∧
    Run (piece ++ .char ';' :: rest) ls (c :: (left ++ .char ';' :: rest)) ∧
    (next c (left ++ .char ';' :: rest)).2.length ≤ rest.length

theorem ended_or_passed {blank : Bool} {piece : Text}
    (hlast : blank = true → ∀ c ∈ piece.getLast?, isSpace c = false) (rest : Text) :
    (∃ ls, Ended blank piece ls) ∨ Passed piece rest := by
  induction hn : piece.length using Nat.strongRecOn generalizing piece with
  | ind n ih =>
    cases piece with
    | nil => exact .inl ⟨[],fun after _ => ⟨after,.inl rfl,.stop after⟩⟩
    | cons c piece =>
      subst hn
      rcases (step_local hlast : Local blank step (c :: piece) rest) with
        hpast | ⟨x,left,hl,hx,hlocal⟩
      · exact .inr ⟨[],c,piece,List.suffix_refl _,.stop _,hpast⟩
      · have hlength := next_length c (piece ++ .char ';' :: rest)
        have hstep : next c (piece ++ .char ';' :: rest) = (x,left ++ .char ';' :: rest) := hx
        rw [hstep,List.length_append,List.length_append] at hlength
        by_cases hnil : left = []
        · subst hnil
          refine .inl ⟨x.toList ++ [],fun after ha => ?_⟩
          obtain ⟨after',hleaves,hafter⟩ := hlocal after ha
          exact ⟨after',hleaves,.of_next hafter (.stop after')⟩
        · have hlast' : blank = true → ∀ d ∈ left.getLast?, isSpace d = false := by
            intro hb d hd
            obtain ⟨front,hfront⟩ := hl
            refine hlast hb d ?_
            rw [← hfront,List.getLast?_append,Option.mem_def.mp hd]
            rfl
          rcases ih left.length (by rw [List.length_cons]; omega) hlast' rfl with
            ⟨ls,hended⟩ | ⟨ls,d,left',hl',hrun,hpast⟩
          · refine .inl ⟨x.toList ++ ls,fun after ha => ?_⟩
            obtain ⟨after',hleaves,hafter⟩ := hlocal after ha
            rcases hleaves with rfl | ⟨h,-⟩
            · obtain ⟨after'',hleaves',hrun⟩ := hended after' ha
              exact ⟨after'',hleaves',.of_next hafter hrun⟩
            · exact (hnil h).elim
          · exact .inr ⟨x.toList ++ ls,d,left',hl'.trans hl,.of_next hstep hrun,hpast⟩

end StyleLift.Css
