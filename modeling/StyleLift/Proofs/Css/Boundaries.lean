import StyleLift.Proofs.Css.Bodies
import StyleLift.Proofs.Css.Runs

/-! # What may stand before a declaration

Before a declaration stands the end of a unit: a semicolon or the bracket of a block, and blanks.
A step of the lexer that goes past a semicolon finds neither, so no declaration starts after it.
-/
namespace StyleLift.Css

/-- A name is not read past the blank after a semicolon. -/
theorem takeName_semicolon (s rest : Text) :
    rest.length < (takeName (s ++ .char ';' :: .char ' ' :: rest)).2.length := by
  induction hn : s.length using Nat.strongRecOn generalizing s with
  | ind n ih =>
    cases s with
    | nil =>
      rw [List.nil_append,takeName_stop (.inl rfl)]
      exact Nat.le_succ_of_le (Nat.le_refl _)
    | cons c s =>
      subst hn
      rw [List.cons_append]
      by_cases hc : isNamePart c = true
      · rw [takeName_part hc]
        exact ih s.length (by simp) s rfl
      by_cases he : c = .char '\\' ∧ escapes (s ++ .char ';' :: .char ' ' :: rest) = true
      · rw [takeName_escape hc he]
        cases s with
        | nil =>
          have hescape : takeEscape (.char ';' :: .char ' ' :: rest) =
              (.char ';',.char ' ' :: rest) :=
            takeEscape_of_none rfl
          rw [List.nil_append,hescape,takeName_stop (.inr (.inl rfl))]
          simp
        | cons d s =>
          have hstops : Stops false takeEscape (d :: s) (.char ' ' :: rest) :=
            takeEscape_stops d s _
          obtain ⟨x,left,hl,hx,-⟩ := hstops
          rw [hx]
          exact ih left.length (Nat.lt_succ_of_le hl.length_le) left rfl
      · rw [takeName_end hc he]
        simp
        omega

def Lexeme.isBlank : Lexeme → Bool
  | .leaf (.whitespace _) => true
  | _ => false

/-- Blanks, marks and brackets that close are all that the end of a unit is made of. -/
def Lexeme.mayEnd : Lexeme → Bool
  | .leaf (.whitespace _) | .leaf (.literal _) | .closing _ => true
  | _ => false

/-- A step that goes past a semicolon has not found what ends a unit. -/
theorem mayEnd_of_past {c : CodePoint} {left rest : Text} {l : Lexeme}
    (h : (next c (left ++ .char ';' :: rest)).1 = some l)
    (hpast : (next c (left ++ .char ';' :: rest)).2.length ≤ rest.length) : l.mayEnd = false := by
  have hspells := next_spells h
  generalize (next c (left ++ .char ';' :: rest)).2 = after at hpast hspells
  have hsource : ∀ source, c :: (left ++ .char ';' :: rest) = source ++ after →
      ∃ more, source = c :: (left ++ [.char ';']) ++ more := by
    intro source hs
    have hsplit : (c :: (left ++ [.char ';'])) ++ rest = source ++ after := by
      rw [← hs]
      simp
    rcases List.append_eq_append_iff.mp hsplit with ⟨more,hmore,-⟩ | ⟨more,hmore,hafter⟩
    · exact ⟨more,hmore⟩
    · have hnil : more = [] := by
        rw [hafter,List.length_append] at hpast
        exact List.eq_nil_of_length_eq_zero (by omega)
      exact ⟨[],by rw [hmore,hnil]; simp⟩
  cases l with
  | opening o => rfl
  | closing b =>
    obtain ⟨d,hd⟩ := hspells
    rw [← (List.cons.inj hd).2,List.length_append,List.length_cons] at hpast
    omega
  | leaf k =>
    cases k with
    | whitespace source =>
      obtain ⟨hblank,hs⟩ := hspells
      obtain ⟨more,rfl⟩ := hsource source hs
      exact absurd (hblank (.char ';') (by simp)) (by decide)
    | literal source =>
      obtain ⟨hs,hm⟩ := hspells
      obtain ⟨more,rfl⟩ := hsource source hs
      rcases hm with hm | hm
      · simp at hm
      · exact absurd (show CodePoint.char ';' ∈ _ by simp)
          ((by decide : ∀ m ∈ longLiterals, CodePoint.char ';' ∉ m) _ hm)
    | _ => rfl

theorem eq_of_append_cons {α : Type} {p : α → Prop} {a b c d : List α} {x y : α} (hx : p x)
    (hy : p y) (hb : ∀ z ∈ b, ¬p z) (hd : ∀ z ∈ d, ¬p z) (h : a ++ x :: b = c ++ y :: d) :
    x = y := by
  rcases List.append_eq_append_iff.mp h with ⟨front,-,h⟩ | ⟨front,-,h⟩
  · cases front with
    | nil => exact (List.cons.inj h).1
    | cons z front =>
      obtain ⟨-,rfl⟩ := List.cons.inj h
      exact (hb y (by simp) hy).elim
  · cases front with
    | nil => exact (List.cons.inj h).1.symm
    | cons z front =>
      obtain ⟨-,rfl⟩ := List.cons.inj h
      exact (hd x (by simp) hx).elim

theorem isBlank_of_mem_flatAll {ts : List Token} (h : ∀ t ∈ ts, t.isWhitespace = true) :
    ∀ l ∈ flatAll ts, l.isBlank = true := by
  induction ts with
  | nil =>
    intro l hl
    cases hl
  | cons t ts ih =>
    obtain ⟨m,source,rfl⟩ := Token.eq_whitespace (h t List.mem_cons_self)
    intro l hl
    rcases List.mem_cons.mp hl with rfl | hl
    · rfl
    · exact ih (fun u hu => h u (List.mem_cons_of_mem _ hu)) l hl

/-- A token that ends a unit ends in a mark or in the bracket of its block. -/
theorem flat_of_not_continues {t : Token} (h : t.continues = false) :
    ∃ front k, t.flat = front ++ [k] ∧ k.isBlank = false ∧ k.mayEnd = true := by
  cases t with
  | leaf m l =>
    cases l with
    | literal source => exact ⟨[],_,rfl,rfl,rfl⟩
    | _ => cases h
  | block m o content => exact ⟨.opening o :: flatAll content,.closing o.closer,rfl,rfl,rfl⟩

/-- The last lexeme of the end of a unit that is no blank. -/
theorem EndsUnit.mayEnd {ts : List Token} (h : EndsUnit ts) {ks ws : List Lexeme} {l : Lexeme}
    (hflat : flatAll ts = ks ++ l :: ws) (hws : ∀ w ∈ ws, w.isBlank = true)
    (hl : l.isBlank = false) : l.mayEnd = true := by
  obtain ⟨head,blanks,rfl,hblanks,hhead⟩ := h
  have hlexemes := isBlank_of_mem_flatAll hblanks
  rw [flatAll_append] at hflat
  rcases hhead with rfl | ⟨init,t,rfl,ht⟩
  · have hmem : l ∈ flatAll [] ++ flatAll blanks := by
      rw [hflat]
      simp
    rw [flatAll,List.nil_append] at hmem
    rw [hlexemes l hmem] at hl
    cases hl
  · obtain ⟨front,k,hk,hblank,hends⟩ := flat_of_not_continues ht
    have hsplit : (flatAll init ++ front) ++ k :: flatAll blanks = ks ++ l :: ws := by
      rw [← hflat,flatAll_append,flatAll,flatAll,hk]
      simp
    have hkl := eq_of_append_cons (p := fun l => Lexeme.isBlank l = false) hblank hl
      (fun z hz => by simp [hlexemes z hz]) (fun z hz => by simp [hws z hz]) hsplit
    rwa [← hkl]

end StyleLift.Css
