import StyleLift.Proofs.Css.Values
import StyleLift.Proofs.Text.Blanks

/-! # Declarations in a body

A body is read unit by unit. So a semicolon parts it in two bodies that are read on their own, a
blank at its end says nothing, and each declaration starts where a unit before it has ended.
-/
namespace StyleLift.Css

/-! ## One unit after another -/

/-- A token that stands between units. -/
def Token.parts (t : Token) : Bool := t.isWhitespace || t.isLiteral ";" || t.curly?.isSome

/-- What a unit declares; an at-rule in a body declares nothing. -/
def declared (t : Token) (unit : List Token) : Option Declaration :=
  if t.isAtKeyword then none else declaration? t unit

variable {t : Token} {ts us : List Token}

theorem declarations_parts (h : t.parts = true) (ts : List Token) :
    declarations (t :: ts) = declarations ts := by
  rw [declarations]
  exact if_pos h

theorem declarations_unit (h : t.parts = false) (ts : List Token) :
    declarations (t :: ts) =
      (declared t (takeUnit ts).1).toList ++ declarations (takeUnit ts).2 := by
  have hne : ¬(t.isWhitespace || t.isLiteral ";" || t.curly?.isSome) = true := by
    rw [← Token.parts,h]
    simp
  rw [declarations,if_neg hne,declared]
  split
  · rfl
  · cases declaration? t (takeUnit ts).1 <;> rfl

/-- A unit ends with the tokens, or at a token after which anything may stand. -/
theorem takeUnit_split (ts : List Token) :
    (∀ t ∈ ts, t.continues = true) ∧ takeUnit ts = (ts,[]) ∨
    ∃ before t after unit, ts = before ++ t :: after ∧ t.continues = false ∧
      ∀ us, takeUnit (before ++ t :: us) = (unit,us) := by
  induction ts with
  | nil => exact .inl ⟨by simp,rfl⟩
  | cons t rest ih =>
    by_cases hs : t.isLiteral ";" = true
    · exact .inr ⟨[],t,rest,[],rfl,by simp [Token.continues,hs],fun us => by simp [takeUnit,hs]⟩
    by_cases hc : t.curly?.isSome = true
    · refine .inr ⟨[],t,rest,[t],rfl,?_,fun us => by simp [takeUnit,hs,hc]⟩
      obtain ⟨content,hcontent⟩ := Option.isSome_iff_exists.mp hc
      simp [Token.continues,hcontent]
    · have hnone : t.curly? = none := by
        cases h : t.curly? with
        | none => rfl
        | some content => simp [h] at hc
      have hcontinues : t.continues = true := by simp [Token.continues,hs,hnone]
      rcases ih with ⟨hall,htake⟩ | ⟨before,u,after,unit,rfl,hu,hunit⟩
      · refine .inl ⟨fun u hu => ?_,by simp [takeUnit,hs,hc,htake]⟩
        rcases List.mem_cons.mp hu with rfl | hu
        · exact hcontinues
        · exact hall u hu
      · exact .inr ⟨t :: before,u,after,t :: unit,rfl,hu,fun us => by
          simp [takeUnit,hs,hc,hunit us]⟩

/-- A semicolon parts a body in two. -/
theorem declarations_semicolon {s : Token} (hs : s.isLiteral ";" = true) (ts us : List Token) :
    declarations (ts ++ s :: us) = declarations ts ++ declarations us := by
  induction hn : ts.length using Nat.strongRecOn generalizing ts with
  | ind n ih =>
    have hparts : declarations (s :: us) = declarations us :=
      declarations_parts (by simp [Token.parts,hs]) us
    cases ts with
    | nil =>
      rw [List.nil_append,hparts]
      simp [declarations]
    | cons t rest =>
      subst hn
      rw [List.cons_append]
      cases ht : t.parts with
      | true =>
        rw [declarations_parts ht,declarations_parts ht]
        exact ih rest.length (by simp) rest rfl
      | false =>
        rw [declarations_unit ht,declarations_unit ht,List.append_assoc]
        rcases takeUnit_split rest with ⟨hall,htake⟩ | ⟨before,u,after,unit,rfl,-,hunit⟩
        · rw [takeUnit_append hall,takeUnit_semicolon hs,htake,List.append_nil]
          simp [declarations]
        · rw [hunit,List.append_assoc,List.cons_append,hunit]
          congr 1
          exact ih after.length (by simp; omega) after rfl

/-! ## A blank at the end -/

theorem runTogether_other (a : Shape) : runTogether a .other = false := by
  cases a <;> simp [runTogether,Shape.startsWord,Shape.startsNumber,Shape.isMark]

section Blank

variable {m source : Text} (hs : ∀ c ∈ source, c.isBlank = true)

theorem separator_blank (t : Token) :
    ∀ c ∈ separator t (.leaf m (.whitespace source)), c.isBlank = true := by
  have htogether : runTogether t.shape (Token.leaf m (.whitespace source)).shape = false :=
    runTogether_other t.shape
  rw [separator,htogether,if_neg (by simp)]
  split <;> decide

include hs

theorem writeTokens_blank (ts : List Token) :
    ∃ blanks, (∀ c ∈ blanks, c.isBlank = true) ∧
      writeTokens (ts ++ [.leaf m (.whitespace source)]) = writeTokens ts ++ blanks := by
  induction ts with
  | nil => exact ⟨source,hs,by simp [writeTokens,Token.write,Leaf.write]⟩
  | cons t rest ih =>
    cases rest with
    | nil =>
      refine ⟨separator t (.leaf m (.whitespace source)) ++ source,fun c hc => ?_,?_⟩
      · rcases List.mem_append.mp hc with hc | hc
        · exact separator_blank t c hc
        · exact hs c hc
      · simp [writeTokens,Token.write,Leaf.write]
    | cons u rest =>
      obtain ⟨blanks,hblanks,hwrite⟩ := ih
      refine ⟨blanks,hblanks,?_⟩
      rw [List.cons_append] at hwrite
      rw [List.cons_append,List.cons_append,writeTokens,hwrite,writeTokens]
      simp

theorem trim_kept_blank (ts : List Token) :
    (readValue (ts ++ [.leaf m (.whitespace source)])).hasLateBlock =
        (readValue ts).hasLateBlock ∧
      (readValue (ts ++ [.leaf m (.whitespace source)])).kept.2 = (readValue ts).kept.2 ∧
      Text.trim (writeTokens (readValue (ts ++ [.leaf m (.whitespace source)])).kept.1) =
        Text.trim (writeTokens (readValue ts).kept.1) := by
  have hread : readValue (ts ++ [.leaf m (.whitespace source)]) =
      (readValue ts).step (.leaf m (.whitespace source)) := by
    rw [readValue,List.foldl_append]
    rfl
  have htrim : ∀ us : List Token,
      Text.trim (writeTokens (us ++ [.leaf m (.whitespace source)])) =
        Text.trim (writeTokens us) := by
    intro us
    obtain ⟨blanks,hblanks,hwrite⟩ := writeTokens_blank hs us
    rw [hwrite,Text.trim_append hblanks]
  rw [hread]
  obtain ⟨importance,read,hasContent,hasLateBlock⟩ := readValue ts
  have hall := htrim read.reverse
  rw [← List.reverse_cons] at hall
  cases importance with
  | none => exact ⟨rfl,rfl,hall⟩
  | bang before => exact ⟨rfl,rfl,hall⟩
  | important before => exact ⟨rfl,rfl,rfl⟩

theorem declaration?_blank (t : Token) (unit : List Token) :
    declaration? t (unit ++ [.leaf m (.whitespace source)]) = declaration? t unit := by
  cases hd : unit.dropWhile Token.isWhitespace with
  | nil =>
    have hdrop : (unit ++ [Token.leaf m (.whitespace source)]).dropWhile Token.isWhitespace =
        [] := by
      rw [List.dropWhile_append,hd]
      rfl
    simp only [declaration?,hd,hdrop]
  | cons colon value =>
    have hdrop : (unit ++ [Token.leaf m (.whitespace source)]).dropWhile Token.isWhitespace =
        colon :: (value ++ [Token.leaf m (.whitespace source)]) := by
      rw [List.dropWhile_append,hd]
      rfl
    have hcolon : colon.isWhitespace = false := by
      have h := List.head?_dropWhile_not Token.isWhitespace unit
      rwa [hd] at h
    cases t with
    | block k o content => simp only [declaration?]
    | leaf k l =>
      cases l with
      | ident name =>
        obtain ⟨hlate,himportant,htrim⟩ := trim_kept_blank hs (m := m) value
        have hsame : ∀ us vs : List Token,
            us.dropWhile Token.isWhitespace = vs.dropWhile Token.isWhitespace →
            declaration? (.leaf k (.ident name)) us = declaration? (.leaf k (.ident name)) vs := by
          intro us vs h
          simp only [declaration?,h]
        rw [hsame _ (colon :: (value ++ [.leaf m (.whitespace source)]))
          (by rw [hdrop,List.dropWhile_cons_of_neg (by simp [hcolon])]),
          hsame unit (colon :: value) (by rw [hd,List.dropWhile_cons_of_neg (by simp [hcolon])]),
          declaration?_ident _ _ hcolon,declaration?_ident _ _ hcolon,hlate,himportant,htrim]
      | _ => simp only [declaration?]

/-- A blank at the end of a body says nothing. -/
theorem declarations_blank (ts : List Token) :
    declarations (ts ++ [.leaf m (.whitespace source)]) = declarations ts := by
  induction hn : ts.length using Nat.strongRecOn generalizing ts with
  | ind n ih =>
    cases ts with
    | nil =>
      rw [List.nil_append,declarations_parts rfl]
    | cons t rest =>
      subst hn
      rw [List.cons_append]
      cases ht : t.parts with
      | true =>
        rw [declarations_parts ht,declarations_parts ht]
        exact ih rest.length (by simp) rest rfl
      | false =>
        rw [declarations_unit ht,declarations_unit ht]
        rcases takeUnit_split rest with ⟨hall,htake⟩ | ⟨before,u,after,unit,rfl,-,hunit⟩
        · have hblank : takeUnit [Token.leaf m (.whitespace source)] =
              ([.leaf m (.whitespace source)],[]) := rfl
          rw [takeUnit_append hall,hblank,htake,declared,declared,declaration?_blank hs]
        · rw [hunit,List.append_assoc,List.cons_append,hunit]
          congr 1
          exact ih after.length (by simp; omega) after rfl

end Blank

/-! ## Where a declaration starts -/

/-- Some tokens of a body up to the end of a unit, and blanks after it. -/
def EndsUnit (ts : List Token) : Prop :=
  ∃ head blanks, ts = head ++ blanks ∧ (∀ t ∈ blanks, t.isWhitespace = true) ∧
    (head = [] ∨ ∃ init t, head = init ++ [t] ∧ t.continues = false)

theorem EndsUnit.nil : EndsUnit [] := ⟨[],[],rfl,by simp,.inl rfl⟩

theorem EndsUnit.cons_parts (ht : t.parts = true) (h : EndsUnit ts) : EndsUnit (t :: ts) := by
  obtain ⟨head,blanks,rfl,hblanks,rfl | ⟨init,u,rfl,hu⟩⟩ := h
  · cases hw : t.isWhitespace with
    | true =>
      refine ⟨[],t :: blanks,rfl,fun u hu => ?_,.inl rfl⟩
      rcases List.mem_cons.mp hu with rfl | hu
      · exact hw
      · exact hblanks u hu
    | false =>
      refine ⟨[t],blanks,rfl,hblanks,.inr ⟨[],t,rfl,?_⟩⟩
      rw [Token.parts,hw,Bool.false_or,Bool.or_eq_true] at ht
      rcases ht with hs | hc
      · simp [Token.continues,hs]
      · obtain ⟨content,hcontent⟩ := Option.isSome_iff_exists.mp hc
        simp [Token.continues,hcontent]
  · exact ⟨t :: (init ++ [u]),blanks,rfl,hblanks,.inr ⟨t :: init,u,rfl,hu⟩⟩

/-- What ends a unit still ends it after more tokens. -/
theorem EndsUnit.append (ht : t.continues = false) (ts : List Token) (h : EndsUnit us) :
    EndsUnit (ts ++ t :: us) := by
  obtain ⟨head,blanks,rfl,hblanks,rfl | ⟨init,u,rfl,hu⟩⟩ := h
  · exact ⟨ts ++ [t],blanks,by simp,hblanks,.inr ⟨ts,t,rfl,ht⟩⟩
  · exact ⟨ts ++ t :: init ++ [u],blanks,by simp,hblanks,.inr ⟨ts ++ t :: init,u,rfl,hu⟩⟩

/-- What a declaration keeps of its tokens. -/
theorem declaration?_eq_some {unit : List Token} {d : Declaration}
    (h : declaration? t unit = some d) :
    (∃ m name, t = .leaf m (.ident name) ∧ propertyName name = d.property) ∧
      d.value ≠ [] ∧ ∃ text, d.value = Text.trim text := by
  simp only [declaration?] at h
  split at h
  · split at h
    · cases h
    · split at h
      · cases h
      · next hne =>
        cases h
        exact ⟨⟨_,_,rfl,rfl⟩,hne,_,rfl⟩
  · cases h

theorem declared_eq_some {d : Declaration} (h : declared t us = some d) :
    ∃ m name, t = .leaf m (.ident name) ∧ propertyName name = d.property := by
  rw [declared] at h
  split at h
  · cases h
  · exact (declaration?_eq_some h).1

/-- An item behind what may be one more item is that one, or stands in the rest. -/
theorem toList_append_eq {α : Type} {o : Option α} {e : α} {rest before after : List α}
    (h : o.toList ++ rest = before ++ e :: after) : before = [] ∧ o = some e ∨
      ∃ later, before = o.toList ++ later ∧ rest = later ++ e :: after := by
  cases o with
  | none => exact .inr ⟨before,rfl,h⟩
  | some d =>
    cases before with
    | nil => exact .inl ⟨rfl,congrArg some (List.cons.inj h).1⟩
    | cons f later =>
      obtain ⟨rfl,htail⟩ := List.cons.inj h
      exact .inr ⟨later,rfl,htail⟩

/-- Before a declaration of a body stand the declarations before it, and their units have ended. -/
theorem declarations_place {ds es : List Declaration} {e : Declaration}
    (h : declarations ts = ds ++ e :: es) :
    ∃ before m name after, ts = before ++ .leaf m (.ident name) :: after ∧
      declarations before = ds ∧ propertyName name = e.property ∧ EndsUnit before := by
  induction hn : ts.length using Nat.strongRecOn generalizing ts ds with
  | ind n ih =>
    cases ts with
    | nil => exact absurd h (by simp [declarations])
    | cons t rest =>
      subst hn
      cases ht : t.parts with
      | true =>
        rw [declarations_parts ht] at h
        obtain ⟨before,m,name,after,rfl,hds,hname,hends⟩ := ih rest.length (by simp) h rfl
        exact ⟨t :: before,m,name,after,rfl,by rw [declarations_parts ht,hds],hname,
          hends.cons_parts ht⟩
      | false =>
        rw [declarations_unit ht] at h
        -- the declaration is made of the first unit, or stands behind it
        rcases toList_append_eq h with ⟨rfl,hd⟩ | ⟨ds',rfl,htail⟩
        · obtain ⟨m,name,rfl,hname⟩ := declared_eq_some hd
          exact ⟨[],m,name,rest,rfl,by simp [declarations],hname,.nil⟩
        · rcases takeUnit_split rest with ⟨-,htake⟩ | ⟨init,u,after,unit,rfl,hu,hunit⟩
          · rw [htake] at htail
            exact absurd htail (by simp [declarations])
          · rw [hunit] at htail ⊢
            obtain ⟨before,m,name,after',rfl,hds,hname,hends⟩ :=
              ih after.length (by simp; omega) htail rfl
            refine ⟨t :: init ++ u :: before,m,name,after',by simp,?_,hname,.append hu _ hends⟩
            rw [List.cons_append,declarations_unit ht,hunit,hds]

end StyleLift.Css
