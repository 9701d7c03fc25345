import StyleLift.Css.Stylesheet

/-! # Tokens without their marks

The mark of a token places it in its text, for remarks alone. A token stripped of its marks is
written the same, and the same declarations and rules are read from it.
-/
namespace StyleLift.Css

mutual

def Token.bare : Token → Token
  | .leaf _ l => .leaf [] l
  | .block _ o content => .block [] o (bareAll content)

def bareAll : List Token → List Token
  | [] => []
  | t :: rest => t.bare :: bareAll rest

end

theorem bareAll_eq_map (ts : List Token) : bareAll ts = ts.map Token.bare := by
  induction ts with
  | nil => rfl
  | cons t rest ih => rw [bareAll,ih,List.map_cons]

namespace Token

@[simp] theorem bare_leaf (m : Text) (l : Leaf) : (Token.leaf m l).bare = .leaf [] l := rfl

@[simp] theorem bare_block (m : Text) (o : Opener) (content : List Token) :
    (Token.block m o content).bare = .block [] o (content.map bare) := by
  rw [bare,bareAll_eq_map]

@[simp] theorem isWhitespace_bare (t : Token) : t.bare.isWhitespace = t.isWhitespace := by
  cases t with
  | leaf m l => cases l <;> rfl
  | block m o content => rfl

@[simp] theorem isLiteral_bare (s : Text) (t : Token) : t.bare.isLiteral s = t.isLiteral s := by
  cases t with
  | leaf m l => cases l <;> rfl
  | block m o content => rfl

@[simp] theorem isImportant_bare (t : Token) : t.bare.isImportant = t.isImportant := by
  cases t with
  | leaf m l => cases l <;> rfl
  | block m o content => rfl

@[simp] theorem isAtKeyword_bare (t : Token) : t.bare.isAtKeyword = t.isAtKeyword := by
  cases t with
  | leaf m l => cases l <;> rfl
  | block m o content => rfl

@[simp] theorem startsWithNewline_bare (t : Token) :
    t.bare.startsWithNewline = t.startsWithNewline := by
  cases t with
  | leaf m l =>
    rw [bare_leaf]
    unfold startsWithNewline
    split <;> split <;> simp_all
  | block m o content => rfl

@[simp] theorem shape_bare (t : Token) : t.bare.shape = t.shape := by
  cases t with
  | leaf m l => cases l <;> rfl
  | block m o content =>
    cases o with
    | bracket b => cases b <;> rfl
    | function name => rfl

@[simp] theorem curly?_bare (t : Token) : t.bare.curly? = t.curly?.map (List.map bare) := by
  cases t with
  | leaf m l => rfl
  | block m o content =>
    rw [bare_block]
    cases o with
    | bracket b => cases b <;> rfl
    | function name => rfl

end Token

@[simp] theorem separator_bare (a b : Token) : separator a.bare b.bare = separator a b := by
  simp [separator]

mutual

theorem Token.endsInOpenString_bare (t : Token) :
    t.bare.endsInOpenString = t.endsInOpenString := by
  cases t with
  | leaf m l => cases l <;> rfl
  | block m o content =>
    cases o with
    | bracket b => rfl
    | function name =>
      simp only [Token.bare,Token.endsInOpenString]
      exact levelEndsInOpenString_bare content

theorem levelEndsInOpenString_bare (ts : List Token) :
    levelEndsInOpenString (bareAll ts) = levelEndsInOpenString ts := by
  match ts with
  | [] => rfl
  | [t] => exact t.endsInOpenString_bare
  | _ :: u :: rest => exact levelEndsInOpenString_bare (u :: rest)

end

mutual

theorem Token.write_bare (t : Token) : t.bare.write = t.write := by
  cases t with
  | leaf m l => rfl
  | block m o content =>
    simp only [Token.bare,Token.write,writeTokens_bareAll content,
      levelEndsInOpenString_bare content]

theorem writeTokens_bareAll (ts : List Token) : writeTokens (bareAll ts) = writeTokens ts := by
  match ts with
  | [] => rfl
  | [t] => simp only [bareAll,writeTokens,t.write_bare]
  | t :: u :: rest =>
    have h := writeTokens_bareAll (u :: rest)
    simp only [bareAll] at h
    simp only [bareAll,writeTokens,t.write_bare,separator_bare] at h ⊢
    rw [h]

end

@[simp] theorem writeTokens_bare (ts : List Token) :
    writeTokens (ts.map Token.bare) = writeTokens ts := by
  rw [← bareAll_eq_map,writeTokens_bareAll]

/-! ## Declarations -/

def Importance.bare : Importance → Importance
  | .none => .none
  | .bang before => .bang (before.map Token.bare)
  | .important before => .important (before.map Token.bare)

def ValueState.bare (s : ValueState) : ValueState :=
  ⟨s.importance.bare,s.read.map Token.bare,s.hasContent,s.hasLateBlock⟩

theorem ValueState.step_bare (s : ValueState) (t : Token) :
    s.bare.step t.bare = (s.step t).bare := by
  obtain ⟨importance,read,hasContent,hasLateBlock⟩ := s
  cases importance <;> by_cases hw : t.isWhitespace = true <;>
    by_cases hl : t.isLiteral "!" = true <;> by_cases hi : t.isImportant = true <;>
    simp [step,bare,Importance.bare,hw,hl,hi]

theorem foldl_step_bare (s : ValueState) (ts : List Token) :
    (ts.map Token.bare).foldl ValueState.step s.bare = (ts.foldl ValueState.step s).bare := by
  induction ts generalizing s with
  | nil => rfl
  | cons t rest ih => rw [List.map_cons,List.foldl_cons,List.foldl_cons,s.step_bare,ih]

theorem readValue_bare (ts : List Token) : readValue (ts.map Token.bare) = (readValue ts).bare :=
  foldl_step_bare ⟨.none,[],false,false⟩ ts

theorem dropWhile_isWhitespace_bare (ts : List Token) :
    (ts.map Token.bare).dropWhile Token.isWhitespace =
      (ts.dropWhile Token.isWhitespace).map Token.bare := by
  rw [List.dropWhile_map]
  congr 2
  funext t
  exact t.isWhitespace_bare

theorem declaration?_bare (t : Token) (ts : List Token) :
    declaration? t.bare (ts.map Token.bare) = declaration? t ts := by
  cases t with
  | block m o content => simp [declaration?]
  | leaf m l =>
    cases l with
    | ident name =>
      simp only [declaration?,Token.bare_leaf,dropWhile_isWhitespace_bare]
      cases ts.dropWhile Token.isWhitespace with
      | nil => rfl
      | cons colon value =>
        simp only [List.map_cons,Token.isLiteral_bare,readValue_bare,ValueState.bare]
        cases (readValue value).importance <;>
          simp [Importance.bare,← List.map_reverse]
    | _ => simp [declaration?]

theorem takeUnit_bare (ts : List Token) :
    takeUnit (ts.map Token.bare) =
      ((takeUnit ts).1.map Token.bare,(takeUnit ts).2.map Token.bare) := by
  induction ts with
  | nil => rfl
  | cons t rest ih =>
    by_cases hs : t.isLiteral ";" = true
    · simp [takeUnit,hs]
    · by_cases hc : t.curly?.isSome = true
      · simp [takeUnit,hs,hc]
      · simp [takeUnit,hs,hc,ih]

/-- A body says the same whatever its place. -/
theorem declarations_bare (ts : List Token) :
    declarations (ts.map Token.bare) = declarations ts := by
  fun_induction declarations ts with
  | case1 => simp [declarations]
  | case2 t rest h ih => simpa [declarations,h] using ih
  | case3 t rest h ha ih => simp_all [declarations,takeUnit_bare]
  | case4 t rest h ha d hd ih => simp_all [declarations,takeUnit_bare,declaration?_bare]
  | case5 t rest h ha hd ih => simp_all [declarations,takeUnit_bare,declaration?_bare]

/-! ## Rules -/

theorem takePrelude_bare (stop : Bool) (ts : List Token) :
    takePrelude stop (ts.map Token.bare) =
      ⟨(takePrelude stop ts).tokens.map Token.bare,
        (takePrelude stop ts).content.map (List.map Token.bare),
        (takePrelude stop ts).rest.map Token.bare⟩ := by
  induction ts with
  | nil => rfl
  | cons t rest ih =>
    cases hc : t.curly? with
    | some content => simp [takePrelude,hc]
    | none =>
      by_cases hs : (stop && t.isLiteral ";") = true
      · simp [takePrelude,hc,hs]
      · simp [takePrelude,hc,hs,ih]

@[simp] theorem skipsAt_bare (outermost : Bool) (t : Token) :
    skipsAt outermost t.bare = skipsAt outermost t := by
  simp [skipsAt]

/-- The rules among some tokens, without what is left unfinished. -/
def rulesIn (outermost : Bool) (ts : List Token) : List Rule :=
  (findings outermost ts).filterMap Finding.rule?

@[simp] theorem rulesIn_nil (outermost : Bool) : rulesIn outermost [] = [] := by
  simp [rulesIn,findings]

theorem rulesIn_skip {outermost : Bool} {t : Token} (h : skipsAt outermost t = true)
    (rest : List Token) : rulesIn outermost (t :: rest) = rulesIn outermost rest := by
  unfold rulesIn
  rw [findings.eq_def]
  simp only [h,if_true]

/-- The rules of an at-rule's content, if it has any and groups rules. -/
def rulesOfGroup (name : Text) : Option (List Token) → List Rule
  | some content => if groupingRules.contains name.asciiLower then rulesIn false content else []
  | none => []

theorem rulesIn_atKeyword (outermost : Bool) (m name : Text) (rest : List Token) :
    rulesIn outermost (.leaf m (.atKeyword name) :: rest) =
      rulesOfGroup name (takePrelude true rest).content ++
        rulesIn outermost (takePrelude true rest).rest := by
  have hs : skipsAt outermost (.leaf m (.atKeyword name)) = false := by
    cases outermost <;> rfl
  unfold rulesIn
  rw [findings,if_neg (by simp [hs])]
  simp only [List.filterMap_append]
  congr 1
  split
  · next content h =>
    rw [h,rulesOfGroup]
    split <;> rfl
  · next h =>
    rw [h]
    rfl

theorem rulesIn_style {outermost : Bool} {t : Token} (hs : skipsAt outermost t = false)
    (ha : t.isAtKeyword = false) (rest : List Token) :
    rulesIn outermost (t :: rest) = match (takePrelude false (t :: rest)).content with
      | some content =>
        ⟨selectorText (takePrelude false (t :: rest)).tokens,declarations content⟩ ::
          rulesIn outermost (takePrelude false (t :: rest)).rest
      | none => [] := by
  have hne : ∀ m name, t = .leaf m (.atKeyword name) → False := by
    rintro m name rfl
    cases ha
  unfold rulesIn
  rw [findings.eq_3 outermost t rest hne,if_neg (by simp [hs])]
  cases h : (takePrelude false (t :: rest)).content <;> simp [h,Finding.rule?]

@[simp] theorem selectorText_bare (ts : List Token) :
    selectorText (ts.map Token.bare) = selectorText ts := by
  simp [selectorText]

/-- The rules of a text do not depend on the places of its tokens. -/
theorem rulesIn_bare (outermost : Bool) (ts : List Token) :
    rulesIn outermost (ts.map Token.bare) = rulesIn outermost ts := by
  induction h : sizeOf ts using Nat.strongRecOn generalizing outermost ts with
  | ind n ih =>
    cases ts with
    | nil => rfl
    | cons t rest =>
      subst h
      rw [List.map_cons]
      by_cases hs : skipsAt outermost t = true
      · rw [rulesIn_skip (by simpa using hs),rulesIn_skip hs]
        exact ih _ (by simp only [List.cons.sizeOf_spec]; omega) outermost rest rfl
      by_cases ha : t.isAtKeyword = true
      · cases t with
        | block m o content => cases ha
        | leaf m l =>
          cases l with
          | atKeyword name =>
            have hrest := takePrelude_rest true rest
            rw [Token.bare_leaf,rulesIn_atKeyword,rulesIn_atKeyword,takePrelude_bare]
            congr 1
            · cases hc : (takePrelude true rest).content with
              | none => rfl
              | some content =>
                have hsize := takePrelude_content hc
                simp only [rulesOfGroup,Option.map_some]
                split
                · exact ih _ (by simp; omega) false content rfl
                · rfl
            · exact ih _ (by simp; omega) outermost _ rfl
          | _ => cases ha
      · have hrest := takePrelude_cons_rest false t rest
        have hp := takePrelude_bare false (t :: rest)
        rw [List.map_cons] at hp
        rw [rulesIn_style (by simpa using hs) (by simpa using ha),
          rulesIn_style (by simpa using hs) (by simpa using ha),hp]
        cases hc : (takePrelude false (t :: rest)).content with
        | none => rfl
        | some content =>
          simp only [Option.map_some,selectorText_bare,declarations_bare]
          rw [ih _ (by simp; omega) outermost _ rfl]

end StyleLift.Css
