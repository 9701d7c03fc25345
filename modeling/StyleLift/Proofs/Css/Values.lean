import StyleLift.Proofs.Css.Marks

/-! # Reading one declaration

A unit of a body reaches to its semicolon or through its block. What is kept of its value are the
tokens before the mark of importance, all of them if there is none.
-/
namespace StyleLift.Css

theorem Token.eq_whitespace {t : Token} (h : t.isWhitespace = true) :
    ∃ m source, t = .leaf m (.whitespace source) := by
  unfold isWhitespace at h
  split at h
  · exact ⟨_,_,rfl⟩
  · cases h

/-! ## Units -/

/-- A token that ends no unit. -/
def Token.continues (t : Token) : Bool := !t.isLiteral ";" && t.curly?.isNone

theorem takeUnit_append {ts : List Token} (h : ∀ t ∈ ts, t.continues = true) (rest : List Token) :
    takeUnit (ts ++ rest) = (ts ++ (takeUnit rest).1,(takeUnit rest).2) := by
  induction ts with
  | nil => rfl
  | cons t ts ih =>
    have ht := h t List.mem_cons_self
    simp only [Token.continues,Bool.and_eq_true,Bool.not_eq_true',Option.isNone_iff_eq_none] at ht
    simp [takeUnit,ht,ih fun u hu => h u (List.mem_cons_of_mem _ hu)]

theorem takeUnit_semicolon {t : Token} (h : t.isLiteral ";" = true) (rest : List Token) :
    takeUnit (t :: rest) = ([],rest) := by
  simp [takeUnit,h]

/-! ## Values -/

/-- What is kept of a value that has been read, and whether it is important. -/
def ValueState.kept (s : ValueState) : List Token × Bool :=
  match s.importance with
  | .important before => (before.reverse,true)
  | _ => (s.read.reverse,false)

theorem declaration?_ident (m name : Text) {colon : Token} (hw : colon.isWhitespace = false)
    (value : List Token) :
    declaration? (.leaf m (.ident name)) (colon :: value) =
      if !colon.isLiteral ":" || (readValue value).hasLateBlock then none
      else match Text.trim (writeTokens (readValue value).kept.1) with
        | [] => none
        | text => some ⟨propertyName name,text,(readValue value).kept.2⟩ := by
  have hdrop : (colon :: value).dropWhile Token.isWhitespace = colon :: value :=
    List.dropWhile_cons_of_neg (by simp [hw])
  conv =>
    lhs
    simp only [declaration?,hdrop]
  unfold ValueState.kept
  cases (readValue value).importance <;> rfl

/-- A token that is no mark of importance and no block. -/
def Token.isPlain (t : Token) : Bool := !t.isLiteral "!" && t.curly?.isNone

/-- Plain tokens are all kept, unless they end in what a mark of importance began. -/
theorem foldl_step_plain {ts : List Token} (h : ∀ t ∈ ts, t.isPlain = true)
    (read : List Token) (hasContent : Bool) :
    ∃ hasContent', ts.foldl ValueState.step ⟨.none,read,hasContent,false⟩ =
      ⟨.none,ts.reverse ++ read,hasContent',false⟩ := by
  induction ts generalizing read hasContent with
  | nil => exact ⟨hasContent,rfl⟩
  | cons t ts ih =>
    have ht := h t List.mem_cons_self
    simp only [Token.isPlain,Bool.and_eq_true,Bool.not_eq_true',Option.isNone_iff_eq_none] at ht
    have hstep : ∃ hasContent', ValueState.step ⟨.none,read,hasContent,false⟩ t =
        ⟨.none,t :: read,hasContent',false⟩ := by
      by_cases hw : t.isWhitespace = true <;> simp [ValueState.step,ht,hw]
    obtain ⟨content,hstep⟩ := hstep
    obtain ⟨content',hrest⟩ := ih (fun u hu => h u (List.mem_cons_of_mem _ hu)) (t :: read) content
    refine ⟨content',?_⟩
    rw [List.foldl_cons,hstep,hrest]
    simp

theorem foldl_step_important {ts : List Token} (h : ∀ t ∈ ts, t.isWhitespace = true)
    (before read : List Token) (hasContent hasLateBlock : Bool) :
    ts.foldl ValueState.step ⟨.important before,read,hasContent,hasLateBlock⟩ =
      ⟨.important before,ts.reverse ++ read,hasContent,hasLateBlock⟩ := by
  induction ts generalizing read with
  | nil => rfl
  | cons t ts ih =>
    have hstep : ValueState.step ⟨.important before,read,hasContent,hasLateBlock⟩ t =
        ⟨.important before,t :: read,hasContent,hasLateBlock⟩ := by
      simp [ValueState.step,h t List.mem_cons_self]
    rw [List.foldl_cons,hstep,ih fun u hu => h u (List.mem_cons_of_mem _ hu)]
    simp

theorem readValue_plain {ts : List Token} (h : ∀ t ∈ ts, t.isPlain = true) :
    (readValue ts).hasLateBlock = false ∧ (readValue ts).kept = (ts,false) := by
  obtain ⟨content,hread⟩ := foldl_step_plain h [] false
  rw [readValue,hread]
  simp [ValueState.kept]

theorem readValue_important {ts after : List Token} (h : ∀ t ∈ ts, t.isPlain = true)
    (m : Text) {name : Text} (hname : name.asciiLower = "important")
    (ha : ∀ t ∈ after, t.isWhitespace = true) {bang : Token} (hb : bang.isLiteral "!" = true) :
    (readValue (ts ++ bang :: .leaf m (.ident name) :: after)).hasLateBlock = false ∧
      (readValue (ts ++ bang :: .leaf m (.ident name) :: after)).kept = (ts,true) := by
  obtain ⟨content,hread⟩ := foldl_step_plain h [] false
  have hbang : ValueState.step ⟨.none,ts.reverse ++ [],content,false⟩ bang =
      ⟨.bang (ts.reverse ++ []),bang :: (ts.reverse ++ []),content,false⟩ := by
    simp [ValueState.step,hb]
  have himportant : (Token.leaf m (.ident name)).isImportant = true := by
    simp [Token.isImportant,hname]
  rw [readValue,List.foldl_append,hread,List.foldl_cons,hbang,List.foldl_cons]
  simp only [ValueState.step,himportant,if_true]
  rw [foldl_step_important ha]
  simp [ValueState.kept]

end StyleLift.Css
