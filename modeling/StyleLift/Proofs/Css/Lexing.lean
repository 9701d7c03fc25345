import StyleLift.Proofs.Css.Nesting

/-! # Lexing a text piece by piece

The lexemes of a text that starts with a name, a length, a mark, a run of blanks or a comment are
those of the piece and then those of the rest. What the rest may start with is said for each piece:
a name must not run on into it.
-/
namespace StyleLift.Css

/-! ## Line ends -/

/-- Left as it is when line ends are made newlines. -/
def isSettled (c : CodePoint) : Bool := c != .char '\x00' && c != .char '\r' && c != .char '\x0c'

theorem preprocess_cons {c : CodePoint} (h : c ≠ .char '\r') (s : Text) :
    preprocess (c :: s) =
      (if c = .char '\x00' then .replacement else if c = .char '\x0c' then .char '\n' else c) ::
        preprocess s := by
  rw [preprocess]
  · simp [h]
  · intro rest hc
    exact (h hc).elim

theorem preprocess_settled_append {a : Text} (h : ∀ c ∈ a, isSettled c = true) (b : Text) :
    preprocess (a ++ b) = a ++ preprocess b := by
  induction a with
  | nil => rfl
  | cons c a ih =>
    have hc := h c List.mem_cons_self
    simp only [isSettled,Bool.and_eq_true,bne_iff_ne,ne_eq] at hc
    rw [List.cons_append,preprocess_cons hc.1.2,if_neg hc.1.1,if_neg hc.2,
      ih fun d hd => h d (List.mem_cons_of_mem _ hd),List.cons_append]

/-- What the first code point of a text becomes. -/
def settle (c : CodePoint) : CodePoint :=
  if c = .char '\x00' then .replacement
  else if c = .char '\r' ∨ c = .char '\x0c' then .char '\n'
  else c

theorem preprocess_eq_settle_cons (c : CodePoint) (s : Text) :
    ∃ t, preprocess (c :: s) = settle c :: t := by
  rw [preprocess.eq_def]
  split
  · next e => cases e
  · next e =>
    cases e
    exact ⟨_,rfl⟩
  · next e =>
    cases e
    exact ⟨_,rfl⟩

theorem settle_cases (c : CodePoint) :
    settle c = .replacement ∨ settle c = .char '\n' ∨ settle c = c := by
  unfold settle
  split
  · exact .inl rfl
  · split
    · exact .inr (.inl rfl)
    · exact .inr (.inr rfl)

theorem isSettled_of_settle {c : CodePoint} (h : settle c = c) : isSettled c = true := by
  simp only [isSettled,Bool.and_eq_true,bne_iff_ne,ne_eq]
  refine ⟨⟨?_,?_⟩,?_⟩ <;> rintro rfl <;> exact absurd h (by decide)

theorem settle_eq_newline {c : CodePoint} (h : settle c = .char '\n') :
    c = .char '\n' ∨ c = .char '\r' ∨ c = .char '\x0c' := by
  unfold settle at h
  split at h
  · exact absurd h (by decide)
  · split at h
    · next hend => exact .inr hend
    · exact .inl h

theorem preprocess_length_cons (c : CodePoint) (s : Text) :
    (preprocess s).length ≤ (preprocess (c :: s)).length := by
  rw [preprocess.eq_def (c :: s)]
  split
  · next h => cases h
  · next rest h =>
    cases h
    rw [preprocess_cons (by decide)]
    exact Nat.le_refl _
  · next d rest hne h =>
    cases h
    exact Nat.le_succ _

theorem preprocess_length_le {s t : Text} (h : s <:+ t) :
    (preprocess s).length ≤ (preprocess t).length := by
  induction t with
  | nil =>
    cases List.suffix_nil.mp h
    exact Nat.le_refl _
  | cons c t ih =>
    rcases List.suffix_cons_iff.mp h with rfl | h
    · exact Nat.le_refl _
    · exact Nat.le_trans (ih h) (preprocess_length_cons c t)

theorem preprocess_settled {c : CodePoint} (h : isSettled c = true) (s : Text) :
    preprocess (c :: s) = c :: preprocess s :=
  preprocess_settled_append (a := [c]) (by simpa using h) s

/-- What is neither made a newline nor the replacement character stood there before. -/
theorem preprocess_eq_cons {c : CodePoint} {s t : Text} (h : preprocess s = c :: t)
    (hline : c ≠ .char '\n') (hreplaced : c ≠ .replacement) :
    ∃ rest, s = c :: rest ∧ t = preprocess rest := by
  cases s with
  | nil => cases h
  | cons d rest =>
    obtain ⟨tail,htail⟩ := preprocess_eq_settle_cons d rest
    have hd : settle d = c := by
      rw [htail] at h
      exact (List.cons.inj h).1
    rcases settle_cases d with hsettle | hsettle | hsettle
    · exact (hreplaced (hd.symm.trans hsettle)).elim
    · exact (hline (hd.symm.trans hsettle)).elim
    · cases hd.symm.trans hsettle
      rw [preprocess_settled (isSettled_of_settle hsettle)] at h
      exact ⟨rest,rfl,((List.cons.inj h).2).symm⟩

/-- Only a carriage return and a newline are taken together. -/
theorem preprocess_append {b : Text} (h : ∀ rest, b ≠ .char '\n' :: rest) (a : Text) :
    preprocess (a ++ b) = preprocess a ++ preprocess b := by
  fun_induction preprocess a with
  | case1 => rfl
  | case2 rest ih => simp [preprocess,ih]
  | case3 c rest hne ih =>
    rw [List.cons_append,preprocess,ih,List.cons_append]
    intro tail hc ht
    cases rest with
    | nil => exact h tail ht
    | cons d rest =>
      cases ht
      exact hne rest hc rfl

/-! ## What ends a name -/

def stopsName : Text → Bool
  | [] => true
  | c :: _ => !isNamePart c && c != .char '\\'

/-- The end of a name that is not a function, a range or the end of a comment. -/
def endsName : Text → Bool
  | [] => true
  | c :: _ => !isNamePart c && c != .char '\\' && c != .char '(' && c != .char '+' &&
      c != .char '>'

theorem stopsName_of_endsName {s : Text} (h : endsName s = true) : stopsName s = true := by
  cases s with
  | nil => rfl
  | cons c s => simp_all [endsName,stopsName]

theorem not_isSpace_of_isNamePart {c : CodePoint} (h : isNamePart c = true) :
    isSpace c = false := by
  refine Bool.eq_false_iff.mpr fun hs => ?_
  simp only [isSpace,Bool.or_eq_true,beq_iff_eq] at hs
  obtain (rfl | rfl) | rfl := hs <;> exact absurd h (by decide)

theorem takeName_append {name rest : Text} (h : ∀ c ∈ name, isNamePart c = true)
    (hr : stopsName rest = true) : takeName (name ++ rest) = (name,rest) := by
  induction name with
  | nil =>
    cases rest with
    | nil => rw [List.nil_append,takeName]
    | cons c rest =>
      simp only [stopsName,Bool.and_eq_true,Bool.not_eq_true',bne_iff_ne,ne_eq] at hr
      rw [List.nil_append,takeName]
      simp [hr.1,hr.2]
  | cons c name ih =>
    rw [List.cons_append,takeName,if_pos (h c List.mem_cons_self),
      ih fun d hd => h d (List.mem_cons_of_mem _ hd)]

/-! ## Names -/

theorem startsIdent_of_ne {c : CodePoint} (hminus : c ≠ .char '-') (hslash : c ≠ .char '\\')
    (rest : Text) : startsIdent (c :: rest) = isNameStart c := by
  unfold startsIdent
  split
  · next e => exact (hminus (List.cons.inj e).1).elim
  · next e => exact (hminus (List.cons.inj e).1).elim
  · next e => exact (hslash (List.cons.inj e).1).elim
  · next e => rw [(List.cons.inj e).1]
  · next e => cases e

theorem startsIdent_hyphen {d : CodePoint} (hslash : d ≠ .char '\\') (rest : Text) :
    startsIdent (.char '-' :: d :: rest) = (isNameStart d || d == .char '-') := by
  unfold startsIdent
  split
  · next e => exact (hslash (List.cons.inj (List.cons.inj e).2).1).elim
  · next e =>
    cases e
    rfl
  · next e => cases e
  · next hne _ e =>
    cases e
    exact (hne d rest rfl rfl).elim
  · next e => cases e

/-- A name written without escapes starts a name whatever follows it. -/
theorem startsIdent_append {name : Text} (h : ∀ c ∈ name, isNamePart c = true)
    (hs : startsIdent name = true) (rest : Text) : startsIdent (name ++ rest) = true := by
  have hslash : ∀ c ∈ name, c ≠ .char '\\' := by
    rintro c hc rfl
    exact absurd (h _ hc) (by decide)
  match name with
  | [] => cases hs
  | [c] =>
    have hminus : c ≠ .char '-' := by
      rintro rfl
      exact absurd hs (by decide)
    rw [startsIdent_of_ne hminus (hslash c (by simp))] at hs
    rw [List.singleton_append,startsIdent_of_ne hminus (hslash c (by simp)),hs]
  | c :: d :: tail =>
    by_cases hminus : c = .char '-'
    · subst hminus
      rw [startsIdent_hyphen (hslash d (by simp))] at hs
      rw [List.cons_append,List.cons_append,startsIdent_hyphen (hslash d (by simp)),hs]
    · rw [startsIdent_of_ne hminus (hslash c (by simp))] at hs
      rw [List.cons_append,startsIdent_of_ne hminus (hslash c (by simp)),hs]

/-- What follows a name part of a name, the end included, is no mark that would make a range. -/
theorem not_startsUnicodeRange {c : CodePoint} {name rest : Text}
    (h : ∀ d ∈ name, isNamePart d = true) (hr : endsName rest = true) :
    startsUnicodeRange c (name ++ rest) = false := by
  unfold startsUnicodeRange
  split
  · next d tail e =>
    rcases List.append_eq_cons_iff.mp e with ⟨rfl,rfl⟩ | ⟨name,rfl,-⟩
    · exact absurd hr (by simp [endsName])
    · exact absurd (h (.char '+') (by simp)) (by decide)
  · rfl

theorem not_startsWith_arrow {name rest : Text} (h : ∀ d ∈ name, isNamePart d = true)
    (hr : endsName rest = true) : ¬Text.startsWith (name ++ rest) "->" = true := by
  intro hw
  obtain ⟨tail,ht⟩ := List.isPrefixOf_iff_prefix.mp hw
  have e : name ++ rest = .char '-' :: .char '>' :: tail := ht.symm
  rcases List.append_eq_cons_iff.mp e with ⟨rfl,rfl⟩ | ⟨name,rfl,he⟩
  · exact absurd hr (by simp [endsName,isNamePart])
  · rcases List.append_eq_cons_iff.mp he.symm with ⟨rfl,rfl⟩ | ⟨name,rfl,-⟩
    · exact absurd hr (by simp [endsName])
    · exact absurd (h (.char '>') (by simp)) (by decide)

theorem writeName_eq_self {name : Text} (h : ∀ c ∈ name, isNamePart c = true) :
    writeName name = name := by
  induction name with
  | nil => rfl
  | cons c name ih =>
    have hc := h c List.mem_cons_self
    have hrest := ih fun d hd => h d (List.mem_cons_of_mem _ hd)
    rw [writeName] at hrest
    rw [writeName,List.flatMap_cons,hrest,writeNamePart,if_pos hc,List.singleton_append]

/-- A name that needs no escapes is written without them. -/
theorem writeIdent_eq_self {name : Text} (h : ∀ c ∈ name, isNamePart c = true)
    (hs : startsIdent name = true) : writeIdent name = name := by
  have hslash : ∀ c ∈ name, c ≠ .char '\\' := by
    rintro c hc rfl
    exact absurd (h _ hc) (by decide)
  fun_cases writeIdent name with
  | case1 => rfl
  | case2 => exact absurd hs (by decide)
  | case3 rest => rw [writeName_eq_self fun d hd => h d (by simp [hd])]
  | case4 d rest hne =>
    have hd : isNameStart d = true := by
      rw [startsIdent_hyphen (hslash d (by simp)),Bool.or_eq_true,beq_iff_eq] at hs
      exact hs.resolve_right hne
    rw [writeName_eq_self fun e he => h e (by simp [he]),writeNameStart,if_pos hd]
    rfl
  | case5 c rest hone htwo hmore =>
    have hminus : c ≠ .char '-' := by
      rintro rfl
      cases rest with
      | nil => exact hone rfl rfl
      | cons d rest => exact hmore d rest rfl rfl
    rw [startsIdent_of_ne hminus (hslash c (by simp))] at hs
    rw [writeName_eq_self fun e he => h e (by simp [he]),writeNameStart,if_pos hs]
    rfl

theorem next_ident {c : CodePoint} {name rest : Text} (h : ∀ d ∈ c :: name, isNamePart d = true)
    (hs : startsIdent (c :: (name ++ rest)) = true) (hr : endsName rest = true) :
    next c (name ++ rest) = (some (.leaf (.ident (c :: name))),rest) := by
  have hspace := not_isSpace_of_isNamePart (h c List.mem_cons_self)
  have hname : ∀ d ∈ name, isNamePart d = true := fun d hd => h d (List.mem_cons_of_mem _ hd)
  have htake : takeName (c :: (name ++ rest)) = (c :: name,rest) :=
    takeName_append h (stopsName_of_endsName hr)
  unfold next
  rw [if_neg (by simp [hspace]),if_neg (by simp [not_startsUnicodeRange hname hr]),
    if_neg (fun hc => not_startsWith_arrow hname hr hc.2),if_pos hs]
  unfold nextIdent
  simp only [htake]
  split
  · exact absurd hr (by simp [endsName])
  · rfl

theorem kinds_ident {name rest : Text} (hne : name ≠ []) (h : ∀ d ∈ name, isNamePart d = true)
    (hs : startsIdent (name ++ rest) = true) (hr : endsName rest = true) :
    kinds (name ++ rest) = .leaf (.ident name) :: kinds rest := by
  cases name with
  | nil => exact (hne rfl).elim
  | cons c name =>
    rw [List.cons_append,kinds_cons,next_ident h hs hr]
    rfl

theorem kinds_atKeyword {name rest : Text} (h : ∀ c ∈ name, isNamePart c = true)
    (hs : startsIdent (name ++ rest) = true) (hr : stopsName rest = true) :
    kinds (.char '@' :: (name ++ rest)) = .leaf (.atKeyword name) :: kinds rest := by
  have hrange : startsUnicodeRange (.char '@') (name ++ rest) = false := by
    unfold startsUnicodeRange
    split <;> rfl
  have hident : startsIdent (.char '@' :: (name ++ rest)) = false := rfl
  have hnumber : takeNumber? (.char '@' :: (name ++ rest)) = none := rfl
  have hspace : isSpace (.char '@') = false := rfl
  rw [kinds_cons]
  unfold next
  simp only [hspace,hrange,hident,hnumber,hs,takeName_append h hr,Bool.false_eq_true,if_false,
    if_true]
  rfl

/-! ## Lengths -/

theorem isNamePart_of_isAsciiDigit {c : CodePoint} (h : c.isAsciiDigit = true) :
    isNamePart c = true := by
  simp [isNamePart,h]

theorem not_isNameStart_of_isAsciiDigit {c : CodePoint} (h : c.isAsciiDigit = true) :
    isNameStart c = false := by
  refine Bool.eq_false_iff.mpr fun hs => ?_
  simp only [CodePoint.isAsciiDigit,Bool.and_eq_true,decide_eq_true_eq] at h
  simp only [isNameStart,CodePoint.isAsciiLetter,Bool.or_eq_true,Bool.and_eq_true,
    decide_eq_true_eq,beq_iff_eq] at hs
  rcases hs with (hs | rfl) | hs
  · omega
  · simp [CodePoint.val] at h
  · omega

theorem takeDigits_append {digits rest : Text} (h : ∀ c ∈ digits, c.isAsciiDigit = true)
    {u : CodePoint} (hu : u.isAsciiDigit = false) :
    takeDigits (digits ++ u :: rest) = (digits,u :: rest) := by
  have htake : (digits ++ u :: rest).takeWhile CodePoint.isAsciiDigit = digits := by
    rw [List.takeWhile_append_of_pos h,List.takeWhile_cons_of_neg (by simp [hu]),List.append_nil]
  have hdrop : (digits ++ u :: rest).dropWhile CodePoint.isAsciiDigit = u :: rest := by
    rw [List.dropWhile_append_of_pos h,List.dropWhile_cons_of_neg (by simp [hu])]
  rw [takeDigits,htake,hdrop]

/-- The sign of a length, which only a negative one has. -/
def signOf (negative : Bool) : Text := if negative then [.char '-'] else []

theorem takeSign_signOf (negative : Bool) {d : CodePoint} (hd : d.isAsciiDigit = true)
    (rest : Text) : takeSign (signOf negative ++ d :: rest) = (signOf negative,d :: rest) := by
  have hsign : ¬(d = .char '+' ∨ d = .char '-') := by
    rintro (rfl | rfl) <;> exact absurd hd (by decide)
  cases negative with
  | true => rfl
  | false => simp only [signOf,Bool.false_eq_true,if_false,List.nil_append,takeSign,if_neg hsign]

theorem takeNumber?_pixels (negative : Bool) {d : CodePoint} {digits : Text} (rest : Text)
    (h : ∀ c ∈ d :: digits, c.isAsciiDigit = true) :
    takeNumber? (signOf negative ++ (d :: digits ++ .char 'p' :: rest)) =
      some (signOf negative ++ d :: digits,.char 'p' :: rest) := by
  have hsign := takeSign_signOf negative (h d List.mem_cons_self) (digits ++ .char 'p' :: rest)
  have hdigits : takeDigits (d :: digits ++ .char 'p' :: rest) =
      (d :: digits,.char 'p' :: rest) := takeDigits_append h (by decide)
  have hfraction : takeFraction (.char 'p' :: rest) = ([],.char 'p' :: rest) := by
    simp [takeFraction]
  have hexponent : takeExponent (.char 'p' :: rest) = ([],.char 'p' :: rest) := by
    simp [takeExponent]
  rw [List.cons_append,takeNumber?,hsign,← List.cons_append]
  simp only [hdigits,hfraction,hexponent]
  simp

theorem nextNumber_pixels {source rest : Text} (hr : stopsName rest = true) :
    nextNumber source (.char 'p' :: .char 'x' :: rest) =
      (some (.leaf (.dimension source "px")),rest) := by
  have hunit : takeName (.char 'p' :: .char 'x' :: rest) = (Text.ofString "px",rest) :=
    takeName_append (show ∀ c ∈ Text.ofString "px", isNamePart c = true by decide) hr
  have hs : startsIdent (.char 'p' :: .char 'x' :: rest) = true := rfl
  simp only [nextNumber,hs,if_true,hunit]

theorem next_number {c : CodePoint} {rest source after : Text} (hspace : isSpace c = false)
    (hrange : startsUnicodeRange c rest = false)
    (harrow : ¬(c = .char '-' ∧ Text.startsWith rest "->" = true))
    (hident : startsIdent (c :: rest) = false)
    (hnumber : takeNumber? (c :: rest) = some (source,after)) :
    next c rest = nextNumber source after := by
  unfold next
  rw [if_neg (by simp [hspace]),if_neg (by simp [hrange]),if_neg harrow,if_neg (by simp [hident]),
    hnumber]

theorem startsUnicodeRange_of_ne {c : CodePoint} (hl : c ≠ .char 'u') (hu : c ≠ .char 'U')
    (rest : Text) : startsUnicodeRange c rest = false := by
  unfold startsUnicodeRange
  split
  · simp [hl,hu]
  · rfl

theorem startsIdent_digit {d : CodePoint} (hd : d.isAsciiDigit = true) (rest : Text) :
    startsIdent (d :: rest) = false := by
  have hstart := not_isNameStart_of_isAsciiDigit hd
  rw [startsIdent_of_ne ?_ ?_,hstart]
  all_goals
    rintro rfl
    exact absurd hd (by decide)

theorem startsIdent_negative {d : CodePoint} (hd : d.isAsciiDigit = true) (rest : Text) :
    startsIdent (.char '-' :: d :: rest) = false := by
  have hstart := not_isNameStart_of_isAsciiDigit hd
  have hne : ∀ e : CodePoint, e.isAsciiDigit = false → d ≠ e := by
    rintro e he rfl
    exact absurd hd (by simp [he])
  rw [startsIdent_hyphen (hne _ (by decide)),hstart]
  exact beq_eq_false_iff_ne.mpr (hne _ (by decide))

/-- A whole number of pixels is one lexeme. -/
theorem kinds_pixels (negative : Bool) {digits rest : Text} (hne : digits ≠ [])
    (h : ∀ c ∈ digits, c.isAsciiDigit = true) (hr : stopsName rest = true) :
    kinds (signOf negative ++ (digits ++ .char 'p' :: .char 'x' :: rest)) =
      .leaf (.dimension (signOf negative ++ digits) "px") :: kinds rest := by
  obtain ⟨d,digits,rfl⟩ := List.exists_cons_of_ne_nil hne
  have hd := h d List.mem_cons_self
  have hmark : ∀ e : CodePoint, e.isAsciiDigit = false → d ≠ e := by
    rintro e he rfl
    exact absurd hd (by simp [he])
  have hnumber := takeNumber?_pixels negative (.char 'x' :: rest) h
  cases negative with
  | true =>
    have harrow : ¬Text.startsWith (d :: (digits ++ .char 'p' :: .char 'x' :: rest)) "->" := by
      intro hw
      obtain ⟨tail,ht⟩ := List.isPrefixOf_iff_prefix.mp hw
      exact hmark (.char '-') (by decide) (List.cons.inj ht).1.symm
    have hnext : next (.char '-') (d :: (digits ++ .char 'p' :: .char 'x' :: rest)) = _ :=
      next_number (by decide) (startsUnicodeRange_of_ne (by decide) (by decide) _)
        (fun hc => harrow hc.2) (startsIdent_negative hd _) hnumber
    change kinds (.char '-' :: d :: (digits ++ .char 'p' :: .char 'x' :: rest)) = _
    rw [kinds_cons,hnext,nextNumber_pixels hr]
    rfl
  | false =>
    have hspace := not_isSpace_of_isNamePart (isNamePart_of_isAsciiDigit hd)
    have hnext : next d (digits ++ .char 'p' :: .char 'x' :: rest) = _ :=
      next_number hspace (startsUnicodeRange_of_ne (hmark _ (by decide)) (hmark _ (by decide)) _)
        (fun hc => hmark (.char '-') (by decide) hc.1) (startsIdent_digit hd _) hnumber
    change kinds (d :: (digits ++ .char 'p' :: .char 'x' :: rest)) = _
    rw [kinds_cons,hnext,nextNumber_pixels hr]
    rfl

/-! ## Marks, blanks and comments -/

/-- The lexeme of a mark that stands for itself. -/
def markLexeme (c : CodePoint) : Lexeme := (bracket? c).getD (.leaf (.literal [c]))

theorem nextMark_alone {c : CodePoint} (hc : c ≠ .char '/' ∧ c ≠ .char '<' ∧ c ≠ .char '|')
    (he : takesEquals c = false) (rest : Text) : nextMark c rest = (some (markLexeme c),rest) := by
  unfold nextMark markLexeme
  cases hb : bracket? c with
  | some l => rfl
  | none =>
    simp only [Option.getD_none]
    split
    · exact (hc.1 rfl).elim
    · exact (hc.2.1 rfl).elim
    · exact (hc.2.2 rfl).elim
    · simp [he,literal]
    · rfl

theorem next_eq_nextMark {c : CodePoint} {rest : Text} (hspace : isSpace c = false)
    (hrange : startsUnicodeRange c rest = false) (hident : startsIdent (c :: rest) = false)
    (hnumber : takeNumber? (c :: rest) = none)
    (hc : c ≠ .char '-' ∧ c ≠ .char '@' ∧ c ≠ .char '#' ∧ c ≠ .char '"' ∧ c ≠ .char '\'') :
    next c rest = nextMark c rest := by
  obtain ⟨hminus,hat,hhash,hdouble,hsingle⟩ := hc
  simp [next,hspace,hrange,hident,hnumber,hminus,hat,hhash,hdouble,hsingle]

/-- A mark that is a lexeme whatever follows. -/
def isLoneMark (c : CodePoint) : Bool :=
  c == .char ':' || c == .char ';' || c == .char '!' || c == .char '(' || c == .char ')' ||
    c == .char '\x7b' || c == .char '\x7d'

theorem next_mark {c : CodePoint} (hc : isLoneMark c = true) (rest : Text) :
    next c rest = (some (markLexeme c),rest) := by
  have hne : ∀ e : CodePoint, isLoneMark e = false → c ≠ e := by
    rintro e he rfl
    rw [he] at hc
    cases hc
  have hrange := startsUnicodeRange_of_ne (hne (.char 'u') (by decide)) (hne _ (by decide)) rest
  have hmark := hne (.char '-') (by decide)
  have hlone : isSpace c = false ∧ startsIdent (c :: rest) = false ∧
      takeNumber? (c :: rest) = none ∧ takesEquals c = false := by
    simp only [isLoneMark,Bool.or_eq_true,beq_iff_eq] at hc
    obtain ((((((rfl | rfl) | rfl) | rfl) | rfl) | rfl) | rfl) := hc <;>
      exact ⟨rfl,rfl,rfl,rfl⟩
  obtain ⟨hspace,hident,hnumber,hequals⟩ := hlone
  rw [next_eq_nextMark hspace hrange hident hnumber
    ⟨hmark,hne _ (by decide),hne _ (by decide),hne _ (by decide),hne _ (by decide)⟩]
  exact nextMark_alone ⟨hne _ (by decide),hne _ (by decide),hne _ (by decide)⟩ hequals rest

theorem kinds_mark {c : CodePoint} (hc : isLoneMark c = true) (rest : Text) :
    kinds (c :: rest) = markLexeme c :: kinds rest := by
  rw [kinds_cons,next_mark hc]
  rfl

/-- A point before a name is no part of a number. -/
theorem next_point {rest : Text} (h : startsIdent rest = true) :
    next (.char '.') rest = (some (.leaf (.literal ".")),rest) := by
  have hdigits : (takeDigits rest).1 = [] := by
    cases rest with
    | nil => rfl
    | cons c rest =>
      have hc : c.isAsciiDigit = false := by
        refine Bool.eq_false_iff.mpr fun hd => ?_
        rw [startsIdent_digit hd] at h
        cases h
      simp [takeDigits,hc]
  have hnumber : takeNumber? (.char '.' :: rest) = none := by
    have hsign : takeSign (.char '.' :: rest) = ([],.char '.' :: rest) := rfl
    have hwhole : takeDigits (.char '.' :: rest) = ([],.char '.' :: rest) := rfl
    simp [takeNumber?,hsign,hwhole,takeFraction,hdigits]
  rw [next_eq_nextMark rfl (startsUnicodeRange_of_ne (by decide) (by decide) rest) rfl hnumber
    (by decide)]
  exact nextMark_alone (by decide) rfl rest

theorem kinds_point {rest : Text} (h : startsIdent rest = true) :
    kinds (.char '.' :: rest) = .leaf (.literal ".") :: kinds rest := by
  rw [kinds_cons,next_point h]
  rfl

theorem next_blank {c : CodePoint} {blank rest : Text} (h : ∀ d ∈ c :: blank, isSpace d = true)
    (hr : ∀ d ∈ rest.head?, isSpace d = false) :
    next c (blank ++ rest) = (some (.leaf (.whitespace (c :: blank))),rest) := by
  have hblank : ∀ d ∈ blank, isSpace d = true := fun d hd => h d (List.mem_cons_of_mem _ hd)
  have htake : (blank ++ rest).takeWhile isSpace = blank := by
    rw [List.takeWhile_append_of_pos hblank]
    cases rest with
    | nil => simp
    | cons d rest => simp [hr d rfl]
  have hdrop : skipSpace (blank ++ rest) = rest := by
    rw [skipSpace,List.dropWhile_append_of_pos hblank]
    cases rest with
    | nil => rfl
    | cons d rest => simp [hr d rfl]
  rw [next,if_pos (h c List.mem_cons_self),htake,hdrop]

theorem kinds_blank {blank rest : Text} (hne : blank ≠ []) (h : ∀ c ∈ blank, isSpace c = true)
    (hr : ∀ c ∈ rest.head?, isSpace c = false) :
    kinds (blank ++ rest) = .leaf (.whitespace blank) :: kinds rest := by
  obtain ⟨c,blank,rfl⟩ := List.exists_cons_of_ne_nil hne
  rw [List.cons_append,kinds_cons,next_blank h hr]
  rfl

/-- A comment ends where it is first closed. -/
theorem skipComment_append {comment : Text} (h : Text.occursIn "*/" comment = false)
    (rest : Text) : skipComment (comment ++ .char '*' :: .char '/' :: rest) = rest := by
  induction comment with
  | nil => rfl
  | cons c comment ih =>
    rw [Text.occursIn,Bool.or_eq_false_iff] at h
    rw [List.cons_append,skipComment,ih h.2]
    rintro tail rfl ht
    cases comment with
    | nil => cases ht
    | cons d comment =>
      cases ht
      exact absurd h.1 (by simp [Text.ofString])

theorem kinds_comment {comment : Text} (h : Text.occursIn "*/" comment = false) (rest : Text) :
    kinds (.char '/' :: .char '*' :: (comment ++ .char '*' :: .char '/' :: rest)) = kinds rest := by
  have hnext : next (.char '/') (.char '*' :: (comment ++ .char '*' :: .char '/' :: rest)) =
      (none,rest) := by
    rw [next_eq_nextMark rfl rfl rfl rfl (by decide),nextMark]
    simp [bracket?,skipComment_append h]
  rw [kinds_cons,hnext]
  rfl

end StyleLift.Css
