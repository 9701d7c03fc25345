import StyleLift.Proofs.Css.Lexing

/-! # What a reader leaves

Every reader of a piece of text leaves an end of the text. A lexeme that is a mark, a run of blanks
or a name says what was read: its own text, or all of the name.
-/
namespace StyleLift.Css

/-! ## Ends of the text -/

theorem dropSpace_suffix (s : Text) : dropSpace s <:+ s := by
  cases s with
  | nil => exact List.suffix_refl _
  | cons c s =>
    rw [dropSpace]
    split
    · exact List.suffix_cons c s
    · exact List.suffix_refl _

theorem skipSpace_suffix (s : Text) : skipSpace s <:+ s := List.dropWhile_suffix _

theorem takeEscape_suffix (s : Text) : (takeEscape s).2 <:+ s := by
  unfold takeEscape
  split
  · cases s with
    | nil => exact List.suffix_refl _
    | cons c s => exact List.suffix_cons c s
  · exact (dropSpace_suffix _).trans (List.drop_suffix _ s)

theorem takeName_suffix (s : Text) : (takeName s).2 <:+ s := by
  fun_induction takeName s with
  | case1 => exact List.suffix_refl _
  | case2 c rest _ name after h ih =>
    rw [h] at ih
    exact ih.trans (List.suffix_cons c rest)
  | case3 c rest _ _ name after h ih =>
    rw [h] at ih
    exact (ih.trans (takeEscape_suffix rest)).trans (List.suffix_cons c rest)
  | case4 c rest => exact List.suffix_refl _

/-- Each code point of a name is read from at least one. -/
theorem takeName_length_le (s : Text) :
    (takeName s).1.length + (takeName s).2.length ≤ s.length := by
  fun_induction takeName s with
  | case1 => exact Nat.le_refl _
  | case2 c rest _ name after h ih =>
    rw [h] at ih
    simp only [List.length_cons] at ih ⊢
    omega
  | case3 c rest _ _ name after h ih =>
    have hescape := takeEscape_length rest
    rw [h] at ih
    simp only [List.length_cons] at ih ⊢
    omega
  | case4 c rest => simp

theorem takeString_suffix (quote : CodePoint) (s : Text) : (takeString quote s).2 <:+ s := by
  fun_induction takeString quote s with
  | case1 => exact List.suffix_refl _
  | case2 rest => exact List.suffix_cons _ rest
  | case3 rest => exact List.suffix_refl _
  | case4 => exact List.nil_suffix
  | case5 rest _ _ ih => exact ih.trans ((List.suffix_cons _ rest).trans (List.suffix_cons _ _))
  | case6 d rest _ found after h _ _ ih =>
    rw [h] at ih
    exact (ih.trans (takeEscape_suffix (d :: rest))).trans (List.suffix_cons _ _)
  | case7 c rest _ _ _ found after h ih =>
    rw [h] at ih
    exact ih.trans (List.suffix_cons c rest)

theorem skipBadUrl_suffix (s : Text) : skipBadUrl s <:+ s := by
  fun_induction skipBadUrl s with
  | case1 => exact List.suffix_refl _
  | case2 rest ih => exact ih.trans ((List.suffix_cons _ rest).trans (List.suffix_cons _ _))
  | case3 rest => exact List.suffix_cons _ rest
  | case4 c rest _ _ ih => exact ih.trans (List.suffix_cons c rest)

theorem closeUrl_suffix (s : Text) : (closeUrl s).2 <:+ s := by
  have h := skipSpace_suffix s
  unfold closeUrl
  split
  · exact List.nil_suffix
  · next rest e =>
    rw [e] at h
    exact (List.suffix_cons _ rest).trans h
  · exact (skipBadUrl_suffix _).trans h

theorem takeUrl_suffix (s : Text) : (takeUrl s).2 <:+ s := by
  fun_induction takeUrl s with
  | case1 => exact List.suffix_refl _
  | case2 rest => exact List.suffix_cons _ rest
  | case3 c rest _ _ closed after h =>
    have hclose := closeUrl_suffix rest
    rw [h] at hclose
    exact hclose.trans (List.suffix_cons c rest)
  | case4 c rest _ _ _ found after h ih =>
    rw [h] at ih
    exact (ih.trans (takeEscape_suffix rest)).trans (List.suffix_cons c rest)
  | case5 c rest => exact (skipBadUrl_suffix rest).trans (List.suffix_cons c rest)
  | case6 c rest _ _ _ _ found after h ih =>
    rw [h] at ih
    exact ih.trans (List.suffix_cons c rest)

theorem skipComment_suffix (s : Text) : skipComment s <:+ s := by
  fun_induction skipComment s with
  | case1 => exact List.suffix_refl _
  | case2 rest => exact (List.suffix_cons _ rest).trans (List.suffix_cons _ _)
  | case3 c rest _ ih => exact ih.trans (List.suffix_cons c rest)

theorem takeDigits_suffix (s : Text) : (takeDigits s).2 <:+ s := List.dropWhile_suffix _

theorem takeSign_suffix (s : Text) : (takeSign s).2 <:+ s := by
  cases s with
  | nil => exact List.suffix_refl _
  | cons c s =>
    rw [takeSign]
    split
    · exact List.suffix_cons c s
    · exact List.suffix_refl _

theorem takeFraction_suffix (s : Text) : (takeFraction s).2 <:+ s := by
  cases s with
  | nil => exact List.suffix_refl _
  | cons c s =>
    simp only [takeFraction]
    split
    · exact (takeDigits_suffix s).trans (List.suffix_cons c s)
    · exact List.suffix_refl _

theorem takeExponent_suffix (s : Text) : (takeExponent s).2 <:+ s := by
  cases s with
  | nil => exact List.suffix_refl _
  | cons c s =>
    simp only [takeExponent]
    split
    · exact ((takeDigits_suffix _).trans (takeSign_suffix s)).trans (List.suffix_cons c s)
    · exact List.suffix_refl _

/-- A number leaves an end of what follows its first code point. -/
theorem takeNumber?_suffix {s source left : Text} (h : takeNumber? s = some (source,left)) :
    left <:+ s := by
  simp only [takeNumber?,Option.ite_none_left_eq_some] at h
  obtain ⟨-,h⟩ := h
  cases h
  exact (takeExponent_suffix _).trans ((takeFraction_suffix _).trans
    ((takeDigits_suffix _).trans (takeSign_suffix s)))

theorem takeUnicodeRange_suffix (s : Text) : (takeUnicodeRange s).2 <:+ s := by
  have hdrop : ∀ n, s.drop n <:+ s := fun n => List.drop_suffix n s
  simp only [takeUnicodeRange]
  split
  · exact (List.drop_suffix _ _).trans (hdrop _)
  · split
    · next tail e =>
      split
      · exact hdrop _
      · have htail : tail <:+ s := (List.suffix_cons _ tail).trans (e ▸ hdrop _)
        exact (List.drop_suffix _ _).trans htail
    · exact hdrop _

theorem nextIdent_suffix (s : Text) : (nextIdent s).2 <:+ (takeName s).2 := by
  unfold nextIdent
  dsimp only
  split
  · next inner e =>
    rw [e]
    have hinner := List.suffix_cons (.char '(') inner
    split
    · split
      · exact hinner
      · exact hinner
      · have hurl := (takeUrl_suffix (skipSpace inner)).trans (skipSpace_suffix inner)
        split <;> next hf => rw [hf] at hurl; exact hurl.trans hinner
    · exact hinner
  · exact List.suffix_refl _

theorem nextNumber_suffix (source rest : Text) : (nextNumber source rest).2 <:+ rest := by
  unfold nextNumber
  split
  · exact takeName_suffix rest
  · split
    · exact List.suffix_cons _ _
    · exact List.suffix_refl _

theorem nextMark_suffix (c : CodePoint) (rest : Text) : (nextMark c rest).2 <:+ rest := by
  unfold nextMark literal
  split
  · exact List.suffix_refl _
  · split
    · next tail _ => exact (skipComment_suffix tail).trans (List.suffix_cons _ tail)
    · next tail _ => exact List.suffix_append [.char '!',.char '-',.char '-'] tail
    · exact List.suffix_cons _ _
    · split
      · exact List.suffix_cons _ _
      · exact List.suffix_refl _
    · exact List.suffix_refl _

/-- A step leaves an end of what follows its first code point. -/
theorem next_suffix (c : CodePoint) (rest : Text) : (next c rest).2 <:+ rest := by
  have hsuffix : (next c rest).2 <:+ c :: rest := by
    have hrest := List.suffix_cons c rest
    unfold next
    split
    · exact (skipSpace_suffix rest).trans hrest
    split
    · exact ((takeUnicodeRange_suffix _).trans (List.drop_suffix 1 rest)).trans hrest
    split
    · exact (List.drop_suffix 2 rest).trans hrest
    split
    · exact (nextIdent_suffix _).trans (takeName_suffix _)
    split
    · next h => exact (nextNumber_suffix _ _).trans (takeNumber?_suffix h)
    split
    · split
      · exact (takeName_suffix rest).trans hrest
      · exact hrest
    split
    · split
      · exact (takeName_suffix rest).trans hrest
      · exact hrest
    split
    · have h := (takeString_suffix c rest).trans hrest
      split <;> next e => rw [e] at h; exact h
    · exact (nextMark_suffix c rest).trans hrest
  have hlength := next_length c rest
  exact List.suffix_of_suffix_length_le hsuffix (List.suffix_cons c rest) hlength

/-! ## Case by case -/

def isQuote (c : CodePoint) : Bool := c == .char '"' || c == .char '\''

/-- The lexeme of a string, which may be broken. -/
def stringLexeme : Option (Text × Bool) → Lexeme
  | some (value,closed) => .leaf (.string value closed)
  | none => .leaf .badString

/-- The step at a text that starts no name, number, range or blank. -/
def markStep (c : CodePoint) (s : Text) : Step :=
  if c = .char '@' then
    if startsIdent s then (some (.leaf (.atKeyword (takeName s).1)),(takeName s).2)
    else literal [c] s
  else if c = .char '#' then
    if startsName s then (some (.leaf (.hash (takeName s).1 (startsIdent s))),(takeName s).2)
    else literal [c] s
  else if isQuote c then
    (some (stringLexeme (takeString c s).1),(takeString c s).2)
  else nextMark c s

section Step

variable {c : CodePoint} {s : Text} (hspace : isSpace c = false)
variable (hrange : startsUnicodeRange c s = false)
variable (harrow : ¬(c = .char '-' ∧ Text.startsWith s "->" = true))

include hspace

theorem next_range (h : startsUnicodeRange c s = true) : next c s =
    (some (.leaf (.unicodeRange (takeUnicodeRange (s.drop 1)).1.1
      (takeUnicodeRange (s.drop 1)).1.2)),(takeUnicodeRange (s.drop 1)).2) := by
  rw [next,if_neg (by simp [hspace]),if_pos h]

include hrange

theorem next_arrow (h : c = .char '-' ∧ Text.startsWith s "->" = true) :
    next c s = literal "-->" (s.drop 2) := by
  rw [next,if_neg (by simp [hspace]),if_neg (by simp [hrange]),if_pos h]

include harrow

theorem next_name (h : startsIdent (c :: s) = true) : next c s = nextIdent (c :: s) := by
  rw [next,if_neg (by simp [hspace]),if_neg (by simp [hrange]),if_neg harrow,if_pos h]

theorem next_markStep (hident : startsIdent (c :: s) = false)
    (hnumber : takeNumber? (c :: s) = none) : next c s = markStep c s := by
  rw [next,if_neg (by simp [hspace]),if_neg (by simp [hrange]),if_neg harrow,
    if_neg (by simp [hident]),hnumber]
  have hquote : (c = .char '"' ∨ c = .char '\'') ↔ isQuote c = true := by simp [isQuote]
  simp only [markStep,hquote]
  rcases takeString c s with ⟨_ | ⟨value,closed⟩,after⟩ <;> rfl

end Step

/-! ## What was read -/

/-- The literals of two code points and more. -/
def longLiterals : List Text := ["<!--","-->","||","~=","|=","^=","$=","*="]

/-- What the lexeme at the start of a text says of what was read up to `after`. -/
def Lexeme.Spells (s after : Text) : Lexeme → Prop
  | .leaf (.whitespace source) => (∀ c ∈ source, isSpace c = true) ∧ s = source ++ after
  | .leaf (.literal source) => s = source ++ after ∧ (source.length = 1 ∨ source ∈ longLiterals)
  | .leaf (.ident name) => startsIdent s = true ∧ takeName s = (name,after)
  | .leaf (.stray _) => False
  | .closing _ => ∃ c, s = c :: after
  | _ => True

theorem literal_spells {source s after : Text} {l : Lexeme} (hs : s = source ++ after)
    (hm : source.length = 1 ∨ source ∈ longLiterals) (h : (literal source after).1 = some l) :
    l.Spells s (literal source after).2 := by
  cases h
  exact ⟨hs,hm⟩

theorem nextIdent_spells {s : Text} {l : Lexeme} (hs : startsIdent s = true)
    (h : (nextIdent s).1 = some l) : l.Spells s (nextIdent s).2 := by
  unfold nextIdent at h ⊢
  dsimp only at h ⊢
  split at h
  · split at h
    · split at h
      · cases h; trivial
      · cases h; trivial
      · split at h <;> (cases h; trivial)
    · cases h; trivial
  · cases h
    exact ⟨hs,rfl⟩

theorem nextNumber_spells {source rest s : Text} {l : Lexeme}
    (h : (nextNumber source rest).1 = some l) : l.Spells s (nextNumber source rest).2 := by
  unfold nextNumber at h
  split at h
  · cases h; trivial
  · split at h <;> (cases h; trivial)

theorem bracket?_spells {c : CodePoint} {rest : Text} {l : Lexeme} (h : bracket? c = some l) :
    l.Spells (c :: rest) rest := by
  unfold bracket? at h
  repeat' split at h
  all_goals first
    | (cases h; trivial)
    | (cases h; exact ⟨c,rfl⟩)
    | cases h

theorem nextMark_spells {c : CodePoint} {rest : Text} {l : Lexeme}
    (h : (nextMark c rest).1 = some l) : l.Spells (c :: rest) (nextMark c rest).2 := by
  unfold nextMark at h ⊢
  cases hb : bracket? c with
  | some b =>
    rw [hb] at h
    cases h
    exact bracket?_spells hb
  | none =>
    rw [hb] at h
    dsimp only at h ⊢
    split at h
    · cases h
    · exact literal_spells rfl (.inr (by decide)) h
    · exact literal_spells rfl (.inr (by decide)) h
    · split at h
      · next c tail he =>
        rw [if_pos he]
        refine literal_spells rfl (.inr ?_) h
        simp only [takesEquals,Bool.or_eq_true,beq_iff_eq] at he
        obtain (((rfl | rfl) | rfl) | rfl) | rfl := he <;> decide
      · next he =>
        rw [if_neg he]
        exact literal_spells rfl (.inl rfl) h
    · exact literal_spells rfl (.inl rfl) h

theorem markStep_spells {c : CodePoint} {rest : Text} {l : Lexeme}
    (h : (markStep c rest).1 = some l) : l.Spells (c :: rest) (markStep c rest).2 := by
  have hliteral : ∀ l, (literal [c] rest).1 = some l → l.Spells (c :: rest) (literal [c] rest).2 :=
    fun l hl => literal_spells rfl (.inl rfl) hl
  by_cases hat : c = .char '@'
  · cases hs : startsIdent rest with
    | true =>
      rw [markStep,if_pos hat,if_pos hs] at h
      cases h
      trivial
    | false =>
      rw [markStep,if_pos hat,if_neg (by simp [hs])] at h ⊢
      exact hliteral l h
  by_cases hhash : c = .char '#'
  · cases hs : startsName rest with
    | true =>
      rw [markStep,if_neg hat,if_pos hhash,if_pos hs] at h
      cases h
      trivial
    | false =>
      rw [markStep,if_neg hat,if_pos hhash,if_neg (by simp [hs])] at h ⊢
      exact hliteral l h
  cases hquote : isQuote c with
  | true =>
    rw [markStep,if_neg hat,if_neg hhash,if_pos hquote] at h
    cases h
    cases (takeString c rest).1 <;> trivial
  | false =>
    rw [markStep,if_neg hat,if_neg hhash,if_neg (by simp [hquote])] at h ⊢
    exact nextMark_spells h

/-- What one step says of the text that it read. -/
theorem next_spells {c : CodePoint} {rest : Text} {l : Lexeme} (h : (next c rest).1 = some l) :
    l.Spells (c :: rest) (next c rest).2 := by
  cases hs : isSpace c with
  | true =>
    rw [next,if_pos hs] at h ⊢
    cases h
    refine ⟨fun d hd => ?_,by simp [skipSpace]⟩
    rcases List.mem_cons.mp hd with rfl | hd
    · exact hs
    · exact List.all_eq_true.mp List.all_takeWhile d hd
  | false =>
  cases hrange : startsUnicodeRange c rest with
  | true =>
    rw [next_range hs hrange] at h
    cases h
    trivial
  | false =>
  by_cases harrow : c = .char '-' ∧ Text.startsWith rest "->" = true
  · obtain ⟨rfl,hw⟩ := harrow
    obtain ⟨tail,rfl⟩ := List.isPrefixOf_iff_prefix.mp hw
    rw [next_arrow hs hrange ⟨rfl,hw⟩] at h ⊢
    exact literal_spells rfl (.inr (by decide)) h
  cases hident : startsIdent (c :: rest) with
  | true =>
    rw [next_name hs hrange harrow hident] at h ⊢
    exact nextIdent_spells hident h
  | false =>
  cases hnumber : takeNumber? (c :: rest) with
  | some number =>
    rw [next_number hs hrange harrow hident hnumber] at h ⊢
    exact nextNumber_spells h
  | none =>
    rw [next_markStep hs hrange harrow hident hnumber] at h ⊢
    exact markStep_spells h

/-! ## Comments -/

/-- A comment ends after its mark or with the text. -/
theorem skipComment_end (s : Text) :
    skipComment s = [] ∨ ∃ inner, s = inner ++ .char '*' :: .char '/' :: skipComment s := by
  fun_induction skipComment s with
  | case1 => exact .inl rfl
  | case2 rest => exact .inr ⟨[],rfl⟩
  | case3 c rest _ ih =>
    rcases ih with h | ⟨inner,h⟩
    · exact .inl h
    · exact .inr ⟨c :: inner,by rw [List.cons_append,← h]⟩

theorem nextIdent_ne_none (s : Text) : (nextIdent s).1 ≠ none := by
  unfold nextIdent
  dsimp only
  split
  · split
    · split
      · simp
      · simp
      · split <;> simp
    · simp
  · simp

theorem nextNumber_ne_none (source rest : Text) : (nextNumber source rest).1 ≠ none := by
  unfold nextNumber
  split
  · simp
  · split <;> simp

theorem nextMark_none {c : CodePoint} {rest : Text} (h : (nextMark c rest).1 = none) :
    ∃ tail, c = .char '/' ∧ rest = .char '*' :: tail ∧ (nextMark c rest).2 = skipComment tail := by
  unfold nextMark at h ⊢
  cases hb : bracket? c with
  | some b =>
    rw [hb] at h
    cases h
  | none =>
    rw [hb] at h
    dsimp only at h ⊢
    split at h
    · exact ⟨_,rfl,rfl,rfl⟩
    · cases h
    · cases h
    · split at h <;> cases h
    · cases h

theorem markStep_none {c : CodePoint} {rest : Text} (h : (markStep c rest).1 = none) :
    ∃ tail, c = .char '/' ∧ rest = .char '*' :: tail ∧ (markStep c rest).2 = skipComment tail := by
  unfold markStep at h ⊢
  split at h
  · split at h <;> cases h
  split at h
  · split at h <;> cases h
  split at h
  · cases h
  · next hat hhash hquote =>
    rw [if_neg hat,if_neg hhash,if_neg hquote]
    exact nextMark_none h

/-- Only a comment makes no lexeme. -/
theorem next_none {c : CodePoint} {rest : Text} (h : (next c rest).1 = none) :
    ∃ tail, c = .char '/' ∧ rest = .char '*' :: tail ∧ (next c rest).2 = skipComment tail := by
  cases hs : isSpace c with
  | true =>
    rw [next,if_pos hs] at h
    cases h
  | false =>
  cases hrange : startsUnicodeRange c rest with
  | true =>
    rw [next_range hs hrange] at h
    cases h
  | false =>
  by_cases harrow : c = .char '-' ∧ Text.startsWith rest "->" = true
  · rw [next_arrow hs hrange harrow] at h
    cases h
  cases hident : startsIdent (c :: rest) with
  | true =>
    rw [next_name hs hrange harrow hident] at h
    exact (nextIdent_ne_none _ h).elim
  | false =>
  cases hnumber : takeNumber? (c :: rest) with
  | some number =>
    rw [next_number hs hrange harrow hident hnumber] at h
    exact (nextNumber_ne_none _ _ h).elim
  | none =>
    rw [next_markStep hs hrange harrow hident hnumber] at h ⊢
    exact markStep_none h

end StyleLift.Css
