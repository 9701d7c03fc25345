import StyleLift.Proofs.Css.Written

/-! # The tokens of a written sheet

Each part of a tree has its tokens, and the lexemes of its text are those of its tokens, whatever
text it stands before, as long as names and gaps end where they should.
-/
namespace StyleLift.Css.Written

/-! ## Ends -/

def isEnd (c : CodePoint) : Bool :=
  isGap c || c == .char ':' || c == .char ';' || c == .char ')' || c == .char '\x7b' ||
    c == .char '\x7d'

/-- A text that a name does not run on into. -/
def ends : Text → Bool
  | [] => false
  | c :: _ => isEnd c

/-- A text that a gap does not run on into. -/
def solid : Text → Bool
  | [] => true
  | c :: _ => !isGap c

theorem isGap_cases {c : CodePoint} (h : isGap c = true) :
    c = .char ' ' ∨ c = .char '\n' ∨ c = .char '\t' ∨ c = .char '\r' ∨ c = .char '\x0c' := by
  simpa [isGap,isSpace,or_assoc] using h

theorem endsName_of_ends {s : Text} (h : ends s = true) : endsName (preprocess s) = true := by
  cases s with
  | nil => cases h
  | cons c s =>
    obtain ⟨t,ht⟩ := preprocess_eq_settle_cons c s
    rw [ht]
    simp only [ends,isEnd,Bool.or_eq_true,beq_iff_eq] at h
    obtain (((((h | rfl) | rfl) | rfl) | rfl) | rfl) := h
    · obtain rfl | rfl | rfl | rfl | rfl := isGap_cases h <;> rfl
    all_goals rfl

theorem not_isSpace_of_solid {s : Text} (h : solid s = true) :
    ∀ c ∈ (preprocess s).head?, isSpace c = false := by
  cases s with
  | nil =>
    intro c hc
    cases hc
  | cons c s =>
    obtain ⟨t,ht⟩ := preprocess_eq_settle_cons c s
    intro d hd
    rw [ht] at hd
    cases hd
    simp only [solid,isGap,Bool.not_eq_true',Bool.or_eq_false_iff,beq_eq_false_iff_ne] at h
    unfold settle
    split
    · rfl
    · simp [h]

theorem isSpace_preprocess {s : Text} (h : ∀ c ∈ s, isGap c = true) :
    ∀ c ∈ preprocess s, isSpace c = true := by
  fun_induction preprocess s with
  | case1 =>
    intro c hc
    cases hc
  | case2 rest ih =>
    intro c hc
    rcases List.mem_cons.mp hc with rfl | hc
    · rfl
    · exact ih (fun d hd => h d (by simp [hd])) c hc
  | case3 c rest hne ih =>
    intro d hd
    rcases List.mem_cons.mp hd with rfl | hd
    · obtain rfl | rfl | rfl | rfl | rfl := isGap_cases (h c List.mem_cons_self) <;> rfl
    · exact ih (fun e he => h e (List.mem_cons_of_mem _ he)) d hd

/-! ## Lexemes of the parts -/

theorem lexed_mark {c : CodePoint} (h : isLoneMark c = true) (rest : Text) :
    lexed (c :: rest) = markLexeme c :: lexed rest := by
  have hsettled : ∀ d ∈ [c], isSettled d = true := by
    intro d hd
    rw [List.mem_singleton.mp hd]
    simp only [isLoneMark,Bool.or_eq_true,beq_iff_eq] at h
    obtain ((((((rfl | rfl) | rfl) | rfl) | rfl) | rfl) | rfl) := h <;> rfl
  have hp : preprocess (c :: rest) = c :: preprocess rest :=
    preprocess_settled_append hsettled rest
  rw [lexed,hp,kinds_mark h,lexed]

theorem isSettled_of_isNamePart {c : CodePoint} (h : isNamePart c = true) :
    isSettled c = true := by
  simp only [isSettled,Bool.and_eq_true,bne_iff_ne,ne_eq]
  refine ⟨⟨?_,?_⟩,?_⟩ <;> rintro rfl <;> exact absurd h (by decide)

namespace Name

variable (n : Name)

theorem isNamePart_of_mem : ∀ c ∈ n.text, isNamePart c = true := by
  intro c hc
  have h := n.plain c hc
  simp only [isPlain,Bool.or_eq_true] at h
  simp only [isNamePart,isNameStart,Bool.or_eq_true]
  obtain ((h | h) | h) | h := h <;> simp [h]

theorem ne_nil : n.text ≠ [] := by
  intro h
  exact absurd n.starts (by simp [h,startsIdent])

theorem startsIdent_append (rest : Text) : startsIdent (n.text ++ rest) = true :=
  Css.startsIdent_append n.isNamePart_of_mem n.starts rest

theorem preprocess_append (rest : Text) : preprocess (n.text ++ rest) = n.text ++ preprocess rest :=
  preprocess_settled_append (fun c hc => isSettled_of_isNamePart (n.isNamePart_of_mem c hc)) rest

theorem solid_append (rest : Text) : solid (n.text ++ rest) = true := by
  obtain ⟨c,tail,h⟩ := List.exists_cons_of_ne_nil n.ne_nil
  have hc := n.plain c (by simp [h])
  rw [h,List.cons_append,solid,Bool.not_eq_true']
  refine Bool.eq_false_iff.mpr fun hg => ?_
  obtain rfl | rfl | rfl | rfl | rfl := isGap_cases hg <;> exact absurd hc (by decide)

theorem lexed_append {rest : Text} (h : ends rest = true) :
    lexed (n.text ++ rest) = .leaf (.ident n.text) :: lexed rest := by
  rw [lexed,n.preprocess_append,kinds_ident n.ne_nil n.isNamePart_of_mem (n.startsIdent_append _)
    (endsName_of_ends h),lexed]

theorem lexed_point {rest : Text} (h : ends rest = true) :
    lexed (.char '.' :: (n.text ++ rest)) =
      .leaf (.literal ".") :: .leaf (.ident n.text) :: lexed rest := by
  have hp : preprocess (.char '.' :: (n.text ++ rest)) =
      .char '.' :: (n.text ++ preprocess rest) := by
    rw [preprocess_cons (by decide),n.preprocess_append]
    rfl
  rw [lexed,hp,kinds_point (n.startsIdent_append _),← n.lexed_append h,lexed,n.preprocess_append]

theorem lexed_atKeyword {rest : Text} (h : stopsName (preprocess rest) = true) :
    lexed (.char '@' :: (n.text ++ rest)) = .leaf (.atKeyword n.text) :: lexed rest := by
  have hp : preprocess (.char '@' :: (n.text ++ rest)) =
      .char '@' :: (n.text ++ preprocess rest) := by
    rw [preprocess_cons (by decide),n.preprocess_append]
    rfl
  rw [lexed,hp,kinds_atKeyword n.isNamePart_of_mem (n.startsIdent_append _) h,lexed]

end Name

theorem preprocess_ne_nil {s : Text} (h : s ≠ []) : preprocess s ≠ [] := by
  obtain ⟨c,tail,rfl⟩ := List.exists_cons_of_ne_nil h
  obtain ⟨t,ht⟩ := preprocess_eq_settle_cons c tail
  simp [ht]

def Gap.tokens (g : Gap) : List Token :=
  if g.text = [] then [] else [.leaf [] (.whitespace (preprocess g.text))]

theorem Gap.lexed_append (g : Gap) {rest : Text} (h : solid rest = true) :
    lexed (g.text ++ rest) = flatAll g.tokens ++ lexed rest := by
  unfold Gap.tokens
  split
  · next hg =>
    rw [hg]
    rfl
  · next hg =>
    have hline : ∀ tail, rest ≠ .char '\n' :: tail := by
      rintro tail rfl
      cases h
    rw [lexed,preprocess_append hline,kinds_blank (preprocess_ne_nil hg) (isSpace_preprocess g.gap)
      (not_isSpace_of_solid h)]
    rfl

/-! ## Words and entries -/

def space : Token := .leaf [] (.whitespace [.char ' '])

def mark (c : CodePoint) : Token := .leaf [] (.literal [c])

theorem lexed_space {rest : Text} (h : solid rest = true) :
    lexed (.char ' ' :: rest) = .leaf (.whitespace [.char ' ']) :: lexed rest :=
  Gap.lexed_append ⟨[.char ' '],by decide⟩ h

def Word.token : Word → Token
  | .name n => .leaf [] (.ident n.text)
  | .pixels p => .leaf [] (.dimension p.source "px")

theorem Pixels.isSettled_of_mem (p : Pixels) : ∀ c ∈ p.source ++ [.char 'p',.char 'x'],
    isSettled c = true := by
  intro c hc
  have hsign : ∀ d ∈ signOf p.negative, isSettled d = true := by cases p.negative <;> decide
  rcases List.mem_append.mp hc with hc | hc
  · rcases List.mem_append.mp hc with hc | hc
    · exact hsign c hc
    · exact isSettled_of_isNamePart (isNamePart_of_isAsciiDigit (p.digit c hc))
  · exact (by decide : ∀ d ∈ [CodePoint.char 'p',.char 'x'], isSettled d = true) c hc

namespace Word

variable (w : Word)

theorem solid_append (rest : Text) : solid (w.text ++ rest) = true := by
  cases w with
  | name n => exact n.solid_append rest
  | pixels p =>
    obtain ⟨d,digits,h⟩ := List.exists_cons_of_ne_nil p.some
    have hd := p.digit d (by simp [h])
    cases hn : p.negative with
    | true => simp [text,Pixels.source,signOf,hn,solid,isGap,isSpace]
    | false =>
      rw [text,Pixels.source,hn,h]
      change (!isGap d) = true
      rw [Bool.not_eq_true']
      refine Bool.eq_false_iff.mpr fun hg => ?_
      obtain rfl | rfl | rfl | rfl | rfl := isGap_cases hg <;> exact absurd hd (by decide)

theorem lexed_append {rest : Text} (h : ends rest = true) :
    lexed (w.text ++ rest) = flatAll [w.token] ++ lexed rest := by
  cases w with
  | name n => exact n.lexed_append h
  | pixels p =>
    rw [lexed,text,preprocess_settled_append p.isSettled_of_mem,Pixels.source,List.append_assoc,
      List.append_assoc]
    exact kinds_pixels p.negative p.some p.digit (stopsName_of_endsName (endsName_of_ends h))

end Word

def wordTokens (others : List Word) : List Token := others.flatMap fun w => [space,w.token]

def wordsText (others : List Word) : Text := (others.map Word.text).flatMap fun w => .char ' ' :: w

theorem ends_wordsText (others : List Word) {rest : Text} (h : ends rest = true) :
    ends (wordsText others ++ rest) = true := by
  cases others with
  | nil => exact h
  | cons w others => rfl

theorem lexed_wordsText (others : List Word) {rest : Text} (h : ends rest = true) :
    lexed (wordsText others ++ rest) = flatAll (wordTokens others) ++ lexed rest := by
  induction others with
  | nil => rfl
  | cons w others ih =>
    have hw : wordsText (w :: others) ++ rest =
        .char ' ' :: (w.text ++ (wordsText others ++ rest)) := by simp [wordsText]
    have ht : wordTokens (w :: others) = space :: w.token :: wordTokens others := rfl
    rw [hw,lexed_space (w.solid_append _),w.lexed_append (ends_wordsText others h),ih,ht]
    simp [flatAll,space,Token.flat]

def important : Name := ⟨"important",by decide,by decide⟩

def importanceTokens (important : Bool) : List Token :=
  if important then [space,mark '!',.leaf [] (.ident "important")] else []

theorem ends_importance (i : Bool) {rest : Text} (h : ends rest = true) :
    ends (importance i ++ rest) = true := by
  cases i with
  | true => rfl
  | false => exact h

theorem lexed_importance (i : Bool) {rest : Text} (h : ends rest = true) :
    lexed (importance i ++ rest) = flatAll (importanceTokens i) ++ lexed rest := by
  cases i with
  | false => rfl
  | true =>
    change lexed (.char ' ' :: .char '!' :: (important.text ++ rest)) = _
    rw [lexed_space rfl,lexed_mark rfl,important.lexed_append h]
    rfl

namespace Entry

variable (e : Entry)

def tokens : List Token :=
  .leaf [] (.ident e.property.text) :: mark ':' :: space :: e.first.token ::
    (wordTokens e.others ++ importanceTokens e.important)

theorem text_append (rest : Text) : e.text ++ rest =
    e.property.text ++ .char ':' :: .char ' ' ::
      (e.first.text ++ (wordsText e.others ++ (importance e.important ++ rest))) := by
  simp [text,value,spaced,wordsText]

theorem solid_append (rest : Text) : solid (e.text ++ rest) = true := by
  rw [text_append]
  exact e.property.solid_append _

theorem lexed_append {rest : Text} (h : ends rest = true) :
    lexed (e.text ++ rest) = flatAll e.tokens ++ lexed rest := by
  have himportance := ends_importance e.important h
  rw [text_append,e.property.lexed_append rfl,lexed_mark rfl,lexed_space (e.first.solid_append _),
    e.first.lexed_append (ends_wordsText e.others himportance),lexed_wordsText _ himportance,
    lexed_importance _ h]
  simp [tokens,flatAll,Token.flat,mark,space,markLexeme,bracket?]

end Entry

/-! ## Bodies -/

theorem Gap.ends_append (g : Gap) {rest : Text} (h : ends rest = true) :
    ends (g.text ++ rest) = true := by
  cases hg : g.text with
  | nil => exact h
  | cons c tail =>
    have hc := g.gap c (by simp [hg])
    simp [ends,isEnd,hc]

theorem Break.ends_append (b : Break) (rest : Text) : ends (b.text ++ rest) = true := by
  obtain ⟨c,tail,hb⟩ := List.exists_cons_of_ne_nil b.parts
  have hc := b.gap c (by simp [hb])
  simp [hb,ends,isEnd,hc]

def endedTokens (p : Gap × Entry × Gap) : List Token :=
  p.1.tokens ++ (p.2.1.tokens ++ (p.2.2.tokens ++ [mark ';']))

theorem lexed_endedText (p : Gap × Entry × Gap) (rest : Text) :
    lexed (endedText p ++ rest) = flatAll (endedTokens p) ++ lexed rest := by
  obtain ⟨before,e,after⟩ := p
  have htext : endedText (before,e,after) ++ rest =
      before.text ++ (e.text ++ (after.text ++ .char ';' :: rest)) := by simp [endedText]
  rw [htext,before.lexed_append (e.solid_append _),e.lexed_append (after.ends_append rfl),
    after.lexed_append rfl,lexed_mark rfl]
  simp [endedTokens,flatAll,Token.flat,mark,markLexeme,bracket?]

def lastTokens (p : Gap × Entry) : List Token := p.1.tokens ++ p.2.tokens

namespace Body

variable (b : Body)

def tokens : List Token :=
  b.ended.flatMap endedTokens ++ (b.last.elim [] lastTokens ++ b.after.tokens)

theorem lexed_append {rest : Text} (hs : solid rest = true) (he : ends rest = true) :
    lexed (b.text ++ rest) = flatAll b.tokens ++ lexed rest := by
  obtain ⟨ended,last,after⟩ := b
  have hlast : lexed (last.elim [] lastText ++ (after.text ++ rest)) =
      flatAll (last.elim [] lastTokens ++ after.tokens) ++ lexed rest := by
    cases last with
    | none => exact after.lexed_append hs
    | some p =>
      obtain ⟨before,e⟩ := p
      simp only [Option.elim_some,lastText,lastTokens,List.append_assoc,flatAll_append]
      rw [before.lexed_append (e.solid_append _),e.lexed_append (after.ends_append he),
        after.lexed_append hs]
  simp only [text,tokens,List.append_assoc] at hlast ⊢
  induction ended with
  | nil => exact hlast
  | cons p ended ih =>
    simp only [List.flatMap_cons,List.append_assoc,flatAll_append] at ih ⊢
    rw [lexed_endedText,ih]

end Body

/-! ## Selectors and heads -/

def classTokens (n : Name) : List Token := [mark '.',.leaf [] (.ident n.text)]

def Selector.tokens (s : Selector) : List Token :=
  classTokens s.first ++ s.others.flatMap fun p => p.1.tokens ++ classTokens p.2

theorem Selector.lexed_append (s : Selector) {rest : Text} (h : ends rest = true) :
    lexed (s.text ++ rest) = flatAll s.tokens ++ lexed rest := by
  obtain ⟨first,others⟩ := s
  simp only [text,tokens,List.append_assoc,List.cons_append,flatAll_append]
  induction others generalizing first with
  | nil =>
    simp only [List.flatMap_nil,List.nil_append]
    rw [first.lexed_point h]
    rfl
  | cons p others ih =>
    obtain ⟨gap,n⟩ := p
    simp only [List.flatMap_cons,List.append_assoc,List.cons_append,flatAll_append] at ih ⊢
    rw [first.lexed_point (gap.ends_append _),gap.lexed_append rfl,ih n]
    rfl

theorem Selector.solid_append (s : Selector) (rest : Text) : solid (s.text ++ rest) = true := rfl

def Condition.tokens (c : Condition) : List Token :=
  [.block [] (.bracket .paren) [.leaf [] (.ident c.feature.text),mark ':',space,c.value.token]]

theorem Condition.lexed_append (c : Condition) (rest : Text) :
    lexed (c.text ++ rest) = flatAll c.tokens ++ lexed rest := by
  have htext : c.text ++ rest = .char '(' :: (c.feature.text ++ .char ':' :: .char ' ' ::
      (c.value.text ++ .char ')' :: rest)) := by simp [text]
  rw [htext,lexed_mark rfl,c.feature.lexed_append rfl,lexed_mark rfl,
    lexed_space (c.value.solid_append _),c.value.lexed_append rfl,lexed_mark rfl]
  simp [tokens,flatAll,Token.flat,mark,space,markLexeme,bracket?,Opener.closer]

def Term.tokens : Term → List Token
  | .name n => [.leaf [] (.ident n.text)]
  | .condition c => c.tokens

theorem Term.solid_append (t : Term) (rest : Text) : solid (t.text ++ rest) = true := by
  cases t with
  | name n => exact n.solid_append rest
  | condition c => rfl

theorem Term.lexed_append (t : Term) {rest : Text} (h : ends rest = true) :
    lexed (t.text ++ rest) = flatAll t.tokens ++ lexed rest := by
  cases t with
  | name n => exact n.lexed_append h
  | condition c => exact c.lexed_append rest

def termTokens (p : Break × Term) : List Token := p.1.tokens ++ p.2.tokens

def termText (p : Break × Term) : Text := p.1.text ++ p.2.text

theorem ends_terms (terms : List (Break × Term)) {rest : Text} (h : ends rest = true) :
    ends (terms.flatMap termText ++ rest) = true := by
  cases terms with
  | nil => exact h
  | cons p terms =>
    rw [List.flatMap_cons,termText,List.append_assoc,List.append_assoc]
    exact p.1.ends_append _

theorem lexed_terms (terms : List (Break × Term)) {rest : Text} (h : ends rest = true) :
    lexed (terms.flatMap termText ++ rest) =
      flatAll (terms.flatMap termTokens) ++ lexed rest := by
  induction terms with
  | nil => rfl
  | cons p terms ih =>
    simp only [List.flatMap_cons,termText,termTokens,List.append_assoc,flatAll_append] at ih ⊢
    rw [p.1.lexed_append (p.2.solid_append _),p.2.lexed_append (ends_terms terms h),← ih]

namespace Head

variable (h : Head)

/-- What stands between the keyword of an at-rule and its semicolon or block. -/
def prelude : List Token :=
  h.attached.elim [] Condition.tokens ++ (h.terms.flatMap termTokens ++ h.after.tokens)

def tokens : List Token := .leaf [] (.atKeyword h.keyword.text) :: h.prelude

theorem lexed_append {rest : Text} (hs : solid rest = true) (he : ends rest = true) :
    lexed (h.text ++ rest) = flatAll h.tokens ++ lexed rest := by
  obtain ⟨keyword,attached,terms,after⟩ := h
  have hafter := after.ends_append he
  have hterms := lexed_terms terms hafter
  rw [after.lexed_append hs] at hterms
  have htext : text ⟨keyword,attached,terms,after⟩ ++ rest = .char '@' :: (keyword.text ++
      (attached.elim [] Condition.text ++ (terms.flatMap termText ++ (after.text ++ rest)))) := by
    simp only [text,List.cons_append,List.append_assoc]
    rfl
  rw [htext]
  cases attached with
  | none =>
    have hstop := stopsName_of_endsName (endsName_of_ends (ends_terms terms hafter))
    simp only [Option.elim_none,List.nil_append]
    rw [keyword.lexed_atKeyword hstop,hterms]
    simp [tokens,prelude,flatAll,Token.flat]
  | some c =>
    have hstop : stopsName (preprocess (c.text ++
        (terms.flatMap termText ++ (after.text ++ rest)))) = true := by
      rw [Condition.text,List.cons_append,preprocess_cons (by decide)]
      rfl
    simp only [Option.elim_some]
    rw [keyword.lexed_atKeyword hstop,c.lexed_append,hterms]
    simp [tokens,prelude,flatAll,Token.flat]

end Head

/-! ## Items -/

def curly (content : List Token) : Token := .block [] (.bracket .curly) content

mutual

def Item.tokens : Item → List Token
  | .comment before _ => before.tokens
  | .style before selector gap body =>
    before.tokens ++ (selector.tokens ++ (gap.tokens ++ [curly body.tokens]))
  | .statement before head => before.tokens ++ (head.tokens ++ [mark ';'])
  | .block before head items after =>
    before.tokens ++ (head.tokens ++ [curly (itemsTokens items ++ after.tokens)])

def itemsTokens : List Item → List Token
  | [] => []
  | i :: rest => i.tokens ++ itemsTokens rest

end

theorem mark_of_preprocess {s t : Text} {c : CodePoint} (hline : c ≠ .char '\n')
    (hc : c ≠ .replacement) (h : preprocess s = c :: t) :
    ∃ rest, s = c :: rest ∧ preprocess rest = t := by
  rw [preprocess.eq_def] at h
  split at h
  · cases h
  · exact (hline (List.cons.inj h).1.symm).elim
  · next d rest hne =>
    refine ⟨rest,?_,(List.cons.inj h).2⟩
    have hd := (List.cons.inj h).1
    split at hd
    · exact (hc hd.symm).elim
    · split at hd
      · exact (hline hd.symm).elim
      · rw [hd]

theorem closed_of_preprocess {s : Text} (h : Text.occursIn "*/" (preprocess s) = true) :
    Text.occursIn "*/" s = true := by
  fun_induction preprocess s with
  | case1 => exact h
  | case2 rest ih =>
    simp only [Text.occursIn,Bool.or_eq_true] at h ⊢
    rcases h with h | h
    · obtain ⟨tail,ht⟩ := List.isPrefixOf_iff_prefix.mp h
      exact absurd (List.cons.inj ht).1 (by decide)
    · exact .inr (.inr (ih h))
  | case3 c rest hne ih =>
    rw [Text.occursIn,Bool.or_eq_true] at h ⊢
    rcases h with h | h
    · obtain ⟨tail,ht⟩ := List.isPrefixOf_iff_prefix.mp h
      have hp : preprocess (c :: rest) = .char '*' :: .char '/' :: tail := by
        rw [preprocess]
        · exact ht.symm
        · exact hne
      obtain ⟨u,hu,hrest⟩ := mark_of_preprocess (by decide) (by decide) hp
      obtain ⟨v,rfl,-⟩ := mark_of_preprocess (by decide) (by decide) hrest
      left
      rw [hu]
      exact List.isPrefixOf_iff_prefix.mpr ⟨v,rfl⟩
    · exact .inr (ih h)

theorem lexed_comment (c : Comment) (rest : Text) :
    lexed (.char '/' :: .char '*' :: (c.text ++ .char '*' :: .char '/' :: rest)) = lexed rest := by
  have hp : preprocess (.char '/' :: .char '*' :: (c.text ++ .char '*' :: .char '/' :: rest)) =
      .char '/' :: .char '*' ::
        (preprocess c.text ++ .char '*' :: .char '/' :: preprocess rest) := by
    rw [preprocess_cons (by decide),preprocess_cons (by decide),
      preprocess_append (by rintro tail ⟨⟩),preprocess_cons (by decide),preprocess_cons (by decide)]
    rfl
  have hopen : Text.occursIn "*/" (preprocess c.text) = false := by
    refine Bool.eq_false_iff.mpr fun h => ?_
    have := closed_of_preprocess h
    rw [c.unclosed] at this
    cases this
  rw [lexed,hp,kinds_comment hopen,lexed]

theorem flatAll_curly (content : List Token) :
    flatAll [curly content] = markLexeme '\x7b' :: flatAll content ++ [markLexeme '\x7d'] := by
  simp [flatAll,curly,Token.flat,markLexeme,bracket?,Opener.closer]

mutual

theorem Item.lexed_append (i : Item) (rest : Text) :
    lexed (i.text ++ rest) = flatAll i.tokens ++ lexed rest := by
  cases i with
  | comment before c =>
    simp only [Item.text,Item.tokens,List.append_assoc,List.cons_append]
    rw [before.lexed_append rfl]
    exact congrArg _ (lexed_comment c rest)
  | style before selector gap body =>
    simp only [Item.text,Item.tokens,List.append_assoc,List.cons_append,flatAll_append,
      flatAll_curly,List.nil_append]
    rw [before.lexed_append (selector.solid_append _),selector.lexed_append (gap.ends_append rfl),
      gap.lexed_append rfl,lexed_mark rfl,body.lexed_append rfl rfl,lexed_mark rfl]
  | statement before head =>
    simp only [Item.text,Item.tokens,List.append_assoc,List.cons_append,flatAll_append,
      List.nil_append]
    rw [before.lexed_append rfl,head.lexed_append rfl rfl,lexed_mark rfl]
    rfl
  | block before head items after =>
    simp only [Item.text,Item.tokens,List.append_assoc,List.cons_append,flatAll_append,
      flatAll_curly,List.nil_append]
    rw [before.lexed_append rfl,head.lexed_append rfl rfl,lexed_mark rfl,lexed_itemsText items,
      after.lexed_append rfl,lexed_mark rfl]

theorem lexed_itemsText (items : List Item) (rest : Text) :
    lexed (itemsText items ++ rest) = flatAll (itemsTokens items) ++ lexed rest := by
  cases items with
  | nil => rfl
  | cons i items =>
    rw [itemsText,itemsTokens,List.append_assoc,i.lexed_append,lexed_itemsText items,flatAll_append,
      List.append_assoc]

end

end StyleLift.Css.Written
