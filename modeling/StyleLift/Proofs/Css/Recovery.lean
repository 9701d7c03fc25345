import StyleLift.Proofs.Css.Legible

/-! # Recovery inside a body

A body may also hold what is no declaration: words without a colon, a property without a value, an
at-rule, a rule with a block of its own. Each of these is read up to its own end and declares
nothing, so the declarations around it are read as if it were not there.
-/
namespace StyleLift.Css

/-- A leaf that neither parts units nor starts a declaration or an at-rule. -/
def Leaf.idles : Leaf → Bool
  | .number _ | .percentage _ | .dimension _ _ => true
  | .literal source => source != ";"
  | _ => false

theorem Leaf.parts_of_idles {l : Leaf} (h : l.idles = true) (m : Text) :
    (Token.leaf m l).parts = false := by
  cases l with
  | literal source =>
    simpa [Token.parts,Token.isWhitespace,Token.isLiteral,Token.curly?,idles] using h
  | number source | percentage source | dimension source unit => rfl
  | _ => cases h

theorem Leaf.declared_of_idles {l : Leaf} (h : l.idles = true) (m : Text) (unit : List Token) :
    declared (.leaf m l) unit = none := by
  cases l with
  | literal source | number source | percentage source | dimension source unit => rfl
  | _ => cases h

/-- A name is declared only by a colon after it. -/
theorem declaration?_other {t u : Token} {unit us : List Token}
    (hunit : unit.dropWhile Token.isWhitespace = u :: us) (hu : u.isLiteral ":" = false) :
    declaration? t unit = none := by
  unfold declaration?
  rw [hunit]
  split
  · next name colon value _ he =>
    cases he
    simp [hu]
  · rfl

theorem nextNumber_idles (source rest : Text) :
    ∃ l, l.idles = true ∧ (nextNumber source rest).1 = some (.leaf l) := by
  unfold nextNumber
  split
  · exact ⟨_,rfl,rfl⟩
  · split
    · exact ⟨_,rfl,rfl⟩
    · exact ⟨_,rfl,rfl⟩

/-- A point or an ampersand is a mark of its own, or the point at the front of a number. -/
theorem next_idles {c : CodePoint} (hc : c = .char '.' ∨ c = .char '&') (s : Text) :
    ∃ l, l.idles = true ∧ (next c s).1 = some (.leaf l) := by
  have hopens : isSpace c = false ∧ startsUnicodeRange c s = false ∧
      startsIdent (c :: s) = false ∧ c ≠ .char '-' := by
    rcases hc with rfl | rfl
    · exact ⟨rfl,startsUnicodeRange_of_ne (by decide) (by decide) s,rfl,by decide⟩
    · exact ⟨rfl,startsUnicodeRange_of_ne (by decide) (by decide) s,rfl,by decide⟩
  obtain ⟨hspace,hrange,hident,hminus⟩ := hopens
  cases hnumber : takeNumber? (c :: s) with
  | some number =>
    rw [next_number hspace hrange (fun h => hminus h.1) hident hnumber]
    exact nextNumber_idles number.1 number.2
  | none =>
    have hmark : nextMark c s = (some (markLexeme c),s) := by
      rcases hc with rfl | rfl <;> exact nextMark_alone (by decide) rfl s
    rw [next_eq_nextMark hspace hrange hident hnumber (by rcases hc with rfl | rfl <;> decide),
      hmark]
    rcases hc with rfl | rfl
    · exact ⟨.literal ".",rfl,rfl⟩
    · exact ⟨.literal "&",rfl,rfl⟩

namespace Written

/-! ## What a body may hold -/

/-- What stands before the block of a rule inside a body. It is read there up to the block, and
none of its tokens would end it before. -/
structure NestedSelector where
  text : Text
  starts : text.head? = some (.char '.') ∨ text.head? = some (.char '&')
  reads : ∃ mark ts, tokens (blockText text) =
    .ok [.block mark (.bracket .curly) (ts ++ [.leaf ";\x7d" (.literal ";")])] ∧
    ∀ t ∈ ts, t.continues = true

example : NestedSelector :=
  ⟨"&:hover",.inr rfl,"\x7b&:hover;\x7d",[.leaf "&:hover;\x7d" (.literal "&"),
    .leaf ":hover;\x7d" (.literal ":"),.leaf "hover;\x7d" (.ident "hover")],by cbv,by decide⟩

/-- Something in a body. Only an entry is a declaration. -/
inductive Piece
  | entry (e : Entry) (after : Gap)
  | words (first : Word) (others : List Word) (after : Gap)
  | valueless (property : Name) (after : Gap)
  | statement (keyword : Name) (words : List Word) (after : Gap)
  | rule (selector : NestedSelector) (body : Body)

structure MixedBody where
  pieces : List (Gap × Piece)
  after : Gap

def Piece.text : Piece → Text
  | .entry e after => e.text ++ (after.text ++ [.char ';'])
  | .words first others after => first.text ++ (wordsText others ++ (after.text ++ [.char ';']))
  | .valueless property after => property.text ++ .char ':' :: (after.text ++ [.char ';'])
  | .statement keyword ws after =>
    .char '@' :: (keyword.text ++ (wordsText ws ++ (after.text ++ [.char ';'])))
  | .rule selector body => selector.text ++ .char '\x7b' :: (body.text ++ [.char '\x7d'])

def MixedBody.text (b : MixedBody) : Text :=
  (b.pieces.flatMap fun p => p.1.text ++ p.2.text) ++ b.after.text

def Piece.declarations : Piece → List Declaration
  | .entry e _ => [e.declaration]
  | _ => []

def MixedBody.declarations (b : MixedBody) : List Declaration :=
  b.pieces.flatMap fun p => p.2.declarations

/-! ## Sections -/

/-- A text of a body that is read as the same tokens whatever stands after it, and what it
declares there. -/
structure Section (s : Text) (ts : List Token) (ds : List Declaration) : Prop where
  lexed (rest : Text) : lexed (s ++ rest) = flatAll ts ++ Css.lexed rest
  numbers : ∀ l ∈ flatAll ts, l.digitCount ≤ Numeral.digitLimit
  fits : fitsAll (some .curly) ts = true
  declares (us : List Token) : Css.declarations (ts ++ us) = ds ++ Css.declarations us

theorem Section.append {s t : Text} {ts us : List Token} {ds es : List Declaration}
    (h : Section s ts ds) (h' : Section t us es) : Section (s ++ t) (ts ++ us) (ds ++ es) where
  lexed rest := by rw [List.append_assoc,h.lexed,h'.lexed,flatAll_append,List.append_assoc]
  numbers := by
    rw [flatAll_append]
    exact List.forall_mem_append.mpr ⟨h.numbers,h'.numbers⟩
  fits := by rw [fitsAll_append,h.fits,h'.fits]; rfl
  declares vs := by rw [List.append_assoc,h.declares,h'.declares,List.append_assoc]

/-- One unit, up to the semicolon after it. -/
theorem declarations_ended {t : Token} {unit : List Token} (ht : t.parts = false)
    (hunit : ∀ u ∈ unit, u.continues = true) (us : List Token) :
    Css.declarations (t :: (unit ++ mark ';' :: us)) =
      (declared t unit).toList ++ Css.declarations us := by
  rw [declarations_unit ht,takeUnit_append hunit,takeUnit_semicolon (by decide),List.append_nil]

theorem continues_words (words : List Word) (after : Gap) :
    ∀ t ∈ wordTokens words ++ after.tokens, t.continues = true := by
  intro t ht
  rcases List.mem_append.mp ht with ht | ht
  · obtain ⟨w,-,hw⟩ := List.mem_flatMap.mp ht
    simp only [List.mem_cons,List.not_mem_nil,or_false] at hw
    obtain rfl | rfl := hw
    · rfl
    · cases w <;> rfl
  · exact continues_gap after t ht

theorem readable_words (words : List Word) : Readable (wordTokens words) :=
  readable_flatMap (fun w => by simp [space,readable_word,Leaf.digitCount]) words

/-- A section whose tokens are readable by themselves. -/
theorem Section.of_readable {s : Text} {ts : List Token} {ds : List Declaration}
    (hlexed : ∀ rest, Css.lexed (s ++ rest) = flatAll ts ++ Css.lexed rest) (hts : Readable ts)
    (hdeclares : ∀ us, Css.declarations (ts ++ us) = ds ++ Css.declarations us) :
    Section s ts ds :=
  ⟨hlexed,hts.1,hts.2 _,hdeclares⟩

/-! ## Pieces that end at a semicolon -/

theorem section_entry (e : Entry) (after : Gap) :
    Section (Piece.entry e after).text (e.tokens ++ (after.tokens ++ [mark ';']))
      [e.declaration] := by
  apply Section.of_readable
  · intro rest
    simp only [Piece.text,List.append_assoc,List.singleton_append,flatAll_append]
    rw [e.lexed_append (after.ends_append rfl),after.lexed_append rfl,lexed_mark rfl]
    rfl
  · simp [readable_entry,readable_gap,readable_mark]
  · intro us
    have hunit : takeUnit (mark ';' :: us) = ([],us) := takeUnit_semicolon (by decide) us
    simp only [List.append_assoc,List.singleton_append]
    rw [declarations_entry e after (by rw [hunit]),hunit]

/-- Words without a colon declare nothing. -/
theorem declared_words (first : Word) (others : List Word) (after : Gap) :
    declared first.token (wordTokens others ++ after.tokens) = none := by
  cases first with
  | pixels p => rfl
  | name n =>
    have hgap : after.tokens.dropWhile Token.isWhitespace = [] :=
      List.dropWhile_eq_nil_iff.mpr (isWhitespace_gap after)
    cases others with
    | nil => simp [declared,declaration?,Token.isAtKeyword,Word.token,wordTokens,hgap]
    | cons w others =>
      have hcolon : w.token.isLiteral ":" = false ∧ w.token.isWhitespace = false := by
        cases w <;> exact ⟨rfl,rfl⟩
      have hdrop : (wordTokens (w :: others) ++ after.tokens).dropWhile Token.isWhitespace =
          w.token :: (wordTokens others ++ after.tokens) := by
        have hspace : space.isWhitespace = true := rfl
        simp [wordTokens,hspace,hcolon]
      rw [declared,declaration?_other hdrop hcolon.1,ite_self]

theorem section_words (first : Word) (others : List Word) (after : Gap) :
    Section (Piece.words first others after).text
      (first.token :: (wordTokens others ++ (after.tokens ++ [mark ';']))) [] := by
  apply Section.of_readable
  · intro rest
    have hends : ends (after.text ++ .char ';' :: rest) = true := after.ends_append rfl
    simp only [Piece.text,List.append_assoc,List.singleton_append]
    rw [first.lexed_append (ends_wordsText others hends),lexed_wordsText others hends,
      after.lexed_append rfl,lexed_mark rfl]
    simp [flatAll,flatAll_append,Token.flat,mark,markLexeme,bracket?]
  · simp [readable_word,readable_words,readable_gap,readable_mark]
  · intro us
    have hparts : first.token.parts = false := by cases first <;> rfl
    have h := declarations_ended hparts (continues_words others after) us
    rw [declared_words] at h
    simpa using h

/-- A property without a value declares nothing. -/
theorem declared_valueless (property : Name) (after : Gap) :
    declared (.leaf [] (.ident property.text)) (mark ':' :: after.tokens) = none := by
  have hplain : ∀ t ∈ after.tokens, t.isPlain = true := by
    intro t ht
    obtain ⟨m,source,rfl⟩ := Token.eq_whitespace (isWhitespace_gap after t ht)
    rfl
  obtain ⟨hlate,hkept⟩ := readValue_plain hplain
  have htrim : Text.trim (writeTokens after.tokens) = [] :=
    Text.trim_append (isBlank_write_gap after) []
  have hcolon : (mark ':').isLiteral ":" = true := by decide
  rw [declared,if_neg (by simp [Token.isAtKeyword]),declaration?_ident _ _ rfl,hlate,hkept,hcolon]
  simp [htrim]

theorem section_valueless (property : Name) (after : Gap) :
    Section (Piece.valueless property after).text
      (.leaf [] (.ident property.text) :: mark ':' :: (after.tokens ++ [mark ';'])) [] := by
  apply Section.of_readable
  · intro rest
    simp only [Piece.text,List.append_assoc,List.cons_append,List.nil_append]
    rw [property.lexed_append rfl,lexed_mark rfl,after.lexed_append rfl,lexed_mark rfl]
    simp [flatAll,Token.flat,mark,markLexeme,bracket?]
  · simp [Leaf.digitCount,readable_gap,readable_mark]
  · intro us
    have hcontinues : ∀ t ∈ mark ':' :: after.tokens, t.continues = true :=
      List.forall_mem_cons.mpr ⟨by decide,continues_gap after⟩
    have h := declarations_ended (t := .leaf [] (.ident property.text)) rfl hcontinues us
    rw [declared_valueless] at h
    simpa using h

theorem section_statement (keyword : Name) (words : List Word) (after : Gap) :
    Section (Piece.statement keyword words after).text
      (.leaf [] (.atKeyword keyword.text) :: (wordTokens words ++ (after.tokens ++ [mark ';'])))
      [] := by
  apply Section.of_readable
  · intro rest
    have hends : ends (after.text ++ .char ';' :: rest) = true := after.ends_append rfl
    have hstops := stopsName_of_endsName (endsName_of_ends (ends_wordsText words hends))
    simp only [Piece.text,List.append_assoc,List.cons_append,List.nil_append]
    rw [keyword.lexed_atKeyword hstops,lexed_wordsText words hends,after.lexed_append rfl,
      lexed_mark rfl]
    simp [flatAll,Token.flat,mark,markLexeme,bracket?]
  · simp [Leaf.digitCount,readable_words,readable_gap,readable_mark]
  · intro us
    have h := declarations_ended (t := .leaf [] (.atKeyword keyword.text)) rfl
      (continues_words words after) us
    simpa [declared,Token.isAtKeyword] using h

/-! ## Rules inside a body -/

theorem NestedSelector.stands (n : NestedSelector) : ∃ m l ts, l.idles = true ∧
    (∀ t ∈ ts, t.continues = true) ∧ Stands false n.text (.leaf m l :: ts) := by
  obtain ⟨text,starts,mark,ts,htokens,hcontinues⟩ := n
  have hstands : Stands false text ts := stands_of_block (by simp) htokens
  obtain ⟨c,s,hc,rfl⟩ : ∃ c s, (c = .char '.' ∨ c = .char '&') ∧ text = c :: s := by
    rcases starts with h | h
    · obtain ⟨s,rfl⟩ := List.head?_eq_some_iff.mp h
      exact ⟨_,s,.inl rfl,rfl⟩
    · obtain ⟨s,rfl⟩ := List.head?_eq_some_iff.mp h
      exact ⟨_,s,.inr rfl,rfl⟩
  have hlexed := hstands.lexed_semicolon []
  have hsettled : preprocess (c :: (s ++ [.char ';'])) = c :: preprocess (s ++ [.char ';']) := by
    rcases hc with rfl | rfl <;> exact preprocess_cons (by decide) _
  obtain ⟨l,hl,hnext⟩ := next_idles hc (preprocess (s ++ [.char ';']))
  rw [List.cons_append,lexed,hsettled,kinds_cons,hnext] at hlexed
  cases hflat : flatAll ts with
  | nil =>
    rw [hflat] at hlexed
    cases (List.cons.inj hlexed).1
    cases hl
  | cons x xs =>
    rw [hflat] at hlexed
    cases (List.cons.inj hlexed).1
    obtain ⟨m,rest,rfl,-⟩ := flatAll_eq_leaf hflat
    exact ⟨m,l,rest,hl,fun t ht => hcontinues t (List.mem_cons_of_mem _ ht),hstands⟩

/-- A rule inside a body declares nothing there, whatever its block declares. -/
theorem section_rule (selector : NestedSelector) (body : Body) :
    ∃ ts, Section (Piece.rule selector body).text ts [] := by
  obtain ⟨m,l,ts,hl,hts,hstands⟩ := selector.stands
  have hbody := readable_curly (readable_body body)
  refine ⟨(.leaf m l :: ts) ++ [curly body.tokens],fun rest => ?_,?_,?_,fun us => ?_⟩
  · rw [flatAll_append,flatAll_curly]
    simp only [Piece.text,List.append_assoc,List.cons_append,List.nil_append]
    rw [hstands.lexed_opening,body.lexed_append rfl rfl,lexed_mark rfl]
  · rw [flatAll_append]
    exact List.forall_mem_append.mpr ⟨hstands.numbers,hbody.1⟩
  · rw [fitsAll_append,hstands.fits,hbody.2]
    rfl
  · have htake : takeUnit (curly body.tokens :: us) = ([curly body.tokens],us) := rfl
    simp only [List.append_assoc,List.cons_append,List.nil_append]
    rw [declarations_unit (Leaf.parts_of_idles hl m),Leaf.declared_of_idles hl,takeUnit_append hts,
      htake]
    rfl

/-! ## Bodies -/

theorem NestedSelector.solid_append (n : NestedSelector) (rest : Text) :
    solid (n.text ++ rest) = true := by
  rcases n.starts with h | h
  · obtain ⟨s,hs⟩ := List.head?_eq_some_iff.mp h
    rw [hs]
    rfl
  · obtain ⟨s,hs⟩ := List.head?_eq_some_iff.mp h
    rw [hs]
    rfl

namespace Piece

variable (p : Piece)

theorem solid_append (rest : Text) : solid (p.text ++ rest) = true := by
  cases p with
  | entry e after =>
    rw [text,List.append_assoc]
    exact e.solid_append _
  | words first others after =>
    rw [text,List.append_assoc]
    exact first.solid_append _
  | valueless property after =>
    rw [text,List.append_assoc]
    exact property.solid_append _
  | statement keyword ws after => rfl
  | rule selector body =>
    rw [text,List.append_assoc]
    exact selector.solid_append _

/-- Each piece is read up to its own end, and only an entry declares anything. -/
theorem section_text : ∃ ts, Section p.text ts p.declarations := by
  cases p with
  | entry e after => exact ⟨_,section_entry e after⟩
  | words first others after => exact ⟨_,section_words first others after⟩
  | valueless property after => exact ⟨_,section_valueless property after⟩
  | statement keyword ws after => exact ⟨_,section_statement keyword ws after⟩
  | rule selector body => exact section_rule selector body

theorem section_gap (before : Gap) : ∃ ts, Section (before.text ++ p.text) ts p.declarations := by
  obtain ⟨ts,h⟩ := p.section_text
  have hgap := readable_gap before
  refine ⟨before.tokens ++ ts,fun rest => ?_,?_,?_,fun us => ?_⟩
  · rw [List.append_assoc,before.lexed_append (p.solid_append rest),h.lexed,flatAll_append,
      List.append_assoc]
  · rw [flatAll_append]
    exact List.forall_mem_append.mpr ⟨hgap.1,h.numbers⟩
  · rw [fitsAll_append,hgap.2,h.fits]
    rfl
  · rw [List.append_assoc,declarations_gap,h.declares]

end Piece

theorem section_pieces (pieces : List (Gap × Piece)) :
    ∃ ts, Section (pieces.flatMap fun p => p.1.text ++ p.2.text) ts
      (pieces.flatMap fun p => p.2.declarations) := by
  induction pieces with
  | nil =>
    refine ⟨[],fun rest => rfl,?_,rfl,fun us => rfl⟩
    intro l hl
    cases hl
  | cons p pieces ih =>
    obtain ⟨ts,hpiece⟩ := p.2.section_gap p.1
    obtain ⟨us,hpieces⟩ := ih
    exact ⟨ts ++ us,hpiece.append hpieces⟩

namespace MixedBody

variable (b : MixedBody)

/-- A rule whose block is the body. -/
def ruleText (s : Selector) (gap : Gap) : Text :=
  s.text ++ (gap.text ++ .char '\x7b' :: (b.text ++ [.char '\x7d']))

theorem reads (s : Selector) (gap : Gap) :
    Reads (b.ruleText s gap) [⟨s.normal,b.declarations⟩] := by
  obtain ⟨ts,h⟩ := section_pieces b.pieces
  have hafter := readable_gap b.after
  have hdeclares : Css.declarations (ts ++ b.after.tokens) = b.declarations := by
    have hgap := declarations_gap b.after []
    have hnil : Css.declarations [] = [] := by simp [Css.declarations]
    rw [List.append_nil,hnil] at hgap
    rw [h.declares,hgap,List.append_nil,declarations]
  have hlexed : lexed (b.ruleText s gap) =
      flatAll (s.tokens ++ (gap.tokens ++ [curly (ts ++ b.after.tokens)])) := by
    have hclose : lexed [.char '\x7d'] = [markLexeme '\x7d'] := by
      rw [lexed_mark rfl]
      simp [lexed,preprocess]
    rw [ruleText,s.lexed_append (gap.ends_append rfl),gap.lexed_append rfl,lexed_mark rfl,text,
      List.append_assoc,h.lexed,b.after.lexed_append rfl,hclose]
    simp only [flatAll_append,flatAll_curly,List.append_assoc,List.cons_append]
  have hblock : Readable [curly (ts ++ b.after.tokens)] := by
    apply readable_block
    · rw [flatAll_append]
      exact List.forall_mem_append.mpr ⟨h.numbers,hafter.1⟩
    · rw [fitsAll_append]
      exact Bool.and_eq_true_iff.mpr ⟨h.fits,hafter.2 _⟩
    · exact readable_nil
  have hreadable : Readable (s.tokens ++ (gap.tokens ++ [curly (ts ++ b.after.tokens)])) := by
    simp [readable_selector,readable_gap,hblock]
  rw [reads_iff,hlexed,nested_flatAll (hreadable.2 none),rulesIn_bare,rulesIn_style_item,hdeclares,
    rulesIn_nil]
  exact ⟨hreadable.1,rfl⟩

end MixedBody

end Written

end StyleLift.Css

namespace StyleLift

/-- Whatever else a body holds between its declarations, one rule is read, with the body's own
declarations in order. -/
theorem readRules_mixed (s : Css.Written.Selector) (gap : Css.Written.Gap)
    (b : Css.Written.MixedBody) :
    (readRules (b.ruleText s gap)).outcome = .ok [⟨s.normal,b.declarations⟩] := by
  obtain ⟨sheet,hread,hrules⟩ := b.reads s gap
  rw [readRules_outcome,hread,← hrules]
  rfl

example : (readRules (Text.ofString (".a \x7b color: red; width 4px; " ++
    "&:hover \x7b color: blue \x7d margin: ; @apply b; gap: 2px !important; \x7d"))).outcome =
    .ok [⟨".a",[⟨"color","red",false⟩,⟨"gap","2px",true⟩]⟩] := by
  cbv

end StyleLift
