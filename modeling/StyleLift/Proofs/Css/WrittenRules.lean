import StyleLift.Proofs.Css.Values
import StyleLift.Proofs.Css.WrittenTokens
import StyleLift.Proofs.Extract.Stages
import StyleLift.Proofs.Text.Blanks
import StyleLift.Proofs.Text.Joining

/-! # The rules of a written sheet

What is read from the tokens of a tree is what the tree stands for: the declarations of its bodies,
the selectors with single spaces, and the rules in order, those inside at-rules that do not group
rules left out.
-/
namespace StyleLift.Css.Written

/-! ## Numbers and brackets -/

/-- Tokens whose numbers can be read, with no stray bracket among them. -/
def Readable (ts : List Token) : Prop :=
  (∀ l ∈ flatAll ts, l.digitCount ≤ Numeral.digitLimit) ∧ ∀ closer, fitsAll closer ts = true

@[simp] theorem readable_nil : Readable [] := by
  constructor
  · intro l hl
    cases hl
  · intro closer
    rfl

@[simp] theorem readable_append {ts us : List Token} :
    Readable (ts ++ us) ↔ Readable ts ∧ Readable us := by
  simp only [Readable,flatAll_append,fitsAll_append,List.forall_mem_append,Bool.and_eq_true,
    forall_and]
  constructor
  · rintro ⟨⟨hts,hus⟩,fts,fus⟩
    exact ⟨⟨hts,fts⟩,hus,fus⟩
  · rintro ⟨⟨hts,fts⟩,hus,fus⟩
    exact ⟨⟨hts,hus⟩,fts,fus⟩

@[simp] theorem readable_leaf {m : Text} {l : Leaf} (h : ∀ b, l ≠ .stray b) {ts : List Token} :
    Readable (.leaf m l :: ts) ↔ l.digitCount ≤ Numeral.digitLimit ∧ Readable ts := by
  simp only [Readable,flatAll,flat_leaf h,fitsAll,fits_leaf _ h,Bool.true_and,
    List.singleton_append,List.forall_mem_cons,Lexeme.digitCount,and_assoc]

theorem readable_block {m : Text} {o : Opener} {content ts : List Token}
    (hcontent : ∀ l ∈ flatAll content, l.digitCount ≤ Numeral.digitLimit)
    (fcontent : fitsAll (some o.closer) content = true) :
    Readable ts → Readable (.block m o content :: ts) := by
  rintro ⟨hts,fts⟩
  constructor
  · intro l hl
    simp only [flatAll,Token.flat,List.cons_append,List.append_assoc,List.mem_cons,
      List.mem_append] at hl
    obtain rfl | hl | rfl | hl | hl := hl
    · exact Nat.zero_le _
    · exact hcontent l hl
    · exact Nat.zero_le _
    · cases hl
    · exact hts l hl
  · intro closer
    rw [fitsAll,Token.fits,fcontent,fts]
    rfl

theorem readable_flatMap {α : Type} {f : α → List Token} (h : ∀ a, Readable (f a)) (as : List α) :
    Readable (as.flatMap f) := by
  induction as with
  | nil => exact readable_nil
  | cons a as ih => simpa using ⟨h a,ih⟩

theorem readable_gap (g : Gap) : Readable g.tokens := by
  unfold Gap.tokens
  split <;> simp [Leaf.digitCount]

theorem readable_mark (c : CodePoint) {ts : List Token} :
    Readable (mark c :: ts) ↔ Readable ts := by
  simp [mark,Leaf.digitCount]

theorem digitCount_pixels (p : Pixels) :
    (Leaf.dimension p.source "px").digitCount = p.digits.length := by
  obtain ⟨d,digits,h⟩ := List.exists_cons_of_ne_nil p.some
  have hd := p.digit d (by simp [h])
  have hall : p.digits.all CodePoint.isAsciiDigit = true := List.all_eq_true.mpr p.digit
  rw [Leaf.digitCount,integerDigits?,Pixels.source,h,takeSign_signOf p.negative hd,← h]
  simp [hall]

theorem readable_word (w : Word) {ts : List Token} : Readable (w.token :: ts) ↔ Readable ts := by
  cases w with
  | name n => simp [Word.token,Leaf.digitCount]
  | pixels p => simp [Word.token,digitCount_pixels,p.few]

theorem readable_entry (e : Entry) : Readable e.tokens := by
  have hwords : Readable (wordTokens e.others) :=
    readable_flatMap (fun w => by simp [space,readable_word,Leaf.digitCount]) e.others
  have himportance : Readable (importanceTokens e.important) := by
    cases e.important <;> simp [importanceTokens,space,mark,Leaf.digitCount]
  simp [Entry.tokens,space,readable_mark,readable_word,Leaf.digitCount,hwords,himportance]

theorem readable_body (b : Body) : Readable b.tokens := by
  have hended : Readable (b.ended.flatMap endedTokens) :=
    readable_flatMap (fun p => by simp [endedTokens,readable_gap,readable_entry,readable_mark]) _
  have hlast : Readable (b.last.elim [] lastTokens) := by
    cases b.last <;> simp [lastTokens,readable_gap,readable_entry]
  simp [Body.tokens,hended,hlast,readable_gap]

theorem readable_condition (c : Condition) : Readable c.tokens := by
  have hcontent : Readable [.leaf [] (.ident c.feature.text),mark ':',space,c.value.token] := by
    simp [space,readable_mark,readable_word,Leaf.digitCount]
  exact readable_block hcontent.1 (hcontent.2 _) readable_nil

theorem readable_head (h : Head) : Readable h.tokens := by
  have hterm : ∀ t : Term, Readable t.tokens := by
    intro t
    cases t with
    | name n => simp [Term.tokens,Leaf.digitCount]
    | condition c => exact readable_condition c
  have hterms : Readable (h.terms.flatMap termTokens) :=
    readable_flatMap (fun p => by simp [termTokens,readable_gap,hterm]) _
  have hattached : Readable (h.attached.elim [] Condition.tokens) := by
    cases h.attached <;> simp [readable_condition]
  simp [Head.tokens,Head.prelude,Leaf.digitCount,hattached,hterms,readable_gap]

theorem readable_selector (s : Selector) : Readable s.tokens := by
  have hclass : ∀ n, Readable (classTokens n) := by
    intro n
    simp [classTokens,readable_mark,Leaf.digitCount]
  have hothers : Readable (s.others.flatMap fun p => p.1.tokens ++ classTokens p.2) :=
    readable_flatMap (fun p => by simp [readable_gap,hclass]) _
  simp [Selector.tokens,hclass,hothers]

theorem readable_curly {content : List Token} (h : Readable content) : Readable [curly content] :=
  readable_block h.1 (h.2 _) readable_nil

mutual

theorem readable_item (i : Item) : Readable i.tokens := by
  cases i with
  | comment before c => exact readable_gap before
  | style before selector gap body =>
    simp [Item.tokens,readable_gap,readable_selector,readable_curly (readable_body body)]
  | statement before head => simp [Item.tokens,readable_gap,readable_head,readable_mark]
  | block before head items after =>
    have hitems : Readable (itemsTokens items ++ after.tokens) := by
      simp [readable_items items,readable_gap]
    simp [Item.tokens,readable_gap,readable_head,readable_curly hitems]

theorem readable_items (items : List Item) : Readable (itemsTokens items) := by
  cases items with
  | nil => exact readable_nil
  | cons i items => simpa [itemsTokens] using ⟨readable_item i,readable_items items⟩

end

/-! ## Words -/

theorem not_isBlank_of_isPlain {c : CodePoint} (h : isPlain c = true) : c.isBlank = false := by
  refine Bool.eq_false_iff.mpr fun hb => ?_
  simp only [isPlain,CodePoint.isAsciiLetter,CodePoint.isAsciiDigit,Bool.or_eq_true,
    Bool.and_eq_true,decide_eq_true_eq,beq_iff_eq] at h
  simp only [CodePoint.isBlank,Bool.or_eq_true,Bool.and_eq_true,decide_eq_true_eq,
    beq_iff_eq] at hb
  rcases h with (h | rfl) | rfl
  · omega
  · revert hb
    decide
  · revert hb
    decide

theorem Word.ne_nil (w : Word) : w.text ≠ [] := by
  cases w with
  | name n => exact n.ne_nil
  | pixels p => simp [text]

theorem Word.not_isBlank (w : Word) : ∀ c ∈ w.text, c.isBlank = false := by
  intro c hc
  refine not_isBlank_of_isPlain ?_
  cases w with
  | name n => exact n.plain c hc
  | pixels p =>
    have hsign : ∀ d ∈ signOf p.negative, isPlain d = true := by cases p.negative <;> decide
    simp only [text,Pixels.source,List.append_assoc,List.mem_append] at hc
    rcases hc with hc | hc | hc
    · exact hsign c hc
    · simp [isPlain,p.digit c hc]
    · exact (by decide : ∀ d ∈ [CodePoint.char 'p',.char 'x'], isPlain d = true) c hc

@[simp] theorem spaced_nil (first : Text) : spaced first [] = first := by simp [spaced]

@[simp] theorem spaced_cons (first other : Text) (others : List Text) :
    spaced first (other :: others) = first ++ .char ' ' :: spaced other others := by
  simp [spaced]

theorem head?_spaced {first : Text} (h : first ≠ []) (others : List Text) :
    (spaced first others).head? = first.head? := by
  obtain ⟨c,tail,rfl⟩ := List.exists_cons_of_ne_nil h
  rfl

theorem mem_of_mem_getLast?_spaced {first : Text} {others : List Text}
    (h : ∀ w ∈ first :: others, w ≠ []) {c : CodePoint}
    (hc : c ∈ (spaced first others).getLast?) : ∃ w ∈ first :: others, c ∈ w := by
  induction others generalizing first with
  | nil =>
    rw [spaced_nil] at hc
    exact ⟨first,List.mem_cons_self,List.mem_of_getLast? hc⟩
  | cons other others ih =>
    obtain ⟨d,tail,hd⟩ : ∃ d tail, spaced other others = d :: tail :=
      List.exists_cons_of_ne_nil (by simp [spaced,h other (by simp)])
    have hlast : (spaced first (other :: others)).getLast? = (spaced other others).getLast? := by
      rw [spaced_cons,hd,List.getLast?_append,List.getLast?_cons_cons]
      simp [List.getLast?_cons]
    rw [hlast] at hc
    obtain ⟨w,hw,hcw⟩ := ih (fun w hw => h w (List.mem_cons_of_mem _ hw)) hc
    exact ⟨w,List.mem_cons_of_mem _ hw,hcw⟩

theorem write_word (w : Word) : w.token.write = w.text := by
  cases w with
  | name n => exact writeIdent_eq_self n.isNamePart_of_mem n.starts
  | pixels p => rfl

theorem writeTokens_words (first : Word) (others : List Word) {after : List Token}
    (h : ∀ t ∈ after.head?, t.isWhitespace = true) :
    writeTokens (first.token :: (wordTokens others ++ after)) =
      first.text ++ (wordsText others ++ writeTokens after) := by
  have hseparator : ∀ (w : Word) (t : Token), t.isWhitespace = true → separator w.token t = [] := by
    intro w t ht
    obtain ⟨m,source,rfl⟩ := Token.eq_whitespace ht
    cases w <;> rfl
  have hspace : ∀ w : Word, separator space w.token = [] := by
    intro w
    cases w <;> rfl
  induction others generalizing first with
  | nil =>
    cases after with
    | nil => simp [wordTokens,wordsText,writeTokens,write_word]
    | cons t after =>
      simp [wordTokens,wordsText,writeTokens,write_word,hseparator first t (h t rfl)]
  | cons w others ih =>
    have hw : wordTokens (w :: others) = space :: w.token :: wordTokens others := rfl
    have ht : wordsText (w :: others) = .char ' ' :: (w.text ++ wordsText others) := by
      simp [wordsText]
    rw [hw,ht,List.cons_append,List.cons_append,writeTokens,writeTokens,ih w]
    have hwrite : space.write = [.char ' '] := rfl
    simp [write_word,hseparator first space rfl,hspace,hwrite]

/-! ## Declarations -/

theorem isWhitespace_gap (g : Gap) : ∀ t ∈ g.tokens, t.isWhitespace = true := by
  unfold Gap.tokens
  split <;> simp [Token.isWhitespace]

theorem isBlank_write_gap (g : Gap) : ∀ c ∈ writeTokens g.tokens, c.isBlank = true := by
  unfold Gap.tokens
  split
  · simp [writeTokens]
  · intro c hc
    have hspace := isSpace_preprocess g.gap c
      (by simpa [writeTokens,Token.write,Leaf.write] using hc)
    simp only [isSpace,Bool.or_eq_true,beq_iff_eq] at hspace
    obtain (rfl | rfl) | rfl := hspace <;> rfl

theorem trim_value (e : Entry) {after : List Token} (h : ∀ t ∈ after, t.isWhitespace = true)
    (hb : ∀ c ∈ writeTokens after, c.isBlank = true) :
    Text.trim (writeTokens (space :: e.first.token :: (wordTokens e.others ++ after))) =
      e.value := by
  have hseparator : separator space e.first.token = [] := by cases e.first <;> rfl
  have hwrite : writeTokens (space :: e.first.token :: (wordTokens e.others ++ after)) =
      [.char ' '] ++ (e.value ++ writeTokens after) := by
    rw [writeTokens,writeTokens_words e.first e.others fun t ht => h t (List.mem_of_mem_head? ht)]
    have hspace : space.write = [.char ' '] := rfl
    simp [hseparator,hspace,Entry.value,spaced,wordsText]
  have hne : ∀ w ∈ e.first.text :: e.others.map Word.text, w ≠ [] := by
    intro w hw
    rcases List.mem_cons.mp hw with rfl | hw
    · exact e.first.ne_nil
    · obtain ⟨w,-,rfl⟩ := List.mem_map.mp hw
      exact w.ne_nil
  have hword : ∀ w ∈ e.first.text :: e.others.map Word.text, ∀ c ∈ w, c.isBlank = false := by
    intro w hw
    rcases List.mem_cons.mp hw with rfl | hw
    · exact e.first.not_isBlank
    · obtain ⟨w,-,rfl⟩ := List.mem_map.mp hw
      exact w.not_isBlank
  rw [hwrite]
  refine Text.trim_padded (by decide) hb ?_ ?_ ?_
  · simp [Entry.value,spaced,e.first.ne_nil]
  · intro c hc
    rw [Entry.value,head?_spaced e.first.ne_nil] at hc
    exact e.first.not_isBlank c (List.mem_of_mem_head? hc)
  · intro c hc
    obtain ⟨w,hw,hcw⟩ := mem_of_mem_getLast?_spaced hne hc
    exact hword w hw c hcw

theorem value_ne_nil (e : Entry) : e.value ≠ [] := by
  simp [Entry.value,spaced,e.first.ne_nil]

theorem isPlain_word (w : Word) : w.token.isPlain = true := by
  cases w <;> rfl

theorem isPlain_value (e : Entry) {after : List Token} (h : ∀ t ∈ after, t.isWhitespace = true) :
    ∀ t ∈ space :: e.first.token :: (wordTokens e.others ++ after), t.isPlain = true := by
  intro t ht
  simp only [wordTokens,List.mem_cons,List.mem_append,List.mem_flatMap,List.not_mem_nil,
    or_false] at ht
  obtain rfl | rfl | ⟨w,-,rfl | rfl⟩ | ht := ht
  · rfl
  · exact isPlain_word _
  · rfl
  · exact isPlain_word w
  · obtain ⟨m,source,rfl⟩ := Token.eq_whitespace (h t ht)
    rfl

/-- What follows the name of a property, up to the end of its unit. -/
def Entry.rest (e : Entry) (g : Gap) : List Token :=
  mark ':' :: space :: e.first.token :: (wordTokens e.others ++
    (importanceTokens e.important ++ g.tokens))

theorem declaration?_entry (e : Entry) (g : Gap) :
    declaration? (.leaf [] (.ident e.property.text)) (e.rest g) = some e.declaration := by
  have hcolon : (mark ':').isLiteral ":" = true := by decide
  obtain ⟨kept,hlate,hkept,htrim⟩ : ∃ kept : List Token,
      (readValue (space :: e.first.token :: (wordTokens e.others ++
        (importanceTokens e.important ++ g.tokens)))).hasLateBlock = false ∧
      (readValue (space :: e.first.token :: (wordTokens e.others ++
        (importanceTokens e.important ++ g.tokens)))).kept = (kept,e.important) ∧
      Text.trim (writeTokens kept) = e.value := by
    cases e.important with
    | false =>
      obtain ⟨hlate,hkept⟩ := readValue_plain (isPlain_value e (isWhitespace_gap g))
      exact ⟨_,hlate,hkept,trim_value e (isWhitespace_gap g) (isBlank_write_gap g)⟩
    | true =>
      have hspace : ∀ t ∈ [space], t.isWhitespace = true := by simp [space,Token.isWhitespace]
      have hsplit : space :: e.first.token :: (wordTokens e.others ++
          (importanceTokens true ++ g.tokens)) =
          (space :: e.first.token :: (wordTokens e.others ++ [space])) ++
            mark '!' :: .leaf [] (.ident "important") :: g.tokens := by
        simp [importanceTokens]
      obtain ⟨hlate,hkept⟩ := readValue_important (isPlain_value e hspace) []
        (show Text.asciiLower "important" = "important" by decide) (isWhitespace_gap g)
        (show (mark '!').isLiteral "!" = true by decide)
      rw [hsplit]
      exact ⟨_,hlate,hkept,trim_value e hspace (by decide)⟩
  rw [Entry.rest,declaration?_ident _ _ rfl,hcolon,hlate,hkept]
  simp only [htrim,Bool.not_true,Bool.or_false,Bool.false_eq_true,if_false]
  split
  · next hnil => exact (value_ne_nil e hnil).elim
  · rfl

theorem continues_rest (e : Entry) (g : Gap) : ∀ t ∈ e.rest g, t.continues = true := by
  have hword : ∀ w : Word, w.token.continues = true := by
    intro w
    cases w <;> rfl
  have himportance : ∀ t ∈ importanceTokens e.important, t.continues = true := by
    cases e.important <;> decide
  intro t ht
  simp only [Entry.rest,wordTokens,List.mem_cons,List.mem_append,List.mem_flatMap,
    List.not_mem_nil,or_false] at ht
  obtain rfl | rfl | rfl | ⟨w,-,rfl | rfl⟩ | ht | ht := ht
  · decide
  · rfl
  · exact hword _
  · rfl
  · exact hword w
  · exact himportance t ht
  · obtain ⟨m,source,rfl⟩ := Token.eq_whitespace (isWhitespace_gap g t ht)
    rfl

theorem declarations_gap (g : Gap) (ts : List Token) :
    declarations (g.tokens ++ ts) = declarations ts := by
  unfold Gap.tokens
  split
  · rfl
  · rw [List.singleton_append,declarations]
    rfl

/-- An entry with what ends its unit is one declaration. -/
theorem declarations_entry (e : Entry) (g : Gap) {ts : List Token} (h : (takeUnit ts).1 = []) :
    declarations (e.tokens ++ (g.tokens ++ ts)) =
      e.declaration :: declarations (takeUnit ts).2 := by
  have htokens : e.tokens ++ (g.tokens ++ ts) =
      .leaf [] (.ident e.property.text) :: (e.rest g ++ ts) := by
    simp [Entry.tokens,Entry.rest]
  rw [htokens,declarations,takeUnit_append (continues_rest e g),h,List.append_nil,
    declaration?_entry]
  rfl

theorem declarations_body (b : Body) : Css.declarations b.tokens = b.declarations := by
  obtain ⟨ended,last,after⟩ := b
  have hafter : Css.declarations after.tokens = [] := by
    have := declarations_gap after []
    rw [List.append_nil] at this
    rw [this]
    simp [Css.declarations]
  have hlast : Css.declarations (last.elim [] lastTokens ++ after.tokens) =
      last.toList.map fun p => p.2.declaration := by
    cases last with
    | none => exact hafter
    | some p =>
      have h := declarations_entry p.2 after (show (takeUnit []).1 = [] from rfl)
      rw [List.append_nil,takeUnit] at h
      rw [Option.elim_some,lastTokens,List.append_assoc,declarations_gap,h]
      simp [Css.declarations]
  simp only [Body.tokens,Body.declarations]
  induction ended with
  | nil => exact hlast
  | cons p ended ih =>
    simp only [List.flatMap_cons,endedTokens,List.append_assoc,List.map_cons,List.cons_append]
    have hunit : ∀ rest, takeUnit (mark ';' :: rest) = ([],rest) :=
      fun rest => takeUnit_semicolon (by decide) rest
    rw [declarations_gap,declarations_entry _ _ (by rw [hunit]),hunit]
    exact congrArg _ ih

/-! ## Selectors -/

theorem Break.tokens_eq (b : Break) :
    b.tokens = [.leaf [] (.whitespace (preprocess b.text))] := by
  rw [Gap.tokens,if_neg b.parts]

theorem writeTokens_class (n : Name) {ts : List Token}
    (h : ∀ t ∈ ts.head?, t.isWhitespace = true) :
    writeTokens (classTokens n ++ ts) = .char '.' :: n.text ++ writeTokens ts := by
  have hmark : separator (mark '.') (.leaf [] (.ident n.text)) = [] := by rfl
  have hwrite : (Token.leaf [] (.ident n.text)).write = n.text :=
    writeIdent_eq_self n.isNamePart_of_mem n.starts
  have hpoint : (mark '.').write = [.char '.'] := rfl
  cases ts with
  | nil => simp [classTokens,writeTokens,hmark,hwrite,hpoint]
  | cons t ts =>
    obtain ⟨m,source,rfl⟩ := Token.eq_whitespace (h t rfl)
    have hgap : separator (.leaf [] (.ident n.text)) (.leaf m (.whitespace source)) = [] := rfl
    simp [classTokens,writeTokens,hmark,hwrite,hpoint,hgap]

theorem writeTokens_break (b : Break) (n : Name) (ts : List Token) :
    writeTokens (b.tokens ++ (classTokens n ++ ts)) =
      preprocess b.text ++ writeTokens (classTokens n ++ ts) := by
  have hmark : separator (.leaf [] (.whitespace (preprocess b.text))) (mark '.') = [] := rfl
  rw [b.tokens_eq]
  simp [classTokens,writeTokens,hmark,Token.write,Leaf.write]

theorem words_selector (first : Name) (others : List (Break × Name)) (g : Gap) :
    Text.words (writeTokens (Selector.tokens ⟨first,others⟩ ++ g.tokens)) =
      (.char '.' :: first.text) :: others.map fun p => .char '.' :: p.2.text := by
  have hword : ∀ n : Name, ∀ c ∈ .char '.' :: n.text, c.isBlank = false := by
    intro n c hc
    rcases List.mem_cons.mp hc with rfl | hc
    · rfl
    · exact not_isBlank_of_isPlain (n.plain c hc)
  have hbreak : ∀ b : Break, ∀ c ∈ preprocess b.text, c.isBlank = true := by
    intro b c hc
    exact isBlank_write_gap b.toGap c (by simpa [b.tokens_eq,writeTokens,Token.write,Leaf.write])
  induction others generalizing first with
  | nil =>
    simp only [Selector.tokens,List.flatMap_nil,List.append_nil,List.map_nil]
    have hgap := isBlank_write_gap g
    rw [writeTokens_class first fun t ht => isWhitespace_gap g t (List.mem_of_mem_head? ht),
      Text.words_word (by simp) (hword first) fun c hc => hgap c (List.mem_of_mem_head? hc)]
    have hnil := Text.words_blanks hgap []
    rw [List.append_nil] at hnil
    rw [hnil,Text.words_nil]
  | cons p others ih =>
    obtain ⟨b,n⟩ := p
    have htail := ih n
    simp only [Selector.tokens,List.flatMap_cons,List.append_assoc,List.map_cons] at htail ⊢
    obtain ⟨c,tail,hc⟩ := List.exists_cons_of_ne_nil (preprocess_ne_nil b.parts)
    rw [writeTokens_class first,writeTokens_break,Text.words_word (by simp) (hword first),
      Text.words_blanks (hbreak b),htail]
    · intro d hd
      rw [hc] at hd
      cases hd
      exact hbreak b c (by simp [hc])
    · intro t ht
      rw [b.tokens_eq] at ht
      cases ht
      rfl

/-- A selector is read with its gaps made single spaces. -/
theorem selectorText_tokens (s : Selector) (g : Gap) :
    selectorText (s.tokens ++ g.tokens) = s.normal := by
  rw [selectorText,words_selector s.first s.others,Text.joinWith_cons,Selector.normal,spaced]

/-! ## Rules -/

theorem rulesIn_gap (outermost : Bool) (g : Gap) (ts : List Token) :
    rulesIn outermost (g.tokens ++ ts) = rulesIn outermost ts := by
  unfold Gap.tokens
  split
  · rfl
  · exact rulesIn_skip rfl ts

theorem takePrelude_append (stop : Bool) {ts : List Token}
    (h : ∀ t ∈ ts, t.continues = true) (rest : List Token) :
    takePrelude stop (ts ++ rest) =
      ⟨ts ++ (takePrelude stop rest).tokens,(takePrelude stop rest).content,
        (takePrelude stop rest).rest⟩ := by
  induction ts with
  | nil => rfl
  | cons t ts ih =>
    have ht := h t List.mem_cons_self
    simp only [Token.continues,Bool.and_eq_true,Bool.not_eq_true',Option.isNone_iff_eq_none] at ht
    simp [takePrelude,ht,ih fun u hu => h u (List.mem_cons_of_mem _ hu)]

theorem continues_gap (g : Gap) : ∀ t ∈ g.tokens, t.continues = true := by
  intro t ht
  obtain ⟨m,source,rfl⟩ := Token.eq_whitespace (isWhitespace_gap g t ht)
  rfl

theorem continues_class (n : Name) : ∀ t ∈ classTokens n, t.continues = true := by
  intro t ht
  simp only [classTokens,List.mem_cons,List.not_mem_nil,or_false] at ht
  obtain rfl | rfl := ht
  · decide
  · rfl

theorem continues_selector (s : Selector) : ∀ t ∈ s.tokens, t.continues = true := by
  intro t ht
  simp only [Selector.tokens,List.mem_append,List.mem_flatMap] at ht
  obtain ht | ⟨p,-,ht | ht⟩ := ht
  · exact continues_class _ t ht
  · exact continues_gap _ t ht
  · exact continues_class _ t ht

theorem continues_condition (c : Condition) : ∀ t ∈ c.tokens, t.continues = true := by
  intro t ht
  rw [List.mem_singleton.mp ht]
  rfl

theorem continues_prelude (h : Head) : ∀ t ∈ h.prelude, t.continues = true := by
  intro t ht
  simp only [Head.prelude,termTokens,List.mem_append,List.mem_flatMap] at ht
  obtain ht | ⟨p,-,ht | ht⟩ | ht := ht
  · cases hc : h.attached with
    | none =>
      rw [hc] at ht
      cases ht
    | some c =>
      rw [hc] at ht
      exact continues_condition c t ht
  · exact continues_gap _ t ht
  · cases hp : p.2 with
    | name n =>
      rw [hp] at ht
      rw [List.mem_singleton.mp ht]
      rfl
    | condition c =>
      rw [hp] at ht
      exact continues_condition c t ht
  · exact continues_gap _ t ht

theorem rulesIn_style_item (outermost : Bool) (s : Selector) (g : Gap) (content : List Token)
    (rest : List Token) :
    rulesIn outermost (s.tokens ++ (g.tokens ++ curly content :: rest)) =
      ⟨s.normal,Css.declarations content⟩ :: rulesIn outermost rest := by
  have hprelude : takePrelude false (s.tokens ++ (g.tokens ++ curly content :: rest)) =
      ⟨s.tokens ++ g.tokens,some content,rest⟩ := by
    rw [takePrelude_append false (continues_selector s),
      takePrelude_append false (continues_gap g)]
    simp [takePrelude,curly,Token.curly?]
  have hskip : skipsAt outermost (mark '.') = false := by cases outermost <;> decide
  have hcons : s.tokens ++ (g.tokens ++ curly content :: rest) = mark '.' ::
      (.leaf [] (.ident s.first.text) ::
        (s.others.flatMap fun p => p.1.tokens ++ classTokens p.2) ++
          (g.tokens ++ curly content :: rest)) := rfl
  rw [hcons] at hprelude ⊢
  rw [rulesIn_style hskip rfl,hprelude]
  simp only [selectorText_tokens]

theorem rulesIn_at_item (outermost : Bool) (h : Head) (rest : List Token) :
    rulesIn outermost (h.tokens ++ rest) =
      rulesOfGroup h.keyword.text (takePrelude true rest).content ++
        rulesIn outermost (takePrelude true rest).rest := by
  rw [Head.tokens,List.cons_append,rulesIn_atKeyword,takePrelude_append true (continues_prelude h)]

mutual

theorem rulesIn_item (outermost : Bool) (i : Item) (rest : List Token) :
    rulesIn outermost (i.tokens ++ rest) = i.rules ++ rulesIn outermost rest := by
  cases i with
  | comment before c => exact rulesIn_gap outermost before rest
  | style before selector gap body =>
    simp only [Item.tokens,Item.rules,List.append_assoc,List.singleton_append]
    rw [rulesIn_gap,rulesIn_style_item,declarations_body]
  | statement before head =>
    simp only [Item.tokens,Item.rules,List.append_assoc,List.singleton_append]
    rw [rulesIn_gap,rulesIn_at_item]
    rfl
  | block before head items after =>
    simp only [Item.tokens,Item.rules,List.append_assoc,List.singleton_append]
    have hafter : rulesIn false after.tokens = [] := by
      have := rulesIn_gap false after []
      rwa [List.append_nil,rulesIn_nil] at this
    rw [rulesIn_gap,rulesIn_at_item]
    have hcontent : rulesIn false (itemsTokens items ++ after.tokens) = itemsRules items := by
      rw [rulesIn_items false items,hafter,List.append_nil]
    simp only [curly,takePrelude,Token.curly?,rulesOfGroup,hcontent]

theorem rulesIn_items (outermost : Bool) (items : List Item) (rest : List Token) :
    rulesIn outermost (itemsTokens items ++ rest) = itemsRules items ++ rulesIn outermost rest := by
  cases items with
  | nil => rfl
  | cons i items =>
    rw [itemsTokens,itemsRules,List.append_assoc,rulesIn_item outermost i,
      rulesIn_items outermost items,List.append_assoc]

end

/-- A written sheet can be read, and the rules in it are those of its tree. -/
theorem Sheet.reads (s : Sheet) : Reads s.text s.rules := by
  have hlexed : lexed s.text = flatAll (itemsTokens s.items ++ s.after.tokens) := by
    have hafter := s.after.lexed_append (show solid [] = true from rfl)
    rw [List.append_nil] at hafter
    rw [Sheet.text,lexed_itemsText,hafter,flatAll_append]
    simp [lexed,preprocess]
  have hreadable := readable_append.mpr ⟨readable_items s.items,readable_gap s.after⟩
  rw [reads_iff,hlexed,nested_flatAll (hreadable.2 none),rulesIn_bare]
  constructor
  · exact hreadable.1
  · have hafter := rulesIn_gap true s.after []
    rw [List.append_nil,rulesIn_nil] at hafter
    rw [rulesIn_items,hafter,List.append_nil,Sheet.rules]

end StyleLift.Css.Written

namespace StyleLift

/-- Whatever the tree, reading its text returns its rules from left to right. -/
theorem readRules_written (s : Css.Written.Sheet) : (readRules s.text).outcome = .ok s.rules := by
  obtain ⟨sheet,hread,hrules⟩ := s.reads
  rw [readRules_outcome,hread,← hrules]
  rfl

end StyleLift
