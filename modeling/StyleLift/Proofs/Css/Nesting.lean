import StyleLift.Proofs.Css.Marks

/-! # Lexemes and the tokens they make

Tokens nest the lexemes of a text, and writing out the brackets again undoes it. What is read from
a text depends on its lexemes alone: the rules on how they nest, and whether there are any on the
lengths of its integers.
-/
namespace StyleLift.Css

/-! ## Nesting without marks -/

/-- Tokens of lexemes that come from nowhere in particular. -/
def nested (ls : List Lexeme) : List Token := nest (ls.map fun l => ([],l))

def OpenBlock.bare (b : OpenBlock) : OpenBlock := ⟨[],b.opener,b.before.map Token.bare⟩

theorem OpenBlock.close_bare (b : OpenBlock) (content : List Token) :
    b.bare.close (content.map Token.bare) = (b.close content).map Token.bare := by
  simp [OpenBlock.close,OpenBlock.bare,← List.map_reverse]

theorem closeAll_bare (level : List Token) (stack : List OpenBlock) :
    closeAll (level.map Token.bare) (stack.map OpenBlock.bare) =
      (closeAll level stack).map Token.bare := by
  induction stack generalizing level with
  | nil => simp [closeAll]
  | cons b outer ih => rw [List.map_cons,closeAll,closeAll,b.close_bare,ih]

theorem nestFrom_bare (level : List Token) (stack : List OpenBlock) (ls : List (Text × Lexeme)) :
    nestFrom (level.map Token.bare) (stack.map OpenBlock.bare) (ls.map fun p => ([],p.2)) =
      (nestFrom level stack ls).map Token.bare := by
  fun_induction nestFrom level stack ls with
  | case1 level stack => simpa [nestFrom] using closeAll_bare level stack
  | case2 level stack m l rest ih => simpa [nestFrom] using ih
  | case3 level stack m o rest ih => simpa [nestFrom,OpenBlock.bare] using ih
  | case4 level m c rest ih => simpa [nestFrom] using ih
  | case5 level b outer m rest ih =>
    rw [← ih,← b.close_bare]
    simp [nestFrom,OpenBlock.bare]
  | case6 level b outer m c rest h ih =>
    rw [← ih]
    simp [nestFrom,OpenBlock.bare,h]

/-- The lexemes of a text as it stands. -/
def kinds (s : Text) : List Lexeme := (lexemes s).map Prod.snd

/-- The lexemes of a text with its line ends made newlines. -/
def lexed (s : Text) : List Lexeme := kinds (preprocess s)

theorem nested_kinds (s : Text) : nested (kinds s) = (nest (lexemes s)).map Token.bare := by
  rw [nested,nest,nest,kinds,List.map_map]
  exact nestFrom_bare [] [] (lexemes s)

@[simp] theorem kinds_nil : kinds [] = [] := by simp [kinds,lexemes]

theorem kinds_cons (c : CodePoint) (rest : Text) :
    kinds (c :: rest) = (next c rest).1.toList ++ kinds (next c rest).2 := by
  rw [kinds,lexemes]
  cases h : (next c rest).1 <;> simp [kinds]

/-! ## Reading -/

def Lexeme.digitCount : Lexeme → Nat
  | .leaf l => l.digitCount
  | _ => 0

theorem checkNumbers_eq_ok {ls : List (Text × Lexeme)} :
    checkNumbers ls = .ok () ↔ ∀ l ∈ ls.map Prod.snd, l.digitCount ≤ Numeral.digitLimit := by
  fun_induction checkNumbers ls with
  | case1 => simp
  | case2 m l rest h ih =>
    have hl : l.digitCount ≤ Numeral.digitLimit := by
      refine Nat.le_of_not_lt fun hlt => ?_
      simp [Numeral.checkDigits,hlt] at h
    simp [ih,Lexeme.digitCount,hl]
  | case3 m l rest e h =>
    have hl : ¬ l.digitCount ≤ Numeral.digitLimit := by
      intro hle
      simp [Numeral.checkDigits,Nat.not_lt.mpr hle] at h
    simp [Lexeme.digitCount,hl]
  | case4 p rest hp ih =>
    have hz : p.2.digitCount = 0 := by
      obtain ⟨m,l⟩ := p
      cases l with
      | leaf l => exact (hp m l rfl).elim
      | _ => rfl
    simp [ih,hz]

/-- A text is read as some rules, and can be read at all. -/
def Reads (css : Text) (rules : List Rule) : Prop :=
  ∃ sheet, read css = .ok sheet ∧ sheet.rules = rules

theorem reads_iff {css : Text} {rules : List Rule} :
    Reads css rules ↔ (∀ l ∈ lexed css, l.digitCount ≤ Numeral.digitLimit) ∧
      rulesIn true (nested (lexed css)) = rules := by
  have hrules : rulesIn true (nested (lexed css)) =
      rulesIn true (nest (lexemes (preprocess css))) := by
    rw [lexed,nested_kinds,rulesIn_bare]
  rw [hrules,lexed,kinds,← checkNumbers_eq_ok]
  unfold Reads read tokens
  cases h : checkNumbers (lexemes (preprocess css)) with
  | error e => simp [h,Except.map,bind,Except.bind]
  | ok u => simp [h,Except.map,bind,Except.bind,pure,Except.pure,rulesIn]

/-! ## Writing the brackets out -/

mutual

/-- The lexemes that a token is made of. -/
def Token.flat : Token → List Lexeme
  | .leaf _ (.stray b) => [.closing b]
  | .leaf _ l => [.leaf l]
  | .block _ o content => .opening o :: flatAll content ++ [.closing o.closer]

def flatAll : List Token → List Lexeme
  | [] => []
  | t :: rest => t.flat ++ flatAll rest

end

@[simp] theorem flatAll_append (ts us : List Token) :
    flatAll (ts ++ us) = flatAll ts ++ flatAll us := by
  induction ts with
  | nil => rfl
  | cons t rest ih => rw [List.cons_append,flatAll,flatAll,ih,List.append_assoc]

mutual

/-- Whether every stray bracket of a token stands where it closes nothing; `closer` is what closes
the block around the token. -/
def Token.fits (closer : Option Bracket) : Token → Bool
  | .leaf _ (.stray b) => closer != some b
  | .leaf _ _ => true
  | .block _ o content => fitsAll (some o.closer) content

def fitsAll (closer : Option Bracket) : List Token → Bool
  | [] => true
  | t :: rest => t.fits closer && fitsAll closer rest

end

@[simp] theorem fitsAll_append (closer : Option Bracket) (ts us : List Token) :
    fitsAll closer (ts ++ us) = (fitsAll closer ts && fitsAll closer us) := by
  induction ts with
  | nil => rfl
  | cons t rest ih => rw [List.cons_append,fitsAll,fitsAll,ih,Bool.and_assoc]

@[simp] theorem fitsAll_reverse (closer : Option Bracket) (ts : List Token) :
    fitsAll closer ts.reverse = fitsAll closer ts := by
  induction ts with
  | nil => rfl
  | cons t rest ih => simp [fitsAll,ih,Bool.and_comm]

/-- What closes the innermost block. -/
def awaited : List OpenBlock → Option Bracket
  | [] => none
  | b :: _ => some b.opener.closer

mutual

theorem nestFrom_flat (t : Token) (level : List Token) (stack : List OpenBlock)
    (h : t.fits (awaited stack) = true) (rest : List Lexeme) :
    nestFrom level stack ((t.flat ++ rest).map fun l => ([],l)) =
      nestFrom (t.bare :: level) stack (rest.map fun l => ([],l)) := by
  cases t with
  | leaf m l =>
    cases l with
    | stray b =>
      cases stack with
      | nil => simp [Token.flat,nestFrom]
      | cons block outer =>
        have hne : block.opener.closer ≠ b := by
          rintro rfl
          simp [Token.fits,awaited] at h
        simp [Token.flat,nestFrom,hne]
    | _ => simp [Token.flat,nestFrom]
  | block m o content =>
    simp only [Token.flat,List.cons_append,List.append_assoc,List.map_cons,nestFrom]
    rw [nestFrom_flatAll content [] _ (by simpa [Token.fits,awaited] using h),List.append_nil]
    simp [nestFrom,OpenBlock.close,Token.bare,bareAll_eq_map]

theorem nestFrom_flatAll (ts : List Token) (level : List Token) (stack : List OpenBlock)
    (h : fitsAll (awaited stack) ts = true) (rest : List Lexeme) :
    nestFrom level stack ((flatAll ts ++ rest).map fun l => ([],l)) =
      nestFrom ((ts.map Token.bare).reverse ++ level) stack (rest.map fun l => ([],l)) := by
  cases ts with
  | nil => rfl
  | cons t ts =>
    rw [fitsAll,Bool.and_eq_true] at h
    rw [flatAll,List.append_assoc,nestFrom_flat t level stack h.1,
      nestFrom_flatAll ts _ stack h.2]
    simp

end

/-- Nesting the lexemes of some tokens gives these tokens again. -/
theorem nested_flatAll {ts : List Token} (hfits : fitsAll none ts = true) :
    nested (flatAll ts) = ts.map Token.bare := by
  have h := nestFrom_flatAll ts [] [] hfits []
  rw [List.append_nil,List.append_nil] at h
  rw [nested,nest,h]
  simp [nestFrom,closeAll]

/-! ## Nothing is lost -/

/-- The lexemes of the tokens read so far. -/
def flatOpen : List Token → List OpenBlock → List Lexeme
  | level, [] => flatAll level.reverse
  | level, b :: outer => flatOpen b.before outer ++ .opening b.opener :: flatAll level.reverse

/-- Whether the tokens read so far stand where they fit. -/
def fitsOpen : List Token → List OpenBlock → Bool
  | level, [] => fitsAll none level
  | level, b :: outer => fitsAll (some b.opener.closer) level && fitsOpen b.before outer

theorem flat_leaf {m : Text} {l : Leaf} (h : ∀ b, l ≠ .stray b) :
    (Token.leaf m l).flat = [.leaf l] := by
  cases l <;> first | rfl | exact (h _ rfl).elim

theorem fits_leaf (closer : Option Bracket) {m : Text} {l : Leaf} (h : ∀ b, l ≠ .stray b) :
    (Token.leaf m l).fits closer = true := by
  cases l <;> first | rfl | exact (h _ rfl).elim

theorem flatOpen_cons (level : List Token) (stack : List OpenBlock) (t : Token) :
    flatOpen (t :: level) stack = flatOpen level stack ++ t.flat := by
  cases stack <;> simp [flatOpen,flatAll]

theorem flatOpen_close (b : OpenBlock) (level : List Token) (outer : List OpenBlock) :
    flatOpen (b.close level) outer =
      flatOpen level (b :: outer) ++ [.closing b.opener.closer] := by
  rw [OpenBlock.close,flatOpen_cons,flatOpen]
  simp [Token.flat]

theorem fitsOpen_cons (level : List Token) (stack : List OpenBlock) (t : Token) :
    fitsOpen (t :: level) stack = (t.fits (awaited stack) && fitsOpen level stack) := by
  cases stack <;> simp [fitsOpen,fitsAll,awaited,Bool.and_assoc]

theorem fitsOpen_close {b : OpenBlock} {level : List Token} {outer : List OpenBlock}
    (h : fitsOpen level (b :: outer) = true) : fitsOpen (b.close level) outer = true := by
  rw [fitsOpen,Bool.and_eq_true] at h
  rw [OpenBlock.close,fitsOpen_cons,h.2,Token.fits]
  simpa using h.1

/-- Closing all blocks only adds closing brackets. -/
theorem closeAll_flat {level : List Token} {stack : List OpenBlock}
    (h : fitsOpen level stack = true) :
    fitsAll none (closeAll level stack) = true ∧ ∃ closers : List Bracket,
      flatAll (closeAll level stack) = flatOpen level stack ++ closers.map Lexeme.closing := by
  induction stack generalizing level with
  | nil => exact ⟨by simpa [fitsOpen,closeAll] using h,[],by simp [closeAll,flatOpen]⟩
  | cons b outer ih =>
    obtain ⟨hfits,closers,hflat⟩ := ih (fitsOpen_close h)
    refine ⟨hfits,b.opener.closer :: closers,?_⟩
    rw [closeAll,hflat,flatOpen_close]
    simp

theorem nestFrom_flat_eq {ls : List (Text × Lexeme)} (hls : ∀ p ∈ ls, ∀ b, p.2 ≠ .leaf (.stray b))
    {level : List Token} {stack : List OpenBlock} (h : fitsOpen level stack = true) :
    fitsAll none (nestFrom level stack ls) = true ∧ ∃ closers : List Bracket,
      flatAll (nestFrom level stack ls) =
        flatOpen level stack ++ (ls.map Prod.snd ++ closers.map Lexeme.closing) := by
  fun_induction nestFrom level stack ls with
  | case1 level stack => simpa using closeAll_flat h
  | case2 level stack m l rest ih =>
    have hl : ∀ b, l ≠ .stray b := fun b e => hls _ List.mem_cons_self b (by rw [e])
    obtain ⟨hfits,closers,hflat⟩ := ih (fun p hp => hls p (List.mem_cons_of_mem _ hp))
      (by rw [fitsOpen_cons,fits_leaf _ hl,h]; rfl)
    refine ⟨hfits,closers,?_⟩
    rw [hflat,flatOpen_cons,flat_leaf hl]
    simp
  | case3 level stack m o rest ih =>
    obtain ⟨hfits,closers,hflat⟩ := ih (fun p hp => hls p (List.mem_cons_of_mem _ hp))
      (by simpa [fitsOpen,fitsAll] using h)
    refine ⟨hfits,closers,?_⟩
    rw [hflat,flatOpen]
    simp [flatAll]
  | case4 level m c rest ih =>
    obtain ⟨hfits,closers,hflat⟩ := ih (fun p hp => hls p (List.mem_cons_of_mem _ hp))
      (by rw [fitsOpen_cons,h]; rfl)
    refine ⟨hfits,closers,?_⟩
    rw [hflat,flatOpen_cons]
    simp [Token.flat]
  | case5 level b outer m rest ih =>
    obtain ⟨hfits,closers,hflat⟩ := ih (fun p hp => hls p (List.mem_cons_of_mem _ hp))
      (fitsOpen_close h)
    refine ⟨hfits,closers,?_⟩
    rw [hflat,flatOpen_close]
    simp
  | case6 level b outer m c rest hne ih =>
    obtain ⟨hfits,closers,hflat⟩ := ih (fun p hp => hls p (List.mem_cons_of_mem _ hp))
      (by rw [fitsOpen_cons,h]; simpa [Token.fits,awaited] using hne)
    refine ⟨hfits,closers,?_⟩
    rw [hflat,flatOpen_cons]
    simp [Token.flat]

/-- Tokens hold all the lexemes they were made of, in order; only brackets that the end of the text
closes are added. -/
theorem nest_flat {ls : List (Text × Lexeme)} (hls : ∀ p ∈ ls, ∀ b, p.2 ≠ .leaf (.stray b)) :
    fitsAll none (nest ls) = true ∧ ∃ closers : List Bracket,
      flatAll (nest ls) = ls.map Prod.snd ++ closers.map Lexeme.closing := by
  simpa [nest,flatOpen,flatAll] using nestFrom_flat_eq hls (show fitsOpen [] [] = true from rfl)

theorem nested_flat {ls : List Lexeme} (h : ∀ l ∈ ls, ∀ b, l ≠ .leaf (.stray b)) :
    fitsAll none (nested ls) = true ∧ ∃ closers : List Bracket,
      flatAll (nested ls) = ls ++ closers.map Lexeme.closing := by
  have hmap : ∀ p ∈ ls.map fun l => (([] : Text),l), ∀ b, p.2 ≠ .leaf (.stray b) := by
    intro p hp
    obtain ⟨l,hl,rfl⟩ := List.mem_map.mp hp
    exact h l hl
  simpa [nested,Function.comp_def] using nest_flat hmap

/-! ## Back to tokens -/

theorem flatAll_eq_leaf {ts : List Token} {l : Leaf} {ls : List Lexeme}
    (h : flatAll ts = .leaf l :: ls) : ∃ m rest, ts = .leaf m l :: rest ∧ flatAll rest = ls := by
  cases ts with
  | nil => cases h
  | cons t rest =>
    rw [flatAll] at h
    cases t with
    | block m o content => cases h
    | leaf m k =>
      cases k <;> cases h
      all_goals exact ⟨m,rest,rfl,rfl⟩

theorem flatAll_eq_opening {ts : List Token} {o : Opener} {ls : List Lexeme}
    (h : flatAll ts = .opening o :: ls) :
    ∃ m content rest, ts = .block m o content :: rest ∧
      flatAll content ++ .closing o.closer :: flatAll rest = ls := by
  cases ts with
  | nil => cases h
  | cons t rest =>
    rw [flatAll] at h
    cases t with
    | leaf m k => cases k <;> cases h
    | block m o content =>
      cases h
      exact ⟨m,content,rest,rfl,by simp⟩

/-- Tokens whose last lexeme is no bracket end in a token that is no block. -/
theorem flatAll_eq_append_leaf {ts : List Token} {l : Leaf} {ls : List Lexeme}
    (h : flatAll ts = ls ++ [.leaf l]) :
    ∃ m rest, ts = rest ++ [.leaf m l] ∧ flatAll rest = ls := by
  rcases List.eq_nil_or_concat ts with rfl | ⟨rest,t,rfl⟩
  · exact absurd h (by simp [flatAll])
  · rw [List.concat_eq_append] at h ⊢
    simp only [flatAll_append,flatAll,List.append_nil] at h
    cases t with
    | block m o content =>
      rw [Token.flat,← List.append_assoc] at h
      exact absurd (List.append_inj_right' h rfl) (by simp)
    | leaf m k =>
      cases k
      case stray b =>
        rw [Token.flat] at h
        exact absurd (List.append_inj_right' h rfl) (by simp)
      all_goals
        obtain ⟨rfl,hk⟩ := List.append_inj' h rfl
        cases hk
        exact ⟨m,rest,rfl,rfl⟩

/-- Tokens that start with some leaves are these leaves and then others. -/
theorem flatAll_eq_append {us : List Token}
    (hus : ∀ u ∈ us, ∃ m l, u = .leaf m l ∧ ∀ b, l ≠ .stray b) {ts : List Token} {ls : List Lexeme}
    (h : flatAll ts = flatAll us ++ ls) :
    ∃ vs rest, ts = vs ++ rest ∧ vs.map Token.bare = us.map Token.bare ∧ flatAll rest = ls := by
  induction us generalizing ts with
  | nil => exact ⟨[],ts,rfl,rfl,h⟩
  | cons u us ih =>
    obtain ⟨m,l,rfl,hl⟩ := hus u List.mem_cons_self
    rw [flatAll,flat_leaf hl] at h
    obtain ⟨k,tail,rfl,htail⟩ := flatAll_eq_leaf h
    obtain ⟨vs,rest,rfl,hvs,hrest⟩ := ih (fun v hv => hus v (List.mem_cons_of_mem _ hv)) htail
    exact ⟨.leaf k l :: vs,rest,rfl,by rw [List.map_cons,List.map_cons,hvs]; rfl,hrest⟩

/-! ## Leaves and their places -/

mutual

/-- The leaves of a token that were lexemes. -/
def Token.leaves : Token → List (Text × Leaf)
  | .leaf _ (.stray _) => []
  | .leaf m l => [(m,l)]
  | .block _ _ content => leavesAll content

def leavesAll : List Token → List (Text × Leaf)
  | [] => []
  | t :: rest => t.leaves ++ leavesAll rest

end

@[simp] theorem leavesAll_append (ts us : List Token) :
    leavesAll (ts ++ us) = leavesAll ts ++ leavesAll us := by
  induction ts with
  | nil => rfl
  | cons t rest ih => rw [List.cons_append,leavesAll,leavesAll,ih,List.append_assoc]

theorem leaves_leaf {m : Text} {l : Leaf} (h : ∀ b, l ≠ .stray b) :
    (Token.leaf m l).leaves = [(m,l)] := by
  cases l <;> first | rfl | exact (h _ rfl).elim

def leavesOpen : List Token → List OpenBlock → List (Text × Leaf)
  | level, [] => leavesAll level.reverse
  | level, b :: outer => leavesOpen b.before outer ++ leavesAll level.reverse

theorem leavesOpen_cons (level : List Token) (stack : List OpenBlock) (t : Token) :
    leavesOpen (t :: level) stack = leavesOpen level stack ++ t.leaves := by
  cases stack <;> simp [leavesOpen,leavesAll]

theorem leavesOpen_close (b : OpenBlock) (level : List Token) (outer : List OpenBlock) :
    leavesOpen (b.close level) outer = leavesOpen level (b :: outer) := by
  rw [OpenBlock.close,leavesOpen_cons,leavesOpen,Token.leaves]

theorem closeAll_leaves (level : List Token) (stack : List OpenBlock) :
    leavesAll (closeAll level stack) = leavesOpen level stack := by
  induction stack generalizing level with
  | nil => rfl
  | cons b outer ih => rw [closeAll,ih,leavesOpen_close]

/-- A lexeme that is a leaf of its own, with its place. -/
def leaf? : Text × Lexeme → Option (Text × Leaf)
  | (m,.leaf l) => some (m,l)
  | _ => none

theorem nestFrom_leaves {ls : List (Text × Lexeme)} (hls : ∀ p ∈ ls, ∀ b, p.2 ≠ .leaf (.stray b))
    (level : List Token) (stack : List OpenBlock) :
    leavesAll (nestFrom level stack ls) = leavesOpen level stack ++ ls.filterMap leaf? := by
  fun_induction nestFrom level stack ls with
  | case1 level stack => simpa using closeAll_leaves level stack
  | case2 level stack m l rest ih =>
    have hl : ∀ b, l ≠ .stray b := fun b e => hls _ List.mem_cons_self b (by rw [e])
    rw [ih fun p hp => hls p (List.mem_cons_of_mem _ hp),leavesOpen_cons,leaves_leaf hl]
    simp [leaf?]
  | case3 level stack m o rest ih =>
    rw [ih fun p hp => hls p (List.mem_cons_of_mem _ hp)]
    simp [leavesOpen,leavesAll,List.filterMap_cons,leaf?]
  | case4 level m c rest ih =>
    rw [ih fun p hp => hls p (List.mem_cons_of_mem _ hp),leavesOpen_cons]
    simp [Token.leaves,List.filterMap_cons,leaf?]
  | case5 level b outer m rest ih =>
    rw [ih fun p hp => hls p (List.mem_cons_of_mem _ hp),leavesOpen_close]
    simp [List.filterMap_cons,leaf?]
  | case6 level b outer m c rest hne ih =>
    rw [ih fun p hp => hls p (List.mem_cons_of_mem _ hp),leavesOpen_cons]
    simp [Token.leaves,List.filterMap_cons,leaf?]

/-- The leaves of the tokens are the lexemes they were made of, each at its place. -/
theorem nest_leaves {ls : List (Text × Lexeme)} (hls : ∀ p ∈ ls, ∀ b, p.2 ≠ .leaf (.stray b)) :
    leavesAll (nest ls) = ls.filterMap leaf? := by
  simpa [nest,leavesOpen,leavesAll] using nestFrom_leaves hls [] []

end StyleLift.Css
