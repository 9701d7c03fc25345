import StyleLift.Proofs.Css.Bodies
import StyleLift.Proofs.Css.Runs
import StyleLift.Proofs.Css.WrittenRules

/-! # Declarations that can be read back

A declaration is legible if it is read back from a block of its own and the semicolon after it is
still there to end it. What is read from it does not depend on that block: the same tokens are
read before any semicolon, and before the bracket that closes a rule. The same holds of any text
that is read in a block of its own, such as the head of a rule before the bracket that opens it.
-/
namespace StyleLift

/-- A declaration in a block of its own. -/
def Declaration.block (d : Declaration) : Text :=
  Text.ofString "\x7b " ++ d.toCss ++ Text.ofString ";\x7d"

/-- The block is one block, its last token the semicolon at the end of the declaration, and what
stands before it declares just what was written. -/
def Declaration.Legible (d : Declaration) : Prop :=
  ∃ mark before, Css.tokens d.block =
    .ok [.block mark (.bracket .curly) (before ++ [.leaf ";\x7d" (.literal ";")])] ∧
    Css.declarations before = [d]

namespace Css

open Written

/-! ## Texts that stand on their own -/

/-- A text that is read as the same tokens of a rule's body, whatever follows it there. -/
structure Stands (blank : Bool) (s : Text) (ts : List Token) : Prop where
  ended : Ended blank (preprocess s) (flatAll ts)
  fits : fitsAll (some .curly) ts = true
  numbers : ∀ l ∈ flatAll ts, l.digitCount ≤ Numeral.digitLimit

variable {blank : Bool} {s : Text} {ts : List Token}

theorem kinds_semicolon (rest : Text) :
    kinds (.char ';' :: rest) = .leaf (.literal ";") :: kinds rest := kinds_mark rfl rest

theorem kinds_close (rest : Text) :
    kinds (.char '\x7d' :: rest) = .closing .curly :: kinds rest := kinds_mark rfl rest

theorem Ended.kinds_semicolon {piece : Text} {ls : List Lexeme} (h : Ended blank piece ls)
    (rest : Text) : Run (piece ++ .char ';' :: rest) ls (.char ';' :: rest) := by
  obtain ⟨after,hleaves,hrun⟩ := h _ (.semicolon rest)
  rcases hleaves with rfl | ⟨-,hspace⟩
  · exact hrun
  · cases hspace

theorem Stands.lexed_semicolon (h : Stands blank s ts) (rest : Text) :
    lexed (s ++ .char ';' :: rest) = flatAll ts ++ .leaf (.literal ";") :: lexed rest := by
  rw [lexed,preprocess_append (by simp),preprocess_cons (by decide)]
  have hrun := (h.ended.kinds_semicolon (preprocess rest)).kinds_eq
  rw [Css.kinds_semicolon] at hrun
  exact hrun

theorem Stands.lexed_opening (h : Stands blank s ts) (rest : Text) :
    lexed (s ++ .char '\x7b' :: rest) = flatAll ts ++ markLexeme '\x7b' :: lexed rest := by
  obtain ⟨after,hleaves,hrun⟩ := h.ended _ (.opening (preprocess rest))
  rw [lexed,preprocess_append (by simp),preprocess_cons (by decide)]
  rcases hleaves with rfl | ⟨-,hspace⟩
  · have hopening := hrun.kinds_eq
    rw [kinds_mark rfl] at hopening
    exact hopening
  · cases hspace

theorem Stands.lexed_close (h : Stands true s ts) (rest : Text) :
    ∃ gap, (gap = [] ∨ gap = [space]) ∧
      lexed (s ++ .char ' ' :: .char '\x7d' :: rest) =
        flatAll (ts ++ gap) ++ .closing .curly :: lexed rest := by
  have hpreprocess : preprocess (s ++ .char ' ' :: .char '\x7d' :: rest) =
      preprocess s ++ .char ' ' :: .char '\x7d' :: preprocess rest := by
    rw [preprocess_append (by simp),preprocess_cons (by decide),preprocess_cons (by decide)]
    rfl
  obtain ⟨after,hleaves,hrun⟩ := h.ended _ (.close rfl (preprocess rest))
  rw [lexed,hpreprocess,hrun.kinds_eq]
  rcases hleaves with rfl | ⟨-,hspace⟩
  · refine ⟨[space],.inr rfl,?_⟩
    have hblank : kinds ([.char ' '] ++ .char '\x7d' :: preprocess rest) = _ :=
      kinds_blank (by simp) (by decide) (by simp [isSpace])
    rw [List.singleton_append] at hblank
    rw [hblank,kinds_close]
    simp [flatAll,space,Token.flat,lexed]
  · cases hspace
    refine ⟨[],.inl rfl,?_⟩
    rw [kinds_close,List.append_nil]
    rfl

/-! ## Lexemes of a text -/

theorem tokens_eq_ok {s : Text} {ts : List Token} :
    tokens s = .ok ts ↔ (∀ l ∈ lexed s, l.digitCount ≤ Numeral.digitLimit) ∧
      nest (lexemes (preprocess s)) = ts := by
  rw [tokens,lexed,kinds,← checkNumbers_eq_ok]
  cases checkNumbers (lexemes (preprocess s)) <;> simp [Except.map]

/-- The last code point of a text is still no blank when line ends have been made newlines. -/
theorem getLast?_preprocess {s : Text} (h : ∀ c ∈ s.getLast?, c.isBlank = false) :
    ∀ c ∈ (preprocess s).getLast?, isSpace c = false := by
  rcases List.eq_nil_or_concat s with rfl | ⟨init,c,rfl⟩
  · intro c hc
    cases hc
  · rw [List.concat_eq_append] at h ⊢
    have hc : c.isBlank = false := h c (by simp)
    have hline : ∀ rest, [c] ≠ .char '\n' :: rest := by
      rintro rest he
      cases he
      cases hc
    have hsettle : preprocess [c] = [settle c] := by
      rw [preprocess]
      · simp [settle,preprocess]
      · simp
    intro d hd
    rw [preprocess_append hline,hsettle,List.getLast?_append] at hd
    cases hd
    unfold settle
    split
    · rfl
    · split
      · next hreturn => rcases hreturn with rfl | rfl <;> cases hc
      · refine Bool.eq_false_iff.mpr fun hspace => ?_
        simp only [isSpace,Bool.or_eq_true,beq_iff_eq] at hspace
        obtain (rfl | rfl) | rfl := hspace <;> cases hc

/-! ## A block of its own -/

/-- Where a block ends in a leaf, the bracket after the leaf is the one that closes it. -/
theorem closers_eq_nil {ks ls : List Lexeme} {l : Leaf} {b : Bracket} {closers : List Bracket}
    (h : ks ++ [.leaf l,.closing b] = ls ++ .leaf l :: .closing b :: closers.map .closing) :
    closers = [] ∧ ks = ls := by
  rcases List.eq_nil_or_concat closers with rfl | ⟨others,c,rfl⟩
  · exact ⟨rfl,List.append_cancel_right h⟩
  · have hlast : (ks ++ [.leaf l]) ++ [.closing b] =
        (ls ++ .leaf l :: .closing b :: others.map .closing) ++ [.closing c] := by simpa using h
    have hleaf := (List.append_inj' hlast rfl).1
    rcases List.eq_nil_or_concat others with rfl | ⟨others,d,rfl⟩
    · have hend : ks ++ [.leaf l] = (ls ++ [.leaf l]) ++ [.closing b] := by simpa using hleaf
      exact absurd (List.append_inj_right' hend rfl) (by simp)
    · have hend : ks ++ [.leaf l] =
          (ls ++ .leaf l :: .closing b :: others.map .closing) ++ [.closing d] := by
        simpa using hleaf
      exact absurd (List.append_inj_right' hend rfl) (by simp)

theorem lexemes_end : lexemes [.char ';',.char '\x7d'] =
    [([.char ';',.char '\x7d'],.leaf (.literal ";")),([.char '\x7d'],.closing .curly)] := by
  have hclose : next (.char '\x7d') [] = (some (.closing .curly),[]) := next_mark rfl []
  have hsemicolon : next (.char ';') [.char '\x7d'] =
      (some (.leaf (.literal ";")),[.char '\x7d']) :=
    next_mark rfl _
  rw [lexemes,hsemicolon]
  dsimp only
  rw [lexemes,hclose]
  dsimp only
  rw [lexemes]

theorem Token.eq_leaf_of_bare {t : Token} {l : Leaf} (h : t.bare = .leaf [] l) :
    ∃ m, t = .leaf m l := by
  cases t with
  | leaf m k =>
    cases h
    exact ⟨m,rfl⟩
  | block m o content => cases h

theorem kinds_block {piece : Text} {ls : List Lexeme}
    (hrun : Run (piece ++ [.char ';',.char '\x7d']) ls [.char ';',.char '\x7d']) :
    kinds (.char '\x7b' :: (piece ++ [.char ';',.char '\x7d'])) =
      .opening (.bracket .curly) :: (ls ++ [.leaf (.literal ";"),.closing .curly]) := by
  rw [kinds_cons,next_mark rfl,hrun.kinds_eq,kinds_semicolon,kinds_close,kinds_nil]
  rfl

/-- Tokens that stand before a semicolon in a block are those of the block's text. -/
theorem nest_block {piece : Text} {ts : List Token} (hfits : fitsAll (some .curly) ts = true)
    (hrun : Run (piece ++ [.char ';',.char '\x7d']) (flatAll ts) [.char ';',.char '\x7d']) :
    ∃ m before, nest (lexemes (.char '\x7b' :: (piece ++ [.char ';',.char '\x7d']))) =
      [.block m (.bracket .curly) (before ++ [.leaf ";\x7d" (.literal ";")])] ∧
      before.map Token.bare = ts.map Token.bare := by
  have hblock := Run.of_next (next_mark (show isLoneMark (.char '\x7b') = true from rfl) _) hrun
  have hkinds : kinds (.char '\x7b' :: (piece ++ [.char ';',.char '\x7d'])) =
      flatAll [curly (ts ++ [mark ';'])] := by
    rw [kinds_block hrun]
    simp [flatAll,curly,Token.flat,mark,Opener.closer]
    rfl
  have hbare := nested_kinds (.char '\x7b' :: (piece ++ [.char ';',.char '\x7d']))
  rw [hkinds,nested_flatAll (by simpa [fitsAll,curly,Token.fits,mark,Opener.closer] using hfits)]
    at hbare
  obtain ⟨found,hfound,-⟩ := hblock.lexemes_eq
  have hleaves : leavesAll (nest (lexemes (.char '\x7b' :: (piece ++ [.char ';',.char '\x7d'])))) =
      found.filterMap leaf? ++ [([.char ';',.char '\x7d'],.literal ";")] := by
    rw [nest_leaves ne_stray_of_mem_lexemes,hfound,lexemes_end,List.filterMap_append]
    rfl
  obtain ⟨t,ht,hcurly⟩ := List.map_eq_singleton_iff.mp hbare.symm
  rw [ht] at hleaves
  cases t with
  | leaf m l => cases hcurly
  | block m o content =>
    simp only [curly,Token.bare_block,Token.block.injEq,true_and] at hcurly
    obtain ⟨rfl,hcontent⟩ := hcurly
    rw [List.map_append] at hcontent
    obtain ⟨before,last,rfl,hbefore,hlast⟩ := List.map_eq_append_iff.mp hcontent
    obtain ⟨u,rfl,hu⟩ := List.map_eq_singleton_iff.mp hlast
    obtain ⟨place,rfl⟩ := Token.eq_leaf_of_bare hu
    have hplace : leavesAll before ++ [(place,Leaf.literal [.char ';'])] =
        found.filterMap leaf? ++ [([.char ';',.char '\x7d'],.literal ";")] := by
      rw [← hleaves]
      simp [leavesAll,Token.leaves]
    cases List.append_inj_right' hplace rfl
    exact ⟨m,before,ht,hbefore⟩

/-- A run over the block leads to the semicolon at its end, if that is a token. -/
theorem run_of_block {piece : Text} {m : Text} {before : List Token}
    (h : nest (lexemes (.char '\x7b' :: (piece ++ [.char ';',.char '\x7d']))) =
      [.block m (.bracket .curly) (before ++ [.leaf ";\x7d" (.literal ";")])]) :
    ∃ ls, Run (piece ++ [.char ';',.char '\x7d']) ls [.char ';',.char '\x7d'] := by
  have hleaf : ((";\x7d" : Text),Leaf.literal ";") ∈
      leavesAll [.block m (.bracket .curly) (before ++ [.leaf ";\x7d" (.literal ";")])] := by
    simp [leavesAll,Token.leaves]
  rw [← h,nest_leaves ne_stray_of_mem_lexemes] at hleaf
  obtain ⟨⟨place,l⟩,hl,hleaf⟩ := List.mem_filterMap.mp hleaf
  cases l <;> cases hleaf
  obtain ⟨ls,c,rest,hplace,hrun,-⟩ := run_of_mem_lexemes hl
  have hplace : c :: rest = [.char ';',.char '\x7d'] := hplace.symm
  rw [hplace] at hrun
  obtain ⟨ks,hks,-⟩ := hrun.of_length_lt (by simp)
  rw [next_mark rfl] at hks
  exact ⟨ks,hks⟩

theorem ended_of_run {piece : Text} {ls : List Lexeme}
    (hlast : blank = true → ∀ c ∈ piece.getLast?, isSpace c = false)
    (hrun : Run (piece ++ [.char ';',.char '\x7d']) ls [.char ';',.char '\x7d']) :
    Ended blank piece ls := by
  rcases ended_or_passed hlast [.char '\x7d'] with ⟨ks,hended⟩ | ⟨ks,c,left,-,hleft,hpast⟩
  · obtain ⟨js,hjs,rfl⟩ := (hended.kinds_semicolon _).of_length_le hrun (Nat.le_refl _)
    rwa [hjs.eq_nil (Nat.le_refl _),List.append_nil]
  · obtain ⟨js,hjs,-⟩ := hleft.of_length_le hrun (by simp)
    obtain ⟨is,his,-⟩ := hjs.of_length_lt (by simp)
    have hlength := his.suffix.length_le
    simp only [List.length_cons,List.length_nil] at hlength hpast
    omega

/-- A text in a block of its own, with a semicolon after it. -/
def blockText (s : Text) : Text := .char '\x7b' :: (s ++ [.char ';',.char '\x7d'])

theorem preprocess_blockText (s : Text) :
    preprocess (blockText s) = .char '\x7b' :: (preprocess s ++ [.char ';',.char '\x7d']) := by
  rw [blockText,preprocess_cons (by decide),preprocess_append (by simp)]
  rfl

/-- A text stands on its own if the semicolon after it is still there to end it. -/
theorem stands_of_block {m : Text} {before : List Token}
    (hlast : blank = true → ∀ c ∈ (preprocess s).getLast?, isSpace c = false)
    (htokens : tokens (blockText s) =
      .ok [.block m (.bracket .curly) (before ++ [.leaf ";\x7d" (.literal ";")])]) :
    Stands blank s before := by
  obtain ⟨hnumbers,hnest⟩ := tokens_eq_ok.mp htokens
  rw [preprocess_blockText] at hnest
  rw [lexed,preprocess_blockText] at hnumbers
  obtain ⟨ls,hrun⟩ := run_of_block hnest
  have hkinds := kinds_block hrun
  obtain ⟨hfits,closers,hflat⟩ := nest_flat (ne_stray_of_mem_lexemes
    (s := .char '\x7b' :: (preprocess s ++ [.char ';',.char '\x7d'])))
  rw [kinds] at hkinds
  rw [hnest,hkinds] at hflat
  rw [hnest] at hfits
  have hls : flatAll before = ls := by
    have hends : flatAll before ++ [.leaf (.literal ";"),.closing .curly] =
        ls ++ .leaf (.literal ";") :: .closing .curly :: closers.map Lexeme.closing := by
      simpa [flatAll,Token.flat,Opener.closer] using hflat
    exact (closers_eq_nil hends).2
  have hbody : fitsAll (some .curly) before = true := by
    simpa [fitsAll,Token.fits,Opener.closer] using hfits
  refine ⟨?_,hbody,fun l hl => hnumbers l ?_⟩
  · rw [hls]
    exact ended_of_run hlast hrun
  · rw [kinds,hkinds,← hls]
    simp [hl]

/-- A text that stands on its own is read in a block up to the semicolon after it. -/
theorem Stands.tokens_blockText (h : Stands blank s ts) :
    ∃ m before, tokens (blockText s) =
      .ok [.block m (.bracket .curly) (before ++ [.leaf ";\x7d" (.literal ";")])] ∧
      before.map Token.bare = ts.map Token.bare := by
  have hrun := h.ended.kinds_semicolon [.char '\x7d']
  obtain ⟨m,before,hnest,hbefore⟩ := nest_block h.fits hrun
  refine ⟨m,before,tokens_eq_ok.mpr ⟨fun l hl => ?_,by rw [preprocess_blockText,hnest]⟩,hbefore⟩
  rw [lexed,preprocess_blockText,kinds_block hrun] at hl
  simp only [List.mem_cons,List.mem_append,List.not_mem_nil,or_false] at hl
  obtain rfl | hl | rfl | rfl := hl
  · exact Nat.zero_le _
  · exact h.numbers l hl
  · exact Nat.zero_le _
  · exact Nat.zero_le _

end Css

namespace Declaration

open Css Css.Written

variable {d : Declaration}

theorem block_eq (d : Declaration) : d.block = blockText (.char ' ' :: d.toCss) := by
  simp [block,blockText,Text.ofString]

theorem mem_declarations {ts : List Token} (h : d ∈ Css.declarations ts) :
    ∃ t unit, declaration? t unit = some d := by
  fun_induction Css.declarations ts with
  | case1 => cases h
  | case2 t rest _ ih => exact ih h
  | case3 t rest _ _ ih => exact ih h
  | case4 t rest _ _ e he ih =>
    rcases List.mem_cons.mp h with rfl | h
    · exact ⟨t,_,he⟩
    · exact ih h
  | case5 t rest _ _ _ ih => exact ih h

/-- What has been read as a declaration is not written with a blank at its end. -/
theorem getLast?_toCss {ts : List Token} (h : d ∈ Css.declarations ts) :
    ∀ c ∈ (preprocess (.char ' ' :: d.toCss)).getLast?, isSpace c = false := by
  obtain ⟨t,unit,hd⟩ := mem_declarations h
  obtain ⟨-,hne,text,hvalue⟩ := declaration?_eq_some hd
  refine getLast?_preprocess fun c hc => ?_
  cases hi : d.important with
  | true =>
    have hfront : .char ' ' :: d.toCss =
        (.char ' ' :: d.property ++ Text.ofString ": " ++ d.value) ++
          Text.ofString " !important" := by simp [toCss,hi]
    rw [hfront,List.getLast?_append] at hc
    cases hc
    rfl
  | false =>
    have hfront : .char ' ' :: d.toCss = (.char ' ' :: d.property ++ Text.ofString ": ") ++
        d.value := by simp [toCss,hi]
    obtain ⟨last,hlast⟩ := Option.isSome_iff_exists.mp (List.getLast?_isSome.mpr hne)
    rw [hfront,List.getLast?_append,hlast] at hc
    cases hc
    rw [hvalue] at hlast
    exact Text.getLast?_trim text c hlast

/-- A legible declaration stands on its own. -/
theorem Legible.stands (h : d.Legible) :
    ∃ ts, Stands true (.char ' ' :: d.toCss) ts ∧ Css.declarations ts = [d] := by
  obtain ⟨m,before,htokens,hbefore⟩ := h
  rw [block_eq] at htokens
  have hlast := getLast?_toCss (hbefore ▸ List.mem_singleton_self d)
  exact ⟨before,stands_of_block (fun _ => hlast) htokens,hbefore⟩

theorem legible_of_stands {ts : List Token} (h : Stands true (.char ' ' :: d.toCss) ts)
    (hts : Css.declarations ts = [d]) : d.Legible := by
  obtain ⟨m,before,htokens,hbefore⟩ := h.tokens_blockText
  refine ⟨m,before,by rw [block_eq,htokens],?_⟩
  rw [← declarations_bare,hbefore,declarations_bare,hts]

/-- A declaration is legible where its text stands on its own and is read as the declaration. -/
theorem legible_iff : d.Legible ↔
    ∃ ts, Stands true (.char ' ' :: d.toCss) ts ∧ Css.declarations ts = [d] := by
  constructor
  · exact Legible.stands
  · rintro ⟨ts,h,hts⟩
    exact legible_of_stands h hts

end Declaration

end StyleLift
