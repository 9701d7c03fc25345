import Mathlib.Data.List.TakeWhile
import StyleLift.Proofs.Css.Locality

/-! # Steps of the lexer

One step is local, and so is a run of steps: lexemes found before a semicolon are found whatever
ends the declaration.
-/
namespace StyleLift.Css

/-- The step at the start of a text. -/
def step : Text → Step
  | [] => (none,[])
  | c :: s => next c s

/-- What the text after a name makes of it. -/
def identStep (name : Text) : Text → Step
  | .char '(' :: inner =>
    if name.asciiLower = ("url" : Text) then
      match skipSpace inner with
      | .char '"' :: _ | .char '\'' :: _ => (some (.opening (.function name)),inner)
      | location =>
        match takeUrl location with
        | (some (value,closed),after) => (some (.leaf (.url value closed)),after)
        | (none,after) => (some (.leaf .badUrl),after)
    else (some (.opening (.function name)),inner)
  | rest => (some (.leaf (.ident name)),rest)

variable {blank : Bool} {rest : Text}

/-- The lexeme of a location, which may be broken. -/
def urlLexeme : Option (Text × Bool) → Lexeme
  | some (value,closed) => .leaf (.url value closed)
  | none => .leaf .badUrl

theorem identStep_other {name s : Text} (h : ∀ inner, s ≠ .char '(' :: inner) :
    identStep name s = (some (.leaf (.ident name)),s) := by
  unfold identStep
  split
  · exact (h _ rfl).elim
  · rfl

theorem identStep_function {name : Text} (h : name.asciiLower ≠ "url") (inner : Text) :
    identStep name (.char '(' :: inner) = (some (.opening (.function name)),inner) := by
  simp [identStep,h]

theorem identStep_quoted {name inner tail : Text} {c : CodePoint} (h : name.asciiLower = "url")
    (hc : isQuote c = true) (hs : skipSpace inner = c :: tail) :
    identStep name (.char '(' :: inner) = (some (.opening (.function name)),inner) := by
  simp only [isQuote,Bool.or_eq_true,beq_iff_eq] at hc
  rcases hc with rfl | rfl <;> simp [identStep,h,hs]

theorem identStep_url {name inner : Text} (h : name.asciiLower = "url")
    (hs : ∀ c ∈ (skipSpace inner).head?, isQuote c = false) :
    identStep name (.char '(' :: inner) =
      (some (urlLexeme (takeUrl (skipSpace inner)).1),(takeUrl (skipSpace inner)).2) := by
  simp only [identStep,h,if_true]
  split
  · next e => exact absurd (hs (.char '"') (by rw [e]; rfl)) (by decide)
  · next e => exact absurd (hs (.char '\'') (by rw [e]; rfl)) (by decide)
  · split
    · next e => rw [e]; rfl
    · next e => rw [e]; rfl

theorem nextIdent_eq (s : Text) : nextIdent s = identStep (takeName s).1 (takeName s).2 := by
  unfold nextIdent
  generalize takeName s = taken
  obtain ⟨name,rest⟩ := taken
  dsimp only
  split
  · next inner =>
    split
    · next hname =>
      split
      · next e => rw [identStep_quoted hname rfl e]
      · next e => rw [identStep_quoted hname rfl e]
      · next hdouble hsingle =>
        have hquote : ∀ c ∈ (skipSpace inner).head?, isQuote c = false := by
          intro c hc
          obtain ⟨tail,e⟩ := List.head?_eq_some_iff.mp hc
          simp only [isQuote,Bool.or_eq_false_iff,beq_eq_false_iff_ne]
          constructor
          · rintro rfl
            exact hdouble tail e
          · rintro rfl
            exact hsingle tail e
        rw [identStep_url hname hquote]
        rcases takeUrl (skipSpace inner) with ⟨_ | ⟨value,closed⟩,after⟩ <;> rfl
    · next hname => rw [identStep_function hname]
  · next hopen => rw [identStep_other hopen]

theorem identStep_local (name piece : Text) : Local blank (identStep name) piece rest := by
  by_cases hopen : ∃ inner, piece = .char '(' :: inner
  · obtain ⟨inner,rfl⟩ := hopen
    by_cases hname : name.asciiLower = "url"
    · cases hs : skipSpace inner with
      | nil =>
        refine .past ?_
        have hpast := skipSpace_past hs rest
        rw [List.cons_append,identStep_url hname (by simp [hpast,isQuote]),hpast]
        exact takeUrl_semicolon rest
      | cons c tail =>
        have happend := skipSpace_append hs
        have hsuffix := skipSpace_suffix inner
        rw [hs] at hsuffix
        cases hc : isQuote c with
        | true =>
          exact .of_eq (some (.opening (.function name))) (List.suffix_cons _ _)
            fun after _ => identStep_quoted hname hc (happend after)
        | false =>
          refine .of_suffix (g := fun s => (some (urlLexeme (takeUrl s).1),(takeUrl s).2))
            (hsuffix.trans (List.suffix_cons _ _)) (fun after _ => ?_)
            ((takeUrl_local (c :: tail) rest).map fun u => some (urlLexeme u))
          rw [List.cons_append,identStep_url hname (by simp [happend,hc]),happend]
    · exact .of_eq (some (.opening (.function name))) (List.suffix_cons _ _)
        fun after _ => identStep_function hname _
  · refine .of_eq (some (.leaf (.ident name))) (List.suffix_refl _) fun after ha => ?_
    refine identStep_other fun inner h => ?_
    cases piece with
    | nil => cases ha <;> cases h
    | cons c piece =>
      cases h
      exact hopen ⟨piece,rfl⟩

theorem identStep_length (name s : Text) : (identStep name s).2.length ≤ s.length := by
  unfold identStep
  split
  · next inner =>
    have hs := skipSpace_length inner
    split
    · split
      · simp
      · simp
      · have hu := takeUrl_length (skipSpace inner)
        split <;> next hf => simp [hf] at hu ⊢; omega
    · simp
  · simp

theorem nextIdent_local (piece : Text) : Local blank nextIdent piece rest := by
  have hbind : Local blank (fun s => identStep (takeName s).1 (takeName s).2) piece rest :=
    (takeName_local piece rest).bind (fun name left _ => identStep_local name left)
      identStep_length fun name y tail h => by
        rw [identStep_other (by simp)] at h ⊢
        rw [← (Prod.mk.inj h).1]
  have heq : (fun s => identStep (takeName s).1 (takeName s).2) = nextIdent :=
    funext fun s => (nextIdent_eq s).symm
  rwa [heq] at hbind

/-! ## Numbers and marks -/

theorem nextNumber_unit {s : Text} (h : startsIdent s = true) (source : Text) :
    nextNumber source s = (some (.leaf (.dimension source (takeName s).1)),(takeName s).2) := by
  unfold nextNumber
  rw [if_pos h]

theorem nextNumber_plain {s : Text} (h : startsIdent s = false)
    (hp : ∀ tail, s ≠ .char '%' :: tail) (source : Text) :
    nextNumber source s = (some (.leaf (.number source)),s) := by
  unfold nextNumber
  rw [if_neg (by simp [h])]
  split
  · exact (hp _ rfl).elim
  · rfl

theorem nextNumber_local (source piece : Text) : Local blank (nextNumber source) piece rest := by
  cases hs : startsIdent piece with
  | true =>
    refine .of_suffix (g := fun s =>
      (some (.leaf (.dimension source (takeName s).1)),(takeName s).2)) (List.suffix_refl _)
      (fun after ha => nextNumber_unit ((startsIdent_follows ha piece).trans hs) source)
      ((takeName_local piece rest).map fun unit => some (Lexeme.leaf (.dimension source unit)))
  | false =>
    by_cases hp : ∃ tail, piece = .char '%' :: tail
    · obtain ⟨tail,rfl⟩ := hp
      refine .of_eq (some (.leaf (.percentage source))) (List.suffix_cons _ _) fun after ha => ?_
      have hident := (startsIdent_follows ha (.char '%' :: tail)).trans hs
      unfold nextNumber
      rw [hident]
      rfl
    · refine .of_eq (some (.leaf (.number source))) (List.suffix_refl _) fun after ha => ?_
      refine nextNumber_plain ((startsIdent_follows ha piece).trans hs) (fun tail h => ?_) source
      have hprefix : [CodePoint.char '%'] <+: piece ++ after := ⟨tail,h.symm⟩
      obtain ⟨tail,rfl⟩ := prefix_of_follows ha (by decide) hprefix
      exact hp ⟨tail,rfl⟩

/-- The marks of two code points and more, and the openings of comments. -/
def longMarks : List Text := ["/*","<!--","||","~=","|=","^=","$=","*="]

theorem nextMark_bracket {c : CodePoint} {l : Lexeme} (h : bracket? c = some l) (s : Text) :
    nextMark c s = (some l,s) := by
  simp [nextMark,h]

theorem nextMark_lone {c : CodePoint} {s : Text} (hb : bracket? c = none)
    (h : ∀ m ∈ longMarks, ¬m <+: c :: s) : nextMark c s = literal [c] s := by
  simp only [nextMark,hb]
  split
  · next tail => exact (h "/*" (by decide) ⟨tail,rfl⟩).elim
  · next tail => exact (h "<!--" (by decide) ⟨tail,rfl⟩).elim
  · next tail => exact (h "||" (by decide) ⟨tail,rfl⟩).elim
  · next tail =>
    split
    · next he =>
      simp only [takesEquals,Bool.or_eq_true,beq_iff_eq] at he
      obtain (((rfl | rfl) | rfl) | rfl) | rfl := he
      · exact (h "~=" (by decide) ⟨tail,rfl⟩).elim
      · exact (h "|=" (by decide) ⟨tail,rfl⟩).elim
      · exact (h "^=" (by decide) ⟨tail,rfl⟩).elim
      · exact (h "$=" (by decide) ⟨tail,rfl⟩).elim
      · exact (h "*=" (by decide) ⟨tail,rfl⟩).elim
    · rfl
  · rfl

theorem nextMark_local (c : CodePoint) (piece : Text) : Local blank (nextMark c) piece rest := by
  cases hb : bracket? c with
  | some l => exact .of_eq (some l) (List.suffix_refl _) fun after _ => nextMark_bracket hb _
  | none =>
    by_cases hlong : ∃ m ∈ longMarks, m <+: c :: piece
    · obtain ⟨m,hm,tail,h⟩ := hlong
      simp only [longMarks,List.mem_cons,List.not_mem_nil,or_false] at hm
      obtain rfl | rfl | rfl | rfl | rfl | rfl | rfl | rfl := hm
      · obtain ⟨rfl,rfl⟩ := List.cons.inj h.symm
        exact .of_suffix (g := fun s => (none,skipComment s)) (List.suffix_cons _ _)
          (fun _ _ => rfl) ((skipComment_local tail rest).map fun _ => none)
      · obtain ⟨rfl,rfl⟩ := List.cons.inj h.symm
        exact .of_eq (some (.leaf (.literal "<!--"))) (List.suffix_append _ _) fun _ _ => rfl
      all_goals
        obtain ⟨rfl,rfl⟩ := List.cons.inj h.symm
        exact .of_eq _ (List.suffix_cons _ _) fun _ _ => rfl
    · refine .of_eq (some (.leaf (.literal [c]))) (List.suffix_refl _) fun after ha => ?_
      refine nextMark_lone hb fun m hm hprefix => hlong ⟨m,hm,?_⟩
      refine prefix_of_follows ha ?_ hprefix
      exact (by decide : ∀ m ∈ longMarks, ∀ c ∈ m,
        c ≠ .char ';' ∧ c ≠ .char '\x7b' ∧ c ≠ .char ' ') m hm

/-! ## One step -/

theorem markStep_local (c : CodePoint) (piece : Text) : Local blank (markStep c) piece rest := by
  have hliteral : Local blank (literal [c]) piece rest :=
    .of_eq (some (.leaf (.literal [c]))) (List.suffix_refl _) fun _ _ => rfl
  by_cases hat : c = .char '@'
  · cases hs : startsIdent piece with
    | true =>
      refine .of_suffix (List.suffix_refl _) (fun after ha => ?_)
        ((takeName_local piece rest).map fun name => some (Lexeme.leaf (.atKeyword name)))
      rw [markStep,if_pos hat,startsIdent_follows ha,if_pos hs]
    | false =>
      refine .of_suffix (List.suffix_refl _) (fun after ha => ?_) hliteral
      rw [markStep,if_pos hat,startsIdent_follows ha,if_neg (by simp [hs])]
  by_cases hhash : c = .char '#'
  · cases hs : startsName piece with
    | true =>
      refine .of_suffix (List.suffix_refl _) (fun after ha => ?_)
        ((takeName_local piece rest).map fun name =>
          some (Lexeme.leaf (.hash name (startsIdent piece))))
      rw [markStep,if_neg hat,if_pos hhash,startsName_follows ha,if_pos hs,startsIdent_follows ha]
    | false =>
      refine .of_suffix (List.suffix_refl _) (fun after ha => ?_) hliteral
      rw [markStep,if_neg hat,if_pos hhash,startsName_follows ha,if_neg (by simp [hs])]
  cases hquote : isQuote c with
  | true =>
    refine .of_suffix (List.suffix_refl _) (fun after _ => ?_)
      ((takeString_local hquote piece rest).map fun found => some (stringLexeme found))
    rw [markStep,if_neg hat,if_neg hhash,if_pos hquote]
  | false =>
    refine .of_suffix (List.suffix_refl _) (fun after _ => ?_) (nextMark_local c piece)
    rw [markStep,if_neg hat,if_neg hhash,if_neg (by simp [hquote])]

theorem takeWhile_isSpace_append {s tail : Text} {c : CodePoint} (h : skipSpace s = c :: tail)
    (after : Text) : (s ++ after).takeWhile isSpace = s.takeWhile isSpace := by
  have hlength := congrArg List.length (s.takeWhile_append_dropWhile (p := isSpace))
  unfold skipSpace at h
  rw [h,List.length_append,List.length_cons] at hlength
  rw [List.takeWhile_append,if_neg (by omega)]

theorem blank_local {c : CodePoint} {piece : Text}
    (hlast : blank = true → ∀ d ∈ (c :: piece).getLast?, isSpace d = false)
    (hs : isSpace c = true) : Local blank step (c :: piece) rest := by
  cases hskip : skipSpace piece with
  | nil =>
    have hblank : ∀ d ∈ c :: piece, isSpace d = true := by
      intro d hd
      rcases List.mem_cons.mp hd with rfl | hd
      · exact hs
      · exact List.dropWhile_eq_nil_iff.mp hskip d hd
    cases blank with
    | true =>
      have hmem := List.getLast_mem (List.cons_ne_nil c piece)
      have hfalse := hlast rfl _ (List.getLast?_eq_some_getLast (List.cons_ne_nil c piece))
      rw [hblank _ hmem] at hfalse
      cases hfalse
    | false =>
      exact .of_eq (some (.leaf (.whitespace (c :: piece)))) List.nil_suffix
        fun after ha => next_blank hblank ha.not_isSpace
  | cons d tail =>
    have hsuffix := skipSpace_suffix piece
    rw [hskip] at hsuffix
    refine .of_eq (some (.leaf (.whitespace (c :: piece.takeWhile isSpace))))
      (hsuffix.trans (List.suffix_cons c piece)) fun after ha => ?_
    rw [List.cons_append,step,next,if_pos hs,takeWhile_isSpace_append hskip,
      skipSpace_append hskip]

theorem range_local {c : CodePoint} {piece : Text} (hs : isSpace c = false)
    (hrange : startsUnicodeRange c piece = true) : Local blank step (c :: piece) rest := by
  obtain ⟨tail,rfl⟩ : ∃ tail, piece = .char '+' :: tail := by
    unfold startsUnicodeRange at hrange
    split at hrange
    · exact ⟨_,rfl⟩
    · cases hrange
  refine .of_eq (some (.leaf (.unicodeRange (takeUnicodeRange tail).1.1
    (takeUnicodeRange tail).1.2))) ((takeUnicodeRange_suffix tail).trans
    ((List.suffix_cons _ _).trans (List.suffix_cons _ _))) fun after ha => ?_
  have hnext := next_range hs ((startsUnicodeRange_follows ha c _).trans hrange)
  rw [List.cons_append,List.drop_one,List.tail_cons,takeUnicodeRange_follows ha] at hnext
  exact hnext

/-- One step is local on a piece that does not end in a blank if another blank may follow. -/
theorem step_local {piece : Text}
    (hlast : blank = true → ∀ c ∈ piece.getLast?, isSpace c = false) :
    Local blank step piece rest := by
  cases piece with
  | nil => exact .past (next_length (.char ';') rest)
  | cons c piece =>
    cases hs : isSpace c with
    | true => exact blank_local hlast hs
    | false =>
    cases hrange : startsUnicodeRange c piece with
    | true => exact range_local hs hrange
    | false =>
    have hrange' : ∀ after, Follows blank after → startsUnicodeRange c (piece ++ after) = false :=
      fun after ha => (startsUnicodeRange_follows ha c piece).trans hrange
    by_cases harrow : c = .char '-' ∧ Text.ofString "->" <+: piece
    · obtain ⟨rfl,tail,rfl⟩ := harrow
      refine .of_eq (some (.leaf (.literal "-->"))) ((List.suffix_append _ tail).trans
        (List.suffix_cons _ _)) fun after ha => ?_
      exact next_arrow rfl (hrange' after ha) ⟨rfl,rfl⟩
    have harrow' : ∀ after, Follows blank after →
        ¬(c = .char '-' ∧ Text.startsWith (piece ++ after) "->" = true) := by
      rintro after ha ⟨hc,hw⟩
      exact harrow ⟨hc,prefix_of_follows ha (by decide) (List.isPrefixOf_iff_prefix.mp hw)⟩
    cases hident : startsIdent (c :: piece) with
    | true =>
      exact .of_suffix (List.suffix_refl _) (fun after ha => next_name hs (hrange' after ha)
        (harrow' after ha) ((startsIdent_follows ha (c :: piece)).trans hident))
        (nextIdent_local (c :: piece))
    | false =>
    have hident' : ∀ after, Follows blank after → startsIdent (c :: (piece ++ after)) = false :=
      fun after ha => (startsIdent_follows ha (c :: piece)).trans hident
    cases hnumber : takeNumber? (c :: piece) with
    | some number =>
      obtain ⟨source,left⟩ := number
      refine .of_suffix (takeNumber?_suffix hnumber) (fun after ha => ?_)
        (nextNumber_local source left)
      have htake := takeNumber?_follows ha (c :: piece)
      rw [hnumber] at htake
      exact next_number hs (hrange' after ha) (harrow' after ha) (hident' after ha) htake
    | none =>
      have hmark : ∀ after, Follows blank after → step (c :: (piece ++ after)) =
          markStep c (piece ++ after) := by
        intro after ha
        have htake := takeNumber?_follows ha (c :: piece)
        rw [hnumber] at htake
        exact next_markStep hs (hrange' after ha) (harrow' after ha) (hident' after ha) htake
      exact .cons hmark (markStep_local c piece)

end StyleLift.Css
