import StyleLift.Proofs.Css.Remainders

/-! # Lexing does not look far ahead

A reader that stops in a piece of text before a semicolon would have stopped there, and with the
same result, had the piece been followed by anything else that ends a declaration or the head of a
rule. Only the blank before a closing bracket may go with an escape at the end of the piece.
-/
namespace StyleLift.Css

/-- What ends a piece of text: a semicolon, the bracket that opens a block, or else, after a piece
that may have a blank next to it, that blank and the bracket that closes a block. -/
inductive Follows (blank : Bool) : Text → Prop
  | semicolon (rest : Text) : Follows blank (.char ';' :: rest)
  | opening (rest : Text) : Follows blank (.char '\x7b' :: rest)
  | close (h : blank = true) (rest : Text) : Follows blank (.char ' ' :: .char '\x7d' :: rest)

/-- What is left of an end once a piece has been read up to `left`. -/
def Leaves (left after after' : Text) : Prop :=
  after' = after ∨ left = [] ∧ after = .char ' ' :: after'

/-- What the reader reads of the piece does not depend on how the piece ends. -/
def Stops (blank : Bool) {α : Type} (f : Text → α × Text) (piece rest : Text) : Prop :=
  ∃ x left, left <:+ piece ∧ f (piece ++ .char ';' :: rest) = (x,left ++ .char ';' :: rest) ∧
    ∀ after, Follows blank after → ∃ after', Leaves left after after' ∧
      f (piece ++ after) = (x,left ++ after')

/-- Either the reader goes past the semicolon after the piece, or it stops before. -/
def Local (blank : Bool) {α : Type} (f : Text → α × Text) (piece rest : Text) : Prop :=
  (f (piece ++ .char ';' :: rest)).2.length ≤ rest.length ∨ Stops blank f piece rest

variable {blank : Bool} {α : Type} {f : Text → α × Text} {piece rest : Text}

theorem Follows.head {after : Text} (h : Follows blank after) :
    ∃ k tail, after = k :: tail ∧ (k = .char ';' ∨ k = .char '\x7b' ∨ k = .char ' ') := by
  cases h with
  | semicolon rest => exact ⟨_,_,rfl,.inl rfl⟩
  | opening rest => exact ⟨_,_,rfl,.inr (.inl rfl)⟩
  | close _ rest => exact ⟨_,_,rfl,.inr (.inr rfl)⟩

/-- Unless a blank may stand there, none does. -/
theorem Follows.not_isSpace {after : Text} (h : Follows false after) :
    ∀ c ∈ after.head?, isSpace c = false := by
  intro c hc
  cases h with
  | semicolon rest =>
    cases hc
    rfl
  | opening rest =>
    cases hc
    rfl
  | close h rest => cases h

/-- A reader that goes through the piece alike, whatever its end. -/
theorem Stops.of_eq (x : α) {left : Text} (hl : left <:+ piece)
    (h : ∀ after, Follows blank after → f (piece ++ after) = (x,left ++ after)) :
    Stops blank f piece rest :=
  ⟨x,left,hl,h _ (.semicolon rest),fun after ha => ⟨after,.inl rfl,h after ha⟩⟩

theorem Local.of_eq (x : α) {left : Text} (hl : left <:+ piece)
    (h : ∀ after, Follows blank after → f (piece ++ after) = (x,left ++ after)) :
    Local blank f piece rest :=
  .inr (.of_eq x hl h)

theorem Local.past (h : (f (piece ++ .char ';' :: rest)).2.length ≤ rest.length) :
    Local blank f piece rest := .inl h

theorem Local.map {β : Type} (h : α → β) (hf : Local blank f piece rest) :
    Local blank (fun s => (h (f s).1,(f s).2)) piece rest := by
  rcases hf with hpast | ⟨x,left,hl,hx,hlocal⟩
  · exact .past hpast
  · refine .inr ⟨h x,left,hl,by simp only [hx],fun after ha => ?_⟩
    obtain ⟨after',hleaves,hafter⟩ := hlocal after ha
    exact ⟨after',hleaves,by simp only [hafter]⟩

/-- A reader that does on a piece as another does on its end. -/
theorem Local.of_suffix {g : Text → α × Text} {tail : Text} (ht : tail <:+ piece)
    (h : ∀ after, Follows blank after → f (piece ++ after) = g (tail ++ after))
    (hg : Local blank g tail rest) : Local blank f piece rest := by
  have hrest := h _ (.semicolon rest)
  rcases hg with hpast | ⟨x,left,hl,hx,hlocal⟩
  · exact .past (by rwa [hrest])
  · refine .inr ⟨x,left,hl.trans ht,by rw [hrest,hx],fun after ha => ?_⟩
    obtain ⟨after',hleaves,hafter⟩ := hlocal after ha
    exact ⟨after',hleaves,by rw [h after ha,hafter]⟩

theorem Local.cons {g : Text → α × Text} {c : CodePoint}
    (h : ∀ after, Follows blank after → f (c :: (piece ++ after)) = g (piece ++ after))
    (hg : Local blank g piece rest) : Local blank f (c :: piece) rest :=
  .of_suffix (List.suffix_cons c piece) h hg

/-- One reader after another. A reader that does nothing at a semicolon must do nothing at a
closing bracket, since an escape may have taken the blank before it. -/
theorem Local.bind {β : Type} {g : α → Text → β × Text} (hf : Local blank f piece rest)
    (hg : ∀ x left, left <:+ piece → Local blank (g x) left rest)
    (hlength : ∀ x s, (g x s).2.length ≤ s.length)
    (hclose : ∀ x y tail, g x (.char ';' :: rest) = (y,.char ';' :: rest) →
      g x (.char '\x7d' :: tail) = (y,.char '\x7d' :: tail)) :
    Local blank (fun s => g (f s).1 (f s).2) piece rest := by
  rcases hf with hpast | ⟨x,left,hl,hx,hlocal⟩
  · exact .past (Nat.le_trans (hlength _ _) hpast)
  · rcases hg x left hl with hpast | ⟨y,left',hl',hy,hlocal'⟩
    · exact .past (by rwa [hx])
    · refine .inr ⟨y,left',hl'.trans hl,by simp only [hx,hy],fun after ha => ?_⟩
      obtain ⟨after',hleaves,hafter⟩ := hlocal after ha
      rcases hleaves with rfl | ⟨rfl,rfl⟩
      · obtain ⟨after'',hleaves,hafter'⟩ := hlocal' after' ha
        exact ⟨after'',hleaves,by simp only [hafter,hafter']⟩
      · have hnil : left' = [] := List.suffix_nil.mp hl'
        subst hnil
        cases ha with
        | close _ tail =>
          exact ⟨_,.inr ⟨rfl,rfl⟩,by simp only [hafter]; exact hclose x y tail hy⟩

/-! ## Escapes and names -/

theorem takeWhile_take_append (p : CodePoint → Bool) (n : Nat) (s : Text) {k : CodePoint}
    (hk : p k = false) (tail : Text) :
    ((s ++ k :: tail).take n).takeWhile p = (s.take n).takeWhile p := by
  induction s generalizing n with
  | nil => cases n <;> simp [hk]
  | cons c s ih =>
    cases n with
    | zero => rfl
    | succ n => simp [List.takeWhile_cons,ih]

theorem escapeDigits_append {after : Text} (h : Follows blank after) (s : Text) :
    escapeDigits (s ++ after) = escapeDigits s := by
  obtain ⟨k,tail,rfl,hk⟩ := h.head
  refine takeWhile_take_append _ 6 s ?_ tail
  rcases hk with rfl | rfl | rfl <;> rfl

theorem escapeDigits_length (s : Text) : (escapeDigits s).length ≤ s.length :=
  Nat.le_trans (List.takeWhile_prefix _).length_le (List.take_prefix 6 s).length_le

theorem escapes_append {after : Text} (h : Follows blank after) (s : Text) :
    escapes (s ++ after) = escapes s := by
  cases s with
  | nil => cases h <;> rfl
  | cons c s =>
    unfold escapes
    split
    · next e => cases e; rfl
    · next hne =>
      split
      · next e => cases e; exact (hne _ rfl).elim
      · rfl

theorem takeEscape_of_none {c : CodePoint} {s : Text} (h : escapeDigits (c :: s) = []) :
    takeEscape (c :: s) = (c,s) := by
  unfold takeEscape
  rw [h]

/-- The code point that the digits of an escape stand for. -/
def escapeValue (digits : Text) : CodePoint :=
  if Text.hexValue digits = 0 then .replacement else CodePoint.ofNat (Text.hexValue digits)

theorem takeEscape_of_digits {s digits : Text} {d : CodePoint}
    (h : escapeDigits s = d :: digits) :
    takeEscape s = (escapeValue (d :: digits),dropSpace (s.drop (d :: digits).length)) := by
  unfold takeEscape
  rw [h]
  rfl

/-- An escape takes no more than the code points that are there for it. -/
theorem takeEscape_stops (c : CodePoint) (tail rest : Text) :
    Stops blank takeEscape (c :: tail) rest := by
  cases hd : escapeDigits (c :: tail) with
  | nil =>
    refine .of_eq c (List.suffix_cons c tail) fun after ha => ?_
    exact takeEscape_of_none ((escapeDigits_append ha _).trans hd)
  | cons d digits =>
    have hlength := escapeDigits_length (c :: tail)
    rw [hd] at hlength
    have htake : ∀ after, Follows blank after → takeEscape (c :: tail ++ after) =
        (escapeValue (d :: digits),
          dropSpace ((c :: tail).drop (d :: digits).length ++ after)) := by
      intro after ha
      rw [takeEscape_of_digits ((escapeDigits_append ha _).trans hd),
        List.drop_append_of_le_length hlength]
    have hsuffix := List.drop_suffix (d :: digits).length (c :: tail)
    cases hdrop : (c :: tail).drop (d :: digits).length with
    | cons e left =>
      rw [hdrop] at hsuffix htake
      refine .of_eq (escapeValue (d :: digits))
        ((dropSpace_suffix _).trans hsuffix) fun after ha => ?_
      rw [htake after ha,List.cons_append,dropSpace,dropSpace]
      split <;> rfl
    | nil =>
      rw [hdrop] at htake
      refine ⟨_,[],List.nil_suffix,htake _ (.semicolon rest),fun after ha => ?_⟩
      refine ⟨dropSpace after,?_,htake after ha⟩
      cases ha with
      | semicolon rest => exact .inl rfl
      | opening rest => exact .inl rfl
      | close _ rest => exact .inr ⟨rfl,rfl⟩

theorem takeEscape_local (piece rest : Text) : Local blank takeEscape piece rest := by
  cases piece with
  | nil => exact .past (by rw [List.nil_append]; exact Nat.le_refl _)
  | cons c tail => exact .inr (takeEscape_stops c tail rest)

theorem takeName_stop {k : CodePoint}
    (hk : k = .char ';' ∨ k = .char ' ' ∨ k = .char '\x7d' ∨ k = .char '\x7b') (tail : Text) :
    takeName (k :: tail) = ([],k :: tail) := by
  rw [takeName]
  rcases hk with rfl | rfl | rfl | rfl <;> rfl

theorem takeName_part {c : CodePoint} (h : isNamePart c = true) (s : Text) :
    takeName (c :: s) = (c :: (takeName s).1,(takeName s).2) := by
  rw [takeName,if_pos h]

theorem takeName_escape {c : CodePoint} (h : ¬isNamePart c = true) {s : Text}
    (hc : c = .char '\\' ∧ escapes s = true) :
    takeName (c :: s) = ((takeEscape s).1 :: (takeName (takeEscape s).2).1,
      (takeName (takeEscape s).2).2) := by
  rw [takeName,if_neg h,if_pos hc]

theorem takeName_end {c : CodePoint} (h : ¬isNamePart c = true) {s : Text}
    (hc : ¬(c = .char '\\' ∧ escapes s = true)) : takeName (c :: s) = ([],c :: s) := by
  rw [takeName,if_neg h,if_neg hc]

theorem takeName_local (piece rest : Text) : Local blank takeName piece rest := by
  induction hn : piece.length using Nat.strongRecOn generalizing piece with
  | ind n ih =>
    cases piece with
    | nil =>
      refine .of_eq [] List.nil_suffix fun after ha => ?_
      obtain ⟨k,tail,rfl,hk⟩ := ha.head
      exact takeName_stop (by rcases hk with rfl | rfl | rfl <;> simp) tail
    | cons c piece =>
      subst hn
      by_cases hc : isNamePart c = true
      · exact .cons (fun after _ => takeName_part hc _)
          ((ih piece.length (by simp) piece rfl).map _)
      · by_cases he : c = .char '\\' ∧ escapes piece = true
        · refine .cons (fun after ha => takeName_escape hc
            ⟨he.1,(escapes_append ha piece).trans he.2⟩) ((takeEscape_local piece rest).bind
              (g := fun d s => (d :: (takeName s).1,(takeName s).2)) ?_ ?_ ?_)
          · intro d left hl
            have hlt : left.length < (c :: piece).length := Nat.lt_succ_of_le hl.length_le
            exact (ih left.length hlt left rfl).map _
          · exact fun d s => takeName_length s
          · intro d y tail h
            rw [takeName_stop (by simp)] at h ⊢
            rw [← (Prod.mk.inj h).1]
        · refine .of_eq [] (List.suffix_refl _) fun after ha => ?_
          rw [List.cons_append,takeName_end hc]
          rwa [escapes_append ha piece]

/-! ## Strings and comments -/

/-- A string or a location, or neither, with one more code point at its start. -/
def prepend (c : CodePoint) (found : Option (Text × Bool)) : Option (Text × Bool) :=
  found.map fun (value,closed) => (c :: value,closed)

section Strings

variable {quote : CodePoint} (hq : isQuote quote = true)

include hq

theorem isQuote_ne {c : CodePoint} (hc : isQuote c = false) : c ≠ quote := by
  rintro rfl
  rw [hq] at hc
  cases hc

theorem takeString_newline (s : Text) :
    takeString quote (.char '\n' :: s) = (none,.char '\n' :: s) := by
  rw [takeString.eq_def]
  simp [isQuote_ne hq (show isQuote (.char '\n') = false from rfl)]

theorem takeString_line (s : Text) :
    takeString quote (.char '\\' :: .char '\n' :: s) = takeString quote s := by
  rw [takeString.eq_def]
  simp [isQuote_ne hq (show isQuote (.char '\\') = false from rfl)]

theorem takeString_escape {c : CodePoint} (hc : c ≠ .char '\n') (s : Text) :
    takeString quote (.char '\\' :: c :: s) =
      (prepend (takeEscape (c :: s)).1 (takeString quote (takeEscape (c :: s)).2).1,
        (takeString quote (takeEscape (c :: s)).2).2) := by
  rw [takeString.eq_def]
  simp [isQuote_ne hq (show isQuote (.char '\\') = false from rfl),prepend]

omit hq in
theorem takeString_char {c : CodePoint} (hc : c ≠ quote ∧ c ≠ .char '\n' ∧ c ≠ .char '\\')
    (s : Text) : takeString quote (c :: s) =
      (prepend c (takeString quote s).1,(takeString quote s).2) := by
  rw [takeString.eq_def]
  simp [hc,prepend]

theorem takeString_semicolon (s : Text) :
    (takeString quote (.char ';' :: s)).2.length ≤ s.length := by
  rw [takeString_char ⟨isQuote_ne hq rfl,by decide,by decide⟩]
  exact takeString_length quote s

theorem takeString_local (piece rest : Text) : Local blank (takeString quote) piece rest := by
  induction hn : piece.length using Nat.strongRecOn generalizing piece with
  | ind n ih =>
    cases piece with
    | nil => exact .past (takeString_semicolon hq rest)
    | cons c piece =>
      subst hn
      by_cases hquote : c = quote
      · subst hquote
        refine .of_eq (some ([],true)) (List.suffix_cons c piece) fun after _ => ?_
        rw [List.cons_append,takeString.eq_def]
        simp
      by_cases hline : c = .char '\n'
      · subst hline
        exact .of_eq none (List.suffix_refl _) fun after _ => takeString_newline hq _
      by_cases hslash : c = .char '\\'
      · subst hslash
        cases piece with
        | nil =>
          refine .past ?_
          rw [List.singleton_append,takeString_escape hq (by decide)]
          exact takeString_length quote rest
        | cons d piece =>
          by_cases hd : d = .char '\n'
          · subst hd
            refine .cons (g := fun s => takeString quote (.char '\\' :: s)) (fun _ _ => rfl) ?_
            exact .cons (fun after _ => takeString_line hq _)
              (ih piece.length (by simp only [List.length_cons]; omega) piece rfl)
          · refine .cons (g := fun s => (prepend (takeEscape s).1
              (takeString quote (takeEscape s).2).1,(takeString quote (takeEscape s).2).2))
              (fun after _ => takeString_escape hq hd _) ?_
            refine (takeEscape_local (d :: piece) rest).bind (g := fun x s =>
              (prepend x (takeString quote s).1,(takeString quote s).2)) ?_ ?_ ?_
            · intro x left hl
              have hlt : left.length < (CodePoint.char '\\' :: d :: piece).length :=
                Nat.lt_succ_of_le hl.length_le
              exact (ih left.length hlt left rfl).map _
            · exact fun x s => takeString_length quote s
            · intro x y tail h
              have hlt := takeString_semicolon hq rest
              rw [(Prod.mk.inj h).2] at hlt
              exact absurd hlt (Nat.not_succ_le_self _)
      · exact .cons (fun after _ => takeString_char ⟨hquote,hline,hslash⟩ _)
          ((ih piece.length (by simp) piece rfl).map _)

end Strings

theorem skipComment_local (piece rest : Text) :
    Local blank (fun s => ((),skipComment s)) piece rest := by
  induction piece with
  | nil => exact .past (skipComment_length rest)
  | cons c piece ih =>
    by_cases hc : c = .char '*' ∧ ∃ tail, piece = .char '/' :: tail
    · obtain ⟨rfl,tail,rfl⟩ := hc
      exact .of_eq () (.trans (List.suffix_cons _ _) (List.suffix_cons _ _)) fun _ _ => rfl
    · refine .cons (fun after ha => ?_) ih
      rw [skipComment]
      rintro tail rfl h
      cases piece with
      | nil => cases ha <;> cases h
      | cons d piece =>
        cases h
        exact hc ⟨rfl,piece,rfl⟩

/-! ## Locations -/

theorem skipBadUrl_local (piece rest : Text) :
    Local blank (fun s => ((),skipBadUrl s)) piece rest := by
  induction hn : piece.length using Nat.strongRecOn generalizing piece with
  | ind n ih =>
    cases piece with
    | nil => exact .past (skipBadUrl_length rest)
    | cons c piece =>
      subst hn
      by_cases hclose : c = .char ')'
      · subst hclose
        exact .of_eq () (List.suffix_cons _ _) fun _ _ => rfl
      by_cases hc : c = .char '\\' ∧ ∃ tail, piece = .char ')' :: tail
      · obtain ⟨rfl,tail,rfl⟩ := hc
        exact .of_suffix (.trans (List.suffix_cons _ _) (List.suffix_cons _ _)) (fun _ _ => rfl)
          (ih tail.length (by simp only [List.length_cons]; omega) tail rfl)
      · refine .cons (fun after ha => ?_) (ih piece.length (by simp) piece rfl)
        rw [skipBadUrl]
        · rintro tail rfl h
          cases piece with
          | nil => cases ha <;> cases h
          | cons d piece =>
            cases h
            exact hc ⟨rfl,piece,rfl⟩
        · exact fun h => hclose h

theorem skipSpace_append {s tail : Text} {c : CodePoint} (h : skipSpace s = c :: tail)
    (after : Text) : skipSpace (s ++ after) = c :: tail ++ after := by
  unfold skipSpace at h ⊢
  rw [List.dropWhile_append,h]
  rfl

theorem skipSpace_past {s : Text} (h : skipSpace s = []) (rest : Text) :
    skipSpace (s ++ .char ';' :: rest) = .char ';' :: rest := by
  unfold skipSpace at h ⊢
  rw [List.dropWhile_append,h]
  rfl

theorem closeUrl_local (piece rest : Text) : Local blank closeUrl piece rest := by
  cases h : skipSpace piece with
  | nil =>
    refine .past ?_
    rw [closeUrl,skipSpace_past h]
    exact skipBadUrl_length rest
  | cons c tail =>
    have hs := skipSpace_suffix piece
    rw [h] at hs
    by_cases hclose : c = .char ')'
    · subst hclose
      refine .of_eq (some true) (.trans (List.suffix_cons _ _) hs) fun after _ => ?_
      rw [closeUrl,skipSpace_append h]
      rfl
    · refine .of_suffix (g := fun s => (none,skipBadUrl s)) hs (fun after _ => ?_)
        ((skipBadUrl_local (c :: tail) rest).map fun _ => none)
      rw [closeUrl,skipSpace_append h]
      split
      · next e => cases e
      · next e => exact (hclose (List.cons.inj e).1).elim
      · rfl

/-- A code point that no bare location may hold. -/
def breaksUrl (c : CodePoint) : Bool :=
  c == .char '"' || c == .char '\'' || c == .char '(' || isNonPrinting c

theorem takeUrl_space {c : CodePoint} (hc : c ≠ .char ')') (hs : isSpace c = true) (s : Text) :
    takeUrl (c :: s) = ((closeUrl s).1.map ([],·),(closeUrl s).2) := by
  rw [takeUrl]
  simp [hc,hs]

theorem takeUrl_escape {s : Text} (h : escapes s = true) :
    takeUrl (.char '\\' :: s) = (prepend (takeEscape s).1 (takeUrl (takeEscape s).2).1,
      (takeUrl (takeEscape s).2).2) := by
  have hs : isSpace (.char '\\') = false := rfl
  rw [takeUrl]
  simp [hs,h,prepend]

theorem takeUrl_bad {c : CodePoint} {s : Text} (hc : c ≠ .char ')') (hs : isSpace c = false)
    (he : ¬(c = .char '\\' ∧ escapes s = true)) (hb : breaksUrl c = true) :
    takeUrl (c :: s) = (none,skipBadUrl s) := by
  have hb : c = .char '"' ∨ c = .char '\'' ∨ c = .char '(' ∨ isNonPrinting c = true := by
    simpa [breaksUrl,or_assoc] using hb
  rw [takeUrl,if_neg hc,if_neg (by simp [hs]),if_neg he,if_pos hb]

theorem takeUrl_char {c : CodePoint} {s : Text} (hc : c ≠ .char ')') (hs : isSpace c = false)
    (he : ¬(c = .char '\\' ∧ escapes s = true)) (hb : breaksUrl c = false) :
    takeUrl (c :: s) = (prepend c (takeUrl s).1,(takeUrl s).2) := by
  have hb : ¬(c = .char '"' ∨ c = .char '\'' ∨ c = .char '(' ∨ isNonPrinting c = true) := by
    simpa [breaksUrl,and_assoc] using hb
  rw [takeUrl,if_neg hc,if_neg (by simp [hs]),if_neg he,if_neg hb]
  rfl

theorem takeUrl_semicolon (s : Text) : (takeUrl (.char ';' :: s)).2.length ≤ s.length := by
  rw [takeUrl_char (by decide) rfl (by simp) rfl]
  exact takeUrl_length s

theorem takeUrl_local (piece rest : Text) : Local blank takeUrl piece rest := by
  induction hn : piece.length using Nat.strongRecOn generalizing piece with
  | ind n ih =>
    cases piece with
    | nil => exact .past (takeUrl_semicolon rest)
    | cons c piece =>
      subst hn
      by_cases hclose : c = .char ')'
      · subst hclose
        refine .of_eq (some ([],true)) (List.suffix_cons _ _) fun after _ => ?_
        rw [List.cons_append,takeUrl]
        simp
      cases hs : isSpace c with
      | true =>
        exact .cons (fun _ _ => takeUrl_space hclose hs _) ((closeUrl_local piece rest).map _)
      | false =>
        by_cases he : c = .char '\\' ∧ escapes piece = true
        · obtain ⟨rfl,he⟩ := he
          refine .cons (g := fun s => (prepend (takeEscape s).1 (takeUrl (takeEscape s).2).1,
            (takeUrl (takeEscape s).2).2))
            (fun after ha => takeUrl_escape ((escapes_append ha piece).trans he)) ?_
          refine (takeEscape_local piece rest).bind (g := fun x s =>
            (prepend x (takeUrl s).1,(takeUrl s).2)) ?_ ?_ ?_
          · intro x left hl
            have hlt : left.length < (CodePoint.char '\\' :: piece).length :=
              Nat.lt_succ_of_le hl.length_le
            exact (ih left.length hlt left rfl).map _
          · exact fun x s => takeUrl_length s
          · intro x y tail h
            have hlt := takeUrl_semicolon rest
            rw [(Prod.mk.inj h).2] at hlt
            exact absurd hlt (Nat.not_succ_le_self _)
        · have hne : ∀ after, Follows blank after →
              ¬(c = .char '\\' ∧ escapes (piece ++ after) = true) := by
            intro after ha
            rwa [escapes_append ha piece]
          cases hb : breaksUrl c with
          | true =>
            exact .cons (fun after ha => takeUrl_bad hclose hs (hne after ha) hb)
              ((skipBadUrl_local piece rest).map fun _ => none)
          | false =>
            exact .cons (fun after ha => takeUrl_char hclose hs (hne after ha) hb)
              ((ih piece.length (by simp) piece rfl).map _)

/-! ## Numbers and ranges -/

theorem startsName_of_ne {c : CodePoint} (h : c ≠ .char '\\') (s : Text) :
    startsName (c :: s) = isNamePart c := by
  unfold startsName
  split
  · next e => exact (h (List.cons.inj e).1).elim
  · next e => rw [(List.cons.inj e).1]
  · next e => cases e

section Ends

variable {after : Text} (ha : Follows blank after)

include ha

theorem takeWhile_follows {p : CodePoint → Bool} (hs : p (.char ';') = false)
    (ho : p (.char '\x7b') = false) (hb : p (.char ' ') = false) (s : Text) :
    (s ++ after).takeWhile p = s.takeWhile p := by
  obtain ⟨k,tail,rfl,hk⟩ := ha.head
  have hk : p k = false := by rcases hk with rfl | rfl | rfl <;> assumption
  induction s with
  | nil => simp [hk]
  | cons c s ih => simp [List.takeWhile_cons,ih]

theorem dropWhile_follows {p : CodePoint → Bool} (hs : p (.char ';') = false)
    (ho : p (.char '\x7b') = false) (hb : p (.char ' ') = false) (s : Text) :
    (s ++ after).dropWhile p = s.dropWhile p ++ after := by
  obtain ⟨k,tail,rfl,hk⟩ := ha.head
  have hk : p k = false := by rcases hk with rfl | rfl | rfl <;> assumption
  induction s with
  | nil => simp [hk]
  | cons c s ih =>
    rw [List.cons_append,List.dropWhile_cons,List.dropWhile_cons]
    split
    · exact ih
    · rfl

theorem takeDigits_follows (s : Text) :
    takeDigits (s ++ after) = ((takeDigits s).1,(takeDigits s).2 ++ after) := by
  rw [takeDigits,takeWhile_follows ha rfl rfl rfl,dropWhile_follows ha rfl rfl rfl,takeDigits]

theorem takeSign_follows (s : Text) :
    takeSign (s ++ after) = ((takeSign s).1,(takeSign s).2 ++ after) := by
  cases s with
  | nil => cases ha <;> rfl
  | cons c s =>
    rw [List.cons_append,takeSign,takeSign]
    split <;> rfl

theorem takeFraction_follows (s : Text) :
    takeFraction (s ++ after) = ((takeFraction s).1,(takeFraction s).2 ++ after) := by
  cases s with
  | nil => cases ha <;> simp [takeFraction]
  | cons c s =>
    simp only [List.cons_append,takeFraction,takeDigits_follows ha]
    split <;> rfl

theorem takeExponent_follows (s : Text) :
    takeExponent (s ++ after) = ((takeExponent s).1,(takeExponent s).2 ++ after) := by
  cases s with
  | nil => cases ha <;> simp [takeExponent]
  | cons c s =>
    simp only [List.cons_append,takeExponent,takeSign_follows ha,takeDigits_follows ha]
    split <;> rfl

theorem takeNumber?_follows (s : Text) :
    takeNumber? (s ++ after) = (takeNumber? s).map fun (source,left) => (source,left ++ after) := by
  simp only [takeNumber?,takeSign_follows ha,takeDigits_follows ha,takeFraction_follows ha,
    takeExponent_follows ha]
  split <;> rfl

theorem takeHex_follows (n : Nat) (s : Text) : takeHex n (s ++ after) = takeHex n s := by
  obtain ⟨k,tail,rfl,hk⟩ := ha.head
  refine takeWhile_take_append _ n s ?_ tail
  rcases hk with rfl | rfl | rfl <;> rfl

theorem takeUnicodeRange_follows (s : Text) :
    takeUnicodeRange (s ++ after) =
      ((takeUnicodeRange s).1,(takeUnicodeRange s).2 ++ after) := by
  have hlength : ∀ n (t : Text), (takeHex n t).length ≤ t.length := fun n t =>
    Nat.le_trans (List.takeWhile_prefix _).length_le (List.take_prefix n t).length_le
  have hdrop : (s ++ after).drop (takeHex 6 s).length = s.drop (takeHex 6 s).length ++ after :=
    List.drop_append_of_le_length (hlength 6 s)
  have hwild : ∀ n (t : Text), ((t ++ after).take n).takeWhile (· == .char '?') =
      (t.take n).takeWhile (· == .char '?') := by
    intro n t
    obtain ⟨k,tail,rfl,hk⟩ := ha.head
    refine takeWhile_take_append _ n t ?_ tail
    rcases hk with rfl | rfl | rfl <;> rfl
  simp only [takeUnicodeRange,takeHex_follows ha,hdrop,hwild]
  generalize s.drop (takeHex 6 s).length = t
  generalize 6 - (takeHex 6 s).length = n
  have hmark : ((t.take n).takeWhile (· == .char '?')).length ≤ t.length :=
    Nat.le_trans (List.takeWhile_prefix _).length_le (List.take_prefix n t).length_le
  split
  · rw [List.drop_append_of_le_length hmark]
  · cases t with
    | nil => cases ha <;> rfl
    | cons c t =>
      by_cases hc : c = .char '-'
      · subst hc
        simp only [List.cons_append,takeHex_follows ha]
        split
        · rfl
        · rw [List.drop_append_of_le_length (hlength 6 t)]
      · split
        · next e => exact (hc (List.cons.inj e).1).elim
        · split
          · next e => exact (hc (List.cons.inj e).1).elim
          · rfl

/-! ## What a name or a range starts with -/

theorem startsIdent_follows (s : Text) : startsIdent (s ++ after) = startsIdent s := by
  cases s with
  | nil => cases ha <;> rfl
  | cons c s =>
    by_cases hminus : c = .char '-'
    · subst hminus
      cases s with
      | nil => cases ha <;> rfl
      | cons d s =>
        by_cases hslash : d = .char '\\'
        · subst hslash
          exact escapes_append ha s
        · rw [startsIdent_hyphen hslash,List.cons_append,List.cons_append,
            startsIdent_hyphen hslash]
    · by_cases hslash : c = .char '\\'
      · subst hslash
        exact escapes_append ha s
      · rw [startsIdent_of_ne hminus hslash,List.cons_append,startsIdent_of_ne hminus hslash]

theorem startsName_follows (s : Text) : startsName (s ++ after) = startsName s := by
  cases s with
  | nil => cases ha <;> rfl
  | cons c s =>
    by_cases hslash : c = .char '\\'
    · subst hslash
      exact escapes_append ha s
    · rw [startsName_of_ne hslash,List.cons_append,startsName_of_ne hslash]

theorem startsUnicodeRange_follows (c : CodePoint) (s : Text) :
    startsUnicodeRange c (s ++ after) = startsUnicodeRange c s := by
  cases s with
  | nil => cases ha <;> rfl
  | cons d s =>
    by_cases hd : d = .char '+'
    · subst hd
      cases s with
      | nil =>
        cases ha <;>
          simp [startsUnicodeRange,CodePoint.isHexDigit,CodePoint.hexDigit?,CodePoint.val]
      | cons e s => rfl
    · unfold startsUnicodeRange
      split
      · next e => exact (hd (List.cons.inj e).1).elim
      · split
        · next e => exact (hd (List.cons.inj e).1).elim
        · rfl

theorem prefix_of_follows {head : Text}
    (hhead : ∀ c ∈ head, c ≠ .char ';' ∧ c ≠ .char '\x7b' ∧ c ≠ .char ' ')
    {s : Text} (h : head <+: s ++ after) : head <+: s := by
  induction head generalizing s with
  | nil => exact List.nil_prefix
  | cons c head ih =>
    have hc := hhead c List.mem_cons_self
    cases s with
    | nil =>
      obtain ⟨k,tail,rfl,hk⟩ := ha.head
      rw [List.nil_append,List.cons_prefix_cons] at h
      rcases hk with rfl | rfl | rfl
      · exact (hc.1 h.1).elim
      · exact (hc.2.1 h.1).elim
      · exact (hc.2.2 h.1).elim
    | cons d s =>
      rw [List.cons_append,List.cons_prefix_cons] at h
      exact List.cons_prefix_cons.mpr ⟨h.1,ih (fun e he => hhead e (List.mem_cons_of_mem _ he)) h.2⟩

end Ends

end StyleLift.Css
