import StyleLift.Proofs.Css.Selectors
import StyleLift.Proofs.Css.WrittenTokens

/-! # Spellings of a class name

A scan and a reader of the sheet take the same name from the same text just if it is spelled by
ASCII name code points and by backslashes before single code points that are no hexadecimal digits.
Of an escape by digits the scan makes more code points than the reader does, so no run of them
makes up for it.
-/
namespace StyleLift.ClassSelector

open Css Css.Written

/-! ## Code points of names -/

theorem isPlain_iff {c : CodePoint} : isPlain c = true ↔ isPart c = true ∧ isNamePart c = true := by
  constructor
  · intro h
    simp only [isPlain,Bool.or_eq_true] at h
    obtain ((h | h) | h) | h := h <;> simp [isPart,isStart,isNamePart,isNameStart,h]
  · rintro ⟨h,hname⟩
    simp only [isPart,isStart,Bool.or_eq_true,beq_iff_eq] at h
    obtain ((((h | rfl) | h) | rfl) | rfl) | rfl := h
    · simp [isPlain,h]
    · rfl
    · simp [isPlain,h]
    · rfl
    · exact absurd hname (by decide)
    · exact absurd hname (by decide)

theorem isSettled_of_isPart {c : CodePoint} (h : isPart c = true) : isSettled c = true := by
  simp only [isSettled,Bool.and_eq_true,bne_iff_ne,ne_eq]
  refine ⟨⟨?_,?_⟩,?_⟩ <;> rintro rfl <;> exact absurd h (by decide)

theorem isHexDigit_range {c : CodePoint} (h : c.isHexDigit = true) :
    (∃ n < 16, c.hexDigit? = some n) ∧ (0x30 ≤ c.val ∧ c.val ≤ 0x39 ∨
      0x41 ≤ c.val ∧ c.val ≤ 0x46 ∨ 0x61 ≤ c.val ∧ c.val ≤ 0x66) := by
  unfold CodePoint.isHexDigit at h
  unfold CodePoint.hexDigit? at h ⊢
  simp only [Bool.and_eq_true,decide_eq_true_eq] at h ⊢
  split at h
  · next hd =>
    rw [if_pos hd]
    exact ⟨⟨_,by omega,rfl⟩,.inl hd⟩
  · next hd =>
    split at h
    · next hu =>
      rw [if_neg hd,if_pos hu]
      exact ⟨⟨_,by omega,rfl⟩,.inr (.inl hu)⟩
    · next hu =>
      split at h
      · next hl =>
        rw [if_neg hd,if_neg hu,if_pos hl]
        exact ⟨⟨_,by omega,rfl⟩,.inr (.inr hl)⟩
      · cases h

theorem isPart_of_isHexDigit {c : CodePoint} (h : c.isHexDigit = true) : isPart c = true := by
  obtain ⟨-,hrange⟩ := isHexDigit_range h
  simp only [isPart,isStart,CodePoint.isAsciiLetter,CodePoint.isAsciiDigit,Bool.or_eq_true,
    Bool.and_eq_true,decide_eq_true_eq]
  omega

/-- One digit is never an escape of itself. -/
theorem escapeValue_ne {d : CodePoint} (h : d.isHexDigit = true) : escapeValue [d] ≠ d := by
  obtain ⟨⟨n,hn,hdigit⟩,hrange⟩ := isHexDigit_range h
  have hvalue : Text.hexValue [d] = n := by simp [Text.hexValue,hdigit]
  have hsmall : ∀ n < 16, (CodePoint.ofNat n).val < 16 := by decide
  intro he
  rw [escapeValue,hvalue] at he
  split at he
  · rw [← he] at hrange
    exact absurd hrange (by decide)
  · have hval := hsmall n hn
    rw [he] at hval
    omega

/-! ## Spellings -/

/-- A name is spelled by plain code points and escapes of single ones. -/
inductive Spells : Text → Text → Prop
  | nil : Spells [] []
  | plain {c : CodePoint} {spelling name : Text} (hc : isPlain c = true)
      (h : Spells spelling name) : Spells (c :: spelling) (c :: name)
  | escaped {c : CodePoint} {spelling name : Text} (hline : c ≠ .char '\n')
      (hsettled : isSettled c = true) (hhex : c.isHexDigit = false) (h : Spells spelling name) :
      Spells (.char '\\' :: c :: spelling) (c :: name)

theorem takeEscape_single {c : CodePoint} (h : c.isHexDigit = false) (s : Text) :
    takeEscape (c :: s) = (c,s) := by
  refine takeEscape_of_none ?_
  rw [escapeDigits,List.take_succ_cons,List.takeWhile_cons_of_neg (by simp [h])]

theorem takeName_backslash {s : Text} (h : escapes s = true) : takeName (.char '\\' :: s) =
    ((takeEscape s).1 :: (takeName (takeEscape s).2).1,(takeName (takeEscape s).2).2) :=
  takeName_escape (by decide) ⟨rfl,h⟩

theorem escapes_cons {c : CodePoint} (h : c ≠ .char '\n') (s : Text) : escapes (c :: s) = true := by
  rw [escapes]
  intro rest hs
  exact h (List.cons.inj hs).1

namespace Spells

variable {spelling name : Text}

theorem settled (h : Spells spelling name) : ∀ c ∈ spelling, isSettled c = true := by
  induction h with
  | nil => simp
  | plain hc h ih =>
    intro d hd
    rcases List.mem_cons.mp hd with rfl | hd
    · exact isSettled_of_isPart (isPlain_iff.mp hc).1
    · exact ih d hd
  | escaped hline hsettled hhex h ih =>
    intro d hd
    rcases List.mem_cons.mp hd with rfl | hd
    · rfl
    · rcases List.mem_cons.mp hd with rfl | hd
      · exact hsettled
      · exact ih d hd

theorem takeParts_append (h : Spells spelling name) (rest : Text) :
    takeParts (spelling ++ rest) = (name ++ (takeParts rest).1,(takeParts rest).2) := by
  induction h with
  | nil => rfl
  | plain hc h ih =>
    rw [List.cons_append,takeParts_part (isPlain_iff.mp hc).1,ih]
    rfl
  | escaped hline hsettled hhex h ih =>
    rw [List.cons_append,List.cons_append,takeParts_escape hline,ih]
    rfl

theorem takeName_append (h : Spells spelling name) (rest : Text) :
    takeName (spelling ++ rest) = (name ++ (takeName rest).1,(takeName rest).2) := by
  induction h with
  | nil => rfl
  | plain hc h ih =>
    rw [List.cons_append,takeName_part (isPlain_iff.mp hc).2,ih]
    rfl
  | escaped hline hsettled hhex h ih =>
    rw [List.cons_append,List.cons_append,takeName_backslash (escapes_cons hline _),
      takeEscape_single hhex,ih]
    rfl

end Spells

/-! ## Both readers at one text -/

/-- Digits of an escape stood in the text before line ends were made newlines. -/
theorem eq_append_of_preprocess {ds s t : Text} (hds : ∀ d ∈ ds, d.isHexDigit = true)
    (h : preprocess s = ds ++ t) : ∃ rest, s = ds ++ rest ∧ t = preprocess rest := by
  induction ds generalizing s with
  | nil => exact ⟨s,rfl,h.symm⟩
  | cons d ds ih =>
    have hd := hds d List.mem_cons_self
    obtain ⟨tail,rfl,htail⟩ := preprocess_eq_cons h (by rintro rfl; exact absurd hd (by decide))
      (by rintro rfl; exact absurd hd (by decide))
    obtain ⟨rest,rfl,hrest⟩ := ih (fun e he => hds e (List.mem_cons_of_mem _ he)) htail.symm
    exact ⟨rest,rfl,hrest⟩

/-- A name that the reader of the sheet takes up to where the scan stops is no longer than the
scan's, and where it is the same the text spells it. -/
def Agrees (s : Text) : Prop :=
  ∀ name after, takeName (preprocess s) = (name,preprocess after) → after = (takeParts s).2 →
    name.length ≤ (takeParts s).1.length ∧
      (name = (takeParts s).1 → ∃ spelling, s = spelling ++ after ∧ Spells spelling name)

variable {s t : Text} {c d : CodePoint}

theorem agrees_of_stop (h : takeParts s = ([],s)) : Agrees s := by
  rintro name after hread rfl
  rw [h] at hread ⊢
  have hlength := takeName_length_le (preprocess s)
  rw [hread] at hlength
  have hname : name = [] := List.eq_nil_of_length_eq_zero (by dsimp only at hlength; omega)
  subst hname
  exact ⟨Nat.le_refl _,fun _ => ⟨[],rfl,.nil⟩⟩

/-- One code point more at the start of both names. -/
theorem Agrees.step (head : Text) {v : CodePoint}
    (h : Agrees t) (hscan : takeParts (head ++ t) = (d :: (takeParts t).1,(takeParts t).2))
    (hread : takeName (preprocess (head ++ t)) =
      (v :: (takeName (preprocess t)).1,(takeName (preprocess t)).2))
    (hspells : v = d → ∀ spelling name, Spells spelling name →
      Spells (head ++ spelling) (d :: name)) :
    Agrees (head ++ t) := by
  rintro name after hfound rfl
  rw [hscan] at hfound ⊢
  rw [hread] at hfound
  obtain ⟨rfl,hafter⟩ := Prod.mk.inj hfound
  obtain ⟨hle,hsame⟩ := h _ _ (Prod.ext rfl hafter) rfl
  refine ⟨Nat.succ_le_succ hle,fun heq => ?_⟩
  obtain ⟨rfl,hname⟩ := List.cons.inj heq
  obtain ⟨spelling,hspelling,hspells'⟩ := hsame hname
  refine ⟨head ++ spelling,?_,hspells rfl _ _ hspells'⟩
  rw [List.append_assoc,← hspelling]

theorem takeParts_length_preprocess (s : Text) :
    (preprocess (takeParts s).2).length ≤ (preprocess s).length :=
  preprocess_length_le (takeParts_suffix s)

theorem Agrees.part (hc : isPart c = true) (h : Agrees t) : Agrees (c :: t) := by
  have hscan := takeParts_part hc t
  have hsettled := preprocess_settled (isSettled_of_isPart hc) t
  cases hname : isNamePart c with
  | true =>
    have hread := takeName_part hname (preprocess t)
    rw [← hsettled] at hread
    exact h.step [c] hscan hread fun _ spelling name hs =>
      .plain (isPlain_iff.mpr ⟨hc,hname⟩) hs
  | false =>
    rintro name after hread rfl
    have hne := ne_backslash_of_isPart hc
    rw [hsettled,takeName_end (by simp [hname]) (fun h => hne h.1),hscan] at hread
    have hlength := takeParts_length_preprocess t
    rw [← (Prod.mk.inj hread).2] at hlength
    exact absurd hlength (Nat.not_succ_le_self _)

/-- A backslash at the end of a line, as the reader sees it, ends the name for the reader alone. -/
theorem Agrees.line (hd : d ≠ .char '\n') (hline : settle d = .char '\n') :
    Agrees (.char '\\' :: d :: t) := by
  rintro name after hread rfl
  obtain ⟨tail,htail⟩ := preprocess_eq_settle_cons d t
  have hend : takeName (preprocess (.char '\\' :: d :: t)) =
      ([],.char '\\' :: preprocess (d :: t)) := by
    rw [preprocess_settled rfl,htail,hline]
    exact takeName_end (by decide) (by simp [escapes])
  rw [hend,takeParts_escape hd] at hread
  have hlength := Nat.le_trans (takeParts_length_preprocess t) (preprocess_length_cons d t)
  rw [← (Prod.mk.inj hread).2] at hlength
  exact absurd hlength (Nat.not_succ_le_self _)

theorem not_isHexDigit_settle (hline : settle d ≠ .char '\n') (h : d.isHexDigit = false) :
    (settle d).isHexDigit = false := by
  rcases settle_cases d with hsettle | hsettle | hsettle
  · rw [hsettle]
    rfl
  · exact (hline hsettle).elim
  · rwa [hsettle]

theorem Agrees.escaped (hd : d ≠ .char '\n') (hhex : d.isHexDigit = false) (h : Agrees t) :
    Agrees (.char '\\' :: d :: t) := by
  by_cases hline : settle d = .char '\n'
  · exact .line hd hline
  · have hreturn : d ≠ .char '\r' := by
      rintro rfl
      exact hline rfl
    have hnext : preprocess (d :: t) = settle d :: preprocess t := by
      rw [preprocess_cons hreturn,settle]
      simp [hreturn]
    have hread : takeName (preprocess (.char '\\' :: d :: t)) =
        (settle d :: (takeName (preprocess t)).1,(takeName (preprocess t)).2) := by
      rw [preprocess_settled rfl,hnext,takeName_backslash (escapes_cons hline _),
        takeEscape_single (not_isHexDigit_settle hline hhex)]
    exact h.step [.char '\\',d] (takeParts_escape hd t) hread
      fun hsame spelling name hs => .escaped hd (isSettled_of_settle hsame) hhex hs

theorem takeParts_blank {u : Text} (hc : isSpace c = true) (h : preprocess s = c :: u) :
    takeParts s = ([],s) := by
  cases s with
  | nil => rfl
  | cons e rest =>
    obtain ⟨tail,htail⟩ := preprocess_eq_settle_cons e rest
    have he : settle e = c := by
      rw [htail] at h
      exact (List.cons.inj h).1
    have hslash : e ≠ .char '\\' := by
      rintro rfl
      rw [← he] at hc
      exact absurd hc (by decide)
    have hpart : ¬isPart e = true := by
      intro hpart
      rw [preprocess_settled (isSettled_of_isPart hpart)] at h
      obtain ⟨rfl,-⟩ := List.cons.inj h
      simp only [isSpace,Bool.or_eq_true,beq_iff_eq] at hc
      obtain (rfl | rfl) | rfl := hc <;> exact absurd hpart (by decide)
    exact takeParts_stop hslash (Bool.eq_false_iff.mpr hpart) rest

/-- The digits of an escape, as they stand before line ends are made newlines. -/
theorem escapeDigits_preprocess (hd : d.isHexDigit = true) (t : Text) :
    ∃ ds rest, t = ds ++ rest ∧ (∀ e ∈ ds, e.isHexDigit = true) ∧
      preprocess t = ds ++ preprocess rest ∧ escapeDigits (d :: preprocess t) = d :: ds := by
  obtain ⟨ds,hds⟩ : ∃ ds, ds = ((preprocess t).take 5).takeWhile CodePoint.isHexDigit := ⟨_,rfl⟩
  have hhex : ∀ e ∈ ds, e.isHexDigit = true := by
    rw [hds]
    exact fun e he => List.all_eq_true.mp List.all_takeWhile e he
  have hfirst : ds <+: preprocess t := by
    rw [hds]
    exact (List.takeWhile_prefix _).trans (List.take_prefix 5 _)
  obtain ⟨u,hu⟩ := hfirst
  obtain ⟨rest,hrest,rfl⟩ := eq_append_of_preprocess hhex hu.symm
  refine ⟨ds,rest,hrest,hhex,hu.symm,?_⟩
  rw [escapeDigits,List.take_succ_cons,List.takeWhile_cons_of_pos hd,← hds]

/-- No blank after the digits is taken by a reader that ends where the scan does. -/
theorem dropSpace_preprocess
    (h : (takeName (dropSpace (preprocess s))).2 = preprocess (takeParts s).2) :
    dropSpace (preprocess s) = preprocess s := by
  cases hs : preprocess s with
  | nil => rfl
  | cons e tail =>
    rw [dropSpace]
    split
    · next hspace =>
      have hlength := takeName_length tail
      rw [hs,dropSpace,if_pos hspace,takeParts_blank hspace hs,hs] at h
      rw [h] at hlength
      exact absurd hlength (Nat.not_succ_le_self _)
    · rfl

/-- Digits after a backslash are one code point to the reader, and as many as they are to the
scan. -/
theorem Agrees.digits (hd : d.isHexDigit = true) (h : ∀ u, u <:+ t → Agrees u) :
    Agrees (.char '\\' :: d :: t) := by
  obtain ⟨ds,rest,rfl,hhex,ht,hdigits⟩ := escapeDigits_preprocess hd t
  have hline : d ≠ .char '\n' := by
    rintro rfl
    exact absurd hd (by decide)
  have hread : takeName (preprocess (.char '\\' :: d :: (ds ++ rest))) =
      (escapeValue (d :: ds) :: (takeName (dropSpace (preprocess rest))).1,
        (takeName (dropSpace (preprocess rest))).2) := by
    rw [preprocess_settled rfl,preprocess_settled (isSettled_of_isPart (isPart_of_isHexDigit hd)),
      takeName_backslash (escapes_cons hline _),takeEscape_of_digits hdigits,ht]
    simp
  have hscan : takeParts (.char '\\' :: d :: (ds ++ rest)) =
      (d :: (ds ++ (takeParts rest).1),(takeParts rest).2) := by
    rw [takeParts_escape hline,takeParts_append fun e he => isPart_of_isHexDigit (hhex e he)]
  rintro name after hfound rfl
  rw [hread,hscan] at hfound
  rw [hscan]
  obtain ⟨rfl,hafter⟩ := Prod.mk.inj hfound
  have hdrop := dropSpace_preprocess hafter
  rw [hdrop] at hafter ⊢
  obtain ⟨hle,-⟩ :=
    h rest (List.suffix_append _ _) (takeName (preprocess rest)).1 _ (Prod.ext rfl hafter) rfl
  refine ⟨?_,fun heq => ?_⟩
  · simp only [List.length_cons,List.length_append]
    omega
  · obtain ⟨hvalue,hname⟩ := List.cons.inj heq
    have hnil : ds = [] := by
      rw [hname,List.length_append] at hle
      exact List.eq_nil_of_length_eq_zero (by omega)
    rw [hnil] at hvalue
    exact (escapeValue_ne hd hvalue).elim

theorem agrees (s : Text) : Agrees s := by
  induction h : s.length using Nat.strongRecOn generalizing s with
  | ind n ih =>
    subst h
    have hless : ∀ u, u.length < s.length → Agrees u := fun u hu => ih _ hu u rfl
    fun_cases takeParts s with
    | case1 => exact agrees_of_stop rfl
    | case2 rest => exact agrees_of_stop (by simp [takeParts])
    | case3 d t hd =>
      cases hhex : d.isHexDigit with
      | true =>
        refine .digits hhex fun u hu => hless u ?_
        have hlength := hu.length_le
        simp only [List.length_cons]
        omega
      | false => exact .escaped hd hhex (hless t (by simp only [List.length_cons]; omega))
    | case4 c t hne hc => exact .part hc (hless t (by simp))
    | case5 c t hne hc => exact agrees_of_stop (by rw [takeParts.eq_3 c t hne,if_neg hc])

/-! ## Ends of a name -/

/-- What a scan alone takes for more of a name. -/
def goesOn : Text → Bool
  | .char '\\' :: c :: _ => c == .char '\r' || c == .char '\x0c'
  | c :: _ => c == .char ':' || c == .char '/'
  | [] => false

theorem isPart_not_isNamePart (hpart : isPart c = true) (hname : isNamePart c = false) :
    c = .char ':' ∨ c = .char '/' := by
  have hplain : isPlain c = false := by
    refine Bool.eq_false_iff.mpr fun hplain => ?_
    rw [(isPlain_iff.mp hplain).2] at hname
    cases hname
  simp only [isPart,isStart,isPlain,Bool.or_eq_true,Bool.or_eq_false_iff] at hpart hplain
  simpa only [hplain.1.1.1,hplain.1.1.2,hplain.1.2,hplain.2,Bool.false_eq_true,false_or,
    beq_iff_eq] using hpart

/-- Where a name has ended for the reader of the sheet, it has for the scan if it does not go on. -/
theorem takeParts_eq_nil_iff (h : (takeName (preprocess s)).1 = []) :
    takeParts s = ([],s) ↔ goesOn s = false := by
  fun_cases goesOn s with
  | case1 c t =>
    have hline : settle c = .char '\n' := by
      by_contra hline
      obtain ⟨tail,htail⟩ := preprocess_eq_settle_cons c t
      rw [preprocess_settled rfl,htail,takeName_backslash (escapes_cons hline _)] at h
      cases h
    rcases settle_eq_newline hline with rfl | rfl | rfl
    · simp [takeParts]
    · rw [takeParts_escape (by decide)]
      simp
    · rw [takeParts_escape (by decide)]
      simp
  | case2 c t hne =>
    have hslash : c ≠ .char '\\' := by
      rintro rfl
      cases t with
      | nil =>
        rw [preprocess_settled rfl,takeName_backslash rfl] at h
        cases h
      | cons d t => exact hne d t rfl rfl
    rw [takeParts.eq_3 c t fun d tail hc _ => hslash hc]
    split
    · next hpart =>
      have hname : isNamePart c = false := by
        refine Bool.eq_false_iff.mpr fun hname => ?_
        rw [preprocess_settled (isSettled_of_isPart hpart),takeName_part hname] at h
        cases h
      rcases isPart_not_isNamePart hpart hname with rfl | rfl <;> simp
    · next hpart =>
      have hmark : ∀ m, isPart (.char m) = true → c ≠ .char m := by
        rintro m hm rfl
        exact hpart hm
      simp [hmark ':' (by decide),hmark '/' (by decide)]
  | case3 => simp [takeParts]

/-! ## Plain class selectors -/

/-- The same class selector, in a text whose line ends have been made newlines. -/
def Found.settled (f : Found) : Found := ⟨preprocess f.source,f.name,preprocess f.after⟩

/-- A class selector whose name is spelled by plain code points and escapes of single ones. -/
structure Found.Plain (f : Found) : Prop where
  spelled : ∃ spelling, f.source = .char '.' :: (spelling ++ f.after) ∧ Spells spelling f.name ∧
    startsName (spelling ++ f.after) = true
  ends : goesOn f.after = false

/-- A plain class selector of a sheet, with its place in the text. -/
structure Evident (out : Text) (g : Found) : Prop where
  source : g.source <:+ out
  plain : g.Plain
  selects : g.settled ∈ classSelectors out

variable {out : Text} {f g : Found}

/-- Both readers find a plain class selector. -/
theorem Evident.takeParts (h : Evident out g) : ∃ q, g.source = .char '.' :: q ∧
    startsName q = true ∧ ClassSelector.takeParts q = (g.name,g.after) := by
  obtain ⟨spelling,hsource,hspells,hstarts⟩ := h.plain.spelled
  obtain ⟨c,k,hpoint,hread,-⟩ := classSelectors_spec h.selects
  refine ⟨_,hsource,hstarts,?_⟩
  have hsettled : preprocess (spelling ++ g.after) = c :: k := by
    rw [Found.settled,hsource,preprocess_settled rfl] at hpoint
    exact (List.cons.inj hpoint).2
  rw [← hsettled,preprocess_settled_append hspells.settled,hspells.takeName_append] at hread
  have hend : (takeName (preprocess g.after)).1 = [] :=
    List.append_right_eq_self.mp (Prod.mk.inj hread).1
  rw [hspells.takeParts_append,(takeParts_eq_nil_iff hend).mpr h.plain.ends,List.append_nil]

/-- What a scan takes for a class selector is one, with this name and this end, just if a plain
class selector stands there. -/
theorem selects_iff (hf : f ∈ found out) :
    f.settled ∈ classSelectors out ↔ ∃ g, Evident out g ∧ g.source = f.source := by
  obtain ⟨hsuffix,q,hsource,hstarts,hscan⟩ := found_spec hf
  constructor
  · intro hmem
    obtain ⟨c,k,hpoint,hread,-⟩ := classSelectors_spec hmem
    have hsettled : preprocess q = c :: k := by
      rw [Found.settled,hsource,preprocess_settled rfl] at hpoint
      exact (List.cons.inj hpoint).2
    rw [← hsettled] at hread
    obtain ⟨-,hspelled⟩ := agrees q f.name f.after hread (by rw [hscan])
    obtain ⟨spelling,rfl,hspells⟩ := hspelled (by rw [hscan])
    have hafter := takeParts_after (spelling ++ f.after)
    rw [hscan] at hafter
    rw [preprocess_settled_append hspells.settled,hspells.takeName_append] at hread
    have hend : (takeName (preprocess f.after)).1 = [] :=
      List.append_right_eq_self.mp (Prod.mk.inj hread).1
    have hplain : f.Plain :=
      ⟨⟨spelling,hsource,hspells,hstarts⟩,(takeParts_eq_nil_iff hend).mp hafter⟩
    exact ⟨f,⟨hsuffix,hplain,hmem⟩,rfl⟩
  · rintro ⟨g,hg,hsame⟩
    obtain ⟨p,hp,-,hscan'⟩ := hg.takeParts
    have hq : q = p := by
      rw [hsame,hsource] at hp
      exact (List.cons.inj hp).2
    subst hq
    obtain ⟨hname,hafter⟩ := Prod.mk.inj (hscan'.symm.trans hscan)
    have hselects := hg.selects
    rwa [Found.settled,hsame,hname,hafter] at hselects

end StyleLift.ClassSelector
