import StyleLift.Proofs.Verify.Soundness

/-! # Which emitted candidates are confirmed

An identifier may be written by its code points, by backslashes before single code points, and by
hexadecimal numbers. The scan for class selectors knows ASCII names and backslashes before single
code points, so a candidate that a compiler emits is confirmed just if it is written by these and
starts like a name. A number is read as its digits, which for some names are the rest of the name.
-/
namespace StyleLift

open Css Css.Written

namespace ClassSelector

/-! ## Identifiers -/

/-- A name is written as an identifier: by name code points, by backslashes before code points that
are no hexadecimal digits, and by backslashes before hexadecimal numbers with a space after them. -/
inductive Escaping : Text → Text → Prop
  | nil : Escaping [] []
  | plain {c : CodePoint} {spelling name : Text} (hc : isNamePart c = true)
      (h : Escaping spelling name) : Escaping (c :: spelling) (c :: name)
  | escaped {c : CodePoint} {spelling name : Text} (hline : c ≠ .char '\n')
      (hsettled : isSettled c = true) (hhex : c.isHexDigit = false) (h : Escaping spelling name) :
      Escaping (.char '\\' :: c :: spelling) (c :: name)
  | number {digits spelling name : Text} (hne : digits ≠ [])
      (hdigits : ∀ d ∈ digits, d.isHexDigit = true) (hlength : digits.length ≤ 6)
      (h : Escaping spelling name) :
      Escaping (.char '\\' :: (digits ++ .char ' ' :: spelling)) (escapeValue digits :: name)

/-- A name is written so that the scan reads it back: by plain code points and by backslashes before
single ones, up to a number whose digits are the rest of the name. -/
inductive Legible : Text → Text → Prop
  | nil : Legible [] []
  | plain {c : CodePoint} {spelling name : Text} (hc : isPlain c = true)
      (h : Legible spelling name) : Legible (c :: spelling) (c :: name)
  | escaped {c : CodePoint} {spelling name : Text} (hline : c ≠ .char '\n')
      (h : Legible spelling name) : Legible (.char '\\' :: c :: spelling) (c :: name)
  | digits {digits : Text} (hne : digits ≠ []) (hdigits : ∀ d ∈ digits, d.isHexDigit = true)
      (rest : Text) : Legible (.char '\\' :: (digits ++ .char ' ' :: rest)) digits

variable {spelling name digits q : Text}

theorem Escaping.plains (h : Escaping spelling name) {run : Text}
    (hrun : ∀ c ∈ run, isNamePart c = true) : Escaping (run ++ spelling) (run ++ name) := by
  induction run with
  | nil => exact h
  | cons c run ih =>
    exact .plain (hrun c List.mem_cons_self) (ih fun d hd => hrun d (List.mem_cons_of_mem _ hd))

theorem Legible.plains (h : Legible spelling name) {run : Text}
    (hrun : ∀ c ∈ run, isPlain c = true) : Legible (run ++ spelling) (run ++ name) := by
  induction run with
  | nil => exact h
  | cons c run ih =>
    exact .plain (hrun c List.mem_cons_self) (ih fun d hd => hrun d (List.mem_cons_of_mem _ hd))

theorem ne_of_isHexDigit {c d : CodePoint} (hc : c.isHexDigit = false) (hd : d.isHexDigit = true) :
    d ≠ c := by
  rintro rfl
  exact absurd (hc.symm.trans hd) (by decide)

theorem escapeDigits_space (hdigits : ∀ d ∈ digits, d.isHexDigit = true)
    (hlength : digits.length ≤ 6) (s : Text) :
    escapeDigits (digits ++ .char ' ' :: s) = digits := by
  have hstop : ∀ n, ((CodePoint.char ' ' :: s).take n).takeWhile CodePoint.isHexDigit = [] := by
    intro n
    cases n with
    | zero => rfl
    | succ n => exact List.takeWhile_cons_of_neg (by decide)
  rw [escapeDigits,List.take_append,List.take_of_length_le hlength,
    List.takeWhile_append_of_pos hdigits,hstop,List.append_nil]

/-- The reader of a sheet reads an identifier back from each of its spellings. -/
theorem Escaping.takeName_append (h : Escaping spelling name) (rest : Text) :
    takeName (spelling ++ rest) = (name ++ (takeName rest).1,(takeName rest).2) := by
  induction h with
  | nil => rfl
  | plain hc h ih =>
    rw [List.cons_append,takeName_part hc,ih]
    rfl
  | escaped hline hsettled hhex h ih =>
    rw [List.cons_append,List.cons_append,takeName_backslash (escapes_cons hline _),
      takeEscape_single hhex,ih]
    rfl
  | @number digits spelling name hne hdigits hlength h ih =>
    obtain ⟨d,ds,rfl⟩ := List.exists_cons_of_ne_nil hne
    have htext : .char '\\' :: (d :: ds ++ .char ' ' :: spelling) ++ rest =
        .char '\\' :: d :: (ds ++ .char ' ' :: (spelling ++ rest)) := by simp
    have hline : d ≠ .char '\n' := ne_of_isHexDigit rfl (hdigits d List.mem_cons_self)
    have hescape := takeEscape_of_digits (escapeDigits_space hdigits hlength (spelling ++ rest))
    rw [List.drop_left,dropSpace,if_pos (show isSpace (.char ' ') = true from rfl)] at hescape
    rw [List.cons_append] at hescape
    rw [htext,takeName_backslash (escapes_cons hline _),hescape,ih]
    rfl

/-! ## The scan at an identifier -/

theorem takeParts_space (t : Text) : takeParts (.char ' ' :: t) = ([],.char ' ' :: t) :=
  takeParts_stop (by decide) rfl t

theorem takeParts_number (hne : digits ≠ []) (hdigits : ∀ d ∈ digits, d.isHexDigit = true)
    (t : Text) : takeParts (.char '\\' :: (digits ++ .char ' ' :: t)) =
      (digits,.char ' ' :: t) := by
  obtain ⟨d,ds,rfl⟩ := List.exists_cons_of_ne_nil hne
  have hpart : ∀ e ∈ ds, isPart e = true := fun e he =>
    isPart_of_isHexDigit (hdigits e (List.mem_cons_of_mem _ he))
  rw [List.cons_append,takeParts_escape (ne_of_isHexDigit rfl (hdigits d List.mem_cons_self)),
    ClassSelector.takeParts_append hpart,takeParts_space,List.append_nil]

theorem Legible.takeParts (h : Legible spelling name) (t : Text) :
    (takeParts (spelling ++ .char ' ' :: t)).1 = name := by
  induction h with
  | nil => rw [List.nil_append,takeParts_space]
  | plain hc h ih => rw [List.cons_append,takeParts_part (isPlain_iff.mp hc).1,ih]
  | escaped hline h ih => rw [List.cons_append,List.cons_append,takeParts_escape hline,ih]
  | digits hne hdigits rest =>
    rw [List.cons_append,List.append_assoc,List.cons_append,takeParts_number hne hdigits]

theorem takeParts_notPart {c : CodePoint} (hname : isNamePart c = true) (h : isPart c = false)
    (t : Text) : takeParts (c :: t) = ([],c :: t) := by
  have hslash : c ≠ .char '\\' := by
    rintro rfl
    exact absurd hname (by decide)
  exact takeParts_stop hslash h t

/-- The scan reads an identifier back just where its spelling is legible. -/
theorem Escaping.legible_of_takeParts (h : Escaping spelling name) {t : Text}
    (ht : (takeParts (spelling ++ .char ' ' :: t)).1 = name) : Legible spelling name := by
  induction h with
  | nil => exact .nil
  | @plain c spelling name hc h ih =>
    rw [List.cons_append] at ht
    cases hpart : isPart c with
    | true =>
      rw [takeParts_part hpart] at ht
      exact .plain (isPlain_iff.mpr ⟨hpart,hc⟩) (ih (List.cons.inj ht).2)
    | false =>
      rw [takeParts_notPart hc hpart] at ht
      cases ht
  | escaped hline hsettled hhex h ih =>
    rw [List.cons_append,List.cons_append,takeParts_escape hline] at ht
    exact .escaped hline (ih (List.cons.inj ht).2)
  | number hne hdigits hlength h ih =>
    rw [List.cons_append,List.append_assoc,List.cons_append,takeParts_number hne hdigits] at ht
    rw [← ht]
    exact .digits hne hdigits _

/-- The scan reads no points but those of the identifier. -/
theorem Escaping.count_takeParts (h : Escaping spelling name) (t : Text) :
    (ClassSelector.takeParts (spelling ++ .char ' ' :: t)).1.count (.char '.') ≤
      name.count (.char '.') := by
  induction h with
  | nil => rw [List.nil_append,takeParts_space]
  | @plain c spelling name hc h ih =>
    rw [List.cons_append]
    cases hpart : isPart c with
    | true =>
      rw [takeParts_part hpart,List.count_cons,List.count_cons]
      exact Nat.add_le_add_right ih _
    | false =>
      rw [takeParts_notPart hc hpart]
      exact Nat.zero_le _
  | escaped hline hsettled hhex h ih =>
    rw [List.cons_append,List.cons_append,takeParts_escape hline,List.count_cons,List.count_cons]
    exact Nat.add_le_add_right ih _
  | number hne hdigits hlength h ih =>
    rw [List.cons_append,List.append_assoc,List.cons_append,takeParts_number hne hdigits,
      List.count_eq_zero.mpr fun hd => ne_of_isHexDigit rfl (hdigits _ hd) rfl]
    exact Nat.zero_le _

theorem suffix_of_append {a b : Text} {c : CodePoint} (ha : c ∉ a) (h : c :: q <:+ a ++ b) :
    c :: q <:+ b := by
  induction a with
  | nil => exact h
  | cons d a ih =>
    rcases List.suffix_cons_iff.mp h with heq | h
    · cases heq
      exact (ha List.mem_cons_self).elim
    · exact ih (fun hc => ha (List.mem_cons_of_mem _ hc)) h

/-- What follows a point of an identifier is written as an identifier with fewer points. -/
theorem Escaping.after_point (h : Escaping spelling name) {tail : Text} (ht : .char '.' ∉ tail)
    (hq : .char '.' :: q <:+ spelling ++ tail) : ∃ rest others, q = rest ++ tail ∧
      Escaping rest others ∧ others.count (.char '.') < name.count (.char '.') := by
  induction h with
  | nil => exact (ht (hq.subset List.mem_cons_self)).elim
  | @plain c spelling name hc h ih =>
    rcases List.suffix_cons_iff.mp hq with heq | hq
    · cases heq
      exact absurd hc (by decide)
    · obtain ⟨rest,others,rfl,hrest,hcount⟩ := ih hq
      exact ⟨rest,others,rfl,hrest,Nat.lt_of_lt_of_le hcount (List.count_le_count_cons)⟩
  | @escaped c spelling name hline hsettled hhex h ih =>
    rcases List.suffix_cons_iff.mp hq with heq | hq
    · cases heq
    rcases List.suffix_cons_iff.mp hq with heq | hq
    · cases heq
      exact ⟨spelling,name,rfl,h,by rw [List.count_cons_self]; exact Nat.lt_succ_self _⟩
    · obtain ⟨rest,others,rfl,hrest,hcount⟩ := ih hq
      exact ⟨rest,others,rfl,hrest,Nat.lt_of_lt_of_le hcount (List.count_le_count_cons)⟩
  | @number digits spelling name hne hdigits hlength h ih =>
    have hnone : .char '.' ∉ digits := fun hd => ne_of_isHexDigit rfl (hdigits _ hd) rfl
    have hq : .char '.' :: q <:+ (.char '\\' :: (digits ++ [.char ' '])) ++ (spelling ++ tail) := by
      simpa using hq
    obtain ⟨rest,others,rfl,hrest,hcount⟩ := ih (suffix_of_append (by simpa using hnone) hq)
    exact ⟨rest,others,rfl,hrest,Nat.lt_of_lt_of_le hcount (List.count_le_count_cons)⟩

theorem startsName_space (s t : Text) : startsName (s ++ .char ' ' :: t) = startsName s :=
  startsName_stop (by decide) rfl s t

/-! ## Rules in compiled text -/

/-- No name goes over a point that no backslash stands before. -/
theorem point_after_takeParts {a : Text} (h : ∀ c ∈ a.getLast?, c ≠ .char '\\') (q : Text) :
    .char '.' :: q <:+ (takeParts (a ++ .char '.' :: q)).2 := by
  have hpoint : takeParts (.char '.' :: q) = ([],.char '.' :: q) :=
    takeParts_stop (by decide) rfl q
  induction hn : a.length using Nat.strong_induction_on generalizing a with
  | _ n ih =>
    subst hn
    obtain rfl | ⟨c,rfl⟩ | ⟨c,d,a,rfl⟩ : a = [] ∨ (∃ c, a = [c]) ∨ ∃ c d b, a = c :: d :: b := by
      cases a with
      | nil => exact .inl rfl
      | cons c a =>
        cases a with
        | nil => exact .inr (.inl ⟨c,rfl⟩)
        | cons d a => exact .inr (.inr ⟨c,d,a,rfl⟩)
    · rw [List.nil_append,hpoint]
    · have hc : c ≠ .char '\\' := h c rfl
      cases hpart : isPart c with
      | true => rw [List.cons_append,takeParts_part hpart,List.nil_append,hpoint]
      | false =>
        rw [List.cons_append,takeParts_stop hc hpart]
        exact List.suffix_cons c _
    · have hwhole : .char '.' :: q <:+ c :: d :: a ++ .char '.' :: q := List.suffix_append _ _
      by_cases hc : c = .char '\\'
      · subst hc
        by_cases hd : d = .char '\n'
        · rw [List.cons_append,List.cons_append,takeParts,if_pos hd]
          exact hwhole
        · rw [List.cons_append,List.cons_append,takeParts_escape hd]
          refine ih a.length (by simp) (fun e he => ?_) rfl
          exact h e (by cases a with | nil => cases he | cons f a => simpa using he)
      · cases hpart : isPart c with
        | true =>
          rw [List.cons_append,takeParts_part hpart]
          exact ih (d :: a).length (by simp) (fun e he => h e (by simpa using he)) rfl
        | false =>
          rw [List.cons_append,takeParts_stop hc hpart]
          exact hwhole

/-- A name is read at a rule for a legible spelling, wherever the rule stands. -/
theorem Legible.mem_names (h : Legible spelling name) (hs : startsName spelling = true)
    (hp : placeholder.occursIn name = false) (before : Text)
    (hb : ∀ c ∈ before.getLast?, c ≠ .char '\\') (after : Text) :
    name ∈ names (before ++ .char '.' :: (spelling ++ .char ' ' :: after)) := by
  obtain ⟨t,ht⟩ : ∃ t, t = spelling ++ .char ' ' :: after := ⟨_,rfl⟩
  have hstarts : startsName t = true := by rw [ht,startsName_space,hs]
  rw [← ht]
  obtain ⟨f,hf,hcovers,hafter⟩ := found_covers hstarts (List.suffix_append before (.char '.' :: t))
  obtain ⟨hsource,p,hpoint,-,htake⟩ := found_spec hf
  have hsame : p = t := by
    rw [hpoint] at hcovers hsource
    rcases List.suffix_cons_iff.mp hcovers with heq | hinside
    · exact (List.cons.inj heq).2.symm
    exfalso
    obtain ⟨a,rfl⟩ := hinside
    obtain ⟨first,rfl⟩ : .char '.' :: a <:+ before := List.suffix_append_self_iff.mp hsource
    have hlast : ∀ c ∈ a.getLast?, c ≠ .char '\\' := fun c hc => hb c (by
      rw [List.getLast?_append,List.getLast?_cons,Option.mem_def.mp hc]
      rfl)
    have hlength := (point_after_takeParts hlast t).length_le
    rw [htake] at hlength
    simp only [List.length_cons] at hlength
    omega
  refine ClassSelector.mem_names.mpr ⟨f,hf,?_,hp⟩
  rw [hsame,ht] at htake
  rw [← h.takeParts after,htake]

/-- A rule alone gives a name just if it is spelled legibly: what is found at a point of the
identifier has fewer points. -/
theorem Escaping.mem_names_iff (h : Escaping spelling name) :
    name ∈ names (.char '.' :: (spelling ++ .char ' ' :: ("\x7b\x7d" : Text))) ↔
      startsName spelling = true ∧ Legible spelling name ∧ placeholder.occursIn name = false := by
  constructor
  · intro hmem
    obtain ⟨f,hf,hname,hp⟩ := ClassSelector.mem_names.mp hmem
    obtain ⟨hsource,q,hpoint,hstarts,htake⟩ := found_spec hf
    rw [hpoint] at hsource
    rcases List.suffix_cons_iff.mp hsource with heq | hinside
    · have hq : q = spelling ++ .char ' ' :: ("\x7b\x7d" : Text) := (List.cons.inj heq).2
      rw [hq] at htake hstarts
      rw [startsName_space] at hstarts
      exact ⟨hstarts,h.legible_of_takeParts (by rw [htake,hname]),hp⟩
    · exfalso
      obtain ⟨rest,others,rfl,hrest,hcount⟩ := h.after_point (by decide) hinside
      have hfewer := hrest.count_takeParts ("\x7b\x7d" : Text)
      rw [htake,hname] at hfewer
      exact absurd hcount (Nat.not_lt.mpr hfewer)
  · rintro ⟨hs,hlegible,hp⟩
    exact hlegible.mem_names hs hp [] (by simp) _

end ClassSelector

open ClassSelector

/-! ## Confirmation -/

/-- A candidate that a compiler emits a rule for is confirmed, whatever else the compiled text
holds, just if the rule's selector starts like a name, is spelled legibly and is no placeholder. A
point after a backslash starts no selector. -/
theorem confirms_emitted_iff {rules : List Rule} {candidates : List Text} {c spelling : Text}
    (hrules : candidateClasses rules = .ok candidates) (hc : c ∈ candidates)
    (h : Escaping spelling c) :
    (∀ (html before after : Text) (compiler : Compiler), (∀ d ∈ before.getLast?, d ≠ .char '\\') →
      (compiler.compile (syntheticStylesheet rules) [html]).outcome =
        .ok (before ++ .char '.' :: (spelling ++ (" \x7b" : Text) ++ after)) →
      ∃ v, (verify html rules compiler).outcome = .ok v ∧ c ∈ v.confirmed) ↔
    ClassSelector.startsName spelling = true ∧ Legible spelling c ∧
      placeholder.occursIn c = false := by
  have hverify : ∀ {html out : Text} {compiler : Compiler},
      (compiler.compile (syntheticStylesheet rules) [html]).outcome = .ok out →
        (verify html rules compiler).outcome = .ok (.of out candidates) := by
    intro html out compiler hout
    rw [verify_outcome,hout,hrules]
    rfl
  have hconfirmed : ∀ out, c ∈ (Verification.of out candidates).confirmed ↔ c ∈ names out := by
    intro out
    simp [Verification.of,hc]
  constructor
  · intro hall
    obtain ⟨v,hv,hmem⟩ := hall "" [] "\x7d" ⟨fun _ _ => pure _⟩ (by simp) rfl
    rw [hverify rfl] at hv
    cases hv
    rw [hconfirmed] at hmem
    refine h.mem_names_iff.mp ?_
    simpa [Text.ofString] using hmem
  · rintro ⟨hs,hlegible,hp⟩ html before after compiler hb hout
    refine ⟨_,hverify hout,(hconfirmed _).mpr ?_⟩
    have hmem := hlegible.mem_names hs hp before hb (.char '\x7b' :: after)
    simpa [Text.ofString] using hmem

theorem fontFamily_candidates : candidateClasses
    [⟨".a",[⟨"font-family","a,b",false⟩]⟩] = .ok [("font-family-[a,b]" : Text)] := by
  cbv

/-- A comma after a backslash: the class is confirmed, here after another rule. -/
theorem confirms_emitted_fontFamily :
    ∃ v, (verify "" [⟨".a",[⟨"font-family","a,b",false⟩]⟩]
      ⟨fun _ _ => pure ".b\x7b\x7d.font-family-\\[a\\,b\\] \x7b\x7d"⟩).outcome = .ok v ∧
      ("font-family-[a,b]" : Text) ∈ v.confirmed := by
  have hrun : ∀ c ∈ ("font-family-" : Text), isNamePart c = true ∧ isPlain c = true := by decide
  have hescaping : Escaping "font-family-\\[a\\,b\\]" "font-family-[a,b]" :=
    Escaping.plains (.escaped (by decide) rfl rfl (.plain rfl (.escaped (by decide) rfl rfl
      (.plain rfl (.escaped (by decide) rfl rfl .nil))))) fun c hc => (hrun c hc).1
  have hlegible : Legible "font-family-\\[a\\,b\\]" "font-family-[a,b]" :=
    Legible.plains (.escaped (by decide) (.plain rfl (.escaped (by decide)
      (.plain rfl (.escaped (by decide) .nil))))) fun c hc => (hrun c hc).2
  exact (confirms_emitted_iff fontFamily_candidates List.mem_cons_self hescaping).mpr
    ⟨rfl,hlegible,by decide⟩ "" ".b\x7b\x7d" "\x7d" ⟨fun _ _ => pure _⟩ (by decide) rfl

/-- The comma as a number: the rule is there, the selector is read as the class, and the class is
not confirmed. -/
theorem not_confirmed_number :
    Escaping "font-family-\\[a\\2c b\\]" "font-family-[a,b]" ∧
    takeName "font-family-\\[a\\2c b\\]" = (("font-family-[a,b]" : Text),[]) ∧
    ∃ v, (verify "" [⟨".a",[⟨"font-family","a,b",false⟩]⟩]
      ⟨fun _ _ => pure ".font-family-\\[a\\2c b\\] \x7b\x7d"⟩).outcome = .ok v ∧
      ("font-family-[a,b]" : Text) ∉ v.confirmed := by
  have hrun : ∀ c ∈ ("font-family-" : Text), isNamePart c = true := by decide
  have hescaping : Escaping "font-family-\\[a\\2c b\\]" "font-family-[a,b]" := by
    have hcomma : escapeValue ("2c" : Text) = .char ',' := by decide
    have hafter : Escaping "\\2c b\\]" (escapeValue ("2c" : Text) :: ("b]" : Text)) :=
      @Escaping.number "2c" _ _ (by decide) (by decide) (by decide)
        (.plain rfl (.escaped (by decide) rfl rfl .nil))
    rw [hcomma] at hafter
    exact Escaping.plains (.escaped (by decide) rfl rfl (.plain rfl hafter)) hrun
  refine ⟨hescaping,?_,⟨[("font-family-[a2c" : Text)],[]⟩,by cbv,List.not_mem_nil⟩
  have hread := hescaping.takeName_append []
  rw [List.append_nil,takeName,List.append_nil] at hread
  exact hread

end StyleLift
