import Mathlib.Logic.Relation
import StyleLift.Markup.ClassNames
import StyleLift.Proofs.Markup.References
import StyleLift.Proofs.Text.Blanks

/-! # Places that a pass comes to

A pass goes from place to place: over a construct, over the content of a raw element, over a
reference, or over one code point. Each place is the text that is left there. A pass gives its tags
just if it comes to no place that it fails at, and where it fails the markup is rejected or a
numeral has too many digits.
-/
namespace StyleLift.Markup

/-! ## Marked sections -/

/-- The content of a marked section whose status keyword is missing or not known. -/
inductive UnknownSection : Text → Prop
  | nameless {c : CodePoint} {rest : Text} : c.isAsciiLetter = false → UnknownSection (c :: rest)
  | unknown {first next : CodePoint} {name blanks rest : Text} :
    first.isAsciiLetter = true → (∀ c ∈ name, isSectionNamePart c = true) →
    (∀ c ∈ blanks, c.isBlank = true) → next.isBlank = false →
    (∀ c ∈ (blanks ++ [next]).head?, isSectionNamePart c = false) →
    Text.asciiLower (first :: name) ∉ standardSections →
    Text.asciiLower (first :: name) ∉ conditionalSections →
    UnknownSection (first :: name ++ (blanks ++ next :: rest))

theorem skipTo_ne_rejected {ends : Text → Option Text} {s : Text} {r : Rejection} :
    skipTo ends s ≠ .rejected r := by
  unfold skipTo
  split <;> simp

theorem endTag_ne_rejected {s : Text} {r : Rejection} : endTag s ≠ .rejected r := by
  unfold endTag
  split <;> simp

theorem isSectionNamePart_of_letter {c : CodePoint} (h : c.isAsciiLetter = true) :
    isSectionNamePart c = true := by
  simp [isSectionNamePart,h]

/-- Where a marked section is rejected, its status keyword is missing or not known. -/
theorem unknownSection_of_rejected {s : Text} {r : Rejection} (h : markedSection s = .rejected r) :
    UnknownSection s := by
  unfold markedSection at h
  split at h
  · cases h
  next c tail =>
  split at h
  · next hc => exact .nameless (by simpa using hc)
  next hc =>
  have hc : c.isAsciiLetter = true := by simpa using hc
  obtain ⟨rest,hrest⟩ : ∃ rest, rest = (c :: tail).dropWhile isSectionNamePart := ⟨_,rfl⟩
  dsimp only at h
  rw [← hrest] at h
  split at h
  · cases h
  next hblank =>
  split at h
  · exact (skipTo_ne_rejected h).elim
  next hs =>
  split at h
  · exact (skipTo_ne_rejected h).elim
  next hk =>
  have hname : (c :: tail).takeWhile isSectionNamePart = c :: tail.takeWhile isSectionNamePart :=
    List.takeWhile_cons_of_pos (isSectionNamePart_of_letter hc)
  have hsplit := (c :: tail).takeWhile_append_dropWhile (p := isSectionNamePart)
  have hhead : ∀ d ∈ rest.head?, isSectionNamePart d = false := by
    intro d hd
    have := List.head?_dropWhile_not isSectionNamePart (c :: tail)
    rwa [← hrest,Option.mem_def.mp hd] at this
  have hrestsplit := rest.takeWhile_append_dropWhile (p := CodePoint.isBlank)
  cases hnext : rest.dropWhile CodePoint.isBlank with
  | nil =>
    rw [hnext,List.append_nil] at hrestsplit
    exact (hblank (congrArg List.length hrestsplit)).elim
  | cons next after =>
    have hnotblank : next.isBlank = false := by
      have := List.head?_dropWhile_not CodePoint.isBlank rest
      rwa [hnext] at this
    rw [hname,← hrest,← hrestsplit,hnext] at hsplit
    rw [hname] at hs hk
    rw [← hsplit]
    refine .unknown hc (fun d hd => List.mem_takeWhile_imp hd)
      (fun d hd => List.mem_takeWhile_imp hd) hnotblank ?_ (by simpa using hs) (by simpa using hk)
    rw [← hrestsplit,hnext] at hhead
    cases hb : rest.takeWhile CodePoint.isBlank with
    | nil => rwa [hb] at hhead
    | cons b bs => rwa [hb] at hhead

theorem UnknownSection.rejected {s : Text} (h : UnknownSection s) :
    ∃ r, markedSection s = .rejected r := by
  cases h with
  | nameless hc => exact ⟨_,by rw [markedSection]; simp [hc]; rfl⟩
  | @unknown first next name blanks rest hf hn hb hnext hstop hs hk =>
    have hrest : ∀ c ∈ (blanks ++ next :: rest).head?, isSectionNamePart c = false := by
      cases blanks with
      | nil => exact hstop
      | cons b bs => exact hstop
    obtain ⟨htake,hdrop⟩ := Text.span_of_run
      (List.forall_mem_cons.mpr ⟨isSectionNamePart_of_letter hf,hn⟩) hrest
    obtain ⟨hblanks,-⟩ := Text.span_of_run (s := next :: rest) hb (by simpa using hnext)
    have hlength : ¬ blanks.length = (blanks ++ next :: rest).length := by simp
    rw [List.cons_append] at htake hdrop ⊢
    refine ⟨.unknownSectionName (first :: name ++ blanks),?_⟩
    rw [markedSection]
    simp only [hf,htake,hdrop,hblanks]
    rw [if_neg (by simp),if_neg hlength,if_neg (by simpa using hs),if_neg (by simpa using hk)]

theorem markedSection_rejected {s : Text} :
    (∃ r, markedSection s = .rejected r) ↔ UnknownSection s :=
  ⟨fun ⟨_,h⟩ => unknownSection_of_rejected h,UnknownSection.rejected⟩

theorem construct_rejected {s : Text} : (∃ r, construct s = .rejected r) ↔
    ∃ content, s = Text.ofString "![" ++ content ∧ UnknownSection content := by
  simp only [← markedSection_rejected]
  constructor
  · rintro ⟨r,h⟩
    unfold construct at h
    split at h
    · cases h
    next c rest =>
    split at h
    · split at h <;> cases h
    split at h
    · exact (endTag_ne_rejected h).elim
    split at h
    · exact (skipTo_ne_rejected h).elim
    split at h
    · next hbang =>
      split at h
      · exact (skipTo_ne_rejected h).elim
      · next content hcontent _ =>
        rw [Text.dropPrefix?_eq_some_iff] at hcontent
        exact ⟨content,by rw [hbang,hcontent]; rfl,r,h⟩
      · exact (skipTo_ne_rejected h).elim
    · cases h
  · rintro ⟨content,rfl,r,h⟩
    exact ⟨r,h⟩

/-! ## Places -/

/-- Where a pass goes on from a place, unless it ends or fails there. -/
def onward (final : Bool) : Text → Option Text
  | [] => none
  | c :: rest =>
    if c = .char '<' then
      match construct rest with
      | .skipped after => some after
      | .tag t after => some (t.skipContent after)
      | .brokenTag _ after => some after
      | .endTag _ after => some after
      | .incomplete => if final then some (recover rest) else none
      | .rejected _ => none
    else
      match c, rest with
      | .char '&', .char '#' :: after => (numericReference? after).map Prod.snd
      | _, rest => some rest

/-- What is left where a pass ends. -/
def leftover : Text → Text
  | .char '&' :: .char '#' :: after =>
    if after.contains (.char ';') then after else .char '&' :: .char '#' :: after
  | s => s

/-- A tag with a value that cannot be decoded. -/
def StartTag.Undecodable (t : StartTag) : Prop := ∃ a ∈ t.attributes, OverlongReference a.2

/-- A place that a pass fails at. -/
inductive Faulty : Text → Prop
  | markedSection {content : Text} : UnknownSection content → Faulty ("<![" ++ content)
  | tag {t : StartTag} {s after : Text} : construct s = .tag t after → t.Undecodable →
    Faulty (.char '<' :: s)
  | brokenTag {t : StartTag} {s after : Text} : construct s = .brokenTag t after →
    t.Undecodable → Faulty (.char '<' :: s)
  | reference {s after : Text} {digits : Nat} : numericReference? s = some (digits,after) →
    Numeral.digitLimit < digits → Faulty (.char '&' :: .char '#' :: s)

def Reaches (final : Bool) : Text → Text → Prop :=
  Relation.ReflTransGen fun s t => onward final s = some t

theorem onward_length {final : Bool} {s t : Text} (h : onward final s = some t) :
    t.length < s.length := by
  unfold onward at h
  split at h
  · cases h
  next c rest =>
  split at h
  · have hrest := construct_length rest
    split at h
    · next heq => cases h; rw [heq] at hrest; exact Nat.lt_succ_of_le hrest
    · next heq =>
      cases h
      rw [heq] at hrest
      exact Nat.lt_succ_of_le (Nat.le_trans (skipContent_length _ _) hrest)
    · next heq => cases h; rw [heq] at hrest; exact Nat.lt_succ_of_le hrest
    · next heq => cases h; rw [heq] at hrest; exact Nat.lt_succ_of_le hrest
    · split at h
      · cases h; exact Nat.lt_succ_of_le (recover_length rest)
      · cases h
    · cases h
  split at h
  · next after =>
    obtain ⟨⟨digits,rest⟩,hr,rfl⟩ := Option.map_eq_some_iff.mp h
    have := numericReference?_length hr
    simp only [List.length_cons]
    omega
  · cases h
    exact Nat.lt_succ_self _

/-! ## Passes -/

theorem decodeAttributes_returns {attributes : List (Text × Text)} :
    (∃ found, decodeAttributes attributes = .ok found) ↔
      ∀ a ∈ attributes, ¬ OverlongReference a.2 := by
  induction attributes with
  | nil => simp [decodeAttributes]
  | cons a rest ih =>
    obtain ⟨name,value⟩ := a
    rw [List.forall_mem_cons,← ih,← decodeReferences_returns,decodeAttributes,bind_returns]
    constructor
    · rintro ⟨t,ht,found,hf⟩
      obtain ⟨others,ho,-⟩ := bind_eq_ok.mp hf
      exact ⟨⟨t,ht⟩,others,ho⟩
    · rintro ⟨⟨t,ht⟩,others,ho⟩
      exact ⟨t,ht,_,bind_eq_ok.mpr ⟨others,ho,rfl⟩⟩

theorem decodeAttributes_eq_error {attributes : List (Text × Text)} {e : NumeralError}
    (h : decodeAttributes attributes = .error e) : e.OverLimit := by
  induction attributes with
  | nil => cases h
  | cons a rest ih =>
    rcases bind_eq_error.mp h with h | ⟨_,-,h⟩
    · exact decodeFrom_eq_error h
    · rcases bind_eq_error.mp h with h | ⟨_,-,h⟩
      · exact ih h
      · cases h

theorem decoded_returns {t : StartTag} : (∃ u, t.decoded = .ok u) ↔ ¬ t.Undecodable := by
  have hnone : ¬ t.Undecodable ↔ ∀ a ∈ t.attributes, ¬ OverlongReference a.2 := by
    simp [StartTag.Undecodable]
  rw [hnone,← decodeAttributes_returns,StartTag.decoded]
  cases decodeAttributes t.attributes <;> simp

theorem checkReference_returns {digits : Nat} :
    (∃ u, checkReference digits = .ok u) ↔ ¬ Numeral.digitLimit < digits := by
  rw [← checkDigits_returns,checkReference]
  cases Numeral.checkDigits digits <;> simp

theorem faulty_bracket {s : Text} : Faulty (.char '<' :: s) ↔ match construct s with
    | .rejected _ => True
    | .tag t _ | .brokenTag t _ => t.Undecodable
    | .skipped _ | .endTag _ _ | .incomplete => False := by
  constructor
  · intro h
    generalize hs : CodePoint.char '<' :: s = place at h
    cases h with
    | @markedSection content hcontent =>
      obtain ⟨r,hr⟩ := construct_rejected.mpr ⟨content,(List.cons.inj hs).2,hcontent⟩
      rw [hr]
      trivial
    | tag h ht =>
      rw [(List.cons.inj hs).2,h]
      exact ht
    | brokenTag h ht =>
      rw [(List.cons.inj hs).2,h]
      exact ht
    | reference => cases hs
  · intro h
    cases hc : construct s with
    | rejected r =>
      obtain ⟨content,rfl,hcontent⟩ := construct_rejected.mp ⟨r,hc⟩
      exact .markedSection hcontent
    | tag t after => rw [hc] at h; exact .tag hc h
    | brokenTag t after => rw [hc] at h; exact .brokenTag hc h
    | skipped after => rw [hc] at h; exact h.elim
    | endTag name after => rw [hc] at h; exact h.elim
    | incomplete => rw [hc] at h; exact h.elim

theorem faulty_reference {s : Text} : Faulty (.char '&' :: .char '#' :: s) ↔
    ∃ digits after, numericReference? s = some (digits,after) ∧ Numeral.digitLimit < digits := by
  constructor
  · intro h
    generalize hs : CodePoint.char '&' :: CodePoint.char '#' :: s = place at h
    cases h with
    | reference h hlong =>
      cases hs
      exact ⟨_,_,h,hlong⟩
    | markedSection => cases hs
    | tag => cases hs
    | brokenTag => cases hs
  · rintro ⟨digits,after,h,hlong⟩
    exact .reference h hlong

theorem not_faulty_plain {c : CodePoint} {s : Text} (hc : c ≠ .char '<')
    (hr : ∀ after, c = .char '&' → s = .char '#' :: after → False) : ¬ Faulty (c :: s) := by
  intro h
  generalize hs : c :: s = place at h
  cases h with
  | reference => exact hr _ (List.cons.inj hs).1 (List.cons.inj hs).2
  | markedSection => exact hc (List.cons.inj hs).1
  | tag => exact hc (List.cons.inj hs).1
  | brokenTag => exact hc (List.cons.inj hs).1

theorem onward_plain {final : Bool} {c : CodePoint} {s : Text} (hc : c ≠ .char '<')
    (hr : ∀ after, c = .char '&' → s = .char '#' :: after → False) :
    onward final (c :: s) = some s := by
  rw [onward,if_neg hc]
  exact hr

/-- A pass returns from a place just if it does not fail there and returns from the next place. -/
theorem pass_returns_iff {final : Bool} {s : Text} : (∃ found, pass final s = .ok found) ↔
    ¬ Faulty s ∧ ∀ t, onward final s = some t → ∃ found, pass final t = .ok found := by
  fun_cases pass final s with
  | case1 => simp [onward,show ¬ Faulty [] by rintro ⟨⟩]
  | case2 rest after h => simp [onward,faulty_bracket,h]
  | case3 rest t after h =>
    have honward : onward final (.char '<' :: rest) = some (t.skipContent after) := by
      simp [onward,h]
    rw [faulty_bracket,h,honward]
    simp only [← decoded_returns,bind_returns,Option.some.injEq,forall_eq']
    constructor
    · rintro ⟨u,hu,found,hf,-⟩
      exact ⟨⟨u,hu⟩,found,hf⟩
    · rintro ⟨⟨u,hu⟩,found,hf⟩
      exact ⟨u,hu,found,hf,_,rfl⟩
  | case4 rest t after h => simp [onward,faulty_bracket,h,bind_returns,decoded_returns]
  | case5 rest name after h =>
    have honward : onward final (.char '<' :: rest) = some after := by simp [onward,h]
    rw [faulty_bracket,h,honward]
    simp only [bind_returns,Option.some.injEq,forall_eq',not_false_eq_true,true_and]
    constructor
    · rintro ⟨found,hf,-⟩
      exact ⟨found,hf⟩
    · rintro ⟨found,hf⟩
      exact ⟨found,hf,_,rfl⟩
  | case6 rest h hfinal => simp [onward,faulty_bracket,h,hfinal]
  | case7 rest h hfinal => simp [onward,faulty_bracket,h,hfinal]
  | case8 rest r h => simp [onward,faulty_bracket,h]
  | case9 after digits rest h =>
    simp [onward,faulty_reference,h,bind_returns,checkReference_returns]
  | case10 after h => simp [onward,faulty_reference,h]
  | case11 c hc rest hr => simp [onward_plain hc hr,not_faulty_plain hc hr]

/-- A pass that returns ends where the place it ends at leaves it. -/
theorem pass_left {final : Bool} {s left : Text} {tags : List Tag}
    (h : pass final s = .ok (tags,left)) : match onward final s with
      | none => left = leftover s
      | some t => ∃ others, pass final t = .ok (others,left) := by
  revert h
  fun_cases pass final s with
  | case1 => rintro ⟨⟩; rfl
  | case2 rest after hc => intro h; simpa [onward,hc] using ⟨_,h⟩
  | case3 rest t after hc =>
    intro h
    obtain ⟨u,-,h⟩ := bind_eq_ok.mp h
    obtain ⟨⟨others,left⟩,h,heq⟩ := bind_eq_ok.mp h
    cases heq
    simpa [onward,hc] using ⟨_,h⟩
  | case4 rest t after hc =>
    intro h
    obtain ⟨u,-,h⟩ := bind_eq_ok.mp h
    simpa [onward,hc] using ⟨_,h⟩
  | case5 rest name after hc =>
    intro h
    obtain ⟨⟨others,left⟩,h,heq⟩ := bind_eq_ok.mp h
    cases heq
    simpa [onward,hc] using ⟨_,h⟩
  | case6 rest hc hfinal => subst hfinal; intro h; simpa [onward,hc] using ⟨_,h⟩
  | case7 rest hc hfinal => rintro ⟨⟩; simp [onward,hc,hfinal,leftover]
  | case8 rest r hc => rintro ⟨⟩
  | case9 after digits rest hn =>
    intro h
    obtain ⟨u,-,h⟩ := bind_eq_ok.mp h
    simpa [onward,hn] using ⟨_,h⟩
  | case10 after hn => rintro ⟨⟩; simp [onward,hn,leftover]
  | case11 c hc rest hr => intro h; rw [onward_plain hc hr]; exact ⟨_,h⟩

/-! ## Both passes -/

/-- A pass returns just if it comes to no place that it fails at. -/
theorem pass_returns {final : Bool} {s : Text} : (∃ found, pass final s = .ok found) ↔
    ∀ t, Reaches final s t → ¬ Faulty t := by
  induction hn : s.length using Nat.strong_induction_on generalizing s with
  | _ n ih =>
    subst hn
    have hnext : ∀ t, onward final s = some t → ((∃ found, pass final t = .ok found) ↔
        ∀ u, Reaches final t u → ¬ Faulty u) :=
      fun t ht => ih t.length (onward_length ht) rfl
    rw [pass_returns_iff]
    constructor
    · rintro ⟨hs,hpass⟩ u hu
      rcases hu.cases_head with rfl | ⟨t,ht,hu⟩
      · exact hs
      · exact (hnext t ht).mp (hpass t ht) u hu
    · intro h
      refine ⟨h s .refl,fun t ht => (hnext t ht).mpr fun u hu => h u ?_⟩
      exact .head ht hu

/-- A pass that returns comes to a place where it ends. -/
theorem pass_end {final : Bool} {s left : Text} {tags : List Tag}
    (h : pass final s = .ok (tags,left)) :
    ∃ t, Reaches final s t ∧ onward final t = none ∧ left = leftover t := by
  induction hn : s.length using Nat.strong_induction_on generalizing s tags with
  | _ n ih =>
    subst hn
    have hleft := pass_left h
    cases hs : onward final s with
    | none =>
      rw [hs] at hleft
      exact ⟨s,.refl,hs,hleft⟩
    | some t =>
      rw [hs] at hleft
      obtain ⟨others,ho⟩ := hleft
      obtain ⟨u,hu,hend⟩ := ih t.length (onward_length hs) ho rfl
      exact ⟨u,.head hs hu,hend⟩

/-- The places of a document: those of the first pass, and those of the second, which starts where
the first one ends. -/
def Visits (html t : Text) : Prop :=
  Reaches false html t ∨ ∃ u, Reaches false html u ∧ onward false u = none ∧
    Reaches true (leftover u) t

/-- A pass comes to one end. -/
theorem Reaches.end_unique {final : Bool} {s t u : Text} (ht : Reaches final s t)
    (hu : Reaches final s u) (htend : onward final t = none) (huend : onward final u = none) :
    t = u := by
  induction ht using Relation.ReflTransGen.head_induction_on with
  | refl =>
    rcases hu.cases_head with rfl | ⟨v,hv,-⟩
    · rfl
    · cases htend.symm.trans hv
  | head hstep _ ih =>
    rcases hu.cases_head with rfl | ⟨v,hv,hu⟩
    · cases huend.symm.trans hstep
    · cases hstep.symm.trans hv
      exact ih hu

theorem tags_returns {html : Text} : (∃ found, tags html = .ok found) ↔
    ∀ t, Visits html t → ¬ Faulty t := by
  constructor
  · rintro ⟨found,h⟩ t ht
    obtain ⟨⟨first,left⟩,hfirst,h⟩ := bind_eq_ok.mp h
    obtain ⟨second,hsecond,-⟩ := bind_eq_ok.mp h
    rcases ht with ht | ⟨u,hu,huend,ht⟩
    · exact pass_returns.mp ⟨_,hfirst⟩ t ht
    · obtain ⟨v,hv,hvend,rfl⟩ := pass_end hfirst
      cases hv.end_unique hu hvend huend
      exact pass_returns.mp ⟨_,hsecond⟩ t ht
  · intro h
    obtain ⟨⟨first,left⟩,hfirst⟩ := pass_returns.mpr fun t ht => h t (.inl ht)
    obtain ⟨v,hv,hvend,rfl⟩ := pass_end hfirst
    obtain ⟨second,hsecond⟩ := pass_returns.mpr fun t ht => h t (.inr ⟨v,hv,hvend,ht⟩)
    exact bind_returns.mpr ⟨_,hfirst,bind_returns.mpr ⟨second,hsecond,_,rfl⟩⟩

theorem classNames_returns {html : Text} : (∃ names, classNames html = .ok names) ↔
    ∀ t, Visits html t → ¬ Faulty t := by
  rw [← tags_returns,classNames,document,map_returns,map_returns]

/-- A document fails for a rejected construct or for a numeral with too many digits. -/
def DocumentError.Foreseen : DocumentError → Prop
  | .rejected _ => True
  | .numeral e => e.OverLimit

theorem decoded_eq_error {t : StartTag} {e : DocumentError} (h : t.decoded = .error e) :
    e.Foreseen := by
  unfold StartTag.decoded at h
  split at h
  · cases h
  · next hd => cases h; exact decodeAttributes_eq_error hd

theorem checkReference_eq_error {digits : Nat} {e : DocumentError}
    (h : checkReference digits = .error e) : e.Foreseen := by
  unfold checkReference at h
  split at h
  · cases h
  · next hd => cases h; exact ⟨digits,checkDigits_eq_error.mp hd⟩

theorem pass_eq_error {final : Bool} {s : Text} {e : DocumentError}
    (h : pass final s = .error e) : e.Foreseen := by
  fun_induction pass final s with
  | case1 => cases h
  | case2 rest after hc ih => exact ih h
  | case3 rest t after hc ih =>
    rcases bind_eq_error.mp h with h | ⟨_,-,h⟩
    · exact decoded_eq_error h
    rcases bind_eq_error.mp h with h | ⟨_,-,h⟩
    · exact ih h
    · cases h
  | case4 rest t after hc ih =>
    rcases bind_eq_error.mp h with h | ⟨_,-,h⟩
    · exact decoded_eq_error h
    · exact ih h
  | case5 rest name after hc ih =>
    rcases bind_eq_error.mp h with h | ⟨_,-,h⟩
    · exact ih h
    · cases h
  | case6 rest hc hfinal ih => exact ih h
  | case7 rest hc hfinal => cases h
  | case8 rest r hc => cases h; trivial
  | case9 after digits rest hn _ ih =>
    rcases bind_eq_error.mp h with h | ⟨_,-,h⟩
    · exact checkReference_eq_error h
    · exact ih h
  | case10 after hn => cases h
  | case11 c hc rest hr ih => exact ih h

theorem classNames_eq_error {html : Text} {e : DocumentError} (h : classNames html = .error e) :
    e.Foreseen := by
  rcases bind_eq_error.mp (map_eq_error.mp (map_eq_error.mp h)) with h | ⟨_,-,h⟩
  · exact pass_eq_error h
  · rcases bind_eq_error.mp h with h | ⟨_,-,h⟩
    · exact pass_eq_error h
    · cases h

end StyleLift.Markup
