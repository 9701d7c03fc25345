import Mathlib.Data.List.Infix
import StyleLift.Proofs.Text.Blanks
import StyleLift.Proofs.Text.Joining
import StyleLift.Utility.Shorthand

/-! # Splitting a value into parts

A value loses just the blanks outside its parentheses, and all parts but the last close what they
open. Whatever blanks stand between and around such parts, they are split again into the same ones,
so a value has one split only.
-/
namespace StyleLift.Shorthand

/-- How many parentheses are open at the end of a text. One that closes nothing does not count. -/
def depth (s : Text) : Nat := s.foldl depthAfter 0

/-- Blanks stand inside parentheses only. -/
def Enclosed (s : Text) : Prop :=
  ∀ before c after, s = before ++ c :: after → c.isBlank = true → 0 < depth before

structure IsPart (part : Text) : Prop where
  nonempty : part ≠ []
  starts : ∀ c ∈ part.head?, c.isBlank = false
  ends : ∀ c ∈ part.getLast?, c.isBlank = false
  enclosed : Enclosed part

/-- Parts that may stand one after the other: none but the last leaves a parenthesis open. -/
structure AreParts (parts : List Text) : Prop where
  part : ∀ part ∈ parts, IsPart part
  closed : ∀ part ∈ parts.dropLast, depth part = 0

/-- A text is made of parts with blanks between them. -/
inductive Spaced : List Text → Text → Prop
  | nil : Spaced [] []
  | single (part : Text) : Spaced [part] part
  | cons (part : Text) {gap next text : Text} {parts : List Text} (hne : gap ≠ [])
      (hgap : ∀ c ∈ gap, c.isBlank = true) (h : Spaced (next :: parts) text) :
      Spaced (part :: next :: parts) (part ++ (gap ++ text))

/-- A text without its blanks outside parentheses. -/
def unspaced (s : Text) : Text :=
  (s.zipIdx.filter fun (c,i) => !(c.isBlank && depth (s.take i) == 0)).map Prod.fst

variable {s part begun gap text : Text} {parts : List Text} {c : CodePoint}

/-! ## Depth -/

theorem depth_concat (s : Text) (c : CodePoint) : depth (s ++ [c]) = depthAfter (depth s) c := by
  rw [depth,List.foldl_append,List.foldl_cons,List.foldl_nil,depth]

theorem depthAfter_blank (h : c.isBlank = true) (d : Nat) : depthAfter d c = d := by
  have hopen : c ≠ .char '(' := by
    rintro rfl
    exact absurd h (by decide)
  have hclose : c ≠ .char ')' := by
    rintro rfl
    exact absurd h (by decide)
  rw [depthAfter,if_neg hopen,if_neg hclose]

/-- What stands before a closed text does not count. -/
theorem depth_append (h : depth s = 0) (t : Text) : depth (s ++ t) = depth t := by
  rw [depth] at h
  rw [depth,List.foldl_append,h,depth]

theorem depth_blanks (h : ∀ c ∈ gap, c.isBlank = true) : depth gap = 0 := by
  induction gap using List.reverseRecOn with
  | nil => rfl
  | append_singleton gap c ih =>
    obtain ⟨hgap,hc⟩ := List.forall_mem_append.mp h
    rw [depth_concat,depthAfter_blank (hc c (List.mem_singleton_self c)),ih hgap]

theorem enclosed_nil : Enclosed [] := fun before c after h => by simp at h

theorem Enclosed.concat (h : Enclosed s) (hc : c.isBlank = true → 0 < depth s) :
    Enclosed (s ++ [c]) := by
  intro before d after heq hd
  rcases List.eq_nil_or_concat after with rfl | ⟨after,e,rfl⟩
  · obtain ⟨rfl,hcd⟩ := List.append_inj' heq rfl
    exact hc ((List.singleton_inj.mp hcd).symm ▸ hd)
  · have heq : s ++ [c] = (before ++ d :: after) ++ [e] := by simpa using heq
    exact h before d after (List.append_inj' heq rfl).1 hd

theorem Enclosed.of_append {t : Text} (h : Enclosed (s ++ t)) : Enclosed s :=
  fun before c after heq hc => h before c (after ++ t) (by simp [heq]) hc

/-- No blank ends an enclosed text that is closed: parentheses would be open at its end. -/
theorem Enclosed.ends (h : Enclosed s) (hd : depth s = 0) :
    ∀ c ∈ s.getLast?, c.isBlank = false := by
  intro c hc
  obtain ⟨before,rfl⟩ := List.getLast?_eq_some_iff.mp hc
  refine Bool.eq_false_iff.mpr fun hblank => ?_
  have hopen := h before c [] rfl hblank
  rw [depth_concat,depthAfter_blank hblank] at hd
  exact absurd hd (Nat.ne_of_gt hopen)

theorem Enclosed.isPart (h : Enclosed s) (hne : s ≠ [])
    (hends : ∀ c ∈ s.getLast?, c.isBlank = false) : IsPart s := by
  refine ⟨hne,fun c hc => ?_,hends,h⟩
  obtain ⟨tail,rfl⟩ := List.head?_eq_some_iff.mp hc
  exact Bool.eq_false_iff.mpr fun hblank => absurd (h [] c tail rfl hblank) (Nat.lt_irrefl 0)

theorem not_all_blank (hne : s ≠ []) (hends : ∀ c ∈ s.getLast?, c.isBlank = false) :
    ¬ ∀ c ∈ s, c.isBlank = true := by
  intro h
  have hlast := hends _ (List.getLast?_eq_getLast_of_ne_nil hne)
  exact absurd (hlast.symm.trans (h _ (List.getLast_mem hne))) (by decide)

theorem isPart_of_not_blank (hne : s ≠ []) (h : ∀ c ∈ s, c.isBlank = false) : IsPart s := by
  have henclosed : Enclosed s := by
    rintro before c after rfl hc
    have hnone := h c (List.mem_append_right before List.mem_cons_self)
    exact absurd (hnone.symm.trans hc) (by decide)
  exact henclosed.isPart hne fun c hc => h c (List.mem_of_getLast? hc)

/-! ## Parts in a row -/

theorem IsPart.alone (h : IsPart part) : AreParts [part] := by
  refine ⟨List.forall_mem_singleton.mpr h,?_⟩
  rw [List.dropLast_singleton]
  exact List.forall_mem_nil _

theorem AreParts.of_cons {next : Text} (h : AreParts (part :: next :: parts)) :
    IsPart part ∧ depth part = 0 ∧ AreParts (next :: parts) := by
  obtain ⟨hparts,hclosed⟩ := h
  obtain ⟨hpart,hrest⟩ := List.forall_mem_cons.mp hparts
  rw [List.dropLast_cons_cons] at hclosed
  obtain ⟨hdepth,hothers⟩ := List.forall_mem_cons.mp hclosed
  exact ⟨hpart,hdepth,hrest,hothers⟩

theorem AreParts.cons (hpart : IsPart part) (hdepth : depth part = 0) (h : AreParts parts) :
    AreParts (part :: parts) := by
  refine ⟨List.forall_mem_cons.mpr ⟨hpart,h.part⟩,?_⟩
  cases parts with
  | nil => simp
  | cons next parts =>
    rw [List.dropLast_cons_cons]
    exact List.forall_mem_cons.mpr ⟨hdepth,h.closed⟩

theorem Spaced.ends (h : Spaced parts text) (hparts : AreParts parts) (hne : parts ≠ []) :
    text ≠ [] ∧ (∀ c ∈ text.head?, c.isBlank = false) ∧
      ∀ c ∈ text.getLast?, c.isBlank = false := by
  induction h with
  | nil => exact (hne rfl).elim
  | single part =>
    have hpart := hparts.part part List.mem_cons_self
    exact ⟨hpart.nonempty,hpart.starts,hpart.ends⟩
  | @cons part gap next text parts hgapne hgap h ih =>
    obtain ⟨hpart,-,hrest⟩ := hparts.of_cons
    obtain ⟨htext,-,hends⟩ := ih hrest (List.cons_ne_nil _ _)
    obtain ⟨c,tail,rfl⟩ := List.exists_cons_of_ne_nil hpart.nonempty
    refine ⟨List.cons_ne_nil _ _,hpart.starts,?_⟩
    rw [List.getLast?_append_of_ne_nil _ (List.append_ne_nil_of_right_ne_nil gap htext),
      List.getLast?_append_of_ne_nil _ htext]
    exact hends

/-- Trimming takes away what stands around parts, and no more. -/
theorem Spaced.trim_padded (h : Spaced parts text) (hparts : AreParts parts) {before after : Text}
    (hbefore : ∀ c ∈ before, c.isBlank = true) (hafter : ∀ c ∈ after, c.isBlank = true) :
    Text.trim (before ++ (text ++ after)) = text := by
  by_cases hne : parts = []
  · subst hne
    cases h
    have hblank := Text.trim_append (List.forall_mem_append.mpr ⟨hbefore,hafter⟩) []
    exact hblank
  · obtain ⟨htext,hstarts,hends⟩ := h.ends hparts hne
    exact Text.trim_padded hbefore hafter htext hstarts hends

theorem spaced_joinWith (hne : gap ≠ []) (hgap : ∀ c ∈ gap, c.isBlank = true)
    (parts : List Text) : Spaced parts (Text.joinWith gap parts) := by
  induction parts with
  | nil => exact .nil
  | cons part parts ih =>
    cases parts with
    | nil =>
      rw [Text.joinWith_singleton]
      exact .single part
    | cons next parts =>
      rw [Text.joinWith_cons_cons]
      exact .cons part hne hgap ih

/-! ## Blanks outside parentheses -/

theorem unspaced_concat (s : Text) (c : CodePoint) :
    unspaced (s ++ [c]) = unspaced s ++ if c.isBlank && depth s == 0 then [] else [c] := by
  have hearlier : (s.zipIdx.filter fun p => !(p.1.isBlank && depth ((s ++ [c]).take p.2) == 0)) =
      s.zipIdx.filter fun p => !(p.1.isBlank && depth (s.take p.2) == 0) :=
    List.filter_congr fun p hp => by
      rw [List.take_append_of_le_length (Nat.le_of_lt (List.snd_lt_of_mem_zipIdx hp))]
  rw [unspaced,List.zipIdx_append,List.filter_append,List.map_append,hearlier,unspaced]
  simp only [List.zipIdx_cons,List.zipIdx_nil,Nat.zero_add,List.filter_cons,List.filter_nil,
    List.take_left]
  cases c.isBlank && depth s == 0 <;> rfl

theorem unspaced_append (h : depth s = 0) (t : Text) :
    unspaced (s ++ t) = unspaced s ++ unspaced t := by
  induction t using List.reverseRecOn with
  | nil => simp [unspaced]
  | append_singleton t c ih =>
    rw [← List.append_assoc,unspaced_concat,unspaced_concat,depth_append h,ih,List.append_assoc]

theorem Enclosed.unspaced (h : Enclosed s) : unspaced s = s := by
  induction s using List.reverseRecOn with
  | nil => rfl
  | append_singleton s c ih =>
    have hkept : (c.isBlank && depth s == 0) = false := by
      refine Bool.eq_false_iff.mpr fun hlost => ?_
      obtain ⟨hblank,hd⟩ := Bool.and_eq_true_iff.mp hlost
      exact absurd (eq_of_beq hd) (Nat.ne_of_gt (h s c [] rfl hblank))
    rw [unspaced_concat,ih h.of_append,hkept,if_neg Bool.false_ne_true]

theorem unspaced_blanks (h : ∀ c ∈ gap, c.isBlank = true) : unspaced gap = [] := by
  induction gap using List.reverseRecOn with
  | nil => rfl
  | append_singleton gap c ih =>
    obtain ⟨hgap,hc⟩ := List.forall_mem_append.mp h
    rw [unspaced_concat,ih hgap,depth_blanks hgap,hc c (List.mem_singleton_self c)]
    rfl

theorem Spaced.unspaced (h : Spaced parts text) (hparts : AreParts parts) :
    unspaced text = parts.flatten := by
  induction h with
  | nil => rfl
  | single part =>
    rw [(hparts.part part List.mem_cons_self).enclosed.unspaced,List.flatten_singleton]
  | cons part hne hgap h ih =>
    obtain ⟨hpart,hdepth,hrest⟩ := hparts.of_cons
    rw [unspaced_append hdepth,unspaced_append (depth_blanks hgap),hpart.enclosed.unspaced,
      unspaced_blanks hgap,ih hrest,List.nil_append]
    rfl

/-! ## The parts that a value is split into -/

/-- The parts of the rest of a value, when the first of them has begun already. -/
def splitOnward (begun rest : Text) : List Text := splitFrom (depth begun) begun.reverse rest

theorem splitOnward_end (hne : begun ≠ []) : splitOnward begun [] = [begun] := by
  rw [splitOnward,splitFrom,flush,if_neg (by simpa using hne),List.reverse_reverse]

theorem splitOnward_blank (h : c.isBlank = true) (rest : Text) :
    splitOnward [] (c :: rest) = splitOnward [] rest := by
  have hd : depthAfter (depth []) c = 0 := depthAfter_blank h 0
  rw [splitOnward,splitFrom,h,hd]
  rfl

theorem splitOnward_part (hne : begun ≠ []) (hd : depth begun = 0) (h : c.isBlank = true)
    (rest : Text) : splitOnward begun (c :: rest) = begun :: splitOnward [] rest := by
  have hflush : flush begun.reverse (splitFrom 0 [] rest) = begun :: splitFrom 0 [] rest := by
    rw [flush,if_neg (by simpa using hne),List.reverse_reverse]
  rw [splitOnward,splitFrom,depthAfter_blank h,h,hd]
  exact hflush

theorem splitOnward_step (h : c.isBlank = true → 0 < depth begun) (rest : Text) :
    splitOnward begun (c :: rest) = splitOnward (begun ++ [c]) rest := by
  have hgoes : (c.isBlank && depthAfter (depth begun) c == 0) = false := by
    refine Bool.eq_false_iff.mpr fun hends => ?_
    obtain ⟨hblank,hd⟩ := Bool.and_eq_true_iff.mp hends
    rw [depthAfter_blank hblank] at hd
    exact absurd (eq_of_beq hd) (Nat.ne_of_gt (h hblank))
  rw [splitOnward,splitFrom,hgoes,if_neg Bool.false_ne_true,splitOnward,depth_concat,
    List.reverse_append]
  rfl

theorem splitOnward_blanks (h : ∀ c ∈ gap, c.isBlank = true) (rest : Text) :
    splitOnward [] (gap ++ rest) = splitOnward [] rest := by
  induction gap with
  | nil => rfl
  | cons c gap ih =>
    obtain ⟨hc,hgap⟩ := List.forall_mem_cons.mp h
    rw [List.cons_append,splitOnward_blank hc,ih hgap]

theorem splitOnward_enclosed (h : Enclosed (begun ++ s)) (rest : Text) :
    splitOnward begun (s ++ rest) = splitOnward (begun ++ s) rest := by
  induction s generalizing begun with
  | nil => rw [List.nil_append,List.append_nil]
  | cons c s ih =>
    have hnext : Enclosed (begun ++ [c] ++ s) := by rwa [List.append_assoc]
    rw [List.cons_append,splitOnward_step (h begun c s rfl),ih hnext,List.append_assoc]
    rfl

theorem splitOnward_whole (h : Enclosed part) (rest : Text) :
    splitOnward [] (part ++ rest) = splitOnward part rest :=
  splitOnward_enclosed (show Enclosed ([] ++ part) from h) rest

/-- Parts with blanks between them are split again. -/
theorem Spaced.splitOnward (h : Spaced parts text) (hparts : AreParts parts) :
    splitOnward [] text = parts := by
  induction h with
  | nil => rfl
  | single part =>
    have hpart := hparts.part part List.mem_cons_self
    have hwhole := splitOnward_whole hpart.enclosed []
    rw [List.append_nil] at hwhole
    rw [hwhole,splitOnward_end hpart.nonempty]
  | cons part hne hgap h ih =>
    obtain ⟨hpart,hdepth,hrest⟩ := hparts.of_cons
    obtain ⟨c,gap,rfl⟩ := List.exists_cons_of_ne_nil hne
    obtain ⟨hc,hgap⟩ := List.forall_mem_cons.mp hgap
    rw [splitOnward_whole hpart.enclosed,List.cons_append,
      splitOnward_part hpart.nonempty hdepth hc,splitOnward_blanks hgap,ih hrest]

/-- A blank outside parentheses ends what has begun, and other blanks that follow go with it. -/
theorem spaced_after_blank (hbegun : Enclosed begun) (hd : depth begun = 0) (hc : c.isBlank = true)
    {lead : Text} (hparts : AreParts (splitOnward [] (lead ++ text)))
    (hlead : ∀ c ∈ lead, c.isBlank = true) (hspaced : Spaced (splitOnward [] (lead ++ text)) text)
    (hne : text ≠ []) (hbegunne : begun ≠ []) :
    AreParts (splitOnward begun (c :: (lead ++ text))) ∧
      Spaced (splitOnward begun (c :: (lead ++ text))) (begun ++ (c :: lead ++ text)) := by
  rw [splitOnward_part hbegunne hd hc]
  refine ⟨.cons (hbegun.isPart hbegunne (hbegun.ends hd)) hd hparts,?_⟩
  cases hsplit : splitOnward [] (lead ++ text) with
  | nil =>
    rw [hsplit] at hspaced
    cases hspaced
    exact (hne rfl).elim
  | cons next parts =>
    rw [hsplit] at hspaced
    exact .cons begun (List.cons_ne_nil c lead) (List.forall_mem_cons.mpr ⟨hc,hlead⟩) hspaced

/-- Whatever has begun, the rest of a value is split into parts with blanks between them. Blanks
before all parts are left out. -/
theorem splitOnward_spaced (hbegun : Enclosed begun) {rest : Text}
    (hends : ∀ c ∈ (begun ++ rest).getLast?, c.isBlank = false) :
    AreParts (splitOnward begun rest) ∧ ∃ lead text, begun ++ rest = lead ++ text ∧
      (∀ c ∈ lead, c.isBlank = true) ∧ (begun ≠ [] → lead = []) ∧
      Spaced (splitOnward begun rest) text := by
  -- A blank outside parentheses ends what has begun, anything else goes on with it.
  induction rest generalizing begun with
  | nil =>
    rw [List.append_nil] at hends ⊢
    by_cases hne : begun = []
    · subst hne
      exact ⟨⟨fun _ h => absurd h List.not_mem_nil,fun _ h => absurd h List.not_mem_nil⟩,[],[],rfl,
        by simp,by simp,.nil⟩
    · rw [splitOnward_end hne]
      exact ⟨(hbegun.isPart hne hends).alone,[],begun,rfl,by simp,by simp,.single begun⟩
  | cons c rest ih =>
    have hmore : begun ++ c :: rest = begun ++ [c] ++ rest := by simp
    by_cases hgap : c.isBlank = true ∧ depth begun = 0
    · obtain ⟨hc,hd⟩ := hgap
      have hne : rest ≠ [] := by
        rintro rfl
        exact absurd (hc.symm.trans (hends c (by simp))) (by decide)
      rw [hmore,List.getLast?_append_of_ne_nil _ hne] at hends
      obtain ⟨hparts,lead,text,rfl,hlead,-,hspaced⟩ := ih enclosed_nil hends
      have htext : text ≠ [] := by
        rintro rfl
        rw [List.append_nil] at hne hends
        exact not_all_blank hne hends hlead
      by_cases hbegunne : begun = []
      · subst hbegunne
        rw [splitOnward_blank hc]
        exact ⟨hparts,c :: lead,text,rfl,List.forall_mem_cons.mpr ⟨hc,hlead⟩,by simp,hspaced⟩
      · obtain ⟨hall,hwhole⟩ :=
          spaced_after_blank hbegun hd hc hparts hlead hspaced htext hbegunne
        exact ⟨hall,[],_,rfl,by simp,by simp,hwhole⟩
    · have hopen : c.isBlank = true → 0 < depth begun := fun hc =>
        Nat.pos_of_ne_zero fun hd => hgap ⟨hc,hd⟩
      rw [hmore] at hends ⊢
      rw [splitOnward_step hopen]
      obtain ⟨hparts,lead,text,htext,hlead,hnone,hspaced⟩ := ih (hbegun.concat hopen) hends
      exact ⟨hparts,lead,text,htext,hlead,fun _ => hnone (by simp),hspaced⟩

/-- A value is its parts with blanks between them, once it is trimmed. -/
theorem splitValues_parts (value : Text) :
    AreParts (splitValues value) ∧ Spaced (splitValues value) value.trim := by
  obtain ⟨hparts,lead,text,htrim,hlead,-,hspaced⟩ :=
    splitOnward_spaced enclosed_nil (Text.getLast?_trim value)
  have htrim : value.trim = lead ++ text := htrim
  cases lead with
  | nil => exact ⟨hparts,htrim ▸ hspaced⟩
  | cons c lead =>
    have hfirst := Text.head?_trim value c (by rw [htrim]; rfl)
    exact absurd (hfirst.symm.trans (hlead c List.mem_cons_self)) (by decide)

theorem splitValues_congr {v w : Text} (h : v.trim = w.trim) : splitValues v = splitValues w := by
  rw [splitValues,h,splitValues]

theorem splitValues_trim (value : Text) : splitValues value.trim = splitValues value :=
  splitValues_congr (Text.trim_trim value)

theorem trim_of_split {value : Text} (h : splitValues value = [part]) : value.trim = part := by
  have hspaced := (splitValues_parts value).2
  rw [h] at hspaced
  cases hspaced
  rfl

/-- The parts of a value are the only ones that it is made of. -/
theorem splitValues_eq_iff {value : Text} : splitValues value = parts ↔
    AreParts parts ∧ Spaced parts value.trim := by
  constructor
  · rintro rfl
    exact splitValues_parts value
  · rintro ⟨hparts,hspaced⟩
    exact hspaced.splitOnward hparts

theorem splitValues_spaced (hparts : AreParts parts) (h : Spaced parts text)
    {before after : Text} (hbefore : ∀ c ∈ before, c.isBlank = true)
    (hafter : ∀ c ∈ after, c.isBlank = true) : splitValues (before ++ (text ++ after)) = parts :=
  splitValues_eq_iff.mpr ⟨hparts,(h.trim_padded hparts hbefore hafter).symm ▸ h⟩

/-- A value is split into parts without blanks at their ends or outside parentheses. They are all of
it but for those blanks, none but the last leaves a parenthesis open, and with any blanks between
and around them they are split again. -/
theorem splitValues_canonical (value : Text) :
    (∀ part ∈ splitValues value, IsPart part) ∧
    Spaced (splitValues value) value.trim ∧
    (splitValues value).flatten = unspaced value.trim ∧
    (∀ part ∈ (splitValues value).dropLast, depth part = 0) ∧
    ∀ before text after : Text, (∀ c ∈ before, c.isBlank = true) →
      (∀ c ∈ after, c.isBlank = true) → Spaced (splitValues value) text →
        splitValues (before ++ (text ++ after)) = splitValues value := by
  obtain ⟨hparts,hspaced⟩ := splitValues_parts value
  refine ⟨hparts.part,hspaced,(hspaced.unspaced hparts).symm,hparts.closed,?_⟩
  intro before text after hbefore hafter htext
  exact splitValues_spaced hparts htext hbefore hafter

/-- Other blanks between and around the parts change nothing; those in parentheses, closed or not,
are the parts' own. -/
theorem splitValues_canonical_calc :
    splitValues "calc(1px + 2px) 4px (a  b" = ["calc(1px + 2px)","4px","(a  b"] ∧
    splitValues "\n calc(1px + 2px)\t4px\n\n(a  b " =
      splitValues "calc(1px + 2px) 4px (a  b" := by
  have hsplit : splitValues "calc(1px + 2px) 4px (a  b" = ["calc(1px + 2px)","4px","(a  b"] := by
    decide
  have hspaced : Spaced (splitValues "calc(1px + 2px) 4px (a  b")
      (("calc(1px + 2px)" : Text) ++ (("\t" : Text) ++
        (("4px" : Text) ++ (("\n\n" : Text) ++ ("(a  b" : Text))))) := by
    rw [hsplit]
    exact .cons _ (by decide) (by decide) (.cons _ (by decide) (by decide) (.single _))
  obtain ⟨-,-,-,-,hrejoin⟩ := splitValues_canonical "calc(1px + 2px) 4px (a  b"
  exact ⟨hsplit,hrejoin "\n " _ " " (by decide) (by decide) hspaced⟩

/-! ## Components by position -/

/-- One component, two or four: as many as set sides by their position. -/
def Positional (value : Text) : Prop := (splitValues value).length ∈ [1,2,4]

/-- The stems of some number of components. -/
def componentStems (stem : Text) : Nat → List Text
  | 1 => [stem]
  | 2 => [stem ++ [.char 'y'],stem ++ [.char 'x']]
  | 4 => [stem ++ [.char 't'],stem ++ [.char 'r'],stem ++ [.char 'b'],stem ++ [.char 'l']]
  | _ => []

variable {value stem : Text}

theorem Positional.cases (h : Positional value) : (∃ a, splitValues value = [a]) ∨
    (∃ a b, splitValues value = [a,b]) ∨ ∃ a b c d, splitValues value = [a,b,c,d] := by
  rw [Positional] at h
  match splitValues value, h with
  | [a], _ => exact .inl ⟨a,rfl⟩
  | [a,b], _ => exact .inr (.inl ⟨a,b,rfl⟩)
  | [a,b,c,d], _ => exact .inr (.inr ⟨a,b,c,d,rfl⟩)
  | [], h | [_,_,_], h | _ :: _ :: _ :: _ :: _ :: _, h => exact absurd h (by simp)

theorem Positional.length_componentStems (h : Positional value) (stem : Text) :
    (componentStems stem (splitValues value).length).length = (splitValues value).length := by
  rcases h.cases with ⟨a,h⟩ | ⟨a,b,h⟩ | ⟨a,b,c,d,h⟩ <;> rw [h] <;> rfl

theorem Positional.partsOf (h : Positional value) : partsOf stem value =
    List.zipWith Part.mk (componentStems stem (splitValues value).length) (splitValues value) := by
  rw [Shorthand.partsOf]
  rcases h.cases with ⟨a,h⟩ | ⟨a,b,h⟩ | ⟨a,b,c,d,h⟩ <;> rw [h] <;> rfl

theorem Positional.length_partsOf (h : Positional value) (stem : Text) :
    (Shorthand.partsOf stem value).length = (splitValues value).length := by
  rw [h.partsOf,List.length_zipWith,h.length_componentStems,Nat.min_self]

/-- Any other number of components is left as it is. -/
theorem partsOf_other (h : ¬ Positional value) : partsOf stem value = [⟨stem,value.trim⟩] := by
  rw [Positional] at h
  unfold partsOf
  split
  · next hs => exact absurd (by rw [hs]; simp) h
  · next hs => exact absurd (by rw [hs]; simp) h
  · next hs => exact absurd (by rw [hs]; simp) h
  · rfl

/-- The values of the parts, joined by blanks, have the same parts again. -/
theorem partsOf_joinWith (hne : gap ≠ []) (hgap : ∀ c ∈ gap, c.isBlank = true) :
    partsOf stem (Text.joinWith gap ((partsOf stem value).map Part.value)) =
      partsOf stem value := by
  by_cases h : Positional value
  · have hvalues : (partsOf stem value).map Part.value = splitValues value := by
      rw [Shorthand.partsOf]
      rcases h.cases with ⟨a,h⟩ | ⟨a,b,h⟩ | ⟨a,b,c,d,h⟩ <;> rw [h] <;> rfl
    have hsplit := splitValues_spaced (splitValues_parts value).1
      (spaced_joinWith hne hgap (splitValues value)) (List.forall_mem_nil _) (List.forall_mem_nil _)
    rw [List.nil_append,List.append_nil] at hsplit
    have hjoined : Positional (Text.joinWith gap (splitValues value)) := by
      rwa [Positional,hsplit]
    rw [hvalues,hjoined.partsOf,h.partsOf,hsplit]
  · rw [partsOf_other h,List.map_singleton,Text.joinWith_singleton,
      partsOf_other (by rwa [Positional,splitValues_trim]),Text.trim_trim]

end StyleLift.Shorthand
