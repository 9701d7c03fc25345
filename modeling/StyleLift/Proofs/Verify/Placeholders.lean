import StyleLift.Proofs.Css.Legible
import StyleLift.Proofs.Number.Digits
import StyleLift.Verify.Verification

/-! # Placeholder rules

The sheet that is compiled holds one placeholder rule for each rule. Its text is a line that asks
for the utilities and a line for each rule, and legible declarations are read back from these
lines as they were.
-/
namespace StyleLift

open Css Css.Written

/-- What a rule ought to be read back as: the placeholder's selector with the declarations. -/
def Rule.asPlaceholder (i : Nat) (r : Rule) : Rule :=
  ⟨Text.ofString "." ++ ClassSelector.placeholder ++ Text.ofString "-" ++ Text.ofNat i,
    r.declarations⟩

def placeholders (rules : List Rule) : List Rule := rules.mapIdx Rule.asPlaceholder

/-- The sheet that is compiled for the rules carries their declarations. -/
def Carries (rules : List Rule) : Prop :=
  (readRules (syntheticStylesheet rules)).outcome = .ok (placeholders rules)

theorem carries_iff {rules : List Rule} :
    Carries rules ↔ Reads (syntheticStylesheet rules) (placeholders rules) := by
  rw [Carries,readRules_outcome,Reads]
  cases Css.read (syntheticStylesheet rules) with
  | error e => simp [Except.mapError,Except.map]
  | ok sheet => simp [Except.mapError,Except.map]

/-! ## Lines of the sheet -/

/-- The class of a placeholder rule. -/
def placeholderName (i : Nat) : Name where
  text := ClassSelector.placeholder ++ Text.ofString "-" ++ Text.ofNat i
  plain := by
    intro c hc
    rcases List.mem_append.mp hc with hc | hc
    · exact (by decide : ∀ c ∈ ClassSelector.placeholder ++ Text.ofString "-",
        isPlain c = true) c hc
    · simp [isPlain,Text.isDigits_ofNat i c hc]
  starts := rfl

/-- The declarations of a rule as its placeholder rule writes them. -/
def bodyText (ds : List Declaration) : Text :=
  Text.joinWith (Text.ofString "; ") (ds.map Declaration.toCss)

/-- What a placeholder rule is written with behind its opening bracket. -/
def bodyOf (ds : List Declaration) : Text := .char ' ' :: (bodyText ds ++ [.char ' ',.char '\x7d'])

theorem bodyText_singleton (d : Declaration) : bodyText [d] = d.toCss := by
  simp [bodyText,Text.joinWith,List.intercalate_singleton]

theorem bodyText_cons (d e : Declaration) (ds : List Declaration) :
    bodyText (d :: e :: ds) = d.toCss ++ .char ';' :: .char ' ' :: bodyText (e :: ds) := by
  simp only [bodyText,Text.joinWith,List.map_cons,List.intercalate_cons_cons,List.append_assoc]
  rfl

theorem placeholderRule_eq (i : Nat) (r : Rule) : placeholderRule i r =
    .char '.' :: ((placeholderName i).text ++ .char ' ' :: .char '\x7b' :: .char ' ' ::
      (bodyText r.declarations ++ [.char ' ',.char '\x7d'])) := by
  simp [placeholderRule,placeholderName,bodyText,Text.ofString]

/-- The first line of the sheet. -/
def utilitiesLine : Item :=
  .statement ⟨[],by simp⟩ ⟨⟨"tailwind",by decide,rfl⟩,none,
    [(⟨⟨" ",by decide⟩,by decide⟩,.name ⟨"utilities",by decide,rfl⟩)],⟨[],by simp⟩⟩

/-- The lines of some rules, counted from a number on. -/
def linesText (k : Nat) (rules : List Rule) : Text :=
  (rules.mapIdx fun i r => .char '\n' :: placeholderRule (k + i) r).flatten

theorem linesText_cons (k : Nat) (r : Rule) (rules : List Rule) :
    linesText k (r :: rules) = .char '\n' :: (placeholderRule k r ++ linesText (k + 1) rules) := by
  simp [linesText,List.mapIdx_cons,Nat.add_assoc,Nat.add_comm 1]

theorem syntheticStylesheet_eq (rules : List Rule) :
    syntheticStylesheet rules = utilitiesLine.text ++ linesText 0 rules := by
  have hlines : (rules.mapIdx placeholderRule).map (fun line => .char '\n' :: line) =
      rules.mapIdx fun i r => .char '\n' :: placeholderRule (0 + i) r := by
    refine List.ext_getElem? fun i => ?_
    simp [Function.comp_def]
  rw [syntheticStylesheet,Text.joinWith_cons,List.flatMap_def,hlines,linesText]
  rfl

/-! ## Reading the lines -/

theorem lexed_line (k : Nat) (r : Rule) (rest : Text) :
    lexed (.char '\n' :: (placeholderRule k r ++ rest)) =
      flatAll (.leaf [] (.whitespace "\n") :: (classTokens (placeholderName k) ++ [space])) ++
        .opening (.bracket .curly) ::
          lexed (.char ' ' :: (bodyText r.declarations ++ .char ' ' :: .char '\x7d' :: rest)) := by
  have htext : placeholderRule k r ++ rest = .char '.' :: ((placeholderName k).text ++ .char ' ' ::
      .char '\x7b' :: .char ' ' :: (bodyText r.declarations ++
        .char ' ' :: .char '\x7d' :: rest)) := by
    rw [placeholderRule_eq]
    simp
  have hline : ∀ s, solid s = true →
      lexed (.char '\n' :: s) = .leaf (.whitespace "\n") :: lexed s :=
    fun s hs => Gap.lexed_append ⟨[.char '\n'],by decide⟩ hs
  rw [htext,hline _ rfl,Name.lexed_point _ rfl,lexed_space rfl,lexed_mark rfl]
  rfl

variable {rules : List Rule} {ds : List Declaration}

/-- Legible declarations are read back from the body of a rule. -/
theorem lexed_body (h : ∀ d ∈ ds, d.Legible) (rest : Text) :
    ∃ content, lexed (.char ' ' :: (bodyText ds ++ .char ' ' :: .char '\x7d' :: rest)) =
        flatAll content ++ .closing .curly :: lexed rest ∧
      fitsAll (some .curly) content = true ∧
      (∀ l ∈ flatAll content, l.digitCount ≤ Numeral.digitLimit) ∧
      Css.declarations content = ds := by
  induction ds with
  | nil =>
    refine ⟨[.leaf [] (.whitespace "  ")],?_,rfl,by decide,?_⟩
    · have hgap : lexed ([.char ' ',.char ' '] ++ .char '\x7d' :: rest) = _ :=
        Gap.lexed_append ⟨[.char ' ',.char ' '],by decide⟩ rfl
      rw [lexed_mark rfl] at hgap
      exact hgap
    · rw [declarations_parts rfl]
      simp [Css.declarations]
  | cons d ds ih =>
    obtain ⟨ts,hts,hd⟩ := (h d List.mem_cons_self).stands
    cases ds with
    | nil =>
      obtain ⟨gap,hgap,hlexed⟩ := hts.lexed_close rest
      refine ⟨ts ++ gap,by rwa [bodyText_singleton],?_,fun l hl => ?_,?_⟩
      · rcases hgap with rfl | rfl <;> simp [hts.fits,fitsAll,space,Token.fits]
      · rcases hgap with rfl | rfl
        · exact hts.numbers l (by simpa using hl)
        · simp only [flatAll_append,List.mem_append] at hl
          rcases hl with hl | hl
          · exact hts.numbers l hl
          · cases List.mem_singleton.mp hl
            exact Nat.zero_le _
      · rcases hgap with rfl | rfl
        · rwa [List.append_nil]
        · rw [space,declarations_blank (by decide),hd]
    | cons e ds =>
      obtain ⟨content,hlexed,hfits,hnumbers,hdeclarations⟩ :=
        ih fun f hf => h f (List.mem_cons_of_mem _ hf)
      refine ⟨ts ++ mark ';' :: content,?_,?_,fun l hl => ?_,?_⟩
      · have htext : .char ' ' :: (bodyText (d :: e :: ds) ++ .char ' ' :: .char '\x7d' :: rest) =
            .char ' ' :: d.toCss ++ .char ';' ::
              (.char ' ' :: (bodyText (e :: ds) ++ .char ' ' :: .char '\x7d' :: rest)) := by
          rw [bodyText_cons]
          simp
        rw [htext,hts.lexed_semicolon,hlexed]
        simp [flatAll,mark,Token.flat]
        rfl
      · simp [hts.fits,hfits,fitsAll,mark,Token.fits]
      · simp only [flatAll_append,List.mem_append,flatAll,mark,Token.flat,List.mem_singleton] at hl
        obtain hl | rfl | hl := hl
        · exact hts.numbers l hl
        · exact Nat.zero_le _
        · exact hnumbers l hl
      · rw [declarations_semicolon rfl,hd,hdeclarations]
        rfl

theorem rulesIn_placeholder (k : Nat) (content rest : List Token) :
    rulesIn true (classTokens (placeholderName k) ++ space :: curly content :: rest) =
      ⟨.char '.' :: (placeholderName k).text,Css.declarations content⟩ :: rulesIn true rest := by
  have hstyle := rulesIn_style_item true ⟨placeholderName k,[]⟩ ⟨[.char ' '],by decide⟩ content rest
  have hselector : Selector.tokens ⟨placeholderName k,[]⟩ = classTokens (placeholderName k) := by
    simp [Selector.tokens]
  rw [hselector,Selector.normal,List.map_nil,spaced_nil] at hstyle
  exact hstyle

/-- The lines of rules with legible declarations are read back as placeholders. -/
theorem lexed_lines (h : ∀ r ∈ rules, ∀ d ∈ r.declarations, d.Legible) (k : Nat) :
    ∃ ts, lexed (linesText k rules) = flatAll ts ∧ Readable ts ∧
      rulesIn true ts = rules.mapIdx fun i r => r.asPlaceholder (k + i) := by
  induction rules generalizing k with
  | nil => exact ⟨[],by simp [linesText,lexed,preprocess,flatAll],readable_nil,by simp⟩
  | cons r rules ih =>
    obtain ⟨ts,hlexed,hreadable,hrules⟩ := ih (fun s hs => h s (List.mem_cons_of_mem _ hs)) (k + 1)
    obtain ⟨content,hbody,hfits,hnumbers,hcontent⟩ :=
      lexed_body (h r List.mem_cons_self) (linesText (k + 1) rules)
    refine ⟨.leaf [] (.whitespace "\n") :: (classTokens (placeholderName k) ++
      space :: curly content :: ts),?_,?_,?_⟩
    · rw [linesText_cons,lexed_line,hbody,hlexed]
      simp [flatAll,curly,Token.flat,Opener.closer]
    · have hcurly := readable_block (m := []) (o := .bracket .curly) hnumbers hfits hreadable
      simp [classTokens,readable_mark,space,curly,hcurly,Leaf.digitCount]
    · rw [rulesIn_skip rfl,rulesIn_placeholder,hcontent,hrules,List.mapIdx_cons]
      refine congrArg₂ List.cons rfl (List.ext_getElem? fun i => ?_)
      simp [Nat.add_assoc,Nat.add_comm 1]

/-- Where all declarations are legible, their sheet carries them. -/
theorem carries_of_legible (h : ∀ r ∈ rules, ∀ d ∈ r.declarations, d.Legible) : Carries rules := by
  obtain ⟨ts,hlexed,hreadable,hrules⟩ := lexed_lines h 0
  have hsheet : lexed (syntheticStylesheet rules) = flatAll (utilitiesLine.tokens ++ ts) := by
    rw [syntheticStylesheet_eq,Item.lexed_append,hlexed,flatAll_append]
  have hall := readable_append.mpr ⟨readable_item utilitiesLine,hreadable⟩
  rw [carries_iff,reads_iff,hsheet,nested_flatAll (hall.2 none),rulesIn_bare,rulesIn_item,hrules]
  refine ⟨hall.1,?_⟩
  simp [utilitiesLine,Item.rules,placeholders]

end StyleLift
