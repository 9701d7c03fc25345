import Mathlib.Data.List.Permutation
import StyleLift.Proofs.Css.Boundaries
import StyleLift.Proofs.Css.PlainDeclarations
import StyleLift.Proofs.Verify.Placeholders

/-! # What a placeholder sheet carries

A sheet of legible declarations carries them, whatever their number and order. A declaration that
is not legible is lost, or changed, before a plain one whose name no other text can be taken for.
So the sheets of some declarations and plain ones carry what they should just if each of the
declarations is legible.
-/
namespace StyleLift

open Css Css.Written

/-! ## A sheet of one rule -/

/-- The lexemes of the sheet up to the body of its first rule. -/
def headTokens : List Token :=
  utilitiesLine.tokens ++
    .leaf [] (.whitespace "\n") :: (classTokens (placeholderName 0) ++ [space])

theorem headTokens_leaf : ∀ u ∈ headTokens, ∃ m l, u = .leaf m l ∧ ∀ b, l ≠ .stray b := by
  intro u hu
  have htokens : headTokens = [.leaf [] (.atKeyword "tailwind"),.leaf [] (.whitespace " "),
      .leaf [] (.ident "utilities"),mark ';',.leaf [] (.whitespace "\n"),mark '.',
      .leaf [] (.ident (placeholderName 0).text),space] := rfl
  rw [htokens] at hu
  simp only [List.mem_cons,List.not_mem_nil,or_false] at hu
  obtain rfl | rfl | rfl | rfl | rfl | rfl | rfl | rfl := hu <;>
    exact ⟨_,_,rfl,fun b h => by cases h⟩

theorem headTokens_bare : headTokens.map Token.bare = headTokens := rfl

theorem lexed_sheet (r : Rule) : lexed (syntheticStylesheet [r]) =
    flatAll headTokens ++ .opening (.bracket .curly) :: lexed (bodyOf r.declarations) := by
  have hline := lexed_line 0 r []
  have hnone : linesText 1 [] = [] := rfl
  rw [syntheticStylesheet_eq,Item.lexed_append,linesText_cons,hnone,hline,headTokens,flatAll_append,
    List.append_assoc]
  rfl

/-- The content of the one block that the sheet of a rule is read as. -/
theorem content_of_carries {r : Rule} (h : Carries [r]) :
    ∃ content after, Css.declarations content = r.declarations ∧
      fitsAll (some .curly) content = true ∧ ∃ closers : List Bracket,
      flatAll content ++ .closing .curly :: flatAll after =
        lexed (bodyOf r.declarations) ++ closers.map Lexeme.closing := by
  rw [carries_iff,reads_iff] at h
  obtain ⟨-,hrules⟩ := h
  have hnested : fitsAll none (nested (lexed (syntheticStylesheet [r]))) = true ∧ _ :=
    nested_flat ne_stray_of_mem_kinds
  obtain ⟨hfits,closers,hflat⟩ := hnested
  generalize nested (lexed (syntheticStylesheet [r])) = ts at hrules hfits hflat
  rw [lexed_sheet,List.append_assoc,List.cons_append] at hflat
  obtain ⟨vs,rest,rfl,hvs,hrest⟩ := flatAll_eq_append headTokens_leaf hflat
  obtain ⟨m,content,after,rfl,hcontent⟩ := flatAll_eq_opening hrest
  rw [fitsAll_append,fitsAll,Token.fits,Bool.and_eq_true,Bool.and_eq_true] at hfits
  refine ⟨content,after,?_,hfits.2.1,closers,hcontent⟩
  rw [← rulesIn_bare,List.map_append,hvs,headTokens_bare,List.map_cons,Token.bare_block,headTokens,
    List.append_assoc,rulesIn_item,List.cons_append,rulesIn_skip rfl,List.append_assoc] at hrules
  have hone := (rulesIn_placeholder 0 (content.map Token.bare)
    (after.map Token.bare)).symm.trans hrules
  rw [declarations_bare] at hone
  exact congrArg Rule.declarations (List.cons.inj hone).1

/-! ## A name that no other text is taken for -/

/-- The letter x, some number of times. -/
def markerName (n : Nat) : Name where
  text := List.replicate (n + 1) (.char 'x')
  plain := by
    intro c hc
    rw [(List.mem_replicate.mp hc).2]
    rfl
  starts := rfl

def marker (n : Nat) : Declaration := ⟨(markerName n).text,"y",false⟩

/-- What stands behind the name of a marker in the body of a rule. -/
def markerEnd : Text := ": y \x7d"

theorem marker_plain (n : Nat) : (marker n).Plain := by
  refine ⟨markerName n,⟨"y",by decide,rfl⟩,?_,rfl⟩
  have hlower : (markerName n).text.asciiLower = (markerName n).text := by
    simp only [markerName,Text.asciiLower,List.map_replicate]
    rfl
  rw [propertyName,hlower]
  split <;> rfl

theorem lexed_marked (d : Declaration) (n : Nat) :
    lexed (bodyOf [d,marker n]) = kinds (preprocess (.char ' ' :: d.toCss) ++
      .char ';' :: .char ' ' :: ((markerName n).text ++ markerEnd)) := by
  have htext : bodyOf [d,marker n] = .char ' ' :: d.toCss ++
      .char ';' :: .char ' ' :: ((markerName n).text ++ markerEnd) := by
    rw [bodyOf,bodyText_cons,bodyText_singleton]
    simp [Declaration.toCss,marker,markerEnd,Text.ofString]
  have hend : preprocess markerEnd = markerEnd := by decide
  have htail : preprocess (.char ';' :: .char ' ' :: ((markerName n).text ++ markerEnd)) =
      .char ';' :: .char ' ' :: ((markerName n).text ++ markerEnd) := by
    rw [preprocess_cons (by decide),preprocess_cons (by decide),Name.preprocess_append,hend]
    rfl
  rw [lexed,htext,preprocess_append (by simp),htail]

theorem kinds_marker (n : Nat) : kinds ((markerName n).text ++ markerEnd) =
    .leaf (.ident (markerName n).text) :: kinds markerEnd :=
  ((markerName n).run rfl).kinds_eq

/-- No long name is read from an end of a marker. -/
theorem length_le_of_suffix {k : Nat} {s name : Text}
    (hs : s <:+ List.replicate k (.char 'x') ++ markerEnd)
    (hname : .leaf (.ident name) ∈ kinds s) : name.length ≤ max k markerEnd.length := by
  induction k with
  | zero =>
    have hlength := (run_kinds s).length_le_of_ident hname
    exact Nat.le_trans hlength (Nat.le_trans hs.length_le (Nat.le_max_right _ _))
  | succ k ih =>
    rw [List.replicate_succ,List.cons_append,List.suffix_cons_iff] at hs
    rcases hs with rfl | hs
    · change .leaf (.ident name) ∈ kinds ((markerName k).text ++ markerEnd) at hname
      rw [kinds_marker] at hname
      rcases List.mem_cons.mp hname with h | h
      · cases h
        rw [markerName,List.length_replicate]
        exact Nat.le_max_left _ _
      · have hlength := (run_kinds markerEnd).length_le_of_ident h
        exact Nat.le_trans hlength (Nat.le_max_right _ _)
    · exact Nat.le_trans (ih hs) (by omega)

/-! ## A declaration before a marker -/

section Marked

variable {piece : Text} {n : Nat}

/-- What stands behind the semicolon before a marker. -/
def markerText (n : Nat) : Text := .char ' ' :: ((markerName n).text ++ markerEnd)

theorem length_propertyName (name : Text) : (propertyName name).length = name.length := by
  unfold propertyName
  split
  · rfl
  · exact List.length_map _

/-- Only one name of the body is as long as the marker's, so it tells the place of the marker. -/
theorem eq_before_marker {before pre ls ks : List Lexeme} {name : Text} {closers : List Bracket}
    (hname : n < name.length) (hmin : markerEnd.length ≤ n)
    (hpre : ∀ m, .leaf (.ident m) ∈ pre → m.length ≤ n)
    (hls : ls = pre ++ .leaf (.ident (markerName n).text) :: kinds markerEnd)
    (h : before ++ .leaf (.ident name) :: ks = ls ++ closers.map Lexeme.closing) :
    before = pre := by
  rw [hls,List.append_assoc,List.cons_append] at h
  have hout : Lexeme.leaf (.ident name) ∉ pre := fun hmem => by
    have hlength := hpre name hmem
    omega
  have hend : Lexeme.leaf (.ident name) ∉ kinds markerEnd ++ closers.map Lexeme.closing := by
    intro hmem
    rcases List.mem_append.mp hmem with hmem | hmem
    · have hlength := (run_kinds markerEnd).length_le_of_ident hmem
      omega
    · obtain ⟨b,-,hb⟩ := List.mem_map.mp hmem
      cases hb
  exact ((List.append_cons_inj_of_notMem hout hend).mp h.symm).1.symm

/-- The name that a step past the semicolon reads is short. -/
theorem length_le_of_next {c : CodePoint} {left name : Text}
    (h : (next c (left ++ .char ';' :: markerText n)).1 = some (.leaf (.ident name))) :
    name.length ≤ left.length + 2 := by
  obtain ⟨-,htake⟩ := next_spells h
  have hlength := takeName_length_le (c :: (left ++ .char ';' :: markerText n))
  have hstop := takeName_semicolon (c :: left) ((markerName n).text ++ markerEnd)
  rw [markerText] at htake hlength
  rw [List.cons_append,htake] at hstop
  rw [htake] at hlength
  simp only [List.length_cons,List.length_append] at hlength hstop
  omega

/-- A step past the semicolon before a marker stops before the marker's name, or no name as long
as the marker's is read at all. -/
theorem past_cases {c : CodePoint} {left : Text}
    (hpast : (next c (left ++ .char ';' :: markerText n)).2.length ≤ (markerText n).length) :
    (∃ gap, markerText n = gap ++ (next c (left ++ .char ';' :: markerText n)).2 ∧
      (gap = [] ∨ gap = [.char ' ']) ∧ ∃ ws : List Lexeme, (∀ w ∈ ws, w.isBlank = true) ∧
        kinds (next c (left ++ .char ';' :: markerText n)).2 =
          ws ++ .leaf (.ident (markerName n).text) :: kinds markerEnd) ∨
    ∀ name, .leaf (.ident name) ∈ kinds (next c (left ++ .char ';' :: markerText n)).2 →
      name.length ≤ max n markerEnd.length := by
  have hsuffix := (next_suffix c (left ++ .char ';' :: markerText n))
  generalize (next c (left ++ .char ';' :: markerText n)).2 = past at hpast hsuffix
  have hrest : markerText n <:+ left ++ .char ';' :: markerText n :=
    (List.suffix_cons _ _).trans (List.suffix_append _ _)
  have hpast := List.suffix_of_suffix_length_le hsuffix hrest hpast
  have hmarker : (markerName n).text ++ markerEnd =
      .char 'x' :: (List.replicate n (.char 'x') ++ markerEnd) := rfl
  rw [markerText,List.suffix_cons_iff,hmarker,List.suffix_cons_iff,← hmarker] at hpast
  obtain rfl | rfl | hpast := hpast
  · have hspace := (run_space ((markerName n).not_isSpace_head markerEnd)).kinds_eq
    refine .inl ⟨[],rfl,.inl rfl,[.leaf (.whitespace " ")],by simp [Lexeme.isBlank],?_⟩
    rw [hspace,kinds_marker]
  · exact .inl ⟨[.char ' '],rfl,.inr rfl,[],by simp,kinds_marker n⟩
  · exact .inr fun name hname => length_le_of_suffix hpast hname

/-- No comment that goes past the semicolon ends before the marker. -/
theorem some_of_past {c : CodePoint} {left gap : Text}
    (hgap : markerText n = gap ++ (next c (left ++ .char ';' :: markerText n)).2)
    (hone : gap = [] ∨ gap = [.char ' '])
    (hne : kinds (next c (left ++ .char ';' :: markerText n)).2 ≠ []) :
    ∃ l, (next c (left ++ .char ';' :: markerText n)).1 = some l := by
  cases hfound : (next c (left ++ .char ';' :: markerText n)).1 with
  | some l => exact ⟨l,rfl⟩
  | none =>
    obtain ⟨tail,rfl,htail,hskip⟩ := next_none hfound
    rcases skipComment_end tail with hnil | ⟨inner,hinner⟩
    · rw [hskip,hnil] at hne
      exact (hne kinds_nil).elim
    · rw [← hskip] at hinner
      generalize (next (.char '/') (left ++ .char ';' :: markerText n)).2 = past at hgap hinner
      have hsplit : (left ++ .char ';' :: gap) ++ past =
          ((.char '*' :: inner ++ [.char '*']) ++ [.char '/']) ++ past := by
        rw [List.append_assoc,List.cons_append,← hgap,htail,hinner]
        simp
      have hsplit := List.append_cancel_right hsplit
      rcases hone with rfl | rfl
      · exact absurd (List.append_inj_right' hsplit rfl) (by simp)
      · rw [List.append_cons] at hsplit
        exact absurd (List.append_inj_right' hsplit rfl) (by simp)

/-- Where the marker's declaration is read, no step has gone past the semicolon before it. -/
theorem not_passed (hn : piece.length + markerEnd.length ≤ n) {before : List Token}
    (hends : EndsUnit before) {name : Text} (hname : n < name.length) {ks : List Lexeme}
    {closers : List Bracket} (h : flatAll before ++ .leaf (.ident name) :: ks =
      kinds (piece ++ .char ';' :: markerText n) ++ closers.map Lexeme.closing) :
    ¬Passed piece (markerText n) := by
  rintro ⟨ls,c,left,hleft,hrun,hpast⟩
  have hmem : Lexeme.leaf (.ident name) ∈ kinds (piece ++ .char ';' :: markerText n) := by
    have hmem : Lexeme.leaf (.ident name) ∈
        kinds (piece ++ .char ';' :: markerText n) ++ closers.map Lexeme.closing := by
      rw [← h]
      simp
    rcases List.mem_append.mp hmem with hmem | hmem
    · exact hmem
    · obtain ⟨b,-,hb⟩ := List.mem_map.mp hmem
      cases hb
  -- no name up to the semicolon, or in the step past it, is as long as the marker's
  have hfound : ∀ m,
      .leaf (.ident m) ∈ ls ++ (next c (left ++ .char ';' :: markerText n)).1.toList →
      m.length ≤ n := by
    intro m hm
    have hlength := hleft.length_le
    rcases List.mem_append.mp hm with hm | hm
    · have hm := hrun.length_le_of_ident hm
      simp only [List.length_cons,List.length_append] at hm hlength
      omega
    · have hm := length_le_of_next (Option.mem_toList.mp hm)
      simp only [List.length_cons] at hlength
      have hpos : 0 < markerEnd.length := by decide
      omega
  rw [hrun.kinds_eq,kinds_cons,← List.append_assoc] at hmem h
  rcases past_cases hpast with ⟨gap,hgap,hone,ws,hws,hpast'⟩ | hshort
  · obtain ⟨l,hl⟩ := some_of_past hgap hone (by rw [hpast']; simp)
    have hend := mayEnd_of_past hl hpast
    have hblank : l.isBlank = false := by
      cases l with
      | leaf k => cases k <;> first | rfl | cases hend
      | _ => rfl
    rw [hl,Option.toList_some] at hfound h
    have hbefore : flatAll before = ls ++ l :: ws := by
      refine eq_before_marker hname (by omega) (fun m hm => ?_) (by rw [hpast']; simp) h
      rw [List.append_cons,List.mem_append] at hm
      rcases hm with hm | hm
      · exact hfound m hm
      · cases hws _ hm
    rw [hends.mayEnd hbefore hws hblank] at hend
    cases hend
  · rcases List.mem_append.mp hmem with hmem | hmem
    · have hm := hfound name hmem
      omega
    · have hm := hshort name hmem
      omega

/-- Where the marker's declaration is read, the run before it has stopped at the semicolon. -/
theorem ended_before_marker (hlast : ∀ c ∈ piece.getLast?, isSpace c = false)
    (hn : piece.length + markerEnd.length ≤ n) {before : List Token} (hends : EndsUnit before)
    {name : Text} (hname : n < name.length) {ks : List Lexeme} {closers : List Bracket}
    (h : flatAll before ++ .leaf (.ident name) :: ks =
      kinds (piece ++ .char ';' :: markerText n) ++ closers.map Lexeme.closing) :
    ∃ ls, Ended true piece ls ∧
      flatAll before = ls ++ [.leaf (.literal ";"),.leaf (.whitespace " ")] := by
  rcases ended_or_passed (fun _ => hlast) (markerText n) with ⟨ls,hended⟩ | hpassed
  · refine ⟨ls,hended,eq_before_marker hname (by omega) (fun m hm => ?_) ?_ h⟩
    · rcases List.mem_append.mp hm with hm | hm
      · have hlength := (hended.kinds_semicolon []).length_le_of_ident hm
        rw [List.length_append] at hlength
        omega
      · simp at hm
    · have hspace := (run_space ((markerName n).not_isSpace_head markerEnd)).kinds_eq
      rw [(hended.kinds_semicolon _).kinds_eq,kinds_semicolon,markerText,hspace,kinds_marker]
      simp
  · exact (not_passed hn hends hname h hpassed).elim

end Marked

/-- A declaration that a sheet carries before a long marker is legible. -/
theorem legible_of_carries {d : Declaration} {n : Nat}
    (hn : (preprocess (.char ' ' :: d.toCss)).length + markerEnd.length ≤ n)
    (h : Carries [⟨[],[d,marker n]⟩]) : d.Legible := by
  have hnumbers := (reads_iff.mp (carries_iff.mp h)).1
  obtain ⟨content,after,hcontent,hfits,closers,hflat⟩ := content_of_carries h
  have hlast := Declaration.getLast?_toCss
    (show d ∈ Css.declarations content by rw [hcontent]; simp)
  rw [lexed_sheet,lexed_marked] at hnumbers
  rw [lexed_marked] at hflat
  have hsplit : Css.declarations content = [d] ++ marker n :: [] := hcontent
  obtain ⟨before,m,name,tail,rfl,hbefore,hname,hends⟩ := declarations_place hsplit
  have hlong : n < name.length := by
    rw [← length_propertyName,hname,marker,markerName,List.length_replicate]
    exact Nat.lt_succ_self n
  have hplace : flatAll before ++ .leaf (.ident name) ::
      (flatAll tail ++ .closing .curly :: flatAll after) =
        kinds (preprocess (.char ' ' :: d.toCss) ++ .char ';' :: markerText n) ++
          closers.map Lexeme.closing := by
    rw [markerText,← hflat]
    simp [flatAll,Token.flat]
  obtain ⟨ls,hended,hls⟩ := ended_before_marker hlast hn hends hlong hplace
  rw [List.append_cons] at hls
  obtain ⟨k,init,rfl,hinit⟩ := flatAll_eq_append_leaf hls
  obtain ⟨j,ts,rfl,hts⟩ := flatAll_eq_append_leaf hinit
  have hdeclarations : Css.declarations ts = [d] := by
    rw [List.append_assoc,List.singleton_append,declarations_semicolon rfl,
      declarations_parts rfl] at hbefore
    simpa [Css.declarations] using hbefore
  simp only [fitsAll_append,Bool.and_eq_true] at hfits
  subst hts
  refine Declaration.legible_of_stands ⟨hended,hfits.1.1.1,fun l hl => hnumbers l ?_⟩ hdeclarations
  rw [(hended.kinds_semicolon _).kinds_eq]
  simp [hl]

/-- The sheets of rules with some declarations and plain ones carry all that the rules declare just
if each of the declarations is legible. -/
theorem carries_iff_legible (ds : List Declaration) :
    (∀ rules : List Rule, (∀ r ∈ rules, ∀ d ∈ r.declarations, d ∈ ds ∨ d.Plain) → Carries rules) ↔
      ∀ d ∈ ds, d.Legible := by
  constructor
  · intro h d hd
    refine legible_of_carries (Nat.le_refl _) (h _ fun r hr e he => ?_)
    rw [List.mem_singleton.mp hr] at he
    rcases List.mem_cons.mp he with rfl | he
    · exact .inl hd
    · rw [List.mem_singleton.mp he]
      exact .inr (marker_plain _)
  · intro h rules hrules
    refine carries_of_legible fun r hr d hd => ?_
    rcases hrules r hr d hd with hd | hd
    · exact h d hd
    · exact hd.legible

/-- An escaped colon in a property is written without its escape, so the property ends there. -/
theorem not_carries_colon :
    (readRules ".a\x7bco\\:lor:red\x7d").outcome = .ok [⟨".a",[⟨"co:lor","red",false⟩]⟩] ∧
      ¬Carries [⟨".a",[⟨"co:lor","red",false⟩]⟩] := by
  constructor
  · cbv
  · rw [Carries]
    intro h
    have hread : (readRules (syntheticStylesheet [⟨".a",[⟨"co:lor","red",false⟩]⟩])).outcome =
        .ok [⟨".temp-selector-0",[⟨"co","lor: red",false⟩]⟩] := by cbv
    rw [hread] at h
    exact absurd (Except.ok.inj h) (by decide)

end StyleLift
