import Mathlib
import StyleLift.Proofs.Extract.Stages
import StyleLift.Proofs.Verify.Placeholders
import StyleLift.Proofs.Verify.Spelling

/-! # What the names in a sheet stand for

A scan reads a sheet as the text that it is. All that it takes for class selectors are class
selectors of style rules just if every point that a name follows lies in a plain one, and then what
is confirmed was selected. A compiler that gives back the sheet it was given confirms the candidates
that are found in the declarations.
-/
namespace StyleLift

open Css Css.Written

namespace ClassSelector

/-! ## Clean sheets -/

/-- Every point that a name follows lies in a plain class selector of a style rule. -/
def Clean (out : Text) : Prop :=
  ∀ q, .char '.' :: q <:+ out → startsName q = true →
    ∃ g, Evident out g ∧ .char '.' :: q <:+ g.source ∧ g.after.length ≤ q.length

variable {out : Text} {f g : Found}

theorem clean_of_selects (h : ∀ f ∈ found out, f.settled ∈ classSelectors out) : Clean out := by
  intro q hq hstarts
  obtain ⟨f,hf,hsource,hafter⟩ := found_covers hstarts hq
  obtain ⟨g,hg,hsame⟩ := (selects_iff hf).mp (h f hf)
  obtain ⟨p,hp,-,hscan⟩ := hg.takeParts
  obtain ⟨-,p',hp',-,hscan'⟩ := found_spec hf
  have hend : p = p' := by
    rw [hsame,hp'] at hp
    exact (List.cons.inj hp).2.symm
  subst hend
  have hsame' : g.after = f.after := (Prod.mk.inj (hscan.symm.trans hscan')).2
  exact ⟨g,hg,by rwa [hsame],by rwa [hsame']⟩

/-- No class selector starts inside another one. -/
theorem selectors_disjoint (hf : f.settled ∈ classSelectors out)
    (hg : g.settled ∈ classSelectors out)
    {p : Text} (hp : f.source = .char '.' :: p) (h : g.source <:+ p) :
    (preprocess g.source).length ≤ (preprocess f.after).length := by
  obtain ⟨c,k,hpoint,hread,hnext,-,hname⟩ := classSelectors_spec hf
  obtain ⟨-,-,-,-,-,hliteral,-⟩ := classSelectors_spec hg
  have hlength := preprocess_length_le h
  have htail : preprocess p = c :: k := by
    rw [Found.settled,hp,preprocess_settled rfl] at hpoint
    exact (List.cons.inj hpoint).2
  rw [htail] at hlength
  rcases Nat.lt_or_eq_of_le hlength with hlt | heq
  · have hafter := length_le_of_mem_lexemes hname hliteral hlt
    rwa [hnext] at hafter
  · cases eq_of_mem_lexemes hliteral hname heq

/-- In a clean sheet a scan finds class selectors only. By induction on the place: a plain class
selector around a point that the scan took would be taken first, or lie in one found before. -/
theorem selects_of_clean (h : Clean out) : ∀ f ∈ found out, f.settled ∈ classSelectors out := by
  intro f hf
  induction hn : out.length - f.source.length using Nat.strongRecOn generalizing f with
  | ind n ih =>
    obtain ⟨hsource,q,hq,hstarts,-⟩ := found_spec hf
    obtain ⟨g,hg,hwithin,hafter⟩ := h q (by rwa [← hq]) hstarts
    rw [← hq] at hwithin
    by_cases hsame : g.source = f.source
    · exact (selects_iff hf).mpr ⟨g,hg,hsame⟩
    · exfalso
      have hlonger : f.source.length < g.source.length :=
        Nat.lt_of_le_of_ne hwithin.length_le fun he => hsame (hwithin.eq_of_length he).symm
      obtain ⟨p,hp,hstarts',hscan⟩ := hg.takeParts
      have hgsource := hg.source
      rw [hp] at hgsource
      obtain ⟨m,hm,hcovers,hend⟩ := found_covers hstarts' hgsource
      obtain ⟨hmsource,r,hr,-,htake⟩ := found_spec hm
      have hmafter : m.after <:+ r := by
        have hsuffix := takeParts_suffix r
        rwa [htake] at hsuffix
      rw [hr] at hcovers hmsource
      rcases List.suffix_cons_iff.mp hcovers with heq | hinside
      · have hpr : p = r := (List.cons.inj heq).2
        subst hpr
        have hsame' : g.after = m.after := (Prod.mk.inj (hscan.symm.trans htake)).2
        have hdisjoint := found_disjoint hm hf (by rwa [hr,← hp])
        rw [← hsame',hq,List.length_cons] at hdisjoint
        omega
      · have hmlonger := hinside.length_le
        have hmout := hmsource.length_le
        rw [List.length_cons] at hmlonger hmout
        have hmselects := ih (out.length - m.source.length) (by
          rw [hp,List.length_cons] at hlonger
          rw [hr,List.length_cons]
          omega) m hm rfl
        have hdisjoint := selectors_disjoint hmselects hg.selects hr (by rwa [hp])
        have hafter' : m.after <:+ p := List.suffix_of_suffix_length_le
          (hmafter.trans ((List.suffix_cons _ r).trans hmsource))
          ((List.suffix_cons _ p).trans hgsource) hend
        have hshorter := preprocess_length_le hafter'
        rw [hp,preprocess_settled rfl,List.length_cons] at hdisjoint
        omega

example : Clean ".mt-\\[13px\\]\x7bmargin-top:1.5rem\x7d" := by
  have hfound : found ".mt-\\[13px\\]\x7bmargin-top:1.5rem\x7d" =
      [⟨".mt-\\[13px\\]\x7bmargin-top:1.5rem\x7d","mt-[13px]","\x7bmargin-top:1.5rem\x7d"⟩] := by
    cbv
  have hselectors : classSelectors ".mt-\\[13px\\]\x7bmargin-top:1.5rem\x7d" =
      [⟨".mt-\\[13px\\]\x7bmargin-top:1.5rem\x7d","mt-[13px]","\x7bmargin-top:1.5rem\x7d"⟩] := by
    cbv
  refine clean_of_selects fun f hf => ?_
  rw [hfound,List.mem_singleton] at hf
  subst hf
  rw [hselectors]
  exact List.mem_singleton.mpr rfl

/-! ## Names -/

theorem mem_names {name css : Text} : name ∈ names css ↔
    ∃ f ∈ found css, f.name = name ∧ placeholder.occursIn name = false := by
  rw [names,List.mem_eraseDups,List.mem_filter,← map_name_found,List.mem_map]
  constructor
  · rintro ⟨⟨f,hf,rfl⟩,hname⟩
    exact ⟨f,hf,rfl,by simpa using hname⟩
  · rintro ⟨f,hf,rfl,hname⟩
    exact ⟨⟨f,hf,rfl⟩,by simpa using hname⟩

theorem name_mem_classNames (h : f.settled ∈ classSelectors out) : f.name ∈ classNames out :=
  List.mem_map.mpr ⟨f.settled,h,rfl⟩

/-- All names in a sheet are classes that it selects just if those are that were not found at a
plain class selector. -/
theorem names_subset_iff : (∀ name ∈ names out, name ∈ classNames out) ↔
    ∀ f ∈ found out, (∀ g, Evident out g → g.source ≠ f.source) →
      placeholder.occursIn f.name = false → f.name ∈ classNames out := by
  constructor
  · intro h f hf _ hname
    exact h f.name (mem_names.mpr ⟨f,hf,rfl,hname⟩)
  · intro h name hname
    obtain ⟨f,hf,rfl,hplaceholder⟩ := mem_names.mp hname
    by_cases hevident : ∃ g, Evident out g ∧ g.source = f.source
    · exact name_mem_classNames ((selects_iff hf).mpr hevident)
    · exact h f hf (fun g hg he => hevident ⟨g,hg,he⟩) hplaceholder

/-! ## Sheets given back -/

theorem scan_placeholderRule (i : Nat) (r : Rule) :
    scan (placeholderRule i r) = (placeholderName i).text :: scan (bodyOf r.declarations) := by
  have hpart : ∀ c ∈ (placeholderName i).text, isPart c = true := fun c hc =>
    (isPlain_iff.mp ((placeholderName i).plain c hc)).1
  have htake := takeParts_append hpart (.char ' ' :: .char '\x7b' :: bodyOf r.declarations)
  have hend : takeParts (.char ' ' :: .char '\x7b' :: bodyOf r.declarations) =
      ([],.char ' ' :: .char '\x7b' :: bodyOf r.declarations) := takeParts_stop (by decide) rfl _
  rw [hend,List.append_nil] at htake
  have htext : placeholderRule i r =
      .char '.' :: ((placeholderName i).text ++
        .char ' ' :: .char '\x7b' :: bodyOf r.declarations) :=
    placeholderRule_eq i r
  rw [htext,scan_point rfl,htake,scan_cons (by decide),scan_cons (by decide)]

theorem placeholder_occursIn (i : Nat) : placeholder.occursIn (placeholderName i).text = true := by
  have hstart : placeholder <+: (placeholderName i).text :=
    (List.prefix_append _ _).trans (List.prefix_append _ _)
  have hoccurs := List.isPrefixOf_iff_prefix.mpr hstart
  obtain ⟨c,tail,htext⟩ := List.exists_cons_of_ne_nil (placeholderName i).ne_nil
  rw [htext] at hoccurs ⊢
  rw [Text.occursIn,hoccurs]
  rfl

/-- The names in the declarations of some rules, as their placeholder rules write them. -/
def namesOfBodies (rules : List Rule) : List Text :=
  ((rules.flatMap fun r => scan (bodyOf r.declarations)).filter
    fun name => !placeholder.occursIn name).eraseDups

theorem scan_lines (s : Text) (k : Nat) (rules : List Rule) :
    (scan (s ++ linesText k rules)).filter (fun name => !placeholder.occursIn name) =
      (scan s ++ rules.flatMap fun r => scan (bodyOf r.declarations)).filter
        fun name => !placeholder.occursIn name := by
  induction rules generalizing s k with
  | nil => simp [linesText]
  | cons r rules ih =>
    rw [linesText_cons,scan_newline,List.filter_append,ih,scan_placeholderRule,List.cons_append,
      List.filter_cons_of_neg (by simp [placeholder_occursIn]),← List.filter_append,
      List.flatMap_cons]

/-- No name is found in a sheet for the compiler but those in the declarations. -/
theorem names_syntheticStylesheet (rules : List Rule) :
    names (syntheticStylesheet rules) = namesOfBodies rules := by
  have hfirst : scan utilitiesLine.text = [] := by
    have hpoint : ∀ c ∈ utilitiesLine.text, c ≠ .char '.' := by decide
    have hscan := scan_append hpoint []
    rw [List.append_nil] at hscan
    rw [hscan,scan]
  rw [names,syntheticStylesheet_eq,scan_lines,hfirst,List.nil_append,namesOfBodies]

end ClassSelector

open ClassSelector

/-- A compiler that gives back the sheet it is given. -/
def Compiler.echo : Compiler := ⟨fun stylesheet _ => pure stylesheet⟩

/-- All that a scan takes for class selectors are class selectors of style rules just if the sheet
is clean. The names are classes that the sheet selects just if those found elsewhere than at plain
class selectors are, and in a clean sheet what is confirmed was selected. A sheet given back
confirms the candidates that are found in the declarations. -/
theorem scan_sound (out : Text) :
    ((∀ f ∈ found out, f.settled ∈ classSelectors out) ↔ Clean out) ∧
    ((∀ name ∈ names out, name ∈ classNames out) ↔
      ∀ f ∈ found out, (∀ g, Evident out g → g.source ≠ f.source) →
        placeholder.occursIn f.name = false → f.name ∈ classNames out) ∧
    (Clean out → (∀ name ∈ names out, name ∈ classNames out) ∧
      ∀ (html : Text) (rules : List Rule) (compiler : Compiler) (v : Verification),
        (compiler.compile (syntheticStylesheet rules) [html]).outcome = .ok out →
        (verify html rules compiler).outcome = .ok v → ∀ c ∈ v.confirmed, c ∈ classNames out) ∧
    ∀ (html : Text) (rules : List Rule),
      (verify html rules .echo).outcome.map Verification.confirmed =
        ((candidateClasses rules).mapError Fault.numeral).map fun candidates =>
          (namesOfBodies rules).filter candidates.contains := by
  have hnames : Clean out → ∀ name ∈ names out, name ∈ classNames out := by
    intro hclean name hname
    obtain ⟨f,hf,rfl,-⟩ := mem_names.mp hname
    exact name_mem_classNames (selects_of_clean hclean f hf)
  refine ⟨⟨clean_of_selects,selects_of_clean⟩,names_subset_iff,fun hclean => ⟨hnames hclean,?_⟩,?_⟩
  · intro html rules compiler v hout hv c hc
    rw [verify_outcome,hout] at hv
    obtain ⟨candidates,-,rfl⟩ := map_eq_ok.mp hv
    exact hnames hclean c (List.mem_filter.mp hc).1
  · intro html rules
    rw [verify_outcome,Compiler.echo]
    simp only [Action.outcome_pure,← names_syntheticStylesheet]
    cases (candidateClasses rules).mapError Fault.numeral with
    | error e => rfl
    | ok candidates => rfl

/-- A location in a declaration is scanned too, in compiled text and in a sheet given back. -/
theorem names_of_location :
    names ".x \x7b background: url(a.flex) \x7d" = [("x" : Text),("flex" : Text)] ∧
      classNames ".x \x7b background: url(a.flex) \x7d" = [("x" : Text)] ∧
      (verify "" [⟨".a",[⟨"display","flex",false⟩,⟨"background","url(x.flex)",false⟩]⟩]
        .echo).outcome.map Verification.confirmed = .ok [("flex" : Text)] := by
  refine ⟨?_,?_,?_⟩ <;> cbv

end StyleLift
