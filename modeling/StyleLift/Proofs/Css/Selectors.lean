import StyleLift.Proofs.Css.Runs
import StyleLift.Proofs.Verify.Scanning

/-! # Class selectors of a sheet

A class selector is a point with a name right behind it, in the prelude of a style rule or in a
function there. Each stands in the text as the lexemes of its point and of its name.
-/
namespace StyleLift.Css

open ClassSelector

/-! ## Style rules -/

/-- Whether a token starts an at-rule whose content is rules. -/
def Token.groups : Token → Bool
  | .leaf _ (.atKeyword name) => groupingRules.contains name.asciiLower
  | _ => false

theorem Token.eq_atKeyword {t : Token} (h : t.isAtKeyword = true) :
    ∃ m name, t = .leaf m (.atKeyword name) := by
  unfold isAtKeyword at h
  split at h
  · exact ⟨_,_,rfl⟩
  · cases h

/-- The style rules among some tokens, each as its prelude and its content. -/
def styleRules (outermost : Bool) : List Token → List (List Token × List Token)
  | [] => []
  | t :: rest =>
    if skipsAt outermost t then styleRules outermost rest
    else if t.isAtKeyword then
      (match _h : (takePrelude true rest).content with
        | some content => if t.groups then styleRules false content else []
        | none => []) ++ styleRules outermost (takePrelude true rest).rest
    else
      match (takePrelude false (t :: rest)).content with
      | some content => ((takePrelude false (t :: rest)).tokens,content) ::
          styleRules outermost (takePrelude false (t :: rest)).rest
      | none => []
termination_by ts => sizeOf ts
decreasing_by
  · simp only [List.cons.sizeOf_spec]; omega
  · have := takePrelude_content _h; simp; omega
  · have := takePrelude_rest true rest; simp; omega
  · have := takePrelude_cons_rest false t rest; simp; omega

/-- These are the rules that are read. -/
theorem rulesIn_eq_map (outermost : Bool) (ts : List Token) : rulesIn outermost ts =
    (styleRules outermost ts).map fun p => ⟨selectorText p.1,declarations p.2⟩ := by
  fun_induction styleRules outermost ts with
  | case1 => simp
  | case2 outermost t rest hs ih => rw [rulesIn_skip hs,ih]
  | case3 outermost t rest hs ha ihcontent ihrest =>
    obtain ⟨m,name,rfl⟩ := Token.eq_atKeyword ha
    rw [rulesIn_atKeyword,ihrest,List.map_append]
    congr 1
    split
    · next content hc =>
      rw [hc,rulesOfGroup,Token.groups]
      split
      · exact ihcontent content hc
      · rfl
    · next hc =>
      rw [hc]
      rfl
  | case4 outermost t rest hs ha content hc ih =>
    rw [rulesIn_style (by simpa using hs) (by simpa using ha),hc,ih]
    rfl
  | case5 outermost t rest hs ha hc =>
    rw [rulesIn_style (by simpa using hs) (by simpa using ha),hc]
    rfl

/-! ## Leaves of preludes -/

variable {ts content : List Token} {x : Text × Leaf}

theorem leaves_of_curly {t : Token} (h : t.curly? = some content) :
    t.leaves = leavesAll content := by
  unfold Token.curly? at h
  split at h
  · cases h
    rfl
  · cases h

/-- A prelude, the block after it and what follows hold no other leaves. -/
theorem takePrelude_leaves (stop : Bool) (ts : List Token) :
    (∀ x ∈ leavesAll (takePrelude stop ts).tokens, x ∈ leavesAll ts) ∧
      (∀ content, (takePrelude stop ts).content = some content →
        ∀ x ∈ leavesAll content, x ∈ leavesAll ts) ∧
      ∀ x ∈ leavesAll (takePrelude stop ts).rest, x ∈ leavesAll ts := by
  induction ts with
  | nil => exact ⟨fun x hx => hx,fun content hc => (by cases hc),fun x hx => hx⟩
  | cons t rest ih =>
    obtain ⟨htokens,hcontent,hrest⟩ := ih
    have hlater : ∀ x ∈ leavesAll rest, x ∈ leavesAll (t :: rest) := fun x hx =>
      List.mem_append_right _ hx
    unfold takePrelude
    split
    · next content hc =>
      refine ⟨fun x hx => (by cases hx),fun found hfound x hx => ?_,hlater⟩
      cases hfound
      rw [leavesAll,leaves_of_curly hc]
      exact List.mem_append_left _ hx
    · split
      · exact ⟨fun x hx => (by cases hx),fun content hc => (by cases hc),hlater⟩
      · refine ⟨fun x hx => ?_,fun content hc x hx => hlater x (hcontent content hc x hx),
          fun x hx => hlater x (hrest x hx)⟩
        rcases List.mem_append.mp hx with hx | hx
        · exact List.mem_append_left _ hx
        · exact hlater x (htokens x hx)

theorem leaves_of_styleRules {outermost : Bool} {p : List Token × List Token}
    (hp : p ∈ styleRules outermost ts) (hx : x ∈ leavesAll p.1) : x ∈ leavesAll ts := by
  fun_induction styleRules outermost ts with
  | case1 => cases hp
  | case2 outermost t rest hs ih => exact List.mem_append_right _ (ih hp)
  | case3 outermost t rest hs ha ihcontent ihrest =>
    obtain ⟨-,hcontent,hrest⟩ := takePrelude_leaves true rest
    refine List.mem_append_right _ ?_
    rcases List.mem_append.mp hp with hp | hp
    · split at hp
      · next content hc =>
        split at hp
        · exact hcontent content hc x (ihcontent content hc hp)
        · cases hp
      · cases hp
    · exact hrest x (ihrest hp)
  | case4 outermost t rest hs ha content hc ih =>
    obtain ⟨htokens,-,hrest⟩ := takePrelude_leaves false (t :: rest)
    rcases List.mem_cons.mp hp with rfl | hp
    · exact htokens x hx
    · exact hrest x (ih hp)
  | case5 => cases hp

/-! ## Class selectors -/

/-- The class selector that starts at a token. -/
def classAt : Token → List Token → List Found
  | .leaf m (.literal source), .leaf k (.ident name) :: _ =>
    if source = "." ∧ m = .char '.' :: k then [⟨m,name,(takeName k).2⟩] else []
  | _, _ => []

mutual

/-- The class selectors inside a token. -/
def Token.classes : Token → List Found
  | .leaf _ _ => []
  | .block _ (.bracket _) _ => []
  | .block _ (.function _) content => classesAmong content

def classesAmong : List Token → List Found
  | [] => []
  | t :: rest => classAt t rest ++ t.classes ++ classesAmong rest

end

/-- The class selectors in the preludes of a sheet's style rules. -/
def classSelectors (out : Text) : List Found :=
  (styleRules true (nest (lexemes (preprocess out)))).flatMap fun p => classesAmong p.1

/-- The classes that the style rules of a sheet select. -/
def classNames (out : Text) : List Text := (classSelectors out).map Found.name

/-- The point and the name of a class selector, where they stand in some tokens. -/
def Stood (ts : List Token) (f : Found) : Prop :=
  ∃ k, f.source = .char '.' :: k ∧ f.after = (takeName k).2 ∧
    (f.source,.literal ".") ∈ leavesAll ts ∧ (k,.ident f.name) ∈ leavesAll ts

variable {f : Found}

theorem stood_of_classAt {t : Token} {rest : List Token} (hf : f ∈ classAt t rest) :
    Stood (t :: rest) f := by
  unfold classAt at hf
  split at hf
  · next m source k name tail =>
    split at hf
    · next h =>
      obtain ⟨rfl,rfl⟩ := h
      rw [List.mem_singleton] at hf
      subst hf
      exact ⟨k,rfl,rfl,List.mem_cons_self,List.mem_cons_of_mem _ List.mem_cons_self⟩
    · cases hf
  · cases hf

theorem Stood.mono {us : List Token} (h : Stood ts f) (hx : ∀ x ∈ leavesAll ts, x ∈ leavesAll us) :
    Stood us f := by
  obtain ⟨k,hsource,hafter,hpoint,hname⟩ := h
  exact ⟨k,hsource,hafter,hx _ hpoint,hx _ hname⟩

mutual

theorem stood_of_classes (t : Token) (hf : f ∈ t.classes) : Stood [t] f := by
  cases t with
  | leaf m l => cases hf
  | block m o content =>
    cases o with
    | bracket b => cases hf
    | function name =>
      refine (stood_of_classesAmong content hf).mono fun x hx => ?_
      exact List.mem_append_left _ hx

theorem stood_of_classesAmong (ts : List Token) (hf : f ∈ classesAmong ts) : Stood ts f := by
  cases ts with
  | nil => cases hf
  | cons t rest =>
    rw [classesAmong] at hf
    rcases List.mem_append.mp hf with hf | hf
    · rcases List.mem_append.mp hf with hf | hf
      · exact stood_of_classAt hf
      · refine (stood_of_classes t hf).mono fun x hx => ?_
        rw [leavesAll,leavesAll,List.append_nil] at hx
        exact List.mem_append_left _ hx
    · exact (stood_of_classesAmong rest hf).mono fun x hx => List.mem_append_right _ hx

end

/-- A class selector is the lexeme of its point and the lexeme of its name. -/
theorem classSelectors_spec {out : Text} (hf : f ∈ classSelectors out) :
    ∃ c k, f.source = .char '.' :: c :: k ∧ takeName (c :: k) = (f.name,f.after) ∧
      (next c k).2 = f.after ∧
      (f.source,.leaf (.literal ".")) ∈ lexemes (preprocess out) ∧
      (c :: k,.leaf (.ident f.name)) ∈ lexemes (preprocess out) := by
  obtain ⟨p,hp,hf⟩ := List.mem_flatMap.mp hf
  obtain ⟨k,hsource,hafter,hpoint,hname⟩ := stood_of_classesAmong p.1 hf
  have hlexeme : ∀ m l, (m,l) ∈ leavesAll p.1 → (m,.leaf l) ∈ lexemes (preprocess out) := by
    intro m l hx
    have hleaf := leaves_of_styleRules hp hx
    rw [nest_leaves ne_stray_of_mem_lexemes] at hleaf
    obtain ⟨⟨n,j⟩,hmem,hj⟩ := List.mem_filterMap.mp hleaf
    cases j with
    | leaf j => cases hj; exact hmem
    | _ => cases hj
  have hname := hlexeme k _ hname
  obtain ⟨ls,c,rest,rfl,-,hnext⟩ := run_of_mem_lexemes hname
  obtain ⟨-,htake⟩ := next_spells hnext
  have hrest : f.after = (next c rest).2 := by rw [hafter,htake]
  exact ⟨c,rest,hsource,by rw [htake,hrest],hrest.symm,hlexeme _ _ hpoint,hname⟩

end StyleLift.Css
