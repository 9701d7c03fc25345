import StyleLift.Proofs.Component.Embedding

/-! # Names made of words

A name in Pascal case is made of words, each with a capital in the place of its first letter. In
kebab case it has the same words with hyphens between them, so the words and the name can be told
from what the source of a component calls it. A name of ASCII in kebab case is its own kebab case.
-/
namespace StyleLift

namespace CodePoint
variable {c : CodePoint}

/-- What holds of the numbers below 128 holds of the code points of ASCII. -/
theorem forall_ascii {p : CodePoint → Prop} (h : ∀ n < 0x80, p (ofNat n))
    (hc : c.val < 0x80) : p c :=
  c.ofNat_val ▸ h c.val hc

/-- A code point that stays as it is in kebab case. -/
structure IsSettled (c : CodePoint) : Prop where
  notUpper : c.isUpper = false
  lower_eq : c.lower = [c]
  notLowLine : c ≠ .char '_'

instance : Decidable c.IsSettled :=
  decidable_of_iff (c.isUpper = false ∧ c.lower = [c] ∧ c ≠ .char '_')
    ⟨fun ⟨h,h',h''⟩ => ⟨h,h',h''⟩,fun ⟨h,h',h''⟩ => ⟨h,h',h''⟩⟩

def isSmallLetter (c : CodePoint) : Bool := 0x61 ≤ c.val && c.val ≤ 0x7A

/-- The capital of a small letter. -/
def capital : CodePoint → CodePoint
  | .char c => .char c.toUpper
  | .surrogate low => .surrogate low

/-- What a word has after its first letter. -/
def IsWordPart (c : CodePoint) : Prop := c.isSmallLetter = true ∨ c.isAsciiDigit = true

instance : Decidable c.IsWordPart :=
  inferInstanceAs (Decidable (c.isSmallLetter = true ∨ c.isAsciiDigit = true))

theorem IsWordPart.ascii (h : c.IsWordPart) : c.val < 0x80 := by
  simp only [IsWordPart,isSmallLetter,isAsciiDigit,Bool.and_eq_true,decide_eq_true_eq] at h
  omega

theorem IsWordPart.settled (h : c.IsWordPart) : c.IsSettled :=
  forall_ascii (p := fun c => c.IsWordPart → c.IsSettled) (by decide) h.ascii h

theorem IsWordPart.ne_hyphen (h : c.IsWordPart) : c ≠ .char '-' := by
  rintro rfl
  exact absurd h (by decide)

theorem IsWordPart.identifierPart (h : c.IsWordPart) : c.isIdentifierPart = true :=
  forall_ascii (p := fun c => c.IsWordPart → c.isIdentifierPart = true) (by decide) h.ascii h

/-- A capital is a capital, and lowers to what it is the capital of. -/
theorem capital_spec (h : c.isSmallLetter = true) : c.capital.isUpper = true ∧
    c.capital.lower = [c] ∧ c.capital.isIdentifierStart = true ∧
    c.capital.isIdentifierPart = true :=
  forall_ascii (p := fun c => c.isSmallLetter = true → c.capital.isUpper = true ∧
    c.capital.lower = [c] ∧ c.capital.isIdentifierStart = true ∧ c.capital.isIdentifierPart = true)
    (by decide) (IsWordPart.ascii (.inl h)) h

end CodePoint

namespace Component
variable {s t name name' word : Text} {words words' : List Text} {c : CodePoint}

/-! ## Kebab case -/

/-- A text behind the first code point of a name. -/
def kebabRest (s : Text) : Text := (s.flatMap kebabCodePoint).map hyphenate

theorem kebab_cons : kebab (c :: s) = c.lower.map hyphenate ++ kebabRest s := List.map_append

theorem kebabRest_append : kebabRest (s ++ t) = kebabRest s ++ kebabRest t := by
  rw [kebabRest,List.flatMap_append,List.map_append]
  rfl

theorem map_hyphenate_lower (h : c.IsSettled) : c.lower.map hyphenate = [c] := by
  rw [h.lower_eq,List.map_singleton,hyphenate,if_neg h.notLowLine]

theorem kebabCodePoint_settled (h : c.IsSettled) : kebabCodePoint c = c.lower := by
  rw [kebabCodePoint,h.notUpper]
  rfl

theorem kebabRest_settled (h : ∀ c ∈ s, c.IsSettled) : kebabRest s = s := by
  induction s with
  | nil => rfl
  | cons c s ih =>
    obtain ⟨hc,hs⟩ := List.forall_mem_cons.mp h
    have hsplit : kebabRest (c :: s) = (kebabCodePoint c).map hyphenate ++ kebabRest s :=
      List.map_append
    rw [hsplit,kebabCodePoint_settled hc,map_hyphenate_lower hc,ih hs]
    rfl

theorem kebab_settled (h : ∀ c ∈ s, c.IsSettled) : kebab s = s := by
  cases s with
  | nil => rfl
  | cons c s =>
    obtain ⟨hc,hs⟩ := List.forall_mem_cons.mp h
    rw [kebab_cons,map_hyphenate_lower hc,kebabRest_settled hs]
    rfl

/-- All that is left of a name of ASCII is settled. -/
theorem settled_of_mem_kebab (h : ∀ c ∈ s, c.val < 0x80) : ∀ d ∈ kebab s, d.IsSettled := by
  have hfirst : ∀ n < 0x80, ∀ d ∈ (CodePoint.ofNat n).lower.map hyphenate, d.IsSettled := by decide
  have hlater : ∀ n < 0x80, ∀ d ∈ (kebabCodePoint (CodePoint.ofNat n)).map hyphenate,
      d.IsSettled := by
    decide
  cases s with
  | nil => exact List.forall_mem_nil _
  | cons c s =>
    obtain ⟨hc,hs⟩ := List.forall_mem_cons.mp h
    rw [kebab_cons]
    refine List.forall_mem_append.mpr ⟨CodePoint.forall_ascii
      (p := fun c => ∀ d ∈ c.lower.map hyphenate, d.IsSettled) hfirst hc,fun d hd => ?_⟩
    obtain ⟨e,he,rfl⟩ := List.mem_map.mp hd
    obtain ⟨b,hb,hbe⟩ := List.mem_flatMap.mp he
    exact CodePoint.forall_ascii (p := fun c => ∀ d ∈ (kebabCodePoint c).map hyphenate, d.IsSettled)
      hlater (hs b hb) _ (List.mem_map_of_mem hbe)

/-! ## Words -/

/-- A word: a small letter of ASCII, then such letters and digits. -/
inductive IsWord : Text → Prop
  | intro {c : CodePoint} {s : Text} (hc : c.isSmallLetter = true) (hs : ∀ d ∈ s, d.IsWordPart) :
    IsWord (c :: s)

/-- A word with a capital in the place of its first letter. -/
def capitalize : Text → Text
  | [] => []
  | c :: s => c.capital :: s

/-- The name that some words make. -/
def pascal (words : List Text) : Text := words.flatMap capitalize

/-- A name in Pascal case. -/
def IsPascal (name : Text) : Prop :=
  ∃ words, words ≠ [] ∧ (∀ word ∈ words, IsWord word) ∧ name = pascal words

theorem IsWord.isWordPart (h : IsWord word) : ∀ c ∈ word, c.IsWordPart := by
  cases h with
  | intro hc hs => exact List.forall_mem_cons.mpr ⟨.inl hc,hs⟩

/-- A later word of a name stands behind a hyphen. -/
theorem IsWord.kebabRest (h : IsWord word) : kebabRest (capitalize word) = .char '-' :: word := by
  have hword := h.isWordPart
  cases h with
  | @intro c s hc hs =>
    obtain ⟨hupper,hlower,-⟩ := CodePoint.capital_spec hc
    have hsettled := (hword c List.mem_cons_self).settled
    have hcapital : kebabCodePoint c.capital = [.char '-',c] := by
      rw [kebabCodePoint,hupper,hlower]
      rfl
    have hsplit : Component.kebabRest (capitalize (c :: s)) =
      (kebabCodePoint c.capital).map hyphenate ++ Component.kebabRest s := List.map_append
    rw [hsplit,hcapital,kebabRest_settled fun d hd => (hs d hd).settled,List.map_cons,
      List.map_singleton,hyphenate,hyphenate,if_neg hsettled.notLowLine]
    rfl

/-- The first word of a name stands as it is. -/
theorem IsWord.kebab_append (h : IsWord word) (s : Text) :
    kebab (capitalize word ++ s) = word ++ Component.kebabRest s := by
  have hword := h.isWordPart
  cases h with
  | @intro c rest hc hs =>
    have hsettled := (hword c List.mem_cons_self).settled
    have hfirst : kebab (capitalize (c :: rest) ++ s) =
      c.capital.lower.map hyphenate ++ Component.kebabRest (rest ++ s) := kebab_cons
    rw [hfirst,(CodePoint.capital_spec hc).2.1,← hsettled.lower_eq,map_hyphenate_lower hsettled,
      kebabRest_append,kebabRest_settled fun d hd => (hs d hd).settled]
    rfl

theorem kebabRest_pascal (h : ∀ word ∈ words, IsWord word) :
    kebabRest (pascal words) = words.flatMap fun word => .char '-' :: word := by
  induction words with
  | nil => rfl
  | cons word words ih =>
    obtain ⟨hword,hwords⟩ := List.forall_mem_cons.mp h
    rw [pascal,List.flatMap_cons,kebabRest_append,hword.kebabRest,← pascal,
      ih hwords,List.flatMap_cons]

/-- In kebab case hyphens stand between the words of a name. -/
theorem kebab_pascal (hne : words ≠ []) (h : ∀ word ∈ words, IsWord word) :
    kebab (pascal words) = Text.joinWith [.char '-'] words := by
  obtain ⟨first,others,rfl⟩ := List.exists_cons_of_ne_nil hne
  obtain ⟨hfirst,hothers⟩ := List.forall_mem_cons.mp h
  rw [pascal,List.flatMap_cons,hfirst.kebab_append,← pascal,kebabRest_pascal hothers,
    Text.joinWith_cons]

/-- The words are what stands between the hyphens. -/
theorem splitOn_kebab (hne : words ≠ []) (h : ∀ word ∈ words, IsWord word) :
    Text.splitOn (.char '-') (kebab (pascal words)) = words := by
  rw [kebab_pascal hne h]
  exact List.splitOn_intercalate _ (fun word hword hmem =>
    ((h word hword).isWordPart _ hmem).ne_hyphen rfl) hne

theorem IsPascal.eq_of_kebab (h : IsPascal name) (h' : IsPascal name')
    (hkebab : kebab name = kebab name') : name = name' := by
  obtain ⟨words,hne,hwords,rfl⟩ := h
  obtain ⟨words',hne',hwords',rfl⟩ := h'
  rw [← splitOn_kebab hne hwords,hkebab,splitOn_kebab hne' hwords']

theorem IsWord.identifierPart (h : IsWord word) :
    ∀ c ∈ capitalize word, c.isIdentifierPart = true := by
  cases h with
  | intro hc hs =>
    exact List.forall_mem_cons.mpr
      ⟨(CodePoint.capital_spec hc).2.2.2,fun d hd => (hs d hd).identifierPart⟩

theorem IsPascal.isIdentifier (h : IsPascal name) : Text.isIdentifier name = true := by
  obtain ⟨words,hne,hwords,rfl⟩ := h
  have hparts : ∀ c ∈ pascal words, c.isIdentifierPart = true := fun c hc => by
    obtain ⟨word,hword,hmem⟩ := List.mem_flatMap.mp hc
    exact (hwords word hword).identifierPart c hmem
  obtain ⟨first,others,rfl⟩ := List.exists_cons_of_ne_nil hne
  cases hwords first List.mem_cons_self with
  | intro hc hs =>
    exact Bool.and_eq_true_iff.mpr ⟨(CodePoint.capital_spec hc).2.2.1,
      List.all_eq_true.mpr (List.forall_mem_cons.mp hparts).2⟩

end Component

/-! ## What a source calls its component -/

/-- What stands between the first place of an opening and the next place of a closing. -/
def Text.between? (opening closing s : Text) : Option Text :=
  (cut opening s).bind fun (_,rest) => (cut closing rest).map Prod.fst

theorem Text.between?_eq {opening closing before inner : Text} (hbefore : Clear opening before)
    (hinner : Clear closing inner) (rest : Text) :
    between? opening closing (before ++ (opening ++ (inner ++ (closing ++ rest)))) =
      some inner := by
  rw [between?,cut_clear hbefore,cut_self]
  change (cut closing (inner ++ (closing ++ rest))).map Prod.fst = _
  rw [cut_clear hinner,cut_self]
  exact congrArg some (List.append_nil inner)

namespace Framework
variable {f : Framework} {name name' styles source source' : Text}

def elementOpening : Text := "<div class=\""

/-- The class of the element in a source. -/
def elementClass? (source : Text) : Option Text := Text.between? elementOpening "\"" source

/-- The class that the styles in a source are for. -/
def ruleClass? (f : Framework) (source : Text) : Option Text :=
  (Text.cut f.marker source).bind fun (_,rest) => Text.between? "." " \x7b" rest

def selectorOpening : Text := "selector: '"

/-- The selector of the component in a source. -/
def selector? (source : Text) : Option Text := Text.between? selectorOpening "'" source

/-- A source has a name for its component as the class of the element, as the class that the styles
are for, and in the selector. -/
structure Calls (f : Framework) (source called : Text) : Prop where
  element : elementClass? source = some called
  rule : f.ruleClass? source = some called
  selector : f = .angular → selector? source = some (Text.ofString "app-" ++ called)

/-- Two sources have one of the classes or the selector in common. -/
def Shares (f : Framework) (source source' : Text) : Prop :=
  elementClass? source = elementClass? source' ∨ f.ruleClass? source = f.ruleClass? source' ∨
    f = .angular ∧ selector? source = selector? source'

section Reading
variable {opening closing inner : Text} {line : List Text} {parts more : List (List Text)}

theorem clear_lines (hnewline : Text.Clear opening [.char '\n'])
    (h : ∀ line ∈ parts, ∀ part ∈ line, Text.Clear opening part) :
    Text.Clear opening (parts.flatMap fun line => line.flatten ++ [.char '\n']) := by
  refine Text.clear_flatten fun s hs => ?_
  obtain ⟨line,hline,rfl⟩ := List.mem_map.mp hs
  exact (Text.clear_flatten (h line hline)).append hnewline

/-- Every line before another ends with a newline. -/
theorem lines_append (front : List (List Text)) (line : List Text) (more : List (List Text)) :
    ∃ rest, lines (front ++ line :: more) =
      (front.flatMap fun line => line.flatten ++ [.char '\n']) ++ (line.flatten ++ rest) := by
  induction front with
  | nil => exact Text.joinWith_starts _ _ _
  | cons first front ih =>
    obtain ⟨rest,hrest⟩ := ih
    refine ⟨rest,?_⟩
    rw [List.cons_append,lines_cons (by simp),hrest,List.flatMap_cons]
    simp

/-- What a line has between an opening and a closing, where no line before has the opening. -/
theorem between?_lines (front : List (List Text)) (lead tail : Text)
    (hparts : parts = front ++ line :: more)
    (hline : line.flatten = lead ++ (opening ++ (inner ++ (closing ++ tail))))
    (hfront : ∀ line ∈ front, ∀ part ∈ line, Text.Clear opening part)
    (hnewline : Text.Clear opening [.char '\n']) (hlead : Text.Clear opening lead)
    (hinner : Text.Clear closing inner) (rest : Text) :
    Text.between? opening closing (lines parts ++ rest) = some inner := by
  obtain ⟨behind,hbehind⟩ := lines_append front line more
  have hread := Text.between?_eq ((clear_lines hnewline hfront).append hlead) hinner
    (tail ++ (behind ++ rest))
  rw [hparts,hbehind,hline]
  simpa only [List.append_assoc] using hread

end Reading

/-- An accepted name has nothing in it that opens or closes something. -/
theorem clear_of_isWordy {c : CodePoint} {part s : Text} (hc : ¬ c.IsWordy)
    (h : ∀ d ∈ s, d.IsWordy) :
    Text.Clear (c :: part) s := Text.clear_of_not_mem fun hmem => hc (h c hmem)

theorem elementClass?_opening (hf : f ≠ .react) (hname : ∀ c ∈ name, c.IsWordy) (rest : Text) :
    elementClass? (f.opening name ++ rest) = some (Component.kebab name) := by
  have hkebab := Component.isWordy_kebab hname
  have hplain : Text.Clear elementOpening name := clear_of_isWordy (by decide) hname
  have hlowered : Text.Clear elementOpening (Component.kebab name) :=
    clear_of_isWordy (by decide) hkebab
  have hinner : Text.Clear "\"" (Component.kebab name) := clear_of_isWordy (by decide) hkebab
  cases f with
  | react => exact absurd rfl hf
  | vue =>
    exact between?_lines [[],["<template>"]] "  " ">" rfl rfl (by decide) (by decide) (by decide)
      hinner rest
  | svelte =>
    refine between?_lines [[],["<!-- ",name,".svelte -->"]] "" ">" rfl rfl ?_
      (by decide) (by decide)
      hinner rest
    simp only [List.forall_mem_cons]
    exact ⟨List.forall_mem_nil _,⟨by decide,hplain,by decide,List.forall_mem_nil _⟩,
      List.forall_mem_nil _⟩
  | angular =>
    refine between?_lines [[],["import \x7b Component \x7d from '@angular/core';"],[],
      ["@Component(\x7b"],["  selector: 'app-",Component.kebab name,"',"],["  template: \x60"]]
      "    " ">" rfl rfl ?_ (by decide) (by decide) hinner rest
    simp only [List.forall_mem_cons]
    exact ⟨List.forall_mem_nil _,⟨by decide,List.forall_mem_nil _⟩,List.forall_mem_nil _,
      ⟨by decide,List.forall_mem_nil _⟩,⟨by decide,hlowered,by decide,List.forall_mem_nil _⟩,
      ⟨by decide,List.forall_mem_nil _⟩,List.forall_mem_nil _⟩

theorem ruleClass?_opening (hf : f ≠ .react) (hname : ∀ c ∈ name, c.IsWordy) (rest : Text) :
    f.ruleClass? (f.opening name ++ rest) = some (Component.kebab name) := by
  have hinner : Text.Clear " \x7b" (Component.kebab name) :=
    clear_of_isWordy (by decide) (Component.isWordy_kebab hname)
  obtain ⟨passed,hcut⟩ := f.cut_opening hname rest
  rw [ruleClass?,hcut]
  change Text.between? _ _ (f.leading name ++ rest) = _
  cases f with
  | react => exact absurd rfl hf
  | vue => exact between?_lines [[]] "" "" rfl rfl (by decide) (by decide) (by decide) hinner rest
  | svelte =>
    exact between?_lines [[]] "  " "" rfl rfl (by decide) (by decide) (by decide) hinner rest
  | angular =>
    exact between?_lines [[]] "    " "" rfl rfl (by decide) (by decide) (by decide) hinner rest

theorem selector?_opening (hname : ∀ c ∈ name, c.IsWordy) (rest : Text) :
    selector? (opening .angular name ++ rest) =
      some (Text.ofString "app-" ++ Component.kebab name) := by
  have hinner : Text.Clear "'" (Text.ofString "app-" ++ Component.kebab name) :=
    Text.Clear.append (by decide) (clear_of_isWordy (by decide) (Component.isWordy_kebab hname))
  exact between?_lines
    [[],["import \x7b Component \x7d from '@angular/core';"],[],["@Component(\x7b"]] "  " ","
    rfl rfl (by decide) (by decide) (by decide) hinner rest

/-- A source calls its component by the name in kebab case. -/
theorem component_calls (hf : f ≠ .react) (hname : Text.isIdentifier name = true) (styles : Text) :
    f.Calls (f.component name styles) (Component.kebab name) := by
  have hwordy := Text.isWordy_of_isIdentifier hname
  rw [component,List.append_assoc]
  refine ⟨elementClass?_opening hf hwordy _,ruleClass?_opening hf hwordy _,?_⟩
  rintro rfl
  exact selector?_opening hwordy _

/-- What two sources have in common their names have in common, in kebab case. -/
theorem Calls.eq_of_shares {called called' : Text} (h : f.Calls source called)
    (h' : f.Calls source' called') (hshares : f.Shares source source') : called = called' := by
  rcases hshares with helement | hrule | ⟨rfl,hselector⟩
  · rw [h.element,h'.element] at helement
    exact Option.some.inj helement
  · rw [h.rule,h'.rule] at hrule
    exact Option.some.inj hrule
  · rw [h.selector rfl,h'.selector rfl] at hselector
    exact List.append_cancel_left (Option.some.inj hselector)

end Framework

namespace Component
open Framework

/-- In kebab case a name has its words with hyphens between them. So no two names in Pascal case
have a class or a selector in common in the sources of their components. What is left of a name of
ASCII has neither capitals nor low lines, and stays as it is. -/
theorem kebab_words :
    (∀ words : List Text, words ≠ [] → (∀ word ∈ words, IsWord word) →
      kebab (pascal words) = Text.joinWith [.char '-'] words) ∧
    (∀ f : Framework, f ≠ .react → ∀ name name', IsPascal name → IsPascal name' → ∀ styles styles',
      ∃ source source', frameworkComponent styles f.name name = .ok source ∧
        frameworkComponent styles' f.name name' = .ok source' ∧
        f.Calls source (kebab name) ∧ f.Calls source' (kebab name') ∧
        (f.Shares source source' → name = name')) ∧
    ∀ s : Text, (∀ c ∈ s, c.val < 0x80) →
      (∀ c ∈ kebab s, c.isUpper = false ∧ c ≠ .char '_') ∧ kebab (kebab s) = kebab s := by
  refine ⟨fun words hne hwords => kebab_pascal hne hwords,
    fun f hf name name' hname hname' styles styles' => ?_,fun s hs => ?_⟩
  · have hcalls := component_calls hf hname.isIdentifier styles
    have hcalls' := component_calls hf hname'.isIdentifier styles'
    exact ⟨_,_,frameworkComponent_of_isIdentifier hname.isIdentifier f styles,
      frameworkComponent_of_isIdentifier hname'.isIdentifier f styles',hcalls,hcalls',
      fun hshares => hname.eq_of_kebab hname' (hcalls.eq_of_shares hcalls' hshares)⟩
  · have hsettled := settled_of_mem_kebab hs
    exact ⟨fun c hc => ⟨(hsettled c hc).notUpper,(hsettled c hc).notLowLine⟩,kebab_settled hsettled⟩

theorem kebab_words_userCard :
    kebab "UserCard2" = "user-card2" ∧
    (∃ source source', frameworkComponent "/* */" "angular" "UserCard2" = .ok source ∧
      frameworkComponent "" "angular" "Usercard2" = .ok source' ∧
      Calls .angular source "user-card2" ∧ ¬ Shares .angular source source') ∧
    kebab (kebab "User_Card") = kebab "User_Card" := by
  have huser : IsWord "user" := .intro (by decide) (by decide)
  have hcard : IsWord "card2" := .intro (by decide) (by decide)
  have husercard : IsWord "usercard2" := .intro (by decide) (by decide)
  obtain ⟨hkebab,hsources,hascii⟩ := kebab_words
  have hname : kebab "UserCard2" = "user-card2" := hkebab ["user","card2"] (by decide)
    (List.forall_mem_cons.mpr ⟨huser,List.forall_mem_singleton.mpr hcard⟩)
  obtain ⟨source,source',hsource,hsource',hcalls,-,hshares⟩ :=
    hsources .angular (by decide) "UserCard2"
    "Usercard2" ⟨["user","card2"],by decide,
      List.forall_mem_cons.mpr ⟨huser,List.forall_mem_singleton.mpr hcard⟩,by decide⟩
    ⟨["usercard2"],by decide,List.forall_mem_singleton.mpr husercard,by decide⟩ "/* */" ""
  refine ⟨hname,⟨source,source',hsource,hsource',hname ▸ hcalls,fun h => ?_⟩,
    (hascii _ (by decide)).2⟩
  exact absurd (hshares h) (by decide)

end Component
end StyleLift
