import StyleLift.Proofs.Css.PlainDeclarations
import StyleLift.Proofs.Css.Recovery

/-! # Selectors that a body may hold

A selector that starts with an ampersand or a class, with more classes and states behind it or
below it, is read up to the block after it. It may stand before a rule inside a body whatever its
names are.
-/
namespace StyleLift.Css

theorem continues_bare (t : Token) : t.bare.continues = t.continues := by
  simp [Token.continues]

namespace Written

/-- A class or a state, right behind what it narrows or below it. -/
structure Part where
  below : Bool
  state : Bool
  name : Name

/-- The rule around, or a class if there is one, narrowed by some parts. -/
structure Compound where
  start : Option Name
  parts : List Part

namespace Part

variable (p : Part)

def mark : CodePoint := if p.state then .char ':' else .char '.'

def text : Text := (if p.below then [.char ' '] else []) ++ p.mark :: p.name.text

def tokens : List Token :=
  (if p.below then [space] else []) ++ [Written.mark p.mark,.leaf [] (.ident p.name.text)]

theorem run_mark {rest : Text} (h : endsName rest = true) :
    Run (p.mark :: (p.name.text ++ rest))
      [.leaf (.literal [p.mark]),.leaf (.ident p.name.text)] rest := by
  have hname := p.name.run h
  unfold mark
  split
  · exact .of_next (next_mark rfl _) hname
  · exact .of_next (next_point (p.name.startsIdent_append rest)) hname

theorem run {rest : Text} (h : endsName rest = true) :
    Run (p.text ++ rest) (flatAll p.tokens) rest := by
  have hmark := p.run_mark h
  have hspace : isSpace p.mark = false := by
    unfold mark
    split <;> rfl
  unfold text tokens
  split
  · refine (run_space fun c hc => ?_).trans hmark
    cases hc
    exact hspace
  · exact hmark

theorem endsName_append (rest : Text) : endsName (p.text ++ rest) = true := by
  unfold text mark
  split <;> split <;> rfl

theorem isSettled_of_mem : ∀ c ∈ p.text, isSettled c = true := by
  intro c hc
  simp only [text,List.mem_append,List.mem_cons] at hc
  obtain hc | rfl | hc := hc
  · split at hc
    · obtain rfl := List.mem_singleton.mp hc
      rfl
    · cases hc
  · unfold mark
    split <;> rfl
  · exact isSettled_of_isNamePart (p.name.isNamePart_of_mem c hc)

theorem readable : Readable p.tokens := by
  unfold tokens
  split <;> simp [space,readable_mark,Leaf.digitCount]

theorem continues : ∀ t ∈ p.tokens, t.continues = true := by
  intro t ht
  simp only [tokens,List.mem_append,List.mem_cons,List.not_mem_nil,or_false] at ht
  obtain ht | rfl | rfl := ht
  · split at ht
    · obtain rfl := List.mem_singleton.mp ht
      rfl
    · cases ht
  · unfold mark
    split <;> decide
  · rfl

end Part

theorem run_parts (parts : List Part) {rest : Text} (h : endsName rest = true) :
    endsName (parts.flatMap Part.text ++ rest) = true ∧
      Run (parts.flatMap Part.text ++ rest) (flatAll (parts.flatMap Part.tokens)) rest := by
  induction parts with
  | nil => exact ⟨h,.stop rest⟩
  | cons p parts ih =>
    obtain ⟨hends,hrun⟩ := ih
    rw [List.flatMap_cons,List.flatMap_cons,List.append_assoc,flatAll_append]
    exact ⟨p.endsName_append _,(p.run hends).trans hrun⟩

/-- An ampersand is a mark of its own. -/
theorem run_ampersand (rest : Text) :
    Run (.char '&' :: rest) [.leaf (.literal "&")] rest := by
  have hnext : next (.char '&') rest = (some (.leaf (.literal "&")),rest) := by
    rw [next_eq_nextMark rfl (startsUnicodeRange_of_ne (by decide) (by decide) rest) rfl rfl
      (by decide)]
    exact nextMark_alone (by decide) rfl rest
  exact .of_next hnext (.stop rest)

namespace Compound

variable (c : Compound)

def startText : Text := c.start.elim [.char '&'] fun n => .char '.' :: n.text

def startTokens : List Token := c.start.elim [Written.mark '&'] classTokens

def text : Text := c.startText ++ c.parts.flatMap Part.text

def tokens : List Token := c.startTokens ++ c.parts.flatMap Part.tokens

theorem run {rest : Text} (h : endsName rest = true) :
    Run (c.text ++ rest) (flatAll c.tokens) rest := by
  obtain ⟨hends,hparts⟩ := run_parts c.parts h
  rw [text,tokens,List.append_assoc,flatAll_append]
  refine .trans ?_ hparts
  unfold startText startTokens
  cases c.start with
  | none => exact run_ampersand _
  | some n => exact .of_next (next_point (n.startsIdent_append _)) (n.run hends)

theorem preprocess_text : preprocess c.text = c.text := by
  have hstart : ∀ d ∈ c.startText, isSettled d = true := by
    intro d hd
    unfold startText at hd
    cases hs : c.start with
    | none =>
      rw [hs] at hd
      obtain rfl := List.mem_singleton.mp hd
      rfl
    | some n =>
      rw [hs] at hd
      rcases List.mem_cons.mp hd with rfl | hd
      · rfl
      · exact isSettled_of_isNamePart (n.isNamePart_of_mem d hd)
  have hsettled : ∀ d ∈ c.text, isSettled d = true := by
    intro d hd
    rcases List.mem_append.mp hd with hd | hd
    · exact hstart d hd
    · obtain ⟨p,-,hd⟩ := List.mem_flatMap.mp hd
      exact p.isSettled_of_mem d hd
  have h := preprocess_settled_append hsettled []
  rwa [List.append_nil,preprocess,List.append_nil] at h

theorem readable : Readable c.tokens := by
  have hstart : Readable c.startTokens := by
    unfold startTokens
    cases c.start <;> simp [classTokens,readable_mark,Leaf.digitCount]
  exact readable_append.mpr ⟨hstart,readable_flatMap Part.readable c.parts⟩

theorem stands : Stands false c.text c.tokens where
  ended after ha := by
    rw [c.preprocess_text]
    refine ⟨after,.inl rfl,c.run ?_⟩
    cases ha with
    | semicolon rest => rfl
    | opening rest => rfl
    | close hblank rest => cases hblank
  fits := c.readable.2 _
  numbers := c.readable.1

theorem continues : ∀ t ∈ c.tokens, t.continues = true := by
  intro t ht
  rcases List.mem_append.mp ht with ht | ht
  · unfold startTokens at ht
    cases hs : c.start with
    | none =>
      rw [hs] at ht
      obtain rfl := List.mem_singleton.mp ht
      decide
    | some n =>
      rw [hs] at ht
      exact continues_class n t ht
  · obtain ⟨p,-,ht⟩ := List.mem_flatMap.mp ht
    exact p.continues t ht

/-- A compound may stand before a rule inside a body. -/
def nested : NestedSelector where
  text := c.text
  starts := by
    unfold text startText
    cases c.start with
    | none => exact .inr rfl
    | some n => exact .inl rfl
  reads := by
    obtain ⟨m,before,htokens,hbefore⟩ := c.stands.tokens_blockText
    refine ⟨m,before,htokens,fun t ht => ?_⟩
    have hbare : t.bare ∈ c.tokens.map Token.bare := hbefore ▸ List.mem_map_of_mem ht
    obtain ⟨u,hu,he⟩ := List.mem_map.mp hbare
    rw [← continues_bare t,← he,continues_bare]
    exact c.continues u hu

example : (Compound.nested ⟨none,[⟨false,false,⟨"on",by decide,by decide⟩⟩,
    ⟨true,true,⟨"hover",by decide,by decide⟩⟩]⟩).text = "&.on :hover" := by decide

end Compound

end Written

end StyleLift.Css
