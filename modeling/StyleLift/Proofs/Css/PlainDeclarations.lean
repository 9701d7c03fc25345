import StyleLift.Proofs.Css.Legible

/-! # Plain declarations

One name declared by another is legible: its text is read as the same tokens before anything that
ends a name.
-/
namespace StyleLift

namespace Css.Written

/-- The tokens of one name declared by another, and the blank before them. -/
def plainTokens (property value : Name) : List Token :=
  [space,.leaf [] (.ident property.text),mark ':',space,.leaf [] (.ident value.text)]

/-- The text of one name declared by another, and the blank before it. -/
def plainText (property value : Name) : Text :=
  .char ' ' :: (property.text ++ .char ':' :: .char ' ' :: value.text)

theorem Name.not_isSpace_head (n : Name) (rest : Text) :
    ∀ c ∈ (n.text ++ rest).head?, isSpace c = false := by
  obtain ⟨c,tail,h⟩ := List.exists_cons_of_ne_nil n.ne_nil
  intro d hd
  rw [h] at hd
  cases hd
  exact not_isSpace_of_isNamePart (n.isNamePart_of_mem c (by simp [h]))

theorem Name.run (n : Name) {rest : Text} (h : endsName rest = true) :
    Run (n.text ++ rest) [.leaf (.ident n.text)] rest := by
  have hpart := n.isNamePart_of_mem
  have hstarts := n.startsIdent_append rest
  obtain ⟨c,tail,ht⟩ := List.exists_cons_of_ne_nil n.ne_nil
  rw [ht] at hpart hstarts ⊢
  exact .of_next (next_ident hpart hstarts h) (.stop rest)

theorem run_space {rest : Text} (h : ∀ c ∈ rest.head?, isSpace c = false) :
    Run (.char ' ' :: rest) [.leaf (.whitespace " ")] rest := by
  have hnext : next (.char ' ') ([] ++ rest) = _ := next_blank (by decide) h
  exact .of_next hnext (.stop rest)

theorem run_plainText (property value : Name) {rest : Text} (h : endsName rest = true) :
    Run (plainText property value ++ rest) (flatAll (plainTokens property value)) rest := by
  have hvalue := (run_space (value.not_isSpace_head rest)).trans (value.run h)
  have hcolon : Run (.char ':' :: .char ' ' :: (value.text ++ rest)) _ rest :=
    .of_next (next_mark rfl _) hvalue
  have hproperty := (run_space (property.not_isSpace_head _)).trans
    ((property.run rfl).trans hcolon)
  have htext : plainText property value ++ rest =
      .char ' ' :: (property.text ++ .char ':' :: .char ' ' :: (value.text ++ rest)) := by
    simp [plainText]
  rw [htext]
  exact hproperty

theorem preprocess_plainText (property value : Name) :
    preprocess (plainText property value) = plainText property value := by
  have hsettled : ∀ c ∈ plainText property value, isSettled c = true := by
    intro c hc
    simp only [plainText,List.mem_cons,List.mem_append] at hc
    obtain rfl | hc | rfl | rfl | hc := hc
    · decide
    · exact isSettled_of_isNamePart (property.isNamePart_of_mem c hc)
    · decide
    · decide
    · exact isSettled_of_isNamePart (value.isNamePart_of_mem c hc)
  have h := preprocess_settled_append hsettled []
  rwa [List.append_nil,preprocess,List.append_nil] at h

theorem declarations_plain (property value : Name) :
    Css.declarations (plainTokens property value) =
      [⟨propertyName property.text,value.text,false⟩] := by
  have h := declarations_entry ⟨property,.name value,[],false⟩ ⟨[],by simp⟩
    (show (takeUnit []).1 = [] from rfl)
  have hvalue : Entry.value ⟨property,.name value,[],false⟩ = value.text := spaced_nil _
  rw [Entry.declaration,hvalue,takeUnit] at h
  have hnone : Css.declarations [] = [] := by simp [Css.declarations]
  rw [hnone] at h
  rw [plainTokens,declarations_parts rfl]
  exact h

end Css.Written

open Css Css.Written

/-- A declaration of one name by another. -/
def Declaration.Plain (d : Declaration) : Prop :=
  ∃ property value : Name, propertyName property.text = property.text ∧
    d = ⟨property.text,value.text,false⟩

theorem Declaration.Plain.legible {d : Declaration} (h : d.Plain) : d.Legible := by
  obtain ⟨property,value,hproperty,rfl⟩ := h
  have htext : .char ' ' :: Declaration.toCss ⟨property.text,value.text,false⟩ =
      plainText property value := by
    simp [Declaration.toCss,plainText,Text.ofString]
  refine Declaration.legible_iff.mpr ⟨plainTokens property value,⟨?_,rfl,?_⟩,?_⟩
  · rw [htext,preprocess_plainText]
    intro after ha
    refine ⟨after,.inl rfl,run_plainText property value ?_⟩
    cases ha <;> rfl
  · intro l hl
    simp only [plainTokens,flatAll,space,mark,Token.flat,List.singleton_append,List.append_nil,
      List.mem_cons,List.not_mem_nil,or_false] at hl
    obtain rfl | rfl | rfl | rfl | rfl := hl <;> exact Nat.zero_le _
  · rw [declarations_plain,hproperty]

end StyleLift
