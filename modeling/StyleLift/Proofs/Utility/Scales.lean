import Mathlib.Data.List.Nodup
import StyleLift.Proofs.Utility.Lengths
import StyleLift.Proofs.Utility.Splitting

/-! # Classes by a scale

A class is named by a token of a scale or has its value in brackets, and no class is both. A length
that is measured is one component of a value, so what has more of them is on no scale.
-/
namespace StyleLift

namespace Scale
variable {κ : Type} [DecidableEq κ] {s : Scale κ} {key : κ} {token : Text}

omit [DecidableEq κ] in
def tokens (s : Scale κ) : List Text := s.entries.map Prod.snd

theorem mem_entries (h : s.lookup? key = some token) : (key,token) ∈ s.entries := by
  obtain ⟨before,after,hentries,-⟩ := List.lookup_eq_some_iff.mp h
  rw [hentries]
  exact List.mem_append_right before List.mem_cons_self

theorem mem_tokens (h : s.lookup? key = some token) : token ∈ s.tokens :=
  List.mem_map_of_mem (mem_entries h)

theorem lookup?_isSome : (s.lookup? key).isSome ↔ key ∈ s.keys := by
  rw [lookup?,List.lookup_isSome_iff,keys,List.mem_map]
  simp only [beq_iff_eq,@eq_comm _ key]

/-- A token that no other key has tells its key. -/
theorem lookup?_injective (h : s.tokens.Nodup) {other : κ} (hkey : s.lookup? key = some token)
    (hother : s.lookup? other = some token) : key = other :=
  congrArg Prod.fst (List.inj_on_of_nodup_map h (mem_entries hkey) (mem_entries hother) rfl)

end Scale

/-- The tokens that classes are named by. -/
def scaleTokens : List Text :=
  spacingScale.tokens ++ typeScale.tokens ++ colorScale.tokens ++ fontWeightScale.tokens ++
    displayScale.tokens

/-- A class that is named by a token, with a stem and a hyphen before it or alone. -/
def Named (c : Text) : Prop :=
  ∃ token ∈ scaleTokens, c = token ∨ ∃ stem, c = stem ++ .char '-' :: token

def Bracketed (c : Text) : Prop := ∃ stem value, c = arbitraryClass stem value

theorem Named.not_bracketed {c : Text} (h : Named c) : ¬ Bracketed c := by
  have htokens : ∀ token ∈ scaleTokens, token ≠ [] ∧ token.getLast? ≠ some (.char ']') := by decide
  obtain ⟨token,htoken,hc⟩ := h
  obtain ⟨hne,hlast⟩ := htokens token htoken
  have hends : c.getLast? = token.getLast? := by
    rcases hc with rfl | ⟨stem,rfl⟩
    · rfl
    · rw [List.getLast?_append_of_ne_nil _ (List.cons_ne_nil _ _)]
      obtain ⟨d,rest,rfl⟩ := List.exists_cons_of_ne_nil hne
      exact List.getLast?_cons_cons
  rintro ⟨stem,value,rfl⟩
  rw [arbitraryClass,List.getLast?_concat] at hends
  exact hlast hends.symm

theorem arbitraryClass_injective {stem v w : Text}
    (h : arbitraryClass stem v = arbitraryClass stem w) : v = w := by
  rw [arbitraryClass,arbitraryClass] at h
  exact List.append_cancel_left (List.append_cancel_right h)

/-! ## Lengths -/

section Lengths
open Shorthand
variable {value stem c : Text} {scale : Scale Int} {n : Int}

/-- A value is a whole number of pixels that a scale has. -/
def OnScale (scale : Scale Int) (value : Text) (n : Int) : Prop :=
  n ∈ scale.keys ∧ pixels? value = .ok (some n)

theorem splitValues_of_pixelLength {count : Nat} (hcount : 0 < count)
    (h : PixelLength count value) :
    ∃ length, splitValues value = [length] := by
  obtain ⟨before,sign,digits,unit,after,rfl,hb,hsign,hd,rfl,hu,ha⟩ := h
  obtain ⟨p,x,rfl,-,hunit⟩ := eq_unit hu
  have hsigned : ∀ c ∈ sign, c.isBlank = false := by
    rcases hsign with rfl | rfl
    · simp
    · decide
  have hblank : ∀ c ∈ sign ++ (digits ++ [p,x]), c.isBlank = false := by
    refine List.forall_mem_append.mpr ⟨hsigned,List.forall_mem_append.mpr ⟨fun c hc => ?_,hunit⟩⟩
    exact CodePoint.not_isBlank_of_isDigit (hd c hc)
  have hpart := isPart_of_not_blank (by simp) hblank
  have hsplit := splitValues_spaced hpart.alone (.single _) hb ha
  simp only [List.append_assoc] at hsplit
  exact ⟨_,hsplit⟩

/-- What is more than one component, or none, is not measured. -/
theorem pixels?_of_split (h : (splitValues value).length ≠ 1) : pixels? value = .ok none := by
  have hsingle : ∀ {count}, 0 < count → ¬ PixelLength count value := fun hcount hlength => by
    obtain ⟨length,hsplit⟩ := splitValues_of_pixelLength hcount hlength
    exact h (by rw [hsplit]; rfl)
  cases hvalue : pixels? value with
  | error e =>
    obtain ⟨count,hlong,hlength,-⟩ := pixels?_eq_error.mp hvalue
    exact (hsingle (Nat.zero_lt_of_lt hlong) hlength).elim
  | ok found =>
    cases found with
    | none => rfl
    | some n =>
      obtain ⟨count,hcount,hlength⟩ := pixelLength_of_pixels? hvalue
      exact (hsingle hcount hlength).elim

theorem pixels?_of_other (h : ¬ Positional value) : pixels? value.trim = .ok none := by
  refine pixels?_of_split fun hone => h ?_
  rw [splitValues_trim] at hone
  rw [Positional,hone]
  exact List.mem_cons_self

/-- The class that a scale has for a length. -/
def stepClass? (scale : Scale Int) (stem value : Text) : Option Text :=
  match pixels? value with
  | .ok measured => (measured.bind scale.lookup?).map fun step => stem ++ .char '-' :: step
  | .error _ => none

theorem stepClass?_eq_some : stepClass? scale stem value = some c ↔
    ∃ n step, pixels? value = .ok (some n) ∧ scale.lookup? n = some step ∧
      stem ++ .char '-' :: step = c := by
  rw [stepClass?]
  cases pixels? value with
  | error e => simp
  | ok measured => cases measured <;> simp

theorem stepClass?_eq_none : stepClass? scale stem value = none ↔ ∀ n, ¬ OnScale scale value n := by
  rw [Option.eq_none_iff_forall_ne_some]
  constructor
  · rintro h n ⟨hkey,hn⟩
    obtain ⟨step,hstep⟩ := Option.isSome_iff_exists.mp (Scale.lookup?_isSome.mpr hkey)
    exact h _ (stepClass?_eq_some.mpr ⟨n,step,hn,hstep,rfl⟩)
  · intro h c hc
    obtain ⟨n,step,hn,hstep,-⟩ := stepClass?_eq_some.mp hc
    exact h n ⟨Scale.lookup?_isSome.mp (Option.isSome_of_eq_some hstep),hn⟩

/-- The class for a length: its step on a scale, or the length in brackets. -/
def lengthClass (scale : Scale Int) (stem value : Text) : Text :=
  (stepClass? scale stem value).getD (arbitraryClass stem value)

/-- A class is found by measuring a value and looking the length up. -/
theorem eq_lengthClass (h : (do
      match (← pixels? value).bind scale.lookup? with
      | some step => return stem ++ [.char '-'] ++ step
      | none => return arbitraryClass stem value : Except NumeralError Text) = .ok c) :
    c = lengthClass scale stem value := by
  obtain ⟨measured,hm,h⟩ := bind_eq_ok.mp h
  rw [lengthClass,stepClass?,hm]
  dsimp only at h ⊢
  cases hstep : measured.bind scale.lookup? with
  | none =>
    rw [hstep] at h
    cases h
    rfl
  | some step =>
    rw [hstep] at h
    cases h
    simp

theorem spacingClass_eq_ok (h : spacingClass value stem = .ok c) :
    c = lengthClass spacingScale stem value := eq_lengthClass h

theorem fontSizeClass_eq_ok (h : fontSizeClass value = .ok c) :
    c = lengthClass typeScale "text" value := eq_lengthClass h

end Lengths

/-! ## The classes of a property -/

/-- The classes for a value that has no length with too many digits. -/
def Utility.classes (property value : Text) : Utility → List Text
  | .color stem => [(color? value stem).getD (arbitraryClass stem value)]
  | .box stem => (Shorthand.partsOf stem value).map fun part =>
      lengthClass spacingScale part.stem part.value
  | .side stem => [lengthClass spacingScale stem value]
  | .fontSize => [lengthClass typeScale "text" value]
  | .fontWeight => [(fontWeight? value).getD (arbitraryClass "font" value)]
  | .display => [(display? value).getD (arbitraryClass property value)]
  | .other => [arbitraryClass property value]

theorem classesOf_eq_ok {property value : Text} {cs : List Text}
    (h : classesOf property value = .ok cs) : cs = (utilityOf property).classes property value := by
  unfold classesOf at h
  split at h <;> rename_i hu <;> rw [hu,Utility.classes]
  · exact (Except.ok.inj h).symm
  · symm
    rw [← List.forall₂_eq_eq_eq,List.forall₂_map_left_iff]
    exact (mapM_eq_ok.mp h).imp fun part c hc => (spacingClass_eq_ok hc).symm
  · obtain ⟨c,hc,rfl⟩ := map_eq_ok.mp h
    rw [spacingClass_eq_ok hc]
  · obtain ⟨c,hc,rfl⟩ := map_eq_ok.mp h
    rw [fontSizeClass_eq_ok hc]
  · exact (Except.ok.inj h).symm
  · exact (Except.ok.inj h).symm
  · exact (Except.ok.inj h).symm

end StyleLift
