import Mathlib.Data.List.TakeWhile
import StyleLift.Proofs.Number.Limits
import StyleLift.Proofs.Text.Blanks
import StyleLift.Proofs.Text.Order
import StyleLift.Utility.Candidate

/-! # Lengths that are not measured

A whole number of pixels is measured if it has few enough digits, and what is none is left as it is.
So the candidates of a rule are found just if none of the lengths that its classes go by has too
many digits.
-/
namespace StyleLift

/-! ## The unit -/

/-- A code point is its own lowercase form, or a capital letter. -/
theorem CodePoint.asciiLower_cases (c : CodePoint) :
    c.asciiLower = c ∨
      0x41 ≤ c.val ∧ c.val ≤ 0x5A ∧ c.asciiLower.val = c.val + 0x20 := by
  cases c with
  | surrogate low => exact .inl rfl
  | char d =>
    by_cases h : 'A' ≤ d ∧ d ≤ 'Z'
    · have hlow : 0x41 ≤ d.toNat := h.1
      have hhigh : d.toNat ≤ 0x5A := h.2
      have hval : (Char.ofNat (d.toNat + 0x20)).toNat = d.toNat + 0x20 := by
        have hvalid : (d.toNat + 0x20).isValidChar := .inl (by omega)
        rw [Char.ofNat,dif_pos hvalid]
        rfl
      refine .inr ⟨hlow,hhigh,?_⟩
      rw [asciiLower,if_pos h]
      exact hval
    · left
      rw [asciiLower,if_neg h]

/-- What has a small letter as its lowercase form is the letter, small or capital. -/
theorem CodePoint.letter_cases {c : CodePoint} (capital : Char) {small : Char}
    (hcase : capital.toNat + 0x20 = small.toNat) (h : c.asciiLower = .char small) :
    c = .char small ∨ c = .char capital := by
  rcases c.asciiLower_cases with hself | ⟨-,-,hval⟩
  · exact .inl (hself.symm.trans h)
  · right
    rw [h] at hval
    apply CodePoint.val_injective
    exact Nat.add_right_cancel (hval.symm.trans hcase.symm)

/-- The unit in any letter case. -/
def pixelUnits : List Text := ["px","pX","Px","PX"]

theorem mem_pixelUnits {unit : Text} :
    unit ∈ pixelUnits ↔ unit.asciiLower = ("px" : Text) := by
  constructor
  · have hall : ∀ unit ∈ pixelUnits, unit.asciiLower = ("px" : Text) := by decide
    exact hall unit
  · intro h
    match unit, h with
    | [p,x], h =>
      obtain ⟨hp,hx⟩ : p.asciiLower = .char 'p' ∧ x.asciiLower = .char 'x' := by
        simpa [Text.asciiLower,Text.ofString] using h
      rcases CodePoint.letter_cases 'P' rfl hp with rfl | rfl <;>
        rcases CodePoint.letter_cases 'X' rfl hx with rfl | rfl <;> decide
    | [], h => simp [Text.asciiLower,Text.ofString] at h
    | [_], h => simp [Text.asciiLower,Text.ofString] at h
    | _ :: _ :: _ :: _, h => simp [Text.asciiLower,Text.ofString] at h

/-- The letters of the unit are neither digits nor blanks. -/
theorem eq_unit {unit : Text} (h : unit.asciiLower = ("px" : Text)) :
    ∃ p x, unit = [p,x] ∧ p.isDigit = false ∧ ∀ c ∈ unit, c.isBlank = false := by
  have hunit := mem_pixelUnits.mpr h
  simp only [pixelUnits,List.mem_cons,List.not_mem_nil,or_false] at hunit
  rcases hunit with rfl | rfl | rfl | rfl
  all_goals exact ⟨_,_,rfl,rfl,by decide⟩

/-! ## Pixels -/

/-- A whole number of pixels, written with `count` digits. -/
def PixelLength (count : Nat) (value : Text) : Prop :=
  ∃ before sign digits unit after : Text, value = before ++ (sign ++ (digits ++ (unit ++ after))) ∧
    (∀ c ∈ before, c.isBlank = true) ∧ (sign = [] ∨ sign = [.char '-']) ∧
    (∀ c ∈ digits, c.isDigit = true) ∧ digits.length = count ∧
    unit.asciiLower = ("px" : Text) ∧ ∀ c ∈ after, c.isBlank = true

/-- The sign of a number, if any, and what comes after it. -/
def unsign : Text → Bool × Text
  | .char '-' :: rest => (true,rest)
  | s => (false,s)

theorem unsign_spec (s : Text) :
    ∃ sign, (sign = [] ∨ sign = [.char '-']) ∧ s = sign ++ (unsign s).2 := by
  unfold unsign
  split
  · exact ⟨_,.inr rfl,rfl⟩
  · exact ⟨_,.inl rfl,rfl⟩

theorem unsign_of_ne {c : CodePoint} (h : c ≠ .char '-') (s : Text) :
    unsign (c :: s) = (false,c :: s) := by
  unfold unsign
  split
  · next heq => exact absurd (List.cons.inj heq).1 h
  · rfl

theorem pixels?_eq (value : Text) : pixels? value =
    let unsigned := (unsign value.trimStart).2
    let digits := unsigned.takeWhile CodePoint.isDigit
    if digits.isEmpty || !isPixelUnit (unsigned.drop digits.length) then .ok none
    else (Numeral.checkDigits digits.length).map fun () =>
      some (if (unsign value.trimStart).1 then -(Text.decimalValue digits : Int)
        else Text.decimalValue digits) := by
  unfold pixels?
  split
  next h =>
    have hs : unsign value.trimStart = _ := h
    rw [hs]

theorem isPixelUnit_iff {s : Text} : isPixelUnit s = true ↔ ∃ unit after : Text,
    s = unit ++ after ∧ unit.asciiLower = ("px" : Text) ∧ ∀ c ∈ after, c.isBlank = true := by
  constructor
  · intro h
    refine ⟨Text.trimEnd s,(s.reverse.takeWhile CodePoint.isBlank).reverse,?_,eq_of_beq h,?_⟩
    · rw [Text.trimEnd,← List.reverse_append,List.takeWhile_append_dropWhile,List.reverse_reverse]
    · intro c hc
      exact List.mem_takeWhile_imp (List.mem_reverse.mp hc)
  · rintro ⟨unit,after,rfl,hu,ha⟩
    obtain ⟨p,x,rfl,-,hblank⟩ := eq_unit hu
    have hlast : ∀ c ∈ [p,x].getLast?, c.isBlank = false := by
      rintro c ⟨⟩
      exact hblank x (by simp)
    rw [isPixelUnit,Text.trimEnd_append ha,Text.trimEnd_eq_self hlast,hu]
    exact beq_self_eq_true _

/-- The digits that are followed by the unit are a whole number of pixels. -/
theorem pixelLength_of_unit {value : Text}
    (hunit : isPixelUnit ((unsign value.trimStart).2.drop
      ((unsign value.trimStart).2.takeWhile CodePoint.isDigit).length) = true) :
    PixelLength ((unsign value.trimStart).2.takeWhile CodePoint.isDigit).length value := by
  obtain ⟨sign,hsign,hs⟩ := unsign_spec value.trimStart
  obtain ⟨unit,after,hrest,hu,ha⟩ := isPixelUnit_iff.mp hunit
  refine ⟨value.takeWhile CodePoint.isBlank,sign,_,unit,after,?_,
    fun c hc => List.mem_takeWhile_imp hc,hsign,fun c hc => List.mem_takeWhile_imp hc,rfl,hu,ha⟩
  rw [← hrest,List.prefix_iff_eq_append.mp (List.takeWhile_prefix _),← hs]
  exact List.takeWhile_append_dropWhile.symm

/-- The sign is told by what comes before the first digit. -/
theorem unsign_written {before sign digits : Text} (hb : ∀ c ∈ before, c.isBlank = true)
    (hsign : sign = [] ∨ sign = [.char '-']) (hd : ∀ c ∈ digits, c.isDigit = true)
    (hne : digits ≠ []) (rest : Text) :
    unsign (Text.trimStart (before ++ (sign ++ (digits ++ rest)))) =
      (!sign.isEmpty,digits ++ rest) := by
  obtain ⟨d,ds,rfl⟩ := List.exists_cons_of_ne_nil hne
  have hfirst := hd d List.mem_cons_self
  rw [Text.trimStart_append hb]
  rcases hsign with rfl | rfl
  · have hminus : d ≠ .char '-' := by
      rintro rfl
      cases hfirst
    rw [List.nil_append,Text.trimStart_eq_self (by simp [CodePoint.not_isBlank_of_isDigit hfirst])]
    exact unsign_of_ne hminus _
  · have hminus : (CodePoint.char '-').isBlank = false := rfl
    rw [Text.trimStart_eq_self (by simp [hminus])]
    rfl

/-- The digits end where the unit starts. -/
theorem takeWhile_digits {digits unit : Text} (hd : ∀ c ∈ digits, c.isDigit = true)
    (hu : unit.asciiLower = ("px" : Text)) (rest : Text) :
    (digits ++ (unit ++ rest)).takeWhile CodePoint.isDigit = digits := by
  obtain ⟨p,x,rfl,hp,-⟩ := eq_unit hu
  exact (Text.span_of_run hd (by simp [hp])).1

/-- A whole number of pixels is worth its digits, if they are not too many. -/
theorem pixels?_written {before sign digits unit after : Text}
    (hb : ∀ c ∈ before, c.isBlank = true) (hsign : sign = [] ∨ sign = [.char '-'])
    (hd : ∀ c ∈ digits, c.isDigit = true) (hne : digits ≠ [])
    (hu : unit.asciiLower = ("px" : Text)) (ha : ∀ c ∈ after, c.isBlank = true) :
    pixels? (before ++ (sign ++ (digits ++ (unit ++ after)))) =
      (Numeral.checkDigits digits.length).map fun () =>
        some (if sign.isEmpty then (digits.decimalValue : Int) else -digits.decimalValue) := by
  have hunit : isPixelUnit (unit ++ after) = true := isPixelUnit_iff.mpr ⟨_,_,rfl,hu,ha⟩
  have hdigits : digits.isEmpty = false := List.isEmpty_eq_false_iff.mpr hne
  rw [pixels?_eq]
  dsimp only
  rw [unsign_written hb hsign hd hne,takeWhile_digits hd hu,List.drop_left,hunit,hdigits]
  cases sign.isEmpty <;> rfl

/-- Measuring fails for whole numbers of pixels with too many digits, and for no other value. -/
theorem pixels?_eq_error {value : Text} {e : NumeralError} : pixels? value = .error e ↔
    ∃ count, Numeral.digitLimit < count ∧ PixelLength count value ∧ e = .tooManyDigits count := by
  constructor
  · intro h
    rw [pixels?_eq] at h
    dsimp only at h
    split at h
    · cases h
    next hne =>
      obtain ⟨-,hunit⟩ : _ ∧ isPixelUnit _ = true := by simpa using hne
      obtain ⟨hlong,rfl⟩ := checkDigits_eq_error.mp (map_eq_error.mp h)
      exact ⟨_,hlong,pixelLength_of_unit hunit,rfl⟩
  · rintro ⟨count,hlong,⟨before,sign,digits,unit,after,rfl,hb,hsign,hd,rfl,hu,ha⟩,rfl⟩
    have hne : digits ≠ [] := List.ne_nil_of_length_pos (Nat.zero_lt_of_lt hlong)
    rw [pixels?_written hb hsign hd hne hu ha]
    exact map_eq_error.mpr (checkDigits_eq_error.mpr ⟨hlong,rfl⟩)

/-- What is measured has digits. -/
theorem pixelLength_of_pixels? {value : Text} {n : Int} (h : pixels? value = .ok (some n)) :
    ∃ count, 0 < count ∧ PixelLength count value := by
  rw [pixels?_eq] at h
  dsimp only at h
  split at h
  · cases h
  next hne =>
    rw [Bool.or_eq_true,not_or,List.isEmpty_iff] at hne
    obtain ⟨hdigits,hunit⟩ := hne
    exact ⟨_,List.length_pos_iff.mpr hdigits,pixelLength_of_unit (by simpa using hunit)⟩

/-- A whole number of pixels with more digits than are read. -/
def Overlong (value : Text) : Prop :=
  ∃ count, Numeral.digitLimit < count ∧ PixelLength count value

theorem pixels?_returns {value : Text} : (∃ n, pixels? value = .ok n) ↔ ¬ Overlong value := by
  constructor
  · rintro ⟨n,hn⟩ ⟨count,hlong,hlength⟩
    cases hn.symm.trans (pixels?_eq_error.mpr ⟨count,hlong,hlength,rfl⟩)
  · intro h
    cases hv : pixels? value with
    | ok n => exact ⟨n,rfl⟩
    | error e =>
      obtain ⟨count,hlong,hlength,-⟩ := pixels?_eq_error.mp hv
      exact (h ⟨count,hlong,hlength⟩).elim

/-! ## Classes and candidates -/

theorem spacingClass_returns {value stem : Text} :
    (∃ found, spacingClass value stem = .ok found) ↔ ¬ Overlong value := by
  rw [← pixels?_returns]
  constructor
  · rintro ⟨found,h⟩
    obtain ⟨n,hn,-⟩ := bind_eq_ok.mp h
    exact ⟨n,hn⟩
  · rintro ⟨n,hn⟩
    refine bind_returns.mpr ⟨n,hn,?_⟩
    split <;> exact ⟨_,rfl⟩

theorem fontSizeClass_returns {value : Text} :
    (∃ found, fontSizeClass value = .ok found) ↔ ¬ Overlong value := by
  rw [← pixels?_returns]
  constructor
  · rintro ⟨found,h⟩
    obtain ⟨n,hn,-⟩ := bind_eq_ok.mp h
    exact ⟨n,hn⟩
  · rintro ⟨n,hn⟩
    refine bind_returns.mpr ⟨n,hn,?_⟩
    split <;> exact ⟨_,rfl⟩

/-- The lengths that the classes of a declaration go by. -/
def measured (property value : Text) : List Text :=
  match utilityOf property with
  | .box stem => (Shorthand.partsOf stem value).map Shorthand.Part.value
  | .side _ | .fontSize => [value]
  | .color _ | .fontWeight | .display | .other => []

theorem classesOf_returns {property value : Text} :
    (∃ classes, classesOf property value = .ok classes) ↔
      ∀ length ∈ measured property value, ¬ Overlong length := by
  unfold classesOf measured
  cases utilityOf property with
  | box stem => simp only [mapM_returns,spacingClass_returns,List.forall_mem_map]
  | side stem => simp only [map_returns,spacingClass_returns,List.forall_mem_singleton]
  | fontSize => simp only [map_returns,fontSizeClass_returns,List.forall_mem_singleton]
  | _ => simp

theorem spacingClass_eq_error {value stem : Text} {e : NumeralError}
    (h : spacingClass value stem = .error e) : e.OverLimit := by
  rcases bind_eq_error.mp h with h | ⟨n,-,h⟩
  · obtain ⟨count,hlong,-,he⟩ := pixels?_eq_error.mp h
    exact ⟨count,hlong,he⟩
  · split at h <;> cases h

theorem fontSizeClass_eq_error {value : Text} {e : NumeralError}
    (h : fontSizeClass value = .error e) : e.OverLimit := by
  rcases bind_eq_error.mp h with h | ⟨n,-,h⟩
  · obtain ⟨count,hlong,-,he⟩ := pixels?_eq_error.mp h
    exact ⟨count,hlong,he⟩
  · split at h <;> cases h

theorem classesOf_eq_error {property value : Text} {e : NumeralError}
    (h : classesOf property value = .error e) : e.OverLimit := by
  unfold classesOf at h
  split at h
  · cases h
  · obtain ⟨part,-,hpart⟩ := mapM_eq_error h
    exact spacingClass_eq_error hpart
  · exact spacingClass_eq_error (map_eq_error.mp h)
  · exact fontSizeClass_eq_error (map_eq_error.mp h)
  all_goals cases h

/-- All lengths that the classes of a rule go by. -/
def Rule.measured (r : Rule) : List Text :=
  r.effectiveDeclarations.flatMap fun d => StyleLift.measured d.property d.value

/-- No length of the rule has too many digits to be measured. -/
def Rule.Measurable (r : Rule) : Prop := ∀ length ∈ r.measured, ¬ Overlong length

theorem Rule.candidates_returns {r : Rule} :
    (∃ found, r.candidates = .ok found) ↔ r.Measurable := by
  simp only [candidates,mapM_returns,Candidate.ofDeclaration,map_returns,classesOf_returns,
    Measurable,measured,List.forall_mem_flatMap]

theorem Rule.candidates_eq_error {r : Rule} {e : NumeralError} (h : r.candidates = .error e) :
    e.OverLimit := by
  obtain ⟨d,-,hd⟩ := mapM_eq_error h
  exact classesOf_eq_error (map_eq_error.mp hd)

end StyleLift
