import StyleLift.Proofs.Text.Occurrences
import StyleLift.Proofs.Verify.Spelling

/-! # Names read back from emitted rules

A rule is emitted for a class with a backslash before every code point of the name that is no plain
one. The scan reads the names back in their order: it ends each one at the space before the block,
and finds nothing more up to the end of the line.
-/
namespace StyleLift

namespace ClassSelector
open Css.Written (isPlain)

/-- A name as it is written in a selector. -/
def escaped (name : Text) : Text :=
  name.flatMap fun c => if isPlain c then [c] else [.char '\\',c]

/-- A rule for a class. Its name starts like one and keeps to a line, and its block has no point
that a name follows. -/
structure Emitted where
  name : Text
  body : Text
  starts : startsName name = true
  line : .char '\n' ∉ name
  silent : ∀ rest, .char '.' :: rest <:+ body → startsName rest = false

def Emitted.text (r : Emitted) : Text :=
  .char '.' :: (escaped r.name ++ (" \x7b" : Text) ++ r.body ++ ("\x7d" : Text))

/-- The sheet of some rules, each on lines of its own. -/
def emittedText (rules : List Emitted) : Text := rules.flatMap fun r => r.text ++ [.char '\n']

variable {name s : Text}

theorem escaped_cons (c : CodePoint) (name : Text) : escaped (c :: name) =
    (if isPlain c then [c] else [.char '\\',c]) ++ escaped name := List.flatMap_cons

theorem takeParts_escaped (h : .char '\n' ∉ name) (rest : Text) :
    takeParts (escaped name ++ rest) = (name ++ (takeParts rest).1,(takeParts rest).2) := by
  induction name with
  | nil => rfl
  | cons c name ih =>
    have hread := ih fun hmem => h (List.mem_cons_of_mem c hmem)
    cases hc : isPlain c with
    | true =>
      rw [escaped_cons,hc,if_pos rfl,List.append_assoc,List.singleton_append,
        takeParts_part (isPlain_iff.mp hc).1,hread]
      rfl
    | false =>
      have hline : c ≠ .char '\n' := fun hc => h (hc ▸ List.mem_cons_self)
      rw [escaped_cons,hc,if_neg Bool.false_ne_true,List.append_assoc,List.cons_append,
        List.singleton_append,takeParts_escape hline,hread]
      rfl

theorem isPlain_of_isStart {c : CodePoint} (h : isStart c = true) : isPlain c = true := by
  rcases Bool.or_eq_true_iff.mp h with h | h <;> simp [isPlain,h]

/-- What a name starts with is written as it is. -/
theorem startsName_escaped (h : startsName name = true) (rest : Text) :
    startsName (escaped name ++ rest) = true := by
  fun_cases startsName name with
  | case1 c tail =>
    have hc : isStart c = true := h
    rw [escaped_cons,escaped_cons,isPlain_of_isStart hc]
    exact hc
  | case2 c tail hne =>
    have hc : isStart c = true := by rwa [startsName.eq_2 c tail hne] at h
    have hhyphen : c ≠ .char '-' := by
      rintro rfl
      exact absurd hc (by decide)
    rw [escaped_cons,isPlain_of_isStart hc]
    exact (startsName.eq_2 c _ fun d tail hd _ => hhyphen hd).trans hc
  | case3 => cases h

/-- A text without a point that a name follows has no names. -/
theorem scan_silent (h : ∀ rest, .char '.' :: rest <:+ s → startsName rest = false) :
    scan s = [] := by
  rw [← map_name_found,List.map_eq_nil_iff,List.eq_nil_iff_forall_not_mem]
  intro f hf
  obtain ⟨hsource,q,hpoint,hstarts,-⟩ := found_spec hf
  exact absurd (hstarts.symm.trans (h q (hpoint ▸ hsource))) (by decide)

/-- The end of a block does not make a name of what stands before it. -/
theorem Emitted.scan_body (r : Emitted) : scan (r.body ++ [.char '\x7d']) = [] := by
  refine scan_silent fun rest hrest => ?_
  rcases List.suffix_concat_iff.mp hrest with hnil | ⟨tail,htail,hsuffix⟩
  · cases hnil
  cases tail with
  | nil => cases htail
  | cons c tail =>
    obtain ⟨rfl,hsame⟩ := List.cons.inj htail
    have hstop : startsName (tail ++ [.char '\x7d']) = startsName tail :=
      startsName_stop (by decide) rfl tail []
    rw [hsame]
    exact hstop.trans (r.silent tail hsuffix)

theorem Emitted.scan_text (r : Emitted) : scan r.text = [r.name] := by
  have hblock : r.text = .char '.' :: (escaped r.name ++
      .char ' ' :: .char '\x7b' :: (r.body ++ [.char '\x7d'])) := by
    simp [Emitted.text,Text.ofString]
  rw [hblock,scan_point (startsName_escaped r.starts _),takeParts_escaped r.line,
    takeParts_stop (by decide) rfl,scan_cons (by decide),scan_cons (by decide),r.scan_body,
    List.append_nil]

theorem scan_emittedText (rules : List Emitted) : scan (emittedText rules) =
    rules.map Emitted.name := by
  induction rules with
  | nil => rw [emittedText,List.flatMap_nil,List.map_nil,scan]
  | cons r rules ih =>
    rw [emittedText,List.flatMap_cons,List.append_assoc,List.singleton_append,scan_newline,
      r.scan_text,List.map_cons]
    exact congrArg (r.name :: ·) ih

/-- From emitted rules the names are read back that do not contain the placeholder, each once, in
the order in which they come up first. -/
theorem names_emittedText (rules : List Emitted) : names (emittedText rules) =
    ((rules.map Emitted.name).filter fun name => ¬ placeholder <:+: name).eraseDups := by
  rw [names,scan_emittedText]
  refine congrArg List.eraseDups (List.filter_congr fun name _ => ?_)
  simp [← Text.occursIn_iff]

/-- A rule with points in its name and in its block. -/
def fraction : Emitted where
  name := "-mt-[.5 é]"
  body := "top: .5"
  starts := rfl
  line := by decide
  silent := fun rest h => by
    have hends : ∀ s ∈ ("top: .5" : Text).tails, s.head? = some (.char '.') →
        startsName s.tail = false := by decide
    exact hends _ ((List.mem_tails _ _).mpr h) rfl

/-- A rule that stands for an input rule. -/
def marker : Emitted where
  name := "temp-selector-0"
  body := []
  starts := rfl
  line := by decide
  silent := fun rest h => by cases List.suffix_nil.mp h

/-- One name comes up twice, and one is a placeholder. -/
theorem names_emittedText_fraction :
    fraction.text = ".-mt-\\[\\.5\\ \\é\\] \x7btop: .5\x7d" ∧
    names (emittedText [fraction,marker,fraction]) = ["-mt-[.5 é]"] :=
  ⟨by rfl,(names_emittedText _).trans (by decide)⟩

end ClassSelector
end StyleLift
