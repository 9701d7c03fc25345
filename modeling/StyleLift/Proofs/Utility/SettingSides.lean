import StyleLift.Proofs.Utility.Scales
import StyleLift.Proofs.Utility.Sides

/-! # Sides that classes set

The classes for a box shorthand, read back, set every side of the box once, to the component that
stands for the side by its position. A component on the spacing scale comes back as as many pixels,
any other one as it is written.
-/
namespace StyleLift
open Shorthand

inductive Box
  | margin
  | padding
deriving DecidableEq

def Box.property : Box → Text
  | .margin => "margin"
  | .padding => "padding"

def Box.stem : Box → Text
  | .margin => "m"
  | .padding => "p"

/-- The component that stands for a side. -/
def Side.component? (side : Side) : List Text → Option Text
  | [all] => some all
  | [vertical,horizontal] =>
    match side with
    | .top | .bottom => some vertical
    | .right | .left => some horizontal
  | [first,second,third,fourth] =>
    match side with
    | .top => some first
    | .right => some second
    | .bottom => some third
    | .left => some fourth
  | _ => none

/-! ## Reading classes -/

inductive Amount
  | pixels (count : Int)
  | verbatim (text : Text)
deriving DecidableEq

/-- A side of a box and what it is set to. -/
structure Setting where
  box : Box
  side : Side
  amount : Amount
deriving DecidableEq

def boxOf? : CodePoint → Option Box
  | .char 'm' => some .margin
  | .char 'p' => some .padding
  | _ => none

/-- The sides that are meant by what follows the letter of a box: all, the vertical or the
horizontal ones, or one. -/
def sidesOf? : Text → Option (List Side)
  | [] => some [.top,.right,.bottom,.left]
  | [.char 'y'] => some [.top,.bottom]
  | [.char 'x'] => some [.right,.left]
  | [.char 't'] => some [.top]
  | [.char 'r'] => some [.right]
  | [.char 'b'] => some [.bottom]
  | [.char 'l'] => some [.left]
  | _ => none

/-- What stands in brackets is meant as it is written. A step is four pixels, but for the step of
one pixel. -/
def amount? : Text → Option Amount
  | .char '[' :: rest =>
    if rest.getLast? = some (.char ']') then some (.verbatim rest.dropLast) else none
  | step =>
    if step = ("px" : Text) then some (.pixels 1)
    else if step ≠ [] ∧ ∀ c ∈ step, c.isAsciiDigit = true then
      some (.pixels (4 * Text.decimalValue step))
    else none

/-- The sides that a class sets. -/
def readClass? (c : Text) : Option (List Setting) :=
  match c.takeWhile (· != .char '-'), c.dropWhile (· != .char '-') with
  | letter :: sides, _ :: rest => do
    let box ← boxOf? letter
    let sides ← sidesOf? sides
    let amount ← amount? rest
    return sides.map fun side => ⟨box,side,amount⟩
  | _, _ => none

def readClasses? (classes : List Text) : Option (List Setting) :=
  (classes.mapM readClass?).map List.flatten

/-- What a component stands for: pixels of the spacing scale, or itself where it is on no step. -/
inductive Denotes (component : Text) : Amount → Prop
  | pixels {count : Int} (h : OnScale spacingScale component count) :
      Denotes component (.pixels count)
  | verbatim (h : ∀ count, ¬ OnScale spacingScale component count) :
      Denotes component (.verbatim component)

variable {box : Box} {letters component value : Text} {sides : List Side}

theorem amount?_step {n : Int} {step : Text} (h : spacingScale.lookup? n = some step) :
    amount? step = some (.pixels n) := by
  have hsteps : ∀ entry ∈ spacingScale.entries, amount? entry.2 = some (.pixels entry.1) := by
    decide
  exact hsteps _ (Scale.mem_entries h)

theorem amount?_bracketed (text : Text) :
    amount? (.char '[' :: (text ++ [.char ']'])) = some (.verbatim text) := by
  rw [amount?,if_pos (by simp),List.dropLast_concat]

theorem readClass?_append (hletters : .char '-' ∉ letters) (rest : Text) :
    readClass? (box.stem ++ letters ++ .char '-' :: rest) = (do
      let sides ← sidesOf? letters
      let amount ← amount? rest
      return sides.map fun side => ⟨box,side,amount⟩) := by
  obtain ⟨letter,hstem,hbox,hhyphen⟩ : ∃ letter, box.stem = [letter] ∧ boxOf? letter = some box ∧
      (letter != .char '-') = true := by
    cases box <;> exact ⟨_,rfl,rfl,rfl⟩
  have hrun : ∀ c ∈ letter :: letters, (c != .char '-') = true :=
    List.forall_mem_cons.mpr ⟨hhyphen,fun c hc => bne_iff_ne.mpr fun h => hletters (h ▸ hc)⟩
  obtain ⟨htake,hdrop⟩ := Text.span_of_run (s := .char '-' :: rest) hrun (by simp)
  rw [hstem,List.singleton_append,readClass?,htake,hdrop]
  dsimp only
  rw [hbox]
  rfl

/-- A class sets the sides that its stem names, all to what its component stands for. -/
theorem readClass?_lengthClass (box : Box) (hsides : sidesOf? letters = some sides)
    (hletters : .char '-' ∉ letters) (component : Text) : ∃ amount, Denotes component amount ∧
      readClass? (lengthClass spacingScale (box.stem ++ letters) component) =
        some (sides.map fun side => ⟨box,side,amount⟩) := by
  cases hclass : stepClass? spacingScale (box.stem ++ letters) component with
  | none =>
    refine ⟨_,.verbatim (stepClass?_eq_none.mp hclass),?_⟩
    have hbracketed : arbitraryClass (box.stem ++ letters) component =
        box.stem ++ letters ++ .char '-' :: .char '[' :: (component ++ [.char ']']) := by
      simp [arbitraryClass,Text.ofString]
    rw [lengthClass,hclass,Option.getD_none,hbracketed,readClass?_append hletters,hsides,
      amount?_bracketed]
    rfl
  | some c =>
    obtain ⟨n,step,hn,hstep,rfl⟩ := stepClass?_eq_some.mp hclass
    have hkey := Scale.lookup?_isSome.mp (Option.isSome_of_eq_some hstep)
    refine ⟨_,.pixels ⟨hkey,hn⟩,?_⟩
    rw [lengthClass,hclass,Option.getD_some,readClass?_append hletters,hsides,amount?_step hstep]
    rfl

/-! ## Shorthands -/

theorem classesOf_box {classes : List Text} (h : classesOf box.property value = .ok classes) :
    classes = (partsOf box.stem value).map fun part =>
      lengthClass spacingScale part.stem part.value := by
  have hutility : utilityOf box.property = .box box.stem := by cases box <;> rfl
  rw [classesOf_eq_ok h,hutility]
  rfl

/-- The letters for some number of components, and the sides that they name. -/
def sideGroups : Nat → List (Text × List Side)
  | 1 => [("",[.top,.right,.bottom,.left])]
  | 2 => [("y",[.top,.bottom]),("x",[.right,.left])]
  | 4 => [("t",[.top]),("r",[.right]),("b",[.bottom]),("l",[.left])]
  | _ => []

theorem mem_sideGroups {n : Nat} (hn : n ∈ [1,2,4]) : ∀ group ∈ sideGroups n,
    sidesOf? group.1 = some group.2 ∧ .char '-' ∉ group.1 := by
  simp only [List.mem_cons,List.not_mem_nil,or_false] at hn
  rcases hn with rfl | rfl | rfl <;> decide

/-- The settings for amounts, each for the sides that its letters name. -/
def settingsOf (box : Box) (groups : List (Text × List Side)) (amounts : List Amount) :
    List Setting :=
  (List.zipWith (fun group amount => group.2.map fun side => ⟨box,side,amount⟩) groups
    amounts).flatten

theorem readClasses?_groups (box : Box) {groups : List (Text × List Side)} {components : List Text}
    (hgroups : ∀ group ∈ groups, sidesOf? group.1 = some group.2 ∧ .char '-' ∉ group.1)
    (hlength : components.length = groups.length) :
    ∃ amounts, List.Forall₂ Denotes components amounts ∧
      readClasses? (List.zipWith (fun group component =>
        lengthClass spacingScale (box.stem ++ group.1) component) groups components) =
          some (settingsOf box groups amounts) := by
  induction groups generalizing components with
  | nil =>
    rw [List.length_eq_zero_iff.mp hlength]
    exact ⟨[],.nil,rfl⟩
  | cons group groups ih =>
    obtain ⟨component,components,rfl⟩ := List.exists_cons_of_length_eq_add_one hlength
    obtain ⟨⟨hsides,hletters⟩,hrest⟩ := List.forall_mem_cons.mp hgroups
    obtain ⟨amount,hamount,hread⟩ := readClass?_lengthClass box hsides hletters component
    obtain ⟨amounts,hamounts,hreads⟩ := ih hrest (Nat.succ.inj hlength)
    refine ⟨amount :: amounts,.cons hamount hamounts,?_⟩
    obtain ⟨settings,hsettings,hflat⟩ := Option.map_eq_some_iff.mp hreads
    rw [List.zipWith_cons_cons,readClasses?,List.mapM_cons,hread,hsettings]
    exact congrArg (fun rest => some (_ ++ rest)) hflat

/-- The settings that are read from the classes set each side once. -/
theorem settings_of_classes (h : Positional value) : ∃ settings,
    readClasses? ((partsOf box.stem value).map fun part =>
      lengthClass spacingScale part.stem part.value) = some settings ∧
    ∀ side : Side, ∃ component amount, side.component? (splitValues value) = some component ∧
      Denotes component amount ∧
      settings.filter (fun s => s.side = side) = [⟨box,side,amount⟩] := by
  have hclasses : ((partsOf box.stem value).map fun part =>
      lengthClass spacingScale part.stem part.value) = List.zipWith (fun group component =>
        lengthClass spacingScale (box.stem ++ group.1) component)
        (sideGroups (splitValues value).length) (splitValues value) := by
    rcases h.cases with ⟨a,h⟩ | ⟨a,b,h⟩ | ⟨a,b,c,d,h⟩ <;> rw [partsOf,h] <;> cases box <;> rfl
  have hlength : (splitValues value).length = (sideGroups (splitValues value).length).length := by
    rcases h.cases with ⟨a,h⟩ | ⟨a,b,h⟩ | ⟨a,b,c,d,h⟩ <;> rw [h] <;> rfl
  obtain ⟨amounts,hamounts,hread⟩ := readClasses?_groups box (mem_sideGroups h) hlength
  refine ⟨_,hclasses ▸ hread,fun side => ?_⟩
  rcases h.cases with ⟨a,h⟩ | ⟨a,b,h⟩ | ⟨a,b,c,d,h⟩ <;> rw [h] at hamounts ⊢ <;>
    simp only [List.forall₂_cons_left_iff,List.forall₂_nil_left_iff] at hamounts
  · obtain ⟨_,_,ha,rfl,rfl⟩ := hamounts
    cases side <;> exact ⟨_,_,rfl,ha,rfl⟩
  · obtain ⟨_,_,ha,⟨_,_,hb,rfl,rfl⟩,rfl⟩ := hamounts
    cases side with
    | top | bottom => exact ⟨_,_,rfl,ha,rfl⟩
    | right | left => exact ⟨_,_,rfl,hb,rfl⟩
  · obtain ⟨_,_,ha,⟨_,_,hb,⟨_,_,hc,⟨_,_,hd,rfl,rfl⟩,rfl⟩,rfl⟩,rfl⟩ := hamounts
    cases side with
    | top => exact ⟨_,_,rfl,ha,rfl⟩
    | right => exact ⟨_,_,rfl,hb,rfl⟩
    | bottom => exact ⟨_,_,rfl,hc,rfl⟩
    | left => exact ⟨_,_,rfl,hd,rfl⟩

/-- Where the sides are not set by position, the whole value is kept in brackets. -/
theorem classesOf_other (h : ¬ Positional value) :
    classesOf box.property value = .ok [arbitraryClass box.stem value.trim] := by
  have hclass : spacingClass value.trim box.stem = .ok (arbitraryClass box.stem value.trim) := by
    rw [spacingClass,pixels?_of_other h]
    rfl
  have hutility : utilityOf box.property = .box box.stem := by cases box <;> rfl
  rw [classesOf,hutility]
  dsimp only
  rw [partsOf_other h,List.mapM_cons,hclass]
  rfl

theorem expand_box : expand box.property value = .ok (partsOf box.stem value) := by
  cases box <;> rfl

theorem expand_fails_iff {property : Text} : (∃ e, expand property value = .error e) ↔
    property ≠ ("margin" : Text) ∧ property ≠ ("padding" : Text) := by
  rw [expand,boxStem?]
  by_cases hmargin : property = ("margin" : Text)
  · rw [if_pos hmargin]
    exact iff_of_false (fun ⟨_,h⟩ => by cases h) fun h => h.1 hmargin
  by_cases hpadding : property = ("padding" : Text)
  · rw [if_neg hmargin,if_pos hpadding]
    exact iff_of_false (fun ⟨_,h⟩ => by cases h) fun h => h.2 hpadding
  · rw [if_neg hmargin,if_neg hpadding]
    exact iff_of_true ⟨_,rfl⟩ ⟨hmargin,hpadding⟩

/-- The classes for a box shorthand with one, two or four components set each side once, to the
component that stands for it. Any other value is kept in brackets, blanks around it apart. The
values of the parts have the same parts again, and only what is no box shorthand has no parts. -/
theorem shorthand_sets_sides (box : Box) (value : Text) :
    (∀ classes, Positional value → classesOf box.property value = .ok classes →
      ∃ settings, readClasses? classes = some settings ∧
        ∀ side : Side, ∃ component amount,
          side.component? (splitValues value) = some component ∧ Denotes component amount ∧
          settings.filter (fun s => s.side = side) = [⟨box,side,amount⟩]) ∧
    (¬ Positional value →
      classesOf box.property value = .ok [arbitraryClass box.stem value.trim]) ∧
    (∃ parts, expand box.property value = .ok parts ∧
      expand box.property (Text.joinWith " " (parts.map Part.value)) = .ok parts) ∧
    ∀ property, (∃ e, expand property value = .error e) ↔
      property ≠ ("margin" : Text) ∧ property ≠ ("padding" : Text) := by
  refine ⟨fun classes h hclasses => ?_,classesOf_other,⟨_,expand_box,?_⟩,fun _ => expand_fails_iff⟩
  · rw [classesOf_box hclasses]
    exact settings_of_classes h
  · rw [expand_box,partsOf_joinWith (by decide) (by decide)]

/-- The blank between parentheses parts no components: of two, the first sets the top and the
bottom, the second the sides between them. Three components set no sides by position. -/
theorem shorthand_sets_sides_calc :
    (∃ settings, readClasses? ["py-2","px-[calc(1px + 2px)]"] = some settings ∧
      ∀ side : Side, ∃ component amount,
        side.component? ["8px","calc(1px + 2px)"] = some component ∧ Denotes component amount ∧
        settings.filter (fun s => s.side = side) = [⟨.padding,side,amount⟩]) ∧
    classesOf "margin" " 1px  2px 3px" = .ok ["m-[1px  2px 3px]"] := by
  have hclasses : classesOf "padding" "8px calc(1px + 2px)" =
      .ok ["py-2","px-[calc(1px + 2px)]"] := by decide
  have hsplit : splitValues "8px calc(1px + 2px)" = ["8px","calc(1px + 2px)"] := by decide
  have hpositional : Positional "8px calc(1px + 2px)" := by
    rw [Positional,hsplit]
    decide
  have hsides := (shorthand_sets_sides .padding "8px calc(1px + 2px)").1 _ hpositional hclasses
  rw [hsplit] at hsides
  have hthree : ¬ Positional " 1px  2px 3px" := by
    rw [Positional]
    decide
  exact ⟨hsides,(shorthand_sets_sides .margin " 1px  2px 3px").2.1 hthree⟩

/-- A step is read as pixels, brackets as they stand. -/
example : readClasses? ["py-2","px-[calc(1px + 2px)]"] = some
    [⟨.padding,.top,.pixels 8⟩,⟨.padding,.bottom,.pixels 8⟩,
      ⟨.padding,.right,.verbatim "calc(1px + 2px)"⟩,
      ⟨.padding,.left,.verbatim "calc(1px + 2px)"⟩] := by decide

end StyleLift
