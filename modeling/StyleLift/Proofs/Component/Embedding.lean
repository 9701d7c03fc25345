import StyleLift.Proofs.Component.Literals
import StyleLift.Proofs.Component.Names

/-! # Styles read back from sources

The host language of a source reads the styles as a part of a template literal or of the text of a
style element. It reads them as they are just if they have nothing that means something there: no
escape, end, carriage return or substitution in the one, and no end of the element in the other.
-/
namespace StyleLift

/-- A code point that stands around the styles. -/
def CodePoint.IsQuiet (c : CodePoint) : Prop := c.IsWordy ∨ c ∈ Text.ofString "\n .\x7b\x7d"

instance {c : CodePoint} : Decidable c.IsQuiet :=
  inferInstanceAs (Decidable (c.IsWordy ∨ c ∈ Text.ofString "\n .\x7b\x7d"))

namespace Framework
variable {name styles part lead tail rest : Text} {parts more : List (List Text)}

/-! ## Reading -/

/-- What stands before the text that is read. -/
def marker : Framework → Text
  | .react => " = styled.div`"
  | .vue => "<style scoped>"
  | .svelte => "<style>"
  | .angular => "  styles: [`"

def elementEnd : Text := "</style"

/-- The text that is read from behind the first marker: the value of a template literal, or what
stands before the end of an element. -/
def readBack (f : Framework) (source : Text) : Option Text :=
  (Text.cut f.marker source).bind fun (_,rest) =>
    match f with
    | .react | .angular => Literal.value? rest
    | .vue | .svelte => (Text.cut elementEnd rest).map Prod.fst

/-- What is read before the styles. -/
def leading (f : Framework) (name : Text) : Text :=
  match f with
  | .react => lines [[],["  "]]
  | .vue => lines [[],[".",Component.kebab name," \x7b"],["  "]]
  | .svelte => lines [[],["  .",Component.kebab name," \x7b"],["    "]]
  | .angular => lines [[],["    .",Component.kebab name," \x7b"],["      "]]

/-- What is read behind the styles. -/
def trailing : Framework → Text
  | .react => lines [[],[]]
  | .vue => lines [[],["\x7d"],[]]
  | .svelte => lines [[],["  \x7d"],[]]
  | .angular => lines [[],["    \x7d"],["  "]]

/-- What ends the text that is read. -/
def terminator : Framework → Text
  | .react | .angular => [Literal.backtick]
  | .vue | .svelte => elementEnd

/-- Styles without anything that means something where they are read. -/
def Carries : Framework → Text → Prop
  | .react, styles | .angular, styles => Literal.IsPlain styles
  | .vue, styles | .svelte, styles => Text.occursIn elementEnd styles = false

/-! ## The marker -/

theorem lines_cons {line : List Text} (h : parts ≠ []) :
    lines (line :: parts) = line.flatten ++ .char '\n' :: lines parts := by
  obtain ⟨next,more,rfl⟩ := List.exists_cons_of_ne_nil h
  exact Text.joinWith_cons_cons

/-- A source is cut behind the marker that ends one of its lines, where none starts before. -/
theorem cut_lines (k : Nat) (before : List Text)
    (hmarked : parts.drop k = (before ++ [part]) :: more)
    (hnewline : Text.Clear part [.char '\n'])
    (hfront : ∀ line ∈ parts.take k, ∀ piece ∈ line, Text.Clear part piece)
    (hbefore : ∀ piece ∈ before, Text.Clear part piece) :
    ∃ passed, Text.cut part (lines parts ++ rest) =
      some (passed,lines ([] :: more) ++ rest) := by
  rw [← List.take_append_drop k parts,hmarked]
  generalize parts.take k = front at hfront
  induction front with
  | nil =>
    have hline : lines ((before ++ [part]) :: more) =
        before.flatten ++ (part ++ lines ([] :: more)) := by
      simp [lines,Text.joinWith_cons]
    rw [List.nil_append,hline,List.append_assoc,List.append_assoc,
      Text.cut_clear (Text.clear_flatten hbefore),Text.cut_self]
    exact ⟨_,rfl⟩
  | cons line front ih =>
    obtain ⟨hline,hfront⟩ := List.forall_mem_cons.mp hfront
    obtain ⟨passed,hpassed⟩ := ih hfront
    have hsplit : lines (line :: (front ++ (before ++ [part]) :: more)) ++ rest =
        line.flatten ++ ([.char '\n'] ++
          (lines (front ++ (before ++ [part]) :: more) ++ rest)) := by
      rw [lines_cons (by simp),List.append_assoc]
      rfl
    rw [List.cons_append,hsplit,Text.cut_clear (Text.clear_flatten hline),
      Text.cut_clear hnewline,hpassed]
    exact ⟨_,rfl⟩

/-- No marker starts in a name. -/
theorem clear_marker (f : Framework) {s : Text} (h : ∀ c ∈ s, c.IsWordy) :
    Text.Clear f.marker s := by
  have hclear : ∀ c, ¬ CodePoint.IsWordy c → ∀ tail, Text.Clear (c :: tail) s := fun c hc tail =>
    Text.clear_of_not_mem fun hmem => hc (h c hmem)
  cases f with
  | react => exact hclear (.char ' ') (by decide) _
  | vue => exact hclear (.char '<') (by decide) _
  | svelte => exact hclear (.char '<') (by decide) _
  | angular => exact hclear (.char ' ') (by decide) _

theorem cut_opening (f : Framework) (hname : ∀ c ∈ name, c.IsWordy) (rest : Text) :
    ∃ passed, Text.cut f.marker (f.opening name ++ rest) =
      some (passed,f.leading name ++ rest) := by
  have hplain := f.clear_marker hname
  have hkebab := f.clear_marker (Component.isWordy_kebab hname)
  cases f <;> [
    refine cut_lines 4 ["const Styled",name] rfl (by decide) ?_ ?_;
    refine cut_lines 13 [] rfl (by decide) ?_ (List.forall_mem_nil _);
    refine cut_lines 6 [] rfl (by decide) ?_ (List.forall_mem_nil _);
    refine cut_lines 10 [] rfl (by decide) ?_ (List.forall_mem_nil _)]
  all_goals
    simp only [List.take_succ_cons,List.take_zero,List.forall_mem_cons]
    repeat' apply And.intro
    all_goals first
      | exact hplain
      | exact hkebab
      | exact fun _ h => absurd h List.not_mem_nil
      | decide +kernel

/-! ## What stands around the styles -/

theorem isQuiet_leading (f : Framework) (hname : ∀ c ∈ name, c.IsWordy) :
    ∀ c ∈ f.leading name, c.IsQuiet := by
  have hkebab : ∀ c ∈ Component.kebab name, c.IsQuiet := fun c hc =>
    .inl (Component.isWordy_kebab hname c hc)
  cases f
  all_goals
    refine forall_lines (by decide) ?_
    simp only [List.forall_mem_cons]
    repeat' apply And.intro
    all_goals first
      | exact hkebab
      | exact fun _ h => absurd h List.not_mem_nil
      | decide +kernel

theorem trailing_eq (f : Framework) :
    ∃ tail, f.trailing = .char '\n' :: tail ∧ ∀ c ∈ tail, c.IsQuiet := by
  cases f
  all_goals exact ⟨_,rfl,by decide +kernel⟩

theorem closing_eq (f : Framework) (name : Text) :
    ∃ rest, f.closing name = f.trailing ++ (f.terminator ++ rest) := by
  cases f
  all_goals exact ⟨_,rfl⟩

theorem isPlain_of_isQuiet (h : ∀ c ∈ lead, c.IsQuiet) : Literal.IsPlain lead where
  noEscape hmem := absurd (h _ hmem) (by decide)
  noEnd hmem := absurd (h _ hmem) (by decide)
  noReturn hmem := absurd (h _ hmem) (by decide)
  noSubstitution := by
    rw [Text.occursIn_eq_false_iff]
    intro hfound
    exact absurd (h _ (hfound.subset List.mem_cons_self)) (by decide)

/-- What stands around the styles neither means anything in a literal nor lets the styles do. -/
theorem isPlain_surrounded (hlead : ∀ c ∈ lead, c.IsQuiet) (htail : ∀ c ∈ tail, c.IsQuiet) :
    Literal.IsPlain (lead ++ styles ++ .char '\n' :: tail) ↔ Literal.IsPlain styles := by
  have hopen : Text.Clear "$\x7b" lead :=
    Text.clear_of_not_mem fun hmem => absurd (hlead _ hmem) (by decide)
  have hbefore := isPlain_of_isQuiet hlead
  have hbehind := isPlain_of_isQuiet htail
  have hoccurs : Text.occursIn "$\x7b" (lead ++ styles ++ .char '\n' :: tail) = false ↔
      Text.occursIn "$\x7b" styles = false := by
    rw [List.append_assoc,hopen.occursIn_append,← Bool.not_eq_true,← Bool.not_eq_true,
      Text.occursIn_append_cons (by decide),hbehind.noSubstitution]
    simp
  constructor
  · rintro ⟨hescape,hend,hreturn,hsubstitution⟩
    simp only [List.mem_append,not_or] at hescape hend hreturn
    exact ⟨hescape.1.2,hend.1.2,hreturn.1.2,hoccurs.mp hsubstitution⟩
  · rintro ⟨hescape,hend,hreturn,hsubstitution⟩
    refine ⟨?_,?_,?_,hoccurs.mpr hsubstitution⟩
    all_goals simp only [List.mem_append,List.mem_cons,not_or]
    · exact ⟨⟨hbefore.noEscape,hescape⟩,by decide,hbehind.noEscape⟩
    · exact ⟨⟨hbefore.noEnd,hend⟩,by decide,hbehind.noEnd⟩
    · exact ⟨⟨hbefore.noReturn,hreturn⟩,by decide,hbehind.noReturn⟩

theorem value?_surrounded (hlead : ∀ c ∈ lead, c.IsQuiet) (htail : ∀ c ∈ tail, c.IsQuiet) :
    Literal.value? (lead ++ styles ++ .char '\n' :: tail ++ ([Literal.backtick] ++ rest)) =
        some (lead ++ styles ++ .char '\n' :: tail) ↔
      Literal.IsPlain styles := by
  have hbehind : ∀ c ∈ .char '\n' :: tail, c.IsQuiet :=
    List.forall_mem_cons.mpr ⟨by decide,htail⟩
  have hlast : ¬ [Literal.backslash] <:+ lead ++ styles ++ .char '\n' :: tail := by
    intro hsuffix
    have hmem : Literal.backslash ∈ .char '\n' :: tail := by
      rcases List.suffix_or_suffix_of_suffix hsuffix (List.suffix_append _ _) with h | h
      · exact h.subset List.mem_cons_self
      · exact absurd (List.mem_singleton.mp (h.subset List.mem_cons_self)) (by decide)
    exact absurd (hbehind _ hmem) (by decide)
  exact (Literal.value?_eq_self hlast).trans (isPlain_surrounded hlead htail)

/-- The text of an element is read as a whole just if the styles do not end it. -/
theorem cut_surrounded (hlead : ∀ c ∈ lead, c.IsQuiet) (htail : ∀ c ∈ tail, c.IsQuiet) :
    (Text.cut elementEnd (lead ++ styles ++ .char '\n' :: tail ++ (elementEnd ++ rest))).map
        Prod.fst = some (lead ++ styles ++ .char '\n' :: tail) ↔
      Text.occursIn elementEnd styles = false := by
  have hquiet : ∀ {s : Text}, (∀ c ∈ s, c.IsQuiet) → Text.Clear elementEnd s := fun h =>
    Text.clear_of_not_mem fun hmem => absurd (h _ hmem) (by decide)
  constructor
  · intro h
    rw [← Bool.not_eq_true]
    intro hoccurs
    have hwithin : Text.occursIn elementEnd (lead ++ styles) = true := by
      rw [(hquiet hlead).occursIn_append,hoccurs]
    obtain ⟨before,after,hcut,hshort⟩ := Text.cut_of_occursIn hwithin
      (.char '\n' :: tail ++ (elementEnd ++ rest))
    rw [List.append_assoc (lead ++ styles),hcut] at h
    have hwhole : before.length = (lead ++ styles ++ .char '\n' :: tail).length :=
      congrArg List.length (Option.some.inj h)
    have hbehind : (lead ++ styles).length < (lead ++ styles ++ .char '\n' :: tail).length := by
      simp only [List.length_append,List.length_cons]
      omega
    omega
  · intro h
    have hstyles : Text.Clear elementEnd (styles ++ [.char '\n']) :=
      Text.clear_of_not_occursIn h (by decide)
    have hsplit : lead ++ styles ++ .char '\n' :: tail =
        lead ++ ((styles ++ [.char '\n']) ++ tail) := by
      simp
    rw [hsplit,Text.cut_clear ((hquiet hlead).append (hstyles.append (hquiet htail))),
      Text.cut_self]
    simp

/-! ## Sources -/

theorem frameworkComponent_of_isIdentifier (hname : Text.isIdentifier name = true) (f : Framework)
    (styles : Text) : frameworkComponent styles f.name name = .ok (f.component name styles) := by
  rw [frameworkComponent,ofName?_name]
  exact if_pos hname

/-- What the host language reads in the source of a component is the styles as they are, between
what the source puts around them, just if the styles have nothing that means something there. -/
theorem readBack_iff (hname : Text.isIdentifier name = true) (f : Framework) (styles : Text) :
    ∃ source, frameworkComponent styles f.name name = .ok source ∧
      (f.readBack source = some (f.leading name ++ styles ++ f.trailing) ↔ f.Carries styles) := by
  have hwordy := Text.isWordy_of_isIdentifier hname
  refine ⟨_,frameworkComponent_of_isIdentifier hname f styles,?_⟩
  obtain ⟨passed,hcut⟩ := f.cut_opening hwordy (styles ++ f.closing name)
  have hlead := f.isQuiet_leading hwordy
  obtain ⟨tail,htrailing,htail⟩ := f.trailing_eq
  obtain ⟨rest,hclosing⟩ := f.closing_eq name
  rw [readBack,component,List.append_assoc,hcut,Option.bind_some,← List.append_assoc,hclosing,
    htrailing,← List.append_assoc]
  cases f with
  | react => exact value?_surrounded hlead htail
  | vue => exact cut_surrounded hlead htail
  | svelte => exact cut_surrounded hlead htail
  | angular => exact value?_surrounded hlead htail

/-! Styles with an escape of their own, as icon fonts have them. -/

def iconStyles : Text := "content: \"\\f101\";"

/-- The text of an element has them as they are. -/
theorem readBack_iff_icon :
    Text.isIdentifier "Card" = true ∧
    ∃ source, frameworkComponent iconStyles "vue" "Card" = .ok source ∧
      readBack .vue source = some (leading .vue "Card" ++ iconStyles ++ trailing .vue) := by
  have hname : Text.isIdentifier "Card" = true := by decide
  obtain ⟨source,hmade,hread⟩ := readBack_iff hname .vue iconStyles
  have hcarries : Text.occursIn elementEnd iconStyles = false := by decide
  exact ⟨hname,source,hmade,hread.mpr hcarries⟩

/-- A template literal takes the escape for its own, which is a form feed. -/
theorem icon_escape_lost :
    ∃ source, frameworkComponent iconStyles "react" "Card" = .ok source ∧
      readBack .react source =
        some (leading .react "Card" ++ "content: \"\x0c101\";" ++ trailing .react) ∧
      readBack .react source ≠ some (leading .react "Card" ++ iconStyles ++ trailing .react) := by
  have hread : readBack .react (component .react "Card" iconStyles) =
      some (leading .react "Card" ++ "content: \"\x0c101\";" ++ trailing .react) := by rfl
  refine ⟨_,rfl,hread,?_⟩
  rw [hread]
  decide

end Framework
end StyleLift
