import StyleLift.CommandLine.Echo
import StyleLift.Proofs.Component.Names

/-! # What is printed as it is

A text without an escape is printed as it is. Written JSON in ASCII has none, and the sources made
of styles have one only where the styles do.
-/
namespace StyleLift

namespace CommandLine
variable {s styles name : Text}

theorem dropControls_plain (h : escape ∉ s) : dropControls s = s := by
  induction s with
  | nil => rw [dropControls]
  | cons c s ih =>
    obtain ⟨hc,hs⟩ := not_or.mp fun hmem => h (List.mem_cons.mpr hmem)
    rw [dropControls,if_neg (Ne.symm hc),ih hs]

theorem echo_plain (h : escape ∉ s) : echo s = s ++ [.char '\n'] :=
  dropControls_plain fun hmem => (List.mem_append.mp hmem).elim h (by decide)

theorem ne_escape_of_isTypable {c : CodePoint} (h : Json.IsTypable c) : c ≠ escape := by
  rintro rfl
  exact absurd h (by decide)

theorem escape_not_mem_indented (v : Json) : escape ∉ v.toText Json.indented := fun h =>
  ne_escape_of_isTypable (Json.isTypable_toText Json.indented_isPlain rfl v _ h) rfl

theorem ne_escape_of_isWordy {c : CodePoint} (h : c.IsWordy) : c ≠ escape := by
  rintro rfl
  exact absurd h (by decide)

theorem escape_not_mem_component (f : Framework) (hname : Text.isIdentifier name = true)
    (h : escape ∉ styles) : escape ∉ f.component name styles := by
  have hwordy := Text.isWordy_of_isIdentifier hname
  have hall := f.forall_component (p := (· ≠ escape)) (fun _ => ne_escape_of_isTypable)
    (fun c hc => ne_escape_of_isWordy (hwordy c hc))
    (fun c hc d hd => ne_escape_of_isWordy ((hwordy c hc).lower d hd)) fun c hc heq => h (heq ▸ hc)
  exact fun hmem => hall _ hmem rfl

end CommandLine
end StyleLift
