import StyleLift.Proofs.Extract.Preparation

/-! # What a failed compilation leaves

An extraction whose compiler fails keeps all that an extraction with compiled text has but for the
marks of the candidates, and tells it in the same members in the same order. Only the last member
differs: an error in place of the confirmed classes.
-/
namespace StyleLift

def Entry.unconfirmed (e : Entry) : Entry :=
  { e with candidates := e.candidates.map Candidate.unconfirmed }

@[simp] theorem Entry.unconfirmed_confirm (e : Entry) (seen : List Text) :
    (e.confirm seen).unconfirmed = e.unconfirmed := by
  simp [Entry.unconfirmed,Entry.confirm,Function.comp_def]

variable {rules : List Rule} {entries : List Entry}

/-- Entries have no marks before the verification. -/
theorem Entries.map_unconfirmed (h : Entries rules entries) :
    entries.map Entry.unconfirmed = entries := by
  have hfresh : ∀ e ∈ entries, e.unconfirmed = id e := by
    intro e he
    rw [Entry.unconfirmed,Rule.map_unconfirmed (h.candidates he)]
    rfl
  rw [List.map_congr_left hfresh,List.map_id]

theorem Entries.not_confirmed (h : Entries rules entries) {e : Entry} (he : e ∈ entries)
    {c : Candidate} (hc : c ∈ e.candidates) : c.confirmed = false := by
  have hfresh := Rule.map_unconfirmed (h.candidates he)
  rw [← hfresh] at hc
  obtain ⟨d,_,rfl⟩ := List.mem_map.mp hc
  rfl

namespace Bundle

/-- Marks do not count where entries are grouped. -/
theorem group_confirm {itemsOf : Entry → List Text} {seen : List Text}
    (h : ∀ e, itemsOf (e.confirm seen) = itemsOf e) (entries : List Entry) :
    group itemsOf (entries.map (·.confirm seen)) = group itemsOf entries := by
  rw [group,group,List.foldl_map]
  congr 1
  funext groups e
  rw [h]
  rfl

/-- The members that a bundle has whatever becomes of the verification. -/
def preparedMembers (existing : List Text) (entries : List Entry) : Json.Members :=
  [("existingClasses",Json.texts existing),
    ("cssToTailwind",Json.groups
      (group (fun e => e.rule.declarations.map Declaration.toCss) entries)),
    ("tailwindSuggestions",Json.groups (group Entry.classes entries))]

theorem toMembers_failed (existing : List Text) (entries : List Entry) (e : CompilerError) :
    (failed existing entries e).toMembers =
      preparedMembers existing entries ++ [(("error" : Text),e.describe.toJson)] := rfl

theorem toMembers_confirmed (existing : List Text) (entries : List Entry) (v : Verification) :
    (confirmed existing entries v).toMembers = preparedMembers existing entries ++
      [(("extractedClasses" : Text),Json.texts (Text.sorted v.confirmed))] := by
  have hwritten : group (fun e => e.rule.declarations.map Declaration.toCss)
      (entries.map (·.confirm v.confirmed)) =
        group (fun e => e.rule.declarations.map Declaration.toCss) entries :=
    group_confirm (fun _ => rfl) entries
  have hclasses : group Entry.classes (entries.map (·.confirm v.confirmed)) =
      group Entry.classes entries :=
    group_confirm (fun e => e.classes_confirm v.confirmed) entries
  rw [preparedMembers,← hwritten,← hclasses]
  rfl

end Bundle

/-- The name of what went wrong: the cause of a compiler error, or the error itself. -/
theorem CompilerError.describe_toJson (e : CompilerError) : e.describe.toJson = .obj [
    ("message",.str (Text.ofString "Failed to process with Tailwind: " ++ e.message)),
    ("code",.str "TAILWIND_PROCESSING_ERROR"),
    ("details",.obj [("type",.str ((e.cause.map Kind.name).getD "CompilerError")),
      ("returncode",(e.status.map Json.int).getD .null),("stderr",.str e.stderr)])] := by
  obtain ⟨message,status,stderr,cause⟩ := e
  cases status <;> cases cause <;> rfl

/-- A bundle after a compiler error is the bundle of any compiled text without its marks. Both have
the same members in the same order up to the last, which is the error or the confirmed classes. -/
theorem failure_keeps_prepared {html css out : Text} {e : CompilerError}
    {failing answering : Compiler} {failed completed : Bundle}
    (hf : failing.Fails e) (hr : answering.Returns out)
    (hfailed : (extract html css failing).outcome = .ok failed)
    (hcompleted : (extract html css answering).outcome = .ok completed) :
    failed.existingClasses = completed.existingClasses ∧
    failed.entries = completed.entries.map Entry.unconfirmed ∧
    (∀ x ∈ failed.entries, ∀ c ∈ x.candidates, c.confirmed = false) ∧
    ∃ (shared : Json.Members) (classes : List Text),
      shared.map Prod.fst =
        [("existingClasses" : Text),("cssToTailwind" : Text),("tailwindSuggestions" : Text)] ∧
      completed.toMembers = shared ++ [(("extractedClasses" : Text),Json.texts classes)] ∧
      failed.toMembers = shared ++ [(("error" : Text),.obj [
        ("message",.str (Text.ofString "Failed to process with Tailwind: " ++ e.message)),
        ("code",.str "TAILWIND_PROCESSING_ERROR"),
        ("details",.obj [("type",.str ((e.cause.map Kind.name).getD "CompilerError")),
          ("returncode",(e.status.map Json.int).getD .null),("stderr",.str e.stderr)])])] := by
  obtain ⟨p,hp⟩ := prepare_of_extract hfailed
  have hentries := (prepare_eq_ok.mp hp).2.2
  obtain ⟨candidates,-,hanswer⟩ := extract_of_returns hr hp
  cases hfailed.symm.trans (extract_of_fails hf hp)
  cases hcompleted.symm.trans hanswer
  refine ⟨rfl,?_,fun x hx c hc => hentries.not_confirmed hx hc,_,_,?_,
    Bundle.toMembers_confirmed p.existing p.entries _,?_⟩
  · change p.entries = (p.entries.map _).map Entry.unconfirmed
    rw [List.map_map]
    simp only [Function.comp_def,Entry.unconfirmed_confirm]
    exact hentries.map_unconfirmed.symm
  · rfl
  · rw [Bundle.toMembers_failed,CompilerError.describe_toJson]

/-- One class is confirmed by the compiled text; without it the candidate stays unconfirmed. -/
theorem failure_keeps_flex :
    ∃ failed completed : Bundle,
      (extract "" ".a\x7bdisplay:flex\x7d"
        ⟨fun _ _ => throw (.compiler ⟨"gone",some 2,"no such file",some .noSuchFile⟩)⟩).outcome =
          .ok failed ∧
      (extract "" ".a\x7bdisplay:flex\x7d" ⟨fun _ _ => pure ".flex\x7b\x7d"⟩).outcome =
          .ok completed ∧
      completed.confirmedClasses = some [("flex" : Text)] ∧
      failed.entries = completed.entries.map Entry.unconfirmed ∧
      failed.entries ≠ completed.entries ∧
      ∃ shared : Json.Members, failed.toMembers = shared ++ [(("error" : Text),.obj [
        ("message",.str "Failed to process with Tailwind: gone"),
        ("code",.str "TAILWIND_PROCESSING_ERROR"),
        ("details",.obj [("type",.str "FileNotFoundError"),("returncode",.int 2),
          ("stderr",.str "no such file")])])] := by
  have hfailed : (extract "" ".a\x7bdisplay:flex\x7d"
      ⟨fun _ _ => throw (.compiler ⟨"gone",some 2,"no such file",some .noSuchFile⟩)⟩).outcome =
        .ok (.failed [] [⟨⟨".a",[⟨"display","flex",false⟩]⟩,
          [⟨⟨"display","flex",false⟩,["flex"],false⟩]⟩]
          ⟨"gone",some 2,"no such file",some .noSuchFile⟩) := by cbv
  have hcompleted : (extract "" ".a\x7bdisplay:flex\x7d"
      ⟨fun _ _ => pure ".flex\x7b\x7d"⟩).outcome =
        .ok (.confirmed [] [⟨⟨".a",[⟨"display","flex",false⟩]⟩,
          [⟨⟨"display","flex",false⟩,["flex"],false⟩]⟩] ⟨["flex"],["flex"]⟩) := by cbv
  obtain ⟨-,hentries,-,shared,-,-,-,herror⟩ :=
    failure_keeps_prepared (fun _ _ => rfl) (fun _ _ => rfl) hfailed hcompleted
  exact ⟨_,_,hfailed,hcompleted,rfl,hentries,by decide,shared,herror⟩

end StyleLift
