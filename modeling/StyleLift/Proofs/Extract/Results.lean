import StyleLift.Extract.Format
import StyleLift.Proofs.Extract.Degradation
import StyleLift.Proofs.Extract.Merging
import StyleLift.Proofs.Json.Roundtrip

/-! # The values of results

The value of a conversion is a string or the object of a bundle. The only number that it can hold is
the status a compiler ended with, no object in it has a key twice, and it is three levels deep at
most.
-/
namespace StyleLift

namespace Json
variable {members others : Members}

theorem numbersOfMembers_append (members others : Members) :
    numbersOfMembers (members ++ others) = numbersOfMembers members ++ numbersOfMembers others := by
  induction members with
  | nil => rfl
  | cons member members ih =>
    obtain ⟨key,v⟩ := member
    rw [List.cons_append,numbersOfMembers,numbersOfMembers,ih,List.append_assoc]

theorem distinctKeysOfMembers_append : DistinctKeysOfMembers (members ++ others) ↔
    DistinctKeysOfMembers members ∧ DistinctKeysOfMembers others := by
  induction members with
  | nil => exact ⟨fun h => ⟨trivial,h⟩,And.right⟩
  | cons member members ih =>
    obtain ⟨key,v⟩ := member
    rw [List.cons_append,DistinctKeysOfMembers,DistinctKeysOfMembers,ih,and_assoc]

theorem depthOfMembers_append : depthOfMembers (members ++ others) =
    max (depthOfMembers members) (depthOfMembers others) := by
  induction members with
  | nil => exact (Nat.zero_max _).symm
  | cons member members ih =>
    obtain ⟨key,v⟩ := member
    rw [List.cons_append,depthOfMembers,depthOfMembers,ih,max_assoc]

/-- A value is written just if every number in it is. -/
theorem write_eq_ok {layout : Layout} {finiteOnly : Bool} {v : Json} {text : Text} :
    v.write layout finiteOnly = .ok text ↔
      text = v.toText layout ∧ ∀ n ∈ v.numbers, writeError? finiteOnly n = none := by
  rw [write,← List.findSome?_eq_none_iff]
  cases v.numbers.findSome? (writeError? finiteOnly) <;> simp [eq_comm]

/-! ## Texts and groups -/

theorem numbers_texts (items : List Text) : (texts items).numbers = [] := by
  change numbersOfItems (items.map .str) = []
  induction items with
  | nil => rfl
  | cons s items ih => exact ih

theorem distinctKeys_texts (items : List Text) : (texts items).DistinctKeys := by
  change DistinctKeysOfItems (items.map .str)
  induction items with
  | nil => trivial
  | cons s items ih => exact ⟨trivial,ih⟩

theorem numbers_groups (g : Groups) : (groups g).numbers = [] := by
  change numbersOfMembers (g.map _) = []
  induction g with
  | nil => rfl
  | cons entry g ih =>
    obtain ⟨key,items⟩ := entry
    rw [List.map_cons,numbersOfMembers,numbers_texts,ih]
    rfl

theorem distinctKeys_groups {g : Groups} (h : (g.map Prod.fst).Nodup) :
    (groups g).DistinctKeys := by
  refine ⟨by rwa [List.map_map],?_⟩
  clear h
  induction g with
  | nil => trivial
  | cons entry g ih =>
    obtain ⟨key,items⟩ := entry
    exact ⟨distinctKeys_texts items,ih⟩

theorem depth_texts (items : List Text) : (texts items).depth = 1 := by
  change depthOfItems (items.map .str) + 1 = 1
  induction items with
  | nil => rfl
  | cons s items ih =>
    change max 0 (depthOfItems (items.map .str)) + 1 = 1
    rwa [Nat.zero_max]

theorem depth_groups (g : Groups) : (groups g).depth ≤ 2 := by
  refine Nat.succ_le_succ ?_
  induction g with
  | nil => exact Nat.zero_le 1
  | cons entry g ih =>
    obtain ⟨key,items⟩ := entry
    exact Nat.max_le.mpr ⟨(depth_texts items).le,ih⟩

end Json

namespace Bundle
variable {existing : List Text} {entries : List Entry}

theorem nodup_group (itemsOf : Entry → List Text) (entries : List Entry) :
    ((group itemsOf entries).map Prod.fst).Nodup := by
  rw [keys_group]
  exact nodup_eraseDups _

/-! ## Bundles -/

theorem numbers_preparedMembers (existing : List Text) (entries : List Entry) :
    Json.numbersOfMembers (preparedMembers existing entries) = [] := by
  simp only [preparedMembers,Json.numbersOfMembers,Json.numbers_texts,Json.numbers_groups,
    List.append_nil]

theorem distinctKeys_preparedMembers (existing : List Text) (entries : List Entry) :
    Json.DistinctKeysOfMembers (preparedMembers existing entries) :=
  ⟨Json.distinctKeys_texts existing,Json.distinctKeys_groups (nodup_group _ entries),
    Json.distinctKeys_groups (nodup_group _ entries),trivial⟩

theorem numbers_describe (e : CompilerError) :
    ∀ n ∈ e.describe.toJson.numbers, ∃ status, n = .int status ∧ e.status = some status := by
  rw [e.describe_toJson]
  cases e.status with
  | none => exact fun n hn => by cases hn
  | some status => exact fun n hn => ⟨status,List.mem_singleton.mp hn,rfl⟩

theorem distinctKeys_describe (e : CompilerError) : e.describe.toJson.DistinctKeys := by
  rw [e.describe_toJson]
  have houter : ([("message" : Text),"code","details"]).Nodup := by decide
  have hinner : ([("type" : Text),"returncode","stderr"]).Nodup := by decide
  refine ⟨houter,trivial,trivial,⟨hinner,trivial,?_,trivial,trivial⟩,trivial⟩
  cases e.status <;> trivial

theorem depth_preparedMembers (existing : List Text) (entries : List Entry) :
    Json.depthOfMembers (preparedMembers existing entries) ≤ 2 := by
  simp only [preparedMembers,Json.depthOfMembers,Nat.max_le,Json.depth_texts]
  exact ⟨by decide,Json.depth_groups _,Json.depth_groups _,by decide⟩

theorem depth_describe (e : CompilerError) : e.describe.toJson.depth = 2 := by
  rw [e.describe_toJson]
  cases e.status <;> rfl

end Bundle

variable {html css : Text} {compiler : Compiler} {b : Bundle}

/-- After the prepared members of a bundle come the confirmed classes or the compiler's error. -/
theorem extract_toMembers (h : (extract html css compiler).outcome = .ok b) :
    ∃ existing entries, ∃ member : Text × Json,
      b.toMembers = Bundle.preparedMembers existing entries ++ [member] ∧
        ((∃ items, member = (("extractedClasses" : Text),Json.texts items)) ∨
          ∃ e, (∃ stylesheet, (compiler.compile stylesheet [html]).outcome = .error (.compiler e)) ∧
            member = (("error" : Text),e.describe.toJson)) := by
  obtain ⟨p,-,⟨out,candidates,-,-,rfl⟩ | ⟨e,he,rfl⟩⟩ := extract_eq_bundle.mp h
  · exact ⟨_,_,_,Bundle.toMembers_confirmed p.existing p.entries _,.inl ⟨_,rfl⟩⟩
  · exact ⟨_,_,_,Bundle.toMembers_failed p.existing p.entries e,.inr ⟨e,⟨_,he⟩,rfl⟩⟩

/-- The numbers in a bundle are statuses that the compiler ended with. -/
theorem extract_numbers (h : (extract html css compiler).outcome = .ok b) :
    ∀ n ∈ b.toJson.numbers, ∃ status, n = .int status ∧ ∃ stylesheet e,
      (compiler.compile stylesheet [html]).outcome = .error (.compiler e) ∧
        e.status = some status := by
  obtain ⟨existing,entries,member,hmembers,hlast⟩ := extract_toMembers h
  intro n hn
  rw [Bundle.toJson,hmembers,Json.numbers,Json.numbersOfMembers_append,
    Bundle.numbers_preparedMembers,List.nil_append] at hn
  rcases hlast with ⟨items,rfl⟩ | ⟨e,⟨stylesheet,hcompile⟩,rfl⟩
  · rw [Json.numbersOfMembers,Json.numbers_texts] at hn
    cases hn
  · rw [Json.numbersOfMembers,Json.numbersOfMembers,List.append_nil] at hn
    obtain ⟨status,hnumber,hstatus⟩ := Bundle.numbers_describe e n hn
    exact ⟨status,hnumber,stylesheet,e,hcompile,hstatus⟩

theorem extract_distinctKeys (h : (extract html css compiler).outcome = .ok b) :
    b.toJson.DistinctKeys := by
  obtain ⟨existing,entries,member,hmembers,hlast⟩ := extract_toMembers h
  have hprepared := Bundle.distinctKeys_preparedMembers existing entries
  have hkeys : ∀ key ∈ ([("extractedClasses" : Text),"error"] : List Text),
      ([("existingClasses" : Text),"cssToTailwind","tailwindSuggestions",key]).Nodup := by decide
  rw [Bundle.toJson,hmembers]
  rcases hlast with ⟨items,rfl⟩ | ⟨e,-,rfl⟩
  · exact ⟨hkeys _ List.mem_cons_self,Json.distinctKeysOfMembers_append.mpr
      ⟨hprepared,Json.distinctKeys_texts items,trivial⟩⟩
  · exact ⟨hkeys _ (List.mem_cons_of_mem _ List.mem_cons_self),Json.distinctKeysOfMembers_append.mpr
      ⟨hprepared,Bundle.distinctKeys_describe e,trivial⟩⟩

theorem extract_depth (h : (extract html css compiler).outcome = .ok b) : b.toJson.depth ≤ 3 := by
  obtain ⟨existing,entries,member,hmembers,hlast⟩ := extract_toMembers h
  rw [Bundle.toJson,hmembers,Json.depth,Json.depthOfMembers_append]
  refine Nat.succ_le_succ (Nat.max_le.mpr ⟨Bundle.depth_preparedMembers existing entries,?_⟩)
  rcases hlast with ⟨items,rfl⟩ | ⟨e,-,rfl⟩
  · rw [Json.depthOfMembers,Json.depth_texts]
    decide
  · rw [Json.depthOfMembers,Bundle.depth_describe]
    decide

/-- The value of a conversion is a string or the object of a bundle. -/
theorem convertTo_cases {format : Text} {v : Json}
    (h : (convertTo format html css compiler).outcome = .ok v) :
    (∃ text, v = .str text) ∨ ∃ b, (extract html css compiler).outcome = .ok b ∧ v = b.toJson := by
  rw [convertTo] at h
  split at h
  · next f _ =>
    cases f with
    | tailwind =>
      change (Bundle.toJson <$> extract html css compiler).outcome = _ at h
      rw [Action.outcome_map] at h
      obtain ⟨b,hb,rfl⟩ := map_eq_ok.mp h
      exact .inr ⟨b,hb,rfl⟩
    | _ => exact .inl ⟨_,(Except.ok.inj h).symm⟩
  · cases h

/-- Its only numbers are integers, and its objects have distinct keys. -/
theorem convertTo_value {format : Text} {v : Json}
    (h : (convertTo format html css compiler).outcome = .ok v) :
    (∀ n ∈ v.numbers, ∃ status, n = .int status) ∧ v.DistinctKeys := by
  rcases convertTo_cases h with ⟨text,rfl⟩ | ⟨b,hb,rfl⟩
  · exact ⟨fun n hn => (by cases hn),trivial⟩
  · refine ⟨fun n hn => ?_,extract_distinctKeys hb⟩
    obtain ⟨status,hnumber,-⟩ := extract_numbers hb n hn
    exact ⟨status,hnumber⟩

theorem convertTo_depth {format : Text} {v : Json}
    (h : (convertTo format html css compiler).outcome = .ok v) : v.depth ≤ 3 := by
  rcases convertTo_cases h with ⟨text,rfl⟩ | ⟨b,hb,rfl⟩
  · exact Nat.zero_le 3
  · exact extract_depth hb

end StyleLift
