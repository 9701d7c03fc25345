import Mathlib.Data.List.Induction
import Mathlib.Data.List.Nodup
import StyleLift.Proofs.Tool.Calls

/-! # Histories of a registry

After any operations on an empty registry its tools are those whose names were registered last and
not unregistered since. A name has the place of its first registration since its last
unregistration, and the tool of its last one. Calls are operations too, and change nothing.
-/
namespace StyleLift.Registry

/-! ## Operations -/

/-- What is done to a registry. -/
inductive Operation
  | register (t : Tool)
  | unregister (name : Text)
  | call (name : Text) (arguments : Json.Members)

/-- An operation that registers a name or unregisters it. -/
def Operation.Concerns (name : Text) : Operation → Prop
  | .register t => t.name = name
  | .unregister n => n = name
  | .call _ _ => False

/-- The registry after an operation, with the events that it caused. -/
def perform (r : Registry) : Operation → Traced Registry
  | .register t => pure (r.register t)
  | .unregister name => pure (r.unregister name)
  | .call name arguments => do
    let _ ← (r.call name (.obj arguments)).run
    return r

/-- What becomes of an empty registry. -/
def after (operations : List Operation) : Registry :=
  operations.foldl (fun r operation => (r.perform operation).result) empty

/-! ## Histories -/

section Histories
variable {operations earlier : List Operation} {operation : Operation} {name : Text} {t : Tool}

def Untouched (name : Text) (operations : List Operation) : Prop :=
  ∀ operation ∈ operations, ¬ operation.Concerns name

/-- The last operation that concerns the name of a tool is its registration. -/
def LastRegistered (operations : List Operation) (t : Tool) : Prop :=
  ∃ earlier later, operations = earlier ++ .register t :: later ∧ Untouched t.name later

/-- Nothing concerned a name at all, or since it was unregistered. -/
def Fresh (name : Text) (operations : List Operation) : Prop :=
  Untouched name operations ∨ ∃ earlier later, operations = earlier ++ .unregister name :: later ∧
    Untouched name later

/-- The first registration of a name since its last unregistration comes right after the earlier
operations. -/
def Enters (operations : List Operation) (name : Text) (earlier : List Operation) : Prop :=
  ∃ t later, operations = earlier ++ .register t :: later ∧ t.name = name ∧ Fresh name earlier ∧
    .unregister name ∉ later

theorem Enters.length_lt (h : Enters operations name earlier) :
    earlier.length < operations.length := by
  obtain ⟨t,later,rfl,-⟩ := h
  rw [List.length_append,List.length_cons]
  omega

theorem not_lastRegistered_nil : ¬ LastRegistered [] t := by
  rintro ⟨earlier,later,h,-⟩
  exact absurd h.symm (List.append_ne_nil_of_right_ne_nil _ (List.cons_ne_nil _ _))

/-! The operations are looked at from the last one. -/

/-- An operation among some and one more is the last one or one of the others. -/
theorem append_singleton_eq {x : Operation} {later : List Operation} :
    operations ++ [operation] = earlier ++ x :: later ↔
      (earlier = operations ∧ x = operation ∧ later = []) ∨
        ∃ others, later = others ++ [operation] ∧ operations = earlier ++ x :: others := by
  constructor
  · intro h
    rcases List.eq_nil_or_concat later with rfl | ⟨others,last,rfl⟩
    · obtain ⟨rfl,hlast⟩ := List.append_inj' h rfl
      exact .inl ⟨rfl,(List.singleton_inj.mp hlast).symm,rfl⟩
    · rw [List.concat_eq_append,← List.cons_append,← List.append_assoc] at h
      obtain ⟨rfl,hlast⟩ := List.append_inj' h rfl
      obtain rfl := List.singleton_inj.mp hlast
      exact .inr ⟨others,List.concat_eq_append,rfl⟩
  · rintro (⟨rfl,rfl,rfl⟩ | ⟨others,rfl,rfl⟩)
    · rfl
    · rw [List.append_assoc,List.cons_append]

theorem untouched_snoc : Untouched name (operations ++ [operation]) ↔
    Untouched name operations ∧ ¬ operation.Concerns name := by
  simp only [Untouched,List.forall_mem_append,List.forall_mem_singleton]

theorem lastRegistered_snoc : LastRegistered (operations ++ [operation]) t ↔
    operation = .register t ∨ LastRegistered operations t ∧ ¬ operation.Concerns t.name := by
  constructor
  · rintro ⟨earlier,later,h,hlater⟩
    rcases append_singleton_eq.mp h with ⟨-,rfl,-⟩ | ⟨others,rfl,rfl⟩
    · exact .inl rfl
    · obtain ⟨hothers,hlast⟩ := untouched_snoc.mp hlater
      exact .inr ⟨⟨earlier,others,rfl,hothers⟩,hlast⟩
  · rintro (rfl | ⟨⟨earlier,others,rfl,hothers⟩,hlast⟩)
    · exact ⟨operations,[],rfl,fun _ h => by cases h⟩
    · exact ⟨earlier,_,append_singleton_eq.mpr (.inr ⟨others,rfl,rfl⟩),
        untouched_snoc.mpr ⟨hothers,hlast⟩⟩

theorem fresh_snoc : Fresh name (operations ++ [operation]) ↔
    operation = .unregister name ∨ Fresh name operations ∧ ¬ operation.Concerns name := by
  rw [Fresh,untouched_snoc]
  constructor
  · rintro (⟨hall,hlast⟩ | ⟨earlier,later,h,hlater⟩)
    · exact .inr ⟨.inl hall,hlast⟩
    rcases append_singleton_eq.mp h with ⟨-,rfl,-⟩ | ⟨others,rfl,rfl⟩
    · exact .inl rfl
    · obtain ⟨hothers,hlast⟩ := untouched_snoc.mp hlater
      exact .inr ⟨.inr ⟨earlier,others,rfl,hothers⟩,hlast⟩
  · rintro (rfl | ⟨hall | ⟨earlier,others,rfl,hothers⟩,hlast⟩)
    · exact .inr ⟨operations,[],rfl,fun _ h => by cases h⟩
    · exact .inl ⟨hall,hlast⟩
    · exact .inr ⟨earlier,_,append_singleton_eq.mpr (.inr ⟨others,rfl,rfl⟩),
        untouched_snoc.mpr ⟨hothers,hlast⟩⟩

theorem enters_snoc : Enters (operations ++ [operation]) name earlier ↔
    (earlier = operations ∧ Fresh name operations ∧ ∃ t, operation = .register t ∧ t.name = name) ∨
      Enters operations name earlier ∧ operation ≠ .unregister name := by
  constructor
  · rintro ⟨t,later,h,rfl,hfresh,hlater⟩
    rcases append_singleton_eq.mp h with ⟨rfl,rfl,-⟩ | ⟨others,rfl,rfl⟩
    · exact .inl ⟨rfl,hfresh,t,rfl,rfl⟩
    · rw [List.mem_append,not_or,List.mem_singleton] at hlater
      exact .inr ⟨⟨t,others,rfl,rfl,hfresh,hlater.1⟩,fun h => hlater.2 h.symm⟩
  · rintro (⟨rfl,hfresh,t,rfl,rfl⟩ | ⟨⟨t,others,rfl,rfl,hfresh,hothers⟩,hlast⟩)
    · exact ⟨t,[],rfl,rfl,hfresh,List.not_mem_nil⟩
    · refine ⟨t,_,append_singleton_eq.mpr (.inr ⟨others,rfl,rfl⟩),rfl,hfresh,?_⟩
      rw [List.mem_append,not_or,List.mem_singleton]
      exact ⟨hothers,fun h => hlast h.symm⟩

/-- A name is fresh just if no tool with it was registered last. -/
theorem fresh_iff : Fresh name operations ↔ ∀ t, LastRegistered operations t → t.name ≠ name := by
  induction operations using List.reverseRecOn with
  | nil =>
    exact ⟨fun _ t ht => absurd ht not_lastRegistered_nil,fun _ => .inl fun _ h => by cases h⟩
  | append_singleton operations operation ih =>
    rw [fresh_snoc,ih]
    simp only [lastRegistered_snoc]
    cases operation with
    | register t =>
      simp only [reduceCtorEq,false_or,Operation.register.injEq,Operation.Concerns]
      constructor
      · rintro ⟨hall,hne⟩ s (rfl | ⟨hs,-⟩)
        · exact hne
        · exact hall s hs
      · intro h
        refine ⟨fun s hs hname => ?_,h t (.inl rfl)⟩
        by_cases hsame : t.name = s.name
        · exact h t (.inl rfl) (hsame.trans hname)
        · exact h s (.inr ⟨hs,hsame⟩) hname
    | unregister n =>
      simp only [reduceCtorEq,false_or,Operation.unregister.injEq,Operation.Concerns]
      constructor
      · rintro (rfl | ⟨hall,-⟩) s ⟨hs,hne⟩
        · exact fun h => hne h.symm
        · exact hall s hs
      · intro h
        by_cases hn : n = name
        · exact .inl hn
        · exact .inr ⟨fun s hs hname => h s ⟨hs,fun hsame => hn (hsame.trans hname)⟩ hname,hn⟩
    | call n arguments =>
      simp only [reduceCtorEq,false_or,Operation.Concerns,not_false_eq_true,and_true]

end Histories

/-! ## Places -/

section Places
variable {r : Registry} {tools : List Tool} {name : Text} {s t : Tool}

/-- A new name comes last, and any other stays where it is. -/
theorem names_place (t : Tool) (tools : List Tool) : (place t tools).map Tool.name =
    if t.name ∈ tools.map Tool.name then tools.map Tool.name
    else tools.map Tool.name ++ [t.name] := by
  induction tools with
  | nil => rfl
  | cons s rest ih =>
    rw [place,List.map_cons]
    by_cases h : s.name = t.name
    · rw [if_pos h,if_pos (h ▸ List.mem_cons_self),List.map_cons,h]
    · rw [if_neg h,List.map_cons,ih]
      have hmem : t.name ∈ s.name :: rest.map Tool.name ↔ t.name ∈ rest.map Tool.name := by
        rw [List.mem_cons,or_iff_right fun he => h he.symm]
      simp only [hmem]
      split <;> rfl

theorem mem_place (h : (tools.map Tool.name).Nodup) :
    s ∈ place t tools ↔ s = t ∨ s ∈ tools ∧ s.name ≠ t.name := by
  induction tools with
  | nil => simp [place]
  | cons first rest ih =>
    obtain ⟨hfirst,hrest⟩ := List.nodup_cons.mp h
    rw [place]
    split
    · next hsame =>
      -- the rest has no other tool with the name that is replaced
      have hother : s ∈ rest → s.name ≠ t.name := fun hs hname =>
        hfirst (List.mem_map.mpr ⟨s,hs,hname.trans hsame.symm⟩)
      simp only [List.mem_cons]
      constructor
      · rintro (hs | hs)
        · exact .inl hs
        · exact .inr ⟨.inr hs,hother hs⟩
      · rintro (hs | ⟨rfl | hs,hne⟩)
        · exact .inl hs
        · exact absurd hsame hne
        · exact .inr hs
    · next hne =>
      simp only [List.mem_cons,ih hrest]
      constructor
      · rintro (rfl | rfl | ⟨hs,hname⟩)
        · exact .inr ⟨.inl rfl,hne⟩
        · exact .inl rfl
        · exact .inr ⟨.inr hs,hname⟩
      · rintro (rfl | ⟨rfl | hs,hname⟩)
        · exact .inr (.inl rfl)
        · exact .inl rfl
        · exact .inr (.inr ⟨hs,hname⟩)

theorem mem_names : name ∈ r.names ↔ ∃ t ∈ r.tools, t.name = name := List.mem_map

/-- Where no name stands twice, a tool is found by its name. -/
theorem get?_eq_some (h : r.names.Nodup) : r.get? name = some t ↔ t ∈ r.tools ∧ t.name = name := by
  rw [get?]
  constructor
  · intro hfound
    exact ⟨List.mem_of_find?_eq_some hfound,by simpa using List.find?_some hfound⟩
  · rintro ⟨ht,rfl⟩
    cases hfound : r.tools.find? (fun s => s.name = t.name) with
    | none => simpa using List.find?_eq_none.mp hfound t ht
    | some s =>
      have hname : s.name = t.name := by simpa using List.find?_some hfound
      rw [List.inj_on_of_nodup_map h (List.mem_of_find?_eq_some hfound) ht hname]

theorem names_unregister (r : Registry) (name : Text) :
    (r.unregister name).names = r.names.filter (· ≠ name) := by
  rw [names,names,List.filter_map]
  rfl

end Places

/-! ## What a registry remembers -/

/-- A registry holds just what its history says. -/
structure Remembers (operations : List Operation) (r : Registry) : Prop where
  distinct : r.names.Nodup
  tools : ∀ t, t ∈ r.tools ↔ LastRegistered operations t
  entered : ∀ name, name ∈ r.names ↔ ∃ earlier, Enters operations name earlier
  ordered : r.names.Pairwise fun a b => ∀ earlier later,
    Enters operations a earlier → Enters operations b later → earlier.length < later.length

namespace Remembers
variable {operations : List Operation} {r : Registry} {name : Text}

theorem mem_names (h : Remembers operations r) :
    name ∈ r.names ↔ ∃ t, LastRegistered operations t ∧ t.name = name := by
  simp only [Registry.mem_names,h.tools]

theorem fresh (h : Remembers operations r) : Fresh name operations ↔ name ∉ r.names := by
  rw [fresh_iff,h.mem_names]
  simp only [not_exists,not_and,ne_eq]

protected theorem empty : Remembers [] empty where
  distinct := List.nodup_nil
  tools t := ⟨fun h => (by cases h),fun h => absurd h not_lastRegistered_nil⟩
  entered name := by
    refine ⟨fun h => (by cases h),?_⟩
    rintro ⟨earlier,h⟩
    exact absurd h.length_lt (Nat.not_lt_zero _)
  ordered := .nil

/-- Names that keep their entrances stay in order. -/
theorem ordered_of_kept (h : Remembers operations r) {names : List Text} {operation : Operation}
    (hsub : names.Sublist r.names) (hkept : ∀ name ∈ names, ∀ earlier,
      Enters (operations ++ [operation]) name earlier → Enters operations name earlier) :
    names.Pairwise fun a b => ∀ earlier later, Enters (operations ++ [operation]) a earlier →
      Enters (operations ++ [operation]) b later → earlier.length < later.length := by
  refine (h.ordered.sublist hsub).imp_of_mem ?_
  intro a b ha hb hab earlier later hearlier hlater
  exact hab _ _ (hkept a ha _ hearlier) (hkept b hb _ hlater)

protected theorem register (h : Remembers operations r) (t : Tool) :
    Remembers (operations ++ [.register t]) (r.register t) := by
  have hnames : (r.register t).names = if t.name ∈ r.names then r.names else r.names ++ [t.name] :=
    names_place t r.tools
  have henters : ∀ name earlier, Enters (operations ++ [.register t]) name earlier ↔
      (earlier = operations ∧ name ∉ r.names ∧ t.name = name) ∨ Enters operations name earlier := by
    intro name earlier
    simp only [enters_snoc,h.fresh,Operation.register.injEq,exists_eq_left',ne_eq,reduceCtorEq,
      not_false_eq_true,and_true]
  -- the entrance of a name that is there already is an earlier one
  have hkept : ∀ name ∈ r.names, ∀ earlier,
      Enters (operations ++ [.register t]) name earlier → Enters operations name earlier :=
    fun name hname earlier hearlier =>
      ((henters name earlier).mp hearlier).resolve_left fun hnew => hnew.2.1 hname
  refine ⟨?_,fun s => ?_,fun name => ?_,?_⟩
  · rw [hnames]
    split
    · exact h.distinct
    · next hnew =>
      exact List.nodup_append.mpr ⟨h.distinct,List.nodup_singleton _,fun a ha b hb hab =>
        hnew (List.mem_singleton.mp hb ▸ hab ▸ ha)⟩
  · rw [lastRegistered_snoc,← h.tools,Operation.register.injEq,eq_comm (a := t)]
    exact (mem_place h.distinct).trans (or_congr_right (and_congr_right' ne_comm))
  · have hmem : name ∈ (r.register t).names ↔ name ∈ r.names ∨ t.name = name := by
      rw [hnames]
      split
      · next hold => exact ⟨.inl,Or.rec id fun hname => hname ▸ hold⟩
      · rw [List.mem_append,List.mem_singleton,eq_comm]
    simp only [henters,exists_or,exists_eq_left,← h.entered,hmem]
    tauto
  · have hold := h.ordered_of_kept (.refl r.names) hkept
    rw [hnames]
    split
    · exact hold
    · next hnew =>
      refine List.pairwise_append.mpr ⟨hold,List.pairwise_singleton _ _,?_⟩
      intro a ha b hb earlier later hearlier hlater
      obtain rfl := List.mem_singleton.mp hb
      rcases (henters _ later).mp hlater with ⟨rfl,-⟩ | hentered
      · exact (hkept a ha earlier hearlier).length_lt
      · exact absurd ((h.entered _).mpr ⟨later,hentered⟩) hnew

protected theorem unregister (h : Remembers operations r) (name : Text) :
    Remembers (operations ++ [.unregister name]) (r.unregister name) := by
  have hmem : ∀ n, n ∈ (r.unregister name).names ↔ n ∈ r.names ∧ n ≠ name := by
    intro n
    rw [names_unregister,List.mem_filter,decide_eq_true_eq]
  have henters : ∀ n earlier, Enters (operations ++ [.unregister name]) n earlier ↔
      Enters operations n earlier ∧ n ≠ name := by
    intro n earlier
    simp only [enters_snoc,reduceCtorEq,false_and,exists_false,and_false,false_or,ne_eq,
      Operation.unregister.injEq,eq_comm]
  have hsub : (r.unregister name).names.Sublist r.names := by
    rw [names_unregister]
    exact List.filter_sublist
  refine ⟨h.distinct.sublist hsub,fun t => ?_,fun n => ?_,
    h.ordered_of_kept hsub fun n _ earlier hn => ?_⟩
  · rw [lastRegistered_snoc,← h.tools,or_iff_right (by simp only [reduceCtorEq,not_false_eq_true])]
    exact List.mem_filter.trans (and_congr_right' (decide_eq_true_iff.trans ne_comm))
  · simp only [hmem,henters,h.entered,exists_and_right]
  · exact ((henters n earlier).mp hn).1

protected theorem call (h : Remembers operations r) (name : Text) (arguments : Json.Members) :
    Remembers (operations ++ [.call name arguments]) r := by
  have henters : ∀ n earlier, Enters (operations ++ [.call name arguments]) n earlier ↔
      Enters operations n earlier := by
    intro n earlier
    simp only [enters_snoc,reduceCtorEq,false_and,exists_false,and_false,false_or,ne_eq,
      not_false_eq_true,and_true]
  refine ⟨h.distinct,fun t => ?_,fun n => ?_,h.ordered_of_kept (.refl _) fun n _ earlier =>
    (henters n earlier).mp⟩
  · simp only [lastRegistered_snoc,h.tools,reduceCtorEq,false_or,
      Operation.Concerns,not_false_eq_true,
      and_true]
  · simp only [henters,h.entered]

/-- Whatever is done to a registry becomes the last of its history. -/
theorem perform (h : Remembers operations r) (operation : Operation) :
    Remembers (operations ++ [operation]) (r.perform operation).result := by
  cases operation with
  | register t => exact h.register t
  | unregister name => exact h.unregister name
  | call name arguments => exact h.call name arguments

end Remembers

theorem after_snoc (operations : List Operation) (operation : Operation) :
    after (operations ++ [operation]) = ((after operations).perform operation).result :=
  List.foldl_concat ..

theorem after_remembers (operations : List Operation) :
    Remembers operations (after operations) := by
  induction operations using List.reverseRecOn with
  | nil => exact .empty
  | append_singleton operations operation ih =>
    rw [after_snoc]
    exact ih.perform operation

/-! ## The registry and its history -/

/-- After any operations no name is listed twice, the names are those whose last operation is a
registration, and they stand in the order of their first registrations since their last
unregistrations. The definitions are those of the last registrations, in the same order, and so are
the tools that are found. A call leaves the registry as it is; it is one execution of the tool that
was registered last, on the given arguments, if these are accepted, and nothing but a fault
otherwise. -/
theorem history_kept (operations : List Operation) :
    (after operations).names.Nodup ∧
    (∀ name, name ∈ (after operations).names ↔ ∃ t, LastRegistered operations t ∧ t.name = name) ∧
    (∀ name ∈ (after operations).names, ∃ earlier, Enters operations name earlier) ∧
    ((after operations).names.Pairwise fun a b => ∀ earlier later,
      Enters operations a earlier → Enters operations b later → earlier.length < later.length) ∧
    List.Forall₂ (fun name d => ∃ t, LastRegistered operations t ∧ t.name = name ∧ t.definition = d)
      (after operations).names (after operations).definitions ∧
    (∀ name t, (after operations).get? name = some t ↔
      LastRegistered operations t ∧ t.name = name) ∧
    ∀ name arguments,
      after (operations ++ [.call name arguments]) = after operations ∧
      (∀ t, LastRegistered operations t → t.name = name →
        Schema.Accepts t.definition.parameters arguments →
          (after operations).call name (.obj arguments) =
            tryCatch (t.execute arguments) (Tool.blame name) ∧
          ((after operations).call name (.obj arguments)).events = (t.execute arguments).events ++
            match (t.execute arguments).outcome with
            | .ok _ => []
            | .error fault => Tool.remarks name fault) ∧
      (∀ t, LastRegistered operations t → t.name = name →
        ¬ Schema.Accepts t.definition.parameters arguments →
          ∃ fault, Schema.check t.definition.parameters (.obj arguments) = .error fault ∧
            (after operations).call name (.obj arguments) = throw fault) ∧
      ((¬ ∃ t, LastRegistered operations t ∧ t.name = name) →
        (after operations).call name (.obj arguments) = throw (unknownTool name)) := by
  have h := after_remembers operations
  have hget : ∀ name t, (after operations).get? name = some t ↔
      LastRegistered operations t ∧ t.name = name := by
    intro name t
    rw [get?_eq_some h.distinct,h.tools]
  refine ⟨h.distinct,fun name => h.mem_names,fun name => (h.entered name).mp,h.ordered,?_,hget,
    fun name arguments => ⟨by rw [after_snoc]; rfl,?_,?_,?_⟩⟩
  · rw [names,definitions,List.forall₂_map_left_iff,List.forall₂_map_right_iff,List.forall₂_same]
    exact fun t ht => ⟨t,(h.tools t).mp ht,rfl,rfl⟩
  · rintro t ht rfl haccepts
    rw [call_accepted ((hget _ _).mpr ⟨ht,rfl⟩) haccepts]
    exact ⟨rfl,Tool.run_events t arguments⟩
  · intro t ht hname hrefused
    exact call_refused ((hget _ _).mpr ⟨ht,hname⟩) hrefused
  · intro hnone
    refine call_unknown (Option.eq_none_iff_forall_ne_some.mpr fun t ht => ?_) _
    exact hnone ⟨t,(hget name t).mp ht⟩

/-- A tool that takes anything and gives one text. -/
def constantTool (name text : Text) : Tool := ⟨⟨name,"",.obj []⟩,fun _ => pure text⟩

/-- Of two tools the first is put away and comes back, and the second is replaced. -/
def replacements : List Operation := [
  .register (constantTool "a" "first"),.register (constantTool "b" "second"),.call "a" [],
  .unregister "a",.register (constantTool "a" "third"),.register (constantTool "b" "fourth")]

/-- The first comes last then, and the second is run as it was replaced. -/
theorem history_kept_replacements : (after replacements).names = ["b","a"] ∧
    LastRegistered replacements (constantTool "b" "fourth") ∧
    ((after replacements).call "b" (.obj [])).outcome = .ok "fourth" := by
  have h := history_kept replacements
  have hlast : LastRegistered replacements (constantTool "b" "fourth") :=
    ((h.2.2.2.2.2.1 "b" _).mp rfl).1
  have haccepts : Schema.Accepts (constantTool "b" "fourth").definition.parameters [] :=
    ⟨[],rfl,⟨[],rfl,fun _ h => by cases h⟩,fun _ h => by cases h⟩
  refine ⟨rfl,hlast,?_⟩
  rw [((h.2.2.2.2.2.2 "b" []).2.1 _ hlast rfl haccepts).1]
  rfl

end StyleLift.Registry
