import Mathlib.Data.List.Nodup
import StyleLift.Proofs.Tool.Stumbling

/-! # Parameters that are strings

A description whose properties are all strings, with or without a list of choices, never makes a
check stumble: arguments pass it, or they are rejected because of a parameter that is missing, is no
string or is none of its choices. Neither the order of the arguments nor other keys matter.
-/
namespace StyleLift

/-- A parameter that takes any string, or one of some choices. An optional one may be left out or
null. -/
structure Parameter where
  key : Text
  optional : Bool
  choices : Option (List Text)

namespace Parameter
variable {p : Parameter} {members : Json.Members}

/-- What can be wrong with the argument for a parameter. -/
inductive Violated (p : Parameter) (members : Json.Members) : Prop
  | absent (hrequired : p.optional = false) (habsent : ∀ v, (p.key,v) ∉ members)
  | notString {v : Json} (h : (p.key,v) ∈ members) (hgiven : ¬ (p.optional = true ∧ v = .null))
      (hstring : ∀ s, v ≠ .str s)
  | notChoice {s : Text} {choices : List Text} (h : (p.key,.str s) ∈ members)
      (hchoices : p.choices = some choices) (houtside : s ∉ choices)

/-- A value that a parameter takes. -/
def Admits (p : Parameter) (v : Json) : Prop :=
  (p.optional = true ∧ v = .null) ∨ ∃ s, v = .str s ∧
    ∀ choices, p.choices = some choices → s ∈ choices

theorem not_violated_iff : ¬ p.Violated members ↔
    (p.optional = false → p.key ∈ members.map Prod.fst) ∧
    ∀ v, (p.key,v) ∈ members → p.Admits v := by
  constructor
  · refine fun h => ⟨fun hrequired => ?_,fun v hv => ?_⟩
    · by_contra hkey
      exact h (.absent hrequired fun v hv => hkey (List.mem_map_of_mem (f := Prod.fst) hv))
    · by_cases hgiven : p.optional = true ∧ v = .null
      · exact .inl hgiven
      by_cases hstring : ∃ s, v = .str s
      · obtain ⟨s,rfl⟩ := hstring
        refine .inr ⟨s,rfl,fun choices hchoices => ?_⟩
        by_contra houtside
        exact h (.notChoice hv hchoices houtside)
      · exact absurd (.notString hv hgiven fun s hs => hstring ⟨s,hs⟩) h
  · rintro ⟨hkey,hadmits⟩ h
    cases h with
    | absent hrequired habsent =>
      obtain ⟨⟨k,v⟩,hmem,rfl⟩ := List.mem_map.mp (hkey hrequired)
      exact habsent v hmem
    | notString hv hgiven hstring =>
      rcases hadmits _ hv with hnull | ⟨s,hs,-⟩
      · exact hgiven hnull
      · exact hstring s hs
    | notChoice hv hchoices houtside =>
      rcases hadmits _ hv with ⟨-,hnull⟩ | ⟨s,hs,hinside⟩
      · cases hnull
      · cases hs
        exact houtside (hinside _ hchoices)

theorem given_of_not_violated (hrequired : p.optional = false) (h : ¬ p.Violated members) :
    ∃ s, (p.key,.str s) ∈ members ∧ ∀ choices, p.choices = some choices → s ∈ choices := by
  obtain ⟨hkey,hadmits⟩ := not_violated_iff.mp h
  obtain ⟨⟨k,v⟩,hmem,rfl⟩ := List.mem_map.mp (hkey hrequired)
  rcases hadmits v hmem with ⟨hoptional,-⟩ | ⟨s,rfl,hinside⟩
  · cases hrequired.symm.trans hoptional
  · exact ⟨s,hmem,hinside⟩

/-- Only what stands at the key of a parameter matters. -/
theorem Violated.of_same {others : Json.Members}
    (h : ∀ v, (p.key,v) ∈ members ↔ (p.key,v) ∈ others) (hv : p.Violated members) :
    p.Violated others := by
  cases hv with
  | absent hrequired habsent => exact .absent hrequired fun v hv => habsent v ((h v).mpr hv)
  | notString hmem hgiven hstring => exact .notString ((h _).mp hmem) hgiven hstring
  | notChoice hmem hchoices houtside => exact .notChoice ((h _).mp hmem) hchoices houtside

/-- A property whose schema describes a parameter. -/
def DescribedBy (p : Parameter) (property : Text × Json) : Prop :=
  property.1 = p.key ∧ ∃ schema, property.2 = .obj schema ∧
    Json.member? "type" schema = some (.str "string") ∧
    Json.member? "enum" schema = p.choices.map Json.texts

end Parameter

namespace Schema
variable {described members properties : Json.Members} {ps : List Parameter} {p : Parameter}
  {key : Text} {value : Json} {fault : Fault}

/-- A description of parameters by a schema for objects. -/
structure Describes (described : Json.Members) (ps : List Parameter) : Prop where
  object : Json.member? "type" described = some (.str "object")
  properties : ∃ found, propertiesOf described = .obj found ∧
    List.Forall₂ Parameter.DescribedBy ps found
  required : requiredOf described =
    Json.texts ((ps.filter fun p => !p.optional).map Parameter.key)
  distinct : (ps.map Parameter.key).Nodup

theorem member?_of_not_mem (h : List.Forall₂ Parameter.DescribedBy ps properties)
    (hkey : key ∉ ps.map Parameter.key) : Json.member? key properties = none := by
  induction h with
  | nil => rfl
  | @cons p property ps properties hp hrest ih =>
    rw [List.map_cons,List.mem_cons,not_or] at hkey
    have hne : (key == property.1) = false := by
      rw [beq_eq_false_iff_ne,hp.1]
      exact hkey.1
    rw [Json.member?,List.lookup_cons,hne]
    exact ih hkey.2

theorem member?_of_mem (h : List.Forall₂ Parameter.DescribedBy ps properties)
    (hdistinct : (ps.map Parameter.key).Nodup) (hp : p ∈ ps) :
    ∃ schema, Json.member? p.key properties = some (.obj schema) ∧
      Json.member? "type" schema = some (.str "string") ∧
      Json.member? "enum" schema = p.choices.map Json.texts := by
  induction h with
  | nil => cases hp
  | @cons q property ps properties hq hrest ih =>
    obtain ⟨hfirst,hdistinct⟩ := List.nodup_cons.mp hdistinct
    rcases List.mem_cons.mp hp with rfl | hp
    · obtain ⟨hkey,schema,hschema,htype,henum⟩ := hq
      refine ⟨schema,?_,htype,henum⟩
      rw [Json.member?,List.lookup_cons,hkey,beq_self_eq_true,← hschema]
    · have hne : (p.key == property.1) = false := by
        rw [beq_eq_false_iff_ne,hq.1]
        intro hsame
        exact hfirst (List.mem_map.mpr ⟨p,hp,hsame⟩)
      obtain ⟨schema,hschema,hrest⟩ := ih hdistinct hp
      refine ⟨schema,?_,hrest⟩
      rw [Json.member?,List.lookup_cons,hne]
      exact hschema

theorem isSchema_of_mem (h : List.Forall₂ Parameter.DescribedBy ps properties) :
    ∀ property ∈ properties, IsSchema property.2 := by
  induction h with
  | nil => exact fun _ h => by cases h
  | cons hp _ ih =>
    obtain ⟨-,schema,hschema,-,henum⟩ := hp
    refine List.forall_mem_cons.mpr ⟨.inr ⟨schema,hschema,fun choices hchoices => ?_⟩,ih⟩
    obtain ⟨texts,-,rfl⟩ := Option.map_eq_some_iff.mp (henum.symm.trans hchoices)
    exact ⟨_,rfl⟩

namespace Describes

theorem valid (h : Describes described ps) : Valid described where
  object := h.object
  properties := by
    obtain ⟨found,hfound,hall⟩ := h.properties
    exact ⟨found,hfound,isSchema_of_mem hall⟩
  required := ⟨_,h.required⟩

theorem member_of_mem (h : Describes described ps) (hp : p ∈ ps) :
    ∃ schema, (propertiesOf described).member p.key = .ok (some (.obj schema)) ∧
      Json.member? "type" schema = some (.str "string") ∧
      Json.member? "enum" schema = p.choices.map Json.texts := by
  obtain ⟨found,hfound,hall⟩ := h.properties
  obtain ⟨schema,hschema,hrest⟩ := member?_of_mem hall h.distinct hp
  refine ⟨schema,?_,hrest⟩
  rw [hfound,← hschema]
  rfl

theorem member_of_not_mem (h : Describes described ps) (hkey : key ∉ ps.map Parameter.key) :
    (propertiesOf described).member key = .ok none := by
  obtain ⟨found,hfound,hall⟩ := h.properties
  rw [hfound,← member?_of_not_mem hall hkey]
  rfl

theorem contents (h : Describes described ps) : (requiredOf described).contents =
    .ok ((ps.filter fun p => !p.optional).map fun p => .str p.key) := by
  rw [h.required,Json.texts,List.map_map]
  rfl

/-- The keys of the parameters that are not optional are the required ones. -/
theorem required_holds (h : Describes described ps) (hp : p ∈ ps) :
    (requiredOf described).holds (.str p.key) = .ok (!p.optional) := by
  obtain ⟨b,hb⟩ := Json.holds_str_of_contents p.key h.contents
  rw [hb,Except.ok.injEq,Bool.eq_iff_iff,← Except.ok.injEq (ε := Fault) b true,← hb,h.required,
    Json.texts_holds]
  constructor
  · rintro ⟨s,hs,hkey⟩
    cases hkey
    obtain ⟨q,hq,hkey⟩ := List.mem_map.mp hs
    obtain ⟨hmem,hrequired⟩ := List.mem_filter.mp hq
    rwa [← List.inj_on_of_nodup_map h.distinct hmem hp hkey]
  · intro hrequired
    exact ⟨p.key,List.mem_map.mpr ⟨p,List.mem_filter.mpr ⟨hp,hrequired⟩,rfl⟩,rfl⟩

/-- An argument for a parameter passes just if the parameter takes it. -/
theorem passes_iff (h : Describes described ps) (hp : p ∈ ps) :
    Passes (propertiesOf described) (requiredOf described) p.key value ↔ p.Admits value := by
  obtain ⟨schema,hmember,htype,henum⟩ := h.member_of_mem hp
  rw [passes_described hmember (by simp),h.required_holds hp,Parameter.Admits]
  refine or_congr ?_ ?_
  · rw [Except.ok.injEq,Bool.not_eq_false',and_comm]
  · constructor
    · rintro ⟨_,hms,hfits⟩
      cases hms
      obtain ⟨s,rfl⟩ := hfits.typed htype
      refine ⟨s,rfl,fun choices hchoices => ?_⟩
      rw [hchoices] at henum
      obtain ⟨t,ht,hsame⟩ := Json.texts_holds.mp (hfits.chosen _ henum)
      cases hsame
      exact ht
    · rintro ⟨s,rfl,hinside⟩
      refine ⟨schema,rfl,fun _ => ⟨s,rfl⟩,fun choices hchoices => ?_⟩
      rw [henum] at hchoices
      obtain ⟨texts,htexts,rfl⟩ := Option.map_eq_some_iff.mp hchoices
      exact Json.texts_holds.mpr ⟨s,hinside texts htexts,rfl⟩

/-- Arguments are accepted just if no parameter is violated. -/
theorem accepts_iff (h : Describes described ps) :
    Accepts (.obj described) members ↔ ∀ p ∈ ps, ¬ p.Violated members := by
  simp only [Parameter.not_violated_iff]
  constructor
  · rintro ⟨_,heq,⟨keys,hkeys,hcomplete⟩,hpasses⟩ p hp
    cases heq
    refine ⟨fun hrequired => ?_,fun v hv => (h.passes_iff hp).mp (hpasses _ hv)⟩
    cases h.contents.symm.trans hkeys
    obtain ⟨k,hk,hkey⟩ := hcomplete (.str p.key)
      (List.mem_map.mpr ⟨p,List.mem_filter.mpr ⟨hp,by rw [hrequired]; rfl⟩,rfl⟩)
    cases hkey
    exact hk
  · intro hall
    refine ⟨described,rfl,⟨_,h.contents,?_⟩,?_⟩
    · intro key hkey
      obtain ⟨p,hp,rfl⟩ := List.mem_map.mp hkey
      obtain ⟨hmem,hrequired⟩ := List.mem_filter.mp hp
      exact ⟨p.key,(hall p hmem).1 (Bool.not_eq_true' _ ▸ hrequired),rfl⟩
    · rintro ⟨key,value⟩ hmem
      by_cases hkey : key ∈ ps.map Parameter.key
      · obtain ⟨p,hp,rfl⟩ := List.mem_map.mp hkey
        exact (h.passes_iff hp).mpr ((hall p hp).2 value hmem)
      · exact .undescribed (h.member_of_not_mem hkey)

theorem not_stumbles (h : Describes described ps) :
    ¬ Stumbles (propertiesOf described) (requiredOf described) key value := by
  intro hstumbles
  by_cases hkey : key ∈ ps.map Parameter.key
  · obtain ⟨p,hp,rfl⟩ := List.mem_map.mp hkey
    obtain ⟨schema,hmember,-,henum⟩ := h.member_of_mem hp
    cases hstumbles with
    | noMembers hbool => cases hmember.symm.trans hbool
    | notListed hobject _ _ hchoices _ hnames =>
      cases hmember.symm.trans hobject
      obtain ⟨texts,-,htexts⟩ := Option.map_eq_some_iff.mp (henum.symm.trans hchoices)
      cases htexts
      obtain ⟨c,hc,hne⟩ := hnames
      obtain ⟨s,-,rfl⟩ := List.mem_map.mp hc
      exact hne s rfl
  · have hnone := h.member_of_not_mem hkey
    cases hstumbles with
    | noMembers hbool => cases hnone.symm.trans hbool
    | notListed hobject => cases hnone.symm.trans hobject

/-- Arguments that are not accepted are rejected. -/
theorem check_rejected (h : Describes described ps)
    (hrefused : ¬ Accepts (.obj described) members) :
    ∃ message, check (.obj described) (.obj members) = .error (rejected message) := by
  cases hcheck : check (.obj described) (.obj members) with
  | ok found => exact absurd (check_returns.mp ⟨found,hcheck⟩) hrefused
  | error fault =>
    rcases check_eq_error h.valid hcheck with ⟨message,rfl⟩ | ⟨-,-,_,_,_,-,-,hstumbles⟩
    · exact ⟨message,rfl⟩
    · exact absurd hstumbles h.not_stumbles

end Describes
end Schema

/-- A definition of a tool with such parameters. -/
def ToolDefinition.Takes (d : ToolDefinition) (ps : List Parameter) : Prop :=
  ∃ described, d.parameters = .obj described ∧ Schema.Describes described ps

namespace Registry
variable {r : Registry} {name : Text} {t : Tool} {ps : List Parameter} {members : Json.Members}

/-- A tool is run where no parameter is violated. -/
theorem call_unviolated (ht : r.get? name = some t) (h : t.definition.Takes ps)
    (hall : ∀ p ∈ ps, ¬ p.Violated members) : r.call name (.obj members) = t.run members := by
  obtain ⟨described,hdescribed,hps⟩ := h
  refine call_accepted ht ?_
  rw [hdescribed]
  exact hps.accepts_iff.mpr hall

theorem call_violated (ht : r.get? name = some t) (h : t.definition.Takes ps) {p : Parameter}
    (hp : p ∈ ps) (hv : p.Violated members) :
    ∃ message, r.call name (.obj members) = throw (Schema.rejected message) := by
  obtain ⟨described,hdescribed,hps⟩ := h
  have hrefused : ¬ Schema.Accepts (.obj described) members := fun haccepts =>
    hps.accepts_iff.mp haccepts p hp hv
  obtain ⟨fault,hfault,hcall⟩ := call_refused ht (hdescribed ▸ hrefused)
  obtain ⟨message,hmessage⟩ := hps.check_rejected hrefused
  rw [hdescribed] at hfault
  cases hfault.symm.trans hmessage
  exact ⟨message,hcall⟩

/-- Nothing but a tool error gets out of a call of tools that take such parameters. -/
theorem call_closed (h : ∀ t ∈ r.tools, ∃ ps, t.definition.Takes ps) (name : Text)
    (members : Json.Members) : (∃ text, (r.call name (.obj members)).outcome = .ok text) ∨
      ∃ e, (r.call name (.obj members)).outcome = .error (.tool e) := by
  cases ht : r.get? name with
  | none =>
    rw [call_unknown ht]
    exact .inr ⟨_,rfl⟩
  | some t =>
    obtain ⟨ps,hps⟩ := h t (List.mem_of_find?_eq_some ht)
    by_cases hv : ∃ p ∈ ps, p.Violated members
    · obtain ⟨p,hp,hviolated⟩ := hv
      obtain ⟨message,hcall⟩ := call_violated ht hps hp hviolated
      rw [hcall]
      exact .inr ⟨_,rfl⟩
    · rw [call_unviolated ht hps fun p hp hviolated => hv ⟨p,hp,hviolated⟩,Tool.run_outcome]
      cases (t.execute members).outcome with
      | ok text => exact .inl ⟨text,rfl⟩
      | error fault => exact .inr ⟨_,rfl⟩

end Registry
end StyleLift
