import StyleLift.Proofs.Tool.Calls

/-! # Where a check stumbles

With a description of parameters that is a schema for objects, the first argument that does not pass
is rejected, unless its property has no object for a schema, or its value is none of the choices
and these cannot all be listed in a message. There the check ends in a fault that is no tool error,
and it is the only way by which one gets out of a call.
-/
namespace StyleLift

namespace Schema
variable {schema described members : Json.Members} {properties required value : Json} {key : Text}
  {fault : Fault}

/-! ## Schemas for objects -/

/-- A schema: one that says nothing but true or false, or an object that may have a list of
choices. -/
def IsSchema (v : Json) : Prop :=
  (∃ b, v = .bool b) ∨ ∃ members, v = .obj members ∧
    ∀ choices, Json.member? "enum" members = some choices → ∃ items, choices = .arr items

/-- A description of parameters that is a schema for objects. -/
structure Valid (described : Json.Members) : Prop where
  object : Json.member? "type" described = some (.str "object")
  properties : ∃ found, propertiesOf described = .obj found ∧ ∀ p ∈ found, IsSchema p.2
  required : ∃ keys, requiredOf described = Json.texts keys

/-- An argument that is neither let through nor rejected: the schema of its property has no members
to look at, or its value is none of the choices and these cannot all be listed. -/
inductive Stumbles (properties required : Json) (key : Text) (value : Json) : Prop
  | noMembers {b : Bool} (h : properties.member key = .ok (some (.bool b)))
      (hgiven : ¬ (value = .null ∧ required.holds (.str key) = .ok false))
  | notListed {schema : Json.Members} {choices : List Json}
      (h : properties.member key = .ok (some (.obj schema)))
      (hgiven : ¬ (value = .null ∧ required.holds (.str key) = .ok false))
      (htyped : Json.member? "type" schema = some (.str "string") → ∃ s, value = .str s)
      (hchoices : Json.member? "enum" schema = some (.arr choices))
      (houtside : ∀ c ∈ choices, value.sameAs c = false) (hnames : ∃ c ∈ choices, ∀ s, c ≠ .str s)

/-- The check comes to an argument at which it stumbles. -/
structure Stumbling (described members : Json.Members) : Prop where
  complete : ∃ keys, (requiredOf described).contents = .ok keys ∧
    ∀ key ∈ keys, ∃ k ∈ members.map Prod.fst, key = .str k
  reaches : ∃ before a after, members = before ++ a :: after ∧
    (∀ b ∈ before, Passes (propertiesOf described) (requiredOf described) b.1 b.2) ∧
    Stumbles (propertiesOf described) (requiredOf described) a.1 a.2

/-! ## Faults of the check -/

/-- A fault of the wrong sort of value. -/
def IsStumble (fault : Fault) : Prop := fault = .noMembers ∨ fault = .notContainer

def IsRejection (fault : Fault) : Prop := ∃ message, fault = rejected message

theorem IsStumble.ne_tool (h : IsStumble fault) (e : ToolError) : fault ≠ .tool e := by
  rintro rfl
  rcases h with h | h <;> cases h

theorem choiceNames_arr {choices : List Json} :
    (∃ names, choiceNames (.arr choices) = .ok names ∧ ∀ c ∈ choices, ∃ s, c = .str s) ∨
      choiceNames (.arr choices) = .error .notContainer ∧ ∃ c ∈ choices, ∀ s, c ≠ .str s := by
  obtain ⟨name,hall,hstring,hother⟩ : ∃ name : Json → Except Fault Text,
      choiceNames (.arr choices) = choices.mapM name ∧ (∀ s, name (.str s) = .ok s) ∧
        ∀ c, (∀ s, c ≠ .str s) → name c = .error .notContainer := by
    refine ⟨_,rfl,fun _ => rfl,fun c hc => ?_⟩
    cases c with
    | str s => exact absurd rfl (hc s)
    | _ => rfl
  rw [hall]
  cases hnames : choices.mapM name with
  | ok names =>
    refine .inl ⟨names,rfl,fun c hc => ?_⟩
    by_contra hne
    obtain ⟨s,hs⟩ := mapM_returns.mp ⟨names,hnames⟩ c hc
    rw [hother c (not_exists.mp hne)] at hs
    cases hs
  | error fault =>
    obtain ⟨c,hc,hfault⟩ := mapM_eq_error hnames
    have hne : ∀ s, c ≠ .str s := by
      rintro s rfl
      rw [hstring] at hfault
      cases hfault
    cases (hother c hne).symm.trans hfault
    exact .inr ⟨rfl,c,hc,hne⟩

/-- A value that is none of the choices is answered with their names. -/
theorem checkValue_outside {choices : List Json} (key : Text)
    (htyped : Json.member? "type" schema = some (.str "string") → ∃ s, value = .str s)
    (hchoices : Json.member? "enum" schema = some (.arr choices))
    (houtside : ∀ c ∈ choices, value.sameAs c = false) : checkValue key value (.obj schema) =
      choiceNames (.arr choices) >>= fun names => .error (notChoice key names) := by
  have hheld : choices.any value.sameAs = false :=
    List.any_eq_false.mpr fun c hc => by rw [houtside c hc]; exact Bool.false_ne_true
  rw [checkValue_obj,if_neg (not_wrongType_iff.mpr htyped),hchoices]
  dsimp only
  rw [Json.arr_holds,hheld]
  rfl

/-- What becomes of an argument under a schema with a list of choices. -/
theorem checkValue_cases (key : Text) (value : Json)
    (hlist : ∀ choices, Json.member? "enum" schema = some choices → ∃ items, choices = .arr items) :
    checkValue key value (.obj schema) = .ok () ∨
    (∃ fault, checkValue key value (.obj schema) = .error fault ∧ IsRejection fault) ∨
    ∃ choices, checkValue key value (.obj schema) = .error .notContainer ∧
      (Json.member? "type" schema = some (.str "string") → ∃ s, value = .str s) ∧
      Json.member? "enum" schema = some (.arr choices) ∧
      (∀ c ∈ choices, value.sameAs c = false) ∧ ∃ c ∈ choices, ∀ s, c ≠ .str s := by
  by_cases hfits : Fits schema value
  · exact .inl ((checkValue_eq_ok key).mpr ⟨schema,rfl,hfits⟩)
  by_cases htyped : Json.member? "type" schema = some (.str "string") → ∃ s, value = .str s
  · -- the type is right, so there are choices, and the value is none of them
    obtain ⟨choices,henum,hheld⟩ : ∃ choices, Json.member? "enum" schema = some choices ∧
        choices.holds value ≠ .ok true := by
      by_contra hchosen
      refine hfits ⟨htyped,fun choices henum => ?_⟩
      by_contra hheld
      exact hchosen ⟨choices,henum,hheld⟩
    obtain ⟨items,rfl⟩ := hlist choices henum
    have houtside : ∀ c ∈ items, value.sameAs c = false := by
      simpa [Json.arr_holds] using hheld
    rw [checkValue_outside key htyped henum houtside]
    rcases choiceNames_arr with ⟨names,hnames,-⟩ | ⟨hnames,hc⟩
    · rw [hnames]
      exact .inr (.inl ⟨_,rfl,_,rfl⟩)
    · rw [hnames]
      exact .inr (.inr ⟨items,rfl,htyped,henum,houtside,hc⟩)
  · rw [checkValue_obj,if_pos (not_not.mp (mt not_wrongType_iff.mp htyped))]
    exact .inr (.inl ⟨_,rfl,_,rfl⟩)

theorem Stumbles.checkArgument {keys : List Json} (hkeys : required.contents = .ok keys)
    (h : Stumbles properties required key value) :
    ∃ fault, Schema.checkArgument properties required key value = .error fault ∧
      IsStumble fault := by
  obtain ⟨b,hb⟩ := Json.holds_str_of_contents key hkeys
  have hlooked : ∀ {schema : Json}, properties.member key = .ok (some schema) → schema ≠ .null →
      ¬ (value = .null ∧ required.holds (.str key) = .ok false) →
        Schema.checkArgument properties required key value = checkValue key value schema := by
    intro schema hschema hne hgiven
    rw [checkArgument_described hschema hne hb,if_neg (mt (omitted_iff hb).mp hgiven)]
  cases h with
  | noMembers h hgiven =>
    rw [hlooked h (fun hnull => by cases hnull) hgiven]
    exact ⟨_,rfl,.inl rfl⟩
  | notListed h hgiven htyped hchoices houtside hnames =>
    rw [hlooked h (fun hnull => by cases hnull) hgiven,
      checkValue_outside key htyped hchoices houtside]
    rcases choiceNames_arr with ⟨_,-,hstrings⟩ | ⟨herror,-⟩
    · obtain ⟨c,hc,hne⟩ := hnames
      obtain ⟨s,hs⟩ := hstrings c hc
      exact absurd hs (hne s)
    · rw [herror]
      exact ⟨_,rfl,.inr rfl⟩

theorem checkArgument_eq_error {found : Json.Members} {keys : List Json}
    (hproperties : ∀ p ∈ found, IsSchema p.2) (hkeys : required.contents = .ok keys)
    (h : checkArgument (.obj found) required key value = .error fault) :
    IsRejection fault ∨ IsStumble fault ∧ Stumbles (.obj found) required key value := by
  have hmember : (Json.obj found).member key = .ok (Json.member? key found) := rfl
  cases hschema : Json.member? key found with
  | none =>
    rw [hschema] at hmember
    rw [checkArgument,hmember] at h
    cases h
  | some schema =>
    rw [hschema] at hmember
    obtain ⟨before,after,hfound,-⟩ := List.lookup_eq_some_iff.mp hschema
    have hkind : IsSchema schema := hproperties (key,schema) (by rw [hfound]; simp)
    have hne : schema ≠ .null := by
      rintro rfl
      rcases hkind with ⟨_,h⟩ | ⟨_,h,-⟩ <;> cases h
    obtain ⟨b,hb⟩ := Json.holds_str_of_contents key hkeys
    rw [checkArgument_described hmember hne hb] at h
    split at h
    · cases h
    · next homitted =>
      have hgiven := mt (omitted_iff hb).mpr homitted
      rcases hkind with ⟨_,rfl⟩ | ⟨ms,rfl,hlist⟩
      · cases h
        exact .inr ⟨.inl rfl,.noMembers hmember hgiven⟩
      · rcases checkValue_cases key value hlist with
          hok | ⟨_,herror,hrejected⟩ | ⟨choices,herror,htyped,hchoices,houtside,hnames⟩
        · rw [hok] at h
          cases h
        · cases h.symm.trans herror
          exact .inl hrejected
        · cases h.symm.trans herror
          exact .inr ⟨.inr rfl,.notListed hmember hgiven htyped hchoices houtside hnames⟩

theorem requireKey_str_eq_error (h : requireKey members (.str key) = .error fault) :
    IsRejection fault := by
  rw [requireKey_str] at h
  split at h
  · cases h
  · cases h
    exact ⟨_,rfl⟩

theorem Stumbling.check (h : Stumbling described members) :
    ∃ fault, Schema.check (.obj described) (.obj members) = .error fault ∧ IsStumble fault := by
  obtain ⟨⟨keys,hkeys,hcomplete⟩,before,a,after,hmembers,hbefore,ha⟩ := h
  obtain ⟨fault,hfault,hstumble⟩ := ha.checkArgument hkeys
  refine ⟨fault,?_,hstumble⟩
  rw [check_obj]
  refine bind_eq_error.mpr (.inr ⟨keys,hkeys,bind_eq_error.mpr
    (.inr ⟨(),?_,bind_eq_error.mpr (.inl ?_)⟩)⟩)
  · exact forM_eq_ok.mpr fun key hkey => requireKey_eq_ok.mpr (hcomplete key hkey)
  · exact forM_eq_error.mpr ⟨before,a,after,hmembers,
      fun b hb => (checkArgument_eq_ok hkeys).mpr (hbefore b hb),hfault⟩

theorem check_eq_error (hv : Valid described)
    (h : check (.obj described) (.obj members) = .error fault) :
    IsRejection fault ∨ IsStumble fault ∧ Stumbling described members := by
  obtain ⟨found,hfound,hschemas⟩ := hv.properties
  obtain ⟨required,hrequired⟩ := hv.required
  have hkeys : (requiredOf described).contents = .ok (required.map Json.str) := by
    rw [hrequired]
    rfl
  rw [check_obj,hkeys] at h
  -- the check fails at a required key that is missing, or at the first argument that does not pass
  rcases bind_eq_error.mp h with h | ⟨_,hkey,h⟩
  · cases h
  cases hkey
  rcases bind_eq_error.mp h with h | ⟨_,hloop,h⟩
  · obtain ⟨_,key,_,hsplit,-,herror⟩ := forM_eq_error.mp h
    obtain ⟨k,-,rfl⟩ := List.mem_map.mp (show key ∈ required.map Json.str by rw [hsplit]; simp)
    exact .inl (requireKey_str_eq_error herror)
  rcases bind_eq_error.mp h with h | ⟨_,-,h⟩
  · obtain ⟨before,a,after,hmembers,hbefore,herror⟩ := forM_eq_error.mp h
    rw [hfound] at herror
    refine (checkArgument_eq_error hschemas hkeys herror).imp_right fun hstumble => ⟨hstumble.1,
      ⟨⟨_,hkeys,fun key hkey => requireKey_eq_ok.mp (forM_eq_ok.mp hloop key hkey)⟩,before,a,after,
        hmembers,fun b hb => (checkArgument_eq_ok hkeys).mp (hbefore b hb),?_⟩⟩
    rw [hfound]
    exact hstumble.2
  · cases h

end Schema

/-! ## What gets out of a call -/

/-- A definition whose parameters are a schema for objects. -/
def ToolDefinition.HasSchema (d : ToolDefinition) : Prop :=
  ∃ described, d.parameters = .obj described ∧ Schema.Valid described

/-- A check of arguments against a definition comes to a place where it stumbles. -/
def ToolDefinition.StumblesOn (d : ToolDefinition) (members : Json.Members) : Prop :=
  ∃ described, d.parameters = .obj described ∧ Schema.Stumbling described members

theorem ToolDefinition.StumblesOn.not_accepts {d : ToolDefinition} {members : Json.Members}
    (h : d.StumblesOn members) : ¬ Schema.Accepts d.parameters members := by
  obtain ⟨described,hdescribed,hstumbling⟩ := h
  obtain ⟨fault,hfault,-⟩ := hstumbling.check
  rw [← Schema.check_returns,hdescribed]
  rintro ⟨found,hfound⟩
  cases hfault.symm.trans hfound

namespace Registry
variable {r : Registry} {name : Text} {members : Json.Members} {fault : Fault}

/-- A fault other than a tool error comes out of a call only where the check stumbles. -/
theorem call_eq_error (hschema : ∀ t, r.get? name = some t → t.definition.HasSchema)
    (h : (r.call name (.obj members)).outcome = .error fault) :
    (∃ e, fault = .tool e) ∨
      Schema.IsStumble fault ∧ ∃ t, r.get? name = some t ∧ t.definition.StumblesOn members := by
  cases ht : r.get? name with
  | none =>
    rw [call_unknown ht] at h
    cases h
    exact .inl ⟨_,rfl⟩
  | some t =>
    by_cases haccepts : Schema.Accepts t.definition.parameters members
    · rw [call_accepted ht haccepts] at h
      obtain ⟨_,-,rfl⟩ := Tool.run_eq_error.mp h
      exact .inl ⟨_,rfl⟩
    · obtain ⟨_,hcheck,hcall⟩ := call_refused ht haccepts
      rw [hcall] at h
      cases h
      obtain ⟨described,hdescribed,hvalid⟩ := hschema t ht
      rw [hdescribed] at hcheck
      rcases Schema.check_eq_error hvalid hcheck with ⟨message,rfl⟩ | ⟨hstumble,hstumbling⟩
      · exact .inl ⟨_,rfl⟩
      · exact .inr ⟨hstumble,t,rfl,described,hdescribed,hstumbling⟩

theorem call_stumbles {t : Tool} (ht : r.get? name = some t) (h : t.definition.StumblesOn members) :
    ∃ fault, (r.call name (.obj members)).outcome = .error fault ∧ Schema.IsStumble fault := by
  obtain ⟨_,hcheck,hcall⟩ := call_refused ht h.not_accepts
  obtain ⟨described,hdescribed,hstumbling⟩ := h
  obtain ⟨fault,hfault,hstumble⟩ := hstumbling.check
  rw [hdescribed] at hcheck
  cases hfault.symm.trans hcheck
  exact ⟨_,by rw [hcall]; rfl,hstumble⟩

/-- A call of a tool whose parameters are a schema for objects ends in the text of its executor or
in a tool error, just if the check does not stumble: over a property that has true or false for a
schema, or over a value that is none of the choices when these are not all strings. -/
theorem call_closed_iff (hschema : ∀ t, r.get? name = some t → t.definition.HasSchema) :
    (((∃ text, (r.call name (.obj members)).outcome = .ok text) ∨
        ∃ e, (r.call name (.obj members)).outcome = .error (.tool e)) ↔
      ¬ ∃ t, r.get? name = some t ∧ t.definition.StumblesOn members) ∧
    (∀ text, (r.call name (.obj members)).outcome = .ok text →
      ∃ t, r.get? name = some t ∧ (t.execute members).outcome = .ok text) ∧
    ∀ fault, (r.call name (.obj members)).outcome = .error fault → (∀ e, fault ≠ .tool e) →
      fault = .noMembers ∨ fault = .notContainer := by
  refine ⟨⟨?_,fun h => ?_⟩,fun text => call_eq_ok,fun fault h hother => ?_⟩
  · rintro hends ⟨t,ht,hstumbles⟩
    obtain ⟨fault,hfault,hstumble⟩ := call_stumbles ht hstumbles
    rcases hends with ⟨text,htext⟩ | ⟨e,he⟩
    · cases hfault.symm.trans htext
    · cases hfault.symm.trans he
      exact hstumble.ne_tool e rfl
  · cases houtcome : (r.call name (.obj members)).outcome with
    | ok text => exact .inl ⟨text,rfl⟩
    | error fault =>
      rcases call_eq_error hschema houtcome with ⟨e,rfl⟩ | ⟨-,hstumbles⟩
      · exact .inr ⟨e,rfl⟩
      · exact absurd hstumbles h
  · rcases call_eq_error hschema h with ⟨e,rfl⟩ | ⟨hstumble,-⟩
    · exact absurd rfl (hother e)
    · exact hstumble

/-- A tool that takes one of two numbers. -/
def numberPicker : Tool where
  definition := ⟨"pick","",.obj [("type",.str "object"),("properties",.obj [
    ("n",.obj [("type",.str "integer"),("enum",.arr [.int 1,.int 2])])])]⟩
  execute _ := pure "picked"

theorem numberPicker_hasSchema : numberPicker.definition.HasSchema := by
  refine ⟨_,rfl,rfl,⟨_,rfl,?_⟩,[],rfl⟩
  intro p hp
  obtain rfl := List.mem_singleton.mp hp
  exact .inr ⟨_,rfl,fun choices h => ⟨_,(Option.some.inj h).symm⟩⟩

/-- One of the numbers is let through. -/
theorem call_closed_numberPicker :
    (∀ t, (Registry.mk [numberPicker]).get? "pick" = some t → t.definition.HasSchema) ∧
    ((Registry.mk [numberPicker]).call "pick" (.obj [("n",.int 2)])).outcome = .ok "picked" ∧
    ¬ ∃ t, (Registry.mk [numberPicker]).get? "pick" = some t ∧
      t.definition.StumblesOn [("n",.int 2)] := by
  have hschema : ∀ t, (Registry.mk [numberPicker]).get? "pick" = some t →
      t.definition.HasSchema := by
    intro t ht
    obtain rfl := Option.some.inj ht
    exact numberPicker_hasSchema
  exact ⟨hschema,rfl,(call_closed_iff hschema).1.mp (.inl ⟨"picked",rfl⟩)⟩

/-- Any other number gets a fault that is no tool error. -/
theorem call_not_closed : numberPicker.definition.HasSchema ∧
    ((Registry.mk [numberPicker]).call "pick" (.obj [("n",.int 3)])).outcome =
      .error .notContainer ∧
    ∀ e, Fault.notContainer ≠ .tool e :=
  ⟨numberPicker_hasSchema,rfl,fun e h => by cases h⟩

end Registry
end StyleLift
