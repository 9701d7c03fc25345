import StyleLift.Extract.Bundle
import StyleLift.Proofs.Run.Outcome
import StyleLift.Tool.Schema

/-! # Arguments that pass

Arguments pass a description of parameters if no required one is missing and every one of them fits
the schema of its property. The check lets through just these arguments, and as they are.
-/
namespace StyleLift

namespace Json
variable {members : Members} {items : List Json} {key : Text} {v : Json}

theorem sameAs_str {s : Text} : v.sameAs (.str s) = true ↔ v = .str s := by
  cases v <;> simp [sameAs,number?]

theorem arr_holds : (Json.arr items).holds v = .ok (items.any v.sameAs) := rfl

theorem obj_holds_str :
    (Json.obj members).holds (.str key) = .ok (decide (key ∈ members.map Prod.fst)) := by
  refine congrArg Except.ok (Bool.eq_iff_iff.mpr ?_)
  simp only [List.any_eq_true,beq_iff_eq,decide_eq_true_eq,List.mem_map]

/-- Among texts a value is found just if it is one of them. -/
theorem texts_holds {choices : List Text} :
    (texts choices).holds v = .ok true ↔ ∃ s ∈ choices, v = .str s := by
  rw [texts,arr_holds,Except.ok.injEq,List.any_map,List.any_eq_true]
  simp only [Function.comp_apply,sameAs_str]

theorem holds_str_of_contents (key : Text) {found : List Json} (h : v.contents = .ok found) :
    ∃ b, v.holds (.str key) = .ok b := by
  cases v with
  | str s => exact ⟨_,rfl⟩
  | arr items => exact ⟨_,rfl⟩
  | obj members => exact ⟨_,rfl⟩
  | _ => cases h

end Json

namespace Schema
variable {parameters schema members : Json.Members} {properties required value : Json} {key : Text}

/-! ## What passes -/

/-- A value fits a schema: it is a string where the type asks for one, and one of the choices. -/
structure Fits (schema : Json.Members) (value : Json) : Prop where
  typed : Json.member? "type" schema = some (.str "string") → ∃ s, value = .str s
  chosen : ∀ choices, Json.member? "enum" schema = some choices → choices.holds value = .ok true

/-- An argument passes: nothing is said of it, it is the null of an optional one, or it fits. -/
inductive Passes (properties required : Json) (key : Text) (value : Json) : Prop
  | undescribed (h : properties.member key = .ok none)
  | unrestricted (h : properties.member key = .ok (some .null))
  | omitted {schema : Json} (h : properties.member key = .ok (some schema))
      (hvalue : value = .null) (hoptional : required.holds (.str key) = .ok false)
  | fits {schema : Json.Members} (h : properties.member key = .ok (some (.obj schema)))
      (hfits : Fits schema value)

/-- The schemas of the properties. -/
def propertiesOf (parameters : Json.Members) : Json :=
  (Json.member? "properties" parameters).getD (.obj [])

/-- The list of the required keys. -/
def requiredOf (parameters : Json.Members) : Json :=
  (Json.member? "required" parameters).getD (.arr [])

/-- Arguments that a description of parameters lets through. -/
structure Satisfied (parameters members : Json.Members) : Prop where
  complete : ∃ keys, (requiredOf parameters).contents = .ok keys ∧
    ∀ key ∈ keys, ∃ k ∈ members.map Prod.fst, key = .str k
  passes : ∀ a ∈ members, Passes (propertiesOf parameters) (requiredOf parameters) a.1 a.2

def Accepts (parameters : Json) (members : Json.Members) : Prop :=
  ∃ described, parameters = .obj described ∧ Satisfied described members

/-! ## The check -/

/-- Whether the type of a schema asks for a string. -/
def asksForString (schema : Json.Members) : Bool :=
  match Json.member? "type" schema with
  | some (.str kind) => kind == Text.ofString "string"
  | _ => false

theorem asksForString_iff :
    asksForString schema = true ↔ Json.member? "type" schema = some (.str "string") := by
  rw [asksForString]
  split
  · next kind hkind => rw [hkind,beq_iff_eq,Option.some.injEq,Json.str.injEq]
  · next hother => exact ⟨fun h => (by cases h),fun h => absurd h (hother _)⟩

theorem isString_iff : value.isString = true ↔ ∃ s, value = .str s := by
  cases value <;> simp [Json.isString]

theorem isNull_iff : value.isNull = true ↔ value = .null := by
  cases value <;> simp [Json.isNull]

theorem checkValue_obj : checkValue key value (.obj schema) =
    if asksForString schema && !value.isString then .error (notString key)
    else match Json.member? "enum" schema with
      | none => .ok ()
      | some choices => choices.holds value >>= fun held =>
        if held then .ok ()
        else choiceNames choices >>= fun names => .error (notChoice key names) := by
  change (if asksForString schema && !value.isString then _ else _) = _
  split
  · rfl
  · change (match Json.member? "enum" schema with | none => _ | some choices => _) = _
    cases Json.member? "enum" schema with
    | none => rfl
    | some choices =>
      dsimp only
      change (choices.holds value >>= _) = _
      cases choices.holds value with
      | error fault => rfl
      | ok held => cases held <;> rfl

theorem not_wrongType_iff : ¬ (asksForString schema && !value.isString) = true ↔
    (Json.member? "type" schema = some (.str "string") → ∃ s, value = .str s) := by
  rw [Bool.and_eq_true,Bool.not_eq_true',← Bool.not_eq_true,isString_iff,asksForString_iff,
    not_and_not_right]

theorem checkValue_eq_ok (key : Text) {schema : Json} : checkValue key value schema = .ok () ↔
    ∃ ms, schema = .obj ms ∧ Fits ms value := by
  cases schema with
  | obj ms =>
    rw [checkValue_obj]
    split
    · next h =>
      refine ⟨fun hok => (by cases hok),?_⟩
      rintro ⟨_,hms,hfits⟩
      cases hms
      exact absurd h (not_wrongType_iff.mpr hfits.typed)
    · next h =>
      have htyped := not_wrongType_iff.mp h
      constructor
      · intro hok
        refine ⟨ms,rfl,htyped,fun choices henum => ?_⟩
        rw [henum] at hok
        obtain ⟨held,hheld,hok⟩ := bind_eq_ok.mp hok
        cases held with
        | true => exact hheld
        | false =>
          obtain ⟨names,-,hok⟩ := bind_eq_ok.mp hok
          cases hok
      · rintro ⟨_,hms,hfits⟩
        cases hms
        cases henum : Json.member? "enum" ms with
        | none => rfl
        | some choices =>
          dsimp only
          rw [hfits.chosen choices henum]
          rfl
  | _ =>
    refine ⟨fun h => (by cases h),?_⟩
    rintro ⟨_,hms,-⟩
    cases hms

/-- An argument that has a schema is checked unless it is the null of an optional one. -/
theorem checkArgument_described {schema : Json} {b : Bool}
    (hschema : properties.member key = .ok (some schema)) (hne : schema ≠ .null)
    (hrequired : required.holds (.str key) = .ok b) :
    checkArgument properties required key value =
      if value.isNull && !b then .ok () else checkValue key value schema := by
  rw [checkArgument,hschema]
  cases schema with
  | null => exact absurd rfl hne
  | _ =>
    change (required.holds (.str key) >>= _) = _
    rw [hrequired]
    rfl

/-- The null of an optional argument counts as left out. -/
theorem omitted_iff {b : Bool} (hrequired : required.holds (.str key) = .ok b) :
    (value.isNull && !b) = true ↔ value = .null ∧ required.holds (.str key) = .ok false := by
  rw [Bool.and_eq_true,Bool.not_eq_true',isNull_iff,hrequired,Except.ok.injEq]

theorem passes_described {schema : Json} (hschema : properties.member key = .ok (some schema))
    (hne : schema ≠ .null) : Passes properties required key value ↔
      (value = .null ∧ required.holds (.str key) = .ok false) ∨
        ∃ ms, schema = .obj ms ∧ Fits ms value := by
  constructor
  · intro h
    cases h with
    | undescribed h => rw [hschema] at h; cases h
    | unrestricted h => rw [hschema] at h; cases h; exact absurd rfl hne
    | omitted h hvalue hoptional => exact .inl ⟨hvalue,hoptional⟩
    | fits h hfits => rw [hschema] at h; cases h; exact .inr ⟨_,rfl,hfits⟩
  · rintro (⟨hvalue,hoptional⟩ | ⟨ms,rfl,hfits⟩)
    · exact .omitted hschema hvalue hoptional
    · exact .fits hschema hfits

theorem checkArgument_eq_ok {keys : List Json} (hkeys : required.contents = .ok keys) :
    checkArgument properties required key value = .ok () ↔
      Passes properties required key value := by
  cases hfound : properties.member key with
  | error fault =>
    rw [checkArgument,hfound]
    refine ⟨fun h => (by cases h),fun h => ?_⟩
    cases h with
    | undescribed h | unrestricted h | omitted h | fits h => rw [hfound] at h; cases h
  | ok found =>
    match found with
    | none =>
      rw [checkArgument,hfound]
      exact ⟨fun _ => .undescribed hfound,fun _ => rfl⟩
    | some schema =>
      by_cases hne : schema = .null
      · subst hne
        rw [checkArgument,hfound]
        exact ⟨fun _ => .unrestricted hfound,fun _ => rfl⟩
      · obtain ⟨b,hb⟩ := Json.holds_str_of_contents key hkeys
        rw [checkArgument_described hfound hne hb,passes_described hfound hne,← omitted_iff hb,
          ← checkValue_eq_ok key]
        split
        · next homitted => exact ⟨fun _ => .inl homitted,fun _ => rfl⟩
        · next hgiven => exact ⟨.inr,fun h => h.resolve_left hgiven⟩

/-- What the check makes of a required key. -/
def requireKey (members : Json.Members) (key : Json) : Except Fault Unit :=
  (Json.obj members).holds key >>= fun held => if held then .ok () else .error (missing key)

theorem requireKey_str (members : Json.Members) (key : Text) : requireKey members (.str key) =
    if key ∈ members.map Prod.fst then .ok () else .error (missing (.str key)) := by
  rw [requireKey,Json.obj_holds_str]
  change (if decide _ = true then _ else _) = _
  simp only [decide_eq_true_eq]

theorem requireKey_eq_ok {key : Json} :
    requireKey members key = .ok () ↔ ∃ k ∈ members.map Prod.fst, key = .str k := by
  cases key with
  | str k =>
    rw [requireKey_str]
    split
    · next hk => exact ⟨fun _ => ⟨k,hk,rfl⟩,fun _ => rfl⟩
    · next hk =>
      refine ⟨fun h => (by cases h),?_⟩
      rintro ⟨_,hmem,h⟩
      cases h
      exact absurd hmem hk
  | _ =>
    refine ⟨fun h => (by cases h),?_⟩
    rintro ⟨_,-,h⟩
    cases h

/-- The required keys are looked for first, and then the arguments are checked one by one. -/
theorem check_obj (described members : Json.Members) : check (.obj described) (.obj members) =
    (requiredOf described).contents >>= fun keys => keys.forM (requireKey members) >>= fun _ =>
      members.forM (fun a =>
        checkArgument (propertiesOf described) (requiredOf described) a.1 a.2) >>=
        fun _ => .ok members := by
  have hkey : (fun key => do if !(← (Json.obj members).holds key) then throw (missing key)) =
      requireKey members := by
    funext key
    rw [requireKey]
    cases (Json.obj members).holds key with
    | error fault => rfl
    | ok held => cases held <;> rfl
  rw [← hkey]
  rfl

/-- The check lets through just the arguments that the description accepts. -/
theorem check_returns {parameters : Json} :
    (∃ found, check parameters (.obj members) = .ok found) ↔ Accepts parameters members := by
  cases parameters with
  | obj described =>
    rw [check_obj]
    constructor
    · rintro ⟨found,h⟩
      obtain ⟨keys,hkeys,h⟩ := bind_eq_ok.mp h
      obtain ⟨_,hloop,h⟩ := bind_eq_ok.mp h
      obtain ⟨_,harguments,-⟩ := bind_eq_ok.mp h
      refine ⟨described,rfl,⟨keys,hkeys,?_⟩,?_⟩
      · intro key hkey
        exact requireKey_eq_ok.mp (forM_eq_ok.mp hloop key hkey)
      · intro a ha
        exact (checkArgument_eq_ok hkeys).mp (forM_eq_ok.mp harguments a ha)
    · rintro ⟨_,h,⟨keys,hkeys,hcomplete⟩,hpasses⟩
      cases h
      refine ⟨members,bind_eq_ok.mpr ⟨keys,hkeys,bind_eq_ok.mpr ⟨(),?_,bind_eq_ok.mpr ⟨(),?_,rfl⟩⟩⟩⟩
      · exact forM_eq_ok.mpr fun key hkey => requireKey_eq_ok.mpr (hcomplete key hkey)
      · exact forM_eq_ok.mpr fun a ha => (checkArgument_eq_ok hkeys).mpr (hpasses a ha)
  | _ =>
    refine ⟨?_,?_⟩
    · rintro ⟨_,h⟩
      cases h
    · rintro ⟨_,h,-⟩
      cases h

/-- Only an object passes a check, and it passes as it is. -/
theorem check_eq_ok_obj {parameters v : Json} {found : Json.Members}
    (h : check parameters v = .ok found) : v = .obj found := by
  obtain ⟨_,-,h⟩ := bind_eq_ok.mp h
  obtain ⟨_,-,h⟩ := bind_eq_ok.mp h
  obtain ⟨_,-,h⟩ := bind_eq_ok.mp h
  obtain ⟨_,-,h⟩ := bind_eq_ok.mp h
  cases v with
  | obj members =>
    obtain ⟨_,-,h⟩ := bind_eq_ok.mp h
    rw [Except.ok.inj h]
  | _ => cases h

/-- What is let through is what was given. -/
theorem check_eq_ok {parameters : Json} {found : Json.Members}
    (h : check parameters (.obj members) = .ok found) : found = members :=
  (Json.obj.inj (check_eq_ok_obj h)).symm

end Schema
end StyleLift
