import StyleLift.Proofs.Json.Bytes
import StyleLift.Proofs.Run.Outcome

/-! # Nesting and room

What is read in some room is read alike in more of it, so a reader with room to spare is the reader
without end. A text that opens with more brackets than there are levels is too deep. What is written
takes as many levels as the value has.
-/
namespace StyleLift.Json

namespace Room

/-- More room has every level that less of it has. -/
instance : LE Room := ⟨fun a b => ∀ n, a.has n = true → b.has n = true⟩

theorem le_endless (room : Room) : room ≤ endless := fun _ _ => rfl

variable {a b inner : Room}

theorem inside?_mono (h : a ≤ b) (hinner : a.inside? = some inner) :
    ∃ more, b.inside? = some more ∧ inner ≤ more := by
  obtain ⟨more,hmore⟩ := inside?_of_has (h 1 (has_of_inside? hinner))
  refine ⟨more,hmore,fun n hn => ?_⟩
  rw [has_inside hmore]
  rw [has_inside hinner] at hn
  exact h _ hn

end Room

/-- A stack with a thousand levels. -/
def Stack.thousandLevels : Stack := ⟨.levels 1000,rfl⟩

variable {a b room inner : Room} {fuel m n : Nat} {c : CodePoint} {s t rest : Text}
  {before : Members} {bytes : List UInt8}

/-! ## Results that are not one error -/

section Results
variable {ε α β : Type} {x : Except ε α} {d e : ε}

theorem ne_of_map_ne {f : α → β} (h : x.map f ≠ .error d) : x ≠ .error d :=
  fun hx => h (map_eq_error.mpr hx)

theorem ne_of_eq_ok {a : α} (hx : x = .ok a) : x ≠ .error d :=
  fun heq => by cases hx.symm.trans heq

theorem ne_of_eq_error (hx : x = .error e) (h : (.error e : Except ε β) ≠ .error d) :
    x ≠ .error d :=
  fun heq => h (congrArg _ (Except.error.inj (hx.symm.trans heq)))

end Results

/-! ## More room -/

theorem malformedAt_mono (h : a ≤ b) (ha : malformedAt a ≠ .tooDeep) :
    malformedAt b = malformedAt a := by
  unfold malformedAt at ha ⊢
  by_cases hthree : a.has 3 = true
  · rw [if_pos hthree,if_pos (h 3 hthree)]
  · exact absurd (if_neg hthree) ha

theorem readString_mono (h : a ≤ b) (ha : readString a s ≠ .error .tooDeep) :
    readString b s = readString a s := by
  unfold readString at ha ⊢
  cases hpieces : stringPieces s with
  | some found => rfl
  | none =>
    rw [hpieces] at ha
    exact congrArg _ (malformedAt_mono h fun hdeep => ha (congrArg _ hdeep))

theorem readKey_mono (h : a ≤ b) (ha : readKey a s ≠ .error .tooDeep) :
    readKey b s = readKey a s := by
  have hwrong : (Except.error (malformedAt a) : Reading Text) ≠ .error .tooDeep →
      (Except.error (malformedAt b) : Reading Text) = .error (malformedAt a) := fun hne =>
    congrArg _ (malformedAt_mono h fun hdeep => hne (congrArg _ hdeep))
  revert ha
  unfold readKey
  split
  · next rest =>
    intro ha
    cases hkey : readString a rest with
    | error e =>
      simp only [hkey] at ha
      rw [readString_mono h (ne_of_eq_error hkey ha),hkey]
    | ok found =>
      rw [readString_mono h (ne_of_eq_ok hkey),hkey]
      simp only [hkey] at ha
      revert ha
      dsimp only
      split
      · exact fun _ => rfl
      · exact hwrong
  · exact hwrong

theorem readScalar_mono (h : a ≤ b) (ha : readScalar a s ≠ .error .tooDeep) :
    readScalar b s = readScalar a s := by
  unfold readScalar at ha ⊢
  split
  · next v rest hword =>
    rw [hword] at ha
    dsimp only at ha
    by_cases hroom : a.has v.depth = true
    · rw [if_pos hroom,if_pos (h _ hroom)]
    · exact absurd (if_neg hroom) ha
  · rfl

/-- With some fuel, what is not too deep for some room is read alike in more of it. -/
structure Keeps (fuel : Nat) : Prop where
  value : ∀ {a b : Room} {s : Text}, a ≤ b → readValue fuel a s ≠ .error .tooDeep →
    readValue fuel b s = readValue fuel a s
  items : ∀ {a b : Room} {s : Text}, a ≤ b → readItems fuel a s ≠ .error .tooDeep →
    readItems fuel b s = readItems fuel a s
  members : ∀ {a b : Room} {before : Members} {s : Text}, a ≤ b →
    readMembers fuel a before s ≠ .error .tooDeep →
      readMembers fuel b before s = readMembers fuel a before s

section Steps
variable (ih : Keeps fuel)
include ih

theorem readValue_mono (h : a ≤ b) (ha : readValue (fuel + 1) a s ≠ .error .tooDeep) :
    readValue (fuel + 1) b s = readValue (fuel + 1) a s := by
  rcases s with _ | ⟨c,s⟩
  · rfl
  by_cases hquote : c = .char '"'
  · rw [hquote,readValue_quote] at ha ⊢
    rw [readValue_quote,readString_mono h (ne_of_map_ne ha)]
  by_cases hbracket : c = .char '['
  · rw [hbracket,readValue_bracket] at ha ⊢
    rw [readValue_bracket]
    cases hinner : a.inside? with
    | none => exact absurd rfl (hinner ▸ ha)
    | some inner =>
      obtain ⟨more,hmore,hle⟩ := Room.inside?_mono h hinner
      rw [hinner] at ha
      rw [hmore]
      revert ha
      dsimp only
      split
      · exact fun _ => rfl
      · exact fun ha => by rw [ih.items hle (ne_of_map_ne ha)]
  by_cases hbrace : c = .char '\x7b'
  · rw [hbrace,readValue_brace] at ha ⊢
    rw [readValue_brace]
    cases hinner : a.inside? with
    | none => exact absurd rfl (hinner ▸ ha)
    | some inner =>
      obtain ⟨more,hmore,hle⟩ := Room.inside?_mono h hinner
      rw [hinner] at ha
      rw [hmore]
      revert ha
      dsimp only
      split
      · exact fun _ => rfl
      · exact fun ha => by rw [ih.members hle (ne_of_map_ne ha)]
  · rw [readValue_other hquote hbracket hbrace] at ha ⊢
    rw [readValue_other hquote hbracket hbrace,readScalar_mono h ha]

theorem readItems_mono (h : a ≤ b) (ha : readItems (fuel + 1) a s ≠ .error .tooDeep) :
    readItems (fuel + 1) b s = readItems (fuel + 1) a s := by
  rw [readItems] at ha ⊢
  rw [readItems]
  cases hv : readValue fuel a s with
  | error e =>
    simp only [hv] at ha
    rw [ih.value h (ne_of_eq_error hv ha),hv]
  | ok found =>
    obtain ⟨v,after⟩ := found
    rw [ih.value h (ne_of_eq_ok hv),hv]
    rw [hv] at ha
    revert ha
    dsimp only
    split
    · exact fun _ => rfl
    · exact fun ha => by rw [ih.items h (ne_of_map_ne ha)]
    · exact fun ha => congrArg _ (malformedAt_mono h fun hdeep => ha (congrArg _ hdeep))

theorem readMembers_mono (h : a ≤ b) (ha : readMembers (fuel + 1) a before s ≠ .error .tooDeep) :
    readMembers (fuel + 1) b before s = readMembers (fuel + 1) a before s := by
  rw [readMembers] at ha ⊢
  rw [readMembers]
  cases hkey : readKey a s with
  | error e =>
    simp only [hkey] at ha
    rw [readKey_mono h (ne_of_eq_error hkey ha),hkey]
  | ok found =>
    obtain ⟨key,t⟩ := found
    rw [readKey_mono h (ne_of_eq_ok hkey),hkey]
    simp only [hkey] at ha ⊢
    cases hv : readValue fuel a t with
    | error e =>
      simp only [hv] at ha
      rw [ih.value h (ne_of_eq_error hv ha),hv]
    | ok found =>
      obtain ⟨v,after⟩ := found
      rw [ih.value h (ne_of_eq_ok hv),hv]
      simp only [hv] at ha
      revert ha
      dsimp only
      split
      · exact fun _ => rfl
      · exact fun ha => ih.members h ha
      · exact fun ha => congrArg _ (malformedAt_mono h fun hdeep => ha (congrArg _ hdeep))

end Steps

theorem keeps (fuel : Nat) : Keeps fuel := by
  induction fuel with
  | zero => exact ⟨fun _ _ => rfl,fun _ _ => rfl,fun _ _ => rfl⟩
  | succ fuel ih => exact ⟨readValue_mono ih,readItems_mono ih,readMembers_mono ih⟩

theorem readWithin_mono (h : a ≤ b) (ha : readWithin a s ≠ .error .tooDeep) :
    readWithin b s = readWithin a s := by
  unfold readWithin at ha ⊢
  cases hv : readValue (2 * s.length + 1) a (skipSpace s) with
  | error e =>
    simp only [hv] at ha
    rw [(keeps _).value h (ne_of_eq_error hv ha),hv]
  | ok found => rw [(keeps _).value h (ne_of_eq_ok hv),hv]

theorem loadWithin_mono (h : a ≤ b) (ha : loadWithin a bytes ≠ .error .tooDeep) :
    loadWithin b bytes = loadWithin a bytes := by
  unfold loadWithin at ha ⊢
  split
  · rfl
  · next s hs =>
    rw [hs] at ha
    exact readWithin_mono h ha

/-- Unless it is too deep for some room, the value of some bytes is what it is without end of
room. -/
theorem toOption_loadWithin (h : loadWithin room bytes ≠ .error .tooDeep) :
    (loadWithin room bytes).toOption = ofBytes? bytes := by
  rw [ofBytes?_eq,loadWithin_mono (Room.le_endless room) h]

theorem loadOrEmpty?_eq_none :
    loadOrEmpty? room bytes = none ↔ loadWithin room bytes = .error .tooDeep := by
  rw [loadOrEmpty?]
  split
  · next v hv => exact ⟨fun h => (by cases h),fun h => by cases hv.symm.trans h⟩
  · next hdeep => exact ⟨fun _ => hdeep,fun _ => rfl⟩
  · next e hne he =>
    exact ⟨fun h => (by cases h),fun h => absurd (Except.error.inj (he.symm.trans h)) hne⟩

/-- What is not too deep comes to its value, or to an empty object. -/
theorem loadOrEmpty?_eq (h : loadWithin room bytes ≠ .error .tooDeep) :
    loadOrEmpty? room bytes = some ((ofBytes? bytes).getD (.obj [])) := by
  rw [← toOption_loadWithin h,loadOrEmpty?]
  cases hload : loadWithin room bytes with
  | ok v => rfl
  | error e =>
    cases e with
    | tooDeep => exact absurd hload h
    | _ => rfl

theorem loadOrEmpty?_of_eq_ok {v : Json} (h : loadWithin room bytes = .ok v) :
    loadOrEmpty? room bytes = some v := by
  rw [loadOrEmpty?,h]

/-! ## Too many brackets -/

theorem readValue_brackets (n : Nat) (s : Text) : readValue (2 * n + 1 + fuel) (.levels n)
    (List.replicate (n + 1) (.char '[') ++ s) = .error .tooDeep := by
  induction n with
  | zero =>
    rw [Nat.add_comm _ fuel]
    rfl
  | succ n ih =>
    have hitems : readItems (2 * n + 1 + fuel + 1) (.levels n)
        (List.replicate (n + 1) (.char '[') ++ s) = .error .tooDeep := by
      rw [readItems,ih]
    rw [show 2 * (n + 1) + 1 + fuel = 2 * n + 1 + fuel + 1 + 1 by omega,List.replicate_succ,
      List.cons_append,readValue_bracket]
    change (readItems (2 * n + 1 + fuel + 1) (.levels n)
      (List.replicate (n + 1) (.char '[') ++ s)).map _ = _
    rw [hitems]
    rfl

/-- A text that opens with more brackets than there are levels is too deep. -/
theorem readWithin_brackets (n : Nat) (s : Text) :
    readWithin (.levels n) (List.replicate (n + 1) (.char '[') ++ s) = .error .tooDeep := by
  have hskip : skipSpace (List.replicate (n + 1) (.char '[') ++ s) =
    List.replicate (n + 1) (.char '[') ++ s := rfl
  obtain ⟨fuel,hfuel⟩ := Nat.exists_eq_add_of_le
    (show 2 * n + 1 ≤ 2 * (List.replicate (n + 1) (CodePoint.char '[') ++ s).length + 1 by
      simp only [List.length_append,List.length_replicate]
      omega)
  rw [readWithin,hskip,hfuel,readValue_brackets]

theorem loadWithin_brackets (n : Nat) (s : Text) :
    loadWithin (.levels (n + 1)) (Text.utf8 (List.replicate (n + 2) (.char '[') ++ s)) =
      .error .tooDeep := by
  rw [loadWithin,List.replicate_succ,List.replicate_succ,List.cons_append,List.cons_append,
    decodeBytes?_opening (by decide) (by decide) (by decide)]
  exact readWithin_brackets (n + 1) s

/-! ## Writing -/

mutual

/-- Where there is room for a value, only its numbers can keep it from being written. -/
theorem refusal?_eq (finiteOnly : Bool) (room : Room) (v : Json) (h : room.has v.depth = true) :
    refusal? finiteOnly room v = v.numbers.findSome? (writeError? finiteOnly) := by
  cases v with
  | arr items =>
    obtain ⟨inner,hinner⟩ := Room.inside?_of_has h
    rw [depth,← Room.has_inside hinner] at h
    rw [refusal?,hinner]
    exact refusalOfItems?_eq finiteOnly inner items h
  | obj members =>
    obtain ⟨inner,hinner⟩ := Room.inside?_of_has h
    rw [depth,← Room.has_inside hinner] at h
    rw [refusal?,hinner]
    exact refusalOfMembers?_eq finiteOnly inner members h
  | int n => simp [refusal?,numbers]
  | real x => simp [refusal?,numbers]
  | _ => rfl

theorem refusalOfItems?_eq (finiteOnly : Bool) (room : Room) (items : List Json)
    (h : room.has (depthOfItems items) = true) : refusalOfItems? finiteOnly room items =
      (numbersOfItems items).findSome? (writeError? finiteOnly) := by
  cases items with
  | nil => rfl
  | cons v items =>
    obtain ⟨hv,hitems⟩ := Room.has_max.mp h
    rw [refusalOfItems?,numbersOfItems,List.findSome?_append,refusal?_eq finiteOnly room v hv,
      refusalOfItems?_eq finiteOnly room items hitems]

theorem refusalOfMembers?_eq (finiteOnly : Bool) (room : Room) (members : Members)
    (h : room.has (depthOfMembers members) = true) : refusalOfMembers? finiteOnly room members =
      (numbersOfMembers members).findSome? (writeError? finiteOnly) := by
  cases members with
  | nil => rfl
  | cons member members =>
    obtain ⟨key,v⟩ := member
    obtain ⟨hv,hmembers⟩ := Room.has_max.mp h
    rw [refusalOfMembers?,numbersOfMembers,List.findSome?_append,
      refusal?_eq finiteOnly room v hv,refusalOfMembers?_eq finiteOnly room members hmembers]

end

theorem writeWithin_eq {layout : Layout} {finiteOnly : Bool} {v : Json}
    (h : room.has v.depth = true) :
    v.writeWithin room layout finiteOnly = v.write layout finiteOnly := by
  rw [writeWithin,refusal?_eq finiteOnly room v h,write]

/-- Lists inside one another. -/
def nested : Nat → Json
  | 0 => .null
  | n + 1 => .arr [nested n]

theorem refusal?_nested {finiteOnly : Bool} (h : n < m) :
    refusal? finiteOnly (.levels n) (nested m) = some .tooDeep := by
  induction m generalizing n with
  | zero => cases h
  | succ m ih =>
    cases n with
    | zero => rfl
    | succ n =>
      have hinner := ih (Nat.lt_of_succ_lt_succ h)
      rw [nested,refusal?]
      change (refusal? finiteOnly (.levels n) (nested m)).or none = _
      rw [hinner]
      rfl

theorem writeWithin_nested {layout : Layout} {finiteOnly : Bool} {key : Text} (h : n ≤ m) :
    writeWithin (.levels n) layout finiteOnly (.obj [(key,nested m)]) = .error .tooDeep := by
  have hrefusal : refusal? finiteOnly (.levels n) (.obj [(key,nested m)]) = some .tooDeep := by
    cases n with
    | zero => rfl
    | succ n =>
      have hinner : refusal? finiteOnly (.levels n) (nested m) = some .tooDeep := refusal?_nested h
      rw [refusal?]
      change (refusal? finiteOnly (.levels n) (nested m)).or none = _
      rw [hinner]
      rfl
  rw [writeWithin,hrefusal]

end StyleLift.Json
