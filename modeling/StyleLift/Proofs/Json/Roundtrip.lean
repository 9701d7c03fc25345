import StyleLift.Proofs.Json.Numbers
import StyleLift.Proofs.Json.Strings
import StyleLift.Proofs.Text.Joining

/-! # Reading what was written

The text of a value is read as the value where there is room for its depth, up to what a reader does
to it: strings written in ASCII have their surrogate pairs joined, and of repeated members the last
one counts. Neither happens to a value without surrogates whose objects have distinct keys.
-/
namespace StyleLift.Json

/-! ## Values as they are read -/

def receivedText (inAscii : Bool) (s : Text) : Text := if inAscii then s.joined else s

mutual

/-- A written value as it is read. -/
def received (inAscii : Bool) : Json → Json
  | .str s => .str (receivedText inAscii s)
  | .arr items => .arr (receivedItems inAscii items)
  | .obj members => .obj (receivedMembers inAscii [] members)
  | v => v

def receivedItems (inAscii : Bool) : List Json → List Json
  | [] => []
  | v :: rest => received inAscii v :: receivedItems inAscii rest

/-- Members set one by one on top of those before. -/
def receivedMembers (inAscii : Bool) : Members → Members → Members
  | before, [] => before
  | before, (key, v) :: rest =>
    receivedMembers inAscii
      (setMember (receivedText inAscii key) (received inAscii v) before) rest

end

/-- Whether a number is read as it is written: the digits of an integer are not too many, and a real
number has the form that rounding gives. -/
def IsReadable : Json → Prop
  | .int n => (Text.ofNat n.natAbs).length ≤ Numeral.digitLimit
  | .real x => x.Canonical
  | _ => True

/-- All numbers in a value are read as they are written. -/
def Readable (v : Json) : Prop := ∀ n ∈ v.numbers, n.IsReadable

mutual

/-- How much fuel a value takes. -/
def need : Json → Nat
  | .arr items => needOfItems items + 1
  | .obj members => needOfMembers members + 1
  | _ => 1

def needOfItems : List Json → Nat
  | [] => 0
  | v :: rest => need v + needOfItems rest + 1

def needOfMembers : Members → Nat
  | [] => 0
  | (_, v) :: rest => need v + needOfMembers rest + 1

end

/-! ## Spaces -/

def IsSpaces (s : Text) : Prop := ∀ c ∈ s, isSpace c = true

instance (s : Text) : Decidable (IsSpaces s) :=
  inferInstanceAs (Decidable (∀ c ∈ s, isSpace c = true))

/-- A mark with spaces after it. -/
def IsMark (c : CodePoint) (s : Text) : Prop := ∃ spaces, s = c :: spaces ∧ IsSpaces spaces

/-- A layout with a comma between items and a colon after keys, spaces apart. -/
structure Layout.IsPlain (layout : Layout) : Prop where
  separator : IsMark (.char ',') layout.separator
  colon : IsMark (.char ':') layout.colon

theorem compact_isPlain : compact.IsPlain := ⟨⟨[],rfl,by decide⟩,⟨[],rfl,by decide⟩⟩

theorem unescaped_isPlain : unescaped.IsPlain := ⟨⟨[],rfl,by decide⟩,⟨[],rfl,by decide⟩⟩

theorem indented_isPlain : indented.IsPlain :=
  ⟨⟨[],rfl,by decide⟩,⟨[.char ' '],rfl,by decide⟩⟩

variable {layout : Layout} {depth fuel : Nat} {c : CodePoint} {s t rest tail after glue : Text}
  {v : Json} {items : List Json} {before members : Members} {room inner : Room}

theorem lineBreak_isSpaces (layout : Layout) (depth : Nat) : IsSpaces (layout.lineBreak depth) := by
  rw [Layout.lineBreak]
  split
  · exact fun c hc => absurd hc List.not_mem_nil
  · exact List.forall_mem_cons.mpr ⟨rfl,fun c hc => by rw [List.eq_of_mem_replicate hc]; rfl⟩

theorem IsMark.append (h : IsMark c s) (ht : IsSpaces t) : IsMark c (s ++ t) := by
  obtain ⟨spaces,rfl,hspaces⟩ := h
  exact ⟨_,List.cons_append,List.forall_mem_append.mpr ⟨hspaces,ht⟩⟩

theorem skipSpace_append (h : IsSpaces s) : skipSpace (s ++ t) = skipSpace t :=
  List.dropWhile_append_of_pos h

theorem skipSpace_cons (h : isSpace c = false) : skipSpace (c :: s) = c :: s := by
  rw [skipSpace,List.dropWhile_cons,h]
  rfl

theorem endsNumber_cons
    (h : c.isAsciiDigit = false ∧ c ≠ .char '.' ∧ c ≠ .char 'e' ∧ c ≠ .char 'E') :
    EndsNumber (c :: s) := fun d hd => by
  obtain rfl := Option.some.inj hd
  exact h

theorem endsNumber_of_isSpaces (h : IsSpaces s) (ht : EndsNumber t) : EndsNumber (s ++ t) := by
  cases s with
  | nil => exact ht
  | cons c s =>
    have hc := h c List.mem_cons_self
    simp only [isSpace,Bool.or_eq_true,beq_iff_eq] at hc
    rcases hc with ((rfl | rfl) | rfl) | rfl <;> exact endsNumber_cons (by decide)

/-! ## The start of a value -/

/-- A code point that some scalar starts with. -/
def StartsScalar (c : CodePoint) : Prop :=
  c.isAsciiDigit = true ∨ c ∈ ([.char 'n',.char 't',.char 'f',.char 'N',.char 'I',.char '-'] : Text)

theorem StartsScalar.ne {d : CodePoint} (h : StartsScalar c) (hd : d.isAsciiDigit = false)
    (hword : d ∉ ([.char 'n',.char 't',.char 'f',.char 'N',.char 'I',.char '-'] : Text)) :
    c ≠ d := by
  rintro rfl
  rcases h with h | h
  · rw [hd] at h
    cases h
  · exact hword h

theorem StartsScalar.not_isSpace (h : StartsScalar c) : isSpace c = false := by
  have hne : ∀ d : CodePoint, d = .char ' ' ∨ d = .char '\t' ∨ d = .char '\n' ∨ d = .char '\r' →
      c ≠ d := by
    rintro d (rfl | rfl | rfl | rfl) <;> exact h.ne rfl (by decide)
  simp only [isSpace,Bool.or_eq_false_iff,beq_eq_false_iff_ne]
  exact ⟨⟨⟨hne _ (.inl rfl),hne _ (.inr (.inl rfl))⟩,hne _ (.inr (.inr (.inl rfl)))⟩,
    hne _ (.inr (.inr (.inr rfl)))⟩

theorem startsScalar_of_readScalar {found : Json × Text} (h : readScalar room s = .ok found) :
    ∃ c cs, s = c :: cs ∧ StartsScalar c := by
  by_cases hword : NoWord s
  · cases s with
    | nil => cases h
    | cons c cs =>
      refine ⟨c,cs,rfl,?_⟩
      by_cases hc : c = .char '-'
      · rw [hc]
        exact .inr (by decide)
      · rw [readScalar_digit hc hword] at h
        obtain ⟨_,_,heq,hdigit⟩ := startsWith_digit false h
        rw [(List.cons.inj heq).1]
        exact .inl hdigit
  · simp only [NoWord,not_forall] at hword
    obtain ⟨entry,hentry,hne⟩ := hword
    obtain ⟨rest,hrest⟩ := Option.ne_none_iff_exists'.mp hne
    rw [Text.dropPrefix?_eq_some_iff] at hrest
    simp only [literals,List.mem_cons,List.not_mem_nil,or_false] at hentry
    rcases hentry with rfl | rfl | rfl | rfl | rfl | rfl
    all_goals exact ⟨_,_,hrest,.inr (by decide)⟩

/-! ### What a value starts with decides how it is read -/

theorem readValue_quote : readValue (fuel + 1) room (.char '"' :: s) =
    (readString room s).map fun (t,rest) => (.str t,rest) := rfl

theorem readValue_bracket : readValue (fuel + 1) room (.char '[' :: s) =
    match room.inside? with
    | none => .error .tooDeep
    | some inner =>
      match skipSpace s with
      | .char ']' :: rest => .ok (.arr [],rest)
      | rest => (readItems fuel inner rest).map fun (items,rest) => (.arr items,rest) := rfl

theorem readValue_brace : readValue (fuel + 1) room (.char '\x7b' :: s) =
    match room.inside? with
    | none => .error .tooDeep
    | some inner =>
      match skipSpace s with
      | .char '\x7d' :: rest => .ok (.obj [],rest)
      | rest => (readMembers fuel inner [] rest).map fun (members,rest) => (.obj members,rest) :=
  rfl

theorem readValue_other (hquote : c ≠ .char '"') (hbracket : c ≠ .char '[')
    (hbrace : c ≠ .char '\x7b') :
    readValue (fuel + 1) room (c :: s) = readScalar room (c :: s) := by
  rw [readValue]
  · rintro tail heq
    exact hquote (List.cons.inj heq).1
  · rintro tail heq
    exact hbracket (List.cons.inj heq).1
  · rintro tail heq
    exact hbrace (List.cons.inj heq).1

theorem readValue_scalar {found : Json × Text} (h : readScalar room s = .ok found) :
    readValue (fuel + 1) room s = .ok found := by
  obtain ⟨c,cs,rfl,hc⟩ := startsScalar_of_readScalar h
  rw [readValue_other (hc.ne rfl (by decide)) (hc.ne rfl (by decide)) (hc.ne rfl (by decide)),h]

/-- What a value written in front of some text starts with. -/
def StartsValue (c : CodePoint) : Prop := isSpace c = false ∧ c ≠ .char ']'

theorem render_head (layout : Layout) (depth : Nat) (hv : v.Readable) :
    ∃ c cs, render layout depth v = c :: cs ∧ StartsValue c := by
  have hscalar : ∀ {s : Text} {found : Json × Text}, readScalar .endless (s ++ []) = .ok found →
      ∃ c cs, s = c :: cs ∧ StartsValue c := fun h => by
    obtain ⟨c,cs,hs,hc⟩ := startsScalar_of_readScalar h
    rw [List.append_nil] at hs
    exact ⟨c,cs,hs,hc.not_isSpace,hc.ne rfl (by decide)⟩
  have hnil : EndsNumber [] := fun c hc => by cases hc
  cases v with
  | null => exact ⟨_,_,rfl,rfl,by decide⟩
  | bool b => cases b <;> exact ⟨_,_,rfl,rfl,by decide⟩
  | int n => exact hscalar (readScalar_ofInt (hv _ List.mem_cons_self) hnil)
  | real x => exact hscalar (readScalar_real (hv _ List.mem_cons_self) rfl hnil)
  | str s => exact ⟨_,_,rfl,rfl,by decide⟩
  | arr items =>
    rw [render,Layout.enclose]
    split <;> exact ⟨_,_,rfl,rfl,by decide⟩
  | obj members =>
    rw [render,Layout.enclose]
    split <;> exact ⟨_,_,rfl,rfl,by decide⟩

/-! ## Reading a written value -/

theorem readValue_str (inAscii : Bool) (s : Text) :
    readValue (fuel + 1) room (renderString inAscii s ++ rest) =
      .ok (.str (receivedText inAscii s),rest) := by
  have hread := readString_render room inAscii s rest
  have htext : renderString inAscii s ++ rest =
      .char '"' :: (s.flatMap (escapeCodePoint inAscii) ++ .char '"' :: rest) := by
    rw [renderString,List.cons_append,List.cons_append,List.append_assoc,List.singleton_append]
  rw [htext,readValue_quote,hread]
  rfl

theorem readValue_arr (hinner : room.inside? = some inner) (hs : skipSpace s = c :: t)
    (hc : c ≠ .char ']') (h : readItems fuel inner (c :: t) = .ok (items,rest)) :
    readValue (fuel + 1) room (.char '[' :: s) = .ok (.arr items,rest) := by
  rw [readValue_bracket,hinner]
  dsimp only
  rw [hs]
  split
  · next heq => exact absurd (List.cons.inj heq).1 hc
  · rw [h]
    rfl

theorem readValue_obj (hinner : room.inside? = some inner) (hs : skipSpace s = c :: t)
    (hc : c ≠ .char '\x7d') (h : readMembers fuel inner [] (c :: t) = .ok (members,rest)) :
    readValue (fuel + 1) room (.char '\x7b' :: s) = .ok (.obj members,rest) := by
  rw [readValue_brace,hinner]
  dsimp only
  rw [hs]
  split
  · next heq => exact absurd (List.cons.inj heq).1 hc
  · rw [h]
    rfl

theorem readValue_arr_nil (hinner : room.inside? = some inner) :
    readValue (fuel + 1) room (.char '[' :: .char ']' :: rest) = .ok (.arr [],rest) := by
  rw [readValue_bracket,hinner]
  rfl

theorem readValue_obj_nil (hinner : room.inside? = some inner) :
    readValue (fuel + 1) room (.char '\x7b' :: .char '\x7d' :: rest) = .ok (.obj [],rest) := by
  rw [readValue_brace,hinner]
  rfl

theorem readItems_last (h : readValue fuel room s = .ok (v,after))
    (hafter : skipSpace after = .char ']' :: rest) :
    readItems (fuel + 1) room s = .ok ([v],rest) := by
  rw [readItems,h]
  dsimp only
  rw [hafter]
  rfl

theorem readItems_cons (h : readValue fuel room s = .ok (v,after))
    (hafter : skipSpace after = .char ',' :: t)
    (hrest : readItems fuel room (skipSpace t) = .ok (items,rest)) :
    readItems (fuel + 1) room s = .ok (v :: items,rest) := by
  rw [readItems,h]
  dsimp only
  rw [hafter]
  change (readItems fuel room (skipSpace t)).map _ = _
  rw [hrest]
  rfl

variable {key : Text}

theorem readKey_quoted (hkey : readString room s = .ok (key,t))
    (hcolon : skipSpace t = .char ':' :: tail) :
    readKey room (.char '"' :: s) = .ok (key,skipSpace tail) := by
  rw [readKey,hkey]
  dsimp only
  rw [hcolon]
  rfl

theorem readMembers_last (hkey : readKey room s = .ok (key,t))
    (h : readValue fuel room t = .ok (v,after))
    (hafter : skipSpace after = .char '\x7d' :: rest) :
    readMembers (fuel + 1) room before s = .ok (setMember key v before,rest) := by
  rw [readMembers,hkey]
  simp only [h,hafter]

theorem readMembers_cons {more : Text} (hkey : readKey room s = .ok (key,t))
    (h : readValue fuel room t = .ok (v,after))
    (hafter : skipSpace after = .char ',' :: more)
    (hrest : readMembers fuel room (setMember key v before) (skipSpace more) = .ok (members,rest)) :
    readMembers (fuel + 1) room before s = .ok (members,rest) := by
  rw [readMembers,hkey]
  simp only [h,hafter]
  exact hrest

theorem readable_arr_cons : Readable (.arr (v :: items)) ↔ v.Readable ∧ Readable (.arr items) :=
  List.forall_mem_append

theorem readable_obj_cons :
    Readable (.obj ((key,v) :: members)) ↔ v.Readable ∧ Readable (.obj members) :=
  List.forall_mem_append

/-- Spaces before the start of a value are skipped, and no more. -/
theorem skipSpace_render (hs : IsSpaces s) (hv : v.Readable) :
    skipSpace (s ++ (render layout depth v ++ rest)) = render layout depth v ++ rest := by
  obtain ⟨c,cs,hc,hspace,-⟩ := render_head layout depth hv
  rw [skipSpace_append hs,hc,List.cons_append,skipSpace_cons hspace]

theorem enclose_of_ne_nil {parts : List Text} (h : parts ≠ []) {opening closing : CodePoint} :
    layout.enclose depth opening closing parts ++ rest =
      opening :: (layout.lineBreak (depth + 1) ++
        (Text.joinWith (layout.separator ++ layout.lineBreak (depth + 1)) parts ++
          (layout.lineBreak depth ++ closing :: rest))) := by
  rw [Layout.enclose,if_neg (by simpa using h)]
  simp only [List.append_assoc,List.cons_append,List.nil_append]

/-- What stands between two items ends a number and is read as a mark and spaces. -/
theorem IsMark.separates (h : IsMark (.char ',') glue) : EndsNumber (glue ++ s) ∧
    ∃ spaces, IsSpaces spaces ∧ skipSpace (glue ++ s) = .char ',' :: (spaces ++ s) := by
  obtain ⟨spaces,rfl,hspaces⟩ := h
  exact ⟨endsNumber_cons (by decide),spaces,hspaces,skipSpace_cons rfl⟩

theorem closes (rest : Text) (h : IsSpaces after) (hc : c = .char ']' ∨ c = .char '\x7d') :
    EndsNumber (after ++ c :: rest) ∧ skipSpace (after ++ c :: rest) = c :: rest := by
  rw [skipSpace_append h]
  rcases hc with rfl | rfl
  · exact ⟨endsNumber_of_isSpaces h (endsNumber_cons (by decide)),skipSpace_cons rfl⟩
  · exact ⟨endsNumber_of_isSpaces h (endsNumber_cons (by decide)),skipSpace_cons rfl⟩

/-- A member starts with its key, and the value comes after the colon. -/
theorem renderMember_append (layout : Layout) (depth : Nat) (key : Text) (v : Json) :
    renderString layout.inAscii key ++ layout.colon ++ render layout depth v ++ rest =
      .char '"' :: (key.flatMap (escapeCodePoint layout.inAscii) ++
        .char '"' :: (layout.colon ++ (render layout depth v ++ rest))) := by
  simp only [renderString,List.append_assoc,List.cons_append,List.nil_append]

theorem skipSpace_colon (depth : Nat) (rest : Text) (hl : layout.IsPlain) (hv : v.Readable) :
    ∃ more, skipSpace (layout.colon ++ (render layout depth v ++ rest)) = .char ':' :: more ∧
      skipSpace more = render layout depth v ++ rest := by
  obtain ⟨spaces,heq,hspaces⟩ := hl.colon
  rw [heq]
  exact ⟨_,skipSpace_cons rfl,skipSpace_render hspaces hv⟩

/-- With some fuel and room, whatever takes no more of either is read as it was written. -/
structure Reads (layout : Layout) (fuel : Nat) : Prop where
  value : ∀ (v : Json) (room : Room) (depth : Nat) (rest : Text), v.Readable → v.need ≤ fuel →
    room.has v.depth = true → EndsNumber rest →
      readValue fuel room (render layout depth v ++ rest) = .ok (received layout.inAscii v,rest)
  items : ∀ (v : Json) (items : List Json) (room : Room) (depth : Nat) (glue after rest : Text),
    Readable (.arr (v :: items)) → needOfItems (v :: items) ≤ fuel →
      room.has (depthOfItems (v :: items)) = true → IsMark (.char ',') glue → IsSpaces after →
        readItems fuel room (Text.joinWith glue (renderItems layout depth (v :: items)) ++
          (after ++ .char ']' :: rest)) = .ok (receivedItems layout.inAscii (v :: items),rest)
  members : ∀ (key : Text) (v : Json) (members before : Members) (room : Room) (depth : Nat)
    (glue after rest : Text), Readable (.obj ((key,v) :: members)) →
      needOfMembers ((key,v) :: members) ≤ fuel →
        room.has (depthOfMembers ((key,v) :: members)) = true → IsMark (.char ',') glue →
          IsSpaces after → readMembers fuel room before
            (Text.joinWith glue (renderMembers layout depth ((key,v) :: members)) ++
              (after ++ .char '\x7d' :: rest)) =
                .ok (receivedMembers layout.inAscii before ((key,v) :: members),rest)

section Steps
variable (hl : layout.IsPlain) (ih : Reads layout fuel)
include hl ih

theorem readValue_render (hv : v.Readable) (hfuel : v.need ≤ fuel + 1)
    (hroom : room.has v.depth = true) (hr : EndsNumber rest) :
    readValue (fuel + 1) room (render layout depth v ++ rest) =
      .ok (received layout.inAscii v,rest) := by
  cases v with
  | null => exact readValue_scalar (if_pos hroom)
  | bool b => cases b <;> exact readValue_scalar (if_pos hroom)
  | int n => exact readValue_scalar (readScalar_ofInt (hv _ List.mem_cons_self) hr)
  | real x => exact readValue_scalar (readScalar_real (hv _ List.mem_cons_self) hroom hr)
  | str s => exact readValue_str layout.inAscii s
  | arr items =>
    obtain ⟨inner,hinner⟩ := Room.inside?_of_has hroom
    rw [Json.depth,← Room.has_inside hinner] at hroom
    rw [render,received]
    cases items with
    | nil => exact readValue_arr_nil hinner
    | cons v items =>
      have hspaces := lineBreak_isSpaces layout (depth + 1)
      have hfirst := (readable_arr_cons.mp hv).1
      have hread := ih.items v items inner (depth + 1) _ _ rest hv (Nat.le_of_succ_le_succ hfuel)
        hroom (hl.separator.append hspaces) (lineBreak_isSpaces layout depth)
      obtain ⟨more,hmore⟩ := Text.joinWith_starts (layout.separator ++ layout.lineBreak (depth + 1))
        (render layout (depth + 1) v) (renderItems layout (depth + 1) items)
      obtain ⟨c,cs,hc,-,hne⟩ := render_head layout (depth + 1) hfirst
      rw [renderItems,enclose_of_ne_nil (List.cons_ne_nil _ _)]
      rw [renderItems,hmore,List.append_assoc,hc,List.cons_append] at hread
      refine readValue_arr hinner ?_ hne hread
      rw [hmore,List.append_assoc,skipSpace_render hspaces hfirst,hc,List.cons_append]
  | obj members =>
    obtain ⟨inner,hinner⟩ := Room.inside?_of_has hroom
    rw [Json.depth,← Room.has_inside hinner] at hroom
    rw [render,received]
    cases members with
    | nil => exact readValue_obj_nil hinner
    | cons member members =>
      obtain ⟨key,v⟩ := member
      have hspaces := lineBreak_isSpaces layout (depth + 1)
      have hread := ih.members key v members [] inner (depth + 1) _ _ rest hv
        (Nat.le_of_succ_le_succ hfuel) hroom (hl.separator.append hspaces)
        (lineBreak_isSpaces layout depth)
      obtain ⟨more,hmore⟩ := Text.joinWith_starts (layout.separator ++ layout.lineBreak (depth + 1))
        (renderString layout.inAscii key ++ layout.colon ++ render layout (depth + 1) v)
        (renderMembers layout (depth + 1) members)
      rw [renderMembers,enclose_of_ne_nil (List.cons_ne_nil _ _)]
      rw [renderMembers,hmore,List.append_assoc,renderMember_append] at hread
      refine readValue_obj hinner ?_ (by decide) hread
      rw [hmore,List.append_assoc,renderMember_append,skipSpace_append hspaces,skipSpace_cons rfl]

omit hl in
theorem readItems_render (hv : Readable (.arr (v :: items)))
    (hfuel : needOfItems (v :: items) ≤ fuel + 1)
    (hroom : room.has (depthOfItems (v :: items)) = true) (hglue : IsMark (.char ',') glue)
    (hafter : IsSpaces after) :
    readItems (fuel + 1) room (Text.joinWith glue (renderItems layout depth (v :: items)) ++
      (after ++ .char ']' :: rest)) = .ok (receivedItems layout.inAscii (v :: items),rest) := by
  rw [needOfItems] at hfuel
  obtain ⟨hfirst,hothers⟩ := readable_arr_cons.mp hv
  obtain ⟨hdepth,hdepths⟩ := Room.has_max.mp hroom
  cases items with
  | nil =>
    obtain ⟨hends,hskip⟩ := closes rest hafter (.inl rfl)
    rw [renderItems,renderItems,Text.joinWith_singleton]
    exact readItems_last (ih.value v room depth _ hfirst (by omega) hdepth hends) hskip
  | cons w items =>
    have hread :=
      ih.items w items room depth glue after rest hothers (by omega) hdepths hglue hafter
    obtain ⟨hends,spaces,hspaces,hskip⟩ := hglue.separates
      (s := Text.joinWith glue (renderItems layout depth (w :: items)) ++
        (after ++ .char ']' :: rest))
    rw [renderItems,renderItems,Text.joinWith_cons_cons,← renderItems,
      List.append_assoc _ (glue ++ _),List.append_assoc glue]
    refine readItems_cons (ih.value v room depth _ hfirst (by omega) hdepth hends) hskip ?_
    obtain ⟨more,hmore⟩ := Text.joinWith_starts glue (render layout depth w)
      (renderItems layout depth items)
    rw [renderItems,hmore,List.append_assoc] at hread ⊢
    rw [skipSpace_render hspaces (readable_arr_cons.mp hothers).1,hread]

theorem readMembers_render (hv : Readable (.obj ((key,v) :: members)))
    (hfuel : needOfMembers ((key,v) :: members) ≤ fuel + 1)
    (hroom : room.has (depthOfMembers ((key,v) :: members)) = true)
    (hglue : IsMark (.char ',') glue) (hafter : IsSpaces after) :
    readMembers (fuel + 1) room before
      (Text.joinWith glue (renderMembers layout depth ((key,v) :: members)) ++
        (after ++ .char '\x7d' :: rest)) =
          .ok (receivedMembers layout.inAscii before ((key,v) :: members),rest) := by
  rw [needOfMembers] at hfuel
  obtain ⟨hfirst,hothers⟩ := readable_obj_cons.mp hv
  obtain ⟨hdepth,hdepths⟩ := Room.has_max.mp hroom
  cases members with
  | nil =>
    obtain ⟨hends,hskip⟩ := closes rest hafter (.inr rfl)
    obtain ⟨value,hcolon,hvalue⟩ := skipSpace_colon depth _ hl hfirst
    rw [renderMembers,renderMembers,Text.joinWith_singleton,renderMember_append]
    refine readMembers_last (readKey_quoted (readString_render _ _ _ _) hcolon) ?_ hskip
    rw [hvalue]
    exact ih.value v room depth _ hfirst (by omega) hdepth hends
  | cons next members =>
    obtain ⟨nextKey,w⟩ := next
    obtain ⟨others,hothersText⟩ : ∃ others : Text, others =
      Text.joinWith glue (renderMembers layout depth ((nextKey,w) :: members)) ++
        (after ++ .char '\x7d' :: rest) := ⟨_,rfl⟩
    obtain ⟨hends,spaces,hspaces,hskip⟩ := hglue.separates (s := others)
    obtain ⟨value,hcolon,hvalue⟩ := skipSpace_colon depth (glue ++ others) hl hfirst
    have hread := ih.members nextKey w members
      (setMember (receivedText layout.inAscii key) (received layout.inAscii v) before)
      room depth glue
      after rest hothers (by omega) hdepths hglue hafter
    have hfirstRead := ih.value v room depth _ hfirst (by omega) hdepth hends
    rw [← hvalue] at hfirstRead
    rw [renderMembers,renderMembers,Text.joinWith_cons_cons,← renderMembers,
      List.append_assoc _ (glue ++ _),List.append_assoc glue,← hothersText,
      renderMember_append]
    refine readMembers_cons (readKey_quoted (readString_render _ _ _ _) hcolon) hfirstRead hskip ?_
    obtain ⟨more,hmore⟩ := Text.joinWith_starts glue
      (renderString layout.inAscii nextKey ++ layout.colon ++ render layout depth w)
      (renderMembers layout depth members)
    rw [renderMembers,hmore,List.append_assoc,renderMember_append] at hread hothersText
    rw [skipSpace_append hspaces,hothersText,skipSpace_cons rfl]
    exact hread

end Steps

theorem reads (hl : layout.IsPlain) (fuel : Nat) : Reads layout fuel := by
  induction fuel with
  | zero =>
    refine ⟨fun v _ _ _ _ hfuel => absurd hfuel ?_,fun v items _ _ _ _ _ _ hfuel => absurd hfuel ?_,
      fun key v members _ _ _ _ _ _ _ hfuel => absurd hfuel ?_⟩
    · cases v <;> simp [need]
    · simp [needOfItems]
    · simp [needOfMembers]
  | succ fuel ih =>
    exact ⟨fun _ _ _ _ hv hfuel hroom hr => readValue_render hl ih hv hfuel hroom hr,
      fun _ _ _ _ _ _ _ hv hfuel hroom hglue hafter =>
        readItems_render ih hv hfuel hroom hglue hafter,
      fun _ _ _ _ _ _ _ _ _ hv hfuel hroom hglue hafter =>
        readMembers_render hl ih hv hfuel hroom hglue hafter⟩

/-! ## Enough fuel -/

theorem length_enclose {parts : List Text} {opening closing : CodePoint} :
    (Text.joinWith (layout.separator ++ layout.lineBreak (depth + 1)) parts).length + 2 ≤
      (layout.enclose depth opening closing parts).length := by
  rw [Layout.enclose]
  split
  · next h =>
    rw [List.isEmpty_iff.mp h,Text.joinWith,List.intercalate_nil]
    exact Nat.le_refl 2
  · simp only [List.length_append,List.length_cons,List.length_nil]
    omega

theorem IsMark.length_pos (h : IsMark c s) : 0 < s.length := by
  obtain ⟨spaces,rfl,-⟩ := h
  exact Nat.succ_pos _

mutual

/-- A value takes no more fuel than its text has code points. -/
theorem need_le (hl : layout.IsPlain) (depth : Nat) (v : Json) (hv : v.Readable) :
    v.need ≤ (render layout depth v).length := by
  cases v with
  | arr items =>
    have hmark := hl.separator.append (lineBreak_isSpaces layout (depth + 1))
    exact Nat.le_trans (Nat.succ_le_succ (needOfItems_le hl hmark (depth + 1) items hv))
      length_enclose
  | obj members =>
    have hmark := hl.separator.append (lineBreak_isSpaces layout (depth + 1))
    exact Nat.le_trans (Nat.succ_le_succ (needOfMembers_le hl hmark (depth + 1) members hv))
      length_enclose
  | _ =>
    obtain ⟨c,cs,hc,-⟩ := render_head layout depth hv
    rw [hc]
    exact Nat.succ_le_succ (Nat.zero_le _)

theorem needOfItems_le (hl : layout.IsPlain) {mark : Text} (hmark : IsMark (.char ',') mark)
    (depth : Nat) (items : List Json) (hv : Readable (.arr items)) :
    needOfItems items ≤ (Text.joinWith mark (renderItems layout depth items)).length + 1 := by
  cases items with
  | nil => exact Nat.zero_le _
  | cons v items =>
    have hfirst := need_le hl depth v (readable_arr_cons.mp hv).1
    have hothers := needOfItems_le hl hmark depth items (readable_arr_cons.mp hv).2
    have hpos := hmark.length_pos
    rw [needOfItems]
    cases items with
    | nil =>
      rw [renderItems,renderItems,Text.joinWith_singleton,needOfItems]
      omega
    | cons w items =>
      rw [renderItems] at hothers
      rw [renderItems,renderItems,Text.joinWith_cons_cons]
      simp only [List.length_append]
      omega

theorem needOfMembers_le (hl : layout.IsPlain) {mark : Text} (hmark : IsMark (.char ',') mark)
    (depth : Nat) (members : Members) (hv : Readable (.obj members)) :
    needOfMembers members ≤
      (Text.joinWith mark (renderMembers layout depth members)).length + 1 := by
  cases members with
  | nil => exact Nat.zero_le _
  | cons member members =>
    obtain ⟨key,v⟩ := member
    have hfirst := need_le hl depth v (readable_obj_cons.mp hv).1
    have hothers := needOfMembers_le hl hmark depth members (readable_obj_cons.mp hv).2
    have hpos := hmark.length_pos
    rw [needOfMembers]
    cases members with
    | nil =>
      rw [renderMembers,renderMembers,Text.joinWith_singleton,needOfMembers,
        List.length_append]
      omega
    | cons next members =>
      rw [renderMembers] at hothers
      rw [renderMembers,renderMembers,Text.joinWith_cons_cons]
      simp only [List.length_append] at hothers ⊢
      omega

end

/-- The text of a value is read as the value where there is room for it, whatever spaces come
after. -/
theorem readWithin_toText (hl : layout.IsPlain) (hv : v.Readable) (hroom : room.has v.depth = true)
    (hs : IsSpaces s) :
    readWithin room (toText layout v ++ s) = .ok (received layout.inAscii v) := by
  have hends : EndsNumber s := by
    have := endsNumber_of_isSpaces hs (t := []) fun c hc => by cases hc
    rwa [List.append_nil] at this
  have hskip : skipSpace (toText layout v ++ s) = toText layout v ++ s :=
    skipSpace_render (s := []) (fun c hc => by cases hc) hv
  have hrest : skipSpace s = [] := by
    have := skipSpace_append (t := []) hs
    rwa [List.append_nil] at this
  have hfuel : v.need ≤ 2 * (toText layout v ++ s).length + 1 := by
    have := need_le hl 0 v hv
    rw [List.length_append,toText]
    omega
  have hread := (reads hl _).value v room 0 s hv hfuel hroom hends
  rw [← toText] at hread
  rw [readWithin,hskip,hread]
  dsimp only
  rw [hrest,if_pos List.isEmpty_nil]

/-- Nested as it may be, the text of a value is read as the value. -/
theorem ofText_toText (hl : layout.IsPlain) (hv : v.Readable) (hs : IsSpaces s) :
    ofText (toText layout v ++ s) = .ok (received layout.inAscii v) :=
  readWithin_toText hl hv rfl hs

/-! ## Values that come back as they are -/

mutual

/-- The strings in a value, keys among them. -/
def strings : Json → List Text
  | .str s => [s]
  | .arr items => stringsOfItems items
  | .obj members => stringsOfMembers members
  | _ => []

def stringsOfItems : List Json → List Text
  | [] => []
  | v :: rest => strings v ++ stringsOfItems rest

def stringsOfMembers : Members → List Text
  | [] => []
  | (key, v) :: rest => key :: strings v ++ stringsOfMembers rest

end

mutual

/-- No object in a value has a key twice. -/
def DistinctKeys : Json → Prop
  | .arr items => DistinctKeysOfItems items
  | .obj members => (members.map Prod.fst).Nodup ∧ DistinctKeysOfMembers members
  | _ => True

def DistinctKeysOfItems : List Json → Prop
  | [] => True
  | v :: rest => DistinctKeys v ∧ DistinctKeysOfItems rest

def DistinctKeysOfMembers : Members → Prop
  | [] => True
  | (_, v) :: rest => DistinctKeys v ∧ DistinctKeysOfMembers rest

end

theorem setMember_of_not_mem (h : key ∉ before.map Prod.fst) :
    setMember key v before = before ++ [(key,v)] := by
  induction before with
  | nil => rfl
  | cons member before ih =>
    obtain ⟨k,w⟩ := member
    rw [List.map_cons,List.mem_cons,not_or] at h
    rw [setMember,if_neg (Ne.symm h.1),ih h.2,List.cons_append]

mutual

theorem received_eq (inAscii : Bool) (v : Json) (hkeys : v.DistinctKeys)
    (hs : ∀ s ∈ v.strings, receivedText inAscii s = s) : received inAscii v = v := by
  cases v with
  | str s => rw [received,hs s (List.mem_singleton_self s)]
  | arr items => rw [received,receivedItems_eq inAscii items hkeys hs]
  | obj members => rw [received,receivedMembers_eq inAscii members [] hkeys.1 hkeys.2 hs]; rfl
  | _ => rfl

theorem receivedItems_eq (inAscii : Bool) (items : List Json) (hkeys : DistinctKeysOfItems items)
    (hs : ∀ s ∈ stringsOfItems items, receivedText inAscii s = s) :
    receivedItems inAscii items = items := by
  cases items with
  | nil => rfl
  | cons v items =>
    obtain ⟨hv,hitems⟩ := List.forall_mem_append.mp hs
    rw [receivedItems,received_eq inAscii v hkeys.1 hv,
      receivedItems_eq inAscii items hkeys.2 hitems]

theorem receivedMembers_eq (inAscii : Bool) (members before : Members)
    (hdistinct : ((before ++ members).map Prod.fst).Nodup) (hkeys : DistinctKeysOfMembers members)
    (hs : ∀ s ∈ stringsOfMembers members, receivedText inAscii s = s) :
    receivedMembers inAscii before members = before ++ members := by
  cases members with
  | nil => rw [receivedMembers,List.append_nil]
  | cons member members =>
    obtain ⟨key,v⟩ := member
    obtain ⟨hkey,hrest⟩ := List.forall_mem_cons.mp hs
    obtain ⟨hv,hmembers⟩ := List.forall_mem_append.mp hrest
    have hnew : key ∉ before.map Prod.fst := by
      rw [List.map_append,List.nodup_append'] at hdistinct
      exact fun h => hdistinct.2.2 h List.mem_cons_self
    rw [receivedMembers,hkey,received_eq inAscii v hkeys.1 hv,setMember_of_not_mem hnew]
    rw [List.append_cons before (key,v) members] at hdistinct ⊢
    exact receivedMembers_eq inAscii members _ hdistinct hkeys.2 hmembers

end

/-- Without surrogates, a value with distinct keys comes back from any text as it is. -/
theorem received_of_not_surrogate (inAscii : Bool) (hkeys : v.DistinctKeys)
    (hs : ∀ s ∈ v.strings, ∀ c ∈ s, Text.isSurrogate c = false) : received inAscii v = v := by
  refine received_eq inAscii v hkeys fun s hmem => ?_
  rw [receivedText]
  split
  · exact Text.joined_of_not_surrogate (hs s hmem)
  · rfl

end StyleLift.Json
