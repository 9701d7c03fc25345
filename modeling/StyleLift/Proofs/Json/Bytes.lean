import StyleLift.Json.Encoding
import StyleLift.Proofs.Json.Roundtrip

/-! # JSON in bytes

The bytes of a written object are told to be UTF-8 by their first two and read back. A text that is
not in ASCII has bytes as long as none of its strings has a surrogate.
-/
namespace StyleLift

/-- A text without surrogates. -/
def Text.IsScalar (s : Text) : Prop := ∀ c ∈ s, isSurrogate c = false

namespace Text
variable {s : Text}

instance : Decidable s.IsScalar := inferInstanceAs (Decidable (∀ c ∈ s, isSurrogate c = false))

theorem isScalar_chars (chars : List Char) : IsScalar (chars.map CodePoint.char) := by
  intro c hc
  obtain ⟨d,-,rfl⟩ := List.mem_map.mp hc
  rfl

end Text

namespace Json

variable {layout : Layout} {depth : Nat} {s : Text} {members : Members}

/-! ## What written JSON is made of -/

/-- Printable ASCII or a space: all that a value is written with, but for its strings out of
ASCII. -/
def IsTypable (c : CodePoint) : Prop := (0x20 ≤ c.val ∧ c.val < 0x7F) ∨ isSpace c = true

instance (c : CodePoint) : Decidable (IsTypable c) := inferInstanceAs (Decidable (_ ∨ _))

theorem IsTypable.not_surrogate {c : CodePoint} (h : IsTypable c) : Text.isSurrogate c = false := by
  rcases h with h | h
  · rw [← Bool.not_eq_true,CodePoint.isSurrogate_iff]
    omega
  · simp only [isSpace,Bool.or_eq_true,beq_iff_eq] at h
    rcases h with ((rfl | rfl) | rfl) | rfl <;> rfl

theorem isTypable_hexChar : ∀ k < 16, IsTypable (hexChar k) := by decide

theorem isTypable_unitEscape {n : Nat} (h : n < 0x10000) : ∀ c ∈ unitEscape n, IsTypable c := by
  rw [unitEscape,paddedHex_four h]
  refine List.forall_mem_append.mpr ⟨by decide,?_⟩
  simp only [List.forall_mem_cons]
  exact ⟨isTypable_hexChar _ (by omega),isTypable_hexChar _ (by omega),
    isTypable_hexChar _ (by omega),isTypable_hexChar _ (by omega),
    fun c hc => absurd hc List.not_mem_nil⟩

theorem isTypable_digits {c : Char} {n : Nat} (h : c ∈ Nat.toDigits 10 n) :
    IsTypable (.char c) := by
  have hdigit := Text.isDigits_ofNat n (.char c) (List.mem_map_of_mem h)
  simp only [CodePoint.isAsciiDigit,Bool.and_eq_true,decide_eq_true_eq] at hdigit
  exact .inl ⟨by omega,by omega⟩

theorem isTypable_chars {cs : List Char} (h : (cs.all fun c => IsTypable (.char c)) = true) :
    ∀ c ∈ cs, IsTypable (.char c) :=
  fun c hc => of_decide_eq_true (List.all_eq_true.mp h c hc)

theorem isTypable_mantissa (n : Nat) :
    ∀ c ∈ Binary64.dropTrailingZeros (Nat.toDigits 10 n), IsTypable (.char c) := by
  intro c hc
  have hmem := (List.dropWhile_sublist _).subset (List.mem_reverse.mp hc)
  exact isTypable_digits (List.mem_reverse.mp hmem)

theorem isTypable_zeros (k : Nat) : ∀ c ∈ List.replicate k '0', IsTypable (.char c) := by
  intro c hc
  rw [List.eq_of_mem_replicate hc]
  decide

theorem isTypable_exponentText (e : Int) : ∀ c ∈ Binary64.exponentText e, IsTypable (.char c) := by
  intro c hc
  rw [Binary64.exponentText] at hc
  rcases List.mem_cons.mp hc with rfl | hc
  · split <;> decide
  split at hc
  · rcases List.mem_cons.mp hc with rfl | hc
    · decide
    · exact isTypable_digits hc
  · exact isTypable_digits hc

theorem isTypable_layout (form : Binary64.DecimalForm) (number : Nat × Int) :
    ∀ c ∈ form.layout number, IsTypable (.char c) := by
  have hdigits := isTypable_mantissa number.1
  intro c hc
  rw [Binary64.DecimalForm.layout] at hc
  dsimp only at hc
  split at hc
  · simp only [List.mem_append,List.mem_cons] at hc
    rcases hc with (hc | hc) | rfl | hc
    · exact hdigits c (List.mem_of_mem_take hc)
    · split at hc
      · cases hc
      · rcases List.mem_cons.mp hc with rfl | hc
        · decide
        · exact hdigits c (List.mem_of_mem_drop hc)
    · decide
    · exact isTypable_exponentText _ c hc
  split at hc
  · simp only [List.mem_append,List.mem_cons] at hc
    rcases hc with (rfl | rfl | hc) | hc
    · decide
    · decide
    · exact isTypable_zeros _ c hc
    · exact hdigits c hc
  · simp only [List.mem_append] at hc
    rcases hc with (hc | hc) | hc
    · exact hdigits c (List.mem_of_mem_take hc)
    · exact isTypable_zeros _ c hc
    · split at hc
      · split at hc
        · exact isTypable_chars (by decide) c hc
        · cases hc
      · rcases List.mem_cons.mp hc with rfl | hc
        · decide
        · exact hdigits c (List.mem_of_mem_drop hc)

theorem isTypable_renderReal (x : Binary64) : ∀ c ∈ renderReal x, IsTypable c := by
  cases x with
  | nan => decide
  | infinity negative => cases negative <;> decide
  | finite negative m e =>
    have hbody : ∀ c ∈ (if m = 0 then ['0','.','0'] else
        Binary64.DecimalForm.layout ⟨16,true⟩ (Binary64.shortestDigits m e)),
          IsTypable (.char c) := by
      split
      · exact isTypable_chars (by decide)
      · exact isTypable_layout _ _
    intro c hc
    obtain ⟨d,hd,rfl⟩ := List.mem_map.mp hc
    cases negative with
    | false => exact hbody d hd
    | true =>
      rcases List.mem_cons.mp hd with rfl | hd
      · decide
      · exact hbody d hd

theorem isTypable_ofInt (n : Int) : ∀ c ∈ Text.ofInt n, IsTypable c := by
  have hnat : ∀ k, ∀ c ∈ Text.ofNat k, IsTypable c := fun k c hc => by
    obtain ⟨d,hd,rfl⟩ := List.mem_map.mp hc
    exact isTypable_digits hd
  cases n with
  | ofNat n => exact hnat n
  | negSucc n => exact List.forall_mem_cons.mpr ⟨by decide,hnat _⟩

theorem isTypable_spaces (h : IsSpaces s) : ∀ c ∈ s, IsTypable c := fun c hc => .inr (h c hc)

theorem IsMark.isTypable {c : CodePoint} (hc : IsTypable c) (h : IsMark c s) :
    ∀ d ∈ s, IsTypable d := by
  obtain ⟨spaces,rfl,hspaces⟩ := h
  exact List.forall_mem_cons.mpr ⟨hc,isTypable_spaces hspaces⟩

section Written
variable {p : CodePoint → Prop} (hp : ∀ c, IsTypable c → p c)
include hp

theorem forall_escapeCodePoint {inAscii : Bool} {c : CodePoint} (h : inAscii = true ∨ p c) :
    ∀ d ∈ escapeCodePoint inAscii c, p d := by
  have hself : 0x20 ≤ c.val ∧ (c.val < 0x7F ∨ !inAscii) → ∀ d ∈ [c], p d := fun hplain d hd => by
    rw [List.mem_singleton.mp hd]
    rcases h with rfl | h
    · exact hp c (.inl ⟨hplain.1,hplain.2.resolve_right (by decide)⟩)
    · exact h
  have hunit : ∀ {n}, n < 0x10000 → ∀ d ∈ unitEscape n, p d :=
    fun hn d hd => hp d (isTypable_unitEscape hn d hd)
  have hshort : ∀ {t : Text}, (∀ d ∈ t, IsTypable d) → ∀ d ∈ t, p d := fun ht d hd => hp d (ht d hd)
  have hlimit := c.val_lt
  unfold escapeCodePoint
  dsimp only
  repeat' split
  all_goals first
    | exact hself ‹_›
    | exact hshort (by decide)
    | exact hunit ‹_›
    | exact List.forall_mem_append.mpr ⟨hunit (by omega),hunit (by omega)⟩

theorem forall_renderString {inAscii : Bool} (h : inAscii = true ∨ ∀ c ∈ s, p c) :
    ∀ c ∈ renderString inAscii s, p c := by
  have hquote : p (.char '"') := hp _ (by decide)
  refine List.forall_mem_cons.mpr ⟨hquote,List.forall_mem_append.mpr ⟨fun d hd => ?_,?_⟩⟩
  · obtain ⟨c,hc,hcd⟩ := List.mem_flatMap.mp hd
    exact forall_escapeCodePoint hp (h.imp_right fun hs => hs c hc) d hcd
  · exact List.forall_mem_cons.mpr ⟨hquote,fun _ h => absurd h List.not_mem_nil⟩

theorem forall_enclose {parts : List Text} {opening closing : CodePoint} (hl : layout.IsPlain)
    (hopening : IsTypable opening) (hclosing : IsTypable closing)
    (h : ∀ part ∈ parts, ∀ c ∈ part, p c) :
    ∀ c ∈ layout.enclose depth opening closing parts, p c := by
  have hend : ∀ c ∈ [closing], p c := fun c hc => by
    rw [List.mem_singleton.mp hc]
    exact hp _ hclosing
  have hbreak : ∀ depth, ∀ c ∈ layout.lineBreak depth, p c := fun depth c hc =>
    hp c (isTypable_spaces (lineBreak_isSpaces layout depth) c hc)
  have hmark := List.forall_mem_append.mpr
    ⟨fun c hc => hp c (hl.separator.isTypable (by decide) c hc),hbreak (depth + 1)⟩
  rw [Layout.enclose]
  split
  · exact List.forall_mem_cons.mpr ⟨hp _ hopening,hend⟩
  · simp only [List.cons_append]
    exact List.forall_mem_cons.mpr ⟨hp _ hopening,List.forall_mem_append.mpr
      ⟨List.forall_mem_append.mpr ⟨List.forall_mem_append.mpr
        ⟨hbreak _,Text.forall_joinWith hmark h⟩,hbreak _⟩,hend⟩⟩

end Written

mutual

/-- What holds of all that can be typed holds of a written value, unless the value is not in ASCII
and it does not hold of a string there. -/
theorem forall_render {p : CodePoint → Prop} (hp : ∀ c, IsTypable c → p c) (hl : layout.IsPlain)
    (depth : Nat) (v : Json)
    (h : ∀ s ∈ v.strings, layout.inAscii = true ∨ ∀ c ∈ s, p c) :
    ∀ c ∈ render layout depth v, p c := by
  have hword : ∀ {t : Text}, (∀ d ∈ t, IsTypable d) → ∀ d ∈ t, p d := fun ht d hd => hp d (ht d hd)
  cases v with
  | null => exact hword (t := "null") (by decide)
  | bool b =>
    cases b with
    | false => exact hword (t := "false") (by decide)
    | true => exact hword (t := "true") (by decide)
  | int n => exact hword (isTypable_ofInt n)
  | real x => exact hword (isTypable_renderReal x)
  | str s => exact forall_renderString hp (h s (List.mem_singleton_self s))
  | arr items =>
    exact forall_enclose hp hl (by decide) (by decide)
      (forall_renderItems hp hl (depth + 1) items h)
  | obj members =>
    exact forall_enclose hp hl (by decide) (by decide)
      (forall_renderMembers hp hl (depth + 1) members h)

theorem forall_renderItems {p : CodePoint → Prop} (hp : ∀ c, IsTypable c → p c)
    (hl : layout.IsPlain) (depth : Nat) (items : List Json)
    (h : ∀ s ∈ stringsOfItems items, layout.inAscii = true ∨ ∀ c ∈ s, p c) :
    ∀ part ∈ renderItems layout depth items, ∀ c ∈ part, p c := by
  cases items with
  | nil => exact fun part hpart => by cases hpart
  | cons v items =>
    obtain ⟨hv,hitems⟩ := List.forall_mem_append.mp h
    exact List.forall_mem_cons.mpr
      ⟨forall_render hp hl depth v hv,forall_renderItems hp hl depth items hitems⟩

theorem forall_renderMembers {p : CodePoint → Prop} (hp : ∀ c, IsTypable c → p c)
    (hl : layout.IsPlain) (depth : Nat) (members : Members)
    (h : ∀ s ∈ stringsOfMembers members, layout.inAscii = true ∨ ∀ c ∈ s, p c) :
    ∀ part ∈ renderMembers layout depth members, ∀ c ∈ part, p c := by
  cases members with
  | nil => exact fun part hpart => by cases hpart
  | cons member members =>
    obtain ⟨key,v⟩ := member
    obtain ⟨hkey,hrest⟩ := List.forall_mem_cons.mp h
    obtain ⟨hv,hmembers⟩ := List.forall_mem_append.mp hrest
    have hcolon : ∀ c ∈ layout.colon, p c := fun c hc => hp c (hl.colon.isTypable (by decide) c hc)
    exact List.forall_mem_cons.mpr ⟨List.forall_mem_append.mpr ⟨List.forall_mem_append.mpr
      ⟨forall_renderString hp hkey,hcolon⟩,forall_render hp hl depth v hv⟩,
        forall_renderMembers hp hl depth members hmembers⟩

end

/-- In ASCII all of a written value can be typed. -/
theorem isTypable_toText (hl : layout.IsPlain) (hascii : layout.inAscii = true) (v : Json) :
    ∀ c ∈ v.toText layout, IsTypable c :=
  forall_render (fun _ h => h) hl 0 v fun _ _ => .inl hascii

/-- A written value has no surrogate, unless it is not in ASCII and a string of it has one. -/
theorem render_isScalar (hl : layout.IsPlain) (depth : Nat) (v : Json)
    (h : ∀ s ∈ v.strings, layout.inAscii = true ∨ s.IsScalar) :
    Text.IsScalar (render layout depth v) :=
  forall_render (fun _ => IsTypable.not_surrogate) hl depth v h

/-! ## Reading bytes -/

/-- An object starts with a brace and another code point of ASCII, which is not zero. -/
theorem toText_obj_head (layout : Layout) (members : Members) : ∃ c t,
    toText layout (.obj members) = .char '\x7b' :: .char c :: t ∧ 0 < c.toNat ∧ c.toNat < 0x80 := by
  rw [toText,render,Layout.enclose]
  split
  · exact ⟨_,_,rfl,by decide,by decide⟩
  · next h =>
    rw [Layout.lineBreak]
    split
    · cases members with
      | nil => exact absurd rfl h
      | cons member members =>
        obtain ⟨key,v⟩ := member
        obtain ⟨more,hmore⟩ := Text.joinWith_starts (layout.separator ++ [])
          (renderString layout.inAscii key ++ layout.colon ++ render layout (0 + 1) v)
          (renderMembers layout (0 + 1) members)
        rw [renderMembers,hmore]
        exact ⟨_,_,rfl,by decide,by decide⟩
    · exact ⟨_,_,rfl,by decide,by decide⟩

/-- The bytes of a bracket, a brace and an angle bracket. -/
def openingBytes : List UInt8 := [0x5B,0x7B,0x3C]

/-- Bytes that start with a bracket and are not cut to wider units are UTF-8. -/
theorem detectEncoding_opening {a b : UInt8} (ha : a ∈ openingBytes) (hb : b ≠ 0)
    (bytes : List UInt8) : detectEncoding (a :: b :: bytes) = (.utf8,0) := by
  simp only [openingBytes,List.mem_cons,List.not_mem_nil,or_false] at ha
  rcases bytes with _ | ⟨c,_ | ⟨d,bytes⟩⟩
  · calc detectEncoding [a,b] = if b = 0 then (.utf16 false,0) else (.utf8,0) := by
          rcases ha with rfl | rfl | rfl <;> rfl
      _ = (.utf8,0) := if_neg hb
  · rcases ha with rfl | rfl | rfl <;> rfl
  · calc detectEncoding (a :: b :: c :: d :: bytes)
        = if b = 0 then (if c = 0 ∧ d = 0 then .utf32 false else .utf16 false,0)
            else (.utf8,0) := by rcases ha with rfl | rfl | rfl <;> rfl
      _ = (.utf8,0) := if_neg hb

theorem decodeBytes?_opening {first c : Char} (hfirst : first ∈ ['[','\x7b','<'])
    (hpos : 0 < c.toNat) (hascii : c.toNat < 0x80) (t : Text) :
    decodeBytes? (Text.utf8 (.char first :: .char c :: t)) =
      some (.char first :: .char c :: t) := by
  simp only [List.mem_cons,List.not_mem_nil,or_false] at hfirst
  have hbyte : UInt8.ofNat c.toNat ≠ 0 := by
    rw [Ne,← UInt8.toNat_inj,Text.toNat_ofNat_byte (Nat.lt_trans hascii (by decide))]
    exact hpos.ne'
  have hbytes : Text.utf8 (.char first :: .char c :: t) =
      UInt8.ofNat first.toNat :: UInt8.ofNat c.toNat :: Text.utf8 t := by
    have hopening : Text.utf8Bytes (CodePoint.char first).val = [UInt8.ofNat first.toNat] := by
      rcases hfirst with rfl | rfl | rfl <;> rfl
    rw [Text.utf8,List.flatMap_cons,List.flatMap_cons,hopening]
    rw [show Text.utf8Bytes (CodePoint.char c).val = [UInt8.ofNat c.toNat] from if_pos hascii]
    rfl
  have hopening : UInt8.ofNat first.toNat ∈ openingBytes := by
    rcases hfirst with rfl | rfl | rfl <;> decide
  have hdecode : Text.decodeFrom true .start 0 [] (Text.utf8 (.char first :: .char c :: t)) =
      .ok (.char first :: .char c :: t) := Text.decodeFrom_utf8 (.inl rfl)
  rw [decodeBytes?]
  rw [hbytes] at hdecode ⊢
  rw [detectEncoding_opening hopening hbyte]
  dsimp only
  rw [List.drop_zero,hdecode]
  rfl

theorem decodeBytes?_obj (layout : Layout) (members : Members) (s : Text) :
    decodeBytes? (Text.utf8 (toText layout (.obj members) ++ s)) =
      some (toText layout (.obj members) ++ s) := by
  obtain ⟨c,t,htext,hpos,hascii⟩ := toText_obj_head layout members
  rw [htext]
  exact decodeBytes?_opening (by decide) hpos hascii (t ++ s)

/-- The bytes of an object are read as the object where there is room for it, whatever spaces come
after it. -/
theorem loadWithin_obj {room : Room} (hl : layout.IsPlain) (hv : Readable (.obj members))
    (hroom : room.has (Json.obj members).depth = true) (hs : IsSpaces s) :
    loadWithin room (Text.utf8 (toText layout (.obj members) ++ s)) =
      .ok (received layout.inAscii (.obj members)) := by
  rw [loadWithin,decodeBytes?_obj]
  exact readWithin_toText hl hv hroom hs

/-- With no end of room it is the reading of text that decides. -/
theorem ofBytes?_eq (bytes : List UInt8) :
    ofBytes? bytes = (loadWithin .endless bytes).toOption := by
  rw [ofBytes?,loadWithin]
  cases decodeBytes? bytes <;> rfl

end Json
end StyleLift
