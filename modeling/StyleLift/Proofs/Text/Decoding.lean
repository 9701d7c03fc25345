import StyleLift.Proofs.Text.Encoding

/-! # Bytes that can be decoded

Bytes are decoded just where they are the encoding of a text. A lead byte and the bounds on the
byte after it leave out every longer spelling of a code point, and the surrogates.
-/
namespace StyleLift

theorem CodePoint.val_ofNat {n : Nat} (h : n < 0x110000) (hs : ¬ (0xD800 ≤ n ∧ n < 0xE000)) :
    (ofNat n).val = n := by
  have hvalid : n.isValidChar := by
    rcases Nat.lt_or_ge n 0xD800 with hlow | hhigh
    · exact .inl hlow
    · exact .inr ⟨by omega,h⟩
  rw [ofNat,ofNat?,dif_pos hvalid]
  rfl

namespace Text

variable {acc s : Text} {bytes : List UInt8} {b low high lead : UInt8}
  {pos need seen value : Nat}

/-- How many bytes a lead byte announces, and the bounds that keep the next one from a longer
spelling or a surrogate. -/
theorem leadByte?_eq_some (h : leadByte? false b = some (need,low,high)) :
    (need = 1 ∧ 0xC2 ≤ b.toNat ∧ b.toNat ≤ 0xDF ∧ 0x80 ≤ low.toNat ∧ high.toNat ≤ 0xBF) ∨
    (need = 2 ∧ 0xE0 ≤ b.toNat ∧ b.toNat ≤ 0xEF ∧ 0x80 ≤ low.toNat ∧ high.toNat ≤ 0xBF ∧
      (b.toNat = 0xE0 → 0xA0 ≤ low.toNat) ∧ (b.toNat = 0xED → high.toNat ≤ 0x9F)) ∨
    (need = 3 ∧ 0xF0 ≤ b.toNat ∧ b.toNat ≤ 0xF4 ∧ 0x80 ≤ low.toNat ∧ high.toNat ≤ 0xBF ∧
      (b.toNat = 0xF0 → 0x90 ≤ low.toNat) ∧ (b.toNat = 0xF4 → high.toNat ≤ 0x8F)) := by
  simp only [leadByte?,UInt8.le_iff_toNat_le,beq_iff_eq,← UInt8.toNat_inj,Bool.and_eq_true,
    decide_eq_true_eq,UInt8.reduceToNat] at h
  repeat' split at h
  all_goals cases h
  · exact .inl ⟨rfl,by omega,by omega,by decide,by decide⟩
  · exact .inr (.inl ⟨rfl,by omega,by omega,by decide,by decide,fun _ => by decide,by omega⟩)
  · next hfalse => cases hfalse
  · exact .inr (.inl ⟨rfl,by omega,by omega,by decide,by decide,by omega,fun _ => by decide⟩)
  · exact .inr (.inl ⟨rfl,by omega,by omega,by decide,by decide,by omega,by omega⟩)
  · exact .inr (.inr ⟨rfl,by omega,by omega,by decide,by decide,fun _ => by decide,by omega⟩)
  · exact .inr (.inr ⟨rfl,by omega,by omega,by decide,by decide,by omega,fun _ => by decide⟩)
  · exact .inr (.inr ⟨rfl,by omega,by omega,by decide,by decide,by omega,by omega⟩)

/-- Inside a code point there is a byte within the bounds, and then the decoding goes on. -/
theorem decodeFrom_inside
    (h : decodeFrom false (.inside lead seen need value low high) pos acc bytes = .ok s) :
    ∃ c rest, bytes = c :: rest ∧ low.toNat ≤ c.toNat ∧ c.toNat ≤ high.toNat ∧
      (if need ≤ 1 then
          decodeFrom false .start (pos + 1)
            (CodePoint.ofNat (value * 64 + c.toNat % 64) :: acc) rest
        else
          decodeFrom false
            (.inside lead (seen + 1) (need - 1) (value * 64 + c.toNat % 64) 0x80 0xBF)
            (pos + 1) acc rest) = .ok s := by
  cases bytes with
  | nil => cases h
  | cons c rest =>
    rw [decodeFrom] at h
    split at h
    · cases h
    · next hbounds =>
      simp only [Bool.or_eq_true,decide_eq_true_eq,UInt8.lt_iff_toNat_lt,not_or,Nat.not_lt]
        at hbounds
      exact ⟨c,rest,rfl,hbounds.1,hbounds.2,h⟩

theorem ofNat_toNat_of_eq {n : Nat} (h : n = b.toNat) : UInt8.ofNat n = b := by
  rw [h,UInt8.ofNat_toNat]

/-- The bytes at the start are those of one code point. -/
theorem decodeFrom_start {rest : List UInt8}
    (h : decodeFrom false .start pos acc (b :: rest) = .ok s) :
    ∃ n tail next, n < 0x110000 ∧ ¬ (0xD800 ≤ n ∧ n < 0xE000) ∧ b :: rest = utf8Bytes n ++ tail ∧
      decodeFrom false .start next (CodePoint.ofNat n :: acc) tail = .ok s := by
  have hshift : ∀ n : Nat, n >>> 0 = n ∧ n >>> 6 = n / 64 ∧ n >>> 12 = n / 4096 :=
    fun n => ⟨rfl,Nat.shiftRight_eq_div_pow n 6,Nat.shiftRight_eq_div_pow n 12⟩
  rw [decodeFrom] at h
  split at h
  · next hone =>
    have hsmall : b.toNat < 0x80 := UInt8.lt_iff_toNat_lt.mp hone
    refine ⟨b.toNat,rest,_,by omega,by omega,?_,h⟩
    rw [utf8Bytes,if_pos hsmall,UInt8.ofNat_toNat]
    rfl
  split at h
  · cases h
  next need low high hlead =>
  obtain ⟨c,rest,rfl,hlow,hhigh,h⟩ := decodeFrom_inside h
  rcases leadByte?_eq_some hlead with ⟨rfl,hb⟩ | ⟨rfl,hb⟩ | ⟨rfl,hb⟩
  · rw [if_pos (by decide)] at h
    change decodeFrom false .start _ (CodePoint.ofNat (b.toNat % 32 * 64 + c.toNat % 64) :: acc) _ =
      _ at h
    refine ⟨_,rest,_,by omega,by omega,?_,h⟩
    generalize hn : b.toNat % 32 * 64 + c.toNat % 64 = n
    rw [utf8Bytes,if_neg (by omega),if_pos (by omega)]
    simp only [hshift]
    rw [ofNat_toNat_of_eq (b := b) (by omega),ofNat_toNat_of_eq (b := c) (by omega)]
    rfl
  · rw [if_neg (by decide)] at h
    obtain ⟨d,rest,rfl,hlow',hhigh',h⟩ := decodeFrom_inside h
    rw [if_pos (by decide)] at h
    simp only [UInt8.reduceToNat] at hlow' hhigh'
    change decodeFrom false .start _
      (CodePoint.ofNat ((b.toNat % 16 * 64 + c.toNat % 64) * 64 + d.toNat % 64) :: acc) _ = _ at h
    refine ⟨_,rest,_,by omega,by omega,?_,h⟩
    generalize hn : (b.toNat % 16 * 64 + c.toNat % 64) * 64 + d.toNat % 64 = n
    rw [utf8Bytes,if_neg (by omega),if_neg (by omega),if_pos (by omega)]
    simp only [hshift]
    rw [ofNat_toNat_of_eq (b := b) (by omega),ofNat_toNat_of_eq (b := c) (by omega),
      ofNat_toNat_of_eq (b := d) (by omega)]
    rfl
  · rw [if_neg (by decide)] at h
    obtain ⟨d,rest,rfl,hlow',hhigh',h⟩ := decodeFrom_inside h
    rw [if_neg (by decide)] at h
    obtain ⟨e,rest,rfl,hlow'',hhigh'',h⟩ := decodeFrom_inside h
    rw [if_pos (by decide)] at h
    simp only [UInt8.reduceToNat] at hlow' hhigh' hlow'' hhigh''
    change decodeFrom false .start _ (CodePoint.ofNat (((b.toNat % 8 * 64 + c.toNat % 64) * 64 +
      d.toNat % 64) * 64 + e.toNat % 64) :: acc) _ = _ at h
    refine ⟨_,rest,_,by omega,by omega,?_,h⟩
    generalize hn : ((b.toNat % 8 * 64 + c.toNat % 64) * 64 + d.toNat % 64) * 64 + e.toNat % 64 = n
    rw [utf8Bytes,if_neg (by omega),if_neg (by omega),if_neg (by omega)]
    simp only [hshift]
    rw [ofNat_toNat_of_eq (b := b) (by omega),ofNat_toNat_of_eq (b := c) (by omega),
      ofNat_toNat_of_eq (b := d) (by omega),ofNat_toNat_of_eq (b := e) (by omega)]
    rfl

theorem utf8_of_decodeFrom (h : decodeFrom false .start pos acc bytes = .ok s) :
    ∃ t, s = acc.reverse ++ t ∧ (∀ c ∈ t, isSurrogate c = false) ∧ utf8 t = bytes := by
  induction hn : bytes.length using Nat.strongRecOn generalizing bytes acc pos with
  | ind k ih =>
    cases bytes with
    | nil =>
      obtain rfl := Except.ok.inj h
      refine ⟨[],(List.append_nil _).symm,?_,rfl⟩
      intro c hc
      cases hc
    | cons b rest =>
      subst hn
      obtain ⟨n,tail,next,hlimit,hscalar,hbytes,hnext⟩ := decodeFrom_start h
      have hvalue := CodePoint.val_ofNat hlimit hscalar
      have hshorter : tail.length < (b :: rest).length := by
        have hsome : utf8Bytes n ≠ [] := by
          unfold utf8Bytes
          repeat' split
          all_goals exact List.cons_ne_nil _ _
        rw [hbytes,List.length_append]
        have := List.length_pos_iff.mpr hsome
        omega
      obtain ⟨t,rfl,ht,rfl⟩ := ih tail.length hshorter hnext rfl
      refine ⟨CodePoint.ofNat n :: t,by simp,List.forall_mem_cons.mpr ⟨?_,ht⟩,?_⟩
      · rw [Bool.eq_false_iff,ne_eq,CodePoint.isSurrogate_iff,hvalue]
        exact hscalar
      · rw [hbytes,utf8,List.flatMap_cons,hvalue]
        rfl

/-- Bytes are decoded as a text just if they are its encoding. -/
theorem decode_eq_ok :
    decode bytes = .ok s ↔ (∀ c ∈ s, isSurrogate c = false) ∧ utf8 s = bytes := by
  constructor
  · intro h
    obtain ⟨t,rfl,ht⟩ := utf8_of_decodeFrom h
    exact ht
  · rintro ⟨hs,rfl⟩
    exact decode_utf8 hs

end Text
end StyleLift
