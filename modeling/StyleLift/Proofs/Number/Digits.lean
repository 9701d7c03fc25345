import Mathlib.Data.List.Basic
import Mathlib.Data.List.Induction
import Mathlib.Data.Nat.Digits.Defs
import Mathlib.Tactic.Ring
import StyleLift.Text.Digit

/-! # Runs of digits

What a run of digits is worth, digit by digit and part by part. A natural number is worth itself in
the digits that it is written with, whatever zeros stand in front.
-/
namespace StyleLift.Text

theorem foldl_decimalValue (t : Text) (n : Nat) :
    t.foldl (fun n c => n * 10 + c.digit?.getD 0) n = n * 10 ^ t.length + t.decimalValue := by
  induction t generalizing n with
  | nil => simp [decimalValue]
  | cons c t ih =>
    rw [List.foldl_cons,ih]
    change _ = n * 10 ^ (t.length + 1) + t.foldl _ (0 * 10 + c.digit?.getD 0)
    rw [ih]
    ring

theorem decimalValue_append (s t : Text) :
    (s ++ t).decimalValue = s.decimalValue * 10 ^ t.length + t.decimalValue := by
  rw [decimalValue,List.foldl_append,foldl_decimalValue]
  rfl

/-- The last digit counts ones, the one before it tens, and so on. -/
theorem decimalValue_eq_ofDigits (s : Text) :
    s.decimalValue = Nat.ofDigits 10 (s.reverse.map fun c => c.digit?.getD 0) := by
  induction s using List.reverseRecOn with
  | nil => rfl
  | append_singleton s c ih =>
    have hlast : decimalValue [c] = c.digit?.getD 0 := by simp [decimalValue]
    rw [decimalValue_append,hlast,List.reverse_append,List.reverse_singleton,List.singleton_append,
      List.map_cons,Nat.ofDigits_cons,← ih,List.length_singleton]
    ring

theorem decimalValue_zeros (k : Nat) : decimalValue (List.replicate k (.char '0')) = 0 := by
  induction k with
  | zero => rfl
  | succ k ih =>
    rw [List.replicate_succ']
    rw [decimalValue_append,ih]
    rfl

theorem digit?_digitChar : ∀ k < 10, (CodePoint.char (Nat.digitChar k)).digit? = some k := by decide

theorem ofNat_of_lt {n : Nat} (h : n < 10) : ofNat n = [.char (Nat.digitChar n)] := by
  rw [ofNat,Nat.toDigits_of_lt_base h]
  rfl

theorem ofNat_of_le {n : Nat} (h : 10 ≤ n) :
    ofNat n = ofNat (n / 10) ++ [.char (Nat.digitChar (n % 10))] := by
  rw [ofNat,Nat.toDigits_of_base_le (by decide) h,List.map_append]
  rfl

theorem ofNat_ne_nil (n : Nat) : ofNat n ≠ [] := by
  rw [ofNat,Ne,List.map_eq_nil_iff]
  exact Nat.toDigits_ne_nil

theorem decimalValue_ofNat (n : Nat) : (ofNat n).decimalValue = n := by
  induction n using Nat.strongRecOn with
  | ind n ih =>
    rcases Nat.lt_or_ge n 10 with h | h
    · rw [ofNat_of_lt h,decimalValue,List.foldl_cons,List.foldl_nil,digit?_digitChar n h]
      simp
    · rw [ofNat_of_le h,decimalValue_append,ih (n / 10) (by omega),decimalValue,List.foldl_cons,
        List.foldl_nil,digit?_digitChar (n % 10) (by omega)]
      simp only [List.length_singleton,Option.getD_some]
      omega

/-- A positive number is written without zeros in front. -/
theorem ofNat_head {n : Nat} (h : 0 < n) : (ofNat n).head? ≠ some (.char '0') := by
  induction n using Nat.strongRecOn with
  | ind n ih =>
    rcases Nat.lt_or_ge n 10 with hlt | hge
    · have hdigits : ∀ k < 10, 0 < k → Nat.digitChar k ≠ '0' := by decide
      rw [ofNat_of_lt hlt,List.head?_cons]
      simpa using hdigits n hlt h
    · have hrest := ih (n / 10) (by omega) (by omega)
      rwa [ofNat_of_le hge,List.head?_append_of_ne_nil _ (ofNat_ne_nil _)]

/-- A text of ASCII digits. -/
def IsDigits (s : Text) : Prop := ∀ c ∈ s, c.isAsciiDigit = true

theorem isDigits_append {s t : Text} : (s ++ t).IsDigits ↔ s.IsDigits ∧ t.IsDigits :=
  List.forall_mem_append

theorem isDigits_ofNat (n : Nat) : (ofNat n).IsDigits := by
  intro c hc
  obtain ⟨d,hd,rfl⟩ := List.mem_map.mp hc
  have hdigit := Nat.isDigit_of_mem_toDigits (by decide) (by decide) hd
  rw [CodePoint.isAsciiDigit,Bool.and_eq_true,decide_eq_true_eq,decide_eq_true_eq]
  simpa [CodePoint.val,Char.isDigit,UInt32.le_iff_toNat_le] using hdigit

theorem isDigits_zeros (k : Nat) : IsDigits (List.replicate k (.char '0')) := by
  intro c hc
  rw [List.eq_of_mem_replicate hc]
  rfl

/-- Zeros in front of a number are worth nothing. -/
theorem decimalValue_padded (k n : Nat) :
    decimalValue (List.replicate k (.char '0') ++ ofNat n) = n := by
  rw [decimalValue_append,decimalValue_zeros,decimalValue_ofNat,Nat.zero_mul,Nat.zero_add]

end StyleLift.Text
