import StyleLift.Text.CodePoint

/-! # Room for nesting

An array or an object is read and written one level inside what it stands in, and a program's stack
has so many levels and no more.
-/
namespace StyleLift.Json

/-- The levels of nesting that are left: so many, or no end of them. -/
inductive Room
  | endless
  | levels (n : Nat)
deriving DecidableEq

namespace Room

/-- Whether so many levels are left. -/
def has (n : Nat) : Room → Bool
  | endless => true
  | levels m => n ≤ m

/-- The room inside an array or an object, if there is a level for it. -/
def inside? : Room → Option Room
  | endless => some endless
  | levels 0 => none
  | levels (n + 1) => some (levels n)

variable {room inner : Room} {m n : Nat}

@[simp] theorem has_zero (room : Room) : room.has 0 = true := by cases room <;> simp [has]

theorem has_mono (h : m ≤ n) (hn : room.has n = true) : room.has m = true := by
  cases room with
  | endless => rfl
  | levels k =>
    simp only [has, decide_eq_true_eq] at hn ⊢
    exact Nat.le_trans h hn

theorem has_max : room.has (max m n) = true ↔ room.has m = true ∧ room.has n = true := by
  refine ⟨fun h => ⟨has_mono (Nat.le_max_left m n) h, has_mono (Nat.le_max_right m n) h⟩,
    fun h => ?_⟩
  rcases Nat.le_total m n with hle | hle
  · rw [Nat.max_eq_right hle]
    exact h.2
  · rw [Nat.max_eq_left hle]
    exact h.1

/-- Inside there is one level less. -/
theorem has_inside (h : room.inside? = some inner) : inner.has n = room.has (n + 1) := by
  match room, h with
  | .endless, h => cases h; rfl
  | .levels (k + 1), h => cases h; simp [has]

theorem inside?_of_has (h : room.has (n + 1) = true) : ∃ inner, room.inside? = some inner := by
  match room, h with
  | .endless, _ => exact ⟨_, rfl⟩
  | .levels (_ + 1), _ => exact ⟨_, rfl⟩

theorem has_of_inside? (h : room.inside? = some inner) : room.has 1 = true := by
  rw [← has_inside h, has_zero]

end Room

def tooDeepMessage : Text := "maximum recursion depth exceeded"

/-- The room on a program's stack, which is enough for what the program itself nests. -/
structure Stack where
  room : Room
  ample : room.has 16 = true

end StyleLift.Json
