import StyleLift.Text.CodePoint

/-! # Grids

Character sets of two bytes lay their characters out in rows. Rows and their cells are counted from
zero, and a replacement character stands for an empty cell.
-/
namespace StyleLift

structure Grid where
  rows : List String

namespace Grid

def cell? (g : Grid) (row cell : Nat) : Option CodePoint :=
  (g.rows[row]?).bind fun s => (s.toList[cell]?).bind fun c =>
    if c = '\uFFFD' then none else some (.char c)

/-- The numbers of a grid's code points. -/
def values (g : Grid) : List Nat := g.rows.flatMap fun s => s.toList.map Char.toNat

/-- The values from `first` to `last` in ascending order. -/
def valuesWithin (g : Grid) (first last : Nat) : List Nat :=
  (g.values.filter fun n => first ≤ n && n ≤ last).mergeSort (· ≤ ·)

/-- The number that follows `n` others from `first` on, when ascending numbers are left out: each of
them that is not above it moves it on by one. -/
def skipping (taken : List Nat) (first n : Nat) : Nat :=
  taken.foldl (fun found t => if t ≤ found then found + 1 else found) (first + n)

/-- A strip of characters in a row, from a cell on. -/
structure Strip where
  row : Nat
  first : Nat
  characters : String

/-- The character in a cell that lies on one of some strips. -/
def onStrips? (strips : List Strip) (row cell : Nat) : Option CodePoint :=
  strips.findSome? fun s =>
    if s.row = row ∧ s.first ≤ cell then cell? ⟨[s.characters]⟩ 0 (cell - s.first) else none

end Grid
end StyleLift
