import StyleLift.Number.Binary64
import StyleLift.Text.CodePoint

/-! # JSON values

Values with integers kept apart from other numbers and members kept in order. `sameAs` is equality
of values: numbers and truth values compare by what they count, objects without regard to order.
-/
namespace StyleLift

inductive Json
  | null
  | bool (b : Bool)
  | int (n : Int)
  | real (x : Binary64)
  | str (s : Text)
  | arr (items : List Json)
  | obj (members : List (Text × Json))
deriving Inhabited

namespace Json

abbrev Members := List (Text × Json)

def member? (key : Text) (members : Members) : Option Json := members.lookup key

/-- Sets a member: in place where the key is present, at the end otherwise. -/
def setMember (key : Text) (value : Json) : Members → Members
  | [] => [(key, value)]
  | (k, v) :: rest => if k = key then (k, value) :: rest else (k, v) :: setMember key value rest

/-- Null, false, zero and whatever is empty. -/
def isEmptyValue : Json → Bool
  | .null => true
  | .bool b => !b
  | .int n => n == 0
  | .real x => x.isZero
  | .str s => s.isEmpty
  | .arr items => items.isEmpty
  | .obj members => members.isEmpty

/-- What a number or a truth value counts. -/
def number? : Json → Option (Int ⊕ Binary64)
  | .bool b => some (.inl (if b then 1 else 0))
  | .int n => some (.inl n)
  | .real x => some (.inr x)
  | _ => none

def sameNumber : Int ⊕ Binary64 → Int ⊕ Binary64 → Bool
  | .inl a, .inl b => a == b
  | .inl a, .inr b => b.isInt a
  | .inr a, .inl b => a.isInt b
  | .inr a, .inr b => a == b || a.sameValue b

mutual

def sameAs : Json → Json → Bool
  | .null, .null => true
  | .str a, .str b => a == b
  | .arr a, .arr b => sameItems a b
  | .obj a, .obj b => a.length == b.length && sameMembers a b
  | .bool a, b => (number? b).any (sameNumber (.inl (if a then 1 else 0)))
  | .int a, b => (number? b).any (sameNumber (.inl a))
  | .real a, b => (number? b).any (sameNumber (.inr a))
  | _, _ => false

def sameItems : List Json → List Json → Bool
  | [], [] => true
  | a :: as, b :: bs => sameAs a b && sameItems as bs
  | _, _ => false

/-- Whether every member on the left has its equal on the right. -/
def sameMembers : Members → Members → Bool
  | [], _ => true
  | (key, a) :: rest, other =>
    (match member? key other with
      | some b => sameAs a b
      | none => false) && sameMembers rest other

end

mutual

/-- The numbers in a value, in order. -/
def numbers : Json → List Json
  | .int n => [.int n]
  | .real x => [.real x]
  | .arr items => numbersOfItems items
  | .obj members => numbersOfMembers members
  | _ => []

def numbersOfItems : List Json → List Json
  | [] => []
  | v :: rest => numbers v ++ numbersOfItems rest

def numbersOfMembers : Members → List Json
  | [] => []
  | (_, v) :: rest => numbers v ++ numbersOfMembers rest

end

mutual

/-- How many levels of nesting a value takes. A number that is not finite is a level of its own. -/
def depth : Json → Nat
  | .real (.finite _ _ _) => 0
  | .real _ => 1
  | .arr items => depthOfItems items + 1
  | .obj members => depthOfMembers members + 1
  | _ => 0

def depthOfItems : List Json → Nat
  | [] => 0
  | v :: rest => max (depth v) (depthOfItems rest)

def depthOfMembers : Members → Nat
  | [] => 0
  | (_, v) :: rest => max (depth v) (depthOfMembers rest)

end

mutual

/-- The value with the members of every object in the order of their keys. -/
def sortKeys : Json → Json
  | .arr items => .arr (sortItems items)
  | .obj members => .obj ((sortMembers members).mergeSort fun a b => a.1.le b.1)
  | v => v

def sortItems : List Json → List Json
  | [] => []
  | v :: rest => sortKeys v :: sortItems rest

def sortMembers : Members → Members
  | [] => []
  | (key, v) :: rest => (key, sortKeys v) :: sortMembers rest

end

end Json
end StyleLift
