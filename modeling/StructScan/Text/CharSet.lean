/-!
# Sets of characters

A set of characters given by ascending ranges of code points.  The character
classes of this library are such sets, each in a module of its own.

Main results:

- Theorem `CharSet.holds_cons`: membership reads the ranges from the left and
  stops at the first one that does not lie below the code point.
-/

namespace StructScan.Text

/-- A set of characters as ranges of code points, both ends included, in ascending order. -/
structure CharSet where
  ranges : List (Nat × Nat)

namespace CharSet

/-- Looks a code point up in ascending ranges. -/
def holds (n : Nat) : List (Nat × Nat) → Bool
  | [] => false
  | r :: rest => if n < r.1 then false else if n ≤ r.2 then true else holds n rest

@[simp]
theorem holds_nil (n : Nat) : holds n [] = false :=
  rfl

/-- One range settles every code point that does not lie above it. -/
theorem holds_cons (n : Nat) (r : Nat × Nat) (rest : List (Nat × Nat)) :
    holds n (r :: rest) = if n < r.1 then false else if n ≤ r.2 then true else holds n rest :=
  rfl

/-- Membership of a character. -/
def contains (s : CharSet) (c : Char) : Bool :=
  holds c.toNat s.ranges

end CharSet

end StructScan.Text
