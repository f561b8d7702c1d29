/-!
# Sets of code points

A property of characters that a standard lists in ranges is kept as the ascending list of the code
points where it changes: before the first the property fails, from the first it holds, from the
second it fails again, and so on.  `CodePoints.mem` counts the changes up to a code point.
-/

namespace Highlight.Text

/-- The ascending code points at which membership changes, starting from "not a member". -/
structure CodePoints where
  changes : List Nat

namespace CodePoints

/-- Whether the number of changes up to `n` is odd. -/
def memFrom (inside : Bool) (n : Nat) : List Nat → Bool
  | [] => inside
  | c :: rest => if n < c then inside else memFrom (!inside) n rest

/-- Whether the code point `n` belongs to the set. -/
def mem (s : CodePoints) (n : Nat) : Bool := memFrom false n s.changes

end CodePoints

end Highlight.Text
