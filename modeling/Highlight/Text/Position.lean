/-!
# Positions in a text

A position is an offset from the start together with the line and the column it lies in.  Only the
line feed ends a line here.
-/

namespace Highlight.Text

/-- A place in a text: line and column count from 1, the offset from 0. -/
structure Position where
  line : Nat
  column : Nat
  offset : Nat
  deriving DecidableEq, Repr

/-- The offset of `source` nearest to `offset`. -/
def clampOffset (source : List Char) (offset : Int) : Nat := min offset.toNat source.length

/-- The part of a text after its last line feed. -/
def lastLine (cs : List Char) : List Char := (cs.reverse.takeWhile (· ≠ '\n')).reverse

/-- The position of an offset; one outside the text counts as the nearer end. -/
def positionAt (source : List Char) (offset : Int) : Position :=
  let before := source.take (clampOffset source offset)
  ⟨before.count '\n' + 1, (lastLine before).length + 1, before.length⟩

end Highlight.Text
