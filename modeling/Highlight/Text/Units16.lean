/-!
# Length in sixteen-bit units

Characters beyond the basic plane take two units of UTF-16, all others one.
-/

namespace Highlight.Text

/-- The number of UTF-16 units of a character. -/
def charUnits16 (c : Char) : Nat := if c.toNat < 0x10000 then 1 else 2

/-- The number of UTF-16 units of a text. -/
def units16 (cs : List Char) : Nat := (cs.map charUnits16).foldr (· + ·) 0

end Highlight.Text
