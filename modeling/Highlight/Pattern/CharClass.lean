import Highlight.Text.Blank

/-!
# Character classes

The sets of characters that one place of a pattern can match: ranges of code points and the three
ASCII categories, in any mixture, possibly complemented, possibly without regard to ASCII case.
-/

namespace Highlight

open Text

/-- ASCII digits, ASCII white space, and the characters of ASCII words. -/
inductive Category where
  | digit
  | space
  | word
  deriving DecidableEq, Repr

/-- An ASCII letter, an ASCII digit or the underscore. -/
def isWordChar (c : Char) : Bool := c.isAlphanum || c == '_'

/-- Membership in a category. -/
def Category.contains : Category → Char → Bool
  | .digit, c => c.isDigit
  | .space, c => isAsciiBlank c
  | .word, c => isWordChar c

/-- One member of a character class. -/
inductive ClassItem where
  /-- The code points from `lo` to `hi`. -/
  | range (lo hi : Nat)
  /-- A category, or what lies outside it. -/
  | category (kind : Category) (negated : Bool)
  deriving DecidableEq, Repr

/-- Membership in one item of a class. -/
def ClassItem.contains : ClassItem → Char → Bool
  | .range lo hi, c => lo ≤ c.toNat && c.toNat ≤ hi
  | .category kind negated, c => negated != kind.contains c

/-- A set of characters. -/
structure CharClass where
  items : List ClassItem
  /-- The characters outside all items are meant. -/
  negated : Bool := false
  /-- A letter counts as a member if its other case is one. -/
  foldCase : Bool := false
  deriving DecidableEq, Repr

/-- The other case of an ASCII letter; any other character itself. -/
def swapCase (c : Char) : Char := if c.isUpper then c.toLower else c.toUpper

namespace CharClass

/-- Membership in a class. -/
def contains (s : CharClass) (c : Char) : Bool :=
  s.negated != s.items.any fun i => i.contains c || (s.foldCase && i.contains (swapCase c))

/-- The class of one code point. -/
def code (n : Nat) : CharClass := { items := [.range n n] }

/-- The class of one character. -/
def single (c : Char) : CharClass := code c.toNat

/-- The class of a list of characters. -/
def ofList (cs : List Char) : CharClass := { items := cs.map fun c => .range c.toNat c.toNat }

/-- Every character but `c`. -/
def except (c : Char) : CharClass := { single c with negated := true }

/-- A category or its complement. -/
def ofCategory (kind : Category) (negated : Bool) : CharClass :=
  { items := [.category kind negated] }

/-- Every character except the line feed. -/
def notLineFeed : CharClass := { items := [.range 10 10], negated := true }

/-- Every character. -/
def all : CharClass := { items := [], negated := true }

theorem contains_single (c d : Char) : (single c).contains d = (d == c) := by
  rw [Bool.eq_iff_iff]
  simp only [contains, single, code, ClassItem.contains, List.any_cons, List.any_nil, Bool.or_false,
    Bool.false_and, Bool.false_bne, Bool.and_eq_true, decide_eq_true_eq, beq_iff_eq]
  constructor
  · rintro ⟨h₁, h₂⟩
    exact Char.toNat_inj.mp (Nat.le_antisymm h₂ h₁)
  · rintro rfl
    exact ⟨Nat.le_refl _, Nat.le_refl _⟩

theorem contains_except (c d : Char) : (except c).contains d = (d != c) := by
  have h := contains_single c d
  simp only [contains, single, code, except] at h ⊢
  simpa [bne] using h

theorem contains_ofList (cs : List Char) (d : Char) : (ofList cs).contains d = true ↔ d ∈ cs := by
  simp only [contains, ofList, ClassItem.contains, List.any_map, List.any_eq_true, Function.comp_apply,
    Bool.false_and, Bool.or_false, Bool.false_bne, Bool.and_eq_true, decide_eq_true_eq]
  constructor
  · rintro ⟨c, hc, h₁, h₂⟩
    rwa [← Char.toNat_inj.mp (Nat.le_antisymm h₁ h₂)]
  · intro hd
    exact ⟨d, hd, Nat.le_refl _, Nat.le_refl _⟩

theorem contains_ofCategory (kind : Category) (d : Char) :
    (ofCategory kind false).contains d = kind.contains d := by
  simp [ofCategory, contains, ClassItem.contains]

theorem contains_notLineFeed (d : Char) : notLineFeed.contains d = (d != '\n') := by
  have h := contains_single '\n' d
  simp only [contains, single, code, notLineFeed] at h ⊢
  simpa [bne] using h

theorem contains_all (d : Char) : all.contains d = true := rfl

end CharClass

end Highlight
