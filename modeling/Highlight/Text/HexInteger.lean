import Highlight.Text.Blank
import Highlight.Text.DecimalDigit

/-!
# Hexadecimal integers

The written forms of an integer in base sixteen: white space at both ends, a sign, the mark `0x`, and
digits among which single underscores may stand.  One underscore may also follow the mark.  Decimal
digits of any script are taken by their value.
-/

namespace Highlight.Text

/-- The value of a hexadecimal digit. -/
def hexValue? (c : Char) : Option Nat :=
  if c.isDigit then some (c.toNat - 0x30)
  else if 'a' ≤ c ∧ c ≤ 'f' then some (c.toNat - 0x61 + 10)
  else if 'A' ≤ c ∧ c ≤ 'F' then some (c.toNat - 0x41 + 10)
  else none

/-- The ASCII character that a character of an integer stands for.  Beyond ASCII white space is a space, a
decimal digit is a digit, and everything else is no part of an integer. -/
def integerChar (c : Char) : Char :=
  if c.toNat < 0x80 then c
  else if isBlank c then ' '
  else match decimalValue? c with
    | some d => Char.ofNat (0x30 + d)
    | none => '?'

/-- The value of digits with single underscores between them, after `n` has been read; `complete` tells
whether the digits can end here. -/
def hexDigitsValue? (n : Nat) (complete : Bool) : List Char → Option Nat
  | [] => if complete then some n else none
  | '_' :: rest => if complete then hexDigitsValue? n false rest else none
  | c :: rest =>
    match hexValue? c with
    | some d => hexDigitsValue? (16 * n + d) true rest
    | none => none

/-- A text after the mark of base sixteen, if it has one. -/
def dropHexMark : List Char → List Char
  | '0' :: x :: rest =>
    if x = 'x' ∨ x = 'X' then
      match rest with
      | '_' :: rest => rest
      | rest => rest
    else '0' :: x :: rest
  | cs => cs

/-- The integer that a text denotes. -/
def hexInteger? (cs : List Char) : Option Int :=
  let cs := (cs.map integerChar).dropWhile isAsciiBlank
  let cs := (cs.reverse.dropWhile isAsciiBlank).reverse
  match cs with
  | '+' :: digits => (hexDigitsValue? 0 false (dropHexMark digits)).map Int.ofNat
  | '-' :: digits => (hexDigitsValue? 0 false (dropHexMark digits)).map fun n => -(Int.ofNat n)
  | digits => (hexDigitsValue? 0 false (dropHexMark digits)).map Int.ofNat

end Highlight.Text
