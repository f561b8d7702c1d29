import Highlight.Text.Printable

/-!
# Quoted text

A text in quotes, on one line and in printable characters only.  The quote is the apostrophe, unless
the text holds an apostrophe and no quotation mark.  The quote in use and the backslash are escaped by a
backslash, line feed, carriage return and tab have escapes of their own, and every other character
that cannot be printed is given by its code point in two, four or eight hexadecimal digits.
-/

namespace Highlight.Text

/-- A hexadecimal digit, in lower case. -/
def hexDigit (n : Nat) : Char :=
  if n < 10 then Char.ofNat (0x30 + n) else Char.ofNat (0x61 + n - 10)

/-- The last `width` hexadecimal digits of `n`. -/
def hexDigits : (width : Nat) → (n : Nat) → List Char
  | 0, _ => []
  | w + 1, n => hexDigits w (n / 16) ++ [hexDigit (n % 16)]

/-- The quote that a text is put in. -/
def quoteFor (cs : List Char) : Char :=
  if '\'' ∈ cs ∧ '"' ∉ cs then '"' else '\''

/-- How one character is written between quotes `quote`. -/
def quotedChar (quote c : Char) : List Char :=
  if c = quote ∨ c = '\\' then ['\\', c]
  else if c = '\n' then ['\\', 'n']
  else if c = '\r' then ['\\', 'r']
  else if c = '\t' then ['\\', 't']
  else if isPrintable c then [c]
  else if c.toNat < 0x100 then '\\' :: 'x' :: hexDigits 2 c.toNat
  else if c.toNat < 0x10000 then '\\' :: 'u' :: hexDigits 4 c.toNat
  else '\\' :: 'U' :: hexDigits 8 c.toNat

/-- A text in quotes. -/
def quote (cs : List Char) : List Char :=
  let q := quoteFor cs
  q :: cs.flatMap (quotedChar q) ++ [q]

/-- A string in quotes. -/
def quoted (s : String) : String := String.ofList (quote s.toList)

end Highlight.Text
