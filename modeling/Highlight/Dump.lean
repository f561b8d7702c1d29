import Highlight.Token

/-!
# Listing tokens

One line for each token: its index, aligned to the right, its tags with plus signs between them, and its
content in quotes.
-/

namespace Highlight

open Text

/-- A text with spaces before it up to a width. -/
def padLeft (width : Nat) (cs : List Char) : List Char :=
  List.replicate (width - cs.length) ' ' ++ cs

/-- A text with spaces after it up to a width. -/
def padRight (width : Nat) (cs : List Char) : List Char :=
  cs ++ List.replicate (width - cs.length) ' '

/-- The decimal digits of a number. -/
def decimal (n : Nat) : List Char := Nat.toDigits 10 n

/-- The line of a token; indices are aligned to `width`. -/
def dumpLine (width index : Nat) (t : Token) : List Char :=
  padLeft width (decimal index) ++ ' ' :: padRight 20 ("+".intercalate t.tags).toList ++
    ' ' :: quote t.content ++ ['\n']

/-- The lines of the tokens from an index on. -/
def dumpFrom (width : Nat) : (index : Nat) → List Token → List Char
  | _, [] => []
  | index, t :: ts => dumpLine width index t ++ dumpFrom width (index + 1) ts

/-- The listing of a list of tokens. -/
def dump (ts : List Token) : List Char := dumpFrom (decimal ts.length).length 0 ts

end Highlight
