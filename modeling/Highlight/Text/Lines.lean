/-!
# Lines of a text

A line ends at any of the line boundaries of Unicode and of the ASCII separators; a carriage return
and the line feed after it are one boundary.
-/

namespace Highlight.Text

/-- Line feed, vertical tab, form feed, carriage return, the file, group and record separators, next
line, and the line and paragraph separators. -/
def isLineBoundary (c : Char) : Bool :=
  let n := c.toNat
  (0x0A ≤ n && n ≤ 0x0D) || (0x1C ≤ n && n ≤ 0x1E) || n == 0x85 || n == 0x2028 || n == 0x2029

/-- The lines of a text, each with its boundary; a boundary at the end starts no further line. -/
def linesKeepingEnds : List Char → List (List Char)
  | [] => []
  | '\r' :: '\n' :: rest => ['\r', '\n'] :: linesKeepingEnds rest
  | c :: rest =>
    if isLineBoundary c then [c] :: linesKeepingEnds rest
    else match linesKeepingEnds rest with
      | [] => [[c]]
      | line :: lines => (c :: line) :: lines

/-- A text without the copies of `c` at its end. -/
def dropTrailing (c : Char) (cs : List Char) : List Char :=
  (cs.reverse.dropWhile (· == c)).reverse

/-- A text cut at every occurrence of `c`; there is one piece more than there are cuts. -/
def splitAtChar (c : Char) : List Char → List (List Char)
  | [] => [[]]
  | d :: rest =>
    if d = c then [] :: splitAtChar c rest
    else match splitAtChar c rest with
      | [] => [[d]]
      | piece :: pieces => (d :: piece) :: pieces

end Highlight.Text
