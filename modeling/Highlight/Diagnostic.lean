import Highlight.Text.Lines
import Highlight.Text.Position

/-!
# Reports of errors in a source text

A report names what went wrong and, where a place in a source is known, shows the line with a caret
under the column.  The line shown is taken from the lines that all boundaries of Unicode make, while
its number counts line feeds only.
-/

namespace Highlight

open Text

/-- What a report is made of. -/
structure Diagnostic where
  message : String
  /-- The text of the pattern at fault. -/
  pattern : Option String := none
  offset : Option Int := none
  source : Option (List Char) := none

namespace Diagnostic

/-- The text shown for a line, given by its number from 1: without the line feeds, then without the
carriage returns at its end; nothing for a line that does not exist. -/
def shownLine (source : List Char) (line : Nat) : List Char :=
  match (linesKeepingEnds source)[line - 1]? with
  | some cs => dropTrailing '\r' (dropTrailing '\n' cs)
  | none => []

/-- `n` spaces. -/
def spaces (n : Nat) : String := String.ofList (List.replicate n ' ')

/-- The message with the place of an error in the source of a file. -/
def snippet (message filename : String) (source : List Char) (offset : Int) : String :=
  let position := positionAt source offset
  let number := toString position.line
  let gutter := spaces (number.length + 1)
  s!"error: {message}\n" ++
    s!"{gutter}--> {filename}:{position.line}:{position.column}\n" ++
    s!"{gutter}|\n" ++
    s!"{number} | {String.ofList (shownLine source position.line)}\n" ++
    s!"{gutter}| {spaces (position.column - 1)}^"

/-- The report, for the source of a file. -/
def format (d : Diagnostic) (filename : String := "<input>") : String :=
  let report :=
    match d.offset, d.source with
    | some offset, some source => snippet d.message filename source offset
    | _, _ => s!"error: {d.message}"
  match d.pattern with
  | some pattern => s!"{report}\n  pattern: {pattern}"
  | none => report

end Diagnostic

end Highlight
