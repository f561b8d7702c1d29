/-!
# Replacing parts of a text

Every occurrence of a text is replaced, from left to right and without overlaps.  The empty text occurs
before every character and at the end.
-/

namespace Highlight.Text

/-- A text without a start, if it has it. -/
def dropStart? : (start text : List Char) → Option (List Char)
  | [], text => some text
  | _ :: _, [] => none
  | c :: start, d :: text => if c = d then dropStart? start text else none

/-- Replaces the non-empty text `old`; there are at most `steps` characters. -/
def replaceFrom (old new : List Char) : (steps : Nat) → List Char → List Char
  | 0, text => text
  | _, [] => []
  | steps + 1, c :: rest =>
    match dropStart? old (c :: rest) with
    | some after => new ++ replaceFrom old new steps after
    | none => c :: replaceFrom old new steps rest

/-- Replaces every occurrence of `old` by `new`. -/
def replaceAll (old new text : List Char) : List Char :=
  if old.isEmpty then new ++ text.flatMap fun c => c :: new
  else replaceFrom old new text.length text

end Highlight.Text
