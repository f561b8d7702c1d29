import Highlight.Style.Color
import Highlight.Text.LetterCase

/-!
# Markup

The tags that a display surface uses for color, italics and bold type, and the entities for the five
characters that tags are made of.
-/

namespace Highlight

open Text

/-- Text put around another. -/
structure Wrapper where
  opening : List Char
  closing : List Char
  deriving DecidableEq, Repr

/-- A text inside a wrapper. -/
def Wrapper.wrap (w : Wrapper) (text : List Char) : List Char := w.opening ++ text ++ w.closing

/-- The tags of a display surface.  A color is opened by two texts with its six digits between them. -/
structure Markup where
  name : String
  colorStart : List Char
  colorEnd : List Char
  colorClosing : List Char
  italic : Wrapper
  bold : Wrapper
  deriving DecidableEq, Repr

/-- The markup of a name that is none. -/
structure UnknownMarkup where
  name : String
  available : List String
  deriving DecidableEq, Repr

/-- The report of the error. -/
def UnknownMarkup.report (e : UnknownMarkup) : String :=
  let known := ", ".intercalate e.available
  s!"error: unknown markup '{e.name}' (available: {known})"

namespace Markup

/-- The wrapper for a color. -/
def color (m : Markup) (c : Color) : Wrapper :=
  ⟨m.colorStart ++ c.toHex ++ m.colorEnd, m.colorClosing⟩

/-- The wrapper of a tag without attributes. -/
def tag (name : String) : Wrapper :=
  ⟨'<' :: name.toList ++ ['>'], '<' :: '/' :: name.toList ++ ['>']⟩

/-- Rich text with `font` tags. -/
def richText : Markup where
  name := "rich-text"
  colorStart := "<font color=\"#".toList
  colorEnd := "\">".toList
  colorClosing := "</font>".toList
  italic := tag "i"
  bold := tag "b"

/-- Hypertext with styled `span` tags. -/
def html : Markup where
  name := "html"
  colorStart := "<span style=\"color: #".toList
  colorEnd := "\">".toList
  colorClosing := "</span>".toList
  italic := tag "i"
  bold := tag "b"

/-- The markups built in, in the order of their names. -/
def builtin : List Markup := [html, richText]

/-- The names of the markups built in. -/
def names : List String := builtin.map (·.name)

/-- The markup of a name in any case. -/
def named (name : String) : Except UnknownMarkup Markup :=
  match builtin.find? (·.name = lower name) with
  | some m => .ok m
  | none => .error ⟨name, names⟩

/-- The entity for a character that markup gives a meaning to; any other character itself. -/
def escapeChar : Char → List Char
  | '<' => "&lt;".toList
  | '>' => "&gt;".toList
  | '&' => "&amp;".toList
  | '"' => "&quot;".toList
  | '\'' => "&apos;".toList
  | c => [c]

/-- A text that means itself in markup. -/
def escape (text : List Char) : List Char := text.flatMap escapeChar

end Markup

end Highlight
