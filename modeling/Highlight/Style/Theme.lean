import Highlight.Style.Color

/-!
# Themes

A theme is a list of rules, each of which styles the tokens with a certain tag.  The first rule whose tag
a token carries decides, so special tags stand before general ones.
-/

namespace Highlight

/-- How the tokens with a tag look. -/
structure ThemeRule where
  tag : String
  color : Color
  italic : Bool := false
  bold : Bool := false
  deriving DecidableEq, Repr

/-- An ordered list of rules. -/
structure Theme where
  name : String
  rules : List ThemeRule
  deriving DecidableEq, Repr

namespace Theme

/-- The first rule for one of the tags. -/
def ruleFor (t : Theme) (tags : List String) : Option ThemeRule :=
  t.rules.find? fun rule => tags.contains rule.tag

/-- The theme for dark surfaces, used where none is given. -/
def dark : Theme where
  name := "default"
  rules := [
    { tag := "index", color := .ofInt 0x9CDCFE },
    { tag := "null", color := .ofInt 0x569CD6, italic := true },
    { tag := "keyword", color := .ofInt 0xC586C0, bold := true },
    { tag := "string", color := .ofInt 0xCE9178 },
    { tag := "constant", color := .ofInt 0x4FC1FF },
    { tag := "number", color := .ofInt 0xB5CEA8 },
    { tag := "method", color := .ofInt 0xDCDCAA },
    { tag := "constructor", color := .ofInt 0x4EC9B0 },
    { tag := "enum", color := .ofInt 0x4EC9B0, italic := true },
    { tag := "parameter", color := .ofInt 0x9CDCFE, italic := true },
    { tag := "var", color := .ofInt 0xD4D4D4 },
    { tag := "operator", color := .ofInt 0xD4D4D4 }]

/-- The theme for light surfaces. -/
def light : Theme where
  name := "light"
  rules := [
    { tag := "index", color := .ofInt 0x0451A5 },
    { tag := "null", color := .ofInt 0x0000FF, italic := true },
    { tag := "keyword", color := .ofInt 0xAF00DB, bold := true },
    { tag := "string", color := .ofInt 0xA31515 },
    { tag := "constant", color := .ofInt 0x0070C1 },
    { tag := "number", color := .ofInt 0x098658 },
    { tag := "method", color := .ofInt 0x795E26 },
    { tag := "constructor", color := .ofInt 0x267F99 },
    { tag := "enum", color := .ofInt 0x267F99, italic := true },
    { tag := "parameter", color := .ofInt 0x001080, italic := true },
    { tag := "var", color := .ofInt 0x001080 },
    { tag := "operator", color := .ofInt 0x000000 }]

/-- The themes built in, in the order of their names. -/
def builtin : List Theme := [dark, light]

end Theme

end Highlight
