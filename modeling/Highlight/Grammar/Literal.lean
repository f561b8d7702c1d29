import Highlight.Rule

/-!
# Rules for literals

The rules that the built-in grammars share: strings in quotation marks, and numbers in their written
forms.
-/

namespace Highlight.Literal

/-- A decimal digit. -/
def digit : CharClass := .ofCategory .digit false

/-- The text between two quotation marks. -/
def string : Rule where
  tag := "string"
  text := "\"[^\"]*\""
  pattern := .concat [.char '"', .many 0 (.except '"'), .char '"']
  reads := Pattern.ofText_of_isDenotedBy (by decide +kernel)
  nonempty := by rfl

/-- A number in binary digits. -/
def binary : Rule where
  tag := "number"
  text := "0b[01]+"
  pattern := .concat [.char '0', .char 'b', .many 1 (.ofList ['0', '1'])]
  reads := Pattern.ofText_of_isDenotedBy (by decide +kernel)
  nonempty := by rfl

/-- A number in hexadecimal digits. -/
def hexadecimal : Rule where
  tag := "number"
  text := "0x[0-9A-Fa-f]+"
  pattern := .concat [.char '0', .char 'x',
    .many 1 { items := [.range 48 57, .range 65 70, .range 97 102] }]
  reads := Pattern.ofText_of_isDenotedBy (by decide +kernel)
  nonempty := by rfl

/-- A number with a decimal point; digits before it may be absent. -/
def fraction : Rule where
  tag := "number"
  text := "\\d*\\.\\d+"
  pattern := .concat [.many 0 digit, .char '.', .many 1 digit]
  reads := Pattern.ofText_of_isDenotedBy (by decide +kernel)
  nonempty := by rfl

/-- A number with a power of ten. -/
def exponential : Rule where
  tag := "number"
  text := "\\d+e-?\\d+"
  pattern := .concat [.many 1 digit, .char 'e', .optional (.char '-'), .many 1 digit]
  reads := Pattern.ofText_of_isDenotedBy (by decide +kernel)
  nonempty := by rfl

/-- A number in decimal digits. -/
def integer : Rule where
  tag := "number"
  text := "\\d+"
  pattern := .many 1 digit
  reads := Pattern.ofText_of_isDenotedBy (by decide +kernel)
  nonempty := by rfl

end Highlight.Literal
