import Highlight.Text.HexInteger
import Highlight.Text.Quoted

/-!
# Colors

A color has three channels from 0 to 255.  It is written as six upper-case hexadecimal digits, and read
from any six characters that denote a hexadecimal integer, or from three characters each of which is
doubled; a number sign may stand before them, and white space around.  A negative integer counts as its
remainder modulo `2 ^ 24`.
-/

namespace Highlight

open Text

/-- A color by its red, green and blue channel. -/
structure Color where
  r : Fin 256
  g : Fin 256
  b : Fin 256
  deriving DecidableEq, Repr

/-- Why there is no such color. -/
inductive ColorError where
  | channelOutOfRange (channel : Int)
  | invalidHex (text : List Char)
  deriving DecidableEq, Repr

/-- The wording of an error. -/
def ColorError.message : ColorError → String
  | .channelOutOfRange channel => s!"color channel out of range: {channel}"
  | .invalidHex text => s!"invalid hex color: {String.ofList (quote text)}"

namespace Color

/-- A channel from an integer. -/
def channel (n : Int) : Except ColorError (Fin 256) :=
  if h : 0 ≤ n ∧ n < 256 then .ok ⟨n.toNat, by omega⟩ else .error (.channelOutOfRange n)

/-- The color of three integers. -/
def ofChannels (r g b : Int) : Except ColorError Color := do
  return ⟨← channel r, ← channel g, ← channel b⟩

/-- The color whose channels are the three lowest bytes of an integer. -/
def ofInt (n : Int) : Color :=
  let byte (k : Int) : Fin 256 := Fin.ofNat 256 (n / k % 256).toNat
  ⟨byte 65536, byte 256, byte 1⟩

/-- The six characters that stand for a color text: without white space around and without a number
sign, and each doubled if they are three. -/
def hexChars (text : List Char) : List Char :=
  let digits := match trimBlank text with
    | '#' :: rest => rest
    | cs => cs
  if digits.length = 3 then digits.flatMap fun c => [c, c] else digits

/-- The color that a text denotes. -/
def ofHex (text : List Char) : Except ColorError Color :=
  let digits := hexChars text
  if digits.length ≠ 6 then .error (.invalidHex text)
  else match hexInteger? digits with
    | some n => .ok (ofInt n)
    | none => .error (.invalidHex text)

/-- A hexadecimal digit, in upper case. -/
def upperHexDigit (n : Nat) : Char :=
  if n < 10 then Char.ofNat (0x30 + n) else Char.ofNat (0x41 + n - 10)

/-- A channel in two digits. -/
def channelHex (n : Fin 256) : List Char := [upperHexDigit (n / 16), upperHexDigit (n % 16)]

/-- A color in six digits. -/
def toHex (c : Color) : List Char := channelHex c.r ++ channelHex c.g ++ channelHex c.b

end Color

end Highlight
