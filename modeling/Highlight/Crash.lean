/-!
# Crashes

The program foresees files that cannot be read, documents that are malformed and settings that are
wrong, and has an error for each.  It does not foresee the limits of the machine that runs it: the
stack of calls, the size up to which integers are converted to decimal digits and back, and the
character that no path may hold.  Going beyond one of them is a crash.

How much room the stack has depends on the calls that are going on already, so that it is a parameter
wherever values nest.
-/

namespace Highlight

/-- A limit that has been passed. -/
inductive Crash where
  /-- The values of a document nest too deeply to be read. -/
  | deepDocument
  /-- A decimal integer of a document has too many digits to be read. -/
  | longNumeral (digits : Nat)
  /-- A value nests too deeply to be shown. -/
  | deepValue
  /-- An integer is too large to be shown. -/
  | largeInteger
  /-- A path holds the null character. -/
  | nullCharacter
  deriving DecidableEq, Repr

/-- The greatest number of digits of an integer that is converted from decimal digits or to them. -/
def digitLimit : Nat := 4300

/-- The wording of a crash. -/
def Crash.message : Crash → String
  | .deepDocument => "maximum recursion depth exceeded"
  | .longNumeral digits =>
    s!"Exceeds the limit ({digitLimit} digits) for integer string conversion: value has {digits} digits; " ++
      "use sys.set_int_max_str_digits() to increase the limit"
  | .deepValue => "maximum recursion depth exceeded while getting the repr of an object"
  | .largeInteger =>
    s!"Exceeds the limit ({digitLimit} digits) for integer string conversion; " ++
      "use sys.set_int_max_str_digits() to increase the limit"
  | .nullCharacter => "embedded null byte"

/-- What a value of a document may stand in. -/
inductive Bracket where
  | array
  | table
  deriving DecidableEq, Repr

/-- The room that is left on the stack of calls. -/
structure Stack where
  /-- Whether it does not suffice to read the value at the start of `rest`, inside the brackets `around`,
  the innermost first. -/
  endsReading : (around : List Bracket) → (rest : List Char) → Bool
  /-- The number of calls in each other that it has room for while a value is shown. -/
  showing : Nat

/-- The number of calls that it takes to come to a value inside a bracket. -/
def Bracket.calls : Bracket → Nat
  | .array => 2
  | .table => 3

/-- The stack has room for `n` calls. -/
def Stack.ofCalls (n : Nat) : Stack :=
  { endsReading := fun around _ => n < (around.map Bracket.calls).foldr (· + ·) 0, showing := n }

end Highlight
