import Highlight.Data.Value
import Highlight.Toml.Error

/-!
# Keys, strings, moments and numbers of TOML

The parts of a document that hold no other values.  Every reader takes the characters that are left and
returns those that are left after it.
-/

namespace Highlight.Toml

/-- A failure at the characters that are left. -/
def failAt {α : Type} (fault : Fault) (rest : List Char) : Except Failure α :=
  .error (.fault fault rest.length)

/-- A space or a tab. -/
def isSpace (c : Char) : Bool := c == ' ' || c == '\t'

/-- A space, a tab or a line feed. -/
def isSpaceOrLine (c : Char) : Bool := isSpace c || c == '\n'

/-- The control characters that may not stand in a comment or in a string of one line. -/
def isControl (c : Char) : Bool := (c.toNat < 0x20 || c.toNat == 0x7F) && c != '\t'

/-- The control characters that may not stand in a string of several lines. -/
def isControlInLines (c : Char) : Bool := isControl c && c != '\n'

/-- The characters left after spaces and tabs. -/
def skipSpaces (rest : List Char) : List Char := rest.dropWhile isSpace

/-- Whether a text begins with another. -/
def beginsWith (start rest : List Char) : Bool := start.isPrefixOf rest

/-- The text before the first occurrence of `close`, and the text from it on. -/
def splitBefore (close : List Char) : List Char → Option (List Char × List Char)
  | [] => if close.isEmpty then some ([], []) else none
  | c :: rest =>
    if beginsWith close (c :: rest) then some ([], c :: rest)
    else (splitBefore close rest).map fun (text, after) => (c :: text, after)

/-- Refuses a text that holds a character of `bad`; `after` is what follows the text. -/
def refuse (bad : Char → Bool) (text after : List Char) : Except Failure Unit :=
  match text.dropWhile (!bad ·) with
  | [] => .ok ()
  | c :: more => failAt (.invalidCharacter c) (c :: more ++ after)

/-- The characters left after a comment, if there is one: a line feed or nothing. -/
def skipComment : List Char → Except Failure (List Char)
  | '#' :: rest => do
    let text := rest.takeWhile (· ≠ '\n')
    let after := rest.dropWhile (· ≠ '\n')
    refuse isControl text after
    return after
  | rest => return rest

/-- The characters left after any number of spaces, line feeds and comments. -/
def skipLines : (steps : Nat) → List Char → Except Failure (List Char)
  | 0, rest => return rest
  | steps + 1, rest => do
    let after ← skipComment (rest.dropWhile isSpaceOrLine)
    if after.length = rest.length then return rest else skipLines steps after

/-! ## Strings -/

/-- A string without escapes, after its opening apostrophe. -/
def literalString (rest : List Char) : Except Failure (String × List Char) := do
  match splitBefore ['\''] rest with
  | none => failAt (.expected "'") []
  | some (text, after) =>
    refuse isControl text after
    return (String.ofList text, after.drop 1)

/-- The character given by hexadecimal digits. -/
def hexCharacter (width : Nat) (rest : List Char) : Except Failure (Char × List Char) :=
  let digits := rest.take width
  let isHex (c : Char) := c.isDigit || ('a' ≤ c && c ≤ 'f') || ('A' ≤ c && c ≤ 'F')
  if digits.length ≠ width || !digits.all isHex then failAt .invalidHexValue rest
  else
    let digit (c : Char) := if c.isDigit then c.toNat - 0x30 else c.toLower.toNat - 0x61 + 10
    let n := digits.foldl (fun n c => 16 * n + digit c) 0
    if h : n.isValidChar then .ok (Char.ofNatAux n h, rest.drop width)
    else failAt .notScalarValue (rest.drop width)

/-- What the character after a backslash stands for. -/
def escaped? : Char → Option Char
  | 'b' => some '\x08'
  | 't' => some '\t'
  | 'n' => some '\n'
  | 'f' => some '\x0c'
  | 'r' => some '\r'
  | '"' => some '"'
  | '\\' => some '\\'
  | _ => none

/-- An escape, after its backslash.  In a string of several lines a backslash at the end of a line removes
the line feed and the white space after it. -/
def escape (multiline : Bool) : List Char → Except Failure (List Char × List Char)
  | [] => failAt .strayBackslash []
  | c :: rest =>
    if multiline && isSpaceOrLine c then
      if c = '\n' then .ok ([], rest.dropWhile isSpaceOrLine)
      else match skipSpaces rest with
        | [] => .ok ([], [])
        | '\n' :: after => .ok ([], after.dropWhile isSpaceOrLine)
        | after => failAt .strayBackslash after
    else if c = 'u' then do
      let (d, rest) ← hexCharacter 4 rest
      return ([d], rest)
    else if c = 'U' then do
      let (d, rest) ← hexCharacter 8 rest
      return ([d], rest)
    else match escaped? c with
      | some d => .ok ([d], rest)
      | none => failAt .strayBackslash rest

/-- A string with escapes, after its opening quotes; `found` are its characters so far, the latest
first. -/
def basicString (multiline : Bool) :
    (steps : Nat) → (found : List Char) → List Char → Except Failure (List Char × List Char)
  | 0, _, rest => failAt .unterminatedString rest
  | steps + 1, found, rest =>
    match rest with
    | [] => failAt .unterminatedString []
    | '"' :: after =>
      if !multiline then .ok (found.reverse, after)
      else match after with
        | '"' :: '"' :: after => .ok (found.reverse, after)
        | _ => basicString multiline steps ('"' :: found) after
    | '\\' :: after => do
      let (text, after) ← escape multiline after
      basicString multiline steps (text.reverse ++ found) after
    | c :: after =>
      if (if multiline then isControlInLines c else isControl c) then
        failAt (.illegalCharacter c) (c :: after)
      else basicString multiline steps (c :: found) after

/-- A string with escapes on one line, after its opening quote. -/
def lineString (rest : List Char) : Except Failure (String × List Char) := do
  let (text, rest) ← basicString false (rest.length + 1) [] rest
  return (String.ofList text, rest)

/-- One or two quotes right after the closing quotes belong to the string. -/
def lateQuotes (quote : Char) (text : List Char) : List Char → List Char × List Char
  | c :: rest =>
    if c ≠ quote then (text, c :: rest)
    else match rest with
      | d :: after =>
        if d ≠ quote then (text ++ [quote], d :: after) else (text ++ [quote, quote], after)
      | [] => (text ++ [quote], [])
  | [] => (text, [])

/-- A string of several lines, after its three opening quotes. -/
def linesString (quote : Char) (rest : List Char) : Except Failure (String × List Char) := do
  let rest := match rest with
    | '\n' :: rest => rest
    | rest => rest
  let (text, rest) ←
    if quote = '"' then basicString true (rest.length + 1) [] rest
    else match splitBefore [quote, quote, quote] rest with
      | none => failAt (.expected "'''") []
      | some (text, after) => do
        refuse isControlInLines text after
        pure (text, after.drop 3)
  let (text, rest) := lateQuotes quote text rest
  return (String.ofList text, rest)

/-! ## Keys -/

/-- A character of a key without quotes. -/
def isBareKeyChar (c : Char) : Bool := c.isAlphanum || c == '-' || c == '_'

/-- A part of a key. -/
def keyPart : List Char → Except Failure (String × List Char)
  | '\'' :: rest => literalString rest
  | '"' :: rest => lineString rest
  | rest =>
    let part := rest.takeWhile isBareKeyChar
    if part.isEmpty then failAt .invalidKeyStart rest
    else .ok (String.ofList part, rest.dropWhile isBareKeyChar)

/-- A key of one or more parts with dots between them, and the spaces after it. -/
def key : (steps : Nat) → List Char → Except Failure (Key × List Char)
  | 0, rest => failAt .invalidKeyStart rest
  | steps + 1, rest => do
    let (part, rest) ← keyPart rest
    match skipSpaces rest with
    | '.' :: rest => do
      let (parts, rest) ← key steps (skipSpaces rest)
      return (part :: parts, rest)
    | rest => return ([part], rest)

/-! ## Dates and times -/

/-- A number of exactly `width` digits. -/
def fixedNumber? (width : Nat) (rest : List Char) : Option (Nat × List Char) :=
  let digits := rest.take width
  if digits.length = width && digits.all Char.isDigit then
    some (digits.foldl (fun n c => 10 * n + (c.toNat - 0x30)) 0, rest.drop width)
  else none

/-- A number of two digits that lies between bounds. -/
def twoDigits? (lo hi : Nat) (rest : List Char) : Option (Nat × List Char) :=
  (fixedNumber? 2 rest).filter fun (n, _) => lo ≤ n && n ≤ hi

/-- The characters left after the character `c`, if it is next. -/
def after? (c : Char) : List Char → Option (List Char)
  | [] => none
  | d :: rest => if d = c then some rest else none

/-- The microseconds of a second, of which further digits are left out. -/
def microseconds : List Char → Nat × List Char
  | '.' :: rest =>
    let digits := rest.takeWhile Char.isDigit
    if digits.isEmpty then (0, '.' :: rest)
    else
      let six := (digits ++ List.replicate 6 '0').take 6
      (((fixedNumber? 6 six).map (·.1)).getD 0, rest.dropWhile Char.isDigit)
  | rest => (0, rest)

/-- Hour, minute and second, with colons between them, and the microseconds. -/
def timeOfDay? (rest : List Char) : Option (TimeOfDay × List Char) := do
  let (hour, rest) ← twoDigits? 0 23 rest
  let (minute, rest) ← twoDigits? 0 59 (← after? ':' rest)
  let (second, rest) ← twoDigits? 0 59 (← after? ':' rest)
  let (microsecond, rest) := microseconds rest
  return (← TimeOfDay.of? hour minute second microsecond, rest)

/-- An offset from universal time: a `Z`, or a sign with hours and minutes. -/
def zoneOffset? : List Char → Option (ZoneOffset × List Char)
  | [] => none
  | c :: rest =>
    if c = 'Z' ∨ c = 'z' then some (.utc, rest)
    else if c = '+' ∨ c = '-' then do
      let (hours, rest) ← twoDigits? 0 23 rest
      let (minutes, rest) ← twoDigits? 0 59 (← after? ':' rest)
      return (← ZoneOffset.of? (c = '+') hours minutes, rest)
    else none

/-- The time after a date: a space or a `T`, the time, and the offset if one is next. -/
def timeAfterDate? : List Char → Option (TimeOfDay × Option ZoneOffset × List Char)
  | [] => none
  | c :: rest =>
    if c = 'T' ∨ c = 't' ∨ c = ' ' then do
      let (time, rest) ← timeOfDay? rest
      match zoneOffset? rest with
      | some (zone, rest) => return (time, some zone, rest)
      | none => return (time, none, rest)
    else none

/-- Year, month and day, with hyphens between them.  The month need not have the day. -/
def dateNumbers? (rest : List Char) : Option (Nat × Nat × Nat × List Char) := do
  let (year, rest) ← fixedNumber? 4 rest
  let (month, rest) ← twoDigits? 1 12 (← after? '-' rest)
  let (day, rest) ← twoDigits? 1 31 (← after? '-' rest)
  return (year, month, day, rest)

/-- A date, a time or both, if one is next. -/
def moment? (rest : List Char) : Except Failure (Option (Moment × List Char)) :=
  match dateNumbers? rest with
  | none => .ok ((timeOfDay? rest).map fun (time, rest) => (.time time, rest))
  | some (year, month, day, after) =>
    match Date.of? year month day with
    | none => failAt .invalidMoment rest
    | some date =>
      match timeAfterDate? after with
      | some (time, zone, after) => .ok (some (.dateTime date time zone, after))
      | none => .ok (some (.date date, after))

/-! ## Numbers -/

/-- Digits with single underscores between them: their number, and what is left. -/
def digitRun (isDigit : Char → Bool) : List Char → List Char × List Char
  | [] => ([], [])
  | '_' :: c :: rest =>
    if isDigit c then
      let (digits, after) := digitRun isDigit rest
      (c :: digits, after)
    else ([], '_' :: c :: rest)
  | c :: rest =>
    if isDigit c then
      let (digits, after) := digitRun isDigit rest
      (c :: digits, after)
    else ([], c :: rest)

/-- Digits that do not start with an underscore. -/
def digits (isDigit : Char → Bool) : List Char → List Char × List Char
  | '_' :: rest => ([], '_' :: rest)
  | rest => digitRun isDigit rest

/-- The number that digits of a base denote. -/
def numeral (base : Nat) (cs : List Char) : Nat :=
  cs.foldl (fun n c => base * n +
    (if c.isDigit then c.toNat - 0x30 else c.toLower.toNat - 0x61 + 10)) 0

/-- An integer with a mark for its base, after the zero of the mark. -/
def markedInteger? : List Char → Option (Nat × List Char)
  | mark :: rest =>
    let read (base : Nat) (isDigit : Char → Bool) : Option (Nat × List Char) :=
      match digits isDigit rest with
      | ([], _) => none
      | (ds, after) => some (numeral base ds, after)
    match mark with
    | 'x' => read 16 fun c => c.isDigit || ('a' ≤ c && c ≤ 'f') || ('A' ≤ c && c ≤ 'F')
    | 'b' => read 2 fun c => c == '0' || c == '1'
    | 'o' => read 8 fun c => '0' ≤ c && c ≤ '7'
    | _ => none
  | [] => none

/-- The digits after a decimal point, if a point with digits is next. -/
def fraction : List Char → List Char × List Char
  | '.' :: rest =>
    match digits Char.isDigit rest with
    | ([], _) => ([], '.' :: rest)
    | found => found
  | rest => ([], rest)

/-- The power of ten, if one is next. -/
def power : List Char → Option Int × List Char
  | [] => (none, [])
  | e :: rest =>
    if e ≠ 'e' ∧ e ≠ 'E' then (none, e :: rest)
    else
      let (negative, unsigned) := match rest with
        | '-' :: r => (true, r)
        | '+' :: r => (false, r)
        | r => (false, r)
      match digits Char.isDigit unsigned with
      | ([], _) => (none, e :: rest)
      | (ds, after) =>
        let n : Int := numeral 10 ds
        (some (if negative then -n else n), after)

/-- An integer, given by its decimal digits. -/
def decimalInteger (negative : Bool) (digits : List Char) : Except Failure Value :=
  if digitLimit < digits.length then .error (.crash (.longNumeral digits.length))
  else
    let n : Int := numeral 10 digits
    .ok (.integer (if negative then -n else n))

/-- A number, after its sign: an integer, unless a fraction or a power of ten follows. -/
def unsignedNumber? (negative : Bool) (rest : List Char) : Option (Except Failure Value × List Char) :=
  let (whole, rest) := match rest with
    | '0' :: rest => (['0'], rest)
    | rest => digits Char.isDigit rest
  if whole.isEmpty then none
  else
    let (part, rest) := fraction rest
    let (exponent, rest) := power rest
    if part.isEmpty && exponent.isNone then some (decimalInteger negative whole, rest)
    else
      let scale : Int := exponent.getD 0 - part.length
      some (.ok (.decimal (.finite negative (numeral 10 (whole ++ part)) scale)), rest)

/-- The values of decimal type that are no numbers, after their sign. -/
def special? (negative : Bool) : List Char → Option (Except Failure Value × List Char)
  | 'i' :: 'n' :: 'f' :: rest => some (.ok (.decimal (.infinite negative)), rest)
  | 'n' :: 'a' :: 'n' :: rest => some (.ok (.decimal .nan), rest)
  | _ => none

/-- A number in any written form.  Only decimal integers are bounded in length. -/
def number? (rest : List Char) : Option (Except Failure Value × List Char) :=
  let marked := match rest with
    | '0' :: rest => markedInteger? rest
    | _ => none
  match marked with
  | some (n, after) => some (.ok (.integer n), after)
  | none =>
    let (negative, unsigned) := match rest with
      | '-' :: r => (true, r)
      | '+' :: r => (false, r)
      | r => (false, r)
    (unsignedNumber? negative unsigned).or (special? negative unsigned)

end Highlight.Toml
