import Highlight.Pattern.Basic
import Highlight.Pattern.Error
import Highlight.Text.HexInteger
import Highlight.Text.Identifier

/-!
# Reading patterns

A pattern text is read from left to right, symbol by symbol, where a backslash and the character after
it are one symbol.  The groups still open are kept on a stack, so that reading needs no recursion on
the nesting: each step reads one item — a character, a set, a quantifier, a parenthesis with what
belongs to it — and there are at most as many steps as symbols.

Of the inline flags, `i` ignores ASCII case, `m` lets `^` and `$` match at line feeds, `s` lets the
dot match the line feed, and `x` skips white space between items and comments after a number sign.
The flag `a` asks for the ASCII classes and the ASCII case that all patterns have here.

## What is refused

The rest of the syntax of regular expressions is refused: characters escaped by their names (`\N`),
which need a table of all names, and the flags `u` (the classes and the case of all scripts inside a
group) and `t` (no repetition at all).  No bound is set on the numbers of a repetition, on the number
of groups and on the depth of their nesting.
-/

namespace Highlight

open Text

namespace Reader

/-! ## Symbols -/

/-- A character of a pattern text, or a backslash with the character it escapes. -/
structure Symbol where
  escaped : Bool
  char : Char
  deriving DecidableEq, Repr

namespace Symbol

/-- A character without a backslash. -/
def plain (c : Char) : Symbol := ⟨false, c⟩

/-- The text of a symbol. -/
def text (s : Symbol) : String :=
  if s.escaped then String.ofList ['\\', s.char] else String.ofList [s.char]

/-- The number of characters of a symbol. -/
def size (s : Symbol) : Nat := if s.escaped then 2 else 1

/-- Whether a symbol is a plain character with the property `p`. -/
def isPlain (p : Char → Bool) (s : Symbol) : Bool := !s.escaped && p s.char

end Symbol

/-- The symbols of a text, without the backslash that may be left over at its end. -/
def symbols : List Char → List Symbol
  | [] => []
  | '\\' :: c :: rest => ⟨true, c⟩ :: symbols rest
  | '\\' :: [] => []
  | c :: rest => ⟨false, c⟩ :: symbols rest

/-- Whether a backslash is left over at the end of a text. -/
def endsInBackslash : List Char → Bool
  | [] => false
  | '\\' :: _ :: rest => endsInBackslash rest
  | '\\' :: [] => true
  | _ :: rest => endsInBackslash rest

/-! ## State -/

/-- The inline flags in force. -/
structure Flags where
  ignoreCase : Bool := false
  multiline : Bool := false
  dotAll : Bool := false
  verbose : Bool := false

/-- The flags after those named by the letters `on` are set and those named by `off` are cleared. -/
def Flags.adjust (f : Flags) (on off : List Char) : Flags :=
  let value (letter : Char) (old : Bool) := (old || on.contains letter) && !off.contains letter
  ⟨value 'i' f.ignoreCase, value 'm' f.multiline, value 's' f.dotAll, value 'x' f.verbose⟩

/-- What a parenthesis opens. -/
inductive GroupKind where
  /-- No parenthesis: the whole pattern. -/
  | whole
  | plain
  | capture (index : Nat)
  | atomic
  /-- A condition on a group, before its branches. -/
  | ifGroup (index : Nat)
  | ahead (positive : Bool)
  /-- A lookbehind; `outermost` if it lies in no other. -/
  | behind (positive outermost : Bool)

/-- What a quantifier needs to know of the item before it. -/
inductive ItemKind where
  | anchor
  | repeated
  | other
  deriving DecidableEq

/-- A part of a sequence. -/
structure Item where
  pattern : Pattern
  kind : ItemKind

/-- A group being read. -/
structure Frame where
  kind : GroupKind
  /-- The offset of its parenthesis. -/
  start : Nat
  flags : Flags
  /-- The alternatives already complete, the latest first. -/
  alternatives : List Pattern := []
  /-- The items of the current alternative, the latest first. -/
  items : List Item := []

/-- The current alternative as far as it has been read. -/
def Frame.last (f : Frame) : Pattern := Pattern.concat (f.items.reverse.map (·.pattern))

/-- The pattern read so far in a group. -/
def Frame.pattern (f : Frame) : Pattern :=
  match f.alternatives.reverse with
  | [] => f.last
  | p :: ps => Pattern.choice p (ps ++ [f.last])

/-- The branches of a condition: the one taken if it holds, and the other one, which may be left out.
-/
def Frame.branches (f : Frame) : Pattern × Pattern :=
  match f.alternatives with
  | [] => (f.last, .empty)
  | p :: _ => (p, f.last)

/-- The state of reading. -/
structure State where
  rest : List Symbol
  /-- A backslash is left over after the last symbol. -/
  dangling : Bool
  /-- The offset of the next symbol. -/
  offset : Nat := 0
  current : Frame := { kind := .whole, start := 0, flags := {} }
  /-- The groups around the current one, the innermost first. -/
  enclosing : List Frame := []
  /-- The number of capturing groups opened. -/
  groupCount : Nat := 0
  /-- The widths of the capturing groups already closed. -/
  widths : List (Nat × Width) := []
  names : List (String × Nat) := []
  /-- The groups that conditions refer to by number, with the offset of the first reference; the latest
  first. -/
  conditions : List (Nat × Nat) := []
  /-- Inside a lookbehind, the number of groups opened before it. -/
  groupsBeforeBehind : Option Nat := none
  /-- Some lookbehind has no fixed width. -/
  varyingBehind : Bool := false

/-- Reading steps. -/
abbrev Read := StateT State (Except PatternError)

/-- Refuses the pattern with a fault at an offset. -/
def fail {α : Type} (fault : Fault) (offset : Nat) : Read α :=
  throw ⟨fault, some offset⟩

/-- The offset of the next symbol. -/
def here : Read Nat := return (← get).offset

/-- The next symbol, which stays. -/
def peek? : Read (Option Symbol) := return (← get).rest.head?

/-- Goes past `n` symbols.  A backslash left over is found out when it becomes the next symbol. -/
def skip (n : Nat) : Read Unit := do
  let s ← get
  let offset := s.offset + ((s.rest.take n).map (·.size)).foldr (· + ·) 0
  let rest := s.rest.drop n
  if rest.isEmpty && s.dangling then fail .danglingEscape offset
  set { s with rest, offset }

/-- The next symbol, which is read. -/
def next? : Read (Option Symbol) := do
  let s ← peek?
  if s.isSome then skip 1
  return s

/-- Reads the plain character `c` if it is next. -/
def accept (c : Char) : Read Bool := do
  match ← peek? with
  | some s => if s.isPlain (· == c) then do skip 1; return true else return false
  | none => return false

/-- Reads plain characters with the property `p`, `limit` at most. -/
def readWhile (limit : Nat) (p : Char → Bool) : Read (List Char) := do
  let found := ((← get).rest.take limit).takeWhile (·.isPlain p)
  unless found.isEmpty do skip found.length
  return found.map (·.char)

/-- Appends an item to the current alternative. -/
def push (pattern : Pattern) (kind : ItemKind := .other) : Read Unit :=
  modify fun s => { s with current.items := ⟨pattern, kind⟩ :: s.current.items }

/-! ## Characters and escapes -/

/-- The number written by digits of a base. -/
def numeral (base : Nat) (digits : List Char) : Nat :=
  digits.foldl (fun n c => n * base +
    (if c.isDigit then c.toNat - '0'.toNat else c.toLower.toNat - 'a'.toNat + 10)) 0

/-- A hexadecimal digit. -/
def isHexDigit (c : Char) : Bool :=
  c.isDigit || ('a' ≤ c && c ≤ 'f') || ('A' ≤ c && c ≤ 'F')

/-- An octal digit. -/
def isOctDigit (c : Char) : Bool := '0' ≤ c && c ≤ '7'

/-- Refuses an escape, given by its text, which has just been read. -/
def failEscape {α : Type} (fault : String → Fault) (text : List Char) : Read α := do
  fail (fault (String.ofList text)) ((← here) - text.length)

/-- The code point of an escape with a fixed number of hexadecimal digits. -/
def hexEscape (letter : Char) (width : Nat) : Read Nat := do
  let digits ← readWhile width isHexDigit
  let text := '\\' :: letter :: digits
  if digits.length < width then failEscape .incompleteEscape text
  let n := numeral 16 digits
  if 0x10FFFF < n then failEscape .badEscape text
  return n

/-- The code point of an octal escape. -/
def octalEscape (digits : List Char) : Read Nat := do
  let n := numeral 8 digits
  if 0o377 < n then failEscape .octalTooLarge ('\\' :: digits)
  return n

/-- The control character that a letter stands for after a backslash. -/
def controlEscape? : Char → Option Nat
  | 'a' => some 7
  | 'f' => some 12
  | 'n' => some 10
  | 'r' => some 13
  | 't' => some 9
  | 'v' => some 11
  | _ => none

/-- The category that a letter stands for after a backslash, and whether its complement is meant. -/
def categoryEscape? : Char → Option (Category × Bool)
  | 'd' => some (.digit, false)
  | 'D' => some (.digit, true)
  | 's' => some (.space, false)
  | 'S' => some (.space, true)
  | 'w' => some (.word, false)
  | 'W' => some (.word, true)
  | _ => none

/-- The anchor that a letter stands for after a backslash. -/
def anchorEscape? : Char → Option Anchor
  | 'A' => some .textStart
  | 'b' => some .wordBoundary
  | 'B' => some .notWordBoundary
  | 'Z' => some .textEnd
  | _ => none

/-- The code point of an escape that is read the same way inside and outside sets. -/
def commonEscape (c : Char) : Read Nat := do
  match controlEscape? c with
  | some n => return n
  | none =>
    if c == 'x' then hexEscape c 2
    else if c == 'u' then hexEscape c 4
    else if c == 'U' then hexEscape c 8
    else if c.isAlphanum then failEscape .badEscape ['\\', c]
    else return c.toNat

/-- The class of one code point under the flags in force. -/
def literal (n : Nat) : Read CharClass :=
  return { CharClass.code n with foldCase := (← get).current.flags.ignoreCase }

/-- Checks that a lookbehind around the current place does not hold group `index` itself. -/
def checkBehind (index : Nat) : Read Unit := do
  match (← get).groupsBeforeBehind with
  | some n => if n < index then fail .lookbehindGroupReference (← here)
  | none => return

/-- A reference to a closed group. -/
def pushReference (index : Nat) : Read Unit := do
  checkBehind index
  push (.backref index (← get).current.flags.ignoreCase)

/-- A backslash with the digit `c`: three octal digits are a code point, anything else the number of a
group. -/
def digitEscape (c : Char) : Read Unit := do
  let second ← readWhile 1 Char.isDigit
  let third ←
    if second.all isOctDigit && !second.isEmpty && isOctDigit c then readWhile 1 isOctDigit
    else pure []
  let digits := c :: second ++ third
  if third.isEmpty then
    let index := numeral 10 digits
    let s ← get
    if s.groupCount < index then
      fail (.invalidGroupReference index) (s.offset - digits.length)
    if (s.widths.lookup index).isNone then
      fail .openGroupReference (s.offset - digits.length - 1)
    pushReference index
  else
    push (.one (← literal (← octalEscape digits)))

/-- An escape outside sets. -/
def pushEscape (c : Char) : Read Unit := do
  match anchorEscape? c, categoryEscape? c with
  | some a, _ => push (.anchor a) .anchor
  | none, some (kind, negated) => push (.one (.ofCategory kind negated))
  | none, none =>
    if c == '0' then
      push (.one (← literal (← octalEscape (c :: (← readWhile 2 isOctDigit)))))
    else if c.isDigit then digitEscape c
    else push (.one (← literal (← commonEscape c)))

/-! ## Sets -/

/-- The item of a set that an escape stands for. -/
def setEscape (c : Char) : Read ClassItem := do
  match categoryEscape? c with
  | some (kind, negated) => return .category kind negated
  | none =>
    let n ←
      if c == 'b' then pure 8
      else if isOctDigit c then octalEscape (c :: (← readWhile 2 isOctDigit))
      else commonEscape c
    return .range n n

/-- The item of a set that a symbol starts. -/
def setItem (s : Symbol) : Read ClassItem :=
  if s.escaped then setEscape s.char else return .range s.char.toNat s.char.toNat

/-- The items of a set that starts at `start`, up to its bracket; `found` are those before, the latest
first. -/
def setItems (start : Nat) : (steps : Nat) → (found : List ClassItem) → Read (List ClassItem)
  | 0, _ => fail .unterminatedSet start
  | steps + 1, found => do
    let some s ← next? | fail .unterminatedSet start
    if s.isPlain (· == ']') && !found.isEmpty then return found.reverse
    let lo ← setItem s
    if ← accept '-' then
      let some t ← next? | fail .unterminatedSet start
      if t.isPlain (· == ']') then
        return (.range '-'.toNat '-'.toNat :: lo :: found).reverse
      let hi ← setItem t
      let bad := Fault.badRange s.text t.text
      let place := (← here) - (s.size + 1 + t.size)
      match lo, hi with
      | .range m _, .range n _ =>
        if n < m then fail bad place
        setItems start steps (.range m n :: found)
      | _, _ => fail bad place
    else
      setItems start steps (lo :: found)

/-- A set, after its opening bracket at `start`. -/
def pushSet (start : Nat) : Read Unit := do
  let negated ← accept '^'
  let s ← get
  let items ← setItems start (s.rest.length + 1) []
  push (.one { items, negated, foldCase := s.current.flags.ignoreCase })

/-! ## Quantifiers -/

/-- Repeats the item before a quantifier, which starts at `start`. -/
def quantify (start lo : Nat) (hi : Option Nat) : Read Unit := do
  let s ← get
  match s.current.items with
  | [] => fail .nothingToRepeat start
  | item :: items =>
    match item.kind with
    | .anchor => fail .nothingToRepeat start
    | .repeated => fail .multipleRepeat start
    | .other =>
      let pattern ←
        if ← accept '?' then pure (.times lo hi false item.pattern)
        else if ← accept '+' then pure (.possessive lo hi item.pattern)
        else pure (.times lo hi true item.pattern)
      modify fun s => { s with current.items := ⟨pattern, .repeated⟩ :: items }

/-- What follows an opening brace at `start`: the bounds of a repetition, or else the brace is a
character like any other. -/
def brace (start : Nat) : Read Unit := do
  let s ← get
  let lo ← readWhile s.rest.length Char.isDigit
  let comma ← accept ','
  let hi ← if comma then readWhile s.rest.length Char.isDigit else pure lo
  if (lo.isEmpty && !comma) || !(← accept '}') then
    set s
    push (.one (← literal '{'.toNat))
  else
    let least := numeral 10 lo
    let most := if hi.isEmpty then none else some (numeral 10 hi)
    if most.any (· < least) then fail .repeatBoundsReversed (start + 1)
    quantify start least most

/-! ## Groups -/

/-- The text before the plain character `close`, which is read too. -/
def textBefore (close : Char) : Read String := do
  let isName (s : Symbol) := !s.isPlain (· == close)
  let rest := (← get).rest
  let name := rest.takeWhile isName
  let text := String.join (name.map (·.text))
  unless name.isEmpty do skip name.length
  if (rest.dropWhile isName).isEmpty then
    if name.isEmpty then fail .missingGroupName (← here)
    else fail (.unterminatedGroupName close) ((← here) - text.length)
  skip 1
  if name.isEmpty then fail .missingGroupName ((← here) - 1)
  return text

/-- The name before the plain character `close`, which is read too. -/
def groupName (close : Char) : Read String := do
  let text ← textBefore close
  if !isIdentifier text.toList then
    fail (.badGroupName text) ((← here) - (text.length + 1))
  return text

/-- The value of decimal digits with single underscores between them, after digits with the value `n`
have been read; `complete` tells whether the digits can end here. -/
def decimalDigitsValue? (n : Nat) (complete : Bool) : List Char → Option Nat
  | [] => if complete then some n else none
  | '_' :: rest => if complete then decimalDigitsValue? n false rest else none
  | c :: rest => if c.isDigit then decimalDigitsValue? (10 * n + (c.toNat - 0x30)) true rest else none

/-- The number that a text denotes, with a sign and white space around it: digits of any script, of which
there are at most 4300. -/
def groupNumber? (text : List Char) : Option Nat :=
  let cs := (text.map integerChar).dropWhile isAsciiBlank
  let cs := (cs.reverse.dropWhile isAsciiBlank).reverse
  if 4300 < cs.countP Char.isDigit then none
  else match cs with
    | '+' :: digits => decimalDigitsValue? 0 false digits
    | '-' :: digits => (decimalDigitsValue? 0 false digits).filter (· = 0)
    | digits => decimalDigitsValue? 0 false digits

/-- Starts a group, whose parenthesis stands at `start`. -/
def openGroup (kind : GroupKind) (start : Nat) (flags : Flags) : Read Unit :=
  modify fun s => { s with
    current := { kind, start, flags }
    enclosing := s.current :: s.enclosing }

/-- Starts a capturing group, whose name has just been read if it has one. -/
def openCapture (start : Nat) (name : Option String) : Read Unit := do
  let s ← get
  let index := s.groupCount + 1
  if let some name := name then
    if let some earlier := s.names.lookup name then
      fail (.redefinedGroup name index earlier) (s.offset - (name.length + 1))
    modify fun s => { s with names := (name, index) :: s.names }
  modify fun s => { s with groupCount := index }
  openGroup (.capture index) start s.current.flags

/-- Starts a lookbehind. -/
def openBehind (start : Nat) (positive : Bool) : Read Unit := do
  let s ← get
  modify fun s =>
    { s with groupsBeforeBehind := some (s.groupsBeforeBehind.getD s.groupCount) }
  openGroup (.behind positive s.groupsBeforeBehind.isNone) start s.current.flags

/-- A reference to a group by its name, which is next. -/
def namedReference : Read Unit := do
  let name ← groupName ')'
  let s ← get
  let place := s.offset - (name.length + 1)
  match s.names.lookup name with
  | none => fail (.unknownGroupName name) place
  | some index =>
    if (s.widths.lookup index).isNone then fail .openGroupReference place
    pushReference index

/-- Numbers of groups stay below this one. -/
def groupLimit : Nat := 1073741823

/-- The group that a condition refers to, by name or by number.  The number may be one of a group that
comes later. -/
def conditionGroup : Read Nat := do
  let text ← textBefore ')'
  let s ← get
  let place := s.offset - (text.length + 1)
  if isIdentifier text.toList then
    let some index := s.names.lookup text | fail (.unknownGroupName text) place
    return index
  else
    let some index := groupNumber? text.toList | fail (.badGroupName text) place
    if index = 0 then fail .badGroupNumber place
    if groupLimit ≤ index then fail (.invalidGroupReference index) place
    if (s.conditions.lookup index).isNone then
      set { s with conditions := (index, place) :: s.conditions }
    return index

/-- Starts a condition on a group, which is next. -/
def openCondition (start : Nat) : Read Unit := do
  let index ← conditionGroup
  let s ← get
  if s.groupsBeforeBehind.isSome && (s.widths.lookup index).isNone then
    fail .openGroupReference s.offset
  checkBehind index
  openGroup (.ifGroup index) start s.current.flags

/-- A comment, whose parenthesis stands at `start`. -/
def skipComment (start : Nat) : Read Unit := do
  let isComment (s : Symbol) := !s.isPlain (· == ')')
  let rest := (← get).rest
  let comment := rest.takeWhile isComment
  unless comment.isEmpty do skip comment.length
  if comment.length = rest.length then fail .unterminatedComment start
  skip 1

/-- The letters of the inline flags; `L` is known only to be refused. -/
def isFlag (c : Char) : Bool := "imsxaL".toList.contains c

/-- Refuses the symbol `s`, just read, in place of a flag. -/
def failFlag {α : Type} (s : Symbol) (otherwise : Fault) : Read α := do
  let letter := s.isPlain fun c => c.isAlpha || (0x80 ≤ c.toNat && isIdentifierStart c)
  fail (if letter then .unknownFlag else otherwise) ((← here) - s.size)

/-- Flag letters, of which `c` has just been read, up to one of the characters `ends`, which is read too;
`found` are the letters before.  The letters `barred` are refused. -/
def flagLetters (barred : List Char) (fault : Fault) (ends : List Char) (missing : Fault) :
    (steps : Nat) → (c : Char) → (found : List Char) → Read (List Char × Char)
  | 0, c, found => return (c :: found, ')')
  | steps + 1, c, found => do
    if barred.contains c then fail fault (← here)
    let some s ← next? | fail missing (← here)
    if s.isPlain ends.contains then return (c :: found, s.char)
    if !s.isPlain isFlag then failFlag s missing
    flagLetters barred fault ends missing steps s.char (c :: found)

/-- The flags to clear, after the hyphen. -/
def clearedFlags : Read (List Char) := do
  let some s ← next? | fail .missingFlag (← here)
  if !s.isPlain isFlag then failFlag s .missingFlag
  let steps := (← get).rest.length + 1
  return (← flagLetters ['a', 'L'] .permanentFlag [':'] .missingColon steps s.char []).1

/-- Inline flags, of which the first symbol `c` has been read: for the whole pattern, or for a group
that starts here. -/
def openFlags (start : Nat) (c : Char) : Read Unit := do
  let (on, close) ←
    if c == '-' then pure ([], '-')
    else
      let steps := (← get).rest.length + 1
      flagLetters ['L'] .localeFlag [')', '-', ':'] .missingFlagEnd steps c []
  if close == ')' then
    let s ← get
    unless s.enclosing.isEmpty && s.current.alternatives.isEmpty && s.current.items.isEmpty do
      fail .misplacedFlags start
    modify fun s => { s with current.flags := s.current.flags.adjust on [] }
  else
    let off ← if close == '-' then clearedFlags else pure []
    if on.any off.contains then fail .contradictoryFlag ((← here) - 1)
    openGroup .plain start ((← get).current.flags.adjust on off)

/-- Refuses an extension, given by what follows its question mark, which has just been read. -/
def failExtension {α : Type} (text : String) : Read α := do
  fail (.unknownExtension text) ((← here) - (text.length + 1))

/-- What follows the opening parenthesis at `start`. -/
def openParenthesis (start : Nat) : Read Unit := do
  let flags := (← get).current.flags
  if !(← accept '?') then openCapture start none
  else
    let some s ← next? | fail .unexpectedEnd (← here)
    match s with
    | ⟨false, ':'⟩ => openGroup .plain start flags
    | ⟨false, '#'⟩ => skipComment start
    | ⟨false, '>'⟩ => openGroup .atomic start flags
    | ⟨false, '('⟩ => openCondition start
    | ⟨false, '='⟩ => openGroup (.ahead true) start flags
    | ⟨false, '!'⟩ => openGroup (.ahead false) start flags
    | ⟨false, '<'⟩ =>
      match ← next? with
      | none => fail .unexpectedEnd (← here)
      | some ⟨false, '='⟩ => openBehind start true
      | some ⟨false, '!'⟩ => openBehind start false
      | some t => failExtension ("<" ++ t.text)
    | ⟨false, 'P'⟩ =>
      if ← accept '<' then openCapture start (some (← groupName '>'))
      else if ← accept '=' then namedReference
      else match ← next? with
        | none => fail .unexpectedEnd (← here)
        | some t => failExtension ("P" ++ t.text)
    | s =>
      if s.isPlain fun c => isFlag c || c == '-' then openFlags start s.char
      else failExtension s.text

/-- The width of a pattern, whose groups are closed. -/
def widthOf (p : Pattern) : Read Width := do
  let widths := (← get).widths
  return p.width fun i => (widths.lookup i).getD (.exactly 0)

/-- Appends a complete group to the alternative around it. -/
def pushGroup (f : Frame) : Read Unit := do
  let p := f.pattern
  match f.kind with
  | .whole | .plain => push p
  | .atomic => push (.atomic p)
  | .ifGroup index => push (.ifGroup index f.branches.1 f.branches.2)
  | .capture index =>
    let w ← widthOf p
    modify fun s => { s with widths := (index, w) :: s.widths }
    push (.group index p)
  | .ahead positive => push (.ahead positive p)
  | .behind positive outermost =>
    if outermost then modify fun s => { s with groupsBeforeBehind := none }
    match (← widthOf p).fixed? with
    | some width => push (.behind positive width p)
    | none =>
      modify fun s => { s with varyingBehind := true }
      push (.behind positive 0 p)

/-- A closing parenthesis, not yet read. -/
def closeParenthesis : Read Unit := do
  let s ← get
  match s.enclosing with
  | [] => fail .unbalancedParenthesis s.offset
  | around :: enclosing =>
    skip 1
    modify fun t => { t with current := around, enclosing }
    pushGroup s.current

/-- A bar, not yet read: the current alternative is complete. -/
def closeAlternative : Read Unit := do
  let s ← get
  if let .ifGroup _ := s.current.kind then
    unless s.current.alternatives.isEmpty do fail .thirdBranch s.offset
  skip 1
  modify fun s => { s with
    current.alternatives := s.current.last :: s.current.alternatives
    current.items := [] }

/-! ## The whole text -/

/-- Reads one item, which starts with the character `c` at `start` and of which that character has been
read. -/
def readItem (start : Nat) (c : Char) : Read Unit := do
  let flags := (← get).current.flags
  match c with
  | '[' => pushSet start
  | '.' => push (.one (if flags.dotAll then .all else .notLineFeed))
  | '^' => push (.anchor (if flags.multiline then .lineStart else .textStart)) .anchor
  | '$' => push (.anchor (if flags.multiline then .lineEnd else .finalLineEnd)) .anchor
  | '(' => openParenthesis start
  | '*' => quantify start 0 none
  | '+' => quantify start 1 none
  | '?' => quantify start 0 (some 1)
  | '{' => brace start
  | c => push (.one (← literal c.toNat))

/-- The rest of a line, a comment. -/
def skipLine : Read Unit := do
  let rest := (← get).rest
  let comment := rest.takeWhile fun s => !s.isPlain (· == '\n')
  skip (comment.length + 1)

/-- Reads up to `steps` items. -/
def readItems : (steps : Nat) → Read Unit
  | 0 => return
  | steps + 1 => do
    match ← peek? with
    | none => return
    | some ⟨false, '|'⟩ => closeAlternative
    | some ⟨false, ')'⟩ => closeParenthesis
    | some s =>
      let start ← here
      let verbose := (← get).current.flags.verbose
      skip 1
      if s.escaped then pushEscape s.char
      else if verbose && s.char == '#' then skipLine
      else unless verbose && isAsciiBlank s.char do readItem start s.char
    readItems steps

/-- Reads a whole pattern. -/
def readPattern : Read Pattern := do
  skip 0
  readItems (← get).rest.length
  let s ← get
  unless s.enclosing.isEmpty do fail .unclosedGroup s.current.start
  if let some (index, place) := s.conditions.reverse.find? (s.groupCount < ·.1) then
    fail (.invalidGroupReference index) place
  if s.varyingBehind then throw ⟨.varyingLookbehind, none⟩
  return s.current.pattern

end Reader

/-- The pattern that a text denotes. -/
def Pattern.ofText (text : List Char) : Except PatternError Pattern :=
  (Reader.readPattern.run
    { rest := Reader.symbols text, dangling := Reader.endsInBackslash text }).map (·.1)

/-- Whether a text denotes a pattern. -/
def Pattern.isDenotedBy (p : Pattern) (text : List Char) : Bool :=
  match Pattern.ofText text with
  | .ok q => q = p
  | .error _ => false

theorem Pattern.ofText_of_isDenotedBy {p : Pattern} {text : List Char}
    (h : p.isDenotedBy text = true) : Pattern.ofText text = .ok p := by
  unfold Pattern.isDenotedBy at h
  split at h
  · next q hq => rw [hq, of_decide_eq_true h]
  · exact absurd h Bool.false_ne_true

end Highlight
