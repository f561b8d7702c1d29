import Highlight.Text.Lines
import Highlight.Text.Quoted
import Highlight.Text.Units16
import Highlight.Token

/-!
# Semantic tokens for editors

Editors want the tokens as a list of numbers, five for each piece of a token that lies on one line: the
lines since the piece before, the columns since it or since the start of the line, the length, the index
of the kind, and the modifiers as bits.  Columns and lengths count UTF-16 units.

The text that an editor sends may hold halves of surrogate pairs on their own, which have no place in
UTF-16.  A token with one of them has no length, so that there are no numbers for the text at all
(`encodeText`).
-/

namespace Highlight.SemanticTokens

open Text

/-- The kinds of the tags that have one.  The first entry whose tag a token carries decides. -/
def kinds : List (String × String) := [
  ("index", "property"),
  ("keyword", "keyword"),
  ("string", "string"),
  ("number", "number"),
  ("method", "function"),
  ("constructor", "class"),
  ("parameter", "parameter"),
  ("enum", "enumMember"),
  ("var", "variable"),
  ("operator", "operator")]

/-- The kinds, each once. -/
def kindNames : List String := (kinds.map (·.2)).eraseDups

/-- The modifiers; each has the bit of its index. -/
def modifierNames : List String := ["readonly"]

/-- The index of the kind of a token and its modifiers; constants are read-only. -/
def classify (t : Token) : Option (Nat × Nat) :=
  (kinds.find? fun e => t.hasTag e.1).map fun e =>
    (kindNames.idxOf e.2, if t.hasTag "constant" then 1 else 0)

/-- Where encoding has come to: the place reached, and the start of the last piece given. -/
structure Cursor where
  line : Nat := 0
  char : Nat := 0
  lastLine : Nat := 0
  lastChar : Nat := 0

/-- The numbers of a piece without line feeds, for a token of the given kind. -/
def encodePiece (kind : Option (Nat × Nat)) (s : Cursor) (piece : List Char) : List Nat × Cursor :=
  let length := units16 (dropTrailing '\r' piece)
  let next := s.char + units16 piece
  match kind with
  | some (type, modifiers) =>
    if length = 0 then ([], { s with char := next })
    else
      let lines := s.line - s.lastLine
      let chars := if lines = 0 then s.char - s.lastChar else s.char
      ([lines, chars, length, type, modifiers],
        { line := s.line, char := next, lastLine := s.line, lastChar := s.char })
  | none => ([], { s with char := next })

/-- The numbers of the pieces of a token after its first one; each starts a new line. -/
def encodeLines (kind : Option (Nat × Nat)) (s : Cursor) : List (List Char) → List Nat × Cursor
  | [] => ([], s)
  | piece :: pieces =>
    let (data, s) := encodePiece kind { s with line := s.line + 1, char := 0 } piece
    let (more, s) := encodeLines kind s pieces
    (data ++ more, s)

/-- The numbers of a token. -/
def encodeToken (s : Cursor) (t : Token) : List Nat × Cursor :=
  match splitAtChar '\n' t.content with
  | [] => ([], s)
  | piece :: pieces =>
    let kind := classify t
    let (data, s) := encodePiece kind s piece
    let (more, s) := encodeLines kind s pieces
    (data ++ more, s)

/-- The numbers of tokens from a place on. -/
def encodeFrom (s : Cursor) : List Token → List Nat
  | [] => []
  | t :: ts =>
    let (data, s) := encodeToken s t
    data ++ encodeFrom s ts

/-- The numbers of the tokens of a text. -/
def encode (ts : List Token) : List Nat := encodeFrom {} ts

/-! ## Lone surrogates -/

/-- A code point of a text: a character, or half of a surrogate pair, counted from the first one. -/
inductive CodePoint where
  | char (c : Char)
  | surrogate (n : Fin 0x800)
  deriving DecidableEq, Repr

/-- The character that rules see in place of a code point.  The built-in rules tell none of the characters
beyond ASCII from another. -/
def CodePoint.seen : CodePoint → Char
  | .char c => c
  | .surrogate _ => '\uFFFD'

/-- The first surrogate of a text, and its offset. -/
def firstSurrogate? : List CodePoint → Option (Fin 0x800 × Nat)
  | [] => none
  | .surrogate n :: _ => some (n, 0)
  | .char _ :: rest => (firstSurrogate? rest).map fun (n, offset) => (n, offset + 1)

/-- A surrogate, and its offset in the piece that holds it. -/
structure Unencodable where
  surrogate : Fin 0x800
  offset : Nat
  deriving DecidableEq, Repr

/-- The wording of a failure to encode. -/
def Unencodable.message (e : Unencodable) : String :=
  let code := String.ofList (hexDigits 4 (0xD800 + e.surrogate))
  s!"'utf-16-le' codec can't encode character '\\u{code}' in position {e.offset}: surrogates not allowed"

/-- The offset in its piece of what has an offset in the text of the tokens. -/
def pieceOffset : List Token → (offset : Nat) → Nat
  | [], offset => offset
  | t :: ts, offset =>
    if offset < t.content.length then
      ((t.content.take offset).reverse.takeWhile (· ≠ '\n')).length
    else pieceOffset ts (offset - t.content.length)

/-- The numbers of the tokens of a text, if it can be encoded. -/
def encodeText (ts : List Token) (text : List CodePoint) : Except Unencodable (List Nat) :=
  match firstSurrogate? text with
  | none => .ok (encode ts)
  | some (n, offset) => .error ⟨n, pieceOffset ts offset⟩

end Highlight.SemanticTokens
