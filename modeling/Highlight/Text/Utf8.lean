/-!
# Decoding UTF-8

Bytes are decoded from left to right.  The first sequence that is no character is the error: it starts at
a byte that starts none, or ends where a byte does not continue it or where the bytes end.
-/

namespace Highlight.Text

/-- Why a sequence of bytes is no character. -/
inductive Utf8Fault where
  | invalidStart
  | invalidContinuation
  | unexpectedEnd
  deriving DecidableEq, Repr

/-- The wording of a fault. -/
def Utf8Fault.message : Utf8Fault → String
  | .invalidStart => "invalid start byte"
  | .invalidContinuation => "invalid continuation byte"
  | .unexpectedEnd => "unexpected end of data"

/-- An error in a text: the fault, the offset and the first byte of the sequence, and the number of bytes
that belong to it. -/
structure Utf8Error where
  fault : Utf8Fault
  start : Nat
  byte : UInt8
  count : Nat
  deriving DecidableEq, Repr

/-- The wording of an error. -/
def Utf8Error.message (e : Utf8Error) : String :=
  let digit (n : Nat) : Char := if n < 10 then Char.ofNat (0x30 + n) else Char.ofNat (0x61 + n - 10)
  let hex := String.ofList [digit (e.byte.toNat / 16), digit (e.byte.toNat % 16)]
  let place :=
    if e.count = 1 then s!"byte 0x{hex} in position {e.start}"
    else s!"bytes in position {e.start}-{e.start + e.count - 1}"
  s!"'utf-8' codec can't decode {place}: {e.fault.message}"

/-- The lead of a sequence: the bits it gives, the number of bytes that follow, and the bounds of the first
of them. -/
structure Utf8Lead where
  bits : Nat
  follow : Nat
  lo : Nat := 0x80
  hi : Nat := 0xBF

/-- The lead that a byte is, if any.  The bounds exclude longer forms than needed, surrogates and numbers
beyond the last code point. -/
def utf8Lead? (b : Nat) : Option Utf8Lead :=
  if b < 0x80 then some { bits := b, follow := 0 }
  else if b < 0xC2 then none
  else if b < 0xE0 then some { bits := b - 0xC0, follow := 1 }
  else if b = 0xE0 then some { bits := 0, follow := 2, lo := 0xA0 }
  else if b = 0xED then some { bits := 0xD, follow := 2, hi := 0x9F }
  else if b < 0xF0 then some { bits := b - 0xE0, follow := 2 }
  else if b = 0xF0 then some { bits := 0, follow := 3, lo := 0x90 }
  else if b < 0xF4 then some { bits := b - 0xF0, follow := 3 }
  else if b = 0xF4 then some { bits := 4, follow := 3, hi := 0x8F }
  else none

/-- Reads `follow` more bytes of a sequence of which `count` have been read; the first one has to lie
between `lo` and `hi`.  The result is the number they give and the bytes left. -/
def utf8Continue (lo hi : Nat) : (follow : Nat) → (count : Nat) → (bits : Nat) → List UInt8 →
    Except (Utf8Fault × Nat) (Nat × List UInt8)
  | 0, _, bits, rest => .ok (bits, rest)
  | _ + 1, count, _, [] => .error (.unexpectedEnd, count)
  | follow + 1, count, bits, b :: rest =>
    if lo ≤ b.toNat ∧ b.toNat ≤ hi then
      utf8Continue 0x80 0xBF follow (count + 1) (64 * bits + (b.toNat - 0x80)) rest
    else .error (.invalidContinuation, count)

/-- The characters of bytes that start at an offset; there are at most `steps`. -/
def decodeUtf8From : (steps : Nat) → (start : Nat) → List UInt8 → Except Utf8Error (List Char)
  | _, _, [] => .ok []
  | 0, _, _ :: _ => .ok []
  | steps + 1, start, b :: rest =>
    match utf8Lead? b.toNat with
    | none => .error ⟨.invalidStart, start, b, 1⟩
    | some lead =>
      match utf8Continue lead.lo lead.hi lead.follow 1 lead.bits rest with
      | .error (fault, count) => .error ⟨fault, start, b, count⟩
      | .ok (n, rest) =>
        match decodeUtf8From steps (start + lead.follow + 1) rest with
        | .error e => .error e
        | .ok cs => .ok (Char.ofNat n :: cs)

/-- The text that bytes denote. -/
def decodeUtf8 (bytes : List UInt8) : Except Utf8Error (List Char) :=
  decodeUtf8From bytes.length 0 bytes

/-- The bytes of a text. -/
def encodeUtf8 (cs : List Char) : List UInt8 := cs.flatMap String.utf8EncodeChar

/-- A text in which every line ends in a line feed: a carriage return, with the line feed after it if
there is one, is one line feed. -/
def unifyLineEnds : List Char → List Char
  | [] => []
  | '\r' :: '\n' :: rest => '\n' :: unifyLineEnds rest
  | '\r' :: rest => '\n' :: unifyLineEnds rest
  | c :: rest => c :: unifyLineEnds rest

end Highlight.Text
