import Highlight.Pattern.Basic

/-!
# Matching by backtracking

`Pattern.run` looks for a match that starts at a given place and after which a continuation
succeeds.  Preferences are tried in order — left alternative first, one copy more first for greedy
repetition, one copy less first for lazy repetition — and the first way through is the match.  An
atomic group commits to its own first way, whatever the continuation makes of it.  A way that fails
leaves the groups as they were before it, also inside a possessive repetition.

## Termination

`run` recurses on the pattern.  Repetition is split in two loops.  The copies that must be there
(`iterate`) are counted down.  Further copies (`extend`) are tried only at a place where the copy
before did not start, so all of them but the last consume a character; as many copies as there are
characters left, and one, always suffice.
-/

namespace Highlight

/-- What a group has matched: the offsets of both ends, and the text from its start on. -/
structure Capture where
  start : Nat
  stop : Nat
  tail : List Char
  deriving DecidableEq, Repr

/-- The text of a group. -/
def Capture.text (g : Capture) : List Char := g.tail.take (g.stop - g.start)

/-- How far a match has come: the text before (nearest character first) and after the place reached,
the offset of that place, and the groups matched so far, the latest first. -/
structure Progress where
  before : List Char
  rest : List Char
  offset : Nat
  groups : List (Nat × Capture)
  deriving DecidableEq, Repr

namespace Progress

/-- The start of a text. -/
def start (text : List Char) : Progress := ⟨[], text, 0, []⟩

/-- Past the character `c`, before the rest `rest`. -/
def past (s : Progress) (c : Char) (rest : List Char) : Progress :=
  { s with before := c :: s.before, rest := rest, offset := s.offset + 1 }

/-- `n` characters ahead. -/
def forward (s : Progress) (n : Nat) : Progress :=
  { s with before := (s.rest.take n).reverse ++ s.before, rest := s.rest.drop n,
           offset := s.offset + n }

/-- `n` characters back, if there are as many. -/
def back? (s : Progress) (n : Nat) : Option Progress :=
  if s.before.length < n then none
  else some { s with before := s.before.drop n, rest := (s.before.take n).reverse ++ s.rest,
                     offset := s.offset - n }

/-- What group `i` holds. -/
def group? (s : Progress) (i : Nat) : Option Capture := s.groups.lookup i

/-- Group `i` has matched from `s` to `t`. -/
def record (t : Progress) (i : Nat) (s : Progress) : Progress :=
  { t with groups := (i, ⟨s.offset, t.offset, s.rest⟩) :: t.groups }

end Progress

/-- Whether the character next to a place, if there is one, belongs to a word. -/
def wordNext : List Char → Bool
  | [] => false
  | c :: _ => isWordChar c

/-- Whether an anchor holds at a place.  In the empty text neither word anchor holds. -/
def Anchor.holds (a : Anchor) (s : Progress) : Bool :=
  match a with
  | .textStart => s.before.isEmpty
  | .lineStart => s.before.isEmpty || s.before.head? == some '\n'
  | .textEnd => s.rest.isEmpty
  | .finalLineEnd => s.rest.isEmpty || s.rest == ['\n']
  | .lineEnd => s.rest.isEmpty || s.rest.head? == some '\n'
  | .wordBoundary =>
    !(s.before.isEmpty && s.rest.isEmpty) && wordNext s.before != wordNext s.rest
  | .notWordBoundary =>
    !(s.before.isEmpty && s.rest.isEmpty) && wordNext s.before == wordNext s.rest

/-- Whether two characters are equal, possibly without regard to ASCII case. -/
def sameChar (foldCase : Bool) (c d : Char) : Bool :=
  c == d || (foldCase && c.toLower == d.toLower)

/-- Whether the text at a place starts with `text`. -/
def startsWith (foldCase : Bool) : (text rest : List Char) → Bool
  | [], _ => true
  | _ :: _, [] => false
  | c :: text, d :: rest => sameChar foldCase c d && startsWith foldCase text rest

/-- A search for a way to go on from a place. -/
abbrev Search := Progress → Option Progress

/-- `n` copies of `body`. -/
def iterate (body : Progress → Search → Option Progress) :
    (n : Nat) → Progress → Search → Option Progress
  | 0, s, k => k s
  | n + 1, s, k => body s fun t => iterate body n t k

/-- Up to `n` further copies of `body`; none at the place `last`, where the copy before started. -/
def extend (body : Progress → Search → Option Progress) (greedy : Bool) :
    (n : Nat) → (last : Option Nat) → Progress → Search → Option Progress
  | 0, _, s, k => k s
  | n + 1, last, s, k =>
    if last = some s.offset then k s
    else if greedy then
      body s (fun t => extend body greedy n (some s.offset) t k) <|> k s
    else k s <|> body s fun t => extend body greedy n (some s.offset) t k

/-- The number of further copies worth trying after the `lo` first ones. -/
def furtherCopies (lo : Nat) (hi : Option Nat) (s : Progress) : Nat :=
  match hi with
  | none => s.rest.length + 1
  | some hi => min (hi - lo) (s.rest.length + 1)

namespace Pattern

/-- The first way to match a pattern from a place on so that `k` succeeds after it. -/
def run : Pattern → Progress → Search → Option Progress
  | .empty, s, k => k s
  | .one chars, s, k =>
    match s.rest with
    | [] => none
    | c :: rest => if chars.contains c then k (s.past c rest) else none
  | .seq p q, s, k => p.run s fun t => q.run t k
  | .alt p q, s, k => p.run s k <|> q.run s k
  | .times lo hi greedy p, s, k =>
    iterate (fun t l => p.run t l) lo s fun t =>
      extend (fun t l => p.run t l) greedy (furtherCopies lo hi t) none t k
  | .group i p, s, k => p.run s fun t => k (t.record i s)
  | .backref i foldCase, s, k =>
    match s.group? i with
    | none => none
    | some g =>
      if startsWith foldCase g.text s.rest then k (s.forward g.text.length) else none
  | .atomic p, s, k =>
    match p.run s some with
    | none => none
    | some t => k t
  | .ifGroup i p q, s, k => if (s.group? i).isSome then p.run s k else q.run s k
  | .anchor a, s, k => if a.holds s then k s else none
  | .ahead positive p, s, k =>
    match p.run s some with
    | some t => if positive then k { s with groups := t.groups } else none
    | none => if positive then none else k s
  | .behind positive width p, s, k =>
    match (s.back? width).bind fun t => p.run t some with
    | some t => if positive then k { s with groups := t.groups } else none
    | none => if positive then none else k s

/-- A match found in a text: where it starts, and how it ended. -/
structure Found where
  start : Nat
  final : Progress

/-- The match that starts at the start of `text`. -/
def matchStart (p : Pattern) (text : List Char) : Option Found :=
  (p.run (.start text) some).map (⟨0, ·⟩)

/-- The leftmost match at or after a place, given by the text on both sides and its offset. -/
def searchFrom (p : Pattern) (before : List Char) : List Char → Nat → Option Found
  | [], offset => (p.run ⟨before, [], offset, []⟩ some).map (⟨offset, ·⟩)
  | c :: rest, offset =>
    match p.run ⟨before, c :: rest, offset, []⟩ some with
    | some t => some ⟨offset, t⟩
    | none => p.searchFrom (c :: before) rest (offset + 1)

/-- The leftmost match in `text`. -/
def search (p : Pattern) (text : List Char) : Option Found := p.searchFrom [] text 0

/-- Whether the empty text matches. -/
def matchesEmpty (p : Pattern) : Bool := (p.matchStart []).isSome

end Pattern

end Highlight
