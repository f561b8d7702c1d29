import Highlight.Pattern.CharClass

/-!
# Patterns

The tree of a regular expression, and two measures on it: the width of the texts it can match and
whether it captures.
-/

namespace Highlight

/-- Conditions on a place in a text that consume nothing. -/
inductive Anchor where
  | textStart
  | lineStart
  | textEnd
  /-- The end of the text, or before a line feed that ends it. -/
  | finalLineEnd
  | lineEnd
  | wordBoundary
  | notWordBoundary
  deriving DecidableEq, Repr

/-- A regular expression. -/
inductive Pattern where
  /-- The empty text. -/
  | empty
  /-- One character of a class. -/
  | one (chars : CharClass)
  | seq (p q : Pattern)
  /-- Either pattern; the first is preferred. -/
  | alt (p q : Pattern)
  /-- From `lo` up to `hi` copies, as many as possible if `greedy`, else as few as possible. -/
  | times (lo : Nat) (hi : Option Nat) (greedy : Bool) (p : Pattern)
  /-- A capturing group. -/
  | group (index : Nat) (p : Pattern)
  /-- The text that a group holds. -/
  | backref (index : Nat) (foldCase : Bool)
  /-- The first way to match, with no other way tried if what comes after fails. -/
  | atomic (p : Pattern)
  /-- One pattern if a group has matched, and another one if not. -/
  | ifGroup (index : Nat) (p q : Pattern)
  | anchor (a : Anchor)
  /-- The text ahead matches, or does not match. -/
  | ahead (positive : Bool) (p : Pattern)
  /-- The `width` characters before match, or do not match. -/
  | behind (positive : Bool) (width : Nat) (p : Pattern)
  deriving DecidableEq, Repr

/-- The least and the greatest number of characters of a match; no greatest number if there is no
bound. -/
structure Width where
  lo : Nat
  hi : Option Nat
  deriving DecidableEq, Repr

namespace Width

/-- Texts of exactly `n` characters. -/
def exactly (n : Nat) : Width := ⟨n, some n⟩

/-- One text after the other. -/
def add (v w : Width) : Width :=
  ⟨v.lo + w.lo, match v.hi, w.hi with
    | some m, some n => some (m + n)
    | _, _ => none⟩

/-- Either of two texts. -/
def union (v w : Width) : Width :=
  ⟨min v.lo w.lo, match v.hi, w.hi with
    | some m, some n => some (max m n)
    | _, _ => none⟩

/-- From `lo` to `hi` texts; any number of empty texts is empty, and so is no text at all. -/
def times (lo : Nat) (hi : Option Nat) (w : Width) : Width :=
  ⟨w.lo * lo, match w.hi, hi with
    | some 0, _ => some 0
    | _, some 0 => some 0
    | some m, some n => some (m * n)
    | _, _ => none⟩

/-- The width of a text whose length is known in advance. -/
def fixed? (w : Width) : Option Nat := if w.hi = some w.lo then some w.lo else none

end Width

namespace Pattern

/-- The widths of the matches of a pattern, given those of the groups it refers to. -/
def width (groups : Nat → Width) : Pattern → Width
  | .empty => .exactly 0
  | .one _ => .exactly 1
  | .seq p q => (p.width groups).add (q.width groups)
  | .alt p q => (p.width groups).union (q.width groups)
  | .times lo hi _ p => (p.width groups).times lo hi
  | .group _ p => p.width groups
  | .backref i _ => groups i
  | .atomic p => p.width groups
  | .ifGroup _ p q => (p.width groups).union (q.width groups)
  | .anchor _ => .exactly 0
  | .ahead _ _ => .exactly 0
  | .behind _ _ _ => .exactly 0

/-- Whether a pattern holds a capturing group. -/
def captures : Pattern → Bool
  | .empty | .one _ | .backref _ _ | .anchor _ => false
  | .seq p q | .alt p q | .ifGroup _ p q => p.captures || q.captures
  | .times _ _ _ p | .atomic p | .ahead _ p | .behind _ _ p => p.captures
  | .group _ _ => true

/-- The character `c`. -/
def char (c : Char) : Pattern := .one (.single c)

/-- Characters of a class, as many as possible and at least `lo`. -/
def many (lo : Nat) (chars : CharClass) : Pattern := .times lo none true (.one chars)

/-- From `lo` up to `hi` copies, as many as possible and never fewer again; each copy is the first
way to match it. -/
def possessive (lo : Nat) (hi : Option Nat) (p : Pattern) : Pattern :=
  .atomic (.times lo hi true (.atomic p))

/-- A pattern that may be absent; presence is preferred. -/
def optional (p : Pattern) : Pattern := .times 0 (some 1) true p

/-- Patterns one after the other. -/
def concat : List Pattern → Pattern
  | [] => .empty
  | [p] => p
  | p :: ps => .seq p (concat ps)

/-- The characters `cs`, one after the other. -/
def word (cs : List Char) : Pattern := concat (cs.map char)

/-- The alternatives `p`, `ps`, in order of preference. -/
def choice (p : Pattern) : List Pattern → Pattern
  | [] => p
  | q :: ps => .alt p (choice q ps)

end Pattern

end Highlight
