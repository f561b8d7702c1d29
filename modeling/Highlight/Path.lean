/-!
# Paths

A path is an anchor — none, one slash, or exactly two — and the names after it.  Empty names and single
dots vanish when a path is read; double dots stay.
-/

namespace Highlight

/-- Where a path starts. -/
inductive PathRoot where
  | relative
  | absolute
  /-- Two leading slashes, which are kept apart from one. -/
  | doubleSlash
  deriving DecidableEq, Repr

/-- The text of an anchor. -/
def PathRoot.text : PathRoot → String
  | .relative => ""
  | .absolute => "/"
  | .doubleSlash => "//"

/-- A path in normal form. -/
structure Path where
  root : PathRoot
  names : List String
  deriving DecidableEq, Repr

namespace Path

/-- The current directory. -/
def here : Path := ⟨.relative, []⟩

/-- The anchor that leading slashes make. -/
def rootOf : List Char → PathRoot
  | '/' :: '/' :: '/' :: _ => .absolute
  | '/' :: '/' :: _ => .doubleSlash
  | '/' :: _ => .absolute
  | _ => .relative

/-- The names between slashes. -/
def splitNames : List Char → List (List Char)
  | [] => [[]]
  | '/' :: rest => [] :: splitNames rest
  | c :: rest =>
    match splitNames rest with
    | [] => [[c]]
    | name :: names => (c :: name) :: names

/-- The path of a text. -/
def ofString (s : String) : Path :=
  let cs := s.toList
  let names := (splitNames cs).filter fun name => name != [] && name != ['.']
  ⟨rootOf cs, names.map String.ofList⟩

/-- The text of a path; the current directory is a dot. -/
def toString (p : Path) : String :=
  match p.root, p.names with
  | .relative, [] => "."
  | root, names => root.text ++ "/".intercalate names

/-- The last name, empty if there is none. -/
def name (p : Path) : String := p.names.getLast?.getD ""

/-- A name cut before its last dot, unless that is its first or its last character. -/
def splitName (name : String) : String × String :=
  let back := name.toList.reverse
  let ext := back.takeWhile (· ≠ '.')
  match back.dropWhile (· ≠ '.') with
  | [] => (name, "")
  | dot :: stem =>
    if stem.isEmpty || ext.isEmpty then (name, "")
    else (String.ofList stem.reverse, String.ofList (dot :: ext.reverse))

/-- The extension of the last name, with its dot; empty if there is none. -/
def suffix (p : Path) : String := (splitName p.name).2

/-- The last name without its extension. -/
def stem (p : Path) : String := (splitName p.name).1

/-- The directory that a path lies in. -/
def parent (p : Path) : Path := { p with names := p.names.dropLast }

/-- A path seen from a directory; an anchored path stays as it is. -/
def join (dir p : Path) : Path :=
  match p.root with
  | .relative => ⟨dir.root, dir.names ++ p.names⟩
  | _ => p

end Path

end Highlight
