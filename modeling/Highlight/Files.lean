import Highlight.Crash
import Highlight.Path
import Highlight.Text.Quoted
import Highlight.Text.Utf8

/-!
# Files

A tree of files below a current directory, as a program sees it: what reading, writing and asking for the
time of change do, and how they fail.  Nothing outside the tree is known.

Beside what lies in the tree, the system may refuse to use it, for want of permission or of a working
disk; what it refuses is part of the state of the files (`Files.refuses`).  A path that is too long is
refused in any tree, and one that holds the null character is no path at all (`Crash.nullCharacter`).
-/

namespace Highlight

open Text

/-- Why a file cannot be used. -/
inductive FileFault where
  | notFound
  | notDirectory
  | isDirectory
  | nameTooLong
  /-- Any other fault, with its number and wording. -/
  | refused (number : Nat) (reason : String)
  deriving DecidableEq, Repr

namespace FileFault

/-- The number of a fault. -/
def number : FileFault → Nat
  | .notFound => 2
  | .notDirectory => 20
  | .isDirectory => 21
  | .nameTooLong => 36
  | .refused number _ => number

/-- The wording of a fault. -/
def reason : FileFault → String
  | .notFound => "No such file or directory"
  | .notDirectory => "Not a directory"
  | .isDirectory => "Is a directory"
  | .nameTooLong => "File name too long"
  | .refused _ reason => reason

/-- The want of permission. -/
def denied : FileFault := .refused 13 "Permission denied"

/-- Whether a fault says that there is nothing at a path: no file, no directory on the way, a bad
descriptor or a loop of links. -/
def isAbsence (f : FileFault) : Bool := [2, 20, 9, 40].contains f.number

end FileFault

/-- A fault, and the path that was used. -/
structure FileError where
  fault : FileFault
  path : Path
  deriving DecidableEq, Repr

/-- The wording of an error. -/
def FileError.message (e : FileError) : String :=
  s!"[Errno {e.fault.number}] {e.fault.reason}: {quoted e.path.toString}"

/-- Why using a file fails. -/
inductive FileFailure where
  | error (e : FileError)
  | crash (c : Crash)
  deriving DecidableEq, Repr

/-- What a file or a directory is used for. -/
inductive Access where
  /-- To look for a name in a directory. -/
  | search
  /-- To ask what lies at a place. -/
  | status
  | read
  | write
  deriving DecidableEq, Repr

/-- When a file was changed: at a time given from outside, or by the program's own writing of a certain
number, which is like no other time. -/
inductive Stamp where
  | time (t : Int)
  | written (n : Nat)
  deriving DecidableEq, Repr

/-- What lies at a place of the tree. -/
inductive Node where
  | file (bytes : List UInt8) (stamp : Stamp)
  | directory (stamp : Stamp)
  deriving DecidableEq, Repr

/-- When a node was changed. -/
def Node.stamp : Node → Stamp
  | .file _ s => s
  | .directory s => s

/-- Whether a node is a directory. -/
def Node.isDirectory : Node → Bool
  | .file _ _ => false
  | .directory _ => true

/-- A tree of files: its nodes by the names that lead to them, and how often the program has written.  A
place is a list of names from the current directory on; it may start with double dots, or with a slash
for the root. -/
structure Files where
  nodes : List (List String × Node) := []
  /-- When the directories that always exist were changed. -/
  topStamps : List String → Stamp := fun _ => .time 1
  /-- What the system refuses to do at a place.  A refusal changes nothing. -/
  refuses : Access → List String → Option FileFault := fun _ _ => none
  writes : Nat := 0

namespace Files

/-- The current directory, those above it, and the root, which always exist. -/
def isTop (names : List String) : Bool := names.all (· == "..") || names == ["/"]

/-- What lies at a place. -/
def node? (fs : Files) (names : List String) : Option Node :=
  if isTop names then some (.directory (fs.topStamps names)) else fs.nodes.lookup names

/-- The place of the directory that a directory lies in. -/
def above (names : List String) : List String :=
  if names == ["/"] then names
  else if isTop names then ".." :: names
  else names.dropLast

/-- The tree with a node at a place. -/
def setNode (fs : Files) (names : List String) (n : Node) : Files :=
  { fs with nodes := (names, n) :: fs.nodes.filter (·.1 ≠ names) }

/-- The tree with a node, and the directories that lead to it, made at the time of the node. -/
def add (fs : Files) (names : List String) (n : Node) : Files :=
  let parents := (List.range (names.length - 1)).map fun k => names.take (k + 1)
  let fs := parents.foldl (fun fs d =>
    match fs.node? d with
    | none => fs.setNode d (.directory n.stamp)
    | some _ => fs) fs
  fs.setNode names n

/-- The tree without a node. -/
def remove (fs : Files) (names : List String) : Files :=
  { fs with nodes := fs.nodes.filter (·.1 ≠ names) }

/-- The greatest number of bytes of a name. -/
def nameLimit : Nat := 255

/-- The greatest number of bytes of a path. -/
def pathLimit : Nat := 4095

/-- The place that names lead to from a place.  Every name but the last has to be that of a directory. -/
def resolve (fs : Files) : (place : List String) → List String → Except FileFault (List String)
  | place, [] => .ok place
  | place, name :: rest =>
    match fs.node? place with
    | none => .error .notFound
    | some (.file _ _) => .error .notDirectory
    | some (.directory _) =>
      match fs.refuses .search place with
      | some fault => .error fault
      | none =>
        if nameLimit < (encodeUtf8 name.toList).length then .error .nameTooLong
        else if name = ".." then fs.resolve (above place) rest
        else fs.resolve (place ++ [name]) rest

/-- The place where a path starts. -/
def base (p : Path) : List String :=
  match p.root with
  | .relative => []
  | _ => ["/"]

/-- The place of a path. -/
def locate (fs : Files) (p : Path) : Except FileFault (List String) :=
  if pathLimit < (encodeUtf8 p.toString.toList).length then .error .nameTooLong
  else fs.resolve (base p) p.names

/-- The node of a path, and its place, to be used in some way. -/
def find (fs : Files) (access : Access) (p : Path) : Except FileFault (List String × Node) :=
  match fs.locate p with
  | .error fault => .error fault
  | .ok names =>
    match fs.node? names with
    | none => .error .notFound
    | some n =>
      match fs.refuses access names with
      | some fault => .error fault
      | none => .ok (names, n)

/-- Whether a path holds the null character. -/
def hasNull (p : Path) : Bool := p.toString.toList.contains '\x00'

/-- Whether a path leads to a file.  Where that cannot be found out for another reason than that nothing is
there, it is an error. -/
def isFile (fs : Files) (p : Path) : Except FileError Bool :=
  if hasNull p then .ok false
  else match fs.find .status p with
    | .ok (_, n) => .ok (!n.isDirectory)
    | .error fault => if fault.isAbsence then .ok false else .error ⟨fault, p⟩

/-- The bytes of a file. -/
def read (fs : Files) (p : Path) : Except FileFailure (List UInt8) :=
  if hasNull p then .error (.crash .nullCharacter)
  else match fs.find .read p with
    | .ok (_, .file bytes _) => .ok bytes
    | .ok (_, .directory _) => .error (.error ⟨.isDirectory, p⟩)
    | .error fault => .error (.error ⟨fault, p⟩)

/-- When the file or directory of a path was changed. -/
def stamp (fs : Files) (p : Path) : Except FileFailure Stamp :=
  if hasNull p then .error (.crash .nullCharacter)
  else match fs.find .status p with
    | .ok (_, n) => .ok n.stamp
    | .error fault => .error (.error ⟨fault, p⟩)

/-- The tree after a file has been written, whether or not it was there before.  The times of directories
stay: the program asks for no time but that of its input, and only writes after it has read that as a
file. -/
def write (fs : Files) (p : Path) (bytes : List UInt8) : Except FileFailure Files :=
  if hasNull p then .error (.crash .nullCharacter)
  else match fs.locate p with
    | .error fault => .error (.error ⟨fault, p⟩)
    | .ok names =>
      if (fs.node? names).any Node.isDirectory then .error (.error ⟨.isDirectory, p⟩)
      else match fs.refuses .write names with
        | some fault => .error (.error ⟨fault, p⟩)
        | none =>
          .ok { fs.setNode names (.file bytes (.written fs.writes)) with writes := fs.writes + 1 }

/-- The text of a place. -/
def placeText : List String → String
  | "/" :: names => "/" ++ "/".intercalate names
  | names => "/".intercalate names

/-- The files of a tree that another lacks or has with other bytes, in the order of their paths. -/
def changedSince (fs old : Files) : List (String × List UInt8) :=
  let changed := fs.nodes.filterMap fun (names, n) =>
    match n, old.node? names with
    | .file bytes _, some (.file before _) =>
      if bytes = before then none else some (placeText names, bytes)
    | .file bytes _, _ => some (placeText names, bytes)
    | .directory _, _ => none
  changed.mergeSort fun a b => decide (a.1 ≤ b.1)

end Files

end Highlight
