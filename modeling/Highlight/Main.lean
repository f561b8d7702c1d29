import Highlight.CommandLine.Watch

/-!
# The program

The outer layer: it looks at the files that a run may read or write, lets the run happen on them, and
carries out what the run has done.
-/

namespace Highlight.Main

open CommandLine

/-- The stacks of a run, with room for a thousand calls each. -/
def frames : Stacks := .ofCalls 1000

/-- The tree with a file that is there but may not be read. -/
def setUnreadable (fs : Files) (names : List String) (stamp : Stamp) : Files :=
  { fs.setNode names (.file [] stamp) with
    refuses := fun access place =>
      if access = .read ∧ place = names then some .denied else fs.refuses access place }

/-- The entry of a place in its directory. -/
def entryOf (names : List String) : IO.FS.DirEntry :=
  { root := ".", fileName := Files.placeText names }

/-- The tree with the file that lies at a place now. -/
def loadFile (fs : Files) (names : List String) (stamp : Stamp) : IO Files := do
  try
    let bytes ← IO.FS.readBinFile (entryOf names).path
    return fs.setNode names (.file bytes.toList stamp)
  catch _ => return setUnreadable fs names stamp

/-- The tree with what lies at a place now. -/
def loadPlace (fs : Files) (names : List String) : IO Files := do
  try
    let data ← (entryOf names).path.metadata
    let time := data.modified
    let stamp := Stamp.time (time.sec * 1000000000 + time.nsec.toNat)
    match data.type with
    | .dir => return fs.setNode names (.directory stamp)
    | _ => loadFile fs names stamp
  catch _ => return fs.remove names

/-- The places on the way to a path and that of the path, as far as its names tell. -/
def placesOf (p : Path) : List (List String) :=
  let step (place : List String) (name : String) : List String :=
    if name = ".." then Files.above place else place ++ [name]
  (List.range p.names.length).map fun k => (p.names.take (k + 1)).foldl step (Files.base p)

/-- The tree with what lies at a path and on the way to it. -/
def loadPath (fs : Files) (p : Path) : IO Files := (placesOf p).foldlM loadPlace fs

/-- The files that a run with these settings may use. -/
def pathsOf (o : Options) : List Path :=
  o.input.toList ++ o.output.toList ++ o.theme.toList.map .ofString

/-- The files that a run with these arguments may use. -/
def loadFiles (argv : List String) : IO Files := do
  match Arguments.ofList argv with
  | .error _ => return {}
  | .ok a =>
    let fs ← loadPath {} a.configPath
    match a.resolve frames.config fs with
    | .ok (_, .ok o) => (pathsOf o).foldlM loadPath fs
    | _ => return fs

/-- All bytes of a stream. -/
partial def readAll (stream : IO.FS.Stream) (found : ByteArray := .empty) : IO ByteArray := do
  let bytes ← stream.read 65536
  if bytes.isEmpty then return found else readAll stream (found ++ bytes)

/-- The standard input, if a run with these arguments reads it. -/
def loadInput (argv : List String) : IO (List UInt8) := do
  match Arguments.ofList argv with
  | .ok a =>
    if a.inputPath.isNone && !a.list && !a.watch then
      return (← readAll (← IO.getStdin)).toList
    else return []
  | .error _ => return []

/-- What is said about an error that breaks a run off. -/
def breakMessage : Break → String
  | .undecodable e => e.message
  | .file e => e.message
  | .options e => e.message
  | .crash c => c.message

/-- Carries out what a run has done, and gives its exit code. -/
def perform (before : Files) (e : Effect) : IO UInt32 := do
  for (path, bytes) in e.files.changedSince before do
    IO.FS.writeBinFile path ⟨bytes.toArray⟩
  IO.print (String.ofList e.stdout)
  (← IO.getStdout).flush
  IO.eprint e.stderr
  match e.exit with
  | .ok code => return code.toUInt32
  | .error b =>
    IO.eprintln (breakMessage b)
    return 1

/-- Watches the input for ever, or until a look breaks off. -/
partial def watch (o : Options) (input : Path) (w : Watching) : IO UInt32 := do
  let fs ← (pathsOf o).foldlM loadPath {}
  let (e, w) := o.look frames.theme .builtin fs input w
  let code ← perform fs e
  match e.exit with
  | .error _ => return code
  | .ok _ =>
    IO.sleep 500
    watch o input w

end Highlight.Main

open Highlight Highlight.CommandLine Highlight.Main in
/-- Runs the program with the arguments of the command line. -/
def main (argv : List String) : IO UInt32 := do
  let fs ← loadFiles argv
  match request frames.config argv .builtin fs with
  | .done e => perform fs e
  | .once log o =>
    let stdin ← loadInput argv
    perform fs ((o.runOnce frames.theme .builtin fs stdin).after log)
  | .watch log o input =>
    IO.eprint (log ++ watchingLine input)
    watch o input {}
