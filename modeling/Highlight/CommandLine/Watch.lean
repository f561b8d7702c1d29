import Highlight.CommandLine.Run

/-!
# Watching the input

A run that watches looks at the time of change of its input again and again, and renders the input
whenever the time is not the one it saw before.  Between two looks other programs may change the files.
Errors of grammars, themes and texts are reported and watching goes on; a failure to read or to write
and a crash break it off.
-/

namespace Highlight.CommandLine

open Text

/-- The state of watching: the time of change seen last. -/
structure Watching where
  last : Stamp := .time 0
  deriving DecidableEq, Repr

/-- A rendering of the input, with what is said about it. -/
def Options.renderChange (stack : Stack) (o : Options) (r : Registry) (fs : Files) (input : Path) :
    Effect :=
  let report (message : String) : Effect := { exit := .ok 0, stderr := message ++ "\n", files := fs }
  match o.render stack r fs [] with
  | .ok rendered =>
    let e := (o.deliver fs rendered.text).after rendered.log
    match e.exit with
    | .ok _ => { e with stderr := s!"{e.stderr}Rendered {input.toString}\n" }
    | .error _ => e
  | .error (.grammar e) => report e.report
  | .error (.theme e) => report e.report
  | .error (.undecodable e) => report (undecodableReport (some input) e)
  | .error (.unreadable e) => { exit := .error (.file e), files := fs }
  | .error (.options e) => { exit := .error (.options e), files := fs }
  | .error (.crash c) => { exit := .error (.crash c), files := fs }

/-- One look at the input.  An input whose time cannot be told is left for the next look. -/
def Options.look (stack : Stack) (o : Options) (r : Registry) (fs : Files) (input : Path)
    (w : Watching) : Effect × Watching :=
  match fs.stamp input with
  | .error (.error _) => ({ exit := .ok 0, files := fs }, w)
  | .error (.crash c) => ({ exit := .error (.crash c), files := fs }, w)
  | .ok stamp =>
    if stamp = w.last then ({ exit := .ok 0, files := fs }, w)
    else (o.renderChange stack r fs input, ⟨stamp⟩)

/-- A change that another program makes to the files. -/
inductive Edit where
  | write (names : List String) (bytes : List UInt8) (time : Int)
  | delete (names : List String)
  /-- Any other change, given by its result. -/
  | become (files : Files)

/-- The files after a change. -/
def Edit.apply (fs : Files) : Edit → Files
  | .write names bytes time => fs.add names (.file bytes (.time time))
  | .delete names => fs.remove names
  | .become files => files

/-- Looks at the input, then lets the next changes happen, until there are none left.  The result lists
what each look did, and whether one of them broke off. -/
def Options.watchFrom (stack : Stack) (o : Options) (r : Registry) (input : Path) (w : Watching)
    (fs : Files) (log : String) : List (List Edit) → List (Files × Effect) × Except Break Nat
  | [] =>
    let (e, _) := o.look stack r fs input w
    ([(fs, e.after log)], e.exit)
  | edits :: later =>
    let (e, w) := o.look stack r fs input w
    match e.exit with
    | .error b => ([(fs, e.after log)], .error b)
    | .ok _ =>
      let (looks, exit) := o.watchFrom stack r input w (edits.foldl Edit.apply e.files) "" later
      ((fs, e.after log) :: looks, exit)

/-- What a run says before it watches. -/
def watchingLine (input : Path) : String := s!"Watching {input.toString} for changes...\n"

/-- A run of the program during which other programs change the files.  The result lists the files before
each part of the run and what the part did, and how the run ended. -/
def runWatched (frames : Stacks) (argv : List String) (r : Registry) (fs : Files) (stdin : List UInt8)
    (changes : List (List Edit)) : List (Files × Effect) × Except Break Nat :=
  match request frames.config argv r fs with
  | .done e => ([(fs, e)], e.exit)
  | .once log o =>
    let e := (o.runOnce frames.theme r fs stdin).after log
    ([(fs, e)], e.exit)
  | .watch log o input =>
    o.watchFrom frames.theme r input {} fs (log ++ watchingLine input) changes

/-- A run of the program while nothing else happens; to watch is to look once. -/
def run (frames : Stacks) (argv : List String) (r : Registry) (fs : Files) (stdin : List UInt8) :
    Effect :=
  match request frames.config argv r fs with
  | .done e => e
  | .once log o => (o.runOnce frames.theme r fs stdin).after log
  | .watch log o input =>
    (o.look frames.theme r fs input {}).1.after (log ++ watchingLine input)

end Highlight.CommandLine
