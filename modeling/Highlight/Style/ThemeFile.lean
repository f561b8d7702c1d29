import Highlight.Files
import Highlight.Style.ThemeData

/-!
# Theme files

A theme is asked for by the name of a built-in one or by the path of a file.  The errors of themes tell
of a file that cannot be read, is malformed or gives no theme.  Three failures are none of them: bytes
that are no text, a path of which it cannot be found out whether it leads to a file, and a crash.
-/

namespace Highlight

open Text

/-- Why a theme is not available. -/
inductive ThemeFileError where
  | theme (e : ThemeError)
  | undecodable (e : Utf8Error)
  /-- It cannot be found out whether a file is meant. -/
  | file (e : FileError)
  | crash (c : Crash)
  deriving DecidableEq, Repr

namespace Theme

/-- The theme in a file. -/
def load (stack : Stack) (fs : Files) (path : Path) : Except ThemeFileError Theme :=
  match fs.read path with
  | .error (.error e) => .error (.theme ⟨.unreadableFile e.fault.reason, some path⟩)
  | .error (.crash c) => .error (.crash c)
  | .ok bytes =>
    match decodeUtf8 bytes with
    | .error e => .error (.undecodable e)
    | .ok text =>
      match Toml.read stack text with
      | .error (.malformed e) => .error (.theme ⟨.invalidFile e, some path⟩)
      | .error (.crash c) => .error (.crash c)
      | .ok data =>
        match ofData stack.showing data path.stem (some path) with
        | .error (.theme e) => .error (.theme e)
        | .error (.crash c) => .error (.crash c)
        | .ok theme => .ok theme

/-- Whether a text that asks for a theme means a file. -/
def isFileSpec (fs : Files) (spec : String) : Except FileError Bool :=
  if ".toml".toList.isSuffixOf spec.toList then .ok true else fs.isFile (.ofString spec)

/-- The theme that a text asks for; the dark one if there is none. -/
def resolve (stack : Stack) (fs : Files) (spec : Option String) : Except ThemeFileError Theme :=
  match spec with
  | none => .ok dark
  | some spec =>
    match isFileSpec fs spec with
    | .error e => .error (.file e)
    | .ok true => load stack fs (.ofString spec)
    | .ok false =>
      match named spec with
      | .error e => .error (.theme e)
      | .ok theme => .ok theme

end Theme

end Highlight
