import Highlight.Main
import Highlight.CommandLine.Watch
import Highlight.Dump
import Highlight.Editor.Workspace
import Highlight.Grammar.Custom
import Highlight.Style.Render
import Highlight.Style.ThemeData
import Highlight.Text.Replace
import Highlight.Proofs.Pattern.Language
import Highlight.Proofs.Selection
import Highlight.Proofs.Split.Recursion
import Highlight.Proofs.Split.Coverage
import Highlight.Proofs.Tokenize
import Highlight.Proofs.Grammar.Builtin
import Highlight.Proofs.Grammar.Calls
import Highlight.Proofs.Grammar.Strings
import Highlight.Proofs.Diagnostic
import Highlight.Proofs.Pattern.Shift
import Highlight.Proofs.Split.Layers
import Highlight.Proofs.Editor.Decoding
import Highlight.Proofs.Style.PlainText
import Highlight.Proofs.Split.Failure
import Highlight.Proofs.CommandLine.Exit
import Highlight.Proofs.CommandLine.Rendering
import Highlight.Proofs.CommandLine.Request
import Highlight.Proofs.Grammar.Tags
import Highlight.Proofs.Grammar.Registration
import Highlight.Proofs.CommandLine.Watching
import Highlight.Proofs.Style.Merging
import Highlight.Proofs.Editor.Cells
import Highlight.Proofs.Files
import Highlight.Proofs.Text.Utf8
import Highlight.Proofs.CommandLine.Output
import Highlight.Proofs.Grammar.History
import Highlight.Proofs.Acceptance
import Highlight.Proofs.Driving
import Highlight.Proofs.Editor.Session
import Highlight.Proofs.Style.ThemeData
import Highlight.Proofs.CommandLine.ThemeFile
import Highlight.Proofs.Grammar.Unmatched
import Highlight.Proofs.Split.Rounds
import Highlight.Proofs.CommandLine.Settings
import Highlight.Proofs.Text.Quoted
import Highlight.Proofs.Dump
import Highlight.Proofs.Text.Position
