import Highlight.Editor.SemanticTokens
import Highlight.Grammar.Registry

/-!
# Open documents

An editor opens documents, replaces their texts, closes them, and asks for their semantic tokens.  The
language that the editor names decides on the grammar if it is known; else the extension of the document
does.  A document without a grammar has no tokens.

The documents are kept by the library that speaks with the editor.  What it does with the messages is not
part of the program: it is a parameter, `Workspace`, of which the table of open documents is one instance.
-/

namespace Highlight

open SemanticTokens

/-- A document. -/
structure Document where
  /-- The language that the editor names; empty for none. -/
  language : String
  text : List CodePoint
  deriving DecidableEq, Repr

namespace Document

/-- The grammar for a document. -/
def grammarFor (r : Registry) (language uri : String) : Except GrammarError (Option Grammar) :=
  if language ≠ "" && r.knows language then (r.get language).map some
  else r.forPath (.ofString uri)

/-- Why there is no answer. -/
inductive AnswerError where
  | grammar (e : GrammarError)
  | unencodable (e : Unencodable)
  deriving DecidableEq, Repr

/-- The semantic tokens of a document. -/
def semanticTokens (r : Registry) (uri : String) (doc : Document) : Except AnswerError (List Nat) := do
  match ← (grammarFor r doc.language uri).mapError .grammar with
  | none => return []
  | some g =>
    let ts ← (tokenize g (doc.text.map CodePoint.seen)).mapError .grammar
    (encodeText ts doc.text).mapError .unencodable

end Document

/-! ## Sessions -/

/-- What an editor sends about a document. -/
inductive Message where
  | opened (uri language : String) (text : List CodePoint)
  | changed (uri : String) (text : List CodePoint)
  | closed (uri : String)
  /-- Asks for the semantic tokens. -/
  | asked (uri : String)
  deriving DecidableEq, Repr

/-- A way to keep documents. -/
structure Workspace where
  State : Type
  /-- The state before the first message. -/
  start : State
  /-- The state after a message. -/
  after : State → Message → State
  /-- What is kept under an address. -/
  document : State → (uri : String) → Document

namespace Workspace

/-- The answer to a message, if it asks for something. -/
def answer? (w : Workspace) (r : Registry) (s : w.State) :
    Message → Option (Except Document.AnswerError (List Nat))
  | .asked uri => some ((w.document s uri).semanticTokens r uri)
  | _ => none

/-- The answers to messages from a state on, one after the other. -/
def answersFrom (w : Workspace) (r : Registry) :
    w.State → List Message → List (Option (Except Document.AnswerError (List Nat)))
  | _, [] => []
  | s, m :: messages => w.answer? r s m :: w.answersFrom r (w.after s m) messages

/-- The answers to the messages of a session. -/
def answers (w : Workspace) (r : Registry) (messages : List Message) :
    List (Option (Except Document.AnswerError (List Nat))) := w.answersFrom r w.start messages

end Workspace

/-! ## The table of open documents -/

namespace OpenDocuments

/-- The documents after a message.  A document that is changed keeps its language. -/
def after (docs : Table Document) : Message → Table Document
  | .opened uri language text => docs.put uri ⟨language, text⟩
  | .changed uri text => docs.put uri ⟨((docs.get? uri).map (·.language)).getD "", text⟩
  | .closed uri => docs.filter (·.1 ≠ uri)
  | .asked _ => docs

end OpenDocuments

/-- The documents that are open, by their addresses.  One that is not open is empty. -/
def Workspace.table : Workspace where
  State := Table Document
  start := []
  after := OpenDocuments.after
  document docs uri := (docs.get? uri).getD ⟨"", []⟩

end Highlight
