import Highlight.Editor.Workspace
import Highlight.Proofs.Editor.Decoding
import Highlight.Proofs.Grammar.Builtin
import Highlight.Proofs.Grammar.Registration
import Mathlib.Data.List.Induction

/-!
# Sessions of an editor

An editor opens, changes and closes documents in any order and asks for their semantic tokens in between.
What a document is at some time can be told from the messages: it has the language that it was opened with
and the latest text since (`OpenWith`).  This is what is asked of a workspace, that it keeps these documents
while only open ones are changed (`Workspace.Keeps`).  The table of open documents does (`keeps_table`), and
keeps no others (`openWith_of_get?`).

The built-in registry has a grammar or none for each document, and fails for none
(`grammarFor_builtin`), and its grammars tokenize every text.  So there is one answer for every document
whenever the editor asks for it, whatever else has been sent (`answers_of_openWith`).  It is an error for a
text with a lone surrogate that has a grammar, and numbers else.
-/

namespace Highlight

open Text SemanticTokens

/-! ## Ranges inside lines -/

/-- A range covers some text of a line of a text, without the carriage returns at the end of the line. -/
def SemanticTokens.Range.Inside (r : Range) (text : List Char) : Prop :=
  ∃ line before shown, (splitAtChar '\n' text)[r.line]? = some line ∧
    before ++ shown <+: dropTrailing '\r' line ∧ shown ≠ [] ∧
    r.char = units16 before ∧ r.length = units16 shown

/-- The range of a piece lies inside the line of the piece. -/
theorem SemanticTokens.Piece.inside_of_range? {p : Piece} {r : Range} {text : List Char}
    (h : p.range? = some r) (hline : '\n' ∉ p.text) (hplace : p.before ++ p.text <+: text) :
    r.Inside text := by
  obtain ⟨hshown, _, hrline, hchar, hlength⟩ := p.range?_eq_some h
  obtain ⟨more, rfl⟩ := hplace
  obtain ⟨rest, hrest⟩ := exists_line hline p.before more
  exact ⟨_, lastLine p.before, p.shown, hrline ▸ hrest, isPrefix_dropTrailing_append hshown _ _, hshown,
    hchar, hlength⟩

/-- **What an editor reads of the tokens of a text** is ranges inside its lines, one after the other. -/
theorem exists_ranges (ts : List Token) : ∃ ranges, decode (encode ts) = some ranges ∧
    ranges.Pairwise Range.Before ∧ ∀ r ∈ ranges, r.Inside (contents ts) := by
  refine ⟨_, decode_encode_eq ts, pairwise_ranges ts, fun r hr => ?_⟩
  obtain ⟨p, hp, hrange⟩ := List.mem_filterMap.mp hr
  obtain ⟨hline, _, hplace⟩ := mem_pieces hp
  exact Piece.inside_of_range? hrange hline hplace

/-! ## The grammar for a document -/

/-- The built-in grammars by their extensions. -/
def extensionBases : Table BaseGrammar := [(".json", .json), (".lua", .lua), (".luau", .lua)]

theorem extensions_builtin :
    Registry.builtin.extensions = [(".json", "json"), (".lua", "lua"), (".luau", "lua")] := by
  have hjson : normalExtension ".json" = ".json" := by rw [Registry.normalExtension_eq]; decide
  have hlua : normalExtension ".lua" = ".lua" := by rw [Registry.normalExtension_eq]; decide
  have hluau : normalExtension ".luau" = ".luau" := by rw [Registry.normalExtension_eq]; decide
  simp only [Registry.builtin, Registry.register, List.foldl_cons, List.foldl_nil, hjson, hlua, hluau]
  rfl

/-- A path has the built-in grammar of its extension, if there is one. -/
theorem forPath_builtin (p : Path) : Registry.builtin.forPath p =
    .ok ((extensionBases.get? (normalExtension p.suffix)).map (·.grammar)) := by
  have hname : Registry.builtin.nameForPath? p =
      Registry.builtin.extensions.get? (normalExtension p.suffix) := by
    unfold Registry.nameForPath?
    dsimp only
    split
    · next hempty => rw [hempty, extensions_builtin]; rfl
    · rfl
  unfold Registry.forPath
  rw [hname, extensions_builtin]
  generalize normalExtension p.suffix = ext
  by_cases hjson : ext = ".json"
  · rw [hjson]
    rfl
  by_cases hlua : ext = ".lua"
  · rw [hlua]
    rfl
  by_cases hluau : ext = ".luau"
  · rw [hluau]
    rfl
  simp [extensionBases, Table.get?, Ne.symm hjson, Ne.symm hlua, Ne.symm hluau]

/-- The built-in grammar for a document: that of its language, in any case, else that of the extension of
its address. -/
def Document.base? (doc : Document) (uri : String) : Option BaseGrammar :=
  (namedBases.get? (lower doc.language)).or
    (extensionBases.get? (normalExtension (Path.ofString uri).suffix))

/-- **The grammar of a document** is that of its language, else that of its extension, and there is no
error. -/
theorem grammarFor_builtin (doc : Document) (uri : String) :
    Document.grammarFor .builtin doc.language uri = .ok ((doc.base? uri).map (·.grammar)) := by
  have hfind := grammars_builtin doc.language
  unfold Document.grammarFor Document.base? Registry.knows Registry.get
  rw [hfind]
  cases hnamed : namedBases.get? (lower doc.language) with
  | some b =>
    have hempty : namedBases.get? (lower "") = none := by decide
    have hne : doc.language ≠ "" := by
      intro h
      rw [h] at hnamed
      exact absurd (hempty.symm.trans hnamed) (by simp)
    simp [hne, Except.map]
  | none =>
    rw [if_neg (by simp), forPath_builtin, Option.none_or]

/-! ## Lone surrogates -/

section Surrogates

variable {text : List CodePoint}

/-- The text of these characters. -/
theorem map_seen (cs : List Char) : (cs.map CodePoint.char).map CodePoint.seen = cs := by
  rw [List.map_map]
  exact List.map_id cs

theorem firstSurrogate?_eq_none : firstSurrogate? text = none ↔ ∃ cs : List Char, text = cs.map .char := by
  induction text with
  | nil => exact iff_of_true rfl ⟨[], rfl⟩
  | cons p text ih =>
    cases p with
    | char c =>
      rw [firstSurrogate?, Option.map_eq_none_iff, ih]
      constructor
      · rintro ⟨cs, rfl⟩
        exact ⟨c :: cs, rfl⟩
      · rintro ⟨cs, h⟩
        obtain ⟨_, cs', rfl, -, rfl⟩ := List.map_eq_cons_iff.mp h.symm
        exact ⟨cs', rfl⟩
    | surrogate n =>
      refine iff_of_false (by simp [firstSurrogate?]) ?_
      rintro ⟨cs, h⟩
      obtain ⟨c, _, -, hc, -⟩ := List.map_eq_cons_iff.mp h.symm
      cases hc

theorem firstSurrogate?_append (before : List Char) (n : Fin 0x800) (after : List CodePoint) :
    firstSurrogate? (before.map .char ++ .surrogate n :: after) = some (n, before.length) := by
  induction before with
  | nil => rfl
  | cons c before ih =>
    rw [List.map_cons, List.cons_append, firstSurrogate?, ih]
    rfl

/-- A text is one of characters, or there is a first surrogate in it. -/
theorem chars_or_surrogate (text : List CodePoint) : (∃ cs : List Char, text = cs.map .char) ∨
    ∃ (before : List Char) (n : Fin 0x800) (after : List CodePoint),
      text = before.map .char ++ .surrogate n :: after := by
  induction text with
  | nil => exact Or.inl ⟨[], rfl⟩
  | cons p text ih =>
    cases p with
    | surrogate n => exact Or.inr ⟨[], n, text, rfl⟩
    | char c =>
      rcases ih with ⟨cs, rfl⟩ | ⟨before, n, after, rfl⟩
      · exact Or.inl ⟨c :: cs, rfl⟩
      · exact Or.inr ⟨c :: before, n, after, rfl⟩

end Surrogates

/-! ## The answer for a document -/

/-- The answer for a document: the numbers of its tokens by its grammar, none without a grammar.  With a
grammar and a surrogate in its text, the first one is the error. -/
inductive Document.AnsweredWith (doc : Document) (uri : String) :
    Except Document.AnswerError (List Nat) → Prop
  | tokens {b : BaseGrammar} {text : List Char} {ts : List Token} (base : doc.base? uri = some b)
      (chars : doc.text = text.map .char) (tokens : tokenize b.grammar text = .ok ts) :
      doc.AnsweredWith uri (.ok (encode ts))
  | surrogate {b : BaseGrammar} {before : List Char} {n : Fin 0x800} {after : List CodePoint}
      {ts : List Token} (base : doc.base? uri = some b)
      (first : doc.text = before.map .char ++ .surrogate n :: after)
      (tokens : tokenize b.grammar (doc.text.map CodePoint.seen) = .ok ts) :
      doc.AnsweredWith uri (.error (.unencodable ⟨n, pieceOffset ts before.length⟩))
  | unknown (base : doc.base? uri = none) : doc.AnsweredWith uri (.ok [])

section Answered

variable {doc : Document} {uri : String} {answer : Except Document.AnswerError (List Nat)}

/-- With a grammar and without surrogates, the numbers can be computed. -/
theorem Document.AnsweredWith.eq_of_base? {numbers : List Nat} (h : doc.AnsweredWith uri answer)
    {b : BaseGrammar} (hbase : doc.base? uri = some b) {text : List Char}
    (hchars : doc.text = text.map .char)
    (hnumbers : (tokenize b.grammar text).toOption.map encode = some numbers) : answer = .ok numbers := by
  cases h with
  | tokens base chars tokens =>
    obtain rfl := Option.some.inj (base.symm.trans hbase)
    have htext := congrArg (List.map CodePoint.seen) (chars.symm.trans hchars)
    rw [map_seen, map_seen] at htext
    rw [htext] at tokens
    rw [tokens] at hnumbers
    exact congrArg Except.ok (Option.some.inj hnumbers)
  | surrogate base first tokens =>
    have hnone := firstSurrogate?_eq_none.mpr ⟨text, hchars⟩
    rw [first, firstSurrogate?_append] at hnone
    cases hnone
  | unknown base => exact absurd (base.symm.trans hbase) (by simp)

theorem Document.AnsweredWith.eq_nil (h : doc.AnsweredWith uri answer) (hbase : doc.base? uri = none) :
    answer = .ok [] := by
  cases h with
  | tokens base | surrogate base => exact absurd (base.symm.trans hbase) (by simp)
  | unknown => rfl

/-- **The answer is an error exactly if there is a grammar, and a surrogate in the text.** -/
theorem Document.AnsweredWith.exists_error_iff (h : doc.AnsweredWith uri answer) :
    (∃ e, answer = .error e) ↔ doc.base? uri ≠ none ∧ ∃ n, .surrogate n ∈ doc.text := by
  cases h with
  | tokens base chars tokens =>
    refine iff_of_false (by simp) ?_
    rintro ⟨-, n, hn⟩
    rw [chars] at hn
    obtain ⟨c, -, hc⟩ := List.mem_map.mp hn
    cases hc
  | @surrogate _ _ n _ _ base first tokens =>
    refine iff_of_true ⟨_, rfl⟩ ⟨by simp [base], n, ?_⟩
    rw [first]
    exact List.mem_append_right _ List.mem_cons_self
  | unknown base => exact iff_of_false (by simp) fun h => h.1 base

end Answered

theorem semanticTokens_of_none {doc : Document} {uri : String} (hbase : doc.base? uri = none) :
    doc.semanticTokens .builtin uri = .ok [] := by
  rw [Document.semanticTokens, grammarFor_builtin, hbase]
  rfl

/-- With a grammar, what is left to do is to encode the tokens. -/
theorem semanticTokens_of_base? {doc : Document} {uri : String} {b : BaseGrammar} {ts : List Token}
    (hbase : doc.base? uri = some b)
    (hts : tokenize b.grammar (doc.text.map CodePoint.seen) = .ok ts) :
    doc.semanticTokens .builtin uri = (encodeText ts doc.text).mapError .unencodable := by
  rw [Document.semanticTokens, grammarFor_builtin, hbase]
  simp only [Option.map_some, Except.mapError_ok, bind, Except.bind, hts]

/-- **There is an answer for every document**; its numbers stand for ranges inside the lines of the text. -/
theorem exists_answeredWith (uri : String) (doc : Document) : ∃ answer, doc.AnsweredWith uri answer ∧
    (∀ data, answer = .ok data → ∃ ranges, decode data = some ranges ∧
      ranges.Pairwise Range.Before ∧ ∀ r ∈ ranges, r.Inside (doc.text.map CodePoint.seen)) ∧
    doc.semanticTokens .builtin uri = answer := by
  cases hbase : doc.base? uri with
  | none =>
    refine ⟨.ok [], .unknown hbase, fun data hdata => ?_, semanticTokens_of_none hbase⟩
    obtain rfl := Except.ok.inj hdata
    exact ⟨[], rfl, .nil, fun r hr => absurd hr List.not_mem_nil⟩
  | some b =>
    obtain ⟨ts, hts, -, hcontents⟩ := b.exists_tokenize (doc.text.map CodePoint.seen) true
    rw [semanticTokens_of_base? hbase hts, encodeText]
    rcases chars_or_surrogate doc.text with ⟨text, hchars⟩ | ⟨before, n, after, hfirst⟩
    · have htext : doc.text.map CodePoint.seen = text := by rw [hchars, map_seen]
      rw [firstSurrogate?_eq_none.mpr ⟨text, hchars⟩]
      refine ⟨.ok (encode ts), .tokens hbase hchars (htext ▸ hts), fun data hdata => ?_, rfl⟩
      obtain rfl := Except.ok.inj hdata
      exact hcontents ▸ exists_ranges ts
    · have hsurrogate : firstSurrogate? doc.text = some (n, before.length) := by
        rw [hfirst, firstSurrogate?_append]
      rw [hsurrogate]
      exact ⟨_, .surrogate hbase hfirst hts, nofun, rfl⟩

/-! ## What is open -/

namespace Message

/-- Whether a message opens or closes a document. -/
def resets (uri : String) : Message → Bool
  | .opened other _ _ | .closed other => other = uri
  | .changed _ _ | .asked _ => false

/-- Whether a message changes a document. -/
def isChange : Message → Bool
  | .changed _ _ => true
  | .opened _ _ _ | .closed _ | .asked _ => false

/-- The text that a message changes a document to. -/
def newText? (uri : String) : Message → Option (List CodePoint)
  | .changed other text => if other = uri then some text else none
  | .opened _ _ _ | .closed _ | .asked _ => none

theorem eq_changed_of_newText? {uri : String} {m : Message} {text : List CodePoint}
    (h : m.newText? uri = some text) : m = .changed uri text := by
  cases m with
  | changed other text' =>
    rw [newText?] at h
    split at h
    · next heq => rw [heq, Option.some.inj h]
    · cases h
  | opened | closed | asked => cases h

end Message

/-- After some messages a document is open: it has been opened with its language and neither closed nor
opened anew since, and its text is the latest one. -/
def OpenWith (uri : String) (doc : Document) (history : List Message) : Prop :=
  ∃ before text since, history = before ++ .opened uri doc.language text :: since ∧
    (∀ m ∈ since, m.resets uri = false) ∧
    doc.text = (since.filterMap (Message.newText? uri)).getLastD text

/-- Only documents that are open are changed. -/
def ChangesOpen (history : List Message) : Prop :=
  ∀ before uri text later, history = before ++ .changed uri text :: later →
    ∃ doc, OpenWith uri doc before

/-- A workspace keeps the documents that are open, with their languages and their latest texts, while no
others are changed. -/
def Workspace.Keeps (w : Workspace) : Prop :=
  ∀ history, ChangesOpen history → ∀ uri doc, OpenWith uri doc history →
    w.document (history.foldl w.after w.start) uri = doc

/-! ## The table of open documents -/

section Open

variable {uri : String} {doc : Document} {m : Message} {history : List Message}

/-- Messages about other documents, and questions, leave a document as it is. -/
theorem get?_after_of_none (docs : Table Document) (hm : m.resets uri = false)
    (hnone : m.newText? uri = none) : (OpenDocuments.after docs m).get? uri = docs.get? uri := by
  cases m with
  | opened other language text => exact Table.get?_put_of_ne docs _ (of_decide_eq_false hm)
  | changed other text =>
    have hne : other ≠ uri := by
      rintro rfl
      simp [Message.newText?] at hnone
    exact Table.get?_put_of_ne docs _ hne
  | closed other => exact Table.get?_filter_of_ne (of_decide_eq_false hm) docs
  | asked other => rfl

/-- An open document keeps its language, and its text unless the message changes it. -/
theorem get?_after {docs : Table Document} (h : docs.get? uri = some doc) (hm : m.resets uri = false) :
    (OpenDocuments.after docs m).get? uri =
      some { doc with text := (m.newText? uri).getD doc.text } := by
  cases htext : m.newText? uri with
  | none => exact (get?_after_of_none docs hm htext).trans h
  | some text =>
    obtain rfl := Message.eq_changed_of_newText? htext
    rw [OpenDocuments.after, h]
    exact Table.get?_put_self docs uri _

theorem get?_foldl_after : ∀ {since : List Message} {docs : Table Document} {doc : Document},
    docs.get? uri = some doc → (∀ m ∈ since, m.resets uri = false) →
    (since.foldl OpenDocuments.after docs).get? uri =
      some { doc with text := (since.filterMap (Message.newText? uri)).getLastD doc.text }
  | [], _, _, h, _ => h
  | m :: since, docs, doc, h, hsince => by
    have hm := get?_after h (hsince m List.mem_cons_self)
    have ih := get?_foldl_after hm fun m hm => hsince m (List.mem_cons_of_mem _ hm)
    rw [List.foldl_cons, ih]
    cases htext : m.newText? uri with
    | none => rw [List.filterMap_cons_none htext, Option.getD_none]
    | some text => rw [List.filterMap_cons_some htext, Option.getD_some, List.getLastD_cons]

/-- **A document that is open is kept with its language and its latest text.** -/
theorem get?_of_openWith (h : OpenWith uri doc history) :
    (history.foldl OpenDocuments.after []).get? uri = some doc := by
  obtain ⟨before, text, since, rfl, hsince, htext⟩ := h
  have hopened : (OpenDocuments.after (before.foldl OpenDocuments.after [])
      (.opened uri doc.language text)).get? uri = some ⟨doc.language, text⟩ :=
    Table.get?_put_self _ uri _
  rw [List.foldl_append, List.foldl_cons]
  refine (get?_foldl_after hopened hsince).trans ?_
  rw [← htext]

/-- **The table keeps what is open.** -/
theorem keeps_table : Workspace.table.Keeps := by
  intro history _ uri doc hopen
  show ((history.foldl OpenDocuments.after []).get? uri).getD ⟨"", []⟩ = doc
  rw [get?_of_openWith hopen, Option.getD_some]

theorem OpenWith.concat (h : OpenWith uri doc history) (hm : m.resets uri = false) :
    OpenWith uri { doc with text := (m.newText? uri).getD doc.text } (history ++ [m]) := by
  obtain ⟨before, text, since, rfl, hsince, htext⟩ := h
  refine ⟨before, text, since ++ [m], by simp, fun m' hm' => ?_, ?_⟩
  · rcases List.mem_append.mp hm' with hm' | hm'
    · exact hsince m' hm'
    · exact List.mem_singleton.mp hm' ▸ hm
  · rw [List.filterMap_append, htext]
    cases hnew : m.newText? uri with
    | none => simp [hnew]
    | some new => simp [hnew]

theorem ChangesOpen.of_append {later : List Message} (h : ChangesOpen (history ++ later)) :
    ChangesOpen history := by
  rintro before uri text rest rfl
  exact h before uri text (rest ++ later) (by simp)

/-- **Every document that is kept is open**, if only open documents are changed. -/
theorem openWith_of_get? (hchanges : ChangesOpen history)
    (h : (history.foldl OpenDocuments.after []).get? uri = some doc) : OpenWith uri doc history := by
  induction history using List.reverseRecOn generalizing doc with
  | nil => cases h
  | append_singleton history m ih =>
    rw [List.foldl_concat] at h
    cases hm : m.resets uri with
    | false =>
      -- the document was open before the message
      obtain ⟨old, hold⟩ : ∃ old, OpenWith uri old history := by
        cases htext : m.newText? uri with
        | none => exact ⟨doc, ih hchanges.of_append ((get?_after_of_none _ hm htext).symm.trans h)⟩
        | some text => exact hchanges history uri text [] (Message.eq_changed_of_newText? htext ▸ rfl)
      have hnow := get?_after (get?_of_openWith hold) hm
      obtain rfl := Option.some.inj (h.symm.trans hnow)
      exact hold.concat hm
    | true =>
      cases m with
      | opened other language text =>
        obtain rfl := of_decide_eq_true hm
        obtain rfl := Option.some.inj (h.symm.trans (Table.get?_put_self _ _ _))
        exact ⟨history, text, [], rfl, fun m hm => absurd hm List.not_mem_nil, rfl⟩
      | closed other =>
        obtain rfl := of_decide_eq_true hm
        exact absurd (h.symm.trans (Table.get?_filter_self _ _)) (by simp)
      | changed | asked => cases hm

end Open

/-! ## Answers -/

/-- The answer to a message is that from the state after the messages before it. -/
theorem getElem?_answersFrom (w : Workspace) (r : Registry) (m : Message) (later : List Message) :
    ∀ (history : List Message) (s : w.State),
      (w.answersFrom r s (history ++ m :: later))[history.length]? =
        some (w.answer? r (history.foldl w.after s) m)
  | [], _ => rfl
  | first :: history, s => getElem?_answersFrom w r m later history (w.after s first)

/-- **The answer to a request for an open document depends on its language and its latest text alone**, in
any workspace that keeps the documents that are open.

For every document there is one answer that any session gives when it is asked for, whatever has been sent
about other documents, about earlier texts, or asked before, and whatever comes later.  It is the numbers of
the tokens by the grammar of its language, else of its extension, and none without a grammar.  They stand
for ranges that come one after the other, each inside a line of the text.  Only a document with a grammar
and with a surrogate in its text is answered with an error. -/
theorem answers_of_openWith {w : Workspace} (hkeeps : w.Keeps) (uri : String) (doc : Document) :
    ∃ answer, doc.AnsweredWith uri answer ∧
      (∀ data, answer = .ok data → ∃ ranges, decode data = some ranges ∧
        ranges.Pairwise Range.Before ∧ ∀ r ∈ ranges, r.Inside (doc.text.map CodePoint.seen)) ∧
      ((∃ e, answer = .error e) ↔ doc.base? uri ≠ none ∧ ∃ n, .surrogate n ∈ doc.text) ∧
      ∀ history later, ChangesOpen history → OpenWith uri doc history →
        (w.answers .builtin (history ++ .asked uri :: later))[history.length]? = some (some answer) := by
  obtain ⟨answer, hanswer, hranges, htokens⟩ := exists_answeredWith uri doc
  refine ⟨answer, hanswer, hranges, hanswer.exists_error_iff, fun history later hchanges hopen => ?_⟩
  rw [Workspace.answers, getElem?_answersFrom, Workspace.answer?,
    hkeeps history hchanges uri doc hopen, htokens]

/-- A text without surrogates. -/
def chars (text : String) : List CodePoint := text.toList.map .char

/-- Two documents in turn, one of them named by an alias and changed, the other known by its extension, and
a third that is closed and opened anew. -/
def interleaved : List Message :=
  [.opened "file:///a.txt" "LuaU" (chars "1"),
   .opened "file:///b.JSON" "jsonc" (chars "2"),
   .asked "file:///a.txt",
   .changed "file:///a.txt" (chars "nil\r\n😀 x"),
   .opened "file:///c" "lua" (chars "3"),
   .closed "file:///c",
   .asked "file:///b.JSON",
   .opened "file:///c" "plaintext" (chars "x")]

section Changes

variable {history more : List Message}

theorem changesOpen_nil : ChangesOpen [] := by
  intro before uri text later h
  simp at h

theorem ChangesOpen.append (h : ChangesOpen history) (hmore : ∀ m ∈ more, m.isChange = false) :
    ChangesOpen (history ++ more) := by
  intro before uri text later heq
  have hnot : Message.changed uri text ∉ more := fun hmem => by cases hmore _ hmem
  rcases List.append_eq_append_iff.mp heq with ⟨rest, -, hrest⟩ | ⟨rest, hhistory, hrest⟩
  · exact absurd (hrest ▸ List.mem_append_right _ List.mem_cons_self) hnot
  · cases rest with
    | nil =>
      rw [List.nil_append] at hrest
      exact absurd (hrest ▸ List.mem_cons_self) hnot
    | cons m rest =>
      obtain ⟨rfl, -⟩ := List.cons.inj hrest
      exact h before uri text rest hhistory

theorem ChangesOpen.changed (h : ChangesOpen history) {uri : String} {doc : Document}
    (hopen : OpenWith uri doc history) (text : List CodePoint) :
    ChangesOpen (history ++ [.changed uri text]) := by
  intro before uri' text' later heq
  rcases List.eq_nil_or_concat later with rfl | ⟨later, m, rfl⟩
  · obtain ⟨rfl, hlast⟩ := List.append_inj' heq rfl
    cases hlast
    exact ⟨doc, hopen⟩
  · rw [List.concat_eq_append, ← List.cons_append, ← List.append_assoc] at heq
    obtain ⟨rfl, -⟩ := List.append_inj' heq rfl
    exact h before uri' text' later rfl

end Changes

/-- Of these messages one changes a document, and it is open. -/
theorem changesOpen_interleaved : ChangesOpen interleaved := by
  have hbefore : ChangesOpen (interleaved.take 3) := changesOpen_nil.append (by decide)
  have hopen : OpenWith "file:///a.txt" ⟨"LuaU", chars "1"⟩ (interleaved.take 3) :=
    ⟨[], chars "1", (interleaved.take 3).tail, rfl, by decide, rfl⟩
  have hafter : ∀ m ∈ interleaved.drop 4, m.isChange = false := by decide
  exact (hbefore.changed hopen (chars "nil\r\n😀 x")).append hafter

/-- The answers to three requests after these messages. -/
theorem answers_of_openWith_interleaved :
    let a := "file:///a.txt"
    let b := "file:///b.JSON"
    let c := "file:///c"
    let answers := Workspace.table.answers .builtin (interleaved ++ [.asked a, .asked b, .asked c])
    answers[8]? = some (some (.ok [0, 0, 3, 1, 0, 1, 3, 1, 8, 0])) ∧
      answers[9]? = some (some (.ok [0, 0, 1, 3, 0])) ∧ answers[10]? = some (some (.ok [])) := by
  intro a b c answers
  have hextension := Registry.normalExtension_eq
  refine ⟨?_, ?_, ?_⟩
  · obtain ⟨answer, hdoc, -, -, hanswer⟩ :=
      answers_of_openWith keeps_table a ⟨"LuaU", chars "nil\r\n😀 x"⟩
    have hbase : Document.base? ⟨"LuaU", chars "nil\r\n😀 x"⟩ a = some .lua := by decide +kernel
    have hnumbers : answer = .ok [0, 0, 3, 1, 0, 1, 3, 1, 8, 0] :=
      hdoc.eq_of_base? hbase rfl (by decide +kernel)
    have hopen : OpenWith a ⟨"LuaU", chars "nil\r\n😀 x"⟩ interleaved :=
      ⟨[], chars "1", interleaved.tail, rfl, by decide, by decide⟩
    have hgiven := hanswer interleaved [.asked b, .asked c] changesOpen_interleaved hopen
    rw [hnumbers] at hgiven
    exact hgiven
  · obtain ⟨answer, hdoc, -, -, hanswer⟩ := answers_of_openWith keeps_table b ⟨"jsonc", chars "2"⟩
    have hbase : Document.base? ⟨"jsonc", chars "2"⟩ b = some .json := by
      rw [Document.base?, hextension]
      decide +kernel
    have hnumbers : answer = .ok [0, 0, 1, 3, 0] := hdoc.eq_of_base? hbase rfl (by decide +kernel)
    have hopen : OpenWith b ⟨"jsonc", chars "2"⟩ (interleaved ++ [.asked a]) :=
      ⟨interleaved.take 1, chars "2", interleaved.drop 2 ++ [.asked a], rfl, by decide, by decide⟩
    have hgiven := hanswer _ [.asked c] (changesOpen_interleaved.append (by decide)) hopen
    rw [hnumbers] at hgiven
    exact hgiven
  · obtain ⟨answer, hdoc, -, -, hanswer⟩ := answers_of_openWith keeps_table c ⟨"plaintext", chars "x"⟩
    have hbase : Document.base? ⟨"plaintext", chars "x"⟩ c = none := by
      rw [Document.base?, hextension]
      decide +kernel
    have hopen : OpenWith c ⟨"plaintext", chars "x"⟩ (interleaved ++ [.asked a, .asked b]) :=
      ⟨interleaved.take 7, chars "x", [.asked a, .asked b], rfl, by decide, by decide⟩
    have hgiven := hanswer _ [] (changesOpen_interleaved.append (by decide)) hopen
    rw [hdoc.eq_nil hbase] at hgiven
    exact hgiven

/-- A file of Lua whose string ends in half of a surrogate pair is answered with an error. -/
theorem answers_loneSurrogate :
    let text := chars "x\n 'a" ++ [.surrogate 0, .char '\'']
    (Workspace.table.answers .builtin [.opened "file:///a.lua" "lua" text, .asked "file:///a.lua"])[1]? =
      some (some (.error (.unencodable ⟨0, 2⟩))) := by
  decide +kernel

end Highlight
