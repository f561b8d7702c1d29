import Highlight.Dump
import Highlight.Proofs.Grammar.Builtin
import Highlight.Proofs.Grammar.Tags
import Highlight.Proofs.Runs
import Highlight.Proofs.Text.Quoted

/-!
# The listing of tokens, read back

A line of the listing is read from left to right (`readLine`): after the spaces that align it stands the
index, after one more space the tags, and after the spaces that fill their column the content in quotes.
Neither column needs to be wide enough.  The tags end at a space, and there is a plus sign between them, so
they are read back if they hold neither (`Token.Listable`).  With no line feed in them, each line feed of the
listing ends the line of a token.

Listings of such tokens are therefore the same only for the same tokens (`dump_reads`), and the tokens of the
built-in grammars are all such tokens (`listable_of_tokenize`).
-/

namespace Highlight

open Text

/-- No tag holds what ends the tags in a line, what ends the line, or what stands between tags. -/
def Token.Listable (t : Token) : Prop :=
  ∀ tag ∈ t.tags, ∀ c ∈ tag.toList, c ≠ ' ' ∧ c ≠ '\n' ∧ c ≠ '+'

/-! ## Reading a line -/

/-- The index, the tags and the content in a line. -/
def readLine (line : List Char) : Nat × List String × List Char :=
  let fromIndex := line.dropWhile (· == ' ')
  let fromTags := (fromIndex.dropWhile (· != ' ')).tail
  let fromContent := (fromTags.dropWhile (· != ' ')).dropWhile (· == ' ')
  (Nat.ofDigitChars 10 (fromIndex.takeWhile (· != ' ')) 0,
    ((fromTags.takeWhile (· != ' ')).splitOn '+').map String.ofList,
    unquote fromContent)

section Columns

variable {word : List Char} (rest : List Char)

theorem bne_space_of_mem (h : ' ' ∉ word) : ∀ c ∈ word, (c != ' ') = true := by
  intro c hc
  simp only [bne_iff_ne]
  rintro rfl
  exact h hc

theorem takeWhile_word (h : ' ' ∉ word) : (word ++ ' ' :: rest).takeWhile (· != ' ') = word := by
  rw [List.takeWhile_append_of_pos (bne_space_of_mem h), List.takeWhile_cons_of_neg (by simp),
    List.append_nil]

theorem dropWhile_word (h : ' ' ∉ word) : (word ++ ' ' :: rest).dropWhile (· != ' ') = ' ' :: rest := by
  rw [List.dropWhile_append_of_pos (bne_space_of_mem h), List.dropWhile_cons_of_neg (by simp)]

theorem dropWhile_spaces (n : Nat) {c : Char} (h : c ≠ ' ') :
    (List.replicate n ' ' ++ c :: rest).dropWhile (· == ' ') = c :: rest := by
  have hall : ∀ d ∈ List.replicate n ' ', (d == ' ') = true := by
    intro d hd
    rw [(List.mem_replicate.mp hd).2]
    rfl
  rw [List.dropWhile_append_of_pos hall, List.dropWhile_cons_of_neg (by simpa using h)]

end Columns

/-- The columns of a line: the index, the tags and the content in quotes, with spaces before each. -/
def columns (before between : Nat) (index tags content : List Char) : List Char :=
  List.replicate before ' ' ++
    (index ++ ' ' :: (tags ++ ' ' :: (List.replicate between ' ' ++ quote content)))

/-- **Columns without spaces are read one after the other.** -/
theorem readLine_columns (before between : Nat) {index tags : List Char} (content : List Char)
    (hne : index ≠ []) (hindex : ' ' ∉ index) (htags : ' ' ∉ tags) :
    readLine (columns before between index tags content) =
      (Nat.ofDigitChars 10 index 0, (tags.splitOn '+').map String.ofList, content) := by
  obtain ⟨digit, digits, hdigits⟩ := List.exists_cons_of_ne_nil hne
  have hdigit : digit ≠ ' ' := by
    rintro rfl
    exact hindex (hdigits.symm ▸ List.mem_cons_self)
  have hquote : quoteFor content ≠ ' ' := quoteFor_ne (by decide) (by decide)
  have hfromIndex : (columns before between index tags content).dropWhile (· == ' ') =
      index ++ ' ' :: (tags ++ ' ' :: (List.replicate between ' ' ++ quote content)) := by
    rw [columns, hdigits]
    exact dropWhile_spaces _ before hdigit
  have hfromContent : (' ' :: (List.replicate between ' ' ++ quote content)).dropWhile (· == ' ') =
      quote content :=
    dropWhile_spaces _ (between + 1) hquote
  simp only [readLine]
  rw [hfromIndex, takeWhile_word _ hindex, dropWhile_word _ hindex, List.tail_cons,
    takeWhile_word _ htags, dropWhile_word _ htags, hfromContent, unquote_quote]

/-! ## The line of a token -/

/-- The line of a token, without the line feed that ends it. -/
def dumpBody (width index : Nat) (t : Token) : List Char :=
  let tags := ("+".intercalate t.tags).toList
  columns (width - (decimal index).length) (20 - tags.length) (decimal index) tags t.content

theorem dumpLine_eq (width index : Nat) (t : Token) :
    dumpLine width index t = dumpBody width index t ++ ['\n'] := by
  have hspaces : ∀ (n : Nat) (cs : List Char),
      List.replicate n ' ' ++ ' ' :: cs = ' ' :: (List.replicate n ' ' ++ cs) := by
    intro n cs
    rw [List.append_cons, ← List.replicate_succ', List.replicate_succ, List.cons_append]
  simp only [dumpLine, dumpBody, columns, padLeft, padRight, List.append_assoc, List.cons_append, hspaces]

theorem not_mem_decimal {c : Char} (h : c.isDigit = false) (n : Nat) : c ∉ decimal n := by
  intro hmem
  have hdigit : c.isDigit = true := Nat.isDigit_of_mem_toDigits (by decide) (by decide) hmem
  rw [hdigit] at h
  cases h

/-- The tags of a line hold the characters of the tags, and plus signs. -/
theorem mem_intercalate_tags {c : Char} : ∀ {tags : List String},
    c ∈ ("+".intercalate tags).toList → c = '+' ∨ ∃ tag ∈ tags, c ∈ tag.toList
  | [], h => by simp at h
  | [tag], h => Or.inr ⟨tag, List.mem_cons_self, by simpa using h⟩
  | tag :: next :: tags, h => by
    rw [String.intercalate_cons_cons, String.toList_append, String.toList_append, List.append_assoc] at h
    rcases List.mem_append.mp h with h | h
    · exact Or.inr ⟨tag, List.mem_cons_self, h⟩
    rcases List.mem_append.mp h with h | h
    · exact Or.inl (List.mem_singleton.mp h)
    · exact (mem_intercalate_tags h).imp_right fun ⟨tag', hmem, hc⟩ =>
        ⟨tag', List.mem_cons_of_mem tag hmem, hc⟩

section Line

variable {t : Token} (h : t.Listable)

include h

theorem Token.Listable.not_mem {c : Char} (hc : c = ' ' ∨ c = '\n') :
    c ∉ ("+".intercalate t.tags).toList := by
  intro hmem
  rcases mem_intercalate_tags hmem with hplus | ⟨tag, htag, hchar⟩
  · rcases hc with rfl | rfl <;> exact absurd hplus (by decide)
  · obtain ⟨hspace, hline, -⟩ := h tag htag c hchar
    exact hc.elim hspace hline

/-- Tags are read back. -/
theorem Token.Listable.splitOn_eq :
    (("+".intercalate t.tags).toList.splitOn '+').map String.ofList = t.tags := by
  have hsplit : (("+".intercalate t.tags).toList).splitOn '+' = t.tags.map String.toList := by
    rw [String.toList_intercalate]
    refine List.splitOn_intercalate '+' ?_ (by simpa using t.tags_ne_nil)
    intro tag htag hplus
    obtain ⟨tag, hmem, rfl⟩ := List.mem_map.mp htag
    exact (h tag hmem '+' hplus).2.2 rfl
  rw [hsplit, List.map_map]
  exact (List.map_congr_left fun tag _ => String.ofList_toList).trans (List.map_id t.tags)

/-- **The line of a token is read back.** -/
theorem readLine_dumpBody (width index : Nat) :
    readLine (dumpBody width index t) = (index, t.tags, t.content) := by
  have hindex : ' ' ∉ decimal index := not_mem_decimal rfl index
  have hne : decimal index ≠ [] := Nat.toDigits_ne_nil
  have hvalue : Nat.ofDigitChars 10 (decimal index) 0 = index := Nat.ofDigitChars_ten_toDigits
  rw [dumpBody, readLine_columns _ _ _ hne hindex (h.not_mem (Or.inl rfl)), h.splitOn_eq, hvalue]

theorem lineFeed_not_mem_dumpBody (width index : Nat) : '\n' ∉ dumpBody width index t := by
  have hindex : '\n' ∉ decimal index := not_mem_decimal rfl index
  have htags := h.not_mem (Or.inr rfl)
  have hquote := lineFeed_not_mem_quote t.content
  have hspace : ¬ '\n' = ' ' := by decide
  simp [dumpBody, columns, hindex, htags, hquote, hspace, -String.toList_intercalate]

end Line

/-! ## The listing -/

theorem dumpFrom_eq (width : Nat) : ∀ (index : Nat) (ts : List Token), dumpFrom width index ts =
    (ts.mapIdx fun i t => dumpBody width (index + i) t).flatMap (· ++ ['\n'])
  | _, [] => rfl
  | index, t :: ts => by
    have hshift : (fun i t => dumpBody width (index + 1 + i) t) =
        fun i t => dumpBody width (index + (i + 1)) t := by
      funext i t
      rw [Nat.add_assoc, Nat.add_comm 1]
    rw [dumpFrom, dumpFrom_eq width (index + 1) ts, hshift, dumpLine_eq, List.mapIdx_cons,
      List.flatMap_cons]
    rfl

/-- The lines of the listing of tokens. -/
def dumpLines (ts : List Token) : List (List Char) :=
  ts.mapIdx fun i t => dumpBody (decimal ts.length).length i t

theorem dump_eq (ts : List Token) : dump ts = (dumpLines ts).flatMap (· ++ ['\n']) := by
  have hzero : (fun i t => dumpBody (decimal ts.length).length (0 + i) t) =
      fun i t => dumpBody (decimal ts.length).length i t := by
    funext i t
    rw [Nat.zero_add]
  rw [dump, dumpFrom_eq, hzero, dumpLines]

/-- Lines that are ended by line feeds are those between them. -/
theorem splitOn_flatMap_lineFeed : ∀ {lines : List (List Char)}, (∀ line ∈ lines, '\n' ∉ line) →
    (lines.flatMap (· ++ ['\n'])).splitOn '\n' = lines ++ [[]]
  | [], _ => rfl
  | line :: lines, h => by
    have ih := splitOn_flatMap_lineFeed fun line' hline' => h line' (List.mem_cons_of_mem line hline')
    rw [List.flatMap_cons, List.append_assoc, List.singleton_append,
      List.splitOn_append_cons_self_of_not_mem (h line List.mem_cons_self), ih]
    rfl

section Listing

variable {ts : List Token} (h : ∀ t ∈ ts, t.Listable)

include h

theorem lineFeed_not_mem_dumpLines : ∀ line ∈ dumpLines ts, '\n' ∉ line := by
  intro line hline
  obtain ⟨i, hi, rfl⟩ := List.mem_mapIdx.mp hline
  exact lineFeed_not_mem_dumpBody (h _ (List.getElem_mem hi)) _ i

theorem map_readLine_dumpLines :
    (dumpLines ts).map readLine = ts.mapIdx fun i t => (i, t.tags, t.content) := by
  refine List.ext_getElem? fun i => ?_
  rw [dumpLines, List.getElem?_map, List.getElem?_mapIdx, List.getElem?_mapIdx, Option.map_map]
  refine Option.map_congr fun t ht => ?_
  exact readLine_dumpBody (h t (List.mem_of_getElem? ht)) _ i

/-- **Listings are the same only for the same tokens.** -/
theorem eq_of_dump_eq {us : List Token} (hus : ∀ u ∈ us, u.Listable) (heq : dump ts = dump us) :
    ts = us := by
  -- the lines are those between the line feeds, and each shows its token
  have hlines := congrArg (List.splitOn '\n') heq
  rw [dump_eq, dump_eq, splitOn_flatMap_lineFeed (lineFeed_not_mem_dumpLines h),
    splitOn_flatMap_lineFeed (lineFeed_not_mem_dumpLines hus)] at hlines
  have hread := congrArg (List.map readLine) (List.append_cancel_right hlines)
  rw [map_readLine_dumpLines h, map_readLine_dumpLines hus] at hread
  refine List.ext_getElem? fun i => ?_
  have hshown := congrArg (·[i]?) hread
  simp only [List.getElem?_mapIdx] at hshown
  refine Option.map_injective (fun t u htu => ?_) hshown
  obtain ⟨-, htags, hcontent⟩ := by simpa only [Prod.mk.injEq] using htu
  exact Token.eq_of_tags hcontent htags

end Listing

/-! ## The tokens of the built-in grammars -/

/-- Whether a tag can be told from what stands around it in a line. -/
def isListable (tag : String) : Bool := tag.toList.all fun c => c != ' ' && c != '\n' && c != '+'

theorem listable_iff {t : Token} : t.Listable ↔ ∀ tag ∈ t.tags, isListable tag = true := by
  simp [Token.Listable, isListable, and_assoc]

/-- Adding a tag like that leaves it at that. -/
theorem Token.listable_addTag {tag : String} (h : isListable tag = true) (t : Token) :
    (t.addTag tag).Listable = t.Listable := by
  rw [eq_iff_iff, listable_iff, listable_iff]
  constructor
  · intro hall other hother
    exact hall other (mem_withTag.mpr (Or.inl hother))
  · intro hall other hother
    rcases mem_withTag.mp hother with hother | rfl
    · exact hall other hother
    · exact h

theorem tags_eq_or_mem_of_joinRun {t u : Token} {us : List Token} (h : u ∈ joinRun t us) :
    u.tags = t.tags ∨ u ∈ us := by
  cases us with
  | nil => exact Or.inl (congrArg Token.tags (List.mem_singleton.mp h))
  | cons v vs =>
    rw [joinRun] at h
    split at h
    · rcases List.mem_cons.mp h with rfl | h
      · exact Or.inl rfl
      · exact Or.inr (List.mem_cons_of_mem v h)
    · rcases List.mem_cons.mp h with rfl | h
      · exact Or.inl rfl
      · exact Or.inr h

/-- A combined token has the tags of one of the tokens. -/
theorem exists_tags_of_mem_combine : ∀ {ts : List Token} {u : Token}, u ∈ combine ts →
    ∃ t ∈ ts, u.tags = t.tags
  | [], _, hu => absurd hu List.not_mem_nil
  | t :: ts, u, hu => by
    rw [combine_cons] at hu
    rcases tags_eq_or_mem_of_joinRun hu with htags | hu
    · exact ⟨t, List.mem_cons_self, htags⟩
    · obtain ⟨t', ht', htags⟩ := exists_tags_of_mem_combine hu
      exact ⟨t', List.mem_cons_of_mem t ht', htags⟩

/-- The tags of a table, and of the two rules that end it, leave the columns apart. -/
theorem BaseGrammar.listable_of_splitRec (b : BaseGrammar) {source text : List Char} {s : LexerState}
    {ts : List Token} (hsetUp : b.grammar.setUp { source } = .ok s)
    (h : splitRec s.rules text = .ok ts) : ∀ t ∈ ts, t.Listable := by
  have hbases : ∀ rules ∈ [[], Json.rules, Lua.rules],
      ∀ tag ∈ rules.map (·.tag) ++ ["whitespace", "ind"], isListable tag = true := by decide
  have hrules : s.rules ∈ [[], Json.rules, Lua.rules] := by
    cases b <;> obtain rfl := Except.ok.inj hsetUp <;> simp
  refine fun t ht => listable_iff.mpr fun tag htag => ?_
  obtain ⟨-, own, hown, hmem⟩ := isRaw_of_splitRec h t ht
  rw [hown, List.mem_singleton] at htag
  subst htag
  exact hbases s.rules hrules tag (by simpa using hmem)

/-- **The built-in grammars give tokens whose listing can be read back.** -/
theorem listable_of_tokenize {name : String} {g : Grammar} (hget : Registry.builtin.get name = .ok g)
    {source : List Char} {combined : Bool} {ts : List Token}
    (h : tokenize g source combined = .ok ts) : ∀ t ∈ ts, t.Listable := by
  obtain ⟨b, rfl⟩ := base_of_get_builtin hget
  obtain ⟨raw, hraw, rfl⟩ := Except.map_eq_ok.mp h
  obtain ⟨s, hsetUp, hrun⟩ := Except.bind_eq_ok.mp hraw
  obtain ⟨rules, keywords, rfl⟩ := b.byTable.setUp source s hsetUp
  have hkeeps : b.retag.Keeps Token.Listable := by
    have hadded : ∀ tag ∈ BaseGrammar.addedTags, isListable tag = true := by decide
    exact b.keeps_retag fun tag htag t => Token.listable_addTag (hadded tag htag) t
  have hmap := rawTokens_keeps b.step_eq hkeeps hsetUp
  rw [hraw] at hmap
  obtain ⟨us, hsteps, hsame⟩ := Except.map_eq_ok.mp hmap.symm
  have hsplit : splitRec rules source = .ok us := ((splitSteps_alike rules source 0).ok_iff us).mp hsteps
  have hlistable : ∀ t ∈ raw, t.Listable := by
    intro t ht
    obtain ⟨u, hu, hsame⟩ := List.mem_map.mp (hsame ▸ List.mem_map_of_mem ht :
      t.Listable ∈ us.map Token.Listable)
    exact hsame ▸ b.listable_of_splitRec hsetUp hsplit u hu
  intro t ht
  cases combined with
  | false => exact hlistable t ht
  | true =>
    obtain ⟨u, hu, htags⟩ := exists_tags_of_mem_combine ht
    intro tag htag
    exact hlistable u hu tag (htags ▸ htag)

/-! ## The listing loses nothing -/

/-- **The listing of tokens loses nothing**, if their tags hold no space, line feed or plus sign.

* It has one line for each token, in their order, and the index, the tags and the content of the token are
  read back from its line.
* Listings are the same only for the same tokens.
* The tokens of the built-in grammars have such tags, combined or not. -/
theorem dump_reads :
    (∀ ts : List Token, (∀ t ∈ ts, t.Listable) →
      (∃ lines : List (List Char), dump ts = lines.flatMap (· ++ ['\n']) ∧ (∀ line ∈ lines, '\n' ∉ line) ∧
        lines.map readLine = ts.mapIdx fun i t => (i, t.tags, t.content)) ∧
      ∀ us : List Token, (∀ u ∈ us, u.Listable) → dump ts = dump us → ts = us) ∧
    ∀ name g source combined, Registry.builtin.get name = .ok g →
      ∃ ts, tokenize g source combined = .ok ts ∧ ∀ t ∈ ts, t.Listable := by
  refine ⟨fun ts h => ⟨⟨dumpLines ts, dump_eq ts, lineFeed_not_mem_dumpLines h,
    map_readLine_dumpLines h⟩, fun us hus heq => eq_of_dump_eq h hus heq⟩, ?_⟩
  intro name g source combined hget
  obtain ⟨b, rfl⟩ := base_of_get_builtin hget
  obtain ⟨ts, hts, -⟩ := b.exists_tokenize source combined
  exact ⟨ts, hts, listable_of_tokenize hget hts⟩

/-- A content with a line feed, both quotes, a backslash and characters that cannot be printed, after two
tags that leave no space in their column. -/
theorem dump_reads_escaped :
    let t := (Token.single ['\n', '\'', '"', '\\', '\x00', '\u2028'] "unterminated-string").addTag "index"
    (∃ lines : List (List Char), dump [t, t] = lines.flatMap (· ++ ['\n']) ∧
      (∀ line ∈ lines, '\n' ∉ line) ∧
      lines.map readLine = [(0, ["unterminated-string", "index"], t.content),
        (1, ["unterminated-string", "index"], t.content)]) ∧
    dump [t, t] ≠ dump [t] ∧
    ∃ g ts, Registry.builtin.get "LuaU" = .ok g ∧ tokenize g ['f', '(', '\r'] true = .ok ts ∧
      ∀ t ∈ ts, t.Listable := by
  intro t
  obtain ⟨htokens, hbuiltin⟩ := dump_reads
  have htags : ∀ tag ∈ t.tags, isListable tag = true := by decide
  have ht : t.Listable := listable_iff.mpr htags
  have hall : ∀ u ∈ [t, t], u.Listable := by simpa using ht
  obtain ⟨hlines, hsame⟩ := htokens [t, t] hall
  have hname : lower "LuaU" ∈ builtinNames := by decide
  obtain ⟨b, hget, -⟩ := get_builtin hname
  obtain ⟨ts, hts, hlistable⟩ := hbuiltin "LuaU" b.grammar ['f', '(', '\r'] true hget
  refine ⟨hlines, fun heq => ?_, b.grammar, ts, hget, hts, hlistable⟩
  have hone : [t, t] = [t] := hsame [t] (by simpa using ht) heq
  exact absurd hone (by simp)

end Highlight
