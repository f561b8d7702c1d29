import Highlight.Combine
import Mathlib.Data.List.Forall2
import Mathlib.Data.List.SplitBy
import Mathlib.Data.List.TakeWhile

/-!
# The runs that combining merges

Combining cuts the tokens into runs as long as they can be: neighbours in a run carry the same tags, and
from one run to the next the tags change.  A run is merged from its right end (`combine_run`), and what
comes after it is combined on its own, so the combined tokens are the merged runs one by one
(`combine_merges`).  There is one way to cut tokens into such runs (`maximalRuns_iff`), and a run can as
well be found from its first token (`combine_cons_takeWhile`).

Joining a token to a run is associative (`foldr_joinRun`).  Tokens that are combined already can
therefore stand for those they come from, in front of any others (`combine_maximalRuns`).

Every token of a run carries the tags of the merged token, though maybe in another order.  So whatever
depends on nothing but the set of tags is the same for each character before and after
(`charsWith_combine`).
-/

namespace Highlight

/-! ## Tokens with the same tags -/

theorem Token.sameTags_refl (t : Token) : t.sameTags t = true := sameTags_iff.mpr fun _ => Iff.rfl

theorem Token.sameTags_symm {t u : Token} (h : t.sameTags u = true) : u.sameTags t = true :=
  sameTags_iff.mpr fun tag => (sameTags_iff.mp h tag).symm

theorem Token.sameTags_trans {t u v : Token} (h : t.sameTags u = true) (h' : u.sameTags v = true) :
    t.sameTags v = true :=
  sameTags_iff.mpr fun tag => (sameTags_iff.mp h tag).trans (sameTags_iff.mp h' tag)

/-- Tokens with the same tags compare alike with any other. -/
theorem Token.sameTags_congr {t u : Token} (h : t.sameTags u = true) (v : Token) :
    t.sameTags v = u.sameTags v :=
  Bool.eq_iff_iff.mpr ⟨sameTags_trans (sameTags_symm h), sameTags_trans h⟩

/-- All tokens of a run carry the tags of its first token. -/
theorem sameTags_of_isChain : ∀ {us : List Token} {t : Token},
    (t :: us).IsChain (fun u v => u.sameTags v) → ∀ u ∈ us, u.sameTags t = true
  | [], _, _, _, h => absurd h List.not_mem_nil
  | v :: us, t, hchain, u, h => by
    obtain ⟨htv, hrest⟩ := List.isChain_cons_cons.mp hchain
    rcases List.mem_cons.mp h with rfl | h
    · exact Token.sameTags_symm htv
    · exact Token.sameTags_trans (sameTags_of_isChain hrest u h) (Token.sameTags_symm htv)

/-! ## Merged runs -/

/-- A token is a run merged: the contents one after the other, and the tags of the first token in their
order, which all tokens of the run carry. -/
structure Merges (t : Token) (run : List Token) : Prop where
  content : t.content = contents run
  tags : ∃ u us, run = u :: us ∧ t.tags = u.tags
  sameTags : ∀ u ∈ run, u.sameTags t = true

theorem Merges.ne_nil {t : Token} {run : List Token} (h : Merges t run) : run ≠ [] := by
  obtain ⟨u, us, rfl, _⟩ := h.tags
  exact List.cons_ne_nil u us

/-- A token alone is a run. -/
theorem Merges.single (t : Token) : Merges t [t] where
  content := (List.append_nil t.content).symm
  tags := ⟨t, [], rfl, rfl⟩
  sameTags u hu := by
    obtain rfl := List.mem_singleton.mp hu
    exact u.sameTags_refl

theorem combine_cons (t : Token) (ts : List Token) : combine (t :: ts) = joinRun t (combine ts) := rfl

/-- The first of the combined tokens has the tags of the first token. -/
theorem exists_combine_cons (t : Token) (ts : List Token) :
    ∃ text more, combine (t :: ts) = { t with content := text } :: more := by
  rw [combine_cons]
  cases combine ts with
  | nil => exact ⟨t.content, [], rfl⟩
  | cons u us =>
    rw [joinRun]
    split
    · exact ⟨_, us, rfl⟩
    · exact ⟨t.content, u :: us, rfl⟩

/-- A run becomes one token if the tags change after it. -/
theorem combine_run : ∀ {us : List Token} {t : Token} {rest : List Token},
    (t :: us).IsChain (fun u v => u.sameTags v) →
    (∀ v ∈ rest.head?, ((t :: us).getLast (List.cons_ne_nil t us)).sameTags v = false) →
    combine (t :: us ++ rest) = { t with content := contents (t :: us) } :: combine rest
  | [], t, [], _, _ => by
    show [t] = [{ t with content := t.content ++ [] }]
    rw [List.append_nil]
  | [], t, v :: rest, _, hchange => by
    obtain ⟨text, more, hrest⟩ := exists_combine_cons v rest
    have htags : t.sameTags { v with content := text } = false := hchange v rfl
    show joinRun t (combine (v :: rest)) = { t with content := t.content ++ [] } :: combine (v :: rest)
    rw [hrest, joinRun, if_neg (by rw [htags]; decide), List.append_nil]
  | u :: us, t, rest, hchain, hchange => by
    obtain ⟨htu, hrest⟩ := List.isChain_cons_cons.mp hchain
    have htags : t.sameTags { u with content := contents (u :: us) } = true := htu
    have ih := combine_run hrest hchange
    show joinRun t (combine (u :: us ++ rest)) = _
    rw [ih, joinRun, if_pos htags]
    rfl

/-- Runs between which the tags change are merged one by one. -/
theorem combine_flatten : ∀ {runs : List (List Token)}, [] ∉ runs →
    (∀ run ∈ runs, run.IsChain fun u v => u.sameTags v) →
    (runs.IsChain fun a b => ∃ ha hb, (a.getLast ha).sameTags (b.head hb) = false) →
    List.Forall₂ Merges (combine runs.flatten) runs
  | [], _, _, _ => .nil
  | [] :: _, hne, _, _ => absurd List.mem_cons_self hne
  | (t :: us) :: runs, hne, hchain, hchange => by
    have hne' : [] ∉ runs := List.not_mem_of_not_mem_cons hne
    have ih := combine_flatten hne' (fun run h => hchain run (List.mem_cons_of_mem _ h)) hchange.tail
    have hrun := hchain _ List.mem_cons_self
    have hcombine : combine ((t :: us) :: runs).flatten =
        { t with content := contents (t :: us) } :: combine runs.flatten := by
      rw [List.flatten_cons]
      refine combine_run hrun fun w hw => ?_
      cases runs with
      | nil => exact absurd hw (by simp)
      | cons next runs =>
        obtain ⟨⟨_, hnext, hdiffer⟩, _⟩ := List.isChain_cons_cons.mp hchange
        obtain ⟨v, vs, rfl⟩ := List.exists_cons_of_ne_nil hnext
        obtain rfl := Option.some.inj hw
        exact hdiffer
    rw [hcombine]
    refine .cons ⟨rfl, ⟨t, us, rfl, rfl⟩, fun u hu => ?_⟩ ih
    rcases List.mem_cons.mp hu with rfl | hu
    · exact u.sameTags_refl
    · exact sameTags_of_isChain hrun u hu

/-- **The combined tokens are, one by one, the runs merged.** -/
theorem combine_merges (ts : List Token) :
    List.Forall₂ Merges (combine ts) (ts.splitBy Token.sameTags) := by
  obtain ⟨hflatten, hne, hchain, hchange⟩ := List.splitBy_eq_iff.mp (rfl : ts.splitBy Token.sameTags = _)
  have hmerges := combine_flatten hne hchain hchange
  rwa [← hflatten] at hmerges

/-! ## Runs as long as they can be -/

/-- All tokens of a list carry the same tags, in any order. -/
def SameTags (run : List Token) : Prop :=
  ∀ t ∈ run, ∀ u ∈ run, ∀ tag, tag ∈ t.tags ↔ tag ∈ u.tags

/-- Tokens carry the same tags if each of them carries those of one token. -/
theorem SameTags.of_forall {run : List Token} {t : Token} (h : ∀ u ∈ run, u.sameTags t = true) :
    SameTags run :=
  fun u hu v hv => Token.sameTags_iff.mp (Token.sameTags_trans (h u hu) (Token.sameTags_symm (h v hv)))

theorem SameTags.isChain {run : List Token} (h : SameTags run) :
    run.IsChain fun t u => t.sameTags u :=
  List.Pairwise.isChain (List.pairwise_of_forall_mem_list fun t ht u hu =>
    Token.sameTags_iff.mpr (h t ht u hu))

theorem SameTags.of_isChain : ∀ {run : List Token}, run.IsChain (fun t u => t.sameTags u) →
    SameTags run
  | [], _ => fun _ h => absurd h List.not_mem_nil
  | t :: us, h => by
    refine .of_forall (t := t) fun u hu => ?_
    rcases List.mem_cons.mp hu with rfl | hu
    · exact u.sameTags_refl
    · exact sameTags_of_isChain h u hu

/-- Runs that make up a list of tokens and are as long as they can be. -/
structure MaximalRuns (ts : List Token) (runs : List (List Token)) : Prop where
  join : runs.flatten = ts
  ne_nil : ∀ run ∈ runs, run ≠ []
  sameTags : ∀ run ∈ runs, SameTags run
  /-- No run can take in the token after it, and none the token before it. -/
  maximal : runs.IsChain fun a b =>
    (∀ u ∈ b.head?, ¬ SameTags (a ++ [u])) ∧ ∀ t ∈ a.getLast?, ¬ SameTags (t :: b)

/-- **There is one way to cut tokens into runs as long as they can be.** -/
theorem maximalRuns_iff {ts : List Token} {runs : List (List Token)} :
    MaximalRuns ts runs ↔ ts.splitBy Token.sameTags = runs := by
  rw [List.splitBy_eq_iff]
  constructor
  · intro h
    refine ⟨h.join.symm, fun hnil => h.ne_nil [] hnil rfl,
      fun run hrun => (h.sameTags run hrun).isChain, ?_⟩
    refine h.maximal.imp_of_mem_imp fun a b ha hb hab => ⟨h.ne_nil a ha, h.ne_nil b hb, ?_⟩
    refine Bool.eq_false_iff.mpr fun hsame => ?_
    -- else the run could take in the token after it, which carries the tags of its last token
    refine hab.1 _ (List.head_mem_head? (h.ne_nil b hb)) ?_
    refine .of_forall (t := a.getLast (h.ne_nil a ha)) fun u hu => ?_
    rcases List.mem_append.mp hu with hu | hu
    · exact Token.sameTags_iff.mpr (h.sameTags a ha u hu _ (List.getLast_mem _))
    · rw [List.mem_singleton.mp hu]
      exact Token.sameTags_symm hsame
  · rintro ⟨rfl, hne, hchain, hchange⟩
    refine ⟨rfl, fun run hrun hnil => hne (hnil ▸ hrun),
      fun run hrun => .of_isChain (hchain run hrun), ?_⟩
    refine hchange.imp fun a b ⟨ha, hb, hdiffer⟩ => ?_
    have hnot : ∀ run, a.getLast ha ∈ run → b.head hb ∈ run → ¬ SameTags run := by
      intro run hlast hhead hrun
      rw [Token.sameTags_iff.mpr (hrun _ hlast _ hhead)] at hdiffer
      exact absurd hdiffer (by decide)
    constructor
    · intro u hu
      rw [← List.head_of_mem_head? hu]
      exact hnot _ (List.mem_append_left _ (List.getLast_mem ha))
        (List.mem_append_right _ List.mem_cons_self)
    · intro t ht
      rw [← List.getLast_of_mem_getLast? ht]
      exact hnot _ List.mem_cons_self (List.mem_cons_of_mem _ (List.head_mem hb))

/-- **The first run is found from its first token**: it goes on up to the first token with other tags
than that one. -/
theorem combine_cons_takeWhile (t : Token) (ts : List Token) : combine (t :: ts) =
    { t with content := contents (t :: ts.takeWhile t.sameTags) } ::
      combine (ts.dropWhile t.sameTags) := by
  have hrun : ∀ u ∈ t :: ts.takeWhile t.sameTags, u.sameTags t = true := by
    intro u hu
    rcases List.mem_cons.mp hu with rfl | hu
    · exact u.sameTags_refl
    · exact Token.sameTags_symm (List.mem_takeWhile_imp hu)
  have hsplit : t :: ts = t :: ts.takeWhile t.sameTags ++ ts.dropWhile t.sameTags := by
    rw [List.cons_append, List.takeWhile_append_dropWhile]
  rw [hsplit]
  refine combine_run (SameTags.of_forall hrun).isChain fun v hv => ?_
  have hlast := hrun _ (List.getLast_mem (List.cons_ne_nil t (ts.takeWhile t.sameTags)))
  have hother := List.head?_dropWhile_not t.sameTags ts
  rw [Option.mem_def.mp hv] at hother
  rw [Token.sameTags_congr hlast]
  exact hother

/-! ## Laws of combining -/

/-- **Joining is associative**: a token joins combined tokens before or after they join others. -/
theorem foldr_joinRun (t : Token) (us acc : List Token) :
    (joinRun t us).foldr joinRun acc = joinRun t (us.foldr joinRun acc) := by
  cases us with
  | nil => rfl
  | cons u us =>
    rw [joinRun]
    by_cases htu : t.sameTags u = true
    · rw [if_pos htu, List.foldr_cons, List.foldr_cons]
      cases us.foldr joinRun acc with
      | nil => rw [joinRun, joinRun, joinRun, if_pos htu]
      | cons v vs =>
        have hjoined : Token.sameTags { t with content := t.content ++ u.content } v = u.sameTags v :=
          Token.sameTags_congr htu v
        rw [joinRun, joinRun, hjoined]
        by_cases huv : u.sameTags v = true
        · have htuv : t.sameTags { u with content := u.content ++ v.content } = true := htu
          rw [if_pos huv, if_pos huv, joinRun, if_pos htuv, List.append_assoc]
        · rw [if_neg huv, if_neg huv, joinRun, if_pos htu]
    · rw [if_neg htu]
      rfl

/-- Combined tokens join what comes after them as those they come from do. -/
theorem foldr_combine (acc : List Token) : ∀ ts : List Token,
    (combine ts).foldr joinRun acc = ts.foldr joinRun acc
  | [] => rfl
  | t :: ts => by
    rw [combine_cons, foldr_joinRun, foldr_combine acc ts]
    rfl

/-- Combined tokens are left as they are. -/
theorem combine_combine (ts : List Token) : combine (combine ts) = combine ts := foldr_combine [] ts

/-- Parts of a list can be combined first. -/
theorem combine_append (ts us : List Token) :
    combine (ts ++ us) = combine (combine ts ++ combine us) := by
  have hsplit : ∀ ts us : List Token, combine (ts ++ us) = ts.foldr joinRun (combine us) :=
    fun ts us => List.foldr_append
  rw [hsplit, hsplit, foldr_combine, combine_combine]

/-- From one combined token to the next the tags change. -/
theorem isChain_combine : ∀ ts : List Token, (combine ts).IsChain fun t u => t.sameTags u = false
  | [] => .nil
  | t :: ts => by
    have ih := isChain_combine ts
    rw [combine_cons]
    cases hrest : combine ts with
    | nil => exact .singleton t
    | cons u us =>
      rw [hrest] at ih
      rw [joinRun]
      split
      · next htu =>
        refine List.isChain_cons.mpr ⟨fun v hv => ?_, ih.tail⟩
        exact (Token.sameTags_congr htu v).trans (ih.rel_head? hv)
      · next htu => exact .cons_cons (Bool.eq_false_iff.mpr htu) ih

/-- **Combining merges the runs of tokens with the same tags**, each as long as it can be.

* There is one way to cut the tokens into such runs, and each gives one token: with the contents one
  after the other, and the tags of its first token in their order.
* A run is found from its first token alone.
* No two neighbours of the combined tokens carry the same tags, so they are left as they are by
  combining again.
* The parts of a list can be combined first: what is merged across the seam is the same. -/
theorem combine_maximalRuns (ts : List Token) :
    (∃! runs, MaximalRuns ts runs) ∧
    (∀ runs, MaximalRuns ts runs → List.Forall₂ Merges (combine ts) runs) ∧
    (∀ t, combine (t :: ts) = { t with content := contents (t :: ts.takeWhile t.sameTags) } ::
      combine (ts.dropWhile t.sameTags)) ∧
    ((combine ts).IsChain fun t u => ¬ SameTags [t, u]) ∧
    combine (combine ts) = combine ts ∧
    ∀ us, combine (ts ++ us) = combine (combine ts ++ combine us) := by
  refine ⟨⟨ts.splitBy Token.sameTags, maximalRuns_iff.mpr rfl,
    fun runs h => (maximalRuns_iff.mp h).symm⟩, fun runs h => ?_,
    fun t => combine_cons_takeWhile t ts, (isChain_combine ts).imp fun t u hdiffer hsame => ?_,
    combine_combine ts, combine_append ts⟩
  · rw [← maximalRuns_iff.mp h]
    exact combine_merges ts
  · have htags := Token.sameTags_iff.mpr (hsame t List.mem_cons_self u (by simp))
    rw [hdiffer] at htags
    exact absurd htags (by decide)

/-- Two tokens with the same two tags in different orders, and a third with one of the tags: the first
two are a run, and keep the order of the first of them.  A fourth token joins across the seam. -/
theorem combine_maximalRuns_reordered :
    let a := (Token.single ['a'] "x").addTag "y"
    let b := (Token.single ['b'] "y").addTag "x"
    let c := Token.single ['c'] "x"
    let ab := (Token.single ['a', 'b'] "x").addTag "y"
    MaximalRuns [a, b, c] [[a, b], [c]] ∧ List.Forall₂ Merges [ab, c] [[a, b], [c]] ∧
      ¬ SameTags [ab, c] ∧
      combine [a, b, c, c] = combine ([ab, c] ++ [c]) := by
  intro a b c ab
  obtain ⟨-, hmerges, -, hchain, -, happend⟩ := combine_maximalRuns [a, b, c]
  have hruns : MaximalRuns [a, b, c] [[a, b], [c]] := maximalRuns_iff.mpr (by decide)
  have hcombine : combine [a, b, c] = [ab, c] := by decide
  rw [hcombine] at hmerges hchain happend
  exact ⟨hruns, hmerges _ hruns, List.isChain_pair.mp hchain, happend [c]⟩

/-! ## What combining leaves as it is -/

/-- The characters of tokens, each with what `f` makes of its token. -/
def charsWith {α : Type} (f : Token → α) (ts : List Token) : List (Char × α) :=
  ts.flatMap fun t => t.content.map (·, f t)

section CharsWith

variable {α : Type} {f : Token → α}

theorem charsWith_append (ts us : List Token) :
    charsWith f (ts ++ us) = charsWith f ts ++ charsWith f us := List.flatMap_append

theorem map_fst_charsWith : ∀ ts : List Token, (charsWith f ts).map Prod.fst = contents ts
  | [] => rfl
  | t :: ts => by
    have ih := map_fst_charsWith ts
    rw [charsWith] at ih
    rw [charsWith, List.flatMap_cons, List.map_append, ih, List.map_map]
    exact congrArg (· ++ contents ts) (List.map_id t.content)

/-- If all tokens of a list give the same, so do all its characters. -/
theorem charsWith_of_forall {a : α} : ∀ {ts : List Token}, (∀ t ∈ ts, f t = a) →
    charsWith f ts = (contents ts).map (·, a)
  | [], _ => rfl
  | t :: ts, h => by
    have ih := charsWith_of_forall fun u hu => h u (List.mem_cons_of_mem t hu)
    have hcontents : contents (t :: ts) = t.content ++ contents ts := List.flatMap_cons
    rw [charsWith] at ih
    rw [charsWith, List.flatMap_cons, ih, h t List.mem_cons_self, hcontents, List.map_append]

theorem charsWith_of_merges (hf : ∀ t u : Token, t.sameTags u = true → f t = f u) :
    ∀ {ts : List Token} {runs : List (List Token)}, List.Forall₂ Merges ts runs →
      charsWith f ts = charsWith f runs.flatten
  | _, _, .nil => rfl
  | t :: ts, run :: runs, .cons h hs => by
    have hrun : charsWith f run = t.content.map (·, f t) := by
      rw [h.content]
      exact charsWith_of_forall fun u hu => hf u t (h.sameTags u hu)
    rw [List.flatten_cons, charsWith_append, hrun, ← charsWith_of_merges hf hs]
    exact List.flatMap_cons

/-- **Combining keeps what a character is given by the tags of its token**, if their order does not
matter. -/
theorem charsWith_combine (hf : ∀ t u : Token, t.sameTags u = true → f t = f u) (ts : List Token) :
    charsWith f (combine ts) = charsWith f ts := by
  rw [charsWith_of_merges hf (combine_merges ts), List.flatten_splitBy]

end CharsWith

end Highlight
