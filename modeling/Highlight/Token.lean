import Highlight.Text.Quoted

/-!
# Tokens

A token is a run of source text with an ordered list of tags: at least one tag, and none twice.  Both
conditions are part of the type, so that adding a tag is the only change there is.
-/

namespace Highlight

open Text

/-! ## Tag lists -/

/-- A tag list with `tag` at its end, unless the tag is there already. -/
def withTag (tags : List String) (tag : String) : List String :=
  if tag ∈ tags then tags else tags ++ [tag]

theorem mem_withTag {tags : List String} {tag t : String} :
    t ∈ withTag tags tag ↔ t ∈ tags ∨ t = tag := by
  unfold withTag
  split
  · constructor
    · exact Or.inl
    · rintro (h | rfl) <;> assumption
  · simp

theorem withTag_ne_nil (tags : List String) (tag : String) : withTag tags tag ≠ [] :=
  List.ne_nil_of_mem (mem_withTag.mpr (.inr rfl))

theorem nodup_withTag {tags : List String} (h : tags.Nodup) (tag : String) :
    (withTag tags tag).Nodup := by
  unfold withTag
  split
  · exact h
  · rename_i hn
    refine List.nodup_append.mpr ⟨h, by simp, ?_⟩
    intro a ha b hb
    rw [List.mem_singleton] at hb
    subst hb
    exact fun e => hn (e ▸ ha)

/-- The tags of a list in the order of their first occurrence. -/
def distinctTags (tags : List String) : List String := tags.foldl withTag []

theorem nodup_foldl_withTag {acc : List String} (h : acc.Nodup) (tags : List String) :
    (tags.foldl withTag acc).Nodup := by
  induction tags generalizing acc with
  | nil => exact h
  | cons t ts ih => exact ih (nodup_withTag h t)

theorem nodup_distinctTags (tags : List String) : (distinctTags tags).Nodup :=
  nodup_foldl_withTag List.nodup_nil tags

theorem foldl_withTag_ne_nil {acc : List String} (h : acc ≠ []) (tags : List String) :
    tags.foldl withTag acc ≠ [] := by
  induction tags generalizing acc with
  | nil => exact h
  | cons t ts ih => exact ih (withTag_ne_nil acc t)

theorem distinctTags_cons_ne_nil (t : String) (ts : List String) : distinctTags (t :: ts) ≠ [] :=
  foldl_withTag_ne_nil (withTag_ne_nil [] t) ts

/-! ## Tokens -/

/-- A tagged run of source text. -/
structure Token where
  content : List Char
  tags : List String
  tags_ne_nil : tags ≠ []
  tags_nodup : tags.Nodup
  deriving DecidableEq, Repr

/-- The text of a token that was to be built without any tag. -/
structure Untagged where
  content : List Char
  deriving DecidableEq, Repr

/-- The wording of the error. -/
def Untagged.message (e : Untagged) : String :=
  s!"token {String.ofList (quote e.content)} needs at least one type"

namespace Token

/-- A token with the given tags, each taken once. -/
def ofTags (content : List Char) : List String → Except Untagged Token
  | [] => .error ⟨content⟩
  | t :: ts =>
    .ok ⟨content, distinctTags (t :: ts), distinctTags_cons_ne_nil t ts, nodup_distinctTags _⟩

/-- A token with one tag. -/
def single (content : List Char) (tag : String) : Token :=
  ⟨content, [tag], List.cons_ne_nil _ _, by simp⟩

/-- Whether a token carries a tag. -/
def hasTag (t : Token) (tag : String) : Bool := t.tags.contains tag

/-- A token that also carries `tag`. -/
def addTag (t : Token) (tag : String) : Token :=
  ⟨t.content, withTag t.tags tag, withTag_ne_nil _ _, nodup_withTag t.tags_nodup _⟩

/-- A token that also carries all of `tags`. -/
def addTags (t : Token) (tags : List String) : Token := tags.foldl addTag t

/-- Whether two tokens carry the same tags, in any order. -/
def sameTags (t u : Token) : Bool := t.tags.all u.tags.contains && u.tags.all t.tags.contains

@[simp] theorem content_addTag (t : Token) (tag : String) : (t.addTag tag).content = t.content := rfl

@[simp] theorem content_addTags (t : Token) (tags : List String) :
    (t.addTags tags).content = t.content := by
  induction tags generalizing t with
  | nil => rfl
  | cons tag tags ih => exact ih (t.addTag tag)

theorem sameTags_iff {t u : Token} : t.sameTags u = true ↔ ∀ tag, tag ∈ t.tags ↔ tag ∈ u.tags := by
  simp only [sameTags, Bool.and_eq_true, List.all_eq_true, List.contains_iff_mem]
  exact ⟨fun h tag => ⟨h.1 tag, h.2 tag⟩, fun h => ⟨fun tag => (h tag).mp, fun tag => (h tag).mpr⟩⟩

end Token

/-- The contents of a token list, one after the other. -/
def contents (ts : List Token) : List Char := ts.flatMap (·.content)

end Highlight
