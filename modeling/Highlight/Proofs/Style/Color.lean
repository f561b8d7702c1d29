import Highlight.Proofs.Text.HexInteger
import Highlight.Style.Color
import Mathlib.Data.List.Forall2

/-!
# The texts of colors

The text of a color is meant to be three or six hexadecimal digits in either case, after a number sign or
not (`Denotes`).  Such a text denotes its color, and so does what is written for a color (`ofHex_spell`,
`ofHex_toHex`).

What is read is more than that (`ofHex_accepts`): the six characters, or the three ones doubled, may be any
writing of an integer, with a sign, a mark, underscores, white space, or digits of another script
(`Strays`).
-/

namespace Highlight.Color

open Text

/-! ## Digits -/

/-- The characters are digits with the values. -/
def Digits (cs : List Char) (ds : List (Fin 16)) : Prop :=
  List.Forall₂ (fun c (d : Fin 16) => (c, d.val) ∈ hexDigitValues) cs ds

/-- The number that digits denote, after `n` has been read. -/
def valueFrom (n : Nat) (ds : List (Fin 16)) : Nat := ds.foldl (fun n (d : Fin 16) => 16 * n + d) n

theorem hexDigitsValue?_digits {cs : List Char} {ds : List (Fin 16)} (h : Digits cs ds) (n : Nat) :
    hexDigitsValue? n true cs = some (valueFrom n ds) := by
  induction h generalizing n with
  | nil => rfl
  | cons hd _ ih =>
    rw [hexDigitsValue?_digit (hexValue?_eq_some.mpr hd), ih, valueFrom, valueFrom, List.foldl_cons]

theorem Digits.map_integerChar {cs : List Char} {ds : List (Fin 16)} (h : Digits cs ds) :
    cs.map integerChar = cs := by
  induction h with
  | nil => rfl
  | cons hd _ ih => rw [List.map_cons, ih, (of_hexValue? (hexValue?_eq_some.mpr hd)).2.2.1]

/-- Digits are the writing of their number. -/
theorem Digits.isHexInteger {cs : List Char} {d : Fin 16} {ds : List (Fin 16)}
    (h : Digits cs (d :: ds)) : IsHexInteger cs (valueFrom 0 (d :: ds)) := by
  have hread : hexDigitsValue? 0 false cs = some (valueFrom 0 (d :: ds)) := by
    cases h with
    | cons hd hds =>
      rw [hexDigitsValue?_digit (hexValue?_eq_some.mpr hd)]
      exact hexDigitsValue?_digits hds _
  have hnumber : HexNumber ([] ++ cs) (valueFrom 0 (d :: ds)) :=
    .marked (by simp [hexMarks]) (hexDigitsValue?_eq_some.mp hread)
  exact ⟨[], cs, [], by simp [h.map_integerChar], by simp, .unsigned hnumber⟩

/-! ## Texts -/

/-- What is left of a text without white space at both ends and without one number sign. -/
def body (text : List Char) : List Char :=
  match trimBlank text with
  | '#' :: rest => rest
  | cs => cs

/-- Three characters doubled. -/
def spread (cs : List Char) : List Char :=
  if cs.length = 3 then cs.flatMap fun c => [c, c] else cs

/-- A channel from the values of its digits. -/
def pair (high low : Fin 16) : Fin 256 := ⟨16 * high + low, by omega⟩

/-- The number whose lowest bytes the channels are. -/
def number (c : Color) : Nat := 65536 * c.r + 256 * c.g + c.b

/-- Six digits denote the color with their pairs as channels, and three that with each of them
doubled. -/
inductive Denotes : List Char → Color → Prop
  | pairs {cs : List Char} {r r' g g' b b' : Fin 16} (h : Digits cs [r, r', g, g', b, b']) :
      Denotes cs ⟨pair r r', pair g g', pair b b'⟩
  | singles {cs : List Char} {r g b : Fin 16} (h : Digits cs [r, g, b]) :
      Denotes cs ⟨pair r r, pair g g, pair b b⟩

/-- Characters that are not three or six digits and all the same the writing of an integer, and the color
that the integer gives. -/
structure Strays (cs : List Char) (c : Color) : Prop where
  undenoted : ∀ c', ¬ Denotes cs c'
  six : (spread cs).length = 6
  written : ∃ n, IsHexInteger (spread cs) n ∧ (c.number : Int) = n % 0x1000000

theorem hexChars_eq (text : List Char) : hexChars text = spread (body text) := rfl

/-- The channels of an integer are its three lowest bytes. -/
theorem ofInt_eq_iff {n : Int} {c : Color} : ofInt n = c ↔ (c.number : Int) = n % 0x1000000 := by
  obtain ⟨⟨r, hr⟩, ⟨g, hg⟩, ⟨b, hb⟩⟩ := c
  simp only [ofInt, number, Color.mk.injEq, Fin.ext_iff, Fin.val_ofNat]
  omega

/-- **A color is read from six characters that are the writing of an integer**, whatever it is. -/
theorem ofHex_eq_ok {text : List Char} {c : Color} : ofHex text = .ok c ↔
    (spread (body text)).length = 6 ∧
      ∃ n, IsHexInteger (spread (body text)) n ∧ (c.number : Int) = n % 0x1000000 := by
  rw [← hexChars_eq]
  simp only [← hexInteger?_eq_some, ← ofInt_eq_iff, ofHex]
  split
  · next hsix => simp [hsix]
  · next hsix =>
    cases hexInteger? (hexChars text) with
    | none => simp
    | some n => simp [not_not.mp hsix]

theorem ofHex_eq_error {text : List Char} {e : ColorError} (h : ofHex text = .error e) :
    e = .invalidHex text := by
  simp only [ofHex] at h
  split at h
  · exact (Except.error.inj h).symm
  · split at h
    · cases h
    · exact (Except.error.inj h).symm

/-- Three digits doubled are six digits. -/
theorem Digits.spread_singles {cs : List Char} {r g b : Fin 16} (h : Digits cs [r, g, b]) :
    Digits (spread cs) [r, r, g, g, b, b] := by
  cases h with
  | cons hr h =>
    cases h with
    | cons hg h =>
      cases h with
      | cons hb h =>
        cases h
        exact .cons hr (.cons hr (.cons hg (.cons hg (.cons hb (.cons hb .nil)))))

theorem Digits.spread_pairs {cs : List Char} {ds : List (Fin 16)} (h : Digits cs ds)
    (hlength : ds.length = 6) : Digits (spread cs) ds := by
  rw [spread, if_neg (by rw [h.length_eq, hlength]; decide)]
  exact h

/-- The number of a color is that of the digits of its channels. -/
theorem number_eq (r r' g g' b b' : Fin 16) :
    number ⟨pair r r', pair g g', pair b b'⟩ = valueFrom 0 [r, r', g, g', b, b'] := by
  simp only [number, pair, valueFrom, List.foldl_cons, List.foldl_nil]
  omega

theorem number_lt (c : Color) : c.number < 0x1000000 := by
  simp only [number]
  omega

/-- Whatever denotes a color is six digits after doubling, and these are the writing of its number. -/
theorem Denotes.isHexInteger {cs : List Char} {c : Color} (h : Denotes cs c) :
    (spread cs).length = 6 ∧ IsHexInteger (spread cs) c.number := by
  cases h with
  | pairs h =>
    rw [number_eq]
    exact ⟨(h.spread_pairs rfl).length_eq, (h.spread_pairs rfl).isHexInteger⟩
  | singles h =>
    rw [number_eq]
    exact ⟨h.spread_singles.length_eq, h.spread_singles.isHexInteger⟩

/-- **The texts that are meant to denote colors do.** -/
theorem ofHex_of_denotes {text : List Char} {c : Color} (h : Denotes (body text) c) :
    ofHex text = .ok c := by
  obtain ⟨hsix, hinteger⟩ := h.isHexInteger
  have hlt := number_lt c
  exact ofHex_eq_ok.mpr ⟨hsix, _, hinteger, by omega⟩

/-- **The texts that a color is read from.**  These are the ones that are meant to denote colors, with the
colors that they denote, and besides them the strays.  No other text is read. -/
theorem ofHex_accepts (text : List Char) :
    (∀ c, ofHex text = .ok c ↔ Denotes (body text) c ∨ Strays (body text) c) ∧
    ∀ e, ofHex text = .error e ↔
      e = .invalidHex text ∧ ∀ c, ¬ Denotes (body text) c ∧ ¬ Strays (body text) c := by
  have hok : ∀ c, ofHex text = .ok c ↔ Denotes (body text) c ∨ Strays (body text) c := by
    refine fun c => ⟨fun h => ?_, ?_⟩
    · by_cases hdenoted : ∃ c', Denotes (body text) c'
      · obtain ⟨c', hdenotes⟩ := hdenoted
        obtain rfl := Except.ok.inj (h.symm.trans (ofHex_of_denotes hdenotes))
        exact Or.inl hdenotes
      · obtain ⟨hsix, hwritten⟩ := ofHex_eq_ok.mp h
        exact Or.inr ⟨fun c' hc' => hdenoted ⟨c', hc'⟩, hsix, hwritten⟩
    · rintro (hdenotes | hstrays)
      · exact ofHex_of_denotes hdenotes
      · exact ofHex_eq_ok.mpr ⟨hstrays.six, hstrays.written⟩
  refine ⟨hok, fun e => ⟨fun h => ⟨ofHex_eq_error h, fun c => ?_⟩, ?_⟩⟩
  · rw [← not_or, ← hok, h]
    simp
  · rintro ⟨rfl, hnone⟩
    cases hread : ofHex text with
    | error e => rw [ofHex_eq_error hread]
    | ok c =>
      rcases (hok c).mp hread with hdenotes | hstrays
      · exact absurd hdenotes (hnone c).1
      · exact absurd hstrays (hnone c).2

/-- A sign and five digits are read as a color, which they do not denote. -/
theorem ofHex_signed : ofHex ['+', '1', '2', '3', '4', '5'] = .ok ⟨0x01, 0x23, 0x45⟩ ∧
    ∀ c, ¬ Denotes (body ['+', '1', '2', '3', '4', '5']) c := by
  refine ⟨rfl, fun c h => ?_⟩
  have hbody : body ['+', '1', '2', '3', '4', '5'] = ['+', '1', '2', '3', '4', '5'] := rfl
  rw [hbody] at h
  have hplus : ∀ d : Fin 16, ('+', d.val) ∉ hexDigitValues := by decide
  cases h with
  | pairs h =>
    cases h with
    | cons hd _ => exact hplus _ hd
  | singles h => cases h.length_eq

/-! ## What is written for a color -/

/-- Digits are all that is left of them, after a number sign or not. -/
theorem Digits.body_eq {cs : List Char} {d : Fin 16} {ds : List (Fin 16)} (h : Digits cs (d :: ds)) :
    body cs = cs ∧ body ('#' :: cs) = cs := by
  have hdigits : ∀ c ∈ cs, ∃ d, hexValue? c = some d := fun c hc => by
    obtain ⟨i, hi, rfl⟩ := List.getElem_of_mem hc
    exact ⟨_, hexValue?_eq_some.mpr (h.get hi (h.length_eq ▸ hi))⟩
  obtain ⟨first, rest, rfl⟩ : ∃ first rest, cs = first :: rest := by
    cases h
    exact ⟨_, _, rfl⟩
  obtain ⟨init, last, hlast⟩ : ∃ init last, first :: rest = init ++ [last] :=
    ⟨_, _, (List.dropLast_append_getLast (List.cons_ne_nil first rest)).symm⟩
  obtain ⟨_, hd⟩ := hdigits first List.mem_cons_self
  obtain ⟨_, hd'⟩ := hdigits last (by rw [hlast]; exact List.mem_append_right _ List.mem_cons_self)
  have hblank := (of_hexValue? hd').1
  constructor
  · rw [body, trimBlank_eq_self rfl (of_hexValue? hd).1 hlast hblank]
    split
    · next heq => exact absurd (List.cons.inj heq).1 (ne_of_hexValue? hd (by simp))
    · rfl
  · have hmarked : '#' :: first :: rest = ('#' :: init) ++ [last] := by rw [hlast]; rfl
    rw [body, trimBlank_eq_self rfl (by decide) hmarked hblank]
    rfl

/-- How a color is written: with a number sign or not, and each digit in lower case or not. -/
structure Spelling where
  sign : Bool := false
  small : Nat → Bool := fun _ => false

/-- A color as it is written. -/
def spell (s : Spelling) (c : Color) : List Char :=
  (if s.sign then ['#'] else []) ++ c.toHex.mapIdx fun i d => if s.small i then d.toLower else d

/-- The two halves of a channel. -/
def halves (n : Fin 256) : List (Fin 16) := [⟨n / 16, by omega⟩, ⟨n % 16, by omega⟩]

theorem toHex_eq (c : Color) :
    c.toHex = (halves c.r ++ halves c.g ++ halves c.b).map fun d : Fin 16 => upperHexDigit d := rfl

theorem upperHexDigit_mem : ∀ d : Fin 16, (upperHexDigit d, d.val) ∈ hexDigitValues ∧
    ((upperHexDigit d).toLower, d.val) ∈ hexDigitValues := by
  decide

/-- Digits in upper case, some of them made lower case, keep their values. -/
theorem digits_mapIdx (small : Nat → Bool) (ds : List (Fin 16)) : Digits
    ((ds.map fun d : Fin 16 => upperHexDigit d).mapIdx fun i d => if small i then d.toLower else d) ds := by
  induction ds generalizing small with
  | nil => exact .nil
  | cons d ds ih =>
    rw [List.map_cons, List.mapIdx_cons]
    refine .cons ?_ (ih fun i => small (i + 1))
    split
    · exact (upperHexDigit_mem d).2
    · exact (upperHexDigit_mem d).1

theorem pair_halves (n : Fin 256) : pair ⟨n / 16, by omega⟩ ⟨n % 16, by omega⟩ = n :=
  Fin.ext (Nat.div_add_mod n 16)

/-- The halves of its channels denote a color. -/
theorem denotes_of_halves {cs : List Char} {c : Color}
    (h : Digits cs (halves c.r ++ halves c.g ++ halves c.b)) : Denotes cs c := by
  have hdenotes := Denotes.pairs h
  rwa [pair_halves, pair_halves, pair_halves] at hdenotes

/-- **A color is read back, however it is written.** -/
theorem ofHex_spell (s : Spelling) (c : Color) : ofHex (c.spell s) = .ok c := by
  have hdigits : Digits (c.toHex.mapIdx fun i d => if s.small i then d.toLower else d)
      (halves c.r ++ halves c.g ++ halves c.b) := by
    rw [toHex_eq]
    exact digits_mapIdx s.small _
  refine ofHex_of_denotes ?_
  rw [spell]
  split
  · rw [List.singleton_append, hdigits.body_eq.2]
    exact denotes_of_halves hdigits
  · rw [List.nil_append, hdigits.body_eq.1]
    exact denotes_of_halves hdigits

/-- A color is read back from its six digits. -/
theorem ofHex_toHex (c : Color) : ofHex c.toHex = .ok c := by
  have hspell : c.spell {} = c.toHex := rfl
  rw [← hspell]
  exact ofHex_spell {} c

/-- The digits of a color hold no character that ends a tag or the value in it. -/
theorem not_mem_toHex {c : Char} (hc : c ∈ ['<', '>', '"']) (color : Color) : c ∉ color.toHex := by
  have hall : ∀ d : Fin 16, upperHexDigit d ∉ ['<', '>', '"'] := by decide
  rw [toHex_eq]
  intro h
  obtain ⟨d, -, rfl⟩ := List.mem_map.mp h
  exact hall d hc

end Highlight.Color
