import Highlight.Text.HexInteger

/-!
# How hexadecimal integers are written

An integer is read from exactly the texts that are its writings (`hexInteger?_eq_some`).  A writing is white
space, a sign or none, a mark of base sixteen or none, a numeral, and white space again.  A numeral is made of
digits with single underscores between them (`Numeral`).

Digits are read from left to right, with the value of those before at hand, so a numeral grows at its end:
one that has been read is followed by whatever can continue it (`hexDigitsValue?_append`).
-/

namespace Highlight.Text

/-! ## Ends cut off -/

section Trim

variable {p : Char → Bool}

/-- A text that neither starts nor ends with what is cut off is left as it is, and all around it is cut. -/
theorem trim_append {before after cs init rest : List Char} {first last : Char}
    (hbefore : ∀ c ∈ before, p c = true) (hafter : ∀ c ∈ after, p c = true)
    (hfirst : cs = first :: rest) (hpfirst : p first = false)
    (hlast : cs = init ++ [last]) (hplast : p last = false) :
    (((before ++ cs ++ after).dropWhile p).reverse.dropWhile p).reverse = cs := by
  have hstart : (before ++ cs ++ after).dropWhile p = cs ++ after := by
    rw [List.append_assoc, List.dropWhile_append_of_pos hbefore, hfirst, List.cons_append,
      List.dropWhile_cons_of_neg (by simp [hpfirst])]
  have hend : (cs ++ after).reverse.dropWhile p = cs.reverse := by
    rw [List.reverse_append, List.dropWhile_append_of_pos (by simpa using hafter), hlast,
      List.reverse_concat, List.dropWhile_cons_of_neg (by simp [hplast])]
  rw [hstart, hend, List.reverse_reverse]

/-- What is cut off at the ends of a text. -/
theorem exists_trim (p : Char → Bool) (cs : List Char) : ∃ before after,
    cs = before ++ ((cs.dropWhile p).reverse.dropWhile p).reverse ++ after ∧
      ∀ c ∈ before ++ after, p c = true := by
  refine ⟨cs.takeWhile p, ((cs.dropWhile p).reverse.takeWhile p).reverse, ?_, fun c hc => ?_⟩
  · rw [List.append_assoc, ← List.reverse_append, List.takeWhile_append_dropWhile,
      List.reverse_reverse, List.takeWhile_append_dropWhile]
  · rcases List.mem_append.mp hc with hc | hc
    · exact List.all_eq_true.mp List.all_takeWhile c hc
    · exact List.all_eq_true.mp List.all_takeWhile c (List.mem_reverse.mp hc)

theorem trimBlank_eq_self {cs init rest : List Char} {first last : Char} (hfirst : cs = first :: rest)
    (hpfirst : isBlank first = false) (hlast : cs = init ++ [last]) (hplast : isBlank last = false) :
    trimBlank cs = cs := by
  have hnone : ∀ c ∈ ([] : List Char), isBlank c = true := fun _ h => absurd h List.not_mem_nil
  have htrim := trim_append hnone hnone hfirst hpfirst hlast hplast
  rwa [List.nil_append, List.append_nil] at htrim

end Trim

/-! ## Digits -/

/-- The hexadecimal digits in either case, with their values. -/
def hexDigitValues : List (Char × Nat) :=
  "0123456789abcdef".toList.zipIdx ++ "0123456789ABCDEF".toList.zipIdx

/-- The value of a digit is its place in one of the two rows. -/
theorem hexValue?_eq_some {c : Char} {d : Nat} : hexValue? c = some d ↔ (c, d) ∈ hexDigitValues := by
  constructor
  · intro h
    have hdecimal : ∀ k < 10, (Char.ofNat (0x30 + k), k) ∈ hexDigitValues := by decide
    have hsmall : ∀ k < 6, (Char.ofNat (0x61 + k), k + 10) ∈ hexDigitValues := by decide
    have hcapital : ∀ k < 6, (Char.ofNat (0x41 + k), k + 10) ∈ hexDigitValues := by decide
    have hself : ∀ start ≤ c.toNat, Char.ofNat (start + (c.toNat - start)) = c := fun start hstart => by
      rw [Nat.add_sub_cancel' hstart, Char.ofNat_toNat]
    unfold hexValue? at h
    split at h
    · next hrange =>
      obtain ⟨hlo, hhi⟩ : 0x30 ≤ c.toNat ∧ c.toNat ≤ 0x39 := by
        simpa [Char.isDigit, UInt32.le_iff_toNat_le] using hrange
      obtain rfl := Option.some.inj h
      simpa only [hself _ hlo] using hdecimal (c.toNat - 0x30) (by omega)
    split at h
    · next hrange =>
      obtain ⟨hlo, hhi⟩ : 0x61 ≤ c.toNat ∧ c.toNat ≤ 0x66 := hrange
      obtain rfl := Option.some.inj h
      simpa only [hself _ hlo] using hsmall (c.toNat - 0x61) (by omega)
    split at h
    · next hrange =>
      obtain ⟨hlo, hhi⟩ : 0x41 ≤ c.toNat ∧ c.toNat ≤ 0x46 := hrange
      obtain rfl := Option.some.inj h
      simpa only [hself _ hlo] using hcapital (c.toNat - 0x41) (by omega)
    · exact absurd h (by simp)
  · have hall : ∀ e ∈ hexDigitValues, hexValue? e.1 = some e.2 := by decide
    exact hall (c, d)

/-- What reading needs to know of a digit. -/
theorem of_hexValue? {c : Char} {d : Nat} (h : hexValue? c = some d) :
    isBlank c = false ∧ isAsciiBlank c = false ∧ integerChar c = c ∧
      c ∉ ['_', 'x', 'X', '+', '-', '#'] := by
  have hall : ∀ e ∈ hexDigitValues, isBlank e.1 = false ∧ isAsciiBlank e.1 = false ∧
      integerChar e.1 = e.1 ∧ e.1 ∉ ['_', 'x', 'X', '+', '-', '#'] := by decide +kernel
  exact hall (c, d) (hexValue?_eq_some.mp h)

theorem ne_of_hexValue? {c other : Char} {d : Nat} (h : hexValue? c = some d)
    (hother : other ∈ ['_', 'x', 'X', '+', '-', '#']) : c ≠ other := by
  rintro rfl
  exact (of_hexValue? h).2.2.2 hother

/-! ## Numerals -/

/-- Digits with single underscores between them, and the number that they denote. -/
inductive Numeral : List Char → Nat → Prop
  | digit {c : Char} {d : Nat} (hc : hexValue? c = some d) : Numeral [c] d
  | next {cs : List Char} {n : Nat} {c : Char} {d : Nat} (h : Numeral cs n)
      (hc : hexValue? c = some d) : Numeral (cs ++ [c]) (16 * n + d)
  | underscore {cs : List Char} {n : Nat} {c : Char} {d : Nat} (h : Numeral cs n)
      (hc : hexValue? c = some d) : Numeral (cs ++ ['_', c]) (16 * n + d)

/-- A digit is taken by its value, whatever stands before it. -/
theorem hexDigitsValue?_digit {c : Char} {d : Nat} (hc : hexValue? c = some d) (n : Nat)
    (complete : Bool) (rest : List Char) :
    hexDigitsValue? n complete (c :: rest) = hexDigitsValue? (16 * n + d) true rest := by
  rw [hexDigitsValue?, hc]
  exact ne_of_hexValue? hc (by simp)

theorem hexDigitsValue?_underscore (n : Nat) (rest : List Char) :
    hexDigitsValue? n true ('_' :: rest) = hexDigitsValue? n false rest := rfl

/-- **A numeral is read as its number**, in front of whatever continues it. -/
theorem hexDigitsValue?_append {cs : List Char} {n : Nat} (h : Numeral cs n) (rest : List Char) :
    hexDigitsValue? 0 false (cs ++ rest) = hexDigitsValue? n true rest := by
  induction h generalizing rest with
  | @digit c d hc =>
    rw [List.singleton_append, hexDigitsValue?_digit hc, Nat.mul_zero, Nat.zero_add]
  | next h hc ih => rw [List.append_assoc, ih, List.singleton_append, hexDigitsValue?_digit hc]
  | underscore h hc ih =>
    rw [List.append_assoc, ih, List.cons_append, hexDigitsValue?_underscore, List.singleton_append,
      hexDigitsValue?_digit hc]

/-- What continues a numeral to a longer one: at once if it can end where it is, and else after the
underscore that it has come to. -/
theorem numeral_append : ∀ {rest before : List Char} {n m : Nat} {complete : Bool},
    Numeral before n → hexDigitsValue? n complete rest = some m →
      Numeral (before ++ (if complete then rest else '_' :: rest)) m
  | [], before, n, m, complete, hbefore, h => by
    cases complete with
    | false => exact absurd h (by simp [hexDigitsValue?])
    | true =>
      obtain rfl := Option.some.inj h
      simpa using hbefore
  | c :: rest, before, n, m, complete, hbefore, h => by
    by_cases hunderscore : c = '_'
    · subst hunderscore
      cases complete with
      | false => exact absurd h (by simp [hexDigitsValue?])
      | true => simpa using numeral_append hbefore ((hexDigitsValue?_underscore n rest).symm.trans h)
    · cases hc : hexValue? c with
      | none =>
        rw [hexDigitsValue?, hc] at h
        · cases h
        · exact hunderscore
      | some d =>
        rw [hexDigitsValue?_digit hc] at h
        cases complete with
        | true => simpa using numeral_append (hbefore.next hc) h
        | false => simpa using numeral_append (hbefore.underscore hc) h

/-- **Digits are read from exactly the numerals.** -/
theorem hexDigitsValue?_eq_some {cs : List Char} {n : Nat} :
    hexDigitsValue? 0 false cs = some n ↔ Numeral cs n := by
  constructor
  · intro h
    cases cs with
    | nil => exact absurd h (by simp [hexDigitsValue?])
    | cons c rest =>
      cases hc : hexValue? c with
      | none =>
        by_cases hunderscore : c = '_'
        · subst hunderscore
          exact absurd h (by simp [hexDigitsValue?])
        · rw [hexDigitsValue?, hc] at h
          · cases h
          · exact hunderscore
      | some d =>
        rw [hexDigitsValue?_digit hc, Nat.mul_zero, Nat.zero_add] at h
        exact numeral_append (.digit hc) h
  · intro h
    have hread := hexDigitsValue?_append h []
    rwa [List.append_nil] at hread

/-- A numeral starts with a digit, and what follows is a digit or an underscore. -/
theorem Numeral.exists_cons {cs : List Char} {n : Nat} (h : Numeral cs n) : ∃ c d rest,
    cs = c :: rest ∧ hexValue? c = some d ∧ ∀ c' ∈ rest, c' = '_' ∨ ∃ d', hexValue? c' = some d' := by
  induction h with
  | @digit c d hc => exact ⟨c, d, [], rfl, hc, by simp⟩
  | @next _ _ c' d' _ hc' ih =>
    obtain ⟨c, d, rest, rfl, hc, hrest⟩ := ih
    refine ⟨c, d, _, rfl, hc, fun x hx => ?_⟩
    rcases List.mem_append.mp hx with hx | hx
    · exact hrest x hx
    · exact Or.inr ⟨d', List.mem_singleton.mp hx ▸ hc'⟩
  | @underscore _ _ c' d' _ hc' ih =>
    obtain ⟨c, d, rest, rfl, hc, hrest⟩ := ih
    refine ⟨c, d, _, rfl, hc, fun x hx => ?_⟩
    rcases List.mem_append.mp hx with hx | hx
    · exact hrest x hx
    rcases List.mem_cons.mp hx with hx | hx
    · exact Or.inl hx
    · exact Or.inr ⟨d', List.mem_singleton.mp hx ▸ hc'⟩

/-- A numeral ends with a digit. -/
theorem Numeral.exists_concat {cs : List Char} {n : Nat} (h : Numeral cs n) :
    ∃ before c d, cs = before ++ [c] ∧ hexValue? c = some d := by
  cases h with
  | digit hc => exact ⟨[], _, _, rfl, hc⟩
  | next _ hc => exact ⟨_, _, _, rfl, hc⟩
  | @underscore before _ c _ _ hc =>
    exact ⟨before ++ ['_'], c, _, (List.append_assoc before ['_'] [c]).symm, hc⟩

/-! ## Marks -/

/-- The marks of base sixteen, which may be missing. -/
def hexMarks : List (List Char) := [[], ['0', 'x'], ['0', 'X'], ['0', 'x', '_'], ['0', 'X', '_']]

/-- The writing of a number in base sixteen: a mark and a numeral. -/
inductive HexNumber : List Char → Nat → Prop
  | marked {mark cs : List Char} {n : Nat} (hmark : mark ∈ hexMarks) (h : Numeral cs n) :
      HexNumber (mark ++ cs) n

/-- A mark is dropped, and nothing of a numeral is taken for one. -/
theorem dropHexMark_append {mark cs : List Char} {n : Nat} (hmark : mark ∈ hexMarks)
    (h : Numeral cs n) : dropHexMark (mark ++ cs) = cs := by
  obtain ⟨c, d, rest, rfl, hc, hrest⟩ := h.exists_cons
  have hunderscore : c ≠ '_' := ne_of_hexValue? hc (by simp)
  simp only [hexMarks, List.mem_cons, List.not_mem_nil, or_false] at hmark
  rcases hmark with rfl | rfl | rfl | rfl | rfl
  · rw [List.nil_append]
    unfold dropHexMark
    split
    · next x more heq =>
      obtain ⟨rfl, rfl⟩ := List.cons.inj heq
      refine if_neg fun hx => ?_
      rcases hrest x List.mem_cons_self with rfl | ⟨d', hd'⟩
      · simp at hx
      · rcases hx with hx | hx
        · exact ne_of_hexValue? hd' (by simp) hx
        · exact ne_of_hexValue? hd' (by simp) hx
    · rfl
  all_goals simp [dropHexMark, hunderscore]

/-- What is dropped is a mark. -/
theorem exists_hexMark (cs : List Char) : ∃ mark ∈ hexMarks, cs = mark ++ dropHexMark cs := by
  unfold dropHexMark
  split
  · next x rest =>
    split
    · next hx =>
      rcases hx with rfl | rfl
      all_goals
        split
        · exact ⟨['0', _, '_'], by simp [hexMarks], rfl⟩
        · exact ⟨['0', _], by simp [hexMarks], rfl⟩
    · exact ⟨[], by simp [hexMarks], rfl⟩
  · exact ⟨[], by simp [hexMarks], rfl⟩

/-- **Behind a mark, digits are read from exactly the writings of numbers.** -/
theorem hexDigitsValue?_dropHexMark {cs : List Char} {n : Nat} :
    hexDigitsValue? 0 false (dropHexMark cs) = some n ↔ HexNumber cs n := by
  constructor
  · intro h
    obtain ⟨mark, hmark, hcs⟩ := exists_hexMark cs
    rw [hcs]
    exact .marked hmark (hexDigitsValue?_eq_some.mp h)
  · rintro ⟨hmark, h⟩
    rw [dropHexMark_append hmark h]
    exact hexDigitsValue?_eq_some.mpr h

/-- The writing of a number starts with a digit, which is a zero if there is a mark. -/
theorem HexNumber.exists_cons {cs : List Char} {n : Nat} (h : HexNumber cs n) :
    ∃ c d rest, cs = c :: rest ∧ hexValue? c = some d := by
  obtain ⟨hmark, hds⟩ := h
  obtain ⟨c, d, rest, rfl, hc, -⟩ := hds.exists_cons
  simp only [hexMarks, List.mem_cons, List.not_mem_nil, or_false] at hmark
  rcases hmark with rfl | rfl | rfl | rfl | rfl
  · exact ⟨c, d, rest, rfl, hc⟩
  all_goals exact ⟨'0', 0, _, rfl, rfl⟩

/-- It ends with a digit. -/
theorem HexNumber.exists_concat {cs : List Char} {n : Nat} (h : HexNumber cs n) :
    ∃ before c d, cs = before ++ [c] ∧ hexValue? c = some d := by
  obtain ⟨-, hds⟩ := h
  obtain ⟨before, c, d, rfl, hc⟩ := hds.exists_concat
  exact ⟨_, c, d, (List.append_assoc _ before [c]).symm, hc⟩

/-! ## Signs -/

/-- The writing of an integer in base sixteen without white space. -/
inductive HexWritten : List Char → Int → Prop
  | unsigned {cs : List Char} {n : Nat} (h : HexNumber cs n) : HexWritten cs n
  | plus {cs : List Char} {n : Nat} (h : HexNumber cs n) : HexWritten ('+' :: cs) n
  | minus {cs : List Char} {n : Nat} (h : HexNumber cs n) : HexWritten ('-' :: cs) (-n)

/-- The integer of a text without white space around. -/
def signedValue? : List Char → Option Int
  | '+' :: digits => (hexDigitsValue? 0 false (dropHexMark digits)).map Int.ofNat
  | '-' :: digits => (hexDigitsValue? 0 false (dropHexMark digits)).map fun n => -(Int.ofNat n)
  | digits => (hexDigitsValue? 0 false (dropHexMark digits)).map Int.ofNat

/-- An integer is that of the text between white space. -/
theorem hexInteger?_eq (cs : List Char) : hexInteger? cs =
    signedValue? ((((cs.map integerChar).dropWhile isAsciiBlank).reverse.dropWhile
      isAsciiBlank).reverse) := rfl

theorem signedValue?_eq_some {cs : List Char} {n : Int} :
    signedValue? cs = some n ↔ HexWritten cs n := by
  constructor
  · intro h
    unfold signedValue? at h
    split at h
    all_goals
      obtain ⟨m, hm, rfl⟩ := Option.map_eq_some_iff.mp h
      have hnumber := hexDigitsValue?_dropHexMark.mp hm
    · exact .plus hnumber
    · exact .minus hnumber
    · exact .unsigned hnumber
  · intro h
    cases h with
    | unsigned hnumber =>
      have hvalue := hexDigitsValue?_dropHexMark.mpr hnumber
      obtain ⟨c, d, rest, rfl, hc⟩ := hnumber.exists_cons
      unfold signedValue?
      split
      · next heq => exact absurd (List.cons.inj heq).1 (ne_of_hexValue? hc (by simp))
      · next heq => exact absurd (List.cons.inj heq).1 (ne_of_hexValue? hc (by simp))
      · rw [hvalue]
        rfl
    | plus hnumber =>
      rw [signedValue?, hexDigitsValue?_dropHexMark.mpr hnumber]
      rfl
    | minus hnumber =>
      rw [signedValue?, hexDigitsValue?_dropHexMark.mpr hnumber]
      rfl

/-- No white space belongs to the writing itself. -/
theorem HexWritten.exists_ends {cs : List Char} {n : Int} (h : HexWritten cs n) :
    (∃ first rest, cs = first :: rest ∧ isAsciiBlank first = false) ∧
      ∃ before last, cs = before ++ [last] ∧ isAsciiBlank last = false := by
  cases h with
  | unsigned hnumber =>
    obtain ⟨c, d, rest, hcons, hc⟩ := hnumber.exists_cons
    obtain ⟨before, c', d', hconcat, hc'⟩ := hnumber.exists_concat
    exact ⟨⟨c, rest, hcons, (of_hexValue? hc).2.1⟩, before, c', hconcat, (of_hexValue? hc').2.1⟩
  | @plus cs _ hnumber | @minus cs _ hnumber =>
    obtain ⟨before, c, d, rfl, hc⟩ := hnumber.exists_concat
    exact ⟨⟨_, _, rfl, rfl⟩, _ :: before, c, rfl, (of_hexValue? hc).2.1⟩

/-! ## Integers -/

/-- The writing of an integer in base sixteen, with white space around, in the white space and the decimal
digits of any script. -/
def IsHexInteger (cs : List Char) (n : Int) : Prop :=
  ∃ before written after, cs.map integerChar = before ++ written ++ after ∧
    (∀ c ∈ before ++ after, isAsciiBlank c = true) ∧ HexWritten written n

/-- **An integer is read from exactly its writings.** -/
theorem hexInteger?_eq_some {cs : List Char} {n : Int} :
    hexInteger? cs = some n ↔ IsHexInteger cs n := by
  rw [hexInteger?_eq, signedValue?_eq_some]
  constructor
  · intro h
    obtain ⟨before, after, hcs, hblank⟩ := exists_trim isAsciiBlank (cs.map integerChar)
    exact ⟨before, _, after, hcs, hblank, h⟩
  · rintro ⟨before, written, after, hcs, hblank, h⟩
    obtain ⟨⟨first, rest, hfirst, hpfirst⟩, init, last, hlast, hplast⟩ := h.exists_ends
    rw [hcs, trim_append (fun c hc => hblank c (List.mem_append_left _ hc))
      (fun c hc => hblank c (List.mem_append_right _ hc)) hfirst hpfirst hlast hplast]
    exact h

/-- A sign, a mark and an underscore, and a digit of another script in white space. -/
example : IsHexInteger ['-', '0', 'x', '_', '1', 'f'] (-31) ∧ IsHexInteger [' ', '٣', '\t'] 3 :=
  ⟨hexInteger?_eq_some.mp rfl, hexInteger?_eq_some.mp rfl⟩

end Highlight.Text
