import Highlight.Text.HexInteger
import Highlight.Text.Quoted
import Mathlib.Algebra.Group.Nat.Defs

/-!
# Quoted text, read back

Between its quotes a character is written as itself, by a backslash and a mark, or by a backslash, a mark and
the digits of its code point (`Written`).  How many digits there are is known from the mark, so no character
is needed after them to tell where they end, and what follows is read on its own (`Written.readEscapes`).

Both quotes are escaped in the same way, so text is read back without a look at the quotes around it
(`unquote_quote`).  No character is written with a line feed (`lineFeed_not_mem_quote`).
-/

namespace Highlight.Text

/-! ## Reading -/

/-- The number of digits after the mark of an escape with a code point. -/
def escapeWidth? : Char → Option Nat
  | 'x' => some 2
  | 'u' => some 4
  | 'U' => some 8
  | _ => none

/-- The character that any other mark stands for. -/
def marked : Char → Char
  | 'n' => '\n'
  | 'r' => '\r'
  | 't' => '\t'
  | c => c

/-- The number that hexadecimal digits stand for. -/
def hexNumber (cs : List Char) : Nat := cs.foldl (fun n c => 16 * n + (hexValue? c).getD 0) 0

/-- The text that characters and escapes stand for. -/
def readEscapes (cs : List Char) : List Char :=
  match cs with
  | [] => []
  | '\\' :: mark :: rest =>
    match escapeWidth? mark with
    | some width => Char.ofNat (hexNumber (rest.take width)) :: readEscapes (rest.drop width)
    | none => marked mark :: readEscapes rest
  | c :: rest => c :: readEscapes rest
termination_by cs.length
decreasing_by all_goals simp <;> omega

/-- The text that stands in quotes. -/
def unquote (cs : List Char) : List Char := readEscapes cs.tail.dropLast

theorem readEscapes_nil : readEscapes [] = [] := by
  rw [readEscapes]

theorem readEscapes_of_ne {c : Char} (h : c ≠ '\\') (rest : List Char) :
    readEscapes (c :: rest) = c :: readEscapes rest := by
  rw [readEscapes]
  exact fun _ _ hc => absurd hc h

theorem readEscapes_of_none {mark : Char} (h : escapeWidth? mark = none) (rest : List Char) :
    readEscapes ('\\' :: mark :: rest) = marked mark :: readEscapes rest := by
  rw [readEscapes, h]

theorem readEscapes_of_some {mark : Char} {width : Nat} (h : escapeWidth? mark = some width)
    (rest : List Char) : readEscapes ('\\' :: mark :: rest) =
      Char.ofNat (hexNumber (rest.take width)) :: readEscapes (rest.drop width) := by
  rw [readEscapes, h]

/-! ## Hexadecimal digits -/

theorem hexValue?_hexDigit : ∀ d < 16, hexValue? (hexDigit d) = some d := by decide

theorem hexDigit_ne_lineFeed : ∀ d < 16, hexDigit d ≠ '\n' := by decide

theorem length_hexDigits (width n : Nat) : (hexDigits width n).length = width := by
  induction width generalizing n with
  | zero => rfl
  | succ width ih => simp [hexDigits, ih]

/-- Digits are read back, as far as there are any. -/
theorem hexNumber_hexDigits (width n : Nat) : hexNumber (hexDigits width n) = n % 16 ^ width := by
  induction width generalizing n with
  | zero => simp [hexDigits, hexNumber, Nat.mod_one]
  | succ width ih =>
    have hlast : hexValue? (hexDigit (n % 16)) = some (n % 16) :=
      hexValue?_hexDigit _ (Nat.mod_lt n (by decide))
    have happend : hexNumber (hexDigits width (n / 16) ++ [hexDigit (n % 16)]) =
        16 * hexNumber (hexDigits width (n / 16)) + n % 16 := by
      simp [hexNumber, List.foldl_append, hlast]
    rw [hexDigits, happend, ih, Nat.pow_succ, Nat.mul_comm (16 ^ width), Nat.mod_mul]
    omega

theorem lineFeed_not_mem_hexDigits (width n : Nat) : '\n' ∉ hexDigits width n := by
  induction width generalizing n with
  | zero => exact List.not_mem_nil
  | succ width ih =>
    intro h
    rcases List.mem_append.mp h with h | h
    · exact ih _ h
    · exact hexDigit_ne_lineFeed _ (Nat.mod_lt n (by decide)) (List.mem_singleton.mp h).symm

/-! ## How a character is written -/

/-- The ways to write a character between quotes. -/
inductive Written (c : Char) : List Char → Prop
  | itself (backslash : c ≠ '\\') (lineFeed : c ≠ '\n') : Written c [c]
  | mark {mark : Char} (short : escapeWidth? mark = none) (stands : marked mark = c)
      (lineFeed : mark ≠ '\n') : Written c ['\\', mark]
  | codePoint {mark : Char} {width : Nat} (long : escapeWidth? mark = some width)
      (fits : c.toNat < 16 ^ width) : Written c ('\\' :: mark :: hexDigits width c.toNat)

theorem Written.lineFeed_not_mem {c : Char} {cs : List Char} (h : Written c cs) : '\n' ∉ cs := by
  cases h with
  | itself _ hline => simpa using hline.symm
  | mark _ _ hline => simpa using hline.symm
  | @codePoint mark width hlong _ =>
    have hmark : mark ≠ '\n' := by
      rintro rfl
      cases hlong
    simpa [hmark.symm] using lineFeed_not_mem_hexDigits width c.toNat

/-- **A character is read back, whatever follows.** -/
theorem Written.readEscapes {c : Char} {cs : List Char} (h : Written c cs) (rest : List Char) :
    readEscapes (cs ++ rest) = c :: Text.readEscapes rest := by
  cases h with
  | itself hne _ => exact readEscapes_of_ne hne rest
  | mark hshort hstands _ => exact (readEscapes_of_none hshort rest).trans (by rw [hstands])
  | @codePoint mark width hlong hfits =>
    have hlength := length_hexDigits width c.toNat
    show Text.readEscapes ('\\' :: mark :: (hexDigits width c.toNat ++ rest)) = _
    rw [readEscapes_of_some hlong, List.take_left' hlength, List.drop_left' hlength,
      hexNumber_hexDigits, Nat.mod_eq_of_lt hfits, Char.ofNat_toNat]

theorem written_quotedChar {q : Char} (hq : q = '\'' ∨ q = '"') (c : Char) :
    Written c (quotedChar q c) := by
  unfold quotedChar
  split
  · next hescaped =>
    have hmark : c = '\'' ∨ c = '"' ∨ c = '\\' := by
      rcases hescaped with rfl | rfl
      · exact hq.imp_right Or.inl
      · exact Or.inr (Or.inr rfl)
    rcases hmark with rfl | rfl | rfl <;> exact .mark rfl rfl (by decide)
  next hplain =>
  obtain ⟨-, hbackslash⟩ := not_or.mp hplain
  split
  · next hc => exact hc ▸ .mark rfl rfl (by decide)
  next hline =>
  split
  · next hc => exact hc ▸ .mark rfl rfl (by decide)
  split
  · next hc => exact hc ▸ .mark rfl rfl (by decide)
  split
  · exact .itself hbackslash hline
  split
  · next hsmall => exact .codePoint rfl hsmall
  split
  · next hmiddle => exact .codePoint rfl hmiddle
  · exact .codePoint rfl c.val.toNat_lt

/-! ## Quoted text -/

theorem quoteFor_cases (cs : List Char) : quoteFor cs = '\'' ∨ quoteFor cs = '"' := by
  unfold quoteFor
  split
  · exact Or.inr rfl
  · exact Or.inl rfl

theorem quoteFor_ne {c : Char} (hsingle : c ≠ '\'') (hdouble : c ≠ '"') {cs : List Char} :
    quoteFor cs ≠ c := by
  rcases quoteFor_cases cs with h | h <;> rw [h]
  · exact hsingle.symm
  · exact hdouble.symm

theorem readEscapes_quotedChars {q : Char} (hq : q = '\'' ∨ q = '"') : ∀ cs : List Char,
    readEscapes (cs.flatMap (quotedChar q)) = cs
  | [] => readEscapes_nil
  | c :: cs => by
    rw [List.flatMap_cons, (written_quotedChar hq c).readEscapes, readEscapes_quotedChars hq cs]

/-- **A quoted text is read back.** -/
theorem unquote_quote (cs : List Char) : unquote (quote cs) = cs := by
  show readEscapes (cs.flatMap (quotedChar (quoteFor cs)) ++ [quoteFor cs]).dropLast = cs
  rw [List.dropLast_concat, readEscapes_quotedChars (quoteFor_cases cs)]

/-- **A quoted text is in one line.** -/
theorem lineFeed_not_mem_quote (cs : List Char) : '\n' ∉ quote cs := by
  have hquote : quoteFor cs ≠ '\n' := quoteFor_ne (by decide) (by decide)
  intro h
  rcases List.mem_cons.mp h with h | h
  · exact hquote h.symm
  rcases List.mem_append.mp h with h | h
  · obtain ⟨c, -, hc⟩ := List.mem_flatMap.mp h
    exact (written_quotedChar (quoteFor_cases cs) c).lineFeed_not_mem hc
  · exact hquote (List.mem_singleton.mp h).symm

end Highlight.Text
