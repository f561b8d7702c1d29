import Highlight.Text.Utf8

/-!
# Decoded bytes are the encoding of their text

A sequence that decoding takes is a lead byte and the bytes that continue it, each in its bounds.  The
bounds leave out longer forms than needed and what is no character, so the number of the sequence is that
of a character, and the character is written in these very bytes (`utf8EncodeChar_two` and the two after
it).  So bytes that can be decoded are the encoding of the text (`encodeUtf8_of_decodeUtf8`).
-/

namespace Highlight.Text

/-! ## One character -/

theorem toNat_ofNat {n : Nat} (h : n.isValidChar) : (Char.ofNat n).toNat = n := by
  unfold Char.ofNat
  rw [dif_pos h]
  rfl

/-- The bytes of a character by its number. -/
theorem utf8EncodeChar_ofNat {n : Nat} (h : n.isValidChar) : String.utf8EncodeChar (Char.ofNat n) =
    if n ≤ 0x7F then [.ofNat n]
    else if n ≤ 0x7FF then [.ofNat (n / 64 % 32 + 192), .ofNat (n % 64 + 128)]
    else if n ≤ 0xFFFF then
      [.ofNat (n / 4096 % 16 + 224), .ofNat (n / 64 % 64 + 128), .ofNat (n % 64 + 128)]
    else [.ofNat (n / 262144 % 8 + 240), .ofNat (n / 4096 % 64 + 128), .ofNat (n / 64 % 64 + 128),
      .ofNat (n % 64 + 128)] := by
  have hval : (Char.ofNat n).val.toNat = n := toNat_ofNat h
  unfold String.utf8EncodeChar
  simp only [hval]

/-- A byte is known by its number. -/
theorem ofNat_eq {n : Nat} {b : UInt8} (h : n = b.toNat) : UInt8.ofNat n = b := by
  rw [h, UInt8.ofNat_toNat]

/-- A byte that continues a sequence. -/
def Continues (b : UInt8) : Prop := 0x80 ≤ b.toNat ∧ b.toNat ≤ 0xBF

theorem utf8EncodeChar_one {a : UInt8} (ha : a.toNat < 0x80) :
    String.utf8EncodeChar (Char.ofNat a.toNat) = [a] := by
  rw [utf8EncodeChar_ofNat (Or.inl (by omega)), if_pos (by omega), UInt8.ofNat_toNat]

theorem utf8EncodeChar_two {a b : UInt8} (ha : 0xC2 ≤ a.toNat ∧ a.toNat < 0xE0) (hb : Continues b) :
    String.utf8EncodeChar (Char.ofNat (64 * (a.toNat - 0xC0) + (b.toNat - 0x80))) = [a, b] := by
  obtain ⟨hlo, hhi⟩ := hb
  generalize hn : 64 * (a.toNat - 0xC0) + (b.toNat - 0x80) = n
  rw [utf8EncodeChar_ofNat (Or.inl (by omega)), if_neg (by omega), if_pos (by omega)]
  have h₁ : UInt8.ofNat (n / 64 % 32 + 192) = a := ofNat_eq (by omega)
  have h₂ : UInt8.ofNat (n % 64 + 128) = b := ofNat_eq (by omega)
  rw [h₁, h₂]

/-- The bounds of the second byte keep the number above the shorter form and off the surrogates. -/
theorem utf8EncodeChar_three {a b c : UInt8} (ha : 0xE0 ≤ a.toNat ∧ a.toNat < 0xF0)
    (hb : Continues b) (hlong : a.toNat = 0xE0 → 0xA0 ≤ b.toNat)
    (hsurrogate : a.toNat = 0xED → b.toNat ≤ 0x9F) (hc : Continues c) :
    String.utf8EncodeChar (Char.ofNat
      (64 * (64 * (a.toNat - 0xE0) + (b.toNat - 0x80)) + (c.toNat - 0x80))) = [a, b, c] := by
  obtain ⟨hblo, hbhi⟩ := hb
  obtain ⟨hclo, hchi⟩ := hc
  generalize hn : 64 * (64 * (a.toNat - 0xE0) + (b.toNat - 0x80)) + (c.toNat - 0x80) = n
  have hvalid : n.isValidChar := by
    unfold Nat.isValidChar
    omega
  rw [utf8EncodeChar_ofNat hvalid, if_neg (by omega), if_neg (by omega), if_pos (by omega)]
  have h₁ : UInt8.ofNat (n / 4096 % 16 + 224) = a := ofNat_eq (by omega)
  have h₂ : UInt8.ofNat (n / 64 % 64 + 128) = b := ofNat_eq (by omega)
  have h₃ : UInt8.ofNat (n % 64 + 128) = c := ofNat_eq (by omega)
  rw [h₁, h₂, h₃]

/-- The bounds of the second byte keep the number above the shorter form and below the last code
point. -/
theorem utf8EncodeChar_four {a b c d : UInt8} (ha : 0xF0 ≤ a.toNat ∧ a.toNat < 0xF5)
    (hb : Continues b) (hlong : a.toNat = 0xF0 → 0x90 ≤ b.toNat)
    (hlast : a.toNat = 0xF4 → b.toNat ≤ 0x8F) (hc : Continues c) (hd : Continues d) :
    String.utf8EncodeChar (Char.ofNat (64 * (64 * (64 * (a.toNat - 0xF0) + (b.toNat - 0x80)) +
      (c.toNat - 0x80)) + (d.toNat - 0x80))) = [a, b, c, d] := by
  obtain ⟨hblo, hbhi⟩ := hb
  obtain ⟨hclo, hchi⟩ := hc
  obtain ⟨hdlo, hdhi⟩ := hd
  generalize hn : 64 * (64 * (64 * (a.toNat - 0xF0) + (b.toNat - 0x80)) + (c.toNat - 0x80)) +
    (d.toNat - 0x80) = n
  have hvalid : n.isValidChar := by
    unfold Nat.isValidChar
    omega
  rw [utf8EncodeChar_ofNat hvalid, if_neg (by omega), if_neg (by omega), if_neg (by omega)]
  have h₁ : UInt8.ofNat (n / 262144 % 8 + 240) = a := ofNat_eq (by omega)
  have h₂ : UInt8.ofNat (n / 4096 % 64 + 128) = b := ofNat_eq (by omega)
  have h₃ : UInt8.ofNat (n / 64 % 64 + 128) = c := ofNat_eq (by omega)
  have h₄ : UInt8.ofNat (n % 64 + 128) = d := ofNat_eq (by omega)
  rw [h₁, h₂, h₃, h₄]

/-! ## Sequences -/

theorem utf8Continue_succ {lo hi follow count bits n : Nat} {bytes rest : List UInt8}
    (h : utf8Continue lo hi (follow + 1) count bits bytes = .ok (n, rest)) :
    ∃ b more, bytes = b :: more ∧ lo ≤ b.toNat ∧ b.toNat ≤ hi ∧
      utf8Continue 0x80 0xBF follow (count + 1) (64 * bits + (b.toNat - 0x80)) more = .ok (n, rest) := by
  cases bytes with
  | nil => cases h
  | cons b more =>
    rw [utf8Continue] at h
    split at h
    · next hbounds => exact ⟨b, more, rfl, hbounds.1, hbounds.2, h⟩
    · cases h

/-- What a lead byte says: how many bytes follow, and the bounds of the first of them. -/
theorem utf8Lead?_eq_some {b : Nat} {lead : Utf8Lead} (h : utf8Lead? b = some lead) :
    (b < 0x80 ∧ lead.follow = 0 ∧ lead.bits = b) ∨
    ((0xC2 ≤ b ∧ b < 0xE0) ∧ lead.follow = 1 ∧ lead.bits = b - 0xC0 ∧
      lead.lo = 0x80 ∧ lead.hi = 0xBF) ∨
    ((0xE0 ≤ b ∧ b < 0xF0) ∧ lead.follow = 2 ∧ lead.bits = b - 0xE0 ∧
      0x80 ≤ lead.lo ∧ lead.hi ≤ 0xBF ∧ (b = 0xE0 → lead.lo = 0xA0) ∧ (b = 0xED → lead.hi = 0x9F)) ∨
    (0xF0 ≤ b ∧ b < 0xF5) ∧ lead.follow = 3 ∧ lead.bits = b - 0xF0 ∧
      0x80 ≤ lead.lo ∧ lead.hi ≤ 0xBF ∧ (b = 0xF0 → lead.lo = 0x90) ∧ (b = 0xF4 → lead.hi = 0x8F) := by
  unfold utf8Lead? at h
  by_cases h₁ : b < 0x80
  · rw [if_pos h₁] at h
    rw [← Option.some.inj h]
    exact Or.inl ⟨h₁, rfl, rfl⟩
  rw [if_neg h₁] at h
  by_cases h₂ : b < 0xC2
  · rw [if_pos h₂] at h
    simp at h
  rw [if_neg h₂] at h
  by_cases h₃ : b < 0xE0
  · rw [if_pos h₃] at h
    rw [← Option.some.inj h]
    exact Or.inr (Or.inl ⟨⟨by omega, h₃⟩, rfl, rfl, rfl, rfl⟩)
  rw [if_neg h₃] at h
  refine Or.inr (Or.inr ?_)
  -- of the leads of longer sequences, the first and the last ones have bounds of their own
  by_cases h₄ : b = 0xE0
  · rw [if_pos h₄] at h
    rw [← Option.some.inj h, h₄]
    exact Or.inl (by decide)
  rw [if_neg h₄] at h
  by_cases h₅ : b = 0xED
  · rw [if_pos h₅] at h
    rw [← Option.some.inj h, h₅]
    exact Or.inl (by decide)
  rw [if_neg h₅] at h
  by_cases h₆ : b < 0xF0
  · rw [if_pos h₆] at h
    rw [← Option.some.inj h]
    exact Or.inl ⟨⟨by omega, h₆⟩, rfl, rfl, Nat.le_refl _, Nat.le_refl _, (absurd · h₄), (absurd · h₅)⟩
  rw [if_neg h₆] at h
  refine Or.inr ?_
  by_cases h₇ : b = 0xF0
  · rw [if_pos h₇] at h
    rw [← Option.some.inj h, h₇]
    decide
  rw [if_neg h₇] at h
  by_cases h₈ : b < 0xF4
  · rw [if_pos h₈] at h
    rw [← Option.some.inj h]
    exact ⟨⟨by omega, by omega⟩, rfl, rfl, Nat.le_refl _, Nat.le_refl _, (absurd · h₇),
      (absurd · (by omega))⟩
  rw [if_neg h₈] at h
  by_cases h₉ : b = 0xF4
  · rw [if_pos h₉] at h
    rw [← Option.some.inj h, h₉]
    decide
  · rw [if_neg h₉] at h
    simp at h

/-- **A sequence that is taken is the encoding of its character.** -/
theorem encode_of_utf8Continue {b : UInt8} {lead : Utf8Lead} {bytes rest : List UInt8} {n : Nat}
    (hlead : utf8Lead? b.toNat = some lead)
    (h : utf8Continue lead.lo lead.hi lead.follow 1 lead.bits bytes = .ok (n, rest)) :
    b :: bytes = String.utf8EncodeChar (Char.ofNat n) ++ rest := by
  rcases utf8Lead?_eq_some hlead with ⟨hb, hfollow, hbits⟩ | ⟨hb, hfollow, hbits, hlo, hhi⟩ |
    ⟨hb, hfollow, hbits, hlo, hhi, hlong, hsurrogate⟩ | ⟨hb, hfollow, hbits, hlo, hhi, hlong, hlast⟩
  · rw [hfollow, hbits] at h
    obtain ⟨rfl, rfl⟩ := Prod.mk.inj (Except.ok.inj h)
    rw [utf8EncodeChar_one hb]
    rfl
  · rw [hfollow, hbits, hlo, hhi] at h
    obtain ⟨c, more, rfl, hclo, hchi, h⟩ := utf8Continue_succ h
    obtain ⟨rfl, rfl⟩ := Prod.mk.inj (Except.ok.inj h)
    rw [utf8EncodeChar_two hb ⟨hclo, hchi⟩]
    rfl
  · rw [hfollow, hbits] at h
    obtain ⟨c, more, rfl, hclo, hchi, h⟩ := utf8Continue_succ h
    obtain ⟨d, more, rfl, hdlo, hdhi, h⟩ := utf8Continue_succ h
    obtain ⟨rfl, rfl⟩ := Prod.mk.inj (Except.ok.inj h)
    rw [utf8EncodeChar_three hb ⟨by omega, by omega⟩ (fun he => hlong he ▸ hclo)
      (fun he => hsurrogate he ▸ hchi) ⟨hdlo, hdhi⟩]
    rfl
  · rw [hfollow, hbits] at h
    obtain ⟨c, more, rfl, hclo, hchi, h⟩ := utf8Continue_succ h
    obtain ⟨d, more, rfl, hdlo, hdhi, h⟩ := utf8Continue_succ h
    obtain ⟨e, more, rfl, helo, hehi, h⟩ := utf8Continue_succ h
    obtain ⟨rfl, rfl⟩ := Prod.mk.inj (Except.ok.inj h)
    rw [utf8EncodeChar_four hb ⟨by omega, by omega⟩ (fun he => hlong he ▸ hclo)
      (fun he => hlast he ▸ hchi) ⟨hdlo, hdhi⟩ ⟨helo, hehi⟩]
    rfl

/-! ## Texts -/

theorem encodeUtf8_cons (c : Char) (cs : List Char) :
    encodeUtf8 (c :: cs) = String.utf8EncodeChar c ++ encodeUtf8 cs := List.flatMap_cons

theorem encodeUtf8_of_decodeUtf8From : ∀ {steps start : Nat} {bytes : List UInt8} {cs : List Char},
    bytes.length ≤ steps → decodeUtf8From steps start bytes = .ok cs → encodeUtf8 cs = bytes
  | _, _, [], _, _, h => by
    rw [decodeUtf8From] at h
    obtain rfl := Except.ok.inj h
    rfl
  | steps + 1, start, b :: bytes, cs, hle, h => by
    rw [decodeUtf8From] at h
    split at h
    · cases h
    · next lead hlead =>
      split at h
      · cases h
      · next n rest hcontinue =>
        have hbytes := encode_of_utf8Continue hlead hcontinue
        -- a character takes at least one byte, so there are steps enough for the rest
        have hlength : rest.length ≤ steps := by
          have hpos := List.length_pos_iff.mpr (String.utf8EncodeChar_ne_nil (c := Char.ofNat n))
          have htotal := congrArg List.length hbytes
          rw [List.length_cons, List.length_append] at htotal
          rw [List.length_cons] at hle
          omega
        split at h
        · cases h
        · next ds hrest =>
          obtain rfl := Except.ok.inj h
          rw [encodeUtf8_cons, encodeUtf8_of_decodeUtf8From hlength hrest, ← hbytes]

/-- **Bytes that can be decoded are the encoding of the text.** -/
theorem encodeUtf8_of_decodeUtf8 {bytes : List UInt8} {cs : List Char} (h : decodeUtf8 bytes = .ok cs) :
    encodeUtf8 cs = bytes := encodeUtf8_of_decodeUtf8From (Nat.le_refl _) h

end Highlight.Text
