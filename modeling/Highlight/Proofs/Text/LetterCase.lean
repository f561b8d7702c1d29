import Highlight.Text.LetterCase

/-!
# Lower case stays lower case

The characters that lower case changes are the capital letters of ASCII, the capital I with a dot, and
those in the runs of the table; the capital sigma is one of the latter.  None of their images is such a
character again, so the lower case of a text is its own lower case (`lower_lower`).

That no image is a capital is checked by computing.  The capitals are the bits of one number for this
(`capitals`), so that looking one up does not go through the table.
-/

namespace Highlight.Text

/-! ## Sets of numbers as bits -/

/-- The number whose bits are the members of a list. -/
def bits : List Nat → Nat
  | [] => 0
  | n :: rest => 1 <<< n ||| bits rest

theorem testBit_bits_of_mem {n : Nat} : ∀ {l : List Nat}, n ∈ l → (bits l).testBit n = true
  | m :: rest, h => by
    rw [bits, Nat.testBit_or]
    rcases List.mem_cons.mp h with rfl | h
    · rw [Nat.one_shiftLeft, Nat.testBit_two_pow_self, Bool.true_or]
    · rw [testBit_bits_of_mem h, Bool.or_true]

/-! ## Capitals -/

/-- The code points of a run of capital letters. -/
def runMembers : Nat × Nat × Nat × Int → List Nat
  | (first, last, distance, _) =>
    (List.range ((last - first) / distance + 1)).map (first + distance * ·)

theorem mem_runMembers {first last distance n : Nat} (offset : Int) (hfirst : first ≤ n)
    (hlast : n ≤ last) (hmod : (n - first) % distance = 0) :
    n ∈ runMembers (first, last, distance, offset) := by
  refine List.mem_map.mpr ⟨(n - first) / distance, List.mem_range.mpr ?_, ?_⟩
  · exact Nat.lt_succ_of_le (Nat.div_le_div_right (Nat.sub_le_sub_right hlast first))
  · rw [Nat.mul_div_cancel' (Nat.dvd_of_mod_eq_zero hmod), Nat.add_sub_cancel' hfirst]

/-- The code points that lower case changes. -/
def capitalCodes : List Nat :=
  0x130 :: 0x3A3 :: runMembers (0x41, 0x5A, 1, 32) ++ capitalRuns.flatMap runMembers

/-- The same as bits. -/
def capitals : Nat := bits capitalCodes

/-- A character that lower case leaves as it is, wherever it stands. -/
def Settled (c : Char) : Prop := c.toNat ≠ 0x3A3 ∧ lowerChar c = [c]

theorem toLower_of_not_mem {c : Char} (h : c.toNat ∉ runMembers (0x41, 0x5A, 1, 32)) :
    c.toLower = c := by
  unfold Char.toLower
  rw [dif_neg]
  rintro ⟨hfirst, hlast⟩
  exact h (mem_runMembers 32 hfirst hlast (Nat.mod_one _))

theorem find?_of_not_mem {n : Nat} (h : n ∉ capitalRuns.flatMap runMembers) :
    capitalRuns.find? (fun (first, last, distance, _) =>
      first ≤ n && n ≤ last && (n - first) % distance == 0) = none := by
  refine List.find?_eq_none.mpr fun ⟨first, last, distance, offset⟩ hmem hin => ?_
  simp only [Bool.and_eq_true, decide_eq_true_eq, beq_iff_eq] at hin
  exact h (List.mem_flatMap.mpr ⟨_, hmem, mem_runMembers offset hin.1.1 hin.1.2 hin.2⟩)

theorem settled_of_not_mem {c : Char} (h : c.toNat ∉ capitalCodes) : Settled c := by
  simp only [capitalCodes, List.cons_append, List.mem_cons, List.mem_append, not_or] at h
  obtain ⟨hdotted, hsigma, hascii, hruns⟩ := h
  refine ⟨hsigma, ?_⟩
  unfold lowerChar
  by_cases hlow : c.toNat < 0x80
  · rw [if_pos hlow, toLower_of_not_mem hascii]
  · rw [if_neg hlow, if_neg hdotted]
    simp only [find?_of_not_mem hruns]

theorem settled_of_testBit {c : Char} (h : capitals.testBit c.toNat = false) : Settled c :=
  settled_of_not_mem fun hmem => Bool.false_ne_true (h.symm.trans (testBit_bits_of_mem hmem))

/-! ## Images -/

/-- **No image is a capital**: not those in ASCII, not the dot above and the two small sigmas, which
single characters lead to, and not those of the runs. -/
theorem testBit_images :
    (∀ n < 0x80, capitals.testBit (Char.ofNat n).toLower.toNat = false) ∧
    (∀ n ∈ [0x307, 0x3C2, 0x3C3], capitals.testBit (Char.ofNat n).toNat = false) ∧
    ∀ r ∈ capitalRuns, ∀ n ∈ runMembers r,
      capitals.testBit (Char.ofNat (n + r.2.2.2).toNat).toNat = false := by
  decide +kernel

/-- What lower case makes of a character other than the capital sigma, it leaves as it is. -/
theorem settled_of_mem_lowerChar {c d : Char} (hsigma : c.toNat ≠ 0x3A3) (h : d ∈ lowerChar c) :
    Settled d := by
  obtain ⟨hascii, hmarks, hruns⟩ := testBit_images
  unfold lowerChar at h
  split at h
  · next hlow =>
    obtain rfl := List.mem_singleton.mp h
    have himage := hascii c.toNat hlow
    rw [Char.ofNat_toNat] at himage
    exact settled_of_testBit himage
  · next hlow =>
    split at h
    · rcases List.mem_cons.mp h with rfl | h
      · exact settled_of_testBit (hascii 0x69 (by decide))
      · obtain rfl := List.mem_singleton.mp h
        exact settled_of_testBit (hmarks 0x307 (by decide))
    · next hdotted =>
      simp only at h
      split at h
      · next first last distance offset hfind =>
        obtain rfl := List.mem_singleton.mp h
        have hin := List.find?_some hfind
        simp only [Bool.and_eq_true, decide_eq_true_eq, beq_iff_eq] at hin
        exact settled_of_testBit (hruns _ (List.mem_of_find?_eq_some hfind) c.toNat
          (mem_runMembers offset hin.1.1 hin.1.2 hin.2))
      · next hfind =>
        obtain rfl := List.mem_singleton.mp h
        refine ⟨hsigma, ?_⟩
        unfold lowerChar
        rw [if_neg hlow, if_neg hdotted]
        simp only [hfind]

/-! ## Texts -/

theorem settled_of_mem_lowerAfter : ∀ (cs before : List Char), ∀ d ∈ lowerAfter before cs, Settled d
  | [], _, _, h => absurd h List.not_mem_nil
  | c :: rest, before, d, h => by
    rw [lowerAfter] at h
    rcases List.mem_append.mp h with h | h
    · split at h
      · -- a small sigma in either of its forms
        obtain ⟨_, hmarks, _⟩ := testBit_images
        obtain rfl := List.mem_singleton.mp h
        split
        · exact settled_of_testBit (hmarks 0x3C2 (by decide))
        · exact settled_of_testBit (hmarks 0x3C3 (by decide))
      · next hsigma => exact settled_of_mem_lowerChar hsigma h
    · exact settled_of_mem_lowerAfter rest (c :: before) d h

theorem lowerAfter_of_settled : ∀ (cs before : List Char), (∀ c ∈ cs, Settled c) →
    lowerAfter before cs = cs
  | [], _, _ => rfl
  | c :: rest, before, h => by
    obtain ⟨hsigma, hc⟩ := h c List.mem_cons_self
    rw [lowerAfter, lowerAfter_of_settled rest (c :: before) fun d hd => h d (List.mem_cons_of_mem c hd)]
    simp only [if_neg hsigma, hc, List.singleton_append]

/-- **The lower case of a string is its own lower case.** -/
theorem lower_lower (s : String) : lower (lower s) = lower s := by
  rw [lower, lower, String.toList_ofList,
    lowerAfter_of_settled _ [] (settled_of_mem_lowerAfter s.toList [])]

end Highlight.Text
