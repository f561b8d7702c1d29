import Highlight.Files

/-!
# What writing a file changes

A file is written at the place of its path, which is no directory, and nowhere else
(`write_ok_cases`, `node?_write`).  So every directory stays one, every path leads where it led, and
the path that was written is read back as what was written (`read_write`), if it may be read.

Reading crashes over the null character in a path and over nothing else (`read_eq_crash`).
-/

namespace Highlight.Files

variable {fs files : Files}

/-! ## Nodes -/

/-- Whether there is a directory at a place. -/
def IsDirectory (fs : Files) (place : List String) : Prop := ∃ s, fs.node? place = some (.directory s)

/-- The current directory, those above it and the root are directories. -/
theorem node?_of_isTop {place : List String} (h : isTop place = true) :
    fs.node? place = some (.directory (fs.topStamps place)) := by
  unfold node?
  rw [if_pos h]

theorem node?_of_not_isTop {place : List String} (h : isTop place = false) :
    fs.node? place = fs.nodes.lookup place := by
  unfold node?
  rw [if_neg (by simp [h])]

theorem node?_setNode_self {place : List String} (h : isTop place = false) (n : Node) :
    (fs.setNode place n).node? place = some n := by
  rw [node?_of_not_isTop h]
  exact List.lookup_cons_self

/-- A node that is left out is found no more, and every other one as before. -/
theorem lookup_filter_ne {place other : List String} (h : other ≠ place) :
    ∀ nodes : List (List String × Node),
      (nodes.filter (·.1 ≠ place)).lookup other = nodes.lookup other
  | [] => rfl
  | (names, n) :: nodes => by
    by_cases hnames : names = place
    · subst hnames
      rw [List.filter_cons_of_neg (by simp), List.lookup_cons, beq_false_of_ne h]
      exact lookup_filter_ne h nodes
    · rw [List.filter_cons_of_pos (by simpa using hnames), List.lookup_cons, List.lookup_cons,
        lookup_filter_ne h nodes]

theorem node?_setNode_of_ne {place other : List String} (h : other ≠ place) (n : Node) :
    (fs.setNode place n).node? other = fs.node? other := by
  by_cases htop : isTop other = true
  · rw [node?_of_isTop htop, node?_of_isTop htop]
    rfl
  · rw [Bool.not_eq_true] at htop
    rw [node?_of_not_isTop htop, node?_of_not_isTop htop, setNode, List.lookup_cons,
      beq_false_of_ne h]
    exact lookup_filter_ne h fs.nodes

/-! ## Places -/

section Resolve

variable (hrefuses : files.refuses = fs.refuses)
  (hdirectories : ∀ d, fs.IsDirectory d → files.IsDirectory d)

include hrefuses hdirectories

/-- Names lead to the same place wherever the directories on the way are still there and may still be
searched. -/
theorem resolve_mono : ∀ {names place target : List String}, fs.resolve place names = .ok target →
    files.resolve place names = .ok target
  | [], _, _, hresolve => hresolve
  | name :: names, place, target, hresolve => by
    unfold resolve at hresolve ⊢
    split at hresolve
    · cases hresolve
    · cases hresolve
    · next s hdirectory =>
      obtain ⟨s', hdirectory'⟩ := hdirectories place ⟨s, hdirectory⟩
      rw [hdirectory', hrefuses]
      dsimp only
      split at hresolve
      · cases hresolve
      · split at hresolve
        · cases hresolve
        · next hshort =>
          rw [if_neg hshort]
          split at hresolve
          · next hup =>
            rw [if_pos hup]
            exact resolve_mono hresolve
          · next hdown =>
            rw [if_neg hdown]
            exact resolve_mono hresolve

theorem locate_mono {p : Path} {place : List String} (h : fs.locate p = .ok place) :
    files.locate p = .ok place := by
  unfold locate at h ⊢
  split at h
  · cases h
  · next hshort =>
    rw [if_neg hshort]
    exact resolve_mono hrefuses hdirectories h

end Resolve

/-! ## Reading -/

section Read

variable {p : Path} {c : Crash}

theorem read_eq_crash : fs.read p = .error (.crash c) ↔ hasNull p = true ∧ c = .nullCharacter := by
  unfold read
  cases hasNull p with
  | true => simp [eq_comm]
  | false =>
    simp only [Bool.false_eq_true, if_false, false_and, iff_false]
    split <;> simp

/-- Whatever leads to a file does not crash when it is read. -/
theorem read_ne_crash_of_isFile (h : fs.isFile p = .ok true) : fs.read p ≠ .error (.crash c) := by
  intro hcrash
  rw [isFile, if_pos (read_eq_crash.mp hcrash).1] at h
  cases h

end Read

/-! ## Writing -/

section Write

variable {p : Path} {bytes : List UInt8}

/-- What writing does, if it can: the file is put at the place of the path, which is no directory. -/
theorem write_ok_cases (h : fs.write p bytes = .ok files) :
    ∃ place, hasNull p = false ∧ fs.locate p = .ok place ∧ ¬ fs.IsDirectory place ∧
      files = { fs.setNode place (.file bytes (.written fs.writes)) with writes := fs.writes + 1 } := by
  unfold write at h
  split at h
  · cases h
  · next hnull =>
    split at h
    · cases h
    · next place hlocate =>
      split at h
      · cases h
      · next hnot =>
        split at h
        · cases h
        · refine ⟨place, Bool.eq_false_iff.mpr hnull, hlocate, ?_, (Except.ok.inj h).symm⟩
          rintro ⟨s, hs⟩
          exact hnot (by rw [hs]; rfl)

/-- What lies at the place of a file that has been written, and at every other place. -/
theorem node?_write (h : fs.write p bytes = .ok files) :
    ∃ place, hasNull p = false ∧ fs.locate p = .ok place ∧ ¬ fs.IsDirectory place ∧
      files.node? place = some (.file bytes (.written fs.writes)) ∧ files.refuses = fs.refuses ∧
      ∀ other ≠ place, files.node? other = fs.node? other := by
  obtain ⟨place, hnull, hlocate, hnot, rfl⟩ := write_ok_cases h
  have htop : isTop place = false := by
    rw [← Bool.not_eq_true]
    exact fun htop => hnot ⟨_, node?_of_isTop htop⟩
  exact ⟨place, hnull, hlocate, hnot, node?_setNode_self htop _, rfl,
    fun other hne => node?_setNode_of_ne hne _⟩

/-- **A file that has been written is read back**, unless the system refuses to read it. -/
theorem read_write (h : fs.write p bytes = .ok files) {place : List String}
    (hplace : fs.locate p = .ok place) (hread : fs.refuses .read place = none) :
    files.read p = .ok bytes := by
  obtain ⟨place', hnull, hlocate, hnot, hself, hrefuses, hother⟩ := node?_write h
  obtain rfl : place' = place := Except.ok.inj (hlocate.symm.trans hplace)
  -- the place of the file was no directory, so no directory on the way has been replaced
  have hdirectories : ∀ d, fs.IsDirectory d → files.IsDirectory d := by
    rintro d ⟨s, hs⟩
    refine ⟨s, ?_⟩
    rw [hother d fun hd => hnot ⟨s, hd ▸ hs⟩]
    exact hs
  have hfind : files.find .read p = .ok (place', .file bytes (.written fs.writes)) := by
    have hresolve : files.locate p = .ok place' := locate_mono hrefuses hdirectories hlocate
    simp only [find, hresolve, hself, hrefuses, hread]
  unfold read
  rw [hnull, hfind]
  rfl

end Write

end Highlight.Files
