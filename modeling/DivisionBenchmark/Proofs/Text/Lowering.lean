import DivisionBenchmark.Text.Blank
import DivisionBenchmark.Text.Lowercase

/-!
# What is lowered to plain characters

ASCII characters and blanks are plain. Texts of them are lowered character by character, as ASCII
letters are (`DivisionBenchmark.Text.lower_of_plain`): blanks have no case.

The other way round, almost nothing beyond ASCII is lowered to a plain character. The exceptions are
the capital I with a dot, which is lowered to the letter `i` and a mark, and the sign of the kelvin,
which is lowered to the letter `k`. A text in lower case that is plain and holds neither letter
comes from a plain text (`DivisionBenchmark.Text.plain_of_lower`). Both facts are read off the table
of letter case, run by run.
-/

namespace DivisionBenchmark.Text

/-! ### Plain characters -/

/-- **A plain character**: of ASCII, or a blank. -/
def IsPlain (c : Char) : Prop := c.toNat < 128 ∨ isBlank c = true

instance (c : Char) : Decidable (IsPlain c) := inferInstanceAs (Decidable (_ ∨ _))

/-- The blanks, by ranges. -/
def blankRanges : Ranges := [
  (9, 13), (0x20, 0x20), (0x85, 0x85), (0xA0, 0xA0), (0x1680, 0x1680), (0x2000, 0x200A),
  (0x2028, 0x2029), (0x202F, 0x202F), (0x205F, 0x205F), (0x3000, 0x3000)]

theorem isBlank_iff {c : Char} :
    isBlank c = true ↔ ∃ range ∈ blankRanges, range.1 ≤ c.toNat ∧ c.toNat ≤ range.2 := by
  simp only [isBlank, blankRanges, List.mem_cons, List.not_mem_nil, or_false, exists_eq_or_imp,
    exists_eq_left, Bool.or_eq_true, Bool.and_eq_true, decide_eq_true_eq, beq_iff_eq]
  omega

/-! ### The table of letter case -/

theorem CaseRun.bounds {run : CaseRun} {n : Nat} (h : run.contains n) :
    run.first ≤ n ∧ n ≤ run.last := by
  simp only [contains, Bool.and_eq_true, decide_eq_true_eq] at h
  exact h.1

/-- No blank has a lower-case partner. -/
theorem not_blank_of_caseRuns : ∀ run ∈ caseRuns, ∀ range ∈ blankRanges,
    run.last < range.1 ∨ range.2 < run.first := by
  decide +kernel

/-- The partners of a run are beyond ASCII, and are no blanks. -/
def CaseRun.Beyond (run : CaseRun) : Prop :=
  128 ≤ run.first + run.shift ∧
    (run.last + run.shift < 0xD800 ∨
      0xE000 ≤ run.first + run.shift ∧ run.last + run.shift < 0x110000) ∧
    ∀ range ∈ blankRanges, run.last + run.shift < range.1 ∨ range.2 < run.first + run.shift

instance (run : CaseRun) : Decidable run.Beyond :=
  inferInstanceAs (Decidable (_ ∧ _ ∧ _))

/-- The partners of all characters but the sign of the kelvin are beyond ASCII, and no blanks. -/
theorem beyond_of_caseRuns : ∀ run ∈ caseRuns,
    run.Beyond ∨ run.first = 0x212A ∧ run.last = 0x212A ∧ run.shift = -8383 := by
  decide +kernel

/-! ### ASCII letters -/

theorem isUpper_iff {c : Char} : c.isUpper = true ↔ 65 ≤ c.toNat ∧ c.toNat ≤ 90 :=
  decide_eq_true_iff

theorem isLower_iff {c : Char} : c.isLower = true ↔ 97 ≤ c.toNat ∧ c.toNat ≤ 122 :=
  Bool.and_eq_true_iff.trans (and_congr decide_eq_true_iff decide_eq_true_iff)

/-- A character is its own lower case, or is lowered to a letter. -/
theorem toLower_eq_or_isLower (c : Char) : c.toLower = c ∨ c.isUpper ∧ c.toLower.isLower := by
  by_cases hupper : 'A'.val ≤ c.val ∧ c.val ≤ 'Z'.val
  · have hrange : 65 ≤ c.toNat ∧ c.toNat ≤ 90 := hupper
    have htoNat : c.toLower.toNat = c.toNat + 32 := by
      rw [show c.toLower = ⟨c.val + 32, _⟩ from dif_pos hupper]
      have hlt : c.val.toNat + 32 < 2 ^ 32 := by
        have hle : c.val.toNat ≤ 90 := hrange.2
        omega
      exact (UInt32.toNat_add c.val 32).trans (Nat.mod_eq_of_lt hlt)
    refine Or.inr ⟨isUpper_iff.mpr hrange, isLower_iff.mpr ?_⟩
    omega
  · exact Or.inl (dif_neg hupper)

theorem isAlpha_iff {c : Char} : c.isAlpha = true ↔ c.isUpper = true ∨ c.isLower = true :=
  Bool.or_eq_true_iff

theorem isAlpha_eq_false_iff {c : Char} :
    c.isAlpha = false ↔ c.isUpper = false ∧ c.isLower = false :=
  Bool.or_eq_false_iff

/-- No blank is a letter. -/
theorem isAlpha_of_isBlank {c : Char} (h : isBlank c = true) : c.isAlpha = false := by
  obtain ⟨range, hrange, hfirst, hlast⟩ := isBlank_iff.mp h
  have hapart : ∀ range ∈ blankRanges, range.2 < 65 ∨ 122 < range.1 := by decide
  have := hapart range hrange
  rw [isAlpha_eq_false_iff, Bool.eq_false_iff, Bool.eq_false_iff, ne_eq, ne_eq, isUpper_iff,
    isLower_iff]
  omega

/-- What is no letter is its own lower case. -/
theorem map_toLower_of_not_isAlpha {cs : List Char} (h : ∀ c ∈ cs, c.isAlpha = false) :
    cs.map Char.toLower = cs := by
  refine (List.map_congr_left fun c hc => ?_).trans (List.map_id cs)
  refine (toLower_eq_or_isLower c).resolve_right fun hupper => ?_
  rw [(isAlpha_eq_false_iff.mp (h c hc)).1] at hupper
  cases hupper.1

/-- What is lowered to no letter is its own lower case. -/
theorem eq_of_map_toLower {cs ds : List Char} (h : cs.map Char.toLower = ds)
    (hds : ∀ d ∈ ds, d.isAlpha = false) : cs = ds := by
  rw [← h]
  refine ((List.map_congr_left fun c hc => ?_).trans (List.map_id cs)).symm
  refine (toLower_eq_or_isLower c).resolve_right fun hlower => ?_
  rw [(isAlpha_eq_false_iff.mp (hds c.toLower (h ▸ List.mem_map_of_mem hc))).2] at hlower
  cases hlower.2

/-! ### Character by character -/

theorem toLower_of_le {c : Char} (h : 128 ≤ c.toNat) : c.toLower = c := by
  refine (toLower_eq_or_isLower c).resolve_right fun hupper => ?_
  have := (isUpper_iff.mp hupper.1).2
  omega

theorem lowerChar_of_plain {c : Char} (h : IsPlain c) : lowerChar c = [c.toLower] := by
  by_cases hascii : c.toNat < 128
  · exact if_pos hascii
  · obtain ⟨range, hrange, hfirst, hlast⟩ := isBlank_iff.mp (h.resolve_left hascii)
    have hdot : c.toNat ≠ 0x130 := by
      have hapart : ∀ range ∈ blankRanges, range.2 < 0x130 ∨ 0x130 < range.1 := by decide
      have := hapart range hrange
      omega
    have hnone : caseRuns.find? (·.contains c.toNat) = none := by
      refine List.find?_eq_none.mpr fun run hrun hcontains => ?_
      have hbounds := run.bounds hcontains
      have := not_blank_of_caseRuns run hrun range hrange
      omega
    rw [lowerChar, if_neg hascii, if_neg hdot, hnone, toLower_of_le (Nat.not_lt.mp hascii)]

/-- The partners of a run are no plain characters. -/
theorem CaseRun.Beyond.not_isPlain {run : CaseRun} {n : Nat} (h : run.Beyond)
    (hn : run.contains n) : ¬ IsPlain (Char.ofNat (n + run.shift).toNat) := by
  obtain ⟨hlow, hvalid, hblank⟩ := h
  have hbounds := run.bounds hn
  have htoNat : (Char.ofNat (n + run.shift).toNat).toNat = (n + run.shift).toNat := by
    have hchar : (n + run.shift).toNat.isValidChar := by
      rw [Nat.isValidChar]
      omega
    rw [Char.ofNat, dif_pos hchar]
    rfl
  rintro (hascii | his)
  · rw [htoNat] at hascii
    omega
  · obtain ⟨range, hrange, hfirst, hlast⟩ := isBlank_iff.mp his
    rw [htoNat] at hfirst hlast
    have := hblank range hrange
    omega

/-- **What is lowered to a plain character is plain**, but for the letters `i` and `k`. -/
theorem isPlain_of_mem_lowerChar {c d : Char} (hmem : d ∈ lowerChar c) (hd : IsPlain d)
    (hi : d ≠ 'i') (hk : d ≠ 'k') : IsPlain c := by
  unfold lowerChar at hmem
  split at hmem
  · rename_i hascii
    exact Or.inl hascii
  · split at hmem
    · rcases List.mem_cons.mp hmem with rfl | hmark
      · exact absurd rfl hi
      · obtain rfl := List.mem_singleton.mp hmark
        exact absurd hd (by decide)
    · split at hmem
      · rename_i run hrun
        obtain rfl := List.mem_singleton.mp hmem
        have hcontains : run.contains c.toNat :=
          @List.find?_some _ (fun run : CaseRun => run.contains c.toNat) _ _ hrun
        rcases beyond_of_caseRuns run (List.mem_of_find?_eq_some hrun) with hbeyond | hkelvin
        · exact absurd hd (hbeyond.not_isPlain hcontains)
        · obtain ⟨hfirst, hlast, hshift⟩ := hkelvin
          have hbounds := run.bounds hcontains
          have : c.toNat = 0x212A := by omega
          rw [this, hshift] at hk
          exact absurd rfl hk
      · obtain rfl := List.mem_singleton.mp hmem
        exact hd

theorem lowerChar_ne_nil (c : Char) : lowerChar c ≠ [] := by
  unfold lowerChar
  split
  · nofun
  · split
    · nofun
    · split <;> nofun

/-- Neither sigma is a plain character, and neither is the capital. -/
theorem not_isPlain_lowerSigma (before after : List Char) :
    ¬ IsPlain (lowerSigma before after) := by
  unfold lowerSigma
  split
  · decide
  · decide

theorem ne_capitalSigma_of_isPlain {c : Char} (h : IsPlain c) : c ≠ capitalSigma := by
  rintro rfl
  exact absurd h (by decide)

/-! ### Texts -/

/-- What stands before a text does not matter where there is no sigma. -/
theorem lowerAfter_of_plain {cs : List Char} (h : ∀ c ∈ cs, IsPlain c) (before : List Char) :
    lowerAfter before cs = cs.map Char.toLower := by
  induction cs generalizing before with
  | nil => rfl
  | cons c cs ih =>
    obtain ⟨hc, hcs⟩ := List.forall_mem_cons.mp h
    rw [lowerAfter, if_neg (ne_capitalSigma_of_isPlain hc), lowerChar_of_plain hc, ih hcs]
    rfl

/-- **Plain texts are lowered as ASCII letters are.** -/
theorem lower_of_plain {cs : List Char} (h : ∀ c ∈ cs, IsPlain c) :
    lower cs = cs.map Char.toLower :=
  lowerAfter_of_plain h []

theorem plain_of_lowerAfter {before cs : List Char}
    (h : ∀ d ∈ lowerAfter before cs, IsPlain d ∧ d ≠ 'i' ∧ d ≠ 'k') : ∀ c ∈ cs, IsPlain c := by
  induction cs generalizing before with
  | nil => nofun
  | cons c cs ih =>
    rw [lowerAfter] at h
    obtain ⟨hthis, hrest⟩ := List.forall_mem_append.mp h
    refine List.forall_mem_cons.mpr ⟨?_, ih hrest⟩
    split at hthis
    · exact absurd (hthis _ List.mem_cons_self).1 (not_isPlain_lowerSigma before cs)
    · obtain ⟨d, hd⟩ := List.exists_mem_of_ne_nil _ (lowerChar_ne_nil c)
      obtain ⟨hplain, hi, hk⟩ := hthis d hd
      exact isPlain_of_mem_lowerChar hd hplain hi hk

/-- **A text that is lowered to plain characters is plain**, where neither letter is among them that
comes from beyond ASCII. -/
theorem plain_of_lower {cs : List Char}
    (h : ∀ d ∈ lower cs, IsPlain d ∧ d ≠ 'i' ∧ d ≠ 'k') : ∀ c ∈ cs, IsPlain c :=
  plain_of_lowerAfter h

end DivisionBenchmark.Text
