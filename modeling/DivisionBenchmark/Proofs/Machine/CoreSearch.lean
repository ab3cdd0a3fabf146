import DivisionBenchmark.Proofs.Machine.CoreGrammar
import Mathlib.Order.Bounds.Basic

/-!
# Searching the cores of a list

A core list denotes the cores that its parts name (`DivisionBenchmark.CoreList.Denotes`), and those
that are read are just these, ascending. No room is asked for here: a text that was read had it.

The rows of a list may be long, and a core that is not below a number is looked for without writing
them out (`DivisionBenchmark.CoreList.leastFrom?`). Because the written-out list ascends, this is
what a search of it from its start finds (`DivisionBenchmark.CoreList.leastFrom?_eq_find?`), and so
the least core there is, however the parts of the list are arranged.
-/

namespace DivisionBenchmark.CoreList

/-! ### What a text denotes -/

/-- **A text denotes a core**: one of its parts names it. -/
def Denotes (text : String) (core : Nat) : Prop :=
  ∃ part ∈ parts text, ∃ first last, Names part first last ∧ first ≤ core ∧ core ≤ last

/-- Where parts are read together, each of them is. -/
theorem map_readPart_of_readParts {size : Nat} {parts : List (List Char)} {rows : List Row}
    (h : readParts size parts = .ok rows) : parts.map readPart = rows.map .ok := by
  induction parts generalizing size rows with
  | nil =>
    obtain rfl := Except.ok.inj h
    rfl
  | cons part parts ih =>
    cases hpart : readPart part with
    | error error => cases (readParts_cons_of_error hpart).symm.trans h
    | ok row =>
      rcases Nat.lt_or_ge (size + row.size) Count.capacity with hroom | hfull
      · rw [readParts_cons_of_ok hpart hroom, map_eq_ok_iff] at h
        obtain ⟨rest, hrest, rfl⟩ := h
        rw [List.map_cons, List.map_cons, hpart, ih hrest]
      · rw [readParts, hpart] at h
        change (if Count.capacity ≤ size + row.size then _ else _) = _ at h
        rw [if_pos hfull] at h
        cases h

section parse

variable {text : String} {cores : List Nat}

theorem exists_rows_of_parse (h : parse text = .ok cores) :
    ∃ rows, (parts text).map readPart = rows.map .ok ∧ coresOf rows = cores := by
  rw [parse_eq, map_eq_ok_iff] at h
  obtain ⟨rows, hrows, hcores⟩ := h
  exact ⟨rows, map_readPart_of_readParts hrows, hcores⟩

/-- **The cores that are read are those the text denotes.** -/
theorem mem_iff_of_parse (h : parse text = .ok cores) (core : Nat) :
    core ∈ cores ↔ Denotes text core := by
  obtain ⟨rows, hrows, rfl⟩ := exists_rows_of_parse h
  exact mem_coresOf_of_map hrows core

/-- They ascend, and none is repeated. -/
theorem pairwise_of_parse (h : parse text = .ok cores) : cores.Pairwise (· < ·) := by
  obtain ⟨rows, -, rfl⟩ := exists_rows_of_parse h
  exact pairwise_coresOf rows

end parse

/-! ### The least core from a number on -/

section leastFrom?

variable {bound core : Nat} {cores : List Nat} {row : Row} {rows : List Row}

theorem Row.leastFrom?_eq_some_iff :
    row.leastFrom? bound = some core ↔
      max row.first bound = core ∧ core < row.first + row.size := by
  unfold leastFrom?
  split
  · rw [Option.some.injEq]
    exact ⟨fun h => ⟨h, h ▸ ‹_›⟩, And.left⟩
  · exact ⟨nofun, fun ⟨h, hlt⟩ => absurd (h ▸ hlt) ‹_›⟩

/-- What is found in rows is the least of their cores from the number on. -/
theorem isLeast_of_leastFrom? (h : leastFrom? bound rows = some core) :
    IsLeast {core | core ∈ coresOf rows ∧ bound ≤ core} core := by
  obtain ⟨hmem, hle⟩ := List.min?_eq_some_iff.mp h
  obtain ⟨row, hrow, hfound⟩ := List.mem_filterMap.mp hmem
  obtain ⟨rfl, hlt⟩ := Row.leastFrom?_eq_some_iff.mp hfound
  refine ⟨⟨mem_coresOf.mpr ⟨row, hrow, Nat.le_max_left .., hlt⟩, Nat.le_max_right ..⟩, ?_⟩
  rintro other ⟨hother, hbound⟩
  obtain ⟨row', hrow', hfirst, hlast⟩ := mem_coresOf.mp hother
  -- the row of the other core has a least core of its own
  have hmax : max row'.first bound ≤ other := Nat.max_le.mpr ⟨hfirst, hbound⟩
  have hfound' : row'.leastFrom? bound = some (max row'.first bound) :=
    Row.leastFrom?_eq_some_iff.mpr ⟨rfl, Nat.lt_of_le_of_lt hmax hlast⟩
  exact (hle _ (List.mem_filterMap.mpr ⟨row', hrow', hfound'⟩)).trans hmax

/-- What is found first in ascending cores is the least. -/
theorem isLeast_of_find? (hcores : cores.Pairwise (· < ·))
    (h : cores.find? (bound ≤ ·) = some core) :
    IsLeast {core | core ∈ cores ∧ bound ≤ core} core := by
  obtain ⟨hcore, before, after, rfl, hbefore⟩ := List.find?_eq_some_iff_append.mp h
  refine ⟨⟨List.mem_append_right _ List.mem_cons_self, of_decide_eq_true hcore⟩, ?_⟩
  rintro other ⟨hother, hbound⟩
  rcases List.mem_append.mp hother with hmem | hmem
  · have hnot := hbefore other hmem
    rw [decide_eq_true hbound] at hnot
    cases hnot
  · obtain ⟨-, hrest, -⟩ := List.pairwise_append.mp hcores
    rcases List.mem_cons.mp hmem with rfl | hafter
    · exact Nat.le_refl _
    · exact (List.rel_of_pairwise_cons hrest hafter).le

theorem find?_eq_none_iff :
    cores.find? (bound ≤ ·) = none ↔ ∀ core ∈ cores, core < bound := by
  simp only [List.find?_eq_none, decide_eq_true_eq, Nat.not_le]

/-- Whatever is least is found. -/
theorem find?_eq_some_iff (hcores : cores.Pairwise (· < ·)) :
    cores.find? (bound ≤ ·) = some core ↔
      IsLeast {core | core ∈ cores ∧ bound ≤ core} core := by
  refine ⟨isLeast_of_find? hcores, fun hleast => ?_⟩
  cases hfind : cores.find? (bound ≤ ·) with
  | none =>
    have hlt := find?_eq_none_iff.mp hfind core hleast.1.1
    exact absurd hleast.1.2 (Nat.not_le.mpr hlt)
  | some found => exact congrArg some ((isLeast_of_find? hcores hfind).unique hleast)

/-- **Rows are searched as if they were written out**, from the least of their cores on. -/
theorem leastFrom?_eq_find? (bound : Nat) (rows : List Row) :
    leastFrom? bound rows = (coresOf rows).find? (bound ≤ ·) := by
  cases hleast : leastFrom? bound rows with
  | none => exact (find?_eq_none_iff.mpr (leastFrom?_eq_none_iff.mp hleast)).symm
  | some core =>
    exact ((find?_eq_some_iff (pairwise_coresOf rows)).mpr (isLeast_of_leastFrom? hleast)).symm

end leastFrom?

end DivisionBenchmark.CoreList
