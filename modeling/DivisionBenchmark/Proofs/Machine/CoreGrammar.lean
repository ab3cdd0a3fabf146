import DivisionBenchmark.Machine.CoreList
import DivisionBenchmark.Proofs.Text.Numerals
import Mathlib.Algebra.BigOperators.Group.List.Basic
import Mathlib.Algebra.GroupWithZero.Nat
import Mathlib.Data.List.Sort

/-!
# The grammar of core lists

A core list is split at its commas, and every part is a number or two numbers around its first
hyphen, with blanks wherever they do not cut a number in two. Said without the reader, a part names
cores (`DivisionBenchmark.CoreList.Names`) or is faulty for one reason
(`DivisionBenchmark.CoreList.Faulty`), and the reader follows this division
(`DivisionBenchmark.CoreList.readPart_eq_ok_iff`,
`DivisionBenchmark.CoreList.readPart_eq_error_iff`).

Ranges are written out while the list is read. Where there is room for the cores that are written
out before the first faulty part (`DivisionBenchmark.CoreList.HasRoom`), the list is read part by
part, and the first faulty part decides about the error. What comes out depends on the set of the
cores alone, because a list that ascends is told by its members.

Main statement: `DivisionBenchmark.CoreList.parse_reads_grammar`, lists of cores are read by the
grammar, as the set they stand for.
-/

namespace DivisionBenchmark.CoreList

/-! ### Parts -/

/-- The parts of a list: what stands between its commas, without the blanks around it. -/
def parts (text : String) : List (List Char) := (Text.splitOn ',' text.toList).map Text.trim

theorem parts_ne_nil (text : String) : parts text ≠ [] := fun h =>
  Text.splitOn_ne_nil ',' text.toList (List.map_eq_nil_iff.mp h)

/-- A text stands for a core: it is its numeral, blanks around it aside. -/
def IsCore (text : List Char) (core : Nat) : Prop := Text.Numeral (Text.trim text) core

/-- **A part names the cores from one to another**: it is the number of one core, or the numbers of
both around its first hyphen. -/
inductive Names : List Char → Nat → Nat → Prop where
  /-- One core. -/
  | one {part : List Char} {core : Nat} (hyphen : '-' ∉ part) (number : IsCore part core) :
      Names part core core
  /-- The cores of a range. -/
  | range {before after : List Char} {first last : Nat} (hyphen : '-' ∉ before)
      (start : IsCore before first) (stop : IsCore after last) (le : first ≤ last) :
      Names (before ++ '-' :: after) first last

theorem Names.le {part : List Char} {first last : Nat} (h : Names part first last) :
    first ≤ last := by
  cases h with
  | one => exact Nat.le_refl _
  | range _ _ _ le => exact le

theorem Names.last_lt {part : List Char} {first last : Nat} (h : Names part first last) :
    last < Text.numeralBound := by
  cases h with
  | one _ number => exact number.lt
  | range _ _ stop _ => exact stop.lt

/-- **What is wrong with a part.** A range is read from its start: the start before the end, and
both before they are compared. -/
inductive Faulty : List Char → Error → Prop where
  /-- There is no range, and no number. -/
  | one {part : List Char} {cause : Text.NumeralError} (hyphen : '-' ∉ part)
      (number : Text.readCount (Text.trim part) = .error cause) :
      Faulty part (.badNumber (String.ofList part) cause)
  /-- A range starts with no number. -/
  | start {before after : List Char} {cause : Text.NumeralError} (hyphen : '-' ∉ before)
      (start : Text.readCount (Text.trim before) = .error cause) :
      Faulty (before ++ '-' :: after) (.badNumber (String.ofList before) cause)
  /-- A range starts with a number, and ends with none. -/
  | stop {before after : List Char} {first : Nat} {cause : Text.NumeralError}
      (hyphen : '-' ∉ before) (start : IsCore before first)
      (stop : Text.readCount (Text.trim after) = .error cause) :
      Faulty (before ++ '-' :: after) (.badNumber (String.ofList after) cause)
  /-- A range ends before it starts. -/
  | backwards {before after : List Char} {first last : Nat} (hyphen : '-' ∉ before)
      (start : IsCore before first) (stop : IsCore after last) (lt : last < first) :
      Faulty (before ++ '-' :: after) (.backwards first last)

/-! ### Reading a part -/

theorem readCore_eq_ok_iff {text : List Char} {core : Nat} :
    readCore text = .ok core ↔ IsCore text core := by
  rw [IsCore, ← Text.readCount_eq_ok_iff, readCore]
  cases Text.readCount (Text.trim text) with
  | error cause => simp [Except.mapError]
  | ok n => simp [Except.mapError]

theorem readCore_eq_error_iff {text : List Char} {error : Error} :
    readCore text = .error error ↔ ∃ cause, Text.readCount (Text.trim text) = .error cause ∧
      error = .badNumber (String.ofList text) cause := by
  rw [readCore]
  cases Text.readCount (Text.trim text) with
  | error cause => simp [Except.mapError, eq_comm]
  | ok n => simp [Except.mapError]

theorem readPart_of_notMem {part : List Char} (h : '-' ∉ part) :
    readPart part = (readCore part).map fun core => ⟨core, 1⟩ := by
  rw [readPart, Text.splitOnce?_eq_none_iff.mpr h]
  cases readCore part <;> rfl

/-- The numbers of a range are read in the order in which they are written. -/
theorem readPart_of_hyphen {before : List Char} (h : '-' ∉ before) (after : List Char) :
    readPart (before ++ '-' :: after) = (readCore before >>= fun first =>
      readCore after >>= fun last =>
        if last < first then .error (.backwards first last)
        else .ok ⟨first, last - first + 1⟩) := by
  rw [readPart, Text.splitOnce?_eq_some_iff.mpr ⟨rfl, h⟩]

/-- A part has no hyphen, or a first one. -/
theorem notMem_or_exists_hyphen (part : List Char) :
    '-' ∉ part ∨ ∃ before after, part = before ++ '-' :: after ∧ '-' ∉ before := by
  cases hsplit : Text.splitOnce? '-' part with
  | none => exact Or.inl (Text.splitOnce?_eq_none_iff.mp hsplit)
  | some sides => exact Or.inr ⟨sides.1, sides.2, Text.splitOnce?_eq_some_iff.mp hsplit⟩

theorem Names.readPart_eq {part : List Char} {first last : Nat} (h : Names part first last) :
    readPart part = .ok ⟨first, last - first + 1⟩ := by
  cases h with
  | one hyphen number =>
    rw [readPart_of_notMem hyphen, readCore_eq_ok_iff.mpr number, Nat.sub_self]
    rfl
  | range hyphen start stop le =>
    rw [readPart_of_hyphen hyphen, readCore_eq_ok_iff.mpr start, readCore_eq_ok_iff.mpr stop]
    exact if_neg (Nat.not_lt.mpr le)

theorem Faulty.readPart_eq {part : List Char} {error : Error} (h : Faulty part error) :
    readPart part = .error error := by
  cases h with
  | one hyphen number =>
    rw [readPart_of_notMem hyphen, readCore_eq_error_iff.mpr ⟨_, number, rfl⟩]
    rfl
  | start hyphen start =>
    rw [readPart_of_hyphen hyphen, readCore_eq_error_iff.mpr ⟨_, start, rfl⟩]
    rfl
  | stop hyphen start stop =>
    rw [readPart_of_hyphen hyphen, readCore_eq_ok_iff.mpr start,
      readCore_eq_error_iff.mpr ⟨_, stop, rfl⟩]
    rfl
  | backwards hyphen start stop lt =>
    rw [readPart_of_hyphen hyphen, readCore_eq_ok_iff.mpr start, readCore_eq_ok_iff.mpr stop]
    exact if_pos lt

/-- **Every part names cores or is faulty.** -/
theorem names_or_faulty (part : List Char) :
    (∃ first last, Names part first last) ∨ ∃ error, Faulty part error := by
  rcases notMem_or_exists_hyphen part with hyphen | ⟨before, after, rfl, hyphen⟩
  · cases hnumber : Text.readCount (Text.trim part) with
    | ok core => exact Or.inl ⟨core, core, .one hyphen (Text.readCount_eq_ok_iff.mp hnumber)⟩
    | error cause => exact Or.inr ⟨_, .one hyphen hnumber⟩
  · cases hstart : Text.readCount (Text.trim before) with
    | error cause => exact Or.inr ⟨_, .start hyphen hstart⟩
    | ok first =>
      have start : IsCore before first := Text.readCount_eq_ok_iff.mp hstart
      cases hstop : Text.readCount (Text.trim after) with
      | error cause => exact Or.inr ⟨_, .stop hyphen start hstop⟩
      | ok last =>
        have stop : IsCore after last := Text.readCount_eq_ok_iff.mp hstop
        rcases Nat.lt_or_ge last first with lt | le
        · exact Or.inr ⟨_, .backwards hyphen start stop lt⟩
        · exact Or.inl ⟨first, last, .range hyphen start stop le⟩

/-- **A part is read where it names cores**, and as these. -/
theorem readPart_eq_ok_iff {part : List Char} {row : Row} :
    readPart part = .ok row ↔ ∃ first last, Names part first last ∧
      row = ⟨first, last - first + 1⟩ := by
  constructor
  · intro h
    rcases names_or_faulty part with ⟨first, last, hnames⟩ | ⟨error, hfaulty⟩
    · exact ⟨first, last, hnames, Except.ok.inj (h.symm.trans hnames.readPart_eq)⟩
    · cases h.symm.trans hfaulty.readPart_eq
  · rintro ⟨first, last, hnames, rfl⟩
    exact hnames.readPart_eq

/-- **A part is rejected where it is faulty**, and for this. -/
theorem readPart_eq_error_iff {part : List Char} {error : Error} :
    readPart part = .error error ↔ Faulty part error := by
  constructor
  · intro h
    rcases names_or_faulty part with ⟨first, last, hnames⟩ | ⟨error', hfaulty⟩
    · cases h.symm.trans hnames.readPart_eq
    · cases h.symm.trans hfaulty.readPart_eq
      exact hfaulty
  · exact Faulty.readPart_eq

theorem exists_readPart_iff {part : List Char} :
    (∃ row, readPart part = .ok row) ↔ ∃ first last, Names part first last := by
  simp only [readPart_eq_ok_iff]
  constructor
  · rintro ⟨row, first, last, hnames, -⟩
    exact ⟨first, last, hnames⟩
  · rintro ⟨first, last, hnames⟩
    exact ⟨_, first, last, hnames, rfl⟩

/-! ### Reading the parts in order -/

/-- How many cores are written out before the first faulty part. -/
def coresSpelt : List (List Char) → Nat
  | [] => 0
  | part :: parts =>
    match readPart part with
    | .ok row => row.size + coresSpelt parts
    | .error _ => 0

section readParts

variable {size : Nat} {part : List Char} {parts : List (List Char)} {row : Row} {error : Error}

theorem coresSpelt_cons_of_ok (h : readPart part = .ok row) :
    coresSpelt (part :: parts) = row.size + coresSpelt parts := by
  rw [coresSpelt, h]

/-- The cores of a part for which there is room are followed by those of the other parts. -/
theorem readParts_cons_of_ok (h : readPart part = .ok row)
    (hroom : size + row.size < Count.capacity) :
    readParts size (part :: parts) = (row :: ·) <$> readParts (size + row.size) parts := by
  rw [readParts, h]
  show (if Count.capacity ≤ size + row.size then _ else _) = _
  rw [if_neg (Nat.not_le.mpr hroom)]
  rfl

theorem readParts_cons_of_error (h : readPart part = .error error) :
    readParts size (part :: parts) = .error error := by
  rw [readParts, h]
  rfl

/-- **Parts are read where each of them is**, as long as there is room. -/
theorem readParts_eq_ok_iff {rows : List Row}
    (hroom : size + coresSpelt parts < Count.capacity) :
    readParts size parts = .ok rows ↔ parts.map readPart = rows.map .ok := by
  induction parts generalizing size rows with
  | nil => cases rows <;> simp [readParts]
  | cons part parts ih =>
    cases hpart : readPart part with
    | error error =>
      rw [readParts_cons_of_error hpart, List.map_cons, hpart]
      cases rows <;> simp
    | ok row =>
      rw [coresSpelt_cons_of_ok hpart] at hroom
      rw [← Nat.add_assoc] at hroom
      rw [readParts_cons_of_ok hpart (by omega), map_eq_ok_iff, List.map_cons, hpart]
      simp only [ih hroom]
      constructor
      · rintro ⟨rest, hrest, rfl⟩
        rw [hrest, List.map_cons]
      · intro h
        cases rows with
        | nil => cases h
        | cons row' rows =>
          obtain ⟨hrow, hrest⟩ := List.cons.inj h
          exact ⟨rows, hrest, by rw [Except.ok.inj hrow]⟩

/-- **The first faulty part is what is reported**, as long as there is room. -/
theorem readParts_eq_error_iff (hroom : size + coresSpelt parts < Count.capacity) :
    readParts size parts = .error error ↔ ∃ before part after, parts = before ++ part :: after ∧
      (∀ earlier ∈ before, ∃ row, readPart earlier = .ok row) ∧
      readPart part = .error error := by
  induction parts generalizing size with
  | nil => simp [readParts]
  | cons part parts ih =>
    cases hpart : readPart part with
    | error error' =>
      rw [readParts_cons_of_error hpart]
      constructor
      · rintro ⟨⟩
        exact ⟨[], part, parts, rfl, nofun, hpart⟩
      · rintro ⟨before, bad, after, hparts, hbefore, hbad⟩
        cases before with
        | nil =>
          cases hparts
          cases hpart.symm.trans hbad
          rfl
        | cons earlier before =>
          cases hparts
          obtain ⟨row, hrow⟩ := hbefore part List.mem_cons_self
          cases hrow.symm.trans hpart
    | ok row =>
      rw [coresSpelt_cons_of_ok hpart] at hroom
      rw [readParts_cons_of_ok hpart (by omega)]
      have hrest : (row :: ·) <$> readParts (size + row.size) parts = .error error ↔
          readParts (size + row.size) parts = .error error := by
        cases readParts (size + row.size) parts <;> simp
      rw [hrest, ih (by omega)]
      constructor
      · rintro ⟨before, bad, after, rfl, hbefore, hbad⟩
        exact ⟨part :: before, bad, after, rfl,
          List.forall_mem_cons.mpr ⟨⟨row, hpart⟩, hbefore⟩, hbad⟩
      · rintro ⟨before, bad, after, hparts, hbefore, hbad⟩
        cases before with
        | nil =>
          cases hparts
          cases hpart.symm.trans hbad
        | cons earlier before =>
          cases hparts
          exact ⟨before, bad, after, rfl, (List.forall_mem_cons.mp hbefore).2, hbad⟩

/-- No part is reported as an empty list, whether there is room or not. -/
theorem readParts_ne_empty : readParts size parts ≠ .error .empty := by
  induction parts generalizing size with
  | nil => nofun
  | cons part parts ih =>
    cases hpart : readPart part with
    | error error =>
      rw [readParts_cons_of_error hpart]
      rintro ⟨⟩
      cases readPart_eq_error_iff.mp hpart
    | ok row =>
      rcases Nat.lt_or_ge (size + row.size) Count.capacity with hroom | hfull
      · rw [readParts_cons_of_ok hpart hroom]
        intro h
        refine ih (?_ : readParts (size + row.size) parts = .error .empty)
        cases hrest : readParts (size + row.size) parts with
        | ok rows => rw [hrest] at h; cases h
        | error error => rw [hrest] at h; exact h
      · rw [readParts, hpart]
        show (if Count.capacity ≤ size + row.size then _ else _) ≠ _
        rw [if_pos hfull]
        nofun

end readParts

/-! ### The cores of a list -/

theorem dropRepeats_sublist (cores : List Nat) : (dropRepeats cores).Sublist cores := by
  fun_induction dropRepeats cores with
  | case1 core rest ih => exact ih.cons core
  | case2 core next rest _ ih => exact ih.cons_cons core
  | case3 rest => exact .refl rest

theorem pairwise_dropRepeats {cores : List Nat} (h : cores.Pairwise (· ≤ ·)) :
    (dropRepeats cores).Pairwise (· < ·) := by
  fun_induction dropRepeats cores with
  | case1 core rest ih => exact ih h.of_cons
  | case2 core next rest hne ih =>
    obtain ⟨hfirst, hrest⟩ := List.pairwise_cons.mp h
    refine List.pairwise_cons.mpr ⟨fun later hlater => ?_, ih hrest⟩
    have hlt : core < next := Nat.lt_of_le_of_ne (hfirst next List.mem_cons_self) hne
    rcases List.mem_cons.mp ((mem_dropRepeats _).mp hlater) with rfl | hmem
    · exact hlt
    · exact Nat.lt_of_lt_of_le hlt (List.rel_of_pairwise_cons hrest hmem)
  | case3 rest hrest =>
    cases rest with
    | nil => exact .nil
    | cons core rest =>
      cases rest with
      | nil => exact List.pairwise_singleton _ core
      | cons next rest => exact absurd rfl (hrest core next rest)

/-- The cores of rows ascend, and none is repeated. -/
theorem pairwise_coresOf (rows : List Row) : (coresOf rows).Pairwise (· < ·) :=
  pairwise_dropRepeats (List.pairwise_mergeSort' (· ≤ ·) (rows.flatMap Row.cores))

theorem length_coresOf_le (rows : List Row) :
    (coresOf rows).length ≤ (rows.map Row.size).sum := by
  refine (dropRepeats_sublist _).length_le.trans (Nat.le_of_eq ?_)
  rw [List.length_mergeSort, List.length_flatMap]
  simp only [Row.cores, List.length_range']

/-- **Ascending cores without repetition are told by which they are.** -/
theorem coresOf_eq {rows : List Row} {cores : List Nat} (h : cores.Pairwise (· < ·))
    (hmem : ∀ core, core ∈ coresOf rows ↔ core ∈ cores) : coresOf rows = cores :=
  (pairwise_coresOf rows).eq_of_mem_iff h hmem

section parse

variable {text : String} {cores : List Nat} {rows : List Row}

theorem mem_coresOf_of_map {parts : List (List Char)} (h : parts.map readPart = rows.map .ok)
    (core : Nat) : core ∈ coresOf rows ↔ ∃ part ∈ parts, ∃ first last, Names part first last ∧
      first ≤ core ∧ core ≤ last := by
  have hrow (row : Row) : row ∈ rows ↔ ∃ part ∈ parts, readPart part = .ok row := by
    rw [← List.mem_map, h, List.mem_map]
    simp
  simp only [mem_coresOf, hrow]
  constructor
  · rintro ⟨row, ⟨part, hpart, hread⟩, hfirst, hlast⟩
    obtain ⟨first, last, hnames, rfl⟩ := readPart_eq_ok_iff.mp hread
    have := hnames.le
    exact ⟨part, hpart, first, last, hnames, hfirst, by simp only at hlast; omega⟩
  · rintro ⟨part, hpart, first, last, hnames, hfirst, hlast⟩
    exact ⟨_, ⟨part, hpart, hnames.readPart_eq⟩, hfirst, by simp only; omega⟩

theorem coresSpelt_of_map {parts : List (List Char)} (h : parts.map readPart = rows.map .ok) :
    coresSpelt parts = (rows.map Row.size).sum := by
  induction parts generalizing rows with
  | nil =>
    cases rows with
    | nil => rfl
    | cons row rows => cases h
  | cons part parts ih =>
    cases rows with
    | nil => cases h
    | cons row rows =>
      obtain ⟨hpart, hparts⟩ := List.cons.inj h
      rw [coresSpelt_cons_of_ok hpart, ih hparts, List.map_cons, List.sum_cons]

/-- Where each part is read, they are read together. -/
theorem exists_rows_of_forall {parts : List (List Char)}
    (h : ∀ part ∈ parts, ∃ row, readPart part = .ok row) :
    ∃ rows : List Row, parts.map readPart = rows.map .ok := by
  induction parts with
  | nil => exact ⟨[], rfl⟩
  | cons part parts ih =>
    obtain ⟨⟨row, hrow⟩, hparts⟩ := List.forall_mem_cons.mp h
    obtain ⟨rows, hrows⟩ := ih hparts
    exact ⟨row :: rows, by rw [List.map_cons, hrow, hrows, List.map_cons]⟩

/-- A text is read as the parts of it are: there is always one. -/
theorem read_eq (text : String) : read text = readParts 0 (parts text) := by
  rw [read, ← parts]
  cases hrows : readParts 0 (parts text) with
  | error error => rfl
  | ok rows =>
    cases rows with
    | cons row rows => rfl
    | nil =>
      cases hparts : parts text with
      | nil => exact absurd hparts (parts_ne_nil text)
      | cons part rest =>
        rw [hparts, readParts] at hrows
        obtain ⟨row, -, hrest⟩ := bind_eq_ok_iff.mp hrows
        split at hrest
        · cases hrest
        · obtain ⟨rows, -, hcons⟩ := bind_eq_ok_iff.mp hrest
          cases hcons

/-- There is room for the cores that are written out while a text is read. -/
def HasRoom (text : String) : Prop := coresSpelt (parts text) < Count.capacity

instance (text : String) : Decidable (HasRoom text) :=
  inferInstanceAs (Decidable (_ < _))

theorem parse_eq (text : String) : parse text = coresOf <$> readParts 0 (parts text) := by
  rw [parse, read_eq]
  rfl

/-- The cores of rows that are read are known by which they are. -/
theorem parse_of_read (hread : read text = .ok rows) (hcores : cores.Pairwise (· < ·))
    (hmem : ∀ core, (∃ row ∈ rows, row.first ≤ core ∧ core < row.first + row.size) ↔
      core ∈ cores) : parse text = .ok cores := by
  rw [parse, hread]
  exact congrArg Except.ok (coresOf_eq hcores fun core => mem_coresOf.trans (hmem core))

theorem parse_eq_ok_iff (hroom : HasRoom text) : parse text = .ok cores ↔
    ∃ rows, (parts text).map readPart = rows.map .ok ∧ coresOf rows = cores := by
  rw [parse_eq, map_eq_ok_iff]
  simp only [readParts_eq_ok_iff ((Nat.zero_add _).trans_lt hroom)]

theorem parse_eq_error_iff_read {error : Error} :
    parse text = .error error ↔ readParts 0 (parts text) = .error error := by
  rw [parse_eq]
  cases readParts 0 (parts text) <;> simp

/-- Each part of a text that is read names cores, and where each does the text is read. -/
theorem exists_parse_iff (hroom : HasRoom text) : (∃ cores, parse text = .ok cores) ↔
    ∀ part ∈ parts text, ∃ first last, Names part first last := by
  simp only [parse_eq_ok_iff hroom, ← exists_readPart_iff]
  constructor
  · rintro ⟨-, rows, hrows, -⟩ part hpart
    obtain ⟨row, -, hrow⟩ := List.mem_map.mp (hrows ▸ List.mem_map_of_mem hpart)
    exact ⟨row, hrow.symm⟩
  · intro h
    obtain ⟨rows, hrows⟩ := exists_rows_of_forall h
    exact ⟨_, rows, hrows, rfl⟩

/-- **A text whose parts are those of another stands for the same cores.** -/
theorem parse_eq_of_parts {other : String} (hroom : HasRoom text) (hother : HasRoom other)
    (h : parse text = .ok cores) (hparts : ∀ part, part ∈ parts other ↔ part ∈ parts text) :
    parse other = .ok cores := by
  obtain ⟨cores', hparse⟩ := (exists_parse_iff hother).mpr fun part hpart =>
    (exists_parse_iff hroom).mp ⟨cores, h⟩ part ((hparts part).mp hpart)
  obtain ⟨rows, hrows, rfl⟩ := (parse_eq_ok_iff hroom).mp h
  obtain ⟨rows', hrows', rfl⟩ := (parse_eq_ok_iff hother).mp hparse
  rw [hparse, coresOf_eq (pairwise_coresOf rows) fun core => ?_]
  simp only [mem_coresOf_of_map hrows, mem_coresOf_of_map hrows', hparts]

theorem joinWith_eq_intercalate (separator : Char) (parts : List (List Char)) :
    Text.joinWith separator parts = [separator].intercalate parts := by
  induction parts with
  | nil => rfl
  | cons part parts ih =>
    cases parts with
    | nil => exact (List.append_nil part).symm
    | cons next parts =>
      rw [List.intercalate_cons_cons, ← ih, List.append_assoc]
      rfl

theorem isCore_toDigits {core : Nat} (h : core < Text.numeralBound) :
    IsCore (Nat.toDigits 10 core) core := by
  rw [IsCore, Text.trim_of_numeral (Text.numeral_toDigits h)]
  exact Text.numeral_toDigits h

/-- The numbers of cores, with commas between them, have these numbers as their parts. -/
theorem parts_intercalate (hne : cores ≠ []) (hlt : ∀ core ∈ cores, core < Text.numeralBound) :
    parts (String.intercalate "," (cores.map toString)) = cores.map (Nat.toDigits 10) := by
  have htext : (String.intercalate "," (cores.map toString)).toList =
      Text.joinWith ',' (cores.map (Nat.toDigits 10)) := by
    rw [String.toList_intercalate, joinWith_eq_intercalate, List.map_map]
    congr 1
    exact List.map_congr_left fun core _ => Nat.toList_repr
  rw [parts, htext, Text.splitOn_joinWith, List.map_map]
  · exact List.map_congr_left fun core hcore =>
      Text.trim_of_numeral (Text.numeral_toDigits (hlt core hcore))
  · exact fun hnil => hne (List.map_eq_nil_iff.mp hnil)
  · intro part hpart
    obtain ⟨core, hcore, rfl⟩ := List.mem_map.mp hpart
    exact (Text.numeral_toDigits (hlt core hcore)).notMem (by decide) rfl

/-- **Cores that ascend are read back from their numbers**, as long as there is room. -/
theorem parse_intercalate (hne : cores ≠ []) (hcores : cores.Pairwise (· < ·))
    (hlt : ∀ core ∈ cores, core < Text.numeralBound) (hlength : cores.length < Count.capacity) :
    parse (String.intercalate "," (cores.map toString)) = .ok cores := by
  have hnames (core : Nat) (hcore : core ∈ cores) : Names (Nat.toDigits 10 core) core core :=
    .one ((Text.numeral_toDigits (hlt core hcore)).notMem (by decide) rfl)
      (isCore_toDigits (hlt core hcore))
  have hrows : (parts (String.intercalate "," (cores.map toString))).map readPart =
      (cores.map fun core => (⟨core, 1⟩ : Row)).map .ok := by
    rw [parts_intercalate hne hlt, List.map_map, List.map_map]
    refine List.map_congr_left fun core hcore => ?_
    rw [Function.comp_apply, (hnames core hcore).readPart_eq, Nat.sub_self]
    rfl
  have hroom : HasRoom (String.intercalate "," (cores.map toString)) := by
    rw [HasRoom, coresSpelt_of_map hrows, List.map_map]
    simpa [Function.comp_def] using hlength
  refine (parse_eq_ok_iff hroom).mpr ⟨_, hrows, coresOf_eq hcores fun core => ?_⟩
  rw [mem_coresOf]
  constructor
  · rintro ⟨row, hrow, hle, hend⟩
    obtain ⟨core', hcore', rfl⟩ := List.mem_map.mp hrow
    obtain rfl : core = core' := by simp only at hle hend; omega
    exact hcore'
  · intro hcore
    exact ⟨⟨core, 1⟩, List.mem_map_of_mem hcore, Nat.le_refl _, Nat.lt_succ_self _⟩

end parse

/-- **Core lists are read by the grammar, as the set they stand for.** No list is ever found empty.
Where there is room for the cores that are written out, a text is read exactly if each part of it
names cores. The cores that come out ascend, are not none, and are those that a part names: another
text with the same parts, in whatever order and however often, stands for the same cores, and so do
the numbers of the cores with commas between them. A text that is not read is rejected for what is
wrong with its first faulty part. -/
theorem parse_reads_grammar (text : String) : parse text ≠ .error .empty ∧ (HasRoom text →
    ((∃ cores, parse text = .ok cores) ↔
      ∀ part ∈ parts text, ∃ first last, Names part first last) ∧
    (∀ cores, parse text = .ok cores → cores.Pairwise (· < ·) ∧ cores ≠ [] ∧
      (∀ core, core ∈ cores ↔ ∃ part ∈ parts text, ∃ first last, Names part first last ∧
        first ≤ core ∧ core ≤ last) ∧
      (∀ other, HasRoom other → (∀ part, part ∈ parts other ↔ part ∈ parts text) →
        parse other = .ok cores) ∧
      parse (String.intercalate "," (cores.map toString)) = .ok cores) ∧
    ∀ error, parse text = .error error ↔
      ∃ before part after, parts text = before ++ part :: after ∧
        (∀ earlier ∈ before, ∃ first last, Names earlier first last) ∧ Faulty part error) := by
  refine ⟨fun h => readParts_ne_empty (parse_eq_error_iff_read.mp h), fun hroom =>
    ⟨exists_parse_iff hroom, fun cores hparse => ?_, fun error => ?_⟩⟩
  · obtain ⟨rows, hrows, rfl⟩ := (parse_eq_ok_iff hroom).mp hparse
    have hmem := mem_coresOf_of_map hrows
    have hne : coresOf rows ≠ [] := by
      obtain ⟨part, hpart⟩ := List.exists_mem_of_ne_nil _ (parts_ne_nil text)
      obtain ⟨first, last, hnames⟩ := (exists_parse_iff hroom).mp ⟨_, hparse⟩ part hpart
      exact List.ne_nil_of_mem
        ((hmem first).mpr ⟨part, hpart, first, last, hnames, Nat.le_refl _, hnames.le⟩)
    refine ⟨pairwise_coresOf rows, hne, hmem,
      fun other hother => parse_eq_of_parts hroom hother hparse,
      parse_intercalate hne (pairwise_coresOf rows) (fun core hcore => ?_) ?_⟩
    · obtain ⟨part, -, first, last, hnames, -, hlast⟩ := (hmem core).mp hcore
      exact Nat.lt_of_le_of_lt hlast hnames.last_lt
    · rw [HasRoom, coresSpelt_of_map hrows] at hroom
      exact Nat.lt_of_le_of_lt (length_coresOf_le rows) hroom
  · rw [parse_eq_error_iff_read, readParts_eq_error_iff ((Nat.zero_add _).trans_lt hroom)]
    simp only [exists_readPart_iff, readPart_eq_error_iff]

/-- Cores that overlap are read once, in whatever order they are written; and a range whose end is
no number is what is reported, before another that is turned round. -/
theorem parse_reads_grammar_of_overlap :
    HasRoom "7, 2 - +4,3" ∧ HasRoom "3,7,7,2 - +4" ∧ HasRoom "1, 5 - x-,4-2" ∧
      parse "7, 2 - +4,3" = .ok [2, 3, 4, 7] ∧ parse "3,7,7,2 - +4" = .ok [2, 3, 4, 7] ∧
      parse "2,3,4,7" = .ok [2, 3, 4, 7] ∧
      parse "1, 5 - x-,4-2" = .error (.badNumber " x-" .invalidDigit) := by
  have hsame (part : List Char) :
      part ∈ [['3'], ['7'], ['7'], ['2', ' ', '-', ' ', '+', '4']] ↔
        part ∈ [['7'], ['2', ' ', '-', ' ', '+', '4'], ['3']] := by
    grind
  have hroom : HasRoom "7, 2 - +4,3" := by decide +kernel
  have hother : HasRoom "3,7,7,2 - +4" := by decide +kernel
  have hbad : HasRoom "1, 5 - x-,4-2" := by decide +kernel
  have hread : read "7, 2 - +4,3" = .ok [⟨7, 1⟩, ⟨2, 3⟩, ⟨3, 1⟩] := rfl
  have hparse : parse "7, 2 - +4,3" = .ok [2, 3, 4, 7] := by
    refine parse_of_read hread (by decide) fun core => ?_
    simp only [List.mem_cons, List.not_mem_nil, or_false, exists_eq_or_imp, exists_eq_left]
    omega
  have hparts : parts "7, 2 - +4,3" = [['7'], ['2', ' ', '-', ' ', '+', '4'], ['3']] := rfl
  have hparts' : parts "3,7,7,2 - +4" =
      [['3'], ['7'], ['7'], ['2', ' ', '-', ' ', '+', '4']] := rfl
  obtain ⟨-, hreads, -⟩ := (parse_reads_grammar "7, 2 - +4,3").2 hroom
  obtain ⟨-, -, -, hset, hback⟩ := hreads _ hparse
  obtain ⟨-, -, hfaulty⟩ := (parse_reads_grammar "1, 5 - x-,4-2").2 hbad
  have hone : Names ['1'] 1 1 := .one (by decide) (readCore_eq_ok_iff.mp rfl)
  have hfive : IsCore ['5', ' '] 5 := readCore_eq_ok_iff.mp rfl
  have hstop : Faulty (['5', ' '] ++ '-' :: [' ', 'x', '-']) (.badNumber " x-" .invalidDigit) :=
    .stop (by decide) hfive rfl
  rw [hparts] at hset
  exact ⟨hroom, hother, hbad, hparse, hset _ hother (hparts' ▸ hsame), hback,
    (hfaulty _).mpr ⟨[['1']], _, [['4', '-', '2']], rfl,
      List.forall_mem_singleton.mpr ⟨1, 1, hone⟩, hstop⟩⟩

end DivisionBenchmark.CoreList
