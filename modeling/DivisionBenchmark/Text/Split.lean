/-!
# Splitting texts

A text cut at every occurrence of a character, and a text cut at its first.

Main definitions:

* `DivisionBenchmark.Text.splitOn`: the parts between the separators, always at least one;
* `DivisionBenchmark.Text.splitOnce?`: what stands before and after the first separator;
* `DivisionBenchmark.Text.joinWith`: parts put together with a separator between them.

Main statement: parts that do not hold the separator are split again as they were joined
(`splitOn_joinWith`).
-/

namespace DivisionBenchmark.Text

/-- The parts of a text between the occurrences of a separator. -/
def splitOn (separator : Char) : List Char → List (List Char)
  | [] => [[]]
  | c :: cs =>
    if c = separator then [] :: splitOn separator cs
    else
      match splitOn separator cs with
      | [] => [[c]]
      | part :: parts => (c :: part) :: parts

/-- What stands before and after the first occurrence of a separator, if there is one. -/
def splitOnce? (separator : Char) : List Char → Option (List Char × List Char)
  | [] => none
  | c :: cs =>
    if c = separator then some ([], cs)
    else (splitOnce? separator cs).map fun (before, after) => (c :: before, after)

/-- Parts put together with a separator between them. -/
def joinWith (separator : Char) : List (List Char) → List Char
  | [] => []
  | [part] => part
  | part :: parts => part ++ separator :: joinWith separator parts

theorem splitOn_ne_nil (separator : Char) (cs : List Char) : splitOn separator cs ≠ [] := by
  cases cs with
  | nil => simp [splitOn]
  | cons c cs =>
    rw [splitOn]
    split
    · simp
    · split <;> simp

/-- A text without the separator is its only part. -/
theorem splitOn_of_notMem {separator : Char} {cs : List Char} (h : separator ∉ cs) :
    splitOn separator cs = [cs] := by
  induction cs with
  | nil => rfl
  | cons c cs ih =>
    obtain ⟨hc, hcs⟩ := not_or.mp (mt List.mem_cons.mpr h)
    rw [splitOn, if_neg (Ne.symm hc), ih hcs]

/-- What stands before the first separator is the first part. -/
theorem splitOn_append {separator : Char} {part : List Char} (h : separator ∉ part)
    (rest : List Char) :
    splitOn separator (part ++ separator :: rest) = part :: splitOn separator rest := by
  induction part with
  | nil => rw [List.nil_append, splitOn, if_pos rfl]
  | cons c part ih =>
    obtain ⟨hc, hpart⟩ := not_or.mp (mt List.mem_cons.mpr h)
    rw [List.cons_append, splitOn, if_neg (Ne.symm hc), ih hpart]

/-- **Parts that are joined are split again**, where there are parts and none holds the
separator. -/
theorem splitOn_joinWith {separator : Char} {parts : List (List Char)} (hne : parts ≠ [])
    (h : ∀ part ∈ parts, separator ∉ part) :
    splitOn separator (joinWith separator parts) = parts := by
  induction parts with
  | nil => exact absurd rfl hne
  | cons part parts ih =>
    obtain ⟨hpart, hparts⟩ := List.forall_mem_cons.mp h
    cases parts with
    | nil => exact splitOn_of_notMem hpart
    | cons next parts =>
      rw [joinWith, splitOn_append hpart, ih (List.cons_ne_nil _ _) hparts]
      exact nofun

/-- A text is split once exactly at a separator with none before it. -/
theorem splitOnce?_eq_some_iff {separator : Char} {cs before after : List Char} :
    splitOnce? separator cs = some (before, after) ↔
      cs = before ++ separator :: after ∧ separator ∉ before := by
  induction cs generalizing before with
  | nil => simp [splitOnce?]
  | cons c cs ih =>
    rw [splitOnce?]
    split
    · rename_i h
      subst h
      cases before with
      | nil => simp
      | cons b before =>
        simp only [List.cons_append, List.cons.injEq, List.mem_cons, not_or]
        constructor
        · intro e; cases e
        · rintro ⟨⟨e, -⟩, hne, -⟩; exact absurd e hne
    · rename_i h
      cases before with
      | nil => simp [h]
      | cons b before =>
        simp only [Option.map_eq_some_iff, Prod.exists, Prod.mk.injEq, List.cons.injEq,
          List.cons_append, List.mem_cons, not_or]
        constructor
        · rintro ⟨x, y, hxy, ⟨rfl, rfl⟩, rfl⟩
          obtain ⟨rfl, hmem⟩ := ih.mp hxy
          exact ⟨⟨rfl, rfl⟩, fun e => h e.symm, hmem⟩
        · rintro ⟨⟨rfl, hcs⟩, -, hmem⟩
          exact ⟨before, after, ih.mpr ⟨hcs, hmem⟩, ⟨rfl, rfl⟩, rfl⟩

/-- A text is not split exactly where it has no separator. -/
theorem splitOnce?_eq_none_iff {separator : Char} {cs : List Char} :
    splitOnce? separator cs = none ↔ separator ∉ cs := by
  induction cs with
  | nil => simp [splitOnce?]
  | cons c cs ih =>
    rw [splitOnce?]
    split
    · rename_i h; simp [h]
    · rename_i h
      rw [Option.map_eq_none_iff, ih, List.mem_cons, not_or]
      exact ⟨fun hmem => ⟨fun e => h e.symm, hmem⟩, fun hmem => hmem.2⟩

end DivisionBenchmark.Text
