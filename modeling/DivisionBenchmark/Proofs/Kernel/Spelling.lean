import DivisionBenchmark.Proofs.Kernel.History
import DivisionBenchmark.Proofs.Text.Lowering
import DivisionBenchmark.Proofs.Text.Numerals
import Mathlib.Data.List.Basic

/-!
# How operations are spelt

The name of an operation may be written with hyphens and underscores anywhere in it, in letters of
any case, with blanks around it and with the mark `test` in front. So it is the letters of a text
that are compared (`DivisionBenchmark.Operation.letters`), and a text spells an operation behind so
many marks (`DivisionBenchmark.Operation.Spells`). No name begins with the mark and no two names
have the same letters, so the marks and the operation are told by the text
(`DivisionBenchmark.Operation.Spells.unique`). The texts that are read are those with at most one
mark.

What may be changed about a text without making it another name is listed in
`DivisionBenchmark.Operation.Respelt`, one constructor for each kind of change; each of them leaves
the letters alone (`DivisionBenchmark.Operation.Respelt.letters`).

Main statement: `DivisionBenchmark.Operation.ofText_reads_names`.
-/

namespace DivisionBenchmark

/-! ### Letters in any case -/

namespace Text

/-- **Texts that are the same but for the case of their letters**, those of ASCII. -/
def SameLetters (a b : List Char) : Prop := a.map Char.toLower = b.map Char.toLower

/-- A letter stays one in lower case, and what is none stays none. -/
theorem isAlpha_toLower (c : Char) : c.toLower.isAlpha = c.isAlpha := by
  rcases toLower_eq_or_isLower c with h | ⟨hupper, hlower⟩
  · rw [h]
  · rw [isAlpha_iff.mpr (.inl hupper), isAlpha_iff.mpr (.inr hlower)]

theorem isBlank_of_isAlpha {c : Char} (h : c.isAlpha = true) : isBlank c = false := by
  rw [Bool.eq_false_iff]
  intro hblank
  rw [isAlpha_of_isBlank hblank] at h
  cases h

/-- What is the same for all letters does not depend on the case of a character. -/
theorem toLower_of_letters {p : Char → Bool} {answer : Bool}
    (h : ∀ c, c.isAlpha = true → p c = answer) (c : Char) : p c.toLower = p c := by
  rcases toLower_eq_or_isLower c with hc | ⟨hupper, -⟩
  · rw [hc]
  · have halpha : c.isAlpha = true := isAlpha_iff.mpr (.inl hupper)
    rw [h c halpha, h c.toLower (by rw [isAlpha_toLower, halpha])]

theorem trim_map_toLower (cs : List Char) :
    trim (cs.map Char.toLower) = (trim cs).map Char.toLower := by
  have hblank : isBlank ∘ Char.toLower = isBlank :=
    funext (toLower_of_letters fun _ => isBlank_of_isAlpha)
  rw [trim, trim, trimEnd, trimEnd, List.dropWhile_map, hblank, ← List.map_reverse,
    List.dropWhile_map, hblank, List.map_reverse]

/-- What is no blank may be put anywhere in a trimmed text: there is still nothing to trim. -/
theorem trim_insert {cs before after insert : List Char} (h : trim cs = before ++ after)
    (hne : insert ≠ []) (hsolid : ∀ c ∈ insert, isBlank c = false) :
    trim (before ++ insert ++ after) = before ++ insert ++ after := by
  refine trim_eq_self (fun c hc => ?_) fun c hc => ?_
  · cases before with
    | nil =>
      rw [List.nil_append, List.head?_append_of_ne_nil _ hne] at hc
      exact hsolid c (List.mem_of_head? hc)
    | cons first before =>
      exact head?_trim (by rw [h]; exact hc)
  · cases hlast : after.getLast? with
    | none =>
      rw [List.getLast?_eq_none_iff.mp hlast, List.append_nil,
        List.getLast?_append_of_ne_nil _ hne] at hc
      exact hsolid c (List.mem_of_getLast? hc)
    | some last =>
      rw [List.getLast?_append, hlast, Option.some_or] at hc
      exact getLast?_trim (by rw [h, List.getLast?_append, hlast, Option.some_or, hc])

end Text

namespace Operation

/-! ### The letters of a name -/

/-- Whether a character counts in a name: hyphens and underscores do not. -/
def counts (c : Char) : Bool := c != '-' && c != '_'

/-- **The letters of a text**: what counts in it, without the blanks around it. -/
def letters (text : List Char) : List Char := (Text.trim text).filter counts

/-- What may stand in front of a name. -/
def mark : List Char := ['t', 'e', 's', 't']

/-- **A text spells an operation behind so many marks**: its letters are those of the marks and of
the name, in any case. -/
def Spells (marks : Nat) (text : List Char) (operation : Operation) : Prop :=
  Text.SameLetters (letters text) ((List.replicate marks mark).flatten ++ operation.name.toList)

/-- **Another way to write a text.** -/
inductive Respelt (text : List Char) : List Char → Prop where
  /-- There are more blanks around it. -/
  | padded {left right : List Char} (hleft : ∀ c ∈ left, Text.isBlank c)
      (hright : ∀ c ∈ right, Text.isBlank c) : Respelt text (left ++ text ++ right)
  /-- There is a hyphen or an underscore more in it, somewhere between its blanks. -/
  | separated {before after : List Char} {c : Char} (htrim : Text.trim text = before ++ after)
      (hc : c = '-' ∨ c = '_') : Respelt text (before ++ [c] ++ after)
  /-- Its letters are of another case. -/
  | recased {other : List Char} (h : Text.SameLetters other text) : Respelt text other

/-- No name begins with the mark. -/
theorem not_mark_prefix_key (operation : Operation) : ¬ mark <+: operation.key := by
  cases operation <;> decide

/-- No two names have the same letters. -/
theorem key_injective : Function.Injective key := by
  have hall : ∀ a ∈ all, ∀ b ∈ all, a.key = b.key → a = b := by decide +kernel
  exact fun a b => hall a (mem_all a) b (mem_all b)

theorem isAlpha_of_mem_key {operation : Operation} {c : Char} (h : c ∈ operation.key) :
    c.isAlpha = true := by
  have hall : operation.key.all Char.isAlpha = true := by cases operation <;> decide
  exact List.all_eq_true.mp hall c h

theorem isAlpha_of_mem_mark {c : Char} (h : c ∈ mark) : c.isAlpha = true := by
  have hall : mark.all Char.isAlpha = true := by decide
  exact List.all_eq_true.mp hall c h

section spells

variable {text : List Char} {marks : Nat} {operation : Operation}

/-- A spelling, said of the letters in lower case. -/
theorem spells_iff : Spells marks text operation ↔
    (letters text).map Char.toLower = (List.replicate marks mark).flatten ++ operation.key := by
  have hmarks : ((List.replicate marks mark).flatten).map Char.toLower =
      (List.replicate marks mark).flatten := by
    rw [List.map_flatten, List.map_replicate]
    rfl
  rw [Spells, Text.SameLetters, List.map_append, hmarks]
  rfl

/-- **The marks and the operation are told by a text.** -/
theorem Spells.unique {marks' : Nat} {operation' : Operation} (h : Spells marks text operation)
    (h' : Spells marks' text operation') : marks = marks' ∧ operation = operation' := by
  have heq := (spells_iff.mp h).symm.trans (spells_iff.mp h')
  clear h h'
  -- the marks are taken away one by one, and a name has none
  induction marks generalizing marks' with
  | zero =>
    cases marks' with
    | zero => exact ⟨rfl, key_injective heq⟩
    | succ marks' =>
      rw [List.replicate_succ, List.flatten_cons, List.append_assoc] at heq
      exact absurd ⟨_, heq.symm⟩ (not_mark_prefix_key operation)
  | succ marks ih =>
    rw [List.replicate_succ, List.flatten_cons, List.append_assoc] at heq
    cases marks' with
    | zero => exact absurd ⟨_, heq⟩ (not_mark_prefix_key operation')
    | succ marks' =>
      rw [List.replicate_succ, List.flatten_cons, List.append_assoc] at heq
      obtain ⟨rfl, hop⟩ := ih (List.append_cancel_left heq)
      exact ⟨rfl, hop⟩

/-- A text that spells an operation has nothing but letters in it, hyphens and underscores aside. -/
theorem Spells.isAlpha (h : Spells marks text operation) {c : Char} (hc : c ∈ letters text) :
    c.isAlpha = true := by
  have hmem : c.toLower ∈ (List.replicate marks mark).flatten ++ operation.key :=
    spells_iff.mp h ▸ List.mem_map_of_mem hc
  rw [← Text.isAlpha_toLower]
  rcases List.mem_append.mp hmem with hmark | hkey
  · obtain ⟨letters, hletters, hmem⟩ := List.mem_flatten.mp hmark
    exact isAlpha_of_mem_mark (List.eq_of_mem_replicate hletters ▸ hmem)
  · exact isAlpha_of_mem_key hkey

/-! ### Other ways to write a text -/

theorem counts_of_isAlpha {c : Char} (h : c.isAlpha = true) : counts c = true := by
  have hhyphen : c ≠ '-' := by rintro rfl; cases h
  have hunderscore : c ≠ '_' := by rintro rfl; cases h
  rw [counts, bne_iff_ne.mpr hhyphen, bne_iff_ne.mpr hunderscore, Bool.and_self]

theorem letters_map_toLower (text : List Char) :
    letters (text.map Char.toLower) = (letters text).map Char.toLower := by
  have hcounts : counts ∘ Char.toLower = counts :=
    funext (Text.toLower_of_letters fun _ => counts_of_isAlpha)
  rw [letters, Text.trim_map_toLower, List.filter_map, hcounts, letters]

/-- What is put somewhere between the blanks of a text, and holds none, has its letters put
there. -/
theorem letters_insert {before after insert : List Char} (h : Text.trim text = before ++ after)
    (hne : insert ≠ []) (hsolid : ∀ c ∈ insert, Text.isBlank c = false) :
    letters (before ++ insert ++ after) =
      before.filter counts ++ insert.filter counts ++ after.filter counts := by
  rw [letters, Text.trim_insert h hne hsolid, List.filter_append, List.filter_append]

/-- **Another way to write a text leaves its letters alone**, case aside. -/
theorem Respelt.letters {other : List Char} (h : Respelt text other) :
    Text.SameLetters (letters other) (letters text) := by
  cases h with
  | padded hleft hright =>
    rw [Operation.letters, Text.trim_padded hleft hright]
    rfl
  | @separated before after c htrim hc =>
    have hsolid : ∀ d ∈ [c], Text.isBlank d = false := by
      intro d hd
      obtain rfl := List.mem_singleton.mp hd
      rcases hc with rfl | rfl <;> rfl
    have hdropped : [c].filter counts = [] := by
      rcases hc with rfl | rfl <;> rfl
    rw [letters_insert htrim (List.cons_ne_nil c []) hsolid, hdropped, List.append_nil,
      ← List.filter_append, ← htrim]
    rfl
  | recased h =>
    rw [Text.SameLetters, ← letters_map_toLower, h, letters_map_toLower]

/-- So it spells the same. -/
theorem Respelt.spells_iff {other : List Char} (h : Respelt text other) :
    Spells marks other operation ↔ Spells marks text operation := by
  rw [Operation.spells_iff, Operation.spells_iff, h.letters]

/-- **A mark in front of a text is one mark more.** -/
theorem spells_succ_iff {front : List Char} (h : Text.SameLetters front mark) :
    Spells (marks + 1) (front ++ Text.trim text) operation ↔ Spells marks text operation := by
  have halpha : ∀ c ∈ front, c.isAlpha = true := by
    intro c hc
    have hmem : c.toLower ∈ mark.map Char.toLower := by
      rw [← h]
      exact List.mem_map_of_mem hc
    rw [← Text.isAlpha_toLower, isAlpha_of_mem_mark hmem]
  have hne : front ≠ [] := by
    rintro rfl
    cases h
  have hletters : letters (front ++ Text.trim text) = front ++ letters text := by
    have hinsert := letters_insert (List.nil_append (Text.trim text)).symm hne fun c hc =>
      Text.isBlank_of_isAlpha (halpha c hc)
    rw [List.nil_append, List.filter_nil, List.nil_append,
      List.filter_eq_self.mpr fun c hc => counts_of_isAlpha (halpha c hc)] at hinsert
    exact hinsert
  rw [spells_iff, spells_iff, hletters, List.map_append, h, List.replicate_succ,
    List.flatten_cons, List.append_assoc]
  exact List.append_right_inj mark

end spells

/-! ### Reading a name -/

/-- The operation that is found is the one with these letters. -/
theorem find?_key_eq_some_iff {letters : List Char} {operation : Operation} :
    all.find? (fun operation => operation.key == letters) = some operation ↔
      operation.key = letters := by
  have hkey {found : Operation}
      (h : all.find? (fun operation => operation.key == letters) = some found) :
      found.key = letters := by
    have hbeq := List.find?_some h
    exact beq_iff_eq.mp hbeq
  refine ⟨hkey, fun h => ?_⟩
  cases hfind : all.find? fun operation => operation.key == letters with
  | none => exact absurd (beq_iff_eq.mpr h) (List.find?_eq_none.mp hfind _ (mem_all operation))
  | some found => rw [key_injective ((hkey hfind).trans h.symm)]

section reading

variable {text rest : List Char}

/-- A text is compared by its letters, -/
theorem spellingKey_of_not (h : ¬ mark <+: (letters text).map Char.toLower) :
    spellingKey text = (letters text).map Char.toLower := by
  simp only [spellingKey]
  split
  · rename_i rest hmark
    exact absurd ⟨rest, hmark.symm⟩ h
  · rfl

/-- less a mark they begin with. -/
theorem spellingKey_of_mark (h : (letters text).map Char.toLower = mark ++ rest) :
    spellingKey text = rest := by
  simp only [spellingKey]
  split
  · rename_i rest' hmark
    have heq : mark ++ rest' = mark ++ rest := hmark.symm.trans h
    exact List.append_cancel_left heq
  · rename_i hnot
    exact absurd h (hnot rest)

/-- **A text is compared by the name it spells** behind at most one mark. -/
theorem key_eq_spellingKey_iff {operation : Operation} :
    operation.key = spellingKey text ↔ ∃ marks ≤ 1, Spells marks text operation := by
  have hnone : Spells 0 text operation ↔ (letters text).map Char.toLower = operation.key :=
    spells_iff
  have hone : Spells 1 text operation ↔
      (letters text).map Char.toLower = mark ++ operation.key := spells_iff
  have hcases : (∃ marks ≤ 1, Spells marks text operation) ↔
      Spells 0 text operation ∨ Spells 1 text operation := by
    simp only [Nat.le_one_iff_eq_zero_or_eq_one, or_and_right, exists_or, exists_eq_left]
  rw [hcases, hnone, hone]
  by_cases hmark : mark <+: (letters text).map Char.toLower
  · obtain ⟨rest, hrest⟩ := hmark
    have hnot : mark ++ rest ≠ operation.key := fun h =>
      not_mark_prefix_key operation ⟨rest, h⟩
    rw [spellingKey_of_mark hrest.symm, ← hrest, or_iff_right hnot, List.append_right_inj,
      eq_comm]
  · have hnot : (letters text).map Char.toLower ≠ mark ++ operation.key := fun h =>
      hmark ⟨operation.key, h.symm⟩
    rw [spellingKey_of_not hmark, or_iff_left hnot, eq_comm]

end reading

theorem ofText_eq_ok_iff {text : String} {operation : Operation} :
    ofText text = .ok operation ↔ ∃ marks ≤ 1, Spells marks text.toList operation := by
  rw [← key_eq_spellingKey_iff, ← find?_key_eq_some_iff]
  simp only [ofText]
  cases all.find? fun operation => operation.key == spellingKey text.toList <;> simp

theorem ofText_eq_error_iff {text : String} {error : BenchmarkError} :
    ofText text = .error error ↔
      (¬ ∃ operation, ∃ marks ≤ 1, Spells marks text.toList operation) ∧
        error = .unknownOperation text := by
  simp only [← ofText_eq_ok_iff]
  simp only [ofText]
  cases all.find? fun operation => operation.key == spellingKey text.toList <;> simp [eq_comm]

/-- **Names of operations as people write them.** A text is read as an operation exactly if it
spells it behind at most one mark, and otherwise it is rejected as it was written. The marks and
the operation are told by the text. Hyphens and underscores, the case of letters and blanks around a
text make no other name of it, and a mark in front of it is one mark more; a text with two marks or
more is rejected, and so is one with a blank or anything else but letters, hyphens and underscores
between its ends. To run what a text names is to run the operation that is read, and nothing happens
to the buffers where none is. -/
theorem ofText_reads_names (text : String) :
    (∀ operation, ofText text = .ok operation ↔
        ∃ marks ≤ 1, Spells marks text.toList operation) ∧
      (∀ error, ofText text = .error error ↔
        (¬ ∃ operation, ∃ marks ≤ 1, Spells marks text.toList operation) ∧
          error = .unknownOperation text) ∧
      (∀ marks marks' operation operation', Spells marks text.toList operation →
        Spells marks' text.toList operation' → marks = marks' ∧ operation = operation') ∧
      (∀ other : String, Respelt text.toList other.toList → ∀ operation,
        ofText other = .ok operation ↔ ofText text = .ok operation) ∧
      (∀ front, Text.SameLetters front mark → ∀ marks operation,
        Spells (marks + 1) (front ++ Text.trim text.toList) operation ↔
          Spells marks text.toList operation) ∧
      (∀ marks operation, 2 ≤ marks → Spells marks text.toList operation →
        ofText text = .error (.unknownOperation text)) ∧
      (∀ c ∈ Text.trim text.toList, c ≠ '-' → c ≠ '_' → c.isAlpha = false →
        ofText text = .error (.unknownOperation text)) ∧
      ∀ buffers, (∀ operation, ofText text = .ok operation →
          runNamed text buffers = (operation.run buffers).mapError .faulted) ∧
        ∀ error, ofText text = .error error → runNamed text buffers = .error (.rejected error) ∧
          ∀ steps, play (.named text :: steps) buffers = play steps buffers := by
  have hrejected (h : ∀ operation marks, Spells marks text.toList operation → ¬ marks ≤ 1) :
      ofText text = .error (.unknownOperation text) := by
    refine ofText_eq_error_iff.mpr ⟨?_, rfl⟩
    rintro ⟨operation, marks, hle, hspells⟩
    exact h operation marks hspells hle
  refine ⟨fun operation => ofText_eq_ok_iff, fun error => ofText_eq_error_iff,
    fun marks marks' operation operation' => Spells.unique, fun other hother operation => ?_,
    fun front hfront marks operation => spells_succ_iff hfront,
    fun marks operation htwo hspells => hrejected fun operation' marks' hspells' hle => ?_,
    fun c hc hhyphen hunderscore hletter => hrejected fun operation marks hspells _ => ?_,
    fun buffers => ⟨fun operation hok => ?_, fun error herror => ⟨?_, fun steps => ?_⟩⟩⟩
  · simp only [ofText_eq_ok_iff, hother.spells_iff]
  · have := (hspells.unique hspells').1
    omega
  · have hcounts : counts c = true := by
      rw [counts, bne_iff_ne.mpr hhyphen, bne_iff_ne.mpr hunderscore, Bool.and_self]
    rw [hspells.isAlpha (List.mem_filter.mpr ⟨hc, hcounts⟩)] at hletter
    cases hletter
  · simp only [runNamed, hok]
  · simp only [runNamed, herror]
  · exact play_rejected herror [] steps buffers

/-- One mark is read whatever is put between its letters, two are not, and neither is a blank inside
a name. -/
theorem ofText_reads_names_of_marked :
    ofText "Te-st_divideUnsigned" = .ok .divideUnsigned ∧
      ofText "tE-st_DIVIDEunsigned" = .ok .divideUnsigned ∧
      ofText "TESTTe-st_divideUnsigned" = .error (.unknownOperation "TESTTe-st_divideUnsigned") ∧
      ofText " divide unsigned" = .error (.unknownOperation " divide unsigned") ∧
      play [.named " divide unsigned", .asked .divideUnsigned] ⟨[7], [2], [0], [0]⟩ =
        .ok ⟨[7], [2], [3], [0]⟩ := by
  obtain ⟨hok, -, -, hrespelt, hmark, -⟩ := ofText_reads_names "Te-st_divideUnsigned"
  obtain ⟨-, -, -, -, -, hdouble, -⟩ := ofText_reads_names "TESTTe-st_divideUnsigned"
  obtain ⟨-, -, -, -, -, -, hother, hrun⟩ := ofText_reads_names " divide unsigned"
  have hspells : Spells 1 "Te-st_divideUnsigned".toList .divideUnsigned := by
    unfold Spells Text.SameLetters
    decide
  have htwo := (hmark ['T', 'E', 'S', 'T'] rfl 1 .divideUnsigned).mpr hspells
  have hread := (hok .divideUnsigned).mpr ⟨1, Nat.le_refl 1, hspells⟩
  have hblank := hother ' ' (by decide) (by decide) (by decide) rfl
  refine ⟨hread, (hrespelt _ (.recased rfl) _).mpr hread,
    hdouble 2 .divideUnsigned (Nat.le_refl 2) htwo, hblank, ?_⟩
  rw [((hrun _).2 _ hblank).2]
  rfl

end Operation

end DivisionBenchmark
