import DivisionBenchmark.Proofs.Report.Texts

/-!
# Texts without their blanks

A reader that leaves out the blanks of a text, but not those in its literals, is left with the text
on one line, whatever layout of blanks the text was written in. It leaves out what stands between
tokens and nothing else: words have no blanks, and it knows a literal by its quotes.

The text on one line is itself without line breaks, since characters below the blank are escaped.

Main statements:

* `DivisionBenchmark.Json.unspaced_write`: without its blanks, a text is the one on a line;
* `DivisionBenchmark.Json.printed_write`: the text on a line has no control characters.
-/

namespace DivisionBenchmark.Json

/-! ### Leaving out blanks -/

/-- A text that is read from a place, without the blanks outside its literals. -/
def unspacedFrom : Place → List Char → List Char
  | _, [] => []
  | place, c :: cs =>
    if place = .outside ∧ Text.isBlank c then unspacedFrom (place.after c) cs
    else c :: unspacedFrom (place.after c) cs

/-- **A text without the blanks outside its literals.** -/
def unspaced (text : List Char) : List Char := unspacedFrom .outside text

/-- **A text is read from outside to outside**, and this is what is left of it. -/
def Unspaces (text kept : List Char) : Prop :=
  ∀ rest, unspacedFrom .outside (text ++ rest) = kept ++ unspacedFrom .outside rest

namespace Unspaces

variable {text text' kept kept' : List Char}

theorem unspaced_eq (h : Unspaces text kept) : unspaced text = kept := by
  have hend := h []
  rwa [List.append_nil, unspacedFrom, List.append_nil] at hend

theorem nil : Unspaces [] [] := fun _ => rfl

theorem append (h : Unspaces text kept) (h' : Unspaces text' kept') :
    Unspaces (text ++ text') (kept ++ kept') := by
  intro rest
  rw [List.append_assoc, h, h', List.append_assoc]

theorem flatMap {α : Type} {l : List α} {f g : α → List Char} (h : ∀ a ∈ l, Unspaces (f a) (g a)) :
    Unspaces (l.flatMap f) (l.flatMap g) := by
  induction l with
  | nil => exact nil
  | cons a l ih =>
    rw [List.flatMap_cons, List.flatMap_cons]
    exact (h a List.mem_cons_self).append (ih fun b hb => h b (List.mem_cons_of_mem a hb))

/-- Nothing is left of blanks. -/
theorem of_blank (h : ∀ c ∈ text, Text.isBlank c) : Unspaces text [] := by
  intro rest
  induction text with
  | nil => rfl
  | cons c cs ih =>
    obtain ⟨hblank, hblanks⟩ := List.forall_mem_cons.mp h
    have hquote : c ≠ '"' := by
      rintro rfl
      exact absurd hblank (by decide)
    rw [List.cons_append, unspacedFrom, if_pos ⟨rfl, hblank⟩, Place.after, if_neg hquote]
    exact ih hblanks

/-- Characters that are no blanks and no quotes are left as they are. -/
theorem of_plain (h : ∀ c ∈ text, Text.isBlank c = false ∧ c ≠ '"') : Unspaces text text := by
  intro rest
  induction text with
  | nil => rfl
  | cons c cs ih =>
    obtain ⟨⟨hblank, hquote⟩, hplain⟩ := List.forall_mem_cons.mp h
    have hkept : ¬(Place.outside = .outside ∧ Text.isBlank c) := fun h =>
      Bool.false_ne_true (hblank.symm.trans h.2)
    rw [List.cons_append, unspacedFrom, if_neg hkept, Place.after, if_neg hquote, ih hplain]
    rfl

end Unspaces

/-- Nothing in a literal is left out. -/
theorem Stays.unspacedFrom_append {place : Place} {text : List Char} (h : Stays place text)
    (rest : List Char) :
    unspacedFrom place (text ++ rest) = text ++ unspacedFrom .inside rest := by
  induction text generalizing place with
  | nil =>
    rw [h]
    rfl
  | cons c cs ih =>
    rw [List.cons_append, unspacedFrom, if_neg fun hblank => h.1 hblank.1, ih h.2]
    rfl

/-- A literal is left as it is. -/
theorem Unspaces.literal (s : String) : Unspaces (quoted s) (quoted s) := by
  intro rest
  have hinside := (stays_flatMap_escaped s.toList).unspacedFrom_append ('"' :: rest)
  have hopen : Place.outside.after '"' = .inside := rfl
  have hclose : Place.inside.after '"' = .outside := rfl
  rw [quoted, List.cons_append, unspacedFrom, if_neg (by decide), hopen, List.append_assoc,
    List.singleton_append, hinside, unspacedFrom, if_neg (by decide), hclose]
  simp

/-! ### Layouts of blanks -/

/-- **A layout of blanks.** -/
structure Layout.Blank (layout : Layout) : Prop where
  /-- What stands before items is blank. -/
  newLine : ∀ depth, ∀ c ∈ layout.newLine depth, Text.isBlank c
  /-- What stands behind colons is blank. -/
  gap : ∀ c ∈ layout.gap, Text.isBlank c

theorem Layout.blank_compact : Layout.compact.Blank where
  newLine _ := List.forall_mem_nil _
  gap := List.forall_mem_nil _

theorem Layout.blank_pretty : Layout.pretty.Blank where
  newLine depth := by
    refine List.forall_mem_cons.mpr ⟨rfl, fun c hc => ?_⟩
    rw [List.eq_of_mem_replicate hc]
    rfl
  gap := List.forall_mem_cons.mpr ⟨rfl, List.forall_mem_nil _⟩

/-- A character that is no blank and no quote is left. -/
theorem Unspaces.cons {c : Char} {text kept : List Char} (hblank : Text.isBlank c = false)
    (hquote : c ≠ '"') (h : Unspaces text kept) : Unspaces (c :: text) (c :: kept) :=
  (of_plain (List.forall_mem_singleton.mpr ⟨hblank, hquote⟩)).append h

/-- Words are left as they are. -/
theorem Unspaces.word {text : List Char} (h : Word text) : Unspaces text text := by
  refine of_plain fun c hc => ?_
  have hword := h.isWordChar c hc
  have := toNat_of_isWordChar hword
  constructor
  · simp only [Text.isBlank, Bool.or_eq_false_iff, Bool.and_eq_false_iff, decide_eq_false_iff_not,
      beq_eq_false_iff_ne]
    omega
  · rintro rfl
    exact absurd hword (by decide)

/-- Texts in brackets are left in brackets, without the lines they stood on. -/
theorem Unspaces.block {layout : Layout} (hlayout : layout.Blank) {α : Type} {l : List α}
    {f g : α → List Char} {opening closing : Char}
    (hopening : Text.isBlank opening = false ∧ opening ≠ '"')
    (hclosing : Text.isBlank closing = false ∧ closing ≠ '"')
    (h : ∀ a ∈ l, Unspaces (f a) (g a)) (depth : ℕ) :
    Unspaces (Json.block layout depth opening closing (l.map f))
      (Json.block .compact 0 opening closing (l.map g)) := by
  have hend : Unspaces [closing] [closing] := .cons hclosing.1 hclosing.2 .nil
  cases l with
  | nil => exact .cons hopening.1 hopening.2 hend
  | cons a l =>
    obtain ⟨ha, hl⟩ := List.forall_mem_cons.mp h
    have hline (depth : ℕ) : Unspaces (layout.newLine depth) [] := .of_blank (hlayout.newLine depth)
    rw [List.map_cons, List.map_cons, Json.block, Json.block, List.flatMap_map, List.flatMap_map]
    have htail := Unspaces.flatMap fun b hb =>
      Unspaces.cons (c := ',') (by decide) (by decide) ((hline (depth + 1)).append (hl b hb))
    have hinner := (((hline (depth + 1)).append ha).append htail).append (hline depth)
    exact .cons hopening.1 hopening.2 (hinner.append hend)

/-- What is left does not tell the layouts of blanks apart, nor the depths. -/
theorem unspaces_write {layout : Layout} (hlayout : layout.Blank) (document : Json) :
    ∀ depth depth', Unspaces (document.write layout depth) (document.write .compact depth') := by
  induction document using induction with
  | null =>
    intro depth depth'
    rw [write_null, write_null]
    exact .word word_null
  | count n =>
    intro depth depth'
    rw [write_count, write_count]
    exact .word (word_repr n)
  | real x =>
    intro depth depth'
    rw [write_real, write_real]
    exact .word (word_realText x)
  | string s =>
    intro depth depth'
    rw [write_string, write_string]
    exact .literal s
  | array items ih =>
    intro depth depth'
    rw [write_array, write_array, block_compact]
    exact .block hlayout (by decide) (by decide) (fun item hitem => ih item hitem _ _) depth
  | object fields ih =>
    intro depth depth'
    rw [write_object, write_object, block_compact]
    refine .block hlayout (by decide) (by decide) (fun field hfield => ?_) depth
    rw [← Prod.mk.eta (p := field), writeField_eq, writeField_eq]
    exact (Unspaces.literal _).append (.cons (by decide) (by decide)
      ((Unspaces.of_blank hlayout.gap).append (ih field hfield _ _)))

/-- **Without its blanks, a text of a document is its compact text.** -/
theorem unspaced_write {layout : Layout} (hlayout : layout.Blank) (depth : ℕ) (document : Json) :
    unspaced (document.write layout depth) = document.write .compact 0 :=
  (unspaces_write hlayout document depth 0).unspaced_eq

/-- Blanks stay in a literal, also behind a quote that is escaped. -/
example : unspaced "[\n  \"a \\\" b\"\n]".toList = "[\"a \\\" b\"]".toList := by
  rfl

/-! ### One line -/

/-- **A text without control characters**, and so on one line. -/
def Printed (text : List Char) : Prop := ∀ c ∈ text, 0x20 ≤ c.toNat

namespace Printed

variable {text text' : List Char}

theorem nil : Printed [] := List.forall_mem_nil _

theorem append (h : Printed text) (h' : Printed text') : Printed (text ++ text') :=
  List.forall_mem_append.mpr ⟨h, h'⟩

theorem cons {c : Char} (hc : 0x20 ≤ c.toNat) (h : Printed text) : Printed (c :: text) :=
  List.forall_mem_cons.mpr ⟨hc, h⟩

theorem word (h : Word text) : Printed text := fun c hc => by
  have := toNat_of_isWordChar (h.isWordChar c hc)
  omega

/-- Control characters are written by characters that are none. -/
theorem escaped (c : Char) : Printed (escaped c) := by
  have hdigit : ∀ n < 16, 0x20 ≤ (hexDigit n).toNat := by decide
  unfold Json.escaped
  split
  case h_8 =>
    split
    · have hunicode : Printed ['\\', 'u', '0', '0'] := by simp [Printed]
      exact hunicode.append
        (.cons (hdigit (c.toNat / 16) (by omega)) (.cons (hdigit (c.toNat % 16) (by omega)) .nil))
    · exact .cons (by omega) .nil
  all_goals simp [Printed]

theorem literal (s : String) : Printed (quoted s) := by
  have hbody : Printed (s.toList.flatMap Json.escaped) := fun c hc => by
    obtain ⟨d, -, hd⟩ := List.mem_flatMap.mp hc
    exact escaped d c hd
  exact .cons (by decide) (hbody.append (.cons (by decide) .nil))

theorem block {texts : List (List Char)} {opening closing : Char} (hopening : 0x20 ≤ opening.toNat)
    (hclosing : 0x20 ≤ closing.toNat) (h : ∀ text ∈ texts, Printed text) :
    Printed (Json.block .compact 0 opening closing texts) := by
  have hend : Printed [closing] := .cons hclosing .nil
  cases texts with
  | nil => exact .cons hopening hend
  | cons text texts =>
    obtain ⟨htext, htexts⟩ := List.forall_mem_cons.mp h
    have htail : Printed (texts.flatMap fun text => ',' :: text) := fun c hc => by
      obtain ⟨text', htext', hc⟩ := List.mem_flatMap.mp hc
      exact (Printed.cons (by decide) (htexts text' htext')) c hc
    exact .cons hopening ((htext.append htail |>.append .nil).append hend)

end Printed

/-- **The compact text of a document is one line**: what would break it is escaped. -/
theorem printed_write (document : Json) (depth : ℕ) : Printed (document.write .compact depth) := by
  refine compact_induction (fun _ => .word) .literal (fun key text htext => ?_)
    (fun texts => .block (by decide) (by decide)) (fun texts => .block (by decide) (by decide))
    document depth
  exact (Printed.literal key).append (.cons (by decide) htext)

end DivisionBenchmark.Json
