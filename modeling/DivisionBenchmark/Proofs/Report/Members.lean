import DivisionBenchmark.Proofs.Report.Unspaced
import DivisionBenchmark.Text.Numeral
import Mathlib.Data.List.Basic
import Mathlib.Tactic.FinCases

/-!
# The members of a text

What a text on one line holds is read off the text: an array gives its items and an object its
fields if the text is cut at the commas that stand neither in a literal nor in deeper brackets
(`DivisionBenchmark.Json.members`), and a field gives what stands under its key
(`DivisionBenchmark.Json.under?`). A comma that stands in no brackets is one that was written
between members, since the text of a member opens and closes its own brackets and keeps commas
inside of them or of its literals. A key is known by the literal it is written as: that ends at the
first quote that is not escaped, and characters are escaped in different ways.

Main statements:

* `DivisionBenchmark.Json.members_array`: the members of an array are its items, in their order;
* `DivisionBenchmark.Json.under?_object`: under a key stands the first document of this key.
-/

namespace DivisionBenchmark.Json

/-! ### Cutting a text at its commas -/

/-- How deep in brackets a reader is after a character, read at a place. -/
def depthAfter (depth : ℕ) (place : Place) (c : Char) : ℕ :=
  if place = .outside ∧ (c = '[' ∨ c = '\x7b') then depth + 1
  else if place = .outside ∧ (c = ']' ∨ c = '\x7d') then depth - 1
  else depth

/-- The first part of a text and the others, where it is cut at the commas that stand in no literal
and in no brackets. -/
def partsFrom : ℕ → Place → List Char → List Char × List (List Char)
  | _, _, [] => ([], [])
  | depth, place, c :: cs =>
    let parts := partsFrom (depthAfter depth place c) (place.after c) cs
    if depth = 0 ∧ place = .outside ∧ c = ',' then ([], parts.1 :: parts.2)
    else (c :: parts.1, parts.2)

/-- **The members of a text in brackets.** -/
def members (text : List Char) : List (List Char) :=
  let inside := text.tail.dropLast
  let parts := partsFrom 0 .outside inside
  if inside = [] then [] else parts.1 :: parts.2

/-- **A text is not cut**, from a depth on. -/
def Uncut (least : ℕ) (text : List Char) : Prop :=
  ∀ depth, least ≤ depth → ∀ rest, partsFrom depth .outside (text ++ rest) =
    (text ++ (partsFrom depth .outside rest).1, (partsFrom depth .outside rest).2)

namespace Uncut

variable {least : ℕ} {text text' : List Char}

theorem mono {least' : ℕ} (h : Uncut least text) (hle : least ≤ least') : Uncut least' text :=
  fun depth hdepth => h depth (hle.trans hdepth)

theorem nil : Uncut least [] := fun _ _ _ => rfl

theorem append (h : Uncut least text) (h' : Uncut least text') : Uncut least (text ++ text') := by
  intro depth hdepth rest
  rw [List.append_assoc, h depth hdepth, h' depth hdepth, List.append_assoc]

theorem flatMap {α : Type} {l : List α} {f : α → List Char} (h : ∀ a ∈ l, Uncut least (f a)) :
    Uncut least (l.flatMap f) := by
  induction l with
  | nil => exact nil
  | cons a l ih =>
    rw [List.flatMap_cons]
    exact (h a List.mem_cons_self).append (ih fun b hb => h b (List.mem_cons_of_mem a hb))

/-- A text is not cut at a character that is neither a comma nor a bracket nor a quote. -/
theorem plain {c : Char} (hc : c ∉ [',', '[', ']', '\x7b', '\x7d', '"']) : Uncut least [c] := by
  simp only [List.mem_cons, List.not_mem_nil, or_false, not_or] at hc
  obtain ⟨hcomma, hopen, hclose, hopen', hclose', hquote⟩ := hc
  intro depth _ rest
  have hdepth : depthAfter depth .outside c = depth := by simp [depthAfter, *]
  have hplace : Place.outside.after c = .outside := if_neg hquote
  rw [List.singleton_append, partsFrom, hdepth, hplace, if_neg fun h => hcomma h.2.2]
  rfl

/-- In brackets a text is not cut at a comma. -/
theorem comma : Uncut 1 [','] := by
  intro depth hdepth rest
  have hdeep : depthAfter depth .outside ',' = depth := by simp [depthAfter]
  have hplace : Place.outside.after ',' = .outside := rfl
  rw [List.singleton_append, partsFrom, hdeep, hplace, if_neg fun h => by omega]
  rfl

theorem word (h : Word text) : Uncut least text := by
  have hchars (c : Char) (hc : c ∈ text) : Uncut least [c] := by
    have := toNat_of_isWordChar (h.isWordChar c hc)
    refine plain fun hmem => ?_
    fin_cases hmem <;> simp at this
  rw [← List.flatMap_singleton' text]
  exact flatMap hchars

end Uncut

/-- A text is not cut in a literal. -/
theorem Stays.partsFrom_append {place : Place} {text : List Char} (h : Stays place text)
    (depth : ℕ) (rest : List Char) :
    partsFrom depth place (text ++ rest) =
      (text ++ (partsFrom depth .inside rest).1, (partsFrom depth .inside rest).2) := by
  induction text generalizing place with
  | nil =>
    rw [h]
    rfl
  | cons c cs ih =>
    have hdepth : depthAfter depth place c = depth := by simp [depthAfter, h.1]
    rw [List.cons_append, partsFrom, hdepth, if_neg fun hcut => h.1 hcut.2.1, ih h.2]
    rfl

namespace Uncut

variable {least : ℕ} {text text' : List Char}

theorem literal (s : String) : Uncut least (quoted s) := by
  intro depth _ rest
  have hinside := (stays_flatMap_escaped s.toList).partsFrom_append depth ('"' :: rest)
  have hdepth (place : Place) : depthAfter depth place '"' = depth := by simp [depthAfter]
  have hopen : Place.outside.after '"' = .inside := rfl
  have hclose : Place.inside.after '"' = .outside := rfl
  rw [quoted, List.cons_append, partsFrom, hdepth, hopen, List.append_assoc,
    List.singleton_append, hinside, partsFrom, hdepth, hclose, if_neg (by simp), if_neg (by simp)]
  simp

/-- **Brackets hold a text together** that is not cut in them. -/
theorem brackets {opening closing : Char}
    (hbrackets : opening = '[' ∧ closing = ']' ∨ opening = '\x7b' ∧ closing = '\x7d')
    (h : Uncut 1 text) : Uncut least (opening :: (text ++ [closing])) := by
  intro depth _ rest
  have hdown : depthAfter depth .outside opening = depth + 1 := by
    rcases hbrackets with ⟨rfl, -⟩ | ⟨rfl, -⟩ <;> simp [depthAfter]
  have hup : depthAfter (depth + 1) .outside closing = depth := by
    rcases hbrackets with ⟨-, rfl⟩ | ⟨-, rfl⟩ <;> simp [depthAfter]
  have hplace : Place.outside.after opening = .outside ∧
      Place.outside.after closing = .outside := by
    rcases hbrackets with ⟨rfl, rfl⟩ | ⟨rfl, rfl⟩ <;> decide
  have hcomma : opening ≠ ',' ∧ closing ≠ ',' := by
    rcases hbrackets with ⟨rfl, rfl⟩ | ⟨rfl, rfl⟩ <;> decide
  rw [List.cons_append, partsFrom, hdown, hplace.1, List.append_assoc, List.singleton_append,
    h (depth + 1) (Nat.le_add_left 1 depth), partsFrom, hup, hplace.2,
    if_neg fun hcut => hcomma.1 hcut.2.2, if_neg fun hcut => hcomma.2 hcut.2.2]
  simp

/-- Texts in brackets are held together. -/
theorem block {opening closing : Char} {texts : List (List Char)}
    (hbrackets : opening = '[' ∧ closing = ']' ∨ opening = '\x7b' ∧ closing = '\x7d')
    (h : ∀ text ∈ texts, Uncut 0 text) :
    Uncut least (Json.block .compact 0 opening closing texts) := by
  cases texts with
  | nil => exact brackets hbrackets nil
  | cons text texts =>
    obtain ⟨htext, htexts⟩ := List.forall_mem_cons.mp h
    have htail : Uncut 1 (texts.flatMap fun text => ',' :: text) :=
      flatMap fun text' htext' => comma.append ((htexts text' htext').mono (Nat.zero_le 1))
    have hinner := ((htext.mono (Nat.zero_le 1)).append htail).append nil
    exact brackets hbrackets hinner

end Uncut

/-! ### The members of a document -/

/-- A field is not cut where the document in it is not. -/
theorem Uncut.field (key : String) {text : List Char} (h : Uncut 0 text) :
    Uncut 0 (quoted key ++ ':' :: text) :=
  (Uncut.literal key).append ((Uncut.plain (by decide)).append h)

/-- **The text of a document is not cut.** -/
theorem uncut_write (document : Json) (depth : ℕ) : Uncut 0 (document.write .compact depth) :=
  compact_induction (fun _ => .word) .literal (fun key _ => .field key)
    (fun _ => .block (.inl ⟨rfl, rfl⟩)) (fun _ => .block (.inr ⟨rfl, rfl⟩)) document depth

/-- Texts that are not cut are cut apart at the commas between them. -/
theorem partsFrom_separated {text : List Char} {texts : List (List Char)} (htext : Uncut 0 text)
    (htexts : ∀ text ∈ texts, Uncut 0 text) :
    partsFrom 0 .outside (text ++ texts.flatMap fun text => ',' :: text) = (text, texts) := by
  induction texts generalizing text with
  | nil =>
    rw [List.flatMap_nil, htext 0 le_rfl, partsFrom, List.append_nil]
  | cons text' texts ih =>
    obtain ⟨htext', htexts⟩ := List.forall_mem_cons.mp htexts
    have hdepth : depthAfter 0 .outside ',' = 0 := by simp [depthAfter]
    have hplace : Place.outside.after ',' = .outside := rfl
    -- the first text is passed whole, and the comma behind it cuts
    rw [htext 0 le_rfl, List.flatMap_cons, List.cons_append, partsFrom, hdepth, hplace,
      ih htext' htexts, if_pos ⟨rfl, rfl, rfl⟩, List.append_nil]

/-- **The members of texts in brackets are these texts.** -/
theorem members_block {opening closing : Char} {texts : List (List Char)}
    (h : ∀ text ∈ texts, Uncut 0 text ∧ text ≠ []) :
    members (block .compact 0 opening closing texts) = texts := by
  cases texts with
  | nil => rfl
  | cons text texts =>
    obtain ⟨⟨htext, hne⟩, htexts⟩ := List.forall_mem_cons.mp h
    have hinside : (block .compact 0 opening closing (text :: texts)).tail.dropLast =
        text ++ texts.flatMap fun text => ',' :: text := by
      show (text ++ (texts.flatMap fun text => ',' :: text) ++ [] ++ [closing]).dropLast = _
      rw [List.append_nil, List.dropLast_concat]
    rw [members, hinside, if_neg fun hnil => hne (List.append_eq_nil_iff.mp hnil).1,
      partsFrom_separated htext fun text' htext' => (htexts text' htext').1]

/-! ### Keys -/

/-- **The first character a literal stands for**, and what stands behind it. -/
def unescape : List Char → Option (Char × List Char)
  | '\\' :: 'u' :: '0' :: '0' :: high :: low :: cs =>
    some (.ofNat (16 * Text.hexValue high + Text.hexValue low), cs)
  | '\\' :: 'b' :: cs => some ('\x08', cs)
  | '\\' :: 't' :: cs => some ('\t', cs)
  | '\\' :: 'n' :: cs => some ('\n', cs)
  | '\\' :: 'f' :: cs => some ('\x0c', cs)
  | '\\' :: 'r' :: cs => some ('\r', cs)
  | '\\' :: c :: cs => some (c, cs)
  | c :: cs => some (c, cs)
  | [] => none

theorem unescape_escaped (c : Char) (rest : List Char) :
    unescape (escaped c ++ rest) = some (c, rest) := by
  have hvalue : ∀ n < 16, Text.hexValue (hexDigit n) = n := by decide
  have hchar {n : ℕ} (h : c.toNat = n) : Char.ofNat n = c := h ▸ Char.ofNat_toNat c
  unfold escaped
  split
  case h_8 hquote hbackslash _ _ _ _ _ =>
    split
    · have hsum : 16 * (c.toNat / 16) + c.toNat % 16 = c.toNat := by omega
      simp only [List.cons_append, List.nil_append, unescape]
      rw [hvalue _ (by omega), hvalue _ (by omega), hsum, Char.ofNat_toNat]
    · have hbackslash' : c ≠ '\\' := fun h => hbackslash (h ▸ rfl)
      rw [List.singleton_append, unescape]
      all_goals simp [hbackslash']
  all_goals
    rename_i h
    rw [← hchar h]
    rfl

theorem escaped_append_inj {c d : Char} {cs ds : List Char}
    (h : escaped c ++ cs = escaped d ++ ds) : c = d ∧ cs = ds := by
  have hread := congrArg unescape h
  rw [unescape_escaped, unescape_escaped] at hread
  exact Prod.mk.inj (Option.some.inj hread)

/-- No character is written with a quote in front. -/
theorem quote_cons_ne {c : Char} {cs ds : List Char} : '"' :: ds ≠ escaped c ++ cs := by
  intro h
  have hread := congrArg unescape h
  rw [unescape_escaped] at hread
  obtain ⟨rfl, -⟩ := Prod.mk.inj (Option.some.inj hread)
  cases h

/-- **A literal is known by the text it begins**: it ends at the first quote that is not escaped. -/
theorem quoted_append_inj {s t : String} {cs ds : List Char}
    (h : quoted s ++ cs = quoted t ++ ds) : s = t ∧ cs = ds := by
  have hbody : ∀ l l' : List Char,
      l.flatMap escaped ++ '"' :: cs = l'.flatMap escaped ++ '"' :: ds → l = l' ∧ cs = ds := by
    -- both are read side by side: where one ends, the other cannot have an escaped character
    intro l
    induction l with
    | nil =>
      intro l' h
      cases l' with
      | nil => exact ⟨rfl, (List.cons.inj h).2⟩
      | cons d l' =>
        rw [List.flatMap_cons, List.append_assoc] at h
        exact absurd h quote_cons_ne
    | cons c l ih =>
      intro l' h
      cases l' with
      | nil =>
        rw [List.flatMap_cons, List.append_assoc] at h
        exact absurd h.symm quote_cons_ne
      | cons d l' =>
        rw [List.flatMap_cons, List.flatMap_cons, List.append_assoc, List.append_assoc] at h
        obtain ⟨hc, hl⟩ := escaped_append_inj h
        obtain ⟨rfl, hrest⟩ := ih l' hl
        exact ⟨hc ▸ rfl, hrest⟩
  simp only [quoted, List.cons_append, List.append_assoc, List.cons.injEq, true_and] at h
  obtain ⟨hs, hrest⟩ := hbody _ _ h
  exact ⟨String.toList_inj.mp hs, hrest⟩

/-- **What stands under a key** in a text in brackets. -/
def under? (key : String) (text : List Char) : Option (List Char) :=
  (members text).findSome? (·.dropPrefix? (quoted key ++ [':']))

theorem dropPrefix?_field (key key' : String) (text : List Char) :
    (quoted key' ++ ':' :: text).dropPrefix? (quoted key ++ [':']) =
      if key' = key then some text else none := by
  split
  · rename_i h
    rw [List.dropPrefix?_eq_some_iff]
    exact ⟨quoted key ++ [':'], by rw [h, List.append_assoc, List.singleton_append],
      beq_self_eq_true _⟩
  · rename_i hne
    cases hdrop : (quoted key' ++ ':' :: text).dropPrefix? (quoted key ++ [':']) with
    | none => rfl
    | some rest =>
      obtain ⟨front, hfront, hkey⟩ := List.dropPrefix?_eq_some_iff.mp hdrop
      rw [eq_of_beq hkey, List.append_assoc] at hfront
      exact absurd (quoted_append_inj hfront).1 hne

/-- Every document has a text. -/
theorem write_ne_nil (document : Json) (depth : ℕ) : document.write .compact depth ≠ [] := by
  have hblock (opening closing : Char) (texts : List (List Char)) :
      block .compact 0 opening closing texts ≠ [] := by
    cases texts <;> exact List.cons_ne_nil _ _
  exact compact_induction (fun _ => Word.ne_nil) (fun _ => List.cons_ne_nil _ _)
    (fun _ _ _ => List.cons_ne_nil _ _) (fun _ _ => hblock _ _ _) (fun _ _ => hblock _ _ _)
    document depth

/-- The compact layout knows no depths. -/
theorem write_compact (document : Json) (depth : ℕ) :
    document.write .compact depth = document.write .compact 0 := by
  have h := unspaces_write Layout.blank_compact document depth
  exact (h depth).unspaced_eq.symm.trans (h 0).unspaced_eq

/-- **The members of an array are its items**, in their order. -/
theorem members_array (items : List Json) :
    members (write .compact 0 (.array items)) = items.map (write .compact 0) := by
  rw [write_array, members_block]
  · exact List.map_congr_left fun item _ => write_compact item _
  · exact List.forall_mem_map.mpr fun item _ => ⟨uncut_write item _, write_ne_nil item _⟩

/-- The members of an object are its fields. -/
theorem members_object (fields : List (String × Json)) :
    members (write .compact 0 (.object fields)) = fields.map (writeField .compact 1) := by
  rw [write_object, members_block]
  refine List.forall_mem_map.mpr fun field _ => ?_
  rw [← Prod.mk.eta (p := field), writeField_eq]
  exact ⟨.field _ (uncut_write _ _), List.cons_ne_nil _ _⟩

/-- **Under a key of an object stands its first document of this key.** -/
theorem under?_object (key : String) (fields : List (String × Json)) :
    under? key (write .compact 0 (.object fields)) =
      (fields.find? (·.1 = key)).map (·.2.write .compact 0) := by
  rw [under?, members_object]
  induction fields with
  | nil => rfl
  | cons field fields ih =>
    have hfield : (writeField .compact 1 field).dropPrefix? (quoted key ++ [':']) =
        if field.1 = key then some (field.2.write .compact 0) else none := by
      rw [← write_compact field.2 1, ← dropPrefix?_field, ← Prod.mk.eta (p := field), writeField_eq]
      rfl
    rw [List.map_cons, List.findSome?_cons, hfield, List.find?_cons]
    by_cases hkey : field.1 = key
    · simp [hkey]
    · simp [hkey, ih]

/-- A comma in deeper brackets does not end a field, and a key in them is none of the object. -/
example : under? "b" "\x7b\"a\":\x7b\"c\":1,\"b\":2\x7d,\"b\":3\x7d".toList = some ['3'] := by
  rfl

end DivisionBenchmark.Json
