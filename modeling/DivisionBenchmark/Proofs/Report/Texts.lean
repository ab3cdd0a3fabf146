import DivisionBenchmark.Proofs.Text.Lowering
import DivisionBenchmark.Proofs.Text.Numerals
import DivisionBenchmark.Report.Json
import Mathlib.Data.Prod.Basic

/-!
# What the texts of documents are made of

The text of a document is put together from words, which are the numbers and what is written for
nothing, from literals, and from texts in brackets with commas between them. A reader that goes
through a text character by character has to know only whether it is in a literal
(`DivisionBenchmark.Json.Place`): between the quotes of a literal stands nothing that ends it, since
quotes and backslashes are escaped (`DivisionBenchmark.Json.stays_flatMap_escaped`).

So what is to hold of the text of every document on one line is to hold of words and of literals,
and to pass from texts to a field and to brackets.

Main statements:

* `DivisionBenchmark.Json.word_repr`, `DivisionBenchmark.Json.word_realText`: numbers are words;
* `DivisionBenchmark.Json.induction`: documents by their parts;
* `DivisionBenchmark.Json.compact_induction`: their texts on one line, by the parts of these.
-/

namespace DivisionBenchmark

/-! ### Words -/

/-- **A character of a word**: of a number, or of what is written for nothing. -/
def Json.isWordChar (c : Char) : Bool := c.isAlphanum || c == '-' || c == '+' || c == '.'

/-- **A word**: such characters, one at least. -/
structure Json.Word (text : List Char) : Prop where
  /-- There is a character. -/
  ne_nil : text ≠ []
  /-- There are no others. -/
  isWordChar : ∀ c ∈ text, Json.isWordChar c

open Json (isWordChar)

/-- Where the characters of words stand among the others. -/
theorem Json.toNat_of_isWordChar {c : Char} (h : isWordChar c) :
    43 ≤ c.toNat ∧ c.toNat < 123 ∧ c.toNat ≠ 44 ∧ c.toNat ≠ 58 ∧ c.toNat ≠ 91 ∧ c.toNat ≠ 93 := by
  simp only [isWordChar, Char.isAlphanum, Bool.or_eq_true, beq_iff_eq, Text.isAlpha_iff,
    Text.isUpper_iff, Text.isLower_iff, Text.isDigit_iff] at h
  rcases h with ((h | rfl) | rfl) | rfl
  · omega
  all_goals decide

theorem Json.isWordChar_of_isDigit {c : Char} (h : c.isDigit) : isWordChar c := by
  simp [isWordChar, Char.isAlphanum, h]

/-- A numeral is a word. -/
theorem Json.word_repr (n : ℕ) : Word n.repr.toList := by
  rw [Nat.toList_repr]
  exact ⟨Nat.toDigits_ne_nil, fun c hc =>
    isWordChar_of_isDigit (Nat.isDigit_of_mem_toDigits (by decide) (by decide) hc)⟩

namespace Decimal

open Json (word_repr)

variable (d : Decimal)

theorem isWordChar_zeros (n : ℕ) : ∀ c ∈ (zeros n).toList, isWordChar c := by
  intro c hc
  rw [zeros, String.toList_ofList] at hc
  rw [List.eq_of_mem_replicate hc]
  rfl

theorem isWordChar_positional : ∀ c ∈ d.positional.toList, isWordChar c := by
  have hdigits := (word_repr d.digits).isWordChar
  have hpoint : ∀ c ∈ ".".toList, isWordChar c := by simp [isWordChar]
  have hzero : ∀ c ∈ "0.".toList, isWordChar c := by simp [isWordChar]
  unfold positional
  dsimp only
  split
  · simp only [String.toList_append, List.forall_mem_append]
    exact ⟨hdigits, isWordChar_zeros _⟩
  · split
    · simp only [String.toList_append, List.forall_mem_append, String.toList_ofList]
      exact ⟨⟨fun c hc => hdigits c (List.mem_of_mem_take hc), hpoint⟩,
        fun c hc => hdigits c (List.mem_of_mem_drop hc)⟩
    · simp only [String.toList_append, List.forall_mem_append]
      exact ⟨⟨hzero, isWordChar_zeros _⟩, hdigits⟩

/-- A number with all its places is a word: there is a point in it. -/
theorem word_positionalReal : Json.Word d.positionalReal.toList := by
  have hplaces : ∀ c ∈ ".0".toList, isWordChar c := by simp [isWordChar]
  unfold positionalReal
  split
  · constructor
    · simp
    · simp only [String.toList_append, List.forall_mem_append]
      exact ⟨d.isWordChar_positional, hplaces⟩
  · rename_i hneg
    refine ⟨?_, d.isWordChar_positional⟩
    unfold positional
    dsimp only
    rw [if_neg hneg]
    split <;> simp

/-- A number with an exponent is a word: there is the letter of the exponent in it. -/
theorem word_scientific : Json.Word d.scientific.toList := by
  have hdigits := (word_repr d.digits).isWordChar
  unfold scientific
  dsimp only
  constructor
  · split <;> split <;> simp
  · simp only [String.toList_append, List.forall_mem_append, String.toList_ofList]
    refine ⟨⟨⟨⟨fun c hc => hdigits c (List.mem_of_mem_take hc), ?_⟩,
      fun c hc => hdigits c (List.mem_of_mem_drop hc)⟩, ?_⟩, (word_repr _).isWordChar⟩
    · split <;> simp [isWordChar]
    · split <;> simp [isWordChar]

end Decimal

namespace Json

theorem word_null : Word "null".toList :=
  ⟨by decide, by simp [isWordChar]⟩

/-- A binary64 number is written as a word. -/
theorem word_realText (x : Float) : Word (realText x).toList := by
  unfold realText
  split
  · rename_i negative magnitude _
    have hsign : ∀ c ∈ (Binary64.signText negative).toList, isWordChar c := by
      cases negative <;> simp [Binary64.signText, isWordChar]
    have hmagnitude : Word (magnitudeText magnitude).toList := by
      unfold magnitudeText
      dsimp only
      split
      · exact Decimal.word_positionalReal _
      · exact Decimal.word_scientific _
    rw [String.toList_append]
    exact ⟨List.append_ne_nil_of_right_ne_nil _ hmagnitude.ne_nil,
      List.forall_mem_append.mpr ⟨hsign, hmagnitude.isWordChar⟩⟩
  · exact word_null

/-! ### Reading a text -/

/-- **Where a reader of a text stands**, as far as literals are concerned. -/
inductive Place where
  /-- Outside literals. -/
  | outside
  /-- In a literal. -/
  | inside
  /-- In a literal behind a backslash: what follows does not end it. -/
  | escaping
  deriving DecidableEq, Repr

/-- Where a reader stands after a character. -/
def Place.after : Place → Char → Place
  | outside, c => if c = '"' then inside else outside
  | inside, c => if c = '"' then outside else if c = '\\' then escaping else inside
  | escaping, _ => inside

/-! ### Literals -/

/-- **A text that stays in a literal**, read from a place, and leaves the reader there. -/
def Stays : Place → List Char → Prop
  | place, [] => place = .inside
  | place, c :: cs => place ≠ .outside ∧ Stays (place.after c) cs

theorem Stays.append {place : Place} {text text' : List Char} (h : Stays place text)
    (h' : Stays .inside text') : Stays place (text ++ text') := by
  induction text generalizing place with
  | nil => exact h ▸ h'
  | cons c cs ih => exact ⟨h.1, ih h.2⟩

theorem Stays.cons {c : Char} {cs : List Char} (hc : Place.inside.after c = .inside)
    (h : Stays .inside cs) : Stays .inside (c :: cs) :=
  ⟨by decide, hc.symm ▸ h⟩

/-- A hexadecimal digit neither ends a literal nor escapes what follows. -/
theorem after_hexDigit : ∀ n < 16, Place.inside.after (hexDigit n) = .inside := by
  decide

/-- What stands for a character in a literal stays in it. -/
theorem stays_escaped (c : Char) : Stays .inside (escaped c) := by
  unfold escaped
  split
  case h_8 hquote hbackslash _ _ _ _ _ =>
    split
    · have hunicode : Stays .inside ['\\', 'u', '0', '0'] := by simp [Stays, Place.after]
      have hhigh := after_hexDigit (c.toNat / 16) (by omega)
      have hlow := after_hexDigit (c.toNat % 16) (by omega)
      exact hunicode.append (.cons hhigh (.cons hlow rfl))
    · have hplain : Place.inside.after c = .inside := by
        have hquote' : c ≠ '"' := fun h => hquote (h ▸ rfl)
        have hbackslash' : c ≠ '\\' := fun h => hbackslash (h ▸ rfl)
        rw [Place.after, if_neg hquote', if_neg hbackslash']
      exact .cons hplain rfl
  all_goals simp [Stays, Place.after]

/-- So what stands between the quotes of a literal does. -/
theorem stays_flatMap_escaped (cs : List Char) : Stays .inside (cs.flatMap escaped) := by
  induction cs with
  | nil => rfl
  | cons c cs ih =>
    rw [List.flatMap_cons]
    exact (stays_escaped c).append ih

/-! ### Documents -/

/-- **A property of documents by their parts.** -/
theorem induction {motive : Json → Prop} (null : motive .null) (count : ∀ n, motive (.count n))
    (real : ∀ x, motive (.real x)) (string : ∀ s, motive (.string s))
    (array : ∀ items, (∀ item ∈ items, motive item) → motive (.array items))
    (object : ∀ fields : List (String × Json), (∀ field ∈ fields, motive field.2) →
      motive (.object fields)) :
    ∀ document, motive document :=
  -- the recursor also asks about lists of documents, lists of fields and fields
  @Json.rec motive (fun items => ∀ item ∈ items, motive item)
    (fun fields => ∀ field ∈ fields, motive field.2) (fun field => motive field.2)
    null count real string array object
    (List.forall_mem_nil _) (fun _ _ hitem hitems => List.forall_mem_cons.mpr ⟨hitem, hitems⟩)
    (List.forall_mem_nil _) (fun _ _ hfield hfields => List.forall_mem_cons.mpr ⟨hfield, hfields⟩)
    (fun _ _ hdocument => hdocument)

/-- **Texts in brackets**: a comma stands before each but the first. -/
def block (layout : Layout) (depth : ℕ) (opening closing : Char) : List (List Char) → List Char
  | [] => [opening, closing]
  | text :: texts =>
    opening :: (layout.newLine (depth + 1) ++ text ++
      texts.flatMap (fun text => ',' :: (layout.newLine (depth + 1) ++ text)) ++
      layout.newLine depth ++ [closing])

section write

variable (layout : Layout) (depth : ℕ)

theorem writeItems_eq (items : List Json) :
    writeItems layout depth items = (items.map (write layout depth)).flatMap
      fun text => ',' :: (layout.newLine depth ++ text) := by
  induction items with
  | nil => rw [writeItems, List.map_nil, List.flatMap_nil]
  | cons item items ih => rw [writeItems, ih, List.map_cons, List.flatMap_cons, List.cons_append]

theorem writeFields_eq (fields : List (String × Json)) :
    writeFields layout depth fields = (fields.map (writeField layout depth)).flatMap
      fun text => ',' :: (layout.newLine depth ++ text) := by
  induction fields with
  | nil => rw [writeFields, List.map_nil, List.flatMap_nil]
  | cons field fields ih =>
    rw [writeFields, ih, List.map_cons, List.flatMap_cons, List.cons_append]

/-- An array is the texts of its items in brackets. -/
theorem write_array (items : List Json) :
    write layout depth (.array items) =
      block layout depth '[' ']' (items.map (write layout (depth + 1))) := by
  cases items with
  | nil => rw [write, List.map_nil, block]
  | cons item items => rw [write, writeItems_eq, List.map_cons, block]

/-- An object is the texts of its fields in brackets. -/
theorem write_object (fields : List (String × Json)) :
    write layout depth (.object fields) =
      block layout depth '\x7b' '\x7d' (fields.map (writeField layout (depth + 1))) := by
  cases fields with
  | nil => rw [write, List.map_nil, block]
  | cons field fields => rw [write, writeFields_eq, List.map_cons, block]

theorem write_null : write layout depth .null = "null".toList := by rw [write]

theorem write_count (n : ℕ) : write layout depth (.count n) = n.repr.toList := by rw [write]

theorem write_real (x : Float) : write layout depth (.real x) = (realText x).toList := by rw [write]

theorem write_string (s : String) : write layout depth (.string s) = quoted s := by rw [write]

theorem writeField_eq (key : String) (document : Json) :
    writeField layout depth (key, document) =
      quoted key ++ ':' :: (layout.gap ++ document.write layout depth) := by
  rw [writeField]

end write

/-- The compact layout does not know about depths. -/
theorem block_compact (depth : ℕ) (opening closing : Char) (texts : List (List Char)) :
    block .compact depth opening closing texts = block .compact 0 opening closing texts := by
  cases texts <;> rfl

/-- **A property of the texts of documents on one line**, by the parts of the texts. -/
theorem compact_induction {motive : List Char → Prop} (word : ∀ text, Word text → motive text)
    (literal : ∀ s, motive (quoted s))
    (field : ∀ key text, motive text → motive (quoted key ++ ':' :: text))
    (array : ∀ texts, (∀ text ∈ texts, motive text) → motive (block .compact 0 '[' ']' texts))
    (object : ∀ texts, (∀ text ∈ texts, motive text) →
      motive (block .compact 0 '\x7b' '\x7d' texts)) (document : Json) :
    ∀ depth, motive (document.write .compact depth) := by
  induction document using induction with
  | null =>
    intro depth
    rw [write_null]
    exact word _ word_null
  | count n =>
    intro depth
    rw [write_count]
    exact word _ (word_repr n)
  | real x =>
    intro depth
    rw [write_real]
    exact word _ (word_realText x)
  | string s =>
    intro depth
    rw [write_string]
    exact literal s
  | array items ih =>
    intro depth
    rw [write_array, block_compact]
    exact array _ (List.forall_mem_map.mpr fun item hitem => ih item hitem _)
  | object fields ih =>
    intro depth
    rw [write_object, block_compact]
    refine object _ (List.forall_mem_map.mpr fun member hmember => ?_)
    rw [← Prod.mk.eta (p := member), writeField_eq]
    exact field _ _ (ih member hmember _)

end Json

end DivisionBenchmark
