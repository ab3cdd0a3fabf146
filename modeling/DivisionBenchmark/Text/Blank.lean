/-!
# Blanks

The characters that surround a text without belonging to it, and the text without them. A blank
is a character with the Unicode property *White_Space*: the ASCII blanks, the next-line and
no-break spaces, and the spaces and separators of the general punctuation block.

Main definitions:

* `DivisionBenchmark.Text.isBlank`: the property;
* `DivisionBenchmark.Text.trim`: a text without the blanks at its two ends.

Main statements: a trimmed text begins and ends with no blank (`head?_trim`, `getLast?_trim`), and
a text without blanks at its ends is its own trimming (`trim_eq_self`).
-/

namespace DivisionBenchmark.Text

/-- Whether a character has the property *White_Space*. -/
def isBlank (c : Char) : Bool :=
  let n := c.toNat
  (9 ≤ n && n ≤ 13) || n == 0x20 || n == 0x85 || n == 0xA0 || n == 0x1680 ||
    (0x2000 ≤ n && n ≤ 0x200A) || n == 0x2028 || n == 0x2029 || n == 0x202F || n == 0x205F ||
    n == 0x3000

/-- A text without the blanks it ends with. -/
def trimEnd (cs : List Char) : List Char :=
  (cs.reverse.dropWhile isBlank).reverse

/-- A text without the blanks at its two ends. -/
def trim (cs : List Char) : List Char :=
  trimEnd (cs.dropWhile isBlank)

/-- What `dropWhile` leaves does not begin with what it drops. -/
theorem not_of_head?_dropWhile {α : Type} {p : α → Bool} :
    ∀ {l : List α} {a : α}, (l.dropWhile p).head? = some a → p a = false
  | [], a, h => by simp at h
  | b :: l, a, h => by
    cases hb : p b with
    | true => rw [List.dropWhile_cons, hb] at h; exact not_of_head?_dropWhile h
    | false =>
      rw [List.dropWhile_cons, hb] at h
      simp only [Bool.false_eq_true, if_false, List.head?_cons, Option.some.injEq] at h
      exact h ▸ hb

/-- A trimmed text does not end with a blank. -/
theorem getLast?_trim {cs : List Char} {c : Char} (h : (trim cs).getLast? = some c) :
    isBlank c = false := by
  unfold trim trimEnd at h
  rw [List.getLast?_reverse] at h
  exact not_of_head?_dropWhile h

/-- Cutting blanks off the end keeps the first character, unless nothing is left. -/
theorem head?_trimEnd {cs : List Char} {c : Char} (h : (trimEnd cs).head? = some c) :
    cs.head? = some c := by
  unfold trimEnd at h
  rw [List.head?_reverse] at h
  have hsuf : (cs.reverse.dropWhile isBlank) <:+ cs.reverse := List.dropWhile_suffix _
  obtain ⟨t, ht⟩ := hsuf
  have : cs.reverse.getLast? = some c := by
    rw [← ht, List.getLast?_append, h, Option.some_or]
  rwa [List.getLast?_reverse] at this

/-- A trimmed text does not begin with a blank. -/
theorem head?_trim {cs : List Char} {c : Char} (h : (trim cs).head? = some c) :
    isBlank c = false :=
  not_of_head?_dropWhile (head?_trimEnd h)

/-- A text with no blank at either end is its own trimming. -/
theorem trim_eq_self {cs : List Char} (hfirst : ∀ c, cs.head? = some c → isBlank c = false)
    (hlast : ∀ c, cs.getLast? = some c → isBlank c = false) : trim cs = cs := by
  have drop_eq : ∀ l : List Char, (∀ c, l.head? = some c → isBlank c = false) →
      l.dropWhile isBlank = l := by
    intro l hl
    cases l with
    | nil => rfl
    | cons c l => rw [List.dropWhile_cons, hl c rfl]; rfl
  unfold trim trimEnd
  rw [drop_eq cs hfirst, drop_eq cs.reverse (by simpa using hlast), List.reverse_reverse]

end DivisionBenchmark.Text
