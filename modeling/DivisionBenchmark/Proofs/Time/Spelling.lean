import DivisionBenchmark.Proofs.Text.Lowering
import DivisionBenchmark.Proofs.Text.Numerals
import DivisionBenchmark.Time.IterationTime

/-!
# How iteration times are spelt

An iteration time is spelt as a numeral, blanks, and the symbol of a unit in letters of any case; a
numeral alone is in milliseconds. The reader looks at the text in lower case, finds the unit at its
end, takes the symbol away as often as it is there, and reads what is left. So the symbol may as
well be repeated, and the texts that are read are those with a numeral and the symbol of one unit
any number of times (`DivisionBenchmark.IterationTime.Spells`). How often it is there is told by the
text, together with the number and the unit (`DivisionBenchmark.IterationTime.Spells.unique`).

Main statement: `DivisionBenchmark.IterationTime.parse_eq_ok_iff_spells`, the times that are read,
and from which texts. With a symbol that is repeated a text is no number with one unit, and is read
all the same (`DivisionBenchmark.IterationTime.parse_of_repeated_symbol`).
-/

namespace DivisionBenchmark.IterationTime

/-! ### Symbols at the end of a text -/

/-- The symbol of a unit, so many times over. -/
def Unit.symbols (u : Unit) (times : Nat) : List Char := (List.replicate times u.symbol).flatten

theorem Unit.symbols_succ (u : Unit) (times : Nat) :
    u.symbols (times + 1) = u.symbols times ++ u.symbol := by
  rw [symbols, List.replicate_succ', List.flatten_append, List.flatten_singleton]
  rfl

section drop

variable {symbol : List Char}

/-- What is taken away from the start of a text is the symbol, so many times over, and no more of it
is left if it may be taken away often enough. -/
theorem exists_dropLeading (hne : symbol ≠ []) (times : Nat) (cs : List Char) :
    ∃ k, cs = (List.replicate k symbol).flatten ++ dropLeading symbol times cs ∧
      (cs.length ≤ times → ¬ symbol <+: dropLeading symbol times cs) := by
  induction times generalizing cs with
  | zero =>
    refine ⟨0, rfl, fun hlength hprefix => hne ?_⟩
    rw [dropLeading, List.length_eq_zero_iff.mp (Nat.le_zero.mp hlength)] at hprefix
    exact List.prefix_nil.mp hprefix
  | succ times ih =>
    rw [dropLeading]
    split
    · rename_i hprefix
      obtain ⟨rest, rfl⟩ := List.isPrefixOf_iff_prefix.mp hprefix
      obtain ⟨k, hrest, hnone⟩ := ih rest
      rw [List.drop_left]
      refine ⟨k + 1, ?_, fun hlength => hnone ?_⟩
      · rw [List.replicate_succ, List.flatten_cons, List.append_assoc, ← hrest]
      · rw [List.length_append] at hlength
        have := List.length_pos_iff.mpr hne
        omega
    · rename_i hprefix
      exact ⟨0, rfl, fun _ h => hprefix (List.isPrefixOf_iff_prefix.mpr h)⟩

/-- **What is taken away from the end of a text is the symbol**, so many times over, and no more of
it is left. -/
theorem exists_dropSymbol (hne : symbol ≠ []) (cs : List Char) :
    ∃ times, cs = dropSymbol symbol cs ++ (List.replicate times symbol).flatten ∧
      ¬ symbol <:+ dropSymbol symbol cs := by
  obtain ⟨times, hcs, hnone⟩ :=
    exists_dropLeading (List.reverse_ne_nil_iff.mpr hne) cs.length cs.reverse
  refine ⟨times, ?_, fun hsuffix => hnone (by rw [List.length_reverse]) ?_⟩
  · have := congrArg List.reverse hcs
    rwa [List.reverse_reverse, List.reverse_append, List.reverse_flatten, List.map_replicate,
      List.reverse_replicate, List.reverse_reverse] at this
  · rw [dropSymbol] at hsuffix
    exact List.reverse_suffix.mp (by rwa [List.reverse_reverse])

/-- A text ends in a symbol so many times over, and no more, in one way. -/
theorem eq_of_append_replicate {a b : List Char} {k m : Nat} (ha : ¬ symbol <:+ a)
    (hb : ¬ symbol <:+ b)
    (h : a ++ (List.replicate k symbol).flatten = b ++ (List.replicate m symbol).flatten) :
    a = b ∧ k = m := by
  have hlast (c : List Char) (times : Nat) : c ++ (List.replicate (times + 1) symbol).flatten =
      c ++ (List.replicate times symbol).flatten ++ symbol := by
    rw [List.replicate_succ', List.flatten_append, List.flatten_singleton, List.append_assoc]
  induction k generalizing m with
  | zero =>
    cases m with
    | zero => exact ⟨by simpa using h, rfl⟩
    | succ m =>
      rw [hlast, List.replicate_zero, List.flatten_nil, List.append_nil] at h
      exact absurd ⟨_, h.symm⟩ ha
  | succ k ih =>
    cases m with
    | zero =>
      rw [hlast, List.replicate_zero, List.flatten_nil, List.append_nil] at h
      exact absurd ⟨_, h⟩ hb
    | succ m =>
      rw [hlast, hlast] at h
      obtain ⟨hab, hkm⟩ := ih (List.append_cancel_right h)
      exact ⟨hab, congrArg Nat.succ hkm⟩

theorem dropSymbol_append (hne : symbol ≠ []) {cs : List Char} (hcs : ¬ symbol <:+ cs)
    (times : Nat) : dropSymbol symbol (cs ++ (List.replicate times symbol).flatten) = cs := by
  obtain ⟨k, heq, hnone⟩ := exists_dropSymbol hne (cs ++ (List.replicate times symbol).flatten)
  exact (eq_of_append_replicate hcs hnone heq).1.symm

end drop

/-! ### Finding the unit -/

/-- No unit is found where a text does not end in the letter all symbols end in. -/
theorem find?_of_getLast? {cs : List Char} (h : cs.getLast? ≠ some 's') :
    Unit.all.find? (fun u => u.symbol.isSuffixOf cs) = none := by
  have hnot (u : Unit) : u.symbol.isSuffixOf cs = false := by
    rw [List.getLast?_eq_head?_reverse] at h
    cases hcs : cs.reverse with
    | nil => cases u <;> simp [Unit.symbol, List.isSuffixOf, hcs]
    | cons c rest =>
      have hc : ('s' == c) = false := by
        rw [beq_eq_false_iff_ne]
        rintro rfl
        exact h (by rw [hcs]; rfl)
      cases u <;> simp [Unit.symbol, List.isSuffixOf, List.isPrefixOf, hcs, hc]
  exact List.find?_eq_none.mpr fun u _ => by rw [hnot u]; nofun

/-- **The unit is found whose symbol a text ends in**: for the second, no other symbol must be made
of the letter before it. -/
theorem find?_append_symbol {cs : List Char} {u : Unit}
    (h : u = .seconds → ∀ c, cs.getLast? = some c → c ≠ 'u' ∧ c ≠ 'm') :
    Unit.all.find? (fun v => v.symbol.isSuffixOf (cs ++ u.symbol)) = some u := by
  cases u with
  | micros => simp [Unit.all, Unit.symbol, List.isSuffixOf, List.isPrefixOf]
  | millis => simp [Unit.all, Unit.symbol, List.isSuffixOf, List.isPrefixOf]
  | seconds =>
    rw [List.getLast?_eq_head?_reverse] at h
    cases hcs : cs.reverse with
    | nil => simp [Unit.all, Unit.symbol, List.isSuffixOf, List.isPrefixOf, hcs]
    | cons c rest =>
      obtain ⟨hu, hm⟩ := h rfl c (by rw [hcs]; rfl)
      simp [Unit.all, Unit.symbol, List.isSuffixOf, List.isPrefixOf, hcs, hu.symm, hm.symm]

theorem Unit.symbol_ne_nil (u : Unit) : u.symbol ≠ [] := by
  cases u <;> nofun

theorem Unit.mem_symbols {u : Unit} {times : Nat} {c : Char} (h : c ∈ u.symbols times) :
    c ∈ u.symbol := by
  obtain ⟨symbol, hsymbol, hc⟩ := List.mem_flatten.mp h
  rwa [List.eq_of_mem_replicate hsymbol] at hc

/-- The letters of the symbols. -/
def symbolLetters : List Char := ['u', 'm', 's']

theorem mem_symbolLetters_iff {c : Char} : c ∈ symbolLetters ↔ c = 'u' ∨ c = 'm' ∨ c = 's' := by
  simp only [symbolLetters, List.mem_cons, List.not_mem_nil, or_false]

theorem Unit.mem_symbolLetters {u : Unit} {c : Char} (h : c ∈ u.symbol) : c ∈ symbolLetters := by
  rw [mem_symbolLetters_iff]
  cases u <;> simp only [Unit.symbol, List.mem_cons, List.not_mem_nil, or_false] at h
  · exact h.imp_right Or.inr
  · exact Or.inr h
  · exact Or.inr (Or.inr h)

/-- **A text is split into what stands before the symbols and the unit they are of.** -/
theorem splitUnit_append {body : List Char} {u : Unit} {times : Nat}
    (hbody : ∀ c ∈ body, c ∉ symbolLetters) (hunit : times = 0 → u = .millis) :
    splitUnit (body ++ u.symbols times) = (body, u) := by
  have hnone (v : Unit) : ¬ v.symbol <:+ body := fun hsuffix => by
    obtain ⟨c, hc⟩ := List.exists_mem_of_ne_nil _ v.symbol_ne_nil
    exact hbody c (hsuffix.mem hc) (Unit.mem_symbolLetters hc)
  cases times with
  | zero =>
    obtain rfl := hunit rfl
    have hlast : body.getLast? ≠ some 's' := fun h =>
      hbody 's' (List.mem_of_getLast? h) (by decide)
    rw [Unit.symbols, List.replicate_zero, List.flatten_nil, List.append_nil, splitUnit,
      find?_of_getLast? hlast]
  | succ times =>
    have hseconds : u = .seconds → ∀ c, (body ++ u.symbols times).getLast? = some c →
        c ≠ 'u' ∧ c ≠ 'm' := by
      rintro rfl c hc
      rcases List.mem_append.mp (List.mem_of_getLast? hc) with hmem | hmem
      · have := mt mem_symbolLetters_iff.mpr (hbody c hmem)
        simp only [not_or] at this
        exact ⟨this.1, this.2.1⟩
      · obtain rfl := List.mem_singleton.mp (Unit.mem_symbols hmem)
        decide
    rw [Unit.symbols_succ, ← List.append_assoc, splitUnit, find?_append_symbol hseconds]
    show (dropSymbol u.symbol (body ++ u.symbols times ++ u.symbol), u) = (body, u)
    rw [List.append_assoc, ← Unit.symbols_succ, Unit.symbols,
      dropSymbol_append u.symbol_ne_nil (hnone u)]

/-- What is split off a text are the symbols of the unit that is found, if one is. -/
theorem exists_splitUnit (text : List Char) :
    ∃ times, text = (splitUnit text).1 ++ (splitUnit text).2.symbols times ∧
      (times = 0 → (splitUnit text).2 = .millis) := by
  unfold splitUnit
  split
  · rename_i u hu
    obtain ⟨times, htext, hnone⟩ := exists_dropSymbol u.symbol_ne_nil text
    refine ⟨times, htext, ?_⟩
    rintro rfl
    have hsuffix : u.symbol <:+ text := List.isSuffixOf_iff_suffix.mp
      (@List.find?_some _ (fun u : Unit => u.symbol.isSuffixOf text) _ _ hu)
    rw [htext, List.replicate_zero, List.flatten_nil, List.append_nil] at hsuffix
    exact absurd hsuffix hnone
  · exact ⟨0, (List.append_nil text).symm, fun _ => rfl⟩

/-! ### The texts that are read -/

/-- **A number with the symbol of a unit behind it**, so many times over and in letters of any case.
There may be blanks before the symbol and around the text; without a symbol the unit is the
millisecond. -/
structure Spells (times : Nat) (text : List Char) (n : Nat) (u : Unit) : Prop where
  /-- The text is made of a numeral, blanks and symbols. -/
  exists_parts : ∃ numeral gap symbols, Text.trim text = numeral ++ gap ++ symbols ∧
    Text.Numeral numeral n ∧ (∀ c ∈ gap, Text.isBlank c) ∧
    symbols.map Char.toLower = u.symbols times
  /-- Without a symbol the unit is the millisecond. -/
  millis_of_none : times = 0 → u = .millis

/-- A text in lower case, the blanks around it aside. -/
def folded (text : List Char) : List Char := Text.lower (Text.trim text)

/-- **A number with the symbol of a unit behind it**, once or not at all. -/
def SpelledOnce (text : List Char) (n : Nat) (u : Unit) : Prop :=
  ∃ times ≤ 1, Spells times text n u

section spells

variable {times : Nat} {text : List Char} {n : Nat} {u : Unit}

/-- No character of a numeral, or of the blanks behind it, is a letter, and each is plain. -/
theorem not_isAlpha_of_numeral {cs : List Char} (h : Text.Numeral cs n) {c : Char} (hc : c ∈ cs) :
    c.isAlpha = false ∧ Text.IsPlain c := by
  rcases h.eq_plus_or_isDigit hc with rfl | hdigit
  · exact ⟨rfl, Or.inl (by decide)⟩
  · have := Text.isDigit_iff.mp hdigit
    refine ⟨?_, Or.inl (by omega)⟩
    rw [Text.isAlpha_eq_false_iff, Bool.eq_false_iff, Bool.eq_false_iff, ne_eq, ne_eq,
      Text.isUpper_iff, Text.isLower_iff]
    omega

theorem not_isAlpha_of_isBlank {c : Char} (hc : Text.isBlank c = true) :
    c.isAlpha = false ∧ Text.IsPlain c :=
  ⟨Text.isAlpha_of_isBlank hc, Or.inr hc⟩

theorem notMem_symbolLetters {c : Char} (h : c.isAlpha = false) : c ∉ symbolLetters := fun hc => by
  rcases mem_symbolLetters_iff.mp hc with rfl | rfl | rfl <;> cases h

/-- A character that is lowered to a letter of a symbol is of ASCII. -/
theorem isPlain_of_toLower {c : Char} (h : c.toLower ∈ symbolLetters) : Text.IsPlain c := by
  refine Or.inl (Nat.lt_of_not_le fun hle => ?_)
  rw [Text.toLower_of_le hle] at h
  rcases mem_symbolLetters_iff.mp h with rfl | rfl | rfl <;> exact absurd hle (by decide)

/-- **A text that spells a time is read as its number**, and its unit is found. -/
theorem Spells.folded_eq (h : Spells times text n u) : ∃ body,
    folded text = body ++ u.symbols times ∧ splitUnit (folded text) = (body, u) ∧
      Text.readCount (Text.trim body) = .ok n := by
  obtain ⟨numeral, gap, symbols, htrim, hnumeral, hgap, hsymbols⟩ := h.exists_parts
  have hbody : ∀ c ∈ numeral ++ gap, c.isAlpha = false ∧ Text.IsPlain c :=
    List.forall_mem_append.mpr ⟨fun c hc => not_isAlpha_of_numeral hnumeral hc,
      fun c hc => not_isAlpha_of_isBlank (hgap c hc)⟩
  have hplain : ∀ c ∈ Text.trim text, Text.IsPlain c := by
    rw [htrim]
    refine List.forall_mem_append.mpr ⟨fun c hc => (hbody c hc).2, fun c hc => ?_⟩
    exact isPlain_of_toLower (Unit.mem_symbolLetters
      (Unit.mem_symbols (hsymbols ▸ List.mem_map_of_mem hc)))
  have hfolded : folded text = numeral ++ gap ++ u.symbols times := by
    rw [folded, Text.lower_of_plain hplain, htrim, List.map_append, hsymbols,
      Text.map_toLower_of_not_isAlpha fun c hc => (hbody c hc).1]
  refine ⟨numeral ++ gap, hfolded, ?_, ?_⟩
  · rw [hfolded]
    exact splitUnit_append (fun c hc => notMem_symbolLetters (hbody c hc).1) h.millis_of_none
  · rw [hnumeral.trim_append hgap]
    exact Text.readCount_eq_ok_iff.mpr hnumeral

/-- **Of a text that is read the number and the unit are spelt.** -/
theorem exists_spells (h : Text.readCount (Text.trim (splitUnit (folded text)).1) = .ok n) :
    ∃ times, Spells times text n (splitUnit (folded text)).2 := by
  obtain ⟨times, hfolded, hunit⟩ := exists_splitUnit (folded text)
  generalize (splitUnit (folded text)).1 = count, (splitUnit (folded text)).2 = u at *
  have hnumeral := Text.readCount_eq_ok_iff.mp h
  obtain ⟨before, after, hcount, hbefore, hafter⟩ := Text.exists_eq_append_trim count
  have hbody : ∀ c ∈ count, c.isAlpha = false ∧ Text.IsPlain c := by
    rw [hcount]
    exact List.forall_mem_append.mpr ⟨List.forall_mem_append.mpr
      ⟨fun c hc => not_isAlpha_of_isBlank (hbefore c hc),
        fun c hc => not_isAlpha_of_numeral hnumeral hc⟩,
      fun c hc => not_isAlpha_of_isBlank (hafter c hc)⟩
  -- nothing that was read comes from beyond ASCII, so the text was only lowered as ASCII is
  have hplain : ∀ d ∈ folded text, Text.IsPlain d ∧ d ≠ 'i' ∧ d ≠ 'k' := by
    rw [hfolded]
    refine List.forall_mem_append.mpr ⟨fun d hd => ?_, fun d hd => ?_⟩
    · obtain ⟨halpha, hd⟩ := hbody d hd
      refine ⟨hd, ?_, ?_⟩ <;> rintro rfl <;> cases halpha
    · rcases mem_symbolLetters_iff.mp (Unit.mem_symbolLetters (Unit.mem_symbols hd)) with
        rfl | rfl | rfl <;> decide
  have hlower : (Text.trim text).map Char.toLower = count ++ u.symbols times :=
    (Text.lower_of_plain (Text.plain_of_lower hplain)).symm.trans hfolded
  obtain ⟨body, symbols, htrim, hmap, hsymbols⟩ := List.map_eq_append_iff.mp hlower
  obtain rfl := Text.eq_of_map_toLower hmap fun c hc => (hbody c hc).1
  cases before with
  | nil =>
    rw [List.nil_append] at hcount
    exact ⟨times, ⟨_, after, symbols, by rw [htrim, ← hcount], hnumeral, hafter, hsymbols⟩, hunit⟩
  | cons c before =>
    have hhead : (Text.trim text).head? = some c := by
      rw [htrim, hcount]
      rfl
    have := Text.head?_trim hhead
    rw [hbefore c List.mem_cons_self] at this
    cases this

/-- **A time is spelt in one way.** -/
theorem Spells.unique {times' n' : Nat} {u' : Unit} (h : Spells times text n u)
    (h' : Spells times' text n' u') : times = times' ∧ n = n' ∧ u = u' := by
  obtain ⟨body, htext, hsplit, hread⟩ := h.folded_eq
  obtain ⟨body', htext', hsplit', hread'⟩ := h'.folded_eq
  cases hsplit.symm.trans hsplit'
  refine ⟨?_, Except.ok.inj (hread.symm.trans hread'), rfl⟩
  have hnone : ¬ u.symbol <:+ [] := fun hsuffix => u.symbol_ne_nil (List.suffix_nil.mp hsuffix)
  refine (eq_of_append_replicate hnone hnone ?_).2
  exact List.append_cancel_left (htext.symm.trans htext')

end spells

/-! ### The times that are read -/

section read

variable {text : String} {count : List Char} {u : Unit}
  (hsplit : splitUnit (folded text.toList) = (count, u))

include hsplit

/-- A text is rejected where no number stands before its symbols. -/
theorem parse_of_malformed {cause : Text.NumeralError}
    (hread : Text.readCount (Text.trim count) = .error cause) :
    parse text = .error (.malformed (String.ofList (folded text.toList)) cause) := by
  rw [folded] at hsplit ⊢
  simp only [parse, hsplit, hread]

/-- A number of units is a time, unless it is out of range. -/
theorem parse_of_readCount {n : Nat} (hread : Text.readCount (Text.trim count) = .ok n) :
    parse text =
      if n * u.nanos < Count.bound then .ok (Duration.ofNanos (UInt64.ofNat (n * u.nanos)))
      else .error (.outOfRange (String.ofList (folded text.toList))) := by
  rw [folded] at hsplit ⊢
  simp only [parse, hsplit, hread]

end read

/-- **A text that spells a time is read**, unless the time is out of range. -/
theorem parse_of_spells {times : Nat} {text : String} {n : Nat} {u : Unit}
    (h : Spells times text.toList n u) : parse text =
      if n * u.nanos < Count.bound then .ok (Duration.ofNanos (UInt64.ofNat (n * u.nanos)))
      else .error (.outOfRange (String.ofList (folded text.toList))) := by
  obtain ⟨body, -, hsplit, hread⟩ := h.folded_eq
  exact parse_of_readCount hsplit hread

/-- **Exactly the texts that spell a time are read**, as the nanoseconds of as many units, where
these fit in 64 bits. The symbol of the unit may be there any number of times. -/
theorem parse_eq_ok_iff_spells (text : String) (time : Duration) : parse text = .ok time ↔
    ∃ times n u, Spells times text.toList n u ∧ n * u.nanos < Count.bound ∧
      time.nanos = n * u.nanos := by
  constructor
  · intro h
    cases hread : Text.readCount (Text.trim (splitUnit (folded text.toList)).1) with
    | error cause =>
      cases h.symm.trans (parse_of_malformed rfl hread)
    | ok n =>
      obtain ⟨times, hspells⟩ := exists_spells hread
      rw [parse_of_spells hspells] at h
      split at h
      · rename_i hlt
        refine ⟨times, n, _, hspells, hlt, ?_⟩
        rw [← Except.ok.inj h, Duration.nanos_ofNanos, UInt64.toNat_ofNat_of_lt' hlt]
      · cases h
  · rintro ⟨times, n, u, hspells, hlt, htime⟩
    rw [parse_of_spells hspells, if_pos hlt]
    refine congrArg Except.ok (Duration.ext ?_)
    rw [Duration.nanos_ofNanos, UInt64.toNat_ofNat_of_lt' hlt, htime]

/-- The symbol of a second is taken away twice: what is read has more than the symbol of one unit
behind its number. -/
theorem parse_of_repeated_symbol :
    (∃ time, parse "1ss" = .ok time ∧ time.nanos = 1000000000) ∧
      ¬ ∃ n u, SpelledOnce "1ss".toList n u ∧ n * u.nanos < Count.bound := by
  have hspells : Spells 2 "1ss".toList 1 .seconds :=
    ⟨⟨['1'], [], ['s', 's'], rfl, Text.readCount_eq_ok_iff.mp rfl, nofun, rfl⟩, nofun⟩
  refine ⟨⟨Duration.ofNanos 1000000000, rfl, rfl⟩, ?_⟩
  rintro ⟨n, u, ⟨times, hle, h⟩, -⟩
  have := (hspells.unique h).1
  omega

end DivisionBenchmark.IterationTime
