import DivisionBenchmark.Proofs.Number.Places
import DivisionBenchmark.Time.IterationTime
import DivisionBenchmark.Time.Rate

/-!
# The unit a duration is shown in

A unit is chosen by the exact duration: there is at least one of it, and fewer than a thousand
(`DivisionBenchmark.Duration.unit?`). The number before it is rounded to two places only then. Just
below a thousand units it is rounded up to a thousand, and a duration is shown as `1000.00us` where
the next unit would show `1.00ms`.

The number is the binary64 quotient, rounded again. Both roundings keep order, so all there is to
know about it follows from three durations for each unit: one unit, a thousand, and the halfway
point to a thousand, whose quotient is a little above it in binary64
(`DivisionBenchmark.Duration.le_hundredths_iff`).

Main statements:

* `DivisionBenchmark.Duration.toText_rolls_over`: which numbers stand before which units;
* `DivisionBenchmark.Duration.not_toText_below_thousand`: they need not be below a thousand.
-/

namespace DivisionBenchmark

namespace IterationTime.Unit

theorem nanos_pos (unit : Unit) : 0 < unit.nanos := by
  cases unit <;> decide

theorem symbol_injective {unit unit' : Unit} (h : unit.symbol = unit'.symbol) : unit = unit' := by
  cases unit <;> cases unit' <;> first | rfl | cases h

end IterationTime.Unit

namespace Duration

/-! ### The unit -/

variable {d : Duration} {unit : IterationTime.Unit}

/-- **The unit a duration is shown in**, none for nanoseconds. -/
def unit? (d : Duration) : Option IterationTime.Unit :=
  if d.nanos < 1000 then none
  else if d.nanos < 1000000 then some .micros
  else if d.nanos < 1000000000 then some .millis
  else some .seconds

theorem unit?_eq_none_iff : d.unit? = none ↔ d.nanos < 1000 := by
  unfold unit?
  split_ifs <;> simp_all

/-- A unit is for what is as long as it is, and not a thousand times as long unless it is the
last. -/
theorem unit?_eq_some_iff :
    d.unit? = some unit ↔
      unit.nanos ≤ d.nanos ∧ (unit = .seconds ∨ d.nanos < 1000 * unit.nanos) := by
  unfold unit?
  cases unit <;> split_ifs <;> simp [IterationTime.Unit.nanos] <;> omega

theorem toText_of_unit?_eq_none (h : d.unit? = none) : d.toText = d.nanos.repr ++ "ns" :=
  if_pos (unit?_eq_none_iff.mp h)

theorem toText_of_unit?_eq_some (h : d.unit? = some unit) :
    d.toText = Dyadic.fixedText 2 (d.hundredths unit.nanos) ++ String.ofList unit.symbol := by
  unfold unit? at h
  unfold toText
  split_ifs at h ⊢ <;> cases h <;> rfl

/-- **The unit and the number of a text that ends in a letter and an s.** In seconds the s is all
there is behind the digits. -/
theorem eq_of_toText_eq_append {number : String} {letter : Char} (hpoint : letter ≠ '.')
    (hdigit : letter.isDigit = false) (h : d.toText = number ++ String.ofList [letter, 's']) :
    d.unit? = none ∧ letter = 'n' ∧ number = d.nanos.repr ∨
      ∃ unit, d.unit? = some unit ∧ unit.symbol = [letter, 's'] ∧
        number = Dyadic.fixedText 2 (d.hundredths unit.nanos) := by
  rw [← String.toList_inj, String.toList_append, String.toList_ofList] at h
  have hnumber {shown : String} {first : Char}
      (hshown : d.toText = shown ++ String.ofList [first, 's']) :
      first = letter ∧ number = shown := by
    rw [hshown, String.toList_append, String.toList_ofList] at h
    obtain ⟨heq, hend⟩ := List.append_inj' h rfl
    exact ⟨(List.cons.inj hend).1, (String.toList_inj.mp heq).symm⟩
  cases hunit : d.unit? with
  | none =>
    obtain ⟨rfl, rfl⟩ := hnumber (toText_of_unit?_eq_none hunit)
    exact .inl ⟨rfl, rfl, rfl⟩
  | some unit =>
    refine .inr ⟨unit, rfl, ?_⟩
    have hshown := toText_of_unit?_eq_some hunit
    cases unit with
    | micros | millis =>
      obtain ⟨rfl, rfl⟩ := hnumber hshown
      exact ⟨rfl, rfl⟩
    | seconds =>
      rw [hshown, String.toList_append, String.toList_ofList, List.append_cons number.toList] at h
      have hmem : letter ∈ (Dyadic.fixedText 2 (d.hundredths
          IterationTime.Unit.seconds.nanos)).toList := by
        rw [(List.append_inj' h rfl).1]
        exact List.mem_append_right _ List.mem_cons_self
      rcases Dyadic.eq_point_or_isDigit two_ne_zero hmem with rfl | hmem
      · exact absurd rfl hpoint
      · exact absurd hmem (hdigit ▸ Bool.false_ne_true)

theorem toText_eq_append_ns_iff {number : String} :
    d.toText = number ++ "ns" ↔ d.nanos < 1000 ∧ number = d.nanos.repr := by
  constructor
  · intro h
    have hpoint : 'n' ≠ '.' := by decide
    rcases eq_of_toText_eq_append hpoint rfl h with ⟨hunit, -, hnumber⟩ | ⟨unit, -, hsymbol, -⟩
    · exact ⟨unit?_eq_none_iff.mp hunit, hnumber⟩
    · cases unit <;> cases hsymbol
  · rintro ⟨hlt, rfl⟩
    exact toText_of_unit?_eq_none (unit?_eq_none_iff.mpr hlt)

theorem toText_eq_append_symbol_iff {number : String} (hne : unit ≠ .seconds) :
    d.toText = number ++ String.ofList unit.symbol ↔
      d.unit? = some unit ∧ number = Dyadic.fixedText 2 (d.hundredths unit.nanos) := by
  obtain ⟨letter, hsymbol, hpoint, hdigit, hn⟩ : ∃ letter, unit.symbol = [letter, 's'] ∧
      letter ≠ '.' ∧ letter.isDigit = false ∧ letter ≠ 'n' := by
    cases unit with
    | micros => exact ⟨'u', rfl, by decide, by decide, by decide⟩
    | millis => exact ⟨'m', rfl, by decide, by decide, by decide⟩
    | seconds => exact absurd rfl hne
  constructor
  · intro h
    rw [hsymbol] at h
    rcases eq_of_toText_eq_append hpoint hdigit h with ⟨-, rfl, -⟩ | ⟨unit', hunit, hsymbol', rfl⟩
    · exact absurd rfl hn
    · obtain rfl : unit' = unit := IterationTime.Unit.symbol_injective (hsymbol'.trans hsymbol.symm)
      exact ⟨hunit, rfl⟩
  · rintro ⟨hunit, rfl⟩
    exact toText_of_unit?_eq_some hunit

/-! ### Which numbers are shown -/

/-- A number is one at least. -/
theorem le_hundredths (h : unit.nanos ≤ d.nanos) : 100 ≤ d.hundredths unit.nanos := by
  have hone : ((Dyadic.ofNat unit.nanos).divNat unit.nanos).units 2 = 100 := by
    cases unit <;> decide
  rw [← hone]
  exact Dyadic.units_divNat_ofNat_le 2 unit.nanos_pos h

/-- What is below a thousand units is shown as a thousand at most. -/
theorem hundredths_le (h : d.nanos < 1000 * unit.nanos) : d.hundredths unit.nanos ≤ 100000 := by
  have hthousand : ((Dyadic.ofNat (1000 * unit.nanos)).divNat unit.nanos).units 2 = 100000 := by
    cases unit <;> decide
  rw [← hthousand]
  exact Dyadic.units_divNat_ofNat_le 2 unit.nanos_pos h.le

/-- **From five thousandths below it on, a thousand units are shown.** The binary64 number nearest
to the halfway point is above it. -/
theorem le_hundredths_iff :
    100000 ≤ d.hundredths unit.nanos ↔ 999995 * unit.nanos ≤ 1000 * d.nanos := by
  have hunit : unit.nanos = 1000 * (unit.nanos / 1000) := by cases unit <;> decide
  have hfirst : ((Dyadic.ofNat (999995 * (unit.nanos / 1000))).divNat unit.nanos).units 2 =
      100000 := by
    cases unit <;> decide
  have hlast : ((Dyadic.ofNat (999995 * (unit.nanos / 1000) - 1)).divNat unit.nanos).units 2 =
      99999 := by
    cases unit <;> decide
  constructor
  · intro h
    by_contra hlt
    have hbelow : d.nanos ≤ 999995 * (unit.nanos / 1000) - 1 := by omega
    have hshown := Dyadic.units_divNat_ofNat_le 2 unit.nanos_pos hbelow
    rw [hlast] at hshown
    exact absurd (h.trans hshown) (by decide)
  · intro h
    rw [← hfirst]
    exact Dyadic.units_divNat_ofNat_le 2 unit.nanos_pos (by omega)

/-! ### The text of a duration -/

/-- **The hundredths a number with two places stands for**: its digits, without the point. -/
def hundredthsIn (number : String) : ℕ :=
  Nat.ofDigitChars 10 (number.toList.filter Char.isDigit) 0

/-- **The number before a unit.** Nanoseconds are shown as they are, and there are less than a
thousand of them. Microseconds and milliseconds are shown for what is one unit at least and below a
thousand; the number has two places, is one at least and at most a thousand, and is a thousand where
half a hundredth or less is missing. -/
theorem toText_rolls_over (d : Duration) :
    (∀ number, d.toText = number ++ "ns" ↔ d.nanos < 1000 ∧ number = d.nanos.repr) ∧
      ∀ unit : IterationTime.Unit, unit ≠ .seconds →
        ((∃ number, d.toText = number ++ String.ofList unit.symbol) ↔
          unit.nanos ≤ d.nanos ∧ d.nanos < 1000 * unit.nanos) ∧
        ∀ number, d.toText = number ++ String.ofList unit.symbol →
          number = Dyadic.fixedText 2 (hundredthsIn number) ∧
            100 ≤ hundredthsIn number ∧ hundredthsIn number ≤ 100000 ∧
            (hundredthsIn number = 100000 ↔ 999995 * unit.nanos ≤ 1000 * d.nanos) := by
  refine ⟨fun number => toText_eq_append_ns_iff, fun unit hne => ⟨?_, fun number h => ?_⟩⟩
  · simp only [toText_eq_append_symbol_iff hne, exists_and_left, exists_eq,
      and_true, unit?_eq_some_iff, or_iff_right hne]
  · obtain ⟨hunit, rfl⟩ := (toText_eq_append_symbol_iff hne).mp h
    obtain ⟨hlow, hhigh⟩ := unit?_eq_some_iff.mp hunit
    have hle := hundredths_le (hhigh.resolve_left hne)
    rw [hundredthsIn, Dyadic.ofDigitChars_filter_fixedText two_ne_zero, ← le_hundredths_iff]
    exact ⟨rfl, le_hundredths hlow, hle, hle.ge_iff_eq.symm⟩

/-- Half a hundredth below a second, the number is a thousand milliseconds. -/
theorem toText_rolls_over_of_halfway :
    IterationTime.Unit.millis ≠ .seconds ∧
      (⟨999995000, by decide⟩ : Duration).toText =
        "1000.00" ++ String.ofList IterationTime.Unit.millis.symbol ∧
      hundredthsIn "1000.00" = 100000 := by
  have hne : IterationTime.Unit.millis ≠ .seconds := by decide
  have htext : (⟨999995000, by decide⟩ : Duration).toText =
      "1000.00" ++ String.ofList IterationTime.Unit.millis.symbol := by decide
  obtain ⟨-, -, -, hrolls⟩ := ((toText_rolls_over _).2 .millis hne).2 "1000.00" htext
  exact ⟨hne, htext, hrolls.mpr (by decide)⟩

/-- A nanosecond below a millisecond is shown as a thousand microseconds. -/
theorem not_toText_below_thousand :
    ¬ ∀ (d : Duration) (unit : IterationTime.Unit) (number : String), unit ≠ .seconds →
      d.toText = number ++ String.ofList unit.symbol →
        100 ≤ hundredthsIn number ∧ hundredthsIn number ≤ 99999 := by
  intro h
  have hbelow := (h ⟨999999, by decide⟩ .micros "1000.00" (by decide) (by decide)).2
  exact absurd hbelow (by decide)

end Duration

end DivisionBenchmark
