import DivisionBenchmark.Proofs.Latency.Ascending
import DivisionBenchmark.Proofs.Number.Order
import DivisionBenchmark.Report.Document

/-!
# Percentiles

A percentile asks for one of the samples in ascending order, by its rank, and is answered with a
bound of the bucket of that sample. The rank is computed in binary64: the percentile is divided by
a hundred, cut off at one, multiplied by the number of samples and rounded up. Two steps of these
four round, and rounding keeps order, so no rank is beyond the samples
(`DivisionBenchmark.Histogram.rank_le_size`) and a greater percentile has no lower rank
(`DivisionBenchmark.Histogram.rank_le_rank`).

With the rank known, what is answered is a bound of the bucket of one sample
(`DivisionBenchmark.Histogram.Holds.percentile_eq`). The upper bound is taken, but for a percentile
that stands for no part of the samples at all: that is the least sample, and the lower bound.

Main statement: `DivisionBenchmark.Histogram.Origin.percentiles_bracket`, percentiles are ordered,
and each is within a thousandth of the sample it asks for.
-/

namespace DivisionBenchmark

namespace Histogram

/-! ### Ranks -/

section rank

variable (h : Histogram) {p p' : Float}

/-- A percentile stands for no part of the latencies where a hundredth of it is zero. -/
theorem isZero_portion (p : Float) :
    (portion p).isZero = ((Binary64.ofFloat p).divNat 100).isZero :=
  Binary64.isZero_atMostOne _

theorem one_le_rank (p : Float) : 1 ≤ h.rank p := by
  unfold rank
  split
  · exact Nat.le_max_left _ _
  · exact Nat.le_refl 1

/-- The rank of a percentile that stands for a part of the latencies, or for none. -/
theorem rank_eq {negative : Bool} {part : Dyadic} (hportion : portion p = .finite negative part)
    (hsign : negative = true → part.value = 0) :
    h.rank p = Max.max 1 (Min.min ⌈(part.mul (Dyadic.ofNat h.size)).value⌉₊ (Count.bound - 1)) := by
  rw [rank, hportion]
  cases negative with
  | false => rw [← Dyadic.ceil_eq]
  | true =>
    rw [Dyadic.value_mul_of_zero (hsign rfl), Nat.ceil_zero]
    rfl

/-- Where it stands for none, the first latency is asked for. -/
theorem rank_of_isZero (hzero : (portion p).isZero = true) : h.rank p = 1 := by
  cases hportion : portion p with
  | finite negative part =>
    rw [hportion] at hzero
    have hvalue : part.value = 0 := Dyadic.value_eq_zero_iff.mpr (beq_iff_eq.mp hzero)
    rw [h.rank_eq hportion fun _ => hvalue, Dyadic.value_mul_of_zero hvalue, Nat.ceil_zero]
    rfl
  | infinite negative => rw [hportion] at hzero; cases hzero
  | nan => rw [hportion] at hzero; cases hzero

/-- **No rank is beyond the latencies**, as long as their number is a binary64 number. -/
theorem rank_le_size (hpos : 0 < h.size) (hle : h.size ≤ 2 ^ 53) (p : Float) :
    h.rank p ≤ h.size := by
  unfold rank
  split
  · rename_i part hportion
    have hpart : part.value ≤ 1 := Binary64.value_le_one_of_atMostOne hportion
    have hceil : (part.mul (Dyadic.ofNat h.size)).ceil ≤ h.size := by
      rw [Dyadic.ceil_eq]
      exact Nat.ceil_le.mpr (Dyadic.value_mul_le hpart hle)
    exact Nat.max_le.mpr ⟨hpos, (Nat.min_le_left _ _).trans hceil⟩
  · exact hpos

/-- **A greater percentile has no lower rank.** -/
theorem rank_le_rank (hp : 0 ≤ p) (hle : p ≤ p') : h.rank p ≤ h.rank p' := by
  have hnonneg := (Binary64.nonNegative_of_le hp).divNat 100
  have hnonneg' := (Binary64.nonNegative_of_le (Binary64.zero_le_of_le hp hle)).divNat 100
  obtain ⟨negative, part, hportion, -, hsign⟩ := hnonneg.exists_atMostOne
  obtain ⟨negative', part', hportion', -, hsign'⟩ := hnonneg'.exists_atMostOne
  have hatMost : Binary64.AtMost (portion p) (portion p') :=
    ((Binary64.atMost_of_le hp hle).divNat (by norm_num)).atMostOne hnonneg hnonneg'
  have hparts : part.value ≤ part'.value := by
    rw [portion, portion, hportion, hportion'] at hatMost
    cases hatMost with
    | finite hvalue => exact hvalue
  rw [h.rank_eq hportion hsign, h.rank_eq hportion' hsign']
  have hceil := Nat.ceil_mono (Dyadic.value_mul_le_value_mul (Dyadic.ofNat h.size) hparts)
  omega

end rank

/-! ### The sample of a percentile -/

section answer

variable {samples : List Nat} {h : Histogram} {p p' : Float}

theorem size_pos_of_any (hany : h.isEmpty = false) : 0 < h.size :=
  Nat.pos_of_ne_zero fun hzero => by
    rw [isEmpty, hzero] at hany
    cases hany

/-- The bound a percentile is answered with: the lower one where it stands for no part of the
latencies, and the upper one otherwise. -/
def answerNanos (p : Float) (sample : Nat) : Nat :=
  if (portion p).isZero then Bucket.lowest sample else Bucket.highest sample

/-- **A percentile is answered with a bound of the bucket of the sample it asks for.** -/
theorem Holds.percentile_eq (hsamples : h.Holds samples) (hsize : h.size = samples.length)
    (hany : h.isEmpty = false) (hle : h.size ≤ 2 ^ 53) (p : Float) :
    ∃ s, (ascending samples)[h.rank p - 1]? = some s ∧
      h.percentile p = .ok (some (ofLatency (answerNanos p s))) := by
  have hlt : samples.length < Count.bound := by
    rw [← hsize]
    exact Nat.lt_of_le_of_lt hle (by decide)
  have hpos := size_pos_of_any hany
  have hrank := h.rank_le_size hpos hle p
  have hplace : h.rank p - 1 < (ascending samples).length := by
    rw [length_ascending, ← hsize]
    omega
  obtain ⟨s, hs⟩ : ∃ s, (ascending samples)[h.rank p - 1]? = some s :=
    ⟨_, List.getElem?_eq_getElem hplace⟩
  refine ⟨s, hs, ?_⟩
  have hbucket : bucketAt (h.rank p) 0 h.buckets.entries = some (Bucket.lowest s) := by
    rw [hsamples.bucketAt_eq hlt (h.one_le_rank p), hs, Option.map_some]
  have hcounted : ¬Count.bound ≤ h.sizeThrough (Bucket.block (Bucket.lowest s)) := by
    have hthrough := h.sizeThrough_le (Bucket.block (Bucket.lowest s))
    have hsum := size_eq_sum (h := h) (Nat.lt_of_le_of_lt (Nat.succ_le_succ hle) (by decide))
    omega
  have hbound : (if (portion p).isZero then Bucket.lowest (Bucket.lowest s)
      else Bucket.highest (Bucket.lowest s)) = answerNanos p s := by
    rw [answerNanos, Bucket.lowest_lowest, Bucket.highest_lowest]
  rw [percentile, if_neg (hany ▸ Bool.false_ne_true), percentileNanos, hbucket]
  dsimp only
  rw [if_neg hcounted, hbound]
  rfl

theorem answerNanos_lt {s : Nat} (hs : s ≤ Bucket.longest) (p : Float) :
    answerNanos p s < Count.bound := by
  have hle : answerNanos p s ≤ Bucket.highest s := by
    unfold answerNanos
    split
    · exact (Bucket.lowest_le s).trans (Bucket.le_highest s)
    · exact Nat.le_refl _
  exact Nat.lt_of_le_of_lt (hle.trans (Bucket.highest_le_highest hs)) (by decide)

/-- A percentile stands for no part of the latencies only if no lesser one does. -/
theorem isZero_of_le (hp : 0 ≤ p) (hle : p ≤ p') (hzero : (portion p').isZero = true) :
    (portion p).isZero = true := by
  rw [isZero_portion] at hzero ⊢
  have hatMost := (Binary64.atMost_of_le hp hle).divNat (Nat.succ_pos 99)
  cases hatMost' : (Binary64.ofFloat p').divNat 100 with
  | nan => rw [hatMost'] at hzero; cases hzero
  | infinite negative => rw [hatMost'] at hzero; cases hzero
  | finite negative' part' =>
    rw [hatMost'] at hzero hatMost
    have hvalue' : part'.value = 0 := Dyadic.value_eq_zero_iff.mpr (beq_iff_eq.mp hzero)
    cases hpart : (Binary64.ofFloat p).divNat 100 with
    | nan => rw [hpart] at hatMost; cases hatMost
    | infinite negative => rw [hpart] at hatMost; cases hatMost
    | finite negative part =>
      rw [hpart] at hatMost
      cases hatMost with
      | finite hvalue =>
        have hzero' : part.value = 0 := (hvalue.trans_eq hvalue').antisymm part.value_nonneg
        exact beq_iff_eq.mpr (Dyadic.value_eq_zero_iff.mp hzero')

/-- **A greater percentile is answered with no shorter latency.** -/
theorem answerNanos_le {s s' : Nat} (hp : 0 ≤ p) (hle : p ≤ p')
    (hs : (ascending samples)[h.rank p - 1]? = some s)
    (hs' : (ascending samples)[h.rank p' - 1]? = some s') :
    answerNanos p s ≤ answerNanos p' s' := by
  have hsamples : s ≤ s' :=
    ascending_le (Nat.sub_le_sub_right (h.rank_le_rank hp hle) 1) hs hs'
  unfold answerNanos
  by_cases hzero : (portion p).isZero
  · rw [if_pos hzero]
    have hlowest := Bucket.lowest_le_lowest hsamples
    split
    · exact hlowest
    · exact hlowest.trans ((Bucket.lowest_le s').trans (Bucket.le_highest s'))
  · rw [if_neg hzero, if_neg fun hzero' => hzero (isZero_of_le hp hle hzero')]
    exact Bucket.highest_le_highest hsamples

/-! ### Between the extremes -/

/-- The shortest latency is a bound of the bucket of the least sample. -/
theorem Holds.exists_min (hsamples : h.Holds samples) {least : Nat}
    (hleast : (samples.map Bucket.clamp).min? = some least) :
    ∃ lo, h.min = some lo ∧ lo.nanos = Bucket.lowest least := by
  obtain ⟨nanos, -, rfl⟩ := List.mem_map.mp (List.min?_eq_some_iff.mp hleast).1
  refine ⟨_, by rw [hsamples.min_eq, hleast]; rfl, nanos_ofLatency ?_⟩
  exact ((Bucket.lowest_le _).trans (Bucket.le_highest _)).trans_lt (highest_clamp_lt nanos)

/-- The longest latency is a bound of the bucket of the greatest sample. -/
theorem Holds.exists_max (hsamples : h.Holds samples) {greatest : Nat}
    (hgreatest : (samples.map Bucket.clamp).max? = some greatest) :
    ∃ hi, h.max = some hi ∧ hi.nanos = Bucket.highest greatest := by
  obtain ⟨nanos, -, rfl⟩ := List.mem_map.mp (List.max?_eq_some_iff.mp hgreatest).1
  exact ⟨_, by rw [hsamples.max_eq, hgreatest]; rfl, nanos_ofLatency (highest_clamp_lt nanos)⟩

/-- A histogram that is not empty has a least and a greatest sample. -/
theorem Holds.exists_extremes (hsamples : h.Holds samples) (hany : h.isEmpty = false) :
    (∃ least, (samples.map Bucket.clamp).min? = some least) ∧
      ∃ greatest, (samples.map Bucket.clamp).max? = some greatest := by
  have hne : samples.map Bucket.clamp ≠ [] := fun hnil => by
    rw [hsamples.isEmpty_iff.mpr (List.map_eq_nil_iff.mp hnil)] at hany
    cases hany
  exact ⟨Option.isSome_iff_exists.mp (List.isSome_min?_of_ne_nil hne),
    Option.isSome_iff_exists.mp (List.isSome_max?_of_ne_nil hne)⟩

/-- The bound that answers a percentile is within a thousandth of the sample, or is the shortest
latency. -/
theorem answerNanos_bounds (hsamples : h.Holds samples) (hany : h.isEmpty = false) :
    ∃ lo hi, h.min = some lo ∧ h.max = some hi ∧ ∀ p s,
      (ascending samples)[h.rank p - 1]? = some s →
        lo.nanos ≤ answerNanos p s ∧ answerNanos p s ≤ hi.nanos ∧
          if (portion p).isZero then answerNanos p s = lo.nanos
          else s ≤ answerNanos p s ∧ (answerNanos p s - s) * 1000 ≤ s := by
  obtain ⟨⟨least, hleast⟩, greatest, hgreatest⟩ := hsamples.exists_extremes hany
  obtain ⟨lo, hlo, hlonanos⟩ := hsamples.exists_min hleast
  obtain ⟨hi, hhi, hhinanos⟩ := hsamples.exists_max hgreatest
  refine ⟨lo, hi, hlo, hhi, fun p s hs => ?_⟩
  obtain ⟨nanos, hmem, rfl⟩ := exists_of_ascending hs
  have hmem := List.mem_map_of_mem (f := Bucket.clamp) hmem
  have hlow := Bucket.lowest_le_lowest ((List.min?_eq_some_iff.mp hleast).2 _ hmem)
  have hhigh := Bucket.highest_le_highest ((List.max?_eq_some_iff.mp hgreatest).2 _ hmem)
  have hinside := (Bucket.lowest_le (Bucket.clamp nanos)).trans (Bucket.le_highest _)
  rw [hlonanos, hhinanos, answerNanos]
  split
  · rename_i hzero
    -- the least sample is asked for, and its lower bound is the shortest latency
    refine ⟨hlow, hinside.trans hhigh, ?_⟩
    rw [h.rank_of_isZero hzero, ascending_zero, hleast] at hs
    rw [Option.some.inj hs]
  · exact ⟨hlow.trans hinside, hhigh, Bucket.le_highest _, Bucket.highest_sub_mul_le _⟩

/-- **What a percentile is answered with** is a latency, and its nanoseconds are the bound. -/
theorem Holds.exists_percentile (hsamples : h.Holds samples) (hsize : h.size = samples.length)
    (hany : h.isEmpty = false) (hle : h.size ≤ 2 ^ 53) (p : Float) :
    ∃ v s, h.percentile p = .ok (some v) ∧ (ascending samples)[h.rank p - 1]? = some s ∧
      v.nanos = answerNanos p s := by
  obtain ⟨s, hs, hanswer⟩ := hsamples.percentile_eq hsize hany hle p
  obtain ⟨nanos, -, rfl⟩ := exists_of_ascending hs
  exact ⟨_, _, hanswer, hs, nanos_ofLatency (answerNanos_lt (Bucket.clamp_le_longest nanos) p)⟩

/-- Percentiles ascend with what they are answered with. -/
theorem Holds.percentile_le_percentile (hsamples : h.Holds samples)
    (hsize : h.size = samples.length) (hany : h.isEmpty = false) (hle : h.size ≤ 2 ^ 53)
    {v v' : Duration} (hp : 0 ≤ p) (hpp : p ≤ p') (hv : h.percentile p = .ok (some v))
    (hv' : h.percentile p' = .ok (some v')) : v.nanos ≤ v'.nanos := by
  obtain ⟨w, s, hw, hs, hnanos⟩ := hsamples.exists_percentile hsize hany hle p
  obtain ⟨w', s', hw', hs', hnanos'⟩ := hsamples.exists_percentile hsize hany hle p'
  obtain rfl : v = w := Option.some.inj (Except.ok.inj (hv.symm.trans hw))
  obtain rfl : v' = w' := Option.some.inj (Except.ok.inj (hv'.symm.trans hw'))
  rw [hnanos, hnanos']
  exact answerNanos_le hp hpp hs hs'

end answer

/-- The longest latency is one of 64 bits. -/
theorem nanos_lt_of_max {h : Histogram} {hi : Duration} (hhi : h.max = some hi) :
    hi.nanos < Count.bound := by
  rw [max, ifAny] at hhi
  split at hhi
  · cases hhi
  · obtain rfl := Option.some.inj hhi
    exact UInt64.toNat_lt _

/-! ### In a report -/

/-- No latencies are reported of a histogram that has none. -/
theorem latencyDocument?_of_empty {h : Histogram} (hempty : h.isEmpty = true) :
    latencyDocument? h = .ok none := by
  simp only [latencyDocument?, percentile, min, max, ifAny, if_pos hempty]
  rfl

/-- Where there are latencies, they are reported in nanoseconds. -/
theorem latencyDocument?_of_any {h : Histogram} {lo hi p50 p90 p99 p99_9 : Duration}
    (hany : h.isEmpty = false) (hlo : h.min = some lo) (hhi : h.max = some hi)
    (h50 : h.percentile 50 = .ok (some p50)) (h90 : h.percentile 90 = .ok (some p90))
    (h99 : h.percentile 99 = .ok (some p99)) (h99_9 : h.percentile 99.9 = .ok (some p99_9)) :
    ∃ mean, latencyDocument? h = .ok (some (.object [
      ("min_ns", nanosDocument lo), ("max_ns", nanosDocument hi), ("mean_ns", .count mean),
      ("p50_ns", nanosDocument p50), ("p90_ns", nanosDocument p90), ("p99_ns", nanosDocument p99),
      ("p99_9_ns", nanosDocument p99_9)])) := by
  have hmean : h.mean = some (Duration.ofNanos h.meanNanos.toUInt64) := by
    rw [mean, ifAny, if_neg (hany ▸ Bool.false_ne_true)]
  refine ⟨(UInt64.ofNat (Duration.ofNanos h.meanNanos.toUInt64).nanos).toNat, ?_⟩
  simp only [latencyDocument?, h50, h90, h99, h99_9, hlo, hhi, hmean]
  rfl

theorem nanosDocument_eq {d : Duration} (h : d.nanos < Count.bound) :
    nanosDocument d = .count d.nanos := by
  rw [nanosDocument, UInt64.toNat_ofNat_of_lt' h]

section bracket

variable {samples : List Nat} {h : Histogram} {lo hi : Duration}

/-- **A percentile is one of the extremes or between them**, and near the sample it asks for. -/
theorem Holds.percentile_bracket (hsamples : h.Holds samples) (hsize : h.size = samples.length)
    (hany : h.isEmpty = false) (hle : h.size ≤ 2 ^ 53) (hlo : h.min = some lo)
    (hhi : h.max = some hi) (p : Float) : 1 ≤ h.rank p ∧ h.rank p ≤ samples.length ∧
      ∃ v s, h.percentile p = .ok (some v) ∧ (ascending samples)[h.rank p - 1]? = some s ∧
        lo.nanos ≤ v.nanos ∧ v.nanos ≤ hi.nanos ∧
        if ((Binary64.ofFloat p).divNat 100).isZero then v = lo
        else s ≤ v.nanos ∧ (v.nanos - s) * 1000 ≤ s := by
  obtain ⟨lo', hi', hlo', hhi', hbounds⟩ := answerNanos_bounds hsamples hany
  cases hlo.symm.trans hlo'
  cases hhi.symm.trans hhi'
  obtain ⟨v, s, hv, hs, hnanos⟩ := hsamples.exists_percentile hsize hany hle p
  obtain ⟨hlow, hhigh, hnear⟩ := hbounds p s hs
  refine ⟨h.one_le_rank p, hsize ▸ h.rank_le_size (size_pos_of_any hany) hle p, v, s, hv, hs, ?_⟩
  rw [hnanos, ← isZero_portion]
  refine ⟨hlow, hhigh, ?_⟩
  by_cases hzero : (portion p).isZero
  · rw [if_pos hzero] at hnear ⊢
    exact Duration.ext (hnanos.trans hnear)
  · rw [if_neg hzero] at hnear ⊢
    exact hnear

/-- **The latencies that are reported ascend**, from the shortest to the longest. -/
theorem Holds.latencyDocument?_eq (hsamples : h.Holds samples) (hsize : h.size = samples.length)
    (hany : h.isEmpty = false) (hle : h.size ≤ 2 ^ 53) (hlo : h.min = some lo)
    (hhi : h.max = some hi) :
    ∃ mean p50 p90 p99 p99_9, latencyDocument? h = .ok (some (.object [
        ("min_ns", .count lo.nanos), ("max_ns", .count hi.nanos), ("mean_ns", .count mean),
        ("p50_ns", .count p50), ("p90_ns", .count p90), ("p99_ns", .count p99),
        ("p99_9_ns", .count p99_9)])) ∧
      lo.nanos ≤ p50 ∧ p50 ≤ p90 ∧ p90 ≤ p99 ∧ p99 ≤ p99_9 ∧ p99_9 ≤ hi.nanos := by
  have hbracket (p : Float) : ∃ v, h.percentile p = .ok (some v) ∧ lo.nanos ≤ v.nanos ∧
      v.nanos ≤ hi.nanos := by
    obtain ⟨-, -, v, s, hv, -, hlow, hhigh, -⟩ :=
      hsamples.percentile_bracket hsize hany hle hlo hhi p
    exact ⟨v, hv, hlow, hhigh⟩
  have hmono {p p' : Float} {v v' : Duration} (hp : 0 ≤ p) (hpp : p ≤ p')
      (hv : h.percentile p = .ok (some v)) (hv' : h.percentile p' = .ok (some v')) :
      v.nanos ≤ v'.nanos :=
    hsamples.percentile_le_percentile hsize hany hle hp hpp hv hv'
  have hfit {d : Duration} (hd : d.nanos ≤ hi.nanos) : nanosDocument d = .count d.nanos :=
    nanosDocument_eq (hd.trans_lt (nanos_lt_of_max hhi))
  obtain ⟨p50, h50, hlow50, hhigh50⟩ := hbracket 50
  obtain ⟨p90, h90, -, hhigh90⟩ := hbracket 90
  obtain ⟨p99, h99, -, hhigh99⟩ := hbracket 99
  obtain ⟨p99_9, h99_9, -, hhigh99_9⟩ := hbracket 99.9
  obtain ⟨mean, hdocument⟩ := latencyDocument?_of_any hany hlo hhi h50 h90 h99 h99_9
  rw [hfit le_rfl, hfit (hlow50.trans hhigh50), hfit hhigh50, hfit hhigh90, hfit hhigh99,
    hfit hhigh99_9] at hdocument
  exact ⟨mean, _, _, _, _, hdocument, hlow50, hmono (by decide) (by decide) h50 h90,
    hmono (by decide) (by decide) h90 h99, hmono (by decide) (by decide) h99 h99_9, hhigh99_9⟩

end bracket

namespace Origin

/-- **Percentiles are ordered, and bracket real samples.** Of a histogram that is not empty, however
it came about, every percentile is answered, with a latency between the extremes. It asks for one of
the samples in ascending order, and is at least this sample and within a thousandth of it; only
where its hundredth part is zero in binary64 it is the shortest latency. A greater percentile has no
shorter latency. Latencies are reported exactly of histograms that are not empty, and in this
order. -/
theorem percentiles_bracket (origin : Origin) (hle : origin.samples.length ≤ 2 ^ 53) :
    ((∃ document, latencyDocument? origin.histogram = .ok (some document)) ↔
        origin.histogram.isEmpty = false) ∧
      (origin.histogram.isEmpty = false →
        ∃ lo hi, origin.histogram.min = some lo ∧ origin.histogram.max = some hi ∧
          (∀ p, 1 ≤ origin.histogram.rank p ∧ origin.histogram.rank p ≤ origin.samples.length ∧
            ∃ v s, origin.histogram.percentile p = .ok (some v) ∧
              (ascending origin.samples)[origin.histogram.rank p - 1]? = some s ∧
              lo.nanos ≤ v.nanos ∧ v.nanos ≤ hi.nanos ∧
              if ((Binary64.ofFloat p).divNat 100).isZero then v = lo
              else s ≤ v.nanos ∧ (v.nanos - s) * 1000 ≤ s) ∧
          (∀ p p' v v', 0 ≤ p → p ≤ p' → origin.histogram.percentile p = .ok (some v) →
            origin.histogram.percentile p' = .ok (some v') → v.nanos ≤ v'.nanos) ∧
          ∃ mean p50 p90 p99 p99_9, latencyDocument? origin.histogram = .ok (some (.object [
              ("min_ns", .count lo.nanos), ("max_ns", .count hi.nanos), ("mean_ns", .count mean),
              ("p50_ns", .count p50), ("p90_ns", .count p90), ("p99_ns", .count p99),
              ("p99_9_ns", .count p99_9)])) ∧
            lo.nanos ≤ p50 ∧ p50 ≤ p90 ∧ p90 ≤ p99 ∧ p99 ≤ p99_9 ∧ p99_9 ≤ hi.nanos) := by
  have hsamples := origin.holds_samples
  have hsize : origin.histogram.size = origin.samples.length :=
    size_histogram (hle.trans_lt (by decide))
  have hfits : origin.histogram.size ≤ 2 ^ 53 := hsize.trans_le hle
  cases hany : origin.histogram.isEmpty with
  | true =>
    refine ⟨⟨?_, nofun⟩, nofun⟩
    rintro ⟨document, hdocument⟩
    cases (latencyDocument?_of_empty hany).symm.trans hdocument
  | false =>
    obtain ⟨lo, hi, hlo, hhi, -⟩ := answerNanos_bounds hsamples hany
    have hdocument := hsamples.latencyDocument?_eq hsize hany hfits hlo hhi
    refine ⟨⟨fun _ => rfl, fun _ => ?_⟩, fun _ => ⟨lo, hi, hlo, hhi,
      hsamples.percentile_bracket hsize hany hfits hlo hhi,
      fun p p' v v' hp hpp => hsamples.percentile_le_percentile hsize hany hfits hp hpp,
      hdocument⟩⟩
    obtain ⟨mean, p50, p90, p99, p99_9, hdocument, -⟩ := hdocument
    exact ⟨_, hdocument⟩

/-- The latencies are none, an hour, which is cut off at a minute, and two short ones that are
merged in: the median asks for the second, and the longest that is reported for the minute. -/
theorem percentiles_bracket_of_clamped :
    let origin : Origin := .merge (.record (.recordNanos .empty 0) (.ofMillis 3600000))
      (.recordNanos (.recordNanos .empty 5000) 2047)
    origin.samples.length ≤ 2 ^ 53 ∧
      ascending origin.samples = [1, 2047, 5000, 60000000000] ∧
      origin.histogram.rank 50 = 2 ∧ origin.histogram.rank 99.9 = 4 ∧
      (∃ v, origin.histogram.percentile 50 = .ok (some v) ∧ 2047 ≤ v.nanos ∧ v.nanos ≤ 2049) ∧
      ∃ v, origin.histogram.percentile 99.9 = .ok (some v) ∧ 60000000000 ≤ v.nanos ∧
        (v.nanos - 60000000000) * 1000 ≤ 60000000000 := by
  intro origin
  have hclamped : origin.samples.map Bucket.clamp = [1, 60000000000, 5000, 2047] := rfl
  have hascending : ascending origin.samples = [1, 2047, 5000, 60000000000] :=
    List.Perm.eq_of_pairwise' (pairwise_ascending _) (by decide)
      ((perm_ascending _).trans (hclamped ▸ by decide))
  have hrank50 : origin.histogram.rank 50 = 2 := by decide
  have hrank : origin.histogram.rank 99.9 = 4 := by decide
  obtain ⟨-, hany⟩ := percentiles_bracket origin (by decide)
  obtain ⟨lo, hi, -, -, hbracket, -⟩ := hany (by decide)
  refine ⟨by decide, hascending, hrank50, hrank, ?_, ?_⟩
  · obtain ⟨-, -, v, s, hv, hs, -, -, hnear⟩ := hbracket 50
    rw [hrank50, hascending] at hs
    cases hs
    rw [if_neg (by decide)] at hnear
    exact ⟨v, hv, hnear.1, by omega⟩
  · obtain ⟨-, -, v, s, hv, hs, -, -, hnear⟩ := hbracket 99.9
    rw [hrank, hascending] at hs
    cases hs
    rw [if_neg (by decide)] at hnear
    exact ⟨v, hv, hnear⟩

end Origin

end Histogram

end DivisionBenchmark
