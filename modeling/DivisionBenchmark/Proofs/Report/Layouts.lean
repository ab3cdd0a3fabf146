import DivisionBenchmark.Proofs.Latency.Percentiles
import DivisionBenchmark.Proofs.Report.Members

/-!
# The two layouts of a report

A report is spread over lines or stands on one, as its configuration says. The two texts carry the
same document: the one on a line is what is left of the other without the blanks outside its
literals, and nothing a run is told, neither the time it started at nor the cores it was pinned to,
can break the line. Where one of them cannot be computed, the other cannot either, for the same
fault.

What the document says is read off the text itself, not off the document it came from: an entry is
found under the key of the results, and the latencies under their key in the entry. There is an
entry for each measurement, in their order, and it has latencies exactly if the histogram of its
measurement has any. A report faults only where a histogram has counted past 64 bits; of fewer
latencies there always is a report.

Main statement: `DivisionBenchmark.reportText_layouts`.
-/

namespace DivisionBenchmark

/-! ### The entry of a measurement -/

namespace Histogram

variable {h : Histogram}

/-- A percentile of a histogram that is not empty is a latency. -/
theorem exists_of_percentile_eq_ok (hany : h.isEmpty = false) {p : Float} {answer : Option Duration}
    (hanswer : h.percentile p = .ok answer) : ∃ latency, answer = some latency := by
  rw [percentile, if_neg (hany ▸ Bool.false_ne_true)] at hanswer
  cases hnanos : h.percentileNanos p with
  | error fault =>
    rw [hnanos] at hanswer
    cases hanswer
  | ok nanos =>
    rw [hnanos] at hanswer
    exact ⟨_, (Except.ok.inj hanswer).symm⟩

/-- **Latencies are reported of a histogram that is not empty**, wherever they can be computed. -/
theorem isSome_of_latencyDocument? {latency : Option Json}
    (hlatency : latencyDocument? h = .ok latency) : latency.isSome ↔ h.isEmpty = false := by
  cases hany : h.isEmpty with
  | true =>
    cases (latencyDocument?_of_empty hany).symm.trans hlatency
    exact iff_of_false Bool.false_ne_true Bool.true_eq_false.mp
  | false =>
    have hcomputed := hlatency
    simp only [latencyDocument?, bind_eq_ok_iff] at hcomputed
    obtain ⟨_, h50, _, h90, _, h99, _, h99_9, -⟩ := hcomputed
    obtain ⟨p50, rfl⟩ := exists_of_percentile_eq_ok hany h50
    obtain ⟨p90, rfl⟩ := exists_of_percentile_eq_ok hany h90
    obtain ⟨p99, rfl⟩ := exists_of_percentile_eq_ok hany h99
    obtain ⟨p99_9, rfl⟩ := exists_of_percentile_eq_ok hany h99_9
    have hmin : h.min = some (ofLatency h.lowestNanos) := by
      rw [min, ifAny, if_neg (hany ▸ Bool.false_ne_true)]
    have hmax : h.max = some (ofLatency h.highestNanos) := by
      rw [max, ifAny, if_neg (hany ▸ Bool.false_ne_true)]
    obtain ⟨mean, hdocument⟩ := latencyDocument?_of_any hany hmin hmax h50 h90 h99 h99_9
    rw [hdocument] at hlatency
    exact iff_of_true (Except.ok.inj hlatency ▸ rfl) rfl

/-- No percentile faults where not too many latencies were recorded: what is counted together is at
most all of them. -/
theorem Origin.exists_percentile (origin : Origin) (hlt : origin.samples.length < Count.bound)
    (p : Float) : ∃ answer, origin.histogram.percentile p = .ok answer := by
  have hcounted (block : ℕ) : ¬Count.bound ≤ origin.histogram.sizeThrough block := by
    have hthrough := origin.histogram.sizeThrough_le block
    rw [sum_histogram hlt] at hthrough
    omega
  rw [percentile, percentileNanos]
  cases origin.histogram.isEmpty with
  | true => exact ⟨_, rfl⟩
  | false =>
    rw [if_neg Bool.false_ne_true]
    split
    · rw [if_neg (hcounted _)]
      exact ⟨_, rfl⟩
    · exact ⟨_, rfl⟩

/-- So the latencies that are reported can be computed. -/
theorem Origin.exists_latencyDocument? (origin : Origin)
    (hlt : origin.samples.length < Count.bound) :
    ∃ latency, latencyDocument? origin.histogram = .ok latency := by
  obtain ⟨p50, h50⟩ := origin.exists_percentile hlt 50
  obtain ⟨p90, h90⟩ := origin.exists_percentile hlt 90
  obtain ⟨p99, h99⟩ := origin.exists_percentile hlt 99
  obtain ⟨p99_9, h99_9⟩ := origin.exists_percentile hlt 99.9
  simp only [latencyDocument?, h50, h90, h99, h99_9]
  exact ⟨_, rfl⟩

end Histogram

namespace Measurement

variable {m : Measurement}

/-- An entry has the latencies as its last field, where there are any. -/
theorem under?_latency_of_entry {document : Json} (h : m.entry = .ok document) :
    ∃ latency, latencyDocument? m.statistics.latency = .ok latency ∧
      Json.under? "latency" document.compact.toList = latency.map (·.write .compact 0) := by
  rw [entry] at h
  obtain ⟨latency, hlatency, hentry⟩ := bind_eq_ok_iff.mp h
  refine ⟨latency, hlatency, ?_⟩
  rw [← Except.ok.inj hentry, Json.compact, String.toList_ofList, Json.under?_object]
  cases latency <;> simp

/-- **The text of an entry has latencies** exactly if its histogram has any. -/
theorem isSome_under?_latency {document : Json} (h : m.entry = .ok document) :
    (Json.under? "latency" document.compact.toList).isSome ↔
      m.statistics.latency.isEmpty = false := by
  obtain ⟨latency, hlatency, hunder⟩ := under?_latency_of_entry h
  rw [hunder, Option.isSome_map]
  exact Histogram.isSome_of_latencyDocument? hlatency

/-- A measurement of not too many latencies has an entry. -/
theorem exists_entry {origin : Histogram.Origin} (h : m.statistics.latency = origin.histogram)
    (hlt : origin.samples.length < Count.bound) : ∃ document, m.entry = .ok document := by
  obtain ⟨latency, hlatency⟩ := origin.exists_latencyDocument? hlt
  rw [← h] at hlatency
  exact ⟨_, bind_eq_ok_iff.mpr ⟨latency, hlatency, rfl⟩⟩

end Measurement

/-! ### The texts of a document -/

namespace Json

variable (document : Json)

/-- **The text on one line** has no line feed and no carriage return, whatever the strings. -/
theorem oneLine_compact : ∀ c ∈ document.compact.toList, c ≠ '\n' ∧ c ≠ '\r' := by
  intro c hc
  rw [compact, String.toList_ofList] at hc
  have hprinted := printed_write document 0 c hc
  constructor
  all_goals
    rintro rfl
    exact absurd hprinted (by decide)

theorem unspaced_pretty : unspaced document.pretty.toList = document.compact.toList := by
  rw [pretty, compact, String.toList_ofList, String.toList_ofList]
  exact unspaced_write Layout.blank_pretty 0 document

theorem unspaced_compact : unspaced document.compact.toList = document.compact.toList := by
  rw [compact, String.toList_ofList]
  exact unspaced_write Layout.blank_compact 0 document

/-- The text of a document, spread over lines or on one. -/
def textIn (spread : Bool) : String := if spread then document.pretty else document.compact

theorem unspaced_textIn (spread : Bool) :
    unspaced (document.textIn spread).toList = document.compact.toList := by
  cases spread with
  | true => exact document.unspaced_pretty
  | false => exact document.unspaced_compact

/-- A text without the blanks outside its literals. -/
def unspacedText (text : String) : String := String.ofList (unspaced text.toList)

theorem unspacedText_pretty : unspacedText document.pretty = document.compact := by
  rw [unspacedText, unspaced_pretty, String.ofList_toList]

end Json

/-! ### The texts of a report -/

/-- The configuration with a report that is spread over lines, or is not. -/
def Config.spreading (config : Config) (spread : Bool) : Config :=
  { config with report := { config.report with prettyJson := spread } }

/-- **A text holds the entries of measurements**: they stand under the key of the results, one for
each measurement and in their order, and have latencies exactly where there are any. -/
def HoldsEntries (text : String) (results : List Measurement) : Prop :=
  ∃ entries, Json.under? "results" (Json.unspaced text.toList) = some entries ∧
    List.Forall₂ (fun m entry =>
      (∃ document, m.entry = .ok document ∧ entry = document.compact.toList) ∧
        ((Json.under? "latency" entry).isSome ↔ m.statistics.latency.isEmpty = false))
      results (Json.members entries)

section report

variable {timestamp : String} {config : Config} {results : List Measurement}

/-- Both texts are of one document. -/
theorem reportText_spreading (spread : Bool) :
    reportText timestamp (config.spreading spread) results =
      (·.textIn spread) <$> reportDocument timestamp config.runner results := by
  have hrunner : (config.spreading spread).runner = config.runner := rfl
  rw [reportText, hrunner]
  cases reportDocument timestamp config.runner results <;> rfl

theorem reportText_eq_ok_iff {spread : Bool} {text : String} :
    reportText timestamp (config.spreading spread) results = .ok text ↔
      ∃ document, reportDocument timestamp config.runner results = .ok document ∧
        document.textIn spread = text := by
  rw [reportText_spreading, map_eq_ok_iff]

/-- What is computed of every item is computed in their order. -/
theorem forall₂_of_mapM_eq_ok {α β ε : Type} {f : α → Except ε β} {l : List α} {l' : List β}
    (h : l.mapM f = .ok l') : List.Forall₂ (fun a b => f a = .ok b) l l' := by
  induction l generalizing l' with
  | nil =>
    cases h
    exact .nil
  | cons a l ih =>
    rw [List.mapM_cons] at h
    obtain ⟨b, hb, h⟩ := bind_eq_ok_iff.mp h
    obtain ⟨bs, hbs, h⟩ := bind_eq_ok_iff.mp h
    cases h
    exact .cons hb (ih hbs)

theorem exists_mapM_eq_ok {α β ε : Type} {f : α → Except ε β} {l : List α}
    (h : ∀ a ∈ l, ∃ b, f a = .ok b) : ∃ l', l.mapM f = .ok l' := by
  induction l with
  | nil => exact ⟨[], rfl⟩
  | cons a l ih =>
    obtain ⟨⟨b, hb⟩, hl⟩ := List.forall_mem_cons.mp h
    obtain ⟨bs, hbs⟩ := ih hl
    rw [List.mapM_cons, hb, hbs]
    exact ⟨_, rfl⟩

/-- The text of a report has the entries under the key of the results. -/
theorem holdsEntries_of_reportDocument {settings : RunnerSettings} {document : Json}
    (h : reportDocument timestamp settings results = .ok document) (spread : Bool) :
    HoldsEntries (document.textIn spread) results := by
  rw [reportDocument] at h
  obtain ⟨entries, hentries, hdocument⟩ := bind_eq_ok_iff.mp h
  have hunder : Json.under? "results" document.compact.toList =
      some ((Json.array entries).write .compact 0) := by
    rw [← Except.ok.inj hdocument, Json.compact, String.toList_ofList, Json.under?_object]
    simp
  refine ⟨_, (document.unspaced_textIn spread).symm ▸ hunder, ?_⟩
  rw [Json.members_array, List.forall₂_map_right_iff]
  refine (forall₂_of_mapM_eq_ok hentries).imp fun m entry hentry => ?_
  have htext : entry.compact.toList = entry.write .compact 0 := String.toList_ofList
  rw [← htext]
  exact ⟨⟨entry, hentry, rfl⟩, Measurement.isSome_under?_latency hentry⟩

theorem exists_reportDocument (settings : RunnerSettings)
    (h : ∀ m ∈ results, ∃ origin : Histogram.Origin,
      m.statistics.latency = origin.histogram ∧ origin.samples.length < Count.bound) :
    ∃ document, reportDocument timestamp settings results = .ok document := by
  obtain ⟨entries, hentries⟩ : ∃ entries, results.mapM (·.entry) = .ok entries :=
    exists_mapM_eq_ok fun m hm => by
      obtain ⟨origin, horigin, hlt⟩ := h m hm
      exact Measurement.exists_entry horigin hlt
  exact ⟨_, bind_eq_ok_iff.mpr ⟨entries, hentries, rfl⟩⟩

end report

/-- **The two texts of a report carry the same document.** The text of any document on one line has
no line break, and is what is left of its other text without the blanks outside literals. So it is
for a report, whatever its strings, and a report that has no text in one layout has none in the
other. Each text holds the entries of the measurements in their order, with latencies exactly for
the histograms that have any. There are texts wherever fewer latencies were recorded than 64 bits
can count. -/
theorem reportText_layouts (timestamp : String) (config : Config) (results : List Measurement) :
    (∀ document : Json, (∀ c ∈ document.compact.toList, c ≠ '\n' ∧ c ≠ '\r') ∧
      Json.unspaced document.pretty.toList = document.compact.toList) ∧
    (reportText timestamp (config.spreading true) results).map Json.unspacedText =
      reportText timestamp (config.spreading false) results ∧
    (∀ text, reportText timestamp (config.spreading false) results = .ok text →
      ∀ c ∈ text.toList, c ≠ '\n' ∧ c ≠ '\r') ∧
    (∀ spread text, reportText timestamp (config.spreading spread) results = .ok text →
      HoldsEntries text results) ∧
    ((∀ m ∈ results, ∃ origin : Histogram.Origin,
        m.statistics.latency = origin.histogram ∧ origin.samples.length < Count.bound) →
      ∀ spread, ∃ text, reportText timestamp (config.spreading spread) results = .ok text) := by
  refine ⟨fun document => ⟨document.oneLine_compact, document.unspaced_pretty⟩, ?_, ?_, ?_, ?_⟩
  · rw [reportText_spreading, reportText_spreading]
    cases reportDocument timestamp config.runner results with
    | error fault => rfl
    | ok document => exact congrArg Except.ok document.unspacedText_pretty
  · intro text htext
    obtain ⟨document, -, rfl⟩ := reportText_eq_ok_iff.mp htext
    exact document.oneLine_compact
  · intro spread text htext
    obtain ⟨document, hdocument, rfl⟩ := reportText_eq_ok_iff.mp htext
    exact holdsEntries_of_reportDocument hdocument spread
  · intro horigins spread
    obtain ⟨document, hdocument⟩ := exists_reportDocument config.runner horigins
    exact ⟨_, reportText_eq_ok_iff.mpr ⟨document, hdocument, rfl⟩⟩

/-- A start time and a list of cores of quotes, backslashes and line breaks, and two measurements:
the first has no latencies, the second has. -/
theorem reportText_layouts_of_breaks :
    let idle : Measurement := ⟨.divideUnsigned, .reference, .empty⟩
    let timed : Measurement := { idle with statistics := Statistics.empty.recordInvocation 1500 }
    let config : Config := { runner := { cpuCores := some "0,\"\\\n\r\x01é" } }
    idle.statistics.latency.isEmpty = true ∧ timed.statistics.latency.isEmpty = false ∧
      ∃ text, reportText "\"\n" (config.spreading false) [idle, timed] = .ok text ∧
        (∀ c ∈ text.toList, c ≠ '\n' ∧ c ≠ '\r') ∧
        ∃ pretty, reportText "\"\n" (config.spreading true) [idle, timed] = .ok pretty ∧
          HoldsEntries pretty [idle, timed] ∧ Json.unspacedText pretty = text := by
  intro idle timed config
  obtain ⟨-, hunspaced, hline, hholds, hexists⟩ := reportText_layouts "\"\n" config [idle, timed]
  have horigins : ∀ m ∈ [idle, timed], ∃ origin : Histogram.Origin,
      m.statistics.latency = origin.histogram ∧ origin.samples.length < Count.bound := by
    intro m hm
    simp only [List.mem_cons, List.not_mem_nil, or_false] at hm
    rcases hm with rfl | rfl
    · exact ⟨.empty, rfl, by decide⟩
    · exact ⟨.recordNanos .empty 1500, rfl, by decide⟩
  obtain ⟨text, htext⟩ := hexists horigins false
  obtain ⟨pretty, hpretty⟩ := hexists horigins true
  refine ⟨rfl, rfl, text, htext, hline text htext, pretty, hpretty, hholds true pretty hpretty, ?_⟩
  rw [hpretty, htext] at hunspaced
  exact Except.ok.inj hunspaced

end DivisionBenchmark
