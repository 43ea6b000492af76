import CtrlRecovery.Core.Number
import CtrlRecovery.Core.Quoting
import CtrlRecovery.Core.Table
import Mathlib.Data.List.Perm.Subperm
import Mathlib.Data.List.Sort

/-!
# The metrics registry

Counters, gauges and histograms with labels, and their export as lines of text. Label sets that agree
up to the order of their keys share a series, and a series can be told from its text although only the
quotes in a label value are escaped. A line feed is not: it splits the sample of its series into two
lines. Without line feeds in labels, and quotes in label keys, the export is as it should be
(`exposes_of_plain`).
-/

namespace CtrlRecovery

open Core Js

namespace Metrics

/-! ### Labels -/

/-- The labels of a series, in the order of `Object.entries`. -/
abbrev Labels := Table (Prod.fst : String × String → String)

def matchLabels (l l' : Labels) : Bool :=
  l.rows.length = l'.rows.length ∧ ∀ label ∈ l.rows, l'.find? label.1 = some label

/-- `v.replace(/"/g, '\\"')`. -/
def escapeQuotes (v : String) : String := String.ofList (Quoting.escape '"' '\\' v.toList)

def formatLabel (label : String × String) : String :=
  label.1 ++ "=\"" ++ escapeQuotes label.2 ++ "\""

def formatEntries (entries : List (String × String)) : String :=
  if entries = [] then "" else "\x7b" ++ ",".intercalate (entries.map formatLabel) ++ "\x7d"

/-! ### Series -/

structure MetricValue where
  labels : Labels
  value : Number

structure HistogramSeries where
  labels : Labels
  bucketCounts : List ℕ
  count : ℕ
  sum : Number

/-- A counter or a gauge. -/
structure Metric where
  name : String
  help : String
  values : List MetricValue

structure Histogram where
  name : String
  help : String
  buckets : List ℚ
  series : List HistogramSeries

structure Registry where
  counters : Table Metric.name
  gauges : Table Metric.name
  histograms : Table Histogram.name

def Registry.empty : Registry := ⟨.empty, .empty, .empty⟩

namespace Registry

variable (r : Registry)

def registerCounter (name help : String) : Registry :=
  if (r.counters.find? name).isSome then r
  else { r with counters := r.counters.put ⟨name, help, []⟩ }

def registerGauge (name help : String) : Registry :=
  if (r.gauges.find? name).isSome then r
  else { r with gauges := r.gauges.put ⟨name, help, []⟩ }

def registerHistogram (name help : String) (buckets : List ℚ) : Registry :=
  if (r.histograms.find? name).isSome then r
  else { r with histograms := r.histograms.put ⟨name, help, buckets.mergeSort, []⟩ }

end Registry

/-- `initStandardMetrics`. -/
def standard : Registry :=
  let r := Registry.empty
  let r := r.registerCounter "ctrl_opportunities_total"
    "Total number of recovery opportunities ingested"
  let r := r.registerCounter "ctrl_recovered_revenue_paise_total"
    "Total cumulative revenue recovered in paise"
  let r := r.registerCounter "ctrl_interventions_dispatched_total"
    "Total recovery interventions dispatched across channels"
  let r := r.registerCounter "ctrl_compliance_vetoes_total"
    "Total opportunities vetoed by Action Authority"
  let r := r.registerGauge "ctrl_shadow_price_paise"
    "Current portfolio marginal shadow price in paise"
  let r := r.registerGauge "ctrl_capacity_saturation_ratio"
    "Current portfolio capacity saturation ratio (0.0 to 1.0)"
  let r := r.registerGauge "ctrl_circuit_breaker_state"
    "Circuit breaker state: 0=CLOSED, 1=HALF_OPEN, 2=OPEN"
  let r := r.registerGauge "ctrl_kill_switch_state"
    "Global emergency kill switch state: 0=NORMAL, 1=ENGAGED"
  let r := r.registerGauge "ctrl_lagrangian_shadow_multiplier"
    "Online Lagrangian dual shadow price multiplier lambda(t)"
  let r := r.registerGauge "ctrl_budget_pacing_burn_rate"
    "Current daily budget burn rate ratio vs target pacing"
  let r := r.registerCounter "ctrl_prevented_waste_paise_total"
    "Cumulative financial and goodwill capital saved by preventing wasted interventions"
  let r := r.registerGauge "ctrl_bayesian_posterior_mean"
    "Current Bayesian calibrated recovery probability mean"
  let r := r.registerHistogram "ctrl_recovery_latency_seconds"
    "End-to-end recovery lifecycle duration in seconds" [1, 5, 15, 30, 60, 300, 900]
  r.registerHistogram "ctrl_provider_latency_seconds"
    "Payment provider API request latency in seconds" [0.05, 0.1, 0.25, 0.5, 1, 2.5, 5]

/-! ### Updates -/

def findOrPush {α : Type*} (p : α → Bool) (modify : α → α) (new : α) : List α → List α
  | []      => [new]
  | x :: xs => if p x then modify x :: xs else x :: findOrPush p modify new xs

inductive Operation | incCounter | setGauge | observeHistogram
  deriving DecidableEq, Repr

/-- A call of an update operation. -/
structure Update where
  operation : Operation
  name : String
  value : Number
  labels : Labels

def Metric.inc (value : Number) (labels : Labels) (counter : Metric) : Metric :=
  { counter with
    values := findOrPush (fun v => matchLabels v.labels labels)
      (fun v => { v with value := v.value + value }) ⟨labels, value⟩ counter.values }

def Metric.set (value : Number) (labels : Labels) (gauge : Metric) : Metric :=
  { gauge with
    values := findOrPush (fun v => matchLabels v.labels labels)
      (fun v => { v with value := value }) ⟨labels, value⟩ gauge.values }

/-- One observation more. -/
def HistogramSeries.observe (buckets : List ℚ) (value : Number) (s : HistogramSeries) :
    HistogramSeries :=
  { s with
    count := s.count + 1
    sum := s.sum + value
    bucketCounts := List.zipWith (fun n (bucket : ℚ) => if value.Le bucket then n + 1 else n)
      s.bucketCounts buckets }

def Histogram.observe (value : Number) (labels : Labels) (hist : Histogram) : Histogram :=
  let new : HistogramSeries := ⟨labels, hist.buckets.map fun _ => 0, 0, (0 : ℚ)⟩
  { hist with
    series := findOrPush (fun s => matchLabels s.labels labels) (·.observe hist.buckets value)
      (new.observe hist.buckets value) hist.series }

lemma Metric.name_inc (value : Number) (labels : Labels) (counter : Metric) :
    (counter.inc value labels).name = counter.name := rfl

lemma Metric.name_set (value : Number) (labels : Labels) (gauge : Metric) :
    (gauge.set value labels).name = gauge.name := rfl

lemma Histogram.name_observe (value : Number) (labels : Labels) (hist : Histogram) :
    (hist.observe value labels).name = hist.name := rfl

/-- An update of a metric that is not registered does nothing. -/
def Registry.apply (r : Registry) : Update → Registry
  | ⟨.incCounter, name, value, labels⟩ =>
    { r with
      counters := r.counters.update name (·.inc value labels) (Metric.name_inc value labels) }
  | ⟨.setGauge, name, value, labels⟩ =>
    { r with
      gauges := r.gauges.update name (·.set value labels) (Metric.name_set value labels) }
  | ⟨.observeHistogram, name, value, labels⟩ =>
    { r with
      histograms :=
        r.histograms.update name (·.observe value labels) (Histogram.name_observe value labels) }

def after (updates : List Update) : Registry := updates.foldl Registry.apply standard

/-! ### The export -/

/-- `x.toFixed(4)`. -/
def fixedText : Number → String
  | .finite x => toFixed x 4
  | x         => numberText x

structure Sample where
  suffix : String
  labels : List (String × String)
  value : String
  deriving DecidableEq, Repr

def Sample.series (name : String) (sample : Sample) : String :=
  name ++ sample.suffix ++ formatEntries sample.labels

def Sample.line (name : String) (sample : Sample) : String :=
  sample.series name ++ " " ++ sample.value

def Metric.samples (metric : Metric) : List Sample :=
  if metric.values.isEmpty then [⟨"", [], "0"⟩]
  else metric.values.map fun v => ⟨"", v.labels.rows, numberText v.value⟩

def bucketSample (labels : List (String × String)) (bound : String) (n : ℕ) : Sample :=
  ⟨"_bucket", labels ++ [("le", bound)], toString n⟩

def HistogramSeries.bucketSamples (buckets : List ℚ) (s : HistogramSeries) : List Sample :=
  List.zipWith (fun bucket n => bucketSample s.labels.rows (numberToString bucket) n) buckets
    s.bucketCounts ++ [bucketSample s.labels.rows "+Inf" s.count]

def HistogramSeries.samples (buckets : List ℚ) (s : HistogramSeries) : List Sample :=
  s.bucketSamples buckets ++
    [⟨"_sum", s.labels.rows, fixedText s.sum⟩, ⟨"_count", s.labels.rows, toString s.count⟩]

def Histogram.samples (hist : Histogram) : List Sample :=
  if hist.series.isEmpty then
    hist.buckets.map (fun bucket => bucketSample [] (numberToString bucket) 0) ++
      [bucketSample [] "+Inf" 0, ⟨"_sum", [], "0.0000"⟩, ⟨"_count", [], "0"⟩]
  else hist.series.flatMap (·.samples hist.buckets)

/-- What is exported of a metric. -/
structure Family where
  name : String
  help : String
  type : String
  samples : List Sample

def Registry.families (r : Registry) : List Family :=
  r.counters.rows.map (fun m => ⟨m.name, m.help, "counter", m.samples⟩) ++
    r.gauges.rows.map (fun m => ⟨m.name, m.help, "gauge", m.samples⟩) ++
    r.histograms.rows.map (fun h => ⟨h.name, h.help, "histogram", h.samples⟩)

def Family.lines (family : Family) : List String :=
  ["# HELP " ++ family.name ++ " " ++ family.help, "# TYPE " ++ family.name ++ " " ++ family.type] ++
    family.samples.map (·.line family.name) ++ [""]

/-- The memory of the process, and its uptime in whole seconds. -/
structure ProcessStats where
  rss : ℕ
  heapUsed : ℕ
  uptime : ℕ
  deriving DecidableEq, Repr

def headerLines (stats : ProcessStats) : List String :=
  ["# ====================================================================",
    "# CTRL Autonomous Revenue Recovery Control Plane — Prometheus Export",
    "# ====================================================================",
    "",
    "# HELP process_resident_memory_bytes Resident memory size in bytes",
    "# TYPE process_resident_memory_bytes gauge",
    "process_resident_memory_bytes " ++ toString stats.rss,
    "# HELP process_heap_used_bytes Process heap memory used in bytes",
    "# TYPE process_heap_used_bytes gauge",
    "process_heap_used_bytes " ++ toString stats.heapUsed,
    "# HELP process_uptime_seconds Process uptime in seconds",
    "# TYPE process_uptime_seconds gauge",
    "process_uptime_seconds " ++ toString stats.uptime,
    ""]

def Registry.lines (stats : ProcessStats) (r : Registry) : List String :=
  headerLines stats ++ r.families.flatMap Family.lines

def exportMetrics (stats : ProcessStats) (r : Registry) : String :=
  "\n".intercalate (r.lines stats)

/-! ### What the export promises -/

/-- The label sets of the series of a metric. -/
def Registry.labelSets (r : Registry) (operation : Operation) (name : String) : List Labels :=
  match operation with
  | .incCounter       => (r.counters.find? name).elim [] fun m => m.values.map (·.labels)
  | .setGauge         => (r.gauges.find? name).elim [] fun m => m.values.map (·.labels)
  | .observeHistogram => (r.histograms.find? name).elim [] fun h => h.series.map (·.labels)

def Registry.has (r : Registry) (operation : Operation) (name : String) : Bool :=
  match operation with
  | .incCounter       => (r.counters.find? name).isSome
  | .setGauge         => (r.gauges.find? name).isSome
  | .observeHistogram => (r.histograms.find? name).isSome

/-- The metric that an update addresses is registered. -/
def Update.isRegistered (u : Update) : Bool := standard.has u.operation u.name

def SameLabels (l l' : List (String × String)) : Prop := l.Perm l'

instance (l l' : List (String × String)) : Decidable (SameLabels l l') :=
  inferInstanceAs (Decidable (l.Perm l'))

/-- How many values with a property were observed for a label set of a histogram. -/
def observed (updates : List Update) (name : String) (labels : Labels) (p : Number → Bool) : ℕ :=
  updates.countP fun u => u.operation = .observeHistogram ∧ u.name = name ∧
    SameLabels labels.rows u.labels.rows ∧ p u.value

/-- The export of a series of a histogram shows the numbers of the observations. -/
structure HistogramSeries.Exact (updates : List Update) (hist : Histogram) (s : HistogramSeries) :
    Prop where
  samples : s.samples hist.buckets =
    hist.buckets.map (fun bucket : ℚ => bucketSample s.labels.rows (numberToString bucket)
      (observed updates hist.name s.labels fun value => value.Le bucket)) ++
    [bucketSample s.labels.rows "+Inf" (observed updates hist.name s.labels fun _ => true),
      ⟨"_sum", s.labels.rows, fixedText s.sum⟩,
      ⟨"_count", s.labels.rows, toString (observed updates hist.name s.labels fun _ => true)⟩]
  monotone : (hist.buckets.map (fun bucket : ℚ =>
      observed updates hist.name s.labels fun value => value.Le bucket) ++
    [observed updates hist.name s.labels fun _ => true]).Pairwise (· ≤ ·)

structure Exposes (stats : ProcessStats) (updates : List Update) : Prop where
  /-- The lines of the export are the lines that were put together. -/
  oneLine : (exportMetrics stats (after updates)).toList.splitOn '\n' =
    ((after updates).lines stats).map String.toList
  /-- Samples of a metric with the same text have the same labels. -/
  distinct : ∀ family ∈ (after updates).families, ∀ x ∈ family.samples, ∀ y ∈ family.samples,
    x.series family.name = y.series family.name → SameLabels x.labels y.labels
  /-- Each label set that was used has one series. -/
  shared : ∀ u ∈ updates, u.isRegistered →
    ((after updates).labelSets u.operation u.name).countP
      (fun labels => SameLabels labels.rows u.labels.rows) = 1
  histograms : ∀ hist ∈ (after updates).histograms.rows, ∀ s ∈ hist.series, s.Exact updates hist

/-- No line feed in a label, and no quote in its key. -/
def PlainLabel (label : String × String) : Prop :=
  '"' ∉ label.1.toList ∧ '\n' ∉ label.1.toList ∧ '\n' ∉ label.2.toList

instance (label : String × String) : Decidable (PlainLabel label) :=
  inferInstanceAs (Decidable (_ ∧ _ ∧ _))

/-- The labels of an update of a registered metric are plain. -/
def Update.Plain (u : Update) : Prop := u.isRegistered → ∀ label ∈ u.labels.rows, PlainLabel label

/-! ### Label sets -/

lemma matchLabels_iff {l l' : Labels} : matchLabels l l' ↔ SameLabels l.rows l'.rows := by
  rw [matchLabels, decide_eq_true_eq, SameLabels]
  constructor
  · rintro ⟨hlength, hall⟩
    have hsub : l.rows.Subperm l'.rows := by
      refine List.subperm_of_subset (List.Nodup.of_map _ l.nodup) fun label hlabel => ?_
      exact Table.mem_of_find? (hall label hlabel)
    exact hsub.perm_of_length_le hlength.ge
  · intro h
    refine ⟨h.length_eq, fun label hlabel => ?_⟩
    exact Table.find?_key_of_mem (h.subset hlabel)

section FindOrPush

variable {α : Type*} {p : α → Bool} {modify : α → α} {new x y : α} {xs : List α}

/-- Either the first element with the property is modified, or there is none and one is pushed. -/
lemma findOrPush_cases (p : α → Bool) (modify : α → α) (new : α) (xs : List α) :
    (∃ pre x post, xs = pre ++ x :: post ∧ p x ∧
      findOrPush p modify new xs = pre ++ modify x :: post) ∨
    ((∀ x ∈ xs, ¬p x) ∧ findOrPush p modify new xs = xs ++ [new]) := by
  induction xs with
  | nil => exact .inr ⟨by simp, rfl⟩
  | cons x xs ih =>
    rw [findOrPush]
    split_ifs with hx
    · exact .inl ⟨[], x, xs, rfl, hx, rfl⟩
    · obtain ⟨pre, y, post, rfl, hy, hresult⟩ | ⟨hnone, hresult⟩ := ih
      · exact .inl ⟨x :: pre, y, post, rfl, hy, by rw [hresult]; rfl⟩
      · exact .inr ⟨List.forall_mem_cons.mpr ⟨hx, hnone⟩, by rw [hresult]; rfl⟩

/-- The label sets after an update: the same, or one more that is none of them. -/
def Grows (labels : Labels) (sets sets' : List Labels) : Prop :=
  (sets' = sets ∧ ∃ l ∈ sets, SameLabels l.rows labels.rows) ∨
    (sets' = sets ++ [labels] ∧ ∀ l ∈ sets, ¬SameLabels l.rows labels.rows)

lemma grows_findOrPush {labelsOf : α → Labels} {labels : Labels}
    (hmodify : ∀ x, labelsOf (modify x) = labelsOf x) (hnew : labelsOf new = labels) (xs : List α) :
    Grows labels (xs.map labelsOf)
      ((findOrPush (fun x => matchLabels (labelsOf x) labels) modify new xs).map labelsOf) := by
  obtain ⟨pre, x, post, rfl, hx, hresult⟩ | ⟨hnone, hresult⟩ :=
    findOrPush_cases (fun x => matchLabels (labelsOf x) labels) modify new xs
  · exact .inl ⟨by simp [hresult, hmodify], labelsOf x, by simp, matchLabels_iff.mp hx⟩
  · refine .inr ⟨by simp [hresult, hnew], ?_⟩
    simpa [matchLabels_iff] using hnone

end FindOrPush

section LabelSets

variable {r : Registry} {u : Update} {operation : Operation} {name : String}
  {updates : List Update} {l : Labels}

lemma grows_inc (value : Number) (m : Metric) :
    Grows l (m.values.map (·.labels)) ((m.inc value l).values.map (·.labels))  := by
  refine grows_findOrPush (fun _ => ?_) ?_ m.values <;> rfl

lemma grows_set (value : Number) (m : Metric) :
    Grows l (m.values.map (·.labels)) ((m.set value l).values.map (·.labels))  := by
  refine grows_findOrPush (fun _ => ?_) ?_ m.values <;> rfl

lemma grows_observe (value : Number) (h : Histogram) :
    Grows l (h.series.map (·.labels)) ((h.observe value l).series.map (·.labels))  := by
  refine grows_findOrPush (fun _ => ?_) ?_ h.series <;> rfl

section Tables

variable {ρ : Type*} {key : ρ → String} {t : Table key} {k : String} {f : ρ → ρ}
  (hf : ∀ r, key (f r) = key r) {setsOf : ρ → List Labels}

include hf

lemma isSome_find?_update : ((t.update k f hf).find? name).isSome = (t.find? name).isSome := by
  rw [Table.find?_update]
  split_ifs
  · exact Option.isSome_map
  · rfl

lemma elim_find?_update_of_ne (h : name ≠ k) : ((t.update k f hf).find? name).elim [] setsOf =
    (t.find? name).elim [] setsOf := by
  rw [Table.find?_update_of_ne h]

lemma grows_elim_find?_update (hgrows : ∀ r, Grows l (setsOf r) (setsOf (f r)))
    (h : (t.find? k).isSome) :
    Grows l ((t.find? k).elim [] setsOf) (((t.update k f hf).find? k).elim [] setsOf) := by
  obtain ⟨row, hrow⟩ := Option.isSome_iff_exists.mp h
  rw [Table.find?_update_self, hrow]
  exact hgrows row

end Tables

@[simp] lemma has_apply : (r.apply u).has operation name = r.has operation name := by
  rcases u with ⟨_ | _ | _, k, value, labels⟩ <;> cases operation <;> try rfl
  · exact isSome_find?_update (Metric.name_inc value labels)
  · exact isSome_find?_update (Metric.name_set value labels)
  · exact isSome_find?_update (Histogram.name_observe value labels)

lemma labelSets_apply_of_ne (h : ¬(operation = u.operation ∧ name = u.name)) :
    (r.apply u).labelSets operation name = r.labelSets operation name := by
  rcases u with ⟨_ | _ | _, k, value, labels⟩ <;> cases operation <;> try rfl
  · exact elim_find?_update_of_ne (Metric.name_inc value labels) fun hname => h ⟨rfl, hname⟩
  · exact elim_find?_update_of_ne (Metric.name_set value labels) fun hname => h ⟨rfl, hname⟩
  · exact elim_find?_update_of_ne (Histogram.name_observe value labels) fun hname => h ⟨rfl, hname⟩

lemma grows_labelSets (h : r.has u.operation u.name) :
    Grows u.labels (r.labelSets u.operation u.name)
      ((r.apply u).labelSets u.operation u.name) := by
  rcases u with ⟨_ | _ | _, k, value, labels⟩
  · exact grows_elim_find?_update (Metric.name_inc value labels) (grows_inc value) h
  · exact grows_elim_find?_update (Metric.name_set value labels) (grows_set value) h
  · exact grows_elim_find?_update (Histogram.name_observe value labels) (grows_observe value) h

lemma labelSets_counter {m : Metric} (h : m ∈ r.counters.rows) :
    r.has .incCounter m.name ∧ r.labelSets .incCounter m.name = m.values.map (·.labels) := by
  rw [Registry.has, Registry.labelSets, Table.find?_key_of_mem h]
  exact ⟨rfl, rfl⟩

lemma labelSets_gauge {m : Metric} (h : m ∈ r.gauges.rows) :
    r.has .setGauge m.name ∧ r.labelSets .setGauge m.name = m.values.map (·.labels) := by
  rw [Registry.has, Registry.labelSets, Table.find?_key_of_mem h]
  exact ⟨rfl, rfl⟩

lemma labelSets_histogram {hist : Histogram} (h : hist ∈ r.histograms.rows) :
    r.has .observeHistogram hist.name ∧
      r.labelSets .observeHistogram hist.name = hist.series.map (·.labels) := by
  rw [Registry.has, Registry.labelSets, Table.find?_key_of_mem h]
  exact ⟨rfl, rfl⟩

/-- What holds of the label sets of a registered metric: no two are the same, each is that of an
update, and each update has one. -/
structure Tracks (updates : List Update) (operation : Operation) (name : String)
    (sets : List Labels) : Prop where
  distinct : sets.Pairwise fun l l' => ¬SameLabels l.rows l'.rows
  used : ∀ l ∈ sets, ∃ u ∈ updates, (u.operation = operation ∧ u.name = name) ∧ u.labels = l
  shared : ∀ u ∈ updates, u.operation = operation ∧ u.name = name →
    ∃ l ∈ sets, SameLabels l.rows u.labels.rows

lemma labelSets_standard : standard.labelSets operation name = [] := by
  have hmetrics : ∀ m ∈ standard.counters.rows ++ standard.gauges.rows, m.values = [] := by
    intro m hm
    have hall : (standard.counters.rows ++ standard.gauges.rows).all (·.values.isEmpty) = true := by
      decide +kernel
    exact List.isEmpty_iff.mp (List.all_eq_true.mp hall m hm)
  have hhistograms : ∀ h ∈ standard.histograms.rows, h.series = [] := by
    intro h hh
    have hall : standard.histograms.rows.all (·.series.isEmpty) = true := by decide +kernel
    exact List.isEmpty_iff.mp (List.all_eq_true.mp hall h hh)
  cases operation <;> rw [Registry.labelSets]
  · cases hfind : standard.counters.find? name with
    | none => rfl
    | some m => simp [hmetrics m (List.mem_append_left _ (Table.mem_of_find? hfind))]
  · cases hfind : standard.gauges.find? name with
    | none => rfl
    | some m => simp [hmetrics m (List.mem_append_right _ (Table.mem_of_find? hfind))]
  · cases hfind : standard.histograms.find? name with
    | none => rfl
    | some h => simp [hhistograms h (Table.mem_of_find? hfind)]

lemma after_concat : after (updates ++ [u]) = (after updates).apply u := by
  rw [after, List.foldl_append, List.foldl_cons, List.foldl_nil, after]

@[simp] lemma has_after : (after updates).has operation name = standard.has operation name := by
  induction updates using List.reverseRecOn with
  | nil => rfl
  | append_singleton updates u ih => rw [after_concat, has_apply, ih]

lemma Tracks.grow {sets sets' : List Labels} (h : Tracks updates u.operation u.name sets)
    (hgrows : Grows u.labels sets sets') :
    Tracks (updates ++ [u]) u.operation u.name sets' := by
  obtain ⟨rfl, l, hl, hmatch⟩ | ⟨rfl, hnone⟩ := hgrows
  · refine ⟨h.distinct, fun l hl => ?_, List.forall_mem_append.mpr ⟨h.shared, ?_⟩⟩
    · obtain ⟨u', hu', hused⟩ := h.used l hl
      exact ⟨u', List.mem_append_left _ hu', hused⟩
    · simpa using ⟨l, hl, hmatch⟩
  · refine ⟨?_, List.forall_mem_append.mpr ⟨fun l hl => ?_, ?_⟩,
      List.forall_mem_append.mpr ⟨fun u' hu' hsame => ?_, ?_⟩⟩
    · rw [List.pairwise_append]
      exact ⟨h.distinct, List.pairwise_singleton .., by simpa using hnone⟩
    · obtain ⟨u', hu', hused⟩ := h.used l hl
      exact ⟨u', List.mem_append_left _ hu', hused⟩
    · simp
    · obtain ⟨l, hl, hmatch⟩ := h.shared u' hu' hsame
      exact ⟨l, List.mem_append_left _ hl, hmatch⟩
    · simp [SameLabels]

lemma Tracks.skip {sets : List Labels} (h : Tracks updates operation name sets)
    (hne : ¬(operation = u.operation ∧ name = u.name)) :
    Tracks (updates ++ [u]) operation name sets where
  distinct := h.distinct
  used l hl := by
    obtain ⟨u', hu', hused⟩ := h.used l hl
    exact ⟨u', List.mem_append_left _ hu', hused⟩
  shared := by
    refine List.forall_mem_append.mpr ⟨h.shared, ?_⟩
    simp only [List.mem_singleton, forall_eq]
    exact fun hsame => absurd ⟨hsame.1.symm, hsame.2.symm⟩ hne

lemma tracks_after (h : standard.has operation name) :
    Tracks updates operation name ((after updates).labelSets operation name) := by
  induction updates using List.reverseRecOn with
  | nil =>
    rw [show after [] = standard from rfl, labelSets_standard]
    exact ⟨.nil, List.forall_mem_nil _, List.forall_mem_nil _⟩
  | append_singleton updates u ih =>
    rw [after_concat]
    by_cases hu : operation = u.operation ∧ name = u.name
    · obtain ⟨rfl, rfl⟩ := hu
      exact ih.grow (grows_labelSets (has_after.trans h))
    · rw [labelSets_apply_of_ne hu]
      exact ih.skip hu

/-- Each label set that was used has one series. -/
lemma countP_labelSets (hu : u ∈ updates) (hregistered : u.isRegistered) :
    ((after updates).labelSets u.operation u.name).countP
      (fun labels => SameLabels labels.rows u.labels.rows) = 1 := by
  have htracks : Tracks updates u.operation u.name ((after updates).labelSets u.operation u.name) :=
    tracks_after hregistered
  obtain ⟨l, hl, hmatch⟩ := htracks.shared u hu ⟨rfl, rfl⟩
  have hdistinct := htracks.distinct
  obtain ⟨pre, post, hsets⟩ := List.append_of_mem hl
  rw [hsets, List.pairwise_append, List.pairwise_cons] at hdistinct
  obtain ⟨-, ⟨hpost, -⟩, hpre⟩ := hdistinct
  have hnone : ∀ other ∈ pre ++ post, ¬SameLabels other.rows u.labels.rows := by
    intro other hother hsame
    obtain hother | hother := List.mem_append.mp hother
    · exact hpre other hother l List.mem_cons_self (hsame.trans hmatch.symm)
    · exact hpost other hother (hmatch.trans hsame.symm)
  have hzero : (pre ++ post).countP (fun labels => SameLabels labels.rows u.labels.rows) = 0 :=
    List.countP_eq_zero.mpr fun other hother => by simpa using hnone other hother
  rw [List.countP_append] at hzero
  rw [hsets, List.countP_append, List.countP_cons_of_pos (by simpa using hmatch)]
  omega

end LabelSets

/-! ### Observations -/

section Observations

variable {updates : List Update} {u : Update} {name : String} {labels : Labels} {p q : Number → Bool}
  {buckets : List ℚ} {s : HistogramSeries} {hist : Histogram}

lemma observed_concat : observed (updates ++ [u]) name labels p = observed updates name labels p +
    if u.operation = .observeHistogram ∧ u.name = name ∧ SameLabels labels.rows u.labels.rows ∧
      p u.value then 1 else 0 := by
  simp [observed, List.countP_append, List.countP_cons]

lemma observed_mono (h : ∀ value, p value → q value) :
    observed updates name labels p ≤ observed updates name labels q := by
  refine List.countP_mono_left fun u _ hu => ?_
  simp only [decide_eq_true_eq] at hu ⊢
  exact ⟨hu.1, hu.2.1, hu.2.2.1, h _ hu.2.2.2⟩

/-- The numbers of a series are those of the observations. -/
structure HistogramSeries.Counts (updates : List Update) (name : String) (buckets : List ℚ)
    (s : HistogramSeries) : Prop where
  bucketCounts : s.bucketCounts =
    buckets.map fun bucket : ℚ => observed updates name s.labels fun value => value.Le bucket
  count : s.count = observed updates name s.labels fun _ => true

lemma HistogramSeries.Counts.skip (h : s.Counts updates name buckets)
    (hother : ¬(u.operation = .observeHistogram ∧ u.name = name ∧
      SameLabels s.labels.rows u.labels.rows)) : s.Counts (updates ++ [u]) name buckets := by
  have hsame : ∀ p, observed (updates ++ [u]) name s.labels p = observed updates name s.labels p := by
    intro p
    rw [observed_concat, if_neg fun hu => hother ⟨hu.1, hu.2.1, hu.2.2.1⟩, Nat.add_zero]
  exact ⟨by simp only [hsame, h.bucketCounts], by rw [hsame, h.count]⟩

lemma HistogramSeries.Counts.observe (h : s.Counts updates u.name buckets)
    (hoperation : u.operation = .observeHistogram)
    (hlabels : SameLabels s.labels.rows u.labels.rows) :
    (s.observe buckets u.value).Counts (updates ++ [u]) u.name buckets := by
  have hmore : ∀ p, observed (updates ++ [u]) u.name s.labels p =
      observed updates u.name s.labels p + if p u.value then 1 else 0 := by
    intro p
    rw [observed_concat]
    simp only [hoperation, hlabels, true_and]
  constructor
  · rw [HistogramSeries.observe, h.bucketCounts, List.zipWith_map_left, List.zipWith_self]
    refine List.map_congr_left fun bucket _ => ?_
    dsimp only
    rw [hmore]
    split_ifs with hle <;> simp_all
  · rw [HistogramSeries.observe, h.count]
    dsimp only
    rw [hmore, if_pos rfl]

lemma counts_new (h : ∀ u ∈ updates, u.operation = .observeHistogram ∧ u.name = name →
      ¬SameLabels labels.rows u.labels.rows) :
    HistogramSeries.Counts updates name buckets ⟨labels, buckets.map fun _ => 0, 0, (0 : ℚ)⟩ := by
  have hzero : ∀ p, observed updates name labels p = 0 := by
    intro p
    refine List.countP_eq_zero.mpr fun u hu hmatch => ?_
    rw [decide_eq_true_eq] at hmatch
    exact h u hu ⟨hmatch.1, hmatch.2.1⟩ hmatch.2.2.1
  exact ⟨by simp only [hzero], by rw [hzero]⟩

lemma counts_observe (hoperation : u.operation = .observeHistogram) (hname : u.name = hist.name)
    (htracks : Tracks updates .observeHistogram hist.name (hist.series.map (·.labels)))
    (h : ∀ s ∈ hist.series, s.Counts updates hist.name hist.buckets) :
    ∀ s ∈ (hist.observe u.value u.labels).series,
      s.Counts (updates ++ [u]) hist.name hist.buckets := by
  have hother : ∀ s ∈ hist.series, ¬SameLabels s.labels.rows u.labels.rows →
      s.Counts (updates ++ [u]) hist.name hist.buckets := fun s hs hne =>
    (h s hs).skip fun hu => hne hu.2.2
  rw [← hname] at h hother ⊢
  rw [Histogram.observe]
  obtain ⟨pre, x, post, hseries, hmatch, hresult⟩ | ⟨hnone, hresult⟩ :=
    findOrPush_cases (fun s => matchLabels s.labels u.labels) (·.observe hist.buckets u.value)
      ((⟨u.labels, hist.buckets.map fun _ => 0, 0, (0 : ℚ)⟩ : HistogramSeries).observe hist.buckets
        u.value) hist.series
  · have hlabels := matchLabels_iff.mp hmatch
    have hdistinct := htracks.distinct
    rw [hseries, List.map_append, List.map_cons, List.pairwise_append, List.pairwise_cons]
      at hdistinct
    obtain ⟨-, ⟨hpost, -⟩, hpre⟩ := hdistinct
    intro s hs
    simp only [hresult, List.mem_append, List.mem_cons] at hs
    obtain hs | rfl | hs := hs
    · refine hother s (by simp [hseries, hs]) fun hsame => ?_
      exact hpre s.labels (List.mem_map_of_mem hs) x.labels List.mem_cons_self
        (hsame.trans hlabels.symm)
    · exact (h x (by simp [hseries])).observe hoperation hlabels
    · refine hother s (by simp [hseries, hs]) fun hsame => ?_
      exact hpost s.labels (List.mem_map_of_mem hs) (hlabels.trans hsame.symm)
  · intro s hs
    simp only [hresult, List.mem_append, List.mem_singleton] at hs
    have hunmatched : ∀ s ∈ hist.series, ¬SameLabels s.labels.rows u.labels.rows :=
      fun s hs hsame => hnone s hs (matchLabels_iff.mpr hsame)
    obtain hs | rfl := hs
    · exact hother s hs (hunmatched s hs)
    · refine (counts_new fun u' hu' hobserved hsame => ?_).observe hoperation (List.Perm.refl _)
      obtain ⟨l, hl, hmatch⟩ := htracks.shared u' hu' (hname ▸ hobserved)
      obtain ⟨s, hs, rfl⟩ := List.mem_map.mp hl
      exact hunmatched s hs (hmatch.trans hsame.symm)

lemma histograms_apply_of_ne {r : Registry} (h : u.operation ≠ .observeHistogram) :
    (r.apply u).histograms = r.histograms := by
  rcases u with ⟨_ | _ | _, k, value, l⟩
  · rfl
  · rfl
  · exact absurd rfl h

lemma histograms_apply {r : Registry} (h : u.operation = .observeHistogram) :
    (r.apply u).histograms = r.histograms.update u.name (·.observe u.value u.labels)
      (Histogram.name_observe u.value u.labels) := by
  rcases u with ⟨_ | _ | _, k, value, l⟩
  · cases h
  · cases h
  · rfl

lemma counts_after (h : hist ∈ (after updates).histograms.rows) (hs : s ∈ hist.series) :
    s.Counts updates hist.name hist.buckets := by
  induction updates using List.reverseRecOn generalizing hist s with
  | nil =>
    have hempty := (labelSets_histogram h).2
    rw [show after [] = standard from rfl, labelSets_standard] at hempty
    simp [List.map_eq_nil_iff.mp hempty.symm] at hs
  | append_singleton updates u ih =>
    rw [after_concat] at h
    by_cases hoperation : u.operation = .observeHistogram
    · rw [histograms_apply hoperation, Table.rows_update] at h
      obtain ⟨old, hold, rfl⟩ := List.mem_map.mp h
      have htracks : Tracks updates .observeHistogram old.name (old.series.map (·.labels)) := by
        obtain ⟨hhas, hsets⟩ := labelSets_histogram hold
        rw [← hsets]
        exact tracks_after (has_after.symm.trans hhas)
      split_ifs at hs ⊢ with hname
      · exact counts_observe hoperation hname.symm htracks (fun s hs => ih hold hs) s hs
      · exact (ih hold hs).skip fun hu => hname hu.2.1.symm
    · rw [histograms_apply_of_ne hoperation] at h
      exact (ih h hs).skip fun hu => hoperation hu.1

lemma sorted_registerHistogram {r : Registry} {help : String}
    (h : ∀ hist ∈ r.histograms.rows, hist.buckets.Pairwise (· ≤ ·)) :
    ∀ hist ∈ (r.registerHistogram name help buckets).histograms.rows,
      hist.buckets.Pairwise (· ≤ ·) := by
  intro hist hhist
  rw [Registry.registerHistogram] at hhist
  split_ifs at hhist
  · exact h hist hhist
  · obtain rfl | ⟨hold, -⟩ := Table.mem_put.mp hhist
    · exact List.pairwise_mergeSort' (· ≤ ·) buckets
    · exact h hist hold

lemma histograms_registerCounter {r : Registry} {help : String} :
    (r.registerCounter name help).histograms = r.histograms := by
  rw [Registry.registerCounter]
  split_ifs <;> rfl

lemma histograms_registerGauge {r : Registry} {help : String} :
    (r.registerGauge name help).histograms = r.histograms := by
  rw [Registry.registerGauge]
  split_ifs <;> rfl

lemma sorted_standard : ∀ hist ∈ standard.histograms.rows, hist.buckets.Pairwise (· ≤ ·) := by
  refine sorted_registerHistogram (sorted_registerHistogram ?_)
  simp only [histograms_registerCounter, histograms_registerGauge]
  exact List.forall_mem_nil _

lemma sorted_buckets (h : hist ∈ (after updates).histograms.rows) :
    hist.buckets.Pairwise (· ≤ ·) := by
  induction updates using List.reverseRecOn generalizing hist with
  | nil => exact sorted_standard hist h
  | append_singleton updates u ih =>
    rw [after_concat] at h
    by_cases hoperation : u.operation = .observeHistogram
    · rw [histograms_apply hoperation, Table.rows_update] at h
      obtain ⟨old, hold, rfl⟩ := List.mem_map.mp h
      have hsorted : old.buckets.Pairwise (· ≤ ·) := ih hold
      split_ifs
      · exact hsorted
      · exact hsorted
    · exact ih (histograms_apply_of_ne hoperation ▸ h)

lemma le_of_le {value : Number} {a b : ℚ} (h : value.Le a) (hab : a ≤ b) : value.Le b := by
  cases value with
  | nan      => exact h
  | negInf   => trivial
  | finite x => exact le_trans h hab
  | posInf   => exact h

lemma exact_after (h : hist ∈ (after updates).histograms.rows) (hs : s ∈ hist.series) :
    s.Exact updates hist := by
  have hcounts := counts_after h hs
  constructor
  · rw [HistogramSeries.samples, HistogramSeries.bucketSamples, hcounts.bucketCounts, hcounts.count,
      List.zipWith_map_right, List.zipWith_self, List.append_assoc]
    rfl
  · rw [List.pairwise_append, List.pairwise_map]
    refine ⟨(sorted_buckets h).imp fun hle => ?_, List.pairwise_singleton .., ?_⟩
    · exact observed_mono fun value hvalue =>
        decide_eq_true (le_of_le (of_decide_eq_true hvalue) hle)
    · simp only [List.mem_map, List.mem_singleton]
      rintro _ ⟨bucket, -, rfl⟩ _ rfl
      exact observed_mono fun _ _ => rfl

end Observations

/-! ### Lines -/

def OneLine (s : String) : Prop := '\n' ∉ s.toList

instance (s : String) : Decidable (OneLine s) := inferInstanceAs (Decidable (_ ∉ _))

section Lines

variable {s t : String} {updates : List Update} {family : Family} {sample : Sample}

lemma oneLine_ofList {l : List Char} (h : '\n' ∉ l) : OneLine (String.ofList l) := by
  rwa [OneLine, String.toList_ofList]

lemma oneLine_append_iff : OneLine (s ++ t) ↔ OneLine s ∧ OneLine t := by
  simp [OneLine, String.toList_append, not_or]

lemma oneLine_intercalate {parts : List String} (hs : OneLine s) (hparts : ∀ t ∈ parts, OneLine t) :
    OneLine (s.intercalate parts) := by
  rw [OneLine, String.toList_intercalate]
  intro hmem
  obtain hmem | ⟨_, hpart, hmem⟩ := mem_intercalate hmem
  · exact hs hmem
  · obtain ⟨t, ht, rfl⟩ := List.mem_map.mp hpart
    exact hparts t ht hmem

lemma oneLine_toString (n : ℕ) : OneLine (toString n) := by
  rw [OneLine, Nat.toString_eq_repr, Nat.toList_repr]
  intro hmem
  cases Nat.isDigit_of_mem_toDigits (by decide) (by decide) hmem

lemma oneLine_sign (x : ℚ) : OneLine (if x < 0 then "-" else "") := by
  split_ifs <;> decide

lemma oneLine_fractionDigits (den num fuel : ℕ) : OneLine (fractionDigits den num fuel) := by
  induction fuel generalizing num with
  | zero => cases num <;> exact List.not_mem_nil
  | succ fuel ih =>
    cases num with
    | zero => exact List.not_mem_nil
    | succ num => exact oneLine_append_iff.mpr ⟨oneLine_toString _, ih _⟩

lemma oneLine_numberToString (x : ℚ) : OneLine (numberToString x) := by
  rw [numberToString]
  split_ifs <;>
    simp only [oneLine_append_iff, oneLine_toString, oneLine_fractionDigits, and_true] <;> decide

lemma oneLine_numberText (x : Number) : OneLine (numberText x) := by
  cases x with
  | nan      => decide
  | negInf   => decide
  | finite x => exact oneLine_numberToString x
  | posInf   => decide

lemma oneLine_fixedText (x : Number) : OneLine (fixedText x) := by
  cases x with
  | nan      => decide
  | negInf   => decide
  | posInf   => decide
  | finite x =>
    have hzeros : ∀ n, OneLine (String.ofList (List.replicate n '0')) := by
      intro n hmem
      rw [String.toList_ofList] at hmem
      cases List.eq_of_mem_replicate hmem
    simp only [fixedText, toFixed, oneLine_append_iff, oneLine_sign, oneLine_toString, hzeros, and_true,
      true_and]
    decide

lemma oneLine_formatLabel {label : String × String} (h : PlainLabel label) :
    OneLine (formatLabel label) := by
  have hvalue : OneLine (escapeQuotes label.2) := by
    rw [OneLine, escapeQuotes, String.toList_ofList, Quoting.escape]
    intro hmem
    obtain ⟨c, hc, hmem⟩ := List.mem_flatMap.mp hmem
    split_ifs at hmem with hquote
    · simp at hmem
    · rw [List.mem_singleton] at hmem
      exact h.2.2 (hmem ▸ hc)
  have hmarks : OneLine "=\"" ∧ OneLine "\"" := by decide
  simp only [formatLabel, oneLine_append_iff]
  exact ⟨⟨⟨h.2.1, hmarks.1⟩, hvalue⟩, hmarks.2⟩

lemma oneLine_formatEntries {entries : List (String × String)}
    (h : ∀ label ∈ entries, PlainLabel label) : OneLine (formatEntries entries) := by
  have hmarks : OneLine "\x7b" ∧ OneLine "\x7d" ∧ OneLine "," := by decide
  rw [formatEntries]
  split_ifs
  · decide
  · simp only [oneLine_append_iff]
    refine ⟨⟨hmarks.1, oneLine_intercalate hmarks.2.2 fun t ht => ?_⟩, hmarks.2.1⟩
    obtain ⟨label, hlabel, rfl⟩ := List.mem_map.mp ht
    exact oneLine_formatLabel (h label hlabel)

/-- What follows the name of a metric in its samples. -/
def suffixes : List String := ["", "_bucket", "_sum", "_count"]

lemma plain_suffix : ∀ suffix ∈ suffixes, OneLine suffix ∧ '\x7b' ∉ suffix.toList := by decide

/-- A sample whose texts have no line feeds. -/
structure Sample.Plain (sample : Sample) : Prop where
  suffix : sample.suffix ∈ suffixes
  labels : ∀ label ∈ sample.labels, PlainLabel label
  value : OneLine sample.value

lemma Sample.Plain.oneLine (h : sample.Plain) {name : String} (hname : OneLine name) :
    OneLine (sample.line name) := by
  simp only [Sample.line, Sample.series, oneLine_append_iff]
  exact ⟨⟨⟨⟨hname, (plain_suffix _ h.suffix).1⟩, oneLine_formatEntries h.labels⟩, by decide⟩, h.value⟩

end Lines

/-! ### Families -/

section Families

variable {updates : List Update} {family : Family} {sample : Sample}

/-- What is exported of a metric before its samples. -/
def Family.head (family : Family) : String × String × String :=
  (family.name, family.help, family.type)

lemma map_rows_update {ρ β : Type*} {key : ρ → String} {t : Table key} {k : String} {f : ρ → ρ}
    (hf : ∀ r, key (f r) = key r) (g : ρ → β) (hg : ∀ r, g (f r) = g r) :
    (t.update k f hf).rows.map g = t.rows.map g := by
  rw [Table.rows_update, List.map_map]
  refine List.map_congr_left fun r _ => ?_
  rw [Function.comp_apply, apply_ite g, hg, ite_self]

lemma heads_apply {r : Registry} {u : Update} :
    (r.apply u).families.map Family.head = r.families.map Family.head := by
  simp only [Registry.families, List.map_append, List.map_map]
  rcases u with ⟨_ | _ | _, k, value, labels⟩ <;> simp only [Registry.apply]
  · rw [map_rows_update (Metric.name_inc value labels) _ fun _ => rfl]
  · rw [map_rows_update (Metric.name_set value labels) _ fun _ => rfl]
  · rw [map_rows_update (Histogram.name_observe value labels) _ fun _ => rfl]

lemma heads_after : (after updates).families.map Family.head = standard.families.map Family.head := by
  induction updates using List.reverseRecOn with
  | nil => rfl
  | append_singleton updates u ih => rw [after_concat, heads_apply, ih]

/-- The registered names and help texts have no line feeds. -/
structure Registry.OneLineHeads (r : Registry) : Prop where
  counters : ∀ m ∈ r.counters.rows, OneLine m.name ∧ OneLine m.help
  gauges : ∀ m ∈ r.gauges.rows, OneLine m.name ∧ OneLine m.help
  histograms : ∀ h ∈ r.histograms.rows, OneLine h.name ∧ OneLine h.help

lemma forall_mem_put {ρ : Type*} {key : ρ → String} {t : Table key} {x : ρ} {p : ρ → Prop}
    (h : ∀ y ∈ t.rows, p y) (hx : p x) : ∀ y ∈ (t.put x).rows, p y := by
  intro y hy
  obtain rfl | ⟨hy, -⟩ := Table.mem_put.mp hy
  · exact hx
  · exact h y hy

namespace Registry.OneLineHeads

variable {r : Registry} {name help : String}

lemma registerCounter (h : r.OneLineHeads) (hname : OneLine name) (hhelp : OneLine help) :
    (r.registerCounter name help).OneLineHeads := by
  rw [Registry.registerCounter]
  split_ifs
  · exact h
  · exact { h with counters := forall_mem_put h.counters ⟨hname, hhelp⟩ }

lemma registerGauge (h : r.OneLineHeads) (hname : OneLine name) (hhelp : OneLine help) :
    (r.registerGauge name help).OneLineHeads := by
  rw [Registry.registerGauge]
  split_ifs
  · exact h
  · exact { h with gauges := forall_mem_put h.gauges ⟨hname, hhelp⟩ }

lemma registerHistogram {buckets : List ℚ} (h : r.OneLineHeads) (hname : OneLine name)
    (hhelp : OneLine help) : (r.registerHistogram name help buckets).OneLineHeads := by
  rw [Registry.registerHistogram]
  split_ifs
  · exact h
  · exact { h with histograms := forall_mem_put h.histograms ⟨hname, hhelp⟩ }

lemma of_standard : standard.OneLineHeads := by
  have hempty : Registry.empty.OneLineHeads := ⟨nofun, nofun, nofun⟩
  rw [standard]
  repeat' first
    | apply registerHistogram
    | apply registerGauge
    | apply registerCounter
  · exact hempty
  all_goals exact oneLine_ofList (by decide)

end Registry.OneLineHeads

lemma oneLine_head (h : family ∈ (after updates).families) :
    OneLine family.name ∧ OneLine family.help ∧ OneLine family.type := by
  have hmem := List.mem_map_of_mem (f := Family.head) h
  rw [heads_after] at hmem
  obtain ⟨family', hfamily', heq⟩ := List.mem_map.mp hmem
  suffices hhead : OneLine family'.name ∧ OneLine family'.help ∧ OneLine family'.type by
    obtain ⟨hname, hhelp, htype⟩ : family'.name = family.name ∧ family'.help = family.help ∧
        family'.type = family.type := by simpa [Family.head] using heq
    rwa [hname, hhelp, htype] at hhead
  have hheads := Registry.OneLineHeads.of_standard
  rw [Registry.families, List.mem_append, List.mem_append] at hfamily'
  obtain (hmem | hmem) | hmem := hfamily' <;> obtain ⟨metric, hmetric, rfl⟩ := List.mem_map.mp hmem
  · exact ⟨(hheads.counters metric hmetric).1, (hheads.counters metric hmetric).2,
      oneLine_ofList (by decide)⟩
  · exact ⟨(hheads.gauges metric hmetric).1, (hheads.gauges metric hmetric).2,
      oneLine_ofList (by decide)⟩
  · exact ⟨(hheads.histograms metric hmetric).1, (hheads.histograms metric hmetric).2,
      oneLine_ofList (by decide)⟩

lemma plain_labelSets (hplain : ∀ u ∈ updates, u.Plain) {operation : Operation} {name : String}
    (h : (after updates).has operation name) {l : Labels}
    (hl : l ∈ (after updates).labelSets operation name) : ∀ label ∈ l.rows, PlainLabel label := by
  rw [has_after] at h
  obtain ⟨u, hu, ⟨rfl, rfl⟩, rfl⟩ := (tracks_after h).used l hl
  exact hplain u hu h

lemma Metric.plain_samples {m : Metric} (h : ∀ l ∈ m.values.map (·.labels), ∀ label ∈ l.rows,
    PlainLabel label) : ∀ sample ∈ m.samples, sample.Plain := by
  rw [Metric.samples]
  split_ifs
  · simp only [List.mem_singleton, forall_eq]
    exact ⟨by simp [suffixes], List.forall_mem_nil _, by decide⟩
  · rw [List.forall_mem_map] at h ⊢
    exact fun v hv => ⟨by simp [suffixes], h v hv, oneLine_numberText v.value⟩

lemma plain_bucketSample {labels : List (String × String)} (h : ∀ label ∈ labels, PlainLabel label)
    {bound : String} (hbound : OneLine bound) (n : ℕ) : (bucketSample labels bound n).Plain where
  suffix := by simp [suffixes, bucketSample]
  labels := by
    have hle : '"' ∉ "le".toList ∧ '\n' ∉ "le".toList := by decide
    refine List.forall_mem_append.mpr ⟨h, ?_⟩
    simp only [List.mem_singleton, forall_eq]
    exact ⟨hle.1, hle.2, hbound⟩
  value := oneLine_toString n

lemma HistogramSeries.plain_samples {s : HistogramSeries} (buckets : List ℚ)
    (h : ∀ label ∈ s.labels.rows, PlainLabel label) :
    ∀ sample ∈ s.samples buckets, sample.Plain := by
  rw [HistogramSeries.samples, HistogramSeries.bucketSamples]
  refine List.forall_mem_append.mpr ⟨List.forall_mem_append.mpr ⟨?_, ?_⟩, ?_⟩
  · intro sample hsample
    obtain ⟨i, hi, rfl⟩ := List.getElem_of_mem hsample
    rw [List.getElem_zipWith]
    exact plain_bucketSample h (oneLine_numberToString _) _
  · simp only [List.mem_singleton, forall_eq]
    exact plain_bucketSample h (by decide) s.count
  · simp only [List.mem_cons, List.not_mem_nil, or_false, forall_eq_or_imp, forall_eq]
    exact ⟨⟨by simp [suffixes], h, oneLine_fixedText s.sum⟩,
      ⟨by simp [suffixes], h, oneLine_toString s.count⟩⟩

lemma Histogram.plain_samples {hist : Histogram} (h : ∀ l ∈ hist.series.map (·.labels),
    ∀ label ∈ l.rows, PlainLabel label) : ∀ sample ∈ hist.samples, sample.Plain := by
  have hnil : ∀ label ∈ ([] : List (String × String)), PlainLabel label := List.forall_mem_nil _
  rw [Histogram.samples]
  split_ifs
  · refine List.forall_mem_append.mpr ⟨?_, ?_⟩
    · rw [List.forall_mem_map]
      exact fun bucket _ => plain_bucketSample hnil (oneLine_numberToString bucket) 0
    · simp only [List.mem_cons, List.not_mem_nil, or_false, forall_eq_or_imp, forall_eq]
      exact ⟨plain_bucketSample hnil (by decide) 0, ⟨by simp [suffixes], hnil, by decide⟩,
        ⟨by simp [suffixes], hnil, by decide⟩⟩
  · intro sample hsample
    obtain ⟨s, hs, hsample⟩ := List.mem_flatMap.mp hsample
    exact s.plain_samples hist.buckets (List.forall_mem_map.mp h s hs) sample hsample

lemma plain_samples (hplain : ∀ u ∈ updates, u.Plain) (h : family ∈ (after updates).families) :
    ∀ sample ∈ family.samples, sample.Plain := by
  rw [Registry.families, List.mem_append, List.mem_append] at h
  obtain (h | h) | h := h <;> obtain ⟨metric, hmetric, rfl⟩ := List.mem_map.mp h
  · obtain ⟨hhas, hsets⟩ := labelSets_counter hmetric
    exact Metric.plain_samples fun l hl => plain_labelSets hplain hhas (hsets ▸ hl)
  · obtain ⟨hhas, hsets⟩ := labelSets_gauge hmetric
    exact Metric.plain_samples fun l hl => plain_labelSets hplain hhas (hsets ▸ hl)
  · obtain ⟨hhas, hsets⟩ := labelSets_histogram hmetric
    exact Histogram.plain_samples fun l hl => plain_labelSets hplain hhas (hsets ▸ hl)

/-! ### Series texts -/

def charLists (label : String × String) : List Char × List Char :=
  (label.1.toList, label.2.toList)

lemma charLists_injective : Function.Injective charLists := fun _ _ h =>
  Prod.ext (String.toList_injective (congrArg Prod.fst h))
    (String.toList_injective (congrArg Prod.snd h))

lemma toList_formatLabel (label : String × String) :
    (formatLabel label).toList = Quoting.field '=' '"' '\\' (charLists label) := by
  have hmarks : "=\"".toList = ['=', '"'] ∧ "\"".toList = ['"'] := by decide
  simp only [formatLabel, escapeQuotes, charLists, Quoting.field, Quoting.closed,
    String.toList_append, String.toList_ofList, hmarks, List.append_assoc, List.cons_append,
    List.nil_append]

lemma toList_formatEntries {entries : List (String × String)} (h : entries ≠ []) :
    (formatEntries entries).toList = '\x7b' ::
      ([','].intercalate ((entries.map charLists).map (Quoting.field '=' '"' '\\')) ++ ['\x7d']) := by
  have hmap : (entries.map formatLabel).map String.toList =
      (entries.map charLists).map (Quoting.field '=' '"' '\\') := by
    rw [List.map_map, List.map_map]
    exact List.map_congr_left fun label _ => toList_formatLabel label
  rw [formatEntries, if_neg h, String.toList_append, String.toList_append,
    String.toList_intercalate, hmap]
  rfl

/-- Plain labels can be told from their text. -/
lemma formatEntries_inj {entries entries' : List (String × String)}
    (h : ∀ label ∈ entries, PlainLabel label) (h' : ∀ label ∈ entries', PlainLabel label)
    (heq : formatEntries entries = formatEntries entries') : entries = entries' := by
  have hquotes : ∀ {entries : List (String × String)}, (∀ label ∈ entries, PlainLabel label) →
      ∀ item ∈ entries.map charLists, '"' ∉ item.1 := by
    intro entries hplain
    rw [List.forall_mem_map]
    exact fun label hlabel => (hplain label hlabel).1
  have htext := congrArg String.toList heq
  by_cases hnil : entries = [] <;> by_cases hnil' : entries' = []
  · rw [hnil, hnil']
  · rw [toList_formatEntries hnil', hnil] at htext
    cases htext
  · rw [toList_formatEntries hnil, hnil'] at htext
    cases htext
  · rw [toList_formatEntries hnil, toList_formatEntries hnil'] at htext
    have hitems := List.append_cancel_right (List.cons.inj htext).2
    exact (List.map_injective_iff.mpr charLists_injective) <|
      Quoting.intercalate_field_inj (by decide) (by decide) (by decide) (by decide) (hquotes h)
        (hquotes h') hitems

lemma formatEntries_cases (entries : List (String × String)) :
    (formatEntries entries).toList = [] ∨ ∃ r, (formatEntries entries).toList = '\x7b' :: r := by
  by_cases hnil : entries = []
  · rw [hnil]
    exact .inl rfl
  · exact .inr ⟨_, toList_formatEntries hnil⟩

lemma series_inj {name : String} {x y : Sample} (hx : x.Plain) (hy : y.Plain)
    (h : x.series name = y.series name) : x.labels = y.labels := by
  have htext := congrArg String.toList h
  simp only [Sample.series, String.toList_append, List.append_assoc, List.append_cancel_left_eq]
    at htext
  obtain ⟨-, hentries⟩ := append_inj_of_notMem (plain_suffix _ hx.suffix).2
    (plain_suffix _ hy.suffix).2 (formatEntries_cases _) (formatEntries_cases _) htext
  exact formatEntries_inj hx.labels hy.labels (String.toList_injective hentries)

lemma oneLine_headerLines (stats : ProcessStats) : ∀ line ∈ headerLines stats, OneLine line := by
  simp only [headerLines, List.forall_mem_cons, oneLine_append_iff, oneLine_toString, and_true]
  refine ⟨?_, ?_, ?_, ?_, ?_, ?_, ?_, ?_, ?_, ?_, ?_, ?_, ?_, ?_, List.forall_mem_nil _⟩
  all_goals exact oneLine_ofList (by decide)

lemma Family.oneLine_lines (hplain : ∀ sample ∈ family.samples, sample.Plain)
    (hhead : OneLine family.name ∧ OneLine family.help ∧ OneLine family.type) :
    ∀ line ∈ family.lines, OneLine line := by
  have hstatic : OneLine "# HELP " ∧ OneLine "# TYPE " ∧ OneLine " " ∧ OneLine "" := by decide
  refine List.forall_mem_append.mpr ⟨List.forall_mem_append.mpr ⟨?_, ?_⟩, ?_⟩
  · simp only [List.mem_cons, List.not_mem_nil, or_false, forall_eq_or_imp, forall_eq,
      oneLine_append_iff]
    exact ⟨⟨⟨⟨hstatic.1, hhead.1⟩, hstatic.2.2.1⟩, hhead.2.1⟩,
      ⟨⟨hstatic.2.1, hhead.1⟩, hstatic.2.2.1⟩, hhead.2.2⟩
  · rw [List.forall_mem_map]
    exact fun sample hsample => (hplain sample hsample).oneLine hhead.1
  · simpa using hstatic.2.2.2

end Families

/-! ### The result -/

/-- After any updates whose labels have no line feed, and no quote in a key, the export is as it should
be. -/
theorem exposes_of_plain (stats : ProcessStats) (updates : List Update)
    (h : ∀ u ∈ updates, u.Plain) : Exposes stats updates where
  oneLine := by
    have hmap : (exportMetrics stats (after updates)).toList =
        ['\n'].intercalate (((after updates).lines stats).map String.toList) :=
      String.toList_intercalate
    rw [hmap, List.splitOn_intercalate]
    · rw [List.forall_mem_map]
      refine List.forall_mem_append.mpr ⟨oneLine_headerLines stats, fun line hline => ?_⟩
      obtain ⟨family, hfamily, hline⟩ := List.mem_flatMap.mp hline
      exact Family.oneLine_lines (plain_samples h hfamily) (oneLine_head hfamily) line hline
    · rw [Registry.lines, headerLines]
      exact List.cons_ne_nil _ _
  distinct family hfamily x hx y hy heq := by
    have hplain := plain_samples h hfamily
    rw [series_inj (hplain x hx) (hplain y hy) heq]
    exact List.Perm.refl _
  shared u hu hregistered := countP_labelSets hu hregistered
  histograms hist hhist s hs := exact_after hhist hs

lemma oneLine_of_exposes {stats : ProcessStats} {updates : List Update} (h : Exposes stats updates) :
    ∀ family ∈ (after updates).families, ∀ sample ∈ family.samples,
      OneLine (sample.line family.name) := by
  intro family hfamily sample hsample
  suffices hline : (sample.line family.name).toList ∈
      (exportMetrics stats (after updates)).toList.splitOn '\n' from notMem_of_mem_splitOn hline
  rw [h.oneLine]
  refine List.mem_map_of_mem (List.mem_append_right _ (List.mem_flatMap.mpr ⟨family, hfamily, ?_⟩))
  exact List.mem_append_left _ (List.mem_append_right _ (List.mem_map_of_mem hsample))

/-- A counter with one label. -/
def vetoes (value : String) : Update where
  operation := .incCounter
  name := "ctrl_compliance_vetoes_total"
  value := (1 : ℚ)
  labels := Table.empty.put ("rule", value)

lemma plain_vetoes {value : String} (h : OneLine value) : (vetoes value).Plain := by
  have hkey : '"' ∉ "rule".toList ∧ '\n' ∉ "rule".toList := by decide
  intro _ label hlabel
  obtain rfl | ⟨hlabel, -⟩ := Table.mem_put.mp hlabel
  · exact ⟨hkey.1, hkey.2, h⟩
  · cases hlabel

theorem exposes_quoted : Exposes ⟨1024, 512, 60⟩ [vetoes "a\"b\\", vetoes "c"] := by
  refine exposes_of_plain _ _ fun u hu => ?_
  simp only [List.mem_cons, List.not_mem_nil, or_false] at hu
  obtain rfl | rfl := hu
  · exact plain_vetoes (by decide)
  · exact plain_vetoes (by decide)

/-- A line feed in a label value. -/
theorem not_exposes_lineFeed : ¬Exposes ⟨1024, 512, 60⟩ [vetoes "a\nb"] := by
  intro h
  have hfamily : ∃ family ∈ (after [vetoes "a\nb"]).families,
      family.name = "ctrl_compliance_vetoes_total" ∧
        family.samples = [⟨"", [("rule", "a\nb")], "1"⟩] := by
    have hany : (after [vetoes "a\nb"]).counters.rows.any (fun m =>
        m.name = "ctrl_compliance_vetoes_total" ∧
          m.samples = [⟨"", [("rule", "a\nb")], "1"⟩]) = true := by decide +kernel
    obtain ⟨m, hm, hsample⟩ := List.any_eq_true.mp hany
    exact ⟨⟨m.name, m.help, "counter", m.samples⟩, List.mem_append_left _
      (List.mem_append_left _ (List.mem_map.mpr ⟨m, hm, rfl⟩)), of_decide_eq_true hsample⟩
  obtain ⟨family, hfamily, hname, hsamples⟩ := hfamily
  have hline := oneLine_of_exposes h family hfamily ⟨"", [("rule", "a\nb")], "1"⟩
    (by rw [hsamples]; exact List.mem_singleton_self _)
  rw [hname] at hline
  exact absurd hline (by decide)

end Metrics

end CtrlRecovery
