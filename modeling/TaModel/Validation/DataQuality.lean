import TaModel.Features.Ta
import TaModel.Library.Tally
import Mathlib.Data.List.Sort

/-!
# The OHLCTV data-quality gate

`evaluate_silver_ohlctv_batch` of `validation/data_quality.py`: the bars of a batch that open inside
a window are counted by their open against the grid of the timeframe, and the counts are compared
with thresholds.
-/

set_option autoImplicit false

namespace TaModel.Validation

open Contracts Library Normalization

inductive GateDecision where
  | pass | fail | blocked
deriving DecidableEq

inductive MetricStatus where
  | pass | fail
deriving DecidableEq

/-- A rate of counts. -/
abbrev Rate := {q : Decimal // 0 ≤ q ∧ q ≤ 1}

/-- Thresholds of the data gate; by default nothing is tolerated. -/
structure DataQualityThresholds where
  maxMissingIntervalRate : Rate := ⟨0, Decimal.zero_mem_unit⟩
  maxGapCount : Nat := 0
  maxDuplicateRate : Rate := ⟨0, Decimal.zero_mem_unit⟩

/-- The pattern and the length of a `Timeframe`. -/
def isTimeframe (s : String) : Bool :=
  match s.toList.getLast?, s.toList.dropLast with
  | some unit, first :: rest =>
      ['m', 'h', 'd'].contains unit && (first.isDigit && first != '0') && rest.all Char.isDigit &&
        decide (s.length ≤ 8)
  | _, _ => false

abbrev Timeframe := {s : String // isTimeframe s = true}

/-- Expected scope of a quality report; the proof fields are `scope_is_consistent`. -/
structure DataQualityReportConfig where
  sourceId : String
  venueId : String
  instrumentId : String
  dataKind : MarketDataKind
  windowStart : AwareDatetime
  windowEnd : AwareDatetime
  thresholds : DataQualityThresholds := {}
  timeframe : Option Timeframe
  window_forward : windowStart < windowEnd
  timeframe_of_ohlctv : dataKind = .ohlctv → timeframe ≠ none
  no_timeframe_of_trade : dataKind = .trade → timeframe = none

/-- `ReportScope`. -/
structure ReportScope where
  sourceId : String
  venueId : String
  instrumentId : String
  dataKind : MarketDataKind
  windowStart : AwareDatetime
  windowEnd : AwareDatetime
  timeframe : Option Timeframe

/-- Completeness, gap and duplicate metrics. -/
structure OHLCTVQualityMetrics where
  expectedIntervalCount : Nat
  observedRecordCount : Nat
  uniqueIntervalCount : Nat
  missingIntervalCount : Nat
  missingIntervalRate : Rate
  gapCount : Nat
  duplicateBarCount : Nat
  duplicateRate : Rate
  completenessStatus : MetricStatus
  gapStatus : MetricStatus
  duplicateStatus : MetricStatus
  missingIntervals : List AwareDatetime
  duplicateIntervals : List AwareDatetime

/-- Fail-closed blocker of the data gate. -/
structure DataQualityBlocker where
  code : String
  severity : String := "P0"
  metric : String
  observed : Decimal
  threshold : Decimal
  message : String

/-- Data-quality report over silver bars. -/
structure HistoricalDataQualityReport where
  reportId : String
  scope : ReportScope
  decision : GateDecision
  thresholds : DataQualityThresholds
  ohlctvMetrics : OHLCTVQualityMetrics
  blockers : List DataQualityBlocker
  eventTimeFieldsUsed : List String
  ingestTimeUsedForQualityDecision : Bool := false

/-! ## The grid -/

/-- `_timeframe_to_timedelta`, in microseconds. -/
def timeframeToTimedelta (timeframe : String) : Raises Nat :=
  match timeframe.toList.getLast? with
  | none => .error "string index out of range"
  | some unit => do
      let value ← Features.parseDigits timeframe.toList.dropLast
      if unit = 'm' then return value * 60000000
      else if unit = 'h' then return value * 3600000000
      else if unit = 'd' then return value * 86400000000
      else .error "unsupported timeframe unit"

/-- `cursor + interval`. -/
def later (cursor : AwareDatetime) (interval : Nat) : AwareDatetime :=
  ⟨cursor.utc + interval, cursor.offset⟩

/-- The loop of `_expected_interval_opens`, with the last cursor. No `Timeframe` has an interval of
zero, for which the loop would not end. -/
def expectedOpensFrom (interval : Nat) (windowEnd cursor : AwareDatetime) :
    List AwareDatetime × AwareDatetime :=
  if _h : 0 < interval ∧ cursor.utc < windowEnd.utc then
    let rest := expectedOpensFrom interval windowEnd (later cursor interval)
    (cursor :: rest.1, rest.2)
  else ([], cursor)
termination_by (windowEnd.utc - cursor.utc).toNat
decreasing_by
  simp only [later]
  omega

/-- `_expected_interval_opens`. -/
def expectedIntervalOpens (windowStart windowEnd : AwareDatetime) (interval : Nat) :
    Raises (List AwareDatetime) := do
  let looped := expectedOpensFrom interval windowEnd windowStart
  require (looped.2.sameInstant windowEnd) "window must align exactly to timeframe intervals"
  require (looped.1 ≠ []) "quality window must contain at least one expected interval"
  return looped.1

/-! ## Counts -/

/-- The loop of `_count_contiguous_gaps` behind its first item. -/
def countGapsFrom (interval : Nat) : AwareDatetime → List AwareDatetime → Nat
  | _, [] => 0
  | previous, current :: rest =>
      (if current.sameInstant (later previous interval) then 0 else 1) +
        countGapsFrom interval current rest

/-- `_count_contiguous_gaps`. -/
def countContiguousGaps (interval : Nat) : List AwareDatetime → Nat
  | [] => 0
  | first :: rest => 1 + countGapsFrom interval first rest

/-- `_safe_rate` of a part of the denominator. -/
def safeRate (numerator denominator : Nat) (h : numerator ≤ denominator) : Rate :=
  if denominator = 0 then ⟨0, Decimal.zero_mem_unit⟩
  else ⟨(numerator : Decimal) / denominator, div_nonneg (Nat.cast_nonneg _) (Nat.cast_nonneg _),
    div_le_one_of_le₀ (Nat.cast_le.mpr h) (Nat.cast_nonneg _)⟩

/-- `_metric_status`. -/
def metricStatus (observed threshold : Decimal) : MetricStatus :=
  if observed ≤ threshold then .pass else .fail

section Gate

variable [Sha256]

/-- The opens of the bars that open inside the window. -/
def opensInWindow (batch : SilverNormalizationBatch) (config : DataQualityReportConfig) :
    List AwareDatetime :=
  (batch.ohlctvRecords.filter fun record =>
    decide (config.windowStart ≤ record.bar.openTs) &&
      decide (record.bar.openTs < config.windowEnd)).map fun record => record.bar.openTs

omit [Sha256] in
/-- `sum(count - 1 for count in open_counts.values() if count > 1)`. -/
def duplicateBars (openCounts : List (AwareDatetime × Nat)) : Nat :=
  ((openCounts.filter fun entry => decide (1 < entry.2)).map fun entry => entry.2 - 1).sum

omit [Sha256] in
/-- There are fewer repetitions than bars. -/
theorem duplicateBars_le (opens : List AwareDatetime) :
    duplicateBars (tally AwareDatetime.utc opens) ≤
      ((tally AwareDatetime.utc opens).map Prod.snd).sum := by
  have htally := @isTally_tally _ _ _ AwareDatetime.utc opens
  rw [duplicateBars, htally.sum_beyond_first, htally.sum_eq]
  exact Nat.sub_le _ _

omit [Sha256] in
/-- The metrics of the opens inside a window against its grid. -/
def ohlctvMetrics (opens expectedOpens : List AwareDatetime) (interval : Nat)
    (thresholds : DataQualityThresholds) : OHLCTVQualityMetrics :=
  let openCounts := tally AwareDatetime.utc opens
  let missing := expectedOpens.filter fun openTs =>
    decide (countOf AwareDatetime.utc openCounts openTs.utc = 0)
  let missingRate := safeRate missing.length expectedOpens.length (List.length_filter_le _ _)
  let duplicateRate := safeRate (duplicateBars openCounts) (openCounts.map Prod.snd).sum
    (duplicateBars_le opens)
  let gapCount := countContiguousGaps interval missing
  { expectedIntervalCount := expectedOpens.length,
    observedRecordCount := (openCounts.map Prod.snd).sum,
    uniqueIntervalCount := openCounts.length, missingIntervalCount := missing.length,
    missingIntervalRate := missingRate, gapCount := gapCount,
    duplicateBarCount := duplicateBars openCounts, duplicateRate := duplicateRate,
    completenessStatus := metricStatus missingRate thresholds.maxMissingIntervalRate,
    gapStatus := metricStatus gapCount thresholds.maxGapCount,
    duplicateStatus := metricStatus duplicateRate thresholds.maxDuplicateRate,
    missingIntervals := missing,
    duplicateIntervals :=
      ((openCounts.insertionSort fun a b => a.1.utc ≤ b.1.utc).filter
        fun entry => decide (1 < entry.2)).map Prod.fst }

omit [Sha256] in
/-- `_ohlctv_blockers`. -/
def ohlctvBlockers (metrics : OHLCTVQualityMetrics) (thresholds : DataQualityThresholds) :
    List DataQualityBlocker :=
  (if thresholds.maxMissingIntervalRate.val < metrics.missingIntervalRate.val then
    [{ code := "DQB:S2-004:MISSING_BARS", metric := "missing_interval_rate",
       observed := metrics.missingIntervalRate, threshold := thresholds.maxMissingIntervalRate,
       message := "Missing OHLCTV intervals breach configured completeness threshold." }]
  else []) ++
  (if thresholds.maxGapCount < metrics.gapCount then
    [{ code := "DQB:S2-004:GAPS", metric := "gap_count", observed := metrics.gapCount,
       threshold := thresholds.maxGapCount,
       message := "OHLCTV event-time gaps breach configured threshold." }]
  else []) ++
  if thresholds.maxDuplicateRate.val < metrics.duplicateRate.val then
    [{ code := "DQB:S2-004:DUPLICATE_BARS", metric := "duplicate_rate",
       observed := metrics.duplicateRate, threshold := thresholds.maxDuplicateRate,
       message := "Duplicate OHLCTV bars breach configured duplicate threshold." }]
  else []

omit [Sha256] in
/-- `_decision`. -/
def decisionOf (blockers : List DataQualityBlocker) : GateDecision :=
  if blockers = [] then .pass else .blocked

/-- `_validate_batch_scope`. -/
def validateBatchScope (batch : SilverNormalizationBatch) (config : DataQualityReportConfig)
    (expectedKind : MarketDataKind) : Raises Unit := do
  require (config.dataKind = expectedKind ∧ batch.dataKind = expectedKind)
    "batch and report config must match expected data_kind"
  require (batch.sourceId = config.sourceId) "batch source_id must match report scope"
  require (batch.venueId = config.venueId) "batch venue_id must match report scope"
  require (batch.instrumentId = config.instrumentId)
    "batch instrument_id must match report scope"
  require (batch.timeframe = config.timeframe.map Subtype.val)
    "batch timeframe must match report scope"

/-- `_report_id`. -/
def reportId (config : DataQualityReportConfig) : String :=
  stableId "DQREPORT:S2-004" (.record
    [ ("data_kind", toPayload config.dataKind.value),
      ("instrument_id", toPayload config.instrumentId), ("source_id", toPayload config.sourceId),
      ("timeframe", toPayload (config.timeframe.map Subtype.val)),
      ("venue_id", toPayload config.venueId), ("window_end", toPayload config.windowEnd),
      ("window_start", toPayload config.windowStart) ])

omit [Sha256] in
/-- `_scope`. -/
def scopeOf (config : DataQualityReportConfig) : ReportScope where
  sourceId := config.sourceId
  venueId := config.venueId
  instrumentId := config.instrumentId
  dataKind := config.dataKind
  windowStart := config.windowStart
  windowEnd := config.windowEnd
  timeframe := config.timeframe

/-- The report of some metrics. -/
def reportOf (config : DataQualityReportConfig) (metrics : OHLCTVQualityMetrics) :
    HistoricalDataQualityReport :=
  let blockers := ohlctvBlockers metrics config.thresholds
  { reportId := reportId config, scope := scopeOf config, decision := decisionOf blockers,
    thresholds := config.thresholds, ohlctvMetrics := metrics, blockers := blockers,
    eventTimeFieldsUsed := ["open_ts", "close_ts"] }

/-- `evaluate_silver_ohlctv_batch`. -/
def evaluateSilverOhlctvBatch (batch : SilverNormalizationBatch)
    (config : DataQualityReportConfig) : Raises HistoricalDataQualityReport := do
  validateBatchScope batch config .ohlctv
  match batch.timeframe with
  | none => .error "OHLCTV batch timeframe is required"
  | some timeframe => do
      let interval ← timeframeToTimedelta timeframe
      let expectedOpens ← expectedIntervalOpens config.windowStart config.windowEnd interval
      return reportOf config (ohlctvMetrics (opensInWindow batch config) expectedOpens interval
        config.thresholds)

end Gate

end TaModel.Validation
