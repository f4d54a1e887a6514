import TaModel.Contracts.Baselines
import TaModel.Library.StateFold
import Mathlib.Algebra.Order.BigOperators.Group.List
import Mathlib.Algebra.Order.Field.Rat
import Mathlib.Algebra.Order.Group.Abs
import Mathlib.Tactic.NormNum

/-!
# Deterministic baselines

`run_baseline` of `baselines/deterministic.py`: five policies over the rows of a dataset snapshot.
Cash never invests. Buy-and-hold always does, and finds the first row of an instrument in a split by
its `row_id`. The basket and the two signal policies carry the previous weight of an instrument in a
split from row to row.
-/

set_option autoImplicit false

namespace TaModel.Baselines

open Contracts Library

/-- `Signal`: trade, or a reason not to. -/
structure Signal where
  trade : Bool
  noTradeReason : Option String
deriving DecidableEq

/-- `previous_weights`, with the default of `.get`. -/
abbrev WeightBook := DatasetSplit × String → Decimal

section Rows

variable [Sha256]

/-- `_validate_row_order`. -/
def validateRowOrder : List DatasetRow → Raises Unit
  | previous :: row :: rest => do
      require (¬ row.featureTs < previous.featureTs)
        "dataset rows must be chronological by feature_ts"
      validateRowOrder (row :: rest)
  | _ => .ok ()

/-- `_numeric_feature`. -/
def numericFeature (row : DatasetRow) (featureName : String) : Option Decimal :=
  (row.featureValues.get featureName).join

/-- `_realized_return`. -/
def realizedReturn (row : DatasetRow) (labelMethod : LabelMethod) : Raises Decimal :=
  match labelMethod with
  | .futureReturn => .ok row.labelValue
  | .futureValue =>
      match numericFeature row "close" with
      | none => .error "close feature is required for future-value labels"
      | some close =>
          if close ≤ 0 then .error "close feature must be positive when present"
          else .ok (row.labelValue / close - 1)

/-- `_cost_rate`: the first cost feature the row has. -/
def costRate (row : DatasetRow) : List String → Raises NonNegativeDecimal
  | [] => .ok ⟨0, Decimal.zero_le_zero⟩
  | featureName :: rest =>
      match numericFeature row featureName with
      | none => costRate row rest
      | some value =>
          if hvalue : value < 0 then .error "cost feature must be non-negative"
          else if featureName.endsWith "_bps" then
            .ok ⟨value / 10000, div_nonneg (not_lt.mp hvalue) (by norm_num)⟩
          else .ok ⟨value, not_lt.mp hvalue⟩

/-- `_build_row`. -/
def buildRow (row : DatasetRow) (kind : BaselineKind) (targetWeight realizedReturn : Decimal)
    (turnover costRate : NonNegativeDecimal) (noTradeReason : Option String) : BaselineRow where
  baselineRowId := buildBaselineRowId row.rowId row.split row.instrumentId row.venueId
    row.featureTs kind targetWeight |targetWeight| realizedReturn turnover.val costRate.val
    (turnover.val * costRate.val)
    (targetWeight * realizedReturn - turnover.val * costRate.val) noTradeReason
  datasetRowId := row.rowId
  split := row.split
  instrumentId := row.instrumentId
  venueId := row.venueId
  featureTs := row.featureTs
  baselineKind := kind
  targetWeight := targetWeight
  exposure := |targetWeight|
  realizedReturn := realizedReturn
  turnover := turnover.val
  costRate := costRate
  costReturn := ⟨turnover.val * costRate.val, mul_nonneg turnover.property costRate.property⟩
  netReturn := targetWeight * realizedReturn - turnover.val * costRate.val
  noTradeReason := noTradeReason
  id_is_deterministic := rfl

/-- `_cash_row`. -/
def cashRow (row : DatasetRow) : BaselineRow :=
  buildRow row .cash 0 0 ⟨0, Decimal.zero_le_zero⟩ ⟨0, Decimal.zero_le_zero⟩ (some "cash_no_trade_baseline")

/-- `_invested_row`. -/
def investedRow (row : DatasetRow) (kind : BaselineKind) (targetWeight previousWeight : Decimal)
    (config : BaselineConfig) (labelMethod : LabelMethod) (noTradeReason : Option String) :
    Raises BaselineRow := do
  let rate ← costRate row config.costFeaturePreference
  let realized ← realizedReturn row labelMethod
  return buildRow row kind targetWeight realized
    ⟨|targetWeight - previousWeight|, abs_nonneg (targetWeight - previousWeight)⟩ rate
    noTradeReason

/-! ## Buy and hold -/

/-- `_is_first_instrument_split_row`. -/
def isFirstInstrumentSplitRow (rows : List DatasetRow) (candidate : DatasetRow) : Raises Bool :=
  match rows.find? fun row =>
      decide (row.split = candidate.split) && row.instrumentId == candidate.instrumentId with
  | some row => .ok (row.rowId == candidate.rowId)
  | none => .error "candidate row not present in snapshot"

def buyAndHoldRow (snapshot : DatasetSnapshot) (config : BaselineConfig) (row : DatasetRow) :
    Raises BaselineRow := do
  let first ← isFirstInstrumentSplitRow snapshot.rows row
  investedRow row config.kind 1 (if first then 0 else 1) config snapshot.labelRule.method none

/-! ## Rows that carry the previous weight -/

/-- One turn of the loop of `_equal_weight_rows` and `_signal_rows`: `target` gives the weight of a
row and the reason not to trade it. -/
def carryStep (kind : BaselineKind) (config : BaselineConfig) (labelMethod : LabelMethod)
    (target : DatasetRow → Raises (Decimal × Option String)) (previousWeights : WeightBook)
    (row : DatasetRow) : Raises (BaselineRow × WeightBook) := do
  let weight ← target row
  let output ← investedRow row kind weight.1 (previousWeights (row.split, row.instrumentId))
    config labelMethod weight.2
  return (output, Function.update previousWeights (row.split, row.instrumentId) weight.1)

/-- The loop, from an empty dictionary. -/
def carriedRows (kind : BaselineKind) (config : BaselineConfig) (labelMethod : LabelMethod)
    (target : DatasetRow → Raises (Decimal × Option String)) (rows : List DatasetRow) :
    Raises (List BaselineRow) :=
  Prod.fst <$> runSteps (carryStep kind config labelMethod target) (fun _ => 0) rows

/-- `len(peers)`: the rows of the split with the same text of `feature_ts`. -/
def peerCount (rows : List DatasetRow) (row : DatasetRow) : Nat :=
  rows.countP fun peer =>
    decide (peer.split = row.split) && peer.featureTs.isoformat == row.featureTs.isoformat

/-- `_equal_weight_rows`. -/
def equalWeightRows (snapshot : DatasetSnapshot) (config : BaselineConfig) :
    Raises (List BaselineRow) :=
  carriedRows .equalWeightBasket config snapshot.labelRule.method
    (fun row => .ok (1 / peerCount snapshot.rows row, none)) snapshot.rows

/-- The weight of a signal, with the bounds check of `_signal_rows`. -/
def signalWeight (policy : DatasetRow → Signal) (row : DatasetRow) :
    Raises (Decimal × Option String) := do
  let signal := policy row
  let targetWeight : Decimal := if signal.trade then 1 else 0
  require (¬ (targetWeight < 0 ∨ 1 < targetWeight)) "target weight must be long-only in [0, 1]"
  return (targetWeight, signal.noTradeReason)

/-- `_signal_rows`. -/
def signalRows (snapshot : DatasetSnapshot) (config : BaselineConfig)
    (policy : DatasetRow → Signal) : Raises (List BaselineRow) :=
  carriedRows config.kind config snapshot.labelRule.method (signalWeight policy) snapshot.rows

/-! ## Signals -/

/-- `_first_numeric_feature`. -/
def firstNumericFeature (row : DatasetRow) (featureNames : List String) :
    Option (String × Decimal) :=
  featureNames.findSome? fun featureName =>
    (numericFeature row featureName).map fun value => (featureName, value)

/-- `_ta_signal`. -/
def taSignal (row : DatasetRow) : Signal :=
  match firstNumericFeature row ["momentum_3", "one_bar_return"] with
  | none => ⟨false, some "ta_missing_signal_feature"⟩
  | some (_, value) =>
      if value ≤ 0 then ⟨false, some "ta_non_positive_signal"⟩ else ⟨true, none⟩

/-- `_fit_simple_ml`. -/
def fitSimpleMl (snapshot : DatasetSnapshot) : Raises SimpleMLModel := do
  let trainRows := snapshot.rows.filter fun row => row.split = .train
  require (trainRows ≠ []) "simple ML baseline requires train split rows"
  let usableRows := trainRows.filterMap fun row =>
    (numericFeature row "one_bar_return").map fun value => (row, value)
  require (usableRows ≠ []) "simple ML baseline requires train split numeric features"
  let trainReturns ← usableRows.mapM fun entry =>
    realizedReturn entry.1 snapshot.labelRule.method
  return {
    featureName := "one_bar_return"
    threshold := (usableRows.map Prod.snd).sum / usableRows.length
    positiveLabelMean := trainReturns.sum / trainReturns.length }

/-- `_simple_ml_signal`. -/
def simpleMlSignal (model : SimpleMLModel) (row : DatasetRow) : Signal :=
  match numericFeature row model.featureName with
  | none => ⟨false, some "ml_missing_signal_feature"⟩
  | some value =>
      if model.positiveLabelMean ≤ 0 then ⟨false, some "ml_train_mean_not_positive"⟩
      else if value ≤ model.threshold then ⟨false, some "ml_below_train_threshold"⟩
      else ⟨true, none⟩

/-! ## Summaries and report -/

/-- The summary of one split; a sum of turnovers below zero is refused by its field. An empty split
has zeros throughout. -/
def splitSummary (rows : List BaselineRow) (split : DatasetSplit) : Raises BaselineSplitSummary :=
  let splitRows := rows.filter fun row => row.split = split
  if hturnover : 0 ≤ (splitRows.map BaselineRow.turnover).sum then
    .ok
      { split := split
        rowCount := splitRows.length
        grossReturnSum := (splitRows.map fun row => row.targetWeight * row.realizedReturn).sum
        netReturnSum := (splitRows.map BaselineRow.netReturn).sum
        turnoverSum := ⟨(splitRows.map BaselineRow.turnover).sum, hturnover⟩
        costReturnSum := ⟨(splitRows.map fun row => row.costReturn.val).sum, by
          refine List.sum_nonneg fun cost hcost => ?_
          obtain ⟨row, -, rfl⟩ := List.mem_map.mp hcost
          exact row.costReturn.property⟩
        averageExposure := (splitRows.map BaselineRow.exposure).sum / splitRows.length }
  else .error "Input should be greater than or equal to 0"

/-- `_summaries`. -/
def summaries (rows : List BaselineRow) : Raises (List BaselineSplitSummary) :=
  [DatasetSplit.train, .validation, .test].mapM (splitSummary rows)

/-- The rows of a baseline and what its lineage note says was learned. -/
def baselineRows (snapshot : DatasetSnapshot) (config : BaselineConfig) :
    Raises (List BaselineRow × Option SimpleMLModel) :=
  match config.kind with
  | .cash => .ok (snapshot.rows.map cashRow, none)
  | .buyAndHold => do
      let rows ← snapshot.rows.mapM (buyAndHoldRow snapshot config)
      return (rows, none)
  | .equalWeightBasket => do
      let rows ← equalWeightRows snapshot config
      return (rows, none)
  | .taHeuristic => do
      let rows ← signalRows snapshot config taSignal
      return (rows, none)
  | .simpleMl => do
      let model ← fitSimpleMl snapshot
      let rows ← signalRows snapshot config (simpleMlSignal model)
      return (rows, some model)

/-- `run_baseline`. -/
def runBaseline (snapshot : DatasetSnapshot) (config : BaselineConfig) : Raises BaselineReport := do
  require (snapshot.rows ≠ []) "at least one dataset row is required"
  validateRowOrder snapshot.rows
  let result ← baselineRows snapshot config
  let summariesBySplit ← summaries result.1
  let costAssumption : CostAssumption :=
    ⟨config.costFeaturePreference, config.parameters, result.2⟩
  return {
    baselineReportId := buildBaselineReportId (buildBaselineReportHash snapshot.datasetSnapshotId
      snapshot.datasetHash config result.1 summariesBySplit costAssumption)
    baselineReportHash := buildBaselineReportHash snapshot.datasetSnapshotId
      snapshot.datasetHash config result.1 summariesBySplit costAssumption
    datasetSnapshotId := snapshot.datasetSnapshotId
    datasetHash := snapshot.datasetHash
    baselineConfig := config
    rowIds := result.1.map BaselineRow.baselineRowId
    rows := result.1
    summariesBySplit := summariesBySplit
    costAssumption := costAssumption
    row_ids_match := rfl
    hash_is_deterministic := rfl
    id_is_deterministic := rfl }

end Rows

end TaModel.Baselines
