import TaModel.Contracts.Datasets

/-!
# Baseline contracts

Configuration, rows, split summaries and report of a deterministic baseline
(`contracts/baselines.py`). The text of `cost_assumption` is kept as the values it is formatted
from.
-/

set_option autoImplicit false

namespace TaModel.Contracts

inductive BaselineKind where
  | cash | buyAndHold | equalWeightBasket | taHeuristic | simpleMl
deriving DecidableEq

def BaselineKind.value : BaselineKind → String
  | .cash => "cash_no_trade"
  | .buyAndHold => "buy_and_hold"
  | .equalWeightBasket => "equal_weight_basket"
  | .taHeuristic => "ta_heuristic"
  | .simpleMl => "simple_ml"

instance : ToPayload BaselineKind := ⟨fun x => .text x.value⟩

/-- What the learned baseline fits on the train split. -/
structure SimpleMLModel where
  featureName : String
  threshold : Decimal
  positiveLabelMean : Decimal
deriving DecidableEq

instance : ToPayload SimpleMLModel := ⟨fun m =>
  .record [("feature", toPayload m.featureName), ("threshold", toPayload m.threshold),
    ("train_label_mean", toPayload m.positiveLabelMean)]⟩

/-- The values in the text of `cost_assumption`. -/
structure CostAssumption where
  costFeaturePreference : List String
  parameters : List String
  lineage : Option SimpleMLModel

instance : ToPayload CostAssumption := ⟨fun a =>
  .list [toPayload a.costFeaturePreference, toPayload a.parameters, toPayload a.lineage]⟩

section Identity

variable [Sha256]

/-- `build_baseline_config_hash`. -/
def buildBaselineConfigHash (name : String) (kind : BaselineKind)
    (costFeaturePreference parameters : List String) (seed : Int) : String :=
  hash (.record
    [ ("cost_feature_preference", toPayload costFeaturePreference), ("kind", toPayload kind),
      ("name", toPayload name), ("parameters", toPayload parameters), ("seed", toPayload seed) ])

/-- `build_baseline_config_id`. -/
def buildBaselineConfigId (baselineConfigHash : String) : String :=
  stableIdOfHash "BASELINECONFIG" "baseline_config_hash" baselineConfigHash

/-- Baseline configuration; the proof fields are `config_identity_is_deterministic`. -/
structure BaselineConfig where
  baselineConfigId : String
  baselineConfigHash : String
  name : String
  kind : BaselineKind
  costFeaturePreference : List String
  parameters : List String
  seed : Int
  hash_is_deterministic : baselineConfigHash =
    buildBaselineConfigHash name kind costFeaturePreference parameters seed
  id_is_deterministic : baselineConfigId = buildBaselineConfigId baselineConfigHash

/-- `build_baseline_config`. -/
def buildBaselineConfig (name : String) (kind : BaselineKind)
    (costFeaturePreference parameters : List String) (seed : Int) : BaselineConfig where
  baselineConfigId := buildBaselineConfigId
    (buildBaselineConfigHash name kind costFeaturePreference parameters seed)
  baselineConfigHash := buildBaselineConfigHash name kind costFeaturePreference parameters seed
  name := name
  kind := kind
  costFeaturePreference := costFeaturePreference
  parameters := parameters
  seed := seed
  hash_is_deterministic := rfl
  id_is_deterministic := rfl

instance : ToPayload BaselineConfig := ⟨fun c =>
  .record
    [ ("baseline_config_hash", toPayload c.baselineConfigHash),
      ("baseline_config_id", toPayload c.baselineConfigId),
      ("cost_feature_preference", toPayload c.costFeaturePreference), ("kind", toPayload c.kind),
      ("name", toPayload c.name), ("parameters", toPayload c.parameters),
      ("seed", toPayload c.seed) ]⟩

/-- `build_baseline_row_id`. -/
def buildBaselineRowId (datasetRowId : String) (split : DatasetSplit)
    (instrumentId venueId : String) (featureTs : AwareDatetime) (baselineKind : BaselineKind)
    (targetWeight exposure realizedReturn turnover costRate costReturn netReturn : Decimal)
    (noTradeReason : Option String) : String :=
  stableId "BASELINEROW" (.record
    [ ("baseline_kind", toPayload baselineKind), ("cost_rate", toPayload costRate),
      ("cost_return", toPayload costReturn), ("dataset_row_id", toPayload datasetRowId),
      ("exposure", toPayload exposure), ("feature_ts", toPayload featureTs),
      ("instrument_id", toPayload instrumentId), ("net_return", toPayload netReturn),
      ("no_trade_reason", toPayload noTradeReason),
      ("realized_return", toPayload realizedReturn), ("split", toPayload split),
      ("target_weight", toPayload targetWeight), ("turnover", toPayload turnover),
      ("venue_id", toPayload venueId) ])

/-- One output row; the proof field is `row_identity_is_deterministic`. -/
structure BaselineRow where
  baselineRowId : String
  datasetRowId : String
  split : DatasetSplit
  instrumentId : String
  venueId : String
  featureTs : AwareDatetime
  baselineKind : BaselineKind
  targetWeight : Decimal
  exposure : Decimal
  realizedReturn : Decimal
  turnover : Decimal
  costRate : NonNegativeDecimal
  costReturn : NonNegativeDecimal
  netReturn : Decimal
  noTradeReason : Option String
  id_is_deterministic : baselineRowId = buildBaselineRowId datasetRowId split instrumentId venueId
    featureTs baselineKind targetWeight exposure realizedReturn turnover costRate.val
    costReturn.val netReturn noTradeReason

instance : ToPayload BaselineRow := ⟨fun r =>
  .record
    [ ("baseline_kind", toPayload r.baselineKind), ("baseline_row_id", toPayload r.baselineRowId),
      ("cost_rate", toPayload r.costRate), ("cost_return", toPayload r.costReturn),
      ("dataset_row_id", toPayload r.datasetRowId), ("exposure", toPayload r.exposure),
      ("feature_ts", toPayload r.featureTs), ("instrument_id", toPayload r.instrumentId),
      ("net_return", toPayload r.netReturn), ("no_trade_reason", toPayload r.noTradeReason),
      ("realized_return", toPayload r.realizedReturn), ("split", toPayload r.split),
      ("target_weight", toPayload r.targetWeight), ("turnover", toPayload r.turnover),
      ("venue_id", toPayload r.venueId) ]⟩

/-- Sums over the rows of one split. -/
structure BaselineSplitSummary where
  split : DatasetSplit
  rowCount : Nat
  grossReturnSum : Decimal
  netReturnSum : Decimal
  turnoverSum : NonNegativeDecimal
  costReturnSum : NonNegativeDecimal
  averageExposure : Decimal
deriving DecidableEq

instance : ToPayload BaselineSplitSummary := ⟨fun s =>
  .record
    [ ("average_exposure", toPayload s.averageExposure),
      ("cost_return_sum", toPayload s.costReturnSum),
      ("gross_return_sum", toPayload s.grossReturnSum),
      ("net_return_sum", toPayload s.netReturnSum), ("row_count", toPayload s.rowCount),
      ("split", toPayload s.split), ("turnover_sum", toPayload s.turnoverSum) ]⟩

/-- `build_baseline_report_hash`. -/
def buildBaselineReportHash (datasetSnapshotId datasetHash : String)
    (baselineConfig : BaselineConfig) (rows : List BaselineRow)
    (summariesBySplit : List BaselineSplitSummary) (costAssumption : CostAssumption) : String :=
  hash (.record
    [ ("baseline_config", toPayload baselineConfig), ("cost_assumption", toPayload costAssumption),
      ("dataset_hash", toPayload datasetHash),
      ("dataset_snapshot_id", toPayload datasetSnapshotId), ("rows", toPayload rows),
      ("summaries_by_split", toPayload summariesBySplit) ])

/-- `build_baseline_report_id`. -/
def buildBaselineReportId (baselineReportHash : String) : String :=
  stableIdOfHash "BASELINEREPORT" "baseline_report_hash" baselineReportHash

/-- Baseline run artifact; the proof fields are `report_identity_is_deterministic`. -/
structure BaselineReport where
  baselineReportId : String
  baselineReportHash : String
  datasetSnapshotId : String
  datasetHash : String
  baselineConfig : BaselineConfig
  rowIds : List String
  rows : List BaselineRow
  summariesBySplit : List BaselineSplitSummary
  costAssumption : CostAssumption
  row_ids_match : rowIds = rows.map BaselineRow.baselineRowId
  hash_is_deterministic : baselineReportHash = buildBaselineReportHash datasetSnapshotId
    datasetHash baselineConfig rows summariesBySplit costAssumption
  id_is_deterministic : baselineReportId = buildBaselineReportId baselineReportHash

end Identity

end TaModel.Contracts
