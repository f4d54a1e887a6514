import TaModel.Contracts.Features
import TaModel.Contracts.Forecasts
import Mathlib.Data.List.Dedup
import Mathlib.Data.List.Sort
import Mathlib.Data.String.Basic

/-!
# Dataset contracts

The chronological dataset snapshot of `contracts/datasets.py`: label observations and rules, split
windows, rows and the snapshot, each identified by a digest of its content.
-/

set_option autoImplicit false

namespace TaModel.Contracts

/-- Supported label computations. -/
inductive LabelMethod where
  | futureValue | futureReturn
deriving DecidableEq

def LabelMethod.value : LabelMethod → String
  | .futureValue => "future_value"
  | .futureReturn => "future_return"

instance : ToPayload LabelMethod := ⟨fun x => .text x.value⟩

/-- A `CanonicalId` that is not a digest. -/
abbrev CanonicalId := {s : String // isCanonicalId s = true}

/-- Half-open split window; the proof field is `window_is_forward`. -/
structure ChronologicalSplitWindow where
  split : DatasetSplit
  startTs : AwareDatetime
  endTs : AwareDatetime
  forward : startTs < endTs

namespace ChronologicalSplitWindow

/-- `window.start_ts <= feature_ts < window.end_ts`. -/
def contains (window : ChronologicalSplitWindow) (featureTs : AwareDatetime) : Bool :=
  decide (window.startTs ≤ featureTs) && decide (featureTs < window.endTs)

instance : ToPayload ChronologicalSplitWindow := ⟨fun w =>
  .record [("end_ts", toPayload w.endTs), ("split", toPayload w.split),
    ("start_ts", toPayload w.startTs)]⟩

end ChronologicalSplitWindow

section Identity

variable [Sha256]

/-- `build_label_observation_id`. -/
def buildLabelObservationId (instrumentId venueId : String) (eventTs : AwareDatetime)
    (value : Decimal) (sourceLineageId : String) : String :=
  stableId "LABELOBS" (.record
    [ ("event_ts", toPayload eventTs), ("instrument_id", toPayload instrumentId),
      ("source_lineage_id", toPayload sourceLineageId), ("value", toPayload value),
      ("venue_id", toPayload venueId) ])

/-- Event-time label source; the proof field is `observation_id_is_deterministic`. -/
structure LabelObservation where
  observationId : String
  instrumentId : String
  venueId : String
  eventTs : AwareDatetime
  value : Decimal
  sourceLineageId : String
  id_is_deterministic : observationId =
    buildLabelObservationId instrumentId venueId eventTs value sourceLineageId

theorem LabelObservation.id_canonical (o : LabelObservation) :
    isCanonicalId o.observationId = true := by
  rw [o.id_is_deterministic]
  exact isCanonicalId_stableId _ _ (by decide) (by decide)

/-- The observation with another value, under the id of that value. -/
def LabelObservation.withValue (o : LabelObservation) (value : Decimal) : LabelObservation where
  observationId :=
    buildLabelObservationId o.instrumentId o.venueId o.eventTs value o.sourceLineageId
  instrumentId := o.instrumentId
  venueId := o.venueId
  eventTs := o.eventTs
  value := value
  sourceLineageId := o.sourceLineageId
  id_is_deterministic := rfl

/-- `build_label_rule_id`. -/
def buildLabelRuleId (name : String) (horizonSeconds : Nat) (method : LabelMethod) : String :=
  stableId "LABELRULE" (.record
    [("horizon_seconds", toPayload horizonSeconds), ("method", toPayload method),
      ("name", toPayload name)])

/-- Supervised label rule; the proof fields are the bound of the horizon and
`label_rule_id_is_deterministic`. -/
structure LabelRule where
  labelRuleId : String
  name : String
  horizonSeconds : Nat
  method : LabelMethod
  horizon_pos : 0 < horizonSeconds
  id_is_deterministic : labelRuleId = buildLabelRuleId name horizonSeconds method

theorem LabelRule.id_canonical (r : LabelRule) : isCanonicalId r.labelRuleId = true := by
  rw [r.id_is_deterministic]
  exact isCanonicalId_stableId _ _ (by decide) (by decide)

instance : ToPayload LabelRule := ⟨fun r =>
  .record [("horizon_seconds", toPayload r.horizonSeconds),
    ("label_rule_id", toPayload r.labelRuleId), ("method", toPayload r.method),
    ("name", toPayload r.name)]⟩

/-- `feature_ts + timedelta(seconds=horizon_seconds)`; the UTC offset of a timestamp is fixed. -/
def LabelRule.labelTs (rule : LabelRule) (featureTs : AwareDatetime) : AwareDatetime :=
  ⟨featureTs.utc + rule.horizonSeconds * 1000000, featureTs.offset⟩

/-- `build_dataset_row_id`. -/
def buildDatasetRowId (featureVectorId instrumentId venueId : String) (featureTs : AwareDatetime)
    (featureVersion : String) (featureValues : StringDict FeatureValue)
    (featureInputSnapshotId : String) (split : DatasetSplit) (labelRuleId : String)
    (labelValue : Decimal) (labelTs : AwareDatetime) (labelObservationId : String)
    (sourceFeatureSnapshotIds : List CanonicalId) : String :=
  stableId "DATASETROW" (.record
    [ ("feature_input_snapshot_id", toPayload featureInputSnapshotId),
      ("feature_ts", toPayload featureTs), ("feature_values", toPayload featureValues),
      ("feature_vector_id", toPayload featureVectorId),
      ("feature_version", toPayload featureVersion), ("instrument_id", toPayload instrumentId),
      ("label_observation_id", toPayload labelObservationId),
      ("label_rule_id", toPayload labelRuleId), ("label_ts", toPayload labelTs),
      ("label_value", toPayload labelValue),
      ("source_feature_snapshot_ids", toPayload (sourceFeatureSnapshotIds.map Subtype.val)),
      ("split", toPayload split), ("venue_id", toPayload venueId) ])

/-- One row with its label; the proof fields are the patterns of its ids and of its version, the
minimal length of `feature_values` and `row_is_deterministic_and_pit_safe`. -/
structure DatasetRow where
  rowId : String
  featureVectorId : String
  instrumentId : String
  venueId : String
  featureTs : AwareDatetime
  featureVersion : String
  featureValues : StringDict FeatureValue
  featureInputSnapshotId : String
  split : DatasetSplit
  labelRuleId : String
  labelValue : Decimal
  labelTs : AwareDatetime
  labelObservationId : String
  sourceFeatureSnapshotIds : List CanonicalId
  ids_canonical : ∀ id ∈ [featureVectorId, instrumentId, venueId, featureInputSnapshotId,
    labelRuleId, labelObservationId], isCanonicalId id = true
  version_nonempty : isNonEmptyString featureVersion = true
  values_nonempty : featureValues.entries ≠ []
  label_after_feature : featureTs < labelTs
  id_is_deterministic : rowId = buildDatasetRowId featureVectorId instrumentId venueId featureTs
    featureVersion featureValues featureInputSnapshotId split labelRuleId labelValue labelTs
    labelObservationId sourceFeatureSnapshotIds

instance : ToPayload DatasetRow := ⟨fun r =>
  .record
    [ ("feature_input_snapshot_id", toPayload r.featureInputSnapshotId),
      ("feature_ts", toPayload r.featureTs), ("feature_values", toPayload r.featureValues),
      ("feature_vector_id", toPayload r.featureVectorId),
      ("feature_version", toPayload r.featureVersion), ("instrument_id", toPayload r.instrumentId),
      ("label_observation_id", toPayload r.labelObservationId),
      ("label_rule_id", toPayload r.labelRuleId), ("label_ts", toPayload r.labelTs),
      ("label_value", toPayload r.labelValue), ("row_id", toPayload r.rowId),
      ("source_feature_snapshot_ids", toPayload (r.sourceFeatureSnapshotIds.map Subtype.val)),
      ("split", toPayload r.split), ("venue_id", toPayload r.venueId) ]⟩

/-- `row_from_feature_vector`. -/
def rowFromFeatureVector (featureVector : FeatureVector) (split : DatasetSplit)
    (labelRule : LabelRule) (labelValue : Decimal) (labelTs : AwareDatetime)
    (labelObservationId : String) (sourceFeatureSnapshotIds : List CanonicalId) :
    Raises DatasetRow :=
  if hids : ∀ id ∈ [featureVector.featureVectorId, featureVector.instrumentId,
      featureVector.venueId, featureVector.inputSnapshotId, labelRule.labelRuleId,
      labelObservationId], isCanonicalId id = true then
    if hversion : isNonEmptyString featureVector.featureVersion = true then
      if hafter : featureVector.featureTs < labelTs then
        .ok
          { rowId := buildDatasetRowId featureVector.featureVectorId featureVector.instrumentId
              featureVector.venueId featureVector.featureTs featureVector.featureVersion
              featureVector.values featureVector.inputSnapshotId split labelRule.labelRuleId
              labelValue labelTs labelObservationId sourceFeatureSnapshotIds,
            featureVectorId := featureVector.featureVectorId,
            instrumentId := featureVector.instrumentId, venueId := featureVector.venueId,
            featureTs := featureVector.featureTs, featureVersion := featureVector.featureVersion,
            featureValues := featureVector.values,
            featureInputSnapshotId := featureVector.inputSnapshotId, split := split,
            labelRuleId := labelRule.labelRuleId, labelValue := labelValue, labelTs := labelTs,
            labelObservationId := labelObservationId,
            sourceFeatureSnapshotIds := sourceFeatureSnapshotIds, ids_canonical := hids,
            version_nonempty := hversion, values_nonempty := featureVector.values_nonempty,
            label_after_feature := hafter, id_is_deterministic := rfl }
      else .error "label_ts must be after feature_ts"
    else .error "String should have at least 1 character"
  else .error "String should match pattern '^[A-Z0-9][A-Z0-9._:-]*$'"

/-- `build_dataset_hash`. -/
def buildDatasetHash (rows : List DatasetRow) (splitWindows : List ChronologicalSplitWindow)
    (labelRule : LabelRule) (sourceFeatureSnapshotIds : List CanonicalId) : String :=
  hash (.record
    [ ("label_rule", toPayload labelRule), ("rows", toPayload rows),
      ("source_feature_snapshot_ids", toPayload (sourceFeatureSnapshotIds.map Subtype.val)),
      ("split_windows", toPayload splitWindows) ])

/-- `build_dataset_snapshot_id`. -/
def buildDatasetSnapshotId (datasetHash : String) : String :=
  stableIdOfHash "DATASETSNAPSHOT" "dataset_hash" datasetHash

/-- `DatasetSnapshot` before its validators. -/
structure DatasetSnapshot where
  datasetSnapshotId : String
  datasetHash : String
  featureVersions : List String
  featureVectorIds : List String
  sourceFeatureSnapshotIds : List CanonicalId
  splitWindows : List ChronologicalSplitWindow
  labelRule : LabelRule
  rowIds : List String
  rowCountsBySplit : DatasetSplit → Nat
  rows : List DatasetRow

/-- `tuple(sorted({row.feature_version for row in rows}))`. -/
def featureVersionsOf (rows : List DatasetRow) : List String :=
  ((rows.map DatasetRow.featureVersion).dedup).insertionSort (· ≤ ·)

/-- The number of rows of each split. -/
def rowCounts (rows : List DatasetRow) (split : DatasetSplit) : Nat :=
  rows.countP fun row => decide (row.split = split)

namespace DatasetSnapshot

/-- The windows that contain a row's `feature_ts`. -/
def matchingWindows (windows : List ChronologicalSplitWindow) (featureTs : AwareDatetime) :
    List ChronologicalSplitWindow :=
  windows.filter fun window => window.contains featureTs

/-- The loop of `snapshot_is_deterministic` over the rows. -/
def validateRow (windows : List ChronologicalSplitWindow) (row : DatasetRow) : Raises Unit :=
  match matchingWindows windows row.featureTs with
  | [window] => require (row.split = window.split) "row split must match split window for feature_ts"
  | _ => .error "row feature_ts must match exactly one split window"

/-- `snapshot_is_deterministic`. -/
def validate (s : DatasetSnapshot) : Raises Unit := do
  require (isHexDigest s.datasetHash) "String should match pattern '^[a-f0-9]\x7b64\x7d$'"
  require (s.rowIds = s.rows.map DatasetRow.rowId) "row_ids must match rows"
  require (s.featureVectorIds = s.rows.map DatasetRow.featureVectorId)
    "feature_vector_ids must match rows"
  require (s.featureVersions = featureVersionsOf s.rows) "feature_versions must match rows"
  s.rows.forM (validateRow s.splitWindows)
  require (∀ split ∈ [DatasetSplit.train, .validation, .test],
      s.rowCountsBySplit split = rowCounts s.rows split)
    "row_counts_by_split must match rows"
  require (s.datasetHash =
      buildDatasetHash s.rows s.splitWindows s.labelRule s.sourceFeatureSnapshotIds)
    "dataset_hash is not deterministic"
  require (s.datasetSnapshotId = buildDatasetSnapshotId s.datasetHash)
    "dataset_snapshot_id is not deterministic"

end DatasetSnapshot

end Identity

end TaModel.Contracts
