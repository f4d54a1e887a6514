import TaModel.Contracts.Datasets
import TaModel.Contracts.DecimalRange

/-!
# The dataset snapshot builder

`build_chronological_dataset_snapshot` of `datasets/snapshots.py`: every feature vector is given the
split of its window and the label observed one horizon later.
-/

set_option autoImplicit false

namespace TaModel.Datasets

open Contracts

/-- `str.lower()`. -/
class StrLower where
  lower : String → String

section Builder

variable [Sha256]

/-- The loop of `_validate_vectors`. -/
def validateVectorsFrom (seenIds : List String) :
    Option AwareDatetime → List FeatureVector → Raises Unit
  | _, [] => .ok ()
  | previousTs, vector :: vectors => do
      require (vector.featureVectorId ∉ seenIds) "duplicate feature_vector_id"
      require (∀ t ∈ previousTs, t < vector.featureTs) "feature_ts must be strictly increasing"
      validateVectorsFrom (vector.featureVectorId :: seenIds) (some vector.featureTs) vectors

/-- `_validate_vectors`. -/
def validateVectors (vectors : List FeatureVector) : Raises Unit := do
  require (vectors ≠ []) "at least one feature vector is required"
  validateVectorsFrom [] none vectors

/-- The key of an observation: its instrument, venue and instant. -/
def observationKey (o : LabelObservation) : String × String × Int :=
  (o.instrumentId, o.venueId, o.eventTs.utc)

/-- The loop of `_validate_observations`. -/
def validateObservationsFrom (seenKeys : List (String × String × Int)) :
    Option AwareDatetime → List LabelObservation → Raises Unit
  | _, [] => .ok ()
  | previousTs, observation :: observations => do
      require (observationKey observation ∉ seenKeys) "ambiguous duplicate label event_ts"
      require (∀ t ∈ previousTs, t < observation.eventTs)
        "label event_ts must be strictly increasing"
      validateObservationsFrom (observationKey observation :: seenKeys)
        (some observation.eventTs) observations

/-- `_validate_observations`. -/
def validateObservations (observations : List LabelObservation) : Raises Unit := do
  require (observations ≠ []) "at least one label observation is required"
  validateObservationsFrom [] none observations

omit [Sha256] in
/-- The loop of `_validate_split_windows`. -/
def validateWindowsFrom : Option AwareDatetime → List ChronologicalSplitWindow → Raises Unit
  | _, [] => .ok ()
  | previousEnd, window :: windows => do
      require (∀ t ∈ previousEnd, t ≤ window.startTs) "split windows must not overlap"
      validateWindowsFrom (some window.endTs) windows

omit [Sha256] in
/-- `_validate_split_windows`. -/
def validateSplitWindows (windows : List ChronologicalSplitWindow) : Raises Unit := do
  require (windows.map ChronologicalSplitWindow.split = [.train, .validation, .test])
    "split windows must be ordered train/validation/test"
  validateWindowsFrom none windows

/-- `_validate_no_label_as_feature_leakage`. -/
def validateNoLabelAsFeatureLeakage [StrLower] (vectors : List FeatureVector)
    (labelRule : LabelRule) : Raises Unit :=
  let ruleName := StrLower.lower labelRule.name
  let forbiddenNames := ["label", ruleName, "label_" ++ ruleName]
  vectors.forM fun vector =>
    require (∀ entry ∈ vector.values.entries, StrLower.lower entry.1 ∉ forbiddenNames)
      "label fields must not appear in feature values"

/-- `_split_for_feature_ts`. -/
def splitForFeatureTs (vector : FeatureVector) (windows : List ChronologicalSplitWindow) :
    Raises DatasetSplit :=
  match windows.find? fun window => window.contains vector.featureTs with
  | some window => .ok window.split
  | none => .error "feature_ts is outside configured split windows"

/-- `_compute_label_value`. -/
def computeLabelValue (vector : FeatureVector) (observation : LabelObservation)
    (labelRule : LabelRule) : Raises Decimal :=
  match labelRule.method with
  | .futureValue => .ok observation.value
  | .futureReturn =>
      match vector.values.get "close" with
      | some (some baseValue) =>
          if baseValue = 0 then .error "future_return labels require non-zero close feature"
          else do
            let difference ← finalized (observation.value - baseValue)
            finalized (difference / baseValue)
      | _ => .error "future_return labels require non-zero close feature"

/-- `observation_by_key.get(key)`: a later observation of a key replaces an earlier one. -/
def observationByKey (observations : List LabelObservation) (key : String × String × Int) :
    Option LabelObservation :=
  observations.reverse.find? fun observation => decide (observationKey observation = key)

/-- One turn of the loop over the vectors. -/
def buildRow (observations : List LabelObservation) (windows : List ChronologicalSplitWindow)
    (labelRule : LabelRule) (sourceSnapshotIds : List CanonicalId) (vector : FeatureVector) :
    Raises DatasetRow := do
  let split ← splitForFeatureTs vector windows
  let labelTs := labelRule.labelTs vector.featureTs
  match observationByKey observations (vector.instrumentId, vector.venueId, labelTs.utc) with
  | none => .error "missing label observation for configured horizon"
  | some observation => do
      require (vector.featureTs < observation.eventTs)
        "label observation must be after feature_ts"
      let labelValue ← computeLabelValue vector observation labelRule
      rowFromFeatureVector vector split labelRule labelValue observation.eventTs
        observation.observationId sourceSnapshotIds

/-- The snapshot of the rows, before its validators. -/
def snapshotOfRows (rows : List DatasetRow) (windows : List ChronologicalSplitWindow)
    (labelRule : LabelRule) (sourceSnapshotIds : List CanonicalId) : DatasetSnapshot :=
  let datasetHash := buildDatasetHash rows windows labelRule sourceSnapshotIds
  { datasetSnapshotId := buildDatasetSnapshotId datasetHash, datasetHash := datasetHash,
    featureVersions := featureVersionsOf rows,
    featureVectorIds := rows.map DatasetRow.featureVectorId,
    sourceFeatureSnapshotIds := sourceSnapshotIds, splitWindows := windows, labelRule := labelRule,
    rowIds := rows.map DatasetRow.rowId, rowCountsBySplit := rowCounts rows, rows := rows }

/-- `build_chronological_dataset_snapshot`. -/
def buildChronologicalDatasetSnapshot [StrLower] (vectors : List FeatureVector)
    (observations : List LabelObservation) (windows : List ChronologicalSplitWindow)
    (labelRule : LabelRule) (sourceSnapshotIds : List CanonicalId) : Raises DatasetSnapshot := do
  validateVectors vectors
  validateObservations observations
  validateSplitWindows windows
  validateNoLabelAsFeatureLeakage vectors labelRule
  let rows ← vectors.mapM (buildRow observations windows labelRule sourceSnapshotIds)
  let snapshot := snapshotOfRows rows windows labelRule sourceSnapshotIds
  snapshot.validate
  return snapshot

end Builder

end TaModel.Datasets
