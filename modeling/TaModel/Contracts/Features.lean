import TaModel.Contracts.StringDict

/-!
# Feature contracts

The feature vector and the quote input of `contracts/features.py`. Both are identified by a digest
of their event-time fields; a quote's `ingest_ts` is not among them and is left out.
-/

set_option autoImplicit false

namespace TaModel.Contracts

inductive FeatureQualityFlag where
  | missing | imputed | outlier | stale | insufficientHistory
deriving DecidableEq

def FeatureQualityFlag.value : FeatureQualityFlag → String
  | .missing => "missing"
  | .imputed => "imputed"
  | .outlier => "outlier"
  | .stale => "stale"
  | .insufficientHistory => "insufficient_history"

instance : ToPayload FeatureQualityFlag := ⟨fun x => .text x.value⟩

/-- `FeatureValue`. -/
abbrev FeatureValue := Option Decimal

section Identity

variable [Sha256]

/-- `build_feature_input_snapshot_id`. -/
def buildFeatureInputSnapshotId (recordIds : List String) : String :=
  stableId "FEATUREINPUT" (.record [("record_ids", toPayload recordIds)])

/-- `build_feature_vector_id`. -/
def buildFeatureVectorId (instrumentId venueId : String) (featureTs : AwareDatetime)
    (featureVersion lookbackWindow : String) (values : StringDict FeatureValue)
    (inputSnapshotId : String) (qualityFlags : List FeatureQualityFlag) : String :=
  stableId "FEATURE" (.record
    [ ("feature_ts", toPayload featureTs), ("feature_version", toPayload featureVersion),
      ("input_snapshot_id", toPayload inputSnapshotId), ("instrument_id", toPayload instrumentId),
      ("lookback_window", toPayload lookbackWindow), ("quality_flags", toPayload qualityFlags),
      ("values", toPayload values), ("venue_id", toPayload venueId) ])

/-- Feature vector; the proof fields are the minimal length of `values` and
`feature_vector_id_is_deterministic`. -/
structure FeatureVector where
  featureVectorId : String
  instrumentId : String
  venueId : String
  featureTs : AwareDatetime
  featureVersion : String
  lookbackWindow : String
  values : StringDict FeatureValue
  inputSnapshotId : String
  qualityFlags : List FeatureQualityFlag
  values_nonempty : values.entries ≠ []
  id_is_deterministic : featureVectorId = buildFeatureVectorId instrumentId venueId featureTs
    featureVersion lookbackWindow values inputSnapshotId qualityFlags

/-- The patterns of the text fields of a vector that no digest fixes. -/
def FeatureVector.TextsInForm (v : FeatureVector) : Prop :=
  isCanonicalId v.instrumentId = true ∧ isCanonicalId v.venueId = true ∧
    isCanonicalId v.inputSnapshotId = true ∧ isNonEmptyString v.featureVersion = true

theorem FeatureVector.id_canonical (v : FeatureVector) : isCanonicalId v.featureVectorId = true := by
  rw [v.id_is_deterministic]
  exact isCanonicalId_stableId _ _ (by decide) (by decide)

/-- `build_quote_feature_input_id`. -/
def buildQuoteFeatureInputId (instrumentId venueId : String) (eventTs : AwareDatetime)
    (bestBid bestAsk : Decimal) (bidSize askSize : Option Decimal)
    (sourceTs : Option AwareDatetime) (qualityFlags : List String) (rawPayloadId : String) :
    String :=
  stableId "QUOTEFEATUREINPUT" (.record
    [ ("ask_size", toPayload askSize), ("best_ask", toPayload bestAsk),
      ("best_bid", toPayload bestBid), ("bid_size", toPayload bidSize),
      ("event_ts", toPayload eventTs), ("instrument_id", toPayload instrumentId),
      ("quality_flags", toPayload qualityFlags), ("raw_payload_id", toPayload rawPayloadId),
      ("source_ts", toPayload sourceTs), ("venue_id", toPayload venueId) ])

/-- Best bid and ask of the feature engine; the proof fields are
`quote_is_valid_and_deterministic`. -/
structure QuoteFeatureInput where
  quoteFeatureInputId : String
  instrumentId : String
  venueId : String
  eventTs : AwareDatetime
  bestBid : PositiveDecimal
  bestAsk : PositiveDecimal
  bidSize : Option NonNegativeDecimal
  askSize : Option NonNegativeDecimal
  sourceTs : Option AwareDatetime
  qualityFlags : List String
  rawPayloadId : String
  not_crossed : bestBid.val < bestAsk.val
  id_is_deterministic : quoteFeatureInputId = buildQuoteFeatureInputId instrumentId venueId
    eventTs bestBid bestAsk (bidSize.map Subtype.val) (askSize.map Subtype.val) sourceTs
    qualityFlags rawPayloadId

end Identity

end TaModel.Contracts
