import TaModel.Contracts.MarketData

/-!
# Silver records

The silver records and batches of `normalization/silver.py` that the feature engines and the
data-quality reports read. The ids of pages, requests and batches and the fields of a trade are
left out: none of these readers looks at them.
-/

set_option autoImplicit false

namespace TaModel.Normalization

open Contracts

/-- `MarketDataKind`. -/
inductive MarketDataKind where
  | ohlctv | trade
deriving DecidableEq

def MarketDataKind.value : MarketDataKind → String
  | .ohlctv => "ohlctv"
  | .trade => "trade"

section Records

variable [Sha256]

/-- `build_silver_ohlctv_record_id`. -/
def buildSilverOhlctvRecordId (sourceId venueId instrumentId timeframe rawPayloadId : String)
    (bar : OHLCTVBar) : String :=
  stableId "SILVERBAR" (.record
    [ ("base_volume", toPayload bar.baseVolume), ("close", toPayload bar.close),
      ("close_ts", toPayload bar.closeTs), ("high", toPayload bar.high),
      ("instrument_id", toPayload instrumentId), ("low", toPayload bar.low),
      ("open", toPayload bar.openPrice), ("open_ts", toPayload bar.openTs),
      ("quality_flags", toPayload bar.qualityFlags), ("quote_volume", toPayload bar.quoteVolume),
      ("raw_payload_id", toPayload rawPayloadId), ("source_id", toPayload sourceId),
      ("source_ts", toPayload bar.sourceTs), ("timeframe", toPayload timeframe),
      ("trade_count", toPayload bar.tradeCount), ("venue_id", toPayload venueId),
      ("vwap", toPayload bar.vwap) ])

/-- Silver bar; the proof fields are `lineage_matches_bar`. -/
structure SilverOHLCTVRecord where
  silverRecordId : String
  sourceId : String
  venueId : String
  instrumentId : String
  timeframe : String
  rawPayloadId : String
  bar : OHLCTVBar
  venue_of_bar : bar.venueId = venueId
  instrument_of_bar : bar.instrumentId = instrumentId
  timeframe_of_bar : bar.timeframe = timeframe
  raw_payload_of_bar : bar.rawPayloadId = rawPayloadId
  id_is_deterministic : silverRecordId =
    buildSilverOhlctvRecordId sourceId venueId instrumentId timeframe rawPayloadId bar

/-- The silver record of a bar (`_normalize_bar`). -/
def SilverOHLCTVRecord.ofBar (sourceId : String) (bar : OHLCTVBar) : SilverOHLCTVRecord where
  silverRecordId := buildSilverOhlctvRecordId sourceId bar.venueId bar.instrumentId bar.timeframe
    bar.rawPayloadId bar
  sourceId := sourceId
  venueId := bar.venueId
  instrumentId := bar.instrumentId
  timeframe := bar.timeframe
  rawPayloadId := bar.rawPayloadId
  bar := bar
  venue_of_bar := rfl
  instrument_of_bar := rfl
  timeframe_of_bar := rfl
  raw_payload_of_bar := rfl
  id_is_deterministic := rfl

/-- What a batch checks of a `SilverTradeRecord`. -/
structure SilverTradeRecord where
  silverRecordId : String
  sourceId : String
  venueId : String
  instrumentId : String

/-- `SilverRecord`. -/
inductive SilverRecord where
  | ohlctv (record : SilverOHLCTVRecord)
  | trade (record : SilverTradeRecord)

namespace SilverRecord

def kind : SilverRecord → MarketDataKind
  | .ohlctv _ => .ohlctv
  | .trade _ => .trade

def sourceId : SilverRecord → String
  | .ohlctv r => r.sourceId
  | .trade r => r.sourceId

def venueId : SilverRecord → String
  | .ohlctv r => r.venueId
  | .trade r => r.venueId

def instrumentId : SilverRecord → String
  | .ohlctv r => r.instrumentId
  | .trade r => r.instrumentId

/-- `record if isinstance(record, SilverOHLCTVRecord)`. -/
def asOhlctv : SilverRecord → Option SilverOHLCTVRecord
  | .ohlctv r => some r
  | .trade _ => none

end SilverRecord

/-- Silver batch of one scope; the proof fields are `batch_scope_matches_records`. -/
structure SilverNormalizationBatch where
  dataKind : MarketDataKind
  sourceId : String
  venueId : String
  instrumentId : String
  timeframe : Option String
  records : List SilverRecord
  records_nonempty : records ≠ []
  records_match_kind : ∀ r ∈ records, r.kind = dataKind
  timeframe_of_kind : timeframe.isSome = true ↔ dataKind = .ohlctv
  records_match_scope : ∀ r ∈ records,
    r.sourceId = sourceId ∧ r.venueId = venueId ∧ r.instrumentId = instrumentId

namespace SilverNormalizationBatch

/-- The bars of a batch. -/
def ohlctvRecords (batch : SilverNormalizationBatch) : List SilverOHLCTVRecord :=
  batch.records.filterMap SilverRecord.asOhlctv

/-- The batch with some of its records. -/
def withRecords (batch : SilverNormalizationBatch) (kept : List SilverRecord) (hne : kept ≠ [])
    (hkept : ∀ r ∈ kept, r ∈ batch.records) : SilverNormalizationBatch :=
  { batch with
    records := kept, records_nonempty := hne,
    records_match_kind := fun r hr => batch.records_match_kind r (hkept r hr),
    records_match_scope := fun r hr => batch.records_match_scope r (hkept r hr) }

end SilverNormalizationBatch

end Records

end TaModel.Normalization
