import TaModel.Contracts.RawPayloads
import TaModel.Library.Agreement
import TaModel.Library.Occurrences
import TaModel.Normalization.Silver

/-!
# Normalization of historical pages

`normalize_historical_pages` of `normalization/silver.py`: the records of the pages of one request
become silver records of one batch, in the order of delivery. The records and the batch here carry
the lineage that the readers of `Normalization/Silver.lean` do not look at; the `ingest_ts` of a trade
and the fetch times of a page are left out, since no id contains them.
-/

set_option autoImplicit false

namespace TaModel.Normalization

open Contracts Library

/-! ## Historical records -/

inductive TradeSide where
  | buyer | seller
deriving DecidableEq

def TradeSide.value : TradeSide → String
  | .buyer => "buyer"
  | .seller => "seller"

instance : ToPayload TradeSide := ⟨fun x => .text x.value⟩

/-- Canonical trade. -/
structure TradeRecord where
  tradeId : String
  instrumentId : String
  eventTs : AwareDatetime
  price : PositiveDecimal
  quantity : PositiveDecimal
  side : Option TradeSide
  sequence : Option Nat
  sourceTs : Option AwareDatetime
  rawPayloadId : String

/-- `HistoricalRecord`. -/
inductive HistoricalRecord where
  | bar (bar : OHLCTVBar)
  | trade (trade : TradeRecord)

namespace HistoricalRecord

def kind : HistoricalRecord → MarketDataKind
  | .bar _ => .ohlctv
  | .trade _ => .trade

def rawPayloadId : HistoricalRecord → String
  | .bar b => b.rawPayloadId
  | .trade t => t.rawPayloadId

/-- The bar of a record. -/
def asBar : HistoricalRecord → Option OHLCTVBar
  | .bar b => some b
  | .trade _ => none

end HistoricalRecord

/-- Provenance of a page; the proof field is `raw_payload_source_matches`. -/
structure HistoricalProvenance where
  sourceId : String
  rawPayload : RawPayloadReference
  raw_payload_source_matches : rawPayload.sourceId.val = sourceId

/-- A page of validated records; the proof fields are `records_match_data_kind`. -/
structure HistoricalBackfillPage where
  pageId : String
  requestId : String
  dataKind : MarketDataKind
  records : List HistoricalRecord
  provenance : HistoricalProvenance
  records_match_kind : ∀ r ∈ records, r.kind = dataKind
  raw_payload_of_records : ∀ r ∈ records, r.rawPayloadId = provenance.rawPayload.rawPayloadId.val

/-- The raw payload a page was read from. -/
def HistoricalBackfillPage.rawPayloadId (page : HistoricalBackfillPage) : String :=
  page.provenance.rawPayload.rawPayloadId.val

section Records

variable [Sha256]

/-! ## Silver records with their lineage -/

omit [Sha256] in
/-- `_instrument_id_matches_venue`. -/
def instrumentIdMatchesVenue (instrumentId venueId : String) : Bool :=
  (venueId ++ ":").toList.isPrefixOf instrumentId.toList

/-- `build_silver_trade_record_id`. -/
def buildSilverTradeRecordId (sourceId venueId instrumentId rawPayloadId : String)
    (trade : TradeRecord) : String :=
  stableId "SILVERTRADE" (.record
    [ ("event_ts", toPayload trade.eventTs), ("instrument_id", toPayload instrumentId),
      ("price", toPayload trade.price), ("quantity", toPayload trade.quantity),
      ("raw_payload_id", toPayload rawPayloadId), ("sequence", toPayload trade.sequence),
      ("side", toPayload trade.side), ("source_id", toPayload sourceId),
      ("source_trade_id", toPayload trade.tradeId), ("source_ts", toPayload trade.sourceTs),
      ("venue_id", toPayload venueId) ])

/-- A silver bar with the page and request it came from. -/
structure SilverBar extends SilverOHLCTVRecord where
  pageId : String
  requestId : String

/-- A silver trade in full; the proof fields are `lineage_matches_trade`. -/
structure SilverTrade extends SilverTradeRecord where
  rawPayloadId : String
  pageId : String
  requestId : String
  trade : TradeRecord
  instrument_of_trade : trade.instrumentId = instrumentId
  venue_of_instrument : instrumentIdMatchesVenue instrumentId venueId = true
  raw_payload_of_trade : trade.rawPayloadId = rawPayloadId
  id_is_deterministic : silverRecordId =
    buildSilverTradeRecordId sourceId venueId instrumentId rawPayloadId trade

/-- `SilverRecord`, in full. -/
inductive NormalizedRecord where
  | ohlctv (record : SilverBar)
  | trade (record : SilverTrade)

namespace NormalizedRecord

/-- The record as its readers see it. -/
def toSilver : NormalizedRecord → SilverRecord
  | .ohlctv r => .ohlctv r.toSilverOHLCTVRecord
  | .trade r => .trade r.toSilverTradeRecord

def silverRecordId : NormalizedRecord → String
  | .ohlctv r => r.silverRecordId
  | .trade r => r.silverRecordId

def rawPayloadId : NormalizedRecord → String
  | .ohlctv r => r.rawPayloadId
  | .trade r => r.rawPayloadId

def pageId : NormalizedRecord → String
  | .ohlctv r => r.pageId
  | .trade r => r.pageId

/-- The historical record inside. -/
def source : NormalizedRecord → HistoricalRecord
  | .ohlctv r => .bar r.bar
  | .trade r => .trade r.trade

end NormalizedRecord

/-! ## Batches -/

/-- `build_silver_batch_id`. -/
def buildSilverBatchId (requestId : String) (dataKind : MarketDataKind)
    (sourceId venueId instrumentId : String) (timeframe : Option String)
    (pageIds rawPayloadIds recordIds : List String) : String :=
  stableId "SILVERBATCH" (.record
    [ ("data_kind", .text dataKind.value), ("instrument_id", toPayload instrumentId),
      ("page_ids", toPayload pageIds), ("raw_payload_ids", toPayload rawPayloadIds),
      ("record_ids", toPayload recordIds), ("request_id", toPayload requestId),
      ("source_id", toPayload sourceId), ("timeframe", toPayload timeframe),
      ("venue_id", toPayload venueId) ])

/-- A silver batch with its lineage; the proof fields are the rest of
`batch_scope_matches_records`. -/
structure NormalizedBatch extends SilverNormalizationBatch where
  batchId : String
  requestId : String
  pageIds : List String
  rawPayloadIds : List String
  entries : List NormalizedRecord
  records_of_entries : records = entries.map NormalizedRecord.toSilver
  lineage_of_entries : ∀ e ∈ entries, e.rawPayloadId ∈ rawPayloadIds ∧ e.pageId ∈ pageIds
  id_is_deterministic : batchId = buildSilverBatchId requestId dataKind sourceId venueId
    instrumentId timeframe pageIds rawPayloadIds (entries.map NormalizedRecord.silverRecordId)

/-- The checks of `batch_scope_matches_records` on one record. -/
def checkRecord (sourceId venueId instrumentId : String) (pageIds rawPayloadIds : List String)
    (entry : NormalizedRecord) : Raises Unit := do
  require (entry.toSilver.sourceId = sourceId) "record source_id must match batch source_id"
  require (entry.toSilver.venueId = venueId) "record venue_id must match batch venue_id"
  require (entry.toSilver.instrumentId = instrumentId)
    "record instrument_id must match batch instrument_id"
  require (entry.rawPayloadId ∈ rawPayloadIds)
    "record raw_payload_id must be present in batch raw_payload_ids"
  require (entry.pageId ∈ pageIds) "record page_id must be present in batch page_ids"

theorem checkRecord_eq_ok_iff (sourceId venueId instrumentId : String)
    (pageIds rawPayloadIds : List String) (entry : NormalizedRecord) :
    checkRecord sourceId venueId instrumentId pageIds rawPayloadIds entry = .ok () ↔
      (entry.toSilver.sourceId = sourceId ∧ entry.toSilver.venueId = venueId ∧
        entry.toSilver.instrumentId = instrumentId) ∧
      entry.rawPayloadId ∈ rawPayloadIds ∧ entry.pageId ∈ pageIds := by
  simp only [checkRecord, check_bind_eq_ok_iff, require_eq_ok_iff, and_assoc]

theorem scope_of_checkRecords {sourceId venueId instrumentId : String}
    {pageIds rawPayloadIds : List String} {entries : List NormalizedRecord}
    (h : entries.forM (checkRecord sourceId venueId instrumentId pageIds rawPayloadIds) = .ok ()) :
    ∀ r ∈ entries.map NormalizedRecord.toSilver,
      r.sourceId = sourceId ∧ r.venueId = venueId ∧ r.instrumentId = instrumentId := by
  intro r hr
  obtain ⟨entry, hentry, rfl⟩ := List.mem_map.mp hr
  exact ((checkRecord_eq_ok_iff _ _ _ _ _ _).mp ((forM_eq_ok_iff _ _).mp h entry hentry)).1

theorem lineage_of_checkRecords {sourceId venueId instrumentId : String}
    {pageIds rawPayloadIds : List String} {entries : List NormalizedRecord}
    (h : entries.forM (checkRecord sourceId venueId instrumentId pageIds rawPayloadIds) = .ok ()) :
    ∀ entry ∈ entries, entry.rawPayloadId ∈ rawPayloadIds ∧ entry.pageId ∈ pageIds := by
  intro entry hentry
  exact ((checkRecord_eq_ok_iff _ _ _ _ _ _).mp ((forM_eq_ok_iff _ _).mp h entry hentry)).2

/-- `SilverNormalizationBatch(...)`, with the id that is built for it. -/
def NormalizedBatch.make (requestId : String) (dataKind : MarketDataKind)
    (sourceId venueId instrumentId : String) (timeframe : Option String)
    (pageIds rawPayloadIds : List String) (entries : List NormalizedRecord) :
    Raises NormalizedBatch :=
  let records := entries.map NormalizedRecord.toSilver
  if hnone : records = [] then .error "record_count: Input should be greater than 0"
  else if pageIds = [] then .error "page_ids must not be empty"
  else if rawPayloadIds = [] then .error "raw_payload_ids must not be empty"
  else if hkind : ¬ ∀ r ∈ records, r.kind = dataKind then
    .error "records must match batch data_kind"
  else if htimeframe : ¬ (timeframe.isSome = true ↔ dataKind = .ohlctv) then
    .error (if dataKind = .ohlctv then "timeframe is required for OHLCTV silver batches"
      else "timeframe must be omitted for trade silver batches")
  else
    match hchecks : entries.forM
        (checkRecord sourceId venueId instrumentId pageIds rawPayloadIds) with
    | .error message => .error message
    | .ok () =>
        .ok
          { dataKind := dataKind, sourceId := sourceId, venueId := venueId,
            instrumentId := instrumentId, timeframe := timeframe, records := records,
            records_nonempty := hnone, records_match_kind := not_not.mp hkind,
            timeframe_of_kind := not_not.mp htimeframe,
            records_match_scope := scope_of_checkRecords hchecks,
            batchId := buildSilverBatchId requestId dataKind sourceId venueId instrumentId
              timeframe pageIds rawPayloadIds (entries.map NormalizedRecord.silverRecordId),
            requestId := requestId, pageIds := pageIds, rawPayloadIds := rawPayloadIds,
            entries := entries, records_of_entries := rfl,
            lineage_of_entries := lineage_of_checkRecords hchecks, id_is_deterministic := rfl }

/-! ## Normalization -/

/-- The scope that the first page and the caller fix. -/
structure BatchScope where
  requestId : String
  dataKind : MarketDataKind
  sourceId : String
  venueId : String
  instrumentId : String

/-- `_normalize_bar`. -/
def normalizeBar (page : HistoricalBackfillPage) (bar : OHLCTVBar) : Raises SilverBar := do
  require (bar.rawPayloadId = page.rawPayloadId) "bar raw_payload_id must match page provenance"
  .ok { toSilverOHLCTVRecord := SilverOHLCTVRecord.ofBar page.provenance.sourceId bar,
        pageId := page.pageId, requestId := page.requestId }

/-- `_normalize_trade`. -/
def normalizeTrade (page : HistoricalBackfillPage) (trade : TradeRecord) (venueId : String) :
    Raises SilverTrade :=
  if hraw : trade.rawPayloadId ≠ page.rawPayloadId then
    .error "trade raw_payload_id must match page provenance"
  else if hvenue : ¬ instrumentIdMatchesVenue trade.instrumentId venueId = true then
    .error "trade instrument_id must match silver venue_id scope"
  else
    .ok
      { silverRecordId := buildSilverTradeRecordId page.provenance.sourceId venueId
          trade.instrumentId page.rawPayloadId trade,
        sourceId := page.provenance.sourceId, venueId := venueId,
        instrumentId := trade.instrumentId, rawPayloadId := page.rawPayloadId,
        pageId := page.pageId, requestId := page.requestId, trade := trade,
        instrument_of_trade := rfl, venue_of_instrument := not_not.mp hvenue,
        raw_payload_of_trade := not_not.mp hraw, id_is_deterministic := rfl }

/-- One turn of the inner loop; its state is the timeframe found so far. -/
def normalizeRecord (scope : BatchScope) (page : HistoricalBackfillPage)
    (timeframe : Option String) : HistoricalRecord → Raises (NormalizedRecord × Option String)
  | .bar bar => do
      require (scope.dataKind = .ohlctv) "OHLCTV record found in non-OHLCTV page"
      require (bar.venueId = scope.venueId ∧ bar.instrumentId = scope.instrumentId)
        "OHLCTV record is outside requested venue/instrument scope"
      require (∀ found ∈ timeframe, bar.timeframe = found) "OHLCTV records have mixed timeframes"
      let record ← normalizeBar page bar
      .ok (.ohlctv record, some bar.timeframe)
  | .trade trade => do
      require (scope.dataKind = .trade) "trade record found in non-trade page"
      require (trade.instrumentId = scope.instrumentId)
        "trade record is outside requested instrument scope"
      require (instrumentIdMatchesVenue trade.instrumentId scope.venueId = true)
        "trade record instrument_id is outside requested venue scope"
      let record ← normalizeTrade page trade scope.venueId
      .ok (.trade record, timeframe)

/-- `_validate_page_scope`. -/
def validatePageScope (scope : BatchScope) (page : HistoricalBackfillPage) : Raises Unit := do
  require (page.requestId = scope.requestId) "all pages must share request_id"
  require (page.dataKind = scope.dataKind) "all pages must share data_kind"
  require (page.provenance.sourceId = scope.sourceId) "all pages must share provenance source_id"
  require (page.provenance.rawPayload.sourceId.val = page.provenance.sourceId)
    "raw payload source_id must match page provenance source_id"
  page.records.forM fun record =>
    require (record.rawPayloadId = page.rawPayloadId)
      "record raw_payload_id must match page provenance"

/-- One turn of the outer loop. -/
def normalizePage (scope : BatchScope) (timeframe : Option String)
    (page : HistoricalBackfillPage) : Raises (List NormalizedRecord × Option String) := do
  validatePageScope scope page
  runSteps (normalizeRecord scope page) timeframe page.records

/-- The batch of the records that were collected. -/
def batchOf (scope : BatchScope) (pages : List HistoricalBackfillPage)
    (entries : List NormalizedRecord) (timeframe : Option String) : Raises NormalizedBatch := do
  require (entries ≠ []) "silver batch must contain at least one record"
  NormalizedBatch.make scope.requestId scope.dataKind scope.sourceId scope.venueId
    scope.instrumentId (if scope.dataKind = .trade then none else timeframe)
    (firstOccurrences (pages.map HistoricalBackfillPage.pageId))
    (firstOccurrences (pages.map HistoricalBackfillPage.rawPayloadId)) entries

/-- The scope of a batch whose first page is given. -/
def scopeOfPage (first : HistoricalBackfillPage) (venueId instrumentId : String) : BatchScope where
  requestId := first.requestId
  dataKind := first.dataKind
  sourceId := first.provenance.sourceId
  venueId := venueId
  instrumentId := instrumentId

/-- `normalize_historical_pages`. -/
def normalizeHistoricalPages (pages : List HistoricalBackfillPage) (venueId instrumentId : String) :
    Raises NormalizedBatch :=
  match pages with
  | [] => .error "at least one historical page is required"
  | first :: _ => do
      let scope := scopeOfPage first venueId instrumentId
      let collected ← runSteps (normalizePage scope) none pages
      batchOf scope pages collected.1.flatten collected.2

/-- `normalize_historical_page`. -/
def normalizeHistoricalPage (page : HistoricalBackfillPage) (venueId instrumentId : String) :
    Raises NormalizedBatch :=
  normalizeHistoricalPages [page] venueId instrumentId

end Records

end TaModel.Normalization
