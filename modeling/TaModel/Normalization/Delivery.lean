import TaModel.Features.BarHistory
import TaModel.Normalization.HistoricalPages

/-!
# What normalization keeps of a delivery

Normalization turns every delivered record into one silver record, in the order of delivery and with
the page it came from (`normalize_lossless`). It refuses a delivery only for its scope
(`normalize_succeeds_iff`), which does not depend on the order of the pages.
-/

set_option autoImplicit false

namespace TaModel.Normalization

open Contracts Library

section Delivery

variable [Sha256]

/-! ## One record -/

/-- The record belongs to the instrument and the kind of the scope. -/
def RecordInScope (scope : BatchScope) : HistoricalRecord → Prop
  | .bar b => scope.dataKind = .ohlctv ∧ b.venueId = scope.venueId ∧
      b.instrumentId = scope.instrumentId
  | .trade t => scope.dataKind = .trade ∧ t.instrumentId = scope.instrumentId ∧
      instrumentIdMatchesVenue t.instrumentId scope.venueId = true

/-- The timeframes a record insists on. -/
def HistoricalRecord.timeframes : HistoricalRecord → List String
  | .bar b => [b.timeframe]
  | .trade _ => []

def NormalizedRecord.requestId : NormalizedRecord → String
  | .ohlctv r => r.requestId
  | .trade r => r.requestId

/-- The silver record of a historical record: it holds the record as it was delivered and names the
page, the request and the source. -/
structure EntryOf (scope : BatchScope) (page : HistoricalBackfillPage) (record : HistoricalRecord)
    (entry : NormalizedRecord) : Prop where
  inScope : RecordInScope scope record
  raw_payload : record.rawPayloadId = page.rawPayloadId
  source : entry.source = record
  pageId : entry.pageId = page.pageId
  requestId : entry.requestId = page.requestId
  sourceId : entry.toSilver.sourceId = page.provenance.sourceId
  venueId : entry.toSilver.venueId = scope.venueId

theorem EntryOf.of_bar {scope : BatchScope} {page : HistoricalBackfillPage} {b : OHLCTVBar}
    {entry : NormalizedRecord} (h : EntryOf scope page (.bar b) entry) :
    normalizeBar page b >>= (fun r => .ok (NormalizedRecord.ohlctv r)) = .ok entry := by
  obtain ⟨hscope, hraw, hsource, hpage, hrequest, hsourceId, -⟩ := h
  cases entry with
  | trade r => cases hsource
  | ohlctv r =>
      obtain ⟨⟨id, sourceId, venueId, instrumentId, timeframe, rawPayloadId, bar, hvenue,
        hinstrument, htimeframe, hpayload, hid⟩, pageId, requestId⟩ := r
      cases hsource
      change bar.rawPayloadId = page.rawPayloadId at hraw
      change pageId = page.pageId at hpage
      change requestId = page.requestId at hrequest
      change sourceId = page.provenance.sourceId at hsourceId
      subst hvenue hinstrument htimeframe hpayload hid hpage hrequest hsourceId
      rw [normalizeBar, require_of hraw]
      rfl

theorem EntryOf.of_trade {scope : BatchScope} {page : HistoricalBackfillPage} {t : TradeRecord}
    {entry : NormalizedRecord} (h : EntryOf scope page (.trade t) entry) :
    normalizeTrade page t scope.venueId >>= (fun r => .ok (NormalizedRecord.trade r)) =
      .ok entry := by
  obtain ⟨hscope, hraw, hsource, hpage, hrequest, hsourceId, hvenueId⟩ := h
  cases entry with
  | ohlctv r => cases hsource
  | trade r =>
      obtain ⟨⟨id, sourceId, venueId, instrumentId⟩, rawPayloadId, pageId, requestId, trade,
        hinstrument, hvenue, hpayload, hid⟩ := r
      cases hsource
      change trade.rawPayloadId = page.rawPayloadId at hraw
      change pageId = page.pageId at hpage
      change requestId = page.requestId at hrequest
      change sourceId = page.provenance.sourceId at hsourceId
      change venueId = scope.venueId at hvenueId
      change trade.instrumentId = instrumentId at hinstrument
      change trade.rawPayloadId = rawPayloadId at hpayload
      subst hinstrument hpayload hpage hrequest hsourceId hvenueId
      change id = buildSilverTradeRecordId page.provenance.sourceId scope.venueId
        trade.instrumentId trade.rawPayloadId trade at hid
      subst hid
      rw [normalizeTrade, dif_neg (not_not.mpr hraw), dif_neg (not_not.mpr hscope.2.2)]
      simp only [ok_bind, ← hraw]

/-- A record is normalized exactly when it is in scope, comes from the payload of its page and has
the timeframe found so far. -/
theorem normalizeRecord_eq_ok_iff (scope : BatchScope) (page : HistoricalBackfillPage)
    (timeframe : Option String) (record : HistoricalRecord) (entry : NormalizedRecord)
    (next : Option String) :
    normalizeRecord scope page timeframe record = .ok (entry, next) ↔
      EntryOf scope page record entry ∧ AgreesOn timeframe record.timeframes next := by
  cases record with
  | bar b =>
      rw [HistoricalRecord.timeframes, agreesOn_singleton_iff]
      simp only [normalizeRecord, check_bind_eq_ok_iff, require_eq_ok_iff]
      constructor
      · rintro ⟨hkind, hscope, hfound, h⟩
        obtain ⟨r, hr, hok⟩ := (bind_eq_ok_iff _ _ _).mp h
        obtain ⟨hraw, hr⟩ := (check_bind_eq_ok_iff _ _ _).mp hr
        cases hok
        cases hr
        have hraw := (require_eq_ok_iff _ _ _).mp hraw
        exact ⟨⟨⟨hkind, hscope⟩, hraw, rfl, rfl, rfl, rfl, hscope.1⟩, hfound, rfl⟩
      · rintro ⟨hentry, hfound, rfl⟩
        refine ⟨hentry.inScope.1, hentry.inScope.2, hfound, ?_⟩
        obtain ⟨r, hr, hok⟩ := (bind_eq_ok_iff _ _ _).mp hentry.of_bar
        cases hok
        exact (bind_eq_ok_iff _ _ _).mpr ⟨r, hr, rfl⟩
  | trade t =>
      rw [HistoricalRecord.timeframes, agreesOn_nil_iff]
      simp only [normalizeRecord, check_bind_eq_ok_iff, require_eq_ok_iff]
      constructor
      · rintro ⟨hkind, hinstrument, hvenue, h⟩
        obtain ⟨r, hr, hok⟩ := (bind_eq_ok_iff _ _ _).mp h
        cases hok
        unfold normalizeTrade at hr
        split_ifs at hr with hraw
        cases hr
        exact ⟨⟨⟨hkind, hinstrument, hvenue⟩, not_not.mp hraw, rfl, rfl, rfl, rfl, rfl⟩, rfl⟩
      · rintro ⟨hentry, rfl⟩
        refine ⟨hentry.inScope.1, hentry.inScope.2.1, hentry.inScope.2.2, ?_⟩
        obtain ⟨r, hr, hok⟩ := (bind_eq_ok_iff _ _ _).mp hentry.of_trade
        cases hok
        exact (bind_eq_ok_iff _ _ _).mpr ⟨r, hr, rfl⟩

/-! ## Pages -/

/-- The page belongs to the request, the kind and the source of the scope. -/
structure PageInScope (scope : BatchScope) (page : HistoricalBackfillPage) : Prop where
  requestId : page.requestId = scope.requestId
  dataKind : page.dataKind = scope.dataKind
  sourceId : page.provenance.sourceId = scope.sourceId

omit [Sha256] in
/-- The other two checks repeat validators of the page. -/
theorem validatePageScope_eq_ok_iff (scope : BatchScope) (page : HistoricalBackfillPage) :
    validatePageScope scope page = .ok () ↔ PageInScope scope page := by
  simp only [validatePageScope, check_bind_eq_ok_iff, require_eq_ok_iff, forM_eq_ok_iff]
  constructor
  · rintro ⟨hrequest, hkind, hsource, -, -⟩
    exact ⟨hrequest, hkind, hsource⟩
  · intro h
    exact ⟨h.requestId, h.dataKind, h.sourceId, page.provenance.raw_payload_source_matches,
      page.raw_payload_of_records⟩

/-- The timeframes of a page. -/
def HistoricalBackfillPage.timeframes (page : HistoricalBackfillPage) : List String :=
  page.records.flatMap HistoricalRecord.timeframes

/-- The silver records of a page. -/
structure EntriesOf (scope : BatchScope) (page : HistoricalBackfillPage)
    (entries : List NormalizedRecord) : Prop where
  inScope : PageInScope scope page
  entries : List.Forall₂ (EntryOf scope page) page.records entries

theorem normalizePage_eq_ok_iff (scope : BatchScope) (timeframe : Option String)
    (page : HistoricalBackfillPage) (entries : List NormalizedRecord) (next : Option String) :
    normalizePage scope timeframe page = .ok (entries, next) ↔
      EntriesOf scope page entries ∧ AgreesOn timeframe page.timeframes next := by
  rw [normalizePage, check_bind_eq_ok_iff, validatePageScope_eq_ok_iff,
    runSteps_agrees_iff (normalizeRecord_eq_ok_iff scope page)]
  constructor
  · rintro ⟨hscope, hentries, hagrees⟩
    exact ⟨⟨hscope, hentries⟩, hagrees⟩
  · rintro ⟨⟨hscope, hentries⟩, hagrees⟩
    exact ⟨hscope, hentries, hagrees⟩

/-- The records of a whole delivery. -/
theorem collected_eq_ok_iff (scope : BatchScope) (pages : List HistoricalBackfillPage)
    (lists : List (List NormalizedRecord)) (timeframe : Option String) :
    runSteps (normalizePage scope) none pages = .ok (lists, timeframe) ↔
      List.Forall₂ (EntriesOf scope) pages lists ∧
        AgreesOn none (pages.flatMap HistoricalBackfillPage.timeframes) timeframe :=
  runSteps_agrees_iff (normalizePage_eq_ok_iff scope) none pages lists timeframe

/-! ## The batch -/

/-- A silver record of one of the pages. -/
def EntryOfPages (scope : BatchScope) (pages : List HistoricalBackfillPage)
    (entry : NormalizedRecord) : Prop :=
  ∃ page ∈ pages, PageInScope scope page ∧ ∃ record ∈ page.records,
    EntryOf scope page record entry

theorem entryOfPages_of_collected {scope : BatchScope} {pages : List HistoricalBackfillPage}
    {lists : List (List NormalizedRecord)} (h : List.Forall₂ (EntriesOf scope) pages lists) :
    ∀ entry ∈ lists.flatten, EntryOfPages scope pages entry := by
  intro entry hentry
  obtain ⟨entries, hentries, hmem⟩ := List.mem_flatten.mp hentry
  obtain ⟨page, hpage, hof⟩ := exists_of_mem_right h hentries
  obtain ⟨record, hrecord, hentryOf⟩ := exists_of_mem_right hof.entries hmem
  exact ⟨page, hpage, hof.inScope, record, hrecord, hentryOf⟩

theorem EntryOfPages.kind {scope : BatchScope} {pages : List HistoricalBackfillPage}
    {entry : NormalizedRecord} (h : EntryOfPages scope pages entry) :
    entry.toSilver.kind = scope.dataKind ∧ entry.source.kind = scope.dataKind := by
  obtain ⟨page, -, -, record, -, hentry⟩ := h
  have hscope := hentry.inScope
  rw [← hentry.source] at hscope
  cases entry with
  | ohlctv r => exact ⟨hscope.1.symm, hscope.1.symm⟩
  | trade r => exact ⟨hscope.1.symm, hscope.1.symm⟩

/-- A silver record of the pages passes the checks of their batch. -/
theorem EntryOfPages.checked {scope : BatchScope} {pages : List HistoricalBackfillPage}
    {entry : NormalizedRecord} (h : EntryOfPages scope pages entry) :
    checkRecord scope.sourceId scope.venueId scope.instrumentId
      (firstOccurrences (pages.map HistoricalBackfillPage.pageId))
      (firstOccurrences (pages.map HistoricalBackfillPage.rawPayloadId)) entry = .ok () := by
  obtain ⟨page, hpage, hpageScope, record, -, hentry⟩ := h
  have hraw : entry.rawPayloadId = page.rawPayloadId := by
    have hpayload := hentry.raw_payload
    rw [← hentry.source] at hpayload
    cases entry with
    | ohlctv r => exact r.raw_payload_of_bar.symm.trans hpayload
    | trade r => exact r.raw_payload_of_trade.symm.trans hpayload
  have hinstrument : entry.toSilver.instrumentId = scope.instrumentId := by
    have hscope := hentry.inScope
    rw [← hentry.source] at hscope
    cases entry with
    | ohlctv r => exact r.instrument_of_bar.symm.trans hscope.2.2
    | trade r => exact r.instrument_of_trade.symm.trans hscope.2.1
  rw [checkRecord_eq_ok_iff, mem_firstOccurrences, mem_firstOccurrences]
  refine ⟨⟨hentry.sourceId.trans hpageScope.sourceId, hentry.venueId, hinstrument⟩, ?_, ?_⟩
  · rw [hraw]
    exact List.mem_map_of_mem hpage
  · rw [hentry.pageId]
    exact List.mem_map_of_mem hpage

/-- What a batch of collected records is. -/
structure BatchOf (scope : BatchScope) (pages : List HistoricalBackfillPage)
    (entries : List NormalizedRecord) (timeframe : Option String) (batch : NormalizedBatch) :
    Prop where
  entries : batch.entries = entries
  requestId : batch.requestId = scope.requestId
  dataKind : batch.dataKind = scope.dataKind
  sourceId : batch.sourceId = scope.sourceId
  venueId : batch.venueId = scope.venueId
  instrumentId : batch.instrumentId = scope.instrumentId
  timeframe : batch.timeframe = if scope.dataKind = .trade then none else timeframe
  pageIds : batch.pageIds = firstOccurrences (pages.map HistoricalBackfillPage.pageId)
  rawPayloadIds : batch.rawPayloadIds =
    firstOccurrences (pages.map HistoricalBackfillPage.rawPayloadId)

theorem NormalizedBatch.of_make {requestId : String} {dataKind : MarketDataKind}
    {sourceId venueId instrumentId : String} {timeframe : Option String}
    {pageIds rawPayloadIds : List String} {entries : List NormalizedRecord}
    {batch : NormalizedBatch}
    (h : NormalizedBatch.make requestId dataKind sourceId venueId instrumentId timeframe pageIds
      rawPayloadIds entries = .ok batch) :
    batch.entries = entries ∧ batch.requestId = requestId ∧ batch.dataKind = dataKind ∧
      batch.sourceId = sourceId ∧ batch.venueId = venueId ∧ batch.instrumentId = instrumentId ∧
      batch.timeframe = timeframe ∧ batch.pageIds = pageIds ∧
      batch.rawPayloadIds = rawPayloadIds := by
  unfold NormalizedBatch.make at h
  dsimp only at h
  split_ifs at h
  split at h
  · cases h
  · cases h
    exact ⟨rfl, rfl, rfl, rfl, rfl, rfl, rfl, rfl, rfl⟩

theorem batchOf_of_eq_ok {scope : BatchScope} {pages : List HistoricalBackfillPage}
    {entries : List NormalizedRecord} {timeframe : Option String} {batch : NormalizedBatch}
    (h : batchOf scope pages entries timeframe = .ok batch) :
    entries ≠ [] ∧ BatchOf scope pages entries timeframe batch := by
  obtain ⟨hne, hmake⟩ := (check_bind_eq_ok_iff _ _ _).mp h
  obtain ⟨h1, h2, h3, h4, h5, h6, h7, h8, h9⟩ := NormalizedBatch.of_make hmake
  exact ⟨(require_eq_ok_iff _ _ _).mp hne, h1, h2, h3, h4, h5, h6, h7, h8, h9⟩

/-- Collected records always make a batch. -/
theorem exists_batchOf {scope : BatchScope} {pages : List HistoricalBackfillPage}
    {lists : List (List NormalizedRecord)} {timeframe : Option String}
    (hlists : List.Forall₂ (EntriesOf scope) pages lists)
    (hagrees : AgreesOn none (pages.flatMap HistoricalBackfillPage.timeframes) timeframe)
    (hne : lists.flatten ≠ []) :
    ∃ batch, batchOf scope pages lists.flatten timeframe = .ok batch := by
  have hentries := entryOfPages_of_collected hlists
  obtain ⟨entry, hentry⟩ := List.exists_mem_of_ne_nil _ hne
  obtain ⟨page, hpage, hpageScope, record, hrecord, hentryOf⟩ := hentries entry hentry
  have hpages : pages ≠ [] := List.ne_nil_of_mem hpage
  have hids : ∀ ids : List String, ids ≠ [] → firstOccurrences ids ≠ [] := by
    intro ids hids
    obtain ⟨id, hid⟩ := List.exists_mem_of_ne_nil _ hids
    exact List.ne_nil_of_mem ((mem_firstOccurrences _ _).mpr hid)
  have hkinds : ∀ r ∈ lists.flatten.map NormalizedRecord.toSilver, r.kind = scope.dataKind := by
    intro r hr
    obtain ⟨e, he, rfl⟩ := List.mem_map.mp hr
    exact (hentries e he).kind.1
  have htimeframe : (if scope.dataKind = .trade then none else timeframe).isSome = true ↔
      scope.dataKind = .ohlctv := by
    cases hkind : scope.dataKind with
    | trade => simp
    | ohlctv =>
        -- some bar was collected, and its timeframe was remembered
        have hscope := hentryOf.inScope
        cases record with
        | trade t => exact absurd (hkind.symm.trans hscope.1) (by decide)
        | bar b =>
            have hmem : b.timeframe ∈ pages.flatMap HistoricalBackfillPage.timeframes :=
              List.mem_flatMap.mpr ⟨page, hpage, List.mem_flatMap.mpr
                ⟨_, hrecord, List.mem_singleton_self _⟩⟩
            simp [hagrees.all_equal _ hmem]
  have hchecks := (forM_eq_ok_iff (checkRecord scope.sourceId scope.venueId scope.instrumentId
    (firstOccurrences (pages.map HistoricalBackfillPage.pageId))
    (firstOccurrences (pages.map HistoricalBackfillPage.rawPayloadId))) lists.flatten).mpr
      fun e he => (hentries e he).checked
  rw [batchOf, require_of hne, ok_bind, NormalizedBatch.make, dif_neg (by simpa using hne),
    if_neg (hids _ (by simpa using hpages)), if_neg (hids _ (by simpa using hpages)),
    dif_neg (not_not.mpr hkinds), dif_neg (not_not.mpr htimeframe)]
  split
  · next message hfails => exact absurd (hfails.symm.trans hchecks) (by simp)
  · exact ⟨_, rfl⟩

/-! ## A delivery -/

/-- What normalization asks of the pages of a delivery. -/
structure Deliverable (pages : List HistoricalBackfillPage) (venueId instrumentId : String) :
    Prop where
  nonempty : ∃ page ∈ pages, page.records ≠ []
  oneRequest : ∀ page ∈ pages, ∀ other ∈ pages, page.requestId = other.requestId ∧
    page.dataKind = other.dataKind ∧ page.provenance.sourceId = other.provenance.sourceId
  bars : ∀ page ∈ pages, ∀ b, HistoricalRecord.bar b ∈ page.records →
    b.venueId = venueId ∧ b.instrumentId = instrumentId
  trades : ∀ page ∈ pages, ∀ t, HistoricalRecord.trade t ∈ page.records →
    t.instrumentId = instrumentId ∧ instrumentIdMatchesVenue t.instrumentId venueId = true
  oneTimeframe : ∀ page ∈ pages, ∀ other ∈ pages, ∀ b b', HistoricalRecord.bar b ∈ page.records →
    HistoricalRecord.bar b' ∈ other.records → b.timeframe = b'.timeframe

omit [Sha256] in
/-- The order of the pages does not matter. -/
theorem Deliverable.perm {pages pages' : List HistoricalBackfillPage} {venueId instrumentId : String}
    (h : Deliverable pages venueId instrumentId) (hperm : pages.Perm pages') :
    Deliverable pages' venueId instrumentId where
  nonempty := by
    obtain ⟨page, hpage, hne⟩ := h.nonempty
    exact ⟨page, hperm.mem_iff.mp hpage, hne⟩
  oneRequest page hpage other hother :=
    h.oneRequest page (hperm.mem_iff.mpr hpage) other (hperm.mem_iff.mpr hother)
  bars page hpage := h.bars page (hperm.mem_iff.mpr hpage)
  trades page hpage := h.trades page (hperm.mem_iff.mpr hpage)
  oneTimeframe page hpage other hother :=
    h.oneTimeframe page (hperm.mem_iff.mpr hpage) other (hperm.mem_iff.mpr hother)

omit [Sha256] in
theorem mem_timeframes_iff (pages : List HistoricalBackfillPage) (timeframe : String) :
    timeframe ∈ pages.flatMap HistoricalBackfillPage.timeframes ↔
      ∃ page ∈ pages, ∃ b, HistoricalRecord.bar b ∈ page.records ∧ b.timeframe = timeframe := by
  simp only [List.mem_flatMap, HistoricalBackfillPage.timeframes]
  constructor
  · rintro ⟨page, hpage, record, hrecord, hmem⟩
    cases record with
    | bar b => exact ⟨page, hpage, b, hrecord, (List.mem_singleton.mp hmem).symm⟩
    | trade t => cases hmem
  · rintro ⟨page, hpage, b, hb, rfl⟩
    exact ⟨page, hpage, .bar b, hb, List.mem_singleton_self _⟩

/-- An entry for each record in scope. -/
theorem exists_entryOf {scope : BatchScope} {page : HistoricalBackfillPage}
    {record : HistoricalRecord} (hraw : record.rawPayloadId = page.rawPayloadId)
    (hscope : RecordInScope scope record) : ∃ entry, EntryOf scope page record entry := by
  cases record with
  | bar b =>
      exact ⟨.ohlctv ⟨.ofBar page.provenance.sourceId b, page.pageId, page.requestId⟩,
        hscope, hraw, rfl, rfl, rfl, rfl, hscope.2.1⟩
  | trade t =>
      exact ⟨.trade
        { silverRecordId := buildSilverTradeRecordId page.provenance.sourceId scope.venueId
            t.instrumentId page.rawPayloadId t,
          sourceId := page.provenance.sourceId, venueId := scope.venueId,
          instrumentId := t.instrumentId, rawPayloadId := page.rawPayloadId,
          pageId := page.pageId, requestId := page.requestId, trade := t,
          instrument_of_trade := rfl, venue_of_instrument := hscope.2.2,
          raw_payload_of_trade := hraw, id_is_deterministic := rfl },
        hscope, hraw, rfl, rfl, rfl, rfl, rfl⟩

/-- What a normalized delivery was collected from. -/
theorem collected_of_normalize {pages : List HistoricalBackfillPage} {venueId instrumentId : String}
    {batch : NormalizedBatch}
    (h : normalizeHistoricalPages pages venueId instrumentId = .ok batch) :
    ∃ scope lists timeframe, (scope.venueId = venueId ∧ scope.instrumentId = instrumentId) ∧
      List.Forall₂ (EntriesOf scope) pages lists ∧
      AgreesOn none (pages.flatMap HistoricalBackfillPage.timeframes) timeframe ∧
      lists.flatten ≠ [] ∧ BatchOf scope pages lists.flatten timeframe batch := by
  cases pages with
  | nil => cases h
  | cons first rest =>
      obtain ⟨⟨lists, timeframe⟩, hcollected, hbatch⟩ := (bind_eq_ok_iff _ _ _).mp h
      obtain ⟨hlists, hagrees⟩ := (collected_eq_ok_iff _ _ _ _).mp hcollected
      obtain ⟨hne, hof⟩ := batchOf_of_eq_ok hbatch
      exact ⟨_, lists, timeframe, ⟨rfl, rfl⟩, hlists, hagrees, hne, hof⟩

theorem deliverable_of_normalize {pages : List HistoricalBackfillPage}
    {venueId instrumentId : String} {batch : NormalizedBatch}
    (h : normalizeHistoricalPages pages venueId instrumentId = .ok batch) :
    Deliverable pages venueId instrumentId := by
  obtain ⟨scope, lists, timeframe, ⟨rfl, rfl⟩, hlists, hagrees, hne, -⟩ := collected_of_normalize h
  have hpages : ∀ page ∈ pages, ∃ entries, EntriesOf scope page entries := by
    intro page hpage
    obtain ⟨entries, -, hentries⟩ := exists_of_mem_left hlists hpage
    exact ⟨entries, hentries⟩
  have hrecords : ∀ page ∈ pages, ∀ record ∈ page.records, RecordInScope scope record := by
    intro page hpage record hrecord
    obtain ⟨entries, hentries⟩ := hpages page hpage
    obtain ⟨entry, -, hentry⟩ := exists_of_mem_left hentries.entries hrecord
    exact hentry.inScope
  refine ⟨?_, ?_, ?_, ?_, ?_⟩
  · obtain ⟨entry, hentry⟩ := List.exists_mem_of_ne_nil _ hne
    obtain ⟨page, hpage, -, record, hrecord, -⟩ := entryOfPages_of_collected hlists entry hentry
    exact ⟨page, hpage, List.ne_nil_of_mem hrecord⟩
  · intro page hpage other hother
    obtain ⟨-, ⟨hscope, -⟩⟩ := hpages page hpage
    obtain ⟨-, ⟨hscope', -⟩⟩ := hpages other hother
    exact ⟨hscope.requestId.trans hscope'.requestId.symm,
      hscope.dataKind.trans hscope'.dataKind.symm, hscope.sourceId.trans hscope'.sourceId.symm⟩
  · intro page hpage b hb
    exact (hrecords page hpage _ hb).2
  · intro page hpage t ht
    exact (hrecords page hpage _ ht).2
  · intro page hpage other hother b b' hb hb'
    exact hagrees.eq ((mem_timeframes_iff _ _).mpr ⟨page, hpage, b, hb, rfl⟩)
      ((mem_timeframes_iff _ _).mpr ⟨other, hother, b', hb', rfl⟩)

theorem exists_normalize {pages : List HistoricalBackfillPage} {venueId instrumentId : String}
    (h : Deliverable pages venueId instrumentId) :
    ∃ batch, normalizeHistoricalPages pages venueId instrumentId = .ok batch := by
  cases pages with
  | nil =>
      obtain ⟨page, hpage, -⟩ := h.nonempty
      cases hpage
  | cons first rest =>
      have hpageScope : ∀ page ∈ first :: rest,
          PageInScope (scopeOfPage first venueId instrumentId) page := by
        intro page hpage
        obtain ⟨hrequest, hkind, hsource⟩ := h.oneRequest page hpage first List.mem_cons_self
        exact ⟨hrequest, hkind, hsource⟩
      have hrecordScope : ∀ page ∈ first :: rest, ∀ record ∈ page.records,
          RecordInScope (scopeOfPage first venueId instrumentId) record := by
        intro page hpage record hrecord
        have hkind : (scopeOfPage first venueId instrumentId).dataKind = record.kind :=
          (hpageScope page hpage).dataKind.symm.trans (page.records_match_kind record hrecord).symm
        cases record with
        | bar b => exact ⟨hkind, h.bars page hpage b hrecord⟩
        | trade t => exact ⟨hkind, h.trades page hpage t hrecord⟩
      obtain ⟨lists, hlists⟩ : ∃ lists, List.Forall₂
          (EntriesOf (scopeOfPage first venueId instrumentId)) (first :: rest) lists := by
        apply exists_forall₂
        intro page hpage
        obtain ⟨entries, hentries⟩ := @exists_forall₂ _ _
          (EntryOf (scopeOfPage first venueId instrumentId) page) page.records (by
            intro record hrecord
            exact exists_entryOf (page.raw_payload_of_records record hrecord)
              (hrecordScope page hpage record hrecord))
        exact ⟨entries, hpageScope page hpage, hentries⟩
      obtain ⟨timeframe, hagrees⟩ := (exists_agreesOn_none_iff
          ((first :: rest).flatMap HistoricalBackfillPage.timeframes)).mpr (by
        intro v hv w hw
        obtain ⟨page, hpage, b, hb, rfl⟩ := (mem_timeframes_iff _ _).mp hv
        obtain ⟨other, hother, b', hb', rfl⟩ := (mem_timeframes_iff _ _).mp hw
        exact h.oneTimeframe page hpage other hother b b' hb hb')
      have hne : lists.flatten ≠ [] := by
        obtain ⟨page, hpage, hrecords⟩ := h.nonempty
        obtain ⟨record, hrecord⟩ := List.exists_mem_of_ne_nil _ hrecords
        obtain ⟨entries, hentries, hof⟩ := exists_of_mem_left hlists hpage
        obtain ⟨entry, hentry, -⟩ := exists_of_mem_left hof.entries hrecord
        exact List.ne_nil_of_mem (List.mem_flatten.mpr ⟨entries, hentries, hentry⟩)
      obtain ⟨batch, hbatch⟩ := exists_batchOf hlists hagrees hne
      exact ⟨batch, (bind_eq_ok_iff _ _ _).mpr
        ⟨(lists, timeframe), (collected_eq_ok_iff _ _ _ _).mpr ⟨hlists, hagrees⟩, hbatch⟩⟩

/-- A delivery is refused only for its scope: pages of one request, kind and source with at least one
record, all of the instrument at the venue and of one timeframe, always make a batch. -/
theorem normalize_succeeds_iff (pages : List HistoricalBackfillPage) (venueId instrumentId : String) :
    (∃ batch, normalizeHistoricalPages pages venueId instrumentId = .ok batch) ↔
      Deliverable pages venueId instrumentId := by
  constructor
  · rintro ⟨batch, h⟩
    exact deliverable_of_normalize h
  · exact exists_normalize

/-! ## A page of one bar -/

omit [Sha256] in
theorem isHexDigest_zeros : isHexDigest (String.ofList (List.replicate 64 '0')) = true := by
  decide

omit [Sha256] in
/-- The payload that the quiet bars were read from. -/
def samplePayload : RawPayloadReference where
  rawPayloadId := ⟨"RAW:1", by decide⟩
  sourceId := ⟨"SOURCE", by decide⟩
  contentHash := ⟨String.ofList (List.replicate 64 '0'), isHexDigest_zeros⟩
  uri := ⟨"file:///raw/1", by decide⟩
  contentType := ⟨"text/csv", by decide⟩
  fetchedAt := ⟨0, 0⟩
  byteCount := ⟨1, Nat.one_pos⟩

omit [Sha256] in
/-- One bar, from minute zero. -/
def sampleBar : OHLCTVBar :=
  Features.quietBar "BTC-USD" "VENUE" "1m" ⟨1, 0⟩ ⟨100, Decimal.zero_le_hundred⟩

omit [Sha256] in
/-- A page of this bar. -/
def samplePage (pageId : String) : HistoricalBackfillPage where
  pageId := pageId
  requestId := "REQUEST"
  dataKind := .ohlctv
  records := [.bar sampleBar]
  provenance := ⟨"SOURCE", samplePayload, rfl⟩
  records_match_kind := fun _ hr => (List.mem_singleton.mp hr) ▸ rfl
  raw_payload_of_records := fun _ hr => (List.mem_singleton.mp hr) ▸ rfl

omit [Sha256] in
/-- Any number of such pages can be delivered. -/
theorem deliverable_samplePages {pageIds : List String} (hne : pageIds ≠ []) :
    Deliverable (pageIds.map samplePage) "VENUE" "BTC-USD" := by
  have hbar : ∀ page ∈ pageIds.map samplePage, ∀ b, HistoricalRecord.bar b ∈ page.records →
      b = sampleBar := by
    intro page hpage b hb
    obtain ⟨pageId, -, rfl⟩ := List.mem_map.mp hpage
    exact HistoricalRecord.bar.inj (List.mem_singleton.mp hb)
  refine ⟨?_, ?_, ?_, ?_, ?_⟩
  · obtain ⟨pageId, hpageId⟩ := List.exists_mem_of_ne_nil _ hne
    exact ⟨samplePage pageId, List.mem_map_of_mem hpageId, List.cons_ne_nil _ _⟩
  · intro page hpage other hother
    obtain ⟨pageId, -, rfl⟩ := List.mem_map.mp hpage
    obtain ⟨otherId, -, rfl⟩ := List.mem_map.mp hother
    exact ⟨rfl, rfl, rfl⟩
  · intro page hpage b hb
    rw [hbar page hpage b hb]
    exact ⟨rfl, rfl⟩
  · intro page hpage t ht
    obtain ⟨pageId, -, rfl⟩ := List.mem_map.mp hpage
    cases List.mem_singleton.mp ht
  · intro page hpage other hother b b' hb hb'
    rw [hbar page hpage b hb, hbar other hother b' hb']

/-! ## Nothing is lost -/

/-- The delivered records, each with the page it is on. -/
def deliveredRecords (pages : List HistoricalBackfillPage) :
    List (String × String × HistoricalRecord) :=
  pages.flatMap fun page => page.records.map fun record => (page.pageId, page.requestId, record)

/-- A silver record with the page and the request it names. -/
def NormalizedRecord.lineage (entry : NormalizedRecord) : String × String × HistoricalRecord :=
  (entry.pageId, entry.requestId, entry.source)

theorem lineage_of_collected {scope : BatchScope} {pages : List HistoricalBackfillPage}
    {lists : List (List NormalizedRecord)} (h : List.Forall₂ (EntriesOf scope) pages lists) :
    lists.flatten.map NormalizedRecord.lineage = deliveredRecords pages := by
  induction h with
  | nil => rfl
  | @cons page entries pages lists hpage _ ih =>
      have hentries : entries.map NormalizedRecord.lineage =
          page.records.map fun record => (page.pageId, page.requestId, record) :=
        (map_eq_of_forall₂ hpage.entries fun record entry hentry => by
          rw [NormalizedRecord.lineage, hentry.pageId, hentry.requestId, hentry.source]).symm
      rw [List.flatten_cons, List.map_append, hentries, ih, deliveredRecords, deliveredRecords,
        List.flatMap_cons]

theorem lineage_of_normalize {pages : List HistoricalBackfillPage} {venueId instrumentId : String}
    {batch : NormalizedBatch}
    (h : normalizeHistoricalPages pages venueId instrumentId = .ok batch) :
    batch.entries.map NormalizedRecord.lineage = deliveredRecords pages := by
  obtain ⟨scope, lists, timeframe, -, hlists, -, -, hof⟩ := collected_of_normalize h
  rw [hof.entries]
  exact lineage_of_collected hlists

/-- The batch of a delivery holds every delivered record once, unchanged, in order of delivery and
with its page and request. Delivered in another order the pages make a batch of the same records. -/
theorem normalize_lossless {pages pages' : List HistoricalBackfillPage}
    {venueId instrumentId : String} {batch : NormalizedBatch} (hperm : pages.Perm pages')
    (h : normalizeHistoricalPages pages venueId instrumentId = .ok batch) :
    batch.entries.map NormalizedRecord.lineage = deliveredRecords pages ∧
      ∃ batch', normalizeHistoricalPages pages' venueId instrumentId = .ok batch' ∧
        (batch'.entries.map NormalizedRecord.lineage).Perm
          (batch.entries.map NormalizedRecord.lineage) := by
  obtain ⟨batch', hbatch'⟩ := exists_normalize ((deliverable_of_normalize h).perm hperm)
  refine ⟨lineage_of_normalize h, batch', hbatch', ?_⟩
  rw [lineage_of_normalize h, lineage_of_normalize hbatch']
  exact hperm.symm.flatMap_right _

omit [Sha256] in
/-- Two pages of one bar each, delivered in both orders. -/
theorem normalize_lossless_two_pages : ∃ batch batch',
    @normalizeHistoricalPages hashlibSha256 [samplePage "PAGE:1", samplePage "PAGE:2"] "VENUE"
      "BTC-USD" = .ok batch ∧
    @normalizeHistoricalPages hashlibSha256 [samplePage "PAGE:2", samplePage "PAGE:1"] "VENUE"
      "BTC-USD" = .ok batch' ∧
    (@NormalizedBatch.entries hashlibSha256 batch).map (@NormalizedRecord.lineage hashlibSha256) =
      [("PAGE:1", "REQUEST", .bar sampleBar), ("PAGE:2", "REQUEST", .bar sampleBar)] ∧
    ((@NormalizedBatch.entries hashlibSha256 batch').map
      (@NormalizedRecord.lineage hashlibSha256)).Perm
      ((@NormalizedBatch.entries hashlibSha256 batch).map
        (@NormalizedRecord.lineage hashlibSha256)) := by
  obtain ⟨batch, hbatch⟩ := @exists_normalize hashlibSha256 _ _ _
    (deliverable_samplePages (List.cons_ne_nil "PAGE:1" ["PAGE:2"]))
  obtain ⟨hlineage, batch', hbatch', hperm⟩ := @normalize_lossless hashlibSha256 _ _ _ _ _
    (List.Perm.swap (samplePage "PAGE:2") (samplePage "PAGE:1") []) hbatch
  exact ⟨batch, batch', hbatch, hbatch', hlineage, hperm⟩

end Delivery

end TaModel.Normalization
