import TaModel.Contracts.DecimalContext
import TaModel.Contracts.Features
import TaModel.Normalization.Silver

/-!
# The bar loop of the feature engines

What `features/ta.py` and `features/liquidity_cost.py` share: the checks on an OHLCTV batch, the
accumulators of the loop over its bars and the functions on them. A bar whose previous close is
zero has no return, so `returns` can be shorter than the list of closes says.
-/

set_option autoImplicit false

namespace TaModel.Features

open Contracts Normalization

variable [Sha256]

/-! ## Functions on decimals -/

/-- `_return`. -/
def returnOf (close : Decimal) : Option Decimal → Option Decimal
  | none => none
  | some previousClose =>
      if previousClose = 0 then none else some (rounded (rounded (close / previousClose) - 1))

/-- `_mean`. -/
def mean (values : List Decimal) : Decimal :=
  rounded (decimalSum values / values.length)

/-- `_volatility`. -/
def volatility (values : List Decimal) : Decimal :=
  let m := mean values
  let variance := rounded
    (decimalSum (values.map fun value => rounded (rounded (value - m) ^ 2)) / values.length)
  decimalSqrt variance

/-- `values[-n:]` for a positive `n`. -/
def lastN {α : Type} (n : Nat) (values : List α) : List α :=
  values.drop (values.length - n)

/-- `_quality_flags`. -/
def qualityFlagsOf (values : List (String × FeatureValue)) : List FeatureQualityFlag :=
  if values.any fun entry => entry.2.isNone then [.missing, .insufficientHistory] else []

/-! ## Accumulators -/

/-- The accumulators of the loop, and the ids of the bars read. -/
structure BarHistory where
  recordIds : List String := []
  closes : List Decimal := []
  returns : List Decimal := []

namespace BarHistory

/-- The return of the next bar. -/
def nextReturn (history : BarHistory) (record : SilverOHLCTVRecord) : Option Decimal :=
  returnOf record.bar.close history.closes.getLast?

/-- One turn of the loop. -/
def read (history : BarHistory) (record : SilverOHLCTVRecord) : BarHistory where
  recordIds := history.recordIds ++ [record.silverRecordId]
  closes := history.closes ++ [record.bar.close.val]
  returns := history.returns ++ (history.nextReturn record).toList

/-- The accumulators after some bars. -/
def readEach (history : BarHistory) (records : List SilverOHLCTVRecord) : BarHistory :=
  records.foldl read history

/-- `_volatility(returns[-n:]) if len(returns) >= n else None`. -/
def volatilityOf (history : BarHistory) (n : Nat) : Option Decimal :=
  if n ≤ history.returns.length then some (volatility (lastN n history.returns)) else none

end BarHistory

/-! ## Checks -/

/-- The messages of one engine's `_validate_ohlctv_batch`. -/
structure BatchMessages where
  notOhlctv : String
  mixedRecords : String

/-- The loop of `_validate_ohlctv_batch`. -/
def validateBars (timeframe : Option String) :
    Option AwareDatetime → List SilverOHLCTVRecord → Raises Unit
  | _, [] => .ok ()
  | previousCloseTs, record :: records => do
      require (some record.timeframe = timeframe) "record timeframe must match batch timeframe"
      require (record.bar.sourceTs ≤ record.bar.closeTs)
        "OHLCTV source_ts must be available at or before close_ts"
      require (∀ t ∈ previousCloseTs, t < record.bar.closeTs)
        "OHLCTV close_ts must be strictly increasing"
      validateBars timeframe (some record.bar.closeTs) records

/-- `_validate_ohlctv_batch`. -/
def validateOhlctvBatch (messages : BatchMessages) (batch : SilverNormalizationBatch) :
    Raises (List SilverOHLCTVRecord) := do
  require (batch.dataKind = .ohlctv ∧ batch.timeframe ≠ none) messages.notOhlctv
  require (∀ record ∈ batch.records, record.kind = .ohlctv) messages.mixedRecords
  validateBars batch.timeframe none batch.ohlctvRecords
  return batch.ohlctvRecords

/-! ## Accepted bars -/

/-- The bars that pass `_validate_ohlctv_batch`. -/
structure BarsAccepted (timeframe : Option String) (records : List SilverOHLCTVRecord) : Prop where
  timeframe_matches : ∀ r ∈ records, some r.timeframe = timeframe
  available : ∀ r ∈ records, r.bar.sourceTs ≤ r.bar.closeTs
  increasing : records.Pairwise fun r r' => r.bar.closeTs < r'.bar.closeTs

theorem BarsAccepted.sublist {timeframe : Option String} {records kept : List SilverOHLCTVRecord}
    (h : BarsAccepted timeframe records) (hkept : kept.Sublist records) :
    BarsAccepted timeframe kept :=
  ⟨fun r hr => h.timeframe_matches r (hkept.subset hr), fun r hr => h.available r (hkept.subset hr),
    h.increasing.sublist hkept⟩

/-- The loop compares neighbours only; that is enough for all pairs. -/
theorem validateBars_eq_ok_iff (timeframe : Option String) (previous : Option AwareDatetime)
    (records : List SilverOHLCTVRecord) :
    validateBars timeframe previous records = .ok () ↔
      BarsAccepted timeframe records ∧ ∀ t ∈ previous, ∀ r ∈ records, t < r.bar.closeTs := by
  induction records generalizing previous with
  | nil => simp [validateBars, BarsAccepted.mk]
  | cons record records ih =>
      rw [validateBars, check_bind_eq_ok_iff, check_bind_eq_ok_iff, check_bind_eq_ok_iff,
        require_eq_ok_iff, require_eq_ok_iff, require_eq_ok_iff, ih]
      constructor
      · rintro ⟨htimeframe, havailable, hprevious, haccepted, hlater⟩
        refine ⟨⟨?_, ?_, ?_⟩, ?_⟩
        · exact List.forall_mem_cons.mpr ⟨htimeframe, haccepted.timeframe_matches⟩
        · exact List.forall_mem_cons.mpr ⟨havailable, haccepted.available⟩
        · exact List.pairwise_cons.mpr ⟨hlater _ rfl, haccepted.increasing⟩
        · intro t ht
          refine List.forall_mem_cons.mpr ⟨hprevious t ht, fun r hr => ?_⟩
          exact lt_trans (hprevious t ht) (hlater _ rfl r hr)
      · rintro ⟨haccepted, hprevious⟩
        obtain ⟨hlater, hincreasing⟩ := List.pairwise_cons.mp haccepted.increasing
        refine ⟨haccepted.timeframe_matches record List.mem_cons_self,
          haccepted.available record List.mem_cons_self,
          fun t ht => hprevious t ht record List.mem_cons_self,
          haccepted.sublist (List.sublist_cons_self record records), ?_⟩
        rintro t ⟨⟩ r hr
        exact hlater r hr

theorem validateOhlctvBatch_eq_ok_iff (messages : BatchMessages)
    (batch : SilverNormalizationBatch) (records : List SilverOHLCTVRecord) :
    validateOhlctvBatch messages batch = .ok records ↔
      batch.dataKind = .ohlctv ∧ BarsAccepted batch.timeframe batch.ohlctvRecords ∧
        batch.ohlctvRecords = records := by
  rw [validateOhlctvBatch, check_bind_eq_ok_iff, check_bind_eq_ok_iff, check_bind_eq_ok_iff,
    require_eq_ok_iff, require_eq_ok_iff, validateBars_eq_ok_iff]
  constructor
  · rintro ⟨⟨hkind, -⟩, -, ⟨haccepted, -⟩, hrecords⟩
    exact ⟨hkind, haccepted, Except.ok.inj hrecords⟩
  · rintro ⟨hkind, haccepted, rfl⟩
    have htimeframe : batch.timeframe ≠ none :=
      Option.isSome_iff_ne_none.mp (batch.timeframe_of_kind.mpr hkind)
    refine ⟨⟨hkind, htimeframe⟩, fun r hr => ?_, ⟨haccepted, nofun⟩, rfl⟩
    exact (batch.records_match_kind r hr).trans hkind

/-- An OHLCTV batch holds bars only. -/
theorem map_ohlctvRecords {batch : SilverNormalizationBatch} (h : batch.dataKind = .ohlctv) :
    batch.ohlctvRecords.map SilverRecord.ohlctv = batch.records := by
  have hbars : ∀ records : List SilverRecord, (∀ r ∈ records, r.kind = .ohlctv) →
      (records.filterMap SilverRecord.asOhlctv).map SilverRecord.ohlctv = records := by
    intro records hkind
    induction records with
    | nil => rfl
    | cons record records ih =>
        obtain ⟨hhead, htail⟩ := List.forall_mem_cons.mp hkind
        cases record with
        | ohlctv r => exact congrArg (List.cons _) (ih htail)
        | trade r => cases hhead
  exact hbars batch.records fun r hr => (batch.records_match_kind r hr).trans h

theorem ohlctvRecords_ne_nil {batch : SilverNormalizationBatch} (h : batch.dataKind = .ohlctv) :
    batch.ohlctvRecords ≠ [] := by
  intro hnil
  have hrecords := map_ohlctvRecords h
  rw [hnil] at hrecords
  exact batch.records_nonempty hrecords.symm

/-! ## Cuts -/

/-- The record is a bar that has closed by `t`. -/
def closedBy (t : AwareDatetime) : SilverRecord → Bool
  | .ohlctv record => decide (record.bar.closeTs ≤ t)
  | .trade _ => false

/-- The bars of a list that have closed by `t`. -/
def barsClosedBy (t : AwareDatetime) (records : List SilverOHLCTVRecord) :
    List SilverOHLCTVRecord :=
  records.filter fun record => decide (record.bar.closeTs ≤ t)

/-- The batch cut to the records that have closed by `t`. -/
def cutAt (t : AwareDatetime) (batch : SilverNormalizationBatch) :
    Option SilverNormalizationBatch :=
  if hnil : batch.records.filter (closedBy t) = [] then none
  else some (batch.withRecords _ hnil fun _ hr => (List.mem_filter.mp hr).1)

theorem filterMap_filter_closedBy (t : AwareDatetime) (records : List SilverRecord) :
    (records.filter (closedBy t)).filterMap SilverRecord.asOhlctv =
      barsClosedBy t (records.filterMap SilverRecord.asOhlctv) := by
  induction records with
  | nil => rfl
  | cons record records ih =>
      cases record with
      | trade r => exact ih
      | ohlctv r =>
          by_cases hclosed : r.bar.closeTs ≤ t
          · rw [List.filter_cons_of_pos (by simpa [closedBy] using hclosed)]
            simp only [List.filterMap_cons, SilverRecord.asOhlctv, ih, barsClosedBy]
            rw [List.filter_cons_of_pos (by simpa using hclosed)]
          · rw [List.filter_cons_of_neg (by simpa [closedBy] using hclosed)]
            simp only [List.filterMap_cons, SilverRecord.asOhlctv, ih, barsClosedBy]
            rw [List.filter_cons_of_neg (by simpa using hclosed)]

/-- What a cut keeps of a batch. -/
theorem cutAt_eq_some {t : AwareDatetime} {batch cut : SilverNormalizationBatch}
    (h : cutAt t batch = some cut) :
    cut.instrumentId = batch.instrumentId ∧ cut.venueId = batch.venueId ∧
      cut.timeframe = batch.timeframe ∧ cut.dataKind = batch.dataKind ∧
      cut.records = batch.records.filter (closedBy t) ∧
      cut.ohlctvRecords = barsClosedBy t batch.ohlctvRecords := by
  rw [cutAt] at h
  split_ifs at h
  cases h
  exact ⟨rfl, rfl, rfl, rfl, rfl, filterMap_filter_closedBy t batch.records⟩

/-- A batch has a cut exactly when one of its bars has closed. -/
theorem cutAt_eq_none_iff {t : AwareDatetime} {batch : SilverNormalizationBatch}
    (hkind : batch.dataKind = .ohlctv) :
    cutAt t batch = none ↔ barsClosedBy t batch.ohlctvRecords = [] := by
  have hbars := filterMap_filter_closedBy t batch.records
  rw [SilverNormalizationBatch.ohlctvRecords, ← hbars, cutAt]
  split_ifs with hnil
  · simp [hnil]
  · simp only [false_iff]
    obtain ⟨record, hrecord⟩ := List.exists_mem_of_ne_nil _ hnil
    have hbar := (batch.records_match_kind record (List.mem_filter.mp hrecord).1).trans hkind
    cases record with
    | trade r => cases hbar
    | ohlctv r => exact List.ne_nil_of_mem (List.mem_filterMap.mpr ⟨_, hrecord, rfl⟩)

/-- Cutting an accepted stream at the close of one of its bars keeps the bars up to it. -/
theorem barsClosedBy_eq_take {timeframe : Option String} {records : List SilverOHLCTVRecord}
    (h : BarsAccepted timeframe records) {i : Nat} {record : SilverOHLCTVRecord}
    (hi : records[i]? = some record) :
    barsClosedBy record.bar.closeTs records = records.take (i + 1) := by
  have hincreasing := h.increasing
  clear h
  induction records generalizing i with
  | nil => cases hi
  | cons first records ih =>
      obtain ⟨hlater, htail⟩ := List.pairwise_cons.mp hincreasing
      cases i with
      | zero =>
          cases hi
          have hnone : barsClosedBy record.bar.closeTs records = [] := by
            rw [barsClosedBy, List.filter_eq_nil_iff]
            intro r hr
            simpa [AwareDatetime.not_le_iff] using hlater r hr
          rw [barsClosedBy, List.filter_cons_of_pos (by simp)]
          exact congrArg (List.cons record) hnone
      | succ i =>
          have hmem := List.mem_of_getElem? (show records[i]? = some record from hi)
          rw [barsClosedBy, List.filter_cons_of_pos (by simpa using (hlater record hmem).le),
            List.take_succ_cons]
          exact congrArg (List.cons first) (ih hi htail)

/-! ## Batches of bars -/

/-- A bar that opens a microsecond before it closes and has one price. -/
def quietBar (instrumentId venueId timeframe : String) (closeTs : AwareDatetime)
    (price : NonNegativeDecimal) : OHLCTVBar where
  instrumentId := instrumentId
  venueId := venueId
  timeframe := timeframe
  openTs := ⟨closeTs.utc - 1, closeTs.offset⟩
  closeTs := closeTs
  openPrice := price
  high := price
  low := price
  close := price
  baseVolume := ⟨0, Decimal.zero_le_zero⟩
  quoteVolume := none
  tradeCount := none
  vwap := none
  sourceTs := closeTs
  qualityFlags := []
  rawPayloadId := "RAW:1"
  open_before_close := Int.sub_lt_self _ Int.one_pos
  high_is_max := ⟨le_refl _, le_refl _, le_refl _⟩
  low_is_min := ⟨le_refl _, le_refl _, le_refl _⟩
  vwap_in_range := nofun

/-- The batch of some bars of one instrument, venue and timeframe. -/
def batchOfBars (instrumentId venueId timeframe : String) (bars : List OHLCTVBar)
    (hne : bars ≠ [])
    (hscope : ∀ bar ∈ bars, bar.instrumentId = instrumentId ∧ bar.venueId = venueId) :
    SilverNormalizationBatch where
  dataKind := .ohlctv
  sourceId := "SOURCE"
  venueId := venueId
  instrumentId := instrumentId
  timeframe := some timeframe
  records := bars.map fun bar => .ohlctv (.ofBar "SOURCE" bar)
  records_nonempty := by simpa using hne
  records_match_kind := by
    intro r hr
    obtain ⟨bar, -, rfl⟩ := List.mem_map.mp hr
    rfl
  timeframe_of_kind := by simp
  records_match_scope := by
    intro r hr
    obtain ⟨bar, hbar, rfl⟩ := List.mem_map.mp hr
    exact ⟨rfl, (hscope bar hbar).2, (hscope bar hbar).1⟩

theorem ohlctvRecords_batchOfBars (instrumentId venueId timeframe : String)
    (bars : List OHLCTVBar) (hne : bars ≠ [])
    (hscope : ∀ bar ∈ bars, bar.instrumentId = instrumentId ∧ bar.venueId = venueId) :
    (batchOfBars instrumentId venueId timeframe bars hne hscope).ohlctvRecords =
      bars.map (SilverOHLCTVRecord.ofBar "SOURCE") := by
  simp only [SilverNormalizationBatch.ohlctvRecords, batchOfBars, List.filterMap_map]
  exact congrFun (List.filterMap_eq_map (f := SilverOHLCTVRecord.ofBar "SOURCE")) bars

theorem barsAccepted_batchOfBars {instrumentId venueId timeframe : String}
    {bars : List OHLCTVBar} {hne : bars ≠ []}
    {hscope : ∀ bar ∈ bars, bar.instrumentId = instrumentId ∧ bar.venueId = venueId}
    (htimeframe : ∀ bar ∈ bars, bar.timeframe = timeframe)
    (havailable : ∀ bar ∈ bars, bar.sourceTs ≤ bar.closeTs)
    (hincreasing : bars.Pairwise fun bar bar' => bar.closeTs < bar'.closeTs) :
    BarsAccepted (batchOfBars instrumentId venueId timeframe bars hne hscope).timeframe
      (batchOfBars instrumentId venueId timeframe bars hne hscope).ohlctvRecords := by
  rw [ohlctvRecords_batchOfBars]
  refine ⟨?_, ?_, ?_⟩
  · intro r hr
    obtain ⟨bar, hbar, rfl⟩ := List.mem_map.mp hr
    exact congrArg some (htimeframe bar hbar)
  · intro r hr
    obtain ⟨bar, hbar, rfl⟩ := List.mem_map.mp hr
    exact havailable bar hbar
  · exact List.pairwise_map.mpr hincreasing

/-- The close of minute `n`. -/
def minuteClose (n : Int) : AwareDatetime := ⟨n * 60000000, 0⟩

/-- One bar of a timeframe, closing at minute `n`. -/
def oneBar (timeframe : String) (n : Int) : OHLCTVBar :=
  quietBar "BTC-USD" "VENUE" timeframe (minuteClose n) ⟨100, Decimal.zero_le_hundred⟩

end TaModel.Features
