import TaModel.Features.BarHistory
import TaModel.Contracts.InstrumentMaster
import TaModel.Library.StateFold

/-!
# Liquidity and cost features

`build_liquidity_cost_feature_vectors` of `features/liquidity_cost.py`: at the close of every bar the
bars so far, the latest quote that was available and the one fee schedule that was active.
-/

set_option autoImplicit false

namespace TaModel.Features

open Contracts Normalization Library

/-- `FEATURE_VERSION`. -/
def liquidityFeatureVersion : String := "liquidity-cost-pit-1.0.0"

/-- The messages of `_validate_ohlctv_batch`. -/
def liquidityBatchMessages : BatchMessages where
  notOhlctv := "liquidity/cost features require an OHLCTV batch"
  mixedRecords := "liquidity/cost features require OHLCTV records"

/-- `_validate_fee_schedules`. -/
def validateFeeSchedules (schedules : List FeeSchedule) (venueId : String) :
    Raises (List FeeSchedule) := do
  require (schedules ≠ []) "at least one fee schedule is required"
  require (∀ schedule ∈ schedules, schedule.venueId = venueId)
    "fee schedule venue must match feature batch"
  return schedules

/-- The schedules active at an instant. -/
def activeFeeSchedules (schedules : List FeeSchedule) (featureTs : AwareDatetime) :
    List FeeSchedule :=
  schedules.filter fun schedule => schedule.window.isEffective featureTs

/-- `_active_fee_schedule`. -/
def activeFeeSchedule (schedules : List FeeSchedule) (featureTs : AwareDatetime) :
    Raises FeeSchedule :=
  match activeFeeSchedules schedules featureTs with
  | [schedule] => .ok schedule
  | _ => .error "exactly one fee schedule must be active at feature_ts"

section Vectors

variable [Sha256]

/-- The loop of `_validate_quotes`. -/
def validateQuotesFrom (instrumentId venueId : String) :
    Option AwareDatetime → List QuoteFeatureInput → Raises Unit
  | _, [] => .ok ()
  | previousEventTs, quote :: quotes => do
      require (quote.instrumentId = instrumentId ∧ quote.venueId = venueId)
        "quote scope must match feature batch"
      require (quote.bestBid.val < quote.bestAsk.val) "quote must not be crossed or locked"
      require (∀ t ∈ quote.sourceTs, quote.eventTs ≤ t) "quote source_ts must not precede event_ts"
      require (∀ t ∈ previousEventTs, t < quote.eventTs)
        "quote event_ts must be strictly increasing"
      validateQuotesFrom instrumentId venueId (some quote.eventTs) quotes

/-- `_validate_quotes`. -/
def validateQuotes (quotes : List QuoteFeatureInput) (instrumentId venueId : String) :
    Raises (List QuoteFeatureInput) := do
  require (quotes ≠ []) "at least one quote is required"
  validateQuotesFrom instrumentId venueId none quotes
  return quotes

/-- The quote's event and source times are not after an instant. -/
def QuoteFeatureInput.availableAt (quote : QuoteFeatureInput) (featureTs : AwareDatetime) : Bool :=
  decide (quote.eventTs ≤ featureTs) && decide (∀ t ∈ quote.sourceTs, t ≤ featureTs)

/-- `_latest_quote`. -/
def latestQuote (quotes : List QuoteFeatureInput) (featureTs : AwareDatetime) :
    Raises QuoteFeatureInput :=
  match (quotes.filter fun quote => QuoteFeatureInput.availableAt quote featureTs).getLast? with
  | none => .error "no quote is available at feature_ts"
  | some quote => .ok quote

/-- `_quote_base_liquidity`. -/
def quoteBaseLiquidity (quote : QuoteFeatureInput) : Option Decimal :=
  match quote.bidSize, quote.askSize with
  | some bid, some ask => some (rounded (bid.val + ask.val))
  | _, _ => none

/-- `_quote_quote_liquidity`. -/
def quoteQuoteLiquidity (quote : QuoteFeatureInput) (midPrice : Decimal) : Option Decimal :=
  (quoteBaseLiquidity quote).map fun liquidity => rounded (liquidity * midPrice)

/-- The features of a bar, its quote and its fee schedule. -/
def liquidityValues (volatilityWindow : Nat) (after : BarHistory) (bar : OHLCTVBar)
    (quote : QuoteFeatureInput) (schedule : FeeSchedule) : List (String × FeatureValue) :=
  let spreadAbs := rounded (quote.bestAsk.val - quote.bestBid.val)
  let midPrice := rounded (rounded (quote.bestBid.val + quote.bestAsk.val) / 2)
  let relative := rounded (spreadAbs / midPrice)
  let taker : Decimal := schedule.takerFeeRate
  [ ("spread_abs", some spreadAbs),
    ("spread_bps", some (rounded (relative * 10000))),
    ("half_spread_bps", some (rounded (relative * 5000))),
    ("mid_price", some midPrice),
    ("bid_size", quote.bidSize.map Subtype.val),
    ("ask_size", quote.askSize.map Subtype.val),
    ("top_of_book_base_liquidity", quoteBaseLiquidity quote),
    ("top_of_book_quote_liquidity", quoteQuoteLiquidity quote midPrice),
    ("base_volume", some bar.baseVolume.val),
    ("quote_volume", bar.quoteVolume.map Subtype.val),
    ("trade_count", bar.tradeCount.map fun n => (n : Decimal)),
    ("realized_volatility_" ++ toString volatilityWindow, after.volatilityOf volatilityWindow),
    ("maker_fee_rate", some schedule.makerFeeRate.val),
    ("taker_fee_rate", some taker),
    ("round_trip_taker_fee_rate", some (rounded (taker * 2))),
    ("taker_fee_bps", some (rounded (taker * 10000))),
    ("one_way_taker_cost_bps",
      some (rounded (rounded (relative * 5000) + rounded (taker * 10000)))),
    ("round_trip_taker_cost_bps",
      some (rounded (rounded (relative * 10000) + rounded (taker * 20000)))),
    ("min_fee", some schedule.minFee.val) ]

/-- The feature names differ from each other. -/
theorem liquidityKeys_nodup (volatilityWindow : Nat) (after : BarHistory) (bar : OHLCTVBar)
    (quote : QuoteFeatureInput) (schedule : FeeSchedule) :
    ((liquidityValues volatilityWindow after bar quote schedule).map Prod.fst).Nodup := by
  -- only the name with the window varies, and no other name begins like it
  have hnames : (liquidityValues volatilityWindow after bar quote schedule).map Prod.fst =
      ["spread_abs", "spread_bps", "half_spread_bps", "mid_price", "bid_size", "ask_size",
        "top_of_book_base_liquidity", "top_of_book_quote_liquidity", "base_volume",
        "quote_volume", "trade_count"] ++ ("realized_volatility_" ++ toString volatilityWindow) ::
      ["maker_fee_rate", "taker_fee_rate", "round_trip_taker_fee_rate", "taker_fee_bps",
        "one_way_taker_cost_bps", "round_trip_taker_cost_bps", "min_fee"] := rfl
  rw [hnames, List.nodup_middle, List.nodup_cons]
  refine ⟨fun hmem => ?_, by decide⟩
  have hletters : ∀ name ∈ ["spread_abs", "spread_bps", "half_spread_bps", "mid_price",
      "bid_size", "ask_size", "top_of_book_base_liquidity", "top_of_book_quote_liquidity",
      "base_volume", "quote_volume", "trade_count"] ++ ["maker_fee_rate", "taker_fee_rate",
      "round_trip_taker_fee_rate", "taker_fee_bps", "one_way_taker_cost_bps",
      "round_trip_taker_cost_bps", "min_fee"], name.toList.take 2 ≠ ['r', 'e'] := by decide
  refine hletters _ hmem ?_
  simp [String.toList_append]

/-- `lookback_window`. -/
def liquidityLookback (volatilityWindow : Nat) : String :=
  "max(" ++ toString (volatilityWindow + 1) ++ " bars, latest quote, active fee)"

/-- The feature vector of a bar with its quote and its fee schedule. -/
def liquidityVector (batch : SilverNormalizationBatch) (volatilityWindow : Nat)
    (history : BarHistory) (record : SilverOHLCTVRecord) (quote : QuoteFeatureInput)
    (schedule : FeeSchedule) : FeatureVector :=
  let featureTs := record.bar.closeTs
  let after := history.read record
  let values : StringDict FeatureValue :=
    ⟨liquidityValues volatilityWindow after record.bar quote schedule,
      liquidityKeys_nodup volatilityWindow after record.bar quote schedule⟩
  let qualityFlags := qualityFlagsOf values.entries
  let inputSnapshotId := buildFeatureInputSnapshotId
    (after.recordIds ++ [quote.quoteFeatureInputId, schedule.feeScheduleId])
  let lookback := liquidityLookback volatilityWindow
  { featureVectorId := buildFeatureVectorId batch.instrumentId batch.venueId featureTs
      liquidityFeatureVersion lookback values inputSnapshotId qualityFlags,
    instrumentId := batch.instrumentId, venueId := batch.venueId, featureTs := featureTs,
    featureVersion := liquidityFeatureVersion, lookbackWindow := lookback, values := values,
    inputSnapshotId := inputSnapshotId, qualityFlags := qualityFlags,
    values_nonempty := List.cons_ne_nil _ _,
    id_is_deterministic := rfl }

/-- One turn of the loop of `build_liquidity_cost_feature_vectors`. -/
def liquidityStep (batch : SilverNormalizationBatch) (quotes : List QuoteFeatureInput)
    (schedules : List FeeSchedule) (volatilityWindow : Nat) (history : BarHistory)
    (record : SilverOHLCTVRecord) : Raises (FeatureVector × BarHistory) := do
  let quote ← latestQuote quotes record.bar.closeTs
  let schedule ← activeFeeSchedule schedules record.bar.closeTs
  return (liquidityVector batch volatilityWindow history record quote schedule,
    history.read record)

/-- `build_liquidity_cost_feature_vectors`. -/
def buildLiquidityCostFeatureVectors (batch : SilverNormalizationBatch)
    (quotes : List QuoteFeatureInput) (feeSchedules : List FeeSchedule)
    (volatilityWindow : Int) : Raises (List FeatureVector) := do
  require (0 < volatilityWindow) "volatility_window must be positive"
  let records ← validateOhlctvBatch liquidityBatchMessages batch
  require (records ≠ []) "at least one OHLCTV record is required"
  let quoteInputs ← validateQuotes quotes batch.instrumentId batch.venueId
  let schedules ← validateFeeSchedules feeSchedules batch.venueId
  let (vectors, _) ←
    runSteps (liquidityStep batch quoteInputs schedules volatilityWindow.toNat) {} records
  return vectors

/-! ## What a run is -/

/-- The quotes pass their checks. -/
structure QuotesAccepted (instrumentId venueId : String) (quotes : List QuoteFeatureInput) :
    Prop where
  nonempty : quotes ≠ []
  scope : ∀ q ∈ quotes, q.instrumentId = instrumentId ∧ q.venueId = venueId
  available_after_event : ∀ q ∈ quotes, ∀ t ∈ q.sourceTs, q.eventTs ≤ t
  increasing : quotes.Pairwise fun q q' => q.eventTs < q'.eventTs

theorem validateQuotesFrom_eq_ok_iff (instrumentId venueId : String)
    (previous : Option AwareDatetime) (quotes : List QuoteFeatureInput) :
    validateQuotesFrom instrumentId venueId previous quotes = .ok () ↔
      (∀ q ∈ quotes, (q.instrumentId = instrumentId ∧ q.venueId = venueId) ∧
        ∀ t ∈ q.sourceTs, q.eventTs ≤ t) ∧
      (quotes.Pairwise fun q q' => q.eventTs < q'.eventTs) ∧
      ∀ t ∈ previous, ∀ q ∈ quotes, t < q.eventTs := by
  induction quotes generalizing previous with
  | nil => simp [validateQuotesFrom]
  | cons quote quotes ih =>
      rw [validateQuotesFrom, check_bind_eq_ok_iff, check_bind_eq_ok_iff, check_bind_eq_ok_iff,
        check_bind_eq_ok_iff, require_eq_ok_iff, require_eq_ok_iff, require_eq_ok_iff,
        require_eq_ok_iff, ih]
      constructor
      · rintro ⟨hscope, -, hsource, hprevious, hquotes, hincreasing, hlater⟩
        refine ⟨List.forall_mem_cons.mpr ⟨⟨hscope, hsource⟩, hquotes⟩,
          List.pairwise_cons.mpr ⟨hlater _ rfl, hincreasing⟩, fun t ht => ?_⟩
        refine List.forall_mem_cons.mpr ⟨hprevious t ht, fun q hq => ?_⟩
        exact lt_trans (hprevious t ht) (hlater _ rfl q hq)
      · rintro ⟨hquotes, hincreasing, hprevious⟩
        obtain ⟨⟨hscope, hsource⟩, htail⟩ := List.forall_mem_cons.mp hquotes
        obtain ⟨hlater, hrest⟩ := List.pairwise_cons.mp hincreasing
        refine ⟨hscope, quote.not_crossed, hsource,
          fun t ht => hprevious t ht quote List.mem_cons_self, htail, hrest, ?_⟩
        rintro t ⟨⟩ q hq
        exact hlater q hq

theorem validateQuotes_eq_ok_iff (quotes : List QuoteFeatureInput) (instrumentId venueId : String)
    (accepted : List QuoteFeatureInput) :
    validateQuotes quotes instrumentId venueId = .ok accepted ↔
      QuotesAccepted instrumentId venueId quotes ∧ quotes = accepted := by
  rw [validateQuotes, check_bind_eq_ok_iff, check_bind_eq_ok_iff, require_eq_ok_iff,
    validateQuotesFrom_eq_ok_iff]
  constructor
  · rintro ⟨hne, ⟨hquotes, hincreasing, -⟩, haccepted⟩
    exact ⟨⟨hne, fun q hq => (hquotes q hq).1, fun q hq => (hquotes q hq).2, hincreasing⟩,
      Except.ok.inj haccepted⟩
  · rintro ⟨h, rfl⟩
    exact ⟨h.nonempty, ⟨fun q hq => ⟨h.scope q hq, h.available_after_event q hq⟩, h.increasing,
      nofun⟩, rfl⟩

omit [Sha256] in
theorem validateFeeSchedules_eq_ok_iff (schedules : List FeeSchedule) (venueId : String)
    (accepted : List FeeSchedule) :
    validateFeeSchedules schedules venueId = .ok accepted ↔
      (schedules ≠ [] ∧ ∀ s ∈ schedules, s.venueId = venueId) ∧ schedules = accepted := by
  rw [validateFeeSchedules, check_bind_eq_ok_iff, check_bind_eq_ok_iff, require_eq_ok_iff,
    require_eq_ok_iff]
  constructor
  · rintro ⟨hne, hvenue, haccepted⟩
    exact ⟨⟨hne, hvenue⟩, Except.ok.inj haccepted⟩
  · rintro ⟨⟨hne, hvenue⟩, rfl⟩
    exact ⟨hne, hvenue, rfl⟩

/-- A step gives the vector of the latest quote and the active schedule. -/
theorem liquidityStep_eq_ok_iff (batch : SilverNormalizationBatch)
    (quotes : List QuoteFeatureInput) (schedules : List FeeSchedule) (n : Nat)
    (history : BarHistory) (record : SilverOHLCTVRecord) (out : FeatureVector × BarHistory) :
    liquidityStep batch quotes schedules n history record = .ok out ↔
      ∃ quote schedule, latestQuote quotes record.bar.closeTs = .ok quote ∧
        activeFeeSchedule schedules record.bar.closeTs = .ok schedule ∧
        out = (liquidityVector batch n history record quote schedule, history.read record) := by
  rw [liquidityStep, bind_eq_ok_iff]
  constructor
  · rintro ⟨quote, hquote, h⟩
    obtain ⟨schedule, hschedule, h⟩ := (bind_eq_ok_iff _ _ _).mp h
    exact ⟨quote, schedule, hquote, hschedule, (Except.ok.inj h).symm⟩
  · rintro ⟨quote, schedule, hquote, hschedule, rfl⟩
    exact ⟨quote, hquote, (bind_eq_ok_iff _ _ _).mpr ⟨schedule, hschedule, rfl⟩⟩

/-- A run of the engine: its inputs pass the checks and its output is the loop's. -/
theorem buildLiquidityCostFeatureVectors_eq_ok_iff (batch : SilverNormalizationBatch)
    (quotes : List QuoteFeatureInput) (schedules : List FeeSchedule) (n : Int)
    (vectors : List FeatureVector) :
    buildLiquidityCostFeatureVectors batch quotes schedules n = .ok vectors ↔
      0 < n ∧ (batch.dataKind = .ohlctv ∧ BarsAccepted batch.timeframe batch.ohlctvRecords) ∧
      QuotesAccepted batch.instrumentId batch.venueId quotes ∧
      (schedules ≠ [] ∧ ∀ s ∈ schedules, s.venueId = batch.venueId) ∧
      ∃ history, runSteps (liquidityStep batch quotes schedules n.toNat) {} batch.ohlctvRecords =
        .ok (vectors, history) := by
  rw [buildLiquidityCostFeatureVectors, check_bind_eq_ok_iff, require_eq_ok_iff, bind_eq_ok_iff]
  constructor
  · rintro ⟨hn, records, hrecords, h⟩
    obtain ⟨hkind, haccepted, rfl⟩ := (validateOhlctvBatch_eq_ok_iff _ _ _).mp hrecords
    obtain ⟨-, h⟩ := (check_bind_eq_ok_iff _ _ _).mp h
    obtain ⟨accepted, hquotes, h⟩ := (bind_eq_ok_iff _ _ _).mp h
    obtain ⟨haccepted', rfl⟩ := (validateQuotes_eq_ok_iff _ _ _ _).mp hquotes
    obtain ⟨active, hschedules, h⟩ := (bind_eq_ok_iff _ _ _).mp h
    obtain ⟨hvenues, rfl⟩ := (validateFeeSchedules_eq_ok_iff _ _ _).mp hschedules
    obtain ⟨⟨out, history⟩, hrun, hout⟩ := (bind_eq_ok_iff _ _ _).mp h
    cases hout
    exact ⟨hn, ⟨hkind, haccepted⟩, haccepted', hvenues, history, hrun⟩
  · rintro ⟨hn, ⟨hkind, haccepted⟩, hquotes, hschedules, history, hrun⟩
    refine ⟨hn, _, (validateOhlctvBatch_eq_ok_iff _ _ _).mpr ⟨hkind, haccepted, rfl⟩, ?_⟩
    rw [require_of (ohlctvRecords_ne_nil hkind), ok_bind,
      (validateQuotes_eq_ok_iff _ _ _ _).mpr ⟨hquotes, rfl⟩, ok_bind,
      (validateFeeSchedules_eq_ok_iff _ _ _).mpr ⟨hschedules, rfl⟩, ok_bind, hrun]
    rfl

/-- The vector at a position of a run is the one of its bar after the bars before it. -/
theorem liquidityVector_of_run {batch : SilverNormalizationBatch}
    {quotes : List QuoteFeatureInput} {schedules : List FeeSchedule} {n : Nat}
    {history : BarHistory} {records : List SilverOHLCTVRecord}
    {out : List FeatureVector × BarHistory}
    (h : runSteps (liquidityStep batch quotes schedules n) history records = .ok out) {i : Nat}
    {v : FeatureVector} (hv : out.1[i]? = some v) :
    ∃ record quote schedule, records[i]? = some record ∧
      latestQuote quotes record.bar.closeTs = .ok quote ∧
      activeFeeSchedule schedules record.bar.closeTs = .ok schedule ∧
      v = liquidityVector batch n (history.readEach (records.take i)) record quote schedule := by
  induction records generalizing history out i with
  | nil =>
      cases h
      cases hv
  | cons record records ih =>
      obtain ⟨vector, next, rest, hstep, hrest, hout⟩ := (runSteps_cons_eq_ok_iff _ _ _ _).mp h
      obtain ⟨quote, schedule, hquote, hschedule, hnext⟩ :=
        (liquidityStep_eq_ok_iff _ _ _ _ _ _ _).mp hstep
      cases hnext
      rw [hout] at hv
      cases i with
      | zero =>
          cases hv
          exact ⟨record, quote, schedule, rfl, hquote, hschedule, rfl⟩
      | succ i => exact ih hrest hv

/-! ## Runs with one quote and one schedule -/

/-- A quote of one unit of spread at an instant. -/
def quoteAt (instrumentId venueId : String) (eventTs : AwareDatetime) : QuoteFeatureInput where
  quoteFeatureInputId := buildQuoteFeatureInputId instrumentId venueId eventTs 1 2 none none none []
    "RAW:1"
  instrumentId := instrumentId
  venueId := venueId
  eventTs := eventTs
  bestBid := ⟨1, Decimal.zero_lt_one⟩
  bestAsk := ⟨2, by decide⟩
  bidSize := none
  askSize := none
  sourceTs := none
  qualityFlags := []
  rawPayloadId := "RAW:1"
  not_crossed := by decide
  id_is_deterministic := rfl

omit [Sha256] in
/-- A free schedule from an instant on. -/
def scheduleFrom (venueId : String) (effectiveFrom : AwareDatetime) : FeeSchedule where
  feeScheduleId := "FEE:1"
  venueId := venueId
  feeTierId := "TIER:1"
  makerFeeRate := ⟨0, Decimal.zero_is_fee⟩
  takerFeeRate := ⟨0, Decimal.zero_is_fee⟩
  feeAssetId := none
  minFee := ⟨0, Decimal.zero_le_zero⟩
  window := ⟨effectiveFrom, none, nofun⟩
  asset_of_min_fee := fun h => absurd h (lt_irrefl _)

/-- Bars that close after the only quote and the start of the only schedule have their vectors. -/
theorem exists_liquidity_run {batch : SilverNormalizationBatch} (hkind : batch.dataKind = .ohlctv)
    (haccepted : BarsAccepted batch.timeframe batch.ohlctvRecords) {n : Int} (hn : 0 < n)
    {t : AwareDatetime} (ht : ∀ r ∈ batch.ohlctvRecords, t ≤ r.bar.closeTs) :
    ∃ vectors, buildLiquidityCostFeatureVectors batch [quoteAt batch.instrumentId batch.venueId t]
        [scheduleFrom batch.venueId t] n = .ok vectors ∧
      vectors.length = batch.ohlctvRecords.length := by
  have hstep : ∀ (history : BarHistory) (record : SilverOHLCTVRecord),
      (∃ out, liquidityStep batch [quoteAt batch.instrumentId batch.venueId t]
        [scheduleFrom batch.venueId t] n.toNat history record = .ok out) ↔
        t ≤ record.bar.closeTs := by
    intro history record
    simp only [liquidityStep_eq_ok_iff]
    constructor
    · rintro ⟨-, quote, -, hquote, -, -⟩
      by_contra hlate
      simp [latestQuote, QuoteFeatureInput.availableAt, quoteAt, hlate] at hquote
    · intro hin
      refine ⟨_, quoteAt batch.instrumentId batch.venueId t, scheduleFrom batch.venueId t, ?_, ?_,
        rfl⟩
      · simp [latestQuote, QuoteFeatureInput.availableAt, quoteAt, hin]
      · simp [activeFeeSchedule, activeFeeSchedules, EffectiveWindow.isEffective, scheduleFrom, hin]
  obtain ⟨⟨vectors, history⟩, hrun⟩ := (runSteps_succeeds_iff hstep {} batch.ohlctvRecords).mpr ht
  refine ⟨vectors, (buildLiquidityCostFeatureVectors_eq_ok_iff _ _ _ _ _).mpr
    ⟨hn, ⟨hkind, haccepted⟩, ?_, ?_, history, hrun⟩, length_of_runSteps hrun⟩
  · exact ⟨List.cons_ne_nil _ _, List.forall_mem_singleton.mpr ⟨rfl, rfl⟩,
      List.forall_mem_singleton.mpr nofun, List.pairwise_singleton _ _⟩
  · exact ⟨List.cons_ne_nil _ _, List.forall_mem_singleton.mpr rfl⟩

end Vectors

end TaModel.Features
