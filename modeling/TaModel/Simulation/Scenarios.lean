import TaModel.Contracts.Scenarios
import TaModel.Simulation.Conservation

/-!
# Synthetic scenarios

`simulation/scenarios.py`: six fake-asset scenarios that run through the replay, and the suite
report on them. The generator is a parameter: `draws seed n` is the position that the `n`-th
`choice` on `Random(seed)` takes in a sequence of six.
-/

set_option autoImplicit false

namespace TaModel.Simulation

open Contracts Library

/-! ## Literals -/

theorem milli_is_fee : (0 : Decimal) ≤ 1 / 1000 ∧ (1 / 1000 : Decimal) ≤ 1 / 20 := by
  norm_num

theorem quarter_is_fraction : (0 : Decimal) < 1 / 4 ∧ (1 / 4 : Decimal) ≤ 1 := by norm_num

theorem zero_lt_half : (0 : Decimal) < 1 / 2 := by norm_num

theorem zero_lt_five : (0 : Decimal) < 5 := by decide

theorem whole_nonneg (amount : Nat) : (0 : Decimal) ≤ amount := Nat.cast_nonneg amount

theorem cents_nonneg (cents : Nat) : (0 : Decimal) ≤ cents / 100 :=
  div_nonneg (whole_nonneg cents) Decimal.zero_le_hundred

/-- An amount given in hundredths. -/
def ofCents (cents : Nat) : NonNegativeDecimal := ⟨cents / 100, cents_nonneg cents⟩

/-- A whole amount. -/
def ofWhole (amount : Nat) : NonNegativeDecimal := ⟨amount, whole_nonneg amount⟩

theorem minute_lt_succ (n : Nat) : minute n < minute (n + 1) := by
  rw [AwareDatetime.lt_def]
  simp only [minute]
  push_cast
  omega

/-- `VENUE_ID`. -/
def scenarioVenueId : String := "SYNTH_SPOT"

/-- `INSTRUMENT_ID`. -/
def scenarioInstrumentId : String := "SYNTH_SPOT:FAKE-USD"

/-- `ACCOUNT_ID`. -/
def scenarioAccountId : String := "SIM_SYNTH_SPOT_001"

/-- `items[index]`. -/
def itemAt {α : Type} (items : List α) (index : Nat) : Raises α :=
  match items[index]? with
  | some item => .ok item
  | none => .error "tuple index out of range"

/-! ## Bars -/

/-- The steps of the random walk, in cents. -/
def stepCents (draw : Fin 6) : Int := ([-35, -20, -5, 10, 25, 40] : List Int).get draw

/-- One step of the random walk. -/
def nextPrice (price : NonNegativeDecimal) (draw : Fin 6) : NonNegativeDecimal :=
  ⟨max 1 (price.val + stepCents draw / 100), le_max_of_le_left Decimal.zero_le_one⟩

/-- `_random_walk_prices`. -/
def randomWalkPrices (draws : Nat → Fin 6) (start : NonNegativeDecimal) (count : Nat) :
    List NonNegativeDecimal :=
  ((List.range (count - 1)).map draws).scanl nextPrice start

/-! The high is half a unit above both prices, the low half a unit below them and not below
zero. -/

theorem scenario_low_nonneg (previous close : NonNegativeDecimal) :
    0 ≤ max 0 (min previous.val close.val - 1 / 2) := le_max_left _ _

theorem scenario_low_le (previous close : NonNegativeDecimal) :
    max 0 (min previous.val close.val - 1 / 2) ≤ previous.val ∧
      max 0 (min previous.val close.val - 1 / 2) ≤ close.val := by
  have hleft := min_le_left previous.val close.val
  have hright := min_le_right previous.val close.val
  constructor
  · exact max_le previous.2 (by linarith)
  · exact max_le close.2 (by linarith)

theorem le_scenario_high (previous close : NonNegativeDecimal) :
    previous.val ≤ max previous.val close.val + 1 / 2 ∧
      close.val ≤ max previous.val close.val + 1 / 2 := by
  have hleft := le_max_left previous.val close.val
  have hright := le_max_right previous.val close.val
  constructor
  · linarith
  · linarith

theorem scenario_high_nonneg (previous close : NonNegativeDecimal) :
    0 ≤ max previous.val close.val + 1 / 2 := previous.2.trans (le_scenario_high previous close).1

theorem scenario_high_is_max (previous close : NonNegativeDecimal) :
    previous.val ≤ max previous.val close.val + 1 / 2 ∧
      max 0 (min previous.val close.val - 1 / 2) ≤ max previous.val close.val + 1 / 2 ∧
      close.val ≤ max previous.val close.val + 1 / 2 := by
  obtain ⟨hprevious, hclose⟩ := le_scenario_high previous close
  exact ⟨hprevious, (scenario_low_le previous close).1.trans hprevious, hclose⟩

theorem scenario_low_is_min (previous close : NonNegativeDecimal) :
    max 0 (min previous.val close.val - 1 / 2) ≤ previous.val ∧
      max 0 (min previous.val close.val - 1 / 2) ≤ max previous.val close.val + 1 / 2 ∧
      max 0 (min previous.val close.val - 1 / 2) ≤ close.val := by
  obtain ⟨hprevious, hclose⟩ := scenario_low_le previous close
  exact ⟨hprevious, hprevious.trans (le_scenario_high previous close).1, hclose⟩

theorem scenario_vwap_in_range (previous close : NonNegativeDecimal) :
    ∀ v ∈ some previous, max 0 (min previous.val close.val - 1 / 2) ≤ v.val ∧
      v.val ≤ max previous.val close.val + 1 / 2 := by
  intro v hv
  obtain rfl := Option.some.inj hv
  exact ⟨(scenario_low_le previous close).1, (le_scenario_high previous close).1⟩

theorem scenario_quote_nonneg (previous volume : NonNegativeDecimal) :
    0 ≤ previous.val * volume.val := mul_nonneg previous.2 volume.2

/-- The bar of one minute: it opens at the previous price. -/
def scenarioBar (scenarioId : SyntheticScenarioId) (index : Nat)
    (previous close volume : NonNegativeDecimal) (qualityFlags : List QualityFlag) :
    OHLCTVBar where
  instrumentId := scenarioInstrumentId
  venueId := scenarioVenueId
  timeframe := "1m"
  openTs := minute index
  closeTs := minute (index + 1)
  openPrice := previous
  high := ⟨max previous.val close.val + 1 / 2, scenario_high_nonneg previous close⟩
  low := ⟨max 0 (min previous.val close.val - 1 / 2), scenario_low_nonneg previous close⟩
  close := close
  baseVolume := volume
  quoteVolume := some ⟨previous.val * volume.val, scenario_quote_nonneg previous volume⟩
  tradeCount := some (if 0 < volume.val then 10 else 0)
  vwap := some previous
  sourceTs := minute (index + 1)
  qualityFlags := qualityFlags
  rawPayloadId := "RAW:S6-004:" ++ scenarioId.upper ++ ":" ++ toString index
  open_before_close := minute_lt_succ index
  high_is_max := scenario_high_is_max previous close
  low_is_min := scenario_low_is_min previous close
  vwap_in_range := scenario_vwap_in_range previous close

/-- `prices[index - 1] if index else close_price`. -/
def previousPrice (prices : List NonNegativeDecimal) (entry : NonNegativeDecimal × Nat) :
    Raises NonNegativeDecimal :=
  if entry.2 = 0 then .ok entry.1 else itemAt prices (entry.2 - 1)

/-- One turn of the loop of `_bars`. -/
def barAt (scenarioId : SyntheticScenarioId) (prices volumes : List NonNegativeDecimal)
    (qualityFlags : List (List QualityFlag)) (entry : NonNegativeDecimal × Nat) :
    Raises OHLCTVBar := do
  let previous ← previousPrice prices entry
  let volume ← itemAt volumes entry.2
  let flags ← itemAt qualityFlags entry.2
  .ok (scenarioBar scenarioId entry.2 previous entry.1 volume flags)

/-- `_bars`; an empty tuple of volumes or flags means the default, as `None` does. -/
def scenarioBars (scenarioId : SyntheticScenarioId) (prices : List NonNegativeDecimal)
    (volumes : List NonNegativeDecimal) (qualityFlags : List (List QualityFlag)) :
    Raises (List OHLCTVBar) :=
  prices.zipIdx.mapM (barAt scenarioId prices
    (if volumes = [] then prices.map fun _ => ofWhole 10 else volumes)
    (if qualityFlags = [] then prices.map fun _ => [] else qualityFlags))

/-! ## Orders, costs and the account -/

theorem market_has_no_limit :
    OrderType.market = .market ↔ (none : Option PositiveDecimal) = none := iff_of_true rfl rfl

/-- `_intent`. -/
def scenarioIntent (scenarioId : SyntheticScenarioId) (orderIndex : Nat)
    (submittedAt : AwareDatetime) (side : OrderSide) (quantity : PositiveDecimal) : OrderIntent :=
  let suffix := scenarioId.upper ++ ":" ++ toString orderIndex
  { clientOrderId := "ORDER:S6-004:" ++ suffix, traceId := "TRACE:S6-004:" ++ suffix,
    sourceDecisionId := "DECISION:S6-004:" ++ suffix, instrumentId := scenarioInstrumentId,
    venueId := scenarioVenueId, side := side, orderType := .market, quantity := quantity,
    submittedAt := submittedAt, limitPrice := none,
    market_iff_no_limit := market_has_no_limit }

/-- `make_execution_cost_model` with the fee of every scenario, no latency and partial fills. -/
def scenarioCosts (spreadBps slippageBps : NonNegativeDecimal)
    (maxParticipationRate : BoundedRiskFraction)
    (h : spreadBps.val + slippageBps.val < 10000) : ExecutionCostModel where
  takerFeeRate := ⟨1 / 1000, milli_is_fee⟩
  spreadBps := spreadBps
  slippageBps := slippageBps
  latencyBars := 0
  maxParticipationRate := maxParticipationRate
  allowPartialFills := true
  adverse_below_unit := h

theorem fake_ne_usd : "FAKE" ≠ "USD" := by decide

theorem keys_fake_usd : [(scenarioVenueId, "FAKE"), (scenarioVenueId, "USD")].Nodup := by decide

/-- `_account_state`. -/
def scenarioAccountState : SimulatedAccountState where
  accountId := scenarioAccountId
  balances := [⟨scenarioAccountId, scenarioVenueId, "FAKE", ofWhole 10⟩,
    ⟨scenarioAccountId, scenarioVenueId, "USD", ofWhole 10000⟩]
  accounts_match := by
    intro balance hbalance
    rcases List.mem_cons.mp hbalance with rfl | hbalance
    · rfl
    · rw [List.mem_singleton.mp hbalance]
  keys_unique := keys_fake_usd

/-! ## The instrument master -/

theorem zero_lt_cent : (0 : Decimal) < 1 / 100 := by norm_num

theorem zero_lt_lot : (0 : Decimal) < 1 / 100000000 := by norm_num

theorem usd_of_fee : (0 : Decimal) < (ofWhole 0).val → some "USD" ≠ none := by
  intro _ h
  cases h

/-- The lot of the instrument. -/
def smallestLot : PositiveDecimal := ⟨1 / 100000000, zero_lt_lot⟩

theorem no_largest_quantity :
    ∀ lo ∈ some smallestLot, ∀ hi ∈ (none : Option PositiveDecimal), lo.val ≤ hi.val := by
  intro lo _ hi hhi
  cases hhi

theorem no_largest_notional : ∀ hi ∈ (none : Option PositiveDecimal),
    (⟨1, Decimal.zero_lt_one⟩ : PositiveDecimal).val ≤ hi.val := by
  intro hi hhi
  cases hhi

def scenarioFees : FeeSchedule where
  feeScheduleId := "SYNTH_SPOT_STANDARD_FEES"
  venueId := scenarioVenueId
  feeTierId := "SYNTH_SPOT_STANDARD_FEES"
  makerFeeRate := ⟨1 / 1000, milli_is_fee⟩
  takerFeeRate := ⟨1 / 1000, milli_is_fee⟩
  feeAssetId := some "USD"
  minFee := ofWhole 0
  window := alwaysOpen
  asset_of_min_fee := usd_of_fee

def scenarioConstraint : InstrumentConstraint where
  constraintId := "SYNTH_SPOT:FAKE-USD:CONSTRAINTS"
  instrumentId := scenarioInstrumentId
  tickSize := ⟨1 / 100, zero_lt_cent⟩
  lotSize := smallestLot
  minNotional := ⟨1, Decimal.zero_lt_one⟩
  minOrderQuantity := some smallestLot
  maxOrderQuantity := none
  maxOrderNotional := none
  window := alwaysOpen
  quantity_bounds := no_largest_quantity
  notional_bounds := no_largest_notional

def scenarioInstrument : Instrument where
  instrumentId := scenarioInstrumentId
  venueId := scenarioVenueId
  baseAssetId := "FAKE"
  quoteAssetId := "USD"
  instrumentType := .spot
  status := .trading
  tickSize := ⟨1 / 100, zero_lt_cent⟩
  lotSize := smallestLot
  minNotional := ⟨1, Decimal.zero_lt_one⟩
  feeScheduleId := "SYNTH_SPOT_STANDARD_FEES"
  supportedOrderTypes := [.market]
  isDerivative := false
  marginAllowed := false
  shortSellingAllowed := false
  leverageAllowed := false
  base_ne_quote := fake_ne_usd

def scenarioAccount : Account where
  accountId := scenarioAccountId
  venueId := scenarioVenueId
  accountType := .simulation
  status := .active
  tradingPermissions := [.placeOrders, .readMarketData, .viewBalances]
  feeTierId := "SYNTH_SPOT_STANDARD_FEES"
  riskLimits := loosestLimits
  liveCapitalEnabled := false
  marginEnabled := false
  derivativesEnabled := false
  shortingEnabled := false
  research_places_no_orders := by
    intro h
    cases h

/-- The record that `_snapshot` validates. -/
def scenarioMaster (venueStatus : VenueStatus) : InstrumentMasterSnapshot where
  snapshotId := "SYNTHETIC_S6_004_" ++
    String.ofList (venueStatus.value.toList.map Char.toUpper)
  createdAt := minute 0
  assetIds := ["FAKE", "USD"]
  venues := [⟨scenarioVenueId, venueStatus, [.market]⟩]
  feeSchedules := [scenarioFees]
  tradingSessions := [⟨"SYNTH_SPOT_24X7", scenarioVenueId, .active, alwaysOpen⟩]
  instrumentConstraints := [scenarioConstraint]
  instruments := [scenarioInstrument]
  accounts := [scenarioAccount]

/-- `_snapshot`. -/
def scenarioSnapshot (venueStatus : VenueStatus) : Raises InstrumentMasterSnapshot := do
  (scenarioMaster venueStatus).validateReferences
  .ok (scenarioMaster venueStatus)

/-! ## Scenario runs -/

section Runs

variable [Sha256]

/-- `_replay`. -/
def scenarioReplay (scenarioId : SyntheticScenarioId) (bars : List OHLCTVBar)
    (intents : List OrderIntent) (costModel : ExecutionCostModel) (venueStatus : VenueStatus)
    (runSuffix : String) : Raises ReplayReport := do
  let snapshot ← scenarioSnapshot venueStatus
  replayOhlctvMarketOrders bars intents
    ("REPLAY:S6-004:" ++ scenarioId.upper ++ (if runSuffix = "" then "" else ":" ++ runSuffix))
    (some costModel) (some snapshot) (some scenarioAccountState)

omit [Sha256] in
/-- `min(...)` or `max(...)` of a generator. -/
def extremeOf (extreme : Option Decimal) : Raises Decimal :=
  match extreme with
  | some value => .ok value
  | none => .error "iterable argument is empty"

omit [Sha256] in
/-- `_summary`. -/
def scenarioSummary (scenarioId : SyntheticScenarioId) (name : String)
    (traceability labels : List String) (bars : List OHLCTVBar) (report : ReplayReport)
    (comparisonTotalCost : Option Decimal) : Raises SyntheticScenarioResult := do
  let minClosePrice ← extremeOf (bars.map fun bar => bar.close.val).min?
  let maxClosePrice ← extremeOf (bars.map fun bar => bar.close.val).max?
  fromReplayReport
    { scenarioId := scenarioId, scenarioName := name, traceability := traceability,
      stressLabels := labels, minClosePrice := minClosePrice, maxClosePrice := maxClosePrice,
      comparisonTotalCost := comparisonTotalCost }
    report

/-- `_run_random_walk`. -/
def runRandomWalk (draws : Nat → Fin 6) : Raises SyntheticScenarioResult := do
  let bars ← scenarioBars .randomWalk (randomWalkPrices draws (ofWhole 100) 5) [] []
  let first ← itemAt bars 0
  let report ← scenarioReplay .randomWalk bars
    [scenarioIntent .randomWalk 1 first.closeTs .buy ⟨1, Decimal.zero_lt_one⟩]
    (scenarioCosts (ofWhole 4) (ofWhole 6) ⟨1, Decimal.one_is_fraction⟩ (by decide +kernel))
    .active ""
  scenarioSummary .randomWalk "Deterministic baseline random-walk fills with costs" ["FR-012"]
    ["fake_data", "baseline_fill_cost"] bars report none

/-- `_run_trend`. -/
def runTrend : Raises SyntheticScenarioResult := do
  let bars ← scenarioBars .trend [ofWhole 100, ofWhole 102, ofWhole 104, ofWhole 106] [] []
  let first ← itemAt bars 0
  let second ← itemAt bars 1
  let report ← scenarioReplay .trend bars
    [scenarioIntent .trend 1 first.closeTs .buy ⟨1, Decimal.zero_lt_one⟩,
      scenarioIntent .trend 2 second.closeTs .sell ⟨1 / 2, zero_lt_half⟩]
    (scenarioCosts (ofWhole 2) (ofWhole 3) ⟨1, Decimal.one_is_fraction⟩ (by decide +kernel))
    .active ""
  scenarioSummary .trend "Directional trend with deterministic buy/sell balance accounting"
    ["FR-012"] ["fake_data", "inventory_accounting"] bars report none

/-- `_run_crash`. -/
def runCrash : Raises SyntheticScenarioResult := do
  let bars ← scenarioBars .crash [ofWhole 100, ofWhole 92, ofWhole 78, ofWhole 61] [] []
  let first ← itemAt bars 0
  let report ← scenarioReplay .crash bars
    [scenarioIntent .crash 1 first.closeTs .buy ⟨1, Decimal.zero_lt_one⟩]
    (scenarioCosts (ofWhole 6) (ofWhole 10) ⟨1, Decimal.one_is_fraction⟩ (by decide +kernel))
    .active ""
  scenarioSummary .crash "Market drawdown stress path; evidence only, not strategy success"
    ["FR-012", "RISK-001"] ["fake_data", "market_drawdown", "RISK-001"] bars report none

/-- `_run_spread`. -/
def runSpread : Raises SyntheticScenarioResult := do
  let bars ← scenarioBars .spread [ofWhole 100, ofCents 10050, ofWhole 101] [] []
  let first ← itemAt bars 0
  let intent := scenarioIntent .spread 1 first.closeTs .buy ⟨1, Decimal.zero_lt_one⟩
  let lowCost ← scenarioReplay .spread bars [intent]
    (scenarioCosts (ofWhole 1) (ofWhole 1) ⟨1, Decimal.one_is_fraction⟩ (by decide +kernel))
    .active "LOWCOST"
  let highCost ← scenarioReplay .spread bars [intent]
    (scenarioCosts (ofWhole 60) (ofWhole 90) ⟨1, Decimal.one_is_fraction⟩ (by decide +kernel))
    .active ""
  scenarioSummary .spread "High spread/slippage stress with explicit cost comparison"
    ["FR-012", "RISK-002", "RISK-005"] ["fake_data", "cost_sensitivity", "liquidity_cost_stress"]
    bars highCost (some (decimalSum (lowCost.results.map ReplayOrderResult.totalCost)))

/-- `_run_liquidity`. -/
def runLiquidity : Raises SyntheticScenarioResult := do
  let bars ← scenarioBars .liquidity [ofWhole 100, ofWhole 99, ofWhole 98]
    [ofWhole 10, ofWhole 2, ofWhole 0] [[], [], [.missing]]
  let first ← itemAt bars 0
  let second ← itemAt bars 1
  let report ← scenarioReplay .liquidity bars
    [scenarioIntent .liquidity 1 first.closeTs .buy ⟨5, zero_lt_five⟩,
      scenarioIntent .liquidity 2 second.closeTs .buy ⟨1, Decimal.zero_lt_one⟩]
    (scenarioCosts (ofWhole 20) (ofWhole 40) ⟨1 / 4, quarter_is_fraction⟩ (by decide +kernel))
    .active ""
  scenarioSummary .liquidity "Liquidity collapse produces partial and failed fills"
    ["FR-012", "RISK-002"] ["fake_data", "liquidity_collapse", "RISK-002"] bars report none

/-- `_run_outage`. -/
def runOutage : Raises SyntheticScenarioResult := do
  let bars ← scenarioBars .outage [ofWhole 100] [] [[.missing]]
  let first ← itemAt bars 0
  let report ← scenarioReplay .outage bars
    [scenarioIntent .outage 1 first.closeTs .buy ⟨1, Decimal.zero_lt_one⟩]
    (scenarioCosts (ofWhole 5) (ofWhole 5) ⟨1, Decimal.one_is_fraction⟩ (by decide +kernel))
    .maintenance ""
  scenarioSummary .outage
    "Venue outage fail-closed rejection through venue-not-tradable accounting"
    ["FR-012", "RISK-002"] ["fake_data", "venue_outage", "fail_closed", "RISK-002"] bars report
    none

/-- `run_synthetic_scenario_suite`. -/
def runSyntheticScenarioSuite (draws : Int → Nat → Fin 6) (seed : Int)
    (runId : {s : String // isCanonicalId s = true}) : Raises SyntheticScenarioSuiteReport := do
  let randomWalk ← runRandomWalk (draws seed)
  let trend ← runTrend
  let crash ← runCrash
  let spread ← runSpread
  let liquidity ← runLiquidity
  let outage ← runOutage
  makeSyntheticScenarioSuiteReport runId seed
    [randomWalk, trend, crash, spread, liquidity, outage]

end Runs

end TaModel.Simulation
