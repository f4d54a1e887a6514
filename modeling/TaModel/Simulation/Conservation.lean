import TaModel.Contracts.CanonicalJson
import TaModel.Simulation.ReplayTotal
import Mathlib.Tactic.Ring

/-!
# Conservation of balances

The final balance under every key is the starting one plus what the fills moved, no balance is
negative at any point of the run, and an order without a fill leaves the balances alone.
-/

set_option autoImplicit false

namespace TaModel.Simulation

open TaModel.Contracts TaModel.Library

/-! ## What the fills moved -/

/-- The balance key of the base asset of a result. -/
def baseKey (snapshot : InstrumentMasterSnapshot) (r : ReplayOrderResult) : Option BalanceKey :=
  (instrumentOf snapshot r).map fun i => (r.venueId, i.baseAssetId)

/-- The balance key of the quote asset of a result. -/
def quoteKey (snapshot : InstrumentMasterSnapshot) (r : ReplayOrderResult) : Option BalanceKey :=
  (instrumentOf snapshot r).map fun i => (r.venueId, i.quoteAssetId)

/-- The sum of `amount` over the filled results of one side whose asset key is `key`. -/
def movedOn (side : OrderSide) (keyOf : ReplayOrderResult → Option BalanceKey)
    (amount : ReplayOrderResult → Decimal) (results : List ReplayOrderResult) (key : BalanceKey) :
    Decimal :=
  ((results.filter fun r => r.isFill && decide (r.side = side ∧ keyOf r = some key)).map amount).sum

/-- Base quantity received by the filled buys. -/
def bought (snapshot : InstrumentMasterSnapshot) :=
  movedOn .buy (baseKey snapshot) ReplayOrderResult.filledQuantity

/-- Base quantity delivered by the filled sells. -/
def sold (snapshot : InstrumentMasterSnapshot) :=
  movedOn .sell (baseKey snapshot) ReplayOrderResult.filledQuantity

/-- Quote amount paid by the filled buys, fees included. -/
def paid (snapshot : InstrumentMasterSnapshot) :=
  movedOn .buy (quoteKey snapshot) fun r => r.effectiveNotional + r.feeCost

/-- Quote amount received by the filled sells, net of fees. -/
def received (snapshot : InstrumentMasterSnapshot) :=
  movedOn .sell (quoteKey snapshot) fun r => r.effectiveNotional - r.feeCost

/-- One more result changes a sum by its own contribution. -/
theorem movedOn_cons (side : OrderSide) (keyOf : ReplayOrderResult → Option BalanceKey)
    (amount : ReplayOrderResult → Decimal) (r : ReplayOrderResult) (rs : List ReplayOrderResult)
    (key : BalanceKey) :
    movedOn side keyOf amount (r :: rs) key =
      (if r.isFill = true ∧ r.side = side ∧ keyOf r = some key then amount r else 0) +
        movedOn side keyOf amount rs key := by
  unfold movedOn
  by_cases h : r.isFill = true ∧ r.side = side ∧ keyOf r = some key
  · rw [List.filter_cons_of_pos (by simpa using h), if_pos h, List.map_cons, List.sum_cons]
  · rw [List.filter_cons_of_neg (by simpa using h), if_neg h, zero_add]

/-- The effect of one fill on a key, by side and asset. -/
theorem resultTransfer_effect (snapshot : InstrumentMasterSnapshot) (r : ReplayOrderResult)
    (key : BalanceKey) :
    (resultTransfer snapshot r).effect key =
      (if r.side = .buy ∧ baseKey snapshot r = some key then r.filledQuantity else 0) -
        (if r.side = .sell ∧ baseKey snapshot r = some key then r.filledQuantity else 0) -
        (if r.side = .buy ∧ quoteKey snapshot r = some key then r.effectiveNotional + r.feeCost
          else 0) +
        (if r.side = .sell ∧ quoteKey snapshot r = some key then r.effectiveNotional - r.feeCost
          else 0) := by
  unfold resultTransfer baseKey quoteKey Transfer.effect
  cases instrumentOf snapshot r with
  | none => simp
  | some instrument =>
      unfold transferOn
      cases hs : r.side with
      | buy => simp [eq_comm]
      | sell => simp [eq_comm]; ring

/-- The effects of all fills on a key add up to the four sums. -/
theorem sum_effect_fillTransfers (snapshot : InstrumentMasterSnapshot)
    (results : List ReplayOrderResult) (key : BalanceKey) :
    ((fillTransfers snapshot results).map fun t => t.effect key).sum =
      bought snapshot results key - sold snapshot results key - paid snapshot results key +
        received snapshot results key := by
  induction results with
  | nil => simp [fillTransfers, bought, sold, paid, received, movedOn]
  | cons r rs ih =>
      unfold bought sold paid received at ih ⊢
      unfold fillTransfers at ih ⊢
      simp only [movedOn_cons]
      cases hf : r.isFill with
      | false =>
          rw [List.filter_cons_of_neg (by simp [hf]), ih]
          simp
      | true =>
          rw [List.filter_cons_of_pos hf, List.map_cons, List.map_cons, List.sum_cons, ih,
            resultTransfer_effect]
          simp only [true_and]
          ring

/-! ## Conservation -/

section Conservation

variable [Sha256]

/-- Balances around one order of a run. -/
theorem replayOrders_around {bars : List OHLCTVBar} {costModel : Option ExecutionCostModel}
    {c : VenueContext} {b : Balances} {intents : List OrderIntent}
    {out : List ReplayOrderResult × Balances} (hb : ∀ key, 0 ≤ b.available key)
    (h : replayOrders bars costModel (some c) b intents = .ok out) (n : Nat)
    (hn : n < intents.length) :
    ∃ before after : Balances,
      replayOrders bars costModel (some c) b (intents.take n) = .ok (out.1.take n, before) ∧
      replayOrders bars costModel (some c) b (intents.take (n + 1)) =
        .ok (out.1.take (n + 1), after) ∧
      (∀ key, 0 ≤ before.available key) ∧ (∀ key, 0 ≤ after.available key) ∧
      ∀ r, out.1[n]? = some r → r.status = .unfilled ∨ r.status = .rejected → after = before := by
  obtain ⟨before, r, after, hbefore, hstep, hr, hafter⟩ := runSteps_at h n hn
  have hto : replayOrders bars costModel (some c) b (intents.take n) =
      .ok (out.1.take n, before) := hbefore
  have hpast : replayOrders bars costModel (some c) b (intents.take (n + 1)) =
      .ok (out.1.take (n + 1), after) := hafter
  refine ⟨before, after, hto, hpast, ?_, ?_, ?_⟩
  · intro key
    exact replayOrders_nonneg hb hto key
  · intro key
    exact replayOrders_nonneg hb hpast key
  · intro r' hr' hstatus
    have hsame : r = r' := Option.some.inj (hr.symm.trans hr')
    subst hsame
    rcases replayOne_cases hstep with ⟨-, -, hkeep, -⟩ | ⟨draft, instrument, ha, -, hrd, -, -, -⟩
    · exact hkeep
    · have hfill : r.isFill = true := hrd ▸ ReplayOrderResult.isFill_withBuiltId (fillAttempt_facts ha).isFill
      have hnot : r.isFill = false := (ReplayOrderResult.not_isFill_iff r).mpr hstatus
      rw [hfill] at hnot
      cases hnot

/-- Inversion of a replay with a snapshot and a starting account state. -/
theorem replay_with_account {bars : List OHLCTVBar} {intents : List OrderIntent} {runId : String}
    {costModel : Option ExecutionCostModel} {snapshot : InstrumentMasterSnapshot}
    {state : SimulatedAccountState} {report : ReplayReport}
    (h : replayOhlctvMarketOrders bars intents runId costModel (some snapshot) (some state) =
      .ok report) :
    ∃ balances final,
      replayOrders bars costModel (some ⟨snapshot, state⟩) (balanceDict (some state)) intents =
        .ok (report.results, balances) ∧
      finalState state.accountId balances = .ok final ∧ report.finalAccountState = some final := by
  obtain ⟨context, balances, -, -, hcontext, hrun, -, -, hfinal⟩ := replayOhlctvMarketOrders_ok h
  cases hcontext
  have hmap : (finalState state.accountId balances).map some = .ok report.finalAccountState := hfinal
  cases hbuild : finalState state.accountId balances with
  | error e =>
      rw [hbuild] at hmap
      cases hmap
  | ok final =>
      rw [hbuild] at hmap
      exact ⟨balances, final, hrun, hbuild, (Except.ok.inj hmap).symm⟩

/-- Conservation of balances: the final balance under every key is the starting one plus what the
fills moved; keys stay unique and none is lost; no balance is negative before or after any order;
and an unfilled or rejected order leaves the balances unchanged. -/
theorem replay_conserves_balances {bars : List OHLCTVBar} {intents : List OrderIntent}
    {runId : String} {costModel : Option ExecutionCostModel} {snapshot : InstrumentMasterSnapshot}
    {state : SimulatedAccountState} {report : ReplayReport}
    (h : replayOhlctvMarketOrders bars intents runId costModel (some snapshot) (some state) =
      .ok report) :
    ∃ final, report.finalAccountState = some final ∧
      (∀ key, availableIn final key = availableIn state key + bought snapshot report.results key -
        sold snapshot report.results key - paid snapshot report.results key +
        received snapshot report.results key) ∧
      (∀ key, 0 ≤ availableIn final key) ∧ (keysOf final).Nodup ∧
      (∀ key ∈ keysOf state, key ∈ keysOf final) ∧
      ∀ n < intents.length, ∃ before after : Balances,
        replayOrders bars costModel (some ⟨snapshot, state⟩) (balanceDict (some state))
          (intents.take n) = .ok (report.results.take n, before) ∧
        replayOrders bars costModel (some ⟨snapshot, state⟩) (balanceDict (some state))
          (intents.take (n + 1)) = .ok (report.results.take (n + 1), after) ∧
        (∀ key, 0 ≤ before.available key) ∧ (∀ key, 0 ≤ after.available key) ∧
        ∀ r, report.results[n]? = some r →
          r.status = .unfilled ∨ r.status = .rejected → after = before := by
  obtain ⟨balances, final, hrun, hfinal, hreport⟩ := replay_with_account h
  obtain ⟨-, hbook, hkeys⟩ := replayOrders_posts hrun
  have hstart := balanceDict_nonneg state
  refine ⟨final, hreport, ?_, ?_, final.keys_unique, ?_, ?_⟩
  · intro key
    have hposted : balances.available key = (balanceDict (some state)).available key +
        ((fillTransfers snapshot report.results).map fun t => t.effect key).sum := by
      rw [← postAll_apply]
      exact congrFun hbook key
    rw [availableIn_finalState hfinal, hposted, sum_effect_fillTransfers, available_balanceDict]
    ring
  · intro key
    rw [availableIn_finalState hfinal]
    exact replayOrders_nonneg hstart hrun key
  · intro key hkey
    exact (mem_keysOf_finalState hfinal key).mpr
      (hkeys key ((mem_balanceDict_iff state key).mpr hkey))
  · intro n hn
    exact replayOrders_around hstart hrun n hn

end Conservation

/-! ## A market with two instruments

`BTC-USD` and `ETH-USD` trade on one venue against one cash balance. Concrete runs of the replay
are stated on it. -/

/-- Minutes after 2026-01-01T00:00:00+00:00. -/
def minute (n : Nat) : AwareDatetime := ⟨1767225600000000 + n * 60000000, 0⟩

/-- A price is at most itself, three times. -/
theorem price_bounds_itself (price : NonNegativeDecimal) :
    price.val ≤ price.val ∧ price.val ≤ price.val ∧ price.val ≤ price.val :=
  ⟨le_refl _, le_refl _, le_refl _⟩

theorem no_vwap (price : NonNegativeDecimal) :
    ∀ v ∈ (none : Option NonNegativeDecimal), price.val ≤ v.val ∧ v.val ≤ price.val := by
  intro v hv
  cases hv

/-- A bar of constant price that opens at `start` and lasts `length + 1` minutes. -/
def flatBar (instrumentId : String) (start length : Nat) (price volume : NonNegativeDecimal) :
    OHLCTVBar where
  instrumentId := instrumentId
  venueId := "VENUE"
  timeframe := "1m"
  openTs := minute start
  closeTs := minute (start + length + 1)
  openPrice := price
  high := price
  low := price
  close := price
  baseVolume := volume
  quoteVolume := none
  tradeCount := none
  vwap := none
  sourceTs := minute (start + length + 1)
  qualityFlags := []
  rawPayloadId := "RAW:" ++ instrumentId
  open_before_close := by
    show 1767225600000000 + (start : Int) * 60000000 <
      1767225600000000 + ((start + length + 1 : Nat) : Int) * 60000000
    omega
  high_is_max := price_bounds_itself price
  low_is_min := price_bounds_itself price
  vwap_in_range := no_vwap price

/-- An effective window that starts with the demonstration day and never ends. -/
def alwaysOpen : EffectiveWindow := ⟨minute 0, none, by intro t ht; cases ht⟩

/-- A spot instrument against USD with unit tick, lot and minimum notional. -/
def spotInstrument (base : String) (h : base ≠ "USD") : Instrument where
  instrumentId := base ++ "-USD"
  venueId := "VENUE"
  baseAssetId := base
  quoteAssetId := "USD"
  instrumentType := .spot
  status := .trading
  tickSize := ⟨1, Decimal.zero_lt_one⟩
  lotSize := ⟨1, Decimal.zero_lt_one⟩
  minNotional := ⟨1, Decimal.zero_lt_one⟩
  feeScheduleId := "FEES"
  supportedOrderTypes := [.market]
  isDerivative := false
  marginAllowed := false
  shortSellingAllowed := false
  leverageAllowed := false
  base_ne_quote := h

/-- The effective-dated constraint of a spot instrument. -/
def spotConstraint (base : String) : InstrumentConstraint where
  constraintId := "CONSTRAINT:" ++ base
  instrumentId := base ++ "-USD"
  tickSize := ⟨1, Decimal.zero_lt_one⟩
  lotSize := ⟨1, Decimal.zero_lt_one⟩
  minNotional := ⟨1, Decimal.zero_lt_one⟩
  minOrderQuantity := none
  maxOrderQuantity := none
  maxOrderNotional := none
  window := alwaysOpen
  quantity_bounds := by
    intro lo hlo
    cases hlo
  notional_bounds := by
    intro hi hhi
    cases hhi

/-- The loosest account limits the contract admits. -/
def loosestLimits : AccountRiskLimits where
  maxOrderNotionalPct := ⟨1 / 40, by decide +kernel⟩
  maxInstrumentExposurePct := ⟨1 / 4, by decide +kernel⟩
  maxStrategyExposurePct := ⟨3 / 10, by decide +kernel⟩
  maxTotalSpotExposurePct := ⟨3 / 5, by decide +kernel⟩
  minCashReservePct := ⟨3 / 10, by decide +kernel⟩
  maxDailyLossPct := ⟨1 / 50, by decide +kernel⟩
  maxDrawdownPct := ⟨2 / 25, by decide +kernel⟩
  order_le := le_refl _
  instrument_le := le_refl _
  strategy_le := le_refl _
  total_le := le_refl _
  cash_ge := le_refl _
  daily_loss_le := le_refl _
  drawdown_le := le_refl _
  instrument_le_total := by decide +kernel
  strategy_le_total := by decide +kernel

/-- A paper account that may place orders. -/
def paperAccount (limits : AccountRiskLimits) : Account where
  accountId := "ACCOUNT"
  venueId := "VENUE"
  accountType := .paper
  status := .active
  tradingPermissions := [.placeOrders]
  feeTierId := "FEES"
  riskLimits := limits
  liveCapitalEnabled := false
  marginEnabled := false
  derivativesEnabled := false
  shortingEnabled := false
  research_places_no_orders := by
    intro h
    cases h

theorem btc_ne_usd : "BTC" ≠ "USD" := by decide
theorem eth_ne_usd : "ETH" ≠ "USD" := by decide

theorem free_of_fee : (0 : Decimal) < 0 → (none : Option String) ≠ none :=
  fun h => absurd h (lt_irrefl 0)

/-- The instrument master of the two-instrument market. -/
def marketSnapshot (limits : AccountRiskLimits) : InstrumentMasterSnapshot where
  snapshotId := "SNAPSHOT"
  createdAt := minute 0
  assetIds := ["BTC", "ETH", "USD"]
  venues := [⟨"VENUE", .active, [.market]⟩]
  feeSchedules := [⟨"FEES", "VENUE", "FEES", ⟨0, Decimal.zero_is_fee⟩, ⟨0, Decimal.zero_is_fee⟩, none,
    ⟨0, Decimal.zero_le_zero⟩, alwaysOpen, free_of_fee⟩]
  tradingSessions := [⟨"SESSION", "VENUE", .active, alwaysOpen⟩]
  instrumentConstraints := [spotConstraint "BTC", spotConstraint "ETH"]
  instruments := [spotInstrument "BTC" btc_ne_usd, spotInstrument "ETH" eth_ne_usd]
  accounts := [paperAccount limits]

example : (marketSnapshot loosestLimits).validateReferences.toBool = true := by decide

/-- The account state with the given cash. -/
def cashState (cash : NonNegativeDecimal) : SimulatedAccountState where
  accountId := "ACCOUNT"
  balances := [⟨"ACCOUNT", "VENUE", "USD", cash⟩]
  accounts_match := by
    intro balance hmem
    rw [List.mem_singleton.mp hmem]
  keys_unique := List.nodup_singleton _

/-- A market order submitted at a minute of the demonstration day. -/
def marketOrder (id instrumentId : String) (side : OrderSide) (quantity : PositiveDecimal)
    (submitted : Nat) : OrderIntent where
  clientOrderId := id
  traceId := "TRACE"
  sourceDecisionId := "DECISION"
  instrumentId := instrumentId
  venueId := "VENUE"
  side := side
  orderType := .market
  quantity := quantity
  submittedAt := minute submitted
  limitPrice := none
  market_iff_no_limit := ⟨fun _ => rfl, fun _ => rfl⟩

/-- Two one-minute bars of `BTC-USD`. -/
def roundTripBars : List OHLCTVBar :=
  [flatBar "BTC-USD" 0 0 ⟨100, Decimal.zero_le_hundred⟩ ⟨10, Decimal.zero_le_ten⟩,
    flatBar "BTC-USD" 1 0 ⟨110, by decide⟩ ⟨10, Decimal.zero_le_ten⟩]

/-- A buy of one coin followed by a sale of it. -/
def roundTripOrders : List OrderIntent :=
  [marketOrder "ORDER-1" "BTC-USD" .buy ⟨1, Decimal.zero_lt_one⟩ 0,
    marketOrder "ORDER-2" "BTC-USD" .sell ⟨1, Decimal.zero_lt_one⟩ 1]

/-- The round trip replays. -/
theorem roundTrip_replays : ∃ report,
    @replayOhlctvMarketOrders hashlibSha256 roundTripBars roundTripOrders "RUN" none
      (some (marketSnapshot loosestLimits)) (some (cashState ⟨100, by decide⟩)) = .ok report := by
  have hbars : validateBarsAreSafe roundTripBars = .ok () :=
    ok_unit_of_toBool _ (by decide)
  have hintents : validateOrderIntents roundTripOrders = .ok () :=
    ok_unit_of_toBool _ (by decide)
  exact (@replay_with_account_succeeds_iff hashlibSha256 roundTripBars roundTripOrders "RUN" none
    (marketSnapshot loosestLimits) (cashState ⟨100, by decide⟩)).mpr
    ⟨hbars, hintents, by decide⟩

/-- The round trip conserves its balances. -/
theorem replay_conserves_balances_round_trip :
    ∃ report,
      @replayOhlctvMarketOrders hashlibSha256 roundTripBars roundTripOrders "RUN" none
        (some (marketSnapshot loosestLimits)) (some (cashState ⟨100, by decide⟩)) = .ok report ∧
      ∃ final, report.finalAccountState = some final ∧
        (∀ key ∈ keysOf (cashState ⟨100, by decide⟩), key ∈ keysOf final) ∧
        (keysOf final).Nodup := by
  obtain ⟨report, h⟩ := roundTrip_replays
  obtain ⟨final, hfinal, -, -, hnodup, hkeys, -⟩ :=
    @replay_conserves_balances hashlibSha256 _ _ _ _ _ _ _ h
  exact ⟨report, h, final, hfinal, hkeys, hnodup⟩

end TaModel.Simulation
