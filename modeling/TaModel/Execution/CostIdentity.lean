import TaModel.Execution.Association
import TaModel.Execution.PaperLogs
import TaModel.Simulation.Conservation
import TaModel.Simulation.FillCosts

/-!
# One cost in the replay, the ledger and the TCA row

The cost of a fill under a cost model is computed as an adverse price, as single components, as a
balance movement and as the difference of a row. They agree: the ledger moves the reference notional
by the total cost, and a row that falls back on the replayed arrival price predicts what it finds.
-/

set_option autoImplicit false

namespace TaModel.Execution

open Contracts Risk Simulation

/-! ## What the claim compares -/

/-- A fill stays within the quantity of its order and the participation cap of its bar. -/
structure WithinBar (bars : List OHLCTVBar) (model : ExecutionCostModel) (intent : OrderIntent)
    (r : ReplayOrderResult) : Prop where
  bar : ∃ bar ∈ bars, isEligible intent bar = true ∧ r.fillEventOpenTs = some bar.openTs ∧
    r.fillRawPayloadId = some bar.rawPayloadId ∧
    r.arrivalReferencePrice = some bar.openPrice.val ∧
    r.filledQuantity ≤ min intent.quantity.val
      (bar.baseVolume.val * model.maxParticipationRate.val) ∧
    (0 < bar.openPrice.val → ∃ price ∈ r.effectiveFillPrice, 0 < price)
  remaining : r.remainingQuantity + r.filledQuantity = intent.quantity.val

/-- The quote balance pays the reference notional and the total cost of a buy, and receives the
reference notional of a sell less its total cost. -/
def SettlesAtCost (snapshot : InstrumentMasterSnapshot) (before after : Balances)
    (r : ReplayOrderResult) : Prop :=
  ∃ key, quoteKey snapshot r = some key ∧
    (r.side = .buy →
      before.available key - after.available key = r.referenceNotional + r.totalCost) ∧
    (r.side = .sell →
      after.available key - before.available key = r.referenceNotional - r.totalCost)

section Costs

variable [Sha256]

/-- An event made of a replay result repeats it and is valid. -/
theorem make_replayed {kind : ExecutionGatewayKind} {mode : ExecutionFillMode} {runId : String}
    {riskEvent : RiskCheckEvent} {intent : OrderIntent} {r : ReplayOrderResult}
    {requirementIds : List String} {e : ExecutionGatewayLifecycleEvent}
    (hintent : riskEvent.approvedOrderIntent = some intent)
    (h : ExecutionGatewayLifecycleEvent.make kind mode runId riskEvent (some r) requirementIds =
      .ok e) :
    e.validate = .ok () ∧ e = ExecutionGatewayLifecycleEvent.stamping.sealed
      (ExecutionGatewayLifecycleEvent.replayDraft kind mode runId riskEvent intent r
        requirementIds) := by
  simp only [ExecutionGatewayLifecycleEvent.make, check_bind_eq_ok_iff, hintent] at h
  exact ⟨Library.Stamping.validate_of_construct _ h.2,
    ((Library.Stamping.construct_eq_ok_iff _ _ _).mp h.2).2⟩

/-- The gateway event of the result, for a risk event that approved the replayed intent, has a row
with the replayed arrival price as reference, and the row realizes the costs it predicts. -/
def RealizesPrediction (intent : OrderIntent) (r : ReplayOrderResult) : Prop :=
  ∀ (gatewayReport : ExecutionGatewayReport) (kind : ExecutionGatewayKind)
    (mode : ExecutionFillMode) (runId : String) (riskEvent : RiskCheckEvent)
    (requirementIds : List String) (e : ExecutionGatewayLifecycleEvent),
    riskEvent.approvedOrderIntent = some intent →
    ExecutionGatewayLifecycleEvent.make kind mode runId riskEvent (some r) requirementIds = .ok e →
    ∃ row, makeTcaRow .exact gatewayReport e none = .ok row ∧
      row.referencePriceSource = .replayArrivalReference ∧
      row.realizedTotalCost = row.predictedTotalCost ∧ row.predictedTotalCost = r.totalCost ∧
      row.spreadSlippagePredictionError = 0 ∧ row.totalCostPredictionError = 0

/-! ## One fill -/

section Fill

variable {bars : List OHLCTVBar} {model : ExecutionCostModel} {context : Option VenueContext}
  {intent : OrderIntent} {draft : ReplayOrderResult}

theorem withinBar_of_attempt (h : fillAttempt bars (some model) context intent = .fill draft) :
    WithinBar bars model intent draft.withBuiltId := by
  obtain ⟨bar, hbar, helig, hcap, firstIndex, index, rfl⟩ := fillAttempt_costed h
  refine ⟨⟨bar, hbar, helig, rfl, rfl, rfl, le_refl _, ?_⟩, sub_add_cancel _ _⟩
  intro hopen
  exact ⟨_, rfl, effectiveFillPrice_pos model intent.side hopen⟩

/-- The adverse move of a fill is its spread and slippage cost. -/
theorem effectiveNotional_of_attempt
    (h : fillAttempt bars (some model) context intent = .fill draft) :
    (draft.side = .buy →
      draft.effectiveNotional = draft.referenceNotional + (draft.spreadCost + draft.slippageCost)) ∧
    (draft.side = .sell →
      draft.effectiveNotional = draft.referenceNotional - (draft.spreadCost + draft.slippageCost)) ∧
    draft.totalCost = draft.feeCost + draft.spreadCost + draft.slippageCost := by
  obtain ⟨bar, -, -, hcap, firstIndex, index, rfl⟩ := fillAttempt_costed h
  have hquantity : 0 ≤ min intent.quantity.val
      (bar.baseVolume.val * model.maxParticipationRate.val) :=
    le_min intent.quantity.property.le hcap.le
  have hadverse := @costedFill_adverse _ model intent bar firstIndex index _ hquantity
  refine ⟨?_, ?_, rfl⟩
  · intro hside
    have hbuy : intent.side = .buy := hside
    simpa only [hbuy] using hadverse
  · intro hside
    have hsell : intent.side = .sell := hside
    simpa only [hsell] using hadverse

/-- The ledger moves the quote balance of a fill by its reference notional and total cost. -/
theorem settlesAtCost_of_replayOne {c : VenueContext} {r : ReplayOrderResult}
    {before after : Balances}
    (h : replayOne bars (some model) (some c) before intent = .ok (r, after))
    (hfill : r.isFill = true) : SettlesAtCost c.snapshot before after r := by
  rcases replayOne_cases h with ⟨hnot, -⟩ | ⟨draft, instrument, hattempt, hinstrument, rfl, -,
    hpost, -⟩
  · rw [hnot] at hfill
    cases hfill
  · obtain ⟨hbuy, hsell, htotal⟩ := effectiveNotional_of_attempt hattempt
    have hne := instrument.base_ne_quote
    have hafter : ∀ key, after.available key =
        before.available key + (transferOn instrument draft).effect key := by
      intro key
      exact congrFun hpost key
    have hdistinct : ((draft.venueId, instrument.quoteAssetId) : BalanceKey) ≠
        (draft.venueId, instrument.baseAssetId) := by
      intro heq
      exact hne (congrArg Prod.snd heq).symm
    have hkey : quoteKey c.snapshot draft.withBuiltId =
        some (draft.venueId, instrument.quoteAssetId) := by
      have hinstrument' : instrumentOf c.snapshot draft.withBuiltId = some instrument := hinstrument
      simp only [quoteKey, hinstrument', Option.map_some]
      rfl
    refine ⟨_, hkey, ?_, ?_⟩
    · intro hside
      have hside' : draft.side = .buy := hside
      rw [hafter]
      simp only [transferOn, hside', Library.Transfer.effect, if_true, if_neg hdistinct]
      show _ = draft.referenceNotional + draft.totalCost
      rw [htotal, hbuy hside']
      ring
    · intro hside
      have hside' : draft.side = .sell := hside
      rw [hafter]
      simp only [transferOn, hside', Library.Transfer.effect, if_true, if_neg hdistinct]
      show _ = draft.referenceNotional - draft.totalCost
      rw [htotal, hsell hside']
      ring

omit [Sha256] in
/-- Without an arrival quote the adverse cost of a row is the adverse move of the notional. -/
theorem adverseMove_of_validFill {e : ExecutionGatewayLifecycleEvent} {fill : FillAttribution}
    (hfill : ValidFill e fill) :
    (e.side = .buy → adverseMove e.side fill.arrivalReferencePrice fill.fillPrice *
      e.filledQuantity = e.effectiveNotional - e.referenceNotional) ∧
    (e.side = .sell → adverseMove e.side fill.arrivalReferencePrice fill.fillPrice *
      e.filledQuantity = e.referenceNotional - e.effectiveNotional) := by
  rw [hfill.reference_eq, hfill.effective_notional_eq, hfill.effective_eq]
  constructor
  · intro hside
    simp only [adverseMove, hside]
    ring
  · intro hside
    simp only [adverseMove, hside]
    ring

/-- The row of a fill realizes its prediction. -/
theorem realizesPrediction_of_attempt
    (h : fillAttempt bars (some model) context intent = .fill draft) :
    RealizesPrediction intent draft.withBuiltId := by
  intro gatewayReport kind mode runId riskEvent requirementIds e hintent he
  obtain ⟨hbuy, hsell, htotal⟩ := effectiveNotional_of_attempt h
  have hfacts := fillAttempt_facts h
  obtain ⟨hvalid, hevent⟩ := make_replayed hintent he
  -- the event of a fill is filled, and its arrival price is a positive open
  have hisFilled : e.status.isFilled = true := by
    rw [hevent]
    exact (isFilled_ofReplay _).mpr ((ReplayOrderResult.isFill_iff draft).mp hfacts.isFill)
  obtain ⟨fill, -, hfill⟩ := validFill_of_valid hvalid hisFilled
  have harrival : 0 < fill.arrivalReferencePrice := by
    obtain ⟨openPrice, hopen, hpositive⟩ := fillAttempt_arrival h
    have harrivalPrice := hfill.arrivalReferencePrice
    have hfillPrice := hfill.fillPrice
    rw [hevent] at harrivalPrice hfillPrice
    have hsame : some openPrice.val = some fill.arrivalReferencePrice :=
      hopen.symm.trans harrivalPrice
    rw [← Option.some.inj hsame]
    exact hpositive _ hfillPrice hfill.price_pos
  -- without an arrival quote no operation of exact arithmetic fails
  have hamounts : rowAmounts .exact e none fill.arrivalReferencePrice fill.fillPrice =
      .ok (roundedAmounts .exact e none fill.arrivalReferencePrice fill.fillPrice) := rfl
  refine ⟨_, makeTcaRow_ok hvalid hisFilled hfill harrival hamounts, rfl, ?_⟩
  -- both costs of the row are the total cost of the fill
  have hrealized : adverseMove e.side fill.arrivalReferencePrice fill.fillPrice *
      e.filledQuantity = e.spreadCost + e.slippageCost := by
    obtain ⟨hadverseBuy, hadverseSell⟩ := adverseMove_of_validFill hfill
    cases hside : intent.side with
    | buy =>
        have heside : e.side = .buy := by
          rw [hevent]
          exact hside
        rw [hadverseBuy heside, hevent]
        show draft.effectiveNotional - draft.referenceNotional = draft.spreadCost + draft.slippageCost
        rw [hbuy (hfacts.side.trans hside)]
        ring
    | sell =>
        have heside : e.side = .sell := by
          rw [hevent]
          exact hside
        rw [hadverseSell heside, hevent]
        show draft.referenceNotional - draft.effectiveNotional = draft.spreadCost + draft.slippageCost
        rw [hsell (hfacts.side.trans hside)]
        ring
  refine ⟨congrArg (e.feeCost + ·) hrealized, ?_, sub_eq_zero.mpr hrealized,
    sub_eq_zero.mpr (congrArg (e.feeCost + ·) hrealized)⟩
  show e.feeCost + (e.spreadCost + e.slippageCost) = draft.totalCost
  rw [hevent, htotal]
  show draft.feeCost + (draft.spreadCost + draft.slippageCost) = _
  ring

end Fill

/-! ## All fills of a replay -/

/-- Every order that a replay fills under a cost model stays within its bar, settles at its cost and
realizes what its row predicts. -/
theorem replay_costs_agree {bars : List OHLCTVBar} {intents : List OrderIntent} {runId : String}
    {model : ExecutionCostModel} {snapshot : Option InstrumentMasterSnapshot}
    {state : Option SimulatedAccountState} {report : ReplayReport}
    (h : replayOhlctvMarketOrders bars intents runId (some model) snapshot state = .ok report) :
    ∃ context, pairContext snapshot state = .ok context ∧
      ∀ n intent, intents[n]? = some intent → ∃ r before after, report.results[n]? = some r ∧
        replayOrders bars (some model) context (balanceDict state) (intents.take n) =
          .ok (report.results.take n, before) ∧
        replayOne bars (some model) context before intent = .ok (r, after) ∧
        (r.isFill = true → WithinBar bars model intent r ∧
          (∀ c, context = some c → SettlesAtCost c.snapshot before after r) ∧
          RealizesPrediction intent r) := by
  obtain ⟨context, balances, -, -, hcontext, hrun, -⟩ := replayOhlctvMarketOrders_ok h
  refine ⟨context, hcontext, ?_⟩
  intro n intent hn
  obtain ⟨hlt, hget⟩ := List.getElem?_eq_some_iff.mp hn
  obtain ⟨before, r, after, hbefore, hstep, hr, -⟩ := Library.runSteps_at hrun n hlt
  rw [hget] at hstep
  refine ⟨r, before, after, hr, hbefore, hstep, ?_⟩
  intro hfill
  obtain ⟨draft, hattempt, rfl⟩ := replayOne_of_isFill hstep hfill
  refine ⟨withinBar_of_attempt hattempt, ?_, realizesPrediction_of_attempt hattempt⟩
  rintro c rfl
  exact settlesAtCost_of_replayOne hstep hfill

end Costs

/-! ## A partial fill -/

/-- One percent of fee, 10 and 20 basis points of spread and slippage, a twentieth of the volume. -/
def partialFillModel : ExecutionCostModel where
  takerFeeRate := ⟨1 / 100, by decide +kernel⟩
  spreadBps := ⟨10, Decimal.zero_le_ten⟩
  slippageBps := ⟨20, by decide⟩
  latencyBars := 0
  maxParticipationRate := ⟨1 / 20, by decide +kernel⟩
  allowPartialFills := true
  adverse_below_unit := by decide +kernel

/-- The buy of the round trip fills half of its coin, at costs that agree. -/
theorem replay_costs_agree_partial_fill : ∃ report r before after,
    @replayOhlctvMarketOrders hashlibSha256 roundTripBars roundTripOrders "RUN"
      (some partialFillModel) (some (marketSnapshot loosestLimits))
      (some (cashState ⟨100, by decide⟩)) = .ok report ∧
    report.results[0]? = some r ∧ r.isFill = true ∧
    WithinBar roundTripBars partialFillModel
      (marketOrder "ORDER-1" "BTC-USD" .buy ⟨1, by decide⟩ 0) r ∧
    SettlesAtCost (marketSnapshot loosestLimits) before after r ∧
    @RealizesPrediction hashlibSha256
      (marketOrder "ORDER-1" "BTC-USD" .buy ⟨1, by decide⟩ 0) r := by
  have hbars : validateBarsAreSafe roundTripBars = .ok () :=
    ok_unit_of_toBool _ (by decide)
  have hintents : validateOrderIntents roundTripOrders = .ok () :=
    ok_unit_of_toBool _ (by decide)
  obtain ⟨report, hreport⟩ := (@replay_with_account_succeeds_iff hashlibSha256 roundTripBars
    roundTripOrders "RUN" (some partialFillModel) (marketSnapshot loosestLimits)
    (cashState ⟨100, by decide⟩)).mpr ⟨hbars, hintents, by decide⟩
  obtain ⟨context, hcontext, hall⟩ :=
    @replay_costs_agree hashlibSha256 _ _ _ _ _ _ _ hreport
  cases hcontext
  obtain ⟨r, before, after, hr, hbefore, hone, hfacts⟩ := hall 0 _ rfl
  -- nothing precedes the first order
  have hstart : before = balanceDict (some (cashState ⟨100, by decide⟩)) := by
    cases hbefore
    rfl
  have hfill : r.isFill = true := by
    rw [(@replayOne_settle hashlibSha256 _ _ _ _ _ _ _ hone).1, hstart]
    decide +kernel
  obtain ⟨hbar, hsettles, hrealizes⟩ := hfacts hfill
  exact ⟨report, r, before, after, hreport, hr, hfill, hbar, hsettles _ rfl, hrealizes⟩

end TaModel.Execution
