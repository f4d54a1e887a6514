import TaModel.Simulation.ReplayAborts
import TaModel.Simulation.TwoRuns
import TaModel.Simulation.Resumption
import Mathlib.Algebra.Order.Field.Basic

/-!
# Replays under dearer costs

Two cost models that treat the bars alike and differ in what they charge. They fill the same orders
on the same bars, so the dearer replay never ends richer, as long as its orders are paid for. With
an order that the dearer replay cannot pay for the comparison is lost: the money it kept may pay for
a later order.
-/

set_option autoImplicit false

namespace TaModel.Simulation

open TaModel.Contracts TaModel.Library

/-- The model charges no less than `cheap` and treats the bars as `cheap` does. -/
structure Dearer (dear cheap : ExecutionCostModel) : Prop where
  fee : cheap.takerFeeRate.val ≤ dear.takerFeeRate.val
  spread : cheap.spreadBps.val ≤ dear.spreadBps.val
  slippage : cheap.slippageBps.val ≤ dear.slippageBps.val
  latency : dear.latencyBars = cheap.latencyBars
  participation : dear.maxParticipationRate = cheap.maxParticipationRate
  partials : dear.allowPartialFills = cheap.allowPartialFills

/-- The result without what the cost model charged and without the identity of the model. -/
def eraseCharges (r : ReplayOrderResult) : ReplayOrderResult :=
  { r with
    replayOrderResultId := "", costModelId := none, costModelHash := none, fillPrice := none,
    effectiveFillPrice := none, effectiveNotional := 0, feeCost := 0, spreadCost := 0,
    slippageCost := 0, totalCost := 0 }

/-- `cheaper` is the same result at no higher charge: a buy pays no more, a sell brings no less. -/
structure NoDearer (r cheaper : ReplayOrderResult) : Prop where
  same : eraseCharges cheaper = eraseCharges r
  total : cheaper.totalCost ≤ r.totalCost
  bought : r.side = .buy →
    cheaper.effectiveNotional + cheaper.feeCost ≤ r.effectiveNotional + r.feeCost
  sold : r.side = .sell →
    r.effectiveNotional - r.feeCost ≤ cheaper.effectiveNotional - cheaper.feeCost

/-! ## Charges -/

/-- The adverse adjustment of a model. -/
def adjustmentOf (model : ExecutionCostModel) : Decimal :=
  (model.spreadBps.val + model.slippageBps.val) / 10000

theorem adjustmentOf_bounds (model : ExecutionCostModel) :
    0 ≤ adjustmentOf model ∧ adjustmentOf model < 1 := by
  have hspread := model.spreadBps.property
  have hslippage := model.slippageBps.property
  have hsum := model.adverse_below_unit
  constructor
  · exact div_nonneg (add_nonneg hspread hslippage) (by norm_num)
  · rw [adjustmentOf, div_lt_one (by norm_num)]
    exact hsum

theorem Dearer.adjustment {dear cheap : ExecutionCostModel} (h : Dearer dear cheap) :
    adjustmentOf cheap ≤ adjustmentOf dear := by
  unfold adjustmentOf
  have hsum := add_le_add h.spread h.slippage
  gcongr

/-- What a sale loses of its reference notional, adjustment and fee together, grows with both. -/
theorem sale_loss_le {a a' f f' : Decimal} (ha : a ≤ a') (ha' : a' < 1) (hf : f ≤ f')
    (hf' : f ≤ 1) : (1 - a) * f + a ≤ (1 - a') * f' + a' := by
  calc
    (1 - a) * f + a = f + a * (1 - f) := by ring
    _ ≤ f + a' * (1 - f) := by
        have hrest : 0 ≤ 1 - f := sub_nonneg.mpr hf'
        gcongr
    _ = (1 - a') * f + a' := by ring
    _ ≤ (1 - a') * f' + a' := by
        have hrest : 0 ≤ 1 - a' := (sub_pos.mpr ha').le
        gcongr

section Charges

variable [Sha256] {model dear cheap : ExecutionCostModel} {intent : OrderIntent} {bar : OHLCTVBar}
  {firstIndex index : Nat} {quantity : Decimal}

/-- The charges of a fill are shares of its reference notional. -/
theorem costedFill_charges (hquantity : 0 ≤ quantity) :
    (intent.side = .buy →
      (costedFill model intent bar firstIndex index quantity).effectiveNotional =
          bar.openPrice.val * quantity * (1 + adjustmentOf model) ∧
        (costedFill model intent bar firstIndex index quantity).totalCost =
          bar.openPrice.val * quantity *
            ((1 + adjustmentOf model) * model.takerFeeRate.val + adjustmentOf model)) ∧
    (intent.side = .sell →
      (costedFill model intent bar firstIndex index quantity).effectiveNotional =
          bar.openPrice.val * quantity * (1 - adjustmentOf model) ∧
        (costedFill model intent bar firstIndex index quantity).totalCost =
          bar.openPrice.val * quantity *
            ((1 - adjustmentOf model) * model.takerFeeRate.val + adjustmentOf model)) := by
  have hnotional : 0 ≤ bar.openPrice.val * quantity := mul_nonneg bar.openPrice.property hquantity
  have hprice := mul_nonneg
    (effectiveFillPrice_nonneg model intent.side bar.openPrice.property) hquantity
  constructor
  · intro hside
    rw [hside] at hprice
    simp only [costedFill, hside, abs_of_nonneg hprice, abs_of_nonneg hnotional]
    simp only [effectiveFillPrice, adjustmentOf]
    constructor
    · ring
    · ring
  · intro hside
    rw [hside] at hprice
    simp only [costedFill, hside, abs_of_nonneg hprice, abs_of_nonneg hnotional]
    simp only [effectiveFillPrice, adjustmentOf]
    constructor
    · ring
    · ring

/-- The fee is a share of the effective notional. -/
theorem costedFill_fee (hquantity : 0 ≤ quantity) :
    (costedFill model intent bar firstIndex index quantity).feeCost =
      (costedFill model intent bar firstIndex index quantity).effectiveNotional *
        model.takerFeeRate.val := by
  have hprice := mul_nonneg
    (effectiveFillPrice_nonneg model intent.side bar.openPrice.property) hquantity
  simp only [costedFill, abs_of_nonneg hprice]

/-- On one bar the cheaper model fills one quantity at no higher charge. -/
theorem costedFill_noDearer (h : Dearer dear cheap) (hquantity : 0 ≤ quantity) :
    NoDearer (costedFill dear intent bar firstIndex index quantity)
      (costedFill cheap intent bar firstIndex index quantity) := by
  have hnotional : 0 ≤ bar.openPrice.val * quantity := mul_nonneg bar.openPrice.property hquantity
  have hadjust := h.adjustment
  have hfee := h.fee
  obtain ⟨hcheap_nonneg, -⟩ := adjustmentOf_bounds cheap
  obtain ⟨-, hdear_lt⟩ := adjustmentOf_bounds dear
  obtain ⟨hrate, hrate_le⟩ := dear.takerFeeRate.property
  have hrate' := cheap.takerFeeRate.property.1
  have hone : dear.takerFeeRate.val ≤ 1 := hrate_le.trans (by norm_num)
  have hgrown : 0 ≤ 1 + adjustmentOf cheap := add_nonneg zero_le_one hcheap_nonneg
  have hgrown' : 0 ≤ 1 + adjustmentOf dear := hgrown.trans (by gcongr)
  -- the shares of a sale that reach the account
  have hkept : 0 ≤ 1 - adjustmentOf dear := (sub_pos.mpr hdear_lt).le
  have hkept' : 0 ≤ 1 - adjustmentOf cheap := hkept.trans (by gcongr)
  have hrest : 0 ≤ 1 - dear.takerFeeRate.val := sub_nonneg.mpr hone
  obtain ⟨hbuyDear, hsellDear⟩ := @costedFill_charges _ dear intent bar firstIndex index _ hquantity
  obtain ⟨hbuyCheap, hsellCheap⟩ :=
    @costedFill_charges _ cheap intent bar firstIndex index _ hquantity
  refine ⟨?_, ?_, ?_, ?_⟩
  · simp only [eraseCharges, costedFill, resultOfIntent, h.latency]
  · cases hside : intent.side with
    | buy =>
        rw [(hbuyDear hside).2, (hbuyCheap hside).2]
        gcongr
    | sell =>
        rw [(hsellDear hside).2, (hsellCheap hside).2]
        have hloss := sale_loss_le hadjust hdear_lt hfee (hfee.trans hone)
        gcongr
  · intro hbuy
    obtain ⟨hdear, -⟩ := hbuyDear hbuy
    obtain ⟨hcheap, -⟩ := hbuyCheap hbuy
    rw [costedFill_fee hquantity, costedFill_fee hquantity, hdear, hcheap]
    gcongr
  · intro hsell
    obtain ⟨hdear, -⟩ := hsellDear hsell
    obtain ⟨hcheap, -⟩ := hsellCheap hsell
    rw [costedFill_fee hquantity, costedFill_fee hquantity, hdear, hcheap]
    calc
      bar.openPrice.val * quantity * (1 - adjustmentOf dear) -
            bar.openPrice.val * quantity * (1 - adjustmentOf dear) * dear.takerFeeRate.val
          = bar.openPrice.val * quantity *
              ((1 - adjustmentOf dear) * (1 - dear.takerFeeRate.val)) := by ring
      _ ≤ bar.openPrice.val * quantity *
              ((1 - adjustmentOf cheap) * (1 - cheap.takerFeeRate.val)) := by gcongr
      _ = bar.openPrice.val * quantity * (1 - adjustmentOf cheap) -
            bar.openPrice.val * quantity * (1 - adjustmentOf cheap) * cheap.takerFeeRate.val := by
          ring

end Charges

/-! ## One order under both models -/

theorem NoDearer.side {r cheaper : ReplayOrderResult} (h : NoDearer r cheaper) :
    cheaper.side = r.side := by
  have hside : (eraseCharges cheaper).side = (eraseCharges r).side :=
    congrArg ReplayOrderResult.side h.same
  exact hside

/-- The transfer of the cheaper result takes no more and gives no less. -/
theorem NoDearer.transfer {r cheaper : ReplayOrderResult} (h : NoDearer r cheaper)
    (instrument : Instrument) :
    (transferOn instrument r).Dearer (transferOn instrument cheaper) := by
  have hvenue : (eraseCharges cheaper).venueId = (eraseCharges r).venueId :=
    congrArg ReplayOrderResult.venueId h.same
  have hquantity : (eraseCharges cheaper).filledQuantity = (eraseCharges r).filledQuantity :=
    congrArg ReplayOrderResult.filledQuantity h.same
  simp only [eraseCharges] at hvenue hquantity
  unfold transferOn
  rw [h.side, hvenue, hquantity]
  cases hside : r.side with
  | buy => exact ⟨rfl, rfl, h.bought hside, le_refl _⟩
  | sell => exact ⟨rfl, rfl, le_refl _, h.sold hside⟩

section Orders

variable [Sha256] {bars : List OHLCTVBar} {dear cheap : ExecutionCostModel}
  {context : Option VenueContext} {intent : OrderIntent}

omit [Sha256] in
/-- The two models let the same quantity of an order through. -/
theorem Dearer.liquidQuantity (h : Dearer dear cheap) (intent : OrderIntent) (bar : OHLCTVBar) :
    liquidQuantity (some dear) intent bar = liquidQuantity (some cheap) intent bar := by
  simp only [Simulation.liquidQuantity, h.participation, h.partials]

/-- Under both models an order has no fill for one reason, or fills one quantity on one bar. -/
theorem fillAttempt_dearer (h : Dearer dear cheap) (bars : List OHLCTVBar)
    (context : Option VenueContext) (intent : OrderIntent) :
    (∃ reason model model' eligibleIndex attemptIndex,
      Option.map ExecutionCostModel.latencyBars model' =
        Option.map ExecutionCostModel.latencyBars model ∧
      fillAttempt bars (some dear) context intent =
        .unfilled reason model eligibleIndex attemptIndex ∧
      fillAttempt bars (some cheap) context intent =
        .unfilled reason model' eligibleIndex attemptIndex) ∨
    ∃ bar firstIndex index quantity, liquidQuantity (some cheap) intent bar = some quantity ∧
      fillAttempt bars (some dear) context intent =
        .fill (costedFill dear intent bar firstIndex index quantity) ∧
      fillAttempt bars (some cheap) context intent =
        .fill (costedFill cheap intent bar firstIndex index quantity) := by
  have hlatencies : Option.map ExecutionCostModel.latencyBars (some cheap) =
      Option.map ExecutionCostModel.latencyBars (some dear) := congrArg some h.latency.symm
  by_cases hready : metadataReason context intent = none ∧ intent.orderType = .market
  · obtain ⟨hmetadata, hmarket⟩ := hready
    -- which bar an order meets depends on the latency alone
    have hsame : fillBar bars (some dear) intent = fillBar bars (some cheap) intent := by
      have hlatency : latencyOf (some dear) = latencyOf (some cheap) := h.latency
      rw [fillBar, fillBar, hlatency]
    cases hbar : fillBar bars (some cheap) intent with
    | none =>
        have hattempt := @fillAttempt_of_no_bar _ _ _ _ _ hmetadata hmarket (hsame.trans hbar)
        have hattempt' := @fillAttempt_of_no_bar _ _ _ _ _ hmetadata hmarket hbar
        refine Or.inl ⟨_, _, _, _, _, ?_, hattempt, hattempt'⟩
        cases (eligibleBars intent bars).head? with
        | none => rfl
        | some first => exact hlatencies
    | some entry =>
        obtain ⟨first, hfirst, hattempt⟩ :=
          fillAttempt_of_bar hmetadata hmarket (hsame.trans hbar)
        obtain ⟨first', hfirst', hattempt'⟩ := fillAttempt_of_bar hmetadata hmarket hbar
        obtain rfl : first = first' := Option.mem_unique hfirst hfirst'
        rw [hattempt, hattempt']
        unfold attemptOn
        rw [h.liquidQuantity]
        cases constraintReasonAt context intent entry.1 with
        | some reason => exact Or.inl ⟨_, _, _, _, _, hlatencies, rfl, rfl⟩
        | none =>
            cases hliquid : Simulation.liquidQuantity (some cheap) intent entry.1 with
            | none => exact Or.inl ⟨_, _, _, _, _, hlatencies, rfl, rfl⟩
            | some quantity => exact Or.inr ⟨entry.1, _, _, quantity, hliquid, rfl, rfl⟩
  · -- refused before the bars are looked at
    have hsame : fillAttempt bars (some dear) context intent =
        fillAttempt bars (some cheap) context intent := fillAttempt_of_refused hready
    have hunfilled : ∃ reason, fillAttempt bars (some cheap) context intent =
        .unfilled reason none none none := by
      cases hmetadata : metadataReason context intent with
      | some reason => exact ⟨reason, by rw [fillAttempt, ← metadataReason, hmetadata]⟩
      | none =>
          have hmarket : intent.orderType ≠ .market := fun hm => hready ⟨hmetadata, hm⟩
          refine ⟨.unsupportedOrderType, ?_⟩
          rw [fillAttempt, ← metadataReason, hmetadata]
          exact if_pos hmarket
    obtain ⟨reason, hcheap⟩ := hunfilled
    exact Or.inl ⟨reason, none, none, none, none, rfl, hsame.trans hcheap, hcheap⟩

/-- One order: when the dearer run does not reject it for a balance, a run that holds at least as
much of everything gets the same result at no higher charge and still holds as much. -/
theorem replayOne_cheaper (h : Dearer dear cheap) {b b' c : Balances} {r : ReplayOrderResult}
    (hricher : ∀ key, b.available key ≤ c.available key)
    (hone : replayOne bars (some dear) context b intent = .ok (r, b'))
    (hpaid : ∀ reason ∈ r.reason, ¬ IsBalanceReject reason) :
    ∃ cheaper c', replayOne bars (some cheap) context c intent = .ok (cheaper, c') ∧
      (∀ key, b'.available key ≤ c'.available key) ∧ NoDearer r cheaper := by
  unfold replayOne at hone ⊢
  rcases fillAttempt_dearer h bars context intent with
    ⟨reason, model, model', eligibleIndex, attemptIndex, hlatency, hdear, hcheap⟩ |
    ⟨bar, firstIndex, index, quantity, hliquid, hdear, hcheap⟩
  · rw [hdear] at hone
    rw [hcheap]
    simp only [settleAttempt, unfilledResult_eq, ok_bind] at hone ⊢
    cases hone
    refine ⟨_, c, rfl, hricher, ?_, le_refl _, fun _ => le_refl _, fun _ => le_refl _⟩
    simp only [eraseCharges, ReplayOrderResult.withBuiltId, unfilledDraft, hlatency]
  · rw [hdear] at hone
    rw [hcheap]
    obtain ⟨hpos, -⟩ := liquidQuantity_bounds hliquid
    have hdrafts := @costedFill_noDearer _ dear cheap intent bar firstIndex index _ h hpos.le
    have hresults : NoDearer (costedFill dear intent bar firstIndex index quantity).withBuiltId
        (costedFill cheap intent bar firstIndex index quantity).withBuiltId :=
      ⟨hdrafts.same, hdrafts.total, hdrafts.bought, hdrafts.sold⟩
    obtain ⟨hvalid, hkept⟩ := settleAttempt_fill_cases hone
    -- both drafts are valid when the bar opens above zero
    have hvalid' : (costedFill cheap intent bar firstIndex index quantity).validateFields =
        .ok () := by
      have hliquidDear := (h.liquidQuantity intent bar).trans hliquid
      have hopen := (@fillDraft_validates_iff _ _ _ firstIndex (bar, index) _ hliquidDear).mp hvalid
      exact (@fillDraft_validates_iff _ _ _ firstIndex (bar, index) _ hliquid).mpr hopen
    have hconstruct := (ReplayOrderResult.construct_eq_ok_iff _ _).mpr ⟨hvalid', rfl⟩
    have hr : r = (costedFill dear intent bar firstIndex index quantity).withBuiltId := by
      rcases hkept with hr | ⟨reason, hbalance, -, hr⟩
      · exact hr
      · refine absurd hbalance (hpaid reason ?_)
        rw [hr]
        rfl
    obtain ⟨result, hresult, hsettle⟩ := (bind_eq_ok_iff _ _ _).mp hone
    obtain ⟨-, rfl⟩ := (ReplayOrderResult.construct_eq_ok_iff _ _).mp hresult
    simp only [settleAttempt, hconstruct, ok_bind]
    cases context with
    | none =>
        cases hsettle
        exact ⟨_, c, rfl, hricher, hresults⟩
    | some v =>
        obtain ⟨instrument, hinstrument, hposted⟩ :=
          applyBalanceOrReject_cases rfl rfl rfl hsettle
        have hfill := isFill_fillDraft (some dear) intent firstIndex (bar, index) quantity
        rcases hposted with ⟨-, hnot, -⟩ | ⟨hcovers, -, hbook, -⟩
        · rw [hr] at hnot
          exact absurd (hnot.symm.trans hfill) Bool.false_ne_true
        · obtain ⟨⟨cheaper, c'⟩, hsettle'⟩ := applyBalanceOrReject_total hinstrument
            (costedFill cheap intent bar firstIndex index quantity).withBuiltId c
          obtain ⟨instrument', hinstrument', hposted'⟩ :=
            applyBalanceOrReject_cases rfl rfl rfl hsettle'
          obtain rfl : instrument' = instrument :=
            Option.some.inj (hinstrument'.symm.trans hinstrument)
          -- what the poorer account could pay, the richer one can
          have htransfer := hresults.transfer instrument'
          have hcovers' := htransfer.covers hricher hcovers
          rcases hposted' with ⟨hnot, -⟩ | ⟨-, rfl, hbook', -⟩
          · exact absurd hcovers' hnot
          · refine ⟨_, c', hsettle', ?_, ?_⟩
            · intro key
              have hpost := htransfer.post_le hricher key
              calc
                b'.available key = b.book.post _ key := congrFun hbook key
                _ ≤ c.book.post _ key := hpost
                _ = c'.available key := (congrFun hbook' key).symm
            · rw [hr]
              exact hresults

/-- Without an account no order is rejected for a balance. -/
theorem no_balanceReject_without_account {costModel : Option ExecutionCostModel} {b b' : Balances}
    {r : ReplayOrderResult} (hone : replayOne bars costModel none b intent = .ok (r, b')) :
    ∀ reason ∈ r.reason, ¬ IsBalanceReject reason := by
  have hunfilled : ∀ reason model eligibleIndex attemptIndex, ¬ IsBalanceReject reason →
      settleAttempt none b intent (.unfilled reason model eligibleIndex attemptIndex) =
        .ok (r, b') → ∀ other ∈ r.reason, ¬ IsBalanceReject other := by
    intro reason model eligibleIndex attemptIndex hreason hsettle other hother
    simp only [settleAttempt, unfilledResult_eq, ok_bind] at hsettle
    cases hsettle
    obtain rfl := Option.some.inj hother
    exact hreason
  rw [replayOne] at hone
  by_cases hmarket : intent.orderType = .market
  · have hmetadata : metadataReason none intent = none := rfl
    cases hbar : fillBar bars costModel intent with
    | none =>
        rw [fillAttempt_of_no_bar hmetadata hmarket hbar] at hone
        exact hunfilled _ _ _ _ (by rintro (h | h) <;> cases h) hone
    | some entry =>
        obtain ⟨first, -, hattempt⟩ := fillAttempt_of_bar hmetadata hmarket hbar
        rw [hattempt, attemptOn, constraintReasonAt] at hone
        dsimp only [Option.bind_none] at hone
        cases hliquid : liquidQuantity costModel intent entry.1 with
        | none =>
            rw [hliquid] at hone
            exact hunfilled _ _ _ _ (by rintro (h | h) <;> cases h) hone
        | some quantity =>
            rw [hliquid] at hone
            obtain ⟨result, hresult, hsettle⟩ := (bind_eq_ok_iff _ _ _).mp hone
            obtain ⟨-, rfl⟩ := (ReplayOrderResult.construct_eq_ok_iff _ _).mp hresult
            cases hsettle
            intro reason hreason
            cases costModel with
            | none => cases hreason
            | some model => cases hreason
  · have hattempt : fillAttempt bars costModel none intent =
        .unfilled .unsupportedOrderType none none none := if_pos hmarket
    rw [hattempt] at hone
    exact hunfilled _ _ _ _ (by rintro (h | h) <;> cases h) hone

end Orders

/-! ## Whole replays -/

section Replays

variable [Sha256] {bars : List OHLCTVBar} {dear cheap : ExecutionCostModel}
  {snapshot : Option InstrumentMasterSnapshot} {state : Option SimulatedAccountState}

omit [Sha256] in
/-- What the dictionaries hold at the end, the final account states hold. -/
theorem buildAccountState_richer {b c : Balances} {final : Option SimulatedAccountState}
    (hnonneg : ∀ s ∈ state, ∀ key, 0 ≤ c.available key)
    (hricher : ∀ key, b.available key ≤ c.available key)
    (h : buildAccountState state b = .ok final) :
    ∃ final', buildAccountState state c = .ok final' ∧
      ∀ reached ∈ final, ∃ reached' ∈ final', ∀ key,
        availableIn reached key ≤ availableIn reached' key := by
  cases state with
  | none =>
      cases h
      exact ⟨none, rfl, by simp⟩
  | some start =>
      obtain ⟨reached, hreached, rfl⟩ := (map_eq_ok_iff _ _ _).mp h
      obtain ⟨reached', hreached'⟩ := finalState_total start.accountId (hnonneg start rfl)
      refine ⟨some reached', (map_eq_ok_iff _ _ _).mpr ⟨reached', hreached', rfl⟩, ?_⟩
      intro s hs
      obtain rfl := Option.some.inj hs
      refine ⟨reached', rfl, ?_⟩
      intro key
      rw [availableIn_finalState hreached, availableIn_finalState hreached']
      exact hricher key

/-- When the dearer replay rejects no order for a balance, the cheaper replay of the orders gives
the same results at no higher charge, and its account ends with no less of any asset. -/
theorem dearer_replay_never_richer (h : Dearer dear cheap) {intents : List OrderIntent}
    {runId cheapId : String} {report : ReplayReport} (hcheapId : isCanonicalId cheapId = true)
    (hreport : replayOhlctvMarketOrders bars intents runId (some dear) snapshot state = .ok report)
    (hpaid : ∀ r ∈ report.results, ∀ reason ∈ r.reason, ¬ IsBalanceReject reason) :
    ∃ cheaper,
      replayOhlctvMarketOrders bars intents cheapId (some cheap) snapshot state = .ok cheaper ∧
      List.Forall₂ NoDearer report.results cheaper.results ∧
      (cheaper.results.map ReplayOrderResult.totalCost).sum ≤
        (report.results.map ReplayOrderResult.totalCost).sum ∧
      ∀ final ∈ report.finalAccountState, ∃ final' ∈ cheaper.finalAccountState,
        ∀ key, availableIn final key ≤ availableIn final' key := by
  obtain ⟨context, balances, hbars, hintents, hcontext, hrun, -, -, hfinal⟩ :=
    replayOhlctvMarketOrders_ok hreport
  -- order by order the cheaper account stays at least as rich in every asset
  have hstep : ∀ (b c : Balances) intent r b', (∀ key, b.available key ≤ c.available key) →
      replayOne bars (some dear) context b intent = .ok (r, b') →
      (∀ reason ∈ r.reason, ¬ IsBalanceReject reason) →
      ∃ cheaper c', replayOne bars (some cheap) context c intent = .ok (cheaper, c') ∧
        (∀ key, b'.available key ≤ c'.available key) ∧ NoDearer r cheaper := by
    intro b c intent r b' hricher hone hr
    exact replayOne_cheaper h hricher hone hr
  obtain ⟨⟨results, balances'⟩, hrun', hricher, hresults⟩ :=
    runSteps_simulate hstep (fun key => le_refl _) hrun hpaid
  -- so its final account state can be built
  have hnonneg : ∀ s ∈ state, ∀ key, 0 ≤ balances'.available key := by
    rintro s rfl
    cases snapshot with
    | none => cases hcontext
    | some master =>
        cases hcontext
        exact replayOrders_nonneg (balanceDict_nonneg s) hrun'
  obtain ⟨final', hfinal', hstates⟩ := buildAccountState_richer hnonneg hricher hfinal
  obtain ⟨cheaper, hcheaper, hsame, hstate⟩ :=
    replay_of_run hbars hintents hcontext hrun' hfinal' hcheapId
  refine ⟨cheaper, hcheaper, ?_, ?_, ?_⟩
  · rw [hsame]
    exact hresults
  · rw [hsame]
    apply List.Forall₂.sum_le_sum
    rw [List.forall₂_map_left_iff, List.forall₂_map_right_iff]
    exact hresults.flip.imp fun _ _ hr => hr.total
  · rw [hstate]
    exact hstates

end Replays

theorem hundredth_is_fee : (0 : Decimal) ≤ 1 / 100 ∧ (1 / 100 : Decimal) ≤ 1 / 20 := by
  norm_num

theorem ten_below_unit : (10 : Decimal) + 0 < 10000 := by norm_num

/-- One percent of fee and ten basis points of spread. -/
def chargingModel : ExecutionCostModel where
  takerFeeRate := ⟨1 / 100, hundredth_is_fee⟩
  spreadBps := ⟨10, Decimal.zero_le_ten⟩
  slippageBps := ⟨0, Decimal.zero_le_zero⟩
  latencyBars := 0
  maxParticipationRate := ⟨1, Decimal.one_is_fraction⟩
  allowPartialFills := false
  adverse_below_unit := ten_below_unit

/-- The charging model is dearer than one that charges nothing. -/
def uncharged : ExecutionCostModel := { chargingModel with
  takerFeeRate := ⟨0, Decimal.zero_is_fee⟩, spreadBps := ⟨0, Decimal.zero_le_zero⟩,
  adverse_below_unit := by decide +kernel }

theorem charging_dearer : Dearer chargingModel uncharged :=
  ⟨by decide +kernel, by decide +kernel, le_refl _, rfl, rfl, rfl⟩

/-- Without an account every order of the dearer replay is paid for. -/
theorem dearer_replay_never_richer_purchase : ∃ report cheaper,
    @replayOhlctvMarketOrders hashlibSha256 (pricedBars ⟨100, Decimal.zero_le_hundred⟩) [purchase]
      "RUN" (some chargingModel) none none = .ok report ∧
    @replayOhlctvMarketOrders hashlibSha256 (pricedBars ⟨100, Decimal.zero_le_hundred⟩) [purchase]
      "RUN:CHEAP" (some uncharged) none none = .ok cheaper ∧
    List.Forall₂ NoDearer report.results cheaper.results := by
  have hopen : ∀ intent ∈ [purchase], ¬ FillsAtZeroOpen
      (pricedBars ⟨100, Decimal.zero_le_hundred⟩) (some chargingModel) intent := by
    rintro intent hintent ⟨-, entry, hentry, hzero, -⟩
    obtain rfl := List.mem_singleton.mp hintent
    have hbar : fillBar (pricedBars ⟨100, Decimal.zero_le_hundred⟩) (some chargingModel) purchase =
        some (flatBar "BTC-USD" 1 0 ⟨100, Decimal.zero_le_hundred⟩ ⟨10, Decimal.zero_le_ten⟩, 0) :=
      rfl
    rw [hbar] at hentry
    cases hentry
    revert hzero
    decide
  have hrunId : isCanonicalId "RUN" = true ∧ isCanonicalId "RUN:CHEAP" = true := by decide
  obtain ⟨report, hreport⟩ := (@replay_without_account_succeeds_iff hashlibSha256 _ _ _ _).mpr
    ⟨pricedBars_accepted ⟨100, Decimal.zero_le_hundred⟩, purchase_accepted, hrunId.1, hopen⟩
  have hpaid : ∀ r ∈ report.results, ∀ reason ∈ r.reason, ¬ IsBalanceReject reason := by
    intro r hr
    obtain ⟨context, balances, -, -, hcontext, hrun, -⟩ :=
      @replayOhlctvMarketOrders_ok hashlibSha256 _ _ _ _ _ _ _ hreport
    cases hcontext
    obtain ⟨intent, -, b, b', hone⟩ :=
      exists_of_mem_right (@replayOrders_isReplayOf hashlibSha256 _ _ _ _ _ _ hrun) hr
    exact @no_balanceReject_without_account hashlibSha256 _ _ _ _ _ _ hone
  obtain ⟨cheaper, hcheaper, hresults, -⟩ := @dearer_replay_never_richer hashlibSha256 _ _ _ _ _
    charging_dearer _ _ _ _ hrunId.2 hreport hpaid
  exact ⟨report, cheaper, hreport, hcheaper, hresults⟩

end TaModel.Simulation
