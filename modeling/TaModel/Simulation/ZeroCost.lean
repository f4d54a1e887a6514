import TaModel.Simulation.Causality
import TaModel.Simulation.DecimalTotal

/-!
# Replay at zero cost

A cost model of no fee, spread, slippage and latency that admits the whole volume makes the costed
branch of `_replay_one` choose the bar of the plain branch and, where neither the volume nor the open
price of the bar has more digits than the context keeps, fill it at the same price. The two branches
then differ in the cost-model identity and the event indices only, and two whole runs hold the same
balances after every order.
-/

set_option autoImplicit false

namespace TaModel.Simulation

open TaModel.Contracts TaModel.Library

/-- The model charges nothing, waits for nothing and lets the whole volume through. -/
structure ZeroCost (model : ExecutionCostModel) : Prop where
  no_fee : model.takerFeeRate.val = 0
  no_spread : model.spreadBps.val = 0
  no_slippage : model.slippageBps.val = 0
  no_latency : model.latencyBars = 0
  whole_volume : model.maxParticipationRate.val = 1

/-- The bar of an order that reaches one has volume for it. -/
def VolumeCovers (bars : List OHLCTVBar) (context : Option VenueContext) (intent : OrderIntent) :
    Prop :=
  ∀ entry, Reaches bars none context intent entry →
    intent.quantity.val ≤ entry.1.baseVolume.val

/-- The bar of an order that reaches one has volume for it after rounding, and an open price that
rounding keeps. -/
def RoundedVolumeCovers (a : Arithmetic) (bars : List OHLCTVBar) (context : Option VenueContext)
    (intent : OrderIntent) : Prop :=
  ∀ entry, Reaches bars none context intent entry →
    intent.quantity.val ≤ a.round entry.1.baseVolume.val ∧
      a.round entry.1.openPrice.val = entry.1.openPrice.val

section Attempts

variable {model : ExecutionCostModel} (hzero : ZeroCost model)
include hzero

theorem fillBar_zeroCost (bars : List OHLCTVBar) (intent : OrderIntent) :
    fillBar bars (some model) intent = fillBar bars none intent := by
  have hlatency : latencyOf (some model) = latencyOf none := hzero.no_latency
  unfold fillBar
  rw [hlatency]

theorem reaches_zeroCost_iff {bars : List OHLCTVBar} {context : Option VenueContext}
    {intent : OrderIntent} {entry : OHLCTVBar × Nat} :
    Reaches bars (some model) context intent entry ↔ Reaches bars none context intent entry := by
  have hsame := fillBar_zeroCost hzero bars intent
  constructor
  · rintro ⟨hmetadata, hmarket, hbar⟩
    exact ⟨hmetadata, hmarket, hsame.symm.trans hbar⟩
  · rintro ⟨hmetadata, hmarket, hbar⟩
    exact ⟨hmetadata, hmarket, hsame.trans hbar⟩

/-- The whole quantity is liquid on a bar with volume for it. -/
theorem liquidQuantityIn_zeroCost {a : Arithmetic} {intent : OrderIntent} {bar : OHLCTVBar}
    (hvolume : intent.quantity.val ≤ a.round bar.baseVolume.val) :
    liquidQuantityIn a (some model) intent bar = some intent.quantity.val := by
  have hpos := lt_of_lt_of_le intent.quantity.property hvolume
  unfold liquidQuantityIn cappedQuantity
  dsimp only
  rw [hzero.whole_volume, mul_one, min_eq_left hvolume, if_neg]
  rintro (hle | ⟨hlt, -⟩)
  · exact absurd hpos (not_lt.mpr hle)
  · exact lt_irrefl _ hlt

/-- At zero cost the amounts of a whole fill are the plain ones. -/
theorem amountsAt_zeroCost {a : Arithmetic} (hone : a.round 1 = 1) (intent : OrderIntent)
    {bar : OHLCTVBar} (hopen : a.round bar.openPrice.val = bar.openPrice.val) :
    amountsAt a (some model) intent bar intent.quantity.val =
      amountsAt a none intent bar intent.quantity.val := by
  have hfactor : adverseFactor intent.side 0 = 1 := by
    cases intent.side with
    | buy => exact add_zero 1
    | sell => exact sub_zero 1
  simp only [amountsAt, roundedAmounts, costedOperands, FillOperands.amounts, hzero.no_fee,
    hzero.no_spread, hzero.no_slippage, add_zero, zero_div, mul_zero, a.round_zero, hfactor, hone,
    mul_one, hopen, sub_self]

variable [Sha256]

/-- At zero cost the costed draft is the plain one, cost-model identity and indices aside. -/
theorem eraseCostModel_draftOf (intent : OrderIntent) (firstIndex firstIndex' : Nat)
    (entry : OHLCTVBar × Nat) {a : Arithmetic} {amounts : FillAmounts}
    (hamounts : amounts = amountsAt a none intent entry.1 intent.quantity.val) :
    eraseCostModel
        (draftOf (some model) intent firstIndex entry intent.quantity.val amounts).withBuiltId =
      eraseCostModel
        (draftOf none intent firstIndex' entry intent.quantity.val amounts).withBuiltId := by
  subst hamounts
  simp [eraseCostModel, eraseIndices, ReplayOrderResult.withBuiltId, draftOf, costedDraft, plainDraft,
    amountsAt, roundedAmounts, resultOfIntent, hzero.no_latency]

/-- At zero cost a rejection under the model is the plain one, cost-model identity and indices
aside. -/
theorem eraseCostModel_unfilledDraft (intent : OrderIntent) (reason : ReplayRejectReason)
    (eligibleIndex attemptIndex : Option Nat) :
    eraseCostModel
        (unfilledDraft intent reason (some model) eligibleIndex attemptIndex).withBuiltId =
      eraseCostModel (unfilledDraft intent reason none none none).withBuiltId := by
  have hlatency : ((some model).map ExecutionCostModel.latencyBars).getD 0 = 0 := hzero.no_latency
  unfold eraseCostModel eraseIndices ReplayOrderResult.withBuiltId unfilledDraft
  rw [hlatency]
  rfl

end Attempts

section Settlement

variable [Sha256] {a : Arithmetic} {context : Option VenueContext} {balances b b' : Balances}
  {intent : OrderIntent} {r r' : ReplayOrderResult}

theorem settle_unfilled_eq {reason : ReplayRejectReason} {model : Option ExecutionCostModel}
    {eligibleIndex attemptIndex : Option Nat}
    (h : settleAttemptIn a context balances intent
      (.unfilled reason model eligibleIndex attemptIndex) = .ok (r, b)) :
    b = balances ∧ r = (unfilledDraft intent reason model eligibleIndex attemptIndex).withBuiltId := by
  obtain ⟨result, hresult, hout⟩ := (bind_eq_ok_iff _ _ _).mp h
  cases hout
  exact ⟨rfl, ((ReplayOrderResult.constructIn_eq_ok_iff _ _).mp hresult).2⟩

/-- Two fills of one order that pay the same are settled alike. -/
theorem settle_fill_alike {draft draft' : ReplayOrderResult}
    (hnotional : draft'.effectiveNotional = draft.effectiveNotional)
    (hfee : draft'.feeCost = draft.feeCost)
    (hquantity : draft'.filledQuantity = draft.filledQuantity)
    (h : settleAttemptIn a context balances intent (.fill draft) = .ok (r, b))
    (h' : settleAttemptIn a context balances intent (.fill draft') = .ok (r', b')) :
    b' = b ∧ (r' = r ∨ (r = draft.withBuiltId ∧ r' = draft'.withBuiltId)) := by
  obtain ⟨result, hresult, h⟩ := (bind_eq_ok_iff _ _ _).mp h
  obtain ⟨result', hresult', h'⟩ := (bind_eq_ok_iff _ _ _).mp h'
  obtain ⟨-, rfl⟩ := (ReplayOrderResult.constructIn_eq_ok_iff _ _).mp hresult
  obtain ⟨-, rfl⟩ := (ReplayOrderResult.constructIn_eq_ok_iff _ _).mp hresult'
  cases context with
  | none =>
      cases h
      cases h'
      exact ⟨rfl, .inr ⟨rfl, rfl⟩⟩
  | some c =>
      obtain ⟨instrument, hlisted, hcase⟩ := applyBalanceOrRejectIn_cases h
      obtain ⟨instrument', hlisted', hcase'⟩ := applyBalanceOrRejectIn_cases h'
      obtain rfl := Option.some.inj (hlisted.symm.trans hlisted')
      have hnotional' : draft'.withBuiltId.effectiveNotional =
          draft.withBuiltId.effectiveNotional := hnotional
      have hfee' : draft'.withBuiltId.feeCost = draft.withBuiltId.feeCost := hfee
      have hquantity' : draft'.withBuiltId.filledQuantity = draft.withBuiltId.filledQuantity :=
        hquantity
      rw [hnotional', hfee', hquantity'] at hcase'
      rcases hcase with ⟨hnot, rfl, hr⟩ | ⟨hafford, rfl, rfl⟩
      · rcases hcase' with ⟨-, rfl, hr'⟩ | ⟨hafford, -⟩
        · exact ⟨rfl, .inl (Except.ok.inj (hr'.symm.trans hr))⟩
        · exact absurd hafford hnot
      · rcases hcase' with ⟨hnot, -⟩ | ⟨-, rfl, rfl⟩
        · exact absurd hafford hnot
        · exact ⟨rfl, .inr ⟨rfl, rfl⟩⟩

end Settlement

section Steps

variable [Sha256] {a : Arithmetic} {model : ExecutionCostModel} {bars : List OHLCTVBar}
  {context : Option VenueContext} {balances b b' : Balances} {intent : OrderIntent}
  {r r' : ReplayOrderResult}

/-- The two attempts on one bar are settled alike. -/
theorem settle_zeroCost (hzero : ZeroCost model) (hone : a.round 1 = 1) {firstIndex firstIndex' : Nat}
    {entry : OHLCTVBar × Nat} {attempt attempt' : FillAttempt}
    (hvolume : intent.quantity.val ≤ a.round entry.1.baseVolume.val)
    (hopen : a.round entry.1.openPrice.val = entry.1.openPrice.val)
    (hattempt : AttemptAt a context none intent firstIndex entry attempt)
    (hattempt' : AttemptAt a context (some model) intent firstIndex' entry attempt')
    (h : settleAttemptIn a context balances intent attempt = .ok (r, b))
    (h' : settleAttemptIn a context balances intent attempt' = .ok (r', b')) :
    b' = b ∧ eraseCostModel r' = eraseCostModel r := by
  cases hattempt with
  | refused hevaluate hrefuse =>
      cases hattempt' with
      | refused =>
          obtain ⟨rfl, rfl⟩ := settle_unfilled_eq h
          obtain ⟨rfl, rfl⟩ := settle_unfilled_eq h'
          exact ⟨rfl, eraseCostModel_unfilledDraft hzero intent _ _ _⟩
      | illiquid _ haccept => exact absurd haccept hrefuse
      | filled _ haccept => exact absurd haccept hrefuse
  | illiquid _ _ _ hdry => cases hdry
  | filled hevaluate haccept hvolume' hliquid hamounts =>
      cases hliquid
      cases hattempt' with
      | refused _ hrefuse => exact absurd haccept hrefuse
      | illiquid _ _ _ hdry =>
          rw [liquidQuantityIn_zeroCost hzero hvolume] at hdry
          cases hdry
      | filled _ _ _ hliquid' _ =>
          rw [liquidQuantityIn_zeroCost hzero hvolume] at hliquid'
          cases hliquid'
          have hsame := amountsAt_zeroCost hzero hone intent hopen
          unfold amountsAt at hsame
          rw [hsame] at h'
          obtain ⟨hbalances, hcase⟩ := settle_fill_alike (by rfl) (by rfl) (by rfl) h h'
          refine ⟨hbalances, ?_⟩
          rcases hcase with rfl | ⟨rfl, rfl⟩
          · rfl
          · exact eraseCostModel_draftOf hzero intent firstIndex' firstIndex entry rfl

/-- One order: from equal balances the plain and the costed run make the same result, cost-model
identity and indices aside, and leave equal balances. -/
theorem replayOneIn_zeroCost (hzero : ZeroCost model) (hone : a.round 1 = 1)
    (hvolume : RoundedVolumeCovers a bars context intent)
    (h : replayOneIn a bars none context balances intent = .ok (r, b))
    (h' : replayOneIn a bars (some model) context balances intent = .ok (r', b')) :
    b' = b ∧ eraseCostModel r' = eraseCostModel r := by
  obtain ⟨attempt, hattempt, hsettle⟩ := (bind_eq_ok_iff _ _ _).mp h
  obtain ⟨attempt', hattempt', hsettle'⟩ := (bind_eq_ok_iff _ _ _).mp h'
  by_cases hreach : ∃ entry, Reaches bars none context intent entry
  · obtain ⟨entry, hentry⟩ := hreach
    obtain ⟨first, -, hplain⟩ := fillAttemptIn_of_reaches (a := a) hentry
    obtain ⟨first', -, hcosted⟩ :=
      fillAttemptIn_of_reaches (a := a) ((reaches_zeroCost_iff hzero).mpr hentry)
    rw [hplain, attemptOnIn_eq_ok_iff] at hattempt
    rw [hcosted, attemptOnIn_eq_ok_iff] at hattempt'
    obtain ⟨hcovers, hopen⟩ := hvolume entry hentry
    exact settle_zeroCost hzero hone hcovers hopen hattempt hattempt' hsettle hsettle'
  · have hnone : ∀ entry, ¬ Reaches bars none context intent entry :=
      fun entry hentry => hreach ⟨entry, hentry⟩
    have hnone' : ∀ entry, ¬ Reaches bars (some model) context intent entry :=
      fun entry hentry => hnone entry ((reaches_zeroCost_iff hzero).mp hentry)
    -- an order that reaches no bar makes no use of the cost model
    have hsame : fillAttempt bars (some model) context intent =
        fillAttempt bars none context intent := by
      by_cases hready : metadataReason context intent = none ∧ intent.orderType = .market
      · obtain ⟨hmetadata, hmarket⟩ := hready
        have hbar : fillBar bars none intent = none := by
          cases hbar : fillBar bars none intent with
          | none => rfl
          | some entry => exact absurd ⟨hmetadata, hmarket, hbar⟩ (hnone entry)
        have hnil : eligibleBars intent bars = [] := by
          have hlength := List.getElem?_eq_none_iff.mp hbar
          exact List.eq_nil_of_length_eq_zero (Nat.le_zero.mp hlength)
        have hbar' := (fillBar_zeroCost hzero bars intent).trans hbar
        rw [fillAttempt_of_no_bar hmetadata hmarket hbar,
          fillAttempt_of_no_bar hmetadata hmarket hbar', hnil]
        rfl
      · exact fillAttempt_of_refused hready
    rw [(fillAttemptIn_of_not_reaches hnone).1] at hattempt
    rw [(fillAttemptIn_of_not_reaches hnone').1, hsame] at hattempt'
    cases hattempt
    cases hattempt'
    rw [hsettle] at hsettle'
    cases hsettle'
    exact ⟨rfl, rfl⟩

end Steps

theorem contextRounded_one : contextRounded 1 = 1 := by
  have hpower := contextRounded_zpow (k := 0) (by decide)
  rwa [zpow_zero] at hpower

/-! ## Whole replays -/

section Replays

variable [Sha256]

/-- The plain replay and the replay under a zero-cost model agree on every order and on the final
account, cost-model identity, event indices and the ids derived from them aside. -/
theorem replay_zero_cost_agrees {model : ExecutionCostModel} (hzero : ZeroCost model)
    {bars : List OHLCTVBar} {intents : List OrderIntent} {runId : String}
    {snapshot : Option InstrumentMasterSnapshot} {state : Option SimulatedAccountState}
    {context : Option VenueContext} (hcontext : pairContext snapshot state = .ok context)
    (hvolume : ∀ intent ∈ intents, RoundedVolumeCovers .context bars context intent)
    {plain costed : ReplayReport}
    (hplain : replayMarketOrdersIn .context bars intents runId none snapshot state = .ok plain)
    (hcosted : replayMarketOrdersIn .context bars intents runId (some model) snapshot state =
      .ok costed) :
    costed.results.map eraseCostModel = plain.results.map eraseCostModel ∧
      costed.finalAccountState = plain.finalAccountState := by
  obtain ⟨c, b, -, -, hc, hrun, -, hfinal⟩ := replayMarketOrdersIn_ok hplain
  obtain ⟨c', b', -, -, hc', hrun', -, hfinal'⟩ := replayMarketOrdersIn_ok hcosted
  obtain rfl : c = context := Except.ok.inj (hc.symm.trans hcontext)
  obtain rfl : c' = c := Except.ok.inj (hc'.symm.trans hcontext)
  have hstep : ∀ intent ∈ intents, ∀ s t r s' r' t', s = t →
      replayOneIn .context bars none c' s intent = .ok (r, s') →
      replayOneIn .context bars (some model) c' t intent = .ok (r', t') →
      s' = t' ∧ eraseCostModel r = eraseCostModel r' := by
    rintro intent hintent s _ r s' r' t' rfl hone hone'
    obtain ⟨hbalances, herase⟩ :=
      replayOneIn_zeroCost hzero contextRounded_one (hvolume intent hintent) hone hone'
    exact ⟨hbalances.symm, herase.symm⟩
  obtain ⟨hbalances, hresults⟩ := runSteps_lockstep hstep rfl hrun hrun'
  obtain rfl : b = b' := hbalances
  refine ⟨(map_eq_of_forall₂ hresults fun _ _ hr => hr).symm, ?_⟩
  exact Except.ok.inj (hfinal'.symm.trans hfinal)

end Replays

/-- A model that charges nothing. -/
def freeModel : ExecutionCostModel where
  takerFeeRate := ⟨0, Decimal.zero_is_fee⟩
  spreadBps := ⟨0, Decimal.zero_le_zero⟩
  slippageBps := ⟨0, Decimal.zero_le_zero⟩
  latencyBars := 0
  maxParticipationRate := ⟨1, Decimal.one_is_fraction⟩
  allowPartialFills := true
  adverse_below_unit := by decide +kernel

theorem freeModel_zeroCost : ZeroCost freeModel := ⟨rfl, rfl, rfl, rfl, rfl⟩

/-- Two competing purchases with cash for one: both replays agree. -/
theorem replay_zero_cost_agrees_competing :
    ∃ plain costed,
      @replayMarketOrdersIn .context hashlibSha256 (shorterBars ++ furtherBars) competingOrders "RUN"
        none (some (marketSnapshot loosestLimits)) (some (cashState ⟨100, by decide⟩)) = .ok plain ∧
      @replayMarketOrdersIn .context hashlibSha256 (shorterBars ++ furtherBars) competingOrders "RUN"
        (some freeModel) (some (marketSnapshot loosestLimits)) (some (cashState ⟨100, by decide⟩)) =
          .ok costed ∧
      costed.results.map eraseCostModel = plain.results.map eraseCostModel ∧
      costed.finalAccountState = plain.finalAccountState := by
  have hbars : validateBarsAreSafe (shorterBars ++ furtherBars) = .ok () :=
    ok_unit_of_toBool _ (by decide)
  have hintents : validateOrderIntents competingOrders = .ok () :=
    ok_unit_of_toBool _ (by decide)
  have hruns : ∀ costModel ∈ [none, some freeModel], (@replayOrdersIn .context constantDigest
      (shorterBars ++ furtherBars) costModel (some (cashContext ⟨100, by decide⟩))
      (balanceDict (some (cashState ⟨100, by decide⟩))) competingOrders).toBool = true := by
    decide +kernel
  have hsucceeds : ∀ costModel ∈ [none, some freeModel], ∃ report,
      @replayMarketOrdersIn .context hashlibSha256 (shorterBars ++ furtherBars) competingOrders "RUN"
        costModel (some (marketSnapshot loosestLimits)) (some (cashState ⟨100, by decide⟩)) =
          .ok report := by
    intro costModel hmem
    have hneeds := (@exists_replayOrdersIn_iff constantDigest _ _ _ _ _ _).mp
      (exists_ok_of_toBool (hruns costModel hmem))
    obtain ⟨out, hrun⟩ := (@exists_replayOrdersIn_iff hashlibSha256 _ _ _ _ _ _).mpr hneeds
    exact @exists_replayMarketOrdersIn hashlibSha256 _ _ _ _ _ _ _ _ _ hbars hintents rfl hrun
      (by decide)
  obtain ⟨plain, hplain⟩ := hsucceeds none List.mem_cons_self
  obtain ⟨costed, hcosted⟩ := hsucceeds (some freeModel) (List.mem_cons_of_mem _ List.mem_cons_self)
  have hvolume : ∀ intent ∈ competingOrders, RoundedVolumeCovers .context
      (shorterBars ++ furtherBars) (some (cashContext ⟨100, by decide⟩)) intent := by
    intro intent hintent entry hentry
    have hbase : ∀ bar ∈ shorterBars ++ furtherBars,
        (1 : Decimal) ≤ contextRounded bar.baseVolume.val ∧
          contextRounded bar.openPrice.val = bar.openPrice.val := by
      decide +kernel
    have hquantity : ∀ order ∈ competingOrders, order.quantity.val = 1 := by decide
    have hmem := getElem?_of_mem_eligibleBars (List.mem_of_getElem? hentry.bar)
    rw [hquantity intent hintent]
    exact hbase entry.1 (List.mem_of_getElem? hmem)
  exact ⟨plain, costed, hplain, hcosted,
    @replay_zero_cost_agrees hashlibSha256 _ freeModel_zeroCost _ _ _ _ _ _ rfl hvolume _ _
      hplain hcosted⟩

/-! ## A volume of 29 digits -/

theorem zero_lt_wideVolume : (0 : Decimal) < 10000000000000000000000000001 := by norm_num

/-- A volume that rounding lowers by one. -/
def wideVolume : PositiveDecimal := ⟨10000000000000000000000000001, zero_lt_wideVolume⟩

/-- One bar of `BTC-USD` with that volume. -/
def wideBars : List OHLCTVBar :=
  [flatBar "BTC-USD" 1 0 ⟨100, Decimal.zero_le_hundred⟩ ⟨wideVolume.val, zero_lt_wideVolume.le⟩]

/-- A purchase of the whole volume. -/
def widePurchase : OrderIntent := marketOrder "ORDER-1" "BTC-USD" .buy wideVolume 0

/-- Without an account a fill is the result of its draft. -/
theorem result_of_fills [Sha256] {a : Arithmetic} {bars : List OHLCTVBar}
    {costModel : Option ExecutionCostModel} {balances balances' : Balances} {intent : OrderIntent}
    {entry : OHLCTVBar × Nat} {filled : Decimal} {r : ReplayOrderResult}
    (hfills : Fills a bars costModel none intent entry filled)
    (h : replayOneIn a bars costModel none balances intent = .ok (r, balances')) :
    ∃ firstIndex, r = (draftOf costModel intent firstIndex entry filled
      (amountsAt a costModel intent entry.1 filled)).withBuiltId := by
  obtain ⟨attempt, hattempt, hsettle⟩ := (bind_eq_ok_iff _ _ _).mp h
  obtain ⟨first, -, hon⟩ := fillAttemptIn_of_reaches (a := a) hfills.reaches
  rw [hon, attemptOnIn_eq_ok_iff] at hattempt
  cases hattempt with
  | refused _ hrefuse => exact absurd hfills.accepted hrefuse
  | illiquid _ _ _ hdry =>
      rw [hfills.liquid] at hdry
      cases hdry
  | filled _ _ _ hliquid _ =>
      rw [hfills.liquid] at hliquid
      cases hliquid
      obtain ⟨result, hresult, hout⟩ := (bind_eq_ok_iff _ _ _).mp hsettle
      cases hout
      exact ⟨first.2, ((ReplayOrderResult.constructIn_eq_ok_iff _ _).mp hresult).2⟩

/-- The report on one order that is filled without an account. -/
theorem results_of_one_fill [Sha256] {a : Arithmetic} {bars : List OHLCTVBar}
    {costModel : Option ExecutionCostModel} {intent : OrderIntent} {entry : OHLCTVBar × Nat}
    {filled : Decimal} {runId : String} {report : ReplayReport}
    (hfills : Fills a bars costModel none intent entry filled)
    (h : replayMarketOrdersIn a bars [intent] runId costModel none none = .ok report) :
    ∃ firstIndex, report.results = [(draftOf costModel intent firstIndex entry filled
      (amountsAt a costModel intent entry.1 filled)).withBuiltId] := by
  obtain ⟨context, balances, -, -, hcontext, hrun, -⟩ := replayMarketOrdersIn_ok h
  cases hcontext
  obtain ⟨r, next, rest, hone, hrest, hresults⟩ := (runSteps_cons_eq_ok_iff _ _ _ _).mp hrun
  cases hrest
  obtain ⟨firstIndex, rfl⟩ := result_of_fills hfills hone
  exact ⟨firstIndex, hresults⟩

/-- On a bar whose volume is the quantity, the costed replay fills the order up to the rounded volume
and the plain one fills the whole order. -/
theorem zero_cost_disagrees_on_wide_volume :
    ZeroCost freeModel ∧ VolumeCovers wideBars none widePurchase ∧
      ∃ plain costed,
        @replayMarketOrdersIn .context hashlibSha256 wideBars [widePurchase] "RUN" none none none =
          .ok plain ∧
        @replayMarketOrdersIn .context hashlibSha256 wideBars [widePurchase] "RUN" (some freeModel)
          none none = .ok costed ∧
        plain.results.map (fun r => (r.status, r.filledQuantity)) =
          [(.filled, 10000000000000000000000000001)] ∧
        costed.results.map (fun r => (r.status, r.filledQuantity)) =
          [(.partiallyFilled, 10000000000000000000000000000)] ∧
        costed.results.map eraseCostModel ≠ plain.results.map eraseCostModel := by
  have haccept : ConstraintsAccept .context none widePurchase (flatBar "BTC-USD" 1 0
      ⟨100, Decimal.zero_le_hundred⟩ ⟨wideVolume.val, zero_lt_wideVolume.le⟩) := by
    intro c hc
    cases hc
  have hplainFills : Fills .context wideBars none none widePurchase (flatBar "BTC-USD" 1 0
      ⟨100, Decimal.zero_le_hundred⟩ ⟨wideVolume.val, zero_lt_wideVolume.le⟩, 0) wideVolume.val :=
    ⟨⟨rfl, rfl, rfl⟩, haccept, rfl⟩
  have hcostedFills : Fills .context wideBars (some freeModel) none widePurchase
      (flatBar "BTC-USD" 1 0 ⟨100, Decimal.zero_le_hundred⟩
        ⟨wideVolume.val, zero_lt_wideVolume.le⟩, 0) 10000000000000000000000000000 :=
    ⟨⟨rfl, rfl, rfl⟩, haccept, by decide +kernel⟩
  have hsucceeds : ∀ costModel ∈ [none, some freeModel], ∃ report,
      @replayMarketOrdersIn .context hashlibSha256 wideBars [widePurchase] "RUN" costModel none none =
          .ok report := by
    intro costModel hmem
    have hruns : ∀ costModel ∈ [none, some freeModel], (@replayOrdersIn .context constantDigest
        wideBars costModel none (balanceDict none) [widePurchase]).toBool = true := by
      decide +kernel
    have hneeds := (@exists_replayOrdersIn_iff constantDigest _ _ _ _ _ _).mp
      (exists_ok_of_toBool (hruns costModel hmem))
    obtain ⟨out, hrun⟩ := (@exists_replayOrdersIn_iff hashlibSha256 _ _ _ _ _ _).mpr hneeds
    exact @exists_replayMarketOrdersIn hashlibSha256 _ _ _ _ _ _ _ _ _
      (ok_unit_of_toBool _ (by decide)) (ok_unit_of_toBool _ (by decide)) rfl hrun (by decide)
  obtain ⟨plain, hplain⟩ := hsucceeds none List.mem_cons_self
  obtain ⟨costed, hcosted⟩ := hsucceeds (some freeModel) (List.mem_cons_of_mem _ List.mem_cons_self)
  obtain ⟨firstIndex, hresults⟩ := @results_of_one_fill hashlibSha256 _ _ _ _ _ _ _ _ hplainFills
    hplain
  obtain ⟨firstIndex', hresults'⟩ := @results_of_one_fill hashlibSha256 _ _ _ _ _ _ _ _ hcostedFills
    hcosted
  refine ⟨freeModel_zeroCost, ?_, plain, costed, hplain, hcosted, ?_, ?_, ?_⟩
  · intro entry hentry
    rw [hplainFills.reaches.unique hentry]
    exact le_refl wideVolume.val
  · rw [hresults]
    rfl
  · rw [hresults']
    rfl
  · rw [hresults, hresults']
    intro hsame
    have hfilled := congrArg (List.map ReplayOrderResult.filledQuantity) hsame
    have hlower : (10000000000000000000000000000 : Decimal) = wideVolume.val :=
      List.head_eq_of_cons_eq hfilled
    revert hlower
    norm_num [wideVolume]

end TaModel.Simulation
