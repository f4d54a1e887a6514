import TaModel.Simulation.FillBar

/-!
# Replays that abort

With an account the constraint check turns an open price of zero into a rejection. Without one
nothing does: the draft of the fill carries the price zero, the result validator refuses it, and
the whole replay is lost. In exact arithmetic every other accepted input has a report with one
result for each intent.
-/

set_option autoImplicit false

namespace TaModel.Simulation

open TaModel.Contracts TaModel.Library

/-- The adverse price of a zero open is zero. -/
theorem effectiveFillPrice_zero (model : ExecutionCostModel) (side : OrderSide) :
    effectiveFillPrice model side 0 = 0 := by
  cases side with
  | buy => exact zero_mul _
  | sell => exact zero_mul _

/-- A filled result needs a positive price. -/
theorem price_pos_of_validateFields {draft : ReplayOrderResult} (hfill : draft.isFill = true)
    (h : draft.validateFields = .ok ()) : ∃ p ∈ draft.fillPrice, 0 < p := by
  unfold ReplayOrderResult.validateFields at h
  rw [hfill] at h
  obtain ⟨_, -, h⟩ := (bind_eq_ok_iff _ _ _).mp h
  obtain ⟨_, -, h⟩ := (bind_eq_ok_iff _ _ _).mp h
  obtain ⟨_, -, h⟩ := (bind_eq_ok_iff _ _ _).mp h
  obtain ⟨_, -, h⟩ := (bind_eq_ok_iff _ _ _).mp h
  obtain ⟨_, -, h⟩ := (bind_eq_ok_iff _ _ _).mp h
  rw [if_pos rfl] at h
  unfold ReplayOrderResult.validateFill at h
  obtain ⟨_, -, h⟩ := (bind_eq_ok_iff _ _ _).mp h
  obtain ⟨_, hprice, -⟩ := (bind_eq_ok_iff _ _ _).mp h
  exact (require_eq_ok_iff _ _ _).mp hprice

section Drafts

variable [Sha256]

/-- The fill price of a draft. -/
theorem fillPrice_fillDraft (costModel : Option ExecutionCostModel) (intent : OrderIntent)
    (firstIndex : Nat) (entry : OHLCTVBar × Nat) (quantity : Decimal)
    (hzero : entry.1.openPrice.val = 0) :
    (fillDraft costModel intent firstIndex entry quantity).fillPrice = some 0 := by
  cases costModel with
  | none => exact congrArg some hzero
  | some model =>
      show some (effectiveFillPrice model intent.side entry.1.openPrice.val) = some 0
      rw [hzero, effectiveFillPrice_zero]

omit [Sha256] in
/-- A quantity the bar lets through is positive and within the order. -/
theorem liquidQuantity_bounds {costModel : Option ExecutionCostModel} {intent : OrderIntent}
    {bar : OHLCTVBar} {quantity : Decimal}
    (h : liquidQuantity costModel intent bar = some quantity) :
    0 < quantity ∧ quantity ≤ intent.quantity.val := by
  cases costModel with
  | none =>
      cases h
      exact ⟨intent.quantity.property, le_refl _⟩
  | some model =>
      unfold liquidQuantity at h
      dsimp only at h
      split at h
      · cases h
      · rename_i hliquid
        cases h
        have hcap : 0 < bar.baseVolume.val * model.maxParticipationRate.val := by
          by_contra hle
          exact hliquid (Or.inl (not_lt.mp hle))
        exact ⟨lt_min intent.quantity.property hcap, min_le_left _ _⟩

theorem isFill_fillDraft (costModel : Option ExecutionCostModel) (intent : OrderIntent)
    (firstIndex : Nat) (entry : OHLCTVBar × Nat) (quantity : Decimal) :
    (fillDraft costModel intent firstIndex entry quantity).isFill = true := by
  cases costModel with
  | none => rfl
  | some model =>
      unfold ReplayOrderResult.isFill fillDraft costedFill resultOfIntent
      dsimp only
      split <;> rfl

/-- The draft of a liquid quantity passes the result validator exactly when the bar opens above
zero. -/
theorem fillDraft_validates_iff {costModel : Option ExecutionCostModel} {intent : OrderIntent}
    {firstIndex : Nat} {entry : OHLCTVBar × Nat} {quantity : Decimal}
    (hliquid : liquidQuantity costModel intent entry.1 = some quantity) :
    (fillDraft costModel intent firstIndex entry quantity).validateFields = .ok () ↔
      entry.1.openPrice.val ≠ 0 := by
  obtain ⟨hpos, hle⟩ := liquidQuantity_bounds hliquid
  constructor
  · intro hvalid hzero
    obtain ⟨p, hp, hp_pos⟩ := price_pos_of_validateFields
      (isFill_fillDraft costModel intent firstIndex entry quantity) hvalid
    rw [fillPrice_fillDraft costModel intent firstIndex entry quantity hzero] at hp
    cases hp
    exact lt_irrefl 0 hp_pos
  · intro hopen
    have hopen_pos : 0 < entry.1.openPrice.val :=
      lt_of_le_of_ne entry.1.openPrice.property (Ne.symm hopen)
    cases costModel with
    | none =>
        cases hliquid
        have hnotional := mul_pos hopen_pos hpos
        simp [fillDraft, ReplayOrderResult.validateFields, ReplayOrderResult.validateFill,
          bind_eq_ok_iff, ReplayOrderResult.FieldsInBounds, ReplayOrderResult.isFill,
          resultOfIntent, hpos, le_of_lt hpos, hopen_pos, le_of_lt hopen_pos,
          le_of_lt hnotional]
    | some model => exact costedFill_validates model intent entry.1 _ _ hopen_pos hpos hle

end Drafts

/-! ## Orders that fill at an open of zero -/

/-- A market order whose bar opens at zero and has the liquidity to fill it. -/
def FillsAtZeroOpen (bars : List OHLCTVBar) (costModel : Option ExecutionCostModel)
    (intent : OrderIntent) : Prop :=
  intent.orderType = .market ∧ ∃ entry ∈ fillBar bars costModel intent,
    entry.1.openPrice.val = 0 ∧ (liquidQuantity costModel intent entry.1).isSome = true

section Steps

variable [Sha256]

theorem settleAttempt_unfilled_total (context : Option VenueContext) (balances : Balances)
    (intent : OrderIntent) (reason : ReplayRejectReason) (model : Option ExecutionCostModel)
    (eligibleIndex attemptIndex : Option Nat) :
    ∃ out, settleAttempt context balances intent
      (.unfilled reason model eligibleIndex attemptIndex) = .ok out := by
  obtain ⟨result, hresult, -⟩ := unfilledResult_ok intent reason model eligibleIndex attemptIndex
  simp only [settleAttempt, hresult, ok_bind]
  exact ⟨_, rfl⟩

/-- Without an account one order raises exactly when it fills at an open of zero. -/
theorem replayOne_without_account_iff (bars : List OHLCTVBar)
    (costModel : Option ExecutionCostModel) (balances : Balances) (intent : OrderIntent) :
    (∃ out, replayOne bars costModel none balances intent = .ok out) ↔
      ¬ FillsAtZeroOpen bars costModel intent := by
  unfold replayOne
  by_cases hmarket : intent.orderType = .market
  · cases hbar : fillBar bars costModel intent with
    | none =>
        rw [@fillAttempt_of_no_bar _ bars costModel none intent rfl hmarket hbar]
        refine iff_of_true (settleAttempt_unfilled_total _ _ _ _ _ _ _) ?_
        rintro ⟨-, entry, hentry, -⟩
        rw [hbar] at hentry
        cases hentry
    | some entry =>
        obtain ⟨first, -, hattempt⟩ :=
          @fillAttempt_of_bar _ bars costModel none intent entry rfl hmarket hbar
        rw [hattempt]
        unfold attemptOn
        have hconstraint : constraintReasonAt none intent entry.1 = none := rfl
        rw [hconstraint]
        dsimp only
        cases hliquid : liquidQuantity costModel intent entry.1 with
        | none =>
            refine iff_of_true (settleAttempt_unfilled_total _ _ _ _ _ _ _) ?_
            rintro ⟨-, entry', hentry', -, hsome⟩
            rw [hbar] at hentry'
            cases hentry'
            rw [hliquid] at hsome
            cases hsome
        | some quantity =>
            -- the only attempt that can raise: the draft goes to the result validator
            have hraises : (∃ out, settleAttempt none balances intent
                (.fill (fillDraft costModel intent first.2 entry quantity)) = .ok out) ↔
                (fillDraft costModel intent first.2 entry quantity).validateFields = .ok () := by
              constructor
              · rintro ⟨out, hout⟩
                obtain ⟨result, hresult, -⟩ := (bind_eq_ok_iff _ _ _).mp hout
                exact ((ReplayOrderResult.construct_eq_ok_iff _ _).mp hresult).1
              · intro hvalid
                have hconstruct :=
                  (ReplayOrderResult.construct_eq_ok_iff _ _).mpr ⟨hvalid, rfl⟩
                simp only [settleAttempt, hconstruct, ok_bind]
                exact ⟨_, rfl⟩
            rw [hraises, fillDraft_validates_iff hliquid]
            constructor
            · rintro hopen ⟨-, entry', hentry', hzero, -⟩
              rw [hbar] at hentry'
              cases hentry'
              exact hopen hzero
            · intro hnot hzero
              exact hnot ⟨hmarket, entry, hbar, hzero, by rw [hliquid]; rfl⟩
  · refine iff_of_true ?_ (fun hzero => hmarket hzero.1)
    have hattempt : fillAttempt bars costModel none intent =
        .unfilled .unsupportedOrderType none none none := if_pos hmarket
    rw [hattempt]
    exact settleAttempt_unfilled_total _ _ _ _ _ _ _

end Steps

/-! ## Totality -/

/-- The result is a fill, or it says why there is none. -/
def Accounted (r : ReplayOrderResult) : Prop := r.isFill = true ∨ r.reason ≠ none

theorem accounted_of_validateFields {r : ReplayOrderResult} (h : r.validateFields = .ok ()) :
    Accounted r := by
  cases hfill : r.isFill with
  | true => exact Or.inl hfill
  | false =>
      unfold ReplayOrderResult.validateFields at h
      rw [hfill] at h
      obtain ⟨_, -, h⟩ := (bind_eq_ok_iff _ _ _).mp h
      obtain ⟨_, -, h⟩ := (bind_eq_ok_iff _ _ _).mp h
      obtain ⟨_, -, h⟩ := (bind_eq_ok_iff _ _ _).mp h
      obtain ⟨_, -, h⟩ := (bind_eq_ok_iff _ _ _).mp h
      obtain ⟨_, -, h⟩ := (bind_eq_ok_iff _ _ _).mp h
      have hnone : r.validateNoFill = .ok () := h
      obtain ⟨_, hreason, -⟩ := (bind_eq_ok_iff _ _ _).mp hnone
      exact Or.inr ((require_eq_ok_iff _ _ _).mp hreason)

section Totality

variable [Sha256] {bars : List OHLCTVBar} {costModel : Option ExecutionCostModel}
  {intents : List OrderIntent}

/-- Every report has one accounted result for each intent, in intent order. -/
theorem results_of_report {runId : String} {snapshot : Option InstrumentMasterSnapshot}
    {state : Option SimulatedAccountState} {report : ReplayReport}
    (h : replayOhlctvMarketOrders bars intents runId costModel snapshot state = .ok report) :
    List.Forall₂ (fun intent r => RepeatsIntent intent r ∧ Accounted r) intents
      report.results := by
  obtain ⟨context, balances, -, -, -, hrun, -⟩ := replayOhlctvMarketOrders_ok h
  refine (replayOrders_isReplayOf hrun).imp ?_
  rintro intent r ⟨b, b', hone⟩
  exact ⟨replayOne_repeats hone, accounted_of_validateFields (replayOne_validateFields hone)⟩

/-- A replay without an account succeeds exactly when its input is accepted and no order fills at
an open of zero. -/
theorem replay_without_account_succeeds_iff (runId : String) :
    (∃ report, replayOhlctvMarketOrders bars intents runId costModel none none = .ok report) ↔
      validateBarsAreSafe bars = .ok () ∧ validateOrderIntents intents = .ok () ∧
        isCanonicalId runId = true ∧
        ∀ intent ∈ intents, ¬ FillsAtZeroOpen bars costModel intent := by
  have hsteps : (∃ out, replayOrders bars costModel none (balanceDict none) intents = .ok out) ↔
      ∀ intent ∈ intents, ¬ FillsAtZeroOpen bars costModel intent :=
    runSteps_succeeds_iff (replayOne_without_account_iff bars costModel) _ _
  constructor
  · rintro ⟨report, h⟩
    obtain ⟨context, balances, hbars, hintents, hcontext, hrun, -, hrunId, -⟩ :=
      replayOhlctvMarketOrders_ok h
    cases hcontext
    exact ⟨hbars, hintents, hrunId, hsteps.mp ⟨_, hrun⟩⟩
  · rintro ⟨hbars, hintents, hrunId, hopen⟩
    obtain ⟨⟨results, balances⟩, hrun⟩ := hsteps.mpr hopen
    have hpair : pairContext none none = .ok none := rfl
    have hbuild : buildAccountState none balances = .ok none := rfl
    unfold replayOhlctvMarketOrders
    rw [hbars, ok_bind, hintents, ok_bind, hpair, ok_bind, hrun, ok_bind]
    dsimp only
    rw [hbuild, ok_bind]
    refine ⟨_, (bind_eq_ok_iff _ _ _).mpr ⟨(), ?_, rfl⟩⟩
    unfold ReplayReport.validate
    rw [require_of hrunId, ok_bind, require_of rfl, ok_bind, require_of rfl, ok_bind,
      require_of rfl, ok_bind]
    exact require_of rfl _

end Totality

/-! ## A bar that opens at zero -/

/-- One bar of `BTC-USD` that opens at the price and has volume. -/
def pricedBars (price : NonNegativeDecimal) : List OHLCTVBar :=
  [flatBar "BTC-USD" 1 0 price ⟨10, Decimal.zero_le_ten⟩]

/-- A purchase of one `BTC` before the bar opens. -/
def purchase : OrderIntent :=
  marketOrder "ORDER-1" "BTC-USD" .buy ⟨1, Decimal.zero_lt_one⟩ 0

theorem pricedBars_accepted (price : NonNegativeDecimal) :
    validateBarsAreSafe (pricedBars price) = .ok () := by
  have htimes : (flatBar "BTC-USD" 1 0 price ⟨10, by decide⟩).sourceTs ≤
      (flatBar "BTC-USD" 1 0 price ⟨10, by decide⟩).closeTs := by
    show minute 2 ≤ minute 2
    exact le_refl _
  simp [validateBarsAreSafe, pricedBars, BarGuard.check, bind_eq_ok_iff, htimes]

theorem purchase_accepted : validateOrderIntents [purchase] = .ok () :=
  ok_unit_of_toBool _ (by decide)

end TaModel.Simulation
