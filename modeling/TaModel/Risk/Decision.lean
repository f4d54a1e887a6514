import TaModel.Risk.Evaluations
import TaModel.Simulation.Conservation

/-!
# The decision of the risk engine

`evaluatePreTradeRisk` succeeds exactly on the requests that pass their own validators, and its
event carries the evaluations and the decision computed from them. `riskDecision_approval` is the
inversion of an approval: no hard breach, and either the order as it was asked for or the order
cut to the smallest soft cap.
-/

set_option autoImplicit false

namespace TaModel.Risk

open Contracts

section Approval

variable [Sha256] {r : RiskCheckRequest} {p : RiskPolicy}

/-- The order cut to a smaller notional: `o` is the intent of `r` at quantity
`allowed / reference_price`. -/
def IsCutTo (r : RiskCheckRequest) (allowed : Decimal) (o : OrderIntent) : Prop :=
  ∃ hpos : 0 < allowed / r.referencePrice.val,
    o = r.orderIntent.withQuantity ⟨allowed / r.referencePrice.val, hpos⟩

/-- The soft caps of a request, and the smallest of them. -/
structure SoftCapped (r : RiskCheckRequest) (evaluations : List RiskLimitEvaluation)
    (allowed : Decimal) : Prop where
  side_buy : r.orderIntent.side = .buy
  caps : ∃ cap caps, allowedIncrementalNotionals r (softBreaches evaluations) =
    some (cap :: caps) ∧ allowed = caps.foldl min cap
  positive : 0 < allowed
  below : allowed < (proposedNotional r).val

omit [Sha256] in
/-- What `_approval_after_soft_caps` can return. -/
theorem approvalAfterSoftCaps_cases (r : RiskCheckRequest) (effect : OrderEffect)
    (evaluations : List RiskLimitEvaluation) :
    approvalAfterSoftCaps r effect evaluations = (.approved, some r.orderIntent) ∨
    approvalAfterSoftCaps r effect evaluations = (.noTrade, none) ∨
    ∃ allowed o, approvalAfterSoftCaps r effect evaluations = (.approvedAfterCap, some o) ∧
      SoftCapped r evaluations allowed ∧ IsCutTo r allowed o := by
  simp only [approvalAfterSoftCaps]
  split_ifs with hside
  · exact Or.inl rfl
  · rw [not_or, not_ne_iff] at hside
    cases hcaps : allowedIncrementalNotionals r (softBreaches evaluations) with
    | none => exact Or.inr (Or.inl rfl)
    | some list =>
        cases list with
        | nil => exact Or.inl rfl
        | cons cap caps =>
            dsimp only
            split_ifs with hnonpos hfits hpos
            · exact Or.inr (Or.inl rfl)
            · exact Or.inl rfl
            · refine Or.inr (Or.inr ⟨caps.foldl min cap, _, rfl, ?_, hpos, rfl⟩)
              exact ⟨hside.1, ⟨cap, caps, hcaps, rfl⟩, not_le.mp hnonpos, not_le.mp hfits⟩
            · exact Or.inr (Or.inl rfl)

omit [Sha256] in
/-- The capping step reads the order, its reference price and the three exposures. -/
theorem approvalAfterSoftCaps_congr {r r' : RiskCheckRequest}
    (horder : r.orderIntent = r'.orderIntent) (hprice : r.referencePrice = r'.referencePrice)
    (hinstrument :
      r.currentInstrumentExposureNotional = r'.currentInstrumentExposureNotional)
    (hstrategy : r.currentStrategyExposureNotional = r'.currentStrategyExposureNotional)
    (htotal : r.currentTotalSpotExposureNotional = r'.currentTotalSpotExposureNotional)
    (effect : OrderEffect) (evaluations : List RiskLimitEvaluation) :
    approvalAfterSoftCaps r effect evaluations = approvalAfterSoftCaps r' effect evaluations := by
  have hallowed : ∀ e, allowedIncrementalNotional r e = allowedIncrementalNotional r' e := by
    intro e
    simp only [allowedIncrementalNotional, hinstrument, hstrategy, htotal]
  have hall : ∀ breaches, allowedIncrementalNotionals r breaches =
      allowedIncrementalNotionals r' breaches := by
    intro breaches
    induction breaches with
    | nil => rfl
    | cons e breaches ih => simp only [allowedIncrementalNotionals, hallowed, ih]
  simp only [approvalAfterSoftCaps, horder, hprice, hall]

/-- An approval: nothing is a hard breach, and the approved intent is the requested one, or the
requested one cut to the smallest soft cap. -/
theorem riskDecision_approval {d : RiskDecisionStatus} {o : OrderIntent}
    (h : riskDecision r p = (d, some o)) :
    hasHardBreach (limitEvaluations r p) = false ∧
      ((d = .approved ∧ o = r.orderIntent) ∨
        ∃ allowed, d = .approvedAfterCap ∧ SoftCapped r (limitEvaluations r p) allowed ∧
          IsCutTo r allowed o) := by
  simp only [riskDecision] at h
  split_ifs at h with hhard
  · cases h
  · refine ⟨by simpa using hhard, ?_⟩
    rcases approvalAfterSoftCaps_cases r (buildOrderEffect r) (limitEvaluations r p) with
      happroved | hnone | ⟨allowed, o', hcap, hsoft, hcut⟩
    · rw [happroved] at h
      cases h
      exact Or.inl ⟨rfl, rfl⟩
    · rw [hnone] at h
      cases h
    · rw [hcap] at h
      cases h
      exact Or.inr ⟨allowed, rfl, hsoft, hcut⟩

/-- The decision carries an intent exactly when it is an approval. -/
theorem riskDecision_isApproval (r : RiskCheckRequest) (p : RiskPolicy) :
    (riskDecision r p).1.isApproval = (riskDecision r p).2.isSome := by
  simp only [riskDecision]
  split_ifs
  · rfl
  · rcases approvalAfterSoftCaps_cases r (buildOrderEffect r) (limitEvaluations r p) with
      h | h | ⟨allowed, o, h, -, -⟩
    · rw [h]; rfl
    · rw [h]; rfl
    · rw [h]; rfl

end Approval

/-! ## The event -/

section Event

variable [Sha256] (r : RiskCheckRequest) (p : RiskPolicy)

/-- The event before it is sealed. -/
def eventDraft : RiskCheckEvent :=
  { riskCheckId := "RISKCHECK:PLACEHOLDER", riskCheckHash := "", request := r,
    riskPolicyId := p.policyId, riskPolicyHash := p.policyHash,
    orderEffect := buildOrderEffect r, limitEvaluations := limitEvaluations r p,
    activeKillState := r.killSwitchSnapshot.activeState, finalDecision := (riskDecision r p).1,
    reasonCodes := breachedReasonCodes (limitEvaluations r p),
    approvedOrderIntent := (riskDecision r p).2 }

theorem eventDraft_validateFields (hr : r.validate = .ok ()) :
    (eventDraft r p).validateFields = .ok () := by
  have hne : limitEvaluations r p ≠ [] := by simp [limitEvaluations]
  have hvalid : ∀ e ∈ limitEvaluations r p, e.validate = .ok () := by
    intro e he
    obtain ⟨limit, hlimit⟩ := limitEvaluations_isEvaluationOf r p he
    exact hlimit.validate
  have hhard : hasHardBreach (limitEvaluations r p) = true →
      (riskDecision r p).1 = .rejected := by
    intro hbreach
    simp [riskDecision, hbreach]
  have happroval := riskDecision_isApproval r p
  have hsome : (riskDecision r p).1.isApproval = true → (riskDecision r p).2 ≠ none := by
    intro h
    rw [h] at happroval
    exact Option.isSome_iff_ne_none.mp happroval.symm
  have hnone : (riskDecision r p).1.isApproval = false → (riskDecision r p).2 = none := by
    intro h
    rw [h] at happroval
    exact Option.not_isSome_iff_eq_none.mp (by simp [← happroval])
  exact (RiskCheckEvent.validateFields_eq_ok_iff _).mpr
    ⟨hr, hne, hvalid, rfl, rfl, hhard, hsome, hnone⟩

/-- The engine succeeds exactly on the requests that pass their own validators. -/
theorem evaluatePreTradeRisk_eq_ok_iff (event : RiskCheckEvent) :
    evaluatePreTradeRisk r p = .ok event ↔
      r.validate = .ok () ∧ event = RiskCheckEvent.stamping.sealed (eventDraft r p) := by
  have hbuild : evaluatePreTradeRisk r p =
      RiskCheckEvent.stamping.construct (eventDraft r p) := rfl
  rw [hbuild, Library.Stamping.construct_eq_ok_iff]
  constructor
  · rintro ⟨hfields, rfl⟩
    obtain ⟨u, hu, -⟩ := (bind_eq_ok_iff _ _ _).mp hfields
    exact ⟨hu, rfl⟩
  · rintro ⟨hr, rfl⟩
    exact ⟨eventDraft_validateFields r p hr, rfl⟩

/-- Everything an event of the engine says about its request. -/
structure EventFacts (event : RiskCheckEvent) : Prop where
  request_eq : event.request = r
  request_valid : r.validate = .ok ()
  limitEvaluations_eq : event.limitEvaluations = limitEvaluations r p
  orderEffect_eq : event.orderEffect = buildOrderEffect r
  decision_eq : (event.finalDecision, event.approvedOrderIntent) = riskDecision r p
  valid : event.validate = .ok ()

theorem evaluatePreTradeRisk_facts {event : RiskCheckEvent}
    (h : evaluatePreTradeRisk r p = .ok event) : EventFacts r p event := by
  have hvalid : event.validate = .ok () :=
    RiskCheckEvent.stamping.validate_of_construct
      (show RiskCheckEvent.stamping.construct (eventDraft r p) = .ok event from h)
  obtain ⟨hr, rfl⟩ := (evaluatePreTradeRisk_eq_ok_iff r p event).mp h
  exact ⟨rfl, hr, rfl, rfl, rfl, hvalid⟩

theorem evaluatePreTradeRisk_total (hr : r.validate = .ok ()) :
    ∃ event, evaluatePreTradeRisk r p = .ok event :=
  ⟨_, (evaluatePreTradeRisk_eq_ok_iff r p _).mpr ⟨hr, rfl⟩⟩

end Event

/-! ## Requests on the two-instrument market

A paper account with 100000 USD sends market orders at a reference price of 100 USD. -/

section Market

open Simulation

/-- The default policy over 100000 USD. -/
def marketPolicy : RiskPolicy := RiskPolicy.makeDefault ⟨100000, Decimal.zero_lt_hundredThousand⟩

variable [Sha256]

omit [Sha256] in
theorem global_iff_none :
    KillSwitchScopeType.global = .global ↔ (none : Option String) = none := by decide

omit [Sha256] in
theorem none_canonical : ∀ id ∈ (none : Option String), isCanonicalId id = true := by decide

/-- A global kill switch set to `state` at the start of the day. -/
def globalKillRecord (state : KillSwitchState) : KillSwitchRecord :=
  KillSwitchRecord.withBuiltId
    { recordId := "", scope := ⟨.global, none, global_iff_none, none_canonical⟩,
      priorState := .unknownFailClosed, newState := state, actor := "OPS", actorRole := "RISK",
      transitionedAt := minute 0, reason := "START", cancelOpenOrders := false }

def globalKillSnapshot (state : KillSwitchState) : KillSwitchSnapshot :=
  KillSwitchSnapshot.stamping.sealed
    { snapshotId := "", snapshotHash := "", evaluatedAt := minute 0, evaluatedScopes := [],
      activeState := state, activeRecords := [globalKillRecord state], storeAvailable := true,
      reason := "LOADED" }

theorem globalKillSnapshot_valid (state : KillSwitchState) :
    (globalKillSnapshot state).validate = .ok () := by
  have hreason : isNonEmptyString "LOADED" = true := by decide
  have hactor : isNonEmptyString "OPS" = true ∧ isNonEmptyString "RISK" = true ∧
      isNonEmptyString "START" = true := by decide
  have hrequirements : ∀ id ∈ ["FR-011", "NFR-004"], isNonEmptyString id = true := by
    decide
  have hlinked : ∀ id ∈ (none : Option String), isCanonicalId id = true := by
    intro id hid
    cases hid
  have hrecord : (globalKillRecord state).validate = .ok () :=
    (KillSwitchRecord.validate_eq_ok_iff _).mpr
      ⟨⟨hactor.1, hactor.2.1, hactor.2.2, hlinked, hrequirements⟩, rfl⟩
  refine (KillSwitchSnapshot.stamping.validate_sealed _).mpr
    ((KillSwitchSnapshot.validateFields_eq_ok_iff _).mpr ⟨?_, hreason, ?_⟩)
  · intro record hmem
    rw [List.mem_singleton.mp hmem]
    exact hrecord
  · intro _ hnil
    cases hnil

/-- A request to send `order` under the given account limits, kill-switch state and telemetry. -/
def marketRequest (limits : AccountRiskLimits) (state : KillSwitchState) (order : OrderIntent)
    (liquidity : LiquidityRiskTelemetry) (loss : LossRiskTelemetry) : RiskCheckRequest :=
  RiskCheckRequest.stamping.sealed
    { requestId := "", requestHash := "", runId := "RUN", traceId := order.traceId,
      sourceDecisionId := order.sourceDecisionId, decisionTs := minute 0, riskCheckTs := minute 0,
      strategyVersion := "STRATEGY", accountId := "ACCOUNT", orderIntent := order,
      idempotencyKey := "KEY", referencePrice := ⟨100, Decimal.zero_lt_hundred⟩,
      accountEquity := ⟨100000, Decimal.zero_lt_hundredThousand⟩,
      currentCash := ⟨100000, Decimal.zero_le_hundredThousand⟩,
      instrumentMasterSnapshot := marketSnapshot limits,
      killSwitchSnapshot := globalKillSnapshot state, lossRisk := loss,
      liquidityRisk := liquidity }

theorem marketRequest_valid {limits : AccountRiskLimits}
    (hlimits : (marketSnapshot limits).validateReferences = .ok ()) (state : KillSwitchState)
    {order : OrderIntent} (hsubmitted : minute 0 ≤ order.submittedAt)
    (hinstrument : order.instrumentId ∈ ["BTC-USD", "ETH-USD"])
    (liquidity : LiquidityRiskTelemetry) (loss : LossRiskTelemetry) :
    (marketRequest limits state order liquidity loss).validate = .ok () := by
  have hids : isCanonicalId "RUN" = true ∧ isCanonicalId "ACCOUNT" = true := by decide
  have hstrings : isNonEmptyString "STRATEGY" = true ∧ isNonEmptyString "KEY" = true := by
    decide
  have hrecords : ∀ record ∈ ([] : List OrderIdempotencyRecord), record.validate = .ok () := by
    intro record hmem
    cases hmem
  exact (RiskCheckRequest.stamping.validate_sealed _).mpr
    ((RiskCheckRequest.validateFields_eq_ok_iff _).mpr
      ⟨hids, hstrings, hlimits, globalKillSnapshot_valid state, hrecords, le_refl _, rfl, rfl,
        hsubmitted, hinstrument⟩)

/-- A buy of 1 `BTC-USD`. -/
def marketBuy : OrderIntent :=
  marketOrder "ORDER-1" "BTC-USD" .buy ⟨1, Decimal.zero_lt_one⟩ 0

def marketBuyRequest : RiskCheckRequest := marketRequest loosestLimits .clear marketBuy {} {}

theorem marketBuyRequest_valid : marketBuyRequest.validate = .ok () :=
  marketRequest_valid (ok_unit_of_toBool _ (by decide)) .clear (le_refl _) (by decide) {} {}

end Market

theorem marketBuyRequest_decision :
    @riskDecision hashlibSha256 (@marketBuyRequest hashlibSha256) marketPolicy =
      (.approved, some marketBuy) := by
  decide +kernel

/-- The buy is approved as it is. -/
theorem marketBuyRequest_event : ∃ event,
    @evaluatePreTradeRisk hashlibSha256 (@marketBuyRequest hashlibSha256) marketPolicy =
      .ok event ∧
    @RiskCheckEvent.validate hashlibSha256 event = .ok () ∧ event.finalDecision = .approved ∧
    event.approvedOrderIntent = some marketBuy := by
  obtain ⟨event, hevent⟩ :=
    @evaluatePreTradeRisk_total hashlibSha256 _ marketPolicy (@marketBuyRequest_valid hashlibSha256)
  have hfacts := @evaluatePreTradeRisk_facts hashlibSha256 _ _ _ hevent
  have hpair := (@EventFacts.decision_eq hashlibSha256 _ _ _ hfacts).trans marketBuyRequest_decision
  exact ⟨event, hevent, @EventFacts.valid hashlibSha256 _ _ _ hfacts, (Prod.mk.inj hpair).1,
    (Prod.mk.inj hpair).2⟩

end TaModel.Risk
