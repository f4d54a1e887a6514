import TaModel.Contracts.Execution
import TaModel.Risk.SoftCap
import TaModel.Simulation.Replay

/-!
# The risk-gated seam of the replay

`replay_risk_approved_market_orders` of `risk/replay.py` forwards the approved intents of a list of
risk events to the replay and drops the rest. `mustBlock` says which events the kill switch or a
hard breach keeps from the market; an event of the engine with this property is never forwarded.
-/

set_option autoImplicit false

namespace TaModel.Risk

open Contracts Simulation

/-! ## The seam -/

/-- The intent of an event that passes the seam. -/
def forwardedIntent (event : RiskCheckEvent) : Option OrderIntent :=
  if event.finalDecision.isApproval then event.approvedOrderIntent else none

/-- The approval filter of the seam. -/
def isForwarded (event : RiskCheckEvent) : Bool := (forwardedIntent event).isSome

/-- The ids of the forwarded events. -/
def approvedRiskIds (events : List RiskCheckEvent) : List String :=
  (events.filter isForwarded).map RiskCheckEvent.riskCheckId

/-- The ids of the other events. -/
def blockedRiskIds (events : List RiskCheckEvent) : List String :=
  (events.filter fun event => !isForwarded event).map RiskCheckEvent.riskCheckId

section Seam

variable [Sha256]

/-- The replay of the forwarded intents, if there are any. -/
def replayForwarded (bars : List OHLCTVBar) (runId : String)
    (costModel : Option ExecutionCostModel) (snapshot : Option InstrumentMasterSnapshot)
    (startingAccountState : Option SimulatedAccountState) (intents : List OrderIntent) :
    Raises (Option ReplayReport) :=
  match intents with
  | [] => .ok none
  | intents =>
      (replayOhlctvMarketOrders bars intents runId costModel snapshot startingAccountState).map
        some

/-- `replay_risk_approved_market_orders`. -/
def replayRiskApprovedMarketOrders (bars : List OHLCTVBar) (events : List RiskCheckEvent)
    (runId : String) (costModel : Option ExecutionCostModel)
    (snapshot : Option InstrumentMasterSnapshot)
    (startingAccountState : Option SimulatedAccountState) : Raises RiskGatedReplayResult := do
  let replayReport ← replayForwarded bars runId costModel snapshot startingAccountState
    (events.filterMap forwardedIntent)
  RiskGatedReplayResult.construct
    { resultId := "RISKGATEDREPLAY:PLACEHOLDER", resultHash := "", runId := runId,
      riskCheckIds := events.map RiskCheckEvent.riskCheckId,
      approvedRiskCheckIds := approvedRiskIds events,
      blockedRiskCheckIds := blockedRiskIds events, replayReport := replayReport }

end Seam

theorem isForwarded_iff (event : RiskCheckEvent) :
    isForwarded event = true ↔
      event.finalDecision.isApproval = true ∧ event.approvedOrderIntent.isSome = true := by
  simp only [isForwarded, forwardedIntent]
  split_ifs with h
  · simp [h]
  · simp [h]

/-- Forwarded and blocked ids partition the ids of the events. -/
theorem isPartitionOf_riskIds (events : List RiskCheckEvent) :
    isPartitionOf (approvedRiskIds events ++ blockedRiskIds events)
      (events.map RiskCheckEvent.riskCheckId) := by
  have hperm : (events.filter isForwarded ++ events.filter fun event => !isForwarded event).Perm
      events := List.filter_append_perm isForwarded events
  have hids := hperm.map RiskCheckEvent.riskCheckId
  rw [List.map_append] at hids
  exact ⟨hids.length_eq, fun id hid => hids.mem_iff.mp hid, fun id hid => hids.mem_iff.mpr hid⟩

theorem filterMap_forwardedIntent_eq_nil_iff (events : List RiskCheckEvent) :
    events.filterMap forwardedIntent = [] ↔ approvedRiskIds events = [] := by
  simp only [approvedRiskIds, List.map_eq_nil_iff, List.filterMap_eq_nil_iff,
    List.filter_eq_nil_iff, isForwarded, Bool.not_eq_true, Option.isSome_eq_false_iff,
    Option.isNone_iff_eq_none]

section SeamFacts

variable [Sha256] {bars : List OHLCTVBar} {events : List RiskCheckEvent} {runId : String}
  {costModel : Option ExecutionCostModel} {snapshot : Option InstrumentMasterSnapshot}
  {startingAccountState : Option SimulatedAccountState}

/-- The seam replays nothing without an approved intent, and all of them otherwise. -/
theorem replayForwarded_cases {intents : List OrderIntent} {report : Option ReplayReport}
    (h : replayForwarded bars runId costModel snapshot startingAccountState intents =
      .ok report) :
    (intents = [] ∧ report = none) ∨ ∃ replayed, intents ≠ [] ∧ report = some replayed ∧
      replayOhlctvMarketOrders bars intents runId costModel snapshot startingAccountState =
        .ok replayed := by
  cases intents with
  | nil =>
      cases h
      exact Or.inl ⟨rfl, rfl⟩
  | cons intent intents =>
      simp only [replayForwarded] at h
      cases hreplay : replayOhlctvMarketOrders bars (intent :: intents) runId costModel snapshot
          startingAccountState with
      | error error =>
          rw [hreplay] at h
          cases h
      | ok replayed =>
          rw [hreplay] at h
          cases h
          exact Or.inr ⟨replayed, List.cons_ne_nil _ _, rfl, rfl⟩

theorem replayForwarded_eq_none_iff {intents : List OrderIntent} {report : Option ReplayReport}
    (h : replayForwarded bars runId costModel snapshot startingAccountState intents =
      .ok report) : report = none ↔ intents = [] := by
  rcases replayForwarded_cases h with ⟨rfl, rfl⟩ | ⟨replayed, hne, rfl, -⟩
  · simp
  · simp [hne]

/-- What a gated replay returns, and when it does. -/
theorem replayRiskApproved_eq_ok_iff (result : RiskGatedReplayResult) :
    replayRiskApprovedMarketOrders bars events runId costModel snapshot startingAccountState =
        .ok result ↔
      ∃ report, replayForwarded bars runId costModel snapshot startingAccountState
          (events.filterMap forwardedIntent) = .ok report ∧
        isCanonicalId runId = true ∧
        result = RiskGatedReplayResult.stamping.sealed
          { resultId := "RISKGATEDREPLAY:PLACEHOLDER", resultHash := "", runId := runId,
            riskCheckIds := events.map RiskCheckEvent.riskCheckId,
            approvedRiskCheckIds := approvedRiskIds events,
            blockedRiskCheckIds := blockedRiskIds events, replayReport := report } := by
  simp only [replayRiskApprovedMarketOrders, bind_eq_ok_iff]
  constructor
  · rintro ⟨report, hreport, hresult⟩
    obtain ⟨hfields, rfl⟩ := (Library.Stamping.construct_eq_ok_iff _ _ _).mp hresult
    obtain ⟨hrun, -, -, -⟩ := (RiskGatedReplayResult.validateFields_eq_ok_iff _).mp hfields
    exact ⟨report, hreport, hrun, rfl⟩
  · rintro ⟨report, hreport, hrun, rfl⟩
    have hnone := replayForwarded_eq_none_iff hreport
    rw [filterMap_forwardedIntent_eq_nil_iff] at hnone
    refine ⟨report, hreport, (Library.Stamping.construct_eq_ok_iff _ _ _).mpr ⟨?_, rfl⟩⟩
    exact (RiskGatedReplayResult.validateFields_eq_ok_iff _).mpr
      ⟨hrun, isPartitionOf_riskIds events, hnone.mpr, fun hne h => hne (hnone.mp h)⟩

end SeamFacts

/-! ## Events that must not reach the market -/

/-- The kill switch stops the order, or some limit is breached hard. -/
def mustBlock (event : RiskCheckEvent) : Bool :=
  (match event.request.killSwitchSnapshot.activeState with
    | .cancelOnly | .halted | .unknownFailClosed => true
    | .softLimited | .pauseNewOrders | .reduceOnly =>
        decide (event.request.orderIntent.side = .buy)
    | .clear => false) ||
  hasHardBreach event.limitEvaluations

/-- An event carries an intent exactly when its decision is an approval. -/
def IntentMatchesDecision (event : RiskCheckEvent) : Prop :=
  event.finalDecision.isApproval = event.approvedOrderIntent.isSome

section Blocked

variable {r : RiskCheckRequest} {p : RiskPolicy} {event : RiskCheckEvent}

theorem hasHardBreach_of_mem {evaluations : List RiskLimitEvaluation} {e : RiskLimitEvaluation}
    (he : e ∈ evaluations) (hstatus : e.status = .hardBreach) :
    hasHardBreach evaluations = true := by
  simp only [hasHardBreach, List.any_eq_true, decide_eq_true_eq]
  exact ⟨e, he, hstatus⟩

/-- A soft breach without a cap leaves no allowed notional. -/
theorem allowedIncrementalNotionals_eq_none {breaches : List RiskLimitEvaluation}
    {e : RiskLimitEvaluation} (he : e ∈ breaches) (hnone : allowedIncrementalNotional r e = none) :
    allowedIncrementalNotionals r breaches = none := by
  induction breaches with
  | nil => cases he
  | cons first rest ih =>
      simp only [allowedIncrementalNotionals]
      rcases List.mem_cons.mp he with rfl | he
      · rw [hnone]
      · rw [ih he]
        split
        · rename_i heq
          cases heq
        · rfl

/-- The kill switch breaches hard outside of the clear and the soft-limited state, except for
orders that do not increase risk. -/
theorem killSwitch_hard_breach
    (hstate : r.killSwitchSnapshot.activeState ≠ .clear ∧
      r.killSwitchSnapshot.activeState ≠ .softLimited)
    (hside : r.killSwitchSnapshot.activeState = .pauseNewOrders ∨
      r.killSwitchSnapshot.activeState = .reduceOnly → r.orderIntent.side = .buy) :
    (killSwitchEvaluation r (buildOrderEffect r)).status = .hardBreach := by
  simp only [killSwitchEvaluation]
  cases hs : r.killSwitchSnapshot.activeState with
  | unknownFailClosed => rfl
  | clear => exact absurd hs hstate.1
  | softLimited => exact absurd hs hstate.2
  | pauseNewOrders =>
      have hbuy := buildOrderEffect_buy (hside (Or.inl hs))
      simp [hbuy.riskIncreasing]
  | reduceOnly =>
      have hbuy := buildOrderEffect_buy (hside (Or.inr hs))
      simp [hbuy.riskIncreasing]
  | cancelOnly => rfl
  | halted => rfl

variable [Sha256]

theorem riskDecision_of_hard_breach (h : hasHardBreach (limitEvaluations r p) = true) :
    riskDecision r p = (.rejected, none) := by
  simp [riskDecision, h]

theorem killSwitch_mem_limitEvaluations :
    killSwitchEvaluation r (buildOrderEffect r) ∈ limitEvaluations r p := by
  simp [limitEvaluations]

/-- A buy under a soft-limited kill switch is not approved: the breach has no cap. -/
theorem riskDecision_of_softLimited (hbuy : r.orderIntent.side = .buy)
    (hstate : r.killSwitchSnapshot.activeState = .softLimited) :
    (riskDecision r p).2 = none := by
  simp only [riskDecision]
  split_ifs with hhard
  · rfl
  · have hsoft : (killSwitchEvaluation r (buildOrderEffect r)).status = .softBreach := by
      simp [killSwitchEvaluation, hstate]
    have hcap : (killSwitchEvaluation r (buildOrderEffect r)).cappedValue = none := by
      simp [killSwitchEvaluation, hstate]
    have hmem : killSwitchEvaluation r (buildOrderEffect r) ∈
        softBreaches (limitEvaluations r p) :=
      List.mem_filter.mpr ⟨killSwitch_mem_limitEvaluations, decide_eq_true hsoft⟩
    have hnone : allowedIncrementalNotional r (killSwitchEvaluation r (buildOrderEffect r)) =
        none := by
      simp [allowedIncrementalNotional, hsoft, hcap]
    have heffect := buildOrderEffect_buy hbuy
    simp [approvalAfterSoftCaps, hbuy, heffect.riskIncreasing,
      allowedIncrementalNotionals_eq_none hmem hnone]

/-- An event of the engine that must be blocked carries no approved intent. -/
theorem approvedOrderIntent_of_mustBlock (hevent : evaluatePreTradeRisk r p = .ok event)
    (hblock : mustBlock event = true) : event.approvedOrderIntent = none := by
  have hfacts := evaluatePreTradeRisk_facts r p hevent
  have hintent : event.approvedOrderIntent = (riskDecision r p).2 :=
    congrArg Prod.snd hfacts.decision_eq
  rw [hintent]
  by_cases hhard : hasHardBreach (limitEvaluations r p) = true
  · rw [riskDecision_of_hard_breach hhard]
  · simp only [mustBlock, hfacts.request_eq, hfacts.limitEvaluations_eq, hhard, Bool.or_false]
      at hblock
    have hsoft : r.killSwitchSnapshot.activeState = .softLimited := by
      by_contra hne
      refine hhard (hasHardBreach_of_mem killSwitch_mem_limitEvaluations
        (killSwitch_hard_breach ⟨?_, hne⟩ ?_))
      · intro hclear
        simp [hclear] at hblock
      · rintro (hpause | hreduce)
        · simpa [hpause] using hblock
        · simpa [hreduce] using hblock
    simp only [hsoft, decide_eq_true_eq] at hblock
    exact riskDecision_of_softLimited hblock hsoft

/-- The events of the engine carry an intent exactly when they approve. -/
theorem intentMatchesDecision_of_engine (hevent : evaluatePreTradeRisk r p = .ok event) :
    IntentMatchesDecision event := by
  have hfacts := evaluatePreTradeRisk_facts r p hevent
  have hdecision : event.finalDecision = (riskDecision r p).1 :=
    congrArg Prod.fst hfacts.decision_eq
  have hintent : event.approvedOrderIntent = (riskDecision r p).2 :=
    congrArg Prod.snd hfacts.decision_eq
  simp only [IntentMatchesDecision, hdecision, hintent]
  exact riskDecision_isApproval r p

end Blocked

end TaModel.Risk
