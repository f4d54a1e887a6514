import TaModel.Execution.Gateway

/-!
# No bypass of the kill switch or a hard breach

Whatever the gateway is run on, each risk event of the engine has its lifecycle event, and one that
must not reach the market has a blocked one without an order, a fill or a cost. Such events leave no
trace in the replay: the run without them returns the same replay report and the same lifecycle
events for the others.
-/

set_option autoImplicit false

namespace TaModel.Execution

open Contracts Risk Simulation

section Blocking

variable [Sha256] {kind : ExecutionGatewayKind} {inputs : GatewayInputs}
  {events : List RiskCheckEvent} {report : ExecutionGatewayReport}

/-- Every event was produced by the risk engine. -/
def EngineEvents (events : List RiskCheckEvent) : Prop :=
  ∀ event ∈ events, ∃ request policy, evaluatePreTradeRisk request policy = .ok event

/-- A blocked lifecycle event: no order, no fill, no cost. -/
structure IsBlocked (e : ExecutionGatewayLifecycleEvent) : Prop where
  status : e.status = .blocked
  no_order : e.gatewayOrderId = none
  no_result : e.replayOrderResultId = none
  no_fill : e.filledQuantity = 0
  no_cost : e.totalCost = 0 ∧ e.feeCost = 0 ∧ e.spreadCost = 0 ∧ e.slippageCost = 0

/-- The gateway of a kind. -/
def gatewayReplay (kind : ExecutionGatewayKind) (inputs : GatewayInputs)
    (events : List RiskCheckEvent) : Raises ExecutionGatewayReport :=
  match kind with
  | .simulator => runSimulatorGatewayReplay inputs events
  | .paper => runPaperGatewayReplay inputs events

theorem gatewayReplay_eq (kind : ExecutionGatewayKind) (inputs : GatewayInputs)
    (events : List RiskCheckEvent) :
    gatewayReplay kind inputs events = runGateway kind inputs events := by
  cases kind <;> rfl

/-- The events that may reach the market. -/
def unblocked (events : List RiskCheckEvent) : List RiskCheckEvent :=
  events.filter fun event => !mustBlock event

/-- The lifecycle events of the risk events that may reach the market. -/
def unblockedLifecycle (events : List RiskCheckEvent)
    (lifecycle : List ExecutionGatewayLifecycleEvent) : List ExecutionGatewayLifecycleEvent :=
  ((events.zip lifecycle).filter fun pair => !mustBlock pair.1).map Prod.snd

omit [Sha256] in
theorem forall₂_unblocked {R : RiskCheckEvent → ExecutionGatewayLifecycleEvent → Prop}
    {lifecycle : List ExecutionGatewayLifecycleEvent} (h : List.Forall₂ R events lifecycle) :
    List.Forall₂ R (unblocked events) (unblockedLifecycle events lifecycle) := by
  simp only [unblocked, unblockedLifecycle]
  induction h with
  | nil => exact .nil
  | @cons event e events lifecycle hhead _ ih =>
      cases hblock : mustBlock event with
      | true => simpa [hblock] using ih
      | false => simpa [hblock, hhead] using ih

/-! ## Events that must be blocked are not forwarded -/

theorem not_forwarded_of_mustBlock (hengine : EngineEvents events) {event : RiskCheckEvent}
    (hmem : event ∈ events) (hblock : mustBlock event = true) : forwardedIntent event = none := by
  obtain ⟨request, policy, hevent⟩ := hengine event hmem
  simp only [forwardedIntent, approvedOrderIntent_of_mustBlock hevent hblock, ite_self]

theorem intentMatches_of_engine (hengine : EngineEvents events) :
    ∀ event ∈ events, IntentMatchesDecision event := by
  intro event hmem
  obtain ⟨request, policy, hevent⟩ := hengine event hmem
  exact intentMatchesDecision_of_engine hevent

theorem filterMap_unblocked (hengine : EngineEvents events) :
    (unblocked events).filterMap forwardedIntent = events.filterMap forwardedIntent := by
  simp only [unblocked, List.filterMap_filter]
  apply List.filterMap_congr
  intro event hmem
  cases hblock : mustBlock event with
  | true => simp [not_forwarded_of_mustBlock hengine hmem hblock]
  | false => simp

theorem approvedRiskIds_unblocked (hengine : EngineEvents events) :
    approvedRiskIds (unblocked events) = approvedRiskIds events := by
  simp only [approvedRiskIds, unblocked, List.filter_filter]
  congr 1
  apply List.filter_congr
  intro event hmem
  cases hblock : mustBlock event with
  | true => simp [isForwarded, not_forwarded_of_mustBlock hengine hmem hblock]
  | false => simp

/-! ## The run without the blocked events -/

/-- The gated replay of the events that may reach the market makes the same replay. -/
theorem gatedReplay_unblocked (hengine : EngineEvents events) {gated : RiskGatedReplayResult}
    (h : gatedReplay inputs events = .ok gated) :
    ∃ gated', gatedReplay inputs (unblocked events) = .ok gated' ∧
      gated'.replayReport = gated.replayReport := by
  obtain ⟨replayReport, hreplay, hrun, rfl⟩ := (replayRiskApproved_eq_ok_iff gated).mp h
  rw [← filterMap_unblocked hengine] at hreplay
  exact ⟨_, (replayRiskApproved_eq_ok_iff _).mpr ⟨replayReport, hreplay, hrun, rfl⟩, rfl⟩

/-- The lifecycle event of a risk event that must be blocked. -/
theorem isBlocked_of_mustBlock (hengine : EngineEvents events)
    {pairs : List (String × ReplayOrderResult)} {event : RiskCheckEvent}
    {e : ExecutionGatewayLifecycleEvent} (hmem : event ∈ events)
    (he : lifecycleEvent kind inputs.runId pairs event = .ok e) (hblock : mustBlock event = true) :
    IsBlocked e := by
  obtain ⟨request, policy, hevent⟩ := hengine event hmem
  have hnone := approvedOrderIntent_of_mustBlock hevent hblock
  rcases lifecycleEvent_cases he with ⟨-, rfl⟩ | ⟨result, intent, -, hsome, -⟩
  · exact ⟨rfl, rfl, rfl, rfl, rfl, rfl, rfl, rfl⟩
  · rw [hnone] at hsome
    cases hsome

/-! ## Runs over blocked events only -/

/-- The blocked lifecycle event of a risk event that is not approved passes its validators. -/
theorem blockedDraft_validateFields {runId : String} {event : RiskCheckEvent}
    (hrun : isCanonicalId runId = true) (hdecision : event.finalDecision.isApproval = false) :
    (ExecutionGatewayLifecycleEvent.blockedDraft kind kind.fillMode runId event
      (gatewayRequirements kind)).validateFields = .ok () := by
  have hquantity := event.request.orderIntent.quantity.property.le
  refine (ExecutionGatewayLifecycleEvent.validateFields_eq_ok_iff _).mpr
    ⟨?_, hrun, (validateGatewayFillMode_eq_ok_iff _ _).mpr rfl, ?_, ?_, ?_, ?_, ?_⟩
  · simp [ExecutionGatewayLifecycleEvent.FieldsInBounds,
      ExecutionGatewayLifecycleEvent.blockedDraft, hquantity]
  · simp [ExecutionGatewayLifecycleEvent.blockedDraft]
  · simp [ExecutionGatewayLifecycleEvent.blockedDraft]
  · simp [ExecutionGatewayLifecycleEvent.blockedDraft]
  · simp [ExecutionGatewayLifecycleEvent.blockedDraft]
  · simp [ExecutionGatewayLifecycleEvent.validateStatus,
      ExecutionGatewayLifecycleEvent.validateBlocked,
      ExecutionGatewayLifecycleEvent.NoFillAttribution,
      ExecutionGatewayLifecycleEvent.blockedDraft, check_bind_eq_ok_iff, hdecision]

/-- A run over risk events that must all be blocked returns, whatever the market data is. -/
theorem gatewayReplay_of_mustBlock (hengine : EngineEvents events)
    (hrun : isCanonicalId inputs.runId = true) (hblock : ∀ event ∈ events, mustBlock event = true) :
    ∃ report, gatewayReplay kind inputs events = .ok report := by
  have hnone : ∀ event ∈ events, event.approvedOrderIntent = none := by
    intro event hmem
    obtain ⟨request, policy, hevent⟩ := hengine event hmem
    exact approvedOrderIntent_of_mustBlock hevent (hblock event hmem)
  have hmatch := intentMatches_of_engine hengine
  have hforward : events.filterMap forwardedIntent = [] := by
    rw [List.filterMap_eq_nil_iff]
    intro event hmem
    exact not_forwarded_of_mustBlock hengine hmem (hblock event hmem)
  have hids : approvedRiskIds events = [] := (filterMap_forwardedIntent_eq_nil_iff events).mp hforward
  obtain ⟨gated, hgated, hreport⟩ : ∃ gated, gatedReplay inputs events = .ok gated ∧
      gated.replayReport = none := by
    refine ⟨_, (replayRiskApproved_eq_ok_iff _).mpr ⟨none, ?_, hrun, rfl⟩, rfl⟩
    rw [hforward]
    rfl
  have hpairs : replayResultsByRiskId events (gatedResults gated) = .ok [] := by
    simp [replayResultsByRiskId, gatedResults, hreport, hids]
  -- every lifecycle event is the blocked one
  obtain ⟨lifecycle, hlifecycle⟩ : ∃ lifecycle, List.Forall₂
      (fun event e => lifecycleEvent kind inputs.runId [] event = .ok e) events lifecycle := by
    refine ⟨events.map fun event => ExecutionGatewayLifecycleEvent.stamping.sealed
      (ExecutionGatewayLifecycleEvent.blockedDraft kind kind.fillMode inputs.runId event
        (gatewayRequirements kind)), ?_⟩
    rw [List.forall₂_map_right_iff, List.forall₂_same]
    intro event hmem
    have hdecision : event.finalDecision.isApproval = false := by
      rw [hmatch event hmem, hnone event hmem]
      rfl
    simp only [lifecycleEvent, ExecutionGatewayLifecycleEvent.make, check_bind_eq_ok_iff]
    exact ⟨(validateGatewayFillMode_eq_ok_iff _ _).mpr rfl,
      (Library.Stamping.construct_eq_ok_iff _ _ _).mpr
        ⟨blockedDraft_validateFields hrun hdecision, rfl⟩⟩
  rw [gatewayReplay_eq]
  exact ⟨_, runGateway_eq_ok_iff.mpr ⟨gated, [], lifecycle, hgated, hpairs, hlifecycle,
    reportDraft_validateFields hgated hpairs hmatch hlifecycle, rfl⟩⟩

/-- A buy of `BTC-USD` while the kill switch is halted. -/
def haltedRequest : RiskCheckRequest :=
  @marketRequest hashlibSha256 loosestLimits .halted cappedBuy {} {}

omit [Sha256] in
theorem haltedRequest_valid : @RiskCheckRequest.validate hashlibSha256 haltedRequest = .ok () :=
  @marketRequest_valid hashlibSha256 _ (ok_unit_of_toBool _ (by decide)) .halted cappedBuy
    (le_refl _) (by decide) _ _

/-- A gateway run without market data. -/
def haltedInputs : GatewayInputs :=
  { bars := [], runId := "RUN", costModel := none, snapshot := none, startingAccountState := none }

/-! ## The gateway cannot be bypassed -/

/-- A gateway never lets an event of the engine past the kill switch or a hard breach: it reports
one lifecycle event for each risk event, in order, blocked for those that must be blocked, and its
replay, final balances and other lifecycle events are those of the run without them. -/
theorem gateway_never_bypassed (kind : ExecutionGatewayKind) (inputs : GatewayInputs)
    (events : List RiskCheckEvent) (report : ExecutionGatewayReport)
    (hengine : EngineEvents events) (hrun : gatewayReplay kind inputs events = .ok report) :
    List.Forall₂ (fun event e => e.riskCheckId = event.riskCheckId ∧
      e.riskCheckHash = event.riskCheckHash ∧ (mustBlock event = true → IsBlocked e))
      events report.events ∧
    ∃ gated gated' report', gatedReplay inputs events = .ok gated ∧
      gatedReplay inputs (unblocked events) = .ok gated' ∧
      gated'.replayReport = gated.replayReport ∧
      gatewayReplay kind inputs (unblocked events) = .ok report' ∧
      report'.events = unblockedLifecycle events report.events ∧
      report'.sourceReplayReportId = report.sourceReplayReportId ∧
      report'.sourceReplayReportHash = report.sourceReplayReportHash ∧
      report'.sourceReplayFinalAccountState = report.sourceReplayFinalAccountState := by
  rw [gatewayReplay_eq] at hrun
  obtain ⟨gated, pairs, lifecycle, hgated, hpairs, hlifecycle, -, rfl⟩ :=
    runGateway_eq_ok_iff.mp hrun
  obtain ⟨gated', hgated', hreplay⟩ := gatedReplay_unblocked hengine hgated
  have hresults : gatedResults gated' = gatedResults gated := by
    simp only [gatedResults, hreplay]
  have hpairs' : replayResultsByRiskId (unblocked events) (gatedResults gated') = .ok pairs := by
    simp only [replayResultsByRiskId, approvedRiskIds_unblocked hengine, hresults]
    exact hpairs
  have hlifecycle' := forall₂_unblocked hlifecycle
  have hmatch' : ∀ event ∈ unblocked events, IntentMatchesDecision event := by
    intro event hmem
    exact intentMatches_of_engine hengine event (List.mem_of_mem_filter hmem)
  constructor
  · have hmem : List.Forall₂ (fun event e => event ∈ events ∧
        lifecycleEvent kind inputs.runId pairs event = .ok e) events lifecycle :=
      (List.forall₂_and_left _ _).mpr ⟨fun event hevent => hevent, hlifecycle⟩
    refine hmem.imp ?_
    rintro event e ⟨hevent, he⟩
    have hnames := lifecycleEvent_names he
    exact ⟨hnames.riskCheckId, hnames.riskCheckHash, isBlocked_of_mustBlock hengine hevent he⟩
  · refine ⟨gated, gated', ExecutionGatewayReport.stamping.sealed
      (reportDraft kind inputs gated' (unblockedLifecycle events lifecycle)),
      hgated, hgated', hreplay, ?_, rfl, ?_, ?_, ?_⟩
    · rw [gatewayReplay_eq]
      exact runGateway_eq_ok_iff.mpr ⟨gated', pairs, _, hgated', hpairs', hlifecycle',
        reportDraft_validateFields hgated' hpairs' hmatch' hlifecycle', rfl⟩
    · exact congrArg (Option.map ReplayReport.replayReportId) hreplay
    · exact congrArg (Option.map ReplayReport.replayReportHash) hreplay
    · exact congrArg (fun r => Option.bind r ReplayReport.finalAccountState) hreplay

omit [Sha256] in
/-- One halted buy: the run returns, and its only lifecycle event is a blocked one. -/
theorem gateway_never_bypassed_halted : ∃ event report,
    @evaluatePreTradeRisk hashlibSha256 haltedRequest marketPolicy = .ok event ∧
    @gatewayReplay hashlibSha256 .paper haltedInputs [event] = .ok report ∧
    List.Forall₂ (fun event e => e.riskCheckId = event.riskCheckId ∧
      e.riskCheckHash = event.riskCheckHash ∧ (mustBlock event = true → IsBlocked e))
      [event] report.events := by
  obtain ⟨event, hevent⟩ := @evaluatePreTradeRisk_total hashlibSha256 _ marketPolicy
    haltedRequest_valid
  obtain ⟨hrequest, -⟩ := @evaluatePreTradeRisk_facts hashlibSha256 _ _ _ hevent
  have hengine : @EngineEvents hashlibSha256 [event] := by
    intro event' hmem
    rw [List.mem_singleton.mp hmem]
    exact ⟨_, _, hevent⟩
  have hblock : ∀ event' ∈ [event], mustBlock event' = true := by
    intro event' hmem
    rw [List.mem_singleton.mp hmem, mustBlock, hrequest]
    rfl
  obtain ⟨report, hreport⟩ := @gatewayReplay_of_mustBlock hashlibSha256 .paper haltedInputs _
    hengine (by decide) hblock
  exact ⟨event, report, hevent, hreport,
    (@gateway_never_bypassed hashlibSha256 _ _ _ _ hengine hreport).1⟩

end Blocking

end TaModel.Execution
