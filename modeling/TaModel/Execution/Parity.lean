import TaModel.Execution.Association

/-!
# Parity of the two gateways

Simulator and paper gateway differ in what they write into an event, not in what they check:
`eventWithoutKind` and `reportWithoutKind` erase these fields and what is derived from them, and the
two runs on the same inputs agree on the rest.
-/

set_option autoImplicit false

namespace TaModel.Execution

open Contracts Risk Simulation

/-! ## Parity -/

section Parity

/-- An event without its gateway kind, fill mode and requirements, and without the ids and the hash
derived from them. -/
def eventWithoutKind (e : ExecutionGatewayLifecycleEvent) : ExecutionGatewayLifecycleEvent :=
  { e with
    gatewayEventId := "", gatewayEventHash := "", gatewayOrderId := e.gatewayOrderId.map fun _ => "",
    gatewayKind := .simulator, fillMode := .eventTimeReplay, requirementIds := [] }

/-- A report without its gateway kind, fill mode and requirements, and without the ids and hashes
derived from them. -/
def reportWithoutKind (report : ExecutionGatewayReport) : ExecutionGatewayReport :=
  { report with
    gatewayReportId := "", gatewayReportHash := "", gatewayKind := .simulator,
    fillMode := .eventTimeReplay, gatewayEventIds := report.gatewayEventIds.map fun _ => "",
    events := report.events.map eventWithoutKind, requirementIds := [] }

variable [Sha256] {inputs : GatewayInputs} {events : List RiskCheckEvent}
  {kind : ExecutionGatewayKind} {runId : String} {pairs : List (String × ReplayOrderResult)}
  {event : RiskCheckEvent} {e : ExecutionGatewayLifecycleEvent}

/-- The checks on a blocked draft do not depend on the gateway. -/
theorem blockedDraft_validateFields_kind (other : ExecutionGatewayKind)
    (h : (ExecutionGatewayLifecycleEvent.blockedDraft kind kind.fillMode runId event
      (gatewayRequirements kind)).validateFields = .ok ()) :
    (ExecutionGatewayLifecycleEvent.blockedDraft other other.fillMode runId event
      (gatewayRequirements other)).validateFields = .ok () := by
  obtain ⟨hbounds, hrun, -, hmodel, htotal, hcosts, hremaining, hstatus⟩ :=
    (ExecutionGatewayLifecycleEvent.validateFields_eq_ok_iff _).mp h
  exact (ExecutionGatewayLifecycleEvent.validateFields_eq_ok_iff _).mpr
    ⟨hbounds, hrun, (validateGatewayFillMode_eq_ok_iff _ _).mpr rfl, hmodel, htotal, hcosts,
      hremaining, hstatus⟩

/-- The checks on the draft of a replayed event do not depend on the gateway either: its order id
is rebuilt from the same parts. -/
theorem replayDraft_validateFields_kind (other : ExecutionGatewayKind) {intent : OrderIntent}
    {result : ReplayOrderResult}
    (h : (ExecutionGatewayLifecycleEvent.replayDraft kind kind.fillMode runId event intent result
      (gatewayRequirements kind)).validateFields = .ok ()) :
    (ExecutionGatewayLifecycleEvent.replayDraft other other.fillMode runId event intent result
      (gatewayRequirements other)).validateFields = .ok () := by
  obtain ⟨hbounds, hrun, -, hmodel, htotal, hcosts, hremaining, hstatus⟩ :=
    (ExecutionGatewayLifecycleEvent.validateFields_eq_ok_iff _).mp h
  refine (ExecutionGatewayLifecycleEvent.validateFields_eq_ok_iff _).mpr
    ⟨hbounds, hrun, (validateGatewayFillMode_eq_ok_iff _ _).mpr rfl, hmodel, htotal, hcosts,
      hremaining, ?_⟩
  have hnot : ∀ k : ExecutionGatewayKind,
      (ExecutionGatewayLifecycleEvent.replayDraft k k.fillMode runId event intent result
        (gatewayRequirements k)).status ≠ .blocked :=
    fun _ => ExecutionGatewayOrderStatus.ofReplay_ne_blocked result.status
  simp only [ExecutionGatewayLifecycleEvent.validateStatus, if_neg (hnot _), check_bind_eq_ok_iff,
    require_eq_ok_iff, ExecutionGatewayLifecycleEvent.validateReplayBacked] at hstatus ⊢
  obtain ⟨happroval, -, -, hevidence, hreplay, hfill⟩ := hstatus
  exact ⟨happroval, by simp [ExecutionGatewayLifecycleEvent.replayDraft], rfl, hevidence, hreplay,
    hfill⟩

/-- The other gateway builds the same lifecycle event, up to its kind. -/
theorem lifecycleEvent_kind (other : ExecutionGatewayKind)
    (h : lifecycleEvent kind runId pairs event = .ok e) :
    ∃ e', lifecycleEvent other runId pairs event = .ok e' ∧
      eventWithoutKind e' = eventWithoutKind e := by
  have hmode : ∀ k : ExecutionGatewayKind, validateGatewayFillMode k k.fillMode = .ok () :=
    fun k => (validateGatewayFillMode_eq_ok_iff _ _).mpr rfl
  simp only [lifecycleEvent, ExecutionGatewayLifecycleEvent.make, hmode, ok_bind] at h ⊢
  cases hresult : resultOf pairs event.riskCheckId with
  | none =>
      rw [hresult] at h
      obtain ⟨hfields, rfl⟩ := (Library.Stamping.construct_eq_ok_iff _ _ _).mp h
      exact ⟨_, (Library.Stamping.construct_eq_ok_iff _ _ _).mpr
        ⟨blockedDraft_validateFields_kind other hfields, rfl⟩, rfl⟩
  | some result =>
      rw [hresult] at h
      cases hintent : event.approvedOrderIntent with
      | none =>
          rw [hintent] at h
          cases h
      | some intent =>
          rw [hintent] at h
          obtain ⟨hfields, rfl⟩ := (Library.Stamping.construct_eq_ok_iff _ _ _).mp h
          exact ⟨_, (Library.Stamping.construct_eq_ok_iff _ _ _).mpr
            ⟨replayDraft_validateFields_kind other hfields, rfl⟩, rfl⟩

/-- The lifecycle events of the other gateway, one for each risk event. -/
theorem lifecycle_kind (other : ExecutionGatewayKind)
    {lifecycle : List ExecutionGatewayLifecycleEvent}
    (h : List.Forall₂ (fun event e => lifecycleEvent kind runId pairs event = .ok e)
      events lifecycle) :
    ∃ lifecycle', List.Forall₂ (fun event e => lifecycleEvent other runId pairs event = .ok e)
        events lifecycle' ∧
      lifecycle'.map eventWithoutKind = lifecycle.map eventWithoutKind := by
  induction h with
  | nil => exact ⟨[], .nil, rfl⟩
  | @cons event e events lifecycle hhead _ ih =>
      obtain ⟨e', he', hsame⟩ := lifecycleEvent_kind other hhead
      obtain ⟨lifecycle', hrest, hmap⟩ := ih
      refine ⟨e' :: lifecycle', .cons he' hrest, ?_⟩
      rw [List.map_cons, List.map_cons, hsame, hmap]

/-- Two drafts of reports over events that agree up to their kind agree up to their kind. -/
theorem reportDraft_withoutKind (other : ExecutionGatewayKind) (gated : RiskGatedReplayResult)
    {lifecycle lifecycle' : List ExecutionGatewayLifecycleEvent}
    (h : lifecycle'.map eventWithoutKind = lifecycle.map eventWithoutKind) :
    reportWithoutKind (ExecutionGatewayReport.stamping.sealed
        (reportDraft other inputs gated lifecycle')) =
      reportWithoutKind (ExecutionGatewayReport.stamping.sealed
        (reportDraft kind inputs gated lifecycle)) := by
  have hlength : lifecycle'.length = lifecycle.length := by
    have := congrArg List.length h
    simpa using this
  have hids : (lifecycle'.map ExecutionGatewayLifecycleEvent.gatewayEventId).map (fun _ => "") =
      (lifecycle.map ExecutionGatewayLifecycleEvent.gatewayEventId).map fun _ => "" := by
    simp only [List.map_map, Function.comp_def, List.map_const', hlength]
  simp only [reportWithoutKind, Library.Stamping.sealed, ExecutionGatewayReport.stamping,
    reportDraft, ExecutionGatewayReport.draft, hids, h]

/-- Whenever one gateway returns, the other one returns the same report up to its kind. -/
theorem runGateway_kind (other : ExecutionGatewayKind)
    (hvalid : ∀ event ∈ events, event.validate = .ok ()) {report : ExecutionGatewayReport}
    (h : runGateway kind inputs events = .ok report) :
    ∃ report', runGateway other inputs events = .ok report' ∧
      reportWithoutKind report' = reportWithoutKind report := by
  obtain ⟨gated, pairs, lifecycle, hgated, hpairs, hlifecycle, -, rfl⟩ := runGateway_eq_ok_iff.mp h
  obtain ⟨lifecycle', hlifecycle', hsame⟩ := lifecycle_kind other hlifecycle
  have hmatch : ∀ event ∈ events, IntentMatchesDecision event :=
    fun event hmem => intentMatchesDecision_of_valid (hvalid event hmem)
  refine ⟨_, runGateway_eq_ok_iff.mpr ⟨gated, pairs, lifecycle', hgated, hpairs, hlifecycle',
    reportDraft_validateFields hgated hpairs hmatch hlifecycle', rfl⟩, ?_⟩
  exact reportDraft_withoutKind other gated hsame

/-- Association and parity: a gateway has one lifecycle event for each risk event and hands every
replay result to the event whose approved intent it was computed from, none lost or used twice; and
simulator and paper gateway return for the same inputs, with reports that differ in nothing but the
kind and what is derived from it. -/
theorem gateway_association_and_parity (inputs : GatewayInputs) {events : List RiskCheckEvent}
    (hvalid : ∀ event ∈ events, event.validate = .ok ())
    (hcollision : RiskEvidenceCollisionFree events) :
    (∀ kind report, runGateway kind inputs events = .ok report →
      ∃ results, ReplayedFor inputs events results ∧
        Associated (ReplaysIntent inputs) kind inputs.runId events results report.events ∧
        report.events.map ExecutionGatewayLifecycleEvent.riskCheckId =
          events.map RiskCheckEvent.riskCheckId ∧
        (results.map ReplayOrderResult.clientOrderId).Nodup ∧
        (report.events.filter fun e => e.status ≠ .blocked).map
            ExecutionGatewayLifecycleEvent.replayOrderResultId =
          results.map fun result => some result.replayOrderResultId) ∧
    ((∃ report, runSimulatorGatewayReplay inputs events = .ok report) ↔
      ∃ report, runPaperGatewayReplay inputs events = .ok report) ∧
    ∀ simulated paper, runSimulatorGatewayReplay inputs events = .ok simulated →
      runPaperGatewayReplay inputs events = .ok paper →
      reportWithoutKind simulated = reportWithoutKind paper := by
  refine ⟨?_, ?_, ?_⟩
  · intro kind report h
    obtain ⟨results, hreplayed, hassociated⟩ := runGateway_associated hvalid hcollision h
    exact ⟨results, hreplayed, hassociated, hassociated.riskCheckIds, replayedFor_nodup hreplayed,
      hassociated.resultIds⟩
  · constructor
    · rintro ⟨report, h⟩
      obtain ⟨report', h', -⟩ := runGateway_kind .paper hvalid h
      exact ⟨report', h'⟩
    · rintro ⟨report, h⟩
      obtain ⟨report', h', -⟩ := runGateway_kind .simulator hvalid h
      exact ⟨report', h'⟩
  · intro simulated paper hsimulated hpaper
    obtain ⟨report', h', hsame⟩ := runGateway_kind .paper hvalid hsimulated
    have hreport : report' = paper := Except.ok.inj (h'.symm.trans hpaper)
    rw [← hsame, hreport]

end Parity

/-! ## Collision-free evidence -/

section Evidence

variable [Sha256]

/-- A single event collides with nothing. -/
theorem riskEvidenceCollisionFree_singleton (event : RiskCheckEvent) :
    RiskEvidenceCollisionFree [event] := by
  constructor
  · intro a ha b hb _
    rw [List.mem_singleton.mp ha, List.mem_singleton.mp hb]
  · intro a ha b hb _
    rw [List.mem_singleton.mp ha, List.mem_singleton.mp hb]

/-- Valid events with distinct ids do not collide: an id is computed from the digest, and the digest
from the content. -/
theorem riskEvidenceCollisionFree_of_nodup {events : List RiskCheckEvent}
    (hvalid : ∀ event ∈ events, event.validate = .ok ())
    (hids : (events.map RiskCheckEvent.riskCheckId).Nodup) : RiskEvidenceCollisionFree events := by
  have hstamped : ∀ event ∈ events, event.riskCheckId = RiskCheckEvent.buildId event.buildHash := by
    intro event hmem
    exact ((RiskCheckEvent.stamping.validate_eq_ok_iff event).mp (hvalid event hmem)).2.2
  constructor
  · intro x hx y hy hdigest
    obtain ⟨a, ha, rfl⟩ := List.mem_map.mp hx
    obtain ⟨b, hb, rfl⟩ := List.mem_map.mp hy
    have hhash : a.buildHash = b.buildHash := hdigest
    have hid : a.riskCheckId = b.riskCheckId := by rw [hstamped a ha, hstamped b hb, hhash]
    rw [List.inj_on_of_nodup_map hids ha hb hid]
  · intro a ha b hb hid
    rw [List.inj_on_of_nodup_map hids ha hb hid]

end Evidence

/-! ## A refused order between two approved ones -/

section Mixed

/-- The market of `BTC-USD` alone, without accounts. -/
def bareMarket : InstrumentMasterSnapshot :=
  { marketSnapshot loosestLimits with
    instrumentConstraints := [spotConstraint "BTC"],
    instruments := [spotInstrument "BTC" btc_ne_usd], accounts := [] }

/-- The request to send `marketBuy` in that market, with its digest. -/
def bareRequest : RiskCheckRequest :=
  { @marketBuyRequest hashlibSha256 with
    requestHash := "b1c30aa7caf08958353a3cdec32250bef497ac864169910be94d2e4bd295223d"
    requestId := "RISKREQUEST:FB10EA71D8A07B4DF9148CE7B0A73BD1"
    instrumentMasterSnapshot := bareMarket }

/-- A valid request moved to another market that has its instrument is valid once it stores its own
digest and id. -/
theorem request_validate_of_market {r : RiskCheckRequest} {market : InstrumentMasterSnapshot}
    {digest id : String} (hr : @RiskCheckRequest.validate hashlibSha256 r = .ok ())
    (hmarket : market.validateReferences = .ok ())
    (hinstrument : r.orderIntent.instrumentId ∈ market.instruments.map Instrument.instrumentId)
    (hdigest : digest = @RiskCheckRequest.buildHash hashlibSha256
      { r with requestHash := digest, requestId := id, instrumentMasterSnapshot := market })
    (hid : id = @RiskCheckRequest.buildId hashlibSha256 digest) :
    @RiskCheckRequest.validate hashlibSha256
      { r with requestHash := digest, requestId := id, instrumentMasterSnapshot := market } =
        .ok () := by
  obtain ⟨hfields, -⟩ := ((@RiskCheckRequest.stamping hashlibSha256).validate_eq_ok_iff _).mp hr
  obtain ⟨hids, hstrings, -, hkill, hrecords, htime, htrace, hsource, hsubmitted, -⟩ :=
    (@RiskCheckRequest.validateFields_eq_ok_iff hashlibSha256 _).mp hfields
  exact ((@RiskCheckRequest.stamping hashlibSha256).validate_eq_ok_iff _).mpr
    ⟨(@RiskCheckRequest.validateFields_eq_ok_iff hashlibSha256 _).mpr
      ⟨hids, hstrings, hmarket, hkill, hrecords, htime, htrace, hsource, hsubmitted, hinstrument⟩,
      hdigest, hid.trans (congrArg _ hdigest)⟩

theorem bareRequest_valid : @RiskCheckRequest.validate hashlibSha256 bareRequest = .ok () :=
  request_validate_of_market (@marketBuyRequest_valid hashlibSha256)
    (ok_unit_of_toBool _ (by decide)) (by decide) (by decide +kernel) (by decide +kernel)

/-- A risk event for that request with one limit behind its decision. -/
def bareEvent (id digest : String) (status : RiskLimitStatus) (reasonCode : RiskReasonCode)
    (decision : RiskDecisionStatus) (intent : Option OrderIntent) : RiskCheckEvent :=
  let evaluation : RiskLimitEvaluation :=
    { limitId := "LIMIT", owner := "RISK", status := status, passed := status = .pass,
      currentValue := 1, softThreshold := none, hardThreshold := none, cappedValue := none,
      reasonCode := reasonCode }
  { riskCheckId := id, riskCheckHash := digest, request := bareRequest, riskPolicyId := "POLICY",
    riskPolicyHash := "POLICY", orderEffect := buildOrderEffect bareRequest,
    limitEvaluations := [evaluation], activeKillState := .clear, finalDecision := decision,
    reasonCodes := breachedReasonCodes [evaluation], approvedOrderIntent := intent }

theorem zero_lt_largeQuantity : (0 : Decimal) < 10000000000000000000000000000 := by norm_num

/-- A quantity of 29 digits. -/
def largeQuantity : PositiveDecimal := ⟨10000000000000000000000000000, zero_lt_largeQuantity⟩

/-- The approval of a large order of `ETH-USD`. -/
def awaitedEvent : RiskCheckEvent :=
  bareEvent "RISKCHECK:E4DF11059323E4DB64584A250AE5FF0D"
    "02e61cb7d43df4f95f6bc73c7b1c882c15787cce333ad20492625473932a6c31" .pass .passed .approved
    (some (marketOrder "ORDER-0" "ETH-USD" .buy largeQuantity 0))

/-- The refusal of `marketBuy`. -/
def refusedEvent : RiskCheckEvent :=
  bareEvent "RISKCHECK:59A5DBEBEC95851E00D628097E70A6D8"
    "279e8ee0c31821a38cc1b0e241f44c13fc8c1cbe6fb37018330a5c37c0c90231" .hardBreach .cashReserveHard
    .rejected none

/-- The approval of `marketBuy`. -/
def approvedEvent : RiskCheckEvent :=
  bareEvent "RISKCHECK:A7E93CF198100A80496A5EF821E225C3"
    "3636cfa2ddbf27b916d605c76f0b5618d114b8110e3314e5716bfbc3c885248d" .pass .passed .approved
    (some marketBuy)

/-- An approved order, a refused one and another approved one. -/
def mixedEvents : List RiskCheckEvent := [awaitedEvent, refusedEvent, approvedEvent]

/-- An event of the list is valid once it stores its own digest and id. -/
theorem bareEvent_valid {id digest : String} {status : RiskLimitStatus}
    {reasonCode : RiskReasonCode} {decision : RiskDecisionStatus} {intent : Option OrderIntent}
    (hreason : status = .pass ↔ reasonCode = .passed)
    (hhard : status = .hardBreach → decision = .rejected)
    (hintent : intent.isSome = decision.isApproval)
    (hhash : digest = @RiskCheckEvent.buildHash hashlibSha256
      (bareEvent id digest status reasonCode decision intent))
    (hid : id = @RiskCheckEvent.buildId hashlibSha256 digest) :
    @RiskCheckEvent.validate hashlibSha256
      (bareEvent id digest status reasonCode decision intent) = .ok () := by
  refine ((@RiskCheckEvent.stamping hashlibSha256).validate_eq_ok_iff _).mpr
    ⟨(@RiskCheckEvent.validateFields_eq_ok_iff hashlibSha256 _).mpr
      ⟨bareRequest_valid, by simp [bareEvent], ?_, rfl, rfl, ?_, ?_, ?_⟩, hhash, ?_⟩
  · intro evaluation hmem
    rw [List.mem_singleton.mp hmem]
    have hnames : isNonEmptyString "LIMIT" = true ∧ isNonEmptyString "RISK" = true := by
      decide
    simp only [RiskLimitEvaluation.validate, check_bind_eq_ok_iff, require_eq_ok_iff]
    exact ⟨hnames, by simp, hreason.mp, fun hne hpassed => hne (hreason.mpr hpassed)⟩
  · intro hbreach
    apply hhard
    simpa [hasHardBreach, bareEvent] using hbreach
  · intro happroval
    exact Option.isSome_iff_ne_none.mp (hintent.trans happroval)
  · intro hrejected
    exact Option.isSome_eq_false_iff.mp (hintent.trans hrejected) |> Option.isNone_iff_eq_none.mp
  · exact hid.trans (congrArg _ hhash)

/-- Each event of the list stores its own digest and the id built from it. -/
theorem mixedEvents_stamped : ∀ event ∈ mixedEvents,
    event.riskCheckHash = @RiskCheckEvent.buildHash hashlibSha256 event ∧
    event.riskCheckId = @RiskCheckEvent.buildId hashlibSha256 event.riskCheckHash := by
  decide +kernel

theorem mixedEvents_valid :
    ∀ event ∈ mixedEvents, @RiskCheckEvent.validate hashlibSha256 event = .ok () := by
  intro event hmem
  obtain ⟨hhash, hid⟩ := mixedEvents_stamped event hmem
  rcases List.mem_cons.mp hmem with rfl | hmem
  · exact bareEvent_valid (by decide) (by decide) rfl hhash hid
  rcases List.mem_cons.mp hmem with rfl | hmem
  · exact bareEvent_valid (by decide) (by decide) rfl hhash hid
  · obtain rfl := List.mem_singleton.mp hmem
    exact bareEvent_valid (by decide) (by decide) rfl hhash hid

theorem mixedEvents_collisionFree : @RiskEvidenceCollisionFree hashlibSha256 mixedEvents :=
  @riskEvidenceCollisionFree_of_nodup hashlibSha256 _ mixedEvents_valid (by decide)

/-- One bar of `BTC-USD`, and an account with cash on the two-instrument market. -/
def mixedInputs : GatewayInputs where
  bars := [flatBar "BTC-USD" 0 0 ⟨100, Decimal.zero_le_hundred⟩ ⟨10, Decimal.zero_le_ten⟩]
  runId := "RUN"
  costModel := none
  snapshot := some (marketSnapshot loosestLimits)
  startingAccountState := some (cashState ⟨100000, Decimal.zero_le_hundredThousand⟩)

/-- Both gateways return on the mixed list. -/
theorem mixed_returns (kind : ExecutionGatewayKind) :
    ∃ report, @runGateway hashlibSha256 kind mixedInputs mixedEvents = .ok report := by
  have hbars : validateBarsAreSafe mixedInputs.bars = .ok () :=
    ok_unit_of_toBool _ (by decide)
  have hintents : validateOrderIntents (mixedEvents.filterMap forwardedIntent) = .ok () :=
    ok_unit_of_toBool _ (by decide)
  have hrun : isCanonicalId mixedInputs.runId = true := by decide
  obtain ⟨replayed, hreplayed⟩ := (@replay_with_account_succeeds_iff hashlibSha256 mixedInputs.bars
    (mixedEvents.filterMap forwardedIntent) mixedInputs.runId none (marketSnapshot loosestLimits)
    (cashState ⟨100000, Decimal.zero_le_hundredThousand⟩)).mpr ⟨hbars, hintents, hrun⟩
  have hreplay : @replayForwarded hashlibSha256 mixedInputs.bars mixedInputs.runId none
      mixedInputs.snapshot mixedInputs.startingAccountState (mixedEvents.filterMap forwardedIntent)
      = .ok (some replayed) := congrArg (Except.map some) hreplayed
  exact @runGateway_returns hashlibSha256 kind mixedInputs mixedEvents mixedEvents_valid
    mixedEvents_collisionFree _
    ((@replayRiskApproved_eq_ok_iff hashlibSha256 _ _ _ _ _ _ _).mpr ⟨_, hreplay, hrun, rfl⟩)

/-- The order of `ETH-USD` waits for a bar, the one of `BTC-USD` is paid for. -/
theorem mixed_fills {results : List ReplayOrderResult}
    (h : @ReplayedFor hashlibSha256 mixedInputs mixedEvents results) :
    results.map ReplayOrderResult.isFill = [false, true] := by
  obtain ⟨replayReport, hreplay, rfl⟩ := h
  have hforwarded : @replayForwarded hashlibSha256 mixedInputs.bars mixedInputs.runId
      mixedInputs.costModel mixedInputs.snapshot mixedInputs.startingAccountState
      (mixedEvents.filterMap forwardedIntent) =
      (@replayOhlctvMarketOrders hashlibSha256 mixedInputs.bars
        (mixedEvents.filterMap forwardedIntent) mixedInputs.runId mixedInputs.costModel
        mixedInputs.snapshot mixedInputs.startingAccountState).map some := rfl
  rw [hforwarded] at hreplay
  cases hrun : @replayOhlctvMarketOrders hashlibSha256 mixedInputs.bars
      (mixedEvents.filterMap forwardedIntent) mixedInputs.runId mixedInputs.costModel
      mixedInputs.snapshot mixedInputs.startingAccountState with
  | error error =>
      rw [hrun] at hreplay
      cases hreplay
  | ok report =>
      rw [hrun] at hreplay
      cases hreplay
      obtain ⟨context, balances, -, -, hcontext, horders, -⟩ :=
        @replayOhlctvMarketOrders_ok hashlibSha256 _ _ _ _ _ _ _ hrun
      cases hcontext
      have hsettled := congrArg Prod.fst (@replayOrders_settleAll hashlibSha256 _ _ _ _ _ _ horders)
      refine Eq.trans hsettled.symm ?_
      decide +kernel

/-- Two results around the refusal go to the events around it. -/
theorem mixed_statuses {R : OrderIntent → ReplayOrderResult → Prop} {runId : String}
    {kind : ExecutionGatewayKind} {results : List ReplayOrderResult}
    {lifecycle : List ExecutionGatewayLifecycleEvent}
    (h : Associated R kind runId mixedEvents results lifecycle)
    (hfills : results.map ReplayOrderResult.isFill = [false, true]) :
    lifecycle.map (fun e => (e.status == .blocked, e.status.isFilled)) =
      [(false, false), (true, false), (false, true)] := by
  have hofReplay : ∀ status : ReplayFillStatus,
      (ExecutionGatewayOrderStatus.ofReplay status == .blocked) = false :=
    fun status => beq_false_of_ne (ExecutionGatewayOrderStatus.ofReplay_ne_blocked status)
  have hisFill : ∀ result : ReplayOrderResult,
      (ExecutionGatewayOrderStatus.ofReplay result.status).isFilled = result.isFill := by
    intro result
    rw [Bool.eq_iff_iff, isFilled_ofReplay, ReplayOrderResult.isFill_iff]
  cases h with
  | blocked hnot _ _ => cases hnot
  | replayed _ _ hfirst hrest =>
      cases hrest with
      | replayed hforwarded _ _ _ => cases hforwarded
      | blocked _ hsecond hrest =>
          cases hrest with
          | blocked hnot _ _ => cases hnot
          | replayed _ _ hthird hrest =>
              cases hrest
              simp only [List.map_cons, List.map_nil, List.cons.injEq, and_true] at hfills
              simp only [List.map_cons, List.map_nil, hfirst.status, hsecond.status, hthird.status,
                hofReplay, hisFill, hfills]
              rfl

end Mixed

/-- An approved order, a refused one and another approved one through both gateways: the results go
to the first and the last event. -/
theorem gateway_association_and_parity_mixed : ∃ simulated paper results,
    @runSimulatorGatewayReplay hashlibSha256 mixedInputs mixedEvents = .ok simulated ∧
    @runPaperGatewayReplay hashlibSha256 mixedInputs mixedEvents = .ok paper ∧
    @ReplayedFor hashlibSha256 mixedInputs mixedEvents results ∧
    Associated (@ReplaysIntent hashlibSha256 mixedInputs) .paper "RUN" mixedEvents results
      paper.events ∧
    results.map ReplayOrderResult.isFill = [false, true] ∧
    paper.events.map (fun e => (e.status == .blocked, e.status.isFilled)) =
      [(false, false), (true, false), (false, true)] ∧
    reportWithoutKind simulated = reportWithoutKind paper := by
  obtain ⟨simulated, hsimulated⟩ := mixed_returns .simulator
  obtain ⟨hassociation, hparity, hsame⟩ := @gateway_association_and_parity hashlibSha256
    mixedInputs mixedEvents mixedEvents_valid mixedEvents_collisionFree
  obtain ⟨paper, hpaper⟩ := hparity.mp ⟨simulated, hsimulated⟩
  obtain ⟨results, hreplayed, hassociated, -⟩ := hassociation .paper paper hpaper
  have hfills := mixed_fills hreplayed
  exact ⟨simulated, paper, results, hsimulated, hpaper, hreplayed, hassociated, hfills,
    mixed_statuses hassociated hfills, hsame _ _ hsimulated hpaper⟩

end TaModel.Execution
