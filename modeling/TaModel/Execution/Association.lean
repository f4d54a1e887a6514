import TaModel.Contracts.PayloadLaws
import TaModel.Execution.Blocking
import TaModel.Simulation.ReplayResults

/-!
# Association of replay results with risk events

A gateway filters the approved events, replays their intents, and hands the results back by risk
id. `Associated` is what the hand-back has to achieve: along the list of risk events every forwarded
one takes the next result, and every other one is blocked. The ids of forwarded events differ as
long as the digests under them do not collide, because the replay rejects repeated client order ids.
A gateway returns as soon as its gated replay does (`runGateway_returns`).
-/

set_option autoImplicit false

namespace TaModel.Execution

open Contracts Risk Simulation

/-! ## Risk ids of forwarded events -/

/-- The digests and ids of the risk events do not collide. -/
structure RiskEvidenceCollisionFree [Sha256] (events : List RiskCheckEvent) : Prop where
  digests : CollisionFree (events.map fun event => .record event.identityFields)
  ids : ∀ a ∈ events, ∀ b ∈ events, a.riskCheckId = b.riskCheckId →
    a.riskCheckHash = b.riskCheckHash

section RiskIds

variable [Sha256] {events : List RiskCheckEvent}

/-- The validators of a risk event tie its intent to its decision. -/
theorem intentMatchesDecision_of_valid {event : RiskCheckEvent} (h : event.validate = .ok ()) :
    IntentMatchesDecision event := by
  obtain ⟨hfields, -, -⟩ := (RiskCheckEvent.stamping.validate_eq_ok_iff event).mp h
  obtain ⟨-, -, -, -, -, -, happroved, hother⟩ :=
    (RiskCheckEvent.validateFields_eq_ok_iff event).mp hfields
  simp only [IntentMatchesDecision]
  cases hdecision : event.finalDecision.isApproval with
  | true => exact (Option.isSome_iff_ne_none.mpr (happroved hdecision)).symm
  | false => rw [hother hdecision]; rfl

/-- Valid events with one id forward the same intent. -/
theorem forwardedIntent_eq_of_id (hvalid : ∀ event ∈ events, event.validate = .ok ())
    (hcollision : RiskEvidenceCollisionFree events) {a b : RiskCheckEvent} (ha : a ∈ events)
    (hb : b ∈ events) (hid : a.riskCheckId = b.riskCheckId) :
    forwardedIntent a = forwardedIntent b := by
  obtain ⟨-, hahash, -⟩ := (RiskCheckEvent.stamping.validate_eq_ok_iff a).mp (hvalid a ha)
  obtain ⟨-, hbhash, -⟩ := (RiskCheckEvent.stamping.validate_eq_ok_iff b).mp (hvalid b hb)
  have hhash : a.buildHash = b.buildHash :=
    hahash.symm.trans ((hcollision.ids a ha b hb hid).trans hbhash)
  have hpayload := hcollision.digests _ (List.mem_map_of_mem ha) _ (List.mem_map_of_mem hb) hhash
  have hfields := Payload.record.inj hpayload
  simp only [RiskCheckEvent.identityFields, List.cons.injEq, Prod.mk.injEq, true_and] at hfields
  obtain ⟨-, hintent, hdecision, -⟩ := hfields
  simp only [forwardedIntent, toPayload_option_injective hintent,
    toPayload_injective _ _ hdecision]

/-- When the forwarded intents have distinct client order ids, the forwarded events have distinct
risk ids. -/
theorem approvedRiskIds_nodup (hvalid : ∀ event ∈ events, event.validate = .ok ())
    (hcollision : RiskEvidenceCollisionFree events)
    (horders : ((events.filterMap forwardedIntent).map OrderIntent.clientOrderId).Nodup) :
    (approvedRiskIds events).Nodup := by
  have hpairs : events.Pairwise fun a b => ∀ i ∈ forwardedIntent a, ∀ j ∈ forwardedIntent b,
      i.clientOrderId ≠ j.clientOrderId := by
    have hintents := List.pairwise_map.mp horders
    exact List.pairwise_filterMap.mp hintents
  have hmem := List.Pairwise.and_mem.mp hpairs
  apply List.pairwise_map.mpr
  apply List.pairwise_filter.mpr
  apply hmem.imp
  rintro a b ⟨ha, hb, horder⟩ hfa hfb hid
  -- equal ids would forward one intent twice
  obtain ⟨i, hi⟩ := Option.isSome_iff_exists.mp hfa
  have hj : forwardedIntent b = some i := by
    rw [← forwardedIntent_eq_of_id hvalid hcollision ha hb hid]
    exact hi
  exact horder i hi i hj rfl

/-- The forwarded intents of a returning replay have distinct client order ids. -/
theorem forwarded_clientOrderIds_nodup {inputs : GatewayInputs} {replayReport : Option ReplayReport}
    (h : replayForwarded inputs.bars inputs.runId inputs.costModel inputs.snapshot
      inputs.startingAccountState (events.filterMap forwardedIntent) = .ok replayReport) :
    ((events.filterMap forwardedIntent).map OrderIntent.clientOrderId).Nodup := by
  cases hintents : events.filterMap forwardedIntent with
  | nil => exact List.nodup_nil
  | cons intent intents =>
      rw [hintents] at h
      simp only [replayForwarded] at h
      cases hreplay : replayOhlctvMarketOrders inputs.bars (intent :: intents) inputs.runId
          inputs.costModel inputs.snapshot inputs.startingAccountState with
      | error error =>
          rw [hreplay] at h
          cases h
      | ok report =>
          obtain ⟨_, _, -, horders, -⟩ := replayOhlctvMarketOrders_ok hreplay
          exact clientOrderIds_nodup horders

end RiskIds

/-! ## Association -/

section Association

variable [Sha256]

/-- A lifecycle event names the order it is about. -/
structure NamesOrder (intent : OrderIntent) (e : ExecutionGatewayLifecycleEvent) : Prop where
  clientOrderId : e.clientOrderId = intent.clientOrderId
  traceId : e.traceId = intent.traceId
  sourceDecisionId : e.sourceDecisionId = intent.sourceDecisionId
  instrumentId : e.instrumentId = intent.instrumentId
  venueId : e.venueId = intent.venueId
  side : e.side = intent.side
  orderType : e.orderType = intent.orderType
  gatewayQuantity : e.gatewayQuantity = intent.quantity
  submittedAt : e.submittedAt = intent.submittedAt

/-- The lifecycle event of a risk event that is not forwarded: it names the requested order, of
which nothing is placed, filled or charged. -/
structure BlocksOrder (kind : ExecutionGatewayKind) (runId : String) (event : RiskCheckEvent)
    (e : ExecutionGatewayLifecycleEvent) : Prop extends NamesRiskEvent kind runId event e where
  order : NamesOrder event.request.orderIntent e
  status : e.status = .blocked
  gatewayOrderId : e.gatewayOrderId = none
  replayOrderResultId : e.replayOrderResultId = none
  replayStatus : e.replayStatus = none
  fillPrice : e.fillPrice = none
  filledQuantity : e.filledQuantity = 0
  remainingQuantity : e.remainingQuantity = event.request.orderIntent.quantity.val
  referenceNotional : e.referenceNotional = 0
  effectiveNotional : e.effectiveNotional = 0
  totalCost : e.totalCost = 0

/-- The lifecycle event of a risk event whose intent was replayed: it names the approved intent, and
its outcome is the one of the result, field by field. -/
structure CarriesResult (kind : ExecutionGatewayKind) (runId : String) (event : RiskCheckEvent)
    (intent : OrderIntent) (result : ReplayOrderResult) (e : ExecutionGatewayLifecycleEvent) :
    Prop extends NamesRiskEvent kind runId event e where
  order : NamesOrder intent e
  requestedQuantity : e.requestedQuantity = event.request.orderIntent.quantity
  status : e.status = .ofReplay result.status
  replayOrderResultId : e.replayOrderResultId = some result.replayOrderResultId
  replayStatus : e.replayStatus = some result.status
  replayRejectReason : e.replayRejectReason = result.reason
  fillPrice : e.fillPrice = result.fillPrice
  filledQuantity : e.filledQuantity = result.filledQuantity
  remainingQuantity : e.remainingQuantity = result.remainingQuantity
  fillEventOpenTs : e.fillEventOpenTs = result.fillEventOpenTs
  fillEventCloseTs : e.fillEventCloseTs = result.fillEventCloseTs
  fillEventSourceTs : e.fillEventSourceTs = result.fillEventSourceTs
  fillRawPayloadId : e.fillRawPayloadId = result.fillRawPayloadId
  costModelId : e.costModelId = result.costModelId
  costModelHash : e.costModelHash = result.costModelHash
  latencyBars : e.latencyBars = result.latencyBars
  eligibleEventIndex : e.eligibleEventIndex = result.eligibleEventIndex
  fillAttemptEventIndex : e.fillAttemptEventIndex = result.fillAttemptEventIndex
  arrivalReferencePrice : e.arrivalReferencePrice = result.arrivalReferencePrice
  effectiveFillPrice : e.effectiveFillPrice = result.effectiveFillPrice
  referenceNotional : e.referenceNotional = result.referenceNotional
  effectiveNotional : e.effectiveNotional = result.effectiveNotional
  feeCost : e.feeCost = result.feeCost
  spreadCost : e.spreadCost = result.spreadCost
  slippageCost : e.slippageCost = result.slippageCost
  totalCost : e.totalCost = result.totalCost

/-- Along the risk events, every forwarded one takes the next result, which stands in relation `R`
to its intent, and every other one is blocked; no result is left over. -/
inductive Associated (R : OrderIntent → ReplayOrderResult → Prop) (kind : ExecutionGatewayKind)
    (runId : String) : List RiskCheckEvent → List ReplayOrderResult →
      List ExecutionGatewayLifecycleEvent → Prop
  | nil : Associated R kind runId [] [] []
  | blocked {event : RiskCheckEvent} {events : List RiskCheckEvent}
      {results : List ReplayOrderResult} {e : ExecutionGatewayLifecycleEvent}
      {lifecycle : List ExecutionGatewayLifecycleEvent}
      (hnot : forwardedIntent event = none) (hblocks : BlocksOrder kind runId event e)
      (hrest : Associated R kind runId events results lifecycle) :
      Associated R kind runId (event :: events) results (e :: lifecycle)
  | replayed {event : RiskCheckEvent} {events : List RiskCheckEvent} {intent : OrderIntent}
      {result : ReplayOrderResult} {results : List ReplayOrderResult}
      {e : ExecutionGatewayLifecycleEvent} {lifecycle : List ExecutionGatewayLifecycleEvent}
      (hforwarded : forwardedIntent event = some intent) (hresult : R intent result)
      (hcarries : CarriesResult kind runId event intent result e)
      (hrest : Associated R kind runId events results lifecycle) :
      Associated R kind runId (event :: events) (result :: results) (e :: lifecycle)

variable {kind : ExecutionGatewayKind} {runId : String} {pairs : List (String × ReplayOrderResult)}
  {event : RiskCheckEvent} {e : ExecutionGatewayLifecycleEvent}

/-- Without a result under its id a risk event gets a blocked lifecycle event. -/
theorem blocksOrder_of_lifecycleEvent (h : lifecycleEvent kind runId pairs event = .ok e)
    (hnone : resultOf pairs event.riskCheckId = none) : BlocksOrder kind runId event e := by
  have hnames := lifecycleEvent_names h
  rcases lifecycleEvent_cases h with ⟨-, rfl⟩ | ⟨result, intent, hresult, -, -⟩
  · exact { toNamesRiskEvent := hnames, order := ⟨rfl, rfl, rfl, rfl, rfl, rfl, rfl, rfl, rfl⟩,
            status := rfl, gatewayOrderId := rfl, replayOrderResultId := rfl, replayStatus := rfl,
            fillPrice := rfl, filledQuantity := rfl, remainingQuantity := rfl,
            referenceNotional := rfl, effectiveNotional := rfl, totalCost := rfl }
  · rw [hnone] at hresult
    cases hresult

/-- With a result under its id and an approved intent it gets the lifecycle event of both. -/
theorem carriesResult_of_lifecycleEvent (h : lifecycleEvent kind runId pairs event = .ok e)
    {intent : OrderIntent} {result : ReplayOrderResult}
    (hresult : resultOf pairs event.riskCheckId = some result)
    (hintent : event.approvedOrderIntent = some intent) :
    CarriesResult kind runId event intent result e := by
  have hnames := lifecycleEvent_names h
  rcases lifecycleEvent_cases h with ⟨hnone, -⟩ | ⟨found, own, hfound, hown, rfl⟩
  · rw [hresult] at hnone
    cases hnone
  · rw [hresult] at hfound
    rw [hintent] at hown
    cases hfound
    cases hown
    exact { toNamesRiskEvent := hnames, order := ⟨rfl, rfl, rfl, rfl, rfl, rfl, rfl, rfl, rfl⟩,
            requestedQuantity := rfl, status := rfl, replayOrderResultId := rfl,
            replayStatus := rfl, replayRejectReason := rfl, fillPrice := rfl,
            filledQuantity := rfl, remainingQuantity := rfl, fillEventOpenTs := rfl,
            fillEventCloseTs := rfl, fillEventSourceTs := rfl, fillRawPayloadId := rfl,
            costModelId := rfl, costModelHash := rfl, latencyBars := rfl, eligibleEventIndex := rfl,
            fillAttemptEventIndex := rfl, arrivalReferencePrice := rfl, effectiveFillPrice := rfl,
            referenceNotional := rfl, effectiveNotional := rfl, feeCost := rfl, spreadCost := rfl,
            slippageCost := rfl, totalCost := rfl }

omit [Sha256] in
theorem CarriesResult.not_blocked {intent : OrderIntent} {result : ReplayOrderResult}
    (h : CarriesResult kind runId event intent result e) : e.status ≠ .blocked := by
  rw [h.status]
  exact ExecutionGatewayOrderStatus.ofReplay_ne_blocked result.status

omit [Sha256] in
/-- Nothing is lost, doubled or moved: the lifecycle events that are not blocked carry the results,
in order. -/
theorem Associated.resultIds {R : OrderIntent → ReplayOrderResult → Prop}
    {events : List RiskCheckEvent} {results : List ReplayOrderResult}
    {lifecycle : List ExecutionGatewayLifecycleEvent}
    (h : Associated R kind runId events results lifecycle) :
    (lifecycle.filter fun e => e.status ≠ .blocked).map
        ExecutionGatewayLifecycleEvent.replayOrderResultId =
      results.map fun result => some result.replayOrderResultId := by
  induction h with
  | nil => rfl
  | blocked _ hblocks _ ih =>
      rw [List.filter_cons_of_neg (by simp [hblocks.status])]
      exact ih
  | replayed _ _ hcarries _ ih =>
      rw [List.filter_cons_of_pos (by simp [hcarries.not_blocked]), List.map_cons, List.map_cons,
        hcarries.replayOrderResultId, ih]

omit [Sha256] in
/-- There is one lifecycle event for each risk event, in order. -/
theorem Associated.riskCheckIds {R : OrderIntent → ReplayOrderResult → Prop}
    {events : List RiskCheckEvent} {results : List ReplayOrderResult}
    {lifecycle : List ExecutionGatewayLifecycleEvent}
    (h : Associated R kind runId events results lifecycle) :
    lifecycle.map ExecutionGatewayLifecycleEvent.riskCheckId =
      events.map RiskCheckEvent.riskCheckId := by
  induction h with
  | nil => rfl
  | blocked _ hblocks _ ih => rw [List.map_cons, List.map_cons, hblocks.riskCheckId, ih]
  | replayed _ _ hcarries _ ih => rw [List.map_cons, List.map_cons, hcarries.riskCheckId, ih]

omit [Sha256] in
/-- With distinct keys the lookup finds the pair of the key. -/
theorem resultOf_of_mem (hkeys : (pairs.map Prod.fst).Nodup) {id : String}
    {result : ReplayOrderResult} (h : (id, result) ∈ pairs) :
    resultOf pairs id = some result := by
  simp only [resultOf]
  cases hfind : pairs.reverse.find? fun pair => pair.1 == id with
  | none =>
      have hnone := List.find?_eq_none.mp hfind (id, result) (List.mem_reverse.mpr h)
      exact absurd (beq_self_eq_true id) hnone
  | some pair =>
      have hmem := List.mem_reverse.mp (List.mem_of_find?_eq_some hfind)
      have hid : pair.1 = id := by simpa using List.find?_some hfind
      have hsame : pair = (id, result) := List.inj_on_of_nodup_map hkeys hmem h hid
      rw [hsame]
      rfl

/-- Looking the results up by distinct risk ids hands them out in order. -/
theorem associated_of_lifecycle {R : OrderIntent → ReplayOrderResult → Prop}
    (hkeys : (pairs.map Prod.fst).Nodup) {events : List RiskCheckEvent}
    {lifecycle : List ExecutionGatewayLifecycleEvent} {results : List ReplayOrderResult}
    (hlifecycle : List.Forall₂ (fun event e => lifecycleEvent kind runId pairs event = .ok e)
      events lifecycle)
    (hmatch : ∀ event ∈ events, IntentMatchesDecision event)
    (hresults : List.Forall₂ R (events.filterMap forwardedIntent) results)
    (hpairs : ∀ pair ∈ (approvedRiskIds events).zip results, pair ∈ pairs) :
    Associated R kind runId events results lifecycle := by
  induction hlifecycle generalizing results with
  | nil =>
      cases hresults
      exact .nil
  | @cons event e events lifecycle hhead _ ih =>
      have htail : ∀ event ∈ events, IntentMatchesDecision event :=
        fun event hmem => hmatch event (List.mem_cons_of_mem _ hmem)
      have hmatches : event.finalDecision.isApproval = event.approvedOrderIntent.isSome :=
        hmatch event List.mem_cons_self
      cases hintent : forwardedIntent event with
      | none =>
          have hnot : isForwarded event = false := by simp [isForwarded, hintent]
          rw [List.filterMap_cons_none hintent] at hresults
          have hids : approvedRiskIds (event :: events) = approvedRiskIds events := by
            simp [approvedRiskIds, hnot]
          rw [hids] at hpairs
          have happroved : event.approvedOrderIntent = none := by
            simp only [forwardedIntent] at hintent
            split_ifs at hintent with hdecision
            · exact hintent
            · rw [Bool.not_eq_true, hmatches] at hdecision
              exact Option.not_isSome_iff_eq_none.mp (by simp [hdecision])
          rcases lifecycleEvent_cases hhead with ⟨hnone, -⟩ | ⟨result, intent, -, hsome, -⟩
          · exact .blocked hintent (blocksOrder_of_lifecycleEvent hhead hnone)
              (ih htail hresults hpairs)
          · rw [happroved] at hsome
            cases hsome
      | some intent =>
          have hforward : isForwarded event = true := by simp [isForwarded, hintent]
          rw [List.filterMap_cons_some hintent] at hresults
          cases hresults with
          | @cons _ result _ results hresult hrest =>
              have hids : approvedRiskIds (event :: events) =
                  event.riskCheckId :: approvedRiskIds events := by
                simp [approvedRiskIds, hforward]
              rw [hids, List.zip_cons_cons] at hpairs
              have hown := resultOf_of_mem hkeys (hpairs _ List.mem_cons_self)
              have happroved : event.approvedOrderIntent = some intent := by
                simp only [forwardedIntent] at hintent
                split_ifs at hintent with hdecision
                · exact hintent
              exact .replayed hintent hresult
                (carriesResult_of_lifecycleEvent hhead hown happroved)
                (ih htail hrest fun pair hpair => hpairs pair (List.mem_cons_of_mem _ hpair))

end Association

/-! ## Runs -/

section Runs

variable [Sha256] {inputs : GatewayInputs} {events : List RiskCheckEvent}

/-- The results the gated replay produces for the approved intents. -/
def ReplayedFor (inputs : GatewayInputs) (events : List RiskCheckEvent)
    (results : List ReplayOrderResult) : Prop :=
  ∃ replayReport, replayForwarded inputs.bars inputs.runId inputs.costModel inputs.snapshot
      inputs.startingAccountState (events.filterMap forwardedIntent) = .ok replayReport ∧
    results = (replayReport.map ReplayReport.results).getD []

/-- The result is the replay of the intent under the inputs of the gateway, and names it. -/
def ReplaysIntent (inputs : GatewayInputs) (intent : OrderIntent) (result : ReplayOrderResult) :
    Prop :=
  ∃ context, pairContext inputs.snapshot inputs.startingAccountState = .ok context ∧
    IsReplayOf inputs.bars inputs.costModel context intent result ∧ RepeatsIntent intent result

/-- The results of the gated replay are those of the approved intents, in order. -/
theorem replayedFor_forall₂ {results : List ReplayOrderResult}
    (h : ReplayedFor inputs events results) :
    List.Forall₂ (ReplaysIntent inputs) (events.filterMap forwardedIntent) results := by
  obtain ⟨replayReport, hreplay, rfl⟩ := h
  cases hintents : events.filterMap forwardedIntent with
  | nil =>
      rw [hintents] at hreplay
      cases hreplay
      exact .nil
  | cons intent intents =>
      rw [hintents] at hreplay
      simp only [replayForwarded] at hreplay
      cases hrun : replayOhlctvMarketOrders inputs.bars (intent :: intents) inputs.runId
          inputs.costModel inputs.snapshot inputs.startingAccountState with
      | error error =>
          rw [hrun] at hreplay
          cases hreplay
      | ok report =>
          rw [hrun] at hreplay
          cases hreplay
          obtain ⟨context, balances, -, -, hcontext, horders, -⟩ := replayOhlctvMarketOrders_ok hrun
          apply (replayOrders_isReplayOf horders).imp
          rintro i r ⟨b, b', hone⟩
          exact ⟨context, hcontext, ⟨b, b', hone⟩, replayOne_repeats hone⟩

/-- The results of the gated replay are for distinct orders. -/
theorem replayedFor_nodup {results : List ReplayOrderResult}
    (h : ReplayedFor inputs events results) :
    (results.map ReplayOrderResult.clientOrderId).Nodup := by
  have hsame : (events.filterMap forwardedIntent).map OrderIntent.clientOrderId =
      results.map ReplayOrderResult.clientOrderId := by
    apply Library.map_eq_of_forall₂ (replayedFor_forall₂ h)
    rintro intent result ⟨context, -, -, hrepeats⟩
    exact hrepeats.clientOrderId.symm
  obtain ⟨replayReport, hreplay, -⟩ := h
  rw [← hsame]
  exact forwarded_clientOrderIds_nodup hreplay

/-- A run of either gateway hands every result to the event it belongs to. -/
theorem runGateway_associated {kind : ExecutionGatewayKind} {report : ExecutionGatewayReport}
    (hvalid : ∀ event ∈ events, event.validate = .ok ())
    (hcollision : RiskEvidenceCollisionFree events)
    (h : runGateway kind inputs events = .ok report) :
    ∃ results, ReplayedFor inputs events results ∧
      Associated (ReplaysIntent inputs) kind inputs.runId events results report.events := by
  obtain ⟨gated, pairs, lifecycle, hgated, hpairs, hlifecycle, -, rfl⟩ := runGateway_eq_ok_iff.mp h
  obtain ⟨replayReport, hreplay, -, rfl⟩ := (replayRiskApproved_eq_ok_iff gated).mp hgated
  simp only [replayResultsByRiskId] at hpairs
  split_ifs at hpairs with hlength
  cases hpairs
  have hreplayed : ReplayedFor inputs events ((replayReport.map ReplayReport.results).getD []) :=
    ⟨replayReport, hreplay, rfl⟩
  have hids := approvedRiskIds_nodup hvalid hcollision (forwarded_clientOrderIds_nodup hreplay)
  have hkeys := hids
  rw [← List.map_fst_zip hlength.le] at hkeys
  exact ⟨_, hreplayed, associated_of_lifecycle hkeys hlifecycle
    (fun event hmem => intentMatchesDecision_of_valid (hvalid event hmem))
    (replayedFor_forall₂ hreplayed) fun pair hpair => hpair⟩

end Runs

/-! ## Returning runs -/

section Returning

variable [Sha256] {kind : ExecutionGatewayKind} {runId : String} {event : RiskCheckEvent}
  {intent : OrderIntent} {result : ReplayOrderResult} {requirementIds : List String}

omit [Sha256] in
theorem isFilled_ofReplay (status : ReplayFillStatus) :
    (ExecutionGatewayOrderStatus.ofReplay status).isFilled = true ↔
      status = .filled ∨ status = .partiallyFilled := by
  cases status <;> simp [ExecutionGatewayOrderStatus.ofReplay, ExecutionGatewayOrderStatus.isFilled]

/-- The checks of a lifecycle event are those of the replay result it repeats. -/
theorem replayDraft_validateFields (hrun : isCanonicalId runId = true)
    (happroval : event.finalDecision.isApproval = true) (hresult : result.validateFields = .ok ())
    (hquantity : result.quantity = intent.quantity.val) :
    (ExecutionGatewayLifecycleEvent.replayDraft kind kind.fillMode runId event intent result
      requirementIds).validateFields = .ok () := by
  simp only [ReplayOrderResult.validateFields, check_bind_eq_ok_iff, require_eq_ok_iff] at hresult
  obtain ⟨⟨-, hprice, hfilled, hremains, harrival, heffective, hreference, hnotional, hfee, hspread,
    hslippage, hcost⟩, hmodel, htotal, hcosts, hremaining, hstatus⟩ := hresult
  rw [hquantity] at hremaining
  refine (ExecutionGatewayLifecycleEvent.validateFields_eq_ok_iff _).mpr
    ⟨⟨hprice, hfilled, hremains, harrival, heffective, hreference, hnotional, hfee, hspread,
      hslippage, hcost⟩, hrun, (validateGatewayFillMode_eq_ok_iff _ _).mpr rfl, hmodel, htotal,
      hcosts, hremaining, ?_⟩
  have hnot : (ExecutionGatewayLifecycleEvent.replayDraft kind kind.fillMode runId event intent
      result requirementIds).status ≠ .blocked :=
    ExecutionGatewayOrderStatus.ofReplay_ne_blocked result.status
  simp only [ExecutionGatewayLifecycleEvent.validateStatus, if_neg hnot, check_bind_eq_ok_iff,
    require_eq_ok_iff, ExecutionGatewayLifecycleEvent.validateReplayBacked]
  refine ⟨happroval, by simp [ExecutionGatewayLifecycleEvent.replayDraft], rfl,
    by simp [ExecutionGatewayLifecycleEvent.replayDraft], ?_, ?_⟩
  · intro status hsome
    cases hsome
    rfl
  · -- the two validators split on the same statuses
    rw [show (ExecutionGatewayLifecycleEvent.replayDraft kind kind.fillMode runId event intent
      result requirementIds).status = .ofReplay result.status from rfl]
    cases hfill : result.isFill with
    | true =>
        rw [hfill, if_pos rfl] at hstatus
        have hisFilled : (ExecutionGatewayOrderStatus.ofReplay result.status).isFilled = true :=
          (isFilled_ofReplay _).mpr ((ReplayOrderResult.isFill_iff result).mp hfill)
        have hpartly : ExecutionGatewayOrderStatus.ofReplay result.status = .filled ↔
            result.status = .filled := by
          cases result.status <;> simp [ExecutionGatewayOrderStatus.ofReplay]
        rw [if_pos hisFilled]
        simp only [ReplayOrderResult.validateFill, check_bind_eq_ok_iff, require_eq_ok_iff,
          hquantity] at hstatus
        obtain ⟨hreason, hpositive, hwhole, hpart, hlineage, hattribution⟩ := hstatus
        simp only [ExecutionGatewayLifecycleEvent.validateFilled, check_bind_eq_ok_iff,
          require_eq_ok_iff]
        refine ⟨hreason, hpositive, fun h => hwhole (hpartly.mp h), ?_, hlineage, ?_⟩
        · intro h
          rcases (ReplayOrderResult.isFill_iff result).mp hfill with hf | hp
          · exact absurd (hpartly.mpr hf) h
          · exact hpart hp
        · simp only [ExecutionGatewayLifecycleEvent.replayDraft]
          cases harrivalPrice : result.arrivalReferencePrice with
          | none =>
              rw [harrivalPrice] at hattribution
              cases hattribution
          | some arrival =>
              cases heffectivePrice : result.effectiveFillPrice with
              | none =>
                  rw [harrivalPrice, heffectivePrice] at hattribution
                  cases hattribution
              | some effective =>
                  rw [harrivalPrice, heffectivePrice] at hattribution
                  exact hattribution
    | false =>
        rw [hfill] at hstatus
        have hnotFilled : ¬ (ExecutionGatewayOrderStatus.ofReplay result.status).isFilled = true := by
          intro h
          have := (ReplayOrderResult.isFill_iff result).mpr ((isFilled_ofReplay _).mp h)
          rw [hfill] at this
          cases this
        rw [if_neg hnotFilled]
        simp only [Bool.false_eq_true, if_false, ReplayOrderResult.validateNoFill,
          check_bind_eq_ok_iff, require_eq_ok_iff, hquantity] at hstatus
        obtain ⟨hreason, hprice, hattribution, hleft⟩ := hstatus
        simp only [ExecutionGatewayLifecycleEvent.validateUnfilledOrRejected, check_bind_eq_ok_iff,
          require_eq_ok_iff]
        exact ⟨hreason, hprice, hattribution, hleft⟩

variable {inputs : GatewayInputs} {events : List RiskCheckEvent}

omit [Sha256] in
/-- Every forwarded event has its result among the pairs of the dictionary. -/
theorem exists_result_of_forwarded {R : OrderIntent → ReplayOrderResult → Prop}
    {results : List ReplayOrderResult}
    (hresults : List.Forall₂ R (events.filterMap forwardedIntent) results) :
    ∀ event ∈ events, ∀ intent, forwardedIntent event = some intent →
      ∃ result, (event.riskCheckId, result) ∈ (approvedRiskIds events).zip results ∧
        R intent result := by
  induction events generalizing results with
  | nil =>
      intro event hmem
      cases hmem
  | cons first events ih =>
      intro event hmem intent hintent
      cases hfirst : forwardedIntent first with
      | none =>
          have hids : approvedRiskIds (first :: events) = approvedRiskIds events := by
            simp [approvedRiskIds, isForwarded, hfirst]
          rw [List.filterMap_cons_none hfirst] at hresults
          rw [hids]
          rcases List.mem_cons.mp hmem with rfl | hmem
          · rw [hfirst] at hintent
            cases hintent
          · exact ih hresults event hmem intent hintent
      | some firstIntent =>
          have hids : approvedRiskIds (first :: events) =
              first.riskCheckId :: approvedRiskIds events := by
            simp [approvedRiskIds, isForwarded, hfirst]
          rw [List.filterMap_cons_some hfirst] at hresults
          cases hresults with
          | @cons _ result _ results hresult hrest =>
              rw [hids, List.zip_cons_cons]
              rcases List.mem_cons.mp hmem with rfl | hmem
              · rw [hfirst] at hintent
                cases hintent
                exact ⟨result, List.mem_cons_self, hresult⟩
              · obtain ⟨own, hown, hR⟩ := ih hrest event hmem intent hintent
                exact ⟨own, List.mem_cons_of_mem _ hown, hR⟩

/-- Once the gated replay returns, so does the gateway. -/
theorem runGateway_returns (hvalid : ∀ event ∈ events, event.validate = .ok ())
    (hcollision : RiskEvidenceCollisionFree events) {gated : RiskGatedReplayResult}
    (hgated : gatedReplay inputs events = .ok gated) :
    ∃ report, runGateway kind inputs events = .ok report := by
  obtain ⟨replayReport, hreplay, hrun, hgatedEq⟩ := (replayRiskApproved_eq_ok_iff gated).mp hgated
  have hresults : List.Forall₂ (ReplaysIntent inputs) (events.filterMap forwardedIntent)
      (gatedResults gated) := by
    rw [hgatedEq]
    exact replayedFor_forall₂ ⟨replayReport, hreplay, rfl⟩
  have hlength : (approvedRiskIds events).length = (gatedResults gated).length := by
    rw [← hresults.length_eq, approvedRiskIds, List.length_map, List.length_filterMap_eq_countP,
      List.countP_eq_length_filter]
    rfl
  have hkeys := approvedRiskIds_nodup hvalid hcollision (forwarded_clientOrderIds_nodup hreplay)
  rw [← List.map_fst_zip hlength.le] at hkeys
  have hmatch : ∀ event ∈ events, IntentMatchesDecision event :=
    fun event hmem => intentMatchesDecision_of_valid (hvalid event hmem)
  have hmode : validateGatewayFillMode kind kind.fillMode = .ok () :=
    (validateGatewayFillMode_eq_ok_iff _ _).mpr rfl
  have hevents : ∀ event ∈ events, ∃ e, lifecycleEvent kind inputs.runId
      ((approvedRiskIds events).zip (gatedResults gated)) event = .ok e := by
    intro event hmem
    simp only [lifecycleEvent, ExecutionGatewayLifecycleEvent.make, hmode, ok_bind]
    have hmatches : event.finalDecision.isApproval = event.approvedOrderIntent.isSome :=
      hmatch event hmem
    cases hintent : forwardedIntent event with
    | some intent =>
        obtain ⟨result, hpair, context, -, ⟨balances, balances', hone⟩, hrepeats⟩ :=
          exists_result_of_forwarded hresults event hmem intent hintent
        have happroved : event.approvedOrderIntent = some intent := by
          simp only [forwardedIntent] at hintent
          split_ifs at hintent
          exact hintent
        have happroval : event.finalDecision.isApproval = true := by
          rw [hmatches, happroved]
          rfl
        rw [resultOf_of_mem hkeys hpair, happroved]
        exact ⟨_, (Library.Stamping.construct_eq_ok_iff _ _ _).mpr
          ⟨replayDraft_validateFields hrun happroval (replayOne_validateFields hone)
            hrepeats.quantity, rfl⟩⟩
    | none =>
        -- a result under its id would belong to a forwarded event with the same intent
        have hnone : resultOf ((approvedRiskIds events).zip (gatedResults gated))
            event.riskCheckId = none := by
          simp only [resultOf, Option.map_eq_none_iff, List.find?_eq_none, List.mem_reverse,
            beq_iff_eq]
          rintro ⟨id, result⟩ hpair rfl
          obtain ⟨other, hother, hid⟩ := List.mem_map.mp (List.of_mem_zip hpair).1
          obtain ⟨hmemOther, hforward⟩ := List.mem_filter.mp hother
          have hsame := forwardedIntent_eq_of_id hvalid hcollision hmemOther hmem hid
          simp only [isForwarded, hsame, hintent] at hforward
          cases hforward
        have hdecision : event.finalDecision.isApproval = false := by
          cases happroval : event.finalDecision.isApproval with
          | false => rfl
          | true =>
              rw [happroval] at hmatches
              simp only [forwardedIntent, happroval, if_true] at hintent
              rw [hintent] at hmatches
              cases hmatches
        rw [hnone]
        exact ⟨_, (Library.Stamping.construct_eq_ok_iff _ _ _).mpr
          ⟨blockedDraft_validateFields hrun hdecision, rfl⟩⟩
  have hpairs : replayResultsByRiskId events (gatedResults gated) =
      .ok ((approvedRiskIds events).zip (gatedResults gated)) := by
    simp only [replayResultsByRiskId, if_pos hlength]
  obtain ⟨lifecycle, hlifecycle⟩ := Library.exists_forall₂ hevents
  exact ⟨_, runGateway_eq_ok_iff.mpr ⟨gated, _, lifecycle, hgated, hpairs, hlifecycle,
    reportDraft_validateFields hgated hpairs hmatch hlifecycle, rfl⟩⟩

end Returning

end TaModel.Execution
