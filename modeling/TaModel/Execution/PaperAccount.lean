import TaModel.Contracts.PaperAccount

/-!
# The paper account session builder

`make_paper_account_session_report` of `execution/paper.py`: the logs of the gateway events and the
resolution of the initial and final account states.
-/

set_option autoImplicit false

namespace TaModel.Execution

open Contracts

/-! ## Arguments -/

/-- The account-state arguments of `make_paper_account_session_report`. -/
structure AccountStateArguments where
  initialAccountState : Option SimulatedAccountState := none
  finalAccountState : Option SimulatedAccountState := none
  initialAccountStateId : Option String := none
  initialAccountStateHash : Option String := none
  finalAccountStateId : Option String := none
  finalAccountStateHash : Option String := none

/-- The final account state of a session, its id and hash, and where they come from. -/
structure ResolvedFinalState where
  state : Option SimulatedAccountState
  stateId : String
  stateHash : String
  source : PaperAccountStateSource

/-- `_require_paper_gateway_report`. -/
def requirePaperGatewayReport (report : ExecutionGatewayReport) : Raises Unit := do
  require (report.gatewayKind = .paper)
    "paper accounting/TCA builders require paper gateway reports"
  require (report.fillMode = .paperSimulatedFill)
    "paper accounting/TCA builders require paper_simulated_fill reports"

/-- `_has_filled_events`. -/
def hasFilledEvents (report : ExecutionGatewayReport) : Bool :=
  report.events.any fun event => event.status.isFilled

/-! ## Drafts of the logs -/

/-- `_ORDER_LOG_REQUIREMENTS`. -/
def orderLogRequirements : List String := ["FR-013", "FR-015", "NFR-004"]

/-- `_FILL_LOG_REQUIREMENTS`. -/
def fillLogRequirements : List String := ["FR-013", "FR-014", "FR-015"]

/-- `_REJECTION_LOG_REQUIREMENTS`. -/
def rejectionLogRequirements : List String := ["FR-010", "FR-013", "FR-015"]

/-- `_ACCOUNT_REPORT_REQUIREMENTS`. -/
def accountReportRequirements : List String := ["FR-010", "FR-013", "FR-015", "NFR-004"]

/-- The draft of `_make_order_lifecycle_log_entry`. -/
def orderLogDraft (report : ExecutionGatewayReport) (event : ExecutionGatewayLifecycleEvent) :
    PaperOrderLifecycleLogEntry :=
  { orderLogId := "PAPERORDERLOG:PLACEHOLDER", orderLogHash := "",
    gatewayReportId := report.gatewayReportId, gatewayReportHash := report.gatewayReportHash,
    gatewayEventId := event.gatewayEventId, gatewayEventHash := event.gatewayEventHash,
    gatewayOrderId := event.gatewayOrderId, runId := event.runId,
    riskCheckId := event.riskCheckId, riskCheckHash := event.riskCheckHash,
    riskDecision := event.riskDecision, riskReasonCodes := event.riskReasonCodes,
    clientOrderId := event.clientOrderId, traceId := event.traceId,
    sourceDecisionId := event.sourceDecisionId, instrumentId := event.instrumentId,
    venueId := event.venueId, side := event.side, orderType := event.orderType,
    requestedQuantity := event.requestedQuantity, gatewayQuantity := event.gatewayQuantity,
    submittedAt := event.submittedAt, status := event.status, replayStatus := event.replayStatus,
    replayRejectReason := event.replayRejectReason, requirementIds := orderLogRequirements }

/-- The `rejection_source` of `_make_rejection_log_entry`. -/
def rejectionSource (status : ExecutionGatewayOrderStatus) : PaperRejectionSource :=
  if status = .blocked then .risk else .gatewayReplay

/-- The draft of `_make_rejection_log_entry`. -/
def rejectionLogDraft (report : ExecutionGatewayReport) (event : ExecutionGatewayLifecycleEvent) :
    PaperRejectionLogEntry :=
  { rejectionLogId := "PAPERREJECTLOG:PLACEHOLDER", rejectionLogHash := "",
    gatewayReportId := report.gatewayReportId, gatewayReportHash := report.gatewayReportHash,
    gatewayEventId := event.gatewayEventId, gatewayEventHash := event.gatewayEventHash,
    gatewayOrderId := event.gatewayOrderId, runId := event.runId,
    riskCheckId := event.riskCheckId, riskCheckHash := event.riskCheckHash,
    riskDecision := event.riskDecision, riskReasonCodes := event.riskReasonCodes,
    replayRejectReason := event.replayRejectReason,
    rejectionSource := rejectionSource event.status, clientOrderId := event.clientOrderId,
    traceId := event.traceId, sourceDecisionId := event.sourceDecisionId,
    instrumentId := event.instrumentId, venueId := event.venueId, side := event.side,
    orderType := event.orderType, requestedQuantity := event.requestedQuantity,
    gatewayQuantity := event.gatewayQuantity, remainingQuantity := event.remainingQuantity,
    submittedAt := event.submittedAt, status := event.status,
    requirementIds := rejectionLogRequirements }

/-- What a filled event must carry before a fill log can be made of it. -/
structure FillAttribution where
  gatewayOrderId : String
  replayOrderResultId : String
  fillPrice : Decimal
  fillEventOpenTs : AwareDatetime
  fillEventCloseTs : AwareDatetime
  fillEventSourceTs : AwareDatetime
  fillRawPayloadId : String
  arrivalReferencePrice : Decimal
  effectiveFillPrice : Decimal

/-- The `is None` checks of `_make_fill_log_entry`. -/
def fillAttribution (event : ExecutionGatewayLifecycleEvent) : Raises FillAttribution :=
  match event.gatewayOrderId, event.replayOrderResultId with
  | some gatewayOrderId, some replayOrderResultId =>
      match event.fillPrice, event.fillEventOpenTs, event.fillEventCloseTs,
        event.fillEventSourceTs, event.fillRawPayloadId, event.arrivalReferencePrice,
        event.effectiveFillPrice with
      | some fillPrice, some openTs, some closeTs, some sourceTs, some rawPayloadId,
        some arrival, some effective =>
          .ok { gatewayOrderId := gatewayOrderId, replayOrderResultId := replayOrderResultId,
                fillPrice := fillPrice, fillEventOpenTs := openTs, fillEventCloseTs := closeTs,
                fillEventSourceTs := sourceTs, fillRawPayloadId := rawPayloadId,
                arrivalReferencePrice := arrival, effectiveFillPrice := effective }
      | _, _, _, _, _, _, _ => .error "filled paper events require complete fill attribution"
  | _, _ => .error "filled paper events require gateway order and replay result ids"

/-- The draft of `_make_fill_log_entry`. -/
def fillLogDraft (report : ExecutionGatewayReport) (event : ExecutionGatewayLifecycleEvent)
    (fill : FillAttribution) : PaperFillLogEntry :=
  { fillLogId := "PAPERFILLLOG:PLACEHOLDER", fillLogHash := "",
    gatewayReportId := report.gatewayReportId, gatewayReportHash := report.gatewayReportHash,
    gatewayEventId := event.gatewayEventId, gatewayEventHash := event.gatewayEventHash,
    gatewayOrderId := fill.gatewayOrderId, runId := event.runId,
    riskCheckId := event.riskCheckId, riskCheckHash := event.riskCheckHash,
    clientOrderId := event.clientOrderId, traceId := event.traceId,
    sourceDecisionId := event.sourceDecisionId, instrumentId := event.instrumentId,
    venueId := event.venueId, side := event.side, orderType := event.orderType,
    status := event.status, replayOrderResultId := fill.replayOrderResultId,
    fillPrice := fill.fillPrice, filledQuantity := event.filledQuantity,
    remainingQuantity := event.remainingQuantity, fillEventOpenTs := fill.fillEventOpenTs,
    fillEventCloseTs := fill.fillEventCloseTs, fillEventSourceTs := fill.fillEventSourceTs,
    fillRawPayloadId := fill.fillRawPayloadId, costModelId := event.costModelId,
    costModelHash := event.costModelHash, latencyBars := event.latencyBars,
    eligibleEventIndex := event.eligibleEventIndex,
    fillAttemptEventIndex := event.fillAttemptEventIndex,
    arrivalReferencePrice := fill.arrivalReferencePrice,
    effectiveFillPrice := fill.effectiveFillPrice, referenceNotional := event.referenceNotional,
    effectiveNotional := event.effectiveNotional, feeCost := event.feeCost,
    spreadCost := event.spreadCost, slippageCost := event.slippageCost,
    totalCost := event.totalCost, requirementIds := fillLogRequirements }

section Builder

variable [Sha256]

/-- `_make_order_lifecycle_log_entry`. -/
def makeOrderLifecycleLogEntry (report : ExecutionGatewayReport)
    (event : ExecutionGatewayLifecycleEvent) : Raises PaperOrderLifecycleLogEntry :=
  PaperOrderLifecycleLogEntry.stamping.construct (orderLogDraft report event)

/-- `_make_fill_log_entry`. -/
def makeFillLogEntry (report : ExecutionGatewayReport) (event : ExecutionGatewayLifecycleEvent) :
    Raises PaperFillLogEntry := do
  require event.status.isFilled "fill logs require filled gateway status"
  let fill ← fillAttribution event
  PaperFillLogEntry.stamping.construct (fillLogDraft report event fill)

/-- `_make_rejection_log_entry`. -/
def makeRejectionLogEntry (report : ExecutionGatewayReport)
    (event : ExecutionGatewayLifecycleEvent) : Raises PaperRejectionLogEntry := do
  require (event.status.isFilled = false)
    "rejection logs require blocked/rejected/unfilled gateway status"
  PaperRejectionLogEntry.stamping.construct (rejectionLogDraft report event)

/-! ## Account states -/

/-- `_resolve_account_state_identity`. -/
def resolveAccountStateIdentity (accountState : Option SimulatedAccountState)
    (accountStateId accountStateHash : Option String) (label : String) :
    Raises (String × String) :=
  match accountState with
  | some state => do
      let computedHash := buildPaperAccountStateHash state
      let computedId := buildPaperAccountStateId computedHash
      require (∀ given ∈ accountStateHash, given = computedHash)
        (label ++ "_account_state_hash does not match embedded state")
      require (∀ given ∈ accountStateId, given = computedId)
        (label ++ "_account_state_id does not match embedded state")
      .ok (computedId, computedHash)
  | none =>
      match accountStateId, accountStateHash with
      | some givenId, some givenHash => .ok (givenId, givenHash)
      | _, _ =>
          .error (label ++
            " account state requires an embedded state or explicit id/hash linkage")

/-- `_raise_if_supplied_final_conflicts_with_gateway`. -/
def raiseIfSuppliedFinalConflictsWithGateway (gatewayFinalState : SimulatedAccountState)
    (args : AccountStateArguments) : Raises Unit := do
  let gatewayFinalHash := buildPaperAccountStateHash gatewayFinalState
  require (∀ state ∈ args.finalAccountState, buildPaperAccountStateHash state = gatewayFinalHash)
    "supplied final account state conflicts with gateway-derived state"
  require (∀ given ∈ args.finalAccountStateHash, given = gatewayFinalHash)
    "supplied final account state hash conflicts with gateway-derived state"
  require (∀ given ∈ args.finalAccountStateId, given = buildPaperAccountStateId gatewayFinalHash)
    "supplied final account state id conflicts with gateway-derived state"

/-- The branch of `_resolve_final_account_state` for fills without a replayed final state. -/
def resolveFilledFinalState (args : AccountStateArguments) : Raises ResolvedFinalState :=
  match args.finalAccountStateId, args.finalAccountStateHash with
  | some givenId, some givenHash => do
      require (∀ state ∈ args.finalAccountState,
          givenHash = buildPaperAccountStateHash state ∧
            givenId = buildPaperAccountStateId (buildPaperAccountStateHash state))
        "explicit final account-state linkage conflicts with supplied state"
      .ok ⟨args.finalAccountState, givenId, givenHash, .explicitLinkage⟩
  | _, _ =>
      .error ("approved paper fills without replay-derived final account state require " ++
        "explicit final account-state id/hash linkage")

/-- The branches of `_resolve_final_account_state` for a session without fills. -/
def resolveUnfilledFinalState (args : AccountStateArguments) : Raises ResolvedFinalState :=
  if args.finalAccountState ≠ none ∨ args.finalAccountStateId ≠ none ∨
      args.finalAccountStateHash ≠ none then do
    let (finalId, finalHash) ← resolveAccountStateIdentity args.finalAccountState
      args.finalAccountStateId args.finalAccountStateHash "final"
    .ok ⟨args.finalAccountState, finalId, finalHash, .explicitLinkage⟩
  else
    match args.initialAccountState with
    | none =>
        .error ("unchanged paper accounting requires initial account state or explicit final " ++
          "linkage")
    | some state =>
        let initialHash := buildPaperAccountStateHash state
        .ok ⟨some state, buildPaperAccountStateId initialHash, initialHash, .unchangedFromInitial⟩

/-- `_resolve_final_account_state`. -/
def resolveFinalAccountState (report : ExecutionGatewayReport) (args : AccountStateArguments) :
    Raises ResolvedFinalState :=
  match report.sourceReplayFinalAccountState with
  | some state => do
      raiseIfSuppliedFinalConflictsWithGateway state args
      let finalHash := buildPaperAccountStateHash state
      .ok ⟨some state, buildPaperAccountStateId finalHash, finalHash, .gatewayReplay⟩
  | none =>
      if hasFilledEvents report then resolveFilledFinalState args
      else resolveUnfilledFinalState args

/-! ## The session report -/

/-- The amounts that a session report adds up. -/
def sessionAmounts : List (PaperFillLogEntry → Decimal) :=
  [PaperFillLogEntry.filledQuantity, PaperFillLogEntry.feeCost, PaperFillLogEntry.spreadCost,
    PaperFillLogEntry.slippageCost, PaperFillLogEntry.totalCost]

/-- The draft of `make_paper_account_session_report`. -/
def sessionDraft (report : ExecutionGatewayReport)
    (initialAccountState : Option SimulatedAccountState) (initialId initialHash : String)
    (final : ResolvedFinalState) (orderLogs : List PaperOrderLifecycleLogEntry)
    (fillLogs : List PaperFillLogEntry) (rejectionLogs : List PaperRejectionLogEntry) :
    PaperAccountSessionReport :=
  { sessionReportId := "PAPERSESSION:PLACEHOLDER", sessionReportHash := "",
    runId := report.runId, gatewayReportId := report.gatewayReportId,
    gatewayReportHash := report.gatewayReportHash, gatewayKind := report.gatewayKind,
    fillMode := report.fillMode,
    sourceRiskGatedReplayResultId := report.sourceRiskGatedReplayResultId,
    sourceRiskGatedReplayResultHash := report.sourceRiskGatedReplayResultHash,
    sourceReplayReportId := report.sourceReplayReportId,
    sourceReplayReportHash := report.sourceReplayReportHash,
    initialAccountStateId := initialId, initialAccountStateHash := initialHash,
    finalAccountStateId := final.stateId, finalAccountStateHash := final.stateHash,
    finalAccountStateSource := final.source, initialAccountState := initialAccountState,
    finalAccountState := final.state,
    orderLogIds := orderLogs.map PaperOrderLifecycleLogEntry.orderLogId,
    fillLogIds := fillLogs.map PaperFillLogEntry.fillLogId,
    rejectionLogIds := rejectionLogs.map PaperRejectionLogEntry.rejectionLogId,
    orderLogs := orderLogs, fillLogs := fillLogs, rejectionLogs := rejectionLogs,
    totalOrderCount := orderLogs.length,
    filledOrderCount := countStatus orderLogs .filled,
    partiallyFilledOrderCount := countStatus orderLogs .partiallyFilled,
    blockedOrderCount := countStatus orderLogs .blocked,
    rejectedOrderCount := countStatus orderLogs .rejected,
    unfilledOrderCount := countStatus orderLogs .unfilled,
    filledQuantityTotal := contextTotal (fillLogs.map PaperFillLogEntry.filledQuantity),
    feeCostTotal := contextTotal (fillLogs.map PaperFillLogEntry.feeCost),
    spreadCostTotal := contextTotal (fillLogs.map PaperFillLogEntry.spreadCost),
    slippageCostTotal := contextTotal (fillLogs.map PaperFillLogEntry.slippageCost),
    totalExecutionCost := contextTotal (fillLogs.map PaperFillLogEntry.totalCost),
    requirementIds := accountReportRequirements }

/-- `make_paper_account_session_report`. -/
def makePaperAccountSessionReport (report : ExecutionGatewayReport)
    (args : AccountStateArguments) : Raises PaperAccountSessionReport := do
  requirePaperGatewayReport report
  let (initialId, initialHash) ← resolveAccountStateIdentity args.initialAccountState
    args.initialAccountStateId args.initialAccountStateHash "initial"
  let final ← resolveFinalAccountState report args
  let orderLogs ← report.events.mapM (makeOrderLifecycleLogEntry report)
  let fillLogs ← (report.events.filter fun event => event.status.isFilled).mapM
    (makeFillLogEntry report)
  let rejectionLogs ← (report.events.filter fun event => !event.status.isFilled).mapM
    (makeRejectionLogEntry report)
  sessionAmounts.forM fun amount => requireSum (fillLogs.map amount)
  PaperAccountSessionReport.stamping.construct
    (sessionDraft report args.initialAccountState initialId initialHash final orderLogs fillLogs
      rejectionLogs)

end Builder

end TaModel.Execution
