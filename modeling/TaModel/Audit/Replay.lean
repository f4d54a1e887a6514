import TaModel.Audit.ReplayReport
import TaModel.Audit.TraceLinks
import TaModel.Execution.Gateway
import TaModel.Execution.PaperTca

/-!
# Decision replay by trace id

`replay_decision_trace_by_id` of `audit/replay.py`. The stored evidence of a trace is checked stage
by stage: its trace ids, the stored envelope, the stored artifacts, the inputs of an order replay,
the envelope over the stored artifacts, and then the replay through the paper gateway. The first
stage that finds blockers ends the replay with a failed report.
-/

set_option autoImplicit false

namespace TaModel.Audit

open Contracts Execution

/-! ## Stored evidence -/

/-- All stored evidence needed to replay one decision trace. -/
structure DecisionTraceReplayEvidence where
  traceId : String
  envelope : DecisionTraceEnvelope
  forecast : Forecast
  decision : StrategyDecision
  orderIntent : Option OrderIntent := none
  riskEvent : Option RiskCheckEvent := none
  gatewayReport : Option ExecutionGatewayReport := none
  paperAccountReport : Option PaperAccountSessionReport := none
  paperTcaReport : Option PaperTcaReport := none
  bars : List OHLCTVBar := []
  executionCostModel : Option ExecutionCostModel := none
  instrumentMasterSnapshot : Option InstrumentMasterSnapshot := none
  startingAccountState : Option SimulatedAccountState := none
  quotes : List QuoteEvent := []

/-- `DecisionTraceEvidenceResolver`: all evidence records matching a trace id. -/
abbrev DecisionTraceEvidenceResolver := String → List DecisionTraceReplayEvidence

/-- `InMemoryDecisionTraceEvidenceStore.resolve_trace_evidence`. -/
def inMemoryStore (evidence : List DecisionTraceReplayEvidence) : DecisionTraceEvidenceResolver :=
  fun traceId => evidence.filter fun record => decide (record.traceId = traceId)

namespace DecisionTraceReplayEvidence

/-- The artifacts of an order, when all five are stored. -/
def order (evidence : DecisionTraceReplayEvidence) : Option OrderArtifacts :=
  match evidence.orderIntent, evidence.riskEvent, evidence.gatewayReport,
    evidence.paperAccountReport, evidence.paperTcaReport with
  | some orderIntent, some riskEvent, some gatewayReport, some paperAccountReport,
    some paperTcaReport =>
      some ⟨orderIntent, riskEvent, gatewayReport, paperAccountReport, paperTcaReport⟩
  | _, _, _, _, _ => none

/-- What the gateway replay takes besides the risk event, under the stored run. -/
def gatewayInputs (evidence : DecisionTraceReplayEvidence) (runId : String) : GatewayInputs where
  bars := evidence.bars
  runId := runId
  costModel := evidence.executionCostModel
  snapshot := evidence.instrumentMasterSnapshot
  startingAccountState := evidence.startingAccountState

end DecisionTraceReplayEvidence

/-! ## Replay reports -/

/-- `_REPLAY_REQUIREMENTS`. -/
def replayRequirements : List String := ["FR-015", "NFR-004"]

/-- Typed replay report for one trace id. -/
structure DecisionTraceReplayReport where
  traceId : String
  status : DecisionTraceReplayStatus
  forecastId : Option String := none
  strategyDecisionId : Option String := none
  strategyDecisionHash : Option String := none
  strategyRunId : Option String := none
  riskRunId : Option String := none
  originalGatewayRunId : Option String := none
  replayedGatewayRunId : Option String := none
  storedTraceEnvelopeId : Option String := none
  storedTraceEnvelopeHash : Option String := none
  reconstructedTraceEnvelopeId : Option String := none
  reconstructedTraceEnvelopeHash : Option String := none
  storedNoOrderReason : Option String := none
  reconstructedNoOrderReason : Option String := none
  originalGatewayReportId : Option String := none
  originalGatewayReportHash : Option String := none
  replayedGatewayReportId : Option String := none
  replayedGatewayReportHash : Option String := none
  originalGatewayEventId : Option String := none
  originalGatewayEventHash : Option String := none
  replayedGatewayEventId : Option String := none
  replayedGatewayEventHash : Option String := none
  originalGatewayOrderId : Option String := none
  replayedGatewayOrderId : Option String := none
  originalPaperSessionReportId : Option String := none
  originalPaperSessionReportHash : Option String := none
  replayedPaperSessionReportId : Option String := none
  replayedPaperSessionReportHash : Option String := none
  originalPaperOrderLogIds : List String := []
  replayedPaperOrderLogIds : List String := []
  originalPaperFillLogIds : List String := []
  replayedPaperFillLogIds : List String := []
  originalPaperRejectionLogIds : List String := []
  replayedPaperRejectionLogIds : List String := []
  originalPaperTcaReportId : Option String := none
  originalPaperTcaReportHash : Option String := none
  replayedPaperTcaReportId : Option String := none
  replayedPaperTcaReportHash : Option String := none
  originalPaperTcaRowIds : List String := []
  replayedPaperTcaRowIds : List String := []
  originalPaperTcaIssueIds : List String := []
  replayedPaperTcaIssueIds : List String := []
  blockers : List DecisionTraceReplayBlocker := []
  requirementIds : List String := replayRequirements
deriving DecidableEq

/-- The fields hashed by `build_decision_trace_replay_report_hash`. -/
def DecisionTraceReplayReport.identityFields (r : DecisionTraceReplayReport) : List (String × Payload) :=
  [ ("blockers", toPayload r.blockers), ("forecast_id", toPayload r.forecastId),
    ("original_gateway_event_hash", toPayload r.originalGatewayEventHash),
    ("original_gateway_event_id", toPayload r.originalGatewayEventId),
    ("original_gateway_order_id", toPayload r.originalGatewayOrderId),
    ("original_gateway_report_hash", toPayload r.originalGatewayReportHash),
    ("original_gateway_report_id", toPayload r.originalGatewayReportId),
    ("original_gateway_run_id", toPayload r.originalGatewayRunId),
    ("original_paper_fill_log_ids", toPayload r.originalPaperFillLogIds),
    ("original_paper_order_log_ids", toPayload r.originalPaperOrderLogIds),
    ("original_paper_rejection_log_ids", toPayload r.originalPaperRejectionLogIds),
    ("original_paper_session_report_hash", toPayload r.originalPaperSessionReportHash),
    ("original_paper_session_report_id", toPayload r.originalPaperSessionReportId),
    ("original_paper_tca_issue_ids", toPayload r.originalPaperTcaIssueIds),
    ("original_paper_tca_report_hash", toPayload r.originalPaperTcaReportHash),
    ("original_paper_tca_report_id", toPayload r.originalPaperTcaReportId),
    ("original_paper_tca_row_ids", toPayload r.originalPaperTcaRowIds),
    ("reconstructed_no_order_reason", toPayload r.reconstructedNoOrderReason),
    ("reconstructed_trace_envelope_hash", toPayload r.reconstructedTraceEnvelopeHash),
    ("reconstructed_trace_envelope_id", toPayload r.reconstructedTraceEnvelopeId),
    ("replayed_gateway_event_hash", toPayload r.replayedGatewayEventHash),
    ("replayed_gateway_event_id", toPayload r.replayedGatewayEventId),
    ("replayed_gateway_order_id", toPayload r.replayedGatewayOrderId),
    ("replayed_gateway_report_hash", toPayload r.replayedGatewayReportHash),
    ("replayed_gateway_report_id", toPayload r.replayedGatewayReportId),
    ("replayed_gateway_run_id", toPayload r.replayedGatewayRunId),
    ("replayed_paper_fill_log_ids", toPayload r.replayedPaperFillLogIds),
    ("replayed_paper_order_log_ids", toPayload r.replayedPaperOrderLogIds),
    ("replayed_paper_rejection_log_ids", toPayload r.replayedPaperRejectionLogIds),
    ("replayed_paper_session_report_hash", toPayload r.replayedPaperSessionReportHash),
    ("replayed_paper_session_report_id", toPayload r.replayedPaperSessionReportId),
    ("replayed_paper_tca_issue_ids", toPayload r.replayedPaperTcaIssueIds),
    ("replayed_paper_tca_report_hash", toPayload r.replayedPaperTcaReportHash),
    ("replayed_paper_tca_report_id", toPayload r.replayedPaperTcaReportId),
    ("replayed_paper_tca_row_ids", toPayload r.replayedPaperTcaRowIds),
    ("requirement_ids", toPayload r.requirementIds), ("risk_run_id", toPayload r.riskRunId),
    ("status", toPayload r.status), ("stored_no_order_reason", toPayload r.storedNoOrderReason),
    ("stored_trace_envelope_hash", toPayload r.storedTraceEnvelopeHash),
    ("stored_trace_envelope_id", toPayload r.storedTraceEnvelopeId),
    ("strategy_decision_hash", toPayload r.strategyDecisionHash),
    ("strategy_decision_id", toPayload r.strategyDecisionId),
    ("strategy_run_id", toPayload r.strategyRunId), ("trace_id", toPayload r.traceId) ]

instance : ToPayload DecisionTraceReplayReport := ⟨fun r => .record r.identityFields⟩

/-- What a replay has found when it ends: the arguments of `_report`. -/
structure ReplayOutcome where
  status : DecisionTraceReplayStatus
  storedEnvelope : Option DecisionTraceEnvelope := none
  reconstructedEnvelope : Option DecisionTraceEnvelope := none
  replayedGatewayReport : Option ExecutionGatewayReport := none
  replayedPaperReport : Option PaperAccountSessionReport := none
  replayedTcaReport : Option PaperTcaReport := none
  blockers : List DecisionTraceReplayBlocker := []

/-- `_matching_report_event`. -/
def matchingReportEvent (gatewayReport : Option ExecutionGatewayReport)
    (riskEvent : Option RiskCheckEvent) (decision : StrategyDecision) :
    Option ExecutionGatewayLifecycleEvent :=
  match gatewayReport, riskEvent with
  | some gatewayReport, some riskEvent =>
      match gatewayReport.events.filter (isTraceEvent riskEvent decision) with
      | [event] => some event
      | _ => none
  | _, _ => none

/-- `DecisionTraceReplayReport(...)`. The trace id comes from the caller; every other id is copied
from an artifact whose contract puts the same constraint on it. -/
def DecisionTraceReplayReport.make (draft : DecisionTraceReplayReport) :
    Raises DecisionTraceReplayReport := do
  require (isCanonicalId draft.traceId) "String should match pattern '^[A-Z0-9][A-Z0-9._:-]*$'"
  .ok draft

/-- `_failure_report`. -/
def failureReport (traceId : String) (blocker : DecisionTraceReplayBlocker) :
    Raises DecisionTraceReplayReport :=
  DecisionTraceReplayReport.make { traceId := traceId, status := .failed, blockers := [blocker] }

/-- The fields `_report` fills in. -/
def reportDraft (traceId : String) (evidence : DecisionTraceReplayEvidence)
    (outcome : ReplayOutcome) : DecisionTraceReplayReport :=
  let originalGatewayEvent :=
    matchingReportEvent evidence.gatewayReport evidence.riskEvent evidence.decision
  let replayedGatewayEvent :=
    matchingReportEvent outcome.replayedGatewayReport evidence.riskEvent evidence.decision
  let originalEnvelope := outcome.storedEnvelope.getD evidence.envelope
  let reconstructed := outcome.reconstructedEnvelope
  let idsOf := fun (ids : DecisionTraceEnvelope → List String) => (reconstructed.map ids).getD []
  { traceId := traceId, status := outcome.status,
    forecastId := some evidence.forecast.forecastId,
    strategyDecisionId := some evidence.decision.decisionId,
    strategyDecisionHash := some evidence.decision.decisionHash,
    strategyRunId := some evidence.decision.strategyRunId,
    riskRunId := evidence.riskEvent.map fun e => e.request.runId,
    originalGatewayRunId := evidence.gatewayReport.map ExecutionGatewayReport.runId,
    replayedGatewayRunId := outcome.replayedGatewayReport.map ExecutionGatewayReport.runId,
    storedTraceEnvelopeId := some originalEnvelope.traceEnvelopeId,
    storedTraceEnvelopeHash := some originalEnvelope.traceEnvelopeHash,
    reconstructedTraceEnvelopeId := reconstructed.map DecisionTraceEnvelope.traceEnvelopeId,
    reconstructedTraceEnvelopeHash := reconstructed.map DecisionTraceEnvelope.traceEnvelopeHash,
    storedNoOrderReason := originalEnvelope.noOrderReason,
    reconstructedNoOrderReason := reconstructed.bind DecisionTraceEnvelope.noOrderReason,
    originalGatewayReportId := evidence.gatewayReport.map ExecutionGatewayReport.gatewayReportId,
    originalGatewayReportHash :=
      evidence.gatewayReport.map ExecutionGatewayReport.gatewayReportHash,
    replayedGatewayReportId :=
      outcome.replayedGatewayReport.map ExecutionGatewayReport.gatewayReportId,
    replayedGatewayReportHash :=
      outcome.replayedGatewayReport.map ExecutionGatewayReport.gatewayReportHash,
    originalGatewayEventId :=
      originalGatewayEvent.map ExecutionGatewayLifecycleEvent.gatewayEventId,
    originalGatewayEventHash :=
      originalGatewayEvent.map ExecutionGatewayLifecycleEvent.gatewayEventHash,
    replayedGatewayEventId :=
      replayedGatewayEvent.map ExecutionGatewayLifecycleEvent.gatewayEventId,
    replayedGatewayEventHash :=
      replayedGatewayEvent.map ExecutionGatewayLifecycleEvent.gatewayEventHash,
    originalGatewayOrderId :=
      originalGatewayEvent.bind ExecutionGatewayLifecycleEvent.gatewayOrderId,
    replayedGatewayOrderId :=
      replayedGatewayEvent.bind ExecutionGatewayLifecycleEvent.gatewayOrderId,
    originalPaperSessionReportId :=
      evidence.paperAccountReport.map PaperAccountSessionReport.sessionReportId,
    originalPaperSessionReportHash :=
      evidence.paperAccountReport.map PaperAccountSessionReport.sessionReportHash,
    replayedPaperSessionReportId :=
      outcome.replayedPaperReport.map PaperAccountSessionReport.sessionReportId,
    replayedPaperSessionReportHash :=
      outcome.replayedPaperReport.map PaperAccountSessionReport.sessionReportHash,
    originalPaperOrderLogIds := originalEnvelope.paperOrderLogIds,
    replayedPaperOrderLogIds := idsOf DecisionTraceEnvelope.paperOrderLogIds,
    originalPaperFillLogIds := originalEnvelope.paperFillLogIds,
    replayedPaperFillLogIds := idsOf DecisionTraceEnvelope.paperFillLogIds,
    originalPaperRejectionLogIds := originalEnvelope.paperRejectionLogIds,
    replayedPaperRejectionLogIds := idsOf DecisionTraceEnvelope.paperRejectionLogIds,
    originalPaperTcaReportId := evidence.paperTcaReport.map PaperTcaReport.tcaReportId,
    originalPaperTcaReportHash := evidence.paperTcaReport.map PaperTcaReport.tcaReportHash,
    replayedPaperTcaReportId := outcome.replayedTcaReport.map PaperTcaReport.tcaReportId,
    replayedPaperTcaReportHash := outcome.replayedTcaReport.map PaperTcaReport.tcaReportHash,
    originalPaperTcaRowIds := originalEnvelope.paperTcaRowIds,
    replayedPaperTcaRowIds := idsOf DecisionTraceEnvelope.paperTcaRowIds,
    originalPaperTcaIssueIds := originalEnvelope.paperTcaIssueIds,
    replayedPaperTcaIssueIds := idsOf DecisionTraceEnvelope.paperTcaIssueIds,
    blockers := outcome.blockers }

/-- `_report`. -/
def makeReport (traceId : String) (evidence : DecisionTraceReplayEvidence)
    (outcome : ReplayOutcome) : Raises DecisionTraceReplayReport :=
  DecisionTraceReplayReport.make (reportDraft traceId evidence outcome)

/-! ## Stages -/

/-- The blockers of a comparison of trace ids, in the order of the checks. -/
def traceBlockersOf (requestedTraceId : String) (checks : List (String × String)) :
    Raises (List DecisionTraceReplayBlocker) :=
  (checks.filter fun check => decide (check.2 ≠ requestedTraceId)).mapM fun check =>
    DecisionTraceReplayBlocker.make .mismatchedRequestedTrace
      (check.1 ++ " does not match requested trace_id") (some requestedTraceId) (some check.2)

/-- `_requested_trace_blockers`. -/
def requestedTraceBlockers (requestedTraceId : String) (evidence : DecisionTraceReplayEvidence) :
    Raises (List DecisionTraceReplayBlocker) :=
  traceBlockersOf requestedTraceId
    [ ("evidence.trace_id", evidence.traceId), ("envelope.trace_id", evidence.envelope.traceId),
      ("decision.trace_id", evidence.decision.traceId) ]

/-- A blocker whose message carries the text of an exception. -/
def exceptionBlocker (code : DecisionTraceReplayBlockerCode) (message text : String) :
    Raises DecisionTraceReplayBlocker :=
  DecisionTraceReplayBlocker.make code (message ++ ": " ++ text) none none

section Harness

variable [Sha256]

/-- The artifacts of `_validate_replay_evidence_artifacts` with their validators. The order intent,
the cost model, the starting state, the bars and the quotes are valid by their types. -/
def evidenceArtifacts (evidence : DecisionTraceReplayEvidence) : List (String × Raises Unit) :=
  [("forecast", evidence.forecast.validate), ("strategy_decision", evidence.decision.validate)] ++
    evidence.riskEvent.toList.flatMap (fun riskEvent =>
      [("risk_event", riskEvent.validate), ("risk_event.request", riskEvent.request.validate)]) ++
    evidence.gatewayReport.toList.map (fun report => ("gateway_report", report.validate)) ++
    evidence.paperAccountReport.toList.map (fun report =>
      ("paper_account_report", report.validate)) ++
    evidence.paperTcaReport.toList.map (fun report => ("paper_tca_report", report.validate)) ++
    evidence.instrumentMasterSnapshot.toList.map (fun snapshot =>
      ("instrument_master_snapshot", snapshot.validateReferences))

/-- `_validate_contract_artifact`. -/
def validateContractArtifact (label : String) (validation : Raises Unit) :
    Raises (Option DecisionTraceReplayBlocker) :=
  match validation with
  | .ok () => .ok none
  | .error text =>
      some <$> exceptionBlocker .tamperedEvidence
        ("stored " ++ label ++ " artifact failed deterministic validation") text

/-- `_validate_replay_evidence_artifacts`. -/
def validateReplayEvidenceArtifacts (evidence : DecisionTraceReplayEvidence) :
    Raises (List DecisionTraceReplayBlocker) := do
  let found ← (evidenceArtifacts evidence).mapM fun artifact =>
    validateContractArtifact artifact.1 artifact.2
  .ok (found.filterMap id)

/-- The inputs of an order replay that are not stored. -/
def missingOrderInputs (evidence : DecisionTraceReplayEvidence) : List String :=
  (if evidence.orderIntent.isNone then ["order_intent"] else []) ++
    (if evidence.riskEvent.isNone then ["risk_event"] else []) ++
    (if evidence.gatewayReport.isNone then ["gateway_report"] else []) ++
    (if evidence.paperAccountReport.isNone then ["paper_account_report"] else []) ++
    (if evidence.paperTcaReport.isNone then ["paper_tca_report"] else []) ++
    (if evidence.bars.isEmpty then ["bars"] else [])

/-- `_missing_order_input_blockers`. -/
def missingOrderInputBlockers (evidence : DecisionTraceReplayEvidence) :
    Raises (List DecisionTraceReplayBlocker) :=
  if evidence.orderIntent = none ∧ evidence.envelope.orderIntentId = none then .ok []
  else if missingOrderInputs evidence = [] then .ok []
  else do
    let blocker ← DecisionTraceReplayBlocker.make .missingReplayInput
      "order trace evidence is missing required replay inputs"
      (some ("order_intent,risk_event,gateway_report,paper_account_report," ++
        "paper_tca_report,bars"))
      (some (",".intercalate (missingOrderInputs evidence)))
    .ok [blocker]

/-- `_make_envelope_from_evidence`. -/
def makeEnvelopeFromEvidence (evidence : DecisionTraceReplayEvidence) :
    Raises DecisionTraceEnvelope :=
  match evidence.orderIntent with
  | none =>
      makeDecisionTraceEnvelope { forecast := evidence.forecast, decision := evidence.decision }
  | some _ =>
      match evidence.order with
      | none => .error "order trace evidence is missing downstream artifacts"
      | some order =>
          makeDecisionTraceEnvelope (order.toTrace evidence.forecast evidence.decision)

/-- The account-state arguments of `_rebuild_paper_account_report`. -/
def rebuildArguments (original : PaperAccountSessionReport)
    (replayedGatewayReport : ExecutionGatewayReport) : AccountStateArguments :=
  let initialGiven := original.initialAccountState.isSome
  let finalExplicit := replayedGatewayReport.sourceReplayFinalAccountState.isNone &&
    decide (original.finalAccountStateSource = .explicitLinkage)
  let finalState := if finalExplicit then original.finalAccountState else none
  let finalById := finalExplicit && finalState.isNone
  { initialAccountState := original.initialAccountState,
    initialAccountStateId := if initialGiven then none else some original.initialAccountStateId,
    initialAccountStateHash :=
      if initialGiven then none else some original.initialAccountStateHash,
    finalAccountState := finalState,
    finalAccountStateId := if finalById then some original.finalAccountStateId else none,
    finalAccountStateHash := if finalById then some original.finalAccountStateHash else none }

/-- `_rebuild_paper_account_report`. -/
def rebuildPaperAccountReport (original : PaperAccountSessionReport)
    (replayedGatewayReport : ExecutionGatewayReport) : Raises PaperAccountSessionReport :=
  makePaperAccountSessionReport replayedGatewayReport
    (rebuildArguments original replayedGatewayReport)

/-- The TCA report and the envelope over the replayed reports. -/
def rebuildTcaAndEnvelope (evidence : DecisionTraceReplayEvidence) (order : OrderArtifacts)
    (gatewayReport : ExecutionGatewayReport) (paperReport : PaperAccountSessionReport) :
    Raises (PaperTcaReport × DecisionTraceEnvelope) := do
  let tcaReport ← makePaperTcaReport gatewayReport evidence.quotes
  let envelope ← makeDecisionTraceEnvelope
    (OrderArtifacts.toTrace ⟨order.orderIntent, order.riskEvent, gatewayReport, paperReport,
      tcaReport⟩ evidence.forecast evidence.decision)
  .ok (tcaReport, envelope)

/-- The final comparisons. -/
def compareReplayed (evidence : DecisionTraceReplayEvidence) (order : OrderArtifacts)
    (gatewayReport : ExecutionGatewayReport) (paperReport : PaperAccountSessionReport)
    (tcaReport : PaperTcaReport) (envelope : DecisionTraceEnvelope) :
    Raises (List DecisionTraceReplayBlocker) := do
  let gatewayBlockers ← compareGatewayReports order.gatewayReport gatewayReport
  let paperBlockers ← comparePaperReports order.paperAccountReport paperReport
  let tcaBlockers ← compareTcaReports order.paperTcaReport tcaReport
  let envelopeBlockers ← compareEnvelope evidence.envelope envelope .tamperedEvidence
  .ok (gatewayBlockers ++ paperBlockers ++ tcaBlockers ++ envelopeBlockers)

/-- The replay of a stored order through the paper gateway. -/
def replayOrder (evidence : DecisionTraceReplayEvidence) (order : OrderArtifacts)
    (rebuilt : DecisionTraceEnvelope) : Raises ReplayOutcome :=
  match runPaperGatewayReplay (evidence.gatewayInputs order.gatewayReport.runId)
    [order.riskEvent] with
  | .error text => do
      let blocker ← exceptionBlocker .riskGatewayReplayMismatch
        "paper gateway replay failed from stored risk evidence" text
      .ok { status := .failed, storedEnvelope := some evidence.envelope,
            reconstructedEnvelope := some rebuilt, blockers := [blocker] }
  | .ok gatewayReport =>
      match rebuildPaperAccountReport order.paperAccountReport gatewayReport with
      | .error text => do
          let blocker ← exceptionBlocker .paperReplayMismatch
            "paper account report rebuild failed" text
          .ok { status := .failed, storedEnvelope := some evidence.envelope,
                reconstructedEnvelope := some rebuilt,
                replayedGatewayReport := some gatewayReport, blockers := [blocker] }
      | .ok paperReport =>
          match rebuildTcaAndEnvelope evidence order gatewayReport paperReport with
          | .error text => do
              let blocker ← exceptionBlocker .tcaReplayMismatch
                "TCA report or replay envelope rebuild failed" text
              .ok { status := .failed, storedEnvelope := some evidence.envelope,
                    reconstructedEnvelope := some rebuilt,
                    replayedGatewayReport := some gatewayReport,
                    replayedPaperReport := some paperReport, blockers := [blocker] }
          | .ok (tcaReport, envelope) => do
              let blockers ← compareReplayed evidence order gatewayReport paperReport tcaReport
                envelope
              .ok { status := if blockers = [] then .passed else .failed,
                    storedEnvelope := some evidence.envelope,
                    reconstructedEnvelope := some envelope,
                    replayedGatewayReport := some gatewayReport,
                    replayedPaperReport := some paperReport,
                    replayedTcaReport := some tcaReport, blockers := blockers }

/-- The stages from the envelope over the stored artifacts on. -/
def replayEnvelope (evidence : DecisionTraceReplayEvidence) : Raises ReplayOutcome :=
  match makeEnvelopeFromEvidence evidence with
  | .error text => do
      let blocker ← exceptionBlocker .tamperedEvidence
        "stored trace evidence failed envelope reconstruction" text
      .ok { status := .failed, storedEnvelope := some evidence.envelope, blockers := [blocker] }
  | .ok rebuilt => do
      let blockers ← compareEnvelope evidence.envelope rebuilt .tamperedEvidence
      if blockers ≠ [] then
        .ok { status := .failed, storedEnvelope := some evidence.envelope,
              reconstructedEnvelope := some rebuilt, blockers := blockers }
      else
        match evidence.orderIntent with
        | none =>
            .ok { status := .noOrder, storedEnvelope := some evidence.envelope,
                  reconstructedEnvelope := some rebuilt }
        | some _ =>
            match evidence.order with
            | none => .error "order replay input validation failed to require risk/gateway"
            | some order => replayOrder evidence order rebuilt

/-- The stages of `replay_decision_trace_by_id` on one evidence record. -/
def replayEvidence (requestedTraceId : String) (evidence : DecisionTraceReplayEvidence) :
    Raises ReplayOutcome := do
  let traceBlockers ← requestedTraceBlockers requestedTraceId evidence
  if traceBlockers ≠ [] then .ok { status := .failed, blockers := traceBlockers }
  else
    match evidence.envelope.validate with
    | .error text => do
        let blocker ← exceptionBlocker .tamperedEvidence
          "stored trace envelope failed deterministic validation" text
        .ok { status := .failed, blockers := [blocker] }
    | .ok () => do
        let artifactBlockers ← validateReplayEvidenceArtifacts evidence
        if artifactBlockers ≠ [] then
          .ok { status := .failed, storedEnvelope := some evidence.envelope,
                blockers := artifactBlockers }
        else do
          let missingBlockers ← missingOrderInputBlockers evidence
          if missingBlockers ≠ [] then
            .ok { status := .failed, storedEnvelope := some evidence.envelope,
                  blockers := missingBlockers }
          else replayEnvelope evidence

/-- `replay_decision_trace_by_id`. -/
def replayDecisionTraceById (traceId : String) (resolver : DecisionTraceEvidenceResolver) :
    Raises DecisionTraceReplayReport :=
  let requestedTraceId := strip traceId
  if requestedTraceId = "" then do
    let blocker ← DecisionTraceReplayBlocker.make .missingTraceId
      "trace_id is required for decision replay" none none
    failureReport "TRACE:MISSING" blocker
  else
    match resolver requestedTraceId with
    | [] => do
        let blocker ← DecisionTraceReplayBlocker.make .missingTraceId
          "no trace evidence matched requested trace_id" (some requestedTraceId)
          (some "0 matches")
        failureReport requestedTraceId blocker
    | [evidence] => do
        let outcome ← replayEvidence requestedTraceId evidence
        makeReport requestedTraceId evidence outcome
    | found => do
        let blocker ← DecisionTraceReplayBlocker.make .duplicateTraceEvidence
          "multiple trace evidence records matched requested trace_id" (some "1 match")
          (some (toString found.length))
        failureReport requestedTraceId blocker

end Harness

end TaModel.Audit
