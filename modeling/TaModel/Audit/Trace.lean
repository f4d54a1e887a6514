import TaModel.Contracts.Decisions
import TaModel.Contracts.PaperTca

/-!
# Decision trace envelopes

The envelope of `audit/trace.py` links the artifacts of one trace id by their ids and hashes.
`makeDecisionTraceEnvelope` compares the artifacts with each other before it links them: the
forecast with the decision, the order intent with the decision, the risk event with the order, the
gateway event with the risk event, and the paper logs, rows and issues with the gateway event.
-/

set_option autoImplicit false

namespace TaModel.Audit

open Contracts

/-! ## Envelopes -/

/-- `_AUDIT_REQUIREMENTS`. -/
def auditRequirements : List String := ["FR-015", "NFR-004"]

/-- Immutable pre-strategy and model lineage referenced by a decision trace. -/
structure ForecastTraceReference where
  forecastId : String
  datasetSnapshotId : String
  datasetHash : String
  datasetRowId : String
  featureVectorId : String
  featureInputSnapshotId : String
  featureVersion : String
  sourceFeatureSnapshotIds : List String
  trainingRunId : String
  trainingRunHash : String
  modelVersionId : String
  modelVersionHash : String
deriving DecidableEq

instance : ToPayload ForecastTraceReference := ⟨fun r =>
  .record
    [ ("dataset_hash", toPayload r.datasetHash), ("dataset_row_id", toPayload r.datasetRowId),
      ("dataset_snapshot_id", toPayload r.datasetSnapshotId),
      ("feature_input_snapshot_id", toPayload r.featureInputSnapshotId),
      ("feature_vector_id", toPayload r.featureVectorId),
      ("feature_version", toPayload r.featureVersion), ("forecast_id", toPayload r.forecastId),
      ("model_version_hash", toPayload r.modelVersionHash),
      ("model_version_id", toPayload r.modelVersionId),
      ("source_feature_snapshot_ids", toPayload r.sourceFeatureSnapshotIds),
      ("training_run_hash", toPayload r.trainingRunHash),
      ("training_run_id", toPayload r.trainingRunId) ]⟩

/-- Audit bundle that links one trace id to its evidence artifacts. -/
structure DecisionTraceEnvelope where
  traceEnvelopeId : String
  traceEnvelopeHash : String
  traceId : String
  forecast : ForecastTraceReference
  strategyDecisionId : String
  strategyDecisionHash : String
  strategyRunId : String
  policyId : String
  policyHash : String
  noOrderReason : Option String := none
  orderIntentId : Option String := none
  orderIntentHash : Option String := none
  riskRunId : Option String := none
  riskRequestId : Option String := none
  riskRequestHash : Option String := none
  riskCheckId : Option String := none
  riskCheckHash : Option String := none
  riskDecision : Option RiskDecisionStatus := none
  gatewayRunId : Option String := none
  gatewayReportId : Option String := none
  gatewayReportHash : Option String := none
  gatewayEventId : Option String := none
  gatewayEventHash : Option String := none
  gatewayOrderId : Option String := none
  paperRunId : Option String := none
  paperSessionReportId : Option String := none
  paperSessionReportHash : Option String := none
  paperOrderLogIds : List String := []
  paperFillLogIds : List String := []
  paperRejectionLogIds : List String := []
  paperTcaReportId : Option String := none
  paperTcaReportHash : Option String := none
  paperTcaRowIds : List String := []
  paperTcaIssueIds : List String := []
  requirementIds : List String := auditRequirements
deriving DecidableEq

namespace DecisionTraceEnvelope

/-- The fields hashed by `build_decision_trace_envelope_hash`. -/
def identityFields (e : DecisionTraceEnvelope) : List (String × Payload) :=
  [ ("forecast", toPayload e.forecast), ("gateway_event_hash", toPayload e.gatewayEventHash),
    ("gateway_event_id", toPayload e.gatewayEventId),
    ("gateway_order_id", toPayload e.gatewayOrderId),
    ("gateway_report_hash", toPayload e.gatewayReportHash),
    ("gateway_report_id", toPayload e.gatewayReportId),
    ("gateway_run_id", toPayload e.gatewayRunId), ("no_order_reason", toPayload e.noOrderReason),
    ("order_intent_hash", toPayload e.orderIntentHash),
    ("order_intent_id", toPayload e.orderIntentId),
    ("paper_fill_log_ids", toPayload e.paperFillLogIds),
    ("paper_order_log_ids", toPayload e.paperOrderLogIds),
    ("paper_rejection_log_ids", toPayload e.paperRejectionLogIds),
    ("paper_run_id", toPayload e.paperRunId),
    ("paper_session_report_hash", toPayload e.paperSessionReportHash),
    ("paper_session_report_id", toPayload e.paperSessionReportId),
    ("paper_tca_issue_ids", toPayload e.paperTcaIssueIds),
    ("paper_tca_report_hash", toPayload e.paperTcaReportHash),
    ("paper_tca_report_id", toPayload e.paperTcaReportId),
    ("paper_tca_row_ids", toPayload e.paperTcaRowIds), ("policy_hash", toPayload e.policyHash),
    ("policy_id", toPayload e.policyId), ("requirement_ids", toPayload e.requirementIds),
    ("risk_check_hash", toPayload e.riskCheckHash), ("risk_check_id", toPayload e.riskCheckId),
    ("risk_decision", toPayload e.riskDecision),
    ("risk_request_hash", toPayload e.riskRequestHash),
    ("risk_request_id", toPayload e.riskRequestId), ("risk_run_id", toPayload e.riskRunId),
    ("strategy_decision_hash", toPayload e.strategyDecisionHash),
    ("strategy_decision_id", toPayload e.strategyDecisionId),
    ("strategy_run_id", toPayload e.strategyRunId), ("trace_id", toPayload e.traceId) ]

/-- `_validate_ref_pair`. -/
def validateRefPair (artifactId artifactHash : Option String) (label : String) (required : Bool) :
    Raises Unit := do
  require (artifactId = none ↔ artifactHash = none) (label ++ " id/hash must be set together")
  require (required = true → artifactId ≠ none) (label ++ " id/hash are required")

/-- `_validate_order_trace_is_complete`. -/
def validateOrderTraceIsComplete (e : DecisionTraceEnvelope) : Raises Unit := do
  require (e.noOrderReason = none) "order trace envelopes must not set no_order_reason"
  require (e.riskRunId ≠ none ∧ e.gatewayRunId ≠ none ∧ e.paperRunId ≠ none)
    "order trace envelopes require risk, gateway, and paper run IDs"
  require (e.riskDecision ≠ none) "order trace envelopes require a risk decision"
  validateRefPair e.riskRequestId e.riskRequestHash "risk request" true
  validateRefPair e.riskCheckId e.riskCheckHash "risk check" true
  validateRefPair e.gatewayReportId e.gatewayReportHash "gateway report" true
  validateRefPair e.gatewayEventId e.gatewayEventHash "gateway event" true
  validateRefPair e.paperSessionReportId e.paperSessionReportHash "paper session report" true
  validateRefPair e.paperTcaReportId e.paperTcaReportHash "TCA report" true
  require (e.paperOrderLogIds ≠ []) "order trace envelopes require at least one paper order log"

/-- No artifact after the decision is linked. -/
def HasNoDownstreamArtifacts (e : DecisionTraceEnvelope) : Prop :=
  e.riskRunId = none ∧ e.riskRequestId = none ∧ e.riskRequestHash = none ∧ e.riskCheckId = none ∧
    e.riskCheckHash = none ∧ e.riskDecision = none ∧ e.gatewayRunId = none ∧
    e.gatewayReportId = none ∧ e.gatewayReportHash = none ∧ e.gatewayEventId = none ∧
    e.gatewayEventHash = none ∧ e.gatewayOrderId = none ∧ e.paperRunId = none ∧
    e.paperSessionReportId = none ∧ e.paperSessionReportHash = none ∧
    e.paperTcaReportId = none ∧ e.paperTcaReportHash = none

instance (e : DecisionTraceEnvelope) : Decidable e.HasNoDownstreamArtifacts := by
  simp only [HasNoDownstreamArtifacts]
  infer_instance

/-- `_validate_no_order_trace_has_no_downstream_artifacts`. -/
def validateNoOrderTrace (e : DecisionTraceEnvelope) : Raises Unit := do
  require (e.noOrderReason ≠ none) "no-order trace envelopes require no_order_reason"
  require e.HasNoDownstreamArtifacts
    "no-order trace envelopes must not carry downstream order artifacts"
  require (e.paperOrderLogIds = [] ∧ e.paperFillLogIds = [] ∧ e.paperRejectionLogIds = [] ∧
      e.paperTcaRowIds = [] ∧ e.paperTcaIssueIds = [])
    "no-order trace envelopes must not carry paper log/TCA IDs"

/-- An id and its hash are both there. -/
def BothSet (artifactId artifactHash : Option String) : Prop :=
  artifactId ≠ none ∧ artifactHash ≠ none

theorem validateRefPair_required_iff (artifactId artifactHash : Option String) (label : String) :
    validateRefPair artifactId artifactHash label true = .ok () ↔
      BothSet artifactId artifactHash := by
  simp only [validateRefPair, check_bind_eq_ok_iff, require_eq_ok_iff, BothSet]
  constructor
  · rintro ⟨hpair, hset⟩
    exact ⟨hset trivial, fun hnone => hset trivial (hpair.mpr hnone)⟩
  · rintro ⟨hid, hhash⟩
    exact ⟨⟨fun h => absurd h hid, fun h => absurd h hhash⟩, fun _ => hid⟩

theorem validateOrderTraceIsComplete_eq_ok_iff (e : DecisionTraceEnvelope) :
    e.validateOrderTraceIsComplete = .ok () ↔
      e.noOrderReason = none ∧
      (e.riskRunId ≠ none ∧ e.gatewayRunId ≠ none ∧ e.paperRunId ≠ none) ∧
      e.riskDecision ≠ none ∧ BothSet e.riskRequestId e.riskRequestHash ∧
      BothSet e.riskCheckId e.riskCheckHash ∧ BothSet e.gatewayReportId e.gatewayReportHash ∧
      BothSet e.gatewayEventId e.gatewayEventHash ∧
      BothSet e.paperSessionReportId e.paperSessionReportHash ∧
      BothSet e.paperTcaReportId e.paperTcaReportHash ∧ e.paperOrderLogIds ≠ [] := by
  simp only [validateOrderTraceIsComplete, check_bind_eq_ok_iff, require_eq_ok_iff,
    validateRefPair_required_iff]

theorem validateNoOrderTrace_eq_ok_iff (e : DecisionTraceEnvelope) :
    e.validateNoOrderTrace = .ok () ↔
      e.noOrderReason ≠ none ∧ e.HasNoDownstreamArtifacts ∧ e.paperOrderLogIds = [] ∧
      e.paperFillLogIds = [] ∧ e.paperRejectionLogIds = [] ∧ e.paperTcaRowIds = [] ∧
      e.paperTcaIssueIds = [] := by
  simp only [validateNoOrderTrace, check_bind_eq_ok_iff, require_eq_ok_iff]

/-- The part of the validators that looks at neither the hash nor the id of the envelope. -/
def validateFields (e : DecisionTraceEnvelope) : Raises Unit := do
  validateRefPair e.orderIntentId e.orderIntentHash "order intent" false
  if e.orderIntentId ≠ none then e.validateOrderTraceIsComplete else e.validateNoOrderTrace
  require (∀ gatewayRunId ∈ e.gatewayRunId, ∀ paperRunId ∈ e.paperRunId,
      gatewayRunId = paperRunId)
    "paper_run_id must match gateway_run_id"

theorem validateFields_eq_ok_iff (e : DecisionTraceEnvelope) :
    e.validateFields = .ok () ↔
      (e.orderIntentId = none ↔ e.orderIntentHash = none) ∧
      (e.orderIntentId ≠ none → e.validateOrderTraceIsComplete = .ok ()) ∧
      (e.orderIntentId = none → e.validateNoOrderTrace = .ok ()) ∧
      ∀ gatewayRunId ∈ e.gatewayRunId, ∀ paperRunId ∈ e.paperRunId,
        gatewayRunId = paperRunId := by
  simp only [validateFields, validateRefPair, check_bind_eq_ok_iff, require_eq_ok_iff]
  cases horder : e.orderIntentId with
  | none => simp [check_bind_eq_ok_iff]
  | some orderIntentId => simp [check_bind_eq_ok_iff]

section Identity

variable [Sha256]

/-- `build_decision_trace_envelope_hash`. -/
def buildHash (e : DecisionTraceEnvelope) : String := Contracts.hash (.record e.identityFields)

/-- `build_decision_trace_envelope_id`. -/
def buildId (traceEnvelopeHash : String) : String :=
  stableIdOfHash "AUDITTRACE" "trace_envelope_hash" traceEnvelopeHash

/-- Where an envelope stores its hash and id. -/
def stamping : Library.Stamping DecisionTraceEnvelope String String where
  checkFields := validateFields
  storedHash := traceEnvelopeHash
  storedId := traceEnvelopeId
  contentHash := buildHash
  idOfHash := buildId
  stamp e newHash newId := { e with traceEnvelopeHash := newHash, traceEnvelopeId := newId }
  hashError := "trace_envelope_hash is not deterministic"
  idError := "trace_envelope_id is not deterministic"
  storedHash_stamp _ _ _ := rfl
  storedId_stamp _ _ _ := rfl
  contentHash_stamp _ _ _ := rfl
  checkFields_stamp _ _ _ := rfl

/-- The validators `DecisionTraceEnvelope(...)` runs. -/
def validate (e : DecisionTraceEnvelope) : Raises Unit := stamping.validate e

end Identity

end DecisionTraceEnvelope

/-! ## Comparisons -/

/-- A loop that raises on the first comparison that fails. -/
def raiseOnMismatches (message : String → String) (checks : List (String × Bool)) : Raises Unit :=
  checks.forM fun check => require (check.2 = true) (message check.1)

theorem raiseOnMismatches_eq_ok_iff (message : String → String) (checks : List (String × Bool)) :
    raiseOnMismatches message checks = .ok () ↔ ∀ check ∈ checks, check.2 = true := by
  simp only [raiseOnMismatches, forM_eq_ok_iff, require_eq_ok_iff]

/-- `==` of two order intents: timestamps are compared by their instant. -/
def sameOrderIntent (a b : OrderIntent) : Bool :=
  decide (a.clientOrderId = b.clientOrderId) && decide (a.traceId = b.traceId) &&
    decide (a.sourceDecisionId = b.sourceDecisionId) &&
    decide (a.instrumentId = b.instrumentId) && decide (a.venueId = b.venueId) &&
    decide (a.side = b.side) && decide (a.orderType = b.orderType) &&
    decide (a.quantity = b.quantity) && a.submittedAt.sameInstant b.submittedAt &&
    decide (a.limitPrice = b.limitPrice)

/-- `_validate_forecast_decision_lineage`. -/
def validateForecastDecisionLineage (forecast : Forecast) (decision : StrategyDecision) :
    Raises Unit :=
  raiseOnMismatches
    (fun label => "forecast " ++ label ++ " must match strategy decision lineage")
    [ ("forecast_id", decide (forecast.forecastId = decision.sourceForecastId)),
      ("dataset_snapshot_id", decide (forecast.datasetSnapshotId = decision.datasetSnapshotId)),
      ("dataset_row_id", decide (forecast.datasetRowId = decision.datasetRowId)),
      ("feature_vector_id", decide (forecast.featureVectorId = decision.featureVectorId)),
      ("feature_input_snapshot_id",
        decide (forecast.featureInputSnapshotId = decision.featureInputSnapshotId)),
      ("feature_version", decide (forecast.featureVersion = decision.featureVersion)),
      ("source_feature_snapshot_ids",
        decide (forecast.sourceFeatureSnapshotIds = decision.sourceFeatureSnapshotIds)),
      ("instrument_id", decide (forecast.instrumentId = decision.instrumentId)),
      ("venue_id", decide (forecast.venueId = decision.venueId)),
      ("feature_ts", forecast.featureTs.sameInstant decision.featureTs),
      ("label_rule_id", decide (forecast.labelRuleId = decision.labelRuleId)),
      ("split", decide (forecast.split = decision.split)),
      ("training_run_id", decide (forecast.trainingRunId = decision.trainingRunId)),
      ("model_version_id", decide (forecast.modelVersionId = decision.modelVersionId)),
      ("model_version_hash", decide (forecast.modelVersionHash = decision.modelVersionHash)) ]

section OrderIntents

variable [Sha256]

/-- `build_order_intent_client_order_id`. -/
def buildOrderIntentClientOrderId (decision : StrategyDecision) (submittedAt : AwareDatetime)
    (orderType : Contracts.OrderType) (limitPrice : Option PositiveDecimal) : String :=
  stableId "ORDERINTENT" (.record
    [ ("decision_hash", toPayload decision.decisionHash),
      ("decision_id", toPayload decision.decisionId),
      ("instrument_id", toPayload decision.instrumentId), ("limit_price", toPayload limitPrice),
      ("order_type", toPayload orderType),
      ("proposed_quantity", toPayload decision.sizing.proposedQuantity),
      ("submitted_at", toPayload submittedAt), ("trace_id", toPayload decision.traceId),
      ("venue_id", toPayload decision.venueId) ])

/-- `_validate_order_intent_matches_decision`. -/
def validateOrderIntentMatchesDecision (orderIntent : OrderIntent) (decision : StrategyDecision) :
    Raises Unit := do
  require (orderIntent.traceId = decision.traceId)
    "order intent trace_id must match strategy decision trace_id"
  require (orderIntent.sourceDecisionId = decision.decisionId)
    "order intent source_decision_id must match strategy decision_id"
  require (orderIntent.instrumentId = decision.instrumentId)
    "order intent instrument_id must match strategy decision"
  require (orderIntent.venueId = decision.venueId)
    "order intent venue_id must match strategy decision"
  require (orderIntent.side = .buy) "MVP strategy order intents must be BUY only"
  require (orderIntent.quantity.val = decision.sizing.proposedQuantity.val)
    "order intent quantity must match proposed pre-risk quantity"
  require (decision.decisionTs ≤ orderIntent.submittedAt)
    "order intent submitted_at must not precede decision_ts"
  require (orderIntent.clientOrderId = buildOrderIntentClientOrderId decision
      orderIntent.submittedAt orderIntent.orderType orderIntent.limitPrice)
    "order intent client_order_id is not deterministic"

end OrderIntents

/-- The checks of `_validate_risk_event_matches_order` on an approved intent. -/
def validateApprovedIntent (approved orderIntent : OrderIntent) (decision : StrategyDecision) :
    Raises Unit := do
  require (approved.traceId = decision.traceId)
    "approved risk intent trace_id must match strategy decision"
  require (approved.sourceDecisionId = decision.decisionId)
    "approved risk intent source_decision_id must match decision"
  raiseOnMismatches (fun label => label ++ " must match audited order intent")
    [ ("approved risk intent client_order_id",
        decide (approved.clientOrderId = orderIntent.clientOrderId)),
      ("approved risk intent instrument_id",
        decide (approved.instrumentId = orderIntent.instrumentId)),
      ("approved risk intent venue_id", decide (approved.venueId = orderIntent.venueId)),
      ("approved risk intent side", decide (approved.side = orderIntent.side)),
      ("approved risk intent order_type", decide (approved.orderType = orderIntent.orderType)),
      ("approved risk intent submitted_at",
        approved.submittedAt.sameInstant orderIntent.submittedAt) ]

/-- `_validate_risk_event_matches_order`. -/
def validateRiskEventMatchesOrder (riskEvent : RiskCheckEvent) (orderIntent : OrderIntent)
    (decision : StrategyDecision) : Raises Unit := do
  require (riskEvent.request.traceId = decision.traceId)
    "risk event trace_id must match strategy decision trace_id"
  require (riskEvent.request.sourceDecisionId = decision.decisionId)
    "risk event source_decision_id must match strategy decision_id"
  require (sameOrderIntent riskEvent.request.orderIntent orderIntent = true)
    "risk event request must embed the audited order intent"
  riskEvent.approvedOrderIntent.toList.forM fun approved =>
    validateApprovedIntent approved orderIntent decision

/-! ## The gateway event -/

/-- An event of a gateway report is the one of a risk event and a decision. -/
def isTraceEvent (riskEvent : RiskCheckEvent) (decision : StrategyDecision)
    (event : ExecutionGatewayLifecycleEvent) : Bool :=
  decide (event.riskCheckId = riskEvent.riskCheckId) &&
    decide (event.riskCheckHash = riskEvent.riskCheckHash) &&
    decide (event.traceId = decision.traceId) &&
    decide (event.sourceDecisionId = decision.decisionId)

/-- `_matching_gateway_event`. -/
def matchingGatewayEvent (gatewayReport : ExecutionGatewayReport) (riskEvent : RiskCheckEvent)
    (decision : StrategyDecision) : Raises ExecutionGatewayLifecycleEvent :=
  match gatewayReport.events.filter (isTraceEvent riskEvent decision) with
  | [event] => .ok event
  | _ => .error "gateway report must contain exactly one matching trace event"

/-- The intent that the gateway acts on: the approved one, or the requested one. -/
def expectedGatewayIntent (riskEvent : RiskCheckEvent) : OrderIntent :=
  riskEvent.approvedOrderIntent.getD riskEvent.request.orderIntent

/-- `_validate_gateway_event_matches_risk_order`. -/
def validateGatewayEventMatchesRiskOrder (gatewayEvent : ExecutionGatewayLifecycleEvent)
    (riskEvent : RiskCheckEvent) (orderIntent : OrderIntent) : Raises Unit :=
  let expected := expectedGatewayIntent riskEvent
  raiseOnMismatches (fun label => label ++ " must match audited risk/order evidence")
    [ ("gateway client_order_id", decide (gatewayEvent.clientOrderId = expected.clientOrderId)),
      ("gateway instrument_id", decide (gatewayEvent.instrumentId = expected.instrumentId)),
      ("gateway venue_id", decide (gatewayEvent.venueId = expected.venueId)),
      ("gateway side", decide (gatewayEvent.side = expected.side)),
      ("gateway order_type", decide (gatewayEvent.orderType = expected.orderType)),
      ("gateway submitted_at", gatewayEvent.submittedAt.sameInstant expected.submittedAt),
      ("gateway requested_quantity",
        decide (gatewayEvent.requestedQuantity = riskEvent.request.orderIntent.quantity)),
      ("gateway requested_quantity",
        decide (gatewayEvent.requestedQuantity = orderIntent.quantity)),
      ("gateway quantity", decide (gatewayEvent.gatewayQuantity = expected.quantity)),
      ("gateway risk_decision", decide (gatewayEvent.riskDecision = riskEvent.finalDecision)),
      ("gateway risk_reason_codes",
        decide (gatewayEvent.riskReasonCodes = riskEvent.reasonCodes)) ]

/-! ## Paper evidence of a gateway event -/

/-- The message of `_raise_on_mismatches`. -/
def gatewayEventMismatch (label : String) : String := label ++ " must match gateway event"

/-- `_validate_paper_order_log_matches_gateway`. -/
def validatePaperOrderLogMatchesGateway (event : ExecutionGatewayLifecycleEvent)
    (entry : PaperOrderLifecycleLogEntry) : Raises Unit :=
  raiseOnMismatches gatewayEventMismatch
    [ ("paper order log run_id", decide (entry.runId = event.runId)),
      ("paper order log gateway_order_id", decide (entry.gatewayOrderId = event.gatewayOrderId)),
      ("paper order log risk_check_id", decide (entry.riskCheckId = event.riskCheckId)),
      ("paper order log risk_check_hash", decide (entry.riskCheckHash = event.riskCheckHash)),
      ("paper order log risk_decision", decide (entry.riskDecision = event.riskDecision)),
      ("paper order log risk_reason_codes",
        decide (entry.riskReasonCodes = event.riskReasonCodes)),
      ("paper order log client_order_id", decide (entry.clientOrderId = event.clientOrderId)),
      ("paper order log trace_id", decide (entry.traceId = event.traceId)),
      ("paper order log source_decision_id",
        decide (entry.sourceDecisionId = event.sourceDecisionId)),
      ("paper order log instrument_id", decide (entry.instrumentId = event.instrumentId)),
      ("paper order log venue_id", decide (entry.venueId = event.venueId)),
      ("paper order log side", decide (entry.side = event.side)),
      ("paper order log order_type", decide (entry.orderType = event.orderType)),
      ("paper order log requested_quantity",
        decide (entry.requestedQuantity = event.requestedQuantity)),
      ("paper order log gateway_quantity",
        decide (entry.gatewayQuantity = event.gatewayQuantity)),
      ("paper order log submitted_at", entry.submittedAt.sameInstant event.submittedAt),
      ("paper order log status", decide (entry.status = event.status)),
      ("paper order log replay_status", decide (entry.replayStatus = event.replayStatus)),
      ("paper order log replay_reject_reason",
        decide (entry.replayRejectReason = event.replayRejectReason)) ]

/-- `_validate_paper_fill_log_matches_gateway`. -/
def validatePaperFillLogMatchesGateway (event : ExecutionGatewayLifecycleEvent)
    (entry : PaperFillLogEntry) : Raises Unit :=
  raiseOnMismatches gatewayEventMismatch
    [ ("paper fill log run_id", decide (entry.runId = event.runId)),
      ("paper fill log gateway_order_id",
        decide (some entry.gatewayOrderId = event.gatewayOrderId)),
      ("paper fill log risk_check_id", decide (entry.riskCheckId = event.riskCheckId)),
      ("paper fill log risk_check_hash", decide (entry.riskCheckHash = event.riskCheckHash)),
      ("paper fill log client_order_id", decide (entry.clientOrderId = event.clientOrderId)),
      ("paper fill log trace_id", decide (entry.traceId = event.traceId)),
      ("paper fill log source_decision_id",
        decide (entry.sourceDecisionId = event.sourceDecisionId)),
      ("paper fill log instrument_id", decide (entry.instrumentId = event.instrumentId)),
      ("paper fill log venue_id", decide (entry.venueId = event.venueId)),
      ("paper fill log side", decide (entry.side = event.side)),
      ("paper fill log order_type", decide (entry.orderType = event.orderType)),
      ("paper fill log status", decide (entry.status = event.status)),
      ("paper fill log replay_order_result_id",
        decide (some entry.replayOrderResultId = event.replayOrderResultId)) ]

/-- `_validate_paper_rejection_log_matches_gateway`. -/
def validatePaperRejectionLogMatchesGateway (event : ExecutionGatewayLifecycleEvent)
    (entry : PaperRejectionLogEntry) : Raises Unit :=
  raiseOnMismatches gatewayEventMismatch
    [ ("paper rejection log run_id", decide (entry.runId = event.runId)),
      ("paper rejection log gateway_order_id",
        decide (entry.gatewayOrderId = event.gatewayOrderId)),
      ("paper rejection log risk_check_id", decide (entry.riskCheckId = event.riskCheckId)),
      ("paper rejection log risk_check_hash",
        decide (entry.riskCheckHash = event.riskCheckHash)),
      ("paper rejection log risk_decision", decide (entry.riskDecision = event.riskDecision)),
      ("paper rejection log risk_reason_codes",
        decide (entry.riskReasonCodes = event.riskReasonCodes)),
      ("paper rejection log replay_reject_reason",
        decide (entry.replayRejectReason = event.replayRejectReason)),
      ("paper rejection log client_order_id",
        decide (entry.clientOrderId = event.clientOrderId)),
      ("paper rejection log trace_id", decide (entry.traceId = event.traceId)),
      ("paper rejection log source_decision_id",
        decide (entry.sourceDecisionId = event.sourceDecisionId)),
      ("paper rejection log instrument_id", decide (entry.instrumentId = event.instrumentId)),
      ("paper rejection log venue_id", decide (entry.venueId = event.venueId)),
      ("paper rejection log side", decide (entry.side = event.side)),
      ("paper rejection log order_type", decide (entry.orderType = event.orderType)),
      ("paper rejection log requested_quantity",
        decide (entry.requestedQuantity = event.requestedQuantity)),
      ("paper rejection log gateway_quantity",
        decide (entry.gatewayQuantity = event.gatewayQuantity)),
      ("paper rejection log submitted_at", entry.submittedAt.sameInstant event.submittedAt),
      ("paper rejection log status", decide (entry.status = event.status)) ]

/-- `_validate_paper_tca_row_matches_gateway`. -/
def validatePaperTcaRowMatchesGateway (event : ExecutionGatewayLifecycleEvent)
    (row : PaperTcaRow) : Raises Unit :=
  raiseOnMismatches gatewayEventMismatch
    [ ("paper TCA row run_id", decide (row.runId = event.runId)),
      ("paper TCA row gateway_order_id",
        decide (some row.gatewayOrderId = event.gatewayOrderId)),
      ("paper TCA row risk_check_id", decide (row.riskCheckId = event.riskCheckId)),
      ("paper TCA row risk_check_hash", decide (row.riskCheckHash = event.riskCheckHash)),
      ("paper TCA row client_order_id", decide (row.clientOrderId = event.clientOrderId)),
      ("paper TCA row trace_id", decide (row.traceId = event.traceId)),
      ("paper TCA row source_decision_id",
        decide (row.sourceDecisionId = event.sourceDecisionId)),
      ("paper TCA row instrument_id", decide (row.instrumentId = event.instrumentId)),
      ("paper TCA row venue_id", decide (row.venueId = event.venueId)),
      ("paper TCA row side", decide (row.side = event.side)),
      ("paper TCA row status", decide (row.status = event.status)),
      ("paper TCA row submitted_at", row.submittedAt.sameInstant event.submittedAt) ]

/-- `_validate_paper_tca_issue_matches_gateway`. -/
def validatePaperTcaIssueMatchesGateway (event : ExecutionGatewayLifecycleEvent)
    (issue : PaperTcaIssue) : Raises Unit :=
  raiseOnMismatches gatewayEventMismatch
    [ ("paper TCA issue run_id", decide (issue.runId = event.runId)),
      ("paper TCA issue risk_check_id", decide (issue.riskCheckId = event.riskCheckId)),
      ("paper TCA issue client_order_id", decide (issue.clientOrderId = event.clientOrderId)),
      ("paper TCA issue trace_id", decide (issue.traceId = event.traceId)),
      ("paper TCA issue instrument_id", decide (issue.instrumentId = event.instrumentId)),
      ("paper TCA issue venue_id", decide (issue.venueId = event.venueId)),
      ("paper TCA issue status", decide (issue.status = event.status)) ]

/-- A log, a row or an issue cites a gateway event by id, hash and trace. -/
def citesEvent (event : ExecutionGatewayLifecycleEvent)
    (gatewayEventId gatewayEventHash traceId : String) : Bool :=
  decide (gatewayEventId = event.gatewayEventId) &&
    decide (gatewayEventHash = event.gatewayEventHash) && decide (traceId = event.traceId)

/-- A log or a row cites a gateway event and its decision. -/
def citesEventAndDecision (event : ExecutionGatewayLifecycleEvent)
    (gatewayEventId gatewayEventHash traceId sourceDecisionId : String) : Bool :=
  citesEvent event gatewayEventId gatewayEventHash traceId &&
    decide (sourceDecisionId = event.sourceDecisionId)

/-- The order logs of a session report that cite an event. -/
def linkedOrderLogs (event : ExecutionGatewayLifecycleEvent)
    (report : PaperAccountSessionReport) : List PaperOrderLifecycleLogEntry :=
  report.orderLogs.filter fun entry => citesEventAndDecision event entry.gatewayEventId
    entry.gatewayEventHash entry.traceId entry.sourceDecisionId

/-- The fill logs of a session report that cite an event. -/
def linkedFillLogs (event : ExecutionGatewayLifecycleEvent)
    (report : PaperAccountSessionReport) : List PaperFillLogEntry :=
  report.fillLogs.filter fun entry => citesEventAndDecision event entry.gatewayEventId
    entry.gatewayEventHash entry.traceId entry.sourceDecisionId

/-- The rejection logs of a session report that cite an event. -/
def linkedRejectionLogs (event : ExecutionGatewayLifecycleEvent)
    (report : PaperAccountSessionReport) : List PaperRejectionLogEntry :=
  report.rejectionLogs.filter fun entry => citesEventAndDecision event entry.gatewayEventId
    entry.gatewayEventHash entry.traceId entry.sourceDecisionId

/-- The rows of a TCA report that cite an event. -/
def linkedRows (event : ExecutionGatewayLifecycleEvent) (report : PaperTcaReport) :
    List PaperTcaRow :=
  report.rows.filter fun row => citesEventAndDecision event row.gatewayEventId
    row.gatewayEventHash row.traceId row.sourceDecisionId

/-- The issues of a TCA report that cite an event. -/
def linkedIssues (event : ExecutionGatewayLifecycleEvent) (report : PaperTcaReport) :
    List PaperTcaIssue :=
  report.issues.filter fun issue =>
    citesEvent event issue.gatewayEventId issue.gatewayEventHash issue.traceId

/-- The ids of the paper logs linked to an event. -/
structure PaperLogIds where
  orderLogIds : List String
  fillLogIds : List String
  rejectionLogIds : List String

/-- `_paper_account_ids_for_event`. -/
def paperAccountIdsForEvent (paperAccountReport : PaperAccountSessionReport)
    (gatewayReport : ExecutionGatewayReport) (event : ExecutionGatewayLifecycleEvent) :
    Raises PaperLogIds := do
  require (paperAccountReport.gatewayReportId = gatewayReport.gatewayReportId)
    "paper account report gateway_report_id must match gateway report"
  require (paperAccountReport.gatewayReportHash = gatewayReport.gatewayReportHash)
    "paper account report gateway_report_hash must match gateway report"
  let orderLogs := linkedOrderLogs event paperAccountReport
  let fillLogs := linkedFillLogs event paperAccountReport
  let rejectionLogs := linkedRejectionLogs event paperAccountReport
  require (orderLogs.length = 1) "paper account report must contain one matching order log"
  require (event.status.isFilled = true → fillLogs ≠ [])
    "filled paper trace requires a matching fill log"
  require (event.status.isFilled = false → rejectionLogs ≠ [])
    "blocked/rejected paper trace requires a matching rejection log"
  orderLogs.forM (validatePaperOrderLogMatchesGateway event)
  fillLogs.forM (validatePaperFillLogMatchesGateway event)
  rejectionLogs.forM (validatePaperRejectionLogMatchesGateway event)
  .ok { orderLogIds := orderLogs.map PaperOrderLifecycleLogEntry.orderLogId,
        fillLogIds := fillLogs.map PaperFillLogEntry.fillLogId,
        rejectionLogIds := rejectionLogs.map PaperRejectionLogEntry.rejectionLogId }

/-- The ids of the TCA rows and issues linked to an event. -/
structure PaperTcaIds where
  rowIds : List String
  issueIds : List String

/-- `_paper_tca_ids_for_event`. -/
def paperTcaIdsForEvent (paperTcaReport : PaperTcaReport) (gatewayReport : ExecutionGatewayReport)
    (event : ExecutionGatewayLifecycleEvent) : Raises PaperTcaIds := do
  require (paperTcaReport.gatewayReportId = gatewayReport.gatewayReportId)
    "paper TCA report gateway_report_id must match gateway report"
  require (paperTcaReport.gatewayReportHash = gatewayReport.gatewayReportHash)
    "paper TCA report gateway_report_hash must match gateway report"
  let rows := linkedRows event paperTcaReport
  let issues := linkedIssues event paperTcaReport
  require (event.status.isFilled = true → rows ≠ [])
    "filled paper trace requires a matching TCA row"
  require (event.status.isFilled = false → issues ≠ [])
    "blocked/rejected paper trace requires a matching TCA issue"
  rows.forM (validatePaperTcaRowMatchesGateway event)
  issues.forM (validatePaperTcaIssueMatchesGateway event)
  .ok { rowIds := rows.map PaperTcaRow.tcaRowId, issueIds := issues.map PaperTcaIssue.issueId }

/-! ## The builder -/

/-- `_forecast_reference_from_forecast`. -/
def forecastReference (forecast : Forecast) : ForecastTraceReference where
  forecastId := forecast.forecastId
  datasetSnapshotId := forecast.datasetSnapshotId
  datasetHash := forecast.datasetHash
  datasetRowId := forecast.datasetRowId
  featureVectorId := forecast.featureVectorId
  featureInputSnapshotId := forecast.featureInputSnapshotId
  featureVersion := forecast.featureVersion
  sourceFeatureSnapshotIds := forecast.sourceFeatureSnapshotIds
  trainingRunId := forecast.trainingRunId
  trainingRunHash := forecast.trainingRunHash
  modelVersionId := forecast.modelVersionId
  modelVersionHash := forecast.modelVersionHash

/-- `_no_order_reason`. -/
def noOrderReason (decision : StrategyDecision) : Option String :=
  if decision.action = .noTrade then
    some ("strategy_no_trade:" ++ decision.reasonCode.value)
  else if decision.sizing.proposedNotional.val = 0 ∨ decision.sizing.proposedQuantity.val = 0 then
    some ("zero_pre_risk_size:" ++ decision.sizing.sizingStatus.value)
  else none

/-- The draft of `_build_trace_envelope` without an order. -/
def noOrderDraft (forecast : Forecast) (decision : StrategyDecision) (reason : Option String) :
    DecisionTraceEnvelope where
  traceEnvelopeId := "AUDITTRACE:PLACEHOLDER"
  traceEnvelopeHash := ""
  traceId := decision.traceId
  forecast := forecastReference forecast
  strategyDecisionId := decision.decisionId
  strategyDecisionHash := decision.decisionHash
  strategyRunId := decision.strategyRunId
  policyId := decision.policyId
  policyHash := decision.policyHash
  noOrderReason := reason

/-- The artifacts of a trace with an order. -/
structure OrderArtifacts where
  orderIntent : OrderIntent
  riskEvent : RiskCheckEvent
  gatewayReport : ExecutionGatewayReport
  paperAccountReport : PaperAccountSessionReport
  paperTcaReport : PaperTcaReport

section Builder

variable [Sha256]

/-- The draft of `_build_trace_envelope` with an order. -/
def orderDraft (forecast : Forecast) (decision : StrategyDecision) (order : OrderArtifacts)
    (event : ExecutionGatewayLifecycleEvent) (logIds : PaperLogIds) (tcaIds : PaperTcaIds) :
    DecisionTraceEnvelope :=
  { noOrderDraft forecast decision none with
    orderIntentId := some order.orderIntent.clientOrderId,
    orderIntentHash := some (buildOrderIntentHash order.orderIntent),
    riskRunId := some order.riskEvent.request.runId,
    riskRequestId := some order.riskEvent.request.requestId,
    riskRequestHash := some order.riskEvent.request.requestHash,
    riskCheckId := some order.riskEvent.riskCheckId,
    riskCheckHash := some order.riskEvent.riskCheckHash,
    riskDecision := some order.riskEvent.finalDecision,
    gatewayRunId := some order.gatewayReport.runId,
    gatewayReportId := some order.gatewayReport.gatewayReportId,
    gatewayReportHash := some order.gatewayReport.gatewayReportHash,
    gatewayEventId := some event.gatewayEventId,
    gatewayEventHash := some event.gatewayEventHash,
    gatewayOrderId := event.gatewayOrderId,
    paperRunId := some order.paperAccountReport.runId,
    paperSessionReportId := some order.paperAccountReport.sessionReportId,
    paperSessionReportHash := some order.paperAccountReport.sessionReportHash,
    paperOrderLogIds := logIds.orderLogIds,
    paperFillLogIds := logIds.fillLogIds,
    paperRejectionLogIds := logIds.rejectionLogIds,
    paperTcaReportId := some order.paperTcaReport.tcaReportId,
    paperTcaReportHash := some order.paperTcaReport.tcaReportHash,
    paperTcaRowIds := tcaIds.rowIds,
    paperTcaIssueIds := tcaIds.issueIds }

/-- The part of `make_decision_trace_envelope` after its checks for missing artifacts. -/
def makeOrderEnvelope (forecast : Forecast) (decision : StrategyDecision) (order : OrderArtifacts) :
    Raises DecisionTraceEnvelope := do
  validateOrderIntentMatchesDecision order.orderIntent decision
  validateRiskEventMatchesOrder order.riskEvent order.orderIntent decision
  let event ← matchingGatewayEvent order.gatewayReport order.riskEvent decision
  validateGatewayEventMatchesRiskOrder event order.riskEvent order.orderIntent
  let logIds ← paperAccountIdsForEvent order.paperAccountReport order.gatewayReport event
  let tcaIds ← paperTcaIdsForEvent order.paperTcaReport order.gatewayReport event
  DecisionTraceEnvelope.stamping.construct
    (orderDraft forecast decision order event logIds tcaIds)

/-- What `make_decision_trace_envelope` takes. -/
structure TraceArtifacts where
  forecast : Forecast
  decision : StrategyDecision
  orderIntent : Option OrderIntent := none
  riskEvent : Option RiskCheckEvent := none
  gatewayReport : Option ExecutionGatewayReport := none
  paperAccountReport : Option PaperAccountSessionReport := none
  paperTcaReport : Option PaperTcaReport := none

/-- An artifact after the decision is there. -/
def TraceArtifacts.hasDownstream (a : TraceArtifacts) : Bool :=
  a.riskEvent.isSome || a.gatewayReport.isSome || a.paperAccountReport.isSome ||
    a.paperTcaReport.isSome

/-- `make_decision_trace_envelope`. -/
def makeDecisionTraceEnvelope (a : TraceArtifacts) : Raises DecisionTraceEnvelope := do
  validateForecastDecisionLineage a.forecast a.decision
  match a.orderIntent with
  | none => do
      require (a.hasDownstream = false)
        "no-order trace envelopes cannot include downstream artifacts"
      require (noOrderReason a.decision ≠ none)
        "no-order trace envelopes require no-trade or zero-size decision"
      DecisionTraceEnvelope.stamping.construct
        (noOrderDraft a.forecast a.decision (noOrderReason a.decision))
  | some orderIntent =>
      match a.riskEvent, a.gatewayReport with
      | some riskEvent, some gatewayReport =>
          match a.paperAccountReport, a.paperTcaReport with
          | some paperAccountReport, some paperTcaReport =>
              makeOrderEnvelope a.forecast a.decision
                ⟨orderIntent, riskEvent, gatewayReport, paperAccountReport, paperTcaReport⟩
          | _, _ => .error "order trace envelopes require paper account and TCA evidence"
      | _, _ => .error "order trace envelopes require risk and gateway evidence"

end Builder

end TaModel.Audit
