import TaModel.Audit.Replay
import TaModel.Library.Occurrences

/-!
# Reports of the audit gate

The contracts of `audit/gate.py`: the policies and the configuration of a gate run, its manifest,
the sample results, and the validation report. A sample must carry the evidence that its replay
status asks for (`sampleReplayEvidenceError`); the report repeats the counts, the status and, when
it passes, the trace-id policy.
-/

set_option autoImplicit false

namespace TaModel.Audit

open Contracts

/-! ## Configuration -/

/-- `_AUDIT_GATE_REQUIREMENTS`. -/
def auditGateRequirements : List String := ["FR-015", "NFR-004", "NFR-005"]

/-- Supported audit sample selection methods for the MVP gate. -/
inductive AuditGateSampleMethod where
  | explicitTraceIds
deriving DecidableEq

/-- Supported replay comparison tolerance policies. -/
inductive AuditGateToleranceMode where
  | exact
deriving DecidableEq

instance : ToPayload AuditGateSampleMethod := ⟨fun | .explicitTraceIds => .text "explicit_trace_ids"⟩
instance : ToPayload AuditGateToleranceMode := ⟨fun | .exact => .text "exact"⟩

/-- How audit gate samples were selected and what coverage is required. -/
structure AuditGateSamplePolicy where
  method : AuditGateSampleMethod := .explicitTraceIds
  description : String := "explicit deterministic S11 trace sample"
  minimumSampleCount : Nat := 1
  requireNoOrderSample : Bool := false
  requireAllReplaysPassing : Bool := true
  minimum_pos : 1 ≤ minimumSampleCount := by decide
deriving DecidableEq

/-- How replay metrics are compared for reproducibility. -/
structure AuditGateTolerancePolicy where
  mode : AuditGateToleranceMode := .exact
  metricTolerance : String := "0"
  description : String := "exact equality for deterministic fixture replay"
deriving DecidableEq

instance : ToPayload AuditGateSamplePolicy := ⟨fun p =>
  .record [("description", toPayload p.description), ("method", toPayload p.method),
    ("minimum_sample_count", toPayload p.minimumSampleCount),
    ("require_all_replays_passing", toPayload p.requireAllReplaysPassing),
    ("require_no_order_sample", toPayload p.requireNoOrderSample)]⟩

instance : ToPayload AuditGateTolerancePolicy := ⟨fun p =>
  .record [("description", toPayload p.description),
    ("metric_tolerance", toPayload p.metricTolerance), ("mode", toPayload p.mode)]⟩

/-- Deterministic gate configuration independent from selected trace IDs. -/
structure AuditGateRunConfig where
  configHash : String
  codeCommit : String
  codeRef : String
  samplePolicy : AuditGateSamplePolicy := {}
  tolerancePolicy : AuditGateTolerancePolicy := {}
  requirementIds : List String := auditGateRequirements

/-- The fields hashed by `build_audit_gate_config_hash`. -/
def AuditGateRunConfig.identityFields (c : AuditGateRunConfig) : List (String × Payload) :=
  [ ("code_commit", toPayload c.codeCommit), ("code_ref", toPayload c.codeRef),
    ("requirement_ids", toPayload c.requirementIds),
    ("sample_policy", toPayload c.samplePolicy),
    ("tolerance_policy", toPayload c.tolerancePolicy) ]

/-! ## Blockers -/

/-- Terminal audit gate report status. -/
inductive AuditGateValidationStatus where
  | passed | failed
deriving DecidableEq

/-- Human-readable recommendation derived from gate blockers. -/
inductive AuditGateRecommendation where
  | readyForReview | blocked
deriving DecidableEq

/-- Gate-level failure codes. -/
inductive AuditGateValidationBlockerCode where
  | sampleReplayFailed | sampleReplayEvidenceInvalid | sampleManifestMismatch | samplePolicyNotMet
deriving DecidableEq

instance : ToPayload AuditGateValidationStatus := ⟨fun
  | .passed => .text "passed"
  | .failed => .text "failed"⟩

instance : ToPayload AuditGateRecommendation := ⟨fun
  | .readyForReview => .text "ready_for_audit_review"
  | .blocked => .text "blocked_until_replay_blockers_resolved"⟩

instance : ToPayload AuditGateValidationBlockerCode := ⟨fun
  | .sampleReplayFailed => .text "sample_replay_failed"
  | .sampleReplayEvidenceInvalid => .text "sample_replay_evidence_invalid"
  | .sampleManifestMismatch => .text "sample_manifest_mismatch"
  | .samplePolicyNotMet => .text "sample_policy_not_met"⟩

/-- Gate-level blocker, optionally linked to a replay blocker. -/
structure AuditGateValidationBlocker where
  code : AuditGateValidationBlockerCode
  message : String
  traceId : Option String
  replayBlockerCode : Option DecisionTraceReplayBlockerCode
  expected : Option String
  actual : Option String
  message_shown : Shown message
  traceId_canonical : ∀ id ∈ traceId, isCanonicalId id = true
  expected_shown : ∀ text ∈ expected, Shown text
  actual_shown : ∀ text ∈ actual, Shown text

instance : ToPayload AuditGateValidationBlocker := ⟨fun b =>
  .record [("actual", toPayload b.actual), ("code", toPayload b.code),
    ("expected", toPayload b.expected), ("message", toPayload b.message),
    ("replay_blocker_code", toPayload b.replayBlockerCode), ("trace_id", toPayload b.traceId)]⟩

/-- `AuditGateValidationBlocker(...)`. -/
def AuditGateValidationBlocker.make (code : AuditGateValidationBlockerCode) (message : String)
    (traceId : Option String) (replayBlockerCode : Option DecisionTraceReplayBlockerCode)
    (expected actual : Option String) : Raises AuditGateValidationBlocker :=
  if h : Shown message ∧ (∀ id ∈ traceId, isCanonicalId id = true) ∧
      (∀ text ∈ expected, Shown text) ∧ ∀ text ∈ actual, Shown text then
    .ok { code := code, message := strip message, traceId := traceId,
          replayBlockerCode := replayBlockerCode, expected := expected.map strip,
          actual := actual.map strip, message_shown := shown_strip h.1,
          traceId_canonical := h.2.1, expected_shown := shown_map_strip h.2.2.1,
          actual_shown := shown_map_strip h.2.2.2 }
  else .error "String should have at least 1 character"

theorem AuditGateValidationBlocker.make_succeeds {code : AuditGateValidationBlockerCode}
    {message : String} {traceId : Option String}
    {replayBlockerCode : Option DecisionTraceReplayBlockerCode} {expected actual : Option String}
    (hmessage : Shown message) (htrace : ∀ id ∈ traceId, isCanonicalId id = true)
    (hexpected : ∀ text ∈ expected, Shown text) (hactual : ∀ text ∈ actual, Shown text) :
    ∃ blocker, AuditGateValidationBlocker.make code message traceId replayBlockerCode expected
      actual = .ok blocker := by
  simp only [AuditGateValidationBlocker.make]
  split_ifs with hshown
  · exact ⟨_, rfl⟩
  · exact absurd ⟨hmessage, htrace, hexpected, hactual⟩ hshown

/-! ## The manifest -/

/-- Deterministic run manifest for one explicit trace sample set. -/
structure AuditGateRunManifest where
  auditRunId : String
  manifestHash : String
  configHash : String
  codeCommit : String
  codeRef : String
  samplePolicy : AuditGateSamplePolicy
  tolerancePolicy : AuditGateTolerancePolicy
  traceIds : List String := []
  traceIdPolicyErrors : List String := []
  requirementIds : List String := auditGateRequirements

namespace AuditGateRunManifest

/-- The fields hashed by `build_audit_gate_run_manifest_hash`. -/
def identityFields (m : AuditGateRunManifest) : List (String × Payload) :=
  [ ("code_commit", toPayload m.codeCommit), ("code_ref", toPayload m.codeRef),
    ("config_hash", toPayload m.configHash), ("requirement_ids", toPayload m.requirementIds),
    ("sample_policy", toPayload m.samplePolicy),
    ("tolerance_policy", toPayload m.tolerancePolicy),
    ("trace_id_policy_errors", toPayload m.traceIdPolicyErrors),
    ("trace_ids", toPayload m.traceIds) ]

instance : ToPayload AuditGateRunManifest := ⟨fun m =>
  .record (("audit_run_id", toPayload m.auditRunId) :: ("manifest_hash", toPayload m.manifestHash) ::
    m.identityFields)⟩

/-- The configuration that a manifest embeds. -/
def embeddedConfig (m : AuditGateRunManifest) : AuditGateRunConfig where
  configHash := m.configHash
  codeCommit := m.codeCommit
  codeRef := m.codeRef
  samplePolicy := m.samplePolicy
  tolerancePolicy := m.tolerancePolicy
  requirementIds := m.requirementIds

end AuditGateRunManifest

/-- `_BLANK_TRACE_ID_PREFIX`. -/
def blankTraceIdPrefix : String := "TRACE:INVALID-BLANK"

/-- `_duplicate_trace_ids`. -/
def duplicateTraceIds (traceIds : List String) : List String := Library.repeatedItems traceIds

/-- `trace_id.startswith(f"{_BLANK_TRACE_ID_PREFIX}:")`. -/
def isBlankPlaceholder (traceId : String) : Bool :=
  (blankTraceIdPrefix ++ ":").toList.isPrefixOf traceId.toList

/-- `_eligible_unique_trace_ids`. -/
def eligibleUniqueTraceIds (manifest : AuditGateRunManifest) : List String :=
  Library.firstOccurrences (manifest.traceIds.filter fun traceId => !isBlankPlaceholder traceId)

section Digests

variable [Sha256]

/-- `build_audit_gate_config_hash`. -/
def AuditGateRunConfig.buildHash (c : AuditGateRunConfig) : String :=
  Contracts.hash (.record c.identityFields)

/-- The validator `config_hash_is_deterministic`. -/
def AuditGateRunConfig.validate (c : AuditGateRunConfig) : Raises Unit :=
  require (c.configHash = c.buildHash) "config_hash is not deterministic"

namespace AuditGateRunManifest

/-- The checks of a manifest before its own digest. -/
def validateFields (m : AuditGateRunManifest) : Raises Unit := do
  require (∀ traceId ∈ m.traceIds, isCanonicalId traceId = true)
    "String should match pattern '^[A-Z0-9][A-Z0-9._:-]*$'"
  require (∀ text ∈ m.traceIdPolicyErrors, Shown text) "String should have at least 1 character"
  require (m.configHash = m.embeddedConfig.buildHash)
    "manifest config_hash does not match embedded config"

/-- Where a manifest stores its hash and id. -/
def stamping : Library.Stamping AuditGateRunManifest String String where
  checkFields := validateFields
  storedHash := manifestHash
  storedId := auditRunId
  contentHash m := Contracts.hash (.record m.identityFields)
  idOfHash := stableIdOfHash "AUDITRUN" "manifest_hash"
  stamp m newHash newId := { m with manifestHash := newHash, auditRunId := newId }
  hashError := "manifest_hash is not deterministic"
  idError := "audit_run_id is not deterministic"
  storedHash_stamp _ _ _ := rfl
  storedId_stamp _ _ _ := rfl
  contentHash_stamp _ _ _ := rfl
  checkFields_stamp _ _ _ := rfl

end AuditGateRunManifest

/-! ## Samples -/

/-- `build_decision_trace_replay_report_hash`. -/
def buildDecisionTraceReplayReportHash (report : DecisionTraceReplayReport) : String :=
  Contracts.hash (toPayload report)

/-- `build_decision_trace_replay_report_id`. -/
def buildDecisionTraceReplayReportId (reportHash : String) : String :=
  stableIdOfHash "AUDITREPLAY" "report_hash" reportHash

end Digests

/-- One sampled trace plus the replay report used as gate evidence. -/
structure AuditGateTraceSampleResult where
  sampleResultId : String
  sampleResultHash : String
  sampleIndex : Nat
  traceId : String
  replayStatus : DecisionTraceReplayStatus
  replayReportId : String
  replayReportHash : String
  storedTraceEnvelopeId : Option String := none
  storedTraceEnvelopeHash : Option String := none
  reconstructedTraceEnvelopeId : Option String := none
  reconstructedTraceEnvelopeHash : Option String := none
  replayReport : DecisionTraceReplayReport
  requirementIds : List String := auditGateRequirements

namespace AuditGateTraceSampleResult

/-- The fields hashed by `build_audit_gate_trace_sample_result_hash`. -/
def identityFields (s : AuditGateTraceSampleResult) : List (String × Payload) :=
  [ ("reconstructed_trace_envelope_hash", toPayload s.reconstructedTraceEnvelopeHash),
    ("reconstructed_trace_envelope_id", toPayload s.reconstructedTraceEnvelopeId),
    ("replay_report", toPayload s.replayReport),
    ("replay_report_hash", toPayload s.replayReportHash),
    ("replay_report_id", toPayload s.replayReportId),
    ("replay_status", toPayload s.replayStatus), ("requirement_ids", toPayload s.requirementIds),
    ("sample_index", toPayload s.sampleIndex),
    ("stored_trace_envelope_hash", toPayload s.storedTraceEnvelopeHash),
    ("stored_trace_envelope_id", toPayload s.storedTraceEnvelopeId),
    ("trace_id", toPayload s.traceId) ]

instance : ToPayload AuditGateTraceSampleResult := ⟨fun s =>
  .record (("sample_result_hash", toPayload s.sampleResultHash) ::
    ("sample_result_id", toPayload s.sampleResultId) :: s.identityFields)⟩

end AuditGateTraceSampleResult

/-- `_missing_fields`. -/
def missingFields (fields : List (String × Option String)) : List String :=
  (fields.filter fun field => field.2.isNone).map Prod.fst

/-- The fields of a report that `_passed_replay_sample_evidence_error` asks for. -/
def passedEvidenceFields (report : DecisionTraceReplayReport) : List (String × Option String) :=
  [ ("strategy_run_id", report.strategyRunId), ("risk_run_id", report.riskRunId),
    ("original_gateway_report_id", report.originalGatewayReportId),
    ("original_gateway_report_hash", report.originalGatewayReportHash),
    ("replayed_gateway_report_id", report.replayedGatewayReportId),
    ("replayed_gateway_report_hash", report.replayedGatewayReportHash),
    ("original_gateway_event_id", report.originalGatewayEventId),
    ("original_gateway_event_hash", report.originalGatewayEventHash),
    ("replayed_gateway_event_id", report.replayedGatewayEventId),
    ("replayed_gateway_event_hash", report.replayedGatewayEventHash),
    ("original_paper_session_report_id", report.originalPaperSessionReportId),
    ("original_paper_session_report_hash", report.originalPaperSessionReportHash),
    ("replayed_paper_session_report_id", report.replayedPaperSessionReportId),
    ("replayed_paper_session_report_hash", report.replayedPaperSessionReportHash),
    ("original_paper_tca_report_id", report.originalPaperTcaReportId),
    ("original_paper_tca_report_hash", report.originalPaperTcaReportHash),
    ("replayed_paper_tca_report_id", report.replayedPaperTcaReportId),
    ("replayed_paper_tca_report_hash", report.replayedPaperTcaReportHash) ]

/-- `_has_fill_or_rejection_evidence`. -/
def HasFillOrRejectionEvidence (report : DecisionTraceReplayReport) : Prop :=
  (report.originalPaperFillLogIds ≠ [] ∧ report.replayedPaperFillLogIds ≠ [] ∧
    report.originalPaperTcaRowIds ≠ [] ∧ report.replayedPaperTcaRowIds ≠ []) ∨
  (report.originalPaperRejectionLogIds ≠ [] ∧ report.replayedPaperRejectionLogIds ≠ [] ∧
    report.originalPaperTcaIssueIds ≠ [] ∧ report.replayedPaperTcaIssueIds ≠ [])

instance (report : DecisionTraceReplayReport) : Decidable (HasFillOrRejectionEvidence report) :=
  inferInstanceAs (Decidable (_ ∨ _))

/-- `_passed_replay_sample_evidence_error`. -/
def passedReplaySampleEvidenceError (report : DecisionTraceReplayReport) : Option String :=
  let missing := missingFields (passedEvidenceFields report)
  if missing ≠ [] then
    some ("passed replay samples require order replay evidence: " ++ ",".intercalate missing)
  else if report.originalPaperOrderLogIds = [] ∨ report.replayedPaperOrderLogIds = [] then
    some "passed replay samples require original and replayed paper order log IDs"
  else if ¬ HasFillOrRejectionEvidence report then
    some ("passed replay samples require either fill log/TCA row or " ++
      "rejection log/TCA issue evidence")
  else none

/-- The fields of a report that `_no_order_sample_evidence_error` asks for. -/
def noOrderEvidenceFields (report : DecisionTraceReplayReport) : List (String × Option String) :=
  [ ("forecast_id", report.forecastId), ("strategy_decision_id", report.strategyDecisionId),
    ("strategy_decision_hash", report.strategyDecisionHash),
    ("strategy_run_id", report.strategyRunId),
    ("stored_no_order_reason", report.storedNoOrderReason),
    ("reconstructed_no_order_reason", report.reconstructedNoOrderReason) ]

/-- The values of `_has_gateway_paper_or_tca_evidence`. -/
def downstreamValues (report : DecisionTraceReplayReport) : List (Option String) :=
  [ report.riskRunId, report.originalGatewayRunId, report.replayedGatewayRunId,
    report.originalGatewayReportId, report.originalGatewayReportHash,
    report.replayedGatewayReportId, report.replayedGatewayReportHash,
    report.originalGatewayEventId, report.originalGatewayEventHash,
    report.replayedGatewayEventId, report.replayedGatewayEventHash,
    report.originalGatewayOrderId, report.replayedGatewayOrderId,
    report.originalPaperSessionReportId, report.originalPaperSessionReportHash,
    report.replayedPaperSessionReportId, report.replayedPaperSessionReportHash,
    report.originalPaperTcaReportId, report.originalPaperTcaReportHash,
    report.replayedPaperTcaReportId, report.replayedPaperTcaReportHash ]

/-- The id lists of `_has_gateway_paper_or_tca_evidence`. -/
def downstreamIds (report : DecisionTraceReplayReport) : List String :=
  report.originalPaperOrderLogIds ++ report.replayedPaperOrderLogIds ++
    report.originalPaperFillLogIds ++ report.replayedPaperFillLogIds ++
    report.originalPaperRejectionLogIds ++ report.replayedPaperRejectionLogIds ++
    report.originalPaperTcaRowIds ++ report.replayedPaperTcaRowIds ++
    report.originalPaperTcaIssueIds ++ report.replayedPaperTcaIssueIds

/-- `_has_gateway_paper_or_tca_evidence`. -/
def hasGatewayPaperOrTcaEvidence (report : DecisionTraceReplayReport) : Bool :=
  (downstreamValues report).any Option.isSome || !(downstreamIds report).isEmpty

/-- `_no_order_sample_evidence_error`. -/
def noOrderSampleEvidenceError (report : DecisionTraceReplayReport) : Option String :=
  let missing := missingFields (noOrderEvidenceFields report)
  if missing ≠ [] then
    some ("no-order replay samples require decision evidence: " ++ ",".intercalate missing)
  else if report.storedTraceEnvelopeId ≠ report.reconstructedTraceEnvelopeId then
    some "no-order replay samples require matching stored/reconstructed trace envelope IDs"
  else if report.storedTraceEnvelopeHash ≠ report.reconstructedTraceEnvelopeHash then
    some "no-order replay samples require matching stored/reconstructed trace envelope hashes"
  else if report.storedNoOrderReason ≠ report.reconstructedNoOrderReason then
    some "no-order replay samples require matching stored/reconstructed no_order_reason"
  else if hasGatewayPaperOrTcaEvidence report = true then
    some "no-order replay samples must not include gateway, paper, or TCA evidence"
  else none

section Evidence

variable [Sha256]

/-- `_trace_envelope_identity_error`; `str` of a missing hash is `"None"`. -/
def traceEnvelopeIdentityError (report : DecisionTraceReplayReport) : Option String :=
  let idOf := fun (storedHash : Option String) =>
    some (DecisionTraceEnvelope.buildId (storedHash.getD "None"))
  if report.storedTraceEnvelopeId ≠ idOf report.storedTraceEnvelopeHash then
    some "replay samples require stored trace envelope ID to match its hash"
  else if report.reconstructedTraceEnvelopeId ≠ idOf report.reconstructedTraceEnvelopeHash then
    some "replay samples require reconstructed trace envelope ID to match its hash"
  else none

/-- The part of `_sample_replay_evidence_error` that passed and no-order samples share. -/
def closedSampleEvidenceError (sample : AuditGateTraceSampleResult) : Option String :=
  let hasStoredEnvelope :=
    sample.storedTraceEnvelopeId.isSome && sample.storedTraceEnvelopeHash.isSome
  let hasReconstructedEnvelope :=
    sample.reconstructedTraceEnvelopeId.isSome && sample.reconstructedTraceEnvelopeHash.isSome
  if sample.replayReport.blockers ≠ [] then
    some "passed/no-order replay samples must not include replay blockers"
  else if hasStoredEnvelope = false ∨ hasReconstructedEnvelope = false then
    some ("passed/no-order replay samples require stored and reconstructed " ++
      "trace envelope IDs/hashes")
  else traceEnvelopeIdentityError sample.replayReport

/-- `_sample_replay_evidence_error`. -/
def sampleReplayEvidenceError (sample : AuditGateTraceSampleResult) : Option String :=
  match sample.replayStatus with
  | .passed =>
      (closedSampleEvidenceError sample).or (passedReplaySampleEvidenceError sample.replayReport)
  | .noOrder =>
      (closedSampleEvidenceError sample).or (noOrderSampleEvidenceError sample.replayReport)
  | .failed =>
      if sample.replayReport.blockers = [] then some "failed replay samples require replay blockers"
      else none

/-- Raises the evidence error of a sample, if there is one. -/
def requireEvidence (evidenceError : Option String) : Raises Unit :=
  match evidenceError with
  | some error => .error error
  | none => .ok ()

omit [Sha256] in
theorem requireEvidence_eq_ok_iff {evidenceError : Option String} :
    requireEvidence evidenceError = .ok () ↔ evidenceError = none := by
  cases evidenceError with
  | none => exact ⟨fun _ => rfl, fun _ => rfl⟩
  | some error => exact ⟨nofun, nofun⟩

namespace AuditGateTraceSampleResult

/-- `_validate_sample_replay_field_alignment`. -/
def validateAlignment (s : AuditGateTraceSampleResult) : Raises Unit := do
  require (s.storedTraceEnvelopeId = s.replayReport.storedTraceEnvelopeId)
    "sample stored_trace_envelope_id must match replay report"
  require (s.storedTraceEnvelopeHash = s.replayReport.storedTraceEnvelopeHash)
    "sample stored_trace_envelope_hash must match replay report"
  require (s.reconstructedTraceEnvelopeId = s.replayReport.reconstructedTraceEnvelopeId)
    "sample reconstructed_trace_envelope_id must match replay report"
  require (s.reconstructedTraceEnvelopeHash = s.replayReport.reconstructedTraceEnvelopeHash)
    "sample reconstructed_trace_envelope_hash must match replay report"

/-- The checks of a sample before its own digest. -/
def validateFields (s : AuditGateTraceSampleResult) : Raises Unit := do
  require (isCanonicalId s.traceId) "String should match pattern '^[A-Z0-9][A-Z0-9._:-]*$'"
  require (s.traceId = s.replayReport.traceId)
    "sample trace_id must match replay report trace_id"
  require (s.replayStatus = s.replayReport.status)
    "sample replay_status must match replay report status"
  s.validateAlignment
  requireEvidence (sampleReplayEvidenceError s)
  require (s.replayReportHash = buildDecisionTraceReplayReportHash s.replayReport)
    "replay_report_hash is not deterministic"
  require (s.replayReportId = buildDecisionTraceReplayReportId
      (buildDecisionTraceReplayReportHash s.replayReport))
    "replay_report_id is not deterministic"

/-- Where a sample stores its hash and id. -/
def stamping : Library.Stamping AuditGateTraceSampleResult String String where
  checkFields := validateFields
  storedHash := sampleResultHash
  storedId := sampleResultId
  contentHash s := Contracts.hash (.record s.identityFields)
  idOfHash := stableIdOfHash "AUDITSAMPLE" "sample_result_hash"
  stamp s newHash newId := { s with sampleResultHash := newHash, sampleResultId := newId }
  hashError := "sample_result_hash is not deterministic"
  idError := "sample_result_id is not deterministic"
  storedHash_stamp _ _ _ := rfl
  storedId_stamp _ _ _ := rfl
  contentHash_stamp _ _ _ := rfl
  checkFields_stamp _ _ _ := rfl

end AuditGateTraceSampleResult

end Evidence

/-! ## The validation report -/

/-- `_count_samples`. -/
def countSamples (samples : List AuditGateTraceSampleResult) (status : DecisionTraceReplayStatus) :
    Nat :=
  samples.countP fun sample => decide (sample.replayStatus = status)

/-- Deterministic audit gate validation report for sampled replay evidence. -/
structure AuditGateValidationReport where
  reportId : String
  reportHash : String
  auditRunId : String
  manifest : AuditGateRunManifest
  sampleCount : Nat
  passedCount : Nat
  noOrderCount : Nat
  failedCount : Nat
  blockerCount : Nat
  samples : List AuditGateTraceSampleResult := []
  blockers : List AuditGateValidationBlocker := []
  status : AuditGateValidationStatus
  recommendation : AuditGateRecommendation
  requirementIds : List String := auditGateRequirements

/-- The status that blockers and failed samples give. -/
def derivedStatus (blockers : List AuditGateValidationBlocker) (failedCount : Nat) :
    AuditGateValidationStatus :=
  if blockers ≠ [] ∨ failedCount ≠ 0 then .failed else .passed

/-- The recommendation that a status gives. -/
def derivedRecommendation : AuditGateValidationStatus → AuditGateRecommendation
  | .failed => .blocked
  | .passed => .readyForReview

namespace AuditGateValidationReport

/-- The fields hashed by `build_audit_gate_validation_report_hash`. -/
def identityFields (r : AuditGateValidationReport) : List (String × Payload) :=
  [ ("audit_run_id", toPayload r.auditRunId), ("blocker_count", toPayload r.blockerCount),
    ("blockers", toPayload r.blockers), ("failed_count", toPayload r.failedCount),
    ("manifest", toPayload r.manifest), ("no_order_count", toPayload r.noOrderCount),
    ("passed_count", toPayload r.passedCount),
    ("recommendation", toPayload r.recommendation),
    ("requirement_ids", toPayload r.requirementIds), ("sample_count", toPayload r.sampleCount),
    ("samples", toPayload r.samples), ("status", toPayload r.status) ]

variable [Sha256]

/-- `_validate_passing_report_has_valid_policy_and_samples`. -/
def validatePassing (r : AuditGateValidationReport) : Raises Unit := do
  require (r.manifest.traceIdPolicyErrors = [])
    "passing audit gate reports require non-empty trace IDs"
  require (duplicateTraceIds r.manifest.traceIds = [])
    "passing audit gate reports require unique trace IDs"
  require (r.manifest.samplePolicy.minimumSampleCount ≤ (eligibleUniqueTraceIds r.manifest).length)
    "passing audit gate reports require enough unique non-empty trace IDs"
  r.samples.forM fun sample => requireEvidence ((sampleReplayEvidenceError sample).map
    fun error => "passing audit gate reports require valid samples: " ++ error)

/-- The checks of a report before its own digest. -/
def validateFields (r : AuditGateValidationReport) : Raises Unit := do
  AuditGateRunManifest.stamping.validate r.manifest
  r.samples.forM AuditGateTraceSampleResult.stamping.validate
  require (r.auditRunId = r.manifest.auditRunId) "report audit_run_id must match manifest"
  require (r.samples.map AuditGateTraceSampleResult.traceId = r.manifest.traceIds)
    "sample trace IDs must match manifest trace_ids in order"
  require (r.sampleCount = r.samples.length) "sample_count must match samples"
  require (r.passedCount = countSamples r.samples .passed) "passed_count must match samples"
  require (r.noOrderCount = countSamples r.samples .noOrder) "no_order_count must match samples"
  require (r.failedCount = countSamples r.samples .failed) "failed_count must match samples"
  require (r.blockerCount = r.blockers.length) "blocker_count must match blockers"
  require (r.status = derivedStatus r.blockers r.failedCount)
    "status must be derived from blockers and failed_count"
  require (r.recommendation = derivedRecommendation (derivedStatus r.blockers r.failedCount))
    "recommendation must be derived from status"
  if r.status = .passed then r.validatePassing else .ok ()

/-- Where a report stores its hash and id. -/
def stamping : Library.Stamping AuditGateValidationReport String String where
  checkFields := validateFields
  storedHash := reportHash
  storedId := reportId
  contentHash r := Contracts.hash (.record r.identityFields)
  idOfHash := stableIdOfHash "AUDITGATEREPORT" "report_hash"
  stamp r newHash newId := { r with reportHash := newHash, reportId := newId }
  hashError := "report_hash is not deterministic"
  idError := "report_id is not deterministic"
  storedHash_stamp _ _ _ := rfl
  storedId_stamp _ _ _ := rfl
  contentHash_stamp _ _ _ := rfl
  checkFields_stamp _ _ _ := rfl

end AuditGateValidationReport

end TaModel.Audit
