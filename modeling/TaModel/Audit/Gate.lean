import TaModel.Audit.GateReport

/-!
# The audit gate

`run_audit_gate_validation` of `audit/gate.py`: the trace ids are normalised into a manifest, each
of them is replayed into a sample, and the blockers of the manifest, the samples and the policy
decide the status of the report.
-/

set_option autoImplicit false

namespace TaModel.Audit

open Contracts

/-! ## Trace ids -/

/-- One entry of `_normalize_trace_ids`: a blank id gets a placeholder with its index. -/
def normalizeTraceId (index : Nat) (traceId : String) : String :=
  if strip traceId = "" then blankTraceIdPrefix ++ ":" ++ toString index else strip traceId

/-- The policy error of a blank id. -/
def traceIdPolicyError (index : Nat) (traceId : String) : Option String :=
  if strip traceId = "" then
    some ("explicit trace_id at sample index " ++ toString index ++ " must be non-empty")
  else none

/-- The normalised ids of `_normalize_trace_ids`. -/
def normalizeTraceIds (traceIds : List String) : List String :=
  traceIds.zipIdx.map fun entry => normalizeTraceId entry.2 entry.1

/-- The policy errors of `_normalize_trace_ids`. -/
def traceIdPolicyErrors (traceIds : List String) : List String :=
  traceIds.zipIdx.filterMap fun entry => traceIdPolicyError entry.2 entry.1

/-! ## Blockers -/

/-- `_manifest_trace_policy_blockers`. -/
def manifestTracePolicyBlockers (manifest : AuditGateRunManifest) :
    Raises (List AuditGateValidationBlocker) := do
  let blank ← manifest.traceIdPolicyErrors.mapM fun error =>
    AuditGateValidationBlocker.make .samplePolicyNotMet error none none (some "non-empty trace_id")
      (some "blank trace_id")
  let repeated := duplicateTraceIds manifest.traceIds
  if repeated ≠ [] then do
    let blocker ← AuditGateValidationBlocker.make .samplePolicyNotMet
      "explicit audit gate trace IDs must be unique" none none (some "unique trace_ids")
      (some (",".intercalate repeated))
    .ok (blank ++ [blocker])
  else .ok blank

/-- `_sample_manifest_mismatch_blockers`. -/
def sampleManifestMismatchBlockers (manifest : AuditGateRunManifest)
    (samples : List AuditGateTraceSampleResult) : Raises (List AuditGateValidationBlocker) :=
  let sampleTraceIds := samples.map AuditGateTraceSampleResult.traceId
  if sampleTraceIds = manifest.traceIds then .ok []
  else do
    let blocker ← AuditGateValidationBlocker.make .sampleManifestMismatch
      "sample trace IDs must match manifest trace_ids in order" none none
      (some (",".intercalate manifest.traceIds)) (some (",".intercalate sampleTraceIds))
    .ok [blocker]

/-- `_replay_blockers`. -/
def replayBlockers (sample : AuditGateTraceSampleResult) :
    Raises (List AuditGateValidationBlocker) :=
  sample.replayReport.blockers.mapM fun blocker =>
    AuditGateValidationBlocker.make .sampleReplayFailed blocker.message (some sample.traceId)
      (some blocker.code) blocker.expected blocker.actual

/-- The blockers of a check that may not hold. -/
def blockersUnless (met : Prop) [Decidable met] (blocker : Raises AuditGateValidationBlocker) :
    Raises (List AuditGateValidationBlocker) :=
  if met then .ok [] else (fun b => [b]) <$> blocker

section Gate

variable [Sha256]

/-- One turn of the loop over the samples in `_gate_blockers`. -/
def sampleBlockers (sample : AuditGateTraceSampleResult) :
    Raises (List AuditGateValidationBlocker) := do
  let invalid ← (sampleReplayEvidenceError sample).toList.mapM fun error =>
    AuditGateValidationBlocker.make .sampleReplayEvidenceInvalid error (some sample.traceId) none
      none none
  if sample.replayStatus ≠ .failed then .ok invalid
  else if sample.replayReport.blockers ≠ [] then do
    let found ← replayBlockers sample
    .ok (invalid ++ found)
  else do
    let blocker ← AuditGateValidationBlocker.make .sampleReplayFailed
      "sample replay failed without a replay blocker" (some sample.traceId) none none none
    .ok (invalid ++ [blocker])

/-- The blockers of the sample policy in `_gate_blockers`. -/
def samplePolicyBlockers (manifest : AuditGateRunManifest)
    (samples : List AuditGateTraceSampleResult) : Raises (List AuditGateValidationBlocker) := do
  let policy := manifest.samplePolicy
  let eligible := (eligibleUniqueTraceIds manifest).length
  let tooFew ← blockersUnless (policy.minimumSampleCount ≤ eligible)
    (AuditGateValidationBlocker.make .samplePolicyNotMet
      "unique non-empty sample count is below the configured minimum" none none
      (some (toString policy.minimumSampleCount)) (some (toString eligible)))
  let noOrder ← blockersUnless
    (¬ (policy.requireNoOrderSample = true ∧ countSamples samples .noOrder = 0))
    (AuditGateValidationBlocker.make .samplePolicyNotMet
      "sample policy requires at least one no-order/no-trade trace" none none
      (some "at least 1 no_order sample") (some "0"))
  let failing ← blockersUnless
    (¬ (policy.requireAllReplaysPassing = true ∧ ∃ s ∈ samples, s.replayStatus = .failed))
    (AuditGateValidationBlocker.make .samplePolicyNotMet
      "sample policy requires all replay samples to pass or no-order" none none
      (some "0 failed samples") (some (toString (countSamples samples .failed))))
  .ok (tooFew ++ noOrder ++ failing)

/-- `_gate_blockers`. -/
def gateBlockers (manifest : AuditGateRunManifest) (samples : List AuditGateTraceSampleResult) :
    Raises (List AuditGateValidationBlocker) := do
  let tracePolicy ← manifestTracePolicyBlockers manifest
  let mismatch ← sampleManifestMismatchBlockers manifest samples
  let ofSamples ← samples.mapM sampleBlockers
  let ofPolicy ← samplePolicyBlockers manifest samples
  .ok (tracePolicy ++ mismatch ++ ofSamples.flatten ++ ofPolicy)

/-! ## The run -/

/-- The draft of `make_audit_gate_run_manifest`. -/
def manifestDraft (config : AuditGateRunConfig) (traceIds : List String) : AuditGateRunManifest where
  auditRunId := "AUDITRUN:PLACEHOLDER"
  manifestHash := ""
  configHash := config.configHash
  codeCommit := config.codeCommit
  codeRef := config.codeRef
  samplePolicy := config.samplePolicy
  tolerancePolicy := config.tolerancePolicy
  traceIds := normalizeTraceIds traceIds
  traceIdPolicyErrors := traceIdPolicyErrors traceIds
  requirementIds := config.requirementIds

/-- `make_audit_gate_run_manifest`. -/
def makeAuditGateRunManifest (config : AuditGateRunConfig) (traceIds : List String) :
    Raises AuditGateRunManifest :=
  AuditGateRunManifest.stamping.construct (manifestDraft config traceIds)

/-- The draft of `_make_audit_gate_trace_sample_result`. -/
def sampleDraft (sampleIndex : Nat) (report : DecisionTraceReplayReport) :
    AuditGateTraceSampleResult where
  sampleResultId := "AUDITSAMPLE:PLACEHOLDER"
  sampleResultHash := ""
  sampleIndex := sampleIndex
  traceId := report.traceId
  replayStatus := report.status
  replayReportId :=
    buildDecisionTraceReplayReportId (buildDecisionTraceReplayReportHash report)
  replayReportHash := buildDecisionTraceReplayReportHash report
  storedTraceEnvelopeId := report.storedTraceEnvelopeId
  storedTraceEnvelopeHash := report.storedTraceEnvelopeHash
  reconstructedTraceEnvelopeId := report.reconstructedTraceEnvelopeId
  reconstructedTraceEnvelopeHash := report.reconstructedTraceEnvelopeHash
  replayReport := report

/-- `_make_audit_gate_trace_sample_result`. -/
def makeAuditGateTraceSampleResult (sampleIndex : Nat) (report : DecisionTraceReplayReport) :
    Raises AuditGateTraceSampleResult :=
  AuditGateTraceSampleResult.stamping.construct (sampleDraft sampleIndex report)

/-- The sample of one trace id of the manifest. -/
def replaySample (resolver : DecisionTraceEvidenceResolver) (entry : String × Nat) :
    Raises AuditGateTraceSampleResult := do
  let report ← replayDecisionTraceById entry.1 resolver
  makeAuditGateTraceSampleResult entry.2 report

/-- The draft of `_make_audit_gate_validation_report`. -/
def validationReportDraft (manifest : AuditGateRunManifest)
    (samples : List AuditGateTraceSampleResult) (blockers : List AuditGateValidationBlocker) :
    AuditGateValidationReport :=
  let failedCount := countSamples samples .failed
  let status := derivedStatus blockers failedCount
  { reportId := "AUDITGATEREPORT:PLACEHOLDER", reportHash := "",
    auditRunId := manifest.auditRunId, manifest := manifest, sampleCount := samples.length,
    passedCount := countSamples samples .passed, noOrderCount := countSamples samples .noOrder,
    failedCount := failedCount, blockerCount := blockers.length, samples := samples,
    blockers := blockers, status := status, recommendation := derivedRecommendation status,
    requirementIds := manifest.requirementIds }

/-- `_make_audit_gate_validation_report`. -/
def makeAuditGateValidationReport (manifest : AuditGateRunManifest)
    (samples : List AuditGateTraceSampleResult) : Raises AuditGateValidationReport := do
  let blockers ← gateBlockers manifest samples
  AuditGateValidationReport.stamping.construct (validationReportDraft manifest samples blockers)

/-- `run_audit_gate_validation`. -/
def runAuditGateValidation (traceIds : List String) (resolver : DecisionTraceEvidenceResolver)
    (config : AuditGateRunConfig) : Raises AuditGateValidationReport := do
  let manifest ← makeAuditGateRunManifest config traceIds
  let samples ← manifest.traceIds.zipIdx.mapM (replaySample resolver)
  makeAuditGateValidationReport manifest samples

end Gate

end TaModel.Audit
