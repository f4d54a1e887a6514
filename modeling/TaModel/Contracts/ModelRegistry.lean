import TaModel.Contracts.Training

/-!
# Model registry contracts

Registry records and state transitions of `contracts/model_registry.py`. Champion and shadow states
need a rollback pointer, an approved review and an approval by another person that does not precede
it; a transition never leads back to the candidate state, nor from the archive to a promotion.
-/

set_option autoImplicit false

namespace TaModel.Contracts

open Datasets (StrLower)

/-- Governed model-registry lifecycle states. -/
inductive ModelRegistryState where
  | candidate | champion | shadow | archive | rejected
deriving DecidableEq

def ModelRegistryState.value : ModelRegistryState → String
  | .candidate => "candidate"
  | .champion => "champion"
  | .shadow => "shadow"
  | .archive => "archive"
  | .rejected => "rejected"

/-- `promotion_states`. -/
def ModelRegistryState.isPromotion (state : ModelRegistryState) : Prop :=
  state = .champion ∨ state = .shadow

/-- `terminal_states`. -/
def ModelRegistryState.isTerminal (state : ModelRegistryState) : Prop :=
  state = .archive ∨ state = .rejected

instance (state : ModelRegistryState) : Decidable state.isPromotion :=
  inferInstanceAs (Decidable (_ ∨ _))

instance (state : ModelRegistryState) : Decidable state.isTerminal :=
  inferInstanceAs (Decidable (_ ∨ _))

/-- Human review outcomes. -/
inductive ReviewDecision where
  | approved | rejected | needsChanges
deriving DecidableEq

def ReviewDecision.value : ReviewDecision → String
  | .approved => "approved"
  | .rejected => "rejected"
  | .needsChanges => "needs_changes"

instance : ToPayload ModelRegistryState := ⟨fun x => .text x.value⟩
instance : ToPayload ReviewDecision := ⟨fun x => .text x.value⟩

/-- MLflow metadata. -/
structure MlflowRegistryReference where
  trackingUri : String
  experimentName : String
  runId : String
  runUri : String
  artifactUri : String
  registeredModelName : String
  modelVersion : String
  modelUri : String

instance : ToPayload MlflowRegistryReference := ⟨fun m =>
  .record
    [ ("artifact_uri", toPayload m.artifactUri), ("experiment_name", toPayload m.experimentName),
      ("model_uri", toPayload m.modelUri), ("model_version", toPayload m.modelVersion),
      ("registered_model_name", toPayload m.registeredModelName), ("run_id", toPayload m.runId),
      ("run_uri", toPayload m.runUri), ("tracking_uri", toPayload m.trackingUri) ]⟩

/-- Human registry review. -/
structure RegistryReviewMetadata where
  reviewedBy : String
  reviewedAt : AwareDatetime
  decision : ReviewDecision
  reason : String
  checklistId : Option String := none

instance : ToPayload RegistryReviewMetadata := ⟨fun r =>
  .record
    [ ("checklist_id", toPayload r.checklistId), ("decision", toPayload r.decision),
      ("reason", toPayload r.reason), ("reviewed_at", toPayload r.reviewedAt),
      ("reviewed_by", toPayload r.reviewedBy) ]⟩

/-- Human approval of a promotion. -/
structure RegistryApprovalMetadata where
  approvedBy : String
  approvedAt : AwareDatetime
  reason : String
  approvalId : String

instance : ToPayload RegistryApprovalMetadata := ⟨fun a =>
  .record
    [ ("approval_id", toPayload a.approvalId), ("approved_at", toPayload a.approvedAt),
      ("approved_by", toPayload a.approvedBy), ("reason", toPayload a.reason) ]⟩

section Identity

variable [Sha256]

/-- `build_rollback_pointer_id`. -/
def buildRollbackPointerId (targetModelVersionId targetRegistryRecordId : String)
    (targetState : ModelRegistryState) (reason : String) : String :=
  stableId "ROLLBACKPTR" (.record
    [ ("reason", toPayload reason), ("target_model_version_id", toPayload targetModelVersionId),
      ("target_registry_record_id", toPayload targetRegistryRecordId),
      ("target_state", toPayload targetState) ])

/-- Rollback target; the proof field is `pointer_identity_is_deterministic`. -/
structure RegistryRollbackPointer where
  rollbackPointerId : String
  targetModelVersionId : String
  targetRegistryRecordId : String
  targetState : ModelRegistryState
  reason : String
  id_is_deterministic : rollbackPointerId = buildRollbackPointerId targetModelVersionId
    targetRegistryRecordId targetState reason

instance : ToPayload RegistryRollbackPointer := ⟨fun p =>
  .record
    [ ("reason", toPayload p.reason), ("rollback_pointer_id", toPayload p.rollbackPointerId),
      ("target_model_version_id", toPayload p.targetModelVersionId),
      ("target_registry_record_id", toPayload p.targetRegistryRecordId),
      ("target_state", toPayload p.targetState) ]⟩

/-- `build_rollback_pointer`. -/
def buildRollbackPointer (targetModelVersionId targetRegistryRecordId : String)
    (targetState : ModelRegistryState) (reason : String) : RegistryRollbackPointer where
  rollbackPointerId := buildRollbackPointerId targetModelVersionId targetRegistryRecordId
    targetState reason
  targetModelVersionId := targetModelVersionId
  targetRegistryRecordId := targetRegistryRecordId
  targetState := targetState
  reason := reason
  id_is_deterministic := rfl

/-! ## Governance -/

/-- The champion and shadow checks of `_validate_governance_metadata`. -/
def validatePromotion (rollbackPointer : Option RegistryRollbackPointer)
    (review : Option RegistryReviewMetadata) (approval : Option RegistryApprovalMetadata) :
    Raises Unit := do
  require (rollbackPointer.isSome = true) "champion/shadow states require rollback_pointer"
  match review, approval with
  | some review, some approval => do
      require (review.decision = .approved) "champion/shadow review decision must be approved"
      require (review.reviewedBy ≠ approval.approvedBy)
        "champion/shadow reviewer and approver must be distinct"
      require (¬ approval.approvedAt < review.reviewedAt)
        "champion/shadow approval timestamp must not precede review"
  | _, _ => .error "champion/shadow states require review and approval metadata"

/-- `_validate_governance_metadata`. -/
def validateGovernanceMetadata (state : ModelRegistryState)
    (rollbackPointer : Option RegistryRollbackPointer) (review : Option RegistryReviewMetadata)
    (approval : Option RegistryApprovalMetadata) : Raises Unit :=
  match state with
  | .champion => validatePromotion rollbackPointer review approval
  | .shadow => validatePromotion rollbackPointer review approval
  | .rejected => do
      require (review.map RegistryReviewMetadata.decision = some .rejected)
        "rejected state requires rejected review metadata"
      require (approval.isNone = true) "rejected state must not include approval metadata"
  | .candidate => require (approval.isNone = true)
      "candidate state must not include promotion approval metadata"
  | .archive => .ok ()

/-! ## Records -/

/-- Auditable registry record. -/
structure ModelRegistryRecord where
  registryRecordId : String
  registryRecordHash : String
  modelVersionId : String
  sourceModelVersionId : Option String := none
  sourceModelVersionHash : Option String := none
  modelName : String
  modelVersion : String
  trainingRunId : String
  trainingRunHash : String
  datasetSnapshotId : String
  datasetHash : String
  trainingConfigId : String
  trainingConfigHash : String
  codeCommit : String
  seed : Nat
  metrics : List TrainingMetric
  artifacts : List TrainingArtifactReference
  currentState : ModelRegistryState
  mlflow : MlflowRegistryReference
  createdBy : String
  createdAt : AwareDatetime
  stateReason : String
  rollbackPointer : Option RegistryRollbackPointer := none
  review : Option RegistryReviewMetadata := none
  approval : Option RegistryApprovalMetadata := none

namespace ModelRegistryRecord

variable [StrLower]

/-- `build_model_version_id`. -/
def buildModelVersionId (modelName modelVersion trainingRunHash : String) : String :=
  stableId "MODELVERSION" (.record
    [ ("model_name", toPayload modelName), ("model_version", toPayload modelVersion),
      ("training_run_hash", toPayload trainingRunHash) ])

/-- The fields `build_registry_record_hash` adds for a source model version. -/
def sourceFields (r : ModelRegistryRecord) : List (String × Payload) :=
  if r.sourceModelVersionId ≠ none ∨ r.sourceModelVersionHash ≠ none then
    [ ("source_model_version_hash", toPayload r.sourceModelVersionHash),
      ("source_model_version_id", toPayload r.sourceModelVersionId) ]
  else []

/-- `build_registry_record_hash`; it digests the normal form of the commit. -/
def buildHash (r : ModelRegistryRecord) : String :=
  hash (.record (
    [ ("approval", toPayload r.approval), ("artifacts", toPayload r.artifacts),
      ("code_commit", .text (StrLower.lower (strip r.codeCommit))),
      ("created_at", toPayload r.createdAt), ("created_by", toPayload r.createdBy),
      ("current_state", toPayload r.currentState), ("dataset_hash", toPayload r.datasetHash),
      ("dataset_snapshot_id", toPayload r.datasetSnapshotId), ("metrics", toPayload r.metrics),
      ("mlflow", toPayload r.mlflow), ("model_name", toPayload r.modelName),
      ("model_version", toPayload r.modelVersion),
      ("model_version_id", toPayload r.modelVersionId), ("review", toPayload r.review),
      ("rollback_pointer", toPayload r.rollbackPointer), ("seed", toPayload r.seed) ] ++
    r.sourceFields ++
    [ ("state_reason", toPayload r.stateReason),
      ("training_config_hash", toPayload r.trainingConfigHash),
      ("training_config_id", toPayload r.trainingConfigId),
      ("training_run_hash", toPayload r.trainingRunHash),
      ("training_run_id", toPayload r.trainingRunId) ]))

/-- The digest patterns and the checks of `record_is_fail_closed_and_deterministic` before its own
digest. -/
def validateFields (r : ModelRegistryRecord) : Raises Unit := do
  require (isHexDigest r.trainingRunHash ∧ isHexDigest r.datasetHash ∧
      isHexDigest r.trainingConfigHash) "String should match pattern '^[a-f0-9]\x7b64\x7d$'"
  require (∀ digest ∈ r.sourceModelVersionHash, isHexDigest digest)
    "String should match pattern '^[a-f0-9]\x7b64\x7d$'"
  let _ ← validateCodeCommit r.codeCommit
  require (r.metrics ≠ []) "registry records require at least one metric"
  require (r.artifacts ≠ []) "registry records require at least one artifact reference"
  require (r.trainingRunId = Forecast.buildTrainingRunId r.trainingRunHash)
    "training_run_id does not match training_run_hash"
  require (r.trainingConfigId = buildTrainingConfigId r.trainingConfigHash)
    "training_config_id does not match training_config_hash"
  require (r.datasetSnapshotId = buildDatasetSnapshotId r.datasetHash)
    "dataset_snapshot_id does not match dataset_hash"
  require (r.mlflow.registeredModelName = r.modelName)
    "mlflow registered_model_name must match model_name"
  require (r.mlflow.modelVersion = r.modelVersion) "mlflow model_version must match model_version"
  require (r.sourceModelVersionId = none ↔ r.sourceModelVersionHash = none)
    "source model version lineage requires both id and hash"
  validateGovernanceMetadata r.currentState r.rollbackPointer r.review r.approval
  require (r.modelVersionId = buildModelVersionId r.modelName r.modelVersion r.trainingRunHash)
    "model_version_id is not deterministic"

/-- Where a record stores its hash and id. -/
def stamping : Library.Stamping ModelRegistryRecord String String where
  checkFields := validateFields
  storedHash := registryRecordHash
  storedId := registryRecordId
  contentHash := buildHash
  idOfHash := stableIdOfHash "REGISTRYRECORD" "registry_record_hash"
  stamp r newHash newId := { r with registryRecordHash := newHash, registryRecordId := newId }
  hashError := "registry_record_hash is not deterministic"
  idError := "registry_record_id is not deterministic"
  storedHash_stamp _ _ _ := rfl
  storedId_stamp _ _ _ := rfl
  contentHash_stamp _ _ _ := rfl
  checkFields_stamp _ _ _ := rfl

end ModelRegistryRecord

/-- What the caller of `build_model_registry_record` chooses. -/
structure RegistrationRequest where
  modelName : String
  modelVersion : String
  mlflow : MlflowRegistryReference
  createdBy : String
  createdAt : AwareDatetime
  stateReason : String
  sourceModelVersionId : Option String := none
  sourceModelVersionHash : Option String := none

/-- `build_model_registry_record`. -/
def buildModelRegistryRecord [StrLower] (trainingRun : TrainingRunResult)
    (request : RegistrationRequest) (currentState : ModelRegistryState)
    (rollbackPointer : Option RegistryRollbackPointer) (review : Option RegistryReviewMetadata)
    (approval : Option RegistryApprovalMetadata) : Raises ModelRegistryRecord :=
  ModelRegistryRecord.stamping.construct
    { registryRecordId := "", registryRecordHash := "",
      modelVersionId := ModelRegistryRecord.buildModelVersionId request.modelName
        request.modelVersion trainingRun.trainingRunHash,
      sourceModelVersionId := request.sourceModelVersionId,
      sourceModelVersionHash := request.sourceModelVersionHash, modelName := request.modelName,
      modelVersion := request.modelVersion, trainingRunId := trainingRun.trainingRunId,
      trainingRunHash := trainingRun.trainingRunHash,
      datasetSnapshotId := trainingRun.datasetSnapshotId, datasetHash := trainingRun.datasetHash,
      trainingConfigId := trainingRun.trainingConfig.trainingConfigId,
      trainingConfigHash := trainingRun.trainingConfig.trainingConfigHash,
      codeCommit := trainingRun.codeCommit, seed := trainingRun.seed,
      metrics := trainingRun.metrics, artifacts := trainingRun.artifacts,
      currentState := currentState, mlflow := request.mlflow, createdBy := request.createdBy,
      createdAt := request.createdAt, stateReason := request.stateReason,
      rollbackPointer := rollbackPointer, review := review, approval := approval }

/-- `build_candidate_registry_record`. -/
def buildCandidateRegistryRecord [StrLower] (trainingRun : TrainingRunResult)
    (request : RegistrationRequest) : Raises ModelRegistryRecord :=
  buildModelRegistryRecord trainingRun request .candidate none none none

/-! ## Transitions -/

/-- Auditable state transition request. -/
structure ModelRegistryTransition where
  transitionId : String
  transitionHash : String
  registryRecordId : String
  modelVersionId : String
  fromState : ModelRegistryState
  toState : ModelRegistryState
  actor : String
  occurredAt : AwareDatetime
  reason : String
  rollbackPointer : Option RegistryRollbackPointer := none
  review : Option RegistryReviewMetadata := none
  approval : Option RegistryApprovalMetadata := none

namespace ModelRegistryTransition

/-- `build_registry_transition_hash`. -/
def buildHash (t : ModelRegistryTransition) : String :=
  hash (.record
    [ ("actor", toPayload t.actor), ("approval", toPayload t.approval),
      ("from_state", toPayload t.fromState), ("model_version_id", toPayload t.modelVersionId),
      ("occurred_at", toPayload t.occurredAt), ("reason", toPayload t.reason),
      ("registry_record_id", toPayload t.registryRecordId), ("review", toPayload t.review),
      ("rollback_pointer", toPayload t.rollbackPointer), ("to_state", toPayload t.toState) ])

/-- The checks of `transition_is_fail_closed_and_deterministic` before its own digest. -/
def validateFields (t : ModelRegistryTransition) : Raises Unit := do
  require (t.fromState ≠ t.toState) "registry transitions must change state"
  require (t.toState ≠ .candidate)
    "candidate state is created as a record, not promoted by transition"
  require (¬ (t.fromState.isTerminal ∧ t.toState.isPromotion))
    "archive/rejected records cannot transition directly to champion or shadow"
  validateGovernanceMetadata t.toState t.rollbackPointer t.review t.approval

/-- Where a transition stores its hash and id. -/
def stamping : Library.Stamping ModelRegistryTransition String String where
  checkFields := validateFields
  storedHash := transitionHash
  storedId := transitionId
  contentHash := buildHash
  idOfHash := stableIdOfHash "REGISTRYTRANSITION" "transition_hash"
  stamp t newHash newId := { t with transitionHash := newHash, transitionId := newId }
  hashError := "transition_hash is not deterministic"
  idError := "transition_id is not deterministic"
  storedHash_stamp _ _ _ := rfl
  storedId_stamp _ _ _ := rfl
  contentHash_stamp _ _ _ := rfl
  checkFields_stamp _ _ _ := rfl

end ModelRegistryTransition

/-- `build_registry_transition`. -/
def buildRegistryTransition (registryRecordId modelVersionId : String)
    (fromState toState : ModelRegistryState) (actor : String) (occurredAt : AwareDatetime)
    (reason : String) (rollbackPointer : Option RegistryRollbackPointer)
    (review : Option RegistryReviewMetadata) (approval : Option RegistryApprovalMetadata) :
    Raises ModelRegistryTransition :=
  ModelRegistryTransition.stamping.construct
    { transitionId := "", transitionHash := "", registryRecordId := registryRecordId,
      modelVersionId := modelVersionId, fromState := fromState, toState := toState,
      actor := actor, occurredAt := occurredAt, reason := reason,
      rollbackPointer := rollbackPointer, review := review, approval := approval }

/-! ## What the checks establish -/

/-- The human metadata a state needs. -/
structure PromotionGoverned (rollbackPointer : Option RegistryRollbackPointer)
    (review : Option RegistryReviewMetadata) (approval : Option RegistryApprovalMetadata) :
    Prop where
  pointer : ∃ target, rollbackPointer = some target
  approved : ∃ reviewed approvedBy, review = some reviewed ∧ approval = some approvedBy ∧
    reviewed.decision = .approved ∧ reviewed.reviewedBy ≠ approvedBy.approvedBy ∧
    reviewed.reviewedAt ≤ approvedBy.approvedAt

theorem validatePromotion_eq_ok_iff (rollbackPointer : Option RegistryRollbackPointer)
    (review : Option RegistryReviewMetadata) (approval : Option RegistryApprovalMetadata) :
    validatePromotion rollbackPointer review approval = .ok () ↔
      PromotionGoverned rollbackPointer review approval := by
  unfold validatePromotion
  rw [check_bind_eq_ok_iff, require_eq_ok_iff, Option.isSome_iff_exists]
  constructor
  · rintro ⟨hpointer, h⟩
    cases review with
    | none => cases h
    | some reviewed =>
        cases approval with
        | none => cases h
        | some approvedBy =>
            simp only [check_bind_eq_ok_iff, require_eq_ok_iff, AwareDatetime.not_lt_iff] at h
            exact ⟨hpointer, reviewed, approvedBy, rfl, rfl, h⟩
  · rintro ⟨hpointer, reviewed, approvedBy, rfl, rfl, h⟩
    refine ⟨hpointer, ?_⟩
    simpa only [check_bind_eq_ok_iff, require_eq_ok_iff, AwareDatetime.not_lt_iff] using h

/-- What a state asks of the metadata that comes with it. -/
structure Governed (state : ModelRegistryState) (rollbackPointer : Option RegistryRollbackPointer)
    (review : Option RegistryReviewMetadata) (approval : Option RegistryApprovalMetadata) :
    Prop where
  promotion : state.isPromotion → PromotionGoverned rollbackPointer review approval
  rejection : state = .rejected →
    review.map RegistryReviewMetadata.decision = some .rejected ∧ approval = none
  candidate : state = .candidate → approval = none

theorem validateGovernanceMetadata_eq_ok_iff (state : ModelRegistryState)
    (rollbackPointer : Option RegistryRollbackPointer) (review : Option RegistryReviewMetadata)
    (approval : Option RegistryApprovalMetadata) :
    validateGovernanceMetadata state rollbackPointer review approval = .ok () ↔
      Governed state rollbackPointer review approval := by
  cases state with
  | champion =>
      rw [validateGovernanceMetadata, validatePromotion_eq_ok_iff]
      constructor
      · intro h
        exact ⟨fun _ => h, fun h => absurd h (by decide), fun h => absurd h (by decide)⟩
      · intro h
        exact h.promotion (.inl rfl)
  | shadow =>
      rw [validateGovernanceMetadata, validatePromotion_eq_ok_iff]
      constructor
      · intro h
        exact ⟨fun _ => h, fun h => absurd h (by decide), fun h => absurd h (by decide)⟩
      · intro h
        exact h.promotion (.inr rfl)
  | rejected =>
      simp only [validateGovernanceMetadata, check_bind_eq_ok_iff, require_eq_ok_iff,
        Option.isNone_iff_eq_none]
      constructor
      · intro h
        exact ⟨fun h => absurd h (by decide), fun _ => h, fun h => absurd h (by decide)⟩
      · intro h
        exact h.rejection rfl
  | candidate =>
      simp only [validateGovernanceMetadata, require_eq_ok_iff, Option.isNone_iff_eq_none]
      constructor
      · intro h
        exact ⟨fun h => absurd h (by decide), fun h => absurd h (by decide), fun _ => h⟩
      · intro h
        exact h.candidate rfl
  | archive =>
      simp only [validateGovernanceMetadata, true_iff]
      exact ⟨fun h => absurd h (by decide), fun h => absurd h (by decide),
        fun h => absurd h (by decide)⟩

/-- A step the lifecycle allows. -/
structure CanMove (source target : ModelRegistryState) : Prop where
  changes : source ≠ target
  not_candidate : target ≠ .candidate
  no_return : source.isTerminal → ¬ target.isPromotion

theorem ModelRegistryTransition.validate_eq_ok_iff (t : ModelRegistryTransition) :
    ModelRegistryTransition.stamping.validate t = .ok () ↔
      (CanMove t.fromState t.toState ∧
        Governed t.toState t.rollbackPointer t.review t.approval) ∧
      t.transitionHash = t.buildHash ∧
      t.transitionId = stableIdOfHash "REGISTRYTRANSITION" "transition_hash" t.buildHash := by
  have hfields : t.validateFields = .ok () ↔ CanMove t.fromState t.toState ∧
      Governed t.toState t.rollbackPointer t.review t.approval := by
    simp only [ModelRegistryTransition.validateFields, check_bind_eq_ok_iff, require_eq_ok_iff,
      validateGovernanceMetadata_eq_ok_iff]
    constructor
    · rintro ⟨hchanges, hcandidate, hreturn, hgoverned⟩
      exact ⟨⟨hchanges, hcandidate, fun hfrom hto => hreturn ⟨hfrom, hto⟩⟩, hgoverned⟩
    · rintro ⟨hmove, hgoverned⟩
      exact ⟨hmove.changes, hmove.not_candidate, fun h => hmove.no_return h.1 h.2, hgoverned⟩
  rw [Library.Stamping.validate_eq_ok_iff, ← hfields]
  rfl

end Identity

end TaModel.Contracts
