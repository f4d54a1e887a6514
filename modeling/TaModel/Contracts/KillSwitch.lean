import TaModel.Contracts.Canonical
import TaModel.Library.Stamping

/-!
# Kill-switch contracts

Scopes, audited transition records and point-in-time snapshots of the kill switch, from
`contracts/risk.py`. Records and snapshots are plain records: `validate` is what their constructors
run, and `make…` are the builders that fill in the deterministic identifiers.
-/

set_option autoImplicit false

namespace TaModel.Contracts

inductive KillSwitchScopeType where
  | global | account | venue | instrument | strategy
deriving DecidableEq

def KillSwitchScopeType.value : KillSwitchScopeType → String
  | .global => "global"
  | .account => "account"
  | .venue => "venue"
  | .instrument => "instrument"
  | .strategy => "strategy"

inductive KillSwitchState where
  | unknownFailClosed | clear | softLimited | pauseNewOrders | reduceOnly | cancelOnly | halted
deriving DecidableEq

def KillSwitchState.value : KillSwitchState → String
  | .unknownFailClosed => "unknown_fail_closed"
  | .clear => "clear"
  | .softLimited => "soft_limited"
  | .pauseNewOrders => "pause_new_orders"
  | .reduceOnly => "reduce_only"
  | .cancelOnly => "cancel_only"
  | .halted => "halted"

/-- `_state_severity` and `_KILL_STATE_SEVERITY`. -/
def KillSwitchState.severity : KillSwitchState → Nat
  | .clear => 0
  | .softLimited => 1
  | .pauseNewOrders => 2
  | .reduceOnly => 3
  | .cancelOnly => 4
  | .halted => 5
  | .unknownFailClosed => 6

theorem KillSwitchState.severity_injective (a b : KillSwitchState)
    (h : a.severity = b.severity) : a = b := by
  cases a <;> cases b <;> first | rfl | cases h

inductive KillSwitchTransitionSource where
  | manual | automated
deriving DecidableEq

def KillSwitchTransitionSource.value : KillSwitchTransitionSource → String
  | .manual => "manual"
  | .automated => "automated"

instance : ToPayload KillSwitchScopeType := ⟨fun x => .text x.value⟩
instance : ToPayload KillSwitchState := ⟨fun x => .text x.value⟩
instance : ToPayload KillSwitchTransitionSource := ⟨fun x => .text x.value⟩

/-! ## Scopes -/

/-- A scoped kill-switch key; the proof fields are `scope_id_matches_scope_type` and the
`CanonicalId` constraint. -/
structure KillSwitchScope where
  scopeType : KillSwitchScopeType
  scopeId : Option String
  global_iff_no_id : scopeType = .global ↔ scopeId = none
  id_canonical : ∀ id ∈ scopeId, isCanonicalId id = true
deriving DecidableEq

/-- The `(scope_type, scope_id)` key of a scope. -/
abbrev ScopeKey := KillSwitchScopeType × Option String

def KillSwitchScope.key (scope : KillSwitchScope) : ScopeKey := (scope.scopeType, scope.scopeId)

/-- The key of the global scope. -/
def globalKey : ScopeKey := (.global, none)

theorem KillSwitchScope.key_injective (a b : KillSwitchScope) (h : a.key = b.key) : a = b := by
  cases a
  cases b
  simpa [key] using h

instance : ToPayload KillSwitchScope := ⟨fun s =>
  .record [("scope_id", toPayload s.scopeId), ("scope_type", toPayload s.scopeType)]⟩

/-! ## Records -/

/-- Audited durable kill-switch transition record. -/
structure KillSwitchRecord where
  recordId : String
  scope : KillSwitchScope
  priorState : KillSwitchState
  newState : KillSwitchState
  actor : String
  actorRole : String
  transitionedAt : AwareDatetime
  reason : String
  cancelOpenOrders : Bool
  source : KillSwitchTransitionSource := .manual
  linkedIncidentId : Option String := none
  requirementIds : List String := ["FR-011", "NFR-004"]
deriving DecidableEq

/-- `_model_json(record)`. -/
instance : ToPayload KillSwitchRecord := ⟨fun r =>
  .record
    [ ("actor", toPayload r.actor), ("actor_role", toPayload r.actorRole),
      ("cancel_open_orders", toPayload r.cancelOpenOrders),
      ("linked_incident_id", toPayload r.linkedIncidentId),
      ("new_state", toPayload r.newState), ("prior_state", toPayload r.priorState),
      ("reason", toPayload r.reason), ("record_id", toPayload r.recordId),
      ("requirement_ids", toPayload r.requirementIds), ("scope", toPayload r.scope),
      ("source", toPayload r.source), ("transitioned_at", toPayload r.transitionedAt) ]⟩

namespace KillSwitchRecord

/-- The string constraints of a record. -/
def FieldsWellFormed (record : KillSwitchRecord) : Prop :=
  isNonEmptyString record.actor = true ∧ isNonEmptyString record.actorRole = true ∧
    isNonEmptyString record.reason = true ∧
    (∀ id ∈ record.linkedIncidentId, isCanonicalId id = true) ∧
    ∀ id ∈ record.requirementIds, isNonEmptyString id = true

instance (record : KillSwitchRecord) : Decidable record.FieldsWellFormed := by
  unfold FieldsWellFormed
  infer_instance

section Identity

variable [Sha256]

/-- `build_kill_switch_record_id`. -/
def buildId (record : KillSwitchRecord) : String :=
  stableId "KILLRECORD" (.record
    [ ("actor", toPayload record.actor), ("actor_role", toPayload record.actorRole),
      ("cancel_open_orders", toPayload record.cancelOpenOrders),
      ("linked_incident_id", toPayload record.linkedIncidentId),
      ("new_state", toPayload record.newState), ("prior_state", toPayload record.priorState),
      ("reason", toPayload record.reason), ("scope", toPayload record.scope),
      ("source", toPayload record.source),
      ("transitioned_at", toPayload record.transitionedAt) ])

/-- The validators `KillSwitchRecord(...)` runs. -/
def validate (record : KillSwitchRecord) : Raises Unit := do
  require record.FieldsWellFormed "String should have at least 1 character"
  require (record.recordId = record.buildId) "kill-switch record_id is not deterministic"

theorem validate_eq_ok_iff (record : KillSwitchRecord) :
    record.validate = .ok () ↔ record.FieldsWellFormed ∧ record.recordId = record.buildId := by
  unfold validate
  simp [bind_eq_ok_iff]

/-- A draft with its deterministic id filled in. -/
def withBuiltId (draft : KillSwitchRecord) : KillSwitchRecord :=
  { draft with recordId := draft.buildId }

/-- The constructor call of `make_kill_switch_record` on a draft. -/
def construct (draft : KillSwitchRecord) : Raises KillSwitchRecord := do
  draft.withBuiltId.validate
  .ok draft.withBuiltId

/-- The id check of a freshly built record never fails. -/
theorem construct_eq_ok_iff (draft record : KillSwitchRecord) :
    draft.construct = .ok record ↔ draft.FieldsWellFormed ∧ record = draft.withBuiltId := by
  have hid : draft.withBuiltId.recordId = draft.withBuiltId.buildId := rfl
  have hfields : draft.withBuiltId.FieldsWellFormed ↔ draft.FieldsWellFormed := Iff.rfl
  unfold construct
  rw [bind_eq_ok_iff]
  constructor
  · rintro ⟨u, hu, hr⟩
    obtain ⟨hf, -⟩ := (validate_eq_ok_iff _).mp hu
    cases hr
    exact ⟨hfields.mp hf, rfl⟩
  · rintro ⟨hf, rfl⟩
    exact ⟨(), (validate_eq_ok_iff _).mpr ⟨hfields.mpr hf, hid⟩, rfl⟩

end Identity

end KillSwitchRecord

/-! ## Snapshots -/

/-- Point-in-time effective kill-switch state. -/
structure KillSwitchSnapshot where
  snapshotId : String
  snapshotHash : String
  evaluatedAt : AwareDatetime
  evaluatedScopes : List KillSwitchScope
  activeState : KillSwitchState
  activeRecords : List KillSwitchRecord := []
  storeAvailable : Bool
  reason : String
  requirementIds : List String := ["FR-011", "NFR-004"]
deriving DecidableEq

namespace KillSwitchSnapshot

/-- The fields hashed by `build_kill_switch_snapshot_hash`. -/
def identityFields (s : KillSwitchSnapshot) : List (String × Payload) :=
  [ ("active_records", toPayload s.activeRecords), ("active_state", toPayload s.activeState),
    ("evaluated_at", toPayload s.evaluatedAt), ("evaluated_scopes", toPayload s.evaluatedScopes),
    ("reason", toPayload s.reason), ("requirement_ids", toPayload s.requirementIds),
    ("store_available", toPayload s.storeAvailable) ]

/-- `_model_json(snapshot)`. -/
instance : ToPayload KillSwitchSnapshot := ⟨fun s =>
  .record (("snapshot_hash", toPayload s.snapshotHash) ::
    ("snapshot_id", toPayload s.snapshotId) :: s.identityFields)⟩

section Identity

variable [Sha256]

/-- `build_kill_switch_snapshot_hash`. -/
def buildHash (s : KillSwitchSnapshot) : String := hash (.record s.identityFields)

/-- `build_kill_switch_snapshot_id`. -/
def buildId (snapshotHash : String) : String :=
  stableIdOfHash "KILLSNAPSHOT" "snapshot_hash" snapshotHash

/-- The part of the validators that looks at neither the hash nor the id of the snapshot. -/
def validateFields (s : KillSwitchSnapshot) : Raises Unit := do
  s.activeRecords.forM KillSwitchRecord.validate
  require (isNonEmptyString s.reason) "reason: String should have at least 1 character"
  require (s.activeState ≠ .unknownFailClosed → s.activeRecords ≠ [])
    "non-unknown kill-switch snapshot requires an active record"

theorem validateFields_eq_ok_iff (s : KillSwitchSnapshot) :
    s.validateFields = .ok () ↔
      (∀ record ∈ s.activeRecords, record.validate = .ok ()) ∧
      isNonEmptyString s.reason = true ∧
      (s.activeState ≠ .unknownFailClosed → s.activeRecords ≠ []) := by
  simp only [validateFields, check_bind_eq_ok_iff, require_eq_ok_iff, forM_eq_ok_iff]

/-- Where a snapshot stores its hash and id. -/
def stamping : Library.Stamping KillSwitchSnapshot String String where
  checkFields := validateFields
  storedHash := snapshotHash
  storedId := snapshotId
  contentHash := buildHash
  idOfHash := buildId
  stamp s newHash newId := { s with snapshotHash := newHash, snapshotId := newId }
  hashError := "kill-switch snapshot_hash is not deterministic"
  idError := "kill-switch snapshot_id is not deterministic"
  storedHash_stamp _ _ _ := rfl
  storedId_stamp _ _ _ := rfl
  contentHash_stamp _ _ _ := rfl
  checkFields_stamp _ _ _ := rfl

/-- The validators `KillSwitchSnapshot(...)` runs. -/
def validate (s : KillSwitchSnapshot) : Raises Unit := stamping.validate s

/-- The builder: a draft gets its hash and id, and is validated. -/
def construct (draft : KillSwitchSnapshot) : Raises KillSwitchSnapshot := stamping.construct draft

end Identity

end KillSwitchSnapshot

section Builders

variable [Sha256]

/-- `make_kill_switch_snapshot`. -/
def makeKillSwitchSnapshot (evaluatedAt : AwareDatetime) (evaluatedScopes : List KillSwitchScope)
    (activeState : KillSwitchState) (activeRecords : List KillSwitchRecord)
    (storeAvailable : Bool) (reason : String) : Raises KillSwitchSnapshot :=
  KillSwitchSnapshot.construct
    { snapshotId := "KILLSNAPSHOT:PLACEHOLDER", snapshotHash := "", evaluatedAt := evaluatedAt,
      evaluatedScopes := evaluatedScopes, activeState := activeState,
      activeRecords := activeRecords, storeAvailable := storeAvailable, reason := reason }

/-- `make_unknown_kill_switch_snapshot`. -/
def makeUnknownKillSwitchSnapshot (evaluatedAt : AwareDatetime)
    (evaluatedScopes : List KillSwitchScope) (storeAvailable : Bool) (reason : String) :
    Raises KillSwitchSnapshot :=
  makeKillSwitchSnapshot evaluatedAt evaluatedScopes .unknownFailClosed [] storeAvailable reason

end Builders

end TaModel.Contracts
