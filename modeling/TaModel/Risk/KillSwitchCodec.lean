import TaModel.Contracts.Json
import TaModel.Contracts.KillSwitch

/-!
# Kill-switch records as JSON

`dump` is `record.model_dump(mode="json")`, `modelValidate` is `KillSwitchRecord.model_validate` on
a JSON value. A valid record reads back from its own dump, and whatever reads is valid.
-/

set_option autoImplicit false

namespace TaModel.Risk

open Contracts

/-! ## Writing -/

/-- The fields of a dumped scope. -/
def dumpScopeFields (scope : KillSwitchScope) : List (String × Json) :=
  [("scope_type", .text scope.scopeType.value), ("scope_id", Json.ofOption scope.scopeId)]

def dumpScope (scope : KillSwitchScope) : Json := .record (dumpScopeFields scope)

/-- The fields of a dumped record. -/
def dumpFields (record : KillSwitchRecord) : List (String × Json) :=
    [ ("record_id", .text record.recordId), ("scope", dumpScope record.scope),
      ("prior_state", .text record.priorState.value), ("new_state", .text record.newState.value),
      ("actor", .text record.actor), ("actor_role", .text record.actorRole),
      ("transitioned_at", .instant record.transitionedAt), ("reason", .text record.reason),
      ("cancel_open_orders", .bool record.cancelOpenOrders),
      ("source", .text record.source.value),
      ("linked_incident_id", Json.ofOption record.linkedIncidentId),
      ("requirement_ids", .list (record.requirementIds.map Json.text)) ]

/-- `record.model_dump(mode="json")`. -/
def dumpRecord (record : KillSwitchRecord) : Json := .record (dumpFields record)

/-! ## Reading -/

def readScopeType : Json → Option KillSwitchScopeType :=
  Json.readEnum [.global, .account, .venue, .instrument, .strategy] KillSwitchScopeType.value

def readState : Json → Option KillSwitchState :=
  Json.readEnum
    [.unknownFailClosed, .clear, .softLimited, .pauseNewOrders, .reduceOnly, .cancelOnly, .halted]
    KillSwitchState.value

def readSource : Json → Option KillSwitchTransitionSource :=
  Json.readEnum [.manual, .automated] KillSwitchTransitionSource.value

/-- A scope from its two fields, checked by `scope_id_matches_scope_type`. -/
def makeScope (scopeType : KillSwitchScopeType) (scopeId : Option String) :
    Option KillSwitchScope :=
  if h : (scopeType = .global ↔ scopeId = none) ∧ ∀ id ∈ scopeId, isCanonicalId id = true then
    some ⟨scopeType, scopeId, h.1, h.2⟩
  else none

/-- `KillSwitchScope.model_validate`. -/
def readScope : Json → Option KillSwitchScope
  | .record fields => do
      guard (Json.onlyKeys fields ["scope_type", "scope_id"])
      let scopeType ← Json.required fields "scope_type" readScopeType
      let scopeId ← Json.optional fields "scope_id" (Json.readOption Json.readCanonicalId) none
      makeScope scopeType scopeId
  | _ => none

/-- The keys of a record. -/
def recordKeys : List String :=
  [ "record_id", "scope", "prior_state", "new_state", "actor", "actor_role", "transitioned_at",
    "reason", "cancel_open_orders", "source", "linked_incident_id", "requirement_ids" ]

/-- The record when its own validator accepts it. -/
def accept [Sha256] (record : KillSwitchRecord) : Option KillSwitchRecord :=
  match record.validate with
  | .ok _ => some record
  | .error _ => none

theorem accept_eq_some_iff [Sha256] (draft record : KillSwitchRecord) :
    accept draft = some record ↔ draft.validate = .ok () ∧ draft = record := by
  simp only [accept]
  cases draft.validate with
  | error e => simp
  | ok u => simp

section Reading

variable [LaxParsing]

/-- The fields of a record, each validated on its own. -/
def readRecordFields (fields : List (String × Json)) : Option KillSwitchRecord := do
  guard (Json.onlyKeys fields recordKeys)
  let recordId ← Json.required fields "record_id" Json.readCanonicalId
  let scope ← Json.required fields "scope" readScope
  let priorState ← Json.required fields "prior_state" readState
  let newState ← Json.required fields "new_state" readState
  let actor ← Json.required fields "actor" Json.readNonEmptyString
  let actorRole ← Json.required fields "actor_role" Json.readNonEmptyString
  let transitionedAt ← Json.required fields "transitioned_at" Json.readDatetime
  let reason ← Json.required fields "reason" Json.readNonEmptyString
  let cancelOpenOrders ← Json.required fields "cancel_open_orders" Json.readBool
  let source ← Json.optional fields "source" readSource .manual
  let linkedIncidentId ← Json.optional fields "linked_incident_id"
    (Json.readOption Json.readCanonicalId) none
  let requirementIds ← Json.optional fields "requirement_ids"
    (Json.readList Json.readNonEmptyString) ["FR-011", "NFR-004"]
  some
    { recordId := recordId, scope := scope, priorState := priorState, newState := newState,
      actor := actor, actorRole := actorRole, transitionedAt := transitionedAt, reason := reason,
      cancelOpenOrders := cancelOpenOrders, source := source,
      linkedIncidentId := linkedIncidentId, requirementIds := requirementIds }

variable [Sha256]

/-- `KillSwitchRecord.model_validate`. -/
def modelValidate : Json → Option KillSwitchRecord
  | .record fields => (readRecordFields fields).bind accept
  | _ => none

/-- What reads is valid. -/
theorem validate_of_modelValidate {json : Json} {record : KillSwitchRecord}
    (h : modelValidate json = some record) : record.validate = .ok () := by
  cases json with
  | record fields =>
      obtain ⟨draft, -, haccept⟩ := Option.bind_eq_some_iff.mp h
      obtain ⟨hvalid, rfl⟩ := (accept_eq_some_iff draft record).mp haccept
      exact hvalid
  | null => cases h
  | bool b => cases h
  | int n => cases h
  | number q => cases h
  | text s => cases h
  | instant t => cases h
  | list items => cases h

end Reading

/-! ## Round trip -/

theorem readScopeType_value (scopeType : KillSwitchScopeType) :
    readScopeType (.text scopeType.value) = some scopeType := by
  cases scopeType <;> decide

theorem readState_value (state : KillSwitchState) :
    readState (.text state.value) = some state := by
  cases state <;> decide

theorem readSource_value (source : KillSwitchTransitionSource) :
    readSource (.text source.value) = some source := by
  cases source <;> decide

theorem readRequirementIds_map {ids : List String} (h : ∀ id ∈ ids, isNonEmptyString id = true) :
    Json.readList Json.readNonEmptyString (.list (ids.map Json.text)) = some ids := by
  have hall : Json.readAll Json.readNonEmptyString (ids.map Json.text) = some (ids.map id) :=
    Json.readAll_map fun id hid => Json.readNonEmptyString_text (h id hid)
  rw [List.map_id] at hall
  exact hall

theorem readScope_dumpScope (scope : KillSwitchScope) :
    readScope (dumpScope scope) = some scope := by
  have hnodup : ((dumpScopeFields scope).map Prod.fst).Nodup := by
    show ["scope_type", "scope_id"].Nodup
    decide
  have hkeys : Json.onlyKeys (dumpScopeFields scope) ["scope_type", "scope_id"] = true :=
    Json.onlyKeys_map_fst (dumpScopeFields scope)
  have htype : Json.required (dumpScopeFields scope) "scope_type" readScopeType =
      some scope.scopeType :=
    Json.required_of_mem hnodup (by simp [dumpScopeFields]) (readScopeType_value scope.scopeType)
  have hid : Json.optional (dumpScopeFields scope) "scope_id"
      (Json.readOption Json.readCanonicalId) none = some scope.scopeId :=
    Json.optional_of_mem hnodup (by simp [dumpScopeFields])
      (Json.readOption_ofOption fun id hid => Json.readCanonicalId_text (scope.id_canonical id hid))
  have hmake : makeScope scope.scopeType scope.scopeId = some scope :=
    dif_pos ⟨scope.global_iff_no_id, scope.id_canonical⟩
  simp only [readScope, dumpScope, hkeys, htype, hid, hmake, guard_true, Option.bind_eq_bind,
    Option.bind_some, Option.pure_def]

section RoundTrip

variable [LaxParsing]

/-- The fields of a dumped record read back. -/
theorem readRecordFields_dumpFields {record : KillSwitchRecord}
    (hid : isCanonicalId record.recordId = true) (hfields : record.FieldsWellFormed) :
    readRecordFields (dumpFields record) = some record := by
  obtain ⟨hactor, hrole, hreason, hincident, hrequirements⟩ := hfields
  have hnodup : ((dumpFields record).map Prod.fst).Nodup := by
    show recordKeys.Nodup
    decide
  have hkeys : Json.onlyKeys (dumpFields record) recordKeys = true :=
    Json.onlyKeys_map_fst (dumpFields record)
  have hrecordId : Json.required (dumpFields record) "record_id" Json.readCanonicalId =
      some record.recordId :=
    Json.required_of_mem hnodup (by simp [dumpFields]) (Json.readCanonicalId_text hid)
  have hscope : Json.required (dumpFields record) "scope" readScope = some record.scope :=
    Json.required_of_mem hnodup (by simp [dumpFields]) (readScope_dumpScope record.scope)
  have hprior : Json.required (dumpFields record) "prior_state" readState =
      some record.priorState :=
    Json.required_of_mem hnodup (by simp [dumpFields]) (readState_value record.priorState)
  have hnew : Json.required (dumpFields record) "new_state" readState = some record.newState :=
    Json.required_of_mem hnodup (by simp [dumpFields]) (readState_value record.newState)
  have hactor : Json.required (dumpFields record) "actor" Json.readNonEmptyString =
      some record.actor :=
    Json.required_of_mem hnodup (by simp [dumpFields]) (Json.readNonEmptyString_text hactor)
  have hrole : Json.required (dumpFields record) "actor_role" Json.readNonEmptyString =
      some record.actorRole :=
    Json.required_of_mem hnodup (by simp [dumpFields]) (Json.readNonEmptyString_text hrole)
  have htime : Json.required (dumpFields record) "transitioned_at" Json.readDatetime =
      some record.transitionedAt := by
    have hmem : ("transitioned_at", Json.instant record.transitionedAt) ∈ dumpFields record := by
      simp [dumpFields]
    exact Json.required_of_mem hnodup hmem rfl
  have hreason : Json.required (dumpFields record) "reason" Json.readNonEmptyString =
      some record.reason :=
    Json.required_of_mem hnodup (by simp [dumpFields]) (Json.readNonEmptyString_text hreason)
  have hcancel : Json.required (dumpFields record) "cancel_open_orders" Json.readBool =
      some record.cancelOpenOrders := by
    have hmem : ("cancel_open_orders", Json.bool record.cancelOpenOrders) ∈
        dumpFields record := by
      simp [dumpFields]
    exact Json.required_of_mem hnodup hmem rfl
  have hsource : Json.optional (dumpFields record) "source" readSource .manual =
      some record.source :=
    Json.optional_of_mem hnodup (by simp [dumpFields]) (readSource_value record.source)
  have hincident : Json.optional (dumpFields record) "linked_incident_id"
      (Json.readOption Json.readCanonicalId) none = some record.linkedIncidentId :=
    Json.optional_of_mem hnodup (by simp [dumpFields])
      (Json.readOption_ofOption fun id hid => Json.readCanonicalId_text (hincident id hid))
  have hrequirements : Json.optional (dumpFields record) "requirement_ids"
      (Json.readList Json.readNonEmptyString) ["FR-011", "NFR-004"] =
      some record.requirementIds :=
    Json.optional_of_mem hnodup (by simp [dumpFields]) (readRequirementIds_map hrequirements)
  simp only [readRecordFields, hkeys, hrecordId, hscope, hprior, hnew, hactor, hrole, htime,
    hreason, hcancel, hsource, hincident, hrequirements, guard_true, Option.bind_eq_bind,
    Option.bind_some, Option.pure_def]

/-- A valid record reads back from its dump. -/
theorem modelValidate_dumpRecord [Sha256] {record : KillSwitchRecord}
    (h : record.validate = .ok ()) : modelValidate (dumpRecord record) = some record := by
  obtain ⟨hfields, hid⟩ := (KillSwitchRecord.validate_eq_ok_iff record).mp h
  have hcanonical : isCanonicalId record.recordId = true := by
    rw [hid]
    exact isCanonicalId_stableId _ _ (by decide) (by decide)
  have hread := readRecordFields_dumpFields hcanonical hfields
  show (readRecordFields (dumpFields record)).bind accept = some record
  rw [hread, Option.bind_some]
  exact (accept_eq_some_iff record record).mpr ⟨h, rfl⟩

end RoundTrip

end TaModel.Risk
