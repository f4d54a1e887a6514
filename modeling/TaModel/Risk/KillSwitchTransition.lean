import TaModel.Risk.KillSwitchStore

/-!
# Transitions of the kill-switch store

`FileKillSwitchStateStore.transition`: read the log, build the audited record from the latest state
of its scope, write the extended log to a temporary file and rename it over the store. A write is
given the step at which it fails, if any.

Every fact about a transition comes from four rules: when it leaves the store alone, what it
writes, how the written log reads back and when the call returns.
-/

set_option autoImplicit false

namespace TaModel.Risk

open Contracts

/-- The arguments of a `transition` call. -/
structure TransitionCall where
  scope : KillSwitchScope
  newState : KillSwitchState
  actor : String
  actorRole : String
  transitionedAt : AwareDatetime
  reason : String
  cancelOpenOrders : Bool
  source : KillSwitchTransitionSource := .manual
  linkedIncidentId : Option String := none
deriving DecidableEq

namespace TransitionCall

/-- The draft that `make_kill_switch_record` builds. -/
def draft (call : TransitionCall) (priorState : KillSwitchState) : KillSwitchRecord where
  recordId := "KILLRECORD:PLACEHOLDER"
  scope := call.scope
  priorState := priorState
  newState := call.newState
  actor := call.actor
  actorRole := call.actorRole
  transitionedAt := call.transitionedAt
  reason := call.reason
  cancelOpenOrders := call.cancelOpenOrders
  source := call.source
  linkedIncidentId := call.linkedIncidentId

/-- The string arguments satisfy the constraints of the record. -/
def WellFormed (call : TransitionCall) : Prop :=
  (call.draft .unknownFailClosed).FieldsWellFormed

instance (call : TransitionCall) : Decidable call.WellFormed :=
  inferInstanceAs (Decidable (call.draft .unknownFailClosed).FieldsWellFormed)

end TransitionCall

/-- Where a write can stop: a file-system call that fails, or the process right after the rename. -/
inductive WriteFault where
  | mkdir
  | writeTemp (written : FileContent)
  | replace
  | interrupted

/-- Whether a write gets as far as renaming the temporary file over the store. -/
def replacesStore : Option WriteFault → Bool
  | none => true
  | some .mkdir => false
  | some (.writeTemp _) => false
  | some .replace => false
  | some .interrupted => true

/-- `_write_records`. -/
def writeRecords (records : List KillSwitchRecord) (fault : Option WriteFault) (disk : Disk) :
    Raises Unit × Disk :=
  match fault with
  | some .mkdir => (.error "OSError: mkdir", disk)
  | some (.writeTemp written) => (.error "OSError: write_text", { disk with temp := written })
  | some .replace => (.error "OSError: replace", { disk with temp := .json (logPayload records) })
  | some .interrupted =>
      (.error "interrupted", { store := .json (logPayload records), temp := .absent })
  | none => (.ok (), { store := .json (logPayload records), temp := .absent })

theorem writeRecords_store (records : List KillSwitchRecord) (fault : Option WriteFault)
    (disk : Disk) :
    (writeRecords records fault disk).2.store =
      if replacesStore fault then .json (logPayload records) else disk.store := by
  cases fault with
  | none => rfl
  | some fault => cases fault <;> rfl

theorem writeRecords_ok_iff (records : List KillSwitchRecord) (fault : Option WriteFault)
    (disk : Disk) : (writeRecords records fault disk).1 = .ok () ↔ fault = none := by
  cases fault with
  | none => exact ⟨fun _ => rfl, fun _ => rfl⟩
  | some fault => cases fault <;> simp [writeRecords]

/-- The state a transition records as the prior one. -/
def priorState (records : List KillSwitchRecord) (scope : KillSwitchScope) : KillSwitchState :=
  (latestState records scope.key).getD .unknownFailClosed

/-- One more record changes the latest state of its own scope at most. -/
theorem latestState_append_of_ne {records : List KillSwitchRecord} {record : KillSwitchRecord}
    {key : ScopeKey} (h : record.scope.key ≠ key) :
    latestState (records ++ [record]) key = latestState records key := by
  simp only [latestState, latestRecordsByScope]
  rw [Library.lookup_latestEntries_append, if_neg h]

/-- The first record of a scope is its latest. -/
theorem latestState_append_of_fresh {records : List KillSwitchRecord} {record : KillSwitchRecord}
    (h : latestState records record.scope.key = none) :
    latestState (records ++ [record]) record.scope.key = some record.newState := by
  have hnone : (latestRecordsByScope records).lookup record.scope.key = none :=
    Option.map_eq_none_iff.mp h
  simp only [latestState, latestRecordsByScope] at *
  rw [Library.lookup_latestEntries_append, if_pos rfl, hnone]
  rfl

section Transition

variable [Sha256]

/-- The record a call appends to the records it read. -/
def appendedRecord (call : TransitionCall) (records : List KillSwitchRecord) : KillSwitchRecord :=
  (call.draft (priorState records call.scope)).withBuiltId

/-- The part of `transition` after the log was read: `None` counts as an empty log. -/
def appendTransition (call : TransitionCall) (fault : Option WriteFault) (disk : Disk)
    (read : Option (List KillSwitchRecord)) : Raises KillSwitchRecord × Disk :=
  let records := read.getD []
  match (call.draft (priorState records call.scope)).construct with
  | .error error => (.error error, disk)
  | .ok record =>
      let outcome := writeRecords (records ++ [record]) fault disk
      (outcome.1.map fun _ => record, outcome.2)

/-- `transition`. -/
def transition [LaxParsing] (call : TransitionCall) (fault : Option WriteFault) (disk : Disk) :
    Raises KillSwitchRecord × Disk :=
  match readRecords disk.store with
  | .error error => (.error error, disk)
  | .ok read => appendTransition call fault disk read

theorem construct_draft_of_wellFormed {call : TransitionCall} (h : call.WellFormed)
    (records : List KillSwitchRecord) :
    (call.draft (priorState records call.scope)).construct = .ok (appendedRecord call records) :=
  (KillSwitchRecord.construct_eq_ok_iff _ _).mpr ⟨h, rfl⟩

theorem construct_draft_of_not_wellFormed {call : TransitionCall} (h : ¬ call.WellFormed)
    (records : List KillSwitchRecord) :
    ∃ error, (call.draft (priorState records call.scope)).construct = .error error := by
  cases hconstruct : (call.draft (priorState records call.scope)).construct with
  | error error => exact ⟨error, rfl⟩
  | ok record => exact absurd ((KillSwitchRecord.construct_eq_ok_iff _ _).mp hconstruct).1 h

/-- The appended record passes its validators. -/
theorem appendedRecord_valid {call : TransitionCall} (h : call.WellFormed)
    (records : List KillSwitchRecord) : (appendedRecord call records).validate = .ok () :=
  (KillSwitchRecord.validate_eq_ok_iff _).mpr ⟨h, rfl⟩

theorem appended_valid {call : TransitionCall} (hcall : call.WellFormed)
    {records : List KillSwitchRecord} (hrecords : ∀ record ∈ records, record.validate = .ok ()) :
    ∀ record ∈ records ++ [appendedRecord call records], record.validate = .ok () := by
  intro record hmem
  rcases List.mem_append.mp hmem with hmem | hmem
  · exact hrecords record hmem
  · rw [List.mem_singleton.mp hmem]
    exact appendedRecord_valid hcall records

variable [LaxParsing] {call : TransitionCall} {fault : Option WriteFault} {disk : Disk}

/-! ## The four rules -/

theorem transition_store_of_error {error : String} (hread : readRecords disk.store = .error error) :
    (transition call fault disk).2.store = disk.store := by
  simp only [transition, hread]

/-- A call that is rejected, or whose write stops before the rename, leaves the store alone. -/
theorem transition_store_of_not_written
    (h : ¬ (call.WellFormed ∧ replacesStore fault = true)) :
    (transition call fault disk).2.store = disk.store := by
  simp only [transition]
  cases hread : readRecords disk.store with
  | error error => rfl
  | ok read =>
      by_cases hcall : call.WellFormed
      · have hfault : replacesStore fault = false := by simpa [hcall] using h
        simp only [appendTransition, construct_draft_of_wellFormed hcall, writeRecords_store,
          hfault, Bool.false_eq_true, if_false]
      · obtain ⟨error, herror⟩ := construct_draft_of_not_wellFormed hcall (read.getD [])
        simp only [appendTransition, herror]

/-- What a call writes: the records it read and the new one. -/
theorem transition_store_of_written {read : Option (List KillSwitchRecord)}
    (hread : readRecords disk.store = .ok read) (hcall : call.WellFormed)
    (hfault : replacesStore fault = true) :
    (transition call fault disk).2.store =
      .json (logPayload (read.getD [] ++ [appendedRecord call (read.getD [])])) := by
  simp only [transition, hread, appendTransition, construct_draft_of_wellFormed hcall,
    writeRecords_store, hfault, if_true]

/-- The written log reads back. -/
theorem readRecords_transition {read : Option (List KillSwitchRecord)}
    (hread : readRecords disk.store = .ok read) (hcall : call.WellFormed)
    (hfault : replacesStore fault = true) :
    readRecords (transition call fault disk).2.store =
      .ok (some (read.getD [] ++ [appendedRecord call (read.getD [])])) := by
  have hrecords : ∀ record ∈ read.getD [], record.validate = .ok () := by
    cases read with
    | none =>
        intro record hmem
        cases hmem
    | some records => exact readRecords_valid hread
  rw [transition_store_of_written hread hcall hfault]
  exact readRecords_logPayload (appended_valid hcall hrecords)

/-- A call returns when it is well formed and its write does not fail. -/
theorem transition_returns_iff {read : Option (List KillSwitchRecord)}
    (hread : readRecords disk.store = .ok read) (record : KillSwitchRecord) :
    (transition call fault disk).1 = .ok record ↔
      call.WellFormed ∧ fault = none ∧ record = appendedRecord call (read.getD []) := by
  simp only [transition, hread]
  by_cases hcall : call.WellFormed
  · simp only [appendTransition, construct_draft_of_wellFormed hcall]
    cases hwrite : (writeRecords (read.getD [] ++ [appendedRecord call (read.getD [])]) fault
        disk).1 with
    | error error =>
        have hfault : fault ≠ none := by
          intro hnone
          rw [(writeRecords_ok_iff _ fault disk).mpr hnone] at hwrite
          cases hwrite
        simp [Except.map, hfault]
    | ok u =>
        have hfault : fault = none := (writeRecords_ok_iff _ fault disk).mp hwrite
        simp [Except.map, hfault, hcall, eq_comm]
  · obtain ⟨error, herror⟩ := construct_draft_of_not_wellFormed hcall (read.getD [])
    simp [appendTransition, herror, hcall]

end Transition

end TaModel.Risk
