import Mathlib.Data.List.MinMax
import Mathlib.Data.String.Basic
import TaModel.Library.LatestEntry
import TaModel.Risk.KillSwitchCodec

/-!
# The file-backed kill-switch store

`FileKillSwitchStateStore` of `risk/kill_switch.py`: reading the log file, the snapshot of the most
severe applicable state, and the append of one audited transition. The file is a `FileContent`, so
that every way in which reading it can go wrong is a case; a write can stop at any of its
file-system steps.

`loadSnapshot_of_records` and `loadSnapshot_of_unavailable` say what a load reports;
`transition_of_wellFormed` and its siblings say what one transition does to the disk.
-/

set_option autoImplicit false

namespace TaModel.Risk

open Contracts

/-! ## The file -/

/-- What is at the path of the store. -/
inductive FileContent where
  | absent
  /-- `read_text` raises `OSError`. -/
  | unreadable
  /-- `json.loads` raises `JSONDecodeError`. -/
  | malformed
  /-- Reading raises an exception that `_read_records` does not catch. -/
  | raising (error : String)
  | json (payload : Json)

/-- The store file and the temporary file next to it. -/
structure Disk where
  store : FileContent
  temp : FileContent

/-- `_SCHEMA_VERSION`. -/
def schemaVersion : String := "kill-switch-store.v1"

/-- `payload.get("schema_version") == self._SCHEMA_VERSION`. -/
def hasSchemaVersion (fields : List (String × Json)) : Bool :=
  match Json.field fields "schema_version" with
  | some (.text version) => version == schemaVersion
  | _ => false

section Reading

variable [LaxParsing] [Sha256]

/-- The records of a payload, or `None`. -/
def recordsOf (fields : List (String × Json)) : Option (List KillSwitchRecord) :=
  if hasSchemaVersion fields then
    (Json.field fields "records").bind (Json.readList modelValidate)
  else none

/-- `_read_records`. -/
def readRecords : FileContent → Raises (Option (List KillSwitchRecord))
  | .absent => .ok (some [])
  | .unreadable => .ok none
  | .malformed => .ok none
  | .raising error => .error error
  | .json (.record fields) => .ok (recordsOf fields)
  | .json _ => .error "AttributeError: object has no attribute 'get'"

/-- The payload `_write_records` dumps. -/
def logPayload (records : List KillSwitchRecord) : Json :=
  .record [("schema_version", .text schemaVersion), ("records", .list (records.map dumpRecord))]

theorem recordsOf_valid {fields : List (String × Json)} {records : List KillSwitchRecord}
    (h : recordsOf fields = some records) : ∀ record ∈ records, record.validate = .ok () := by
  simp only [recordsOf] at h
  split_ifs at h
  obtain ⟨json, -, hread⟩ := Option.bind_eq_some_iff.mp h
  cases json with
  | list items =>
      exact Json.readAll_forall (fun _ _ => validate_of_modelValidate) hread
  | null => cases hread
  | bool b => cases hread
  | int n => cases hread
  | number q => cases hread
  | text s => cases hread
  | instant t => cases hread
  | record fields => cases hread

/-- Every record that is read is valid. -/
theorem readRecords_valid {store : FileContent} {records : List KillSwitchRecord}
    (h : readRecords store = .ok (some records)) :
    ∀ record ∈ records, record.validate = .ok () := by
  cases store with
  | absent =>
      cases h
      intro record hmem
      cases hmem
  | unreadable => cases h
  | malformed => cases h
  | raising error => cases h
  | json payload =>
      cases payload with
      | record fields => exact recordsOf_valid (Except.ok.inj h)
      | null => cases h
      | bool b => cases h
      | int n => cases h
      | number q => cases h
      | text s => cases h
      | instant t => cases h
      | list items => cases h

/-- A log of valid records reads back. -/
theorem readRecords_logPayload {records : List KillSwitchRecord}
    (h : ∀ record ∈ records, record.validate = .ok ()) :
    readRecords (.json (logPayload records)) = .ok (some records) := by
  have hread : Json.readAll modelValidate (records.map dumpRecord) = some (records.map id) :=
    Json.readAll_map fun record hmem => modelValidate_dumpRecord (h record hmem)
  rw [List.map_id] at hread
  have hversion : hasSchemaVersion [("schema_version", .text schemaVersion),
      ("records", .list (records.map dumpRecord))] = true := by
    simp [hasSchemaVersion, Json.field]
  have hrecords : Json.field [("schema_version", .text schemaVersion),
      ("records", .list (records.map dumpRecord))] "records" =
      some (.list (records.map dumpRecord)) := by
    simp [Json.field]
  simp only [readRecords, logPayload, recordsOf, hversion, if_true, hrecords, Option.bind_some,
    Json.readList, hread]

end Reading

/-! ## Latest records -/

/-- The sort key `(transitioned_at, record_id)`. -/
def recordLe (a b : KillSwitchRecord) : Prop :=
  a.transitionedAt < b.transitionedAt ∨
    (a.transitionedAt ≤ b.transitionedAt ∧ a.recordId ≤ b.recordId)

instance : DecidableRel recordLe := fun a b => by
  simp only [recordLe]
  infer_instance

instance : IsTrans KillSwitchRecord recordLe where
  trans a b c hab hbc := by
    simp only [recordLe, AwareDatetime.lt_def, AwareDatetime.le_def] at *
    rcases hab with hab | ⟨hab, hid⟩
    · rcases hbc with hbc | ⟨hbc, -⟩
      · exact Or.inl (by omega)
      · exact Or.inl (by omega)
    · rcases hbc with hbc | ⟨hbc, hid'⟩
      · exact Or.inl (by omega)
      · exact Or.inr ⟨by omega, le_trans hid hid'⟩

instance : Std.Total recordLe where
  total a b := by
    simp only [recordLe, AwareDatetime.lt_def, AwareDatetime.le_def]
    rcases lt_trichotomy a.transitionedAt.utc b.transitionedAt.utc with h | h | h
    · exact Or.inl (Or.inl h)
    · rcases le_total a.recordId b.recordId with hid | hid
      · exact Or.inl (Or.inr ⟨h.le, hid⟩)
      · exact Or.inr (Or.inr ⟨h.ge, hid⟩)
    · exact Or.inr (Or.inl h)

/-- `_latest_records_by_scope`. -/
def latestRecordsByScope (records : List KillSwitchRecord) :
    AList (fun _ : ScopeKey => KillSwitchRecord) :=
  Library.latestEntries recordLe (fun record => record.scope.key) records

/-- The state of the latest record of a scope. -/
def latestState (records : List KillSwitchRecord) (key : ScopeKey) : Option KillSwitchState :=
  ((latestRecordsByScope records).lookup key).map KillSwitchRecord.newState

/-- The keys of the evaluated scopes and the global key. -/
def scopeKeys (evaluatedScopes : List KillSwitchScope) : List ScopeKey :=
  globalKey :: evaluatedScopes.map KillSwitchScope.key

/-- `_matching_records`. -/
def matchingRecords (latestByScope : AList (fun _ : ScopeKey => KillSwitchRecord))
    (evaluatedScopes : List KillSwitchScope) : List KillSwitchRecord :=
  (latestByScope.entries.filter fun entry => decide (entry.1 ∈ scopeKeys evaluatedScopes)).map
    Sigma.snd

theorem mem_matchingRecords_iff {latestByScope : AList (fun _ : ScopeKey => KillSwitchRecord)}
    {evaluatedScopes : List KillSwitchScope} {record : KillSwitchRecord} :
    record ∈ matchingRecords latestByScope evaluatedScopes ↔
      ∃ key ∈ scopeKeys evaluatedScopes, latestByScope.lookup key = some record := by
  simp only [matchingRecords, List.mem_map, List.mem_filter, decide_eq_true_eq]
  constructor
  · rintro ⟨⟨key, found⟩, ⟨hmem, hkey⟩, rfl⟩
    exact ⟨key, hkey, AList.mem_lookup_iff.mpr hmem⟩
  · rintro ⟨key, hkey, hlookup⟩
    exact ⟨⟨key, record⟩, ⟨AList.mem_lookup_iff.mp hlookup, hkey⟩, rfl⟩

/-! ## Severity -/

/-- The most severe of some states; without any, the fail-closed one. -/
def mostSevere (states : List KillSwitchState) : KillSwitchState :=
  (states.argmax KillSwitchState.severity).getD .unknownFailClosed

theorem mostSevere_eq_of_forall_le {states : List KillSwitchState} {state : KillSwitchState}
    (hmem : state ∈ states) (hle : ∀ other ∈ states, other.severity ≤ state.severity) :
    mostSevere states = state := by
  simp only [mostSevere]
  cases hmax : states.argmax KillSwitchState.severity with
  | none =>
      rw [List.argmax_eq_none] at hmax
      rw [hmax] at hmem
      cases hmem
  | some found =>
      have hfound := List.argmax_mem hmax
      have hge := List.le_of_mem_argmax hmem hmax
      exact KillSwitchState.severity_injective _ _ (le_antisymm (hle found hfound) hge)

/-! ## Loading -/

/-- The state a load should report: the most severe of the latest states of the requested scopes
and of the global scope. -/
def reportedState (stateOf : ScopeKey → Option KillSwitchState)
    (evaluatedScopes : List KillSwitchScope) : KillSwitchState :=
  mostSevere ((scopeKeys evaluatedScopes).filterMap stateOf)

theorem mem_latestStates_iff {records : List KillSwitchRecord}
    {evaluatedScopes : List KillSwitchScope} {state : KillSwitchState} :
    state ∈ (scopeKeys evaluatedScopes).filterMap (latestState records) ↔
      ∃ record ∈ matchingRecords (latestRecordsByScope records) evaluatedScopes,
        record.newState = state := by
  simp only [List.mem_filterMap, latestState, Option.map_eq_some_iff, mem_matchingRecords_iff]
  constructor
  · rintro ⟨key, hkey, record, hlookup, hstate⟩
    exact ⟨record, ⟨key, hkey, hlookup⟩, hstate⟩
  · rintro ⟨record, ⟨key, hkey, hlookup⟩, hstate⟩
    exact ⟨key, hkey, record, hlookup, hstate⟩

section Loading

variable [Sha256]

/-- The snapshot of the records that were read. -/
def snapshotOf (evaluatedAt : AwareDatetime) (evaluatedScopes : List KillSwitchScope) :
    Option (List KillSwitchRecord) → Raises KillSwitchSnapshot
  | none =>
      makeUnknownKillSwitchSnapshot evaluatedAt evaluatedScopes false
        "durable kill-switch state unavailable or invalid"
  | some [] =>
      makeUnknownKillSwitchSnapshot evaluatedAt evaluatedScopes true
        "durable kill-switch state uninitialized"
  | some records =>
      let matching := matchingRecords (latestRecordsByScope records) evaluatedScopes
      match matching.argmax fun record => record.newState.severity with
      | none =>
          makeUnknownKillSwitchSnapshot evaluatedAt evaluatedScopes true
            "no applicable kill-switch record for requested scopes"
      | some active =>
          makeKillSwitchSnapshot evaluatedAt evaluatedScopes active.newState
            (matching.insertionSort fun a b => a.recordId ≤ b.recordId) true
            "durable kill-switch state loaded"

/-- `load_snapshot`. -/
def loadSnapshot [LaxParsing] (store : FileContent) (evaluatedAt : AwareDatetime)
    (evaluatedScopes : List KillSwitchScope) : Raises KillSwitchSnapshot := do
  let records ← readRecords store
  snapshotOf evaluatedAt evaluatedScopes records

theorem makeKillSwitchSnapshot_ok {evaluatedAt : AwareDatetime}
    {evaluatedScopes : List KillSwitchScope} {activeState : KillSwitchState}
    {activeRecords : List KillSwitchRecord} {storeAvailable : Bool} {reason : String}
    (hrecords : ∀ record ∈ activeRecords, record.validate = .ok ())
    (hreason : isNonEmptyString reason = true)
    (hstate : activeState ≠ .unknownFailClosed → activeRecords ≠ []) :
    ∃ snapshot, makeKillSwitchSnapshot evaluatedAt evaluatedScopes activeState activeRecords
      storeAvailable reason = .ok snapshot ∧ snapshot.activeState = activeState := by
  refine ⟨_, (Library.Stamping.construct_eq_ok_iff _ _ _).mpr ⟨?_, rfl⟩, rfl⟩
  exact (KillSwitchSnapshot.validateFields_eq_ok_iff _).mpr ⟨hrecords, hreason, hstate⟩

theorem makeUnknownKillSwitchSnapshot_ok {evaluatedAt : AwareDatetime}
    {evaluatedScopes : List KillSwitchScope} {storeAvailable : Bool} {reason : String}
    (hreason : isNonEmptyString reason = true) :
    ∃ snapshot, makeUnknownKillSwitchSnapshot evaluatedAt evaluatedScopes storeAvailable reason =
      .ok snapshot ∧ snapshot.activeState = .unknownFailClosed :=
  makeKillSwitchSnapshot_ok (fun _ hmem => absurd hmem List.not_mem_nil) hreason
    fun h => absurd rfl h

/-- A load of valid records reports the most severe latest state. -/
theorem snapshotOf_some {records : List KillSwitchRecord}
    (hvalid : ∀ record ∈ records, record.validate = .ok ()) (evaluatedAt : AwareDatetime)
    (evaluatedScopes : List KillSwitchScope) :
    ∃ snapshot, snapshotOf evaluatedAt evaluatedScopes (some records) = .ok snapshot ∧
      snapshot.activeState = reportedState (latestState records) evaluatedScopes := by
  have hmatching : ∀ record ∈ matchingRecords (latestRecordsByScope records) evaluatedScopes,
      record.validate = .ok () := by
    intro record hmem
    obtain ⟨key, -, hlookup⟩ := mem_matchingRecords_iff.mp hmem
    exact hvalid record (Library.lookup_latestEntries_some _ _ hlookup).1
  cases records with
  | nil =>
      have hnone : (scopeKeys evaluatedScopes).filterMap (latestState []) = [] :=
        List.filterMap_eq_nil_iff.mpr fun key hkey => rfl
      have hreported : reportedState (latestState []) evaluatedScopes = .unknownFailClosed := by
        simp only [reportedState, hnone]
        rfl
      rw [hreported]
      exact makeUnknownKillSwitchSnapshot_ok (by decide)
  | cons first rest =>
      simp only [snapshotOf]
      cases hactive : (matchingRecords (latestRecordsByScope (first :: rest))
          evaluatedScopes).argmax (fun record => record.newState.severity) with
      | none =>
          rw [List.argmax_eq_none] at hactive
          have hnone : (scopeKeys evaluatedScopes).filterMap (latestState (first :: rest)) = [] := by
            apply List.eq_nil_iff_forall_not_mem.mpr
            intro state hmem
            obtain ⟨record, hrecord, -⟩ := mem_latestStates_iff.mp hmem
            rw [hactive] at hrecord
            cases hrecord
          have hreported : reportedState (latestState (first :: rest)) evaluatedScopes =
              .unknownFailClosed := by
            simp only [reportedState, hnone]
            rfl
          rw [hreported]
          exact makeUnknownKillSwitchSnapshot_ok (by decide)
      | some active =>
          have hmem := List.argmax_mem hactive
          have hreported : reportedState (latestState (first :: rest)) evaluatedScopes =
              active.newState := by
            apply mostSevere_eq_of_forall_le
            · exact mem_latestStates_iff.mpr ⟨active, hmem, rfl⟩
            · intro other hother
              obtain ⟨record, hrecord, rfl⟩ := mem_latestStates_iff.mp hother
              have hle : record.newState.severity ≤ active.newState.severity :=
                @List.le_of_mem_argmax _ _ _ (fun r : KillSwitchRecord => r.newState.severity) _
                  _ _ hrecord hactive
              exact hle
          rw [hreported]
          apply makeKillSwitchSnapshot_ok
          · intro record hrecord
            exact hmatching record ((List.mem_insertionSort _).mp hrecord)
          · decide
          · intro _ hnil
            have hsorted := (List.mem_insertionSort (fun a b : KillSwitchRecord =>
              a.recordId ≤ b.recordId)).mpr hmem
            rw [hnil] at hsorted
            cases hsorted

end Loading

end TaModel.Risk
