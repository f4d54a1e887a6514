import TaModel.Risk.KillSwitchRuns

/-!
# Reads of the kill-switch store, from the bytes on

`load_snapshot` on whatever is at the path of the store. The bytes go through UTF-8, `json.loads`,
the envelope and the record validation; `FileContent` is what is left after the first two. The
parser is the parameter `JsonLoads`, so that every result holds for any behaviour of it.

A load reports the most severe latest state of a log that decodes, and the fail-closed state
otherwise (`LoadsFailClosed`), unless the bytes are not UTF-8, the parser raises something else than
`JSONDecodeError`, or the document is no object: these exceptions escape `_read_records`.
-/

set_option autoImplicit false

namespace TaModel.Risk

open Contracts

/-! ## From bytes to a document -/

/-- How `json.loads` ends: with a value, with `JSONDecodeError`, or with another exception, such as
`RecursionError` on a deeply nested text. -/
inductive LoadsOutcome where
  | value (payload : Json)
  | decodeError
  | raises (error : String)

/-- `json.loads`. -/
class JsonLoads where
  loads : String → LoadsOutcome

/-- What is at the path: nothing, something that cannot be read, or bytes. -/
inductive StoreFile where
  | absent
  | unreadable
  | bytes (content : ByteArray)

namespace StoreFile

variable [JsonLoads]

/-- `json.loads(self.path.read_text(encoding="utf-8"))`. -/
def content : StoreFile → FileContent
  | .absent => .absent
  | .unreadable => .unreadable
  | .bytes content =>
      match String.fromUTF8? content with
      | none => .raising "UnicodeDecodeError"
      | some text =>
          match JsonLoads.loads text with
          | .value payload => .json payload
          | .decodeError => .malformed
          | .raises error => .raising error

/-- The bytes are UTF-8, and the text is no JSON or a JSON object. -/
def DecodesCleanly : StoreFile → Prop
  | .absent => True
  | .unreadable => True
  | .bytes content =>
      ∃ text, String.fromUTF8? content = some text ∧
        (JsonLoads.loads text = .decodeError ∨
          ∃ fields, JsonLoads.loads text = .value (.record fields))

end StoreFile

/-! ## What a load has to do -/

section Reads

variable [LaxParsing] [Sha256]

/-- The document is a `kill-switch-store.v1` object whose record list validates. -/
def DecodesTo (store : FileContent) (records : List KillSwitchRecord) : Prop :=
  ∃ fields items, store = .json (.record fields) ∧ hasSchemaVersion fields = true ∧
    Json.field fields "records" = some (.list items) ∧
    Json.readAll modelValidate items = some records

/-- Some record is for one of the scopes or for the global one. -/
def HasApplicable (records : List KillSwitchRecord) (evaluatedScopes : List KillSwitchScope) :
    Prop :=
  ∃ record ∈ records, record.scope.key ∈ scopeKeys evaluatedScopes

/-- The state is the most severe one among the latest records of the scopes. -/
structure IsMostSevere (records : List KillSwitchRecord) (evaluatedScopes : List KillSwitchScope)
    (state : KillSwitchState) : Prop where
  latest : ∃ key ∈ scopeKeys evaluatedScopes, latestState records key = some state
  severest : ∀ key ∈ scopeKeys evaluatedScopes, ∀ other ∈ latestState records key,
    other.severity ≤ state.severity

/-- The load returns, and opens for nothing but a log that decodes. -/
def LoadsFailClosed (store : FileContent) (evaluatedAt : AwareDatetime)
    (evaluatedScopes : List KillSwitchScope) : Prop :=
  ∃ snapshot, loadSnapshot store evaluatedAt evaluatedScopes = .ok snapshot ∧
    (snapshot.activeState ≠ .unknownFailClosed →
      ∃ records, DecodesTo store records ∧ HasApplicable records evaluatedScopes) ∧
    ∀ records, DecodesTo store records → HasApplicable records evaluatedScopes →
      IsMostSevere records evaluatedScopes snapshot.activeState

theorem decodesTo_iff (store : FileContent) (records : List KillSwitchRecord) :
    DecodesTo store records ↔
      store ≠ .absent ∧ readRecords store = .ok (some records) := by
  constructor
  · rintro ⟨fields, items, rfl, hversion, hfield, hitems⟩
    refine ⟨by simp, ?_⟩
    simp only [readRecords, recordsOf, hversion, if_true, hfield, Option.bind_some, Json.readList,
      hitems]
  · rintro ⟨habsent, hread⟩
    cases store with
    | absent => exact absurd rfl habsent
    | unreadable => cases hread
    | malformed => cases hread
    | raising error => cases hread
    | json payload =>
        cases payload with
        | record fields =>
            have hrecords : recordsOf fields = some records := Except.ok.inj hread
            simp only [recordsOf] at hrecords
            split_ifs at hrecords with hversion
            obtain ⟨json, hfield, hlist⟩ := Option.bind_eq_some_iff.mp hrecords
            cases json with
            | list items => exact ⟨fields, items, rfl, hversion, hfield, hlist⟩
            | null => cases hlist
            | bool b => cases hlist
            | int n => cases hlist
            | number q => cases hlist
            | text s => cases hlist
            | instant t => cases hlist
            | record fields => cases hlist
        | null => cases hread
        | bool b => cases hread
        | int n => cases hread
        | number q => cases hread
        | text s => cases hread
        | instant t => cases hread
        | list items => cases hread

/-! ## The reported state -/

omit [LaxParsing] [Sha256] in
/-- A scope with a record has a latest state. -/
theorem latestState_isSome_of_mem {records : List KillSwitchRecord} {record : KillSwitchRecord}
    (hmem : record ∈ records) : ∃ state, latestState records record.scope.key = some state := by
  cases hlookup : (latestRecordsByScope records).lookup record.scope.key with
  | none =>
      exact absurd rfl (Library.lookup_latestEntries_none _ _ hlookup hmem)
  | some latest => exact ⟨latest.newState, by simp [latestState, hlookup]⟩

omit [LaxParsing] [Sha256] in
theorem mem_of_latestState {records : List KillSwitchRecord} {key : ScopeKey}
    {state : KillSwitchState} (h : latestState records key = some state) :
    ∃ record ∈ records, record.scope.key = key := by
  obtain ⟨record, hlookup, -⟩ := Option.map_eq_some_iff.mp h
  obtain ⟨hmem, hkey⟩ := Library.lookup_latestEntries_some _ _ hlookup
  exact ⟨record, hmem, hkey⟩

omit [LaxParsing] [Sha256] in
/-- The reported state is the most severe latest one as soon as there is one. -/
theorem isMostSevere_reportedState {records : List KillSwitchRecord}
    {evaluatedScopes : List KillSwitchScope} (h : HasApplicable records evaluatedScopes) :
    IsMostSevere records evaluatedScopes
      (reportedState (latestState records) evaluatedScopes) := by
  obtain ⟨record, hmem, hkey⟩ := h
  obtain ⟨state, hstate⟩ := latestState_isSome_of_mem hmem
  have hfound : state ∈ (scopeKeys evaluatedScopes).filterMap (latestState records) :=
    List.mem_filterMap.mpr ⟨_, hkey, hstate⟩
  cases hmax : ((scopeKeys evaluatedScopes).filterMap (latestState records)).argmax
      KillSwitchState.severity with
  | none =>
      rw [List.argmax_eq_none.mp hmax] at hfound
      cases hfound
  | some worst =>
      have hreported : reportedState (latestState records) evaluatedScopes = worst := by
        simp only [reportedState, mostSevere, hmax, Option.getD_some]
      rw [hreported]
      constructor
      · obtain ⟨key, hmemKey, hlatest⟩ := List.mem_filterMap.mp (List.argmax_mem hmax)
        exact ⟨key, hmemKey, hlatest⟩
      · intro key hmemKey other hother
        exact List.le_of_mem_argmax (List.mem_filterMap.mpr ⟨key, hmemKey, hother⟩) hmax

omit [LaxParsing] [Sha256] in
/-- Without an applicable record the reported state is the fail-closed one. -/
theorem reportedState_of_not_applicable {records : List KillSwitchRecord}
    {evaluatedScopes : List KillSwitchScope} (h : ¬ HasApplicable records evaluatedScopes) :
    reportedState (latestState records) evaluatedScopes = .unknownFailClosed := by
  have hnone : (scopeKeys evaluatedScopes).filterMap (latestState records) = [] := by
    rw [List.filterMap_eq_nil_iff]
    intro key hkey
    cases hstate : latestState records key with
    | none => rfl
    | some state =>
        obtain ⟨record, hmem, rfl⟩ := mem_of_latestState hstate
        exact absurd ⟨record, hmem, hkey⟩ h
  simp only [reportedState, hnone]
  rfl

/-! ## Loads -/

variable {store : FileContent} {evaluatedAt : AwareDatetime}
  {evaluatedScopes : List KillSwitchScope}

/-- A read that returns leads to a load that fails closed. -/
theorem loadsFailClosed_of_read {read : Option (List KillSwitchRecord)}
    (hread : readRecords store = .ok read) :
    LoadsFailClosed store evaluatedAt evaluatedScopes := by
  cases read with
  | none =>
      obtain ⟨snapshot, hload, hstate⟩ :=
        reportsState_of_unavailable hread evaluatedScopes evaluatedAt
      refine ⟨snapshot, hload, fun hopen => absurd hstate hopen, ?_⟩
      intro records hdecodes
      obtain ⟨-, hread'⟩ := (decodesTo_iff store records).mp hdecodes
      rw [hread] at hread'
      cases hread'
  | some records =>
      obtain ⟨snapshot, hload, hstate⟩ := reportsState_of_records hread evaluatedScopes evaluatedAt
      refine ⟨snapshot, hload, ?_, ?_⟩
      · intro hopen
        have happlicable : HasApplicable records evaluatedScopes := by
          by_contra hnone
          rw [hstate, reportedState_of_not_applicable hnone] at hopen
          exact hopen rfl
        refine ⟨records, (decodesTo_iff store records).mpr ⟨?_, hread⟩, happlicable⟩
        rintro rfl
        cases hread
        obtain ⟨record, hmem, -⟩ := happlicable
        cases hmem
      · intro records' hdecodes happlicable
        obtain ⟨-, hread'⟩ := (decodesTo_iff store records').mp hdecodes
        rw [hread] at hread'
        cases hread'
        rw [hstate]
        exact isMostSevere_reportedState happlicable

/-- An exception of the read escapes the load. -/
theorem not_loadsFailClosed_of_error {error : String} (hread : readRecords store = .error error) :
    ¬ LoadsFailClosed store evaluatedAt evaluatedScopes := by
  rintro ⟨snapshot, hload, -⟩
  simp only [loadSnapshot, hread, error_bind] at hload
  cases hload

/-- The read of a file returns exactly when the file decodes cleanly. -/
theorem readRecords_content [JsonLoads] (file : StoreFile) :
    (∃ read, readRecords file.content = .ok read) ↔ file.DecodesCleanly := by
  cases file with
  | absent => simp [StoreFile.DecodesCleanly, StoreFile.content, readRecords]
  | unreadable => simp [StoreFile.DecodesCleanly, StoreFile.content, readRecords]
  | bytes content =>
      cases hutf : String.fromUTF8? content with
      | none => simp [StoreFile.DecodesCleanly, StoreFile.content, hutf, readRecords]
      | some text =>
          cases hloads : JsonLoads.loads text with
          | decodeError =>
              simp [StoreFile.DecodesCleanly, StoreFile.content, hutf, hloads, readRecords]
          | raises error =>
              simp [StoreFile.DecodesCleanly, StoreFile.content, hutf, hloads, readRecords]
          | value payload =>
              cases payload <;>
                simp [StoreFile.DecodesCleanly, StoreFile.content, hutf, hloads, readRecords]

/-! ## Logs of runs -/

/-- The records the calls of a run append, in order. -/
def logOf (attempts : List Attempt) : List KillSwitchRecord :=
  attempts.foldl
    (fun records attempt =>
      if attempt.Written then records ++ [appendedRecord attempt.1 records] else records) []

omit [LaxParsing] in
theorem logOf_append (attempts : List Attempt) (attempt : Attempt) :
    logOf (attempts ++ [attempt]) =
      if attempt.Written then logOf attempts ++ [appendedRecord attempt.1 (logOf attempts)]
      else logOf attempts := by
  simp only [logOf, List.foldl_append, List.foldl_cons, List.foldl_nil]

/-- After any run the log of the run is read back. -/
theorem readRecords_runAttempts (attempts : List Attempt) :
    readRecords (runAttempts attempts).store = .ok (some (logOf attempts)) := by
  induction attempts using List.reverseRecOn with
  | nil => rfl
  | append_singleton attempts attempt ih =>
      rw [logOf_append]
      split_ifs with hwritten
      · exact readRecords_runAttempts_append ih hwritten
      · rw [runAttempts_append, transition_store_of_not_written hwritten]
        exact ih

/-- A load fails closed exactly on the files that decode cleanly, and the log of any run of
transitions is read back as it was written. -/
theorem loads_fail_closed_iff [JsonLoads] (file : StoreFile) (evaluatedAt : AwareDatetime)
    (evaluatedScopes : List KillSwitchScope) :
    (LoadsFailClosed file.content evaluatedAt evaluatedScopes ↔ file.DecodesCleanly) ∧
      ∀ attempts, readRecords (runAttempts attempts).store = .ok (some (logOf attempts)) := by
  refine ⟨?_, readRecords_runAttempts⟩
  rw [← readRecords_content file]
  constructor
  · intro hloads
    cases hread : readRecords file.content with
    | error error => exact absurd hloads (not_loadsFailClosed_of_error hread)
    | ok read => exact ⟨read, rfl⟩
  · rintro ⟨read, hread⟩
    exact loadsFailClosed_of_read hread

end Reads

/-- A parser that accepts nothing. -/
@[reducible] def rejectingLoads : JsonLoads := ⟨fun _ => .decodeError⟩

/-- A file with the single byte `0xff` makes the load raise before any JSON is parsed. -/
theorem load_raises_on_invalid_utf8 :
    ¬ @LoadsFailClosed strictParsing hashlibSha256
      (@StoreFile.content rejectingLoads (.bytes ⟨#[0xff]⟩)) minuteZero [globalScope] := by
  have hutf : String.fromUTF8? ⟨#[0xff]⟩ = none := by decide
  have hcontent : @StoreFile.content rejectingLoads (.bytes ⟨#[0xff]⟩) =
      .raising "UnicodeDecodeError" := by
    simp only [StoreFile.content, hutf]
  rw [hcontent]
  exact @not_loadsFailClosed_of_error strictParsing hashlibSha256 _ _ _ _ rfl

end TaModel.Risk
