import TaModel.Contracts.CanonicalJson
import TaModel.Risk.KillSwitchTransition

/-!
# What a kill-switch write keeps

A transition on one scope should keep every record of the log, leave the other scopes alone, never
bring a store that could not be read back to life, and be atomic under write failures. All of it
holds of a log that reads. A store that `_read_records` gives up on counts as an empty log in
`transition`, so one well-formed call replaces it by a log of its own record; a store on which
reading raises is left alone, but then a load raises as well.
-/

set_option autoImplicit false

namespace TaModel.Risk

open Contracts

/-! ## Reported states -/

/-- Where a scope and the global scope are out of sight, one more record of that scope is too. -/
theorem reportedState_append {records : List KillSwitchRecord} {record : KillSwitchRecord}
    {evaluatedScopes : List KillSwitchScope} (hscope : record.scope ∉ evaluatedScopes)
    (hglobal : record.scope.key ≠ globalKey) :
    reportedState (latestState (records ++ [record])) evaluatedScopes =
      reportedState (latestState records) evaluatedScopes := by
  simp only [reportedState]
  congr 1
  apply List.filterMap_congr
  intro key hkey
  apply latestState_append_of_ne
  rintro rfl
  rcases List.mem_cons.mp hkey with hkey | hkey
  · exact hglobal hkey
  · obtain ⟨scope, hmem, hscopeKey⟩ := List.mem_map.mp hkey
    rw [KillSwitchScope.key_injective _ _ hscopeKey] at hmem
    exact hscope hmem

/-- A log of one record of a scope reports that record's state for the scope. -/
theorem reportedState_singleton (record : KillSwitchRecord) :
    reportedState (latestState [record]) [record.scope] = record.newState := by
  have hlatest : ∀ key, latestState [record] key =
      if record.scope.key = key then some record.newState else none := by
    intro key
    have happend := Library.lookup_latestEntries_append recordLe
      (fun record : KillSwitchRecord => record.scope.key) [] record key
    simp only [latestState, latestRecordsByScope]
    rw [List.nil_append] at happend
    rw [happend]
    split_ifs <;> rfl
  apply mostSevere_eq_of_forall_le
  · refine List.mem_filterMap.mpr ⟨record.scope.key, ?_, ?_⟩
    · simp [scopeKeys]
    · rw [hlatest, if_pos rfl]
  · intro other hother
    obtain ⟨key, -, hkey⟩ := List.mem_filterMap.mp hother
    rw [hlatest] at hkey
    split_ifs at hkey
    cases hkey
    exact le_refl _

/-- A log of one fail-closed record is fail-closed for every set of scopes. -/
theorem reportedState_singleton_unknown {record : KillSwitchRecord}
    (h : record.newState = .unknownFailClosed) (evaluatedScopes : List KillSwitchScope) :
    reportedState (latestState [record]) evaluatedScopes = .unknownFailClosed := by
  have hall : ∀ state ∈ (scopeKeys evaluatedScopes).filterMap (latestState [record]),
      state = .unknownFailClosed := by
    intro state hmem
    obtain ⟨found, hfound, rfl⟩ := mem_latestStates_iff.mp hmem
    obtain ⟨key, -, hlookup⟩ := mem_matchingRecords_iff.mp hfound
    have hmem := (Library.lookup_latestEntries_some _ _ hlookup).1
    rw [List.mem_singleton.mp hmem, h]
  cases hstates : (scopeKeys evaluatedScopes).filterMap (latestState [record]) with
  | nil =>
      simp only [reportedState, hstates]
      rfl
  | cons state states =>
      have hfirst : state = .unknownFailClosed := hall state (by simp [hstates])
      apply mostSevere_eq_of_forall_le
      · rw [hstates, hfirst]
        exact List.mem_cons_self
      · intro other hother
        rw [hall other hother]

section Writes

variable [LaxParsing] [Sha256]

/-- Every load for these scopes reports the state. -/
def ReportsState (store : FileContent) (evaluatedScopes : List KillSwitchScope)
    (state : KillSwitchState) : Prop :=
  ∀ evaluatedAt, ∃ snapshot,
    loadSnapshot store evaluatedAt evaluatedScopes = .ok snapshot ∧ snapshot.activeState = state

/-- The file is there but holds no readable log. -/
def IsBroken (store : FileContent) : Prop :=
  store ≠ .absent ∧ ∀ records, readRecords store ≠ .ok (some records)

/-- What a transition keeps of the store. -/
structure KeepsDurable (call : TransitionCall) (fault : Option WriteFault) (disk : Disk) :
    Prop where
  records_kept : ∀ records, readRecords disk.store = .ok (some records) →
    ∃ records', readRecords (transition call fault disk).2.store = .ok (some records') ∧
      ∀ record ∈ records, record ∈ records'
  other_scopes : ∀ records, readRecords disk.store = .ok (some records) →
    ∀ evaluatedScopes, call.scope ∉ evaluatedScopes → call.scope.key ≠ globalKey →
      ∃ state, ReportsState disk.store evaluatedScopes state ∧
        ReportsState (transition call fault disk).2.store evaluatedScopes state
  broken_stays_closed : IsBroken disk.store → ∀ evaluatedScopes,
    ReportsState (transition call fault disk).2.store evaluatedScopes .unknownFailClosed
  fault_atomic : fault ≠ none →
    (transition call fault disk).2.store = disk.store ∨
      ∃ records record, readRecords disk.store = .ok (some records) ∧
        readRecords (transition call fault disk).2.store = .ok (some (records ++ [record]))

/-! ## Loads -/

theorem reportsState_of_records {store : FileContent} {records : List KillSwitchRecord}
    (h : readRecords store = .ok (some records)) (evaluatedScopes : List KillSwitchScope) :
    ReportsState store evaluatedScopes (reportedState (latestState records) evaluatedScopes) := by
  intro evaluatedAt
  obtain ⟨snapshot, hsnapshot, hstate⟩ :=
    snapshotOf_some (readRecords_valid h) evaluatedAt evaluatedScopes
  refine ⟨snapshot, ?_, hstate⟩
  simp only [loadSnapshot, h, ok_bind, hsnapshot]

theorem reportsState_of_unavailable {store : FileContent} (h : readRecords store = .ok none)
    (evaluatedScopes : List KillSwitchScope) :
    ReportsState store evaluatedScopes .unknownFailClosed := by
  intro evaluatedAt
  simp only [loadSnapshot, h, ok_bind, snapshotOf]
  exact makeUnknownKillSwitchSnapshot_ok (by decide)

theorem not_reportsState_of_error {store : FileContent} {error : String}
    (h : readRecords store = .error error) (evaluatedScopes : List KillSwitchScope)
    (state : KillSwitchState) : ¬ ReportsState store evaluatedScopes state := by
  intro hreports
  obtain ⟨snapshot, hload, -⟩ := hreports ⟨0, 0⟩
  simp only [loadSnapshot, h, error_bind] at hload
  cases hload

/-- A store reports one state. -/
theorem reportsState_unique {store : FileContent} {evaluatedScopes : List KillSwitchScope}
    {a b : KillSwitchState} (ha : ReportsState store evaluatedScopes a)
    (hb : ReportsState store evaluatedScopes b) : a = b := by
  obtain ⟨snapshot, hload, rfl⟩ := ha ⟨0, 0⟩
  obtain ⟨snapshot', hload', rfl⟩ := hb ⟨0, 0⟩
  rw [hload] at hload'
  cases hload'
  rfl

/-! ## A log that reads -/

variable {call : TransitionCall} {fault : Option WriteFault} {disk : Disk}

/-- After a call on a log that reads, the log is as before or one record longer. -/
theorem readRecords_transition_cases {records : List KillSwitchRecord}
    (h : readRecords disk.store = .ok (some records)) :
    (transition call fault disk).2.store = disk.store ∨
      readRecords (transition call fault disk).2.store =
        .ok (some (records ++ [appendedRecord call records])) := by
  by_cases hwritten : call.WellFormed ∧ replacesStore fault = true
  · exact Or.inr (readRecords_transition h hwritten.1 hwritten.2)
  · exact Or.inl (transition_store_of_not_written hwritten)

/-- A log that reads keeps everything. -/
theorem keepsDurable_of_records {records : List KillSwitchRecord}
    (h : readRecords disk.store = .ok (some records)) : KeepsDurable call fault disk := by
  have hcases := @readRecords_transition_cases _ _ call fault disk records h
  constructor
  · intro records' hrecords
    rw [h] at hrecords
    cases hrecords
    rcases hcases with hsame | happended
    · rw [hsame]
      exact ⟨records, h, fun record hmem => hmem⟩
    · exact ⟨_, happended, fun record hmem => List.mem_append_left _ hmem⟩
  · intro records' hrecords evaluatedScopes hscope hglobal
    rw [h] at hrecords
    cases hrecords
    refine ⟨_, reportsState_of_records h evaluatedScopes, ?_⟩
    rcases hcases with hsame | happended
    · rw [hsame]
      exact reportsState_of_records h evaluatedScopes
    · have happend : reportedState (latestState (records ++ [appendedRecord call records]))
          evaluatedScopes = reportedState (latestState records) evaluatedScopes :=
        reportedState_append hscope hglobal
      rw [← happend]
      exact reportsState_of_records happended evaluatedScopes
  · intro hbroken
    exact absurd h (hbroken.2 records)
  · intro _
    rcases hcases with hsame | happended
    · exact Or.inl hsame
    · exact Or.inr ⟨records, _, h, happended⟩

/-! ## A store that does not read -/

theorem isBroken_of_unavailable {store : FileContent} (h : readRecords store = .ok none) :
    IsBroken store := by
  constructor
  · rintro rfl
    cases h
  · intro records hrecords
    rw [h] at hrecords
    cases hrecords

theorem isBroken_of_error {store : FileContent} {error : String}
    (h : readRecords store = .error error) : IsBroken store := by
  constructor
  · rintro rfl
    cases h
  · intro records hrecords
    rw [h] at hrecords
    cases hrecords

/-- A store on which reading raises: the call keeps it, and no load reports anything. -/
theorem not_keepsDurable_of_error {error : String} (h : readRecords disk.store = .error error) :
    ¬ KeepsDurable call fault disk := by
  intro hkeeps
  have hclosed := hkeeps.broken_stays_closed (isBroken_of_error h) []
  rw [transition_store_of_error h] at hclosed
  exact not_reportsState_of_error h [] _ hclosed

/-- A call that writes over an unreadable store leaves the log of its own record. -/
theorem readRecords_transition_of_unavailable (h : readRecords disk.store = .ok none)
    (hcall : call.WellFormed) (hfault : replacesStore fault = true) :
    readRecords (transition call fault disk).2.store = .ok (some [appendedRecord call []]) :=
  readRecords_transition h hcall hfault

/-- Over an unreadable store everything is kept when nothing is written, or when the call runs
through and its state is the fail-closed one. -/
theorem keepsDurable_of_unavailable_iff (h : readRecords disk.store = .ok none) :
    KeepsDurable call fault disk ↔
      ¬ call.WellFormed ∨ replacesStore fault = false ∨
        (fault = none ∧ call.newState = .unknownFailClosed) := by
  have hbroken : IsBroken disk.store := isBroken_of_unavailable h
  have hread : ∀ records, readRecords disk.store ≠ .ok (some records) := hbroken.2
  by_cases hwritten : call.WellFormed ∧ replacesStore fault = true
  · obtain ⟨hcall, hfault⟩ := hwritten
    have hafter := readRecords_transition_of_unavailable h hcall hfault
    simp only [hcall, hfault, not_true_eq_false, Bool.true_eq_false, false_or]
    constructor
    · intro hkeeps
      have hclosed := hkeeps.broken_stays_closed hbroken [call.scope]
      have hreported := reportsState_of_records hafter [call.scope]
      have hsingleton : reportedState (latestState [appendedRecord call []]) [call.scope] =
          call.newState := reportedState_singleton (appendedRecord call [])
      rw [hsingleton] at hreported
      refine ⟨?_, reportsState_unique hreported hclosed⟩
      by_contra hne
      rcases hkeeps.fault_atomic hne with hsame | ⟨records, record, hrecords, -⟩
      · rw [hsame, h] at hafter
        cases hafter
      · exact hread records hrecords
    · rintro ⟨hnone, hstate⟩
      constructor
      · exact fun records hrecords => absurd hrecords (hread records)
      · exact fun records hrecords => absurd hrecords (hread records)
      · intro _ evaluatedScopes
        have hunknown : reportedState (latestState [appendedRecord call []]) evaluatedScopes =
            .unknownFailClosed := reportedState_singleton_unknown hstate evaluatedScopes
        rw [← hunknown]
        exact reportsState_of_records hafter evaluatedScopes
      · intro hne
        exact absurd hnone hne
  · have hsame := @transition_store_of_not_written _ _ call fault disk hwritten
    constructor
    · intro _
      by_cases hcall : call.WellFormed
      · have hfault : ¬ replacesStore fault = true := fun hfault => hwritten ⟨hcall, hfault⟩
        exact Or.inr (Or.inl (by simpa using hfault))
      · exact Or.inl hcall
    · intro _
      constructor
      · exact fun records hrecords => absurd hrecords (hread records)
      · exact fun records hrecords => absurd hrecords (hread records)
      · intro _ evaluatedScopes
        rw [hsame]
        exact reportsState_of_unavailable h evaluatedScopes
      · exact fun _ => Or.inl hsame

/-! ## The exact condition -/

/-- A transition keeps what was durable exactly when the log reads, or when reading gives up on it
and the call writes nothing less severe than fail-closed over it. -/
theorem transition_keeps_durable_iff (call : TransitionCall) (fault : Option WriteFault)
    (disk : Disk) :
    KeepsDurable call fault disk ↔
      (∃ records, readRecords disk.store = .ok (some records)) ∨
      (readRecords disk.store = .ok none ∧
        (¬ call.WellFormed ∨ replacesStore fault = false ∨
          (fault = none ∧ call.newState = .unknownFailClosed))) := by
  cases hread : readRecords disk.store with
  | error error =>
      have hfails := @not_keepsDurable_of_error _ _ call fault disk error hread
      simp [hfails]
  | ok read =>
      cases read with
      | none =>
          rw [keepsDurable_of_unavailable_iff hread]
          simp
      | some records =>
          have hkeeps := @keepsDurable_of_records _ _ call fault disk records hread
          simp [hkeeps]

end Writes

/-! ## A broken store that opens -/

def globalScope : KillSwitchScope := ⟨.global, none, by decide, by decide⟩

def minuteZero : AwareDatetime := ⟨1767225600000000, 0⟩

/-- An operator call that clears the global scope. -/
def clearGlobal : TransitionCall where
  scope := globalScope
  newState := .clear
  actor := "alice"
  actorRole := "ops_owner"
  transitionedAt := minuteZero
  reason := "initialize fixture paper environment"
  cancelOpenOrders := false

theorem clearGlobal_wellFormed : clearGlobal.WellFormed := by
  decide

/-- A validation library that accepts nothing beyond the forms the contracts write. -/
@[reducible] def strictParsing : LaxParsing where
  datetime _ := none
  bool _ := none

/-- One call that clears the global scope opens a store whose file is not JSON. -/
theorem clear_opens_malformed_store :
    ¬ @KeepsDurable strictParsing hashlibSha256 clearGlobal none ⟨.malformed, .absent⟩ := by
  have hread : @readRecords strictParsing hashlibSha256 (Disk.store ⟨.malformed, .absent⟩) =
      .ok none := rfl
  rw [@keepsDurable_of_unavailable_iff strictParsing hashlibSha256 clearGlobal none _ hread]
  rintro (hcall | hfault | ⟨-, hstate⟩)
  · exact hcall clearGlobal_wellFormed
  · cases hfault
  · cases hstate

end TaModel.Risk
