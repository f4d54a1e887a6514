import TaModel.Risk.KillSwitchWrites

/-!
# Runs of kill-switch transitions

A run of `transition` calls on an absent store is compared with the state a reader of the calls
would expect: each scope has the state of the last call written for it. The store agrees as long as
no new record sorts below the latest one of its scope. Time alone does not ensure that: records of
one instant are ordered by `record_id`, a digest, so a later call of the same instant can lose.
-/

set_option autoImplicit false

namespace TaModel.Risk

open Contracts

/-- A call and how its write goes. -/
abbrev Attempt := TransitionCall × Option WriteFault

namespace Attempt

/-- The call writes its record. -/
def Written (attempt : Attempt) : Prop :=
  attempt.1.WellFormed ∧ replacesStore attempt.2 = true

instance (attempt : Attempt) : Decidable attempt.Written := by
  simp only [Written]
  infer_instance

/-- The call writes a record for this scope. -/
def writesTo (key : ScopeKey) (attempt : Attempt) : Bool :=
  decide (attempt.Written ∧ attempt.1.scope.key = key)

end Attempt

/-! ## The expected state -/

/-- The state of the last call written for a scope. -/
def lastWritten (attempts : List Attempt) (key : ScopeKey) : Option KillSwitchState :=
  ((attempts.filter (Attempt.writesTo key)).getLast?).map fun attempt => attempt.1.newState

theorem lastWritten_append (attempts : List Attempt) (attempt : Attempt) (key : ScopeKey) :
    lastWritten (attempts ++ [attempt]) key =
      if attempt.Written ∧ attempt.1.scope.key = key then some attempt.1.newState
      else lastWritten attempts key := by
  simp only [lastWritten, List.filter_append]
  split_ifs with h
  · have hwrites : Attempt.writesTo key attempt = true := decide_eq_true h
    rw [List.filter_cons_of_pos hwrites, List.filter_nil, List.getLast?_append]
    rfl
  · have hwrites : ¬ Attempt.writesTo key attempt = true := by simpa [Attempt.writesTo] using h
    rw [List.filter_cons_of_neg hwrites, List.filter_nil, List.append_nil]

/-! ## Runs -/

section Runs

variable [LaxParsing] [Sha256]

/-- One call, whatever comes of it. -/
def attemptStep (disk : Disk) (attempt : Attempt) : Disk :=
  (transition attempt.1 attempt.2 disk).2

/-- The disk after some calls on an absent store. -/
def runAttempts (attempts : List Attempt) : Disk :=
  attempts.foldl attemptStep ⟨.absent, .absent⟩

theorem runAttempts_append (attempts : List Attempt) (attempt : Attempt) :
    runAttempts (attempts ++ [attempt]) =
      (transition attempt.1 attempt.2 (runAttempts attempts)).2 := by
  simp only [runAttempts, List.foldl_append]
  rfl

/-- A call that writes adds its record to the log of the calls before it. -/
theorem readRecords_runAttempts_append {attempts : List Attempt} {attempt : Attempt}
    {records : List KillSwitchRecord}
    (hread : readRecords (runAttempts attempts).store = .ok (some records))
    (hwritten : attempt.Written) :
    readRecords (runAttempts (attempts ++ [attempt])).store =
      .ok (some (records ++ [appendedRecord attempt.1 records])) := by
  rw [runAttempts_append]
  exact readRecords_transition hread hwritten.1 hwritten.2

/-- The log reads, and its records carry the timestamps of the calls. -/
def LogReads (disk : Disk) (attempts : List Attempt) : Prop :=
  ∃ records, readRecords disk.store = .ok (some records) ∧
    ∀ record ∈ records, ∃ attempt ∈ attempts,
      record.transitionedAt = attempt.1.transitionedAt

theorem logReads_step {disk : Disk} {attempts : List Attempt} (h : LogReads disk attempts)
    (attempt : Attempt) :
    LogReads (transition attempt.1 attempt.2 disk).2 (attempts ++ [attempt]) := by
  obtain ⟨records, hread, htimes⟩ := h
  have hold : ∀ record ∈ records, ∃ earlier ∈ attempts ++ [attempt],
      record.transitionedAt = earlier.1.transitionedAt := by
    intro record hmem
    obtain ⟨earlier, hearlier, htime⟩ := htimes record hmem
    exact ⟨earlier, List.mem_append_left _ hearlier, htime⟩
  by_cases hwritten : attempt.Written
  · refine ⟨_, readRecords_transition hread hwritten.1 hwritten.2, ?_⟩
    intro record hmem
    rcases List.mem_append.mp hmem with hmem | hmem
    · exact hold record hmem
    · rw [List.mem_singleton.mp hmem]
      exact ⟨attempt, by simp, rfl⟩
  · refine ⟨records, ?_, hold⟩
    rw [transition_store_of_not_written hwritten]
    exact hread

/-- After any calls the log reads. -/
theorem logReads_runAttempts (attempts : List Attempt) :
    LogReads (runAttempts attempts) attempts := by
  induction attempts using List.reverseRecOn with
  | nil => exact ⟨[], rfl, fun _ hmem => absurd hmem List.not_mem_nil⟩
  | append_singleton attempts attempt ih =>
      rw [runAttempts_append]
      exact logReads_step ih attempt

/-! ## Steps that sort last -/

/-- The new record does not sort below the latest record of its scope within one instant, or both
carry one state. -/
def SortsLast (call : TransitionCall) (records : List KillSwitchRecord) : Prop :=
  ∀ latest ∈ (latestRecordsByScope records).lookup call.scope.key,
    latest.transitionedAt.sameInstant call.transitionedAt = true →
      latest.recordId ≤ (appendedRecord call records).recordId ∨ latest.newState = call.newState

/-- Every call of the run that writes sorts last when it is made. -/
def RunSortsLast (attempts : List Attempt) : Prop :=
  ∀ earlier attempt later, attempts = earlier ++ attempt :: later → attempt.Written →
    ∀ records, readRecords (runAttempts earlier).store = .ok (some records) →
      SortsLast attempt.1 records

/-- The store holds the expected state of every scope. -/
def HoldsLastWritten (disk : Disk) (attempts : List Attempt) : Prop :=
  ∀ records, readRecords disk.store = .ok (some records) →
    ∀ key, latestState records key = lastWritten attempts key

omit [LaxParsing] in
/-- A record that sorts last determines the state of its scope. -/
theorem latestState_append_self {call : TransitionCall} {records : List KillSwitchRecord}
    (htimes : ∀ record ∈ records, record.transitionedAt ≤ call.transitionedAt)
    (hlast : SortsLast call records) :
    latestState (records ++ [appendedRecord call records]) call.scope.key =
      some call.newState := by
  have hlookup := Library.lookup_latestEntries_append recordLe
    (fun record : KillSwitchRecord => record.scope.key) records (appendedRecord call records)
    call.scope.key
  have hkey : (appendedRecord call records).scope.key = call.scope.key := rfl
  simp only [latestState, latestRecordsByScope]
  rw [hlookup, if_pos hkey]
  cases hlatest : (Library.latestEntries recordLe
      (fun record : KillSwitchRecord => record.scope.key) records).lookup call.scope.key with
  | none => rfl
  | some latest =>
      have hmem := (Library.lookup_latestEntries_some _ _ hlatest).1
      have htime : latest.transitionedAt.utc ≤ call.transitionedAt.utc := htimes latest hmem
      by_cases hle : recordLe latest (appendedRecord call records)
      · simp only [if_pos hle]
        rfl
      · simp only [if_neg hle, Option.map_some]
        -- it was not overwritten, so both records are of one instant
        have hnot : ¬ (latest.transitionedAt.utc < call.transitionedAt.utc ∨
            (latest.transitionedAt.utc ≤ call.transitionedAt.utc ∧
              latest.recordId ≤ (appendedRecord call records).recordId)) := hle
        have hsame : latest.transitionedAt.sameInstant call.transitionedAt = true := by
          simp only [AwareDatetime.sameInstant, beq_iff_eq]
          omega
        rcases hlast latest hlatest hsame with hid | hstate
        · exact absurd (Or.inr ⟨htime, hid⟩) hnot
        · rw [hstate]

theorem holdsLastWritten_step {disk : Disk} {attempts : List Attempt} {attempt : Attempt}
    (hlog : LogReads disk attempts) (hholds : HoldsLastWritten disk attempts)
    (htimes : ∀ earlier ∈ attempts, earlier.1.transitionedAt ≤ attempt.1.transitionedAt)
    (hlast : attempt.Written → ∀ records, readRecords disk.store = .ok (some records) →
      SortsLast attempt.1 records) :
    HoldsLastWritten (transition attempt.1 attempt.2 disk).2 (attempts ++ [attempt]) := by
  obtain ⟨records, hread, hcalls⟩ := hlog
  have hbefore : ∀ record ∈ records, record.transitionedAt ≤ attempt.1.transitionedAt := by
    intro record hmem
    obtain ⟨earlier, hearlier, htime⟩ := hcalls record hmem
    rw [htime]
    exact htimes earlier hearlier
  intro records' hread' key
  rw [lastWritten_append]
  by_cases hwritten : attempt.Written
  · rw [readRecords_transition hread hwritten.1 hwritten.2] at hread'
    cases hread'
    by_cases hkey : attempt.1.scope.key = key
    · subst hkey
      rw [if_pos ⟨hwritten, rfl⟩]
      exact latestState_append_self hbefore (hlast hwritten records hread)
    · rw [if_neg fun h => hkey h.2]
      have hne : (appendedRecord attempt.1 records).scope.key ≠ key := hkey
      rw [show (some records).getD [] = records from rfl, latestState_append_of_ne hne]
      exact hholds records hread key
  · rw [transition_store_of_not_written hwritten, hread] at hread'
    cases hread'
    rw [if_neg fun h => hwritten h.1]
    exact hholds records hread key

/-- A prefix of a run that sorts last sorts last. -/
theorem runSortsLast_of_append {attempts later : List Attempt}
    (h : RunSortsLast (attempts ++ later)) : RunSortsLast attempts := by
  intro earlier attempt rest hsplit
  apply h earlier attempt (rest ++ later)
  rw [hsplit]
  simp

theorem holdsLastWritten_runAttempts {attempts : List Attempt}
    (htimes : attempts.Pairwise fun a b => a.1.transitionedAt ≤ b.1.transitionedAt)
    (hlast : RunSortsLast attempts) : HoldsLastWritten (runAttempts attempts) attempts := by
  induction attempts using List.reverseRecOn with
  | nil =>
      intro records hread key
      cases hread
      rfl
  | append_singleton attempts attempt ih =>
      obtain ⟨hearlier, -, hcross⟩ := List.pairwise_append.mp htimes
      rw [runAttempts_append]
      apply holdsLastWritten_step (logReads_runAttempts attempts)
      · exact ih hearlier (runSortsLast_of_append hlast)
      · intro earlier hmem
        exact hcross earlier hmem attempt (List.mem_singleton_self attempt)
      · exact hlast attempts attempt [] rfl

/-- Strictly increasing timestamps make every record sort last. -/
theorem runSortsLast_of_strictly_increasing {attempts : List Attempt}
    (htimes : attempts.Pairwise fun a b => a.1.transitionedAt < b.1.transitionedAt) :
    RunSortsLast attempts := by
  rintro earlier attempt later rfl - records hread latest hlatest hsame
  obtain ⟨records', hread', hcalls⟩ := logReads_runAttempts earlier
  rw [hread] at hread'
  cases hread'
  obtain ⟨call, hcall, htime⟩ :=
    hcalls latest (Library.lookup_latestEntries_some _ _ hlatest).1
  have hlt : call.1.transitionedAt < attempt.1.transitionedAt :=
    (List.pairwise_append.mp htimes).2.2 call hcall attempt List.mem_cons_self
  rw [← htime] at hlt
  have heq : latest.transitionedAt.utc = attempt.1.transitionedAt.utc := by
    simpa [AwareDatetime.sameInstant] using hsame
  have hutc : latest.transitionedAt.utc < attempt.1.transitionedAt.utc := hlt
  omega

/-! ## Read your write -/

/-- What a reader of the calls expects after one more call: the loads report the most severe last
written state, and the returned record names the state written before it. -/
def ReadsWrites (earlier : List Attempt) (attempt : Attempt) : Prop :=
  (∀ evaluatedScopes, ReportsState (runAttempts (earlier ++ [attempt])).store evaluatedScopes
    (reportedState (lastWritten (earlier ++ [attempt])) evaluatedScopes)) ∧
  ∀ record, (transition attempt.1 attempt.2 (runAttempts earlier)).1 = .ok record →
    record.priorState = (lastWritten earlier attempt.1.scope.key).getD .unknownFailClosed

/-- In a run of calls whose timestamps never decrease and whose records sort last, every call reads
the writes before it. -/
theorem transitions_read_their_writes (attempts : List Attempt)
    (htimes : attempts.Pairwise fun a b => a.1.transitionedAt ≤ b.1.transitionedAt)
    (hlast : RunSortsLast attempts) :
    ∀ earlier attempt later, attempts = earlier ++ attempt :: later →
      ReadsWrites earlier attempt := by
  rintro earlier attempt later rfl
  have hsplit : earlier ++ attempt :: later = (earlier ++ [attempt]) ++ later := by simp
  rw [hsplit] at htimes hlast
  have htimes' := (List.pairwise_append.mp htimes).1
  have hlast' := runSortsLast_of_append hlast
  have hbefore := holdsLastWritten_runAttempts (List.pairwise_append.mp htimes').1
    (runSortsLast_of_append hlast')
  have hafter := holdsLastWritten_runAttempts htimes' hlast'
  constructor
  · intro evaluatedScopes
    obtain ⟨records, hread, -⟩ := logReads_runAttempts (earlier ++ [attempt])
    have hstates : latestState records = lastWritten (earlier ++ [attempt]) :=
      funext (hafter records hread)
    rw [← hstates]
    exact reportsState_of_records hread evaluatedScopes
  · intro record hreturns
    obtain ⟨records, hread, -⟩ := logReads_runAttempts earlier
    obtain ⟨-, -, rfl⟩ := (transition_returns_iff hread record).mp hreturns
    rw [← hbefore records hread]
    rfl

end Runs

/-! ## Two calls of one minute apart, and two of one instant -/

/-- A halt of the global scope. -/
def haltGlobal (transitionedAt : AwareDatetime) : TransitionCall where
  scope := globalScope
  newState := .halted
  actor := "alice"
  actorRole := "ops_owner"
  transitionedAt := transitionedAt
  reason := "halt"
  cancelOpenOrders := false

/-- A minute after the clear, the halt reads the clear. -/
theorem halt_a_minute_later_reads_clear :
    @ReadsWrites strictParsing hashlibSha256 [(clearGlobal, none)]
      (haltGlobal ⟨1767225660000000, 0⟩, none) := by
  have htimes : [((clearGlobal, none) : Attempt), (haltGlobal ⟨1767225660000000, 0⟩, none)].Pairwise
      fun a b => a.1.transitionedAt < b.1.transitionedAt := by decide
  exact @transitions_read_their_writes strictParsing hashlibSha256 _
    (htimes.imp fun h => le_of_lt h)
    (@runSortsLast_of_strictly_increasing strictParsing hashlibSha256 _ htimes)
    [(clearGlobal, none)] (haltGlobal ⟨1767225660000000, 0⟩, none) [] rfl

theorem haltGlobal_wellFormed (transitionedAt : AwareDatetime) :
    (haltGlobal transitionedAt).WellFormed := by
  have hfields : isNonEmptyString "alice" = true ∧ isNonEmptyString "ops_owner" = true ∧
      isNonEmptyString "halt" = true ∧ isNonEmptyString "FR-011" = true ∧
      isNonEmptyString "NFR-004" = true := by decide
  obtain ⟨hactor, hrole, hreason, hfirst, hsecond⟩ := hfields
  refine ⟨hactor, hrole, hreason, fun id hid => absurd hid (by simp [haltGlobal,
    TransitionCall.draft]), ?_⟩
  intro id hid
  rcases List.mem_cons.mp hid with rfl | hid
  · exact hfirst
  · rw [List.mem_singleton.mp hid]
    exact hsecond

section SameInstant

variable [Sha256]

/-- The record of the clear. -/
def clearRecord : KillSwitchRecord := appendedRecord clearGlobal []

/-- The record of a halt of the same instant. -/
def haltRecord : KillSwitchRecord := appendedRecord (haltGlobal minuteZero) [clearRecord]

theorem readRecords_clear_halt [LaxParsing] :
    readRecords (runAttempts
      ([(clearGlobal, none)] ++ [(haltGlobal minuteZero, none)])).store =
      .ok (some [clearRecord, haltRecord]) := by
  have hclear : readRecords (runAttempts ([] ++ [(clearGlobal, none)])).store =
      .ok (some ([] ++ [clearRecord])) :=
    readRecords_runAttempts_append rfl ⟨clearGlobal_wellFormed, rfl⟩
  exact readRecords_runAttempts_append hclear ⟨haltGlobal_wellFormed minuteZero, rfl⟩

/-- When the halt sorts below the clear, the clear stays the latest record. -/
theorem latestState_clear_halt (hbelow : ¬ recordLe clearRecord haltRecord) :
    latestState [clearRecord, haltRecord] globalKey = some .clear := by
  have hfirst : (Library.latestEntries recordLe
      (fun record : KillSwitchRecord => record.scope.key) [clearRecord]).lookup globalKey =
      some clearRecord :=
    Library.lookup_latestEntries_append recordLe
      (fun record : KillSwitchRecord => record.scope.key) [] clearRecord globalKey
  have hboth := Library.lookup_latestEntries_append recordLe
    (fun record : KillSwitchRecord => record.scope.key) [clearRecord] haltRecord globalKey
  have hkey : haltRecord.scope.key = globalKey := rfl
  rw [hfirst, if_pos hkey] at hboth
  simp only [if_neg hbelow] at hboth
  simp only [latestState, latestRecordsByScope]
  rw [show [clearRecord, haltRecord] = [clearRecord] ++ [haltRecord] from rfl, hboth]
  rfl

end SameInstant

/-- The digest of the halt is below the digest of the clear. -/
theorem haltRecord_sorts_below :
    ¬ recordLe (@clearRecord hashlibSha256) (@haltRecord hashlibSha256) := by
  decide +kernel

/-- A halt of the same instant as a clear can go unread: loads keep reporting the clear. -/
theorem halt_of_same_instant_unread :
    clearGlobal.transitionedAt ≤ (haltGlobal minuteZero).transitionedAt ∧
      ¬ @ReadsWrites strictParsing hashlibSha256 [(clearGlobal, none)]
        (haltGlobal minuteZero, none) := by
  refine ⟨le_refl _, ?_⟩
  rintro ⟨hloads, -⟩
  have hexpected : reportedState (lastWritten
      ([(clearGlobal, none)] ++ [(haltGlobal minuteZero, none)])) [] = .halted := by
    simp only [reportedState, scopeKeys, List.map_nil]
    rw [List.filterMap_cons, lastWritten_append,
      if_pos ⟨⟨haltGlobal_wellFormed minuteZero, rfl⟩, rfl⟩]
    rfl
  have hreported : reportedState (latestState [@clearRecord hashlibSha256, @haltRecord hashlibSha256]) [] = .clear := by
    simp only [reportedState, scopeKeys, List.map_nil]
    rw [List.filterMap_cons, @latestState_clear_halt hashlibSha256 haltRecord_sorts_below]
    rfl
  have hstore := @reportsState_of_records strictParsing hashlibSha256 _ _
    (@readRecords_clear_halt hashlibSha256 strictParsing) []
  have hcall := hloads []
  rw [hexpected] at hcall
  rw [hreported] at hstore
  have hsame := @reportsState_unique strictParsing hashlibSha256 _ _ _ _ hcall hstore
  cases hsame

end TaModel.Risk
