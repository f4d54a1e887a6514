import TaModel.Contracts.StreamEvaluator
import TaModel.Library.RunningMax
import Mathlib.Algebra.BigOperators.Ring.Finset

/-!
# Stream-health accounting

What a run of one `StreamHealthEvaluator` reports of each scope. Its three maps are read and
written at the key of the event's scope only, so the record of an event is the one that the
earlier events of the scope alone give (`AgreeOn`). The last sequence of a scope is the running
maximum of its sequences: the gaps are the gaps of `Library.raises`.
-/

set_option autoImplicit false

namespace TaModel.Contracts

open Library (raises runningMax)

/-! ## Scopes and keys -/

/-- The scopes of events are told apart by their keys. -/
theorem StreamEvent.scopeFor_key_inj (e e' : StreamEvent) :
    e.scopeFor.key = e'.scopeFor.key ↔ e.scopeFor = e'.scopeFor := by
  constructor
  · intro hkey
    simp only [StreamHealthScope.key, Prod.mk.injEq] at hkey
    obtain ⟨hsubscription, hsource, hvenue, hchannel, hinstrument⟩ := hkey
    -- the five channel texts differ from each other
    have hvalue : e.scopeFor.channel = e'.scopeFor.channel := by
      cases e <;> cases e' <;>
        simp_all [StreamEvent.scopeFor, StreamEvent.channel, StreamChannel.value,
          StreamEventType.value]
    simp only [StreamEvent.scopeFor, StreamHealthScope.mk.injEq] at *
    exact ⟨hsubscription, hsource, hvenue, hvalue, hinstrument⟩
  · intro hscope
    rw [hscope]

/-- The events of one scope. -/
def inScope (scope : StreamHealthScope) (events : List StreamEvent) : List StreamEvent :=
  events.filter fun event => decide (event.scopeFor = scope)

theorem inScope_cons_self (event : StreamEvent) (events : List StreamEvent) :
    inScope event.scopeFor (event :: events) = event :: inScope event.scopeFor events :=
  List.filter_cons_of_pos (by simp)

theorem inScope_cons_of_ne {scope : StreamHealthScope} {event : StreamEvent}
    (h : event.scopeFor ≠ scope) (events : List StreamEvent) :
    inScope scope (event :: events) = inScope scope events :=
  List.filter_cons_of_neg (by simpa using h)

namespace StreamHealthEvaluator

/-- The evaluator after a run of events. -/
def rememberEach (s : StreamHealthEvaluator) (events : List StreamEvent) : StreamHealthEvaluator :=
  events.foldl remember s

/-- The record at a position of a run is the one of its event after the events before it. -/
theorem getElem?_evaluateEach (s : StreamHealthEvaluator)
    (entries : List (StreamEvent × AwareDatetime)) (i : Nat) :
    (s.evaluateEach entries)[i]? = entries[i]?.map fun entry =>
      ((s.rememberEach ((entries.take i).map Prod.fst)).evaluate entry.1 entry.2).1 := by
  induction entries generalizing s i with
  | nil => rfl
  | cons entry entries ih =>
      cases i with
      | zero => rfl
      | succ i => exact ih (s.remember entry.1) i

/-! ## One scope at a time -/

/-- Two evaluators know the same of one scope. -/
structure AgreeOn (key : StreamScopeKey) (s t : StreamHealthEvaluator) : Prop where
  policy : s.policy = t.policy
  lastSequence : s.lastSequenceByScope key = t.lastSequenceByScope key
  seenEventIds : s.seenEventIdsByScope key = t.seenEventIdsByScope key
  seenSequences : s.seenSequencesByScope key = t.seenSequencesByScope key

namespace AgreeOn

variable {key : StreamScopeKey} {s t u : StreamHealthEvaluator}

theorem refl (key : StreamScopeKey) (s : StreamHealthEvaluator) : AgreeOn key s s :=
  ⟨rfl, rfl, rfl, rfl⟩

theorem trans (h : AgreeOn key s t) (h' : AgreeOn key t u) : AgreeOn key s u :=
  ⟨h.policy.trans h'.policy, h.lastSequence.trans h'.lastSequence,
    h.seenEventIds.trans h'.seenEventIds, h.seenSequences.trans h'.seenSequences⟩

/-- Evaluators that agree on an event's scope give it the same record. -/
theorem evaluate {event : StreamEvent} (h : AgreeOn event.scopeFor.key s t)
    (evaluationTs : AwareDatetime) :
    (s.evaluate event evaluationTs).1 = (t.evaluate event evaluationTs).1 := by
  have hduplicate : s.isDuplicate event = t.isDuplicate event := by
    simp only [isDuplicate, h.seenEventIds, h.seenSequences]
  have hgap : s.gapSize event = t.gapSize event := by
    simp only [gapSize, h.lastSequence]
  have hissues : s.issuesFor event evaluationTs = t.issuesFor event evaluationTs := by
    simp only [issuesFor, h.policy, hduplicate, hgap]
  have hmetrics : s.metricsFor event evaluationTs = t.metricsFor event evaluationTs := by
    simp only [metricsFor, h.policy, hduplicate, hgap]
  simp only [StreamHealthEvaluator.evaluate, hissues, hmetrics]

/-- An event of another scope changes nothing. -/
theorem remember_of_ne (s : StreamHealthEvaluator) {event : StreamEvent}
    (h : event.scopeFor.key ≠ key) : AgreeOn key (s.remember event) s := by
  cases hsequence : event.sequenceFor with
  | none =>
      simp only [StreamHealthEvaluator.remember, hsequence]
      exact ⟨rfl, rfl, Function.update_of_ne h.symm _ _, rfl⟩
  | some n =>
      simp only [StreamHealthEvaluator.remember, hsequence]
      exact ⟨rfl, Function.update_of_ne h.symm _ _, Function.update_of_ne h.symm _ _,
        Function.update_of_ne h.symm _ _⟩

theorem symm (h : AgreeOn key s t) : AgreeOn key t s :=
  ⟨h.policy.symm, h.lastSequence.symm, h.seenEventIds.symm, h.seenSequences.symm⟩

/-- Reading one more event keeps the agreement. -/
theorem remember (h : AgreeOn key s t) (event : StreamEvent) :
    AgreeOn key (s.remember event) (t.remember event) := by
  by_cases hkey : event.scopeFor.key = key
  · subst hkey
    cases hsequence : event.sequenceFor with
    | none =>
        refine ⟨?_, ?_, ?_, ?_⟩ <;>
          simp only [StreamHealthEvaluator.remember, hsequence, Function.update_self, h.policy,
            h.lastSequence, h.seenEventIds, h.seenSequences]
    | some n =>
        refine ⟨?_, ?_, ?_, ?_⟩ <;>
          simp only [StreamHealthEvaluator.remember, hsequence, Function.update_self, h.policy,
            h.lastSequence, h.seenEventIds, h.seenSequences]
  · exact (remember_of_ne s hkey).trans (h.trans (remember_of_ne t hkey).symm)

/-- What an evaluator knows of a scope comes from the events of the scope. -/
theorem rememberEach_inScope (h : AgreeOn key s t) {scope : StreamHealthScope}
    (events : List StreamEvent)
    (hscope : ∀ event ∈ events, event.scopeFor.key = key ↔ event.scopeFor = scope) :
    AgreeOn key (s.rememberEach events) (t.rememberEach (inScope scope events)) := by
  induction events generalizing s t with
  | nil => exact h
  | cons event events ih =>
      have htail : ∀ other ∈ events, other.scopeFor.key = key ↔ other.scopeFor = scope :=
        fun other hother => hscope other (List.mem_cons_of_mem event hother)
      by_cases hevent : event.scopeFor = scope
      · subst hevent
        rw [inScope_cons_self]
        exact ih (h.remember event) htail
      · rw [inScope_cons_of_ne hevent]
        have hkey : event.scopeFor.key ≠ key :=
          fun hkey => hevent ((hscope event List.mem_cons_self).mp hkey)
        exact ih ((remember_of_ne s hkey).trans h) htail

end AgreeOn

/-- The events of an event's scope decide its record. -/
theorem evaluate_rememberEach (s : StreamHealthEvaluator) {event : StreamEvent}
    {events events' : List StreamEvent} (evaluationTs : AwareDatetime)
    (h : inScope event.scopeFor events = inScope event.scopeFor events') :
    ((s.rememberEach events).evaluate event evaluationTs).1 =
      ((s.rememberEach events').evaluate event evaluationTs).1 := by
  have hkey : ∀ other : StreamEvent,
      other.scopeFor.key = event.scopeFor.key ↔ other.scopeFor = event.scopeFor :=
    fun other => other.scopeFor_key_inj event
  have hagree := (AgreeOn.refl event.scopeFor.key s).rememberEach_inScope events
    fun other _ => hkey other
  have hagree' := (AgreeOn.refl event.scopeFor.key s).rememberEach_inScope events'
    fun other _ => hkey other
  rw [h] at hagree
  exact (hagree.trans hagree'.symm).evaluate evaluationTs

/-! ## Duplicates -/

/-- An event that the evaluator has to call a duplicate of `earlier`. -/
def Repeats (event earlier : StreamEvent) : Prop :=
  earlier.scopeFor = event.scopeFor ∧
    (earlier.eventIdFor = event.eventIdFor ∨
      ∃ n, earlier.sequenceFor = some n ∧ event.sequenceFor = some n)

theorem mem_seenEventIds_remember_iff (s : StreamHealthEvaluator) (event : StreamEvent)
    (key : StreamScopeKey) (id : String) :
    id ∈ (s.remember event).seenEventIdsByScope key ↔
      (event.scopeFor.key = key ∧ event.eventIdFor = id) ∨ id ∈ s.seenEventIdsByScope key := by
  have hseen : (s.remember event).seenEventIdsByScope =
      Function.update s.seenEventIdsByScope event.scopeFor.key
        (event.eventIdFor :: s.seenEventIdsByScope event.scopeFor.key) := by
    cases hsequence : event.sequenceFor <;> simp only [remember, hsequence]
  rw [hseen]
  by_cases hkey : event.scopeFor.key = key
  · subst hkey
    simp [eq_comm]
  · rw [Function.update_of_ne (Ne.symm hkey)]
    simp [hkey]

theorem mem_seenSequences_remember_iff (s : StreamHealthEvaluator) (event : StreamEvent)
    (key : StreamScopeKey) (n : Nat) :
    n ∈ (s.remember event).seenSequencesByScope key ↔
      (event.scopeFor.key = key ∧ event.sequenceFor = some n) ∨
        n ∈ s.seenSequencesByScope key := by
  cases hsequence : event.sequenceFor with
  | none => simp [remember, hsequence]
  | some m =>
      simp only [remember, hsequence]
      by_cases hkey : event.scopeFor.key = key
      · subst hkey
        simp [eq_comm]
      · rw [Function.update_of_ne (Ne.symm hkey)]
        simp [hkey]

/-- The ids an evaluator has seen are those of the events it has read. -/
theorem mem_seenEventIds_rememberEach_iff (s : StreamHealthEvaluator) (events : List StreamEvent)
    (key : StreamScopeKey) (id : String) :
    id ∈ (s.rememberEach events).seenEventIdsByScope key ↔
      (∃ event ∈ events, event.scopeFor.key = key ∧ event.eventIdFor = id) ∨
        id ∈ s.seenEventIdsByScope key := by
  induction events generalizing s with
  | nil => simp [rememberEach]
  | cons event events ih =>
      rw [rememberEach, List.foldl_cons]
      refine (ih (s.remember event)).trans ?_
      rw [mem_seenEventIds_remember_iff, List.exists_mem_cons_iff, or_left_comm,
        or_assoc]

/-- The sequences an evaluator has seen are those of the events it has read. -/
theorem mem_seenSequences_rememberEach_iff (s : StreamHealthEvaluator)
    (events : List StreamEvent) (key : StreamScopeKey) (n : Nat) :
    n ∈ (s.rememberEach events).seenSequencesByScope key ↔
      (∃ event ∈ events, event.scopeFor.key = key ∧ event.sequenceFor = some n) ∨
        n ∈ s.seenSequencesByScope key := by
  induction events generalizing s with
  | nil => simp [rememberEach]
  | cons event events ih =>
      rw [rememberEach, List.foldl_cons]
      refine (ih (s.remember event)).trans ?_
      rw [mem_seenSequences_remember_iff, List.exists_mem_cons_iff, or_left_comm,
        or_assoc]

/-- After reading `events`, a fresh evaluator calls duplicate what repeats one of them. -/
theorem isDuplicate_rememberEach_iff (policy : StreamHealthPolicy) (events : List StreamEvent)
    (event : StreamEvent) :
    (rememberEach { policy := policy } events).isDuplicate event = true ↔
      ∃ earlier ∈ events, Repeats event earlier := by
  have hids := mem_seenEventIds_rememberEach_iff { policy := policy } events event.scopeFor.key
    event.eventIdFor
  have hsequences := mem_seenSequences_rememberEach_iff { policy := policy } events
    event.scopeFor.key
  simp only [List.not_mem_nil, or_false, StreamEvent.scopeFor_key_inj] at hids hsequences
  have hsplit : (∃ earlier ∈ events, Repeats event earlier) ↔
      (∃ earlier ∈ events, earlier.scopeFor = event.scopeFor ∧
        earlier.eventIdFor = event.eventIdFor) ∨
      ∃ n, event.sequenceFor = some n ∧ ∃ earlier ∈ events,
        earlier.scopeFor = event.scopeFor ∧ earlier.sequenceFor = some n := by
    constructor
    · rintro ⟨earlier, hmem, hscope, hid | ⟨n, hearlier, hevent⟩⟩
      · exact .inl ⟨earlier, hmem, hscope, hid⟩
      · exact .inr ⟨n, hevent, earlier, hmem, hscope, hearlier⟩
    · rintro (⟨earlier, hmem, hscope, hid⟩ | ⟨n, hevent, earlier, hmem, hscope, hearlier⟩)
      · exact ⟨earlier, hmem, hscope, .inl hid⟩
      · exact ⟨earlier, hmem, hscope, .inr ⟨n, hearlier, hevent⟩⟩
  rw [hsplit, ← hids]
  simp only [← hsequences]
  cases hsequence : event.sequenceFor with
  | none => simp [isDuplicate, hsequence]
  | some n => simp [isDuplicate, hsequence]

theorem duplicate_mem_issuesFor_iff (s : StreamHealthEvaluator) (event : StreamEvent)
    (evaluationTs : AwareDatetime) :
    StreamHealthCheck.duplicate ∈ (s.issuesFor event evaluationTs).map StreamHealthIssue.check ↔
      s.isDuplicate event = true := by
  simp only [issuesFor, List.map_append, List.mem_append]
  rw [or_iff_left (check_notMem_ite (by simp)), or_iff_right (not_or.mpr
    ⟨check_notMem_ite (by simp), check_notMem_ite (by simp)⟩)]
  split_ifs with hduplicate
  · simpa using hduplicate
  · simpa using hduplicate

/-! ## Gaps -/

/-- The old and the new last sequence of a scope, when the event raises it. -/
def riseOf (s : StreamHealthEvaluator) (event : StreamEvent) : Option (Nat × Nat) :=
  match event.sequenceFor, s.lastSequenceByScope event.scopeFor.key with
  | some n, some m => if m < n then some (m, n) else none
  | _, _ => none

/-- The gap that an event reports is the one of its rise. -/
theorem gapSize_eq_riseOf (s : StreamHealthEvaluator) (event : StreamEvent) :
    s.gapSize event = (s.riseOf event).elim 0 fun rise => rise.2 - rise.1 - 1 := by
  cases hsequence : event.sequenceFor with
  | none => simp [gapSize, riseOf, hsequence]
  | some n =>
      cases hlast : s.lastSequenceByScope event.scopeFor.key with
      | none => simp [gapSize, riseOf, hsequence, hlast]
      | some m =>
          simp only [gapSize, riseOf, hsequence, hlast]
          split_ifs
          · rfl
          · omega
          · simp only [Option.elim_some]
            omega
          · rfl

theorem sequenceFor_of_riseOf {s : StreamHealthEvaluator} {event : StreamEvent}
    {rise : Nat × Nat} (h : s.riseOf event = some rise) :
    event.sequenceFor = some rise.2 ∧ rise.1 < rise.2 := by
  cases hsequence : event.sequenceFor with
  | none => simp [riseOf, hsequence] at h
  | some n =>
      cases hlast : s.lastSequenceByScope event.scopeFor.key with
      | none => simp [riseOf, hsequence, hlast] at h
      | some m =>
          simp only [riseOf, hsequence, hlast] at h
          split_ifs at h with hlt
          cases h
          exact ⟨rfl, hlt⟩

/-- The first sequence of a scope raises nothing and is remembered. -/
theorem of_first_sequence {s : StreamHealthEvaluator} {event : StreamEvent} {n : Nat}
    (hsequence : event.sequenceFor = some n)
    (hlast : s.lastSequenceByScope event.scopeFor.key = none) :
    s.riseOf event = none ∧
      (s.remember event).lastSequenceByScope event.scopeFor.key = some n := by
  simp [riseOf, remember, hsequence, hlast]

/-- A later sequence raises the last one exactly when it is larger. -/
theorem of_later_sequence {s : StreamHealthEvaluator} {event : StreamEvent} {m n : Nat}
    (hsequence : event.sequenceFor = some n)
    (hlast : s.lastSequenceByScope event.scopeFor.key = some m) :
    s.riseOf event = (if m < n then some (m, n) else none) ∧
      (s.remember event).lastSequenceByScope event.scopeFor.key =
        some (if m < n then n else m) := by
  simp [riseOf, remember, hsequence, hlast]

/-- An event without a sequence leaves the last one. -/
theorem of_no_sequence {s : StreamHealthEvaluator} {event : StreamEvent}
    (hsequence : event.sequenceFor = none) :
    s.riseOf event = none ∧
      (s.remember event).lastSequenceByScope = s.lastSequenceByScope := by
  simp [riseOf, remember, hsequence]

end StreamHealthEvaluator

/-- The sequences of a scope in the order of its events. -/
def sequencesOf (scope : StreamHealthScope) (entries : List (StreamEvent × AwareDatetime)) :
    List Nat :=
  (inScope scope (entries.map Prod.fst)).filterMap StreamEvent.sequenceFor

/-- The records of one scope. -/
def recordsOf (scope : StreamHealthScope) (records : List StreamHealthRecord) :
    List StreamHealthRecord :=
  records.filter fun record => decide (record.scope = scope)

/-- The rises of a scope's sequences above the last one; the first sequence is no rise. -/
def risesAfter : Option Nat → List Nat → List (Nat × Nat)
  | some m, ns => raises m ns
  | none, [] => []
  | none, n :: ns => raises n ns

section Rises

variable {M : Type} [AddCommMonoid M] {F : StreamHealthRecord → M} {f : Nat × Nat → M}
variable {scope : StreamHealthScope}

/-- What the records say of the rises of their scope adds up over the rises of its sequences. The
induction carries the last sequence of the scope. -/
theorem sum_recordsOf
    (hF : ∀ (s : StreamHealthEvaluator) (event : StreamEvent) (evaluationTs : AwareDatetime),
      F (s.evaluate event evaluationTs).1 = (s.riseOf event).elim 0 f)
    {entries : List (StreamEvent × AwareDatetime)}
    (hscope : ∀ entry ∈ entries, entry.1.scopeFor.key = scope.key ↔ entry.1.scopeFor = scope)
    (s : StreamHealthEvaluator) :
    ((recordsOf scope (s.evaluateEach entries)).map F).sum =
      ((risesAfter (s.lastSequenceByScope scope.key) (sequencesOf scope entries)).map f).sum := by
  induction entries generalizing s with
  | nil => cases s.lastSequenceByScope scope.key <;> rfl
  | cons entry entries ih =>
      obtain ⟨event, evaluationTs⟩ := entry
      have hrest := ih (fun other hother => hscope other (List.mem_cons_of_mem _ hother))
        (s.remember event)
      have hrun : s.evaluateEach ((event, evaluationTs) :: entries) =
          (s.evaluate event evaluationTs).1 :: (s.remember event).evaluateEach entries := rfl
      by_cases hevent : event.scopeFor = scope
      · subst hevent
        have hrecords : recordsOf event.scopeFor (s.evaluateEach ((event, evaluationTs) :: entries)) =
            (s.evaluate event evaluationTs).1 ::
              recordsOf event.scopeFor ((s.remember event).evaluateEach entries) := by
          rw [hrun]
          exact List.filter_cons_of_pos (by simp [StreamHealthEvaluator.evaluate])
        rw [hrecords, List.map_cons, List.sum_cons, hF, hrest]
        cases hsequence : event.sequenceFor with
        | none =>
            have hsequences : sequencesOf event.scopeFor ((event, evaluationTs) :: entries) =
                sequencesOf event.scopeFor entries := by
              simp [sequencesOf, inScope_cons_self, hsequence]
            obtain ⟨hrise, hremember⟩ := StreamHealthEvaluator.of_no_sequence (s := s) hsequence
            rw [hrise, hsequences, hremember, Option.elim_none, zero_add]
        | some n =>
            have hsequences : sequencesOf event.scopeFor ((event, evaluationTs) :: entries) =
                n :: sequencesOf event.scopeFor entries := by
              simp [sequencesOf, inScope_cons_self, hsequence]
            cases hlast : s.lastSequenceByScope event.scopeFor.key with
            | none =>
                obtain ⟨hrise, hremember⟩ :=
                  StreamHealthEvaluator.of_first_sequence hsequence hlast
                rw [hrise, hremember, hsequences, Option.elim_none, zero_add]
                rfl
            | some m =>
                obtain ⟨hrise, hremember⟩ :=
                  StreamHealthEvaluator.of_later_sequence hsequence hlast
                rw [hrise, hremember, hsequences]
                simp only [risesAfter]
                by_cases hlt : m < n
                · rw [if_pos hlt, if_pos hlt, Library.raises_cons_of_lt hlt, List.map_cons,
                    List.sum_cons, Option.elim_some]
                · rw [if_neg hlt, if_neg hlt, Library.raises_cons_of_le (not_lt.mp hlt),
                    Option.elim_none, zero_add]
      · -- an event of another scope leaves the last sequence of this one
        have hkey : event.scopeFor.key ≠ scope.key :=
          fun hkey => hevent ((hscope _ List.mem_cons_self).mp hkey)
        have hrecords : recordsOf scope (s.evaluateEach ((event, evaluationTs) :: entries)) =
            recordsOf scope ((s.remember event).evaluateEach entries) := by
          rw [hrun]
          exact List.filter_cons_of_neg (by simp [StreamHealthEvaluator.evaluate, hevent])
        have hsequences : sequencesOf scope ((event, evaluationTs) :: entries) =
            sequencesOf scope entries := by
          rw [sequencesOf, List.map_cons, inScope_cons_of_ne hevent]
          rfl
        rw [hrecords, hsequences, hrest,
          (StreamHealthEvaluator.AgreeOn.remember_of_ne s hkey).lastSequence]

end Rises

/-! ## What the records count -/

namespace StreamHealthRecord

/-- The gap findings of a record. -/
def gapIssues (record : StreamHealthRecord) : List StreamHealthIssue :=
  record.issues.filter fun issue => decide (issue.check = .sequenceGap)

/-- The sequences a record reports as skipped. -/
def gapTotal (record : StreamHealthRecord) : ℚ :=
  (record.gapIssues.map fun issue => (issue.observedValue : ℚ)).sum

/-- In how many gap findings of a record `k` is counted: a finding of size `g` at sequence `n` is
about the `g` numbers below `n`. -/
def gapCount (record : StreamHealthRecord) (k : Nat) : Nat :=
  match record.sequence with
  | none => 0
  | some n => record.gapIssues.countP fun issue =>
      decide ((n : ℚ) ≤ k + (issue.observedValue : ℚ) ∧ k < n)

end StreamHealthRecord

/-- A record has at most one gap finding, about its rise. -/
theorem gapIssues_evaluate (s : StreamHealthEvaluator) (event : StreamEvent)
    (evaluationTs : AwareDatetime) :
    (s.evaluate event evaluationTs).1.gapIssues =
      if 0 < s.gapSize event then
        [⟨.sequenceGap, .sequenceGapSize, decimalOf (s.gapSize event), some (decimalOf 0),
          "sequence advanced by more than one in this stream scope"⟩] else [] := by
  have hother : ∀ issues : List StreamHealthIssue,
      .sequenceGap ∉ issues.map StreamHealthIssue.check →
      issues.filter (fun issue => decide (issue.check = .sequenceGap)) = [] := by
    intro issues hnot
    rw [List.filter_eq_nil_iff]
    intro issue hmem
    simpa using fun hcheck => hnot (List.mem_map.mpr ⟨issue, hmem, hcheck⟩)
  simp only [StreamHealthRecord.gapIssues, StreamHealthEvaluator.evaluate,
    StreamHealthEvaluator.issuesFor, List.filter_append]
  rw [hother _ (check_notMem_ite (by simp)), hother _ (check_notMem_ite (by simp)),
    hother _ (check_notMem_ite (by simp))]
  split_ifs
  · simp
  · rfl

theorem gapTotal_evaluate (s : StreamHealthEvaluator) (event : StreamEvent)
    (evaluationTs : AwareDatetime) :
    (s.evaluate event evaluationTs).1.gapTotal =
      (s.riseOf event).elim 0 fun rise => ((rise.2 - rise.1 - 1 : Nat) : ℚ) := by
  have hsize : (s.evaluate event evaluationTs).1.gapTotal = (s.gapSize event : ℚ) := by
    rw [StreamHealthRecord.gapTotal, gapIssues_evaluate]
    split_ifs with hgap
    · simp [decimalOf]
    · rw [Nat.eq_zero_of_not_pos hgap]
      simp
  rw [hsize, s.gapSize_eq_riseOf]
  cases s.riseOf event with
  | none => simp
  | some rise => rfl

theorem gapCount_evaluate (s : StreamHealthEvaluator) (event : StreamEvent)
    (evaluationTs : AwareDatetime) (k : Nat) :
    (s.evaluate event evaluationTs).1.gapCount k =
      (s.riseOf event).elim 0 fun rise => if rise.1 < k ∧ k < rise.2 then 1 else 0 := by
  have hrecord : (s.evaluate event evaluationTs).1.sequence = event.sequenceFor := rfl
  have hsize := s.gapSize_eq_riseOf event
  rw [StreamHealthRecord.gapCount, gapIssues_evaluate, hrecord]
  cases hrise : s.riseOf event with
  | none =>
      rw [hrise, Option.elim_none] at hsize
      cases event.sequenceFor with
      | none => rfl
      | some n => simp [hsize]
  | some rise =>
      obtain ⟨hsequence, hlt⟩ := StreamHealthEvaluator.sequenceFor_of_riseOf hrise
      rw [hrise, Option.elim_some] at hsize
      rw [hsize, hsequence, Option.elim_some]
      -- `n ≤ k + (n - m - 1)` over the rationals is `m < k`
      have hle : ((rise.2 : ℚ) ≤ k + ((rise.2 - rise.1 - 1 : Nat) : ℚ)) ↔
          rise.2 ≤ k + (rise.2 - rise.1 - 1) := by
        exact_mod_cast Iff.rfl
      by_cases hgap : 0 < rise.2 - rise.1 - 1
      · rw [if_pos hgap]
        simp only [List.countP_singleton, decimalOf, decide_eq_true_eq, hle]
        refine if_congr ?_ rfl rfl
        omega
      · rw [if_neg hgap, if_neg (by omega)]
        rfl

/-! ## The accounting of a run -/

/-- The sequences of the rises: those that raise the running maximum `m`. -/
def advances (m : Nat) (ns : List Nat) : List Nat :=
  (raises m ns).map Prod.snd

/-- One evaluator reads events of any scopes. The record of an event is decided by the earlier
events of its scope; it is a duplicate exactly when it repeats one of them; and with `a` the first
and `b` the largest sequence of a scope, each number strictly between them raised the maximum or
is counted in exactly one gap, so the gaps add up to `b - a` without the rises. -/
theorem stream_health_accounting (policy : StreamHealthPolicy)
    (entries : List (StreamEvent × AwareDatetime)) :
    (∀ (i : Nat) (entry : StreamEvent × AwareDatetime), entries[i]? = some entry →
      ∃ record, (StreamHealthEvaluator.evaluateEach { policy := policy } entries)[i]? =
          some record ∧
        (∀ (entries' : List (StreamEvent × AwareDatetime)) (j : Nat),
          entries'[j]? = some entry →
          inScope entry.1.scopeFor ((entries.take i).map Prod.fst) =
            inScope entry.1.scopeFor ((entries'.take j).map Prod.fst) →
          (StreamHealthEvaluator.evaluateEach { policy := policy } entries')[j]? =
            some record) ∧
        (.duplicate ∈ record.issues.map StreamHealthIssue.check ↔
          ∃ earlier ∈ (entries.take i).map Prod.fst,
            StreamHealthEvaluator.Repeats entry.1 earlier)) ∧
    ∀ (scope : StreamHealthScope) (a b : Nat) (rest : List Nat),
      sequencesOf scope entries = a :: rest → IsGreatest {n | n ∈ a :: rest} b →
      (∀ k, a < k → k < b →
        (advances a rest).count k +
          ((recordsOf scope (StreamHealthEvaluator.evaluateEach { policy := policy } entries)).map
            fun record => record.gapCount k).sum = 1) ∧
      ((recordsOf scope (StreamHealthEvaluator.evaluateEach { policy := policy } entries)).map
          StreamHealthRecord.gapTotal).sum =
        (b : ℚ) - a - (advances a rest).length := by
  refine ⟨?_, ?_⟩
  · intro i entry hentry
    have hrecord := StreamHealthEvaluator.getElem?_evaluateEach { policy := policy } entries i
    rw [hentry, Option.map_some] at hrecord
    refine ⟨_, hrecord, ?_, ?_⟩
    · intro entries' j hentry' hscope
      rw [StreamHealthEvaluator.getElem?_evaluateEach, hentry', Option.map_some]
      exact congrArg some
        (StreamHealthEvaluator.evaluate_rememberEach _ entry.2 hscope).symm
    · rw [← StreamHealthEvaluator.isDuplicate_rememberEach_iff policy]
      exact StreamHealthEvaluator.duplicate_mem_issuesFor_iff _ _ _
  · intro scope a b rest hsequences hgreatest
    obtain rfl : runningMax a rest = b := (Library.isGreatest_runningMax a rest).unique hgreatest
    -- some event of the scope carries `a`, so its key stands for the scope
    obtain ⟨first, hfirst, -⟩ : ∃ event ∈ inScope scope (entries.map Prod.fst),
        event.sequenceFor = some a := by
      have hmem : a ∈ sequencesOf scope entries := by
        rw [hsequences]
        exact List.mem_cons_self
      exact List.mem_filterMap.mp hmem
    obtain rfl : first.scopeFor = scope := by simpa using (List.mem_filter.mp hfirst).2
    have hscope : ∀ entry ∈ entries,
        entry.1.scopeFor.key = first.scopeFor.key ↔ entry.1.scopeFor = first.scopeFor :=
      fun entry _ => entry.1.scopeFor_key_inj first
    have hrises : risesAfter none (a :: rest) = raises a rest := rfl
    refine ⟨?_, ?_⟩
    · intro k hlow hhigh
      rw [sum_recordsOf (fun s event ts => gapCount_evaluate s event ts k) hscope, hsequences,
        hrises, Library.sum_map_ite_eq_countP]
      exact Library.count_raises_add_countP_gap hlow hhigh.le
    · rw [sum_recordsOf gapTotal_evaluate hscope, hsequences, hrises]
      have hsum := Library.sum_gaps_raises a rest
      have hcast : ((((raises a rest).map fun rise => rise.2 - rise.1 - 1).sum : Nat) : ℚ) =
          ((raises a rest).map fun rise => ((rise.2 - rise.1 - 1 : Nat) : ℚ)).sum := by
        rw [Nat.cast_list_sum, List.map_map]
        rfl
      rw [← hcast, ← hsum, advances, List.length_map]
      push_cast
      ring

end TaModel.Contracts
