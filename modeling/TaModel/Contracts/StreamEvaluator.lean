import TaModel.Contracts.StreamHealth
import Mathlib.Logic.Function.Basic
import Mathlib.Data.Rat.Cast.Order

/-!
# Stream-health evaluation

The stream events of `contracts/streaming.py`, and `StreamHealthEvaluator` and `DataHealthGate` of
`contracts/stream_health.py`. The evaluator keeps the last sequence and the event ids and sequences
it has seen, one entry per scope key. Durations count microseconds.

Whether an event is stale depends on the event and its clock alone: `record_stale_iff` holds in
every state of the evaluator, and `signals_of_run` carries it through a run.
-/

set_option autoImplicit false

namespace TaModel.Contracts

/-! ## Stream events -/

/-- What the evaluator reads of `StreamEnvelopeBase`. -/
structure StreamEnvelope where
  subscriptionId : String
  sourceId : String
  venueId : String
  eventTs : AwareDatetime
  sourceTs : Option AwareDatetime := none
  rawPayloadId : String
deriving DecidableEq

/-- `StreamEvent`: trades, quotes and books belong to an instrument, heartbeats and lifecycle
events to their connection. -/
inductive StreamEvent where
  | trade (envelope : StreamEnvelope) (tradeId instrumentId : String) (sequence : Option Nat)
  | quote (envelope : StreamEnvelope) (quoteId instrumentId : String) (sequence : Option Nat)
  | orderBook (envelope : StreamEnvelope) (bookEventId instrumentId : String)
      (sequence : Option Nat)
  | heartbeat (envelope : StreamEnvelope)
  | lifecycle (envelope : StreamEnvelope)
deriving DecidableEq

namespace StreamEvent

def envelope : StreamEvent → StreamEnvelope
  | .trade e _ _ _ | .quote e _ _ _ | .orderBook e _ _ _ | .heartbeat e | .lifecycle e => e

def eventType : StreamEvent → StreamEventType
  | .trade .. => .trade
  | .quote .. => .quote
  | .orderBook .. => .orderBook
  | .heartbeat _ => .heartbeat
  | .lifecycle _ => .lifecycle

/-- The instrument of a trade, a quote or a book. -/
def instrumentId : StreamEvent → Option String
  | .trade _ _ i _ | .quote _ _ i _ | .orderBook _ _ i _ => some i
  | .heartbeat _ | .lifecycle _ => none

/-- The channel of `_scope_for`. -/
def channel : StreamEvent → StreamChannel ⊕ StreamEventType
  | .trade .. => .inl .trades
  | .quote .. => .inl .quotes
  | .orderBook .. => .inl .orderBook
  | .heartbeat _ => .inr .heartbeat
  | .lifecycle _ => .inr .lifecycle

/-- `_scope_for`. -/
def scopeFor (event : StreamEvent) : StreamHealthScope where
  subscriptionId := event.envelope.subscriptionId
  sourceId := event.envelope.sourceId
  venueId := event.envelope.venueId
  channel := event.channel
  instrumentId := event.instrumentId

/-- `_event_id_for`. -/
def eventIdFor : StreamEvent → String
  | .trade _ id _ _ | .quote _ id _ _ | .orderBook _ id _ _ => id
  | .heartbeat e | .lifecycle e => e.rawPayloadId

/-- `_sequence_for`. -/
def sequenceFor : StreamEvent → Option Nat
  | .trade _ _ _ n | .quote _ _ _ n | .orderBook _ _ _ n => n
  | .heartbeat _ | .lifecycle _ => none

end StreamEvent

/-- The value of `StreamHealthScope.key`. -/
abbrev StreamScopeKey := String × String × String × String × Option String

/-- `StreamHealthScope.key`. -/
def StreamHealthScope.key (s : StreamHealthScope) : StreamScopeKey :=
  (s.subscriptionId, s.sourceId, s.venueId,
    (match s.channel with
      | .inl channel => channel.value
      | .inr event => event.value), s.instrumentId)

/-! ## Records -/

/-- `StreamHealthPolicy`: both thresholds are positive durations. -/
structure StreamHealthPolicy where
  maxEventAge : {d : Nat // 0 < d} := ⟨5000000, by decide⟩
  maxTimestampDrift : {d : Nat // 0 < d} := ⟨1000000, by decide⟩

/-- One health metric sample. -/
structure StreamHealthMetric where
  name : StreamHealthMetricName
  value : NonNegativeDecimal
  threshold : Option NonNegativeDecimal
  breached : Bool
  check : StreamHealthCheck
  scope : StreamHealthScope
  evaluationTs : AwareDatetime
deriving DecidableEq

/-- One health finding. -/
structure StreamHealthIssue where
  check : StreamHealthCheck
  metricName : StreamHealthMetricName
  observedValue : NonNegativeDecimal
  threshold : Option NonNegativeDecimal
  description : String
deriving DecidableEq

/-- The evaluation of one stream event; the proof field is `degraded_requires_issue`. -/
structure StreamHealthRecord where
  eventType : StreamEventType
  eventId : String
  sequence : Option Nat
  scope : StreamHealthScope
  evaluationTs : AwareDatetime
  eventTs : AwareDatetime
  sourceTs : Option AwareDatetime
  status : StreamHealthStatus
  metrics : List StreamHealthMetric
  issues : List StreamHealthIssue
  degraded_requires_issue : status = .degraded → issues ≠ []
deriving DecidableEq

/-! ## The evaluator -/

/-- `StreamHealthEvaluator`: its policy and what it has seen of each scope. -/
structure StreamHealthEvaluator where
  policy : StreamHealthPolicy := {}
  lastSequenceByScope : StreamScopeKey → Option Nat := fun _ => none
  seenEventIdsByScope : StreamScopeKey → List String := fun _ => []
  seenSequencesByScope : StreamScopeKey → List Nat := fun _ => []

/-- `_seconds` of a duration that is not negative. -/
def secondsOf (micros : Nat) : NonNegativeDecimal :=
  ⟨(micros : ℚ) / 1000000, div_nonneg (Nat.cast_nonneg micros) (by decide)⟩

/-- `Decimal(n)` of a count. -/
def decimalOf (n : Nat) : NonNegativeDecimal := ⟨n, Nat.cast_nonneg n⟩

/-- `max(evaluation_ts - event_ts, timedelta(0))`. -/
def eventAge (event : StreamEvent) (evaluationTs : AwareDatetime) : Nat :=
  (evaluationTs.utc - event.envelope.eventTs.utc).toNat

/-- `abs(evaluation_ts - (source_ts or event_ts))`. -/
def timestampDrift (event : StreamEvent) (evaluationTs : AwareDatetime) : Nat :=
  (evaluationTs.utc - (event.envelope.sourceTs.getD event.envelope.eventTs).utc).natAbs

namespace StreamHealthEvaluator

/-- The event or its sequence was seen in this scope. -/
def isDuplicate (s : StreamHealthEvaluator) (event : StreamEvent) : Bool :=
  let key := event.scopeFor.key
  decide (event.eventIdFor ∈ s.seenEventIdsByScope key) ||
    match event.sequenceFor with
    | some n => decide (n ∈ s.seenSequencesByScope key)
    | none => false

/-- The sequences skipped since the last one of this scope. -/
def gapSize (s : StreamHealthEvaluator) (event : StreamEvent) : Nat :=
  match event.sequenceFor, s.lastSequenceByScope event.scopeFor.key with
  | some n, some previous => if previous + 1 < n then n - previous - 1 else 0
  | _, _ => 0

/-- The `issues` of `evaluate`: stale, drifted, duplicate, gap. -/
def issuesFor (s : StreamHealthEvaluator) (event : StreamEvent) (evaluationTs : AwareDatetime) :
    List StreamHealthIssue :=
  let age := eventAge event evaluationTs
  let drift := timestampDrift event evaluationTs
  let gap := s.gapSize event
  (if s.policy.maxEventAge.val < age then
    [⟨.freshness, .staleEvent, secondsOf age, some (secondsOf s.policy.maxEventAge.val),
      "event_ts is older than max_event_age at evaluation_ts"⟩] else []) ++
  (if s.policy.maxTimestampDrift.val < drift then
    [⟨.timestampDrift, .timestampDriftSeconds, secondsOf drift,
      some (secondsOf s.policy.maxTimestampDrift.val),
      "source_ts/event_ts is outside max_timestamp_drift at evaluation_ts"⟩] else []) ++
  (if s.isDuplicate event then
    [⟨.duplicate, .duplicateEvent, decimalOf 1, some (decimalOf 0),
      "event_id or sequence was already observed in this stream scope"⟩] else []) ++
  (if 0 < gap then
    [⟨.sequenceGap, .sequenceGapSize, decimalOf gap, some (decimalOf 0),
      "sequence advanced by more than one in this stream scope"⟩] else [])

/-- The `metrics` of `evaluate`. -/
def metricsFor (s : StreamHealthEvaluator) (event : StreamEvent) (evaluationTs : AwareDatetime) :
    List StreamHealthMetric :=
  let age := eventAge event evaluationTs
  let drift := timestampDrift event evaluationTs
  let gap := s.gapSize event
  let stale := decide (s.policy.maxEventAge.val < age)
  let duplicate := s.isDuplicate event
  let metric := fun name value threshold breached check =>
    (⟨name, value, some threshold, breached, check, event.scopeFor, evaluationTs⟩ :
      StreamHealthMetric)
  [ metric .freshnessAgeSeconds (secondsOf age) (secondsOf s.policy.maxEventAge.val) stale
      .freshness,
    metric .staleEvent (decimalOf (if stale then 1 else 0)) (decimalOf 0) stale .freshness,
    metric .timestampDriftSeconds (secondsOf drift) (secondsOf s.policy.maxTimestampDrift.val)
      (decide (s.policy.maxTimestampDrift.val < drift)) .timestampDrift,
    metric .duplicateEvent (decimalOf (if duplicate then 1 else 0)) (decimalOf 0) duplicate
      .duplicate,
    metric .sequenceGapSize (decimalOf gap) (decimalOf 0) (decide (0 < gap)) .sequenceGap ]

/-- The evaluator after an event: the id and the sequence are seen, and the last sequence is the
greatest one. -/
def remember (s : StreamHealthEvaluator) (event : StreamEvent) : StreamHealthEvaluator :=
  let key := event.scopeFor.key
  let seenIds := Function.update s.seenEventIdsByScope key
    (event.eventIdFor :: s.seenEventIdsByScope key)
  match event.sequenceFor with
  | none => { s with seenEventIdsByScope := seenIds }
  | some n =>
      let last :=
        match s.lastSequenceByScope key with
        | some previous => if previous < n then n else previous
        | none => n
      { s with
        seenEventIdsByScope := seenIds,
        seenSequencesByScope := Function.update s.seenSequencesByScope key
          (n :: s.seenSequencesByScope key),
        lastSequenceByScope := Function.update s.lastSequenceByScope key (some last) }

/-- `StreamHealthEvaluator.evaluate`. -/
def evaluate (s : StreamHealthEvaluator) (event : StreamEvent) (evaluationTs : AwareDatetime) :
    StreamHealthRecord × StreamHealthEvaluator :=
  let issues := s.issuesFor event evaluationTs
  ({ eventType := event.eventType, eventId := event.eventIdFor, sequence := event.sequenceFor,
     scope := event.scopeFor, evaluationTs := evaluationTs, eventTs := event.envelope.eventTs,
     sourceTs := event.envelope.sourceTs,
     status := if issues = [] then .healthy else .degraded,
     metrics := s.metricsFor event evaluationTs, issues := issues,
     degraded_requires_issue := by
       intro hstatus hnil
       rw [if_pos hnil] at hstatus
       cases hstatus },
    s.remember event)

/-- One evaluator reads events one after the other, each with its clock. -/
def evaluateEach (s : StreamHealthEvaluator) :
    List (StreamEvent × AwareDatetime) → List StreamHealthRecord
  | [] => []
  | (event, evaluationTs) :: entries =>
      let (record, s') := s.evaluate event evaluationTs
      record :: s'.evaluateEach entries

end StreamHealthEvaluator

/-! ## The gate -/

/-- `DataHealthGatePolicy`. -/
structure DataHealthGatePolicy where
  criticalChecks : List StreamHealthCheck := [.freshness]

/-- `_critical_reason_code`. -/
def criticalReasonCode (checks : List StreamHealthCheck) : DataHealthReasonCode :=
  if .freshness ∈ checks then .criticalFreshnessStale else .criticalStreamHealthBreach

/-- `_data_health_signal_id`. -/
def dataHealthSignalId [Sha256] (record : StreamHealthRecord) : String :=
  let (subscriptionId, sourceId, venueId, channel, instrumentId) := record.scope.key
  "data-health:" ++ hash (.record
    [ ("channel", toPayload channel), ("event_id", toPayload record.eventId),
      ("instrument_id", toPayload instrumentId), ("source_id", toPayload sourceId),
      ("subscription_id", toPayload subscriptionId), ("venue_id", toPayload venueId) ])

/-- `DataHealthGate.evaluate`. -/
def DataHealthGatePolicy.evaluate [Sha256] (policy : DataHealthGatePolicy)
    (record : StreamHealthRecord) : DataHealthSignal :=
  let sourceChecks := record.issues.map StreamHealthIssue.check
  let sourceMetricNames := (record.metrics.filter StreamHealthMetric.breached).map
    StreamHealthMetric.name
  let criticalBreached := sourceChecks.any fun check => decide (check ∈ policy.criticalChecks)
  let blocksTrading := decide (record.status ≠ .healthy) && criticalBreached
  { signalId := dataHealthSignalId record,
    status :=
      if record.status = .healthy then .healthy
      else if criticalBreached then .blocked else .degraded,
    reasonCodes :=
      if record.status = .healthy then [.streamHealthy]
      else if criticalBreached then [criticalReasonCode sourceChecks]
      else [.nonCriticalStreamDegraded],
    blocksTrading := blocksTrading,
    blockedInstrumentId := if blocksTrading then record.scope.instrumentId else none,
    sourceHealthEventId := record.eventId, sourceHealthStatus := record.status,
    sourceScope := record.scope, sourceChecks := sourceChecks,
    sourceMetricNames := sourceMetricNames, evaluationTs := record.evaluationTs,
    blocked_iff_blocks := by
      simp only [blocksTrading]
      split_ifs with hhealthy hcritical
      · simp [hhealthy]
      · simp [hhealthy, hcritical]
      · simp [hhealthy, hcritical] }

/-- `DataHealthGate.evaluate_many`. -/
def DataHealthGatePolicy.evaluateMany [Sha256] (policy : DataHealthGatePolicy)
    (records : List StreamHealthRecord) : List DataHealthSignal :=
  records.map policy.evaluate

/-! ## Stale events -/

/-- The event is older than `max_event_age` when it is evaluated. -/
def IsStale (policy : StreamHealthPolicy) (event : StreamEvent) (evaluationTs : AwareDatetime) :
    Prop :=
  (policy.maxEventAge.val : Int) < evaluationTs.utc - event.envelope.eventTs.utc

instance (policy : StreamHealthPolicy) (event : StreamEvent) (evaluationTs : AwareDatetime) :
    Decidable (IsStale policy event evaluationTs) := by
  unfold IsStale
  infer_instance

theorem isStale_iff_eventAge (policy : StreamHealthPolicy) (event : StreamEvent)
    (evaluationTs : AwareDatetime) :
    IsStale policy event evaluationTs ↔ policy.maxEventAge.val < eventAge event evaluationTs := by
  simp only [IsStale, eventAge]
  omega

@[simp] theorem StreamHealthEvaluator.remember_policy (s : StreamHealthEvaluator)
    (event : StreamEvent) : (s.remember event).policy = s.policy := by
  simp only [StreamHealthEvaluator.remember]
  cases event.sequenceFor with
  | none => rfl
  | some n => rfl

/-- A finding of one check is no finding of another. -/
theorem check_notMem_ite {p : Prop} [Decidable p] {issue : StreamHealthIssue}
    {check : StreamHealthCheck} (h : issue.check ≠ check) :
    check ∉ (if p then [issue] else []).map StreamHealthIssue.check := by
  split_ifs
  · simpa using h.symm
  · simp

/-- The freshness issue is there exactly for stale events, whatever the evaluator has seen. -/
theorem freshness_mem_issuesFor_iff (s : StreamHealthEvaluator) (event : StreamEvent)
    (evaluationTs : AwareDatetime) :
    StreamHealthCheck.freshness ∈ (s.issuesFor event evaluationTs).map StreamHealthIssue.check ↔
      IsStale s.policy event evaluationTs := by
  rw [isStale_iff_eventAge]
  simp only [StreamHealthEvaluator.issuesFor, List.map_append, List.mem_append]
  rw [or_iff_left (check_notMem_ite (by simp)), or_iff_left (check_notMem_ite (by simp)),
    or_iff_left (check_notMem_ite (by simp))]
  split_ifs with hstale
  · simpa using hstale
  · simpa using hstale

section Signals

variable [Sha256]

/-- What a signal of the default gate keeps of its event: it blocks for staleness only, and it
carries the scope of the event. -/
structure SignalOf (policy : StreamHealthPolicy) (entry : StreamEvent × AwareDatetime)
    (signal : DataHealthSignal) : Prop where
  blocks_iff : signal.blocksTrading = true ↔ IsStale policy entry.1 entry.2
  blocked_instrument : signal.blocksTrading = true →
    signal.blockedInstrumentId = entry.1.instrumentId
  scope_eq : signal.sourceScope = entry.1.scopeFor

/-- One event through the evaluator and the gate. -/
theorem signalOf_evaluate (s : StreamHealthEvaluator) (entry : StreamEvent × AwareDatetime) :
    SignalOf s.policy entry
      (DataHealthGatePolicy.evaluate {} (s.evaluate entry.1 entry.2).1) := by
  have hfresh := freshness_mem_issuesFor_iff s entry.1 entry.2
  refine ⟨?_, ?_, rfl⟩
  · simp only [DataHealthGatePolicy.evaluate, StreamHealthEvaluator.evaluate,
      Bool.and_eq_true, decide_eq_true_eq, List.any_eq_true, List.mem_singleton]
    rw [← hfresh]
    constructor
    · rintro ⟨-, check, hmem, rfl⟩
      exact hmem
    · intro hmem
      -- an issue makes the record degraded
      have hne : s.issuesFor entry.1 entry.2 ≠ [] := by
        intro hnil
        rw [hnil] at hmem
        cases hmem
      refine ⟨decide_eq_true ?_, .freshness, hmem, rfl⟩
      rw [if_neg hne]
      nofun
  · intro hblocks
    exact if_pos hblocks

/-- A run of one evaluator, event by event: the state it has reached plays no part. -/
theorem signals_of_run (s : StreamHealthEvaluator) (entries : List (StreamEvent × AwareDatetime)) :
    List.Forall₂ (SignalOf s.policy) entries
      (DataHealthGatePolicy.evaluateMany {} (s.evaluateEach entries)) := by
  induction entries generalizing s with
  | nil => exact .nil
  | cons entry entries ih =>
      have hrest := ih (s.remember entry.1)
      rw [StreamHealthEvaluator.remember_policy] at hrest
      exact .cons (signalOf_evaluate s entry) hrest

end Signals

end TaModel.Contracts
