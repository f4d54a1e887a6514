import TaModel.Contracts.StreamEvaluator
import TaModel.Risk.Decision

/-!
# The scope of a data-health block

A signal carries the venue of its event, and the risk engine reads only the blocked instrument.
So `data.freshness` is breached exactly when some stale event covers the instrument of the order,
whatever its venue (`freshnessBreached_iff`). That is the scope of the order as long as every stale
event of another venue that covers the instrument comes with one of the order's own venue.
-/

set_option autoImplicit false

namespace TaModel.Risk

open Contracts

/-- The event says nothing of an instrument, or speaks of this one. -/
def CoversInstrument (event : StreamEvent) (instrumentId : String) : Prop :=
  event.instrumentId = none ∨ event.instrumentId = some instrumentId

/-- The scope of the event covers the order: its venue, and its instrument if it has one. -/
def CoversOrder (event : StreamEvent) (intent : OrderIntent) : Prop :=
  event.envelope.venueId = intent.venueId ∧ CoversInstrument event intent.instrumentId

instance (event : StreamEvent) (instrumentId : String) :
    Decidable (CoversInstrument event instrumentId) :=
  inferInstanceAs (Decidable (_ ∨ _))

instance (event : StreamEvent) (intent : OrderIntent) : Decidable (CoversOrder event intent) :=
  inferInstanceAs (Decidable (_ ∧ _))

/-- The `data.freshness` limit of a risk-check event is a hard breach. -/
def FreshnessBreached (event : RiskCheckEvent) : Prop :=
  ∃ e ∈ event.limitEvaluations, e.limitId = LimitId.dataFreshness.value ∧ e.status = .hardBreach

/-- The block is exact in scope: the limit is breached if and only if some stale event covers the
order. -/
def BlocksInScope (policy : StreamHealthPolicy) (entries : List (StreamEvent × AwareDatetime))
    (event : RiskCheckEvent) : Prop :=
  FreshnessBreached event ↔
    ∃ entry ∈ entries, IsStale policy entry.1 entry.2 ∧
      CoversOrder entry.1 event.request.orderIntent

/-- A stale event of another venue that covers the instrument of the order comes with a stale event
that covers the order. -/
def ForeignStaleAccompanied (policy : StreamHealthPolicy)
    (entries : List (StreamEvent × AwareDatetime)) (intent : OrderIntent) : Prop :=
  ∀ entry ∈ entries, IsStale policy entry.1 entry.2 →
    CoversInstrument entry.1 intent.instrumentId → entry.1.envelope.venueId ≠ intent.venueId →
    ∃ other ∈ entries, IsStale policy other.1 other.2 ∧ CoversOrder other.1 intent

section Evaluation

variable [Sha256] {r : RiskCheckRequest} {p : RiskPolicy}

omit [Sha256] in
theorem countEvaluation_hard_iff (limit : LimitId) (count : Nat) (reason : RiskReasonCode) :
    (countEvaluation limit count reason).status = .hardBreach ↔ 0 < count := by
  simp only [countEvaluation]
  split_ifs with hcount
  · exact iff_of_true rfl hcount
  · apply iff_of_false ?_ hcount
    intro hpassed
    cases hpassed

omit [Sha256] in
/-- The freshness evaluation looks at the instrument of a blocking signal, not at its venue. -/
theorem dataFreshness_hard_iff (r : RiskCheckRequest) :
    (dataFreshnessEvaluation r).status = .hardBreach ↔
      ∃ signal ∈ r.dataHealthSignals, signal.blocksTrading = true ∧
        (signal.blockedInstrumentId = none ∨
          signal.blockedInstrumentId = some r.orderIntent.instrumentId) := by
  simp only [dataFreshnessEvaluation, countEvaluation_hard_iff, List.length_pos_iff_exists_mem,
    List.mem_filter, Bool.and_eq_true, Bool.or_eq_true, decide_eq_true_eq]

/-- The evaluation under `data.freshness` is the freshness evaluation. -/
theorem eq_dataFreshnessEvaluation {e : RiskLimitEvaluation} (he : e ∈ limitEvaluations r p)
    (hid : e.limitId = LimitId.dataFreshness.value) : e = dataFreshnessEvaluation r := by
  have hother : ∀ limit, limit ≠ .dataFreshness → ¬ IsEvaluationOf limit e := by
    intro limit hne hof
    rw [hof.limitId_eq] at hid
    exact hne (LimitId.value_injective hid)
  rcases (mem_limitEvaluations_iff r p e).mp he with hsize | hfixed
  · obtain ⟨limit, hlimit, hof⟩ := sizeEvaluations_isEvaluationOf r p hsize
    have hne : limit ≠ .dataFreshness := by
      rintro rfl
      exact absurd hlimit (by decide)
    exact absurd hof (hother limit hne)
  · simp only [fixedEvaluations, List.mem_append, List.mem_cons, List.not_mem_nil, or_false]
      at hfixed
    rcases hfixed with (hfirst | hthrottle) | hburst
    · rcases hfirst with rfl | rfl | rfl | rfl | rfl | rfl | rfl | rfl | rfl | rfl | rfl | rfl |
        rfl | rfl | rfl | rfl
      · exact absurd (isEvaluationOf_flag (by decide)) (hother .configRequiredState (by decide))
      · exact absurd (isEvaluationOf_flag (by decide)) (hother .scopeProductMvp (by decide))
      · exact absurd (isEvaluationOf_killSwitch r _) (hother _ (by decide))
      · exact absurd (isEvaluationOf_venueStatus _) (hother _ (by decide))
      · exact absurd (isEvaluationOf_priceCollar r p) (hother _ (by decide))
      · exact absurd (isEvaluationOf_noShortOrOversell r) (hother _ (by decide))
      · exact absurd (isEvaluationOf_negativeLoss (by decide) (by decide))
          (hother .lossDailyAccount (by decide))
      · exact absurd (isEvaluationOf_negativeLoss (by decide) (by decide))
          (hother .lossDailyStrategy (by decide))
      · exact absurd (isEvaluationOf_threshold (by decide) (by decide))
          (hother .lossMaxDrawdown (by decide))
      · exact absurd (isEvaluationOf_liquiditySpread r p) (hother _ (by decide))
      · exact absurd (isEvaluationOf_multiplier (by decide) (by decide))
          (hother .marketVolatility (by decide))
      · rfl
      · exact absurd (isEvaluationOf_count (by decide))
          (hother .executionDuplicateIdempotency (by decide))
      · exact absurd (isEvaluationOf_engineLatency r) (hother _ (by decide))
      · exact absurd (isEvaluationOf_modelDriftOrCalibration r) (hother _ (by decide))
      · exact absurd (isEvaluationOf_multiplier (by decide) (by decide))
          (hother .tcaCostSlippage (by decide))
    · exact absurd (isEvaluationOf_throttle r e hthrottle) (hother _ (by decide))
    · exact absurd (isEvaluationOf_rejectBurst r e hburst) (hother _ (by decide))

/-- A request that carries the signals of a run is blocked exactly when some stale event covers the
instrument of its order. -/
theorem freshnessBreached_iff {s : StreamHealthEvaluator}
    {entries : List (StreamEvent × AwareDatetime)} {event : RiskCheckEvent}
    (hsignals : ∀ signal, signal ∈ r.dataHealthSignals ↔
      signal ∈ DataHealthGatePolicy.evaluateMany {} (s.evaluateEach entries))
    (h : evaluatePreTradeRisk r p = .ok event) :
    FreshnessBreached event ↔
      ∃ entry ∈ entries, IsStale s.policy entry.1 entry.2 ∧
        CoversInstrument entry.1 r.orderIntent.instrumentId := by
  have hrun := signals_of_run s entries
  have hevaluation : FreshnessBreached event ↔
      (dataFreshnessEvaluation r).status = .hardBreach := by
    simp only [FreshnessBreached, (evaluatePreTradeRisk_facts r p h).limitEvaluations_eq]
    constructor
    · rintro ⟨e, he, hid, hhard⟩
      rw [← eq_dataFreshnessEvaluation he hid]
      exact hhard
    · intro hhard
      exact ⟨dataFreshnessEvaluation r, by simp [limitEvaluations],
        (isEvaluationOf_count (by decide)).limitId_eq, hhard⟩
  rw [hevaluation, dataFreshness_hard_iff]
  constructor
  · rintro ⟨signal, hmem, hblocks, hinstrument⟩
    obtain ⟨entry, hentry, hof⟩ :=
      Library.exists_of_mem_right hrun ((hsignals signal).mp hmem)
    refine ⟨entry, hentry, hof.blocks_iff.mp hblocks, ?_⟩
    rw [hof.blocked_instrument hblocks] at hinstrument
    exact hinstrument
  · rintro ⟨entry, hentry, hstale, hcovers⟩
    obtain ⟨signal, hmem, hof⟩ := Library.exists_of_mem_right hrun.flip hentry
    have hblocks := hof.blocks_iff.mpr hstale
    refine ⟨signal, (hsignals signal).mpr hmem, hblocks, ?_⟩
    rw [hof.blocked_instrument hblocks]
    exact hcovers

/-- The data-health block is exact in scope exactly when stale events of other venues are
accompanied by one of the order's own scope. -/
theorem data_health_block_in_scope_iff {s : StreamHealthEvaluator}
    {entries : List (StreamEvent × AwareDatetime)} {event : RiskCheckEvent}
    (hsignals : ∀ signal, signal ∈ r.dataHealthSignals ↔
      signal ∈ DataHealthGatePolicy.evaluateMany {} (s.evaluateEach entries))
    (h : evaluatePreTradeRisk r p = .ok event) :
    BlocksInScope s.policy entries event ↔
      ForeignStaleAccompanied s.policy entries r.orderIntent := by
  have hrequest := (evaluatePreTradeRisk_facts r p h).request_eq
  rw [BlocksInScope, freshnessBreached_iff hsignals h, hrequest]
  constructor
  · intro hexact entry hentry hstale hcovers _
    exact hexact.mp ⟨entry, hentry, hstale, hcovers⟩
  · intro haccompanied
    constructor
    · rintro ⟨entry, hentry, hstale, hcovers⟩
      by_cases hvenue : entry.1.envelope.venueId = r.orderIntent.venueId
      · exact ⟨entry, hentry, hstale, hvenue, hcovers⟩
      · exact haccompanied entry hentry hstale hcovers hvenue
    · rintro ⟨entry, hentry, hstale, -, hcovers⟩
      exact ⟨entry, hentry, hstale, hcovers⟩

end Evaluation

/-! ## Two venues

An order of one `BTC-USD` on `VENUE`, and stale events ten seconds old. -/

section TwoVenues

open Simulation

/-- A connection to a venue, silent since the start of the day. -/
def silentEnvelope (venueId : String) : StreamEnvelope where
  subscriptionId := "SUBSCRIPTION"
  sourceId := "source"
  venueId := venueId
  eventTs := minute 0
  rawPayloadId := "raw"

/-- The event, evaluated at the first minute. -/
def atMinuteOne (event : StreamEvent) : List (StreamEvent × AwareDatetime) :=
  [(event, minute 1)]

variable [Sha256]

/-- The buy of one `BTC-USD` with the signals of a fresh evaluator. -/
def monitoredRequest (entries : List (StreamEvent × AwareDatetime)) : RiskCheckRequest :=
  RiskCheckRequest.stamping.sealed
    { marketBuyRequest with
      dataHealthSignals := DataHealthGatePolicy.evaluateMany {}
        (StreamHealthEvaluator.evaluateEach {} entries) }

theorem monitoredRequest_valid (entries : List (StreamEvent × AwareDatetime)) :
    (monitoredRequest entries).validate = .ok () := by
  obtain ⟨hfields, -, -⟩ := (RiskCheckRequest.stamping.validate_eq_ok_iff _).mp
    marketBuyRequest_valid
  exact (RiskCheckRequest.stamping.validate_sealed _).mpr hfields

/-- A silent connection to another venue blocks the order, though no event of its own scope is
stale. -/
theorem monitoredRequest_of_other_venue : ∃ event,
    evaluatePreTradeRisk (monitoredRequest (atMinuteOne (.heartbeat (silentEnvelope "OTHER"))))
      marketPolicy = .ok event ∧
    FreshnessBreached event ∧
    ¬ BlocksInScope {} (atMinuteOne (.heartbeat (silentEnvelope "OTHER"))) event := by
  obtain ⟨event, h⟩ := evaluatePreTradeRisk_total
    (monitoredRequest (atMinuteOne (.heartbeat (silentEnvelope "OTHER")))) marketPolicy
    (monitoredRequest_valid _)
  have hbreached : FreshnessBreached event :=
    (freshnessBreached_iff (s := {}) (fun _ => Iff.rfl) h).mpr
      ⟨(.heartbeat (silentEnvelope "OTHER"), minute 1), List.mem_singleton_self _, by decide,
        Or.inl rfl⟩
  refine ⟨event, h, hbreached, ?_⟩
  intro hexact
  obtain ⟨entry, hentry, -, hvenue, -⟩ := hexact.mp hbreached
  rw [List.mem_singleton.mp hentry, (evaluatePreTradeRisk_facts _ _ h).request_eq] at hvenue
  exact absurd (show "OTHER" = "VENUE" from hvenue) (by decide)

end TwoVenues

/-- A stale trade of the order's venue and instrument blocks the order. -/
theorem data_health_block_in_scope_trade : ∃ event,
    @evaluatePreTradeRisk hashlibSha256
      (@monitoredRequest hashlibSha256
        (atMinuteOne (.trade (silentEnvelope "VENUE") "T1" "BTC-USD" none)))
      marketPolicy = .ok event ∧
    BlocksInScope {} (atMinuteOne (.trade (silentEnvelope "VENUE") "T1" "BTC-USD" none)) event := by
  obtain ⟨event, h⟩ := @evaluatePreTradeRisk_total hashlibSha256 _ marketPolicy
    (@monitoredRequest_valid hashlibSha256
      (atMinuteOne (.trade (silentEnvelope "VENUE") "T1" "BTC-USD" none)))
  refine ⟨event, h, (@data_health_block_in_scope_iff hashlibSha256 _ _ {} _ _
    (fun _ => Iff.rfl) h).mpr ?_⟩
  intro entry hentry _ _ hvenue
  rw [List.mem_singleton.mp hentry] at hvenue
  exact absurd rfl hvenue

/-- The silent connection, with the digest of `hashlib`. -/
theorem data_health_block_of_other_venue : ∃ event,
    @evaluatePreTradeRisk hashlibSha256
      (@monitoredRequest hashlibSha256 (atMinuteOne (.heartbeat (silentEnvelope "OTHER"))))
      marketPolicy = .ok event ∧
    FreshnessBreached event ∧
    ¬ BlocksInScope {} (atMinuteOne (.heartbeat (silentEnvelope "OTHER"))) event :=
  @monitoredRequest_of_other_venue hashlibSha256

end TaModel.Risk
