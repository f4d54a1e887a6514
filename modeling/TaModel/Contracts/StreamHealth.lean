import TaModel.Contracts.Canonical

/-!
# Stream-health contracts

The scoped data-health signal of `contracts/stream_health.py` and the enumerations it carries.
-/

set_option autoImplicit false

namespace TaModel.Contracts

inductive StreamChannel where
  | trades | quotes | orderBook
deriving DecidableEq

def StreamChannel.value : StreamChannel → String
  | .trades => "trades"
  | .quotes => "quotes"
  | .orderBook => "order_book"

inductive StreamEventType where
  | trade | quote | orderBook | heartbeat | lifecycle
deriving DecidableEq

def StreamEventType.value : StreamEventType → String
  | .trade => "trade"
  | .quote => "quote"
  | .orderBook => "order_book"
  | .heartbeat => "heartbeat"
  | .lifecycle => "lifecycle"

inductive StreamHealthStatus where
  | healthy | degraded
deriving DecidableEq

def StreamHealthStatus.value : StreamHealthStatus → String
  | .healthy => "healthy"
  | .degraded => "degraded"

inductive DataHealthStatus where
  | healthy | degraded | blocked
deriving DecidableEq

def DataHealthStatus.value : DataHealthStatus → String
  | .healthy => "healthy"
  | .degraded => "degraded"
  | .blocked => "blocked"

inductive DataHealthReasonCode where
  | streamHealthy | criticalFreshnessStale | criticalStreamHealthBreach
  | nonCriticalStreamDegraded
deriving DecidableEq

def DataHealthReasonCode.value : DataHealthReasonCode → String
  | .streamHealthy => "stream_healthy"
  | .criticalFreshnessStale => "critical_freshness_stale"
  | .criticalStreamHealthBreach => "critical_stream_health_breach"
  | .nonCriticalStreamDegraded => "non_critical_stream_degraded"

inductive StreamHealthCheck where
  | freshness | sequenceGap | duplicate | timestampDrift
deriving DecidableEq

def StreamHealthCheck.value : StreamHealthCheck → String
  | .freshness => "freshness"
  | .sequenceGap => "sequence_gap"
  | .duplicate => "duplicate"
  | .timestampDrift => "timestamp_drift"

inductive StreamHealthMetricName where
  | freshnessAgeSeconds | staleEvent | sequenceGapSize | duplicateEvent | timestampDriftSeconds
deriving DecidableEq

def StreamHealthMetricName.value : StreamHealthMetricName → String
  | .freshnessAgeSeconds => "stream.freshness.age_seconds"
  | .staleEvent => "stream.freshness.stale_event"
  | .sequenceGapSize => "stream.sequence.gap_size"
  | .duplicateEvent => "stream.duplicate.event"
  | .timestampDriftSeconds => "stream.timestamp.drift_seconds"

instance : ToPayload StreamHealthStatus := ⟨fun x => .text x.value⟩
instance : ToPayload DataHealthStatus := ⟨fun x => .text x.value⟩
instance : ToPayload DataHealthReasonCode := ⟨fun x => .text x.value⟩
instance : ToPayload StreamHealthCheck := ⟨fun x => .text x.value⟩
instance : ToPayload StreamHealthMetricName := ⟨fun x => .text x.value⟩
instance : ToPayload (StreamChannel ⊕ StreamEventType) := ⟨fun x =>
  match x with
  | .inl channel => .text channel.value
  | .inr event => .text event.value⟩

/-- Instrument, source and channel key of a health state. -/
structure StreamHealthScope where
  subscriptionId : String
  sourceId : String
  venueId : String
  channel : StreamChannel ⊕ StreamEventType
  instrumentId : Option String
deriving DecidableEq

instance : ToPayload StreamHealthScope := ⟨fun s =>
  .record [("channel", toPayload s.channel), ("instrument_id", toPayload s.instrumentId),
    ("source_id", toPayload s.sourceId), ("subscription_id", toPayload s.subscriptionId),
    ("venue_id", toPayload s.venueId)]⟩

/-- Scoped data-health signal; the proof field is `blocked_status_matches_blocks_trading`. -/
structure DataHealthSignal where
  signalId : String
  status : DataHealthStatus
  reasonCodes : List DataHealthReasonCode
  blocksTrading : Bool
  blockedInstrumentId : Option String
  sourceHealthEventId : String
  sourceHealthStatus : StreamHealthStatus
  sourceScope : StreamHealthScope
  sourceChecks : List StreamHealthCheck
  sourceMetricNames : List StreamHealthMetricName
  evaluationTs : AwareDatetime
  blocked_iff_blocks : status = .blocked ↔ blocksTrading = true
deriving DecidableEq

instance : ToPayload DataHealthSignal := ⟨fun s =>
  .record
    [ ("blocked_instrument_id", toPayload s.blockedInstrumentId),
      ("blocks_trading", toPayload s.blocksTrading), ("evaluation_ts", toPayload s.evaluationTs),
      ("reason_codes", toPayload s.reasonCodes), ("signal_id", toPayload s.signalId),
      ("source_checks", toPayload s.sourceChecks),
      ("source_health_event_id", toPayload s.sourceHealthEventId),
      ("source_health_status", toPayload s.sourceHealthStatus),
      ("source_metric_names", toPayload s.sourceMetricNames),
      ("source_scope", toPayload s.sourceScope), ("status", toPayload s.status) ]⟩

end TaModel.Contracts
