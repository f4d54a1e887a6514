import TaModel.Execution.PaperLogs

/-!
# What paper sessions and TCA reports record

A log, a row or an issue belongs to a gateway event when its fields are those of the event:
`OrderLogOf`, `FillLogOf`, `RejectionLogOf`, `RowOf` and `IssueOf`. `SessionPartition` and
`TcaPartition` say that a whole report has exactly the records of its events, in order, with counts
and totals that are theirs. A record that the builders make of a valid event belongs to it.
-/

set_option autoImplicit false

namespace TaModel.Execution

open Contracts

/-! ## Records of one event -/

/-- The order log of an event. -/
structure OrderLogOf (report : ExecutionGatewayReport) (e : ExecutionGatewayLifecycleEvent)
    (log : PaperOrderLifecycleLogEntry) : Prop where
  gatewayReportId : log.gatewayReportId = report.gatewayReportId
  gatewayReportHash : log.gatewayReportHash = report.gatewayReportHash
  gatewayEventId : log.gatewayEventId = e.gatewayEventId
  gatewayEventHash : log.gatewayEventHash = e.gatewayEventHash
  gatewayOrderId : log.gatewayOrderId = e.gatewayOrderId
  runId : log.runId = e.runId
  riskCheckId : log.riskCheckId = e.riskCheckId
  riskCheckHash : log.riskCheckHash = e.riskCheckHash
  riskDecision : log.riskDecision = e.riskDecision
  riskReasonCodes : log.riskReasonCodes = e.riskReasonCodes
  clientOrderId : log.clientOrderId = e.clientOrderId
  traceId : log.traceId = e.traceId
  sourceDecisionId : log.sourceDecisionId = e.sourceDecisionId
  instrumentId : log.instrumentId = e.instrumentId
  venueId : log.venueId = e.venueId
  side : log.side = e.side
  orderType : log.orderType = e.orderType
  requestedQuantity : log.requestedQuantity = e.requestedQuantity
  gatewayQuantity : log.gatewayQuantity = e.gatewayQuantity
  submittedAt : log.submittedAt = e.submittedAt
  status : log.status = e.status
  replayStatus : log.replayStatus = e.replayStatus
  replayRejectReason : log.replayRejectReason = e.replayRejectReason

/-- The fill log of a filled event. -/
structure FillLogOf (report : ExecutionGatewayReport) (e : ExecutionGatewayLifecycleEvent)
    (log : PaperFillLogEntry) : Prop where
  gatewayReportId : log.gatewayReportId = report.gatewayReportId
  gatewayReportHash : log.gatewayReportHash = report.gatewayReportHash
  gatewayEventId : log.gatewayEventId = e.gatewayEventId
  gatewayEventHash : log.gatewayEventHash = e.gatewayEventHash
  gatewayOrderId : e.gatewayOrderId = some log.gatewayOrderId
  runId : log.runId = e.runId
  riskCheckId : log.riskCheckId = e.riskCheckId
  riskCheckHash : log.riskCheckHash = e.riskCheckHash
  clientOrderId : log.clientOrderId = e.clientOrderId
  traceId : log.traceId = e.traceId
  sourceDecisionId : log.sourceDecisionId = e.sourceDecisionId
  instrumentId : log.instrumentId = e.instrumentId
  venueId : log.venueId = e.venueId
  side : log.side = e.side
  orderType : log.orderType = e.orderType
  status : log.status = e.status
  replayOrderResultId : e.replayOrderResultId = some log.replayOrderResultId
  fillPrice : e.fillPrice = some log.fillPrice
  filledQuantity : log.filledQuantity = e.filledQuantity
  remainingQuantity : log.remainingQuantity = e.remainingQuantity
  fillEventOpenTs : e.fillEventOpenTs = some log.fillEventOpenTs
  fillEventCloseTs : e.fillEventCloseTs = some log.fillEventCloseTs
  fillEventSourceTs : e.fillEventSourceTs = some log.fillEventSourceTs
  fillRawPayloadId : e.fillRawPayloadId = some log.fillRawPayloadId
  costModelId : log.costModelId = e.costModelId
  costModelHash : log.costModelHash = e.costModelHash
  latencyBars : log.latencyBars = e.latencyBars
  eligibleEventIndex : log.eligibleEventIndex = e.eligibleEventIndex
  fillAttemptEventIndex : log.fillAttemptEventIndex = e.fillAttemptEventIndex
  arrivalReferencePrice : e.arrivalReferencePrice = some log.arrivalReferencePrice
  effectiveFillPrice : e.effectiveFillPrice = some log.effectiveFillPrice
  referenceNotional : log.referenceNotional = e.referenceNotional
  effectiveNotional : log.effectiveNotional = e.effectiveNotional
  feeCost : log.feeCost = e.feeCost
  spreadCost : log.spreadCost = e.spreadCost
  slippageCost : log.slippageCost = e.slippageCost
  totalCost : log.totalCost = e.totalCost

/-- The rejection log of an event without a fill: the risk check refused the blocked ones, the
gateway replay the other ones. -/
structure RejectionLogOf (report : ExecutionGatewayReport) (e : ExecutionGatewayLifecycleEvent)
    (log : PaperRejectionLogEntry) : Prop where
  gatewayReportId : log.gatewayReportId = report.gatewayReportId
  gatewayReportHash : log.gatewayReportHash = report.gatewayReportHash
  gatewayEventId : log.gatewayEventId = e.gatewayEventId
  gatewayEventHash : log.gatewayEventHash = e.gatewayEventHash
  gatewayOrderId : log.gatewayOrderId = e.gatewayOrderId
  runId : log.runId = e.runId
  riskCheckId : log.riskCheckId = e.riskCheckId
  riskCheckHash : log.riskCheckHash = e.riskCheckHash
  riskDecision : log.riskDecision = e.riskDecision
  riskReasonCodes : log.riskReasonCodes = e.riskReasonCodes
  replayRejectReason : log.replayRejectReason = e.replayRejectReason
  rejectionSource : log.rejectionSource = .risk ↔ e.status = .blocked
  clientOrderId : log.clientOrderId = e.clientOrderId
  traceId : log.traceId = e.traceId
  sourceDecisionId : log.sourceDecisionId = e.sourceDecisionId
  instrumentId : log.instrumentId = e.instrumentId
  venueId : log.venueId = e.venueId
  side : log.side = e.side
  orderType : log.orderType = e.orderType
  requestedQuantity : log.requestedQuantity = e.requestedQuantity
  gatewayQuantity : log.gatewayQuantity = e.gatewayQuantity
  remainingQuantity : log.remainingQuantity = e.remainingQuantity
  submittedAt : log.submittedAt = e.submittedAt
  status : log.status = e.status

/-- The cost that is predicted for an event. -/
def predictedCost (e : ExecutionGatewayLifecycleEvent) : Decimal :=
  contextRounded (e.feeCost + contextRounded (e.spreadCost + e.slippageCost))

/-- The middle of a quote. -/
def quoteMiddle (quote : QuoteEvent) : Decimal :=
  contextRounded (contextRounded (quote.bestBid.value + quote.bestAsk.value) / 2)

/-- The reference price of an event: the middle of its arrival quote, or else the price at which it
arrived in the replay. -/
def referencePrice (quotes : List QuoteEvent) (e : ExecutionGatewayLifecycleEvent) : Decimal :=
  ((arrivalQuoteForEvent e quotes).map quoteMiddle).getD (e.arrivalReferencePrice.getD 0)

/-- The cost that a row finds realized: the fee and the adverse move from the reference price. -/
def realizedCost (quotes : List QuoteEvent) (e : ExecutionGatewayLifecycleEvent) : Decimal :=
  contextRounded (e.feeCost + contextRounded
    (contextRounded (adverseMove e.side (referencePrice quotes e) (e.fillPrice.getD 0)) *
      e.filledQuantity))

/-- What the realized cost of an event exceeds the predicted one by. -/
def predictionError (quotes : List QuoteEvent) (e : ExecutionGatewayLifecycleEvent) : Decimal :=
  contextRounded (realizedCost quotes e - predictedCost e)

/-- The TCA row of a filled event over its arrival quote. -/
structure RowOf (report : ExecutionGatewayReport) (quotes : List QuoteEvent)
    (e : ExecutionGatewayLifecycleEvent) (row : PaperTcaRow) : Prop where
  gatewayReportId : row.gatewayReportId = report.gatewayReportId
  gatewayReportHash : row.gatewayReportHash = report.gatewayReportHash
  gatewayEventId : row.gatewayEventId = e.gatewayEventId
  gatewayEventHash : row.gatewayEventHash = e.gatewayEventHash
  gatewayOrderId : e.gatewayOrderId = some row.gatewayOrderId
  runId : row.runId = e.runId
  riskCheckId : row.riskCheckId = e.riskCheckId
  riskCheckHash : row.riskCheckHash = e.riskCheckHash
  clientOrderId : row.clientOrderId = e.clientOrderId
  traceId : row.traceId = e.traceId
  sourceDecisionId : row.sourceDecisionId = e.sourceDecisionId
  instrumentId : row.instrumentId = e.instrumentId
  venueId : row.venueId = e.venueId
  side : row.side = e.side
  status : row.status = e.status
  submittedAt : row.submittedAt = e.submittedAt
  quoteId : row.quoteId = (arrivalQuoteForEvent e quotes).map QuoteEvent.quoteId
  quoteEventTs : row.quoteEventTs = (arrivalQuoteForEvent e quotes).map QuoteEvent.eventTs
  arrivalBid : row.arrivalBid = (arrivalQuoteForEvent e quotes).map QuoteEvent.bestBid
  arrivalAsk : row.arrivalAsk = (arrivalQuoteForEvent e quotes).map QuoteEvent.bestAsk
  arrivalMid : row.arrivalMid = (arrivalQuoteForEvent e quotes).map quoteMiddle
  fallbackReferencePrice : e.arrivalReferencePrice = some row.fallbackReferencePrice
  fillPrice : e.fillPrice = some row.fillPrice
  filledQuantity : row.filledQuantity = e.filledQuantity
  fillEventOpenTs : e.fillEventOpenTs = some row.fillEventOpenTs
  fillEventCloseTs : e.fillEventCloseTs = some row.fillEventCloseTs
  fillEventSourceTs : e.fillEventSourceTs = some row.fillEventSourceTs
  feeCost : row.feeCost = e.feeCost
  predictedSpreadCost : row.predictedSpreadCost = e.spreadCost
  predictedSlippageCost : row.predictedSlippageCost = e.slippageCost
  predictedTotalCost : row.predictedTotalCost = predictedCost e
  realizedTotalCost : row.realizedTotalCost = realizedCost quotes e
  totalCostPredictionError : row.totalCostPredictionError = predictionError quotes e

/-- The issue that an event of a status may have. -/
def issueCodeOf : ExecutionGatewayOrderStatus → PaperTcaIssueCode
  | .filled | .partiallyFilled => .missingArrivalQuote
  | .blocked => .riskBlocked
  | .rejected => .gatewayRejected
  | .unfilled => .gatewayUnfilled

/-- The TCA issue of an event. -/
structure IssueOf (report : ExecutionGatewayReport) (e : ExecutionGatewayLifecycleEvent)
    (issue : PaperTcaIssue) : Prop where
  severity : issue.severity = .error
  code : issue.code = issueCodeOf e.status
  gatewayReportId : issue.gatewayReportId = report.gatewayReportId
  gatewayReportHash : issue.gatewayReportHash = report.gatewayReportHash
  gatewayEventId : issue.gatewayEventId = e.gatewayEventId
  gatewayEventHash : issue.gatewayEventHash = e.gatewayEventHash
  runId : issue.runId = e.runId
  riskCheckId : issue.riskCheckId = e.riskCheckId
  clientOrderId : issue.clientOrderId = e.clientOrderId
  traceId : issue.traceId = e.traceId
  instrumentId : issue.instrumentId = e.instrumentId
  venueId : issue.venueId = e.venueId
  status : issue.status = e.status

/-! ## Whole reports -/

/-- The filled events of a report. -/
def filledEvents (report : ExecutionGatewayReport) : List ExecutionGatewayLifecycleEvent :=
  report.events.filter fun e => e.status.isFilled

/-- The events that need an issue: no fill, or no arrival quote. -/
def issueEvents (report : ExecutionGatewayReport) (quotes : List QuoteEvent) :
    List ExecutionGatewayLifecycleEvent :=
  report.events.filter fun e => !e.status.isFilled || (arrivalQuoteForEvent e quotes).isNone

/-- How many events have a status. -/
def statusCount (report : ExecutionGatewayReport) (status : ExecutionGatewayOrderStatus) : Nat :=
  report.events.countP fun e => decide (e.status = status)

/-- A reported total: the amounts added up in the decimal context, which is their sum where no
partial sum needs more than 28 digits. -/
structure TotalOf (amounts : List Decimal) (total : Decimal) : Prop where
  rounded : total = contextTotal amounts
  exact : SumsInContext amounts → total = amounts.sum

theorem totalOf_contextTotal (amounts : List Decimal) : TotalOf amounts (contextTotal amounts) :=
  ⟨rfl, contextTotal_eq_sum⟩

/-- A session report has the records of the events of a gateway report, and its counts and totals
are theirs. -/
structure SessionPartition (report : ExecutionGatewayReport)
    (session : PaperAccountSessionReport) : Prop where
  orderLogs : List.Forall₂ (OrderLogOf report) report.events session.orderLogs
  fillLogs : List.Forall₂ (FillLogOf report) (filledEvents report) session.fillLogs
  rejectionLogs : List.Forall₂ (RejectionLogOf report)
    (report.events.filter fun e => !e.status.isFilled) session.rejectionLogs
  total : session.totalOrderCount = report.events.length
  filled : session.filledOrderCount = statusCount report .filled
  partiallyFilled : session.partiallyFilledOrderCount = statusCount report .partiallyFilled
  blocked : session.blockedOrderCount = statusCount report .blocked
  rejected : session.rejectedOrderCount = statusCount report .rejected
  unfilled : session.unfilledOrderCount = statusCount report .unfilled
  counts : session.filledOrderCount + session.partiallyFilledOrderCount +
    session.blockedOrderCount + session.rejectedOrderCount + session.unfilledOrderCount =
      session.totalOrderCount
  filledQuantity : TotalOf
    ((filledEvents report).map ExecutionGatewayLifecycleEvent.filledQuantity)
    session.filledQuantityTotal
  fee : TotalOf ((filledEvents report).map ExecutionGatewayLifecycleEvent.feeCost)
    session.feeCostTotal
  spread : TotalOf ((filledEvents report).map ExecutionGatewayLifecycleEvent.spreadCost)
    session.spreadCostTotal
  slippage : TotalOf ((filledEvents report).map ExecutionGatewayLifecycleEvent.slippageCost)
    session.slippageCostTotal
  cost : TotalOf ((filledEvents report).map ExecutionGatewayLifecycleEvent.totalCost)
    session.totalExecutionCost

/-- A TCA report has one row for each filled event and one issue for each event that needs one, and
its totals are those of the filled events. -/
structure TcaPartition (report : ExecutionGatewayReport) (quotes : List QuoteEvent)
    (tca : PaperTcaReport) : Prop where
  rows : List.Forall₂ (RowOf report quotes) (filledEvents report) tca.rows
  issues : List.Forall₂ (IssueOf report) (issueEvents report quotes) tca.issues
  rowCount : tca.filledRowCount = (filledEvents report).length
  issueCount : tca.issueCount = (issueEvents report quotes).length
  errorCount : tca.errorCount = tca.issueCount
  fee : TotalOf ((filledEvents report).map ExecutionGatewayLifecycleEvent.feeCost)
    tca.feeCostTotal
  predicted : TotalOf ((filledEvents report).map predictedCost) tca.predictedTotalCost
  realized : TotalOf ((filledEvents report).map (realizedCost quotes)) tca.realizedTotalCost
  predictionError : TotalOf ((filledEvents report).map (predictionError quotes))
    tca.totalCostPredictionError

/-! ## Counts -/

/-- Every log has one of five statuses. -/
theorem countStatus_sum (logs : List PaperOrderLifecycleLogEntry) :
    countStatus logs .filled + countStatus logs .partiallyFilled + countStatus logs .blocked +
      countStatus logs .rejected + countStatus logs .unfilled = logs.length := by
  induction logs with
  | nil => rfl
  | cons log logs ih =>
      simp only [countStatus, List.countP_cons, List.length_cons] at ih ⊢
      cases log.status <;> simp <;> omega

/-- The logs of a status are those of the events of the status. -/
theorem countStatus_of_logs {report : ExecutionGatewayReport}
    {events : List ExecutionGatewayLifecycleEvent} {logs : List PaperOrderLifecycleLogEntry}
    (h : List.Forall₂ (OrderLogOf report) events logs) (status : ExecutionGatewayOrderStatus) :
    countStatus logs status = events.countP fun e => decide (e.status = status) := by
  induction h with
  | nil => rfl
  | @cons e log events logs hlog _ ih =>
      unfold countStatus at ih ⊢
      rw [List.countP_cons, List.countP_cons, ih, hlog.status]

/-! ## What the builders make -/

section Builders

variable [Sha256] {report : ExecutionGatewayReport} {e : ExecutionGatewayLifecycleEvent}

/-- The order log that the builder makes of an event. -/
def orderLogOver (report : ExecutionGatewayReport) (event : ExecutionGatewayLifecycleEvent) :
    PaperOrderLifecycleLogEntry :=
  PaperOrderLifecycleLogEntry.stamping.sealed (orderLogDraft report event)

/-- The rejection log that the builder makes of an event. -/
def rejectionLogOver (report : ExecutionGatewayReport) (event : ExecutionGatewayLifecycleEvent) :
    PaperRejectionLogEntry :=
  PaperRejectionLogEntry.stamping.sealed (rejectionLogDraft report event)

/-- The issue that the builder makes of an event. -/
def issueOver (report : ExecutionGatewayReport) (event : ExecutionGatewayLifecycleEvent)
    (code : PaperTcaIssueCode) (message : String) : PaperTcaIssue :=
  PaperTcaIssue.stamping.sealed (tcaIssueDraft report event code message)

theorem orderLogOver_of : OrderLogOf report e (orderLogOver report e) := by
  constructor <;> rfl

theorem rejectionLogOver_of : RejectionLogOf report e (rejectionLogOver report e) := by
  have hsource : (rejectionLogOver report e).rejectionSource = .risk ↔ e.status = .blocked := by
    show rejectionSource e.status = .risk ↔ _
    unfold rejectionSource
    split <;> simp_all
  constructor <;> first | rfl | exact hsource

theorem fillLog_of {fill : FillAttribution} (hfill : ValidFill e fill) :
    FillLogOf report e (PaperFillLogEntry.stamping.sealed (fillLogDraft report e fill)) := by
  constructor <;>
    first
      | rfl
      | exact hfill.gatewayOrderId
      | exact hfill.replayOrderResultId
      | exact hfill.fillPrice
      | exact hfill.fillEventOpenTs
      | exact hfill.fillEventCloseTs
      | exact hfill.fillEventSourceTs
      | exact hfill.fillRawPayloadId
      | exact hfill.arrivalReferencePrice
      | exact hfill.effectiveFillPrice

theorem row_of {fill : FillAttribution} (hfill : ValidFill e fill) (quotes : List QuoteEvent) :
    RowOf report quotes e (rowOver .context report e (arrivalQuoteForEvent e quotes) fill) := by
  -- the arrival and the fill price of the event are those of its attribution
  have hrealized : (rowOver .context report e (arrivalQuoteForEvent e quotes)
      fill).realizedTotalCost = realizedCost quotes e := by
    simp only [realizedCost, referencePrice, hfill.arrivalReferencePrice, hfill.fillPrice,
      Option.getD_some]
    rfl
  constructor <;>
    first
      | rfl
      | exact hfill.gatewayOrderId
      | exact hfill.arrivalReferencePrice
      | exact hfill.fillPrice
      | exact hfill.fillEventOpenTs
      | exact hfill.fillEventCloseTs
      | exact hfill.fillEventSourceTs
      | exact hrealized
      | exact congrArg (fun cost => contextRounded (cost - predictedCost e)) hrealized

theorem issueOver_of {quote : Option QuoteEvent} {code : PaperTcaIssueCode} {message : String}
    (h : issueOf quote e.status = some (code, message)) :
    IssueOf report e (issueOver report e code message) := by
  have hcode : code = issueCodeOf e.status := by
    cases hstatus : e.status with
    | filled =>
        rw [hstatus] at h
        simp only [issueOf] at h
        split at h
        · cases h
        · cases h
          rfl
    | partiallyFilled =>
        rw [hstatus] at h
        simp only [issueOf] at h
        split at h
        · cases h
        · cases h
          rfl
    | blocked =>
        rw [hstatus] at h
        cases h
        rfl
    | rejected =>
        rw [hstatus] at h
        cases h
        rfl
    | unfilled =>
        rw [hstatus] at h
        cases h
        rfl
  constructor <;> first | rfl | exact hcode

end Builders

end TaModel.Execution
