import TaModel.Contracts.PaperTca
import TaModel.Execution.PaperAccount

/-!
# The paper TCA builder

`make_paper_tca_report` of `execution/paper.py`: one row for each filled event of a gateway report,
one issue for each event without a fill or without an arrival quote.
-/

set_option autoImplicit false

namespace TaModel.Execution

open Contracts

/-! ## The arrival quote -/

/-- The order of the key `(quote.event_ts, quote.quote_id)`. -/
def quoteBefore (a b : QuoteEvent) : Bool :=
  decide (a.eventTs < b.eventTs) ||
    (a.eventTs.sameInstant b.eventTs && decide (a.quoteId < b.quoteId))

/-- `_arrival_quote_for_event`: `max` keeps the first of several greatest quotes. -/
def arrivalQuoteForEvent (event : ExecutionGatewayLifecycleEvent) (quotes : List QuoteEvent) :
    Option QuoteEvent :=
  match quotes.filter fun quote => quote.instrumentId == event.instrumentId &&
      quote.venueId == event.venueId && decide (quote.eventTs ≤ event.submittedAt) with
  | [] => none
  | first :: rest => some (rest.foldl (fun best q => if quoteBefore best q then q else best) first)

/-! ## Amounts -/

section Amounts

variable (a : Arithmetic)

/-- How far a fill is on the wrong side of the reference price. -/
def adverseMove (side : OrderSide) (referencePrice fillPrice : Decimal) : ℚ :=
  match side with
  | .buy => fillPrice - referencePrice
  | .sell => referencePrice - fillPrice

/-- `_adverse_cost`. -/
def adverseCost (side : OrderSide) (referencePrice fillPrice filledQuantity : Decimal) :
    Raises Decimal := do
  let move ← a.finalize (adverseMove side referencePrice fillPrice)
  a.finalize (move * filledQuantity)

/-- `(best_bid + best_ask) / Decimal("2")`. -/
def quoteMid (quote : QuoteEvent) : Raises Decimal := do
  let both ← a.finalize (quote.bestBid.value + quote.bestAsk.value)
  a.finalize (both / 2)

/-- The amounts that `_make_tca_row` computes. -/
structure RowAmounts where
  arrivalMid : Option Decimal
  realizedSpreadSlippageCost : Decimal
  predictedSpreadSlippageCost : Decimal
  predictedTotalCost : Decimal
  realizedTotalCost : Decimal
  spreadSlippagePredictionError : Decimal
  totalCostPredictionError : Decimal

/-- The arithmetic of `_make_tca_row`: the reference price is the mid of the arrival quote, or the
replayed arrival price. -/
def rowAmounts (event : ExecutionGatewayLifecycleEvent) (arrivalQuote : Option QuoteEvent)
    (arrival fillPrice : Decimal) : Raises RowAmounts := do
  let arrivalMid ← arrivalQuote.mapM (quoteMid a)
  let realizedSpreadSlippageCost ←
    adverseCost a event.side (arrivalMid.getD arrival) fillPrice event.filledQuantity
  let predictedSpreadSlippageCost ← a.finalize (event.spreadCost + event.slippageCost)
  let predictedTotalCost ← a.finalize (event.feeCost + predictedSpreadSlippageCost)
  let realizedTotalCost ← a.finalize (event.feeCost + realizedSpreadSlippageCost)
  let spreadSlippagePredictionError ←
    a.finalize (realizedSpreadSlippageCost - predictedSpreadSlippageCost)
  let totalCostPredictionError ← a.finalize (realizedTotalCost - predictedTotalCost)
  .ok { arrivalMid, realizedSpreadSlippageCost, predictedSpreadSlippageCost, predictedTotalCost,
        realizedTotalCost, spreadSlippagePredictionError, totalCostPredictionError }

end Amounts

/-! ## Rows and issues -/

/-- `_TCA_REQUIREMENTS`. -/
def tcaRequirements : List String := ["FR-013", "FR-014", "US-011"]

/-- What a filled event must carry before a row can be made of it. -/
structure RowAttribution where
  gatewayOrderId : String
  fillPrice : Decimal
  fillEventOpenTs : AwareDatetime
  fillEventCloseTs : AwareDatetime
  fillEventSourceTs : AwareDatetime
  arrivalReferencePrice : Decimal

/-- The `is None` checks of `_make_tca_row`. -/
def rowAttribution (event : ExecutionGatewayLifecycleEvent) : Raises RowAttribution :=
  match event.gatewayOrderId with
  | none => .error "TCA rows require gateway order id"
  | some gatewayOrderId =>
      match event.fillPrice, event.fillEventOpenTs, event.fillEventCloseTs,
        event.fillEventSourceTs, event.arrivalReferencePrice with
      | some fillPrice, some openTs, some closeTs, some sourceTs, some arrival =>
          .ok { gatewayOrderId := gatewayOrderId, fillPrice := fillPrice,
                fillEventOpenTs := openTs, fillEventCloseTs := closeTs,
                fillEventSourceTs := sourceTs, arrivalReferencePrice := arrival }
      | _, _, _, _, _ => .error "TCA rows require filled price and reference attribution"

/-- The draft of `_make_tca_row`. -/
def tcaRowDraft (report : ExecutionGatewayReport) (event : ExecutionGatewayLifecycleEvent)
    (arrivalQuote : Option QuoteEvent) (row : RowAttribution) (amounts : RowAmounts) :
    PaperTcaRow :=
  { tcaRowId := "PAPERTCAROW:PLACEHOLDER", tcaRowHash := "",
    gatewayReportId := report.gatewayReportId, gatewayReportHash := report.gatewayReportHash,
    gatewayEventId := event.gatewayEventId, gatewayEventHash := event.gatewayEventHash,
    gatewayOrderId := row.gatewayOrderId, runId := event.runId,
    riskCheckId := event.riskCheckId, riskCheckHash := event.riskCheckHash,
    clientOrderId := event.clientOrderId, traceId := event.traceId,
    sourceDecisionId := event.sourceDecisionId, instrumentId := event.instrumentId,
    venueId := event.venueId, side := event.side, status := event.status,
    submittedAt := event.submittedAt, quoteId := arrivalQuote.map QuoteEvent.quoteId,
    quoteEventTs := arrivalQuote.map QuoteEvent.eventTs,
    quoteSourceTs := arrivalQuote.bind QuoteEvent.sourceTs,
    quoteIngestTs := arrivalQuote.map QuoteEvent.ingestTs,
    arrivalBid := arrivalQuote.map QuoteEvent.bestBid,
    arrivalAsk := arrivalQuote.map QuoteEvent.bestAsk,
    arrivalMid := amounts.arrivalMid, fallbackReferencePrice := row.arrivalReferencePrice,
    referencePriceSource :=
      if amounts.arrivalMid.isSome then .arrivalQuoteMid else .replayArrivalReference,
    fillPrice := row.fillPrice, filledQuantity := event.filledQuantity,
    fillEventOpenTs := row.fillEventOpenTs, fillEventCloseTs := row.fillEventCloseTs,
    fillEventSourceTs := row.fillEventSourceTs, feeCost := event.feeCost,
    predictedSpreadCost := event.spreadCost, predictedSlippageCost := event.slippageCost,
    predictedSpreadSlippageCost := amounts.predictedSpreadSlippageCost,
    predictedTotalCost := amounts.predictedTotalCost,
    realizedSpreadSlippageCost := amounts.realizedSpreadSlippageCost,
    realizedTotalCost := amounts.realizedTotalCost,
    spreadSlippagePredictionError := amounts.spreadSlippagePredictionError,
    totalCostPredictionError := amounts.totalCostPredictionError,
    requirementIds := tcaRequirements }

/-- The draft of `_make_tca_issue`. -/
def tcaIssueDraft (report : ExecutionGatewayReport) (event : ExecutionGatewayLifecycleEvent)
    (code : PaperTcaIssueCode) (message : String) : PaperTcaIssue :=
  { issueId := "PAPERTCAISSUE:PLACEHOLDER", issueHash := "", severity := .error, code := code,
    message := message, gatewayReportId := report.gatewayReportId,
    gatewayReportHash := report.gatewayReportHash, gatewayEventId := event.gatewayEventId,
    gatewayEventHash := event.gatewayEventHash, runId := event.runId,
    riskCheckId := event.riskCheckId, clientOrderId := event.clientOrderId,
    traceId := event.traceId, instrumentId := event.instrumentId, venueId := event.venueId,
    status := event.status, requirementIds := tcaRequirements }

/-- The code and the message of the issue of an event, if it has one. -/
def issueOf (arrivalQuote : Option QuoteEvent) :
    ExecutionGatewayOrderStatus → Option (PaperTcaIssueCode × String)
  | .filled | .partiallyFilled =>
      if arrivalQuote.isSome then none
      else some (.missingArrivalQuote,
        "no arrival quote at or before submitted_at; " ++
          "using replay arrival_reference_price fallback")
  | .blocked => some (.riskBlocked, "risk-blocked/no-trade gateway event has no fill for TCA")
  | .rejected =>
      some (.gatewayRejected,
        "gateway replay rejected the approved paper order; no fill for TCA")
  | .unfilled =>
      some (.gatewayUnfilled,
        "gateway replay left the approved paper order unfilled; " ++ "no fill for TCA")

section Builder

variable [Sha256]

/-- `_make_tca_row`. -/
def makeTcaRow (a : Arithmetic) (report : ExecutionGatewayReport)
    (event : ExecutionGatewayLifecycleEvent) (arrivalQuote : Option QuoteEvent) :
    Raises PaperTcaRow := do
  require event.status.isFilled "TCA rows require filled gateway status"
  let row ← rowAttribution event
  let amounts ← rowAmounts a event arrivalQuote row.arrivalReferencePrice row.fillPrice
  (PaperTcaRow.stampingIn a).construct (tcaRowDraft report event arrivalQuote row amounts)

/-- `_make_tca_issue`. -/
def makeTcaIssue (report : ExecutionGatewayReport) (event : ExecutionGatewayLifecycleEvent)
    (code : PaperTcaIssueCode) (message : String) : Raises PaperTcaIssue :=
  PaperTcaIssue.stamping.construct (tcaIssueDraft report event code message)

/-- One turn of the loop of `make_paper_tca_report`: the row and the issue of an event. -/
def tcaEntries (report : ExecutionGatewayReport) (quotes : List QuoteEvent)
    (event : ExecutionGatewayLifecycleEvent) : Raises (Option PaperTcaRow × Option PaperTcaIssue) :=
  let arrivalQuote := arrivalQuoteForEvent event quotes
  do
    let issue ← (issueOf arrivalQuote event.status).mapM fun (code, message) =>
      makeTcaIssue report event code message
    let row ←
      if event.status.isFilled then some <$> makeTcaRow .context report event arrivalQuote
      else .ok none
    .ok (row, issue)

/-- The amounts that a TCA report adds up. -/
def tcaAmounts : List (PaperTcaRow → Decimal) :=
  [PaperTcaRow.feeCost, PaperTcaRow.predictedTotalCost, PaperTcaRow.realizedTotalCost,
    PaperTcaRow.totalCostPredictionError]

/-- The draft of `make_paper_tca_report`. -/
def tcaReportDraft (report : ExecutionGatewayReport) (rows : List PaperTcaRow)
    (issues : List PaperTcaIssue) : PaperTcaReport :=
  { tcaReportId := "PAPERTCAREPORT:PLACEHOLDER", tcaReportHash := "", runId := report.runId,
    gatewayReportId := report.gatewayReportId, gatewayReportHash := report.gatewayReportHash,
    gatewayKind := report.gatewayKind, fillMode := report.fillMode,
    rowIds := rows.map PaperTcaRow.tcaRowId, issueIds := issues.map PaperTcaIssue.issueId,
    rows := rows, issues := issues, filledRowCount := rows.length,
    issueCount := issues.length,
    errorCount := issues.countP fun i => decide (i.severity = .error),
    feeCostTotal := contextTotal (rows.map PaperTcaRow.feeCost),
    predictedTotalCost := contextTotal (rows.map PaperTcaRow.predictedTotalCost),
    realizedTotalCost := contextTotal (rows.map PaperTcaRow.realizedTotalCost),
    totalCostPredictionError := contextTotal (rows.map PaperTcaRow.totalCostPredictionError),
    requirementIds := tcaRequirements }

/-- `make_paper_tca_report`. -/
def makePaperTcaReport (report : ExecutionGatewayReport) (quotes : List QuoteEvent) :
    Raises PaperTcaReport := do
  requirePaperGatewayReport report
  let entries ← report.events.mapM (tcaEntries report quotes)
  let rows := entries.filterMap Prod.fst
  tcaAmounts.forM fun amount => requireSum (rows.map amount)
  PaperTcaReport.stamping.construct (tcaReportDraft report rows (entries.filterMap Prod.snd))

end Builder

end TaModel.Execution
