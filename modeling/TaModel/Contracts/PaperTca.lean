import TaModel.Contracts.Arithmetic
import TaModel.Contracts.MarketData
import TaModel.Contracts.PaperAccount

/-!
# Paper TCA contracts

The transaction-cost rows, the issues and the report of `contracts/paper.py`. A row compares the
predicted cost of one fill with the cost realized against its reference price.
-/

set_option autoImplicit false

namespace TaModel.Contracts

/-- The reference price of the realized costs. -/
inductive TcaReferencePriceSource where
  | arrivalQuoteMid | replayArrivalReference
deriving DecidableEq

def TcaReferencePriceSource.value : TcaReferencePriceSource → String
  | .arrivalQuoteMid => "arrival_quote_mid"
  | .replayArrivalReference => "replay_arrival_reference"

inductive PaperTcaIssueSeverity where
  | error
deriving DecidableEq

def PaperTcaIssueSeverity.value : PaperTcaIssueSeverity → String
  | .error => "error"

inductive PaperTcaIssueCode where
  | missingArrivalQuote | riskBlocked | gatewayRejected | gatewayUnfilled
deriving DecidableEq

def PaperTcaIssueCode.value : PaperTcaIssueCode → String
  | .missingArrivalQuote => "missing_arrival_quote"
  | .riskBlocked => "risk_blocked"
  | .gatewayRejected => "gateway_rejected"
  | .gatewayUnfilled => "gateway_unfilled"

instance : ToPayload TcaReferencePriceSource := ⟨fun x => .text x.value⟩
instance : ToPayload PaperTcaIssueSeverity := ⟨fun x => .text x.value⟩
instance : ToPayload PaperTcaIssueCode := ⟨fun x => .text x.value⟩

/-! ## Rows -/

/-- Cost row of one filled gateway event. -/
structure PaperTcaRow where
  tcaRowId : String
  tcaRowHash : String
  gatewayReportId : String
  gatewayReportHash : String
  gatewayEventId : String
  gatewayEventHash : String
  gatewayOrderId : String
  runId : String
  riskCheckId : String
  riskCheckHash : String
  clientOrderId : String
  traceId : String
  sourceDecisionId : String
  instrumentId : String
  venueId : String
  side : OrderSide
  status : ExecutionGatewayOrderStatus
  submittedAt : AwareDatetime
  quoteId : Option String
  quoteEventTs : Option AwareDatetime
  quoteSourceTs : Option AwareDatetime
  quoteIngestTs : Option AwareDatetime
  arrivalBid : Option WrittenPrice
  arrivalAsk : Option WrittenPrice
  arrivalMid : Option Decimal
  fallbackReferencePrice : Decimal
  referencePriceSource : TcaReferencePriceSource
  fillPrice : Decimal
  filledQuantity : Decimal
  fillEventOpenTs : AwareDatetime
  fillEventCloseTs : AwareDatetime
  fillEventSourceTs : AwareDatetime
  feeCost : Decimal
  predictedSpreadCost : Decimal
  predictedSlippageCost : Decimal
  predictedSpreadSlippageCost : Decimal
  predictedTotalCost : Decimal
  realizedSpreadSlippageCost : Decimal
  realizedTotalCost : Decimal
  spreadSlippagePredictionError : Decimal
  totalCostPredictionError : Decimal
  requirementIds : List String
deriving DecidableEq

namespace PaperTcaRow

/-- The fields hashed by `build_paper_tca_row_hash`. -/
def identityFields (r : PaperTcaRow) : List (String × Payload) :=
  [ ("arrival_ask", toPayload r.arrivalAsk), ("arrival_bid", toPayload r.arrivalBid),
    ("arrival_mid", toPayload r.arrivalMid), ("client_order_id", toPayload r.clientOrderId),
    ("fallback_reference_price", toPayload r.fallbackReferencePrice),
    ("fee_cost", toPayload r.feeCost), ("fill_event_close_ts", toPayload r.fillEventCloseTs),
    ("fill_event_open_ts", toPayload r.fillEventOpenTs),
    ("fill_event_source_ts", toPayload r.fillEventSourceTs), ("fill_price", toPayload r.fillPrice),
    ("filled_quantity", toPayload r.filledQuantity),
    ("gateway_event_hash", toPayload r.gatewayEventHash),
    ("gateway_event_id", toPayload r.gatewayEventId),
    ("gateway_order_id", toPayload r.gatewayOrderId),
    ("gateway_report_hash", toPayload r.gatewayReportHash),
    ("gateway_report_id", toPayload r.gatewayReportId),
    ("instrument_id", toPayload r.instrumentId),
    ("predicted_slippage_cost", toPayload r.predictedSlippageCost),
    ("predicted_spread_cost", toPayload r.predictedSpreadCost),
    ("predicted_spread_slippage_cost", toPayload r.predictedSpreadSlippageCost),
    ("predicted_total_cost", toPayload r.predictedTotalCost),
    ("quote_event_ts", toPayload r.quoteEventTs), ("quote_id", toPayload r.quoteId),
    ("quote_ingest_ts", toPayload r.quoteIngestTs), ("quote_source_ts", toPayload r.quoteSourceTs),
    ("realized_spread_slippage_cost", toPayload r.realizedSpreadSlippageCost),
    ("realized_total_cost", toPayload r.realizedTotalCost),
    ("reference_price_source", toPayload r.referencePriceSource),
    ("requirement_ids", toPayload r.requirementIds),
    ("risk_check_hash", toPayload r.riskCheckHash), ("risk_check_id", toPayload r.riskCheckId),
    ("run_id", toPayload r.runId), ("side", toPayload r.side),
    ("source_decision_id", toPayload r.sourceDecisionId),
    ("spread_slippage_prediction_error", toPayload r.spreadSlippagePredictionError),
    ("status", toPayload r.status), ("submitted_at", toPayload r.submittedAt),
    ("total_cost_prediction_error", toPayload r.totalCostPredictionError),
    ("trace_id", toPayload r.traceId), ("venue_id", toPayload r.venueId) ]


/-- `_model_json(row)`. -/
instance : ToPayload PaperTcaRow := ⟨fun r =>
  .record (("tca_row_hash", toPayload r.tcaRowHash) :: ("tca_row_id", toPayload r.tcaRowId) ::
    r.identityFields)⟩

/-- Field bounds of a row (`gt=0`, `ge=0`). -/
def FieldsInBounds (r : PaperTcaRow) : Prop :=
  (∀ p ∈ r.arrivalMid, 0 ≤ p) ∧ 0 < r.fallbackReferencePrice ∧ 0 < r.fillPrice ∧
    0 < r.filledQuantity ∧ 0 ≤ r.feeCost ∧ 0 ≤ r.predictedSpreadCost ∧
    0 ≤ r.predictedSlippageCost ∧ 0 ≤ r.predictedSpreadSlippageCost ∧ 0 ≤ r.predictedTotalCost

instance (r : PaperTcaRow) : Decidable r.FieldsInBounds := by
  simp only [FieldsInBounds]
  infer_instance

/-- The quote fields that a reference to the arrival quote needs. -/
def QuoteFieldsComplete (r : PaperTcaRow) : Prop :=
  r.quoteId ≠ none ∧ r.quoteEventTs ≠ none ∧ r.quoteIngestTs ≠ none ∧ r.arrivalBid ≠ none ∧
    r.arrivalAsk ≠ none ∧ r.arrivalMid ≠ none

instance (r : PaperTcaRow) : Decidable r.QuoteFieldsComplete := by
  simp only [QuoteFieldsComplete]
  infer_instance

def NoQuoteFields (r : PaperTcaRow) : Prop :=
  r.quoteSourceTs = none ∧ r.quoteId = none ∧ r.quoteEventTs = none ∧ r.quoteIngestTs = none ∧
    r.arrivalBid = none ∧ r.arrivalAsk = none ∧ r.arrivalMid = none

instance (r : PaperTcaRow) : Decidable r.NoQuoteFields := by
  simp only [NoQuoteFields]
  infer_instance

/-- The part of the validators that looks at neither the hash nor the id of the row. -/
def validateFields (a : Arithmetic) (r : PaperTcaRow) : Raises Unit := do
  require (isCanonicalId r.runId) "String should match pattern '^[A-Z0-9][A-Z0-9._:-]*$'"
  require r.FieldsInBounds "Input should be greater than 0"
  require r.status.isFilled "TCA rows require filled or partially_filled gateway status"
  require (r.referencePriceSource = .arrivalQuoteMid → r.QuoteFieldsComplete)
    "arrival quote reference rows require complete quote fields"
  require (r.referencePriceSource ≠ .arrivalQuoteMid → r.NoQuoteFields)
    "fallback reference rows must not carry arrival quote fields"
  require (r.predictedSpreadSlippageCost =
      a.round (r.predictedSpreadCost + r.predictedSlippageCost))
    "predicted_spread_slippage_cost must match predicted components"
  require (r.predictedTotalCost = a.round (r.feeCost + r.predictedSpreadSlippageCost))
    "predicted_total_cost must equal fees plus predicted spread/slippage"
  require (r.realizedTotalCost = a.round (r.feeCost + r.realizedSpreadSlippageCost))
    "realized_total_cost must equal fees plus realized spread/slippage"
  require (r.spreadSlippagePredictionError =
      a.round (r.realizedSpreadSlippageCost - r.predictedSpreadSlippageCost))
    "spread_slippage_prediction_error must match realized-predicted"
  require (r.totalCostPredictionError = a.round (r.realizedTotalCost - r.predictedTotalCost))
    "total_cost_prediction_error must match realized-predicted"

theorem validateFields_eq_ok_iff (a : Arithmetic) (r : PaperTcaRow) :
    r.validateFields a = .ok () ↔
      isCanonicalId r.runId = true ∧ r.FieldsInBounds ∧ r.status.isFilled = true ∧
      (r.referencePriceSource = .arrivalQuoteMid → r.QuoteFieldsComplete) ∧
      (r.referencePriceSource ≠ .arrivalQuoteMid → r.NoQuoteFields) ∧
      r.predictedSpreadSlippageCost =
        a.round (r.predictedSpreadCost + r.predictedSlippageCost) ∧
      r.predictedTotalCost = a.round (r.feeCost + r.predictedSpreadSlippageCost) ∧
      r.realizedTotalCost = a.round (r.feeCost + r.realizedSpreadSlippageCost) ∧
      r.spreadSlippagePredictionError =
        a.round (r.realizedSpreadSlippageCost - r.predictedSpreadSlippageCost) ∧
      r.totalCostPredictionError = a.round (r.realizedTotalCost - r.predictedTotalCost) := by
  simp only [validateFields, check_bind_eq_ok_iff, require_eq_ok_iff]

section Identity

variable [Sha256]

/-- `build_paper_tca_row_hash`. -/
def buildHash (r : PaperTcaRow) : String := hash (.record r.identityFields)

/-- `build_paper_tca_row_id`. -/
def buildId (rowHash : String) : String := stableIdOfHash "PAPERTCAROW" "tca_row_hash" rowHash

/-- Where a row stores its hash and id. -/
def stampingIn (a : Arithmetic) : Library.Stamping PaperTcaRow String String where
  checkFields := validateFields a
  storedHash := tcaRowHash
  storedId := tcaRowId
  contentHash := buildHash
  idOfHash := buildId
  stamp r newHash newId := { r with tcaRowHash := newHash, tcaRowId := newId }
  hashError := "tca_row_hash is not deterministic"
  idError := "tca_row_id is not deterministic"
  storedHash_stamp _ _ _ := rfl
  storedId_stamp _ _ _ := rfl
  contentHash_stamp _ _ _ := rfl
  checkFields_stamp _ _ _ := rfl

/-- The stamping of the decimal context. -/
def stamping : Library.Stamping PaperTcaRow String String := stampingIn .context

/-- The validators `PaperTcaRow(...)` runs. -/
def validate (r : PaperTcaRow) : Raises Unit := stamping.validate r

end Identity

end PaperTcaRow

/-! ## Issues -/

/-- Issue of an event without an arrival quote, or without a fill. -/
structure PaperTcaIssue where
  issueId : String
  issueHash : String
  severity : PaperTcaIssueSeverity
  code : PaperTcaIssueCode
  message : String
  gatewayReportId : String
  gatewayReportHash : String
  gatewayEventId : String
  gatewayEventHash : String
  runId : String
  riskCheckId : String
  clientOrderId : String
  traceId : String
  instrumentId : String
  venueId : String
  status : ExecutionGatewayOrderStatus
  requirementIds : List String
deriving DecidableEq

namespace PaperTcaIssue

/-- The fields hashed by `build_paper_tca_issue_hash`. -/
def identityFields (i : PaperTcaIssue) : List (String × Payload) :=
  [ ("client_order_id", toPayload i.clientOrderId), ("code", toPayload i.code),
    ("gateway_event_hash", toPayload i.gatewayEventHash),
    ("gateway_event_id", toPayload i.gatewayEventId),
    ("gateway_report_hash", toPayload i.gatewayReportHash),
    ("gateway_report_id", toPayload i.gatewayReportId),
    ("instrument_id", toPayload i.instrumentId), ("message", toPayload i.message),
    ("requirement_ids", toPayload i.requirementIds), ("risk_check_id", toPayload i.riskCheckId),
    ("run_id", toPayload i.runId), ("severity", toPayload i.severity),
    ("status", toPayload i.status), ("trace_id", toPayload i.traceId),
    ("venue_id", toPayload i.venueId) ]


/-- `_model_json(issue)`. -/
instance : ToPayload PaperTcaIssue := ⟨fun i =>
  .record (("issue_hash", toPayload i.issueHash) :: ("issue_id", toPayload i.issueId) ::
    i.identityFields)⟩

/-- The part of the validators that looks at neither the hash nor the id of the issue. -/
def validateFields (i : PaperTcaIssue) : Raises Unit := do
  require (isCanonicalId i.runId) "String should match pattern '^[A-Z0-9][A-Z0-9._:-]*$'"
  require (isNonEmptyString i.message) "String should have at least 1 character"
  match i.code with
  | .missingArrivalQuote =>
      require i.status.isFilled "missing quote TCA issues require a filled gateway event"
  | .riskBlocked =>
      require (i.status = .blocked) "risk-blocked TCA issues require blocked gateway status"
  | .gatewayRejected =>
      require (i.status = .rejected) "gateway-rejected TCA issues require rejected gateway status"
  | .gatewayUnfilled =>
      require (i.status = .unfilled) "gateway-unfilled TCA issues require unfilled gateway status"

theorem validateFields_eq_ok_iff (i : PaperTcaIssue) :
    i.validateFields = .ok () ↔
      isCanonicalId i.runId = true ∧ isNonEmptyString i.message = true ∧
      (i.code = .missingArrivalQuote → i.status.isFilled = true) ∧
      (i.code = .riskBlocked → i.status = .blocked) ∧
      (i.code = .gatewayRejected → i.status = .rejected) ∧
      (i.code = .gatewayUnfilled → i.status = .unfilled) := by
  simp only [validateFields, check_bind_eq_ok_iff, require_eq_ok_iff]
  cases hcode : i.code with
  | missingArrivalQuote => simp
  | riskBlocked => simp
  | gatewayRejected => simp
  | gatewayUnfilled => simp

section Identity

variable [Sha256]

/-- `build_paper_tca_issue_hash`. -/
def buildHash (i : PaperTcaIssue) : String := hash (.record i.identityFields)

/-- `build_paper_tca_issue_id`. -/
def buildId (issueHash : String) : String := stableIdOfHash "PAPERTCAISSUE" "issue_hash" issueHash

/-- Where an issue stores its hash and id. -/
def stamping : Library.Stamping PaperTcaIssue String String where
  checkFields := validateFields
  storedHash := issueHash
  storedId := issueId
  contentHash := buildHash
  idOfHash := buildId
  stamp i newHash newId := { i with issueHash := newHash, issueId := newId }
  hashError := "issue_hash is not deterministic"
  idError := "issue_id is not deterministic"
  storedHash_stamp _ _ _ := rfl
  storedId_stamp _ _ _ := rfl
  contentHash_stamp _ _ _ := rfl
  checkFields_stamp _ _ _ := rfl

/-- The validators `PaperTcaIssue(...)` runs. -/
def validate (i : PaperTcaIssue) : Raises Unit := stamping.validate i

end Identity

end PaperTcaIssue

/-! ## Reports -/

/-- Transaction-cost report of a paper gateway report. -/
structure PaperTcaReport where
  tcaReportId : String
  tcaReportHash : String
  runId : String
  gatewayReportId : String
  gatewayReportHash : String
  gatewayKind : ExecutionGatewayKind
  fillMode : ExecutionFillMode
  rowIds : List String
  issueIds : List String
  rows : List PaperTcaRow
  issues : List PaperTcaIssue
  filledRowCount : Nat
  issueCount : Nat
  errorCount : Nat
  feeCostTotal : Decimal
  predictedTotalCost : Decimal
  realizedTotalCost : Decimal
  totalCostPredictionError : Decimal
  requirementIds : List String
deriving DecidableEq

namespace PaperTcaReport

/-- The fields hashed by `build_paper_tca_report_hash`. -/
def identityFields (r : PaperTcaReport) : List (String × Payload) :=
  [ ("error_count", toPayload r.errorCount), ("fee_cost_total", toPayload r.feeCostTotal),
    ("fill_mode", toPayload r.fillMode), ("filled_row_count", toPayload r.filledRowCount),
    ("gateway_kind", toPayload r.gatewayKind),
    ("gateway_report_hash", toPayload r.gatewayReportHash),
    ("gateway_report_id", toPayload r.gatewayReportId), ("issue_count", toPayload r.issueCount),
    ("issue_ids", toPayload r.issueIds), ("issues", toPayload r.issues),
    ("predicted_total_cost", toPayload r.predictedTotalCost),
    ("realized_total_cost", toPayload r.realizedTotalCost),
    ("requirement_ids", toPayload r.requirementIds), ("row_ids", toPayload r.rowIds),
    ("rows", toPayload r.rows), ("run_id", toPayload r.runId),
    ("total_cost_prediction_error", toPayload r.totalCostPredictionError) ]


/-- One step of the linkage loops: `label` is a row or an issue. -/
def validateLinkage (r : PaperTcaReport) (label runId gatewayReportId gatewayReportHash : String) :
    Raises Unit := do
  require (runId = r.runId) ("TCA " ++ label ++ " run_id must match report")
  require (gatewayReportId = r.gatewayReportId)
    ("TCA " ++ label ++ " gateway_report_id must match report")
  require (gatewayReportHash = r.gatewayReportHash)
    ("TCA " ++ label ++ " gateway_report_hash must match report")

section Identity

variable [Sha256]

/-- The part of the validators that looks at neither the hash nor the id of the report. -/
def validateFields (r : PaperTcaReport) : Raises Unit := do
  require (isCanonicalId r.runId) "String should match pattern '^[A-Z0-9][A-Z0-9._:-]*$'"
  require (0 ≤ r.feeCostTotal ∧ 0 ≤ r.predictedTotalCost)
    "Input should be greater than or equal to 0"
  r.rows.forM PaperTcaRow.validate
  r.issues.forM PaperTcaIssue.validate
  require (r.gatewayKind = .paper) "paper TCA reports require paper gateway kind"
  require (r.fillMode = .paperSimulatedFill)
    "paper TCA reports require paper_simulated_fill mode"
  require (r.rowIds = r.rows.map PaperTcaRow.tcaRowId) "row_ids must match rows"
  require (r.issueIds = r.issues.map PaperTcaIssue.issueId) "issue_ids must match issues"
  r.rows.forM fun row =>
    r.validateLinkage "row" row.runId row.gatewayReportId row.gatewayReportHash
  r.issues.forM fun i => r.validateLinkage "issue" i.runId i.gatewayReportId i.gatewayReportHash
  require (r.filledRowCount = r.rows.length) "filled_row_count must match rows"
  require (r.issueCount = r.issues.length) "issue_count must match issues"
  require (r.errorCount = r.issues.countP fun i => decide (i.severity = .error))
    "error_count must match error issues"
  require (r.feeCostTotal = contextTotal (r.rows.map PaperTcaRow.feeCost))
    "fee_cost_total must match rows"
  require (r.predictedTotalCost = contextTotal (r.rows.map PaperTcaRow.predictedTotalCost))
    "predicted_total_cost must match rows"
  require (r.realizedTotalCost = contextTotal (r.rows.map PaperTcaRow.realizedTotalCost))
    "realized_total_cost must match rows"
  require (r.totalCostPredictionError =
      contextTotal (r.rows.map PaperTcaRow.totalCostPredictionError))
    "total_cost_prediction_error must match rows"

/-- `build_paper_tca_report_hash`. -/
def buildHash (r : PaperTcaReport) : String := hash (.record r.identityFields)

/-- `build_paper_tca_report_id`. -/
def buildId (reportHash : String) : String :=
  stableIdOfHash "PAPERTCAREPORT" "tca_report_hash" reportHash

/-- Where a report stores its hash and id. -/
def stamping : Library.Stamping PaperTcaReport String String where
  checkFields := validateFields
  storedHash := tcaReportHash
  storedId := tcaReportId
  contentHash := buildHash
  idOfHash := buildId
  stamp r newHash newId := { r with tcaReportHash := newHash, tcaReportId := newId }
  hashError := "tca_report_hash is not deterministic"
  idError := "tca_report_id is not deterministic"
  storedHash_stamp _ _ _ := rfl
  storedId_stamp _ _ _ := rfl
  contentHash_stamp _ _ _ := rfl
  checkFields_stamp _ _ _ := rfl

/-- The validators `PaperTcaReport(...)` runs. -/
def validate (r : PaperTcaReport) : Raises Unit := stamping.validate r

end Identity

end PaperTcaReport

end TaModel.Contracts
