import TaModel.Audit.TraceLinks
import TaModel.Execution.AccountBinding
import TaModel.Execution.PaperPartition

/-!
# Quantities and costs along an envelope

An envelope compares the gateway quantity with the approved intent, and the paper logs and rows
with the gateway event by identity. It compares neither the approved with the requested quantity
nor the amounts of a fill. So the amounts are pinned exactly where nothing was filled and no more
was approved than requested; for a filled event they agree in the logs and rows of the builders.
-/

set_option autoImplicit false

namespace TaModel.Audit

open Contracts Execution Risk Simulation

/-! ## The chain -/

/-- Quantities shrink from the decision to the fill, and the linked logs and rows carry the amounts
of the gateway event. -/
structure EconomicChain (decision : StrategyDecision) (event : ExecutionGatewayLifecycleEvent)
    (paper : PaperAccountSessionReport) (tca : PaperTcaReport) : Prop where
  gateway_le_proposed : event.gatewayQuantity.val ≤ decision.sizing.proposedQuantity.val
  filled_le_gateway : event.filledQuantity ≤ event.gatewayQuantity.val
  fillLogs : ∀ log ∈ linkedFillLogs event paper, log.filledQuantity = event.filledQuantity ∧
    some log.fillPrice = event.fillPrice ∧ log.feeCost = event.feeCost ∧
    log.spreadCost = event.spreadCost ∧ log.slippageCost = event.slippageCost ∧
    log.totalCost = event.totalCost
  rows : ∀ row ∈ linkedRows event tca, row.filledQuantity = event.filledQuantity ∧
    some row.fillPrice = event.fillPrice

section Chain

variable [Sha256]

/-- Whenever an order gets an envelope, the chain of its gateway event holds. -/
def ChainHolds (forecast : Forecast) (decision : StrategyDecision) (order : OrderArtifacts) :
    Prop :=
  ∀ envelope event, makeDecisionTraceEnvelope (order.toTrace forecast decision) = .ok envelope →
    matchingGatewayEvent order.gatewayReport order.riskEvent decision = .ok event →
    EconomicChain decision event order.paperAccountReport order.paperTcaReport

/-- No more is approved than was requested. -/
def ApprovedWithinRequest (riskEvent : RiskCheckEvent) (orderIntent : OrderIntent) : Prop :=
  ∀ approved ∈ riskEvent.approvedOrderIntent, approved.quantity.val ≤ orderIntent.quantity.val

/-- The linked fill logs and rows are those that the paper builders make of the event. -/
structure BuilderEvidence (gatewayReport : ExecutionGatewayReport)
    (event : ExecutionGatewayLifecycleEvent) (paper : PaperAccountSessionReport)
    (tca : PaperTcaReport) : Prop where
  fillLogs : ∀ log ∈ linkedFillLogs event paper, makeFillLogEntry gatewayReport event = .ok log
  rows : ∀ row ∈ linkedRows event tca, ∃ quote, makeTcaRow .context gatewayReport event quote = .ok row

variable {decision : StrategyDecision} {orderIntent : OrderIntent} {riskEvent : RiskCheckEvent}
  {gatewayReport : ExecutionGatewayReport} {event : ExecutionGatewayLifecycleEvent}

/-! ## Quantities -/

/-- The gateway acts on the approved intent, or on the requested one, whose quantity is the
proposed one. -/
theorem gatewayQuantity_le_iff
    (h : OrderMatched decision orderIntent riskEvent gatewayReport event) :
    event.gatewayQuantity.val ≤ decision.sizing.proposedQuantity.val ↔
      ApprovedWithinRequest riskEvent orderIntent := by
  have hintent := h.intent
  simp only [validateOrderIntentMatchesDecision, check_bind_eq_ok_iff,
    require_eq_ok_iff] at hintent
  obtain ⟨-, -, -, -, -, hproposed, -⟩ := hintent
  have hrisk := h.risk
  simp only [validateRiskEventMatchesOrder, check_bind_eq_ok_iff, require_eq_ok_iff,
    sameOrderIntent, Bool.and_eq_true, decide_eq_true_eq] at hrisk
  obtain ⟨-, -, ⟨⟨⟨-, hrequested⟩, -⟩, -⟩, -⟩ := hrisk
  have hgateway := h.gateway
  simp only [validateGatewayEventMatchesRiskOrder, raiseOnMismatches_eq_ok_iff,
    List.forall_mem_cons, decide_eq_true_eq] at hgateway
  obtain ⟨-, -, -, -, -, -, -, -, hquantity, -⟩ := hgateway
  rw [hquantity, ← hproposed]
  simp only [ApprovedWithinRequest, expectedGatewayIntent]
  cases happroved : riskEvent.approvedOrderIntent with
  | none =>
      rw [Option.getD_none, hrequested]
      exact ⟨fun _ => nofun, fun _ => le_refl _⟩
  | some approved =>
      rw [Option.getD_some]
      constructor
      · rintro hle _ ⟨⟩
        exact hle
      · intro hle
        exact hle approved rfl

theorem filledQuantity_le_gatewayQuantity (hvalid : event.validate = .ok ()) :
    event.filledQuantity ≤ event.gatewayQuantity.val := by
  obtain ⟨hfields, -⟩ := (ExecutionGatewayLifecycleEvent.stamping.validate_eq_ok_iff event).mp hvalid
  obtain ⟨⟨-, -, hremaining, -⟩, -, -, -, -, -, hsplit, -⟩ :=
    (ExecutionGatewayLifecycleEvent.validateFields_eq_ok_iff event).mp hfields
  rw [hsplit] at hremaining
  linarith

/-- The event of a trace in a valid report is a valid event of that report's run. -/
theorem event_of_validReport (hvalid : gatewayReport.validate = .ok ())
    (h : matchingGatewayEvent gatewayReport riskEvent decision = .ok event) :
    event.validate = .ok () ∧ event.runId = gatewayReport.runId := by
  obtain ⟨hmem, -⟩ := mem_of_matchingGatewayEvent h
  obtain ⟨hfields, -⟩ := (ExecutionGatewayReport.stamping.validate_eq_ok_iff gatewayReport).mp hvalid
  obtain ⟨-, hevents, -, -, -, -, -, -, hrun, -⟩ :=
    (ExecutionGatewayReport.validateFields_eq_ok_iff gatewayReport).mp hfields
  exact ⟨hevents event hmem, hrun event hmem⟩

/-! ## Linked fill logs and rows of an event without a fill -/

/-- Fill logs are filled and have the status of their event. -/
theorem linkedFillLogs_eq_nil {paper : PaperAccountSessionReport} (hpaper : paper.validate = .ok ())
    (hfit : LogsFit gatewayReport event paper) (hnot : event.status.isFilled = false) :
    linkedFillLogs event paper = [] := by
  apply List.eq_nil_iff_forall_not_mem.mpr
  intro log hlog
  have hstatus : log.status = event.status := by
    have hmatch := (raiseOnMismatches_eq_ok_iff _ _).mp (hfit.fill_match log hlog)
    simp only [List.forall_mem_cons, decide_eq_true_eq] at hmatch
    obtain ⟨-, -, -, -, -, -, -, -, -, -, -, hstatus, -⟩ := hmatch
    exact hstatus
  obtain ⟨hfields, -⟩ := (PaperAccountSessionReport.stamping.validate_eq_ok_iff paper).mp hpaper
  have hlogs : log.validate = .ok () := by
    have hfields' : paper.validateFields = .ok () := hfields
    simp only [PaperAccountSessionReport.validateFields, check_bind_eq_ok_iff,
      forM_eq_ok_iff] at hfields'
    obtain ⟨-, -, -, -, hlogs, -⟩ := hfields'
    exact hlogs log (List.mem_of_mem_filter hlog)
  obtain ⟨hlogFields, -⟩ := (PaperFillLogEntry.stamping.validate_eq_ok_iff log).mp hlogs
  obtain ⟨-, -, hfilled, -⟩ := (PaperFillLogEntry.validateFields_eq_ok_iff log).mp hlogFields
  rw [hstatus, hnot] at hfilled
  cases hfilled

/-- Rows are filled and have the status of their event. -/
theorem linkedRows_eq_nil {tca : PaperTcaReport} (htca : tca.validate = .ok ())
    (hfit : TcaFits gatewayReport event tca) (hnot : event.status.isFilled = false) :
    linkedRows event tca = [] := by
  apply List.eq_nil_iff_forall_not_mem.mpr
  intro row hrow
  have hstatus : row.status = event.status := by
    have hmatch := (raiseOnMismatches_eq_ok_iff _ _).mp (hfit.row_match row hrow)
    simp only [List.forall_mem_cons, decide_eq_true_eq] at hmatch
    obtain ⟨-, -, -, -, -, -, -, -, -, -, hstatus, -⟩ := hmatch
    exact hstatus
  obtain ⟨hfields, -⟩ := (PaperTcaReport.stamping.validate_eq_ok_iff tca).mp htca
  have hrows : row.validate = .ok () := by
    have hfields' : tca.validateFields = .ok () := hfields
    simp only [PaperTcaReport.validateFields, check_bind_eq_ok_iff, forM_eq_ok_iff] at hfields'
    obtain ⟨-, -, hrows, -⟩ := hfields'
    exact hrows row (List.mem_of_mem_filter hrow)
  obtain ⟨hrowFields, -⟩ := (PaperTcaRow.stamping.validate_eq_ok_iff row).mp hrows
  obtain ⟨-, -, hfilled, -⟩ := (PaperTcaRow.validateFields_eq_ok_iff .context row).mp hrowFields
  rw [hstatus, hnot] at hfilled
  cases hfilled

/-! ## Evidence of the builders -/

/-- The fill log and the row that the builders make of an event carry its amounts. -/
theorem amounts_of_builders {paper : PaperAccountSessionReport} {tca : PaperTcaReport}
    (hvalid : event.validate = .ok ()) (h : BuilderEvidence gatewayReport event paper tca) :
    (∀ log ∈ linkedFillLogs event paper, log.filledQuantity = event.filledQuantity ∧
      some log.fillPrice = event.fillPrice ∧ log.feeCost = event.feeCost ∧
      log.spreadCost = event.spreadCost ∧ log.slippageCost = event.slippageCost ∧
      log.totalCost = event.totalCost) ∧
    ∀ row ∈ linkedRows event tca, row.filledQuantity = event.filledQuantity ∧
      some row.fillPrice = event.fillPrice := by
  constructor
  · intro log hlog
    have hmake := h.fillLogs log hlog
    simp only [makeFillLogEntry, bind_eq_ok_iff, require_eq_ok_iff,
      Library.Stamping.construct_eq_ok_iff] at hmake
    obtain ⟨_, hfilled, fill, hattribution, -, rfl⟩ := hmake
    obtain ⟨fill', hattribution', hfill⟩ := validFill_of_valid hvalid hfilled
    cases hattribution.symm.trans hattribution'
    exact ⟨rfl, hfill.fillPrice.symm, rfl, rfl, rfl, rfl⟩
  · intro row hrow
    obtain ⟨quote, hmake⟩ := h.rows row hrow
    simp only [makeTcaRow, bind_eq_ok_iff, require_eq_ok_iff,
      Library.Stamping.construct_eq_ok_iff] at hmake
    obtain ⟨_, hfilled, attribution, hattribution, amounts, -, -, rfl⟩ := hmake
    obtain ⟨fill, -, hfill⟩ := validFill_of_valid hvalid hfilled
    rw [rowAttribution_of_validFill hfill] at hattribution
    cases hattribution
    exact ⟨rfl, hfill.fillPrice.symm⟩

/-! ## Reports over one event -/

/-- A gateway report under the name of the paper gateway. -/
def asPaper (report : ExecutionGatewayReport) : ExecutionGatewayReport :=
  { report with gatewayKind := .paper, fillMode := .paperSimulatedFill }

/-- An account state named by id and hash only. -/
def namedAccountState : ResolvedFinalState where
  state := none
  stateId := stableId "ACCOUNTSTATE" .null
  stateHash := Contracts.hash .null
  source := .explicitLinkage

/-- A session report over the given logs, with named account states. -/
def sessionOver (report : ExecutionGatewayReport) (orderLogs : List PaperOrderLifecycleLogEntry)
    (fillLogs : List PaperFillLogEntry) (rejectionLogs : List PaperRejectionLogEntry) :
    PaperAccountSessionReport :=
  PaperAccountSessionReport.stamping.sealed
    (sessionDraft (asPaper report) none namedAccountState.stateId namedAccountState.stateHash
      namedAccountState orderLogs fillLogs rejectionLogs)

/-- A TCA report over the given rows and issues. -/
def tcaOver (report : ExecutionGatewayReport) (rows : List PaperTcaRow)
    (issues : List PaperTcaIssue) : PaperTcaReport :=
  PaperTcaReport.stamping.sealed (tcaReportDraft (asPaper report) rows issues)

theorem paperSource_asPaper (hvalid : gatewayReport.validate = .ok ()) :
    PaperSource (asPaper gatewayReport) := by
  obtain ⟨hfields, -⟩ := (ExecutionGatewayReport.stamping.validate_eq_ok_iff gatewayReport).mp hvalid
  obtain ⟨hrun, -, -, -, -, -, -, -, -, -, -, hlinked, -⟩ :=
    (ExecutionGatewayReport.validateFields_eq_ok_iff gatewayReport).mp hfields
  exact ⟨rfl, rfl, hrun, hlinked⟩

theorem sessionOver_validate {orderLogs : List PaperOrderLifecycleLogEntry}
    {fillLogs : List PaperFillLogEntry} {rejectionLogs : List PaperRejectionLogEntry}
    (hvalid : gatewayReport.validate = .ok ())
    (horder : ∀ log ∈ orderLogs, log.validate = .ok () ∧ log.runId = gatewayReport.runId ∧
      log.gatewayReportId = gatewayReport.gatewayReportId ∧
      log.gatewayReportHash = gatewayReport.gatewayReportHash)
    (hfills : ∀ log ∈ fillLogs, log.validate = .ok () ∧ log.runId = gatewayReport.runId ∧
      log.gatewayReportId = gatewayReport.gatewayReportId ∧
      log.gatewayReportHash = gatewayReport.gatewayReportHash)
    (hrejections : ∀ log ∈ rejectionLogs, log.validate = .ok () ∧
      log.runId = gatewayReport.runId ∧
      log.gatewayReportId = gatewayReport.gatewayReportId ∧
      log.gatewayReportHash = gatewayReport.gatewayReportHash) :
    (sessionOver gatewayReport orderLogs fillLogs rejectionLogs).validate = .ok () := by
  have hnamed : isCanonicalId namedAccountState.stateId = true ∧
      isHexDigest namedAccountState.stateHash = true :=
    ⟨isCanonicalId_stableId _ _ (by decide) (by decide), isHexDigest_hash _⟩
  apply (PaperAccountSessionReport.stamping.validate_sealed _).mpr
  exact sessionDraft_validateFields (paperSource_asPaper hvalid)
    ⟨hnamed, hnamed, nofun, nofun, nofun, nofun, nofun⟩ horder hfills hrejections

theorem tcaOver_validate {rows : List PaperTcaRow} {issues : List PaperTcaIssue}
    (hvalid : gatewayReport.validate = .ok ())
    (hrows : ∀ row ∈ rows, row.validate = .ok () ∧ row.runId = gatewayReport.runId ∧
      row.gatewayReportId = gatewayReport.gatewayReportId ∧
      row.gatewayReportHash = gatewayReport.gatewayReportHash)
    (hissues : ∀ issue ∈ issues, issue.validate = .ok () ∧ issue.runId = gatewayReport.runId ∧
      issue.gatewayReportId = gatewayReport.gatewayReportId ∧
      issue.gatewayReportHash = gatewayReport.gatewayReportHash) :
    (tcaOver gatewayReport rows issues).validate = .ok () := by
  apply (PaperTcaReport.stamping.validate_sealed _).mpr
  exact tcaReportDraft_validateFields (paperSource_asPaper hvalid) hrows hissues

/-! ## The records of one event -/

/-- A fill log of an event with another fee than the event has. -/
def overchargedFillLog (report : ExecutionGatewayReport) (event : ExecutionGatewayLifecycleEvent)
    (fill : FillAttribution) : PaperFillLogEntry :=
  PaperFillLogEntry.stamping.sealed
    { fillLogDraft report event { fill with arrivalReferencePrice := 1 } with
      referenceNotional := event.filledQuantity, feeCost := event.feeCost + 1,
      totalCost := event.totalCost + 1 }

/-- A row of an event at the reference price 1. -/
def unitPriceRow (report : ExecutionGatewayReport) (event : ExecutionGatewayLifecycleEvent)
    (fill : FillAttribution) : PaperTcaRow :=
  rowOver .context report event none { fill with arrivalReferencePrice := 1 }

theorem overchargedFillLog_validate {fill : FillAttribution} (hvalid : event.validate = .ok ())
    (hfilled : event.status.isFilled = true) (hfill : ValidFill event fill) :
    (overchargedFillLog gatewayReport event fill).validate = .ok () := by
  have hcosts := validCosts_of_valid hvalid
  obtain ⟨-, -, hremaining, -, -, -, hnotional, hfee, hspread, hslippage, htotal⟩ := hcosts.bounds
  have heffective : 0 < fill.effectiveFillPrice := by
    rw [hfill.effective_eq]
    exact hfill.price_pos
  have hquantity := hfill.quantity_pos
  have hsum : event.totalCost + 1 = event.feeCost + 1 + event.spreadCost + event.slippageCost := by
    rw [hcosts.total]
    ring
  apply (PaperFillLogEntry.stamping.validate_sealed _).mpr
  apply (PaperFillLogEntry.validateFields_eq_ok_iff _).mpr
  exact ⟨hcosts.runId, ⟨hfill.price_pos, hquantity, hremaining, one_pos, heffective,
    hquantity.le, hnotional, add_nonneg hfee zero_le_one, hspread, hslippage,
    add_nonneg htotal zero_le_one⟩, hfilled, hcosts.model, hfill.effective_eq,
    (one_mul _).symm, hfill.effective_notional_eq, hsum⟩

theorem unitPriceRow_validate {fill : FillAttribution} (hvalid : event.validate = .ok ())
    (hfilled : event.status.isFilled = true) (hfill : ValidFill event fill) :
    (unitPriceRow gatewayReport event fill).validate = .ok () := by
  apply ((PaperTcaRow.stampingIn .context).validate_sealed _).mpr
  exact tcaRowDraft_validateFields none hvalid hfilled hfill.quantity_pos hfill.price_pos one_pos

/-! ## The records pass the comparisons -/

omit [Sha256] in
theorem citesEventAndDecision_self : citesEventAndDecision event event.gatewayEventId
    event.gatewayEventHash event.traceId event.sourceDecisionId = true := by
  simp [citesEventAndDecision, citesEvent]

theorem orderLogOver_matches :
    validatePaperOrderLogMatchesGateway event (orderLogOver gatewayReport event) = .ok () := by
  apply (raiseOnMismatches_eq_ok_iff _ _).mpr
  simp [orderLogOver, Library.Stamping.sealed, PaperOrderLifecycleLogEntry.stamping, orderLogDraft,
    AwareDatetime.sameInstant]

theorem rejectionLogOver_matches :
    validatePaperRejectionLogMatchesGateway event (rejectionLogOver gatewayReport event) =
      .ok () := by
  apply (raiseOnMismatches_eq_ok_iff _ _).mpr
  simp [rejectionLogOver, Library.Stamping.sealed, PaperRejectionLogEntry.stamping,
    rejectionLogDraft, AwareDatetime.sameInstant]

theorem overchargedFillLog_matches {fill : FillAttribution} (hfill : ValidFill event fill) :
    validatePaperFillLogMatchesGateway event (overchargedFillLog gatewayReport event fill) =
      .ok () := by
  apply (raiseOnMismatches_eq_ok_iff _ _).mpr
  simp [overchargedFillLog, Library.Stamping.sealed, PaperFillLogEntry.stamping, fillLogDraft,
    hfill.gatewayOrderId, hfill.replayOrderResultId]

theorem unitPriceRow_matches {fill : FillAttribution} (hfill : ValidFill event fill) :
    validatePaperTcaRowMatchesGateway event (unitPriceRow gatewayReport event fill) = .ok () := by
  apply (raiseOnMismatches_eq_ok_iff _ _).mpr
  simp [unitPriceRow, rowOver, Library.Stamping.sealed, PaperTcaRow.stampingIn, tcaRowDraft,
    FillAttribution.forRow, hfill.gatewayOrderId, AwareDatetime.sameInstant]

theorem issueOver_matches (code : PaperTcaIssueCode) (message : String) :
    validatePaperTcaIssueMatchesGateway event (issueOver gatewayReport event code message) =
      .ok () := by
  apply (raiseOnMismatches_eq_ok_iff _ _).mpr
  simp [issueOver, Library.Stamping.sealed, PaperTcaIssue.stamping, tcaIssueDraft]

/-- A session over the order log of an event and matching further logs fits the event. -/
theorem logsFit_of_logs {paper : PaperAccountSessionReport}
    (hid : paper.gatewayReportId = gatewayReport.gatewayReportId)
    (hhash : paper.gatewayReportHash = gatewayReport.gatewayReportHash)
    (hlogs : paper.orderLogs = [orderLogOver gatewayReport event])
    (hfills : ∀ log ∈ paper.fillLogs, validatePaperFillLogMatchesGateway event log = .ok ())
    (hrejections : ∀ log ∈ paper.rejectionLogs,
      validatePaperRejectionLogMatchesGateway event log = .ok ())
    (hfilled : event.status.isFilled = true → ∃ log ∈ paper.fillLogs, citesEventAndDecision event
      log.gatewayEventId log.gatewayEventHash log.traceId log.sourceDecisionId = true)
    (hnot : event.status.isFilled = false → ∃ log ∈ paper.rejectionLogs,
      citesEventAndDecision event log.gatewayEventId log.gatewayEventHash log.traceId
        log.sourceDecisionId = true) :
    LogsFit gatewayReport event paper := by
  have horder : linkedOrderLogs event paper = [orderLogOver gatewayReport event] := by
    rw [linkedOrderLogs, hlogs]
    apply List.filter_eq_self.mpr
    intro log hlog
    rw [List.mem_singleton.mp hlog]
    exact citesEventAndDecision_self
  refine ⟨hid, hhash, ?_, ?_, ?_, ?_, ?_, ?_⟩
  · rw [horder]
    rfl
  · intro h
    obtain ⟨log, hlog, hcites⟩ := hfilled h
    exact List.ne_nil_of_mem (List.mem_filter.mpr ⟨hlog, hcites⟩)
  · intro h
    obtain ⟨log, hlog, hcites⟩ := hnot h
    exact List.ne_nil_of_mem (List.mem_filter.mpr ⟨hlog, hcites⟩)
  · intro entry hentry
    rw [horder] at hentry
    rw [List.mem_singleton.mp hentry]
    exact orderLogOver_matches
  · intro entry hentry
    exact hfills entry (List.mem_of_mem_filter hentry)
  · intro entry hentry
    exact hrejections entry (List.mem_of_mem_filter hentry)

omit [Sha256] in
/-- A TCA report over matching rows and issues of an event fits the event. -/
theorem tcaFits_of_rows {tca : PaperTcaReport}
    (hid : tca.gatewayReportId = gatewayReport.gatewayReportId)
    (hhash : tca.gatewayReportHash = gatewayReport.gatewayReportHash)
    (hrows : ∀ row ∈ tca.rows, validatePaperTcaRowMatchesGateway event row = .ok ())
    (hissues : ∀ issue ∈ tca.issues, validatePaperTcaIssueMatchesGateway event issue = .ok ())
    (hfilled : event.status.isFilled = true → ∃ row ∈ tca.rows, citesEventAndDecision event
      row.gatewayEventId row.gatewayEventHash row.traceId row.sourceDecisionId = true)
    (hnot : event.status.isFilled = false → ∃ issue ∈ tca.issues,
      citesEvent event issue.gatewayEventId issue.gatewayEventHash issue.traceId = true) :
    TcaFits gatewayReport event tca := by
  refine ⟨hid, hhash, ?_, ?_, ?_, ?_⟩
  · intro h
    obtain ⟨row, hrow, hcites⟩ := hfilled h
    exact List.ne_nil_of_mem (List.mem_filter.mpr ⟨hrow, hcites⟩)
  · intro h
    obtain ⟨issue, hissue, hcites⟩ := hnot h
    exact List.ne_nil_of_mem (List.mem_filter.mpr ⟨hissue, hcites⟩)
  · intro row hrow
    exact hrows row (List.mem_of_mem_filter hrow)
  · intro issue hissue
    exact hissues issue (List.mem_of_mem_filter hissue)

/-! ## Reports for a filled and for an unfilled event -/

/-- The reports of an event that an envelope accepts. -/
structure AcceptedReports (decision : StrategyDecision) (orderIntent : OrderIntent)
    (riskEvent : RiskCheckEvent) (gatewayReport : ExecutionGatewayReport)
    (event : ExecutionGatewayLifecycleEvent) (paper : PaperAccountSessionReport)
    (tca : PaperTcaReport) : Prop where
  paper_valid : paper.validate = .ok ()
  tca_valid : tca.validate = .ok ()
  linked : OrderLinked decision ⟨orderIntent, riskEvent, gatewayReport, paper, tca⟩ event

/-- For every filled event there are valid reports that an envelope accepts although the fill log
has another fee than the event. -/
theorem exists_overcharged_reports (hvalid : gatewayReport.validate = .ok ())
    (hmatched : OrderMatched decision orderIntent riskEvent gatewayReport event)
    (hfilled : event.status.isFilled = true) :
    ∃ paper tca, AcceptedReports decision orderIntent riskEvent gatewayReport event paper tca ∧
      ∃ log ∈ linkedFillLogs event paper, log.feeCost = event.feeCost + 1 := by
  obtain ⟨heventValid, hrun⟩ := event_of_validReport hvalid hmatched.event_eq
  obtain ⟨fill, -, hfill⟩ := validFill_of_valid heventValid hfilled
  have hnot : event.status.isFilled ≠ false := by
    rw [hfilled]
    nofun
  have horder := Library.Stamping.validate_of_construct _
    (@makeOrderLifecycleLogEntry_ok _ gatewayReport event heventValid)
  refine ⟨sessionOver gatewayReport [orderLogOver gatewayReport event]
    [overchargedFillLog gatewayReport event fill] [],
    tcaOver gatewayReport [unitPriceRow gatewayReport event fill] [], ⟨?_, ?_, hmatched, ?_, ?_, rfl⟩,
    overchargedFillLog gatewayReport event fill, ?_, rfl⟩
  · apply sessionOver_validate hvalid
    · intro log hlog
      rw [List.mem_singleton.mp hlog]
      exact ⟨horder, hrun, rfl, rfl⟩
    · intro log hlog
      rw [List.mem_singleton.mp hlog]
      exact ⟨overchargedFillLog_validate heventValid hfilled hfill, hrun, rfl, rfl⟩
    · intro record hrecord
      cases hrecord
  · apply tcaOver_validate hvalid
    · intro row hrow
      rw [List.mem_singleton.mp hrow]
      exact ⟨unitPriceRow_validate heventValid hfilled hfill, hrun, rfl, rfl⟩
    · intro record hrecord
      cases hrecord
  · apply logsFit_of_logs rfl rfl rfl
    · intro log hlog
      rw [List.mem_singleton.mp hlog]
      exact overchargedFillLog_matches hfill
    · intro record hrecord
      cases hrecord
    · intro _
      exact ⟨_, List.mem_singleton_self _, citesEventAndDecision_self⟩
    · intro h
      exact absurd h hnot
  · apply tcaFits_of_rows rfl rfl
    · intro row hrow
      rw [List.mem_singleton.mp hrow]
      exact unitPriceRow_matches hfill
    · intro record hrecord
      cases hrecord
    · intro _
      exact ⟨_, List.mem_singleton_self _, citesEventAndDecision_self⟩
    · intro h
      exact absurd h hnot
  · exact List.mem_filter.mpr ⟨List.mem_singleton_self _, citesEventAndDecision_self⟩

/-- For every event without a fill there are valid reports that an envelope accepts. -/
theorem exists_reports_of_unfilled (hvalid : gatewayReport.validate = .ok ())
    (hmatched : OrderMatched decision orderIntent riskEvent gatewayReport event)
    (hnot : event.status.isFilled = false) :
    ∃ paper tca, AcceptedReports decision orderIntent riskEvent gatewayReport event paper tca := by
  obtain ⟨heventValid, hrun⟩ := event_of_validReport hvalid hmatched.event_eq
  have hfilled : event.status.isFilled ≠ true := by
    rw [hnot]
    nofun
  obtain ⟨⟨code, message⟩, hissue⟩ : ∃ content, issueOf none event.status = some content := by
    apply Option.ne_none_iff_exists'.mp
    intro hnone
    have hsome := (issueOf_eq_none_iff none event.status).mp hnone
    simp at hsome
  have horder := Library.Stamping.validate_of_construct _
    (@makeOrderLifecycleLogEntry_ok _ gatewayReport event heventValid)
  have hrejection : (rejectionLogOver gatewayReport event).validate = .ok () := by
    have hmake := @makeRejectionLogEntry_ok _ gatewayReport event heventValid hnot
    simp only [makeRejectionLogEntry, check_bind_eq_ok_iff] at hmake
    exact Library.Stamping.validate_of_construct _ hmake.2
  have hissueValid := Library.Stamping.validate_of_construct _
    (@makeTcaIssue_ok _ gatewayReport event none code message heventValid hissue)
  refine ⟨sessionOver gatewayReport [orderLogOver gatewayReport event] []
    [rejectionLogOver gatewayReport event],
    tcaOver gatewayReport [] [issueOver gatewayReport event code message],
    ⟨?_, ?_, hmatched, ?_, ?_, rfl⟩⟩
  · apply sessionOver_validate hvalid
    · intro log hlog
      rw [List.mem_singleton.mp hlog]
      exact ⟨horder, hrun, rfl, rfl⟩
    · intro record hrecord
      cases hrecord
    · intro log hlog
      rw [List.mem_singleton.mp hlog]
      exact ⟨hrejection, hrun, rfl, rfl⟩
  · apply tcaOver_validate hvalid
    · intro record hrecord
      cases hrecord
    · intro issue hmem
      rw [List.mem_singleton.mp hmem]
      exact ⟨hissueValid, hrun, rfl, rfl⟩
  · apply logsFit_of_logs rfl rfl rfl
    · intro record hrecord
      cases hrecord
    · intro log hlog
      rw [List.mem_singleton.mp hlog]
      exact rejectionLogOver_matches
    · intro h
      exact absurd h hfilled
    · intro _
      exact ⟨_, List.mem_singleton_self _, citesEventAndDecision_self⟩
  · apply tcaFits_of_rows rfl rfl
    · intro record hrecord
      cases hrecord
    · intro issue hmem
      rw [List.mem_singleton.mp hmem]
      exact issueOver_matches code message
    · intro h
      exact absurd h hfilled
    · intro _
      refine ⟨_, List.mem_singleton_self _, ?_⟩
      simp [citesEvent, issueOver, Library.Stamping.sealed, PaperTcaIssue.stamping, tcaIssueDraft]

/-! ## When the amounts are pinned -/

/-- The chain holds in every envelope over valid paper and TCA reports. -/
def AmountsPinned (forecast : Forecast) (decision : StrategyDecision) (orderIntent : OrderIntent)
    (riskEvent : RiskCheckEvent) (gatewayReport : ExecutionGatewayReport) : Prop :=
  ∀ paper tca, paper.validate = .ok () → tca.validate = .ok () →
    ChainHolds forecast decision ⟨orderIntent, riskEvent, gatewayReport, paper, tca⟩

/-- The amounts of an order are pinned, whatever valid paper and TCA reports go with it, exactly
when its gateway event has no fill and no more is approved than requested; where the linked logs
and rows are those of the builders, the latter is enough. -/
theorem envelope_economics_iff (forecast : Forecast) (decision : StrategyDecision)
    (orderIntent : OrderIntent) (riskEvent : RiskCheckEvent)
    (gatewayReport : ExecutionGatewayReport) (hvalid : gatewayReport.validate = .ok ()) :
    (AmountsPinned forecast decision orderIntent riskEvent gatewayReport ↔
      (validateForecastDecisionLineage forecast decision = .ok () →
        ∀ event, OrderMatched decision orderIntent riskEvent gatewayReport event →
          event.status.isFilled = false ∧ ApprovedWithinRequest riskEvent orderIntent)) ∧
    ∀ paper tca, ApprovedWithinRequest riskEvent orderIntent →
      (∀ event, matchingGatewayEvent gatewayReport riskEvent decision = .ok event →
        BuilderEvidence gatewayReport event paper tca) →
      ChainHolds forecast decision ⟨orderIntent, riskEvent, gatewayReport, paper, tca⟩ := by
  refine ⟨⟨?_, ?_⟩, ?_⟩
  · intro hpinned hlineage event hmatched
    cases hfilled : event.status.isFilled with
    | false =>
        obtain ⟨paper, tca, haccepted⟩ := exists_reports_of_unfilled hvalid hmatched hfilled
        have hchain := hpinned paper tca haccepted.paper_valid haccepted.tca_valid _ event
          (makeDecisionTraceEnvelope_order_iff.mpr ⟨hlineage, event, haccepted.linked, rfl⟩)
          hmatched.event_eq
        exact ⟨rfl, (gatewayQuantity_le_iff hmatched).mp hchain.gateway_le_proposed⟩
    | true =>
        -- the overcharged log contradicts the chain
        obtain ⟨paper, tca, haccepted, log, hlog, hfee⟩ :=
          exists_overcharged_reports hvalid hmatched hfilled
        have hchain := hpinned paper tca haccepted.paper_valid haccepted.tca_valid _ event
          (makeDecisionTraceEnvelope_order_iff.mpr ⟨hlineage, event, haccepted.linked, rfl⟩)
          hmatched.event_eq
        obtain ⟨-, -, hsame, -⟩ := hchain.fillLogs log hlog
        rw [hfee] at hsame
        linarith
  · intro hcondition paper tca hpaper htca envelope event henvelope hevent
    obtain ⟨hlineage, event', hlinked, -⟩ := makeDecisionTraceEnvelope_order_iff.mp henvelope
    obtain rfl : event' = event := Except.ok.inj (hlinked.matched.event_eq.symm.trans hevent)
    obtain ⟨hnot, hwithin⟩ := hcondition hlineage event' hlinked.matched
    obtain ⟨heventValid, -⟩ := event_of_validReport hvalid hevent
    refine ⟨(gatewayQuantity_le_iff hlinked.matched).mpr hwithin,
      filledQuantity_le_gatewayQuantity heventValid, ?_, ?_⟩
    · -- an event without a fill has no linked fill log
      intro log hlog
      rw [linkedFillLogs_eq_nil hpaper hlinked.logs hnot] at hlog
      cases hlog
    · intro row hrow
      rw [linkedRows_eq_nil htca hlinked.tca hnot] at hrow
      cases hrow
  · intro paper tca hwithin hbuilders envelope event henvelope hevent
    obtain ⟨-, event', hlinked, -⟩ := makeDecisionTraceEnvelope_order_iff.mp henvelope
    obtain rfl : event' = event := Except.ok.inj (hlinked.matched.event_eq.symm.trans hevent)
    obtain ⟨heventValid, -⟩ := event_of_validReport hvalid hevent
    obtain ⟨hfills, hrows⟩ := amounts_of_builders heventValid (hbuilders event' hevent)
    exact ⟨(gatewayQuantity_le_iff hlinked.matched).mpr hwithin,
      filledQuantity_le_gatewayQuantity heventValid, hfills, hrows⟩

end Chain

/-! ## A traced buy -/

section TracedBuy

variable [Sha256]

/-- The market order of `boughtDecision`. -/
def tracedBuy : OrderIntent :=
  { marketOrder (buildOrderIntentClientOrderId boughtDecision (minute 0) .market none) "BTC-USD"
      .buy ⟨1, Decimal.zero_lt_one⟩ 0 with
    traceId := boughtDecision.traceId, sourceDecisionId := boughtDecision.decisionId }

theorem tracedBuy_matches :
    validateOrderIntentMatchesDecision tracedBuy boughtDecision = .ok () := by
  simp only [validateOrderIntentMatchesDecision, check_bind_eq_ok_iff, require_eq_ok_iff]
  have hsubmitted : (⟨0, 0⟩ : AwareDatetime) ≤ minute 0 := by decide
  exact ⟨rfl, rfl, rfl, rfl, rfl, rfl, hsubmitted, rfl⟩

/-- The risk request of the traced buy, under a kill-switch state. -/
def tracedRequest (state : KillSwitchState) : RiskCheckRequest :=
  marketRequest loosestLimits state tracedBuy {} {}

theorem tracedRequest_valid (state : KillSwitchState) : (tracedRequest state).validate = .ok () :=
  marketRequest_valid (ok_unit_of_toBool _ (by decide)) state (le_refl _)
    List.mem_cons_self {} {}

/-- The risk event of the engine for the traced buy. -/
def tracedRisk (state : KillSwitchState) : RiskCheckEvent :=
  RiskCheckEvent.stamping.sealed (eventDraft (tracedRequest state) marketPolicy)

theorem tracedRisk_valid (state : KillSwitchState) : (tracedRisk state).validate = .ok () :=
  (RiskCheckEvent.stamping.validate_sealed _).mpr
    (eventDraft_validateFields _ _ (tracedRequest_valid state))

/-- The replay result of a buy of 1 coin at 100 USD without costs. -/
def boughtResult : ReplayOrderResult :=
  { replayOrderResultId := "RESULT", clientOrderId := "ORDER-1", traceId := "TRACE",
    sourceDecisionId := "DECISION", instrumentId := "BTC-USD", venueId := "VENUE", side := .buy, orderType := .market,
    quantity := 1, submittedAt := minute 0, status := .filled, fillPrice := some 100,
    filledQuantity := 1, fillEventOpenTs := some (minute 0), fillEventCloseTs := some (minute 1),
    fillEventSourceTs := some (minute 1), fillRawPayloadId := some "RAW",
    arrivalReferencePrice := some 100, effectiveFillPrice := some 100, referenceNotional := 100,
    effectiveNotional := 100 }

/-- The gateway event of that result. -/
def boughtEvent : ExecutionGatewayLifecycleEvent :=
  ExecutionGatewayLifecycleEvent.stamping.sealed
    (ExecutionGatewayLifecycleEvent.replayDraft .paper .paperSimulatedFill "RUN"
      (tracedRisk .clear) tracedBuy boughtResult (gatewayRequirements .paper))

/-- The paper gateway report of that event. -/
def boughtReport : ExecutionGatewayReport :=
  ExecutionGatewayReport.stamping.sealed
    { gatewayReportId := "", gatewayReportHash := "", runId := "RUN", gatewayKind := .paper,
      fillMode := .paperSimulatedFill, riskCheckIds := [(tracedRisk .clear).riskCheckId],
      approvedRiskCheckIds := [(tracedRisk .clear).riskCheckId], blockedRiskCheckIds := [],
      gatewayEventIds := [boughtEvent.gatewayEventId], events := [boughtEvent],
      sourceRiskGatedReplayResultId := "GATED",
      sourceRiskGatedReplayResultHash := Contracts.hash .null,
      sourceReplayReportId := some "REPLAY",
      sourceReplayReportHash := some (Contracts.hash .null),
      sourceReplayFinalAccountStateId := none, sourceReplayFinalAccountStateHash := none,
      sourceReplayFinalAccountState := none, requirementIds := gatewayRequirements .paper }

theorem boughtEvent_valid (happroved : (riskDecision (tracedRequest .clear) marketPolicy).1 =
    .approved) : boughtEvent.validate = .ok () := by
  have hdecision : boughtEvent.riskDecision.isApproval = true := by
    show (riskDecision (tracedRequest .clear) marketPolicy).1.isApproval = true
    rw [happroved]
    rfl
  apply (ExecutionGatewayLifecycleEvent.stamping.validate_sealed _).mpr
  exact replayDraft_validateFields (by decide) hdecision
    (ok_unit_of_toBool _ (by decide +kernel)) rfl

theorem boughtReport_valid (hevent : boughtEvent.validate = .ok ()) :
    boughtReport.validate = .ok () := by
  have honly : ∀ e ∈ [boughtEvent], e = boughtEvent := by
    intro e he
    exact List.mem_singleton.mp he
  have hrun : isCanonicalId "RUN" = true := by decide
  apply (ExecutionGatewayReport.stamping.validate_sealed _).mpr
  apply (ExecutionGatewayReport.validateFields_eq_ok_iff _).mpr
  refine ⟨hrun, ?_, rfl, rfl, rfl, rfl, rfl, ?_, ?_, ?_, ?_, ⟨nofun, nofun⟩, rfl,
    fun _ => nofun, nofun⟩
  · intro e he
    rw [honly e he]
    exact hevent
  · exact ⟨rfl, fun id hid => hid, fun id hid => hid⟩
  · intro e he
    rw [honly e he]
    rfl
  · intro e he
    rw [honly e he]
    exact ⟨rfl, rfl⟩
  · intro e he
    rw [honly e he]
    rfl

/-- An approved buy is approved as requested. -/
theorem tracedRisk_intent (happroved : (riskDecision (tracedRequest .clear) marketPolicy).1 =
    .approved) : (tracedRisk .clear).approvedOrderIntent = some tracedBuy := by
  show (riskDecision (tracedRequest .clear) marketPolicy).2 = some tracedBuy
  have hsome := riskDecision_isApproval (tracedRequest .clear) marketPolicy
  rw [happroved] at hsome
  obtain ⟨approved, hintent⟩ := Option.isSome_iff_exists.mp hsome.symm
  obtain ⟨-, ⟨-, horder⟩ | ⟨-, hcapped, -⟩⟩ :=
    riskDecision_approval (Prod.ext happroved hintent)
  · rw [hintent, horder]
    rfl
  · cases hcapped

theorem tracedBuy_matched (happroved : (riskDecision (tracedRequest .clear) marketPolicy).1 =
    .approved) :
    OrderMatched boughtDecision tracedBuy (tracedRisk .clear) boughtReport boughtEvent := by
  have hintent := tracedRisk_intent happroved
  have hexpected : expectedGatewayIntent (tracedRisk .clear) = tracedBuy := by
    rw [expectedGatewayIntent, hintent]
    rfl
  have hself : sameOrderIntent (tracedRisk .clear).request.orderIntent tracedBuy = true := by
    show sameOrderIntent tracedBuy tracedBuy = true
    simp [sameOrderIntent, AwareDatetime.sameInstant]
  refine ⟨tracedBuy_matches, ?_, ?_, ?_⟩
  · simp only [validateRiskEventMatchesOrder, validateApprovedIntent, check_bind_eq_ok_iff,
      require_eq_ok_iff, forM_eq_ok_iff, hintent, Option.toList_some, List.forall_mem_singleton,
      raiseOnMismatches_eq_ok_iff]
    refine ⟨rfl, rfl, hself, rfl, rfl, ?_⟩
    simp [AwareDatetime.sameInstant]
  · apply matchingGatewayEvent_eq_ok_iff.mpr
    apply List.filter_eq_self.mpr
    intro e he
    rw [List.mem_singleton.mp he]
    have hids : boughtEvent.riskCheckId = (tracedRisk .clear).riskCheckId ∧
        boughtEvent.riskCheckHash = (tracedRisk .clear).riskCheckHash ∧
        boughtEvent.traceId = boughtDecision.traceId ∧
        boughtEvent.sourceDecisionId = boughtDecision.decisionId := ⟨rfl, rfl, rfl, rfl⟩
    simp only [isTraceEvent, hids, decide_true, Bool.and_self]
  · simp only [validateGatewayEventMatchesRiskOrder, hexpected, raiseOnMismatches_eq_ok_iff,
      List.forall_mem_cons, decide_eq_true_eq]
    refine ⟨rfl, rfl, rfl, rfl, rfl, ?_, rfl, rfl, rfl, rfl, rfl, List.forall_mem_nil _⟩
    simp [AwareDatetime.sameInstant, boughtEvent, Library.Stamping.sealed,
      ExecutionGatewayLifecycleEvent.stamping, ExecutionGatewayLifecycleEvent.replayDraft]

/-- Some accepted reports of the traced buy break the chain. -/
theorem tracedBuy_overcharged (happroved : (riskDecision (tracedRequest .clear) marketPolicy).1 =
    .approved) : ∃ paper tca, paper.validate = .ok () ∧ tca.validate = .ok () ∧
    ¬ ChainHolds sampleForecast boughtDecision
      ⟨tracedBuy, tracedRisk .clear, boughtReport, paper, tca⟩ := by
  have hmatched := tracedBuy_matched happroved
  obtain ⟨paper, tca, haccepted, log, hlog, hfee⟩ :=
    exists_overcharged_reports (boughtReport_valid (boughtEvent_valid happroved)) hmatched rfl
  refine ⟨paper, tca, haccepted.paper_valid, haccepted.tca_valid, ?_⟩
  intro hholds
  have hchain := hholds _ _ (makeDecisionTraceEnvelope_order_iff.mpr
    ⟨decisionOn_lineage _ _ _, _, haccepted.linked, rfl⟩) hmatched.event_eq
  obtain ⟨-, -, hsame, -⟩ := hchain.fillLogs log hlog
  rw [hfee] at hsame
  linarith

end TracedBuy

theorem tracedRisk_approved :
    (@riskDecision hashlibSha256 (@tracedRequest hashlibSha256 .clear) marketPolicy).1 =
      .approved := by
  decide +kernel

/-- The traced buy gets an envelope that links a fill log with another fee than its event. -/
theorem envelope_links_overcharged_fill :
    ¬ ∀ forecast decision orderIntent riskEvent gatewayReport paper tca,
      @Forecast.validate hashlibSha256 forecast = .ok () →
      @StrategyDecision.validate hashlibSha256 decision = .ok () →
      @RiskCheckEvent.validate hashlibSha256 riskEvent = .ok () →
      @ExecutionGatewayReport.validate hashlibSha256 gatewayReport = .ok () →
      @PaperAccountSessionReport.validate hashlibSha256 paper = .ok () →
      @PaperTcaReport.validate hashlibSha256 tca = .ok () →
      @ChainHolds hashlibSha256 forecast decision
        ⟨orderIntent, riskEvent, gatewayReport, paper, tca⟩ := by
  intro hclaim
  obtain ⟨paper, tca, hpaper, htca, hnot⟩ :=
    @tracedBuy_overcharged hashlibSha256 tracedRisk_approved
  have hreport := @boughtReport_valid hashlibSha256
    (@boughtEvent_valid hashlibSha256 tracedRisk_approved)
  exact hnot (hclaim _ _ _ _ _ paper tca (@sampleForecast_valid hashlibSha256)
    (@boughtDecision_valid hashlibSha256) (@tracedRisk_valid hashlibSha256 .clear) hreport hpaper
    htca)

/-- The amounts of the traced buy are not pinned. -/
theorem envelope_economics_iff_traced_buy :
    @ExecutionGatewayReport.validate hashlibSha256 (@boughtReport hashlibSha256) = .ok () ∧
    ¬ @AmountsPinned hashlibSha256 (@sampleForecast hashlibSha256) (@boughtDecision hashlibSha256)
      (@tracedBuy hashlibSha256) (@tracedRisk hashlibSha256 .clear)
      (@boughtReport hashlibSha256) := by
  have hreport := @boughtReport_valid hashlibSha256
    (@boughtEvent_valid hashlibSha256 tracedRisk_approved)
  refine ⟨hreport, ?_⟩
  intro hpinned
  have hcondition := (@envelope_economics_iff hashlibSha256 _ _ _ _ _ hreport).1.mp hpinned
    (@decisionOn_lineage hashlibSha256 _ _ _) _
    (@tracedBuy_matched hashlibSha256 tracedRisk_approved)
  cases hcondition.1

end TaModel.Audit
