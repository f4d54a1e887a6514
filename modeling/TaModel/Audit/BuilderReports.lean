import TaModel.Audit.Economics
import TaModel.Execution.PaperPartition

/-!
# Envelopes over the reports of the builders

The session and the TCA report that the builders make of a gateway report with one event fit that
event. An order that matches the event therefore gets an envelope (`orderLinked_of_builders`): the
checks of the envelope on paper evidence never refuse what the builders return.
-/

set_option autoImplicit false

namespace TaModel.Audit

open Contracts Execution

section Builders

variable [Sha256] {decision : StrategyDecision} {orderIntent : OrderIntent}
  {riskEvent : RiskCheckEvent} {gatewayReport : ExecutionGatewayReport}
  {event : ExecutionGatewayLifecycleEvent}

/-! ## The records of the builders match their event -/

omit [Sha256] in
theorem fillLogOf_matches {log : PaperFillLogEntry} (h : FillLogOf gatewayReport event log) :
    validatePaperFillLogMatchesGateway event log = .ok () := by
  apply (raiseOnMismatches_eq_ok_iff _ _).mpr
  simp [h.gatewayOrderId, h.runId, h.riskCheckId, h.riskCheckHash, h.clientOrderId, h.traceId,
    h.sourceDecisionId, h.instrumentId, h.venueId, h.side, h.orderType, h.status,
    h.replayOrderResultId]

omit [Sha256] in
theorem fillLogOf_cites {log : PaperFillLogEntry} (h : FillLogOf gatewayReport event log) :
    citesEventAndDecision event log.gatewayEventId log.gatewayEventHash log.traceId
      log.sourceDecisionId = true := by
  rw [h.gatewayEventId, h.gatewayEventHash, h.traceId, h.sourceDecisionId]
  exact citesEventAndDecision_self

omit [Sha256] in
theorem rowOf_matches {quotes : List QuoteEvent} {row : PaperTcaRow}
    (h : RowOf gatewayReport quotes event row) :
    validatePaperTcaRowMatchesGateway event row = .ok () := by
  apply (raiseOnMismatches_eq_ok_iff _ _).mpr
  simp [h.gatewayOrderId, h.runId, h.riskCheckId, h.riskCheckHash, h.clientOrderId, h.traceId,
    h.sourceDecisionId, h.instrumentId, h.venueId, h.side, h.status, h.submittedAt,
    AwareDatetime.sameInstant]

omit [Sha256] in
theorem rowOf_cites {quotes : List QuoteEvent} {row : PaperTcaRow}
    (h : RowOf gatewayReport quotes event row) :
    citesEventAndDecision event row.gatewayEventId row.gatewayEventHash row.traceId
      row.sourceDecisionId = true := by
  rw [h.gatewayEventId, h.gatewayEventHash, h.traceId, h.sourceDecisionId]
  exact citesEventAndDecision_self

omit [Sha256] in
theorem issueOf_matches {issue : PaperTcaIssue} (h : IssueOf gatewayReport event issue) :
    validatePaperTcaIssueMatchesGateway event issue = .ok () := by
  apply (raiseOnMismatches_eq_ok_iff _ _).mpr
  simp [h.runId, h.riskCheckId, h.clientOrderId, h.traceId, h.instrumentId, h.venueId, h.status]

omit [Sha256] in
theorem issueOf_cites {issue : PaperTcaIssue} (h : IssueOf gatewayReport event issue) :
    citesEvent event issue.gatewayEventId issue.gatewayEventHash issue.traceId = true := by
  rw [h.gatewayEventId, h.gatewayEventHash, h.traceId]
  simp [citesEvent]

/-! ## The reports of the builders fit the event -/

/-- A session report names its gateway report, and its order logs are those of the builder. -/
theorem session_of_builder {args : AccountStateArguments} {paper : PaperAccountSessionReport}
    (h : makePaperAccountSessionReport gatewayReport args = .ok paper) :
    paper.gatewayReportId = gatewayReport.gatewayReportId ∧
      paper.gatewayReportHash = gatewayReport.gatewayReportHash ∧
      gatewayReport.runId = paper.runId ∧
      List.Forall₂ (fun e log => log = orderLogOver gatewayReport e) gatewayReport.events
        paper.orderLogs ∧
      List.Forall₂ (fun e log => log = rejectionLogOver gatewayReport e)
        (gatewayReport.events.filter fun e => !e.status.isFilled) paper.rejectionLogs := by
  simp only [makePaperAccountSessionReport, bind_eq_ok_iff, mapM_eq_ok_iff] at h
  obtain ⟨_, -, _, -, _, -, orderLogs, horder, fillLogs, -, rejectionLogs, hrejections, _, -,
    hconstruct⟩ := h
  obtain ⟨-, rfl⟩ := (Library.Stamping.construct_eq_ok_iff _ _ _).mp hconstruct
  exact ⟨rfl, rfl, rfl, horder.imp fun _ _ hmake => (orderLog_of_builder hmake).2,
    hrejections.imp fun _ _ hmake => (rejectionLog_of_builder hmake).2⟩

theorem logsFit_of_builder {args : AccountStateArguments} {paper : PaperAccountSessionReport}
    (hvalid : event.validate = .ok ()) (hone : gatewayReport.events = [event])
    (h : makePaperAccountSessionReport gatewayReport args = .ok paper) :
    LogsFit gatewayReport event paper := by
  obtain ⟨hid, hhash, -, horder, hrejections⟩ := session_of_builder h
  have hevents : ∀ e ∈ gatewayReport.events, e.validate = .ok () := by
    intro e he
    rw [hone] at he
    rwa [List.mem_singleton.mp he]
  have hfills := (sessionPartition_of_builder hevents h).fillLogs
  rw [filledEvents, hone] at hfills
  rw [hone] at horder hrejections
  have hlogs : paper.orderLogs = [orderLogOver gatewayReport event] := by
    generalize paper.orderLogs = logs at horder
    cases horder with
    | cons hlog hrest =>
        cases hrest
        rw [hlog]
  -- every fill and rejection log is one of the only event
  have hfillLogs : ∀ log ∈ paper.fillLogs, FillLogOf gatewayReport event log := by
    intro log hlog
    obtain ⟨e, he, hof⟩ := Library.exists_of_mem_right hfills hlog
    rwa [List.mem_singleton.mp (List.mem_of_mem_filter he)] at hof
  have hrejectionLogs : ∀ log ∈ paper.rejectionLogs, log = rejectionLogOver gatewayReport event := by
    intro log hlog
    obtain ⟨e, he, hmake⟩ := Library.exists_of_mem_right hrejections hlog
    rwa [List.mem_singleton.mp (List.mem_of_mem_filter he)] at hmake
  apply logsFit_of_logs hid hhash hlogs
  · intro log hlog
    exact fillLogOf_matches (hfillLogs log hlog)
  · intro log hlog
    rw [hrejectionLogs log hlog]
    exact rejectionLogOver_matches
  · intro hfilled
    have hmem : event ∈ [event].filter fun e => e.status.isFilled :=
      List.mem_filter.mpr ⟨List.mem_singleton_self event, hfilled⟩
    obtain ⟨log, hlog, -⟩ := Library.exists_of_mem_right hfills.flip hmem
    exact ⟨log, hlog, fillLogOf_cites (hfillLogs log hlog)⟩
  · intro hnot
    have hmem : event ∈ [event].filter fun e => !e.status.isFilled :=
      List.mem_filter.mpr ⟨List.mem_singleton_self event, by rw [hnot]; rfl⟩
    obtain ⟨log, hlog, -⟩ := Library.exists_of_mem_right hrejections.flip hmem
    refine ⟨log, hlog, ?_⟩
    rw [hrejectionLogs log hlog]
    exact citesEventAndDecision_self

theorem tcaFits_of_builder {quotes : List QuoteEvent} {tca : PaperTcaReport}
    (hreport : PaperReport gatewayReport) (hone : gatewayReport.events = [event])
    (h : makePaperTcaReport gatewayReport quotes = .ok tca) : TcaFits gatewayReport event tca := by
  have hpartition := tcaPartition_of_builder (fun e he => (hreport.events e he).valid) h
  have hrows := hpartition.rows
  have hissues := hpartition.issues
  rw [filledEvents, hone] at hrows
  rw [issueEvents, hone] at hissues
  have hrowOf : ∀ row ∈ tca.rows, RowOf gatewayReport quotes event row := by
    intro row hrow
    obtain ⟨e, he, hof⟩ := Library.exists_of_mem_right hrows hrow
    rwa [List.mem_singleton.mp (List.mem_of_mem_filter he)] at hof
  have hissueOf : ∀ issue ∈ tca.issues, IssueOf gatewayReport event issue := by
    intro issue hissue
    obtain ⟨e, he, hof⟩ := Library.exists_of_mem_right hissues hissue
    rwa [List.mem_singleton.mp (List.mem_of_mem_filter he)] at hof
  simp only [makePaperTcaReport, bind_eq_ok_iff] at h
  obtain ⟨_, -, _, -, _, -, hconstruct⟩ := h
  obtain ⟨-, hdraft⟩ := (Library.Stamping.construct_eq_ok_iff _ _ _).mp hconstruct
  apply tcaFits_of_rows
  · rw [hdraft]
    rfl
  · rw [hdraft]
    rfl
  · intro row hrow
    exact rowOf_matches (hrowOf row hrow)
  · intro issue hissue
    exact issueOf_matches (hissueOf issue hissue)
  · intro hfilled
    have hmem : event ∈ [event].filter fun e => e.status.isFilled :=
      List.mem_filter.mpr ⟨List.mem_singleton_self event, hfilled⟩
    obtain ⟨row, hrow, -⟩ := Library.exists_of_mem_right hrows.flip hmem
    exact ⟨row, hrow, rowOf_cites (hrowOf row hrow)⟩
  · intro hnot
    have hneeded : (!event.status.isFilled || (arrivalQuoteForEvent event quotes).isNone) = true := by
      rw [hnot]
      rfl
    obtain ⟨issue, hissue, -⟩ := Library.exists_of_mem_right hissues.flip
      (List.mem_filter.mpr ⟨List.mem_singleton_self event, hneeded⟩)
    exact ⟨issue, hissue, issueOf_cites (hissueOf issue hissue)⟩

/-- An order that matches the only event of a paper report is linked to the reports that the
builders make of it. -/
theorem orderLinked_of_builders {args : AccountStateArguments} {quotes : List QuoteEvent}
    {paper : PaperAccountSessionReport} {tca : PaperTcaReport}
    (hreport : PaperReport gatewayReport) (hone : gatewayReport.events = [event])
    (hmatched : OrderMatched decision orderIntent riskEvent gatewayReport event)
    (hpaper : makePaperAccountSessionReport gatewayReport args = .ok paper)
    (htca : makePaperTcaReport gatewayReport quotes = .ok tca) :
    OrderLinked decision ⟨orderIntent, riskEvent, gatewayReport, paper, tca⟩ event := by
  have hvalid : event.validate = .ok () := by
    apply (hreport.events event _).valid
    rw [hone]
    exact List.mem_singleton_self event
  exact ⟨hmatched, logsFit_of_builder hvalid hone hpaper, tcaFits_of_builder hreport hone htca,
    (session_of_builder hpaper).2.2.1⟩

end Builders

end TaModel.Audit
