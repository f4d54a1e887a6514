import TaModel.Execution.PaperEvents

/-!
# The session and the TCA report partition a gateway report

Whatever the builders return over a report of the paper gateway has exactly the records of its
events: the order logs follow the events one to one, the fill logs and the rows follow the filled
events, the rejection logs the other ones, and the issues the events without a fill or without an
arrival quote; counts and totals are those of the events. On moderate amounts both builders return.
-/

set_option autoImplicit false

namespace TaModel.Execution

open Contracts Risk Simulation

/-! ## The session -/

section Session

variable [Sha256] {report : ExecutionGatewayReport}

/-- The logs of a paper report: all of them are built and pass their validators. -/
theorem logs_of_paperReport (hreport : PaperReport report) :
    ∃ orderLogs fillLogs rejectionLogs,
      report.events.mapM (makeOrderLifecycleLogEntry report) = .ok orderLogs ∧
      (filledEvents report).mapM (makeFillLogEntry report) = .ok fillLogs ∧
      (report.events.filter fun e => !e.status.isFilled).mapM (makeRejectionLogEntry report) =
        .ok rejectionLogs := by
  obtain ⟨orderLogs, horder⟩ : ∃ logs, List.Forall₂ (fun e log =>
      makeOrderLifecycleLogEntry report e = .ok log) report.events logs := by
    apply Library.exists_forall₂
    intro e he
    exact ⟨_, makeOrderLifecycleLogEntry_ok (hreport.events e he).valid⟩
  obtain ⟨fillLogs, hfills⟩ : ∃ logs, List.Forall₂ (fun e log =>
      makeFillLogEntry report e = .ok log) (filledEvents report) logs := by
    apply Library.exists_forall₂
    intro e he
    obtain ⟨hrun, hfilled, fill, hattribution, hfill, harrival⟩ :=
      validFill_of_filledEvents hreport e he
    exact ⟨_, makeFillLogEntry_ok hrun.valid hfilled hattribution hfill harrival⟩
  obtain ⟨rejectionLogs, hrejections⟩ : ∃ logs, List.Forall₂ (fun e log =>
      makeRejectionLogEntry report e = .ok log)
      (report.events.filter fun e => !e.status.isFilled) logs := by
    apply Library.exists_forall₂
    intro e he
    obtain ⟨hmem, hnot⟩ := List.mem_filter.mp he
    exact ⟨_, makeRejectionLogEntry_ok (hreport.events e hmem).valid (by simpa using hnot)⟩
  exact ⟨orderLogs, fillLogs, rejectionLogs, (mapM_eq_ok_iff _ _ _).mpr horder,
    (mapM_eq_ok_iff _ _ _).mpr hfills, (mapM_eq_ok_iff _ _ _).mpr hrejections⟩

theorem orderLog_of_builder {e : ExecutionGatewayLifecycleEvent}
    {log : PaperOrderLifecycleLogEntry} (h : makeOrderLifecycleLogEntry report e = .ok log) :
    log.validate = .ok () ∧ log = orderLogOver report e :=
  ⟨Library.Stamping.validate_of_construct _ h,
    ((Library.Stamping.construct_eq_ok_iff _ _ _).mp h).2⟩

theorem rejectionLog_of_builder {e : ExecutionGatewayLifecycleEvent}
    {log : PaperRejectionLogEntry} (h : makeRejectionLogEntry report e = .ok log) :
    log.validate = .ok () ∧ log = rejectionLogOver report e := by
  simp only [makeRejectionLogEntry, check_bind_eq_ok_iff] at h
  exact ⟨Library.Stamping.validate_of_construct _ h.2,
    ((Library.Stamping.construct_eq_ok_iff _ _ _).mp h.2).2⟩

/-- The fill log of a valid event is the one over its attribution. -/
theorem fillLog_of_builder {e : ExecutionGatewayLifecycleEvent} {log : PaperFillLogEntry}
    (hvalid : e.validate = .ok ()) (h : makeFillLogEntry report e = .ok log) :
    log.validate = .ok () ∧ ∃ fill, ValidFill e fill ∧
      log = PaperFillLogEntry.stamping.sealed (fillLogDraft report e fill) := by
  simp only [makeFillLogEntry, bind_eq_ok_iff, require_eq_ok_iff] at h
  obtain ⟨_, hfilled, fill, hattribution, hconstruct⟩ := h
  obtain ⟨fill', hattribution', hfill⟩ := validFill_of_valid hvalid hfilled
  obtain rfl : fill' = fill := Except.ok.inj (hattribution'.symm.trans hattribution)
  exact ⟨Library.Stamping.validate_of_construct _ hconstruct, fill', hfill,
    ((Library.Stamping.construct_eq_ok_iff _ _ _).mp hconstruct).2⟩

/-- A session draft over linked logs and resolved account states passes the validators. -/
theorem sessionDraft_validateFields {initialAccountState : Option SimulatedAccountState}
    {initialId initialHash : String} {final : ResolvedFinalState}
    {orderLogs : List PaperOrderLifecycleLogEntry} {fillLogs : List PaperFillLogEntry}
    {rejectionLogs : List PaperRejectionLogEntry} (hreport : PaperSource report)
    (hstates : ResolvedStates initialAccountState initialId initialHash final)
    (horder : ∀ log ∈ orderLogs, log.validate = .ok () ∧ log.runId = report.runId ∧
      log.gatewayReportId = report.gatewayReportId ∧
      log.gatewayReportHash = report.gatewayReportHash)
    (hfills : ∀ log ∈ fillLogs, log.validate = .ok () ∧ log.runId = report.runId ∧
      log.gatewayReportId = report.gatewayReportId ∧
      log.gatewayReportHash = report.gatewayReportHash)
    (hrejections : ∀ log ∈ rejectionLogs, log.validate = .ok () ∧ log.runId = report.runId ∧
      log.gatewayReportId = report.gatewayReportId ∧
      log.gatewayReportHash = report.gatewayReportHash) :
    (sessionDraft report initialAccountState initialId initialHash final orderLogs fillLogs
      rejectionLogs).validateFields = .ok () := by
  have hbounds : ∀ log ∈ fillLogs, log.FieldsInBounds := by
    intro log hlog
    obtain ⟨hfields, -⟩ :=
      (PaperFillLogEntry.stamping.validate_eq_ok_iff log).mp (hfills log hlog).1
    exact ((PaperFillLogEntry.validateFields_eq_ok_iff log).mp hfields).2.1
  have hsum : ∀ amount : PaperFillLogEntry → Decimal,
      (∀ log, log.FieldsInBounds → 0 ≤ amount log) →
        0 ≤ contextTotal (fillLogs.map amount) := by
    intro amount hamount
    apply contextTotal_nonneg
    intro q hq
    obtain ⟨log, hlog, rfl⟩ := List.mem_map.mp hq
    exact hamount log (hbounds log hlog)
  simp only [PaperAccountSessionReport.validateFields, check_bind_eq_ok_iff, require_eq_ok_iff,
    forM_eq_ok_iff, PaperAccountSessionReport.validateAccountStateLinkage_eq_ok_iff,
    PaperAccountSessionReport.validateLogsAndTotals,
    PaperAccountSessionReport.validateReportLinkage_eq_ok_iff]
  refine ⟨hreport.runId, ⟨hstates.initial_wellFormed.1, hstates.initial_wellFormed.2,
    hstates.final_wellFormed⟩, ?_, fun log hlog => (horder log hlog).1,
    fun log hlog => (hfills log hlog).1, fun log hlog => (hrejections log hlog).1, hreport.kind,
    hreport.mode, hreport.replay_linked, ⟨hstates.initial_linked, hstates.final_linked,
      hstates.same_account, hstates.replayed, hstates.unchanged⟩, rfl, rfl, rfl,
    ⟨fun log hlog => (horder log hlog).2, fun log hlog => (hfills log hlog).2,
      fun log hlog => (hrejections log hlog).2⟩, rfl, rfl, rfl, rfl, rfl, rfl, rfl, rfl, rfl, rfl,
    rfl⟩
  refine ⟨hsum _ ?_, hsum _ ?_, hsum _ ?_, hsum _ ?_, hsum _ ?_⟩
  · intro log hlog
    exact hlog.2.1.le
  · intro log hlog
    exact hlog.2.2.2.2.2.2.2.1
  · intro log hlog
    exact hlog.2.2.2.2.2.2.2.2.1
  · intro log hlog
    exact hlog.2.2.2.2.2.2.2.2.2.1
  · intro log hlog
    exact hlog.2.2.2.2.2.2.2.2.2.2

/-- A session that the builder returns has the records of the events. -/
theorem sessionPartition_of_builder {args : AccountStateArguments}
    {session : PaperAccountSessionReport} (hevents : ∀ e ∈ report.events, e.validate = .ok ())
    (h : makePaperAccountSessionReport report args = .ok session) :
    SessionPartition report session := by
  simp only [makePaperAccountSessionReport, bind_eq_ok_iff, mapM_eq_ok_iff] at h
  obtain ⟨_, -, _, -, _, -, orderLogs, horder, fillLogs, hfills, rejectionLogs, hrejections, _, -,
    hconstruct⟩ := h
  obtain ⟨-, rfl⟩ := (Library.Stamping.construct_eq_ok_iff _ _ _).mp hconstruct
  have horderOf : List.Forall₂ (OrderLogOf report) report.events orderLogs := by
    apply horder.imp
    intro e log hmake
    obtain ⟨-, rfl⟩ := orderLog_of_builder hmake
    exact orderLogOver_of
  have hfillOf : List.Forall₂ (FillLogOf report) (filledEvents report) fillLogs := by
    apply Library.forall₂_imp_of_mem hfills
    intro e he log hmake
    obtain ⟨-, fill, hfill, rfl⟩ :=
      fillLog_of_builder (hevents e (List.mem_of_mem_filter he)) hmake
    exact fillLog_of hfill
  have hrejectionOf : List.Forall₂ (RejectionLogOf report)
      (report.events.filter fun e => !e.status.isFilled) rejectionLogs := by
    apply hrejections.imp
    intro e log hmake
    obtain ⟨-, rfl⟩ := rejectionLog_of_builder hmake
    exact rejectionLogOver_of
  -- the totals are those of the filled events
  have htotal : ∀ (amount : PaperFillLogEntry → Decimal)
      (amountOf : ExecutionGatewayLifecycleEvent → Decimal),
      (∀ e log, FillLogOf report e log → amountOf e = amount log) →
      TotalOf ((filledEvents report).map amountOf) (contextTotal (fillLogs.map amount)) := by
    intro amount amountOf hsame
    rw [← Library.map_eq_of_forall₂ hfillOf hsame]
    exact totalOf_contextTotal _
  exact
    { orderLogs := horderOf
      fillLogs := hfillOf
      rejectionLogs := hrejectionOf
      total := horderOf.length_eq.symm
      filled := countStatus_of_logs horderOf _
      partiallyFilled := countStatus_of_logs horderOf _
      blocked := countStatus_of_logs horderOf _
      rejected := countStatus_of_logs horderOf _
      unfilled := countStatus_of_logs horderOf _
      counts := countStatus_sum orderLogs
      filledQuantity := htotal _ _ fun _ _ hlog => hlog.filledQuantity.symm
      fee := htotal _ _ fun _ _ hlog => hlog.feeCost.symm
      spread := htotal _ _ fun _ _ hlog => hlog.spreadCost.symm
      slippage := htotal _ _ fun _ _ hlog => hlog.slippageCost.symm
      cost := htotal _ _ fun _ _ hlog => hlog.totalCost.symm }

/-- Over a run with moderate fills the session is built. -/
theorem session_of_run {inputs : GatewayInputs} {events : List RiskCheckEvent}
    {args : AccountStateArguments} (h : runPaperGatewayReplay inputs events = .ok report)
    (hargs : SessionArguments inputs.startingAccountState args)
    (hmoderate : ∀ e ∈ filledEvents report, ModerateFill e) :
    ∃ session, makePaperAccountSessionReport report args = .ok session := by
  have hreport := paperReport_of_run h
  obtain ⟨initialId, initialHash, final, hinitial, hfinal, hstates⟩ :=
    resolvedStates_of_run (runGateway_finalAccount h) hargs
  obtain ⟨orderLogs, fillLogs, rejectionLogs, horder, hfills, hrejections⟩ :=
    logs_of_paperReport hreport
  have hfillLogs := (mapM_eq_ok_iff _ _ _).mp hfills
  have hfillOf : List.Forall₂ (FillLogOf report) (filledEvents report) fillLogs := by
    apply Library.forall₂_imp_of_mem hfillLogs
    intro e he log hmake
    obtain ⟨hrun, -⟩ := validFill_of_filledEvents hreport e he
    obtain ⟨-, fill, hfill, rfl⟩ := fillLog_of_builder hrun.valid hmake
    exact fillLog_of hfill
  have hvalid : (sessionDraft report args.initialAccountState initialId initialHash final orderLogs
      fillLogs rejectionLogs).validateFields = .ok () := by
    apply sessionDraft_validateFields hreport.toPaperSource hstates
    · intro log hlog
      obtain ⟨e, he, hmake⟩ := Library.exists_of_mem_right ((mapM_eq_ok_iff _ _ _).mp horder) hlog
      obtain ⟨hlogValid, rfl⟩ := orderLog_of_builder hmake
      exact ⟨hlogValid, (hreport.events e he).runId, rfl, rfl⟩
    · intro log hlog
      obtain ⟨e, he, hmake⟩ := Library.exists_of_mem_right hfillLogs hlog
      obtain ⟨hrun, -⟩ := validFill_of_filledEvents hreport e he
      obtain ⟨hlogValid, fill, -, rfl⟩ := fillLog_of_builder hrun.valid hmake
      exact ⟨hlogValid, hrun.runId, rfl, rfl⟩
    · intro log hlog
      obtain ⟨e, he, hmake⟩ :=
        Library.exists_of_mem_right ((mapM_eq_ok_iff _ _ _).mp hrejections) hlog
      obtain ⟨hlogValid, rfl⟩ := rejectionLog_of_builder hmake
      exact ⟨hlogValid, (hreport.events e (List.mem_of_mem_filter he)).runId, rfl, rfl⟩
  refine ⟨PaperAccountSessionReport.stamping.sealed (sessionDraft report args.initialAccountState
    initialId initialHash final orderLogs fillLogs rejectionLogs), ?_⟩
  simp only [makePaperAccountSessionReport]
  rw [requirePaperGatewayReport_ok hreport.toPaperSource, ok_bind, hinitial, ok_bind]
  dsimp only
  rw [hfinal, ok_bind, horder, ok_bind]
  rw [show (report.events.filter fun event => event.status.isFilled) = filledEvents report from
    rfl, hfills, ok_bind, hrejections, ok_bind, sessionSums_of_moderate hmoderate hfillOf, ok_bind]
  exact (PaperAccountSessionReport.stamping.construct_eq_ok_iff _ _).mpr ⟨hvalid, rfl⟩

end Session

/-! ## The TCA report -/

section Tca

variable [Sha256] {report : ExecutionGatewayReport}

/-- The row of a valid event is the one over its attribution. -/
theorem row_of_builder {e : ExecutionGatewayLifecycleEvent} {quote : Option QuoteEvent}
    {row : PaperTcaRow} (hvalid : e.validate = .ok ())
    (h : makeTcaRow .context report e quote = .ok row) :
    row.validate = .ok () ∧ ∃ fill, ValidFill e fill ∧
      row = rowOver .context report e quote fill := by
  simp only [makeTcaRow, bind_eq_ok_iff, require_eq_ok_iff] at h
  obtain ⟨_, hfilled, attribution, hattribution, amounts, hamounts, hconstruct⟩ := h
  obtain ⟨fill, -, hfill⟩ := validFill_of_valid hvalid hfilled
  rw [rowAttribution_of_validFill hfill] at hattribution
  cases hattribution
  obtain rfl := rowAmounts_ok hamounts
  exact ⟨Library.Stamping.validate_of_construct _ hconstruct, fill, hfill,
    ((Library.Stamping.construct_eq_ok_iff _ _ _).mp hconstruct).2⟩

theorem issue_of_builder {e : ExecutionGatewayLifecycleEvent} {code : PaperTcaIssueCode}
    {message : String} {issue : PaperTcaIssue}
    (h : makeTcaIssue report e code message = .ok issue) :
    issue.validate = .ok () ∧ issue = issueOver report e code message :=
  ⟨Library.Stamping.validate_of_construct _ h,
    ((Library.Stamping.construct_eq_ok_iff _ _ _).mp h).2⟩

omit [Sha256] in
/-- An event has an issue unless it is filled and has an arrival quote. -/
theorem issueOf_eq_none_iff (quote : Option QuoteEvent) (status : ExecutionGatewayOrderStatus) :
    issueOf quote status = none ↔ (!status.isFilled || quote.isNone) = false := by
  cases status <;> cases quote <;> simp [issueOf, ExecutionGatewayOrderStatus.isFilled]

/-- A row is made of the event. -/
def MakesRow (report : ExecutionGatewayReport) (quotes : List QuoteEvent)
    (e : ExecutionGatewayLifecycleEvent) (row : PaperTcaRow) : Prop :=
  makeTcaRow .context report e (arrivalQuoteForEvent e quotes) = .ok row

/-- An issue is made of the event. -/
def MakesIssue (report : ExecutionGatewayReport) (quotes : List QuoteEvent)
    (e : ExecutionGatewayLifecycleEvent) (issue : PaperTcaIssue) : Prop :=
  ∃ code message, issueOf (arrivalQuoteForEvent e quotes) e.status = some (code, message) ∧
    makeTcaIssue report e code message = .ok issue

/-- What one turn of the TCA loop returns for an event. -/
structure EntryOf (report : ExecutionGatewayReport) (quotes : List QuoteEvent)
    (e : ExecutionGatewayLifecycleEvent) (entry : Option PaperTcaRow × Option PaperTcaIssue) :
    Prop where
  row : (e.status.isFilled = false ∧ entry.1 = none) ∨
    ∃ row, e.status.isFilled = true ∧ entry.1 = some row ∧ MakesRow report quotes e row
  issue : ((!e.status.isFilled || (arrivalQuoteForEvent e quotes).isNone) = false ∧
      entry.2 = none) ∨
    ∃ issue, (!e.status.isFilled || (arrivalQuoteForEvent e quotes).isNone) = true ∧
      entry.2 = some issue ∧ MakesIssue report quotes e issue

theorem entryOf_of_tcaEntries {quotes : List QuoteEvent} {e : ExecutionGatewayLifecycleEvent}
    {entry : Option PaperTcaRow × Option PaperTcaIssue}
    (h : tcaEntries report quotes e = .ok entry) : EntryOf report quotes e entry := by
  obtain ⟨issue, hissue, hrest⟩ := (bind_eq_ok_iff _ _ _).mp h
  have hrow : (e.status.isFilled = false ∧ entry.1 = none) ∨
      ∃ row, e.status.isFilled = true ∧ entry.1 = some row ∧ MakesRow report quotes e row := by
    split_ifs at hrest with hfilled
    · obtain ⟨row, hmake, hentry⟩ := (bind_eq_ok_iff _ _ _).mp hrest
      cases hentry
      obtain ⟨r, hr, rfl⟩ := (map_eq_ok_iff _ _ _).mp hmake
      exact .inr ⟨r, hfilled, rfl, hr⟩
    · cases hrest
      exact .inl ⟨Bool.eq_false_iff.mpr hfilled, rfl⟩
  have hkept : entry.2 = issue := by
    split_ifs at hrest with hfilled
    · obtain ⟨row, -, hentry⟩ := (bind_eq_ok_iff _ _ _).mp hrest
      cases hentry
      rfl
    · cases hrest
      rfl
  refine ⟨hrow, ?_⟩
  rw [hkept]
  cases hneeded : issueOf (arrivalQuoteForEvent e quotes) e.status with
  | none =>
      rw [hneeded] at hissue
      cases hissue
      exact .inl ⟨(issueOf_eq_none_iff _ _).mp hneeded, rfl⟩
  | some content =>
      obtain ⟨code, message⟩ := content
      rw [hneeded, Option.mapM_some] at hissue
      obtain ⟨i, hi, rfl⟩ := (map_eq_ok_iff _ _ _).mp hissue
      refine .inr ⟨i, ?_, rfl, code, message, hneeded, hi⟩
      rw [← Bool.not_eq_false]
      intro hnot
      rw [(issueOf_eq_none_iff _ _).mpr hnot] at hneeded
      cases hneeded

/-- The loop keeps the rows of the filled events. -/
theorem rows_of_entries {quotes : List QuoteEvent}
    {entries : List (Option PaperTcaRow × Option PaperTcaIssue)}
    (h : report.events.mapM (tcaEntries report quotes) = .ok entries) :
    List.Forall₂ (MakesRow report quotes) (filledEvents report)
      (entries.filterMap Prod.fst) := by
  apply Library.forall₂_select ((mapM_eq_ok_iff _ _ _).mp h)
  intro e entry hentry
  exact (entryOf_of_tcaEntries hentry).row

/-- The loop keeps the issues of the events that need one. -/
theorem issues_of_entries {quotes : List QuoteEvent}
    {entries : List (Option PaperTcaRow × Option PaperTcaIssue)}
    (h : report.events.mapM (tcaEntries report quotes) = .ok entries) :
    List.Forall₂ (MakesIssue report quotes) (issueEvents report quotes)
      (entries.filterMap Prod.snd) := by
  apply Library.forall₂_select ((mapM_eq_ok_iff _ _ _).mp h)
  intro e entry hentry
  exact (entryOf_of_tcaEntries hentry).issue

omit [Sha256] in
/-- An optional step followed by one that never fails. -/
theorem option_mapM_bind_ok {α β γ : Type} {o : Option α} {f : α → Raises β}
    {g : Option β → Raises γ} (hf : ∀ a, o = some a → ∃ b, f a = .ok b)
    (hg : ∀ b, ∃ c, g b = .ok c) : ∃ c, (o.mapM f >>= g) = .ok c := by
  cases o with
  | none => exact hg none
  | some a =>
      obtain ⟨b, hb⟩ := hf a rfl
      obtain ⟨c, hc⟩ := hg (some b)
      refine ⟨c, ?_⟩
      rw [Option.mapM_some, (map_eq_ok_iff _ _ _).mpr ⟨b, hb, rfl⟩]
      exact hc

/-- One turn of the TCA loop succeeds on an event of a run whose amounts are moderate. -/
theorem tcaEntries_ok (hreport : PaperReport report)
    (hmoderate : ∀ e ∈ filledEvents report, ModerateFill e) {quotes : List QuoteEvent}
    (hquotes : ∀ q ∈ quotes, ModerateQuote q) {e : ExecutionGatewayLifecycleEvent}
    (he : e ∈ report.events) : ∃ entry, tcaEntries report quotes e = .ok entry := by
  have hrun := hreport.events e he
  refine option_mapM_bind_ok (fun content hneeded => ?_) fun issue => ?_
  · obtain ⟨code, message⟩ := content
    exact ⟨_, makeTcaIssue_ok hrun.valid hneeded⟩
  split_ifs with hfilled
  · have hmem : e ∈ filledEvents report := List.mem_filter.mpr ⟨he, hfilled⟩
    have hfillModerate := hmoderate e hmem
    obtain ⟨-, -, fill, -, hfill, harrival⟩ := validFill_of_filledEvents hreport e hmem
    obtain ⟨amounts, hamounts, -⟩ := rowAmounts_of_moderate hfillModerate
      (fun q hq => hquotes q (arrivalQuoteForEvent_mem hq))
      (hfillModerate.arrival _ hfill.arrivalReferencePrice)
      (hfillModerate.fillPrice _ hfill.fillPrice)
    rw [makeTcaRow_ok hrun.valid hfilled hfill harrival hamounts]
    exact ⟨_, rfl⟩
  · exact ⟨_, rfl⟩

/-- A report draft over linked rows and issues passes the validators. -/
theorem tcaReportDraft_validateFields {rows : List PaperTcaRow} {issues : List PaperTcaIssue}
    (hreport : PaperSource report)
    (hrows : ∀ row ∈ rows, row.validate = .ok () ∧ row.runId = report.runId ∧
      row.gatewayReportId = report.gatewayReportId ∧
      row.gatewayReportHash = report.gatewayReportHash)
    (hissues : ∀ issue ∈ issues, issue.validate = .ok () ∧ issue.runId = report.runId ∧
      issue.gatewayReportId = report.gatewayReportId ∧
      issue.gatewayReportHash = report.gatewayReportHash) :
    (tcaReportDraft report rows issues).validateFields = .ok () := by
  have hbounds : ∀ row ∈ rows, row.FieldsInBounds := by
    intro row hrow
    obtain ⟨hfields, -⟩ := (PaperTcaRow.stamping.validate_eq_ok_iff row).mp (hrows row hrow).1
    exact ((PaperTcaRow.validateFields_eq_ok_iff .context row).mp hfields).2.1
  have hsum : ∀ amount : PaperTcaRow → Decimal,
      (∀ row, row.FieldsInBounds → 0 ≤ amount row) → 0 ≤ contextTotal (rows.map amount) := by
    intro amount hamount
    apply contextTotal_nonneg
    intro q hq
    obtain ⟨row, hrow, rfl⟩ := List.mem_map.mp hq
    exact hamount row (hbounds row hrow)
  simp only [PaperTcaReport.validateFields, PaperTcaReport.validateLinkage, check_bind_eq_ok_iff,
    require_eq_ok_iff, forM_eq_ok_iff]
  refine ⟨hreport.runId, ⟨hsum _ ?_, hsum _ ?_⟩, fun row hrow => (hrows row hrow).1,
    fun issue hissue => (hissues issue hissue).1, hreport.kind, hreport.mode, rfl, rfl,
    fun row hrow => (hrows row hrow).2, fun issue hissue => (hissues issue hissue).2, rfl, rfl,
    rfl, rfl, rfl, rfl, rfl⟩
  · intro row hrow
    exact hrow.2.2.2.2.1
  · intro row hrow
    exact hrow.2.2.2.2.2.2.2.2

/-- A row that is made of a moderate fill is valid and bounded. -/
theorem boundedRow_of_makesRow (hmoderate : ∀ e ∈ filledEvents report, ModerateFill e)
    {quotes : List QuoteEvent} (hquotes : ∀ q ∈ quotes, ModerateQuote q)
    {e : ExecutionGatewayLifecycleEvent} (he : e ∈ filledEvents report)
    (hvalid : e.validate = .ok ()) {row : PaperTcaRow} (h : MakesRow report quotes e row) :
    BoundedRow row := by
  have hfillModerate := hmoderate e he
  obtain ⟨-, fill, hfill, rfl⟩ := row_of_builder hvalid h
  obtain ⟨amounts, hamounts, hbounded⟩ := rowAmounts_of_moderate hfillModerate
    (fun q hq => hquotes q (arrivalQuoteForEvent_mem hq))
    (hfillModerate.arrival _ hfill.arrivalReferencePrice)
    (hfillModerate.fillPrice _ hfill.fillPrice)
  obtain rfl := rowAmounts_ok hamounts
  exact ⟨abs_le_of_le hfillModerate.fee (by decide), hbounded.predicted, hbounded.realized,
    hbounded.predictionError⟩

/-- Over a paper report with moderate amounts the TCA report is built. -/
theorem tca_of_paperReport (hreport : PaperReport report)
    (hmoderate : ∀ e ∈ filledEvents report, ModerateFill e) {quotes : List QuoteEvent}
    (hquotes : ∀ q ∈ quotes, ModerateQuote q) :
    ∃ tca, makePaperTcaReport report quotes = .ok tca := by
  obtain ⟨entries, hentries⟩ : ∃ entries, report.events.mapM (tcaEntries report quotes) =
      .ok entries := by
    obtain ⟨entries, hentries⟩ := Library.exists_forall₂
      (fun e he => tcaEntries_ok hreport hmoderate hquotes he)
    exact ⟨entries, (mapM_eq_ok_iff _ _ _).mpr hentries⟩
  have hrows := rows_of_entries hentries
  have hissues := issues_of_entries hentries
  have hvalid : (tcaReportDraft report (entries.filterMap Prod.fst)
      (entries.filterMap Prod.snd)).validateFields = .ok () := by
    apply tcaReportDraft_validateFields hreport.toPaperSource
    · intro row hrow
      obtain ⟨e, he, hmakes⟩ := Library.exists_of_mem_right hrows hrow
      have hrun := hreport.events e (List.mem_of_mem_filter he)
      obtain ⟨hrowValid, fill, -, rfl⟩ := row_of_builder hrun.valid hmakes
      exact ⟨hrowValid, hrun.runId, rfl, rfl⟩
    · intro issue hissue
      obtain ⟨e, he, code, message, -, hmakes⟩ := Library.exists_of_mem_right hissues hissue
      have hrun := hreport.events e (List.mem_of_mem_filter he)
      obtain ⟨hissueValid, rfl⟩ := issue_of_builder hmakes
      exact ⟨hissueValid, hrun.runId, rfl, rfl⟩
  have hsums : (tcaAmounts.forM fun amount =>
      requireSum ((entries.filterMap Prod.fst).map amount)) = .ok () := by
    apply tcaSums_of_bounded
    intro row hrow
    obtain ⟨e, he, hmakes⟩ := Library.exists_of_mem_right hrows hrow
    exact boundedRow_of_makesRow hmoderate hquotes he
      (hreport.events e (List.mem_of_mem_filter he)).valid hmakes
  refine ⟨PaperTcaReport.stamping.sealed (tcaReportDraft report (entries.filterMap Prod.fst)
    (entries.filterMap Prod.snd)), ?_⟩
  simp only [makePaperTcaReport]
  rw [requirePaperGatewayReport_ok hreport.toPaperSource, ok_bind, hentries, ok_bind, hsums,
    ok_bind]
  exact (PaperTcaReport.stamping.construct_eq_ok_iff _ _).mpr ⟨hvalid, rfl⟩

/-- A TCA report that the builder returns has the records of the events. -/
theorem tcaPartition_of_builder {quotes : List QuoteEvent} {tca : PaperTcaReport}
    (hevents : ∀ e ∈ report.events, e.validate = .ok ())
    (h : makePaperTcaReport report quotes = .ok tca) : TcaPartition report quotes tca := by
  simp only [makePaperTcaReport, bind_eq_ok_iff] at h
  obtain ⟨_, -, entries, hentries, _, -, hconstruct⟩ := h
  obtain ⟨-, rfl⟩ := (Library.Stamping.construct_eq_ok_iff _ _ _).mp hconstruct
  have hrows : List.Forall₂ (RowOf report quotes) (filledEvents report)
      (entries.filterMap Prod.fst) := by
    apply Library.forall₂_imp_of_mem (rows_of_entries hentries)
    intro e he row hmakes
    obtain ⟨-, fill, hfill, rfl⟩ := row_of_builder (hevents e (List.mem_of_mem_filter he)) hmakes
    exact row_of hfill quotes
  have hissues : List.Forall₂ (fun e issue => IssueOf report e issue)
      (issueEvents report quotes) (entries.filterMap Prod.snd) := by
    apply (issues_of_entries hentries).imp
    rintro e issue ⟨code, message, hneeded, hmakes⟩
    obtain ⟨-, rfl⟩ := issue_of_builder hmakes
    exact issueOver_of hneeded
  -- the totals are those of the filled events
  have htotal : ∀ (amount : PaperTcaRow → Decimal)
      (amountOf : ExecutionGatewayLifecycleEvent → Decimal),
      (∀ e row, RowOf report quotes e row → amountOf e = amount row) →
      TotalOf ((filledEvents report).map amountOf)
        (contextTotal ((entries.filterMap Prod.fst).map amount)) := by
    intro amount amountOf hsame
    rw [← Library.map_eq_of_forall₂ hrows hsame]
    exact totalOf_contextTotal _
  -- every issue is an error
  have herrors : (entries.filterMap Prod.snd).countP (fun i => decide (i.severity = .error)) =
      (entries.filterMap Prod.snd).length := by
    apply List.countP_eq_length.mpr
    intro issue hissue
    obtain ⟨e, -, hof⟩ := Library.exists_of_mem_right hissues hissue
    exact decide_eq_true hof.severity
  exact
    { rows := hrows
      issues := hissues
      rowCount := hrows.length_eq.symm
      issueCount := hissues.length_eq.symm
      errorCount := herrors
      fee := htotal _ _ fun _ _ hrow => hrow.feeCost.symm
      predicted := htotal _ _ fun _ _ hrow => hrow.predictedTotalCost.symm
      realized := htotal _ _ fun _ _ hrow => hrow.realizedTotalCost.symm
      predictionError := htotal _ _ fun _ _ hrow => hrow.totalCostPredictionError.symm }

end Tca

end TaModel.Execution
