import TaModel.Audit.ReplayDisplay

/-!
# When a replay ends with a report

`replayEvidence_succeeds_iff`: the replay of a valid record raises exactly when a comparison finds a
list of ids empty on one side only (`OrderShows`). The blocker of that comparison would store an
empty text. Every other stage turns what it finds into blockers.
-/

set_option autoImplicit false

namespace TaModel.Audit

open Contracts Execution Risk Simulation

/-! ## Stored records -/

/-- The ids of an envelope that a comparison may have to show, besides its own. -/
def DecisionTraceEnvelope.comparedIds (envelope : DecisionTraceEnvelope) : List String :=
  [envelope.traceId, envelope.strategyDecisionId] ++ envelope.orderIntentId.toList ++
    envelope.riskCheckId.toList ++ envelope.gatewayReportId.toList ++
    envelope.gatewayEventId.toList ++ envelope.paperSessionReportId.toList ++
    envelope.paperTcaReportId.toList ++ envelope.paperFillLogIds ++
    envelope.paperRejectionLogIds ++ envelope.paperTcaRowIds ++ envelope.paperTcaIssueIds

/-- The ids of a gateway report that a comparison may have to show and that its validators do not
derive. -/
def gatewayEventIdsShown (report : ExecutionGatewayReport) : List String :=
  report.events.flatMap fun event => event.riskCheckId :: event.replayOrderResultId.toList

/-- The fields typed `CanonicalId` of a stored record. -/
structure IdsCanonical (evidence : DecisionTraceReplayEvidence) : Prop where
  traceId : isCanonicalId evidence.traceId = true
  envelope : ∀ id ∈ evidence.envelope.comparedIds, isCanonicalId id = true
  gatewayReport : ∀ report ∈ evidence.gatewayReport, ∀ id ∈ gatewayEventIdsShown report,
    isCanonicalId id = true

section Totality

variable [Sha256]

/-- A record whose parts pass their contracts. -/
structure EvidenceValid (evidence : DecisionTraceReplayEvidence) : Prop where
  ids : IdsCanonical evidence
  envelope : evidence.envelope.validate = .ok ()
  artifacts : ArtifactsValid evidence

/-! ## Comparisons that succeed -/

/-- Two envelopes have the same empty id lists. -/
structure SameEmptyLists (expected actual : DecisionTraceEnvelope) : Prop where
  fillLogs : expected.paperFillLogIds = [] ↔ actual.paperFillLogIds = []
  rejectionLogs : expected.paperRejectionLogIds = [] ↔ actual.paperRejectionLogIds = []
  rows : expected.paperTcaRowIds = [] ↔ actual.paperTcaRowIds = []
  issues : expected.paperTcaIssueIds = [] ↔ actual.paperTcaIssueIds = []

/-- Every text of an envelope that a comparison may have to show is shown. -/
structure EnvelopeShown (envelope : DecisionTraceEnvelope) : Prop where
  id : Shown envelope.traceEnvelopeId
  hash : Shown envelope.traceEnvelopeHash
  ids : ∀ id ∈ envelope.comparedIds, Shown id

omit [Sha256] in
theorem compareEnvelope_succeeds_iff {expected actual : DecisionTraceEnvelope}
    {code : DecisionTraceReplayBlockerCode} (hexpected : EnvelopeShown expected)
    (hactual : EnvelopeShown actual) :
    (∃ blockers, compareEnvelope expected actual code = .ok blockers) ↔
      SameEmptyLists expected actual := by
  have hleft := hexpected.ids
  have hright := hactual.ids
  simp only [DecisionTraceEnvelope.comparedIds, List.forall_mem_append, List.forall_mem_cons,
    Option.mem_toList] at hleft hright
  obtain ⟨⟨⟨⟨⟨⟨⟨⟨⟨⟨⟨ltrace, ldecision, -⟩, lorder⟩, lrisk⟩, lreport⟩, levent⟩, lsession⟩, ltca⟩,
    lfills⟩, lrejections⟩, lrows⟩, lissues⟩ := hleft
  obtain ⟨⟨⟨⟨⟨⟨⟨⟨⟨⟨⟨rtrace, rdecision, -⟩, rorder⟩, rrisk⟩, rreport⟩, revent⟩, rsession⟩, rtca⟩,
    rfills⟩, rrejections⟩, rrows⟩, rissues⟩ := hright
  simp only [compareEnvelope, compareFields_succeeds_iff, List.forall_mem_cons,
    compared_ids_iff lfills rfills, compared_ids_iff lrejections rrejections,
    compared_ids_iff lrows rrows, compared_ids_iff lissues rissues]
  have htext : ∀ {name a b : String}, Shown a → Shown b → (compared name a b).IsShown :=
    fun ha hb => ⟨displayed_text ha, displayed_text hb⟩
  have hoption : ∀ {name : String} {a b : Option String}, (∀ t ∈ a, Shown t) →
      (∀ t ∈ b, Shown t) → (compared name a b).IsShown :=
    fun ha hb => ⟨displayed_optionText ha, displayed_optionText hb⟩
  constructor
  · rintro ⟨-, -, -, -, -, -, -, -, -, -, hfills, hrejections, hrows, hissues, -⟩
    exact ⟨hfills, hrejections, hrows, hissues⟩
  · rintro ⟨hfills, hrejections, hrows, hissues⟩
    exact ⟨fun _ => htext hexpected.id hactual.id, fun _ => htext hexpected.hash hactual.hash,
      fun _ => htext ltrace rtrace, fun _ => htext ldecision rdecision,
      fun _ => hoption lorder rorder, fun _ => hoption lrisk rrisk,
      fun _ => hoption lreport rreport, fun _ => hoption levent revent,
      fun _ => hoption lsession rsession, fun _ => hoption ltca rtca, hfills, hrejections, hrows,
      hissues, List.forall_mem_nil _⟩

/-- The events of a gateway report show their ids. -/
def EventsShown (report : ExecutionGatewayReport) : Prop :=
  ∀ id ∈ gatewayEventIdsShown report, Shown id

omit [Sha256] in
theorem EventsShown.of_mem {report : ExecutionGatewayReport} (h : EventsShown report)
    {event : ExecutionGatewayLifecycleEvent} (hevent : event ∈ report.events) :
    Shown event.riskCheckId ∧ ∀ id ∈ event.replayOrderResultId, Shown id := by
  constructor
  · exact h _ (List.mem_flatMap.mpr ⟨event, hevent, List.mem_cons_self⟩)
  · intro id hid
    exact h _ (List.mem_flatMap.mpr ⟨event, hevent,
      List.mem_cons_of_mem _ (Option.mem_toList.mpr hid)⟩)

/-- The id lists of a valid gateway report are shown item by item. -/
theorem gatewayLists_shown {report : ExecutionGatewayReport} (hvalid : report.validate = .ok ())
    (hevents : EventsShown report) :
    (∀ id ∈ report.riskCheckIds, Shown id) ∧ (∀ id ∈ report.approvedRiskCheckIds, Shown id) ∧
      ∀ id ∈ report.blockedRiskCheckIds, Shown id := by
  obtain ⟨-, hids, happroved, hblocked⟩ := ExecutionGatewayReport.facts hvalid
  rw [hids, happroved, hblocked]
  refine ⟨?_, ?_, ?_⟩
  · intro id hid
    obtain ⟨event, hevent, rfl⟩ := List.mem_map.mp hid
    exact (hevents.of_mem hevent).1
  · intro id hid
    obtain ⟨event, hevent, rfl⟩ := List.mem_map.mp hid
    exact (hevents.of_mem (List.mem_of_mem_filter hevent)).1
  · intro id hid
    obtain ⟨event, hevent, rfl⟩ := List.mem_map.mp hid
    exact (hevents.of_mem (List.mem_of_mem_filter hevent)).1

theorem compareGatewayEvents_succeeds {expected actual : ExecutionGatewayLifecycleEvent}
    (hexpected : expected.validate = .ok ()) (hactual : actual.validate = .ok ())
    (hleft : ∀ id ∈ expected.replayOrderResultId, Shown id)
    (hright : ∀ id ∈ actual.replayOrderResultId, Shown id) :
    ∃ blockers, compareGatewayEvents expected actual = .ok blockers := by
  obtain ⟨lid, lhash⟩ := ExecutionGatewayLifecycleEvent.shown_stamp hexpected
  obtain ⟨rid, rhash⟩ := ExecutionGatewayLifecycleEvent.shown_stamp hactual
  simp only [compareGatewayEvents, compareFields_succeeds_iff, List.forall_mem_cons]
  have hprice : ∀ {price : Option Decimal}, Displayed price :=
    displayed_option fun q _ => displayed_decimal q
  exact ⟨fun _ => ⟨displayed_text lid, displayed_text rid⟩,
    fun _ => ⟨displayed_text lhash, displayed_text rhash⟩,
    fun _ => ⟨displayed_optionText (ExecutionGatewayLifecycleEvent.shown_orderId hexpected),
      displayed_optionText (ExecutionGatewayLifecycleEvent.shown_orderId hactual)⟩,
    fun _ => ⟨displayed_status _, displayed_status _⟩,
    fun _ => ⟨displayed_optionText hleft, displayed_optionText hright⟩,
    fun _ => ⟨displayed_decimal _, displayed_decimal _⟩,
    fun _ => ⟨displayed_decimal _, displayed_decimal _⟩, fun _ => ⟨hprice, hprice⟩,
    fun _ => ⟨displayed_decimal _, displayed_decimal _⟩, List.forall_mem_nil _⟩

/-- The stored and the rebuilt reports of an order have the same empty id lists. -/
structure SameEmptyReports (stored rebuilt : OrderArtifacts) : Prop where
  approved : stored.gatewayReport.approvedRiskCheckIds = [] ↔
    rebuilt.gatewayReport.approvedRiskCheckIds = []
  blocked : stored.gatewayReport.blockedRiskCheckIds = [] ↔
    rebuilt.gatewayReport.blockedRiskCheckIds = []
  fillLogs : stored.paperAccountReport.fillLogIds = [] ↔
    rebuilt.paperAccountReport.fillLogIds = []
  rejectionLogs : stored.paperAccountReport.rejectionLogIds = [] ↔
    rebuilt.paperAccountReport.rejectionLogIds = []
  rows : stored.paperTcaReport.rowIds = [] ↔ rebuilt.paperTcaReport.rowIds = []
  issues : stored.paperTcaReport.issueIds = [] ↔ rebuilt.paperTcaReport.issueIds = []

/-- A gateway report with an event lists a risk check. -/
theorem riskCheckIds_ne_nil {report : ExecutionGatewayReport} (hvalid : report.validate = .ok ())
    (hevents : report.events ≠ []) : report.riskCheckIds ≠ [] := by
  rw [(ExecutionGatewayReport.facts hvalid).2.1]
  intro hnil
  exact hevents (List.map_eq_nil_iff.mp hnil)

theorem compareGatewayReports_succeeds_iff {expected actual : ExecutionGatewayReport}
    (hexpected : expected.validate = .ok ()) (hactual : actual.validate = .ok ())
    (hleft : EventsShown expected) (hright : EventsShown actual)
    (hexpectedEvents : expected.events ≠ []) (hactualEvents : actual.events ≠ []) :
    (∃ blockers, compareGatewayReports expected actual = .ok blockers) ↔
      (expected.approvedRiskCheckIds = [] ↔ actual.approvedRiskCheckIds = []) ∧
      (expected.blockedRiskCheckIds = [] ↔ actual.blockedRiskCheckIds = []) := by
  obtain ⟨lid, lhash⟩ := ExecutionGatewayReport.shown_stamp hexpected
  obtain ⟨rid, rhash⟩ := ExecutionGatewayReport.shown_stamp hactual
  obtain ⟨lrisk, lapproved, lblocked⟩ := gatewayLists_shown hexpected hleft
  obtain ⟨rrisk, rapproved, rblocked⟩ := gatewayLists_shown hactual hright
  have hids : (∃ blockers, compareGatewayIds expected actual = .ok blockers) ↔
      (expected.approvedRiskCheckIds = [] ↔ actual.approvedRiskCheckIds = []) ∧
      (expected.blockedRiskCheckIds = [] ↔ actual.blockedRiskCheckIds = []) := by
    simp only [compareGatewayIds, compareFields_succeeds_iff, List.forall_mem_cons,
      compared_ids_iff lrisk rrisk, compared_ids_iff lapproved rapproved,
      compared_ids_iff lblocked rblocked]
    constructor
    · rintro ⟨-, -, -, happroved, hblocked, -⟩
      exact ⟨happroved, hblocked⟩
    · rintro ⟨happroved, hblocked⟩
      refine ⟨fun _ => ⟨displayed_text lid, displayed_text rid⟩,
        fun _ => ⟨displayed_text lhash, displayed_text rhash⟩, ?_, happroved, hblocked,
        List.forall_mem_nil _⟩
      exact ⟨fun h => absurd h (riskCheckIds_ne_nil hexpected hexpectedEvents),
        fun h => absurd h (riskCheckIds_ne_nil hactual hactualEvents)⟩
  rw [← hids]
  constructor
  · rintro ⟨blockers, hblockers⟩
    obtain ⟨idBlockers, hcompare, -⟩ := (bind_eq_ok_iff _ _ _).mp hblockers
    exact ⟨idBlockers, hcompare⟩
  · rintro ⟨idBlockers, hcompare⟩
    simp only [compareGatewayReports, hcompare, ok_bind]
    -- the events are compared only when there is one on each side
    split
    · next expectedEvent actualEvent hexpectedEvent hactualEvent =>
        have hmemLeft : expectedEvent ∈ expected.events := by
          rw [hexpectedEvent]
          exact List.mem_singleton_self _
        have hmemRight : actualEvent ∈ actual.events := by
          rw [hactualEvent]
          exact List.mem_singleton_self _
        obtain ⟨eventBlockers, hevents⟩ := compareGatewayEvents_succeeds
          ((ExecutionGatewayReport.facts hexpected).1 _ hmemLeft)
          ((ExecutionGatewayReport.facts hactual).1 _ hmemRight)
          (hleft.of_mem hmemLeft).2 (hright.of_mem hmemRight).2
        rw [hevents]
        exact ⟨_, rfl⟩
    · obtain ⟨blocker, hblocker⟩ := DecisionTraceReplayBlocker.make_succeeds_iff.mpr
        (show Shown "gateway replay event count did not reproduce one trace event" ∧
          (∀ text ∈ some (toString expected.events.length), Shown text) ∧
          ∀ text ∈ some (toString actual.events.length), Shown text from
            ⟨by decide, displayed_nat _, displayed_nat _⟩)
      rw [hblocker]
      exact ⟨_, rfl⟩

theorem comparePaperReports_succeeds_iff {expected actual : PaperAccountSessionReport}
    (hexpected : expected.validate = .ok ()) (hactual : actual.validate = .ok ())
    (hexpectedLogs : expected.orderLogs ≠ []) (hactualLogs : actual.orderLogs ≠ []) :
    (∃ blockers, comparePaperReports expected actual = .ok blockers) ↔
      (expected.fillLogIds = [] ↔ actual.fillLogIds = []) ∧
      (expected.rejectionLogIds = [] ↔ actual.rejectionLogIds = []) := by
  obtain ⟨lid, lhash⟩ := PaperAccountSessionReport.shown_stamp hexpected
  obtain ⟨rid, rhash⟩ := PaperAccountSessionReport.shown_stamp hactual
  have hlists : ∀ {report : PaperAccountSessionReport}, report.validate = .ok () →
      (∀ id ∈ report.orderLogIds, Shown id) ∧ (∀ id ∈ report.fillLogIds, Shown id) ∧
        ∀ id ∈ report.rejectionLogIds, Shown id := by
    intro report hvalid
    obtain ⟨horders, hfills, hrejections, horderIds, hfillIds, hrejectionIds⟩ :=
      PaperAccountSessionReport.showsLogIds hvalid
    rw [horderIds, hfillIds, hrejectionIds]
    exact ⟨List.forall_mem_map.mpr horders, List.forall_mem_map.mpr hfills,
      List.forall_mem_map.mpr hrejections⟩
  have hne : ∀ {report : PaperAccountSessionReport}, report.validate = .ok () →
      report.orderLogs ≠ [] → report.orderLogIds ≠ [] := by
    intro report hvalid hlogs hnil
    rw [(PaperAccountSessionReport.showsLogIds hvalid).orderLogIds] at hnil
    exact hlogs (List.map_eq_nil_iff.mp hnil)
  obtain ⟨lorders, lfills, lrejections⟩ := hlists hexpected
  obtain ⟨rorders, rfills, rrejections⟩ := hlists hactual
  simp only [comparePaperReports, compareFields_succeeds_iff, List.forall_mem_cons,
    compared_ids_iff lorders rorders, compared_ids_iff lfills rfills,
    compared_ids_iff lrejections rrejections]
  have hnat : ∀ {name : String} {a b : Nat}, (compared name a b).IsShown :=
    ⟨displayed_nat _, displayed_nat _⟩
  have hdecimal : ∀ {name : String} {a b : Decimal}, (compared name a b).IsShown :=
    ⟨displayed_decimal _, displayed_decimal _⟩
  constructor
  · rintro ⟨-, -, -, hfills, hrejections, -⟩
    exact ⟨hfills, hrejections⟩
  · rintro ⟨hfills, hrejections⟩
    refine ⟨fun _ => ⟨displayed_text lid, displayed_text rid⟩,
      fun _ => ⟨displayed_text lhash, displayed_text rhash⟩, ?_, hfills, hrejections,
      fun _ => hnat, fun _ => hnat, fun _ => hnat, fun _ => hnat, fun _ => hnat,
      fun _ => hdecimal, fun _ => hdecimal, List.forall_mem_nil _⟩
    exact ⟨fun h => absurd h (hne hexpected hexpectedLogs),
      fun h => absurd h (hne hactual hactualLogs)⟩

theorem compareTcaReports_succeeds_iff {expected actual : PaperTcaReport}
    (hexpected : expected.validate = .ok ()) (hactual : actual.validate = .ok ()) :
    (∃ blockers, compareTcaReports expected actual = .ok blockers) ↔
      (expected.rowIds = [] ↔ actual.rowIds = []) ∧
      (expected.issueIds = [] ↔ actual.issueIds = []) := by
  obtain ⟨lid, lhash⟩ := PaperTcaReport.shown_stamp hexpected
  obtain ⟨rid, rhash⟩ := PaperTcaReport.shown_stamp hactual
  have hlists : ∀ {report : PaperTcaReport}, report.validate = .ok () →
      (∀ id ∈ report.rowIds, Shown id) ∧ ∀ id ∈ report.issueIds, Shown id := by
    intro report hvalid
    obtain ⟨hrows, hissues, hrowIds, hissueIds⟩ := PaperTcaReport.showsTcaIds hvalid
    rw [hrowIds, hissueIds]
    exact ⟨List.forall_mem_map.mpr hrows, List.forall_mem_map.mpr hissues⟩
  obtain ⟨lrows, lissues⟩ := hlists hexpected
  obtain ⟨rrows, rissues⟩ := hlists hactual
  simp only [compareTcaReports, compareFields_succeeds_iff, List.forall_mem_cons,
    compared_ids_iff lrows rrows, compared_ids_iff lissues rissues]
  have hnat : ∀ {name : String} {a b : Nat}, (compared name a b).IsShown :=
    ⟨displayed_nat _, displayed_nat _⟩
  have hdecimal : ∀ {name : String} {a b : Decimal}, (compared name a b).IsShown :=
    ⟨displayed_decimal _, displayed_decimal _⟩
  constructor
  · rintro ⟨-, -, hrows, hissues, -⟩
    exact ⟨hrows, hissues⟩
  · rintro ⟨hrows, hissues⟩
    exact ⟨fun _ => ⟨displayed_text lid, displayed_text rid⟩,
      fun _ => ⟨displayed_text lhash, displayed_text rhash⟩, hrows, hissues,
      fun _ => hnat, fun _ => hnat, fun _ => hnat, fun _ => hdecimal, fun _ => hdecimal,
      fun _ => hdecimal, fun _ => hdecimal, List.forall_mem_nil _⟩

/-! ## Envelopes over valid artifacts -/

variable {requestedTraceId : String} {evidence : DecisionTraceReplayEvidence}
  {order : OrderArtifacts} {event : ExecutionGatewayLifecycleEvent}

omit [Sha256] in
theorem order_artifacts_of_eq (horder : evidence.order = some order) :
    evidence.riskEvent = some order.riskEvent ∧
      evidence.gatewayReport = some order.gatewayReport ∧
      evidence.paperAccountReport = some order.paperAccountReport ∧
      evidence.paperTcaReport = some order.paperTcaReport :=
  (order_eq_some_iff.mp horder).2

theorem orderValid_of_artifacts (hvalid : ArtifactsValid evidence)
    (horder : evidence.order = some order) : OrderValid order := by
  obtain ⟨hrisk, hgateway, hpaper, htca⟩ := order_artifacts_of_eq horder
  exact ⟨(hvalid.riskEvent _ hrisk).1, hvalid.gatewayReport _ hgateway,
    hvalid.paperAccountReport _ hpaper, hvalid.paperTcaReport _ htca⟩

theorem EvidenceValid.envelopeShown (h : EvidenceValid evidence) :
    EnvelopeShown evidence.envelope := by
  obtain ⟨hid, hhash⟩ := shown_of_stamped DecisionTraceEnvelope.stamping (fun _ => shown_hash _)
    (fun _ => shown_stableId _ _) h.envelope
  exact ⟨hid, hhash, fun id hmem => shown_of_isCanonicalId (h.ids.envelope id hmem)⟩

/-- The envelope over valid linked artifacts shows all its texts. -/
theorem orderEnvelope_shown {forecast : Forecast} {decision : StrategyDecision}
    (hdecision : decision.validate = .ok ()) (hvalid : OrderValid order)
    (hlinked : OrderLinked decision order event) :
    EnvelopeShown (orderEnvelope forecast decision order event) := by
  obtain ⟨htrace, hdecisionId⟩ := StrategyDecision.shown_ids hdecision
  have hlogs := PaperAccountSessionReport.showsLogIds hvalid.paperAccountReport
  have htca := PaperTcaReport.showsTcaIds hvalid.paperTcaReport
  obtain ⟨hevent, -⟩ := mem_of_matchingGatewayEvent hlinked.matched.event_eq
  have heventValid := (ExecutionGatewayReport.facts hvalid.gatewayReport).1 event hevent
  -- the client order id of a matched intent is derived from the decision
  have hintent := hlinked.matched.intent
  simp only [validateOrderIntentMatchesDecision, check_bind_eq_ok_iff, require_eq_ok_iff] at hintent
  obtain ⟨-, -, -, -, -, -, -, hclient⟩ := hintent
  refine ⟨shown_stableId _ _, shown_hash _, ?_⟩
  simp only [DecisionTraceEnvelope.comparedIds, List.forall_mem_append, List.forall_mem_cons,
    Option.mem_toList]
  refine ⟨⟨⟨⟨⟨⟨⟨⟨⟨⟨⟨htrace, hdecisionId, List.forall_mem_nil _⟩, ?_⟩, ?_⟩, ?_⟩, ?_⟩, ?_⟩, ?_⟩, ?_⟩,
    ?_⟩, ?_⟩, ?_⟩
  · rintro _ ⟨⟩
    rw [hclient]
    exact shown_stableId _ _
  · rintro _ ⟨⟩
    exact RiskCheckEvent.shown_id hvalid.riskEvent
  · rintro _ ⟨⟩
    exact (ExecutionGatewayReport.shown_stamp hvalid.gatewayReport).1
  · rintro _ ⟨⟩
    exact (ExecutionGatewayLifecycleEvent.shown_stamp heventValid).1
  · rintro _ ⟨⟩
    exact (PaperAccountSessionReport.shown_stamp hvalid.paperAccountReport).1
  · rintro _ ⟨⟩
    exact (PaperTcaReport.shown_stamp hvalid.paperTcaReport).1
  · intro id hid
    obtain ⟨log, hlog, rfl⟩ := List.mem_map.mp hid
    exact hlogs.fillLogs log (List.mem_of_mem_filter hlog)
  · intro id hid
    obtain ⟨log, hlog, rfl⟩ := List.mem_map.mp hid
    exact hlogs.rejectionLogs log (List.mem_of_mem_filter hlog)
  · intro id hid
    obtain ⟨row, hrow, rfl⟩ := List.mem_map.mp hid
    exact htca.rows row (List.mem_of_mem_filter hrow)
  · intro id hid
    obtain ⟨issue, hissue, rfl⟩ := List.mem_map.mp hid
    exact htca.issues issue (List.mem_of_mem_filter hissue)

/-! ## The rebuilt order -/

omit [Sha256] in
/-- A looked-up result is one of the results. -/
theorem mem_of_resultOf {events : List RiskCheckEvent} {results : List ReplayOrderResult}
    {pairs : List (String × ReplayOrderResult)} {riskCheckId : String} {result : ReplayOrderResult}
    (hpairs : replayResultsByRiskId events results = .ok pairs)
    (h : resultOf pairs riskCheckId = some result) : result ∈ results := by
  simp only [replayResultsByRiskId] at hpairs
  split_ifs at hpairs
  cases hpairs
  obtain ⟨pair, hfind, rfl⟩ := Option.map_eq_some_iff.mp h
  exact (List.of_mem_zip (List.mem_reverse.mp (List.mem_of_find?_eq_some hfind))).2

variable {replayed : ReplayedOrder}

/-- The event of the one-event report shows its ids: the result id is derived from the result. -/
theorem rebuilt_eventsShown {inputs : GatewayInputs} {riskEvent : RiskCheckEvent}
    {report : ExecutionGatewayReport} (hrisk : riskEvent.validate = .ok ())
    (h : runPaperGatewayReplay inputs [riskEvent] = .ok report) : EventsShown report := by
  obtain ⟨gated, pairs, lifecycle, hgated, hpairs, hlifecycle, -, rfl⟩ := runGateway_eq_ok_iff.mp h
  have hresults : ∀ result ∈ gatedResults gated, Shown result.replayOrderResultId := by
    obtain ⟨replayReport, hreplay, -, rfl⟩ := (replayRiskApproved_eq_ok_iff gated).mp hgated
    intro result hresult
    obtain ⟨intent, -, context, -, ⟨balances, balances', hone⟩, -⟩ := Library.exists_of_mem_right
      (replayedFor_forall₂ ⟨replayReport, hreplay, rfl⟩) hresult
    rw [replayOne_buildId hone]
    exact shown_stableId _ _
  intro id hid
  obtain ⟨event, hevent, hid⟩ := List.mem_flatMap.mp hid
  obtain ⟨riskEvent', hmem, hmake⟩ := Library.exists_of_mem_right hlifecycle hevent
  obtain rfl := List.mem_singleton.mp hmem
  rcases lifecycleEvent_cases hmake with ⟨-, rfl⟩ | ⟨result, intent, hresult, -, rfl⟩
  · rcases List.mem_cons.mp hid with rfl | hid
    · exact RiskCheckEvent.shown_id hrisk
    · cases hid
  · rcases List.mem_cons.mp hid with rfl | hid
    · exact RiskCheckEvent.shown_id hrisk
    · obtain rfl := List.mem_singleton.mp hid
      exact hresults result (mem_of_resultOf hpairs hresult)

/-- Linked artifacts have an event and an order log. -/
theorem OrderLinked.nonempty {decision : StrategyDecision}
    (h : OrderLinked decision order event) :
    order.gatewayReport.events ≠ [] ∧ order.paperAccountReport.orderLogs ≠ [] := by
  obtain ⟨hevent, -⟩ := mem_of_matchingGatewayEvent h.matched.event_eq
  refine ⟨List.ne_nil_of_mem hevent, ?_⟩
  intro hnil
  have hone := h.logs.one_order_log
  rw [linkedOrderLogs, hnil] at hone
  cases hone

theorem Rebuilds.orderValid (hrisk : order.riskEvent.validate = .ok ())
    (h : Rebuilds evidence order replayed) : OrderValid (replayed.artifacts order) :=
  ⟨hrisk, runPaperGatewayReplay_valid h.gateway, makePaperAccountSessionReport_valid h.paper,
    makePaperTcaReport_valid h.tca⟩

/-- The final comparisons raise exactly when a list of ids is empty on one side only. -/
theorem compareReplayed_succeeds_iff (hvalid : EvidenceValid evidence)
    (horder : evidence.order = some order) (hlinked : OrderLinked evidence.decision order event)
    (hrebuilds : Rebuilds evidence order replayed) :
    (∃ blockers, compareReplayed evidence order replayed.gatewayReport
      replayed.paperAccountReport replayed.paperTcaReport replayed.envelope = .ok blockers) ↔
      SameEmptyReports order (replayed.artifacts order) ∧
      SameEmptyLists evidence.envelope replayed.envelope := by
  have hstored := orderValid_of_artifacts hvalid.artifacts horder
  have hrebuilt := hrebuilds.orderValid hstored.riskEvent
  have hstoredEvents : EventsShown order.gatewayReport := fun id hid =>
    shown_of_isCanonicalId (hvalid.ids.gatewayReport _ (order_artifacts_of_eq horder).2.1 id hid)
  have hrebuiltEvents := rebuilt_eventsShown hstored.riskEvent hrebuilds.gateway
  obtain ⟨-, rebuiltEvent, hrebuiltLinked, henvelope⟩ :=
    makeDecisionTraceEnvelope_order_iff.mp hrebuilds.envelope
  have hshown : EnvelopeShown replayed.envelope := by
    rw [henvelope]
    exact orderEnvelope_shown hvalid.artifacts.decision hrebuilt hrebuiltLinked
  obtain ⟨hevents, hlogs⟩ := hlinked.nonempty
  obtain ⟨hrebuiltNonempty, hrebuiltLogs⟩ := hrebuiltLinked.nonempty
  have hgateway := compareGatewayReports_succeeds_iff hstored.gatewayReport
    hrebuilt.gatewayReport hstoredEvents hrebuiltEvents hevents hrebuiltNonempty
  have hpaper := comparePaperReports_succeeds_iff hstored.paperAccountReport
    hrebuilt.paperAccountReport hlogs hrebuiltLogs
  have htca := compareTcaReports_succeeds_iff hstored.paperTcaReport hrebuilt.paperTcaReport
  have hlists := @compareEnvelope_succeeds_iff _ _ .tamperedEvidence hvalid.envelopeShown hshown
  simp only [compareReplayed, bind_eq_ok_iff]
  constructor
  · rintro ⟨_, gatewayBlockers, hg, paperBlockers, hp, tcaBlockers, ht, envelopeBlockers, he, -⟩
    obtain ⟨happroved, hblocked⟩ := hgateway.mp ⟨_, hg⟩
    obtain ⟨hfills, hrejections⟩ := hpaper.mp ⟨_, hp⟩
    obtain ⟨hrows, hissues⟩ := htca.mp ⟨_, ht⟩
    exact ⟨⟨happroved, hblocked, hfills, hrejections, hrows, hissues⟩, hlists.mp ⟨_, he⟩⟩
  · rintro ⟨⟨happroved, hblocked, hfills, hrejections, hrows, hissues⟩, hempty⟩
    obtain ⟨gatewayBlockers, hg⟩ := hgateway.mpr ⟨happroved, hblocked⟩
    obtain ⟨paperBlockers, hp⟩ := hpaper.mpr ⟨hfills, hrejections⟩
    obtain ⟨tcaBlockers, ht⟩ := htca.mpr ⟨hrows, hissues⟩
    obtain ⟨envelopeBlockers, he⟩ := hlists.mpr hempty
    exact ⟨_, gatewayBlockers, hg, paperBlockers, hp, tcaBlockers, ht, envelopeBlockers, he, rfl⟩

/-! ## Stages -/

omit [Sha256] in
/-- A blocker with the text of an exception can always be stored. -/
theorem exceptionBlocker_succeeds (code : DecisionTraceReplayBlockerCode) (message text : String) :
    ∃ blocker, exceptionBlocker code message text = .ok blocker := by
  apply DecisionTraceReplayBlocker.make_succeeds_iff.mpr
  refine ⟨?_, nofun, nofun⟩
  have hcolon : ':' ∈ (message ++ ": " ++ text).toList := by
    simp only [String.toList_append, List.mem_append]
    exact .inl (.inr (by decide))
  exact shown_of_mem hcolon (by decide)

theorem replayOrder_succeeds_iff (hvalid : EvidenceValid evidence)
    (horder : evidence.order = some order) (hlinked : OrderLinked evidence.decision order event)
    {rebuilt : DecisionTraceEnvelope} :
    (∃ outcome, replayOrder evidence order rebuilt = .ok outcome) ↔
      ∀ replayed, Rebuilds evidence order replayed →
        SameEmptyReports order (replayed.artifacts order) ∧
        SameEmptyLists evidence.envelope replayed.envelope := by
  have hblocker : ∀ (code : DecisionTraceReplayBlockerCode) (message text : String)
      (f : DecisionTraceReplayBlocker → ReplayOutcome),
      ∃ outcome, (do let blocker ← exceptionBlocker code message text; .ok (f blocker)) =
        (.ok outcome : Raises ReplayOutcome) := by
    intro code message text f
    obtain ⟨blocker, hmake⟩ := exceptionBlocker_succeeds code message text
    rw [hmake]
    exact ⟨_, rfl⟩
  simp only [replayOrder]
  cases hgateway : runPaperGatewayReplay (evidence.gatewayInputs order.gatewayReport.runId)
      [order.riskEvent] with
  | error text =>
      refine ⟨fun _ replayed h => ?_, fun _ => hblocker _ _ _ _⟩
      rw [h.gateway] at hgateway
      cases hgateway
  | ok gatewayReport =>
      dsimp only
      cases hpaper : rebuildPaperAccountReport order.paperAccountReport gatewayReport with
      | error text =>
          refine ⟨fun _ replayed h => ?_, fun _ => hblocker _ _ _ _⟩
          rw [h.gateway] at hgateway
          cases hgateway
          rw [h.paper] at hpaper
          cases hpaper
      | ok paperReport =>
          dsimp only
          cases hrebuild : rebuildTcaAndEnvelope evidence order gatewayReport paperReport with
          | error text =>
              refine ⟨fun _ replayed h => ?_, fun _ => hblocker _ _ _ _⟩
              rw [h.gateway] at hgateway
              cases hgateway
              rw [h.paper] at hpaper
              cases hpaper
              rw [rebuildTcaAndEnvelope_eq_ok_iff.mpr ⟨h.tca, h.envelope⟩] at hrebuild
              cases hrebuild
          | ok built =>
              obtain ⟨tcaReport, envelope⟩ := built
              let replayed : ReplayedOrder := ⟨gatewayReport, paperReport, tcaReport, envelope⟩
              obtain ⟨htca, henvelope⟩ :=
                (@rebuildTcaAndEnvelope_eq_ok_iff _ _ _ replayed).mp hrebuild
              have hrebuilds : Rebuilds evidence order replayed :=
                ⟨hgateway, hpaper, htca, henvelope⟩
              have hcompare := compareReplayed_succeeds_iff hvalid horder hlinked hrebuilds
              constructor
              · rintro ⟨outcome, houtcome⟩ other hother
                obtain ⟨blockers, hblockers, -⟩ := (bind_eq_ok_iff _ _ _).mp houtcome
                -- the builders are functions, so the other order is this one
                obtain rfl : other = replayed := by
                  obtain ⟨g, p, t, e⟩ := other
                  obtain ⟨hg, hp, ht, he⟩ := hother
                  cases hgateway.symm.trans hg
                  cases hpaper.symm.trans hp
                  cases htca.symm.trans ht
                  cases henvelope.symm.trans he
                  rfl
                exact hcompare.mp ⟨blockers, hblockers⟩
              · intro hall
                obtain ⟨blockers, hblockers⟩ := hcompare.mpr (hall replayed hrebuilds)
                exact ⟨_, (bind_eq_ok_iff _ _ _).mpr ⟨blockers, hblockers, rfl⟩⟩

/-- No comparison of a stored order with what the builders make of it finds a list of ids empty on
one side only: neither the envelope over the stored reports, nor, once that envelope is the stored
one, the rebuilt reports and their envelope. -/
def OrderShows (evidence : DecisionTraceReplayEvidence) (order : OrderArtifacts) : Prop :=
  ∀ rebuilt, makeDecisionTraceEnvelope (order.toTrace evidence.forecast evidence.decision) =
      .ok rebuilt →
    SameEmptyLists evidence.envelope rebuilt ∧
    (SameEnvelope evidence.envelope rebuilt → ∀ replayed, Rebuilds evidence order replayed →
      SameEmptyReports order (replayed.artifacts order) ∧
      SameEmptyLists evidence.envelope replayed.envelope)

/-- The stages over a stored order. -/
theorem replayEnvelope_order_succeeds_iff (hvalid : EvidenceValid evidence)
    (horder : evidence.order = some order) :
    (∃ outcome, replayEnvelope evidence = .ok outcome) ↔ OrderShows evidence order := by
  obtain ⟨hintent, -⟩ := order_eq_some_iff.mp horder
  have hmake : makeEnvelopeFromEvidence evidence =
      makeDecisionTraceEnvelope (order.toTrace evidence.forecast evidence.decision) := by
    simp only [makeEnvelopeFromEvidence, hintent, horder]
  simp only [replayEnvelope, hmake]
  cases hrebuilt : makeDecisionTraceEnvelope (order.toTrace evidence.forecast evidence.decision) with
  | error text =>
      constructor
      · intro _ rebuilt h
        rw [hrebuilt] at h
        cases h
      · intro _
        obtain ⟨blocker, hblocker⟩ := exceptionBlocker_succeeds .tamperedEvidence
          "stored trace evidence failed envelope reconstruction" text
        exact ⟨_, (bind_eq_ok_iff _ _ _).mpr ⟨blocker, hblocker, rfl⟩⟩
  | ok rebuilt =>
      dsimp only
      obtain ⟨-, event, hlinked, henvelope⟩ := makeDecisionTraceEnvelope_order_iff.mp hrebuilt
      have hshown : EnvelopeShown rebuilt := by
        rw [henvelope]
        exact orderEnvelope_shown hvalid.artifacts.decision
          (orderValid_of_artifacts hvalid.artifacts horder) hlinked
      have hcompare := @compareEnvelope_succeeds_iff _ _ .tamperedEvidence hvalid.envelopeShown
        hshown
      have hreplay := @replayOrder_succeeds_iff _ _ _ _ hvalid horder hlinked rebuilt
      constructor
      · rintro ⟨outcome, houtcome⟩ other hother
        obtain rfl : rebuilt = other := Except.ok.inj (hrebuilt.symm.trans hother)
        obtain ⟨blockers, hblockers, hrest⟩ := (bind_eq_ok_iff _ _ _).mp houtcome
        refine ⟨hcompare.mp ⟨blockers, hblockers⟩, ?_⟩
        intro hsame
        -- equal envelopes leave no blocker, so the order is replayed
        rw [compareEnvelope_eq_nil_iff.mpr hsame] at hblockers
        cases hblockers
        rw [if_neg (not_not.mpr rfl), hintent, horder] at hrest
        exact hreplay.mp ⟨outcome, hrest⟩
      · intro hshows
        obtain ⟨hlists, hrest⟩ := hshows rebuilt hrebuilt
        obtain ⟨blockers, hblockers⟩ := hcompare.mpr hlists
        by_cases hnil : blockers = []
        · subst hnil
          obtain ⟨outcome, houtcome⟩ :=
            hreplay.mpr (hrest (compareEnvelope_eq_nil_iff.mp hblockers))
          refine ⟨outcome, (bind_eq_ok_iff _ _ _).mpr ⟨[], hblockers, ?_⟩⟩
          rw [if_neg (not_not.mpr rfl), hintent, horder]
          exact houtcome
        · exact ⟨_, (bind_eq_ok_iff _ _ _).mpr ⟨blockers, hblockers, if_pos hnil⟩⟩

/-- The stages over a record without an order never raise. -/
theorem replayEnvelope_noOrder_succeeds (hvalid : EvidenceValid evidence)
    (hintent : evidence.orderIntent = none) (hstored : evidence.envelope.orderIntentId = none) :
    ∃ outcome, replayEnvelope evidence = .ok outcome := by
  simp only [replayEnvelope]
  cases hrebuilt : makeEnvelopeFromEvidence evidence with
  | error text =>
      obtain ⟨blocker, hblocker⟩ := exceptionBlocker_succeeds .tamperedEvidence
        "stored trace evidence failed envelope reconstruction" text
      exact ⟨_, (bind_eq_ok_iff _ _ _).mpr ⟨blocker, hblocker, rfl⟩⟩
  | ok rebuilt =>
      dsimp only
      obtain ⟨-, -, rfl⟩ := (makeEnvelopeFromEvidence_noOrder hintent).mp hrebuilt
      obtain ⟨htrace, hdecisionId⟩ := StrategyDecision.shown_ids hvalid.artifacts.decision
      have hshown : EnvelopeShown (noOrderEnvelope evidence.forecast evidence.decision) := by
        refine ⟨shown_stableId _ _, shown_hash _, ?_⟩
        intro id hid
        rcases List.mem_cons.mp hid with rfl | hid
        · exact htrace
        · rw [List.mem_singleton.mp hid]
          exact hdecisionId
      -- both envelopes carry no paper evidence
      have hfields := ((DecisionTraceEnvelope.stamping.validate_eq_ok_iff _).mp hvalid.envelope).1
      obtain ⟨-, -, hnoOrder, -⟩ := (DecisionTraceEnvelope.validateFields_eq_ok_iff _).mp hfields
      obtain ⟨-, -, -, hfills, hrejections, hrows, hissues⟩ :=
        (DecisionTraceEnvelope.validateNoOrderTrace_eq_ok_iff _).mp (hnoOrder hstored)
      obtain ⟨blockers, hblockers⟩ := (@compareEnvelope_succeeds_iff _ _ .tamperedEvidence
        hvalid.envelopeShown hshown).mpr
          ⟨iff_of_true hfills rfl, iff_of_true hrejections rfl, iff_of_true hrows rfl,
            iff_of_true hissues rfl⟩
      by_cases hnil : blockers = []
      · refine ⟨noOrderOutcome evidence, (bind_eq_ok_iff _ _ _).mpr ⟨blockers, hblockers, ?_⟩⟩
        rw [if_neg (not_not.mpr hnil), hintent]
        rfl
      · exact ⟨_, (bind_eq_ok_iff _ _ _).mpr ⟨blockers, hblockers, if_pos hnil⟩⟩

theorem requestedTraceBlockers_succeeds (hvalid : EvidenceValid evidence)
    (hrequested : Shown requestedTraceId) :
    ∃ blockers, requestedTraceBlockers requestedTraceId evidence = .ok blockers := by
  have henvelope := hvalid.envelopeShown.ids evidence.envelope.traceId List.mem_cons_self
  have hactual : ∀ check ∈ [("evidence.trace_id", evidence.traceId),
      ("envelope.trace_id", evidence.envelope.traceId),
      ("decision.trace_id", evidence.decision.traceId)], Shown check.2 := by
    simp only [List.forall_mem_cons]
    exact ⟨shown_of_isCanonicalId hvalid.ids.traceId, henvelope,
      (StrategyDecision.shown_ids hvalid.artifacts.decision).1, nofun⟩
  simp only [requestedTraceBlockers, traceBlockersOf, mapM_eq_ok_iff]
  apply Library.exists_forall₂
  intro check hcheck
  apply DecisionTraceReplayBlocker.make_succeeds_iff.mpr
  refine ⟨shown_append ⟨'m', by decide, by decide⟩, ?_, ?_⟩
  · rintro _ ⟨⟩
    exact hrequested
  · rintro _ ⟨⟩
    exact hactual check (List.mem_of_mem_filter hcheck)

/-- The replay of a valid record raises exactly when it reaches the comparisons of an order that
finds a list of ids empty on one side only. -/
theorem replayEvidence_succeeds_iff (hvalid : EvidenceValid evidence)
    (hrequested : Shown requestedTraceId) :
    (∃ outcome, replayEvidence requestedTraceId evidence = .ok outcome) ↔
      (TraceIdsMatch requestedTraceId evidence → evidence.bars ≠ [] →
        ∀ order, evidence.order = some order → OrderShows evidence order) := by
  by_cases hids : TraceIdsMatch requestedTraceId evidence
  · by_cases hinputs : (evidence.orderIntent = none ∧ evidence.envelope.orderIntentId = none) ∨
        ((∃ order, evidence.order = some order) ∧ evidence.bars ≠ [])
    · rw [replayEvidence_eq_replayEnvelope hids hvalid.envelope hvalid.artifacts hinputs]
      rcases hinputs with ⟨hintent, hstored⟩ | ⟨⟨order, horder⟩, hbars⟩
      · refine ⟨fun _ _ _ order horder => ?_,
          fun _ => replayEnvelope_noOrder_succeeds hvalid hintent hstored⟩
        rw [(order_eq_some_iff.mp horder).1] at hintent
        cases hintent
      · rw [replayEnvelope_order_succeeds_iff hvalid horder]
        constructor
        · intro hshows _ _ other hother
          obtain rfl : order = other := Option.some.inj (horder.symm.trans hother)
          exact hshows
        · intro h
          exact h hids hbars order horder
    · -- an input is missing: the replay ends with the blocker that names it
      obtain ⟨blockers, hblockers, -⟩ := @missingOrderInputBlockers_succeeds evidence
      refine ⟨fun _ _ hbars order horder => ?_, fun _ => ?_⟩
      · exact absurd (.inr ⟨⟨order, horder⟩, hbars⟩) hinputs
      · have hne : blockers ≠ [] := by
          rintro rfl
          exact hinputs (missingOrderInputBlockers_eq_nil_iff.mp hblockers)
        simp only [replayEvidence]
        rw [requestedTraceBlockers_eq_nil_iff.mpr hids, ok_bind, if_neg (not_not.mpr rfl),
          hvalid.envelope]
        dsimp only
        rw [validateReplayEvidenceArtifacts_eq_nil_iff.mpr hvalid.artifacts, ok_bind,
          if_neg (not_not.mpr rfl), hblockers, ok_bind, if_pos hne]
        exact ⟨_, rfl⟩
  · refine ⟨fun _ h => absurd h hids, fun _ => ?_⟩
    obtain ⟨blockers, hblockers⟩ := requestedTraceBlockers_succeeds hvalid hrequested
    have hne : blockers ≠ [] := by
      rintro rfl
      exact hids (requestedTraceBlockers_eq_nil_iff.mp hblockers)
    simp only [replayEvidence]
    rw [hblockers, ok_bind, if_pos hne]
    exact ⟨_, rfl⟩

/-! ## The replay of a trace id -/

variable {traceId : String} {resolver : DecisionTraceEvidenceResolver}

/-- The replay of the one record found for an id can show every comparison. -/
def RecordShows (resolver : DecisionTraceEvidenceResolver) (traceId : String) : Prop :=
  ∀ evidence, resolver traceId = [evidence] → TraceIdsMatch traceId evidence →
    evidence.bars ≠ [] → ∀ order, evidence.order = some order → OrderShows evidence order

omit [Sha256] in
/-- A failure report is returned for a canonical id. -/
theorem failureReport_succeeds {code : DecisionTraceReplayBlockerCode} {message : String}
    {expected actual : Option String} (htrace : isCanonicalId traceId = true)
    (hshown : Shown message ∧ (∀ text ∈ expected, Shown text) ∧ ∀ text ∈ actual, Shown text) :
    ∃ report, (DecisionTraceReplayBlocker.make code message expected actual >>=
      failureReport traceId) = .ok report := by
  obtain ⟨blocker, hblocker⟩ := DecisionTraceReplayBlocker.make_succeeds_iff.mpr hshown
  rw [hblocker]
  exact ⟨_, make_eq_ok_iff.mpr ⟨htrace, rfl⟩⟩

/-- The replay of an id returns a report exactly when the id is canonical and its record, if there
is just one, can be shown. -/
theorem replayDecisionTraceById_succeeds_iff
    (hvalid : ∀ evidence ∈ resolver (strip traceId), EvidenceValid evidence)
    (hblank : strip traceId ≠ "") :
    (∃ report, replayDecisionTraceById traceId resolver = .ok report) ↔
      isCanonicalId (strip traceId) = true ∧ RecordShows resolver (strip traceId) := by
  have hcanonical : ∀ report, replayDecisionTraceById traceId resolver = .ok report →
      isCanonicalId (strip traceId) = true := by
    intro report hreport
    have hid := traceId_of_replay hreport hblank
    simp only [replayDecisionTraceById, if_neg hblank] at hreport
    rw [← hid]
    split at hreport
    · obtain ⟨blocker, -, hmake⟩ := (bind_eq_ok_iff _ _ _).mp hreport
      obtain ⟨htrace, rfl⟩ := make_eq_ok_iff.mp hmake
      exact htrace
    · obtain ⟨outcome, -, hmake⟩ := (bind_eq_ok_iff _ _ _).mp hreport
      obtain ⟨htrace, rfl⟩ := make_eq_ok_iff.mp hmake
      exact htrace
    · obtain ⟨blocker, -, hmake⟩ := (bind_eq_ok_iff _ _ _).mp hreport
      obtain ⟨htrace, rfl⟩ := make_eq_ok_iff.mp hmake
      exact htrace
  have hrequested : Shown (strip traceId) := shown_strip hblank
  constructor
  · rintro ⟨report, hreport⟩
    refine ⟨hcanonical report hreport, ?_⟩
    intro evidence hfound
    simp only [replayDecisionTraceById, if_neg hblank, hfound] at hreport
    obtain ⟨outcome, houtcome, -⟩ := (bind_eq_ok_iff _ _ _).mp hreport
    apply (replayEvidence_succeeds_iff (hvalid evidence _) hrequested).mp ⟨outcome, houtcome⟩
    rw [hfound]
    exact List.mem_singleton_self evidence
  · rintro ⟨htrace, hshows⟩
    simp only [replayDecisionTraceById, if_neg hblank]
    -- no record, one record, several records
    rcases hfound : resolver (strip traceId) with _ | ⟨evidence, _ | ⟨second, rest⟩⟩
    · apply failureReport_succeeds htrace
      refine ⟨by decide, ?_, ?_⟩
      · rintro _ ⟨⟩
        exact hrequested
      · rintro _ ⟨⟩
        decide
    · obtain ⟨outcome, houtcome⟩ := (replayEvidence_succeeds_iff
        (hvalid evidence (by rw [hfound]; exact List.mem_singleton_self evidence))
        hrequested).mpr (hshows evidence hfound)
      exact ⟨_, (bind_eq_ok_iff _ _ _).mpr ⟨outcome, houtcome, make_eq_ok_iff.mpr ⟨htrace, rfl⟩⟩⟩
    · apply failureReport_succeeds htrace
      refine ⟨by decide, ?_, ?_⟩
      · rintro _ ⟨⟩
        decide
      · rintro _ ⟨⟩
        exact shown_toString _

end Totality

end TaModel.Audit
