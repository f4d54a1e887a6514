import TaModel.Audit.Economics
import TaModel.Audit.ReplayCases
import TaModel.Contracts.PayloadLaws

/-!
# What a verdict of the audit replay says about the evidence

A passed replay has rebuilt the stored reports and the stored envelope from the stored inputs
(`storedIsRebuilt_of_record`). A `no_order` verdict looks at the forecast, the decision and the
envelope only: the record may carry a risk event or a report besides. `replay_sound_iff` says that
such a stray artifact is all that can be wrong with a verdict.
-/

set_option autoImplicit false

namespace TaModel.Audit

open Contracts Execution

section Soundness

variable [Sha256]

/-! ## Passed replays -/

/-- Two artifacts with one id and one digest; without a collision their hashed fields agree. -/
structure SameArtifact (idStored idRebuilt hashStored hashRebuilt : String)
    (fieldsStored fieldsRebuilt : List (String × Payload)) : Prop where
  id_eq : idStored = idRebuilt
  hash_eq : hashStored = hashRebuilt
  fields_eq : CollisionFree [.record fieldsStored, .record fieldsRebuilt] →
    fieldsStored = fieldsRebuilt

/-- The digests of valid artifacts are those of their fields. -/
theorem SameArtifact.of_hashes {idStored idRebuilt hashStored hashRebuilt : String}
    {fieldsStored fieldsRebuilt : List (String × Payload)}
    (hid : idStored = idRebuilt) (hhash : hashStored = hashRebuilt)
    (hstored : hashStored = Contracts.hash (.record fieldsStored))
    (hrebuilt : hashRebuilt = Contracts.hash (.record fieldsRebuilt)) :
    SameArtifact idStored idRebuilt hashStored hashRebuilt fieldsStored fieldsRebuilt :=
  ⟨hid, hhash, fun hfree => hfree.fields_eq (hstored.symm.trans (hhash.trans hrebuilt))⟩

/-- The stored reports and the stored envelope of an order are the ones rebuilt from its stored
inputs, for one gateway event and one trace id. -/
structure StoredIsRebuilt (requestedTraceId : String) (evidence : DecisionTraceReplayEvidence)
    (order : OrderArtifacts) (event : ExecutionGatewayLifecycleEvent)
    (replayed : ReplayedOrder) : Prop where
  order_eq : evidence.order = some order
  rebuilds : Rebuilds evidence order replayed
  gatewayReport : SameArtifact order.gatewayReport.gatewayReportId
    replayed.gatewayReport.gatewayReportId order.gatewayReport.gatewayReportHash
    replayed.gatewayReport.gatewayReportHash order.gatewayReport.identityFields
    replayed.gatewayReport.identityFields
  paperAccountReport : SameArtifact order.paperAccountReport.sessionReportId
    replayed.paperAccountReport.sessionReportId order.paperAccountReport.sessionReportHash
    replayed.paperAccountReport.sessionReportHash order.paperAccountReport.identityFields
    replayed.paperAccountReport.identityFields
  paperTcaReport : SameArtifact order.paperTcaReport.tcaReportId
    replayed.paperTcaReport.tcaReportId order.paperTcaReport.tcaReportHash
    replayed.paperTcaReport.tcaReportHash order.paperTcaReport.identityFields
    replayed.paperTcaReport.identityFields
  envelope : SameArtifact evidence.envelope.traceEnvelopeId replayed.envelope.traceEnvelopeId
    evidence.envelope.traceEnvelopeHash replayed.envelope.traceEnvelopeHash
    evidence.envelope.identityFields replayed.envelope.identityFields
  one_event : order.gatewayReport.events = [event]
  ids : TraceIdsMatch requestedTraceId evidence
  risk_id : order.riskEvent.request.traceId = requestedTraceId
  event_id : event.traceId = requestedTraceId

/-! The reports and envelopes that the builders return pass their validators. -/

theorem runPaperGatewayReplay_valid {inputs : GatewayInputs} {events : List RiskCheckEvent}
    {report : ExecutionGatewayReport} (h : runPaperGatewayReplay inputs events = .ok report) :
    report.validate = .ok () := by
  obtain ⟨gated, pairs, lifecycle, -, -, -, hfields, rfl⟩ := runGateway_eq_ok_iff.mp h
  exact (ExecutionGatewayReport.stamping.validate_sealed _).mpr hfields

theorem makePaperAccountSessionReport_valid {report : ExecutionGatewayReport}
    {args : AccountStateArguments} {paper : PaperAccountSessionReport}
    (h : makePaperAccountSessionReport report args = .ok paper) : paper.validate = .ok () := by
  simp only [makePaperAccountSessionReport, bind_eq_ok_iff] at h
  obtain ⟨_, -, _, -, _, -, _, -, _, -, _, -, _, -, hconstruct⟩ := h
  exact Library.Stamping.validate_of_construct _ hconstruct

theorem makePaperTcaReport_valid {report : ExecutionGatewayReport} {quotes : List QuoteEvent}
    {tca : PaperTcaReport} (h : makePaperTcaReport report quotes = .ok tca) :
    tca.validate = .ok () := by
  simp only [makePaperTcaReport, bind_eq_ok_iff] at h
  obtain ⟨_, -, _, -, _, -, hconstruct⟩ := h
  exact Library.Stamping.validate_of_construct _ hconstruct

theorem makeDecisionTraceEnvelope_valid {order : OrderArtifacts} {forecast : Forecast}
    {decision : StrategyDecision} {envelope : DecisionTraceEnvelope}
    (h : makeDecisionTraceEnvelope (order.toTrace forecast decision) = .ok envelope) :
    envelope.validate = .ok () := by
  obtain ⟨-, event, hlinked, henvelope⟩ := makeDecisionTraceEnvelope_order_iff.mp h
  have hconstruct := makeOrderEnvelope_eq_ok_iff.mpr ⟨event, hlinked, henvelope⟩
  simp only [makeOrderEnvelope, bind_eq_ok_iff] at hconstruct
  obtain ⟨_, -, _, -, _, -, _, -, _, -, _, -, hconstruct⟩ := hconstruct
  exact Library.Stamping.validate_of_construct _ hconstruct

theorem storedIsRebuilt_of_record {requestedTraceId : String}
    {evidence : DecisionTraceReplayEvidence} {order : OrderArtifacts}
    {event : ExecutionGatewayLifecycleEvent} {replayed : ReplayedOrder}
    (h : PassingRecord requestedTraceId evidence order event replayed) :
    StoredIsRebuilt requestedTraceId evidence order event replayed := by
  obtain ⟨-, -, hgateway, hpaper, htca⟩ := order_eq_some_iff.mp h.order_eq
  obtain ⟨hgatewayId, hgatewayHash, stored, rebuilt, hstored, hrebuilt, -⟩ :=
    compareGatewayReports_eq_nil h.reproduces.gateway_same
  obtain ⟨hpaperId, hpaperHash⟩ := comparePaperReports_eq_nil h.reproduces.paper_same
  obtain ⟨htcaId, htcaHash⟩ := compareTcaReports_eq_nil h.reproduces.tca_same
  have hrebuilds := h.reproduces.toRebuilds
  have hgatewayValid := runPaperGatewayReplay_valid hrebuilds.gateway
  have hpaperValid := makePaperAccountSessionReport_valid hrebuilds.paper
  have htcaValid := makePaperTcaReport_valid hrebuilds.tca
  have henvelopeValid := makeDecisionTraceEnvelope_valid hrebuilds.envelope
  -- the only stored event is the one that the envelope links
  obtain ⟨hevent, htrace⟩ := mem_of_matchingGatewayEvent h.linked.matched.event_eq
  rw [hstored] at hevent
  obtain rfl : event = stored := List.mem_singleton.mp hevent
  simp only [isTraceEvent, Bool.and_eq_true, decide_eq_true_eq] at htrace
  have hrisk := h.linked.matched.risk
  simp only [validateRiskEventMatchesOrder, check_bind_eq_ok_iff, require_eq_ok_iff] at hrisk
  refine ⟨h.order_eq, hrebuilds, ?_, ?_, ?_, ?_, hstored, h.ids,
    hrisk.1.trans h.ids.decision_id, htrace.1.2.trans h.ids.decision_id⟩
  · exact .of_hashes hgatewayId hgatewayHash
      ((ExecutionGatewayReport.stamping.validate_eq_ok_iff _).mp
        (h.artifacts.gatewayReport _ hgateway)).2.1
      ((ExecutionGatewayReport.stamping.validate_eq_ok_iff _).mp hgatewayValid).2.1
  · exact .of_hashes hpaperId hpaperHash
      ((PaperAccountSessionReport.stamping.validate_eq_ok_iff _).mp
        (h.artifacts.paperAccountReport _ hpaper)).2.1
      ((PaperAccountSessionReport.stamping.validate_eq_ok_iff _).mp hpaperValid).2.1
  · exact .of_hashes htcaId htcaHash
      ((PaperTcaReport.stamping.validate_eq_ok_iff _).mp
        (h.artifacts.paperTcaReport _ htca)).2.1
      ((PaperTcaReport.stamping.validate_eq_ok_iff _).mp htcaValid).2.1
  · exact .of_hashes h.reproduces.envelope_same.traceEnvelopeId
      h.reproduces.envelope_same.traceEnvelopeHash
      ((DecisionTraceEnvelope.stamping.validate_eq_ok_iff _).mp h.envelope_valid).2.1
      ((DecisionTraceEnvelope.stamping.validate_eq_ok_iff _).mp henvelopeValid).2.1

/-! ## Both verdicts -/

/-- The record carries no artifact after the decision. -/
def DecisionTraceReplayEvidence.IsBare (evidence : DecisionTraceReplayEvidence) : Prop :=
  evidence.riskEvent = none ∧ evidence.gatewayReport = none ∧
    evidence.paperAccountReport = none ∧ evidence.paperTcaReport = none

/-- A verdict other than `failed` is backed by the one record the resolver returns. -/
structure ReplaySound (resolver : DecisionTraceEvidenceResolver) (traceId : String) : Prop where
  noOrder : ∀ report, replayDecisionTraceById traceId resolver = .ok report →
    report.status = .noOrder →
    ∃ evidence, resolver (strip traceId) = [evidence] ∧ evidence.IsBare
  passed : ∀ report, replayDecisionTraceById traceId resolver = .ok report →
    report.status = .passed →
    ∃ evidence order event replayed, resolver (strip traceId) = [evidence] ∧
      StoredIsRebuilt (strip traceId) evidence order event replayed

/-- The only record is that of a decision without an order, with a stray artifact. -/
def HasStrayArtifact (resolver : DecisionTraceEvidenceResolver) (traceId : String) : Prop :=
  ∃ evidence, resolver (strip traceId) = [evidence] ∧ NoOrderRecord (strip traceId) evidence ∧
    ¬ evidence.IsBare

/-- The verdict on such a record is `no_order`. -/
theorem not_replaySound_of_stray {resolver : DecisionTraceEvidenceResolver} {traceId : String}
    (h : HasStrayArtifact resolver traceId) : ¬ ReplaySound resolver traceId := by
  obtain ⟨evidence, hfound, hrecord, hstray⟩ := h
  intro hsound
  have hreplay := replayDecisionTraceById_of_outcome
    (isCanonicalId_of_ids hrecord.ids hrecord.artifacts) hfound (replayEvidence_noOrder hrecord)
  obtain ⟨evidence', hfound', hbare⟩ := hsound.noOrder _ hreplay rfl
  rw [hfound] at hfound'
  cases hfound'
  exact hstray hbare

theorem replay_sound_iff (resolver : DecisionTraceEvidenceResolver) (traceId : String) :
    ReplaySound resolver traceId ↔ ¬ HasStrayArtifact resolver traceId := by
  constructor
  · intro hsound hstray
    exact not_replaySound_of_stray hstray hsound
  · intro hclean
    refine ⟨?_, ?_⟩
    · intro report hreport hstatus
      rcases replayDecisionTraceById_cases hreport with
        ⟨hfailed, -⟩ | ⟨evidence, hfound, ⟨hrecord, -⟩ | ⟨_, _, _, -, rfl⟩⟩
      · rw [hfailed] at hstatus
        cases hstatus
      · refine ⟨evidence, hfound, ?_⟩
        by_contra hstray
        exact hclean ⟨evidence, hfound, hrecord, hstray⟩
      · cases hstatus
    · intro report hreport hstatus
      rcases replayDecisionTraceById_cases hreport with
        ⟨hfailed, -⟩ | ⟨evidence, hfound, ⟨-, rfl⟩ | ⟨order, event, replayed, hrecord, -⟩⟩
      · rw [hfailed] at hstatus
        cases hstatus
      · cases hstatus
      · exact ⟨evidence, order, event, replayed, hfound, storedIsRebuilt_of_record hrecord⟩

/-! ## A stray risk event -/

omit [Sha256] in
/-- The store of one record finds it under its trace id. -/
theorem inMemoryStore_self (evidence : DecisionTraceReplayEvidence) :
    inMemoryStore [evidence] evidence.traceId = [evidence] :=
  List.filter_cons_of_pos (decide_eq_true rfl)

/-- The record of a declined decision, with the risk event of a traded one. -/
def strayRecord : DecisionTraceReplayEvidence where
  traceId := declinedDecision.traceId
  envelope := noOrderEnvelope sampleForecast declinedDecision
  forecast := sampleForecast
  decision := declinedDecision
  riskEvent := some (tracedRisk .clear)

theorem noOrderReason_declined : noOrderReason declinedDecision ≠ none := by
  have hreason : noOrderReason declinedDecision =
      some ("strategy_no_trade:" ++ declinedDecision.reasonCode.value) := if_pos rfl
  rw [hreason]
  exact Option.some_ne_none _

theorem strayRecord_artifacts : ArtifactsValid strayRecord := by
  refine ⟨sampleForecast_valid, declinedDecision_valid, ?_, ?_, ?_, ?_, ?_⟩
  · intro riskEvent hrisk
    cases hrisk
    exact ⟨tracedRisk_valid .clear, tracedRequest_valid .clear⟩
  · intro report hreport
    cases hreport
  · intro report hreport
    cases hreport
  · intro report hreport
    cases hreport
  · intro snapshot hsnapshot
    cases hsnapshot

theorem strayRecord_noOrder : NoOrderRecord declinedDecision.traceId strayRecord where
  ids := ⟨rfl, rfl, rfl⟩
  envelope_valid := (DecisionTraceEnvelope.stamping.validate_sealed _).mpr
    (noOrderDraft_validateFields noOrderReason_declined)
  artifacts := strayRecord_artifacts
  no_intent := rfl
  no_stored_intent := rfl
  lineage := decisionOn_lineage _ _ _
  reason := noOrderReason_declined
  same := SameEnvelope.refl _

theorem strayRecord_hasStray :
    HasStrayArtifact (inMemoryStore [strayRecord]) declinedDecision.traceId := by
  have hstrip : strip declinedDecision.traceId = declinedDecision.traceId :=
    strip_of_isCanonicalId (StrategyDecision.isCanonicalId_traceId declinedDecision_valid)
  rw [HasStrayArtifact, hstrip]
  refine ⟨strayRecord, inMemoryStore_self _, strayRecord_noOrder, ?_⟩
  rintro ⟨hrisk, -⟩
  cases hrisk

end Soundness

/-- The replay of a declined decision reports no order next to a stored risk event. -/
theorem replay_ignores_stray_risk_event :
    ¬ @ReplaySound hashlibSha256 (inMemoryStore [@strayRecord hashlibSha256])
      (@declinedDecision hashlibSha256).traceId :=
  @not_replaySound_of_stray hashlibSha256 _ _ (@strayRecord_hasStray hashlibSha256)

end TaModel.Audit
