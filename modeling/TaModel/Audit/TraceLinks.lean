import TaModel.Audit.Trace

/-!
# What an accepted envelope links

Inversion of `makeDecisionTraceEnvelope`: an envelope with an order links exactly one gateway event,
whose paper evidence passes the comparisons (`OrderLinked`), and it is the sealed draft over these
artifacts. An envelope without an order has a reason and no later artifact.
-/

set_option autoImplicit false

namespace TaModel.Audit

open Contracts

/-! ## Paper evidence -/

/-- The ids of the logs that cite an event. -/
def linkedLogIds (event : ExecutionGatewayLifecycleEvent) (report : PaperAccountSessionReport) :
    PaperLogIds where
  orderLogIds := (linkedOrderLogs event report).map PaperOrderLifecycleLogEntry.orderLogId
  fillLogIds := (linkedFillLogs event report).map PaperFillLogEntry.fillLogId
  rejectionLogIds := (linkedRejectionLogs event report).map PaperRejectionLogEntry.rejectionLogId

/-- The ids of the rows and issues that cite an event. -/
def linkedTcaIds (event : ExecutionGatewayLifecycleEvent) (report : PaperTcaReport) :
    PaperTcaIds where
  rowIds := (linkedRows event report).map PaperTcaRow.tcaRowId
  issueIds := (linkedIssues event report).map PaperTcaIssue.issueId

/-- The logs of a session report fit an event of a gateway report. -/
structure LogsFit (gatewayReport : ExecutionGatewayReport)
    (event : ExecutionGatewayLifecycleEvent) (report : PaperAccountSessionReport) : Prop where
  reportId : report.gatewayReportId = gatewayReport.gatewayReportId
  reportHash : report.gatewayReportHash = gatewayReport.gatewayReportHash
  one_order_log : (linkedOrderLogs event report).length = 1
  filled : event.status.isFilled = true → linkedFillLogs event report ≠ []
  not_filled : event.status.isFilled = false → linkedRejectionLogs event report ≠ []
  order_match : ∀ entry ∈ linkedOrderLogs event report,
    validatePaperOrderLogMatchesGateway event entry = .ok ()
  fill_match : ∀ entry ∈ linkedFillLogs event report,
    validatePaperFillLogMatchesGateway event entry = .ok ()
  rejection_match : ∀ entry ∈ linkedRejectionLogs event report,
    validatePaperRejectionLogMatchesGateway event entry = .ok ()

/-- The rows and issues of a TCA report fit an event of a gateway report. -/
structure TcaFits (gatewayReport : ExecutionGatewayReport)
    (event : ExecutionGatewayLifecycleEvent) (report : PaperTcaReport) : Prop where
  reportId : report.gatewayReportId = gatewayReport.gatewayReportId
  reportHash : report.gatewayReportHash = gatewayReport.gatewayReportHash
  filled : event.status.isFilled = true → linkedRows event report ≠ []
  not_filled : event.status.isFilled = false → linkedIssues event report ≠ []
  row_match : ∀ row ∈ linkedRows event report,
    validatePaperTcaRowMatchesGateway event row = .ok ()
  issue_match : ∀ issue ∈ linkedIssues event report,
    validatePaperTcaIssueMatchesGateway event issue = .ok ()

section Paper

variable {gatewayReport : ExecutionGatewayReport} {event : ExecutionGatewayLifecycleEvent}

theorem paperAccountIdsForEvent_eq_ok_iff {report : PaperAccountSessionReport}
    {ids : PaperLogIds} :
    paperAccountIdsForEvent report gatewayReport event = .ok ids ↔
      LogsFit gatewayReport event report ∧ ids = linkedLogIds event report := by
  simp only [paperAccountIdsForEvent, check_bind_eq_ok_iff, require_eq_ok_iff, forM_eq_ok_iff,
    Except.ok.injEq]
  constructor
  · rintro ⟨hid, hhash, hone, hfilled, hnot, horder, hfill, hrejection, rfl⟩
    exact ⟨⟨hid, hhash, hone, hfilled, hnot, horder, hfill, hrejection⟩, rfl⟩
  · rintro ⟨hfit, rfl⟩
    exact ⟨hfit.reportId, hfit.reportHash, hfit.one_order_log, hfit.filled, hfit.not_filled,
      hfit.order_match, hfit.fill_match, hfit.rejection_match, rfl⟩

theorem paperTcaIdsForEvent_eq_ok_iff {report : PaperTcaReport} {ids : PaperTcaIds} :
    paperTcaIdsForEvent report gatewayReport event = .ok ids ↔
      TcaFits gatewayReport event report ∧ ids = linkedTcaIds event report := by
  simp only [paperTcaIdsForEvent, check_bind_eq_ok_iff, require_eq_ok_iff, forM_eq_ok_iff,
    Except.ok.injEq]
  constructor
  · rintro ⟨hid, hhash, hfilled, hnot, hrow, hissue, rfl⟩
    exact ⟨⟨hid, hhash, hfilled, hnot, hrow, hissue⟩, rfl⟩
  · rintro ⟨hfit, rfl⟩
    exact ⟨hfit.reportId, hfit.reportHash, hfit.filled, hfit.not_filled, hfit.row_match,
      hfit.issue_match, rfl⟩

theorem matchingGatewayEvent_eq_ok_iff {riskEvent : RiskCheckEvent} {decision : StrategyDecision} :
    matchingGatewayEvent gatewayReport riskEvent decision = .ok event ↔
      gatewayReport.events.filter (isTraceEvent riskEvent decision) = [event] := by
  simp only [matchingGatewayEvent]
  split
  · next e hfilter =>
      rw [hfilter, Except.ok.injEq, List.cons.injEq]
      exact ⟨fun h => ⟨h, rfl⟩, fun h => h.1⟩
  · next hnot =>
      exact ⟨nofun, fun h => absurd h (hnot event)⟩

/-- The event of a trace is one of the events of the gateway report. -/
theorem mem_of_matchingGatewayEvent {riskEvent : RiskCheckEvent} {decision : StrategyDecision}
    (h : matchingGatewayEvent gatewayReport riskEvent decision = .ok event) :
    event ∈ gatewayReport.events ∧ isTraceEvent riskEvent decision event = true := by
  have hfilter := matchingGatewayEvent_eq_ok_iff.mp h
  have hmem : event ∈ gatewayReport.events.filter (isTraceEvent riskEvent decision) := by
    rw [hfilter]
    exact List.mem_singleton_self event
  exact List.mem_filter.mp hmem

end Paper

/-! ## Envelopes with an order -/

section Orders

variable [Sha256]

/-- The artifacts of an order pass every comparison on the way to an envelope, up to the gateway
event. -/
structure OrderMatched (decision : StrategyDecision) (orderIntent : OrderIntent)
    (riskEvent : RiskCheckEvent) (gatewayReport : ExecutionGatewayReport)
    (event : ExecutionGatewayLifecycleEvent) : Prop where
  intent : validateOrderIntentMatchesDecision orderIntent decision = .ok ()
  risk : validateRiskEventMatchesOrder riskEvent orderIntent decision = .ok ()
  event_eq : matchingGatewayEvent gatewayReport riskEvent decision = .ok event
  gateway : validateGatewayEventMatchesRiskOrder event riskEvent orderIntent = .ok ()

/-- The artifacts of an order pass every comparison on the way to an envelope. -/
structure OrderLinked (decision : StrategyDecision) (order : OrderArtifacts)
    (event : ExecutionGatewayLifecycleEvent) : Prop where
  matched : OrderMatched decision order.orderIntent order.riskEvent order.gatewayReport event
  logs : LogsFit order.gatewayReport event order.paperAccountReport
  tca : TcaFits order.gatewayReport event order.paperTcaReport
  runId : order.gatewayReport.runId = order.paperAccountReport.runId

/-- The envelope over linked artifacts. -/
def orderEnvelope (forecast : Forecast) (decision : StrategyDecision) (order : OrderArtifacts)
    (event : ExecutionGatewayLifecycleEvent) : DecisionTraceEnvelope :=
  DecisionTraceEnvelope.stamping.sealed
    (orderDraft forecast decision order event (linkedLogIds event order.paperAccountReport)
      (linkedTcaIds event order.paperTcaReport))

variable {forecast : Forecast} {decision : StrategyDecision} {order : OrderArtifacts}
  {event : ExecutionGatewayLifecycleEvent} {envelope : DecisionTraceEnvelope}

/-- A draft over an order is complete; it needs an order log and one run. -/
theorem orderDraft_validateFields_iff (logIds : PaperLogIds) (tcaIds : PaperTcaIds) :
    (orderDraft forecast decision order event logIds tcaIds).validateFields = .ok () ↔
      logIds.orderLogIds ≠ [] ∧ order.gatewayReport.runId = order.paperAccountReport.runId := by
  rw [DecisionTraceEnvelope.validateFields_eq_ok_iff,
    DecisionTraceEnvelope.validateOrderTraceIsComplete_eq_ok_iff]
  constructor
  · rintro ⟨-, horder, -, hrun⟩
    obtain ⟨-, -, -, -, -, -, -, -, -, hlogs⟩ := horder nofun
    exact ⟨hlogs, hrun _ rfl _ rfl⟩
  · rintro ⟨hlogs, hrun⟩
    refine ⟨⟨nofun, nofun⟩, ?_, nofun, ?_⟩
    · intro _
      -- every id comes with its hash
      exact ⟨rfl, ⟨nofun, nofun, nofun⟩, nofun, ⟨nofun, nofun⟩, ⟨nofun, nofun⟩, ⟨nofun, nofun⟩,
        ⟨nofun, nofun⟩, ⟨nofun, nofun⟩, ⟨nofun, nofun⟩, hlogs⟩
    · rintro _ ⟨⟩ _ ⟨⟩
      exact hrun

theorem makeOrderEnvelope_eq_ok_iff :
    makeOrderEnvelope forecast decision order = .ok envelope ↔
      ∃ event, OrderLinked decision order event ∧
        envelope = orderEnvelope forecast decision order event := by
  simp only [makeOrderEnvelope, bind_eq_ok_iff, paperAccountIdsForEvent_eq_ok_iff,
    paperTcaIdsForEvent_eq_ok_iff, Library.Stamping.construct_eq_ok_iff]
  constructor
  · rintro ⟨_, hintent, _, hrisk, event, hevent, _, hgateway, logIds, ⟨hlogs, rfl⟩, tcaIds,
      ⟨htca, rfl⟩, hfields, henvelope⟩
    obtain ⟨-, hrun⟩ := (orderDraft_validateFields_iff _ _).mp hfields
    exact ⟨event, ⟨⟨hintent, hrisk, hevent, hgateway⟩, hlogs, htca, hrun⟩, henvelope⟩
  · rintro ⟨event, hlinked, henvelope⟩
    have hids : (linkedLogIds event order.paperAccountReport).orderLogIds ≠ [] := by
      intro hnil
      have hone := hlinked.logs.one_order_log
      rw [List.map_eq_nil_iff.mp hnil] at hone
      cases hone
    exact ⟨(), hlinked.matched.intent, (), hlinked.matched.risk, event, hlinked.matched.event_eq,
      (), hlinked.matched.gateway, _, ⟨hlinked.logs, rfl⟩, _, ⟨hlinked.tca, rfl⟩,
      (orderDraft_validateFields_iff _ _).mpr ⟨hids, hlinked.runId⟩, henvelope⟩

/-- The arguments of `make_decision_trace_envelope` for a trace with an order. -/
def OrderArtifacts.toTrace (order : OrderArtifacts) (forecast : Forecast)
    (decision : StrategyDecision) : TraceArtifacts where
  forecast := forecast
  decision := decision
  orderIntent := some order.orderIntent
  riskEvent := some order.riskEvent
  gatewayReport := some order.gatewayReport
  paperAccountReport := some order.paperAccountReport
  paperTcaReport := some order.paperTcaReport

theorem makeDecisionTraceEnvelope_order_iff :
    makeDecisionTraceEnvelope (order.toTrace forecast decision) = .ok envelope ↔
      validateForecastDecisionLineage forecast decision = .ok () ∧
      ∃ event, OrderLinked decision order event ∧
        envelope = orderEnvelope forecast decision order event := by
  rw [← makeOrderEnvelope_eq_ok_iff]
  exact check_bind_eq_ok_iff _ _ _

/-! ## Envelopes without an order -/

/-- The envelope of a decision without an order. -/
def noOrderEnvelope (forecast : Forecast) (decision : StrategyDecision) : DecisionTraceEnvelope :=
  DecisionTraceEnvelope.stamping.sealed
    (noOrderDraft forecast decision (noOrderReason decision))

omit [Sha256] in
theorem noOrderDraft_validateFields (hreason : noOrderReason decision ≠ none) :
    (noOrderDraft forecast decision (noOrderReason decision)).validateFields = .ok () := by
  apply (DecisionTraceEnvelope.validateFields_eq_ok_iff _).mpr
  refine ⟨⟨fun _ => rfl, fun _ => rfl⟩, fun h => absurd rfl h, ?_, nofun⟩
  intro _
  apply (DecisionTraceEnvelope.validateNoOrderTrace_eq_ok_iff _).mpr
  exact ⟨hreason, ⟨rfl, rfl, rfl, rfl, rfl, rfl, rfl, rfl, rfl, rfl, rfl, rfl, rfl, rfl, rfl, rfl,
    rfl⟩, rfl, rfl, rfl, rfl, rfl⟩

theorem makeDecisionTraceEnvelope_noOrder_iff :
    makeDecisionTraceEnvelope { forecast := forecast, decision := decision } = .ok envelope ↔
      validateForecastDecisionLineage forecast decision = .ok () ∧
      noOrderReason decision ≠ none ∧ envelope = noOrderEnvelope forecast decision := by
  simp only [makeDecisionTraceEnvelope, check_bind_eq_ok_iff, require_eq_ok_iff,
    Library.Stamping.construct_eq_ok_iff]
  constructor
  · rintro ⟨hlineage, -, hreason, -, henvelope⟩
    exact ⟨hlineage, hreason, henvelope⟩
  · rintro ⟨hlineage, hreason, henvelope⟩
    exact ⟨hlineage, rfl, hreason, noOrderDraft_validateFields hreason, henvelope⟩

end Orders

/-! ## A traded and a declined decision -/

section Samples

variable [Sha256]

omit [Sha256] in
theorem evenMetadata_nodup :
    ([("candidate_name", "CANDIDATE")].map Prod.fst : List String).Nodup := by decide

/-- A forecast of even odds, under the given id. -/
def evenForecast (forecastId : String) : Forecast :=
  let trainingRunHash := Contracts.hash .null
  let trainingRunId := Forecast.buildTrainingRunId trainingRunHash
  let modelVersionHash := Forecast.buildModelVersionHash trainingRunId trainingRunHash "CANDIDATE"
  { forecastId := forecastId, datasetSnapshotId := "DATASET", datasetHash := Contracts.hash .null,
    datasetRowId := "ROW", featureVectorId := "VECTOR", featureInputSnapshotId := "FEATURES",
    featureVersion := "V1", sourceFeatureSnapshotIds := [], instrumentId := "BTC-USD",
    venueId := "VENUE", featureTs := ⟨0, 0⟩, labelRuleId := "LABEL", split := .test,
    trainingRunId := trainingRunId, trainingRunHash := trainingRunHash,
    modelVersionId := Forecast.buildModelVersionId modelVersionHash,
    modelVersionHash := modelVersionHash,
    probabilities := ⟨[("up", 1 / 2), ("down", 1 / 2)], by decide⟩,
    quantiles := [⟨⟨1 / 2, Decimal.half_is_level⟩, 0⟩], uncertainty := ⟨0, Decimal.zero_le_zero⟩,
    calibrationStatus := .uncalibrated,
    calibrationMetadata := ⟨[("candidate_name", "CANDIDATE")], evenMetadata_nodup⟩ }

/-- The forecast of even odds. -/
def sampleForecast : Forecast := evenForecast (evenForecast "").buildId

theorem sampleForecast_valid : sampleForecast.validate = .ok () := by
  have hodds : sampleForecast.validateProbabilities = .ok () := by
    simp only [Forecast.validateProbabilities, check_bind_eq_ok_iff, require_eq_ok_iff,
      forM_eq_ok_iff]
    refine ⟨le_refl 2, ?_, ?_⟩
    · intro entry hentry
      have hhalf : entry.2 = 1 / 2 := by
        rcases List.mem_cons.mp hentry with rfl | hentry
        · rfl
        · rw [List.mem_singleton.mp hentry]
      rw [hhalf]
      norm_num
    · show decimalSum [1 / 2, 1 / 2] = 1
      decide +kernel
  have hname : sampleForecast.calibrationMetadata.get "candidate_name" = some "CANDIDATE" := by
    simp [sampleForecast, evenForecast, StringDict.get]
  have hsplit : sampleForecast.split ≠ .train := by
    intro htrain
    cases htrain
  exact Forecast.validate_of_lineage ⟨isHexDigest_hash _, isHexDigest_hash _⟩ hodds
    (List.cons_ne_nil _ _) rfl hsplit rfl hname rfl rfl rfl

/-- A decision on the forecast of even odds. -/
def decisionOn (action : StrategyDecisionAction) (reasonCode : StrategyDecisionReasonCode)
    (sizing : StrategySizingProposal) : StrategyDecision :=
  let policyHash := Contracts.hash .null
  StrategyDecision.stamping.sealed
    { decisionId := "", decisionHash := "",
      traceId := StrategyDecision.buildTraceId "RUN" sampleForecast.forecastId policyHash ⟨0, 0⟩,
      strategyRunId := "RUN", policyId := "POLICY", policyHash := policyHash,
      sourceForecastId := sampleForecast.forecastId, datasetSnapshotId := "DATASET",
      datasetRowId := "ROW", featureVectorId := "VECTOR", featureInputSnapshotId := "FEATURES",
      featureVersion := "V1", sourceFeatureSnapshotIds := [], instrumentId := "BTC-USD",
      venueId := "VENUE", featureTs := ⟨0, 0⟩, decisionTs := ⟨0, 0⟩, labelRuleId := "LABEL",
      split := .test, trainingRunId := sampleForecast.trainingRunId,
      modelVersionId := sampleForecast.modelVersionId,
      modelVersionHash := sampleForecast.modelVersionHash, action := action, expectedReturn := 1,
      expectedCost := ⟨0, Decimal.zero_le_zero⟩, uncertainty := ⟨0, Decimal.zero_le_zero⟩,
      uncertaintyBuffer := ⟨0, Decimal.zero_le_zero⟩, netEdge := 1, reasonCode := reasonCode,
      sizing := sizing }

theorem decisionOn_lineage (action : StrategyDecisionAction)
    (reasonCode : StrategyDecisionReasonCode) (sizing : StrategySizingProposal) :
    validateForecastDecisionLineage sampleForecast (decisionOn action reasonCode sizing) =
      .ok () := by
  apply (raiseOnMismatches_eq_ok_iff _ _).mpr
  simp [decisionOn, Library.Stamping.sealed, StrategyDecision.stamping, sampleForecast,
    evenForecast, AwareDatetime.sameInstant]

theorem decisionOn_valid {action : StrategyDecisionAction}
    {reasonCode : StrategyDecisionReasonCode} {sizing : StrategySizingProposal}
    (hsizing : sizing.validate = .ok ())
    (haction : (decisionOn action reasonCode sizing).validateAction = .ok ()) :
    (decisionOn action reasonCode sizing).validate = .ok () := by
  apply (StrategyDecision.stamping.validate_sealed _).mpr
  apply (StrategyDecision.validateFields_eq_ok_iff _).mpr
  refine ⟨hsizing, nofun, le_refl _, ?_, rfl, haction⟩
  show (1 : Decimal) = 1 - 0 - 0
  norm_num

/-- A decision to buy 1 `BTC-USD` at 100 USD. -/
def boughtDecision : StrategyDecision :=
  decisionOn .buy .tradePositiveNetEdge
    { sizingStatus := .proposedPendingIndependentRisk,
      sizingInputs := some
        { riskBudgetNotional := ⟨100, Decimal.zero_le_hundred⟩, referencePrice := ⟨100, Decimal.zero_lt_hundred⟩,
          maxDrawdown := ⟨1, Decimal.zero_lt_one⟩ },
      sizingReasonCodes := [.positivePreRiskSize], preRiskMultiplier := ⟨1, Decimal.one_mem_unit⟩,
      proposedNotional := ⟨100, Decimal.zero_le_hundred⟩, proposedQuantity := ⟨1, Decimal.zero_le_one⟩ }

theorem boughtDecision_valid : boughtDecision.validate = .ok () :=
  decisionOn_valid (ok_unit_of_toBool _ (by decide)) (ok_unit_of_toBool _ rfl)

/-- A decision not to trade. -/
def declinedDecision : StrategyDecision := decisionOn .noTrade .insufficientNetEdge {}

theorem declinedDecision_valid : declinedDecision.validate = .ok () :=
  decisionOn_valid (ok_unit_of_toBool _ (by decide)) (ok_unit_of_toBool _ rfl)

end Samples

end TaModel.Audit
