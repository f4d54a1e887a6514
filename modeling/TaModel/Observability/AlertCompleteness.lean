import TaModel.Audit.HonestEvidence
import TaModel.Observability.ReportTotal

/-!
# Alert completeness

A report routes one alert, in rule order, for every selected rule whose metric stands in the rule's
relation to its threshold. The metrics are always the same fifteen; a rule on any other id is
skipped, and the pre-trade block count looks at the risk events it is handed and not at the gateway
report.
-/

set_option autoImplicit false

namespace TaModel.Observability

open TaModel.Contracts

/-! ## What a rule asks for -/

/-- The relation an operator names, between a value and a threshold. -/
def Stands : PaperReadinessAlertOperator → Decimal → Decimal → Prop
  | .greaterThan, value, threshold => value > threshold
  | .greaterThanOrEqual, value, threshold => value ≥ threshold
  | .lessThan, value, threshold => value < threshold
  | .lessThanOrEqual, value, threshold => value ≤ threshold
  | .equal, value, threshold => value = threshold

instance (operator : PaperReadinessAlertOperator) (value threshold : Decimal) :
    Decidable (Stands operator value threshold) := by
  cases operator with
  | greaterThan => exact inferInstanceAs (Decidable (value > threshold))
  | greaterThanOrEqual => exact inferInstanceAs (Decidable (value ≥ threshold))
  | lessThan => exact inferInstanceAs (Decidable (value < threshold))
  | lessThanOrEqual => exact inferInstanceAs (Decidable (value ≤ threshold))
  | equal => exact inferInstanceAs (Decidable (value = threshold))

/-- A metric of the rule's id stands in the rule's relation to its threshold. -/
def Fires (evidence : List PaperReadinessMetricEvidence) (rule : PaperReadinessAlertRule) : Prop :=
  ∃ metric ∈ evidence, metric.metricId = rule.metricId ∧
    Stands rule.operator metric.currentValue rule.threshold

instance (evidence : List PaperReadinessMetricEvidence) (rule : PaperReadinessAlertRule) :
    Decidable (Fires evidence rule) := by
  unfold Fires
  infer_instance

/-- The alert of a rule: its route, its threshold and the value and links of its metric. -/
structure AlertOf (evidence : List PaperReadinessMetricEvidence) (rule : PaperReadinessAlertRule)
    (alert : PaperReadinessAlertEvent) : Prop where
  ruleId : alert.ruleId = rule.ruleId
  routeId : alert.routeId = rule.route.routeId
  metricId : alert.metricId = rule.metricId
  operator : alert.operator = rule.operator
  threshold : alert.threshold = rule.threshold
  metric : ∃ metric ∈ evidence, metric.metricId = rule.metricId ∧
    alert.currentValue = metric.currentValue ∧ alert.sourceLinks = metric.sourceLinks

theorem ruleBreaches_iff (rule : PaperReadinessAlertRule) (metric : PaperReadinessMetricEvidence) :
    ruleBreaches rule metric = true ↔ Stands rule.operator metric.currentValue rule.threshold := by
  unfold ruleBreaches
  cases rule.operator with
  | greaterThan => exact decide_eq_true_iff
  | greaterThanOrEqual => exact decide_eq_true_iff
  | lessThan => exact decide_eq_true_iff
  | lessThanOrEqual => exact decide_eq_true_iff
  | equal => exact decide_eq_true_iff

/-! ## The metrics by id -/

/-- Where ids are distinct, a lookup finds the metric of the id. -/
theorem metricById_eq_some_iff {evidence : List PaperReadinessMetricEvidence}
    (hnodup : (evidence.map PaperReadinessMetricEvidence.metricId).Nodup) (metricId : String)
    (metric : PaperReadinessMetricEvidence) :
    metricById evidence metricId = some metric ↔
      metric ∈ evidence ∧ metric.metricId = metricId := by
  constructor
  · intro h
    have hid := List.find?_some h
    exact ⟨List.mem_reverse.mp (List.mem_of_find?_eq_some h), beq_iff_eq.mp hid⟩
  · rintro ⟨hmem, rfl⟩
    cases hfind : metricById evidence metric.metricId with
    | none =>
        have hnone := List.find?_eq_none.mp hfind metric (List.mem_reverse.mpr hmem)
        exact absurd (beq_self_eq_true _) hnone
    | some other =>
        have hid := List.find?_some hfind
        have hother : other ∈ evidence := List.mem_reverse.mp (List.mem_of_find?_eq_some hfind)
        rw [List.inj_on_of_nodup_map hnodup hother hmem (beq_iff_eq.mp hid)]

/-- A rule is kept with its metric exactly when the metric is in the evidence and the rule fires. -/
theorem breachedMetric_eq_some_iff {evidence : List PaperReadinessMetricEvidence}
    (hnodup : (evidence.map PaperReadinessMetricEvidence.metricId).Nodup)
    (rule : PaperReadinessAlertRule)
    (entry : PaperReadinessAlertRule × PaperReadinessMetricEvidence) :
    breachedMetric evidence rule = some entry ↔
      entry.1 = rule ∧ entry.2 ∈ evidence ∧ entry.2.metricId = rule.metricId ∧
        Stands rule.operator entry.2.currentValue rule.threshold := by
  unfold breachedMetric
  cases hfind : metricById evidence rule.metricId with
  | none =>
      refine iff_of_false (by simp) ?_
      rintro ⟨-, hmem, hid, -⟩
      rw [(metricById_eq_some_iff hnodup _ _).mpr ⟨hmem, hid⟩] at hfind
      cases hfind
  | some metric =>
      obtain ⟨hmem, hid⟩ := (metricById_eq_some_iff hnodup _ _).mp hfind
      simp only [Option.ite_none_right_eq_some, ruleBreaches_iff, Option.some.injEq]
      constructor
      · rintro ⟨hstands, rfl⟩
        exact ⟨rfl, hmem, hid, hstands⟩
      · rintro ⟨hrule, hmem', hid', hstands⟩
        have hmetric : entry.2 = metric :=
          List.inj_on_of_nodup_map hnodup hmem' hmem (hid'.trans hid.symm)
        rw [hmetric] at hstands
        exact ⟨hstands, Prod.ext hrule.symm hmetric.symm⟩

/-- The rules that are kept are those that fire, in rule order. -/
theorem forall₂_breachedMetric {evidence : List PaperReadinessMetricEvidence}
    (hnodup : (evidence.map PaperReadinessMetricEvidence.metricId).Nodup)
    (rules : List PaperReadinessAlertRule) :
    List.Forall₂ (fun rule entry => breachedMetric evidence rule = some entry)
      (rules.filter fun rule => decide (Fires evidence rule))
      (rules.filterMap (breachedMetric evidence)) := by
  induction rules with
  | nil => exact .nil
  | cons rule rules ih =>
      cases hbreach : breachedMetric evidence rule with
      | none =>
          have hquiet : ¬ Fires evidence rule := by
            rintro ⟨metric, hmem, hid, hstands⟩
            have hsome := (breachedMetric_eq_some_iff hnodup rule (rule, metric)).mpr
              ⟨rfl, hmem, hid, hstands⟩
            rw [hsome] at hbreach
            cases hbreach
          rw [List.filter_cons_of_neg (by simpa using hquiet),
            List.filterMap_cons_none hbreach]
          exact ih
      | some entry =>
          obtain ⟨-, hmem, hid, hstands⟩ := (breachedMetric_eq_some_iff hnodup rule entry).mp hbreach
          have hfires : Fires evidence rule := ⟨entry.2, hmem, hid, hstands⟩
          rw [List.filter_cons_of_pos (by simpa using hfires),
            List.filterMap_cons_some hbreach]
          exact .cons hbreach ih

/-! ## The pre-trade block metric -/

/-- The pre-trade block sample counts the rejected and no-trade risk events it is handed. -/
theorem currentValue_preTradeBlock {inputs : ReadinessInputs}
    {metric : PaperReadinessMetricEvidence} (hmem : metric ∈ metricSamples inputs)
    (hid : metric.metricId = metricRiskPreTradeBlockCount) :
    metric.currentValue = (inputs.riskEvents.countP isPreTradeBlock : Nat) := by
  have hsample : Observability.metric metricRiskPreTradeBlockCount .risk
      "Independent pre-trade blocked/no-trade events"
      (inputs.riskEvents.countP isPreTradeBlock : Nat) (some 0)
      (riskEventLinks inputs.riskEvents) ∈ metricSamples inputs := by
    simp [metricSamples]
  have hnodup : ((metricSamples inputs).map PaperReadinessMetricEvidence.metricId).Nodup :=
    nodup_readinessMetricIds
  rw [List.inj_on_of_nodup_map hnodup hmem hsample hid]
  rfl

section Reports

variable [Sha256]

/-- A blocked lifecycle event of a gateway report carries a decision that is no approval. -/
theorem isPreTradeBlock_of_blocked {report : ExecutionGatewayReport}
    {event : ExecutionGatewayLifecycleEvent} {riskEvent : RiskCheckEvent}
    (hvalid : report.validate = .ok ()) (hevent : event ∈ report.events)
    (hblocked : event.status = .blocked) (hdecision : riskEvent.finalDecision = event.riskDecision) :
    isPreTradeBlock riskEvent = true := by
  obtain ⟨hfields, -⟩ := (Library.Stamping.validate_eq_ok_iff _ _).mp hvalid
  obtain ⟨-, hevents, -⟩ := (ExecutionGatewayReport.validateFields_eq_ok_iff _).mp hfields
  obtain ⟨hfields, -⟩ := (Library.Stamping.validate_eq_ok_iff _ _).mp (hevents event hevent)
  obtain ⟨-, -, -, -, -, -, -, hstatus⟩ :=
    (ExecutionGatewayLifecycleEvent.validateFields_eq_ok_iff _).mp hfields
  rw [ExecutionGatewayLifecycleEvent.validateStatus, if_pos hblocked, check_bind_eq_ok_iff,
    require_eq_ok_iff, ← hdecision] at hstatus
  have hrefused := hstatus.1
  unfold isPreTradeBlock
  cases hfinal : riskEvent.finalDecision with
  | approved => rw [hfinal] at hrefused; cases hrefused
  | approvedAfterCap => rw [hfinal] at hrefused; cases hrefused
  | cancelReduceOnlyApproved => rw [hfinal] at hrefused; cases hrefused
  | rejected => rfl
  | noTrade => rfl

/-! ## The report -/

/-- Inversion of a report. -/
theorem buildReport_ok {generatedAt : AwareDatetime} {inputs : ReadinessInputs}
    {dashboard : Option PaperReadinessDashboardSpec}
    {alertRules : Option (List PaperReadinessAlertRule)}
    {report : PaperReadinessObservabilityReport}
    (h : buildPaperReadinessObservabilityReport generatedAt inputs dashboard alertRules =
      .ok report) :
    ∃ rules, selectedRules alertRules = .ok rules ∧ report.alertRules = rules ∧
      report.metricEvidence = metricSamples inputs ∧
      report.metricIds = readinessMetricIds ∧
      routedAlerts rules (metricSamples inputs) = .ok report.routedAlerts := by
  unfold buildPaperReadinessObservabilityReport at h
  obtain ⟨_, -, h⟩ := (bind_eq_ok_iff _ _ _).mp h
  obtain ⟨spec, -, h⟩ := (bind_eq_ok_iff _ _ _).mp h
  obtain ⟨rules, hrules, h⟩ := (bind_eq_ok_iff _ _ _).mp h
  obtain ⟨evidence, hevidence, h⟩ := (bind_eq_ok_iff _ _ _).mp h
  obtain ⟨alerts, halerts, h⟩ := (bind_eq_ok_iff _ _ _).mp h
  obtain ⟨_, -, hsamples⟩ := (bind_eq_ok_iff _ _ _).mp hevidence
  cases hsamples
  obtain ⟨-, rfl⟩ := (Library.Stamping.construct_eq_ok_iff _ _ _).mp h
  exact ⟨rules, hrules, rfl, rfl, metricIds_metricSamples inputs, halerts⟩

/-- Each rule that fires has its alert, in rule order. -/
theorem alertOf_routedAlerts {inputs : ReadinessInputs} {rules : List PaperReadinessAlertRule}
    {alerts : List PaperReadinessAlertEvent}
    (h : routedAlerts rules (metricSamples inputs) = .ok alerts) :
    List.Forall₂ (AlertOf (metricSamples inputs))
      (rules.filter fun rule => decide (Fires (metricSamples inputs) rule)) alerts := by
  have hnodup : ((metricSamples inputs).map PaperReadinessMetricEvidence.metricId).Nodup :=
    nodup_readinessMetricIds
  have hmade := (mapM_eq_ok_iff _ _ _).mp h
  refine (Library.forall₂_comp (forall₂_breachedMetric hnodup rules) hmade).imp ?_
  rintro rule alert ⟨entry, hentry, halert⟩
  obtain ⟨rfl, hmem, hid, -⟩ := (breachedMetric_eq_some_iff hnodup rule entry).mp hentry
  obtain ⟨-, rfl⟩ := (Library.Stamping.construct_eq_ok_iff _ _ _).mp halert
  exact ⟨rfl, rfl, rfl, rfl, rfl, entry.2, hmem, hid, rfl, rfl⟩

/-- Every built-in rule is on one of the metrics. -/
theorem metricId_of_default {rules : List PaperReadinessAlertRule}
    (h : makeDefaultPaperReadinessAlertRules = .ok rules) :
    ∀ rule ∈ rules, rule.metricId ∈ readinessMetricIds := by
  obtain ⟨_, -, h⟩ := (bind_eq_ok_iff _ _ _).mp h
  obtain ⟨_, -, h⟩ := (bind_eq_ok_iff _ _ _).mp h
  intro rule hrule
  obtain ⟨config, hconfig, hmade⟩ := Library.exists_of_mem_right ((mapM_eq_ok_iff _ _ _).mp h) hrule
  obtain ⟨_, -, hmade⟩ := (bind_eq_ok_iff _ _ _).mp hmade
  obtain ⟨route, -, hmade⟩ := (bind_eq_ok_iff _ _ _).mp hmade
  obtain ⟨-, rfl⟩ := (Library.Stamping.construct_eq_ok_iff _ _ _).mp hmade
  have hconfigs : ∀ config ∈ defaultAlertConfig, config.metricId ∈ readinessMetricIds := by
    decide
  exact hconfigs config hconfig

/-! ## The halted buy -/

theorem session_links {report : ExecutionGatewayReport} {args : Execution.AccountStateArguments}
    {session : PaperAccountSessionReport}
    (h : Execution.makePaperAccountSessionReport report args = .ok session) :
    session.gatewayReportId = report.gatewayReportId ∧
      session.gatewayReportHash = report.gatewayReportHash ∧
      isHexDigest session.sessionReportHash = true := by
  simp only [Execution.makePaperAccountSessionReport, bind_eq_ok_iff] at h
  obtain ⟨_, -, _, -, _, -, _, -, _, -, _, -, _, -, hconstruct⟩ := h
  obtain ⟨-, rfl⟩ := (Library.Stamping.construct_eq_ok_iff _ _ _).mp hconstruct
  exact ⟨rfl, rfl, isHexDigest_hash _⟩

theorem tca_links {report : ExecutionGatewayReport} {quotes : List QuoteEvent}
    {tca : PaperTcaReport} (h : Execution.makePaperTcaReport report quotes = .ok tca) :
    tca.gatewayReportId = report.gatewayReportId ∧
      tca.gatewayReportHash = report.gatewayReportHash ∧
      isHexDigest tca.tcaReportHash = true := by
  simp only [Execution.makePaperTcaReport, bind_eq_ok_iff] at h
  obtain ⟨_, -, _, -, _, -, hconstruct⟩ := h
  obtain ⟨-, rfl⟩ := (Library.Stamping.construct_eq_ok_iff _ _ _).mp hconstruct
  exact ⟨rfl, rfl, isHexDigest_hash _⟩

theorem gatewayReport_valid {kind : ExecutionGatewayKind} {inputs : Execution.GatewayInputs}
    {events : List RiskCheckEvent} {report : ExecutionGatewayReport}
    (h : Execution.gatewayReplay kind inputs events = .ok report) :
    report.validate = .ok () ∧ isHexDigest report.gatewayReportHash = true := by
  rw [Execution.gatewayReplay_eq] at h
  obtain ⟨_, _, _, -, -, -, hfields, rfl⟩ := Execution.runGateway_eq_ok_iff.mp h
  exact ⟨(Library.Stamping.validate_sealed _ _).mpr hfields, isHexDigest_hash _⟩

/-- A digest of a report made elsewhere. -/
def givenDigest : String := String.ofList (List.replicate 64 'a')

/-- The evidence of a trace, with the given risk events. -/
def readinessOf (trace : Audit.HonestTrace) (riskEvents : List RiskCheckEvent) :
    ReadinessInputs where
  dataHealthSignals := []
  modelValidationReport := ⟨"MODELVALIDATION:1", givenDigest, ["FR-008", "FR-014"],
    ⟨1 / 100, by decide +kernel⟩, .continueResearch⟩
  strategyGateReport := ⟨"STRATEGYGATE:1", givenDigest, ["FR-009", "FR-014"], 0, ⟨0, Decimal.zero_le_zero⟩⟩
  paperAccountReport := trace.paperAccountReport
  paperTcaReport := trace.paperTcaReport
  executionGatewayReport := trace.gatewayReport
  riskEvents := riskEvents

theorem readinessOf_accepted (trace : Audit.HonestTrace) {riskEvents : List RiskCheckEvent}
    (hrisk : ∀ event ∈ riskEvents, isHexDigest event.riskCheckHash = true) :
    validateReportLinkage (readinessOf trace riskEvents) = .ok () ∧
      DigestsWellFormed (readinessOf trace riskEvents) := by
  obtain ⟨haccountId, haccountHash, haccount⟩ := session_links trace.paper_built
  obtain ⟨htcaId, htcaHash, htca⟩ := tca_links trace.tca_built
  have hrun : Execution.gatewayReplay .paper trace.inputs [trace.riskEvent] =
      .ok trace.gatewayReport := trace.gateway_built
  have hgateway := (gatewayReport_valid hrun).2
  have hgiven : isHexDigest givenDigest = true := by decide
  constructor
  · simp only [validateReportLinkage, check_bind_eq_ok_iff, require_eq_ok_iff]
    exact ⟨haccountId, haccountHash, htcaId, htcaHash⟩
  · exact ⟨hgiven, hgiven, haccount, htca, hgateway, hrisk⟩

/-- The gateway report of the halted buy has a blocked event with the decision of the risk event. -/
theorem exists_blocked_of_haltedBuy {trace : Audit.HonestTrace} {bars : List OHLCTVBar}
    (h : trace.IsHaltedBuy bars) : ∃ event ∈ trace.gatewayReport.events,
      event.status = .blocked ∧
        event.riskDecision = (Audit.tracedRisk .halted).finalDecision := by
  have hrun : Execution.gatewayReplay .paper trace.inputs [Audit.tracedRisk .halted] =
      .ok trace.gatewayReport := by
    rw [← h.1]
    exact trace.gateway_built
  have hengine : Execution.EngineEvents [Audit.tracedRisk .halted] := by
    intro event hmem
    rw [List.mem_singleton.mp hmem]
    exact ⟨_, _, Audit.tracedHalted_engine⟩
  rw [Execution.gatewayReplay_eq] at hrun
  obtain ⟨_, _, lifecycle, -, -, hlifecycle, -, hreport⟩ := Execution.runGateway_eq_ok_iff.mp hrun
  obtain ⟨event, hevent, hmade⟩ := Library.exists_of_mem_left hlifecycle List.mem_cons_self
  have hblocked := Execution.isBlocked_of_mustBlock hengine List.mem_cons_self hmade
    Audit.tracedHalted_blocked
  refine ⟨event, ?_, hblocked.status, (Execution.lifecycleEvent_names hmade).riskDecision⟩
  rw [hreport]
  exact hevent

/-- The built-in rule on the pre-trade block metric. -/
def preTradeBlockConfig : AlertRuleConfig :=
  defaultAlertConfig.getLast (List.cons_ne_nil _ _)

/-- The built-in rule and a copy of it on a metric that does not exist. -/
def misspelledConfigs : List AlertRuleConfig :=
  [preTradeBlockConfig, { preTradeBlockConfig with metricId := "paper.risk.blocked_order_count" }]

/-- Without risk events neither of the two rules fires. -/
theorem not_fires_of_no_events {trace : Audit.HonestTrace} {rules : List PaperReadinessAlertRule}
    (hrules : List.Forall₂ (fun config rule => rule.validate = .ok () ∧
      rule.metricId = config.metricId ∧ rule.operator = config.operator ∧
      rule.threshold = config.threshold) misspelledConfigs rules) :
    ∀ rule ∈ rules, ¬ Fires (metricSamples (readinessOf trace [])) rule := by
  rintro rule hrule ⟨metric, hmem, hid, hstands⟩
  obtain ⟨config, hconfig, -, hmetricId, hoperator, hthreshold⟩ :=
    Library.exists_of_mem_right hrules hrule
  rw [hmetricId] at hid
  rw [hoperator, hthreshold] at hstands
  rcases List.mem_cons.mp hconfig with rfl | hconfig
  · rw [currentValue_preTradeBlock hmem hid] at hstands
    exact lt_irrefl _ hstands
  · rw [List.mem_singleton.mp hconfig] at hid
    have hin : metric.metricId ∈ readinessMetricIds := by
      rw [← metricIds_metricSamples (readinessOf trace [])]
      exact List.mem_map_of_mem hmem
    rw [hid] at hin
    exact absurd hin (by decide)

/-- A gateway event is blocked, the report has a greater-than-zero rule on the pre-trade block
metric and a rule on a metric it does not have, and it routes no alert. -/
structure MissesBlock (inputs : ReadinessInputs) (report : PaperReadinessObservabilityReport) :
    Prop where
  blocked : ∃ event ∈ inputs.executionGatewayReport.events, event.status = .blocked
  rule : ∃ rule ∈ report.alertRules, rule.metricId = metricRiskPreTradeBlockCount ∧
    rule.operator = .greaterThan ∧ rule.threshold = 0
  metric : ∀ metric ∈ report.metricEvidence, metric.metricId = metricRiskPreTradeBlockCount →
    metric.currentValue = 0
  inert : ∃ rule ∈ report.alertRules, rule.metricId ∉ report.metricIds
  silent : report.routedAlerts = []

/-- The halted buy without risk events: the two rules make a report without alerts. -/
theorem exists_silent_report : ∃ (trace : Audit.HonestTrace) (rules : List PaperReadinessAlertRule)
    (report : PaperReadinessObservabilityReport), trace.IsHaltedBuy [] ∧
    makePaperReadinessAlertRulesFromConfig misspelledConfigs = .ok rules ∧
    buildPaperReadinessObservabilityReport (Simulation.minute 0) (readinessOf trace []) none
      (some rules) = .ok report ∧
    MissesBlock (readinessOf trace []) report := by
  obtain ⟨trace, htrace⟩ := Audit.exists_haltedTrace []
  obtain ⟨rules, hmade, hrules⟩ := @rules_total _ misspelledConfigs (List.cons_ne_nil _ _)
    (by decide) (by decide)
  obtain ⟨spec, hspec, hspecValid, hcovers⟩ := defaultDashboard_total
  obtain ⟨hlinkage, hdigests⟩ := @readinessOf_accepted _ trace [] (by simp)
  have hselected : selectedRules (some rules) = .ok rules := by
    cases hrules with
    | cons _ _ => rfl
  have hrulesValid : ∀ rule ∈ rules, rule.validate = .ok () := by
    intro rule hrule
    obtain ⟨_, -, hof⟩ := Library.exists_of_mem_right hrules hrule
    exact hof.1
  obtain ⟨report, hreport⟩ := @report_total _ (Simulation.minute 0) _ none _ _ _ hlinkage hdigests
    hspec hspecValid (by rw [hcovers]; exact ⟨fun _ h => h, fun _ h => h⟩) hselected hrulesValid
  obtain ⟨blocked, hblocked, hstatus, -⟩ := exists_blocked_of_haltedBuy htrace
  obtain ⟨selected, hselected', hreportRules, hevidence, hids, halerts⟩ := buildReport_ok hreport
  rw [hselected] at hselected'
  cases hselected'
  refine ⟨trace, rules, report, htrace, hmade, hreport,
    ⟨⟨blocked, hblocked, hstatus⟩, ?_, ?_, ?_, ?_⟩⟩
  · obtain ⟨rule, hrule, -, hmetricId, hoperator, hthreshold⟩ :=
      Library.exists_of_mem_left hrules List.mem_cons_self
    exact ⟨rule, hreportRules ▸ hrule, hmetricId, hoperator, hthreshold⟩
  · intro metric hmem hid
    rw [hevidence] at hmem
    exact currentValue_preTradeBlock hmem hid
  · obtain ⟨rule, hrule, -, hmetricId, -⟩ := Library.exists_of_mem_left hrules
      (List.mem_cons_of_mem _ List.mem_cons_self)
    refine ⟨rule, hreportRules ▸ hrule, ?_⟩
    rw [hids, hmetricId]
    decide
  · have hrouted := alertOf_routedAlerts halerts
    have hnone : rules.filter (fun rule =>
        decide (Fires (metricSamples (readinessOf trace [])) rule)) = [] := by
      rw [List.filter_eq_nil_iff]
      intro rule hrule
      simpa using not_fires_of_no_events hrules rule hrule
    rw [hnone] at hrouted
    exact List.forall₂_nil_left_iff.mp hrouted

/-- The halted buy with its risk event: the built-in dashboard and rules make a report. -/
theorem exists_haltedReport : ∃ (trace : Audit.HonestTrace)
    (report : PaperReadinessObservabilityReport), trace.IsHaltedBuy [] ∧
    (readinessOf trace [Audit.tracedRisk .halted]).executionGatewayReport.validate = .ok () ∧
    buildPaperReadinessObservabilityReport (Simulation.minute 0)
      (readinessOf trace [Audit.tracedRisk .halted]) none none = .ok report ∧
    (∃ event ∈ (readinessOf trace [Audit.tracedRisk .halted]).executionGatewayReport.events,
      event.status = .blocked ∧ ∃ riskEvent ∈ (readinessOf trace
        [Audit.tracedRisk .halted]).riskEvents, riskEvent.finalDecision = event.riskDecision) ∧
    ∃ rules, selectedRules none = .ok rules ∧
      ∃ rule ∈ rules, rule.metricId = metricRiskPreTradeBlockCount ∧
        rule.operator = .greaterThan ∧ rule.threshold = 0 := by
  obtain ⟨trace, htrace⟩ := Audit.exists_haltedTrace []
  obtain ⟨rules, hmade, hrules⟩ := defaultRules_total
  obtain ⟨spec, hspec, hspecValid, hcovers⟩ := defaultDashboard_total
  have hrun : Execution.gatewayReplay .paper trace.inputs [trace.riskEvent] =
      .ok trace.gatewayReport := trace.gateway_built
  have hstored : (Audit.tracedRisk .halted).riskCheckHash = (Audit.tracedRisk .halted).buildHash :=
    ((Library.Stamping.validate_eq_ok_iff _ _).mp (Audit.tracedRisk_valid .halted)).2.1
  have hrisk : ∀ event ∈ [Audit.tracedRisk .halted], isHexDigest event.riskCheckHash = true := by
    intro event hevent
    rw [List.mem_singleton.mp hevent, hstored]
    exact isHexDigest_hash _
  obtain ⟨hlinkage, hdigests⟩ := readinessOf_accepted trace hrisk
  have hrulesValid : ∀ rule ∈ rules, rule.validate = .ok () := by
    intro rule hrule
    obtain ⟨_, -, hof⟩ := Library.exists_of_mem_right hrules hrule
    exact hof.1
  obtain ⟨report, hreport⟩ := @report_total _ (Simulation.minute 0) _ none _ none _ hlinkage
    hdigests hspec hspecValid (by rw [hcovers]; exact ⟨fun _ h => h, fun _ h => h⟩) hmade
    hrulesValid
  have hlast : preTradeBlockConfig ∈ defaultAlertConfig := List.getLast_mem _
  obtain ⟨rule, hrule, -, hof⟩ := Library.exists_of_mem_left hrules hlast
  obtain ⟨event, hevent, hblocked, hdecision⟩ := exists_blocked_of_haltedBuy htrace
  exact ⟨trace, report, htrace, (gatewayReport_valid hrun).1, hreport,
    ⟨event, hevent, hblocked, _, List.mem_cons_self, hdecision.symm⟩, rules, hmade, rule, hrule,
    hof⟩

/-! ## Completeness -/

/-- The alerts of a report are, in rule order, one for each selected rule whose metric stands in the
rule's relation to its threshold. Every built-in rule is on a metric of the evidence and every alert
names one. A blocked gateway event whose decision is among the passed risk events makes the
pre-trade block metric positive, so that a greater-than-zero rule on it has its alert. -/
theorem readiness_alerts_complete {generatedAt : AwareDatetime} {inputs : ReadinessInputs}
    {dashboard : Option PaperReadinessDashboardSpec}
    {alertRules : Option (List PaperReadinessAlertRule)}
    {report : PaperReadinessObservabilityReport}
    (hgateway : inputs.executionGatewayReport.validate = .ok ())
    (h : buildPaperReadinessObservabilityReport generatedAt inputs dashboard alertRules =
      .ok report) :
    ∃ rules, selectedRules alertRules = .ok rules ∧ report.alertRules = rules ∧
      report.metricIds = report.metricEvidence.map PaperReadinessMetricEvidence.metricId ∧
      List.Forall₂ (AlertOf report.metricEvidence)
        (rules.filter fun rule => decide (Fires report.metricEvidence rule))
        report.routedAlerts ∧
      (∀ builtIn, makeDefaultPaperReadinessAlertRules = .ok builtIn →
        ∀ rule ∈ builtIn, rule.metricId ∈ report.metricIds) ∧
      (∀ alert ∈ report.routedAlerts, alert.metricId ∈ report.metricIds) ∧
      ∃ metric ∈ report.metricEvidence, metric.metricId = metricRiskPreTradeBlockCount ∧
        metric.currentValue = (inputs.riskEvents.countP isPreTradeBlock : Nat) ∧
        ∀ event ∈ inputs.executionGatewayReport.events, event.status = .blocked →
          (∃ riskEvent ∈ inputs.riskEvents, riskEvent.finalDecision = event.riskDecision) →
          0 < metric.currentValue ∧
          ∀ rule ∈ rules, rule.metricId = metricRiskPreTradeBlockCount →
            rule.operator = .greaterThan → rule.threshold = 0 →
            ∃ alert ∈ report.routedAlerts, AlertOf report.metricEvidence rule alert := by
  obtain ⟨rules, hrules, hreportRules, hevidence, hids, halerts⟩ := buildReport_ok h
  have hrouted := alertOf_routedAlerts halerts
  rw [← hevidence] at hrouted
  have hmetricIds : report.metricIds =
      report.metricEvidence.map PaperReadinessMetricEvidence.metricId := by
    rw [hids, hevidence, metricIds_metricSamples]
  have hnamed : ∀ alert ∈ report.routedAlerts, alert.metricId ∈ report.metricIds := by
    intro alert halert
    obtain ⟨rule, -, hof⟩ := Library.exists_of_mem_right hrouted halert
    obtain ⟨metric, hmem, hid, -⟩ := hof.metric
    rw [hmetricIds, hof.metricId, ← hid]
    exact List.mem_map_of_mem hmem
  have hbuiltIn : ∀ builtIn, makeDefaultPaperReadinessAlertRules = .ok builtIn →
      ∀ rule ∈ builtIn, rule.metricId ∈ report.metricIds := by
    intro builtIn hmade rule hrule
    rw [hids]
    exact metricId_of_default hmade rule hrule
  obtain ⟨metric, hmem, hid⟩ : ∃ metric ∈ report.metricEvidence,
      metric.metricId = metricRiskPreTradeBlockCount := by
    apply List.mem_map.mp
    rw [← hmetricIds, hids]
    decide
  have hvalue : metric.currentValue = (inputs.riskEvents.countP isPreTradeBlock : Nat) :=
    currentValue_preTradeBlock (hevidence ▸ hmem) hid
  refine ⟨rules, hrules, hreportRules, hmetricIds, hrouted, hbuiltIn, hnamed, metric, hmem, hid,
    hvalue, ?_⟩
  rintro event hevent hblocked ⟨riskEvent, hriskEvent, hdecision⟩
  have hpositive : 0 < metric.currentValue := by
    rw [hvalue, Nat.cast_pos]
    exact List.countP_pos_iff.mpr
      ⟨riskEvent, hriskEvent, isPreTradeBlock_of_blocked hgateway hevent hblocked hdecision⟩
  refine ⟨hpositive, fun rule hrule hruleId hoperator hthreshold => ?_⟩
  have hfires : Fires report.metricEvidence rule := by
    refine ⟨metric, hmem, hid.trans hruleId.symm, ?_⟩
    rw [hoperator, hthreshold]
    exact hpositive
  exact Library.exists_of_mem_left hrouted (List.mem_filter.mpr ⟨hrule, decide_eq_true hfires⟩)

end Reports

/-- The halted buy with its risk event: the built-in rules route an alert for the block. -/
theorem readiness_alerts_complete_halted_buy : ∃ (trace : @Audit.HonestTrace hashlibSha256) (report :
    PaperReadinessObservabilityReport), @Audit.HonestTrace.IsHaltedBuy hashlibSha256 trace [] ∧
    @buildPaperReadinessObservabilityReport hashlibSha256 (Simulation.minute 0)
      (@readinessOf hashlibSha256 trace [@Audit.tracedRisk hashlibSha256 .halted]) none none =
        .ok report ∧
    ∃ alert ∈ report.routedAlerts, alert.metricId = metricRiskPreTradeBlockCount := by
  obtain ⟨trace, report, htrace, hgateway, hreport, ⟨event, hevent, hblocked, hrisk⟩, rules,
    hselected, rule, hrule, hid, hoperator, hthreshold⟩ := @exists_haltedReport hashlibSha256
  refine ⟨trace, report, htrace, hreport, ?_⟩
  obtain ⟨rules', hselected', -, -, -, -, -, metric, -, -, -, hblocks⟩ :=
    @readiness_alerts_complete hashlibSha256 _ _ _ _ _ hgateway hreport
  have hsame : rules' = rules := Except.ok.inj (hselected'.symm.trans hselected)
  obtain ⟨-, hfire⟩ := hblocks event hevent hblocked hrisk
  obtain ⟨alert, halert, hof⟩ := hfire rule (hsame ▸ hrule) hid hoperator hthreshold
  exact ⟨alert, halert, hof.metricId.trans hid⟩

/-- The halted buy without its risk event: the report carries a rule for blocked orders and one on a
metric that does not exist, and no alert. -/
theorem halted_buy_without_risk_events_silent : ∃ (trace : @Audit.HonestTrace hashlibSha256)
    (rules : List PaperReadinessAlertRule) (report : PaperReadinessObservabilityReport),
    @Audit.HonestTrace.IsHaltedBuy hashlibSha256 trace [] ∧
    @makePaperReadinessAlertRulesFromConfig hashlibSha256 misspelledConfigs = .ok rules ∧
    @buildPaperReadinessObservabilityReport hashlibSha256 (Simulation.minute 0)
      (@readinessOf hashlibSha256 trace []) none (some rules) = .ok report ∧
    MissesBlock (@readinessOf hashlibSha256 trace []) report :=
  @exists_silent_report hashlibSha256

end TaModel.Observability
