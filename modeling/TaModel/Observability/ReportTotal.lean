import TaModel.Library.StateFold
import TaModel.Observability.PaperReadiness

/-!
# When an observability report is made

The metric samples pass their validators, and so do the alerts of valid rules on them. With linked
reports, a dashboard that covers the fifteen metrics and valid rules a report is therefore made; the
built-in dashboard and rules are such.
-/

set_option autoImplicit false

namespace TaModel.Observability

open TaModel.Contracts

/-! ## Metric samples -/

/-- The ids of the metric samples, in order. -/
def readinessMetricIds : List String :=
  [metricDataStaleCount, metricDataBlockedCount, metricModelCalibrationError,
    metricModelValidationBlockerCount, metricStrategyNoTradeQualityDelta,
    metricStrategyCostDragNotional, metricPortfolioTotalExecutionCost,
    metricPortfolioMaxDrawdownPct, metricPortfolioAccountStateLinkageGap,
    metricExecutionTcaErrorCount, metricExecutionOrderRejectCount,
    metricExecutionCostPredictionErrorAbs, metricRiskKillSwitchBlockCount,
    metricRiskPreTradeBlockCount, metricRiskHardBreachCount]

theorem metricIds_metricSamples (inputs : ReadinessInputs) :
    (metricSamples inputs).map PaperReadinessMetricEvidence.metricId = readinessMetricIds := rfl

theorem nodup_readinessMetricIds : readinessMetricIds.Nodup := by decide

theorem validateNonEmptyTexts_eq_ok_iff (texts : List String) :
    validateNonEmptyTexts texts = .ok () ↔
      texts ≠ [] ∧ ∀ text ∈ texts, isNonEmptyString text = true := by
  simp only [validateNonEmptyTexts, check_bind_eq_ok_iff, require_eq_ok_iff]

/-- The digests copied into the source links have the shape of a digest. -/
structure DigestsWellFormed (inputs : ReadinessInputs) : Prop where
  model : isHexDigest inputs.modelValidationReport.reportHash = true
  strategy : isHexDigest inputs.strategyGateReport.reportHash = true
  account : isHexDigest inputs.paperAccountReport.sessionReportHash = true
  tca : isHexDigest inputs.paperTcaReport.tcaReportHash = true
  gateway : isHexDigest inputs.executionGatewayReport.gatewayReportHash = true
  risk : ∀ event ∈ inputs.riskEvents, isHexDigest event.riskCheckHash = true

theorem validate_reportLink {sourceContract reportId reportHash : String}
    {sourceFields requirementIds : List String} {runId : Option String}
    {sourceMetricIds : List String} (hdigest : isHexDigest reportHash = true)
    (hfields : validateNonEmptyTexts sourceFields = .ok ()) :
    (reportLink sourceContract reportId reportHash sourceFields requirementIds runId
      sourceMetricIds).validate = .ok () := by
  simp [PaperReadinessMetricSourceLink.validate, reportLink, check_bind_eq_ok_iff, hdigest, hfields]

/-- The links of a metric sample: at least one, and all well formed. -/
def LinksValid (links : List PaperReadinessMetricSourceLink) : Prop :=
  links ≠ [] ∧ ∀ link ∈ links, link.validate = .ok ()

/-- A sample with valid links passes its validator: a breach carries its threshold. -/
theorem validate_metric {metricId label : String} {group : PaperReadinessSignalGroup}
    {currentValue : Decimal} {threshold : Option Decimal}
    {links : List PaperReadinessMetricSourceLink}
    (htexts : validateNonEmptyTexts [metricId, label] = .ok ()) (hlinks : LinksValid links) :
    (metric metricId group label currentValue threshold links).validate = .ok () := by
  simp only [PaperReadinessMetricEvidence.validate, check_bind_eq_ok_iff, require_eq_ok_iff,
    forM_eq_ok_iff]
  refine ⟨htexts, hlinks.1, hlinks.2, ?_⟩
  intro hbreached hnone
  have hthreshold : threshold = none := hnone
  subst hthreshold
  simp [metric] at hbreached

theorem linksValid_dataHealthLinks (signals : List DataHealthSignal) :
    LinksValid (dataHealthLinks signals) := by
  unfold dataHealthLinks
  split
  · refine ⟨List.cons_ne_nil _ _, fun link hlink => ?_⟩
    rw [List.mem_singleton.mp hlink]
    exact ok_unit_of_toBool _ (by decide)
  · rename_i hsignals
    refine ⟨by simpa using hsignals, fun link hlink => ?_⟩
    obtain ⟨signal, -, rfl⟩ := List.mem_map.mp hlink
    have hfields : validateNonEmptyTexts ["status", "reason_codes", "blocks_trading"] = .ok () :=
      ok_unit_of_toBool _ (by decide)
    simp [PaperReadinessMetricSourceLink.validate, check_bind_eq_ok_iff, hfields]

theorem linksValid_riskEventLinks {events : List RiskCheckEvent}
    (hdigests : ∀ event ∈ events, isHexDigest event.riskCheckHash = true) :
    LinksValid (riskEventLinks events) := by
  cases events with
  | nil =>
      refine ⟨List.cons_ne_nil _ _, fun link hlink => ?_⟩
      rw [List.mem_singleton.mp hlink]
      exact ok_unit_of_toBool _ (by decide)
  | cons first events =>
      refine ⟨List.cons_ne_nil _ _, fun link hlink => ?_⟩
      obtain ⟨event, hevent, rfl⟩ := List.mem_map.mp hlink
      have hfields : validateNonEmptyTexts ["active_kill_state", "final_decision", "reason_codes",
          "limit_evaluations", "request.loss_risk.max_drawdown_pct"] = .ok () :=
        ok_unit_of_toBool _ (by decide)
      simp [PaperReadinessMetricSourceLink.validate, check_bind_eq_ok_iff, hfields,
        hdigests event hevent]

theorem validate_gatewayReportLink {report : ExecutionGatewayReport}
    (hdigest : isHexDigest report.gatewayReportHash = true) :
    (gatewayReportLink report).validate = .ok () := by
  have hfields : validateNonEmptyTexts ["events.status", "gateway_event_ids"] = .ok () :=
    ok_unit_of_toBool _ (by decide)
  simp [PaperReadinessMetricSourceLink.validate, gatewayReportLink, reportLink,
    check_bind_eq_ok_iff, hdigest, hfields]

theorem linksValid_singleton {link : PaperReadinessMetricSourceLink}
    (h : link.validate = .ok ()) : LinksValid [link] := by
  refine ⟨List.cons_ne_nil _ _, fun other hother => ?_⟩
  rwa [List.mem_singleton.mp hother]

theorem linksValid_pair {link link' : PaperReadinessMetricSourceLink}
    (h : link.validate = .ok ()) (h' : link'.validate = .ok ()) : LinksValid [link, link'] := by
  refine ⟨List.cons_ne_nil _ _, fun other hother => ?_⟩
  rcases List.mem_cons.mp hother with rfl | hother
  · exact h
  · rwa [List.mem_singleton.mp hother]

/-- Every metric sample passes its validator. -/
theorem validate_metricSamples {inputs : ReadinessInputs} (hdigests : DigestsWellFormed inputs) :
    ∀ metric ∈ metricSamples inputs, metric.validate = .ok () := by
  have hdata := linksValid_dataHealthLinks inputs.dataHealthSignals
  have hrisk := linksValid_riskEventLinks hdigests.risk
  have hmodel : LinksValid [reportLink "ModelValidationReport" inputs.modelValidationReport.reportId
      inputs.modelValidationReport.reportHash ["candidate_metrics", "recommendation"]
      inputs.modelValidationReport.requirementIds] :=
    linksValid_singleton (validate_reportLink hdigests.model (ok_unit_of_toBool _ (by decide)))
  have hstrategy : LinksValid [reportLink "StrategyGateReport" inputs.strategyGateReport.reportId
      inputs.strategyGateReport.reportHash ["skipped_vs_taken_mean_utility", "cost_drag_notional"]
      inputs.strategyGateReport.requirementIds] :=
    linksValid_singleton
      (validate_reportLink hdigests.strategy (ok_unit_of_toBool _ (by decide)))
  have haccount : (paperAccountReportLink inputs.paperAccountReport).validate = .ok () :=
    validate_reportLink hdigests.account (ok_unit_of_toBool _ (by decide))
  have htca : (paperTcaReportLink inputs.paperTcaReport).validate = .ok () :=
    validate_reportLink hdigests.tca (ok_unit_of_toBool _ (by decide))
  have hgateway := validate_gatewayReportLink hdigests.gateway
  have haccountOnly := linksValid_singleton haccount
  have htcaOnly := linksValid_singleton htca
  have hreject := linksValid_pair haccount hgateway
  have herror := linksValid_pair htca hgateway
  -- the samples in their order, each with its links
  simp only [metricSamples, List.forall_mem_cons]
  refine ⟨validate_metric ?_ hdata, validate_metric ?_ hdata, validate_metric ?_ hmodel,
    validate_metric ?_ hmodel, validate_metric ?_ hstrategy, validate_metric ?_ hstrategy,
    validate_metric ?_ haccountOnly, validate_metric ?_ hrisk, validate_metric ?_ haccountOnly,
    validate_metric ?_ herror, validate_metric ?_ hreject, validate_metric ?_ htcaOnly,
    validate_metric ?_ hrisk, validate_metric ?_ hrisk, validate_metric ?_ hrisk, by simp⟩ <;>
  exact ok_unit_of_toBool _ (by decide)

/-! ## Alerts -/

section Records

variable [Sha256]

/-- A valid rule on a valid metric has an alert. -/
theorem alert_total {rule : PaperReadinessAlertRule} {metric : PaperReadinessMetricEvidence}
    (hrule : rule.validate = .ok ()) (hmetric : metric.validate = .ok ()) :
    ∃ alert, PaperReadinessAlertEvent.make rule metric = .ok alert ∧ alert.validate = .ok () ∧
      alert.ruleId = rule.ruleId ∧ alert.metricId = rule.metricId := by
  obtain ⟨hfields, -⟩ := (Library.Stamping.validate_eq_ok_iff _ _).mp hrule
  have hruleFields : rule.validateFields = .ok () := hfields
  simp only [PaperReadinessAlertRule.validateFields, check_bind_eq_ok_iff] at hruleFields
  obtain ⟨htexts, hroute, -⟩ := hruleFields
  obtain ⟨hrouteFields, -⟩ := (Library.Stamping.validate_eq_ok_iff _ _).mp hroute
  obtain ⟨hrouteTexts, hrunbook⟩ := (check_bind_eq_ok_iff _ _ _).mp hrouteFields
  simp only [PaperReadinessMetricEvidence.validate, check_bind_eq_ok_iff, require_eq_ok_iff]
    at hmetric
  obtain ⟨-, hlinks, hvalid, -⟩ := hmetric
  have halertTexts : validateNonEmptyTexts [rule.metricId, rule.route.owner,
      rule.route.runbookUrl] = .ok () := by
    rw [validateNonEmptyTexts_eq_ok_iff] at htexts hrouteTexts ⊢
    refine ⟨List.cons_ne_nil _ _, ?_⟩
    simp only [List.forall_mem_cons] at htexts hrouteTexts ⊢
    exact ⟨htexts.2.1, hrouteTexts.2.1, hrouteTexts.2.2.2.1, by simp⟩
  have hdraft : (PaperReadinessAlertEvent.draft rule metric).validateFields = .ok () := by
    simp only [PaperReadinessAlertEvent.validateFields, check_bind_eq_ok_iff, require_eq_ok_iff]
    exact ⟨halertTexts, hlinks, hvalid, hrunbook, rfl, rfl, rfl, rfl⟩
  have hmade : PaperReadinessAlertEvent.make rule metric =
      .ok (PaperReadinessAlertEvent.stamping.sealed (PaperReadinessAlertEvent.draft rule metric)) :=
    (Library.Stamping.construct_eq_ok_iff _ _ _).mpr ⟨hdraft, rfl⟩
  exact ⟨_, hmade, Library.Stamping.validate_of_construct _ hmade, rfl, rfl⟩

/-! ## The built-in dashboard and rules -/

/-- A panel of a configuration whose texts are accepted. -/
theorem panel_total {config : DashboardPanelConfig}
    (hrequirements : validateNonEmptyTexts config.requirementIds = .ok ())
    (htexts : validateNonEmptyTexts [config.title, config.description, config.runbookUrl] = .ok ())
    (hmetrics : validateNonEmptyTexts config.metricIds = .ok ())
    (hsources : validateNonEmptyTexts config.sourceContracts = .ok ())
    (hrunbook : validateRunbookLink config.runbookUrl = .ok ()) (hnodup : config.metricIds.Nodup) :
    ∃ panel, panelFromConfig config = .ok panel ∧ panel.validate = .ok () ∧
      panel.group = config.group ∧ panel.metricIds = config.metricIds := by
  have hmade : ∃ panel, panelFromConfig config = .ok panel := by
    refine ⟨_, (bind_eq_ok_iff _ _ _).mpr ⟨(), hrequirements,
      (Library.Stamping.construct_eq_ok_iff _ _ _).mpr ⟨?_, rfl⟩⟩⟩
    show PaperReadinessDashboardPanel.validateFields _ = .ok ()
    simp only [PaperReadinessDashboardPanel.validateFields, check_bind_eq_ok_iff,
      require_eq_ok_iff]
    exact ⟨htexts, hmetrics, hsources, hrunbook, hnodup⟩
  obtain ⟨panel, hpanel⟩ := hmade
  obtain ⟨_, -, hconstruct⟩ := (bind_eq_ok_iff _ _ _).mp hpanel
  obtain ⟨-, rfl⟩ := (Library.Stamping.construct_eq_ok_iff _ _ _).mp hconstruct
  exact ⟨_, hpanel, Library.Stamping.validate_of_construct _ hconstruct, rfl, rfl⟩

/-- A rule of a configuration whose texts are accepted. -/
theorem rule_total {config : AlertRuleConfig}
    (hrequirements : validateNonEmptyTexts config.requirementIds = .ok ())
    (hroute : validateNonEmptyTexts [config.owner, config.channel, config.runbookUrl] = .ok ())
    (hrunbook : validateRunbookLink config.runbookUrl = .ok ())
    (htexts : validateNonEmptyTexts [config.metricId, config.description] = .ok ())
    (hsources : validateNonEmptyTexts config.sourceContracts = .ok ()) :
    ∃ rule, ruleFromConfig config = .ok rule ∧ rule.validate = .ok () ∧
      rule.metricId = config.metricId ∧ rule.operator = config.operator ∧
      rule.threshold = config.threshold := by
  obtain ⟨route, hmadeRoute⟩ : ∃ route, PaperReadinessAlertRoute.make config.category config.owner
      config.severity config.channel config.runbookUrl config.requirementIds = .ok route := by
    refine ⟨_, (Library.Stamping.construct_eq_ok_iff _ _ _).mpr ⟨?_, rfl⟩⟩
    exact (check_bind_eq_ok_iff _ _ _).mpr ⟨hroute, hrunbook⟩
  have hcategory : route.category = config.category := by
    obtain ⟨-, rfl⟩ := (Library.Stamping.construct_eq_ok_iff _ _ _).mp hmadeRoute
    rfl
  obtain ⟨rule, hmade⟩ : ∃ rule, PaperReadinessAlertRule.make config.category config.group
      config.metricId config.operator config.threshold route config.description
      config.sourceContracts config.requirementIds = .ok rule := by
    refine ⟨_, (Library.Stamping.construct_eq_ok_iff _ _ _).mpr ⟨?_, rfl⟩⟩
    show PaperReadinessAlertRule.validateFields _ = .ok ()
    simp only [PaperReadinessAlertRule.validateFields, check_bind_eq_ok_iff, require_eq_ok_iff]
    exact ⟨htexts, Library.Stamping.validate_of_construct _ hmadeRoute, hsources, hcategory⟩
  have hrule : ruleFromConfig config = .ok rule :=
    (bind_eq_ok_iff _ _ _).mpr ⟨(), hrequirements, (bind_eq_ok_iff _ _ _).mpr
      ⟨route, hmadeRoute, hmade⟩⟩
  have hvalid := Library.Stamping.validate_of_construct _ hmade
  obtain ⟨-, rfl⟩ := (Library.Stamping.construct_eq_ok_iff _ _ _).mp hmade
  exact ⟨_, hrule, hvalid, rfl, rfl, rfl⟩

/-- The built-in dashboard is valid and covers the fifteen metrics. -/
theorem defaultDashboard_total : ∃ dashboard,
    makeDefaultPaperReadinessDashboardSpec = .ok dashboard ∧ dashboard.validate = .ok () ∧
      dashboard.metricIds = readinessMetricIds := by
  have haccepted : ∀ config ∈ defaultDashboardConfig.panels,
      (validateNonEmptyTexts config.requirementIds).toBool = true ∧
      (validateNonEmptyTexts [config.title, config.description, config.runbookUrl]).toBool = true ∧
      (validateNonEmptyTexts config.metricIds).toBool = true ∧
      (validateNonEmptyTexts config.sourceContracts).toBool = true ∧
      (validateRunbookLink config.runbookUrl).toBool = true ∧ config.metricIds.Nodup := by
    decide
  obtain ⟨panels, hpanels⟩ := Library.exists_forall₂ fun config hconfig => by
    obtain ⟨hrequirements, htexts, hmetrics, hsources, hrunbook, hnodup⟩ := haccepted config hconfig
    exact panel_total (ok_unit_of_toBool _ hrequirements) (ok_unit_of_toBool _ htexts)
      (ok_unit_of_toBool _ hmetrics) (ok_unit_of_toBool _ hsources)
      (ok_unit_of_toBool _ hrunbook) hnodup
  have hmade := (mapM_eq_ok_iff _ _ _).mpr (hpanels.imp fun _ _ h => h.1)
  have hgroups : defaultDashboardConfig.panels.map DashboardPanelConfig.group =
      panels.map PaperReadinessDashboardPanel.group :=
    Library.map_eq_of_forall₂ hpanels fun _ _ h => h.2.2.1.symm
  have hids : defaultDashboardConfig.panels.map DashboardPanelConfig.metricIds =
      panels.map PaperReadinessDashboardPanel.metricIds :=
    Library.map_eq_of_forall₂ hpanels fun _ _ h => h.2.2.2.symm
  have hmetricIds : panels.flatMap PaperReadinessDashboardPanel.metricIds = readinessMetricIds := by
    rw [List.flatMap_def, ← hids]
    rfl
  have hvalid : ∀ panel ∈ panels, panel.validate = .ok () := by
    intro panel hpanel
    obtain ⟨config, -, hconfig⟩ := Library.exists_of_mem_right hpanels hpanel
    exact hconfig.2.1
  have hnonempty : panels ≠ [] := by
    rintro rfl
    cases hgroups
  obtain ⟨spec, hspec⟩ : ∃ spec, PaperReadinessDashboardSpec.make defaultDashboardConfig.title
      defaultDashboardConfig.version panels = .ok spec := by
    refine ⟨_, (Library.Stamping.construct_eq_ok_iff _ _ _).mpr ⟨?_, rfl⟩⟩
    show PaperReadinessDashboardSpec.validateFields _ = .ok ()
    simp only [PaperReadinessDashboardSpec.validateFields, check_bind_eq_ok_iff, require_eq_ok_iff,
      forM_eq_ok_iff]
    refine ⟨ok_unit_of_toBool _ (by decide), hnonempty, hvalid, trivial, ?_, ?_⟩
    · rw [← hgroups]
      decide
    · rw [PaperReadinessDashboardSpec.metricIds, hmetricIds]
      exact nodup_readinessMetricIds
  have hvalidSpec := Library.Stamping.validate_of_construct _ hspec
  have hdefault : makeDefaultPaperReadinessDashboardSpec = .ok spec :=
    (bind_eq_ok_iff _ _ _).mpr ⟨panels, hmade, hspec⟩
  obtain ⟨-, rfl⟩ := (Library.Stamping.construct_eq_ok_iff _ _ _).mp hspec
  exact ⟨_, hdefault, hvalidSpec, hmetricIds⟩

/-- The rules of an accepted configuration are made and valid. -/
theorem rules_total {configs : List AlertRuleConfig} (hnonempty : configs ≠ [])
    (hnodup : (configs.map fun config => (config.category, config.metricId)).Nodup)
    (haccepted : ∀ config ∈ configs,
      (validateNonEmptyTexts config.requirementIds).toBool = true ∧
      (validateNonEmptyTexts [config.owner, config.channel, config.runbookUrl]).toBool = true ∧
      (validateRunbookLink config.runbookUrl).toBool = true ∧
      (validateNonEmptyTexts [config.metricId, config.description]).toBool = true ∧
      (validateNonEmptyTexts config.sourceContracts).toBool = true) :
    ∃ rules, makePaperReadinessAlertRulesFromConfig configs = .ok rules ∧
      List.Forall₂ (fun config rule => rule.validate = .ok () ∧ rule.metricId = config.metricId ∧
        rule.operator = config.operator ∧ rule.threshold = config.threshold) configs rules := by
  obtain ⟨rules, hrules⟩ := Library.exists_forall₂ fun config hconfig => by
    obtain ⟨hrequirements, hroute, hrunbook, htexts, hsources⟩ := haccepted config hconfig
    exact rule_total (ok_unit_of_toBool _ hrequirements) (ok_unit_of_toBool _ hroute)
      (ok_unit_of_toBool _ hrunbook) (ok_unit_of_toBool _ htexts) (ok_unit_of_toBool _ hsources)
  have hmade := (mapM_eq_ok_iff _ _ _).mpr (hrules.imp fun _ _ h => h.1)
  refine ⟨rules, ?_, hrules.imp fun _ _ h => h.2⟩
  rw [makePaperReadinessAlertRulesFromConfig, require_of hnonempty, ok_bind, require_of hnodup,
    ok_bind, hmade]

/-- The built-in rules are made and valid. -/
theorem defaultRules_total : ∃ rules, makeDefaultPaperReadinessAlertRules = .ok rules ∧
    List.Forall₂ (fun config rule => rule.validate = .ok () ∧ rule.metricId = config.metricId ∧
      rule.operator = config.operator ∧ rule.threshold = config.threshold) defaultAlertConfig
      rules :=
  rules_total (List.cons_ne_nil _ _) (by decide) (by decide)

/-! ## Reports -/

omit [Sha256] in
theorem mem_of_breachedMetric {evidence : List PaperReadinessMetricEvidence}
    {rule : PaperReadinessAlertRule}
    {entry : PaperReadinessAlertRule × PaperReadinessMetricEvidence}
    (h : breachedMetric evidence rule = some entry) :
    entry.1 = rule ∧ entry.2 ∈ evidence ∧ entry.2.metricId = rule.metricId := by
  unfold breachedMetric at h
  cases hfind : metricById evidence rule.metricId with
  | none =>
      rw [hfind] at h
      cases h
  | some metric =>
      rw [hfind] at h
      have hid := List.find?_some hfind
      obtain ⟨-, hentry⟩ := Option.ite_none_right_eq_some.mp h
      cases hentry
      exact ⟨rfl, List.mem_reverse.mp (List.mem_of_find?_eq_some hfind), beq_iff_eq.mp hid⟩

/-- Linked reports with well-formed digests, a valid dashboard over the fifteen metrics and valid
rules make a report. -/
theorem report_total {generatedAt : AwareDatetime} {inputs : ReadinessInputs}
    {dashboard : Option PaperReadinessDashboardSpec} {spec : PaperReadinessDashboardSpec}
    {alertRules : Option (List PaperReadinessAlertRule)} {rules : List PaperReadinessAlertRule}
    (hlinkage : validateReportLinkage inputs = .ok ()) (hdigests : DigestsWellFormed inputs)
    (hspec : selectedDashboard dashboard = .ok spec) (hspecValid : spec.validate = .ok ())
    (hcovers : (∀ id ∈ spec.metricIds, id ∈ readinessMetricIds) ∧
      ∀ id ∈ readinessMetricIds, id ∈ spec.metricIds)
    (hrules : selectedRules alertRules = .ok rules)
    (hrulesValid : ∀ rule ∈ rules, rule.validate = .ok ()) :
    ∃ report, buildPaperReadinessObservabilityReport generatedAt inputs dashboard alertRules =
      .ok report := by
  have hsamples := validate_metricSamples hdigests
  have hevidence : buildMetricEvidence inputs = .ok (metricSamples inputs) :=
    (check_bind_eq_ok_iff _ _ _).mpr ⟨(forM_eq_ok_iff _ _).mpr hsamples, rfl⟩
  -- every kept pair of a rule and its metric has a valid alert
  obtain ⟨alerts, halerts⟩ : ∃ alerts, List.Forall₂ (fun entry alert =>
      PaperReadinessAlertEvent.make entry.1 entry.2 = .ok alert ∧ alert.validate = .ok () ∧
        alert.ruleId ∈ rules.map PaperReadinessAlertRule.ruleId ∧
        alert.metricId ∈ readinessMetricIds)
      (rules.filterMap (breachedMetric (metricSamples inputs))) alerts := by
    apply Library.exists_forall₂
    intro entry hentry
    obtain ⟨rule, hrule, hbreach⟩ := List.mem_filterMap.mp hentry
    obtain ⟨rfl, hmem, hid⟩ := mem_of_breachedMetric hbreach
    obtain ⟨alert, hmade, hvalid, hruleId, hmetricId⟩ :=
      alert_total (hrulesValid _ hrule) (hsamples _ hmem)
    refine ⟨alert, hmade, hvalid, ?_, ?_⟩
    · rw [hruleId]
      exact List.mem_map_of_mem hrule
    · rw [hmetricId, ← hid, ← metricIds_metricSamples inputs]
      exact List.mem_map_of_mem hmem
  have hrouted : routedAlerts rules (metricSamples inputs) = .ok alerts :=
    (mapM_eq_ok_iff _ _ _).mpr (halerts.imp fun _ _ h => h.1)
  have halertsValid : ∀ alert ∈ alerts, alert.validate = .ok () ∧
      alert.ruleId ∈ rules.map PaperReadinessAlertRule.ruleId ∧
      alert.metricId ∈ readinessMetricIds := by
    intro alert halert
    obtain ⟨entry, -, hentry⟩ := Library.exists_of_mem_right halerts halert
    exact hentry.2
  have hdraft : (PaperReadinessObservabilityReport.draft generatedAt spec rules
      (metricSamples inputs) alerts).validateFields = .ok () := by
    refine (PaperReadinessObservabilityReport.validateFields_eq_ok_iff _).mpr
      ⟨hspecValid, hrulesValid, hsamples, fun alert halert => (halertsValid alert halert).1, rfl,
        rfl, rfl, hcovers, fun alert halert => (halertsValid alert halert).2, rfl, rfl⟩
  unfold buildPaperReadinessObservabilityReport
  rw [hlinkage, ok_bind, hspec, ok_bind, hrules, ok_bind, hevidence, ok_bind, hrouted, ok_bind]
  exact ⟨_, (Library.Stamping.construct_eq_ok_iff _ _ _).mpr ⟨hdraft, rfl⟩⟩

end Records

end TaModel.Observability
