import TaModel.Contracts.Observability
import TaModel.Contracts.PaperTca

/-!
# Paper-readiness dashboard and alerts

`observability/paper_readiness.py`: the metric samples drawn from the paper reports, the built-in
dashboard and alert rules, and the report that routes an alert for every rule a metric breaches.
-/

set_option autoImplicit false

namespace TaModel.Observability

open TaModel.Contracts

/-! ## Metric ids -/

def metricDataStaleCount : String := "paper.data.stale_critical_feed_count"
def metricDataBlockedCount : String := "paper.data.blocked_signal_count"
def metricModelCalibrationError : String := "paper.model.calibration_error"
def metricModelValidationBlockerCount : String := "paper.model.validation_blocker_count"
def metricStrategyNoTradeQualityDelta : String := "paper.strategy.no_trade_quality_delta"
def metricStrategyCostDragNotional : String := "paper.strategy.cost_drag_notional"
def metricPortfolioTotalExecutionCost : String := "paper.portfolio.total_execution_cost"
def metricPortfolioMaxDrawdownPct : String := "paper.portfolio.max_drawdown_pct"
def metricPortfolioAccountStateLinkageGap : String := "paper.portfolio.account_state_linkage_gap"
def metricExecutionTcaErrorCount : String := "paper.execution.tca_error_count"
def metricExecutionOrderRejectCount : String := "paper.execution.order_reject_count"
def metricExecutionCostPredictionErrorAbs : String := "paper.execution.cost_prediction_error_abs"
def metricRiskKillSwitchBlockCount : String := "paper.risk.kill_switch_block_count"
def metricRiskPreTradeBlockCount : String := "paper.risk.pre_trade_block_count"
def metricRiskHardBreachCount : String := "paper.risk.hard_breach_count"

/-! ## Reports read for the model and strategy panels -/

/-- Recommendation of a model validation report. -/
inductive ModelGateRecommendation where
  | pass | fail | continueResearch | blocked
deriving DecidableEq

/-- What the observability builder reads of a `ModelValidationReport`. -/
structure ModelValidationReport where
  reportId : String
  reportHash : String
  requirementIds : List String
  calibrationError : NonNegativeDecimal
  recommendation : ModelGateRecommendation

/-- What the observability builder reads of a `StrategyGateReport`. -/
structure StrategyGateReport where
  reportId : String
  reportHash : String
  requirementIds : List String
  skippedVsTakenMeanUtility : Decimal
  costDragNotional : NonNegativeDecimal

/-- The evidence arguments of `build_paper_readiness_observability_report`. -/
structure ReadinessInputs where
  dataHealthSignals : List DataHealthSignal
  modelValidationReport : ModelValidationReport
  strategyGateReport : StrategyGateReport
  paperAccountReport : PaperAccountSessionReport
  paperTcaReport : PaperTcaReport
  executionGatewayReport : ExecutionGatewayReport
  riskEvents : List RiskCheckEvent

/-! ## Configurations -/

/-- `_DashboardPanelConfig`. -/
structure DashboardPanelConfig where
  group : PaperReadinessSignalGroup
  title : String
  description : String
  metricIds : List String
  sourceContracts : List String
  runbookUrl : String
  requirementIds : List String

/-- `_DashboardConfig`. -/
structure DashboardConfig where
  title : String
  version : String
  panels : List DashboardPanelConfig

/-- `_AlertRuleConfig`. -/
structure AlertRuleConfig where
  category : PaperReadinessAlertCategory
  group : PaperReadinessSignalGroup
  metricId : String
  operator : PaperReadinessAlertOperator
  threshold : Decimal
  owner : String
  severity : PaperReadinessAlertSeverity
  channel : String
  runbookUrl : String
  description : String
  sourceContracts : List String
  requirementIds : List String

/-- `_DEFAULT_DASHBOARD_CONFIG`. -/
def defaultDashboardConfig : DashboardConfig where
  title := "S10 paper-readiness dashboard"
  version := "s10-004-v1"
  panels :=
    [ { group := .dataHealth
        title := "Data health and freshness"
        description := "Critical stream freshness and fail-closed data-health signals."
        metricIds := [metricDataStaleCount, metricDataBlockedCount]
        sourceContracts := ["DataHealthSignal", "StreamHealthRecord"]
        runbookUrl := "docs/runbooks/paper-readiness/README.md#data-health-and-stale-feeds"
        requirementIds := ["FR-002", "NFR-006", "RISK-014"] },
      { group := .modelValidation
        title := "Model validation, calibration, and drift readiness"
        description :=
          "Forecast validation and calibration readiness from model gate reports."
        metricIds := [metricModelCalibrationError, metricModelValidationBlockerCount]
        sourceContracts := ["ModelValidationReport"]
        runbookUrl := "docs/runbooks/paper-readiness/README.md#model-validation-readiness"
        requirementIds := ["FR-014", "RISK-014"] },
      { group := .strategy
        title := "Strategy and no-trade quality"
        description := "No-trade utility and cost-drag evidence from strategy gate reports."
        metricIds := [metricStrategyNoTradeQualityDelta, metricStrategyCostDragNotional]
        sourceContracts := ["StrategyGateReport"]
        runbookUrl :=
          "docs/runbooks/paper-readiness/README.md#strategy-gate-and-no-trade-quality"
        requirementIds := ["FR-009", "FR-014", "RISK-014"] },
      { group := .portfolio
        title := "Portfolio and paper account state"
        description :=
          "Account-state linkage, execution cost totals, and drawdown-like risk telemetry."
        metricIds := [metricPortfolioTotalExecutionCost, metricPortfolioMaxDrawdownPct,
          metricPortfolioAccountStateLinkageGap]
        sourceContracts := ["PaperAccountSessionReport", "RiskCheckEvent"]
        runbookUrl :=
          "docs/runbooks/paper-readiness/README.md#portfolio-accounting-and-drawdown"
        requirementIds := ["FR-013", "FR-014", "RISK-014"] },
      { group := .execution
        title := "Execution, TCA, rejects, and slippage"
        description := "Paper TCA errors, order rejects, and cost prediction error evidence."
        metricIds := [metricExecutionTcaErrorCount, metricExecutionOrderRejectCount,
          metricExecutionCostPredictionErrorAbs]
        sourceContracts :=
          ["ExecutionGatewayReport", "PaperAccountSessionReport", "PaperTcaReport"]
        runbookUrl := "docs/runbooks/paper-readiness/README.md#execution-tca-and-order-rejects"
        requirementIds := ["FR-013", "FR-014", "US-011", "RISK-014"] },
      { group := .risk
        title := "Risk, kill-switch, and pre-trade blocks"
        description :=
          "Independent risk, kill-switch, and hard-breach evidence before paper gateway."
        metricIds := [metricRiskKillSwitchBlockCount, metricRiskPreTradeBlockCount,
          metricRiskHardBreachCount]
        sourceContracts := ["RiskCheckEvent", "PaperAccountSessionReport"]
        runbookUrl :=
          "docs/runbooks/paper-readiness/README.md#risk-kill-switch-and-pre-trade-blocks"
        requirementIds := ["FR-010", "FR-011", "NFR-004", "RISK-014"] } ]

/-- `_DEFAULT_ALERT_CONFIG`. -/
def defaultAlertConfig : List AlertRuleConfig :=
  [ { category := .dataStale
      group := .dataHealth
      metricId := metricDataStaleCount
      operator := .greaterThan
      threshold := 0
      owner := "Data / risk"
      severity := .critical
      channel := "paper-readiness-ops"
      runbookUrl := "docs/runbooks/paper-readiness/README.md#data-health-and-stale-feeds"
      description := "Critical feed stale signal must fail closed for affected scope."
      sourceContracts := ["DataHealthSignal"]
      requirementIds := ["NFR-006", "RISK-014"] },
    { category := .executionTcaError
      group := .execution
      metricId := metricExecutionTcaErrorCount
      operator := .greaterThan
      threshold := 0
      owner := "Execution / risk"
      severity := .critical
      channel := "paper-readiness-ops"
      runbookUrl := "docs/runbooks/paper-readiness/README.md#execution-tca-and-order-rejects"
      description := "Paper TCA errors require execution review before paper-readiness claim."
      sourceContracts := ["PaperTcaReport"]
      requirementIds := ["FR-014", "US-011", "RISK-014"] },
    { category := .orderReject
      group := .execution
      metricId := metricExecutionOrderRejectCount
      operator := .greaterThan
      threshold := 0
      owner := "Execution / ops"
      severity := .warning
      channel := "paper-readiness-ops"
      runbookUrl := "docs/runbooks/paper-readiness/README.md#execution-tca-and-order-rejects"
      description := "Gateway replay rejects require routing to execution operations."
      sourceContracts := ["PaperAccountSessionReport", "ExecutionGatewayReport"]
      requirementIds := ["FR-013", "FR-014", "RISK-014"] },
    { category := .portfolioDrawdown
      group := .portfolio
      metricId := metricPortfolioMaxDrawdownPct
      operator := .greaterThan
      threshold := 5 / 100
      owner := "Risk / product"
      severity := .warning
      channel := "paper-readiness-ops"
      runbookUrl := "docs/runbooks/paper-readiness/README.md#portfolio-accounting-and-drawdown"
      description := "Drawdown-like portfolio risk telemetry crossed paper soft threshold."
      sourceContracts := ["RiskCheckEvent"]
      requirementIds := ["FR-014", "RISK-014"] },
    { category := .portfolioAccounting
      group := .portfolio
      metricId := metricPortfolioAccountStateLinkageGap
      operator := .greaterThan
      threshold := 0
      owner := "Portfolio / ops"
      severity := .warning
      channel := "paper-readiness-ops"
      runbookUrl := "docs/runbooks/paper-readiness/README.md#portfolio-accounting-and-drawdown"
      description := "Paper account final state needs stronger computed/replay linkage."
      sourceContracts := ["PaperAccountSessionReport"]
      requirementIds := ["FR-013", "FR-014", "RISK-014"] },
    { category := .riskKillSwitch
      group := .risk
      metricId := metricRiskKillSwitchBlockCount
      operator := .greaterThan
      threshold := 0
      owner := "Risk / ops"
      severity := .critical
      channel := "paper-readiness-ops"
      runbookUrl :=
        "docs/runbooks/paper-readiness/README.md#risk-kill-switch-and-pre-trade-blocks"
      description := "Kill-switch or unknown kill state blocked paper-path risk checks."
      sourceContracts := ["RiskCheckEvent"]
      requirementIds := ["FR-010", "FR-011", "NFR-004", "RISK-014"] },
    { category := .riskPreTradeBlock
      group := .risk
      metricId := metricRiskPreTradeBlockCount
      operator := .greaterThan
      threshold := 0
      owner := "Risk"
      severity := .warning
      channel := "paper-readiness-ops"
      runbookUrl :=
        "docs/runbooks/paper-readiness/README.md#risk-kill-switch-and-pre-trade-blocks"
      description := "Independent risk engine blocked or no-traded paper-path requests."
      sourceContracts := ["RiskCheckEvent"]
      requirementIds := ["FR-010", "NFR-004", "RISK-014"] } ]

section Builders

variable [Sha256]

/-- One panel of `make_paper_readiness_dashboard_spec_from_config`. -/
def panelFromConfig (panel : DashboardPanelConfig) : Raises PaperReadinessDashboardPanel := do
  validateNonEmptyTexts panel.requirementIds
  PaperReadinessDashboardPanel.make panel.group panel.title panel.description panel.metricIds
    panel.sourceContracts panel.runbookUrl panel.requirementIds

/-- `make_paper_readiness_dashboard_spec_from_config`. -/
def makePaperReadinessDashboardSpecFromConfig (config : DashboardConfig) :
    Raises PaperReadinessDashboardSpec := do
  let panels ← config.panels.mapM panelFromConfig
  PaperReadinessDashboardSpec.make config.title config.version panels

/-- `make_default_paper_readiness_dashboard_spec`. -/
def makeDefaultPaperReadinessDashboardSpec : Raises PaperReadinessDashboardSpec :=
  makePaperReadinessDashboardSpecFromConfig defaultDashboardConfig

/-- One rule of `make_paper_readiness_alert_rules_from_config`. -/
def ruleFromConfig (config : AlertRuleConfig) : Raises PaperReadinessAlertRule := do
  validateNonEmptyTexts config.requirementIds
  let route ← PaperReadinessAlertRoute.make config.category config.owner config.severity
    config.channel config.runbookUrl config.requirementIds
  PaperReadinessAlertRule.make config.category config.group config.metricId config.operator
    config.threshold route config.description config.sourceContracts config.requirementIds

/-- `make_paper_readiness_alert_rules_from_config`. -/
def makePaperReadinessAlertRulesFromConfig (rules : List AlertRuleConfig) :
    Raises (List PaperReadinessAlertRule) := do
  require (rules ≠ []) "Tuple should have at least 1 item after validation"
  require (rules.map fun rule => (rule.category, rule.metricId)).Nodup
    "alert config contains duplicate category/metric rules"
  rules.mapM ruleFromConfig

/-- `make_default_paper_readiness_alert_rules`. -/
def makeDefaultPaperReadinessAlertRules : Raises (List PaperReadinessAlertRule) :=
  makePaperReadinessAlertRulesFromConfig defaultAlertConfig

end Builders

/-! ## Source links -/

/-- `_data_health_links`. -/
def dataHealthLinks (signals : List DataHealthSignal) : List PaperReadinessMetricSourceLink :=
  if signals = [] then
    [{ sourceContract := "DataHealthSignal", sourceId := "DATAHEALTH:NO-SIGNALS",
       sourceFields := ["data_health_signals"], requirementIds := ["NFR-006", "RISK-014"] }]
  else
    signals.map fun signal =>
      { sourceContract := "DataHealthSignal", sourceId := signal.signalId,
        sourceEventId := some signal.sourceHealthEventId,
        sourceMetricIds := signal.sourceMetricNames.map StreamHealthMetricName.value,
        sourceFields := ["status", "reason_codes", "blocks_trading"],
        requirementIds := ["NFR-006", "RISK-014"] }

/-- `_risk_event_links`. -/
def riskEventLinks : List RiskCheckEvent → List PaperReadinessMetricSourceLink
  | [] =>
      [{ sourceContract := "RiskCheckEvent", sourceId := "RISKCHECK:NO-EVENTS",
         sourceFields := ["risk_events"], requirementIds := ["FR-010", "NFR-004", "RISK-014"] }]
  | event :: events =>
      (event :: events).map fun event =>
        { sourceContract := "RiskCheckEvent", sourceId := event.riskCheckId,
          sourceHash := some event.riskCheckHash, runId := some event.request.runId,
          traceId := some event.request.traceId, sourceEventId := some event.riskCheckId,
          sourceMetricIds := event.limitEvaluations.map RiskLimitEvaluation.limitId,
          sourceFields := ["active_kill_state", "final_decision", "reason_codes",
            "limit_evaluations", "request.loss_risk.max_drawdown_pct"],
          requirementIds := event.requirementIds }

/-- `_report_link`. -/
def reportLink (sourceContract reportId reportHash : String)
    (sourceFields requirementIds : List String) (runId : Option String := none)
    (sourceMetricIds : List String := []) : PaperReadinessMetricSourceLink where
  sourceContract := sourceContract
  sourceId := reportId
  sourceHash := some reportHash
  reportId := some reportId
  reportHash := some reportHash
  runId := runId
  sourceMetricIds := sourceMetricIds
  sourceFields := sourceFields
  requirementIds := requirementIds

/-- `_paper_account_report_link`. -/
def paperAccountReportLink (report : PaperAccountSessionReport) :
    PaperReadinessMetricSourceLink :=
  reportLink "PaperAccountSessionReport" report.sessionReportId report.sessionReportHash
    ["total_execution_cost", "rejected_order_count", "blocked_order_count",
      "final_account_state_source"]
    report.requirementIds (some report.runId)
    ["total_execution_cost", "rejected_order_count", "final_account_state_source"]

/-- `_paper_tca_report_link`. -/
def paperTcaReportLink (report : PaperTcaReport) : PaperReadinessMetricSourceLink :=
  reportLink "PaperTcaReport" report.tcaReportId report.tcaReportHash
    ["error_count", "issue_ids", "total_cost_prediction_error"] report.requirementIds
    (some report.runId) ["error_count", "total_cost_prediction_error"]

/-- `_gateway_report_link`: it names the trace when the report has just one. -/
def gatewayReportLink (report : ExecutionGatewayReport) : PaperReadinessMetricSourceLink :=
  let traceIds := uniqueSorted (report.events.map fun event => some event.traceId)
  { reportLink "ExecutionGatewayReport" report.gatewayReportId report.gatewayReportHash
      ["events.status", "gateway_event_ids"] report.requirementIds (some report.runId)
      (report.events.map fun event => event.status.value) with
    traceId := if traceIds.length = 1 then traceIds.head? else none }

/-! ## Metric evidence -/

/-- `_metric`: a value above its threshold is a breach. -/
def metric (metricId : String) (group : PaperReadinessSignalGroup) (label : String)
    (currentValue : Decimal) (threshold : Option Decimal)
    (sourceLinks : List PaperReadinessMetricSourceLink) : PaperReadinessMetricEvidence where
  metricId := metricId
  group := group
  label := label
  currentValue := currentValue
  threshold := threshold
  status := if ∃ t ∈ threshold, t < currentValue then .breached else .healthy
  sourceLinks := sourceLinks

/-- A kill switch blocked the request. -/
def isKillSwitchBlock (event : RiskCheckEvent) : Bool :=
  .killSwitchActive ∈ event.reasonCodes ||
    (event.activeKillState ≠ .clear && event.activeKillState ≠ .softLimited)

/-- The risk check rejected the request or decided not to trade. -/
def isPreTradeBlock (event : RiskCheckEvent) : Bool :=
  event.finalDecision = .rejected || event.finalDecision = .noTrade

/-- The number of hard-breach evaluations over all risk events. -/
def hardBreachCount (events : List RiskCheckEvent) : Nat :=
  (events.flatMap RiskCheckEvent.limitEvaluations).countP fun e => decide (e.status = .hardBreach)

/-- `max(..., default=Decimal("0"))` of the drawdown telemetry. -/
def maxDrawdown (events : List RiskCheckEvent) : Decimal :=
  ((events.map fun event => event.request.lossRisk.maxDrawdownPct.val).max?).getD 0

/-- The metric samples of `_build_metric_evidence`, in order. -/
def metricSamples (inputs : ReadinessInputs) : List PaperReadinessMetricEvidence :=
  let signals := inputs.dataHealthSignals
  let model := inputs.modelValidationReport
  let strategy := inputs.strategyGateReport
  let account := inputs.paperAccountReport
  let tca := inputs.paperTcaReport
  let dataLinks := dataHealthLinks signals
  let modelLink := reportLink "ModelValidationReport" model.reportId model.reportHash
    ["candidate_metrics", "recommendation"] model.requirementIds
  let strategyLink := reportLink "StrategyGateReport" strategy.reportId strategy.reportHash
    ["skipped_vs_taken_mean_utility", "cost_drag_notional"] strategy.requirementIds
  let accountLink := paperAccountReportLink account
  let tcaLink := paperTcaReportLink tca
  let gatewayLink := gatewayReportLink inputs.executionGatewayReport
  let riskLinks := riskEventLinks inputs.riskEvents
  let staleCount := signals.countP fun signal =>
    decide (.criticalFreshnessStale ∈ signal.reasonCodes)
  let gatewayRejectCount := account.rejectionLogs.countP fun entry =>
    decide (entry.rejectionSource = .gatewayReplay)
  [ metric metricDataStaleCount .dataHealth "Critical stale feed signals" staleCount (some 0)
      dataLinks,
    metric metricDataBlockedCount .dataHealth "Data-health blocks"
      (signals.countP DataHealthSignal.blocksTrading) (some 0) dataLinks,
    metric metricModelCalibrationError .modelValidation "Model calibration error"
      model.calibrationError.val (some (5 / 100)) [modelLink],
    metric metricModelValidationBlockerCount .modelValidation "Model validation blockers"
      (if model.recommendation = .blocked then 1 else 0) (some 0) [modelLink],
    metric metricStrategyNoTradeQualityDelta .strategy "Skipped-vs-taken no-trade utility delta"
      strategy.skippedVsTakenMeanUtility (some (5 / 1000)) [strategyLink],
    metric metricStrategyCostDragNotional .strategy "Strategy cost-drag notional"
      strategy.costDragNotional.val none [strategyLink],
    metric metricPortfolioTotalExecutionCost .portfolio "Paper account execution-cost total"
      account.totalExecutionCost none [accountLink],
    metric metricPortfolioMaxDrawdownPct .portfolio "Max drawdown telemetry"
      (maxDrawdown inputs.riskEvents) (some (5 / 100)) riskLinks,
    metric metricPortfolioAccountStateLinkageGap .portfolio
      "Explicit-only account-state linkage gap"
      (if account.finalAccountStateSource = .explicitLinkage then 1 else 0) (some 0)
      [accountLink],
    metric metricExecutionTcaErrorCount .execution "Paper TCA error rows" tca.errorCount (some 0)
      [tcaLink, gatewayLink],
    metric metricExecutionOrderRejectCount .execution "Gateway replay order rejects"
      gatewayRejectCount (some 0) [accountLink, gatewayLink],
    metric metricExecutionCostPredictionErrorAbs .execution
      "Absolute paper TCA cost prediction error" |tca.totalCostPredictionError| none [tcaLink],
    metric metricRiskKillSwitchBlockCount .risk "Kill-switch risk blocks"
      (inputs.riskEvents.countP isKillSwitchBlock) (some 0) riskLinks,
    metric metricRiskPreTradeBlockCount .risk "Independent pre-trade blocked/no-trade events"
      (inputs.riskEvents.countP isPreTradeBlock) (some 0) riskLinks,
    metric metricRiskHardBreachCount .risk "Risk hard-breach evaluations"
      (hardBreachCount inputs.riskEvents) (some 0) riskLinks ]

/-- `_build_metric_evidence`: each sample passes its validator. -/
def buildMetricEvidence (inputs : ReadinessInputs) :
    Raises (List PaperReadinessMetricEvidence) := do
  (metricSamples inputs).forM PaperReadinessMetricEvidence.validate
  .ok (metricSamples inputs)

/-- `metric_by_id.get(metric_id)`; a later entry of the dictionary replaces an earlier one. -/
def metricById (evidence : List PaperReadinessMetricEvidence) (metricId : String) :
    Option PaperReadinessMetricEvidence :=
  evidence.reverse.find? fun metric => metric.metricId == metricId

/-- `_rule_breaches`. -/
def ruleBreaches (rule : PaperReadinessAlertRule) (metric : PaperReadinessMetricEvidence) : Bool :=
  let value := metric.currentValue
  let threshold := rule.threshold
  match rule.operator with
  | .greaterThan => decide (threshold < value)
  | .greaterThanOrEqual => decide (threshold ≤ value)
  | .lessThan => decide (value < threshold)
  | .lessThanOrEqual => decide (value ≤ threshold)
  | .equal => decide (value = threshold)

/-! ## The report -/

/-- `_validate_report_linkage`. -/
def validateReportLinkage (inputs : ReadinessInputs) : Raises Unit := do
  let expectedId := inputs.executionGatewayReport.gatewayReportId
  let expectedHash := inputs.executionGatewayReport.gatewayReportHash
  require (inputs.paperAccountReport.gatewayReportId = expectedId)
    "paper account report does not link to execution gateway report"
  require (inputs.paperAccountReport.gatewayReportHash = expectedHash)
    "paper account report hash does not link to execution gateway report"
  require (inputs.paperTcaReport.gatewayReportId = expectedId)
    "paper TCA report does not link to execution gateway report"
  require (inputs.paperTcaReport.gatewayReportHash = expectedHash)
    "paper TCA report hash does not link to execution gateway report"

/-- The rule with its metric, when the metric is in the evidence and breaches the rule. -/
def breachedMetric (evidence : List PaperReadinessMetricEvidence)
    (rule : PaperReadinessAlertRule) :
    Option (PaperReadinessAlertRule × PaperReadinessMetricEvidence) :=
  match metricById evidence rule.metricId with
  | none => none
  | some metric => if ruleBreaches rule metric then some (rule, metric) else none

section Report

variable [Sha256]

/-- `alert_rules or make_default_paper_readiness_alert_rules()`: no rules and an empty tuple both
select the built-in ones. -/
def selectedRules : Option (List PaperReadinessAlertRule) → Raises (List PaperReadinessAlertRule)
  | some (rule :: rules) => .ok (rule :: rules)
  | _ => makeDefaultPaperReadinessAlertRules

/-- `dashboard or make_default_paper_readiness_dashboard_spec()`. -/
def selectedDashboard : Option PaperReadinessDashboardSpec → Raises PaperReadinessDashboardSpec
  | some dashboard => .ok dashboard
  | none => makeDefaultPaperReadinessDashboardSpec

/-- The routed alerts. -/
def routedAlerts (rules : List PaperReadinessAlertRule)
    (evidence : List PaperReadinessMetricEvidence) : Raises (List PaperReadinessAlertEvent) :=
  (rules.filterMap (breachedMetric evidence)).mapM fun entry =>
    PaperReadinessAlertEvent.make entry.1 entry.2

/-- `build_paper_readiness_observability_report`. -/
def buildPaperReadinessObservabilityReport (generatedAt : AwareDatetime)
    (inputs : ReadinessInputs) (dashboard : Option PaperReadinessDashboardSpec)
    (alertRules : Option (List PaperReadinessAlertRule)) :
    Raises PaperReadinessObservabilityReport := do
  validateReportLinkage inputs
  let selectedDashboard ← selectedDashboard dashboard
  let selectedRules ← selectedRules alertRules
  let metricEvidence ← buildMetricEvidence inputs
  let routedAlerts ← routedAlerts selectedRules metricEvidence
  PaperReadinessObservabilityReport.make generatedAt selectedDashboard selectedRules
    metricEvidence routedAlerts

end Report

end TaModel.Observability
