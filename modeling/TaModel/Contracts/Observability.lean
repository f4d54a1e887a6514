import TaModel.Contracts.Canonical
import TaModel.Library.Stamping
import Mathlib.Data.List.Sort
import Mathlib.Data.String.Basic

/-!
# Paper-readiness observability contracts

The dashboard, the alert rules and the report of `contracts/observability.py`. Panels, dashboards,
routes, rules, alerts and reports carry a digest of their content and an id made from it.
-/

set_option autoImplicit false

namespace TaModel.Contracts

/-! ## Enumerations -/

/-- Required signal groups of the dashboard. -/
inductive PaperReadinessSignalGroup where
  | dataHealth | modelValidation | strategy | portfolio | execution | risk
deriving DecidableEq

def PaperReadinessSignalGroup.value : PaperReadinessSignalGroup → String
  | .dataHealth => "data_health"
  | .modelValidation => "model_validation"
  | .strategy => "strategy"
  | .portfolio => "portfolio"
  | .execution => "execution"
  | .risk => "risk"

/-- `_REQUIRED_GROUPS`. -/
def requiredGroups : List PaperReadinessSignalGroup :=
  [.dataHealth, .modelValidation, .strategy, .portfolio, .execution, .risk]

inductive PaperReadinessMetricStatus where
  | healthy | breached | unavailable
deriving DecidableEq

def PaperReadinessMetricStatus.value : PaperReadinessMetricStatus → String
  | .healthy => "healthy"
  | .breached => "breached"
  | .unavailable => "unavailable"

inductive PaperReadinessAlertSeverity where
  | warning | critical
deriving DecidableEq

def PaperReadinessAlertSeverity.value : PaperReadinessAlertSeverity → String
  | .warning => "warning"
  | .critical => "critical"

/-- Actionable alert families. -/
inductive PaperReadinessAlertCategory where
  | dataStale | executionTcaError | orderReject | portfolioDrawdown | portfolioAccounting
  | riskKillSwitch | riskPreTradeBlock
deriving DecidableEq

def PaperReadinessAlertCategory.value : PaperReadinessAlertCategory → String
  | .dataStale => "data_stale"
  | .executionTcaError => "execution_tca_error"
  | .orderReject => "order_reject"
  | .portfolioDrawdown => "portfolio_drawdown"
  | .portfolioAccounting => "portfolio_accounting"
  | .riskKillSwitch => "risk_kill_switch"
  | .riskPreTradeBlock => "risk_pre_trade_block"

/-- Threshold comparisons of alert rules. -/
inductive PaperReadinessAlertOperator where
  | greaterThan | greaterThanOrEqual | lessThan | lessThanOrEqual | equal
deriving DecidableEq

def PaperReadinessAlertOperator.value : PaperReadinessAlertOperator → String
  | .greaterThan => "gt"
  | .greaterThanOrEqual => "gte"
  | .lessThan => "lt"
  | .lessThanOrEqual => "lte"
  | .equal => "eq"

instance : ToPayload PaperReadinessSignalGroup := ⟨fun x => .text x.value⟩
instance : ToPayload PaperReadinessMetricStatus := ⟨fun x => .text x.value⟩
instance : ToPayload PaperReadinessAlertSeverity := ⟨fun x => .text x.value⟩
instance : ToPayload PaperReadinessAlertCategory := ⟨fun x => .text x.value⟩
instance : ToPayload PaperReadinessAlertOperator := ⟨fun x => .text x.value⟩

/-! ## Shared checks -/

/-- `_validate_runbook_link`. -/
def validateRunbookLink (runbookUrl : String) : Raises Unit :=
  require ((Library.chars "docs/runbooks/").isPrefixOf (Library.chars runbookUrl) ∨
      (Library.chars "https://").isPrefixOf (Library.chars runbookUrl))
    "alert/dashboard runbook_url must be a docs/runbooks/ path or https URL"

/-- `_unique_sorted`. -/
def uniqueSorted (values : List (Option String)) : List String :=
  ((values.filterMap id).dedup).insertionSort (· ≤ ·)

/-- The `tuple[NonEmptyString, ...] = Field(min_length=1)` constraint. -/
def validateNonEmptyTexts (texts : List String) : Raises Unit := do
  require (texts ≠ []) "Tuple should have at least 1 item after validation"
  require (∀ text ∈ texts, isNonEmptyString text) "String should have at least 1 character"

/-! ## Metric source links -/

/-- Source contract, report, run and trace of one metric or alert. -/
structure PaperReadinessMetricSourceLink where
  sourceContract : String
  sourceId : String
  sourceHash : Option String := none
  reportId : Option String := none
  reportHash : Option String := none
  runId : Option String := none
  traceId : Option String := none
  sourceEventId : Option String := none
  sourceMetricIds : List String := []
  sourceFields : List String
  requirementIds : List String := []
deriving DecidableEq

namespace PaperReadinessMetricSourceLink

/-- `_model_json(link)`. -/
instance : ToPayload PaperReadinessMetricSourceLink := ⟨fun l =>
  .record
    [ ("report_hash", toPayload l.reportHash), ("report_id", toPayload l.reportId),
      ("requirement_ids", toPayload l.requirementIds), ("run_id", toPayload l.runId),
      ("source_contract", toPayload l.sourceContract),
      ("source_event_id", toPayload l.sourceEventId),
      ("source_fields", toPayload l.sourceFields), ("source_hash", toPayload l.sourceHash),
      ("source_id", toPayload l.sourceId), ("source_metric_ids", toPayload l.sourceMetricIds),
      ("trace_id", toPayload l.traceId) ]⟩

/-- The digest patterns and `report_id_and_hash_are_paired`. -/
def validate (l : PaperReadinessMetricSourceLink) : Raises Unit := do
  require (∀ digest ∈ l.sourceHash, isHexDigest digest)
    "String should match pattern '^[a-f0-9]\x7b64\x7d$'"
  require (∀ digest ∈ l.reportHash, isHexDigest digest)
    "String should match pattern '^[a-f0-9]\x7b64\x7d$'"
  validateNonEmptyTexts l.sourceFields
  require (l.reportId = none ↔ l.reportHash = none)
    "report_id and report_hash must be set together"

end PaperReadinessMetricSourceLink

/-! ## Dashboards -/

/-- One dashboard panel. -/
structure PaperReadinessDashboardPanel where
  panelId : String
  panelHash : String
  group : PaperReadinessSignalGroup
  title : String
  description : String
  metricIds : List String
  sourceContracts : List String
  runbookUrl : String
  requirementIds : List String
deriving DecidableEq

namespace PaperReadinessDashboardPanel

/-- The fields hashed by `build_paper_readiness_dashboard_panel_hash`. -/
def identityFields (p : PaperReadinessDashboardPanel) : List (String × Payload) :=
  [ ("description", toPayload p.description), ("group", toPayload p.group),
    ("metric_ids", toPayload p.metricIds), ("requirement_ids", toPayload p.requirementIds),
    ("runbook_url", toPayload p.runbookUrl), ("source_contracts", toPayload p.sourceContracts),
    ("title", toPayload p.title) ]

/-- `_model_json(panel)`. -/
instance : ToPayload PaperReadinessDashboardPanel := ⟨fun p =>
  .record (("panel_hash", toPayload p.panelHash) :: ("panel_id", toPayload p.panelId) ::
    p.identityFields)⟩

/-- The part of the validators that looks at neither the hash nor the id of the panel. -/
def validateFields (p : PaperReadinessDashboardPanel) : Raises Unit := do
  validateNonEmptyTexts [p.title, p.description, p.runbookUrl]
  validateNonEmptyTexts p.metricIds
  validateNonEmptyTexts p.sourceContracts
  validateRunbookLink p.runbookUrl
  require p.metricIds.Nodup "dashboard panel metric_ids must be unique"

section Identity

variable [Sha256]

/-- `build_paper_readiness_dashboard_panel_hash`. -/
def buildHash (p : PaperReadinessDashboardPanel) : String := hash (.record p.identityFields)

/-- `build_paper_readiness_dashboard_panel_id`. -/
def buildId (panelHash : String) : String := stableIdOfHash "PAPERDASHPANEL" "panel_hash" panelHash

/-- Where a panel stores its hash and id. -/
def stamping : Library.Stamping PaperReadinessDashboardPanel String String where
  checkFields := validateFields
  storedHash := panelHash
  storedId := panelId
  contentHash := buildHash
  idOfHash := buildId
  stamp p newHash newId := { p with panelHash := newHash, panelId := newId }
  hashError := "panel_hash is not deterministic"
  idError := "panel_id is not deterministic"
  storedHash_stamp _ _ _ := rfl
  storedId_stamp _ _ _ := rfl
  contentHash_stamp _ _ _ := rfl
  checkFields_stamp _ _ _ := rfl

/-- The validators `PaperReadinessDashboardPanel(...)` runs. -/
def validate (p : PaperReadinessDashboardPanel) : Raises Unit := stamping.validate p

/-- `make_paper_readiness_dashboard_panel`. -/
def make (group : PaperReadinessSignalGroup) (title description : String)
    (metricIds sourceContracts : List String) (runbookUrl : String)
    (requirementIds : List String) : Raises PaperReadinessDashboardPanel :=
  stamping.construct
    { panelId := "PAPERDASHPANEL:PLACEHOLDER", panelHash := "", group := group, title := title,
      description := description, metricIds := metricIds, sourceContracts := sourceContracts,
      runbookUrl := runbookUrl, requirementIds := requirementIds }

end Identity

end PaperReadinessDashboardPanel

/-- Dashboard specification that covers all required groups. -/
structure PaperReadinessDashboardSpec where
  dashboardId : String
  dashboardHash : String
  title : String
  version : String
  panelIds : List String
  panels : List PaperReadinessDashboardPanel
  requirementIds : List String := ["FR-014", "RISK-014"]
deriving DecidableEq

namespace PaperReadinessDashboardSpec

/-- The fields hashed by `build_paper_readiness_dashboard_spec_hash`. -/
def identityFields (d : PaperReadinessDashboardSpec) : List (String × Payload) :=
  [ ("panel_ids", toPayload d.panelIds), ("panels", toPayload d.panels),
    ("requirement_ids", toPayload d.requirementIds), ("title", toPayload d.title),
    ("version", toPayload d.version) ]

/-- `_model_json(dashboard)`. -/
instance : ToPayload PaperReadinessDashboardSpec := ⟨fun d =>
  .record (("dashboard_hash", toPayload d.dashboardHash) ::
    ("dashboard_id", toPayload d.dashboardId) :: d.identityFields)⟩

/-- The metric ids of all panels, in panel order. -/
def metricIds (d : PaperReadinessDashboardSpec) : List String :=
  d.panels.flatMap PaperReadinessDashboardPanel.metricIds

section Identity

variable [Sha256]

/-- The part of the validators that looks at neither the hash nor the id of the dashboard. -/
def validateFields (d : PaperReadinessDashboardSpec) : Raises Unit := do
  validateNonEmptyTexts [d.title, d.version]
  require (d.panels ≠ []) "Tuple should have at least 1 item after validation"
  d.panels.forM PaperReadinessDashboardPanel.validate
  require (d.panelIds = d.panels.map PaperReadinessDashboardPanel.panelId)
    "dashboard panel_ids must match panels"
  require (∀ group ∈ requiredGroups, group ∈ d.panels.map PaperReadinessDashboardPanel.group)
    "paper-readiness dashboard must cover all six signal groups"
  require d.metricIds.Nodup "dashboard metric IDs must be unique across panels"

/-- `build_paper_readiness_dashboard_spec_hash`. -/
def buildHash (d : PaperReadinessDashboardSpec) : String := hash (.record d.identityFields)

/-- `build_paper_readiness_dashboard_spec_id`. -/
def buildId (dashboardHash : String) : String :=
  stableIdOfHash "PAPERDASHBOARD" "dashboard_hash" dashboardHash

/-- Where a dashboard stores its hash and id. -/
def stamping : Library.Stamping PaperReadinessDashboardSpec String String where
  checkFields := validateFields
  storedHash := dashboardHash
  storedId := dashboardId
  contentHash := buildHash
  idOfHash := buildId
  stamp d newHash newId := { d with dashboardHash := newHash, dashboardId := newId }
  hashError := "dashboard_hash is not deterministic"
  idError := "dashboard_id is not deterministic"
  storedHash_stamp _ _ _ := rfl
  storedId_stamp _ _ _ := rfl
  contentHash_stamp _ _ _ := rfl
  checkFields_stamp _ _ _ := rfl

/-- The validators `PaperReadinessDashboardSpec(...)` runs. -/
def validate (d : PaperReadinessDashboardSpec) : Raises Unit := stamping.validate d

/-- `make_paper_readiness_dashboard_spec`. -/
def make (title version : String) (panels : List PaperReadinessDashboardPanel) :
    Raises PaperReadinessDashboardSpec :=
  stamping.construct
    { dashboardId := "PAPERDASHBOARD:PLACEHOLDER", dashboardHash := "", title := title,
      version := version, panelIds := panels.map PaperReadinessDashboardPanel.panelId,
      panels := panels }

end Identity

end PaperReadinessDashboardSpec

/-! ## Alert rules -/

/-- Owner, channel and runbook of an alert. -/
structure PaperReadinessAlertRoute where
  routeId : String
  routeHash : String
  category : PaperReadinessAlertCategory
  owner : String
  severity : PaperReadinessAlertSeverity
  channel : String
  runbookUrl : String
  requirementIds : List String
deriving DecidableEq

namespace PaperReadinessAlertRoute

/-- The fields hashed by `build_paper_readiness_alert_route_hash`. -/
def identityFields (r : PaperReadinessAlertRoute) : List (String × Payload) :=
  [ ("category", toPayload r.category), ("channel", toPayload r.channel),
    ("owner", toPayload r.owner), ("requirement_ids", toPayload r.requirementIds),
    ("runbook_url", toPayload r.runbookUrl), ("severity", toPayload r.severity) ]

/-- `_model_json(route)`. -/
instance : ToPayload PaperReadinessAlertRoute := ⟨fun r =>
  .record (("route_hash", toPayload r.routeHash) :: ("route_id", toPayload r.routeId) ::
    r.identityFields)⟩

/-- The part of the validators that looks at neither the hash nor the id of the route. -/
def validateFields (r : PaperReadinessAlertRoute) : Raises Unit := do
  validateNonEmptyTexts [r.owner, r.channel, r.runbookUrl]
  validateRunbookLink r.runbookUrl

section Identity

variable [Sha256]

/-- `build_paper_readiness_alert_route_hash`. -/
def buildHash (r : PaperReadinessAlertRoute) : String := hash (.record r.identityFields)

/-- `build_paper_readiness_alert_route_id`. -/
def buildId (routeHash : String) : String := stableIdOfHash "PAPERALERTROUTE" "route_hash" routeHash

/-- Where a route stores its hash and id. -/
def stamping : Library.Stamping PaperReadinessAlertRoute String String where
  checkFields := validateFields
  storedHash := routeHash
  storedId := routeId
  contentHash := buildHash
  idOfHash := buildId
  stamp r newHash newId := { r with routeHash := newHash, routeId := newId }
  hashError := "route_hash is not deterministic"
  idError := "route_id is not deterministic"
  storedHash_stamp _ _ _ := rfl
  storedId_stamp _ _ _ := rfl
  contentHash_stamp _ _ _ := rfl
  checkFields_stamp _ _ _ := rfl

/-- The validators `PaperReadinessAlertRoute(...)` runs. -/
def validate (r : PaperReadinessAlertRoute) : Raises Unit := stamping.validate r

/-- `make_paper_readiness_alert_route`. -/
def make (category : PaperReadinessAlertCategory) (owner : String)
    (severity : PaperReadinessAlertSeverity) (channel runbookUrl : String)
    (requirementIds : List String) : Raises PaperReadinessAlertRoute :=
  stamping.construct
    { routeId := "PAPERALERTROUTE:PLACEHOLDER", routeHash := "", category := category,
      owner := owner, severity := severity, channel := channel, runbookUrl := runbookUrl,
      requirementIds := requirementIds }

end Identity

end PaperReadinessAlertRoute

/-- Threshold rule that binds one metric to a route. -/
structure PaperReadinessAlertRule where
  ruleId : String
  ruleHash : String
  category : PaperReadinessAlertCategory
  group : PaperReadinessSignalGroup
  metricId : String
  operator : PaperReadinessAlertOperator
  threshold : Decimal
  route : PaperReadinessAlertRoute
  description : String
  sourceContracts : List String
  requirementIds : List String
deriving DecidableEq

namespace PaperReadinessAlertRule

/-- The fields hashed by `build_paper_readiness_alert_rule_hash`. -/
def identityFields (r : PaperReadinessAlertRule) : List (String × Payload) :=
  [ ("category", toPayload r.category), ("description", toPayload r.description),
    ("group", toPayload r.group), ("metric_id", toPayload r.metricId),
    ("operator", toPayload r.operator), ("requirement_ids", toPayload r.requirementIds),
    ("route", toPayload r.route), ("source_contracts", toPayload r.sourceContracts),
    ("threshold", toPayload r.threshold) ]

/-- `_model_json(rule)`. -/
instance : ToPayload PaperReadinessAlertRule := ⟨fun r =>
  .record (("rule_hash", toPayload r.ruleHash) :: ("rule_id", toPayload r.ruleId) ::
    r.identityFields)⟩

section Identity

variable [Sha256]

/-- The part of the validators that looks at neither the hash nor the id of the rule. -/
def validateFields (r : PaperReadinessAlertRule) : Raises Unit := do
  validateNonEmptyTexts [r.metricId, r.description]
  r.route.validate
  validateNonEmptyTexts r.sourceContracts
  require (r.route.category = r.category) "alert route category must match rule category"

/-- `build_paper_readiness_alert_rule_hash`. -/
def buildHash (r : PaperReadinessAlertRule) : String := hash (.record r.identityFields)

/-- `build_paper_readiness_alert_rule_id`. -/
def buildId (ruleHash : String) : String := stableIdOfHash "PAPERALERTRULE" "rule_hash" ruleHash

/-- Where a rule stores its hash and id. -/
def stamping : Library.Stamping PaperReadinessAlertRule String String where
  checkFields := validateFields
  storedHash := ruleHash
  storedId := ruleId
  contentHash := buildHash
  idOfHash := buildId
  stamp r newHash newId := { r with ruleHash := newHash, ruleId := newId }
  hashError := "rule_hash is not deterministic"
  idError := "rule_id is not deterministic"
  storedHash_stamp _ _ _ := rfl
  storedId_stamp _ _ _ := rfl
  contentHash_stamp _ _ _ := rfl
  checkFields_stamp _ _ _ := rfl

/-- The validators `PaperReadinessAlertRule(...)` runs. -/
def validate (r : PaperReadinessAlertRule) : Raises Unit := stamping.validate r

/-- `make_paper_readiness_alert_rule`. -/
def make (category : PaperReadinessAlertCategory) (group : PaperReadinessSignalGroup)
    (metricId : String) (operator : PaperReadinessAlertOperator) (threshold : Decimal)
    (route : PaperReadinessAlertRoute) (description : String)
    (sourceContracts requirementIds : List String) : Raises PaperReadinessAlertRule :=
  stamping.construct
    { ruleId := "PAPERALERTRULE:PLACEHOLDER", ruleHash := "", category := category,
      group := group, metricId := metricId, operator := operator, threshold := threshold,
      route := route, description := description, sourceContracts := sourceContracts,
      requirementIds := requirementIds }

end Identity

end PaperReadinessAlertRule

/-! ## Metric evidence and alerts -/

/-- One dashboard metric sample derived from report contracts. -/
structure PaperReadinessMetricEvidence where
  metricId : String
  group : PaperReadinessSignalGroup
  label : String
  currentValue : Decimal
  threshold : Option Decimal
  status : PaperReadinessMetricStatus
  sourceLinks : List PaperReadinessMetricSourceLink
  requirementIds : List String := ["FR-014", "RISK-014"]
deriving DecidableEq

namespace PaperReadinessMetricEvidence

/-- `_model_json(metric)`. -/
instance : ToPayload PaperReadinessMetricEvidence := ⟨fun m =>
  .record
    [ ("current_value", toPayload m.currentValue), ("group", toPayload m.group),
      ("label", toPayload m.label), ("metric_id", toPayload m.metricId),
      ("requirement_ids", toPayload m.requirementIds), ("source_links", toPayload m.sourceLinks),
      ("status", toPayload m.status), ("threshold", toPayload m.threshold) ]⟩

/-- The field constraints and `breached_metrics_carry_thresholds`. -/
def validate (m : PaperReadinessMetricEvidence) : Raises Unit := do
  validateNonEmptyTexts [m.metricId, m.label]
  require (m.sourceLinks ≠ []) "Tuple should have at least 1 item after validation"
  m.sourceLinks.forM PaperReadinessMetricSourceLink.validate
  require (m.status = .breached → m.threshold ≠ none) "breached metric evidence requires threshold"

end PaperReadinessMetricEvidence

/-- The values printed by an alert's message, "category breached: metric=value operator
threshold". -/
structure PaperReadinessAlertMessage where
  category : PaperReadinessAlertCategory
  metricId : String
  currentValue : Decimal
  operator : PaperReadinessAlertOperator
  threshold : Decimal
deriving DecidableEq

instance : ToPayload PaperReadinessAlertMessage := ⟨fun m =>
  .list [toPayload m.category, toPayload m.metricId, toPayload m.currentValue,
    toPayload m.operator, toPayload m.threshold]⟩

/-- Routed alert. -/
structure PaperReadinessAlertEvent where
  alertId : String
  alertHash : String
  category : PaperReadinessAlertCategory
  group : PaperReadinessSignalGroup
  ruleId : String
  routeId : String
  metricId : String
  owner : String
  severity : PaperReadinessAlertSeverity
  currentValue : Decimal
  threshold : Decimal
  operator : PaperReadinessAlertOperator
  runbookUrl : String
  sourceLinks : List PaperReadinessMetricSourceLink
  runIds : List String
  traceIds : List String
  reportIds : List String
  sourceIds : List String
  message : PaperReadinessAlertMessage
  requirementIds : List String
deriving DecidableEq

namespace PaperReadinessAlertEvent

/-- The fields hashed by `build_paper_readiness_alert_event_hash`. -/
def identityFields (a : PaperReadinessAlertEvent) : List (String × Payload) :=
  [ ("category", toPayload a.category), ("current_value", toPayload a.currentValue),
    ("group", toPayload a.group), ("message", toPayload a.message),
    ("metric_id", toPayload a.metricId), ("operator", toPayload a.operator),
    ("owner", toPayload a.owner), ("report_ids", toPayload a.reportIds),
    ("requirement_ids", toPayload a.requirementIds), ("route_id", toPayload a.routeId),
    ("rule_id", toPayload a.ruleId), ("run_ids", toPayload a.runIds),
    ("runbook_url", toPayload a.runbookUrl), ("severity", toPayload a.severity),
    ("source_ids", toPayload a.sourceIds), ("source_links", toPayload a.sourceLinks),
    ("threshold", toPayload a.threshold), ("trace_ids", toPayload a.traceIds) ]

/-- `_model_json(alert)`. -/
instance : ToPayload PaperReadinessAlertEvent := ⟨fun a =>
  .record (("alert_hash", toPayload a.alertHash) :: ("alert_id", toPayload a.alertId) ::
    a.identityFields)⟩

/-- The part of the validators that looks at neither the hash nor the id of the alert. -/
def validateFields (a : PaperReadinessAlertEvent) : Raises Unit := do
  validateNonEmptyTexts [a.metricId, a.owner, a.runbookUrl]
  require (a.sourceLinks ≠ []) "Tuple should have at least 1 item after validation"
  a.sourceLinks.forM PaperReadinessMetricSourceLink.validate
  validateRunbookLink a.runbookUrl
  require (a.runIds = uniqueSorted (a.sourceLinks.map PaperReadinessMetricSourceLink.runId))
    "alert run_ids must match source links"
  require (a.traceIds = uniqueSorted (a.sourceLinks.map PaperReadinessMetricSourceLink.traceId))
    "alert trace_ids must match source links"
  require (a.reportIds = uniqueSorted (a.sourceLinks.map PaperReadinessMetricSourceLink.reportId))
    "alert report_ids must match source links"
  require (a.sourceIds = uniqueSorted (a.sourceLinks.map fun link => some link.sourceId))
    "alert source_ids must match source links"

section Identity

variable [Sha256]

/-- `build_paper_readiness_alert_event_hash`. -/
def buildHash (a : PaperReadinessAlertEvent) : String := hash (.record a.identityFields)

/-- `build_paper_readiness_alert_event_id`. -/
def buildId (alertHash : String) : String := stableIdOfHash "PAPERALERT" "alert_hash" alertHash

/-- Where an alert stores its hash and id. -/
def stamping : Library.Stamping PaperReadinessAlertEvent String String where
  checkFields := validateFields
  storedHash := alertHash
  storedId := alertId
  contentHash := buildHash
  idOfHash := buildId
  stamp a newHash newId := { a with alertHash := newHash, alertId := newId }
  hashError := "alert_hash is not deterministic"
  idError := "alert_id is not deterministic"
  storedHash_stamp _ _ _ := rfl
  storedId_stamp _ _ _ := rfl
  contentHash_stamp _ _ _ := rfl
  checkFields_stamp _ _ _ := rfl

/-- The validators `PaperReadinessAlertEvent(...)` runs. -/
def validate (a : PaperReadinessAlertEvent) : Raises Unit := stamping.validate a

end Identity

/-- The draft of `make_paper_readiness_alert_event`. -/
def draft (rule : PaperReadinessAlertRule) (metric : PaperReadinessMetricEvidence) :
    PaperReadinessAlertEvent where
  alertId := "PAPERALERT:PLACEHOLDER"
  alertHash := ""
  category := rule.category
  group := rule.group
  ruleId := rule.ruleId
  routeId := rule.route.routeId
  metricId := rule.metricId
  owner := rule.route.owner
  severity := rule.route.severity
  currentValue := metric.currentValue
  threshold := rule.threshold
  operator := rule.operator
  runbookUrl := rule.route.runbookUrl
  sourceLinks := metric.sourceLinks
  runIds := uniqueSorted (metric.sourceLinks.map PaperReadinessMetricSourceLink.runId)
  traceIds := uniqueSorted (metric.sourceLinks.map PaperReadinessMetricSourceLink.traceId)
  reportIds := uniqueSorted (metric.sourceLinks.map PaperReadinessMetricSourceLink.reportId)
  sourceIds := uniqueSorted (metric.sourceLinks.map fun link => some link.sourceId)
  message :=
    { category := rule.category, metricId := rule.metricId, currentValue := metric.currentValue,
      operator := rule.operator, threshold := rule.threshold }
  requirementIds := rule.requirementIds

/-- `make_paper_readiness_alert_event`. -/
def make [Sha256] (rule : PaperReadinessAlertRule) (metric : PaperReadinessMetricEvidence) :
    Raises PaperReadinessAlertEvent :=
  stamping.construct (draft rule metric)

end PaperReadinessAlertEvent

/-! ## Observability reports -/

/-- Dashboard-smoke and alert-routing evidence. -/
structure PaperReadinessObservabilityReport where
  observabilityReportId : String
  observabilityReportHash : String
  generatedAt : AwareDatetime
  dashboard : PaperReadinessDashboardSpec
  alertRuleIds : List String
  alertRules : List PaperReadinessAlertRule
  metricIds : List String
  metricEvidence : List PaperReadinessMetricEvidence
  routedAlertIds : List String
  routedAlerts : List PaperReadinessAlertEvent
  sourceReportIds : List String
  sourceRunIds : List String
  requirementIds : List String := ["FR-014", "RISK-014"]
deriving DecidableEq

namespace PaperReadinessObservabilityReport

/-- The fields hashed by `build_paper_readiness_observability_report_hash`. -/
def identityFields (r : PaperReadinessObservabilityReport) : List (String × Payload) :=
  [ ("alert_rule_ids", toPayload r.alertRuleIds), ("alert_rules", toPayload r.alertRules),
    ("dashboard", toPayload r.dashboard), ("generated_at", toPayload r.generatedAt),
    ("metric_evidence", toPayload r.metricEvidence), ("metric_ids", toPayload r.metricIds),
    ("requirement_ids", toPayload r.requirementIds),
    ("routed_alert_ids", toPayload r.routedAlertIds),
    ("routed_alerts", toPayload r.routedAlerts),
    ("source_report_ids", toPayload r.sourceReportIds),
    ("source_run_ids", toPayload r.sourceRunIds) ]

/-- The source links of all metrics, in metric order. -/
def metricLinks (evidence : List PaperReadinessMetricEvidence) :
    List PaperReadinessMetricSourceLink :=
  evidence.flatMap PaperReadinessMetricEvidence.sourceLinks

section Identity

variable [Sha256]

/-- The checks `report_identity_is_deterministic` makes before it looks at the digest. -/
def validateOwnFields (r : PaperReadinessObservabilityReport) : Raises Unit := do
  require (r.alertRuleIds = r.alertRules.map PaperReadinessAlertRule.ruleId)
    "alert_rule_ids must match alert_rules"
  require (r.metricIds = r.metricEvidence.map PaperReadinessMetricEvidence.metricId)
    "metric_ids must match metric_evidence"
  require (r.routedAlertIds = r.routedAlerts.map PaperReadinessAlertEvent.alertId)
    "routed_alert_ids must match routed_alerts"
  require ((∀ id ∈ r.dashboard.metricIds, id ∈ r.metricIds) ∧
      ∀ id ∈ r.metricIds, id ∈ r.dashboard.metricIds)
    "metric evidence must cover every dashboard metric"
  r.routedAlerts.forM fun alert => do
    require (alert.ruleId ∈ r.alertRuleIds) "routed alerts must reference configured alert rules"
    require (alert.metricId ∈ r.metricIds)
      "routed alerts must reference dashboard metric evidence"
  require (r.sourceReportIds =
      uniqueSorted ((metricLinks r.metricEvidence).map PaperReadinessMetricSourceLink.reportId))
    "source_report_ids must match metric source links"
  require (r.sourceRunIds =
      uniqueSorted ((metricLinks r.metricEvidence).map PaperReadinessMetricSourceLink.runId))
    "source_run_ids must match metric source links"

/-- The part of the validators that looks at neither the hash nor the id of the report. -/
def validateFields (r : PaperReadinessObservabilityReport) : Raises Unit := do
  r.dashboard.validate
  r.alertRules.forM PaperReadinessAlertRule.validate
  r.metricEvidence.forM PaperReadinessMetricEvidence.validate
  r.routedAlerts.forM PaperReadinessAlertEvent.validate
  r.validateOwnFields

theorem validateFields_eq_ok_iff (r : PaperReadinessObservabilityReport) :
    r.validateFields = .ok () ↔
      r.dashboard.validate = .ok () ∧
      (∀ rule ∈ r.alertRules, rule.validate = .ok ()) ∧
      (∀ metric ∈ r.metricEvidence, metric.validate = .ok ()) ∧
      (∀ alert ∈ r.routedAlerts, alert.validate = .ok ()) ∧
      r.alertRuleIds = r.alertRules.map PaperReadinessAlertRule.ruleId ∧
      r.metricIds = r.metricEvidence.map PaperReadinessMetricEvidence.metricId ∧
      r.routedAlertIds = r.routedAlerts.map PaperReadinessAlertEvent.alertId ∧
      ((∀ id ∈ r.dashboard.metricIds, id ∈ r.metricIds) ∧
        ∀ id ∈ r.metricIds, id ∈ r.dashboard.metricIds) ∧
      (∀ alert ∈ r.routedAlerts, alert.ruleId ∈ r.alertRuleIds ∧ alert.metricId ∈ r.metricIds) ∧
      r.sourceReportIds =
        uniqueSorted ((metricLinks r.metricEvidence).map PaperReadinessMetricSourceLink.reportId) ∧
      r.sourceRunIds =
        uniqueSorted ((metricLinks r.metricEvidence).map PaperReadinessMetricSourceLink.runId) := by
  simp only [validateFields, validateOwnFields, check_bind_eq_ok_iff, require_eq_ok_iff,
    forM_eq_ok_iff]

/-- `build_paper_readiness_observability_report_hash`. -/
def buildHash (r : PaperReadinessObservabilityReport) : String := hash (.record r.identityFields)

/-- `build_paper_readiness_observability_report_id`. -/
def buildId (reportHash : String) : String := stableIdOfHash "PAPEROBS" "report_hash" reportHash

/-- Where a report stores its hash and id. -/
def stamping : Library.Stamping PaperReadinessObservabilityReport String String where
  checkFields := validateFields
  storedHash := observabilityReportHash
  storedId := observabilityReportId
  contentHash := buildHash
  idOfHash := buildId
  stamp r newHash newId :=
    { r with observabilityReportHash := newHash, observabilityReportId := newId }
  hashError := "observability_report_hash is not deterministic"
  idError := "observability_report_id is not deterministic"
  storedHash_stamp _ _ _ := rfl
  storedId_stamp _ _ _ := rfl
  contentHash_stamp _ _ _ := rfl
  checkFields_stamp _ _ _ := rfl

/-- The draft of `make_paper_readiness_observability_report`. -/
def draft (generatedAt : AwareDatetime) (dashboard : PaperReadinessDashboardSpec)
    (alertRules : List PaperReadinessAlertRule)
    (metricEvidence : List PaperReadinessMetricEvidence)
    (routedAlerts : List PaperReadinessAlertEvent) : PaperReadinessObservabilityReport where
  observabilityReportId := "PAPEROBS:PLACEHOLDER"
  observabilityReportHash := ""
  generatedAt := generatedAt
  dashboard := dashboard
  alertRuleIds := alertRules.map PaperReadinessAlertRule.ruleId
  alertRules := alertRules
  metricIds := metricEvidence.map PaperReadinessMetricEvidence.metricId
  metricEvidence := metricEvidence
  routedAlertIds := routedAlerts.map PaperReadinessAlertEvent.alertId
  routedAlerts := routedAlerts
  sourceReportIds :=
    uniqueSorted ((metricLinks metricEvidence).map PaperReadinessMetricSourceLink.reportId)
  sourceRunIds :=
    uniqueSorted ((metricLinks metricEvidence).map PaperReadinessMetricSourceLink.runId)

/-- `make_paper_readiness_observability_report`. -/
def make (generatedAt : AwareDatetime) (dashboard : PaperReadinessDashboardSpec)
    (alertRules : List PaperReadinessAlertRule)
    (metricEvidence : List PaperReadinessMetricEvidence)
    (routedAlerts : List PaperReadinessAlertEvent) : Raises PaperReadinessObservabilityReport :=
  stamping.construct (draft generatedAt dashboard alertRules metricEvidence routedAlerts)

end Identity

end PaperReadinessObservabilityReport

end TaModel.Contracts
