import Mathlib.Data.List.TakeWhile
import TaModel.Audit.Trace
import TaModel.Contracts.CanonicalJson
import TaModel.Library.StateFold

/-!
# Replay reports of the audit harness

The report of `audit/replay.py`: statuses, blockers and the field comparisons that produce them. A
blocker stores non-empty texts only, so a comparison raises when it has to show an empty one
(`compareFields_succeeds_iff`): `_display` of an empty tuple is the empty string.
-/

set_option autoImplicit false

namespace TaModel.Audit

open Contracts

/-! ## Blockers -/

/-- Terminal replay harness status for one trace lookup. -/
inductive DecisionTraceReplayStatus where
  | passed | noOrder | failed
deriving DecidableEq

def DecisionTraceReplayStatus.value : DecisionTraceReplayStatus → String
  | .passed => "passed"
  | .noOrder => "no_order"
  | .failed => "failed"

/-- Fail-closed reason codes emitted by trace replay. -/
inductive DecisionTraceReplayBlockerCode where
  | missingTraceId | duplicateTraceEvidence | mismatchedRequestedTrace | tamperedEvidence
  | missingReplayInput | riskGatewayReplayMismatch | paperReplayMismatch | tcaReplayMismatch
deriving DecidableEq

def DecisionTraceReplayBlockerCode.value : DecisionTraceReplayBlockerCode → String
  | .missingTraceId => "missing_trace_id"
  | .duplicateTraceEvidence => "duplicate_trace_evidence"
  | .mismatchedRequestedTrace => "mismatched_requested_trace"
  | .tamperedEvidence => "tampered_envelope_or_evidence"
  | .missingReplayInput => "missing_replay_input"
  | .riskGatewayReplayMismatch => "risk_gateway_replay_mismatch"
  | .paperReplayMismatch => "paper_replay_mismatch"
  | .tcaReplayMismatch => "tca_replay_mismatch"

instance : ToPayload DecisionTraceReplayStatus := ⟨fun x => .text x.value⟩
instance : ToPayload DecisionTraceReplayBlockerCode := ⟨fun x => .text x.value⟩

/-- A text that is left over when its whitespace is stripped (`NonEmptyString`). -/
def Shown (text : String) : Prop := strip text ≠ ""

instance (text : String) : Decidable (Shown text) := inferInstanceAs (Decidable (_ ≠ _))

/-- A character that is not whitespace survives `lstrip`. -/
theorem mem_dropWhile_isPySpace {c : Char} {cs : List Char} (hc : c ∈ cs)
    (hspace : isPySpace c = false) : c ∈ cs.dropWhile isPySpace := by
  rw [← List.takeWhile_append_dropWhile (p := isPySpace) (l := cs)] at hc
  rcases List.mem_append.mp hc with htake | hdrop
  · have hcontra := List.mem_takeWhile_imp htake
    rw [hspace] at hcontra
    cases hcontra
  · exact hdrop

/-- A character that is not whitespace survives `strip`. -/
theorem mem_strip {text : String} {c : Char} (hc : c ∈ text.toList)
    (hspace : isPySpace c = false) : c ∈ (strip text).toList := by
  have hfront : c ∈ (text.toList.dropWhile isPySpace).reverse :=
    List.mem_reverse.mpr (mem_dropWhile_isPySpace hc hspace)
  simp only [strip, Library.chars_eq_toList, String.toList_ofList]
  exact List.mem_reverse.mpr (mem_dropWhile_isPySpace hfront hspace)

/-- A text with a character that is not whitespace is shown. -/
theorem shown_of_mem {text : String} {c : Char} (hc : c ∈ text.toList)
    (hspace : isPySpace c = false) : Shown text := by
  have hmem := mem_strip hc hspace
  intro hempty
  rw [hempty] at hmem
  cases hmem

/-- A shown text has a character that is not whitespace. -/
theorem exists_mem_of_shown {text : String} (h : Shown text) :
    ∃ c ∈ text.toList, isPySpace c = false := by
  by_contra hnone
  push Not at hnone
  have hfront : text.toList.dropWhile isPySpace = [] := by
    apply List.dropWhile_eq_nil_iff.mpr
    intro c hc
    exact (Bool.not_eq_false _).mp (hnone c hc)
  apply h
  rw [strip, Library.chars_eq_toList, hfront]
  rfl

/-- What is left of a shown text is shown. -/
theorem shown_strip {text : String} (h : Shown text) : Shown (strip text) := by
  obtain ⟨c, hc, hspace⟩ := exists_mem_of_shown h
  exact shown_of_mem (mem_strip hc hspace) hspace

theorem shown_none : ∀ text ∈ (none : Option String), Shown text := by
  rintro _ ⟨⟩

theorem shown_map_strip {text : Option String} (h : ∀ t ∈ text, Shown t) :
    ∀ t ∈ text.map strip, Shown t := by
  intro t ht
  obtain ⟨t', ht', rfl⟩ := Option.mem_map.mp ht
  exact shown_strip (h t' ht')

theorem shown_of_isCanonicalId {text : String} (h : isCanonicalId text = true) : Shown text := by
  obtain ⟨c, rest, htext, -, hhead, -⟩ := (isCanonicalId_iff text).mp h
  have hmem : c ∈ text.toList := by
    rw [htext]
    exact List.mem_cons_self
  exact shown_of_mem hmem (isCanonicalTail_not_space (isCanonicalId_chars h c hmem))

/-- A text that ends in a shown text is shown. -/
theorem shown_append {head tail : String} (h : ∃ c ∈ tail.toList, isPySpace c = false) :
    Shown (head ++ tail) := by
  obtain ⟨c, hc, hspace⟩ := h
  apply shown_of_mem _ hspace
  rw [String.toList_append]
  exact List.mem_append_right _ hc

/-- A joined list of shown texts is shown unless it is empty. -/
theorem shown_intercalate {items : List String} (hne : items ≠ [])
    (hitems : ∀ item ∈ items, Shown item) : Shown (",".intercalate items) := by
  cases items with
  | nil => exact absurd rfl hne
  | cons first rest =>
      cases rest with
      | nil =>
          rw [String.intercalate_singleton]
          exact hitems first List.mem_cons_self
      | cons second rest =>
          -- two items have a comma between them
          have hcomma : ',' ∈ (first ++ ",").toList := by
            rw [String.toList_append]
            exact List.mem_append_right _ (by decide)
          rw [String.intercalate_cons_cons]
          apply shown_of_mem _ (show isPySpace ',' = false by decide)
          rw [String.toList_append]
          exact List.mem_append_left _ hcomma

/-- Structured failure detail for a closed replay attempt. -/
structure DecisionTraceReplayBlocker where
  code : DecisionTraceReplayBlockerCode
  message : String
  expected : Option String
  actual : Option String
  message_shown : Shown message
  expected_shown : ∀ text ∈ expected, Shown text
  actual_shown : ∀ text ∈ actual, Shown text
deriving DecidableEq

instance : ToPayload DecisionTraceReplayBlocker := ⟨fun b =>
  .record [("actual", toPayload b.actual), ("code", toPayload b.code),
    ("expected", toPayload b.expected), ("message", toPayload b.message)]⟩

/-- `DecisionTraceReplayBlocker(...)`. -/
def DecisionTraceReplayBlocker.make (code : DecisionTraceReplayBlockerCode) (message : String)
    (expected actual : Option String) : Raises DecisionTraceReplayBlocker :=
  if h : Shown message ∧ (∀ text ∈ expected, Shown text) ∧ ∀ text ∈ actual, Shown text then
    .ok { code := code, message := strip message, expected := expected.map strip,
          actual := actual.map strip, message_shown := shown_strip h.1,
          expected_shown := shown_map_strip h.2.1, actual_shown := shown_map_strip h.2.2 }
  else .error "String should have at least 1 character"

theorem DecisionTraceReplayBlocker.make_succeeds_iff {code : DecisionTraceReplayBlockerCode}
    {message : String} {expected actual : Option String} :
    (∃ blocker, DecisionTraceReplayBlocker.make code message expected actual = .ok blocker) ↔
      Shown message ∧ (∀ text ∈ expected, Shown text) ∧ ∀ text ∈ actual, Shown text := by
  simp only [DecisionTraceReplayBlocker.make]
  split_ifs with hshown
  · exact ⟨fun _ => hshown, fun _ => ⟨_, rfl⟩⟩
  · exact ⟨nofun, fun h => absurd h hshown⟩

theorem DecisionTraceReplayBlocker.code_of_make {code : DecisionTraceReplayBlockerCode}
    {message : String} {expected actual : Option String} {blocker : DecisionTraceReplayBlocker}
    (h : DecisionTraceReplayBlocker.make code message expected actual = .ok blocker) :
    blocker.code = code := by
  simp only [DecisionTraceReplayBlocker.make] at h
  split_ifs at h
  cases h
  rfl

/-! ## Comparisons -/

/-- Values that `_display` turns into the text of a blocker. -/
class Display (α : Type) where
  display : α → Option String

export Display (display)

instance : Display String := ⟨some⟩
instance : Display Nat := ⟨fun n => some (toString n)⟩
instance : Display Decimal := ⟨fun q => some (String.ofList (decimalText q))⟩
instance : Display ExecutionGatewayOrderStatus := ⟨fun status => some status.value⟩
instance {α : Type} [Display α] : Display (Option α) := ⟨fun x => x.bind display⟩
instance : Display (List String) := ⟨fun items =>
  some (",".intercalate (items.map fun item => if item = "" then "None" else item))⟩

/-- One entry of a comparison: the name of the field, whether both sides are equal, and what
`_display` shows of them. -/
structure ComparedField where
  name : String
  same : Bool
  expected : Option String
  actual : Option String

/-- The entry of a field with these two values. -/
def compared {α : Type} [DecidableEq α] [Display α] (name : String) (expected actual : α) :
    ComparedField where
  name := name
  same := decide (expected = actual)
  expected := display expected
  actual := display actual

@[simp] theorem compared_same_iff {α : Type} [DecidableEq α] [Display α] {name : String}
    {expected actual : α} :
    (compared name expected actual).same = true ↔ expected = actual := decide_eq_true_iff

/-- `_compare_fields`. -/
def compareFields (code : DecisionTraceReplayBlockerCode) (label : String)
    (fields : List ComparedField) : Raises (List DecisionTraceReplayBlocker) :=
  (fields.filter fun field => !field.same).mapM fun field =>
    DecisionTraceReplayBlocker.make code (label ++ " " ++ field.name ++ " did not reproduce")
      field.expected field.actual

/-- `_compare_envelope`. -/
def compareEnvelope (expected actual : DecisionTraceEnvelope)
    (code : DecisionTraceReplayBlockerCode) : Raises (List DecisionTraceReplayBlocker) :=
  compareFields code "trace envelope"
    [ compared "trace_envelope_id" expected.traceEnvelopeId actual.traceEnvelopeId,
      compared "trace_envelope_hash" expected.traceEnvelopeHash actual.traceEnvelopeHash,
      compared "trace_id" expected.traceId actual.traceId,
      compared "strategy_decision_id" expected.strategyDecisionId actual.strategyDecisionId,
      compared "order_intent_id" expected.orderIntentId actual.orderIntentId,
      compared "risk_check_id" expected.riskCheckId actual.riskCheckId,
      compared "gateway_report_id" expected.gatewayReportId actual.gatewayReportId,
      compared "gateway_event_id" expected.gatewayEventId actual.gatewayEventId,
      compared "paper_session_report_id" expected.paperSessionReportId
        actual.paperSessionReportId,
      compared "paper_tca_report_id" expected.paperTcaReportId actual.paperTcaReportId,
      compared "paper_fill_log_ids" expected.paperFillLogIds actual.paperFillLogIds,
      compared "paper_rejection_log_ids" expected.paperRejectionLogIds
        actual.paperRejectionLogIds,
      compared "paper_tca_row_ids" expected.paperTcaRowIds actual.paperTcaRowIds,
      compared "paper_tca_issue_ids" expected.paperTcaIssueIds actual.paperTcaIssueIds ]

/-- The comparison of two gateway reports before their events are looked at. -/
def compareGatewayIds (expected actual : ExecutionGatewayReport) :
    Raises (List DecisionTraceReplayBlocker) :=
  compareFields .riskGatewayReplayMismatch "gateway replay"
    [ compared "gateway_report_id" expected.gatewayReportId actual.gatewayReportId,
      compared "gateway_report_hash" expected.gatewayReportHash actual.gatewayReportHash,
      compared "risk_check_ids" expected.riskCheckIds actual.riskCheckIds,
      compared "approved_risk_check_ids" expected.approvedRiskCheckIds
        actual.approvedRiskCheckIds,
      compared "blocked_risk_check_ids" expected.blockedRiskCheckIds actual.blockedRiskCheckIds ]

/-- The comparison of the two gateway events. -/
def compareGatewayEvents (expected actual : ExecutionGatewayLifecycleEvent) :
    Raises (List DecisionTraceReplayBlocker) :=
  compareFields .riskGatewayReplayMismatch "gateway replay"
    [ compared "gateway_event_id" expected.gatewayEventId actual.gatewayEventId,
      compared "gateway_event_hash" expected.gatewayEventHash actual.gatewayEventHash,
      compared "gateway_order_id" expected.gatewayOrderId actual.gatewayOrderId,
      compared "status" expected.status actual.status,
      compared "replay_order_result_id" expected.replayOrderResultId actual.replayOrderResultId,
      compared "filled_quantity" expected.filledQuantity actual.filledQuantity,
      compared "remaining_quantity" expected.remainingQuantity actual.remainingQuantity,
      compared "fill_price" expected.fillPrice actual.fillPrice,
      compared "total_cost" expected.totalCost actual.totalCost ]

/-- `_compare_gateway_reports`. -/
def compareGatewayReports (expected actual : ExecutionGatewayReport) :
    Raises (List DecisionTraceReplayBlocker) := do
  let idBlockers ← compareGatewayIds expected actual
  match expected.events, actual.events with
  | [expectedEvent], [actualEvent] => do
      let eventBlockers ← compareGatewayEvents expectedEvent actualEvent
      .ok (idBlockers ++ eventBlockers)
  | _, _ => do
      let blocker ← DecisionTraceReplayBlocker.make .riskGatewayReplayMismatch
        "gateway replay event count did not reproduce one trace event"
        (some (toString expected.events.length)) (some (toString actual.events.length))
      .ok (idBlockers ++ [blocker])

/-- `_compare_paper_reports`. -/
def comparePaperReports (expected actual : PaperAccountSessionReport) :
    Raises (List DecisionTraceReplayBlocker) :=
  compareFields .paperReplayMismatch "paper account replay"
    [ compared "session_report_id" expected.sessionReportId actual.sessionReportId,
      compared "session_report_hash" expected.sessionReportHash actual.sessionReportHash,
      compared "order_log_ids" expected.orderLogIds actual.orderLogIds,
      compared "fill_log_ids" expected.fillLogIds actual.fillLogIds,
      compared "rejection_log_ids" expected.rejectionLogIds actual.rejectionLogIds,
      compared "total_order_count" expected.totalOrderCount actual.totalOrderCount,
      compared "filled_order_count" expected.filledOrderCount actual.filledOrderCount,
      compared "blocked_order_count" expected.blockedOrderCount actual.blockedOrderCount,
      compared "rejected_order_count" expected.rejectedOrderCount actual.rejectedOrderCount,
      compared "unfilled_order_count" expected.unfilledOrderCount actual.unfilledOrderCount,
      compared "filled_quantity_total" expected.filledQuantityTotal actual.filledQuantityTotal,
      compared "total_execution_cost" expected.totalExecutionCost actual.totalExecutionCost ]

/-- `_compare_tca_reports`. -/
def compareTcaReports (expected actual : PaperTcaReport) :
    Raises (List DecisionTraceReplayBlocker) :=
  compareFields .tcaReplayMismatch "paper TCA replay"
    [ compared "tca_report_id" expected.tcaReportId actual.tcaReportId,
      compared "tca_report_hash" expected.tcaReportHash actual.tcaReportHash,
      compared "row_ids" expected.rowIds actual.rowIds,
      compared "issue_ids" expected.issueIds actual.issueIds,
      compared "filled_row_count" expected.filledRowCount actual.filledRowCount,
      compared "issue_count" expected.issueCount actual.issueCount,
      compared "error_count" expected.errorCount actual.errorCount,
      compared "fee_cost_total" expected.feeCostTotal actual.feeCostTotal,
      compared "predicted_total_cost" expected.predictedTotalCost actual.predictedTotalCost,
      compared "realized_total_cost" expected.realizedTotalCost actual.realizedTotalCost,
      compared "total_cost_prediction_error" expected.totalCostPredictionError
        actual.totalCostPredictionError ]

/-! ## What a comparison establishes -/

/-- A comparison without blockers found both sides equal in every field. -/
theorem compareFields_eq_nil_iff {code : DecisionTraceReplayBlockerCode} {label : String}
    {fields : List ComparedField} :
    compareFields code label fields = .ok [] ↔ ∀ field ∈ fields, field.same = true := by
  simp only [compareFields, mapM_eq_ok_iff, List.forall₂_nil_right_iff, List.filter_eq_nil_iff,
    Bool.not_eq_true', Bool.not_eq_false]

/-- Both sides of an entry are shown. -/
def ComparedField.IsShown (field : ComparedField) : Prop :=
  (∀ text ∈ field.expected, Shown text) ∧ ∀ text ∈ field.actual, Shown text

/-- A comparison succeeds when it can show every field that differs. -/
theorem compareFields_succeeds_iff {code : DecisionTraceReplayBlockerCode} {label : String}
    {fields : List ComparedField} :
    (∃ blockers, compareFields code label fields = .ok blockers) ↔
      ∀ field ∈ fields, field.same = false → field.IsShown := by
  have hmessage : ∀ field : ComparedField,
      Shown (label ++ " " ++ field.name ++ " did not reproduce") := by
    intro field
    exact shown_append ⟨'d', by decide, by decide⟩
  simp only [compareFields, mapM_eq_ok_iff]
  constructor
  · rintro ⟨blockers, hblockers⟩ field hfield hdiffers
    have hmem : field ∈ fields.filter fun field => !field.same :=
      List.mem_filter.mpr ⟨hfield, by rw [hdiffers]; rfl⟩
    obtain ⟨blocker, -, hmake⟩ := Library.exists_of_mem_right hblockers.flip hmem
    exact (DecisionTraceReplayBlocker.make_succeeds_iff.mp ⟨blocker, hmake⟩).2
  · intro hshown
    apply Library.exists_forall₂
    intro field hfield
    obtain ⟨hmem, hdiffers⟩ := List.mem_filter.mp hfield
    exact DecisionTraceReplayBlocker.make_succeeds_iff.mpr
      ⟨hmessage field, hshown field hmem ((Bool.not_eq_true' _).mp hdiffers)⟩

/-- The fields of an envelope that `_compare_envelope` looks at. -/
structure SameEnvelope (expected actual : DecisionTraceEnvelope) : Prop where
  traceEnvelopeId : expected.traceEnvelopeId = actual.traceEnvelopeId
  traceEnvelopeHash : expected.traceEnvelopeHash = actual.traceEnvelopeHash
  traceId : expected.traceId = actual.traceId
  strategyDecisionId : expected.strategyDecisionId = actual.strategyDecisionId
  orderIntentId : expected.orderIntentId = actual.orderIntentId
  riskCheckId : expected.riskCheckId = actual.riskCheckId
  gatewayReportId : expected.gatewayReportId = actual.gatewayReportId
  gatewayEventId : expected.gatewayEventId = actual.gatewayEventId
  paperSessionReportId : expected.paperSessionReportId = actual.paperSessionReportId
  paperTcaReportId : expected.paperTcaReportId = actual.paperTcaReportId
  paperFillLogIds : expected.paperFillLogIds = actual.paperFillLogIds
  paperRejectionLogIds : expected.paperRejectionLogIds = actual.paperRejectionLogIds
  paperTcaRowIds : expected.paperTcaRowIds = actual.paperTcaRowIds
  paperTcaIssueIds : expected.paperTcaIssueIds = actual.paperTcaIssueIds

theorem SameEnvelope.refl (envelope : DecisionTraceEnvelope) : SameEnvelope envelope envelope :=
  ⟨rfl, rfl, rfl, rfl, rfl, rfl, rfl, rfl, rfl, rfl, rfl, rfl, rfl, rfl⟩

theorem compareEnvelope_eq_nil_iff {expected actual : DecisionTraceEnvelope}
    {code : DecisionTraceReplayBlockerCode} :
    compareEnvelope expected actual code = .ok [] ↔ SameEnvelope expected actual := by
  simp only [compareEnvelope, compareFields_eq_nil_iff, List.forall_mem_cons, compared_same_iff]
  constructor
  · rintro ⟨h1, h2, h3, h4, h5, h6, h7, h8, h9, h10, h11, h12, h13, h14, -⟩
    exact ⟨h1, h2, h3, h4, h5, h6, h7, h8, h9, h10, h11, h12, h13, h14⟩
  · rintro ⟨h1, h2, h3, h4, h5, h6, h7, h8, h9, h10, h11, h12, h13, h14⟩
    exact ⟨h1, h2, h3, h4, h5, h6, h7, h8, h9, h10, h11, h12, h13, h14, nofun⟩

theorem compareGatewayReports_eq_nil {expected actual : ExecutionGatewayReport}
    (h : compareGatewayReports expected actual = .ok []) :
    expected.gatewayReportId = actual.gatewayReportId ∧
      expected.gatewayReportHash = actual.gatewayReportHash ∧
      ∃ expectedEvent actualEvent, expected.events = [expectedEvent] ∧
        actual.events = [actualEvent] ∧
        expectedEvent.gatewayEventId = actualEvent.gatewayEventId ∧
        expectedEvent.gatewayEventHash = actualEvent.gatewayEventHash := by
  simp only [compareGatewayReports, bind_eq_ok_iff] at h
  obtain ⟨idBlockers, hids, h⟩ := h
  split at h
  · next expectedEvent actualEvent hexpected hactual =>
      obtain ⟨eventBlockers, hevents, hnil⟩ := (bind_eq_ok_iff _ _ _).mp h
      obtain ⟨rfl, rfl⟩ := List.append_eq_nil_iff.mp (Except.ok.inj hnil)
      simp only [compareGatewayIds, compareGatewayEvents, compareFields_eq_nil_iff,
        List.forall_mem_cons, compared_same_iff] at hids hevents
      exact ⟨hids.1, hids.2.1, expectedEvent, actualEvent, hexpected, hactual, hevents.1,
        hevents.2.1⟩
  · -- another count of events leaves a blocker
    obtain ⟨blocker, -, hnil⟩ := (bind_eq_ok_iff _ _ _).mp h
    exact absurd (Except.ok.inj hnil) (List.append_ne_nil_of_right_ne_nil _ nofun)

theorem compareGatewayReports_self {report : ExecutionGatewayReport}
    {event : ExecutionGatewayLifecycleEvent} (hevent : report.events = [event]) :
    compareGatewayReports report report = .ok [] := by
  have hids : compareGatewayIds report report = .ok [] := by
    simp [compareGatewayIds, compareFields_eq_nil_iff]
  have hevents : compareGatewayEvents event event = .ok [] := by
    simp [compareGatewayEvents, compareFields_eq_nil_iff]
  simp only [compareGatewayReports, hevent, hids, hevents]
  rfl

theorem comparePaperReports_eq_nil {expected actual : PaperAccountSessionReport}
    (h : comparePaperReports expected actual = .ok []) :
    expected.sessionReportId = actual.sessionReportId ∧
      expected.sessionReportHash = actual.sessionReportHash := by
  simp only [comparePaperReports, compareFields_eq_nil_iff, List.forall_mem_cons,
    compared_same_iff] at h
  exact ⟨h.1, h.2.1⟩

theorem comparePaperReports_self (report : PaperAccountSessionReport) :
    comparePaperReports report report = .ok [] := by
  simp [comparePaperReports, compareFields_eq_nil_iff]

theorem compareTcaReports_eq_nil {expected actual : PaperTcaReport}
    (h : compareTcaReports expected actual = .ok []) :
    expected.tcaReportId = actual.tcaReportId ∧
      expected.tcaReportHash = actual.tcaReportHash := by
  simp only [compareTcaReports, compareFields_eq_nil_iff, List.forall_mem_cons,
    compared_same_iff] at h
  exact ⟨h.1, h.2.1⟩

theorem compareTcaReports_self (report : PaperTcaReport) :
    compareTcaReports report report = .ok [] := by
  simp [compareTcaReports, compareFields_eq_nil_iff]

end TaModel.Audit
