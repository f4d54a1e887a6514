import TaModel.Audit.BuilderReports
import TaModel.Audit.Soundness

/-!
# What the comparisons of a replay can show

A comparison raises only where it has to show an empty list of ids. Every other compared value is
shown: ids are built from digests or are typed canonical, numbers have digits, and hashes are
digests. `compareReplayed_succeeds_iff` reduces the final comparisons of a replay to lists that are
empty on one side only.
-/

set_option autoImplicit false

namespace TaModel.Audit

open Contracts Execution

/-! ## Displayed values -/

/-- What `_display` makes of a value is no blank text. -/
def Displayed {α : Type} [Display α] (value : α) : Prop := ∀ text ∈ display value, Shown text

theorem isPySpace_of_isDigit {c : Char} (h : c.isDigit = true) : isPySpace c = false :=
  isCanonicalTail_not_space (by simp [isCanonicalTail, isCanonicalHead, h])

theorem displayed_text {text : String} (h : Shown text) : Displayed text := by
  rintro _ ⟨⟩
  exact h

theorem shown_toString (n : Nat) : Shown (toString n) := by
  have hne : Nat.toDigits 10 n ≠ [] := Nat.toDigits_ne_nil
  obtain ⟨c, hc⟩ := List.exists_mem_of_ne_nil _ hne
  have hdigit : c.isDigit = true := Nat.isDigit_of_mem_toDigits (by decide) (by decide) hc
  have hmem : c ∈ (toString n).toList := by
    rw [show toString n = n.repr from rfl, Nat.repr_eq_ofList_toDigits, String.toList_ofList]
    exact hc
  exact shown_of_mem hmem (isPySpace_of_isDigit hdigit)

theorem displayed_nat (n : Nat) : Displayed n := displayed_text (shown_toString n)

theorem displayed_decimal (q : Decimal) : Displayed q := by
  rintro _ ⟨⟩
  obtain ⟨c, hc⟩ := List.exists_mem_of_ne_nil _
    (Nat.toDigits_ne_nil : Nat.toDigits 10 (q.num.natAbs / q.den) ≠ [])
  have hdigit : c.isDigit = true := Nat.isDigit_of_mem_toDigits (by decide) (by decide) hc
  have hmem : c ∈ (String.ofList (decimalText q)).toList := by
    simp only [String.toList_ofList, decimalText, List.mem_append]
    exact .inl (.inr hc)
  exact shown_of_mem hmem (isPySpace_of_isDigit hdigit)

theorem displayed_status (status : ExecutionGatewayOrderStatus) : Displayed status := by
  rintro _ ⟨⟩
  cases status <;> decide

theorem displayed_option {α : Type} [Display α] {value : Option α}
    (h : ∀ x ∈ value, Displayed x) : Displayed value := by
  intro text htext
  obtain ⟨x, hx, htext⟩ := Option.mem_bind_iff.mp htext
  exact h x hx text htext

theorem displayed_optionText {value : Option String} (h : ∀ text ∈ value, Shown text) :
    Displayed value :=
  displayed_option fun text htext => displayed_text (h text htext)

/-- A list of shown ids is displayed unless it is empty. -/
theorem displayed_ids_iff {ids : List String} (h : ∀ id ∈ ids, Shown id) :
    Displayed ids ↔ ids ≠ [] := by
  have hid : ids.map (fun item => if item = "" then "None" else item) = ids := by
    rw [List.map_congr_left (g := id), List.map_id]
    intro item hitem
    have hne : item ≠ "" := by
      rintro rfl
      exact h "" hitem rfl
    exact if_neg hne
  have hdisplay : display ids = some (",".intercalate ids) := by
    rw [← hid]
    simp only [display, hid]
  constructor
  · rintro hshown rfl
    exact hshown "" rfl rfl
  · intro hne text htext
    rw [hdisplay] at htext
    cases htext
    exact shown_intercalate hne h

/-- A comparison of two id lists can be shown unless exactly one of them is empty. -/
theorem compared_ids_iff {name : String} {expected actual : List String}
    (hexpected : ∀ id ∈ expected, Shown id) (hactual : ∀ id ∈ actual, Shown id) :
    ((compared name expected actual).same = false → (compared name expected actual).IsShown) ↔
      (expected = [] ↔ actual = []) := by
  have hsame : (compared name expected actual).same = false ↔ expected ≠ actual := by
    rw [← Bool.not_eq_true, compared_same_iff]
  have hshown : (compared name expected actual).IsShown ↔ expected ≠ [] ∧ actual ≠ [] :=
    and_congr (displayed_ids_iff hexpected) (displayed_ids_iff hactual)
  rw [hsame, hshown]
  by_cases hleft : expected = []
  · subst hleft
    constructor
    · intro h
      refine ⟨fun _ => ?_, fun _ => rfl⟩
      by_contra hne
      exact (h fun heq => hne heq.symm).1 rfl
    · intro h hne
      exact absurd (h.mp rfl).symm hne
  · constructor
    · intro h
      refine ⟨fun hnil => absurd hnil hleft, fun hnil => ?_⟩
      subst hnil
      exact absurd rfl (h hleft).2
    · intro h _
      exact ⟨hleft, fun hnil => hleft (h.mpr hnil)⟩

section Displays

variable [Sha256]

/-! ## Texts of valid artifacts -/

/-- A stable id has a colon in it. -/
theorem shown_stableId (label : String) (payload : Payload) : Shown (stableId label payload) := by
  have hmem : ':' ∈ (stableId label payload).toList := by
    simp only [stableId, String.toList_append, List.mem_append]
    exact .inl (.inr (by decide))
  exact shown_of_mem hmem (by decide)

/-- A digest has 64 digits. -/
theorem shown_hash (payload : Payload) : Shown (Contracts.hash payload) := by
  have hdigest := isHexDigest_hash payload
  rw [isHexDigest_iff] at hdigest
  obtain ⟨hlength, hdigits⟩ := hdigest
  have hne : (Contracts.hash payload).toList ≠ [] := by
    intro hnil
    rw [← String.length_toList, hnil] at hlength
    cases hlength
  obtain ⟨c, hc⟩ := List.exists_mem_of_ne_nil _ hne
  apply shown_of_mem hc
  rcases (Bool.or_eq_true _ _).mp (hdigits c hc) with hdigit | hletter
  · exact isPySpace_of_isDigit hdigit
  · simp only [Bool.and_eq_true, decide_eq_true_eq] at hletter
    have hlo : 97 ≤ c.toNat := UInt32.le_iff_toNat_le.mp hletter.1
    have hhi : c.toNat ≤ 102 := UInt32.le_iff_toNat_le.mp hletter.2
    simp only [isPySpace, Bool.or_eq_false_iff, Bool.and_eq_false_iff, decide_eq_false_iff_not,
      beq_eq_false_iff_ne]
    omega

omit [Sha256] in
/-- A valid stamped record shows its hash and its id. -/
theorem shown_of_stamped {α : Type} (S : Library.Stamping α String String) {record : α}
    (hhash : ∀ r, Shown (S.contentHash r)) (hid : ∀ digest, Shown (S.idOfHash digest))
    (h : S.validate record = .ok ()) : Shown (S.storedId record) ∧ Shown (S.storedHash record) := by
  obtain ⟨-, hstoredHash, hstoredId⟩ := (S.validate_eq_ok_iff record).mp h
  rw [hstoredHash, hstoredId]
  exact ⟨hid _, hhash _⟩

/-- The artifacts of an order pass their validators. -/
structure OrderValid (order : OrderArtifacts) : Prop where
  riskEvent : order.riskEvent.validate = .ok ()
  gatewayReport : order.gatewayReport.validate = .ok ()
  paperAccountReport : order.paperAccountReport.validate = .ok ()
  paperTcaReport : order.paperTcaReport.validate = .ok ()

theorem RiskCheckEvent.shown_id {event : RiskCheckEvent} (h : event.validate = .ok ()) :
    Shown event.riskCheckId :=
  (shown_of_stamped RiskCheckEvent.stamping (fun _ => shown_hash _) (fun _ => shown_stableId _ _) h).1

theorem StrategyDecision.shown_ids {decision : StrategyDecision}
    (h : decision.validate = .ok ()) :
    Shown decision.traceId ∧ Shown decision.decisionId :=
  ⟨shown_of_isCanonicalId (StrategyDecision.isCanonicalId_traceId h),
    (shown_of_stamped StrategyDecision.stamping (fun _ => shown_hash _) (fun _ => shown_stableId _ _) h).1⟩

theorem ExecutionGatewayLifecycleEvent.shown_stamp {event : ExecutionGatewayLifecycleEvent}
    (h : event.validate = .ok ()) :
    Shown event.gatewayEventId ∧ Shown event.gatewayEventHash :=
  shown_of_stamped ExecutionGatewayLifecycleEvent.stamping (fun _ => shown_hash _) (fun _ => shown_stableId _ _) h

theorem ExecutionGatewayReport.shown_stamp {report : ExecutionGatewayReport}
    (h : report.validate = .ok ()) :
    Shown report.gatewayReportId ∧ Shown report.gatewayReportHash :=
  shown_of_stamped ExecutionGatewayReport.stamping (fun _ => shown_hash _) (fun _ => shown_stableId _ _) h

theorem PaperAccountSessionReport.shown_stamp {report : PaperAccountSessionReport}
    (h : report.validate = .ok ()) :
    Shown report.sessionReportId ∧ Shown report.sessionReportHash :=
  shown_of_stamped PaperAccountSessionReport.stamping (fun _ => shown_hash _) (fun _ => shown_stableId _ _) h

theorem PaperTcaReport.shown_stamp {report : PaperTcaReport} (h : report.validate = .ok ()) :
    Shown report.tcaReportId ∧ Shown report.tcaReportHash :=
  shown_of_stamped PaperTcaReport.stamping (fun _ => shown_hash _) (fun _ => shown_stableId _ _) h

/-- The order id of a valid event is built from its parts. -/
theorem ExecutionGatewayLifecycleEvent.shown_orderId {event : ExecutionGatewayLifecycleEvent}
    (h : event.validate = .ok ()) : ∀ id ∈ event.gatewayOrderId, Shown id := by
  obtain ⟨hfields, -⟩ := (ExecutionGatewayLifecycleEvent.stamping.validate_eq_ok_iff event).mp h
  obtain ⟨-, -, -, -, -, -, -, hstatus⟩ :=
    (ExecutionGatewayLifecycleEvent.validateFields_eq_ok_iff event).mp hfields
  simp only [ExecutionGatewayLifecycleEvent.validateStatus] at hstatus
  intro id hid
  split_ifs at hstatus with hblocked
  · simp only [ExecutionGatewayLifecycleEvent.validateBlocked, check_bind_eq_ok_iff,
      require_eq_ok_iff] at hstatus
    rw [hstatus.2.1] at hid
    cases hid
  · simp only [ExecutionGatewayLifecycleEvent.validateReplayBacked, check_bind_eq_ok_iff,
      require_eq_ok_iff] at hstatus
    rw [hstatus.2.2.1] at hid
    cases hid
    exact shown_stableId _ _

/-- The events of a valid gateway report are valid, and its id lists are theirs. -/
theorem ExecutionGatewayReport.facts {report : ExecutionGatewayReport}
    (h : report.validate = .ok ()) :
    (∀ event ∈ report.events, event.validate = .ok ()) ∧
      report.riskCheckIds = report.events.map ExecutionGatewayLifecycleEvent.riskCheckId ∧
      report.approvedRiskCheckIds = ExecutionGatewayReport.approvedIds report.events ∧
      report.blockedRiskCheckIds = ExecutionGatewayReport.blockedIds report.events := by
  obtain ⟨hfields, -⟩ := (ExecutionGatewayReport.stamping.validate_eq_ok_iff report).mp h
  obtain ⟨-, hevents, -, -, hids, happroved, hblocked, -⟩ :=
    (ExecutionGatewayReport.validateFields_eq_ok_iff report).mp hfields
  exact ⟨hevents, hids, happroved, hblocked⟩

/-- The logs of a valid session report show their ids. -/
structure ShowsLogIds (report : PaperAccountSessionReport) : Prop where
  orderLogs : ∀ log ∈ report.orderLogs, Shown log.orderLogId
  fillLogs : ∀ log ∈ report.fillLogs, Shown log.fillLogId
  rejectionLogs : ∀ log ∈ report.rejectionLogs, Shown log.rejectionLogId
  orderLogIds : report.orderLogIds = report.orderLogs.map PaperOrderLifecycleLogEntry.orderLogId
  fillLogIds : report.fillLogIds = report.fillLogs.map PaperFillLogEntry.fillLogId
  rejectionLogIds :
    report.rejectionLogIds = report.rejectionLogs.map PaperRejectionLogEntry.rejectionLogId

theorem PaperAccountSessionReport.showsLogIds {report : PaperAccountSessionReport}
    (h : report.validate = .ok ()) : ShowsLogIds report := by
  obtain ⟨hfields, -⟩ := (PaperAccountSessionReport.stamping.validate_eq_ok_iff report).mp h
  have hchecks : report.validateFields = .ok () := hfields
  simp only [PaperAccountSessionReport.validateFields, check_bind_eq_ok_iff, forM_eq_ok_iff,
    PaperAccountSessionReport.validateLogsAndTotals, require_eq_ok_iff] at hchecks
  obtain ⟨-, -, -, horders, hfills, hrejections, -, -, -, -, horderIds, hfillIds, hrejectionIds,
    -⟩ := hchecks
  refine ⟨?_, ?_, ?_, horderIds, hfillIds, hrejectionIds⟩
  · intro log hlog
    exact (shown_of_stamped PaperOrderLifecycleLogEntry.stamping (fun _ => shown_hash _)
      (fun _ => shown_stableId _ _) (horders log hlog)).1
  · intro log hlog
    exact (shown_of_stamped PaperFillLogEntry.stamping (fun _ => shown_hash _)
      (fun _ => shown_stableId _ _) (hfills log hlog)).1
  · intro log hlog
    exact (shown_of_stamped PaperRejectionLogEntry.stamping (fun _ => shown_hash _)
      (fun _ => shown_stableId _ _) (hrejections log hlog)).1

/-- The rows and issues of a valid TCA report show their ids. -/
structure ShowsTcaIds (report : PaperTcaReport) : Prop where
  rows : ∀ row ∈ report.rows, Shown row.tcaRowId
  issues : ∀ issue ∈ report.issues, Shown issue.issueId
  rowIds : report.rowIds = report.rows.map PaperTcaRow.tcaRowId
  issueIds : report.issueIds = report.issues.map PaperTcaIssue.issueId

theorem PaperTcaReport.showsTcaIds {report : PaperTcaReport} (h : report.validate = .ok ()) :
    ShowsTcaIds report := by
  obtain ⟨hfields, -⟩ := (PaperTcaReport.stamping.validate_eq_ok_iff report).mp h
  have hchecks : report.validateFields = .ok () := hfields
  simp only [PaperTcaReport.validateFields, check_bind_eq_ok_iff, forM_eq_ok_iff,
    require_eq_ok_iff] at hchecks
  obtain ⟨-, -, hrows, hissues, -, -, hrowIds, hissueIds, -⟩ := hchecks
  refine ⟨?_, ?_, hrowIds, hissueIds⟩
  · intro row hrow
    exact (shown_of_stamped PaperTcaRow.stamping (fun _ => shown_hash _)
      (fun _ => shown_stableId _ _) (hrows row hrow)).1
  · intro issue hissue
    exact (shown_of_stamped PaperTcaIssue.stamping (fun _ => shown_hash _)
      (fun _ => shown_stableId _ _) (hissues issue hissue)).1

end Displays

end TaModel.Audit
