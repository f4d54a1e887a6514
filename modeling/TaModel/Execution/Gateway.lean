import TaModel.Risk.GatedReplay

/-!
# The risk-gated execution gateway

`run_simulator_gateway_replay` and `run_paper_gateway_replay` of `execution/gateway.py`: one gated
replay of all risk events, whose results are handed back to the events by risk id, one lifecycle
event for each risk event.

`runGateway_eq_ok_iff` inverts a run, `lifecycleEvent_cases` one lifecycle event. A report that gets
as far as its constructor passes its validators (`reportDraft_validateFields`).
-/

set_option autoImplicit false

namespace TaModel.Execution

open Contracts Risk Simulation

/-! ## The gateway -/

/-- `_replay_results_by_risk_id`: the pairs of the dictionary, in the order of insertion. -/
def replayResultsByRiskId (events : List RiskCheckEvent) (results : List ReplayOrderResult) :
    Raises (List (String × ReplayOrderResult)) :=
  if (approvedRiskIds events).length = results.length then
    .ok ((approvedRiskIds events).zip results)
  else .error "approved risk events and replay results must align"

/-- `.get(risk_check_id)`: of two pairs with one key the later one counts. -/
def resultOf (pairs : List (String × ReplayOrderResult)) (riskCheckId : String) :
    Option ReplayOrderResult :=
  (pairs.reverse.find? fun pair => pair.1 == riskCheckId).map Prod.snd

/-- `_SIMULATOR_REQUIREMENTS` and `_PAPER_REQUIREMENTS`. -/
def gatewayRequirements : ExecutionGatewayKind → List String
  | .simulator => ["FR-010", "FR-012", "NFR-004", "TFR-008"]
  | .paper => ["FR-010", "FR-013", "NFR-004", "TFR-008"]

/-- Everything a gateway replay takes besides the risk events. -/
structure GatewayInputs where
  bars : List OHLCTVBar
  runId : String
  costModel : Option ExecutionCostModel
  snapshot : Option InstrumentMasterSnapshot
  startingAccountState : Option SimulatedAccountState

section Gateway

variable [Sha256]

/-- The gated replay of the gateway. -/
def gatedReplay (inputs : GatewayInputs) (events : List RiskCheckEvent) :
    Raises RiskGatedReplayResult :=
  replayRiskApprovedMarketOrders inputs.bars events inputs.runId inputs.costModel inputs.snapshot
    inputs.startingAccountState

/-- The lifecycle event of one risk event. -/
def lifecycleEvent (kind : ExecutionGatewayKind) (runId : String)
    (pairs : List (String × ReplayOrderResult)) (event : RiskCheckEvent) :
    Raises ExecutionGatewayLifecycleEvent :=
  ExecutionGatewayLifecycleEvent.make kind kind.fillMode runId event
    (resultOf pairs event.riskCheckId) (gatewayRequirements kind)

/-- The results of the replay report, none without a report. -/
def gatedResults (gated : RiskGatedReplayResult) : List ReplayOrderResult :=
  (gated.replayReport.map ReplayReport.results).getD []

/-- `_run_risk_gated_gateway`. -/
def runGateway (kind : ExecutionGatewayKind) (inputs : GatewayInputs)
    (events : List RiskCheckEvent) : Raises ExecutionGatewayReport := do
  let gated ← gatedReplay inputs events
  let pairs ← replayResultsByRiskId events (gatedResults gated)
  let lifecycle ← events.mapM (lifecycleEvent kind inputs.runId pairs)
  ExecutionGatewayReport.make inputs.runId kind kind.fillMode gated lifecycle
    (gatewayRequirements kind)

/-- `run_simulator_gateway_replay`. -/
def runSimulatorGatewayReplay (inputs : GatewayInputs) (events : List RiskCheckEvent) :
    Raises ExecutionGatewayReport :=
  runGateway .simulator inputs events

/-- `run_paper_gateway_replay`. -/
def runPaperGatewayReplay (inputs : GatewayInputs) (events : List RiskCheckEvent) :
    Raises ExecutionGatewayReport :=
  runGateway .paper inputs events

/-! ## Inversion of a run -/

variable {kind : ExecutionGatewayKind} {inputs : GatewayInputs} {events : List RiskCheckEvent}
  {report : ExecutionGatewayReport}

/-- The draft of the report of a run. -/
def reportDraft (kind : ExecutionGatewayKind) (inputs : GatewayInputs)
    (gated : RiskGatedReplayResult) (lifecycle : List ExecutionGatewayLifecycleEvent) :
    ExecutionGatewayReport :=
  ExecutionGatewayReport.draft inputs.runId kind kind.fillMode gated lifecycle
    (gatewayRequirements kind)

theorem runGateway_eq_ok_iff :
    runGateway kind inputs events = .ok report ↔
      ∃ gated pairs lifecycle, gatedReplay inputs events = .ok gated ∧
        replayResultsByRiskId events (gatedResults gated) = .ok pairs ∧
        List.Forall₂ (fun event e => lifecycleEvent kind inputs.runId pairs event = .ok e)
          events lifecycle ∧
        (reportDraft kind inputs gated lifecycle).validateFields = .ok () ∧
        report = ExecutionGatewayReport.stamping.sealed (reportDraft kind inputs gated lifecycle) := by
  have hmode : validateGatewayFillMode kind kind.fillMode = .ok () :=
    (validateGatewayFillMode_eq_ok_iff _ _).mpr rfl
  have hmake : ∀ gated lifecycle, ExecutionGatewayReport.make inputs.runId kind kind.fillMode gated
      lifecycle (gatewayRequirements kind) =
      ExecutionGatewayReport.stamping.construct (reportDraft kind inputs gated lifecycle) := by
    intro gated lifecycle
    simp only [ExecutionGatewayReport.make, hmode]
    rfl
  simp only [runGateway, bind_eq_ok_iff, mapM_eq_ok_iff, hmake,
    Library.Stamping.construct_eq_ok_iff]
  constructor
  · rintro ⟨gated, hgated, pairs, hpairs, lifecycle, hlifecycle, hreport⟩
    exact ⟨gated, pairs, lifecycle, hgated, hpairs, hlifecycle, hreport⟩
  · rintro ⟨gated, pairs, lifecycle, hgated, hpairs, hlifecycle, hreport⟩
    exact ⟨gated, hgated, pairs, hpairs, lifecycle, hlifecycle, hreport⟩

/-! ## One lifecycle event -/

section Lifecycle

variable {runId : String} {pairs : List (String × ReplayOrderResult)} {event : RiskCheckEvent}
  {e : ExecutionGatewayLifecycleEvent}

/-- A lifecycle event is the blocked one of its risk event, or it repeats the replay result that
belongs to the event. -/
theorem lifecycleEvent_cases (h : lifecycleEvent kind runId pairs event = .ok e) :
    (resultOf pairs event.riskCheckId = none ∧
      e = ExecutionGatewayLifecycleEvent.stamping.sealed
        (ExecutionGatewayLifecycleEvent.blockedDraft kind kind.fillMode runId event
          (gatewayRequirements kind))) ∨
    ∃ result intent, resultOf pairs event.riskCheckId = some result ∧
      event.approvedOrderIntent = some intent ∧
      e = ExecutionGatewayLifecycleEvent.stamping.sealed
        (ExecutionGatewayLifecycleEvent.replayDraft kind kind.fillMode runId event intent result
          (gatewayRequirements kind)) := by
  simp only [lifecycleEvent, ExecutionGatewayLifecycleEvent.make, check_bind_eq_ok_iff] at h
  obtain ⟨-, h⟩ := h
  cases hresult : resultOf pairs event.riskCheckId with
  | none =>
      rw [hresult] at h
      exact Or.inl ⟨rfl, ((Library.Stamping.construct_eq_ok_iff _ _ _).mp h).2⟩
  | some result =>
      rw [hresult] at h
      cases hintent : event.approvedOrderIntent with
      | none =>
          rw [hintent] at h
          cases h
      | some intent =>
          rw [hintent] at h
          exact Or.inr ⟨result, intent, rfl, rfl,
            ((Library.Stamping.construct_eq_ok_iff _ _ _).mp h).2⟩

theorem lifecycleEvent_valid (h : lifecycleEvent kind runId pairs event = .ok e) :
    e.validate = .ok () := by
  simp only [lifecycleEvent, ExecutionGatewayLifecycleEvent.make, check_bind_eq_ok_iff] at h
  obtain ⟨-, h⟩ := h
  split at h
  · exact Library.Stamping.validate_of_construct _ h
  · cases h
  · exact Library.Stamping.validate_of_construct _ h

/-- A lifecycle event is blocked exactly when no replay result belongs to its risk event. -/
theorem lifecycleEvent_status (h : lifecycleEvent kind runId pairs event = .ok e) :
    e.status = .blocked ↔ resultOf pairs event.riskCheckId = none := by
  rcases lifecycleEvent_cases h with ⟨hresult, rfl⟩ | ⟨result, intent, hresult, -, rfl⟩
  · exact ⟨fun _ => hresult, fun _ => rfl⟩
  · constructor
    · intro hstatus
      exact absurd hstatus (ExecutionGatewayOrderStatus.ofReplay_ne_blocked result.status)
    · intro hnone
      rw [hnone] at hresult
      cases hresult

/-- A lifecycle event names its run and its risk event. -/
structure NamesRiskEvent (kind : ExecutionGatewayKind) (runId : String) (event : RiskCheckEvent)
    (e : ExecutionGatewayLifecycleEvent) : Prop where
  riskCheckId : e.riskCheckId = event.riskCheckId
  riskCheckHash : e.riskCheckHash = event.riskCheckHash
  riskDecision : e.riskDecision = event.finalDecision
  runId : e.runId = runId
  gatewayKind : e.gatewayKind = kind
  fillMode : e.fillMode = kind.fillMode
  requirementIds : e.requirementIds = gatewayRequirements kind

theorem lifecycleEvent_names (h : lifecycleEvent kind runId pairs event = .ok e) :
    NamesRiskEvent kind runId event e := by
  rcases lifecycleEvent_cases h with ⟨-, rfl⟩ | ⟨result, intent, -, -, rfl⟩
  · exact ⟨rfl, rfl, rfl, rfl, rfl, rfl, rfl⟩
  · exact ⟨rfl, rfl, rfl, rfl, rfl, rfl, rfl⟩

end Lifecycle

/-! ## The whole report -/

section Report

variable {gated : RiskGatedReplayResult} {pairs : List (String × ReplayOrderResult)}
  {lifecycle : List ExecutionGatewayLifecycleEvent}

/-- The risk events that are forwarded are the ones a replay result belongs to. -/
theorem resultOf_isSome_iff (hpairs : replayResultsByRiskId events (gatedResults gated) = .ok pairs)
    (hmatch : ∀ event ∈ events, IntentMatchesDecision event)
    {event : RiskCheckEvent} (hmem : event ∈ events) {e : ExecutionGatewayLifecycleEvent}
    (he : lifecycleEvent kind inputs.runId pairs event = .ok e) :
    (resultOf pairs event.riskCheckId).isSome = isForwarded event := by
  simp only [replayResultsByRiskId] at hpairs
  split_ifs at hpairs with hlength
  cases hpairs
  cases hforward : isForwarded event with
  | true =>
      -- its id is among the keys, so the lookup succeeds
      have hid : event.riskCheckId ∈ approvedRiskIds events :=
        List.mem_map_of_mem (List.mem_filter.mpr ⟨hmem, hforward⟩)
      have hkeys : ((approvedRiskIds events).zip (gatedResults gated)).map Prod.fst =
          approvedRiskIds events := List.map_fst_zip hlength.le
      rw [← hkeys] at hid
      obtain ⟨pair, hpair, hkey⟩ := List.mem_map.mp hid
      simp only [resultOf, Option.isSome_map, List.find?_isSome, List.mem_reverse]
      exact ⟨pair, hpair, by simp [hkey]⟩
  | false =>
      -- it carries no intent, so a result of its id would have raised
      have hmatches : event.finalDecision.isApproval = event.approvedOrderIntent.isSome :=
        hmatch event hmem
      have hintent : event.approvedOrderIntent = none := by
        cases hsome : event.approvedOrderIntent with
        | none => rfl
        | some intent =>
            rw [hsome] at hmatches
            have hforwarded : isForwarded event = true :=
              (isForwarded_iff event).mpr ⟨hmatches, by simp [hsome]⟩
            rw [hforward] at hforwarded
            cases hforwarded
      rcases lifecycleEvent_cases he with ⟨hresult, -⟩ | ⟨result, intent, -, hsome, -⟩
      · rw [hresult]
        rfl
      · rw [hintent] at hsome
        cases hsome

/-- The blocked lifecycle events are those of the risk events that are not forwarded. -/
theorem lifecycle_status (hpairs : replayResultsByRiskId events (gatedResults gated) = .ok pairs)
    (hmatch : ∀ event ∈ events, IntentMatchesDecision event)
    (hlifecycle : List.Forall₂
      (fun event e => lifecycleEvent kind inputs.runId pairs event = .ok e) events lifecycle) :
    List.Forall₂ (fun event e => e.riskCheckId = event.riskCheckId ∧
      (e.status = .blocked ↔ isForwarded event = false)) events lifecycle := by
  have hmem : List.Forall₂ (fun event e => event ∈ events ∧
      lifecycleEvent kind inputs.runId pairs event = .ok e) events lifecycle :=
    (List.forall₂_and_left _ _).mpr ⟨fun event hevent => hevent, hlifecycle⟩
  refine hmem.imp ?_
  rintro event e ⟨hevent, he⟩
  refine ⟨(lifecycleEvent_names he).riskCheckId, ?_⟩
  rw [lifecycleEvent_status he, ← resultOf_isSome_iff hpairs hmatch hevent he]
  cases resultOf pairs event.riskCheckId <;> simp

omit [Sha256] in
/-- The ids of a report are those of the risk events, split by the approval filter. -/
theorem lifecycle_ids (h : List.Forall₂ (fun event e => e.riskCheckId = event.riskCheckId ∧
      (e.status = .blocked ↔ isForwarded event = false)) events lifecycle) :
    lifecycle.map ExecutionGatewayLifecycleEvent.riskCheckId =
        events.map RiskCheckEvent.riskCheckId ∧
      ExecutionGatewayReport.approvedIds lifecycle = approvedRiskIds events ∧
      ExecutionGatewayReport.blockedIds lifecycle = blockedRiskIds events := by
  simp only [ExecutionGatewayReport.approvedIds, ExecutionGatewayReport.blockedIds,
    approvedRiskIds, blockedRiskIds, ne_eq, decide_not]
  induction h with
  | nil => exact ⟨rfl, rfl, rfl⟩
  | @cons event e events lifecycle hhead _ ih =>
      obtain ⟨hid, hstatus⟩ := hhead
      obtain ⟨hids, happroved, hblocked⟩ := ih
      cases hforward : isForwarded event with
      | true =>
          have hne : e.status ≠ .blocked := by
            intro hb
            rw [hstatus.mp hb] at hforward
            cases hforward
          simp [hforward, hne, hid, hids, happroved, hblocked]
      | false =>
          have hb : e.status = .blocked := hstatus.mpr hforward
          simp [hforward, hb, hid, hids, happroved, hblocked]

/-- Once the replay and the lifecycle events are built, the report passes its validators. -/
theorem reportDraft_validateFields (hgated : gatedReplay inputs events = .ok gated)
    (hpairs : replayResultsByRiskId events (gatedResults gated) = .ok pairs)
    (hmatch : ∀ event ∈ events, IntentMatchesDecision event)
    (hlifecycle : List.Forall₂
      (fun event e => lifecycleEvent kind inputs.runId pairs event = .ok e) events lifecycle) :
    (reportDraft kind inputs gated lifecycle).validateFields = .ok () := by
  obtain ⟨replayReport, hreplay, hrun, rfl⟩ := (replayRiskApproved_eq_ok_iff gated).mp hgated
  obtain ⟨hids, happroved, hblocked⟩ := lifecycle_ids (lifecycle_status hpairs hmatch hlifecycle)
  have hnames : ∀ e ∈ lifecycle, ∃ event, NamesRiskEvent kind inputs.runId event e ∧
      e.validate = .ok () := by
    intro e he
    obtain ⟨event, -, hevent⟩ := Library.exists_of_mem_right hlifecycle he
    exact ⟨event, lifecycleEvent_names hevent, lifecycleEvent_valid hevent⟩
  have hnone := replayForwarded_eq_none_iff hreplay
  rw [filterMap_forwardedIntent_eq_nil_iff] at hnone
  refine (ExecutionGatewayReport.validateFields_eq_ok_iff _).mpr
    ⟨hrun, ?_, (validateGatewayFillMode_eq_ok_iff _ _).mpr rfl, rfl, hids.symm, happroved.symm,
      hblocked.symm, isPartitionOf_riskIds events, ?_, ?_, ?_, ?_, ?_, ?_, ?_⟩
  · intro e he
    obtain ⟨event, -, hvalid⟩ := hnames e he
    exact hvalid
  · intro e he
    obtain ⟨event, hevent, -⟩ := hnames e he
    exact hevent.runId
  · intro e he
    obtain ⟨event, hevent, -⟩ := hnames e he
    exact ⟨hevent.gatewayKind, hevent.fillMode⟩
  · intro e he
    obtain ⟨event, hevent, -⟩ := hnames e he
    exact hevent.requirementIds
  · show replayReport.map ReplayReport.replayReportId = none ↔
      replayReport.map ReplayReport.replayReportHash = none
    simp
  · cases replayReport with
    | none => exact (require_eq_ok_iff _ _ _).mpr ⟨rfl, rfl, rfl⟩
    | some report =>
        have hlinked : ∀ state, report.finalAccountState = state →
            (reportDraft kind inputs (RiskGatedReplayResult.stamping.sealed
              { resultId := "RISKGATEDREPLAY:PLACEHOLDER", resultHash := "",
                runId := inputs.runId, riskCheckIds := events.map RiskCheckEvent.riskCheckId,
                approvedRiskCheckIds := approvedRiskIds events,
                blockedRiskCheckIds := blockedRiskIds events, replayReport := some report })
              lifecycle).validateFinalAccountStateLinkage = .ok () := by
          intro state hstate
          cases state with
          | none =>
              simp [ExecutionGatewayReport.validateFinalAccountStateLinkage, reportDraft,
                ExecutionGatewayReport.draft, Library.Stamping.sealed,
                RiskGatedReplayResult.stamping, hstate]
          | some final =>
              simp [ExecutionGatewayReport.validateFinalAccountStateLinkage, reportDraft,
                ExecutionGatewayReport.draft, Library.Stamping.sealed,
                RiskGatedReplayResult.stamping, hstate, check_bind_eq_ok_iff]
        exact hlinked _ rfl
  · intro hne
    show replayReport.map ReplayReport.replayReportId ≠ none
    rw [Ne, Option.map_eq_none_iff, hnone]
    exact hne
  · intro hnil
    show replayReport.map ReplayReport.replayReportId = none
    rw [Option.map_eq_none_iff, hnone]
    exact hnil

end Report

end Gateway

end TaModel.Execution
