import TaModel.Audit.BuilderReports
import TaModel.Audit.Soundness
import TaModel.Execution.Blocking

/-!
# The audit replay of honest evidence

An honest record stores what the builders returned for one order (`HonestTrace`). The replay does
not know the arguments they were called with: it reads the account-state arguments off the stored
session (`rebuildArguments`). `rebuildPaperAccountReport_self` shows for which of them this gives
the stored session back. A record without bars is refused before anything is rebuilt.
-/

set_option autoImplicit false

namespace TaModel.Audit

open Contracts Execution Risk Simulation

section Honest

variable [Sha256]

/-! ## The session is rebuilt from itself -/

/-- A session only depends on the embedded initial state and on the resolved account states. -/
theorem makePaperAccountSessionReport_congr {report : ExecutionGatewayReport}
    {args args' : AccountStateArguments}
    (hstate : args'.initialAccountState = args.initialAccountState)
    (hinitial : resolveAccountStateIdentity args'.initialAccountState args'.initialAccountStateId
      args'.initialAccountStateHash "initial" =
        resolveAccountStateIdentity args.initialAccountState args.initialAccountStateId
          args.initialAccountStateHash "initial")
    (hfinal : resolveFinalAccountState report args' = resolveFinalAccountState report args) :
    makePaperAccountSessionReport report args' = makePaperAccountSessionReport report args := by
  simp only [makePaperAccountSessionReport]
  rw [hinitial, hfinal, hstate]

/-- The session of a fill that the replay gives no final state: the final state comes embedded,
together with the id and the hash that the builder asks for. -/
def EmbedsExplicitFinal (report : ExecutionGatewayReport) (args : AccountStateArguments) : Prop :=
  hasFilledEvents report = true ∧ report.sourceReplayFinalAccountState = none ∧
    args.finalAccountState ≠ none

/-- What the account-state arguments of a session are resolved to. -/
structure ResolvesTo (report : ExecutionGatewayReport) (args : AccountStateArguments)
    (paper : PaperAccountSessionReport) : Prop where
  initialState : paper.initialAccountState = args.initialAccountState
  initial : resolveAccountStateIdentity args.initialAccountState args.initialAccountStateId
    args.initialAccountStateHash "initial" =
      .ok (paper.initialAccountStateId, paper.initialAccountStateHash)
  final : resolveFinalAccountState report args = .ok ⟨paper.finalAccountState,
    paper.finalAccountStateId, paper.finalAccountStateHash, paper.finalAccountStateSource⟩

theorem resolvesTo_of_session {report : ExecutionGatewayReport} {args : AccountStateArguments}
    {paper : PaperAccountSessionReport}
    (h : makePaperAccountSessionReport report args = .ok paper) : ResolvesTo report args paper := by
  simp only [makePaperAccountSessionReport, bind_eq_ok_iff] at h
  obtain ⟨_, -, ⟨initialId, initialHash⟩, hinitial, final, hfinal, _, -, _, -, _, -, _, -,
    hconstruct⟩ := h
  obtain ⟨-, rfl⟩ := (Library.Stamping.construct_eq_ok_iff _ _ _).mp hconstruct
  exact ⟨rfl, hinitial, hfinal⟩

/-- The stored initial state resolves as the one the session was made with. -/
theorem resolveInitial_rebuildArguments {report : ExecutionGatewayReport}
    {args : AccountStateArguments} {paper : PaperAccountSessionReport}
    (h : ResolvesTo report args paper) :
    resolveAccountStateIdentity (rebuildArguments paper report).initialAccountState
      (rebuildArguments paper report).initialAccountStateId
      (rebuildArguments paper report).initialAccountStateHash "initial" =
        .ok (paper.initialAccountStateId, paper.initialAccountStateHash) := by
  have hinitial := h.initial
  cases hstate : paper.initialAccountState with
  | none =>
      simp only [rebuildArguments, hstate]
      rfl
  | some state =>
      -- the id and the hash of an embedded state are computed from it
      rw [← h.initialState, hstate] at hinitial
      simp only [resolveAccountStateIdentity, check_bind_eq_ok_iff] at hinitial
      simp only [rebuildArguments, hstate, resolveAccountStateIdentity]
      exact hinitial.2.2

/-- The stored final state resolves as the one the session was made with, unless it is the embedded
final state of a fill. -/
theorem resolveFinal_rebuildArguments {report : ExecutionGatewayReport}
    {args : AccountStateArguments} {paper : PaperAccountSessionReport}
    (h : ResolvesTo report args paper) (hembeds : ¬ EmbedsExplicitFinal report args) :
    resolveFinalAccountState report (rebuildArguments paper report) =
      .ok ⟨paper.finalAccountState, paper.finalAccountStateId, paper.finalAccountStateHash,
        paper.finalAccountStateSource⟩ := by
  have hfinal := h.final
  cases hreplayed : report.sourceReplayFinalAccountState with
  | some state =>
      -- the replay derived the final state: nothing is supplied
      simp only [resolveFinalAccountState, hreplayed, check_bind_eq_ok_iff] at hfinal
      simp only [resolveFinalAccountState, hreplayed, rebuildArguments]
      exact hfinal.2
  | none =>
      cases hfilled : hasFilledEvents report with
      | true =>
          -- a fill: the linkage is by id and hash
          have hnone : args.finalAccountState = none := by
            by_contra hsome
            exact hembeds ⟨hfilled, hreplayed, hsome⟩
          simp only [resolveFinalAccountState, hreplayed, hfilled, if_true,
            resolveFilledFinalState, hnone] at hfinal
          split at hfinal
          · obtain ⟨-, hresolved⟩ := (check_bind_eq_ok_iff _ _ _).mp hfinal
            simp only [Except.ok.injEq, ResolvedFinalState.mk.injEq] at hresolved
            obtain ⟨hstate, -, -, hsource⟩ := hresolved
            simp only [resolveFinalAccountState, hreplayed, hfilled, if_true, rebuildArguments,
              ← hstate, ← hsource]
            rfl
          · cases hfinal
      | false =>
          simp only [resolveFinalAccountState, hreplayed, hfilled, Bool.false_eq_true, if_false,
            resolveUnfilledFinalState] at hfinal
          simp only [resolveFinalAccountState, hreplayed, hfilled, Bool.false_eq_true, if_false]
          split_ifs at hfinal with hgiven
          · -- an explicit final state, embedded or by id and hash
            obtain ⟨⟨finalId, finalHash⟩, hidentity, hresolved⟩ := (bind_eq_ok_iff _ _ _).mp hfinal
            simp only [Except.ok.injEq, ResolvedFinalState.mk.injEq] at hresolved
            obtain ⟨hstate, hid, hhash, hsource⟩ := hresolved
            cases hembedded : args.finalAccountState with
            | some state =>
                rw [hembedded] at hstate hidentity
                simp only [resolveAccountStateIdentity, check_bind_eq_ok_iff, Except.ok.injEq,
                  Prod.mk.injEq] at hidentity
                obtain ⟨-, -, hidOf, hhashOf⟩ := hidentity
                rw [← hid, ← hhash, ← hidOf, ← hhashOf, ← hstate, ← hsource]
                simp only [rebuildArguments, hreplayed, ← hstate, ← hsource]
                rfl
            | none =>
                rw [hembedded] at hstate
                rw [← hstate, ← hsource]
                simp only [rebuildArguments, hreplayed, ← hstate, ← hsource]
                rfl
          · -- the session leaves the initial state as it is
            split at hfinal
            · cases hfinal
            · next state hinitial =>
                simp only [Except.ok.injEq, ResolvedFinalState.mk.injEq] at hfinal
                obtain ⟨hstate, hid, hhash, hsource⟩ := hfinal
                have hgivenInitial := h.initialState.trans hinitial
                rw [← hid, ← hhash, ← hstate, ← hsource]
                simp only [rebuildArguments, hreplayed, hgivenInitial, ← hsource]
                rfl

/-- The session is what the replay rebuilds from it. -/
theorem rebuildPaperAccountReport_self {report : ExecutionGatewayReport}
    {args : AccountStateArguments} {paper : PaperAccountSessionReport}
    (h : makePaperAccountSessionReport report args = .ok paper)
    (hembeds : ¬ EmbedsExplicitFinal report args) :
    rebuildPaperAccountReport paper report = .ok paper := by
  have hresolves := resolvesTo_of_session h
  rw [rebuildPaperAccountReport, ← h]
  apply makePaperAccountSessionReport_congr
  · exact hresolves.initialState
  · rw [resolveInitial_rebuildArguments hresolves, hresolves.initial]
  · rw [resolveFinal_rebuildArguments hresolves hembeds, hresolves.final]

/-! ## Honest records -/

/-- One order with the arguments of the four builders and what they returned. -/
structure HonestTrace where
  forecast : Forecast
  decision : StrategyDecision
  orderIntent : OrderIntent
  riskEvent : RiskCheckEvent
  inputs : GatewayInputs
  accountArguments : AccountStateArguments
  quotes : List QuoteEvent
  gatewayReport : ExecutionGatewayReport
  paperAccountReport : PaperAccountSessionReport
  paperTcaReport : PaperTcaReport
  envelope : DecisionTraceEnvelope
  forecast_valid : forecast.validate = .ok ()
  decision_valid : decision.validate = .ok ()
  riskEvent_valid : riskEvent.validate = .ok () ∧ riskEvent.request.validate = .ok ()
  snapshot_valid : ∀ snapshot ∈ inputs.snapshot, snapshot.validateReferences = .ok ()
  gateway_built : runPaperGatewayReplay inputs [riskEvent] = .ok gatewayReport
  paper_built : makePaperAccountSessionReport gatewayReport accountArguments =
    .ok paperAccountReport
  tca_built : makePaperTcaReport gatewayReport quotes = .ok paperTcaReport
  envelope_built : makeDecisionTraceEnvelope
    (OrderArtifacts.toTrace ⟨orderIntent, riskEvent, gatewayReport, paperAccountReport,
      paperTcaReport⟩ forecast decision) = .ok envelope

namespace HonestTrace

/-- The five artifacts of the order. -/
def order (trace : HonestTrace) : OrderArtifacts :=
  ⟨trace.orderIntent, trace.riskEvent, trace.gatewayReport, trace.paperAccountReport,
    trace.paperTcaReport⟩

/-- The record that stores the artifacts of the trace. -/
def evidence (trace : HonestTrace) : DecisionTraceReplayEvidence where
  traceId := trace.decision.traceId
  envelope := trace.envelope
  forecast := trace.forecast
  decision := trace.decision
  orderIntent := some trace.orderIntent
  riskEvent := some trace.riskEvent
  gatewayReport := some trace.gatewayReport
  paperAccountReport := some trace.paperAccountReport
  paperTcaReport := some trace.paperTcaReport
  bars := trace.inputs.bars
  executionCostModel := trace.inputs.costModel
  instrumentMasterSnapshot := trace.inputs.snapshot
  startingAccountState := trace.inputs.startingAccountState
  quotes := trace.quotes

/-- What the replay of the trace makes of its own artifacts. -/
def replayed (trace : HonestTrace) : ReplayedOrder :=
  ⟨trace.gatewayReport, trace.paperAccountReport, trace.paperTcaReport, trace.envelope⟩

variable (trace : HonestTrace)

/-- The gateway reports one event for the one risk event, under the run of its inputs. -/
theorem gateway_events : trace.gatewayReport.runId = trace.inputs.runId ∧
    ∃ event, trace.gatewayReport.events = [event] := by
  obtain ⟨gated, pairs, lifecycle, -, -, hlifecycle, -, hreport⟩ :=
    runGateway_eq_ok_iff.mp trace.gateway_built
  rw [hreport]
  refine ⟨rfl, ?_⟩
  cases hlifecycle with
  | cons _ hrest =>
      cases hrest
      exact ⟨_, rfl⟩

theorem artifactsValid : ArtifactsValid trace.evidence where
  forecast := trace.forecast_valid
  decision := trace.decision_valid
  riskEvent := by
    rintro _ ⟨⟩
    exact trace.riskEvent_valid
  gatewayReport := by
    rintro _ ⟨⟩
    exact runPaperGatewayReplay_valid trace.gateway_built
  paperAccountReport := by
    rintro _ ⟨⟩
    exact makePaperAccountSessionReport_valid trace.paper_built
  paperTcaReport := by
    rintro _ ⟨⟩
    exact makePaperTcaReport_valid trace.tca_built
  snapshot := trace.snapshot_valid

theorem order_eq : trace.evidence.order = some trace.order := rfl

theorem envelope_valid : trace.envelope.validate = .ok () :=
  @makeDecisionTraceEnvelope_valid _ trace.order _ _ _ trace.envelope_built

/-- The envelope links one event of the gateway report. -/
theorem envelope_linked :
    validateForecastDecisionLineage trace.forecast trace.decision = .ok () ∧
      ∃ event, OrderLinked trace.decision trace.order event ∧
        trace.envelope = orderEnvelope trace.forecast trace.decision trace.order event :=
  (@makeDecisionTraceEnvelope_order_iff _ _ _ trace.order _).mp trace.envelope_built

theorem traceIdsMatch : TraceIdsMatch trace.decision.traceId trace.evidence := by
  obtain ⟨-, event, -, henvelope⟩ := trace.envelope_linked
  refine ⟨rfl, ?_, rfl⟩
  show trace.envelope.traceId = _
  rw [henvelope]
  rfl

/-- Outside the embedded final state of a fill the builders give the artifacts back. -/
theorem reproduces
    (hembeds : ¬ EmbedsExplicitFinal trace.gatewayReport trace.accountArguments) :
    Reproduces trace.evidence trace.order trace.replayed := by
  obtain ⟨hrun, event, hevent⟩ := trace.gateway_events
  have hrerun : runPaperGatewayReplay (trace.evidence.gatewayInputs trace.order.gatewayReport.runId)
      [trace.order.riskEvent] = .ok trace.replayed.gatewayReport := by
    have hinputs : trace.evidence.gatewayInputs trace.order.gatewayReport.runId = trace.inputs := by
      show GatewayInputs.mk _ _ _ _ _ = _
      rw [show trace.order.gatewayReport.runId = trace.inputs.runId from hrun]
      rfl
    rw [hinputs]
    exact trace.gateway_built
  exact ⟨⟨hrerun, rebuildPaperAccountReport_self trace.paper_built hembeds, trace.tca_built,
    trace.envelope_built⟩, compareGatewayReports_self hevent, comparePaperReports_self _,
    compareTcaReports_self _, SameEnvelope.refl _⟩

/-- The trace id of the record is the requested one after `strip`. -/
theorem strip_traceId : strip trace.decision.traceId = trace.decision.traceId :=
  strip_of_isCanonicalId (StrategyDecision.isCanonicalId_traceId trace.decision_valid)

/-- The replay passes without blockers. -/
def PassesFrom (trace : HonestTrace) (resolver : DecisionTraceEvidenceResolver) : Prop :=
  ∃ report, replayDecisionTraceById trace.decision.traceId resolver = .ok report ∧
    report.status = .passed ∧ report.blockers = []

/-- The replay fails with the one blocker that names the missing inputs. -/
def MissesInputFrom (trace : HonestTrace) (resolver : DecisionTraceEvidenceResolver) : Prop :=
  ∃ report blocker, replayDecisionTraceById trace.decision.traceId resolver = .ok report ∧
    report.status = .failed ∧ report.blockers = [blocker] ∧ blocker.code = .missingReplayInput

variable {trace}

/-- The report of a store that only has the record of the trace. -/
theorem replay_of_outcome {resolver : DecisionTraceEvidenceResolver} {outcome : ReplayOutcome}
    (honly : resolver trace.decision.traceId = [trace.evidence])
    (houtcome : replayEvidence trace.decision.traceId trace.evidence = .ok outcome) :
    replayDecisionTraceById trace.decision.traceId resolver =
      .ok (reportDraft trace.decision.traceId trace.evidence outcome) := by
  have hreplay := @replayDecisionTraceById_of_outcome trace.evidence _ trace.decision.traceId
    resolver outcome
  rw [trace.strip_traceId] at hreplay
  exact hreplay (StrategyDecision.isCanonicalId_traceId trace.decision_valid) honly houtcome

theorem passesFrom_of_bars {resolver : DecisionTraceEvidenceResolver}
    (honly : resolver trace.decision.traceId = [trace.evidence]) (hbars : trace.inputs.bars ≠ [])
    (hembeds : ¬ EmbedsExplicitFinal trace.gatewayReport trace.accountArguments) :
    trace.PassesFrom resolver := by
  obtain ⟨hlineage, event, hlinked, henvelope⟩ := trace.envelope_linked
  have hsame : SameEnvelope trace.evidence.envelope
      (orderEnvelope trace.evidence.forecast trace.evidence.decision trace.order event) := by
    show SameEnvelope trace.envelope _
    rw [henvelope]
    exact SameEnvelope.refl _
  have hrecord : PassingRecord trace.decision.traceId trace.evidence trace.order event
      trace.replayed :=
    ⟨trace.traceIdsMatch, trace.envelope_valid, trace.artifactsValid, trace.order_eq, hbars,
      hlineage, hlinked, hsame, trace.reproduces hembeds⟩
  exact ⟨_, replay_of_outcome honly (replayEvidence_passed hrecord), rfl, rfl⟩

theorem missesInputFrom_of_no_bars {resolver : DecisionTraceEvidenceResolver}
    (honly : resolver trace.decision.traceId = [trace.evidence]) (hbars : trace.inputs.bars = []) :
    trace.MissesInputFrom resolver := by
  have hmissing : missingOrderInputs trace.evidence ≠ [] := by
    intro hnil
    exact (missingOrderInputs_eq_nil_iff.mp hnil).2 hbars
  obtain ⟨blocker, hcode, houtcome⟩ := replayEvidence_missing trace.traceIdsMatch
    trace.envelope_valid trace.artifactsValid (Option.some_ne_none _) hmissing
  exact ⟨_, blocker, replay_of_outcome honly houtcome, rfl, rfl, hcode⟩

theorem not_passesFrom_of_missesInput {resolver : DecisionTraceEvidenceResolver}
    (h : trace.MissesInputFrom resolver) : ¬ trace.PassesFrom resolver := by
  obtain ⟨report, blocker, hreport, hstatus, -⟩ := h
  rintro ⟨report', hreport', hpassed, -⟩
  rw [Except.ok.inj (hreport'.symm.trans hreport), hstatus] at hpassed
  cases hpassed

end HonestTrace

/-! ## The replay of honest records -/

theorem honest_replay (trace : HonestTrace) (resolver : DecisionTraceEvidenceResolver)
    (honly : resolver trace.decision.traceId = [trace.evidence]) :
    (trace.inputs.bars ≠ [] →
      ¬ EmbedsExplicitFinal trace.gatewayReport trace.accountArguments →
      trace.PassesFrom resolver) ∧
    (trace.inputs.bars = [] → trace.MissesInputFrom resolver) :=
  ⟨fun hbars hembeds => HonestTrace.passesFrom_of_bars honly hbars hembeds,
    fun hbars => HonestTrace.missesInputFrom_of_no_bars honly hbars⟩

/-! ## A halted buy -/

/-- The inputs of a gateway run without an account, over these bars. -/
def tracedInputs (bars : List OHLCTVBar) : GatewayInputs := { haltedInputs with bars := bars }

/-- The initial and the final account state of the traced buy, by id and hash. -/
def namedLinkage : AccountLinkage where
  stateId := namedAccountState.stateId
  stateHash := namedAccountState.stateHash
  id_canonical := isCanonicalId_stableId _ _ (by decide) (by decide)
  hash_digest := isHexDigest_hash _

theorem tracedHalted_engine :
    evaluatePreTradeRisk (tracedRequest .halted) marketPolicy = .ok (tracedRisk .halted) :=
  (evaluatePreTradeRisk_eq_ok_iff _ _ _).mpr ⟨tracedRequest_valid .halted, rfl⟩

theorem tracedHalted_blocked : mustBlock (tracedRisk .halted) = true := rfl

/-- The blocked event of the halted buy matches the order. -/
theorem tracedHalted_matched {pairs : List (String × ReplayOrderResult)}
    {report : ExecutionGatewayReport} {event : ExecutionGatewayLifecycleEvent}
    (hevent : lifecycleEvent .paper "RUN" pairs (tracedRisk .halted) = .ok event)
    (hone : report.events = [event]) :
    OrderMatched boughtDecision tracedBuy (tracedRisk .halted) report event := by
  have hnone := approvedOrderIntent_of_mustBlock tracedHalted_engine tracedHalted_blocked
  have hexpected : expectedGatewayIntent (tracedRisk .halted) = tracedBuy := by
    rw [expectedGatewayIntent, hnone]
    rfl
  have hself : sameOrderIntent (tracedRisk .halted).request.orderIntent tracedBuy = true := by
    show sameOrderIntent tracedBuy tracedBuy = true
    simp [sameOrderIntent, AwareDatetime.sameInstant]
  obtain ⟨-, rfl⟩ | ⟨result, intent, -, hsome, -⟩ := lifecycleEvent_cases hevent
  · refine ⟨tracedBuy_matches, ?_, ?_, ?_⟩
    · simp only [validateRiskEventMatchesOrder, check_bind_eq_ok_iff, require_eq_ok_iff,
        forM_eq_ok_iff, hnone, Option.toList_none]
      exact ⟨rfl, rfl, hself, List.forall_mem_nil _⟩
    · apply matchingGatewayEvent_eq_ok_iff.mpr
      rw [hone]
      apply List.filter_eq_self.mpr
      intro e he
      rw [List.mem_singleton.mp he]
      simp only [isTraceEvent, Bool.and_eq_true, decide_eq_true_eq]
      exact ⟨⟨⟨rfl, rfl⟩, rfl⟩, rfl⟩
    · simp only [validateGatewayEventMatchesRiskOrder, hexpected, raiseOnMismatches_eq_ok_iff,
        List.forall_mem_cons, decide_eq_true_eq]
      refine ⟨rfl, rfl, rfl, rfl, rfl, ?_, rfl, rfl, rfl, rfl, rfl, List.forall_mem_nil _⟩
      show AwareDatetime.sameInstant tracedBuy.submittedAt tracedBuy.submittedAt = true
      simp [AwareDatetime.sameInstant]
  · rw [hnone] at hsome
    cases hsome

/-- A trace of the halted buy over these bars. -/
def HonestTrace.IsHaltedBuy (trace : HonestTrace) (bars : List OHLCTVBar) : Prop :=
  trace.riskEvent = tracedRisk .halted ∧ trace.inputs = tracedInputs bars ∧
    trace.accountArguments.finalAccountState = none

/-- The builders make an honest trace of the halted buy, over any bars. -/
theorem exists_haltedTrace (bars : List OHLCTVBar) :
    ∃ trace : HonestTrace, trace.IsHaltedBuy bars := by
  have hengine : EngineEvents [tracedRisk .halted] := by
    intro event hmem
    rw [List.mem_singleton.mp hmem]
    exact ⟨_, _, tracedHalted_engine⟩
  have hblock : ∀ event ∈ [tracedRisk .halted], mustBlock event = true := by
    intro event hmem
    rw [List.mem_singleton.mp hmem]
    exact tracedHalted_blocked
  have hrun : isCanonicalId (tracedInputs bars).runId = true := by
    show isCanonicalId "RUN" = true
    decide
  obtain ⟨report, hreport⟩ := @gatewayReplay_of_mustBlock _ .paper (tracedInputs bars) _ hengine
    hrun hblock
  -- nothing was forwarded, so there is no fill to add up
  have hmoderate : ∀ e ∈ filledEvents report, ModerateFill e := by
    intro e he
    obtain ⟨intent, hintent, -⟩ := filledEvents_frictionless hreport rfl e he
    obtain ⟨event, hmem, hforwarded⟩ := List.mem_filterMap.mp hintent
    rw [not_forwarded_of_mustBlock hengine hmem (hblock event hmem)] at hforwarded
    cases hforwarded
  obtain ⟨paper, hpaper⟩ := session_of_run hreport (.linked namedLinkage namedLinkage) hmoderate
  obtain ⟨tca, htca⟩ := tca_of_paperReport (paperReport_of_run hreport) hmoderate
    (fun q hq => absurd hq (List.not_mem_nil (a := q)))
  -- the run has one lifecycle event
  obtain ⟨event, hevent, hone⟩ : ∃ event, (∃ pairs,
      lifecycleEvent .paper "RUN" pairs (tracedRisk .halted) = .ok event) ∧
      report.events = [event] := by
    obtain ⟨gated, pairs, lifecycle, -, -, hlifecycle, -, hdraft⟩ :=
      runGateway_eq_ok_iff.mp hreport
    rw [hdraft]
    cases hlifecycle with
    | cons hhead hrest =>
        cases hrest
        exact ⟨_, ⟨pairs, hhead⟩, rfl⟩
  obtain ⟨pairs, hevent⟩ := hevent
  have hlinked := orderLinked_of_builders (paperReport_of_run hreport) hone
    (tracedHalted_matched hevent hone) hpaper htca
  refine ⟨{
    forecast := sampleForecast, decision := boughtDecision, orderIntent := tracedBuy,
    riskEvent := tracedRisk .halted, inputs := tracedInputs bars, accountArguments := _,
    quotes := [], gatewayReport := report, paperAccountReport := paper, paperTcaReport := tca,
    envelope := _, forecast_valid := sampleForecast_valid, decision_valid := boughtDecision_valid,
    riskEvent_valid := ⟨tracedRisk_valid .halted, tracedRequest_valid .halted⟩,
    snapshot_valid := nofun, gateway_built := hreport, paper_built := hpaper, tca_built := htca,
    envelope_built := makeDecisionTraceEnvelope_order_iff.mpr
      ⟨decisionOn_lineage _ _ _, event, hlinked, rfl⟩ }, rfl, rfl, rfl⟩

end Honest

/-- The record of the halted buy without bars is honest and does not pass. -/
theorem honest_order_without_bars_fails :
    ∃ trace : @HonestTrace hashlibSha256, @HonestTrace.IsHaltedBuy hashlibSha256 trace [] ∧
      ¬ @HonestTrace.PassesFrom hashlibSha256 trace
        (inMemoryStore [@HonestTrace.evidence hashlibSha256 trace]) := by
  obtain ⟨trace, htrace⟩ := @exists_haltedTrace hashlibSha256 []
  refine ⟨trace, htrace, ?_⟩
  apply @HonestTrace.not_passesFrom_of_missesInput hashlibSha256
  apply @HonestTrace.missesInputFrom_of_no_bars hashlibSha256 trace
  · exact inMemoryStore_self (@HonestTrace.evidence hashlibSha256 trace)
  · exact congrArg GatewayInputs.bars htrace.2.1

/-- With one bar it passes. -/
theorem honest_replay_halted_buy :
    ∃ trace : @HonestTrace hashlibSha256,
      @HonestTrace.IsHaltedBuy hashlibSha256 trace
        [flatBar "BTC-USD" 0 0 ⟨100, by decide⟩ ⟨10, by decide⟩] ∧
      @HonestTrace.PassesFrom hashlibSha256 trace
        (inMemoryStore [@HonestTrace.evidence hashlibSha256 trace]) := by
  obtain ⟨trace, htrace⟩ := @exists_haltedTrace hashlibSha256
    [flatBar "BTC-USD" 0 0 ⟨100, by decide⟩ ⟨10, by decide⟩]
  refine ⟨trace, htrace, ?_⟩
  apply (@honest_replay hashlibSha256 trace _
    (inMemoryStore_self (@HonestTrace.evidence hashlibSha256 trace))).1
  · have hbars := congrArg GatewayInputs.bars htrace.2.1
    rw [hbars]
    exact List.cons_ne_nil _ _
  · rintro ⟨-, -, hembeds⟩
    exact hembeds htrace.2.2

end TaModel.Audit
