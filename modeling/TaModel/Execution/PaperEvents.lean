import TaModel.Execution.AccountBinding
import TaModel.Execution.PaperAmounts
import TaModel.Simulation.FillCosts
import TaModel.Simulation.ReplayAborts

/-!
# Gateway reports under the paper builders

What the paper builders rely on: the events of a run are valid events of its run id, a filled one
repeats a filled result of the replay, and the final account state is that of the starting account.
-/

set_option autoImplicit false

namespace TaModel.Execution

open Contracts Risk Simulation

/-! ## Events of a gateway report -/

section Events

variable [Sha256] {kind : ExecutionGatewayKind} {inputs : GatewayInputs}
  {events : List RiskCheckEvent} {report : ExecutionGatewayReport}

/-- An event of a run with the facts that the paper builders need. -/
structure RunEvent (report : ExecutionGatewayReport) (e : ExecutionGatewayLifecycleEvent) :
    Prop where
  valid : e.validate = .ok ()
  runId : e.runId = report.runId
  arrival_pos : ∀ fill, ValidFill e fill → 0 < fill.arrivalReferencePrice

/-- The result behind a filled event was replayed, so it arrives at a positive open. -/
theorem arrival_pos_of_result {intent : OrderIntent} {result : ReplayOrderResult}
    (hreplay : ReplaysIntent inputs intent result) (hfill : result.isFill = true)
    {price arrival : Decimal} (hprice : result.fillPrice = some price) (hpos : 0 < price)
    (harrival : result.arrivalReferencePrice = some arrival) : 0 < arrival := by
  obtain ⟨context, -, ⟨before, after, hone⟩, -⟩ := hreplay
  obtain ⟨draft, hattempt, rfl⟩ := replayOne_of_isFill hone hfill
  obtain ⟨openPrice, hopen, hpositive⟩ := fillAttempt_arrival hattempt
  have hsame : some openPrice.val = some arrival := hopen.symm.trans harrival
  rw [← Option.some.inj hsame]
  exact hpositive price hprice hpos

/-- A filled event repeats a filled result of the replay of an approved intent. -/
structure FilledFrom (kind : ExecutionGatewayKind) (inputs : GatewayInputs)
    (events : List RiskCheckEvent) (e : ExecutionGatewayLifecycleEvent)
    (intent : OrderIntent) (result : ReplayOrderResult) : Prop where
  forwarded : intent ∈ events.filterMap forwardedIntent
  replays : ReplaysIntent inputs intent result
  isFill : result.isFill = true
  fields : ∃ event approved runId, e = ExecutionGatewayLifecycleEvent.stamping.sealed
    (ExecutionGatewayLifecycleEvent.replayDraft kind kind.fillMode runId event approved result
      (gatewayRequirements kind))

/-- An event with a fill price was replayed. -/
theorem filledFrom_of_fillPrice (h : runGateway kind inputs events = .ok report)
    {e : ExecutionGatewayLifecycleEvent} (he : e ∈ report.events) {price : Decimal}
    (hprice : e.fillPrice = some price) :
    ∃ intent result, FilledFrom kind inputs events e intent result := by
  obtain ⟨gated, pairs, lifecycle, hgated, hpairs, hlifecycle, -, rfl⟩ :=
    runGateway_eq_ok_iff.mp h
  obtain ⟨replayReport, hreplay, -, rfl⟩ := (replayRiskApproved_eq_ok_iff gated).mp hgated
  obtain ⟨event, -, hevent⟩ := Library.exists_of_mem_right hlifecycle he
  rcases lifecycleEvent_cases hevent with ⟨-, rfl⟩ | ⟨result, intent, hresult, -, rfl⟩
  · -- a blocked event has no fill price
    cases hprice
  · simp only [replayResultsByRiskId] at hpairs
    split_ifs at hpairs
    cases hpairs
    -- the result of the event is one of the replayed results
    simp only [resultOf] at hresult
    obtain ⟨pair, hpair, rfl⟩ := Option.map_eq_some_iff.mp hresult
    have hmem := List.mem_reverse.mp (List.mem_of_find?_eq_some hpair)
    have hreplayed := replayedFor_forall₂ ⟨replayReport, hreplay, rfl⟩
    obtain ⟨replayed, hforwarded, hreplays⟩ :=
      Library.exists_of_mem_right hreplayed (List.of_mem_zip hmem).2
    refine ⟨replayed, pair.2, hforwarded, hreplays, ?_, event, intent, _, rfl⟩
    by_contra hnot
    have hvalidResult := hreplays
    obtain ⟨context, -, ⟨before, after, hone⟩, -⟩ := hvalidResult
    have hresultValid := replayOne_validateFields hone
    rw [Bool.not_eq_true] at hnot
    simp only [ReplayOrderResult.validateFields, check_bind_eq_ok_iff, require_eq_ok_iff, hnot,
      Bool.false_eq_true, if_false, ReplayOrderResult.validateNoFill] at hresultValid
    obtain ⟨-, -, -, -, -, -, ⟨hnone, -⟩, -⟩ := hresultValid
    have hsome : pair.2.fillPrice = some price := hprice
    rw [hnone] at hsome
    cases hsome

theorem runGateway_events (h : runGateway kind inputs events = .ok report) :
    ∀ e ∈ report.events, RunEvent report e := by
  intro e he
  have hrun : e.validate = .ok () ∧ e.runId = report.runId := by
    obtain ⟨gated, pairs, lifecycle, -, -, -, hfields, rfl⟩ := runGateway_eq_ok_iff.mp h
    obtain ⟨-, hvalid, -, -, -, -, -, -, hrun, -⟩ :=
      (ExecutionGatewayReport.validateFields_eq_ok_iff _).mp hfields
    exact ⟨hvalid e he, hrun e he⟩
  refine ⟨hrun.1, hrun.2, ?_⟩
  intro fill hfill
  obtain ⟨intent, result, hfrom⟩ := filledFrom_of_fillPrice h he hfill.fillPrice
  obtain ⟨event, approved, runId, rfl⟩ := hfrom.fields
  exact arrival_pos_of_result hfrom.replays hfrom.isFill hfill.fillPrice hfill.price_pos
    hfill.arrivalReferencePrice

omit [Sha256] in
/-- Without a cost model a fill takes the whole quantity at an open, at no cost. -/
structure Frictionless (bars : List OHLCTVBar) (intent : OrderIntent)
    (result : ReplayOrderResult) : Prop where
  price : ∃ bar ∈ bars, result.fillPrice = some bar.openPrice.val ∧
    result.arrivalReferencePrice = some bar.openPrice.val
  quantity : result.filledQuantity = intent.quantity.val
  fee : result.feeCost = 0
  spread : result.spreadCost = 0
  slippage : result.slippageCost = 0
  cost : result.totalCost = 0

theorem frictionless_of_attempt {bars : List OHLCTVBar} {context : Option VenueContext}
    {intent : OrderIntent} {draft : ReplayOrderResult}
    (h : fillAttempt bars none context intent = .fill draft) : Frictionless bars intent draft := by
  simp only [fillAttempt] at h
  split at h
  · cases h
  · split at h
    · cases h
    · split at h
      · cases h
      · rename_i first rest heligible
        have hmem : first ∈ eligibleBars intent bars := by
          rw [heligible]
          exact List.mem_cons_self
        obtain ⟨hbar, -⟩ := mem_of_mem_eligibleBars hmem
        simp only [frictionlessAttempt] at h
        split at h
        · cases h
        · cases h
          exact ⟨⟨first.1, hbar, rfl, rfl⟩, rfl, rfl, rfl, rfl, rfl⟩

/-- A filled event of a run without a cost model fills a forwarded intent without friction. -/
theorem filledEvents_frictionless (h : runGateway kind inputs events = .ok report)
    (hmodel : inputs.costModel = none) :
    ∀ e ∈ filledEvents report, ∃ intent ∈ events.filterMap forwardedIntent, ∃ result,
      Frictionless inputs.bars intent result ∧ e.fillPrice = result.fillPrice ∧
      e.arrivalReferencePrice = result.arrivalReferencePrice ∧
      e.filledQuantity = result.filledQuantity ∧ e.feeCost = result.feeCost ∧
      e.spreadCost = result.spreadCost ∧ e.slippageCost = result.slippageCost ∧
      e.totalCost = result.totalCost := by
  intro e he
  obtain ⟨hmem, hfilled⟩ := List.mem_filter.mp he
  obtain ⟨fill, -, hfill⟩ := validFill_of_valid (runGateway_events h e hmem).valid hfilled
  obtain ⟨intent, result, hfrom⟩ := filledFrom_of_fillPrice h hmem hfill.fillPrice
  obtain ⟨context, -, ⟨before, after, hone⟩, -⟩ := hfrom.replays
  obtain ⟨draft, hattempt, rfl⟩ := replayOne_of_isFill hone hfrom.isFill
  rw [hmodel] at hattempt
  have hdraft := frictionless_of_attempt hattempt
  obtain ⟨event, approved, runId, rfl⟩ := hfrom.fields
  exact ⟨intent, hfrom.forwarded, draft.withBuiltId,
    ⟨hdraft.price, hdraft.quantity, hdraft.fee, hdraft.spread, hdraft.slippage, hdraft.cost⟩,
    rfl, rfl, rfl, rfl, rfl, rfl, rfl⟩

/-- Without a cost model moderate opens and quantities make moderate fills. -/
theorem moderateFills_of_run (h : runGateway kind inputs events = .ok report)
    (hmodel : inputs.costModel = none) (hbars : ∀ bar ∈ inputs.bars, Moderate bar.openPrice.val)
    (hintents : ∀ intent ∈ events.filterMap forwardedIntent, Moderate intent.quantity.val) :
    ∀ e ∈ filledEvents report, ModerateFill e := by
  intro e he
  obtain ⟨intent, hintent, result, ⟨⟨bar, hbar, hprice, harrival⟩, hquantity, hfee, hspread,
    hslippage, hcost⟩, hprice', harrival', hquantity', hfee', hspread', hslippage', hcost'⟩ :=
    filledEvents_frictionless h hmodel e he
  have hzero : Moderate 0 := moderate_of_abs_le_ten (by norm_num)
  constructor
  · rw [hquantity', hquantity]
    exact hintents intent hintent
  · rw [hfee', hfee]
    exact hzero
  · rw [hspread', hspread]
    exact hzero
  · rw [hslippage', hslippage]
    exact hzero
  · rw [hcost', hcost]
    exact hzero
  · intro price hmem
    rw [hprice', hprice] at hmem
    cases hmem
    exact hbars bar hbar
  · intro price hmem
    rw [harrival', harrival] at hmem
    cases hmem
    exact hbars bar hbar

/-- The final account state of a run: none without an account, one for the same account as soon as
something was replayed with one. -/
structure FinalAccount (inputs : GatewayInputs) (report : ExecutionGatewayReport) : Prop where
  none_of_none : inputs.startingAccountState = none → report.sourceReplayFinalAccountState = none
  same_account : ∀ starting ∈ inputs.startingAccountState,
    ∀ final ∈ report.sourceReplayFinalAccountState, final.accountId = starting.accountId
  some_of_filled : inputs.startingAccountState ≠ none → hasFilledEvents report = true →
    report.sourceReplayFinalAccountState ≠ none

/-- Without replayed results every event is blocked. -/
theorem not_filled_of_no_results {gated : RiskGatedReplayResult}
    {pairs : List (String × ReplayOrderResult)} {runId : String}
    {lifecycle : List ExecutionGatewayLifecycleEvent} (hnone : gatedResults gated = [])
    (hpairs : replayResultsByRiskId events (gatedResults gated) = .ok pairs)
    (hlifecycle : List.Forall₂
      (fun event e => lifecycleEvent kind runId pairs event = .ok e) events lifecycle) :
    ∀ e ∈ lifecycle, e.status.isFilled = false := by
  simp only [replayResultsByRiskId, hnone, List.zip_nil_right] at hpairs
  split_ifs at hpairs
  cases hpairs
  intro e he
  obtain ⟨event, -, hevent⟩ := Library.exists_of_mem_right hlifecycle he
  have hblocked := (lifecycleEvent_status hevent).mpr rfl
  rw [hblocked]
  rfl

theorem runGateway_finalAccount (h : runGateway kind inputs events = .ok report) :
    FinalAccount inputs report := by
  obtain ⟨gated, pairs, lifecycle, hgated, hpairs, hlifecycle, -, rfl⟩ :=
    runGateway_eq_ok_iff.mp h
  obtain ⟨replayReport, hreplay, -, hgatedEq⟩ := (replayRiskApproved_eq_ok_iff gated).mp hgated
  have hreport : gated.replayReport = replayReport := by rw [hgatedEq]; rfl
  have hstate : (reportDraft kind inputs gated lifecycle).sourceReplayFinalAccountState =
      replayReport.bind ReplayReport.finalAccountState := by
    rw [← hreport]
    rfl
  rcases replayForwarded_cases hreplay with ⟨-, rfl⟩ | ⟨replayed, -, rfl, hrun⟩
  · -- nothing was replayed
    refine ⟨fun _ => hstate, ?_, ?_⟩
    · intro starting _ final hfinal
      have hfinal' : (reportDraft kind inputs gated lifecycle).sourceReplayFinalAccountState =
          some final := hfinal
      rw [hstate] at hfinal'
      cases hfinal'
    · intro _ hfilled
      obtain ⟨e, he, hisFilled⟩ := List.any_eq_true.mp hfilled
      have hresults : gatedResults gated = [] := by
        simp only [gatedResults, hreport]
        rfl
      rw [not_filled_of_no_results hresults hpairs hlifecycle e he] at hisFilled
      cases hisFilled
  · obtain ⟨context, balances, -, -, -, -, -, -, hbuild⟩ := replayOhlctvMarketOrders_ok hrun
    have hstate' : (reportDraft kind inputs gated lifecycle).sourceReplayFinalAccountState =
        replayed.finalAccountState := hstate
    cases hstarting : inputs.startingAccountState with
    | none =>
        rw [hstarting] at hbuild
        refine ⟨fun _ => hstate'.trans (Except.ok.inj hbuild).symm, ?_, ?_⟩
        · intro starting hmem
          rw [hstarting] at hmem
          cases hmem
        · intro hne
          exact absurd hstarting hne
    | some starting =>
        rw [hstarting] at hbuild
        simp only [buildAccountState] at hbuild
        cases hfinal : finalState starting.accountId balances with
        | error error =>
            rw [hfinal] at hbuild
            cases hbuild
        | ok final =>
            rw [hfinal] at hbuild
            have hsome : replayed.finalAccountState = some final := (Except.ok.inj hbuild).symm
            refine ⟨fun hnone => ?_, ?_, ?_⟩
            · rw [hstarting] at hnone
              cases hnone
            · rintro starting' hstarting' final' hfinal'
              cases hstarting.symm.trans hstarting'
              cases hsome.symm.trans (hstate'.symm.trans hfinal')
              exact finalState_accountId hfinal
            · intro _ _ hnone
              cases hsome.symm.trans (hstate'.symm.trans hnone)

end Events

/-! ## Account states and reports -/

section Session

variable [Sha256] {report : ExecutionGatewayReport}

/-- An id and a hash given for an account state that is not embedded. -/
structure AccountLinkage where
  stateId : String
  stateHash : String
  id_canonical : isCanonicalId stateId = true
  hash_digest : isHexDigest stateHash = true

/-- The account-state arguments of a session: the starting state of the gateway, or the ids and
hashes of the initial and the final state when it used none. -/
inductive SessionArguments : Option SimulatedAccountState → AccountStateArguments → Prop
  | embedded (state : SimulatedAccountState) :
      SessionArguments (some state) { initialAccountState := some state }
  | linked (initial final : AccountLinkage) :
      SessionArguments none
        { initialAccountStateId := some initial.stateId,
          initialAccountStateHash := some initial.stateHash,
          finalAccountStateId := some final.stateId,
          finalAccountStateHash := some final.stateHash }

/-- The account states of a session are resolved, well formed and linked. -/
structure ResolvedStates (initialAccountState : Option SimulatedAccountState)
    (initialId initialHash : String) (final : ResolvedFinalState) : Prop where
  initial_wellFormed : isCanonicalId initialId = true ∧ isHexDigest initialHash = true
  final_wellFormed : isCanonicalId final.stateId = true ∧ isHexDigest final.stateHash = true
  initial_linked : ∀ state ∈ initialAccountState, initialHash = buildPaperAccountStateHash state ∧
    initialId = buildPaperAccountStateId (buildPaperAccountStateHash state)
  final_linked : ∀ state ∈ final.state, final.stateHash = buildPaperAccountStateHash state ∧
    final.stateId = buildPaperAccountStateId (buildPaperAccountStateHash state)
  same_account : ∀ initial ∈ initialAccountState, ∀ state ∈ final.state,
    initial.accountId = state.accountId
  replayed : final.source = .gatewayReplay → final.state ≠ none
  unchanged : final.source = .unchangedFromInitial →
    (initialAccountState ≠ none ∧ final.state ≠ none) ∧ initialHash = final.stateHash ∧
      initialId = final.stateId

theorem wellFormed_accountState (state : SimulatedAccountState) :
    isCanonicalId (buildPaperAccountStateId (buildPaperAccountStateHash state)) = true ∧
      isHexDigest (buildPaperAccountStateHash state) = true :=
  ⟨isCanonicalId_stableId _ _ (by decide) (by decide), isHexDigest_hash _⟩

/-- The account states of a session over a run are resolved. -/
theorem resolvedStates_of_run {inputs : GatewayInputs} {args : AccountStateArguments}
    (hfinal : FinalAccount inputs report)
    (hargs : SessionArguments inputs.startingAccountState args) :
    ∃ initialId initialHash final,
      resolveAccountStateIdentity args.initialAccountState args.initialAccountStateId
        args.initialAccountStateHash "initial" = .ok (initialId, initialHash) ∧
      resolveFinalAccountState report args = .ok final ∧
      ResolvedStates args.initialAccountState initialId initialHash final := by
  generalize hstarting : inputs.startingAccountState = starting at hargs
  cases hargs with
  | embedded state =>
      have hinitial := wellFormed_accountState state
      cases hstate : report.sourceReplayFinalAccountState with
      | some final =>
          -- the replayed final state, for the same account
          have hsame := hfinal.same_account state hstarting final hstate
          refine ⟨_, _, ⟨some final, buildPaperAccountStateId (buildPaperAccountStateHash final),
            buildPaperAccountStateHash final, .gatewayReplay⟩, rfl, ?_, ?_⟩
          · simp only [resolveFinalAccountState, hstate]
            rfl
          · refine ⟨hinitial, wellFormed_accountState final, ?_, ?_, ?_, nofun, nofun⟩
            · rintro _ ⟨⟩
              exact ⟨rfl, rfl⟩
            · rintro _ ⟨⟩
              exact ⟨rfl, rfl⟩
            · rintro _ ⟨⟩ _ ⟨⟩
              exact hsame.symm
      | none =>
          -- nothing was filled, so the state is unchanged
          have hfilled : hasFilledEvents report = false := by
            cases hany : hasFilledEvents report with
            | false => rfl
            | true =>
                have hne : inputs.startingAccountState ≠ none := by
                  rw [hstarting]
                  nofun
                exact absurd hstate (hfinal.some_of_filled hne hany)
          refine ⟨_, _, ⟨some state, buildPaperAccountStateId (buildPaperAccountStateHash state),
            buildPaperAccountStateHash state, .unchangedFromInitial⟩, rfl, ?_, ?_⟩
          · simp only [resolveFinalAccountState, hstate, hfilled, resolveUnfilledFinalState]
            rfl
          · refine ⟨hinitial, hinitial, ?_, ?_, ?_, nofun, ?_⟩
            · rintro _ ⟨⟩
              exact ⟨rfl, rfl⟩
            · rintro _ ⟨⟩
              exact ⟨rfl, rfl⟩
            · rintro _ ⟨⟩ _ ⟨⟩
              rfl
            · intro _
              exact ⟨⟨nofun, nofun⟩, rfl, rfl⟩
  | linked initial final =>
      have hstate := hfinal.none_of_none hstarting
      refine ⟨_, _, ⟨none, final.stateId, final.stateHash, .explicitLinkage⟩, rfl, ?_, ?_⟩
      · simp only [resolveFinalAccountState, hstate]
        cases hasFilledEvents report with
        | true => rfl
        | false => rfl
      · exact ⟨⟨initial.id_canonical, initial.hash_digest⟩, ⟨final.id_canonical, final.hash_digest⟩,
          nofun, nofun, nofun, nofun, nofun⟩

/-- What a report of the paper gateway says about itself. -/
structure PaperSource (report : ExecutionGatewayReport) : Prop where
  kind : report.gatewayKind = .paper
  mode : report.fillMode = .paperSimulatedFill
  runId : isCanonicalId report.runId = true
  replay_linked : report.sourceReplayReportId = none ↔ report.sourceReplayReportHash = none

/-- A report of the paper gateway over events of a run. -/
structure PaperReport (report : ExecutionGatewayReport) : Prop extends PaperSource report where
  events : ∀ e ∈ report.events, RunEvent report e

theorem paperReport_of_run {inputs : GatewayInputs} {events : List RiskCheckEvent}
    (h : runPaperGatewayReplay inputs events = .ok report) : PaperReport report := by
  have hevents := runGateway_events h
  obtain ⟨gated, pairs, lifecycle, -, -, -, hfields, rfl⟩ := runGateway_eq_ok_iff.mp h
  obtain ⟨hrun, -, -, -, -, -, -, -, -, -, -, hlinked, -⟩ :=
    (ExecutionGatewayReport.validateFields_eq_ok_iff _).mp hfields
  exact ⟨⟨rfl, rfl, hrun, hlinked⟩, hevents⟩

omit [Sha256] in
theorem requirePaperGatewayReport_ok (hreport : PaperSource report) :
    requirePaperGatewayReport report = .ok () := by
  simp only [requirePaperGatewayReport, check_bind_eq_ok_iff, require_eq_ok_iff]
  exact ⟨hreport.kind, hreport.mode⟩

/-- The filled events are events with a complete attribution. -/
theorem validFill_of_filledEvents (hreport : PaperReport report) :
    ∀ e ∈ filledEvents report, RunEvent report e ∧ e.status.isFilled = true ∧
      ∃ fill, fillAttribution e = .ok fill ∧ ValidFill e fill ∧ 0 < fill.arrivalReferencePrice := by
  intro e he
  obtain ⟨hmem, hfilled⟩ := List.mem_filter.mp he
  have hrun := hreport.events e hmem
  obtain ⟨fill, hattribution, hfill⟩ := validFill_of_valid hrun.valid hfilled
  exact ⟨hrun, hfilled, fill, hattribution, hfill, hrun.arrival_pos fill hfill⟩

end Session

/-! ## A mixed list of events -/

section Mixed

end Mixed

end TaModel.Execution
