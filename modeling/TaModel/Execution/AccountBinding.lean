import TaModel.Execution.Parity

/-!
# The account behind a gateway run

A gateway runs all approved orders against the one account state and the one instrument master its
caller passes. Neither is compared with the account or the instrument master of the risk requests,
so an approval is executed on the account it was computed for exactly when the caller passes that
account.
-/

set_option autoImplicit false

namespace TaModel.Execution

open Contracts Risk Simulation

/-- The replay runs on the account and the instrument master of the risk request. -/
def BoundToReplay (inputs : GatewayInputs) (event : RiskCheckEvent) : Prop :=
  (∀ state ∈ inputs.startingAccountState, event.request.accountId = state.accountId) ∧
    ∀ snapshot ∈ inputs.snapshot, event.request.instrumentMasterSnapshot = snapshot

/-- Every lifecycle event that is not blocked is bound to the account and the instrument master of
its risk event. -/
def AccountBound (inputs : GatewayInputs) (events : List RiskCheckEvent)
    (report : ExecutionGatewayReport) : Prop :=
  List.Forall₂ (fun event e => e.status ≠ .blocked → BoundToReplay inputs event) events
    report.events

/-- The order of a filled event is tradable in the passed instrument master for the passed
account. -/
def TradableForPassedAccount (inputs : GatewayInputs) (event : RiskCheckEvent) : Prop :=
  ∃ intent, event.approvedOrderIntent = some intent ∧
    ∀ state ∈ inputs.startingAccountState, ∃ snapshot, inputs.snapshot = some snapshot ∧
      metadataRejectReason intent snapshot state = none

section Binding

variable [Sha256] {inputs : GatewayInputs} {events : List RiskCheckEvent}
  {kind : ExecutionGatewayKind} {report : ExecutionGatewayReport}

omit [Sha256] in
/-- The events of a report are blocked exactly for the risk events that are not forwarded. -/
theorem Associated.blocked_iff {R : OrderIntent → ReplayOrderResult → Prop} {runId : String}
    {results : List ReplayOrderResult} {lifecycle : List ExecutionGatewayLifecycleEvent}
    (h : Associated R kind runId events results lifecycle) :
    List.Forall₂ (fun event e => e.status ≠ .blocked ↔ isForwarded event = true) events
      lifecycle := by
  induction h with
  | nil => exact .nil
  | blocked hnot hblocks _ ih =>
      refine .cons ?_ ih
      simp only [isForwarded, hnot]
      exact ⟨fun hne => absurd hblocks.status hne, fun hfalse => by cases hfalse⟩
  | replayed hforwarded _ hcarries _ ih =>
      refine .cons ?_ ih
      simp only [isForwarded, hforwarded]
      exact ⟨fun _ => rfl, fun _ => hcarries.not_blocked⟩

omit [Sha256] in
/-- A condition on the unblocked side is one on the forwarded side. -/
theorem forall₂_unblocked_iff {P : RiskCheckEvent → Prop}
    {lifecycle : List ExecutionGatewayLifecycleEvent}
    (h : List.Forall₂ (fun event e => e.status ≠ .blocked ↔ isForwarded event = true) events
      lifecycle) :
    List.Forall₂ (fun event e => e.status ≠ .blocked → P event) events lifecycle ↔
      ∀ event ∈ events, isForwarded event = true → P event := by
  induction h with
  | nil =>
      constructor
      · intro _ event hmem
        cases hmem
      · intro _
        exact .nil
  | @cons event e events lifecycle hhead _ ih =>
      rw [List.forall₂_cons, List.forall_mem_cons, ih, hhead]

/-- A fill of an order passed the metadata checks of the passed account. -/
theorem metadata_of_filled {intent : OrderIntent} {result : ReplayOrderResult}
    (h : ReplaysIntent inputs intent result) (hfill : result.isFill = true) :
    ∀ state ∈ inputs.startingAccountState, ∃ snapshot, inputs.snapshot = some snapshot ∧
      metadataRejectReason intent snapshot state = none := by
  intro state hstate
  obtain ⟨context, hcontext, ⟨balances, balances', hone⟩, -⟩ := h
  rw [Option.mem_def.mp hstate] at hcontext
  cases hsnapshot : inputs.snapshot with
  | none =>
      rw [hsnapshot] at hcontext
      cases hcontext
  | some snapshot =>
      rw [hsnapshot] at hcontext
      cases hcontext
      refine ⟨snapshot, rfl, ?_⟩
      rcases replayOne_result hone with ⟨draft, hattempt, -⟩ | ⟨reason, model, first, index, hr⟩
      · -- a filled attempt is past the metadata check
        cases hreason : metadataRejectReason intent snapshot state with
        | none => rfl
        | some reason =>
            simp only [fillAttempt, Option.bind_some, hreason] at hattempt
            cases hattempt
      · obtain ⟨unfilled, hunfilled, hnot, -⟩ := unfilledResult_ok intent reason model first index
        rw [hr] at hunfilled
        cases hunfilled
        rw [hfill] at hnot
        cases hnot

theorem Associated.tradable {runId : String} {results : List ReplayOrderResult}
    {lifecycle : List ExecutionGatewayLifecycleEvent}
    (h : Associated (ReplaysIntent inputs) kind runId events results lifecycle) :
    List.Forall₂ (fun event e => e.status.isFilled = true → TradableForPassedAccount inputs event)
      events lifecycle := by
  induction h with
  | nil => exact .nil
  | blocked _ hblocks _ ih =>
      refine .cons ?_ ih
      intro hfilled
      rw [hblocks.status] at hfilled
      cases hfilled
  | @replayed event events intent result results e lifecycle hforwarded hresult hcarries _ ih =>
      refine .cons ?_ ih
      intro hfilled
      rw [hcarries.status] at hfilled
      have hfill : result.isFill = true :=
        (ReplayOrderResult.isFill_iff result).mpr ((isFilled_ofReplay result.status).mp hfilled)
      have hintent : event.approvedOrderIntent = some intent := by
        simp only [forwardedIntent] at hforwarded
        split_ifs at hforwarded
        exact hforwarded
      exact ⟨intent, hintent, metadata_of_filled hresult hfill⟩

/-- The final account state of a report is a state of the passed account. -/
theorem finalAccountState_accountId (h : runGateway kind inputs events = .ok report) :
    ∀ final ∈ report.sourceReplayFinalAccountState, ∃ state,
      inputs.startingAccountState = some state ∧ final.accountId = state.accountId := by
  obtain ⟨gated, pairs, lifecycle, hgated, -, -, -, rfl⟩ := runGateway_eq_ok_iff.mp h
  obtain ⟨replayReport, hreplay, -, rfl⟩ := (replayRiskApproved_eq_ok_iff gated).mp hgated
  intro final hfinal
  have hsome : (replayReport.bind ReplayReport.finalAccountState) = some final := hfinal
  obtain ⟨replayed, rfl, hreplayed⟩ := Option.bind_eq_some_iff.mp hsome
  cases hintents : events.filterMap forwardedIntent with
  | nil =>
      rw [hintents] at hreplay
      cases hreplay
  | cons intent intents =>
      rw [hintents] at hreplay
      simp only [replayForwarded] at hreplay
      cases hrun : replayOhlctvMarketOrders inputs.bars (intent :: intents) inputs.runId
          inputs.costModel inputs.snapshot inputs.startingAccountState with
      | error error =>
          rw [hrun] at hreplay
          cases hreplay
      | ok found =>
          rw [hrun] at hreplay
          cases hreplay
          obtain ⟨context, balances, -, -, -, -, -, -, hstate⟩ := replayOhlctvMarketOrders_ok hrun
          cases hstart : inputs.startingAccountState with
          | none =>
              rw [hstart, hreplayed] at hstate
              cases hstate
          | some state =>
              rw [hstart, hreplayed] at hstate
              refine ⟨state, rfl, ?_⟩
              simp only [buildAccountState] at hstate
              cases hbuilt : finalState state.accountId balances with
              | error error =>
                  rw [hbuilt] at hstate
                  cases hstate
              | ok built =>
                  rw [hbuilt] at hstate
                  cases hstate
                  exact finalState_accountId hbuilt

/-- What binds a gateway run to an account: every run is on the account and the instrument master
that were passed, in which every filled order is tradable, and it is bound to the account of the
risk requests exactly when each forwarded request names what was passed. -/
theorem gateway_account_binding (inputs : GatewayInputs) {events : List RiskCheckEvent}
    (hvalid : ∀ event ∈ events, event.validate = .ok ())
    (hcollision : RiskEvidenceCollisionFree events)
    (h : runGateway kind inputs events = .ok report) :
    (AccountBound inputs events report ↔
      ∀ event ∈ events, isForwarded event = true → BoundToReplay inputs event) ∧
    (∀ final ∈ report.sourceReplayFinalAccountState, ∃ state,
      inputs.startingAccountState = some state ∧ final.accountId = state.accountId) ∧
    List.Forall₂ (fun event e => e.status.isFilled = true → TradableForPassedAccount inputs event)
      events report.events := by
  obtain ⟨results, -, hassociated⟩ := runGateway_associated hvalid hcollision h
  exact ⟨forall₂_unblocked_iff hassociated.blocked_iff, finalAccountState_accountId h,
    hassociated.tradable⟩

end Binding

/-! ## One approved buy on two accounts -/

section TwoAccounts

/-- The two-instrument market for another account than the one of `marketBuyRequest`. -/
def otherSnapshot : InstrumentMasterSnapshot :=
  { marketSnapshot loosestLimits with
    accounts := [{ paperAccount loosestLimits with accountId := "OTHER" }] }

/-- The cash of the other account. -/
def otherCash : SimulatedAccountState where
  accountId := "OTHER"
  balances := [⟨"OTHER", "VENUE", "USD", ⟨100000, Decimal.zero_le_hundredThousand⟩⟩]
  accounts_match := by
    intro balance hmem
    rw [List.mem_singleton.mp hmem]
  keys_unique := List.nodup_singleton _

/-- One bar to fill `marketBuy` on, for an account. -/
def buyInputs (snapshot : InstrumentMasterSnapshot) (state : SimulatedAccountState) :
    GatewayInputs :=
  { bars := [flatBar "BTC-USD" 0 0 ⟨100, Decimal.zero_le_hundred⟩ ⟨10, Decimal.zero_le_ten⟩], runId := "RUN",
    costModel := none, snapshot := some snapshot, startingAccountState := some state }

/-- The paper gateway returns on the approved buy, whatever account is passed. -/
theorem buyInputs_returns (snapshot : InstrumentMasterSnapshot) (state : SimulatedAccountState)
    {event : RiskCheckEvent} (hvalid : @RiskCheckEvent.validate hashlibSha256 event = .ok ())
    (hforwarded : forwardedIntent event = some marketBuy) :
    ∃ report, @runGateway hashlibSha256 .paper (buyInputs snapshot state) [event] = .ok report := by
  have hbars : validateBarsAreSafe [flatBar "BTC-USD" 0 0 ⟨100, by decide⟩ ⟨10, by decide⟩] =
      .ok () := ok_unit_of_toBool _ (by decide)
  have hintents : validateOrderIntents [marketBuy] = .ok () :=
    ok_unit_of_toBool _ (by decide)
  have hrun : isCanonicalId "RUN" = true := by decide
  obtain ⟨replayed, hreplayed⟩ := (@replay_with_account_succeeds_iff hashlibSha256
    (buyInputs snapshot state).bars [marketBuy] "RUN" none snapshot state).mpr
    ⟨hbars, hintents, hrun⟩
  have hreplay : @replayForwarded hashlibSha256 (buyInputs snapshot state).bars "RUN" none
      (some snapshot) (some state) ([event].filterMap forwardedIntent) = .ok (some replayed) := by
    rw [List.filterMap_cons_some hforwarded, List.filterMap_nil]
    simp only [replayForwarded, hreplayed]
    rfl
  refine @runGateway_returns hashlibSha256 .paper _ _ ?_
    (@riskEvidenceCollisionFree_singleton hashlibSha256 event) _
    ((@replayRiskApproved_eq_ok_iff hashlibSha256 _ _ _ _ _ _ _).mpr ⟨_, hreplay, hrun, rfl⟩)
  intro event' hmem
  rw [List.mem_singleton.mp hmem]
  exact hvalid

theorem marketBuy_forwarded {event : RiskCheckEvent} (hdecision : event.finalDecision = .approved)
    (hintent : event.approvedOrderIntent = some marketBuy) :
    forwardedIntent event = some marketBuy := by
  simp [forwardedIntent, hdecision, hintent, RiskDecisionStatus.isApproval]

/-- The cash of the other account covers the buy. -/
theorem otherCash_pays {event : RiskCheckEvent} {results : List ReplayOrderResult}
    (hforwarded : forwardedIntent event = some marketBuy)
    (h : @ReplayedFor hashlibSha256 (buyInputs otherSnapshot otherCash) [event] results) :
    results.map ReplayOrderResult.isFill = [true] := by
  obtain ⟨replayReport, hreplay, rfl⟩ := h
  rw [List.filterMap_cons_some hforwarded, List.filterMap_nil] at hreplay
  simp only [replayForwarded] at hreplay
  cases hrun : @replayOhlctvMarketOrders hashlibSha256 (buyInputs otherSnapshot otherCash).bars
      [marketBuy] "RUN" none (some otherSnapshot) (some otherCash) with
  | error error =>
      simp only [buyInputs] at hrun hreplay
      rw [hrun] at hreplay
      cases hreplay
  | ok report =>
      obtain ⟨context, balances, -, -, hcontext, horders, -⟩ :=
        @replayOhlctvMarketOrders_ok hashlibSha256 _ _ _ _ _ _ _ hrun
      simp only [buyInputs] at hrun hreplay
      rw [hrun] at hreplay
      cases hreplay
      cases hcontext
      have hsettled := congrArg Prod.fst (@replayOrders_settleAll hashlibSha256 _ _ _ _ _ _ horders)
      refine Eq.trans hsettled.symm ?_
      decide +kernel

/-- The run on the other account has a filled event. -/
theorem exists_filled_of_otherCash {event : RiskCheckEvent} {report : ExecutionGatewayReport}
    (hvalid : @RiskCheckEvent.validate hashlibSha256 event = .ok ())
    (hforwarded : forwardedIntent event = some marketBuy)
    (hreport : @runGateway hashlibSha256 .paper (buyInputs otherSnapshot otherCash) [event] =
      .ok report) :
    ∃ e ∈ report.events, e.status.isFilled = true := by
  have hvalidAll : ∀ event' ∈ [event], @RiskCheckEvent.validate hashlibSha256 event' = .ok () := by
    intro event' hmem
    rw [List.mem_singleton.mp hmem]
    exact hvalid
  obtain ⟨results, hreplayed, hassociated⟩ := @runGateway_associated hashlibSha256 _ _ _ _ hvalidAll
    (@riskEvidenceCollisionFree_singleton hashlibSha256 event) hreport
  have hfills := otherCash_pays hforwarded hreplayed
  -- the one lifecycle event repeats the filled result
  generalize report.events = lifecycle at hassociated
  cases hassociated with
  | blocked hnot _ _ =>
      rw [hforwarded] at hnot
      cases hnot
  | @replayed _ _ intent result results e lifecycle _ _ hcarries _ =>
      have hfill : result.isFill = true := (List.cons.inj hfills).1
      refine ⟨e, List.mem_cons_self, ?_⟩
      rw [hcarries.status]
      exact (isFilled_ofReplay result.status).mpr ((ReplayOrderResult.isFill_iff result).mp hfill)

end TwoAccounts

/-- On the account of the request the run is bound to it. -/
theorem gateway_account_binding_same_account : ∃ event report,
    @evaluatePreTradeRisk hashlibSha256 (@marketBuyRequest hashlibSha256) marketPolicy =
      .ok event ∧
    @runGateway hashlibSha256 .paper (buyInputs (marketSnapshot loosestLimits)
      (cashState ⟨100000, by decide⟩)) [event] = .ok report ∧
    AccountBound (buyInputs (marketSnapshot loosestLimits) (cashState ⟨100000, by decide⟩))
      [event] report := by
  obtain ⟨event, hevent, hvalid, hdecision, hintent⟩ := marketBuyRequest_event
  obtain ⟨report, hreport⟩ := buyInputs_returns (marketSnapshot loosestLimits)
    (cashState ⟨100000, by decide⟩) hvalid (marketBuy_forwarded hdecision hintent)
  have hrequest := @EventFacts.request_eq hashlibSha256 _ _ _
    (@evaluatePreTradeRisk_facts hashlibSha256 _ _ _ hevent)
  have hvalidAll : ∀ event' ∈ [event], @RiskCheckEvent.validate hashlibSha256 event' = .ok () := by
    intro event' hmem
    rw [List.mem_singleton.mp hmem]
    exact hvalid
  refine ⟨event, report, hevent, hreport, (@gateway_account_binding hashlibSha256 .paper report _ _
    hvalidAll (@riskEvidenceCollisionFree_singleton hashlibSha256 event) hreport).1.mpr ?_⟩
  intro event' hmem _
  rw [List.mem_singleton.mp hmem]
  constructor
  · intro state hstate
    cases hstate
    rw [hrequest]
    rfl
  · intro snapshot hsnapshot
    cases hsnapshot
    rw [hrequest]
    rfl

/-- The buy approved for one account is filled from the cash of another one. -/
theorem buy_filled_on_other_account :
    otherSnapshot.validateReferences.toBool = true ∧ ∃ event report,
      @evaluatePreTradeRisk hashlibSha256 (@marketBuyRequest hashlibSha256) marketPolicy =
        .ok event ∧
      @runPaperGatewayReplay hashlibSha256 (buyInputs otherSnapshot otherCash) [event] =
        .ok report ∧
      (∃ e ∈ report.events, e.status.isFilled = true) ∧
      ¬ AccountBound (buyInputs otherSnapshot otherCash) [event] report := by
  refine ⟨by decide, ?_⟩
  obtain ⟨event, hevent, hvalid, hdecision, hintent⟩ := marketBuyRequest_event
  have hforwarded := marketBuy_forwarded hdecision hintent
  obtain ⟨report, hreport⟩ := buyInputs_returns otherSnapshot otherCash hvalid hforwarded
  have hrequest := @EventFacts.request_eq hashlibSha256 _ _ _
    (@evaluatePreTradeRisk_facts hashlibSha256 _ _ _ hevent)
  obtain ⟨e, he, hfilled⟩ := exists_filled_of_otherCash hvalid hforwarded hreport
  refine ⟨event, report, hevent, hreport, ⟨e, he, hfilled⟩, fun hbound => ?_⟩
  -- the filled event is bound to the account of its request, which is not the other one
  obtain ⟨event', hevent', hbinds⟩ := Library.exists_of_mem_right hbound he
  obtain rfl := List.mem_singleton.mp hevent'
  have hnotBlocked : e.status ≠ .blocked := by
    intro hblocked
    rw [hblocked] at hfilled
    cases hfilled
  obtain ⟨haccount, -⟩ := hbinds hnotBlocked
  have hsame : event'.request.accountId = "OTHER" := haccount otherCash rfl
  rw [hrequest] at hsame
  have hne : (@marketBuyRequest hashlibSha256).accountId ≠ "OTHER" := by
    show "ACCOUNT" ≠ "OTHER"
    decide
  exact hne hsame

end TaModel.Execution
