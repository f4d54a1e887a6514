import TaModel.Simulation.Solvency

/-!
# Results and their orders

Every result of a replay is built for one order intent and copies what identifies it
(`RepeatsIntent`), with or without an account behind the replay. `IsReplayOf` says that a result is
what `_replay_one` makes of an intent under some balances.
-/

set_option autoImplicit false

namespace TaModel.Simulation

open Contracts Library

/-- The result names its intent. -/
structure RepeatsIntent (intent : OrderIntent) (r : ReplayOrderResult) : Prop where
  clientOrderId : r.clientOrderId = intent.clientOrderId
  traceId : r.traceId = intent.traceId
  sourceDecisionId : r.sourceDecisionId = intent.sourceDecisionId
  instrumentId : r.instrumentId = intent.instrumentId
  venueId : r.venueId = intent.venueId
  side : r.side = intent.side
  orderType : r.orderType = intent.orderType
  quantity : r.quantity = intent.quantity.val
  submittedAt : r.submittedAt = intent.submittedAt

section Results

variable [Sha256] {bars : List OHLCTVBar} {costModel : Option ExecutionCostModel}
  {context : Option VenueContext} {intent : OrderIntent}

/-- A filled attempt names its intent. -/
theorem fillAttempt_repeats {draft : ReplayOrderResult}
    (h : fillAttempt bars costModel context intent = .fill draft) :
    RepeatsIntent intent draft := by
  simp only [fillAttempt] at h
  split at h
  · cases h
  · split at h
    · cases h
    · split at h
      · cases h
      · cases costModel with
        | none =>
            simp only [frictionlessAttempt] at h
            split at h
            · cases h
            · cases h
              exact ⟨rfl, rfl, rfl, rfl, rfl, rfl, rfl, rfl, rfl⟩
        | some model =>
            simp only [costedAttempt] at h
            split at h
            · cases h
            · split at h
              · cases h
              · split at h
                · cases h
                · cases h
                  exact ⟨rfl, rfl, rfl, rfl, rfl, rfl, rfl, rfl, rfl⟩

/-- `_apply_balance_or_reject` keeps the result or rejects it. -/
theorem applyBalanceOrReject_result {result r : ReplayOrderResult}
    {snapshot : InstrumentMasterSnapshot} {balances balances' : Balances}
    (h : applyBalanceOrReject intent result snapshot balances = .ok (r, balances')) :
    r = result ∨ ∃ reason, unfilledResult intent reason none none none = .ok r := by
  simp only [applyBalanceOrReject] at h
  split at h
  · cases h
  · split at h
    · split_ifs at h
      · obtain ⟨rejected, hrejected, hout⟩ := (bind_eq_ok_iff _ _ _).mp h
        cases hout
        exact Or.inr ⟨_, hrejected⟩
      · cases h
        exact Or.inl rfl
    · split_ifs at h
      · obtain ⟨rejected, hrejected, hout⟩ := (bind_eq_ok_iff _ _ _).mp h
        cases hout
        exact Or.inr ⟨_, hrejected⟩
      · cases h
        exact Or.inl rfl

/-- A result is the constructed fill of its attempt, or carries a reject reason. -/
theorem replayOne_result {r : ReplayOrderResult} {balances balances' : Balances}
    (h : replayOne bars costModel context balances intent = .ok (r, balances')) :
    (∃ draft, fillAttempt bars costModel context intent = .fill draft ∧
      draft.construct = .ok r) ∨
    ∃ reason model eligibleIndex attemptIndex,
      unfilledResult intent reason model eligibleIndex attemptIndex = .ok r := by
  simp only [replayOne] at h
  cases hattempt : fillAttempt bars costModel context intent with
  | unfilled reason model eligibleIndex attemptIndex =>
      rw [hattempt] at h
      obtain ⟨result, hresult, hout⟩ := (bind_eq_ok_iff _ _ _).mp h
      cases hout
      exact Or.inr ⟨_, _, _, _, hresult⟩
  | fill draft =>
      rw [hattempt] at h
      obtain ⟨result, hresult, hsettle⟩ := (bind_eq_ok_iff _ _ _).mp h
      cases context with
      | none =>
          cases hsettle
          exact Or.inl ⟨draft, rfl, hresult⟩
      | some c =>
          rcases applyBalanceOrReject_result hsettle with rfl | ⟨reason, hrejected⟩
          · exact Or.inl ⟨draft, rfl, hresult⟩
          · exact Or.inr ⟨_, _, _, _, hrejected⟩

/-- A filled result is the draft of its attempt, with or without an account. -/
theorem replayOne_of_isFill {r : ReplayOrderResult} {balances balances' : Balances}
    (h : replayOne bars costModel context balances intent = .ok (r, balances'))
    (hfill : r.isFill = true) :
    ∃ draft, fillAttempt bars costModel context intent = .fill draft ∧ r = draft.withBuiltId := by
  rcases replayOne_result h with ⟨draft, hdraft, hr⟩ | ⟨reason, model, eligible, index, hr⟩
  · obtain ⟨-, rfl⟩ := (ReplayOrderResult.construct_eq_ok_iff _ _).mp hr
    exact ⟨draft, hdraft, rfl⟩
  · obtain ⟨result, hresult, hnot, -⟩ := unfilledResult_ok intent reason model eligible index
    rw [hr] at hresult
    cases hresult
    rw [hnot] at hfill
    cases hfill

theorem replayOne_repeats {r : ReplayOrderResult} {balances balances' : Balances}
    (h : replayOne bars costModel context balances intent = .ok (r, balances')) :
    RepeatsIntent intent r := by
  rcases replayOne_result h with ⟨draft, hattempt, hr⟩ | ⟨reason, model, eligible, index, hr⟩
  · obtain ⟨-, rfl⟩ := (ReplayOrderResult.construct_eq_ok_iff _ _).mp hr
    obtain ⟨h1, h2, h3, h4, h5, h6, h7, h8, h9⟩ := fillAttempt_repeats hattempt
    exact ⟨h1, h2, h3, h4, h5, h6, h7, h8, h9⟩
  · obtain ⟨-, rfl⟩ := (ReplayOrderResult.construct_eq_ok_iff _ _).mp hr
    exact ⟨rfl, rfl, rfl, rfl, rfl, rfl, rfl, rfl, rfl⟩

/-- A result of the replay passes its validators. -/
theorem replayOne_validateFields {r : ReplayOrderResult} {balances balances' : Balances}
    (h : replayOne bars costModel context balances intent = .ok (r, balances')) :
    r.validateFields = .ok () := by
  rcases replayOne_result h with ⟨draft, -, hr⟩ | ⟨reason, model, eligible, index, hr⟩
  · obtain ⟨hvalid, rfl⟩ := (ReplayOrderResult.construct_eq_ok_iff _ _).mp hr
    exact hvalid
  · obtain ⟨hvalid, rfl⟩ := (ReplayOrderResult.construct_eq_ok_iff _ _).mp hr
    exact hvalid

/-- The id of a result is derived from its fields. -/
theorem replayOne_buildId {r : ReplayOrderResult} {balances balances' : Balances}
    (h : replayOne bars costModel context balances intent = .ok (r, balances')) :
    r.replayOrderResultId = r.buildId := by
  rcases replayOne_result h with ⟨draft, -, hr⟩ | ⟨reason, model, eligible, index, hr⟩
  · obtain ⟨-, rfl⟩ := (ReplayOrderResult.construct_eq_ok_iff _ _).mp hr
    rfl
  · obtain ⟨-, rfl⟩ := (ReplayOrderResult.construct_eq_ok_iff _ _).mp hr
    rfl

/-- What `_replay_one` makes of an intent under some balances. -/
def IsReplayOf (bars : List OHLCTVBar) (costModel : Option ExecutionCostModel)
    (context : Option VenueContext) (intent : OrderIntent) (r : ReplayOrderResult) : Prop :=
  ∃ balances balances', replayOne bars costModel context balances intent = .ok (r, balances')

/-- The results of a run are the replays of its intents, one for each and in order. -/
theorem replayOrders_isReplayOf {balances : Balances} {intents : List OrderIntent}
    {out : List ReplayOrderResult × Balances}
    (h : replayOrders bars costModel context balances intents = .ok out) :
    List.Forall₂ (IsReplayOf bars costModel context) intents out.1 := by
  have hstep : ∀ b intent r b', True → replayOne bars costModel context b intent = .ok (r, b') →
      True ∧ IsReplayOf bars costModel context intent r := by
    intro b intent r b' _ hone
    exact ⟨trivial, b, b', hone⟩
  exact runSteps_forall₂ hstep trivial h

end Results

end TaModel.Simulation
