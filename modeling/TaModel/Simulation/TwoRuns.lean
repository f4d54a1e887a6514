import TaModel.Simulation.ReplayAborts

/-!
# Orders settled twice

An order is settled on two attempts that move the same amounts. Both are then rejected for the
balances or both post them, so the two runs hold the same balances afterwards and differ only in
what the attempts differ in. `eraseIndices` and `eraseCostModel` remove these differences.
-/

set_option autoImplicit false

namespace TaModel.Simulation

open TaModel.Contracts TaModel.Library

/-- The result without its event indices and without the id, which is a digest of them. -/
def eraseIndices (r : ReplayOrderResult) : ReplayOrderResult :=
  { r with replayOrderResultId := "", eligibleEventIndex := none, fillAttemptEventIndex := none }

/-- The result without its event indices, its cost-model identity and its id. -/
def eraseCostModel (r : ReplayOrderResult) : ReplayOrderResult :=
  { eraseIndices r with costModelId := none, costModelHash := none }

section Settlement

variable [Sha256] {intent : OrderIntent} {snapshot : InstrumentMasterSnapshot}
  {context : Option VenueContext} {balances : Balances}

/-- The draft of `_unfilled_result`. -/
def unfilledDraft (intent : OrderIntent) (reason : ReplayRejectReason)
    (costModel : Option ExecutionCostModel) (eligibleIndex attemptIndex : Option Nat) :
    ReplayOrderResult :=
  { resultOfIntent intent
      (if reason = .noFutureEligibleEvent ∨ reason = .insufficientLiquidity then .unfilled
        else .rejected) with
    reason := some reason, remainingQuantity := intent.quantity.val,
    costModelId := costModel.map ExecutionCostModel.costModelId,
    costModelHash := costModel.map ExecutionCostModel.costModelHash,
    latencyBars := (costModel.map ExecutionCostModel.latencyBars).getD 0,
    eligibleEventIndex := eligibleIndex, fillAttemptEventIndex := attemptIndex }

theorem unfilledResult_eq (intent : OrderIntent) (reason : ReplayRejectReason)
    (costModel : Option ExecutionCostModel) (eligibleIndex attemptIndex : Option Nat) :
    unfilledResult intent reason costModel eligibleIndex attemptIndex =
      .ok (unfilledDraft intent reason costModel eligibleIndex attemptIndex).withBuiltId := by
  obtain ⟨result, hresult, -⟩ := unfilledResult_ok intent reason costModel eligibleIndex attemptIndex
  have hid := ((ReplayOrderResult.construct_eq_ok_iff _ _).mp hresult).2
  rw [hresult, hid]
  rfl

/-- A reject for a missing balance. -/
def IsBalanceReject (reason : ReplayRejectReason) : Prop :=
  reason = .insufficientCash ∨ reason = .insufficientInventory

/-- Two results of equal amounts are settled alike: both are rejected for the balances, with the
same reason, or both are kept and leave the same balances. -/
theorem applyBalanceOrReject_alike {r r' : ReplayOrderResult}
    (hnotional : r.effectiveNotional = r'.effectiveNotional) (hfee : r.feeCost = r'.feeCost)
    (hquantity : r.filledQuantity = r'.filledQuantity) {out : ReplayOrderResult × Balances}
    (h : applyBalanceOrReject intent r snapshot balances = .ok out) :
    (∃ reason, IsBalanceReject reason ∧
      out = ((unfilledDraft intent reason none none none).withBuiltId, balances) ∧
      applyBalanceOrReject intent r' snapshot balances = .ok out) ∨
    (out.1 = r ∧ applyBalanceOrReject intent r' snapshot balances = .ok (r', out.2)) := by
  simp only [applyBalanceOrReject, unfilledResult_eq, ok_bind] at h ⊢
  rw [← hnotional, ← hfee, ← hquantity]
  cases hfind : snapshot.instruments.find? fun i => i.instrumentId == intent.instrumentId with
  | none =>
      rw [hfind] at h
      cases h
  | some instrument =>
      rw [hfind] at h
      cases hside : intent.side with
      | buy =>
          simp only [hside] at h ⊢
          split at h
          · rename_i hshort
            rw [if_pos hshort]
            cases h
            exact Or.inl ⟨.insufficientCash, Or.inl rfl, rfl, rfl⟩
          · rename_i hcovered
            rw [if_neg hcovered]
            cases h
            exact Or.inr ⟨rfl, rfl⟩
      | sell =>
          simp only [hside] at h ⊢
          split at h
          · rename_i hshort
            rw [if_pos hshort]
            cases h
            exact Or.inl ⟨.insufficientInventory, Or.inr rfl, rfl, rfl⟩
          · rename_i hcovered
            rw [if_neg hcovered]
            cases h
            exact Or.inr ⟨rfl, rfl⟩

/-- What settling a fill can do. -/
theorem settleAttempt_fill_cases {draft r : ReplayOrderResult} {balances' : Balances}
    (h : settleAttempt context balances intent (.fill draft) = .ok (r, balances')) :
    draft.validateFields = .ok () ∧
      (r = draft.withBuiltId ∨
        ∃ reason, IsBalanceReject reason ∧ balances' = balances ∧
          r = (unfilledDraft intent reason none none none).withBuiltId) := by
  obtain ⟨result, hresult, hsettle⟩ := (bind_eq_ok_iff _ _ _).mp h
  obtain ⟨hvalid, rfl⟩ := (ReplayOrderResult.construct_eq_ok_iff _ _).mp hresult
  refine ⟨hvalid, ?_⟩
  cases context with
  | none =>
      cases hsettle
      exact Or.inl rfl
  | some c =>
      rcases applyBalanceOrReject_alike rfl rfl rfl hsettle with
        ⟨reason, hreason, hout, -⟩ | ⟨hr, -⟩
      · cases hout
        exact Or.inr ⟨reason, hreason, rfl, rfl⟩
      · exact Or.inl hr

/-- Two valid drafts of equal amounts are settled alike. -/
theorem settleAttempt_alike {draft draft' r : ReplayOrderResult} {balances' : Balances}
    (hvalid : draft'.validateFields = .ok ())
    (hnotional : draft.effectiveNotional = draft'.effectiveNotional)
    (hfee : draft.feeCost = draft'.feeCost) (hquantity : draft.filledQuantity = draft'.filledQuantity)
    (h : settleAttempt context balances intent (.fill draft) = .ok (r, balances')) :
    ∃ r', settleAttempt context balances intent (.fill draft') = .ok (r', balances') ∧
      (r' = r ∨ (r = draft.withBuiltId ∧ r' = draft'.withBuiltId)) := by
  obtain ⟨result, hresult, hsettle⟩ := (bind_eq_ok_iff _ _ _).mp h
  obtain ⟨-, rfl⟩ := (ReplayOrderResult.construct_eq_ok_iff _ _).mp hresult
  have hconstruct : draft'.construct = .ok draft'.withBuiltId :=
    (ReplayOrderResult.construct_eq_ok_iff _ _).mpr ⟨hvalid, rfl⟩
  simp only [settleAttempt, hconstruct, ok_bind]
  cases context with
  | none =>
      cases hsettle
      exact ⟨_, rfl, Or.inr ⟨rfl, rfl⟩⟩
  | some c =>
      have halike := @applyBalanceOrReject_alike _ intent c.snapshot balances draft.withBuiltId
        draft'.withBuiltId hnotional hfee hquantity _ hsettle
      rcases halike with ⟨reason, -, -, happly⟩ | ⟨hr, happly⟩
      · exact ⟨r, happly, Or.inl rfl⟩
      · exact ⟨_, happly, Or.inr ⟨hr, rfl⟩⟩

end Settlement

end TaModel.Simulation
