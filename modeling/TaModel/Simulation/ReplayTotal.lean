import TaModel.Simulation.Balances
import Mathlib.Tactic.NormNum

/-!
# When a replay succeeds

With a snapshot and an account state the constraint check refuses every price that is not
positive, so every filled draft passes the result validator and the final balances pass the
balance validator: a replay raises for its input validation and for nothing else.
-/

set_option autoImplicit false

namespace TaModel.Simulation

open TaModel.Contracts TaModel.Library

/-- An order that passes the constraint check has a positive reference price. -/
theorem price_pos_of_passed {constraint : InstrumentConstraint} {price quantity : Decimal}
    (h : (constraint.evaluateOrder price quantity).passed = true) : 0 < price :=
  ((constraint.evaluateOrder_passed_iff price quantity).mp h).price_pos

theorem price_pos_of_constraintRejectReason {intent : OrderIntent}
    {snapshot : InstrumentMasterSnapshot} {price : Decimal} {at_ : AwareDatetime}
    (h : constraintRejectReason intent snapshot price at_ = none) : 0 < price := by
  unfold constraintRejectReason at h
  split at h
  · split at h
    · rename_i hpassed
      exact price_pos_of_passed hpassed
    · cases h
  · cases h

/-- A positive open stays positive after the adverse adjustment. -/
theorem effectiveFillPrice_pos (model : ExecutionCostModel) (side : OrderSide)
    {openPrice : Decimal} (hopen : 0 < openPrice) : 0 < effectiveFillPrice model side openPrice := by
  have hspread := model.spreadBps.property
  have hslip := model.slippageBps.property
  have hsum := model.adverse_below_unit
  have hadj : 0 ≤ (model.spreadBps.val + model.slippageBps.val) / 10000 := by linarith
  have hadj_lt : (model.spreadBps.val + model.slippageBps.val) / 10000 < 1 := by linarith
  cases side with
  | buy => exact mul_pos hopen (by linarith)
  | sell => exact mul_pos hopen (by linarith)

section Drafts

variable [Sha256]

omit [Sha256] in
theorem frictionlessAttempt_validates {c : VenueContext} {intent : OrderIntent}
    {bar : OHLCTVBar} {draft : ReplayOrderResult}
    (h : frictionlessAttempt (some c) intent bar = .fill draft) :
    draft.validateFields = .ok () := by
  unfold frictionlessAttempt at h
  split at h
  · cases h
  · rename_i hconstraint
    cases h
    have hopen : 0 < bar.openPrice.val := price_pos_of_constraintRejectReason hconstraint
    have hqty := intent.quantity.property
    have hnotional := mul_pos hopen hqty
    simp [ReplayOrderResult.validateFields, ReplayOrderResult.validateFill, bind_eq_ok_iff,
      ReplayOrderResult.FieldsInBounds, ReplayOrderResult.isFill, resultOfIntent, hqty, le_of_lt hqty,
      hopen, le_of_lt hopen, le_of_lt hnotional]

theorem costedFill_validates (model : ExecutionCostModel) (intent : OrderIntent)
    (bar : OHLCTVBar) (eligibleIndex attemptIndex : Nat) {quantity : Decimal}
    (hopen : 0 < bar.openPrice.val) (hpos : 0 < quantity) (hle : quantity ≤ intent.quantity.val) :
    (costedFill model intent bar eligibleIndex attemptIndex quantity).validateFields = .ok () := by
  have hprice := effectiveFillPrice_pos model intent.side hopen
  have hnotional : 0 ≤ effectiveFillPrice model intent.side bar.openPrice.val * quantity :=
    le_of_lt (mul_pos hprice hpos)
  have hreference : 0 ≤ bar.openPrice.val * quantity := le_of_lt (mul_pos hopen hpos)
  have hfee : 0 ≤ |effectiveFillPrice model intent.side bar.openPrice.val * quantity| *
      model.takerFeeRate.val := mul_nonneg (abs_nonneg _) model.takerFeeRate.property.1
  have hspread : 0 ≤ |bar.openPrice.val * quantity| * model.spreadBps.val / 10000 :=
    div_nonneg (mul_nonneg (abs_nonneg _) model.spreadBps.property) (by norm_num)
  have hslippage : 0 ≤ |bar.openPrice.val * quantity| * model.slippageBps.val / 10000 :=
    div_nonneg (mul_nonneg (abs_nonneg _) model.slippageBps.property) (by norm_num)
  have hbounds : (costedFill model intent bar eligibleIndex attemptIndex quantity).FieldsInBounds := by
    refine ⟨intent.quantity.property, ?_, le_of_lt hpos, sub_nonneg.mpr hle, ?_, ?_, hreference,
      hnotional, hfee, hspread, hslippage, add_nonneg (add_nonneg hfee hspread) hslippage⟩
    · rintro p ⟨⟩
      exact le_of_lt hprice
    · rintro p ⟨⟩
      exact le_of_lt hopen
    · rintro p ⟨⟩
      exact le_of_lt hprice
  have hfill : (costedFill model intent bar eligibleIndex attemptIndex quantity).isFill = true := by
    unfold ReplayOrderResult.isFill costedFill resultOfIntent
    dsimp only
    split <;> rfl
  unfold ReplayOrderResult.validateFields
  rw [require_of hbounds, ok_bind, hfill]
  unfold ReplayOrderResult.validateFill
  by_cases hwhole : quantity = intent.quantity.val
  · simp [bind_eq_ok_iff, costedFill, resultOfIntent, hwhole, hprice]
  · have hlt : quantity < intent.quantity.val := lt_of_le_of_ne hle hwhole
    simp [bind_eq_ok_iff, costedFill, resultOfIntent, hwhole, hprice, hpos, hlt]

/-- Every filled draft passes the validator of replay results. -/
theorem fillAttempt_validates {bars : List OHLCTVBar} {costModel : Option ExecutionCostModel}
    {c : VenueContext} {intent : OrderIntent} {draft : ReplayOrderResult}
    (h : fillAttempt bars costModel (some c) intent = .fill draft) :
    draft.validateFields = .ok () := by
  unfold fillAttempt at h
  split at h
  · cases h
  · split at h
    · cases h
    · split at h
      · cases h
      · cases costModel with
        | none => exact frictionlessAttempt_validates h
        | some model =>
            dsimp only at h
            unfold costedAttempt at h
            split at h
            · cases h
            · rename_i bar index hget
              split at h
              · cases h
              · rename_i hconstraint
                dsimp only at h
                split at h
                · cases h
                · rename_i hliquid
                  cases h
                  have hopen := price_pos_of_constraintRejectReason hconstraint
                  have hcap : 0 < bar.baseVolume.val * model.maxParticipationRate.val := by
                    by_contra hle
                    exact hliquid (Or.inl (not_lt.mp hle))
                  exact costedFill_validates model intent bar _ _ hopen
                    (lt_min intent.quantity.property hcap) (min_le_left _ _)

end Drafts

/-! ## Totality -/

section Totality

variable [Sha256]

omit [Sha256] in
/-- An order that passes the metadata check names a listed instrument. -/
theorem instrument_of_metadata {intent : OrderIntent} {snapshot : InstrumentMasterSnapshot}
    {state : SimulatedAccountState} (h : metadataRejectReason intent snapshot state = none) :
    ∃ instrument, snapshot.instruments.find? (fun i => i.instrumentId == intent.instrumentId) =
      some instrument := by
  unfold metadataRejectReason at h
  split at h
  · cases h
  · split at h
    · cases h
    · split at h
      · cases h
      · split at h
        · cases h
        · rename_i instrument hfind
          exact ⟨instrument, hfind⟩

theorem instrument_of_fill {bars : List OHLCTVBar} {costModel : Option ExecutionCostModel}
    {c : VenueContext} {intent : OrderIntent} {draft : ReplayOrderResult}
    (h : fillAttempt bars costModel (some c) intent = .fill draft) :
    ∃ instrument, c.snapshot.instruments.find? (fun i => i.instrumentId == intent.instrumentId) =
      some instrument := by
  unfold fillAttempt at h
  split at h
  · cases h
  · rename_i hmetadata
    exact instrument_of_metadata hmetadata

theorem applyBalanceOrReject_total {intent : OrderIntent} {snapshot : InstrumentMasterSnapshot}
    {instrument : Instrument}
    (h : snapshot.instruments.find? (fun i => i.instrumentId == intent.instrumentId) =
      some instrument) (result : ReplayOrderResult) (b : Balances) :
    ∃ out, applyBalanceOrReject intent result snapshot b = .ok out := by
  unfold applyBalanceOrReject
  rw [h]
  dsimp only
  cases intent.side with
  | buy =>
      dsimp only
      split
      · obtain ⟨rejected, hrejected, -⟩ := unfilledResult_ok intent .insufficientCash none none none
        rw [hrejected]
        exact ⟨_, rfl⟩
      · exact ⟨_, rfl⟩
  | sell =>
      dsimp only
      split
      · obtain ⟨rejected, hrejected, -⟩ :=
          unfilledResult_ok intent .insufficientInventory none none none
        rw [hrejected]
        exact ⟨_, rfl⟩
      · exact ⟨_, rfl⟩

/-- One order of a replay with an account never raises. -/
theorem replayOne_total (bars : List OHLCTVBar) (costModel : Option ExecutionCostModel)
    (c : VenueContext) (b : Balances) (intent : OrderIntent) :
    ∃ out, replayOne bars costModel (some c) b intent = .ok out := by
  unfold replayOne
  cases hattempt : fillAttempt bars costModel (some c) intent with
  | unfilled reason model eligibleIndex attemptIndex =>
      obtain ⟨result, hresult, -⟩ :=
        unfilledResult_ok intent reason model eligibleIndex attemptIndex
      simp only [settleAttempt, hresult, ok_bind]
      exact ⟨_, rfl⟩
  | fill draft =>
      obtain ⟨instrument, hfind⟩ := instrument_of_fill hattempt
      have hconstruct : draft.construct = .ok draft.withBuiltId :=
        (ReplayOrderResult.construct_eq_ok_iff _ _).mpr ⟨fillAttempt_validates hattempt, rfl⟩
      simp only [settleAttempt, hconstruct, ok_bind]
      exact applyBalanceOrReject_total hfind draft.withBuiltId b

theorem replayOrders_total (bars : List OHLCTVBar) (costModel : Option ExecutionCostModel)
    (c : VenueContext) (b : Balances) (intents : List OrderIntent) :
    ∃ out, replayOrders bars costModel (some c) b intents = .ok out :=
  runSteps_total (replayOne_total bars costModel c) b intents

omit [Sha256] in
theorem buildBalances_total (accountId : String) {items : List (BalanceKey × Decimal)}
    (h : ∀ item ∈ items, 0 ≤ item.2) : ∃ built, buildBalances accountId items = .ok built ∧
      ∀ balance ∈ built, balance.accountId = accountId := by
  induction items with
  | nil => exact ⟨[], rfl, by simp⟩
  | cons item items ih =>
      obtain ⟨key, available⟩ := item
      have hhead : 0 ≤ available := h _ List.mem_cons_self
      obtain ⟨rest, hrest, hids⟩ := ih fun item hitem => h item (List.mem_cons_of_mem _ hitem)
      unfold buildBalances
      rw [dif_pos hhead, hrest]
      refine ⟨_, rfl, ?_⟩
      intro balance hbalance
      rcases List.mem_cons.mp hbalance with rfl | hmem
      · rfl
      · exact hids balance hmem

omit [Sha256] in
/-- Non-negative balances always make an account state. -/
theorem finalState_total (accountId : String) {b : Balances} (h : ∀ key, 0 ≤ b.available key) :
    ∃ final, finalState accountId b = .ok final := by
  have hitems : ∀ item ∈ b.sortedItems, 0 ≤ item.2 := by
    intro item hitem
    obtain ⟨entry, hentry, rfl⟩ := List.mem_map.mp ((perm_sortedItems b).mem_iff.mp hitem)
    have hlookup : b.lookup entry.1 = some entry.2 := AList.mem_lookup_iff.mpr hentry
    have hkey := h entry.1
    unfold Balances.available at hkey
    rw [hlookup] at hkey
    exact hkey
  obtain ⟨built, hbuilt, hids⟩ := buildBalances_total accountId hitems
  have hkeys : (built.map SimulatedBalance.key).Perm b.keys := by
    have hmap : built.map SimulatedBalance.key = b.sortedItems.map Prod.fst := by
      rw [← buildBalances_ok hbuilt, List.map_map]
      rfl
    rw [hmap]
    refine ((perm_sortedItems b).map Prod.fst).trans ?_
    rw [List.map_map]
    exact List.Perm.refl _
  have hunique : (built.map SimulatedBalance.key).Nodup := hkeys.nodup_iff.mpr b.keys_nodup
  unfold finalState
  rw [hbuilt, ok_bind]
  exact ⟨_, dif_pos ⟨hids, hunique⟩⟩

/-- A replay with a snapshot and an account state succeeds exactly when its bars, its intents and
its run id pass the input validation. -/
theorem replay_with_account_succeeds_iff (bars : List OHLCTVBar) (intents : List OrderIntent)
    (runId : String) (costModel : Option ExecutionCostModel) (snapshot : InstrumentMasterSnapshot)
    (state : SimulatedAccountState) :
    (∃ report, replayOhlctvMarketOrders bars intents runId costModel (some snapshot) (some state) =
      .ok report) ↔
    validateBarsAreSafe bars = .ok () ∧ validateOrderIntents intents = .ok () ∧
      isCanonicalId runId = true := by
  constructor
  · rintro ⟨report, h⟩
    obtain ⟨_, _, hbars, hintents, -, -, -, hrun, -⟩ := replayOhlctvMarketOrders_ok h
    exact ⟨hbars, hintents, hrun⟩
  · rintro ⟨hbars, hintents, hrunId⟩
    obtain ⟨⟨results, balances⟩, hrun⟩ := replayOrders_total bars costModel ⟨snapshot, state⟩
      (balanceDict (some state)) intents
    obtain ⟨final, hfinal⟩ := finalState_total state.accountId
      (replayOrders_nonneg (balanceDict_nonneg state) hrun)
    have hbuild : buildAccountState (some state) balances = .ok (some final) := by
      show (finalState state.accountId balances).map some = _
      rw [hfinal]
      rfl
    have hpair : pairContext (some snapshot) (some state) = .ok (some ⟨snapshot, state⟩) := rfl
    unfold replayOhlctvMarketOrders
    rw [hbars, ok_bind, hintents, ok_bind, hpair, ok_bind, hrun, ok_bind]
    dsimp only
    rw [hbuild, ok_bind]
    refine ⟨_, (bind_eq_ok_iff _ _ _).mpr ⟨(), ?_, rfl⟩⟩
    unfold ReplayReport.validate
    rw [require_of hrunId, ok_bind, require_of rfl, ok_bind, require_of rfl, ok_bind,
      require_of rfl, ok_bind]
    exact require_of rfl _

end Totality

end TaModel.Simulation
