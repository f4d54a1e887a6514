import TaModel.Simulation.ReplayTotal
import TaModel.Simulation.ReplayResults

/-!
# The bar of an attempt

`_replay_one` looks at the bars in one place: it takes the eligible bar `latency_bars` after the
first one. What happens at that bar (`attemptOn`) depends on the bar alone, so the attempt splits
into the choice of the bar and the attempt on it. Without an account nothing refuses an open price
of zero, and the result validator then raises: a replay is total except for these fills.
-/

set_option autoImplicit false

namespace TaModel.Simulation

open TaModel.Contracts TaModel.Library

/-! ## The bar and the attempt on it -/

/-- `latency_bars` of the cost model, zero without one. -/
def latencyOf (costModel : Option ExecutionCostModel) : Nat :=
  (costModel.map ExecutionCostModel.latencyBars).getD 0

/-- The eligible bar `latency_bars` after the first one, with its index in the stream. -/
def fillBar (bars : List OHLCTVBar) (costModel : Option ExecutionCostModel)
    (intent : OrderIntent) : Option (OHLCTVBar × Nat) :=
  (eligibleBars intent bars)[latencyOf costModel]?

/-- The quantity a bar lets through: the participation cap of the cost model, if it admits a fill
at all, and the whole order without a cost model. -/
def liquidQuantity (costModel : Option ExecutionCostModel) (intent : OrderIntent)
    (bar : OHLCTVBar) : Option Decimal :=
  match costModel with
  | none => some intent.quantity.val
  | some model =>
      let maxFillQuantity := bar.baseVolume.val * model.maxParticipationRate.val
      let filledQuantity := min intent.quantity.val maxFillQuantity
      if maxFillQuantity ≤ 0 ∨
          (filledQuantity < intent.quantity.val ∧ ¬ model.allowPartialFills) then none
      else some filledQuantity

/-- The constraint check of an order at a bar. -/
def constraintReasonAt (context : Option VenueContext) (intent : OrderIntent) (bar : OHLCTVBar) :
    Option ReplayRejectReason :=
  context.bind fun c => constraintRejectReason intent c.snapshot bar.openPrice.val bar.openTs

/-- The metadata check of an order. -/
def metadataReason (context : Option VenueContext) (intent : OrderIntent) :
    Option ReplayRejectReason :=
  context.bind fun c => metadataRejectReason intent c.snapshot c.accountState

section Attempts

variable [Sha256] {bars : List OHLCTVBar} {costModel : Option ExecutionCostModel}
  {context : Option VenueContext} {intent : OrderIntent}

/-- The draft of a fill of `filledQuantity` on a bar, with or without a cost model. -/
def fillDraft (costModel : Option ExecutionCostModel) (intent : OrderIntent) (firstIndex : Nat)
    (entry : OHLCTVBar × Nat) (filledQuantity : Decimal) : ReplayOrderResult :=
  match costModel with
  | some model => costedFill model intent entry.1 firstIndex entry.2 filledQuantity
  | none =>
      { resultOfIntent intent .filled with
        fillPrice := some entry.1.openPrice.val, filledQuantity := filledQuantity,
        remainingQuantity := 0, fillEventOpenTs := some entry.1.openTs,
        fillEventCloseTs := some entry.1.closeTs, fillEventSourceTs := some entry.1.sourceTs,
        fillRawPayloadId := some entry.1.rawPayloadId,
        arrivalReferencePrice := some entry.1.openPrice.val,
        effectiveFillPrice := some entry.1.openPrice.val,
        referenceNotional := entry.1.openPrice.val * filledQuantity,
        effectiveNotional := entry.1.openPrice.val * filledQuantity }

/-- The attempt on one bar: the constraints at its open, then its liquidity, then the fill. The
indices reach the result under a cost model only. -/
def attemptOn (context : Option VenueContext) (costModel : Option ExecutionCostModel)
    (intent : OrderIntent) (firstIndex : Nat) (entry : OHLCTVBar × Nat) : FillAttempt :=
  match constraintReasonAt context intent entry.1 with
  | some reason =>
      .unfilled reason costModel (costModel.map fun _ => firstIndex)
        (costModel.map fun _ => entry.2)
  | none =>
      match liquidQuantity costModel intent entry.1 with
      | none =>
          .unfilled .insufficientLiquidity costModel (costModel.map fun _ => firstIndex)
            (costModel.map fun _ => entry.2)
      | some filledQuantity => .fill (fillDraft costModel intent firstIndex entry filledQuantity)

/-- Without a bar left after the latency the attempt finds no event; the cost model is named only
if there was an eligible bar at all. -/
theorem fillAttempt_of_no_bar (hmetadata : metadataReason context intent = none)
    (hmarket : intent.orderType = .market) (hbar : fillBar bars costModel intent = none) :
    fillAttempt bars costModel context intent =
      .unfilled .noFutureEligibleEvent ((eligibleBars intent bars).head?.bind fun _ => costModel)
        ((eligibleBars intent bars).head?.map Prod.snd) none := by
  have hmeta : (context.bind fun c => metadataRejectReason intent c.snapshot c.accountState) =
      none := hmetadata
  unfold fillAttempt
  rw [hmeta]
  dsimp only
  rw [if_neg (not_not_intro hmarket)]
  unfold fillBar at hbar
  cases heligible : eligibleBars intent bars with
  | nil => rfl
  | cons first rest =>
      rw [heligible] at hbar
      cases costModel with
      | none => cases hbar
      | some model =>
          have hget : (first :: rest)[model.latencyBars]? = none := hbar
          unfold costedAttempt
          dsimp only
          rw [hget]
          rfl

/-- Otherwise it is the attempt on the bar. -/
theorem fillAttempt_of_bar {entry : OHLCTVBar × Nat}
    (hmetadata : metadataReason context intent = none) (hmarket : intent.orderType = .market)
    (hbar : fillBar bars costModel intent = some entry) :
    ∃ first ∈ (eligibleBars intent bars).head?,
      fillAttempt bars costModel context intent =
        attemptOn context costModel intent first.2 entry := by
  have hmeta : (context.bind fun c => metadataRejectReason intent c.snapshot c.accountState) =
      none := hmetadata
  unfold fillAttempt
  rw [hmeta]
  dsimp only
  rw [if_neg (not_not_intro hmarket)]
  unfold fillBar at hbar
  cases heligible : eligibleBars intent bars with
  | nil =>
      rw [heligible] at hbar
      cases hbar
  | cons first rest =>
      rw [heligible] at hbar
      refine ⟨first, rfl, ?_⟩
      have hreason : (context.bind fun c => constraintRejectReason intent c.snapshot
          entry.1.openPrice.val entry.1.openTs) = constraintReasonAt context intent entry.1 := rfl
      unfold attemptOn
      cases costModel with
      | none =>
          have hfirst : first = entry := Option.some.inj hbar
          subst hfirst
          dsimp only
          unfold frictionlessAttempt
          rw [hreason]
          cases constraintReasonAt context intent first.1 with
          | some reason => rfl
          | none => rfl
      | some model =>
          have hget : (first :: rest)[model.latencyBars]? = some entry := hbar
          dsimp only
          unfold costedAttempt
          rw [hget]
          dsimp only
          rw [hreason]
          cases constraintReasonAt context intent entry.1 with
          | some reason => rfl
          | none =>
              unfold liquidQuantity
              dsimp only
              by_cases hdry : entry.1.baseVolume.val * model.maxParticipationRate.val ≤ 0 ∨
                  (min intent.quantity.val
                    (entry.1.baseVolume.val * model.maxParticipationRate.val) <
                    intent.quantity.val ∧ ¬ model.allowPartialFills)
              · rw [if_pos hdry, if_pos hdry]
                rfl
              · rw [if_neg hdry, if_neg hdry]
                rfl

/-- An order that is refused before the bars are looked at has one attempt on all streams and
under all cost models. -/
theorem fillAttempt_of_refused {bars' : List OHLCTVBar} {costModel' : Option ExecutionCostModel}
    (h : ¬ (metadataReason context intent = none ∧ intent.orderType = .market)) :
    fillAttempt bars' costModel' context intent = fillAttempt bars costModel context intent := by
  unfold fillAttempt
  have hsame : (context.bind fun c => metadataRejectReason intent c.snapshot c.accountState) =
    metadataReason context intent := rfl
  rw [hsame]
  cases hmetadata : metadataReason context intent with
  | some reason => rfl
  | none =>
      have hmarket : intent.orderType ≠ .market := fun hm => h ⟨hmetadata, hm⟩
      dsimp only
      rw [if_pos hmarket, if_pos hmarket]

end Attempts

end TaModel.Simulation
