import TaModel.Risk.Engine

/-!
# What the limit evaluations are

Every evaluation of the engine is well formed: it carries the limit it was made for, its flag and
its reason agree with its status. So the event constructor accepts whatever the engine computes,
and `evaluatePreTradeRisk` succeeds on every valid request.
-/

set_option autoImplicit false

namespace TaModel.Risk

open Contracts

theorem LimitId.value_injective {a b : LimitId} (h : a.value = b.value) : a = b := by
  cases a <;> cases b <;> first | rfl | (simp [LimitId.value] at h)

/-- The ids and owners of the limits pass the string constraint of the contract. -/
theorem LimitId.isNonEmptyString_value (limit : LimitId) :
    isNonEmptyString limit.value = true ∧ isNonEmptyString limit.owner = true := by
  cases limit <;> decide

/-! ## Fields of an evaluation -/

section Fields

variable (limit : LimitId) (currentValue hard : Decimal) (status : Option RiskLimitStatus)
  (reason : RiskReasonCode) (soft cap : Option Decimal)

@[simp] theorem evaluation_status :
    (evaluation limit currentValue hard status reason soft cap).status = status.getD .pass := rfl

@[simp] theorem evaluation_limitId :
    (evaluation limit currentValue hard status reason soft cap).limitId = limit.value := rfl

@[simp] theorem evaluation_reasonCode :
    (evaluation limit currentValue hard status reason soft cap).reasonCode = reason := rfl

@[simp] theorem evaluation_cappedValue :
    (evaluation limit currentValue hard status reason soft cap).cappedValue = cap := rfl

end Fields

/-- `e` is a well-formed evaluation of `limit`. -/
structure IsEvaluationOf (limit : LimitId) (e : RiskLimitEvaluation) : Prop where
  limitId_eq : e.limitId = limit.value
  owner_eq : e.owner = limit.owner
  passed_eq : e.passed = decide (e.status = .pass)
  reason_iff : e.reasonCode = .passed ↔ e.status = .pass

theorem isEvaluationOf_evaluation (limit : LimitId) (currentValue hard : Decimal)
    (status : Option RiskLimitStatus) (reason : RiskReasonCode) (soft cap : Option Decimal)
    (h : reason = .passed ↔ status.getD .pass = .pass) :
    IsEvaluationOf limit (evaluation limit currentValue hard status reason soft cap) :=
  ⟨rfl, rfl, rfl, h⟩

theorem IsEvaluationOf.validate {limit : LimitId} {e : RiskLimitEvaluation}
    (h : IsEvaluationOf limit e) : e.validate = .ok () := by
  obtain ⟨hid, howner, hpassed, hreason⟩ := h
  have hstrings : isNonEmptyString e.limitId = true ∧ isNonEmptyString e.owner = true := by
    rw [hid, howner]
    exact limit.isNonEmptyString_value
  have hflag : e.passed = true ↔ e.status = .pass := by
    rw [hpassed]
    exact decide_eq_true_iff
  have hbreached : e.status ≠ .pass → e.reasonCode ≠ .passed :=
    fun hstatus hpass => hstatus (hreason.mp hpass)
  simp only [RiskLimitEvaluation.validate]
  rw [require_of hstrings, ok_bind, require_of hflag, ok_bind, require_of hreason.mpr, ok_bind]
  exact require_of hbreached _

/-! ## Threshold evaluations -/

section Threshold

variable {limit : LimitId} {currentValue soft hard : Decimal}
  {softReason hardReason : RiskReasonCode}

theorem isEvaluationOf_threshold (hs : softReason ≠ .passed) (hh : hardReason ≠ .passed) :
    IsEvaluationOf limit
      (thresholdEvaluation limit currentValue soft hard softReason hardReason) := by
  simp only [thresholdEvaluation]
  split_ifs
  · exact isEvaluationOf_evaluation _ _ _ _ _ _ _ (by simp [hh])
  · exact isEvaluationOf_evaluation _ _ _ _ _ _ _ (by simp [hs])
  · exact isEvaluationOf_evaluation _ _ _ _ _ _ _ (by simp)

theorem threshold_hard_iff :
    (thresholdEvaluation limit currentValue soft hard softReason hardReason).status =
      .hardBreach ↔ hard < currentValue := by
  simp only [thresholdEvaluation]
  split_ifs with h₁ h₂ <;> simp [h₁]

theorem threshold_pass_iff :
    (thresholdEvaluation limit currentValue soft hard softReason hardReason).status = .pass ↔
      currentValue ≤ soft ∧ currentValue ≤ hard := by
  simp only [thresholdEvaluation]
  split_ifs with h₁ h₂
  · simp [not_le.mpr h₁]
  · simp [not_le.mpr h₂]
  · simp [not_lt.mp h₁, not_lt.mp h₂]

/-- A soft breach of a threshold carries the soft threshold as its cap. -/
theorem threshold_soft
    (h : (thresholdEvaluation limit currentValue soft hard softReason hardReason).status =
      .softBreach) :
    soft < currentValue ∧ currentValue ≤ hard ∧
      thresholdEvaluation limit currentValue soft hard softReason hardReason =
        evaluation limit currentValue hard (some .softBreach) softReason (some soft)
          (some soft) := by
  simp only [thresholdEvaluation] at h ⊢
  split_ifs at h ⊢ with h₁ h₂
  · simp at h
  · exact ⟨h₂, not_lt.mp h₁, rfl⟩
  · simp at h

theorem isEvaluationOf_negativeLoss (hs : softReason ≠ .passed) (hh : hardReason ≠ .passed) :
    IsEvaluationOf limit
      (negativeLossEvaluation limit currentValue soft hard softReason hardReason) := by
  simp only [negativeLossEvaluation]
  split_ifs
  · exact isEvaluationOf_evaluation _ _ _ _ _ _ _ (by simp [hh])
  · exact isEvaluationOf_evaluation _ _ _ _ _ _ _ (by simp [hs])
  · exact isEvaluationOf_evaluation _ _ _ _ _ _ _ (by simp)

theorem negativeLoss_hard_iff :
    (negativeLossEvaluation limit currentValue soft hard softReason hardReason).status =
      .hardBreach ↔ currentValue ≤ hard := by
  simp only [negativeLossEvaluation]
  split_ifs with h₁ h₂ <;> simp [h₁]

theorem isEvaluationOf_flag {ok : Bool} (hh : hardReason ≠ .passed) :
    IsEvaluationOf limit (flagEvaluation limit ok hardReason) := by
  simp only [flagEvaluation]
  split_ifs
  · exact isEvaluationOf_evaluation _ _ _ _ _ _ _ (by simp)
  · exact isEvaluationOf_evaluation _ _ _ _ _ _ _ (by simp [hh])

theorem flag_hard_iff {ok : Bool} :
    (flagEvaluation limit ok hardReason).status = .hardBreach ↔ ok = false := by
  cases ok <;> simp [flagEvaluation]

theorem isEvaluationOf_count {count : Nat} (hh : hardReason ≠ .passed) :
    IsEvaluationOf limit (countEvaluation limit count hardReason) := by
  simp only [countEvaluation]
  split_ifs
  · exact isEvaluationOf_evaluation _ _ _ _ _ _ _ (by simp [hh])
  · exact isEvaluationOf_evaluation _ _ _ _ _ _ _ (by simp)

theorem isEvaluationOf_exposure {effect : OrderEffect} {exposure : Decimal}
    (hs : softReason ≠ .passed) (hh : hardReason ≠ .passed) :
    IsEvaluationOf limit
      (exposureEvaluation limit effect exposure soft hard softReason hardReason) := by
  simp only [exposureEvaluation]
  split_ifs
  · exact isEvaluationOf_evaluation _ _ _ _ _ _ _ (by simp)
  · exact isEvaluationOf_threshold hs hh

theorem isEvaluationOf_multiplier {usable : Bool} {multiplier : Option NonNegativeDecimal}
    {t : PositiveThresholds} (hs : softReason ≠ .passed) (hh : hardReason ≠ .passed) :
    IsEvaluationOf limit
      (multiplierEvaluation limit usable multiplier t softReason hardReason) := by
  cases multiplier with
  | none => exact isEvaluationOf_evaluation _ _ _ _ _ _ _ (by simp [hh])
  | some value =>
      cases usable with
      | true => exact isEvaluationOf_threshold hs hh
      | false => exact isEvaluationOf_evaluation _ _ _ _ _ _ _ (by simp [hh])

end Threshold

/-! ## Each evaluation belongs to its limit -/

section Members

variable (r : RiskCheckRequest) (p : RiskPolicy) (metadata : MetadataView) (effect : OrderEffect)

theorem isEvaluationOf_killSwitch :
    IsEvaluationOf .killSwitchActiveState (killSwitchEvaluation r effect) := by
  simp only [killSwitchEvaluation]
  split
  · exact isEvaluationOf_evaluation _ _ _ _ _ _ _ (by simp)
  · exact isEvaluationOf_evaluation _ _ _ _ _ _ _ (by simp)
  · exact isEvaluationOf_evaluation _ _ _ _ _ _ _ (by simp)
  · split_ifs <;> exact isEvaluationOf_evaluation _ _ _ _ _ _ _ (by simp)
  · split_ifs <;> exact isEvaluationOf_evaluation _ _ _ _ _ _ _ (by simp)
  · exact isEvaluationOf_evaluation _ _ _ _ _ _ _ (by simp)
  · exact isEvaluationOf_evaluation _ _ _ _ _ _ _ (by simp)

theorem isEvaluationOf_venueStatus :
    IsEvaluationOf .venueStatus (venueStatusEvaluation metadata) := by
  simp only [venueStatusEvaluation]
  split <;> exact isEvaluationOf_evaluation _ _ _ _ _ _ _ (by simp)

theorem isEvaluationOf_priceCollar :
    IsEvaluationOf .orderPriceCollar (priceCollarEvaluation r p) := by
  simp only [priceCollarEvaluation]
  split_ifs <;> exact isEvaluationOf_evaluation _ _ _ _ _ _ _ (by simp)

theorem isEvaluationOf_orderNotional :
    IsEvaluationOf .orderMaxNotional (orderNotionalEvaluation p metadata effect) := by
  simp only [orderNotionalEvaluation]
  split_ifs
  · exact isEvaluationOf_evaluation _ _ _ _ _ _ _ (by simp)
  · exact isEvaluationOf_threshold (by decide) (by decide)

theorem isEvaluationOf_totalSpotExposure :
    IsEvaluationOf .positionTotalSpotExposure (totalSpotExposureEvaluation p metadata effect) := by
  simp only [totalSpotExposureEvaluation]
  split_ifs
  · exact isEvaluationOf_evaluation _ _ _ _ _ _ _ (by simp)
  · exact isEvaluationOf_exposure (by decide) (by decide)

theorem isEvaluationOf_noShortOrOversell :
    IsEvaluationOf .positionNoShortOrOversell (noShortOrOversellEvaluation r) := by
  simp only [noShortOrOversellEvaluation]
  split_ifs <;> exact isEvaluationOf_evaluation _ _ _ _ _ _ _ (by simp)

theorem isEvaluationOf_participation (checks : List LiquidityCheck) :
    IsEvaluationOf .liquidityParticipation (participationEvaluation p checks) := by
  cases checks with
  | nil => exact isEvaluationOf_evaluation _ _ _ _ _ _ _ (by simp)
  | cons first rest =>
      simp only [participationEvaluation]
      split
      · exact isEvaluationOf_evaluation _ _ _ _ _ _ _ (by simp)
      · split <;> exact isEvaluationOf_evaluation _ _ _ _ _ _ _ (by simp)

theorem isEvaluationOf_liquidityParticipation :
    IsEvaluationOf .liquidityParticipation (liquidityParticipationEvaluation r p effect) := by
  simp only [liquidityParticipationEvaluation]
  split_ifs
  · exact isEvaluationOf_evaluation _ _ _ _ _ _ _ (by simp)
  · exact isEvaluationOf_participation p _

theorem isEvaluationOf_liquiditySpread :
    IsEvaluationOf .liquiditySpread (liquiditySpreadEvaluation r p) := by
  simp only [liquiditySpreadEvaluation]
  split
  · exact isEvaluationOf_evaluation _ _ _ _ _ _ _ (by simp)
  · exact isEvaluationOf_threshold (by decide) (by decide)

theorem isEvaluationOf_throttle (e : RiskLimitEvaluation) (he : e ∈ throttleEvaluations r) :
    IsEvaluationOf .executionOrderThrottle e := by
  simp only [throttleEvaluations] at he
  split at he
  · rw [List.mem_singleton] at he
    subst he
    exact isEvaluationOf_evaluation _ _ _ _ _ _ _ (by simp)
  · obtain ⟨window, -, rfl⟩ := List.mem_map.mp he
    simp only [throttleEvaluation]
    split_ifs <;> exact isEvaluationOf_evaluation _ _ _ _ _ _ _ (by simp)

theorem isEvaluationOf_rejectBurst (e : RiskLimitEvaluation) (he : e ∈ rejectBurstEvaluations r) :
    IsEvaluationOf .executionRejectBurst e := by
  simp only [rejectBurstEvaluations] at he
  split at he
  · rw [List.mem_singleton] at he
    subst he
    exact isEvaluationOf_evaluation _ _ _ _ _ _ _ (by simp)
  · obtain ⟨window, -, rfl⟩ := List.mem_map.mp he
    simp only [rejectBurstEvaluation]
    split_ifs <;> exact isEvaluationOf_evaluation _ _ _ _ _ _ _ (by simp)

theorem isEvaluationOf_engineLatency :
    IsEvaluationOf .engineLatency (engineLatencyEvaluation r) := by
  simp only [engineLatencyEvaluation]
  split_ifs <;> exact isEvaluationOf_evaluation _ _ _ _ _ _ _ (by simp)

theorem isEvaluationOf_modelDriftOrCalibration :
    IsEvaluationOf .modelDriftOrCalibration (modelDriftOrCalibrationEvaluation r) := by
  simp only [modelDriftOrCalibrationEvaluation]
  split_ifs <;> exact isEvaluationOf_evaluation _ _ _ _ _ _ _ (by simp)

end Members

/-! ## The evaluations of a request -/

/-- The limits that look at the size of the order. -/
def sizeLimits : List LimitId :=
  [ .orderMaxNotional, .positionInstrumentExposure, .positionStrategyExposure,
    .positionTotalSpotExposure, .liquidityParticipation ]

/-- The evaluations of the size limits. -/
def sizeEvaluations (r : RiskCheckRequest) (p : RiskPolicy) : List RiskLimitEvaluation :=
  let metadata := metadataView r
  let effect := buildOrderEffect r
  [ orderNotionalEvaluation p metadata effect, instrumentExposureEvaluation p metadata effect,
    strategyExposureEvaluation p metadata effect, totalSpotExposureEvaluation p metadata effect,
    liquidityParticipationEvaluation r p effect ]

/-- The size evaluations belong to the size limits, in order. -/
theorem sizeEvaluations_isEvaluationOf (r : RiskCheckRequest) (p : RiskPolicy)
    {e : RiskLimitEvaluation} (he : e ∈ sizeEvaluations r p) :
    ∃ limit ∈ sizeLimits, IsEvaluationOf limit e := by
  simp only [sizeEvaluations, List.mem_cons, List.not_mem_nil, or_false] at he
  rcases he with rfl | rfl | rfl | rfl | rfl
  · exact ⟨_, by decide, isEvaluationOf_orderNotional p _ _⟩
  · exact ⟨_, by decide, isEvaluationOf_exposure (by decide) (by decide)⟩
  · exact ⟨_, by decide, isEvaluationOf_exposure (by decide) (by decide)⟩
  · exact ⟨_, by decide, isEvaluationOf_totalSpotExposure p _ _⟩
  · exact ⟨_, by decide, isEvaluationOf_liquidityParticipation r p _⟩

section Evaluations

variable [Sha256] (r : RiskCheckRequest) (p : RiskPolicy)

theorem mem_limitEvaluations_of_size {e : RiskLimitEvaluation} (he : e ∈ sizeEvaluations r p) :
    e ∈ limitEvaluations r p := by
  simp only [sizeEvaluations, List.mem_cons, List.not_mem_nil, or_false] at he
  rcases he with rfl | rfl | rfl | rfl | rfl <;> simp [limitEvaluations]

/-- The evaluations of the limits that ignore the size of the order. -/
def fixedEvaluations : List RiskLimitEvaluation :=
  let metadata := metadataView r
  [ requiredStateEvaluation r metadata, productScopeEvaluation metadata,
    killSwitchEvaluation r (buildOrderEffect r), venueStatusEvaluation metadata,
    priceCollarEvaluation r p, noShortOrOversellEvaluation r, dailyAccountLossEvaluation r p,
    dailyStrategyLossEvaluation r p, maxDrawdownEvaluation r p, liquiditySpreadEvaluation r p,
    marketVolatilityEvaluation r p, dataFreshnessEvaluation r, idempotencyEvaluation r,
    engineLatencyEvaluation r, modelDriftOrCalibrationEvaluation r,
    tcaCostSlippageEvaluation r p ] ++ throttleEvaluations r ++ rejectBurstEvaluations r

theorem fixedEvaluations_isEvaluationOf {e : RiskLimitEvaluation}
    (he : e ∈ fixedEvaluations r p) : ∃ limit, limit ∉ sizeLimits ∧ IsEvaluationOf limit e := by
  simp only [fixedEvaluations, List.mem_append, List.mem_cons, List.not_mem_nil, or_false] at he
  rcases he with (hfirst | hthrottle) | hburst
  · rcases hfirst with rfl | rfl | rfl | rfl | rfl | rfl | rfl | rfl | rfl | rfl | rfl | rfl |
      rfl | rfl | rfl | rfl
    · exact ⟨_, by decide, isEvaluationOf_flag (by decide)⟩
    · exact ⟨_, by decide, isEvaluationOf_flag (by decide)⟩
    · exact ⟨_, by decide, isEvaluationOf_killSwitch r _⟩
    · exact ⟨_, by decide, isEvaluationOf_venueStatus _⟩
    · exact ⟨_, by decide, isEvaluationOf_priceCollar r p⟩
    · exact ⟨_, by decide, isEvaluationOf_noShortOrOversell r⟩
    · exact ⟨_, by decide, isEvaluationOf_negativeLoss (by decide) (by decide)⟩
    · exact ⟨_, by decide, isEvaluationOf_negativeLoss (by decide) (by decide)⟩
    · exact ⟨_, by decide, isEvaluationOf_threshold (by decide) (by decide)⟩
    · exact ⟨_, by decide, isEvaluationOf_liquiditySpread r p⟩
    · exact ⟨_, by decide, isEvaluationOf_multiplier (by decide) (by decide)⟩
    · exact ⟨_, by decide, isEvaluationOf_count (by decide)⟩
    · exact ⟨_, by decide, isEvaluationOf_count (by decide)⟩
    · exact ⟨_, by decide, isEvaluationOf_engineLatency r⟩
    · exact ⟨_, by decide, isEvaluationOf_modelDriftOrCalibration r⟩
    · exact ⟨_, by decide, isEvaluationOf_multiplier (by decide) (by decide)⟩
  · exact ⟨_, by decide, isEvaluationOf_throttle r e hthrottle⟩
  · exact ⟨_, by decide, isEvaluationOf_rejectBurst r e hburst⟩

/-- The evaluations are those that look at the size of the order and those that do not. -/
theorem mem_limitEvaluations_iff (e : RiskLimitEvaluation) :
    e ∈ limitEvaluations r p ↔ e ∈ sizeEvaluations r p ∨ e ∈ fixedEvaluations r p := by
  simp only [limitEvaluations, sizeEvaluations, fixedEvaluations, List.mem_append, List.mem_cons,
    List.not_mem_nil, or_false]
  exact iff_of_eq (by ac_rfl)

/-- An evaluation is one of the size evaluations, or belongs to a limit that ignores the size. -/
theorem limitEvaluations_cases {e : RiskLimitEvaluation} (he : e ∈ limitEvaluations r p) :
    e ∈ sizeEvaluations r p ∨ ∃ limit, limit ∉ sizeLimits ∧ IsEvaluationOf limit e :=
  ((mem_limitEvaluations_iff r p e).mp he).imp_right (fixedEvaluations_isEvaluationOf r p)

theorem limitEvaluations_isEvaluationOf {e : RiskLimitEvaluation}
    (he : e ∈ limitEvaluations r p) : ∃ limit, IsEvaluationOf limit e := by
  rcases limitEvaluations_cases r p he with hsize | ⟨limit, -, hlimit⟩
  · obtain ⟨limit, -, hlimit⟩ := sizeEvaluations_isEvaluationOf r p hsize
    exact ⟨limit, hlimit⟩
  · exact ⟨limit, hlimit⟩

/-- The evaluations that name a size limit are the size evaluations. -/
theorem mem_sizeEvaluations_iff (e : RiskLimitEvaluation) :
    e ∈ sizeEvaluations r p ↔
      e ∈ limitEvaluations r p ∧ e.limitId ∈ sizeLimits.map LimitId.value := by
  constructor
  · intro he
    obtain ⟨limit, hlimit, hof⟩ := sizeEvaluations_isEvaluationOf r p he
    refine ⟨mem_limitEvaluations_of_size r p he, ?_⟩
    exact List.mem_map.mpr ⟨limit, hlimit, hof.limitId_eq.symm⟩
  · rintro ⟨he, hname⟩
    rcases limitEvaluations_cases r p he with hsize | ⟨limit, hnot, hof⟩
    · exact hsize
    · obtain ⟨other, hother, hvalue⟩ := List.mem_map.mp hname
      rw [hof.limitId_eq] at hvalue
      have heq : other = limit := LimitId.value_injective hvalue
      exact absurd (heq ▸ hother) hnot

end Evaluations

end TaModel.Risk
