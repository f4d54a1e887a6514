import TaModel.Risk.SoftCap

/-!
# Hard bounds of an approval

Every hard bound of the policy holds of an approved intent, and so does every hard bound of the
account except two: `max_daily_loss_pct` and `max_drawdown_pct` of the account are never read.
`approval_respects_hard_limits_iff` says that these two are all that can go wrong.
-/

set_option autoImplicit false

namespace TaModel.Risk

open Contracts

/-! ## The account of a request -/

theorem validateReferences_accounts_nodup {snapshot : InstrumentMasterSnapshot}
    (h : snapshot.validateReferences = .ok ()) : (snapshot.accounts.map Account.accountId).Nodup := by
  simp only [InstrumentMasterSnapshot.validateReferences, check_bind_eq_ok_iff] at h
  obtain ⟨-, -, -, -, -, -, haccounts, -⟩ := h
  exact (require_eq_ok_iff _ _ _).mp haccounts

/-- Accounts of a valid snapshot are determined by their id. -/
theorem account_eq_of_id {snapshot : InstrumentMasterSnapshot}
    (h : snapshot.validateReferences = .ok ()) {a b : Account} (ha : a ∈ snapshot.accounts)
    (hb : b ∈ snapshot.accounts) (hid : a.accountId = b.accountId) : a = b :=
  List.inj_on_of_nodup_map (validateReferences_accounts_nodup h) ha hb hid

/-- An approved request names an account the metadata view found. -/
theorem metadataView_account {r : RiskCheckRequest} {account : Account}
    (h : (metadataView r).account = some account) :
    account ∈ r.instrumentMasterSnapshot.accounts ∧ account.accountId = r.accountId := by
  have hmem := List.mem_of_find?_eq_some h
  have hfound := List.find?_some h
  simp only [Bool.and_eq_true, beq_iff_eq] at hfound
  exact ⟨hmem, hfound.1⟩

/-! ## Hard bounds -/

/-- Every hard bound of the policy and of the account limits holds of the approved intent `o`. -/
structure RespectsHardLimits (r : RiskCheckRequest) (p : RiskPolicy) (limits : AccountRiskLimits)
    (o : OrderIntent) : Prop where
  order_notional : o.side = .buy → o.quantity.val * r.referencePrice.val ≤
    p.paperNav.val * min p.maxOrderNotionalPct.hard.val limits.maxOrderNotionalPct.val
  constraint_notional : o.side = .buy → ∀ constraint : InstrumentConstraint,
    activeConstraint r.instrumentMasterSnapshot r.orderIntent.instrumentId = some constraint →
    ∀ most ∈ constraint.maxOrderNotional, o.quantity.val * r.referencePrice.val ≤ most.val
  instrument_exposure : o.side = .buy →
    r.currentInstrumentExposureNotional.val + o.quantity.val * r.referencePrice.val ≤
      p.paperNav.val * min p.maxInstrumentExposurePct.hard.val limits.maxInstrumentExposurePct.val
  strategy_exposure : o.side = .buy →
    r.currentStrategyExposureNotional.val + o.quantity.val * r.referencePrice.val ≤
      p.paperNav.val * min p.maxStrategyExposurePct.hard.val limits.maxStrategyExposurePct.val
  total_spot_exposure : o.side = .buy →
    r.currentTotalSpotExposureNotional.val + o.quantity.val * r.referencePrice.val ≤
      p.paperNav.val * min p.maxTotalSpotExposurePct.hard.val limits.maxTotalSpotExposurePct.val
  cash_reserve : o.side = .buy →
    p.paperNav.val * max p.minCashReservePct.val limits.minCashReservePct.val ≤
      r.currentCash.val - o.quantity.val * r.referencePrice.val
  no_oversell : o.side = .sell → o.quantity.val ≤ r.currentInstrumentPositionQuantity.val
  drawdown : r.lossRisk.maxDrawdownPct.val ≤
    min p.maxDrawdownPct.hard.val limits.maxDrawdownPct.val
  daily_loss : -(p.paperNav.val *
    min p.maxDailyAccountLossPct.hard.val limits.maxDailyLossPct.val) < r.lossRisk.dailyAccountPnl

/-- The two account bounds no evaluation reads. -/
def WithinAccountLosses (r : RiskCheckRequest) (p : RiskPolicy) (limits : AccountRiskLimits) :
    Prop :=
  r.lossRisk.maxDrawdownPct.val ≤ limits.maxDrawdownPct.val ∧
    -(p.paperNav.val * limits.maxDailyLossPct.val) < r.lossRisk.dailyAccountPnl

section Bounds

variable {r : RiskCheckRequest} {p : RiskPolicy} {account : Account}

theorem hardNotional_of_account (haccount : (metadataView r).account = some account)
    (limit : AccountRiskLimits → BoundedRiskFraction) (hardPct : BoundedRiskFraction) :
    hardNotional p (metadataView r) limit hardPct =
      p.paperNav.val * min hardPct.val (limit account.riskLimits).val := by
  simp only [hardNotional, accountPct, haccount]
  exact (mul_min_of_nonneg _ _ p.paperNav.property.le).symm

theorem cashThreshold_of_account (haccount : (metadataView r).account = some account) :
    cashThreshold p (metadataView r) =
      p.paperNav.val * max p.minCashReservePct.val account.riskLimits.minCashReservePct.val := by
  simp only [cashThreshold, accountPct, haccount]
  exact (mul_max_of_nonneg _ _ p.paperNav.property.le).symm

theorem orderNotionalHard_le_account (haccount : (metadataView r).account = some account) :
    orderNotionalHard p (metadataView r) ≤
      p.paperNav.val *
        min p.maxOrderNotionalPct.hard.val account.riskLimits.maxOrderNotionalPct.val := by
  rw [← hardNotional_of_account haccount AccountRiskLimits.maxOrderNotionalPct]
  simp only [orderNotionalHard]
  split
  · exact min_le_left _ _
  · exact le_refl _

theorem orderNotionalHard_le_constraint {constraint : InstrumentConstraint}
    (hconstraint : activeConstraint r.instrumentMasterSnapshot r.orderIntent.instrumentId =
      some constraint) {most : PositiveDecimal} (hmost : most ∈ constraint.maxOrderNotional) :
    orderNotionalHard p (metadataView r) ≤ most.val := by
  have hview : (metadataView r).constraint.bind InstrumentConstraint.maxOrderNotional =
      some most := by
    rw [show (metadataView r).constraint = some constraint from hconstraint]
    exact hmost
  simp only [orderNotionalHard, hview]
  exact min_le_right _ _

variable [Sha256]

/-- The policy's own loss limits and the no-oversell rule, from the absence of hard breaches. -/
theorem loss_limits_of_no_hard
    (hhard : ∀ e ∈ limitEvaluations r p, e.status ≠ .hardBreach) :
    (r.orderIntent.side = .sell →
        r.orderIntent.quantity.val ≤ r.currentInstrumentPositionQuantity.val) ∧
      r.lossRisk.maxDrawdownPct.val ≤ p.maxDrawdownPct.hard.val ∧
      -(p.paperNav.val * p.maxDailyAccountLossPct.hard.val) < r.lossRisk.dailyAccountPnl := by
  have hoversell := hhard (noShortOrOversellEvaluation r) (by simp [limitEvaluations])
  have hdrawdown := hhard (maxDrawdownEvaluation r p) (by simp [limitEvaluations])
  have hdaily := hhard (dailyAccountLossEvaluation r p) (by simp [limitEvaluations])
  refine ⟨?_, ?_, ?_⟩
  · intro hsell
    by_contra hmore
    have hpositive : 0 < max 0
        (r.orderIntent.quantity.val - r.currentInstrumentPositionQuantity.val) :=
      lt_max_of_lt_right (sub_pos.mpr (not_le.mp hmore))
    apply hoversell
    simp only [noShortOrOversellEvaluation, hsell, if_pos hpositive]
    rfl
  · exact not_lt.mp fun hlt => hdrawdown (threshold_hard_iff.mpr hlt)
  · exact not_le.mp fun hle => hdaily (negativeLoss_hard_iff.mpr hle)

/-- An approved intent keeps the side of the request, and a buy stays within the hard size
limits. -/
theorem approved_within_hard {d : RiskDecisionStatus} {o : OrderIntent}
    (h : riskDecision r p = (d, some o)) :
    (∀ e ∈ limitEvaluations r p, e.status ≠ .hardBreach) ∧ o.side = r.orderIntent.side ∧
      (r.orderIntent.side = .sell → o = r.orderIntent) ∧
      (r.orderIntent.side = .buy →
        WithinHard r p (o.quantity.val * r.referencePrice.val)) := by
  obtain ⟨hno, hcases⟩ := riskDecision_approval h
  have hhard := (hasHardBreach_eq_false_iff _).mp hno
  refine ⟨hhard, ?_⟩
  have hwithin : r.orderIntent.side = .buy → WithinHard r p (proposedNotional r).val :=
    fun hbuy => (size_no_hard_iff p hbuy).mp fun e he =>
      hhard e (mem_limitEvaluations_of_size r p he)
  rcases hcases with ⟨-, rfl⟩ | ⟨allowed, -, hsoft, hpos, rfl⟩
  · exact ⟨rfl, fun _ => rfl, hwithin⟩
  · refine ⟨rfl, ?_, ?_⟩
    · intro hsell
      rw [hsoft.side_buy] at hsell
      cases hsell
    · intro hbuy
      -- a smaller buy stays within whatever the larger one was within
      have hnotional : allowed / r.referencePrice.val * r.referencePrice.val = allowed :=
        div_mul_cancel₀ allowed r.referencePrice.property.ne'
      show WithinHard r p (allowed / r.referencePrice.val * r.referencePrice.val)
      rw [hnotional]
      exact (hwithin hbuy).antitone hsoft.below.le

/-- Beyond the two losses of the account, an approval respects every hard bound. -/
theorem respectsHardLimits_iff_of_approved {d : RiskDecisionStatus} {o : OrderIntent}
    (h : riskDecision r p = (d, some o)) (haccount : (metadataView r).account = some account) :
    RespectsHardLimits r p account.riskLimits o ↔ WithinAccountLosses r p account.riskLimits := by
  obtain ⟨hhard, hside, hsell, hbuy⟩ := approved_within_hard h
  obtain ⟨hoversell, hdrawdown, hdaily⟩ := loss_limits_of_no_hard hhard
  have hnav := p.paperNav.property
  constructor
  · intro hall
    refine ⟨le_trans hall.drawdown (min_le_right _ _), lt_of_le_of_lt ?_ hall.daily_loss⟩
    exact neg_le_neg (mul_le_mul_of_nonneg_left (min_le_right _ _) hnav.le)
  · rintro ⟨haccountDrawdown, haccountDaily⟩
    have hwithin : o.side = .buy → WithinHard r p (o.quantity.val * r.referencePrice.val) :=
      fun hobuy => hbuy (hside ▸ hobuy)
    refine ⟨?_, ?_, ?_, ?_, ?_, ?_, ?_, le_min hdrawdown haccountDrawdown, ?_⟩
    · exact fun hobuy => le_trans (hwithin hobuy).order (orderNotionalHard_le_account haccount)
    · exact fun hobuy constraint hconstraint most hmost =>
        le_trans (hwithin hobuy).order (orderNotionalHard_le_constraint hconstraint hmost)
    · intro hobuy
      rw [← hardNotional_of_account haccount AccountRiskLimits.maxInstrumentExposurePct]
      exact (hwithin hobuy).instrument
    · intro hobuy
      rw [← hardNotional_of_account haccount AccountRiskLimits.maxStrategyExposurePct]
      exact (hwithin hobuy).strategy
    · intro hobuy
      rw [← hardNotional_of_account haccount AccountRiskLimits.maxTotalSpotExposurePct]
      exact (hwithin hobuy).total
    · intro hobuy
      rw [← cashThreshold_of_account haccount]
      exact (hwithin hobuy).cash
    · intro hosell
      rw [hsell (hside ▸ hosell)]
      exact hoversell (hside ▸ hosell)
    · -- the stricter of the two daily losses is one of them
      rcases min_choice p.maxDailyAccountLossPct.hard.val account.riskLimits.maxDailyLossPct.val
        with hmin | hmin
      · rw [hmin]
        exact hdaily
      · rw [hmin]
        exact haccountDaily

/-- The account is found whenever an intent is approved. -/
theorem metadataView_account_of_approved {d : RiskDecisionStatus} {o : OrderIntent}
    (h : riskDecision r p = (d, some o)) : ∃ found, (metadataView r).account = some found := by
  obtain ⟨hno, -⟩ := riskDecision_approval h
  have hhard := (hasHardBreach_eq_false_iff _).mp hno
    (requiredStateEvaluation r (metadataView r)) (by simp [limitEvaluations])
  cases haccount : (metadataView r).account with
  | some found => exact ⟨found, rfl⟩
  | none =>
      refine absurd ?_ hhard
      simp only [requiredStateEvaluation, flag_hard_iff, haccount]
      simp

/-- Hard-limit soundness of approvals, with its exact condition: an approved intent respects every
hard bound of the policy and of its account if and only if the request is within the account's own
drawdown and daily-loss bounds, which no evaluation reads. -/
theorem approval_respects_hard_limits_iff {event : RiskCheckEvent} {o : OrderIntent}
    (h : evaluatePreTradeRisk r p = .ok event) (ho : event.approvedOrderIntent = some o)
    (hmem : account ∈ r.instrumentMasterSnapshot.accounts)
    (hid : account.accountId = r.accountId) :
    RespectsHardLimits r p account.riskLimits o ↔ WithinAccountLosses r p account.riskLimits := by
  have hfacts := evaluatePreTradeRisk_facts r p h
  have hdecision := hfacts.decision_eq.symm
  rw [ho] at hdecision
  obtain ⟨found, hfound⟩ := metadataView_account_of_approved hdecision
  obtain ⟨hfoundmem, hfoundid⟩ := metadataView_account hfound
  obtain ⟨hfields, -, -⟩ := (RiskCheckRequest.stamping.validate_eq_ok_iff r).mp hfacts.request_valid
  obtain ⟨-, -, hsnapshot, -⟩ := (RiskCheckRequest.validateFields_eq_ok_iff r).mp hfields
  have hsame : account = found :=
    account_eq_of_id hsnapshot hmem hfoundmem (hid.trans hfoundid.symm)
  rw [hsame]
  exact respectsHardLimits_iff_of_approved hdecision hfound

end Bounds

/-! ## An account with a strict drawdown -/

section StrictAccount

open Simulation

theorem fiftieth_is_fraction : (0 : Decimal) < 1 / 50 ∧ (1 / 50 : Decimal) ≤ 1 := by norm_num

/-- Account limits with a drawdown of two percent, below the eight percent of the policy. -/
def strictLimits : AccountRiskLimits :=
  { loosestLimits with
    maxDrawdownPct := ⟨1 / 50, fiftieth_is_fraction⟩, drawdown_le := by decide +kernel }

/-- A buy of `BTC-USD` for 100 USD at the given drawdown. -/
def drawdownRequest (drawdown : NonNegativeDecimal) : RiskCheckRequest :=
  @marketRequest hashlibSha256 strictLimits .clear
    (marketOrder "ORDER-1" "BTC-USD" .buy ⟨1, Decimal.zero_lt_one⟩ 0) {} { maxDrawdownPct := drawdown }

theorem drawdownRequest_event (drawdown : NonNegativeDecimal)
    (hdecision : @riskDecision hashlibSha256 (drawdownRequest drawdown) marketPolicy =
      (.approved, some (drawdownRequest drawdown).orderIntent)) :
    ∃ event, @evaluatePreTradeRisk hashlibSha256 (drawdownRequest drawdown) marketPolicy =
        .ok event ∧
      event.approvedOrderIntent = some (drawdownRequest drawdown).orderIntent := by
  have hvalid : @RiskCheckRequest.validate hashlibSha256 (drawdownRequest drawdown) = .ok () :=
    @marketRequest_valid hashlibSha256 _ (ok_unit_of_toBool _ (by decide)) .clear _
      (le_refl _) (by decide) _ _
  obtain ⟨event, hevent⟩ := @evaluatePreTradeRisk_total hashlibSha256 _ marketPolicy hvalid
  obtain ⟨-, -, -, -, heq, -⟩ := @evaluatePreTradeRisk_facts hashlibSha256 _ _ _ hevent
  rw [hdecision] at heq
  exact ⟨event, hevent, (Prod.mk.inj heq).2⟩

/-- Without losses the approved buy respects every bound of the strict account. -/
theorem approval_respects_hard_limits_without_losses :
    ∃ event, @evaluatePreTradeRisk hashlibSha256 (drawdownRequest ⟨0, le_refl 0⟩) marketPolicy =
        .ok event ∧
      event.approvedOrderIntent = some (drawdownRequest ⟨0, le_refl 0⟩).orderIntent ∧
      RespectsHardLimits (drawdownRequest ⟨0, le_refl 0⟩) marketPolicy strictLimits
        (drawdownRequest ⟨0, le_refl 0⟩).orderIntent := by
  obtain ⟨event, hevent, ho⟩ := drawdownRequest_event ⟨0, le_refl 0⟩ (by decide +kernel)
  refine ⟨event, hevent, ho,
    (@approval_respects_hard_limits_iff _ _ (paperAccount strictLimits) hashlibSha256 _ _ hevent ho
      (List.mem_singleton.mpr rfl) rfl).mpr ⟨?_, ?_⟩⟩
  · decide +kernel
  · decide +kernel

/-- At a drawdown of three percent the buy is approved although its account stops at two. -/
theorem approval_ignores_account_drawdown :
    ∃ event o, @evaluatePreTradeRisk hashlibSha256
        (drawdownRequest ⟨3 / 100, by decide +kernel⟩) marketPolicy = .ok event ∧
      event.approvedOrderIntent = some o ∧
      ¬ RespectsHardLimits (drawdownRequest ⟨3 / 100, by decide +kernel⟩) marketPolicy
        strictLimits o := by
  obtain ⟨event, hevent, ho⟩ :=
    drawdownRequest_event ⟨3 / 100, by decide +kernel⟩ (by decide +kernel)
  refine ⟨event, _, hevent, ho, ?_⟩
  intro hall
  have hle := le_trans hall.drawdown (min_le_right _ _)
  revert hle
  decide +kernel

end StrictAccount

end TaModel.Risk
