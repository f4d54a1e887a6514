import TaModel.Risk.CapFeasibility

/-!
# The decision on a smaller buy

A request and the same request for a smaller buy differ in their size evaluations only, as long as
no idempotency record matches either order. A smaller buy passes every limit the larger one passes,
so the decision can only improve. The reported participation breach can change: once the smaller
order fits the volume cap, the depth cap comes out of hiding. A depth cap is positive, and it only
tightens the headroom, so the decision and the approved quantity stay monotone.
-/

set_option autoImplicit false

namespace TaModel.Risk

open Contracts

section Resized

variable [Sha256]

/-! ## The request for another quantity -/

/-- The order matches none of the unresolved idempotency records of its request. -/
def MatchesNoRecord (r : RiskCheckRequest) : Prop :=
  ∀ record ∈ r.idempotencyRecords, isUnresolved record.state = true →
    record.idempotencyKey ≠ r.idempotencyKey ∧
      record.clientOrderId ≠ r.orderIntent.clientOrderId ∧ record.traceId ≠ r.traceId ∧
      record.orderIntentHash ≠ buildOrderIntentHash r.orderIntent

/-- The same request for another quantity. -/
def resized (r : RiskCheckRequest) (quantity : PositiveDecimal) : RiskCheckRequest :=
  withOrder r (r.orderIntent.withQuantity quantity) r.idempotencyRecords

variable {r : RiskCheckRequest} {p : RiskPolicy} {quantity : PositiveDecimal}

theorem idempotencyEvaluation_of_matchesNoRecord (h : MatchesNoRecord r) :
    idempotencyEvaluation r =
      countEvaluation .executionDuplicateIdempotency 0 .duplicateIdempotency := by
  have hnone : ∀ record ∈ r.idempotencyRecords, ¬ (isUnresolved record.state &&
      (record.idempotencyKey == r.idempotencyKey ||
        record.clientOrderId == r.orderIntent.clientOrderId || record.traceId == r.traceId ||
        record.orderIntentHash == buildOrderIntentHash r.orderIntent)) = true := by
    intro record hmem hmatch
    obtain ⟨hstate, hsame⟩ := Bool.and_eq_true_iff.mp hmatch
    obtain ⟨hkey, hclient, htrace, hhash⟩ := h record hmem hstate
    simp [hkey, hclient, htrace, hhash] at hsame
  simp only [idempotencyEvaluation]
  rw [List.filter_eq_nil_iff.mpr hnone]
  rfl

/-- A limit that ignores the size says the same of both requests. -/
theorem fixedEvaluations_resized (hbuy : r.orderIntent.side = .buy) (h : MatchesNoRecord r)
    (h' : MatchesNoRecord (resized r quantity)) :
    fixedEvaluations (resized r quantity) p = fixedEvaluations r p := by
  have hbuy' : (resized r quantity).orderIntent.side = .buy := hbuy
  have hkill : killSwitchEvaluation (resized r quantity) (buildOrderEffect (resized r quantity)) =
      killSwitchEvaluation r (buildOrderEffect r) := by
    simp only [killSwitchEvaluation, (buildOrderEffect_buy hbuy).riskIncreasing,
      (buildOrderEffect_buy hbuy').riskIncreasing]
    rfl
  have hoversell : noShortOrOversellEvaluation (resized r quantity) =
      noShortOrOversellEvaluation r := by
    simp only [noShortOrOversellEvaluation, hbuy, hbuy']
  simp only [fixedEvaluations, hkill, hoversell, idempotencyEvaluation_of_matchesNoRecord h,
    idempotencyEvaluation_of_matchesNoRecord h']
  rfl

end Resized

/-! ## What a decision says about the soft breaches -/

section Decisions

variable {r : RiskCheckRequest}

/-- The caps are absent when some breach has none. -/
theorem exists_uncapped {breaches : List RiskLimitEvaluation}
    (h : allowedIncrementalNotionals r breaches = none) :
    ∃ e ∈ breaches, allowedIncrementalNotional r e = none := by
  induction breaches with
  | nil => cases h
  | cons e breaches ih =>
      cases hcap : allowedIncrementalNotional r e with
      | none => exact ⟨e, List.mem_cons_self, hcap⟩
      | some cap =>
          cases hcaps : allowedIncrementalNotionals r breaches with
          | none =>
              obtain ⟨e', he', hnone⟩ := ih hcaps
              exact ⟨e', List.mem_cons_of_mem e he', hnone⟩
          | some caps =>
              simp only [allowedIncrementalNotionals, hcap, hcaps] at h
              cases h

variable {effect : OrderEffect} {evaluations : List RiskLimitEvaluation}

theorem mem_softBreaches_iff (e : RiskLimitEvaluation) :
    e ∈ softBreaches evaluations ↔ e ∈ evaluations ∧ e.status = .softBreach := by
  simp [softBreaches]

/-- No trade: some soft breach leaves no positive notional. -/
theorem approvalAfterSoftCaps_noTrade
    (h : (approvalAfterSoftCaps r effect evaluations).1 = .noTrade) :
    ∃ e ∈ softBreaches evaluations, ∀ cap, allowedIncrementalNotional r e = some cap →
      cap ≤ 0 := by
  simp only [approvalAfterSoftCaps] at h
  split_ifs at h with hside
  cases hcaps : allowedIncrementalNotionals r (softBreaches evaluations) with
  | none =>
      obtain ⟨e, he, hnone⟩ := exists_uncapped hcaps
      refine ⟨e, he, ?_⟩
      intro cap hcap
      rw [hnone] at hcap
      cases hcap
  | some list =>
      rw [hcaps] at h
      cases list with
      | nil => cases h
      | cons cap caps =>
          have hmin : (cap :: caps).min? = some (caps.foldl min cap) := List.min?_cons'
          obtain ⟨e, he, hallowed⟩ := allowedIncrementalNotionals_right hcaps _
            (List.min?_eq_some_iff.mp hmin).1
          refine ⟨e, he, ?_⟩
          intro cap' hcap'
          rw [hallowed] at hcap'
          cases hcap'
          -- the other branches approve
          by_contra hpos
          dsimp only at h
          rw [if_neg hpos] at h
          split_ifs at h with hfits hquotient
          exact hquotient (div_pos (not_le.mp hpos) r.referencePrice.property)

/-- An approval of the whole buy: every soft breach leaves enough for it. -/
theorem approvalAfterSoftCaps_approved (hbuy : r.orderIntent.side = .buy)
    (hrisk : effect.riskIncreasing = true)
    (h : (approvalAfterSoftCaps r effect evaluations).1 = .approved) :
    ∀ e ∈ softBreaches evaluations, ∃ cap, allowedIncrementalNotional r e = some cap ∧
      (proposedNotional r).val ≤ cap := by
  simp only [approvalAfterSoftCaps] at h
  rw [if_neg (by simp [hbuy, hrisk])] at h
  intro e he
  cases hcaps : allowedIncrementalNotionals r (softBreaches evaluations) with
  | none =>
      rw [hcaps] at h
      cases h
  | some list =>
      obtain ⟨cap, hmem, hcap⟩ := allowedIncrementalNotionals_left hcaps e he
      refine ⟨cap, hcap, ?_⟩
      rw [hcaps] at h
      cases list with
      | nil => cases hmem
      | cons first rest =>
          have hmin : (first :: rest).min? = some (rest.foldl min first) := List.min?_cons'
          have hle := (List.min?_eq_some_iff.mp hmin).2 cap hmem
          dsimp only at h
          split_ifs at h with hnonpos hfits
          exact le_trans hfits hle

/-- Without soft breaches the order is approved as it is. -/
theorem approvalAfterSoftCaps_of_no_soft (h : softBreaches evaluations = []) :
    approvalAfterSoftCaps r effect evaluations = (.approved, some r.orderIntent) := by
  simp only [approvalAfterSoftCaps, h, allowedIncrementalNotionals, ite_self]

variable [Sha256] {p : RiskPolicy}

/-- Only a hard breach rejects. -/
theorem riskDecision_rejected_iff (r : RiskCheckRequest) (p : RiskPolicy) :
    (riskDecision r p).1 = .rejected ↔ hasHardBreach (limitEvaluations r p) = true := by
  simp only [riskDecision]
  split_ifs with hhard
  · exact iff_of_true rfl hhard
  · apply iff_of_false ?_ hhard
    intro hrejected
    rcases approvalAfterSoftCaps_cases r (buildOrderEffect r) (limitEvaluations r p) with
      h | h | ⟨allowed, o, h, -, -⟩
    · rw [h] at hrejected
      cases hrejected
    · rw [h] at hrejected
      cases hrejected
    · rw [h] at hrejected
      cases hrejected

/-- A buy is not rejected when it is within the hard size limits and no other limit rejects it. -/
theorem no_hard_iff (hbuy : r.orderIntent.side = .buy) :
    hasHardBreach (limitEvaluations r p) = false ↔
      WithinHard r p (proposedNotional r).val ∧
        ∀ e ∈ fixedEvaluations r p, e.status ≠ .hardBreach := by
  rw [hasHardBreach_eq_false_iff, ← size_no_hard_iff p hbuy]
  simp only [mem_limitEvaluations_iff]
  constructor
  · intro h
    exact ⟨fun e he => h e (Or.inl he), fun e he => h e (Or.inr he)⟩
  · rintro ⟨hsize, hfixed⟩ e (he | he)
    · exact hsize e he
    · exact hfixed e he

theorem riskDecision_of_no_hard (h : hasHardBreach (limitEvaluations r p) = false) :
    riskDecision r p =
      approvalAfterSoftCaps r (buildOrderEffect r) (limitEvaluations r p) := by
  simp only [riskDecision, h, Bool.false_eq_true, if_false]

/-- A limit that ignores the size leaves no cap. -/
theorem fixed_uncapped {e : RiskLimitEvaluation} (he : e ∈ fixedEvaluations r p) :
    allowedIncrementalNotional r e = none := by
  obtain ⟨limit, hnot, hof⟩ := fixedEvaluations_isEvaluationOf r p he
  exact allowedIncrementalNotional_eq_none hnot hof

/-- A buy approved as it is has no soft breach: a breach would leave less than the order. -/
theorem no_soft_of_approved (hbuy : r.orderIntent.side = .buy)
    (hhard : hasHardBreach (limitEvaluations r p) = false)
    (h : (riskDecision r p).1 = .approved) : softBreaches (limitEvaluations r p) = [] := by
  rw [riskDecision_of_no_hard hhard] at h
  have hwithin := ((no_hard_iff hbuy).mp hhard).1
  have hleft := approvalAfterSoftCaps_approved hbuy (buildOrderEffect_buy hbuy).riskIncreasing h
  rw [List.eq_nil_iff_forall_not_mem]
  intro e he
  obtain ⟨cap, hcap, hle⟩ := hleft e he
  obtain ⟨hmem, hsoft⟩ := (mem_softBreaches_iff e).mp he
  rcases (mem_limitEvaluations_iff r p e).mp hmem with hsize | hfixed
  · obtain ⟨cap', hcap', hlt, -⟩ := cap_of_size_soft hwithin hbuy hsize hsoft
    rw [hcap] at hcap'
    cases hcap'
    exact absurd hle (not_le.mpr hlt)
  · rw [fixed_uncapped hfixed] at hcap
    cases hcap

/-- No soft breach of a buy: it is within the soft size limits, and every other limit passes. -/
theorem no_soft_iff (hbuy : r.orderIntent.side = .buy)
    (hhard : hasHardBreach (limitEvaluations r p) = false) :
    softBreaches (limitEvaluations r p) = [] ↔
      WithinSoft r p (proposedNotional r).val ∧
        ∀ e ∈ fixedEvaluations r p, e.status ≠ .softBreach := by
  have hwithin := ((no_hard_iff hbuy).mp hhard).1
  have hpass : (∀ e ∈ sizeEvaluations r p, e.status ≠ .softBreach) ↔
      ∀ e ∈ sizeEvaluations r p, e.status = .pass := by
    have hno := (hasHardBreach_eq_false_iff _).mp hhard
    constructor
    · intro h e he
      have hsoft := h e he
      have hhard' := hno e (mem_limitEvaluations_of_size r p he)
      cases hstatus : e.status with
      | pass => rfl
      | softBreach => exact absurd hstatus hsoft
      | hardBreach => exact absurd hstatus hhard'
    · intro h e he hsoft
      rw [h e he] at hsoft
      cases hsoft
  rw [← (hpass.trans (size_pass_iff p hbuy)).trans (and_iff_right hwithin),
    List.eq_nil_iff_forall_not_mem]
  simp only [mem_softBreaches_iff, mem_limitEvaluations_iff, not_and]
  constructor
  · intro h
    exact ⟨fun e he => h e (Or.inl he), fun e he => h e (Or.inr he)⟩
  · rintro ⟨hsize, hfixed⟩ e (he | he)
    · exact hsize e he
    · exact hfixed e he

end Decisions

/-! ## Two requests -/

/-- The decision on the smaller order is at least as good, and approves no more. -/
structure MonotoneDecision (larger smaller : RiskCheckEvent) : Prop where
  not_rejected : larger.finalDecision ≠ .rejected → smaller.finalDecision ≠ .rejected
  approved : larger.finalDecision = .approved →
    smaller.finalDecision ≠ .approvedAfterCap ∧ smaller.finalDecision ≠ .noTrade
  capped : larger.finalDecision = .approvedAfterCap → smaller.finalDecision ≠ .noTrade
  quantity_le : ∀ o ∈ larger.approvedOrderIntent, ∀ o' ∈ smaller.approvedOrderIntent,
    o'.quantity.val ≤ o.quantity.val

section TwoRequests

variable [Sha256] {r : RiskCheckRequest} {p : RiskPolicy} {quantity : PositiveDecimal}

theorem proposedNotional_resized_le (hle : quantity.val ≤ r.orderIntent.quantity.val) :
    (proposedNotional (resized r quantity)).val ≤ (proposedNotional r).val :=
  mul_le_mul_of_nonneg_right hle r.referencePrice.property.le

theorem no_hard_resized (hbuy : r.orderIntent.side = .buy)
    (hle : quantity.val ≤ r.orderIntent.quantity.val)
    (hfixed : fixedEvaluations (resized r quantity) p = fixedEvaluations r p)
    (h : hasHardBreach (limitEvaluations r p) = false) :
    hasHardBreach (limitEvaluations (resized r quantity) p) = false := by
  obtain ⟨hwithin, hrest⟩ := (no_hard_iff hbuy).mp h
  refine (no_hard_iff (r := resized r quantity) hbuy).mpr ⟨?_, hfixed ▸ hrest⟩
  exact (withinHard_withOrder_iff quantity _ _).mpr
    (hwithin.antitone (proposedNotional_resized_le hle))

theorem no_soft_resized (hbuy : r.orderIntent.side = .buy)
    (hle : quantity.val ≤ r.orderIntent.quantity.val)
    (hfixed : fixedEvaluations (resized r quantity) p = fixedEvaluations r p)
    (hhard : hasHardBreach (limitEvaluations r p) = false)
    (h : softBreaches (limitEvaluations r p) = []) :
    softBreaches (limitEvaluations (resized r quantity) p) = [] := by
  obtain ⟨hwithin, hrest⟩ := (no_soft_iff hbuy hhard).mp h
  refine (no_soft_iff (r := resized r quantity) hbuy
    (no_hard_resized hbuy hle hfixed hhard)).mpr ⟨?_, hfixed ▸ hrest⟩
  exact (withinSoft_withOrder_iff quantity _ _).mpr
    (hwithin.antitone (proposedNotional_resized_le hle))

/-- A headroom of the larger order is a headroom of the smaller one: fitting the volume cap only
uncovers the depth cap. -/
theorem participationHeadrooms_resized (hle : quantity.val ≤ r.orderIntent.quantity.val)
    {headroom : Decimal} (h : headroom ∈ participationHeadrooms r p) :
    headroom ∈ participationHeadrooms (resized r quantity) p := by
  rw [mem_participationHeadrooms_iff] at h ⊢
  refine h.imp_right ?_
  rintro ⟨hvolume, hdepth⟩
  exact ⟨fun volume hv => le_trans (proposedNotional_resized_le hle) (hvolume volume hv), hdepth⟩

/-- The tightest headroom of the smaller order is at most that of the larger one. -/
theorem tightest_resized_le (hle : quantity.val ≤ r.orderIntent.quantity.val)
    {larger smaller : Decimal} (hlarger : IsTightestHeadroom r p larger)
    (hsmaller : IsTightestHeadroom (resized r quantity) p smaller) : smaller ≤ larger := by
  refine hsmaller.2 larger ?_
  rcases List.mem_append.mp hlarger.1 with hsoft | hparticipation
  · exact List.mem_append_left _ hsoft
  · exact List.mem_append_right _ (participationHeadrooms_resized hle hparticipation)

omit [Sha256] in
/-- A participation check leaves a positive notional: the soft share is never zero. -/
theorem softCapNotional_pos {n : Decimal} {c : LiquidityCheck}
    (h : c ∈ liquidityChecks r p n) : 0 < c.softCapNotional := by
  rcases (mem_liquidityChecks_iff r p n c).mp h with ⟨volume, -, rfl⟩ | ⟨depth, -, rfl⟩
  · exact mul_pos volume.property p.maxParticipation24hQuoteVolumePct.soft.property.1
  · exact mul_pos depth.property p.maxParticipationTopOfBookDepthPct.soft.property.1

omit [Sha256] in
/-- A notional within the soft limits fits every headroom. -/
theorem WithinSoft.le_headroom {n : Decimal} (h : WithinSoft r p n) :
    ∀ headroom ∈ softHeadrooms r p ++ participationHeadrooms r p, n ≤ headroom := by
  intro headroom hmem
  rcases List.mem_append.mp hmem with hsoft | hparticipation
  · obtain ⟨horder, hinstrument, hstrategy, htotal, -⟩ := h
    simp only [softHeadrooms, List.mem_cons, List.not_mem_nil, or_false] at hsoft
    rcases hsoft with rfl | rfl | rfl | rfl
    · exact horder
    · linarith
    · linarith
    · linarith
  · rcases (mem_participationHeadrooms_iff headroom).mp hparticipation with
      ⟨volume, hv, rfl⟩ | ⟨-, depth, hd, rfl⟩
    · exact (liquidityCheck_le_soft_iff _ _ _).mp
        (h.participation _ ((mem_liquidityChecks_iff r p n _).mpr (Or.inl ⟨volume, hv, rfl⟩)))
    · exact (liquidityCheck_le_soft_iff _ _ _).mp
        (h.participation _ ((mem_liquidityChecks_iff r p n _).mpr (Or.inr ⟨depth, hd, rfl⟩)))

/-- A capped buy leaves something to trade at every smaller quantity. -/
theorem not_noTrade_resized (hbuy : r.orderIntent.side = .buy)
    (hle : quantity.val ≤ r.orderIntent.quantity.val)
    (hfixed : fixedEvaluations (resized r quantity) p = fixedEvaluations r p)
    (hhard : hasHardBreach (limitEvaluations r p) = false) {allowed : Decimal}
    (hcapped : SoftCapped r (limitEvaluations r p) allowed) :
    (riskDecision (resized r quantity) p).1 ≠ .noTrade := by
  intro hnone
  have hhard' := no_hard_resized hbuy hle hfixed hhard
  rw [riskDecision_of_no_hard hhard'] at hnone
  obtain ⟨e, he, hnonpos⟩ := approvalAfterSoftCaps_noTrade hnone
  obtain ⟨hmem, hsoft⟩ := (mem_softBreaches_iff e).mp he
  rcases (mem_limitEvaluations_iff _ p e).mp hmem with hsize | hrest
  · obtain ⟨cap, hcap, -, hheadroom | ⟨c, hfind, rfl⟩⟩ :=
      cap_of_size_soft ((no_hard_iff (r := resized r quantity) hbuy).mp hhard').1 hbuy hsize hsoft
    · -- the headroom is one of the larger order, whose allowed notional is positive
      have hallowed := hcapped.le_headroom ((no_hard_iff hbuy).mp hhard).1 cap hheadroom
      linarith [hnonpos cap hcap, hcapped.positive]
    · linarith [hnonpos _ hcap, softCapNotional_pos (List.mem_of_find?_eq_some hfind)]
  · rw [hfixed] at hrest
    obtain ⟨cap, hcap, -⟩ :=
      hcapped.le_cap ((mem_limitEvaluations_iff r p e).mpr (Or.inr hrest)) hsoft
    rw [fixed_uncapped hrest] at hcap
    cases hcap

/-- The quantity approved for the smaller order is at most that approved for the larger one. -/
theorem approved_quantity_resized_le (hbuy : r.orderIntent.side = .buy)
    (hle : quantity.val ≤ r.orderIntent.quantity.val) {d d' : RiskDecisionStatus}
    {o o' : OrderIntent} (h : riskDecision r p = (d, some o))
    (h' : riskDecision (resized r quantity) p = (d', some o')) :
    o'.quantity.val ≤ o.quantity.val := by
  have hprice := r.referencePrice.property
  obtain ⟨hhard, hlarger⟩ := riskDecision_approval h
  obtain ⟨hhard', hsmaller⟩ := riskDecision_approval h'
  have hwithin := ((no_hard_iff hbuy).mp hhard).1
  have hwithin' := ((no_hard_iff (r := resized r quantity) hbuy).mp hhard').1
  rcases hlarger with ⟨-, rfl⟩ | ⟨allowed, -, hcapped, hpos, rfl⟩
  · rcases hsmaller with ⟨-, rfl⟩ | ⟨allowed', -, hcapped', hpos', rfl⟩
    · exact hle
    · refine le_trans ?_ hle
      exact (div_le_iff₀ hprice).mpr hcapped'.below.le
  · have htightest := hcapped.isTightestHeadroom hwithin
    rcases hsmaller with ⟨rfl, rfl⟩ | ⟨allowed', -, hcapped', hpos', rfl⟩
    · -- the smaller order fits every headroom, so also the tightest one of the larger order
      have hsoft := ((no_soft_iff (r := resized r quantity) hbuy hhard').mp
        (no_soft_of_approved hbuy hhard' (by rw [h']))).1
      refine (le_div_iff₀ hprice).mpr (hsoft.le_headroom allowed ?_)
      rcases List.mem_append.mp htightest.1 with hmem | hmem
      · exact List.mem_append_left _ hmem
      · exact List.mem_append_right _ (participationHeadrooms_resized hle hmem)
    · exact (div_le_div_iff_of_pos_right hprice).mpr
        (tightest_resized_le hle htightest (hcapped'.isTightestHeadroom hwithin'))

/-- The risk decision is monotone in the quantity of a buy. -/
theorem risk_decision_monotone {event : RiskCheckEvent} (hbuy : r.orderIntent.side = .buy)
    (hlt : quantity.val < r.orderIntent.quantity.val) (hrecords : MatchesNoRecord r)
    (hrecords' : MatchesNoRecord (resized r quantity))
    (h : evaluatePreTradeRisk r p = .ok event) :
    ∃ event', evaluatePreTradeRisk (resized r quantity) p = .ok event' ∧
      MonotoneDecision event event' := by
  have hle := hlt.le
  have hfixed : fixedEvaluations (resized r quantity) p = fixedEvaluations r p :=
    fixedEvaluations_resized hbuy hrecords hrecords'
  have hfacts := evaluatePreTradeRisk_facts r p h
  have hvalid : (resized r quantity).validate = .ok () := by
    obtain ⟨hfields, -, -⟩ := (RiskCheckRequest.stamping.validate_eq_ok_iff r).mp
      hfacts.request_valid
    exact withOrder_valid hfacts.request_valid quantity
      ((RiskCheckRequest.validateFields_eq_ok_iff r).mp hfields).2.2.2.2.1
  obtain ⟨event', h'⟩ := evaluatePreTradeRisk_total _ p hvalid
  have hdecision := hfacts.decision_eq
  have hdecision' := (evaluatePreTradeRisk_facts _ p h').decision_eq
  have hstatus : event.finalDecision = (riskDecision r p).1 := by rw [← hdecision]
  have hstatus' : event'.finalDecision = (riskDecision (resized r quantity) p).1 := by
    rw [← hdecision']
  have hno : event.finalDecision ≠ .rejected → hasHardBreach (limitEvaluations r p) = false := by
    intro hne
    rw [hstatus, ne_eq, riskDecision_rejected_iff, Bool.not_eq_true] at hne
    exact hne
  refine ⟨event', h', ?_, ?_, ?_, ?_⟩
  · intro hne
    rw [hstatus', ne_eq, riskDecision_rejected_iff, Bool.not_eq_true]
    exact no_hard_resized hbuy hle hfixed (hno hne)
  · intro happroved
    have hhard := hno (by rw [happroved]; nofun)
    have hsoft := no_soft_of_approved hbuy hhard (hstatus ▸ happroved)
    rw [hstatus', riskDecision_of_no_hard (no_hard_resized hbuy hle hfixed hhard),
      approvalAfterSoftCaps_of_no_soft (no_soft_resized hbuy hle hfixed hhard hsoft)]
    exact ⟨nofun, nofun⟩
  · intro hcapped
    have hhard := hno (by rw [hcapped]; nofun)
    rw [hstatus']
    rw [hstatus, riskDecision_of_no_hard hhard] at hcapped
    rcases approvalAfterSoftCaps_cases r (buildOrderEffect r) (limitEvaluations r p) with
      heq | heq | ⟨allowed, o, -, hsoft, -⟩
    · rw [heq] at hcapped
      cases hcapped
    · rw [heq] at hcapped
      cases hcapped
    · exact not_noTrade_resized hbuy hle hfixed hhard hsoft
  · intro o ho o' ho'
    rw [Option.mem_def.mp ho] at hdecision
    rw [Option.mem_def.mp ho'] at hdecision'
    exact approved_quantity_resized_le hbuy hle hdecision.symm hdecision'.symm

end TwoRequests

/-- The buy of 18 lots against a depth of 18000 USD is cut to the 1000 USD of the order cap; at 12
lots it fits the volume cap, and the 900 USD of the depth cap come out of hiding. -/
theorem risk_decision_monotone_hidden_depth : ∃ event event',
    @evaluatePreTradeRisk hashlibSha256 (cappedRequest (some ⟨18000, by decide⟩)) marketPolicy =
      .ok event ∧
    @evaluatePreTradeRisk hashlibSha256
      (@resized hashlibSha256 (cappedRequest (some ⟨18000, by decide⟩)) ⟨12, by decide⟩)
      marketPolicy = .ok event' ∧
    event.approvedOrderIntent = some cutBuy ∧ MonotoneDecision event event' := by
  obtain ⟨event, h, -, ho⟩ := cappedRequest_event (some ⟨18000, by decide⟩) (Or.inr rfl)
  obtain ⟨event', h', hmonotone⟩ := @risk_decision_monotone hashlibSha256 _ _ ⟨12, by decide⟩ _
    rfl (by decide) (fun record hrecord => by cases hrecord)
    (fun record hrecord => by cases hrecord) h
  exact ⟨event, event', h, h', ho, hmonotone⟩

example : (@riskDecision hashlibSha256
    (@resized hashlibSha256 (cappedRequest (some ⟨18000, by decide⟩)) ⟨12, by decide⟩)
    marketPolicy).2.map (fun o => o.quantity.val) = some 9 := by
  decide +kernel

end TaModel.Risk
