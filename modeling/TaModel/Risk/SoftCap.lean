import TaModel.Risk.SizeLimits
import TaModel.Simulation.Conservation

/-!
# Soundness of the soft cap

When the engine approves a buy after a cap, the capped order is evaluated again. Every size limit
then passes, except that `liquidity.participation` hides one of its two checks: when the rolling
volume and the top-of-book depth both breach softly, only the volume caps the order.
`DepthCapped` is the exact condition under which the hidden check does no harm.
-/

set_option autoImplicit false

namespace TaModel.Risk

open Contracts

/-! ## The caps of soft breaches -/

section Caps

variable {r : RiskCheckRequest}

theorem allowedIncrementalNotionals_left {es : List RiskLimitEvaluation} {caps : List Decimal}
    (h : allowedIncrementalNotionals r es = some caps) :
    ∀ e ∈ es, ∃ c ∈ caps, allowedIncrementalNotional r e = some c := by
  induction es generalizing caps with
  | nil => intro e he; cases he
  | cons e es ih =>
      simp only [allowedIncrementalNotionals] at h
      split at h
      case h_1 c cs hc hcs =>
        cases h
        intro e' he'
        rcases List.mem_cons.mp he' with rfl | he'
        · exact ⟨c, List.mem_cons_self, hc⟩
        · obtain ⟨c', hc', hallowed⟩ := ih hcs e' he'
          exact ⟨c', List.mem_cons_of_mem c hc', hallowed⟩
      case h_2 => cases h

theorem allowedIncrementalNotionals_right {es : List RiskLimitEvaluation} {caps : List Decimal}
    (h : allowedIncrementalNotionals r es = some caps) :
    ∀ c ∈ caps, ∃ e ∈ es, allowedIncrementalNotional r e = some c := by
  induction es generalizing caps with
  | nil =>
      cases h
      intro c hc
      cases hc
  | cons e es ih =>
      simp only [allowedIncrementalNotionals] at h
      split at h
      case h_1 c cs hc hcs =>
        cases h
        intro c' hc'
        rcases List.mem_cons.mp hc' with rfl | hc'
        · exact ⟨e, List.mem_cons_self, hc⟩
        · obtain ⟨e', he', hallowed⟩ := ih hcs c' hc'
          exact ⟨e', List.mem_cons_of_mem e he', hallowed⟩
      case h_2 => cases h

variable {evaluations : List RiskLimitEvaluation} {allowed : Decimal}

theorem SoftCapped.min_eq (h : SoftCapped r evaluations allowed) :
    ∃ caps, allowedIncrementalNotionals r (softBreaches evaluations) = some caps ∧
      allowed ∈ caps ∧ ∀ c ∈ caps, allowed ≤ c := by
  obtain ⟨cap, caps, hcaps, hallowed⟩ := h.caps
  have hmin : (cap :: caps).min? = some allowed := by
    rw [List.min?_cons', ← hallowed]
  exact ⟨cap :: caps, hcaps, List.min?_eq_some_iff.mp hmin⟩

/-- The allowed notional is at most the cap of every soft breach. -/
theorem SoftCapped.le_cap (h : SoftCapped r evaluations allowed) {e : RiskLimitEvaluation}
    (he : e ∈ evaluations) (hsoft : e.status = .softBreach) :
    ∃ c, allowedIncrementalNotional r e = some c ∧ allowed ≤ c := by
  obtain ⟨caps, hcaps, -, hle⟩ := h.min_eq
  have hmem : e ∈ softBreaches evaluations := List.mem_filter.mpr ⟨he, decide_eq_true hsoft⟩
  obtain ⟨c, hc, hcap⟩ := allowedIncrementalNotionals_left hcaps e hmem
  exact ⟨c, hcap, hle c hc⟩

/-- The allowed notional is the cap of some soft breach. -/
theorem SoftCapped.exists_cap (h : SoftCapped r evaluations allowed) :
    ∃ e ∈ evaluations, e.status = .softBreach ∧
      allowedIncrementalNotional r e = some allowed := by
  obtain ⟨caps, hcaps, hmem, -⟩ := h.min_eq
  obtain ⟨e, he, hcap⟩ := allowedIncrementalNotionals_right hcaps allowed hmem
  obtain ⟨heval, hsoft⟩ := List.mem_filter.mp he
  exact ⟨e, heval, of_decide_eq_true hsoft, hcap⟩

/-- A limit that ignores the size of the order leaves no cap. -/
theorem allowedIncrementalNotional_eq_none {limit : LimitId} {e : RiskLimitEvaluation}
    (hlimit : limit ∉ sizeLimits) (he : IsEvaluationOf limit e) :
    allowedIncrementalNotional r e = none := by
  have hne : ∀ other ∈ sizeLimits, e.limitId ≠ other.value := by
    intro other hother hvalue
    rw [he.limitId_eq] at hvalue
    exact hlimit (LimitId.value_injective hvalue ▸ hother)
  simp only [sizeLimits, List.forall_mem_cons, List.not_mem_nil, false_implies, implies_true,
    and_true] at hne
  obtain ⟨horder, hinstrument, hstrategy, htotal, hliquidity⟩ := hne
  simp only [allowedIncrementalNotional]
  split
  · rw [if_neg horder, if_neg hliquidity, if_neg hinstrument, if_neg hstrategy,
      if_neg fun h => htotal h.1]
  · rfl

end Caps

/-! ## What a soft breach of each size limit leaves -/

section Headrooms

variable (r : RiskCheckRequest) (p : RiskPolicy)

/-- The notional the soft order and exposure limits leave for a buy. -/
def softHeadrooms : List Decimal :=
  [ p.paperNav.val * p.maxOrderNotionalPct.soft.val,
    p.paperNav.val * p.maxInstrumentExposurePct.soft.val -
      r.currentInstrumentExposureNotional.val,
    p.paperNav.val * p.maxStrategyExposurePct.soft.val - r.currentStrategyExposureNotional.val,
    p.paperNav.val * p.maxTotalSpotExposurePct.soft.val -
      r.currentTotalSpotExposureNotional.val ]

variable {r p}

/-- The limit a headroom belongs to, what the limit already counts, and its soft threshold. -/
structure Capped (r : RiskCheckRequest) (limit : LimitId) (reason : RiskReasonCode)
    (base : Decimal) : Prop where
  cap_eq : ∀ currentValue hard soft cap,
    allowedIncrementalNotional r
      (evaluation limit currentValue hard (some .softBreach) reason soft (some cap)) =
      some (cap - base)

theorem capped_order : Capped r .orderMaxNotional .orderMaxNotionalSoft 0 :=
  ⟨fun _ _ _ _ => by simp [allowedIncrementalNotional]⟩

theorem capped_liquidity : Capped r .liquidityParticipation .liquidityParticipationSoft 0 :=
  ⟨fun _ _ _ _ => by simp [allowedIncrementalNotional, LimitId.value]⟩

theorem capped_instrument :
    Capped r .positionInstrumentExposure .positionInstrumentExposureSoft
      r.currentInstrumentExposureNotional.val :=
  ⟨fun _ _ _ _ => by simp [allowedIncrementalNotional, LimitId.value]⟩

theorem capped_strategy :
    Capped r .positionStrategyExposure .positionStrategyExposureSoft
      r.currentStrategyExposureNotional.val :=
  ⟨fun _ _ _ _ => by simp [allowedIncrementalNotional, LimitId.value]⟩

theorem capped_total :
    Capped r .positionTotalSpotExposure .positionTotalSpotExposureSoft
      r.currentTotalSpotExposureNotional.val :=
  ⟨fun _ _ _ _ => by simp [allowedIncrementalNotional, LimitId.value]⟩

/-- The cap of a threshold that breaches softly. -/
theorem Capped.threshold {limit : LimitId} {reason hardReason : RiskReasonCode} {base : Decimal}
    (h : Capped r limit reason base) {value soft hard : Decimal}
    (hsoft : (thresholdEvaluation limit value soft hard reason hardReason).status =
      .softBreach) :
    allowedIncrementalNotional r (thresholdEvaluation limit value soft hard reason hardReason) =
      some (soft - base) := by
  obtain ⟨-, -, heq⟩ := threshold_soft hsoft
  rw [heq]
  exact h.cap_eq _ _ _ _

variable [Sha256] {allowed : Decimal}

/-- The allowed notional fits under a threshold limit, whether or not the limit is breached. -/
theorem SoftCapped.threshold_le (h : SoftCapped r (limitEvaluations r p) allowed)
    {limit : LimitId} {reason hardReason : RiskReasonCode} {base soft hard : Decimal}
    (hcapped : Capped r limit reason base)
    (hmem : thresholdEvaluation limit (base + (proposedNotional r).val) soft hard reason
      hardReason ∈ limitEvaluations r p)
    (hhard : base + (proposedNotional r).val ≤ hard) : base + allowed ≤ soft := by
  by_cases hbreach : soft < base + (proposedNotional r).val
  · have hsoft : (thresholdEvaluation limit (base + (proposedNotional r).val) soft hard reason
        hardReason).status = .softBreach := by
      simp [thresholdEvaluation, not_lt.mpr hhard, hbreach]
    obtain ⟨c, hc, hle⟩ := h.le_cap hmem hsoft
    rw [hcapped.threshold hsoft] at hc
    cases hc
    linarith
  · have hbelow := h.below
    linarith [not_lt.mp hbreach]

end Headrooms

/-! ## The first participation check that breaches -/

/-- The order passes the depth check after the cap: unless the rolling volume breaches softly and
leaves more than the depth does, and so does every other soft size limit. -/
def DepthCapped (r : RiskCheckRequest) (p : RiskPolicy) : Prop :=
  ∀ volume ∈ r.liquidityRisk.rolling24hQuoteVolumeNotional,
    ∀ depth ∈ r.liquidityRisk.topOfBookDepthNotional,
      volume.val * p.maxParticipation24hQuoteVolumePct.soft.val < (proposedNotional r).val →
      ∃ headroom ∈ volume.val * p.maxParticipation24hQuoteVolumePct.soft.val :: softHeadrooms r p,
        headroom ≤ depth.val * p.maxParticipationTopOfBookDepthPct.soft.val

section Participation

variable {r : RiskCheckRequest} {p : RiskPolicy}

/-- The participation evaluation of a buy within the hard limits. -/
theorem participation_of_within {n : Decimal} (hhard : WithinHard r p n)
    (hbuy : r.orderIntent.side = .buy) :
    liquidityParticipationEvaluation r p (buildOrderEffect r) =
      participationEvaluation p (liquidityChecks r p (proposedNotional r).val) := by
  simp only [liquidityParticipationEvaluation, if_neg hhard.depth,
    (buildOrderEffect_buy hbuy).notional]

variable [Sha256] {allowed : Decimal}

/-- The first check that breaches softly caps the order. -/
theorem SoftCapped.le_first_check (h : SoftCapped r (limitEvaluations r p) allowed)
    (hhard : WithinHard r p (proposedNotional r).val) {c : LiquidityCheck}
    (hfind : (liquidityChecks r p (proposedNotional r).val).find?
      (fun c => decide (c.softThreshold < c.currentValue)) = some c) :
    allowed ≤ c.softCapNotional := by
  have heval := participation_of_find p _ hhard.participation hfind
  have hmem : liquidityParticipationEvaluation r p (buildOrderEffect r) ∈
      limitEvaluations r p := by simp [limitEvaluations]
  rw [participation_of_within hhard h.side_buy, heval] at hmem
  obtain ⟨cap, hcap, hle⟩ := h.le_cap hmem rfl
  rw [capped_liquidity.cap_eq, sub_zero] at hcap
  cases hcap
  exact hle

omit [Sha256] in
/-- What a soft breach of a size limit leaves is less than the order: one of the soft headrooms, or
the cap of the first participation check that breaches. -/
theorem cap_of_size_soft (hhard : WithinHard r p (proposedNotional r).val)
    (hbuy : r.orderIntent.side = .buy) {e : RiskLimitEvaluation} (he : e ∈ sizeEvaluations r p)
    (hsoft : e.status = .softBreach) :
    ∃ cap, allowedIncrementalNotional r e = some cap ∧ cap < (proposedNotional r).val ∧
      (cap ∈ softHeadrooms r p ∨
        ∃ c, (liquidityChecks r p (proposedNotional r).val).find?
          (fun c => decide (c.softThreshold < c.currentValue)) = some c ∧
          cap = c.softCapNotional) := by
  simp only [sizeEvaluations, List.mem_cons, List.not_mem_nil, or_false,
    orderNotional_buy p hbuy, instrumentExposure_buy p hbuy, strategyExposure_buy p hbuy,
    totalSpotExposure_buy_of_cash p hbuy _ hhard.cash,
    participation_of_within hhard hbuy] at he
  rcases he with rfl | rfl | rfl | rfl | rfl
  · obtain ⟨hbreach, -, -⟩ := threshold_soft hsoft
    refine ⟨_, capped_order.threshold hsoft, by linarith, Or.inl ?_⟩
    rw [sub_zero]
    simp [softHeadrooms]
  · obtain ⟨hbreach, -, -⟩ := threshold_soft hsoft
    exact ⟨_, capped_instrument.threshold hsoft, by linarith, Or.inl (by simp [softHeadrooms])⟩
  · obtain ⟨hbreach, -, -⟩ := threshold_soft hsoft
    exact ⟨_, capped_strategy.threshold hsoft, by linarith, Or.inl (by simp [softHeadrooms])⟩
  · obtain ⟨hbreach, -, -⟩ := threshold_soft hsoft
    exact ⟨_, capped_total.threshold hsoft, by linarith, Or.inl (by simp [softHeadrooms])⟩
  · obtain ⟨c, hfind⟩ := participation_soft p _ hsoft
    have hbreach : c.softThreshold < c.currentValue := by simpa using List.find?_some hfind
    rw [participation_of_find p _ hhard.participation hfind, capped_liquidity.cap_eq, sub_zero]
    refine ⟨_, rfl, ?_, Or.inr ⟨c, hfind, rfl⟩⟩
    rcases (mem_liquidityChecks_iff r p _ c).mp (List.mem_of_find?_eq_some hfind) with
      ⟨volume, -, rfl⟩ | ⟨depth, -, rfl⟩
    · exact (liquidityCheck_breach_iff _ _ _).mp hbreach
    · exact (liquidityCheck_breach_iff _ _ _).mp hbreach

/-- The allowed notional is one of the soft headrooms, or the cap of the first participation check
that breaches. -/
theorem SoftCapped.mem_headrooms (h : SoftCapped r (limitEvaluations r p) allowed)
    (hhard : WithinHard r p (proposedNotional r).val) :
    allowed ∈ softHeadrooms r p ∨
      ∃ c, (liquidityChecks r p (proposedNotional r).val).find?
        (fun c => decide (c.softThreshold < c.currentValue)) = some c ∧
        allowed = c.softCapNotional := by
  obtain ⟨e, he, hsoft, hcap⟩ := h.exists_cap
  rcases limitEvaluations_cases r p he with hsize | ⟨limit, hnot, hof⟩
  · obtain ⟨cap, hcap', -, hmem⟩ := cap_of_size_soft hhard h.side_buy hsize hsoft
    rw [hcap'] at hcap
    cases hcap
    exact hmem
  · rw [allowedIncrementalNotional_eq_none hnot hof] at hcap
    cases hcap

/-- The allowed notional is at most every soft headroom. -/
theorem SoftCapped.le_headroom (h : SoftCapped r (limitEvaluations r p) allowed)
    (hhard : WithinHard r p (proposedNotional r).val) :
    ∀ headroom ∈ softHeadrooms r p, allowed ≤ headroom := by
  have hbuy := h.side_buy
  have hordermem : thresholdEvaluation .orderMaxNotional (0 + (proposedNotional r).val)
      (p.paperNav.val * p.maxOrderNotionalPct.soft.val) (orderNotionalHard p (metadataView r))
      .orderMaxNotionalSoft .orderMaxNotionalHard ∈ limitEvaluations r p := by
    rw [zero_add, ← orderNotional_buy p hbuy]
    simp [limitEvaluations]
  have horder := h.threshold_le capped_order hordermem (by simpa using hhard.order)
  have hinstrument := h.threshold_le capped_instrument
    (by rw [← instrumentExposure_buy p hbuy]; simp [limitEvaluations]) hhard.instrument
  have hstrategy := h.threshold_le capped_strategy
    (by rw [← strategyExposure_buy p hbuy]; simp [limitEvaluations]) hhard.strategy
  have htotal := h.threshold_le capped_total
    (by rw [← totalSpotExposure_buy_of_cash p hbuy _ hhard.cash]; simp [limitEvaluations])
    hhard.total
  simp only [softHeadrooms, List.forall_mem_cons, List.not_mem_nil, false_implies, implies_true,
    and_true]
  refine ⟨?_, ?_, ?_, ?_⟩
  · linarith
  · linarith
  · linarith
  · linarith

/-- The depth check after the cap: within the soft share exactly under `DepthCapped`. -/
theorem SoftCapped.le_depth_iff (h : SoftCapped r (limitEvaluations r p) allowed)
    (hhard : WithinHard r p (proposedNotional r).val) :
    (∀ depth ∈ r.liquidityRisk.topOfBookDepthNotional,
      allowed ≤ depth.val * p.maxParticipationTopOfBookDepthPct.soft.val) ↔ DepthCapped r p := by
  constructor
  · intro hfits volume hv depth hd hbreach
    -- the volume check hides the depth check, so the cap came from somewhere else
    rcases h.mem_headrooms hhard with hmem | ⟨c, hfind, hallowed⟩
    · exact ⟨allowed, List.mem_cons_of_mem _ hmem, hfits depth hd⟩
    · rw [find_volume_check p hv hbreach] at hfind
      cases hfind
      refine ⟨_, List.mem_cons_self, ?_⟩
      rw [← show allowed = volume.val * p.maxParticipation24hQuoteVolumePct.soft.val from hallowed]
      exact hfits depth hd
  · intro hcapped depth hd
    by_cases hdepth : depth.val * p.maxParticipationTopOfBookDepthPct.soft.val <
        (proposedNotional r).val
    · by_cases hvolume : ∀ volume ∈ r.liquidityRisk.rolling24hQuoteVolumeNotional,
          (proposedNotional r).val ≤ volume.val * p.maxParticipation24hQuoteVolumePct.soft.val
      · exact h.le_first_check hhard (find_depth_check p hvolume hd hdepth)
      · push Not at hvolume
        obtain ⟨volume, hv, hbreach⟩ := hvolume
        obtain ⟨headroom, hmem, hle⟩ := hcapped volume hv depth hd hbreach
        refine le_trans ?_ hle
        rcases List.mem_cons.mp hmem with rfl | hmem
        · exact h.le_first_check hhard (find_volume_check p hv hbreach)
        · exact h.le_headroom hhard headroom hmem
    · exact le_trans h.below.le (not_lt.mp hdepth)

/-- The volume check always passes after the cap. -/
theorem SoftCapped.le_volume (h : SoftCapped r (limitEvaluations r p) allowed)
    (hhard : WithinHard r p (proposedNotional r).val) {volume : PositiveDecimal}
    (hv : volume ∈ r.liquidityRisk.rolling24hQuoteVolumeNotional) :
    allowed ≤ volume.val * p.maxParticipation24hQuoteVolumePct.soft.val := by
  by_cases hbreach : volume.val * p.maxParticipation24hQuoteVolumePct.soft.val <
      (proposedNotional r).val
  · exact h.le_first_check hhard (find_volume_check p hv hbreach)
  · exact le_trans h.below.le (not_lt.mp hbreach)

/-- The allowed notional is within every soft size limit exactly under `DepthCapped`. -/
theorem SoftCapped.withinSoft_iff (h : SoftCapped r (limitEvaluations r p) allowed)
    (hhard : WithinHard r p (proposedNotional r).val) :
    WithinSoft r p allowed ↔ DepthCapped r p := by
  rw [← h.le_depth_iff hhard]
  constructor
  · intro hsoft depth hd
    exact (liquidityCheck_le_soft_iff _ _ _).mp
      (hsoft.participation _ ((mem_liquidityChecks_iff r p _ _).mpr (Or.inr ⟨depth, hd, rfl⟩)))
  · intro hdepth
    have hle := h.le_headroom hhard
    simp only [softHeadrooms, List.forall_mem_cons, List.not_mem_nil, false_implies,
      implies_true, and_true] at hle
    obtain ⟨horder, hinstrument, hstrategy, htotal⟩ := hle
    refine ⟨horder, by linarith, by linarith, by linarith, ?_⟩
    intro c hc
    rcases (mem_liquidityChecks_iff r p _ _).mp hc with ⟨volume, hv, rfl⟩ | ⟨depth, hd, rfl⟩
    · exact (liquidityCheck_le_soft_iff _ _ _).mpr (h.le_volume hhard hv)
    · exact (liquidityCheck_le_soft_iff _ _ _).mpr (hdepth depth hd)

end Participation

/-! ## Evaluating the capped order again -/

section Reevaluation

variable [Sha256]

/-- The same request for another order and other idempotency records, with hash and id rebuilt. -/
def withOrder (r : RiskCheckRequest) (o : OrderIntent) (records : List OrderIdempotencyRecord) :
    RiskCheckRequest :=
  RiskCheckRequest.stamping.sealed { r with orderIntent := o, idempotencyRecords := records }

/-- What a capped intent owes the request it was cut from: it differs in quantity only, it is
smaller, and evaluated in the same request every size limit passes, both participation checks
included. -/
structure SoftCapSound (r : RiskCheckRequest) (p : RiskPolicy) (o : OrderIntent) : Prop where
  only_quantity : o = r.orderIntent.withQuantity o.quantity
  positive : 0 < o.quantity.val
  smaller : o.quantity.val < r.orderIntent.quantity.val
  passes : ∀ records : List OrderIdempotencyRecord,
    (∀ record ∈ records, record.validate = .ok ()) →
    ∃ event, evaluatePreTradeRisk (withOrder r o records) p = .ok event ∧
      (∀ e ∈ event.limitEvaluations, e.limitId ∈ sizeLimits.map LimitId.value →
        e.status = .pass) ∧
      ∀ c ∈ liquidityChecks r p (o.quantity.val * r.referencePrice.val),
        c.currentValue ≤ c.softThreshold ∧ c.currentValue ≤ c.hardThreshold

variable {r : RiskCheckRequest} {p : RiskPolicy}

/-- A request stays valid when its order changes quantity. -/
theorem withOrder_valid (hr : r.validate = .ok ()) (quantity : PositiveDecimal)
    {records : List OrderIdempotencyRecord}
    (hrecords : ∀ record ∈ records, record.validate = .ok ()) :
    (withOrder r (r.orderIntent.withQuantity quantity) records).validate = .ok () := by
  obtain ⟨hfields, -, -⟩ := (RiskCheckRequest.stamping.validate_eq_ok_iff r).mp hr
  obtain ⟨hids, hstrings, hsnapshot, hkill, -, htime, htrace, hdecision, hsubmitted, hmem⟩ :=
    (RiskCheckRequest.validateFields_eq_ok_iff r).mp hfields
  exact (RiskCheckRequest.stamping.validate_sealed _).mpr
    ((RiskCheckRequest.validateFields_eq_ok_iff _).mpr
      ⟨hids, hstrings, hsnapshot, hkill, hrecords, htime, htrace, hdecision, hsubmitted, hmem⟩)

theorem withinHard_withOrder_iff (quantity : PositiveDecimal)
    (records : List OrderIdempotencyRecord) (n : Decimal) :
    WithinHard (withOrder r (r.orderIntent.withQuantity quantity) records) p n ↔
      WithinHard r p n :=
  ⟨fun h => ⟨h.order, h.instrument, h.strategy, h.cash, h.total, h.depth, h.participation⟩,
    fun h => ⟨h.order, h.instrument, h.strategy, h.cash, h.total, h.depth, h.participation⟩⟩

theorem withinSoft_withOrder_iff (quantity : PositiveDecimal)
    (records : List OrderIdempotencyRecord) (n : Decimal) :
    WithinSoft (withOrder r (r.orderIntent.withQuantity quantity) records) p n ↔
      WithinSoft r p n :=
  ⟨fun h => ⟨h.order, h.instrument, h.strategy, h.total, h.participation⟩,
    fun h => ⟨h.order, h.instrument, h.strategy, h.total, h.participation⟩⟩

/-- The size limits of the re-evaluated order pass exactly when its notional is within them. -/
theorem withOrder_passes_iff (hr : r.validate = .ok ()) (hbuy : r.orderIntent.side = .buy)
    (quantity : PositiveDecimal) {records : List OrderIdempotencyRecord}
    (hrecords : ∀ record ∈ records, record.validate = .ok ()) :
    (∃ event, evaluatePreTradeRisk (withOrder r (r.orderIntent.withQuantity quantity) records) p =
        .ok event ∧
      ∀ e ∈ event.limitEvaluations, e.limitId ∈ sizeLimits.map LimitId.value → e.status = .pass) ↔
      WithinHard r p (quantity.val * r.referencePrice.val) ∧
        WithinSoft r p (quantity.val * r.referencePrice.val) := by
  have hbuy' : (withOrder r (r.orderIntent.withQuantity quantity) records).orderIntent.side =
      .buy := hbuy
  have hpass := size_pass_iff p hbuy'
  rw [withinHard_withOrder_iff, withinSoft_withOrder_iff] at hpass
  refine Iff.trans ?_ hpass
  constructor
  · rintro ⟨event, hevent, hsizes⟩ e he
    rw [(evaluatePreTradeRisk_facts _ _ hevent).limitEvaluations_eq] at hsizes
    obtain ⟨hmem, hname⟩ := (mem_sizeEvaluations_iff _ p e).mp he
    exact hsizes e hmem hname
  · intro hsizes
    obtain ⟨event, hevent⟩ := evaluatePreTradeRisk_total _ p (withOrder_valid hr quantity hrecords)
    refine ⟨event, hevent, ?_⟩
    rw [(evaluatePreTradeRisk_facts _ _ hevent).limitEvaluations_eq]
    intro e hmem hname
    exact hsizes e ((mem_sizeEvaluations_iff _ p e).mpr ⟨hmem, hname⟩)

/-- What an event approved after a cap says about its request and its intent. -/
theorem approvedAfterCap_facts {event : RiskCheckEvent} {o : OrderIntent}
    (h : evaluatePreTradeRisk r p = .ok event) (hcap : event.finalDecision = .approvedAfterCap)
    (ho : event.approvedOrderIntent = some o) :
    WithinHard r p (proposedNotional r).val ∧
      ∃ allowed, SoftCapped r (limitEvaluations r p) allowed ∧ IsCutTo r allowed o := by
  have hdecision := (evaluatePreTradeRisk_facts r p h).decision_eq.symm
  rw [hcap, ho] at hdecision
  obtain ⟨hhard, ⟨hne, -⟩ | ⟨allowed, -, hsoft, hcut⟩⟩ := riskDecision_approval hdecision
  · cases hne
  · refine ⟨(size_no_hard_iff p hsoft.side_buy).mp ?_, allowed, hsoft, hcut⟩
    intro e he
    exact (hasHardBreach_eq_false_iff _).mp hhard e (mem_limitEvaluations_of_size r p he)

/-- The soft cap is sound exactly when the depth check is not hidden behind a looser cap. -/
theorem softCapSound_iff_of_capped (hr : r.validate = .ok ())
    (hhard : WithinHard r p (proposedNotional r).val) {allowed : Decimal}
    (hsoft : SoftCapped r (limitEvaluations r p) allowed) {o : OrderIntent}
    (hcut : IsCutTo r allowed o) : SoftCapSound r p o ↔ DepthCapped r p := by
  obtain ⟨hpos, rfl⟩ := hcut
  have hprice := r.referencePrice.property
  have hnotional : allowed / r.referencePrice.val * r.referencePrice.val = allowed :=
    div_mul_cancel₀ allowed hprice.ne'
  have hsmaller : allowed / r.referencePrice.val < r.orderIntent.quantity.val :=
    (div_lt_iff₀ hprice).mpr hsoft.below
  have hhard' : WithinHard r p allowed := hhard.antitone hsoft.below.le
  rw [← hsoft.withinSoft_iff hhard]
  constructor
  · intro hsound
    obtain ⟨event, hevent, hsizes, -⟩ := hsound.passes [] (fun _ hrecord => by cases hrecord)
    have hwithin := (withOrder_passes_iff hr hsoft.side_buy _
      (fun _ hrecord => by cases hrecord)).mp ⟨event, hevent, hsizes⟩
    rw [hnotional] at hwithin
    exact hwithin.2
  · intro hwithin
    refine ⟨rfl, hpos, hsmaller, ?_⟩
    intro records hrecords
    obtain ⟨event, hevent, hsizes⟩ := (withOrder_passes_iff hr hsoft.side_buy
      ⟨allowed / r.referencePrice.val, hpos⟩ hrecords).mpr (by
        rw [hnotional]
        exact ⟨hhard', hwithin⟩)
    refine ⟨event, hevent, hsizes, ?_⟩
    show ∀ c ∈ liquidityChecks r p (allowed / r.referencePrice.val * r.referencePrice.val), _
    rw [hnotional]
    exact fun c hc => ⟨hwithin.participation c hc, hhard'.participation c hc⟩

/-- Soft-cap soundness, with its exact condition: a capped order passes every size limit when it
is evaluated again if and only if the depth check was not hidden behind a looser cap. -/
theorem soft_cap_sound_iff {event : RiskCheckEvent} {o : OrderIntent}
    (h : evaluatePreTradeRisk r p = .ok event) (hcap : event.finalDecision = .approvedAfterCap)
    (ho : event.approvedOrderIntent = some o) : SoftCapSound r p o ↔ DepthCapped r p := by
  have hr := (evaluatePreTradeRisk_facts r p h).request_valid
  obtain ⟨hhard, allowed, hsoft, hcut⟩ := approvedAfterCap_facts h hcap ho
  exact softCapSound_iff_of_capped hr hhard hsoft hcut

end Reevaluation

/-! ## Two capped orders

The account limits are the loosest ones, so the order cap is 1000 USD. -/

section CappedOrders

open Simulation

/-- A buy of `BTC-USD` for 1800 USD. -/
def cappedBuy : OrderIntent := marketOrder "ORDER-1" "BTC-USD" .buy ⟨18, by decide⟩ 0

/-- Telemetry with a rolling volume of 300000 USD and, possibly, a top-of-book depth. -/
def volumeAndDepth (depth : Option PositiveDecimal) : LiquidityRiskTelemetry :=
  { rolling24hQuoteVolumeNotional := some ⟨300000, by decide⟩, topOfBookDepthNotional := depth }

/-- The request to send `cappedBuy` against a depth. -/
def cappedRequest (depth : Option PositiveDecimal) : RiskCheckRequest :=
  @marketRequest hashlibSha256 loosestLimits .clear cappedBuy (volumeAndDepth depth) {}

theorem cappedRequest_valid (depth : Option PositiveDecimal) :
    @RiskCheckRequest.validate hashlibSha256 (cappedRequest depth) = .ok () :=
  @marketRequest_valid hashlibSha256 _ (ok_unit_of_toBool _ (by decide)) .clear cappedBuy
    (le_refl _) (by decide) _ _

/-- `cappedBuy` cut to the 1000 USD of the order cap. -/
def cutBuy : OrderIntent := cappedBuy.withQuantity ⟨10, by decide⟩

theorem cappedRequest_decision (depth : Option PositiveDecimal)
    (hdepth : depth = none ∨ depth = some ⟨18000, by decide⟩) :
    @riskDecision hashlibSha256 (cappedRequest depth) marketPolicy =
      (.approvedAfterCap, some cutBuy) := by
  rcases hdepth with rfl | rfl
  · decide +kernel
  · decide +kernel

theorem cappedRequest_event (depth : Option PositiveDecimal)
    (hdepth : depth = none ∨ depth = some ⟨18000, by decide⟩) :
    ∃ event, @evaluatePreTradeRisk hashlibSha256 (cappedRequest depth) marketPolicy = .ok event ∧
      event.finalDecision = .approvedAfterCap ∧ event.approvedOrderIntent = some cutBuy := by
  obtain ⟨event, hevent⟩ := @evaluatePreTradeRisk_total hashlibSha256 _ marketPolicy
    (cappedRequest_valid depth)
  obtain ⟨-, -, -, -, hdecision, -⟩ := @evaluatePreTradeRisk_facts hashlibSha256 _ _ _ hevent
  rw [cappedRequest_decision depth hdepth] at hdecision
  obtain ⟨hcap, ho⟩ := Prod.mk.inj hdecision
  exact ⟨event, hevent, hcap, ho⟩

/-- Without a depth figure the capped order passes every size limit. -/
theorem soft_cap_sound_without_depth :
    ∃ event, @evaluatePreTradeRisk hashlibSha256 (cappedRequest none) marketPolicy = .ok event ∧
      event.approvedOrderIntent = some cutBuy ∧
      @SoftCapSound hashlibSha256 (cappedRequest none) marketPolicy cutBuy := by
  obtain ⟨event, hevent, hcap, ho⟩ := cappedRequest_event none (Or.inl rfl)
  refine ⟨event, hevent, ho,
    (@soft_cap_sound_iff hashlibSha256 _ _ _ _ hevent hcap ho).mpr ?_⟩
  intro volume hv depth hd
  cases hd

/-- Against a depth of 18000 USD the capped order breaches the depth limit softly: 1000 USD are
more than the 900 USD the depth limit leaves, and the looser volume cap hid it. -/
theorem soft_cap_breaches_depth :
    ∃ event, @evaluatePreTradeRisk hashlibSha256 (cappedRequest (some ⟨18000, by decide⟩))
        marketPolicy = .ok event ∧
      event.finalDecision = .approvedAfterCap ∧ event.approvedOrderIntent = some cutBuy ∧
      ¬ @SoftCapSound hashlibSha256 (cappedRequest (some ⟨18000, by decide⟩)) marketPolicy
        cutBuy := by
  obtain ⟨event, hevent, hcap, ho⟩ := cappedRequest_event (some ⟨18000, by decide⟩) (Or.inr rfl)
  refine ⟨event, hevent, hcap, ho, ?_⟩
  intro hsound
  have hr := cappedRequest_valid (some ⟨18000, by decide⟩)
  obtain ⟨hhard, allowed, hsoft, hcut⟩ :=
    @approvedAfterCap_facts hashlibSha256 _ _ _ _ hevent hcap ho
  have hcapped :=
    (@softCapSound_iff_of_capped hashlibSha256 _ _ hr hhard _ hsoft _ hcut).mp hsound
  obtain ⟨headroom, hmem, hle⟩ := hcapped ⟨300000, by decide⟩ rfl ⟨18000, by decide⟩ rfl
    (by decide +kernel)
  have habove : ∀ headroom ∈
      (300000 : ℚ) * marketPolicy.maxParticipation24hQuoteVolumePct.soft.val ::
        softHeadrooms (cappedRequest (some ⟨18000, by decide⟩)) marketPolicy,
      18000 * marketPolicy.maxParticipationTopOfBookDepthPct.soft.val < headroom := by
    decide +kernel
  exact absurd hle (not_le.mpr (habove headroom hmem))

end CappedOrders

end TaModel.Risk
