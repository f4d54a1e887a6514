import TaModel.Contracts.PayloadLaws
import TaModel.Library.View
import TaModel.Risk.Decision

/-!
# The hashes of a request and a policy cover what the engine reads

The hashed payload of a request leaves out fields of the instrument master, and may confuse two data
health channels of one name. `SameEvidence` lists what it does determine; the evaluations and the
capping step read nothing else. A policy is determined by its payload altogether.
-/

set_option autoImplicit false

namespace TaModel.Risk

open Contracts Library

/-! ## What the payload of the instrument master determines -/

section InstrumentMaster

theorem sameVenue_of_riskPayload {a b : Venue} (h : a.riskPayload = b.riskPayload) :
    a.venueId = b.venueId ∧ a.status = b.status := by
  have hfields := Payload.record.inj h
  simp only [List.cons.injEq, Prod.mk.injEq, true_and, and_true] at hfields
  obtain ⟨hstatus, -, hid⟩ := hfields
  exact ⟨toPayload_injective _ _ hid, toPayload_injective _ _ hstatus⟩

/-- The sorted texts of a set of order types tell whether it has market orders. -/
theorem market_mem_sortedOrderTypes (types : List Contracts.OrderType) :
    OrderType.market ∈ types ↔ "market" ∈ sortedOrderTypes types := by
  constructor
  · intro h
    exact List.mem_map.mpr
      ⟨.market, List.mem_filter.mpr ⟨by decide, decide_eq_true h⟩, rfl⟩
  · intro h
    obtain ⟨type, htype, hvalue⟩ := List.mem_map.mp h
    cases type with
    | market => exact of_decide_eq_true (List.mem_filter.mp htype).2
    | limit => exact absurd hvalue (by decide)
    | postOnlyLimit => exact absurd hvalue (by decide)

theorem placeOrders_mem_sortedPermissions (permissions : List TradingPermission) :
    TradingPermission.placeOrders ∈ permissions ↔
      "place_orders" ∈ sortedPermissions permissions := by
  constructor
  · intro h
    exact List.mem_map.mpr
      ⟨.placeOrders, List.mem_filter.mpr ⟨by decide, decide_eq_true h⟩, rfl⟩
  · intro h
    obtain ⟨permission, hpermission, hvalue⟩ := List.mem_map.mp h
    cases permission with
    | placeOrders => exact of_decide_eq_true (List.mem_filter.mp hpermission).2
    | readMarketData => exact absurd hvalue (by decide)
    | viewBalances => exact absurd hvalue (by decide)
    | cancelOrders => exact absurd hvalue (by decide)

/-- The fields of an instrument that the engine reads. -/
structure SameInstrument (a b : Instrument) : Prop where
  instrumentId : a.instrumentId = b.instrumentId
  venueId : a.venueId = b.venueId
  instrumentType : a.instrumentType = b.instrumentType
  status : a.status = b.status
  market : OrderType.market ∈ a.supportedOrderTypes ↔ OrderType.market ∈ b.supportedOrderTypes
  isDerivative : a.isDerivative = b.isDerivative
  marginAllowed : a.marginAllowed = b.marginAllowed
  shortSellingAllowed : a.shortSellingAllowed = b.shortSellingAllowed
  leverageAllowed : a.leverageAllowed = b.leverageAllowed

theorem sameInstrument_of_riskPayload {a b : Instrument} (h : a.riskPayload = b.riskPayload) :
    SameInstrument a b := by
  have htype : ∀ x y : InstrumentType, x.value = y.value → x = y := by
    intro x y
    cases x <;> cases y <;> simp [InstrumentType.value]
  have hstatus : ∀ x y : InstrumentStatus, x.value = y.value → x = y := by
    intro x y
    cases x <;> cases y <;> simp [InstrumentStatus.value]
  have hfields := Payload.record.inj h
  simp only [List.cons.injEq, Prod.mk.injEq, true_and, and_true] at hfields
  obtain ⟨hid, htypes, hderivative, hleverage, -, hmargin, -, hshort, hstatuses, horders, -,
    hvenue⟩ := hfields
  exact
    { instrumentId := toPayload_injective _ _ hid
      venueId := toPayload_injective _ _ hvenue
      instrumentType := htype _ _ (toPayload_injective _ _ htypes)
      status := hstatus _ _ (toPayload_injective _ _ hstatuses)
      market := by
        rw [market_mem_sortedOrderTypes, market_mem_sortedOrderTypes,
          toPayload_injective _ _ horders]
      isDerivative := toPayload_injective _ _ hderivative
      marginAllowed := toPayload_injective _ _ hmargin
      shortSellingAllowed := toPayload_injective _ _ hshort
      leverageAllowed := toPayload_injective _ _ hleverage }

/-- The fields of an account that the engine reads. -/
structure SameAccount (a b : Account) : Prop where
  accountId : a.accountId = b.accountId
  venueId : a.venueId = b.venueId
  accountType : a.accountType = b.accountType
  status : a.status = b.status
  placeOrders : TradingPermission.placeOrders ∈ a.tradingPermissions ↔
    TradingPermission.placeOrders ∈ b.tradingPermissions
  maxOrder : a.riskLimits.maxOrderNotionalPct = b.riskLimits.maxOrderNotionalPct
  maxInstrument : a.riskLimits.maxInstrumentExposurePct = b.riskLimits.maxInstrumentExposurePct
  maxStrategy : a.riskLimits.maxStrategyExposurePct = b.riskLimits.maxStrategyExposurePct
  maxTotal : a.riskLimits.maxTotalSpotExposurePct = b.riskLimits.maxTotalSpotExposurePct
  minCash : a.riskLimits.minCashReservePct = b.riskLimits.minCashReservePct
  liveCapitalEnabled : a.liveCapitalEnabled = b.liveCapitalEnabled
  marginEnabled : a.marginEnabled = b.marginEnabled
  derivativesEnabled : a.derivativesEnabled = b.derivativesEnabled
  shortingEnabled : a.shortingEnabled = b.shortingEnabled

theorem sameAccount_of_riskPayload {a b : Account} (h : a.riskPayload = b.riskPayload) :
    SameAccount a b := by
  have htype : ∀ x y : AccountType, x.value = y.value → x = y := by
    intro x y
    cases x <;> cases y <;> simp [AccountType.value]
  have hstatus : ∀ x y : AccountStatus, x.value = y.value → x = y := by
    intro x y
    cases x <;> cases y <;> simp [AccountStatus.value]
  have hfields := Payload.record.inj h
  simp only [List.cons.injEq, Prod.mk.injEq, true_and, and_true, Payload.record.injEq] at hfields
  obtain ⟨hid, htypes, hderivatives, hlive, hmargin,
    ⟨-, hinstrument, horder, hstrategy, htotal, hcash⟩, hshorting, hstatuses, hpermissions,
    hvenue⟩ := hfields
  exact
    { accountId := toPayload_injective _ _ hid
      venueId := toPayload_injective _ _ hvenue
      accountType := htype _ _ (toPayload_injective _ _ htypes)
      status := hstatus _ _ (toPayload_injective _ _ hstatuses)
      placeOrders := by
        rw [placeOrders_mem_sortedPermissions, placeOrders_mem_sortedPermissions,
          toPayload_injective _ _ hpermissions]
      maxOrder := toPayload_injective _ _ horder
      maxInstrument := toPayload_injective _ _ hinstrument
      maxStrategy := toPayload_injective _ _ hstrategy
      maxTotal := toPayload_injective _ _ htotal
      minCash := toPayload_injective _ _ hcash
      liveCapitalEnabled := toPayload_injective _ _ hlive
      marginEnabled := toPayload_injective _ _ hmargin
      derivativesEnabled := toPayload_injective _ _ hderivatives
      shortingEnabled := toPayload_injective _ _ hshorting }

/-- The fields of a constraint that the engine reads. -/
structure SameConstraint (a b : InstrumentConstraint) : Prop where
  instrumentId : a.instrumentId = b.instrumentId
  effectiveFrom : a.window.effectiveFrom = b.window.effectiveFrom
  effectiveTo : a.window.effectiveTo = b.window.effectiveTo
  maxOrderNotional : a.maxOrderNotional = b.maxOrderNotional

theorem sameConstraint_of_riskPayload {a b : InstrumentConstraint}
    (h : a.riskPayload = b.riskPayload) : SameConstraint a b := by
  have hfields := Payload.record.inj h
  simp only [List.cons.injEq, Prod.mk.injEq, true_and, and_true] at hfields
  obtain ⟨-, hfrom, hto, hid, -, hnotional, -⟩ := hfields
  exact ⟨toPayload_injective _ _ hid, toPayload_injective _ _ hfrom,
    toPayload_option_injective hto, toPayload_option_injective hnotional⟩

end InstrumentMaster

/-! ## What the payload of a request determines -/

/-- Two metadata views with the same hashed payloads. -/
structure SameMetadata (m m' : MetadataView) : Prop where
  venue : m.venue.map Venue.riskPayload = m'.venue.map Venue.riskPayload
  instrument : m.instrument.map Instrument.riskPayload = m'.instrument.map Instrument.riskPayload
  account : m.account.map Account.riskPayload = m'.account.map Account.riskPayload
  constraint : m.constraint.map InstrumentConstraint.riskPayload =
    m'.constraint.map InstrumentConstraint.riskPayload

/-- Two requests give the engine the same evidence. -/
structure SameEvidence (r r' : RiskCheckRequest) : Prop where
  orderIntent : r.orderIntent = r'.orderIntent
  accountId : r.accountId = r'.accountId
  traceId : r.traceId = r'.traceId
  idempotencyKey : r.idempotencyKey = r'.idempotencyKey
  decisionTs : r.decisionTs = r'.decisionTs
  riskCheckTs : r.riskCheckTs = r'.riskCheckTs
  referencePrice : r.referencePrice = r'.referencePrice
  accountEquity : r.accountEquity = r'.accountEquity
  currentCash : r.currentCash = r'.currentCash
  position : r.currentInstrumentPositionQuantity = r'.currentInstrumentPositionQuantity
  instrumentExposure : r.currentInstrumentExposureNotional = r'.currentInstrumentExposureNotional
  strategyExposure : r.currentStrategyExposureNotional = r'.currentStrategyExposureNotional
  totalExposure : r.currentTotalSpotExposureNotional = r'.currentTotalSpotExposureNotional
  killState : r.killSwitchSnapshot.activeState = r'.killSwitchSnapshot.activeState
  priceRisk : r.priceRisk = r'.priceRisk
  lossRisk : r.lossRisk = r'.lossRisk
  liquidityRisk : r.liquidityRisk = r'.liquidityRisk
  marketRisk : r.marketRisk = r'.marketRisk
  engineLatency : r.engineLatency = r'.engineLatency
  modelRisk : r.modelRisk = r'.modelRisk
  tcaRisk : r.tcaRisk = r'.tcaRisk
  dataHealthSignals : r.dataHealthSignals.map toPayload = r'.dataHealthSignals.map toPayload
  idempotencyRecords : r.idempotencyRecords = r'.idempotencyRecords
  throttleWindows : r.throttleWindows = r'.throttleWindows
  rejectBurstWindows : r.rejectBurstWindows = r'.rejectBurstWindows
  metadata : SameMetadata (metadataView r) (metadataView r')

/-- The ids of a valid instrument master are distinct. -/
theorem validateReferences_nodup {snapshot : InstrumentMasterSnapshot}
    (h : snapshot.validateReferences = .ok ()) :
    (snapshot.venues.map Venue.venueId).Nodup ∧
      (snapshot.instruments.map Instrument.instrumentId).Nodup ∧
      (snapshot.accounts.map Account.accountId).Nodup := by
  simp only [InstrumentMasterSnapshot.validateReferences, check_bind_eq_ok_iff] at h
  obtain ⟨-, hvenues, -, -, -, hinstruments, haccounts, -⟩ := h
  exact ⟨(require_eq_ok_iff _ _ _).mp hvenues, (require_eq_ok_iff _ _ _).mp hinstruments,
    (require_eq_ok_iff _ _ _).mp haccounts⟩

/-- A search by id and a further test has one hit at most. -/
theorem unique_of_nodup {α : Type} {id : α → String} {items : List α} {test : α → Bool}
    {wanted : String} (h : (items.map id).Nodup)
    (htest : ∀ a, test a = true → id a = wanted) {β : Type} {f : α → β} :
    ∀ a ∈ items, ∀ b ∈ items, test a = true → test b = true → f a = f b := by
  intro a ha b hb hta htb
  have hid : id a = id b := (htest a hta).trans (htest b htb).symm
  rw [List.inj_on_of_nodup_map h ha hb hid]

/-- The active constraint is the only one in force, so it looks the same in both masters. -/
theorem activeConstraint_view {snapshot snapshot' : InstrumentMasterSnapshot}
    (hcreated : snapshot.createdAt = snapshot'.createdAt)
    (h : (snapshot.instrumentConstraints.map InstrumentConstraint.riskPayload).Perm
      (snapshot'.instrumentConstraints.map InstrumentConstraint.riskPayload))
    (instrumentId : String) :
    (activeConstraint snapshot instrumentId).map InstrumentConstraint.riskPayload =
      (activeConstraint snapshot' instrumentId).map InstrumentConstraint.riskPayload := by
  simp only [activeConstraint, ← hcreated]
  have htests : TestsView InstrumentConstraint.riskPayload fun c =>
      c.instrumentId == instrumentId && c.window.isEffective snapshot.createdAt := by
    intro a b hab
    have hsame := sameConstraint_of_riskPayload hab
    simp only [EffectiveWindow.isEffective, hsame.instrumentId, hsame.effectiveFrom,
      hsame.effectiveTo]
  split
  · next c hc =>
      obtain ⟨c', hc', hview⟩ := singleton_view htests h hc
      rw [hc']
      exact congrArg some hview
  · next hmany =>
      split
      · next c' hc' =>
          obtain ⟨c, hc, -⟩ := singleton_view htests h.symm hc'
          exact absurd hc (hmany c)
      · rfl

/-- The metadata views of a valid instrument master and of one with the same payload. -/
theorem sameMetadata_of_payload {r r' : RiskCheckRequest}
    (hr : r.instrumentMasterSnapshot.validateReferences = .ok ())
    (hintent : r.orderIntent = r'.orderIntent) (haccount : r.accountId = r'.accountId)
    (h : r.instrumentMasterSnapshot.riskPayload = r'.instrumentMasterSnapshot.riskPayload) :
    SameMetadata (metadataView r) (metadataView r') := by
  -- the lists of the instrument master are hashed in the order of their ids
  have hfields := Payload.record.inj h
  simp only [List.cons.injEq, Prod.mk.injEq, true_and, and_true, Payload.list.injEq] at hfields
  obtain ⟨haccounts, hcreated, hconstraints, hinstruments, -, hvenues⟩ := hfields
  have hcreated' := toPayload_injective _ _ hcreated
  obtain ⟨hvenueIds, hinstrumentIds, haccountIds⟩ := validateReferences_nodup hr
  refine ⟨?_, ?_, ?_, ?_⟩
  · simp only [metadataView, ← hintent]
    apply find?_view
    · intro a b hab
      simp only [(sameVenue_of_riskPayload hab).1]
    · exact map_perm_of_sorted hvenues
    · exact unique_of_nodup hvenueIds fun a ha => beq_iff_eq.mp ha
  · simp only [metadataView, ← hintent]
    apply find?_view
    · intro a b hab
      have hsame := sameInstrument_of_riskPayload hab
      simp only [hsame.instrumentId, hsame.venueId]
    · exact map_perm_of_sorted hinstruments
    · apply unique_of_nodup hinstrumentIds
      intro a ha
      rw [Bool.and_eq_true] at ha
      exact beq_iff_eq.mp ha.1
  · simp only [metadataView, ← hintent, ← haccount]
    apply find?_view
    · intro a b hab
      have hsame := sameAccount_of_riskPayload hab
      simp only [hsame.accountId, hsame.venueId]
    · exact map_perm_of_sorted haccounts
    · apply unique_of_nodup haccountIds
      intro a ha
      rw [Bool.and_eq_true] at ha
      exact beq_iff_eq.mp ha.1
  · simp only [metadataView, ← hintent]
    apply activeConstraint_view hcreated'
    exact map_perm_of_sorted hconstraints

theorem sameEvidence_of_payload {r r' : RiskCheckRequest}
    (hr : r.instrumentMasterSnapshot.validateReferences = .ok ())
    (h : r.identityFields = r'.identityFields) : SameEvidence r r' := by
  simp only [RiskCheckRequest.identityFields, List.cons.injEq, Prod.mk.injEq, true_and,
    and_true] at h
  obtain ⟨hequity, haccountId, hcash, hinstrumentExposure, hposition, hstrategyExposure,
    htotalExposure, hsignals, hdecisionTs, hkey, hrecords, hlatency, hmaster, hkill, hliquidity,
    hloss, hmarket, hmodel, hintent, hprice, hreference, hbursts, -, hriskTs, -, -, -, htca,
    hwindows, htrace⟩ := h
  have hkill' := Payload.record.inj hkill
  simp only [List.cons.injEq, Prod.mk.injEq, true_and, KillSwitchSnapshot.identityFields] at hkill'
  obtain ⟨-, -, -, hstate, -⟩ := hkill'
  have hintent' := toPayload_injective _ _ hintent
  have haccountId' := toPayload_injective _ _ haccountId
  exact
    { orderIntent := hintent', accountId := haccountId'
      traceId := toPayload_injective _ _ htrace, idempotencyKey := toPayload_injective _ _ hkey
      decisionTs := toPayload_injective _ _ hdecisionTs
      riskCheckTs := toPayload_injective _ _ hriskTs
      referencePrice := toPayload_injective _ _ hreference
      accountEquity := toPayload_injective _ _ hequity
      currentCash := toPayload_injective _ _ hcash, position := toPayload_injective _ _ hposition
      instrumentExposure := toPayload_injective _ _ hinstrumentExposure
      strategyExposure := toPayload_injective _ _ hstrategyExposure
      totalExposure := toPayload_injective _ _ htotalExposure
      killState := toPayload_injective _ _ hstate, priceRisk := toPayload_injective _ _ hprice
      lossRisk := toPayload_injective _ _ hloss
      liquidityRisk := toPayload_injective _ _ hliquidity
      marketRisk := toPayload_injective _ _ hmarket
      engineLatency := toPayload_injective _ _ hlatency
      modelRisk := toPayload_injective _ _ hmodel, tcaRisk := toPayload_injective _ _ htca
      dataHealthSignals := Payload.list.inj hsignals
      idempotencyRecords := toPayload_injective _ _ hrecords
      throttleWindows := toPayload_injective _ _ hwindows
      rejectBurstWindows := toPayload_injective _ _ hbursts
      metadata := sameMetadata_of_payload hr hintent' haccountId' hmaster }

/-! ## The engine on the same evidence -/

section Engine

variable {r r' : RiskCheckRequest}

theorem buildOrderEffect_of_sameEvidence (h : SameEvidence r r') :
    buildOrderEffect r = buildOrderEffect r' := by
  simp only [buildOrderEffect, proposedNotional, h.orderIntent, h.referencePrice, h.accountEquity,
    h.currentCash, h.position, h.instrumentExposure, h.strategyExposure, h.totalExposure]

section Metadata

variable {m m' : MetadataView}

/-- A percentage limit that the account payload covers. -/
theorem accountPct_of_sameMetadata (h : SameMetadata m m')
    {limit : AccountRiskLimits → BoundedRiskFraction}
    (hlimit : ∀ a b, SameAccount a b → limit a.riskLimits = limit b.riskLimits)
    (policyPct : Decimal) : accountPct m limit policyPct = accountPct m' limit policyPct := by
  have hmap : m.account.map (fun a => limit a.riskLimits) =
      m'.account.map (fun a => limit a.riskLimits) :=
    map_of_view (fun a b hab => hlimit a b (sameAccount_of_riskPayload hab)) h.account
  cases ha : m.account with
  | none =>
      rw [ha] at hmap
      have hnone := Option.map_eq_none_iff.mp hmap.symm
      simp only [accountPct, ha, hnone]
  | some a =>
      rw [ha] at hmap
      obtain ⟨b, hb, hview⟩ := Option.map_eq_some_iff.mp hmap.symm
      simp only [accountPct, ha, hb, hview]

theorem requiredState_of_sameEvidence (h : SameEvidence r r') :
    requiredStateEvaluation r (metadataView r) = requiredStateEvaluation r' (metadataView r') := by
  have hinstrument : (metadataView r).instrument.any (fun i =>
        i.status = .trading && decide (OrderType.market ∈ i.supportedOrderTypes)) =
      (metadataView r').instrument.any (fun i =>
        i.status = .trading && decide (OrderType.market ∈ i.supportedOrderTypes)) := by
    apply any_of_view _ h.metadata.instrument
    intro a b hab
    have hsame := sameInstrument_of_riskPayload hab
    simp only [hsame.status, hsame.market]
  have haccount : (metadataView r).account.any (fun a =>
        a.status = .active && decide (TradingPermission.placeOrders ∈ a.tradingPermissions)) =
      (metadataView r').account.any (fun a =>
        a.status = .active && decide (TradingPermission.placeOrders ∈ a.tradingPermissions)) := by
    apply any_of_view _ h.metadata.account
    intro a b hab
    have hsame := sameAccount_of_riskPayload hab
    simp only [hsame.status, hsame.placeOrders]
  simp only [requiredStateEvaluation, hinstrument, haccount, isSome_of_view h.metadata.venue,
    isSome_of_view h.metadata.instrument, isSome_of_view h.metadata.account,
    isSome_of_view h.metadata.constraint, h.killState]

theorem productScope_of_sameMetadata (h : SameMetadata m m') :
    productScopeEvaluation m = productScopeEvaluation m' := by
  have hinstrument : m.instrument.any (fun i =>
        i.instrumentType = .spot && !i.isDerivative && !i.marginAllowed &&
          !i.shortSellingAllowed && !i.leverageAllowed) =
      m'.instrument.any (fun i =>
        i.instrumentType = .spot && !i.isDerivative && !i.marginAllowed &&
          !i.shortSellingAllowed && !i.leverageAllowed) := by
    apply any_of_view _ h.instrument
    intro a b hab
    have hsame := sameInstrument_of_riskPayload hab
    simp only [hsame.instrumentType, hsame.isDerivative, hsame.marginAllowed,
      hsame.shortSellingAllowed, hsame.leverageAllowed]
  have haccount : m.account.any (fun a =>
        (a.accountType = .simulation || a.accountType = .paper) && !a.liveCapitalEnabled &&
          !a.marginEnabled && !a.derivativesEnabled && !a.shortingEnabled) =
      m'.account.any (fun a =>
        (a.accountType = .simulation || a.accountType = .paper) && !a.liveCapitalEnabled &&
          !a.marginEnabled && !a.derivativesEnabled && !a.shortingEnabled) := by
    apply any_of_view _ h.account
    intro a b hab
    have hsame := sameAccount_of_riskPayload hab
    simp only [hsame.accountType, hsame.liveCapitalEnabled, hsame.marginEnabled,
      hsame.derivativesEnabled, hsame.shortingEnabled]
  simp only [productScopeEvaluation, hinstrument, haccount]

theorem venueStatus_of_sameMetadata (h : SameMetadata m m') :
    venueStatusEvaluation m = venueStatusEvaluation m' := by
  have hstatus : m.venue.map Venue.status = m'.venue.map Venue.status :=
    map_of_view (fun a b hab => (sameVenue_of_riskPayload hab).2) h.venue
  simp only [venueStatusEvaluation, hstatus]

/-- The limits on the size of an order read the metadata through the account percentages and the
largest notional of the constraint. -/
theorem sizeLimits_of_sameMetadata (h : SameMetadata m m') (p : RiskPolicy)
    (effect : OrderEffect) :
    orderNotionalEvaluation p m effect = orderNotionalEvaluation p m' effect ∧
    instrumentExposureEvaluation p m effect = instrumentExposureEvaluation p m' effect ∧
    strategyExposureEvaluation p m effect = strategyExposureEvaluation p m' effect ∧
    totalSpotExposureEvaluation p m effect = totalSpotExposureEvaluation p m' effect := by
  have hnotional : m.constraint.bind InstrumentConstraint.maxOrderNotional =
      m'.constraint.bind InstrumentConstraint.maxOrderNotional := by
    have hmap : m.constraint.map InstrumentConstraint.maxOrderNotional =
        m'.constraint.map InstrumentConstraint.maxOrderNotional :=
      map_of_view (fun a b hab => (sameConstraint_of_riskPayload hab).maxOrderNotional)
        h.constraint
    have hbind := congrArg (fun x => x.bind id) hmap
    simpa only [Option.bind_map, Function.id_comp] using hbind
  have horder : accountPct m AccountRiskLimits.maxOrderNotionalPct =
      accountPct m' AccountRiskLimits.maxOrderNotionalPct :=
    funext (accountPct_of_sameMetadata h fun _ _ hab => hab.maxOrder)
  have hinstrument : accountPct m AccountRiskLimits.maxInstrumentExposurePct =
      accountPct m' AccountRiskLimits.maxInstrumentExposurePct :=
    funext (accountPct_of_sameMetadata h fun _ _ hab => hab.maxInstrument)
  have hstrategy : accountPct m AccountRiskLimits.maxStrategyExposurePct =
      accountPct m' AccountRiskLimits.maxStrategyExposurePct :=
    funext (accountPct_of_sameMetadata h fun _ _ hab => hab.maxStrategy)
  have htotal : accountPct m AccountRiskLimits.maxTotalSpotExposurePct =
      accountPct m' AccountRiskLimits.maxTotalSpotExposurePct :=
    funext (accountPct_of_sameMetadata h fun _ _ hab => hab.maxTotal)
  have hcash : accountPct m AccountRiskLimits.minCashReservePct =
      accountPct m' AccountRiskLimits.minCashReservePct :=
    funext (accountPct_of_sameMetadata h fun _ _ hab => hab.minCash)
  refine ⟨?_, ?_, ?_, ?_⟩
  · simp only [orderNotionalEvaluation, orderNotionalHard, hardNotional, hnotional, horder]
  · simp only [instrumentExposureEvaluation, hardNotional, hinstrument]
  · simp only [strategyExposureEvaluation, hardNotional, hstrategy]
  · have hthreshold : cashThreshold p m = cashThreshold p m' := by
      simp only [cashThreshold, hcash]
    have hhard : hardNotional p m AccountRiskLimits.maxTotalSpotExposurePct =
        hardNotional p m' AccountRiskLimits.maxTotalSpotExposurePct := by
      funext hardPct
      simp only [hardNotional, htotal]
    simp only [totalSpotExposureEvaluation, hthreshold, hhard]

end Metadata

/-- A data health signal blocks by fields that its payload covers. -/
theorem dataFreshness_of_sameEvidence (h : SameEvidence r r') :
    dataFreshnessEvaluation r = dataFreshnessEvaluation r' := by
  have htests : TestsView toPayload fun s : DataHealthSignal =>
      s.blocksTrading && (s.blockedInstrumentId = none ||
        s.blockedInstrumentId = some r.orderIntent.instrumentId) := by
    intro a b hab
    have hfields := Payload.record.inj hab
    simp only [List.cons.injEq, Prod.mk.injEq, true_and] at hfields
    obtain ⟨hinstrument, hblocks, -⟩ := hfields
    simp only [toPayload_option_injective hinstrument, toPayload_injective _ _ hblocks]
  have hview : (r.dataHealthSignals.map toPayload).Perm (r'.dataHealthSignals.map toPayload) :=
    List.Perm.of_eq h.dataHealthSignals
  have hlength := (filter_view htests hview).length_eq
  rw [List.length_map, List.length_map] at hlength
  simp only [dataFreshnessEvaluation, ← h.orderIntent, hlength]

variable [Sha256]

theorem limitEvaluations_of_sameEvidence (h : SameEvidence r r') (p : RiskPolicy) :
    limitEvaluations r p = limitEvaluations r' p := by
  obtain ⟨hnotional, hinstrument, hstrategy, htotal⟩ :=
    sizeLimits_of_sameMetadata h.metadata p (buildOrderEffect r')
  have hkill : killSwitchEvaluation r (buildOrderEffect r') =
      killSwitchEvaluation r' (buildOrderEffect r') := by
    simp only [killSwitchEvaluation, h.killState]
  have hmarket : priceCollarEvaluation r p = priceCollarEvaluation r' p ∧
      liquidityParticipationEvaluation r p (buildOrderEffect r') =
        liquidityParticipationEvaluation r' p (buildOrderEffect r') ∧
      liquiditySpreadEvaluation r p = liquiditySpreadEvaluation r' p ∧
      marketVolatilityEvaluation r p = marketVolatilityEvaluation r' p ∧
      tcaCostSlippageEvaluation r p = tcaCostSlippageEvaluation r' p := by
    simp only [priceCollarEvaluation, liquidityParticipationEvaluation, liquidityChecks,
      liquiditySpreadEvaluation, marketVolatilityEvaluation, tcaCostSlippageEvaluation,
      h.priceRisk, h.orderIntent, h.liquidityRisk, h.marketRisk, h.tcaRisk, and_self]
  have hloss : noShortOrOversellEvaluation r = noShortOrOversellEvaluation r' ∧
      dailyAccountLossEvaluation r p = dailyAccountLossEvaluation r' p ∧
      dailyStrategyLossEvaluation r p = dailyStrategyLossEvaluation r' p ∧
      maxDrawdownEvaluation r p = maxDrawdownEvaluation r' p := by
    simp only [noShortOrOversellEvaluation, dailyAccountLossEvaluation,
      dailyStrategyLossEvaluation, maxDrawdownEvaluation, h.orderIntent, h.position, h.lossRisk,
      and_self]
  have hexecution : idempotencyEvaluation r = idempotencyEvaluation r' ∧
      throttleEvaluations r = throttleEvaluations r' ∧
      rejectBurstEvaluations r = rejectBurstEvaluations r' ∧
      engineLatencyEvaluation r = engineLatencyEvaluation r' ∧
      modelDriftOrCalibrationEvaluation r = modelDriftOrCalibrationEvaluation r' := by
    simp only [idempotencyEvaluation, throttleEvaluations, rejectBurstEvaluations,
      engineLatencyEvaluation, modelDriftOrCalibrationEvaluation, h.orderIntent,
      h.idempotencyRecords, h.idempotencyKey, h.traceId, h.throttleWindows, h.rejectBurstWindows,
      h.decisionTs, h.riskCheckTs, h.engineLatency, h.modelRisk, and_self]
  obtain ⟨hcollar, hparticipation, hspread, hvolatility, htca⟩ := hmarket
  obtain ⟨hshort, haccountLoss, hstrategyLoss, hdrawdown⟩ := hloss
  obtain ⟨hidempotency, hthrottle, hbursts, hlatency, hmodel⟩ := hexecution
  simp only [limitEvaluations, buildOrderEffect_of_sameEvidence h, requiredState_of_sameEvidence h,
    productScope_of_sameMetadata h.metadata, venueStatus_of_sameMetadata h.metadata, hkill,
    hnotional, hinstrument, hstrategy, htotal, hcollar, hparticipation, hspread, hvolatility,
    htca, hshort, haccountLoss, hstrategyLoss, hdrawdown, dataFreshness_of_sameEvidence h,
    hidempotency, hthrottle, hbursts, hlatency, hmodel]

theorem riskDecision_of_sameEvidence (h : SameEvidence r r') (p : RiskPolicy) :
    riskDecision r p = riskDecision r' p := by
  simp only [riskDecision, limitEvaluations_of_sameEvidence h, buildOrderEffect_of_sameEvidence h]
  rw [approvalAfterSoftCaps_congr h.orderIntent h.referencePrice h.instrumentExposure
    h.strategyExposure h.totalExposure]

end Engine

/-! ## Policies -/

/-- Thresholds are determined by their two payloads. -/
theorem softHard_of_payload {q : Decimal → Prop} {t t' : SoftHard {x : Decimal // q x}}
    (hhard : toPayload t.hard = toPayload t'.hard) (hsoft : toPayload t.soft = toPayload t'.soft) :
    t = t' := by
  cases t
  cases t'
  cases toPayload_injective _ _ hhard
  cases toPayload_injective _ _ hsoft
  rfl

/-- Every field of a policy is in its payload. -/
theorem policy_of_payload {p p' : RiskPolicy} (h : p.identityFields = p'.identityFields) :
    p = p' := by
  cases p
  cases p'
  simp only [RiskPolicy.identityFields, RiskPolicy.thresholdEntries, List.cons_append,
    List.nil_append, List.cons.injEq, Prod.mk.injEq, true_and, and_true] at h
  obtain ⟨hinstrument, hinstrument', horder, horder', hday, hday', hdayStrategy, hdayStrategy',
    hdrawdown, hdrawdown', hvolume, hvolume', hdepth, hdepth', hspread, hspread', hstrategy,
    hstrategy', htotal, htotal', hvolatility, hvolatility', hreserve, hname, hnav, hcollar,
    hcollar', hrequirements, htca, htca'⟩ := h
  cases softHard_of_payload hinstrument hinstrument'
  cases softHard_of_payload horder horder'
  cases softHard_of_payload hday hday'
  cases softHard_of_payload hdayStrategy hdayStrategy'
  cases softHard_of_payload hdrawdown hdrawdown'
  cases softHard_of_payload hvolume hvolume'
  cases softHard_of_payload hdepth hdepth'
  cases softHard_of_payload hspread hspread'
  cases softHard_of_payload hstrategy hstrategy'
  cases softHard_of_payload htotal htotal'
  cases softHard_of_payload hvolatility hvolatility'
  cases softHard_of_payload hcollar hcollar'
  cases softHard_of_payload htca htca'
  cases toPayload_injective _ _ hreserve
  cases toPayload_injective _ _ hname
  cases toPayload_injective _ _ hnav
  cases toPayload_injective _ _ hrequirements
  rfl

/-! ## Two runs over the same hashes -/

section Coverage

variable [Sha256]

/-- No collision between the payloads hashed for two requests and for two policies. -/
structure EvidenceCollisionFree (r r' : RiskCheckRequest) (p p' : RiskPolicy) : Prop where
  requests : CollisionFree [.record r.identityFields, .record r'.identityFields]
  policies : CollisionFree [.record p.identityFields, .record p'.identityFields]

/-- Requests and policies with the same hashes get the same evaluations and the same decision. -/
theorem evidence_hashes_determine_decision {r r' : RiskCheckRequest} {p p' : RiskPolicy}
    (hr : r.validate = .ok ()) (hr' : r'.validate = .ok ())
    (hfree : EvidenceCollisionFree r r' p p') (hrequest : r.requestHash = r'.requestHash)
    (hpolicy : p.policyHash = p'.policyHash) :
    ∃ event event', evaluatePreTradeRisk r p = .ok event ∧
      evaluatePreTradeRisk r' p' = .ok event' ∧
      event.limitEvaluations = event'.limitEvaluations ∧
      event.finalDecision = event'.finalDecision ∧
      event.approvedOrderIntent = event'.approvedOrderIntent := by
  obtain ⟨event, hevent⟩ := evaluatePreTradeRisk_total r p hr
  obtain ⟨event', hevent'⟩ := evaluatePreTradeRisk_total r' p' hr'
  have hfacts := evaluatePreTradeRisk_facts r p hevent
  have hfacts' := evaluatePreTradeRisk_facts r' p' hevent'
  -- a valid request carries the hash of its own payload
  have hhash := ((RiskCheckRequest.stamping.validate_eq_ok_iff r).mp hr).2.1
  have hhash' := ((RiskCheckRequest.stamping.validate_eq_ok_iff r').mp hr').2.1
  have hsame : SameEvidence r r' := by
    apply sameEvidence_of_payload
    · obtain ⟨hfields, -⟩ := (RiskCheckRequest.stamping.validate_eq_ok_iff r).mp hr
      exact ((RiskCheckRequest.validateFields_eq_ok_iff r).mp hfields).2.2.1
    · exact hfree.requests.fields_eq (hhash.symm.trans (hrequest.trans hhash'))
  cases policy_of_payload (hfree.policies.fields_eq hpolicy)
  have hdecision := hfacts.decision_eq.trans
    ((riskDecision_of_sameEvidence hsame p).trans hfacts'.decision_eq.symm)
  have hevaluations := hfacts.limitEvaluations_eq.trans
    ((limitEvaluations_of_sameEvidence hsame p).trans hfacts'.limitEvaluations_eq.symm)
  exact ⟨event, event', hevent, hevent', hevaluations, (Prod.mk.inj hdecision).1,
    (Prod.mk.inj hdecision).2⟩

end Coverage

section Example

open Simulation

theorem hundredth_is_fraction : (0 : Decimal) < 1 / 100 ∧ (1 / 100 : Decimal) ≤ 1 := by
  decide +kernel

/-- The limits of `loosestLimits` with half the daily loss. -/
def halfDailyLossLimits : AccountRiskLimits :=
  { loosestLimits with maxDailyLossPct := ⟨1 / 100, hundredth_is_fraction⟩,
                       daily_loss_le := by decide +kernel }

/-- The same buy for an account with half the daily loss. -/
def halfDailyLossRequest [Sha256] : RiskCheckRequest :=
  marketRequest halfDailyLossLimits .clear marketBuy {} {}

/-- The daily loss of the account is neither hashed nor read: the two requests differ in it, and
get the same answer. -/
theorem evidence_hashes_determine_decision_half_daily_loss :
    ∃ event event',
      @evaluatePreTradeRisk hashlibSha256 (@marketBuyRequest hashlibSha256) marketPolicy =
        .ok event ∧
      @evaluatePreTradeRisk hashlibSha256 (@halfDailyLossRequest hashlibSha256) marketPolicy =
        .ok event' ∧
      event.limitEvaluations = event'.limitEvaluations ∧
      event.finalDecision = event'.finalDecision ∧
      event.approvedOrderIntent = event'.approvedOrderIntent := by
  have hpayload : (@marketBuyRequest hashlibSha256).identityFields =
      (@halfDailyLossRequest hashlibSha256).identityFields := rfl
  have hvalid : @RiskCheckRequest.validate hashlibSha256 (@halfDailyLossRequest hashlibSha256) =
      .ok () :=
    @marketRequest_valid hashlibSha256 _ (ok_unit_of_toBool _ (by decide)) .clear _
      (le_refl _) (by decide) {} {}
  apply @evidence_hashes_determine_decision hashlibSha256 _ _ _ _
    (@marketBuyRequest_valid hashlibSha256) hvalid
  · apply @EvidenceCollisionFree.mk hashlibSha256
    · rw [← hpayload]
      exact @collisionFree_pair_self hashlibSha256 _
    · exact @collisionFree_pair_self hashlibSha256 _
  · exact congrArg (fun fields => @Contracts.hash hashlibSha256 (.record fields)) hpayload
  · rfl

end Example

end TaModel.Risk
