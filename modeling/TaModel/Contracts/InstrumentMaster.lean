import TaModel.Contracts.Canonical
import Mathlib.Data.List.Sort
import Mathlib.Data.String.Basic

/-!
# Instrument-master contracts

Venues, fee schedules, trading sessions, effective-dated instrument constraints, instruments,
accounts and the point-in-time snapshot of `contracts/instrument_master.py`. Fields no modelled
function reads (names, endpoints, rate limits, source stamps) are left out.

Field bounds live in the types (`PositiveDecimal`, proof fields). `validateReferences` is the
snapshot's model validator.
-/

set_option autoImplicit false

namespace TaModel.Contracts

/-! ## Enumerations -/

inductive VenueStatus where
  | active | degraded | maintenance | halted | unknown | inactive
deriving DecidableEq

def VenueStatus.value : VenueStatus → String
  | .active => "active"
  | .degraded => "degraded"
  | .maintenance => "maintenance"
  | .halted => "halted"
  | .unknown => "unknown"
  | .inactive => "inactive"

inductive OrderType where
  | market | limit | postOnlyLimit
deriving DecidableEq

def OrderType.value : OrderType → String
  | .market => "market"
  | .limit => "limit"
  | .postOnlyLimit => "post_only_limit"

inductive TradingSessionStatus where
  | active | suspended | unknown
deriving DecidableEq

inductive ConstraintViolation where
  | nonPositivePrice | nonPositiveQuantity | priceNotOnTick | quantityNotOnLot
  | quantityBelowMinimum | quantityAboveMaximum | notionalBelowMinimum | notionalAboveMaximum
deriving DecidableEq

inductive InstrumentType where
  | spot | cashEquity | fund | index | other
deriving DecidableEq

def InstrumentType.value : InstrumentType → String
  | .spot => "spot"
  | .cashEquity => "cash_equity"
  | .fund => "fund"
  | .index => "index"
  | .other => "other"

inductive InstrumentStatus where
  | trading | paused | halted | delisted | unknown
deriving DecidableEq

def InstrumentStatus.value : InstrumentStatus → String
  | .trading => "trading"
  | .paused => "paused"
  | .halted => "halted"
  | .delisted => "delisted"
  | .unknown => "unknown"

inductive AccountType where
  | research | simulation | paper
deriving DecidableEq

def AccountType.value : AccountType → String
  | .research => "research"
  | .simulation => "simulation"
  | .paper => "paper"

inductive AccountStatus where
  | active | disabled | readOnly | unknown
deriving DecidableEq

def AccountStatus.value : AccountStatus → String
  | .active => "active"
  | .disabled => "disabled"
  | .readOnly => "read_only"
  | .unknown => "unknown"

inductive TradingPermission where
  | readMarketData | viewBalances | placeOrders | cancelOrders
deriving DecidableEq

def TradingPermission.value : TradingPermission → String
  | .readMarketData => "read_market_data"
  | .viewBalances => "view_balances"
  | .placeOrders => "place_orders"
  | .cancelOrders => "cancel_orders"

instance : ToPayload OrderType := ⟨fun x => .text x.value⟩
instance : ToPayload VenueStatus := ⟨fun x => .text x.value⟩

/-- `sorted(order_type.value for order_type in ...)` of a set of order types. -/
def sortedOrderTypes (types : List OrderType) : List String :=
  ([.limit, .market, .postOnlyLimit].filter (· ∈ types)).map OrderType.value

/-- `sorted(permission.value for permission in ...)` of a set of permissions. -/
def sortedPermissions (permissions : List TradingPermission) : List String :=
  ([.cancelOrders, .placeOrders, .readMarketData, .viewBalances].filter (· ∈ permissions)).map
    TradingPermission.value

/-! ## Effective windows -/

/-- A half-open effective window `[effectiveFrom, effectiveTo)`; the validator
`_validate_effective_window` is the proof field. -/
structure EffectiveWindow where
  effectiveFrom : AwareDatetime
  effectiveTo : Option AwareDatetime
  ends_after_start : ∀ t ∈ effectiveTo, effectiveFrom < t
deriving DecidableEq

/-- `_is_effective`. -/
def EffectiveWindow.isEffective (w : EffectiveWindow) (asOf : AwareDatetime) : Bool :=
  decide (w.effectiveFrom ≤ asOf) &&
    match w.effectiveTo with
    | none => true
    | some t => decide (asOf < t)

/-! ## Records -/

structure Venue where
  venueId : String
  status : VenueStatus
  supportedOrderTypes : List OrderType

structure FeeSchedule where
  feeScheduleId : String
  venueId : String
  feeTierId : String
  makerFeeRate : BoundedFeeRate
  takerFeeRate : BoundedFeeRate
  feeAssetId : Option String
  minFee : NonNegativeDecimal
  window : EffectiveWindow
  asset_of_min_fee : 0 < minFee.val → feeAssetId ≠ none

structure TradingSession where
  sessionId : String
  venueId : String
  status : TradingSessionStatus
  window : EffectiveWindow

/-- `ConstraintValidationResult`. -/
structure ConstraintValidationResult where
  instrumentId : String
  constraintId : String
  price : Decimal
  quantity : Decimal
  notional : Decimal
  passed : Bool
  reasonCodes : List ConstraintViolation
deriving DecidableEq

/-- Effective-dated tick, lot and notional constraints for an instrument. -/
structure InstrumentConstraint where
  constraintId : String
  instrumentId : String
  tickSize : PositiveDecimal
  lotSize : PositiveDecimal
  minNotional : PositiveDecimal
  minOrderQuantity : Option PositiveDecimal
  maxOrderQuantity : Option PositiveDecimal
  maxOrderNotional : Option PositiveDecimal
  window : EffectiveWindow
  quantity_bounds : ∀ lo ∈ minOrderQuantity, ∀ hi ∈ maxOrderQuantity, lo.val ≤ hi.val
  notional_bounds : ∀ hi ∈ maxOrderNotional, minNotional.val ≤ hi.val

/-- `_is_decimal_multiple(value, increment)` for a positive value. -/
def isDecimalMultiple (value increment : Decimal) : Bool :=
  decide (0 < increment) && decide ((value / increment).den = 1)

/-- `InstrumentConstraint.evaluate_order`. -/
def InstrumentConstraint.evaluateOrder (c : InstrumentConstraint) (price quantity : Decimal) :
    ConstraintValidationResult :=
  let notional := price * quantity
  let priceCodes : List ConstraintViolation :=
    if price ≤ 0 then [.nonPositivePrice]
    else if isDecimalMultiple price c.tickSize.val then [] else [.priceNotOnTick]
  let minimumQuantity := (c.minOrderQuantity.getD c.lotSize).val
  let quantityCodes : List ConstraintViolation :=
    if quantity ≤ 0 then [.nonPositiveQuantity]
    else
      (if quantity < minimumQuantity then [.quantityBelowMinimum] else []) ++
      (if isDecimalMultiple quantity c.lotSize.val then [] else [.quantityNotOnLot]) ++
      (match c.maxOrderQuantity with
        | some hi => if hi.val < quantity then [.quantityAboveMaximum] else []
        | none => [])
  let notionalCodes : List ConstraintViolation :=
    if 0 < price ∧ 0 < quantity then
      (if notional < c.minNotional.val then [.notionalBelowMinimum] else []) ++
      (match c.maxOrderNotional with
        | some hi => if hi.val < notional then [.notionalAboveMaximum] else []
        | none => [])
    else []
  let reasonCodes := priceCodes ++ quantityCodes ++ notionalCodes
  { instrumentId := c.instrumentId, constraintId := c.constraintId, price := price,
    quantity := quantity, notional := notional, passed := reasonCodes.isEmpty,
    reasonCodes := reasonCodes }

/-- What `evaluate_order` asks of an order. -/
structure InstrumentConstraint.Accepts (c : InstrumentConstraint) (price quantity : Decimal) :
    Prop where
  price_pos : 0 < price
  on_tick : isDecimalMultiple price c.tickSize.val = true
  quantity_pos : 0 < quantity
  minimum_le : (c.minOrderQuantity.getD c.lotSize).val ≤ quantity
  on_lot : isDecimalMultiple quantity c.lotSize.val = true
  le_maximum : ∀ hi ∈ c.maxOrderQuantity, quantity ≤ hi.val
  min_notional_le : c.minNotional.val ≤ price * quantity
  le_max_notional : ∀ hi ∈ c.maxOrderNotional, price * quantity ≤ hi.val

theorem InstrumentConstraint.evaluateOrder_passed_iff (c : InstrumentConstraint)
    (price quantity : Decimal) :
    (c.evaluateOrder price quantity).passed = true ↔ c.Accepts price quantity := by
  simp only [evaluateOrder, List.isEmpty_iff, List.append_eq_nil_iff]
  constructor
  · rintro ⟨⟨hprice, hquantity⟩, hnotional⟩
    by_cases hprice_pos : price ≤ 0
    · rw [if_pos hprice_pos] at hprice
      cases hprice
    by_cases hquantity_pos : quantity ≤ 0
    · rw [if_pos hquantity_pos] at hquantity
      cases hquantity
    rw [if_neg hprice_pos] at hprice
    rw [if_neg hquantity_pos, List.append_eq_nil_iff, List.append_eq_nil_iff] at hquantity
    rw [if_pos ⟨not_le.mp hprice_pos, not_le.mp hquantity_pos⟩, List.append_eq_nil_iff]
      at hnotional
    obtain ⟨⟨hminimum, hlot⟩, hmaximum⟩ := hquantity
    obtain ⟨hlow, hhigh⟩ := hnotional
    refine ⟨not_le.mp hprice_pos, ?_, not_le.mp hquantity_pos, ?_, ?_, ?_, ?_, ?_⟩
    · by_contra hoff
      rw [if_neg hoff] at hprice
      cases hprice
    · by_contra hlt
      rw [if_pos (not_le.mp hlt)] at hminimum
      cases hminimum
    · by_contra hoff
      rw [if_neg hoff] at hlot
      cases hlot
    · intro hi hhi
      by_contra hlt
      simp [Option.mem_def.mp hhi, not_le.mp hlt] at hmaximum
    · by_contra hlt
      rw [if_pos (not_le.mp hlt)] at hlow
      cases hlow
    · intro hi hhi
      by_contra hlt
      simp [Option.mem_def.mp hhi, not_le.mp hlt] at hhigh
  · intro h
    rw [if_neg (not_le.mpr h.price_pos), if_pos h.on_tick, if_neg (not_le.mpr h.quantity_pos),
      if_neg (not_lt.mpr h.minimum_le), if_pos h.on_lot, if_pos ⟨h.price_pos, h.quantity_pos⟩,
      if_neg (not_lt.mpr h.min_notional_le)]
    refine ⟨⟨rfl, ?_⟩, ?_⟩
    · cases hmax : c.maxOrderQuantity with
      | none => rfl
      | some hi => simpa using h.le_maximum hi hmax
    · cases hmax : c.maxOrderNotional with
      | none => rfl
      | some hi => simpa using h.le_max_notional hi hmax

/-- Venue-specific tradable instrument mapped to canonical assets. -/
structure Instrument where
  instrumentId : String
  venueId : String
  baseAssetId : String
  quoteAssetId : String
  instrumentType : InstrumentType
  status : InstrumentStatus
  tickSize : PositiveDecimal
  lotSize : PositiveDecimal
  minNotional : PositiveDecimal
  feeScheduleId : String
  supportedOrderTypes : List OrderType
  isDerivative : Bool
  marginAllowed : Bool
  shortSellingAllowed : Bool
  leverageAllowed : Bool
  base_ne_quote : baseAssetId ≠ quoteAssetId

/-- Account-level hard risk bounds, as fractions of the paper net asset value. -/
structure AccountRiskLimits where
  maxOrderNotionalPct : BoundedRiskFraction
  maxInstrumentExposurePct : BoundedRiskFraction
  maxStrategyExposurePct : BoundedRiskFraction
  maxTotalSpotExposurePct : BoundedRiskFraction
  minCashReservePct : BoundedRiskFraction
  maxDailyLossPct : BoundedRiskFraction
  maxDrawdownPct : BoundedRiskFraction
  order_le : maxOrderNotionalPct.val ≤ 1 / 40
  instrument_le : maxInstrumentExposurePct.val ≤ 1 / 4
  strategy_le : maxStrategyExposurePct.val ≤ 3 / 10
  total_le : maxTotalSpotExposurePct.val ≤ 3 / 5
  cash_ge : 3 / 10 ≤ minCashReservePct.val
  daily_loss_le : maxDailyLossPct.val ≤ 1 / 50
  drawdown_le : maxDrawdownPct.val ≤ 2 / 25
  instrument_le_total : maxInstrumentExposurePct.val ≤ maxTotalSpotExposurePct.val
  strategy_le_total : maxStrategyExposurePct.val ≤ maxTotalSpotExposurePct.val

/-- Account metadata for simulation and paper contexts. -/
structure Account where
  accountId : String
  venueId : String
  accountType : AccountType
  status : AccountStatus
  tradingPermissions : List TradingPermission
  feeTierId : String
  riskLimits : AccountRiskLimits
  liveCapitalEnabled : Bool
  marginEnabled : Bool
  derivativesEnabled : Bool
  shortingEnabled : Bool
  research_places_no_orders :
    accountType = .research → TradingPermission.placeOrders ∉ tradingPermissions

/-- Point-in-time snapshot of the instrument master. -/
structure InstrumentMasterSnapshot where
  snapshotId : String
  createdAt : AwareDatetime
  assetIds : List String
  venues : List Venue
  feeSchedules : List FeeSchedule
  tradingSessions : List TradingSession
  instrumentConstraints : List InstrumentConstraint
  instruments : List Instrument
  accounts : List Account

/-! ## Snapshot validation -/

/-- `_duplicates`, sorted: the values that occur more than once. -/
def sortedUnique (values : List String) : List String :=
  (values.dedup).insertionSort (· ≤ ·)

/-- `str` of a list of strings. -/
def listText (values : List String) : String :=
  "[" ++ String.intercalate ", " (values.map fun v => "'" ++ v ++ "'") ++ "]"

/-- `_raise_on_duplicates`. -/
def raiseOnDuplicates (values : List String) (fieldName : String) : Raises Unit :=
  require values.Nodup ("duplicate " ++ fieldName ++ " value(s): " ++
    listText (sortedUnique (values.filter fun v => decide (1 < values.count v))))

/-- Raises when `offending` is not empty, listing its sorted members. -/
def raiseOnAny (offending : List String) (message : String) : Raises Unit :=
  require (offending = []) (message ++ listText (sortedUnique offending))

/-- The pairwise check of `_raise_on_overlapping_effective_windows` on the windows of one key,
sorted by their start. -/
def adjacentWindowsDisjoint : List EffectiveWindow → Bool
  | [] => true
  | [_] => true
  | previous :: current :: rest =>
      (match previous.effectiveTo with
        | none => false
        | some previousEnd => decide (previousEnd ≤ current.effectiveFrom)) &&
        adjacentWindowsDisjoint (current :: rest)

/-- `_raise_on_overlapping_effective_windows` on records given by their key and window. -/
def raiseOnOverlappingEffectiveWindows (records : List (String × EffectiveWindow))
    (label : String) : Raises Unit :=
  ((records.map Prod.fst).dedup).forM fun key =>
    let windows := (records.filter fun r => r.1 == key).map Prod.snd
    require
      (adjacentWindowsDisjoint
        (windows.insertionSort fun a b => a.effectiveFrom ≤ b.effectiveFrom))
      ("overlapping effective windows for " ++ label ++ " " ++ key)

/-- The per-instrument part of `validate_references`. -/
def InstrumentMasterSnapshot.validateInstrument (s : InstrumentMasterSnapshot)
    (instrument : Instrument) : Raises Unit := do
  let venueTypes := (s.venues.filter fun v => v.venueId == instrument.venueId).flatMap
    Venue.supportedOrderTypes
  require (∀ t ∈ instrument.supportedOrderTypes, t ∈ venueTypes)
    ("instrument " ++ instrument.instrumentId ++ " has venue-unsupported order types")
  let activeFees := s.feeSchedules.filter fun f =>
    f.feeScheduleId == instrument.feeScheduleId && f.venueId == instrument.venueId &&
      f.window.isEffective s.createdAt
  require (activeFees.length = 1)
    ("instrument " ++ instrument.instrumentId ++ " must reference exactly one active " ++
      "effective-dated fee schedule at snapshot time")
  let activeConstraints := s.instrumentConstraints.filter fun c =>
    c.instrumentId == instrument.instrumentId && c.window.isEffective s.createdAt
  match activeConstraints with
  | [c] =>
      require (instrument.tickSize = c.tickSize ∧ instrument.lotSize = c.lotSize ∧
          instrument.minNotional = c.minNotional)
        ("instrument " ++ instrument.instrumentId ++ " tick_size/lot_size/min_notional " ++
          "does not match active effective-dated constraint")
  | _ =>
      .error ("instrument " ++ instrument.instrumentId ++ " must have exactly one active " ++
        "effective-dated constraint at snapshot time")

/-- `InstrumentMasterSnapshot.validate_references`. -/
def InstrumentMasterSnapshot.validateReferences (s : InstrumentMasterSnapshot) : Raises Unit := do
  let venueIds := s.venues.map Venue.venueId
  let instrumentIds := s.instruments.map Instrument.instrumentId
  raiseOnDuplicates s.assetIds "asset_id"
  raiseOnDuplicates venueIds "venue_id"
  raiseOnDuplicates (s.feeSchedules.map FeeSchedule.feeScheduleId) "fee_schedule_id"
  raiseOnDuplicates (s.tradingSessions.map TradingSession.sessionId) "trading_session_id"
  raiseOnDuplicates (s.instrumentConstraints.map InstrumentConstraint.constraintId)
    "instrument_constraint_id"
  raiseOnDuplicates instrumentIds "instrument_id"
  raiseOnDuplicates (s.accounts.map Account.accountId) "account_id"
  raiseOnOverlappingEffectiveWindows
    (s.feeSchedules.map fun f => (f.venueId ++ "/" ++ f.feeTierId, f.window)) "fee schedule"
  raiseOnOverlappingEffectiveWindows
    (s.instrumentConstraints.map fun c => (c.instrumentId, c.window)) "instrument constraint"
  raiseOnAny ((s.instruments.flatMap fun i => [i.baseAssetId, i.quoteAssetId]).filter
    (· ∉ s.assetIds)) "instruments reference unknown asset_id(s): "
  raiseOnAny ((s.instruments.map Instrument.venueId).filter (· ∉ venueIds))
    "instruments reference unknown venue_id(s): "
  raiseOnAny ((s.accounts.map Account.venueId).filter (· ∉ venueIds))
    "accounts reference unknown venue_id(s): "
  raiseOnAny ((s.feeSchedules.map FeeSchedule.venueId).filter (· ∉ venueIds))
    "fee schedules reference unknown venue_id(s): "
  raiseOnAny ((s.feeSchedules.filterMap FeeSchedule.feeAssetId).filter (· ∉ s.assetIds))
    "fee schedules reference unknown fee_asset_id(s): "
  raiseOnAny ((s.tradingSessions.map TradingSession.venueId).filter (· ∉ venueIds))
    "trading sessions reference unknown venue_id(s): "
  raiseOnAny ((s.instrumentConstraints.map InstrumentConstraint.instrumentId).filter
    (· ∉ instrumentIds)) "instrument constraints reference unknown instrument_id(s): "
  raiseOnAny ((s.instruments.map Instrument.feeScheduleId).filter
    (· ∉ s.feeSchedules.map FeeSchedule.feeScheduleId))
    "instruments reference unknown fee_schedule_id(s): "
  raiseOnAny ((s.accounts.filter fun a => !s.feeSchedules.any fun f =>
      f.venueId == a.venueId && (f.feeScheduleId == a.feeTierId || f.feeTierId == a.feeTierId)).map
      Account.accountId)
    "accounts reference fee_tier_id values without venue fee schedules: "
  raiseOnAny ((s.accounts.filter fun a => !s.feeSchedules.any fun f =>
      f.venueId == a.venueId && (f.feeScheduleId == a.feeTierId || f.feeTierId == a.feeTierId) &&
        f.window.isEffective s.createdAt).map Account.accountId)
    ("accounts reference fee_tier_id values without active effective-dated " ++
      "fee schedules at snapshot time: ")
  raiseOnAny ((s.venues.filter fun v => !s.tradingSessions.any fun t =>
      t.venueId == v.venueId && decide (t.status = .active) && t.window.isEffective s.createdAt).map
      Venue.venueId)
    "venues have no active effective-dated trading session at snapshot time: "
  s.instruments.forM s.validateInstrument

end TaModel.Contracts
