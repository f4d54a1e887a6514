import TaModel.Contracts.Canonical
import Mathlib.Tactic.NormNum

/-!
# Risk policy

The thresholds of `RiskPolicy` in `contracts/risk.py`. The source keeps a soft and a hard field per
limit; here they are the two components of one `SoftHard` value, which carries the check of
`_raise_if_soft_above_hard`. `policy_hash` and `policy_id` are functions of the policy.
-/

set_option autoImplicit false

namespace TaModel.Contracts

/-- A soft and a hard threshold whose soft one does not exceed the hard one. -/
structure SoftHard (α : Type) [LE α] where
  soft : α
  hard : α
  soft_le_hard : soft ≤ hard

/-- Thresholds given as fractions in `(0, 1]`. -/
abbrev FractionThresholds := SoftHard BoundedRiskFraction

/-- Positive thresholds. -/
abbrev PositiveThresholds := SoftHard PositiveDecimal

/-- Executable risk-policy thresholds. -/
structure RiskPolicy where
  name : String
  paperNav : PositiveDecimal
  maxOrderNotionalPct : FractionThresholds
  maxInstrumentExposurePct : FractionThresholds
  maxStrategyExposurePct : FractionThresholds
  maxTotalSpotExposurePct : FractionThresholds
  minCashReservePct : {q : Decimal // 0 ≤ q ∧ q ≤ 1}
  priceCollarBps : PositiveThresholds
  maxDailyAccountLossPct : FractionThresholds
  maxDailyStrategyLossPct : FractionThresholds
  maxDrawdownPct : FractionThresholds
  maxParticipation24hQuoteVolumePct : FractionThresholds
  maxParticipationTopOfBookDepthPct : FractionThresholds
  maxSpreadBps : PositiveThresholds
  maxVolatilityEnvelopeMultiplier : PositiveThresholds
  tcaCostSlippageMultiplier : PositiveThresholds
  requirementIds : List String := ["FR-010", "FR-011", "NFR-004"]

namespace RiskPolicy

/-- The hard and soft entries of one limit in `build_risk_policy_hash`. -/
def thresholdEntries {p : Decimal → Prop} (key unit : String) (t : SoftHard {q : Decimal // p q}) :
    List (String × Payload) :=
  [ (key ++ "_hard_" ++ unit, toPayload t.hard), (key ++ "_soft_" ++ unit, toPayload t.soft) ]

/-- The fields hashed by `build_risk_policy_hash`. -/
def identityFields (policy : RiskPolicy) : List (String × Payload) :=
  thresholdEntries "max_instrument_exposure" "pct" policy.maxInstrumentExposurePct ++
  thresholdEntries "max_order_notional" "pct" policy.maxOrderNotionalPct ++
  thresholdEntries "max_daily_account_loss" "pct" policy.maxDailyAccountLossPct ++
  thresholdEntries "max_daily_strategy_loss" "pct" policy.maxDailyStrategyLossPct ++
  thresholdEntries "max_drawdown" "pct" policy.maxDrawdownPct ++
  thresholdEntries "max_participation_24h_quote_volume" "pct"
    policy.maxParticipation24hQuoteVolumePct ++
  thresholdEntries "max_participation_top_of_book_depth" "pct"
    policy.maxParticipationTopOfBookDepthPct ++
  thresholdEntries "max_spread" "bps" policy.maxSpreadBps ++
  thresholdEntries "max_strategy_exposure" "pct" policy.maxStrategyExposurePct ++
  thresholdEntries "max_total_spot_exposure" "pct" policy.maxTotalSpotExposurePct ++
  thresholdEntries "max_volatility_envelope" "multiplier" policy.maxVolatilityEnvelopeMultiplier ++
  [ ("min_cash_reserve_pct", toPayload policy.minCashReservePct),
    ("name", toPayload policy.name), ("paper_nav", toPayload policy.paperNav) ] ++
  thresholdEntries "price_collar" "bps" policy.priceCollarBps ++
  [("requirement_ids", toPayload policy.requirementIds)] ++
  thresholdEntries "tca_cost_slippage" "multiplier" policy.tcaCostSlippageMultiplier

section Identity

variable [Sha256]

/-- `build_risk_policy_hash`. -/
def policyHash (policy : RiskPolicy) : String := hash (.record policy.identityFields)

/-- `build_risk_policy_id`. -/
def policyId (policy : RiskPolicy) : String :=
  stableIdOfHash "RISKPOLICY" "policy_hash" policy.policyHash

end Identity

/-- `make_default_risk_policy`: the default thresholds over a paper net asset value. -/
def makeDefault (paperNav : PositiveDecimal) (name : String := "s9-default-risk-policy") :
    RiskPolicy where
  name := name
  paperNav := paperNav
  maxOrderNotionalPct :=
    ⟨⟨1 / 100, by norm_num⟩, ⟨25 / 1000, by norm_num⟩, Subtype.mk_le_mk.mpr (by norm_num)⟩
  maxInstrumentExposurePct :=
    ⟨⟨15 / 100, by norm_num⟩, ⟨25 / 100, by norm_num⟩, Subtype.mk_le_mk.mpr (by norm_num)⟩
  maxStrategyExposurePct :=
    ⟨⟨20 / 100, by norm_num⟩, ⟨30 / 100, by norm_num⟩, Subtype.mk_le_mk.mpr (by norm_num)⟩
  maxTotalSpotExposurePct :=
    ⟨⟨45 / 100, by norm_num⟩, ⟨60 / 100, by norm_num⟩, Subtype.mk_le_mk.mpr (by norm_num)⟩
  minCashReservePct := ⟨30 / 100, by norm_num⟩
  priceCollarBps := ⟨⟨50, by norm_num⟩, ⟨100, by norm_num⟩, Subtype.mk_le_mk.mpr (by norm_num)⟩
  maxDailyAccountLossPct :=
    ⟨⟨1 / 100, by norm_num⟩, ⟨2 / 100, by norm_num⟩, Subtype.mk_le_mk.mpr (by norm_num)⟩
  maxDailyStrategyLossPct :=
    ⟨⟨5 / 1000, by norm_num⟩, ⟨1 / 100, by norm_num⟩, Subtype.mk_le_mk.mpr (by norm_num)⟩
  maxDrawdownPct :=
    ⟨⟨5 / 100, by norm_num⟩, ⟨8 / 100, by norm_num⟩, Subtype.mk_le_mk.mpr (by norm_num)⟩
  maxParticipation24hQuoteVolumePct :=
    ⟨⟨5 / 1000, by norm_num⟩, ⟨1 / 100, by norm_num⟩, Subtype.mk_le_mk.mpr (by norm_num)⟩
  maxParticipationTopOfBookDepthPct :=
    ⟨⟨5 / 100, by norm_num⟩, ⟨10 / 100, by norm_num⟩, Subtype.mk_le_mk.mpr (by norm_num)⟩
  maxSpreadBps := ⟨⟨25, by norm_num⟩, ⟨50, by norm_num⟩, Subtype.mk_le_mk.mpr (by norm_num)⟩
  maxVolatilityEnvelopeMultiplier :=
    ⟨⟨2, by norm_num⟩, ⟨3, by norm_num⟩, Subtype.mk_le_mk.mpr (by norm_num)⟩
  tcaCostSlippageMultiplier :=
    ⟨⟨2, by norm_num⟩, ⟨3, by norm_num⟩, Subtype.mk_le_mk.mpr (by norm_num)⟩

end RiskPolicy

end TaModel.Contracts
