import TaModel.Contracts.CanonicalJson
import TaModel.Strategy.Sizing

/-!
# When the strategy trades

The classifier buys exactly on an edge over cost and uncertainty, and the drawdown can take the
trade back. A trade on a budget of zero is proposed as blocked, and then the decision contract
refuses it: there the strategy raises.
-/

set_option autoImplicit false

namespace TaModel.Strategy

open Contracts

section Runs

variable [Sha256]

/-! ## The action -/

/-- The policy quantile occurs exactly once, with value `mu`. -/
def ExpectedReturnIs (forecast : Forecast) (policy : StrategyDecisionPolicy) (mu : Decimal) :
    Prop :=
  (forecast.quantiles.filter fun quantile =>
    decide (quantile.level.val = policy.expectedReturnQuantile.val)).map ForecastQuantile.value =
      [mu]

/-- The expected return has an edge over cost and uncertainty. -/
def HasEdge (forecast : Forecast) (policy : StrategyDecisionPolicy) : Prop :=
  ∃ mu, ExpectedReturnIs forecast policy mu ∧ 0 < mu ∧
    BelowMaximum policy.expectedCost.val policy.maxExpectedCost.val ∧
    BelowMaximum forecast.uncertainty.val policy.maxUncertainty.val ∧
    policy.minNetEdge.val < mu - policy.expectedCost.val -
      forecast.uncertainty.val * policy.uncertaintyBufferMultiplier.val

omit [Sha256] in
/-- No sizing inputs, or a drawdown below its maximum. -/
def DrawdownAllows (sizingInputs : Option StrategySizingInputs) : Prop :=
  ∀ inputs ∈ sizingInputs, inputs.currentDrawdown.val < inputs.maxDrawdown.val

theorem expectedReturnFromForecast_eq_some_iff (forecast : Forecast)
    (policy : StrategyDecisionPolicy) (mu : Decimal) :
    expectedReturnFromForecast forecast policy = some mu ↔ ExpectedReturnIs forecast policy mu := by
  rw [expectedReturnFromForecast, ExpectedReturnIs]
  cases policy.expectedReturnSource with
  | medianQuantile =>
      dsimp only
      generalize List.map ForecastQuantile.value _ = values
      rcases values with _ | ⟨value, _ | ⟨next, values⟩⟩
      · simp
      · simp
      · simp

/-- What the classifier answers, with the reason that fits the action. -/
theorem classifyDecision_eq_buy_iff {expectedReturn expectedCost uncertainty netEdge : Decimal}
    {policy : StrategyDecisionPolicy} {unsupported : Bool} (hcost : 0 ≤ expectedCost)
    (huncertainty : 0 ≤ uncertainty) :
    (classifyDecision expectedReturn expectedCost uncertainty netEdge policy unsupported).1 = .buy ↔
      unsupported = false ∧ 0 < expectedReturn ∧
        BelowMaximum expectedCost policy.maxExpectedCost.val ∧
        BelowMaximum uncertainty policy.maxUncertainty.val ∧ policy.minNetEdge.val < netEdge := by
  rw [← breachesThreshold_eq_false_iff hcost policy.maxExpectedCost.2,
    ← breachesThreshold_eq_false_iff huncertainty policy.maxUncertainty.2, classifyDecision]
  -- one branch of the classifier for each condition, in its order
  cases unsupported with
  | true => simp
  | false =>
      by_cases hreturn : expectedReturn ≤ 0
      · simp [hreturn, hreturn.not_gt]
      cases breachesThreshold expectedCost policy.maxExpectedCost.val with
      | true => simp [hreturn]
      | false =>
          cases breachesThreshold uncertainty policy.maxUncertainty.val with
          | true => simp [hreturn]
          | false =>
              by_cases hedge : netEdge ≤ policy.minNetEdge.val
              · simp [hreturn, hedge, hedge.not_gt]
              · simp [hreturn, hedge, not_le.mp hreturn, not_le.mp hedge]

/-- The reason of a purchase is the positive edge, and only its. -/
theorem classifyDecision_reason (expectedReturn expectedCost uncertainty netEdge : Decimal)
    (policy : StrategyDecisionPolicy) (unsupported : Bool) :
    (classifyDecision expectedReturn expectedCost uncertainty netEdge policy unsupported).1 = .buy ↔
      (classifyDecision expectedReturn expectedCost uncertainty netEdge policy unsupported).2 =
        .tradePositiveNetEdge := by
  rw [classifyDecision]
  split_ifs <;> simp

omit [Sha256] in
theorem drawdownBlocksSize_eq_false_iff (sizingInputs : Option StrategySizingInputs) :
    drawdownBlocksSize .buy sizingInputs = false ↔ DrawdownAllows sizingInputs := by
  cases sizingInputs with
  | none => simp [drawdownBlocksSize, DrawdownAllows]
  | some inputs => simp [drawdownBlocksSize, DrawdownAllows]

section Action

variable {forecast : Forecast} {policy : StrategyDecisionPolicy}
variable {sizingInputs : Option StrategySizingInputs}

/-- The strategy buys exactly on an edge that the drawdown allows. -/
theorem settleAction_eq_buy_iff :
    (settleAction forecast policy sizingInputs).1 = .buy ↔
      HasEdge forecast policy ∧ DrawdownAllows sizingInputs := by
  have hclassified : (classifyDecision ((expectedReturnFromForecast forecast policy).getD 0)
      policy.expectedCost forecast.uncertainty
      ((expectedReturnFromForecast forecast policy).getD 0 - policy.expectedCost.val -
        (uncertaintyBuffer forecast policy).val) policy
      (expectedReturnFromForecast forecast policy).isNone).1 = .buy ↔ HasEdge forecast policy := by
    rw [classifyDecision_eq_buy_iff policy.expectedCost.2 forecast.uncertainty.2, HasEdge]
    simp only [← expectedReturnFromForecast_eq_some_iff]
    cases expectedReturnFromForecast forecast policy with
    | none => simp
    | some mu => simp [uncertaintyBuffer]
  rw [← hclassified, ← drawdownBlocksSize_eq_false_iff, settleAction]
  generalize classifyDecision _ _ _ _ _ _ = classified
  rcases classified with ⟨_ | _, reason⟩
  · cases drawdownBlocksSize .buy sizingInputs with
    | true => simp
    | false => simp
  · cases sizingInputs with
    | none => simp [drawdownBlocksSize]
    | some inputs => simp [drawdownBlocksSize]

theorem settleAction_reason :
    (settleAction forecast policy sizingInputs).1 = .buy ↔
      (settleAction forecast policy sizingInputs).2 = .tradePositiveNetEdge := by
  simp only [settleAction]
  split
  · simp
  · exact classifyDecision_reason _ _ _ _ _ _

end Action

/-! ## The decision -/

section Decision

variable {forecast : Forecast} {policy : StrategyDecisionPolicy} {strategyRunId : CanonicalId}
variable {decisionTs : AwareDatetime} {sizingInputs : Option StrategySizingInputs}

/-- The contract accepts the draft unless it buys on a budget of zero. -/
theorem decisionDraft_validateFields_iff {s : StrategySizingProposal}
    (hsized : SizedFor (settleAction forecast policy sizingInputs).1 policy.expectedCost
      forecast.uncertainty policy sizingInputs s) :
    (decisionDraft forecast policy strategyRunId decisionTs sizingInputs s).validateFields =
        .ok () ↔
      forecast.split ≠ .train ∧ forecast.featureTs ≤ decisionTs ∧
        ((settleAction forecast policy sizingInputs).1 = .buy →
          ∀ inputs ∈ sizingInputs, 0 < inputs.riskBudgetNotional.val) := by
  have haction : (decisionDraft forecast policy strategyRunId decisionTs sizingInputs
      s).validateAction = .ok () ↔ ((settleAction forecast policy sizingInputs).1 = .buy →
        ∀ inputs ∈ sizingInputs, 0 < inputs.riskBudgetNotional.val) := by
    have hreason := @settleAction_reason _ forecast policy sizingInputs
    cases hsettled : (settleAction forecast policy sizingInputs).1 with
    | noTrade =>
        rw [hsettled] at hreason hsized
        have hother : (settleAction forecast policy sizingInputs).2 ≠ .tradePositiveNetEdge :=
          fun h => nomatch hreason.mpr h
        simp only [StrategyDecision.validateAction, decisionDraft, hsettled, check_bind_eq_ok_iff,
          require_eq_ok_iff]
        exact ⟨fun _ => nofun, fun _ => ⟨hother, hsized.zero_without_trade rfl⟩⟩
    | buy =>
        obtain ⟨⟨mu, hmu, hpos, hcost, huncertainty, hedge⟩, hdrawdown⟩ :=
          settleAction_eq_buy_iff.mp hsettled
        rw [hsettled] at hreason hsized
        have hreturn : (expectedReturnFromForecast forecast policy).getD 0 = mu := by
          rw [(expectedReturnFromForecast_eq_some_iff _ _ _).mpr hmu, Option.getD_some]
        have hnetEdge : 0 < mu - policy.expectedCost.val - (uncertaintyBuffer forecast policy).val :=
          policy.minNetEdge.2.trans_lt hedge
        simp only [StrategyDecision.validateAction, decisionDraft, hsettled, check_bind_eq_ok_iff,
          require_eq_ok_iff, hreturn, hsized.carries]
        constructor
        · rintro ⟨-, -, hsize⟩ - inputs hinputs
          obtain ⟨-, hnotional, -⟩ := hsize (by rw [hinputs]; rfl)
          rw [hsized.notional rfl inputs hinputs] at hnotional
          exact pos_of_mul_pos_left hnotional (preRiskMultiplier _ _ _ _).2.1
        · intro hbudget
          refine ⟨hreason.mp rfl, ⟨hpos, hnetEdge⟩, fun hsome => ?_⟩
          obtain ⟨inputs, hinputs⟩ := Option.isSome_iff_exists.mp hsome
          have hmultiplier := (@preRiskMultiplier_pos_iff _ _ _ _ inputs policy.expectedCost.2
            forecast.uncertainty.2).mpr ⟨hcost, huncertainty, hdrawdown inputs hinputs⟩
          have hnotional : 0 < s.proposedNotional.val := by
            rw [hsized.notional rfl inputs hinputs]
            exact mul_pos (hbudget trivial inputs hinputs) hmultiplier
          refine ⟨hsized.pending hnotional, hnotional, ?_⟩
          rw [hsized.quantity inputs hinputs]
          exact div_pos hnotional inputs.referencePrice.2
  rw [StrategyDecision.validateFields_eq_ok_iff, haction]
  exact ⟨fun ⟨_, hsplit, hts, _, _, hbudget⟩ => ⟨hsplit, hts, hbudget⟩,
    fun ⟨hsplit, hts, hbudget⟩ => ⟨hsized.valid, hsplit, hts, rfl, rfl, hbudget⟩⟩

/-- What the strategy returns. -/
theorem decideExpectedNetEdge_eq_ok_iff (d : StrategyDecision) :
    decideExpectedNetEdge forecast policy strategyRunId decisionTs sizingInputs = .ok d ↔
      forecast.split ≠ .train ∧ forecast.featureTs ≤ decisionTs ∧
        ((settleAction forecast policy sizingInputs).1 = .buy →
          ∀ inputs ∈ sizingInputs, 0 < inputs.riskBudgetNotional.val) ∧
        ∃ s, SizedFor (settleAction forecast policy sizingInputs).1 policy.expectedCost
            forecast.uncertainty policy sizingInputs s ∧
          proposePreRiskSize (settleAction forecast policy sizingInputs).1
            (settleAction forecast policy sizingInputs).2 policy.expectedCost forecast.uncertainty
            policy sizingInputs = .ok s ∧
          d = StrategyDecision.stamping.sealed
            (decisionDraft forecast policy strategyRunId decisionTs sizingInputs s) := by
  obtain ⟨made, hmade, hsized⟩ := exists_proposePreRiskSize
    (settleAction forecast policy sizingInputs).1 (settleAction forecast policy sizingInputs).2
    policy sizingInputs policy.expectedCost.2 forecast.uncertainty.2
  simp only [decideExpectedNetEdge, check_bind_eq_ok_iff, require_eq_ok_iff, hmade, ok_bind,
    Library.Stamping.construct_eq_ok_iff]
  constructor
  · rintro ⟨hsplit, hfields, rfl⟩
    obtain ⟨-, hts, hbudget⟩ := (decisionDraft_validateFields_iff hsized).mp hfields
    exact ⟨hsplit, hts, hbudget, made, hsized, rfl, rfl⟩
  · rintro ⟨hsplit, hts, hbudget, s, -, hs, rfl⟩
    obtain rfl := Except.ok.inj hs
    exact ⟨hsplit, (decisionDraft_validateFields_iff hsized).mpr ⟨hsplit, hts, hbudget⟩, rfl⟩

end Decision

/-! ## Results -/

/-- What a returned decision says: it buys exactly on an edge that the drawdown allows, its size is
within the budget and consistent with the price, and no trade is of no size. -/
theorem decision_of_decide {forecast : Forecast} {policy : StrategyDecisionPolicy}
    {strategyRunId : CanonicalId} {decisionTs : AwareDatetime}
    {sizingInputs : Option StrategySizingInputs} {d : StrategyDecision}
    (h : decideExpectedNetEdge forecast policy strategyRunId decisionTs sizingInputs = .ok d) :
    (d.action = .buy ↔ HasEdge forecast policy ∧ DrawdownAllows sizingInputs) ∧
      (d.action = .noTrade → d.sizing.HasZeroSize) ∧
      ∀ inputs ∈ sizingInputs, d.action = .buy →
        d.sizing.proposedNotional.val = inputs.riskBudgetNotional.val *
          (preRiskMultiplier policy.expectedCost forecast.uncertainty policy inputs).val ∧
        0 < d.sizing.proposedNotional.val ∧
        d.sizing.proposedQuantity.val =
          d.sizing.proposedNotional.val / inputs.referencePrice.val := by
  obtain ⟨-, -, hbudget, s, hsized, -, rfl⟩ := (decideExpectedNetEdge_eq_ok_iff d).mp h
  refine ⟨settleAction_eq_buy_iff, hsized.zero_without_trade, fun inputs hinputs hbuy => ?_⟩
  have hbuy' : (settleAction forecast policy sizingInputs).1 = .buy := hbuy
  have hnotional := hsized.notional hbuy' inputs hinputs
  refine ⟨hnotional, ?_, hsized.quantity inputs hinputs⟩
  obtain ⟨⟨mu, -, -, hcost, huncertainty, -⟩, hdrawdown⟩ := settleAction_eq_buy_iff.mp hbuy'
  have hmultiplier := (@preRiskMultiplier_pos_iff _ _ _ policy inputs policy.expectedCost.2
    forecast.uncertainty.2).mpr ⟨hcost, huncertainty, hdrawdown inputs hinputs⟩
  exact hnotional ▸ mul_pos (hbudget hbuy' inputs hinputs) hmultiplier

/-- Whenever the strategy decides: it buys exactly on an edge that the drawdown allows, sizes a
purchase within its budget and consistently with the price, proposes nothing without a trade, and
among purchases the notional falls as cost, uncertainty and drawdown grow. -/
theorem strategy_decision_correct {forecast : Forecast} {policy : StrategyDecisionPolicy}
    {strategyRunId : CanonicalId} {decisionTs : AwareDatetime}
    {sizingInputs : Option StrategySizingInputs} {d : StrategyDecision}
    (h : decideExpectedNetEdge forecast policy strategyRunId decisionTs sizingInputs = .ok d) :
    (d.action = .buy ↔ HasEdge forecast policy ∧ DrawdownAllows sizingInputs) ∧
      (∀ inputs ∈ sizingInputs, d.action = .buy →
        0 < d.sizing.proposedNotional.val ∧
        d.sizing.proposedNotional.val ≤ inputs.riskBudgetNotional.val ∧
        d.sizing.proposedQuantity.val * inputs.referencePrice.val =
          d.sizing.proposedNotional.val) ∧
      (d.action = .noTrade →
        d.sizing.proposedNotional.val = 0 ∧ d.sizing.proposedQuantity.val = 0) ∧
      ∀ (forecast' : Forecast) (policy' : StrategyDecisionPolicy) (strategyRunId' : CanonicalId)
        (decisionTs' : AwareDatetime) (inputs inputs' : StrategySizingInputs)
        (d' : StrategyDecision),
        decideExpectedNetEdge forecast' policy' strategyRunId' decisionTs' (some inputs') =
          .ok d' →
        sizingInputs = some inputs → d.action = .buy → d'.action = .buy →
        policy'.maxExpectedCost = policy.maxExpectedCost →
        policy'.maxUncertainty = policy.maxUncertainty →
        inputs'.riskBudgetNotional = inputs.riskBudgetNotional →
        inputs'.maxDrawdown = inputs.maxDrawdown →
        policy.expectedCost.val ≤ policy'.expectedCost.val →
        forecast.uncertainty.val ≤ forecast'.uncertainty.val →
        inputs.currentDrawdown.val ≤ inputs'.currentDrawdown.val →
        d'.sizing.proposedNotional.val ≤ d.sizing.proposedNotional.val := by
  obtain ⟨haction, hzero, hsize⟩ := decision_of_decide h
  refine ⟨haction, fun inputs hinputs hbuy => ?_, hzero, ?_⟩
  · obtain ⟨hnotional, hpos, hquantity⟩ := hsize inputs hinputs hbuy
    refine ⟨hpos, ?_, ?_⟩
    · rw [hnotional]
      exact mul_le_of_le_one_right inputs.riskBudgetNotional.2 (preRiskMultiplier _ _ _ _).2.2
    · rw [hquantity, div_mul_cancel₀ _ inputs.referencePrice.2.ne']
  · rintro forecast' policy' _ _ inputs inputs' d' h' rfl hbuy hbuy' hmaxCost hmaxUncertainty
      hbudget hmaxDrawdown hcost huncertainty hdrawdown
    obtain ⟨-, -, hsize'⟩ := decision_of_decide h'
    obtain ⟨hnotional, -⟩ := hsize inputs rfl hbuy
    obtain ⟨hnotional', -⟩ := hsize' inputs' rfl hbuy'
    rw [hnotional, hnotional', hbudget]
    refine mul_le_mul_of_nonneg_left ?_ inputs.riskBudgetNotional.2
    exact preRiskMultiplier_antitone policy.expectedCost.2 forecast.uncertainty.2 hmaxCost
      hmaxUncertainty hmaxDrawdown hcost huncertainty hdrawdown

/-- The strategy raises exactly where it would buy on a budget of zero. -/
theorem decides_iff_no_trade_on_zero_budget (forecast : Forecast)
    (policy : StrategyDecisionPolicy) (strategyRunId : CanonicalId) (decisionTs : AwareDatetime)
    (sizingInputs : Option StrategySizingInputs) (hsplit : forecast.split ≠ .train)
    (hts : forecast.featureTs ≤ decisionTs) :
    (∃ d, decideExpectedNetEdge forecast policy strategyRunId decisionTs sizingInputs = .ok d) ↔
      ¬ (HasEdge forecast policy ∧ DrawdownAllows sizingInputs ∧
        ∃ inputs ∈ sizingInputs, inputs.riskBudgetNotional.val = 0) := by
  simp only [decideExpectedNetEdge_eq_ok_iff, settleAction_eq_buy_iff]
  constructor
  · rintro ⟨d, -, -, hbudget, -⟩ ⟨hedge, hdrawdown, inputs, hinputs, hzero⟩
    exact (hbudget ⟨hedge, hdrawdown⟩ inputs hinputs).ne' hzero
  · intro hno
    obtain ⟨s, hs, hsized⟩ := exists_proposePreRiskSize
      (settleAction forecast policy sizingInputs).1 (settleAction forecast policy sizingInputs).2
      policy sizingInputs policy.expectedCost.2 forecast.uncertainty.2
    refine ⟨_, hsplit, hts, fun ⟨hedge, hdrawdown⟩ inputs hinputs => ?_, s, hsized, hs, rfl⟩
    refine inputs.riskBudgetNotional.2.lt_of_ne' fun hzero => ?_
    exact hno ⟨hedge, hdrawdown, inputs, hinputs, hzero⟩

/-! ## A forecast with an edge -/

section Samples

omit [Sha256] in
theorem risingMetadata_nodup :
    ([("candidate_name", "CANDIDATE")].map Prod.fst : List String).Nodup := by decide

/-- A certain rise with median one, under the given id. -/
def risingForecast (forecastId : String) : Forecast :=
  let trainingRunHash := Contracts.hash .null
  let trainingRunId := Forecast.buildTrainingRunId trainingRunHash
  let modelVersionHash := Forecast.buildModelVersionHash trainingRunId trainingRunHash "CANDIDATE"
  { forecastId := forecastId, datasetSnapshotId := "DATASET", datasetHash := Contracts.hash .null,
    datasetRowId := "ROW", featureVectorId := "VECTOR", featureInputSnapshotId := "FEATURES",
    featureVersion := "V1", sourceFeatureSnapshotIds := [], instrumentId := "BTC-USD",
    venueId := "VENUE", featureTs := ⟨0, 0⟩, labelRuleId := "LABEL", split := .test,
    trainingRunId := trainingRunId, trainingRunHash := trainingRunHash,
    modelVersionId := Forecast.buildModelVersionId modelVersionHash,
    modelVersionHash := modelVersionHash, probabilities := ⟨[("up", 1), ("down", 0)], by decide⟩,
    quantiles := [⟨⟨1 / 2, Decimal.half_is_level⟩, 1⟩], uncertainty := ⟨0, Decimal.zero_le_zero⟩,
    calibrationStatus := .uncalibrated,
    calibrationMetadata := ⟨[("candidate_name", "CANDIDATE")], risingMetadata_nodup⟩ }

def sureForecast : Forecast := risingForecast (risingForecast "").buildId

theorem sureForecast_split : sureForecast.split ≠ .train := nofun

theorem sureForecast_valid : sureForecast.validate = .ok () := by
  have hodds : sureForecast.validateProbabilities = .ok () := by
    simp only [Forecast.validateProbabilities, check_bind_eq_ok_iff, require_eq_ok_iff,
      forM_eq_ok_iff]
    refine ⟨le_refl 2, fun entry hentry => ?_, ?_⟩
    · rcases List.mem_cons.mp hentry with rfl | hentry
      · exact ⟨zero_le_one, le_refl 1⟩
      · rw [List.mem_singleton.mp hentry]
        exact ⟨le_refl 0, zero_le_one⟩
    · show decimalSum [1, 0] = 1
      decide +kernel
  have hname : sureForecast.calibrationMetadata.get "candidate_name" = some "CANDIDATE" := by
    simp [sureForecast, risingForecast, StringDict.get]
  exact Forecast.validate_of_lineage ⟨isHexDigest_hash _, isHexDigest_hash _⟩ hodds
    (List.cons_ne_nil _ _) rfl sureForecast_split rfl hname rfl rfl rfl

/-- A policy without costs or thresholds. -/
def freePolicy : StrategyDecisionPolicy where
  policyId := buildStrategyDecisionPolicyId (buildStrategyDecisionPolicyHash "free" .medianQuantile
    (1 / 2) 0 0 1 0 0 [])
  policyHash := buildStrategyDecisionPolicyHash "free" .medianQuantile (1 / 2) 0 0 1 0 0 []
  name := "free"
  expectedCost := ⟨0, Decimal.zero_le_zero⟩
  maxExpectedCost := ⟨0, Decimal.zero_le_zero⟩
  maxUncertainty := ⟨0, Decimal.zero_le_zero⟩
  requirementIds := []
  hash_is_deterministic := rfl
  id_is_deterministic := rfl

omit [Sha256] in
/-- Sizing inputs with the given budget and no drawdown. -/
def inputsOf (budget : NonNegativeDecimal) : StrategySizingInputs where
  riskBudgetNotional := budget
  referencePrice := ⟨100, Decimal.zero_lt_hundred⟩
  maxDrawdown := ⟨1, Decimal.zero_lt_one⟩

theorem hasEdge_sureForecast : HasEdge sureForecast freePolicy := by
  refine ⟨1, ?_, by decide, .inr ⟨rfl, rfl⟩, .inr ⟨rfl, rfl⟩, ?_⟩
  · simp [ExpectedReturnIs, sureForecast, risingForecast, freePolicy]
  · simp [sureForecast, risingForecast, freePolicy]

end Samples

end Runs

/-- A purchase sized by a budget of 100. -/
theorem strategy_decision_correct_on_rise : ∃ d : StrategyDecision, d.action = .buy ∧
    d.sizing.proposedQuantity.val * 100 = d.sizing.proposedNotional.val := by
  let _ := hashlibSha256
  have hallows : DrawdownAllows (some (inputsOf ⟨100, by decide⟩)) := by
    intro inputs hinputs
    obtain rfl := Option.mem_some_iff.mp hinputs
    exact one_pos
  obtain ⟨d, hd⟩ : ∃ d, decideExpectedNetEdge sureForecast freePolicy ⟨"RUN", by decide⟩
      ⟨0, 0⟩ (some (inputsOf ⟨100, by decide⟩)) = .ok d := by
    obtain ⟨s, hs, hsized⟩ := exists_proposePreRiskSize
      (settleAction sureForecast freePolicy (some (inputsOf ⟨100, by decide⟩))).1
      (settleAction sureForecast freePolicy (some (inputsOf ⟨100, by decide⟩))).2
      freePolicy (some (inputsOf ⟨100, by decide⟩)) freePolicy.expectedCost.2
      sureForecast.uncertainty.2
    refine ⟨_, (decideExpectedNetEdge_eq_ok_iff _).mpr ⟨nofun, le_refl _, ?_, s, hsized, hs, rfl⟩⟩
    intro _ inputs hinputs
    obtain rfl := Option.mem_some_iff.mp hinputs
    exact show (0 : Decimal) < 100 by norm_num
  obtain ⟨haction, hsize, -⟩ := strategy_decision_correct hd
  have hbuy := haction.mpr ⟨hasEdge_sureForecast, hallows⟩
  exact ⟨d, hbuy, (hsize _ rfl hbuy).2.2⟩

/-- The strategy decides on a budget of 100. -/
theorem decides_on_positive_budget : ∃ d,
    @decideExpectedNetEdge hashlibSha256 (@sureForecast hashlibSha256) (@freePolicy hashlibSha256)
      ⟨"RUN", by decide⟩ ⟨0, 0⟩ (some (inputsOf ⟨100, by decide⟩)) = .ok d := by
  let _ := hashlibSha256
  refine (decides_iff_no_trade_on_zero_budget _ _ _ _ _ sureForecast_split (le_refl _)).mpr ?_
  rintro ⟨-, -, inputs, hinputs, hzero⟩
  obtain rfl := Option.mem_some_iff.mp hinputs
  exact absurd hzero (show (100 : Decimal) ≠ 0 by norm_num)

/-- A valid forecast with an edge on which the strategy raises: the budget is zero. -/
theorem raises_on_zero_budget :
    @Forecast.validate hashlibSha256 (@sureForecast hashlibSha256) = .ok () ∧
      (@sureForecast hashlibSha256).split ≠ .train ∧
      ∀ d, @decideExpectedNetEdge hashlibSha256 (@sureForecast hashlibSha256)
        (@freePolicy hashlibSha256) ⟨"RUN", by decide⟩ ⟨0, 0⟩
        (some (inputsOf ⟨0, le_refl 0⟩)) ≠ .ok d := by
  let _ := hashlibSha256
  refine ⟨sureForecast_valid, sureForecast_split, fun d hd => ?_⟩
  obtain ⟨-, -, hbudget, -⟩ := (decideExpectedNetEdge_eq_ok_iff d).mp hd
  have hallows : DrawdownAllows (some (inputsOf ⟨0, le_refl 0⟩)) := by
    intro inputs hinputs
    obtain rfl := Option.mem_some_iff.mp hinputs
    exact one_pos
  have hpos := hbudget (settleAction_eq_buy_iff.mpr ⟨hasEdge_sureForecast, hallows⟩) _ rfl
  exact lt_irrefl _ hpos

end TaModel.Strategy
