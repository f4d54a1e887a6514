import TaModel.Contracts.DecimalLaws
import TaModel.Library.StateFold
import TaModel.Strategy.GateReport
import TaModel.Strategy.NetEdge

/-!
# What a strategy gate report says

A report is built exactly from observations that match the decisions one to one and from decisions of
both kinds (`gate_report_succeeds_iff`). It does not depend on the order of its inputs
(`gate_report_order_independent`), and its counts, amounts and reasons account for every decision
(`gate_report_accounts`).
-/

set_option autoImplicit false

namespace TaModel.Strategy

open Contracts Library

/-! ## The loop -/

/-- The pairs of the taken decisions. -/
def takenOf (pairs : List (StrategyDecision × StrategyGateUtilityObservation)) :
    List (StrategyDecision × StrategyGateUtilityObservation) :=
  pairs.filter fun pair => decide (pair.1.action = .buy)

/-- The pairs of the skipped decisions. -/
def skippedOf (pairs : List (StrategyDecision × StrategyGateUtilityObservation)) :
    List (StrategyDecision × StrategyGateUtilityObservation) :=
  pairs.filter fun pair => decide (pair.1.action = .noTrade)

/-- The size of a proposal. -/
def notionalOf (pair : StrategyDecision × StrategyGateUtilityObservation) : Decimal :=
  pair.1.sizing.proposedNotional.val

/-- The expected cost of a proposal. -/
def costOf (pair : StrategyDecision × StrategyGateUtilityObservation) : Decimal :=
  rounded (notionalOf pair * pair.1.expectedCost.val)

theorem notionalOf_nonneg (pair : StrategyDecision × StrategyGateUtilityObservation) :
    0 ≤ notionalOf pair :=
  pair.1.sizing.proposedNotional.2

theorem costOf_nonneg (pair : StrategyDecision × StrategyGateUtilityObservation) :
    0 ≤ costOf pair :=
  rounded_nonneg (mul_nonneg (notionalOf_nonneg pair) pair.1.expectedCost.2)

/-- What the loop adds to the totals it starts from. -/
theorem foldl_add (pairs : List (StrategyDecision × StrategyGateUtilityObservation))
    (totals : GateTotals) :
    pairs.foldl GateTotals.add totals =
      { takenUtilities := totals.takenUtilities ++ (takenOf pairs).map netUtility,
        skippedUtilities := totals.skippedUtilities ++ (skippedOf pairs).map netUtility,
        turnoverProxyNotional := ((takenOf pairs).map notionalOf).foldl
          (fun total value => rounded (total + value)) totals.turnoverProxyNotional,
        costDragNotional := ((takenOf pairs).map costOf).foldl
          (fun total value => rounded (total + value)) totals.costDragNotional } := by
  induction pairs generalizing totals with
  | nil => simp [takenOf, skippedOf]
  | cons pair pairs ih =>
      rw [List.foldl_cons, ih]
      cases haction : pair.1.action with
      | buy => simp [GateTotals.add, takenOf, skippedOf, haction, notionalOf, costOf]
      | noTrade => simp [GateTotals.add, takenOf, skippedOf, haction]

/-- The totals of the decisions of a report. -/
def totalsOf (pairs : List (StrategyDecision × StrategyGateUtilityObservation)) : GateTotals where
  takenUtilities := (takenOf pairs).map netUtility
  skippedUtilities := (skippedOf pairs).map netUtility
  turnoverProxyNotional := decimalSum ((takenOf pairs).map notionalOf)
  costDragNotional := decimalSum ((takenOf pairs).map costOf)

theorem foldl_add_empty (pairs : List (StrategyDecision × StrategyGateUtilityObservation)) :
    pairs.foldl GateTotals.add {} = totalsOf pairs :=
  foldl_add pairs {}

theorem length_taken_add_skipped
    (pairs : List (StrategyDecision × StrategyGateUtilityObservation)) :
    (takenOf pairs).length + (skippedOf pairs).length = pairs.length := by
  induction pairs with
  | nil => rfl
  | cons pair pairs ih =>
      cases haction : pair.1.action with
      | buy =>
          simp only [takenOf, skippedOf, haction, List.filter_cons, List.length_cons] at ih ⊢
          simp
          omega
      | noTrade =>
          simp only [takenOf, skippedOf, haction, List.filter_cons, List.length_cons] at ih ⊢
          simp
          omega

/-! ## Reasons -/

/-- The sorted counter behind the reason counts. -/
theorem isTally_reasons (decisions : List StrategyDecision) :
    IsTally StrategyDecision.reasonCode decisions
      (sortedByKey (fun entry : StrategyDecision × Nat => entry.1.reasonCode.value)
        (tally StrategyDecision.reasonCode decisions)) :=
  (isTally_tally decisions).perm (List.perm_insertionSort _ _)

theorem reasonCounts_pos (decisions : List StrategyDecision) :
    ∀ c ∈ buildStrategyDecisionReasonCounts decisions, 0 < c.count := by
  intro c hc
  obtain ⟨entry, hentry, rfl⟩ := List.mem_map.mp hc
  exact (isTally_reasons decisions).entry_pos hentry

theorem mem_reasonCounts_iff (decisions : List StrategyDecision) (c : StrategyDecisionReasonCount) :
    c ∈ buildStrategyDecisionReasonCounts decisions ↔
      (∃ d ∈ decisions, d.reasonCode = c.reasonCode) ∧
        c.count = occurrences StrategyDecision.reasonCode decisions c.reasonCode := by
  rw [← (isTally_reasons decisions).exists_entry_iff]
  constructor
  · intro hc
    obtain ⟨entry, hentry, rfl⟩ := List.mem_map.mp hc
    exact ⟨entry, hentry, rfl, rfl⟩
  · rintro ⟨entry, hentry, hcode, hcount⟩
    refine List.mem_map.mpr ⟨entry, hentry, ?_⟩
    rw [hcode, hcount]

/-- The counts add up to the number of decisions. -/
theorem sum_reasonCounts (decisions : List StrategyDecision) :
    ((buildStrategyDecisionReasonCounts decisions).map StrategyDecisionReasonCount.count).sum =
      decisions.length := by
  rw [buildStrategyDecisionReasonCounts, List.map_map]
  exact (isTally_reasons decisions).sum_eq

theorem reasonCode_value_injective : Function.Injective StrategyDecisionReasonCode.value := by
  intro a b h
  cases a <;> cases b <;> first | rfl | exact absurd h (by decide)

/-- No reason is listed twice, and the reasons are in order. -/
theorem reasonCounts_sorted (decisions : List StrategyDecision) :
    (buildStrategyDecisionReasonCounts decisions).Pairwise fun c c' =>
      c.reasonCode.value < c'.reasonCode.value := by
  rw [buildStrategyDecisionReasonCounts, List.pairwise_map]
  exact (@isTally_tally _ _ _ StrategyDecision.reasonCode decisions).pairwise_rank_lt
    reasonCode_value_injective

/-! ## The report -/

/-- A decision beside its observation. -/
def Observed (observations : List StrategyGateUtilityObservation) (decision : StrategyDecision)
    (pair : StrategyDecision × StrategyGateUtilityObservation) : Prop :=
  pair.1 = decision ∧ pair.2 ∈ observations ∧ pair.2.decisionId = decision.decisionId

theorem withObservation_eq_ok_iff {observations : List StrategyGateUtilityObservation}
    (hnodup : (observations.map StrategyGateUtilityObservation.decisionId).Nodup)
    (decision : StrategyDecision) (pair : StrategyDecision × StrategyGateUtilityObservation) :
    withObservation observations decision = .ok pair ↔ Observed observations decision pair := by
  obtain ⟨d, o⟩ := pair
  rw [withObservation]
  constructor
  · intro h
    split at h
    · next found hfound =>
        cases h
        exact ⟨rfl, (lookupKey_eq_some_iff hnodup _ _).mp hfound⟩
    · cases h
  · rintro ⟨rfl, hmem, hid⟩
    rw [(lookupKey_eq_some_iff hnodup _ _).mpr ⟨hmem, hid⟩]

/-- Every decision has exactly one observation. -/
structure Matched (decisions : List StrategyDecision)
    (observations : List StrategyGateUtilityObservation) : Prop where
  distinct : (observations.map StrategyGateUtilityObservation.decisionId).Nodup
  covered : ∀ d ∈ decisions,
    d.decisionId ∈ observations.map StrategyGateUtilityObservation.decisionId
  known : ∀ o ∈ observations, o.decisionId ∈ decisions.map StrategyDecision.decisionId

/-- The pairs of a report, in order of the decision ids. -/
def PairsOf (decisions : List StrategyDecision)
    (observations : List StrategyGateUtilityObservation)
    (pairs : List (StrategyDecision × StrategyGateUtilityObservation)) : Prop :=
  List.Forall₂ (Observed observations) (sortedByKey StrategyDecision.decisionId decisions) pairs

theorem PairsOf.decisions_eq {decisions : List StrategyDecision}
    {observations : List StrategyGateUtilityObservation}
    {pairs : List (StrategyDecision × StrategyGateUtilityObservation)}
    (h : PairsOf decisions observations pairs) :
    pairs.map Prod.fst = sortedByKey StrategyDecision.decisionId decisions := by
  have hmap := @map_eq_of_forall₂ _ _ _ _ id Prod.fst _ _ h fun d pair hobserved =>
    hobserved.1.symm
  rw [List.map_id] at hmap
  exact hmap.symm

theorem exists_pairsOf {decisions : List StrategyDecision}
    {observations : List StrategyGateUtilityObservation} (h : Matched decisions observations) :
    ∃ pairs, PairsOf decisions observations pairs := by
  apply exists_forall₂
  intro d hd
  obtain ⟨o, ho, hid⟩ := List.mem_map.mp (h.covered d ((List.mem_insertionSort _).mp hd))
  exact ⟨(d, o), rfl, ho, hid⟩

/-- The decision of a pair is one of the given ones, and every decision is in a pair. -/
theorem PairsOf.mem_iff {decisions : List StrategyDecision}
    {observations : List StrategyGateUtilityObservation}
    {pairs : List (StrategyDecision × StrategyGateUtilityObservation)}
    (h : PairsOf decisions observations pairs) (d : StrategyDecision) :
    d ∈ decisions ↔ ∃ pair ∈ pairs, pair.1 = d := by
  have hmem : d ∈ pairs.map Prod.fst ↔ d ∈ decisions := by
    rw [h.decisions_eq]
    exact List.mem_insertionSort _
  rw [← hmem]
  exact List.mem_map

theorem validateFields_gateDraft {pairs : List (StrategyDecision × StrategyGateUtilityObservation)}
    (hne : pairs ≠ []) : (gateDraft pairs (totalsOf pairs)).validateFields = .ok () := by
  have hamounts : ∀ f : StrategyDecision × StrategyGateUtilityObservation → Decimal,
      (∀ pair, 0 ≤ f pair) → 0 ≤ decimalSum ((takenOf pairs).map f) := by
    intro f hf
    apply decimalSum_nonneg
    intro v hv
    obtain ⟨pair, -, rfl⟩ := List.mem_map.mp hv
    exact hf pair
  simp only [StrategyGateReport.validateFields, check_bind_eq_ok_iff, require_eq_ok_iff, gateDraft,
    totalsOf, List.length_map]
  exact ⟨List.length_pos_iff.mpr hne, hamounts notionalOf notionalOf_nonneg,
    hamounts costOf costOf_nonneg, reasonCounts_pos _, trivial, trivial,
    length_taken_add_skipped pairs⟩

variable [Sha256]

/-- What a report is built from. -/
theorem buildStrategyGateReport_eq_ok_iff (decisions : List StrategyDecision)
    (observations : List StrategyGateUtilityObservation) (report : StrategyGateReport) :
    buildStrategyGateReport decisions observations = .ok report ↔
      Matched decisions observations ∧ ∃ pairs, PairsOf decisions observations pairs ∧
        takenOf pairs ≠ [] ∧ skippedOf pairs ≠ [] ∧
        report = StrategyGateReport.stamping.sealed (gateDraft pairs (totalsOf pairs)) := by
  rw [buildStrategyGateReport, observationsByDecisionId, collectFresh_eq, check_bind_eq_ok_iff,
    require_eq_ok_iff]
  constructor
  · rintro ⟨hne, h⟩
    split_ifs at h with hnodup
    · simp only [ok_bind, check_bind_eq_ok_iff, require_eq_ok_iff] at h
      obtain ⟨hcovered, hknown, h⟩ := h
      obtain ⟨pairs, hpairs, h⟩ := (bind_eq_ok_iff _ _ _).mp h
      have hpairs : PairsOf decisions observations pairs :=
        ((mapM_eq_ok_iff _ _ _).mp hpairs).imp fun d pair hpair =>
          (withObservation_eq_ok_iff hnodup d pair).mp hpair
      rw [check_bind_eq_ok_iff, require_eq_ok_iff, foldl_add_empty,
        Stamping.construct_eq_ok_iff] at h
      obtain ⟨⟨htaken, hskipped⟩, -, hreport⟩ := h
      exact ⟨⟨hnodup, hcovered, hknown⟩, pairs, hpairs, fun hnil => htaken (by simp [totalsOf, hnil]),
        fun hnil => hskipped (by simp [totalsOf, hnil]), hreport⟩
    · cases h
  · rintro ⟨hmatched, pairs, hpairs, htaken, hskipped, rfl⟩
    have hpairsNe : pairs ≠ [] := by
      rintro rfl
      exact htaken rfl
    have hne : decisions ≠ [] := by
      rintro rfl
      cases hpairs
      exact hpairsNe rfl
    have hordered : (sortedByKey StrategyDecision.decisionId decisions).mapM
        (withObservation observations) = .ok pairs :=
      (mapM_eq_ok_iff _ _ _).mpr (hpairs.imp fun d pair hpair =>
        (withObservation_eq_ok_iff hmatched.distinct d pair).mpr hpair)
    refine ⟨hne, ?_⟩
    rw [if_pos hmatched.distinct]
    simp only [ok_bind, check_bind_eq_ok_iff, require_eq_ok_iff, hordered, foldl_add_empty]
    refine ⟨hmatched.covered, hmatched.known, ⟨?_, ?_⟩, ?_⟩
    · simpa [totalsOf] using htaken
    · simpa [totalsOf] using hskipped
    · exact (Stamping.construct_eq_ok_iff _ _ _).mpr ⟨validateFields_gateDraft hpairsNe, rfl⟩

/-! ## When a report is built -/

omit [Sha256] in
theorem takenOf_ne_nil_iff {decisions : List StrategyDecision}
    {observations : List StrategyGateUtilityObservation}
    {pairs : List (StrategyDecision × StrategyGateUtilityObservation)}
    (h : PairsOf decisions observations pairs) :
    takenOf pairs ≠ [] ↔ ∃ d ∈ decisions, d.action = .buy := by
  simp only [takenOf, ne_eq, List.filter_eq_nil_iff, decide_eq_true_eq, not_forall, not_not,
    exists_prop]
  constructor
  · rintro ⟨pair, hpair, haction⟩
    exact ⟨pair.1, (h.mem_iff pair.1).mpr ⟨pair, hpair, rfl⟩, haction⟩
  · rintro ⟨d, hd, haction⟩
    obtain ⟨pair, hpair, rfl⟩ := (h.mem_iff d).mp hd
    exact ⟨pair, hpair, haction⟩

omit [Sha256] in
theorem skippedOf_ne_nil_iff {decisions : List StrategyDecision}
    {observations : List StrategyGateUtilityObservation}
    {pairs : List (StrategyDecision × StrategyGateUtilityObservation)}
    (h : PairsOf decisions observations pairs) :
    skippedOf pairs ≠ [] ↔ ∃ d ∈ decisions, d.action = .noTrade := by
  simp only [skippedOf, ne_eq, List.filter_eq_nil_iff, decide_eq_true_eq, not_forall, not_not,
    exists_prop]
  constructor
  · rintro ⟨pair, hpair, haction⟩
    exact ⟨pair.1, (h.mem_iff pair.1).mpr ⟨pair, hpair, rfl⟩, haction⟩
  · rintro ⟨d, hd, haction⟩
    obtain ⟨pair, hpair, rfl⟩ := (h.mem_iff d).mp hd
    exact ⟨pair, hpair, haction⟩

theorem exists_gateReport {decisions : List StrategyDecision}
    {observations : List StrategyGateUtilityObservation} (hmatched : Matched decisions observations)
    (htaken : ∃ d ∈ decisions, d.action = .buy) (hskipped : ∃ d ∈ decisions, d.action = .noTrade) :
    ∃ report, buildStrategyGateReport decisions observations = .ok report := by
  obtain ⟨pairs, hpairs⟩ := exists_pairsOf hmatched
  exact ⟨_, (buildStrategyGateReport_eq_ok_iff _ _ _).mpr ⟨hmatched, pairs, hpairs,
    (takenOf_ne_nil_iff hpairs).mpr htaken, (skippedOf_ne_nil_iff hpairs).mpr hskipped, rfl⟩⟩

/-- A report is built if and only if the observations match the decisions one to one and some
decision was taken and some was skipped; the checks of the report itself never fail. -/
theorem gate_report_succeeds_iff (decisions : List StrategyDecision)
    (observations : List StrategyGateUtilityObservation) :
    (∃ report, buildStrategyGateReport decisions observations = .ok report) ↔
      Matched decisions observations ∧ (∃ d ∈ decisions, d.action = .buy) ∧
        ∃ d ∈ decisions, d.action = .noTrade := by
  constructor
  · rintro ⟨report, h⟩
    obtain ⟨hmatched, pairs, hpairs, htaken, hskipped, -⟩ :=
      (buildStrategyGateReport_eq_ok_iff _ _ _).mp h
    exact ⟨hmatched, (takenOf_ne_nil_iff hpairs).mp htaken,
      (skippedOf_ne_nil_iff hpairs).mp hskipped⟩
  · rintro ⟨hmatched, htaken, hskipped⟩
    exact exists_gateReport hmatched htaken hskipped

/-! ## The order of the inputs -/

omit [Sha256] in
theorem require_congr {ok ok' : Prop} [Decidable ok] [Decidable ok'] (h : ok ↔ ok')
    (message : String) : require ok message = require ok' message := by
  simp only [require, h]


/-- The report is the same for decisions and observations in any order, and so is the error. -/
theorem gate_report_order_independent {decisions decisions' : List StrategyDecision}
    {observations observations' : List StrategyGateUtilityObservation}
    (hdecisions : decisions.Perm decisions') (hobservations : observations.Perm observations')
    (hids : KeyDetermines StrategyDecision.decisionId decisions) :
    buildStrategyGateReport decisions observations =
      buildStrategyGateReport decisions' observations' := by
  have hsorted : sortedByKey StrategyDecision.decisionId decisions =
      sortedByKey StrategyDecision.decisionId decisions' :=
    insertionSort_perm_of_keyDetermines hdecisions hids
  have hnodup := (hobservations.map StrategyGateUtilityObservation.decisionId).nodup_iff
  have hempty : decisions ≠ [] ↔ decisions' ≠ [] := not_congr ⟨by
    rintro rfl
    exact hdecisions.nil_eq.symm, by
    rintro rfl
    exact hdecisions.symm.nil_eq.symm⟩
  have hcovered : (∀ d ∈ decisions, d.decisionId ∈
        observations.map StrategyGateUtilityObservation.decisionId) ↔
      ∀ d ∈ decisions', d.decisionId ∈
        observations'.map StrategyGateUtilityObservation.decisionId := by
    simp only [hdecisions.mem_iff, (hobservations.map _).mem_iff]
  have hknown : (∀ o ∈ observations, o.decisionId ∈ decisions.map StrategyDecision.decisionId) ↔
      ∀ o ∈ observations', o.decisionId ∈ decisions'.map StrategyDecision.decisionId := by
    simp only [hobservations.mem_iff, (hdecisions.map _).mem_iff]
  simp only [buildStrategyGateReport, observationsByDecisionId, collectFresh_eq]
  rw [require_congr hempty]
  by_cases hdistinct : (observations.map StrategyGateUtilityObservation.decisionId).Nodup
  · -- both dictionaries answer alike
    have hlookup : withObservation observations = withObservation observations' := by
      funext d
      rw [withObservation, withObservation, lookupKey_perm hobservations hdistinct]
    rw [if_pos hdistinct, if_pos (hnodup.mp hdistinct), ok_bind, ok_bind, require_congr hcovered,
      require_congr hknown, hsorted, hlookup]
  · rw [if_neg hdistinct, if_neg (mt hnodup.mpr hdistinct), error_bind, error_bind]

omit [Sha256] in
/-- A decision of a test, as it is before its hash. -/
def sampleDecision (decisionId : String) (action : StrategyDecisionAction) : StrategyDecision where
  decisionId := decisionId
  decisionHash := ""
  traceId := "TRACE"
  strategyRunId := "RUN"
  policyId := "POLICY"
  policyHash := ""
  sourceForecastId := "FORECAST"
  datasetSnapshotId := "DATASET"
  datasetRowId := "ROW"
  featureVectorId := "VECTOR"
  featureInputSnapshotId := "FEATURES"
  featureVersion := "V1"
  sourceFeatureSnapshotIds := []
  instrumentId := "BTC-USD"
  venueId := "VENUE"
  featureTs := ⟨0, 0⟩
  decisionTs := ⟨0, 0⟩
  labelRuleId := "LABEL"
  split := .test
  trainingRunId := "TRAINING"
  modelVersionId := "MODEL"
  modelVersionHash := ""
  action := action
  expectedReturn := 1
  expectedCost := ⟨0, Decimal.zero_le_zero⟩
  uncertainty := ⟨0, Decimal.zero_le_zero⟩
  uncertaintyBuffer := ⟨0, Decimal.zero_le_zero⟩
  netEdge := 1
  reasonCode := .tradePositiveNetEdge

omit [Sha256] in
/-- Two decisions and their observations, given in both orders. -/
theorem gate_report_order_independent_swap :
    @buildStrategyGateReport hashlibSha256 [sampleDecision "A" .buy, sampleDecision "B" .noTrade]
        [⟨"B", 1, 0, "SOURCE"⟩, ⟨"A", 2, 0, "SOURCE"⟩] =
      @buildStrategyGateReport hashlibSha256 [sampleDecision "B" .noTrade, sampleDecision "A" .buy]
        [⟨"A", 2, 0, "SOURCE"⟩, ⟨"B", 1, 0, "SOURCE"⟩] := by
  apply @gate_report_order_independent hashlibSha256 _ _ _ _ (List.Perm.swap _ _ _)
    (List.Perm.swap _ _ _)
  intro d hd d' hd' hid
  simp only [List.mem_cons, List.not_mem_nil, or_false] at hd hd'
  rcases hd with rfl | rfl
  · rcases hd' with rfl | rfl
    · rfl
    · exact absurd hid (by decide)
  · rcases hd' with rfl | rfl
    · exact absurd hid (by decide)
    · rfl

/-! ## What is accounted for -/

/-- The report accounts for the decisions it was built from. -/
structure GateAccounts (decisions : List StrategyDecision)
    (observations : List StrategyGateUtilityObservation) (report : StrategyGateReport) : Prop where
  inputs : report.inputDecisionIds.Perm (decisions.map StrategyDecision.decisionId)
  inputs_sorted : report.inputDecisionIds.Pairwise (· ≤ ·)
  observed : report.utilityObservations.map StrategyGateUtilityObservation.decisionId =
    report.inputDecisionIds
  given : ∀ o ∈ report.utilityObservations, o ∈ observations
  count : report.observationCount = decisions.length
  taken : report.takenCount = decisions.countP fun d => decide (d.action = .buy)
  skipped : report.skippedCount = decisions.countP fun d => decide (d.action = .noTrade)
  reasons : ∀ c, c ∈ report.reasonCounts ↔ (∃ d ∈ decisions, d.reasonCode = c.reasonCode) ∧
    c.count = decisions.countP fun d => decide (d.reasonCode = c.reasonCode)
  reasons_sorted : report.reasonCounts.Pairwise fun c c' => c.reasonCode.value < c'.reasonCode.value
  reasons_sum : (report.reasonCounts.map StrategyDecisionReasonCount.count).sum = decisions.length
  taken_reason : ⟨.tradePositiveNetEdge, report.takenCount⟩ ∈ report.reasonCounts
  turnover : report.turnoverProxyNotional = 0 ↔
    ∀ d ∈ decisions, d.action = .buy → d.sizing.sizingInputs = none
  cost_drag : report.costDragNotional = 0 ↔
    ∀ d ∈ decisions, d.action = .buy → d.sizing.sizingInputs = none ∨ d.expectedCost.val = 0
  verdict : 0 < report.skippedVsTakenMeanUtility ↔
    report.takenMeanUtility < report.skippedMeanOpportunityUtility

section Pairs

omit [Sha256]

variable {decisions : List StrategyDecision} {observations : List StrategyGateUtilityObservation}
variable {pairs : List (StrategyDecision × StrategyGateUtilityObservation)}

/-- The pairs of a report hold the decisions. -/
theorem PairsOf.perm (h : PairsOf decisions observations pairs) :
    (pairs.map Prod.fst).Perm decisions := by
  rw [h.decisions_eq]
  exact List.perm_insertionSort _ _

/-- The pairs of a report count the decisions. -/
theorem PairsOf.countP_eq (h : PairsOf decisions observations pairs) (p : StrategyDecision → Bool) :
    (pairs.filter fun pair => p pair.1).length = decisions.countP p := by
  rw [← h.perm.countP_eq p, List.countP_map, List.countP_eq_length_filter]
  rfl

/-- What holds of the taken pairs holds of the taken decisions. -/
theorem PairsOf.forall_taken_iff (h : PairsOf decisions observations pairs)
    (P : StrategyDecision → Prop) :
    (∀ pair ∈ takenOf pairs, P pair.1) ↔ ∀ d ∈ decisions, d.action = .buy → P d := by
  constructor
  · intro hP d hd hbuy
    obtain ⟨pair, hpair, rfl⟩ := (h.mem_iff d).mp hd
    exact hP pair (List.mem_filter.mpr ⟨hpair, decide_eq_true hbuy⟩)
  · intro hP pair hpair
    obtain ⟨hmem, hbuy⟩ := List.mem_filter.mp hpair
    exact hP pair.1 ((h.mem_iff pair.1).mpr ⟨pair, hmem, rfl⟩) (of_decide_eq_true hbuy)

theorem sum_map_eq_zero_iff {f : StrategyDecision × StrategyGateUtilityObservation → Decimal}
    (hf : ∀ pair, 0 ≤ f pair) (ps : List (StrategyDecision × StrategyGateUtilityObservation)) :
    decimalSum (ps.map f) = 0 ↔ ∀ pair ∈ ps, f pair = 0 := by
  rw [decimalSum_eq_zero_iff, List.forall_mem_map]
  intro v hv
  obtain ⟨pair, -, rfl⟩ := List.mem_map.mp hv
  exact hf pair

/-- Without turnover no taken decision proposes a size. -/
theorem PairsOf.turnover_eq_zero_iff (h : PairsOf decisions observations pairs) :
    decimalSum ((takenOf pairs).map notionalOf) = 0 ↔
      ∀ d ∈ decisions, d.action = .buy → d.sizing.proposedNotional.val = 0 :=
  (sum_map_eq_zero_iff notionalOf_nonneg _).trans
    (h.forall_taken_iff fun d => d.sizing.proposedNotional.val = 0)

/-- Without cost drag every taken decision is free or proposes no size. -/
theorem PairsOf.costDrag_eq_zero_iff (h : PairsOf decisions observations pairs) :
    decimalSum ((takenOf pairs).map costOf) = 0 ↔ ∀ d ∈ decisions, d.action = .buy →
      d.sizing.proposedNotional.val = 0 ∨ d.expectedCost.val = 0 := by
  have hcost : ∀ pair, costOf pair = 0 ↔
      pair.1.sizing.proposedNotional.val = 0 ∨ pair.1.expectedCost.val = 0 := by
    intro pair
    rw [costOf, rounded_eq_zero_iff_of_nonneg
      (mul_nonneg (notionalOf_nonneg pair) pair.1.expectedCost.2), mul_eq_zero]
    rfl
  rw [sum_map_eq_zero_iff costOf_nonneg]
  simp only [hcost]
  exact h.forall_taken_iff fun d => d.sizing.proposedNotional.val = 0 ∨ d.expectedCost.val = 0

end Pairs

/-- A taken decision has the reason of a trade, and no other decision has it. -/
theorem reason_of_validate {d : StrategyDecision} (h : d.validate = .ok ()) :
    d.reasonCode = .tradePositiveNetEdge ↔ d.action = .buy := by
  obtain ⟨hfields, -⟩ := (StrategyDecision.stamping.validate_eq_ok_iff d).mp h
  obtain ⟨-, -, -, -, -, haction⟩ := (StrategyDecision.validateFields_eq_ok_iff d).mp hfields
  unfold StrategyDecision.validateAction at haction
  cases hd : d.action with
  | buy =>
      simp only [hd, check_bind_eq_ok_iff, require_eq_ok_iff] at haction
      simp [haction.1]
  | noTrade =>
      simp only [hd, check_bind_eq_ok_iff, require_eq_ok_iff] at haction
      simp [haction.1]

/-- A taken decision proposes a size exactly if it has sizing inputs. -/
theorem notional_of_validate {d : StrategyDecision} (h : d.validate = .ok ())
    (hbuy : d.action = .buy) :
    d.sizing.proposedNotional.val = 0 ↔ d.sizing.sizingInputs = none := by
  obtain ⟨hfields, -⟩ := (StrategyDecision.stamping.validate_eq_ok_iff d).mp h
  obtain ⟨hsizing, -, -, -, -, haction⟩ := (StrategyDecision.validateFields_eq_ok_iff d).mp hfields
  simp only [StrategyDecision.validateAction, hbuy, check_bind_eq_ok_iff, require_eq_ok_iff]
    at haction
  simp only [StrategySizingProposal.validate, check_bind_eq_ok_iff, require_eq_ok_iff] at hsizing
  obtain ⟨-, -, hsize, hinputs⟩ := hsizing
  cases hsome : d.sizing.sizingInputs with
  | none =>
      simp only [hsome, Option.isNone_none, if_true, check_bind_eq_ok_iff,
        require_eq_ok_iff] at hinputs
      exact iff_of_true (hsize.resolve_left hinputs.1).1 rfl
  | some inputs =>
      have hpositive := (haction.2.2 (by rw [hsome]; rfl)).2.1
      exact iff_of_false hpositive.ne' (Option.some_ne_none inputs)

/-! ### Two decisions of the strategy -/

/-- One observation for each decision id. -/
def observationsFor (decisions : List StrategyDecision) : List StrategyGateUtilityObservation :=
  (decisions.map StrategyDecision.decisionId).dedup.map fun id =>
    { decisionId := id, realizedReturn := 1 }

omit [Sha256] in
theorem matched_observationsFor (decisions : List StrategyDecision) :
    Matched decisions (observationsFor decisions) := by
  have hids : (observationsFor decisions).map StrategyGateUtilityObservation.decisionId =
      (decisions.map StrategyDecision.decisionId).dedup := by
    rw [observationsFor, List.map_map]
    exact List.map_id _
  refine ⟨?_, ?_, ?_⟩
  · rw [hids]
    exact List.nodup_dedup _
  · intro d hd
    rw [hids, List.mem_dedup]
    exact List.mem_map_of_mem hd
  · intro o ho
    have hid := List.mem_map_of_mem (f := StrategyGateUtilityObservation.decisionId) ho
    rwa [hids, List.mem_dedup] at hid

omit [Sha256] in
/-- A budget of 100 with the drawdown limit reached. -/
def exhaustedInputs : StrategySizingInputs where
  riskBudgetNotional := ⟨100, Decimal.zero_le_hundred⟩
  referencePrice := ⟨100, Decimal.zero_lt_hundred⟩
  currentDrawdown := ⟨1, Decimal.zero_le_one⟩
  maxDrawdown := ⟨1, Decimal.zero_lt_one⟩

omit [Sha256] in
theorem isCanonicalId_run : isCanonicalId "RUN" = true := by decide

/-- The strategy decides on a positive budget. -/
theorem exists_decide (inputs : StrategySizingInputs) (hbudget : 0 < inputs.riskBudgetNotional.val) :
    ∃ d, decideExpectedNetEdge sureForecast freePolicy ⟨"RUN", isCanonicalId_run⟩ ⟨0, 0⟩
      (some inputs) = .ok d := by
  obtain ⟨s, hs, hsized⟩ := exists_proposePreRiskSize
    (settleAction sureForecast freePolicy (some inputs)).1
    (settleAction sureForecast freePolicy (some inputs)).2 freePolicy (some inputs)
    freePolicy.expectedCost.2 sureForecast.uncertainty.2
  refine ⟨_, (decideExpectedNetEdge_eq_ok_iff _).mpr
    ⟨sureForecast_split, le_refl _, ?_, s, hsized, hs, rfl⟩⟩
  intro _ given hgiven
  obtain rfl := Option.mem_some_iff.mp hgiven
  exact hbudget

theorem validate_of_decide {forecast : Forecast} {policy : StrategyDecisionPolicy}
    {strategyRunId : CanonicalId} {decisionTs : AwareDatetime}
    {sizingInputs : Option StrategySizingInputs} {d : StrategyDecision}
    (h : decideExpectedNetEdge forecast policy strategyRunId decisionTs sizingInputs = .ok d) :
    d.validate = .ok () := by
  obtain ⟨-, h⟩ := (check_bind_eq_ok_iff _ _ _).mp h
  obtain ⟨sizing, -, h⟩ := (bind_eq_ok_iff _ _ _).mp h
  exact StrategyDecision.stamping.validate_of_construct h

/-! ### The accounts -/

/-- On valid decisions a report counts every decision once by its id, action and reason. Trades are
the decisions with the reason of a trade; turnover and cost drag are zero only without sized
proposals or costs, and the sign of the verdict is that of the difference of the means. -/
theorem gate_report_accounts {decisions : List StrategyDecision}
    {observations : List StrategyGateUtilityObservation} {report : StrategyGateReport}
    (hvalid : ∀ d ∈ decisions, d.validate = .ok ())
    (h : buildStrategyGateReport decisions observations = .ok report) :
    GateAccounts decisions observations report := by
  obtain ⟨-, pairs, hpairs, htaken, -, rfl⟩ := (buildStrategyGateReport_eq_ok_iff _ _ _).mp h
  have hperm := hpairs.perm
  have hreasons : ∀ c, c ∈ buildStrategyDecisionReasonCounts (pairs.map Prod.fst) ↔
      (∃ d ∈ decisions, d.reasonCode = c.reasonCode) ∧
        c.count = decisions.countP fun d => decide (d.reasonCode = c.reasonCode) := by
    intro c
    rw [mem_reasonCounts_iff, occurrences, hperm.countP_eq]
    simp only [hperm.mem_iff]
  have hcountTaken : (takenOf pairs).length = decisions.countP fun d => decide (d.action = .buy) :=
    hpairs.countP_eq fun d => decide (d.action = .buy)
  constructor
  case inputs => exact hperm.map _
  case inputs_sorted =>
    have hsorted := List.pairwise_insertionSort
      (fun a b : StrategyDecision => a.decisionId ≤ b.decisionId) decisions
    change ((pairs.map Prod.fst).map StrategyDecision.decisionId).Pairwise _
    rw [hpairs.decisions_eq, List.pairwise_map]
    exact hsorted
  case observed =>
    change (pairs.map Prod.snd).map _ = (pairs.map Prod.fst).map _
    rw [List.map_map, List.map_map]
    apply List.map_congr_left
    intro pair hpair
    obtain ⟨d, -, hfst, -, hid⟩ := exists_of_mem_right hpairs hpair
    rw [Function.comp_apply, Function.comp_apply, hid, hfst]
  case given =>
    intro o ho
    obtain ⟨pair, hpair, rfl⟩ := List.mem_map.mp ho
    obtain ⟨d, -, hobserved⟩ := exists_of_mem_right hpairs hpair
    exact hobserved.2.1
  case count =>
    change pairs.length = _
    rw [← hperm.length_eq, List.length_map]
  case taken =>
    change ((takenOf pairs).map netUtility).length = _
    rw [List.length_map]
    exact hcountTaken
  case skipped =>
    change ((skippedOf pairs).map netUtility).length = _
    rw [List.length_map]
    exact hpairs.countP_eq fun d => decide (d.action = .noTrade)
  case reasons => exact hreasons
  case reasons_sorted => exact reasonCounts_sorted _
  case reasons_sum =>
    rw [← hperm.length_eq]
    exact sum_reasonCounts _
  case taken_reason =>
    have hsame : decisions.countP (fun d => decide (d.action = .buy)) =
        decisions.countP fun d => decide (d.reasonCode = .tradePositiveNetEdge) := by
      apply List.countP_congr
      intro d hd
      rw [decide_eq_true_eq, decide_eq_true_eq, reason_of_validate (hvalid d hd)]
    obtain ⟨d, hd, hbuy⟩ := (takenOf_ne_nil_iff hpairs).mp htaken
    refine (hreasons _).mpr ⟨⟨d, hd, (reason_of_validate (hvalid d hd)).mpr hbuy⟩, ?_⟩
    change ((takenOf pairs).map netUtility).length = _
    rw [List.length_map, hcountTaken, hsame]
  case turnover =>
    refine hpairs.turnover_eq_zero_iff.trans ⟨?_, ?_⟩
    · intro hzero d hd hbuy
      exact (notional_of_validate (hvalid d hd) hbuy).mp (hzero d hd hbuy)
    · intro hnone d hd hbuy
      exact (notional_of_validate (hvalid d hd) hbuy).mpr (hnone d hd hbuy)
  case cost_drag =>
    refine hpairs.costDrag_eq_zero_iff.trans ⟨?_, ?_⟩
    · intro hzero d hd hbuy
      exact (hzero d hd hbuy).imp_left (notional_of_validate (hvalid d hd) hbuy).mp
    · intro hnone d hd hbuy
      exact (hnone d hd hbuy).imp_left (notional_of_validate (hvalid d hd) hbuy).mpr
  case verdict =>
    change 0 < rounded _ ↔ _
    rw [rounded_pos_iff, sub_pos]
    rfl

omit [Sha256] in
/-- The strategy buys on a sure rise, skips it once the drawdown limit is reached, and the report on
both accounts for them. -/
theorem gate_report_accounts_two_decisions : ∃ bought skipped report,
    @decideExpectedNetEdge hashlibSha256 (@sureForecast hashlibSha256) (@freePolicy hashlibSha256)
      ⟨"RUN", isCanonicalId_run⟩ ⟨0, 0⟩ (some (inputsOf ⟨100, Decimal.zero_le_hundred⟩)) =
        .ok bought ∧
    @decideExpectedNetEdge hashlibSha256 (@sureForecast hashlibSha256) (@freePolicy hashlibSha256)
      ⟨"RUN", isCanonicalId_run⟩ ⟨0, 0⟩ (some exhaustedInputs) = .ok skipped ∧
    @buildStrategyGateReport hashlibSha256 [bought, skipped] (observationsFor [bought, skipped]) =
      .ok report ∧
    GateAccounts [bought, skipped] (observationsFor [bought, skipped]) report := by
  let _ := hashlibSha256
  obtain ⟨bought, hbought⟩ := exists_decide (inputsOf ⟨100, Decimal.zero_le_hundred⟩)
    Decimal.zero_lt_hundred
  obtain ⟨skipped, hskipped⟩ := exists_decide exhaustedInputs Decimal.zero_lt_hundred
  have hallows : DrawdownAllows (some (inputsOf ⟨100, Decimal.zero_le_hundred⟩)) := by
    intro inputs hinputs
    obtain rfl := Option.mem_some_iff.mp hinputs
    exact Decimal.zero_lt_one
  have hbuy : bought.action = .buy :=
    (decision_of_decide hbought).1.mpr ⟨hasEdge_sureForecast, hallows⟩
  have hskip : skipped.action = .noTrade := by
    cases haction : skipped.action with
    | noTrade => rfl
    | buy =>
        have hdrawdown := ((decision_of_decide hskipped).1.mp haction).2 exhaustedInputs rfl
        exact absurd hdrawdown (lt_irrefl (1 : Decimal))
  obtain ⟨report, hreport⟩ := exists_gateReport (matched_observationsFor [bought, skipped])
    ⟨bought, List.mem_cons_self, hbuy⟩
    ⟨skipped, List.mem_cons_of_mem _ List.mem_cons_self, hskip⟩
  refine ⟨bought, skipped, report, hbought, hskipped, hreport, gate_report_accounts ?_ hreport⟩
  intro d hd
  rcases List.mem_cons.mp hd with rfl | hd
  · exact validate_of_decide hbought
  · rw [List.mem_singleton.mp hd]
    exact validate_of_decide hskipped

end TaModel.Strategy
