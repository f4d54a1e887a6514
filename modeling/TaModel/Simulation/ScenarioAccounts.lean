import TaModel.Contracts.DecimalLaws
import TaModel.Contracts.Scenarios
import TaModel.Simulation.ReplayAborts

/-!
# What a scenario says of its replay

`from_replay_report` counts and adds up the results of a replay. Everything it adds up is within the
bounds of the scenario contract, so the summary of a replay is refused for its evidence and for
nothing else, and its counts and totals account for every order.
-/

set_option autoImplicit false

namespace TaModel.Simulation

open TaModel.Contracts TaModel.Library

/-! ## Status counts -/

theorem replayFillStatus_value_injective : Function.Injective ReplayFillStatus.value := by
  intro a b h
  cases a <;> cases b <;> first | rfl | exact absurd h (by decide)

/-- The sorted counter behind the status counts. -/
theorem isTally_statuses (results : List ReplayOrderResult) :
    IsTally ReplayOrderResult.status results
      ((tally ReplayOrderResult.status results).insertionSort fun a b =>
        a.1.status.value ≤ b.1.status.value) :=
  (isTally_tally results).perm (List.perm_insertionSort _ _)

/-- A status is counted when some result has it, with the number of those results. -/
theorem mem_statusCountsOf_iff (results : List ReplayOrderResult) (c : ScenarioStatusCount) :
    c ∈ statusCountsOf results ↔
      (∃ r ∈ results, r.status = c.status) ∧
        c.count = occurrences ReplayOrderResult.status results c.status := by
  rw [← (isTally_statuses results).exists_entry_iff]
  constructor
  · intro hc
    obtain ⟨entry, hentry, rfl⟩ := List.mem_map.mp hc
    exact ⟨entry, hentry, rfl, rfl⟩
  · rintro ⟨entry, hentry, hstatus, hcount⟩
    refine List.mem_map.mpr ⟨entry, hentry, ?_⟩
    rw [hstatus, hcount]

theorem statusCountsOf_pos (results : List ReplayOrderResult) :
    ∀ c ∈ statusCountsOf results, 0 < c.count := by
  intro c hc
  obtain ⟨entry, hentry, rfl⟩ := List.mem_map.mp hc
  exact (isTally_statuses results).entry_pos hentry

theorem sum_statusCountsOf (results : List ReplayOrderResult) :
    ((statusCountsOf results).map ScenarioStatusCount.count).sum = results.length := by
  rw [statusCountsOf, List.map_map]
  exact (isTally_statuses results).sum_eq

/-- No status is listed twice, and the statuses are in order. -/
theorem statusCountsOf_sorted (results : List ReplayOrderResult) :
    (statusCountsOf results).Pairwise fun c c' => c.status.value < c'.status.value := by
  rw [statusCountsOf, List.pairwise_map]
  exact (@isTally_tally _ _ _ ReplayOrderResult.status results).pairwise_rank_lt
    replayFillStatus_value_injective

/-! ## Rejection counts -/

/-- The counts of all reasons add up to the number of reasons. -/
theorem sum_count_sorted (reasons : List ReplayRejectReason) :
    (ReplayRejectReason.sorted.map fun reason => reasons.count reason).sum = reasons.length := by
  induction reasons with
  | nil => rfl
  | cons first reasons ih =>
      have hone : (ReplayRejectReason.sorted.map fun reason =>
          if first == reason then 1 else 0).sum = 1 := by
        cases first <;> rfl
      rw [List.length_cons, ← ih, ← hone, ← List.sum_map_add]
      simp only [List.count_cons]

/-- Leaving out zeros keeps a sum. -/
theorem sum_filter_pos (counts : List ReplayRejectionCount) :
    ((counts.filter fun c => decide (0 < c.count)).map ReplayRejectionCount.count).sum =
      (counts.map ReplayRejectionCount.count).sum := by
  induction counts with
  | nil => rfl
  | cons c counts ih =>
      by_cases hpos : 0 < c.count
      · rw [List.filter_cons_of_pos (by simpa using hpos), List.map_cons, List.map_cons,
          List.sum_cons, List.sum_cons, ih]
      · rw [List.filter_cons_of_neg (by simpa using hpos), List.map_cons, List.sum_cons, ih,
          Nat.eq_zero_of_not_pos hpos, Nat.zero_add]

/-- The rejection counts add up to the number of results with a reason. -/
theorem sum_rejectionCounts (results : List ReplayOrderResult) :
    ((buildRejectionCounts results).map ReplayRejectionCount.count).sum =
      (results.filterMap ReplayOrderResult.reason).length := by
  rw [buildRejectionCounts, sum_filter_pos, List.map_map]
  exact sum_count_sorted _

/-! ## Validated results -/

/-- What the validators of a result promise of its amounts. -/
structure Sound (r : ReplayOrderResult) : Prop where
  bounds : r.FieldsInBounds
  total : r.totalCost = r.feeCost + r.spreadCost + r.slippageCost
  remaining : r.remainingQuantity = r.quantity - r.filledQuantity
  reason : r.reason = none ↔ r.isFill = true

theorem Sound.totalCost_nonneg {r : ReplayOrderResult} (h : Sound r) : 0 ≤ r.totalCost := by
  obtain ⟨-, -, -, -, -, -, -, -, -, -, -, hcost⟩ := h.bounds
  exact hcost

theorem sound_of_validateFields {r : ReplayOrderResult} (h : r.validateFields = .ok ()) :
    Sound r := by
  unfold ReplayOrderResult.validateFields at h
  simp only [check_bind_eq_ok_iff, require_eq_ok_iff] at h
  obtain ⟨hbounds, -, htotal, -, hremaining, hrest⟩ := h
  refine ⟨hbounds, htotal, hremaining, ?_⟩
  cases hfill : r.isFill with
  | true =>
      rw [hfill, if_pos rfl] at hrest
      unfold ReplayOrderResult.validateFill at hrest
      obtain ⟨_, hreason, -⟩ := (bind_eq_ok_iff _ _ _).mp hrest
      exact iff_of_true ((require_eq_ok_iff _ _ _).mp hreason) rfl
  | false =>
      rw [hfill, if_neg Bool.false_ne_true] at hrest
      unfold ReplayOrderResult.validateNoFill at hrest
      obtain ⟨_, hreason, -⟩ := (bind_eq_ok_iff _ _ _).mp hrest
      exact iff_of_false ((require_eq_ok_iff _ _ _).mp hreason) Bool.false_ne_true

/-- Every result of a replay is sound, and there is one for each intent. -/
theorem sound_of_report [Sha256] {bars : List OHLCTVBar} {intents : List OrderIntent}
    {runId : String} {costModel : Option ExecutionCostModel}
    {snapshot : Option InstrumentMasterSnapshot} {state : Option SimulatedAccountState}
    {report : ReplayReport}
    (h : replayOhlctvMarketOrders bars intents runId costModel snapshot state = .ok report) :
    List.Forall₂ (fun intent r => RepeatsIntent intent r ∧ Sound r) intents report.results := by
  obtain ⟨context, balances, -, -, -, hrun, -⟩ := replayOhlctvMarketOrders_ok h
  refine (replayOrders_isReplayOf hrun).imp ?_
  rintro intent r ⟨before, after, hone⟩
  exact ⟨replayOne_repeats hone, sound_of_validateFields (replayOne_validateFields hone)⟩

theorem results_sound [Sha256] {bars : List OHLCTVBar} {intents : List OrderIntent}
    {runId : String} {costModel : Option ExecutionCostModel}
    {snapshot : Option InstrumentMasterSnapshot} {state : Option SimulatedAccountState}
    {report : ReplayReport}
    (h : replayOhlctvMarketOrders bars intents runId costModel snapshot state = .ok report) :
    ∀ r ∈ report.results, Sound r := by
  intro r hr
  obtain ⟨intent, -, -, hsound⟩ := exists_of_mem_right (sound_of_report h) hr
  exact hsound

/-- The rejection counts of a report are those of its results. -/
theorem rejectionCounts_of_report [Sha256] {bars : List OHLCTVBar} {intents : List OrderIntent}
    {runId : String} {costModel : Option ExecutionCostModel}
    {snapshot : Option InstrumentMasterSnapshot} {state : Option SimulatedAccountState}
    {report : ReplayReport}
    (h : replayOhlctvMarketOrders bars intents runId costModel snapshot state = .ok report) :
    report.rejectionCounts = buildRejectionCounts report.results := by
  unfold replayOhlctvMarketOrders at h
  simp only [bind_eq_ok_iff] at h
  obtain ⟨_, -, _, -, _, -, ⟨results, balances⟩, -, _, -, _, -, hreport⟩ := h
  cases hreport
  rfl

/-! ## Summaries -/

/-- The traceability and the labels name what the scenario has to show. -/
structure Traced (scenarioId : SyntheticScenarioId) (traceability stressLabels : List String) :
    Prop where
  requirement : "FR-012" ∈ traceability
  crash : scenarioId = .crash → "RISK-001" ∈ traceability ∧
    ∃ label ∈ stressLabels, label ∈ ["market_drawdown", "drawdown_stress", "market_stress"]
  spread_risks : scenarioId = .spread → "RISK-002" ∈ traceability ∧ "RISK-005" ∈ traceability
  spread_labels : scenarioId = .spread →
    ∃ label ∈ stressLabels, label ∈ ["cost_sensitivity", "liquidity_cost_stress"]
  liquidity : scenarioId = .liquidity → "RISK-002" ∈ traceability ∧
    ∃ label ∈ stressLabels, label ∈ ["liquidity_collapse", "insufficient_liquidity"]
  outage : scenarioId = .outage → "RISK-002" ∈ traceability ∧
    ∃ label ∈ stressLabels, label ∈ ["fail_closed", "venue_outage"]

theorem traced_iff (scenarioId : SyntheticScenarioId) (traceability stressLabels : List String) :
    Traced scenarioId traceability stressLabels ↔ "FR-012" ∈ traceability ∧
      (scenarioId = .crash → "RISK-001" ∈ traceability ∧ ∃ label ∈ stressLabels,
        label ∈ ["market_drawdown", "drawdown_stress", "market_stress"]) ∧
      (scenarioId = .spread → "RISK-002" ∈ traceability ∧ "RISK-005" ∈ traceability) ∧
      (scenarioId = .spread → ∃ label ∈ stressLabels,
        label ∈ ["cost_sensitivity", "liquidity_cost_stress"]) ∧
      (scenarioId = .liquidity → "RISK-002" ∈ traceability ∧ ∃ label ∈ stressLabels,
        label ∈ ["liquidity_collapse", "insufficient_liquidity"]) ∧
      (scenarioId = .outage → "RISK-002" ∈ traceability ∧ ∃ label ∈ stressLabels,
        label ∈ ["fail_closed", "venue_outage"]) := by
  constructor
  · rintro ⟨h1, h2, h3, h4, h5, h6⟩
    exact ⟨h1, h2, h3, h4, h5, h6⟩
  · rintro ⟨h1, h2, h3, h4, h5, h6⟩
    exact ⟨h1, h2, h3, h4, h5, h6⟩

instance (scenarioId : SyntheticScenarioId) (traceability stressLabels : List String) :
    Decidable (Traced scenarioId traceability stressLabels) :=
  decidable_of_iff _ (traced_iff scenarioId traceability stressLabels).symm

theorem validateTraceability_eq_ok_iff (r : SyntheticScenarioResult) :
    r.validateTraceability = .ok () ↔ Traced r.scenarioId r.traceability r.stressLabels := by
  unfold SyntheticScenarioResult.validateTraceability
  simp only [check_bind_eq_ok_iff, require_eq_ok_iff]
  exact (traced_iff _ _ _).symm

/-- The texts of a scenario say something. -/
structure Legible (name : String) (traceability stressLabels : List String) : Prop where
  name : strip name ≠ ""
  traceability : ∀ text ∈ traceability, strip text ≠ ""
  labels : ∀ label ∈ stressLabels, strip label ≠ ""

theorem legible_iff (name : String) (traceability stressLabels : List String) :
    Legible name traceability stressLabels ↔ strip name ≠ "" ∧
      (∀ text ∈ traceability, strip text ≠ "") ∧ ∀ label ∈ stressLabels, strip label ≠ "" := by
  constructor
  · rintro ⟨h1, h2, h3⟩
    exact ⟨h1, h2, h3⟩
  · rintro ⟨h1, h2, h3⟩
    exact ⟨h1, h2, h3⟩

instance (name : String) (traceability stressLabels : List String) :
    Decidable (Legible name traceability stressLabels) :=
  decidable_of_iff _ (legible_iff name traceability stressLabels).symm

/-- The evidence is legible and traced, and its prices are prices. -/
structure Supported (e : ScenarioEvidence) : Prop where
  legible : Legible e.scenarioName e.traceability e.stressLabels
  traced : Traced e.scenarioId (e.traceability.map strip) (e.stressLabels.map strip)
  min_price : 0 ≤ e.minClosePrice
  max_price : 0 ≤ e.maxClosePrice
  comparison : ∀ cost ∈ e.comparisonTotalCost, 0 ≤ cost

/-- What a summary says of the replay of some orders. -/
structure AccountsFor (intents : List OrderIntent) (report : ReplayReport)
    (summary : SyntheticScenarioResult) : Prop where
  statuses : ∀ c, c ∈ summary.statusCounts ↔
    (∃ r ∈ report.results, r.status = c.status) ∧
      c.count = occurrences ReplayOrderResult.status report.results c.status
  statuses_sorted : summary.statusCounts.Pairwise fun c c' => c.status.value < c'.status.value
  statuses_total : (summary.statusCounts.map ScenarioStatusCount.count).sum = intents.length
  rejections : (summary.rejectionCounts.map Prod.snd).sum +
    report.results.countP ReplayOrderResult.isFill = intents.length
  quantity : SumsExactly (report.results.map ReplayOrderResult.filledQuantity) →
    SumsExactly (report.results.map ReplayOrderResult.remainingQuantity) →
    summary.filledQuantity + summary.remainingQuantity =
      (intents.map fun intent => intent.quantity.val).sum
  cost : SumsExactly (report.results.map ReplayOrderResult.totalCost) →
    summary.totalCost = (report.results.map ReplayOrderResult.feeCost).sum +
      (report.results.map ReplayOrderResult.spreadCost).sum +
      (report.results.map ReplayOrderResult.slippageCost).sum
  free : summary.totalCost = 0 ↔ ∀ r ∈ report.results, r.totalCost = 0
  balances : ∀ state ∈ report.finalAccountState,
    summary.finalBalances.Perm (state.balances.map fun b => (b.assetId, b.available.val))

/-- The reasons are those of the results that are not filled. -/
theorem length_reasons_add_fills {results : List ReplayOrderResult}
    (h : ∀ r ∈ results, Sound r) :
    (results.filterMap ReplayOrderResult.reason).length +
      results.countP ReplayOrderResult.isFill = results.length := by
  induction results with
  | nil => rfl
  | cons r results ih =>
      have hrest := ih fun other hother => h other (List.mem_cons_of_mem r hother)
      have hreason := (h r List.mem_cons_self).reason
      cases hfill : r.isFill with
      | true =>
          rw [List.filterMap_cons_none (hreason.mpr hfill), List.countP_cons_of_pos hfill,
            List.length_cons, ← hrest, Nat.add_assoc]
      | false =>
          have hsome : r.reason ≠ none := by
            intro hnone
            rw [hreason.mp hnone] at hfill
            cases hfill
          obtain ⟨reason, hreason⟩ := Option.ne_none_iff_exists'.mp hsome
          rw [List.filterMap_cons_some hreason, List.countP_cons_of_neg (by simp [hfill]),
            List.length_cons, List.length_cons, ← hrest]
          omega

/-- Sums over sound results. -/
theorem sums_of_sound {results : List ReplayOrderResult} (h : ∀ r ∈ results, Sound r) :
    (results.map ReplayOrderResult.filledQuantity).sum +
        (results.map ReplayOrderResult.remainingQuantity).sum =
      (results.map ReplayOrderResult.quantity).sum ∧
    (results.map ReplayOrderResult.totalCost).sum =
      (results.map ReplayOrderResult.feeCost).sum +
        (results.map ReplayOrderResult.spreadCost).sum +
        (results.map ReplayOrderResult.slippageCost).sum := by
  rw [← List.sum_map_add, ← List.sum_map_add, ← List.sum_map_add]
  constructor
  · refine congrArg List.sum (List.map_congr_left fun r hr => ?_)
    rw [(h r hr).remaining]
    ring
  · exact congrArg List.sum (List.map_congr_left fun r hr => (h r hr).total)

/-- The amounts of sound results are within the bounds of the scenario contract, so the validators
look at the evidence alone. -/
theorem fromReplayReport_eq_ok_iff {evidence : ScenarioEvidence} {report : ReplayReport}
    (h : ∀ r ∈ report.results, Sound r) (summary : SyntheticScenarioResult) :
    fromReplayReport evidence report = .ok summary ↔
      Supported evidence ∧ summary = summaryOf evidence report := by
  have hnonneg : ∀ amount : ReplayOrderResult → Decimal,
      (∀ r ∈ report.results, 0 ≤ amount r) → 0 ≤ decimalSum (report.results.map amount) := by
    intro amount hamount
    exact decimalSum_nonneg (List.forall_mem_map.mpr hamount)
  have hcost := hnonneg ReplayOrderResult.totalCost fun r hr => (h r hr).totalCost_nonneg
  have hfilled := hnonneg ReplayOrderResult.filledQuantity fun r hr => (h r hr).bounds.2.2.1
  have hremaining := hnonneg ReplayOrderResult.remainingQuantity fun r hr =>
    (h r hr).bounds.2.2.2.1
  have hcounts : ∀ c ∈ (summaryOf evidence report).statusCounts, 0 < c.count :=
    statusCountsOf_pos report.results
  have hvalid : (summaryOf evidence report).validate = .ok () ↔ Supported evidence := by
    unfold SyntheticScenarioResult.validate
    simp only [check_bind_eq_ok_iff, require_eq_ok_iff, validateTraceability_eq_ok_iff]
    constructor
    · rintro ⟨hname, hids, hlabels, -, -, -, -, hmin, hmax, hcomparison, htraced⟩
      refine ⟨⟨hname, ?_, ?_⟩, htraced, hmin, hmax, hcomparison⟩
      · exact fun text htext => hids (strip text) (List.mem_map_of_mem htext)
      · exact fun label hlabel => hlabels (strip label) (List.mem_map_of_mem hlabel)
    · rintro ⟨⟨hname, hids, hlabels⟩, htraced, hmin, hmax, hcomparison⟩
      exact ⟨hname, List.forall_mem_map.mpr hids, List.forall_mem_map.mpr hlabels, hcounts, hcost,
        hfilled, hremaining, hmin, hmax, hcomparison, htraced⟩
  rw [fromReplayReport, check_bind_eq_ok_iff, hvalid, Except.ok.injEq]
  exact and_congr_right fun _ => eq_comm

/-- The summary of a replay is refused for its evidence only, and it accounts for the replay: the
statuses are counted in order, each once, up to the number of orders; the orders without a fill are
counted by reason; where the sums need no rounding, filled and remaining quantities make up what was
ordered and the costs what was charged; a cost of zero is never the result of rounding; and the
balances are those the account ended with. -/
theorem scenario_summary_accounts [Sha256] {bars : List OHLCTVBar} {intents : List OrderIntent}
    {runId : String} {costModel : Option ExecutionCostModel}
    {snapshot : Option InstrumentMasterSnapshot} {state : Option SimulatedAccountState}
    {report : ReplayReport}
    (h : replayOhlctvMarketOrders bars intents runId costModel snapshot state = .ok report)
    (evidence : ScenarioEvidence) :
    ((∃ summary, fromReplayReport evidence report = .ok summary) ↔ Supported evidence) ∧
      ∀ summary, fromReplayReport evidence report = .ok summary →
        AccountsFor intents report summary := by
  have hresults := sound_of_report h
  have hsound := results_sound h
  have hlength := hresults.length_eq
  obtain ⟨hquantity, hcost⟩ := sums_of_sound hsound
  constructor
  · constructor
    · rintro ⟨summary, hsummary⟩
      exact ((fromReplayReport_eq_ok_iff hsound summary).mp hsummary).1
    · intro hsupported
      exact ⟨_, (fromReplayReport_eq_ok_iff hsound _).mpr ⟨hsupported, rfl⟩⟩
  · intro summary hsummary
    obtain ⟨-, rfl⟩ := (fromReplayReport_eq_ok_iff hsound summary).mp hsummary
    refine ⟨mem_statusCountsOf_iff report.results, statusCountsOf_sorted report.results, ?_, ?_, ?_,
      ?_, ?_, ?_⟩
    · rw [hlength]
      exact sum_statusCountsOf report.results
    · have hreasons := length_reasons_add_fills hsound
      rw [← sum_rejectionCounts, ← rejectionCounts_of_report h] at hreasons
      simp only [summaryOf, List.map_map, Function.comp_def]
      exact hreasons.trans hlength.symm
    · intro hfilled hremaining
      have hordered : intents.map (fun intent => intent.quantity.val) =
          report.results.map ReplayOrderResult.quantity :=
        map_eq_of_forall₂ hresults fun intent r hr => hr.1.quantity.symm
      rw [hordered, ← hquantity, ← decimalSum_eq_sum hfilled, ← decimalSum_eq_sum hremaining]
      rfl
    · intro hexact
      rw [← hcost, ← decimalSum_eq_sum hexact]
      rfl
    · have hnonneg : ∀ c ∈ report.results.map ReplayOrderResult.totalCost, 0 ≤ c :=
        List.forall_mem_map.mpr fun r hr => (hsound r hr).totalCost_nonneg
      exact (decimalSum_eq_zero_iff hnonneg).trans List.forall_mem_map
    · intro final hfinal
      simp only [summaryOf, Option.mem_def.mp hfinal]
      exact (List.perm_insertionSort _ _).map _

/-- The evidence of the random-walk scenario about the round trip. -/
def plainEvidence : ScenarioEvidence where
  scenarioId := .randomWalk
  scenarioName := "Deterministic baseline random-walk fills with costs"
  traceability := ["FR-012"]
  stressLabels := ["fake_data", "baseline_fill_cost"]
  minClosePrice := 100
  maxClosePrice := 110

theorem plainEvidence_supported : Supported plainEvidence := by
  refine ⟨by decide, by decide, by decide, by decide, ?_⟩
  intro cost hcost
  cases hcost

/-- The round trip has a summary that accounts for it. -/
theorem scenario_summary_accounts_round_trip : ∃ report summary,
    @replayOhlctvMarketOrders hashlibSha256 roundTripBars roundTripOrders "RUN" none
      (some (marketSnapshot loosestLimits)) (some (cashState ⟨100, by decide⟩)) = .ok report ∧
    fromReplayReport plainEvidence report = .ok summary ∧
    AccountsFor roundTripOrders report summary := by
  obtain ⟨report, hreport⟩ := roundTrip_replays
  obtain ⟨hbuilt, haccounts⟩ :=
    @scenario_summary_accounts hashlibSha256 _ _ _ _ _ _ _ hreport plainEvidence
  obtain ⟨summary, hsummary⟩ := hbuilt.mpr plainEvidence_supported
  exact ⟨report, summary, hreport, hsummary, haccounts summary hsummary⟩

end TaModel.Simulation
