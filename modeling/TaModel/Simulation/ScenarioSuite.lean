import TaModel.Simulation.BarOrder
import TaModel.Simulation.FillSelection
import TaModel.Simulation.ScenarioAccounts
import TaModel.Simulation.Scenarios
import TaModel.Simulation.VenueOutage

/-!
# The synthetic scenario suite

The bars of a scenario are minutes in a row, so every generated market is accepted and an order
submitted at a minute meets the bar of that minute, which opens at the price before. The suite is
therefore built for every seed, and the draws of the random walk reach its prices and digests only:
the one order of that scenario fills at the starting price.
-/

set_option autoImplicit false

namespace TaModel.Simulation

open TaModel.Contracts TaModel.Library AwareDatetime

/-! ## Bars in a row -/

/-- The bars are those of a price path: bar `i` lasts from minute `i` to the next one, opens at the
price before and closes at price `i`. -/
structure MinuteBars (scenarioId : SyntheticScenarioId) (prices volumes : List NonNegativeDecimal)
    (bars : List OHLCTVBar) : Prop where
  length : bars.length = prices.length
  bar : ∀ i bar, bars[i]? = some bar → ∃ previous close volume flags,
    prices[i - 1]? = some previous ∧ prices[i]? = some close ∧ volumes[i]? = some volume ∧
    bar = scenarioBar scenarioId i previous close volume flags

theorem itemAt_eq_ok_iff {α : Type} (items : List α) (index : Nat) (item : α) :
    itemAt items index = .ok item ↔ items[index]? = some item := by
  unfold itemAt
  cases items[index]? with
  | none => simp
  | some found => simp

/-- One turn of the loop of `_bars`, at a price of the path. -/
theorem barAt_eq_ok_iff {scenarioId : SyntheticScenarioId}
    {prices volumes : List NonNegativeDecimal} {qualityFlags : List (List QualityFlag)}
    {close : NonNegativeDecimal} {i : Nat}
    (hclose : prices[i]? = some close) (bar : OHLCTVBar) :
    barAt scenarioId prices volumes qualityFlags (close, i) = .ok bar ↔
      ∃ previous volume flags, prices[i - 1]? = some previous ∧ volumes[i]? = some volume ∧
        qualityFlags[i]? = some flags ∧
        bar = scenarioBar scenarioId i previous close volume flags := by
  have hprevious : ∀ previous, previousPrice prices (close, i) = .ok previous ↔
      prices[i - 1]? = some previous := by
    intro previous
    unfold previousPrice
    by_cases hzero : i = 0
    · subst hzero
      rw [if_pos rfl, Nat.zero_sub, hclose, Except.ok.injEq, Option.some.injEq]
    · rw [if_neg hzero, itemAt_eq_ok_iff]
  simp only [barAt, bind_eq_ok_iff, hprevious, itemAt_eq_ok_iff, Except.ok.injEq]
  constructor
  · rintro ⟨previous, hprevious, volume, hvolume, flags, hflags, rfl⟩
    exact ⟨previous, volume, flags, hprevious, hvolume, hflags, rfl⟩
  · rintro ⟨previous, volume, flags, hprevious, hvolume, hflags, rfl⟩
    exact ⟨previous, hprevious, volume, hvolume, flags, hflags, rfl⟩

/-- A price path with a volume and flags for each price has its bars. -/
theorem scenarioBars_ok (scenarioId : SyntheticScenarioId)
    {prices volumes : List NonNegativeDecimal} {qualityFlags : List (List QualityFlag)}
    {used : List NonNegativeDecimal}
    (hused : (if volumes = [] then prices.map fun _ => ofWhole 10 else volumes) = used)
    (hlength : used.length = prices.length)
    (hflags : qualityFlags = [] ∨ qualityFlags.length = prices.length) :
    ∃ bars, scenarioBars scenarioId prices volumes qualityFlags = .ok bars ∧
      MinuteBars scenarioId prices used bars := by
  unfold scenarioBars
  rw [hused]
  generalize hflagValues : (if qualityFlags = [] then prices.map fun _ => [] else qualityFlags) =
    flagValues
  have hflagLength : flagValues.length = prices.length := by
    rw [← hflagValues]
    split
    · exact List.length_map _
    · next hne => exact hflags.resolve_left hne
  -- an index of the loop is one of each of the three tuples
  have hprice : ∀ entry ∈ prices.zipIdx, prices[entry.2]? = some entry.1 := by
    intro entry hentry
    exact List.mem_zipIdx_iff_getElem?.mp hentry
  have hturns : ∀ entry ∈ prices.zipIdx, ∃ bar,
      barAt scenarioId prices used flagValues entry = .ok bar := by
    rintro ⟨close, i⟩ hentry
    have hclose := hprice _ hentry
    obtain ⟨hi, -⟩ := List.getElem?_eq_some_iff.mp hclose
    have hprevious : i - 1 < prices.length := by omega
    have hvolume : i < used.length := by omega
    have hflag : i < flagValues.length := by omega
    exact ⟨_, (barAt_eq_ok_iff hclose _).mpr ⟨prices[i - 1], used[i], flagValues[i],
      List.getElem?_eq_getElem hprevious, List.getElem?_eq_getElem hvolume,
      List.getElem?_eq_getElem hflag, rfl⟩⟩
  obtain ⟨bars, hbars⟩ := exists_forall₂ hturns
  refine ⟨bars, (mapM_eq_ok_iff _ _ _).mpr hbars, ?_, ?_⟩
  · rw [← hbars.length_eq, List.length_zipIdx]
  · intro i bar hbar
    obtain ⟨hi, rfl⟩ := List.getElem?_eq_some_iff.mp hbar
    have hzip : i < prices.zipIdx.length := by
      rw [hbars.length_eq]
      exact hi
    have hturn := (List.forall₂_iff_get.mp hbars).2 i hzip hi
    simp only [List.get_eq_getElem, List.getElem_zipIdx, Nat.zero_add] at hturn
    rw [List.length_zipIdx] at hzip
    have hclose : prices[i]? = some prices[i] := List.getElem?_eq_getElem hzip
    obtain ⟨previous, volume, flags, hprevious, hvolume, -, hbar⟩ :=
      (barAt_eq_ok_iff hclose _).mp hturn
    exact ⟨previous, _, volume, flags, hprevious, hclose, hvolume, hbar⟩

/-! ## Accepted markets -/

theorem representable_minute {n : Nat} (h : n ≤ 1000000) : Representable (minute n) := by
  unfold Representable localMicros minute
  dsimp only
  omega

/-- Up to a million minutes in a row are an accepted market. -/
theorem MinuteBars.accepted {scenarioId : SyntheticScenarioId}
    {prices volumes : List NonNegativeDecimal} {bars : List OHLCTVBar}
    (h : MinuteBars scenarioId prices volumes bars) (hlength : prices.length < 1000000) :
    validateBarsAreSafe bars = .ok () := by
  have hat : ∀ i, (hi : i < bars.length) → ∃ previous close volume flags,
      bars[i] = scenarioBar scenarioId i previous close volume flags := by
    intro i hi
    obtain ⟨previous, close, volume, flags, -, -, -, hbar⟩ :=
      h.bar i _ (List.getElem?_eq_getElem hi)
    exact ⟨previous, close, volume, flags, hbar⟩
  -- a relation that any two minutes in order have holds along the market
  have hpairs : ∀ {R : OHLCTVBar → OHLCTVBar → Prop},
      (∀ i j previous close volume flags previous' close' volume' flags', i < j →
        R (scenarioBar scenarioId i previous close volume flags)
          (scenarioBar scenarioId j previous' close' volume' flags')) → bars.Pairwise R := by
    intro R hR
    refine List.pairwise_iff_getElem.mpr fun i j hi hj hij => ?_
    obtain ⟨previous, close, volume, flags, hbar⟩ := hat i hi
    obtain ⟨previous', close', volume', flags', hbar'⟩ := hat j hj
    rw [hbar, hbar']
    exact hR _ _ _ _ _ _ _ _ _ _ hij
  have hmem : ∀ bar ∈ bars, ∃ i previous close volume flags, i < prices.length ∧
      bar = scenarioBar scenarioId i previous close volume flags := by
    intro bar hbar
    obtain ⟨i, hi, rfl⟩ := List.getElem_of_mem hbar
    obtain ⟨previous, close, volume, flags, heq⟩ := hat i hi
    rw [h.length] at hi
    exact ⟨i, previous, close, volume, flags, hi, heq⟩
  refine (accepted_iff ?_).mpr ⟨⟨?_, ?_, ?_⟩, ?_⟩
  · intro bar hbar
    obtain ⟨i, previous, close, volume, flags, hi, rfl⟩ := hmem bar hbar
    have hrep : Representable (minute (i + 1)) := representable_minute (by omega)
    exact hrep
  · intro bar hbar
    obtain ⟨i, previous, close, volume, flags, -, rfl⟩ := hmem bar hbar
    exact Int.le_refl _
  · apply hpairs
    intros
    rfl
  · apply hpairs
    intro i j _ _ _ _ _ _ _ _ hij _
    show (minute (i + 1)).utc ≤ (minute j).utc
    simp only [minute]
    omega
  · apply hpairs
    intro i j _ _ _ _ _ _ _ _ hij
    refine Or.inl ?_
    show localMicros (minute (i + 1)) < localMicros (minute (j + 1))
    simp only [localMicros, minute]
    omega

/-! ## The bar of an order -/

/-- The entries from index `k + n` on are those behind the first `n`. -/
theorem filter_zipIdx_eq_drop {α : Type} (items : List α) (k n : Nat) :
    ((items.zipIdx k).filter fun entry => decide (k + n ≤ entry.2)) = (items.zipIdx k).drop n := by
  induction items generalizing k n with
  | nil => simp
  | cons item items ih =>
      cases n with
      | zero =>
          rw [List.drop_zero, List.filter_eq_self]
          intro entry hentry
          exact decide_eq_true (List.mem_zipIdx hentry).1
      | succ n =>
          have hshift : ∀ j, k + (n + 1) ≤ j ↔ k + 1 + n ≤ j := by omega
          rw [List.zipIdx_cons, List.filter_cons_of_neg (by simp), List.drop_succ_cons,
            ← ih]
          simp only [hshift]

/-- The order is one of the synthetic market, submitted at minute `m`. -/
structure AtMinute (m : Nat) (intent : OrderIntent) : Prop where
  instrument : intent.instrumentId = scenarioInstrumentId
  venue : intent.venueId = scenarioVenueId
  submitted : intent.submittedAt = minute m

section Orders

variable {scenarioId : SyntheticScenarioId} {prices prices' volumes : List NonNegativeDecimal}
  {bars bars' : List OHLCTVBar} {intent : OrderIntent} {m : Nat} {model : ExecutionCostModel}

/-- From its minute on every bar is eligible. -/
theorem MinuteBars.eligibleBars (h : MinuteBars scenarioId prices volumes bars)
    (hintent : AtMinute m intent) : eligibleBars intent bars = bars.zipIdx.drop m := by
  rw [← filter_zipIdx_eq_drop bars 0 m]
  refine List.filter_congr fun entry hentry => ?_
  obtain ⟨previous, close, volume, flags, -, -, -, hbar⟩ :=
    h.bar entry.2 entry.1 (List.mem_zipIdx_iff_getElem?.mp hentry)
  have hopen : intent.submittedAt ≤ minute entry.2 ↔ 0 + m ≤ entry.2 := by
    rw [hintent.submitted, AwareDatetime.le_def]
    simp only [minute]
    omega
  rw [isEligible_eq, isOwnMarket, hintent.instrument, hintent.venue, hbar]
  simp only [scenarioBar, beq_self_eq_true, Bool.true_and, hopen]

/-- Without latency the order meets the bar of its minute. -/
theorem MinuteBars.fillBar (h : MinuteBars scenarioId prices volumes bars)
    (hintent : AtMinute m intent) (hlatency : model.latencyBars = 0) :
    fillBar bars (some model) intent = bars[m]?.map fun bar => (bar, m) := by
  have hzero : latencyOf (some model) = 0 := hlatency
  rw [Simulation.fillBar, h.eligibleBars hintent, hzero, List.getElem?_drop, Nat.add_zero,
    List.getElem?_zipIdx, Nat.zero_add]

theorem MinuteBars.exists_bar (h : MinuteBars scenarioId prices volumes bars)
    (hm : m < prices.length) : ∃ bar, bars[m]? = some bar := by
  rw [← h.length] at hm
  exact ⟨_, List.getElem?_eq_getElem hm⟩

theorem MinuteBars.closeTs {bar : OHLCTVBar} (h : MinuteBars scenarioId prices volumes bars)
    (hbar : bars[m]? = some bar) : bar.closeTs = minute (m + 1) := by
  obtain ⟨previous, close, volume, flags, -, -, -, rfl⟩ := h.bar m bar hbar
  rfl

variable [Sha256]

/-- The attempt of an order on the bar of its minute. -/
theorem fillAttempt_minuteBars {context : Option VenueContext} {bar : OHLCTVBar}
    (h : MinuteBars scenarioId prices volumes bars) (hintent : AtMinute m intent)
    (hlatency : model.latencyBars = 0) (hmetadata : metadataReason context intent = none)
    (hmarket : intent.orderType = .market) (hbar : bars[m]? = some bar) :
    fillAttempt bars (some model) context intent =
      attemptOn context (some model) intent m (bar, m) := by
  have hfill := h.fillBar hintent hlatency
  rw [hbar, Option.map_some] at hfill
  obtain ⟨first, hfirst, hattempt⟩ := fillAttempt_of_bar hmetadata hmarket hfill
  -- without latency the first eligible entry is the bar itself
  have hzero : latencyOf (some model) = 0 := hlatency
  rw [Simulation.fillBar, hzero, ← List.head?_eq_getElem?] at hfill
  obtain rfl : first = (bar, m) := Option.mem_unique hfirst hfill
  exact hattempt

/-- Price paths that agree at the price before its minute give an order one attempt. -/
theorem fillAttempt_minuteBars_congr {context : Option VenueContext}
    (h : MinuteBars scenarioId prices volumes bars)
    (h' : MinuteBars scenarioId prices' volumes bars') (hintent : AtMinute m intent)
    (hlatency : model.latencyBars = 0) (hm : m < prices.length) (hm' : m < prices'.length)
    (hprice : prices'[m - 1]? = prices[m - 1]?) :
    fillAttempt bars' (some model) context intent =
      fillAttempt bars (some model) context intent := by
  by_cases hready : metadataReason context intent = none ∧ intent.orderType = .market
  · obtain ⟨hmetadata, hmarket⟩ := hready
    obtain ⟨bar, hbar⟩ := h.exists_bar hm
    obtain ⟨bar', hbar'⟩ := h'.exists_bar hm'
    rw [fillAttempt_minuteBars h hintent hlatency hmetadata hmarket hbar,
      fillAttempt_minuteBars h' hintent hlatency hmetadata hmarket hbar']
    obtain ⟨previous, close, volume, flags, hprevious, -, hvolume, rfl⟩ := h.bar m bar hbar
    obtain ⟨previous', close', volume', flags', hprevious', -, hvolume', rfl⟩ :=
      h'.bar m bar' hbar'
    obtain rfl : previous' = previous :=
      Option.some.inj (hprevious'.symm.trans (hprice.trans hprevious))
    obtain rfl : volume' = volume := Option.some.inj (hvolume'.symm.trans hvolume)
    -- the attempt does not look at the close
    rfl
  · exact fillAttempt_of_refused hready

end Orders

/-! ## Scenario runs -/

theorem scenarioMaster_valid {venueStatus : VenueStatus}
    (h : venueStatus = .active ∨ venueStatus = .maintenance) :
    (scenarioMaster venueStatus).validateReferences = .ok () := by
  rcases h with rfl | rfl
  · exact ok_unit_of_toBool _ (by decide +kernel)
  · exact ok_unit_of_toBool _ (by decide +kernel)

/-- The run id of a scenario replay. -/
def scenarioRunId (scenarioId : SyntheticScenarioId) (runSuffix : String) : String :=
  "REPLAY:S6-004:" ++ scenarioId.upper ++ (if runSuffix = "" then "" else ":" ++ runSuffix)

theorem isCanonicalId_scenarioRunId (scenarioId : SyntheticScenarioId) {runSuffix : String}
    (h : runSuffix = "" ∨ runSuffix = "LOWCOST") :
    isCanonicalId (scenarioRunId scenarioId runSuffix) = true := by
  rcases h with rfl | rfl
  · cases scenarioId <;> decide
  · cases scenarioId <;> decide

/-- A single order is always in order. -/
theorem one_order_accepted (intent : OrderIntent) : validateOrderIntents [intent] = .ok () := by
  unfold validateOrderIntents
  simp only [List.foldlM_cons, List.foldlM_nil]
  unfold IntentGuard.check
  rfl

/-- The closes of some bars have a smallest and a largest one. -/
theorem exists_extremes {bars : List OHLCTVBar} (hne : bars ≠ []) :
    ∃ low high, extremeOf (bars.map fun bar => bar.close.val).min? = .ok low ∧
      extremeOf (bars.map fun bar => bar.close.val).max? = .ok high ∧ 0 ≤ low ∧ 0 ≤ high := by
  have hcloses : (bars.map fun bar => bar.close.val) ≠ [] := by simpa using hne
  obtain ⟨low, hlow⟩ := Option.isSome_iff_exists.mp (List.isSome_min?_of_ne_nil hcloses)
  obtain ⟨high, hhigh⟩ := Option.isSome_iff_exists.mp (List.isSome_max?_of_ne_nil hcloses)
  rw [hlow, hhigh]
  obtain ⟨bar, -, hbar⟩ := List.mem_map.mp (List.min?_mem hlow)
  obtain ⟨bar', -, hbar'⟩ := List.mem_map.mp (List.max?_mem hhigh)
  refine ⟨low, high, rfl, rfl, ?_, ?_⟩
  · rw [← hbar]
    exact bar.close.2
  · rw [← hbar']
    exact bar'.close.2

theorem no_comparison : ∀ cost ∈ (none : Option Decimal), 0 ≤ cost := by
  intro cost hcost
  cases hcost

/-- The evidence of the random walk. -/
def walkEvidence (low high : Decimal) : ScenarioEvidence where
  scenarioId := .randomWalk
  scenarioName := "Deterministic baseline random-walk fills with costs"
  traceability := ["FR-012"]
  stressLabels := ["fake_data", "baseline_fill_cost"]
  minClosePrice := low
  maxClosePrice := high

/-- The one order of the random walk. -/
def walkOrder : OrderIntent :=
  scenarioIntent .randomWalk 1 (minute 1) .buy ⟨1, Decimal.zero_lt_one⟩

theorem walk_costs_below_unit : (ofWhole 4).val + (ofWhole 6).val < 10000 := by decide +kernel

def walkCosts : ExecutionCostModel :=
  scenarioCosts (ofWhole 4) (ofWhole 6) ⟨1, Decimal.one_is_fraction⟩ walk_costs_below_unit

section Runs

variable [Sha256] {scenarioId : SyntheticScenarioId} {prices volumes : List NonNegativeDecimal}
  {bars : List OHLCTVBar} {intents : List OrderIntent} {costModel : ExecutionCostModel}
  {venueStatus : VenueStatus} {runSuffix : String}

/-- The replay of a scenario has a report. -/
theorem scenarioReplay_ok (hbars : MinuteBars scenarioId prices volumes bars)
    (hlength : prices.length < 1000000) (hintents : validateOrderIntents intents = .ok ())
    (hstatus : venueStatus = .active ∨ venueStatus = .maintenance)
    (hsuffix : runSuffix = "" ∨ runSuffix = "LOWCOST") :
    ∃ report, scenarioReplay scenarioId bars intents costModel venueStatus runSuffix = .ok report ∧
      replayOhlctvMarketOrders bars intents (scenarioRunId scenarioId runSuffix) (some costModel)
        (some (scenarioMaster venueStatus)) (some scenarioAccountState) = .ok report := by
  obtain ⟨report, hreport⟩ := (replay_with_account_succeeds_iff bars intents
    (scenarioRunId scenarioId runSuffix) (some costModel) (scenarioMaster venueStatus)
    scenarioAccountState).mpr
      ⟨hbars.accepted hlength, hintents, isCanonicalId_scenarioRunId scenarioId hsuffix⟩
  refine ⟨report, ?_, hreport⟩
  rw [scenarioReplay, scenarioSnapshot, scenarioMaster_valid hstatus, ok_bind, ok_bind]
  exact hreport

theorem totalCost_nonneg_of_report {runId : String} {costModel : Option ExecutionCostModel}
    {snapshot : Option InstrumentMasterSnapshot} {state : Option SimulatedAccountState}
    {report : ReplayReport}
    (h : replayOhlctvMarketOrders bars intents runId costModel snapshot state = .ok report) :
    0 ≤ decimalSum (report.results.map ReplayOrderResult.totalCost) :=
  decimalSum_nonneg (List.forall_mem_map.mpr fun r hr => (results_sound h r hr).totalCost_nonneg)

omit [Sha256] in
/-- Texts that say something, and among them what the scenario has to name. -/
def Evident (scenarioId : SyntheticScenarioId) (name : String)
    (traceability labels : List String) : Prop :=
  Legible name traceability labels ∧
    Traced scenarioId (traceability.map strip) (labels.map strip)

instance (scenarioId : SyntheticScenarioId) (name : String) (traceability labels : List String) :
    Decidable (Evident scenarioId name traceability labels) :=
  inferInstanceAs (Decidable (_ ∧ _))

/-- The summary of a replay of traced evidence is built. -/
theorem scenarioSummary_ok {name : String} {traceability labels : List String}
    {comparison : Option Decimal} {report : ReplayReport} {runId : String}
    {snapshot : Option InstrumentMasterSnapshot} {state : Option SimulatedAccountState}
    (htraced : Evident scenarioId name traceability labels)
    (hbars : MinuteBars scenarioId prices volumes bars) (hpositive : 0 < prices.length)
    (hcomparison : ∀ cost ∈ comparison, 0 ≤ cost)
    (h : replayOhlctvMarketOrders bars intents runId (some costModel) snapshot state =
      .ok report) :
    ∃ low high, scenarioSummary scenarioId name traceability labels bars report comparison =
      .ok (summaryOf
        { scenarioId := scenarioId, scenarioName := name, traceability := traceability,
          stressLabels := labels, minClosePrice := low, maxClosePrice := high,
          comparisonTotalCost := comparison } report) := by
  have hne : bars ≠ [] := by
    rw [← List.length_pos_iff, hbars.length]
    exact hpositive
  obtain ⟨low, high, hlow, hhigh, hlow_nonneg, hhigh_nonneg⟩ := exists_extremes hne
  refine ⟨low, high, ?_⟩
  rw [scenarioSummary, hlow, ok_bind, hhigh, ok_bind]
  exact (fromReplayReport_eq_ok_iff (results_sound h) _).mpr
    ⟨⟨htraced.1, htraced.2, hlow_nonneg, hhigh_nonneg, hcomparison⟩, rfl⟩

/-- The run gave this traced result of its scenario. -/
structure Delivers (run : Raises SyntheticScenarioResult) (scenarioId : SyntheticScenarioId)
    (result : SyntheticScenarioResult) : Prop where
  built : run = .ok result
  scenario : result.scenarioId = scenarioId
  traced : Traced result.scenarioId result.traceability result.stressLabels

/-- A replay of traced evidence is summed up. -/
theorem exists_delivered {name : String} {traceability labels : List String}
    {comparison : Option Decimal} (htraced : Evident scenarioId name traceability labels)
    (hbars : MinuteBars scenarioId prices volumes bars) (hpositive : 0 < prices.length)
    (hlength : prices.length < 1000000) (hintents : validateOrderIntents intents = .ok ())
    (hstatus : venueStatus = .active ∨ venueStatus = .maintenance)
    (hcomparison : ∀ cost ∈ comparison, 0 ≤ cost) :
    ∃ result, Delivers (do
      let report ← scenarioReplay scenarioId bars intents costModel venueStatus ""
      scenarioSummary scenarioId name traceability labels bars report comparison)
      scenarioId result := by
  obtain ⟨report, hrun, hreport⟩ := @scenarioReplay_ok _ _ _ _ _ _ costModel _ ""
    hbars hlength hintents hstatus (Or.inl rfl)
  obtain ⟨low, high, hsummary⟩ := @scenarioSummary_ok _ _ _ _ _ _ _ name _ _ _ _ _ _ _
    htraced hbars hpositive hcomparison hreport
  refine ⟨summaryOf
    { scenarioId := scenarioId, scenarioName := name, traceability := traceability,
      stressLabels := labels, minClosePrice := low, maxClosePrice := high,
      comparisonTotalCost := comparison } report, ?_, rfl, htraced.2⟩
  rw [hrun, ok_bind]
  exact hsummary

theorem exists_trend : ∃ result, Delivers runTrend .trend result := by
  obtain ⟨bars, hbars, hminutes⟩ := @scenarioBars_ok .trend
    [ofWhole 100, ofWhole 102, ofWhole 104, ofWhole 106] [] [] _ rfl rfl (Or.inl rfl)
  obtain ⟨first, hfirst⟩ := @MinuteBars.exists_bar _ _ _ _ 0 hminutes (by decide)
  obtain ⟨second, hsecond⟩ := @MinuteBars.exists_bar _ _ _ _ 1 hminutes (by decide)
  have hintents : validateOrderIntents
      [scenarioIntent .trend 1 (minute 1) .buy ⟨1, Decimal.zero_lt_one⟩,
        scenarioIntent .trend 2 (minute 2) .sell ⟨1 / 2, zero_lt_half⟩] = .ok () :=
    ok_unit_of_toBool _ (by decide)
  have htraced : Evident .trend
      "Directional trend with deterministic buy/sell balance accounting"
      ["FR-012"] ["fake_data", "inventory_accounting"] := by
    decide
  unfold runTrend
  rw [hbars, ok_bind, (itemAt_eq_ok_iff _ _ _).mpr hfirst, ok_bind,
    (itemAt_eq_ok_iff _ _ _).mpr hsecond, ok_bind, hminutes.closeTs hfirst,
    hminutes.closeTs hsecond]
  exact exists_delivered htraced hminutes (by decide) (by decide) hintents (Or.inl rfl)
    no_comparison

theorem exists_crash : ∃ result, Delivers runCrash .crash result := by
  obtain ⟨bars, hbars, hminutes⟩ := @scenarioBars_ok .crash
    [ofWhole 100, ofWhole 92, ofWhole 78, ofWhole 61] [] [] _ rfl rfl (Or.inl rfl)
  obtain ⟨first, hfirst⟩ := @MinuteBars.exists_bar _ _ _ _ 0 hminutes (by decide)
  have hintents := one_order_accepted
    (scenarioIntent .crash 1 (minute 1) .buy ⟨1, Decimal.zero_lt_one⟩)
  have htraced : Evident .crash
      "Market drawdown stress path; evidence only, not strategy success"
      ["FR-012", "RISK-001"] ["fake_data", "market_drawdown", "RISK-001"] := by
    decide
  unfold runCrash
  rw [hbars, ok_bind, (itemAt_eq_ok_iff _ _ _).mpr hfirst, ok_bind, hminutes.closeTs hfirst]
  exact exists_delivered htraced hminutes (by decide) (by decide) hintents (Or.inl rfl)
    no_comparison

theorem exists_spread : ∃ result, Delivers runSpread .spread result := by
  obtain ⟨bars, hbars, hminutes⟩ := @scenarioBars_ok .spread
    [ofWhole 100, ofCents 10050, ofWhole 101] [] [] _ rfl rfl (Or.inl rfl)
  obtain ⟨first, hfirst⟩ := @MinuteBars.exists_bar _ _ _ _ 0 hminutes (by decide)
  have hintents := one_order_accepted
    (scenarioIntent .spread 1 (minute 1) .buy ⟨1, Decimal.zero_lt_one⟩)
  have htraced : Evident .spread
      "High spread/slippage stress with explicit cost comparison"
      ["FR-012", "RISK-002", "RISK-005"] ["fake_data", "cost_sensitivity", "liquidity_cost_stress"] := by
    decide
  have hclose : first.closeTs = minute 1 := hminutes.closeTs hfirst
  unfold runSpread
  rw [hbars, ok_bind, (itemAt_eq_ok_iff _ _ _).mpr hfirst, ok_bind, hclose]
  dsimp only
  -- the cheap replay only supplies the cost to compare with
  obtain ⟨lowCost, hlow, hlowReport⟩ := @scenarioReplay_ok _ _ _ _ _ _ _ _ "LOWCOST"
    hminutes (by decide) hintents (Or.inl rfl) (Or.inr rfl)
  have hcomparison : ∀ cost ∈ some (decimalSum (lowCost.results.map ReplayOrderResult.totalCost)),
      0 ≤ cost := by
    intro cost hcost
    obtain rfl := Option.mem_some.mp hcost
    exact totalCost_nonneg_of_report hlowReport
  rw [hlow, ok_bind]
  exact exists_delivered htraced hminutes (by decide) (by decide) hintents (Or.inl rfl)
    hcomparison

theorem exists_liquidity : ∃ result, Delivers runLiquidity .liquidity result := by
  obtain ⟨bars, hbars, hminutes⟩ := @scenarioBars_ok .liquidity
    [ofWhole 100, ofWhole 99, ofWhole 98] [ofWhole 10, ofWhole 2, ofWhole 0] [[], [], [.missing]]
    _ rfl rfl (Or.inr rfl)
  obtain ⟨first, hfirst⟩ := @MinuteBars.exists_bar _ _ _ _ 0 hminutes (by decide)
  obtain ⟨second, hsecond⟩ := @MinuteBars.exists_bar _ _ _ _ 1 hminutes (by decide)
  have hintents : validateOrderIntents
      [scenarioIntent .liquidity 1 (minute 1) .buy ⟨5, zero_lt_five⟩,
        scenarioIntent .liquidity 2 (minute 2) .buy ⟨1, Decimal.zero_lt_one⟩] = .ok () :=
    ok_unit_of_toBool _ (by decide)
  have htraced : Evident .liquidity
      "Liquidity collapse produces partial and failed fills"
      ["FR-012", "RISK-002"] ["fake_data", "liquidity_collapse", "RISK-002"] := by
    decide
  unfold runLiquidity
  rw [hbars, ok_bind, (itemAt_eq_ok_iff _ _ _).mpr hfirst, ok_bind,
    (itemAt_eq_ok_iff _ _ _).mpr hsecond, ok_bind, hminutes.closeTs hfirst,
    hminutes.closeTs hsecond]
  exact exists_delivered htraced hminutes (by decide) (by decide) hintents (Or.inl rfl)
    no_comparison

theorem exists_outage : ∃ result, Delivers runOutage .outage result := by
  obtain ⟨bars, hbars, hminutes⟩ := @scenarioBars_ok .outage
    [ofWhole 100] [] [[.missing]] _ rfl rfl (Or.inr rfl)
  obtain ⟨first, hfirst⟩ := @MinuteBars.exists_bar _ _ _ _ 0 hminutes (by decide)
  have hintents := one_order_accepted
    (scenarioIntent .outage 1 (minute 1) .buy ⟨1, Decimal.zero_lt_one⟩)
  have htraced : Evident .outage
      "Venue outage fail-closed rejection through venue-not-tradable accounting"
      ["FR-012", "RISK-002"] ["fake_data", "venue_outage", "fail_closed", "RISK-002"] := by
    decide
  unfold runOutage
  rw [hbars, ok_bind, (itemAt_eq_ok_iff _ _ _).mpr hfirst, ok_bind, hminutes.closeTs hfirst]
  exact exists_delivered htraced hminutes (by decide) (by decide) hintents (Or.inr rfl)
    no_comparison

/-! ## The random walk -/

/-- A result without the prices of its path and the digests. -/
def outcome (r : SyntheticScenarioResult) : SyntheticScenarioResult :=
  { r with replayReportId := "", replayReportHash := "", marketDataHash := "",
           minClosePrice := 0, maxClosePrice := 0 }

/-- Orders with one attempt on two markets are replayed alike on them. -/
theorem replayOrders_of_same_attempts {bars' : List OHLCTVBar} {context : Option VenueContext}
    (h : ∀ intent ∈ intents, fillAttempt bars' (some costModel) context intent =
      fillAttempt bars (some costModel) context intent) (balances : Balances) :
    replayOrders bars' (some costModel) context balances intents =
      replayOrders bars (some costModel) context balances intents := by
  unfold replayOrders
  induction intents generalizing balances with
  | nil => rfl
  | cons intent intents ih =>
      have hone : replayOne bars' (some costModel) context balances intent =
          replayOne bars (some costModel) context balances intent := by
        rw [replayOne, replayOne, h intent List.mem_cons_self]
      have hrest := ih fun other hother => h other (List.mem_cons_of_mem intent hother)
      rw [runSteps, runSteps, hone]
      cases replayOne bars (some costModel) context balances intent with
      | error e => rfl
      | ok out => simp only [hrest]

/-- The report is a replay of the order on the minutes of a path that starts at 100. -/
structure WalkReplay (report : ReplayReport) (prices : List NonNegativeDecimal)
    (bars : List OHLCTVBar) : Prop where
  start : prices[0]? = some (ofWhole 100)
  length : prices.length = 5
  minutes : MinuteBars .randomWalk prices (List.replicate 5 (ofWhole 10)) bars
  replay : replayOhlctvMarketOrders bars [walkOrder] (scenarioRunId .randomWalk "")
    (some walkCosts) (some (scenarioMaster .active)) (some scenarioAccountState) = .ok report

/-- The random walk sums up its replay, whatever was drawn. -/
theorem exists_walkReplay (draws : Nat → Fin 6) : ∃ report prices bars low high,
    WalkReplay report prices bars ∧
      Delivers (runRandomWalk draws) .randomWalk (summaryOf (walkEvidence low high) report) := by
  generalize hprices : randomWalkPrices draws (ofWhole 100) 5 = prices
  have hlength : prices.length = 5 := by
    rw [← hprices, randomWalkPrices, List.length_scanl, List.length_map, List.length_range]
  have hstart : prices[0]? = some (ofWhole 100) := by
    rw [← hprices, randomWalkPrices, List.getElem?_scanl_zero]
  have hvolumes : (if ([] : List NonNegativeDecimal) = [] then
      prices.map fun _ => ofWhole 10 else []) = List.replicate 5 (ofWhole 10) := by
    rw [if_pos rfl, List.map_const', hlength]
  obtain ⟨bars, hbars, hminutes⟩ := @scenarioBars_ok .randomWalk prices [] [] _ hvolumes
    (by rw [List.length_replicate, hlength]) (Or.inl rfl)
  have hfew : prices.length < 1000000 := by omega
  have hpositive : 0 < prices.length := by omega
  obtain ⟨first, hfirst⟩ := @MinuteBars.exists_bar _ _ _ _ 0 hminutes hpositive
  have hintents := one_order_accepted walkOrder
  have htraced : Evident .randomWalk "Deterministic baseline random-walk fills with costs"
      ["FR-012"] ["fake_data", "baseline_fill_cost"] := by
    decide
  obtain ⟨report, hrun, hreport⟩ := @scenarioReplay_ok _ _ _ _ _ _ walkCosts _ ""
    hminutes hfew hintents (Or.inl rfl) (Or.inl rfl)
  obtain ⟨low, high, hsummary⟩ := @scenarioSummary_ok _ _ _ _ _ _ _ _ _ _ none _ _ _ _
    htraced hminutes hpositive no_comparison hreport
  refine ⟨report, prices, bars, low, high, ⟨hstart, hlength, hminutes, hreport⟩, ?_, rfl, htraced.2⟩
  unfold runRandomWalk
  rw [hprices, hbars, ok_bind, (itemAt_eq_ok_iff _ _ _).mpr hfirst, ok_bind,
    hminutes.closeTs hfirst]
  exact (congrArg (· >>= _) hrun).trans hsummary

/-- Whatever was drawn, the order of the random walk fills at the starting price. -/
theorem outcome_of_walkReplay {report report' : ReplayReport}
    {prices' : List NonNegativeDecimal} {bars' : List OHLCTVBar} {low high low' high' : Decimal}
    (h : WalkReplay report prices bars) (h' : WalkReplay report' prices' bars') :
    outcome (summaryOf (walkEvidence low' high') report') =
      outcome (summaryOf (walkEvidence low high) report) := by
  have hminute : AtMinute 1 walkOrder := ⟨rfl, rfl, rfl⟩
  have hprice : prices'[1 - 1]? = prices[1 - 1]? := h'.start.trans h.start.symm
  have hlength : 1 < prices.length := by rw [h.length]; decide
  have hlength' : 1 < prices'.length := by rw [h'.length]; decide
  obtain ⟨context, balances, -, -, hcontext, hrun, -, -, hfinal⟩ :=
    replayOhlctvMarketOrders_ok h.replay
  obtain ⟨context', balances', -, -, hcontext', hrun', -, -, hfinal'⟩ :=
    replayOhlctvMarketOrders_ok h'.replay
  obtain rfl : context' = context := Except.ok.inj (hcontext'.symm.trans hcontext)
  -- the order meets the second bar, which opens at the first price
  have hattempts : ∀ intent ∈ [walkOrder], fillAttempt bars' (some walkCosts) context' intent =
      fillAttempt bars (some walkCosts) context' intent := by
    intro intent hintent
    obtain rfl := List.mem_singleton.mp hintent
    exact fillAttempt_minuteBars_congr h.minutes h'.minutes hminute rfl hlength hlength' hprice
  rw [replayOrders_of_same_attempts hattempts, hrun] at hrun'
  obtain ⟨hresults, rfl⟩ := Prod.mk.inj (Except.ok.inj hrun')
  have hstate : report'.finalAccountState = report.finalAccountState :=
    Except.ok.inj (hfinal'.symm.trans hfinal)
  have hrejections : report'.rejectionCounts = report.rejectionCounts := by
    rw [rejectionCounts_of_report h'.replay, rejectionCounts_of_report h.replay, hresults]
  simp only [outcome, summaryOf, walkEvidence, hstate, hrejections, ← hresults]

/-! ## The suite -/

/-- Traced results of the required scenarios make a suite report. -/
theorem makeSyntheticScenarioSuiteReport_ok (runId : {s : String // isCanonicalId s = true})
    (seed : Int) {results : List SyntheticScenarioResult}
    (hids : results.map SyntheticScenarioResult.scenarioId = SyntheticScenarioId.all)
    (htraced : ∀ r ∈ results, Traced r.scenarioId r.traceability r.stressLabels) :
    ∃ suite, makeSyntheticScenarioSuiteReport runId seed results = .ok suite ∧
      suite.scenarioResults = results := by
  refine ⟨_, (SyntheticScenarioSuiteReport.stamping.construct_eq_ok_iff _ _).mpr ⟨?_, rfl⟩, rfl⟩
  show SyntheticScenarioSuiteReport.validateFields _ = .ok ()
  unfold SyntheticScenarioSuiteReport.validateFields
  simp only [check_bind_eq_ok_iff, require_eq_ok_iff, forM_eq_ok_iff,
    validateTraceability_eq_ok_iff]
  exact ⟨trivial, by decide, hids, htraced⟩

variable {draws : Int → Nat → Fin 6} {seed : Int}
  {walk trend crash spread liquidity outage : SyntheticScenarioResult}

/-- The suite reports the results of the six runs. -/
theorem runSyntheticScenarioSuite_ok
    (hwalk : Delivers (runRandomWalk (draws seed)) .randomWalk walk)
    (htrend : Delivers runTrend .trend trend) (hcrash : Delivers runCrash .crash crash)
    (hspread : Delivers runSpread .spread spread)
    (hliquidity : Delivers runLiquidity .liquidity liquidity)
    (houtage : Delivers runOutage .outage outage)
    (runId : {s : String // isCanonicalId s = true}) :
    ∃ suite, runSyntheticScenarioSuite draws seed runId = .ok suite ∧
      suite.scenarioResults = [walk, trend, crash, spread, liquidity, outage] := by
  unfold runSyntheticScenarioSuite
  rw [hwalk.built, ok_bind, htrend.built, ok_bind, hcrash.built, ok_bind, hspread.built, ok_bind,
    hliquidity.built, ok_bind, houtage.built, ok_bind]
  apply makeSyntheticScenarioSuiteReport_ok
  · simp only [List.map_cons, List.map_nil, hwalk.scenario, htrend.scenario, hcrash.scenario,
      hspread.scenario, hliquidity.scenario, houtage.scenario]
    rfl
  · simp only [List.mem_cons, List.not_mem_nil, or_false]
    rintro r (rfl | rfl | rfl | rfl | rfl | rfl)
    · exact hwalk.traced
    · exact htrend.traced
    · exact hcrash.traced
    · exact hspread.traced
    · exact hliquidity.traced
    · exact houtage.traced

end Runs

/-- The suite is built for every generator, seed and run id, with each required scenario once and in
order, and seeds change prices and digests only. -/
theorem scenario_suite_seed_independent [Sha256] (draws draws' : Int → Nat → Fin 6)
    (seed seed' : Int) (runId runId' : {s : String // isCanonicalId s = true}) :
    ∃ suite suite', runSyntheticScenarioSuite draws seed runId = .ok suite ∧
      runSyntheticScenarioSuite draws' seed' runId' = .ok suite' ∧
      suite.scenarioResults.map SyntheticScenarioResult.scenarioId = SyntheticScenarioId.all ∧
      suite'.scenarioResults.map outcome = suite.scenarioResults.map outcome := by
  obtain ⟨report, prices, bars, low, high, hreplay, hwalk⟩ := exists_walkReplay (draws seed)
  obtain ⟨report', prices', bars', low', high', hreplay', hwalk'⟩ :=
    exists_walkReplay (draws' seed')
  obtain ⟨trend, htrend⟩ := exists_trend
  obtain ⟨crash, hcrash⟩ := exists_crash
  obtain ⟨spread, hspread⟩ := exists_spread
  obtain ⟨liquidity, hliquidity⟩ := exists_liquidity
  obtain ⟨outage, houtage⟩ := exists_outage
  obtain ⟨suite, hsuite, hresults⟩ :=
    runSyntheticScenarioSuite_ok hwalk htrend hcrash hspread hliquidity houtage runId
  obtain ⟨suite', hsuite', hresults'⟩ :=
    runSyntheticScenarioSuite_ok hwalk' htrend hcrash hspread hliquidity houtage runId'
  refine ⟨suite, suite', hsuite, hsuite', ?_, ?_⟩
  · rw [hresults]
    simp only [List.map_cons, List.map_nil, hwalk.scenario, htrend.scenario, hcrash.scenario,
      hspread.scenario, hliquidity.scenario, houtage.scenario]
    rfl
  · have hwalks : outcome (summaryOf (walkEvidence low' high') report') =
        outcome (summaryOf (walkEvidence low high) report) :=
      outcome_of_walkReplay hreplay hreplay'
    rw [hresults, hresults']
    simp only [List.map_cons, List.map_nil, hwalks]

end TaModel.Simulation
