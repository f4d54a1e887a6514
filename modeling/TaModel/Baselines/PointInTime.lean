import TaModel.Baselines.Ledger
import TaModel.Contracts.CanonicalJson
import TaModel.Datasets.LabelFrame

/-!
# Point-in-time baselines

Two snapshots that differ in their labels give a baseline the same weights and cost rates; the
learned baseline reads the labels of the train split. The turnover of a row then agrees as well,
being a function of the weights, except in a buy-and-hold run over a snapshot that repeats the first
row of a market.
-/

set_option autoImplicit false

namespace TaModel.Baselines

open Contracts Library Datasets

section Runs

variable [Sha256]

/-! ## Rows of a run -/

theorem signalWeight_eq_ok {policy : DatasetRow → Signal} {row : DatasetRow} {weight : Decimal}
    {reason : Option String} (h : signalWeight policy row = .ok (weight, reason)) :
    weight = if (policy row).trade then 1 else 0 := by
  obtain ⟨-, h⟩ := (check_bind_eq_ok_iff _ _ _).mp h
  cases h
  rfl

theorem cashRow_rowFor (row : DatasetRow) :
    RowFor (.ok ⟨0, le_refl 0⟩) (· = 0) row (cashRow row) ∧ (cashRow row).turnover = 0 :=
  ⟨⟨rfl, rfl, rfl, rfl, rfl, rfl⟩, rfl⟩

/-- Cash never changes its weight. -/
theorem chargesChanges_cash (rows : List DatasetRow) : ChargesChanges (rows.map cashRow) := by
  have hzero : ∀ output ∈ rows.map cashRow, output.targetWeight = 0 ∧ output.turnover = 0 := by
    intro output houtput
    obtain ⟨row, -, rfl⟩ := List.mem_map.mp houtput
    exact ⟨rfl, rfl⟩
  intro before row after hsplit
  rw [hsplit] at hzero
  obtain ⟨hweight, hturnover⟩ := hzero row (by simp)
  have hlast : lastWeight before (rowMarket row) = 0 := by
    unfold lastWeight
    split
    · rfl
    · rename_i last hlast
      have hmem := List.mem_of_mem_filter (List.mem_of_getLast? hlast)
      exact (hzero last (List.mem_append_left _ hmem)).1
  rw [hturnover, hweight, hlast, sub_zero, abs_zero]

/-- The rows of a run, and what they are charged. -/
theorem rows_of_baselineRows {snapshot : DatasetSnapshot} {config : BaselineConfig}
    {result : List BaselineRow × Option SimpleMLModel}
    (h : baselineRows snapshot config = .ok result) :
    List.Forall₂ (fun row => RowFor (rateOf row config.costFeaturePreference config.kind)
        (fun weight => IsWeight snapshot row weight config.kind) row) snapshot.rows result.1 ∧
      (ChargesChanges result.1 ↔
        (config.kind = .buyAndHold → Unrepeated snapshot.rows)) := by
  unfold baselineRows at h
  cases hkind : config.kind with
  | cash =>
      simp only [hkind, Except.ok.injEq] at h
      subst h
      refine ⟨?_, iff_of_true (chargesChanges_cash _) nofun⟩
      exact List.forall₂_map_right_iff.mpr
        (List.forall₂_same.mpr fun row _ => (cashRow_rowFor row).1)
  | buyAndHold =>
      simp only [hkind] at h
      obtain ⟨rows, hrows, h⟩ := (bind_eq_ok_iff _ _ _).mp h
      cases h
      refine ⟨((mapM_eq_ok_iff _ _ _).mp hrows).imp fun row output hrow => ?_, ?_⟩
      · exact (buyAndHoldRow_eq_ok hrow).1
      · simpa using buyAndHold_chargesChanges_iff hrows
  | equalWeightBasket =>
      simp only [hkind] at h
      obtain ⟨rows, hrows, h⟩ := (bind_eq_ok_iff _ _ _).mp h
      cases h
      obtain ⟨hmade, hcharges⟩ := carriedRows_eq_ok hrows
      refine ⟨hmade.imp fun row output hrow => { hrow with weight := ?_ },
        iff_of_true hcharges nofun⟩
      obtain ⟨reason, hweight⟩ := hrow.weight
      exact (congrArg Prod.fst (Except.ok.inj hweight)).symm
  | taHeuristic =>
      simp only [hkind] at h
      obtain ⟨rows, hrows, h⟩ := (bind_eq_ok_iff _ _ _).mp h
      cases h
      obtain ⟨hmade, hcharges⟩ := carriedRows_eq_ok hrows
      refine ⟨hmade.imp fun row output hrow => { hrow with weight := ?_ },
        iff_of_true hcharges nofun⟩
      obtain ⟨reason, hweight⟩ := hrow.weight
      exact signalWeight_eq_ok hweight
  | simpleMl =>
      simp only [hkind] at h
      obtain ⟨model, hmodel, h⟩ := (bind_eq_ok_iff _ _ _).mp h
      obtain ⟨rows, hrows, h⟩ := (bind_eq_ok_iff _ _ _).mp h
      cases h
      obtain ⟨hmade, hcharges⟩ := carriedRows_eq_ok hrows
      refine ⟨hmade.imp fun row output hrow => { hrow with weight := ?_ },
        iff_of_true hcharges nofun⟩
      obtain ⟨reason, hweight⟩ := hrow.weight
      exact ⟨model, hmodel, signalWeight_eq_ok hweight⟩

/-! ## Weights and sums -/

/-- A row is its own peer. -/
theorem peerCount_pos {rows : List DatasetRow} {row : DatasetRow} (h : row ∈ rows) :
    0 < peerCount rows row :=
  List.countP_pos_iff.mpr ⟨row, h, by simp⟩

theorem isWeight_bounds {snapshot : DatasetSnapshot} {row : DatasetRow} {weight : Decimal}
    {kind : BaselineKind} (hrow : row ∈ snapshot.rows) (h : IsWeight snapshot row weight kind) :
    0 ≤ weight ∧ weight ≤ 1 := by
  have hsignal : ∀ signal : Signal,
      (0 : Decimal) ≤ (if signal.trade then 1 else 0) ∧
        (if signal.trade then 1 else 0) ≤ (1 : Decimal) := by
    intro signal
    cases signal.trade with
    | true => exact ⟨zero_le_one, le_refl 1⟩
    | false => exact ⟨le_refl 0, zero_le_one⟩
  cases kind with
  | cash =>
      obtain rfl : weight = 0 := h
      exact ⟨le_refl 0, zero_le_one⟩
  | buyAndHold =>
      obtain rfl : weight = 1 := h
      exact ⟨zero_le_one, le_refl 1⟩
  | equalWeightBasket =>
      obtain rfl : weight = 1 / peerCount snapshot.rows row := h
      have hpeers : (1 : Decimal) ≤ peerCount snapshot.rows row := by
        exact_mod_cast peerCount_pos hrow
      exact ⟨div_nonneg zero_le_one (Nat.cast_nonneg _),
        div_le_one_of_le₀ hpeers (Nat.cast_nonneg _)⟩
  | taHeuristic =>
      obtain rfl : weight = if (taSignal row).trade then 1 else 0 := h
      exact hsignal _
  | simpleMl =>
      obtain ⟨model, -, rfl⟩ := h
      exact hsignal _

/-- What the rows earn and what they are charged add up to what they return. -/
theorem sum_netReturn {rows : List BaselineRow}
    (h : ∀ row ∈ rows, row.netReturn =
      row.targetWeight * row.realizedReturn - row.costReturn.val) :
    (rows.map BaselineRow.netReturn).sum =
      (rows.map fun row => row.targetWeight * row.realizedReturn).sum -
        (rows.map fun row => row.costReturn.val).sum := by
  induction rows with
  | nil => simp
  | cons row rows ih =>
      obtain ⟨hrow, hrest⟩ := List.forall_mem_cons.mp h
      simp only [List.map_cons, List.sum_cons, ih hrest, hrow]
      ring

theorem splitSummary_eq_ok {rows : List BaselineRow} {split : DatasetSplit}
    {summary : BaselineSplitSummary} (h : splitSummary rows split = .ok summary)
    (hnet : ∀ row ∈ rows, row.netReturn =
      row.targetWeight * row.realizedReturn - row.costReturn.val) :
    summary.split = split ∧
      summary.netReturnSum = summary.grossReturnSum - summary.costReturnSum.val := by
  dsimp only [splitSummary] at h
  split at h
  · cases h
    exact ⟨rfl, sum_netReturn fun row hrow => hnet row (List.mem_of_mem_filter hrow)⟩
  · cases h

/-- The ledger of a report adds up. -/
structure LedgerHolds (report : BaselineReport) : Prop where
  weights : ∀ row ∈ report.rows, 0 ≤ row.targetWeight ∧ row.targetWeight ≤ 1
  net : ∀ row ∈ report.rows, row.netReturn =
    row.targetWeight * row.realizedReturn - row.turnover * row.costRate.val
  changes : ChargesChanges report.rows
  splits : report.summariesBySplit.map BaselineSplitSummary.split = [.train, .validation, .test]
  sums : ∀ summary ∈ report.summariesBySplit,
    summary.netReturnSum = summary.grossReturnSum - summary.costReturnSum.val

section Report

variable {snapshot : DatasetSnapshot} {config : BaselineConfig} {report : BaselineReport}

theorem rows_of_runBaseline (h : runBaseline snapshot config = .ok report) :
    ∃ result, baselineRows snapshot config = .ok result ∧ report.rows = result.1 ∧
      summaries report.rows = .ok report.summariesBySplit := by
  obtain ⟨-, h⟩ := (check_bind_eq_ok_iff _ _ _).mp h
  obtain ⟨-, h⟩ := (check_bind_eq_ok_iff _ _ _).mp h
  obtain ⟨result, hresult, h⟩ := (bind_eq_ok_iff _ _ _).mp h
  obtain ⟨summariesBySplit, hsummaries, h⟩ := (bind_eq_ok_iff _ _ _).mp h
  cases h
  exact ⟨result, hresult, rfl, hsummaries⟩

theorem rowFor_of_runBaseline (h : runBaseline snapshot config = .ok report) :
    List.Forall₂ (fun row => RowFor (rateOf row config.costFeaturePreference config.kind)
      (fun weight => IsWeight snapshot row weight config.kind) row) snapshot.rows report.rows := by
  obtain ⟨result, hresult, hrows, -⟩ := rows_of_runBaseline h
  rw [hrows]
  exact (rows_of_baselineRows hresult).1

/-- The ledger adds up unless buy-and-hold meets a repeated first row. -/
theorem ledgerHolds_iff (h : runBaseline snapshot config = .ok report) :
    LedgerHolds report ↔ (config.kind = .buyAndHold → Unrepeated snapshot.rows) := by
  obtain ⟨result, hresult, hrows, hsummaries⟩ := rows_of_runBaseline h
  obtain ⟨hmade, hcharges⟩ := rows_of_baselineRows hresult
  rw [← hrows] at hmade hcharges
  have hnet : ∀ row ∈ report.rows, row.netReturn =
      row.targetWeight * row.realizedReturn - row.costReturn.val := by
    intro row hrow
    obtain ⟨source, -, hsource⟩ := exists_of_mem_right hmade hrow
    rw [hsource.net, hsource.cost]
  have hsplits := (mapM_eq_ok_iff _ _ _).mp hsummaries
  rw [← hcharges]
  constructor
  · exact fun hledger => hledger.changes
  · intro hchanges
    refine ⟨?_, ?_, hchanges, ?_, ?_⟩
    · intro row hrow
      obtain ⟨source, hmem, hsource⟩ := exists_of_mem_right hmade hrow
      exact isWeight_bounds hmem hsource.weight
    · intro row hrow
      obtain ⟨source, -, hsource⟩ := exists_of_mem_right hmade hrow
      exact hsource.net
    · have hmap := @map_eq_of_forall₂ _ _ _ _ id BaselineSplitSummary.split _ _ hsplits
        fun split summary hsummary => (splitSummary_eq_ok hsummary hnet).1.symm
      rw [← hmap, List.map_id]
    · intro summary hsummary
      obtain ⟨split, -, hsplit⟩ := exists_of_mem_right hsplits hsummary
      exact (splitSummary_eq_ok hsplit hnet).2

end Report

/-! ## Other labels -/

/-- The same row up to its label: what a policy may look at. -/
structure SameButLabel (a b : DatasetRow) : Prop where
  instrument : b.instrumentId = a.instrumentId
  venue : b.venueId = a.venueId
  featureTs : b.featureTs = a.featureTs
  values : b.featureValues = a.featureValues
  split : b.split = a.split

/-- The same snapshot up to the labels of its rows. -/
structure SameButLabels (s s' : DatasetSnapshot) : Prop where
  labelRule : s'.labelRule = s.labelRule
  rows : List.Forall₂ SameButLabel s.rows s'.rows

/-- Train rows keep their labels. -/
def TrainLabelsKept (s s' : DatasetSnapshot) : Prop :=
  List.Forall₂ (fun a b => a.split = .train → b.labelValue = a.labelValue) s.rows s'.rows

/-- The same decision, and the same charge for it. -/
structure SameDecision (a b : BaselineRow) : Prop where
  targetWeight : b.targetWeight = a.targetWeight
  turnover : b.turnover = a.turnover
  costRate : b.costRate = a.costRate

theorem SameButLabel.numericFeature {a b : DatasetRow} (h : SameButLabel a b) (name : String) :
    numericFeature b name = numericFeature a name := by
  rw [Baselines.numericFeature, Baselines.numericFeature, h.values]

theorem SameButLabel.taSignal {a b : DatasetRow} (h : SameButLabel a b) :
    taSignal b = taSignal a := by
  simp only [Baselines.taSignal, firstNumericFeature, h.numericFeature]

theorem SameButLabel.simpleMlSignal {a b : DatasetRow} (h : SameButLabel a b)
    (model : SimpleMLModel) : simpleMlSignal model b = simpleMlSignal model a := by
  simp only [Baselines.simpleMlSignal, h.numericFeature]

theorem SameButLabel.costRate {a b : DatasetRow} (h : SameButLabel a b) (names : List String) :
    costRate b names = costRate a names := by
  induction names with
  | nil => rfl
  | cons name names ih => simp only [Baselines.costRate, h.numericFeature, ih]

theorem SameButLabel.rateOf {a b : DatasetRow} (h : SameButLabel a b) (names : List String)
    (kind : BaselineKind) : rateOf b names kind = rateOf a names kind := by
  cases kind with
  | cash => rfl
  | buyAndHold | equalWeightBasket | taHeuristic | simpleMl => exact h.costRate names

theorem SameButLabel.peerCount {rows rows' : List DatasetRow}
    (hrows : List.Forall₂ SameButLabel rows rows') {a b : DatasetRow} (h : SameButLabel a b) :
    peerCount rows' b = peerCount rows a := by
  induction hrows with
  | nil => rfl
  | cons hrow _ ih =>
      simp only [Baselines.peerCount, h.split, h.featureTs] at ih
      simp only [Baselines.peerCount, List.countP_cons, hrow.split, hrow.featureTs, h.split,
        h.featureTs, ih]

/-! ## The learned baseline -/

/-- The entries the learned baseline is fitted to. -/
def trainEntries (rows : List DatasetRow) : List (DatasetRow × Decimal) :=
  (rows.filter fun row => row.split = .train).filterMap fun row =>
    (numericFeature row "one_bar_return").map fun value => (row, value)

theorem fitSimpleMl_eq_ok {snapshot : DatasetSnapshot} {model : SimpleMLModel}
    (h : fitSimpleMl snapshot = .ok model) :
    ∃ returns, (trainEntries snapshot.rows).mapM
        (fun entry => realizedReturn entry.1 snapshot.labelRule.method) = .ok returns ∧
      model = ⟨"one_bar_return",
        ((trainEntries snapshot.rows).map Prod.snd).sum / (trainEntries snapshot.rows).length,
        returns.sum / returns.length⟩ := by
  obtain ⟨-, h⟩ := (check_bind_eq_ok_iff _ _ _).mp h
  obtain ⟨-, h⟩ := (check_bind_eq_ok_iff _ _ _).mp h
  obtain ⟨returns, hreturns, h⟩ := (bind_eq_ok_iff _ _ _).mp h
  cases h
  exact ⟨returns, hreturns, rfl⟩

/-- The entries of both snapshots have the same features and the same labels. -/
theorem trainEntries_agree {rows rows' : List DatasetRow}
    (hrows : List.Forall₂ SameButLabel rows rows')
    (htrain : List.Forall₂ (fun a b => a.split = .train → b.labelValue = a.labelValue) rows rows') :
    List.Forall₂ (fun entry entry' => entry'.2 = entry.2 ∧
        SameButLabel entry.1 entry'.1 ∧ entry'.1.labelValue = entry.1.labelValue)
      (trainEntries rows) (trainEntries rows') := by
  induction hrows with
  | nil => exact .nil
  | @cons a b rows rows' hab hrest ih =>
      obtain ⟨hlabel, hlabels⟩ := List.forall₂_cons.mp htrain
      have htail := ih hlabels
      unfold trainEntries at htail ⊢
      by_cases hsplit : a.split = .train
      · have hsplit' : b.split = .train := hab.split.trans hsplit
        rw [List.filter_cons_of_pos (by simpa using hsplit),
          List.filter_cons_of_pos (by simpa using hsplit')]
        simp only [List.filterMap_cons, hab.numericFeature]
        cases numericFeature a "one_bar_return" with
        | none => exact htail
        | some value => exact .cons ⟨rfl, hab, hlabel hsplit⟩ htail
      · have hsplit' : ¬ b.split = .train := fun h => hsplit (hab.split.symm.trans h)
        rw [List.filter_cons_of_neg (by simpa using hsplit),
          List.filter_cons_of_neg (by simpa using hsplit')]
        exact htail

theorem realizedReturn_congr {a b : DatasetRow} (h : SameButLabel a b)
    (hlabel : b.labelValue = a.labelValue) (method : LabelMethod) :
    realizedReturn b method = realizedReturn a method := by
  simp only [realizedReturn, h.numericFeature, hlabel]

/-- The fit reads features and the labels of the train split. -/
theorem fitSimpleMl_congr {s s' : DatasetSnapshot} (hlabels : SameButLabels s s')
    (htrain : TrainLabelsKept s s') {model model' : SimpleMLModel}
    (h : fitSimpleMl s = .ok model) (h' : fitSimpleMl s' = .ok model') : model' = model := by
  obtain ⟨returns, hreturns, rfl⟩ := fitSimpleMl_eq_ok h
  obtain ⟨returns', hreturns', rfl⟩ := fitSimpleMl_eq_ok h'
  have hentries := trainEntries_agree hlabels.rows htrain
  have hsame : (trainEntries s'.rows).map Prod.snd = (trainEntries s.rows).map Prod.snd :=
    (map_eq_of_forall₂ hentries fun entry entry' hentry => hentry.1.symm).symm
  have hlength := hentries.length_eq
  -- the train returns are the same computations in both snapshots
  have hvalues : returns' = returns := by
    rw [hlabels.labelRule] at hreturns'
    have hmap := @map_eq_of_forall₂ _ _ _ _ _ Except.ok _ _
      ((mapM_eq_ok_iff _ _ _).mp hreturns) fun _ _ hvalue => hvalue
    have hmap' := @map_eq_of_forall₂ _ _ _ _ _ Except.ok _ _
      ((mapM_eq_ok_iff _ _ _).mp hreturns') fun _ _ hvalue => hvalue
    have hcomputed := map_eq_of_forall₂ hentries fun entry entry' hentry =>
      (realizedReturn_congr hentry.2.1 hentry.2.2 s.labelRule.method).symm
    apply List.map_injective_iff.mpr fun _ _ hok => Except.ok.inj hok
    exact (hmap'.symm.trans hcomputed.symm).trans hmap
  rw [hsame, ← hlength, hvalues]

/-! ## Two runs -/

section TwoRuns

variable {s s' : DatasetSnapshot} {config : BaselineConfig} {report report' : BaselineReport}

/-- The weight of a row does not depend on the labels a policy must not look at. -/
theorem isWeight_congr (hlabels : SameButLabels s s') {kind : BaselineKind}
    (htrain : kind = .simpleMl → TrainLabelsKept s s') {a b : DatasetRow} (hab : SameButLabel a b)
    {weight weight' : Decimal} (h : IsWeight s a weight kind) (h' : IsWeight s' b weight' kind) :
    weight' = weight := by
  cases kind with
  | cash | buyAndHold => exact Eq.trans h' (Eq.symm h)
  | equalWeightBasket =>
      have hpeers := hab.peerCount hlabels.rows
      obtain rfl : weight' = 1 / peerCount s'.rows b := h'
      rw [hpeers]
      exact Eq.symm h
  | taHeuristic =>
      obtain rfl : weight' = if (taSignal b).trade then 1 else 0 := h'
      rw [hab.taSignal]
      exact Eq.symm h
  | simpleMl =>
      obtain ⟨model, hmodel, rfl⟩ := h
      obtain ⟨model', hmodel', rfl⟩ := h'
      rw [fitSimpleMl_congr hlabels (htrain rfl) hmodel hmodel', hab.simpleMlSignal]

/-- The same market and weight, and the same cost rate. -/
def SameWeight (a b : BaselineRow) : Prop :=
  rowMarket b = rowMarket a ∧ b.targetWeight = a.targetWeight ∧ b.costRate = a.costRate

theorem rows_sameWeight (hlabels : SameButLabels s s')
    (htrain : config.kind = .simpleMl → TrainLabelsKept s s')
    (h : runBaseline s config = .ok report) (h' : runBaseline s' config = .ok report') :
    List.Forall₂ SameWeight report.rows report'.rows := by
  have hrows := rowFor_of_runBaseline h
  have hrows' := rowFor_of_runBaseline h'
  -- along the dataset rows, from the rows of one report to those of the other
  have hacross := forall₂_comp hlabels.rows hrows'
  refine forall₂_of_common hrows hacross ?_
  rintro row - output output' hrow ⟨row', hsame, hrow'⟩
  refine ⟨?_, isWeight_congr hlabels htrain hsame hrow.weight hrow'.weight, ?_⟩
  · rw [hrow.market, hrow'.market, marketOf, marketOf, hsame.split, hsame.instrument]
  · have hrate := hsame.rateOf config.costFeaturePreference config.kind
    rw [hrow.rate, hrow'.rate] at hrate
    exact Except.ok.inj hrate

/-- The last weights of a market agree. -/
theorem lastWeight_congr {rows rows' : List BaselineRow}
    (h : List.Forall₂ SameWeight rows rows') (market : DatasetSplit × String) :
    lastWeight rows' market = lastWeight rows market := by
  have hlasts : List.Forall₂ SameWeight
      (rows.filter fun row => decide (rowMarket row = market))
      (rows'.filter fun row => decide (rowMarket row = market)) := by
    refine List.rel_filter ?_ h
    intro a b hab
    simp [hab.1]
  have hreversed := List.forall₂_reverse_iff.mpr hlasts
  unfold lastWeight
  rw [List.getLast?_eq_head?_reverse, List.getLast?_eq_head?_reverse]
  generalize (rows.filter fun row => decide (rowMarket row = market)).reverse = lasts at hreversed ⊢
  generalize (rows'.filter fun row => decide (rowMarket row = market)).reverse = lasts'
    at hreversed ⊢
  cases hreversed with
  | nil => rfl
  | cons hab _ => exact hab.2.1

/-- Equal weights are charged equally by two ledgers that charge changes. -/
theorem sameDecision_of_changes {before before' rows rows' : List BaselineRow}
    (hbefore : List.Forall₂ SameWeight before before') (h : List.Forall₂ SameWeight rows rows')
    (hcharges : ChargesChanges (before ++ rows)) (hcharges' : ChargesChanges (before' ++ rows')) :
    List.Forall₂ SameDecision rows rows' := by
  induction h generalizing before before' with
  | nil => exact .nil
  | @cons a b rows rows' hab _ ih =>
      refine .cons ⟨hab.2.1, ?_, hab.2.2⟩ ?_
      · rw [hcharges before a rows rfl, hcharges' before' b rows' rfl, hab.1, hab.2.1,
          lastWeight_congr hbefore]
      · refine ih (List.rel_append hbefore (.cons hab .nil)) ?_ ?_
        · rwa [List.append_assoc]
        · rwa [List.append_assoc]

/-- A baseline's decisions are the same under other labels and its ledger adds up, unless the kind
is buy-and-hold and a snapshot repeats the `row_id` of the first row of a split and instrument. -/
theorem baseline_point_in_time_iff (hlabels : SameButLabels s s')
    (htrain : config.kind = .simpleMl → TrainLabelsKept s s')
    (h : runBaseline s config = .ok report) (h' : runBaseline s' config = .ok report') :
    (LedgerHolds report ∧ LedgerHolds report' ∧
        List.Forall₂ SameDecision report.rows report'.rows) ↔
      (config.kind = .buyAndHold → Unrepeated s.rows ∧ Unrepeated s'.rows) := by
  rw [ledgerHolds_iff h, ledgerHolds_iff h']
  constructor
  · rintro ⟨hledger, hledger', -⟩ hkind
    exact ⟨hledger hkind, hledger' hkind⟩
  · intro hunrepeated
    have hledger := (ledgerHolds_iff h).mpr fun hkind => (hunrepeated hkind).1
    have hledger' := (ledgerHolds_iff h').mpr fun hkind => (hunrepeated hkind).2
    exact ⟨fun hkind => (hunrepeated hkind).1, fun hkind => (hunrepeated hkind).2,
      sameDecision_of_changes .nil (rows_sameWeight hlabels htrain h h') hledger.changes
        hledger'.changes⟩

end TwoRuns

/-! ## Runs that succeed -/

theorem exists_summaries {rows : List BaselineRow} (h : ∀ row ∈ rows, 0 ≤ row.turnover) :
    ∃ summariesBySplit, summaries rows = .ok summariesBySplit := by
  have hsplit : ∀ split, ∃ summary, splitSummary rows split = .ok summary := by
    intro split
    refine ⟨_, dif_pos (List.sum_nonneg fun turnover hturnover => ?_)⟩
    obtain ⟨row, hrow, rfl⟩ := List.mem_map.mp hturnover
    exact h row (List.mem_of_mem_filter hrow)
  obtain ⟨summariesBySplit, hsummaries⟩ := exists_forall₂ fun split _ => hsplit split
  exact ⟨summariesBySplit, (mapM_eq_ok_iff _ _ _).mpr hsummaries⟩

/-- Without cost features and with return labels buy-and-hold runs on all chronological rows. -/
theorem exists_buyAndHold {snapshot : DatasetSnapshot} {config : BaselineConfig}
    (hkind : config.kind = .buyAndHold) (hcosts : config.costFeaturePreference = [])
    (hmethod : snapshot.labelRule.method = .futureReturn) (hne : snapshot.rows ≠ [])
    (horder : validateRowOrder snapshot.rows = .ok ()) :
    ∃ report, runBaseline snapshot config = .ok report := by
  have hrow : ∀ row ∈ snapshot.rows, ∃ output, buyAndHoldRow snapshot config row = .ok output := by
    intro row hrow
    obtain ⟨before, after, hsplit⟩ := List.append_of_mem hrow
    refine exists_ok_bind ⟨_, hsplit ▸ isFirstInstrumentSplitRow_split⟩ fun first => ?_
    simp only [investedRow, hcosts, costRate, hmethod, realizedReturn, ok_bind]
    exact ⟨_, rfl⟩
  obtain ⟨rows, hrows⟩ := exists_forall₂ hrow
  have hturnover : ∀ row ∈ rows, 0 ≤ row.turnover := by
    intro output houtput
    obtain ⟨row, -, hmade⟩ := exists_of_mem_right hrows houtput
    obtain ⟨-, first, -, hturnover⟩ := buyAndHoldRow_eq_ok hmade
    rw [hturnover]
    exact abs_nonneg _
  obtain ⟨summariesBySplit, hsummaries⟩ := exists_summaries hturnover
  have hresult : baselineRows snapshot config = .ok (rows, none) := by
    simp only [baselineRows, hkind, (mapM_eq_ok_iff _ _ _).mpr hrows, ok_bind]
    rfl
  unfold runBaseline
  rw [require_of hne, horder, hresult]
  simp only [ok_bind, hsummaries]
  exact ⟨_, rfl⟩

/-! ## Sample runs -/

/-- Rows of one market with different ids are never repeated. -/
theorem unrepeated_of_pairwise {rows : List DatasetRow}
    (h : rows.Pairwise fun a b => marketOf a = marketOf b → a.rowId ≠ b.rowId) :
    Unrepeated rows := by
  rintro before row after rfl first hfirst
  have hmarket : marketOf first = marketOf row := by
    have hfound := List.find?_some hfirst
    rw [Bool.and_eq_true, decide_eq_true_eq, beq_iff_eq] at hfound
    exact Prod.ext hfound.1 hfound.2
  exact (List.pairwise_append.mp h).2.2 first (List.mem_of_find?_eq_some hfirst) row
    List.mem_cons_self hmarket

section Sample

omit [Sha256] in
/-- A close of two after a rise of half a percent. -/
def risenValues : StringDict FeatureValue :=
  ⟨[("close", some 2), ("one_bar_return", some (1 / 200))], by simp⟩

theorem sampleIds_canonical : ∀ id ∈ ["VECTOR", "BTC-USD", "COINBASE", "INPUT",
    returnRule.labelRuleId, "OBSERVATION"], isCanonicalId id = true := by
  have hids : isCanonicalId "VECTOR" = true ∧ isCanonicalId "BTC-USD" = true ∧
      isCanonicalId "COINBASE" = true ∧ isCanonicalId "INPUT" = true ∧
      isCanonicalId "OBSERVATION" = true := by decide
  simp only [List.forall_mem_cons, List.not_mem_nil, false_implies, implies_true, and_true]
  exact ⟨hids.1, hids.2.1, hids.2.2.1, hids.2.2.2.1, returnRule.id_canonical, hids.2.2.2.2⟩

omit [Sha256] in
theorem second_after (seconds : Nat) :
    (⟨seconds * 1000000, 0⟩ : AwareDatetime) < ⟨seconds * 1000000 + 1000000, 0⟩ :=
  (AwareDatetime.lt_def _ _).mpr (Int.lt_add_of_pos_right _ (by decide))

/-- The row at the given second with the given return as its label. -/
def labelledRow (seconds : Nat) (split : DatasetSplit) (label : Decimal) : DatasetRow where
  rowId := buildDatasetRowId "VECTOR" "BTC-USD" "COINBASE" ⟨seconds * 1000000, 0⟩ "v1"
    risenValues "INPUT" split returnRule.labelRuleId label
    ⟨seconds * 1000000 + 1000000, 0⟩ "OBSERVATION" []
  featureVectorId := "VECTOR"
  instrumentId := "BTC-USD"
  venueId := "COINBASE"
  featureTs := ⟨seconds * 1000000, 0⟩
  featureVersion := "v1"
  featureValues := risenValues
  featureInputSnapshotId := "INPUT"
  split := split
  labelRuleId := returnRule.labelRuleId
  labelValue := label
  labelTs := ⟨seconds * 1000000 + 1000000, 0⟩
  labelObservationId := "OBSERVATION"
  sourceFeatureSnapshotIds := []
  ids_canonical := sampleIds_canonical
  version_nonempty := v1_nonempty
  values_nonempty := List.cons_ne_nil _ _
  label_after_feature := second_after seconds
  id_is_deterministic := rfl

/-- Two train rows, a validation row with the given label, and a test row. -/
def labelledRows (label : Decimal) : List DatasetRow :=
  [labelledRow 0 .train (1 / 2), labelledRow 2 .train (-1 / 3), labelledRow 11 .validation label,
    labelledRow 21 .test (1 / 4)]

def labelledSnapshot (rows : List DatasetRow) : DatasetSnapshot :=
  snapshotOfRows rows tenSecondWindows returnRule []

def sampleConfig (kind : BaselineKind) : BaselineConfig :=
  buildBaselineConfig "sample" kind [] [] 0

def holdConfig : BaselineConfig := sampleConfig .buyAndHold

/-- The snapshot of a rise in the validation row. -/
def sampleSnapshot : DatasetSnapshot := labelledSnapshot (labelledRows (1 / 4))

theorem holdConfig_runs (label : Decimal) :
    ∃ report, runBaseline (labelledSnapshot (labelledRows label)) holdConfig = .ok report :=
  exists_buyAndHold rfl rfl rfl (List.cons_ne_nil _ _) rfl

/-- Another validation label is another label. -/
theorem sameButLabels_labelled (label label' : Decimal) :
    SameButLabels (labelledSnapshot (labelledRows label))
      (labelledSnapshot (labelledRows label')) :=
  ⟨rfl, .cons ⟨rfl, rfl, rfl, rfl, rfl⟩ (.cons ⟨rfl, rfl, rfl, rfl, rfl⟩
    (.cons ⟨rfl, rfl, rfl, rfl, rfl⟩ (.cons ⟨rfl, rfl, rfl, rfl, rfl⟩ .nil)))⟩

/-- Only the two train rows are of one market. -/
theorem unrepeated_labelled (label : Decimal)
    (hids : (labelledRow 0 .train (1 / 2)).rowId ≠ (labelledRow 2 .train (-1 / 3)).rowId) :
    Unrepeated (labelledRows label) := by
  apply unrepeated_of_pairwise
  simpa [labelledRows, marketOf, labelledRow] using hids

/-- A train row that occurs twice, and a validation row. -/
def repeatedRows : List DatasetRow :=
  [labelledRow 0 .train (1 / 2), labelledRow 0 .train (1 / 2), labelledRow 11 .validation (1 / 4)]

theorem repeatedSnapshot_valid : (labelledSnapshot repeatedRows).validate = .ok () := by
  refine validate_snapshotOfRows _ _ fun row hrow => ?_
  have htrain : ∃ window, DatasetSnapshot.matchingWindows tenSecondWindows
      (labelledRow 0 .train (1 / 2)).featureTs = [window] ∧ DatasetSplit.train = window.split :=
    ⟨⟨.train, ⟨0, 0⟩, ⟨10000000, 0⟩, by decide⟩, rfl, rfl⟩
  rcases List.mem_cons.mp hrow with rfl | hrow
  · exact htrain
  · rcases List.mem_cons.mp hrow with rfl | hrow
    · exact htrain
    · rw [List.mem_singleton.mp hrow]
      exact ⟨⟨.validation, ⟨10000000, 0⟩, ⟨20000000, 0⟩, by decide⟩, rfl, rfl⟩

end Sample

end Runs

/-- Every kind of baseline runs on the sample. -/
theorem sampleConfig_runs (kind : BaselineKind) : ∃ report,
    @runBaseline hashlibSha256 (@sampleSnapshot hashlibSha256) (@sampleConfig hashlibSha256 kind) =
      .ok report := by
  cases kind with
  | buyAndHold => exact @holdConfig_runs hashlibSha256 (1 / 4)
  | cash => exact exists_ok_of_toBool (by decide +kernel)
  | equalWeightBasket => exact exists_ok_of_toBool (by decide +kernel)
  | taHeuristic => exact exists_ok_of_toBool (by decide +kernel)
  | simpleMl => exact exists_ok_of_toBool (by decide +kernel)

/-- Four rows with a rise or a fall as the label of the validation row. -/
theorem baseline_point_in_time_four_rows :
    ∃ rise fall : @BaselineReport hashlibSha256,
      @runBaseline hashlibSha256 (@labelledSnapshot hashlibSha256
        (@labelledRows hashlibSha256 (1 / 2))) (@holdConfig hashlibSha256) = .ok rise ∧
      @runBaseline hashlibSha256 (@labelledSnapshot hashlibSha256
        (@labelledRows hashlibSha256 (-1 / 3))) (@holdConfig hashlibSha256) = .ok fall ∧
      @LedgerHolds hashlibSha256 rise ∧
      List.Forall₂ (@SameDecision hashlibSha256) (@BaselineReport.rows hashlibSha256 rise)
        (@BaselineReport.rows hashlibSha256 fall) := by
  let _ := hashlibSha256
  obtain ⟨rise, hrise⟩ := holdConfig_runs (1 / 2)
  obtain ⟨fall, hfall⟩ := holdConfig_runs (-1 / 3)
  have hids : (labelledRow 0 .train (1 / 2)).rowId ≠ (labelledRow 2 .train (-1 / 3)).rowId := by
    decide +kernel
  obtain ⟨hledger, -, hsame⟩ := (baseline_point_in_time_iff (sameButLabels_labelled _ _)
    (by nofun) hrise hfall).mpr fun _ => ⟨unrepeated_labelled _ hids, unrepeated_labelled _ hids⟩
  exact ⟨rise, fall, hrise, hfall, hledger, hsame⟩

/-- A snapshot that holds one row twice is valid, and buy-and-hold is charged for two entries. -/
theorem baseline_charges_repeated_row :
    ∃ (snapshot : @DatasetSnapshot hashlibSha256) (config : @BaselineConfig hashlibSha256)
      (report : @BaselineReport hashlibSha256),
      @DatasetSnapshot.validate hashlibSha256 snapshot = .ok () ∧
      @runBaseline hashlibSha256 snapshot config = .ok report ∧
      ¬ @LedgerHolds hashlibSha256 report := by
  let _ := hashlibSha256
  obtain ⟨report, hreport⟩ : ∃ report,
      runBaseline (labelledSnapshot repeatedRows) holdConfig = .ok report :=
    exists_buyAndHold rfl rfl rfl (List.cons_ne_nil _ _) rfl
  refine ⟨labelledSnapshot repeatedRows, holdConfig, report, repeatedSnapshot_valid, hreport, ?_⟩
  rw [ledgerHolds_iff hreport]
  intro hunrepeated
  have hfirst : firstOf [labelledRow 0 .train (1 / 2)] (marketOf (labelledRow 0 .train (1 / 2))) =
      some (labelledRow 0 .train (1 / 2)) := List.find?_cons_of_pos (by simp [marketOf])
  exact hunrepeated rfl [labelledRow 0 .train (1 / 2)] (labelledRow 0 .train (1 / 2))
    [labelledRow 11 .validation (1 / 4)] rfl _ hfirst rfl

end TaModel.Baselines
