import TaModel.Baselines.Deterministic
import TaModel.Library.StateFold

/-!
# The ledger of a baseline

What a row of a baseline takes from its dataset row, and what the turnover of a row is a change of.
The policies that carry a dictionary of previous weights charge the change since the last row of the
same split and instrument. Buy-and-hold charges a row as a first row whenever it has the `row_id` of
the first row, so it charges a repeated row twice.
-/

set_option autoImplicit false

namespace TaModel.Baselines

open Contracts Library

variable [Sha256]

/-! ## Rows and their dataset rows -/

/-- The weight a baseline gives to a row. -/
def IsWeight (snapshot : DatasetSnapshot) (row : DatasetRow) (weight : Decimal) :
    BaselineKind → Prop
  | .cash => weight = 0
  | .buyAndHold => weight = 1
  | .equalWeightBasket => weight = 1 / peerCount snapshot.rows row
  | .taHeuristic => weight = if (taSignal row).trade then 1 else 0
  | .simpleMl => ∃ model, fitSimpleMl snapshot = .ok model ∧
      weight = if (simpleMlSignal model row).trade then 1 else 0

/-- The cost rate of a row; cash reads no cost feature. -/
def rateOf (row : DatasetRow) (costFeaturePreference : List String) :
    BaselineKind → Raises NonNegativeDecimal
  | .cash => .ok ⟨0, Decimal.zero_le_zero⟩
  | _ => costRate row costFeaturePreference

/-- An output row with the given weight, the cost rate of its dataset row, and its return net of
costs. -/
structure RowFor (rate : Raises NonNegativeDecimal) (isWeight : Decimal → Prop) (row : DatasetRow)
    (output : BaselineRow) : Prop where
  split : output.split = row.split
  instrument : output.instrumentId = row.instrumentId
  weight : isWeight output.targetWeight
  rate : rate = .ok output.costRate
  cost : output.costReturn.val = output.turnover * output.costRate.val
  net : output.netReturn =
    output.targetWeight * output.realizedReturn - output.turnover * output.costRate.val

theorem investedRow_eq_ok {row : DatasetRow} {kind : BaselineKind} {weight previous : Decimal}
    {config : BaselineConfig} {method : LabelMethod} {reason : Option String}
    {output : BaselineRow}
    (h : investedRow row kind weight previous config method reason = .ok output) :
    RowFor (costRate row config.costFeaturePreference) (· = weight) row output ∧
      output.turnover = |weight - previous| := by
  obtain ⟨rate, hrate, h⟩ := (bind_eq_ok_iff _ _ _).mp h
  obtain ⟨realized, -, h⟩ := (bind_eq_ok_iff _ _ _).mp h
  cases h
  exact ⟨⟨rfl, rfl, rfl, hrate, rfl, rfl⟩, rfl⟩

/-- The split and the instrument of a row. -/
def marketOf (row : DatasetRow) : DatasetSplit × String := (row.split, row.instrumentId)

def rowMarket (row : BaselineRow) : DatasetSplit × String := (row.split, row.instrumentId)

theorem RowFor.market {rate : Raises NonNegativeDecimal} {isWeight : Decimal → Prop}
    {row : DatasetRow} {output : BaselineRow} (h : RowFor rate isWeight row output) :
    rowMarket output = marketOf row :=
  Prod.ext h.split h.instrument

/-! ## The carried weights -/

/-- The weight of the last row of a market, zero before its first. -/
def lastWeight (rows : List BaselineRow) (market : DatasetSplit × String) : Decimal :=
  match (rows.filter fun row => decide (rowMarket row = market)).getLast? with
  | none => 0
  | some row => row.targetWeight

theorem lastWeight_append (rows : List BaselineRow) (row : BaselineRow) :
    lastWeight (rows ++ [row]) =
      Function.update (lastWeight rows) (rowMarket row) row.targetWeight := by
  funext market
  by_cases hmarket : market = rowMarket row
  · rw [hmarket, Function.update_self, lastWeight, List.filter_append,
      List.filter_cons_of_pos (by simp), List.filter_nil, List.getLast?_append]
    rfl
  · have hne : ¬ rowMarket row = market := fun h => hmarket h.symm
    rw [Function.update_of_ne hmarket, lastWeight, List.filter_append,
      List.filter_cons_of_neg (by simp [hne]), List.filter_nil, List.append_nil]
    rfl

/-- Every row is charged for the change of its weight since the last row of its market. -/
def ChargesChanges (rows : List BaselineRow) : Prop :=
  ∀ before row after, rows = before ++ row :: after →
    row.turnover = |row.targetWeight - lastWeight before (rowMarket row)|

/-- One turn of the loop, in front of which the dictionary holds the last weights. -/
theorem carryStep_eq_ok {kind : BaselineKind} {config : BaselineConfig} {method : LabelMethod}
    {target : DatasetRow → Raises (Decimal × Option String)} {book book' : WeightBook}
    {row : DatasetRow} {output : BaselineRow}
    (h : carryStep kind config method target book row = .ok (output, book')) :
    RowFor (costRate row config.costFeaturePreference)
        (fun weight => ∃ reason, target row = .ok (weight, reason)) row output ∧
      output.turnover = |output.targetWeight - book (rowMarket output)| ∧
      book' = Function.update book (rowMarket output) output.targetWeight := by
  obtain ⟨⟨weight, reason⟩, htarget, h⟩ := (bind_eq_ok_iff _ _ _).mp h
  obtain ⟨made, hmade, h⟩ := (bind_eq_ok_iff _ _ _).mp h
  cases h
  obtain ⟨hrow, hturnover⟩ := investedRow_eq_ok hmade
  have hmarket : rowMarket output = (row.split, row.instrumentId) := hrow.market
  have hweight : output.targetWeight = weight := hrow.weight
  refine ⟨{ hrow with weight := ⟨reason, ?_⟩ }, ?_, ?_⟩
  · rw [htarget, hweight]
  · rw [hturnover, hmarket, hweight]
  · rw [hmarket, hweight]

theorem carriedRows_eq_ok {kind : BaselineKind} {config : BaselineConfig} {method : LabelMethod}
    {target : DatasetRow → Raises (Decimal × Option String)} {rows : List DatasetRow}
    {outputs : List BaselineRow}
    (h : carriedRows kind config method target rows = .ok outputs) :
    List.Forall₂ (fun row output => RowFor (costRate row config.costFeaturePreference)
        (fun weight => ∃ reason, target row = .ok (weight, reason)) row output) rows outputs ∧
      ChargesChanges outputs := by
  obtain ⟨out, hrun, rfl⟩ := (map_eq_ok_iff _ _ _).mp h
  constructor
  · refine @runSteps_forall₂ _ _ _ _ _ (fun _ => True) _ ?_ _ _ _ trivial hrun
    intro book row output book' _ hstep
    exact ⟨trivial, (carryStep_eq_ok hstep).1⟩
  · have hhistory := @runSteps_history _ _ _ _ _ lastWeight
      (fun before row => row.turnover = |row.targetWeight - lastWeight before (rowMarket row)|)
      (fun done row output book' hstep => ?_) [] rows out hrun
    · intro before row after hsplit
      have hrow := hhistory before row after hsplit
      rwa [List.nil_append] at hrow
    · obtain ⟨-, hturnover, hbook⟩ := carryStep_eq_ok hstep
      exact ⟨hbook.trans (lastWeight_append done output).symm, hturnover⟩

/-! ## Buy and hold -/

/-- The first row of a market. -/
def firstOf (rows : List DatasetRow) (market : DatasetSplit × String) : Option DatasetRow :=
  rows.find? fun row => decide (row.split = market.1) && row.instrumentId == market.2

theorem firstOf_eq_none_iff {rows : List DatasetRow} {market : DatasetSplit × String} :
    firstOf rows market = none ↔ ∀ row ∈ rows, marketOf row ≠ market := by
  simp only [firstOf, List.find?_eq_none, Bool.and_eq_true, decide_eq_true_eq, beq_iff_eq,
    marketOf, ne_eq, Prod.ext_iff]

/-- No row has the `row_id` of an earlier row that is the first of its market. -/
def Unrepeated (rows : List DatasetRow) : Prop :=
  ∀ before row after, rows = before ++ row :: after →
    ∀ first, firstOf before (marketOf row) = some first → first.rowId ≠ row.rowId

/-- A row is taken for the first of its market when there is no earlier one, or when the first one
has its `row_id`. -/
theorem isFirstInstrumentSplitRow_split {before after : List DatasetRow} {row : DatasetRow} :
    isFirstInstrumentSplitRow (before ++ row :: after) row =
      .ok (match firstOf before (marketOf row) with
        | none => true
        | some first => first.rowId == row.rowId) := by
  have hfind : ((before ++ row :: after).find? fun other =>
      decide (other.split = row.split) && other.instrumentId == row.instrumentId) =
      (firstOf before (marketOf row)).or (some row) := by
    rw [List.find?_append, List.find?_cons_of_pos (by simp)]
    rfl
  rw [isFirstInstrumentSplitRow, hfind]
  cases firstOf before (marketOf row) with
  | none => simp
  | some first => rfl

/-- When every row has weight one, so does the last row of a market that has one. -/
theorem lastWeight_of_ones {rows : List BaselineRow} (h : ∀ row ∈ rows, row.targetWeight = 1)
    {market : DatasetSplit × String} {row : BaselineRow} (hrow : row ∈ rows)
    (hmarket : rowMarket row = market) : lastWeight rows market = 1 := by
  have hmem : row ∈ rows.filter fun row => decide (rowMarket row = market) :=
    List.mem_filter.mpr ⟨hrow, decide_eq_true hmarket⟩
  obtain ⟨last, hlast⟩ := Option.ne_none_iff_exists'.mp
    fun hnone => List.ne_nil_of_mem hmem (List.getLast?_eq_none_iff.mp hnone)
  rw [lastWeight, hlast]
  exact h last (List.mem_of_mem_filter (List.mem_of_getLast? hlast))

theorem lastWeight_of_fresh {rows : List BaselineRow} {market : DatasetSplit × String}
    (h : ∀ row ∈ rows, rowMarket row ≠ market) : lastWeight rows market = 0 := by
  have hnil : (rows.filter fun row => decide (rowMarket row = market)) = [] :=
    List.filter_eq_nil_iff.mpr fun row hrow => by simpa using h row hrow
  rw [lastWeight, hnil]
  rfl

section BuyAndHold

variable {snapshot : DatasetSnapshot} {config : BaselineConfig}

theorem buyAndHoldRow_eq_ok {row : DatasetRow} {output : BaselineRow}
    (h : buyAndHoldRow snapshot config row = .ok output) :
    RowFor (costRate row config.costFeaturePreference) (· = 1) row output ∧
      ∃ first, isFirstInstrumentSplitRow snapshot.rows row = .ok first ∧
        output.turnover = |1 - (if first then 0 else 1)| := by
  obtain ⟨first, hfirst, h⟩ := (bind_eq_ok_iff _ _ _).mp h
  obtain ⟨hrow, hturnover⟩ := investedRow_eq_ok h
  exact ⟨hrow, first, hfirst, hturnover⟩

variable {outputs : List BaselineRow}

/-- A buy-and-hold row is charged for its change of weight exactly when it is not taken for a
repetition of the first row of its market. -/
theorem buyAndHold_turnover_iff {before after : List DatasetRow} {row : DatasetRow}
    {earlier : List BaselineRow} {output : BaselineRow}
    (hrows : snapshot.rows = before ++ row :: after)
    (hearlier : List.Forall₂ (fun row output => buyAndHoldRow snapshot config row = .ok output)
      before earlier)
    (houtput : buyAndHoldRow snapshot config row = .ok output) :
    output.turnover = |output.targetWeight - lastWeight earlier (rowMarket output)| ↔
      ∀ first, firstOf before (marketOf row) = some first → first.rowId ≠ row.rowId := by
  obtain ⟨hrow, isFirst, hisFirst, hturnover⟩ := buyAndHoldRow_eq_ok houtput
  have hweight : output.targetWeight = 1 := hrow.weight
  have hones : ∀ other ∈ earlier, other.targetWeight = 1 := by
    intro other hother
    obtain ⟨source, -, hsource⟩ := exists_of_mem_right hearlier hother
    exact (buyAndHoldRow_eq_ok hsource).1.weight
  rw [hrows, isFirstInstrumentSplitRow_split, Except.ok.injEq] at hisFirst
  rw [hturnover, hweight, hrow.market, ← hisFirst]
  cases hfound : firstOf before (marketOf row) with
  | none =>
      -- no earlier row of the market: the change is from zero
      have hfresh : lastWeight earlier (marketOf row) = 0 := by
        apply lastWeight_of_fresh
        intro other hother
        obtain ⟨source, hmem, hsource⟩ := exists_of_mem_right hearlier hother
        rw [(buyAndHoldRow_eq_ok hsource).1.market]
        exact firstOf_eq_none_iff.mp hfound source hmem
      rw [hfresh]
      simp
  | some first =>
      have hheld : lastWeight earlier (marketOf row) = 1 := by
        have hsome : ¬ ∀ other ∈ before, marketOf other ≠ marketOf row := by
          rw [← firstOf_eq_none_iff, hfound]
          nofun
        push Not at hsome
        obtain ⟨source, hmem, hmarket⟩ := hsome
        obtain ⟨other, hother, hsource⟩ := exists_of_mem_right (List.Forall₂.flip hearlier) hmem
        exact lastWeight_of_ones hones hother
          ((buyAndHoldRow_eq_ok hsource).1.market.trans hmarket)
      rw [hheld]
      by_cases hid : first.rowId = row.rowId
      · simp [hid]
      · simp [hid]

/-- Buy-and-hold charges every change of weight exactly when no first row is repeated. -/
theorem buyAndHold_chargesChanges_iff
    (h : snapshot.rows.mapM (buyAndHoldRow snapshot config) = .ok outputs) :
    ChargesChanges outputs ↔ Unrepeated snapshot.rows := by
  have hrows := (mapM_eq_ok_iff _ _ _).mp h
  constructor
  · intro hcharges before row after hsplit
    rw [hsplit] at hrows
    obtain ⟨earlier, output, later, rfl, hearlier, houtput⟩ := forall₂_split hrows
    exact (buyAndHold_turnover_iff hsplit hearlier houtput).mp
      (hcharges earlier output later rfl)
  · rintro hunrepeated earlier output later rfl
    obtain ⟨before, row, after, hsplit, hbefore, hrow⟩ := forall₂_split hrows.flip
    exact (buyAndHold_turnover_iff hsplit hbefore.flip hrow).mpr
      (hunrepeated before row after hsplit)

end BuyAndHold

end TaModel.Baselines
