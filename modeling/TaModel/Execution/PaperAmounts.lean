import TaModel.Execution.PaperRecords

/-!
# Moderate amounts

The builders of `execution/paper.py` add and multiply in the decimal context, so on amounts near the
end of its exponent range they raise. Up to `10 ^ moderateExponent` they do not: every amount of a
row is computed, and every total of a report is added up.
-/

set_option autoImplicit false

namespace TaModel.Execution

open Contracts

/-- The amounts of a filled event are moderate. -/
structure ModerateFill (e : ExecutionGatewayLifecycleEvent) : Prop where
  filledQuantity : Moderate e.filledQuantity
  fee : Moderate e.feeCost
  spread : Moderate e.spreadCost
  slippage : Moderate e.slippageCost
  cost : Moderate e.totalCost
  fillPrice : ∀ price ∈ e.fillPrice, Moderate price
  arrival : ∀ price ∈ e.arrivalReferencePrice, Moderate price

/-- The prices of a quote are moderate. -/
structure ModerateQuote (quote : QuoteEvent) : Prop where
  bid : Moderate quote.bestBid.value
  ask : Moderate quote.bestAsk.value

/-- The later of two quotes is one of them, so the arrival quote is one of the quotes. -/
theorem foldl_quoteBefore_mem (first : QuoteEvent) (rest : List QuoteEvent) :
    rest.foldl (fun best q => if quoteBefore best q then q else best) first ∈ first :: rest := by
  induction rest generalizing first with
  | nil => exact List.mem_cons_self
  | cons q rest ih =>
      rw [List.foldl_cons]
      split
      · exact List.mem_cons_of_mem first (ih q)
      · rcases List.mem_cons.mp (ih first) with hfirst | hrest
        · rw [hfirst]
          exact List.mem_cons_self
        · exact List.mem_cons_of_mem first (List.mem_cons_of_mem q hrest)

theorem arrivalQuoteForEvent_mem {e : ExecutionGatewayLifecycleEvent} {quotes : List QuoteEvent}
    {quote : QuoteEvent} (h : quote ∈ arrivalQuoteForEvent e quotes) : quote ∈ quotes := by
  unfold arrivalQuoteForEvent at h
  split at h
  · cases h
  · next first rest hcandidates =>
      cases h
      apply @List.mem_of_mem_filter _ (fun quote => quote.instrumentId == e.instrumentId &&
        quote.venueId == e.venueId && decide (quote.eventTs ≤ e.submittedAt))
      rw [hcandidates]
      exact foldl_quoteBefore_mem first rest

/-! ## Rows -/

/-- No amount of a row exceeds this power of ten: a product of two moderate amounts, with a digit
for each addition. -/
def rowExponent : ℤ := 2 * moderateExponent + 4

/-- The amounts of a row that a report adds up are bounded. -/
structure BoundedAmounts (amounts : RowAmounts) : Prop where
  predicted : |amounts.predictedTotalCost| ≤ 10 ^ rowExponent
  realized : |amounts.realizedTotalCost| ≤ 10 ^ rowExponent
  predictionError : |amounts.totalCostPredictionError| ≤ 10 ^ rowExponent

theorem abs_le_of_le {q : ℚ} {k l : ℤ} (h : |q| ≤ 10 ^ k) (hkl : k ≤ l) : |q| ≤ 10 ^ l :=
  h.trans (ten_zpow_le hkl)

/-- The middle of a moderate quote. -/
theorem quoteMid_of_moderate {quote : QuoteEvent} (h : ModerateQuote quote) :
    quoteMid .context quote = .ok (quoteMiddle quote) ∧
      |quoteMiddle quote| ≤ 10 ^ (moderateExponent + 1) := by
  have hboth := Arithmetic.abs_add_le_next h.bid h.ask
  have hrounded := abs_contextRounded_le (by decide) hboth
  have hhalf : |contextRounded (quote.bestBid.value + quote.bestAsk.value) / 2| ≤
      10 ^ (moderateExponent + 1) := by
    have hcount := abs_div_count_le hrounded 2
    exact_mod_cast hcount
  refine ⟨?_, abs_contextRounded_le (by decide) hhalf⟩
  unfold quoteMid
  rw [Arithmetic.finalize_of_abs_le (by decide) hboth, ok_bind,
    Arithmetic.finalize_of_abs_le (by decide) hhalf]
  rfl

theorem arrivalMid_of_moderate {quote : Option QuoteEvent} (h : ∀ q ∈ quote, ModerateQuote q) :
    quote.mapM (quoteMid .context) = .ok (quote.map quoteMiddle) ∧
      ∀ p ∈ quote.map quoteMiddle, |p| ≤ 10 ^ (moderateExponent + 1) := by
  cases quote with
  | none => exact ⟨rfl, by simp⟩
  | some q =>
      obtain ⟨hmid, hbound⟩ := quoteMid_of_moderate (h q rfl)
      constructor
      · rw [Option.mapM_some, hmid]
        rfl
      · intro p hp
        cases hp
        exact hbound

/-- The amounts of a row over moderate prices are computed, and bounded. -/
theorem rowAmounts_of_moderate {e : ExecutionGatewayLifecycleEvent} (hfill : ModerateFill e)
    {quote : Option QuoteEvent} (hquote : ∀ q ∈ quote, ModerateQuote q)
    {arrival fillPrice : Decimal} (harrival : Moderate arrival) (hprice : Moderate fillPrice) :
    ∃ amounts, rowAmounts .context e quote arrival fillPrice = .ok amounts ∧
      BoundedAmounts amounts := by
  obtain ⟨hmid, hmidBound⟩ := arrivalMid_of_moderate hquote
  have hreference : |(quote.map quoteMiddle).getD arrival| ≤ 10 ^ (moderateExponent + 1) := by
    cases hmiddle : quote.map quoteMiddle with
    | none => exact abs_le_of_le harrival (by decide)
    | some p => exact hmidBound p hmiddle
  -- the realized cost: a difference of prices times a quantity
  have hmove : |adverseMove e.side ((quote.map quoteMiddle).getD arrival) fillPrice| ≤
      10 ^ (moderateExponent + 1 + 1) := by
    have hfillPrice : |fillPrice| ≤ 10 ^ (moderateExponent + 1) := abs_le_of_le hprice (by decide)
    unfold adverseMove
    cases e.side with
    | buy => exact abs_sub_le_next hfillPrice hreference
    | sell => exact abs_sub_le_next hreference hfillPrice
  have hrealized := Arithmetic.abs_mul_le_add (abs_contextRounded_le (by decide) hmove)
    hfill.filledQuantity
  have hrealizedTotal := Arithmetic.abs_add_le_next (abs_le_of_le hfill.fee (by decide))
    (abs_contextRounded_le (by decide) hrealized)
  -- the predicted cost: three moderate amounts
  have hpredicted := Arithmetic.abs_add_le_next hfill.spread hfill.slippage
  have hpredictedTotal := Arithmetic.abs_add_le_next (abs_le_of_le hfill.fee (by decide))
    (abs_contextRounded_le (by decide) hpredicted)
  have hspreadError := abs_sub_le_next (abs_contextRounded_le (by decide) hrealized)
    (abs_le_of_le (abs_contextRounded_le (by decide) hpredicted) (by decide))
  have htotalError := abs_sub_le_next (abs_contextRounded_le (by decide) hrealizedTotal)
    (abs_le_of_le (abs_contextRounded_le (by decide) hpredictedTotal) (by decide))
  refine ⟨roundedAmounts .context e quote arrival fillPrice, ?_, ?_⟩
  · unfold rowAmounts adverseCost
    rw [hmid, ok_bind, Arithmetic.finalize_of_abs_le (by decide) hmove, ok_bind,
      Arithmetic.finalize_of_abs_le (by decide) hrealized, ok_bind,
      Arithmetic.finalize_of_abs_le (by decide) hpredicted, ok_bind,
      Arithmetic.finalize_of_abs_le (by decide) hpredictedTotal, ok_bind,
      Arithmetic.finalize_of_abs_le (by decide) hrealizedTotal, ok_bind,
      Arithmetic.finalize_of_abs_le (by decide) hspreadError, ok_bind,
      Arithmetic.finalize_of_abs_le (by decide) htotalError, ok_bind]
    rfl
  · exact ⟨abs_le_of_le (abs_contextRounded_le (by decide) hpredictedTotal) (by decide),
      abs_le_of_le (abs_contextRounded_le (by decide) hrealizedTotal) (by decide),
      abs_le_of_le (abs_contextRounded_le (by decide) htotalError) (by decide)⟩

/-! ## Totals -/

/-- Bounded amounts are added up without an overflow. -/
theorem requireSum_of_bounded {α : Type} {records : List α} {amount : α → Decimal}
    (h : ∀ r ∈ records, |amount r| ≤ 10 ^ rowExponent) :
    requireSum (records.map amount) = .ok () := by
  have hbounds : ∀ v ∈ records.map amount, |v| ≤ 10 ^ rowExponent := by
    intro v hv
    obtain ⟨r, hr, rfl⟩ := List.mem_map.mp hv
    exact h r hr
  obtain ⟨total, htotal, -⟩ := contextSum_bounded (by decide) (by decide) hbounds
  exact requireSum_eq_ok_iff.mpr ⟨total, htotal⟩

/-- The amounts of a session over moderate fills are added up. -/
theorem sessionSums_of_moderate {report : ExecutionGatewayReport}
    {events : List ExecutionGatewayLifecycleEvent} (hmoderate : ∀ e ∈ events, ModerateFill e)
    {fillLogs : List PaperFillLogEntry}
    (hfills : List.Forall₂ (FillLogOf report) events fillLogs) :
    (sessionAmounts.forM fun amount => requireSum (fillLogs.map amount)) = .ok () := by
  have hlogs : ∀ log ∈ fillLogs, ∃ e, ModerateFill e ∧ FillLogOf report e log := by
    intro log hlog
    obtain ⟨e, he, hof⟩ := Library.exists_of_mem_right hfills hlog
    exact ⟨e, hmoderate e he, hof⟩
  have hsum : ∀ amount : PaperFillLogEntry → Decimal,
      (∀ e log, ModerateFill e → FillLogOf report e log → Moderate (amount log)) →
      requireSum (fillLogs.map amount) = .ok () := by
    intro amount hamount
    apply requireSum_of_bounded
    intro log hlog
    obtain ⟨e, he, hof⟩ := hlogs log hlog
    exact abs_le_of_le (hamount e log he hof) (by decide)
  simp only [sessionAmounts, forM_eq_ok_iff, List.forall_mem_cons]
  refine ⟨hsum _ ?_, hsum _ ?_, hsum _ ?_, hsum _ ?_, hsum _ ?_, by simp⟩
  · intro e log he hof
    rw [hof.filledQuantity]
    exact he.filledQuantity
  · intro e log he hof
    rw [hof.feeCost]
    exact he.fee
  · intro e log he hof
    rw [hof.spreadCost]
    exact he.spread
  · intro e log he hof
    rw [hof.slippageCost]
    exact he.slippage
  · intro e log he hof
    rw [hof.totalCost]
    exact he.cost

/-- A row over bounded amounts. -/
structure BoundedRow (row : PaperTcaRow) : Prop where
  fee : |row.feeCost| ≤ 10 ^ rowExponent
  predicted : |row.predictedTotalCost| ≤ 10 ^ rowExponent
  realized : |row.realizedTotalCost| ≤ 10 ^ rowExponent
  predictionError : |row.totalCostPredictionError| ≤ 10 ^ rowExponent

/-- The amounts of a TCA report over bounded rows are added up. -/
theorem tcaSums_of_bounded {rows : List PaperTcaRow} (h : ∀ row ∈ rows, BoundedRow row) :
    (tcaAmounts.forM fun amount => requireSum (rows.map amount)) = .ok () := by
  simp only [tcaAmounts, forM_eq_ok_iff, List.forall_mem_cons]
  refine ⟨requireSum_of_bounded ?_, requireSum_of_bounded ?_, requireSum_of_bounded ?_,
    requireSum_of_bounded ?_, by simp⟩
  · exact fun row hrow => (h row hrow).fee
  · exact fun row hrow => (h row hrow).predicted
  · exact fun row hrow => (h row hrow).realized
  · exact fun row hrow => (h row hrow).predictionError

/-! ## Quotes of one market -/

theorem zero_bid_le_ask (ask : Nat) :
    (WrittenPrice.ofNat 0).value ≤ (WrittenPrice.ofNat ask).value := by
  rw [WrittenPrice.value_ofNat, WrittenPrice.value_ofNat]
  exact_mod_cast Nat.zero_le ask

/-- A quote of the event's market, some seconds after its submission, with the given ask. -/
def quoteAt (e : ExecutionGatewayLifecycleEvent) (quoteId : String) (seconds : Int) (ask : Nat) :
    QuoteEvent where
  quoteId := quoteId
  venueId := e.venueId
  instrumentId := e.instrumentId
  bestBid := .ofNat 0
  bestAsk := .ofNat ask
  eventTs := ⟨e.submittedAt.utc + seconds * 1000000, e.submittedAt.offset⟩
  sourceTs := none
  ingestTs := e.submittedAt
  rawPayloadId := "RAW"
  qualityFlags := []
  crossed_is_flagged := fun h => absurd (zero_bid_le_ask ask) (not_le_of_gt h)

/-- An older quote, two of the instant of submission, the greater of them again, a later one. -/
def marketQuotes (e : ExecutionGatewayLifecycleEvent) : List QuoteEvent :=
  [quoteAt e "QUOTE-1" (-60) 3, quoteAt e "QUOTE-2" 0 2, quoteAt e "QUOTE-3" 0 1,
    quoteAt e "QUOTE-3" 0 1, quoteAt e "QUOTE-4" 60 4]

/-- A quote with a small ask is moderate. -/
theorem moderateQuote_at (e : ExecutionGatewayLifecycleEvent) (quoteId : String) (seconds : Int)
    {ask : Nat} (h : ask ≤ 10) : ModerateQuote (quoteAt e quoteId seconds ask) := by
  constructor
  · show Moderate (WrittenPrice.ofNat 0).value
    rw [WrittenPrice.value_ofNat]
    exact moderate_of_abs_le_ten (by norm_num)
  · show Moderate (WrittenPrice.ofNat ask).value
    rw [WrittenPrice.value_ofNat]
    apply moderate_of_abs_le_ten
    rw [abs_of_nonneg (Nat.cast_nonneg ask)]
    exact_mod_cast h

theorem moderateQuote_of_market (e : ExecutionGatewayLifecycleEvent) :
    ∀ quote ∈ marketQuotes e, ModerateQuote quote := by
  intro quote hquote
  simp only [marketQuotes, List.mem_cons, List.not_mem_nil, or_false] at hquote
  rcases hquote with rfl | rfl | rfl | rfl | rfl <;>
    exact moderateQuote_at e _ _ (by norm_num)

end TaModel.Execution
