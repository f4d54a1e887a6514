import TaModel.Features.LiquidityCost
import TaModel.Contracts.CanonicalJson

/-!
# Point-in-time liquidity and cost features

Three streams with three rules of availability are joined at the close of a bar: bars by their close,
quotes by their event and source times, fee schedules by the start of their window. What lies after
an instant by these rules does not reach the vector at the instant.
-/

set_option autoImplicit false

namespace TaModel.Features

open Contracts Normalization Library

section TwoRuns

variable [Sha256]

/-! ## Each stream up to an instant -/

/-- Two instants that are one cut the bars alike. -/
theorem barsClosedBy_congr {t t' : AwareDatetime} (h : t.utc = t'.utc)
    (records : List SilverOHLCTVRecord) : barsClosedBy t records = barsClosedBy t' records := by
  simp only [barsClosedBy, AwareDatetime.le_def, h]

/-- The quotes available at an instant. -/
def quotesAvailableAt (t : AwareDatetime) (quotes : List QuoteFeatureInput) :
    List QuoteFeatureInput :=
  quotes.filter fun quote => QuoteFeatureInput.availableAt quote t

omit [Sha256] in
/-- The fee schedules whose window has begun at an instant. -/
def schedulesBegunBy (t : AwareDatetime) (schedules : List FeeSchedule) : List FeeSchedule :=
  schedules.filter fun schedule => decide (schedule.window.effectiveFrom ≤ t)

theorem latestQuote_congr {t t' : AwareDatetime} (ht : t.utc = t'.utc)
    {quotes quotes' : List QuoteFeatureInput}
    (h : quotesAvailableAt t quotes = quotesAvailableAt t quotes') :
    latestQuote quotes t' = latestQuote quotes' t' := by
  have hsame : ∀ quotes : List QuoteFeatureInput,
      (quotes.filter fun quote => QuoteFeatureInput.availableAt quote t') =
        quotesAvailableAt t quotes := by
    intro quotes
    simp only [quotesAvailableAt, QuoteFeatureInput.availableAt, AwareDatetime.le_def, ht]
  rw [latestQuote, latestQuote, hsame, hsame, h]

omit [Sha256] in
/-- An active schedule has begun. -/
theorem activeFeeSchedules_eq (t : AwareDatetime) (schedules : List FeeSchedule) :
    activeFeeSchedules schedules t = activeFeeSchedules (schedulesBegunBy t schedules) t := by
  rw [activeFeeSchedules, activeFeeSchedules, schedulesBegunBy, List.filter_filter]
  refine List.filter_congr fun schedule _ => ?_
  simp only [EffectiveWindow.isEffective]
  cases decide (schedule.window.effectiveFrom ≤ t) <;> simp

omit [Sha256] in
theorem activeFeeSchedule_congr {t t' : AwareDatetime} (ht : t.utc = t'.utc)
    {schedules schedules' : List FeeSchedule}
    (h : schedulesBegunBy t schedules = schedulesBegunBy t schedules') :
    activeFeeSchedule schedules t' = activeFeeSchedule schedules' t' := by
  have hsame : ∀ schedules : List FeeSchedule,
      schedulesBegunBy t' schedules = schedulesBegunBy t schedules := by
    intro schedules
    simp only [schedulesBegunBy, AwareDatetime.le_def, ht]
  have hactive : activeFeeSchedules schedules t' = activeFeeSchedules schedules' t' := by
    rw [activeFeeSchedules_eq t' schedules, activeFeeSchedules_eq t' schedules', hsame, hsame, h]
  rw [activeFeeSchedule, activeFeeSchedule, hactive]

/-! ## Two runs -/

omit [Sha256] in
/-- Equal prefixes that end with given items end at one position. -/
theorem eq_of_take_eq {α : Type} {xs ys : List α} {i j : Nat} {x y : α} (hx : xs[i]? = some x)
    (hy : ys[j]? = some y) (h : xs.take (i + 1) = ys.take (j + 1)) :
    i = j ∧ xs.take i = ys.take i ∧ x = y := by
  obtain ⟨hi, -⟩ := List.getElem?_eq_some_iff.mp hx
  obtain ⟨hj, -⟩ := List.getElem?_eq_some_iff.mp hy
  have hlength := congrArg List.length h
  rw [List.length_take, List.length_take] at hlength
  obtain rfl : i = j := by omega
  refine ⟨rfl, ?_, ?_⟩
  · have htake := congrArg (List.take i) h
    simpa [List.take_take] using htake
  · have hget := congrArg (fun zs => zs[i]?) h
    simp only [List.getElem?_take_of_lt (Nat.lt_succ_self i), hx, hy] at hget
    exact Option.some.inj hget

/-- The inputs differ only after `t`: in bars that close later, in quotes with a later event or
source time and in fee schedules that begin later. -/
structure AgreeUntil (t : AwareDatetime) (batch batch' : SilverNormalizationBatch)
    (quotes quotes' : List QuoteFeatureInput) (schedules schedules' : List FeeSchedule) : Prop where
  instrument : batch.instrumentId = batch'.instrumentId
  venue : batch.venueId = batch'.venueId
  bars : barsClosedBy t batch.ohlctvRecords = barsClosedBy t batch'.ohlctvRecords
  quotes : quotesAvailableAt t quotes = quotesAvailableAt t quotes'
  schedules : schedulesBegunBy t schedules = schedulesBegunBy t schedules'

theorem liquidity_features_point_in_time {batch batch' : SilverNormalizationBatch}
    {quotes quotes' : List QuoteFeatureInput} {schedules schedules' : List FeeSchedule} {n : Int}
    {vectors vectors' : List FeatureVector}
    (h : buildLiquidityCostFeatureVectors batch quotes schedules n = .ok vectors)
    (h' : buildLiquidityCostFeatureVectors batch' quotes' schedules' n = .ok vectors')
    {t : AwareDatetime} (hagree : AgreeUntil t batch batch' quotes quotes' schedules schedules')
    {v v' : FeatureVector} (hv : v ∈ vectors) (hv' : v' ∈ vectors')
    (ht : v.featureTs.utc = t.utc) (ht' : v'.featureTs.utc = t.utc) : v = v' := by
  obtain ⟨-, ⟨-, haccepted⟩, -, -, history, hrun⟩ :=
    (buildLiquidityCostFeatureVectors_eq_ok_iff _ _ _ _ _).mp h
  obtain ⟨-, ⟨-, haccepted'⟩, -, -, history', hrun'⟩ :=
    (buildLiquidityCostFeatureVectors_eq_ok_iff _ _ _ _ _).mp h'
  obtain ⟨i, hi⟩ := List.mem_iff_getElem?.mp hv
  obtain ⟨j, hj⟩ := List.mem_iff_getElem?.mp hv'
  obtain ⟨record, quote, schedule, hrecord, hquote, hschedule, rfl⟩ :=
    liquidityVector_of_run hrun hi
  obtain ⟨record', quote', schedule', hrecord', hquote', hschedule', rfl⟩ :=
    liquidityVector_of_run hrun' hj
  have hclose : record.bar.closeTs.utc = t.utc := ht
  have hclose' : record'.bar.closeTs.utc = t.utc := ht'
  -- both cuts end with the bar at `t`, so the bars up to it are the same
  have hcut : batch.ohlctvRecords.take (i + 1) = batch'.ohlctvRecords.take (j + 1) := by
    rw [← barsClosedBy_eq_take haccepted hrecord, ← barsClosedBy_eq_take haccepted' hrecord',
      barsClosedBy_congr hclose, barsClosedBy_congr hclose', hagree.bars]
  obtain ⟨rfl, hbefore, rfl⟩ := eq_of_take_eq hrecord hrecord' hcut
  have hquotes := latestQuote_congr hclose.symm hagree.quotes
  have hschedules := activeFeeSchedule_congr hclose.symm hagree.schedules
  rw [hquotes, hquote'] at hquote
  rw [hschedules, hschedule'] at hschedule
  cases hquote
  cases hschedule
  rw [hbefore]
  simp only [liquidityVector, hagree.instrument, hagree.venue]

/-! ## One more minute -/

/-- The bars of the first `n + 1` minutes. -/
def firstMinutes (n : Nat) : List OHLCTVBar :=
  (List.range (n + 1)).map fun k : Nat => oneBar "1m" ((k : Int) + 1)

def firstMinutesBatch (n : Nat) : SilverNormalizationBatch :=
  batchOfBars "BTC-USD" "VENUE" "1m" (firstMinutes n) (by simp [firstMinutes, List.range_succ]) (by
    intro bar hbar
    obtain ⟨k, -, rfl⟩ := List.mem_map.mp hbar
    exact ⟨rfl, rfl⟩)

theorem agreeUntil_firstMinutes (quotes : List QuoteFeatureInput) (schedules : List FeeSchedule) :
    AgreeUntil (minuteClose 1) (firstMinutesBatch 0) (firstMinutesBatch 1) quotes quotes schedules
      schedules :=
  ⟨rfl, rfl, rfl, rfl, rfl⟩

theorem exists_run_firstMinutes (n : Nat) : ∃ vectors,
    buildLiquidityCostFeatureVectors (firstMinutesBatch n)
      [quoteAt "BTC-USD" "VENUE" (minuteClose 1)] [scheduleFrom "VENUE" (minuteClose 1)] 1 =
        .ok vectors ∧
    ∃ v ∈ vectors, v.featureTs = minuteClose 1 := by
  have haccepted : BarsAccepted (firstMinutesBatch n).timeframe
      (firstMinutesBatch n).ohlctvRecords := by
    refine barsAccepted_batchOfBars ?_ ?_ ?_
    · intro bar hbar
      obtain ⟨k, -, rfl⟩ := List.mem_map.mp hbar
      rfl
    · intro bar hbar
      obtain ⟨k, -, rfl⟩ := List.mem_map.mp hbar
      exact le_refl _
    · refine List.pairwise_map.mpr (List.pairwise_lt_range.imp ?_)
      intro k l hkl
      show ((k : Int) + 1) * 60000000 < ((l : Int) + 1) * 60000000
      omega
  have hrecords : (firstMinutesBatch n).ohlctvRecords =
      (firstMinutes n).map (SilverOHLCTVRecord.ofBar "SOURCE") := ohlctvRecords_batchOfBars ..
  have hlate : ∀ r ∈ (firstMinutesBatch n).ohlctvRecords, minuteClose 1 ≤ r.bar.closeTs := by
    rw [hrecords, firstMinutes, List.map_map]
    intro r hr
    obtain ⟨k, -, rfl⟩ := List.mem_map.mp hr
    show 1 * 60000000 ≤ ((k : Int) + 1) * 60000000
    omega
  obtain ⟨vectors, hrun, hlength⟩ := exists_liquidity_run rfl haccepted Int.one_pos hlate
  have hfirst : 0 < vectors.length := by
    rw [hlength, hrecords]
    simp [firstMinutes]
  refine ⟨vectors, hrun, vectors[0], List.getElem_mem hfirst, ?_⟩
  obtain ⟨-, -, -, -, history, hloop⟩ :=
    (buildLiquidityCostFeatureVectors_eq_ok_iff _ _ _ _ _).mp hrun
  obtain ⟨record, quote, schedule, hrecord, -, -, hvector⟩ :=
    liquidityVector_of_run hloop (List.getElem?_eq_getElem hfirst)
  rw [hrecords, firstMinutes, List.range_succ_eq_map, List.map_cons, List.map_cons] at hrecord
  cases hrecord
  rw [hvector]
  rfl

end TwoRuns

/-- A second minute changes nothing at the first one. -/
theorem liquidity_features_point_in_time_minute : ∃ vectors vectors' v,
    @buildLiquidityCostFeatureVectors hashlibSha256 (@firstMinutesBatch hashlibSha256 0)
      [@quoteAt hashlibSha256 "BTC-USD" "VENUE" (minuteClose 1)]
      [scheduleFrom "VENUE" (minuteClose 1)] 1 = .ok vectors ∧
    @buildLiquidityCostFeatureVectors hashlibSha256 (@firstMinutesBatch hashlibSha256 1)
      [@quoteAt hashlibSha256 "BTC-USD" "VENUE" (minuteClose 1)]
      [scheduleFrom "VENUE" (minuteClose 1)] 1 = .ok vectors' ∧
    v ∈ vectors ∧ v ∈ vectors' := by
  obtain ⟨vectors, hrun, v, hv, ht⟩ := @exists_run_firstMinutes hashlibSha256 0
  obtain ⟨vectors', hrun', v', hv', ht'⟩ := @exists_run_firstMinutes hashlibSha256 1
  refine ⟨vectors, vectors', v, hrun, hrun', hv, ?_⟩
  rw [@liquidity_features_point_in_time hashlibSha256 _ _ _ _ _ _ _ _ _ hrun hrun' _
    (@agreeUntil_firstMinutes hashlibSha256 _ _) _ _ hv hv' (congrArg _ ht) (congrArg _ ht')]
  exact hv'

end TaModel.Features