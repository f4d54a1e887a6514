import TaModel.Contracts.CanonicalJson
import TaModel.Features.BarHistory
import TaModel.Library.MaximalRuns
import TaModel.Validation.DataQuality

/-!
# What the data-quality gate accepts

The counts of the gate are the ones it names: grid opens without a bar, maximal runs of them, and
bars beyond the first of their open. With zero thresholds the gate passes a window whose grid opens
all have a bar when no open is repeated; it looks neither at bars off the grid nor at `close_ts`, so
that is a tiling only if the bars are all on the grid and of the right size.
-/

set_option autoImplicit false

namespace TaModel.Validation

open Contracts Library Normalization

/-! ## The interval of a timeframe -/

/-- Reading more digits never makes a number smaller. -/
theorem le_foldl_digits (digits : List Char) (n : Nat) :
    n ≤ digits.foldl (fun n c => 10 * n + (c.toNat - '0'.toNat)) n := by
  induction digits generalizing n with
  | nil => exact le_refl n
  | cons c digits ih =>
      have hstep : n ≤ 10 * n + (c.toNat - '0'.toNat) := by omega
      exact hstep.trans (ih _)

/-- A number without a leading zero is positive. -/
theorem parseDigits_pos {first : Char} {rest : List Char} (hfirst : first.isDigit = true)
    (hne : first ≠ '0') (hrest : rest.all Char.isDigit = true) :
    ∃ n, 0 < n ∧ Features.parseDigits (first :: rest) = .ok n := by
  refine ⟨_, ?_, if_pos ⟨List.cons_ne_nil _ _, by rw [List.all_cons, hfirst, hrest]; rfl⟩⟩
  have hvalue : 0 < first.toNat - '0'.toNat := by
    have hrange : 48 ≤ first.toNat := by
      simp only [Char.isDigit, Bool.and_eq_true, decide_eq_true_eq] at hfirst
      exact hfirst.1
    have hne' : first.toNat ≠ '0'.toNat := fun h => hne (Char.toNat_inj.mp h)
    have hzero : '0'.toNat = 48 := rfl
    omega
  rw [List.foldl_cons]
  exact lt_of_lt_of_le (by omega) (le_foldl_digits rest _)

/-- A timeframe has a positive interval. -/
theorem timeframeToTimedelta_ok (timeframe : Timeframe) :
    ∃ interval, 0 < interval ∧ timeframeToTimedelta timeframe = .ok interval := by
  obtain ⟨s, hs⟩ := timeframe
  rw [isTimeframe] at hs
  cases hunit : s.toList.getLast? with
  | none => simp [hunit] at hs
  | some unit =>
      cases hdigits : s.toList.dropLast with
      | nil => simp [hunit, hdigits] at hs
      | cons first rest =>
          simp only [hunit, hdigits, Bool.and_eq_true, bne_iff_ne, ne_eq] at hs
          obtain ⟨⟨⟨hunits, hfirst, hne⟩, hrest⟩, -⟩ := hs
          obtain ⟨n, hpos, hparse⟩ := parseDigits_pos hfirst hne hrest
          simp only [timeframeToTimedelta, hunit, hdigits, hparse, ok_bind]
          simp only [List.contains_eq_mem, List.mem_cons, List.not_mem_nil, or_false,
            decide_eq_true_eq] at hunits
          rcases hunits with rfl | rfl | rfl
          · exact ⟨n * 60000000, by omega, rfl⟩
          · exact ⟨n * 3600000000, by omega, rfl⟩
          · exact ⟨n * 86400000000, by omega, rfl⟩

/-! ## The grid -/

/-- The grid open `window_start + k * interval`. -/
def gridOpen (windowStart : AwareDatetime) (interval k : Nat) : AwareDatetime :=
  later windowStart (k * interval)

theorem gridOpen_utc (windowStart : AwareDatetime) (interval k : Nat) :
    (gridOpen windowStart interval k).utc = windowStart.utc + k * interval := by
  simp [gridOpen, later]

/-- Grid opens differ in their position. -/
theorem gridOpen_utc_inj {windowStart : AwareDatetime} {interval k k' : Nat} (hpos : 0 < interval)
    (h : (gridOpen windowStart interval k).utc = (gridOpen windowStart interval k').utc) :
    k = k' := by
  rw [gridOpen_utc, gridOpen_utc, add_right_inj] at h
  exact Nat.eq_of_mul_eq_mul_right hpos (by exact_mod_cast h)

/-- The loop over an aligned window visits the grid and ends at the window's end. -/
theorem expectedOpensFrom_aligned {interval : Nat} (hpos : 0 < interval)
    {windowEnd : AwareDatetime} (n : Nat) {cursor : AwareDatetime}
    (haligned : windowEnd.utc = cursor.utc + n * interval) :
    expectedOpensFrom interval windowEnd cursor =
      ((List.range n).map (gridOpen cursor interval), gridOpen cursor interval n) := by
  induction n generalizing cursor with
  | zero =>
      have hstop : ¬ (0 < interval ∧ cursor.utc < windowEnd.utc) := by
        simp [haligned]
      rw [expectedOpensFrom, dif_neg hstop]
      simp [gridOpen, later]
  | succ n ih =>
      have hgo : 0 < interval ∧ cursor.utc < windowEnd.utc := by
        refine ⟨hpos, ?_⟩
        have hlength : (0 : Int) < (n + 1 : Nat) * interval := by positivity
        omega
      have hrest : windowEnd.utc = (later cursor interval).utc + n * interval := by
        simp only [later, haligned]
        push_cast
        ring
      have hshift : ∀ k, gridOpen (later cursor interval) interval k =
          gridOpen cursor interval (k + 1) := by
        intro k
        simp only [gridOpen, later, AwareDatetime.mk.injEq, and_true]
        push_cast
        ring
      rw [expectedOpensFrom, dif_pos hgo, ih hrest, List.range_succ_eq_map]
      simp only [hshift, List.map_cons, List.map_map, Prod.mk.injEq, and_true]
      refine congrArg₂ List.cons ?_ (List.map_congr_left fun k _ => hshift k)
      simp [gridOpen, later]

theorem expectedIntervalOpens_aligned {windowStart windowEnd : AwareDatetime} {interval n : Nat}
    (hpos : 0 < interval) (hn : 0 < n)
    (haligned : windowEnd.utc = windowStart.utc + n * interval) :
    expectedIntervalOpens windowStart windowEnd interval =
      .ok ((List.range n).map (gridOpen windowStart interval)) := by
  have hsame : (gridOpen windowStart interval n).sameInstant windowEnd = true := by
    simp [AwareDatetime.sameInstant, gridOpen_utc, haligned]
  have hne : (List.range n).map (gridOpen windowStart interval) ≠ [] := by
    simp [hn.ne']
  rw [expectedIntervalOpens, expectedOpensFrom_aligned hpos n haligned]
  simp only [check_bind_eq_ok_iff, require_eq_ok_iff]
  exact ⟨hsame, hne, rfl⟩

/-- On the grid, contiguous gaps are runs of consecutive positions. -/
theorem countContiguousGaps_map_gridOpen {interval : Nat} (hpos : 0 < interval)
    (windowStart : AwareDatetime) (ks : List Nat) :
    countContiguousGaps interval (ks.map (gridOpen windowStart interval)) = countRuns ks := by
  have hfrom : ∀ (previous : Nat) (ks : List Nat),
      countGapsFrom interval (gridOpen windowStart interval previous)
        (ks.map (gridOpen windowStart interval)) = countJumps previous ks := by
    intro previous ks
    induction ks generalizing previous with
    | nil => rfl
    | cons k ks ih =>
        have hnext : (gridOpen windowStart interval k).sameInstant
            (later (gridOpen windowStart interval previous) interval) = true ↔
              k = previous + 1 := by
          have hlater : (later (gridOpen windowStart interval previous) interval).utc =
              (gridOpen windowStart interval (previous + 1)).utc := by
            simp only [gridOpen, later]
            push_cast
            ring
          simp only [AwareDatetime.sameInstant, hlater, beq_iff_eq]
          exact ⟨gridOpen_utc_inj hpos, fun h => by rw [h]⟩
        rw [List.map_cons, countGapsFrom, countJumps, ih]
        simp only [hnext]
  cases ks with
  | nil => rfl
  | cons k ks =>
      rw [List.map_cons, countContiguousGaps, countRuns, hfrom]

/-! ## The counts -/

section Counts

/-- No bar opens at grid open `k`. -/
def OpenMissing (windowStart : AwareDatetime) (interval n : Nat) (opens : List AwareDatetime)
    (k : Nat) : Prop :=
  k < n ∧ ∀ t ∈ opens, t.utc ≠ (gridOpen windowStart interval k).utc

/-- The counts that the metrics report. -/
structure CountsRight (windowStart : AwareDatetime) (interval n : Nat) (opens : List AwareDatetime)
    (metrics : OHLCTVQualityMetrics) : Prop where
  missing : ∀ t, t ∈ metrics.missingIntervals ↔
    ∃ k, OpenMissing windowStart interval n opens k ∧ t = gridOpen windowStart interval k
  missing_nodup : metrics.missingIntervals.Nodup
  gaps : metrics.gapCount =
    {run | IsMaximalRun (OpenMissing windowStart interval n opens) n run}.ncard
  duplicates : metrics.duplicateBarCount =
    opens.length - (opens.map AwareDatetime.utc).toFinset.card

variable {windowStart : AwareDatetime} {interval n : Nat} {opens : List AwareDatetime}

/-- The positions of the missing grid opens. -/
def missingPositions (windowStart : AwareDatetime) (interval n : Nat)
    (opens : List AwareDatetime) : List Nat :=
  (List.range n).filter fun k =>
    decide (∀ t ∈ opens, t.utc ≠ (gridOpen windowStart interval k).utc)

theorem mem_missingPositions {k : Nat} :
    k ∈ missingPositions windowStart interval n opens ↔
      OpenMissing windowStart interval n opens k := by
  simp [missingPositions, OpenMissing]

theorem missingIntervals_eq (windowStart : AwareDatetime) (interval n : Nat)
    (opens : List AwareDatetime) (thresholds : DataQualityThresholds) :
    (ohlctvMetrics opens ((List.range n).map (gridOpen windowStart interval)) interval
      thresholds).missingIntervals =
        (missingPositions windowStart interval n opens).map (gridOpen windowStart interval) := by
  have htally := @isTally_tally _ _ _ AwareDatetime.utc opens
  simp only [ohlctvMetrics, missingPositions, List.filter_map]
  congr 1
  refine List.filter_congr fun k _ => ?_
  simp only [Function.comp_apply, htally.countOf_eq, occurrences_eq_zero_iff]

theorem countsRight_ohlctvMetrics (hpos : 0 < interval) (thresholds : DataQualityThresholds) :
    CountsRight windowStart interval n opens
      (ohlctvMetrics opens ((List.range n).map (gridOpen windowStart interval)) interval
        thresholds) where
  missing := by
    intro t
    rw [missingIntervals_eq]
    constructor
    · intro ht
      obtain ⟨k, hk, rfl⟩ := List.mem_map.mp ht
      exact ⟨k, mem_missingPositions.mp hk, rfl⟩
    · rintro ⟨k, hk, rfl⟩
      exact List.mem_map_of_mem (mem_missingPositions.mpr hk)
  missing_nodup := by
    rw [missingIntervals_eq]
    refine (List.nodup_range.filter _).map fun k k' hsame => ?_
    exact gridOpen_utc_inj hpos (congrArg AwareDatetime.utc hsame)
  gaps := by
    have hgaps : (ohlctvMetrics opens ((List.range n).map (gridOpen windowStart interval)) interval
        thresholds).gapCount = countContiguousGaps interval
          ((missingPositions windowStart interval n opens).map (gridOpen windowStart interval)) := by
      rw [← missingIntervals_eq windowStart interval n opens thresholds]
      rfl
    have hruns : ∀ run : ℕ × ℕ, IsMaximalRun (fun k => decide (∀ t ∈ opens,
        t.utc ≠ (gridOpen windowStart interval k).utc) = true) n run ↔
          IsMaximalRun (OpenMissing windowStart interval n opens) n run := by
      intro run
      simp only [decide_eq_true_eq]
      constructor
      · rintro ⟨hordered, hbelow, hholds, hleft, hright⟩
        exact ⟨hordered, hbelow, fun k hlow hhigh => ⟨hhigh.trans_lt hbelow, hholds k hlow hhigh⟩,
          hleft.imp_right fun hnot h => hnot h.2, hright.imp_right fun hnot h => hnot h.2⟩
      · rintro ⟨hordered, hbelow, hholds, hleft, hright⟩
        refine ⟨hordered, hbelow, fun k hlow hhigh => (hholds k hlow hhigh).2, ?_, ?_⟩
        · exact hleft.imp_right fun hnot h => hnot ⟨by omega, h⟩
        · rcases Nat.lt_or_ge (run.2 + 1) n with hlt | hge
          · exact hright.imp_right fun hnot h => hnot ⟨hlt, h⟩
          · exact .inl (by omega)
    rw [hgaps, countContiguousGaps_map_gridOpen hpos, missingPositions, countRuns_filter_range]
    simp only [hruns]
  duplicates := (@isTally_tally _ _ _ AwareDatetime.utc opens).sum_beyond_first

/-! ## The decision -/

theorem safeRate_le_zero_iff {numerator denominator : Nat} (h : numerator ≤ denominator) :
    (safeRate numerator denominator h).val ≤ 0 ↔ numerator = 0 := by
  rw [safeRate]
  split
  · next hzero =>
      have hnumerator : numerator = 0 := by omega
      exact iff_of_true (le_refl 0) hnumerator
  · next hne =>
      have hdenominator : (0 : Decimal) < denominator := Nat.cast_pos.mpr (Nat.pos_of_ne_zero hne)
      rw [div_le_iff₀ hdenominator, zero_mul, Nat.cast_nonpos]

/-- The gate passes when no metric exceeds its threshold. -/
theorem decisionOf_ohlctvBlockers_eq_pass_iff (metrics : OHLCTVQualityMetrics)
    (thresholds : DataQualityThresholds) :
    decisionOf (ohlctvBlockers metrics thresholds) = .pass ↔
      metrics.missingIntervalRate.val ≤ thresholds.maxMissingIntervalRate.val ∧
        metrics.gapCount ≤ thresholds.maxGapCount ∧
        metrics.duplicateRate.val ≤ thresholds.maxDuplicateRate.val := by
  have hpass : ∀ blockers : List DataQualityBlocker,
      decisionOf blockers = .pass ↔ blockers = [] := by
    intro blockers
    rw [decisionOf]
    split
    · next hnil => exact iff_of_true rfl hnil
    · next hne => exact iff_of_false nofun hne
  have hoption : ∀ (P : Prop) [Decidable P] (b : DataQualityBlocker),
      (if P then [b] else []) = [] ↔ ¬ P := by
    intro P _ b
    split
    · next h => exact iff_of_false (List.cons_ne_nil _ _) (not_not.mpr h)
    · next h => exact iff_of_true rfl h
  rw [hpass, ohlctvBlockers, List.append_eq_nil_iff, List.append_eq_nil_iff, hoption, hoption,
    hoption, not_lt, not_lt, not_lt, and_assoc]

theorem nodup_iff_card_toFinset {α : Type} [DecidableEq α] (as : List α) :
    as.length - as.toFinset.card = 0 ↔ as.Nodup := by
  rw [List.card_toFinset]
  constructor
  · intro h
    have hle := (List.dedup_sublist as).length_le
    exact List.dedup_eq_self.mp ((List.dedup_sublist as).eq_of_length (by omega))
  · intro h
    rw [h.dedup, Nat.sub_self]

/-- With zero thresholds the gate passes exactly when no grid open is missing and no open is
repeated. -/
theorem pass_iff_of_zero_thresholds {thresholds : DataQualityThresholds}
    (hmissing : thresholds.maxMissingIntervalRate.val = 0) (hgap : thresholds.maxGapCount = 0)
    (hduplicate : thresholds.maxDuplicateRate.val = 0) :
    decisionOf (ohlctvBlockers (ohlctvMetrics opens
      ((List.range n).map (gridOpen windowStart interval)) interval thresholds) thresholds) =
        .pass ↔
      (∀ k, ¬ OpenMissing windowStart interval n opens k) ∧
        (opens.map AwareDatetime.utc).Nodup := by
  have htally := @isTally_tally _ _ _ AwareDatetime.utc opens
  have hnone : (∀ k, ¬ OpenMissing windowStart interval n opens k) ↔
      missingPositions windowStart interval n opens = [] := by
    simp only [← mem_missingPositions]
    exact List.eq_nil_iff_forall_not_mem.symm
  have hlist := missingIntervals_eq windowStart interval n opens thresholds
  simp only [ohlctvMetrics] at hlist
  have hrepeated : duplicateBars (tally AwareDatetime.utc opens) = 0 ↔
      (opens.map AwareDatetime.utc).Nodup := by
    rw [duplicateBars, htally.sum_beyond_first, ← nodup_iff_card_toFinset, List.length_map]
  rw [decisionOf_ohlctvBlockers_eq_pass_iff, hmissing, hgap, hduplicate]
  simp only [ohlctvMetrics, safeRate_le_zero_iff, hlist, hrepeated, List.length_map,
    List.length_eq_zero_iff, Nat.le_zero, hnone]
  constructor
  · rintro ⟨hno, -, hdup⟩
    exact ⟨hno, hdup⟩
  · rintro ⟨hno, hdup⟩
    refine ⟨hno, ?_, hdup⟩
    rw [hno]
    rfl

end Counts

/-! ## The gate -/

section Gate

variable [Sha256] {batch : SilverNormalizationBatch} {config : DataQualityReportConfig}
variable {interval n : Nat}

/-- The bars that open inside the window. -/
def barsInWindow (batch : SilverNormalizationBatch) (config : DataQualityReportConfig) :
    List OHLCTVBar :=
  (batch.ohlctvRecords.map SilverOHLCTVRecord.bar).filter fun bar =>
    decide (config.windowStart ≤ bar.openTs) && decide (bar.openTs < config.windowEnd)

theorem opensInWindow_eq (batch : SilverNormalizationBatch) (config : DataQualityReportConfig) :
    opensInWindow batch config = (barsInWindow batch config).map OHLCTVBar.openTs := by
  rw [opensInWindow, barsInWindow, List.filter_map, List.map_map]
  rfl

/-- The batch is in the scope of the config, and its window is `n` intervals of the timeframe. -/
structure InScope (batch : SilverNormalizationBatch) (config : DataQualityReportConfig)
    (interval n : Nat) : Prop where
  scope : validateBatchScope batch config .ohlctv = .ok ()
  interval_of_timeframe : ∀ timeframe ∈ config.timeframe,
    timeframeToTimedelta timeframe = .ok interval
  aligned : config.windowEnd.utc = config.windowStart.utc + n * interval

omit [Sha256] in
/-- The bars tile the window: every grid open has exactly one bar, and every bar is on the grid and
one interval long. -/
structure Tiles (windowStart : AwareDatetime) (interval n : Nat) (bars : List OHLCTVBar) : Prop where
  once : ∀ k < n, bars.countP (fun bar =>
    decide (bar.openTs.utc = (gridOpen windowStart interval k).utc)) = 1
  sized : ∀ bar ∈ bars, (∃ k < n, bar.openTs.utc = (gridOpen windowStart interval k).utc) ∧
    bar.closeTs.utc = bar.openTs.utc + interval

omit [Sha256] in
theorem tiles_iff {windowStart : AwareDatetime} {bars : List OHLCTVBar} :
    Tiles windowStart interval n bars ↔
      ((∀ k, ¬ OpenMissing windowStart interval n (bars.map OHLCTVBar.openTs) k) ∧
        ((bars.map OHLCTVBar.openTs).map AwareDatetime.utc).Nodup) ∧
      ∀ bar ∈ bars, (∃ k < n, bar.openTs.utc = (gridOpen windowStart interval k).utc) ∧
        bar.closeTs.utc = bar.openTs.utc + interval := by
  have hcount : ∀ t : Int, bars.countP (fun bar => decide (bar.openTs.utc = t)) =
      ((bars.map OHLCTVBar.openTs).map AwareDatetime.utc).count t := by
    intro t
    rw [List.count, List.map_map, List.countP_map]
    rfl
  constructor
  · rintro ⟨honce, hsized⟩
    refine ⟨⟨?_, ?_⟩, hsized⟩
    · rintro k ⟨hk, hmissing⟩
      have hpositive : 0 < bars.countP (fun bar =>
          decide (bar.openTs.utc = (gridOpen windowStart interval k).utc)) := by
        rw [honce k hk]
        exact Nat.one_pos
      obtain ⟨bar, hbar, hopen⟩ := List.countP_pos_iff.mp hpositive
      exact hmissing _ (List.mem_map_of_mem hbar) (of_decide_eq_true hopen)
    · refine List.nodup_iff_count_le_one.mpr fun t => ?_
      by_cases ht : t ∈ (bars.map OHLCTVBar.openTs).map AwareDatetime.utc
      · -- the bar lies on the grid, where each open occurs once
        simp only [List.map_map, List.mem_map, Function.comp_apply] at ht
        obtain ⟨bar, hbar, rfl⟩ := ht
        obtain ⟨⟨k, hk, hopen⟩, -⟩ := hsized bar hbar
        rw [← hcount, hopen, honce k hk]
      · rw [List.count_eq_zero.mpr ht]
        exact Nat.zero_le 1
  · rintro ⟨⟨hpresent, hnodup⟩, hsized⟩
    refine ⟨fun k hk => ?_, hsized⟩
    have hmem : (gridOpen windowStart interval k).utc ∈
        (bars.map OHLCTVBar.openTs).map AwareDatetime.utc := by
      by_contra hnot
      refine hpresent k ⟨hk, fun t ht heq => hnot ?_⟩
      rw [← heq]
      exact List.mem_map_of_mem ht
    rw [hcount]
    exact List.count_eq_one_of_mem hnodup hmem

/-- What the gate returns on a batch in scope. -/
theorem evaluateSilverOhlctvBatch_ok (h : InScope batch config interval n) :
    0 < interval ∧ ∃ report, evaluateSilverOhlctvBatch batch config = .ok report ∧
      report.ohlctvMetrics = ohlctvMetrics ((barsInWindow batch config).map OHLCTVBar.openTs)
        ((List.range n).map (gridOpen config.windowStart interval)) interval config.thresholds ∧
      report.decision = decisionOf (ohlctvBlockers report.ohlctvMetrics config.thresholds) := by
  have hscope := h.scope
  simp only [validateBatchScope, check_bind_eq_ok_iff, require_eq_ok_iff] at hscope
  obtain ⟨⟨hkind, -⟩, -, -, -, htimeframe⟩ := hscope
  obtain ⟨timeframe, hconfig⟩ := Option.ne_none_iff_exists'.mp (config.timeframe_of_ohlctv hkind)
  have hinterval := h.interval_of_timeframe timeframe hconfig
  have hpos : 0 < interval := by
    obtain ⟨value, hvalue, hok⟩ := timeframeToTimedelta_ok timeframe
    obtain rfl : value = interval := Except.ok.inj (hok.symm.trans hinterval)
    exact hvalue
  have hn : 0 < n := by
    have hforward : config.windowStart.utc < config.windowEnd.utc := config.window_forward
    rw [h.aligned] at hforward
    rcases Nat.eq_zero_or_pos n with rfl | hn
    · simp at hforward
    · exact hn
  rw [hconfig] at htimeframe
  refine ⟨hpos, reportOf config _, ?_, rfl, rfl⟩
  simp only [evaluateSilverOhlctvBatch, h.scope, htimeframe, Option.map_some, hinterval, ok_bind,
    expectedIntervalOpens_aligned hpos hn h.aligned, opensInWindow_eq]
  rfl

/-- On every batch in scope the counts are right for all thresholds; with zero thresholds the gate
passes exactly the tilings if and only if a grid open is missing, an open is repeated, or all bars
in the window are on the grid and one interval long. -/
theorem ohlctv_gate_iff (h : InScope batch config interval n) :
    ∃ report, evaluateSilverOhlctvBatch batch config = .ok report ∧
      CountsRight config.windowStart interval n
        ((barsInWindow batch config).map OHLCTVBar.openTs) report.ohlctvMetrics ∧
      (config.thresholds.maxMissingIntervalRate.val = 0 → config.thresholds.maxGapCount = 0 →
        config.thresholds.maxDuplicateRate.val = 0 →
        ((report.decision = .pass ↔
            Tiles config.windowStart interval n (barsInWindow batch config)) ↔
          (∃ k < n, ∀ bar ∈ barsInWindow batch config,
            bar.openTs.utc ≠ (gridOpen config.windowStart interval k).utc) ∨
          ¬ ((barsInWindow batch config).map fun bar => bar.openTs.utc).Nodup ∨
          ∀ bar ∈ barsInWindow batch config,
            (∃ k < n, bar.openTs.utc = (gridOpen config.windowStart interval k).utc) ∧
              bar.closeTs.utc = bar.openTs.utc + interval)) := by
  obtain ⟨hpos, report, hreport, hmetrics, hdecision⟩ := evaluateSilverOhlctvBatch_ok h
  refine ⟨report, hreport, ?_, fun hmissing hgap hduplicate => ?_⟩
  · rw [hmetrics]
    exact countsRight_ohlctvMetrics hpos config.thresholds
  have hpass := @pass_iff_of_zero_thresholds config.windowStart interval n
    ((barsInWindow batch config).map OHLCTVBar.openTs) _ hmissing hgap hduplicate
  rw [hdecision, hmetrics, hpass, tiles_iff]
  have hopens : (barsInWindow batch config).map (fun bar => bar.openTs.utc) =
      ((barsInWindow batch config).map OHLCTVBar.openTs).map AwareDatetime.utc := by
    rw [List.map_map]
    rfl
  have hsome : (∃ k < n, ∀ bar ∈ barsInWindow batch config,
      bar.openTs.utc ≠ (gridOpen config.windowStart interval k).utc) ↔
        ¬ ∀ k, ¬ OpenMissing config.windowStart interval n
          ((barsInWindow batch config).map OHLCTVBar.openTs) k := by
    simp [OpenMissing]
  rw [hsome, hopens, iff_self_and]
  -- the gate passes without a missing and a repeated open; the rest is up to the bars
  constructor
  · intro himp
    by_cases hboth : (∀ k, ¬ OpenMissing config.windowStart interval n
        ((barsInWindow batch config).map OHLCTVBar.openTs) k) ∧
        (((barsInWindow batch config).map OHLCTVBar.openTs).map AwareDatetime.utc).Nodup
    · exact .inr (.inr (himp hboth))
    · exact (not_and_or.mp hboth).imp_right .inl
  · rintro (hmiss | hrepeat | hsized) ⟨hpresent, hnodup⟩
    · exact absurd hpresent hmiss
    · exact absurd hnodup hrepeat
    · exact hsized

end Gate

/-! ## A bar of the wrong size -/

section Samples

/-- One bar from minute zero, which closes after a microsecond. -/
def shortBar : OHLCTVBar :=
  Features.quietBar "BTC-USD" "VENUE" "1m" ⟨1, 0⟩ ⟨100, Decimal.zero_le_hundred⟩

variable [Sha256]

def shortBarBatch : SilverNormalizationBatch :=
  Features.batchOfBars "BTC-USD" "VENUE" "1m" [shortBar] (List.cons_ne_nil _ _) (by
    intro bar hbar
    rw [List.mem_singleton.mp hbar]
    exact ⟨rfl, rfl⟩)

/-- The first `n` minutes of the day, with zero thresholds. -/
def minutesConfig (n : Nat) (hn : 0 < n) : DataQualityReportConfig where
  sourceId := "SOURCE"
  venueId := "VENUE"
  instrumentId := "BTC-USD"
  dataKind := .ohlctv
  windowStart := ⟨0, 0⟩
  windowEnd := ⟨n * 60000000, 0⟩
  timeframe := some ⟨"1m", by decide⟩
  window_forward := by
    rw [AwareDatetime.lt_def]
    positivity
  timeframe_of_ohlctv := fun _ => nofun
  no_timeframe_of_trade := nofun

omit [Sha256] in
theorem timeframeToTimedelta_oneMinute : timeframeToTimedelta "1m" = .ok 60000000 := by
  have hlast : "1m".toList.getLast? = some 'm' := by decide
  have hdigits : "1m".toList.dropLast = ['1'] := by decide
  simp only [timeframeToTimedelta, hlast, hdigits]
  rfl

theorem inScope_shortBarBatch (n : Nat) (hn : 0 < n) :
    InScope shortBarBatch (minutesConfig n hn) 60000000 n where
  scope := rfl
  interval_of_timeframe := by
    intro timeframe htimeframe
    obtain rfl := Option.some.inj htimeframe
    exact timeframeToTimedelta_oneMinute
  aligned := by simp [minutesConfig]

theorem barsInWindow_shortBarBatch (n : Nat) (hn : 0 < n) :
    barsInWindow shortBarBatch (minutesConfig n hn) = [shortBar] := by
  have hinside : (decide ((minutesConfig n hn).windowStart ≤ shortBar.openTs) &&
      decide (shortBar.openTs < (minutesConfig n hn).windowEnd)) = true := by
    have hlow : (minutesConfig n hn).windowStart ≤ shortBar.openTs := le_refl (0 : Int)
    have hhigh : shortBar.openTs < (minutesConfig n hn).windowEnd := (minutesConfig n hn).window_forward
    simp [hlow, hhigh]
  rw [barsInWindow, shortBarBatch, Features.ohlctvRecords_batchOfBars, List.map_cons, List.map_nil,
    List.map_cons, List.map_nil]
  exact List.filter_cons_of_pos hinside

end Samples

/-- Two minutes with a bar in the first one only. -/
theorem ohlctv_gate_on_missing_bar : ∃ report,
    @evaluateSilverOhlctvBatch hashlibSha256 (@shortBarBatch hashlibSha256)
      (minutesConfig 2 Nat.two_pos) = .ok report ∧
    (report.decision = .pass ↔ Tiles ⟨0, 0⟩ 60000000 2 [shortBar]) := by
  have hscope := @inScope_shortBarBatch hashlibSha256 2 Nat.two_pos
  obtain ⟨report, hreport, -, hiff⟩ := @ohlctv_gate_iff hashlibSha256 _ _ _ _ hscope
  rw [@barsInWindow_shortBarBatch hashlibSha256 2 Nat.two_pos] at hiff
  refine ⟨report, hreport, (hiff rfl rfl rfl).mpr (.inl ⟨1, Nat.one_lt_two, ?_⟩)⟩
  intro bar hbar
  rw [List.mem_singleton.mp hbar]
  decide

/-- The gate passes a minute whose only bar is a microsecond long. -/
theorem gate_passes_short_bar : ∃ report,
    @evaluateSilverOhlctvBatch hashlibSha256 (@shortBarBatch hashlibSha256)
      (minutesConfig 1 Nat.one_pos) = .ok report ∧
    @InScope hashlibSha256 (@shortBarBatch hashlibSha256) (minutesConfig 1 Nat.one_pos) 60000000 1 ∧
    report.decision = .pass ∧
    ¬ Tiles ⟨0, 0⟩ 60000000 1
      (@barsInWindow hashlibSha256 (@shortBarBatch hashlibSha256) (minutesConfig 1 Nat.one_pos)) := by
  have hscope := @inScope_shortBarBatch hashlibSha256 1 Nat.one_pos
  obtain ⟨-, report, hreport, hmetrics, hdecision⟩ :=
    @evaluateSilverOhlctvBatch_ok hashlibSha256 _ _ _ _ hscope
  rw [@barsInWindow_shortBarBatch hashlibSha256 1 Nat.one_pos] at hmetrics ⊢
  refine ⟨report, hreport, hscope, ?_, fun htiles => ?_⟩
  · rw [hdecision, hmetrics]
    refine (pass_iff_of_zero_thresholds rfl rfl rfl).mpr ⟨?_, List.nodup_singleton _⟩
    rintro k ⟨hk, hmissing⟩
    obtain rfl : k = 0 := by omega
    exact hmissing _ List.mem_cons_self rfl
  · have hsize := (htiles.sized shortBar List.mem_cons_self).2
    revert hsize
    decide

end TaModel.Validation
