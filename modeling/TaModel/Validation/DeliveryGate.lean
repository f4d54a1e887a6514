import TaModel.Normalization.Delivery
import TaModel.Validation.GateTiling

/-!
# The data-quality gate on a delivery

Normalization and the data-quality gate in a row: with zero thresholds the gate passes exactly when
the delivered bars of the window leave no grid open out and repeat none (`delivery_gate_iff`). A page
that is delivered twice is noticed (`redelivery_blocked`), although normalization accepts it.
-/

set_option autoImplicit false

namespace TaModel.Validation

open Contracts Library Normalization

section Delivery

variable [Sha256]

/-! ## Delivered bars -/

omit [Sha256] in
/-- The bars of a delivery, in order. -/
def deliveredBars (pages : List HistoricalBackfillPage) : List OHLCTVBar :=
  (pages.flatMap HistoricalBackfillPage.records).filterMap HistoricalRecord.asBar

omit [Sha256] in
/-- The delivered bars that open inside the window. -/
def deliveredInWindow (pages : List HistoricalBackfillPage) (config : DataQualityReportConfig) :
    List OHLCTVBar :=
  (deliveredBars pages).filter fun bar =>
    decide (config.windowStart ≤ bar.openTs) && decide (bar.openTs < config.windowEnd)

theorem asOhlctv_toSilver (entry : NormalizedRecord) :
    entry.toSilver.asOhlctv.map SilverOHLCTVRecord.bar = entry.source.asBar := by
  cases entry with
  | ohlctv r => rfl
  | trade r => rfl

/-- The gate sees the bars that were delivered. -/
theorem bars_of_normalize {pages : List HistoricalBackfillPage} {venueId instrumentId : String}
    {batch : NormalizedBatch}
    (h : normalizeHistoricalPages pages venueId instrumentId = .ok batch) :
    batch.ohlctvRecords.map SilverOHLCTVRecord.bar = deliveredBars pages := by
  have hsources : batch.entries.map NormalizedRecord.source =
      pages.flatMap HistoricalBackfillPage.records := by
    have hlineage := congrArg (List.map fun entry => entry.2.2) (lineage_of_normalize h)
    rw [List.map_map, deliveredRecords, List.map_flatMap] at hlineage
    simpa only [List.map_map, Function.comp_def, List.map_id', NormalizedRecord.lineage]
      using hlineage
  rw [deliveredBars, ← hsources, SilverNormalizationBatch.ohlctvRecords, batch.records_of_entries,
    List.filterMap_map, List.map_filterMap, List.filterMap_map]
  exact List.filterMap_congr fun entry _ => asOhlctv_toSilver entry

theorem barsInWindow_of_normalize {pages : List HistoricalBackfillPage}
    {venueId instrumentId : String} {batch : NormalizedBatch}
    (h : normalizeHistoricalPages pages venueId instrumentId = .ok batch)
    (config : DataQualityReportConfig) :
    barsInWindow batch.toSilverNormalizationBatch config = deliveredInWindow pages config := by
  rw [barsInWindow, bars_of_normalize h, deliveredInWindow]

/-! ## The scope of the report -/

/-- The config asks for a report on the delivered bars, over a window of `n` intervals. -/
structure ReportsOn (pages : List HistoricalBackfillPage) (venueId instrumentId : String)
    (config : DataQualityReportConfig) (interval n : Nat) : Prop where
  dataKind : config.dataKind = .ohlctv
  ofPages : ∀ page ∈ pages, page.dataKind = .ohlctv ∧ page.provenance.sourceId = config.sourceId
  venueId : config.venueId = venueId
  instrumentId : config.instrumentId = instrumentId
  timeframe : ∀ bar ∈ deliveredBars pages, config.timeframe.map Subtype.val = some bar.timeframe
  interval_of_timeframe : ∀ timeframe ∈ config.timeframe,
    timeframeToTimedelta timeframe = .ok interval
  aligned : config.windowEnd.utc = config.windowStart.utc + n * interval

/-- The batch of the delivery is in the scope of the report. -/
theorem inScope_of_normalize {pages : List HistoricalBackfillPage} {venueId instrumentId : String}
    {batch : NormalizedBatch} {config : DataQualityReportConfig} {interval n : Nat}
    (h : normalizeHistoricalPages pages venueId instrumentId = .ok batch)
    (hconfig : ReportsOn pages venueId instrumentId config interval n) :
    InScope batch.toSilverNormalizationBatch config interval n where
  scope := by
    obtain ⟨scope, lists, timeframe, ⟨hvenue, hinstrument⟩, hlists, hagrees, hne, hof⟩ :=
      collected_of_normalize h
    -- some record was collected, and its page is one of the delivered ones
    obtain ⟨entry, hentry⟩ := List.exists_mem_of_ne_nil _ hne
    obtain ⟨page, hpage, hscope, record, hrecord, hentryOf⟩ :=
      entryOfPages_of_collected hlists entry hentry
    obtain ⟨hkind, hsource⟩ := hconfig.ofPages page hpage
    have hbatchKind : scope.dataKind = .ohlctv := hscope.dataKind.symm.trans hkind
    have htimeframe : batch.timeframe = config.timeframe.map Subtype.val := by
      have hrecordKind := (page.records_match_kind record hrecord).trans hkind
      cases record with
      | trade t => cases hrecordKind
      | bar b =>
          have hdelivered : b ∈ deliveredBars pages :=
            List.mem_filterMap.mpr ⟨.bar b, List.mem_flatMap.mpr ⟨page, hpage, hrecord⟩, rfl⟩
          rw [hof.timeframe, hbatchKind, if_neg (by simp), hconfig.timeframe b hdelivered]
          exact hagrees.all_equal _ ((mem_timeframes_iff _ _).mpr ⟨page, hpage, b, hrecord, rfl⟩)
    simp only [validateBatchScope, check_bind_eq_ok_iff, require_eq_ok_iff]
    exact ⟨⟨hconfig.dataKind, hof.dataKind.trans hbatchKind⟩,
      hof.sourceId.trans (hscope.sourceId.symm.trans hsource),
      hof.venueId.trans (hvenue.trans hconfig.venueId.symm),
      hof.instrumentId.trans (hinstrument.trans hconfig.instrumentId.symm), htimeframe⟩
  interval_of_timeframe := hconfig.interval_of_timeframe
  aligned := hconfig.aligned

/-! ## A report on one minute -/

omit [Sha256] in
theorem reportsOn_samplePages (pageIds : List String) (n : Nat) (hn : 0 < n) :
    ReportsOn (pageIds.map samplePage) "VENUE" "BTC-USD" (minutesConfig n hn) 60000000 n where
  dataKind := rfl
  ofPages := by
    intro page hpage
    obtain ⟨pageId, -, rfl⟩ := List.mem_map.mp hpage
    exact ⟨rfl, rfl⟩
  venueId := rfl
  instrumentId := rfl
  timeframe := by
    intro bar hbar
    obtain ⟨record, hrecord, hof⟩ := List.mem_filterMap.mp hbar
    obtain ⟨page, hpage, hmem⟩ := List.mem_flatMap.mp hrecord
    obtain ⟨pageId, -, rfl⟩ := List.mem_map.mp hpage
    obtain rfl := List.mem_singleton.mp hmem
    obtain rfl := Option.some.inj hof
    rfl
  interval_of_timeframe := by
    intro timeframe htimeframe
    obtain rfl := Option.some.inj htimeframe
    exact timeframeToTimedelta_oneMinute
  aligned := by simp [minutesConfig]

/-! ## The verdict -/

/-- Every delivery that normalization accepts gets a report of a gate on its bars, which with zero
thresholds passes exactly when every grid open of the window has a delivered bar and no two delivered
bars of the window open at the same time. -/
theorem delivery_gate_iff {pages : List HistoricalBackfillPage} {venueId instrumentId : String}
    {config : DataQualityReportConfig} {interval n : Nat}
    (hdelivery : Deliverable pages venueId instrumentId)
    (hconfig : ReportsOn pages venueId instrumentId config interval n) :
    ∃ batch report, normalizeHistoricalPages pages venueId instrumentId = .ok batch ∧
      evaluateSilverOhlctvBatch batch.toSilverNormalizationBatch config = .ok report ∧
      (config.thresholds.maxMissingIntervalRate.val = 0 → config.thresholds.maxGapCount = 0 →
        config.thresholds.maxDuplicateRate.val = 0 →
        (report.decision = .pass ↔
          (∀ k < n, ∃ bar ∈ deliveredInWindow pages config,
            bar.openTs.utc = (gridOpen config.windowStart interval k).utc) ∧
          (deliveredInWindow pages config).Pairwise fun bar bar' =>
            bar.openTs.utc ≠ bar'.openTs.utc)) := by
  obtain ⟨batch, h⟩ := exists_normalize hdelivery
  obtain ⟨-, report, hreport, hmetrics, hdecision⟩ :=
    evaluateSilverOhlctvBatch_ok (inScope_of_normalize h hconfig)
  refine ⟨batch, report, h, hreport, ?_⟩
  intro hmissing hgap hduplicate
  have hpass := @pass_iff_of_zero_thresholds config.windowStart interval n
    ((barsInWindow batch.toSilverNormalizationBatch config).map OHLCTVBar.openTs) _ hmissing hgap
    hduplicate
  rw [hdecision, hmetrics, hpass, barsInWindow_of_normalize h config]
  refine and_congr ?_ ?_
  · constructor
    · intro hnone k hk
      by_contra hno
      refine hnone k ⟨hk, ?_⟩
      intro t ht hopen
      obtain ⟨bar, hbar, rfl⟩ := List.mem_map.mp ht
      exact hno ⟨bar, hbar, hopen⟩
    · rintro hall k ⟨hk, hmiss⟩
      obtain ⟨bar, hbar, hopen⟩ := hall k hk
      exact hmiss _ (List.mem_map_of_mem hbar) hopen
  · rw [List.map_map, List.Nodup, List.pairwise_map]
    rfl

omit [Sha256] in
/-- One page for two minutes: the second minute has no bar. -/
theorem delivery_gate_one_page : ∃ batch report,
    @normalizeHistoricalPages hashlibSha256 [samplePage "PAGE:1"] "VENUE" "BTC-USD" = .ok batch ∧
    @evaluateSilverOhlctvBatch hashlibSha256
      (@NormalizedBatch.toSilverNormalizationBatch hashlibSha256 batch)
      (minutesConfig 2 Nat.two_pos) = .ok report ∧
    (report.decision = .pass ↔
      (∀ k < 2, ∃ bar ∈ deliveredInWindow [samplePage "PAGE:1"] (minutesConfig 2 Nat.two_pos),
        bar.openTs.utc = (gridOpen ⟨0, 0⟩ 60000000 k).utc) ∧
      (deliveredInWindow [samplePage "PAGE:1"] (minutesConfig 2 Nat.two_pos)).Pairwise
        fun bar bar' => bar.openTs.utc ≠ bar'.openTs.utc) := by
  obtain ⟨batch, report, hbatch, hreport, hpass⟩ := @delivery_gate_iff hashlibSha256 _ _ _ _ _ _
    (deliverable_samplePages (List.cons_ne_nil "PAGE:1" []))
    (reportsOn_samplePages ["PAGE:1"] 2 Nat.two_pos)
  exact ⟨batch, report, hbatch, hreport, hpass rfl rfl rfl⟩

/-! ## A repeated page -/

omit [Sha256] in
/-- An open that occurs twice is listed. -/
theorem duplicate_listed {opens expectedOpens : List AwareDatetime} {interval : Nat}
    {thresholds : DataQualityThresholds} {t : AwareDatetime}
    (h : 2 ≤ occurrences AwareDatetime.utc opens t.utc) :
    ∃ listed ∈ (ohlctvMetrics opens expectedOpens interval thresholds).duplicateIntervals,
      listed.utc = t.utc := by
  have htally := @isTally_tally _ _ _ AwareDatetime.utc opens
  have hsome : 0 < occurrences AwareDatetime.utc opens t.utc := by omega
  obtain ⟨first, hfirst, hkey⟩ := List.countP_pos_iff.mp hsome
  obtain ⟨entry, hentry, hentryKey⟩ := htally.complete first hfirst
  have hsame : entry.1.utc = t.utc := hentryKey.trans (of_decide_eq_true hkey)
  have hcount : 1 < entry.2 := by
    rw [htally.entry_counts entry hentry, hsame]
    exact h
  refine ⟨entry.1, List.mem_map.mpr ⟨entry, List.mem_filter.mpr ⟨?_, decide_eq_true hcount⟩, rfl⟩,
    hsame⟩
  exact (List.mem_insertionSort _).mpr hentry

omit [Sha256] in
/-- Repeated opens block a gate that tolerates none. -/
theorem blocked_of_duplicate {opens expectedOpens : List AwareDatetime} {interval : Nat}
    {thresholds : DataQualityThresholds} (hduplicate : thresholds.maxDuplicateRate.val = 0)
    (h : ¬ (opens.map AwareDatetime.utc).Nodup) :
    decisionOf (ohlctvBlockers (ohlctvMetrics opens expectedOpens interval thresholds) thresholds) =
      .blocked := by
  have htally := @isTally_tally _ _ _ AwareDatetime.utc opens
  have hnot : decisionOf (ohlctvBlockers (ohlctvMetrics opens expectedOpens interval thresholds)
      thresholds) ≠ .pass := by
    intro hpass
    obtain ⟨-, -, hrate⟩ := (decisionOf_ohlctvBlockers_eq_pass_iff _ _).mp hpass
    rw [hduplicate] at hrate
    have hzero := (safeRate_le_zero_iff (duplicateBars_le opens)).mp hrate
    rw [duplicateBars, htally.sum_beyond_first] at hzero
    apply h
    rw [← nodup_iff_card_toFinset, List.length_map]
    exact hzero
  unfold decisionOf at hnot ⊢
  split_ifs at hnot ⊢ with hnil
  · exact absurd rfl hnot
  · rfl

omit [Sha256] in
/-- A bar of a page that is delivered twice occurs twice. -/
theorem two_le_occurrences_of_twice {pages before middle after : List HistoricalBackfillPage}
    {page : HistoricalBackfillPage} (hpages : pages = before ++ page :: (middle ++ page :: after))
    {config : DataQualityReportConfig} {bar : OHLCTVBar}
    (hbar : HistoricalRecord.bar bar ∈ page.records)
    (hwindow : config.windowStart ≤ bar.openTs ∧ bar.openTs < config.windowEnd) :
    2 ≤ occurrences AwareDatetime.utc ((deliveredInWindow pages config).map OHLCTVBar.openTs)
      bar.openTs.utc := by
  have hsplit : ∀ ps qs : List HistoricalBackfillPage,
      deliveredInWindow (ps ++ qs) config = deliveredInWindow ps config ++
        deliveredInWindow qs config := by
    intro ps qs
    simp only [deliveredInWindow, deliveredBars, List.flatMap_append, List.filterMap_append,
      List.filter_append]
  have hmem : bar ∈ deliveredInWindow [page] config := by
    refine List.mem_filter.mpr ⟨List.mem_filterMap.mpr ⟨.bar bar, ?_, rfl⟩, ?_⟩
    · simpa using hbar
    · rw [decide_eq_true hwindow.1, decide_eq_true hwindow.2]
      rfl
  -- the page contributes at both places
  have hone : 1 ≤ occurrences AwareDatetime.utc
      ((deliveredInWindow [page] config).map OHLCTVBar.openTs) bar.openTs.utc :=
    List.countP_pos_iff.mpr ⟨bar.openTs, List.mem_map_of_mem hmem, decide_eq_true rfl⟩
  have hlist : pages = before ++ ([page] ++ (middle ++ ([page] ++ after))) := hpages
  rw [hlist]
  simp only [hsplit, List.map_append, occurrences, List.countP_append] at hone ⊢
  omega

/-- A page that is delivered twice is normalized like any other, but a gate without tolerance for
duplicates blocks it and lists the open of every bar of the page that opens inside the window. -/
theorem redelivery_blocked {pages before middle after : List HistoricalBackfillPage}
    {page : HistoricalBackfillPage} {venueId instrumentId : String}
    {config : DataQualityReportConfig} {interval n : Nat}
    (hpages : pages = before ++ page :: (middle ++ page :: after))
    (hdelivery : Deliverable pages venueId instrumentId)
    (hconfig : ReportsOn pages venueId instrumentId config interval n)
    (hduplicate : config.thresholds.maxDuplicateRate.val = 0) {bar : OHLCTVBar}
    (hbar : HistoricalRecord.bar bar ∈ page.records)
    (hwindow : config.windowStart ≤ bar.openTs ∧ bar.openTs < config.windowEnd) :
    ∃ batch report, normalizeHistoricalPages pages venueId instrumentId = .ok batch ∧
      evaluateSilverOhlctvBatch batch.toSilverNormalizationBatch config = .ok report ∧
      report.decision = .blocked ∧
      ∃ listed ∈ report.ohlctvMetrics.duplicateIntervals, listed.utc = bar.openTs.utc := by
  obtain ⟨batch, h⟩ := exists_normalize hdelivery
  obtain ⟨-, report, hreport, hmetrics, hdecision⟩ :=
    evaluateSilverOhlctvBatch_ok (inScope_of_normalize h hconfig)
  have htwice := two_le_occurrences_of_twice hpages hbar hwindow
  rw [barsInWindow_of_normalize h config] at hmetrics
  refine ⟨batch, report, h, hreport, ?_, ?_⟩
  · rw [hdecision, hmetrics]
    apply blocked_of_duplicate hduplicate
    intro hnodup
    have hle := List.nodup_iff_count_le_one.mp hnodup bar.openTs.utc
    rw [List.count, List.countP_map] at hle
    have hsame : occurrences AwareDatetime.utc
        ((deliveredInWindow pages config).map OHLCTVBar.openTs) bar.openTs.utc ≤ 1 := by
      refine le_trans (List.countP_mono_left ?_) hle
      intro t _ ht
      simpa using ht
    omega
  · rw [hmetrics]
    exact duplicate_listed htwice

omit [Sha256] in
/-- The page of one bar, delivered twice in a row. -/
theorem redelivery_of_sample_page : ∃ batch report,
    @normalizeHistoricalPages hashlibSha256 [samplePage "PAGE:1", samplePage "PAGE:1"] "VENUE"
      "BTC-USD" = .ok batch ∧
    @evaluateSilverOhlctvBatch hashlibSha256
      (@NormalizedBatch.toSilverNormalizationBatch hashlibSha256 batch)
      (minutesConfig 1 Nat.one_pos) = .ok report ∧
    report.decision = .blocked ∧
    ∃ listed ∈ report.ohlctvMetrics.duplicateIntervals, listed.utc = 0 := by
  have hwindow : (minutesConfig 1 Nat.one_pos).windowStart ≤ sampleBar.openTs ∧
      sampleBar.openTs < (minutesConfig 1 Nat.one_pos).windowEnd := by
    decide
  exact @redelivery_blocked hashlibSha256 _ [] [] [] _ _ _ _ _ _ rfl
    (deliverable_samplePages (List.cons_ne_nil "PAGE:1" ["PAGE:1"]))
    (reportsOn_samplePages ["PAGE:1", "PAGE:1"] 1 Nat.one_pos) rfl sampleBar
    (List.mem_singleton_self _) hwindow

end Delivery

end TaModel.Validation
