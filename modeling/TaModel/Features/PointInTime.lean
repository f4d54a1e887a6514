import TaModel.Features.Ta
import TaModel.Contracts.CanonicalJson

/-!
# Point-in-time features

What a technical-analysis vector depends on: the bars up to its own and the higher-timeframe bars
that have closed by its close. The one thing beyond them is whether a higher-timeframe batch was
given at all: until its first bar closes, the vector carries `htf_close` without a value.
-/

set_option autoImplicit false

namespace TaModel.Features

open Contracts Normalization

variable [Sha256]

/-! ## Cut streams -/

theorem taVectors_take (batch : SilverNormalizationBatch) (w : TaWindows)
    (higher : List SilverOHLCTVRecord) (history : BarHistory) (records : List SilverOHLCTVRecord)
    (n : Nat) :
    taVectors batch w higher history (records.take n) =
      (taVectors batch w higher history records).take n := by
  induction records generalizing history n with
  | nil => simp [taVectors]
  | cons record records ih =>
      cases n with
      | zero => rfl
      | succ n => exact congrArg (List.cons _) (ih (history.read record) n)

theorem length_taVectors (batch : SilverNormalizationBatch) (w : TaWindows)
    (higher : List SilverOHLCTVRecord) (history : BarHistory)
    (records : List SilverOHLCTVRecord) :
    (taVectors batch w higher history records).length = records.length := by
  induction records generalizing history with
  | nil => rfl
  | cons record records ih => exact congrArg Nat.succ (ih (history.read record))

/-- Of the batch, the loop reads the instrument and the venue. -/
theorem taVectors_congr {batch batch' : SilverNormalizationBatch} (w : TaWindows)
    (higher : List SilverOHLCTVRecord) (hinstrument : batch.instrumentId = batch'.instrumentId)
    (hvenue : batch.venueId = batch'.venueId) (history : BarHistory)
    (records : List SilverOHLCTVRecord) :
    taVectors batch w higher history records = taVectors batch' w higher history records := by
  induction records generalizing history with
  | nil => rfl
  | cons record records ih =>
      have hvector : taVector batch w higher history record =
          taVector batch' w higher history record := by
        simp only [taVector, hinstrument, hvenue]
      rw [taVectors, taVectors, hvector, ih]

theorem barsClosedBy_barsClosedBy (t : AwareDatetime) (records : List SilverOHLCTVRecord) :
    barsClosedBy t (barsClosedBy t records) = barsClosedBy t records := by
  simp only [barsClosedBy, List.filter_filter, Bool.and_self]

/-- Once a higher-timeframe bar has closed, later ones change nothing. -/
theorem taVector_barsClosedBy (batch : SilverNormalizationBatch) (w : TaWindows)
    {higher : List SilverOHLCTVRecord} (history : BarHistory) (record : SilverOHLCTVRecord)
    (hclosed : barsClosedBy record.bar.closeTs higher ≠ []) :
    taVector batch w (barsClosedBy record.bar.closeTs higher) history record =
      taVector batch w higher history record := by
  have hhigher : higher ≠ [] := by
    rintro rfl
    exact hclosed rfl
  have hvalues : higherValues (barsClosedBy record.bar.closeTs higher) record.bar.closeTs =
      higherValues higher record.bar.closeTs := by
    simp only [higherValues, latestHigherTimeframeClose, barsClosedBy_barsClosedBy,
      List.isEmpty_iff, if_neg hclosed, if_neg hhigher]
  simp only [taVector, hvalues, barsClosedBy_barsClosedBy]

/-- `v` is `last` with an `htf_close` that has no value yet. -/
structure AwaitsHigherTimeframe (v last : FeatureVector) : Prop where
  instrument : v.instrumentId = last.instrumentId
  venue : v.venueId = last.venueId
  featureTs : v.featureTs = last.featureTs
  version : v.featureVersion = last.featureVersion
  lookback : v.lookbackWindow = last.lookbackWindow
  snapshot : v.inputSnapshotId = last.inputSnapshotId
  values : v.values.entries = last.values.entries ++ [("htf_close", none)]
  flags : v.qualityFlags = [.missing, .insufficientHistory]

/-- Before the first higher-timeframe bar has closed, its batch shows as a missing value. -/
theorem awaitsHigherTimeframe_taVector (batch : SilverNormalizationBatch) (w : TaWindows)
    {higher : List SilverOHLCTVRecord} (history : BarHistory) (record : SilverOHLCTVRecord)
    (hhigher : higher ≠ []) (hclosed : barsClosedBy record.bar.closeTs higher = []) :
    AwaitsHigherTimeframe (taVector batch w higher history record)
      (taVector batch w [] history record) := by
  have hvalues : higherValues higher record.bar.closeTs = [("htf_close", none)] := by
    simp only [higherValues, latestHigherTimeframeClose, hclosed, List.isEmpty_iff,
      if_neg hhigher]
    rfl
  refine ⟨rfl, rfl, rfl, rfl, rfl, ?_, ?_, ?_⟩
  · simp only [taVector, hclosed]
    rfl
  · have hnone : higherValues [] record.bar.closeTs = [] := rfl
    simp only [taVector, hvalues, hnone, List.append_nil]
  · simp [taVector, hvalues, qualityFlagsOf]

/-! ## Cut runs -/

theorem higherAccepted_of_cut {base cutBase higher cutHigher : SilverNormalizationBatch}
    {t : AwareDatetime} (h : HigherAccepted base higher)
    (hinstrument : cutBase.instrumentId = base.instrumentId)
    (hvenue : cutBase.venueId = base.venueId) (htimeframe : cutBase.timeframe = base.timeframe)
    (hcut : cutAt t higher = some cutHigher) : HigherAccepted cutBase cutHigher := by
  obtain ⟨hinstrument', hvenue', htimeframe', hkind', -, hbars⟩ := cutAt_eq_some hcut
  refine ⟨?_, ?_, hkind'.trans h.kind, ?_, ?_⟩
  · rw [hinstrument', hinstrument, h.instrument]
  · rw [hvenue', hvenue, h.venue]
  · rw [htimeframe', hbars]
    exact h.bars.sublist List.filter_sublist
  · rw [htimeframe', htimeframe]
    exact h.longer

/-- The bars of a cut higher batch, which is no batch when none has closed. -/
theorem higherBars_cut (t : AwareDatetime) {higher : Option SilverNormalizationBatch}
    (hkind : ∀ hb ∈ higher, hb.dataKind = .ohlctv) :
    higherBars (higher.bind (cutAt t)) = barsClosedBy t (higherBars higher) := by
  cases higher with
  | none => rfl
  | some hb =>
      simp only [Option.bind_some, higherBars, Option.elim_some]
      cases hcut : cutAt t hb with
      | none => exact ((cutAt_eq_none_iff (hkind hb rfl)).mp hcut).symm
      | some cut => exact (cutAt_eq_some hcut).2.2.2.2.2

theorem higherBars_ne_nil {higher : Option SilverNormalizationBatch}
    (hkind : ∀ hb ∈ higher, hb.dataKind = .ohlctv) (hsome : higher ≠ none) :
    higherBars higher ≠ [] := by
  cases higher with
  | none => exact absurd rfl hsome
  | some hb => exact ohlctvRecords_ne_nil (hkind hb rfl)

theorem filter_closedBy_map (t : AwareDatetime) (records : List SilverOHLCTVRecord) :
    (records.map SilverRecord.ohlctv).filter (closedBy t) =
      (barsClosedBy t records).map SilverRecord.ohlctv := by
  rw [List.filter_map]
  rfl

/-- The run on the bars up to one of them ends with its vector. -/
theorem getLast?_taVectors_take (batch : SilverNormalizationBatch) (w : TaWindows)
    (higher : List SilverOHLCTVRecord) {records : List SilverOHLCTVRecord} {i : Nat}
    {record : SilverOHLCTVRecord} (hi : records[i]? = some record) :
    (taVectors batch w higher {} (records.take (i + 1))).getLast? =
      some (taVector batch w higher (BarHistory.readEach {} (records.take i)) record) := by
  have hvector := getElem?_taVectors batch w higher {} records i
  rw [hi, Option.map_some] at hvector
  rw [taVectors_take, List.getLast?_take, if_neg (Nat.succ_ne_zero i), Nat.add_sub_cancel, hvector]
  rfl

/-- Two batches of one scope. -/
structure SameScope (short batch : SilverNormalizationBatch) : Prop where
  dataKind : short.dataKind = batch.dataKind
  instrument : short.instrumentId = batch.instrumentId
  venue : short.venueId = batch.venueId
  timeframe : short.timeframe = batch.timeframe

/-- What the vectors of a run owe to the records closed by their instants: each is the last vector
of the run on both batches cut there, with an `htf_close` still without a value when none of the
higher-timeframe bars has closed; and the first vectors are the run on the first records. -/
structure PointInTime (batch : SilverNormalizationBatch) (sma vol mom : Int)
    (higher : Option SilverNormalizationBatch) (vectors : List FeatureVector) : Prop where
  cut_runs : ∀ (i : Nat) (record : SilverOHLCTVRecord),
    batch.records[i]? = some (.ohlctv record) →
    ∃ v cut cutVectors last, vectors[i]? = some v ∧ v.featureTs = record.bar.closeTs ∧
      cutAt record.bar.closeTs batch = some cut ∧ cut.records = batch.records.take (i + 1) ∧
      buildTaFeatureVectors cut sma vol mom (higher.bind (cutAt record.bar.closeTs)) =
        .ok cutVectors ∧ cutVectors.getLast? = some last ∧
      (higher = none ∨ higher.bind (cutAt record.bar.closeTs) ≠ none → v = last) ∧
      (higher ≠ none → higher.bind (cutAt record.bar.closeTs) = none →
        AwaitsHigherTimeframe v last)
  first_records : ∀ (n : Nat) (short : SilverNormalizationBatch), SameScope short batch →
    short.records = batch.records.take n →
    buildTaFeatureVectors short sma vol mom higher = .ok (vectors.take n)

theorem ta_features_point_in_time {batch : SilverNormalizationBatch} {sma vol mom : Int}
    {higher : Option SilverNormalizationBatch} {vectors : List FeatureVector}
    (h : buildTaFeatureVectors batch sma vol mom higher = .ok vectors) :
    PointInTime batch sma vol mom higher vectors := by
  obtain ⟨hkind, haccepted, hwindows, hhigher, rfl⟩ :=
    (buildTaFeatureVectors_eq_ok_iff _ _ _ _ _ _).mp h
  have hrecords := map_ohlctvRecords hkind
  refine ⟨?_, ?_⟩
  · intro i record hi
    have hbar : batch.ohlctvRecords[i]? = some record := by
      rw [← hrecords, List.getElem?_map] at hi
      obtain ⟨r, hr, hcast⟩ := Option.map_eq_some_iff.mp hi
      cases hcast
      exact hr
    have htake := barsClosedBy_eq_take haccepted hbar
    -- the base batch has a cut: its own bar has closed
    obtain ⟨cut, hcut⟩ : ∃ cut, cutAt record.bar.closeTs batch = some cut := by
      rw [← Option.isSome_iff_exists, Option.isSome_iff_ne_none, Ne, cutAt_eq_none_iff hkind]
      refine List.ne_nil_of_mem (a := record) (List.mem_filter.mpr ⟨?_, by simp⟩)
      exact List.mem_of_getElem? hbar
    obtain ⟨hinstrument, hvenue, htimeframe, hkind', hcutRecords, hbars⟩ := cutAt_eq_some hcut
    rw [htake] at hbars
    have hhigherKind : ∀ hb ∈ higher, hb.dataKind = .ohlctv := fun hb hmem => (hhigher hb hmem).kind
    have hhigherBars := higherBars_cut record.bar.closeTs hhigherKind
    have hvector := getElem?_taVectors batch ⟨sma.toNat, vol.toNat, mom.toNat⟩ (higherBars higher)
      {} batch.ohlctvRecords i
    rw [hbar, Option.map_some] at hvector
    refine ⟨_, cut,
      taVectors cut ⟨sma.toNat, vol.toNat, mom.toNat⟩
        (higherBars (higher.bind (cutAt record.bar.closeTs))) {} cut.ohlctvRecords,
      taVector batch ⟨sma.toNat, vol.toNat, mom.toNat⟩
        (barsClosedBy record.bar.closeTs (higherBars higher))
        (BarHistory.readEach {} (batch.ohlctvRecords.take i)) record,
      hvector, rfl, hcut, ?_, ?_, ?_, ?_, ?_⟩
    · rw [hcutRecords, ← hrecords, filter_closedBy_map, htake, List.map_take]
    · refine (buildTaFeatureVectors_eq_ok_iff _ _ _ _ _ _).mpr
        ⟨hkind'.trans hkind, ?_, hwindows, ?_, rfl⟩
      · rw [htimeframe, hbars]
        exact haccepted.sublist (List.take_sublist _ _)
      · intro hb hmem
        obtain ⟨whole, hwhole, hcutHigher⟩ := Option.bind_eq_some_iff.mp hmem
        exact higherAccepted_of_cut (hhigher whole hwhole) hinstrument hvenue htimeframe hcutHigher
    · rw [hbars, hhigherBars, taVectors_congr _ _ hinstrument hvenue]
      exact getLast?_taVectors_take batch _ _ hbar
    · rintro (rfl | hclosed)
      · rfl
      · -- some higher bar has closed: the later ones change nothing
        refine (taVector_barsClosedBy batch _ _ record ?_).symm
        rw [← hhigherBars]
        refine higherBars_ne_nil (fun hb hmem => ?_) hclosed
        obtain ⟨whole, hwhole, hcutHigher⟩ := Option.bind_eq_some_iff.mp hmem
        exact (cutAt_eq_some hcutHigher).2.2.2.1.trans (hhigherKind whole hwhole)
    · intro hsome hnone
      have hnil : barsClosedBy record.bar.closeTs (higherBars higher) = [] := by
        rw [← hhigherBars, hnone]
        rfl
      rw [hnil]
      exact awaitsHigherTimeframe_taVector batch _ _ record
        (higherBars_ne_nil hhigherKind hsome) hnil
  · intro n short hscope hshort
    have hbars : short.ohlctvRecords = batch.ohlctvRecords.take n := by
      rw [SilverNormalizationBatch.ohlctvRecords, hshort, ← hrecords, ← List.map_take,
        List.filterMap_map]
      exact List.filterMap_some
    refine (buildTaFeatureVectors_eq_ok_iff _ _ _ _ _ _).mpr
      ⟨hscope.dataKind.trans hkind, ?_, hwindows, ?_, ?_⟩
    · rw [hscope.timeframe, hbars]
      exact haccepted.sublist (List.take_sublist _ _)
    · intro hb hmem
      obtain ⟨hinstrument, hvenue, hkindHigher, hbarsHigher, hlonger⟩ := hhigher hb hmem
      rw [← hscope.timeframe] at hlonger
      exact ⟨hinstrument.trans hscope.instrument.symm, hvenue.trans hscope.venue.symm, hkindHigher,
        hbarsHigher, hlonger⟩
    · rw [hbars, taVectors_congr _ _ hscope.instrument hscope.venue, taVectors_take]

/-! ## An hour that has not closed -/

def oneBarBatch (timeframe : String) (n : Int) : SilverNormalizationBatch :=
  batchOfBars "BTC-USD" "VENUE" timeframe [oneBar timeframe n] (List.cons_ne_nil _ _)
    (List.forall_mem_singleton.mpr ⟨rfl, rfl⟩)

theorem barsAccepted_oneBarBatch (timeframe : String) (n : Int) :
    BarsAccepted (oneBarBatch timeframe n).timeframe (oneBarBatch timeframe n).ohlctvRecords :=
  barsAccepted_batchOfBars (List.forall_mem_singleton.mpr rfl)
    (List.forall_mem_singleton.mpr (le_refl _)) (List.pairwise_singleton _ _)

/-- The run on one minute bar, with or without an hour bar. -/
theorem buildTaFeatureVectors_oneBarBatch (n : Int) (higher : Option SilverNormalizationBatch)
    (hhigher : ∀ hb ∈ higher, hb = oneBarBatch "1h" 60) :
    buildTaFeatureVectors (oneBarBatch "1m" n) 3 3 3 higher =
      .ok [taVector (oneBarBatch "1m" n) ⟨3, 3, 3⟩ (higherBars higher) {}
        (.ofBar "SOURCE" (oneBar "1m" n))] := by
  refine (buildTaFeatureVectors_eq_ok_iff _ _ _ _ _ _).mpr
    ⟨rfl, barsAccepted_oneBarBatch "1m" n, by decide, ?_, rfl⟩
  intro hb hmem
  obtain rfl := hhigher hb hmem
  have hbase : timeframeSeconds ((oneBarBatch "1m" n).timeframe.getD "") = .ok 60 := by
    simp [oneBarBatch, batchOfBars, timeframeSeconds, parseDigits]
  have hhour : timeframeSeconds ((oneBarBatch "1h" 60).timeframe.getD "") = .ok 3600 := by
    simp [oneBarBatch, batchOfBars, timeframeSeconds, parseDigits]
  exact ⟨rfl, rfl, rfl, barsAccepted_oneBarBatch "1h" 60, 60, 3600, hbase, hhour, by decide⟩

/-- Every vector is the last one of the run on both batches cut at its close. -/
def EqualsCutRun : Prop :=
  ∀ (batch : SilverNormalizationBatch) (sma vol mom : Int)
    (higher : Option SilverNormalizationBatch) (vectors : List FeatureVector),
    buildTaFeatureVectors batch sma vol mom higher = .ok vectors →
    ∀ (i : Nat) (record : SilverOHLCTVRecord), batch.records[i]? = some (.ohlctv record) →
      ∃ cut cutVectors, cutAt record.bar.closeTs batch = some cut ∧
        buildTaFeatureVectors cut sma vol mom (higher.bind (cutAt record.bar.closeTs)) =
          .ok cutVectors ∧
        vectors[i]? = cutVectors.getLast?

/-- The first minute of an hour: the hour has not closed, and its `htf_close` is there. -/
theorem not_equalsCutRun : ¬ EqualsCutRun := by
  intro h
  have hrun := buildTaFeatureVectors_oneBarBatch 1 (some (oneBarBatch "1h" 60))
    (fun hb hmem => (Option.some.inj hmem).symm)
  obtain ⟨cut, cutVectors, hcut, hcutRun, heq⟩ := h _ 3 3 3 _ _ hrun 0 _ rfl
  obtain rfl : oneBarBatch "1m" 1 = cut := Option.some.inj hcut
  have hopen : (some (oneBarBatch "1h" 60)).bind
      (cutAt (SilverOHLCTVRecord.ofBar "SOURCE" (oneBar "1m" 1)).bar.closeTs) = none := rfl
  rw [hopen, buildTaFeatureVectors_oneBarBatch 1 none nofun] at hcutRun
  cases hcutRun
  have hawaits : AwaitsHigherTimeframe
      (taVector (oneBarBatch "1m" 1) ⟨3, 3, 3⟩ (oneBarBatch "1h" 60).ohlctvRecords {}
        (.ofBar "SOURCE" (oneBar "1m" 1)))
      (taVector (oneBarBatch "1m" 1) ⟨3, 3, 3⟩ [] {} (.ofBar "SOURCE" (oneBar "1m" 1))) :=
    awaitsHigherTimeframe_taVector _ _ _ _ (List.cons_ne_nil _ _) rfl
  have hvector : taVector (oneBarBatch "1m" 1) ⟨3, 3, 3⟩ (oneBarBatch "1h" 60).ohlctvRecords {}
        (.ofBar "SOURCE" (oneBar "1m" 1)) =
      taVector (oneBarBatch "1m" 1) ⟨3, 3, 3⟩ [] {} (.ofBar "SOURCE" (oneBar "1m" 1)) :=
    Option.some.inj heq
  have hlength := congrArg List.length hawaits.values
  rw [hvector, List.length_append] at hlength
  exact absurd hlength (by simp)

omit [Sha256] in
/-- A minute of an hour that has not closed. -/
theorem ta_features_point_in_time_minute : ∃ vectors,
    @buildTaFeatureVectors hashlibSha256 (@oneBarBatch hashlibSha256 "1m" 1) 3 3 3
      (some (@oneBarBatch hashlibSha256 "1h" 60)) = .ok vectors ∧
    @PointInTime hashlibSha256 (@oneBarBatch hashlibSha256 "1m" 1) 3 3 3
      (some (@oneBarBatch hashlibSha256 "1h" 60)) vectors := by
  have hrun := @buildTaFeatureVectors_oneBarBatch hashlibSha256 1
    (some (@oneBarBatch hashlibSha256 "1h" 60)) fun hb hmem => (Option.some.inj hmem).symm
  exact ⟨_, hrun, @ta_features_point_in_time hashlibSha256 _ _ _ _ _ _ hrun⟩

omit [Sha256] in
/-- The open hour, with the digest of `hashlib`. -/
theorem open_hour_shows_in_vector : ¬ @EqualsCutRun hashlibSha256 :=
  @not_equalsCutRun hashlibSha256

end TaModel.Features
