import TaModel.Features.BarHistory
import Mathlib.Data.List.Nodup

/-!
# Technical-analysis features

`build_ta_feature_vectors` of `features/ta.py`: one vector for every bar of the base batch, from the
bars up to it and the higher-timeframe bars that have closed by its close.
-/

set_option autoImplicit false

namespace TaModel.Features

open Contracts Normalization

/-- `FEATURE_VERSION`. -/
def taFeatureVersion : String := "ta-pit-1.0.0"

/-- The messages of `_validate_ohlctv_batch`. -/
def taBatchMessages : BatchMessages where
  notOhlctv := "TA features require an OHLCTV silver batch"
  mixedRecords := "TA features require only OHLCTV silver records"

/-- `int(text)` of a digit string. -/
def parseDigits (digits : List Char) : Raises Nat :=
  if digits ≠ [] ∧ digits.all Char.isDigit then
    .ok (digits.foldl (fun n c => 10 * n + (c.toNat - '0'.toNat)) 0)
  else .error "invalid literal for int() with base 10"

/-- `_timeframe_seconds`. -/
def timeframeSeconds (timeframe : String) : Raises Nat :=
  match timeframe.toList.getLast? with
  | none => .error "string index out of range"
  | some unit => do
      let amount ← parseDigits timeframe.toList.dropLast
      if unit = 'm' then return amount * 60
      else if unit = 'h' then return amount * 60 * 60
      else if unit = 'd' then return amount * 60 * 60 * 24
      else .error "unsupported timeframe"

/-- The three windows, checked to be positive. -/
structure TaWindows where
  sma : Nat
  volatility : Nat
  momentum : Nat

namespace TaWindows

/-- The number of bars that `lookback_window` declares. -/
def bars (w : TaWindows) : Nat := max w.sma (max (w.volatility + 1) (w.momentum + 1))

/-- `lookback_window`. -/
def lookback (w : TaWindows) : String := "max(" ++ toString w.bars ++ " bars)"

end TaWindows

section Vectors

variable [Sha256]

/-- `_validate_higher_timeframe_batch`. -/
def validateHigherTimeframeBatch (base higher : SilverNormalizationBatch) :
    Raises (List SilverOHLCTVRecord) := do
  require (higher.instrumentId = base.instrumentId)
    "higher timeframe instrument scope must match"
  require (higher.venueId = base.venueId) "higher timeframe venue scope must match"
  let records ← validateOhlctvBatch taBatchMessages higher
  let higherSeconds ← timeframeSeconds (higher.timeframe.getD "")
  let baseSeconds ← timeframeSeconds (base.timeframe.getD "")
  require (baseSeconds < higherSeconds) "higher timeframe must be longer than base timeframe"
  return records

/-- `_latest_higher_timeframe_close`. -/
def latestHigherTimeframeClose (higher : List SilverOHLCTVRecord) (featureTs : AwareDatetime) :
    Option Decimal :=
  ((barsClosedBy featureTs higher).map fun record => (record.bar.close : Decimal)).getLast?

/-- The features of the base bars: `one_bar_return`, `sma_*`, `volatility_*`, `momentum_*`. -/
def baseValues (w : TaWindows) (history : BarHistory) (record : SilverOHLCTVRecord) :
    List (String × FeatureValue) :=
  let close : Decimal := record.bar.close
  let after := history.read record
  [ ("one_bar_return", history.nextReturn record),
    ("sma_" ++ toString w.sma,
      if w.sma ≤ after.closes.length then some (mean (lastN w.sma after.closes)) else none),
    ("volatility_" ++ toString w.volatility, after.volatilityOf w.volatility),
    ("momentum_" ++ toString w.momentum,
      if w.momentum ≤ history.closes.length then
        returnOf close after.closes[history.closes.length - w.momentum]?
      else none) ]

/-- The feature of the higher timeframe, when there is one. -/
def higherValues (higher : List SilverOHLCTVRecord) (featureTs : AwareDatetime) :
    List (String × FeatureValue) :=
  if higher.isEmpty then [] else [("htf_close", latestHigherTimeframeClose higher featureTs)]

/-- The feature names of a vector differ from each other. -/
theorem keys_nodup (w : TaWindows) (history : BarHistory) (record : SilverOHLCTVRecord)
    (higher : List SilverOHLCTVRecord) (featureTs : AwareDatetime) :
    ((baseValues w history record ++ higherValues higher featureTs).map Prod.fst).Nodup := by
  -- the names begin with different letters
  apply List.Nodup.of_map fun name => name.toList.head?
  have hletters : ((baseValues w history record).map Prod.fst).map (fun s => s.toList.head?) =
      [some 'o', some 's', some 'v', some 'm'] := by
    simp [baseValues, String.toList_append]
  rw [List.map_append, List.map_append, hletters, higherValues]
  cases higher.isEmpty <;> simp

/-- The feature vector of a bar. -/
def taVector (batch : SilverNormalizationBatch) (w : TaWindows) (higher : List SilverOHLCTVRecord)
    (history : BarHistory) (record : SilverOHLCTVRecord) : FeatureVector :=
  let featureTs := record.bar.closeTs
  let values : StringDict FeatureValue :=
    ⟨baseValues w history record ++ higherValues higher featureTs,
      keys_nodup w history record higher featureTs⟩
  let qualityFlags := qualityFlagsOf values.entries
  let inputRecordIds := (history.read record).recordIds ++
    (barsClosedBy featureTs higher).map SilverOHLCTVRecord.silverRecordId
  let inputSnapshotId := buildFeatureInputSnapshotId inputRecordIds
  { featureVectorId := buildFeatureVectorId batch.instrumentId batch.venueId featureTs
      taFeatureVersion w.lookback values inputSnapshotId qualityFlags,
    instrumentId := batch.instrumentId, venueId := batch.venueId, featureTs := featureTs,
    featureVersion := taFeatureVersion, lookbackWindow := w.lookback, values := values,
    inputSnapshotId := inputSnapshotId, qualityFlags := qualityFlags,
    values_nonempty := List.append_ne_nil_of_left_ne_nil (List.cons_ne_nil _ _) _,
    id_is_deterministic := rfl }

/-- The loop of `build_ta_feature_vectors`. -/
def taVectors (batch : SilverNormalizationBatch) (w : TaWindows)
    (higher : List SilverOHLCTVRecord) : BarHistory → List SilverOHLCTVRecord → List FeatureVector
  | _, [] => []
  | history, record :: records =>
      taVector batch w higher history record ::
        taVectors batch w higher (history.read record) records

/-- `build_ta_feature_vectors`. -/
def buildTaFeatureVectors (batch : SilverNormalizationBatch)
    (smaWindow volatilityWindow momentumWindow : Int)
    (higherTimeframeBatch : Option SilverNormalizationBatch) : Raises (List FeatureVector) := do
  let records ← validateOhlctvBatch taBatchMessages batch
  require (0 < smaWindow ∧ 0 < volatilityWindow ∧ 0 < momentumWindow)
    "feature windows must be positive"
  let higherRecords ←
    match higherTimeframeBatch with
    | none => pure []
    | some higher => validateHigherTimeframeBatch batch higher
  return taVectors batch ⟨smaWindow.toNat, volatilityWindow.toNat, momentumWindow.toNat⟩
    higherRecords {} records

/-! ## What a run is -/

/-- The higher-timeframe bars of a run. -/
def higherBars (higher : Option SilverNormalizationBatch) : List SilverOHLCTVRecord :=
  higher.elim [] SilverNormalizationBatch.ohlctvRecords

/-- The higher batch passes its checks against the base batch. -/
structure HigherAccepted (base higher : SilverNormalizationBatch) : Prop where
  instrument : higher.instrumentId = base.instrumentId
  venue : higher.venueId = base.venueId
  kind : higher.dataKind = .ohlctv
  bars : BarsAccepted higher.timeframe higher.ohlctvRecords
  longer : ∃ baseSeconds higherSeconds, timeframeSeconds (base.timeframe.getD "") = .ok baseSeconds ∧
    timeframeSeconds (higher.timeframe.getD "") = .ok higherSeconds ∧ baseSeconds < higherSeconds

theorem validateHigherTimeframeBatch_eq_ok_iff (base higher : SilverNormalizationBatch)
    (records : List SilverOHLCTVRecord) :
    validateHigherTimeframeBatch base higher = .ok records ↔
      HigherAccepted base higher ∧ higher.ohlctvRecords = records := by
  rw [validateHigherTimeframeBatch, check_bind_eq_ok_iff, check_bind_eq_ok_iff,
    require_eq_ok_iff, require_eq_ok_iff, bind_eq_ok_iff]
  constructor
  · rintro ⟨hinstrument, hvenue, bars, hbars, h⟩
    obtain ⟨hkind, haccepted, rfl⟩ := (validateOhlctvBatch_eq_ok_iff _ _ _).mp hbars
    obtain ⟨higherSeconds, hhigher, h⟩ := (bind_eq_ok_iff _ _ _).mp h
    obtain ⟨baseSeconds, hbase, h⟩ := (bind_eq_ok_iff _ _ _).mp h
    obtain ⟨hlonger, hrecords⟩ := (check_bind_eq_ok_iff _ _ _).mp h
    rw [require_eq_ok_iff] at hlonger
    exact ⟨⟨hinstrument, hvenue, hkind, haccepted, _, _, hbase, hhigher, hlonger⟩,
      Except.ok.inj hrecords⟩
  · rintro ⟨h, rfl⟩
    obtain ⟨baseSeconds, higherSeconds, hbase, hhigher, hlonger⟩ := h.longer
    refine ⟨h.instrument, h.venue, _,
      (validateOhlctvBatch_eq_ok_iff _ _ _).mpr ⟨h.kind, h.bars, rfl⟩, ?_⟩
    rw [hhigher, ok_bind, hbase, ok_bind, require_of hlonger]
    rfl

/-- A run of the engine: its inputs pass the checks and its output is the loop's. -/
theorem buildTaFeatureVectors_eq_ok_iff (batch : SilverNormalizationBatch) (sma vol mom : Int)
    (higher : Option SilverNormalizationBatch) (vectors : List FeatureVector) :
    buildTaFeatureVectors batch sma vol mom higher = .ok vectors ↔
      batch.dataKind = .ohlctv ∧ BarsAccepted batch.timeframe batch.ohlctvRecords ∧
      (0 < sma ∧ 0 < vol ∧ 0 < mom) ∧ (∀ hb ∈ higher, HigherAccepted batch hb) ∧
      taVectors batch ⟨sma.toNat, vol.toNat, mom.toNat⟩ (higherBars higher) {}
        batch.ohlctvRecords = vectors := by
  rw [buildTaFeatureVectors, bind_eq_ok_iff]
  constructor
  · rintro ⟨records, hrecords, h⟩
    obtain ⟨hkind, haccepted, rfl⟩ := (validateOhlctvBatch_eq_ok_iff _ _ _).mp hrecords
    obtain ⟨hwindows, h⟩ := (check_bind_eq_ok_iff _ _ _).mp h
    rw [require_eq_ok_iff] at hwindows
    cases higher with
    | none => exact ⟨hkind, haccepted, hwindows, nofun, Except.ok.inj h⟩
    | some hb =>
        obtain ⟨bars, hbars, h⟩ := (bind_eq_ok_iff _ _ _).mp h
        obtain ⟨hhigher, rfl⟩ := (validateHigherTimeframeBatch_eq_ok_iff _ _ _).mp hbars
        exact ⟨hkind, haccepted, hwindows, fun _ hmem => Option.some.inj hmem ▸ hhigher,
          Except.ok.inj h⟩
  · rintro ⟨hkind, haccepted, hwindows, hhigher, rfl⟩
    refine ⟨_, (validateOhlctvBatch_eq_ok_iff _ _ _).mpr ⟨hkind, haccepted, rfl⟩, ?_⟩
    rw [require_of hwindows, ok_bind]
    cases higher with
    | none => rfl
    | some hb =>
        have hbars : validateHigherTimeframeBatch batch hb = .ok hb.ohlctvRecords :=
          (validateHigherTimeframeBatch_eq_ok_iff _ _ _).mpr ⟨hhigher hb rfl, rfl⟩
        simp only [hbars]
        rfl

/-- The vector at a position is the one of its bar after the bars before it. -/
theorem getElem?_taVectors (batch : SilverNormalizationBatch) (w : TaWindows)
    (higher : List SilverOHLCTVRecord) (history : BarHistory) (records : List SilverOHLCTVRecord)
    (i : Nat) :
    (taVectors batch w higher history records)[i]? = records[i]?.map
      (taVector batch w higher (history.readEach (records.take i))) := by
  induction records generalizing history i with
  | nil => rfl
  | cons record records ih =>
      cases i with
      | zero => rfl
      | succ i => exact ih (history.read record) i

end Vectors

end TaModel.Features
