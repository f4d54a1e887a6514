import TaModel.Features.PointInTime
import TaModel.Features.LiquidityPointInTime
import Mathlib.Data.List.Induction

/-!
# Window locality of features

Which bars a feature depends on. A slice of the closes covers as many bars, but a bar after a zero
close has no return, so the last returns can come from bars before the window that the vector
declares. They come from the window exactly when it holds enough of them.
-/

set_option autoImplicit false

namespace TaModel.Features

open Contracts Normalization Library

variable [Sha256]

/-! ## Suffixes -/

omit [Sha256] in
theorem lastN_append_of_le {α : Type} {n : Nat} (front : List α) {back : List α}
    (h : n ≤ back.length) : lastN n (front ++ back) = lastN n back := by
  have hsplit : (front ++ back).length - n = front.length + (back.length - n) := by
    rw [List.length_append]
    omega
  rw [lastN, lastN, hsplit, ← List.drop_drop, List.drop_left]

omit [Sha256] in
theorem append_lastN {α : Type} (n : Nat) (values : List α) :
    values.take (values.length - n) ++ lastN n values = values :=
  List.take_append_drop _ values

omit [Sha256] in
theorem length_lastN {α : Type} {n : Nat} {values : List α} (h : n ≤ values.length) :
    (lastN n values).length = n := by
  rw [lastN, List.length_drop]
  omega

omit [Sha256] in
/-- The returns between neighbouring closes, where there is one. -/
def returnsOf : List Decimal → List Decimal
  | close :: next :: closes => (returnOf next (some close)).toList ++ returnsOf (next :: closes)
  | _ => []

omit [Sha256] in
/-- The returns of a stream are those before a close followed by those after it. -/
theorem returnsOf_append_cons (front : List Decimal) (close : Decimal) (back : List Decimal) :
    returnsOf (front ++ close :: back) =
      returnsOf (front ++ [close]) ++ returnsOf (close :: back) := by
  induction front with
  | nil => rfl
  | cons first front ih =>
      cases front with
      | nil => simp [returnsOf]
      | cons second front =>
          simp only [List.cons_append, returnsOf, List.append_assoc] at ih ⊢
          rw [ih]

omit [Sha256] in
theorem returnsOf_concat (closes : List Decimal) (close : Decimal) :
    returnsOf (closes ++ [close]) =
      returnsOf closes ++ (returnOf close closes.getLast?).toList := by
  rcases List.eq_nil_or_concat closes with rfl | ⟨front, last, rfl⟩
  · rfl
  · rw [List.concat_eq_append, List.append_assoc, List.singleton_append, returnsOf_append_cons]
    simp [returnsOf]

omit [Sha256] in
/-- Every close but the last has a return after it, unless it is zero. -/
theorem length_returnsOf (closes : List Decimal) :
    (returnsOf closes).length = closes.dropLast.countP fun close => decide (close ≠ 0) := by
  induction closes with
  | nil => rfl
  | cons close closes ih =>
      cases closes with
      | nil => rfl
      | cons next closes =>
          rw [returnsOf, List.length_append, ih, List.dropLast_cons_cons, List.countP_cons]
          by_cases hzero : close = 0
          · simp [returnOf, hzero]
          · simp [returnOf, hzero, Nat.add_comm]

/-! ## The accumulators of a run -/

/-- The closes of some bars. -/
def closesOf (records : List SilverOHLCTVRecord) : List Decimal :=
  records.map fun record => record.bar.close.val

theorem readEach_concat (history : BarHistory) (records : List SilverOHLCTVRecord)
    (record : SilverOHLCTVRecord) :
    history.readEach (records ++ [record]) = (history.readEach records).read record := by
  rw [BarHistory.readEach, List.foldl_concat]
  rfl

theorem closes_readEach (records : List SilverOHLCTVRecord) :
    (BarHistory.readEach {} records).closes = closesOf records := by
  induction records using List.reverseRecOn with
  | nil => rfl
  | append_singleton records record ih =>
      rw [readEach_concat, BarHistory.read, ih, closesOf, closesOf, List.map_append]
      rfl

/-- The loop's returns are those between its closes. -/
theorem returns_readEach (records : List SilverOHLCTVRecord) :
    (BarHistory.readEach {} records).returns = returnsOf (closesOf records) := by
  induction records using List.reverseRecOn with
  | nil => rfl
  | append_singleton records record ih =>
      rw [readEach_concat, BarHistory.read, ih, BarHistory.nextReturn, closes_readEach, closesOf,
        closesOf, List.map_append, List.map_singleton, returnsOf_concat]

/-- The volatility at the end of a stream of closes. -/
def volatilityAt (n : Nat) (closes : List Decimal) : Option Decimal :=
  if n ≤ (returnsOf closes).length then some (volatility (lastN n (returnsOf closes))) else none

theorem volatilityOf_readEach (n : Nat) (records : List SilverOHLCTVRecord) :
    (BarHistory.readEach {} records).volatilityOf n = volatilityAt n (closesOf records) := by
  rw [BarHistory.volatilityOf, returns_readEach]
  rfl

omit [Sha256] in
/-- Enough returns inside the window hide what is before it. -/
theorem volatilityAt_append {n : Nat} (front : List Decimal) {window : List Decimal}
    (h : n ≤ (returnsOf window).length) :
    volatilityAt n (front ++ window) = volatilityAt n window := by
  cases window with
  | nil =>
      have hzero : n = 0 := Nat.le_zero.mp h
      simp [volatilityAt, hzero, lastN]
  | cons close window =>
      have hlong : n ≤ (returnsOf (front ++ close :: window)).length := by
        rw [returnsOf_append_cons, List.length_append]
        omega
      rw [volatilityAt, volatilityAt, if_pos hlong, if_pos h, returnsOf_append_cons,
        lastN_append_of_le _ h]

/-! ## The values at a bar -/

/-- The return of the last close over the close `k` bars before it. -/
def returnOver (k : Nat) (closes : List Decimal) : Option Decimal :=
  closes.getLast?.bind fun close => returnOf close closes[closes.length - 1 - k]?

omit [Sha256] in
theorem returnOver_append {k : Nat} (front : List Decimal) {window : List Decimal}
    (h : k + 1 ≤ window.length) : returnOver k (front ++ window) = returnOver k window := by
  have hne : window ≠ [] := List.ne_nil_of_length_pos (by omega)
  have hindex : (front ++ window).length - 1 - k = front.length + (window.length - 1 - k) := by
    rw [List.length_append]
    omega
  have hget : (front ++ window)[(front ++ window).length - 1 - k]? =
      window[window.length - 1 - k]? := by
    rw [hindex, List.getElem?_append_right (Nat.le_add_right _ _), Nat.add_sub_cancel_left]
  rw [returnOver, returnOver, hget, List.getLast?_append_of_ne_nil _ hne]

/-- With enough bars, the values are slices of the closes up to the bar. -/
theorem baseValues_eq {w : TaWindows} {history : BarHistory} {record : SilverOHLCTVRecord}
    {closes : List Decimal} (hcloses : (history.read record).closes = closes)
    (hvolatility : 0 < w.volatility) (h : w.bars ≤ closes.length) :
    baseValues w history record =
      [ ("one_bar_return", returnOver 1 closes),
        ("sma_" ++ toString w.sma, some (mean (lastN w.sma closes))),
        ("volatility_" ++ toString w.volatility,
          (history.read record).volatilityOf w.volatility),
        ("momentum_" ++ toString w.momentum, returnOver w.momentum closes) ] := by
  have hsplit : history.closes ++ [record.bar.close.val] = closes := hcloses
  have hlength : closes.length = history.closes.length + 1 := by
    rw [← hsplit, List.length_append, List.length_singleton]
  rw [TaWindows.bars] at h
  have hlast : closes.getLast? = some record.bar.close.val := by
    rw [← hsplit, List.getLast?_concat]
  have hone : history.nextReturn record = returnOver 1 closes := by
    have hprevious : closes[closes.length - 1 - 1]? = history.closes.getLast? := by
      rw [List.getLast?_eq_getElem?, hlength, Nat.add_sub_cancel, ← hsplit,
        List.getElem?_append_left (by omega)]
    rw [BarHistory.nextReturn, returnOver, hlast, Option.bind_some, hprevious]
  have hmomentum : closes[closes.length - 1 - w.momentum]? =
      closes[history.closes.length - w.momentum]? := by
    rw [hlength, Nat.add_sub_cancel]
  simp only [baseValues, hone, hcloses]
  rw [if_pos (by omega), if_pos (by omega), returnOver, returnOver, hlast, Option.bind_some,
    Option.bind_some, hmomentum]

/-! ## Windows -/

/-- The `n` bars that end at index `i`. -/
def barsEndingAt (n i : Nat) (records : List SilverOHLCTVRecord) : List OHLCTVBar :=
  lastN n ((records.take (i + 1)).map SilverOHLCTVRecord.bar)

/-- The closes of some bars. -/
def barCloses (bars : List OHLCTVBar) : List Decimal := bars.map fun bar => bar.close.val

/-- How many of the bars before the last one have a return after them. -/
def returnCount (bars : List OHLCTVBar) : Nat :=
  bars.dropLast.countP fun bar => decide (bar.close.val ≠ 0)

omit [Sha256] in
theorem length_returnsOf_barCloses (bars : List OHLCTVBar) :
    (returnsOf (barCloses bars)).length = returnCount bars := by
  rw [length_returnsOf, barCloses, ← List.map_dropLast, List.countP_map]
  rfl

/-- The closes up to a bar end with those of its window. -/
theorem closesOf_take (n i : Nat) (records : List SilverOHLCTVRecord) :
    ∃ front, closesOf (records.take (i + 1)) = front ++ barCloses (barsEndingAt n i records) := by
  refine ⟨_, (append_lastN n _).symm.trans (congrArg _ ?_)⟩
  rw [barsEndingAt, barCloses, lastN, lastN, List.map_drop, List.map_map, List.length_map,
    closesOf, List.length_map]
  rfl

theorem length_barsEndingAt {n i : Nat} {records : List SilverOHLCTVRecord}
    (hn : n ≤ i + 1) (hi : i < records.length) : (barsEndingAt n i records).length = n := by
  apply length_lastN
  rw [List.length_map, List.length_take]
  omega

/-! ## Streams with a given window -/

/-- Bars of one instrument, venue and timeframe that the engines accept. -/
structure RegularBars (instrumentId venueId timeframe : String) (bars : List OHLCTVBar) : Prop where
  scope : ∀ bar ∈ bars, bar.instrumentId = instrumentId ∧ bar.venueId = venueId
  timeframe_matches : ∀ bar ∈ bars, bar.timeframe = timeframe
  available : ∀ bar ∈ bars, bar.sourceTs ≤ bar.closeTs
  increasing : bars.Pairwise fun bar bar' => bar.closeTs < bar'.closeTs

/-- The windows of an accepted batch are regular. -/
theorem regularBars_barsEndingAt {batch : SilverNormalizationBatch} {timeframe : String}
    (htimeframe : batch.timeframe = some timeframe)
    (h : BarsAccepted batch.timeframe batch.ohlctvRecords) (n i : Nat) :
    RegularBars batch.instrumentId batch.venueId timeframe
      (barsEndingAt n i batch.ohlctvRecords) := by
  have hsub : (barsEndingAt n i batch.ohlctvRecords).Sublist
      (batch.ohlctvRecords.map SilverOHLCTVRecord.bar) :=
    (List.drop_sublist _ _).trans ((List.take_sublist _ _).map _)
  have hrecord : ∀ bar ∈ barsEndingAt n i batch.ohlctvRecords,
      ∃ r ∈ batch.ohlctvRecords, r.bar = bar :=
    fun bar hbar => List.mem_map.mp (hsub.subset hbar)
  refine ⟨?_, ?_, ?_, ?_⟩
  · intro bar hbar
    obtain ⟨r, hr, rfl⟩ := hrecord bar hbar
    obtain ⟨silver, hsilver, hcast⟩ := List.mem_filterMap.mp hr
    cases silver with
    | trade t => cases hcast
    | ohlctv r' =>
        cases hcast
        obtain ⟨-, hvenue, hinstrument⟩ := batch.records_match_scope _ hsilver
        exact ⟨r.instrument_of_bar.trans hinstrument, r.venue_of_bar.trans hvenue⟩
  · intro bar hbar
    obtain ⟨r, hr, rfl⟩ := hrecord bar hbar
    have hmatches := h.timeframe_matches r hr
    rw [htimeframe] at hmatches
    exact r.timeframe_of_bar.trans (Option.some.inj hmatches)
  · intro bar hbar
    obtain ⟨r, hr, rfl⟩ := hrecord bar hbar
    exact h.available r hr
  · exact ((List.pairwise_map (f := SilverOHLCTVRecord.bar)).mpr h.increasing).sublist hsub

/-- `n` bars with a close of one, before an instant. -/
def quietBars (instrumentId venueId timeframe : String) (before : AwareDatetime) (n : Nat) :
    List OHLCTVBar :=
  (List.range n).map fun k : Nat =>
    quietBar instrumentId venueId timeframe ⟨before.utc - n + k, before.offset⟩
      ⟨1, Decimal.zero_le_one⟩

omit [Sha256] in
theorem barCloses_quietBars (instrumentId venueId timeframe : String) (before : AwareDatetime)
    (n : Nat) :
    barCloses (quietBars instrumentId venueId timeframe before n) = List.replicate n 1 := by
  rw [barCloses, quietBars, List.map_map, ← List.length_range (n := n), ← List.map_const']
  simp only [List.length_range]
  rfl

omit [Sha256] in
/-- Quiet bars may come before a regular stream. -/
theorem regularBars_quietBars {instrumentId venueId timeframe : String} {first : OHLCTVBar}
    {bars : List OHLCTVBar} (h : RegularBars instrumentId venueId timeframe (first :: bars))
    (n : Nat) :
    RegularBars instrumentId venueId timeframe
      (quietBars instrumentId venueId timeframe first.closeTs n ++ first :: bars) := by
  have hquiet : ∀ bar ∈ quietBars instrumentId venueId timeframe first.closeTs n,
      ∃ k < n, bar = quietBar instrumentId venueId timeframe
        ⟨first.closeTs.utc - n + (k : Nat), first.closeTs.offset⟩ ⟨1, by decide⟩ := by
    intro bar hbar
    obtain ⟨k, hk, rfl⟩ := List.mem_map.mp hbar
    exact ⟨k, List.mem_range.mp hk, rfl⟩
  refine ⟨?_, ?_, ?_, ?_⟩
  · refine List.forall_mem_append.mpr ⟨fun bar hbar => ?_, h.scope⟩
    obtain ⟨k, -, rfl⟩ := hquiet bar hbar
    exact ⟨rfl, rfl⟩
  · refine List.forall_mem_append.mpr ⟨fun bar hbar => ?_, h.timeframe_matches⟩
    obtain ⟨k, -, rfl⟩ := hquiet bar hbar
    rfl
  · refine List.forall_mem_append.mpr ⟨fun bar hbar => ?_, h.available⟩
    obtain ⟨k, -, rfl⟩ := hquiet bar hbar
    exact le_refl _
  · refine List.pairwise_append.mpr ⟨?_, h.increasing, ?_⟩
    · refine List.pairwise_map.mpr (List.pairwise_lt_range.imp ?_)
      intro k l hkl
      show first.closeTs.utc - n + (k : Nat) < first.closeTs.utc - n + (l : Nat)
      omega
    · intro bar hbar later hlater
      obtain ⟨k, hk, rfl⟩ := hquiet bar hbar
      have hfirst : first.closeTs.utc ≤ later.closeTs.utc := by
        rcases List.mem_cons.mp hlater with rfl | hmem
        · exact le_refl _
        · exact ((List.pairwise_cons.mp h.increasing).1 later hmem).le
      show first.closeTs.utc - n + (k : Nat) < later.closeTs.utc
      omega

/-- A window at the end of a stream. -/
theorem barsEndingAt_append (front : List OHLCTVBar) {window : List OHLCTVBar} {j : Nat}
    (hj : j + 1 = (front ++ window).length) :
    barsEndingAt window.length j ((front ++ window).map (SilverOHLCTVRecord.ofBar "SOURCE")) =
      window := by
  have hbars : ((front ++ window).map (SilverOHLCTVRecord.ofBar "SOURCE")).map
      SilverOHLCTVRecord.bar = front ++ window := by
    rw [List.map_map]
    exact List.map_id _
  rw [barsEndingAt, List.map_take, hbars, hj, List.take_length, lastN_append_of_le _ (le_refl _),
    lastN, Nat.sub_self, List.drop_zero]

omit [Sha256] in
/-- Two accepted streams of a window whose closes have too few returns: in one the returns run out,
in the other older bars supply them. -/
theorem exists_streams {instrumentId venueId timeframe : String} {window : List OHLCTVBar}
    (h : RegularBars instrumentId venueId timeframe window) (hne : window ≠ []) {n : Nat}
    (hfew : returnCount window < n) :
    ∃ front : List OHLCTVBar,
      RegularBars instrumentId venueId timeframe (front ++ window) ∧
      volatilityAt n (barCloses window) = none ∧
      volatilityAt n (barCloses (front ++ window)) ≠ none := by
  obtain ⟨first, rest, rfl⟩ := List.exists_cons_of_ne_nil hne
  refine ⟨quietBars instrumentId venueId timeframe first.closeTs n, regularBars_quietBars h n,
    ?_, ?_⟩
  · rw [volatilityAt, length_returnsOf_barCloses, if_neg (not_le.mpr hfew)]
  · have hmany : n ≤ (returnsOf (barCloses
        (quietBars instrumentId venueId timeframe first.closeTs n ++ first :: rest))).length := by
      rw [length_returnsOf, barCloses, List.map_append, List.dropLast_append_of_ne_nil (by simp),
        List.countP_append]
      have hquiet := barCloses_quietBars instrumentId venueId timeframe first.closeTs n
      rw [barCloses] at hquiet
      rw [hquiet, List.countP_replicate]
      simp
    rw [volatilityAt, if_pos hmany]
    exact Option.some_ne_none _

/-- The closes up to the last bar of a stream. -/
theorem closesOf_stream {instrumentId venueId timeframe : String} {bars : List OHLCTVBar}
    (hne : bars ≠ [])
    (hscope : ∀ bar ∈ bars, bar.instrumentId = instrumentId ∧ bar.venueId = venueId) :
    closesOf ((batchOfBars instrumentId venueId timeframe bars hne hscope).ohlctvRecords.take
      (bars.length - 1 + 1)) = barCloses bars := by
  rw [ohlctvRecords_batchOfBars, Nat.sub_add_cancel (List.length_pos_of_ne_nil hne),
    List.take_of_length_le (by rw [List.length_map]), closesOf, List.map_map]
  rfl

/-! ## Technical-analysis features -/

/-- The windows of a run. -/
def windowsOf (sma vol mom : Int) : TaWindows := ⟨sma.toNat, vol.toNat, mom.toNat⟩

/-- The names of the features that look back. -/
def taNames (w : TaWindows) : List String :=
  [ "one_bar_return", "sma_" ++ toString w.sma, "volatility_" ++ toString w.volatility,
    "momentum_" ++ toString w.momentum ]

/-- The values at a bar with enough bars before it. -/
theorem taValues_at {batch : SilverNormalizationBatch} {sma vol mom : Int}
    {higher : Option SilverNormalizationBatch} {vectors : List FeatureVector}
    (h : buildTaFeatureVectors batch sma vol mom higher = .ok vectors) {i : Nat}
    (hi : (windowsOf sma vol mom).bars - 1 ≤ i) {v : FeatureVector} (hv : vectors[i]? = some v) :
    ∃ front window, window = barCloses
        (barsEndingAt (windowsOf sma vol mom).bars i batch.ohlctvRecords) ∧
      closesOf (batch.ohlctvRecords.take (i + 1)) = front ++ window ∧
      (taNames (windowsOf sma vol mom)).map v.values.get =
        [ some (returnOver 1 window), some (some (mean (lastN sma.toNat window))),
          some (volatilityAt vol.toNat (front ++ window)),
          some (returnOver mom.toNat window) ] := by
  obtain ⟨-, -, ⟨hsma, hvol, hmom⟩, -, rfl⟩ := (buildTaFeatureVectors_eq_ok_iff _ _ _ _ _ _).mp h
  have hvector := getElem?_taVectors batch (windowsOf sma vol mom) (higherBars higher) {}
    batch.ohlctvRecords i
  rw [show (taVectors batch (windowsOf sma vol mom) (higherBars higher) {}
    batch.ohlctvRecords)[i]? = some v from hv] at hvector
  obtain ⟨record, hrecord, rfl⟩ := Option.map_eq_some_iff.mp hvector.symm
  obtain ⟨hlt, hget⟩ := List.getElem?_eq_some_iff.mp hrecord
  obtain ⟨front, hfront⟩ := closesOf_take (windowsOf sma vol mom).bars i batch.ohlctvRecords
  have hlength : (barCloses (barsEndingAt (windowsOf sma vol mom).bars i
      batch.ohlctvRecords)).length = (windowsOf sma vol mom).bars := by
    rw [barCloses, List.length_map, length_barsEndingAt (by omega) hlt]
  have hafter : (BarHistory.readEach {} (batch.ohlctvRecords.take i)).read record =
      BarHistory.readEach {} (batch.ohlctvRecords.take (i + 1)) := by
    rw [← readEach_concat, List.take_succ_eq_append_getElem hlt, hget]
  have hcloses : (BarHistory.read (BarHistory.readEach {} (batch.ohlctvRecords.take i))
      record).closes = front ++ barCloses (barsEndingAt (windowsOf sma vol mom).bars i
        batch.ohlctvRecords) := by
    rw [hafter, closes_readEach, hfront]
  have hvalues := baseValues_eq (w := windowsOf sma vol mom) hcloses (by simp only [windowsOf]; omega)
    (by rw [List.length_append]; omega)
  have hbars : sma.toNat ≤ (windowsOf sma vol mom).bars ∧ mom.toNat + 1 ≤
      (windowsOf sma vol mom).bars ∧ 2 ≤ (windowsOf sma vol mom).bars := by
    simp only [windowsOf, TaWindows.bars]
    omega
  rw [hafter, volatilityOf_readEach, hfront, returnOver_append front (by omega),
    returnOver_append front (by simp only [windowsOf] at *; omega),
    lastN_append_of_le front (by simp only [windowsOf] at *; omega)] at hvalues
  have hentry : ∀ {name : String} {value : FeatureValue},
      (name, value) ∈ baseValues (windowsOf sma vol mom)
        (BarHistory.readEach {} (batch.ohlctvRecords.take i)) record →
      (taVector batch (windowsOf sma vol mom) (higherBars higher)
        (BarHistory.readEach {} (batch.ohlctvRecords.take i)) record).values.get name =
        some value :=
    fun hmem => StringDict.get_of_mem (List.mem_append_left _ hmem)
  refine ⟨front, _, rfl, hfront, ?_⟩
  rw [hvalues] at hentry
  simp only [taNames, List.map_cons, List.map_nil]
  rw [hentry (List.mem_cons_self), hentry (List.mem_cons_of_mem _ List.mem_cons_self),
    hentry (List.mem_cons_of_mem _ (List.mem_cons_of_mem _ List.mem_cons_self)),
    hentry (List.mem_cons_of_mem _ (List.mem_cons_of_mem _ (List.mem_cons_of_mem _
      List.mem_cons_self)))]
  rfl

/-- The features that look back from index `i` are those of every bar with the same window. -/
def TaWindowLocal (sma vol mom : Int) (batch : SilverNormalizationBatch) (i : Nat)
    (v : FeatureVector) : Prop :=
  ∀ (batch' : SilverNormalizationBatch) (higher' : Option SilverNormalizationBatch)
    (vectors' : List FeatureVector) (j : Nat) (v' : FeatureVector),
    buildTaFeatureVectors batch' sma vol mom higher' = .ok vectors' →
    (windowsOf sma vol mom).bars - 1 ≤ j → vectors'[j]? = some v' →
    barsEndingAt (windowsOf sma vol mom).bars i batch.ohlctvRecords =
      barsEndingAt (windowsOf sma vol mom).bars j batch'.ohlctvRecords →
    ∀ name ∈ taNames (windowsOf sma vol mom), v.values.get name = v'.values.get name

/-- The run on a regular stream of bars. -/
theorem buildTaFeatureVectors_batchOfBars {instrumentId venueId timeframe : String}
    {bars : List OHLCTVBar} (h : RegularBars instrumentId venueId timeframe bars)
    (hne : bars ≠ []) {sma vol mom : Int} (hwindows : 0 < sma ∧ 0 < vol ∧ 0 < mom) :
    ∃ vectors, buildTaFeatureVectors
        (batchOfBars instrumentId venueId timeframe bars hne h.scope) sma vol mom none =
        .ok vectors ∧ vectors.length = bars.length := by
  refine ⟨_, (buildTaFeatureVectors_eq_ok_iff _ _ _ _ _ _).mpr
    ⟨rfl, barsAccepted_batchOfBars h.timeframe_matches h.available h.increasing, hwindows, nofun,
      rfl⟩, ?_⟩
  rw [length_taVectors, ohlctvRecords_batchOfBars, List.length_map]

/-- The volatility of a bar whose stream ends with it, for a stream with the window of another. -/
theorem volatility_of_stream {instrumentId venueId timeframe : String} {front window : List OHLCTVBar}
    (h : RegularBars instrumentId venueId timeframe (front ++ window)) {sma vol mom : Int}
    (hwindows : 0 < sma ∧ 0 < vol ∧ 0 < mom)
    (hlength : window.length = (windowsOf sma vol mom).bars) {batch : SilverNormalizationBatch}
    {i : Nat} (hwindow : barsEndingAt (windowsOf sma vol mom).bars i batch.ohlctvRecords = window)
    {v : FeatureVector} (hlocal : TaWindowLocal sma vol mom batch i v) :
    v.values.get ("volatility_" ++ toString vol.toNat) =
      some (volatilityAt vol.toNat (barCloses (front ++ window))) := by
  have hpos : 0 < (front ++ window).length := by
    rw [List.length_append, hlength, TaWindows.bars]
    omega
  obtain ⟨vectors, hrun, hcount⟩ :=
    buildTaFeatureVectors_batchOfBars h (List.ne_nil_of_length_pos hpos) hwindows
  have hlast : (front ++ window).length - 1 < vectors.length := by omega
  have hends : barsEndingAt (windowsOf sma vol mom).bars ((front ++ window).length - 1)
      (batchOfBars instrumentId venueId timeframe (front ++ window)
        (List.ne_nil_of_length_pos hpos) h.scope).ohlctvRecords = window := by
    rw [ohlctvRecords_batchOfBars, ← hlength]
    exact barsEndingAt_append front (by omega)
  have hlate : (windowsOf sma vol mom).bars - 1 ≤ (front ++ window).length - 1 := by
    rw [List.length_append]
    omega
  have hsame := hlocal _ none vectors _ _ hrun hlate (List.getElem?_eq_getElem hlast)
    (hwindow.trans hends.symm) ("volatility_" ++ toString vol.toNat)
    (by simp [taNames, windowsOf])
  obtain ⟨before, _, rfl, hcloses, hvalues⟩ :=
    taValues_at hrun hlate (List.getElem?_eq_getElem hlast)
  rw [← hcloses, closesOf_stream (List.ne_nil_of_length_pos hpos) h.scope] at hvalues
  have hvolatility := (List.cons.inj (List.cons.inj (List.cons.inj hvalues).2).2).1
  exact hsame.trans hvolatility

/-- A window of an accepted batch has the features of its last bar to itself exactly when enough of
its bars before the last have a return after them. -/
theorem taWindowLocal_iff {batch : SilverNormalizationBatch} {sma vol mom : Int}
    {higher : Option SilverNormalizationBatch} {vectors : List FeatureVector}
    (h : buildTaFeatureVectors batch sma vol mom higher = .ok vectors) {i : Nat}
    (hi : (windowsOf sma vol mom).bars - 1 ≤ i) {v : FeatureVector} (hv : vectors[i]? = some v) :
    TaWindowLocal sma vol mom batch i v ↔
      vol.toNat ≤ returnCount (barsEndingAt (windowsOf sma vol mom).bars i batch.ohlctvRecords) := by
  obtain ⟨front, window, hwindow, hcloses, hvalues⟩ := taValues_at h hi hv
  obtain ⟨hkind, haccepted, hwindows, -, hvectors⟩ :=
    (buildTaFeatureVectors_eq_ok_iff _ _ _ _ _ _).mp h
  have hlt : i < batch.ohlctvRecords.length := by
    rw [← length_taVectors batch (windowsOf sma vol mom) (higherBars higher) {}, windowsOf,
      hvectors]
    exact (List.getElem?_eq_some_iff.mp hv).1
  constructor
  · intro hlocal
    by_contra hfew
    obtain ⟨timeframe, htimeframe⟩ : ∃ timeframe, batch.timeframe = some timeframe :=
      Option.isSome_iff_exists.mp (batch.timeframe_of_kind.mpr hkind)
    have hregular := regularBars_barsEndingAt htimeframe haccepted (windowsOf sma vol mom).bars i
    have hlength : (barsEndingAt (windowsOf sma vol mom).bars i batch.ohlctvRecords).length =
        (windowsOf sma vol mom).bars := length_barsEndingAt (by omega) hlt
    have hne : barsEndingAt (windowsOf sma vol mom).bars i batch.ohlctvRecords ≠ [] := by
      apply List.ne_nil_of_length_pos
      rw [hlength, TaWindows.bars]
      omega
    -- the bare window has no volatility, the one with bars in front of it has
    obtain ⟨older, holder, hnone, hsome⟩ := exists_streams hregular hne (not_le.mp hfew)
    have hbare : v.values.get ("volatility_" ++ toString vol.toNat) =
        some (volatilityAt vol.toNat (barCloses
          (barsEndingAt (windowsOf sma vol mom).bars i batch.ohlctvRecords))) :=
      @volatility_of_stream _ _ _ _ [] _ hregular _ _ _ hwindows hlength _ _ rfl _ hlocal
    have hlong := volatility_of_stream holder hwindows hlength rfl hlocal
    rw [hnone] at hbare
    exact hsome (Option.some.inj (hlong.symm.trans hbare))
  · rintro hmany batch' higher' vectors' j v' h' hj hv' hsame
    obtain ⟨front', window', hwindow', hcloses', hvalues'⟩ := taValues_at h' hj hv'
    have hcount : vol.toNat ≤ (returnsOf window).length := by
      rw [hwindow, length_returnsOf_barCloses]
      exact hmany
    rw [← hsame, ← hwindow] at hwindow'
    rw [hwindow', volatilityAt_append front' hcount] at hvalues'
    rw [volatilityAt_append front hcount, ← hvalues'] at hvalues
    exact List.map_inj_left.mp hvalues

/-! ## Realized volatility -/

theorem realizedVolatility_at {batch : SilverNormalizationBatch}
    {quotes : List QuoteFeatureInput} {schedules : List FeeSchedule} {n : Int}
    {vectors : List FeatureVector}
    (h : buildLiquidityCostFeatureVectors batch quotes schedules n = .ok vectors) {i : Nat}
    {v : FeatureVector} (hv : vectors[i]? = some v) :
    i < batch.ohlctvRecords.length ∧
      v.values.get ("realized_volatility_" ++ toString n.toNat) =
        some (volatilityAt n.toNat (closesOf (batch.ohlctvRecords.take (i + 1)))) := by
  obtain ⟨-, -, -, -, history, hrun⟩ := (buildLiquidityCostFeatureVectors_eq_ok_iff _ _ _ _ _).mp h
  obtain ⟨record, quote, schedule, hrecord, -, -, rfl⟩ := liquidityVector_of_run hrun hv
  obtain ⟨hlt, hget⟩ := List.getElem?_eq_some_iff.mp hrecord
  have hafter : (BarHistory.readEach {} (batch.ohlctvRecords.take i)).read record =
      BarHistory.readEach {} (batch.ohlctvRecords.take (i + 1)) := by
    rw [← readEach_concat, List.take_succ_eq_append_getElem hlt, hget]
  refine ⟨hlt, StringDict.get_of_mem ?_⟩
  rw [← volatilityOf_readEach, ← hafter]
  simp [liquidityVector, liquidityValues]

/-- The realized volatility at index `i` is that of every bar with the same window. -/
def LiquidityWindowLocal (n : Int) (batch : SilverNormalizationBatch) (i : Nat)
    (v : FeatureVector) : Prop :=
  ∀ (batch' : SilverNormalizationBatch) (quotes' : List QuoteFeatureInput)
    (schedules' : List FeeSchedule) (vectors' : List FeatureVector) (j : Nat) (v' : FeatureVector),
    buildLiquidityCostFeatureVectors batch' quotes' schedules' n = .ok vectors' →
    n.toNat ≤ j → vectors'[j]? = some v' →
    barsEndingAt (n.toNat + 1) i batch.ohlctvRecords =
      barsEndingAt (n.toNat + 1) j batch'.ohlctvRecords →
    v.values.get ("realized_volatility_" ++ toString n.toNat) =
      v'.values.get ("realized_volatility_" ++ toString n.toNat)

theorem realizedVolatility_of_stream {instrumentId venueId timeframe : String}
    {front window : List OHLCTVBar}
    (h : RegularBars instrumentId venueId timeframe (front ++ window)) {n : Int} (hn : 0 < n)
    (hlength : window.length = n.toNat + 1) {batch : SilverNormalizationBatch} {i : Nat}
    (hwindow : barsEndingAt (n.toNat + 1) i batch.ohlctvRecords = window) {v : FeatureVector}
    (hlocal : LiquidityWindowLocal n batch i v) :
    v.values.get ("realized_volatility_" ++ toString n.toNat) =
      some (volatilityAt n.toNat (barCloses (front ++ window))) := by
  have hpos : 0 < (front ++ window).length := by
    rw [List.length_append]
    omega
  have hne := List.ne_nil_of_length_pos hpos
  obtain ⟨first, rest, hbars⟩ := List.exists_cons_of_ne_nil hne
  have hrecords := ohlctvRecords_batchOfBars instrumentId venueId timeframe (front ++ window) hne
    h.scope
  have hlate : ∀ r ∈ (batchOfBars instrumentId venueId timeframe (front ++ window) hne
      h.scope).ohlctvRecords, first.closeTs ≤ r.bar.closeTs := by
    intro r hr
    rw [hrecords, hbars] at hr
    obtain ⟨bar, hbar, rfl⟩ := List.mem_map.mp hr
    have hincreasing := h.increasing
    rw [hbars] at hincreasing
    rcases List.mem_cons.mp hbar with rfl | hmem
    · exact le_refl _
    · exact ((List.pairwise_cons.mp hincreasing).1 bar hmem).le
  obtain ⟨vectors, hrun, hcount⟩ := exists_liquidity_run rfl
    (barsAccepted_batchOfBars h.timeframe_matches h.available h.increasing) hn hlate
  rw [hrecords, List.length_map] at hcount
  have hlast : (front ++ window).length - 1 < vectors.length := by omega
  have hends : barsEndingAt (n.toNat + 1) ((front ++ window).length - 1)
      (batchOfBars instrumentId venueId timeframe (front ++ window) hne h.scope).ohlctvRecords =
        window := by
    rw [hrecords, ← hlength]
    exact barsEndingAt_append front (by omega)
  have hsame := hlocal _ _ _ vectors ((front ++ window).length - 1) _ hrun
    (by rw [List.length_append]; omega) (List.getElem?_eq_getElem hlast)
    (hwindow.trans hends.symm)
  obtain ⟨-, hvalue⟩ := realizedVolatility_at hrun (List.getElem?_eq_getElem hlast)
  rw [closesOf_stream hne h.scope] at hvalue
  exact hsame.trans hvalue

theorem liquidityWindowLocal_iff {batch : SilverNormalizationBatch}
    {quotes : List QuoteFeatureInput} {schedules : List FeeSchedule} {n : Int}
    {vectors : List FeatureVector}
    (h : buildLiquidityCostFeatureVectors batch quotes schedules n = .ok vectors) {i : Nat}
    (hi : n.toNat ≤ i) {v : FeatureVector} (hv : vectors[i]? = some v) :
    LiquidityWindowLocal n batch i v ↔
      n.toNat ≤ returnCount (barsEndingAt (n.toNat + 1) i batch.ohlctvRecords) := by
  obtain ⟨hlt, hvalue⟩ := realizedVolatility_at h hv
  obtain ⟨front, hcloses⟩ := closesOf_take (n.toNat + 1) i batch.ohlctvRecords
  obtain ⟨hn, ⟨hkind, haccepted⟩, -, -, -⟩ :=
    (buildLiquidityCostFeatureVectors_eq_ok_iff _ _ _ _ _).mp h
  constructor
  · intro hlocal
    by_contra hfew
    obtain ⟨timeframe, htimeframe⟩ : ∃ timeframe, batch.timeframe = some timeframe :=
      Option.isSome_iff_exists.mp (batch.timeframe_of_kind.mpr hkind)
    have hregular := regularBars_barsEndingAt htimeframe haccepted (n.toNat + 1) i
    have hlength : (barsEndingAt (n.toNat + 1) i batch.ohlctvRecords).length = n.toNat + 1 :=
      length_barsEndingAt (by omega) hlt
    have hne : barsEndingAt (n.toNat + 1) i batch.ohlctvRecords ≠ [] := by
      apply List.ne_nil_of_length_pos
      rw [hlength]
      omega
    obtain ⟨older, holder, hnone, hsome⟩ := exists_streams hregular hne (not_le.mp hfew)
    have hbare : v.values.get ("realized_volatility_" ++ toString n.toNat) =
        some (volatilityAt n.toNat (barCloses (barsEndingAt (n.toNat + 1) i batch.ohlctvRecords))) :=
      @realizedVolatility_of_stream _ _ _ _ [] _ hregular _ hn hlength _ _ rfl _ hlocal
    have hlong := realizedVolatility_of_stream holder hn hlength rfl hlocal
    rw [hnone] at hbare
    exact hsome (Option.some.inj (hlong.symm.trans hbare))
  · rintro hmany batch' quotes' schedules' vectors' j v' h' hj hv' hsame
    obtain ⟨hlt', hvalue'⟩ := realizedVolatility_at h' hv'
    obtain ⟨front', hcloses'⟩ := closesOf_take (n.toNat + 1) j batch'.ohlctvRecords
    have hcount : n.toNat ≤ (returnsOf (barCloses
        (barsEndingAt (n.toNat + 1) i batch.ohlctvRecords))).length := by
      rw [length_returnsOf_barCloses]
      exact hmany
    rw [hvalue, hvalue', hcloses, hcloses', ← hsame, volatilityAt_append front hcount,
      volatilityAt_append front' hcount]

/-- The features of a bar depend on no bar before its window exactly when, of the bars of the window
before the last, as many as the volatility window have a nonzero close. -/
theorem features_window_local_iff :
    (∀ (batch : SilverNormalizationBatch) (sma vol mom : Int)
      (higher : Option SilverNormalizationBatch) (vectors : List FeatureVector) (i : Nat)
      (v : FeatureVector), buildTaFeatureVectors batch sma vol mom higher = .ok vectors →
      (windowsOf sma vol mom).bars - 1 ≤ i → vectors[i]? = some v →
      (TaWindowLocal sma vol mom batch i v ↔ vol.toNat ≤
        returnCount (barsEndingAt (windowsOf sma vol mom).bars i batch.ohlctvRecords))) ∧
    ∀ (batch : SilverNormalizationBatch) (quotes : List QuoteFeatureInput)
      (schedules : List FeeSchedule) (n : Int) (vectors : List FeatureVector) (i : Nat)
      (v : FeatureVector), buildLiquidityCostFeatureVectors batch quotes schedules n = .ok vectors →
      n.toNat ≤ i → vectors[i]? = some v →
      (LiquidityWindowLocal n batch i v ↔ n.toNat ≤
        returnCount (barsEndingAt (n.toNat + 1) i batch.ohlctvRecords)) := by
  refine ⟨?_, ?_⟩
  · intro batch sma vol mom higher vectors i v h hi hv
    exact taWindowLocal_iff h hi hv
  · intro batch quotes schedules n vectors i v h hi hv
    exact liquidityWindowLocal_iff h hi hv

/-! ## A bar that closes at zero -/

/-- Two minutes; the first one closes at zero. -/
def zeroThenOne : List OHLCTVBar :=
  [ quietBar "BTC-USD" "VENUE" "1m" (minuteClose 1) ⟨0, Decimal.zero_le_zero⟩,
    quietBar "BTC-USD" "VENUE" "1m" (minuteClose 2) ⟨1, Decimal.zero_le_one⟩ ]

omit [Sha256] in
theorem regularBars_zeroThenOne : RegularBars "BTC-USD" "VENUE" "1m" zeroThenOne where
  scope := by
    rintro bar (_ | ⟨_, _ | ⟨_, hnil⟩⟩)
    · exact ⟨rfl, rfl⟩
    · exact ⟨rfl, rfl⟩
    · cases hnil
  timeframe_matches := by
    rintro bar (_ | ⟨_, _ | ⟨_, hnil⟩⟩)
    · rfl
    · rfl
    · cases hnil
  available := by
    rintro bar (_ | ⟨_, _ | ⟨_, hnil⟩⟩)
    · exact le_refl _
    · exact le_refl _
    · cases hnil
  increasing := List.pairwise_pair.mpr (by decide)

theorem not_taWindowLocal_zeroThenOne : ∃ batch vectors v,
    buildTaFeatureVectors batch 1 1 1 none = .ok vectors ∧ vectors[1]? = some v ∧
      ¬ TaWindowLocal 1 1 1 batch 1 v := by
  have hne : zeroThenOne ≠ [] := List.cons_ne_nil _ _
  have hwindows : (0 : Int) < 1 ∧ (0 : Int) < 1 ∧ (0 : Int) < 1 := by decide
  obtain ⟨vectors, hrun, hlength⟩ :=
    buildTaFeatureVectors_batchOfBars regularBars_zeroThenOne hne hwindows
  have hlt : 1 < vectors.length := by
    rw [hlength]
    decide
  have hwindow : barsEndingAt (windowsOf 1 1 1).bars 1 (batchOfBars "BTC-USD" "VENUE" "1m"
      zeroThenOne hne regularBars_zeroThenOne.scope).ohlctvRecords = zeroThenOne := by
    rw [ohlctvRecords_batchOfBars]
    exact barsEndingAt_append [] rfl
  refine ⟨_, vectors, vectors[1], hrun, List.getElem?_eq_getElem hlt, ?_⟩
  rw [taWindowLocal_iff hrun (by decide) (List.getElem?_eq_getElem hlt), hwindow]
  decide

omit [Sha256] in
/-- The two minutes, with the digest of `hashlib`: the volatility of the second depends on the bars
before the first. -/
theorem zero_close_reaches_before_window : ∃ batch vectors v,
    @buildTaFeatureVectors hashlibSha256 batch 1 1 1 none = .ok vectors ∧ vectors[1]? = some v ∧
      ¬ @TaWindowLocal hashlibSha256 1 1 1 batch 1 v :=
  @not_taWindowLocal_zeroThenOne hashlibSha256

end TaModel.Features
