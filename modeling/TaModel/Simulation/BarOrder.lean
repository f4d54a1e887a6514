import TaModel.Contracts.IsoOrder
import TaModel.Simulation.BarStream
import TaModel.Simulation.Causality

/-!
# Bar order and UTC offsets

Most checks of `_validate_bars_are_safe` compare instants. The order of the whole stream is checked
on the `isoformat` texts of the closes, which compare wall-clock readings. The two orders agree when
all closes carry one offset. With mixed offsets a stream of decreasing instants can be accepted, and
the same stream written in UTC is refused.
-/

set_option autoImplicit false

namespace TaModel.Simulation

open TaModel.Contracts TaModel.Library AwareDatetime

/-! ## Spellings of a stream -/

/-- The same instant written at offset zero. -/
def inUtc (t : AwareDatetime) : AwareDatetime := { t with offset := 0 }

/-- The bar with its times written at offset zero. Two bars that are equal up to their offsets have
one such bar. -/
def barInUtc (bar : OHLCTVBar) : OHLCTVBar :=
  { bar with
    openTs := inUtc bar.openTs, closeTs := inUtc bar.closeTs, sourceTs := inUtc bar.sourceTs,
    open_before_close := bar.open_before_close }

/-- Corresponding bars are equal up to the offsets of their times. -/
def SameInstants (bars bars' : List OHLCTVBar) : Prop := bars'.map barInUtc = bars.map barInUtc

theorem safeStream_map_inUtc (bars : List OHLCTVBar) :
    SafeStream (bars.map barInUtc) ↔ SafeStream bars := by
  constructor
  · rintro ⟨hsource, hframe, hdisjoint⟩
    refine ⟨?_, List.pairwise_map.mp hframe, List.pairwise_map.mp hdisjoint⟩
    intro bar hbar
    exact hsource (barInUtc bar) (List.mem_map_of_mem hbar)
  · rintro ⟨hsource, hframe, hdisjoint⟩
    refine ⟨?_, List.pairwise_map.mpr hframe, List.pairwise_map.mpr hdisjoint⟩
    intro bar hbar
    obtain ⟨original, hmem, rfl⟩ := List.mem_map.mp hbar
    exact hsource original hmem

/-- The checks on instants give the same verdict on every spelling. -/
theorem SameInstants.safeStream_iff {bars bars' : List OHLCTVBar} (h : SameInstants bars bars') :
    SafeStream bars' ↔ SafeStream bars := by
  rw [← safeStream_map_inUtc bars', ← safeStream_map_inUtc bars]
  exact iff_of_eq (congrArg SafeStream h)

/-! ## The two orders -/

/-- The names a bar is ordered by behind its close. -/
def streamNames (bar : OHLCTVBar) : List String := [bar.instrumentId, bar.venueId, bar.timeframe]

/-- By the wall-clock reading of the close, the text of its offset and the names. -/
def ReadingLe (a b : OHLCTVBar) : Prop :=
  localMicros a.closeTs < localMicros b.closeTs ∨
    (localMicros a.closeTs = localMicros b.closeTs ∧
      (offsetText a.closeTs.offset < offsetText b.closeTs.offset ∨
        (offsetText a.closeTs.offset = offsetText b.closeTs.offset ∧
          streamNames a ≤ streamNames b)))

/-- By the instant of the close and the names. -/
def InstantLe (a b : OHLCTVBar) : Prop :=
  a.closeTs < b.closeTs ∨ (a.closeTs.utc = b.closeTs.utc ∧ streamNames a ≤ streamNames b)

/-- Every bar comes after the earlier ones by wall-clock reading. -/
def OrderedByReading (bars : List OHLCTVBar) : Prop := bars.Pairwise ReadingLe

/-- Every bar comes after the earlier ones by instant. -/
def OrderedByInstant (bars : List OHLCTVBar) : Prop := bars.Pairwise InstantLe

/-- The closes never go back in time, across all markets. -/
def ClosesNondecreasing (bars : List OHLCTVBar) : Prop :=
  bars.Pairwise fun a b => a.closeTs ≤ b.closeTs

/-- No two bars of one instrument, venue and timeframe share a close instant. -/
def ClosesDistinct (bars : List OHLCTVBar) : Prop :=
  bars.Pairwise fun a b => a.streamKey = b.streamKey → a.closeTs.utc ≠ b.closeTs.utc

/-- All closes carry one offset. -/
def OneOffset (bars : List OHLCTVBar) : Prop :=
  ∃ offset, ∀ bar ∈ bars, bar.closeTs.offset = offset

theorem globalKey_le_iff {a b : OHLCTVBar} (ha : Representable a.closeTs)
    (hb : Representable b.closeTs) : globalKey a ≤ globalKey b ↔ ReadingLe a b := by
  have hkey : globalKey a ≤ globalKey b ↔ a.closeTs.isoformat < b.closeTs.isoformat ∨
      (a.closeTs.isoformat = b.closeTs.isoformat ∧ streamNames a ≤ streamNames b) :=
    cons_le_cons_iff
  rw [hkey, isoformat_lt_iff ha hb, isoformat_eq_iff ha hb]
  unfold ReadingLe
  rw [or_assoc, and_assoc, ← and_or_left]

/-- In a stream of disjoint bars the closes of one instrument, venue and timeframe differ. -/
theorem closesDistinct_of_safeStream {bars : List OHLCTVBar} (h : SafeStream bars) :
    ClosesDistinct bars := by
  refine h.disjoint.imp ?_
  intro a b hdisjoint hstream hsame
  have hclose : a.closeTs ≤ b.openTs := hdisjoint hstream
  have hopen := b.open_before_close
  rw [AwareDatetime.le_def] at hclose
  rw [AwareDatetime.lt_def] at hopen
  omega

/-- On the times a `datetime` can hold, the text checks add the order by wall-clock reading and
nothing else. -/
theorem safeTexts_iff {bars : List OHLCTVBar} (hsafe : SafeStream bars)
    (hrep : ∀ bar ∈ bars, Representable bar.closeTs) :
    SafeTexts bars ↔ OrderedByReading bars := by
  constructor
  · intro htexts
    refine htexts.sorted.imp_of_mem ?_
    intro a b ha hb hle
    exact (globalKey_le_iff (hrep a ha) (hrep b hb)).mp hle
  · intro hordered
    refine ⟨?_, ?_⟩
    · refine (closesDistinct_of_safeStream hsafe).imp_of_mem ?_
      intro a b ha hb hdistinct hkey
      -- equal close texts are equal readings at equal offsets, hence one instant
      unfold closeKey at hkey
      simp only [List.cons.injEq, and_true] at hkey
      obtain ⟨hinstrument, hvenue, hframe, htext⟩ := hkey
      obtain ⟨hreading, hoffset⟩ := (isoformat_eq_iff (hrep a ha) (hrep b hb)).mp htext
      have hsame := offsetText_inj (hrep a ha).2.2 (hrep b hb).2.2 hoffset
      refine hdistinct (Prod.ext hinstrument (Prod.ext hvenue hframe)) ?_
      unfold localMicros at hreading
      omega
    · refine hordered.imp_of_mem ?_
      intro a b ha hb hle
      exact (globalKey_le_iff (hrep a ha) (hrep b hb)).mpr hle

theorem accepted_iff {bars : List OHLCTVBar} (hrep : ∀ bar ∈ bars, Representable bar.closeTs) :
    validateBarsAreSafe bars = .ok () ↔ SafeStream bars ∧ OrderedByReading bars := by
  rw [validateBarsAreSafe_iff]
  constructor
  · rintro ⟨hsafe, htexts⟩
    exact ⟨hsafe, (safeTexts_iff hsafe hrep).mp htexts⟩
  · rintro ⟨hsafe, hordered⟩
    exact ⟨hsafe, (safeTexts_iff hsafe hrep).mpr hordered⟩

/-! ## One offset -/

/-- Under one offset readings and instants are ordered alike. -/
theorem orderedByReading_of_oneOffset {bars : List OHLCTVBar} (h : OneOffset bars) :
    OrderedByReading bars ↔ OrderedByInstant bars := by
  obtain ⟨offset, hoffset⟩ := h
  have hsame : ∀ a ∈ bars, ∀ b ∈ bars, (ReadingLe a b ↔ InstantLe a b) := by
    intro a ha b hb
    have hlt : localMicros a.closeTs < localMicros b.closeTs ↔ a.closeTs < b.closeTs := by
      rw [AwareDatetime.lt_def]
      unfold localMicros
      rw [hoffset a ha, hoffset b hb]
      omega
    have heq : localMicros a.closeTs = localMicros b.closeTs ↔
        a.closeTs.utc = b.closeTs.utc := by
      unfold localMicros
      rw [hoffset a ha, hoffset b hb]
      omega
    unfold ReadingLe InstantLe
    rw [hlt, heq, hoffset a ha, hoffset b hb]
    simp
  constructor
  · intro hordered
    exact hordered.imp_of_mem fun ha hb hle => (hsame _ ha _ hb).mp hle
  · intro hordered
    exact hordered.imp_of_mem fun ha hb hle => (hsame _ ha _ hb).mpr hle

theorem orderedByInstant_map_inUtc (bars : List OHLCTVBar) :
    OrderedByInstant (bars.map barInUtc) ↔ OrderedByInstant bars := List.pairwise_map

theorem SameInstants.orderedByInstant_iff {bars bars' : List OHLCTVBar}
    (h : SameInstants bars bars') : OrderedByInstant bars' ↔ OrderedByInstant bars := by
  rw [← orderedByInstant_map_inUtc bars', ← orderedByInstant_map_inUtc bars]
  exact iff_of_eq (congrArg OrderedByInstant h)

theorem OrderedByInstant.closesNondecreasing {bars : List OHLCTVBar} (h : OrderedByInstant bars) :
    ClosesNondecreasing bars := by
  refine h.imp ?_
  rintro a b (hlt | ⟨heq, -⟩)
  · exact le_of_lt hlt
  · rw [AwareDatetime.le_def]
    omega

/-! ## Validation by instant -/

/-- The validator treats two spellings of one stream alike, and an accepted stream has closes that
never go back and differ within each instrument, venue and timeframe. -/
def ValidatesByInstant (bars bars' : List OHLCTVBar) : Prop :=
  (validateBarsAreSafe bars = .ok () ↔ validateBarsAreSafe bars' = .ok ()) ∧
    (validateBarsAreSafe bars = .ok () → ClosesNondecreasing bars ∧ ClosesDistinct bars)

/-- The validation is by instant exactly when another check refuses the stream, or both spellings
are ordered by wall-clock reading or neither is, and the order by reading is one by instant. One
offset throughout each spelling is enough. -/
theorem validatesByInstant_iff {bars bars' : List OHLCTVBar} (hsame : SameInstants bars bars')
    (hrep : ∀ bar ∈ bars, Representable bar.closeTs)
    (hrep' : ∀ bar ∈ bars', Representable bar.closeTs) :
    (ValidatesByInstant bars bars' ↔ (SafeStream bars →
      (OrderedByReading bars ↔ OrderedByReading bars') ∧
        (OrderedByReading bars → ClosesNondecreasing bars))) ∧
    (OneOffset bars → OneOffset bars' → ValidatesByInstant bars bars') := by
  have hiff : ValidatesByInstant bars bars' ↔ (SafeStream bars →
      (OrderedByReading bars ↔ OrderedByReading bars') ∧
        (OrderedByReading bars → ClosesNondecreasing bars)) := by
    unfold ValidatesByInstant
    rw [accepted_iff hrep, accepted_iff hrep', hsame.safeStream_iff]
    constructor
    · rintro ⟨halike, hclaims⟩ hsafe
      refine ⟨?_, fun hordered => (hclaims ⟨hsafe, hordered⟩).1⟩
      simpa [hsafe] using halike
    · intro h
      by_cases hsafe : SafeStream bars
      · obtain ⟨halike, hclaims⟩ := h hsafe
        refine ⟨?_, ?_⟩
        · simpa [hsafe] using halike
        · rintro ⟨-, hordered⟩
          exact ⟨hclaims hordered, closesDistinct_of_safeStream hsafe⟩
      · simp [hsafe]
  refine ⟨hiff, ?_⟩
  intro hone hone'
  refine hiff.mpr fun _ => ⟨?_, ?_⟩
  · rw [orderedByReading_of_oneOffset hone, orderedByReading_of_oneOffset hone',
      hsame.orderedByInstant_iff]
  · intro hordered
    exact ((orderedByReading_of_oneOffset hone).mp hordered).closesNondecreasing

/-! ## Mixed offsets -/

/-- The bar with its times written at another offset. -/
def atOffset (offset : Int) (bar : OHLCTVBar) : OHLCTVBar :=
  { bar with
    openTs := { bar.openTs with offset := offset }, closeTs := { bar.closeTs with offset := offset },
    sourceTs := { bar.sourceTs with offset := offset },
    open_before_close := bar.open_before_close }

/-- A bar of `BTC-USD` that closes at minute two. -/
def laterBar : OHLCTVBar := flatBar "BTC-USD" 1 0 ⟨100, Decimal.zero_le_hundred⟩ ⟨10, Decimal.zero_le_ten⟩

/-- A bar of `ETH-USD` that closes at minute one. -/
def earlierBar : OHLCTVBar :=
  flatBar "ETH-USD" 0 0 ⟨50, Decimal.zero_le_fifty⟩ ⟨10, Decimal.zero_le_ten⟩

/-- The two bars in time order, both written in UTC or both two hours ahead. -/
theorem validatesByInstant_iff_two_hours :
    ValidatesByInstant [earlierBar, laterBar]
      [atOffset 7200 earlierBar, atOffset 7200 laterBar] := by
  have hall := @validatesByInstant_iff [earlierBar, laterBar]
    [atOffset 7200 earlierBar, atOffset 7200 laterBar] rfl (by decide) (by decide)
  refine hall.2 ⟨0, ?_⟩ ⟨7200, ?_⟩
  · decide
  · decide

/-- The later bar in UTC and behind it the earlier bar two hours ahead: the stream is accepted
although its closes go back, and the same stream in UTC is refused. -/
theorem bar_order_by_text :
    SameInstants [laterBar, atOffset 7200 earlierBar] [laterBar, earlierBar] ∧
      validateBarsAreSafe [laterBar, atOffset 7200 earlierBar] = .ok () ∧
      ¬ ClosesNondecreasing [laterBar, atOffset 7200 earlierBar] ∧
      validateBarsAreSafe [laterBar, earlierBar] ≠ .ok () := by
  refine ⟨rfl, ok_unit_of_toBool _ (by decide), ?_, ?_⟩
  · intro hclose
    have hle := List.rel_of_pairwise_cons hclose List.mem_cons_self
    revert hle
    decide
  · intro haccepted
    have hbool : (validateBarsAreSafe [laterBar, earlierBar]).toBool = true := by
      rw [haccepted]
      rfl
    revert hbool
    decide

end TaModel.Simulation
