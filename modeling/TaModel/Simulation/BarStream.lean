import TaModel.Simulation.FillBar
import TaModel.Library.Ranking
import Mathlib.Data.List.Infix

/-!
# Accepted bar streams

`_validate_bars_are_safe` reads the stream once. What it remembers is a function of the bars read
so far (`guardOf`), so it accepts a stream exactly when every bar fits the bars in front of it. The
checks fall into two groups: `SafeStream` compares instants, `SafeTexts` compares the `isoformat`
texts of the closes.
-/

set_option autoImplicit false

namespace TaModel.Simulation

open TaModel.Contracts TaModel.Library

/-! ## What a bar is checked against -/

/-- The `(instrument_id, venue_id)` market of a bar. -/
def marketOf (bar : OHLCTVBar) : String × String := (bar.instrumentId, bar.venueId)

/-- `close_key` of a bar. -/
def closeKey (bar : OHLCTVBar) : List String :=
  [bar.instrumentId, bar.venueId, bar.timeframe, bar.closeTs.isoformat]

/-- `global_key` of a bar. -/
def globalKey (bar : OHLCTVBar) : List String :=
  [bar.closeTs.isoformat, bar.instrumentId, bar.venueId, bar.timeframe]

/-- The memory of the validator after the bars `seen`, the latest one first. -/
def guardOf (seen : List OHLCTVBar) : BarGuard where
  seenCloseKeys := seen.map closeKey
  lastByStream := seen.map fun bar => (bar.streamKey, bar)
  timeframesByMarket := seen.map fun bar => (marketOf bar, bar.timeframe)
  previousGlobalKey := seen.head?.map globalKey

/-- The bar read last from the stream of `bar`. -/
def lastOfStream (seen : List OHLCTVBar) (bar : OHLCTVBar) : Option OHLCTVBar :=
  seen.find? fun earlier => earlier.streamKey == bar.streamKey

/-- The checks on a bar that follows the bars `seen`, the latest one first. -/
structure Fits (seen : List OHLCTVBar) (bar : OHLCTVBar) : Prop where
  source_by_close : bar.sourceTs ≤ bar.closeTs
  one_timeframe : ∀ earlier ∈ seen, marketOf earlier = marketOf bar →
    earlier.timeframe = bar.timeframe
  new_close : ∀ earlier ∈ seen, closeKey earlier ≠ closeKey bar
  sorted : ∀ previous ∈ seen.head?, globalKey previous ≤ globalKey bar
  later : ∀ last ∈ lastOfStream seen bar, last.closeTs < bar.closeTs
  disjoint : ∀ last ∈ lastOfStream seen bar, last.closeTs ≤ bar.openTs

theorem find?_lastByStream (seen : List OHLCTVBar) (bar : OHLCTVBar) :
    (((guardOf seen).lastByStream.find? fun entry => entry.1 == bar.streamKey).map Prod.snd) =
      lastOfStream seen bar := by
  unfold guardOf
  rw [List.find?_map, Option.map_map]
  have hlast : seen.find? ((fun entry : (String × String × String) × OHLCTVBar =>
      entry.1 == bar.streamKey) ∘ fun bar => (bar.streamKey, bar)) = lastOfStream seen bar := rfl
  rw [hlast]
  cases lastOfStream seen bar with
  | none => rfl
  | some last => rfl

/-- One turn of the validator: the bar fits and becomes the latest one. -/
theorem check_guardOf_iff (seen : List OHLCTVBar) (bar : OHLCTVBar) (guard : BarGuard) :
    (guardOf seen).check bar = .ok guard ↔ Fits seen bar ∧ guard = guardOf (bar :: seen) := by
  unfold BarGuard.check
  dsimp only
  rw [find?_lastByStream]
  simp only [check_bind_eq_ok_iff, require_eq_ok_iff]
  constructor
  · rintro ⟨hsource, hframe, hclose, hsorted, hlater, hdisjoint, hguard⟩
    refine ⟨⟨hsource, ?_, ?_, ?_, hlater, hdisjoint⟩, ?_⟩
    · intro earlier hmem hmarket
      exact hframe _ (List.mem_map_of_mem hmem) hmarket
    · intro earlier hmem hsame
      have hkey : closeKey earlier ∈ seen.map closeKey := List.mem_map_of_mem hmem
      rw [hsame] at hkey
      exact hclose hkey
    · intro previous hprevious
      exact not_lt.mp (hsorted _ (Option.mem_map_of_mem globalKey hprevious))
    · exact (Except.ok.inj hguard).symm
  · rintro ⟨hfits, rfl⟩
    refine ⟨hfits.source_by_close, ?_, ?_, ?_, hfits.later, hfits.disjoint, rfl⟩
    · intro entry hentry hmarket
      obtain ⟨earlier, hmem, rfl⟩ := List.mem_map.mp hentry
      exact hfits.one_timeframe earlier hmem hmarket
    · intro hmem
      obtain ⟨earlier, hearlier, hsame⟩ := List.mem_map.mp hmem
      exact hfits.new_close earlier hearlier hsame
    · intro key hkey
      obtain ⟨previous, hprevious, rfl⟩ := Option.mem_map.mp hkey
      exact not_lt.mpr (hfits.sorted previous hprevious)

/-! ## Accepted streams -/

/-- The checks that compare instants and names. -/
structure SafeStream (bars : List OHLCTVBar) : Prop where
  source_by_close : ∀ bar ∈ bars, bar.sourceTs ≤ bar.closeTs
  one_timeframe : bars.Pairwise fun a b => marketOf a = marketOf b → a.timeframe = b.timeframe
  disjoint : bars.Pairwise fun a b => a.streamKey = b.streamKey → a.closeTs ≤ b.openTs

/-- The checks that compare the texts of the closes. -/
structure SafeTexts (bars : List OHLCTVBar) : Prop where
  new_close : bars.Pairwise fun a b => closeKey a ≠ closeKey b
  sorted : bars.Pairwise fun a b => globalKey a ≤ globalKey b

theorem pairwise_concat_iff {R : OHLCTVBar → OHLCTVBar → Prop} {front : List OHLCTVBar}
    {bar : OHLCTVBar} :
    (front ++ [bar]).Pairwise R ↔ front.Pairwise R ∧ ∀ a ∈ front, R a bar := by
  simp [List.pairwise_append]

/-- In a sorted stream it is enough to compare with the latest bar. -/
theorem sorted_concat {front : List OHLCTVBar} {bar : OHLCTVBar}
    (hsorted : front.Pairwise fun a b => globalKey a ≤ globalKey b)
    (hlatest : ∀ previous ∈ front.reverse.head?, globalKey previous ≤ globalKey bar) :
    ∀ a ∈ front, globalKey a ≤ globalKey bar := by
  rcases List.eq_nil_or_concat' front with rfl | ⟨front', latest, rfl⟩
  · simp
  · have hlast : globalKey latest ≤ globalKey bar := hlatest latest (by simp)
    obtain ⟨-, hfront⟩ := pairwise_concat_iff.mp hsorted
    intro a ha
    rcases List.mem_append.mp ha with hmem | hmem
    · exact le_trans (hfront a hmem) hlast
    · rw [List.mem_singleton.mp hmem]
      exact hlast

/-- In a stream of disjoint bars it is enough to compare with the latest bar of the stream. -/
theorem disjoint_concat {front : List OHLCTVBar} {bar : OHLCTVBar}
    (hdisjoint : front.Pairwise fun a b => a.streamKey = b.streamKey → a.closeTs ≤ b.openTs)
    (hlatest : ∀ last ∈ lastOfStream front.reverse bar, last.closeTs ≤ bar.openTs) :
    ∀ a ∈ front, a.streamKey = bar.streamKey → a.closeTs ≤ bar.openTs := by
  intro a ha hstream
  have hmem : a ∈ front.reverse := List.mem_reverse.mpr ha
  cases hlast : lastOfStream front.reverse bar with
  | none =>
      have hnone := List.find?_eq_none.mp hlast a hmem
      exact absurd (beq_iff_eq.mpr hstream) hnone
  | some last =>
      obtain ⟨hsame, newer, older, hsplit, hnewer⟩ := List.find?_eq_some_iff_append.mp hlast
      have hlast_le : last.closeTs ≤ bar.openTs := hlatest last hlast
      have hback : front.reverse.Pairwise
          fun b a => a.streamKey = b.streamKey → a.closeTs ≤ b.openTs :=
        List.pairwise_reverse.mpr hdisjoint
      rw [hsplit] at hmem hback
      rcases List.mem_append.mp hmem with hnew | hold
      · have hnot := hnewer a hnew
        rw [beq_iff_eq.mpr hstream] at hnot
        cases hnot
      · rcases List.mem_cons.mp hold with rfl | hold
        · exact hlast_le
        · -- an older bar of the stream closed before the latest one opened
          have holder : a.closeTs ≤ last.openTs :=
            List.rel_of_pairwise_cons (List.pairwise_append.mp hback).2.1 hold
              (hstream.trans (beq_iff_eq.mp hsame).symm)
          have hopen : last.openTs ≤ last.closeTs := le_of_lt last.open_before_close
          exact le_trans (le_trans holder hopen) hlast_le

/-- A longer stream is accepted when the shorter one is and the last bar fits. -/
theorem safe_concat_iff (front : List OHLCTVBar) (bar : OHLCTVBar) :
    (SafeStream (front ++ [bar]) ∧ SafeTexts (front ++ [bar])) ↔
      (SafeStream front ∧ SafeTexts front) ∧ Fits front.reverse bar := by
  constructor
  · rintro ⟨⟨hsource, hframe, hdisjoint⟩, ⟨hclose, hsorted⟩⟩
    obtain ⟨hframe, hframe_bar⟩ := pairwise_concat_iff.mp hframe
    obtain ⟨hdisjoint, hdisjoint_bar⟩ := pairwise_concat_iff.mp hdisjoint
    obtain ⟨hclose, hclose_bar⟩ := pairwise_concat_iff.mp hclose
    obtain ⟨hsorted, hsorted_bar⟩ := pairwise_concat_iff.mp hsorted
    have hlast : ∀ last ∈ lastOfStream front.reverse bar, last.closeTs ≤ bar.openTs := by
      intro last hlast
      have hmem : last ∈ front := List.mem_reverse.mp (List.mem_of_find?_eq_some hlast)
      have hstream : (last.streamKey == bar.streamKey) = true := by
        unfold lastOfStream at hlast
        exact List.find?_some (p := fun a : OHLCTVBar => a.streamKey == bar.streamKey) hlast
      exact hdisjoint_bar last hmem (beq_iff_eq.mp hstream)
    refine ⟨⟨⟨?_, hframe, hdisjoint⟩, ⟨hclose, hsorted⟩⟩, ⟨?_, ?_, ?_, ?_, ?_, hlast⟩⟩
    · intro a ha
      exact hsource a (List.mem_append_left _ ha)
    · exact hsource bar (by simp)
    · intro a ha
      exact hframe_bar a (List.mem_reverse.mp ha)
    · intro a ha
      exact hclose_bar a (List.mem_reverse.mp ha)
    · intro previous hprevious
      exact hsorted_bar previous (List.mem_reverse.mp (List.mem_of_head? hprevious))
    · intro last hmem
      exact lt_of_le_of_lt (hlast last hmem) bar.open_before_close
  · rintro ⟨⟨⟨hsource, hframe, hdisjoint⟩, ⟨hclose, hsorted⟩⟩, hfits⟩
    refine ⟨⟨?_, ?_, ?_⟩, ⟨?_, ?_⟩⟩
    · intro a ha
      rcases List.mem_append.mp ha with hmem | hmem
      · exact hsource a hmem
      · rw [List.mem_singleton.mp hmem]
        exact hfits.source_by_close
    · exact pairwise_concat_iff.mpr
        ⟨hframe, fun a ha => hfits.one_timeframe a (List.mem_reverse.mpr ha)⟩
    · exact pairwise_concat_iff.mpr ⟨hdisjoint, disjoint_concat hdisjoint hfits.disjoint⟩
    · exact pairwise_concat_iff.mpr
        ⟨hclose, fun a ha => hfits.new_close a (List.mem_reverse.mpr ha)⟩
    · exact pairwise_concat_iff.mpr ⟨hsorted, sorted_concat hsorted hfits.sorted⟩

/-- The loop of the validator, from the right end of the stream. -/
theorem foldlM_check_iff (bars : List OHLCTVBar) (guard : BarGuard) :
    bars.foldlM BarGuard.check {} = .ok guard ↔
      (SafeStream bars ∧ SafeTexts bars) ∧ guard = guardOf bars.reverse := by
  induction bars using List.reverseRecOn generalizing guard with
  | nil =>
      constructor
      · intro h
        exact ⟨⟨⟨by simp, .nil, .nil⟩, ⟨.nil, .nil⟩⟩, (Except.ok.inj h).symm⟩
      · rintro ⟨-, rfl⟩
        rfl
  | append_singleton front bar ih =>
      rw [List.foldlM_append, bind_eq_ok_iff, safe_concat_iff, List.reverse_concat]
      constructor
      · rintro ⟨middle, hfront, hbar⟩
        obtain ⟨hsafe, rfl⟩ := (ih middle).mp hfront
        rw [List.foldlM_cons, bind_eq_ok_iff] at hbar
        obtain ⟨last, hlast, hout⟩ := hbar
        obtain ⟨hfits, rfl⟩ := (check_guardOf_iff _ _ _).mp hlast
        exact ⟨⟨hsafe, hfits⟩, (Except.ok.inj hout).symm⟩
      · rintro ⟨⟨hsafe, hfits⟩, rfl⟩
        refine ⟨_, (ih _).mpr ⟨hsafe, rfl⟩, ?_⟩
        rw [List.foldlM_cons, bind_eq_ok_iff]
        exact ⟨_, (check_guardOf_iff _ _ _).mpr ⟨hfits, rfl⟩, rfl⟩

/-- A stream is accepted exactly when it passes both groups of checks. -/
theorem validateBarsAreSafe_iff (bars : List OHLCTVBar) :
    validateBarsAreSafe bars = .ok () ↔ SafeStream bars ∧ SafeTexts bars := by
  unfold validateBarsAreSafe
  rw [bind_eq_ok_iff]
  constructor
  · rintro ⟨guard, hguard, -⟩
    exact ((foldlM_check_iff bars guard).mp hguard).1
  · intro hsafe
    exact ⟨_, (foldlM_check_iff bars _).mpr ⟨hsafe, rfl⟩, rfl⟩

end TaModel.Simulation
