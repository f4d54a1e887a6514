import TaModel.Simulation.BarStream
import TaModel.Simulation.TwoRuns

/-!
# Which bar fills an order

In an accepted stream the bars of one market have one timeframe and do not overlap, so their opens
increase along the stream and position in the stream is rank by open. The bar of an order is then
a function of the bars of its own market: bars of other markets can only move its index.
-/

set_option autoImplicit false

namespace TaModel.Simulation

open TaModel.Contracts TaModel.Library

/-! ## The bars of the order's market -/

/-- The bar is one of the order's instrument and venue. -/
def isOwnMarket (intent : OrderIntent) (bar : OHLCTVBar) : Bool :=
  bar.instrumentId == intent.instrumentId && bar.venueId == intent.venueId

/-- The bars of the order's market that open at or after the submission. -/
def ownBarsAfter (intent : OrderIntent) (bars : List OHLCTVBar) : List OHLCTVBar :=
  bars.filter fun bar => isOwnMarket intent bar && decide (intent.submittedAt ≤ bar.openTs)

/-- A bar that opens at or after the submission closes after it: the last test of the eligibility
is implied. -/
theorem isEligible_eq (intent : OrderIntent) (bar : OHLCTVBar) :
    isEligible intent bar =
      (isOwnMarket intent bar && decide (intent.submittedAt ≤ bar.openTs)) := by
  unfold isEligible isOwnMarket
  by_cases hopen : intent.submittedAt ≤ bar.openTs
  · have hclose : intent.submittedAt < bar.closeTs := lt_of_le_of_lt hopen bar.open_before_close
    simp [hopen, hclose]
  · simp [hopen]

/-- Without their indices the eligible bars are the bars of the market after the submission. -/
theorem eligibleBars_map_fst (intent : OrderIntent) (bars : List OHLCTVBar) :
    (eligibleBars intent bars).map Prod.fst = ownBarsAfter intent bars := by
  unfold eligibleBars ownBarsAfter
  have hfilter : (bars.zipIdx.filter fun entry => isEligible intent entry.1).map Prod.fst =
      (bars.zipIdx.map Prod.fst).filter (isEligible intent) := by
    rw [List.filter_map]
    rfl
  rw [hfilter, List.zipIdx_map_fst]
  exact List.filter_congr fun bar _ => isEligible_eq intent bar

/-- An eligible entry stands in the stream at its index. -/
theorem getElem?_of_mem_eligibleBars {intent : OrderIntent} {bars : List OHLCTVBar}
    {entry : OHLCTVBar × Nat} (h : entry ∈ eligibleBars intent bars) :
    bars[entry.2]? = some entry.1 := by
  have hmem := (List.mem_filter.mp h).1
  exact List.mem_zipIdx_iff_getElem?.mp hmem

/-- In an accepted stream the opens of one market increase. -/
theorem opens_increase {bars : List OHLCTVBar} (hsafe : SafeStream bars) (intent : OrderIntent) :
    (ownBarsAfter intent bars).Pairwise fun a b => a.openTs < b.openTs := by
  have hmarket : ∀ bar ∈ ownBarsAfter intent bars,
      marketOf bar = (intent.instrumentId, intent.venueId) := by
    intro bar hbar
    have htest := (List.mem_filter.mp hbar).2
    simp only [isOwnMarket, Bool.and_eq_true, beq_iff_eq] at htest
    exact Prod.ext htest.1.1 htest.1.2
  have hboth : (ownBarsAfter intent bars).Pairwise fun a b =>
      (marketOf a = marketOf b → a.timeframe = b.timeframe) ∧
        (a.streamKey = b.streamKey → a.closeTs ≤ b.openTs) :=
    List.Pairwise.and (hsafe.one_timeframe.filter _) (hsafe.disjoint.filter _)
  refine hboth.imp_of_mem ?_
  rintro a b ha hb ⟨hframe, hdisjoint⟩
  have hsame : marketOf a = marketOf b := (hmarket a ha).trans (hmarket b hb).symm
  have hstream : a.streamKey = b.streamKey := by
    have hids := Prod.ext_iff.mp hsame
    exact Prod.ext hids.1 (Prod.ext hids.2 (hframe hsame))
  exact lt_of_lt_of_le a.open_before_close (hdisjoint hstream)

/-! ## The bar of the attempt -/

theorem fillBar_eq_none_iff {bars : List OHLCTVBar} {costModel : Option ExecutionCostModel}
    {intent : OrderIntent} :
    fillBar bars costModel intent = none ↔
      (ownBarsAfter intent bars).length ≤ latencyOf costModel := by
  unfold fillBar
  rw [List.getElem?_eq_none_iff, ← eligibleBars_map_fst, List.length_map]

/-- The bar of the attempt is the bar of its rank by open. -/
theorem fillBar_map_fst {bars : List OHLCTVBar} (costModel : Option ExecutionCostModel)
    (intent : OrderIntent) :
    (fillBar bars costModel intent).map Prod.fst =
      (ownBarsAfter intent bars)[latencyOf costModel]? := by
  unfold fillBar
  rw [← eligibleBars_map_fst, List.getElem?_map]

/-- The bar is the one of the given rank, by open, among the bars of the market after the
submission. -/
def IsNthEarliest (k : Nat) (intent : OrderIntent) (bars : List OHLCTVBar) (bar : OHLCTVBar) :
    Prop :=
  IsRanked OHLCTVBar.openTs k (ownBarsAfter intent bars) bar

theorem isNthEarliest_iff {bars : List OHLCTVBar} (hsafe : SafeStream bars)
    (costModel : Option ExecutionCostModel) (intent : OrderIntent) (bar : OHLCTVBar) :
    IsNthEarliest (latencyOf costModel) intent bars bar ↔
      ∃ index, fillBar bars costModel intent = some (bar, index) := by
  unfold IsNthEarliest
  rw [← getElem?_eq_some_iff_isRanked _ (opens_increase hsafe intent), ← fillBar_map_fst,
    Option.map_eq_some_iff]
  constructor
  · rintro ⟨⟨_, index⟩, hentry, rfl⟩
    exact ⟨index, hentry⟩
  · rintro ⟨index, hentry⟩
    exact ⟨_, hentry, rfl⟩

/-! ## The decision at the bar -/

/-- The result is decided at the bar, which stands at `index` in the stream: a fill carries its
lineage, its open and the quantity it lets through, and a reject for constraints or liquidity is
the verdict of the bar. -/
structure DecidedAt (context : Option VenueContext) (costModel : Option ExecutionCostModel)
    (intent : OrderIntent) (bar : OHLCTVBar) (index : Nat) (r : ReplayOrderResult) : Prop where
  lineage : r.isFill = true → r.fillEventOpenTs = some bar.openTs ∧
    r.fillEventCloseTs = some bar.closeTs ∧ r.fillEventSourceTs = some bar.sourceTs ∧
    r.fillRawPayloadId = some bar.rawPayloadId ∧
    r.arrivalReferencePrice = some bar.openPrice.val
  quantity : r.isFill = true → liquidQuantity costModel intent bar = some r.filledQuantity
  constraints : r.reason = some .constraintViolation ↔
    constraintReasonAt context intent bar = some .constraintViolation
  liquidity : r.reason = some .insufficientLiquidity ↔
    constraintReasonAt context intent bar = none ∧ liquidQuantity costModel intent bar = none
  attempt_index : r.isFill = true ∨ r.reason = some .constraintViolation ∨
    r.reason = some .insufficientLiquidity → r.fillAttemptEventIndex = costModel.map fun _ => index

/-- The constraint check has one reason to reject. -/
theorem constraintReasonAt_eq {context : Option VenueContext} {intent : OrderIntent}
    {bar : OHLCTVBar} {reason : ReplayRejectReason}
    (h : constraintReasonAt context intent bar = some reason) : reason = .constraintViolation := by
  obtain ⟨c, -, h⟩ := Option.bind_eq_some_iff.mp h
  unfold constraintRejectReason at h
  split at h
  · split at h
    · cases h
    · exact (Option.some.inj h).symm
  · exact (Option.some.inj h).symm

section Decision

variable [Sha256] {bars : List OHLCTVBar} {costModel : Option ExecutionCostModel}
  {context : Option VenueContext} {balances balances' : Balances} {intent : OrderIntent}
  {r : ReplayOrderResult}

/-- What a draft of a fill copies from its bar. -/
theorem fillDraft_facts (costModel : Option ExecutionCostModel) (intent : OrderIntent)
    (firstIndex : Nat) (entry : OHLCTVBar × Nat) (quantity : Decimal) :
    (fillDraft costModel intent firstIndex entry quantity).fillEventOpenTs = some entry.1.openTs ∧
    (fillDraft costModel intent firstIndex entry quantity).fillEventCloseTs =
      some entry.1.closeTs ∧
    (fillDraft costModel intent firstIndex entry quantity).fillEventSourceTs =
      some entry.1.sourceTs ∧
    (fillDraft costModel intent firstIndex entry quantity).fillRawPayloadId =
      some entry.1.rawPayloadId ∧
    (fillDraft costModel intent firstIndex entry quantity).arrivalReferencePrice =
      some entry.1.openPrice.val ∧
    (fillDraft costModel intent firstIndex entry quantity).filledQuantity = quantity ∧
    (fillDraft costModel intent firstIndex entry quantity).fillAttemptEventIndex =
      (costModel.map fun _ => entry.2) ∧
    (fillDraft costModel intent firstIndex entry quantity).reason = none := by
  cases costModel with
  | none => exact ⟨rfl, rfl, rfl, rfl, rfl, rfl, rfl, rfl⟩
  | some model => exact ⟨rfl, rfl, rfl, rfl, rfl, rfl, rfl, rfl⟩

theorem isFill_unfilledDraft (intent : OrderIntent) (reason : ReplayRejectReason)
    (model : Option ExecutionCostModel) (eligibleIndex attemptIndex : Option Nat) :
    (unfilledDraft intent reason model eligibleIndex attemptIndex).withBuiltId.isFill = false := by
  obtain ⟨result, hresult, hnot, -⟩ :=
    unfilledResult_ok intent reason model eligibleIndex attemptIndex
  rw [unfilledResult_eq] at hresult
  cases hresult
  exact hnot

omit [Sha256] in
/-- A result that is no fill is decided by its reason. -/
theorem DecidedAt.of_unfilled {bar : OHLCTVBar} {index : Nat} (hnot : r.isFill = false)
    (hconstraints : r.reason = some .constraintViolation ↔
      constraintReasonAt context intent bar = some .constraintViolation)
    (hliquidity : r.reason = some .insufficientLiquidity ↔
      constraintReasonAt context intent bar = none ∧ liquidQuantity costModel intent bar = none)
    (hindex : r.reason = some .constraintViolation ∨ r.reason = some .insufficientLiquidity →
      r.fillAttemptEventIndex = costModel.map fun _ => index) :
    DecidedAt context costModel intent bar index r := by
  have hnever : r.isFill ≠ true := by
    rw [hnot]
    exact Bool.false_ne_true
  refine ⟨fun hfill => absurd hfill hnever, fun hfill => absurd hfill hnever, hconstraints,
    hliquidity, ?_⟩
  rintro (hfill | hreason)
  · exact absurd hfill hnever
  · exact hindex hreason

/-- The result of the attempt on a bar is decided at that bar. -/
theorem settleAttempt_decidedAt {firstIndex : Nat} {entry : OHLCTVBar × Nat}
    (h : settleAttempt context balances intent
      (attemptOn context costModel intent firstIndex entry) = .ok (r, balances')) :
    DecidedAt context costModel intent entry.1 entry.2 r ∧
      r.reason ≠ some .noFutureEligibleEvent := by
  unfold attemptOn at h
  cases hconstraint : constraintReasonAt context intent entry.1 with
  | some reason =>
      obtain rfl := constraintReasonAt_eq hconstraint
      simp only [hconstraint, settleAttempt, unfilledResult_eq, ok_bind] at h
      cases h
      constructor
      · apply DecidedAt.of_unfilled (isFill_unfilledDraft _ _ _ _ _)
        · exact iff_of_true rfl hconstraint
        · apply iff_of_false
          · intro hreason
            cases hreason
          · rintro ⟨hnone, -⟩
            rw [hconstraint] at hnone
            cases hnone
        · intro _
          rfl
      · intro hreason
        cases hreason
  | none =>
      rw [hconstraint] at h
      dsimp only at h
      have hunconstrained :
          constraintReasonAt context intent entry.1 ≠ some .constraintViolation := by
        rw [hconstraint]
        intro hsome
        cases hsome
      cases hliquid : liquidQuantity costModel intent entry.1 with
      | none =>
          simp only [hliquid, settleAttempt, unfilledResult_eq, ok_bind] at h
          cases h
          constructor
          · apply DecidedAt.of_unfilled (isFill_unfilledDraft _ _ _ _ _)
            · apply iff_of_false ?_ hunconstrained
              intro hreason
              cases hreason
            · exact iff_of_true rfl ⟨hconstraint, hliquid⟩
            · intro _
              rfl
          · intro hreason
            cases hreason
      | some quantity =>
          rw [hliquid] at h
          have hilliquid : ¬ (constraintReasonAt context intent entry.1 = none ∧
              liquidQuantity costModel intent entry.1 = none) := by
            rintro ⟨-, hnone⟩
            rw [hliquid] at hnone
            cases hnone
          obtain ⟨hopen, hclose, hsource, hpayload, harrival, hquantity, hindex, hreason⟩ :=
            fillDraft_facts costModel intent firstIndex entry quantity
          rcases (settleAttempt_fill_cases h).2 with rfl | ⟨reason, hbalance, -, rfl⟩
          · have hnone : ∀ reason, (fillDraft costModel intent firstIndex entry
                quantity).withBuiltId.reason ≠ some reason := by
              intro reason hsome
              have hsame := hreason.symm.trans hsome
              cases hsame
            refine ⟨⟨fun _ => ⟨hopen, hclose, hsource, hpayload, harrival⟩, fun _ => ?_,
              iff_of_false (hnone _) hunconstrained, iff_of_false (hnone _) hilliquid,
              fun _ => hindex⟩, hnone _⟩
            rw [hliquid]
            exact congrArg some hquantity.symm
          · -- rejected for the balances: not one of the verdicts of the bar
            have hother : ∀ other, reason ≠ other →
                (unfilledDraft intent reason none none none).withBuiltId.reason ≠ some other :=
              fun other hne hsome => hne (Option.some.inj hsome)
            have hconstraints : reason ≠ .constraintViolation := by
              rcases hbalance with rfl | rfl <;> decide
            have hliquidity : reason ≠ .insufficientLiquidity := by
              rcases hbalance with rfl | rfl <;> decide
            have hfuture : reason ≠ .noFutureEligibleEvent := by
              rcases hbalance with rfl | rfl <;> decide
            constructor
            · apply DecidedAt.of_unfilled (isFill_unfilledDraft _ _ _ _ _)
              · exact iff_of_false (hother _ hconstraints) hunconstrained
              · exact iff_of_false (hother _ hliquidity) hilliquid
              · rintro (hsome | hsome)
                · exact absurd hsome (hother _ hconstraints)
                · exact absurd hsome (hother _ hliquidity)
            · exact hother _ hfuture

/-- Without a bar of the rank there is no future event. -/
theorem replayOne_of_no_bar (hmetadata : metadataReason context intent = none)
    (hmarket : intent.orderType = .market) (hbar : fillBar bars costModel intent = none)
    (h : replayOne bars costModel context balances intent = .ok (r, balances')) :
    r.reason = some .noFutureEligibleEvent := by
  unfold replayOne at h
  rw [fillAttempt_of_no_bar hmetadata hmarket hbar] at h
  simp only [settleAttempt, unfilledResult_eq, ok_bind] at h
  cases h
  rfl

end Decision

/-! ## Bars of other markets -/

section ForeignBars

variable [Sha256] {bars bars' : List OHLCTVBar} {costModel : Option ExecutionCostModel}
  {context : Option VenueContext} {balances balances' : Balances} {intent : OrderIntent}
  {r : ReplayOrderResult}

omit [Sha256] in
/-- Streams with the same bars of the order's market have the same bars after the submission. -/
theorem ownBarsAfter_congr (hown : bars'.filter (isOwnMarket intent) =
    bars.filter (isOwnMarket intent)) : ownBarsAfter intent bars' = ownBarsAfter intent bars := by
  have hsplit : ∀ stream : List OHLCTVBar, ownBarsAfter intent stream =
      (stream.filter (isOwnMarket intent)).filter
        fun bar => decide (intent.submittedAt ≤ bar.openTs) := by
    intro stream
    unfold ownBarsAfter
    rw [List.filter_filter]
    exact List.filter_congr fun bar _ => Bool.and_comm _ _
  rw [hsplit, hsplit, hown]

/-- On one bar the indices do not change what a fill is. -/
theorem eraseIndices_fillDraft (costModel : Option ExecutionCostModel) (intent : OrderIntent)
    (firstIndex firstIndex' : Nat) {entry entry' : OHLCTVBar × Nat} (hbar : entry'.1 = entry.1)
    (quantity : Decimal) :
    eraseIndices (fillDraft costModel intent firstIndex' entry' quantity).withBuiltId =
      eraseIndices (fillDraft costModel intent firstIndex entry quantity).withBuiltId := by
  obtain ⟨bar, index⟩ := entry
  obtain ⟨bar', index'⟩ := entry'
  obtain rfl : bar' = bar := hbar
  cases costModel with
  | none => rfl
  | some model => rfl

/-- On one bar the indices do not change the amounts of a fill. -/
theorem fillDraft_amounts (costModel : Option ExecutionCostModel) (intent : OrderIntent)
    (firstIndex firstIndex' : Nat) {entry entry' : OHLCTVBar × Nat} (hbar : entry'.1 = entry.1)
    (quantity : Decimal) :
    (fillDraft costModel intent firstIndex entry quantity).effectiveNotional =
        (fillDraft costModel intent firstIndex' entry' quantity).effectiveNotional ∧
      (fillDraft costModel intent firstIndex entry quantity).feeCost =
        (fillDraft costModel intent firstIndex' entry' quantity).feeCost ∧
      (fillDraft costModel intent firstIndex entry quantity).filledQuantity =
        (fillDraft costModel intent firstIndex' entry' quantity).filledQuantity := by
  obtain ⟨bar, index⟩ := entry
  obtain ⟨bar', index'⟩ := entry'
  obtain rfl : bar' = bar := hbar
  cases costModel with
  | none => exact ⟨rfl, rfl, rfl⟩
  | some model => exact ⟨rfl, rfl, rfl⟩

/-- On one bar the indices do not change how the attempt is settled. -/
theorem settleAttempt_index {firstIndex firstIndex' : Nat} {entry entry' : OHLCTVBar × Nat}
    (hbar : entry'.1 = entry.1)
    (h : settleAttempt context balances intent
      (attemptOn context costModel intent firstIndex entry) = .ok (r, balances')) :
    ∃ r', settleAttempt context balances intent
        (attemptOn context costModel intent firstIndex' entry') = .ok (r', balances') ∧
      eraseIndices r' = eraseIndices r := by
  unfold attemptOn at h ⊢
  rw [hbar]
  cases hconstraint : constraintReasonAt context intent entry.1 with
  | some reason =>
      simp only [hconstraint, settleAttempt, unfilledResult_eq, ok_bind] at h ⊢
      cases h
      exact ⟨_, rfl, rfl⟩
  | none =>
      rw [hconstraint] at h
      dsimp only at h ⊢
      cases hliquid : liquidQuantity costModel intent entry.1 with
      | none =>
          simp only [hliquid, settleAttempt, unfilledResult_eq, ok_bind] at h ⊢
          cases h
          exact ⟨_, rfl, rfl⟩
      | some quantity =>
          rw [hliquid] at h
          dsimp only at h ⊢
          have herase := eraseIndices_fillDraft costModel intent firstIndex firstIndex' hbar quantity
          have hvalid : (fillDraft costModel intent firstIndex' entry' quantity).validateFields =
              .ok () := by
            have hopen := (fillDraft_validates_iff hliquid).mp (settleAttempt_fill_cases h).1
            refine (fillDraft_validates_iff ?_).mpr ?_
            · rw [hbar]
              exact hliquid
            · rw [hbar]
              exact hopen
          obtain ⟨hnotional, hfee, hquantity⟩ :=
            fillDraft_amounts costModel intent firstIndex firstIndex' hbar quantity
          obtain ⟨r', hr', hcase⟩ := settleAttempt_alike hvalid hnotional hfee hquantity h
          refine ⟨r', hr', ?_⟩
          rcases hcase with rfl | ⟨rfl, rfl⟩
          · rfl
          · exact herase

/-- Two streams with the same bars of the order's market give the order the same result, event
indices aside, and leave the same balances. -/
theorem replayOne_foreign_bars (hown : ownBarsAfter intent bars' = ownBarsAfter intent bars)
    (h : replayOne bars costModel context balances intent = .ok (r, balances')) :
    ∃ r', replayOne bars' costModel context balances intent = .ok (r', balances') ∧
      eraseIndices r' = eraseIndices r := by
  by_cases hready : metadataReason context intent = none ∧ intent.orderType = .market
  · obtain ⟨hmetadata, hmarket⟩ := hready
    have hbars := @fillBar_map_fst bars costModel intent
    have hbars' := @fillBar_map_fst bars' costModel intent
    rw [hown, ← hbars] at hbars'
    unfold replayOne at h ⊢
    cases hbar : fillBar bars costModel intent with
    | none =>
        rw [hbar, Option.map_none, Option.map_eq_none_iff] at hbars'
        rw [fillAttempt_of_no_bar hmetadata hmarket hbar] at h
        rw [fillAttempt_of_no_bar hmetadata hmarket hbars']
        have hhead : (eligibleBars intent bars').head?.isSome =
            (eligibleBars intent bars).head?.isSome := by
          have hmap := congrArg (fun bs : List OHLCTVBar => bs.head?.isSome) hown
          simp only [← eligibleBars_map_fst, List.head?_map, Option.isSome_map] at hmap
          exact hmap
        have hmodel : ((eligibleBars intent bars').head?.bind fun _ => costModel) =
            (eligibleBars intent bars).head?.bind fun _ => costModel := by
          cases hfirst : (eligibleBars intent bars).head? with
          | none =>
              rw [hfirst] at hhead
              rw [Option.isNone_iff_eq_none.mp (Option.isSome_eq_false_iff.mp hhead)]
          | some first =>
              rw [hfirst] at hhead
              obtain ⟨first', hfirst'⟩ := Option.isSome_iff_exists.mp hhead
              rw [hfirst']
              rfl
        simp only [settleAttempt, unfilledResult_eq, ok_bind] at h ⊢
        cases h
        refine ⟨_, rfl, ?_⟩
        rw [hmodel]
        rfl
    | some entry =>
        rw [hbar, Option.map_some, Option.map_eq_some_iff] at hbars'
        obtain ⟨entry', hbar', hsame⟩ := hbars'
        obtain ⟨first, -, hattempt⟩ := fillAttempt_of_bar hmetadata hmarket hbar
        obtain ⟨first', -, hattempt'⟩ := fillAttempt_of_bar hmetadata hmarket hbar'
        rw [hattempt] at h
        rw [hattempt']
        exact settleAttempt_index hsame h
  · have hattempt : fillAttempt bars' costModel context intent =
        fillAttempt bars costModel context intent := fillAttempt_of_refused hready
    unfold replayOne at h ⊢
    rw [hattempt]
    exact ⟨r, h, rfl⟩

end ForeignBars

/-! ## Fill-bar selection -/

section Selection

variable [Sha256] {bars : List OHLCTVBar} {costModel : Option ExecutionCostModel}
  {context : Option VenueContext} {balances balances' : Balances} {intent : OrderIntent}
  {r : ReplayOrderResult}

/-- In an accepted stream an order that reaches the bars finds no future event exactly when its
market has too few bars after the submission. Otherwise it is decided at the one bar of rank
`latency_bars` by open. Bars of other markets change neither: on every other stream with the same
bars of the order's market the result is the same, event indices aside. -/
theorem fill_bar_selection (hsafe : validateBarsAreSafe bars = .ok ())
    (hmetadata : metadataReason context intent = none) (hmarket : intent.orderType = .market)
    (h : replayOne bars costModel context balances intent = .ok (r, balances')) :
    (r.reason = some .noFutureEligibleEvent ↔
      (ownBarsAfter intent bars).length ≤ latencyOf costModel) ∧
    (latencyOf costModel < (ownBarsAfter intent bars).length → ∃ bar index,
      bars[index]? = some bar ∧
      (∀ other, IsNthEarliest (latencyOf costModel) intent bars other ↔ other = bar) ∧
      DecidedAt context costModel intent bar index r) ∧
    ∀ bars', validateBarsAreSafe bars' = .ok () →
      bars'.filter (isOwnMarket intent) = bars.filter (isOwnMarket intent) →
      ∃ r', replayOne bars' costModel context balances intent = .ok (r', balances') ∧
        eraseIndices r' = eraseIndices r := by
  have hstream : SafeStream bars := ((validateBarsAreSafe_iff bars).mp hsafe).1
  refine ⟨?_, ?_, fun bars' _ hown => replayOne_foreign_bars (ownBarsAfter_congr hown) h⟩
  · rw [← @fillBar_eq_none_iff bars costModel intent]
    cases hbar : fillBar bars costModel intent with
    | none => exact iff_of_true (replayOne_of_no_bar hmetadata hmarket hbar h) rfl
    | some entry =>
        obtain ⟨first, -, hattempt⟩ := fillAttempt_of_bar hmetadata hmarket hbar
        unfold replayOne at h
        rw [hattempt] at h
        exact iff_of_false (settleAttempt_decidedAt h).2 nofun
  · intro hlong
    cases hbar : fillBar bars costModel intent with
    | none => exact absurd (fillBar_eq_none_iff.mp hbar) (not_le.mpr hlong)
    | some entry =>
        obtain ⟨bar, index⟩ := entry
        obtain ⟨first, -, hattempt⟩ := fillAttempt_of_bar hmetadata hmarket hbar
        unfold replayOne at h
        rw [hattempt] at h
        refine ⟨bar, index, ?_, ?_, (settleAttempt_decidedAt h).1⟩
        · exact getElem?_of_mem_eligibleBars (List.mem_of_getElem? hbar)
        · intro other
          rw [isNthEarliest_iff hstream costModel intent other, hbar]
          constructor
          · rintro ⟨otherIndex, hother⟩
            cases hother
            rfl
          · rintro rfl
            exact ⟨index, rfl⟩

/-- A whole replay sees only the markets its orders name: on every other stream with the same bars
of these markets the run succeeds alike, with the same balances and results, event indices aside. -/
theorem replayOrders_foreign_bars {bars' : List OHLCTVBar} {intents : List OrderIntent}
    {out : List ReplayOrderResult × Balances}
    (hown : ∀ intent ∈ intents, bars'.filter (isOwnMarket intent) = bars.filter (isOwnMarket intent))
    (h : replayOrders bars costModel context balances intents = .ok out) :
    ∃ out', replayOrders bars' costModel context balances intents = .ok out' ∧
      out'.2 = out.2 ∧ out'.1.map eraseIndices = out.1.map eraseIndices := by
  induction intents generalizing balances out with
  | nil =>
      cases h
      exact ⟨_, rfl, rfl, rfl⟩
  | cons intent intents ih =>
      obtain ⟨r, middle, rs, hone, hrest, hout⟩ := (runSteps_cons_eq_ok_iff _ _ _ _).mp h
      obtain ⟨r', hone', herase⟩ :=
        replayOne_foreign_bars (ownBarsAfter_congr (hown intent List.mem_cons_self)) hone
      obtain ⟨⟨rs', final'⟩, hrest', hfinal, hresults⟩ :=
        ih (fun later hlater => hown later (List.mem_cons_of_mem intent hlater)) hrest
      refine ⟨(r' :: rs', final'), ?_, hfinal, ?_⟩
      · exact (runSteps_cons_eq_ok_iff _ _ _ _).mpr ⟨r', middle, rs', hone', hrest', rfl⟩
      · rw [hout]
        exact congrArg₂ List.cons herase hresults

end Selection

/-! ## An interleaved stream -/

/-- Two bars of `BTC-USD` around one of `ETH-USD`. -/
def interleavedBars : List OHLCTVBar :=
  [flatBar "BTC-USD" 1 0 ⟨100, Decimal.zero_le_hundred⟩ ⟨10, Decimal.zero_le_ten⟩,
    flatBar "ETH-USD" 1 0 ⟨50, Decimal.zero_le_fifty⟩ ⟨10, Decimal.zero_le_ten⟩,
    flatBar "BTC-USD" 2 0 ⟨101, by decide⟩ ⟨10, Decimal.zero_le_ten⟩]

/-- The purchase of `BTC` is decided at the first bar of its market, wherever it stands. -/
theorem fill_bar_selection_interleaved :
    ∃ r left, @replayOne hashlibSha256 interleavedBars none none (balanceDict none) purchase =
        .ok (r, left) ∧
      r.reason ≠ some .noFutureEligibleEvent ∧
      ∃ bar index, interleavedBars[index]? = some bar ∧
        DecidedAt none none purchase bar index r := by
  have hsafe : validateBarsAreSafe interleavedBars = .ok () :=
    ok_unit_of_toBool _ (by decide)
  have hopen : ¬ FillsAtZeroOpen interleavedBars none purchase := by
    rintro ⟨-, entry, hentry, hzero, -⟩
    have hbar : fillBar interleavedBars none purchase =
        some (flatBar "BTC-USD" 1 0 ⟨100, by decide⟩ ⟨10, by decide⟩, 0) := rfl
    rw [hbar] at hentry
    cases hentry
    revert hzero
    decide
  obtain ⟨⟨r, left⟩, hone⟩ :=
    (@replayOne_without_account_iff hashlibSha256 interleavedBars none (balanceDict none)
      purchase).mpr hopen
  obtain ⟨hfuture, hdecided, -⟩ :=
    @fill_bar_selection hashlibSha256 _ _ _ _ _ _ _ hsafe rfl rfl hone
  have hlength : (ownBarsAfter purchase interleavedBars).length = 2 := by decide
  refine ⟨r, left, hone, ?_, ?_⟩
  · rw [Ne, hfuture, hlength]
    decide
  · obtain ⟨bar, index, hbar, -, hdec⟩ := hdecided (by rw [hlength]; decide)
    exact ⟨bar, index, hbar, hdec⟩

end TaModel.Simulation
