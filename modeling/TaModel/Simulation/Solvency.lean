import TaModel.Simulation.Conservation

/-!
# Chronological solvency

Balances are threaded in submission order while fills happen at unrelated event times. Posting the
fills in order of their opening time keeps every balance non-negative as long as no order is listed
before another one, fills strictly later, and credits the key the other one debits. Without that
condition an order can be paid with the proceeds of a later sale.
-/

set_option autoImplicit false

namespace TaModel.Simulation

open TaModel.Contracts TaModel.Library

/-! ## Fills in event order -/

/-- The fill of `a` opens no later than the fill of `b`. -/
def opensNoLater (a b : ReplayOrderResult) : Prop :=
  ∀ s ∈ a.fillEventOpenTs, ∀ t ∈ b.fillEventOpenTs, s ≤ t

instance : DecidableRel opensNoLater := fun a b => by
  unfold opensNoLater
  infer_instance

/-- The filled results by `fill_event_open_ts`, equal times in submission order. -/
def fillsInEventOrder (results : List ReplayOrderResult) : List ReplayOrderResult :=
  (results.filter ReplayOrderResult.isFill).insertionSort opensNoLater

/-- The starting balances as a book. -/
def startingBook (state : SimulatedAccountState) : Book BalanceKey Decimal := availableIn state

/-- Applying the balance changes of the fills in event order never leaves a negative balance. -/
def ChronologicallySolvent (snapshot : InstrumentMasterSnapshot) (state : SimulatedAccountState)
    (results : List ReplayOrderResult) : Prop :=
  ∀ n key, 0 ≤ (startingBook state).postAll
    (((fillsInEventOrder results).take n).map (resultTransfer snapshot)) key

section Condition

variable [Sha256]

/-- The bars let `i` fill strictly later than `j`, on an asset key that `j` pays from. -/
def fundsEarlierFill (bars : List OHLCTVBar) (costModel : Option ExecutionCostModel)
    (c : VenueContext) (i j : OrderIntent) : Bool :=
  match fillAttempt bars costModel (some c) i, fillAttempt bars costModel (some c) j with
  | .fill di, .fill dj =>
      decide ((resultTransfer c.snapshot di).creditKey = (resultTransfer c.snapshot dj).debitKey ∧
        ¬ opensNoLater di dj)
  | _, _ => false

end Condition

/-! ## Results of a run -/

section Results

variable [Sha256]

/-- The transfer of a filled result is the one of its draft, with non-negative amounts. -/
theorem ResultFacts.transfer {bars : List OHLCTVBar} {costModel : Option ExecutionCostModel}
    {c : VenueContext} {intent : OrderIntent} {r : ReplayOrderResult}
    (facts : ResultFacts bars costModel c intent r) (hfill : r.isFill = true) :
    0 ≤ (resultTransfer c.snapshot r).debit ∧ 0 ≤ (resultTransfer c.snapshot r).credit := by
  obtain ⟨draft, instrument, hattempt, hr, hinstrument⟩ := facts.fill hfill
  have ht : resultTransfer c.snapshot r = transferOn instrument draft := by
    unfold resultTransfer
    rw [hinstrument, hr]
    rfl
  rw [ht]
  exact transferOn_signs (fillAttempt_facts hattempt) instrument

/-- Two filled results satisfy the ledger condition when their orders satisfy the condition on the
bars. -/
theorem ResultFacts.notLate {bars : List OHLCTVBar} {costModel : Option ExecutionCostModel}
    {c : VenueContext} {i j : OrderIntent} {ri rj : ReplayOrderResult}
    (hi : ResultFacts bars costModel c i ri) (hj : ResultFacts bars costModel c j rj)
    (hcond : fundsEarlierFill bars costModel c i j = false) (hfi : ri.isFill = true)
    (hfj : rj.isFill = true) (hlate : ¬ opensNoLater ri rj) :
    (resultTransfer c.snapshot ri).creditKey ≠ (resultTransfer c.snapshot rj).debitKey := by
  obtain ⟨di, -, hdi, rfl, -⟩ := hi.fill hfi
  obtain ⟨dj, -, hdj, rfl, -⟩ := hj.fill hfj
  unfold fundsEarlierFill at hcond
  rw [hdi, hdj] at hcond
  intro hkey
  exact of_decide_eq_false hcond ⟨hkey, hlate⟩

omit [Sha256] in
theorem intentGuard_nodup {guard guard' : IntentGuard} {intents : List OrderIntent}
    (h : intents.foldlM IntentGuard.check guard = .ok guard')
    (hseen : guard.seenClientOrderIds.Nodup) :
    (intents.map OrderIntent.clientOrderId).Nodup ∧
      ∀ id ∈ guard.seenClientOrderIds, id ∉ intents.map OrderIntent.clientOrderId := by
  induction intents generalizing guard with
  | nil => exact ⟨List.nodup_nil, fun _ _ => List.not_mem_nil⟩
  | cons intent intents ih =>
      rw [List.foldlM_cons] at h
      obtain ⟨next, hcheck, hrest⟩ := (bind_eq_ok_iff _ _ _).mp h
      obtain ⟨_, hfresh, hcheck⟩ := (bind_eq_ok_iff _ _ _).mp hcheck
      obtain ⟨_, -, hcheck⟩ := (bind_eq_ok_iff _ _ _).mp hcheck
      have hnot : intent.clientOrderId ∉ guard.seenClientOrderIds :=
        (require_eq_ok_iff _ _ _).mp hfresh
      cases hcheck
      obtain ⟨hnodup, hdisjoint⟩ := ih hrest (List.nodup_cons.mpr ⟨hnot, hseen⟩)
      have hhead := hdisjoint intent.clientOrderId List.mem_cons_self
      refine ⟨List.nodup_cons.mpr ⟨hhead, hnodup⟩, ?_⟩
      intro id hid hmem
      rcases List.mem_cons.mp hmem with rfl | htail
      · exact hnot hid
      · exact hdisjoint id (List.mem_cons_of_mem _ hid) htail

omit [Sha256] in
/-- Accepted intents have distinct client order ids. -/
theorem clientOrderIds_nodup {intents : List OrderIntent}
    (h : validateOrderIntents intents = .ok ()) :
    (intents.map OrderIntent.clientOrderId).Nodup := by
  obtain ⟨guard, hguard, -⟩ := (bind_eq_ok_iff _ _ _).mp h
  exact (intentGuard_nodup hguard List.nodup_nil).1

/-- The results of accepted intents are distinct. -/
theorem results_nodup {bars : List OHLCTVBar} {costModel : Option ExecutionCostModel}
    {c : VenueContext} {intents : List OrderIntent} {results : List ReplayOrderResult}
    (hintents : validateOrderIntents intents = .ok ())
    (h : List.Forall₂ (ResultFacts bars costModel c) intents results) : results.Nodup := by
  have hids := List.pairwise_map.mp (clientOrderIds_nodup hintents)
  refine pairwise_of_forall₂ ?_ h hids
  rintro i j ri rj hi hj hne rfl
  exact hne (hi.clientOrderId.symm.trans hj.clientOrderId)

end Results

/-! ## Solvency -/

section Solvency

variable [Sha256]

/-- If no order is listed before one that fills strictly earlier and pays from a key it credits,
the fills are solvent in event order. -/
theorem replay_chronologically_solvent {bars : List OHLCTVBar} {intents : List OrderIntent}
    {runId : String} {costModel : Option ExecutionCostModel} {snapshot : InstrumentMasterSnapshot}
    {state : SimulatedAccountState} {report : ReplayReport}
    (h : replayOhlctvMarketOrders bars intents runId costModel (some snapshot) (some state) =
      .ok report)
    (hcond : intents.Pairwise fun i j =>
      fundsEarlierFill bars costModel ⟨snapshot, state⟩ i j = false) :
    ChronologicallySolvent snapshot state report.results := by
  obtain ⟨_, _, -, hintents, -⟩ := replayOhlctvMarketOrders_ok h
  obtain ⟨balances, final, hrun, -, -⟩ := replay_with_account h
  have hresults := replayOrders_resultFacts hrun
  have hnodup : (report.results.filter ReplayOrderResult.isFill).Nodup :=
    (results_nodup hintents hresults).filter _
  have hsigns : ∀ r ∈ report.results.filter ReplayOrderResult.isFill,
      0 ≤ (resultTransfer snapshot r).debit ∧ 0 ≤ (resultTransfer snapshot r).credit := by
    intro r hr
    obtain ⟨hmem, hfill⟩ := List.mem_filter.mp hr
    obtain ⟨intent, -, facts⟩ := exists_of_mem_right hresults hmem
    exact facts.transfer hfill
  have hstart : startingBook state = (balanceDict (some state)).book := by
    funext key
    exact (available_balanceDict state key).symm
  have hset : (startingBook state).Settles (fillTransfers snapshot report.results) := by
    rw [hstart]
    exact (replayOrders_posts hrun).1
  have hnonneg : ∀ key, 0 ≤ startingBook state key := by
    intro key
    rw [hstart]
    exact balanceDict_nonneg state key
  have hlate : NoLateCredit (resultTransfer snapshot) opensNoLater
      (report.results.filter ReplayOrderResult.isFill) := by
    have hpairs : report.results.Pairwise fun ri rj => ri.isFill = true → rj.isFill = true →
        ¬ opensNoLater ri rj →
        (resultTransfer snapshot ri).creditKey ≠ (resultTransfer snapshot rj).debitKey :=
      pairwise_of_forall₂ (fun _ _ _ _ hi hj hij hfi hfj => hi.notLate hj hij hfi hfj) hresults hcond
    refine (hpairs.filter _).imp_of_mem ?_
    intro ri rj hri hrj hpair
    exact hpair (List.mem_filter.mp hri).2 (List.mem_filter.mp hrj).2
  intro n key
  exact postAll_insertionSort_take_nonneg (resultTransfer snapshot) hnodup hnonneg
    (fun r hr => (hsigns r hr).1) (fun r hr => (hsigns r hr).2) hset hlate n key

end Solvency

/-- The round trip is solvent in event order. -/
theorem replay_chronologically_solvent_round_trip :
    ∃ report,
      @replayOhlctvMarketOrders hashlibSha256 roundTripBars roundTripOrders "RUN" none
        (some (marketSnapshot loosestLimits)) (some (cashState ⟨100, by decide⟩)) = .ok report ∧
      ChronologicallySolvent (marketSnapshot loosestLimits) (cashState ⟨100, by decide⟩)
        report.results := by
  obtain ⟨report, h⟩ := roundTrip_replays
  exact ⟨report, h, @replay_chronologically_solvent hashlibSha256 _ _ _ _ _ _ _ h
    (by decide +kernel)⟩

/-! ## A buy paid from a later sale -/

section EventTransfers

variable [Sha256]

/-- The balance changes in event order, read off the attempts. -/
def eventTransfers (bars : List OHLCTVBar) (costModel : Option ExecutionCostModel)
    (c : VenueContext) (intents : List OrderIntent) : List (Transfer BalanceKey Decimal) :=
  ((postedDrafts (intents.map (fillAttempt bars costModel (some c)))
    ((startingBook c.accountState).settleAll (attemptTransfers bars costModel c intents)).1
    ).insertionSort opensNoLater).map (resultTransfer c.snapshot)

/-- The balance changes of a report in event order do not depend on the identifiers. -/
theorem fillsInEventOrder_transfers {bars : List OHLCTVBar}
    {costModel : Option ExecutionCostModel} {c : VenueContext} {intents : List OrderIntent}
    {out : List ReplayOrderResult × Balances}
    (h : replayOrders bars costModel (some c) (balanceDict (some c.accountState)) intents =
      .ok out) :
    (fillsInEventOrder out.1).map (resultTransfer c.snapshot) =
      eventTransfers bars costModel c intents := by
  have hstart : startingBook c.accountState = (balanceDict (some c.accountState)).book := by
    funext key
    exact (available_balanceDict c.accountState key).symm
  unfold fillsInEventOrder eventTransfers
  rw [replayOrders_filled h, hstart, ← List.map_insertionSort opensNoLater opensNoLater
    ReplayOrderResult.withBuiltId _ (fun _ _ _ _ => Iff.rfl), List.map_map]
  rfl

end EventTransfers

/-- `ETH-USD` trades once, after the bar of `BTC-USD`. -/
def laterSaleBars : List OHLCTVBar :=
  [flatBar "BTC-USD" 1 0 ⟨100, Decimal.zero_le_hundred⟩ ⟨10, Decimal.zero_le_ten⟩,
    flatBar "ETH-USD" 5 0 ⟨100, Decimal.zero_le_hundred⟩ ⟨10, Decimal.zero_le_ten⟩]

/-- A sale of `ETH` is submitted before a purchase of `BTC`. -/
def laterSaleOrders : List OrderIntent :=
  [marketOrder "ORDER-1" "ETH-USD" .sell ⟨1, Decimal.zero_lt_one⟩ 0,
    marketOrder "ORDER-2" "BTC-USD" .buy ⟨1, Decimal.zero_lt_one⟩ 1]

/-- One `ETH` and no cash. -/
def coinState : SimulatedAccountState where
  accountId := "ACCOUNT"
  balances := [⟨"ACCOUNT", "VENUE", "ETH", ⟨1, Decimal.zero_le_one⟩⟩]
  accounts_match := by
    intro balance hmem
    rw [List.mem_singleton.mp hmem]
  keys_unique := List.nodup_singleton _

/-- The purchase at minute one is paid with the cash of the sale at minute five. -/
theorem replay_pays_from_later_sale :
    ∃ report,
      @replayOhlctvMarketOrders hashlibSha256 laterSaleBars laterSaleOrders "RUN" none
        (some (marketSnapshot loosestLimits)) (some coinState) = .ok report ∧
      ¬ ChronologicallySolvent (marketSnapshot loosestLimits) coinState report.results := by
  have hbars : validateBarsAreSafe laterSaleBars = .ok () := ok_unit_of_toBool _ (by decide)
  have hintents : validateOrderIntents laterSaleOrders = .ok () :=
    ok_unit_of_toBool _ (by decide)
  obtain ⟨report, h⟩ := (@replay_with_account_succeeds_iff hashlibSha256 laterSaleBars
    laterSaleOrders "RUN" none (marketSnapshot loosestLimits) coinState).mpr
    ⟨hbars, hintents, by decide⟩
  obtain ⟨balances, final, hrun, -, -⟩ := @replay_with_account hashlibSha256 _ _ _ _ _ _ _ h
  have htransfers := @fillsInEventOrder_transfers hashlibSha256 _ _ _ _ _ hrun
  refine ⟨report, h, ?_⟩
  intro hsolvent
  have hfirst := hsolvent 1 ("VENUE", "USD")
  rw [List.map_take, htransfers] at hfirst
  revert hfirst
  decide +kernel

end TaModel.Simulation
