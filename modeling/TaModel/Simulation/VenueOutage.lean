import TaModel.Simulation.Resumption
import TaModel.Simulation.TwoRuns

/-!
# Venue outages

The status of a venue is read in one place, the metadata check of an order, and balances are kept by
venue. A replay with one venue out of service therefore rejects the orders of that venue, leaves its
balances as they started, and is the undisturbed replay everywhere else.
-/

set_option autoImplicit false

namespace TaModel.Simulation

open TaModel.Contracts TaModel.Library

/-! ## A snapshot with another venue status -/

/-- The venue with the status, when it is the one of that id. -/
def venueWithStatus (venueId : String) (status : VenueStatus) (venue : Venue) : Venue :=
  if venue.venueId = venueId then { venue with status := status } else venue

/-- The snapshot with one venue in another status. -/
def withVenueStatus (snapshot : InstrumentMasterSnapshot) (venueId : String)
    (status : VenueStatus) : InstrumentMasterSnapshot :=
  { snapshot with venues := snapshot.venues.map (venueWithStatus venueId status) }

section Status

variable (snapshot : InstrumentMasterSnapshot) (venueId : String) (status : VenueStatus)

@[simp] theorem venueId_venueWithStatus (venue : Venue) :
    (venueWithStatus venueId status venue).venueId = venue.venueId := by
  unfold venueWithStatus
  split <;> rfl

@[simp] theorem supportedOrderTypes_venueWithStatus (venue : Venue) :
    (venueWithStatus venueId status venue).supportedOrderTypes = venue.supportedOrderTypes := by
  unfold venueWithStatus
  split <;> rfl

/-- The references of a snapshot do not look at the status of a venue. -/
theorem validateReferences_withVenueStatus :
    (withVenueStatus snapshot venueId status).validateReferences = snapshot.validateReferences := by
  have hids : (snapshot.venues.map (venueWithStatus venueId status)).map Venue.venueId =
      snapshot.venues.map Venue.venueId := by
    rw [List.map_map]
    exact List.map_congr_left fun venue _ => venueId_venueWithStatus venueId status venue
  have hsessions : ∀ p : String → Bool,
      ((snapshot.venues.map (venueWithStatus venueId status)).filter fun v => p v.venueId).map
        Venue.venueId = (snapshot.venues.filter fun v => p v.venueId).map Venue.venueId := by
    intro p
    rw [List.filter_map, List.map_map]
    simp only [Function.comp_def, venueId_venueWithStatus]
  have hinstrument : (withVenueStatus snapshot venueId status).validateInstrument =
      snapshot.validateInstrument := by
    funext instrument
    unfold InstrumentMasterSnapshot.validateInstrument withVenueStatus
    simp only [List.filter_map, List.flatMap_map, Function.comp_def, venueId_venueWithStatus,
      supportedOrderTypes_venueWithStatus]
  unfold InstrumentMasterSnapshot.validateReferences
  rw [hinstrument]
  simp only [withVenueStatus, hids]
  rw [hsessions fun id => !snapshot.tradingSessions.any fun t =>
    t.venueId == id && decide (t.status = .active) && t.window.isEffective snapshot.createdAt]
  rfl

theorem find?_withVenueStatus (id : String) :
    (withVenueStatus snapshot venueId status).venues.find? (fun v => v.venueId == id) =
      (snapshot.venues.find? fun v => v.venueId == id).map (venueWithStatus venueId status) := by
  show (snapshot.venues.map (venueWithStatus venueId status)).find? (fun v => v.venueId == id) = _
  rw [List.find?_map]
  simp only [Function.comp_def, venueId_venueWithStatus]

variable {snapshot venueId status} {intent : OrderIntent} {state : SimulatedAccountState}

/-- An order of a venue that is out of service is refused for the venue. -/
theorem metadataRejectReason_of_outage (hclosed : status ≠ .active)
    (hvenue : intent.venueId = venueId) :
    metadataRejectReason intent (withVenueStatus snapshot venueId status) state =
      some .venueNotTradable := by
  unfold metadataRejectReason
  rw [find?_withVenueStatus]
  cases hfind : snapshot.venues.find? fun v => v.venueId == intent.venueId with
  | none => rfl
  | some venue =>
      have hid : venue.venueId = venueId := by
        have hfound := List.find?_some hfind
        rw [← hvenue]
        simpa using hfound
      have hstatus : (venueWithStatus venueId status venue).status = status := by
        rw [venueWithStatus, if_pos hid]
      rw [Option.map_some]
      dsimp only
      rw [if_pos (by rw [hstatus]; exact hclosed)]

/-- Orders of other venues are checked as before. -/
theorem metadataRejectReason_of_other (hvenue : intent.venueId ≠ venueId) :
    metadataRejectReason intent (withVenueStatus snapshot venueId status) state =
      metadataRejectReason intent snapshot state := by
  unfold metadataRejectReason
  rw [find?_withVenueStatus]
  cases hfind : snapshot.venues.find? fun v => v.venueId == intent.venueId with
  | none => rfl
  | some venue =>
      have hid : venue.venueId = intent.venueId := by simpa using List.find?_some hfind
      have hsame : venueWithStatus venueId status venue = venue := by
        rw [venueWithStatus, if_neg]
        rw [hid]
        exact hvenue
      rw [Option.map_some, hsame]
      rfl

end Status

/-! ## Orders during an outage -/

/-- The result refuses the order for a reason: nothing is filled and nothing is charged. -/
structure RefusedFor (reason : ReplayRejectReason) (intent : OrderIntent)
    (r : ReplayOrderResult) : Prop where
  order : RepeatsIntent intent r
  status : r.status = .rejected
  reason : r.reason = some reason
  filled : r.filledQuantity = 0
  remaining : r.remainingQuantity = intent.quantity.val
  cost : r.totalCost = 0

/-- The balances of the disturbed run: those of the undisturbed run, but for the venue that is out,
which keeps what it started with. -/
def Apart (venueId : String) (start undisturbed disturbed : Balances) : Prop :=
  ∀ key : BalanceKey,
    disturbed.lookup key =
      if key.1 = venueId then start.lookup key else undisturbed.lookup key

/-- An order uses balances of its own venue. -/
theorem venue_of_mem_usedKeys {snapshot : InstrumentMasterSnapshot} {intent : OrderIntent}
    {key : BalanceKey} (h : key ∈ usedKeys snapshot intent) : key.1 = intent.venueId := by
  unfold usedKeys at h
  split at h
  · cases h
  · rcases List.mem_cons.mp h with rfl | h
    · rfl
    · rw [List.mem_singleton.mp h]

section Orders

variable [Sha256] {bars : List OHLCTVBar} {costModel : Option ExecutionCostModel}
  {snapshot : InstrumentMasterSnapshot} {state : SimulatedAccountState} {venueId : String}
  {status : VenueStatus} {intent : OrderIntent}

/-- Orders of other venues are replayed as before. -/
theorem replayOne_of_other (hvenue : intent.venueId ≠ venueId) (balances : Balances) :
    replayOne bars costModel (some ⟨withVenueStatus snapshot venueId status, state⟩) balances
      intent = replayOne bars costModel (some ⟨snapshot, state⟩) balances intent := by
  have hattempt :
      fillAttempt bars costModel (some ⟨withVenueStatus snapshot venueId status, state⟩) intent =
        fillAttempt bars costModel (some ⟨snapshot, state⟩) intent := by
    simp only [fillAttempt, frictionlessAttempt, costedAttempt, Option.bind_some,
      metadataRejectReason_of_other hvenue]
    rfl
  rw [replayOne, replayOne, hattempt]
  cases fillAttempt bars costModel (some ⟨snapshot, state⟩) intent with
  | unfilled reason model eligibleIndex attemptIndex => rfl
  | fill draft => rfl

/-- An order that the metadata check refuses stays unfilled, whatever the bars and the balances
are. -/
theorem replayOne_of_refused {context : Option VenueContext} {reason : ReplayRejectReason}
    (hrefused : metadataReason context intent = some reason)
    (hstatus : reason ≠ .noFutureEligibleEvent ∧ reason ≠ .insufficientLiquidity)
    (balances : Balances) :
    ∃ r, replayOne bars costModel context balances intent = .ok (r, balances) ∧
      RefusedFor reason intent r := by
  have hattempt : fillAttempt bars costModel context intent =
      .unfilled reason none none none := by
    rw [fillAttempt, ← metadataReason, hrefused]
  refine ⟨(unfilledDraft intent reason none none none).withBuiltId, ?_, ?_⟩
  · rw [replayOne, hattempt, settleAttempt, unfilledResult_eq]
    rfl
  · refine ⟨⟨rfl, rfl, rfl, rfl, rfl, rfl, rfl, rfl, rfl⟩, ?_, rfl, rfl, rfl, rfl⟩
    exact if_neg (not_or.mpr hstatus)

/-- An order of the venue that is out is refused. -/
theorem replayOne_of_outage (hclosed : status ≠ .active) (hvenue : intent.venueId = venueId)
    (balances : Balances) :
    ∃ r, replayOne bars costModel (some ⟨withVenueStatus snapshot venueId status, state⟩) balances
        intent = .ok (r, balances) ∧ RefusedFor .venueNotTradable intent r := by
  have hrefused : metadataReason (some ⟨withVenueStatus snapshot venueId status, state⟩) intent =
      some .venueNotTradable := metadataRejectReason_of_outage hclosed hvenue
  exact replayOne_of_refused hrefused (by decide) balances

/-- One order keeps the two runs apart at the venue and together elsewhere. -/
theorem Apart.step (hclosed : status ≠ .active) {start b c b' c' : Balances}
    {r r' : ReplayOrderResult} (hapart : Apart venueId start b c)
    (hone : replayOne bars costModel (some ⟨snapshot, state⟩) b intent = .ok (r, b'))
    (hone' : replayOne bars costModel (some ⟨withVenueStatus snapshot venueId status, state⟩) c
      intent = .ok (r', c')) :
    Apart venueId start b' c' ∧ (r.venueId ≠ venueId → r' = r) := by
  by_cases hvenue : intent.venueId = venueId
  · obtain ⟨refused, hrefused, -⟩ := @replayOne_of_outage _ bars costModel snapshot state venueId
      status intent hclosed hvenue c
    rw [hrefused] at hone'
    cases hone'
    constructor
    · intro key
      rw [hapart key]
      split
      · rfl
      · next hother =>
          -- the undisturbed order writes under keys of its venue
          have hframe := (replayOne_local (fun _ _ => rfl) hone).1 key
          refine (hframe fun hkey => hother ?_).symm
          exact (venue_of_mem_usedKeys hkey).trans hvenue
    · intro hother
      exact absurd ((replayOne_repeats hone).venueId.trans hvenue) hother
  · -- both runs read the same balances and post the same fill
    rw [replayOne_of_other hvenue] at hone'
    have hagree : AgreeOn (usedKeysIn (some ⟨snapshot, state⟩) intent) b c := by
      intro key hkey
      rw [hapart key, if_neg]
      rw [venue_of_mem_usedKeys hkey]
      exact hvenue
    obtain ⟨hframe, c'', hone'', hkeep⟩ := replayOne_local hagree hone
    rw [hone''] at hone'
    cases hone'
    refine ⟨?_, fun _ => rfl⟩
    intro key
    split
    · next hkey =>
        have hunused : key ∉ usedKeysIn (some ⟨snapshot, state⟩) intent := by
          intro hmem
          exact hvenue ((venue_of_mem_usedKeys hmem).symm.trans hkey)
        rw [(replayOne_local (fun _ _ => rfl) hone'').1 key hunused, hapart key, if_pos hkey]
    · next hkey =>
        have hsame := hapart key
        rw [if_neg hkey] at hsame
        exact (hkeep key hsame.symm).symm

/-- With a venue out of service its orders are refused and its balances stay as they started; every
other order gets the result it has without the outage, and every other balance ends the same. -/
theorem venue_outage_contained {intents : List OrderIntent} {runId outageId : String}
    {report : ReplayReport} (hclosed : status ≠ .active) (houtageId : isCanonicalId outageId = true)
    (h : replayOhlctvMarketOrders bars intents runId costModel (some snapshot) (some state) =
      .ok report) :
    ∃ outage final final',
      replayOhlctvMarketOrders bars intents outageId costModel
        (some (withVenueStatus snapshot venueId status)) (some state) = .ok outage ∧
      List.Forall₂ (fun intent r => intent.venueId = venueId →
        RefusedFor .venueNotTradable intent r) intents outage.results ∧
      List.Forall₂ (fun r r' => r.venueId ≠ venueId → r' = r) report.results outage.results ∧
      report.finalAccountState = some final ∧ outage.finalAccountState = some final' ∧
      ∀ key, availableIn final' key =
        if key.1 = venueId then availableIn state key else availableIn final key := by
  obtain ⟨hbars, hintents, -⟩ := (replay_with_account_succeeds_iff _ _ _ _ _ _).mp ⟨report, h⟩
  obtain ⟨outage, houtage⟩ := (replay_with_account_succeeds_iff bars intents outageId costModel
    (withVenueStatus snapshot venueId status) state).mpr ⟨hbars, hintents, houtageId⟩
  obtain ⟨context, b, -, -, hcontext, hrun, -, -, hfinal⟩ := replayOhlctvMarketOrders_ok h
  obtain ⟨context', c, -, -, hcontext', hrun', -, -, hfinal'⟩ :=
    replayOhlctvMarketOrders_ok houtage
  cases hcontext
  cases hcontext'
  obtain ⟨final, hbuilt, hsome⟩ := (map_eq_ok_iff _ _ _).mp hfinal
  obtain ⟨final', hbuilt', hsome'⟩ := (map_eq_ok_iff _ _ _).mp hfinal'
  -- the two runs are apart at the venue from the start, and every order keeps them so
  have hstart : Apart venueId (balanceDict (some state)) (balanceDict (some state))
      (balanceDict (some state)) := by
    intro key
    split <;> rfl
  have hstep : ∀ intent ∈ intents, ∀ s t r s' r' t',
      Apart venueId (balanceDict (some state)) s t →
      replayOne bars costModel (some ⟨snapshot, state⟩) s intent = .ok (r, s') →
      replayOne bars costModel (some ⟨withVenueStatus snapshot venueId status, state⟩) t intent =
        .ok (r', t') →
      Apart venueId (balanceDict (some state)) s' t' ∧ (r.venueId ≠ venueId → r' = r) := by
    intro intent _ s t r s' r' t' hS hone hone'
    exact hS.step hclosed hone hone'
  obtain ⟨hapart, hresults⟩ := runSteps_lockstep hstep hstart hrun hrun'
  refine ⟨outage, final, final', houtage, ?_, hresults, hsome.symm, hsome'.symm, ?_⟩
  · refine (replayOrders_isReplayOf hrun').imp ?_
    rintro intent r ⟨before, after, hone⟩ hvenue
    obtain ⟨refused, hrefused, hfacts⟩ := @replayOne_of_outage _ bars costModel snapshot state
      venueId status intent hclosed hvenue before
    rw [hrefused] at hone
    cases hone
    exact hfacts
  · intro key
    rw [availableIn_finalState hbuilt', availableIn_finalState hbuilt, Balances.available,
      hapart key]
    split
    · exact available_balanceDict state key
    · rfl

end Orders

/-- Maintenance of the only venue refuses both competing purchases. -/
theorem venue_outage_contained_maintenance : ∃ outage final',
    @replayOhlctvMarketOrders hashlibSha256 (shorterBars ++ furtherBars) competingOrders
      "RUN:OUTAGE" none (some (withVenueStatus (marketSnapshot loosestLimits) "VENUE" .maintenance))
      (some (cashState ⟨100, Decimal.zero_le_hundred⟩)) = .ok outage ∧
    List.Forall₂ (fun intent r => intent.venueId = "VENUE" → RefusedFor .venueNotTradable intent r)
      competingOrders outage.results ∧
    outage.finalAccountState = some final' ∧ availableIn final' ("VENUE", "USD") = 100 := by
  obtain ⟨report, hreport⟩ := (competing_replays ⟨100, Decimal.zero_le_hundred⟩).2
  have hmaintenance : VenueStatus.maintenance ≠ .active := by decide
  have hrunId : isCanonicalId "RUN:OUTAGE" = true := by decide
  obtain ⟨outage, final, final', houtage, hrefused, -, -, hfinal', hbalances⟩ :=
    @venue_outage_contained hashlibSha256 _ _ _ _ "VENUE" _ _ _ _ _ hmaintenance hrunId hreport
  refine ⟨outage, final', houtage, hrefused, hfinal', ?_⟩
  rw [hbalances, if_pos rfl]
  rfl

end TaModel.Simulation
