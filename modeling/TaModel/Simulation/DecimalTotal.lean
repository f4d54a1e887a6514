import TaModel.Simulation.DecimalStep

/-!
# Totality in decimal arithmetic

Between two orders a run holds the balances of its ledger (`LedgerAfter`): the fills that were paid
for are posted, everything else leaves the balances alone. A replay in the decimal context returns a
report exactly when every order has what it needs in front of its ledger.
-/

set_option autoImplicit false

namespace TaModel.Simulation

open TaModel.Contracts TaModel.Library

/-! ## The balances between orders -/

/-- A fill that the account pays for. -/
structure PostsFill (a : Arithmetic) (bars : List OHLCTVBar) (costModel : Option ExecutionCostModel)
    (c : VenueContext) (balances : Balances) (intent : OrderIntent) (entry : OHLCTVBar × Nat)
    (filledQuantity : Decimal) (instrument : Instrument) : Prop where
  fills : Fills a bars costModel (some c) intent entry filledQuantity
  listed : listedInstrument c intent = some instrument
  affords : Affords a intent.side (baseAndQuote balances intent instrument)
    (amountsAt a costModel intent entry.1 filledQuantity).effectiveNotional
    (amountsAt a costModel intent entry.1 filledQuantity).feeCost filledQuantity

/-- The balances an order leaves: a fill that is paid for is posted, everything else leaves them
alone. -/
inductive Leaves (a : Arithmetic) (bars : List OHLCTVBar) (costModel : Option ExecutionCostModel) :
    Option VenueContext → Balances → OrderIntent → Balances → Prop
  | posted {c : VenueContext} {balances : Balances} {intent : OrderIntent}
      {entry : OHLCTVBar × Nat} {filled : Decimal} {instrument : Instrument}
      (h : PostsFill a bars costModel c balances intent entry filled instrument) :
      Leaves a bars costModel (some c) balances intent
        (postedBalances a balances intent instrument
          (amountsAt a costModel intent entry.1 filled).effectiveNotional
          (amountsAt a costModel intent entry.1 filled).feeCost filled)
  | kept {context : Option VenueContext} {balances : Balances} {intent : OrderIntent}
      (h : ∀ c ∈ context, ∀ entry filled instrument,
        ¬ PostsFill a bars costModel c balances intent entry filled instrument) :
      Leaves a bars costModel context balances intent balances

/-- The balances after a list of orders. -/
inductive LedgerAfter (a : Arithmetic) (bars : List OHLCTVBar)
    (costModel : Option ExecutionCostModel) (context : Option VenueContext) :
    Balances → List OrderIntent → Balances → Prop
  | nil {balances : Balances} : LedgerAfter a bars costModel context balances [] balances
  | cons {balances next reached : Balances} {intent : OrderIntent} {intents : List OrderIntent}
      (hstep : Leaves a bars costModel context balances intent next)
      (hrest : LedgerAfter a bars costModel context next intents reached) :
      LedgerAfter a bars costModel context balances (intent :: intents) reached

/-- Every order has what it needs in front of the balances that the orders before it leave. -/
def RunReplayable (a : Arithmetic) (bars : List OHLCTVBar) (costModel : Option ExecutionCostModel)
    (context : Option VenueContext) (balances : Balances) (intents : List OrderIntent) : Prop :=
  ∀ before intent after, intents = before ++ intent :: after →
    ∀ reached, LedgerAfter a bars costModel context balances before reached →
      Replayable a bars costModel context reached intent

section Steps

variable [Sha256] {a : Arithmetic} {bars : List OHLCTVBar}
  {costModel : Option ExecutionCostModel} {context : Option VenueContext} {balances : Balances}
  {intent : OrderIntent}

omit [Sha256] in
theorem PostsFill.unique {c : VenueContext} {entry entry' : OHLCTVBar × Nat}
    {filled filled' : Decimal} {instrument instrument' : Instrument}
    (h : PostsFill a bars costModel c balances intent entry filled instrument)
    (h' : PostsFill a bars costModel c balances intent entry' filled' instrument') :
    entry' = entry ∧ filled' = filled ∧ instrument' = instrument := by
  obtain ⟨rfl, rfl⟩ := h.fills.unique h'.fills
  exact ⟨rfl, rfl, Option.some.inj (h'.listed.symm.trans h.listed)⟩

omit [Sha256] in
theorem Leaves.unique {next next' : Balances}
    (h : Leaves a bars costModel context balances intent next)
    (h' : Leaves a bars costModel context balances intent next') : next' = next := by
  cases h with
  | posted hposts =>
      cases h' with
      | posted hposts' =>
          obtain ⟨rfl, rfl, rfl⟩ := hposts.unique hposts'
          rfl
      | kept hnone => exact absurd hposts (hnone _ rfl _ _ _)
  | kept hnone =>
      cases h' with
      | posted hposts' => exact absurd hposts' (hnone _ rfl _ _ _)
      | kept _ => rfl

omit [Sha256] in
theorem LedgerAfter.unique {intents : List OrderIntent} {reached reached' : Balances}
    (h : LedgerAfter a bars costModel context balances intents reached)
    (h' : LedgerAfter a bars costModel context balances intents reached') : reached' = reached := by
  induction h with
  | nil =>
      cases h'
      rfl
  | cons hstep _ ih =>
      cases h' with
      | cons hstep' hrest' =>
          obtain rfl := hstep.unique hstep'
          exact ih hrest'

/-! ## Results and balances -/

theorem draftOf_repeats (firstIndex : Nat) (entry : OHLCTVBar × Nat) (filled : Decimal)
    (amounts : FillAmounts) :
    RepeatsIntent intent (draftOf costModel intent firstIndex entry filled amounts) := by
  cases costModel with
  | none => exact ⟨rfl, rfl, rfl, rfl, rfl, rfl, rfl, rfl, rfl⟩
  | some model => exact ⟨rfl, rfl, rfl, rfl, rfl, rfl, rfl, rfl, rfl⟩

/-- A filled attempt is the draft of a fill with its amounts. -/
theorem fillAttemptIn_fill {draft : ReplayOrderResult}
    (h : fillAttemptIn a bars costModel context intent = .ok (.fill draft)) :
    ∃ firstIndex entry filled, Fills a bars costModel context intent entry filled ∧
      draft = draftOf costModel intent firstIndex entry filled
        (amountsAt a costModel intent entry.1 filled) := by
  by_cases hreach : ∃ entry, Reaches bars costModel context intent entry
  · obtain ⟨entry, hentry⟩ := hreach
    obtain ⟨first, -, hattempt⟩ := fillAttemptIn_of_reaches (a := a) hentry
    rw [hattempt, attemptOnIn_eq_ok_iff] at h
    cases h with
    | filled _ haccept _ hliquid _ =>
        exact ⟨first.2, entry, _, ⟨hentry, haccept, hliquid⟩, rfl⟩
  · obtain ⟨hattempt, reason, model, eligibleIndex, hunfilled⟩ :=
      fillAttemptIn_of_not_reaches (a := a) fun entry hentry => hreach ⟨entry, hentry⟩
    rw [hattempt, hunfilled] at h
    cases h

/-- The fee of a fill is covered by its notional. -/
theorem feeCost_le {firstIndex : Nat} {entry : OHLCTVBar × Nat} {filled quote : Decimal}
    {amounts : FillAmounts} (hamounts : amounts = amountsAt a costModel intent entry.1 filled)
    (hquote : 0 ≤ quote) (hnotional : 0 ≤ amounts.effectiveNotional) :
    (draftOf costModel intent firstIndex entry filled amounts).feeCost ≤
      a.round (quote + amounts.effectiveNotional) := by
  have hproceeds := add_nonneg hquote hnotional
  cases costModel with
  | none => exact Arithmetic.round_nonneg hproceeds
  | some model =>
      have hfee : (draftOf (some model) intent firstIndex entry filled amounts).feeCost =
          a.round (|amounts.effectiveNotional| * model.takerFeeRate.val) := by
        rw [hamounts]
        rfl
      rw [hfee, abs_of_nonneg hnotional]
      apply a.round_mono
      have hrate : model.takerFeeRate.val ≤ 1 := model.takerFeeRate.property.2.trans (by norm_num)
      exact (mul_le_of_le_one_right hnotional hrate).trans (le_add_of_nonneg_left hquote)

/-- `_apply_balance_or_reject` rejects the fill, or posts it to the two balances. -/
theorem applyBalanceOrRejectIn_cases {c : VenueContext} {result r : ReplayOrderResult}
    {balances' : Balances}
    (h : applyBalanceOrRejectIn a intent result c.snapshot balances = .ok (r, balances')) :
    ∃ instrument, listedInstrument c intent = some instrument ∧
      ((¬ Affords a intent.side (baseAndQuote balances intent instrument) result.effectiveNotional
            result.feeCost result.filledQuantity ∧ balances' = balances ∧
          unfilledResultIn a intent (shortfall intent.side) none none none = .ok r) ∨
        (Affords a intent.side (baseAndQuote balances intent instrument) result.effectiveNotional
            result.feeCost result.filledQuantity ∧ r = result ∧
          balances' = postedBalances a balances intent instrument result.effectiveNotional
            result.feeCost result.filledQuantity)) := by
  unfold applyBalanceOrRejectIn at h
  cases hlisted : listedInstrument c intent with
  | none =>
      unfold listedInstrument at hlisted
      rw [hlisted] at h
      cases h
  | some instrument =>
      have hfind := hlisted
      unfold listedInstrument at hfind
      rw [hfind] at h
      refine ⟨instrument, rfl, ?_⟩
      unfold postedBalances
      cases hside : intent.side with
      | buy =>
          simp only [hside] at h
          obtain ⟨debit, hdebit, h⟩ := (bind_eq_ok_iff _ _ _).mp h
          obtain ⟨-, rfl⟩ := Arithmetic.finalize_eq_ok_iff.mp hdebit
          split at h
          · next hshort =>
              obtain ⟨rejected, hrejected, h⟩ := (bind_eq_ok_iff _ _ _).mp h
              cases h
              exact .inl ⟨not_le.mpr hshort, rfl, hrejected⟩
          · next hpaid =>
              simp only [bind_eq_ok_iff, Arithmetic.finalize_eq_ok_iff] at h
              obtain ⟨quote, ⟨-, rfl⟩, base, ⟨-, rfl⟩, h⟩ := h
              cases h
              exact .inr ⟨not_lt.mp hpaid, rfl, rfl⟩
      | sell =>
          simp only [hside] at h
          split at h
          · next hshort =>
              obtain ⟨rejected, hrejected, h⟩ := (bind_eq_ok_iff _ _ _).mp h
              cases h
              exact .inl ⟨not_le.mpr hshort, rfl, hrejected⟩
          · next hheld =>
              simp only [bind_eq_ok_iff, Arithmetic.finalize_eq_ok_iff] at h
              obtain ⟨base, ⟨-, rfl⟩, proceeds, ⟨-, rfl⟩, quote, ⟨-, rfl⟩, h⟩ := h
              cases h
              exact .inr ⟨not_lt.mp hheld, rfl, rfl⟩

/-- A result is a validated draft that names its intent. -/
theorem replayOneIn_result {r : ReplayOrderResult} {balances' : Balances}
    (h : replayOneIn a bars costModel context balances intent = .ok (r, balances')) :
    ∃ draft : ReplayOrderResult, draft.validateFieldsIn a = .ok () ∧ r = draft.withBuiltId ∧
      RepeatsIntent intent draft := by
  have hunfilled : ∀ {reason model eligibleIndex attemptIndex},
      unfilledResultIn a intent reason model eligibleIndex attemptIndex = .ok r →
      ∃ draft : ReplayOrderResult, draft.validateFieldsIn a = .ok () ∧ r = draft.withBuiltId ∧
        RepeatsIntent intent draft := by
    intro reason model eligibleIndex attemptIndex hr
    obtain ⟨hvalid, rfl⟩ := (ReplayOrderResult.constructIn_eq_ok_iff _ _).mp hr
    exact ⟨_, hvalid, rfl, ⟨rfl, rfl, rfl, rfl, rfl, rfl, rfl, rfl, rfl⟩⟩
  obtain ⟨attempt, hattempt, hsettle⟩ := (bind_eq_ok_iff _ _ _).mp h
  cases attempt with
  | unfilled reason model eligibleIndex attemptIndex =>
      obtain ⟨result, hresult, hout⟩ := (bind_eq_ok_iff _ _ _).mp hsettle
      cases hout
      exact hunfilled hresult
  | fill draft =>
      obtain ⟨firstIndex, entry, filled, -, rfl⟩ := fillAttemptIn_fill hattempt
      obtain ⟨result, hresult, hsettle⟩ := (bind_eq_ok_iff _ _ _).mp hsettle
      obtain ⟨hvalid, rfl⟩ := (ReplayOrderResult.constructIn_eq_ok_iff _ _).mp hresult
      cases context with
      | none =>
          cases hsettle
          exact ⟨_, hvalid, rfl, draftOf_repeats _ _ _ _⟩
      | some c =>
          obtain ⟨_, -, ⟨-, -, hr⟩ | ⟨-, rfl, -⟩⟩ := applyBalanceOrRejectIn_cases hsettle
          · exact hunfilled hr
          · exact ⟨_, hvalid, rfl, draftOf_repeats _ _ _ _⟩

/-- One order leaves the balances with its fill posted, if it has one that is paid for. -/
theorem replayOneIn_leaves {r : ReplayOrderResult} {balances' : Balances}
    (h : replayOneIn a bars costModel context balances intent = .ok (r, balances')) :
    Leaves a bars costModel context balances intent balances' := by
  obtain ⟨attempt, hattempt, hsettle⟩ := (bind_eq_ok_iff _ _ _).mp h
  cases attempt with
  | unfilled reason model eligibleIndex attemptIndex =>
      obtain ⟨result, -, hout⟩ := (bind_eq_ok_iff _ _ _).mp hsettle
      cases hout
      apply Leaves.kept
      rintro c ⟨⟩ entry filled instrument hposts
      obtain ⟨first, -, hon⟩ := fillAttemptIn_of_reaches (a := a) hposts.fills.reaches
      rw [hon, attemptOnIn_eq_ok_iff] at hattempt
      cases hattempt with
      | refused _ hrefuse => exact hrefuse hposts.fills.accepted
      | illiquid _ _ _ hdry =>
          rw [hposts.fills.liquid] at hdry
          cases hdry
  | fill draft =>
      obtain ⟨firstIndex, entry, filled, hfills, rfl⟩ := fillAttemptIn_fill hattempt
      obtain ⟨result, hresult, hsettle⟩ := (bind_eq_ok_iff _ _ _).mp hsettle
      obtain ⟨-, rfl⟩ := (ReplayOrderResult.constructIn_eq_ok_iff _ _).mp hresult
      cases context with
      | none =>
          cases hsettle
          exact .kept fun c hc => by cases hc
      | some c =>
          obtain ⟨instrument, hlisted, hcase⟩ := applyBalanceOrRejectIn_cases hsettle
          obtain ⟨hnotional, hfee, hfilled⟩ :=
            @draftOf_amounts _ a costModel intent firstIndex entry filled hfills.liquid
          rw [hnotional, hfee, hfilled] at hcase
          rcases hcase with ⟨hnot, rfl, -⟩ | ⟨hafford, -, rfl⟩
          · apply Leaves.kept
            rintro c' ⟨⟩ entry' filled' instrument' hposts
            obtain ⟨rfl, rfl⟩ := hfills.unique hposts.fills
            obtain rfl := Option.some.inj (hlisted.symm.trans hposts.listed)
            exact hnot hposts.affords
          · exact .posted ⟨hfills, hlisted, hafford⟩

/-- One order keeps every balance non-negative. -/
theorem replayOneIn_nonneg {r : ReplayOrderResult} {balances' : Balances}
    (hnonneg : ∀ key, 0 ≤ balances.available key)
    (h : replayOneIn a bars costModel context balances intent = .ok (r, balances'))
    (key : BalanceKey) : 0 ≤ balances'.available key := by
  obtain ⟨attempt, hattempt, hsettle⟩ := (bind_eq_ok_iff _ _ _).mp h
  cases attempt with
  | unfilled reason model eligibleIndex attemptIndex =>
      obtain ⟨result, -, hout⟩ := (bind_eq_ok_iff _ _ _).mp hsettle
      cases hout
      exact hnonneg key
  | fill draft =>
      obtain ⟨firstIndex, entry, filled, -, rfl⟩ := fillAttemptIn_fill hattempt
      obtain ⟨result, hresult, hsettle⟩ := (bind_eq_ok_iff _ _ _).mp hsettle
      obtain ⟨hvalid, rfl⟩ := (ReplayOrderResult.constructIn_eq_ok_iff _ _).mp hresult
      cases context with
      | none =>
          cases hsettle
          exact hnonneg key
      | some c =>
          obtain ⟨instrument, -, ⟨-, rfl, -⟩ | ⟨hafford, -, hbalances⟩⟩ :=
            applyBalanceOrRejectIn_cases hsettle
          · exact hnonneg key
          · obtain ⟨hbounds, -⟩ := (ReplayOrderResult.validateFieldsIn_eq_ok_iff _).mp hvalid
            obtain ⟨-, -, hfilled, -, -, -, -, hnotional, -⟩ := hbounds
            have hbase := hnonneg (intent.venueId, instrument.baseAssetId)
            have hquote := hnonneg (intent.venueId, instrument.quoteAssetId)
            have heffective : (draftOf costModel intent firstIndex entry filled
                (amountsAt a costModel intent entry.1 filled)).effectiveNotional =
                (amountsAt a costModel intent entry.1 filled).effectiveNotional := by
              cases costModel <;> rfl
            rw [heffective] at hnotional
            have hfee := @feeCost_le _ a costModel intent firstIndex entry filled _ _ rfl hquote
              hnotional
            rw [← heffective] at hfee
            rw [hbalances]
            unfold postedBalances
            cases hside : intent.side with
            | buy =>
                simp only [hside, Affords] at hafford ⊢
                rw [available_insert, available_insert]
                split_ifs
                · exact Arithmetic.round_nonneg (add_nonneg hbase hfilled)
                · exact Arithmetic.round_nonneg (sub_nonneg.mpr hafford)
                · exact hnonneg key
            | sell =>
                simp only [hside, Affords] at hafford ⊢
                rw [available_insert, available_insert]
                split_ifs
                · refine Arithmetic.round_nonneg (sub_nonneg.mpr ?_)
                  exact hfee
                · exact Arithmetic.round_nonneg (sub_nonneg.mpr hafford)
                · exact hnonneg key

end Steps

/-! ## Whole replays -/

theorem accounted_of_validateFieldsIn {a : Arithmetic} {r : ReplayOrderResult}
    (h : r.validateFieldsIn a = .ok ()) : Accounted r := by
  obtain ⟨-, -, -, -, -, -, -, -, hchecks⟩ := (ReplayOrderResult.validateFieldsIn_eq_ok_iff r).mp h
  cases hfill : r.isFill with
  | true => exact Or.inl hfill
  | false =>
      have hnone : r.validateNoFill = .ok () := by rwa [hfill] at hchecks
      obtain ⟨_, hreason, -⟩ := (bind_eq_ok_iff _ _ _).mp hnone
      exact Or.inr ((require_eq_ok_iff _ _ _).mp hreason)

section Replays

variable [Sha256] {a : Arithmetic} {bars : List OHLCTVBar} {intents : List OrderIntent}
  {costModel : Option ExecutionCostModel} {snapshot : Option InstrumentMasterSnapshot}
  {state : Option SimulatedAccountState} {context : Option VenueContext} {runId : String}

/-- A run leaves the balances of its ledger. -/
theorem replayOrdersIn_ledger {balances : Balances} {out : List ReplayOrderResult × Balances}
    (h : replayOrdersIn a bars costModel context balances intents = .ok out) :
    LedgerAfter a bars costModel context balances intents out.2 := by
  unfold replayOrdersIn at h
  induction intents generalizing balances out with
  | nil =>
      cases h
      exact .nil
  | cons intent intents ih =>
      obtain ⟨r, next, rest, hone, hrest, -⟩ := (runSteps_cons_eq_ok_iff _ _ _ _).mp h
      have htail : LedgerAfter a bars costModel context next intents (rest, out.2).2 := ih hrest
      exact .cons (replayOneIn_leaves hone) htail

theorem exists_replayOrdersIn_iff {balances : Balances} :
    (∃ out, replayOrdersIn a bars costModel context balances intents = .ok out) ↔
      RunReplayable a bars costModel context balances intents := by
  have hsteps := runSteps_succeeds_iff_reached
    (fun balances intent => @exists_replayOneIn_iff _ a bars costModel context balances intent)
    balances intents
  refine ⟨?_, fun hneeds => hsteps.mpr ?_⟩
  · rintro ⟨out, hrun⟩ before intent after hsplit reached hledger
    -- the orders in front of this one were replayed, so their ledger is the state they reached
    have hrun' := hrun
    unfold replayOrdersIn at hrun'
    rw [hsplit] at hrun'
    obtain ⟨results, reached', _, hbefore, -⟩ := (runSteps_append_eq_ok_iff _ _ _ _).mp hrun'
    obtain rfl := (replayOrdersIn_ledger hbefore).unique hledger
    exact hsteps.mp ⟨out, hrun⟩ before intent after hsplit results _ hbefore
  · intro before intent after hsplit results reached hbefore
    exact hneeds before intent after hsplit reached (replayOrdersIn_ledger hbefore)

theorem replayOrdersIn_results {balances : Balances} {out : List ReplayOrderResult × Balances}
    (h : replayOrdersIn a bars costModel context balances intents = .ok out) :
    List.Forall₂ (fun intent r => RepeatsIntent intent r ∧ Accounted r) intents out.1 := by
  have hstep : ∀ b intent r b', True → replayOneIn a bars costModel context b intent = .ok (r, b') →
      True ∧ (RepeatsIntent intent r ∧ Accounted r) := by
    intro b intent r b' _ hone
    obtain ⟨draft, hvalid, rfl, hrepeats⟩ := replayOneIn_result hone
    obtain ⟨h1, h2, h3, h4, h5, h6, h7, h8, h9⟩ := hrepeats
    exact ⟨trivial, ⟨h1, h2, h3, h4, h5, h6, h7, h8, h9⟩, accounted_of_validateFieldsIn hvalid⟩
  exact runSteps_forall₂ hstep trivial h

theorem replayOrdersIn_nonneg {balances : Balances} {out : List ReplayOrderResult × Balances}
    (hnonneg : ∀ key, 0 ≤ balances.available key)
    (h : replayOrdersIn a bars costModel context balances intents = .ok out) (key : BalanceKey) :
    0 ≤ out.2.available key := by
  have hstep : ∀ b intent r b', (∀ key, 0 ≤ Balances.available b key) →
      replayOneIn a bars costModel context b intent = .ok (r, b') →
      ∀ key, 0 ≤ Balances.available b' key := fun _ _ _ _ hb hone => replayOneIn_nonneg hb hone
  exact runSteps_invariant hstep hnonneg h key

/-- What a report of a replay is made of. -/
theorem replayMarketOrdersIn_ok {report : ReplayReport}
    (h : replayMarketOrdersIn a bars intents runId costModel snapshot state = .ok report) :
    ∃ context balances, validateBarsAreSafe bars = .ok () ∧ validateOrderIntents intents = .ok () ∧
      pairContext snapshot state = .ok context ∧
      replayOrdersIn a bars costModel context (balanceDict state) intents =
        .ok (report.results, balances) ∧
      isCanonicalId runId = true ∧ buildAccountState state balances = .ok report.finalAccountState := by
  unfold replayMarketOrdersIn at h
  obtain ⟨_, hbars, h⟩ := (bind_eq_ok_iff _ _ _).mp h
  obtain ⟨_, hintents, h⟩ := (bind_eq_ok_iff _ _ _).mp h
  obtain ⟨context, hcontext, h⟩ := (bind_eq_ok_iff _ _ _).mp h
  obtain ⟨⟨results, balances⟩, hrun, h⟩ := (bind_eq_ok_iff _ _ _).mp h
  obtain ⟨finalState, hfinal, h⟩ := (bind_eq_ok_iff _ _ _).mp h
  obtain ⟨_, hvalid, h⟩ := (bind_eq_ok_iff _ _ _).mp h
  obtain ⟨_, hrunId, -⟩ := (bind_eq_ok_iff _ _ _).mp hvalid
  cases h
  exact ⟨context, balances, hbars, hintents, hcontext, hrun, (require_eq_ok_iff _ _ _).mp hrunId,
    hfinal⟩

/-- A run over accepted input makes a report. -/
theorem exists_replayMarketOrdersIn {out : List ReplayOrderResult × Balances}
    (hbars : validateBarsAreSafe bars = .ok ()) (hintents : validateOrderIntents intents = .ok ())
    (hcontext : pairContext snapshot state = .ok context)
    (hrun : replayOrdersIn a bars costModel context (balanceDict state) intents = .ok out)
    (hrunId : isCanonicalId runId = true) :
    ∃ report, replayMarketOrdersIn a bars intents runId costModel snapshot state = .ok report := by
  obtain ⟨results, balances⟩ := out
  obtain ⟨final, hbuild⟩ : ∃ final, buildAccountState state balances = .ok final := by
    cases state with
    | none => exact ⟨none, rfl⟩
    | some s =>
        obtain ⟨final, hfinal⟩ := finalState_total s.accountId
          (replayOrdersIn_nonneg (balanceDict_nonneg s) hrun)
        exact ⟨some final, (map_eq_ok_iff _ _ _).mpr ⟨final, hfinal, rfl⟩⟩
  unfold replayMarketOrdersIn
  rw [hbars, ok_bind, hintents, ok_bind, hcontext, ok_bind, hrun, ok_bind]
  dsimp only
  rw [hbuild, ok_bind]
  refine ⟨_, (bind_eq_ok_iff _ _ _).mpr ⟨(), ?_, rfl⟩⟩
  unfold ReplayReport.validate
  rw [require_of hrunId, ok_bind, require_of rfl, ok_bind, require_of rfl, ok_bind,
    require_of rfl, ok_bind]
  exact require_of rfl _

/-- On accepted bars and intents a replay returns a report with one accounted result for each
intent exactly when its run id is canonical and every order has what it needs in front of the
balances that it meets. -/
theorem replay_total_iff (hbars : validateBarsAreSafe bars = .ok ())
    (hintents : validateOrderIntents intents = .ok ())
    (hcontext : pairContext snapshot state = .ok context) :
    (∃ report, replayMarketOrdersIn .context bars intents runId costModel snapshot state =
        .ok report ∧
        List.Forall₂ (fun intent r => RepeatsIntent intent r ∧ Accounted r) intents
          report.results) ↔
      isCanonicalId runId = true ∧
        RunReplayable .context bars costModel context (balanceDict state) intents := by
  constructor
  · rintro ⟨report, h, -⟩
    obtain ⟨context', balances, -, -, hcontext', hrun, hrunId, -⟩ := replayMarketOrdersIn_ok h
    obtain rfl := Except.ok.inj (hcontext'.symm.trans hcontext)
    exact ⟨hrunId, exists_replayOrdersIn_iff.mp ⟨_, hrun⟩⟩
  · rintro ⟨hrunId, hneeds⟩
    obtain ⟨out, hrun⟩ := exists_replayOrdersIn_iff.mpr hneeds
    obtain ⟨report, h⟩ := exists_replayMarketOrdersIn hbars hintents hcontext hrun hrunId
    obtain ⟨_, balances, -, -, _, hrun', -⟩ := replayMarketOrdersIn_ok h
    exact ⟨report, h, replayOrdersIn_results hrun'⟩

end Replays

/-- A purchase that is paid for, one that is not, and one of an instrument without bars. -/
def threePurchases : List OrderIntent :=
  [purchase, marketOrder "ORDER-2" "BTC-USD" .buy ⟨1, Decimal.zero_lt_one⟩ 0,
    marketOrder "ORDER-3" "ETH-USD" .buy ⟨1, Decimal.zero_lt_one⟩ 0]

/-- What an order needs does not depend on the digest, so a constant one serves to run it. -/
@[reducible] def constantDigest : Sha256 where
  hexdigest _ := String.ofList (List.replicate 64 '0')
  isHexDigest_hexdigest _ := by decide

/-- On a bar that opens at a hundred the three purchases have their report. -/
theorem replay_total_at_hundred :
    ∃ report, @replayMarketOrdersIn .context hashlibSha256 (pricedBars ⟨100, by decide⟩)
      threePurchases "RUN" none (some (marketSnapshot loosestLimits))
      (some (cashState ⟨150, by decide⟩)) = .ok report ∧
      List.Forall₂ (fun intent r => RepeatsIntent intent r ∧ Accounted r) threePurchases
        report.results := by
  have hrun : RunReplayable .context (pricedBars ⟨100, by decide⟩) none
      (some ⟨marketSnapshot loosestLimits, cashState ⟨150, by decide⟩⟩)
      (balanceDict (some (cashState ⟨150, by decide⟩))) threePurchases :=
    (@exists_replayOrdersIn_iff constantDigest _ _ _ _ _ _).mp
      (exists_ok_of_toBool (by decide +kernel))
  exact (@replay_total_iff hashlibSha256 _ threePurchases none _ _ _ "RUN"
    (pricedBars_accepted ⟨100, by decide⟩) (ok_unit_of_toBool _ (by decide)) rfl).mpr
    ⟨by decide, hrun⟩

/-- On a bar that opens at zero the replay of an accepted order without an account raises. -/
theorem replay_raises_at_zero_open :
    validateBarsAreSafe (pricedBars ⟨0, by decide⟩) = .ok () ∧
      validateOrderIntents [purchase] = .ok () ∧
      ¬ ∃ report, @replayMarketOrdersIn .context hashlibSha256 (pricedBars ⟨0, by decide⟩) [purchase]
        "RUN" none none none = .ok report := by
  refine ⟨pricedBars_accepted _, purchase_accepted, ?_⟩
  rintro ⟨report, h⟩
  obtain ⟨context, balances, -, -, hcontext, hrun, -⟩ := @replayMarketOrdersIn_ok hashlibSha256
    _ _ _ _ _ _ _ _ h
  cases hcontext
  have hneeds := (@exists_replayOrdersIn_iff hashlibSha256 _ _ _ _ _ _).mp ⟨_, hrun⟩ [] purchase []
    rfl _ .nil
  have hfills : Fills .context (pricedBars ⟨0, by decide⟩) none none purchase
      (flatBar "BTC-USD" 1 0 ⟨0, by decide⟩ ⟨10, by decide⟩, 0) 1 := by
    refine ⟨⟨rfl, rfl, rfl⟩, ?_, rfl⟩
    intro c hc
    cases hc
  exact absurd (hneeds.price _ _ hfills) (lt_irrefl 0)

end TaModel.Simulation
