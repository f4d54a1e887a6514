import TaModel.Simulation.OrderGroups
import Mathlib.Data.Prod.Lex

/-!
# Stopping and resuming a replay

The final account state of a replay is the starting state of the next one. A dictionary that is
written out as an account state and read back holds the same balances, so a replay of two batches of
orders is the replay of the first batch followed by the replay of the second from where it stopped.
Orders that were not filled can be left out altogether.
-/

set_option autoImplicit false

namespace TaModel.Simulation

open TaModel.Contracts TaModel.Library

/-! ## Dictionaries with the same entries -/

/-- The key a balance item is sorted by. -/
def itemKey (item : BalanceKey × Decimal) : String ×ₗ String ×ₗ Decimal :=
  toLex (item.1.1, toLex (item.1.2, item.2))

theorem balanceKeyLe_iff (a b : BalanceKey × Decimal) : balanceKeyLe a b ↔ itemKey a ≤ itemKey b := by
  rw [balanceKeyLe, itemKey, itemKey, Prod.Lex.toLex_le_toLex, Prod.Lex.toLex_le_toLex]

theorem itemKey_injective : Function.Injective itemKey := by
  rintro ⟨⟨venue, asset⟩, value⟩ ⟨⟨venue', asset'⟩, value'⟩ h
  simp only [itemKey, EmbeddingLike.apply_eq_iff_eq, Prod.mk.injEq] at h
  rw [h.1, h.2.1, h.2.2]

instance : Std.Total balanceKeyLe :=
  ⟨fun a b => by
    rw [balanceKeyLe_iff, balanceKeyLe_iff]
    exact le_total _ _⟩

instance : IsTrans _ balanceKeyLe :=
  ⟨fun a b c hab hbc => by
    rw [balanceKeyLe_iff] at *
    exact le_trans hab hbc⟩

instance : Std.Antisymm balanceKeyLe :=
  ⟨fun a b hab hba => by
    rw [balanceKeyLe_iff] at *
    exact itemKey_injective (le_antisymm hab hba)⟩

/-- The items are written out in one order, however they were entered. -/
theorem sortedItems_congr {balances balances' : Balances}
    (h : ∀ key, balances.lookup key = balances'.lookup key) :
    balances.sortedItems = balances'.sortedItems := by
  have hentries : balances.entries.Perm balances'.entries := by
    apply List.lookup_ext balances.nodupKeys balances'.nodupKeys
    intro key value
    have hkey := h key
    rw [AList.lookup, AList.lookup] at hkey
    rw [hkey]
  apply List.Perm.eq_of_pairwise' (List.pairwise_insertionSort balanceKeyLe _)
    (List.pairwise_insertionSort balanceKeyLe _)
  exact (perm_sortedItems balances).trans ((hentries.map _).trans (perm_sortedItems balances').symm)

theorem finalState_congr {balances balances' : Balances}
    (h : ∀ key, balances.lookup key = balances'.lookup key) (accountId : String) :
    finalState accountId balances = finalState accountId balances' := by
  rw [finalState, finalState, sortedItems_congr h]

theorem buildAccountState_congr {balances balances' : Balances}
    (h : ∀ key, balances.lookup key = balances'.lookup key)
    (state : Option SimulatedAccountState) :
    buildAccountState state balances = buildAccountState state balances' := by
  cases state with
  | none => rfl
  | some s =>
      show (finalState s.accountId balances).map some = (finalState s.accountId balances').map some
      rw [finalState_congr h]

/-- Writing a dictionary out as an account state and reading it back gives the same entries. -/
theorem lookup_balanceDict_finalState {accountId : String} {balances : Balances}
    {final : SimulatedAccountState} (h : finalState accountId balances = .ok final)
    (key : BalanceKey) : (balanceDict (some final)).lookup key = balances.lookup key := by
  have hkeys : (final.balances.map fun b =>
      (⟨b.key, b.available.val⟩ : Sigma fun _ : BalanceKey => Decimal)).NodupKeys := by
    rw [List.NodupKeys, List.keys, List.map_map]
    exact final.keys_unique
  apply Option.ext
  intro value
  rw [← finalState_items h key value, balanceDict, AList.lookup_to_alist, ← Option.mem_def,
    List.mem_dlookup_iff hkeys, List.mem_map, List.mem_map]
  constructor
  · rintro ⟨b, hb, heq⟩
    cases heq
    exact ⟨b, hb, rfl⟩
  · rintro ⟨b, hb, heq⟩
    cases heq
    exact ⟨b, hb, rfl⟩

section Runs

variable [Sha256] {bars : List OHLCTVBar} {costModel : Option ExecutionCostModel}
  {context : Option VenueContext} {balances balances' : Balances}

/-- On dictionaries with the same entries the orders get the same results. -/
theorem replayOrders_congr (hsame : ∀ key, balances.lookup key = balances'.lookup key)
    {intents : List OrderIntent} {out : List ReplayOrderResult × Balances}
    (h : replayOrders bars costModel context balances intents = .ok out) :
    ∃ final, replayOrders bars costModel context balances' intents = .ok (out.1, final) ∧
      ∀ key, out.2.lookup key = final.lookup key := by
  have hkept : ∀ a ∈ intents, true = true → ∀ s t r s', (∀ key, s.lookup key = t.lookup key) →
      replayOne bars costModel context s a = .ok (r, s') →
      ∃ t', replayOne bars costModel context t a = .ok (r, t') ∧
        ∀ key, s'.lookup key = t'.lookup key := by
    intro a _ _ s t r s' hagree hone
    obtain ⟨-, t', hone', hkeep⟩ := replayOne_local (fun key _ => hagree key) hone
    exact ⟨t', hone', fun key => hkeep key (hagree key)⟩
  obtain ⟨out', hrun, hfinal, houts⟩ := @runSteps_select _ _ _ _ _ (fun _ => true) _ _ hkept
    (fun a _ hfalse => absurd hfalse (by simp)) _ _ _ hsame h
  rw [List.filter_true] at hrun houts
  rw [List.map_snd_zip (length_of_runSteps h).le] at houts
  refine ⟨out'.2, ?_, hfinal⟩
  rw [← houts]
  exact hrun

omit [Sha256] in
/-- The metadata checks read the id of the account and nothing else of it. -/
theorem metadataRejectReason_congr (intent : OrderIntent) (snapshot : InstrumentMasterSnapshot)
    {state state' : SimulatedAccountState} (h : state'.accountId = state.accountId) :
    metadataRejectReason intent snapshot state' = metadataRejectReason intent snapshot state := by
  rw [metadataRejectReason, metadataRejectReason, h]

/-- An order is replayed the same under two states of one account. -/
theorem replayOne_account_congr {snapshot : InstrumentMasterSnapshot}
    {state state' : SimulatedAccountState} (h : state'.accountId = state.accountId) :
    replayOne bars costModel (some ⟨snapshot, state'⟩) =
      replayOne bars costModel (some ⟨snapshot, state⟩) := by
  funext balances intent
  have hattempt : fillAttempt bars costModel (some ⟨snapshot, state'⟩) intent =
      fillAttempt bars costModel (some ⟨snapshot, state⟩) intent := by
    simp only [fillAttempt, frictionlessAttempt, costedAttempt, Option.bind_some,
      metadataRejectReason_congr intent snapshot h]
  rw [replayOne, replayOne, hattempt]
  cases fillAttempt bars costModel (some ⟨snapshot, state⟩) intent with
  | unfilled reason model eligibleIndex attemptIndex => rfl
  | fill draft => rfl

/-- Without an account no order changes a balance. -/
theorem replayOne_without_account {intent : OrderIntent} {r : ReplayOrderResult}
    (h : replayOne bars costModel none balances intent = .ok (r, balances')) :
    balances' = balances := by
  rw [replayOne] at h
  cases hattempt : fillAttempt bars costModel none intent with
  | unfilled reason model eligibleIndex attemptIndex =>
      rw [hattempt] at h
      obtain ⟨result, -, hsettle⟩ := (bind_eq_ok_iff _ _ _).mp h
      cases hsettle
      rfl
  | fill draft =>
      rw [hattempt] at h
      obtain ⟨result, -, hsettle⟩ := (bind_eq_ok_iff _ _ _).mp h
      cases hsettle
      rfl

/-- An order that is not filled leaves the balances alone. -/
theorem replayOne_unfilled {intent : OrderIntent} {r : ReplayOrderResult}
    (h : replayOne bars costModel context balances intent = .ok (r, balances'))
    (hunfilled : r.isFill = false) : balances' = balances := by
  cases context with
  | none => exact replayOne_without_account h
  | some c =>
      rcases replayOne_cases h with ⟨-, -, hsame, -⟩ | ⟨draft, -, hattempt, -, hr, -⟩
      · exact hsame
      · rw [hr, ReplayOrderResult.isFill_withBuiltId (fillAttempt_facts hattempt).isFill] at hunfilled
        cases hunfilled

/-- A replay whose input is accepted and whose orders are settled gives a report of them. -/
theorem replay_of_run {intents : List OrderIntent} {runId : String}
    {snapshot : Option InstrumentMasterSnapshot} {state final : Option SimulatedAccountState}
    {results : List ReplayOrderResult} (hbars : validateBarsAreSafe bars = .ok ())
    (hintents : validateOrderIntents intents = .ok ())
    (hcontext : pairContext snapshot state = .ok context)
    (hrun : replayOrders bars costModel context (balanceDict state) intents =
      .ok (results, balances))
    (hfinal : buildAccountState state balances = .ok final) (hrunId : isCanonicalId runId = true) :
    ∃ report, replayOhlctvMarketOrders bars intents runId costModel snapshot state = .ok report ∧
      report.results = results ∧ report.finalAccountState = final := by
  unfold replayOhlctvMarketOrders
  rw [hbars, ok_bind, hintents, ok_bind, hcontext, ok_bind, hrun, ok_bind]
  dsimp only
  rw [hfinal, ok_bind]
  refine ⟨_, (bind_eq_ok_iff _ _ _).mpr ⟨(), ?_, rfl⟩, rfl, rfl⟩
  unfold ReplayReport.validate
  rw [require_of hrunId, ok_bind, require_of rfl, ok_bind, require_of rfl, ok_bind,
    require_of rfl, ok_bind]
  exact require_of rfl _

/-- The balances reached part of the way through a replay make an account state, and a replay that
starts from it goes on as this one does. -/
theorem resume_context {intents : List OrderIntent} {results : List ReplayOrderResult}
    {snapshot : Option InstrumentMasterSnapshot} {state : Option SimulatedAccountState}
    (hcontext : pairContext snapshot state = .ok context)
    (hrun : replayOrders bars costModel context (balanceDict state) intents =
      .ok (results, balances)) :
    ∃ reached context', buildAccountState state balances = .ok reached ∧
      pairContext snapshot reached = .ok context' ∧
      (∀ key, balances.lookup key = (balanceDict reached).lookup key) ∧
      replayOne bars costModel context' = replayOne bars costModel context ∧
      ∀ balances', buildAccountState reached balances' = buildAccountState state balances' := by
  cases snapshot with
  | none =>
      cases state with
      | some s => cases hcontext
      | none =>
          cases hcontext
          -- without an account nothing is ever entered
          have hempty : balances = balanceDict none := by
            have hkept : ∀ b intent r b', b = balanceDict none →
                replayOne bars costModel none b intent = .ok (r, b') → b' = balanceDict none := by
              intro b intent r b' hb hone
              rw [replayOne_without_account hone, hb]
            exact runSteps_invariant hkept rfl hrun
          exact ⟨none, none, rfl, rfl, fun key => by rw [hempty], rfl, fun _ => rfl⟩
  | some s =>
      cases state with
      | none => cases hcontext
      | some state =>
          cases hcontext
          obtain ⟨final, hfinal⟩ := finalState_total state.accountId
            (replayOrders_nonneg (balanceDict_nonneg state) hrun)
          have hid := finalState_accountId hfinal
          refine ⟨some final, some ⟨s, final⟩, ?_, rfl, ?_, replayOne_account_congr hid, ?_⟩
          · show (finalState state.accountId balances).map some = _
            rw [hfinal]
            rfl
          · intro key
            exact (lookup_balanceDict_finalState hfinal key).symm
          · intro balances'
            show (finalState final.accountId balances').map some =
              (finalState state.accountId balances').map some
            rw [hid]

end Runs

/-! ## Two batches -/

section Batches

variable [Sha256] {bars : List OHLCTVBar} {costModel : Option ExecutionCostModel}
  {snapshot : Option InstrumentMasterSnapshot} {state : Option SimulatedAccountState}

/-- A replay of two batches of orders is the replay of the first batch followed by the replay of the
second one from the account state the first left: the results are the same, in order, and so is the
final account state. -/
theorem replay_resumes {first later : List OrderIntent} {runId firstId laterId : String}
    {whole : ReplayReport} (hfirst : isCanonicalId firstId = true)
    (hlater : isCanonicalId laterId = true)
    (h : replayOhlctvMarketOrders bars (first ++ later) runId costModel snapshot state =
      .ok whole) :
    ∃ head tail,
      replayOhlctvMarketOrders bars first firstId costModel snapshot state = .ok head ∧
      replayOhlctvMarketOrders bars later laterId costModel snapshot head.finalAccountState =
        .ok tail ∧
      whole.results = head.results ++ tail.results ∧
      whole.finalAccountState = tail.finalAccountState := by
  obtain ⟨context, balances, hbars, hintents, hcontext, hrun, -, -, hfinal⟩ :=
    replayOhlctvMarketOrders_ok h
  obtain ⟨headResults, reachedBalances, tailResults, hheadRun, htailRun, hresults⟩ :=
    (runSteps_append_eq_ok_iff _ _ _ _).mp hrun
  obtain ⟨reached, context', hreached, hcontext', hsame, hone, hbuild⟩ :=
    resume_context hcontext hheadRun
  obtain ⟨head, hhead, hheadResults, hheadState⟩ := replay_of_run hbars
    (validateOrderIntents_sublist (List.sublist_append_left first later) hintents) hcontext
    hheadRun hreached hfirst
  -- the second run reads back what the first wrote out
  obtain ⟨last, hlast, hlastSame⟩ := replayOrders_congr hsame htailRun
  have hlastRun : replayOrders bars costModel context' (balanceDict reached) later =
      .ok (tailResults, last) := by
    rw [replayOrders, hone]
    exact hlast
  have hlastState : buildAccountState reached last = .ok whole.finalAccountState := by
    rw [hbuild, ← buildAccountState_congr hlastSame]
    exact hfinal
  obtain ⟨tail, htail, htailResults, htailState⟩ := replay_of_run hbars
    (validateOrderIntents_sublist (List.sublist_append_right first later) hintents) hcontext'
    hlastRun hlastState hlater
  refine ⟨head, tail, hhead, ?_, ?_, htailState.symm⟩
  · rw [hheadState]
    exact htail
  · rw [hheadResults, htailResults]
    exact hresults

omit [Sha256] in
/-- The round trip can be stopped after its purchase and resumed for the sale. -/
theorem replay_resumes_round_trip : ∃ whole head tail,
    @replayOhlctvMarketOrders hashlibSha256 roundTripBars roundTripOrders "RUN" none
      (some (marketSnapshot loosestLimits)) (some (cashState ⟨100, Decimal.zero_le_hundred⟩)) =
      .ok whole ∧
    @replayOhlctvMarketOrders hashlibSha256 roundTripBars (roundTripOrders.take 1) "RUN:HEAD" none
      (some (marketSnapshot loosestLimits)) (some (cashState ⟨100, Decimal.zero_le_hundred⟩)) =
      .ok head ∧
    @replayOhlctvMarketOrders hashlibSha256 roundTripBars (roundTripOrders.drop 1) "RUN:TAIL" none
      (some (marketSnapshot loosestLimits)) head.finalAccountState = .ok tail ∧
    whole.results = head.results ++ tail.results ∧
    whole.finalAccountState = tail.finalAccountState := by
  obtain ⟨whole, hwhole⟩ := roundTrip_replays
  have hids : isCanonicalId "RUN:HEAD" = true ∧ isCanonicalId "RUN:TAIL" = true := by
    decide
  obtain ⟨head, tail, hhead, htail, hresults, hstate⟩ := @replay_resumes hashlibSha256 _ _ _ _
    (roundTripOrders.take 1) (roundTripOrders.drop 1) _ _ _ _ hids.1 hids.2 hwhole
  exact ⟨whole, head, tail, hwhole, hhead, htail, hresults, hstate⟩

/-! ## Orders without a fill -/

/-- Orders that were not filled can be left out of a replay: the others get the results they had,
and the account ends in the same state. -/
theorem replay_skips_unfilled {intents : List OrderIntent} {runId keptId : String}
    {report : ReplayReport} {keep : OrderIntent → Bool} (hkept : isCanonicalId keptId = true)
    (h : replayOhlctvMarketOrders bars intents runId costModel snapshot state = .ok report)
    (hskip : ∀ entry ∈ intents.zip report.results, keep entry.1 = false →
      entry.2.isFill = false) :
    ∃ kept, replayOhlctvMarketOrders bars (intents.filter keep) keptId costModel snapshot state =
        .ok kept ∧
      kept.results = ((intents.zip report.results).filter fun e => keep e.1).map Prod.snd ∧
      kept.finalAccountState = report.finalAccountState := by
  obtain ⟨context, balances, hbars, hintents, hcontext, hrun, -, -, hfinal⟩ :=
    replayOhlctvMarketOrders_ok h
  have hkeptRun := runSteps_skip (fun _ _ _ _ => replayOne_unfilled) hrun hskip
  exact replay_of_run hbars (validateOrderIntents_sublist List.filter_sublist hintents) hcontext
    hkeptRun hfinal hkept

/-- No bars, no fills. -/
theorem unfilled_of_no_bars {intents : List OrderIntent} {runId : String}
    {s : InstrumentMasterSnapshot} {start : SimulatedAccountState} {report : ReplayReport}
    (h : replayOhlctvMarketOrders [] intents runId costModel (some s) (some start) = .ok report) :
    ∀ r ∈ report.results, r.isFill = false := by
  obtain ⟨context, balances, -, -, hcontext, hrun, -⟩ := replayOhlctvMarketOrders_ok h
  cases hcontext
  intro r hr
  obtain ⟨intent, -, facts⟩ := exists_of_mem_right (replayOrders_resultFacts hrun) hr
  by_contra hfill
  obtain ⟨draft, -, hattempt, -⟩ := facts.fill (Bool.eq_true_of_not_eq_false hfill)
  obtain ⟨bar, hbar, -⟩ := (fillAttempt_facts hattempt).bar
  cases hbar

omit [Sha256] in
/-- Over an empty market the purchase can be left out. -/
theorem replay_skips_unfilled_empty_market : ∃ report kept,
    @replayOhlctvMarketOrders hashlibSha256 [] roundTripOrders "RUN" none
      (some (marketSnapshot loosestLimits)) (some (cashState ⟨100, Decimal.zero_le_hundred⟩)) =
      .ok report ∧
    @replayOhlctvMarketOrders hashlibSha256 [] (roundTripOrders.filter fun intent =>
      intent.clientOrderId == "ORDER-2") "RUN" none (some (marketSnapshot loosestLimits))
      (some (cashState ⟨100, Decimal.zero_le_hundred⟩)) = .ok kept ∧
    kept.finalAccountState = report.finalAccountState := by
  have hintents : validateOrderIntents roundTripOrders = .ok () :=
    ok_unit_of_toBool _ (by decide)
  have hrunId : isCanonicalId "RUN" = true := by decide
  obtain ⟨report, hreport⟩ := (@replay_with_account_succeeds_iff hashlibSha256 [] roundTripOrders
    "RUN" none (marketSnapshot loosestLimits)
    (cashState ⟨100, Decimal.zero_le_hundred⟩)).mpr ⟨rfl, hintents, hrunId⟩
  obtain ⟨kept, hkept, -, hstate⟩ := @replay_skips_unfilled hashlibSha256 _ _ _ _ _ _ _ _
    (fun intent => intent.clientOrderId == "ORDER-2") hrunId hreport
    fun entry hentry _ => @unfilled_of_no_bars hashlibSha256 _ _ _ _ _ _ hreport entry.2
      (List.of_mem_zip hentry).2
  exact ⟨report, kept, hreport, hkept, hstate⟩

end Batches

end TaModel.Simulation
