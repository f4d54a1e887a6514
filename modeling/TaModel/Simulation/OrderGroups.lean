import Mathlib.Data.Prod.Lex
import TaModel.Simulation.Causality
import TaModel.Simulation.ReplayAborts

/-!
# Groups of orders

An order reads and writes the balances of its base and its quote asset at its venue. Orders that
share no balance with a group can be left out: replaying the group alone gives its orders the same
results and leaves its balances the same.
-/

set_option autoImplicit false

namespace TaModel.Simulation

open TaModel.Contracts TaModel.Library

/-! ## Accepted order lists -/

theorem orderKeyLt_iff (a b : AwareDatetime × String) :
    orderKeyLt a b ↔ toLex (a.1.utc, a.2) < toLex (b.1.utc, b.2) := by
  rw [Prod.Lex.toLex_lt_toLex]
  simp [orderKeyLt, AwareDatetime.lt_def, AwareDatetime.sameInstant]

/-- Not-before is transitive: keys compare by instant, then by id. -/
theorem not_orderKeyLt_trans {a b c : AwareDatetime × String} (hab : ¬ orderKeyLt b a)
    (hbc : ¬ orderKeyLt c b) : ¬ orderKeyLt c a := by
  rw [orderKeyLt_iff, not_lt] at *
  exact le_trans hab hbc

/-- A guard that has seen no more, and whose previous key is no later. -/
structure IntentGuard.Covers (guard guard' : IntentGuard) : Prop where
  seen : ∀ id ∈ guard'.seenClientOrderIds, id ∈ guard.seenClientOrderIds
  previous : ∀ key' ∈ guard'.previousOrderKey, ∃ key ∈ guard.previousOrderKey, ¬ orderKeyLt key key'

theorem IntentGuard.check_eq_ok_iff {guard next : IntentGuard} {intent : OrderIntent} :
    guard.check intent = .ok next ↔
      intent.clientOrderId ∉ guard.seenClientOrderIds ∧
      (∀ previous ∈ guard.previousOrderKey,
        ¬ orderKeyLt (intent.submittedAt, intent.clientOrderId) previous) ∧
      next = { seenClientOrderIds := intent.clientOrderId :: guard.seenClientOrderIds,
               previousOrderKey := some (intent.submittedAt, intent.clientOrderId) } := by
  simp only [IntentGuard.check, check_bind_eq_ok_iff, require_eq_ok_iff, Except.ok.injEq]
  exact and_congr_right fun _ => and_congr_right fun _ => eq_comm

/-- Leaving out orders keeps a list accepted. -/
theorem foldlM_check_sublist {intents' intents : List OrderIntent}
    (hsub : intents'.Sublist intents) {guard guard' out : IntentGuard}
    (hcovers : guard.Covers guard') (h : intents.foldlM IntentGuard.check guard = .ok out) :
    ∃ out', intents'.foldlM IntentGuard.check guard' = .ok out' := by
  induction hsub generalizing guard guard' with
  | slnil => exact ⟨guard', rfl⟩
  | cons intent _ ih =>
      rw [List.foldlM_cons] at h
      obtain ⟨next, hnext, hrest⟩ := (bind_eq_ok_iff _ _ _).mp h
      obtain ⟨-, hprevious, rfl⟩ := IntentGuard.check_eq_ok_iff.mp hnext
      refine ih ⟨fun id hid => List.mem_cons_of_mem _ (hcovers.seen id hid), ?_⟩ hrest
      -- the order that is left out comes no earlier than the previous key
      intro key' hkey'
      obtain ⟨key, hkey, hle⟩ := hcovers.previous key' hkey'
      exact ⟨_, rfl, not_orderKeyLt_trans hle (hprevious key hkey)⟩
  | cons_cons intent _ ih =>
      rw [List.foldlM_cons] at h ⊢
      obtain ⟨next, hnext, hrest⟩ := (bind_eq_ok_iff _ _ _).mp h
      obtain ⟨hfresh, hprevious, rfl⟩ := IntentGuard.check_eq_ok_iff.mp hnext
      have hnext' : guard'.check intent = .ok
          { seenClientOrderIds := intent.clientOrderId :: guard'.seenClientOrderIds,
            previousOrderKey := some (intent.submittedAt, intent.clientOrderId) } := by
        refine IntentGuard.check_eq_ok_iff.mpr ⟨fun hid => hfresh (hcovers.seen _ hid), ?_, rfl⟩
        intro key' hkey'
        obtain ⟨key, hkey, hle⟩ := hcovers.previous key' hkey'
        exact not_orderKeyLt_trans hle (hprevious key hkey)
      rw [hnext', ok_bind]
      refine ih ⟨fun id hid => ?_, ?_⟩ hrest
      · rcases List.mem_cons.mp hid with rfl | hid
        · exact List.mem_cons_self
        · exact List.mem_cons_of_mem _ (hcovers.seen id hid)
      · intro key' hkey'
        refine ⟨key', hkey', ?_⟩
        rw [orderKeyLt_iff]
        exact lt_irrefl _

theorem validateOrderIntents_sublist {intents' intents : List OrderIntent}
    (hsub : intents'.Sublist intents) (h : validateOrderIntents intents = .ok ()) :
    validateOrderIntents intents' = .ok () := by
  obtain ⟨out, hout, -⟩ := (bind_eq_ok_iff _ _ _).mp h
  have hcovers : IntentGuard.Covers {} {} := ⟨fun _ hid => hid, by simp⟩
  obtain ⟨out', hout'⟩ := foldlM_check_sublist hsub hcovers hout
  exact (bind_eq_ok_iff _ _ _).mpr ⟨out', hout', rfl⟩

/-! ## The balances of an order -/

/-- The balances of an order: its base and its quote asset at its venue. -/
def usedKeys (snapshot : InstrumentMasterSnapshot) (intent : OrderIntent) : List BalanceKey :=
  match snapshot.instruments.find? fun i => i.instrumentId == intent.instrumentId with
  | none => []
  | some instrument =>
      [(intent.venueId, instrument.baseAssetId), (intent.venueId, instrument.quoteAssetId)]

/-- Two dictionaries with the same entries under some keys. -/
def AgreeOn (keys : List BalanceKey) (balances balances' : Balances) : Prop :=
  ∀ key ∈ keys, balances.lookup key = balances'.lookup key

theorem lookup_insert_insert_of_ne {balances : Balances} {key key₁ key₂ : BalanceKey}
    (h₁ : key ≠ key₁) (h₂ : key ≠ key₂) (value₁ value₂ : Decimal) :
    ((balances.insert key₁ value₁).insert key₂ value₂).lookup key = balances.lookup key := by
  rw [AList.lookup_insert_ne h₂, AList.lookup_insert_ne h₁]

/-- The same two writes keep an agreement. -/
theorem lookup_insert_insert_congr {balances balances' : Balances} {key : BalanceKey}
    (h : balances.lookup key = balances'.lookup key) (key₁ key₂ : BalanceKey)
    (value₁ value₂ : Decimal) :
    ((balances.insert key₁ value₁).insert key₂ value₂).lookup key =
      ((balances'.insert key₁ value₁).insert key₂ value₂).lookup key := by
  by_cases h₂ : key = key₂
  · rw [h₂, AList.lookup_insert, AList.lookup_insert]
  · rw [AList.lookup_insert_ne h₂, AList.lookup_insert_ne h₂]
    by_cases h₁ : key = key₁
    · rw [h₁, AList.lookup_insert, AList.lookup_insert]
    · rw [AList.lookup_insert_ne h₁, AList.lookup_insert_ne h₁, h]

section Settlement

variable [Sha256]

/-- Settling an order leaves other balances alone, and reads its own: on dictionaries that agree on
them the result is the same and they still agree. -/
theorem applyBalanceOrReject_local {intent : OrderIntent} {result r : ReplayOrderResult}
    {snapshot : InstrumentMasterSnapshot} {balances next balances' : Balances}
    (hagree : AgreeOn (usedKeys snapshot intent) balances balances')
    (h : applyBalanceOrReject intent result snapshot balances = .ok (r, next)) :
    (∀ key ∉ usedKeys snapshot intent, next.lookup key = balances.lookup key) ∧
      ∃ next', applyBalanceOrReject intent result snapshot balances' = .ok (r, next') ∧
        ∀ key, balances.lookup key = balances'.lookup key → next.lookup key = next'.lookup key := by
  unfold usedKeys at hagree ⊢
  unfold applyBalanceOrReject at h ⊢
  cases hfind : snapshot.instruments.find? fun i => i.instrumentId == intent.instrumentId with
  | none => simp only [hfind, reduceCtorEq] at h
  | some instrument =>
      simp only [hfind] at h hagree ⊢
      have hbase : balances.available (intent.venueId, instrument.baseAssetId) =
          balances'.available (intent.venueId, instrument.baseAssetId) := by
        rw [Balances.available, Balances.available, hagree _ (by simp)]
      have hquote : balances.available (intent.venueId, instrument.quoteAssetId) =
          balances'.available (intent.venueId, instrument.quoteAssetId) := by
        rw [Balances.available, Balances.available, hagree _ (by simp)]
      rw [← hbase, ← hquote]
      cases hside : intent.side with
      | buy =>
          simp only [hside] at h ⊢
          split at h
          · rename_i hshort
            rw [if_pos hshort]
            obtain ⟨rejected, hrejected, h⟩ := (bind_eq_ok_iff _ _ _).mp h
            cases h
            exact ⟨fun _ _ => rfl, balances', by rw [hrejected]; rfl, fun _ hkey => hkey⟩
          · rename_i hfunded
            rw [if_neg hfunded]
            cases h
            refine ⟨fun key hkey => ?_, _, rfl, fun key hkey => ?_⟩
            · simp only [List.mem_cons, List.not_mem_nil, or_false, not_or] at hkey
              exact lookup_insert_insert_of_ne hkey.2 hkey.1 _ _
            · exact lookup_insert_insert_congr hkey _ _ _ _
      | sell =>
          simp only [hside] at h ⊢
          split at h
          · rename_i hshort
            rw [if_pos hshort]
            obtain ⟨rejected, hrejected, h⟩ := (bind_eq_ok_iff _ _ _).mp h
            cases h
            exact ⟨fun _ _ => rfl, balances', by rw [hrejected]; rfl, fun _ hkey => hkey⟩
          · rename_i hfunded
            rw [if_neg hfunded]
            cases h
            refine ⟨fun key hkey => ?_, _, rfl, fun key hkey => ?_⟩
            · simp only [List.mem_cons, List.not_mem_nil, or_false, not_or] at hkey
              exact lookup_insert_insert_of_ne hkey.1 hkey.2 _ _
            · exact lookup_insert_insert_congr hkey _ _ _ _

/-- The balances an order uses in a replay; without an account there are none. -/
def usedKeysIn (context : Option VenueContext) (intent : OrderIntent) : List BalanceKey :=
  match context with
  | none => []
  | some c => usedKeys c.snapshot intent

omit [Sha256] in
theorem mem_usedKeysIn_iff {snapshot : Option InstrumentMasterSnapshot}
    {state : Option SimulatedAccountState} {context : Option VenueContext} {intent : OrderIntent}
    {key : BalanceKey} (h : pairContext snapshot state = .ok context) :
    key ∈ usedKeysIn context intent ↔ ∃ s ∈ snapshot, key ∈ usedKeys s intent := by
  cases snapshot with
  | none =>
      cases state with
      | none =>
          cases h
          simp [usedKeysIn]
      | some state => cases h
  | some s =>
      cases state with
      | none => cases h
      | some state =>
          cases h
          simp [usedKeysIn]

variable {bars : List OHLCTVBar} {costModel : Option ExecutionCostModel}
  {context : Option VenueContext} {balances next balances' : Balances} {intent : OrderIntent}
  {r : ReplayOrderResult}

/-- One order of a replay, as `applyBalanceOrReject_local`. -/
theorem replayOne_local (hagree : AgreeOn (usedKeysIn context intent) balances balances')
    (h : replayOne bars costModel context balances intent = .ok (r, next)) :
    (∀ key ∉ usedKeysIn context intent, next.lookup key = balances.lookup key) ∧
      ∃ next', replayOne bars costModel context balances' intent = .ok (r, next') ∧
        ∀ key, balances.lookup key = balances'.lookup key → next.lookup key = next'.lookup key := by
  unfold replayOne at h ⊢
  cases hattempt : fillAttempt bars costModel context intent with
  | unfilled reason model eligibleIndex attemptIndex =>
      simp only [hattempt, settleAttempt] at h ⊢
      obtain ⟨result, hresult, h⟩ := (bind_eq_ok_iff _ _ _).mp h
      cases h
      exact ⟨fun _ _ => rfl, balances', by rw [hresult]; rfl, fun _ hkey => hkey⟩
  | fill draft =>
      simp only [hattempt, settleAttempt] at h ⊢
      obtain ⟨result, hresult, h⟩ := (bind_eq_ok_iff _ _ _).mp h
      rw [hresult, ok_bind]
      cases context with
      | none =>
          cases h
          exact ⟨fun _ _ => rfl, balances', rfl, fun _ hkey => hkey⟩
      | some c => exact applyBalanceOrReject_local hagree h

/-- A run over a group of orders that shares no balance with the others: the group's results are
those of the whole run, and both runs leave the same entries under the group's keys. -/
theorem replayOrders_group {inGroup : OrderIntent → Bool} {intents : List OrderIntent}
    {out : List ReplayOrderResult × Balances}
    (hdisjoint : ∀ a ∈ intents, ∀ b ∈ intents, inGroup a = true → inGroup b = false →
      ∀ key ∈ usedKeysIn context a, key ∉ usedKeysIn context b)
    (h : replayOrders bars costModel context balances intents = .ok out) :
    ∃ out', replayOrders bars costModel context balances (intents.filter inGroup) = .ok out' ∧
      (∀ a ∈ intents, inGroup a = true → AgreeOn (usedKeysIn context a) out.2 out'.2) ∧
      out'.1 = ((intents.zip out.1).filter fun entry => inGroup entry.1).map Prod.snd := by
  -- the state of the two runs: they agree under every key of the group
  let Agree : Balances → Balances → Prop := fun full alone =>
    ∀ a ∈ intents, inGroup a = true → AgreeOn (usedKeysIn context a) full alone
  have hkept : ∀ a ∈ intents, inGroup a = true → ∀ full alone r full', Agree full alone →
      replayOne bars costModel context full a = .ok (r, full') →
      ∃ alone', replayOne bars costModel context alone a = .ok (r, alone') ∧
        Agree full' alone' := by
    intro a ha hgroup full alone r full' hagree hone
    obtain ⟨-, alone', hone', hkeep⟩ := replayOne_local (hagree a ha hgroup) hone
    exact ⟨alone', hone', fun a' ha' hgroup' key hkey => hkeep key (hagree a' ha' hgroup' key hkey)⟩
  have hdropped : ∀ b ∈ intents, inGroup b = false → ∀ full alone r full', Agree full alone →
      replayOne bars costModel context full b = .ok (r, full') → Agree full' alone := by
    intro b hb hother full alone r full' hagree hone a ha hgroup key hkey
    -- the order writes under its own keys, and none of them is the group's
    have hframe := (replayOne_local (fun _ _ => rfl) hone).1 key
      (hdisjoint a ha b hb hgroup hother key hkey)
    rw [hframe]
    exact hagree a ha hgroup key hkey
  have hstart : Agree balances balances := fun _ _ _ _ _ => rfl
  exact runSteps_select hkept hdropped hstart h

/-- Leaving out orders keeps a replay successful. -/
theorem replay_sublist {intents intents' : List OrderIntent} (hsub : intents'.Sublist intents)
    {runId : String} {snapshot : Option InstrumentMasterSnapshot}
    {state : Option SimulatedAccountState} {report : ReplayReport}
    (h : replayOhlctvMarketOrders bars intents runId costModel snapshot state = .ok report) :
    ∃ report', replayOhlctvMarketOrders bars intents' runId costModel snapshot state =
      .ok report' := by
  obtain ⟨context, _, -, -, hcontext, -⟩ := replayOhlctvMarketOrders_ok h
  cases snapshot with
  | none =>
      cases state with
      | some s => cases hcontext
      | none =>
          obtain ⟨hbars, hintents, hrunId, hopen⟩ :=
            (replay_without_account_succeeds_iff runId).mp ⟨report, h⟩
          exact (replay_without_account_succeeds_iff runId).mpr
            ⟨hbars, validateOrderIntents_sublist hsub hintents, hrunId,
              fun intent hintent => hopen intent (hsub.subset hintent)⟩
  | some s =>
      cases state with
      | none => cases hcontext
      | some state =>
          obtain ⟨hbars, hintents, hrunId⟩ :=
            (replay_with_account_succeeds_iff _ _ _ _ _ _).mp ⟨report, h⟩
          exact (replay_with_account_succeeds_iff _ _ _ _ _ _).mpr
            ⟨hbars, validateOrderIntents_sublist hsub hintents, hrunId⟩

omit [Sha256] in
/-- Final account states hold the same under a key that their dictionaries agree on. -/
theorem availableIn_buildAccountState {state final final' : Option SimulatedAccountState}
    {balances balances' : Balances} {key : BalanceKey}
    (hagree : balances.lookup key = balances'.lookup key)
    (h : buildAccountState state balances = .ok final)
    (h' : buildAccountState state balances' = .ok final') :
    final.map (availableIn · key) = final'.map (availableIn · key) := by
  cases state with
  | none =>
      cases h
      cases h'
      rfl
  | some s =>
      obtain ⟨built, hbuilt, rfl⟩ := (map_eq_ok_iff _ _ _).mp h
      obtain ⟨built', hbuilt', rfl⟩ := (map_eq_ok_iff _ _ _).mp h'
      rw [Option.map_some, Option.map_some, availableIn_finalState hbuilt,
        availableIn_finalState hbuilt', Balances.available, Balances.available, hagree]

/-- Replaying a group of orders that shares no balance key with the other orders gives its orders
the results they have in the full replay, and leaves the group's balances the same. -/
theorem replay_group_local {bars : List OHLCTVBar} {intents : List OrderIntent} {runId : String}
    {costModel : Option ExecutionCostModel} {snapshot : Option InstrumentMasterSnapshot}
    {state : Option SimulatedAccountState} {report : ReplayReport} (inGroup : OrderIntent → Bool)
    (hdisjoint : ∀ s ∈ snapshot, ∀ a ∈ intents, ∀ b ∈ intents, inGroup a = true →
      inGroup b = false → ∀ key ∈ usedKeys s a, key ∉ usedKeys s b)
    (h : replayOhlctvMarketOrders bars intents runId costModel snapshot state = .ok report) :
    ∃ alone, replayOhlctvMarketOrders bars (intents.filter inGroup) runId costModel snapshot
        state = .ok alone ∧
      alone.results = ((intents.zip report.results).filter fun e => inGroup e.1).map Prod.snd ∧
      ∀ s ∈ snapshot, ∀ a ∈ intents, inGroup a = true → ∀ key ∈ usedKeys s a,
        alone.finalAccountState.map (availableIn · key) =
          report.finalAccountState.map (availableIn · key) := by
  have hsub : (intents.filter inGroup).Sublist intents := List.filter_sublist
  obtain ⟨alone, halone⟩ := replay_sublist hsub h
  obtain ⟨context, full, -, -, hcontext, hrun, -, -, hfinal⟩ := replayOhlctvMarketOrders_ok h
  obtain ⟨context', left, -, -, hcontext', hrun', -, -, hfinal'⟩ :=
    replayOhlctvMarketOrders_ok halone
  rw [hcontext] at hcontext'
  cases hcontext'
  have hdisjointIn : ∀ a ∈ intents, ∀ b ∈ intents, inGroup a = true → inGroup b = false →
      ∀ key ∈ usedKeysIn context a, key ∉ usedKeysIn context b := by
    intro a ha b hb hgroup hother key hkey hkey'
    obtain ⟨s, hs, hkey⟩ := (mem_usedKeysIn_iff hcontext).mp hkey
    obtain ⟨s', hs', hkey'⟩ := (mem_usedKeysIn_iff hcontext).mp hkey'
    obtain rfl : s = s' := Option.mem_unique hs hs'
    exact hdisjoint s hs a ha b hb hgroup hother key hkey hkey'
  -- the run over the group is the one of the group's report
  obtain ⟨out, hout, hagree, hresults⟩ := replayOrders_group hdisjointIn hrun
  rw [hrun'] at hout
  cases hout
  refine ⟨alone, halone, hresults, ?_⟩
  intro s hs a ha hgroup key hkey
  have hkeyIn : key ∈ usedKeysIn context a := (mem_usedKeysIn_iff hcontext).mpr ⟨s, hs, hkey⟩
  exact availableIn_buildAccountState (hagree a ha hgroup key hkeyIn).symm hfinal' hfinal

end Settlement

/-! ## Two quote assets -/

theorem eth_ne_eur : "ETH" ≠ "EUR" := by decide

/-- The two-instrument market with `ETH-USD` settled in `EUR`. -/
def twoQuoteSnapshot : InstrumentMasterSnapshot :=
  { marketSnapshot loosestLimits with
    assetIds := ["BTC", "ETH", "EUR", "USD"]
    instruments := [spotInstrument "BTC" btc_ne_usd,
      { spotInstrument "ETH" eth_ne_usd with
        quoteAssetId := "EUR"
        base_ne_quote := eth_ne_eur }] }

/-- The purchase of `BTC` shares no balance with the purchase of `ETH`. -/
theorem replay_group_local_two_quotes : ∃ full alone,
    @replayOhlctvMarketOrders hashlibSha256 (shorterBars ++ furtherBars) competingOrders "RUN" none
      (some twoQuoteSnapshot) (some (cashState ⟨100, by decide⟩)) = .ok full ∧
    @replayOhlctvMarketOrders hashlibSha256 (shorterBars ++ furtherBars)
      (competingOrders.filter fun intent => intent.instrumentId == "BTC-USD") "RUN" none
      (some twoQuoteSnapshot) (some (cashState ⟨100, by decide⟩)) = .ok alone ∧
    alone.results = ((competingOrders.zip full.results).filter fun e =>
      e.1.instrumentId == "BTC-USD").map Prod.snd ∧
    alone.finalAccountState.map (availableIn · ("VENUE", "USD")) =
      full.finalAccountState.map (availableIn · ("VENUE", "USD")) := by
  have hintents : validateOrderIntents competingOrders = .ok () :=
    ok_unit_of_toBool _ (by decide)
  have hbars : validateBarsAreSafe (shorterBars ++ furtherBars) = .ok () :=
    ok_unit_of_toBool _ (by decide)
  obtain ⟨full, hfull⟩ := (@replay_with_account_succeeds_iff hashlibSha256
    (shorterBars ++ furtherBars) competingOrders "RUN" none twoQuoteSnapshot
    (cashState ⟨100, by decide⟩)).mpr ⟨hbars, hintents, by decide⟩
  have hdisjoint : ∀ s ∈ some twoQuoteSnapshot, ∀ a ∈ competingOrders, ∀ b ∈ competingOrders,
      (a.instrumentId == "BTC-USD") = true → (b.instrumentId == "BTC-USD") = false →
      ∀ key ∈ usedKeys s a, key ∉ usedKeys s b := by
    rintro s ⟨⟩
    decide
  obtain ⟨alone, halone, hresults, hbalances⟩ :=
    @replay_group_local hashlibSha256 _ _ _ _ _ _ _ (fun intent => intent.instrumentId == "BTC-USD")
      hdisjoint hfull
  have hbought : marketOrder "ORDER-2" "BTC-USD" .buy ⟨1, by decide⟩ 1 ∈ competingOrders :=
    List.mem_cons_of_mem _ List.mem_cons_self
  exact ⟨full, alone, hfull, halone, hresults,
    hbalances _ rfl _ hbought (by decide) _ (by decide)⟩

end TaModel.Simulation
