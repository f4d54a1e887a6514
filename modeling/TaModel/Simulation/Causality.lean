import TaModel.Simulation.ReplayResults

/-!
# Lookahead freedom of fills

A replay is run twice, on a bar stream and on the same stream with further bars appended. A fill
attempt that exists on the shorter stream is the same on the longer one, so a fill can only change
through the balances: an order listed earlier may find its bar among the further ones, settle
first, and leave less for an order that filled long before.
-/

set_option autoImplicit false

namespace TaModel.Simulation

open TaModel.Contracts TaModel.Library

/-! ## Attempts on an extended stream -/

theorem eligibleBars_append (intent : OrderIntent) (bars further : List OHLCTVBar) :
    ∃ later, eligibleBars intent (bars ++ further) = eligibleBars intent bars ++ later := by
  unfold eligibleBars
  rw [List.zipIdx_append, List.filter_append]
  exact ⟨_, rfl⟩

section Attempts

variable [Sha256]

/-- Appended bars never change an attempt that already fills. -/
theorem fillAttempt_append {bars : List OHLCTVBar} {costModel : Option ExecutionCostModel}
    {context : Option VenueContext} {intent : OrderIntent} {draft : ReplayOrderResult}
    (further : List OHLCTVBar) (h : fillAttempt bars costModel context intent = .fill draft) :
    fillAttempt (bars ++ further) costModel context intent = .fill draft := by
  obtain ⟨later, hlater⟩ := eligibleBars_append intent bars further
  unfold fillAttempt at h ⊢
  rw [hlater]
  cases hmetadata : context.bind fun c => metadataRejectReason intent c.snapshot c.accountState with
  | some reason =>
      rw [hmetadata] at h
      cases h
  | none =>
      rw [hmetadata] at h
      dsimp only at h ⊢
      split at h
      · cases h
      · rename_i hmarket
        rw [if_neg hmarket]
        cases heligible : eligibleBars intent bars with
        | nil =>
            rw [heligible] at h
            cases h
        | cons first rest =>
            rw [heligible] at h
            rw [List.cons_append]
            cases costModel with
            | none => exact h
            | some model =>
                dsimp only at h ⊢
                unfold costedAttempt at h ⊢
                cases hget : (first :: rest)[model.latencyBars]? with
                | none =>
                    rw [hget] at h
                    cases h
                | some entry =>
                    have hlt : model.latencyBars < (first :: rest).length :=
                      (List.getElem?_eq_some_iff.mp hget).1
                    rw [← List.cons_append, List.getElem?_append_left hlt, hget]
                    rw [hget] at h
                    exact h

/-- Without an account every filled attempt becomes the result. -/
theorem replayOne_of_fill {bars : List OHLCTVBar} {costModel : Option ExecutionCostModel}
    {b b' : Balances} {intent : OrderIntent} {r draft : ReplayOrderResult}
    (h : replayOne bars costModel none b intent = .ok (r, b'))
    (hattempt : fillAttempt bars costModel none intent = .fill draft) : r = draft.withBuiltId := by
  unfold replayOne at h
  rw [hattempt] at h
  obtain ⟨result, hresult, h⟩ := (bind_eq_ok_iff _ _ _).mp h
  cases h
  exact ((ReplayOrderResult.construct_eq_ok_iff _ _).mp hresult).2

end Attempts

/-! ## The two-run property -/

/-- Two results with the same status, fill price, filled quantity and costs. -/
def SameFill (a b : ReplayOrderResult) : Prop :=
  a.status = b.status ∧ a.fillPrice = b.fillPrice ∧ a.filledQuantity = b.filledQuantity ∧
    a.feeCost = b.feeCost ∧ a.spreadCost = b.spreadCost ∧ a.slippageCost = b.slippageCost ∧
    a.totalCost = b.totalCost

/-- The result is a fill on a bar that closes by `T`. -/
def FilledBy (T : AwareDatetime) (r : ReplayOrderResult) : Prop :=
  r.isFill = true ∧ ∃ t ∈ r.fillEventCloseTs, t ≤ T

/-- Every order filled by `T` on the shorter stream has the same fill on the longer one. -/
def LookaheadFree (T : AwareDatetime) (shorter longer : List ReplayOrderResult) : Prop :=
  ∀ (n : Nat) (r : ReplayOrderResult), shorter[n]? = some r → FilledBy T r →
    ∃ r', longer[n]? = some r' ∧ SameFill r r'

section Condition

variable [Sha256]

/-- The book in front of order `n`. -/
def bookBefore (bars : List OHLCTVBar) (costModel : Option ExecutionCostModel) (c : VenueContext)
    (intents : List OrderIntent) (n : Nat) : Book BalanceKey Decimal :=
  ((startingBook c.accountState).settleAll
    (attemptTransfers bars costModel c (intents.take n))).2

/-- Order `n` can fill on the bars by `T` and asks for the transfer `t`. -/
def AttemptsBy (T : AwareDatetime) (bars : List OHLCTVBar) (costModel : Option ExecutionCostModel)
    (c : VenueContext) (intents : List OrderIntent) (n : Nat) (t : Transfer BalanceKey Decimal) :
    Prop :=
  ∃ intent draft, intents[n]? = some intent ∧
    fillAttempt bars costModel (some c) intent = .fill draft ∧ FilledBy T draft ∧
    attemptTransfer c.snapshot (.fill draft) = some t

/-- With an account, every order that can fill by `T` and is covered when its turn comes on the
shorter stream is covered when its turn comes on the longer stream. -/
def FundedOnExtension (T : AwareDatetime) (bars further : List OHLCTVBar)
    (costModel : Option ExecutionCostModel) (context : Option VenueContext)
    (intents : List OrderIntent) : Prop :=
  ∀ c ∈ context, ∀ n t, AttemptsBy T bars costModel c intents n t →
    (bookBefore bars costModel c intents n).Covers t →
    (bookBefore (bars ++ further) costModel c intents n).Covers t

/-- The keys that the further bars can reach before order `n`: those of an order in front of it
that fills on the longer stream only, and those reached from there through orders paid from a key
already reached. -/
def reachedKeys (bars further : List OHLCTVBar) (costModel : Option ExecutionCostModel)
    (c : VenueContext) (intents : List OrderIntent) (n : Nat) : List BalanceKey :=
  spoilAll [] ((attemptTransfers bars costModel c (intents.take n)).zip
    (attemptTransfers (bars ++ further) costModel c (intents.take n)))

/-- With an account, no order that can fill by `T` pays from a key the further bars reach. -/
def PaysFromUnreached (T : AwareDatetime) (bars further : List OHLCTVBar)
    (costModel : Option ExecutionCostModel) (context : Option VenueContext)
    (intents : List OrderIntent) : Prop :=
  ∀ c ∈ context, ∀ n t, AttemptsBy T bars costModel c intents n t →
    t.debitKey ∉ reachedKeys bars further costModel c intents n

end Condition

/-! ## One order of a run -/

section Runs

variable [Sha256]

/-- The step of order `n` of a run, from the book in front of it. -/
theorem replayOrders_at {bars : List OHLCTVBar} {costModel : Option ExecutionCostModel}
    {context : Option VenueContext} {b₀ : Balances} {intents : List OrderIntent}
    {out : List ReplayOrderResult × Balances}
    (h : replayOrders bars costModel context b₀ intents = .ok out) {n : Nat} {intent : OrderIntent}
    (hn : intents[n]? = some intent) :
    ∃ b r b', replayOne bars costModel context b intent = .ok (r, b') ∧ out.1[n]? = some r ∧
      ∀ c, context = some c →
        b.book = (b₀.book.settleAll (attemptTransfers bars costModel c (intents.take n))).2 := by
  obtain ⟨hlt, hget⟩ := List.getElem?_eq_some_iff.mp hn
  obtain ⟨b, r, b', hbefore, hstep, hr, -⟩ := runSteps_at h n hlt
  rw [hget] at hstep
  refine ⟨b, r, b', hstep, hr, ?_⟩
  rintro c rfl
  have hrun : replayOrders bars costModel (some c) b₀ (intents.take n) =
      .ok (out.1.take n, b) := hbefore
  rw [replayOrders_settleAll hrun]

omit [Sha256] in
theorem book_balanceDict (state : SimulatedAccountState) :
    (balanceDict (some state)).book = startingBook state := by
  funext key
  exact available_balanceDict state key

/-- A result of a run that stands at position `n` has an order there. -/
theorem exists_intent {bars : List OHLCTVBar} {costModel : Option ExecutionCostModel}
    {context : Option VenueContext} {b₀ : Balances} {intents : List OrderIntent}
    {out : List ReplayOrderResult × Balances}
    (h : replayOrders bars costModel context b₀ intents = .ok out) {n : Nat}
    {r : ReplayOrderResult} (hr : out.1[n]? = some r) : ∃ intent, intents[n]? = some intent := by
  have hlen := length_of_runSteps h
  obtain ⟨hlt, -⟩ := List.getElem?_eq_some_iff.mp hr
  exact ⟨intents[n], List.getElem?_eq_getElem (by omega)⟩

/-- An order that is covered in front of a run's step fills with its draft. -/
theorem isFill_of_covers {bars : List OHLCTVBar} {costModel : Option ExecutionCostModel}
    {c : VenueContext} {b b' : Balances} {intent : OrderIntent} {r draft : ReplayOrderResult}
    {t : Transfer BalanceKey Decimal}
    (h : replayOne bars costModel (some c) b intent = .ok (r, b'))
    (hattempt : fillAttempt bars costModel (some c) intent = .fill draft)
    (ht : attemptTransfer c.snapshot (.fill draft) = some t) :
    r.isFill = true ↔ b.book.Covers t := by
  rw [(replayOne_settle h).1, hattempt, ht]
  exact decide_eq_true_iff

/-- The transfer of a filled attempt. -/
theorem exists_attemptTransfer {bars : List OHLCTVBar} {costModel : Option ExecutionCostModel}
    {c : VenueContext} {intent : OrderIntent} {draft : ReplayOrderResult}
    (h : fillAttempt bars costModel (some c) intent = .fill draft) :
    ∃ t, attemptTransfer c.snapshot (.fill draft) = some t := by
  obtain ⟨instrument, hfind⟩ := instrument_of_fill h
  have hid := (fillAttempt_facts h).instrumentId
  refine ⟨transferOn instrument draft, ?_⟩
  unfold attemptTransfer instrumentOf
  dsimp only
  rw [hid, hfind]
  rfl

end Runs

/-! ## Lookahead freedom -/

section Lookahead

variable [Sha256]

/-- Off the keys the further bars reach, the two runs hold the same amounts. -/
theorem agreeOff_reachedKeys (bars further : List OHLCTVBar)
    (costModel : Option ExecutionCostModel) (c : VenueContext) (intents : List OrderIntent)
    (n : Nat) :
    AgreeOff (reachedKeys bars further costModel c intents n)
      (bookBefore bars costModel c intents n) (bookBefore (bars ++ further) costModel c intents n) := by
  have hpairs : ∀ p ∈ (attemptTransfers bars costModel c (intents.take n)).zip
      (attemptTransfers (bars ++ further) costModel c (intents.take n)),
      p.1 = none ∨ p.1 = p.2 := by
    unfold attemptTransfers
    rw [List.zip_map']
    intro p hp
    obtain ⟨intent, -, rfl⟩ := List.mem_map.mp hp
    cases hattempt : fillAttempt bars costModel (some c) intent with
    | unfilled reason model eligibleIndex attemptIndex => exact Or.inl rfl
    | fill draft =>
        refine Or.inr ?_
        rw [fillAttempt_append further hattempt]
  have hagree : AgreeOff [] (startingBook c.accountState) (startingBook c.accountState) :=
    fun _ _ => rfl
  have hall := hagree.settleAll hpairs
  rw [List.map_fst_zip (by simp [attemptTransfers]), List.map_snd_zip (by simp [attemptTransfers])]
    at hall
  exact hall

/-- Orders that pay from unreached keys are funded alike on both streams. -/
theorem fundedOnExtension_of_unreached {T : AwareDatetime} {bars further : List OHLCTVBar}
    {costModel : Option ExecutionCostModel} {context : Option VenueContext}
    {intents : List OrderIntent}
    (h : PaysFromUnreached T bars further costModel context intents) :
    FundedOnExtension T bars further costModel context intents := by
  intro c hc n t hattempts hcov
  have hagree := agreeOff_reachedKeys bars further costModel c intents n
  exact (covers_congr (hagree t.debitKey (h c hc n t hattempts))).mp hcov

omit [Sha256] in
theorem sameFill_refl (r : ReplayOrderResult) : SameFill r r :=
  ⟨rfl, rfl, rfl, rfl, rfl, rfl, rfl⟩

omit [Sha256] in
theorem SameFill.isFill {a b : ReplayOrderResult} (h : SameFill a b) (ha : a.isFill = true) :
    b.isFill = true := by
  unfold ReplayOrderResult.isFill at ha ⊢
  rw [← h.1]
  exact ha

theorem filledBy_withBuiltId {T : AwareDatetime} {draft : ReplayOrderResult} :
    FilledBy T draft.withBuiltId ↔ FilledBy T draft := Iff.rfl

/-- Lookahead freedom holds exactly when the orders that fill by `T` are still covered on the
extended stream; in particular it holds without an account state, and when no order that can fill
by `T` pays from a key the further bars reach. -/
theorem replay_lookahead_free_iff {bars further : List OHLCTVBar} {intents : List OrderIntent}
    {runId : String} {costModel : Option ExecutionCostModel}
    {snapshot : Option InstrumentMasterSnapshot} {state : Option SimulatedAccountState}
    {T : AwareDatetime} {context : Option VenueContext} {shorter longer : ReplayReport}
    (hshort : replayOhlctvMarketOrders bars intents runId costModel snapshot state = .ok shorter)
    (hlong : replayOhlctvMarketOrders (bars ++ further) intents runId costModel snapshot state =
      .ok longer)
    (hcontext : pairContext snapshot state = .ok context) :
    (LookaheadFree T shorter.results longer.results ↔
      FundedOnExtension T bars further costModel context intents) ∧
    (PaysFromUnreached T bars further costModel context intents →
      LookaheadFree T shorter.results longer.results) := by
  obtain ⟨context₁, balances₁, -, -, hc₁, hrun₁, -⟩ := replayOhlctvMarketOrders_ok hshort
  obtain ⟨context₂, balances₂, -, -, hc₂, hrun₂, -⟩ := replayOhlctvMarketOrders_ok hlong
  obtain rfl : context₁ = context := Except.ok.inj (hc₁.symm.trans hcontext)
  obtain rfl : context₂ = context₁ := Except.ok.inj (hc₂.symm.trans hcontext)
  have hstart : ∀ c, context₂ = some c →
      (balanceDict state).book = startingBook c.accountState := by
    rintro c rfl
    cases snapshot with
    | none => cases state <;> cases hcontext
    | some s =>
        cases state with
        | none => cases hcontext
        | some a =>
            cases hcontext
            exact book_balanceDict a
  have hiff : LookaheadFree T shorter.results longer.results ↔
      FundedOnExtension T bars further costModel context₂ intents := by
    constructor
    · rintro hfree c rfl n t ⟨intent, draft, hn, hattempt, hby, ht⟩ hcov
      obtain ⟨b₁, r₁, b₁', hstep₁, hr₁, hbook₁⟩ := replayOrders_at hrun₁ hn
      obtain ⟨b₂, r₂, b₂', hstep₂, hr₂, hbook₂⟩ := replayOrders_at hrun₂ hn
      have hb₁ : b₁.book = bookBefore bars costModel c intents n := by
        rw [hbook₁ c rfl, hstart c rfl]
        rfl
      have hb₂ : b₂.book = bookBefore (bars ++ further) costModel c intents n := by
        rw [hbook₂ c rfl, hstart c rfl]
        rfl
      have hfill₁ : r₁.isFill = true := by
        rw [isFill_of_covers hstep₁ hattempt ht, hb₁]
        exact hcov
      obtain ⟨draft', hattempt', rfl⟩ := replayOne_of_isFill hstep₁ hfill₁
      obtain rfl : draft = draft' := FillAttempt.fill.inj (hattempt.symm.trans hattempt')
      obtain ⟨r', hr', hsame⟩ := hfree n _ hr₁ (filledBy_withBuiltId.mpr hby)
      obtain rfl : r₂ = r' := Option.some.inj (hr₂.symm.trans hr')
      have hfill₂ := hsame.isFill hfill₁
      rw [isFill_of_covers hstep₂ (fillAttempt_append further hattempt) ht, hb₂] at hfill₂
      exact hfill₂
    · intro hfunded n r hr hby
      obtain ⟨intent, hn⟩ := exists_intent hrun₁ hr
      obtain ⟨b₁, r₁, b₁', hstep₁, hr₁, hbook₁⟩ := replayOrders_at hrun₁ hn
      obtain ⟨b₂, r₂, b₂', hstep₂, hr₂, hbook₂⟩ := replayOrders_at hrun₂ hn
      obtain rfl : r₁ = r := Option.some.inj (hr₁.symm.trans hr)
      obtain ⟨draft, hattempt, rfl⟩ := replayOne_of_isFill hstep₁ hby.1
      have hattempt₂ := fillAttempt_append further hattempt
      have hsame : r₂ = draft.withBuiltId := by
        cases hctx : context₂ with
        | none =>
            subst hctx
            exact replayOne_of_fill hstep₂ hattempt₂
        | some c =>
            subst hctx
            obtain ⟨t, ht⟩ := exists_attemptTransfer hattempt
            have hcov : (bookBefore bars costModel c intents n).Covers t := by
              have hb₁ : b₁.book = bookBefore bars costModel c intents n := by
                rw [hbook₁ c rfl, hstart c rfl]
                rfl
              rw [← hb₁, ← isFill_of_covers hstep₁ hattempt ht]
              exact hby.1
            have hcov₂ := hfunded c rfl n t
              ⟨intent, draft, hn, hattempt, filledBy_withBuiltId.mp hby, ht⟩ hcov
            have hfill₂ : r₂.isFill = true := by
              have hb₂ : b₂.book = bookBefore (bars ++ further) costModel c intents n := by
                rw [hbook₂ c rfl, hstart c rfl]
                rfl
              rw [isFill_of_covers hstep₂ hattempt₂ ht, hb₂]
              exact hcov₂
            obtain ⟨draft', hattempt', rfl⟩ := replayOne_of_isFill hstep₂ hfill₂
            rw [hattempt₂] at hattempt'
            cases hattempt'
            rfl
      rw [hsame] at hr₂
      exact ⟨draft.withBuiltId, hr₂, sameFill_refl _⟩
  exact ⟨hiff, fun h => hiff.mpr (fundedOnExtension_of_unreached h)⟩

end Lookahead

/-! ## An earlier fill that the future takes away -/

/-- The attempt is a fill whose draft passes a test. -/
def FillAttempt.fillsWith (test : ReplayOrderResult → Bool) : FillAttempt → Bool
  | .fill draft => test draft
  | .unfilled _ _ _ _ => false

theorem FillAttempt.exists_of_fillsWith {test : ReplayOrderResult → Bool} {a : FillAttempt}
    (h : a.fillsWith test = true) : ∃ draft, a = .fill draft ∧ test draft = true := by
  cases a with
  | unfilled reason model eligibleIndex attemptIndex => cases h
  | fill draft => exact ⟨draft, rfl, h⟩

instance (T : AwareDatetime) (r : ReplayOrderResult) : Decidable (FilledBy T r) := by
  unfold FilledBy
  infer_instance

/-- One bar of `BTC-USD`, closed by minute two. -/
def shorterBars : List OHLCTVBar :=
  [flatBar "BTC-USD" 1 0 ⟨100, Decimal.zero_le_hundred⟩ ⟨10, Decimal.zero_le_ten⟩]

/-- The first bar of `ETH-USD`, from minute two on. -/
def furtherBars : List OHLCTVBar :=
  [flatBar "ETH-USD" 2 0 ⟨100, Decimal.zero_le_hundred⟩ ⟨10, Decimal.zero_le_ten⟩]

/-- A purchase of `ETH` is submitted before a purchase of `BTC`. -/
def competingOrders : List OrderIntent :=
  [marketOrder "ORDER-1" "ETH-USD" .buy ⟨1, Decimal.zero_lt_one⟩ 0,
    marketOrder "ORDER-2" "BTC-USD" .buy ⟨1, Decimal.zero_lt_one⟩ 1]

/-- The two-instrument market with a cash account. -/
def cashContext (cash : NonNegativeDecimal) : VenueContext :=
  ⟨marketSnapshot loosestLimits, cashState cash⟩

/-- Both streams of the competing orders replay, whatever the cash. -/
theorem competing_replays (cash : NonNegativeDecimal) :
    (∃ shorter, @replayOhlctvMarketOrders hashlibSha256 shorterBars competingOrders "RUN" none
      (some (marketSnapshot loosestLimits)) (some (cashState cash)) = .ok shorter) ∧
    (∃ longer, @replayOhlctvMarketOrders hashlibSha256 (shorterBars ++ furtherBars) competingOrders
      "RUN" none (some (marketSnapshot loosestLimits)) (some (cashState cash)) = .ok longer) := by
  have hintents : validateOrderIntents competingOrders = .ok () :=
    ok_unit_of_toBool _ (by decide)
  have hshort : validateBarsAreSafe shorterBars = .ok () := ok_unit_of_toBool _ (by decide)
  have hlong : validateBarsAreSafe (shorterBars ++ furtherBars) = .ok () :=
    ok_unit_of_toBool _ (by decide)
  constructor
  · exact (@replay_with_account_succeeds_iff hashlibSha256 _ _ _ none _ _).mpr
      ⟨hshort, hintents, by decide⟩
  · exact (@replay_with_account_succeeds_iff hashlibSha256 _ _ _ none _ _).mpr
      ⟨hlong, hintents, by decide⟩

/-- With cash for both purchases the equivalence applies. -/
theorem replay_lookahead_free_iff_competing :
    ∃ shorter longer,
      @replayOhlctvMarketOrders hashlibSha256 shorterBars competingOrders "RUN" none
        (some (marketSnapshot loosestLimits)) (some (cashState ⟨200, by decide⟩)) = .ok shorter ∧
      @replayOhlctvMarketOrders hashlibSha256 (shorterBars ++ furtherBars) competingOrders "RUN" none
        (some (marketSnapshot loosestLimits)) (some (cashState ⟨200, by decide⟩)) = .ok longer ∧
      (LookaheadFree (minute 2) shorter.results longer.results ↔
        @FundedOnExtension hashlibSha256 (minute 2) shorterBars furtherBars none
          (some (cashContext ⟨200, by decide⟩)) competingOrders) := by
  obtain ⟨⟨shorter, hshort⟩, ⟨longer, hlong⟩⟩ := competing_replays ⟨200, by decide⟩
  exact ⟨shorter, longer, hshort, hlong,
    (@replay_lookahead_free_iff hashlibSha256 _ _ _ _ _ _ _ (minute 2) _ _ _ hshort hlong rfl).1⟩

/-- With cash for one purchase the filled purchase of `BTC` loses its fill to a bar that opens after
the fill closed. -/
theorem replay_fill_changed_by_future :
    ∃ shorter longer,
      @replayOhlctvMarketOrders hashlibSha256 shorterBars competingOrders "RUN" none
        (some (marketSnapshot loosestLimits)) (some (cashState ⟨100, by decide⟩)) = .ok shorter ∧
      @replayOhlctvMarketOrders hashlibSha256 (shorterBars ++ furtherBars) competingOrders "RUN" none
        (some (marketSnapshot loosestLimits)) (some (cashState ⟨100, by decide⟩)) = .ok longer ∧
      (∀ bar ∈ furtherBars, minute 2 ≤ bar.openTs) ∧
      ¬ LookaheadFree (minute 2) shorter.results longer.results := by
  obtain ⟨⟨shorter, hshort⟩, ⟨longer, hlong⟩⟩ := competing_replays ⟨100, by decide⟩
  refine ⟨shorter, longer, hshort, hlong, by decide, ?_⟩
  intro hfree
  have hcontext : pairContext (some (marketSnapshot loosestLimits))
      (some (cashState ⟨100, by decide⟩)) = .ok (some (cashContext ⟨100, by decide⟩)) := rfl
  have hfunded := (@replay_lookahead_free_iff hashlibSha256 _ _ _ _ _ _ _ (minute 2) _ _ _ hshort
    hlong hcontext).1.mp hfree
  let purchase : Transfer BalanceKey Decimal :=
    { debitKey := ("VENUE", "USD"), debit := 100, creditKey := ("VENUE", "BTC"), credit := 1 }
  obtain ⟨draft, hattempt, htest⟩ := FillAttempt.exists_of_fillsWith
    (show (@fillAttempt hashlibSha256 shorterBars none (some (cashContext ⟨100, by decide⟩))
        (marketOrder "ORDER-2" "BTC-USD" .buy ⟨1, by decide⟩ 1)).fillsWith
      (fun draft => decide (FilledBy (minute 2) draft ∧
        attemptTransfer (marketSnapshot loosestLimits) (.fill draft) = some purchase)) = true by
      decide +kernel)
  obtain ⟨hby, ht⟩ := of_decide_eq_true htest
  have hcov := hfunded _ rfl 1 purchase ⟨_, draft, rfl, hattempt, hby, ht⟩ (by decide)
  revert hcov
  decide +kernel

end TaModel.Simulation
