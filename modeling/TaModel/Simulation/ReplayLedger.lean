import TaModel.Library.Ledger
import TaModel.Simulation.Replay
import Mathlib.Tactic.Linarith
import Mathlib.Tactic.FieldSimp

/-!
# The replay as a ledger

`_apply_balance_or_reject` posts a covered transfer: a buy takes notional and fee from the quote
balance and puts the quantity on the base balance, a sell goes the other way. `replayOne_cases`
says what one order can do to the balances; `replayOrders_settleAll` refines the loop over the
orders to the settlement of a list of attempted transfers.
-/

set_option autoImplicit false

namespace TaModel.Simulation

open TaModel.Contracts TaModel.Library

/-! ## What a filled attempt carries -/

/-- The facts about the draft of a filled attempt that settlement relies on. -/
structure FillFacts (bars : List OHLCTVBar) (intent : OrderIntent) (draft : ReplayOrderResult) :
    Prop where
  clientOrderId : draft.clientOrderId = intent.clientOrderId
  instrumentId : draft.instrumentId = intent.instrumentId
  venueId : draft.venueId = intent.venueId
  side : draft.side = intent.side
  isFill : draft.isFill = true
  reason : draft.reason = none
  quantity_pos : 0 < draft.filledQuantity
  notional_nonneg : 0 ≤ draft.effectiveNotional
  fee_nonneg : 0 ≤ draft.feeCost
  fee_le : draft.feeCost ≤ draft.effectiveNotional
  bar : ∃ bar ∈ bars, isEligible intent bar = true ∧ draft.fillEventOpenTs = some bar.openTs ∧
    draft.fillEventCloseTs = some bar.closeTs

theorem mem_of_mem_eligibleBars {intent : OrderIntent} {bars : List OHLCTVBar}
    {entry : OHLCTVBar × Nat} (h : entry ∈ eligibleBars intent bars) :
    entry.1 ∈ bars ∧ isEligible intent entry.1 = true := by
  obtain ⟨hmem, helig⟩ := List.mem_filter.mp h
  have hget := List.mem_zipIdx_iff_getElem?.mp hmem
  exact ⟨List.mem_of_getElem? hget, helig⟩

/-- The adverse adjustment is below one, so a fill price keeps the sign of the open. -/
theorem effectiveFillPrice_nonneg (model : ExecutionCostModel) (side : OrderSide)
    {openPrice : Decimal} (hopen : 0 ≤ openPrice) :
    0 ≤ effectiveFillPrice model side openPrice := by
  have hspread := model.spreadBps.property
  have hslip := model.slippageBps.property
  have hsum := model.adverse_below_unit
  have hadj : 0 ≤ (model.spreadBps.val + model.slippageBps.val) / 10000 := by linarith
  have hadj_lt : (model.spreadBps.val + model.slippageBps.val) / 10000 < 1 := by linarith
  cases side with
  | buy => exact mul_nonneg hopen (by linarith)
  | sell => exact mul_nonneg hopen (by linarith)

section Attempts

variable [Sha256]

omit [Sha256] in
theorem frictionlessAttempt_facts {bars : List OHLCTVBar} {context : Option VenueContext}
    {intent : OrderIntent} {entry : OHLCTVBar × Nat} {draft : ReplayOrderResult}
    (hmem : entry ∈ eligibleBars intent bars)
    (h : frictionlessAttempt context intent entry.1 = .fill draft) :
    FillFacts bars intent draft := by
  obtain ⟨hbar, helig⟩ := mem_of_mem_eligibleBars hmem
  unfold frictionlessAttempt at h
  split at h
  · cases h
  · cases h
    have hnotional : 0 ≤ entry.1.openPrice.val * intent.quantity.val :=
      mul_nonneg entry.1.openPrice.property (le_of_lt intent.quantity.property)
    exact
      { clientOrderId := rfl, instrumentId := rfl, venueId := rfl, side := rfl, isFill := rfl,
        reason := rfl, quantity_pos := intent.quantity.property, notional_nonneg := hnotional,
        fee_nonneg := le_refl 0, fee_le := hnotional,
        bar := ⟨entry.1, hbar, helig, rfl, rfl⟩ }

theorem costedAttempt_facts {bars : List OHLCTVBar} {context : Option VenueContext}
    {model : ExecutionCostModel} {intent : OrderIntent} {firstIndex : Nat}
    {draft : ReplayOrderResult}
    (h : costedAttempt context model intent (eligibleBars intent bars) firstIndex = .fill draft) :
    FillFacts bars intent draft := by
  unfold costedAttempt at h
  split at h
  · cases h
  · rename_i bar index hget
    obtain ⟨hbar, helig⟩ := mem_of_mem_eligibleBars (List.mem_of_getElem? hget)
    split at h
    · cases h
    · dsimp only at h
      split at h
      · cases h
      · rename_i hliquid
        cases h
        have hcap : 0 < bar.baseVolume.val * model.maxParticipationRate.val := by
          by_contra hle
          exact hliquid (Or.inl (not_lt.mp hle))
        have hqty : 0 < min intent.quantity.val
            (bar.baseVolume.val * model.maxParticipationRate.val) :=
          lt_min intent.quantity.property hcap
        have hnotional : 0 ≤ effectiveFillPrice model intent.side bar.openPrice.val *
            min intent.quantity.val (bar.baseVolume.val * model.maxParticipationRate.val) :=
          mul_nonneg (effectiveFillPrice_nonneg model intent.side bar.openPrice.property)
            (le_of_lt hqty)
        have hrate := model.takerFeeRate.property
        refine
          { clientOrderId := rfl, instrumentId := rfl, venueId := rfl, side := rfl, isFill := ?_,
            reason := rfl, quantity_pos := hqty, notional_nonneg := hnotional, fee_nonneg := ?_,
            fee_le := ?_, bar := ⟨bar, hbar, helig, rfl, rfl⟩ }
        · unfold ReplayOrderResult.isFill costedFill resultOfIntent
          dsimp only
          split <;> rfl
        · exact mul_nonneg (abs_nonneg _) hrate.1
        · show |_| * model.takerFeeRate.val ≤ _
          rw [abs_of_nonneg hnotional]
          exact mul_le_of_le_one_right hnotional (by linarith [hrate.2])

/-- Every filled attempt carries the facts of `FillFacts`. -/
theorem fillAttempt_facts {bars : List OHLCTVBar} {costModel : Option ExecutionCostModel}
    {context : Option VenueContext} {intent : OrderIntent} {draft : ReplayOrderResult}
    (h : fillAttempt bars costModel context intent = .fill draft) :
    FillFacts bars intent draft := by
  unfold fillAttempt at h
  split at h
  · cases h
  · split at h
    · cases h
    · split at h
      · cases h
      · rename_i first rest heligible
        have hmem : first ∈ eligibleBars intent bars := by
          rw [heligible]
          exact List.mem_cons_self
        cases costModel with
        | none => exact frictionlessAttempt_facts hmem h
        | some model =>
            dsimp only at h
            rw [← heligible] at h
            exact costedAttempt_facts h

end Attempts

/-! ## Balances as a book -/

/-- The book of available balances: a missing key holds zero. -/
def Balances.book (balances : Balances) : Book BalanceKey Decimal := balances.available

theorem available_insert (balances : Balances) (key other : BalanceKey) (value : Decimal) :
    Balances.available (balances.insert key value) other =
      if other = key then value else balances.available other := by
  unfold Balances.available
  by_cases h : other = key
  · subst h
    rw [AList.lookup_insert, if_pos rfl]
    rfl
  · rw [AList.lookup_insert_ne h, if_neg h]

/-- The instrument whose assets a result moves. -/
def instrumentOf (snapshot : InstrumentMasterSnapshot) (result : ReplayOrderResult) :
    Option Instrument :=
  snapshot.instruments.find? fun i => i.instrumentId == result.instrumentId

/-- The balance change of a filled result on a given instrument. -/
def transferOn (instrument : Instrument) (result : ReplayOrderResult) :
    Transfer BalanceKey Decimal :=
  match result.side with
  | .buy =>
      { debitKey := (result.venueId, instrument.quoteAssetId),
        debit := result.effectiveNotional + result.feeCost,
        creditKey := (result.venueId, instrument.baseAssetId),
        credit := result.filledQuantity }
  | .sell =>
      { debitKey := (result.venueId, instrument.baseAssetId),
        debit := result.filledQuantity,
        creditKey := (result.venueId, instrument.quoteAssetId),
        credit := result.effectiveNotional - result.feeCost }

/-- The balance change of a filled result; the fallback is never used on a replayed fill. -/
def resultTransfer (snapshot : InstrumentMasterSnapshot) (result : ReplayOrderResult) :
    Transfer BalanceKey Decimal :=
  match instrumentOf snapshot result with
  | some instrument => transferOn instrument result
  | none => { debitKey := ("", ""), debit := 0, creditKey := ("", ""), credit := 0 }

/-- The balance changes of the filled results, in the order of the list. -/
def fillTransfers (snapshot : InstrumentMasterSnapshot) (results : List ReplayOrderResult) :
    List (Transfer BalanceKey Decimal) :=
  (results.filter ReplayOrderResult.isFill).map (resultTransfer snapshot)

/-- The transfer an attempt asks for. -/
def attemptTransfer (snapshot : InstrumentMasterSnapshot) :
    FillAttempt → Option (Transfer BalanceKey Decimal)
  | .unfilled _ _ _ _ => none
  | .fill draft => (instrumentOf snapshot draft).map fun i => transferOn i draft

theorem transferOn_signs {bars : List OHLCTVBar} {intent : OrderIntent}
    {draft : ReplayOrderResult} (facts : FillFacts bars intent draft) (instrument : Instrument) :
    0 ≤ (transferOn instrument draft).debit ∧ 0 ≤ (transferOn instrument draft).credit := by
  unfold transferOn
  cases draft.side with
  | buy => exact ⟨add_nonneg facts.notional_nonneg facts.fee_nonneg, le_of_lt facts.quantity_pos⟩
  | sell => exact ⟨le_of_lt facts.quantity_pos, sub_nonneg.mpr facts.fee_le⟩

/-- Writing the two balances of a settled fill posts its transfer: base and quote differ. -/
theorem book_insert_insert (balances : Balances) {debitKey creditKey : BalanceKey}
    (hne : debitKey ≠ creditKey) (debit credit : Decimal) :
    Balances.book ((balances.insert debitKey (balances.available debitKey - debit)).insert creditKey
        (balances.available creditKey + credit)) =
      balances.book.post { debitKey, debit, creditKey, credit } := by
  funext key
  show Balances.available _ key = balances.available key + Transfer.effect _ key
  rw [available_insert, available_insert]
  unfold Transfer.effect
  by_cases hc : key = creditKey
  · subst hc
    rw [if_pos rfl, if_pos rfl, if_neg (Ne.symm hne), sub_zero]
  · rw [if_neg hc, if_neg hc]
    by_cases hd : key = debitKey
    · subst hd
      rw [if_pos rfl, if_pos rfl, zero_sub, sub_eq_add_neg]
    · rw [if_neg hd, if_neg hd, sub_zero, add_zero]

/-! ## One order -/

section Settlement

variable [Sha256]

/-- Constructing a result without a fill never fails. -/
theorem unfilledResult_ok (intent : OrderIntent) (reason : ReplayRejectReason)
    (costModel : Option ExecutionCostModel) (eligibleIndex attemptIndex : Option Nat) :
    ∃ result, unfilledResult intent reason costModel eligibleIndex attemptIndex = .ok result ∧
      result.isFill = false ∧ result.reason = some reason ∧
      result.clientOrderId = intent.clientOrderId := by
  refine ⟨_, (ReplayOrderResult.construct_eq_ok_iff _ _).mpr ⟨?_, rfl⟩, ?_, rfl, rfl⟩
  · have hquantity := intent.quantity.property
    unfold ReplayOrderResult.validateFields ReplayOrderResult.validateNoFill
    split <;>
      simp [bind_eq_ok_iff, ReplayOrderResult.FieldsInBounds, ReplayOrderResult.isFill,
        resultOfIntent, hquantity, le_of_lt hquantity]
  · unfold ReplayOrderResult.isFill ReplayOrderResult.withBuiltId resultOfIntent
    dsimp only
    split <;> rfl

/-- What `_apply_balance_or_reject` can do: reject for an uncovered debit, or post the transfer. -/
theorem applyBalanceOrReject_cases {intent : OrderIntent} {result r : ReplayOrderResult}
    {snapshot : InstrumentMasterSnapshot} {b b' : Balances}
    (hinstrument : result.instrumentId = intent.instrumentId)
    (hvenue : result.venueId = intent.venueId) (hside : result.side = intent.side)
    (h : applyBalanceOrReject intent result snapshot b = .ok (r, b')) :
    ∃ instrument, instrumentOf snapshot result = some instrument ∧
      ((¬ b.book.Covers (transferOn instrument result) ∧ r.isFill = false ∧ b' = b ∧
          r.clientOrderId = intent.clientOrderId) ∨
        (b.book.Covers (transferOn instrument result) ∧ r = result ∧
          b'.book = b.book.post (transferOn instrument result) ∧ ∀ key ∈ b, key ∈ b')) := by
  have hlookup : instrumentOf snapshot result =
      snapshot.instruments.find? fun i => i.instrumentId == intent.instrumentId := by
    unfold instrumentOf
    rw [hinstrument]
  unfold applyBalanceOrReject at h
  rw [hlookup]
  cases hfind : snapshot.instruments.find? fun i => i.instrumentId == intent.instrumentId with
  | none =>
      simp only [hfind] at h
      cases h
  | some instrument =>
      refine ⟨instrument, rfl, ?_⟩
      simp only [hfind] at h
      have hne := instrument.base_ne_quote
      cases hs : intent.side with
      | buy =>
          simp only [hs] at h
          have ht : transferOn instrument result =
              { debitKey := (intent.venueId, instrument.quoteAssetId),
                debit := result.effectiveNotional + result.feeCost,
                creditKey := (intent.venueId, instrument.baseAssetId),
                credit := result.filledQuantity } := by
            unfold transferOn
            rw [hside, hs, hvenue]
          split at h
          · rename_i hshort
            obtain ⟨rejected, hrejected, hfill, -, hid⟩ :=
              unfilledResult_ok intent .insufficientCash none none none
            rw [hrejected] at h
            cases h
            refine Or.inl ⟨?_, hfill, rfl, hid⟩
            rw [ht]
            exact not_le.mpr hshort
          · rename_i hcovered
            cases h
            refine Or.inr ⟨?_, rfl, ?_, ?_⟩
            · rw [ht]
              exact not_lt.mp hcovered
            · rw [ht]
              refine book_insert_insert b ?_ _ _
              intro heq
              exact hne (congrArg Prod.snd heq).symm
            · intro key hkey
              exact (AList.mem_insert _).mpr (Or.inr ((AList.mem_insert _).mpr (Or.inr hkey)))
      | sell =>
          simp only [hs] at h
          have ht : transferOn instrument result =
              { debitKey := (intent.venueId, instrument.baseAssetId),
                debit := result.filledQuantity,
                creditKey := (intent.venueId, instrument.quoteAssetId),
                credit := result.effectiveNotional - result.feeCost } := by
            unfold transferOn
            rw [hside, hs, hvenue]
          split at h
          · rename_i hshort
            obtain ⟨rejected, hrejected, hfill, -, hid⟩ :=
              unfilledResult_ok intent .insufficientInventory none none none
            rw [hrejected] at h
            cases h
            refine Or.inl ⟨?_, hfill, rfl, hid⟩
            rw [ht]
            exact not_le.mpr hshort
          · rename_i hcovered
            cases h
            refine Or.inr ⟨?_, rfl, ?_, ?_⟩
            · rw [ht]
              exact not_lt.mp hcovered
            · rw [ht, add_sub_assoc]
              refine book_insert_insert b ?_ _ _
              intro heq
              exact hne (congrArg Prod.snd heq)
            · intro key hkey
              exact (AList.mem_insert _).mpr (Or.inr ((AList.mem_insert _).mpr (Or.inr hkey)))

/-- What one order can do to the balances: leave them alone without a fill, or post the transfer
of its fill. -/
theorem replayOne_cases {bars : List OHLCTVBar} {costModel : Option ExecutionCostModel}
    {c : VenueContext} {b b' : Balances} {intent : OrderIntent} {r : ReplayOrderResult}
    (h : replayOne bars costModel (some c) b intent = .ok (r, b')) :
    (r.isFill = false ∧ r.clientOrderId = intent.clientOrderId ∧ b' = b ∧
      ∀ t, attemptTransfer c.snapshot (fillAttempt bars costModel (some c) intent) = some t →
        ¬ b.book.Covers t) ∨
    (∃ draft instrument, fillAttempt bars costModel (some c) intent = .fill draft ∧
      instrumentOf c.snapshot draft = some instrument ∧ r = draft.withBuiltId ∧
      b.book.Covers (transferOn instrument draft) ∧
      b'.book = b.book.post (transferOn instrument draft) ∧ ∀ key ∈ b, key ∈ b') := by
  unfold replayOne at h
  cases hattempt : fillAttempt bars costModel (some c) intent with
  | unfilled reason model eligibleIndex attemptIndex =>
      obtain ⟨result, hresult, hfill, -, hid⟩ :=
        unfilledResult_ok intent reason model eligibleIndex attemptIndex
      rw [hattempt] at h
      simp only [settleAttempt, hresult, ok_bind] at h
      cases h
      refine Or.inl ⟨hfill, hid, rfl, ?_⟩
      intro t ht
      cases ht
  | fill draft =>
      rw [hattempt] at h
      obtain ⟨result, hresult, happly⟩ := (bind_eq_ok_iff _ _ _).mp h
      obtain ⟨-, rfl⟩ := (ReplayOrderResult.construct_eq_ok_iff _ _).mp hresult
      have facts := fillAttempt_facts hattempt
      have hinstr : draft.withBuiltId.instrumentId = intent.instrumentId := facts.instrumentId
      have happly' : applyBalanceOrReject intent draft.withBuiltId c.snapshot b = .ok (r, b') :=
        happly
      obtain ⟨instrument, hinstrument, hcase⟩ :=
        applyBalanceOrReject_cases hinstr facts.venueId facts.side happly'
      have hsame : instrumentOf c.snapshot draft = some instrument := hinstrument
      rcases hcase with ⟨hnot, hfill, hb, hid⟩ | ⟨hcov, hr, hb, hkeys⟩
      · refine Or.inl ⟨hfill, hid, hb, ?_⟩
        intro t ht
        have ht' : (instrumentOf c.snapshot draft).map (fun i => transferOn i draft) = some t := ht
        rw [hsame] at ht'
        cases ht'
        exact hnot
      · exact Or.inr ⟨draft, instrument, rfl, hsame, hr, hcov, hb, hkeys⟩

/-! ## All orders -/

/-- How the result of an order comes from its attempt. -/
structure ResultFacts (bars : List OHLCTVBar) (costModel : Option ExecutionCostModel)
    (c : VenueContext) (intent : OrderIntent) (r : ReplayOrderResult) : Prop where
  clientOrderId : r.clientOrderId = intent.clientOrderId
  fill : r.isFill = true → ∃ draft instrument,
    fillAttempt bars costModel (some c) intent = .fill draft ∧ r = draft.withBuiltId ∧
      instrumentOf c.snapshot r = some instrument

theorem replayOne_resultFacts {bars : List OHLCTVBar} {costModel : Option ExecutionCostModel}
    {c : VenueContext} {b b' : Balances} {intent : OrderIntent} {r : ReplayOrderResult}
    (h : replayOne bars costModel (some c) b intent = .ok (r, b')) :
    ResultFacts bars costModel c intent r := by
  rcases replayOne_cases h with ⟨hnot, hid, -, -⟩ | ⟨draft, instrument, ha, hi, rfl, -, -, -⟩
  · refine { clientOrderId := hid, fill := ?_ }
    intro hfill
    rw [hnot] at hfill
    cases hfill
  · exact
      { clientOrderId := (fillAttempt_facts ha).clientOrderId,
        fill := fun _ => ⟨draft, instrument, ha, rfl, hi⟩ }

/-- One order settles its attempt: it fills when the ledger posts, and the balances move as the
ledger says. -/
theorem replayOne_settle {bars : List OHLCTVBar} {costModel : Option ExecutionCostModel}
    {c : VenueContext} {b b' : Balances} {intent : OrderIntent} {r : ReplayOrderResult}
    (h : replayOne bars costModel (some c) b intent = .ok (r, b')) :
    r.isFill = b.book.posts
        (attemptTransfer c.snapshot (fillAttempt bars costModel (some c) intent)) ∧
      b'.book = b.book.settle
        (attemptTransfer c.snapshot (fillAttempt bars costModel (some c) intent)) := by
  rcases replayOne_cases h with ⟨hr, -, rfl, hnot⟩ | ⟨draft, instrument, ha, hi, hr, hcov, hb, -⟩
  · cases ht : attemptTransfer c.snapshot (fillAttempt bars costModel (some c) intent) with
    | none => exact ⟨hr, rfl⟩
    | some t =>
        refine ⟨?_, (if_neg (hnot t ht)).symm⟩
        rw [hr]
        exact (decide_eq_false (hnot t ht)).symm
  · have ht : attemptTransfer c.snapshot (fillAttempt bars costModel (some c) intent) =
        some (transferOn instrument draft) := by
      rw [ha]
      show (instrumentOf c.snapshot draft).map (fun i => transferOn i draft) = _
      rw [hi]
      rfl
    rw [ht, hb]
    refine ⟨?_, (if_pos hcov).symm⟩
    rw [hr, ReplayOrderResult.isFill_withBuiltId (fillAttempt_facts ha).isFill]
    exact (decide_eq_true hcov).symm

/-- The attempted transfers of a list of orders. -/
def attemptTransfers (bars : List OHLCTVBar) (costModel : Option ExecutionCostModel)
    (c : VenueContext) (intents : List OrderIntent) : List (Option (Transfer BalanceKey Decimal)) :=
  intents.map fun intent =>
    attemptTransfer c.snapshot (fillAttempt bars costModel (some c) intent)

/-- The loop over the orders settles their attempted transfers in turn. -/
theorem replayOrders_settleAll {bars : List OHLCTVBar} {costModel : Option ExecutionCostModel}
    {c : VenueContext} {b : Balances} {intents : List OrderIntent}
    {out : List ReplayOrderResult × Balances}
    (h : replayOrders bars costModel (some c) b intents = .ok out) :
    b.book.settleAll (attemptTransfers bars costModel c intents) =
      (out.1.map ReplayOrderResult.isFill, out.2.book) := by
  induction intents generalizing b out with
  | nil => cases h; rfl
  | cons intent intents ih =>
      obtain ⟨r, b', rs, hstep, hrest, hout⟩ :=
        (runSteps_cons_eq_ok_iff b intent intents out).mp h
      have htail := @ih b' (rs, out.2) hrest
      obtain ⟨hfill, hbook⟩ := replayOne_settle hstep
      show (b.book.settleAll (attemptTransfer c.snapshot
        (fillAttempt bars costModel (some c) intent) ::
          attemptTransfers bars costModel c intents)) = _
      rw [settleAll_cons, ← hfill, ← hbook, htail, hout]
      rfl

/-- The filled results settle in turn and lead to the final balances; no key is lost. -/
theorem replayOrders_posts {bars : List OHLCTVBar} {costModel : Option ExecutionCostModel}
    {c : VenueContext} {b : Balances} {intents : List OrderIntent}
    {out : List ReplayOrderResult × Balances}
    (h : replayOrders bars costModel (some c) b intents = .ok out) :
    b.book.Settles (fillTransfers c.snapshot out.1) ∧
      out.2.book = b.book.postAll (fillTransfers c.snapshot out.1) ∧
      ∀ key ∈ b, key ∈ out.2 := by
  induction intents generalizing b out with
  | nil => cases h; exact ⟨trivial, rfl, fun key hkey => hkey⟩
  | cons intent intents ih =>
      obtain ⟨r, b', rs, hstep, hrest, hout⟩ :=
        (runSteps_cons_eq_ok_iff b intent intents out).mp h
      obtain ⟨hset, hbook, hkeys⟩ := @ih b' (rs, out.2) hrest
      rw [hout]
      unfold fillTransfers at hset hbook ⊢
      rcases replayOne_cases hstep with ⟨hnot, -, rfl, -⟩ | ⟨draft, i, ha, hi, rfl, hcov, hb, hgrow⟩
      · rw [List.filter_cons_of_neg (by simp [hnot])]
        exact ⟨hset, hbook, hkeys⟩
      · have hfill : draft.withBuiltId.isFill = true := (fillAttempt_facts ha).isFill
        have ht : resultTransfer c.snapshot draft.withBuiltId = transferOn i draft := by
          unfold resultTransfer
          rw [show instrumentOf c.snapshot draft.withBuiltId = some i from hi]
          rfl
        rw [List.filter_cons_of_pos hfill, List.map_cons, ht]
        rw [hb] at hset hbook
        exact ⟨⟨hcov, hset⟩, hbook, fun key hkey => hkeys key (hgrow key hkey)⟩

/-- The drafts whose attempts are flagged as posted. -/
def postedDrafts : List FillAttempt → List Bool → List ReplayOrderResult
  | .fill draft :: attempts, true :: flags => draft :: postedDrafts attempts flags
  | _ :: attempts, _ :: flags => postedDrafts attempts flags
  | _, _ => []

/-- The filled results are the posted drafts with their ids. -/
theorem replayOrders_filled {bars : List OHLCTVBar} {costModel : Option ExecutionCostModel}
    {c : VenueContext} {b : Balances} {intents : List OrderIntent}
    {out : List ReplayOrderResult × Balances}
    (h : replayOrders bars costModel (some c) b intents = .ok out) :
    out.1.filter ReplayOrderResult.isFill =
      (postedDrafts (intents.map (fillAttempt bars costModel (some c)))
        (b.book.settleAll (attemptTransfers bars costModel c intents)).1).map
        ReplayOrderResult.withBuiltId := by
  rw [replayOrders_settleAll h]
  induction intents generalizing b out with
  | nil => cases h; rfl
  | cons intent intents ih =>
      obtain ⟨r, b', rs, hstep, hrest, hout⟩ :=
        (runSteps_cons_eq_ok_iff b intent intents out).mp h
      have htail := @ih b' (rs, out.2) hrest
      rw [hout, List.map_cons, List.map_cons]
      rcases replayOne_cases hstep with ⟨hr, -, -, -⟩ | ⟨draft, instrument, ha, -, rfl, -, -, -⟩
      · rw [List.filter_cons_of_neg (by simp [hr]), hr, htail]
        cases fillAttempt bars costModel (some c) intent <;> rfl
      · have hfill := ReplayOrderResult.isFill_withBuiltId (fillAttempt_facts ha).isFill
        rw [List.filter_cons_of_pos hfill, hfill, htail, ha]
        rfl

/-- Orders and results correspond one to one. -/
theorem replayOrders_resultFacts {bars : List OHLCTVBar} {costModel : Option ExecutionCostModel}
    {c : VenueContext} {b : Balances} {intents : List OrderIntent}
    {out : List ReplayOrderResult × Balances}
    (h : replayOrders bars costModel (some c) b intents = .ok out) :
    List.Forall₂ (ResultFacts bars costModel c) intents out.1 := by
  have hstep : ∀ b intent r b', True → replayOne bars costModel (some c) b intent = .ok (r, b') →
      True ∧ ResultFacts bars costModel c intent r :=
    fun _ _ _ _ _ hone => ⟨trivial, replayOne_resultFacts hone⟩
  exact runSteps_forall₂ hstep trivial h

end Settlement

end TaModel.Simulation
