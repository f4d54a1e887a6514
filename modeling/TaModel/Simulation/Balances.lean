import TaModel.Simulation.ReplayLedger

/-!
# Balances and account states

The dictionary of balances a replay starts from holds what the starting account state holds, the
account state it ends with holds what the dictionary holds, and no order makes a balance negative.
-/

set_option autoImplicit false

namespace TaModel.Simulation

open TaModel.Contracts TaModel.Library

/-! ## Balances of an account state -/

/-- The available amount of an account state under a key, zero if the key is absent. -/
def availableIn (state : SimulatedAccountState) (key : BalanceKey) : Decimal :=
  match state.balances.find? fun balance => balance.key == key with
  | some balance => balance.available.val
  | none => 0

/-- The keys an account state lists. -/
def keysOf (state : SimulatedAccountState) : List BalanceKey :=
  state.balances.map SimulatedBalance.key

/-- The starting dictionary holds what the account state holds. -/
theorem available_balanceDict (state : SimulatedAccountState) (key : BalanceKey) :
    (balanceDict (some state)).available key = availableIn state key := by
  unfold Balances.available balanceDict availableIn
  dsimp only
  rw [AList.lookup_to_alist]
  induction state.balances with
  | nil => rfl
  | cons balance rest ih =>
      rw [List.map_cons, List.find?_cons]
      by_cases h : balance.key = key
      · subst h
        rw [List.dlookup_cons_eq, beq_self_eq_true]
        rfl
      · have hne : (balance.key == key) = false := beq_eq_false_iff_ne.mpr h
        rw [List.dlookup_cons_ne _ _ (Ne.symm h), hne]
        exact ih

theorem mem_balanceDict_iff (state : SimulatedAccountState) (key : BalanceKey) :
    key ∈ balanceDict (some state) ↔ key ∈ keysOf state := by
  unfold balanceDict keysOf
  dsimp only
  rw [← AList.lookup_isSome, AList.lookup_to_alist, List.dlookup_isSome, List.keys, List.map_map]
  rfl

theorem balanceDict_nonneg (state : SimulatedAccountState) (key : BalanceKey) :
    0 ≤ (balanceDict (some state)).available key := by
  rw [available_balanceDict]
  unfold availableIn
  split
  · rename_i balance hfind
    exact balance.available.property
  · exact le_refl 0

/-! ## The final account state -/

/-- `_build_account_state` writes one balance for each item, in order. -/
theorem buildBalances_ok {accountId : String} {items : List (BalanceKey × Decimal)}
    {built : List SimulatedBalance} (h : buildBalances accountId items = .ok built) :
    built.map (fun b => (b.key, b.available.val)) = items := by
  induction items generalizing built with
  | nil => cases h; rfl
  | cons item items ih =>
      obtain ⟨key, available⟩ := item
      unfold buildBalances at h
      split at h
      · obtain ⟨rest, hrest, hbuilt⟩ := (bind_eq_ok_iff _ _ _).mp h
        cases hbuilt
        rw [List.map_cons, ih hrest]
        rfl
      · cases h

theorem perm_sortedItems (balances : Balances) :
    balances.sortedItems.Perm (balances.entries.map fun entry => (entry.1, entry.2)) :=
  List.perm_insertionSort _ _

/-- The final state lists exactly the items of the dictionary. -/
theorem finalState_items {accountId : String} {balances : Balances}
    {final : SimulatedAccountState} (h : finalState accountId balances = .ok final)
    (key : BalanceKey) (available : Decimal) :
    (key, available) ∈ final.balances.map (fun b => (b.key, b.available.val)) ↔
      balances.lookup key = some available := by
  unfold finalState at h
  obtain ⟨built, hbuilt, h⟩ := (bind_eq_ok_iff _ _ _).mp h
  split at h
  · cases h
    rw [buildBalances_ok hbuilt, (perm_sortedItems balances).mem_iff]
    constructor
    · intro hmem
      obtain ⟨entry, hentry, heq⟩ := List.mem_map.mp hmem
      cases heq
      exact AList.mem_lookup_iff.mpr hentry
    · intro hlookup
      exact List.mem_map.mpr ⟨⟨key, available⟩, AList.mem_lookup_iff.mp hlookup, rfl⟩
  · cases h

theorem finalState_accountId {accountId : String} {balances : Balances}
    {final : SimulatedAccountState} (h : finalState accountId balances = .ok final) :
    final.accountId = accountId := by
  unfold finalState at h
  obtain ⟨built, -, h⟩ := (bind_eq_ok_iff _ _ _).mp h
  split at h
  · cases h; rfl
  · cases h

theorem mem_keysOf_finalState {accountId : String} {balances : Balances}
    {final : SimulatedAccountState} (h : finalState accountId balances = .ok final)
    (key : BalanceKey) : key ∈ keysOf final ↔ key ∈ balances := by
  rw [← AList.lookup_isSome, Option.isSome_iff_exists]
  constructor
  · intro hkey
    obtain ⟨b, hb, rfl⟩ := List.mem_map.mp hkey
    exact ⟨b.available.val,
      (finalState_items h b.key b.available.val).mp (List.mem_map.mpr ⟨b, hb, rfl⟩)⟩
  · rintro ⟨available, hlookup⟩
    obtain ⟨b, hb, heq⟩ := List.mem_map.mp ((finalState_items h key available).mpr hlookup)
    exact List.mem_map.mpr ⟨b, hb, congrArg Prod.fst heq⟩

/-- The final account state holds what the dictionary holds. -/
theorem availableIn_finalState {accountId : String} {balances : Balances}
    {final : SimulatedAccountState} (h : finalState accountId balances = .ok final)
    (key : BalanceKey) : availableIn final key = balances.available key := by
  unfold availableIn Balances.available
  cases hfind : final.balances.find? fun balance => balance.key == key with
  | some b =>
      have hkey : b.key = key := by simpa using List.find?_some hfind
      have hlookup := (finalState_items h key b.available.val).mp
        (List.mem_map.mpr ⟨b, List.mem_of_find?_eq_some hfind, by rw [hkey]⟩)
      rw [hlookup]
      rfl
  | none =>
      have habsent : balances.lookup key = none := by
        cases hlookup : balances.lookup key with
        | none => rfl
        | some available =>
            obtain ⟨b, hb, heq⟩ := List.mem_map.mp ((finalState_items h key available).mpr hlookup)
            have hne := List.find?_eq_none.mp hfind b hb
            exact absurd (beq_iff_eq.mpr (congrArg Prod.fst heq)) hne
      rw [habsent]
      rfl

/-! ## Non-negative balances -/

section NonNegative

variable [Sha256]

/-- One order keeps every balance non-negative. -/
theorem replayOne_nonneg {bars : List OHLCTVBar} {costModel : Option ExecutionCostModel}
    {c : VenueContext} {b b' : Balances} {intent : OrderIntent} {r : ReplayOrderResult}
    (hb : ∀ key, 0 ≤ b.available key)
    (h : replayOne bars costModel (some c) b intent = .ok (r, b')) (key : BalanceKey) :
    0 ≤ b'.available key := by
  rcases replayOne_cases h with ⟨-, -, rfl, -⟩ | ⟨draft, instrument, ha, -, -, hcov, hbook, -⟩
  · exact hb key
  · have hsigns := transferOn_signs (fillAttempt_facts ha) instrument
    have hpost : 0 ≤ b.book.post (transferOn instrument draft) key :=
      post_nonneg hb hsigns.2 hcov key
    rw [← hbook] at hpost
    exact hpost

theorem replayOrders_nonneg {bars : List OHLCTVBar} {costModel : Option ExecutionCostModel}
    {c : VenueContext} {b : Balances} {intents : List OrderIntent}
    {out : List ReplayOrderResult × Balances} (hb : ∀ key, 0 ≤ b.available key)
    (h : replayOrders bars costModel (some c) b intents = .ok out) (key : BalanceKey) :
    0 ≤ out.2.available key := by
  have hstep : ∀ b intent r b', (∀ key, 0 ≤ Balances.available b key) →
      replayOne bars costModel (some c) b intent = .ok (r, b') →
      ∀ key, 0 ≤ Balances.available b' key := fun _ _ _ _ hone => replayOne_nonneg hone
  exact runSteps_invariant hstep hb h key

end NonNegative

end TaModel.Simulation
