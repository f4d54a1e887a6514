import TaModel.Risk.GatedReplay
import TaModel.Risk.KillSwitchReads

/-!
# The kill switch and the scopes of an order

A risk request carries a kill-switch snapshot that was loaded for scopes the caller chose. The
engine reads the active state of the snapshot and never asks whether those scopes are the scopes of
the order. An approved buy is therefore clear of every stop among the scopes that were evaluated,
and of the other scopes of the order exactly when none of them is stopped in the log.
-/

set_option autoImplicit false

namespace TaModel.Risk

open Contracts

/-- The keys of the scopes an order belongs to. -/
def orderScopeKeys (r : RiskCheckRequest) : List ScopeKey :=
  [ globalKey, (.account, some r.accountId), (.venue, some r.orderIntent.venueId),
    (.instrument, some r.orderIntent.instrumentId), (.strategy, some r.strategyVersion) ]

/-- The states that keep a buy from the market in their scope. -/
def stopsBuys (state : KillSwitchState) : Bool :=
  state = .pauseNewOrders || state = .reduceOnly || state = .cancelOnly || state = .halted

/-- The latest state of a scope stops buys. -/
def StoppedIn (records : List KillSwitchRecord) (key : ScopeKey) : Prop :=
  ∃ state, latestState records key = some state ∧ stopsBuys state = true

/-! ## Loaded snapshots -/

section Loaded

variable [Sha256]

theorem snapshotOf_valid {evaluatedAt : AwareDatetime} {evaluatedScopes : List KillSwitchScope}
    {read : Option (List KillSwitchRecord)} {snapshot : KillSwitchSnapshot}
    (h : snapshotOf evaluatedAt evaluatedScopes read = .ok snapshot) :
    snapshot.validate = .ok () := by
  cases read with
  | none => exact Library.Stamping.validate_of_construct _ h
  | some records =>
      cases records with
      | nil => exact Library.Stamping.validate_of_construct _ h
      | cons first rest =>
          simp only [snapshotOf] at h
          split at h
          · exact Library.Stamping.validate_of_construct _ h
          · exact Library.Stamping.validate_of_construct _ h

variable [LaxParsing]

/-- The active state of a snapshot loaded from a log. -/
theorem activeState_of_load {store : FileContent} {records : List KillSwitchRecord}
    {evaluatedAt : AwareDatetime} {evaluatedScopes : List KillSwitchScope}
    {snapshot : KillSwitchSnapshot} (hread : readRecords store = .ok (some records))
    (hload : loadSnapshot store evaluatedAt evaluatedScopes = .ok snapshot) :
    snapshot.activeState = reportedState (latestState records) evaluatedScopes := by
  obtain ⟨found, hfound, hstate⟩ := reportsState_of_records hread evaluatedScopes evaluatedAt
  rw [hload] at hfound
  cases hfound
  exact hstate

end Loaded

/-! ## Approved buys -/

section Approved

variable [Sha256] {r : RiskCheckRequest} {p : RiskPolicy} {event : RiskCheckEvent}

/-- A buy is approved under a clear kill switch only. -/
theorem clear_of_approved_buy (hevent : evaluatePreTradeRisk r p = .ok event)
    (hbuy : r.orderIntent.side = .buy) (happroved : event.finalDecision.isApproval = true) :
    r.killSwitchSnapshot.activeState = .clear := by
  have hintent : event.approvedOrderIntent.isSome = true := by
    have hmatches : event.finalDecision.isApproval = event.approvedOrderIntent.isSome :=
      intentMatchesDecision_of_engine hevent
    rw [← hmatches]
    exact happroved
  have hfacts := evaluatePreTradeRisk_facts r p hevent
  cases hstate : r.killSwitchSnapshot.activeState with
  | clear => rfl
  | _ =>
      -- every other state must block a buy
      have hblock : mustBlock event = true := by
        simp [mustBlock, hfacts.request_eq, hstate, hbuy]
      rw [approvedOrderIntent_of_mustBlock hevent hblock] at hintent
      cases hintent

omit [Sha256] in
/-- Under a clear snapshot no evaluated scope is stopped. -/
theorem not_stopped_of_clear {records : List KillSwitchRecord}
    {evaluatedScopes : List KillSwitchScope}
    (hclear : reportedState (latestState records) evaluatedScopes = .clear) {key : ScopeKey}
    (hkey : key ∈ scopeKeys evaluatedScopes) : ¬ StoppedIn records key := by
  rintro ⟨state, hstate, hstops⟩
  obtain ⟨record, hmem, rfl⟩ := mem_of_latestState hstate
  have happlicable : HasApplicable records evaluatedScopes := ⟨record, hmem, hkey⟩
  have hsevere := isMostSevere_reportedState happlicable
  have hle := hsevere.severest _ hkey state hstate
  rw [hclear] at hle
  cases state with
  | unknownFailClosed => cases hstops
  | clear => cases hstops
  | softLimited => cases hstops
  | pauseNewOrders => exact absurd hle (by decide)
  | reduceOnly => exact absurd hle (by decide)
  | cancelOnly => exact absurd hle (by decide)
  | halted => exact absurd hle (by decide)

variable [LaxParsing]

/-- The scopes of an approved buy are free of stops exactly when those that were not evaluated
are. -/
theorem approved_buy_unstopped_iff {store : FileContent} {records : List KillSwitchRecord}
    {evaluatedAt : AwareDatetime} {evaluatedScopes : List KillSwitchScope}
    (hread : readRecords store = .ok (some records))
    (hload : loadSnapshot store evaluatedAt evaluatedScopes = .ok r.killSwitchSnapshot)
    (hevent : evaluatePreTradeRisk r p = .ok event) (hbuy : r.orderIntent.side = .buy)
    (happroved : event.finalDecision.isApproval = true) :
    (∀ key ∈ orderScopeKeys r, ¬ StoppedIn records key) ↔
      ∀ key ∈ orderScopeKeys r, key ∉ scopeKeys evaluatedScopes → ¬ StoppedIn records key := by
  have hclear := clear_of_approved_buy hevent hbuy happroved
  rw [activeState_of_load hread hload] at hclear
  constructor
  · intro hall key hkey _
    exact hall key hkey
  · intro hrest key hkey
    by_cases hevaluated : key ∈ scopeKeys evaluatedScopes
    · exact not_stopped_of_clear hclear hevaluated
    · exact hrest key hkey hevaluated

omit [LaxParsing] in
/-- The engine reads nothing but the active state of the snapshot. -/
theorem riskDecision_killSwitchSnapshot {snapshot : KillSwitchSnapshot}
    (h : snapshot.activeState = r.killSwitchSnapshot.activeState) :
    riskDecision (RiskCheckRequest.stamping.sealed { r with killSwitchSnapshot := snapshot }) p =
      riskDecision r p := by
  have hkill : ∀ effect, killSwitchEvaluation
      (RiskCheckRequest.stamping.sealed { r with killSwitchSnapshot := snapshot }) effect =
      killSwitchEvaluation r effect := by
    intro effect
    show killSwitchEvaluation { r with killSwitchSnapshot := snapshot } effect = _
    simp only [killSwitchEvaluation, h]
  have hrequired : ∀ metadata, requiredStateEvaluation
      (RiskCheckRequest.stamping.sealed { r with killSwitchSnapshot := snapshot }) metadata =
      requiredStateEvaluation r metadata := by
    intro metadata
    show requiredStateEvaluation { r with killSwitchSnapshot := snapshot } metadata = _
    simp only [requiredStateEvaluation, h]
  have hevaluations : limitEvaluations
      (RiskCheckRequest.stamping.sealed { r with killSwitchSnapshot := snapshot }) p =
      limitEvaluations r p := by
    simp only [limitEvaluations, hkill, hrequired]
    rfl
  have hcapped : ∀ evaluations, approvalAfterSoftCaps
      (RiskCheckRequest.stamping.sealed { r with killSwitchSnapshot := snapshot })
      (buildOrderEffect r) evaluations = approvalAfterSoftCaps r (buildOrderEffect r) evaluations := by
    intro evaluations
    apply approvalAfterSoftCaps_congr
    all_goals rfl
  simp only [riskDecision, hevaluations, ← hcapped]
  rfl

end Approved

/-! ## A halted account -/

section HaltedAccount

open Simulation

variable [Sha256]

/-- A buy of `BTC-USD` for 100 USD under the given snapshot. -/
def boundRequest (snapshot : KillSwitchSnapshot) : RiskCheckRequest :=
  RiskCheckRequest.stamping.sealed
    { marketBuyRequest with killSwitchSnapshot := snapshot }

/-- The halt of the account of the request. -/
def accountHaltRecord : KillSwitchRecord :=
  KillSwitchRecord.withBuiltId
    { recordId := "", scope := ⟨.account, some "ACCOUNT", by decide, by decide⟩,
      priorState := .unknownFailClosed, newState := .halted, actor := "OPS", actorRole := "RISK",
      transitionedAt := minute 0, reason := "START", cancelOpenOrders := false }

/-- The log with a clear of everything, and the log with the halt of the account after it. -/
def clearLog : List KillSwitchRecord := [globalKillRecord .clear]

def haltedAccountLog : List KillSwitchRecord := clearLog ++ [accountHaltRecord]

theorem haltedAccountLog_valid : ∀ record ∈ haltedAccountLog, record.validate = .ok () := by
  have hstrings : isNonEmptyString "OPS" = true ∧ isNonEmptyString "RISK" = true ∧
      isNonEmptyString "START" = true := by decide
  have hrequirements : ∀ id ∈ ["FR-011", "NFR-004"], isNonEmptyString id = true := by
    decide
  have hlinked : ∀ id ∈ (none : Option String), isCanonicalId id = true := by
    intro id hid
    cases hid
  intro record hmem
  rw [KillSwitchRecord.validate_eq_ok_iff]
  rcases List.mem_cons.mp hmem with rfl | hmem
  · exact ⟨⟨hstrings.1, hstrings.2.1, hstrings.2.2, hlinked, hrequirements⟩, rfl⟩
  · rw [List.mem_singleton.mp hmem]
    exact ⟨⟨hstrings.1, hstrings.2.1, hstrings.2.2, hlinked, hrequirements⟩, rfl⟩

theorem latestState_clearLog : latestState clearLog globalKey = some .clear :=
  latestState_append_of_fresh
    (show latestState [] (globalKillRecord .clear).scope.key = none from rfl)

theorem latestState_haltedAccountLog :
    latestState haltedAccountLog globalKey = some .clear ∧
      latestState haltedAccountLog (.account, some "ACCOUNT") = some .halted := by
  have haccount : accountHaltRecord.scope.key ≠ globalKey := by
    intro h
    cases h
  constructor
  · rw [haltedAccountLog, latestState_append_of_ne haccount]
    exact latestState_clearLog
  · apply latestState_append_of_fresh
    have hfresh : latestState ([] ++ [globalKillRecord .clear]) accountHaltRecord.scope.key =
        latestState [] accountHaltRecord.scope.key := latestState_append_of_ne haccount.symm
    exact hfresh

/-- A log whose global state is clear gets the buy approved when no other scope is evaluated. -/
theorem boundRequest_approved [LaxParsing] {records : List KillSwitchRecord}
    (hrecords : ∀ record ∈ records, record.validate = .ok ())
    (hclear : latestState records globalKey = some .clear)
    (hdecision : riskDecision marketBuyRequest marketPolicy = (.approved, some marketBuy)) :
    ∃ snapshot event, loadSnapshot (.json (logPayload records)) (minute 0) [] = .ok snapshot ∧
      evaluatePreTradeRisk (boundRequest snapshot) marketPolicy = .ok event ∧
      event.finalDecision = .approved := by
  have hreported : reportedState (latestState records) [] = .clear := by
    simp only [reportedState, scopeKeys, List.map_nil, List.filterMap_cons, hclear]
    rfl
  obtain ⟨snapshot, hload, hstate⟩ :=
    reportsState_of_records (readRecords_logPayload hrecords) [] (minute 0)
  have hsnapshot : snapshot.validate = .ok () := by
    simp only [loadSnapshot, readRecords_logPayload hrecords, ok_bind] at hload
    exact snapshotOf_valid hload
  rw [hreported] at hstate
  have hbound : riskDecision (boundRequest snapshot) marketPolicy =
      (.approved, some marketBuy) := by
    rw [← hdecision]
    exact riskDecision_killSwitchSnapshot hstate
  obtain ⟨hfields, -, -⟩ := (RiskCheckRequest.stamping.validate_eq_ok_iff _).mp
    marketBuyRequest_valid
  obtain ⟨hids, hstrings, hreferences, -, hrest⟩ :=
    (RiskCheckRequest.validateFields_eq_ok_iff _).mp hfields
  have hvalid : (boundRequest snapshot).validate = .ok () :=
    (RiskCheckRequest.stamping.validate_sealed _).mpr
      ((RiskCheckRequest.validateFields_eq_ok_iff _).mpr
        ⟨hids, hstrings, hreferences, hsnapshot, hrest⟩)
  obtain ⟨event, hevent⟩ := evaluatePreTradeRisk_total _ marketPolicy hvalid
  have hfacts := evaluatePreTradeRisk_facts _ _ hevent
  refine ⟨snapshot, event, hload, hevent, ?_⟩
  have hpair := hfacts.decision_eq
  rw [hbound] at hpair
  exact (Prod.mk.inj hpair).1

end HaltedAccount

/-- On the log with the clear alone the approved buy is free of stops. -/
theorem approved_buy_unstopped_on_clear_log :
    ∃ snapshot, @loadSnapshot hashlibSha256 strictParsing (.json (logPayload (@clearLog hashlibSha256)))
        (Simulation.minute 0) [] = .ok snapshot ∧
      ∀ key ∈ orderScopeKeys (@boundRequest hashlibSha256 snapshot),
        ¬ StoppedIn (@clearLog hashlibSha256) key := by
  have hvalid : ∀ record ∈ @clearLog hashlibSha256,
      @KillSwitchRecord.validate hashlibSha256 record = .ok () := by
    intro record hmem
    exact @haltedAccountLog_valid hashlibSha256 record (List.mem_append_left _ hmem)
  obtain ⟨snapshot, event, hload, hevent, happroved⟩ :=
    @boundRequest_approved hashlibSha256 strictParsing _ hvalid (@latestState_clearLog hashlibSha256)
      marketBuyRequest_decision
  refine ⟨snapshot, hload, (@approved_buy_unstopped_iff hashlibSha256
    (@boundRequest hashlibSha256 snapshot) _ _ strictParsing _ _ _ _
    (@readRecords_logPayload strictParsing hashlibSha256 _ hvalid) hload hevent rfl (by rw [happroved]; rfl)).mpr
    ?_⟩
  -- the only record of the log is global, and the global scope is always evaluated
  rintro key - hkey ⟨state, hstate, -⟩
  obtain ⟨record, hmem, rfl⟩ := mem_of_latestState hstate
  rw [List.mem_singleton.mp hmem] at hkey
  exact hkey (List.mem_singleton.mpr rfl)

/-- A buy is approved for a halted account when the snapshot was loaded without its scope. -/
theorem approved_buy_on_halted_account :
    ∃ snapshot event, @loadSnapshot hashlibSha256 strictParsing
        (.json (logPayload (@haltedAccountLog hashlibSha256))) (Simulation.minute 0) [] =
        .ok snapshot ∧
      @evaluatePreTradeRisk hashlibSha256 (@boundRequest hashlibSha256 snapshot) marketPolicy =
        .ok event ∧
      event.finalDecision.isApproval = true ∧
      ∃ key ∈ orderScopeKeys (@boundRequest hashlibSha256 snapshot),
        StoppedIn (@haltedAccountLog hashlibSha256) key := by
  obtain ⟨hglobal, haccount⟩ := @latestState_haltedAccountLog hashlibSha256
  obtain ⟨snapshot, event, hload, hevent, happroved⟩ :=
    @boundRequest_approved hashlibSha256 strictParsing _ (@haltedAccountLog_valid hashlibSha256) hglobal
      marketBuyRequest_decision
  refine ⟨snapshot, event, hload, hevent, by rw [happroved]; rfl, (.account, some "ACCOUNT"),
    ?_, .halted, haccount, rfl⟩
  exact List.mem_cons_of_mem _ List.mem_cons_self

end TaModel.Risk
