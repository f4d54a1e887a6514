import TaModel.Audit.Replay

/-!
# How a replay can end

A replay that returns ends in one of three ways (`replayEvidence_cases`): failed with blockers, with
a record of a decision without an order (`NoOrderRecord`), or with a record whose order the gateway
reproduces (`PassingRecord`). The two records are also enough for their ends.
-/

set_option autoImplicit false

namespace TaModel.Audit

open Contracts Execution

variable {requestedTraceId : String} {evidence : DecisionTraceReplayEvidence}

/-! ## The checks on a record -/

/-- The trace ids of a record are the requested one. -/
structure TraceIdsMatch (requestedTraceId : String) (evidence : DecisionTraceReplayEvidence) :
    Prop where
  evidence_id : evidence.traceId = requestedTraceId
  envelope_id : evidence.envelope.traceId = requestedTraceId
  decision_id : evidence.decision.traceId = requestedTraceId

theorem requestedTraceBlockers_eq_nil_iff :
    requestedTraceBlockers requestedTraceId evidence = .ok [] ↔
      TraceIdsMatch requestedTraceId evidence := by
  simp only [requestedTraceBlockers, traceBlockersOf, mapM_eq_ok_iff, List.forall₂_nil_right_iff,
    List.filter_eq_nil_iff, List.forall_mem_cons, decide_eq_true_eq, not_not]
  constructor
  · rintro ⟨hevidence, henvelope, hdecision, -⟩
    exact ⟨hevidence, henvelope, hdecision⟩
  · rintro ⟨hevidence, henvelope, hdecision⟩
    exact ⟨hevidence, henvelope, hdecision, nofun⟩

theorem order_eq_some_iff {order : OrderArtifacts} :
    evidence.order = some order ↔ evidence.orderIntent = some order.orderIntent ∧
      evidence.riskEvent = some order.riskEvent ∧
      evidence.gatewayReport = some order.gatewayReport ∧
      evidence.paperAccountReport = some order.paperAccountReport ∧
      evidence.paperTcaReport = some order.paperTcaReport := by
  simp only [DecisionTraceReplayEvidence.order]
  constructor
  · intro h
    split at h
    · next horder hrisk hgateway hpaper htca =>
        cases h
        exact ⟨horder, hrisk, hgateway, hpaper, htca⟩
    · cases h
  · rintro ⟨horder, hrisk, hgateway, hpaper, htca⟩
    rw [horder, hrisk, hgateway, hpaper, htca]

/-- Nothing is missing when the five artifacts and some bars are stored. -/
theorem missingOrderInputs_eq_nil_iff :
    missingOrderInputs evidence = [] ↔
      (∃ order, evidence.order = some order) ∧ evidence.bars ≠ [] := by
  have hlist : ∀ (b : Bool) (name : String), (if b = true then [name] else []) = [] ↔
      b = false := by
    intro b name
    cases b with
    | true => exact ⟨nofun, nofun⟩
    | false => exact ⟨fun _ => rfl, fun _ => rfl⟩
  simp only [missingOrderInputs, List.append_eq_nil_iff, hlist, Option.isNone_eq_false_iff,
    Option.isSome_iff_exists, List.isEmpty_eq_false_iff]
  constructor
  · rintro ⟨⟨⟨⟨⟨⟨orderIntent, horder⟩, riskEvent, hrisk⟩, gateway, hgateway⟩, paper, hpaper⟩, tca,
      htca⟩, hbars⟩
    exact ⟨⟨⟨orderIntent, riskEvent, gateway, paper, tca⟩,
      order_eq_some_iff.mpr ⟨horder, hrisk, hgateway, hpaper, htca⟩⟩, hbars⟩
  · rintro ⟨⟨order, horder⟩, hbars⟩
    obtain ⟨horder, hrisk, hgateway, hpaper, htca⟩ := order_eq_some_iff.mp horder
    exact ⟨⟨⟨⟨⟨⟨_, horder⟩, _, hrisk⟩, _, hgateway⟩, _, hpaper⟩, _, htca⟩, hbars⟩

theorem missingOrderInputBlockers_eq_nil_iff :
    missingOrderInputBlockers evidence = .ok [] ↔
      (evidence.orderIntent = none ∧ evidence.envelope.orderIntentId = none) ∨
      ((∃ order, evidence.order = some order) ∧ evidence.bars ≠ []) := by
  rw [← missingOrderInputs_eq_nil_iff]
  simp only [missingOrderInputBlockers]
  split_ifs with hnone hmissing
  · exact ⟨fun _ => .inl hnone, fun _ => rfl⟩
  · exact ⟨fun _ => .inr hmissing, fun _ => rfl⟩
  · constructor
    · intro h
      obtain ⟨blocker, -, hnil⟩ := (bind_eq_ok_iff _ _ _).mp h
      cases hnil
    · rintro (h | h)
      · exact absurd h hnone
      · exact absurd h hmissing

/-- The inputs that can be missing. -/
def orderInputNames : List String :=
  ["order_intent", "risk_event", "gateway_report", "paper_account_report", "paper_tca_report",
    "bars"]

theorem mem_missingOrderInputs {name : String} (h : name ∈ missingOrderInputs evidence) :
    name ∈ orderInputNames := by
  have hlist : ∀ {b : Bool} {input : String}, name ∈ (if b = true then [input] else []) →
      name = input := by
    intro b input hmem
    split_ifs at hmem
    · exact List.mem_singleton.mp hmem
    · cases hmem
  simp only [missingOrderInputs, List.mem_append] at h
  rcases h with ((((h | h) | h) | h) | h) | h <;> rw [hlist h] <;> decide

/-- The names of the inputs are texts that a blocker can show. -/
theorem shown_orderInputNames : ∀ name ∈ orderInputNames, Shown name := by decide

/-- The check of the inputs ends in no blocker or in the one that names them. -/
theorem missingOrderInputBlockers_succeeds :
    ∃ blockers, missingOrderInputBlockers evidence = .ok blockers ∧
      (blockers = [] ∨ ∃ blocker, blockers = [blocker] ∧ blocker.code = .missingReplayInput) := by
  simp only [missingOrderInputBlockers]
  split_ifs with hnone hmissing
  · exact ⟨[], rfl, .inl rfl⟩
  · exact ⟨[], rfl, .inl rfl⟩
  · have hmake : ∃ blocker, DecisionTraceReplayBlocker.make .missingReplayInput
        "order trace evidence is missing required replay inputs"
        (some ("order_intent,risk_event,gateway_report,paper_account_report," ++
          "paper_tca_report,bars"))
        (some (",".intercalate (missingOrderInputs evidence))) = .ok blocker := by
      apply DecisionTraceReplayBlocker.make_succeeds_iff.mpr
      refine ⟨by decide, ?_, ?_⟩
      · rintro _ ⟨⟩
        decide
      · rintro _ ⟨⟩
        apply shown_intercalate hmissing
        intro name hname
        exact shown_orderInputNames name (mem_missingOrderInputs hname)
    obtain ⟨blocker, hblocker⟩ := hmake
    refine ⟨[blocker], ?_, .inr ⟨blocker, rfl, ?_⟩⟩
    · rw [hblocker]
      rfl
    · exact DecisionTraceReplayBlocker.code_of_make hblocker

section Harness

variable [Sha256]

/-- Every artifact of a record passes its own validators. -/
structure ArtifactsValid (evidence : DecisionTraceReplayEvidence) : Prop where
  forecast : evidence.forecast.validate = .ok ()
  decision : evidence.decision.validate = .ok ()
  riskEvent : ∀ riskEvent ∈ evidence.riskEvent,
    riskEvent.validate = .ok () ∧ riskEvent.request.validate = .ok ()
  gatewayReport : ∀ report ∈ evidence.gatewayReport, report.validate = .ok ()
  paperAccountReport : ∀ report ∈ evidence.paperAccountReport, report.validate = .ok ()
  paperTcaReport : ∀ report ∈ evidence.paperTcaReport, report.validate = .ok ()
  snapshot : ∀ snapshot ∈ evidence.instrumentMasterSnapshot,
    snapshot.validateReferences = .ok ()

theorem forall_evidenceArtifacts_iff :
    (∀ artifact ∈ evidenceArtifacts evidence, artifact.2 = .ok ()) ↔ ArtifactsValid evidence := by
  simp only [evidenceArtifacts, List.forall_mem_append, List.forall_mem_cons, List.mem_flatMap,
    List.mem_map, Option.mem_toList]
  constructor
  · rintro ⟨⟨⟨⟨⟨⟨hforecast, hdecision, -⟩, hrisk⟩, hgateway⟩, hpaper⟩, htca⟩, hsnapshot⟩
    refine ⟨hforecast, hdecision, ?_, fun r hr => hgateway _ ⟨r, hr, rfl⟩,
      fun r hr => hpaper _ ⟨r, hr, rfl⟩, fun r hr => htca _ ⟨r, hr, rfl⟩,
      fun s hs => hsnapshot _ ⟨s, hs, rfl⟩⟩
    intro riskEvent hmem
    exact ⟨hrisk _ ⟨riskEvent, hmem, List.mem_cons_self⟩,
      hrisk _ ⟨riskEvent, hmem, List.mem_cons_of_mem _ List.mem_cons_self⟩⟩
  · intro h
    refine ⟨⟨⟨⟨⟨⟨h.forecast, h.decision, nofun⟩, ?_⟩, ?_⟩, ?_⟩, ?_⟩, ?_⟩
    · rintro artifact ⟨riskEvent, hmem, hartifact⟩
      obtain ⟨hevent, hrequest⟩ := h.riskEvent riskEvent hmem
      rcases List.mem_cons.mp hartifact with rfl | hartifact
      · exact hevent
      · rw [List.mem_singleton.mp hartifact]
        exact hrequest
    · rintro artifact ⟨report, hmem, rfl⟩
      exact h.gatewayReport report hmem
    · rintro artifact ⟨report, hmem, rfl⟩
      exact h.paperAccountReport report hmem
    · rintro artifact ⟨report, hmem, rfl⟩
      exact h.paperTcaReport report hmem
    · rintro artifact ⟨snapshot, hmem, rfl⟩
      exact h.snapshot snapshot hmem

theorem validateReplayEvidenceArtifacts_eq_nil_iff :
    validateReplayEvidenceArtifacts evidence = .ok [] ↔ ArtifactsValid evidence := by
  rw [← forall_evidenceArtifacts_iff]
  simp only [validateReplayEvidenceArtifacts, bind_eq_ok_iff, mapM_eq_ok_iff, Except.ok.injEq]
  constructor
  · rintro ⟨found, hfound, hnil⟩ artifact hartifact
    obtain ⟨blocker, hblocker, hvalidate⟩ := Library.exists_of_mem_right hfound.flip hartifact
    cases hvalid : artifact.2 with
    | ok u => rfl
    | error text =>
        -- a failed artifact leaves a blocker behind
        rw [hvalid] at hvalidate
        obtain ⟨b, -, rfl⟩ := (map_eq_ok_iff _ _ _).mp hvalidate
        have hmem : b ∈ found.filterMap id := List.mem_filterMap.mpr ⟨some b, hblocker, rfl⟩
        rw [hnil] at hmem
        cases hmem
  · intro hvalid
    refine ⟨(evidenceArtifacts evidence).map fun _ => none, ?_, ?_⟩
    · apply List.forall₂_map_right_iff.mpr
      apply List.forall₂_same.mpr
      intro artifact hartifact
      rw [hvalid artifact hartifact]
      rfl
    · rw [List.filterMap_map]
      exact List.filterMap_eq_nil_iff.mpr fun _ _ => rfl

/-! ## The replay of an order -/

/-- What the replay of an order builds. -/
structure ReplayedOrder where
  gatewayReport : ExecutionGatewayReport
  paperAccountReport : PaperAccountSessionReport
  paperTcaReport : PaperTcaReport
  envelope : DecisionTraceEnvelope

/-- The stored order with the replayed reports in place of the stored ones. -/
def ReplayedOrder.artifacts (replayed : ReplayedOrder) (order : OrderArtifacts) : OrderArtifacts :=
  ⟨order.orderIntent, order.riskEvent, replayed.gatewayReport, replayed.paperAccountReport,
    replayed.paperTcaReport⟩

/-- The builders turn the stored risk event, bars, cost model, snapshot, starting state and quotes
into these reports and this envelope. -/
structure Rebuilds (evidence : DecisionTraceReplayEvidence) (order : OrderArtifacts)
    (replayed : ReplayedOrder) : Prop where
  gateway : runPaperGatewayReplay (evidence.gatewayInputs order.gatewayReport.runId)
    [order.riskEvent] = .ok replayed.gatewayReport
  paper : rebuildPaperAccountReport order.paperAccountReport replayed.gatewayReport =
    .ok replayed.paperAccountReport
  tca : makePaperTcaReport replayed.gatewayReport evidence.quotes = .ok replayed.paperTcaReport
  envelope : makeDecisionTraceEnvelope
    ((replayed.artifacts order).toTrace evidence.forecast evidence.decision) =
      .ok replayed.envelope

/-- The rebuilt reports and envelope compare equal with the stored ones. -/
structure Reproduces (evidence : DecisionTraceReplayEvidence) (order : OrderArtifacts)
    (replayed : ReplayedOrder) : Prop extends Rebuilds evidence order replayed where
  gateway_same : compareGatewayReports order.gatewayReport replayed.gatewayReport = .ok []
  paper_same : comparePaperReports order.paperAccountReport replayed.paperAccountReport = .ok []
  tca_same : compareTcaReports order.paperTcaReport replayed.paperTcaReport = .ok []
  envelope_same : SameEnvelope evidence.envelope replayed.envelope

/-- The end of a replay that reproduces an order. -/
def passedOutcome (evidence : DecisionTraceReplayEvidence) (replayed : ReplayedOrder) :
    ReplayOutcome where
  status := .passed
  storedEnvelope := some evidence.envelope
  reconstructedEnvelope := some replayed.envelope
  replayedGatewayReport := some replayed.gatewayReport
  replayedPaperReport := some replayed.paperAccountReport
  replayedTcaReport := some replayed.paperTcaReport

/-- A failed replay with blockers. -/
def FailedWithBlockers (outcome : ReplayOutcome) : Prop :=
  outcome.status = .failed ∧ outcome.blockers ≠ []

omit [Sha256] in
theorem compareReplayed_eq_nil_iff {order : OrderArtifacts} {replayed : ReplayedOrder} :
    compareReplayed evidence order replayed.gatewayReport replayed.paperAccountReport
      replayed.paperTcaReport replayed.envelope = .ok [] ↔
      compareGatewayReports order.gatewayReport replayed.gatewayReport = .ok [] ∧
      comparePaperReports order.paperAccountReport replayed.paperAccountReport = .ok [] ∧
      compareTcaReports order.paperTcaReport replayed.paperTcaReport = .ok [] ∧
      SameEnvelope evidence.envelope replayed.envelope := by
  rw [← @compareEnvelope_eq_nil_iff _ _ .tamperedEvidence]
  simp only [compareReplayed, bind_eq_ok_iff, Except.ok.injEq, List.append_eq_nil_iff]
  constructor
  · rintro ⟨_, hgateway, _, hpaper, _, htca, _, henvelope, ⟨⟨rfl, rfl⟩, rfl⟩, rfl⟩
    exact ⟨hgateway, hpaper, htca, henvelope⟩
  · rintro ⟨hgateway, hpaper, htca, henvelope⟩
    exact ⟨[], hgateway, [], hpaper, [], htca, [], henvelope, ⟨⟨rfl, rfl⟩, rfl⟩, rfl⟩

theorem rebuildTcaAndEnvelope_eq_ok_iff {order : OrderArtifacts} {replayed : ReplayedOrder} :
    rebuildTcaAndEnvelope evidence order replayed.gatewayReport replayed.paperAccountReport =
      .ok (replayed.paperTcaReport, replayed.envelope) ↔
      makePaperTcaReport replayed.gatewayReport evidence.quotes = .ok replayed.paperTcaReport ∧
      makeDecisionTraceEnvelope
        ((replayed.artifacts order).toTrace evidence.forecast evidence.decision) =
          .ok replayed.envelope := by
  simp only [rebuildTcaAndEnvelope, bind_eq_ok_iff, Except.ok.injEq, Prod.mk.injEq]
  constructor
  · rintro ⟨_, htca, _, henvelope, rfl, rfl⟩
    exact ⟨htca, henvelope⟩
  · rintro ⟨htca, henvelope⟩
    exact ⟨_, htca, _, henvelope, rfl, rfl⟩

/-- The replay of an order fails with blockers, or it reproduces the order. -/
theorem replayOrder_cases {order : OrderArtifacts} {rebuilt : DecisionTraceEnvelope}
    {outcome : ReplayOutcome} (h : replayOrder evidence order rebuilt = .ok outcome) :
    FailedWithBlockers outcome ∨
      ∃ replayed, Reproduces evidence order replayed ∧
        outcome = passedOutcome evidence replayed := by
  simp only [replayOrder] at h
  split at h
  · obtain ⟨blocker, -, hout⟩ := (bind_eq_ok_iff _ _ _).mp h
    cases hout
    exact .inl ⟨rfl, nofun⟩
  · next gatewayReport hgateway =>
      split at h
      · obtain ⟨blocker, -, hout⟩ := (bind_eq_ok_iff _ _ _).mp h
        cases hout
        exact .inl ⟨rfl, nofun⟩
      · next paperReport hpaper =>
          split at h
          · obtain ⟨blocker, -, hout⟩ := (bind_eq_ok_iff _ _ _).mp h
            cases hout
            exact .inl ⟨rfl, nofun⟩
          · next tcaReport envelope hrebuild =>
              obtain ⟨blockers, hblockers, hout⟩ := (bind_eq_ok_iff _ _ _).mp h
              cases hout
              let replayed : ReplayedOrder := ⟨gatewayReport, paperReport, tcaReport, envelope⟩
              by_cases hnil : blockers = []
              · subst hnil
                obtain ⟨htca, henvelope⟩ :=
                  (@rebuildTcaAndEnvelope_eq_ok_iff _ _ _ replayed).mp hrebuild
                obtain ⟨hg, hp, ht, he⟩ :=
                  (@compareReplayed_eq_nil_iff _ _ replayed).mp hblockers
                exact .inr ⟨replayed, ⟨⟨hgateway, hpaper, htca, henvelope⟩, hg, hp, ht, he⟩, rfl⟩
              · exact .inl ⟨if_neg hnil, hnil⟩

theorem replayOrder_of_reproduces {order : OrderArtifacts} {replayed : ReplayedOrder}
    (rebuilt : DecisionTraceEnvelope) (h : Reproduces evidence order replayed) :
    replayOrder evidence order rebuilt = .ok (passedOutcome evidence replayed) := by
  simp only [replayOrder]
  rw [h.gateway]
  dsimp only
  rw [h.paper]
  dsimp only
  rw [rebuildTcaAndEnvelope_eq_ok_iff.mpr ⟨h.tca, h.envelope⟩]
  dsimp only
  rw [compareReplayed_eq_nil_iff.mpr ⟨h.gateway_same, h.paper_same, h.tca_same, h.envelope_same⟩]
  rfl

/-! ## The replay of a record -/

/-- A stored record of a decision without an order. -/
structure NoOrderRecord (requestedTraceId : String) (evidence : DecisionTraceReplayEvidence) :
    Prop where
  ids : TraceIdsMatch requestedTraceId evidence
  envelope_valid : evidence.envelope.validate = .ok ()
  artifacts : ArtifactsValid evidence
  no_intent : evidence.orderIntent = none
  no_stored_intent : evidence.envelope.orderIntentId = none
  lineage : validateForecastDecisionLineage evidence.forecast evidence.decision = .ok ()
  reason : noOrderReason evidence.decision ≠ none
  same : SameEnvelope evidence.envelope (noOrderEnvelope evidence.forecast evidence.decision)

/-- A stored record of an order that the gateway reproduces. -/
structure PassingRecord (requestedTraceId : String) (evidence : DecisionTraceReplayEvidence)
    (order : OrderArtifacts) (event : ExecutionGatewayLifecycleEvent)
    (replayed : ReplayedOrder) : Prop where
  ids : TraceIdsMatch requestedTraceId evidence
  envelope_valid : evidence.envelope.validate = .ok ()
  artifacts : ArtifactsValid evidence
  order_eq : evidence.order = some order
  bars : evidence.bars ≠ []
  lineage : validateForecastDecisionLineage evidence.forecast evidence.decision = .ok ()
  linked : OrderLinked evidence.decision order event
  same : SameEnvelope evidence.envelope
    (orderEnvelope evidence.forecast evidence.decision order event)
  reproduces : Reproduces evidence order replayed

/-- The end of a replay of a decision without an order. -/
def noOrderOutcome (evidence : DecisionTraceReplayEvidence) : ReplayOutcome where
  status := .noOrder
  storedEnvelope := some evidence.envelope
  reconstructedEnvelope := some (noOrderEnvelope evidence.forecast evidence.decision)

theorem makeEnvelopeFromEvidence_noOrder {envelope : DecisionTraceEnvelope}
    (hintent : evidence.orderIntent = none) :
    makeEnvelopeFromEvidence evidence = .ok envelope ↔
      validateForecastDecisionLineage evidence.forecast evidence.decision = .ok () ∧
      noOrderReason evidence.decision ≠ none ∧
      envelope = noOrderEnvelope evidence.forecast evidence.decision := by
  simp only [makeEnvelopeFromEvidence, hintent]
  exact makeDecisionTraceEnvelope_noOrder_iff

theorem makeEnvelopeFromEvidence_order {order : OrderArtifacts} {envelope : DecisionTraceEnvelope}
    (horder : evidence.order = some order) :
    makeEnvelopeFromEvidence evidence = .ok envelope ↔
      validateForecastDecisionLineage evidence.forecast evidence.decision = .ok () ∧
      ∃ event, OrderLinked evidence.decision order event ∧
        envelope = orderEnvelope evidence.forecast evidence.decision order event := by
  obtain ⟨hintent, -⟩ := order_eq_some_iff.mp horder
  simp only [makeEnvelopeFromEvidence, hintent, horder]
  exact makeDecisionTraceEnvelope_order_iff

/-- The stages from the rebuilt envelope on end in one of three ways. -/
theorem replayEnvelope_cases {outcome : ReplayOutcome}
    (hinputs : (evidence.orderIntent = none ∧ evidence.envelope.orderIntentId = none) ∨
      ((∃ order, evidence.order = some order) ∧ evidence.bars ≠ []))
    (h : replayEnvelope evidence = .ok outcome) :
    FailedWithBlockers outcome ∨
      (evidence.orderIntent = none ∧ evidence.envelope.orderIntentId = none ∧
        validateForecastDecisionLineage evidence.forecast evidence.decision = .ok () ∧
        noOrderReason evidence.decision ≠ none ∧
        SameEnvelope evidence.envelope (noOrderEnvelope evidence.forecast evidence.decision) ∧
        outcome = noOrderOutcome evidence) ∨
      ∃ order event replayed, evidence.order = some order ∧ evidence.bars ≠ [] ∧
        validateForecastDecisionLineage evidence.forecast evidence.decision = .ok () ∧
        OrderLinked evidence.decision order event ∧
        SameEnvelope evidence.envelope
          (orderEnvelope evidence.forecast evidence.decision order event) ∧
        Reproduces evidence order replayed ∧ outcome = passedOutcome evidence replayed := by
  simp only [replayEnvelope] at h
  split at h
  · obtain ⟨blocker, -, hout⟩ := (bind_eq_ok_iff _ _ _).mp h
    cases hout
    exact .inl ⟨rfl, nofun⟩
  · next rebuilt hrebuilt =>
      obtain ⟨blockers, hcompare, hrest⟩ := (bind_eq_ok_iff _ _ _).mp h
      split_ifs at hrest with hblockers
      · cases hrest
        exact .inl ⟨rfl, hblockers⟩
      · obtain rfl : blockers = [] := not_not.mp hblockers
        have hsame := compareEnvelope_eq_nil_iff.mp hcompare
        rcases hinputs with ⟨hintent, hstored⟩ | ⟨⟨order, horder⟩, hbars⟩
        · obtain ⟨hlineage, hreason, rfl⟩ :=
            (makeEnvelopeFromEvidence_noOrder hintent).mp hrebuilt
          rw [hintent] at hrest
          exact .inr (.inl ⟨hintent, hstored, hlineage, hreason, hsame,
            (Except.ok.inj hrest).symm⟩)
        · obtain ⟨hlineage, event, hlinked, rfl⟩ :=
            (makeEnvelopeFromEvidence_order horder).mp hrebuilt
          rw [(order_eq_some_iff.mp horder).1, horder] at hrest
          rcases replayOrder_cases hrest with hfailed | ⟨replayed, hreproduces, rfl⟩
          · exact .inl hfailed
          · exact .inr (.inr ⟨order, event, replayed, horder, hbars, hlineage, hlinked, hsame,
              hreproduces, rfl⟩)

/-- A replay of a record fails with blockers, finds no order, or reproduces the order. -/
theorem replayEvidence_cases {outcome : ReplayOutcome}
    (h : replayEvidence requestedTraceId evidence = .ok outcome) :
    FailedWithBlockers outcome ∨
      (NoOrderRecord requestedTraceId evidence ∧ outcome = noOrderOutcome evidence) ∨
      ∃ order event replayed, PassingRecord requestedTraceId evidence order event replayed ∧
        outcome = passedOutcome evidence replayed := by
  simp only [replayEvidence] at h
  obtain ⟨traceBlockers, htrace, h⟩ := (bind_eq_ok_iff _ _ _).mp h
  split_ifs at h with hids
  · cases h
    exact .inl ⟨rfl, hids⟩
  obtain rfl : traceBlockers = [] := not_not.mp hids
  have hmatch := requestedTraceBlockers_eq_nil_iff.mp htrace
  split at h
  · obtain ⟨blocker, -, hout⟩ := (bind_eq_ok_iff _ _ _).mp h
    cases hout
    exact .inl ⟨rfl, nofun⟩
  next henvelope =>
  obtain ⟨artifactBlockers, hartifacts, h⟩ := (bind_eq_ok_iff _ _ _).mp h
  split_ifs at h with hvalid
  · cases h
    exact .inl ⟨rfl, hvalid⟩
  obtain rfl : artifactBlockers = [] := not_not.mp hvalid
  have hartifactsValid := validateReplayEvidenceArtifacts_eq_nil_iff.mp hartifacts
  obtain ⟨missingBlockers, hmissing, h⟩ := (bind_eq_ok_iff _ _ _).mp h
  split_ifs at h with hinputs
  · cases h
    exact .inl ⟨rfl, hinputs⟩
  obtain rfl : missingBlockers = [] := not_not.mp hinputs
  rcases replayEnvelope_cases (missingOrderInputBlockers_eq_nil_iff.mp hmissing) h with
    hfailed | ⟨hintent, hstored, hlineage, hreason, hsame, hout⟩ |
    ⟨order, event, replayed, horder, hbars, hlineage, hlinked, hsame, hreproduces, hout⟩
  · exact .inl hfailed
  · exact .inr (.inl ⟨⟨hmatch, henvelope, hartifactsValid, hintent, hstored, hlineage, hreason,
      hsame⟩, hout⟩)
  · exact .inr (.inr ⟨order, event, replayed, ⟨hmatch, henvelope, hartifactsValid, horder, hbars,
      hlineage, hlinked, hsame, hreproduces⟩, hout⟩)

/-- The stages before the rebuilt envelope pass for a complete valid record. -/
theorem replayEvidence_eq_replayEnvelope (hids : TraceIdsMatch requestedTraceId evidence)
    (henvelope : evidence.envelope.validate = .ok ()) (hartifacts : ArtifactsValid evidence)
    (hinputs : (evidence.orderIntent = none ∧ evidence.envelope.orderIntentId = none) ∨
      ((∃ order, evidence.order = some order) ∧ evidence.bars ≠ [])) :
    replayEvidence requestedTraceId evidence = replayEnvelope evidence := by
  simp only [replayEvidence]
  rw [requestedTraceBlockers_eq_nil_iff.mpr hids, ok_bind, if_neg (not_not.mpr rfl), henvelope]
  dsimp only
  rw [validateReplayEvidenceArtifacts_eq_nil_iff.mpr hartifacts, ok_bind,
    if_neg (not_not.mpr rfl), missingOrderInputBlockers_eq_nil_iff.mpr hinputs, ok_bind,
    if_neg (not_not.mpr rfl)]

/-- A valid record with a missing input fails with the blocker that names it. -/
theorem replayEvidence_missing (hids : TraceIdsMatch requestedTraceId evidence)
    (henvelope : evidence.envelope.validate = .ok ()) (hartifacts : ArtifactsValid evidence)
    (horder : evidence.orderIntent ≠ none) (hmissing : missingOrderInputs evidence ≠ []) :
    ∃ blocker, blocker.code = .missingReplayInput ∧
      replayEvidence requestedTraceId evidence =
        .ok { status := .failed, storedEnvelope := some evidence.envelope,
              blockers := [blocker] } := by
  obtain ⟨blockers, hblockers, hkind⟩ := @missingOrderInputBlockers_succeeds evidence
  rcases hkind with rfl | ⟨blocker, rfl, hcode⟩
  · rcases missingOrderInputBlockers_eq_nil_iff.mp hblockers with ⟨hnone, -⟩ | hcomplete
    · exact absurd hnone horder
    · exact absurd (missingOrderInputs_eq_nil_iff.mpr hcomplete) hmissing
  · refine ⟨blocker, hcode, ?_⟩
    simp only [replayEvidence]
    rw [requestedTraceBlockers_eq_nil_iff.mpr hids, ok_bind, if_neg (not_not.mpr rfl), henvelope]
    dsimp only
    rw [validateReplayEvidenceArtifacts_eq_nil_iff.mpr hartifacts, ok_bind,
      if_neg (not_not.mpr rfl), hblockers, ok_bind, if_pos (List.cons_ne_nil _ _)]

/-- A record of a decision without an order is found to have none. -/
theorem replayEvidence_noOrder (h : NoOrderRecord requestedTraceId evidence) :
    replayEvidence requestedTraceId evidence = .ok (noOrderOutcome evidence) := by
  rw [replayEvidence_eq_replayEnvelope h.ids h.envelope_valid h.artifacts
    (.inl ⟨h.no_intent, h.no_stored_intent⟩)]
  simp only [replayEnvelope]
  rw [(makeEnvelopeFromEvidence_noOrder h.no_intent).mpr ⟨h.lineage, h.reason, rfl⟩]
  dsimp only
  rw [compareEnvelope_eq_nil_iff.mpr h.same, ok_bind, if_neg (not_not.mpr rfl), h.no_intent]
  rfl

/-- A record of a reproduced order passes. -/
theorem replayEvidence_passed {order : OrderArtifacts} {event : ExecutionGatewayLifecycleEvent}
    {replayed : ReplayedOrder}
    (h : PassingRecord requestedTraceId evidence order event replayed) :
    replayEvidence requestedTraceId evidence = .ok (passedOutcome evidence replayed) := by
  rw [replayEvidence_eq_replayEnvelope h.ids h.envelope_valid h.artifacts
    (.inr ⟨⟨order, h.order_eq⟩, h.bars⟩)]
  simp only [replayEnvelope]
  rw [(makeEnvelopeFromEvidence_order h.order_eq).mpr ⟨h.lineage, event, h.linked, rfl⟩]
  dsimp only
  rw [compareEnvelope_eq_nil_iff.mpr h.same, ok_bind, if_neg (not_not.mpr rfl),
    (order_eq_some_iff.mp h.order_eq).1, h.order_eq]
  exact replayOrder_of_reproduces _ h.reproduces

/-! ## The replay of a trace id -/

variable {traceId : String} {resolver : DecisionTraceEvidenceResolver}
  {report : DecisionTraceReplayReport}

omit [Sha256] in
theorem make_eq_ok_iff {draft : DecisionTraceReplayReport} :
    DecisionTraceReplayReport.make draft = .ok report ↔
      isCanonicalId draft.traceId = true ∧ report = draft := by
  simp only [DecisionTraceReplayReport.make, check_bind_eq_ok_iff, require_eq_ok_iff,
    Except.ok.injEq]
  exact and_congr_right fun _ => eq_comm

/-- A report of the harness is failed with blockers, or it is the report of one of the two kinds of
records. -/
theorem replayDecisionTraceById_cases (h : replayDecisionTraceById traceId resolver = .ok report) :
    (report.status = .failed ∧ report.blockers ≠ []) ∨
      ∃ evidence, resolver (strip traceId) = [evidence] ∧
        ((NoOrderRecord (strip traceId) evidence ∧
            report = reportDraft (strip traceId) evidence (noOrderOutcome evidence)) ∨
          ∃ order event replayed, PassingRecord (strip traceId) evidence order event replayed ∧
            report = reportDraft (strip traceId) evidence (passedOutcome evidence replayed)) := by
  have hfailure : ∀ {id : String} {code : DecisionTraceReplayBlockerCode} {message : String}
      {expected actual : Option String},
      (DecisionTraceReplayBlocker.make code message expected actual >>= failureReport id) =
        .ok report → report.status = .failed ∧ report.blockers ≠ [] := by
    intro id code message expected actual hreport
    obtain ⟨blocker, -, hmake⟩ := (bind_eq_ok_iff _ _ _).mp hreport
    obtain ⟨-, rfl⟩ := make_eq_ok_iff.mp hmake
    exact ⟨rfl, nofun⟩
  simp only [replayDecisionTraceById] at h
  split_ifs at h with hblank
  · exact .inl (hfailure h)
  · split at h
    · exact .inl (hfailure h)
    · next evidence hfound =>
        obtain ⟨outcome, houtcome, hmake⟩ := (bind_eq_ok_iff _ _ _).mp h
        obtain ⟨-, rfl⟩ := make_eq_ok_iff.mp hmake
        rcases replayEvidence_cases houtcome with
          ⟨hstatus, hblockers⟩ | ⟨hrecord, rfl⟩ | ⟨order, event, replayed, hrecord, rfl⟩
        · exact .inl ⟨hstatus, hblockers⟩
        · exact .inr ⟨evidence, hfound, .inl ⟨hrecord, rfl⟩⟩
        · exact .inr ⟨evidence, hfound, .inr ⟨order, event, replayed, hrecord, rfl⟩⟩
    · exact .inl (hfailure h)

/-- A report is about the stripped id. -/
theorem traceId_of_replay (h : replayDecisionTraceById traceId resolver = .ok report)
    (hblank : strip traceId ≠ "") : report.traceId = strip traceId := by
  have hfailure : ∀ {blocker : Raises DecisionTraceReplayBlocker},
      (blocker >>= failureReport (strip traceId)) = .ok report →
        report.traceId = strip traceId := by
    intro blocker hreport
    obtain ⟨_, -, hmake⟩ := (bind_eq_ok_iff _ _ _).mp hreport
    obtain ⟨-, rfl⟩ := make_eq_ok_iff.mp hmake
    rfl
  simp only [replayDecisionTraceById, if_neg hblank] at h
  split at h
  · exact hfailure h
  · obtain ⟨outcome, -, hmake⟩ := (bind_eq_ok_iff _ _ _).mp h
    obtain ⟨-, rfl⟩ := make_eq_ok_iff.mp hmake
    rfl
  · exact hfailure h

/-- The report of a single record whose replay ends. -/
theorem replayDecisionTraceById_of_outcome {outcome : ReplayOutcome}
    (hcanonical : isCanonicalId (strip traceId) = true)
    (hfound : resolver (strip traceId) = [evidence])
    (houtcome : replayEvidence (strip traceId) evidence = .ok outcome) :
    replayDecisionTraceById traceId resolver =
      .ok (reportDraft (strip traceId) evidence outcome) := by
  have hblank : strip traceId ≠ "" := by
    intro hempty
    rw [hempty] at hcanonical
    cases hcanonical
  simp only [replayDecisionTraceById]
  rw [if_neg hblank, hfound]
  dsimp only
  rw [houtcome, ok_bind]
  exact make_eq_ok_iff.mpr ⟨hcanonical, rfl⟩

/-- The trace id of a valid decision is the one of its record. -/
theorem isCanonicalId_of_ids (hids : TraceIdsMatch requestedTraceId evidence)
    (hartifacts : ArtifactsValid evidence) : isCanonicalId requestedTraceId = true := by
  rw [← hids.decision_id]
  exact StrategyDecision.isCanonicalId_traceId hartifacts.decision

end Harness

end TaModel.Audit
