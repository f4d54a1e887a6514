import TaModel.Audit.GateVerdict
import TaModel.Audit.ReplayTotal

/-!
# When the audit returns reports

A gate run over valid records returns a report exactly when each of its ids is handled (`Handled`):
the id is canonical, the comparisons of its record can be shown, and a record of a decision without
an order carries nothing besides. `audit_total_iff` is the statement about the replays and the gate
together. What fails is the construction of a report or a blocker on the way out: a malformed id is
no `trace_id` of a report, an empty list of ids is no text of a blocker, and a sample without an
order refuses the artifacts that its replay has overlooked.
-/

set_option autoImplicit false

namespace TaModel.Audit

open Contracts Execution

section GateTotality

variable [Sha256] {requestedTraceId : String} {evidence : DecisionTraceReplayEvidence}
  {order : OrderArtifacts} {event : ExecutionGatewayLifecycleEvent} {replayed : ReplayedOrder}
  {index : Nat} {report : DecisionTraceReplayReport}

/-! ## The evidence of a sample -/

/-- A failed replay with blockers is a complete sample. -/
theorem sampleError_of_failed (hstatus : report.status = .failed) (hblockers : report.blockers ≠ []) :
    sampleReplayEvidenceError (sampleDraft index report) = none := by
  have hsample : (sampleDraft index report).replayStatus = .failed := hstatus
  simp only [sampleReplayEvidenceError, hsample]
  exact if_neg hblockers

/-- The id of a valid envelope is the one of its digest. -/
theorem traceEnvelopeId_eq {envelope : DecisionTraceEnvelope} (h : envelope.validate = .ok ()) :
    envelope.traceEnvelopeId = DecisionTraceEnvelope.buildId envelope.traceEnvelopeHash := by
  obtain ⟨-, hhash, hid⟩ := (DecisionTraceEnvelope.stamping.validate_eq_ok_iff _).mp h
  have hstored : envelope.traceEnvelopeHash = envelope.buildHash := hhash
  rw [hstored]
  exact hid

/-- The shared checks find nothing between two valid envelopes. -/
theorem closedSampleError_of_envelopes {outcome : ReplayOutcome}
    {stored reconstructed : DecisionTraceEnvelope}
    (hstored : outcome.storedEnvelope = some stored)
    (hreconstructed : outcome.reconstructedEnvelope = some reconstructed)
    (hblockers : outcome.blockers = []) (hstoredValid : stored.validate = .ok ())
    (hreconstructedValid : reconstructed.validate = .ok ()) :
    closedSampleEvidenceError
      (sampleDraft index (reportDraft requestedTraceId evidence outcome)) = none := by
  simp only [closedSampleEvidenceError, sampleDraft, reportDraft, hstored, hreconstructed,
    hblockers, Option.getD_some, Option.map_some, Option.isSome_some, Bool.and_self,
    traceEnvelopeIdentityError, traceEnvelopeId_eq hstoredValid,
    traceEnvelopeId_eq hreconstructedValid]
  simp

/-- A valid envelope without an order has a reason and links no paper evidence. -/
theorem noOrderEnvelope_facts {envelope : DecisionTraceEnvelope}
    (hvalid : envelope.validate = .ok ()) (hintent : envelope.orderIntentId = none) :
    envelope.noOrderReason ≠ none ∧ envelope.paperOrderLogIds = [] ∧
      envelope.paperFillLogIds = [] ∧ envelope.paperRejectionLogIds = [] ∧
      envelope.paperTcaRowIds = [] ∧ envelope.paperTcaIssueIds = [] := by
  have hfields := ((DecisionTraceEnvelope.stamping.validate_eq_ok_iff _).mp hvalid).1
  obtain ⟨-, -, hnoOrder, -⟩ := (DecisionTraceEnvelope.validateFields_eq_ok_iff _).mp hfields
  obtain ⟨hreason, -, hlists⟩ :=
    (DecisionTraceEnvelope.validateNoOrderTrace_eq_ok_iff _).mp (hnoOrder hintent)
  exact ⟨hreason, hlists⟩

omit [Sha256] in
/-- Nothing is reported downstream of a bare record without paper evidence in its envelopes. -/
theorem hasDownstream_eq_false_iff {outcome : ReplayOutcome} {stored rebuilt : DecisionTraceEnvelope}
    (hstored : outcome.storedEnvelope = some stored)
    (hrebuilt : outcome.reconstructedEnvelope = some rebuilt)
    (hgateway : outcome.replayedGatewayReport = none) (hpaper : outcome.replayedPaperReport = none)
    (htca : outcome.replayedTcaReport = none)
    (hlists : ∀ envelope ∈ [stored, rebuilt], envelope.paperOrderLogIds = [] ∧
      envelope.paperFillLogIds = [] ∧ envelope.paperRejectionLogIds = [] ∧
      envelope.paperTcaRowIds = [] ∧ envelope.paperTcaIssueIds = []) :
    hasGatewayPaperOrTcaEvidence (reportDraft requestedTraceId evidence outcome) = false ↔
      evidence.IsBare := by
  simp only [List.forall_mem_cons] at hlists
  obtain ⟨⟨h1, h2, h3, h4, h5⟩, ⟨h6, h7, h8, h9, h10⟩, -⟩ := hlists
  have hevent : matchingReportEvent none evidence.riskEvent evidence.decision = none := rfl
  simp only [hasGatewayPaperOrTcaEvidence, downstreamValues, downstreamIds, reportDraft, hstored,
    hrebuilt, hgateway, hpaper, htca, Option.getD_some, Option.map_some, Option.map_none,
    Option.bind_none, hevent, h1, h2, h3, h4, h5, h6, h7, h8, h9, h10, List.append_nil,
    List.isEmpty_nil, Bool.not_true, Bool.or_false, List.any_cons, List.any_nil,
    Option.isSome_map, Option.isSome_none, Bool.false_or, Bool.or_eq_false_iff,
    Option.isSome_eq_false_iff, Option.isNone_iff_eq_none]
  constructor
  · rintro ⟨hrisk, hreport, -, -, -, -, -, hsession, -, hcosts, -⟩
    exact ⟨hrisk, hreport, hsession, hcosts⟩
  · rintro ⟨hrisk, hreport, hsession, hcosts⟩
    -- without a stored gateway report there is no stored event either
    have hstoredEvent : matchingReportEvent evidence.gatewayReport evidence.riskEvent
        evidence.decision = none := by
      rw [hreport]
      rfl
    rw [hstoredEvent]
    exact ⟨hrisk, hreport, hreport, hreport, rfl, rfl, rfl, hsession, hsession, hcosts, hcosts⟩

omit [Sha256] in
/-- What the check of a sample without an order asks of its record and its two envelopes. -/
theorem noOrderSampleError_iff {outcome : ReplayOutcome} {stored rebuilt : DecisionTraceEnvelope}
    (hstored : outcome.storedEnvelope = some stored)
    (hrebuilt : outcome.reconstructedEnvelope = some rebuilt)
    (hdownstream : hasGatewayPaperOrTcaEvidence (reportDraft requestedTraceId evidence outcome) =
      false ↔ evidence.IsBare)
    (hsame : SameEnvelope stored rebuilt) (hstoredReason : stored.noOrderReason ≠ none)
    (hrebuiltReason : rebuilt.noOrderReason ≠ none) :
    noOrderSampleEvidenceError (reportDraft requestedTraceId evidence outcome) = none ↔
      evidence.IsBare ∧ stored.noOrderReason = rebuilt.noOrderReason := by
  rw [← hdownstream]
  generalize hdraft : reportDraft requestedTraceId evidence outcome = draft
  -- the fields of the report that the check reads
  have hid : draft.storedTraceEnvelopeId = draft.reconstructedTraceEnvelopeId := by
    simp only [← hdraft, reportDraft, hstored, hrebuilt, Option.getD_some, Option.map_some,
      hsame.traceEnvelopeId]
  have hhash : draft.storedTraceEnvelopeHash = draft.reconstructedTraceEnvelopeHash := by
    simp only [← hdraft, reportDraft, hstored, hrebuilt, Option.getD_some, Option.map_some,
      hsame.traceEnvelopeHash]
  have hreasons : draft.storedNoOrderReason = stored.noOrderReason ∧
      draft.reconstructedNoOrderReason = rebuilt.noOrderReason := by
    simp only [← hdraft, reportDraft, hstored, hrebuilt, Option.getD_some, Option.bind_some,
      and_self]
  have hmissing : missingFields (noOrderEvidenceFields draft) = [] := by
    obtain ⟨s, hs⟩ := Option.ne_none_iff_exists'.mp hstoredReason
    obtain ⟨r, hr⟩ := Option.ne_none_iff_exists'.mp hrebuiltReason
    simp only [noOrderEvidenceFields, hreasons.1, hreasons.2, hs, hr]
    simp [← hdraft, reportDraft, missingFields]
  simp only [noOrderSampleEvidenceError]
  rw [if_neg (not_not.mpr hmissing), if_neg (not_not.mpr hid), if_neg (not_not.mpr hhash),
    hreasons.1, hreasons.2]
  by_cases hreason : stored.noOrderReason = rebuilt.noOrderReason
  · rw [if_neg (not_not.mpr hreason)]
    cases hstray : hasGatewayPaperOrTcaEvidence draft with
    | true => exact ⟨nofun, nofun⟩
    | false => exact ⟨fun _ => ⟨rfl, hreason⟩, fun _ => rfl⟩
  · rw [if_pos hreason]
    exact ⟨nofun, fun h => absurd h.2 hreason⟩

/-- The sample of a record without an order is complete when the record carries nothing besides and
its stored reason is the one of its decision. -/
theorem sampleError_noOrder_iff (h : NoOrderRecord requestedTraceId evidence) :
    sampleReplayEvidenceError (sampleDraft index
        (reportDraft requestedTraceId evidence (noOrderOutcome evidence))) = none ↔
      evidence.IsBare ∧ evidence.envelope.noOrderReason = noOrderReason evidence.decision := by
  have hreconstructed :
      (noOrderEnvelope evidence.forecast evidence.decision).validate = .ok () :=
    (DecisionTraceEnvelope.stamping.validate_sealed _).mpr (noOrderDraft_validateFields h.reason)
  have hclosed := @closedSampleError_of_envelopes _ requestedTraceId evidence index
    (noOrderOutcome evidence) _ _ rfl rfl rfl h.envelope_valid hreconstructed
  obtain ⟨hreason, hlists⟩ := noOrderEnvelope_facts h.envelope_valid h.no_stored_intent
  have hdownstream := @hasDownstream_eq_false_iff requestedTraceId evidence
    (noOrderOutcome evidence) evidence.envelope
    (noOrderEnvelope evidence.forecast evidence.decision) rfl rfl rfl rfl rfl
    (List.forall_mem_cons.mpr ⟨hlists, List.forall_mem_singleton.mpr ⟨rfl, rfl, rfl, rfl, rfl⟩⟩)
  have hsample : sampleReplayEvidenceError (sampleDraft index
        (reportDraft requestedTraceId evidence (noOrderOutcome evidence))) =
      (closedSampleEvidenceError (sampleDraft index
        (reportDraft requestedTraceId evidence (noOrderOutcome evidence)))).or
        (noOrderSampleEvidenceError
          (reportDraft requestedTraceId evidence (noOrderOutcome evidence))) := rfl
  rw [hsample, hclosed, Option.none_or]
  exact noOrderSampleError_iff rfl rfl hdownstream h.same hreason h.reason

/-- An envelope over linked artifacts links a fill and its row, or a rejection and its issue. -/
theorem orderEnvelope_evidence {forecast : Forecast} {decision : StrategyDecision}
    (hlinked : OrderLinked decision order event) :
    ((orderEnvelope forecast decision order event).paperFillLogIds ≠ [] ∧
      (orderEnvelope forecast decision order event).paperTcaRowIds ≠ []) ∨
    ((orderEnvelope forecast decision order event).paperRejectionLogIds ≠ [] ∧
      (orderEnvelope forecast decision order event).paperTcaIssueIds ≠ []) := by
  have hmap : ∀ {α : Type} {f : α → String} {xs : List α}, xs ≠ [] → xs.map f ≠ [] :=
    fun hne hnil => hne (List.map_eq_nil_iff.mp hnil)
  cases hfilled : event.status.isFilled with
  | true => exact .inl ⟨hmap (hlinked.logs.filled hfilled), hmap (hlinked.tca.filled hfilled)⟩
  | false =>
      exact .inr ⟨hmap (hlinked.logs.not_filled hfilled), hmap (hlinked.tca.not_filled hfilled)⟩

/-- The envelope of an order lists an order log. -/
theorem paperOrderLogIds_ne_nil {envelope : DecisionTraceEnvelope}
    (hvalid : envelope.validate = .ok ()) (hintent : envelope.orderIntentId ≠ none) :
    envelope.paperOrderLogIds ≠ [] := by
  have hfields := ((DecisionTraceEnvelope.stamping.validate_eq_ok_iff _).mp hvalid).1
  obtain ⟨-, horder, -, -⟩ := (DecisionTraceEnvelope.validateFields_eq_ok_iff _).mp hfields
  obtain ⟨-, -, -, -, -, -, -, -, -, hlogs⟩ :=
    (DecisionTraceEnvelope.validateOrderTraceIsComplete_eq_ok_iff _).mp (horder hintent)
  exact hlogs

/-- A linked event is the matching one of its report. -/
theorem matchingReportEvent_of_linked {decision : StrategyDecision}
    (hlinked : OrderLinked decision order event) :
    matchingReportEvent (some order.gatewayReport) (some order.riskEvent) decision =
      some event := by
  have hfilter := matchingGatewayEvent_eq_ok_iff.mp hlinked.matched.event_eq
  simp only [matchingReportEvent, hfilter]

omit [Sha256] in
/-- The check of a passed sample finds nothing in a report with both events and both envelopes. -/
theorem passedSampleError_of_evidence {rebuiltEvent : ExecutionGatewayLifecycleEvent}
    (horder : evidence.order = some order)
    (hstoredEvent : matchingReportEvent (some order.gatewayReport) (some order.riskEvent)
      evidence.decision = some event)
    (hrebuiltEvent : matchingReportEvent (some replayed.gatewayReport) (some order.riskEvent)
      evidence.decision = some rebuiltEvent)
    (hstoredLogs : evidence.envelope.paperOrderLogIds ≠ [])
    (hrebuiltLogs : replayed.envelope.paperOrderLogIds ≠ [])
    (hsame : SameEnvelope evidence.envelope replayed.envelope)
    (hevidence : (replayed.envelope.paperFillLogIds ≠ [] ∧ replayed.envelope.paperTcaRowIds ≠ []) ∨
      (replayed.envelope.paperRejectionLogIds ≠ [] ∧
        replayed.envelope.paperTcaIssueIds ≠ [])) :
    passedReplaySampleEvidenceError
      (reportDraft requestedTraceId evidence (passedOutcome evidence replayed)) = none := by
  obtain ⟨-, hrisk, hgateway, hpaper, htca⟩ := order_eq_some_iff.mp horder
  have hmissing : missingFields (passedEvidenceFields
      (reportDraft requestedTraceId evidence (passedOutcome evidence replayed))) = [] := by
    simp [missingFields, passedEvidenceFields, reportDraft, passedOutcome, hrisk, hgateway, hpaper,
      htca, hstoredEvent, hrebuiltEvent]
  have hlogs : ¬ (evidence.envelope.paperOrderLogIds = [] ∨
      replayed.envelope.paperOrderLogIds = []) := by
    rintro (hnil | hnil)
    · exact hstoredLogs hnil
    · exact hrebuiltLogs hnil
  have hfound : HasFillOrRejectionEvidence
      (reportDraft requestedTraceId evidence (passedOutcome evidence replayed)) := by
    simp only [HasFillOrRejectionEvidence, reportDraft, passedOutcome, Option.getD_some,
      Option.map_some, hsame.paperFillLogIds, hsame.paperTcaRowIds, hsame.paperRejectionLogIds,
      hsame.paperTcaIssueIds]
    rcases hevidence with ⟨hfills, hrows⟩ | ⟨hrejections, hissues⟩
    · exact .inl ⟨hfills, hfills, hrows, hrows⟩
    · exact .inr ⟨hrejections, hrejections, hissues, hissues⟩
  simp only [passedReplaySampleEvidenceError]
  rw [if_neg (not_not.mpr hmissing), if_neg (not_not.mpr hfound)]
  exact if_neg hlogs

/-- The sample of a reproduced order is complete. -/
theorem sampleError_passed (h : PassingRecord requestedTraceId evidence order event replayed) :
    sampleReplayEvidenceError (sampleDraft index
      (reportDraft requestedTraceId evidence (passedOutcome evidence replayed))) = none := by
  have hrebuilds := h.reproduces.toRebuilds
  have hrebuiltValid := makeDecisionTraceEnvelope_valid hrebuilds.envelope
  obtain ⟨-, rebuiltEvent, hlinked, henvelope⟩ :=
    makeDecisionTraceEnvelope_order_iff.mp hrebuilds.envelope
  have hsame := h.reproduces.envelope_same
  have hrebuiltIntent : replayed.envelope.orderIntentId ≠ none := by
    rw [henvelope]
    exact Option.some_ne_none _
  have hstoredIntent : evidence.envelope.orderIntentId ≠ none := by
    rw [hsame.orderIntentId]
    exact hrebuiltIntent
  have hevidence := @orderEnvelope_evidence _ _ _ evidence.forecast _ hlinked
  rw [← henvelope] at hevidence
  have hclosed := @closedSampleError_of_envelopes _ requestedTraceId evidence index
    (passedOutcome evidence replayed) _ _ rfl rfl rfl h.envelope_valid hrebuiltValid
  have hsample : sampleReplayEvidenceError (sampleDraft index
        (reportDraft requestedTraceId evidence (passedOutcome evidence replayed))) =
      (closedSampleEvidenceError (sampleDraft index
        (reportDraft requestedTraceId evidence (passedOutcome evidence replayed)))).or
        (passedReplaySampleEvidenceError
          (reportDraft requestedTraceId evidence (passedOutcome evidence replayed))) := rfl
  rw [hsample, hclosed, Option.none_or]
  exact passedSampleError_of_evidence h.order_eq (matchingReportEvent_of_linked h.linked)
    (matchingReportEvent_of_linked hlinked)
    (paperOrderLogIds_ne_nil h.envelope_valid hstoredIntent)
    (paperOrderLogIds_ne_nil hrebuiltValid hrebuiltIntent) hsame hevidence

/-! ## Blockers of the gate -/

variable {traceIds : List String} {resolver : DecisionTraceEvidenceResolver}
  {config : AuditGateRunConfig} {manifest : AuditGateRunManifest}
  {samples : List AuditGateTraceSampleResult}

omit [Sha256] in
theorem blockersUnless_succeeds {met : Prop} [Decidable met]
    {blocker : Raises AuditGateValidationBlocker} (h : ∃ b, blocker = .ok b) :
    ∃ blockers, blockersUnless met blocker = .ok blockers := by
  obtain ⟨b, rfl⟩ := h
  simp only [blockersUnless]
  split_ifs
  · exact ⟨_, rfl⟩
  · exact ⟨_, rfl⟩

omit [Sha256] in
theorem manifestTracePolicyBlockers_succeeds
    (hcanonical : ∀ traceId ∈ manifest.traceIds, isCanonicalId traceId = true)
    (herrors : ∀ text ∈ manifest.traceIdPolicyErrors, Shown text) :
    ∃ blockers, manifestTracePolicyBlockers manifest = .ok blockers := by
  have hblank : ∃ blank, manifest.traceIdPolicyErrors.mapM (fun error =>
      AuditGateValidationBlocker.make .samplePolicyNotMet error none none
        (some "non-empty trace_id") (some "blank trace_id")) = .ok blank := by
    simp only [mapM_eq_ok_iff]
    apply Library.exists_forall₂
    intro error herror
    apply AuditGateValidationBlocker.make_succeeds (herrors error herror)
    · exact nofun
    · rintro _ ⟨⟩
      decide
    · rintro _ ⟨⟩
      decide
  obtain ⟨blank, hblank⟩ := hblank
  simp only [manifestTracePolicyBlockers, hblank, ok_bind]
  split_ifs with hrepeated
  · obtain ⟨blocker, hblocker⟩ := @AuditGateValidationBlocker.make_succeeds .samplePolicyNotMet
      "explicit audit gate trace IDs must be unique" none none (some "unique trace_ids")
      (some (",".intercalate (duplicateTraceIds manifest.traceIds))) (by decide) nofun
      (by rintro _ ⟨⟩; decide) (by
        rintro _ ⟨⟩
        apply shown_intercalate hrepeated
        intro traceId hmem
        exact shown_of_isCanonicalId (hcanonical _ (Library.mem_of_mem_repeatedItems hmem)))
    rw [hblocker]
    exact ⟨_, rfl⟩
  · exact ⟨_, rfl⟩

/-- A complete sample of a canonical id gives blockers, never an exception. -/
theorem sampleBlockers_succeeds {sample : AuditGateTraceSampleResult}
    (hcanonical : isCanonicalId sample.traceId = true)
    (hcomplete : sampleReplayEvidenceError sample = none) :
    ∃ blockers, sampleBlockers sample = .ok blockers := by
  have htrace : ∀ id ∈ some sample.traceId, isCanonicalId id = true := by
    rintro _ ⟨⟩
    exact hcanonical
  simp only [sampleBlockers, hcomplete, Option.toList_none, List.mapM_nil]
  split_ifs with hstatus hblockers
  · exact ⟨_, rfl⟩
  · have hfound : ∃ found, replayBlockers sample = .ok found := by
      simp only [replayBlockers, mapM_eq_ok_iff]
      apply Library.exists_forall₂
      intro blocker hblocker
      exact AuditGateValidationBlocker.make_succeeds blocker.message_shown htrace
        blocker.expected_shown blocker.actual_shown
    obtain ⟨found, hfound⟩ := hfound
    rw [hfound]
    exact ⟨_, rfl⟩
  · obtain ⟨blocker, hblocker⟩ := @AuditGateValidationBlocker.make_succeeds .sampleReplayFailed
      "sample replay failed without a replay blocker" (some sample.traceId) none none none
      (by decide) htrace shown_none shown_none
    rw [hblocker]
    exact ⟨_, rfl⟩

omit [Sha256] in
theorem samplePolicyBlockers_succeeds :
    ∃ blockers, samplePolicyBlockers manifest samples = .ok blockers := by
  have hmake : ∀ {message expected actual : String}, Shown message → Shown expected →
      Shown actual → ∃ blocker, AuditGateValidationBlocker.make .samplePolicyNotMet message none
        none (some expected) (some actual) = .ok blocker := by
    intro message expected actual hmessage hexpected hactual
    apply AuditGateValidationBlocker.make_succeeds hmessage
    · exact nofun
    · rintro _ ⟨⟩
      exact hexpected
    · rintro _ ⟨⟩
      exact hactual
  simp only [samplePolicyBlockers]
  refine exists_ok_bind (blockersUnless_succeeds (hmake ?_ ?_ ?_)) fun tooFew =>
    exists_ok_bind (blockersUnless_succeeds (hmake ?_ ?_ ?_)) fun noOrder =>
      exists_ok_bind (blockersUnless_succeeds (hmake ?_ ?_ ?_)) fun failing => ⟨_, rfl⟩
  · decide
  · exact shown_toString _
  · exact shown_toString _
  · decide
  · decide
  · decide
  · decide
  · decide
  · exact shown_toString _

/-- The blockers of a gate with its samples can always be stored. -/
theorem GateSamples.blockers_succeed (h : GateSamples traceIds resolver config manifest samples)
    (herrors : ∀ text ∈ manifest.traceIdPolicyErrors, Shown text) :
    ∃ blockers, gateBlockers manifest samples = .ok blockers := by
  obtain ⟨tracePolicy, htracePolicy⟩ := manifestTracePolicyBlockers_succeeds h.canonical herrors
  have hmismatch := sampleManifestMismatchBlockers_eq_nil_iff.mpr h.sampleIds
  have hsamples : ∃ found, samples.mapM sampleBlockers = .ok found := by
    simp only [mapM_eq_ok_iff]
    apply Library.exists_forall₂
    intro sample hmem
    obtain ⟨entry, -, -, hcomplete⟩ := Library.exists_of_mem_right h.sampleOf hmem
    exact sampleBlockers_succeeds (h.canonical _ (h.id_of_sample hmem).1) hcomplete
  obtain ⟨found, hfound⟩ := hsamples
  obtain ⟨ofPolicy, hofPolicy⟩ := @samplePolicyBlockers_succeeds manifest samples
  simp only [gateBlockers, bind_eq_ok_iff]
  exact ⟨_, tracePolicy, htracePolicy, [], hmismatch, found, hfound, ofPolicy, hofPolicy, rfl⟩

/-! ## The run -/

omit [Sha256] in
theorem shown_traceIdPolicyErrors : ∀ text ∈ traceIdPolicyErrors traceIds, Shown text := by
  intro text htext
  obtain ⟨entry, -, herror⟩ := List.mem_filterMap.mp htext
  simp only [traceIdPolicyError] at herror
  split_ifs at herror
  cases herror
  exact shown_append ⟨'m', by decide, by decide⟩

/-- The report over the samples of a run passes its own validators. -/
theorem validationReportDraft_validateFields {blockers : List AuditGateValidationBlocker}
    (h : GateRun traceIds resolver config manifest samples blockers)
    (hmanifest : AuditGateRunManifest.stamping.validate manifest = .ok ())
    (hsamples : ∀ sample ∈ samples,
      AuditGateTraceSampleResult.stamping.validate sample = .ok ()) :
    (validationReportDraft manifest samples blockers).validateFields = .ok () := by
  have hpassing : (validationReportDraft manifest samples blockers).status = .passed →
      (validationReportDraft manifest samples blockers).validatePassing = .ok () := by
    intro hstatus
    have hfree := h.derivedStatus_iff.mp hstatus
    simp only [AuditGateValidationReport.validatePassing, check_bind_eq_ok_iff, require_eq_ok_iff,
      forM_eq_ok_iff, requireEvidence_eq_ok_iff, Option.map_eq_none_iff]
    exact ⟨hfree.nonblank, (Library.repeatedItems_eq_nil_iff _).mpr hfree.distinct,
      hfree.policy.enough, hfree.complete⟩
  simp only [AuditGateValidationReport.validateFields, check_bind_eq_ok_iff, require_eq_ok_iff,
    forM_eq_ok_iff]
  refine ⟨hmanifest, hsamples, rfl, h.sampleIds, rfl, rfl, rfl, rfl, rfl, rfl, rfl, ?_⟩
  split_ifs with hstatus
  · exact hpassing hstatus
  · rfl

/-- The sample of one entry of the request can be made. -/
def SampleMade (resolver : DecisionTraceEvidenceResolver) (entry : String × Nat) : Prop :=
  isCanonicalId (normalizeTraceId entry.2 entry.1) = true ∧
    ∃ sample, replaySample resolver (normalizeTraceId entry.2 entry.1, entry.2) = .ok sample

/-- A run with a valid configuration returns a report exactly when each sample can be made. -/
theorem runAuditGateValidation_succeeds_iff (hconfig : config.validate = .ok ()) :
    (∃ report, runAuditGateValidation traceIds resolver config = .ok report) ↔
      ∀ entry ∈ traceIds.zipIdx, SampleMade resolver entry := by
  constructor
  · rintro ⟨report, hreport⟩ entry hentry
    obtain ⟨manifest, samples, blockers, hrun, -⟩ := gateRun_of_returns hreport
    have hreplayed := hrun.replayed
    rw [hrun.ids, zipIdx_normalizeTraceIds, List.forall₂_map_left_iff] at hreplayed
    obtain ⟨sample, -, hsample⟩ := Library.exists_of_mem_right hreplayed.flip hentry
    refine ⟨hrun.canonical _ ?_, sample, hsample⟩
    rw [hrun.ids]
    exact List.mem_map.mpr ⟨entry, hentry, rfl⟩
  · intro hmade
    have hcanonical : ∀ traceId ∈ normalizeTraceIds traceIds, isCanonicalId traceId = true := by
      intro traceId hmem
      obtain ⟨entry, hentry, rfl⟩ := List.mem_map.mp hmem
      exact (hmade entry hentry).1
    have hfields : (manifestDraft config traceIds).validateFields = .ok () := by
      simp only [AuditGateRunManifest.validateFields, check_bind_eq_ok_iff, require_eq_ok_iff]
      exact ⟨hcanonical, shown_traceIdPolicyErrors, (require_eq_ok_iff _ _ _).mp hconfig⟩
    obtain ⟨samples, hsamples⟩ : ∃ samples,
        List.Forall₂ (fun entry sample => replaySample resolver entry = .ok sample)
          (normalizeTraceIds traceIds).zipIdx samples := by
      apply Library.exists_forall₂
      intro entry hentry
      rw [zipIdx_normalizeTraceIds] at hentry
      obtain ⟨original, horiginal, rfl⟩ := List.mem_map.mp hentry
      exact (hmade original horiginal).2
    let manifest := AuditGateRunManifest.stamping.sealed (manifestDraft config traceIds)
    have hgate : GateSamples traceIds resolver config manifest samples :=
      ⟨rfl, rfl, rfl, hcanonical, hsamples⟩
    obtain ⟨blockers, hblockers⟩ := hgate.blockers_succeed shown_traceIdPolicyErrors
    have hmanifestValid := (AuditGateRunManifest.stamping.validate_sealed _).mpr hfields
    have hsamplesValid : ∀ sample ∈ samples,
        AuditGateTraceSampleResult.stamping.validate sample = .ok () := by
      intro sample hmem
      obtain ⟨entry, -, hsample⟩ := Library.exists_of_mem_right hsamples hmem
      obtain ⟨replay, -, hmake⟩ := (bind_eq_ok_iff _ _ _).mp hsample
      exact Library.Stamping.validate_of_construct _ hmake
    have hreport := validationReportDraft_validateFields ⟨hgate, hblockers⟩ hmanifestValid
      hsamplesValid
    simp only [runAuditGateValidation, makeAuditGateRunManifest, makeAuditGateValidationReport,
      bind_eq_ok_iff, mapM_eq_ok_iff, Library.Stamping.construct_eq_ok_iff]
    exact ⟨_, manifest, ⟨hfields, rfl⟩, samples, hsamples, blockers, hblockers, hreport, rfl⟩

/-! ## Handled ids -/

/-- A trace id that the audit handles: a report can carry it, the comparisons of its record can be
shown, and a record without an order carries nothing besides, under its own reason. -/
structure Handled (resolver : DecisionTraceEvidenceResolver) (traceId : String) : Prop where
  canonical : isCanonicalId traceId = true
  shows : RecordShows resolver traceId
  no_order : ∀ evidence, resolver traceId = [evidence] → NoOrderRecord traceId evidence →
    evidence.IsBare ∧ evidence.envelope.noOrderReason = noOrderReason evidence.decision

/-- The sample of an id can be made exactly when the audit handles it. -/
theorem sampleMade_iff {entry : String × Nat}
    (hvalid : ∀ traceId, ∀ evidence ∈ resolver traceId, EvidenceValid evidence) :
    SampleMade resolver entry ↔ Handled resolver (normalizeTraceId entry.2 entry.1) := by
  generalize hid : normalizeTraceId entry.2 entry.1 = traceId
  simp only [SampleMade, hid, replaySample_eq_ok_iff]
  constructor
  · rintro ⟨hcanonical, sample, replay, hreplay, -, hcomplete, -⟩
    have hstrip := strip_of_isCanonicalId hcanonical
    have hblank : strip traceId ≠ "" := shown_of_isCanonicalId hcanonical
    have hshows := ((replayDecisionTraceById_succeeds_iff (hvalid _) hblank).mp ⟨_, hreplay⟩).2
    rw [hstrip] at hshows
    refine ⟨hcanonical, hshows, ?_⟩
    intro evidence hfound hrecord
    -- the replay of this record is the one of the sample
    have hcanonical' := hcanonical
    rw [← hstrip] at hcanonical' hfound hrecord
    have hnoOrder := replayDecisionTraceById_of_outcome hcanonical' hfound
      (replayEvidence_noOrder hrecord)
    rw [hreplay] at hnoOrder
    cases hnoOrder
    exact (sampleError_noOrder_iff hrecord).mp hcomplete
  · rintro ⟨hcanonical, hshows, hnoOrder⟩
    have hstrip := strip_of_isCanonicalId hcanonical
    have hblank : strip traceId ≠ "" := shown_of_isCanonicalId hcanonical
    rw [← hstrip] at hshows hnoOrder hcanonical
    obtain ⟨replay, hreplay⟩ :=
      (replayDecisionTraceById_succeeds_iff (hvalid _) hblank).mpr ⟨hcanonical, hshows⟩
    have htrace := traceId_of_replay hreplay hblank
    have hcomplete : sampleReplayEvidenceError (sampleDraft entry.2 replay) = none := by
      rcases replayDecisionTraceById_cases hreplay with
        ⟨hstatus, hblockers⟩ | ⟨evidence, hfound, ⟨hrecord, rfl⟩ | ⟨_, _, _, hrecord, rfl⟩⟩
      · exact sampleError_of_failed hstatus hblockers
      · exact (sampleError_noOrder_iff hrecord).mpr (hnoOrder evidence hfound hrecord)
      · exact sampleError_passed hrecord
    rw [hstrip] at hcanonical
    rw [← htrace] at hstrip
    refine ⟨hcanonical, _, replay, hreplay, ?_, hcomplete, rfl⟩
    rw [hstrip]
    exact hcanonical

/-- A configuration with the default policies. -/
def gateConfig (configHash : String) : AuditGateRunConfig where
  configHash := configHash
  codeCommit := "0000000000000000000000000000000000000000"
  codeRef := "main"

def sampleGateConfig : AuditGateRunConfig := gateConfig (gateConfig "").buildHash

theorem sampleGateConfig_valid : sampleGateConfig.validate = .ok () := require_of rfl _

/-- The record of a declined decision. -/
def declinedRecord : DecisionTraceReplayEvidence where
  traceId := declinedDecision.traceId
  envelope := noOrderEnvelope sampleForecast declinedDecision
  forecast := sampleForecast
  decision := declinedDecision

theorem declinedRecord_artifacts : ArtifactsValid declinedRecord := by
  refine ⟨sampleForecast_valid, declinedDecision_valid, ?_, ?_, ?_, ?_, ?_⟩
  all_goals
    intro artifact hartifact
    cases hartifact

theorem declinedRecord_noOrder : NoOrderRecord declinedDecision.traceId declinedRecord where
  ids := ⟨rfl, rfl, rfl⟩
  envelope_valid := (DecisionTraceEnvelope.stamping.validate_sealed _).mpr
    (noOrderDraft_validateFields noOrderReason_declined)
  artifacts := declinedRecord_artifacts
  no_intent := rfl
  no_stored_intent := rfl
  lineage := decisionOn_lineage _ _ _
  reason := noOrderReason_declined
  same := SameEnvelope.refl _

theorem declinedRecord_valid : EvidenceValid declinedRecord where
  ids := by
    have htrace := StrategyDecision.isCanonicalId_traceId declinedDecision_valid
    refine ⟨htrace, ?_, nofun⟩
    intro id hid
    rcases List.mem_cons.mp hid with rfl | hid
    · exact htrace
    · rw [List.mem_singleton.mp hid]
      exact isCanonicalId_stableId _ _ (by decide) (by decide)
  envelope := declinedRecord_noOrder.envelope_valid
  artifacts := declinedRecord_artifacts

theorem declinedStore_valid :
    ∀ traceId, ∀ evidence ∈ inMemoryStore [declinedRecord] traceId, EvidenceValid evidence := by
  intro traceId evidence hmem
  rw [List.mem_singleton.mp (List.mem_of_mem_filter hmem)]
  exact declinedRecord_valid

theorem normalizeTraceId_declined :
    normalizeTraceId 0 declinedDecision.traceId = declinedDecision.traceId := by
  have hcanonical := StrategyDecision.isCanonicalId_traceId declinedDecision_valid
  rw [normalizeTraceId, strip_of_isCanonicalId hcanonical]
  refine if_neg ?_
  intro hempty
  rw [hempty] at hcanonical
  cases hcanonical

theorem declinedStore_handled :
    ∀ entry ∈ [declinedDecision.traceId].zipIdx,
      Handled (inMemoryStore [declinedRecord]) (normalizeTraceId entry.2 entry.1) := by
  intro entry hentry
  rw [List.mem_singleton.mp hentry, normalizeTraceId_declined]
  have hfound : ∀ evidence, inMemoryStore [declinedRecord] declinedDecision.traceId = [evidence] →
      evidence = declinedRecord := by
    intro evidence h
    rw [show inMemoryStore [declinedRecord] declinedDecision.traceId = [declinedRecord] from
      inMemoryStore_self declinedRecord] at h
    exact (List.cons.inj h).1.symm
  refine ⟨StrategyDecision.isCanonicalId_traceId declinedDecision_valid, ?_, ?_⟩
  · intro evidence h _ hbars
    rw [hfound evidence h] at hbars
    exact absurd rfl hbars
  · intro evidence h _
    rw [hfound evidence h]
    exact ⟨⟨rfl, rfl, rfl, rfl⟩, rfl⟩

/-- The gate over the declined decision returns a report. -/
theorem declinedStore_gate : ∃ report, runAuditGateValidation [declinedDecision.traceId]
    (inMemoryStore [declinedRecord]) sampleGateConfig = .ok report := by
  apply (runAuditGateValidation_succeeds_iff sampleGateConfig_valid).mpr
  intro entry hentry
  exact (sampleMade_iff declinedStore_valid).mpr (declinedStore_handled entry hentry)

/-- The gate over the declined decision returns a report with one sample. -/
def DeclinedGateReports : Prop :=
  ∃ report, runAuditGateValidation [declinedDecision.traceId] (inMemoryStore [declinedRecord])
      sampleGateConfig = .ok report ∧
    (report.status = .passed ↔ GatePasses [declinedDecision.traceId]
      (inMemoryStore [declinedRecord]) sampleGateConfig) ∧ report.sampleCount = 1

end GateTotality

theorem gate_verdict_declined : @DeclinedGateReports hashlibSha256 := by
  obtain ⟨report, hreport⟩ := @declinedStore_gate hashlibSha256
  obtain ⟨hverdict, hsamples, -, -, -, hcount, -⟩ :=
    @gate_verdict hashlibSha256 _ _ _ report hreport
  exact ⟨report, hreport, hverdict, hcount.trans hsamples.length_eq.symm⟩

end TaModel.Audit
