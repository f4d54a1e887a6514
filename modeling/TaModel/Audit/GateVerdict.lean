import TaModel.Audit.Gate
import TaModel.Audit.Soundness

/-!
# The verdict of the audit gate

A gate run that returns has one sample for each trace id, in order, and passes exactly when the ids
and their replays are as the policy asks (`GatePasses`). The step is `gateBlockers_eq_nil_iff`: each
source of blockers is empty exactly when its condition holds. A placeholder for a blank id is never
the id of a replay that passes, since the ids of decisions end in upper-case hex digits.
-/

set_option autoImplicit false

namespace TaModel.Audit

open Contracts

/-! ## Trace ids -/

/-- No id is blank exactly when there is no policy error. -/
theorem traceIdPolicyErrors_eq_nil_iff (traceIds : List String) :
    traceIdPolicyErrors traceIds = [] ↔ ∀ traceId ∈ traceIds, strip traceId ≠ "" := by
  have herror : ∀ index traceId, traceIdPolicyError index traceId = none ↔ strip traceId ≠ "" := by
    intro index traceId
    simp only [traceIdPolicyError]
    split_ifs with hblank
    · exact ⟨nofun, fun h => absurd hblank h⟩
    · exact ⟨fun _ => hblank, fun _ => rfl⟩
  simp only [traceIdPolicyErrors, List.filterMap_eq_nil_iff, herror]
  constructor
  · intro h traceId hmem
    obtain ⟨index, hindex, rfl⟩ := List.getElem_of_mem hmem
    exact h (traceIds[index], index) (List.mk_mem_zipIdx_iff_getElem?.mpr
      (List.getElem?_eq_getElem hindex))
  · rintro h ⟨traceId, index⟩ hmem
    exact h traceId (List.mem_of_getElem? (List.mk_mem_zipIdx_iff_getElem?.mp hmem))

/-- Without blank ids the manifest lists the stripped ids. -/
theorem normalizeTraceIds_of_nonblank {traceIds : List String}
    (h : ∀ traceId ∈ traceIds, strip traceId ≠ "") :
    normalizeTraceIds traceIds = traceIds.map strip := by
  have hmap : ∀ entry ∈ traceIds.zipIdx, normalizeTraceId entry.2 entry.1 = strip entry.1 := by
    rintro ⟨traceId, index⟩ hmem
    exact if_neg (h traceId (List.mem_of_getElem? (List.mk_mem_zipIdx_iff_getElem?.mp hmem)))
  have hfst : (traceIds.zipIdx.map Prod.fst).map strip =
      traceIds.zipIdx.map fun entry => strip entry.1 := List.map_map
  calc normalizeTraceIds traceIds
      = traceIds.zipIdx.map fun entry => strip entry.1 := List.map_congr_left hmap
    _ = (traceIds.zipIdx.map Prod.fst).map strip := hfst.symm
    _ = traceIds.map strip := by rw [List.zipIdx_map_fst]

/-- The manifest numbers its ids as the caller does. -/
theorem zipIdx_normalizeTraceIds (traceIds : List String) :
    (normalizeTraceIds traceIds).zipIdx =
      traceIds.zipIdx.map fun entry => (normalizeTraceId entry.2 entry.1, entry.2) := by
  apply List.ext_getElem
  · simp [normalizeTraceIds]
  · intro index hleft hright
    simp [normalizeTraceIds]

section Ids

variable [Sha256]

omit [Sha256] in
/-- An upper-cased hex digit is a digit or one of the letters up to `F`. -/
theorem toUpper_hexDigit_lt {c : Char}
    (h : (c.isDigit || (decide ('a' ≤ c) && decide (c ≤ 'f'))) = true) :
    c.toUpper.toNat < 'I'.toNat := by
  have hall : ∀ n : Fin 128, (let d := Char.ofNat n.val
      (d.isDigit || (decide ('a' ≤ d) && decide (d ≤ 'f'))) = true →
        d.toUpper.toNat < 'I'.toNat) := by decide
  have hsmall : c.toNat < 128 := by
    simp only [Bool.or_eq_true, Bool.and_eq_true, decide_eq_true_eq, Char.isDigit,
      UInt32.le_iff_toNat_le, ge_iff_le] at h
    rcases h with ⟨-, hhi⟩ | ⟨-, hhi⟩
    · exact lt_of_le_of_lt hhi (by decide)
    · exact lt_of_le_of_lt (UInt32.le_iff_toNat_le.mp hhi) (by decide)
  have hthis := hall ⟨c.toNat, hsmall⟩
  simp only [Char.ofNat_toNat c] at hthis
  exact hthis h

/-- The ids of decisions have no `I` in them. -/
theorem not_isBlankPlaceholder_of_decision {decision : StrategyDecision}
    (h : decision.validate = .ok ()) : isBlankPlaceholder decision.traceId = false := by
  have hnot : 'I' ∉ decision.traceId.toList := by
    rw [StrategyDecision.traceId_of_validate h, StrategyDecision.buildTraceId, stableId]
    simp only [String.toList_append, String.toList_ofList, Library.chars_eq_toList,
      List.mem_append]
    rintro ((hlabel | hcolon) | hdigit)
    · exact absurd hlabel (by decide)
    · exact absurd hcolon (by decide)
    · -- a digit of the digest
      obtain ⟨c, hc, hupper⟩ := List.mem_map.mp hdigit
      have hhash := isHexDigest_hash (.record
        [ ("decision_ts", toPayload decision.decisionTs),
          ("policy_hash", .text decision.policyHash),
          ("source_forecast_id", .text decision.sourceForecastId),
          ("strategy_run_id", .text decision.strategyRunId) ])
      rw [isHexDigest_iff] at hhash
      have hlt := toUpper_hexDigit_lt (hhash.2 c (List.mem_of_mem_take hc))
      rw [hupper] at hlt
      exact lt_irrefl _ hlt
  rw [← Bool.not_eq_true]
  intro hprefix
  have hsub := (List.isPrefixOf_iff_prefix.mp hprefix).subset
  exact hnot (hsub (by decide))

/-- A replay that does not fail is not one of a placeholder. -/
theorem not_isBlankPlaceholder_of_replay {traceId : String}
    {resolver : DecisionTraceEvidenceResolver} {report : DecisionTraceReplayReport}
    (h : replayDecisionTraceById traceId resolver = .ok report) (hstatus : report.status ≠ .failed) :
    isBlankPlaceholder (strip traceId) = false := by
  rcases replayDecisionTraceById_cases h with
    ⟨hfailed, -⟩ | ⟨evidence, -, ⟨hrecord, -⟩ | ⟨_, _, _, hrecord, -⟩⟩
  · exact absurd hfailed hstatus
  · rw [← hrecord.ids.decision_id]
    exact not_isBlankPlaceholder_of_decision hrecord.artifacts.decision
  · rw [← hrecord.ids.decision_id]
    exact not_isBlankPlaceholder_of_decision hrecord.artifacts.decision

end Ids

/-! ## Sources of blockers -/

theorem blockersUnless_eq_nil_iff {met : Prop} [Decidable met]
    {blocker : Raises AuditGateValidationBlocker} :
    blockersUnless met blocker = .ok [] ↔ met := by
  simp only [blockersUnless]
  split_ifs with hmet
  · exact ⟨fun _ => hmet, fun _ => rfl⟩
  · constructor
    · intro h
      obtain ⟨b, -, hnil⟩ := (map_eq_ok_iff _ _ _).mp h
      cases hnil
    · intro h
      exact absurd h hmet

theorem manifestTracePolicyBlockers_eq_nil_iff {manifest : AuditGateRunManifest} :
    manifestTracePolicyBlockers manifest = .ok [] ↔
      manifest.traceIdPolicyErrors = [] ∧ manifest.traceIds.Nodup := by
  rw [← Library.repeatedItems_eq_nil_iff]
  by_cases hrepeated : Library.repeatedItems manifest.traceIds = []
  · simp only [manifestTracePolicyBlockers, duplicateTraceIds, hrepeated, bind_eq_ok_iff,
      mapM_eq_ok_iff, ne_eq, not_true_eq_false, if_false, and_true]
    constructor
    · rintro ⟨blank, hblank, hnil⟩
      rw [Except.ok.inj hnil] at hblank
      exact List.forall₂_nil_right_iff.mp hblank
    · intro herrors
      rw [herrors]
      exact ⟨[], .nil, rfl⟩
  · simp only [manifestTracePolicyBlockers, duplicateTraceIds, hrepeated, bind_eq_ok_iff, ne_eq,
      not_false_eq_true, if_true, and_false, iff_false]
    rintro ⟨blank, -, blocker, -, hnil⟩
    exact absurd (Except.ok.inj hnil)
      (List.append_ne_nil_of_right_ne_nil _ (List.cons_ne_nil _ _))

theorem sampleManifestMismatchBlockers_eq_nil_iff {manifest : AuditGateRunManifest}
    {samples : List AuditGateTraceSampleResult} :
    sampleManifestMismatchBlockers manifest samples = .ok [] ↔
      samples.map AuditGateTraceSampleResult.traceId = manifest.traceIds := by
  simp only [sampleManifestMismatchBlockers]
  split_ifs with hsame
  · exact ⟨fun _ => hsame, fun _ => rfl⟩
  · constructor
    · intro h
      obtain ⟨blocker, -, hnil⟩ := (bind_eq_ok_iff _ _ _).mp h
      cases hnil
    · intro h
      exact absurd h hsame

section Verdict

variable [Sha256]

/-- A sample gives no blocker when its evidence is complete and its replay did not fail. -/
theorem sampleBlockers_eq_nil_iff {sample : AuditGateTraceSampleResult} :
    sampleBlockers sample = .ok [] ↔
      sampleReplayEvidenceError sample = none ∧ sample.replayStatus ≠ .failed := by
  simp only [sampleBlockers, bind_eq_ok_iff, mapM_eq_ok_iff]
  split_ifs with hstatus hblockers
  · constructor
    · rintro ⟨invalid, hinvalid, hnil⟩
      rw [Except.ok.inj hnil, List.forall₂_nil_right_iff, Option.toList_eq_nil_iff] at hinvalid
      exact ⟨hinvalid, hstatus⟩
    · rintro ⟨hnone, -⟩
      rw [hnone]
      exact ⟨[], .nil, rfl⟩
  · constructor
    · rintro ⟨invalid, -, hrest⟩
      obtain ⟨found, hfound, hnil⟩ := (bind_eq_ok_iff _ _ _).mp hrest
      obtain ⟨-, rfl⟩ := List.append_eq_nil_iff.mp (Except.ok.inj hnil)
      rw [replayBlockers, mapM_eq_ok_iff, List.forall₂_nil_right_iff] at hfound
      exact absurd hfound hblockers
    · rintro ⟨-, hnot⟩
      exact absurd hnot hstatus
  · constructor
    · rintro ⟨invalid, -, hrest⟩
      obtain ⟨blocker, -, hnil⟩ := (bind_eq_ok_iff _ _ _).mp hrest
      exact absurd (Except.ok.inj hnil) (List.append_ne_nil_of_right_ne_nil _ nofun)
    · rintro ⟨-, hnot⟩
      exact absurd hnot hstatus

/-- What the sample policy asks of a manifest and its samples. -/
structure PolicyMet (manifest : AuditGateRunManifest) (samples : List AuditGateTraceSampleResult) :
    Prop where
  enough : manifest.samplePolicy.minimumSampleCount ≤ (eligibleUniqueTraceIds manifest).length
  noOrder : manifest.samplePolicy.requireNoOrderSample = true → countSamples samples .noOrder ≠ 0
  passing : manifest.samplePolicy.requireAllReplaysPassing = true →
    ∀ sample ∈ samples, sample.replayStatus ≠ .failed

omit [Sha256] in
theorem samplePolicyBlockers_eq_nil_iff {manifest : AuditGateRunManifest}
    {samples : List AuditGateTraceSampleResult} :
    samplePolicyBlockers manifest samples = .ok [] ↔ PolicyMet manifest samples := by
  simp only [samplePolicyBlockers, bind_eq_ok_iff, Except.ok.injEq, List.append_eq_nil_iff]
  constructor
  · rintro ⟨_, htooFew, _, hnoOrder, _, hfailing, ⟨rfl, rfl⟩, rfl⟩
    refine ⟨blockersUnless_eq_nil_iff.mp htooFew, ?_, ?_⟩
    · intro hrequired hzero
      exact blockersUnless_eq_nil_iff.mp hnoOrder ⟨hrequired, hzero⟩
    · intro hrequired sample hmem hfailed
      exact blockersUnless_eq_nil_iff.mp hfailing ⟨hrequired, sample, hmem, hfailed⟩
  · rintro ⟨henough, hnoOrder, hpassing⟩
    refine ⟨[], blockersUnless_eq_nil_iff.mpr henough, [], blockersUnless_eq_nil_iff.mpr ?_, [],
      blockersUnless_eq_nil_iff.mpr ?_, ⟨rfl, rfl⟩, rfl⟩
    · rintro ⟨hrequired, hzero⟩
      exact hnoOrder hrequired hzero
    · rintro ⟨hrequired, sample, hmem, hfailed⟩
      exact hpassing hrequired sample hmem hfailed

/-- A manifest and samples that give no blocker. -/
structure Unblocked (manifest : AuditGateRunManifest)
    (samples : List AuditGateTraceSampleResult) : Prop where
  nonblank : manifest.traceIdPolicyErrors = []
  distinct : manifest.traceIds.Nodup
  sameIds : samples.map AuditGateTraceSampleResult.traceId = manifest.traceIds
  complete : ∀ sample ∈ samples, sampleReplayEvidenceError sample = none
  not_failed : ∀ sample ∈ samples, sample.replayStatus ≠ .failed
  policy : PolicyMet manifest samples

theorem gateBlockers_eq_nil_iff {manifest : AuditGateRunManifest}
    {samples : List AuditGateTraceSampleResult} :
    gateBlockers manifest samples = .ok [] ↔ Unblocked manifest samples := by
  simp only [gateBlockers, bind_eq_ok_iff, mapM_eq_ok_iff, Except.ok.injEq,
    List.append_eq_nil_iff]
  constructor
  · rintro ⟨_, htrace, _, hmismatch, found, hfound, _, hpolicy, ⟨⟨rfl, rfl⟩, hflat⟩, rfl⟩
    obtain ⟨hnonblank, hdistinct⟩ := manifestTracePolicyBlockers_eq_nil_iff.mp htrace
    have hsample : ∀ sample ∈ samples,
        sampleReplayEvidenceError sample = none ∧ sample.replayStatus ≠ .failed := by
      intro sample hmem
      obtain ⟨blockers, hblockers, hsample⟩ := Library.exists_of_mem_right hfound.flip hmem
      rw [List.flatten_eq_nil_iff.mp hflat blockers hblockers] at hsample
      exact sampleBlockers_eq_nil_iff.mp hsample
    exact ⟨hnonblank, hdistinct, sampleManifestMismatchBlockers_eq_nil_iff.mp hmismatch,
      fun sample hmem => (hsample sample hmem).1, fun sample hmem => (hsample sample hmem).2,
      samplePolicyBlockers_eq_nil_iff.mp hpolicy⟩
  · intro h
    refine ⟨[], manifestTracePolicyBlockers_eq_nil_iff.mpr ⟨h.nonblank, h.distinct⟩, [],
      sampleManifestMismatchBlockers_eq_nil_iff.mpr h.sameIds, samples.map fun _ => [], ?_, [],
      samplePolicyBlockers_eq_nil_iff.mpr h.policy, ⟨⟨rfl, rfl⟩, ?_⟩, rfl⟩
    · apply List.forall₂_map_right_iff.mpr
      apply List.forall₂_same.mpr
      intro sample hmem
      exact sampleBlockers_eq_nil_iff.mpr ⟨h.complete sample hmem, h.not_failed sample hmem⟩
    · apply List.flatten_eq_nil_iff.mpr
      intro blockers hmem
      obtain ⟨sample, -, rfl⟩ := List.mem_map.mp hmem
      rfl

/-! ## The run -/

variable {traceIds : List String} {resolver : DecisionTraceEvidenceResolver}
  {config : AuditGateRunConfig} {report : AuditGateValidationReport}

/-- The sample of a trace id at an index of the request. -/
structure SampleOf (resolver : DecisionTraceEvidenceResolver) (entry : String × Nat)
    (sample : AuditGateTraceSampleResult) : Prop where
  index : sample.sampleIndex = entry.2
  traceId : sample.traceId = normalizeTraceId entry.2 entry.1
  replay : replayDecisionTraceById sample.traceId resolver = .ok sample.replayReport
  status : sample.replayStatus = sample.replayReport.status

theorem sampleDraft_validateFields_iff {index : Nat} {replay : DecisionTraceReplayReport} :
    (sampleDraft index replay).validateFields = .ok () ↔
      isCanonicalId replay.traceId = true ∧
        sampleReplayEvidenceError (sampleDraft index replay) = none := by
  simp only [AuditGateTraceSampleResult.validateFields, check_bind_eq_ok_iff, require_eq_ok_iff,
    AuditGateTraceSampleResult.validateAlignment, requireEvidence_eq_ok_iff]
  constructor
  · rintro ⟨hcanonical, -, -, -, hevidence, -⟩
    exact ⟨hcanonical, hevidence⟩
  · rintro ⟨hcanonical, hevidence⟩
    exact ⟨hcanonical, rfl, rfl, ⟨rfl, rfl, rfl, rfl⟩, hevidence, rfl, rfl⟩

/-- A sample that is returned is the sealed draft over its replay, with complete evidence. -/
theorem replaySample_eq_ok_iff {entry : String × Nat} {sample : AuditGateTraceSampleResult} :
    replaySample resolver entry = .ok sample ↔
      ∃ replay, replayDecisionTraceById entry.1 resolver = .ok replay ∧
        isCanonicalId replay.traceId = true ∧
        sampleReplayEvidenceError (sampleDraft entry.2 replay) = none ∧
        sample = AuditGateTraceSampleResult.stamping.sealed (sampleDraft entry.2 replay) := by
  simp only [replaySample, bind_eq_ok_iff, makeAuditGateTraceSampleResult,
    Library.Stamping.construct_eq_ok_iff]
  constructor
  · rintro ⟨replay, hreplay, hfields, rfl⟩
    obtain ⟨hcanonical, hevidence⟩ := sampleDraft_validateFields_iff.mp hfields
    exact ⟨replay, hreplay, hcanonical, hevidence, rfl⟩
  · rintro ⟨replay, hreplay, hcanonical, hevidence, rfl⟩
    exact ⟨replay, hreplay, sampleDraft_validateFields_iff.mpr ⟨hcanonical, hevidence⟩, rfl⟩

/-- A manifest over trace ids and the samples of its ids. -/
structure GateSamples (traceIds : List String) (resolver : DecisionTraceEvidenceResolver)
    (config : AuditGateRunConfig) (manifest : AuditGateRunManifest)
    (samples : List AuditGateTraceSampleResult) : Prop where
  ids : manifest.traceIds = normalizeTraceIds traceIds
  errors : manifest.traceIdPolicyErrors = traceIdPolicyErrors traceIds
  policy : manifest.samplePolicy = config.samplePolicy
  canonical : ∀ traceId ∈ manifest.traceIds, isCanonicalId traceId = true
  replayed : List.Forall₂ (fun entry sample => replaySample resolver entry = .ok sample)
    manifest.traceIds.zipIdx samples

/-- What a run that returns went through. -/
structure GateRun (traceIds : List String) (resolver : DecisionTraceEvidenceResolver)
    (config : AuditGateRunConfig) (manifest : AuditGateRunManifest)
    (samples : List AuditGateTraceSampleResult) (blockers : List AuditGateValidationBlocker) :
    Prop extends GateSamples traceIds resolver config manifest samples where
  found : gateBlockers manifest samples = .ok blockers

theorem gateRun_of_returns (h : runAuditGateValidation traceIds resolver config = .ok report) :
    ∃ manifest samples blockers,
      GateRun traceIds resolver config manifest samples blockers ∧
      report = AuditGateValidationReport.stamping.sealed
        (validationReportDraft manifest samples blockers) := by
  simp only [runAuditGateValidation, makeAuditGateRunManifest, makeAuditGateValidationReport,
    bind_eq_ok_iff, mapM_eq_ok_iff, Library.Stamping.construct_eq_ok_iff] at h
  obtain ⟨manifest, ⟨hmanifest, rfl⟩, samples, hsamples, blockers, hblockers, -, rfl⟩ := h
  have hfields : (manifestDraft config traceIds).validateFields = .ok () := hmanifest
  simp only [AuditGateRunManifest.validateFields, check_bind_eq_ok_iff, require_eq_ok_iff] at hfields
  exact ⟨AuditGateRunManifest.stamping.sealed (manifestDraft config traceIds), samples, blockers,
    ⟨⟨rfl, rfl, rfl, hfields.1, hsamples⟩, hblockers⟩, rfl⟩

variable {manifest : AuditGateRunManifest} {samples : List AuditGateTraceSampleResult}
  {blockers : List AuditGateValidationBlocker}

/-- The samples of a run are those of its trace ids, and their evidence is complete. -/
theorem GateSamples.sampleOf (h : GateSamples traceIds resolver config manifest samples) :
    List.Forall₂ (fun entry sample => SampleOf resolver entry sample ∧
      sampleReplayEvidenceError sample = none) traceIds.zipIdx samples := by
  have hsamples := h.replayed
  have hcanonical := h.canonical
  rw [h.ids, zipIdx_normalizeTraceIds, List.forall₂_map_left_iff] at hsamples
  have hmem : List.Forall₂ (fun entry sample => entry ∈ traceIds.zipIdx ∧
      replaySample resolver (normalizeTraceId entry.2 entry.1, entry.2) = .ok sample)
      traceIds.zipIdx samples :=
    (List.forall₂_and_left _ _).mpr ⟨fun entry hentry => hentry, hsamples⟩
  refine hmem.imp ?_
  rintro entry sample ⟨hentry, hsample⟩
  obtain ⟨replay, hreplay, -, hevidence, rfl⟩ := replaySample_eq_ok_iff.mp hsample
  have hid : isCanonicalId (normalizeTraceId entry.2 entry.1) = true := by
    apply hcanonical
    rw [h.ids]
    exact List.mem_map.mpr ⟨entry, hentry, rfl⟩
  have hstrip := strip_of_isCanonicalId hid
  have hblank : strip (normalizeTraceId entry.2 entry.1) ≠ "" := shown_of_isCanonicalId hid
  have htrace := (traceId_of_replay hreplay hblank).trans hstrip
  refine ⟨⟨rfl, htrace, ?_, rfl⟩, hevidence⟩
  show replayDecisionTraceById replay.traceId resolver = .ok replay
  rw [htrace]
  exact hreplay

/-- The samples of a run list the ids of its manifest. -/
theorem GateSamples.sampleIds (h : GateSamples traceIds resolver config manifest samples) :
    samples.map AuditGateTraceSampleResult.traceId = manifest.traceIds := by
  rw [h.ids, normalizeTraceIds]
  exact (Library.map_eq_of_forall₂ h.sampleOf fun _ _ hsample => hsample.1.traceId.symm).symm

/-! ## The verdict -/

/-- What the audit gate asks of trace ids and their replays. -/
structure GatePasses (traceIds : List String) (resolver : DecisionTraceEvidenceResolver)
    (config : AuditGateRunConfig) : Prop where
  nonblank : ∀ traceId ∈ traceIds, strip traceId ≠ ""
  distinct : (traceIds.map strip).Nodup
  enough : config.samplePolicy.minimumSampleCount ≤ (traceIds.map strip).length
  replays : ∀ traceId ∈ traceIds.map strip, ∃ replay,
    replayDecisionTraceById traceId resolver = .ok replay ∧
      (replay.status = .passed ∨ replay.status = .noOrder)
  noOrder : config.samplePolicy.requireNoOrderSample = true → ∃ traceId ∈ traceIds.map strip,
    ∃ replay, replayDecisionTraceById traceId resolver = .ok replay ∧ replay.status = .noOrder

/-- The sample of an id of a manifest, and the other way round. -/
theorem GateSamples.sample_of_id (h : GateSamples traceIds resolver config manifest samples)
    {traceId : String} (hmem : traceId ∈ manifest.traceIds) :
    ∃ sample ∈ samples, sample.traceId = traceId ∧
      replayDecisionTraceById traceId resolver = .ok sample.replayReport ∧
      sample.replayStatus = sample.replayReport.status := by
  rw [← h.sampleIds] at hmem
  obtain ⟨sample, hsample, rfl⟩ := List.mem_map.mp hmem
  obtain ⟨entry, -, hof, -⟩ := Library.exists_of_mem_right h.sampleOf hsample
  exact ⟨sample, hsample, rfl, hof.replay, hof.status⟩

theorem GateSamples.id_of_sample (h : GateSamples traceIds resolver config manifest samples)
    {sample : AuditGateTraceSampleResult} (hmem : sample ∈ samples) :
    sample.traceId ∈ manifest.traceIds ∧
      replayDecisionTraceById sample.traceId resolver = .ok sample.replayReport ∧
      sample.replayStatus = sample.replayReport.status := by
  obtain ⟨entry, -, hof, -⟩ := Library.exists_of_mem_right h.sampleOf hmem
  refine ⟨?_, hof.replay, hof.status⟩
  rw [← h.sampleIds]
  exact List.mem_map_of_mem hmem

omit [Sha256] in
theorem countSamples_ne_zero_iff {status : DecisionTraceReplayStatus} :
    countSamples samples status ≠ 0 ↔ ∃ sample ∈ samples, sample.replayStatus = status := by
  simp only [countSamples, ne_eq, List.countP_eq_zero, decide_eq_true_eq]
  push Not
  rfl

omit [Sha256] in
/-- Every sample has one of three statuses. -/
theorem countSamples_sum (samples : List AuditGateTraceSampleResult) :
    countSamples samples .passed + countSamples samples .noOrder + countSamples samples .failed =
      samples.length := by
  induction samples with
  | nil => rfl
  | cons sample samples ih =>
      simp only [countSamples, List.countP_cons, List.length_cons] at ih ⊢
      cases sample.replayStatus <;> simp <;> omega

/-- Distinct ids that are no placeholders are all eligible. -/
theorem GateRun.eligible (h : GateRun traceIds resolver config manifest samples blockers)
    (hdistinct : manifest.traceIds.Nodup)
    (hnot : ∀ sample ∈ samples, sample.replayStatus ≠ .failed) :
    eligibleUniqueTraceIds manifest = manifest.traceIds := by
  have hfilter : (manifest.traceIds.filter fun traceId => !isBlankPlaceholder traceId) =
      manifest.traceIds := by
    apply List.filter_eq_self.mpr
    intro traceId hmem
    obtain ⟨sample, hsample, -, hreplay, hstatus⟩ := h.sample_of_id hmem
    have hpasses := hnot sample hsample
    rw [hstatus] at hpasses
    have hplain := not_isBlankPlaceholder_of_replay hreplay hpasses
    rw [strip_of_isCanonicalId (h.canonical traceId hmem)] at hplain
    rw [hplain]
    rfl
  rw [eligibleUniqueTraceIds, hfilter]
  exact Library.firstOccurrences_of_nodup hdistinct

omit [Sha256] in
theorem length_eligibleUniqueTraceIds_le :
    (eligibleUniqueTraceIds manifest).length ≤ manifest.traceIds.length :=
  le_trans (Library.length_firstOccurrences_le _) (List.length_filter_le _ _)

/-- A run has no blocker exactly when the gate passes. -/
theorem GateRun.unblocked_iff (h : GateRun traceIds resolver config manifest samples blockers) :
    Unblocked manifest samples ↔ GatePasses traceIds resolver config := by
  constructor
  · intro hfree
    have hnonblank : ∀ traceId ∈ traceIds, strip traceId ≠ "" := by
      rw [← traceIdPolicyErrors_eq_nil_iff, ← h.errors]
      exact hfree.nonblank
    have hids : manifest.traceIds = traceIds.map strip := by
      rw [h.ids, normalizeTraceIds_of_nonblank hnonblank]
    refine ⟨hnonblank, ?_, ?_, ?_, ?_⟩
    · rw [← hids]
      exact hfree.distinct
    · rw [← hids, ← h.policy]
      exact le_trans hfree.policy.enough length_eligibleUniqueTraceIds_le
    · intro traceId hmem
      rw [← hids] at hmem
      obtain ⟨sample, hsample, -, hreplay, hstatus⟩ := h.sample_of_id hmem
      have hnot := hfree.not_failed sample hsample
      rw [hstatus] at hnot
      refine ⟨_, hreplay, ?_⟩
      cases hcase : sample.replayReport.status with
      | passed => exact .inl rfl
      | noOrder => exact .inr rfl
      | failed => exact absurd hcase hnot
    · intro hrequired
      rw [← h.policy] at hrequired
      obtain ⟨sample, hsample, hnoOrder⟩ :=
        countSamples_ne_zero_iff.mp (hfree.policy.noOrder hrequired)
      obtain ⟨hmem, hreplay, hstatus⟩ := h.id_of_sample hsample
      rw [hids] at hmem
      exact ⟨_, hmem, _, hreplay, hstatus.symm.trans hnoOrder⟩
  · intro hpasses
    have hids : manifest.traceIds = traceIds.map strip := by
      rw [h.ids, normalizeTraceIds_of_nonblank hpasses.nonblank]
    have hnot : ∀ sample ∈ samples, sample.replayStatus ≠ .failed := by
      intro sample hsample hfailed
      obtain ⟨hmem, hreplay, hstatus⟩ := h.id_of_sample hsample
      rw [hids] at hmem
      obtain ⟨replay, hreplay', hcase⟩ := hpasses.replays _ hmem
      obtain rfl : replay = sample.replayReport :=
        Except.ok.inj (hreplay'.symm.trans hreplay)
      rw [← hstatus, hfailed] at hcase
      rcases hcase with hcase | hcase <;> cases hcase
    have hdistinct : manifest.traceIds.Nodup := by
      rw [hids]
      exact hpasses.distinct
    refine ⟨?_, hdistinct, h.sampleIds, ?_, hnot, ?_, ?_, fun _ => hnot⟩
    · rw [h.errors, traceIdPolicyErrors_eq_nil_iff]
      exact hpasses.nonblank
    · intro sample hsample
      obtain ⟨entry, -, -, hevidence⟩ := Library.exists_of_mem_right h.sampleOf hsample
      exact hevidence
    · rw [h.eligible hdistinct hnot, h.policy, hids]
      exact hpasses.enough
    · intro hrequired
      rw [h.policy] at hrequired
      obtain ⟨traceId, hmem, replay, hreplay, hnoOrder⟩ := hpasses.noOrder hrequired
      rw [← hids] at hmem
      obtain ⟨sample, hsample, -, hreplay', hstatus⟩ := h.sample_of_id hmem
      obtain rfl : replay = sample.replayReport :=
        Except.ok.inj (hreplay.symm.trans hreplay')
      exact countSamples_ne_zero_iff.mpr ⟨sample, hsample, hstatus.trans hnoOrder⟩

/-- The report of a run passes exactly when there is no blocker: a failed sample always has one. -/
theorem GateRun.derivedStatus_iff (h : GateRun traceIds resolver config manifest samples blockers) :
    derivedStatus blockers (countSamples samples .failed) = .passed ↔
      Unblocked manifest samples := by
  rw [← gateBlockers_eq_nil_iff, h.found, Except.ok.injEq]
  simp only [derivedStatus]
  split_ifs with hfailed
  · constructor
    · intro hstatus
      cases hstatus
    · rintro rfl
      have hfree := gateBlockers_eq_nil_iff.mp h.found
      rcases hfailed with hne | hcount
      · exact absurd rfl hne
      · obtain ⟨sample, hsample, hstatus⟩ := countSamples_ne_zero_iff.mp hcount
        exact absurd hstatus (hfree.not_failed sample hsample)
  · push Not at hfailed
    exact ⟨fun _ => hfailed.1, fun _ => rfl⟩

/-- The verdict, the samples and the counts of a gate run that returns a report. -/
theorem gate_verdict (traceIds : List String) (resolver : DecisionTraceEvidenceResolver)
    (config : AuditGateRunConfig) (report : AuditGateValidationReport)
    (h : runAuditGateValidation traceIds resolver config = .ok report) :
    (report.status = .passed ↔ GatePasses traceIds resolver config) ∧
    List.Forall₂ (SampleOf resolver) traceIds.zipIdx report.samples ∧
    report.passedCount = countSamples report.samples .passed ∧
    report.noOrderCount = countSamples report.samples .noOrder ∧
    report.failedCount = countSamples report.samples .failed ∧
    report.sampleCount = report.samples.length ∧
    report.passedCount + report.noOrderCount + report.failedCount = report.sampleCount := by
  obtain ⟨manifest, samples, blockers, hrun, rfl⟩ := gateRun_of_returns h
  refine ⟨?_, hrun.sampleOf.imp fun _ _ hsample => hsample.1, rfl, rfl, rfl, rfl,
    countSamples_sum samples⟩
  show derivedStatus blockers (countSamples samples .failed) = .passed ↔ _
  rw [hrun.derivedStatus_iff, hrun.unblocked_iff]

end Verdict

end TaModel.Audit
