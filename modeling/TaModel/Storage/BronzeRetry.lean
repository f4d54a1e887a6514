import TaModel.Storage.BronzeRuns

/-!
# Retrying an interrupted bronze persist

After any sequence of `persist` calls, interrupted or not, a retry should succeed, its reference
should read as the payload, and what was persisted before should stay readable. `persist` takes an
object file that is there for a complete object: a call that was interrupted between opening the
object file and the end of its sidecar leaves an object that no later call accepts or repairs.

`bronze_retry_iff` gives the exact condition, in terms of the first call that opens each object
file. What was persisted stays readable in any case (`read_after_runCalls`).
-/

set_option autoImplicit false

namespace TaModel.Storage

open Contracts Library

namespace FilesystemBronzePayloadStore

variable (store : FilesystemBronzePayloadStore)

section Retry

variable [ModelValidateJson]

/-- `model_validate_json` reads the sidecars these calls write, and rejects them cut short. -/
structure ReadsSidecars (calls : List PersistCall) : Prop where
  reads_back : ∀ call ∈ calls, ∀ hne : call.payload ≠ [], ∃ stored,
    ModelValidateJson.modelValidateJson
        (sidecarText (store.buildReference call.metadata call.payload hne)) = .ok stored ∧
      stored.same (store.buildReference call.metadata call.payload hne) = true
  rejects_truncated : ∀ call ∈ calls, ∀ hne : call.payload ≠ [], ∀ n stored,
    n < (sidecarText (store.buildReference call.metadata call.payload hne)).length →
      ModelValidateJson.modelValidateJson
        ((sidecarText (store.buildReference call.metadata call.payload hne)).take n) ≠ .ok stored

/-- What has to hold after a sequence of calls. A call with an empty payload raises before its
first file-system step. -/
structure RetrySafe (fs : Files) (calls : List PersistCall) : Prop where
  retry : ∀ call ∈ calls, call.payload ≠ [] →
    ∃ reference,
      (store.persist call.payload call.metadata (store.runCalls calls fs)).2 = .ok reference ∧
      store.read reference
        (store.persist call.payload call.metadata (store.runCalls calls fs)).1 = .ok call.payload
  kept : ∀ before call later reference, calls = before ++ call :: later →
    call.interruptedAfter = none →
    (store.persist call.payload call.metadata (store.runCalls before fs)).2 = .ok reference →
      store.read reference (store.runCalls calls fs) = .ok call.payload

end Retry

/-- The call, once it opens the object file, gets to the end of its sidecar. -/
def Completes (call : PersistCall) : Prop :=
  ∀ hne : call.payload ≠ [],
    call.payload.length +
        (sidecarText (store.buildReference call.metadata call.payload hne)).length + 2 ≤
      store.writeCount call (store.buildReference call.metadata call.payload hne)

/-- Two calls store the same payload under the same reference, given that the path is the same. -/
def StoreSame (a b : PersistCall) : Prop :=
  a.payload = b.payload ∧ a.metadata.sourceId = b.metadata.sourceId ∧
    a.metadata.contentType = b.metadata.contentType ∧
    a.metadata.fetchedAt.utc = b.metadata.fetchedAt.utc

/-- For every call, the first call that opens its object file completes, and stores the same. -/
def RetryCondition (calls : List PersistCall) : Prop :=
  ∀ call ∈ calls, call.payload ≠ [] →
    ∀ writer ∈ store.firstWriter calls (store.callPath call),
      store.Completes writer ∧ StoreSame writer call

variable {store}

/-! ## References of calls on one path -/

theorem same_buildReference_iff {a b : PersistCall} (ha : a.payload ≠ []) (hb : b.payload ≠ [])
    (hpath : store.callPath a = store.callPath b) (hpayload : a.payload = b.payload) :
    (store.buildReference a.metadata a.payload ha).same
        (store.buildReference b.metadata b.payload hb) = true ↔ StoreSame a b := by
  have huri : (store.buildReference a.metadata a.payload ha).uri =
      (store.buildReference b.metadata b.payload hb).uri := by
    apply Subtype.ext
    show String.ofList (fileUri (store.callPath a)) = String.ofList (fileUri (store.callPath b))
    rw [hpath]
  rw [RawPayloadReference.same_iff]
  constructor
  · rintro ⟨-, hsource, -, -, htype, hfetched, -⟩
    exact ⟨hpayload, hsource, htype, hfetched⟩
  · rintro ⟨-, hsource, htype, hfetched⟩
    refine ⟨?_, hsource, ?_, huri, htype, hfetched, ?_⟩
    · apply Subtype.ext
      show buildRawPayloadId (hashBytes a.payload) = buildRawPayloadId (hashBytes b.payload)
      rw [hpayload]
    · show contentHash a.payload = contentHash b.payload
      rw [hpayload]
    · apply Subtype.ext
      show a.payload.length = b.payload.length
      rw [hpayload]

/-! ## A call that succeeds -/

section Calls

variable [ModelValidateJson]

/-- A call that succeeds returns the reference of its payload, and the object file holds it. -/
theorem persist_ok {fs : Files} (h : store.WellPlaced fs) {call : PersistCall}
    {reference : RawPayloadReference}
    (hok : (store.persist call.payload call.metadata fs).2 = .ok reference) :
    ∃ hne : call.payload ≠ [],
      reference = store.buildReference call.metadata call.payload hne ∧
      (store.persist call.payload call.metadata fs).1.content (store.callPath call) =
        some call.payload := by
  by_cases hne : call.payload = []
  · simp only [persist, dif_pos hne] at hok
    cases hok
  · refine ⟨hne, ?_⟩
    cases hcontent : fs.content (store.callPath call) with
    | some bytes =>
        rw [persist_of_present h hne (by rw [hcontent]; rfl)] at hok ⊢
        obtain ⟨hobject, -, hreference⟩ := (checkExisting_eq_ok_iff _ _ _ _ _).mp hok
        exact ⟨hreference, hobject⟩
    | none =>
        have hdiffer : store.callPath call ≠ sidecarPath (store.callPath call) :=
          store.objectPath_ne_sidecarPath call.metadata call.metadata (contentHash call.payload)
            (contentHash call.payload)
        rw [persist_of_absent h hne hcontent] at hok ⊢
        refine ⟨(Except.ok.inj hok).symm, ?_⟩
        show FileSystem.content _ _ = _
        rw [FileSystem.content_setContent_of_ne _ hdiffer, FileSystem.content_setContent_self]

/-- The reference of a successful call reads as the payload right away. -/
theorem read_of_persist_ok {fs : Files} (h : store.WellPlaced fs) {call : PersistCall}
    {reference : RawPayloadReference}
    (hok : (store.persist call.payload call.metadata fs).2 = .ok reference) :
    store.read reference (store.persist call.payload call.metadata fs).1 = .ok call.payload := by
  obtain ⟨hne, rfl, hcontent⟩ := persist_ok h hok
  exact store.read_buildReference hne hcontent

/-- What was persisted stays readable through any later calls. -/
theorem read_after_runCalls {fs : Files} (h : store.WellPlaced fs) {call : PersistCall}
    (hcall : call.interruptedAfter = none) {reference : RawPayloadReference}
    (hok : (store.persist call.payload call.metadata fs).2 = .ok reference)
    (later : List PersistCall) :
    store.read reference (store.runCalls (call :: later) fs) = .ok call.payload := by
  obtain ⟨hne, rfl, hcontent⟩ := persist_ok h hok
  have hrun : store.runCall fs call = (store.persist call.payload call.metadata fs).1 := by
    simp only [runCall, hcall]
  rw [← hrun] at hcontent
  have hkept := @runCalls_of_present store _ _ (wellPlaced_runCall h call) later call.metadata
    (contentHash call.payload) (Option.isSome_of_eq_some hcontent)
  exact store.read_buildReference hne (hkept.1.trans hcontent)

/-! ## What a retry finds -/

/-- Where the object file was never opened, a call succeeds. -/
theorem persist_succeeds_of_absent {fs : Files} (h : store.WellPlaced fs) {call : PersistCall}
    (hne : call.payload ≠ []) (habsent : fs.content (store.callPath call) = none) :
    ∃ reference, (store.persist call.payload call.metadata fs).2 = .ok reference := by
  rw [persist_of_absent h hne habsent]
  exact ⟨_, rfl⟩

/-- Where it was, a call succeeds exactly on the complete object of the same reference. -/
theorem persist_succeeds_iff_of_leftBy {fs : Files} (h : store.WellPlaced fs)
    {writer call : PersistCall} {hwriter : writer.payload ≠ []} (hne : call.payload ≠ [])
    (hpath : store.callPath writer = store.callPath call) (hleft : LeftBy store fs writer hwriter) :
    (∃ reference, (store.persist call.payload call.metadata fs).2 = .ok reference) ↔
      fs.content (store.callPath call) = some call.payload ∧
      ∃ text stored, fs.content (sidecarPath (store.callPath call)) = some text ∧
        ModelValidateJson.modelValidateJson text = .ok stored ∧
        stored.same (store.buildReference call.metadata call.payload hne) = true := by
  have hobject := hleft.object
  rw [hpath] at hobject
  have hcontent : (store.directoriesMade call fs).content = fs.content :=
    (makeDirectories_objectDirectory h call.metadata).2.2
  rw [persist_of_present h hne (Option.isSome_of_eq_some hobject)]
  simp only [checkExisting_eq_ok_iff, hcontent]
  constructor
  · rintro ⟨reference, hpayload, hstored, -⟩
    exact ⟨hpayload, hstored⟩
  · rintro ⟨hpayload, hstored⟩
    exact ⟨_, hpayload, hstored, rfl⟩

omit [ModelValidateJson] in
/-- A complete write. -/
theorem leftBy_of_completes {fs : Files} {writer : PersistCall} {hwriter : writer.payload ≠ []}
    (hleft : LeftBy store fs writer hwriter) (hcompletes : store.Completes writer) :
    fs.content (store.callPath writer) = some writer.payload ∧
      fs.content (sidecarPath (store.callPath writer)) =
        some (sidecarText (store.buildReference writer.metadata writer.payload hwriter)) := by
  have hcount := hcompletes hwriter
  obtain ⟨hobject, hsidecar⟩ := hleft
  rw [hobject, hsidecar, if_neg (by omega), List.take_of_length_le (by omega),
    List.take_of_length_le (by omega)]
  exact ⟨rfl, rfl⟩

/-- An incomplete write is not accepted from its own call. -/
theorem completes_of_persist_succeeds {fs : Files} (h : store.WellPlaced fs) {writer : PersistCall}
    {hwriter : writer.payload ≠ []} (hleft : LeftBy store fs writer hwriter)
    {calls : List PersistCall} (hjson : store.ReadsSidecars calls) (hmem : writer ∈ calls)
    (hok : ∃ reference, (store.persist writer.payload writer.metadata fs).2 = .ok reference) :
    store.Completes writer := by
  obtain ⟨hpayload, text, stored, htext, hstored, -⟩ :=
    (persist_succeeds_iff_of_leftBy h hwriter rfl hleft).mp hok
  obtain ⟨hobject, hsidecar⟩ := hleft
  rw [hobject] at hpayload
  rw [hsidecar] at htext
  have hlength := congrArg List.length (Option.some.inj hpayload)
  rw [List.length_take] at hlength
  intro _
  by_contra hincomplete
  split_ifs at htext with hearly
  obtain rfl := Option.some.inj htext
  exact hjson.rejects_truncated writer hmem hwriter _ stored
    (by omega) hstored

/-! ## The exact condition -/

/-- A retry after a run whose first opening call completes succeeds exactly when that call stored
the same. -/
theorem persist_succeeds_iff_of_completes {fs : Files} (h : store.WellPlaced fs)
    {calls : List PersistCall} (hjson : store.ReadsSidecars calls) {writer call : PersistCall}
    (hmem : writer ∈ calls) {hwriter : writer.payload ≠ []} (hne : call.payload ≠ [])
    (hpath : store.callPath writer = store.callPath call) (hleft : LeftBy store fs writer hwriter)
    (hcompletes : store.Completes writer) :
    (∃ reference, (store.persist call.payload call.metadata fs).2 = .ok reference) ↔
      StoreSame writer call := by
  obtain ⟨hobject, hsidecar⟩ := leftBy_of_completes hleft hcompletes
  obtain ⟨stored, hstored, hsame⟩ := hjson.reads_back writer hmem hwriter
  rw [persist_succeeds_iff_of_leftBy h hne hpath hleft, ← hpath, hobject, hsidecar]
  constructor
  · rintro ⟨hpayload, text, stored', htext, hstored', hsame'⟩
    cases htext
    rw [hstored] at hstored'
    cases hstored'
    exact (same_buildReference_iff hwriter hne hpath (Option.some.inj hpayload)).mp
      (RawPayloadReference.same_trans (RawPayloadReference.same_symm hsame) hsame')
  · intro hstore
    refine ⟨congrArg some hstore.1, _, stored, rfl, hstored, ?_⟩
    exact RawPayloadReference.same_trans hsame
      ((same_buildReference_iff hwriter hne hpath hstore.1).mpr hstore)

omit [ModelValidateJson] in
theorem firstWriter_mem {calls : List PersistCall} {path : List Bytes} {writer : PersistCall}
    (h : store.firstWriter calls path = some writer) : writer ∈ calls :=
  List.mem_of_find?_eq_some h

/-- After a sequence of calls on a fresh store every retry succeeds and what was persisted stays
readable exactly when, for every call, the first call that opened its object file completed and
stored the same payload under the same reference. -/
theorem bronze_retry_iff {fs : Files} (hfresh : store.Fresh fs) {calls : List PersistCall}
    (hjson : store.ReadsSidecars calls) :
    store.RetrySafe fs calls ↔ store.RetryCondition calls := by
  have hplaced := wellPlaced_of_fresh hfresh
  have hend := wellPlaced_runCalls hplaced calls
  have habsent : ∀ call : PersistCall, fs.content (store.callPath call) = none ∧
      fs.content (sidecarPath (store.callPath call)) = none := fun call =>
    ⟨hfresh.no_files _ (Or.inr (store.root_prefix_objectPath _ _)),
      hfresh.no_files _ (Or.inr (store.root_prefix_sidecarPath _ _))⟩
  have hleft : ∀ call writer, store.firstWriter calls (store.callPath call) = some writer →
      ∃ hopens : store.Opens writer, store.callPath writer = store.callPath call ∧
        LeftBy store (store.runCalls calls fs) writer hopens.1 := fun call writer hwriter =>
    @runCalls_writer store _ fs hplaced calls call.metadata (contentHash call.payload) writer
      (habsent call).1 (habsent call).2 hwriter
  constructor
  · intro hsafe call hcall hne writer hwriter
    obtain ⟨hopens, hpath, hwritten⟩ := hleft call writer hwriter
    have hmem := firstWriter_mem hwriter
    obtain ⟨reference, hok, -⟩ := hsafe.retry writer hmem hopens.1
    have hcompletes := completes_of_persist_succeeds hend hwritten hjson hmem ⟨reference, hok⟩
    obtain ⟨reference', hok', -⟩ := hsafe.retry call hcall hne
    exact ⟨hcompletes, (persist_succeeds_iff_of_completes hend hjson hmem hne hpath hwritten
      hcompletes).mp ⟨reference', hok'⟩⟩
  · intro hcondition
    constructor
    · intro call hcall hne
      have hok : ∃ reference,
          (store.persist call.payload call.metadata (store.runCalls calls fs)).2 =
            .ok reference := by
        cases hwriter : store.firstWriter calls (store.callPath call) with
        | none =>
            apply persist_succeeds_of_absent hend hne
            have hsame := @runCalls_of_no_writer store _ fs hplaced calls call.metadata
              (contentHash call.payload) hwriter
            exact hsame.trans (habsent call).1
        | some writer =>
            obtain ⟨hopens, hpath, hwritten⟩ := hleft call writer hwriter
            obtain ⟨hcompletes, hstore⟩ := hcondition call hcall hne writer hwriter
            exact (persist_succeeds_iff_of_completes hend hjson (firstWriter_mem hwriter) hne hpath
              hwritten hcompletes).mpr hstore
      obtain ⟨reference, hreference⟩ := hok
      exact ⟨reference, hreference, read_of_persist_ok hend hreference⟩
    · rintro before call later reference rfl hcall hok
      have hbefore := wellPlaced_runCalls hplaced before
      have hread := read_after_runCalls hbefore hcall hok later
      rwa [runCalls, List.foldl_append]

end Calls

end FilesystemBronzePayloadStore

/-! ## One payload on an empty file system -/

open FilesystemBronzePayloadStore

def emptyFiles : Files := ⟨fun _ => none, fun _ => false⟩

/-- A store at `/b`. -/
def bronzeStore : FilesystemBronzePayloadStore where
  root := [[98]]
  workingDirectory := []
  root_components := by
    intro c hc
    obtain rfl := List.mem_singleton.mp hc
    exact ⟨by decide, by decide, by decide, by decide⟩

theorem bronzeStore_fresh : bronzeStore.Fresh emptyFiles :=
  ⟨fun _ _ => rfl, fun _ _ _ => rfl⟩

def approvedSource : SourceApproval where
  sourceId := ⟨"fixture-source", by decide⟩
  licenseReviewStatus := .approved
  approvedUseStatus := .backtestApproved
  reviewedAt := some ⟨1767225600000000, 0⟩
  evidenceUri := some ⟨"fixture://evidence", by decide⟩
  sourceRegisterVersion := some ⟨"v1", by decide⟩
  retentionAllowed := some true
  storageAllowed := some true
  rawPayloadStorageAllowed := some true
  eventTimeFieldsDocumented := some true
  rateLimitPolicyRef := some ⟨"fixture://rate-limit", by decide⟩

def fixtureMetadata : BronzePayloadMetadata where
  sourceId := approvedSource.sourceId
  venueId := ⟨"VENUE-1", by decide⟩
  contentType := ⟨"application/json", by decide⟩
  fetchedAt := ⟨1767225600000000, 0⟩
  sourceApproval := approvedSource
  approval_source := rfl
  approved := by decide
  fetched_at_json := by decide

/-- A call on the payload `b"1"`. -/
def fixtureCall (interruptedAfter : Option Nat) : PersistCall :=
  ⟨[49], fixtureMetadata, interruptedAfter⟩

def fixtureReference : RawPayloadReference :=
  bronzeStore.buildReference fixtureMetadata [49] (by decide)

/-- A validation library that reads the sidecar of this payload, and no other text. -/
@[reducible] def fixtureSidecars : ModelValidateJson where
  modelValidateJson text :=
    if text = sidecarText fixtureReference then .ok fixtureReference
    else .error "ValidationError: Invalid JSON"

theorem fixtureSidecars_reads {calls : List PersistCall}
    (h : ∀ call ∈ calls, ∃ interruptedAfter, call = fixtureCall interruptedAfter) :
    @ReadsSidecars bronzeStore fixtureSidecars calls := by
  let _ := fixtureSidecars
  constructor
  · intro call hcall hne
    obtain ⟨interruptedAfter, rfl⟩ := h call hcall
    refine ⟨fixtureReference, if_pos rfl, ?_⟩
    exact (RawPayloadReference.same_iff _ _).mpr ⟨rfl, rfl, rfl, rfl, rfl, rfl, rfl⟩
  · intro call hcall hne n stored hn hstored
    obtain ⟨interruptedAfter, rfl⟩ := h call hcall
    have hshort : (sidecarText fixtureReference).take n ≠ sidecarText fixtureReference := by
      intro heq
      have hlength := congrArg List.length heq
      rw [List.length_take] at hlength
      have hlt : n < (sidecarText fixtureReference).length := hn
      omega
    have herror : ModelValidateJson.modelValidateJson ((sidecarText fixtureReference).take n) =
        .error "ValidationError: Invalid JSON" := if_neg hshort
    have hok : ModelValidateJson.modelValidateJson ((sidecarText fixtureReference).take n) =
        .ok stored := hstored
    rw [herror] at hok
    cases hok

/-- An interruption before the object file is opened does no harm. -/
theorem bronze_retry_before_open :
    @RetrySafe bronzeStore fixtureSidecars emptyFiles [fixtureCall (some 4), fixtureCall none] := by
  let _ := fixtureSidecars
  have hcalls : ∀ call ∈ [fixtureCall (some 4), fixtureCall none],
      ∃ interruptedAfter, call = fixtureCall interruptedAfter := by
    intro call hcall
    simp only [List.mem_cons, List.not_mem_nil, or_false] at hcall
    rcases hcall with rfl | rfl
    · exact ⟨_, rfl⟩
    · exact ⟨_, rfl⟩
  apply (bronze_retry_iff bronzeStore_fresh (fixtureSidecars_reads hcalls)).mpr
  intro call hcall hne writer hwriter
  have hmem := firstWriter_mem hwriter
  have hopens : bronzeStore.Opens writer := by
    have hfound := List.find?_some hwriter
    exact (of_decide_eq_true hfound).1
  simp only [List.mem_cons, List.not_mem_nil, or_false] at hmem
  rcases hmem with rfl | rfl
  · exact absurd (hopens.2 4 rfl) (by decide)
  · obtain ⟨interruptedAfter, rfl⟩ := hcalls call hcall
    exact ⟨fun _ => le_refl _, rfl, rfl, rfl, rfl⟩

/-- After an interruption between the two files, the same call raises from then on. -/
theorem bronze_retry_fails_without_sidecar :
    ¬ @RetrySafe bronzeStore fixtureSidecars emptyFiles [fixtureCall (some 6)] := by
  let _ := fixtureSidecars
  intro hsafe
  have hcalls : ∀ call ∈ [fixtureCall (some 6)],
      ∃ interruptedAfter, call = fixtureCall interruptedAfter := by
    intro call hcall
    exact ⟨_, List.mem_singleton.mp hcall⟩
  have hplaced := wellPlaced_of_fresh bronzeStore_fresh
  have hmem : fixtureCall (some 6) ∈ [fixtureCall (some 6)] := List.mem_singleton_self _
  have hopens : bronzeStore.Opens (fixtureCall (some 6)) := by
    constructor
    · exact List.cons_ne_nil _ _
    · intro n hn
      obtain rfl := Option.some.inj hn
      decide
  have hleft := leftBy_runCall hplaced hopens rfl rfl
  obtain ⟨reference, hok, -⟩ := hsafe.retry _ hmem hopens.1
  have hcompletes := completes_of_persist_succeeds (wellPlaced_runCall hplaced _) hleft
    (fixtureSidecars_reads hcalls) hmem ⟨reference, hok⟩ hopens.1
  -- two writes are not enough for two files
  have hcount : bronzeStore.writeCount (fixtureCall (some 6))
      (bronzeStore.buildReference fixtureMetadata [49] hopens.1) = 2 := rfl
  have hlength : (fixtureCall (some 6)).payload.length = 1 := rfl
  rw [hlength] at hcompletes
  have htwo := hcompletes.trans hcount.le
  omega

end TaModel.Storage
