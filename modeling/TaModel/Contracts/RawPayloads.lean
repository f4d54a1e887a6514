import TaModel.Contracts.CanonicalJson
import TaModel.Contracts.IsoOrder

/-!
# Raw payload contracts

Source approvals and raw-payload references of `contracts/market_data.py`. The reference of a stored
payload is written next to it in the JSON mode of a model dump.
-/

set_option autoImplicit false

namespace TaModel.Contracts

/-! ## Source approvals -/

/-- The `SourceId` constraint: 1 to 128 characters matching `^[A-Za-z0-9][A-Za-z0-9._:-]*$`. -/
def isSourceId (s : String) : Bool :=
  match s.toList with
  | [] => false
  | c :: rest =>
      decide (rest.length < 128) && c.isAlphanum &&
        rest.all fun d => d.isAlphanum || d == '.' || d == '_' || d == ':' || d == '-'

abbrev SourceId := {s : String // isSourceId s = true}

abbrev NonEmptyString := {s : String // isNonEmptyString s = true}

abbrev HashHex := {s : String // isHexDigest s = true}

inductive LicenseReviewStatus where
  | notStarted | inReview | approved | approvedWithRestrictions | blocked | expired
deriving DecidableEq

inductive ApprovedUseStatus where
  | blockedPendingReview | explorationOnly | researchApproved | backtestApproved | paperApproved
  | blocked
deriving DecidableEq

/-- Fail-closed source approval snapshot. -/
structure SourceApproval where
  sourceId : SourceId
  licenseReviewStatus : LicenseReviewStatus
  approvedUseStatus : ApprovedUseStatus
  reviewedAt : Option AwareDatetime
  evidenceUri : Option NonEmptyString
  sourceRegisterVersion : Option NonEmptyString
  retentionAllowed : Option Bool
  storageAllowed : Option Bool
  rawPayloadStorageAllowed : Option Bool
  eventTimeFieldsDocumented : Option Bool
  rateLimitPolicyRef : Option NonEmptyString

/-- `is_historical_ingestion_approved`. -/
def SourceApproval.isHistoricalIngestionApproved (a : SourceApproval) : Bool :=
  decide (a.licenseReviewStatus ∈
      [LicenseReviewStatus.approved, LicenseReviewStatus.approvedWithRestrictions]) &&
    decide (a.approvedUseStatus ∈
      [ApprovedUseStatus.backtestApproved, ApprovedUseStatus.paperApproved]) &&
    a.reviewedAt.isSome && a.evidenceUri.isSome && a.sourceRegisterVersion.isSome &&
    a.retentionAllowed == some true && a.storageAllowed == some true &&
    a.rawPayloadStorageAllowed == some true && a.eventTimeFieldsDocumented == some true &&
    a.rateLimitPolicyRef.isSome

/-! ## References -/

/-- Reference to an immutable raw payload. -/
structure RawPayloadReference where
  rawPayloadId : {s : String // isCanonicalId s = true}
  sourceId : SourceId
  contentHash : HashHex
  uri : NonEmptyString
  contentType : NonEmptyString
  fetchedAt : AwareDatetime
  byteCount : {n : Nat // 0 < n}

namespace RawPayloadReference

/-- `==` of two references; their timestamps compare as instants. -/
def same (a b : RawPayloadReference) : Bool :=
  a.rawPayloadId == b.rawPayloadId && a.sourceId == b.sourceId && a.contentHash == b.contentHash &&
    a.uri == b.uri && a.contentType == b.contentType && a.fetchedAt.sameInstant b.fetchedAt &&
    a.byteCount == b.byteCount

theorem same_iff (a b : RawPayloadReference) :
    a.same b = true ↔
      a.rawPayloadId = b.rawPayloadId ∧ a.sourceId = b.sourceId ∧ a.contentHash = b.contentHash ∧
        a.uri = b.uri ∧ a.contentType = b.contentType ∧ a.fetchedAt.utc = b.fetchedAt.utc ∧
        a.byteCount = b.byteCount := by
  simp only [same, Bool.and_eq_true, beq_iff_eq, AwareDatetime.sameInstant, and_assoc]

theorem same_symm {a b : RawPayloadReference} (h : a.same b = true) : b.same a = true := by
  obtain ⟨h1, h2, h3, h4, h5, h6, h7⟩ := (same_iff a b).mp h
  exact (same_iff b a).mpr
    ⟨h1.symm, h2.symm, h3.symm, h4.symm, h5.symm, h6.symm, h7.symm⟩

theorem same_trans {a b c : RawPayloadReference} (hab : a.same b = true) (hbc : b.same c = true) :
    a.same c = true := by
  obtain ⟨h1, h2, h3, h4, h5, h6, h7⟩ := (same_iff a b).mp hab
  obtain ⟨h1', h2', h3', h4', h5', h6', h7'⟩ := (same_iff b c).mp hbc
  exact (same_iff a c).mpr
    ⟨h1.trans h1', h2.trans h2', h3.trans h3', h4.trans h4', h5.trans h5', h6.trans h6',
      h7.trans h7'⟩

end RawPayloadReference

/-- A timestamp in the JSON mode of a model dump: `isoformat`, with `Z` for UTC. -/
def jsonDatetime (t : AwareDatetime) : String :=
  if t.offset = 0 then String.ofList (t.isoformat.toList.take (t.isoformat.length - 6) ++ ['Z'])
  else t.isoformat

example : jsonDatetime ⟨1767225600000000, 0⟩ = "2026-01-01T00:00:00Z" := by decide

/-- `model_dump(mode="json")`. -/
def RawPayloadReference.jsonDump (r : RawPayloadReference) : Payload :=
  .record
    [ ("raw_payload_id", .text r.rawPayloadId.val), ("source_id", .text r.sourceId.val),
      ("content_hash", .text r.contentHash.val), ("uri", .text r.uri.val),
      ("content_type", .text r.contentType.val), ("fetched_at", .text (jsonDatetime r.fetchedAt)),
      ("byte_count", .int r.byteCount.val) ]

/-- A timestamp that its JSON text determines: a `datetime` whose offset has no seconds. -/
def JsonRepresentable (t : AwareDatetime) : Prop :=
  t.Representable ∧ t.offset % 60 = 0

instance (t : AwareDatetime) : Decidable (JsonRepresentable t) := by
  unfold JsonRepresentable
  infer_instance

/-! ## Digests and ids -/

theorem isHexDigest_hexdigest (bytes : List Nat) :
    isHexDigest (Library.Sha256.hexdigest bytes) = true := by
  have hdigits : "0123456789abcdef".toList.all
      (fun c => c.isDigit || (decide ('a' ≤ c) && decide (c ≤ 'f'))) = true := by
    decide
  rw [isHexDigest_iff]
  exact ⟨Library.Sha256.hexdigest_length _, fun c hc =>
    List.all_eq_true.mp hdigits c (Library.Sha256.mem_hexdigest _ c hc)⟩

/-- `build_raw_payload_id`. -/
def buildRawPayloadId (contentHash : String) : String :=
  "RAW:" ++ String.ofList (contentHash.toList.map Char.toUpper)

theorem isCanonicalId_buildRawPayloadId {contentHash : String}
    (h : isHexDigest contentHash = true) : isCanonicalId (buildRawPayloadId contentHash) = true := by
  rw [isHexDigest_iff] at h
  obtain ⟨hlength, hdigits⟩ := h
  have hcount : contentHash.toList.length = 64 := by
    rw [String.length_toList, hlength]
  have hlist : (buildRawPayloadId contentHash).toList =
      'R' :: 'A' :: 'W' :: ':' :: contentHash.toList.map Char.toUpper := by
    simp [buildRawPayloadId, String.toList_append]
  refine (isCanonicalId_iff _).mpr ⟨'R', _, hlist, ?_, by decide, ?_⟩
  · simp only [List.length_cons, List.length_map, hcount]
    decide
  · intro d hd
    simp only [List.mem_cons, List.mem_map] at hd
    rcases hd with rfl | rfl | rfl | ⟨x, hx, rfl⟩
    · decide
    · decide
    · decide
    · exact isCanonicalTail_toUpper (hdigits x hx)

end TaModel.Contracts
