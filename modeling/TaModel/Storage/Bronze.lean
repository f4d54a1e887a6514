import TaModel.Contracts.RawPayloads
import TaModel.Library.FileSystem
import TaModel.Library.FileUri

/-!
# The filesystem bronze store

`FilesystemBronzePayloadStore` of `storage/bronze.py`: raw payloads are kept as one object file per
content hash, with the reference of the payload in a sidecar file next to it. `persist` is given
twice: as a whole (`persist`), and as the list of its file-system steps (`persistSteps`), so that an
interrupted call is the performance of some first steps.

How `model_validate_json` reads a sidecar is the parameter `ModelValidateJson`.
-/

set_option autoImplicit false

namespace TaModel.Storage

open Contracts Library

abbrev Bytes := List UInt8

/-- The files below the store, under their absolute paths. -/
abbrev Files := FileSystem Bytes UInt8

/-- `os.fsencode`. -/
def fsencode (s : String) : Bytes := s.toList.flatMap String.utf8EncodeChar

/-- `_hash_bytes`. -/
def hashBytes (payload : Bytes) : String :=
  Library.Sha256.hexdigest (payload.map UInt8.toNat)

/-- `fetched_at.date().isoformat()`. -/
def dateIsoformat (t : AwareDatetime) : String :=
  let (year, month, day) := AwareDatetime.civilFromDays (t.localMicros / 86400000000)
  AwareDatetime.padded 4 year.toNat ++ "-" ++ AwareDatetime.padded 2 month.toNat ++ "-" ++
    AwareDatetime.padded 2 day.toNat

/-! ## Contracts -/

/-- Provenance of a payload; the proof fields are `source_must_be_storage_approved` and what the
JSON text of `fetched_at` can hold. -/
structure BronzePayloadMetadata where
  sourceId : SourceId
  venueId : {s : String // isCanonicalId s = true}
  contentType : NonEmptyString
  fetchedAt : AwareDatetime
  sourceApproval : SourceApproval
  approval_source : sourceApproval.sourceId = sourceId
  approved : sourceApproval.isHistoricalIngestionApproved = true
  fetched_at_json : JsonRepresentable fetchedAt

/-- Checksum verification result; the proof field is `verification_must_match_reference`. -/
structure BronzePayloadVerification where
  rawPayload : RawPayloadReference
  verified : Bool
  actualHash : HashHex
  byteCount : {n : Nat // 0 < n}
  matches_reference : verified = true →
    actualHash = rawPayload.contentHash ∧ byteCount = rawPayload.byteCount

/-- The store; `root` is the resolved root directory. -/
structure FilesystemBronzePayloadStore where
  root : List Bytes
  workingDirectory : List Bytes
  root_components : ∀ c ∈ root, IsComponent c

/-- `RawPayloadReference.model_validate_json(text)`, from the bytes of the file on. -/
class ModelValidateJson where
  modelValidateJson : Bytes → Raises RawPayloadReference

def fileErrorText : FileError → String
  | .fileExists => "FileExistsError"
  | .isADirectory => "IsADirectoryError"
  | .fileNotFound => "FileNotFoundError"

/-- A file operation whose `OSError` is not caught. -/
def raised {α : Type} : Except FileError α → Raises α
  | .ok a => .ok a
  | .error error => .error (fileErrorText error)

/-! ## Paths -/

/-- The file name of an object. -/
def objectName (metadata : BronzePayloadMetadata) (contentHash : String) : String :=
  contentHash ++ (if metadata.contentType.val = "application/json" then ".json" else ".bin")

/-- `object_path.with_suffix(object_path.suffix + ".metadata.json")`. -/
def sidecarPath (objectPath : List Bytes) : List Bytes :=
  objectPath.dropLast ++ [(objectPath.getLast?.getD []) ++ fsencode ".metadata.json"]

/-- The text of a sidecar: `json.dumps(reference.model_dump(mode="json"), ...)`, all ASCII. -/
def sidecarText (reference : RawPayloadReference) : Bytes :=
  (render reference.jsonDump).map UInt8.ofNat

namespace FilesystemBronzePayloadStore

variable (store : FilesystemBronzePayloadStore)

/-- The directory of an object. -/
def objectDirectory (metadata : BronzePayloadMetadata) : List Bytes :=
  store.root ++ [fsencode ("source=" ++ metadata.sourceId.val),
    fsencode ("venue=" ++ metadata.venueId.val), fsencode ("date=" ++ dateIsoformat metadata.fetchedAt)]

/-- `_object_path`. -/
def objectPath (metadata : BronzePayloadMetadata) (contentHash : String) : List Bytes :=
  store.objectDirectory metadata ++ [fsencode (objectName metadata contentHash)]

/-- `_path_from_reference`. -/
def pathFromReference (reference : RawPayloadReference) : Raises (List Bytes) :=
  let (scheme, path) := urlparse reference.uri.val.toList
  let resolved := resolvePath store.workingDirectory (PercentEncoding.unquote path)
  if scheme ≠ ['f', 'i', 'l', 'e'] then
    .error "filesystem bronze store only accepts file:// references"
  else if store.root <+: resolved then .ok resolved
  else .error "raw payload reference is outside this bronze store root"

end FilesystemBronzePayloadStore

/-! ## Names -/

/-- ASCII characters other than the separator. -/
def isNameChar (c : Char) : Bool := decide (c.toNat < 128) && c != '/'

theorem fsencode_ascii {s : String} (h : ∀ c ∈ s.toList, c.toNat < 128) :
    fsencode s = s.toList.map fun c => UInt8.ofNat c.toNat := by
  rw [fsencode, List.map_eq_flatMap]
  apply List.flatMap_congr
  intro c hc
  have hchar := PercentEncoding.utf8EncodeChar_ofNat (h c hc)
  rwa [Char.ofNat_toNat] at hchar

theorem isNameChar_iff (c : Char) : isNameChar c = true ↔ c.toNat < 128 ∧ c ≠ '/' := by
  simp [isNameChar]

theorem length_of_isHexDigest {s : String} (h : isHexDigest s = true) : s.length = 64 := by
  rw [isHexDigest_iff] at h
  exact h.1

/-- A name of at least three such characters is a path component. -/
theorem isComponent_fsencode {s : String} (h : ∀ c ∈ s.toList, isNameChar c = true)
    (hlength : 2 < s.length) : IsComponent (fsencode s) := by
  have hbytes : fsencode s = s.toList.map fun c => UInt8.ofNat c.toNat :=
    fsencode_ascii fun c hc => ((isNameChar_iff c).mp (h c hc)).1
  have hcount : (fsencode s).length = s.length := by
    rw [hbytes, List.length_map, String.length_toList]
  constructor
  · rintro hnil
    rw [hnil, List.length_nil] at hcount
    omega
  · intro hmem
    rw [hbytes] at hmem
    obtain ⟨c, hc, hslash⟩ := List.mem_map.mp hmem
    obtain ⟨hascii, hne⟩ := (isNameChar_iff c).mp (h c hc)
    apply hne
    have hnat : c.toNat = 47 := by
      have htoNat : (UInt8.ofNat c.toNat).toNat = 47 := congrArg UInt8.toNat hslash
      rw [UInt8.toNat_ofNat', Nat.mod_eq_of_lt (by omega)] at htoNat
      exact htoNat
    rw [← Char.ofNat_toNat c, hnat]
  · intro hdot
    rw [hdot] at hcount
    simp only [List.length_singleton] at hcount
    omega
  · intro hdots
    rw [hdots] at hcount
    simp only [List.length_cons, List.length_nil] at hcount
    omega

theorem isComponent_labelled {label s : String} (hlabel : ∀ c ∈ label.toList, isNameChar c = true)
    (hlength : 2 < label.length) (h : ∀ c ∈ s.toList, isNameChar c = true) :
    IsComponent (fsencode (label ++ s)) := by
  apply isComponent_fsencode
  · intro c hc
    rw [String.toList_append] at hc
    rcases List.mem_append.mp hc with hc | hc
    · exact hlabel c hc
    · exact h c hc
  · rw [String.length_append]
    omega

theorem isNameChar_of_isAlphanum {c : Char} (h : c.isAlphanum = true) : isNameChar c = true := by
  have hlt : c.toNat < 128 := by
    simp only [Char.isAlphanum, isAlpha_eq, isUpper_iff, isLower_iff, Char.isDigit,
      Bool.or_eq_true, Bool.and_eq_true, decide_eq_true_eq, UInt32.le_iff_toNat_le, ge_iff_le] at h
    rcases h with (⟨-, h⟩ | ⟨-, h⟩) | ⟨-, h⟩ <;> exact lt_of_le_of_lt h (by decide)
  apply (isNameChar_iff c).mpr ⟨hlt, ?_⟩
  rintro rfl
  exact absurd h (by decide)

theorem isNameChar_of_isCanonicalTail {c : Char} (h : isCanonicalTail c = true) :
    isNameChar c = true := by
  obtain ⟨-, hhi⟩ := isCanonicalTail_range h
  apply (isNameChar_iff c).mpr ⟨by omega, ?_⟩
  rintro rfl
  exact absurd h (by decide)

theorem isNameChar_sourceId (s : SourceId) : ∀ c ∈ s.val.toList, isNameChar c = true := by
  obtain ⟨s, hs⟩ := s
  simp only [isSourceId] at hs
  cases hlist : s.toList with
  | nil => exact fun c hc => absurd hc List.not_mem_nil
  | cons c rest =>
      rw [hlist] at hs
      simp only [Bool.and_eq_true, List.all_eq_true, Bool.or_eq_true, beq_iff_eq] at hs
      obtain ⟨⟨-, hhead⟩, htail⟩ := hs
      intro d hd
      rcases List.mem_cons.mp hd with rfl | hd
      · exact isNameChar_of_isAlphanum hhead
      · rcases htail d hd with (((hd | rfl) | rfl) | rfl) | rfl
        · exact isNameChar_of_isAlphanum hd
        · decide
        · decide
        · decide
        · decide

/-- The characters of a fixed text. -/
theorem isNameChar_of_all {s : String} (h : s.toList.all isNameChar = true) :
    ∀ c ∈ s.toList, isNameChar c = true := List.all_eq_true.mp h

theorem isNameChar_padded (width n : Nat) :
    ∀ c ∈ (AwareDatetime.padded width n).toList, isNameChar c = true := by
  intro c hc
  simp only [AwareDatetime.padded, String.toList_append, String.toList_ofList,
    List.mem_append, List.mem_replicate] at hc
  rcases hc with ⟨-, rfl⟩ | hc
  · decide
  · rw [Nat.toString_eq_ofList_toDigits, String.toList_ofList] at hc
    have hdigit : c.isDigit = true := Nat.isDigit_of_mem_toDigits (by decide) (by decide) hc
    exact isNameChar_of_isAlphanum (by simp [Char.isAlphanum, hdigit])

theorem isNameChar_dateIsoformat (t : AwareDatetime) :
    ∀ c ∈ (dateIsoformat t).toList, isNameChar c = true := by
  intro c hc
  simp only [dateIsoformat, String.toList_append, List.mem_append] at hc
  rcases hc with (((hc | hc) | hc) | hc) | hc
  · exact isNameChar_padded _ _ c hc
  · exact isNameChar_of_all (by decide) c hc
  · exact isNameChar_padded _ _ c hc
  · exact isNameChar_of_all (by decide) c hc
  · exact isNameChar_padded _ _ c hc

theorem isNameChar_hexDigest {s : String} (h : isHexDigest s = true) :
    ∀ c ∈ s.toList, isNameChar c = true := by
  simp only [isHexDigest_iff, Bool.or_eq_true, Bool.and_eq_true, decide_eq_true_eq] at h
  intro c hc
  apply isNameChar_of_isAlphanum
  rcases h.2 c hc with hdigit | ⟨hlo, hhi⟩
  · simp [Char.isAlphanum, hdigit]
  · have hlower : c.isLower = true := isLower_iff.mpr ⟨hlo, le_trans hhi (by decide)⟩
    simp [Char.isAlphanum, isAlpha_eq, hlower]

theorem isPySpace_of_isQuoted {c : Char} (h : PercentEncoding.isQuoted c = true) :
    isPySpace c = false := by
  have hrange : 37 ≤ c.toNat ∧ c.toNat ≤ 126 := by
    simp only [PercentEncoding.isQuoted, PercentEncoding.isSafe, Char.isAlphanum, isAlpha_eq,
      isUpper_iff, isLower_iff, Char.isDigit, Bool.or_eq_true, Bool.and_eq_true, beq_iff_eq,
      decide_eq_true_eq, UInt32.le_iff_toNat_le, ge_iff_le] at h
    rcases h with (((((((⟨hlo, hhi⟩ | ⟨hlo, hhi⟩) | ⟨hlo, hhi⟩) | rfl) | rfl) | rfl) | rfl) | rfl) |
      rfl
    · exact ⟨le_trans (by decide) hlo, le_trans hhi (by decide)⟩
    · exact ⟨le_trans (by decide) hlo, le_trans hhi (by decide)⟩
    · exact ⟨le_trans (by decide) hlo, le_trans hhi (by decide)⟩
    all_goals decide
  simp only [isPySpace, Bool.or_eq_false_iff, Bool.and_eq_false_iff, decide_eq_false_iff_not,
    beq_eq_false_iff_ne]
  omega

/-! ## Object paths -/

theorem isNonEmptyString_fileUri (path : List Bytes) :
    isNonEmptyString (String.ofList (fileUri path)) = true := by
  have hscheme : ∀ c ∈ ['f', 'i', 'l', 'e', ':', '/', '/'], (!isPySpace c) = true :=
    List.all_eq_true.mp (by decide)
  have hspace : ∀ c ∈ fileUri path, isPySpace c = false := by
    intro c hc
    rcases List.mem_append.mp hc with hc | hc
    · simpa using hscheme c hc
    · exact isPySpace_of_isQuoted (PercentEncoding.isQuoted_quote hc)
  simp only [isNonEmptyString, Bool.and_eq_true, bne_iff_ne, beq_iff_eq]
  constructor
  · intro hempty
    have hlist := congrArg String.toList hempty
    rw [String.toList_ofList] at hlist
    cases hlist
  · apply strip_of_no_space
    rwa [String.toList_ofList]

/-- The digest of a payload. -/
def contentHash (payload : Bytes) : HashHex := ⟨hashBytes payload, isHexDigest_hexdigest _⟩

namespace FilesystemBronzePayloadStore

variable (store : FilesystemBronzePayloadStore)

/-- Every component of an object path names a file. -/
theorem objectPath_components (metadata : BronzePayloadMetadata) (digest : HashHex) :
    ∀ c ∈ store.objectPath metadata digest.val, IsComponent c := by
  intro c hc
  simp only [objectPath, objectDirectory, List.mem_append, List.mem_cons, List.not_mem_nil,
    or_false] at hc
  rcases hc with (hc | hc | hc | hc) | hc
  · exact store.root_components c hc
  · rw [hc]
    exact isComponent_labelled (isNameChar_of_all (by decide)) (by decide)
      (isNameChar_sourceId metadata.sourceId)
  · rw [hc]
    exact isComponent_labelled (isNameChar_of_all (by decide)) (by decide) fun d hd =>
      isNameChar_of_isCanonicalTail (isCanonicalId_chars metadata.venueId.property d hd)
  · rw [hc]
    exact isComponent_labelled (isNameChar_of_all (by decide)) (by decide)
      (isNameChar_dateIsoformat metadata.fetchedAt)
  · have hlength := length_of_isHexDigest digest.property
    rw [hc, objectName]
    refine isComponent_labelled (isNameChar_hexDigest digest.property) (by omega) ?_
    split
    · exact isNameChar_of_all (by decide)
    · exact isNameChar_of_all (by decide)

theorem length_objectPath (metadata : BronzePayloadMetadata) (digest : String) :
    (store.objectPath metadata digest).length = store.root.length + 4 := by
  simp [objectPath, objectDirectory]

theorem root_prefix_objectPath (metadata : BronzePayloadMetadata) (digest : String) :
    store.root <+: store.objectPath metadata digest := by
  rw [objectPath, objectDirectory, List.append_assoc]
  exact List.prefix_append _ _

/-- The reference `persist` builds. -/
def buildReference (metadata : BronzePayloadMetadata) (payload : Bytes) (hne : payload ≠ []) :
    RawPayloadReference where
  rawPayloadId := ⟨buildRawPayloadId (hashBytes payload),
    isCanonicalId_buildRawPayloadId (contentHash payload).property⟩
  sourceId := metadata.sourceId
  contentHash := contentHash payload
  uri := ⟨String.ofList (fileUri (store.objectPath metadata (hashBytes payload))),
    isNonEmptyString_fileUri _⟩
  contentType := metadata.contentType
  fetchedAt := metadata.fetchedAt
  byteCount := ⟨payload.length, List.length_pos_iff.mpr hne⟩

/-- The path of a reference that `persist` built is the object path. -/
theorem pathFromReference_buildReference (metadata : BronzePayloadMetadata) {payload : Bytes}
    (hne : payload ≠ []) :
    store.pathFromReference (store.buildReference metadata payload hne) =
      .ok (store.objectPath metadata (hashBytes payload)) := by
  have hpath : store.objectPath metadata (hashBytes payload) ≠ [] := by
    rw [objectPath]
    exact List.append_ne_nil_of_right_ne_nil _ (List.cons_ne_nil _ _)
  have hresolve := resolvePath_fileUri hpath
    (store.objectPath_components metadata (contentHash payload)) store.workingDirectory
  have hscheme := urlparse_fileUri hpath
  simp only [pathFromReference, buildReference, String.toList_ofList]
  rw [hscheme] at hresolve ⊢
  simp only [ne_eq, not_true_eq_false, if_false]
  rw [hresolve, if_pos (store.root_prefix_objectPath metadata _)]

/-! ## Persisting -/

/-- The writes of an object and of its sidecar. -/
def writeSteps (objectPath : List Bytes) (payload : Bytes) (reference : RawPayloadReference) :
    List (FileStep Bytes UInt8) :=
  FileSystem.writeFile objectPath payload ++
    FileSystem.writeFile (sidecarPath objectPath) (sidecarText reference)

/-- The file-system steps of a call, in their order. -/
def persistSteps (payload : Bytes) (metadata : BronzePayloadMetadata) (fs : Files) :
    List (FileStep Bytes UInt8) :=
  if hne : payload = [] then []
  else
    let path := store.objectPath metadata (hashBytes payload)
    let directories := FileSystem.makeDirectories path.dropLast
    if (fs.performAll directories).1.pathExists path then directories
    else directories ++ writeSteps path payload (store.buildReference metadata payload hne)

section Sidecars

variable [ModelValidateJson]

/-- `_read_sidecar`. -/
def readSidecar (fs : Files) (objectPath : List Bytes) : Raises RawPayloadReference := do
  let text ← raised (fs.readBytes (sidecarPath objectPath))
  ModelValidateJson.modelValidateJson text

/-- What `persist` does with an object that is there. -/
def checkExisting (fs : Files) (objectPath : List Bytes) (payload : Bytes)
    (reference : RawPayloadReference) : Raises RawPayloadReference := do
  let existing ← raised (fs.readBytes objectPath)
  require (existing = payload)
    "existing bronze object bytes do not match deterministic content hash"
  let existingReference ← readSidecar fs objectPath
  require (existingReference.same reference = true)
    "existing bronze object metadata does not match requested reference"
  return reference

/-- `persist`. -/
def persist (payload : Bytes) (metadata : BronzePayloadMetadata) (fs : Files) :
    Files × Raises RawPayloadReference :=
  if hne : payload = [] then (fs, .error "bronze raw payload must not be empty")
  else
    let path := store.objectPath metadata (hashBytes payload)
    let reference := store.buildReference metadata payload hne
    let made := fs.performAll (FileSystem.makeDirectories path.dropLast)
    match made.2 with
    | .error error => (made.1, .error (fileErrorText error))
    | .ok () =>
        if made.1.pathExists path then (made.1, checkExisting made.1 path payload reference)
        else
          let written := made.1.performAll (writeSteps path payload reference)
          (written.1, raised (written.2.map fun _ => reference))

/-- A call leaves the files its steps lead to. -/
theorem persist_fst (payload : Bytes) (metadata : BronzePayloadMetadata) (fs : Files) :
    (store.persist payload metadata fs).1 =
      (fs.performAll (store.persistSteps payload metadata fs)).1 := by
  simp only [persist, persistSteps]
  split_ifs with hne hexists
  · rfl
  · split <;> rfl
  · split
    · rename_i error herror
      rw [FileSystem.performAll_append_of_error herror]
    · rename_i hok
      rw [FileSystem.performAll_append hok]

end Sidecars

/-! ## Reading -/

/-- `verify`. -/
def verify (reference : RawPayloadReference) (fs : Files) :
    Raises BronzePayloadVerification := do
  let path ← store.pathFromReference reference
  let payload ← raised (fs.readBytes path)
  if hne : payload = [] then .error "stored bronze payload must not be empty"
  else
    .ok
      { rawPayload := reference
        verified := contentHash payload == reference.contentHash &&
          payload.length == reference.byteCount.val
        actualHash := contentHash payload
        byteCount := ⟨payload.length, List.length_pos_iff.mpr hne⟩
        matches_reference := by
          intro h
          simp only [Bool.and_eq_true, beq_iff_eq] at h
          exact ⟨h.1, Subtype.ext h.2⟩ }

/-- `read`. -/
def read (reference : RawPayloadReference) (fs : Files) : Raises Bytes := do
  let path ← store.pathFromReference reference
  let payload ← raised (fs.readBytes path)
  let verification ← store.verify reference fs
  require (verification.verified = true) "bronze payload checksum verification failed"
  return payload

/-- Where the object file holds the payload, reading its reference gives it back. -/
theorem read_buildReference {metadata : BronzePayloadMetadata} {payload : Bytes}
    (hne : payload ≠ []) {fs : Files}
    (h : fs.content (store.objectPath metadata (hashBytes payload)) = some payload) :
    store.read (store.buildReference metadata payload hne) fs = .ok payload := by
  have hpath := store.pathFromReference_buildReference metadata hne
  have hbytes : raised (fs.readBytes (store.objectPath metadata (hashBytes payload))) =
      .ok payload := by
    simp [FileSystem.readBytes, h, raised]
  have hverified : (contentHash payload == contentHash payload &&
      payload.length == payload.length) = true := by
    simp
  simp only [read, verify, hpath, ok_bind, hbytes, dif_neg hne]
  simp only [buildReference, hverified]
  rfl

end FilesystemBronzePayloadStore

end TaModel.Storage
