import TaModel.Storage.Bronze

/-!
# Runs of the bronze store

Sequences of `persist` calls, each of which may be interrupted after any of its file-system steps.
An object file that is there is never written again, so the first call that opens it decides for
good what is found under its path (`runCalls_writer`). A retry succeeds exactly when that call got
to the end of its sidecar and stored the same payload and reference.
-/

set_option autoImplicit false

namespace TaModel.Storage

open Contracts Library

/-! ## Calls -/

/-- One `persist` call; an interrupted one has performed only its first steps. -/
structure PersistCall where
  payload : Bytes
  metadata : BronzePayloadMetadata
  interruptedAfter : Option Nat

namespace FilesystemBronzePayloadStore

variable (store : FilesystemBronzePayloadStore)

/-- The object path of a call. -/
def callPath (call : PersistCall) : List Bytes :=
  store.objectPath call.metadata (hashBytes call.payload)

/-- The number of directories a call makes sure of. -/
def directoryCount : Nat := store.root.length + 3

/-- How many of the writes of object and sidecar a call gets to. -/
def writeCount (call : PersistCall) (reference : RawPayloadReference) : Nat :=
  match call.interruptedAfter with
  | none => call.payload.length + (sidecarText reference).length + 2
  | some n => n - store.directoryCount

/-- The call gets to open the object file, if it is not there. -/
def Opens (call : PersistCall) : Prop :=
  call.payload ≠ [] ∧ ∀ n ∈ call.interruptedAfter, store.directoryCount < n

instance (call : PersistCall) : Decidable (store.Opens call) := by
  unfold Opens
  infer_instance

/-- The first call that opens the object file of a path. -/
def firstWriter (calls : List PersistCall) (path : List Bytes) : Option PersistCall :=
  calls.find? fun call => decide (store.Opens call ∧ store.callPath call = path)

section Runs

variable [ModelValidateJson]

/-- The files after a call. -/
def runCall (fs : Files) (call : PersistCall) : Files :=
  match call.interruptedAfter with
  | none => (store.persist call.payload call.metadata fs).1
  | some n => (fs.performAll ((store.persistSteps call.payload call.metadata fs).take n)).1

/-- The files after a sequence of calls. -/
def runCalls (calls : List PersistCall) (fs : Files) : Files :=
  calls.foldl store.runCall fs

end Runs

/-! ## Where the store puts files -/

/-- There is nothing below the root yet, and no file in the way to it. -/
structure Fresh (fs : Files) : Prop where
  no_files : ∀ path, path <+: store.root ∨ store.root <+: path → fs.content path = none
  no_directories : ∀ path, store.root <+: path → path ≠ store.root → fs.isDirectory path = false

/-- Files lie four levels below the root, and directories above that. -/
structure WellPlaced (fs : Files) : Prop where
  above : ∀ path, path <+: store.root → fs.content path = none
  files : ∀ path, store.root <+: path → path.length ≠ store.root.length + 4 →
    fs.content path = none
  directories : ∀ path, store.root <+: path → store.root.length + 4 ≤ path.length →
    fs.isDirectory path = false

/-- Steps that keep to these places. -/
def IsPlaced : FileStep Bytes UInt8 → Prop
  | .makeDirectory path => path.length < store.root.length + 4
  | .create path => store.root <+: path ∧ path.length = store.root.length + 4
  | .append path _ => store.root <+: path ∧ path.length = store.root.length + 4

variable {store}

theorem wellPlaced_of_fresh {fs : Files} (h : store.Fresh fs) : store.WellPlaced fs := by
  constructor
  · exact fun path hpath => h.no_files path (Or.inl hpath)
  · exact fun path hpath _ => h.no_files path (Or.inr hpath)
  · intro path hpath hlength
    apply h.no_directories path hpath
    rintro rfl
    omega

theorem wellPlaced_setContent {fs : Files} (h : store.WellPlaced fs) {path : List Bytes}
    (hroot : store.root <+: path) (hlength : path.length = store.root.length + 4)
    (bytes : Bytes) : store.WellPlaced (fs.setContent path bytes) := by
  have hother : ∀ other : List Bytes, other.length ≠ store.root.length + 4 →
      (fs.setContent path bytes).content other = fs.content other := by
    intro other hne
    apply FileSystem.content_setContent_of_ne
    rintro rfl
    exact hne hlength
  constructor
  · intro other hprefix
    have hle := hprefix.length_le
    rw [hother other (by omega), h.above other hprefix]
  · intro other hprefix hne
    rw [hother other hne, h.files other hprefix hne]
  · exact h.directories

theorem wellPlaced_step {step : FileStep Bytes UInt8} (hstep : store.IsPlaced step)
    {fs next : Files} (h : store.WellPlaced fs) (hperform : fs.perform step = .ok next) :
    store.WellPlaced next := by
  rcases FileSystem.perform_cases hperform with
    ⟨path, rfl, rfl⟩ | ⟨path, bytes, rfl | ⟨byte, rfl⟩, rfl⟩
  · have hlength : path.length < store.root.length + 4 := hstep
    refine ⟨h.above, h.files, fun other hprefix hle => ?_⟩
    rw [FileSystem.isDirectory_setDirectory_of_ne, h.directories other hprefix hle]
    rintro rfl
    omega
  · exact wellPlaced_setContent h hstep.1 hstep.2 bytes
  · exact wellPlaced_setContent h hstep.1 hstep.2 bytes

theorem wellPlaced_performAll {steps : List (FileStep Bytes UInt8)}
    (hsteps : ∀ step ∈ steps, store.IsPlaced step) {fs : Files} (h : store.WellPlaced fs) :
    store.WellPlaced (fs.performAll steps).1 :=
  FileSystem.performAll_invariant
    (fun step hstep _ _ hfs hperform => wellPlaced_step (hsteps step hstep) hfs hperform) h

/-! ## The paths of a call -/

theorem sidecarPath_append (directory : List Bytes) (name : Bytes) :
    sidecarPath (directory ++ [name]) = directory ++ [name ++ fsencode ".metadata.json"] := by
  simp [sidecarPath]

variable (store)

theorem sidecarPath_objectPath (metadata : BronzePayloadMetadata) (digest : String) :
    sidecarPath (store.objectPath metadata digest) =
      store.objectDirectory metadata ++
        [fsencode (objectName metadata digest) ++ fsencode ".metadata.json"] :=
  sidecarPath_append _ _

theorem dropLast_objectPath (metadata : BronzePayloadMetadata) (digest : String) :
    (store.objectPath metadata digest).dropLast = store.objectDirectory metadata ∧
      (sidecarPath (store.objectPath metadata digest)).dropLast =
        store.objectDirectory metadata := by
  constructor
  · exact List.dropLast_concat
  · rw [sidecarPath_objectPath, List.dropLast_concat]

theorem length_sidecarPath (metadata : BronzePayloadMetadata) (digest : String) :
    (sidecarPath (store.objectPath metadata digest)).length = store.root.length + 4 := by
  rw [sidecarPath_objectPath]
  simp [objectDirectory]

theorem root_prefix_sidecarPath (metadata : BronzePayloadMetadata) (digest : String) :
    store.root <+: sidecarPath (store.objectPath metadata digest) := by
  rw [sidecarPath_objectPath, objectDirectory, List.append_assoc]
  exact List.prefix_append _ _

theorem length_objectName (metadata : BronzePayloadMetadata) (digest : HashHex) :
    68 ≤ (fsencode (objectName metadata digest.val)).length ∧
      (fsencode (objectName metadata digest.val)).length ≤ 69 := by
  have hchars : ∀ c ∈ (objectName metadata digest.val).toList, c.toNat < 128 := by
    intro c hc
    rw [objectName, String.toList_append] at hc
    rcases List.mem_append.mp hc with hc | hc
    · exact ((isNameChar_iff c).mp (isNameChar_hexDigest digest.property c hc)).1
    · split at hc
      · exact ((isNameChar_iff c).mp (isNameChar_of_all (by decide) c hc)).1
      · exact ((isNameChar_iff c).mp (isNameChar_of_all (by decide) c hc)).1
  have hdigest := length_of_isHexDigest digest.property
  rw [fsencode_ascii hchars, List.length_map, String.length_toList, objectName,
    String.length_append, hdigest]
  split
  · decide
  · decide

theorem length_sidecarSuffix : (fsencode ".metadata.json").length = 14 := by
  decide

/-- No sidecar is an object file. -/
theorem objectPath_ne_sidecarPath (metadata metadata' : BronzePayloadMetadata)
    (digest digest' : HashHex) :
    store.objectPath metadata digest.val ≠ sidecarPath (store.objectPath metadata' digest'.val) := by
  rw [sidecarPath_objectPath, objectPath]
  intro heq
  have hname := congrArg List.length (List.append_inj' heq rfl).2.symm
  obtain ⟨-, hhigh⟩ := length_objectName metadata digest
  obtain ⟨hlow, -⟩ := length_objectName metadata' digest'
  have hsingle := List.singleton_inj.mp (List.append_inj' heq rfl).2
  have hlength := congrArg List.length hsingle
  rw [List.length_append, length_sidecarSuffix] at hlength
  omega

/-- Different objects have different sidecars. -/
theorem sidecarPath_inj {metadata metadata' : BronzePayloadMetadata} {digest digest' : String}
    (h : sidecarPath (store.objectPath metadata digest) =
      sidecarPath (store.objectPath metadata' digest')) :
    store.objectPath metadata digest = store.objectPath metadata' digest' := by
  rw [sidecarPath_objectPath, sidecarPath_objectPath] at h
  obtain ⟨hdirectory, hname⟩ := List.append_inj' h rfl
  rw [objectPath, objectPath, hdirectory,
    List.append_cancel_right (List.singleton_inj.mp hname)]

/-! ## Making the directories -/

variable {store}

/-- Making the directory of an object goes through and changes no file. -/
theorem makeDirectories_objectDirectory {fs : Files} (h : store.WellPlaced fs)
    (metadata : BronzePayloadMetadata) :
    (fs.performAll (FileSystem.makeDirectories (store.objectDirectory metadata))).2 = .ok () ∧
    (fs.performAll (FileSystem.makeDirectories (store.objectDirectory metadata))).1.isDirectory
      (store.objectDirectory metadata) = true ∧
    (fs.performAll (FileSystem.makeDirectories (store.objectDirectory metadata))).1.content =
      fs.content := by
  have hlength : (store.objectDirectory metadata).length = store.root.length + 3 := by
    simp [objectDirectory]
  apply FileSystem.performAll_makeDirectories
  · intro hnil
    rw [hnil, List.length_nil] at hlength
    omega
  · intro path hprefix
    have hroot : store.root <+: store.objectDirectory metadata := List.prefix_append _ _
    rcases List.prefix_or_prefix_of_prefix hprefix hroot with hbelow | habove
    · exact h.above path hbelow
    · have hle := hprefix.length_le
      exact h.files path habove (by omega)

variable (store)

/-- The files once the directories of a call are there. -/
def directoriesMade (call : PersistCall) (fs : Files) : Files :=
  (fs.performAll (FileSystem.makeDirectories (store.objectDirectory call.metadata))).1

theorem dropLast_callPath (call : PersistCall) :
    (store.callPath call).dropLast = store.objectDirectory call.metadata :=
  (store.dropLast_objectPath call.metadata _).1

theorem isPlaced_makeDirectories (call : PersistCall) :
    ∀ step ∈ FileSystem.makeDirectories (store.objectDirectory call.metadata),
      store.IsPlaced step := by
  intro step hstep
  obtain ⟨path, hpath, rfl⟩ := List.mem_map.mp hstep
  have hprefix := (List.mem_inits path _).mp (List.mem_of_mem_tail hpath)
  have hle := hprefix.length_le
  have hlength : (store.objectDirectory call.metadata).length = store.root.length + 3 := by
    simp [objectDirectory]
  show path.length < store.root.length + 4
  omega

theorem isPlaced_writeFile {path : List Bytes} (hroot : store.root <+: path)
    (hlength : path.length = store.root.length + 4) (bytes : Bytes) :
    ∀ step ∈ FileSystem.writeFile path bytes, store.IsPlaced step := by
  intro step hstep
  rcases List.mem_cons.mp hstep with rfl | hstep
  · exact ⟨hroot, hlength⟩
  · obtain ⟨byte, -, rfl⟩ := List.mem_map.mp hstep
    exact ⟨hroot, hlength⟩

/-- Every step of a call keeps to the places of the store. -/
theorem isPlaced_persistSteps (payload : Bytes) (metadata : BronzePayloadMetadata) (fs : Files) :
    ∀ step ∈ store.persistSteps payload metadata fs, store.IsPlaced step := by
  have hdirectories := store.isPlaced_makeDirectories ⟨payload, metadata, none⟩
  have hpath := store.dropLast_callPath ⟨payload, metadata, none⟩
  intro step hstep
  simp only [callPath] at hpath
  simp only [persistSteps, hpath] at hstep
  split_ifs at hstep with hne hexists
  · exact absurd hstep List.not_mem_nil
  · exact hdirectories step hstep
  · rcases List.mem_append.mp hstep with hstep | hstep
    · exact hdirectories step hstep
    · rcases List.mem_append.mp hstep with hstep | hstep
      · exact store.isPlaced_writeFile (store.root_prefix_objectPath _ _)
          (store.length_objectPath _ _) _ step hstep
      · exact store.isPlaced_writeFile (store.root_prefix_sidecarPath _ _)
          (store.length_sidecarPath _ _) _ step hstep

variable {store}

/-- After the directories are made, the object is there exactly when its file was. -/
theorem pathExists_directoriesMade {fs : Files} (h : store.WellPlaced fs) (call : PersistCall) :
    (store.directoriesMade call fs).pathExists (store.callPath call) =
      (fs.content (store.callPath call)).isSome := by
  have hplaced : store.WellPlaced (store.directoriesMade call fs) :=
    wellPlaced_performAll (store.isPlaced_makeDirectories call) h
  have hdirectory := hplaced.directories (store.callPath call)
    (store.root_prefix_objectPath _ _) (store.length_objectPath _ _).ge
  obtain ⟨-, -, hcontent⟩ := makeDirectories_objectDirectory h call.metadata
  rw [FileSystem.pathExists, hdirectory, Bool.or_false, directoriesMade, hcontent]

/-- The steps of a call whose object is there. -/
theorem persistSteps_of_present {fs : Files} (h : store.WellPlaced fs) {call : PersistCall}
    (hne : call.payload ≠ []) (hpresent : (fs.content (store.callPath call)).isSome = true) :
    store.persistSteps call.payload call.metadata fs =
      FileSystem.makeDirectories (store.objectDirectory call.metadata) := by
  have hexists := pathExists_directoriesMade h call
  have hpath := store.dropLast_callPath call
  rw [hpresent] at hexists
  simp only [directoriesMade, callPath] at hexists hpath
  simp only [persistSteps, dif_neg hne, hpath, hexists, if_true]

/-- The steps of a call whose object is not there. -/
theorem persistSteps_of_absent {fs : Files} (h : store.WellPlaced fs) {call : PersistCall}
    (hne : call.payload ≠ []) (habsent : fs.content (store.callPath call) = none) :
    store.persistSteps call.payload call.metadata fs =
      FileSystem.makeDirectories (store.objectDirectory call.metadata) ++
        writeSteps (store.callPath call) call.payload
          (store.buildReference call.metadata call.payload hne) := by
  have hexists := pathExists_directoriesMade h call
  have hpath := store.dropLast_callPath call
  rw [habsent, Option.isSome_none] at hexists
  simp only [directoriesMade, callPath] at hexists hpath
  simp only [persistSteps, dif_neg hne, hpath, hexists, Bool.false_eq_true, if_false, callPath]

/-- Once the directories are made, both files can be opened. -/
theorem isDirectory_directoriesMade {fs : Files} (h : store.WellPlaced fs) (call : PersistCall) :
    ((store.directoriesMade call fs).isDirectory (store.callPath call) = false ∧
      (store.directoriesMade call fs).isDirectory (store.callPath call).dropLast = true) ∧
    (store.directoriesMade call fs).isDirectory (sidecarPath (store.callPath call)) = false ∧
      (store.directoriesMade call fs).isDirectory (sidecarPath (store.callPath call)).dropLast =
        true := by
  have hplaced : store.WellPlaced (store.directoriesMade call fs) :=
    wellPlaced_performAll (store.isPlaced_makeDirectories call) h
  obtain ⟨-, hdirectory, -⟩ := makeDirectories_objectDirectory h call.metadata
  obtain ⟨hdrop, hdrop'⟩ := store.dropLast_objectPath call.metadata (hashBytes call.payload)
  refine ⟨⟨?_, ?_⟩, ?_, ?_⟩
  · exact hplaced.directories _ (store.root_prefix_objectPath _ _) (store.length_objectPath _ _).ge
  · rw [callPath, hdrop]
    exact hdirectory
  · exact hplaced.directories _ (store.root_prefix_sidecarPath _ _)
      (store.length_sidecarPath _ _).ge
  · rw [callPath, hdrop']
    exact hdirectory

/-! ## One call -/

theorem raised_eq_ok_iff {α : Type} (x : Except FileError α) (a : α) :
    raised x = .ok a ↔ x = .ok a := by
  cases x with
  | error error => exact ⟨nofun, nofun⟩
  | ok b => simp [raised]

theorem readBytes_eq_ok_iff (fs : Files) (path : List Bytes) (bytes : Bytes) :
    fs.readBytes path = .ok bytes ↔ fs.content path = some bytes := by
  simp only [FileSystem.readBytes]
  cases hcontent : fs.content path with
  | none => split_ifs <;> simp
  | some found => simp

section Calls

variable [ModelValidateJson]

/-- An existing object passes when it holds the payload and its sidecar reads as the reference. -/
theorem checkExisting_eq_ok_iff (fs : Files) (path : List Bytes) (payload : Bytes)
    (reference result : RawPayloadReference) :
    checkExisting fs path payload reference = .ok result ↔
      fs.content path = some payload ∧
      (∃ text stored, fs.content (sidecarPath path) = some text ∧
        ModelValidateJson.modelValidateJson text = .ok stored ∧ stored.same reference = true) ∧
      result = reference := by
  simp only [checkExisting, readSidecar, bind_eq_ok_iff, raised_eq_ok_iff, readBytes_eq_ok_iff,
    require_eq_ok_iff]
  constructor
  · rintro ⟨existing, hexisting, -, rfl, stored, ⟨text, htext, hstored⟩, -, hsame, hresult⟩
    cases hresult
    exact ⟨hexisting, ⟨text, stored, htext, hstored, hsame⟩, rfl⟩
  · rintro ⟨hexisting, ⟨text, stored, htext, hstored, hsame⟩, rfl⟩
    exact ⟨payload, hexisting, (), rfl, stored, ⟨text, htext, hstored⟩, (), hsame, rfl⟩

/-- A call that runs through, where the object is there. -/
theorem persist_of_present {fs : Files} (h : store.WellPlaced fs) {call : PersistCall}
    (hne : call.payload ≠ []) (hpresent : (fs.content (store.callPath call)).isSome = true) :
    store.persist call.payload call.metadata fs =
      (store.directoriesMade call fs, checkExisting (store.directoriesMade call fs)
        (store.callPath call) call.payload
        (store.buildReference call.metadata call.payload hne)) := by
  have hexists := pathExists_directoriesMade h call
  have hpath := store.dropLast_callPath call
  obtain ⟨hok, -, -⟩ := makeDirectories_objectDirectory h call.metadata
  rw [hpresent] at hexists
  simp only [directoriesMade, callPath] at hexists hpath
  simp only [persist, dif_neg hne, hpath, hok, hexists, if_true, directoriesMade, callPath]

/-- A call that runs through, where the object is not there. -/
theorem persist_of_absent {fs : Files} (h : store.WellPlaced fs) {call : PersistCall}
    (hne : call.payload ≠ []) (habsent : fs.content (store.callPath call) = none) :
    store.persist call.payload call.metadata fs =
      (((store.directoriesMade call fs).setContent (store.callPath call) call.payload).setContent
        (sidecarPath (store.callPath call))
        (sidecarText (store.buildReference call.metadata call.payload hne)),
        .ok (store.buildReference call.metadata call.payload hne)) := by
  have hexists := pathExists_directoriesMade h call
  have hpath := store.dropLast_callPath call
  obtain ⟨hok, -, -⟩ := makeDirectories_objectDirectory h call.metadata
  obtain ⟨⟨hself, hparent⟩, hother, hparent'⟩ := isDirectory_directoriesMade h call
  rw [habsent, Option.isSome_none] at hexists
  have hwrites := FileSystem.performAll_writeTwo hself hparent hother hparent' call.payload
    (sidecarText (store.buildReference call.metadata call.payload hne))
  simp only [directoriesMade, callPath] at hexists hpath hwrites
  simp only [persist, dif_neg hne, hpath, hok, hexists, Bool.false_eq_true, if_false, writeSteps,
    hwrites, directoriesMade, callPath]
  rfl

theorem runCall_of_nil (fs : Files) {call : PersistCall} (hnil : call.payload = []) :
    store.runCall fs call = fs := by
  simp only [runCall, persist, persistSteps, dif_pos hnil, List.take_nil]
  cases call.interruptedAfter <;> rfl

/-- A call keeps to the places of the store. -/
theorem wellPlaced_runCall {fs : Files} (h : store.WellPlaced fs) (call : PersistCall) :
    store.WellPlaced (store.runCall fs call) := by
  have hsteps := store.isPlaced_persistSteps call.payload call.metadata fs
  simp only [runCall]
  cases call.interruptedAfter with
  | none =>
      show store.WellPlaced (store.persist call.payload call.metadata fs).1
      rw [persist_fst]
      exact wellPlaced_performAll hsteps h
  | some n =>
      exact wellPlaced_performAll (fun step hstep => hsteps step (List.mem_of_mem_take hstep)) h

/-- A call whose object is there changes no file. -/
theorem content_runCall_of_present {fs : Files} (h : store.WellPlaced fs) {call : PersistCall}
    (hpresent : (fs.content (store.callPath call)).isSome = true) :
    (store.runCall fs call).content = fs.content := by
  by_cases hne : call.payload = []
  · rw [runCall_of_nil fs hne]
  · obtain ⟨-, -, hcontent⟩ := makeDirectories_objectDirectory h call.metadata
    simp only [runCall]
    cases call.interruptedAfter with
    | none =>
        show (store.persist call.payload call.metadata fs).1.content = fs.content
        rw [persist_of_present h hne hpresent]
        exact hcontent
    | some n =>
        show (fs.performAll ((store.persistSteps call.payload call.metadata fs).take n)).1.content =
          fs.content
        rw [persistSteps_of_present h hne hpresent]
        exact FileSystem.content_performAll_makeDirectories_take fs _ n

/-- The files after a call whose object is not there. -/
theorem content_runCall_of_absent {fs : Files} (h : store.WellPlaced fs) {call : PersistCall}
    (hne : call.payload ≠ []) (habsent : fs.content (store.callPath call) = none) :
    (store.runCall fs call).content =
      ((store.directoriesMade call fs).writtenTwo (store.callPath call)
        (sidecarPath (store.callPath call)) call.payload
        (sidecarText (store.buildReference call.metadata call.payload hne))
        (store.writeCount call (store.buildReference call.metadata call.payload hne))).content := by
  obtain ⟨-, -, hcontent⟩ := makeDirectories_objectDirectory h call.metadata
  simp only [runCall, writeCount]
  cases call.interruptedAfter with
  | none =>
      show (store.persist call.payload call.metadata fs).1.content = _
      rw [persist_of_absent h hne habsent, FileSystem.writtenTwo_of_le _ _ _ (le_refl _)]
  | some n =>
      show (fs.performAll ((store.persistSteps call.payload call.metadata fs).take n)).1.content = _
      have hcount : (FileSystem.makeDirectories (store.objectDirectory call.metadata) :
          List (FileStep Bytes UInt8)).length = store.directoryCount := by
        rw [FileSystem.length_makeDirectories]
        simp [objectDirectory, directoryCount]
      rw [persistSteps_of_absent h hne habsent]
      by_cases hn : n ≤ store.directoryCount
      · -- interrupted before the object file is opened
        rw [List.take_append_of_le_length (by omega),
          FileSystem.content_performAll_makeDirectories_take]
        show _ = (FileSystem.writtenTwo _ _ _ _ _ (n - store.directoryCount)).content
        rw [Nat.sub_eq_zero_of_le hn]
        exact hcontent.symm
      · obtain ⟨⟨hself, hparent⟩, hother, hparent'⟩ := isDirectory_directoriesMade h call
        obtain ⟨hok, -, -⟩ := makeDirectories_objectDirectory h call.metadata
        rw [List.take_append, hcount, List.take_of_length_le (by omega),
          FileSystem.performAll_append hok]
        exact congrArg (fun result => result.1.content)
          (FileSystem.performAll_writeTwo_take hself hparent hother hparent' _ _ _)

/-- A call leaves the objects of other paths alone, and their sidecars. -/
theorem content_runCall_of_ne {fs : Files} (h : store.WellPlaced fs) {call : PersistCall}
    {metadata : BronzePayloadMetadata} {digest : HashHex}
    (hne : store.callPath call ≠ store.objectPath metadata digest.val) :
    (store.runCall fs call).content (store.objectPath metadata digest.val) =
        fs.content (store.objectPath metadata digest.val) ∧
      (store.runCall fs call).content (sidecarPath (store.objectPath metadata digest.val)) =
        fs.content (sidecarPath (store.objectPath metadata digest.val)) := by
  by_cases hnil : call.payload = []
  · rw [runCall_of_nil fs hnil]
    exact ⟨rfl, rfl⟩
  · cases habsent : fs.content (store.callPath call) with
    | some bytes =>
        rw [content_runCall_of_present h (by rw [habsent]; rfl)]
        exact ⟨rfl, rfl⟩
    | none =>
        obtain ⟨-, -, hcontent⟩ := makeDirectories_objectDirectory h call.metadata
        rw [content_runCall_of_absent h hnil habsent]
        have hobject : store.objectPath metadata digest.val ≠ sidecarPath (store.callPath call) :=
          store.objectPath_ne_sidecarPath metadata call.metadata digest (contentHash call.payload)
        have hsidecar : sidecarPath (store.objectPath metadata digest.val) ≠ store.callPath call :=
          (store.objectPath_ne_sidecarPath call.metadata metadata (contentHash call.payload)
            digest).symm
        have hsidecars : sidecarPath (store.objectPath metadata digest.val) ≠
            sidecarPath (store.callPath call) :=
          fun heq => hne (store.sidecarPath_inj heq).symm
        constructor
        · rw [FileSystem.content_writtenTwo_of_ne _ hne.symm hobject]
          exact congrFun hcontent _
        · rw [FileSystem.content_writtenTwo_of_ne _ hsidecar hsidecars]
          exact congrFun hcontent _

/-- A call that does not get to open its object changes no file. -/
theorem content_runCall_of_not_opens {fs : Files} (h : store.WellPlaced fs) {call : PersistCall}
    (hopens : ¬ store.Opens call) : (store.runCall fs call).content = fs.content := by
  by_cases hnil : call.payload = []
  · rw [runCall_of_nil fs hnil]
  · cases habsent : fs.content (store.callPath call) with
    | some bytes => exact content_runCall_of_present h (by rw [habsent]; rfl)
    | none =>
        obtain ⟨-, -, hcontent⟩ := makeDirectories_objectDirectory h call.metadata
        rw [content_runCall_of_absent h hnil habsent]
        have hcount : store.writeCount call
            (store.buildReference call.metadata call.payload hnil) = 0 := by
          simp only [Opens, not_and, not_forall, not_lt] at hopens
          obtain ⟨n, hn, hle⟩ := hopens hnil
          rw [Option.mem_def] at hn
          simp only [writeCount, hn]
          omega
        rw [hcount]
        exact hcontent

omit [ModelValidateJson] in
theorem writeCount_pos {call : PersistCall} (hopens : store.Opens call)
    (reference : RawPayloadReference) : 0 < store.writeCount call reference := by
  obtain ⟨-, hbelow⟩ := hopens
  simp only [writeCount]
  cases hinterrupted : call.interruptedAfter with
  | none => exact Nat.succ_pos _
  | some n => exact Nat.sub_pos_of_lt (hbelow n hinterrupted)

variable (store) in
/-- What a call that opened the object file left at its path and at its sidecar. -/
structure LeftBy (fs : Files) (writer : PersistCall) (hne : writer.payload ≠ []) : Prop where
  object : fs.content (store.callPath writer) = some (writer.payload.take
    (store.writeCount writer (store.buildReference writer.metadata writer.payload hne) - 1))
  sidecar : fs.content (sidecarPath (store.callPath writer)) =
    if store.writeCount writer (store.buildReference writer.metadata writer.payload hne) ≤
      writer.payload.length + 1 then none
    else some ((sidecarText (store.buildReference writer.metadata writer.payload hne)).take
      (store.writeCount writer (store.buildReference writer.metadata writer.payload hne) -
        writer.payload.length - 2))

theorem leftBy_runCall {fs : Files} (h : store.WellPlaced fs) {call : PersistCall}
    (hopens : store.Opens call) (hobject : fs.content (store.callPath call) = none)
    (hsidecar : fs.content (sidecarPath (store.callPath call)) = none) :
    LeftBy store (store.runCall fs call) call hopens.1 := by
  obtain ⟨-, -, hcontent⟩ := makeDirectories_objectDirectory h call.metadata
  have hdiffer : store.callPath call ≠ sidecarPath (store.callPath call) :=
    store.objectPath_ne_sidecarPath call.metadata call.metadata (contentHash call.payload)
      (contentHash call.payload)
  have hmade : (store.directoriesMade call fs).content (sidecarPath (store.callPath call)) =
      none := by
    rw [← hsidecar]
    exact congrFun hcontent _
  constructor
  · rw [content_runCall_of_absent h hopens.1 hobject]
    obtain ⟨n, hn⟩ := Nat.exists_eq_succ_of_ne_zero (writeCount_pos hopens
      (store.buildReference call.metadata call.payload hopens.1)).ne'
    rw [hn, Nat.succ_eq_add_one, FileSystem.content_writtenTwo_first _ hdiffer, Nat.add_sub_cancel]
  · rw [content_runCall_of_absent h hopens.1 hobject,
      FileSystem.content_writtenTwo_second _ hdiffer, hmade]

/-! ## Runs -/

theorem wellPlaced_runCalls {fs : Files} (h : store.WellPlaced fs) (calls : List PersistCall) :
    store.WellPlaced (store.runCalls calls fs) := by
  induction calls generalizing fs with
  | nil => exact h
  | cons call calls ih => exact ih (wellPlaced_runCall h call)

/-- An object file that is there stays as it is, and so does its sidecar. -/
theorem runCalls_of_present {fs : Files} (h : store.WellPlaced fs) (calls : List PersistCall)
    {metadata : BronzePayloadMetadata} {digest : HashHex}
    (hpresent : (fs.content (store.objectPath metadata digest.val)).isSome = true) :
    (store.runCalls calls fs).content (store.objectPath metadata digest.val) =
        fs.content (store.objectPath metadata digest.val) ∧
      (store.runCalls calls fs).content (sidecarPath (store.objectPath metadata digest.val)) =
        fs.content (sidecarPath (store.objectPath metadata digest.val)) := by
  induction calls generalizing fs with
  | nil => exact ⟨rfl, rfl⟩
  | cons call calls ih =>
      have hcall : (store.runCall fs call).content (store.objectPath metadata digest.val) =
            fs.content (store.objectPath metadata digest.val) ∧
          (store.runCall fs call).content (sidecarPath (store.objectPath metadata digest.val)) =
            fs.content (sidecarPath (store.objectPath metadata digest.val)) := by
        by_cases hpath : store.callPath call = store.objectPath metadata digest.val
        · rw [content_runCall_of_present h (by rw [hpath]; exact hpresent)]
          exact ⟨rfl, rfl⟩
        · exact content_runCall_of_ne h hpath
      obtain ⟨hobject, hsidecar⟩ :=
        ih (wellPlaced_runCall h call) (by rw [hcall.1]; exact hpresent)
      exact ⟨hobject.trans hcall.1, hsidecar.trans hcall.2⟩

/-- Without a call that opens the object file, it is not there in the end either. -/
theorem runCalls_of_no_writer {fs : Files} (h : store.WellPlaced fs) {calls : List PersistCall}
    {metadata : BronzePayloadMetadata} {digest : HashHex}
    (hwriter : store.firstWriter calls (store.objectPath metadata digest.val) = none) :
    (store.runCalls calls fs).content (store.objectPath metadata digest.val) =
      fs.content (store.objectPath metadata digest.val) := by
  induction calls generalizing fs with
  | nil => rfl
  | cons call calls ih =>
      have hnone := List.find?_eq_none.mp hwriter
      have hrest : store.firstWriter calls (store.objectPath metadata digest.val) = none :=
        List.find?_eq_none.mpr fun later hlater => hnone later (List.mem_cons_of_mem call hlater)
      have hcall := hnone call List.mem_cons_self
      simp only [decide_eq_true_eq, not_and] at hcall
      have hstep : (store.runCall fs call).content (store.objectPath metadata digest.val) =
          fs.content (store.objectPath metadata digest.val) := by
        by_cases hopens : store.Opens call
        · exact (content_runCall_of_ne h (hcall hopens)).1
        · rw [content_runCall_of_not_opens h hopens]
      exact (ih (wellPlaced_runCall h call) hrest).trans hstep

/-- The first call that opens an object file decides what is found there in the end. -/
theorem runCalls_writer {fs : Files} (h : store.WellPlaced fs) {calls : List PersistCall}
    {metadata : BronzePayloadMetadata} {digest : HashHex} {writer : PersistCall}
    (hobject : fs.content (store.objectPath metadata digest.val) = none)
    (hsidecar : fs.content (sidecarPath (store.objectPath metadata digest.val)) = none)
    (hwriter : store.firstWriter calls (store.objectPath metadata digest.val) = some writer) :
    ∃ hopens : store.Opens writer, store.callPath writer = store.objectPath metadata digest.val ∧
      LeftBy store (store.runCalls calls fs) writer hopens.1 := by
  induction calls generalizing fs with
  | nil => cases hwriter
  | cons call calls ih =>
      by_cases hfirst : store.Opens call ∧ store.callPath call = store.objectPath metadata digest.val
      · have hself : writer = call := by
          rw [firstWriter, List.find?_cons_of_pos (by simpa using hfirst)] at hwriter
          exact (Option.some.inj hwriter).symm
        subst hself
        obtain ⟨hopens, hpath⟩ := hfirst
        refine ⟨hopens, hpath, ?_⟩
        have hleft := leftBy_runCall h hopens (by rw [hpath, hobject]) (by rw [hpath, hsidecar])
        have hkept := @runCalls_of_present store _ _ (wellPlaced_runCall h writer) calls
          writer.metadata (contentHash writer.payload)
          (by
            show ((store.runCall fs writer).content (store.callPath writer)).isSome = true
            rw [hleft.object]
            rfl)
        exact ⟨hkept.1.trans hleft.object, hkept.2.trans hleft.sidecar⟩
      · have hrest : store.firstWriter calls (store.objectPath metadata digest.val) =
            some writer := by
          rw [firstWriter, List.find?_cons_of_neg (by simpa using hfirst)] at hwriter
          exact hwriter
        have hstep : (store.runCall fs call).content (store.objectPath metadata digest.val) = none ∧
            (store.runCall fs call).content (sidecarPath (store.objectPath metadata digest.val)) =
              none := by
          by_cases hopens : store.Opens call
          · obtain ⟨hsame, hsame'⟩ :=
              content_runCall_of_ne h fun hpath => hfirst ⟨hopens, hpath⟩
            exact ⟨hsame.trans hobject, hsame'.trans hsidecar⟩
          · rw [content_runCall_of_not_opens h hopens]
            exact ⟨hobject, hsidecar⟩
        exact ih (wellPlaced_runCall h call) hstep.1 hstep.2 hrest

end Calls

end FilesystemBronzePayloadStore

end TaModel.Storage
