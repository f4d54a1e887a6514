import Mathlib.Data.List.Infix
import Mathlib.Logic.Function.Basic

/-!
# File systems whose operations can be cut short

A file system maps paths to file contents and knows its directories. A program is a list of
elementary steps: make a directory, create (or truncate) a file, append one byte. A program that is
interrupted has performed some of its first steps, so `performAll` of `steps.take n` is every state
an interruption can leave behind.

`performAll_writeFile_take` gives that state for the write of one file.
-/

set_option autoImplicit false

namespace TaModel.Library

/-- Files with their contents, and directories. A path is the list of its components. -/
structure FileSystem (κ β : Type) where
  content : List κ → Option (List β)
  isDirectory : List κ → Bool

inductive FileStep (κ β : Type) where
  /-- `mkdir` that accepts a directory that is there. -/
  | makeDirectory (path : List κ)
  /-- Opening for writing. -/
  | create (path : List κ)
  | append (path : List κ) (byte : β)

inductive FileError where
  | fileExists
  | isADirectory
  | fileNotFound

namespace FileSystem

variable {κ β : Type}

/-- The file or directory is there. -/
def pathExists (fs : FileSystem κ β) (path : List κ) : Bool :=
  (fs.content path).isSome || fs.isDirectory path

/-- The bytes of a file. -/
def readBytes (fs : FileSystem κ β) (path : List κ) : Except FileError (List β) :=
  match fs.content path with
  | some bytes => .ok bytes
  | none => if fs.isDirectory path then .error .isADirectory else .error .fileNotFound

variable [DecidableEq κ]

def setContent (fs : FileSystem κ β) (path : List κ) (bytes : List β) : FileSystem κ β :=
  { fs with content := Function.update fs.content path (some bytes) }

def setDirectory (fs : FileSystem κ β) (path : List κ) : FileSystem κ β :=
  { fs with isDirectory := Function.update fs.isDirectory path true }

/-- One step. -/
def perform (fs : FileSystem κ β) : FileStep κ β → Except FileError (FileSystem κ β)
  | .makeDirectory path =>
      if (fs.content path).isSome then .error .fileExists else .ok (fs.setDirectory path)
  | .create path =>
      if fs.isDirectory path then .error .isADirectory
      else if fs.isDirectory path.dropLast then .ok (fs.setContent path [])
      else .error .fileNotFound
  | .append path byte =>
      match fs.content path with
      | none => .error .fileNotFound
      | some bytes => .ok (fs.setContent path (bytes ++ [byte]))

/-- The steps in turn, up to the first that fails. -/
def performAll (fs : FileSystem κ β) :
    List (FileStep κ β) → FileSystem κ β × Except FileError Unit
  | [] => (fs, .ok ())
  | step :: steps =>
      match fs.perform step with
      | .error error => (fs, .error error)
      | .ok next => next.performAll steps

/-- `mkdir(parents=True, exist_ok=True)`, from the outermost directory on. -/
def makeDirectories (path : List κ) : List (FileStep κ β) :=
  path.inits.tail.map .makeDirectory

/-- Opening a file for writing and writing its bytes. -/
def writeFile (path : List κ) (bytes : List β) : List (FileStep κ β) :=
  .create path :: bytes.map (.append path)

/-! ## Single steps -/

section Steps

variable (fs : FileSystem κ β)

@[simp] theorem content_setContent_self (path : List κ) (bytes : List β) :
    (fs.setContent path bytes).content path = some bytes := by
  simp [setContent]

theorem content_setContent_of_ne {path other : List κ} (h : other ≠ path) (bytes : List β) :
    (fs.setContent path bytes).content other = fs.content other := by
  simp [setContent, h]

@[simp] theorem isDirectory_setContent (path : List κ) (bytes : List β) :
    (fs.setContent path bytes).isDirectory = fs.isDirectory := rfl

@[simp] theorem content_setDirectory (path : List κ) :
    (fs.setDirectory path).content = fs.content := rfl

@[simp] theorem isDirectory_setDirectory_self (path : List κ) :
    (fs.setDirectory path).isDirectory path = true := by
  simp [setDirectory]

theorem isDirectory_setDirectory_of_ne {path other : List κ} (h : other ≠ path) :
    (fs.setDirectory path).isDirectory other = fs.isDirectory other := by
  simp [setDirectory, h]

theorem isDirectory_setDirectory_of_true {path other : List κ} (h : fs.isDirectory other = true) :
    (fs.setDirectory path).isDirectory other = true := by
  by_cases hpath : other = path
  · subst hpath
    exact isDirectory_setDirectory_self fs other
  · rw [isDirectory_setDirectory_of_ne fs hpath, h]

@[simp] theorem setContent_setContent (path : List κ) (bytes bytes' : List β) :
    (fs.setContent path bytes).setContent path bytes' = fs.setContent path bytes' := by
  simp [setContent]

variable {fs}

theorem perform_makeDirectory {path : List κ} (h : fs.content path = none) :
    fs.perform (.makeDirectory path) = .ok (fs.setDirectory path) := by
  simp [perform, h]

theorem perform_create {path : List κ} (hself : fs.isDirectory path = false)
    (hparent : fs.isDirectory path.dropLast = true) :
    fs.perform (.create path) = .ok (fs.setContent path []) := by
  simp [perform, hself, hparent]

theorem perform_append {path : List κ} {bytes : List β} (h : fs.content path = some bytes)
    (byte : β) : fs.perform (.append path byte) = .ok (fs.setContent path (bytes ++ [byte])) := by
  simp [perform, h]

/-- A step that goes through sets the directory or the content of its path. -/
theorem perform_cases {step : FileStep κ β} {next : FileSystem κ β}
    (h : fs.perform step = .ok next) :
    (∃ path, step = .makeDirectory path ∧ next = fs.setDirectory path) ∨
      ∃ path bytes, (step = .create path ∨ ∃ byte, step = .append path byte) ∧
        next = fs.setContent path bytes := by
  cases step with
  | makeDirectory path =>
      simp only [perform] at h
      split_ifs at h
      cases h
      exact Or.inl ⟨path, rfl, rfl⟩
  | create path =>
      simp only [perform] at h
      split_ifs at h
      cases h
      exact Or.inr ⟨path, [], Or.inl rfl, rfl⟩
  | append path byte =>
      simp only [perform] at h
      split at h
      · cases h
      · cases h
        exact Or.inr ⟨path, _, Or.inr ⟨byte, rfl⟩, rfl⟩

end Steps

/-! ## Programs -/

theorem performAll_cons_ok {fs next : FileSystem κ β} {step : FileStep κ β}
    (h : fs.perform step = .ok next) (steps : List (FileStep κ β)) :
    fs.performAll (step :: steps) = next.performAll steps := by
  simp only [performAll, h]

theorem performAll_append {fs : FileSystem κ β} {steps : List (FileStep κ β)}
    (h : (fs.performAll steps).2 = .ok ()) (more : List (FileStep κ β)) :
    fs.performAll (steps ++ more) = (fs.performAll steps).1.performAll more := by
  induction steps generalizing fs with
  | nil => rfl
  | cons step steps ih =>
      simp only [List.cons_append, performAll] at h ⊢
      cases hstep : fs.perform step with
      | error error =>
          rw [hstep] at h
          cases h
      | ok next =>
          rw [hstep] at h
          exact ih h

theorem performAll_append_of_error {fs : FileSystem κ β} {steps : List (FileStep κ β)}
    {error : FileError} (h : (fs.performAll steps).2 = .error error)
    (more : List (FileStep κ β)) : fs.performAll (steps ++ more) = fs.performAll steps := by
  induction steps generalizing fs with
  | nil => cases h
  | cons step steps ih =>
      simp only [List.cons_append, performAll] at h ⊢
      cases hstep : fs.perform step with
      | error error => rfl
      | ok next =>
          rw [hstep] at h
          exact ih h

/-- What every step of a program keeps, the program keeps, however far it gets. -/
theorem performAll_invariant {Holds : FileSystem κ β → Prop} {steps : List (FileStep κ β)}
    (hstep : ∀ step ∈ steps, ∀ fs next, Holds fs → fs.perform step = .ok next → Holds next)
    {fs : FileSystem κ β} (h : Holds fs) : Holds (fs.performAll steps).1 := by
  induction steps generalizing fs with
  | nil => exact h
  | cons step steps ih =>
      simp only [performAll]
      cases hperform : fs.perform step with
      | error error => exact h
      | ok next =>
          apply ih
          · intro later hlater
            exact hstep later (List.mem_cons_of_mem step hlater)
          · exact hstep step List.mem_cons_self fs next h hperform

/-! ## Directories -/

/-- Making directories changes no file. -/
theorem content_performAll_makeDirectory (fs : FileSystem κ β) (paths : List (List κ)) :
    (fs.performAll (paths.map .makeDirectory)).1.content = fs.content := by
  refine @performAll_invariant _ _ _ (fun current => current.content = fs.content) _ ?_ fs rfl
  intro step hstep current next hcontent hperform
  obtain ⟨path, -, rfl⟩ := List.mem_map.mp hstep
  rcases perform_cases hperform with ⟨path', -, rfl⟩ | ⟨path', bytes, heq | ⟨byte, heq⟩, -⟩
  · exact hcontent
  · cases heq
  · cases heq

/-- Where no file is in the way, every directory is there afterwards. -/
theorem performAll_makeDirectory {fs : FileSystem κ β} {paths : List (List κ)}
    (h : ∀ path ∈ paths, fs.content path = none) :
    (fs.performAll (paths.map .makeDirectory)).2 = .ok () ∧
      ∀ path, (path ∈ paths ∨ fs.isDirectory path = true) →
        (fs.performAll (paths.map .makeDirectory)).1.isDirectory path = true := by
  induction paths generalizing fs with
  | nil => exact ⟨rfl, fun path hpath => hpath.resolve_left List.not_mem_nil⟩
  | cons first paths ih =>
      rw [List.map_cons,
        performAll_cons_ok (perform_makeDirectory (h first List.mem_cons_self))]
      obtain ⟨hok, hmade⟩ := @ih (fs.setDirectory first) fun path hpath =>
        h path (List.mem_cons_of_mem first hpath)
      refine ⟨hok, fun path hpath => hmade path ?_⟩
      rcases hpath with hmem | hbefore
      · rcases List.mem_cons.mp hmem with rfl | hrest
        · exact Or.inr (isDirectory_setDirectory_self fs path)
        · exact Or.inl hrest
      · exact Or.inr (isDirectory_setDirectory_of_true fs hbefore)

/-- Where no file is in the way, `mkdir` with parents goes through and changes no file. -/
theorem performAll_makeDirectories {fs : FileSystem κ β} {path : List κ} (hne : path ≠ [])
    (h : ∀ parent, parent <+: path → fs.content parent = none) :
    (fs.performAll (makeDirectories path)).2 = .ok () ∧
      (fs.performAll (makeDirectories path)).1.isDirectory path = true ∧
      (fs.performAll (makeDirectories path)).1.content = fs.content := by
  have hself : path ∈ path.inits.tail := by
    obtain ⟨first, rest, rfl⟩ := List.exists_cons_of_ne_nil hne
    rw [List.inits_cons, List.tail_cons]
    exact List.mem_map_of_mem ((List.mem_inits rest rest).mpr (List.prefix_refl rest))
  obtain ⟨hok, hmade⟩ := @performAll_makeDirectory _ _ _ fs path.inits.tail fun parent hparent =>
    h parent ((List.mem_inits parent path).mp (List.mem_of_mem_tail hparent))
  exact ⟨hok, hmade path (Or.inl hself), content_performAll_makeDirectory fs _⟩

omit [DecidableEq κ] in
theorem length_makeDirectories (path : List κ) :
    (makeDirectories path : List (FileStep κ β)).length = path.length := by
  simp [makeDirectories]

/-- Some of the directories change no file either. -/
theorem content_performAll_makeDirectories_take (fs : FileSystem κ β) (path : List κ) (n : Nat) :
    (fs.performAll ((makeDirectories path).take n)).1.content = fs.content := by
  rw [makeDirectories, ← List.map_take]
  exact content_performAll_makeDirectory fs _

/-! ## Writing a file -/

/-- Appending to a file that is there. -/
theorem performAll_append_bytes {fs : FileSystem κ β} {path : List κ} (written bytes : List β) :
    (fs.setContent path written).performAll (bytes.map (.append path)) =
      (fs.setContent path (written ++ bytes), .ok ()) := by
  induction bytes generalizing written with
  | nil => simp [performAll]
  | cons byte bytes ih =>
      have hstep := perform_append (content_setContent_self fs path written) byte
      rw [List.map_cons, performAll_cons_ok hstep, setContent_setContent, ih, List.append_assoc,
        List.singleton_append]

/-- After `n + 1` steps of the write the file holds the first `n` bytes. -/
theorem performAll_writeFile_take {fs : FileSystem κ β} {path : List κ}
    (hself : fs.isDirectory path = false) (hparent : fs.isDirectory path.dropLast = true)
    (bytes : List β) (n : Nat) :
    fs.performAll ((writeFile path bytes).take (n + 1)) =
      (fs.setContent path (bytes.take n), .ok ()) := by
  rw [writeFile, List.take_succ_cons, performAll_cons_ok (perform_create hself hparent), ← List.map_take,
    performAll_append_bytes, List.nil_append]

omit [DecidableEq κ] in
theorem length_writeFile (path : List κ) (bytes : List β) :
    (writeFile path bytes : List (FileStep κ β)).length = bytes.length + 1 := by
  simp [writeFile]

/-- A write that is not interrupted. -/
theorem performAll_writeFile {fs : FileSystem κ β} {path : List κ}
    (hself : fs.isDirectory path = false) (hparent : fs.isDirectory path.dropLast = true)
    (bytes : List β) :
    fs.performAll (writeFile path bytes) = (fs.setContent path bytes, .ok ()) := by
  have htake := performAll_writeFile_take hself hparent bytes bytes.length
  rwa [← length_writeFile path bytes, List.take_length, List.take_length] at htake

/-! ## Writing two files -/

/-- What the write of a file and then of another one leaves behind after `n` steps. -/
def writtenTwo (fs : FileSystem κ β) (path other : List κ) (bytes more : List β) :
    Nat → FileSystem κ β
  | 0 => fs
  | n + 1 =>
      if n ≤ bytes.length then fs.setContent path (bytes.take n)
      else (fs.setContent path bytes).setContent other (more.take (n - bytes.length - 1))

theorem performAll_writeTwo_take {fs : FileSystem κ β} {path other : List κ}
    (hself : fs.isDirectory path = false) (hparent : fs.isDirectory path.dropLast = true)
    (hother : fs.isDirectory other = false) (hparent' : fs.isDirectory other.dropLast = true)
    (bytes more : List β) (n : Nat) :
    fs.performAll ((writeFile path bytes ++ writeFile other more).take n) =
      (fs.writtenTwo path other bytes more n, .ok ()) := by
  cases n with
  | zero => rfl
  | succ n =>
      have hlength : (writeFile path bytes : List (FileStep κ β)).length = bytes.length + 1 :=
        length_writeFile path bytes
      simp only [writtenTwo]
      split_ifs with hle
      · rw [List.take_append_of_le_length (by omega),
          performAll_writeFile_take hself hparent bytes n]
      · -- the first file is complete, the second one has been opened
        obtain ⟨k, hk⟩ : ∃ k, n = bytes.length + 1 + k := ⟨n - bytes.length - 1, by omega⟩
        have hfirst := performAll_writeFile hself hparent bytes
        have hsplit : (writeFile path bytes ++ writeFile other more).take (n + 1) =
            writeFile path bytes ++ (writeFile other more).take (k + 1) := by
          rw [List.take_append, hlength, List.take_of_length_le (by omega),
            show n + 1 - (bytes.length + 1) = k + 1 by omega]
        have hrest : n - bytes.length - 1 = k := by omega
        rw [hsplit, performAll_append (by rw [hfirst]), hfirst, hrest]
        exact @performAll_writeFile_take _ _ _ (fs.setContent path bytes) other hother hparent'
          more k

/-- Both writes without an interruption. -/
theorem performAll_writeTwo {fs : FileSystem κ β} {path other : List κ}
    (hself : fs.isDirectory path = false) (hparent : fs.isDirectory path.dropLast = true)
    (hother : fs.isDirectory other = false) (hparent' : fs.isDirectory other.dropLast = true)
    (bytes more : List β) :
    fs.performAll (writeFile path bytes ++ writeFile other more) =
      ((fs.setContent path bytes).setContent other more, .ok ()) := by
  rw [performAll_append (by rw [performAll_writeFile hself hparent])]
  rw [performAll_writeFile hself hparent]
  exact @performAll_writeFile _ _ _ (fs.setContent path bytes) other hother hparent' more

/-- With all its steps both files are written. -/
theorem writtenTwo_of_le (fs : FileSystem κ β) (path other : List κ) {bytes more : List β} {n : Nat}
    (hn : bytes.length + more.length + 2 ≤ n) :
    fs.writtenTwo path other bytes more n =
      (fs.setContent path bytes).setContent other more := by
  obtain ⟨k, rfl⟩ : ∃ k, n = k + 1 := ⟨n - 1, by omega⟩
  simp only [writtenTwo]
  rw [if_neg (by omega), List.take_of_length_le (by omega)]

theorem content_writtenTwo_first (fs : FileSystem κ β) {path other : List κ} (hne : path ≠ other)
    (bytes more : List β) (n : Nat) :
    (fs.writtenTwo path other bytes more (n + 1)).content path = some (bytes.take n) := by
  simp only [writtenTwo]
  split_ifs with hle
  · rw [content_setContent_self]
  · rw [content_setContent_of_ne _ hne, content_setContent_self, List.take_of_length_le (by omega)]

theorem content_writtenTwo_second (fs : FileSystem κ β) {path other : List κ} (hne : path ≠ other)
    (bytes more : List β) (n : Nat) :
    (fs.writtenTwo path other bytes more n).content other =
      if n ≤ bytes.length + 1 then fs.content other
      else some (more.take (n - bytes.length - 2)) := by
  cases n with
  | zero => rfl
  | succ n =>
      simp only [writtenTwo]
      by_cases hle : n ≤ bytes.length
      · rw [if_pos hle, if_pos (by omega), content_setContent_of_ne _ hne.symm]
      · rw [if_neg hle, if_neg (by omega), content_setContent_self,
          show n + 1 - bytes.length - 2 = n - bytes.length - 1 by omega]

theorem content_writtenTwo_of_ne (fs : FileSystem κ β) {path other third : List κ}
    (h : third ≠ path) (h' : third ≠ other) (bytes more : List β) (n : Nat) :
    (fs.writtenTwo path other bytes more n).content third = fs.content third := by
  cases n with
  | zero => rfl
  | succ n =>
      simp only [writtenTwo]
      split_ifs
      · rw [content_setContent_of_ne _ h]
      · rw [content_setContent_of_ne _ h', content_setContent_of_ne _ h]

end FileSystem

end TaModel.Library
