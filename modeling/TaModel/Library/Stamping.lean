import Mathlib.Init

/-!
# Records stamped with the digest of their own content

A stamped record stores a digest of its content and an identifier derived from the digest. A
`Stamping` says which components these are, what the content digest is and which other checks the
record must pass. The point of the module is `construct_eq_ok_iff`: a record built by stamping its
own draft can fail only the checks that look at neither the digest nor the identifier.
-/

set_option autoImplicit false

namespace TaModel.Library

/-- How records of type `α` store a digest and an identifier of type `δ`; checks report errors of
type `ε`. The laws say that stamping sets the two components and touches nothing else. -/
structure Stamping (α δ ε : Type) where
  checkFields : α → Except ε Unit
  storedHash : α → δ
  storedId : α → δ
  contentHash : α → δ
  idOfHash : δ → δ
  stamp : α → δ → δ → α
  hashError : ε
  idError : ε
  storedHash_stamp : ∀ a h i, storedHash (stamp a h i) = h
  storedId_stamp : ∀ a h i, storedId (stamp a h i) = i
  contentHash_stamp : ∀ a h i, contentHash (stamp a h i) = contentHash a
  checkFields_stamp : ∀ a h i, checkFields (stamp a h i) = checkFields a

namespace Stamping

variable {α δ ε : Type} (S : Stamping α δ ε)

/-- The draft with its own digest and identifier filled in. -/
def sealed (draft : α) : α :=
  S.stamp draft (S.contentHash draft) (S.idOfHash (S.contentHash draft))

theorem contentHash_sealed (draft : α) : S.contentHash (S.sealed draft) = S.contentHash draft :=
  S.contentHash_stamp draft _ _

section Validation

variable [DecidableEq δ]

/-- Field checks, then the digest, then the identifier. -/
def validate (a : α) : Except ε Unit := do
  S.checkFields a
  if S.storedHash a = S.contentHash a then .ok () else .error S.hashError
  if S.storedId a = S.idOfHash (S.contentHash a) then .ok () else .error S.idError

/-- Seal a draft and validate it. -/
def construct (draft : α) : Except ε α := do
  S.validate (S.sealed draft)
  .ok (S.sealed draft)

theorem validate_eq_ok_iff (a : α) :
    S.validate a = .ok () ↔ S.checkFields a = .ok () ∧ S.storedHash a = S.contentHash a ∧
      S.storedId a = S.idOfHash (S.contentHash a) := by
  unfold validate
  cases hfields : S.checkFields a with
  | error e => simp [bind, Except.bind]
  | ok u =>
      by_cases hhash : S.storedHash a = S.contentHash a
      · by_cases hid : S.storedId a = S.idOfHash (S.contentHash a)
        · simp [bind, Except.bind, hhash, hid]
        · simp [bind, Except.bind, hhash, hid]
      · simp [bind, Except.bind, hhash]

theorem validate_sealed (draft : α) :
    S.validate (S.sealed draft) = .ok () ↔ S.checkFields draft = .ok () := by
  rw [validate_eq_ok_iff, contentHash_sealed]
  have hfields : S.checkFields (S.sealed draft) = S.checkFields draft :=
    S.checkFields_stamp draft _ _
  have hhash : S.storedHash (S.sealed draft) = S.contentHash draft :=
    S.storedHash_stamp draft _ _
  have hid : S.storedId (S.sealed draft) = S.idOfHash (S.contentHash draft) :=
    S.storedId_stamp draft _ _
  rw [hfields]
  exact ⟨fun h => h.1, fun h => ⟨h, hhash, hid⟩⟩

/-- A sealed draft never fails its digest and identifier checks. -/
theorem construct_eq_ok_iff (draft a : α) :
    S.construct draft = .ok a ↔ S.checkFields draft = .ok () ∧ a = S.sealed draft := by
  rw [← validate_sealed]
  unfold construct
  cases hv : S.validate (S.sealed draft) with
  | error e => simp [bind, Except.bind]
  | ok u =>
      constructor
      · intro h
        cases h
        exact ⟨rfl, rfl⟩
      · rintro ⟨-, rfl⟩
        rfl

theorem validate_of_construct {draft a : α} (h : S.construct draft = .ok a) :
    S.validate a = .ok () := by
  obtain ⟨hfields, rfl⟩ := (S.construct_eq_ok_iff draft a).mp h
  exact (S.validate_sealed draft).mpr hfields

end Validation

end Stamping

end TaModel.Library
