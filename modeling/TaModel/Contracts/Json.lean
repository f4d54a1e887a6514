import TaModel.Contracts.Canonical
import Mathlib.Data.List.Nodup

/-!
# Reading JSON values into contract fields

`Json` is what `json.loads` returns. The readers are the field validations of the contract models:
strings are stripped, ids must be canonical, enumerations match their value, unknown keys are
rejected. Timestamps are written as the leaf `instant`; how timestamps and booleans are read from
any other JSON value is up to the validation library, the parameter `LaxParsing`.
-/

set_option autoImplicit false

namespace TaModel.Contracts

/-- A JSON value. `instant t` is the text a contract writes for the timestamp `t`. -/
inductive Json where
  | null
  | bool (b : Bool)
  | int (n : Int)
  | number (q : ℚ)
  | text (s : String)
  | instant (t : AwareDatetime)
  | list (items : List Json)
  | record (fields : List (String × Json))

/-- What the validation library accepts as a timestamp or a boolean beyond the forms the contracts
write themselves. -/
class LaxParsing where
  datetime : Json → Option AwareDatetime
  bool : Json → Option Bool

namespace Json

/-- The value of a key; of repeated keys the last one counts. -/
def field (fields : List (String × Json)) (key : String) : Option Json :=
  (fields.reverse.find? fun f => f.1 == key).map Prod.snd

/-- A required field. -/
def required {α : Type} (fields : List (String × Json)) (key : String) (read : Json → Option α) :
    Option α :=
  (field fields key).bind read

/-- A field with a default for an absent key. -/
def optional {α : Type} (fields : List (String × Json)) (key : String) (read : Json → Option α)
    (default : α) : Option α :=
  match field fields key with
  | none => some default
  | some json => read json

/-- `extra="forbid"`. -/
def onlyKeys (fields : List (String × Json)) (keys : List String) : Bool :=
  fields.all fun f => decide (f.1 ∈ keys)

/-- A string, stripped. -/
def readString : Json → Option String
  | .text s => some (strip s)
  | .instant t => some t.isoformat
  | _ => none

def readNonEmptyString (json : Json) : Option String :=
  (readString json).filter fun s => s != ""

def readCanonicalId (json : Json) : Option String := (readString json).filter isCanonicalId

/-- A value or null. -/
def readOption {α : Type} (read : Json → Option α) : Json → Option (Option α)
  | .null => some none
  | json => (read json).map some

/-- Every item of a list, or nothing when one item is rejected. -/
def readAll {α : Type} (read : Json → Option α) : List Json → Option (List α)
  | [] => some []
  | item :: items =>
      match read item, readAll read items with
      | some a, some as => some (a :: as)
      | _, _ => none

def readList {α : Type} (read : Json → Option α) : Json → Option (List α)
  | .list items => readAll read items
  | _ => none

/-- A member of an enumeration, by its value. -/
def readEnum {α : Type} (members : List α) (value : α → String) : Json → Option α
  | .text s => members.find? fun a => value a == s
  | _ => none

section Lax

variable [LaxParsing]

def readDatetime : Json → Option AwareDatetime
  | .instant t => some t
  | json => LaxParsing.datetime json

def readBool : Json → Option Bool
  | .bool b => some b
  | json => LaxParsing.bool json

end Lax

/-! ## Reading back what was written -/

theorem readNonEmptyString_text {s : String} (h : isNonEmptyString s = true) :
    readNonEmptyString (.text s) = some s := by
  simp only [isNonEmptyString, Bool.and_eq_true, beq_iff_eq] at h
  simp [readNonEmptyString, readString, h.2, h.1]

theorem readCanonicalId_text {s : String} (h : isCanonicalId s = true) :
    readCanonicalId (.text s) = some s := by
  simp [readCanonicalId, readString, strip_of_isCanonicalId h, h]

/-- Where no key is repeated, a field is found under its key. -/
theorem field_of_mem {fields : List (String × Json)} {key : String} {json : Json}
    (hnodup : (fields.map Prod.fst).Nodup) (h : (key, json) ∈ fields) :
    field fields key = some json := by
  have hfind : fields.reverse.find? (fun f => f.1 == key) = some (key, json) := by
    cases hfound : fields.reverse.find? (fun f => f.1 == key) with
    | none =>
        have hnone := List.find?_eq_none.mp hfound (key, json) (List.mem_reverse.mpr h)
        simp at hnone
    | some f =>
        have hkey : f.1 = key := by simpa using List.find?_some hfound
        have hmem : f ∈ fields := List.mem_reverse.mp (List.mem_of_find?_eq_some hfound)
        exact congrArg some (List.inj_on_of_nodup_map hnodup hmem h hkey)
  simp [field, hfind]

theorem required_of_mem {α : Type} {fields : List (String × Json)} {key : String} {json : Json}
    {read : Json → Option α} {a : α} (hnodup : (fields.map Prod.fst).Nodup)
    (h : (key, json) ∈ fields) (hread : read json = some a) :
    required fields key read = some a := by
  simp [required, field_of_mem hnodup h, hread]

theorem optional_of_mem {α : Type} {fields : List (String × Json)} {key : String} {json : Json}
    {read : Json → Option α} {default a : α} (hnodup : (fields.map Prod.fst).Nodup)
    (h : (key, json) ∈ fields) (hread : read json = some a) :
    optional fields key read default = some a := by
  simp [optional, field_of_mem hnodup h, hread]

theorem onlyKeys_map_fst (fields : List (String × Json)) :
    onlyKeys fields (fields.map Prod.fst) = true := by
  simp only [onlyKeys, List.all_eq_true, decide_eq_true_eq]
  intro f hf
  exact List.mem_map_of_mem hf

/-- A text or null. -/
def ofOption : Option String → Json
  | none => .null
  | some s => .text s

theorem readOption_ofOption {read : Json → Option String} {s : Option String}
    (h : ∀ a ∈ s, read (.text a) = some a) : readOption read (ofOption s) = some s := by
  cases s with
  | none => rfl
  | some a =>
      show (read (.text a)).map some = some (some a)
      rw [h a rfl]
      rfl

theorem readAll_map {α β : Type} {read : Json → Option α} {write : β → Json} {f : β → α}
    {items : List β} (h : ∀ a ∈ items, read (write a) = some (f a)) :
    readAll read (items.map write) = some (items.map f) := by
  induction items with
  | nil => rfl
  | cons a items ih =>
      simp only [List.map_cons, readAll]
      rw [h a List.mem_cons_self, ih fun b hb => h b (List.mem_cons_of_mem a hb)]

theorem readAll_forall {α : Type} {read : Json → Option α} {p : α → Prop}
    (hread : ∀ json a, read json = some a → p a) {items : List Json} {values : List α}
    (h : readAll read items = some values) : ∀ a ∈ values, p a := by
  induction items generalizing values with
  | nil =>
      cases h
      intro a ha
      cases ha
  | cons item items ih =>
      simp only [readAll] at h
      split at h
      case h_1 a as ha has =>
        cases h
        intro b hb
        rcases List.mem_cons.mp hb with rfl | hb
        · exact hread item b ha
        · exact ih has b hb
      case h_2 => cases h

end Json

end TaModel.Contracts
