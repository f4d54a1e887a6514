import TaModel.Library.AsciiText
import Mathlib.Data.Rat.Defs
import Mathlib.Algebra.Order.Ring.Rat
import Mathlib.Order.Basic

/-!
# Canonical values, timestamps and stable identifiers

Every contract of `ta_model.contracts` identifies its records by a SHA-256 digest of a canonical
JSON payload. `Payload` is the tree handed to `json.dumps`, `Sha256` is the digest of its canonical
rendering, and `stableId` is the repository's `_stable_id`. The digest is a class parameter: results
stated over `[Sha256]` hold for every digest function.

Decimals are rationals, and a payload prints the value: two written forms of one value, such as
`100.0` and `100.00`, are kept apart only where a record stores the written form itself. A timestamp
keeps its instant and its UTC offset: comparisons look at the instant, `isoformat` prints the local
reading and the offset.
-/

set_option autoImplicit false

namespace TaModel.Contracts

open Library

/-! ## Failing computations -/

/-- A computation of the source that may raise; the error is the message of the exception. -/
abbrev Raises (α : Type) := Except String α

/-- One `if not ok: raise ValueError(message)` line of a validator. -/
def require (ok : Prop) [Decidable ok] (message : String) : Raises Unit :=
  if ok then .ok () else .error message

@[simp] theorem require_eq_ok_iff (ok : Prop) [Decidable ok] (message : String) (u : Unit) :
    require ok message = .ok u ↔ ok := by
  unfold require
  split <;> simp_all

theorem require_of {ok : Prop} [Decidable ok] (h : ok) (message : String) :
    require ok message = .ok () := if_pos h

/-- Inversion of a successful bind. -/
theorem bind_eq_ok_iff {α β : Type} (x : Raises α) (f : α → Raises β) (b : β) :
    (x >>= f) = .ok b ↔ ∃ a, x = .ok a ∧ f a = .ok b := by
  cases x with
  | error e => simp [bind, Except.bind]
  | ok a => simp [bind, Except.bind]

/-- Inversion of a check followed by more work. -/
theorem check_bind_eq_ok_iff {β : Type} (check : Raises Unit) (f : Unit → Raises β) (b : β) :
    (check >>= f) = .ok b ↔ check = .ok () ∧ f () = .ok b := by
  rw [bind_eq_ok_iff]
  exact ⟨fun ⟨_, hcheck, hrest⟩ => ⟨hcheck, hrest⟩, fun h => ⟨(), h⟩⟩

/-- A bind succeeds when its first part does and the rest succeeds on every value. -/
theorem exists_ok_bind {α β : Type} {x : Raises α} {f : α → Raises β} (hx : ∃ a, x = .ok a)
    (hf : ∀ a, ∃ b, f a = .ok b) : ∃ b, (x >>= f) = .ok b := by
  obtain ⟨a, rfl⟩ := hx
  exact hf a

theorem map_eq_ok_iff {α β : Type} (g : α → β) (x : Raises α) (b : β) :
    (g <$> x) = .ok b ↔ ∃ a, x = .ok a ∧ g a = b := by
  cases x with
  | error e => exact ⟨nofun, fun ⟨_, h, _⟩ => nomatch h⟩
  | ok a => exact ⟨fun h => ⟨a, rfl, Except.ok.inj h⟩, fun ⟨_, ha, hb⟩ => by cases ha; cases hb; rfl⟩

/-- A successful bind on a computation known to succeed. -/
theorem ok_bind {α β : Type} (a : α) (f : α → Raises β) : ((.ok a : Raises α) >>= f) = f a := rfl

theorem error_bind {α β : Type} (e : String) (f : α → Raises β) :
    ((.error e : Raises α) >>= f) = .error e := rfl

/-- A check that does not raise passes. -/
theorem ok_unit_of_toBool (x : Raises Unit) (h : x.toBool = true) : x = .ok () := by
  cases x with
  | error e => cases h
  | ok u => rfl

theorem exists_ok_of_toBool {α : Type} {x : Raises α} (h : x.toBool = true) : ∃ a, x = .ok a := by
  cases x with
  | error e => cases h
  | ok a => exact ⟨a, rfl⟩

/-- A loop of checks passes when each of them does. -/
theorem forM_eq_ok_iff {α : Type} (check : α → Raises Unit) (xs : List α) :
    xs.forM check = .ok () ↔ ∀ x ∈ xs, check x = .ok () := by
  induction xs with
  | nil => exact ⟨fun _ x hx => absurd hx List.not_mem_nil, fun _ => rfl⟩
  | cons x xs ih =>
      have hcons : (x :: xs).forM check = check x >>= fun _ => xs.forM check := rfl
      rw [hcons, bind_eq_ok_iff, List.forall_mem_cons, ← ih]
      constructor
      · rintro ⟨u, hx, hxs⟩
        exact ⟨hx, hxs⟩
      · rintro ⟨hx, hxs⟩
        exact ⟨(), hx, hxs⟩

/-- A loop that collects results succeeds when each item gives its result. -/
theorem mapM_eq_ok_iff {α β : Type} (f : α → Raises β) (xs : List α) (ys : List β) :
    xs.mapM f = .ok ys ↔ List.Forall₂ (fun x y => f x = .ok y) xs ys := by
  induction xs generalizing ys with
  | nil =>
      rw [List.mapM_nil]
      constructor
      · intro h
        cases h
        exact .nil
      · intro h
        cases h
        rfl
  | cons x xs ih =>
      rw [List.mapM_cons, bind_eq_ok_iff]
      constructor
      · rintro ⟨y, hy, hrest⟩
        obtain ⟨ys', hys', hout⟩ := (bind_eq_ok_iff _ _ _).mp hrest
        cases hout
        exact .cons hy ((ih ys').mp hys')
      · intro h
        cases h with
        | cons hy hys => exact ⟨_, hy, (bind_eq_ok_iff _ _ _).mpr ⟨_, (ih _).mpr hys, rfl⟩⟩

/-! ## Decimals -/

/-- `Decimal` of the contracts, in exact arithmetic. -/
abbrev Decimal := ℚ

namespace Decimal

/-! The bounds of the literals that defaults and samples are made of. -/

theorem zero_le_zero : (0 : Decimal) ≤ 0 := le_refl 0
theorem zero_lt_one : (0 : Decimal) < 1 := by decide
theorem zero_le_one : (0 : Decimal) ≤ 1 := by decide
theorem zero_le_ten : (0 : Decimal) ≤ 10 := by decide
theorem zero_le_fifty : (0 : Decimal) ≤ 50 := by decide
theorem zero_lt_hundred : (0 : Decimal) < 100 := by decide
theorem zero_le_hundred : (0 : Decimal) ≤ 100 := by decide
theorem zero_lt_hundredThousand : (0 : Decimal) < 100000 := by decide
theorem zero_le_hundredThousand : (0 : Decimal) ≤ 100000 := by decide
theorem zero_mem_unit : (0 : Decimal) ≤ 0 ∧ (0 : Decimal) ≤ 1 := by decide
theorem one_mem_unit : (0 : Decimal) ≤ 1 ∧ (1 : Decimal) ≤ 1 := by decide
theorem zero_is_fee : (0 : Decimal) ≤ 0 ∧ (0 : Decimal) ≤ 1 / 20 := by decide +kernel
theorem one_is_fraction : (0 : Decimal) < 1 ∧ (1 : Decimal) ≤ 1 := by decide
theorem half_is_level : (0 : Decimal) < 1 / 2 ∧ (1 / 2 : Decimal) < 1 := by decide +kernel

end Decimal

/-- `Annotated[Decimal, Field(gt=Decimal("0"))]`. -/
abbrev PositiveDecimal := {q : Decimal // 0 < q}

/-- `Annotated[Decimal, Field(ge=Decimal("0"))]`. -/
abbrev NonNegativeDecimal := {q : Decimal // 0 ≤ q}

/-- `Annotated[Decimal, Field(ge=Decimal("0"), le=Decimal("0.05"))]`. -/
abbrev BoundedFeeRate := {q : Decimal // 0 ≤ q ∧ q ≤ 1 / 20}

/-- `Annotated[Decimal, Field(gt=Decimal("0"), le=Decimal("1"))]`. -/
abbrev BoundedRiskFraction := {q : Decimal // 0 < q ∧ q ≤ 1}

/-! ## Timestamps -/

/-- A timezone-aware timestamp: microseconds since the epoch in UTC, and the UTC offset in
seconds under which it is written. -/
structure AwareDatetime where
  utc : Int
  offset : Int
deriving DecidableEq

namespace AwareDatetime

instance : Preorder AwareDatetime where
  le a b := a.utc ≤ b.utc
  lt a b := a.utc < b.utc
  le_refl a := Int.le_refl a.utc
  le_trans _ _ _ := Int.le_trans
  lt_iff_le_not_ge _ _ := Int.lt_iff_le_and_not_ge

instance (a b : AwareDatetime) : Decidable (a ≤ b) := inferInstanceAs (Decidable (a.utc ≤ b.utc))

instance (a b : AwareDatetime) : Decidable (a < b) := inferInstanceAs (Decidable (a.utc < b.utc))

theorem le_def (a b : AwareDatetime) : a ≤ b ↔ a.utc ≤ b.utc := Iff.rfl

theorem lt_def (a b : AwareDatetime) : a < b ↔ a.utc < b.utc := Iff.rfl

theorem not_le_iff (a b : AwareDatetime) : ¬ a ≤ b ↔ b < a := by
  simp [le_def, lt_def]

theorem not_lt_iff (a b : AwareDatetime) : ¬ a < b ↔ b ≤ a := by
  simp [le_def, lt_def]

theorem le_or_le (a b : AwareDatetime) : a ≤ b ∨ b ≤ a := Int.le_total a.utc b.utc

/-- `==` of two aware datetimes: they denote one instant. -/
def sameInstant (a b : AwareDatetime) : Bool := a.utc == b.utc

/-- Decimal digits of `n`, padded with zeros to `width`. -/
def padded (width n : Nat) : String :=
  let digits := toString n
  String.ofList (List.replicate (width - digits.length) '0') ++ digits

/-- Year, month and day of a day count from 1970-01-01 in the proleptic Gregorian calendar. -/
def civilFromDays (days : Int) : Int × Int × Int :=
  let z := days + 719468
  let era := z / 146097
  let doe := z % 146097
  let yoe := (doe - doe / 1460 + doe / 36524 - doe / 146096) / 365
  let doy := doe - (365 * yoe + yoe / 4 - yoe / 100)
  let mp := (5 * doy + 2) / 153
  let day := doy - (153 * mp + 2) / 5 + 1
  let month := if mp < 10 then mp + 3 else mp - 9
  (yoe + era * 400 + (if month ≤ 2 then 1 else 0), month, day)

/-- The UTC offset as `datetime.isoformat` prints it. -/
def offsetText (offset : Int) : String :=
  let n := offset.natAbs
  let sign := if offset < 0 then "-" else "+"
  let seconds := if n % 60 = 0 then "" else ":" ++ padded 2 (n % 60)
  sign ++ padded 2 (n / 3600) ++ ":" ++ padded 2 (n / 60 % 60) ++ seconds

/-- `datetime.isoformat()`. -/
def isoformat (t : AwareDatetime) : String :=
  let localMicros := t.utc + t.offset * 1000000
  let (year, month, day) := civilFromDays (localMicros / 86400000000)
  let inDay := (localMicros % 86400000000).toNat
  let micros := inDay % 1000000
  let secs := inDay / 1000000
  let fraction := if micros = 0 then "" else "." ++ padded 6 micros
  padded 4 year.toNat ++ "-" ++ padded 2 month.toNat ++ "-" ++ padded 2 day.toNat ++ "T"
    ++ padded 2 (secs / 3600) ++ ":" ++ padded 2 (secs / 60 % 60) ++ ":" ++ padded 2 (secs % 60)
    ++ fraction ++ offsetText t.offset

example : isoformat ⟨1767225600000000, 0⟩ = "2026-01-01T00:00:00+00:00" := by decide

end AwareDatetime

/-! ## Strings -/

/-- Characters `str.strip` removes. -/
def isPySpace (c : Char) : Bool :=
  let n := c.toNat
  (9 ≤ n && n ≤ 13) || (28 ≤ n && n ≤ 32) || n == 133 || n == 160 || n == 5760
    || (8192 ≤ n && n ≤ 8202) || n == 8232 || n == 8233 || n == 8239 || n == 8287 || n == 12288

/-- `str.strip()`. -/
def strip (s : String) : String :=
  String.ofList (((chars s).dropWhile isPySpace).reverse.dropWhile isPySpace).reverse

/-- First character of a canonical id: `[A-Z0-9]`. -/
def isCanonicalHead (c : Char) : Bool := c.isUpper || c.isDigit

/-- Later characters of a canonical id: `[A-Z0-9._:-]`. -/
def isCanonicalTail (c : Char) : Bool :=
  isCanonicalHead c || c == '.' || c == '_' || c == ':' || c == '-'

/-- The `CanonicalId` constraint: 1 to 128 characters matching `^[A-Z0-9][A-Z0-9._:-]*$`. -/
def isCanonicalId (s : String) : Bool :=
  match chars s with
  | [] => false
  | c :: rest => decide (rest.length < 128) && isCanonicalHead c && rest.all isCanonicalTail

/-- The digest constraint `^[a-f0-9]{64}$`. -/
def isHexDigest (s : String) : Bool :=
  (chars s).length == 64 && (chars s).all fun c => c.isDigit || (decide ('a' ≤ c) && decide (c ≤ 'f'))

theorem isHexDigest_iff {s : String} :
    isHexDigest s = true ↔ s.length = 64 ∧
      ∀ c ∈ s.toList, (c.isDigit || (decide ('a' ≤ c) && decide (c ≤ 'f'))) = true := by
  unfold isHexDigest
  rw [chars_eq_toList, Bool.and_eq_true, beq_iff_eq, List.all_eq_true, String.length_toList]

/-- The `NonEmptyString` constraint on a string that carries no surrounding whitespace. -/
def isNonEmptyString (s : String) : Bool := s != "" && strip s == s

/-! ## Payloads and digests -/

/-- A value handed to `json.dumps(..., sort_keys=True, separators=(",", ":"))`. Decimals and
timestamps are leaves: they stand for their canonical text. -/
inductive Payload where
  | null
  | bool (b : Bool)
  | int (n : Int)
  | decimal (q : Decimal)
  | text (s : String)
  | instant (t : AwareDatetime)
  | list (items : List Payload)
  | record (fields : List (String × Payload))

/-- Values with a canonical payload (`_model_json`, `.value`, `str`, `isoformat`). -/
class ToPayload (α : Type) where
  toPayload : α → Payload

export ToPayload (toPayload)

instance : ToPayload Payload := ⟨id⟩
instance : ToPayload Bool := ⟨.bool⟩
instance : ToPayload Nat := ⟨fun n => .int n⟩
instance : ToPayload Int := ⟨.int⟩
instance : ToPayload Decimal := ⟨.decimal⟩
instance : ToPayload String := ⟨.text⟩
instance : ToPayload AwareDatetime := ⟨.instant⟩
instance {p : Decimal → Prop} : ToPayload {q : Decimal // p q} := ⟨fun q => .decimal q.val⟩
instance {α : Type} [ToPayload α] : ToPayload (Option α) :=
  ⟨fun x => match x with | none => .null | some a => toPayload a⟩
instance {α : Type} [ToPayload α] : ToPayload (List α) := ⟨fun xs => .list (xs.map toPayload)⟩

/-- `hashlib.sha256(json.dumps(payload, ...).encode("utf-8")).hexdigest()`: 64 lower-case
hexadecimal digits. -/
class Sha256 where
  hexdigest : Payload → String
  isHexDigest_hexdigest : ∀ payload, isHexDigest (hexdigest payload) = true

section Digest

variable [Sha256]

/-- `_hash(payload)`. -/
def hash (payload : Payload) : String := Sha256.hexdigest payload

/-- `_stable_id(prefix, payload)`: the label, a colon and 32 upper-case digits of the digest. -/
def stableId (label : String) (payload : Payload) : String :=
  label ++ ":" ++ String.ofList (((chars (hash payload)).take 32).map Char.toUpper)

/-- The id of an artifact whose id payload is the single entry `key: digest`. -/
def stableIdOfHash (label key digest : String) : String :=
  stableId label (.record [(key, .text digest)])

theorem isHexDigest_hash (payload : Payload) : isHexDigest (hash payload) = true :=
  Sha256.isHexDigest_hexdigest payload

end Digest

/-! ## Canonical ids -/

theorem isUpper_iff {c : Char} : c.isUpper = true ↔ 65 ≤ c.toNat ∧ c.toNat ≤ 90 := by
  show decide (65 ≤ c.val ∧ c.val ≤ 90) = true ↔ _
  rw [decide_eq_true_eq, UInt32.le_iff_toNat_le, UInt32.le_iff_toNat_le]
  rfl

theorem isLower_iff {c : Char} : c.isLower = true ↔ 97 ≤ c.toNat ∧ c.toNat ≤ 122 := by
  show (decide (97 ≤ c.val) && decide (c.val ≤ 122)) = true ↔ _
  rw [Bool.and_eq_true, decide_eq_true_eq, decide_eq_true_eq, UInt32.le_iff_toNat_le,
    UInt32.le_iff_toNat_le]
  rfl

theorem isAlpha_eq (c : Char) : c.isAlpha = (c.isUpper || c.isLower) := rfl

/-- Characters of a canonical id lie between `-` and `_`. -/
theorem isCanonicalTail_range {c : Char} (h : isCanonicalTail c = true) :
    45 ≤ c.toNat ∧ c.toNat ≤ 95 := by
  simp only [isCanonicalTail, isCanonicalHead, Bool.or_eq_true, beq_iff_eq, isUpper_iff,
    Char.isDigit, Bool.and_eq_true, decide_eq_true_eq, UInt32.le_iff_toNat_le, ge_iff_le] at h
  rcases h with ((((⟨hlo, hhi⟩ | ⟨hlo, hhi⟩) | rfl) | rfl) | rfl) | rfl
  · exact ⟨le_trans (by decide) hlo, le_trans hhi (by decide)⟩
  · exact ⟨le_trans (by decide) hlo, le_trans hhi (by decide)⟩
  · decide
  · decide
  · decide
  · decide

/-- Characters of a canonical id are not whitespace. -/
theorem isCanonicalTail_not_space {c : Char} (h : isCanonicalTail c = true) :
    isPySpace c = false := by
  obtain ⟨hlo, hhi⟩ := isCanonicalTail_range h
  simp only [isPySpace, Bool.or_eq_false_iff, Bool.and_eq_false_iff, decide_eq_false_iff_not,
    beq_eq_false_iff_ne]
  omega

theorem isCanonicalId_iff (s : String) :
    isCanonicalId s = true ↔ ∃ c rest, s.toList = c :: rest ∧ rest.length < 128 ∧
      isCanonicalHead c = true ∧ ∀ d ∈ rest, isCanonicalTail d = true := by
  rw [isCanonicalId, chars_eq_toList]
  cases hs : s.toList with
  | nil => simp
  | cons c rest =>
      simp only [Bool.and_eq_true, decide_eq_true_eq, List.all_eq_true]
      constructor
      · rintro ⟨⟨hlength, hhead⟩, htail⟩
        exact ⟨c, rest, rfl, hlength, hhead, htail⟩
      · rintro ⟨c', rest', heq, hlength, hhead, htail⟩
        cases heq
        exact ⟨⟨hlength, hhead⟩, htail⟩

theorem dropWhile_isPySpace {cs : List Char} (h : ∀ c ∈ cs, isPySpace c = false) :
    cs.dropWhile isPySpace = cs := by
  cases cs with
  | nil => rfl
  | cons c cs =>
      rw [List.dropWhile_cons_of_neg]
      simp [h c List.mem_cons_self]

/-- A string without whitespace is its own `strip`. -/
theorem strip_of_no_space {s : String} (h : ∀ c ∈ s.toList, isPySpace c = false) :
    strip s = s := by
  have hreverse : ∀ c ∈ s.toList.reverse, isPySpace c = false := by
    intro c hc
    exact h c (List.mem_reverse.mp hc)
  simp only [strip, chars_eq_toList]
  rw [dropWhile_isPySpace h, dropWhile_isPySpace hreverse, List.reverse_reverse,
    String.ofList_toList]

theorem isCanonicalId_chars {s : String} (h : isCanonicalId s = true) :
    ∀ c ∈ s.toList, isCanonicalTail c = true := by
  obtain ⟨c, rest, hs, -, hhead, htail⟩ := (isCanonicalId_iff s).mp h
  intro d hd
  rw [hs] at hd
  rcases List.mem_cons.mp hd with rfl | hd
  · simp [isCanonicalTail, hhead]
  · exact htail d hd

theorem strip_of_isCanonicalId {s : String} (h : isCanonicalId s = true) : strip s = s :=
  strip_of_no_space fun c hc => isCanonicalTail_not_space (isCanonicalId_chars h c hc)

/-- The upper-cased digits of a digest are canonical characters. -/
theorem isCanonicalTail_toUpper {c : Char}
    (h : (c.isDigit || (decide ('a' ≤ c) && decide (c ≤ 'f'))) = true) :
    isCanonicalTail c.toUpper = true := by
  have hall : ∀ n : Fin 128, (let d := Char.ofNat n.val
      (d.isDigit || (decide ('a' ≤ d) && decide (d ≤ 'f'))) = true →
        isCanonicalTail d.toUpper = true) := by decide
  have hsmall : c.toNat < 128 := by
    simp only [Bool.or_eq_true, Bool.and_eq_true, decide_eq_true_eq, Char.isDigit,
      UInt32.le_iff_toNat_le, ge_iff_le] at h
    rcases h with ⟨-, hhi⟩ | ⟨-, hhi⟩
    · exact lt_of_le_of_lt hhi (by decide)
    · exact lt_of_le_of_lt (UInt32.le_iff_toNat_le.mp hhi) (by decide)
  have hc : Char.ofNat c.toNat = c := Char.ofNat_toNat c
  have hthis := hall ⟨c.toNat, hsmall⟩
  simp only [hc] at hthis
  exact hthis h

theorem isCanonicalId_stableId [Sha256] (label : String) (payload : Payload)
    (hlabel : isCanonicalId label = true) (hlength : label.length ≤ 90) :
    isCanonicalId (stableId label payload) = true := by
  obtain ⟨c, rest, hs, -, hhead, htail⟩ := (isCanonicalId_iff label).mp hlabel
  have hhash := isHexDigest_hash payload
  rw [isHexDigest_iff] at hhash
  have hdigits : ∀ d ∈ ((hash payload).toList.take 32).map Char.toUpper,
      isCanonicalTail d = true := by
    intro d hd
    obtain ⟨x, hx, rfl⟩ := List.mem_map.mp hd
    exact isCanonicalTail_toUpper (hhash.2 x (List.mem_of_mem_take hx))
  have hrest : rest.length < 90 := by
    have hlen : label.toList.length ≤ 90 := hlength
    rw [hs, List.length_cons] at hlen
    omega
  refine (isCanonicalId_iff _).mpr
    ⟨c, rest ++ ':' :: ((hash payload).toList.take 32).map Char.toUpper, ?_, ?_, hhead, ?_⟩
  · simp [stableId, String.toList_append, hs]
  · simp only [List.length_append, List.length_cons, List.length_map, List.length_take]
    omega
  · intro d hd
    rcases List.mem_append.mp hd with hd | hd
    · exact htail d hd
    · rcases List.mem_cons.mp hd with rfl | hd
      · decide
      · exact hdigits d hd

end TaModel.Contracts
