import TaModel.Contracts.Canonical
import TaModel.Library.Sha256
import Mathlib.Data.List.Sort

/-!
# Canonical JSON and its SHA-256 digest

`render` is `json.dumps(payload, sort_keys=True, separators=(",", ":"))` as a list of code points,
which the kernel evaluates faster than a string; `hashlibSha256` is the digest the repository uses. A
decimal is rendered by its shortest decimal expansion: the number of trailing zeros a `Decimal` may
carry is not part of its value.
-/

set_option autoImplicit false

namespace TaModel.Contracts

/-! ## Text -/

open Library (textBytes)

/-- The code points of a string; those of an ASCII string are its bytes. -/
def codePoints (s : String) : List Nat :=
  if (textBytes s).all fun n => Nat.blt n 128 then textBytes s else s.toList.map Char.toNat

/-- Four lower-case hexadecimal digits. -/
def hex4 (n : Nat) : List Nat :=
  [12, 8, 4, 0].map fun s => (Library.Sha256.hexDigit ((n >>> s) % 16)).toNat

/-- `\uXXXX`. -/
def unicodeEscape (n : Nat) : List Nat := textBytes "\\u" ++ hex4 n

/-- A printable ASCII character that stands for itself. -/
def isPlain (n : Nat) : Bool := (Nat.blt 34 n && Nat.blt n 92) || (Nat.blt 92 n && Nat.blt n 127)

/-- A character inside a JSON string, with `ensure_ascii`. -/
def escapeChar (n : Nat) : List Nat :=
  if isPlain n then [n]
  else if n = 34 then textBytes "\\\""
  else if n = 92 then textBytes "\\\\"
  else if n = 10 then textBytes "\\n"
  else if n = 13 then textBytes "\\r"
  else if n = 9 then textBytes "\\t"
  else if n = 8 then textBytes "\\b"
  else if n = 12 then textBytes "\\f"
  else if n < 32 ∨ (127 < n ∧ n < 65536) then unicodeEscape n
  else if 65536 ≤ n then
    unicodeEscape (55296 + (n - 65536) / 1024) ++ unicodeEscape (56320 + (n - 65536) % 1024)
  else [n]

/-- A JSON string literal. -/
def jsonString (s : List Nat) : List Nat := 34 :: (s.flatMap escapeChar ++ [34])

/-- Decimal digits of the fraction `num / den`, at most `fuel` of them. -/
def fractionDigits : Nat → Nat → Nat → List Char
  | 0, _, _ => []
  | fuel + 1, num, den =>
      if num = 0 then []
      else Nat.toDigits 10 (num * 10 / den) ++ fractionDigits fuel (num * 10 % den) den

/-- The shortest decimal expansion of a rational, cut after 28 digits. -/
def decimalText (q : Decimal) : List Char :=
  let n := q.num.natAbs
  let sign := if q.num < 0 then ['-'] else []
  let fraction := if n % q.den = 0 then [] else '.' :: fractionDigits 28 (n % q.den) q.den
  sign ++ Nat.toDigits 10 (n / q.den) ++ fraction

/-- `str` of an integer. -/
def intText (n : Int) : List Char :=
  (if n < 0 then ['-'] else []) ++ Nat.toDigits 10 n.natAbs

/-! ## Rendering -/

/-- The order of strings by code points, the order `sort_keys` sorts by. -/
def codesLe : List Nat → List Nat → Bool
  | [], _ => true
  | _ :: _, [] => false
  | m :: ms, n :: ns => Nat.blt m n || (Nat.beq m n && codesLe ms ns)

mutual

/-- The characters of `json.dumps(payload, sort_keys=True, separators=(",", ":"))`. -/
def render : Payload → List Nat
  | .null => textBytes "null"
  | .bool b => if b then textBytes "true" else textBytes "false"
  | .int n => (intText n).map Char.toNat
  | .decimal q => jsonString ((decimalText q).map Char.toNat)
  | .text s => jsonString (codePoints s)
  | .instant t => jsonString (codePoints t.isoformat)
  | .list items => textBytes "[" ++ List.intercalate (textBytes ",") (renderItems items) ++
      textBytes "]"
  | .record fields =>
      let entries := (renderFields fields).insertionSort fun a b => codesLe a.1 b.1
      textBytes "\x7b" ++ List.intercalate (textBytes ",")
        (entries.map fun e => jsonString e.1 ++ (textBytes ":" ++ e.2)) ++ textBytes "\x7d"

def renderItems : List Payload → List (List Nat)
  | [] => []
  | item :: items => render item :: renderItems items

def renderFields : List (String × Payload) → List (List Nat × List Nat)
  | [] => []
  | (key, value) :: fields => (codePoints key, render value) :: renderFields fields

end

/-- `hashlib.sha256(canonical bytes).hexdigest()`; `ensure_ascii` leaves one byte a character. -/
@[reducible] def hashlibSha256 : Sha256 where
  hexdigest payload := Library.Sha256.hexdigest (render payload)
  isHexDigest_hexdigest payload := by
    have hdigits : "0123456789abcdef".toList.all
        (fun c => c.isDigit || (decide ('a' ≤ c) && decide (c ≤ 'f'))) = true := by
      decide
    have hdigit := List.all_eq_true.mp hdigits
    rw [isHexDigest_iff]
    exact ⟨Library.Sha256.hexdigest_length _,
      fun c hc => hdigit c (Library.Sha256.mem_hexdigest _ c hc)⟩

example : render (.record [("b", .list [.int 1, .null]), ("a", .decimal (5 / 4))]) =
    codePoints "\x7b\"a\":\"1.25\",\"b\":[1,null]\x7d" := by decide +kernel

end TaModel.Contracts
