import Mathlib.Data.List.Basic
import Mathlib.Data.UInt

/-!
# Percent-encoding

Bytes written with the unreserved characters of a URI and `/`, every other byte as `%XX`, and read
back. `unquote_quote` is the round trip; `isQuoted_quote` bounds the characters of the encoding.
-/

set_option autoImplicit false

namespace TaModel.Library.PercentEncoding

/-- A letter, a digit or one of `_.-~/`: the characters `quote` leaves alone. -/
def isSafe (c : Char) : Bool :=
  c.isAlphanum || c == '_' || c == '.' || c == '-' || c == '~' || c == '/'

/-- Upper-case hexadecimal digit. -/
def hexDigit (n : Nat) : Char := if n < 10 then Char.ofNat (48 + n) else Char.ofNat (55 + n)

/-- Value of a hexadecimal digit of either case. -/
def hexValue (c : Char) : Option Nat :=
  if c.isDigit then some (c.toNat - 48)
  else if 'A' ≤ c ∧ c ≤ 'F' then some (c.toNat - 55)
  else if 'a' ≤ c ∧ c ≤ 'f' then some (c.toNat - 87)
  else none

def quoteByte (b : UInt8) : List Char :=
  if b < 128 ∧ isSafe (Char.ofNat b.toNat) = true then [Char.ofNat b.toNat]
  else ['%', hexDigit (b.toNat / 16), hexDigit (b.toNat % 16)]

/-- `urllib.parse.quote_from_bytes(bytes)`. -/
def quote (bytes : List UInt8) : List Char := bytes.flatMap quoteByte

/-- `urllib.parse.unquote`, as bytes: `%XX` is a byte, every other character its UTF-8 encoding. -/
def unquote : List Char → List UInt8
  | '%' :: hi :: lo :: more =>
      match hexValue hi, hexValue lo with
      | some h, some l => UInt8.ofNat (16 * h + l) :: unquote more
      | _, _ => 37 :: unquote (hi :: lo :: more)
  | c :: rest => String.utf8EncodeChar c ++ unquote rest
  | [] => []

/-- Characters an encoding consists of. -/
def isQuoted (c : Char) : Bool := isSafe c || c == '%'

theorem unquote_escape {hi lo : Char} {h l : Nat} (hhi : hexValue hi = some h)
    (hlo : hexValue lo = some l) (more : List Char) :
    unquote ('%' :: hi :: lo :: more) = UInt8.ofNat (16 * h + l) :: unquote more := by
  rw [unquote]
  simp only [hhi, hlo]

theorem unquote_cons_of_ne {c : Char} (hc : c ≠ '%') (rest : List Char) :
    unquote (c :: rest) = String.utf8EncodeChar c ++ unquote rest := by
  rw [unquote]
  intro hi lo more hpercent
  exact absurd hpercent hc

/-! ## One byte -/

theorem hexValue_hexDigit {n : Nat} (hn : n < 16) : hexValue (hexDigit n) = some n := by
  have hall : ∀ m : Fin 16, hexValue (hexDigit m.val) = some m.val := by decide
  exact hall ⟨n, hn⟩

theorem isQuoted_hexDigit {n : Nat} (hn : n < 16) : isQuoted (hexDigit n) = true := by
  have hall : ∀ m : Fin 16, isQuoted (hexDigit m.val) = true := by decide
  exact hall ⟨n, hn⟩

/-- An ASCII character is its own encoding. -/
theorem utf8EncodeChar_ofNat {n : Nat} (hn : n < 128) :
    String.utf8EncodeChar (Char.ofNat n) = [UInt8.ofNat n] := by
  have hall : ∀ m : Fin 128, String.utf8EncodeChar (Char.ofNat m.val) = [UInt8.ofNat m.val] := by
    decide
  exact hall ⟨n, hn⟩

theorem unquote_quoteByte (b : UInt8) (rest : List Char) :
    unquote (quoteByte b ++ rest) = b :: unquote rest := by
  have hlt : b.toNat < 256 := b.toNat_lt
  simp only [quoteByte]
  split_ifs with hsafe
  · obtain ⟨hascii, hsafe⟩ := hsafe
    have hne : Char.ofNat b.toNat ≠ '%' := by
      intro hpercent
      rw [hpercent] at hsafe
      exact absurd hsafe (by decide)
    rw [List.singleton_append, unquote_cons_of_ne hne,
      utf8EncodeChar_ofNat (UInt8.lt_iff_toNat_lt.mp hascii), List.singleton_append,
      UInt8.ofNat_toNat]
  · have hhi : b.toNat / 16 < 16 := by omega
    have hlo : b.toNat % 16 < 16 := by omega
    have hsum : 16 * (b.toNat / 16) + b.toNat % 16 = b.toNat := by omega
    rw [List.cons_append, List.cons_append, List.singleton_append,
      unquote_escape (hexValue_hexDigit hhi) (hexValue_hexDigit hlo), hsum, UInt8.ofNat_toNat]

theorem isQuoted_quoteByte (b : UInt8) : ∀ c ∈ quoteByte b, isQuoted c = true := by
  have hlt : b.toNat < 256 := b.toNat_lt
  intro c hc
  simp only [quoteByte] at hc
  split_ifs at hc with hsafe
  · rw [List.mem_singleton.mp hc, isQuoted, hsafe.2, Bool.true_or]
  · simp only [List.mem_cons, List.not_mem_nil, or_false] at hc
    rcases hc with rfl | rfl | rfl
    · decide
    · exact isQuoted_hexDigit (by omega)
    · exact isQuoted_hexDigit (by omega)

/-! ## Byte strings -/

/-- What was quoted reads back. -/
theorem unquote_quote (bytes : List UInt8) : unquote (quote bytes) = bytes := by
  induction bytes with
  | nil => simp [quote, unquote]
  | cons b bytes ih =>
      have hcons : quote (b :: bytes) = quoteByte b ++ quote bytes := List.flatMap_cons
      rw [hcons, unquote_quoteByte, ih]

theorem isQuoted_quote {bytes : List UInt8} {c : Char} (h : c ∈ quote bytes) :
    isQuoted c = true := by
  obtain ⟨b, -, hc⟩ := List.mem_flatMap.mp h
  exact isQuoted_quoteByte b c hc

example : quote [47, 97, 61, 32] = "/a%3D%20".toList := by decide

end TaModel.Library.PercentEncoding
