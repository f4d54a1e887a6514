import Mathlib.Data.List.Basic

/-!
# SHA-256

The digest of FIPS 180-4 on byte lists, over natural numbers below `2 ^ 32`.
-/

set_option autoImplicit false

namespace TaModel.Library.Sha256

/-- All 32 bits set. -/
def mask : Nat := 4294967295

-- The words are computed with the functions of `Nat` themselves: on literals the kernel evaluates
-- these in one step each.

/-- The low 32 bits. -/
def low (x : Nat) : Nat := Nat.land x mask

/-- A 32-bit word written twice, one copy above the other: shifted to the right, its low word is the
rotation. -/
def twice (x : Nat) : Nat := Nat.mul x 4294967297

/-- The sum modulo 2 of three rotations to the right: the functions `Σ₀` and `Σ₁`. -/
def bigSigma (x i j k : Nat) : Nat :=
  low (Nat.xor (Nat.xor (Nat.shiftRight (twice x) i) (Nat.shiftRight (twice x) j))
    (Nat.shiftRight (twice x) k))

/-- The sum modulo 2 of two rotations and a shift to the right: the functions `σ₀` and `σ₁`. -/
def smallSigma (x i j k : Nat) : Nat :=
  Nat.xor (low (Nat.xor (Nat.shiftRight (twice x) i) (Nat.shiftRight (twice x) j)))
    (Nat.shiftRight x k)

/-- The bits of `f` where `e` has a one, and of `g` where it has a zero. -/
def choose (e f g : Nat) : Nat := Nat.xor (Nat.land e f) (Nat.land (Nat.xor mask e) g)

/-- The bits that two of the words have. -/
def majority (a b c : Nat) : Nat :=
  Nat.xor (Nat.xor (Nat.land a b) (Nat.land a c)) (Nat.land b c)

/-- First 32 bits of the fractional parts of the cube roots of the first 64 primes. -/
def roundConstants : List Nat :=
  [ 0x428a2f98, 0x71374491, 0xb5c0fbcf, 0xe9b5dba5, 0x3956c25b, 0x59f111f1, 0x923f82a4, 0xab1c5ed5,
    0xd807aa98, 0x12835b01, 0x243185be, 0x550c7dc3, 0x72be5d74, 0x80deb1fe, 0x9bdc06a7, 0xc19bf174,
    0xe49b69c1, 0xefbe4786, 0x0fc19dc6, 0x240ca1cc, 0x2de92c6f, 0x4a7484aa, 0x5cb0a9dc, 0x76f988da,
    0x983e5152, 0xa831c66d, 0xb00327c8, 0xbf597fc7, 0xc6e00bf3, 0xd5a79147, 0x06ca6351, 0x14292967,
    0x27b70a85, 0x2e1b2138, 0x4d2c6dfc, 0x53380d13, 0x650a7354, 0x766a0abb, 0x81c2c92e, 0x92722c85,
    0xa2bfe8a1, 0xa81a664b, 0xc24b8b70, 0xc76c51a3, 0xd192e819, 0xd6990624, 0xf40e3585, 0x106aa070,
    0x19a4c116, 0x1e376c08, 0x2748774c, 0x34b0bcb5, 0x391c0cb3, 0x4ed8aa4a, 0x5b9cca4f, 0x682e6ff3,
    0x748f82ee, 0x78a5636f, 0x84c87814, 0x8cc70208, 0x90befffa, 0xa4506ceb, 0xbef9a3f7, 0xc67178f2 ]

/-- The eight working variables. -/
structure Registers where
  a : Nat
  b : Nat
  c : Nat
  d : Nat
  e : Nat
  f : Nat
  g : Nat
  h : Nat

/-- First 32 bits of the fractional parts of the square roots of the first 8 primes. -/
def initialRegisters : Registers :=
  ⟨0x6a09e667, 0xbb67ae85, 0x3c6ef372, 0xa54ff53a, 0x510e527f, 0x9b05688c, 0x1f83d9ab, 0x5be0cd19⟩

/-- One round with its constant and message word. -/
def round (r : Registers) (constant word : Nat) : Registers :=
  match r with
  | ⟨a, b, c, d, e, f, g, h⟩ =>
      let t1 := Nat.add (Nat.add (Nat.add (Nat.add h (bigSigma e 6 11 25)) (choose e f g)) constant)
        word
      let t2 := Nat.add (bigSigma a 2 13 22) (majority a b c)
      ⟨low (Nat.add t1 t2), a, b, c, low (Nat.add d t1), e, f, g⟩

/-- The next 16 words of the message schedule. -/
structure Window where
  w0 : Nat
  w1 : Nat
  w2 : Nat
  w3 : Nat
  w4 : Nat
  w5 : Nat
  w6 : Nat
  w7 : Nat
  w8 : Nat
  w9 : Nat
  w10 : Nat
  w11 : Nat
  w12 : Nat
  w13 : Nat
  w14 : Nat
  w15 : Nat

/-- The window of a block of 16 words. -/
def Window.ofBlock : List Nat → Window
  | [w0, w1, w2, w3, w4, w5, w6, w7, w8, w9, w10, w11, w12, w13, w14, w15] =>
      ⟨w0, w1, w2, w3, w4, w5, w6, w7, w8, w9, w10, w11, w12, w13, w14, w15⟩
  | _ => ⟨0, 0, 0, 0, 0, 0, 0, 0, 0, 0, 0, 0, 0, 0, 0, 0⟩

/-- The window one word later. -/
def Window.next : Window → Window
  | ⟨w0, w1, w2, w3, w4, w5, w6, w7, w8, w9, w10, w11, w12, w13, w14, w15⟩ =>
      ⟨w1, w2, w3, w4, w5, w6, w7, w8, w9, w10, w11, w12, w13, w14, w15,
        low (Nat.add (Nat.add (Nat.add (smallSigma w14 17 19 10) w9) (smallSigma w1 7 18 3)) w0)⟩

/-- The rounds of one block. -/
def rounds : List Nat → Window → Registers → Registers
  | [], _, r => r
  | constant :: constants, window, r =>
      rounds constants window.next (round r constant window.w0)

/-- The compression function. -/
def compress (r : Registers) (block : List Nat) : Registers :=
  let q := rounds roundConstants (Window.ofBlock block) r
  let add := fun x y : Nat => low (Nat.add x y)
  ⟨add r.a q.a, add r.b q.b, add r.c q.c, add r.d q.d, add r.e q.e, add r.f q.f, add r.g q.g,
    add r.h q.h⟩

/-- Big-endian 32-bit words of a byte list. -/
def words : List Nat → List Nat
  | a :: b :: c :: d :: rest => (a * 16777216 + b * 65536 + c * 256 + d) :: words rest
  | _ => []

/-- Compress `n` blocks of 16 words. -/
def compressBlocks : Nat → List Nat → Registers → Registers
  | 0, _, r => r
  | n + 1, ws, r => compressBlocks n (ws.drop 16) (compress r (ws.take 16))

/-- The padded message: a one bit, zeros, and the bit length in 64 bits. -/
def pad (bytes : List Nat) : List Nat :=
  let zeros := (119 - bytes.length % 64) % 64
  let bitLength := [56, 48, 40, 32, 24, 16, 8, 0].map fun s => ((8 * bytes.length) >>> s) % 256
  bytes ++ 128 :: (List.replicate zeros 0 ++ bitLength)

/-- Lower-case hexadecimal digit. -/
def hexDigit (n : Nat) : Char := if n < 10 then Char.ofNat (48 + n) else Char.ofNat (87 + n)

/-- Eight hexadecimal digits of a 32-bit word. -/
def hexWord (x : Nat) : List Char :=
  [28, 24, 20, 16, 12, 8, 4, 0].map fun s => hexDigit ((x >>> s) % 16)

/-- The digest of a byte list in lower-case hexadecimal. -/
def hexdigest (bytes : List Nat) : String :=
  let ws := words (pad bytes)
  let r := compressBlocks (ws.length / 16) ws initialRegisters
  String.ofList ([r.a, r.b, r.c, r.d, r.e, r.f, r.g, r.h].flatMap hexWord)

theorem hexWord_length (x : Nat) : (hexWord x).length = 8 := rfl

theorem hexdigest_length (bytes : List Nat) : (hexdigest bytes).length = 64 := by
  unfold hexdigest
  rw [String.length_ofList]
  rfl

theorem hexDigit_mem (n : Nat) (hn : n < 16) : hexDigit n ∈ "0123456789abcdef".toList := by
  have hall : ∀ m : Fin 16, hexDigit m.val ∈ "0123456789abcdef".toList := by decide
  exact hall ⟨n, hn⟩

/-- The digest consists of lower-case hexadecimal digits. -/
theorem mem_hexdigest (bytes : List Nat) :
    ∀ c ∈ (hexdigest bytes).toList, c ∈ "0123456789abcdef".toList := by
  intro c hc
  simp only [hexdigest, String.toList_ofList, List.mem_flatMap] at hc
  obtain ⟨x, -, hx⟩ := hc
  obtain ⟨s, -, rfl⟩ := List.mem_map.mp hx
  exact hexDigit_mem _ (Nat.mod_lt _ (by decide))

set_option maxRecDepth 4000 in
example : hexdigest [97, 98, 99] =
    "ba7816bf8f01cfea414140de5dae2223b00361a396177a9cb410ff61f20015ad" := by decide

end TaModel.Library.Sha256
