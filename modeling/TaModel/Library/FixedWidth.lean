import Mathlib.Data.Nat.Digits.Defs
import Mathlib.Data.List.Lex
import Mathlib.Data.Char
import Mathlib.Order.Basic

/-!
# Texts of fixed width

Numbers printed with a fixed number of decimal digits compare as texts the way they compare as
numbers, and texts that start with such fields compare field by field.
-/

set_option autoImplicit false

namespace TaModel.Library

universe u

/-! ## Concatenations -/

section Lex

variable {α : Type u} [LinearOrder α]

/-- Behind heads of equal length the comparison goes on when the heads are equal. -/
theorem append_lt_append_iff {a b c d : List α} (hlength : a.length = b.length) :
    a ++ c < b ++ d ↔ a < b ∨ (a = b ∧ c < d) := by
  induction a generalizing b with
  | nil =>
      obtain rfl : b = [] := List.eq_nil_of_length_eq_zero hlength.symm
      simp
  | cons x a ih =>
      cases b with
      | nil => cases hlength
      | cons y b =>
          have htail : a.length = b.length := Nat.succ.inj hlength
          rw [List.cons_append, List.cons_append, List.cons_lt_cons_iff, List.cons_lt_cons_iff,
            ih htail, List.cons.injEq]
          tauto

/-- Lists compare by their first items, and by the rest when these are equal. -/
theorem cons_le_cons_iff {x y : α} {a b : List α} :
    x :: a ≤ y :: b ↔ x < y ∨ (x = y ∧ a ≤ b) := by
  rw [← not_lt, List.cons_lt_cons_iff]
  rcases lt_trichotomy x y with hlt | rfl | hgt
  · refine iff_of_true ?_ (Or.inl hlt)
    rintro (hgt | ⟨heq, -⟩)
    · exact lt_asymm hlt hgt
    · exact ne_of_gt hlt heq
  · simp
  · refine iff_of_false (fun hnot => hnot (Or.inl hgt)) ?_
    rintro (hlt | ⟨heq, -⟩)
    · exact lt_asymm hlt hgt
    · exact ne_of_gt hgt heq

end Lex

/-! ## Decimal fields -/

/-- The last `width` decimal digits of `n`. -/
def fixedDigits : Nat → Nat → List Char
  | 0, _ => []
  | width + 1, n => fixedDigits width (n / 10) ++ [Nat.digitChar (n % 10)]

theorem length_fixedDigits (width n : Nat) : (fixedDigits width n).length = width := by
  induction width generalizing n with
  | zero => rfl
  | succ width ih => rw [fixedDigits, List.length_append, ih, List.length_singleton]

/-- Digit characters compare as the digits do. -/
theorem digitChar_lt_iff {m n : Nat} (hm : m < 10) (hn : n < 10) :
    Nat.digitChar m < Nat.digitChar n ↔ m < n := by
  have hdigits : ∀ i < 10, ∀ j < 10, (Nat.digitChar i < Nat.digitChar j ↔ i < j) := by decide
  exact hdigits m hm n hn

theorem digitChar_inj {m n : Nat} (hm : m < 10) (hn : n < 10) :
    Nat.digitChar m = Nat.digitChar n ↔ m = n := by
  have hdigits : ∀ i < 10, ∀ j < 10, (Nat.digitChar i = Nat.digitChar j ↔ i = j) := by decide
  exact hdigits m hm n hn

theorem fixedDigits_inj {width m n : Nat} (hm : m < 10 ^ width) (hn : n < 10 ^ width) :
    fixedDigits width m = fixedDigits width n ↔ m = n := by
  refine ⟨?_, fun h => by rw [h]⟩
  induction width generalizing m n with
  | zero =>
      rw [pow_zero] at hm hn
      omega
  | succ width ih =>
      rw [pow_succ] at hm hn
      intro h
      have hlength : (fixedDigits width (m / 10)).length = (fixedDigits width (n / 10)).length := by
        rw [length_fixedDigits, length_fixedDigits]
      obtain ⟨hhead, hlast⟩ := List.append_inj h hlength
      have hquotient : m / 10 = n / 10 := ih (by omega) (by omega) hhead
      have hdigit : m % 10 = n % 10 :=
        (digitChar_inj (Nat.mod_lt _ (by omega)) (Nat.mod_lt _ (by omega))).mp
          (List.singleton_inj.mp hlast)
      omega

/-- Fixed-width numbers compare as texts the way they compare as numbers. -/
theorem fixedDigits_lt_iff {width m n : Nat} (hm : m < 10 ^ width) (hn : n < 10 ^ width) :
    fixedDigits width m < fixedDigits width n ↔ m < n := by
  induction width generalizing m n with
  | zero =>
      rw [pow_zero] at hm hn
      exact iff_of_false (List.lt_irrefl _) (by omega)
  | succ width ih =>
      rw [pow_succ] at hm hn
      have hlength : (fixedDigits width (m / 10)).length = (fixedDigits width (n / 10)).length := by
        rw [length_fixedDigits, length_fixedDigits]
      have hm' : m / 10 < 10 ^ width := by omega
      have hn' : n / 10 < 10 ^ width := by omega
      have hlast : [Nat.digitChar (m % 10)] < [Nat.digitChar (n % 10)] ↔ m % 10 < n % 10 := by
        rw [List.cons_lt_cons_iff, digitChar_lt_iff (Nat.mod_lt _ (by omega))
          (Nat.mod_lt _ (by omega))]
        simp
      rw [fixedDigits, fixedDigits, append_lt_append_iff hlength, ih hm' hn',
        fixedDigits_inj hm' hn', hlast]
      omega

/-- Texts that start with a number of fixed width compare by the number first. -/
theorem fixedDigits_append_lt_iff {width m n : Nat} (hm : m < 10 ^ width) (hn : n < 10 ^ width)
    (a b : List Char) :
    fixedDigits width m ++ a < fixedDigits width n ++ b ↔ m < n ∨ (m = n ∧ a < b) := by
  have hlength : (fixedDigits width m).length = (fixedDigits width n).length := by
    rw [length_fixedDigits, length_fixedDigits]
  rw [append_lt_append_iff hlength, fixedDigits_lt_iff hm hn, fixedDigits_inj hm hn]

theorem fixedDigits_append_inj {width m n : Nat} (hm : m < 10 ^ width) (hn : n < 10 ^ width)
    (a b : List Char) :
    fixedDigits width m ++ a = fixedDigits width n ++ b ↔ m = n ∧ a = b := by
  have hlength : (fixedDigits width m).length = (fixedDigits width n).length := by
    rw [length_fixedDigits, length_fixedDigits]
  constructor
  · intro h
    obtain ⟨hhead, htail⟩ := List.append_inj h hlength
    exact ⟨(fixedDigits_inj hm hn).mp hhead, htail⟩
  · rintro ⟨rfl, rfl⟩
    rfl

/-- A common first character does not count. -/
theorem cons_lt_cons_same (x : Char) (a b : List Char) : x :: a < x :: b ↔ a < b := by
  rw [List.cons_lt_cons_iff]
  constructor
  · rintro (hlt | ⟨-, hlt⟩)
    · exact absurd hlt (lt_irrefl x)
    · exact hlt
  · intro hlt
    exact Or.inr ⟨rfl, hlt⟩

/-- Quotient and remainder compare the way the numbers do. -/
theorem divMod_lt_iff {n : Nat} (a b : Nat) (rest : Prop) :
    (a / n < b / n ∨ (a / n = b / n ∧ (a % n < b % n ∨ (a % n = b % n ∧ rest)))) ↔
      a < b ∨ (a = b ∧ rest) := by
  have ha := Nat.div_add_mod a n
  have hb := Nat.div_add_mod b n
  rcases lt_trichotomy a b with hlt | rfl | hgt
  · refine iff_of_true ?_ (Or.inl hlt)
    rcases lt_or_eq_of_le (Nat.div_le_div_right (c := n) (le_of_lt hlt)) with hquotient | heq
    · exact Or.inl hquotient
    · rw [heq] at ha
      exact Or.inr ⟨heq, Or.inl (by omega)⟩
  · simp
  · refine iff_of_false ?_ (by omega)
    have hle := Nat.div_le_div_right (c := n) (le_of_lt hgt)
    rintro (hquotient | ⟨heq, hremainder⟩)
    · omega
    · rw [heq] at ha
      rcases hremainder with hlt | ⟨hsame, -⟩
      · omega
      · omega

/-! ## Padded decimals -/

theorem fixedDigits_zero (width : Nat) : fixedDigits width 0 = List.replicate width '0' := by
  induction width with
  | zero => rfl
  | succ width ih =>
      have hdigit : Nat.digitChar (0 % 10) = '0' := rfl
      rw [fixedDigits, Nat.zero_div, ih, hdigit, List.replicate_succ']

/-- Zeros in front of the digits of a number make it a number of fixed width. -/
theorem replicate_append_toDigits {width n : Nat} (hwidth : 0 < width) (hn : n < 10 ^ width) :
    List.replicate (width - (Nat.toDigits 10 n).length) '0' ++ Nat.toDigits 10 n =
      fixedDigits width n := by
  induction width generalizing n with
  | zero => omega
  | succ width ih =>
      rw [pow_succ] at hn
      by_cases hsmall : n < 10
      · rw [Nat.toDigits_of_lt_base hsmall, fixedDigits, Nat.mod_eq_of_lt hsmall]
        have hzero : n / 10 = 0 := by omega
        rw [hzero, List.length_singleton, Nat.add_sub_cancel, fixedDigits_zero]
      · have hbase : 10 ≤ n := by omega
        have hwidth' : 0 < width := by
          rcases Nat.eq_zero_or_pos width with rfl | hpos
          · rw [pow_zero] at hn
            omega
          · exact hpos
        rw [Nat.toDigits_of_base_le (by decide) hbase, fixedDigits,
          ← ih hwidth' (by omega), List.length_append, List.length_singleton,
          ← List.append_assoc]
        congr 2
        congr 1
        omega

end TaModel.Library
