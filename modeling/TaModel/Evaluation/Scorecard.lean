import TaModel.Library.Drawdown
import TaModel.Library.TailMeans
import Mathlib.Data.List.Sort
import Mathlib.Data.Rat.Floor

/-!
# Scorecard metrics

`_max_drawdown` passes once over the returns with the running equity and its peak, and `_cvar` sorts
the returns and averages the front. Over exact arithmetic they are the deepest drop between two
points of the equity curve (`maxDrawdown_tracks`) and the least mean of a tail of that
size (`isLeast_tailMeans_of_cvar`).
-/

set_option autoImplicit false

namespace TaModel.Evaluation

open Library

/-! ## Compounding -/

def compoundedReturn (values : List Rat) : Option Rat :=
  if values = [] then none
  else some (values.foldl (fun equity value => equity * (1 + value)) 1 - 1)

/-- `equity` and `peak` of the loop, and the drawdown so far. -/
structure DrawdownState where
  equity : Rat
  peak : Rat
  maxDrawdown : Rat
  deriving DecidableEq, Repr

def drawdownStart : DrawdownState := ⟨1, 1, 0⟩

def drawdownStep (s : DrawdownState) (value : Rat) : DrawdownState :=
  let equity := s.equity * (1 + value)
  let peak := if s.peak < equity then equity else s.peak
  let drawdown := equity / peak - 1
  { equity
    peak
    maxDrawdown := if drawdown < s.maxDrawdown then drawdown else s.maxDrawdown }

/-- `_max_drawdown`. -/
def maxDrawdown (values : List Rat) : Option Rat :=
  if values = [] then none else some (values.foldl drawdownStep drawdownStart).maxDrawdown

/-! ## Tails -/

/-- `_mean`. -/
def mean (values : List Rat) : Option Rat :=
  if values = [] then none else some (values.sum / values.length)

/-- `_ceil_decimal`; `int` drops the fraction. -/
def ceilDecimal (value : Rat) : Int :=
  let integral := value.num.tdiv value.den
  if value = integral then integral else integral + 1

def tailCount (n : Nat) (tailProbability : Rat) : Nat :=
  (max 1 (ceilDecimal (n * tailProbability))).toNat

/-- `_cvar`. -/
def cvar (values : List Rat) (tailProbability : Rat) : Option Rat :=
  if values = [] then none
  else
    let tail := (values.insertionSort (· ≤ ·)).take (tailCount values.length tailProbability)
    some (tail.sum / tail.length)

/-! ## The equity curve -/

/-- Equity after the first `k` returns. -/
def equity (returns : List Rat) : Nat → Rat
  | 0 => 1
  | k + 1 => equity returns k * (1 + returns.getD k 0)

theorem equity_succ {returns : List Rat} {k : Nat} {value : Rat} (h : returns[k]? = some value) :
    equity returns (k + 1) = equity returns k * (1 + value) := by
  rw [equity, List.getD_eq_getElem?_getD, h, Option.getD_some]

theorem equity_nonneg {returns : List Rat} (hloss : ∀ value ∈ returns, -1 ≤ value) (k : Nat) :
    0 ≤ equity returns k := by
  induction k with
  | zero => exact zero_le_one
  | succ k ih =>
      refine mul_nonneg ih ?_
      rw [List.getD_eq_getElem?_getD]
      cases hvalue : returns[k]? with
      | none => norm_num
      | some value =>
          have hbound := hloss value (List.mem_of_getElem? hvalue)
          simp only [Option.getD_some]
          linarith

theorem foldl_take_add_one {σ : Type} (step : σ → Rat → σ) (start : σ) {returns : List Rat}
    {k : Nat} (hk : k < returns.length) :
    (returns.take (k + 1)).foldl step start =
      step ((returns.take k).foldl step start) returns[k] := by
  rw [List.take_add_one, List.getElem?_eq_getElem hk, Option.toList_some, List.foldl_append]
  rfl

/-- After the first `k` returns the compounding loop is at the equity curve's point `k`. -/
theorem foldl_take_eq_equity (returns : List Rat) {k : Nat} (hk : k ≤ returns.length) :
    (returns.take k).foldl (fun equity value => equity * (1 + value)) 1 = equity returns k := by
  induction k with
  | zero => rfl
  | succ k ih =>
      have hvalue : returns[k]? = some returns[k] := List.getElem?_eq_getElem hk
      rw [foldl_take_add_one _ _ hk, ih (Nat.le_of_succ_le hk), equity_succ hvalue]

theorem compoundedReturn_eq {returns : List Rat} (hne : returns ≠ []) :
    compoundedReturn returns = some (equity returns returns.length - 1) := by
  rw [compoundedReturn, if_neg hne, ← foldl_take_eq_equity returns (le_refl returns.length),
    List.take_length]

/-! ## The drawdown loop -/

/-- The loop is at point `k` of the equity curve, with the peak and the drawdown up to there. -/
structure AtPoint (returns : List Rat) (k : Nat) (s : DrawdownState) : Prop where
  equity_eq : s.equity = equity returns k
  tracks : TracksDrop (equity returns) k s.peak s.maxDrawdown

theorem drawdownStep_peak (s : DrawdownState) (value : Rat) :
    (drawdownStep s value).peak = max s.peak (s.equity * (1 + value)) := by
  rw [max_def_lt]
  rfl

theorem drawdownStep_maxDrawdown (s : DrawdownState) (value : Rat) :
    (drawdownStep s value).maxDrawdown =
      min s.maxDrawdown
        (s.equity * (1 + value) / max s.peak (s.equity * (1 + value)) - 1) := by
  rw [min_comm, min_def_lt, max_def_lt]
  rfl

theorem AtPoint.step {returns : List Rat} {k : Nat} {s : DrawdownState} {value : Rat}
    (hloss : ∀ value ∈ returns, -1 ≤ value) (hvalue : returns[k]? = some value)
    (h : AtPoint returns k s) : AtPoint returns (k + 1) (drawdownStep s value) := by
  have hequity : s.equity * (1 + value) = equity returns (k + 1) := by
    rw [h.equity_eq, equity_succ hvalue]
  refine ⟨hequity, ?_⟩
  rw [drawdownStep_peak, drawdownStep_maxDrawdown, hequity]
  exact h.tracks.succ one_pos (equity_nonneg hloss (k + 1))

/-- The run of the loop over the first `k` returns. -/
theorem atPoint_take {returns : List Rat} (hloss : ∀ value ∈ returns, -1 ≤ value) {k : Nat}
    (hk : k ≤ returns.length) :
    AtPoint returns k ((returns.take k).foldl drawdownStep drawdownStart) := by
  induction k with
  | zero => exact ⟨rfl, TracksDrop.zero one_pos⟩
  | succ k ih =>
      have hvalue : returns[k]? = some returns[k] := List.getElem?_eq_getElem hk
      rw [foldl_take_add_one _ _ hk]
      exact (ih (Nat.le_of_succ_le hk)).step hloss hvalue

theorem maxDrawdown_tracks {returns : List Rat} (hne : returns ≠ [])
    (hloss : ∀ value ∈ returns, -1 ≤ value) :
    ∃ peak d, maxDrawdown returns = some d ∧
      TracksDrop (equity returns) returns.length peak d := by
  have hrun := (atPoint_take hloss (le_refl returns.length)).tracks
  rw [List.take_length] at hrun
  exact ⟨_, _, if_neg hne, hrun⟩

/-! ## The sorted tail -/

theorem ceilDecimal_eq_ceil {value : Rat} (h : 0 ≤ value) : ceilDecimal value = ⌈value⌉ := by
  have hnum : 0 ≤ value.num := Rat.num_nonneg.mpr h
  have hfloor : value.num.tdiv value.den = ⌊value⌋ := by
    rw [Rat.floor_def', Int.tdiv_eq_ediv_of_nonneg hnum]
  rw [ceilDecimal, hfloor]
  by_cases hint : value = ⌊value⌋
  · rw [if_pos hint]
    nth_rewrite 2 [hint]
    exact (Int.ceil_intCast ⌊value⌋).symm
  · rw [if_neg hint]
    -- a value that is no integer lies strictly between its floor and the next integer
    have hlt : (⌊value⌋ : Rat) < value := lt_of_le_of_ne (Int.floor_le value) (Ne.symm hint)
    refine (Int.ceil_eq_iff.mpr ⟨?_, ?_⟩).symm
    · push_cast
      linarith
    · push_cast
      exact (Int.lt_floor_add_one value).le

/-- The size of the tail, as the definition of the metric states it. -/
theorem tailCount_eq (n : Nat) {p : Rat} (hp : 0 ≤ p) : tailCount n p = max 1 ⌈n * p⌉₊ := by
  have hvalue : 0 ≤ n * p := mul_nonneg n.cast_nonneg hp
  rw [tailCount, ceilDecimal_eq_ceil hvalue, ← Int.natCast_ceil_eq_ceil hvalue]
  omega

theorem tailCount_pos (n : Nat) (p : Rat) : 0 < tailCount n p := by
  rw [tailCount]
  omega

theorem tailCount_mono (n : Nat) {p q : Rat} (hp : 0 ≤ p) (hpq : p ≤ q) :
    tailCount n p ≤ tailCount n q := by
  rw [tailCount_eq n hp, tailCount_eq n (hp.trans hpq)]
  exact max_le_max_left 1 (Nat.ceil_le_ceil (mul_le_mul_of_nonneg_left hpq n.cast_nonneg))

theorem tailCount_le {n : Nat} (hn : 0 < n) {p : Rat} (hp : 0 ≤ p) (hle : p ≤ 1) :
    tailCount n p ≤ n := by
  rw [tailCount_eq n hp]
  refine max_le hn (Nat.ceil_le.mpr ?_)
  exact mul_le_of_le_one_right n.cast_nonneg hle

/-- The means of the tails of the size that a tail probability asks for. -/
def tailMeans (returns : List Rat) (p : Rat) : Set Rat :=
  {x | ∃ tail : Multiset Rat, tail ≤ (returns : Multiset Rat) ∧
    tail.card = max 1 ⌈returns.length * p⌉₊ ∧ multisetMean tail = x}

theorem length_take_tailCount {returns : List Rat} (hne : returns ≠ []) {p : Rat} (hp : 0 ≤ p)
    (hle : p ≤ 1) :
    ((returns.insertionSort (· ≤ ·)).take (tailCount returns.length p)).length =
      tailCount returns.length p := by
  refine List.length_take_of_le ?_
  rw [List.length_insertionSort]
  exact tailCount_le (List.length_pos_iff.mpr hne) hp hle

theorem cvar_eq {returns : List Rat} (hne : returns ≠ []) {p : Rat} (hp : 0 ≤ p) (hle : p ≤ 1) :
    cvar returns p =
      some (((returns.insertionSort (· ≤ ·)).take (tailCount returns.length p)).sum /
        tailCount returns.length p) := by
  rw [cvar, if_neg hne]
  simp only [length_take_tailCount hne hp hle]

theorem isLeast_tailMeans_of_cvar {returns : List Rat} (hne : returns ≠ []) {p : Rat} (hp : 0 ≤ p)
    (hle : p ≤ 1) {c : Rat} (h : cvar returns p = some c) : IsLeast (tailMeans returns p) c := by
  rw [cvar_eq hne hp hle, Option.some.injEq] at h
  have hlength := length_take_tailCount hne hp hle
  have hperm := List.perm_insertionSort (· ≤ ·) returns
  constructor
  · refine ⟨((returns.insertionSort (· ≤ ·)).take (tailCount returns.length p) : List Rat),
      ?_, ?_, ?_⟩
    · rw [← Multiset.coe_eq_coe.mpr hperm]
      exact Multiset.coe_le.mpr (List.take_sublist _ _).subperm
    · rw [Multiset.coe_card, hlength, tailCount_eq _ hp]
    · rw [multisetMean, Multiset.sum_coe, Multiset.coe_card, hlength, h]
  · rintro x ⟨tail, htail, hcard, rfl⟩
    rw [← tailCount_eq _ hp] at hcard
    have hsum := sum_take_le (List.pairwise_insertionSort (· ≤ ·) returns)
      (htail.trans_eq (Multiset.coe_eq_coe.mpr hperm).symm)
    rw [← h, multisetMean, hcard]
    rw [hcard] at hsum
    exact div_le_div_of_nonneg_right hsum (Nat.cast_nonneg _)

theorem cvar_mono {returns : List Rat} (hne : returns ≠ []) {p q : Rat} (hp : 0 ≤ p) (hpq : p ≤ q)
    (hq : q ≤ 1) {c c' : Rat} (h : cvar returns p = some c) (h' : cvar returns q = some c') :
    c ≤ c' := by
  rw [cvar_eq hne hp (hpq.trans hq), Option.some.injEq] at h
  rw [cvar_eq hne (hp.trans hpq) hq, Option.some.injEq] at h'
  rw [← h, ← h']
  refine mean_take_mono (List.pairwise_insertionSort (· ≤ ·) returns) (tailCount_pos _ p)
    (tailCount_mono _ hp hpq) ?_
  rw [List.length_insertionSort]
  exact tailCount_le (List.length_pos_iff.mpr hne) (hp.trans hpq) hq

/-- The whole list is the tail of probability 1. -/
theorem cvar_one {returns : List Rat} (hne : returns ≠ []) : cvar returns 1 = mean returns := by
  have hpos := List.length_pos_iff.mpr hne
  have hcount : tailCount returns.length 1 = returns.length := by
    rw [tailCount_eq _ zero_le_one, mul_one, Nat.ceil_natCast]
    exact max_eq_right hpos
  have htake : (returns.insertionSort (· ≤ ·)).take returns.length =
      returns.insertionSort (· ≤ ·) :=
    List.take_of_length_le (List.length_insertionSort _ returns).le
  rw [cvar_eq hne zero_le_one (le_refl 1), hcount, htake,
    (List.perm_insertionSort (· ≤ ·) returns).sum_eq, mean, if_neg hne]

theorem cvar_perm {returns other : List Rat} (hperm : other.Perm returns) (p : Rat) :
    cvar other p = cvar returns p := by
  have hsort : other.insertionSort (· ≤ ·) = returns.insertionSort (· ≤ ·) :=
    List.Perm.eq_of_pairwise' (List.pairwise_insertionSort (· ≤ ·) other)
      (List.pairwise_insertionSort (· ≤ ·) returns)
      (((List.perm_insertionSort (· ≤ ·) other).trans hperm).trans
        (List.perm_insertionSort (· ≤ ·) returns).symm)
  have hnil : other = [] ↔ returns = [] :=
    ⟨fun h => (h ▸ hperm).nil_eq.symm, fun h => (h ▸ hperm).eq_nil⟩
  simp only [cvar, hsort, hperm.length_eq, hnil]

/-- For returns of at least -1 the drawdown metric is the deepest drop between two points of the
equity curve, and the CVaR metric is the least mean of a tail of its size. -/
theorem drawdown_cvar_definitions {returns : List Rat} (hne : returns ≠ [])
    (hloss : ∀ value ∈ returns, -1 ≤ value) :
    (∃ d, maxDrawdown returns = some d ∧
        IsLeast {x | ∃ i j, i ≤ j ∧ j ≤ returns.length ∧ 0 < equity returns i ∧
          equity returns j / equity returns i - 1 = x} d ∧
        -1 ≤ d ∧ d ≤ 0) ∧
      ∀ p, 0 < p → p ≤ 1 → ∃ c m, cvar returns p = some c ∧
        IsLeast {x | ∃ tail : Multiset Rat, tail ≤ (returns : Multiset Rat) ∧
          tail.card = max 1 ⌈returns.length * p⌉₊ ∧ tail.sum / tail.card = x} c ∧
        mean returns = some m ∧ c ≤ m ∧
        (∀ other : List Rat, other.Perm returns → cvar other p = some c) ∧
        ∀ q c', p ≤ q → q ≤ 1 → cvar returns q = some c' → c ≤ c' := by
  constructor
  · obtain ⟨peak, d, hd, htracks⟩ := maxDrawdown_tracks hne hloss
    exact ⟨d, hd, htracks.isLeast_worst,
      htracks.neg_one_le_worst fun i _ => equity_nonneg hloss i, htracks.worst_nonpos one_pos⟩
  · intro p hp hle
    have hc := cvar_eq hne hp.le hle
    have hm : mean returns = some (returns.sum / returns.length) := if_neg hne
    refine ⟨_, _, hc, isLeast_tailMeans_of_cvar hne hp.le hle hc, hm, ?_, ?_, ?_⟩
    · exact cvar_mono hne hp.le hle (le_refl 1) hc ((cvar_one hne).trans hm)
    · intro other hperm
      rw [cvar_perm hperm, hc]
    · intro q c' hpq hq hc'
      exact cvar_mono hne hp.le hpq hq hc hc'

/-- A loss, a recovery and a deeper loss. -/
theorem drawdown_cvar_definitions_loss_recovery_loss :
    ∃ d, maxDrawdown [-1/2, 1, -3/4] = some d ∧ -1 ≤ d ∧ d ≤ 0 := by
  obtain ⟨⟨d, hd, -, hlow, hhigh⟩, -⟩ :=
    @drawdown_cvar_definitions [-1/2, 1, -3/4] (by decide) (by decide +kernel)
  exact ⟨d, hd, hlow, hhigh⟩

example : maxDrawdown [-1/2, 1, -3/4] = some (-3/4) ∧ cvar [-1/2, 1, -3/4] (1/2) = some (-5/8) := by
  decide +kernel

end TaModel.Evaluation
