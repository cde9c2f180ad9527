import Mathlib.Algebra.Order.Field.Basic
import Mathlib.Algebra.Order.Floor.Ring
import Mathlib.Data.Int.Log
import Mathlib.Data.Rat.Floor
import Mathlib.Tactic.Linarith
import Mathlib.Tactic.Positivity

/-! Rounding to the nearest of a set of numbers, and the one of binary64. Overflow is
left out: the exponent has no upper bound. -/

namespace OpenScale.Library

/-- To the nearest number of a set, with any choice on ties. -/
structure Rounding where
  representable : Set ℚ
  round : ℚ → ℚ
  round_mem : ∀ x, round x ∈ representable
  nearest : ∀ x, ∀ y ∈ representable, |x - round x| ≤ |x - y|

namespace Rounding

variable (rounding : Rounding) {x y : ℚ}

theorem round_of_mem (member : x ∈ rounding.representable) : rounding.round x = x := by
  have close := rounding.nearest x x member
  rw [sub_self, abs_zero] at close
  exact (sub_eq_zero.mp (abs_eq_zero.mp (le_antisymm close (abs_nonneg _)))).symm

theorem mono : Monotone rounding.round := by
  intro x y le
  rcases le.eq_or_lt with rfl | less
  · exact le_rfl
  · by_contra wrong
    have order := not_le.mp wrong
    have first := sq_le_sq.mpr (rounding.nearest x _ (rounding.round_mem y))
    have second := sq_le_sq.mpr (rounding.nearest y _ (rounding.round_mem x))
    nlinarith [mul_pos (sub_pos.mpr less) (sub_pos.mpr order)]

theorem round_le (bound : x ≤ y) (member : y ∈ rounding.representable) : rounding.round x ≤ y := by
  rw [← rounding.round_of_mem member]
  exact rounding.mono bound

theorem le_round (bound : x ≤ y) (member : x ∈ rounding.representable) : x ≤ rounding.round y := by
  rw [← rounding.round_of_mem member]
  exact rounding.mono bound

/-- A share in percent, rounded at each of its operations, stays between 0 and 100. -/
theorem percent_mem (none_ : (0 : ℚ) ∈ rounding.representable)
    (one : (1 : ℚ) ∈ rounding.representable)
    (hundred : (100 : ℚ) ∈ rounding.representable) {part whole : ℚ} (nonneg : 0 ≤ part)
    (le : part ≤ whole) :
    0 ≤ rounding.round (rounding.round (rounding.round part / rounding.round whole) * 100) ∧
      rounding.round (rounding.round (rounding.round part / rounding.round whole) * 100) ≤ 100 := by
  have part_nonneg := rounding.le_round nonneg none_
  have parts := rounding.mono le
  have share_nonneg : 0 ≤ rounding.round part / rounding.round whole :=
    div_nonneg part_nonneg (part_nonneg.trans parts)
  have share_le : rounding.round part / rounding.round whole ≤ 1 :=
    div_le_one_of_le₀ parts (part_nonneg.trans parts)
  have low := rounding.le_round share_nonneg none_
  have high := rounding.round_le share_le one
  exact ⟨rounding.le_round (by linarith) none_, rounding.round_le (by linarith) hundred⟩

end Rounding

/-- The nearest integer, and the even one on ties. -/
def roundHalfEven (x : ℚ) : ℤ :=
  if Int.fract x < 1 / 2 then ⌊x⌋
  else if 1 / 2 < Int.fract x then ⌊x⌋ + 1
  else if ⌊x⌋ % 2 = 0 then ⌊x⌋ else ⌊x⌋ + 1

theorem roundHalfEven_nearest (x : ℚ) (z : ℤ) : |x - roundHalfEven x| ≤ |x - z| := by
  have fract := Int.self_sub_floor x
  have low := Int.fract_nonneg x
  have high := Int.fract_lt_one x
  -- Any integer is at least as far off as the floor or as the one after it.
  have far : Int.fract x ≤ |x - z| ∨ 1 - Int.fract x ≤ |x - z| := by
    rcases le_or_gt z ⌊x⌋ with below | above
    · left
      have cast : (z : ℚ) ≤ ⌊x⌋ := by exact_mod_cast below
      exact le_trans (by linarith) (le_abs_self _)
    · right
      have cast : (⌊x⌋ : ℚ) + 1 ≤ z := by exact_mod_cast above
      exact le_trans (by linarith) (neg_le_abs _)
  have down : |x - (⌊x⌋ : ℤ)| = Int.fract x := by rw [fract, abs_of_nonneg low]
  have up : |x - ((⌊x⌋ + 1 : ℤ) : ℚ)| = 1 - Int.fract x := by
    push_cast
    rw [← sub_sub, fract, abs_sub_comm, abs_of_pos (sub_pos.mpr high)]
  unfold roundHalfEven
  split
  · rw [down]
    rcases far with near | near <;> linarith
  · split
    · rw [up]
      rcases far with near | near <;> linarith
    · split
      · rw [down]
        rcases far with near | near <;> linarith
      · rw [up]
        rcases far with near | near <;> linarith

theorem roundHalfEven_half (x : ℚ) : |x - roundHalfEven x| ≤ 1 / 2 :=
  (roundHalfEven_nearest x (round x)).trans (abs_sub_round x)

theorem roundHalfEven_mem (x : ℚ) : ⌊x⌋ ≤ roundHalfEven x ∧ roundHalfEven x ≤ ⌊x⌋ + 1 := by
  unfold roundHalfEven
  split
  · omega
  · split
    · omega
    · split <;> omega

section Binary64

/-- The exponent of the last place of a number, with 53 bits before it. -/
def lastPlace (x : ℚ) : ℤ := max (Int.log 2 |x| - 52) (-1074)

def toDouble (x : ℚ) : ℚ := roundHalfEven (x / 2 ^ lastPlace x) * 2 ^ lastPlace x

/-- A number of 53 bits times a power of two that is not too small. -/
def IsDouble (y : ℚ) : Prop := ∃ mantissa exponent : ℤ, |mantissa| ≤ 2 ^ 53 ∧ -1074 ≤ exponent ∧
    y = mantissa * 2 ^ exponent

theorem abs_div_lt (x : ℚ) : |x / 2 ^ lastPlace x| < 2 ^ 53 := by
  have place : (0 : ℚ) < 2 ^ lastPlace x := zpow_pos (by norm_num) _
  have size : |x| < (2 : ℚ) ^ (Int.log 2 |x| + 1) := by
    have := Int.lt_zpow_succ_log_self (b := 2) (by decide) |x|
    exact_mod_cast this
  have exponent : Int.log 2 |x| + 1 ≤ 53 + lastPlace x := by
    have := le_max_left (Int.log 2 |x| - 52) (-1074)
    unfold lastPlace
    omega
  have bound : (2 : ℚ) ^ (Int.log 2 |x| + 1) ≤ 2 ^ (53 : ℤ) * 2 ^ lastPlace x := by
    rw [← zpow_add₀ (by norm_num)]
    exact zpow_le_zpow_right₀ (by norm_num) exponent
  rw [abs_div, abs_of_pos place, div_lt_iff₀ place]
  exact size.trans_le bound

theorem isDouble_toDouble (x : ℚ) : IsDouble (toDouble x) := by
  refine ⟨roundHalfEven (x / 2 ^ lastPlace x), lastPlace x, ?_, le_max_right _ _, rfl⟩
  obtain ⟨low, high⟩ := abs_lt.mp (abs_div_lt x)
  obtain ⟨above, below⟩ := roundHalfEven_mem (x / 2 ^ lastPlace x)
  have floor_lt : ⌊x / 2 ^ lastPlace x⌋ < 2 ^ 53 := Int.floor_lt.mpr (by exact_mod_cast high)
  have le_floor : -2 ^ 53 ≤ ⌊x / 2 ^ lastPlace x⌋ := Int.le_floor.mpr (by exact_mod_cast low.le)
  exact abs_le.mpr ⟨by omega, by omega⟩

theorem toDouble_nearest_multiple (x : ℚ) (z : ℤ) :
    |x - toDouble x| ≤ |x - z * 2 ^ lastPlace x| := by
  have place : (0 : ℚ) < 2 ^ lastPlace x := zpow_pos (by norm_num) _
  have scaled : ∀ w : ℤ, |x - w * 2 ^ lastPlace x| = |x / 2 ^ lastPlace x - w| *
      2 ^ lastPlace x := by
    intro w
    rw [← abs_of_pos place, ← abs_mul, abs_of_pos place, sub_mul, div_mul_cancel₀ _ place.ne']
  unfold toDouble
  rw [scaled, scaled]
  exact mul_le_mul_of_nonneg_right (roundHalfEven_nearest _ z) place.le

theorem toDouble_nearest (x y : ℚ) (double : IsDouble y) : |x - toDouble x| ≤ |x - y| := by
  obtain ⟨mantissa, exponent, small, least, rfl⟩ := double
  rcases le_or_gt (lastPlace x) exponent with coarse | fine
  · -- A multiple of the last place.
    obtain ⟨shift, rfl⟩ : ∃ shift : ℕ, exponent = lastPlace x + shift :=
      ⟨(exponent - lastPlace x).toNat, by omega⟩
    have multiple : (mantissa : ℚ) * 2 ^ (lastPlace x + shift) =
        (mantissa * 2 ^ shift : ℤ) * 2 ^ lastPlace x := by
      rw [zpow_add₀ (by norm_num)]
      push_cast
      rw [zpow_natCast]
      ring
    rw [multiple]
    exact toDouble_nearest_multiple x _
  · -- So small that the power of two below the number is between them.
    have normal : lastPlace x = Int.log 2 |x| - 52 := by
      unfold lastPlace at fine ⊢
      omega
    have power : (2 : ℚ) ^ 52 * 2 ^ lastPlace x = 2 ^ Int.log 2 |x| := by
      rw [normal, ← zpow_natCast, ← zpow_add₀ (by norm_num)]
      congr 1
      omega
    have bound : |(mantissa : ℚ) * 2 ^ exponent| ≤ 2 ^ 52 * 2 ^ lastPlace x := by
      have few : |(mantissa : ℚ)| ≤ 2 ^ 53 := by exact_mod_cast small
      have below : (2 : ℚ) ^ exponent ≤ 2 ^ (lastPlace x - 1) :=
        zpow_le_zpow_right₀ (by norm_num) (by omega)
      have half : (2 : ℚ) ^ 53 * 2 ^ (lastPlace x - 1) = 2 ^ 52 * 2 ^ lastPlace x := by
        rw [zpow_sub₀ (by norm_num)]
        ring
      have positive : (0 : ℚ) < 2 ^ exponent := zpow_pos (by norm_num) _
      rw [abs_mul, abs_of_pos positive, ← half]
      exact mul_le_mul few below positive.le (by norm_num)
    rcases lt_trichotomy x 0 with negative | rfl | positive
    · have reached : 2 ^ 52 * 2 ^ lastPlace x ≤ |x| := by
        rw [power]
        exact_mod_cast Int.zpow_log_le_self (b := 2) (by decide) (abs_pos.mpr negative.ne)
      have near := toDouble_nearest_multiple x (-2 ^ 52)
      have cast : ((-2 ^ 52 : ℤ) : ℚ) = -2 ^ 52 := by norm_num
      rw [abs_of_neg negative] at reached
      have far := neg_le_abs (x - mantissa * 2 ^ exponent)
      have least := neg_abs_le ((mantissa : ℚ) * 2 ^ exponent)
      have between : |x - -2 ^ 52 * 2 ^ lastPlace x| = -x - 2 ^ 52 * 2 ^ lastPlace x := by
        rw [abs_of_nonpos (by linarith)]
        ring
      rw [cast, between] at near
      linarith
    · have near := toDouble_nearest_multiple 0 0
      simp only [Int.cast_zero, zero_mul, sub_zero, abs_zero] at near
      exact near.trans (abs_nonneg _)
    · have reached : 2 ^ 52 * 2 ^ lastPlace x ≤ |x| := by
        rw [power]
        exact_mod_cast Int.zpow_log_le_self (b := 2) (by decide) (abs_pos.mpr positive.ne')
      have near := toDouble_nearest_multiple x (2 ^ 52)
      have cast : ((2 ^ 52 : ℤ) : ℚ) = 2 ^ 52 := by norm_num
      rw [abs_of_pos positive] at reached
      have far := le_abs_self (x - mantissa * 2 ^ exponent)
      have most := le_abs_self ((mantissa : ℚ) * 2 ^ exponent)
      have between : |x - 2 ^ 52 * 2 ^ lastPlace x| = x - 2 ^ 52 * 2 ^ lastPlace x :=
        abs_of_nonneg (by linarith)
      rw [cast, between] at near
      linarith

/-- IEEE 754 arithmetic on doubles rounds the exact result so. -/
def binary64 : Rounding where
  representable := {y | IsDouble y}
  round := toDouble
  round_mem := isDouble_toDouble
  nearest := toDouble_nearest

theorem isDouble_int {n : ℤ} (small : |n| ≤ 2 ^ 53) : (n : ℚ) ∈ binary64.representable :=
  ⟨n, 0, small, by norm_num, by simp⟩

end Binary64

end OpenScale.Library
