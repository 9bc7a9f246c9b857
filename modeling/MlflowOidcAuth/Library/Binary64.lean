import Mathlib.Data.Int.Log
import Mathlib.Data.Rat.Floor
import Mathlib.Tactic.Linarith
import Mathlib.Tactic.NormNum
import Mathlib.Tactic.Positivity

/-! Rounding to binary floating point in double precision, on the exact numbers: to the nearest
multiple of the unit in the last place, ties to even. -/
namespace Binary64

def halfEven (x : ℚ) : ℤ :=
  if Int.fract x < 1 / 2 then ⌊x⌋
  else if 1 / 2 < Int.fract x then ⌊x⌋ + 1
  else if ⌊x⌋ % 2 = 0 then ⌊x⌋ else ⌊x⌋ + 1

/-- The unit in the last place, as a power of two; small numbers share the one of the subnormal
numbers. -/
def exponent (x : ℚ) : ℤ := max (Int.log 2 |x| - 52) (-1074)

def rounded (x : ℚ) : ℚ := halfEven (x / 2 ^ exponent x) * 2 ^ exponent x

def overflow : ℚ := 2 ^ (1024 : ℤ)

/-- Half the smallest double. -/
def underflow : ℚ := 2 ^ (-1075 : ℤ)

/-- The double nearest to a number, unless it overflows. -/
def nearest (x : ℚ) : Option ℚ := if |rounded x| < overflow then some (rounded x) else none

theorem underflow_pos : 0 < underflow := zpow_pos (by norm_num) _

theorem underflow_le : underflow ≤ 1 / 2 ^ 100 := by
  have smaller : (2 : ℚ) ^ (-1075 : ℤ) ≤ 2 ^ (-100 : ℤ) :=
    zpow_le_zpow_right₀ (by norm_num) (by norm_num)
  exact smaller.trans_eq (by norm_num)

theorem le_overflow : 2 ^ 100 ≤ overflow := by
  have larger : (2 : ℚ) ^ (100 : ℤ) ≤ 2 ^ (1024 : ℤ) :=
    zpow_le_zpow_right₀ (by norm_num) (by norm_num)
  exact (by norm_num : (2 : ℚ) ^ 100 = 2 ^ (100 : ℤ)).trans_le larger

theorem halfEven_error (x : ℚ) : |(halfEven x : ℚ) - x| ≤ 1 / 2 := by
  have parts := Int.floor_add_fract x
  have low := Int.fract_nonneg x
  have high := Int.fract_lt_one x
  unfold halfEven
  split
  · rw [abs_le]
    constructor <;> linarith
  · split
    · push_cast
      rw [abs_le]
      constructor <;> linarith
    · split
      · rw [abs_le]
        constructor <;> linarith
      · push_cast
        rw [abs_le]
        constructor <;> linarith

theorem halfEven_intCast (n : ℤ) : halfEven n = n := by
  simp [halfEven]

theorem unit_pos (x : ℚ) : (0 : ℚ) < 2 ^ exponent x := zpow_pos (by norm_num) _

theorem unit_le {x : ℚ} (nonzero : x ≠ 0) :
    (2 : ℚ) ^ exponent x ≤ |x| / 2 ^ 52 + 2 * underflow := by
  have small := underflow_pos
  have large : (0 : ℚ) ≤ |x| / 2 ^ 52 := by positivity
  rcases max_choice (Int.log 2 |x| - 52) (-1074) with normal | subnormal
  · have leading : (2 : ℚ) ^ Int.log 2 |x| ≤ |x| := by
      exact_mod_cast @Int.zpow_log_le_self ℚ _ _ _ _ 2 _ (by norm_num) (abs_pos.mpr nonzero)
    have split : (2 : ℚ) ^ exponent x = 2 ^ Int.log 2 |x| / 2 ^ 52 := by
      rw [exponent,normal,zpow_sub₀ (by norm_num)]
      norm_cast
    have scaled : (2 : ℚ) ^ Int.log 2 |x| / 2 ^ 52 ≤ |x| / 2 ^ 52 := by
      gcongr
    rw [split]
    linarith
  · have split : (2 : ℚ) ^ exponent x = 2 * underflow := by
      rw [exponent,subnormal,underflow,← zpow_one_add₀ (by norm_num)]
      norm_num
    rw [split]
    linarith

/-- Half a unit in the last place. -/
theorem rounded_error (x : ℚ) : |rounded x - x| ≤ |x| / 2 ^ 53 + underflow := by
  by_cases zero : x = 0
  · subst zero
    have none' : halfEven 0 = 0 := halfEven_intCast 0
    rw [rounded,zero_div,none',Int.cast_zero,zero_mul,sub_self,abs_zero,zero_div,zero_add]
    exact underflow_pos.le
  · have pos := unit_pos x
    have scaled : rounded x - x =
        ((halfEven (x / 2 ^ exponent x) : ℚ) - x / 2 ^ exponent x) * 2 ^ exponent x := by
      rw [rounded,sub_mul,div_mul_cancel₀ _ pos.ne']
    have half : |rounded x - x| ≤ 1 / 2 * 2 ^ exponent x := by
      rw [scaled,abs_mul,abs_of_pos pos]
      gcongr
      exact halfEven_error _
    have units := unit_le zero
    linarith

theorem nearest_error {x value : ℚ} (near : nearest x = some value) :
    |value - x| ≤ |x| / 2 ^ 53 + underflow := by
  unfold nearest at near
  split at near
  · cases near
    exact rounded_error x
  · cases near

theorem halfEven_nonneg {x : ℚ} (nonneg : 0 ≤ x) : 0 ≤ halfEven x := by
  have whole := Int.floor_nonneg.mpr nonneg
  unfold halfEven
  split
  · exact whole
  · split
    · omega
    · split <;> omega

theorem nearest_nonneg {x value : ℚ} (nonneg : 0 ≤ x) (near : nearest x = some value) :
    0 ≤ value := by
  unfold nearest at near
  split at near
  · cases near
    have pos := unit_pos x
    have whole : (0 : ℚ) ≤ halfEven (x / 2 ^ exponent x) :=
      Int.cast_nonneg (halfEven_nonneg (div_nonneg nonneg pos.le))
    exact mul_nonneg whole pos.le
  · cases near

theorem nearest_of_lt {x : ℚ} (bounded : |x| < overflow / 2) : ∃ value, nearest x = some value := by
  have close := rounded_error x
  have near : |rounded x| ≤ |x| + |rounded x - x| := by
    have shifted := abs_add_le x (rounded x - x)
    rwa [add_sub_cancel] at shifted
  have inside : |rounded x| < overflow := by
    have tiny := underflow_le
    have large := le_overflow
    norm_num at tiny large
    linarith
  exact ⟨rounded x,if_pos inside⟩

theorem exponent_natCast {n : ℕ} (small : n < 2 ^ 53) : exponent n ≤ 0 := by
  have bits : Nat.log 2 n ≤ 52 := Nat.lt_succ_iff.mp (Nat.log_lt_of_lt_pow' (by norm_num) small)
  have leading : Int.log 2 |(n : ℚ)| = Nat.log 2 n := by
    rw [Nat.abs_cast,Int.log_natCast]
  rw [exponent,leading]
  omega

/-- Whole numbers below 2^53 are doubles. -/
theorem nearest_natCast {n : ℕ} (small : n < 2 ^ 53) : nearest (n : ℚ) = some (n : ℚ) := by
  have exact : rounded n = n := by
    obtain ⟨k,shift⟩ := Int.eq_ofNat_of_zero_le (Int.neg_nonneg.mpr (exponent_natCast small))
    have whole : (n : ℚ) / 2 ^ exponent (n : ℚ) = ((n * 2 ^ k : ℕ) : ℤ) := by
      rw [← neg_neg (exponent (n : ℚ)),shift,zpow_neg,div_inv_eq_mul]
      norm_cast
    rw [rounded,whole,halfEven_intCast,← whole,div_mul_cancel₀ _ (unit_pos _).ne']
  have inside : |rounded (n : ℚ)| < overflow := by
    rw [exact,Nat.abs_cast]
    calc (n : ℚ) < 2 ^ 53 := by exact_mod_cast small
      _ ≤ 2 ^ 100 := by norm_num
      _ ≤ overflow := le_overflow
  rw [nearest,if_pos inside,exact]

end Binary64
