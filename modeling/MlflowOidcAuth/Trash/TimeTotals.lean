import Mathlib.Tactic.LinearCombination
import MlflowOidcAuth.Trash.TimeDelta

/-! How far the floats of a `timedelta` and of its milliseconds are from the exact sums, and when
they are exact. -/
namespace MlflowOidcAuth
open Binary64 Effects

def Microseconds.amount (sum : Microseconds) : ℚ := sum.whole + sum.leftover

/-- Numbers of units, in seconds. -/
def totalSeconds (numbers : List (TimeUnit × ℚ)) : ℚ :=
  (numbers.map (fun number => number.2 * (number.1.lengthInSeconds : ℚ))).sum

def finiteParam (number : TimeUnit × ℚ) : TimeUnit × PyFloat := (number.1,.finite number.2)

section Rounding
variable {x value : ℚ}

theorem truncate_of_nonneg (nonneg : 0 ≤ x) : PyFloat.truncate x = ⌊x⌋ := if_pos nonneg

theorem ofRat_of_near (near : nearest x = some value) : PyFloat.ofRat x = .finite value := by
  rw [PyFloat.ofRat,near,Option.elim_some]

theorem number_ofRat (near : nearest x = some value) : (PyFloat.ofRat x).number = .ok value := by
  rw [ofRat_of_near near,PyFloat.number]

/-- A number far from the limits has a double close to it. -/
theorem double_of_small (nonneg : 0 ≤ x) (small : x ≤ 10 ^ 18) :
    ∃ value, nearest x = some value ∧ 0 ≤ value ∧ |value - x| ≤ x / 2 ^ 53 + underflow := by
  have inside : |x| < overflow / 2 := by
    have large := le_overflow
    rw [abs_of_nonneg nonneg]
    norm_num at large small ⊢
    linarith
  obtain ⟨value,near⟩ := nearest_of_lt inside
  have close := nearest_error near
  rw [abs_of_nonneg nonneg] at close
  exact ⟨value,near,nearest_nonneg nonneg near,close⟩

theorem lengthInSeconds_le (unit : TimeUnit) : unit.lengthInSeconds ≤ 86400 := by
  cases unit <;> decide

theorem microseconds_eq (unit : TimeUnit) :
    (unit.microseconds : ℚ) = unit.lengthInSeconds * 1000000 := by
  rw [TimeUnit.microseconds,Nat.cast_mul,Nat.cast_ofNat,mul_comm]

theorem microseconds_bounds (unit : TimeUnit) :
    0 ≤ (unit.microseconds : ℚ) ∧ (unit.microseconds : ℚ) ≤ 86400000000 := by
  have bound : (unit.lengthInSeconds : ℚ) ≤ 86400 := by exact_mod_cast lengthInSeconds_le unit
  rw [microseconds_eq]
  constructor
  · positivity
  · linarith

end Rounding

section Sums
variable {unit : TimeUnit} {value : ℚ} {sofar : Microseconds}

theorem addNumber_whole (nonneg : 0 ≤ value) (whole : Int.fract value = 0) :
    addNumber sofar (finiteParam (unit,value)) =
      .ok ⟨sofar.whole + ⌊value⌋ * unit.microseconds,sofar.leftover⟩ := by
  simp only [addNumber,finiteParam,PyFloat.number,bind,Except.bind,pure,Except.pure,
    truncate_of_nonneg nonneg,Int.self_sub_floor,if_pos whole]

theorem addNumber_fraction {part leftover : ℚ} (nonneg : 0 ≤ value)
    (fractional : Int.fract value ≠ 0)
    (product : nearest (unit.microseconds * Int.fract value) = some part) (positive : 0 ≤ part)
    (added : nearest (sofar.leftover + Int.fract part) = some leftover) :
    addNumber sofar (finiteParam (unit,value)) =
      .ok ⟨sofar.whole + ⌊value⌋ * unit.microseconds + ⌊part⌋,leftover⟩ := by
  simp only [addNumber,finiteParam,PyFloat.number,bind,Except.bind,pure,Except.pure,
    truncate_of_nonneg nonneg,Int.self_sub_floor,if_neg fractional,ofRat_of_near product,
    truncate_of_nonneg positive,ofRat_of_near added]

/-- One argument adds its microseconds, up to a fraction of one. -/
theorem addNumber_error (nonneg : 0 ≤ value) (low : 0 ≤ sofar.leftover)
    (high : sofar.leftover ≤ 10) :
    ∃ sum, addNumber sofar (finiteParam (unit,value)) = .ok sum ∧ 0 ≤ sum.leftover ∧
      sum.leftover ≤ sofar.leftover + 2 ∧
      |sum.amount - (sofar.amount + value * unit.microseconds)| ≤ 1 / 50000 := by
  obtain ⟨unit_low,unit_high⟩ := microseconds_bounds unit
  have parts := Int.floor_add_fract value
  by_cases whole : Int.fract value = 0
  · refine ⟨_,addNumber_whole nonneg whole,low,by linarith,?_⟩
    have exact : (⟨sofar.whole + ⌊value⌋ * unit.microseconds,sofar.leftover⟩ : Microseconds).amount =
        sofar.amount + value * unit.microseconds := by
      rw [whole,add_zero] at parts
      simp only [Microseconds.amount]
      push_cast
      rw [parts]
      ring
    rw [exact,sub_self,abs_zero]
    norm_num
  · have fraction_low := Int.fract_nonneg value
    have fraction_high := Int.fract_lt_one value
    have scaled_low : 0 ≤ (unit.microseconds : ℚ) * Int.fract value :=
      mul_nonneg unit_low fraction_low
    have scaled_high : (unit.microseconds : ℚ) * Int.fract value ≤ 86400000000 := by
      nlinarith only [unit_low,unit_high,fraction_low,fraction_high]
    have tiny := underflow_le
    obtain ⟨part,product,part_nonneg,part_close⟩ :=
      double_of_small scaled_low (scaled_high.trans (by norm_num))
    have part_low := Int.fract_nonneg part
    have part_high := Int.fract_lt_one part
    have part_parts := Int.floor_add_fract part
    have room : sofar.leftover + Int.fract part ≤ 11 := by linarith
    obtain ⟨leftover,added,leftover_nonneg,leftover_close⟩ :=
      double_of_small (add_nonneg low part_low) (room.trans (by norm_num))
    rw [abs_le] at part_close leftover_close
    norm_num at tiny part_close leftover_close
    refine ⟨_,addNumber_fraction nonneg whole product part_nonneg added,leftover_nonneg,?_,?_⟩
    · simp only
      linarith
    · have error : (⟨sofar.whole + ⌊value⌋ * unit.microseconds + ⌊part⌋,leftover⟩ :
            Microseconds).amount - (sofar.amount + value * unit.microseconds) =
          (leftover - (sofar.leftover + Int.fract part)) +
            (part - unit.microseconds * Int.fract value) := by
        simp only [Microseconds.amount]
        push_cast
        linear_combination (unit.microseconds : ℚ) * parts + part_parts
      rw [error,abs_le]
      constructor <;> linarith

theorem totalSeconds_cons (number : TimeUnit × ℚ) (numbers : List (TimeUnit × ℚ)) :
    totalSeconds (number :: numbers) =
      number.2 * number.1.lengthInSeconds + totalSeconds numbers := by
  simp [totalSeconds]

theorem totalSeconds_nonneg {numbers : List (TimeUnit × ℚ)} (nonneg : ∀ number ∈ numbers, 0 ≤ number.2) :
    0 ≤ totalSeconds numbers := by
  apply List.sum_nonneg
  intro amount listed
  obtain ⟨number,member,rfl⟩ := List.mem_map.mp listed
  exact mul_nonneg (nonneg number member) (Nat.cast_nonneg _)

/-- The errors of the arguments add up. -/
theorem addNumbers_error (numbers : List (TimeUnit × ℚ)) (sofar : Microseconds)
    (nonneg : ∀ number ∈ numbers, 0 ≤ number.2) (low : 0 ≤ sofar.leftover)
    (room : sofar.leftover + 2 * numbers.length ≤ 10) :
    ∃ sum, (numbers.map finiteParam).foldlM addNumber sofar = .ok sum ∧ 0 ≤ sum.leftover ∧
      |sum.amount - (sofar.amount + totalSeconds numbers * 1000000)| ≤ numbers.length / 50000 := by
  induction numbers generalizing sofar with
  | nil =>
    refine ⟨sofar,rfl,low,?_⟩
    simp [totalSeconds]
  | cons number numbers ih =>
    obtain ⟨first,nonneg⟩ := List.forall_mem_cons.mp nonneg
    rw [List.length_cons,Nat.cast_add,Nat.cast_one] at room ⊢
    have length_nonneg : (0 : ℚ) ≤ numbers.length := Nat.cast_nonneg _
    obtain ⟨next,added,next_low,next_high,next_close⟩ :=
      @addNumber_error number.1 number.2 sofar first low (by linarith)
    obtain ⟨sum,folded,sum_low,sum_close⟩ := ih next nonneg next_low (by linarith)
    refine ⟨sum,?_,sum_low,?_⟩
    · rw [List.map_cons,List.foldlM_cons,added]
      exact folded
    · rw [totalSeconds_cons]
      rw [microseconds_eq] at next_close
      rw [abs_le] at next_close sum_close ⊢
      constructor <;> linarith

theorem totalSeconds_reverse (numbers : List (TimeUnit × ℚ)) :
    totalSeconds numbers.reverse = totalSeconds numbers := by
  rw [totalSeconds,List.map_reverse,List.sum_reverse]
  rfl

/-- The sum of at most four arguments, rounded to a whole microsecond. -/
theorem timedelta_close {numbers : List (TimeUnit × ℚ)} (nonneg : ∀ number ∈ numbers, 0 ≤ number.2)
    (few : numbers.length ≤ 4) :
    ∃ sum : Int, timedelta (numbers.map finiteParam) = checkDays sum ∧ 0 ≤ sum ∧
      |(sum : ℚ) - totalSeconds numbers * 1000000| ≤ 501 / 1000 := by
  have length_le : (numbers.length : ℚ) ≤ 4 := by exact_mod_cast few
  obtain ⟨sum,folded,_,close⟩ := addNumbers_error numbers.reverse ⟨0,0⟩
    (fun number member => nonneg number (List.mem_reverse.mp member)) (le_refl 0)
    (by simp only [List.length_reverse]; linarith)
  have rounding := halfEven_error sum.amount
  have start : (⟨0,0⟩ : Microseconds).amount = 0 := by simp [Microseconds.amount]
  have total := totalSeconds_nonneg nonneg
  rw [start,zero_add,totalSeconds_reverse,List.length_reverse] at close
  have near : |(halfEven sum.amount : ℚ) - totalSeconds numbers * 1000000| ≤ 501 / 1000 := by
    rw [abs_le] at close rounding ⊢
    constructor <;> linarith
  refine ⟨halfEven sum.amount,?_,?_,near⟩
  · rw [timedelta,← List.map_reverse,folded]
    rfl
  · have above : (-1 : ℚ) < halfEven sum.amount := by
      rw [abs_le] at near
      linarith
    have above' : -1 < halfEven sum.amount := by exact_mod_cast above
    omega

end Sums

section Doubles
variable {numbers : List (TimeUnit × ℚ)}

def floatParam (number : TimeUnit × ℚ) : TimeUnit × PyFloat := (number.1,PyFloat.ofRat number.2)

/-- A number is replaced by its double. -/
def roundNumber (number : TimeUnit × ℚ) : TimeUnit × ℚ :=
  (number.1,(nearest number.2).getD 0)

theorem floatParam_of_double {number : TimeUnit × ℚ} {value : ℚ}
    (near : nearest number.2 = some value) :
    floatParam number = finiteParam (roundNumber number) := by
  simp only [floatParam,finiteParam,roundNumber,ofRat_of_near near,near,Option.getD_some]

/-- A sum that does not raise has no infinite argument. -/
theorem doubles_of_foldlM {sofar sum : Microseconds}
    (folded : (numbers.map floatParam).foldlM addNumber sofar = .ok sum) :
    ∀ number ∈ numbers, ∃ value, nearest number.2 = some value := by
  induction numbers generalizing sofar with
  | nil =>
    intro number member
    cases member
  | cons number numbers ih =>
    rw [List.map_cons,List.foldlM_cons] at folded
    obtain ⟨next,added,later⟩ := bind_ok folded
    obtain ⟨value,finite,_⟩ := bind_ok added
    have double : ∃ value, nearest number.2 = some value := by
      cases near : nearest number.2 with
      | some value => exact ⟨value,rfl⟩
      | none =>
        simp only [floatParam,PyFloat.ofRat,near,Option.elim_none,PyFloat.number] at finite
        cases finite
    exact List.forall_mem_cons.mpr ⟨double,ih later⟩

theorem totalSeconds_doubles (nonneg : ∀ number ∈ numbers, 0 ≤ number.2)
    (doubles : ∀ number ∈ numbers, ∃ value, nearest number.2 = some value) :
    |totalSeconds (numbers.map roundNumber) - totalSeconds numbers| ≤
      totalSeconds numbers / 2 ^ 53 + numbers.length * (86400 * underflow) := by
  induction numbers with
  | nil => simp [totalSeconds]
  | cons number numbers ih =>
    obtain ⟨first,nonneg⟩ := List.forall_mem_cons.mp nonneg
    obtain ⟨⟨value,near⟩,doubles⟩ := List.forall_mem_cons.mp doubles
    have later := ih nonneg doubles
    have close := nearest_error near
    have length_bound : (number.1.lengthInSeconds : ℚ) ≤ 86400 := by
      exact_mod_cast lengthInSeconds_le number.1
    have length_nonneg : (0 : ℚ) ≤ number.1.lengthInSeconds := Nat.cast_nonneg _
    rw [abs_of_nonneg first] at close
    have scaled : |value * number.1.lengthInSeconds - number.2 * number.1.lengthInSeconds| ≤
        number.2 * number.1.lengthInSeconds / 2 ^ 53 + 86400 * underflow := by
      rw [← sub_mul,abs_mul,abs_of_nonneg length_nonneg]
      have small := mul_le_mul_of_nonneg_right length_bound underflow_pos.le
      have product := mul_le_mul_of_nonneg_right close length_nonneg
      linarith
    have rounded' : roundNumber number = (number.1,value) := by
      rw [roundNumber,near,Option.getD_some]
    rw [List.map_cons,totalSeconds_cons,totalSeconds_cons,rounded',List.length_cons,Nat.cast_add,
      Nat.cast_one]
    rw [abs_le] at scaled later ⊢
    constructor <;> linarith

theorem mem_roundNumber (nonneg : ∀ number ∈ numbers, 0 ≤ number.2)
    (doubles : ∀ number ∈ numbers, ∃ value, nearest number.2 = some value) :
    ∀ number ∈ numbers.map roundNumber, 0 ≤ number.2 := by
  intro rounded' member
  obtain ⟨number,listed,rfl⟩ := List.mem_map.mp member
  obtain ⟨value,near⟩ := doubles number listed
  rw [roundNumber,near,Option.getD_some]
  exact nearest_nonneg (nonneg number listed) near

/-- The microseconds of a `timedelta` of at most four numbers, before its range is checked. -/
theorem timedelta_near (nonneg : ∀ number ∈ numbers, 0 ≤ number.2) (few : numbers.length ≤ 4)
    (doubles : ∀ number ∈ numbers, ∃ value, nearest number.2 = some value) :
    ∃ sum : Int, timedelta (numbers.map floatParam) = checkDays sum ∧ 0 ≤ sum ∧
      |(sum : ℚ) - totalSeconds numbers * 1000000| ≤
        51 / 100 + totalSeconds numbers * 1000000 / 2 ^ 53 := by
  have finite : numbers.map floatParam = (numbers.map roundNumber).map finiteParam := by
    rw [List.map_map]
    apply List.map_congr_left
    intro number member
    obtain ⟨value,near⟩ := doubles number member
    exact floatParam_of_double near
  obtain ⟨sum,computed,positive,close⟩ := timedelta_close (mem_roundNumber nonneg doubles)
    (by rw [List.length_map]; exact few)
  have rounding := totalSeconds_doubles nonneg doubles
  have tiny := underflow_le
  have length_le : (numbers.length : ℚ) ≤ 4 := by exact_mod_cast few
  have small : (numbers.length : ℚ) * (86400 * underflow) ≤ 4 * (86400 * underflow) :=
    mul_le_mul_of_nonneg_right length_le (mul_nonneg (by norm_num) underflow_pos.le)
  refine ⟨sum,by rw [finite,computed],positive,?_⟩
  norm_num at tiny
  rw [abs_le] at close rounding ⊢
  constructor <;> linarith

theorem checkDays_ok {sum delta : Int} (checked : checkDays sum = .ok delta) :
    sum = delta ∧ delta < 86400000000000000000 := by
  unfold checkDays at checked
  dsimp only at checked
  split at checked
  · cases checked
  · split at checked
    · cases checked
    · next inside =>
      cases checked
      rw [not_lt,abs_le] at inside
      exact ⟨rfl,by omega⟩

theorem checkDays_of_small {sum : Int} (low : 0 ≤ sum) (high : sum < 86400000000000000000) :
    checkDays sum = .ok sum := by
  have few : |sum / 86400000000| ≤ 999999999 := by
    rw [abs_le]
    omega
  unfold checkDays
  dsimp only
  rw [if_neg (by omega),if_neg (not_lt.mpr few)]

theorem timedelta_ok {delta : Int} (nonneg : ∀ number ∈ numbers, 0 ≤ number.2)
    (few : numbers.length ≤ 4) (made : timedelta (numbers.map floatParam) = .ok delta) :
    0 ≤ delta ∧ delta < 86400000000000000000 ∧
      |(delta : ℚ) - totalSeconds numbers * 1000000| ≤
        51 / 100 + totalSeconds numbers * 1000000 / 2 ^ 53 := by
  obtain ⟨sum,folded,_⟩ := bind_ok made
  rw [← List.map_reverse] at folded
  have doubles : ∀ number ∈ numbers, ∃ value, nearest number.2 = some value :=
    fun number member => doubles_of_foldlM folded number (List.mem_reverse.mpr member)
  obtain ⟨sum,computed,positive,close⟩ := timedelta_near nonneg few doubles
  rw [computed] at made
  obtain ⟨rfl,inside⟩ := checkDays_ok made
  exact ⟨positive,inside,close⟩

end Doubles

section Range
variable {numbers : List (TimeUnit × ℚ)}

theorem number_le_total (nonneg : ∀ number ∈ numbers, 0 ≤ number.2) :
    ∀ number ∈ numbers, number.2 ≤ totalSeconds numbers := by
  induction numbers with
  | nil =>
    intro number member
    cases member
  | cons first numbers ih =>
    obtain ⟨first_nonneg,nonneg⟩ := List.forall_mem_cons.mp nonneg
    have others := totalSeconds_nonneg nonneg
    have unit : (1 : ℚ) ≤ first.1.lengthInSeconds := by cases first.1 <;> norm_num [TimeUnit.lengthInSeconds]
    have scaled := mul_le_mul_of_nonneg_left unit first_nonneg
    rw [totalSeconds_cons]
    intro number member
    rcases List.mem_cons.mp member with rfl | member
    · linarith
    · have inside := ih nonneg number member
      linarith

/-- What stays a day below the limit of a `timedelta` is held by one. -/
theorem timedelta_of_total (nonneg : ∀ number ∈ numbers, 0 ≤ number.2) (few : numbers.length ≤ 4)
    (small : totalSeconds numbers ≤ 999999999 * 86400) :
    ∃ delta, timedelta (numbers.map floatParam) = .ok delta := by
  have doubles : ∀ number ∈ numbers, ∃ value, nearest number.2 = some value := by
    intro number member
    have inside := number_le_total nonneg number member
    obtain ⟨value,near,_⟩ := double_of_small (nonneg number member) (by norm_num; linarith)
    exact ⟨value,near⟩
  obtain ⟨sum,computed,low,close⟩ := timedelta_near nonneg few doubles
  have high : (sum : ℚ) < 86400000000000000000 := by
    rw [abs_le] at close
    norm_num at close
    linarith
  exact ⟨sum,computed.trans (checkDays_of_small low (by exact_mod_cast high))⟩

/-- What is a day above the limit is not. -/
theorem timedelta_total {delta : Int} (nonneg : ∀ number ∈ numbers, 0 ≤ number.2)
    (few : numbers.length ≤ 4) (made : timedelta (numbers.map floatParam) = .ok delta) :
    totalSeconds numbers < 1000000001 * 86400 := by
  obtain ⟨_,high,close⟩ := timedelta_ok nonneg few made
  have high' : (delta : ℚ) < 86400000000000000000 := by exact_mod_cast high
  rw [abs_le] at close
  norm_num at close
  linarith

end Range

section Exact
variable {numbers : List (TimeUnit × ℚ)}

theorem addNumber_exact {unit : TimeUnit} {value : ℚ} {whole : Int} {amount : Nat}
    (nonneg : 0 ≤ value) (exact : value * unit.lengthInSeconds = amount) :
    addNumber ⟨whole,0⟩ (finiteParam (unit,value)) = .ok ⟨whole + amount * 1000000,0⟩ := by
  have parts := Int.floor_add_fract value
  have sum : (⌊value⌋ : ℚ) * unit.microseconds + unit.microseconds * Int.fract value =
      amount * 1000000 := by
    rw [microseconds_eq,← exact]
    linear_combination (unit.lengthInSeconds : ℚ) * 1000000 * parts
  by_cases fractional : Int.fract value = 0
  · rw [addNumber_whole nonneg fractional]
    rw [fractional,mul_zero,add_zero] at sum
    have sum' : ⌊value⌋ * (unit.microseconds : Int) = amount * 1000000 := by exact_mod_cast sum
    rw [sum']
  · obtain ⟨unit_low,unit_high⟩ := microseconds_bounds unit
    have low := mul_nonneg unit_low (Int.fract_nonneg value)
    have high : (unit.microseconds : ℚ) * Int.fract value ≤ 86400000000 := by
      have below := Int.fract_lt_one value
      have above := Int.fract_nonneg value
      nlinarith only [unit_low,unit_high,below,above]
    -- the fraction comes to a whole number of microseconds, which is its own double
    have product : (unit.microseconds : ℚ) * Int.fract value =
        ((amount * 1000000 - ⌊value⌋ * unit.microseconds : Int) : ℚ) := by
      push_cast
      linarith
    obtain ⟨part,same⟩ : ∃ part : Nat,
        (amount * 1000000 - ⌊value⌋ * unit.microseconds : Int) = part := by
      apply Int.eq_ofNat_of_zero_le
      rw [product] at low
      exact_mod_cast low
    rw [product,same,Int.cast_natCast] at high
    have small : part < 2 ^ 53 := by
      have bound : part ≤ 86400000000 := by exact_mod_cast high
      omega
    have near : nearest (unit.microseconds * Int.fract value) = some (part : ℚ) := by
      rw [product,same,Int.cast_natCast]
      exact nearest_natCast small
    have none' : nearest (0 + Int.fract (part : ℚ)) = some 0 := by
      have zero := @nearest_natCast 0 (by norm_num)
      rw [Nat.cast_zero] at zero
      rw [Int.fract_natCast,add_zero,zero]
    rw [@addNumber_fraction unit value ⟨whole,0⟩ part 0 nonneg fractional near (Nat.cast_nonneg _)
      none',Int.floor_natCast]
    have sum' : whole + ⌊value⌋ * (unit.microseconds : Int) + part = whole + amount * 1000000 := by
      omega
    exact congrArg (fun reached => Except.ok (Microseconds.mk reached 0)) sum'

/-- Doubles that come to whole seconds each are added exactly. -/
theorem addNumbers_exact (numbers : List (TimeUnit × ℚ)) (whole : Int)
    (nonneg : ∀ number ∈ numbers, 0 ≤ number.2)
    (exact : ∀ number ∈ numbers, ∃ amount : Nat, number.2 * number.1.lengthInSeconds = amount) :
    ∃ amount : Nat, totalSeconds numbers = amount ∧
      (numbers.map finiteParam).foldlM addNumber ⟨whole,0⟩ = .ok ⟨whole + amount * 1000000,0⟩ := by
  induction numbers generalizing whole with
  | nil => exact ⟨0,by simp [totalSeconds],by simp [pure,Except.pure]⟩
  | cons number numbers ih =>
    obtain ⟨first,nonneg⟩ := List.forall_mem_cons.mp nonneg
    obtain ⟨⟨amount,exactFirst⟩,exact⟩ := List.forall_mem_cons.mp exact
    obtain ⟨rest,total,folded⟩ := ih (whole + amount * 1000000) nonneg exact
    refine ⟨amount + rest,?_,?_⟩
    · rw [totalSeconds_cons,exactFirst,total,Nat.cast_add]
    · rw [List.map_cons,List.foldlM_cons,addNumber_exact first exactFirst]
      refine folded.trans ?_
      congr 2
      push_cast
      omega

theorem milliseconds_exact {amount : Nat} (small : amount * 1000 < 2 ^ 53) :
    milliseconds (amount * 1000000) = .ok (amount * 1000) := by
  have seconds : (((amount * 1000000 : Int) : ℚ) / 1000000) = (amount : ℚ) := by
    push_cast
    field_simp
  have near : nearest (((amount * 1000000 : Int) : ℚ) / 1000000) = some (amount : ℚ) := by
    rw [seconds]
    exact nearest_natCast (by omega)
  have near' : nearest ((amount : ℚ) * 1000) = some ((amount * 1000 : Nat) : ℚ) := by
    have cast : ((amount * 1000 : Nat) : ℚ) = amount * 1000 := by rw [Nat.cast_mul,Nat.cast_ofNat]
    rw [← cast]
    exact nearest_natCast small
  rw [milliseconds,number_ofRat near]
  simp only [bind,Except.bind,ofRat_of_near near',PyFloat.toInt,
    truncate_of_nonneg (Nat.cast_nonneg _),Int.floor_natCast]
  rw [Nat.cast_mul,Nat.cast_ofNat]

theorem timedelta_of_folded {params : List (TimeUnit × PyFloat)} {whole : Int}
    (folded : params.reverse.foldlM addNumber ⟨0,0⟩ = .ok ⟨whole,0⟩) :
    timedelta params = checkDays whole := by
  have rounding : halfEven ((whole : ℚ) + 0) = whole := by rw [add_zero,halfEven_intCast]
  rw [timedelta,folded]
  exact congrArg checkDays rounding

/-- The sum of doubles that come to whole seconds each. -/
theorem timedelta_exact (nonneg : ∀ number ∈ numbers, 0 ≤ number.2)
    (exact : ∀ number ∈ numbers, ∃ amount : Nat, number.2 * number.1.lengthInSeconds = amount) :
    ∃ amount : Nat, totalSeconds numbers = amount ∧
      timedelta (numbers.map finiteParam) = checkDays (amount * 1000000) := by
  obtain ⟨amount,total,folded⟩ := addNumbers_exact numbers.reverse 0
    (fun number member => nonneg number (List.mem_reverse.mp member))
    (fun number member => exact number (List.mem_reverse.mp member))
  rw [totalSeconds_reverse] at total
  rw [List.map_reverse,zero_add] at folded
  exact ⟨amount,total,timedelta_of_folded folded⟩

/-- The milliseconds are the total where every number is a double and comes to whole seconds. -/
theorem limit_exact {delta : Int} (nonneg : ∀ number ∈ numbers, 0 ≤ number.2)
    (doubles : ∀ number ∈ numbers, nearest number.2 = some number.2)
    (exact : ∀ number ∈ numbers, ∃ amount : Nat, number.2 * number.1.lengthInSeconds = amount)
    (small : totalSeconds numbers * 1000 < 2 ^ 53)
    (made : timedelta (numbers.map floatParam) = .ok delta) :
    ∃ total : Int, milliseconds delta = .ok total ∧ (total : ℚ) = totalSeconds numbers * 1000 := by
  have finite : numbers.map floatParam = numbers.map finiteParam := by
    apply List.map_congr_left
    intro number member
    rw [floatParam_of_double (doubles number member),roundNumber,doubles number member,
      Option.getD_some]
  obtain ⟨amount,total,summed⟩ := timedelta_exact nonneg exact
  rw [finite,summed] at made
  obtain ⟨same,_⟩ := checkDays_ok made
  rw [total] at small ⊢
  refine ⟨amount * 1000,?_,?_⟩
  · rw [← same]
    exact milliseconds_exact (by exact_mod_cast small)
  · rw [Int.cast_mul,Int.cast_natCast,Int.cast_ofNat]

end Exact

section Milliseconds

/-- The float of the milliseconds, before it is cut off. -/
theorem milliseconds_close {delta : Int} (low : 0 ≤ delta) (high : delta < 86400000000000000000) :
    ∃ x : ℚ, milliseconds delta = .ok ⌊x⌋ ∧
      |x - delta / 1000| ≤ 5 / 2 * (delta / 1000) / 2 ^ 53 + 1 / 1000000 := by
  have low' : (0 : ℚ) ≤ delta := by exact_mod_cast low
  have high' : (delta : ℚ) < 86400000000000000000 := by exact_mod_cast high
  have tiny := underflow_le
  obtain ⟨total,near,total_nonneg,total_close⟩ := @double_of_small (delta / 1000000)
    (by linarith) (by norm_num; linarith)
  norm_num at tiny
  rw [abs_le] at total_close
  norm_num at total_close
  obtain ⟨x,near',x_nonneg,x_close⟩ := @double_of_small (total * 1000) (by linarith)
    (by norm_num; linarith)
  rw [abs_le] at x_close
  norm_num at x_close
  refine ⟨x,?_,?_⟩
  · rw [milliseconds,number_ofRat near]
    simp only [bind,Except.bind,ofRat_of_near near',PyFloat.toInt,truncate_of_nonneg x_nonneg]
  · rw [abs_le]
    norm_num
    constructor <;> linarith

/-- The milliseconds are those of a number within a microsecond and rounding of the total. -/
theorem limit_close {numbers : List (TimeUnit × ℚ)} {delta : Int}
    (nonneg : ∀ number ∈ numbers, 0 ≤ number.2) (few : numbers.length ≤ 4)
    (made : timedelta (numbers.map floatParam) = .ok delta) :
    ∃ x : ℚ, milliseconds delta = .ok ⌊x⌋ ∧ |x - totalSeconds numbers * 1000| ≤
      1 / 1000 + totalSeconds numbers * 1000 / 2 ^ 51 := by
  obtain ⟨low,high,close⟩ := timedelta_ok nonneg few made
  obtain ⟨x,computed,close'⟩ := milliseconds_close low high
  have total := totalSeconds_nonneg nonneg
  refine ⟨x,computed,?_⟩
  rw [abs_le] at close close' ⊢
  norm_num at close close' ⊢
  constructor <;> linarith

end Milliseconds
end MlflowOidcAuth
