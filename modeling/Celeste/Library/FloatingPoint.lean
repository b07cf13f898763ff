import Mathlib.Algebra.Order.Floor.Ring
import Mathlib.Data.Int.ConditionallyCompleteOrder
import Mathlib.Data.Int.Log
import Mathlib.Data.Rat.Floor
import Mathlib.Tactic.Linarith
import Mathlib.Tactic.Ring

/-!
# Binary floating point

A rational number rounded to the nearest number of a binary format, and to the even one of two that
are equally near.  Sums, products and quotients of numbers of the format are the exact ones,
rounded.  What is too large for a format is not cut off.
-/

/-- A binary format: how many bits a significand has, and the least exponent of its last bit. -/
structure FloatFormat where
  precision : Nat
  leastExponent : ℤ
  precision_pos : 0 < precision

namespace FloatFormat

/-- The format of a 32-bit `Float`. -/
def binary32 : FloatFormat where
  precision := 24
  leastExponent := -149
  precision_pos := by decide

/-- The format of a 64-bit `Double`. -/
def binary64 : FloatFormat where
  precision := 53
  leastExponent := -1074
  precision_pos := by decide

/-! ## The nearest integer -/

/-- The nearest integer, and the even one of two. -/
def roundEven (value : ℚ) : ℤ :=
  let upper := ⌊value + 1 / 2⌋
  if (upper : ℚ) = value + 1 / 2 ∧ upper % 2 = 1 then upper - 1 else upper

@[simp]
theorem roundEven_intCast (number : ℤ) : roundEven number = number := by
  have upper : ⌊(number : ℚ) + 1 / 2⌋ = number := by
    rw [Int.floor_eq_iff]
    constructor <;> linarith
  simp only [roundEven, upper]
  rw [if_neg]
  rintro ⟨tie, -⟩
  linarith

theorem floor_sub_one_le_roundEven (value : ℚ) : ⌊value + 1 / 2⌋ - 1 ≤ roundEven value := by
  simp only [roundEven]
  split <;> omega

theorem roundEven_le_floor (value : ℚ) : roundEven value ≤ ⌊value + 1 / 2⌋ := by
  simp only [roundEven]
  split <;> omega

theorem abs_roundEven_sub_le (value : ℚ) : |(roundEven value : ℚ) - value| ≤ 1 / 2 := by
  have lower := Int.floor_le (value + 1 / 2)
  have upper := Int.lt_floor_add_one (value + 1 / 2)
  simp only [roundEven]
  rw [abs_le]
  split
  case isTrue tie =>
    have same := tie.1
    push_cast
    constructor <;> linarith
  case isFalse => constructor <;> linarith

theorem roundEven_monotone : Monotone roundEven := by
  intro left right le
  have floors : ⌊left + 1 / 2⌋ ≤ ⌊right + 1 / 2⌋ := Int.floor_le_floor (by linarith)
  rcases floors.lt_or_eq with lt | same
  · have lower := floor_sub_one_le_roundEven right
    have upper := roundEven_le_floor left
    omega
  · simp only [roundEven, same]
    split
    case isTrue => split <;> omega
    case isFalse kept =>
      -- A tie on the right is one on the left, which has the same floor and is not larger.
      rw [if_neg]
      rintro ⟨tie, odd⟩
      refine kept ⟨le_antisymm ?_ ?_, odd⟩
      · rw [← same]
        exact Int.floor_le _
      · linarith

/-! ## Rounding to a format -/

variable (format : FloatFormat)

/-- The exponent of the last bit of a magnitude. -/
def exponent (magnitude : ℚ) : ℤ :=
  max format.leastExponent (Int.log 2 magnitude + 1 - format.precision)

/-- The distance of the numbers of the format around a magnitude. -/
def ulp (magnitude : ℚ) : ℚ :=
  2 ^ format.exponent magnitude

/-- The nearest number of the format to a magnitude. -/
def roundMagnitude (magnitude : ℚ) : ℚ :=
  roundEven (magnitude / format.ulp magnitude) * format.ulp magnitude

/-- The nearest number of the format. -/
def round (value : ℚ) : ℚ :=
  if value < 0 then -format.roundMagnitude (-value) else format.roundMagnitude value

/-- The sum of two numbers of the format. -/
def add (left right : ℚ) : ℚ := format.round (left + right)

/-- The difference of two numbers of the format. -/
def sub (left right : ℚ) : ℚ := format.round (left - right)

/-- The product of two numbers of the format. -/
def mul (left right : ℚ) : ℚ := format.round (left * right)

/-- The quotient of two numbers of the format. -/
def div (left right : ℚ) : ℚ := format.round (left / right)

theorem ulp_pos (magnitude : ℚ) : 0 < format.ulp magnitude :=
  zpow_pos (by norm_num) _

variable {format}

theorem exponent_mono {left right : ℚ} (positive : 0 < left) (le : left ≤ right) :
    format.exponent left ≤ format.exponent right := by
  have logs : Int.log 2 left ≤ Int.log 2 right := Int.log_mono_right positive le
  simp only [exponent]
  omega

/-- A power of two from the last bit on is a whole number of its units. -/
theorem exists_mul_ulp {magnitude : ℚ} {power : ℤ} (le : format.exponent magnitude ≤ power) :
    ∃ units : ℤ, (units : ℚ) * format.ulp magnitude = 2 ^ power := by
  refine ⟨2 ^ (power - format.exponent magnitude).toNat, ?_⟩
  have lifted : ((power - format.exponent magnitude).toNat : ℤ) =
      power - format.exponent magnitude := Int.toNat_of_nonneg (by omega)
  rw [ulp]
  push_cast
  rw [← zpow_natCast, lifted, ← zpow_add₀ (by norm_num)]
  congr 1
  omega

/-- A magnitude that is at most a whole number of its units is rounded to at most that number. -/
theorem roundMagnitude_le {magnitude : ℚ} {units : ℤ}
    (le : magnitude ≤ units * format.ulp magnitude) :
    format.roundMagnitude magnitude ≤ units * format.ulp magnitude := by
  have positive := format.ulp_pos magnitude
  have quotient : magnitude / format.ulp magnitude ≤ units := (div_le_iff₀ positive).mpr le
  have rounded := roundEven_monotone quotient
  rw [roundEven_intCast] at rounded
  exact mul_le_mul_of_nonneg_right (by exact_mod_cast rounded) positive.le

/-- A magnitude that is at least a whole number of its units is rounded to at least that number. -/
theorem le_roundMagnitude {magnitude : ℚ} {units : ℤ}
    (le : units * format.ulp magnitude ≤ magnitude) :
    units * format.ulp magnitude ≤ format.roundMagnitude magnitude := by
  have positive := format.ulp_pos magnitude
  have quotient : (units : ℚ) ≤ magnitude / format.ulp magnitude := (le_div_iff₀ positive).mpr le
  have rounded := roundEven_monotone quotient
  rw [roundEven_intCast] at rounded
  exact mul_le_mul_of_nonneg_right (by exact_mod_cast rounded) positive.le

theorem roundMagnitude_nonneg {magnitude : ℚ} (nonneg : 0 ≤ magnitude) :
    0 ≤ format.roundMagnitude magnitude := by
  have lower : ((0 : ℤ) : ℚ) * format.ulp magnitude ≤ magnitude := by
    rw [Int.cast_zero, zero_mul]
    exact nonneg
  have rounded := le_roundMagnitude lower
  rwa [Int.cast_zero, zero_mul] at rounded

@[simp]
theorem roundMagnitude_zero : format.roundMagnitude 0 = 0 := by
  have rounded : roundEven 0 = 0 := by exact_mod_cast roundEven_intCast 0
  rw [roundMagnitude, zero_div, rounded, Int.cast_zero, zero_mul]

theorem roundMagnitude_mono {left right : ℚ} (nonneg : 0 ≤ left) (le : left ≤ right) :
    format.roundMagnitude left ≤ format.roundMagnitude right := by
  rcases nonneg.eq_or_lt with zero | positive
  · rw [← zero, roundMagnitude_zero]
    exact roundMagnitude_nonneg (nonneg.trans le)
  have exponents : format.exponent left ≤ format.exponent right := exponent_mono positive le
  rcases exponents.eq_or_lt with same | lt
  · have units : format.ulp left = format.ulp right :=
      congrArg (fun power : ℤ => (2 : ℚ) ^ power) same
    have quotients : left / format.ulp right ≤ right / format.ulp right :=
      div_le_div_of_nonneg_right le (format.ulp_pos right).le
    rw [roundMagnitude, roundMagnitude, units]
    exact mul_le_mul_of_nonneg_right (by exact_mod_cast roundEven_monotone quotients)
      (format.ulp_pos right).le
  · -- A power of two lies between the two, and both formats of units hold it.
    have above : Int.log 2 left < Int.log 2 right ∧
        format.exponent right = Int.log 2 right + 1 - format.precision := by
      simp only [exponent] at lt ⊢
      omega
    have precision := format.precision_pos
    have leftPower : format.exponent left ≤ Int.log 2 right := by
      simp only [exponent] at lt above ⊢
      omega
    obtain ⟨leftUnits, leftEq⟩ := exists_mul_ulp leftPower
    have rightPower : format.exponent right ≤ Int.log 2 right := by omega
    obtain ⟨rightUnits, rightEq⟩ := exists_mul_ulp rightPower
    have below : left ≤ (2 : ℚ) ^ Int.log 2 right := by
      have next := Int.lt_zpow_succ_log_self (R := ℚ) (b := 2) (by decide) left
      have powers : ((2 : ℕ) : ℚ) ^ (Int.log 2 left + 1) ≤ ((2 : ℕ) : ℚ) ^ Int.log 2 right :=
        zpow_le_zpow_right₀ (by norm_num) (by omega)
      exact_mod_cast (next.trans_le powers).le
    have atLeast : (2 : ℚ) ^ Int.log 2 right ≤ right := by
      exact_mod_cast Int.zpow_log_le_self (b := 2) (by decide) (positive.trans_le le)
    calc format.roundMagnitude left ≤ leftUnits * format.ulp left := by
          refine roundMagnitude_le ?_
          rw [leftEq]
          exact below
      _ = rightUnits * format.ulp right := by rw [leftEq, rightEq]
      _ ≤ format.roundMagnitude right := by
          refine le_roundMagnitude ?_
          rw [rightEq]
          exact atLeast

theorem round_monotone : Monotone format.round := by
  intro left right le
  simp only [round]
  by_cases leftNegative : left < 0
  · rw [if_pos leftNegative]
    have leftRounded : 0 ≤ format.roundMagnitude (-left) := roundMagnitude_nonneg (by linarith)
    by_cases rightNegative : right < 0
    · rw [if_pos rightNegative]
      exact neg_le_neg (roundMagnitude_mono (by linarith) (by linarith))
    · rw [if_neg rightNegative]
      have rightRounded : 0 ≤ format.roundMagnitude right :=
        roundMagnitude_nonneg (not_lt.mp rightNegative)
      linarith
  · rw [if_neg leftNegative, if_neg (by linarith)]
    exact roundMagnitude_mono (not_lt.mp leftNegative) le

@[simp]
theorem round_zero : format.round 0 = 0 := by
  rw [round, if_neg (lt_irrefl 0), roundMagnitude_zero]

theorem round_nonneg {value : ℚ} (nonneg : 0 ≤ value) : 0 ≤ format.round value := by
  have rounded : format.round 0 ≤ format.round value := round_monotone nonneg
  rwa [round_zero] at rounded

theorem ulp_le {magnitude : ℚ} (positive : 0 < magnitude) :
    format.ulp magnitude ≤
      2 * (magnitude / 2 ^ format.precision) + 2 ^ format.leastExponent := by
  have least : (0 : ℚ) < 2 ^ format.leastExponent := zpow_pos (by norm_num) _
  rcases le_total (Int.log 2 magnitude + 1 - format.precision) format.leastExponent with
    small | large
  · have relative : 0 ≤ magnitude / 2 ^ format.precision := div_nonneg positive.le (by positivity)
    rw [ulp, exponent, max_eq_left small]
    linarith
  · have power : (2 : ℚ) ^ Int.log 2 magnitude ≤ magnitude := by
      exact_mod_cast Int.zpow_log_le_self (b := 2) (by decide) positive
    have shifted : (2 : ℚ) ^ (Int.log 2 magnitude + 1 - format.precision) =
        2 * (2 ^ Int.log 2 magnitude / 2 ^ format.precision) := by
      rw [zpow_sub₀ (by norm_num), zpow_add₀ (by norm_num), zpow_natCast]
      ring
    have bound : (2 : ℚ) ^ Int.log 2 magnitude / 2 ^ format.precision ≤
        magnitude / 2 ^ format.precision := div_le_div_of_nonneg_right power (by positivity)
    rw [ulp, exponent, max_eq_right large, shifted]
    linarith

theorem abs_round_sub_le {value : ℚ} (nonneg : 0 ≤ value) :
    |format.round value - value| ≤
      value / 2 ^ format.precision + 2 ^ format.leastExponent / 2 := by
  rcases nonneg.eq_or_lt with rfl | positive
  · have least : (0 : ℚ) < 2 ^ format.leastExponent := zpow_pos (by norm_num) _
    rw [round_zero, sub_self, abs_zero, zero_div, zero_add]
    linarith
  · have unit := format.ulp_pos value
    have units := format.ulp_le positive
    have scaled : format.roundMagnitude value - value =
        (roundEven (value / format.ulp value) - value / format.ulp value) * format.ulp value := by
      rw [roundMagnitude, sub_mul, div_mul_cancel₀ _ unit.ne']
    have half : |format.roundMagnitude value - value| ≤ 1 / 2 * format.ulp value := by
      rw [scaled, abs_mul, abs_of_pos unit]
      exact mul_le_mul_of_nonneg_right (abs_roundEven_sub_le _) unit.le
    rw [round, if_neg (not_lt.mpr nonneg)]
    linarith

/-! ## Numbers of a format -/

variable (format) in
/-- A number of the format: a significand in the units of an exponent that the format has. -/
def Represents (value : ℚ) : Prop :=
  ∃ significand power : ℤ, |significand| ≤ 2 ^ format.precision ∧ format.leastExponent ≤ power ∧
    value = significand * 2 ^ power

variable (format) in
/-- A number that the format has. -/
abbrev Number := { value : ℚ // format.Represents value }

theorem Represents.neg {value : ℚ} (represents : format.Represents value) :
    format.Represents (-value) := by
  obtain ⟨significand, power, small, least, rfl⟩ := represents
  refine ⟨-significand, power, by rwa [abs_neg], least, ?_⟩
  push_cast
  ring

/-- A number of the format is a whole number of its own units. -/
theorem Represents.exists_units {magnitude : ℚ} (represents : format.Represents magnitude)
    (positive : 0 < magnitude) : ∃ units : ℤ, magnitude = units * format.ulp magnitude := by
  obtain ⟨significand, power, small, least, same⟩ := represents
  have significand_pos : 0 < significand := by
    have scaled : (0 : ℚ) < significand * 2 ^ power := same ▸ positive
    exact_mod_cast pos_of_mul_pos_left scaled (zpow_pos (by norm_num) power).le
  rw [abs_of_pos significand_pos] at small
  rcases small.eq_or_lt with full | lt
  · -- The least power of two beyond a significand is one of the next exponent.
    have power_eq : magnitude = 2 ^ (power + format.precision) := by
      rw [same, full, add_comm power, zpow_add₀ (by norm_num), zpow_natCast]
      push_cast
      ring
    have exponent_le : format.exponent magnitude ≤ power + format.precision := by
      have log : Int.log 2 magnitude = power + format.precision := by
        rw [power_eq]
        exact_mod_cast Int.log_zpow (R := ℚ) (b := 2) (by decide) _
      have precision := format.precision_pos
      rw [exponent, log]
      omega
    obtain ⟨units, unitsEq⟩ := exists_mul_ulp exponent_le
    exact ⟨units, by rw [unitsEq, ← power_eq]⟩
  · have exponent_le : format.exponent magnitude ≤ power := by
      have bound : magnitude < ((2 : ℕ) : ℚ) ^ (power + format.precision) := by
        have small : (significand : ℚ) < 2 ^ format.precision := by exact_mod_cast lt
        have scale : (0 : ℚ) < 2 ^ power := zpow_pos (by norm_num) power
        calc magnitude = significand * 2 ^ power := same
          _ < 2 ^ format.precision * 2 ^ power := mul_lt_mul_of_pos_right small scale
          _ = ((2 : ℕ) : ℚ) ^ (power + format.precision) := by
            rw [zpow_add₀ (by norm_num), zpow_natCast, mul_comm]
            push_cast
            rfl
      have log := (Int.lt_zpow_iff_log_lt (by decide) positive).mp bound
      simp only [exponent]
      omega
    obtain ⟨units, unitsEq⟩ := exists_mul_ulp exponent_le
    refine ⟨significand * units, ?_⟩
    rw [Int.cast_mul, mul_assoc, unitsEq, ← same]

theorem Represents.round {value : ℚ} (represents : format.Represents value) :
    format.round value = value := by
  have magnitudes : ∀ {magnitude : ℚ}, format.Represents magnitude → 0 < magnitude →
      format.roundMagnitude magnitude = magnitude := by
    intro magnitude represents positive
    obtain ⟨units, same⟩ := represents.exists_units positive
    refine le_antisymm ?_ ?_
    · exact (roundMagnitude_le same.le).trans_eq same.symm
    · exact same.trans_le (le_roundMagnitude same.ge)
  rcases lt_trichotomy value 0 with negative | rfl | positive
  · rw [FloatFormat.round, if_pos negative, magnitudes represents.neg (by linarith), neg_neg]
  · exact round_zero
  · rw [FloatFormat.round, if_neg positive.not_gt, magnitudes represents positive]

theorem div_ulp_lt {magnitude : ℚ} (nonneg : 0 ≤ magnitude) :
    magnitude / format.ulp magnitude < 2 ^ format.precision := by
  rw [div_lt_iff₀ (format.ulp_pos magnitude)]
  rcases nonneg.eq_or_lt with rfl | positive
  · exact mul_pos (by positivity) (format.ulp_pos 0)
  · have bound := Int.lt_zpow_succ_log_self (R := ℚ) (b := 2) (by decide) magnitude
    have powers : ((2 : ℕ) : ℚ) ^ (Int.log 2 magnitude + 1) ≤
        ((2 : ℕ) : ℚ) ^ ((format.precision : ℤ) + format.exponent magnitude) := by
      refine zpow_le_zpow_right₀ (by norm_num) ?_
      simp only [exponent]
      omega
    calc magnitude < ((2 : ℕ) : ℚ) ^ ((format.precision : ℤ) + format.exponent magnitude) :=
          bound.trans_le powers
      _ = 2 ^ format.precision * format.ulp magnitude := by
        rw [zpow_add₀ (by norm_num), zpow_natCast, ulp]
        push_cast
        rfl

theorem represents_round (value : ℚ) : format.Represents (format.round value) := by
  have magnitudes : ∀ {magnitude : ℚ}, 0 ≤ magnitude →
      format.Represents (format.roundMagnitude magnitude) := by
    intro magnitude nonneg
    refine ⟨_, format.exponent magnitude, ?_, le_max_left _ _, rfl⟩
    have quotient : (0 : ℚ) ≤ magnitude / format.ulp magnitude :=
      div_nonneg nonneg (format.ulp_pos magnitude).le
    have lower := roundEven_monotone quotient
    have upper : roundEven (magnitude / format.ulp magnitude) ≤
        roundEven ((2 ^ format.precision : ℤ) : ℚ) := by
      refine roundEven_monotone ?_
      push_cast
      exact (div_ulp_lt nonneg).le
    rw [show (0 : ℚ) = ((0 : ℤ) : ℚ) by norm_num, roundEven_intCast] at lower
    rw [roundEven_intCast] at upper
    rw [abs_of_nonneg lower]
    exact upper
  rw [FloatFormat.round]
  split
  case isTrue negative => exact (magnitudes (by linarith)).neg
  case isFalse nonneg => exact magnitudes (not_lt.mp nonneg)

theorem represents_div {number : ℤ} {bits : Nat} (small : |number| ≤ 2 ^ format.precision)
    (least : format.leastExponent ≤ -bits) : format.Represents (number / 2 ^ bits) := by
  refine ⟨number, -bits, small, least, ?_⟩
  rw [zpow_neg, zpow_natCast, div_eq_mul_inv]

/-- Whole numbers up to all bits of a significand are numbers of the format. -/
theorem represents_natCast {number : Nat} (small : number ≤ 2 ^ format.precision)
    (least : format.leastExponent ≤ 0) : format.Represents number := by
  have whole := @represents_div format number 0 (by rw [Nat.abs_cast]; exact_mod_cast small)
    (by simpa using least)
  rwa [pow_zero, div_one, Int.cast_natCast] at whole

end FloatFormat
