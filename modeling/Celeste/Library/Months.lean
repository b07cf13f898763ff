import Mathlib.Algebra.Order.Ring.Int

/-!
# Months as a division of the days

Days are numbered, and so are months.  A month is the days from its first up to the first of the
next.  The months of the Gregorian calendar are the instance, counted from January 1970; its years
are taken from March on, so that the day a leap year adds is a last one.
-/

/-- A division of the days into months of four weeks and up to three days more. -/
structure MonthTable where
  /-- The month of a day. -/
  month : ℤ → ℤ
  firstDay : ℤ → ℤ
  le_month_iff : ∀ {number day : ℤ}, number ≤ month day ↔ firstDay number ≤ day
  length_range : ∀ number : ℤ,
    28 ≤ firstDay (number + 1) - firstDay number ∧ firstDay (number + 1) - firstDay number ≤ 31

namespace MonthTable

variable (months : MonthTable)

/-- The number of days in a month. -/
def length (number : ℤ) : ℤ :=
  months.firstDay (number + 1) - months.firstDay number

/-- The same day of another month, or its last day. -/
def addMonths (count day : ℤ) : ℤ :=
  months.firstDay (months.month day + count) +
    min (day - months.firstDay (months.month day)) (months.length (months.month day + count) - 1)

theorem firstDay_month_le (day : ℤ) : months.firstDay (months.month day) ≤ day :=
  months.le_month_iff.mp le_rfl

theorem lt_firstDay_month_add_one (day : ℤ) : day < months.firstDay (months.month day + 1) := by
  by_contra reached
  have later := months.le_month_iff.mpr (not_lt.mp reached)
  omega

theorem firstDay_add_length (number : ℤ) :
    months.firstDay number + months.length number = months.firstDay (number + 1) := by
  rw [length]
  omega

theorem length_pos (number : ℤ) : 28 ≤ months.length number :=
  (months.length_range number).1

theorem length_le (number : ℤ) : months.length number ≤ 31 :=
  (months.length_range number).2

variable {months} {number day : ℤ}

/-- A day is in a month from the first day on, before the first of the next month. -/
theorem month_eq_iff :
    months.month day = number ↔
      months.firstDay number ≤ day ∧ day < months.firstDay (number + 1) := by
  have this_month : number ≤ months.month day ↔ months.firstDay number ≤ day :=
    months.le_month_iff
  have next_month : number + 1 ≤ months.month day ↔ months.firstDay (number + 1) ≤ day :=
    months.le_month_iff
  omega

@[simp]
theorem month_firstDay (number : ℤ) : months.month (months.firstDay number) = number := by
  have length := months.length_pos number
  rw [month_eq_iff, ← firstDay_add_length]
  omega

theorem month_mono {early late : ℤ} (order : early ≤ late) :
    months.month early ≤ months.month late :=
  months.le_month_iff.mpr ((months.firstDay_month_le early).trans order)

theorem firstDay_mono {early late : ℤ} (order : early ≤ late) :
    months.firstDay early ≤ months.firstDay late := by
  apply months.le_month_iff.mp
  rwa [month_firstDay]

@[simp]
theorem addMonths_firstDay (count number : ℤ) :
    months.addMonths count (months.firstDay number) = months.firstDay (number + count) := by
  have length := months.length_pos (number + count)
  rw [addMonths, month_firstDay, sub_self, min_eq_left (by omega), add_zero]

/-! ## The Gregorian calendar -/

/-- The number, from March of year zero, of the first day of a year that begins in March. -/
def firstDayOfYear (year : ℤ) : ℤ :=
  365 * year + year / 4 - year / 100 + year / 400

/-- The year of a day: the one its number suggests, or a neighbour. -/
def yearOfDay (day : ℤ) : ℤ :=
  let suggested := 400 * day / 146097
  if firstDayOfYear (suggested + 1) ≤ day then suggested + 1
  else if firstDayOfYear suggested ≤ day then suggested
  else suggested - 1

theorem yearOfDay_spec (day : ℤ) :
    firstDayOfYear (yearOfDay day) ≤ day ∧ day < firstDayOfYear (yearOfDay day + 1) := by
  have low : firstDayOfYear (400 * day / 146097 - 1) ≤ day := by
    rw [firstDayOfYear]
    omega
  have high : day < firstDayOfYear (400 * day / 146097 + 1 + 1) := by
    rw [firstDayOfYear]
    omega
  simp only [yearOfDay]
  split
  case isTrue late => exact ⟨late, high⟩
  case isFalse not_late =>
    split
    case isTrue suggested => exact ⟨suggested, not_le.mp not_late⟩
    case isFalse early =>
      refine ⟨low, ?_⟩
      rw [sub_add_cancel]
      exact not_le.mp early

theorem firstDayOfYear_length (year : ℤ) :
    365 ≤ firstDayOfYear (year + 1) - firstDayOfYear year ∧
      firstDayOfYear (year + 1) - firstDayOfYear year ≤ 366 := by
  rw [firstDayOfYear, firstDayOfYear]
  omega

/-- The number, in a year that begins in March, of the first day of a month. -/
def firstDayInYear (index : ℤ) : ℤ :=
  (153 * index + 2) / 5

/-- January 1970 in months from March of year zero. -/
def epochMonth : ℤ :=
  23638

/-- The first of January 1970 in days from the first of March of year zero. -/
def epochDay : ℤ :=
  719468

/-- The first day of a Gregorian month. -/
def gregorianFirstDay (number : ℤ) : ℤ :=
  firstDayOfYear ((number + epochMonth) / 12) + firstDayInYear ((number + epochMonth) % 12) -
    epochDay

/-- The Gregorian month of a day. -/
def gregorianMonth (day : ℤ) : ℤ :=
  let year := yearOfDay (day + epochDay)
  12 * year + (5 * (day + epochDay - firstDayOfYear year) + 2) / 153 - epochMonth

theorem gregorianFirstDay_of_range (year : ℤ) {index : ℤ} (start : 0 ≤ index)
    (bound : index < 12) :
    gregorianFirstDay (12 * year + index - epochMonth) =
      firstDayOfYear year + firstDayInYear index - epochDay := by
  have same_year : (12 * year + index - epochMonth + epochMonth) / 12 = year := by omega
  have same_index : (12 * year + index - epochMonth + epochMonth) % 12 = index := by omega
  rw [gregorianFirstDay, same_year, same_index]

theorem gregorianFirstDay_succ (year : ℤ) {index : ℤ} (start : 0 ≤ index) (bound : index < 12) :
    gregorianFirstDay (12 * year + index - epochMonth + 1) =
      (if index = 11 then firstDayOfYear (year + 1) else
        firstDayOfYear year + firstDayInYear (index + 1)) - epochDay := by
  split
  case isTrue last =>
    have next : 12 * year + index - epochMonth + 1 = 12 * (year + 1) + 0 - epochMonth := by omega
    rw [next, gregorianFirstDay_of_range (year + 1) le_rfl (by omega)]
    exact congrArg (· - epochDay) (add_zero _)
  case isFalse inner =>
    have next : 12 * year + index - epochMonth + 1 = 12 * year + (index + 1) - epochMonth := by
      omega
    rw [next, gregorianFirstDay_of_range year (by omega) (by omega)]

theorem gregorianFirstDay_length (number : ℤ) :
    28 ≤ gregorianFirstDay (number + 1) - gregorianFirstDay number ∧
      gregorianFirstDay (number + 1) - gregorianFirstDay number ≤ 31 := by
  obtain ⟨year, index, start, bound, rfl⟩ : ∃ year index : ℤ, 0 ≤ index ∧ index < 12 ∧
      number = 12 * year + index - epochMonth :=
    ⟨(number + epochMonth) / 12, (number + epochMonth) % 12, by omega, by omega, by omega⟩
  have length := firstDayOfYear_length year
  rw [gregorianFirstDay_succ year start bound, gregorianFirstDay_of_range year start bound]
  simp only [firstDayInYear]
  split
  · omega
  · omega

theorem gregorianFirstDay_mono {early late : ℤ} (order : early ≤ late) :
    gregorianFirstDay early ≤ gregorianFirstDay late := by
  induction late, order using Int.leInduction with
  | base => exact le_rfl
  | succ number _ ih =>
      have length := gregorianFirstDay_length number
      omega

theorem gregorianMonth_spec (day : ℤ) :
    gregorianFirstDay (gregorianMonth day) ≤ day ∧
      day < gregorianFirstDay (gregorianMonth day + 1) := by
  have year := yearOfDay_spec (day + epochDay)
  simp only [gregorianMonth]
  generalize yearOfDay (day + epochDay) = number at year ⊢
  have length := firstDayOfYear_length number
  have start : 0 ≤ (5 * (day + epochDay - firstDayOfYear number) + 2) / 153 := by omega
  have bound : (5 * (day + epochDay - firstDayOfYear number) + 2) / 153 < 12 := by omega
  rw [gregorianFirstDay_succ number start bound, gregorianFirstDay_of_range number start bound]
  simp only [firstDayInYear]
  split
  · omega
  · omega

/-- The months of the Gregorian calendar. -/
def gregorian : MonthTable where
  month := gregorianMonth
  firstDay := gregorianFirstDay
  le_month_iff := by
    intro number day
    have spec := gregorianMonth_spec day
    constructor
    · intro order
      exact (gregorianFirstDay_mono order).trans spec.1
    · intro reached
      by_contra early
      have later := gregorianFirstDay_mono (Int.add_one_le_of_lt (not_le.mp early))
      omega
  length_range := gregorianFirstDay_length

end MonthTable
