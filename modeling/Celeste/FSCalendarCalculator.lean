import Celeste.CalendarCells
import Celeste.Library.Months

/-!
# The pages of FSCalendar

FSCalendar shows a month, or a week, a page, in cells numbered from the page's head.  Its calculator
takes cells to dates and dates to cells, by the calendar's arithmetic on instants.  Each day has its
cell.  Where the clock repeats no time by which a day may start, a cell's date leads back to the
cell, and a day leads back to itself unless it starts before the time of day of its page's head.
-/

namespace Celeste

/-! ## The calendar's arithmetic -/

/-- A Gregorian `NSCalendar`; weekdays are counted from Sunday, which is one. -/
structure NSCalendar where
  timeZone : TimeZone
  months : MonthTable
  firstWeekday : ℤ
  firstWeekday_range : 1 ≤ firstWeekday ∧ firstWeekday ≤ 7

namespace NSCalendar

variable (calendar : NSCalendar)

/-- `component:NSCalendarUnitWeekday`; day zero, 1 January 1970, was a Thursday. -/
def weekday (date : ℤ) : ℤ :=
  (calendar.timeZone.day date + 4) % 7 + 1

/-- The month of a date, counted through the years. -/
def month (date : ℤ) : ℤ :=
  calendar.months.month (calendar.timeZone.day date)

/-- `dateByAddingUnit:NSCalendarUnitDay`. -/
def dateByAddingDays (value date : ℤ) : ℤ :=
  calendar.timeZone.addDays value date

/-- `dateByAddingUnit:NSCalendarUnitMonth`; no months leave the date. -/
def dateByAddingMonths (value date : ℤ) : ℤ :=
  if value = 0 then date
  else
    calendar.timeZone.instantOf
      (calendar.months.addMonths value (calendar.timeZone.day date) * 86400 +
        calendar.timeZone.timeOfDay date)

/-- `dateByAddingUnit:NSCalendarUnitWeekOfYear`. -/
def dateByAddingWeeks (value date : ℤ) : ℤ :=
  calendar.timeZone.addDays (7 * value) date

/-- The whole units from one date to another, from a count that may be one too large. -/
def wholeUnits (dateByAdding : ℤ → ℤ → ℤ) (count fromDate toDate : ℤ) : ℤ :=
  if fromDate ≤ toDate then
    if dateByAdding count fromDate ≤ toDate then count else count - 1
  else if toDate ≤ dateByAdding count fromDate then count
  else count + 1

/-- `components:NSCalendarUnitDay fromDate:toDate:`. -/
def days (fromDate toDate : ℤ) : ℤ :=
  wholeUnits calendar.dateByAddingDays
    (calendar.timeZone.day toDate - calendar.timeZone.day fromDate) fromDate toDate

/-- `components:NSCalendarUnitMonth fromDate:toDate:`. -/
def monthsBetween (fromDate toDate : ℤ) : ℤ :=
  wholeUnits calendar.dateByAddingMonths (calendar.month toDate - calendar.month fromDate) fromDate
    toDate

/-- `components:NSCalendarUnitWeekOfYear fromDate:toDate:`. -/
def weeksBetween (fromDate toDate : ℤ) : ℤ :=
  wholeUnits calendar.dateByAddingWeeks
    ((calendar.timeZone.day toDate - calendar.timeZone.day fromDate).tdiv 7) fromDate toDate

/-- `dateBySettingHour:0 minute:0 second:0`. -/
def startOfDay (date : ℤ) : ℤ :=
  calendar.timeZone.startOfDay (calendar.timeZone.day date)

/-- `fs_firstDayOfMonth:`, at the full hour of the date. -/
def fs_firstDayOfMonth (date : ℤ) : ℤ :=
  calendar.timeZone.instantOf
    (calendar.months.firstDay (calendar.month date) * 86400 +
      calendar.timeZone.timeOfDay date / 3600 * 3600)

/-- `fs_firstDayOfWeek:`; the remainder has the sign of the dividend. -/
def fs_firstDayOfWeek (date : ℤ) : ℤ :=
  let day := (-(calendar.weekday date - calendar.firstWeekday) - 7).tmod 7
  calendar.startOfDay (calendar.dateByAddingDays day date)

/-- `fs_middleDayOfWeek:`, at the full hour of the date. -/
def fs_middleDayOfWeek (date : ℤ) : ℤ :=
  let day := -(calendar.weekday date - calendar.firstWeekday) + 3
  let middleDayOfWeek := calendar.dateByAddingDays
    (if calendar.weekday date < calendar.firstWeekday then day - 7 else day) date
  calendar.timeZone.instantOf
    (calendar.timeZone.day middleDayOfWeek * 86400 +
      calendar.timeZone.timeOfDay middleDayOfWeek / 3600 * 3600)

/-- `fs_numberOfDaysInMonth:`. -/
def fs_numberOfDaysInMonth (date : ℤ) : ℤ :=
  calendar.months.length (calendar.month date)

@[simp]
theorem dateByAddingDays_zero (date : ℤ) : calendar.dateByAddingDays 0 date = date :=
  TimeZone.addDays_zero date

theorem wholeUnits_nonneg {dateByAdding : ℤ → ℤ → ℤ} {count fromDate toDate : ℤ}
    (start : 0 ≤ count) (unmoved : dateByAdding 0 fromDate = fromDate) :
    0 ≤ wholeUnits dateByAdding count fromDate toDate := by
  rw [wholeUnits]
  split
  case isTrue order =>
    split
    case isTrue => exact start
    case isFalse passed =>
      have moved : count ≠ 0 := by
        rintro rfl
        exact passed (unmoved.le.trans order)
      omega
  case isFalse =>
    split
    · exact start
    · omega

theorem wholeUnits_nonpos {dateByAdding : ℤ → ℤ → ℤ} {count fromDate toDate : ℤ}
    (negative : count < 0) : wholeUnits dateByAdding count fromDate toDate ≤ 0 := by
  rw [wholeUnits]
  split
  · split
    · omega
    · omega
  · split
    · omega
    · omega

end NSCalendar

/-! ## The calculator -/

/-- `FSCalendarScope`. -/
inductive FSCalendarScope
  | month
  | week
  deriving DecidableEq

/-- `FSCalendarPlaceholderType`. -/
inductive FSCalendarPlaceholderType
  | none
  | fillHeadTail
  | fillSixRows
  deriving DecidableEq

/-- `NSIndexPath`. -/
structure IndexPath where
  item : Nat
  inSection : Nat
  deriving DecidableEq

/-- What `FSCalendarCalculator` reads of the calendar. -/
structure FSCalendarCalculator where
  gregorian : NSCalendar
  minimumDate : ℤ
  maximumDate : ℤ
  placeholderType : FSCalendarPlaceholderType
  floatingMode : Bool

namespace FSCalendarCalculator

variable (calculator : FSCalendarCalculator)

/-- `numberOfHeadPlaceholdersForMonth:`. -/
def numberOfHeadPlaceholdersForMonth (month : ℤ) : ℤ :=
  let currentWeekday := calculator.gregorian.weekday month
  let number := (currentWeekday - calculator.gregorian.firstWeekday + 7) % 7
  if number ≠ 0 then number
  else if !calculator.floatingMode && decide (calculator.placeholderType = .fillSixRows) then 7
  else 0

/-- `monthForSection:`, not cached. -/
def monthForSection (number : ℤ) : ℤ :=
  calculator.gregorian.dateByAddingMonths number
    (calculator.gregorian.fs_firstDayOfMonth calculator.minimumDate)

/-- `monthHeadForSection:`, not cached. -/
def monthHeadForSection (number : ℤ) : ℤ :=
  let month := calculator.monthForSection number
  calculator.gregorian.dateByAddingDays (-calculator.numberOfHeadPlaceholdersForMonth month) month

/-- `weekForSection:`, not cached. -/
def weekForSection (number : ℤ) : ℤ :=
  calculator.gregorian.dateByAddingWeeks number
    (calculator.gregorian.fs_firstDayOfWeek calculator.minimumDate)

/-- `dateForIndexPath:scope:`. -/
def dateForIndexPath (scope : FSCalendarScope) (indexPath : IndexPath) : ℤ :=
  match scope with
  | .month =>
      let head := calculator.monthHeadForSection indexPath.inSection
      calculator.gregorian.dateByAddingDays indexPath.item head
  | .week =>
      let currentPage := calculator.weekForSection indexPath.inSection
      calculator.gregorian.dateByAddingDays indexPath.item currentPage

/-- The section of a date at a position of a month page. -/
def monthSection (position : FSCalendarMonthPosition) (date : ℤ) : ℤ :=
  let number := calculator.gregorian.monthsBetween
    (calculator.gregorian.fs_firstDayOfMonth calculator.minimumDate)
    (calculator.gregorian.fs_firstDayOfMonth date)
  match position with
  | .previous => number + 1
  | .next => number - 1
  | _ => number

/-- The section of a date among the week pages. -/
def weekSection (date : ℤ) : ℤ :=
  calculator.gregorian.weeksBetween
    (calculator.gregorian.fs_firstDayOfWeek calculator.minimumDate)
    (calculator.gregorian.fs_firstDayOfWeek date)

/-- The index path with these numbers, if they are not negative. -/
def indexPath? (item number : ℤ) : Option IndexPath :=
  if item < 0 ∨ number < 0 then none else some ⟨item.toNat, number.toNat⟩

/-- `indexPathForDate:atMonthPosition:scope:`. -/
def indexPathForDate (scope : FSCalendarScope) (position : FSCalendarMonthPosition) (date : ℤ) :
    Option IndexPath :=
  match scope with
  | .month =>
      let number := calculator.monthSection position date
      let head := calculator.monthHeadForSection number
      indexPath? (calculator.gregorian.days head date) number
  | .week =>
      let number := calculator.weekSection date
      indexPath? ((calculator.gregorian.weekday date - calculator.gregorian.firstWeekday + 7) % 7)
        number

/-- `monthPositionForIndexPath:`. -/
def monthPositionForIndexPath (scope : FSCalendarScope) (indexPath : IndexPath) :
    FSCalendarMonthPosition :=
  match scope with
  | .week => .current
  | .month =>
      let date := calculator.dateForIndexPath .month indexPath
      let page := calculator.monthForSection indexPath.inSection
      if calculator.gregorian.month date < calculator.gregorian.month page then .previous
      else if calculator.gregorian.month date = calculator.gregorian.month page then .current
      else .next

/-- `numberOfRowsInMonth:`, not cached. -/
def numberOfRowsInMonth (month : ℤ) : ℤ :=
  if calculator.placeholderType = .fillSixRows then 6
  else
    let firstDayOfMonth := calculator.gregorian.fs_firstDayOfMonth month
    let weekdayOfFirstDay := calculator.gregorian.weekday firstDayOfMonth
    let numberOfDaysInMonth := calculator.gregorian.fs_numberOfDaysInMonth month
    let numberOfPlaceholdersForPrev :=
      (weekdayOfFirstDay - calculator.gregorian.firstWeekday + 7) % 7
    let headDayCount := numberOfDaysInMonth + numberOfPlaceholdersForPrev
    headDayCount / 7 + if headDayCount % 7 > 0 then 1 else 0

/-- `numberOfRowsInSection:`. -/
def numberOfRowsInSection (scope : FSCalendarScope) (number : ℤ) : ℤ :=
  match scope with
  | .week => 1
  | .month => calculator.numberOfRowsInMonth (calculator.monthForSection number)

/-- `numberOfSections`, as `reloadSections` counts them. -/
def numberOfSections (scope : FSCalendarScope) : ℤ :=
  match scope with
  | .month =>
      calculator.gregorian.monthsBetween
        (calculator.gregorian.fs_firstDayOfMonth calculator.minimumDate) calculator.maximumDate + 1
  | .week =>
      calculator.gregorian.weeksBetween
        (calculator.gregorian.fs_firstDayOfWeek calculator.minimumDate) calculator.maximumDate + 1

/-- `coordinateForIndexPath:`, the row and the column. -/
def coordinateForIndexPath (indexPath : IndexPath) : Nat × Nat :=
  (indexPath.item / 7, indexPath.item % 7)

/-! ## Month pages -/

/-- No day is skipped; the minimum date is the start of a day up to that of the maximum date, in a
month and a week that begin at midnight. -/
structure Regular (calculator : FSCalendarCalculator) : Prop where
  occurs : ∀ day, calculator.gregorian.timeZone.Occurs day
  minimum_start : calculator.gregorian.startOfDay calculator.minimumDate = calculator.minimumDate
  ordered : calculator.gregorian.timeZone.day calculator.minimumDate ≤
    calculator.gregorian.timeZone.day calculator.maximumDate
  month_midnight : calculator.gregorian.timeZone.localTime
      (calculator.gregorian.fs_firstDayOfMonth calculator.minimumDate) =
    calculator.gregorian.months.firstDay (calculator.gregorian.month calculator.minimumDate) * 86400
  week_midnight : calculator.gregorian.timeZone.timeOfDay
    (calculator.gregorian.fs_firstDayOfWeek calculator.minimumDate) = 0

/-- The calendar with the default bounding dates and no placeholders, under a clock that is never
changed. -/
def unchanged : FSCalendarCalculator where
  gregorian :=
    { timeZone := .fixed 0
      months := .gregorian
      firstWeekday := 1
      firstWeekday_range := by omega }
  minimumDate := 0
  maximumDate := 47481 * 86400
  placeholderType := .none
  floatingMode := false

theorem unchanged_regular : unchanged.Regular where
  occurs day := by
    change (day * 86400 - 0 + 0) / 86400 = day
    omega
  minimum_start := by decide
  ordered := by decide
  month_midnight := by decide
  week_midnight := by decide

/-- The first day of a page's month. -/
def pageDay (number : ℤ) : ℤ :=
  calculator.gregorian.months.firstDay
    (calculator.gregorian.month calculator.minimumDate + number)

/-- The placeholders at the head of a page. -/
def headPlaceholders (number : ℤ) : ℤ :=
  calculator.numberOfHeadPlaceholdersForMonth (calculator.monthForSection number)

variable {calculator}

theorem numberOfHeadPlaceholdersForMonth_range (month : ℤ) :
    0 ≤ calculator.numberOfHeadPlaceholdersForMonth month ∧
      calculator.numberOfHeadPlaceholdersForMonth month ≤ 7 := by
  simp only [numberOfHeadPlaceholdersForMonth]
  split
  · omega
  · split
    · omega
    · omega

theorem Regular.fs_firstDayOfMonth_minimumDate (regular : calculator.Regular) :
    calculator.gregorian.timeZone.day
        (calculator.gregorian.fs_firstDayOfMonth calculator.minimumDate) = calculator.pageDay 0 ∧
      calculator.gregorian.timeZone.timeOfDay
        (calculator.gregorian.fs_firstDayOfMonth calculator.minimumDate) = 0 := by
  rw [TimeZone.day, TimeZone.timeOfDay, regular.month_midnight, pageDay, add_zero]
  omega

theorem monthForSection_zero (calculator : FSCalendarCalculator) :
    calculator.monthForSection 0 =
      calculator.gregorian.fs_firstDayOfMonth calculator.minimumDate := by
  rw [monthForSection, NSCalendar.dateByAddingMonths, if_pos rfl]

theorem Regular.fs_firstDayOfMonth_eq_instantOf (regular : calculator.Regular) :
    calculator.gregorian.fs_firstDayOfMonth calculator.minimumDate =
      calculator.gregorian.timeZone.instantOf (calculator.pageDay 0 * 86400 + 0) := by
  have range := calculator.gregorian.timeZone.timeOfDay_range calculator.minimumDate
  have meets : calculator.gregorian.timeZone.Meets
      (calculator.pageDay 0 * 86400 +
        calculator.gregorian.timeZone.timeOfDay calculator.minimumDate / 3600 * 3600)
      (calculator.gregorian.fs_firstDayOfMonth calculator.minimumDate) := by
    rw [pageDay, add_zero]
    exact TimeZone.meets_instantOf _
  have reached := meets.le_localTime
  rw [regular.month_midnight, pageDay, add_zero] at reached
  -- a later hour would not have come to midnight
  have hour : calculator.gregorian.timeZone.timeOfDay calculator.minimumDate / 3600 * 3600 = 0 := by
    omega
  simp only [NSCalendar.fs_firstDayOfMonth, hour, pageDay, add_zero]

/-- A page's month is found from the midnight of its first day. -/
theorem Regular.monthForSection_eq_instantOf (regular : calculator.Regular) (number : ℤ) :
    calculator.monthForSection number =
      calculator.gregorian.timeZone.instantOf (calculator.pageDay number * 86400 + 0) := by
  by_cases first_page : number = 0
  · subst first_page
    rw [monthForSection_zero, regular.fs_firstDayOfMonth_eq_instantOf]
  · obtain ⟨first, midnight⟩ := regular.fs_firstDayOfMonth_minimumDate
    rw [monthForSection, NSCalendar.dateByAddingMonths, if_neg first_page, first, midnight, pageDay,
      MonthTable.addMonths_firstDay, add_zero (calculator.gregorian.month calculator.minimumDate)]
    rfl

theorem Regular.monthForSection_spec (regular : calculator.Regular) (number : ℤ) :
    calculator.gregorian.timeZone.day (calculator.monthForSection number) =
        calculator.pageDay number ∧
      calculator.gregorian.timeZone.Early (calculator.monthForSection number) := by
  rw [regular.monthForSection_eq_instantOf]
  exact (TimeZone.meets_instantOf _).day_early (regular.occurs _) le_rfl
    calculator.gregorian.timeZone.steadyTime_range.1

theorem Regular.day_monthForSection (regular : calculator.Regular) (number : ℤ) :
    calculator.gregorian.timeZone.day (calculator.monthForSection number) =
      calculator.pageDay number :=
  (regular.monthForSection_spec number).1

theorem Regular.month_monthForSection (regular : calculator.Regular) (number : ℤ) :
    calculator.gregorian.month (calculator.monthForSection number) =
      calculator.gregorian.month calculator.minimumDate + number := by
  rw [NSCalendar.month, regular.day_monthForSection, pageDay, MonthTable.month_firstDay]

theorem Regular.monthHead (regular : calculator.Regular) (number : ℤ) :
    calculator.gregorian.timeZone.day (calculator.monthHeadForSection number) =
        calculator.pageDay number - calculator.headPlaceholders number ∧
      calculator.gregorian.timeZone.Early (calculator.monthHeadForSection number) := by
  obtain ⟨day, early⟩ := regular.monthForSection_spec number
  refine ⟨?_, TimeZone.early_addDays early (regular.occurs _)⟩
  rw [monthHeadForSection, NSCalendar.dateByAddingDays,
    TimeZone.day_addDays_of_early early (regular.occurs _), day, headPlaceholders, sub_eq_add_neg]

theorem Regular.day_dateForIndexPath (regular : calculator.Regular) (indexPath : IndexPath) :
    calculator.gregorian.timeZone.day (calculator.dateForIndexPath .month indexPath) =
      calculator.pageDay indexPath.inSection - calculator.headPlaceholders indexPath.inSection +
        indexPath.item := by
  have head := regular.monthHead indexPath.inSection
  rw [dateForIndexPath, NSCalendar.dateByAddingDays,
    TimeZone.day_addDays_of_early head.2 (regular.occurs _), head.1]

/-- A cell's position is that of its day to the page's month. -/
theorem Regular.monthPosition_eq_current_iff (regular : calculator.Regular)
    (indexPath : IndexPath) :
    calculator.monthPositionForIndexPath .month indexPath = .current ↔
      calculator.headPlaceholders indexPath.inSection ≤ indexPath.item ∧
        indexPath.item < calculator.headPlaceholders indexPath.inSection +
          calculator.gregorian.months.length
            (calculator.gregorian.month calculator.minimumDate + indexPath.inSection) := by
  have day := regular.day_dateForIndexPath indexPath
  have page := regular.month_monthForSection indexPath.inSection
  have current : calculator.gregorian.month (calculator.dateForIndexPath .month indexPath) =
        calculator.gregorian.month (calculator.monthForSection indexPath.inSection) ↔
      calculator.headPlaceholders indexPath.inSection ≤ indexPath.item ∧
        indexPath.item < calculator.headPlaceholders indexPath.inSection +
          calculator.gregorian.months.length
            (calculator.gregorian.month calculator.minimumDate + indexPath.inSection) := by
    rw [page, NSCalendar.month, day, MonthTable.month_eq_iff, ← MonthTable.firstDay_add_length,
      ← pageDay]
    omega
  rw [← current, monthPositionForIndexPath]
  split
  case isTrue earlier => exact iff_of_false (by simp) earlier.ne
  case isFalse not_earlier =>
    split
    case isTrue same => exact iff_of_true rfl same
    case isFalse different => exact iff_of_false (by simp) different

/-- The months from a page's to a cell's at a position. -/
def monthOffset : FSCalendarMonthPosition → ℤ
  | .previous => -1
  | .next => 1
  | .current | .notFound => 0

/-- The number of cells of a page. -/
def numberOfItems : FSCalendarScope → Nat
  | .month => 42
  | .week => 7

/-- A cell is for a day of its page's month, or of the month before or after. -/
theorem Regular.month_dateForIndexPath (regular : calculator.Regular) {indexPath : IndexPath}
    (inPage : indexPath.item < numberOfItems .month) :
    calculator.gregorian.month (calculator.dateForIndexPath .month indexPath) =
      calculator.gregorian.month calculator.minimumDate + indexPath.inSection +
        monthOffset (calculator.monthPositionForIndexPath .month indexPath) := by
  have day := regular.day_dateForIndexPath indexPath
  have page := regular.month_monthForSection indexPath.inSection
  have placeholders : 0 ≤ calculator.headPlaceholders indexPath.inSection ∧
      calculator.headPlaceholders indexPath.inSection ≤ 7 :=
    numberOfHeadPlaceholdersForMonth_range _
  have bound : (indexPath.item : ℤ) < 42 := by exact_mod_cast inPage
  generalize number_eq :
    calculator.gregorian.month calculator.minimumDate + indexPath.inSection = number at page ⊢
  rw [pageDay, number_eq] at day
  have length := calculator.gregorian.months.firstDay_add_length number
  have before := calculator.gregorian.months.firstDay_add_length (number - 1)
  have after := calculator.gregorian.months.firstDay_add_length (number + 1)
  have length_pos := calculator.gregorian.months.length_pos number
  have before_pos := calculator.gregorian.months.length_pos (number - 1)
  have after_pos := calculator.gregorian.months.length_pos (number + 1)
  rw [sub_add_cancel] at before
  rcases lt_trichotomy
      (calculator.gregorian.month (calculator.dateForIndexPath .month indexPath)) number with
    earlier | same | later
  · have position : calculator.monthPositionForIndexPath .month indexPath = .previous := by
      rw [monthPositionForIndexPath, page, if_pos earlier]
    rw [position, NSCalendar.month, MonthTable.month_eq_iff, monthOffset, ← sub_eq_add_neg,
      sub_add_cancel]
    have upper := calculator.gregorian.months.lt_firstDay_month_add_one
      (calculator.gregorian.timeZone.day (calculator.dateForIndexPath .month indexPath))
    have next : calculator.gregorian.months.firstDay
        (calculator.gregorian.month (calculator.dateForIndexPath .month indexPath) + 1) ≤
          calculator.gregorian.months.firstDay number :=
      MonthTable.firstDay_mono (Int.add_one_le_of_lt earlier)
    rw [NSCalendar.month] at next
    omega
  · have position : calculator.monthPositionForIndexPath .month indexPath = .current := by
      rw [monthPositionForIndexPath, page, if_neg same.not_lt, if_pos same]
    rw [position, same, monthOffset, add_zero]
  · have position : calculator.monthPositionForIndexPath .month indexPath = .next := by
      rw [monthPositionForIndexPath, page, if_neg later.not_gt, if_neg later.ne']
    rw [position, NSCalendar.month, MonthTable.month_eq_iff, monthOffset]
    have reached := calculator.gregorian.months.le_month_iff.mp (Int.add_one_le_of_lt later)
    omega

theorem Regular.month_fs_firstDayOfMonth (regular : calculator.Regular) (date : ℤ) :
    calculator.gregorian.month (calculator.gregorian.fs_firstDayOfMonth date) =
      calculator.gregorian.month date := by
  have range := calculator.gregorian.timeZone.timeOfDay_range date
  have length := calculator.gregorian.months.firstDay_add_length
    (calculator.gregorian.month date)
  have length_pos := calculator.gregorian.months.length_pos
    (calculator.gregorian.month date)
  have meets : calculator.gregorian.timeZone.Meets
      (calculator.gregorian.months.firstDay (calculator.gregorian.month date) * 86400 +
        calculator.gregorian.timeZone.timeOfDay date / 3600 * 3600)
      (calculator.gregorian.fs_firstDayOfMonth date) := TimeZone.meets_instantOf _
  have reached : calculator.gregorian.months.firstDay (calculator.gregorian.month date) ≤
      calculator.gregorian.timeZone.day (calculator.gregorian.fs_firstDayOfMonth date) := by
    apply TimeZone.le_day_iff.mpr
    refine le_trans ?_ meets.le_localTime
    omega
  have within : calculator.gregorian.timeZone.day
      (calculator.gregorian.fs_firstDayOfMonth date) ≤
        calculator.gregorian.months.firstDay (calculator.gregorian.month date) + 1 := by
    rcases meets with shown | first
    · rw [TimeZone.day, shown]
      omega
    · -- where the hour is skipped to the end of the day, it comes on the next one
      have order : calculator.gregorian.fs_firstDayOfMonth date ≤
          calculator.gregorian.timeZone.startOfDay
            (calculator.gregorian.months.firstDay (calculator.gregorian.month date) + 1) := by
        rw [first]
        exact TimeZone.firstInstant_mono (by omega)
      exact TimeZone.day_le_of_le_startOfDay (regular.occurs _) order
  rw [NSCalendar.month, MonthTable.month_eq_iff]
  exact ⟨reached, by omega⟩

/-- Each month from the minimum date's to the maximum date's has begun by the maximum date, also
where the midnight of its first day is repeated. -/
def MonthsBegun (calculator : FSCalendarCalculator) : Prop :=
  ∀ number, 0 ≤ number →
    number ≤ calculator.gregorian.month calculator.maximumDate -
      calculator.gregorian.month calculator.minimumDate →
        calculator.monthForSection number ≤ calculator.maximumDate

/-- The months from the minimum date's are counted whole, up to a date by which they have begun. -/
theorem Regular.monthsBetween_of_begun (regular : calculator.Regular) {date : ℤ}
    (order : calculator.gregorian.fs_firstDayOfMonth calculator.minimumDate ≤ date)
    (begun : calculator.monthForSection (calculator.gregorian.month date -
      calculator.gregorian.month calculator.minimumDate) ≤ date) :
    calculator.gregorian.monthsBetween
        (calculator.gregorian.fs_firstDayOfMonth calculator.minimumDate) date =
      calculator.gregorian.month date - calculator.gregorian.month calculator.minimumDate := by
  rw [monthForSection] at begun
  rw [NSCalendar.monthsBetween, NSCalendar.wholeUnits, if_pos order,
    regular.month_fs_firstDayOfMonth, if_pos begun]

/-- There is a page for each month from the minimum date's to the maximum date's. -/
theorem Regular.numberOfSections_month (regular : calculator.Regular)
    (monthsBegun : calculator.MonthsBegun) :
    calculator.numberOfSections .month =
      calculator.gregorian.month calculator.maximumDate -
        calculator.gregorian.month calculator.minimumDate + 1 := by
  have reached : calculator.gregorian.month calculator.minimumDate ≤
      calculator.gregorian.month calculator.maximumDate := MonthTable.month_mono regular.ordered
  have order : calculator.gregorian.fs_firstDayOfMonth calculator.minimumDate ≤
      calculator.maximumDate := by
    have first := monthsBegun 0 le_rfl (sub_nonneg.mpr reached)
    rwa [monthForSection_zero] at first
  rw [numberOfSections, regular.monthsBetween_of_begun order
    (monthsBegun _ (sub_nonneg.mpr reached) le_rfl)]

/-- Where no early time is repeated a page's month begins with the start of its first day. -/
theorem Regular.monthForSection_eq (regular : calculator.Regular)
    (unrepeated : calculator.gregorian.timeZone.Unrepeated) (number : ℤ) :
    calculator.monthForSection number =
      calculator.gregorian.timeZone.startOfDay (calculator.pageDay number) := by
  rw [regular.monthForSection_eq_instantOf, unrepeated.instantOf_eq (regular.occurs _) le_rfl
    calculator.gregorian.timeZone.steadyTime_range.1, add_zero]
  rfl

theorem Regular.monthsBegun (regular : calculator.Regular)
    (unrepeated : calculator.gregorian.timeZone.Unrepeated) : calculator.MonthsBegun := by
  intro number _ within
  rw [regular.monthForSection_eq unrepeated]
  apply TimeZone.startOfDay_le
  rw [pageDay]
  refine le_trans (MonthTable.firstDay_mono ?_)
    (calculator.gregorian.months.firstDay_month_le _)
  change _ ≤ calculator.gregorian.month calculator.maximumDate
  omega

theorem Regular.monthsBetween_eq (regular : calculator.Regular)
    (unrepeated : calculator.gregorian.timeZone.Unrepeated) {date : ℤ}
    (reached :
      calculator.gregorian.month calculator.minimumDate ≤ calculator.gregorian.month date) :
    calculator.gregorian.monthsBetween
        (calculator.gregorian.fs_firstDayOfMonth calculator.minimumDate)
        (calculator.gregorian.fs_firstDayOfMonth date) =
      calculator.gregorian.month date - calculator.gregorian.month calculator.minimumDate := by
  have month := regular.month_fs_firstDayOfMonth date
  have range := calculator.gregorian.timeZone.timeOfDay_range date
  have started : calculator.gregorian.timeZone.startOfDay
      (calculator.gregorian.months.firstDay (calculator.gregorian.month date)) ≤
        calculator.gregorian.fs_firstDayOfMonth date :=
    (TimeZone.firstInstant_mono (by omega)).trans (TimeZone.meets_instantOf _).firstInstant_le
  have order : calculator.gregorian.fs_firstDayOfMonth calculator.minimumDate ≤
      calculator.gregorian.fs_firstDayOfMonth date := by
    rw [← monthForSection_zero, regular.monthForSection_eq unrepeated, pageDay, add_zero]
    exact (TimeZone.startOfDay_mono (MonthTable.firstDay_mono reached)).trans started
  rw [regular.monthsBetween_of_begun order, month]
  rw [month, regular.monthForSection_eq unrepeated, pageDay, add_sub_cancel]
  exact started

theorem monthSection_eq (position : FSCalendarMonthPosition) (date : ℤ) :
    calculator.monthSection position date =
      calculator.gregorian.monthsBetween
        (calculator.gregorian.fs_firstDayOfMonth calculator.minimumDate)
        (calculator.gregorian.fs_firstDayOfMonth date) - monthOffset position := by
  cases position with
  | previous => exact (sub_neg_eq_add _ _).symm
  | current => exact (sub_zero _).symm
  | next => rfl
  | notFound => exact (sub_zero _).symm

@[simp]
theorem indexPath?_natCast (item number : Nat) :
    indexPath? item number = some ⟨item, number⟩ := by
  simp [indexPath?]

theorem indexPath?_eq_some {item number : ℤ} {indexPath : IndexPath}
    (found : indexPath? item number = some indexPath) :
    (indexPath.item : ℤ) = item ∧ (indexPath.inSection : ℤ) = number := by
  simp only [indexPath?] at found
  split at found
  · cases found
  · cases found
    simp only
    omega

/-! ## Rows -/

theorem Regular.day_fs_firstDayOfMonth (regular : calculator.Regular) (number : ℤ) :
    calculator.gregorian.timeZone.day
        (calculator.gregorian.fs_firstDayOfMonth (calculator.monthForSection number)) =
      calculator.pageDay number := by
  have occurs : calculator.gregorian.timeZone.Occurs (calculator.pageDay number) :=
    regular.occurs _
  have early := (regular.monthForSection_spec number).2
  rw [TimeZone.Early] at early
  have range := calculator.gregorian.timeZone.timeOfDay_range (calculator.monthForSection number)
  rw [NSCalendar.fs_firstDayOfMonth, regular.month_monthForSection, ← pageDay]
  exact ((TimeZone.meets_instantOf _).day_early occurs (by omega) (by omega)).1

theorem Regular.headPlaceholders_eq (regular : calculator.Regular)
    (notFilled : calculator.placeholderType ≠ .fillSixRows) (number : ℤ) :
    calculator.headPlaceholders number =
      (calculator.gregorian.weekday (calculator.gregorian.fs_firstDayOfMonth
        (calculator.monthForSection number)) - calculator.gregorian.firstWeekday + 7) % 7 := by
  have weekday : calculator.gregorian.weekday (calculator.gregorian.fs_firstDayOfMonth
        (calculator.monthForSection number)) =
      calculator.gregorian.weekday (calculator.monthForSection number) := by
    rw [NSCalendar.weekday, NSCalendar.weekday, regular.day_fs_firstDayOfMonth,
      regular.day_monthForSection]
  simp only [headPlaceholders, numberOfHeadPlaceholdersForMonth, weekday, notFilled, decide_false,
    Bool.and_false, Bool.false_eq_true, if_false]
  split
  · rfl
  · omega

theorem Regular.numberOfRowsInSection_eq (regular : calculator.Regular)
    (notFilled : calculator.placeholderType ≠ .fillSixRows) (number : ℤ) :
    calculator.numberOfRowsInSection .month number =
      (calculator.headPlaceholders number + calculator.gregorian.months.length
        (calculator.gregorian.month calculator.minimumDate + number) + 6) / 7 := by
  have length : calculator.gregorian.fs_numberOfDaysInMonth (calculator.monthForSection number) =
      calculator.gregorian.months.length
        (calculator.gregorian.month calculator.minimumDate + number) := by
    rw [NSCalendar.fs_numberOfDaysInMonth, regular.month_monthForSection]
  simp only [numberOfRowsInSection, numberOfRowsInMonth, if_neg notFilled, length,
    ← regular.headPlaceholders_eq notFilled]
  split
  · omega
  · omega

theorem Regular.numberOfRowsInSection_range (regular : calculator.Regular)
    (notFilled : calculator.placeholderType ≠ .fillSixRows) (number : Nat) :
    4 ≤ calculator.numberOfRowsInSection .month number ∧
      calculator.numberOfRowsInSection .month number ≤ 6 := by
  have rows := regular.numberOfRowsInSection_eq notFilled number
  have placeholders := regular.headPlaceholders_eq notFilled number
  have length_pos := calculator.gregorian.months.length_pos
    (calculator.gregorian.month calculator.minimumDate + number)
  have length_le := calculator.gregorian.months.length_le
    (calculator.gregorian.month calculator.minimumDate + number)
  omega

theorem Regular.row_lt_of_current (regular : calculator.Regular)
    (notFilled : calculator.placeholderType ≠ .fillSixRows) {indexPath : IndexPath}
    (current : calculator.monthPositionForIndexPath .month indexPath = .current) :
    ((coordinateForIndexPath indexPath).1 : ℤ) <
      calculator.numberOfRowsInSection .month indexPath.inSection := by
  have rows := regular.numberOfRowsInSection_eq notFilled indexPath.inSection
  have placeholders := regular.headPlaceholders_eq notFilled indexPath.inSection
  rw [regular.monthPosition_eq_current_iff] at current
  simp only [coordinateForIndexPath]
  omega

/-- Unless six rows are filled, the rows of a month page are those with a cell of the month; there
are four to six. -/
theorem mem_rows_iff (regular : calculator.Regular)
    (notFilled : calculator.placeholderType ≠ .fillSixRows) (number row : Nat) :
    ((row : ℤ) < calculator.numberOfRowsInSection .month number ↔
      ∃ indexPath : IndexPath, indexPath.inSection = number ∧
        indexPath.item < numberOfItems .month ∧ (coordinateForIndexPath indexPath).1 = row ∧
        calculator.monthPositionForIndexPath .month indexPath = .current) ∧
    4 ≤ calculator.numberOfRowsInSection .month number ∧
      calculator.numberOfRowsInSection .month number ≤ 6 := by
  have rows := regular.numberOfRowsInSection_eq notFilled number
  have placeholders := regular.headPlaceholders_eq notFilled number
  have length_pos := calculator.gregorian.months.length_pos
    (calculator.gregorian.month calculator.minimumDate + number)
  have length_le := calculator.gregorian.months.length_le
    (calculator.gregorian.month calculator.minimumDate + number)
  refine ⟨⟨?_, ?_⟩, regular.numberOfRowsInSection_range notFilled number⟩
  · intro inRows
    -- the first cell of the row or, in the first row, the first of the month
    obtain ⟨item, item_eq⟩ := Int.eq_ofNat_of_zero_le
      (a := max (7 * (row : ℤ)) (calculator.headPlaceholders number)) (by omega)
    refine ⟨⟨item, number⟩, rfl, ?_, ?_, ?_⟩
    · simp only [numberOfItems]
      omega
    · simp only [coordinateForIndexPath]
      omega
    · rw [regular.monthPosition_eq_current_iff]
      simp only
      omega
  · rintro ⟨indexPath, rfl, -, rfl, current⟩
    exact regular.row_lt_of_current notFilled current

theorem unchanged_mem_rows_iff :
    (((5 : Nat) : ℤ) < unchanged.numberOfRowsInSection .month (7 : Nat) ↔
      ∃ indexPath : IndexPath, indexPath.inSection = 7 ∧
        indexPath.item < numberOfItems .month ∧ (coordinateForIndexPath indexPath).1 = 5 ∧
        unchanged.monthPositionForIndexPath .month indexPath = .current) ∧
    4 ≤ unchanged.numberOfRowsInSection .month (7 : Nat) ∧
      unchanged.numberOfRowsInSection .month (7 : Nat) ≤ 6 :=
  mem_rows_iff unchanged_regular (by decide) 7 5

/-! ## Week pages -/

/-- The days into a week of a date. -/
def daysIntoWeek (calculator : FSCalendarCalculator) (date : ℤ) : ℤ :=
  (calculator.gregorian.weekday date - calculator.gregorian.firstWeekday + 7) % 7

/-- A week begins with the start of its first day, as found from an early instant. -/
theorem Regular.fs_firstDayOfWeek_eq (regular : calculator.Regular) {date : ℤ}
    (early : calculator.gregorian.timeZone.Early date) :
    calculator.gregorian.fs_firstDayOfWeek date =
      calculator.gregorian.timeZone.startOfDay
        (calculator.gregorian.timeZone.day date - calculator.daysIntoWeek date) := by
  have back :
      (-(calculator.gregorian.weekday date - calculator.gregorian.firstWeekday) - 7).tmod 7 =
        -calculator.daysIntoWeek date := by
    have negated : -(calculator.gregorian.weekday date - calculator.gregorian.firstWeekday) - 7 =
        -(calculator.gregorian.weekday date - calculator.gregorian.firstWeekday + 7) := by omega
    have range := calculator.gregorian.firstWeekday_range
    have weekday : 1 ≤ calculator.gregorian.weekday date := by
      rw [NSCalendar.weekday]
      omega
    rw [negated, Int.neg_tmod, Int.tmod_eq_emod_of_nonneg (by omega), daysIntoWeek]
  rw [NSCalendar.fs_firstDayOfWeek, NSCalendar.startOfDay, back, NSCalendar.dateByAddingDays,
    TimeZone.day_addDays_of_early early (regular.occurs _), sub_eq_add_neg]

/-- The first day of the minimum date's week. -/
def firstWeekDay (calculator : FSCalendarCalculator) : ℤ :=
  calculator.gregorian.timeZone.day calculator.minimumDate -
    calculator.daysIntoWeek calculator.minimumDate

theorem Regular.fs_firstDayOfWeek_minimumDate (regular : calculator.Regular) :
    calculator.gregorian.fs_firstDayOfWeek calculator.minimumDate =
      calculator.gregorian.timeZone.startOfDay calculator.firstWeekDay := by
  have early : calculator.gregorian.timeZone.Early calculator.minimumDate := by
    rw [← regular.minimum_start]
    exact TimeZone.early_startOfDay (regular.occurs _)
  exact regular.fs_firstDayOfWeek_eq early

theorem Regular.weekForSection_spec (regular : calculator.Regular) (number : ℤ) :
    calculator.gregorian.timeZone.day (calculator.weekForSection number) =
        calculator.firstWeekDay + 7 * number ∧
      calculator.gregorian.timeZone.Early (calculator.weekForSection number) := by
  have first_early : calculator.gregorian.timeZone.Early
      (calculator.gregorian.fs_firstDayOfWeek calculator.minimumDate) := by
    rw [regular.fs_firstDayOfWeek_minimumDate]
    exact TimeZone.early_startOfDay (regular.occurs _)
  have first_day : calculator.gregorian.timeZone.day
      (calculator.gregorian.fs_firstDayOfWeek calculator.minimumDate) =
        calculator.firstWeekDay := by
    rw [regular.fs_firstDayOfWeek_minimumDate]
    exact regular.occurs _
  refine ⟨?_, TimeZone.early_addDays first_early (regular.occurs _)⟩
  rw [weekForSection, NSCalendar.dateByAddingWeeks,
    TimeZone.day_addDays_of_early first_early (regular.occurs _), first_day]

theorem Regular.week_dateForIndexPath (regular : calculator.Regular) (indexPath : IndexPath) :
    calculator.gregorian.timeZone.day (calculator.dateForIndexPath .week indexPath) =
        calculator.firstWeekDay + 7 * indexPath.inSection + indexPath.item ∧
      calculator.gregorian.timeZone.Early (calculator.dateForIndexPath .week indexPath) := by
  have week := regular.weekForSection_spec indexPath.inSection
  refine ⟨?_, TimeZone.early_addDays week.2 (regular.occurs _)⟩
  rw [dateForIndexPath, NSCalendar.dateByAddingDays,
    TimeZone.day_addDays_of_early week.2 (regular.occurs _), week.1]

/-- The weeks from the minimum date's to that of a later early date are counted whole. -/
theorem Regular.weekSection_eq (regular : calculator.Regular)
    (unrepeated : calculator.gregorian.timeZone.Unrepeated) {date : ℤ}
    (early : calculator.gregorian.timeZone.Early date) {number : ℤ} (reached : 0 ≤ number)
    (week : calculator.gregorian.timeZone.day date - calculator.daysIntoWeek date =
      calculator.firstWeekDay + 7 * number) : calculator.weekSection date = number := by
  have first := regular.fs_firstDayOfWeek_minimumDate
  have midnight := regular.week_midnight
  have first_occurs : calculator.gregorian.timeZone.day
      (calculator.gregorian.timeZone.startOfDay calculator.firstWeekDay) =
        calculator.firstWeekDay := regular.occurs _
  have week_occurs : calculator.gregorian.timeZone.day
      (calculator.gregorian.timeZone.startOfDay (calculator.firstWeekDay + 7 * number)) =
        calculator.firstWeekDay + 7 * number := regular.occurs _
  have order : calculator.gregorian.timeZone.startOfDay calculator.firstWeekDay ≤
      calculator.gregorian.timeZone.startOfDay (calculator.firstWeekDay + 7 * number) :=
    TimeZone.startOfDay_mono (by omega)
  have started := @TimeZone.Unrepeated.addDays_le_startOfDay_iff calculator.gregorian.timeZone
    unrepeated (7 * number) _ (TimeZone.early_startOfDay first_occurs) (regular.occurs _)
  rw [first_occurs, ← first, midnight, first] at started
  have begun := started.mpr (TimeZone.startTime_nonneg _)
  have count :
      (calculator.firstWeekDay + 7 * number - calculator.firstWeekDay).tdiv 7 = number := by
    rw [add_sub_cancel_left, Int.mul_tdiv_cancel_left _ (by omega)]
  rw [weekSection, regular.fs_firstDayOfWeek_eq early, week, first, NSCalendar.weeksBetween,
    NSCalendar.wholeUnits, if_pos order, week_occurs, first_occurs, count,
    NSCalendar.dateByAddingWeeks, if_pos begun]

theorem Regular.days_monthHead_nonneg (regular : calculator.Regular) {number date : ℤ}
    (reached : calculator.pageDay number ≤ calculator.gregorian.timeZone.day date) :
    0 ≤ calculator.gregorian.days (calculator.monthHeadForSection number) date := by
  have head := (regular.monthHead number).1
  have placeholders : 0 ≤ calculator.headPlaceholders number ∧
      calculator.headPlaceholders number ≤ 7 := numberOfHeadPlaceholdersForMonth_range _
  have count : 0 ≤ calculator.gregorian.timeZone.day date -
      calculator.gregorian.timeZone.day (calculator.monthHeadForSection number) := by omega
  exact NSCalendar.wholeUnits_nonneg count (NSCalendar.dateByAddingDays_zero _ _)

/-- The section of an index path, which is zero without one. -/
def sectionNumber (indexPath : Option IndexPath) : Nat :=
  (indexPath.map IndexPath.inSection).getD 0

theorem sectionNumber_indexPath? {item number : ℤ} (nonneg : 0 ≤ number → 0 ≤ item ∨ number = 0) :
    sectionNumber (indexPath? item number) = number.toNat := by
  rw [indexPath?]
  split
  · change 0 = number.toNat
    omega
  · rfl

/-- A date is on the page of its month; before the first page, there is none. -/
theorem Regular.sectionNumber_month (regular : calculator.Regular)
    (unrepeated : calculator.gregorian.timeZone.Unrepeated) (date : ℤ) :
    sectionNumber (calculator.indexPathForDate .month .current date) =
      (calculator.gregorian.month date -
        calculator.gregorian.month calculator.minimumDate).toNat := by
  rw [indexPathForDate]
  rcases lt_or_ge (calculator.gregorian.month date)
      (calculator.gregorian.month calculator.minimumDate) with before | reached
  · have number : calculator.monthSection .current date ≤ 0 := by
      have first := regular.month_fs_firstDayOfMonth date
      have minimum := regular.month_fs_firstDayOfMonth calculator.minimumDate
      exact NSCalendar.wholeUnits_nonpos (by omega)
    rw [sectionNumber_indexPath? (by omega)]
    omega
  · have number : calculator.monthSection .current date = calculator.gregorian.month date -
        calculator.gregorian.month calculator.minimumDate := by
      rw [monthSection_eq, regular.monthsBetween_eq unrepeated reached, monthOffset, sub_zero]
    have started : calculator.pageDay (calculator.gregorian.month date -
        calculator.gregorian.month calculator.minimumDate) ≤
          calculator.gregorian.timeZone.day date := by
      rw [pageDay, add_sub_cancel]
      exact calculator.gregorian.months.firstDay_month_le _
    have item := regular.days_monthHead_nonneg started
    rw [number, sectionNumber_indexPath? (fun _ => Or.inl item)]

/-- An early date is on the page of its week; before the first page, there is none. -/
theorem Regular.sectionNumber_week (regular : calculator.Regular)
    (unrepeated : calculator.gregorian.timeZone.Unrepeated) {date : ℤ}
    (early : calculator.gregorian.timeZone.Early date) :
    sectionNumber (calculator.indexPathForDate .week .current date) =
      ((calculator.gregorian.timeZone.day date - calculator.firstWeekDay) / 7).toNat := by
  have week : calculator.gregorian.timeZone.day date - calculator.daysIntoWeek date =
      calculator.firstWeekDay +
        7 * ((calculator.gregorian.timeZone.day date - calculator.firstWeekDay) / 7) := by
    rw [firstWeekDay, daysIntoWeek, daysIntoWeek, NSCalendar.weekday, NSCalendar.weekday]
    omega
  rw [indexPathForDate, sectionNumber_indexPath? (fun _ => Or.inl (by omega))]
  rcases lt_or_ge (calculator.gregorian.timeZone.day date) calculator.firstWeekDay with
    before | reached
  · have number : calculator.weekSection date ≤ 0 := by
      have minimum_week : calculator.gregorian.timeZone.day
          (calculator.gregorian.fs_firstDayOfWeek calculator.minimumDate) =
            calculator.firstWeekDay := by
        rw [regular.fs_firstDayOfWeek_minimumDate]
        exact regular.occurs _
      have date_week : calculator.gregorian.timeZone.day
          (calculator.gregorian.fs_firstDayOfWeek date) = calculator.firstWeekDay +
            7 * ((calculator.gregorian.timeZone.day date - calculator.firstWeekDay) / 7) := by
        rw [regular.fs_firstDayOfWeek_eq early, week]
        exact regular.occurs _
      refine NSCalendar.wholeUnits_nonpos ?_
      rw [minimum_week, date_week, add_sub_cancel_left, Int.mul_tdiv_cancel_left _ (by omega)]
      omega
    omega
  · rw [regular.weekSection_eq unrepeated early (by omega) week]

theorem Regular.fs_firstDayOfMonth_spec (regular : calculator.Regular) {date : ℤ}
    (early : calculator.gregorian.timeZone.Early date) :
    calculator.gregorian.timeZone.day (calculator.gregorian.fs_firstDayOfMonth date) =
        calculator.gregorian.months.firstDay (calculator.gregorian.month date) ∧
      calculator.gregorian.timeZone.Early (calculator.gregorian.fs_firstDayOfMonth date) := by
  have range := calculator.gregorian.timeZone.timeOfDay_range date
  rw [TimeZone.Early] at early
  exact (TimeZone.meets_instantOf _).day_early (regular.occurs _) (by omega) (by omega)

theorem Regular.fs_middleDayOfWeek_spec (regular : calculator.Regular) {date : ℤ}
    (early : calculator.gregorian.timeZone.Early date) :
    calculator.gregorian.timeZone.day (calculator.gregorian.fs_middleDayOfWeek date) =
        calculator.gregorian.timeZone.day date - calculator.daysIntoWeek date + 3 ∧
      calculator.gregorian.timeZone.Early (calculator.gregorian.fs_middleDayOfWeek date) := by
  have weekday : 1 ≤ calculator.gregorian.weekday date ∧ calculator.gregorian.weekday date ≤ 7 := by
    rw [NSCalendar.weekday]
    omega
  have firstWeekday := calculator.gregorian.firstWeekday_range
  have days : (if calculator.gregorian.weekday date < calculator.gregorian.firstWeekday then
      -(calculator.gregorian.weekday date - calculator.gregorian.firstWeekday) + 3 - 7
      else -(calculator.gregorian.weekday date - calculator.gregorian.firstWeekday) + 3) =
        -calculator.daysIntoWeek date + 3 := by
    rw [daysIntoWeek]
    split
    · omega
    · omega
  have middle_day := TimeZone.day_addDays_of_early early
    (regular.occurs (calculator.gregorian.timeZone.day date + (-calculator.daysIntoWeek date + 3)))
  have middle_early := TimeZone.early_addDays early
    (regular.occurs (calculator.gregorian.timeZone.day date + (-calculator.daysIntoWeek date + 3)))
  have range := calculator.gregorian.timeZone.timeOfDay_range
    (calculator.gregorian.dateByAddingDays (-calculator.daysIntoWeek date + 3) date)
  rw [TimeZone.Early, ← NSCalendar.dateByAddingDays] at middle_early
  rw [NSCalendar.fs_middleDayOfWeek]
  simp only [days]
  obtain ⟨day, early⟩ := (TimeZone.meets_instantOf
    (calculator.gregorian.timeZone.day
        (calculator.gregorian.dateByAddingDays (-calculator.daysIntoWeek date + 3) date) * 86400 +
      calculator.gregorian.timeZone.timeOfDay
        (calculator.gregorian.dateByAddingDays (-calculator.daysIntoWeek date + 3) date) /
          3600 * 3600)).day_early (regular.occurs _) (by omega) (by omega)
  refine ⟨?_, early⟩
  rw [day, NSCalendar.dateByAddingDays, middle_day]
  omega

/-! ## Cells and dates -/

theorem Regular.currentCell_inj (regular : calculator.Regular) {scope : FSCalendarScope}
    {cell other : IndexPath} (inPage : cell.item < numberOfItems scope)
    (other_inPage : other.item < numberOfItems scope)
    (current : calculator.monthPositionForIndexPath scope cell = .current)
    (other_current : calculator.monthPositionForIndexPath scope other = .current)
    (same : calculator.gregorian.timeZone.day (calculator.dateForIndexPath scope cell) =
      calculator.gregorian.timeZone.day (calculator.dateForIndexPath scope other)) :
    cell = other := by
  obtain ⟨item, number⟩ := cell
  obtain ⟨otherItem, otherNumber⟩ := other
  cases scope with
  | month =>
      have month := regular.month_dateForIndexPath inPage
      have other_month := regular.month_dateForIndexPath other_inPage
      have place := regular.day_dateForIndexPath ⟨item, number⟩
      have other_place := regular.day_dateForIndexPath ⟨otherItem, otherNumber⟩
      rw [NSCalendar.month, same, ← NSCalendar.month, other_month, current, other_current] at month
      have same_number : otherNumber = number := by
        simp only at month
        omega
      subst same_number
      rw [same, other_place] at place
      have same_item : otherItem = item := by
        simp only at place
        omega
      rw [same_item]
  | week =>
      have place := (regular.week_dateForIndexPath ⟨item, number⟩).1
      have other_place := (regular.week_dateForIndexPath ⟨otherItem, otherNumber⟩).1
      simp only [numberOfItems] at inPage other_inPage
      rw [same, other_place] at place
      simp only at place
      have same_number : otherNumber = number := by omega
      have same_item : otherItem = item := by omega
      rw [same_number, same_item]

theorem Regular.exists_currentCell (regular : calculator.Regular)
    (monthsBegun : calculator.MonthsBegun) {day : ℤ}
    (reached : calculator.gregorian.month calculator.minimumDate ≤
      calculator.gregorian.months.month day)
    (within : calculator.gregorian.months.month day ≤
      calculator.gregorian.month calculator.maximumDate) :
    ∃ indexPath : IndexPath, (indexPath.inSection : ℤ) < calculator.numberOfSections .month ∧
      indexPath.item < numberOfItems .month ∧
      calculator.monthPositionForIndexPath .month indexPath = .current ∧
      calculator.gregorian.timeZone.day (calculator.dateForIndexPath .month indexPath) = day := by
  obtain ⟨number, number_eq⟩ := Int.eq_ofNat_of_zero_le (sub_nonneg.mpr reached)
  have month_eq : calculator.gregorian.months.month day =
      calculator.gregorian.month calculator.minimumDate + number := by omega
  have placeholders : 0 ≤ calculator.headPlaceholders number ∧
      calculator.headPlaceholders number ≤ 7 := numberOfHeadPlaceholdersForMonth_range _
  have first := calculator.gregorian.months.firstDay_month_le day
  have last := calculator.gregorian.months.lt_firstDay_month_add_one day
  have length_le := calculator.gregorian.months.length_le
    (calculator.gregorian.months.month day)
  rw [← MonthTable.firstDay_add_length] at last
  rw [month_eq] at first last length_le
  rw [← pageDay] at first last
  have item_start : 0 ≤ day - calculator.pageDay number + calculator.headPlaceholders number := by
    omega
  obtain ⟨item, item_eq⟩ := Int.eq_ofNat_of_zero_le item_start
  have inPage : item < numberOfItems .month := by
    have bound : (item : ℤ) < 42 := by omega
    exact_mod_cast bound
  have current : calculator.monthPositionForIndexPath .month ⟨item, number⟩ = .current := by
    rw [regular.monthPosition_eq_current_iff]
    change calculator.headPlaceholders number ≤ item ∧
      item < calculator.headPlaceholders number + calculator.gregorian.months.length
        (calculator.gregorian.month calculator.minimumDate + number)
    omega
  have same_day : calculator.gregorian.timeZone.day
      (calculator.dateForIndexPath .month ⟨item, number⟩) = day := by
    rw [regular.day_dateForIndexPath]
    simp only
    omega
  refine ⟨⟨item, number⟩, ?_, inPage, current, same_day⟩
  rw [regular.numberOfSections_month monthsBegun]
  change (number : ℤ) < _
  omega

/-- From the month of the minimum date to that of the maximum date there is one current cell for
each day. -/
theorem existsUnique_currentCell (regular : calculator.Regular)
    (monthsBegun : calculator.MonthsBegun) {day : ℤ}
    (reached : calculator.gregorian.month calculator.minimumDate ≤
      calculator.gregorian.months.month day)
    (within : calculator.gregorian.months.month day ≤
      calculator.gregorian.month calculator.maximumDate) :
    ∃! indexPath : IndexPath, (indexPath.inSection : ℤ) < calculator.numberOfSections .month ∧
      indexPath.item < numberOfItems .month ∧
      calculator.monthPositionForIndexPath .month indexPath = .current ∧
      calculator.gregorian.timeZone.day (calculator.dateForIndexPath .month indexPath) = day := by
  obtain ⟨indexPath, inSections, inPage, current, same_day⟩ :=
    regular.exists_currentCell monthsBegun reached within
  refine ⟨indexPath, ⟨inSections, inPage, current, same_day⟩, ?_⟩
  rintro other ⟨-, other_inPage, other_current, other_day⟩
  exact regular.currentCell_inj other_inPage inPage other_current current
    (other_day.trans same_day.symm)

theorem unchanged_existsUnique_currentCell :
    ∃! indexPath : IndexPath, (indexPath.inSection : ℤ) < unchanged.numberOfSections .month ∧
      indexPath.item < numberOfItems .month ∧
      unchanged.monthPositionForIndexPath .month indexPath = .current ∧
      unchanged.gregorian.timeZone.day (unchanged.dateForIndexPath .month indexPath) = 18462 :=
  existsUnique_currentCell unchanged_regular
    (unchanged_regular.monthsBegun (TimeZone.fixed_unrepeated 0)) (by decide) (by decide)

/-- The start of a day leads back to itself exactly if the day starts no earlier than the time of
day of its page's head. -/
theorem dateForIndexPath_indexPathForDate_iff (regular : calculator.Regular)
    (unrepeated : calculator.gregorian.timeZone.Unrepeated) {day : ℤ}
    (reached : calculator.gregorian.month calculator.minimumDate ≤
      calculator.gregorian.months.month day) :
    (calculator.indexPathForDate .month .current
          (calculator.gregorian.timeZone.startOfDay day)).map (calculator.dateForIndexPath .month) =
        some (calculator.gregorian.timeZone.startOfDay day) ↔
      calculator.gregorian.timeZone.timeOfDay
          (calculator.monthHeadForSection (calculator.gregorian.months.month day -
            calculator.gregorian.month calculator.minimumDate)) ≤
        calculator.gregorian.timeZone.startTime day := by
  obtain ⟨number, number_eq⟩ := Int.eq_ofNat_of_zero_le (sub_nonneg.mpr reached)
  have occurs : calculator.gregorian.timeZone.day
      (calculator.gregorian.timeZone.startOfDay day) = day := regular.occurs day
  have section_eq : calculator.monthSection .current
      (calculator.gregorian.timeZone.startOfDay day) = number := by
    have month : calculator.gregorian.month (calculator.gregorian.timeZone.startOfDay day) =
        calculator.gregorian.months.month day := by rw [NSCalendar.month, occurs]
    rw [monthSection_eq, regular.monthsBetween_eq unrepeated (month ▸ reached), month,
      monthOffset, sub_zero, number_eq]
  have placeholders : 0 ≤ calculator.headPlaceholders number ∧
      calculator.headPlaceholders number ≤ 7 := numberOfHeadPlaceholdersForMonth_range _
  have head := regular.monthHead number
  have first := calculator.gregorian.months.firstDay_month_le day
  have month_eq : calculator.gregorian.months.month day =
      calculator.gregorian.month calculator.minimumDate + number := by omega
  rw [month_eq, ← pageDay] at first
  obtain ⟨item, item_eq⟩ := Int.eq_ofNat_of_zero_le (a := day - calculator.gregorian.timeZone.day
    (calculator.monthHeadForSection number)) (by omega)
  have day_eq : day = calculator.gregorian.timeZone.day (calculator.monthHeadForSection number) +
      item := by omega
  have moved := @TimeZone.Unrepeated.addDays_le_startOfDay_iff calculator.gregorian.timeZone
    unrepeated item _ head.2 (regular.occurs _)
  rw [← day_eq] at moved
  rw [number_eq, ← moved]
  constructor
  · intro back
    obtain ⟨indexPath, found, same⟩ := Option.map_eq_some_iff.mp back
    rw [indexPathForDate, section_eq] at found
    have numbers := indexPath?_eq_some found
    have place := regular.day_dateForIndexPath indexPath
    rw [same, occurs, numbers.2] at place
    have same_item : (indexPath.item : ℤ) = item := by omega
    rw [dateForIndexPath, numbers.2, same_item, NSCalendar.dateByAddingDays] at same
    exact same.le
  · intro started
    have after : calculator.gregorian.timeZone.startOfDay day ≤
        calculator.gregorian.timeZone.addDays item (calculator.monthHeadForSection number) := by
      apply TimeZone.startOfDay_le
      rw [TimeZone.day_addDays_of_early head.2 (regular.occurs _), ← day_eq]
    have order : calculator.monthHeadForSection number ≤
        calculator.gregorian.timeZone.startOfDay day :=
      (unrepeated.le_addDays (Int.natCast_nonneg item) head.2 (regular.occurs _)).trans started
    have days : calculator.gregorian.days (calculator.monthHeadForSection number)
        (calculator.gregorian.timeZone.startOfDay day) = item := by
      rw [NSCalendar.days, NSCalendar.wholeUnits, if_pos order, occurs, item_eq]
      exact if_pos started
    rw [indexPathForDate, section_eq, days, indexPath?_natCast, Option.map_some]
    exact congrArg some (le_antisymm started after)

theorem unchanged_dateForIndexPath_indexPathForDate_iff :
    (unchanged.indexPathForDate .month .current
          (unchanged.gregorian.timeZone.startOfDay 18462)).map (unchanged.dateForIndexPath .month) =
        some (unchanged.gregorian.timeZone.startOfDay 18462) ↔
      unchanged.gregorian.timeZone.timeOfDay (unchanged.monthHeadForSection
          (unchanged.gregorian.months.month 18462 - unchanged.gregorian.month 0)) ≤
        unchanged.gregorian.timeZone.startTime 18462 :=
  dateForIndexPath_indexPathForDate_iff unchanged_regular (TimeZone.fixed_unrepeated 0)
    (by decide)

end FSCalendarCalculator

end Celeste
