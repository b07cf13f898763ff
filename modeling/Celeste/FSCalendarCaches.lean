import Celeste.FSCalendarCalculator
import Celeste.Library.Machine
import Celeste.Library.Memo

/-!
# The remembered pages of FSCalendar

The calculator remembers the first days and heads of months, the weeks and the row counts it has
found, and forgets them when the bounding dates are requested again and on a memory warning.  A new
first weekday or placeholder type does not make it forget.
-/

namespace Celeste

/-- The calculator with what it remembers, and the calendar's request for the bounding dates. -/
structure CachingCalculator where
  calculator : FSCalendarCalculator
  needsRequestingBoundingDates : Bool
  numberOfMonths : ℤ
  numberOfWeeks : ℤ
  months : MemoTable ℤ ℤ
  monthHeads : MemoTable ℤ ℤ
  weeks : MemoTable ℤ ℤ
  rowCounts : MemoTable ℤ ℤ

namespace CachingCalculator

/-! ## Lookups -/

/-- Remember a page's month and its head. -/
def rememberMonth (number : ℤ) (caching : CachingCalculator) : CachingCalculator :=
  { caching with
    months := caching.months.store number (caching.calculator.monthForSection number)
    monthHeads := caching.monthHeads.store number (caching.calculator.monthHeadForSection number) }

/-- `monthForSection:`. -/
def monthForSection (number : ℤ) : StateM CachingCalculator ℤ := fun caching =>
  match caching.months.find? number with
  | some month => (month, caching)
  | none => (caching.calculator.monthForSection number, caching.rememberMonth number)

/-- `monthHeadForSection:`. -/
def monthHeadForSection (number : ℤ) : StateM CachingCalculator ℤ := fun caching =>
  match caching.monthHeads.find? number with
  | some monthHead => (monthHead, caching)
  | none => (caching.calculator.monthHeadForSection number, caching.rememberMonth number)

/-- `weekForSection:`. -/
def weekForSection (number : ℤ) : StateM CachingCalculator ℤ := fun caching =>
  match caching.weeks.find? number with
  | some week => (week, caching)
  | none =>
      let week := caching.calculator.weekForSection number
      (week, { caching with weeks := caching.weeks.store number week })

/-- `numberOfRowsInMonth:`. -/
def numberOfRowsInMonth (month : ℤ) : StateM CachingCalculator ℤ := fun caching =>
  if caching.calculator.placeholderType = .fillSixRows then (6, caching)
  else
    match caching.rowCounts.find? month with
    | some rowCount => (rowCount, caching)
    | none =>
        let rowCount := caching.calculator.numberOfRowsInMonth month
        (rowCount, { caching with rowCounts := caching.rowCounts.store month rowCount })

/-- `numberOfRowsInSection:`. -/
def numberOfRowsInSection (scope : FSCalendarScope) (number : ℤ) : StateM CachingCalculator ℤ :=
  match scope with
  | .week => pure 1
  | .month => do
      let month ← monthForSection number
      numberOfRowsInMonth month

/-- `dateForIndexPath:scope:`. -/
def dateForIndexPath (scope : FSCalendarScope) (indexPath : IndexPath) :
    StateM CachingCalculator ℤ :=
  match scope with
  | .month => do
      let head ← monthHeadForSection indexPath.inSection
      let caching ← get
      pure (caching.calculator.gregorian.dateByAddingDays indexPath.item head)
  | .week => do
      let currentPage ← weekForSection indexPath.inSection
      let caching ← get
      pure (caching.calculator.gregorian.dateByAddingDays indexPath.item currentPage)

/-- `indexPathForDate:atMonthPosition:scope:`. -/
def indexPathForDate (scope : FSCalendarScope) (position : FSCalendarMonthPosition) (date : ℤ) :
    StateM CachingCalculator (Option IndexPath) :=
  match scope with
  | .month => do
      let caching ← get
      let number := caching.calculator.monthSection position date
      let head ← monthHeadForSection number
      pure (FSCalendarCalculator.indexPath? (caching.calculator.gregorian.days head date) number)
  | .week => do
      let caching ← get
      pure (caching.calculator.indexPathForDate .week position date)

/-- `monthPositionForIndexPath:`. -/
def monthPositionForIndexPath (scope : FSCalendarScope) (indexPath : IndexPath) :
    StateM CachingCalculator FSCalendarMonthPosition :=
  match scope with
  | .week => pure .current
  | .month => do
      let date ← dateForIndexPath .month indexPath
      let page ← monthForSection indexPath.inSection
      let caching ← get
      let gregorian := caching.calculator.gregorian
      pure (if gregorian.month date < gregorian.month page then .previous
        else if gregorian.month date = gregorian.month page then .current
        else .next)

/-- `numberOfSections`. -/
def numberOfSections (caching : CachingCalculator) : FSCalendarScope → ℤ
  | .month => caching.numberOfMonths
  | .week => caching.numberOfWeeks

/-! ## Forgetting and settings -/

/-- `clearCaches`. -/
def clearCaches (caching : CachingCalculator) : CachingCalculator :=
  { caching with
    months := .empty
    monthHeads := .empty
    weeks := .empty
    rowCounts := .empty }

/-- `reloadSections`. -/
def reloadSections (caching : CachingCalculator) : CachingCalculator :=
  { caching with
    numberOfMonths := caching.calculator.numberOfSections .month
    numberOfWeeks := caching.calculator.numberOfSections .week }.clearCaches

/-- `requestBoundingDatesIfNecessary`, with the dates the data source gives or their defaults. -/
def requestBoundingDatesIfNecessary (newMin newMax : ℤ) (caching : CachingCalculator) :
    CachingCalculator :=
  if caching.needsRequestingBoundingDates then
    { caching with
      needsRequestingBoundingDates := false
      calculator :=
        { caching.calculator with
          minimumDate := caching.calculator.gregorian.startOfDay newMin
          maximumDate := caching.calculator.gregorian.startOfDay newMax } }.reloadSections
  else caching

/-- `reloadData`. -/
def reloadData (newMin newMax : ℤ) (caching : CachingCalculator) : CachingCalculator :=
  let requesting := { caching with needsRequestingBoundingDates := true }
  requesting.requestBoundingDatesIfNecessary newMin newMax

/-- `setFirstWeekday:`. -/
def setFirstWeekday (firstWeekday : ℤ) (range : 1 ≤ firstWeekday ∧ firstWeekday ≤ 7)
    (caching : CachingCalculator) : CachingCalculator :=
  if caching.calculator.gregorian.firstWeekday ≠ firstWeekday then
    { caching with
      needsRequestingBoundingDates := true
      calculator :=
        { caching.calculator with
          gregorian :=
            { caching.calculator.gregorian with
              firstWeekday
              firstWeekday_range := range } } }
  else caching

/-- `setPlaceholderType:`. -/
def setPlaceholderType (placeholderType : FSCalendarPlaceholderType) (caching : CachingCalculator) :
    CachingCalculator :=
  { caching with calculator := { caching.calculator with placeholderType } }

/-- The calendar as it is initialised, before anything is looked up. -/
def loaded (calculator : FSCalendarCalculator) : CachingCalculator where
  calculator := calculator
  needsRequestingBoundingDates := true
  numberOfMonths := 0
  numberOfWeeks := 0
  months := .empty
  monthHeads := .empty
  weeks := .empty
  rowCounts := .empty

/-- What is asked of the calculator, and what changes it. -/
inductive Event
  | monthForSection (number : ℤ)
  | monthHeadForSection (number : ℤ)
  | weekForSection (number : ℤ)
  | numberOfRowsInMonth (month : ℤ)
  | didReceiveMemoryWarning
  | requestBoundingDatesIfNecessary (newMin newMax : ℤ)
  | reloadData (newMin newMax : ℤ)
  | setFirstWeekday (firstWeekday : ℤ) (range : 1 ≤ firstWeekday ∧ firstWeekday ≤ 7)
  | setPlaceholderType (placeholderType : FSCalendarPlaceholderType)

/-- One event. -/
def handle (caching : CachingCalculator) : Event → CachingCalculator
  | .monthForSection number => (monthForSection number caching).2
  | .monthHeadForSection number => (monthHeadForSection number caching).2
  | .weekForSection number => (weekForSection number caching).2
  | .numberOfRowsInMonth month => (numberOfRowsInMonth month caching).2
  | .didReceiveMemoryWarning => caching.clearCaches
  | .requestBoundingDatesIfNecessary newMin newMax =>
      caching.requestBoundingDatesIfNecessary newMin newMax
  | .reloadData newMin newMax => caching.reloadData newMin newMax
  | .setFirstWeekday firstWeekday range => caching.setFirstWeekday firstWeekday range
  | .setPlaceholderType placeholderType => caching.setPlaceholderType placeholderType

/-! ## Agreement -/

/-- The calculator with another placeholder type. -/
def withPlaceholderType (placeholderType : FSCalendarPlaceholderType)
    (calculator : FSCalendarCalculator) : FSCalendarCalculator :=
  { calculator with placeholderType }

/-- What is remembered is what the calculator finds, and so are the numbers of pages unless the
bounding dates are to be requested again; rows are counted only where six are not filled. -/
structure Coherent (caching : CachingCalculator) : Prop where
  sections : caching.needsRequestingBoundingDates = false →
    ∀ scope, caching.numberOfSections scope = caching.calculator.numberOfSections scope
  months : caching.months.Agrees caching.calculator.monthForSection
  monthHeads : caching.monthHeads.Agrees caching.calculator.monthHeadForSection
  weeks : caching.weeks.Agrees caching.calculator.weekForSection
  rowCounts : caching.rowCounts.Agrees
    (withPlaceholderType .none caching.calculator).numberOfRowsInMonth

/-- A computation gives a value and leaves the settings and the agreement. -/
def Gives {Value : Type} (computation : StateM CachingCalculator Value)
    (caching : CachingCalculator) (value : Value) : Prop :=
  (computation caching).1 = value ∧ (computation caching).2.calculator = caching.calculator ∧
    (computation caching).2.Coherent

variable {caching : CachingCalculator}

theorem Coherent.rememberMonth (coherent : caching.Coherent) (number : ℤ) :
    (caching.rememberMonth number).Coherent where
  sections := coherent.sections
  months := coherent.months.store number
  monthHeads := coherent.monthHeads.store number
  weeks := coherent.weeks
  rowCounts := coherent.rowCounts

theorem Gives.bind {First Second : Type} {computation : StateM CachingCalculator First}
    {next : First → StateM CachingCalculator Second} {first : First} {second : Second}
    (gives : Gives computation caching first)
    (then_gives : ∀ {later : CachingCalculator}, later.calculator = caching.calculator →
      later.Coherent → Gives (next first) later second) :
    Gives (computation >>= next) caching second := by
  obtain ⟨value, settings, coherent⟩ := gives
  have later := then_gives settings coherent
  rw [← value] at later
  exact ⟨later.1, later.2.1.trans settings, later.2.2⟩

theorem Coherent.gives_pure {Value : Type} (coherent : caching.Coherent) (value : Value) :
    Gives (pure value) caching value :=
  ⟨rfl, rfl, coherent⟩

theorem Gives.get {Value : Type} {next : CachingCalculator → StateM CachingCalculator Value}
    {value : Value} (gives : Gives (next caching) caching value) :
    Gives (MonadState.get >>= next) caching value :=
  gives

theorem Coherent.monthForSection (coherent : caching.Coherent) (number : ℤ) :
    Gives (monthForSection number) caching (caching.calculator.monthForSection number) := by
  rw [Gives, CachingCalculator.monthForSection]
  cases found : caching.months.find? number with
  | none => exact ⟨rfl, rfl, coherent.rememberMonth number⟩
  | some month => exact ⟨coherent.months number month found, rfl, coherent⟩

theorem Coherent.monthHeadForSection (coherent : caching.Coherent) (number : ℤ) :
    Gives (monthHeadForSection number) caching
      (caching.calculator.monthHeadForSection number) := by
  rw [Gives, CachingCalculator.monthHeadForSection]
  cases found : caching.monthHeads.find? number with
  | none => exact ⟨rfl, rfl, coherent.rememberMonth number⟩
  | some monthHead => exact ⟨coherent.monthHeads number monthHead found, rfl, coherent⟩

theorem Coherent.weekForSection (coherent : caching.Coherent) (number : ℤ) :
    Gives (weekForSection number) caching (caching.calculator.weekForSection number) := by
  rw [Gives, CachingCalculator.weekForSection]
  cases found : caching.weeks.find? number with
  | none =>
      exact ⟨rfl, rfl, coherent.sections, coherent.months, coherent.monthHeads,
        coherent.weeks.store number, coherent.rowCounts⟩
  | some week => exact ⟨coherent.weeks number week found, rfl, coherent⟩

theorem withPlaceholderType_numberOfRowsInMonth {calculator : FSCalendarCalculator}
    (notFilled : calculator.placeholderType ≠ .fillSixRows) :
    (withPlaceholderType .none calculator).numberOfRowsInMonth =
      calculator.numberOfRowsInMonth := by
  funext month
  rw [FSCalendarCalculator.numberOfRowsInMonth, FSCalendarCalculator.numberOfRowsInMonth,
    if_neg notFilled, if_neg (by simp [withPlaceholderType])]
  rfl

theorem Coherent.numberOfRowsInMonth (coherent : caching.Coherent) (month : ℤ) :
    Gives (numberOfRowsInMonth month) caching
      (caching.calculator.numberOfRowsInMonth month) := by
  rw [Gives, CachingCalculator.numberOfRowsInMonth]
  split
  case isTrue filled =>
    refine ⟨?_, rfl, coherent⟩
    rw [FSCalendarCalculator.numberOfRowsInMonth, if_pos filled]
  case isFalse notFilled =>
    have rowCounts := coherent.rowCounts
    rw [withPlaceholderType_numberOfRowsInMonth notFilled] at rowCounts
    cases found : caching.rowCounts.find? month with
    | none =>
        refine ⟨rfl, rfl, coherent.sections, coherent.months, coherent.monthHeads,
          coherent.weeks, ?_⟩
        rw [withPlaceholderType_numberOfRowsInMonth notFilled]
        exact rowCounts.store month
    | some rowCount => exact ⟨rowCounts month rowCount found, rfl, coherent⟩

/-! ## What the lookups give -/

/-- Every lookup gives what the calculator finds by the settings of the moment; for the numbers of
pages these are the settings as of the last request for the bounding dates. -/
structure AnswersPlainly (caching : CachingCalculator) : Prop where
  month : ∀ number, (monthForSection number caching).1 = caching.calculator.monthForSection number
  monthHead : ∀ number, (monthHeadForSection number caching).1 =
    caching.calculator.monthHeadForSection number
  week : ∀ number, (weekForSection number caching).1 = caching.calculator.weekForSection number
  monthRows : ∀ month, (numberOfRowsInMonth month caching).1 =
    caching.calculator.numberOfRowsInMonth month
  sections : caching.needsRequestingBoundingDates = false →
    ∀ scope, caching.numberOfSections scope = caching.calculator.numberOfSections scope
  date : ∀ scope indexPath, (dateForIndexPath scope indexPath caching).1 =
    caching.calculator.dateForIndexPath scope indexPath
  indexPath : ∀ scope position date, (indexPathForDate scope position date caching).1 =
    caching.calculator.indexPathForDate scope position date
  position : ∀ scope indexPath, (monthPositionForIndexPath scope indexPath caching).1 =
    caching.calculator.monthPositionForIndexPath scope indexPath
  rows : ∀ scope number, (numberOfRowsInSection scope number caching).1 =
    caching.calculator.numberOfRowsInSection scope number

theorem Coherent.dateForIndexPath (coherent : caching.Coherent) (scope : FSCalendarScope)
    (indexPath : IndexPath) :
    Gives (dateForIndexPath scope indexPath) caching
      (caching.calculator.dateForIndexPath scope indexPath) := by
  cases scope with
  | month =>
      refine (coherent.monthHeadForSection indexPath.inSection).bind ?_
      intro later settings later_coherent
      rw [FSCalendarCalculator.dateForIndexPath, ← settings]
      apply Gives.get
      exact later_coherent.gives_pure _
  | week =>
      refine (coherent.weekForSection indexPath.inSection).bind ?_
      intro later settings later_coherent
      rw [FSCalendarCalculator.dateForIndexPath, ← settings]
      apply Gives.get
      exact later_coherent.gives_pure _

theorem Coherent.indexPathForDate (coherent : caching.Coherent) (scope : FSCalendarScope)
    (position : FSCalendarMonthPosition) (date : ℤ) :
    Gives (indexPathForDate scope position date) caching
      (caching.calculator.indexPathForDate scope position date) := by
  cases scope with
  | month =>
      apply Gives.get
      refine (coherent.monthHeadForSection _).bind ?_
      intro later _ later_coherent
      exact later_coherent.gives_pure _
  | week =>
      apply Gives.get
      exact coherent.gives_pure _

theorem Coherent.monthPositionForIndexPath (coherent : caching.Coherent) (scope : FSCalendarScope)
    (indexPath : IndexPath) :
    Gives (monthPositionForIndexPath scope indexPath) caching
      (caching.calculator.monthPositionForIndexPath scope indexPath) := by
  cases scope with
  | month =>
      refine (coherent.dateForIndexPath .month indexPath).bind ?_
      intro dated settings dated_coherent
      refine (dated_coherent.monthForSection indexPath.inSection).bind ?_
      intro later later_settings later_coherent
      rw [FSCalendarCalculator.monthPositionForIndexPath, ← settings, ← later_settings]
      apply Gives.get
      exact later_coherent.gives_pure _
  | week => exact coherent.gives_pure _

theorem Coherent.numberOfRowsInSection (coherent : caching.Coherent) (scope : FSCalendarScope)
    (number : ℤ) :
    Gives (numberOfRowsInSection scope number) caching
      (caching.calculator.numberOfRowsInSection scope number) := by
  cases scope with
  | month =>
      refine (coherent.monthForSection number).bind ?_
      intro later settings later_coherent
      rw [FSCalendarCalculator.numberOfRowsInSection, ← settings]
      exact later_coherent.numberOfRowsInMonth _
  | week => exact coherent.gives_pure _

theorem Coherent.answersPlainly (coherent : caching.Coherent) : caching.AnswersPlainly where
  month number := (coherent.monthForSection number).1
  monthHead number := (coherent.monthHeadForSection number).1
  week number := (coherent.weekForSection number).1
  monthRows month := (coherent.numberOfRowsInMonth month).1
  sections := coherent.sections
  date scope indexPath := (coherent.dateForIndexPath scope indexPath).1
  indexPath scope position date := (coherent.indexPathForDate scope position date).1
  position scope indexPath := (coherent.monthPositionForIndexPath scope indexPath).1
  rows scope number := (coherent.numberOfRowsInSection scope number).1

/-! ## Runs -/

theorem coherent_clearCaches (caching : CachingCalculator)
    (sections : caching.needsRequestingBoundingDates = false →
      ∀ scope, caching.numberOfSections scope = caching.calculator.numberOfSections scope) :
    caching.clearCaches.Coherent where
  sections := sections
  months := .empty
  monthHeads := .empty
  weeks := .empty
  rowCounts := .empty

theorem coherent_reloadSections (caching : CachingCalculator) :
    caching.reloadSections.Coherent := by
  refine coherent_clearCaches _ ?_
  intro _ scope
  cases scope with
  | month => rfl
  | week => rfl

theorem coherent_reloadData (newMin newMax : ℤ) (caching : CachingCalculator) :
    (caching.reloadData newMin newMax).Coherent :=
  coherent_reloadSections _

/-- What is remembered agrees with another placeholder type exactly if the remembered heads are also
those of that type. -/
theorem Coherent.setPlaceholderType_iff (coherent : caching.Coherent)
    (placeholderType : FSCalendarPlaceholderType) :
    (caching.setPlaceholderType placeholderType).Coherent ↔
      ∀ number, (caching.monthHeads.find? number).isSome →
        caching.calculator.monthHeadForSection number =
          (withPlaceholderType placeholderType caching.calculator).monthHeadForSection number := by
  rw [← coherent.monthHeads.congr_iff]
  constructor
  · intro other
    exact other.monthHeads
  · intro monthHeads
    refine ⟨?_, coherent.months, monthHeads, coherent.weeks, coherent.rowCounts⟩
    intro requested scope
    cases scope with
    | month => exact coherent.sections requested .month
    | week => exact coherent.sections requested .week

/-- A new placeholder type is harmless to the lookups exactly if the remembered heads are also those
of that type. -/
theorem Coherent.answersPlainly_setPlaceholderType_iff (coherent : caching.Coherent)
    (placeholderType : FSCalendarPlaceholderType) :
    (caching.setPlaceholderType placeholderType).AnswersPlainly ↔
      ∀ number, (caching.monthHeads.find? number).isSome →
        caching.calculator.monthHeadForSection number =
          (withPlaceholderType placeholderType caching.calculator).monthHeadForSection number := by
  constructor
  · intro plain number remembered
    obtain ⟨head, found⟩ := Option.isSome_iff_exists.mp remembered
    have looked_up := plain.monthHead number
    have kept : (caching.setPlaceholderType placeholderType).monthHeads.find? number =
        some head := found
    rw [CachingCalculator.monthHeadForSection, kept] at looked_up
    rw [← coherent.monthHeads number head found]
    exact looked_up
  · intro same
    exact ((coherent.setPlaceholderType_iff placeholderType).mpr same).answersPlainly

theorem withPlaceholderType_monthHeadForSection {calculator : FSCalendarCalculator}
    {placeholderType : FSCalendarPlaceholderType}
    (same : calculator.placeholderType = .fillSixRows ↔ placeholderType = .fillSixRows)
    (number : ℤ) :
    calculator.monthHeadForSection number =
      (withPlaceholderType placeholderType calculator).monthHeadForSection number := by
  have filled : decide (calculator.placeholderType = .fillSixRows) =
      decide ((withPlaceholderType placeholderType calculator).placeholderType = .fillSixRows) :=
    decide_eq_decide.mpr same
  rw [FSCalendarCalculator.monthHeadForSection, FSCalendarCalculator.monthHeadForSection,
    FSCalendarCalculator.numberOfHeadPlaceholdersForMonth,
    FSCalendarCalculator.numberOfHeadPlaceholdersForMonth, filled]
  rfl

/-- A new first weekday comes when nothing is remembered; a new placeholder type leaves the
remembered heads. -/
def KeepsHeads (caching : CachingCalculator) : Event → Prop
  | .setFirstWeekday firstWeekday _ =>
      caching.calculator.gregorian.firstWeekday = firstWeekday ∨ caching = caching.clearCaches
  | .setPlaceholderType placeholderType =>
      ∀ number, (caching.monthHeads.find? number).isSome →
        caching.calculator.monthHeadForSection number =
          (withPlaceholderType placeholderType caching.calculator).monthHeadForSection number
  | _ => True

theorem Coherent.setFirstWeekday {firstWeekday : ℤ} {range : 1 ≤ firstWeekday ∧ firstWeekday ≤ 7}
    (coherent : caching.Coherent)
    (keeps : caching.KeepsHeads (.setFirstWeekday firstWeekday range)) :
    (caching.setFirstWeekday firstWeekday range).Coherent := by
  rw [CachingCalculator.setFirstWeekday]
  split
  case isTrue new =>
    rcases keeps with same | forgotten
    · exact absurd same new
    · rw [forgotten]
      refine ⟨?_, .empty, .empty, .empty, .empty⟩
      intro requested
      cases requested
  case isFalse => exact coherent

theorem Coherent.handle {event : Event} (coherent : caching.Coherent)
    (keeps : caching.KeepsHeads event) : (caching.handle event).Coherent := by
  cases event with
  | monthForSection number => exact (coherent.monthForSection number).2.2
  | monthHeadForSection number => exact (coherent.monthHeadForSection number).2.2
  | weekForSection number => exact (coherent.weekForSection number).2.2
  | numberOfRowsInMonth month => exact (coherent.numberOfRowsInMonth month).2.2
  | didReceiveMemoryWarning => exact coherent_clearCaches caching coherent.sections
  | requestBoundingDatesIfNecessary newMin newMax =>
      rw [CachingCalculator.handle, CachingCalculator.requestBoundingDatesIfNecessary]
      split
      · exact coherent_reloadSections _
      · exact coherent
  | reloadData newMin newMax => exact coherent_reloadData newMin newMax caching
  | setFirstWeekday firstWeekday range => exact coherent.setFirstWeekday keeps
  | setPlaceholderType placeholderType =>
      exact (coherent.setPlaceholderType_iff placeholderType).mpr keeps

/-- The calendar taking events. -/
def machine : Machine CachingCalculator Event where
  next caching event := some (caching.handle event)

/-- However long the calendar has been used, once its data is reloaded the lookups give what the
calculator finds by the settings of the moment, through every run that keeps the remembered heads;
and after such a run a new placeholder type is harmless to them exactly if it keeps the remembered
heads too. -/
theorem run_answersPlainly {newMin newMax : ℤ} {events : List Event} {after : CachingCalculator}
    (respects : machine.Respects KeepsHeads events (caching.reloadData newMin newMax))
    (execution : machine.run events (caching.reloadData newMin newMax) = some after) :
    after.AnswersPlainly ∧
      ∀ placeholderType, (after.setPlaceholderType placeholderType).AnswersPlainly ↔
        ∀ number, (after.monthHeads.find? number).isSome →
          after.calculator.monthHeadForSection number =
            (withPlaceholderType placeholderType after.calculator).monthHeadForSection number := by
  have kept : ∀ {before : CachingCalculator} {event : Event} {next : CachingCalculator},
      before.Coherent → before.KeepsHeads event → machine.next before event = some next →
        next.Coherent := by
    intro before event next coherent keeps step
    cases step
    exact coherent.handle keeps
  have coherent : after.Coherent :=
    Machine.run_guarded Coherent kept (coherent_reloadData newMin newMax caching) respects execution
  exact ⟨coherent.answersPlainly, coherent.answersPlainly_setPlaceholderType_iff⟩

/-- A page is looked up, forgotten and looked up again. -/
def lookUpEvents : List Event :=
  [.setPlaceholderType .none, .monthHeadForSection 7, .didReceiveMemoryWarning, .monthForSection 7,
    .setPlaceholderType .fillHeadTail, .weekForSection 30]

theorem lookUpEvents_answersPlainly :
    ∃ after, machine.run lookUpEvents ((loaded .unchanged).reloadData 0 86400) = some after ∧
      after.AnswersPlainly := by
  refine ⟨_, rfl, (@run_answersPlainly (loaded .unchanged) 0 86400 lookUpEvents _ ?_ rfl).1⟩
  have forgotten : ∀ number : ℤ, ¬ (MemoTable.empty.find? number : Option ℤ).isSome := by
    intro number found
    cases found
  refine .cons rfl (fun number found => absurd found (forgotten number)) ?_
  refine .cons rfl True.intro (.cons rfl True.intro (.cons rfl True.intro ?_))
  refine .cons rfl ?_ (.cons rfl True.intro True.intro)
  intro number _
  exact withPlaceholderType_monthHeadForSection (by decide) number

end CachingCalculator

end Celeste
