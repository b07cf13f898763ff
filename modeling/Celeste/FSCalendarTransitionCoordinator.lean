import Celeste.FSCalendarCalculator
import Celeste.Geometry
import Celeste.Library.Machine
import Mathlib.Tactic.Linarith
import Mathlib.Tactic.NormNum
import Mathlib.Tactic.Ring

/-!
# Between the month and the week

A pan over the calendar screen takes FSCalendar from its month to one of the weeks and back.  The
transition keeps a date in sight, moves the calendar's height with the finger, and is finished by an
animation, or reverted, by the way the finger was moving.
-/

namespace Celeste

/-! ## The calendar view -/

/-- The scope with the number `1 - scope`. -/
def FSCalendarScope.other : FSCalendarScope → FSCalendarScope
  | .month => .week
  | .week => .month

/-- `FSCalendarTransitionState`. -/
inductive FSCalendarTransitionState
  | idle
  | changing
  | finishing
  deriving DecidableEq

/-- `FSCalendarTransitionAttributes`; of the bounds it keeps the heights. -/
structure FSCalendarTransitionAttributes where
  sourceHeight : ℚ
  targetHeight : ℚ
  sourcePage : Option ℤ
  targetPage : Option ℤ
  focusedDate : Option ℤ
  targetScope : FSCalendarScope

/-- `revert`. -/
def FSCalendarTransitionAttributes.revert (attributes : FSCalendarTransitionAttributes) :
    FSCalendarTransitionAttributes :=
  { attributes with
    sourceHeight := attributes.targetHeight
    targetHeight := attributes.sourceHeight
    sourcePage := attributes.targetPage
    targetPage := attributes.sourcePage
    targetScope := attributes.targetScope.other }

/-- `FSCalendar`, its transition coordinator, its collection view, and the height the screen gives
it. -/
structure FSCalendar where
  calculator : FSCalendarCalculator
  cachedMonthHeight : ℚ
  today : ℤ
  scope : FSCalendarScope
  currentPage : Option ℤ
  state : FSCalendarTransitionState
  transitionAttributes : Option FSCalendarTransitionAttributes
  calendarHeight : ℚ
  displayedItems : List IndexPath
  indexPathsForSelectedItems : List IndexPath

namespace FSCalendar

variable (calendar : FSCalendar)

/-- `preferredHeaderHeight`, from the height of a standard page. -/
def preferredHeaderHeight : ℚ :=
  let headerHeight := 40 / 300 * calendar.cachedMonthHeight
  headerHeight - (headerHeight - 40) / 2

/-- `preferredWeekdayHeight`. -/
def preferredWeekdayHeight : ℚ :=
  25 / 300 * calendar.cachedMonthHeight

/-- `preferredRowHeight`. -/
def preferredRowHeight : ℚ :=
  (calendar.cachedMonthHeight - calendar.preferredHeaderHeight - calendar.preferredWeekdayHeight -
    5 * 2) / 6

/-- The height of `boundingRectForScope:page:`; a week's is that of `sizeThatFits:scope:`. -/
def boundingHeight : FSCalendarScope → ℚ
  | .month => calendar.cachedMonthHeight
  | .week =>
      calendar.preferredWeekdayHeight + calendar.preferredHeaderHeight +
        calendar.preferredRowHeight + (5 + 5)

/-- `representingScope`. -/
def representingScope : FSCalendarScope :=
  match calendar.state with
  | .idle => calendar.scope
  | .changing | .finishing => .month

/-- The section of a date's index path, which is zero without one. -/
def sectionOf (scope : FSCalendarScope) (date : Option ℤ) : Nat :=
  FSCalendarCalculator.sectionNumber
    (date.bind (calendar.calculator.indexPathForDate scope .current))

/-- `reloadData` of the collection view, which deselects its items. -/
def reloadCollectionView : FSCalendar :=
  { calendar with
    displayedItems := []
    indexPathsForSelectedItems := [] }

/-! ## The transition -/

/-- The date a transition focuses on without a selected date or today: of a month its first day, of
a week a later one. -/
def lastCandidate : FSCalendarScope → Option ℤ
  | .week => calendar.currentPage
  | .month => calendar.currentPage.map (calendar.calculator.gregorian.dateByAddingDays 3)

/-- The dates a transition may focus on, in order. -/
def candidates (targetScope : FSCalendarScope) (selectedDates : List ℤ) : List (Option ℤ) :=
  (selectedDates.reverse ++ [calendar.today]).map some ++ [calendar.lastCandidate targetScope]

/-- The first candidate on the current page. -/
def focusedDate (targetScope : FSCalendarScope) (selectedDates : List ℤ) : Option ℤ :=
  ((calendar.candidates targetScope selectedDates).find? fun candidate =>
    calendar.sectionOf targetScope.other candidate =
      calendar.sectionOf targetScope.other calendar.currentPage).join

/-- The page with a date. -/
def pageFor : FSCalendarScope → ℤ → ℤ
  | .month, date => calendar.calculator.gregorian.fs_firstDayOfMonth date
  | .week, date => calendar.calculator.gregorian.fs_middleDayOfWeek date

/-- `createTransitionAttributesTargetingScope:`. -/
def createTransitionAttributes (targetScope : FSCalendarScope) (selectedDates : List ℤ) :
    FSCalendarTransitionAttributes where
  sourceHeight := calendar.calendarHeight
  targetHeight := calendar.boundingHeight targetScope
  sourcePage := calendar.currentPage
  targetPage := (calendar.focusedDate targetScope selectedDates).map (calendar.pageFor targetScope)
  focusedDate := calendar.focusedDate targetScope selectedDates
  targetScope := targetScope

/-- `prepareWeekToMonthTransition`. -/
def prepareWeekToMonthTransition (attributes : FSCalendarTransitionAttributes) : FSCalendar :=
  { calendar with currentPage := attributes.targetPage }.reloadCollectionView

/-- `gestureRecognizerShouldBegin` of the screen, by the offset of its table and the velocity. -/
def gestureRecognizerShouldBegin (contentOffset contentInsetTop velocity : ℚ) : Bool :=
  if contentOffset ≤ -contentInsetTop then
    match calendar.scope with
    | .month => velocity < 0
    | .week => velocity > 0
  else false

/-- `scopeTransitionDidBegin:`. -/
def scopeTransitionDidBegin (selectedDates : List ℤ) (velocity : ℚ) : FSCalendar :=
  if calendar.state ≠ .idle then calendar
  else if calendar.scope = .month ∧ 0 ≤ velocity then calendar
  else if calendar.scope = .week ∧ velocity ≤ 0 then calendar
  else
    let attributes := calendar.createTransitionAttributes calendar.scope.other selectedDates
    let changing :=
      { calendar with
        state := .changing
        transitionAttributes := some attributes }
    if attributes.targetScope = .month then changing.prepareWeekToMonthTransition attributes
    else changing

/-- The progress of a pan. -/
def progress (attributes : FSCalendarTransitionAttributes) (translation : ℚ) : ℚ :=
  let maxTranslation := |attributes.targetHeight - attributes.sourceHeight|
  max 0 (min maxTranslation |translation|) / maxTranslation

/-- `scopeTransitionDidUpdate:`; `boundingRectWillChange` has the screen set the height. -/
def scopeTransitionDidUpdate (translation : ℚ) : FSCalendar :=
  match calendar.state, calendar.transitionAttributes with
  | .changing, some attributes =>
      { calendar with
        calendarHeight := attributes.sourceHeight -
          (attributes.sourceHeight - attributes.targetHeight) * progress attributes translation }
  | _, _ => calendar

/-- `performTransition:`, animated; the animation sets the height at once. -/
def performTransition (attributes : FSCalendarTransitionAttributes) : FSCalendar :=
  { calendar with
    scope := attributes.targetScope
    currentPage :=
      if attributes.targetScope = .week then attributes.targetPage else calendar.currentPage
    transitionAttributes := some attributes
    calendarHeight := attributes.targetHeight }

/-- The translation that decides a pan's end. -/
def clampedTranslation (attributes : FSCalendarTransitionAttributes) (translation : ℚ) : ℚ :=
  min (attributes.targetHeight - attributes.sourceHeight) (max 0 translation)

/-- `scopeTransitionDidEnd:`. -/
def scopeTransitionDidEnd (translation velocity : ℚ) : FSCalendar :=
  match calendar.state, calendar.transitionAttributes with
  | .changing, some attributes =>
      let finishing := { calendar with state := .finishing }
      if velocity * clampedTranslation attributes translation < 0 then
        finishing.performTransition attributes.revert
      else finishing.performTransition attributes
  | _, _ => calendar

/-- `performTransitionCompletionAnimated:`. -/
def performTransitionCompletion (attributes : FSCalendarTransitionAttributes) : FSCalendar :=
  let completed :=
    match attributes.targetScope with
    | .week => calendar.reloadCollectionView
    | .month => calendar
  { completed with
    state := .idle
    transitionAttributes := none }

/-- The page of a section. -/
def pageForSection (number : ℤ) : ℤ :=
  match calendar.scope with
  | .month => calendar.calculator.monthForSection number
  | .week => calendar.calculator.weekForSection number

/-- `isDateInDifferentPage:`. -/
def isDateInDifferentPage (date : ℤ) : Bool :=
  let gregorian := calendar.calculator.gregorian
  match calendar.currentPage, calendar.scope with
  | none, _ => true
  | some currentPage, .month => gregorian.month date ≠ gregorian.month currentPage
  | some currentPage, .week =>
      gregorian.timeZone.day date - calendar.calculator.daysIntoWeek date ≠
        gregorian.timeZone.day currentPage - calendar.calculator.daysIntoWeek currentPage

/-- `scrollViewWillEndDragging:`, towards a section. -/
def scrollViewWillEndDragging (number : Nat) : FSCalendar :=
  let targetPage := calendar.pageForSection number
  if calendar.isDateInDifferentPage targetPage then { calendar with currentPage := some targetPage }
  else calendar

/-- What the pans and the animation report; dragging the pages excludes the other pan. -/
inductive Event
  | panBegan (contentOffset contentInsetTop velocity : ℚ)
  | panChanged (translation : ℚ)
  | panEnded (translation velocity : ℚ)
  | animationCompleted
  | willEndDragging (number : Nat)

/-- `handleScopeGesture:` for a pan that should begin, and the end of the animation. -/
def nextScope (selectedDates : List ℤ) : Event → Option FSCalendar
  | .panBegan contentOffset contentInsetTop velocity =>
      if calendar.gestureRecognizerShouldBegin contentOffset contentInsetTop velocity then
        some (calendar.scopeTransitionDidBegin selectedDates velocity)
      else none
  | .panChanged translation => some (calendar.scopeTransitionDidUpdate translation)
  | .panEnded translation velocity => some (calendar.scopeTransitionDidEnd translation velocity)
  | .animationCompleted =>
      match calendar.state, calendar.transitionAttributes with
      | .finishing, some attributes => some (calendar.performTransitionCompletion attributes)
      | _, _ => none
  | .willEndDragging number =>
      if calendar.state = .idle then some (calendar.scrollViewWillEndDragging number) else none

/-- The calendar among events, each with the dates selected then. -/
def machine : Machine FSCalendar (List ℤ × Event) where
  next calendar event := calendar.nextScope event.1 event.2

/-- The calendar after its first layout; the screen gives it a height by the device. -/
def loaded (isPad : Bool) (calculator : FSCalendarCalculator) (today : ℤ) : FSCalendar where
  calculator := calculator
  cachedMonthHeight := if isPad then 420 else 320
  today := today
  scope := .month
  currentPage := some (calculator.gregorian.fs_firstDayOfMonth today)
  state := .idle
  transitionAttributes := none
  calendarHeight := if isPad then 420 else 320
  displayedItems := []
  indexPathsForSelectedItems := []

/-! ## The height -/

/-- The attributes lead from the scope to the other. -/
structure Leads (attributes : FSCalendarTransitionAttributes) : Prop where
  scope : attributes.targetScope = calendar.scope.other
  source : attributes.sourceHeight = calendar.boundingHeight calendar.scope
  target : attributes.targetHeight = calendar.boundingHeight calendar.scope.other

/-- At rest the calendar has the height of its scope; during a transition the height is between
those of the scopes, and the transition's attributes are there. -/
structure Coordinated : Prop where
  taller : calendar.boundingHeight .week < calendar.boundingHeight .month
  range : calendar.boundingHeight .week ≤ calendar.calendarHeight ∧
    calendar.calendarHeight ≤ calendar.boundingHeight .month
  idle : calendar.state = .idle → calendar.calendarHeight = calendar.boundingHeight calendar.scope
  changing : calendar.state = .changing →
    ∃ attributes, calendar.transitionAttributes = some attributes ∧ calendar.Leads attributes
  finishing : calendar.state = .finishing →
    ∃ attributes, calendar.transitionAttributes = some attributes ∧
      attributes.targetScope = calendar.scope ∧
        calendar.calendarHeight = calendar.boundingHeight calendar.scope

variable {calendar}

@[simp]
theorem other_other (scope : FSCalendarScope) : scope.other.other = scope := by
  cases scope with
  | month => rfl
  | week => rfl

theorem Coordinated.loaded (isPad : Bool) (calculator : FSCalendarCalculator) (today : ℤ) :
    (loaded isPad calculator today).Coordinated := by
  have taller : (FSCalendar.loaded isPad calculator today).boundingHeight .week <
      (FSCalendar.loaded isPad calculator today).boundingHeight .month := by
    cases isPad with
    | false =>
        norm_num [boundingHeight, preferredWeekdayHeight, preferredHeaderHeight,
          preferredRowHeight, FSCalendar.loaded]
    | true =>
        norm_num [boundingHeight, preferredWeekdayHeight, preferredHeaderHeight,
          preferredRowHeight, FSCalendar.loaded]
  refine ⟨taller, ⟨taller.le, le_rfl⟩, fun _ => rfl, ?_, ?_⟩
  · intro changing
    cases changing
  · intro finishing
    cases finishing

theorem boundingHeight_congr {other : FSCalendar}
    (same : other.cachedMonthHeight = calendar.cachedMonthHeight) :
    other.boundingHeight = calendar.boundingHeight := by
  funext scope
  cases scope with
  | month => exact same
  | week =>
      simp only [boundingHeight, preferredWeekdayHeight, preferredHeaderHeight, preferredRowHeight,
        same]

theorem Coordinated.congr (coordinated : calendar.Coordinated) {other : FSCalendar}
    (same_height : other.cachedMonthHeight = calendar.cachedMonthHeight)
    (same_scope : other.scope = calendar.scope) (same_state : other.state = calendar.state)
    (same_attributes : other.transitionAttributes = calendar.transitionAttributes)
    (same_calendarHeight : other.calendarHeight = calendar.calendarHeight) : other.Coordinated := by
  have heights := boundingHeight_congr same_height
  refine ⟨?_, ?_, ?_, ?_, ?_⟩
  · rw [heights]
    exact coordinated.taller
  · rw [heights, same_calendarHeight]
    exact coordinated.range
  · rw [heights, same_state, same_scope, same_calendarHeight]
    exact coordinated.idle
  · rw [same_state, same_attributes]
    intro changing
    obtain ⟨attributes, found, leads⟩ := coordinated.changing changing
    refine ⟨attributes, found, ?_, ?_, ?_⟩
    · rw [same_scope, leads.scope]
    · rw [heights, same_scope, leads.source]
    · rw [heights, same_scope, leads.target]
  · rw [heights, same_state, same_attributes, same_scope, same_calendarHeight]
    exact coordinated.finishing

theorem Coordinated.changes (coordinated : calendar.Coordinated) {changing : FSCalendar}
    {attributes : FSCalendarTransitionAttributes}
    (same_height : changing.cachedMonthHeight = calendar.cachedMonthHeight)
    (same_scope : changing.scope = calendar.scope)
    (state : changing.state = .changing)
    (found : changing.transitionAttributes = some attributes)
    (leads : calendar.Leads attributes)
    (range : calendar.boundingHeight .week ≤ changing.calendarHeight ∧
      changing.calendarHeight ≤ calendar.boundingHeight .month) : changing.Coordinated := by
  have heights := boundingHeight_congr same_height
  refine ⟨by rw [heights]; exact coordinated.taller, by rwa [heights], ?_, ?_, ?_⟩
  · intro idle
    cases state.symm.trans idle
  · intro _
    refine ⟨attributes, found, ?_, ?_, ?_⟩
    · rw [same_scope, leads.scope]
    · rw [heights, same_scope, leads.source]
    · rw [heights, same_scope, leads.target]
  · intro finishing
    cases state.symm.trans finishing

variable (calendar) in
/-- The calendar has begun to change its scope. -/
structure Begins (selectedDates : List ℤ) (velocity : ℚ) (begun : FSCalendar) : Prop where
  idle : calendar.state = .idle
  velocity : calendar.scope = .month ∧ velocity < 0 ∨ calendar.scope = .week ∧ 0 < velocity
  calculator : begun.calculator = calendar.calculator
  cachedMonthHeight : begun.cachedMonthHeight = calendar.cachedMonthHeight
  today : begun.today = calendar.today
  scope : begun.scope = calendar.scope
  state : begun.state = .changing
  attributes : begun.transitionAttributes =
    some (calendar.createTransitionAttributes calendar.scope.other selectedDates)
  currentPage : begun.currentPage =
    if calendar.scope = .week then
      (calendar.createTransitionAttributes calendar.scope.other selectedDates).targetPage
    else calendar.currentPage
  calendarHeight : begun.calendarHeight = calendar.calendarHeight

/-- A pan that finds the calendar at rest and moves towards the other scope begins a change. -/
theorem begins_of_idle (selectedDates : List ℤ) {velocity : ℚ} (idle : calendar.state = .idle)
    (towards : calendar.scope = .month ∧ velocity < 0 ∨ calendar.scope = .week ∧ 0 < velocity) :
    calendar.Begins selectedDates velocity
      (calendar.scopeTransitionDidBegin selectedDates velocity) := by
  rw [FSCalendar.scopeTransitionDidBegin, if_neg (not_not.mpr idle)]
  rcases towards with ⟨scope, up⟩ | ⟨scope, down⟩
  · rw [if_neg (fun down => absurd down.2 (not_le.mpr up)),
      if_neg (by simp [scope])]
    simp only [scope]
    exact ⟨idle, .inl ⟨scope, up⟩, rfl, rfl, rfl, scope.symm, rfl, by rw [scope]; rfl,
      by rw [scope]; rfl, rfl⟩
  · rw [if_neg (by simp [scope]),
      if_neg (fun up => absurd up.2 (not_le.mpr down))]
    simp only [scope]
    exact ⟨idle, .inr ⟨scope, down⟩, rfl, rfl, rfl, scope.symm, rfl, by rw [scope]; rfl,
      by rw [scope]; rfl, rfl⟩

theorem scopeTransitionDidBegin_cases (selectedDates : List ℤ) (velocity : ℚ) :
    calendar.scopeTransitionDidBegin selectedDates velocity = calendar ∨
      calendar.Begins selectedDates velocity
        (calendar.scopeTransitionDidBegin selectedDates velocity) := by
  by_cases begins : calendar.state = .idle ∧
      (calendar.scope = .month ∧ velocity < 0 ∨ calendar.scope = .week ∧ 0 < velocity)
  · exact .inr (begins_of_idle selectedDates begins.1 begins.2)
  · refine .inl ?_
    rw [FSCalendar.scopeTransitionDidBegin]
    split
    case isTrue => rfl
    case isFalse idle =>
      split
      case isTrue => rfl
      case isFalse notDown =>
        split
        case isTrue => rfl
        case isFalse notUp =>
          refine absurd ⟨not_not.mp idle, ?_⟩ begins
          cases scope : calendar.scope with
          | month => exact .inl ⟨rfl, not_le.mp fun down => notDown ⟨scope, down⟩⟩
          | week => exact .inr ⟨rfl, not_le.mp fun up => notUp ⟨scope, up⟩⟩

theorem Coordinated.scopeTransitionDidBegin (coordinated : calendar.Coordinated)
    (selectedDates : List ℤ) (velocity : ℚ) :
    (calendar.scopeTransitionDidBegin selectedDates velocity).Coordinated := by
  rcases scopeTransitionDidBegin_cases selectedDates velocity with same | begins
  · rwa [same]
  · have source := coordinated.idle begins.idle
    refine coordinated.changes begins.cachedMonthHeight begins.scope begins.state begins.attributes
      ⟨rfl, source, rfl⟩ ?_
    rw [begins.calendarHeight]
    exact coordinated.range

theorem progress_range (attributes : FSCalendarTransitionAttributes) (translation : ℚ) :
    0 ≤ progress attributes translation ∧ progress attributes translation ≤ 1 := by
  have way : 0 ≤ |attributes.targetHeight - attributes.sourceHeight| := abs_nonneg _
  have within : max 0 (min |attributes.targetHeight - attributes.sourceHeight| |translation|) ≤
      |attributes.targetHeight - attributes.sourceHeight| := max_le way (min_le_left _ _)
  simp only [progress]
  exact ⟨div_nonneg (le_max_left _ _) way, div_le_one_of_le₀ within way⟩

theorem between_heights {source target low high part : ℚ} (start : 0 ≤ part) (bound : part ≤ 1)
    (source_range : low ≤ source ∧ source ≤ high) (target_range : low ≤ target ∧ target ≤ high) :
    low ≤ source - (source - target) * part ∧ source - (source - target) * part ≤ high := by
  have first : source - (source - target) * part = (1 - part) * source + part * target := by ring
  rw [first]
  constructor
  · nlinarith [mul_nonneg (sub_nonneg.mpr bound) (sub_nonneg.mpr source_range.1),
      mul_nonneg start (sub_nonneg.mpr target_range.1)]
  · nlinarith [mul_nonneg (sub_nonneg.mpr bound) (sub_nonneg.mpr source_range.2),
      mul_nonneg start (sub_nonneg.mpr target_range.2)]

theorem Coordinated.boundingHeight_range (coordinated : calendar.Coordinated)
    (scope : FSCalendarScope) :
    calendar.boundingHeight .week ≤ calendar.boundingHeight scope ∧
      calendar.boundingHeight scope ≤ calendar.boundingHeight .month := by
  cases scope with
  | month => exact ⟨coordinated.taller.le, le_rfl⟩
  | week => exact ⟨le_rfl, coordinated.taller.le⟩

theorem Coordinated.scopeTransitionDidUpdate (coordinated : calendar.Coordinated)
    (translation : ℚ) : (calendar.scopeTransitionDidUpdate translation).Coordinated := by
  rw [FSCalendar.scopeTransitionDidUpdate]
  split
  case h_1 attributes changing found =>
    obtain ⟨same, found', leads⟩ := coordinated.changing changing
    rw [found] at found'
    cases found'
    have part := progress_range attributes translation
    refine coordinated.changes rfl rfl changing found leads ?_
    refine between_heights part.1 part.2 ?_ ?_
    · rw [leads.source]
      exact coordinated.boundingHeight_range calendar.scope
    · rw [leads.target]
      exact coordinated.boundingHeight_range calendar.scope.other
  case h_2 => exact coordinated

/-- A transition that is finished has brought the calendar to the height of its scope. -/
theorem Coordinated.performTransition (coordinated : calendar.Coordinated)
    {attributes : FSCalendarTransitionAttributes}
    (target : attributes.targetHeight = calendar.boundingHeight attributes.targetScope) :
    ({ calendar with state := .finishing }.performTransition attributes).Coordinated := by
  have heights :
      ({ calendar with state := .finishing }.performTransition attributes).boundingHeight =
        calendar.boundingHeight := boundingHeight_congr rfl
  refine ⟨by rw [heights]; exact coordinated.taller, ?_, ?_, ?_, ?_⟩
  · rw [heights]
    change calendar.boundingHeight .week ≤ attributes.targetHeight ∧
      attributes.targetHeight ≤ calendar.boundingHeight .month
    rw [target]
    exact coordinated.boundingHeight_range attributes.targetScope
  · intro idle
    cases idle
  · intro changing
    cases changing
  · intro _
    refine ⟨attributes, rfl, rfl, ?_⟩
    rw [heights]
    exact target

theorem Leads.revert_target {attributes : FSCalendarTransitionAttributes}
    (leads : calendar.Leads attributes) :
    attributes.revert.targetScope = calendar.scope ∧
      attributes.revert.targetHeight = calendar.boundingHeight calendar.scope := by
  constructor
  · rw [FSCalendarTransitionAttributes.revert, leads.scope, other_other]
  · exact leads.source

theorem Coordinated.scopeTransitionDidEnd (coordinated : calendar.Coordinated)
    (translation velocity : ℚ) :
    (calendar.scopeTransitionDidEnd translation velocity).Coordinated := by
  rw [FSCalendar.scopeTransitionDidEnd]
  split
  case h_1 attributes changing found =>
    obtain ⟨same, found', leads⟩ := coordinated.changing changing
    rw [found] at found'
    cases found'
    simp only
    split
    · apply coordinated.performTransition
      rw [leads.revert_target.1]
      exact leads.revert_target.2
    · apply coordinated.performTransition
      rw [leads.scope]
      exact leads.target
  case h_2 => exact coordinated

theorem Coordinated.performTransitionCompletion (coordinated : calendar.Coordinated)
    (finishing : calendar.state = .finishing) (attributes : FSCalendarTransitionAttributes) :
    (calendar.performTransitionCompletion attributes).Coordinated := by
  obtain ⟨-, -, -, rest⟩ := coordinated.finishing finishing
  rw [FSCalendar.performTransitionCompletion]
  cases attributes.targetScope with
  | month =>
      refine ⟨coordinated.taller, coordinated.range, fun _ => rest, ?_, ?_⟩
      · intro changing
        cases changing
      · intro finishing
        cases finishing
  | week =>
      refine ⟨coordinated.taller, coordinated.range, fun _ => rest, ?_, ?_⟩
      · intro changing
        cases changing
      · intro finishing
        cases finishing

theorem Coordinated.nextScope (coordinated : calendar.Coordinated) {selectedDates : List ℤ}
    {event : Event} {after : FSCalendar}
    (step : calendar.nextScope selectedDates event = some after) : after.Coordinated := by
  cases event with
  | panBegan contentOffset contentInsetTop velocity =>
      obtain ⟨-, began⟩ := Option.ite_none_right_eq_some.mp step
      cases began
      exact coordinated.scopeTransitionDidBegin selectedDates velocity
  | panChanged translation =>
      cases step
      exact coordinated.scopeTransitionDidUpdate translation
  | panEnded translation velocity =>
      cases step
      exact coordinated.scopeTransitionDidEnd translation velocity
  | animationCompleted =>
      rw [FSCalendar.nextScope] at step
      split at step
      case h_1 attributes finishing found =>
        cases step
        exact coordinated.performTransitionCompletion finishing attributes
      case h_2 => cases step
  | willEndDragging number =>
      obtain ⟨-, dragged⟩ := Option.ite_none_right_eq_some.mp step
      cases dragged
      rw [scrollViewWillEndDragging]
      split
      · exact coordinated.congr rfl rfl rfl rfl rfl
      · exact coordinated

/-- In every run of pans and animations, in any order, the calendar has the height of its scope when
it rests, and a height between those of the scopes otherwise; a transition has its attributes. -/
theorem run_coordinated {isPad : Bool} {calculator : FSCalendarCalculator} {today : ℤ}
    {events : List (List ℤ × Event)}
    (execution : machine.run events (loaded isPad calculator today) = some calendar) :
    calendar.Coordinated :=
  Machine.run_invariant Coordinated (fun coordinated step => coordinated.nextScope step)
    (.loaded isPad calculator today) execution

/-! ## The cells -/

variable (calendar) in
/-- The collection view has reloaded, or has its cells and selection for the same scope as
before. -/
def ReloadsOrKeeps (after : FSCalendar) : Prop :=
  after.displayedItems = [] ∨
    after.displayedItems = calendar.displayedItems ∧
      after.indexPathsForSelectedItems = calendar.indexPathsForSelectedItems ∧
        after.representingScope = calendar.representingScope

theorem reloadsOrKeeps_scopeTransitionDidBegin (selectedDates : List ℤ) (velocity : ℚ) :
    calendar.ReloadsOrKeeps (calendar.scopeTransitionDidBegin selectedDates velocity) := by
  rw [scopeTransitionDidBegin]
  split
  · exact .inr ⟨rfl, rfl, rfl⟩
  · next idle =>
    split
    · exact .inr ⟨rfl, rfl, rfl⟩
    · split
      · exact .inr ⟨rfl, rfl, rfl⟩
      · simp only
        split
        case isTrue month => exact .inl rfl
        case isFalse week =>
          refine .inr ⟨rfl, rfl, ?_⟩
          have month : calendar.scope = .month := by
            cases scope : calendar.scope with
            | month => rfl
            | week => exact absurd (congrArg FSCalendarScope.other scope) week
          rw [representingScope, representingScope, not_not.mp idle, month]

theorem Coordinated.reloadsOrKeeps (coordinated : calendar.Coordinated)
    {selectedDates : List ℤ} {event : Event} {after : FSCalendar}
    (step : calendar.nextScope selectedDates event = some after) :
    calendar.ReloadsOrKeeps after := by
  cases event with
  | panBegan contentOffset contentInsetTop velocity =>
      obtain ⟨-, began⟩ := Option.ite_none_right_eq_some.mp step
      cases began
      exact reloadsOrKeeps_scopeTransitionDidBegin selectedDates velocity
  | panChanged translation =>
      cases step
      rw [FSCalendar.scopeTransitionDidUpdate]
      split
      · exact .inr ⟨rfl, rfl, rfl⟩
      · exact .inr ⟨rfl, rfl, rfl⟩
  | panEnded translation velocity =>
      cases step
      rw [FSCalendar.scopeTransitionDidEnd]
      split
      case h_1 changing found =>
        simp only
        split
        · refine .inr ⟨rfl, rfl, ?_⟩
          rw [representingScope, representingScope, changing]
          rfl
        · refine .inr ⟨rfl, rfl, ?_⟩
          rw [representingScope, representingScope, changing]
          rfl
      case h_2 => exact .inr ⟨rfl, rfl, rfl⟩
  | animationCompleted =>
      rw [FSCalendar.nextScope] at step
      split at step
      case h_1 attributes finishing found =>
        cases step
        obtain ⟨same, found', target, -⟩ := coordinated.finishing finishing
        rw [found] at found'
        cases found'
        rw [FSCalendar.performTransitionCompletion]
        cases scope : attributes.targetScope with
        | week => exact .inl rfl
        | month =>
            refine .inr ⟨rfl, rfl, ?_⟩
            rw [representingScope, representingScope, finishing]
            exact target.symm.trans scope
      case h_2 => cases step
  | willEndDragging number =>
      obtain ⟨-, dragged⟩ := Option.ite_none_right_eq_some.mp step
      cases dragged
      rw [FSCalendar.scrollViewWillEndDragging]
      split
      · exact .inr ⟨rfl, rfl, rfl⟩
      · exact .inr ⟨rfl, rfl, rfl⟩

/-! ## The focused date -/

/-- An early date that can be a page: in the first half of its week where the page is a week. -/
structure IsPage (calculator : FSCalendarCalculator) (scope : FSCalendarScope) (date : ℤ) :
    Prop where
  early : calculator.gregorian.timeZone.Early date
  half : scope = .week → calculator.daysIntoWeek date ≤ 3

theorem sectionOf_month (regular : calendar.calculator.Regular)
    (unrepeated : calendar.calculator.gregorian.timeZone.Unrepeated) (date : ℤ) :
    calendar.sectionOf .month (some date) =
      (calendar.calculator.gregorian.month date -
        calendar.calculator.gregorian.month calendar.calculator.minimumDate).toNat :=
  regular.sectionNumber_month unrepeated date

theorem sectionOf_week (regular : calendar.calculator.Regular)
    (unrepeated : calendar.calculator.gregorian.timeZone.Unrepeated) {date : ℤ}
    (early : calendar.calculator.gregorian.timeZone.Early date) :
    calendar.sectionOf .week (some date) =
      ((calendar.calculator.gregorian.timeZone.day date -
        calendar.calculator.firstWeekDay) / 7).toNat :=
  regular.sectionNumber_week unrepeated early

variable (calendar) in
/-- The attributes keep a date in sight: it is on the page they come from and on the one they lead
to, and it is a selected date if one is on the page they come from. -/
structure Focuses (selectedDates : List ℤ) (attributes : FSCalendarTransitionAttributes) :
    Prop where
  date : ∃ date, attributes.focusedDate = some date ∧
    calendar.calculator.gregorian.timeZone.Early date ∧
    calendar.sectionOf attributes.targetScope.other (some date) =
      calendar.sectionOf attributes.targetScope.other attributes.sourcePage ∧
    calendar.sectionOf attributes.targetScope (some date) =
      calendar.sectionOf attributes.targetScope attributes.targetPage ∧
    ((∃ selected ∈ selectedDates, calendar.sectionOf attributes.targetScope.other (some selected) =
        calendar.sectionOf attributes.targetScope.other attributes.sourcePage) →
      date ∈ selectedDates)
  page : ∃ page, attributes.targetPage = some page ∧
    IsPage calendar.calculator attributes.targetScope page

theorem lastCandidate_onPage (regular : calendar.calculator.Regular)
    (unrepeated : calendar.calculator.gregorian.timeZone.Unrepeated) {targetScope : FSCalendarScope}
    {page : ℤ} (current : calendar.currentPage = some page)
    (isPage : IsPage calendar.calculator targetScope.other page) :
    ∃ date, calendar.lastCandidate targetScope = some date ∧
      calendar.calculator.gregorian.timeZone.Early date ∧
      calendar.sectionOf targetScope.other (some date) =
        calendar.sectionOf targetScope.other calendar.currentPage := by
  rw [current]
  cases targetScope with
  | week => exact ⟨page, current, isPage.early, rfl⟩
  | month =>
      have half := isPage.half rfl
      have moved := TimeZone.day_addDays_of_early isPage.early
        (regular.occurs (calendar.calculator.gregorian.timeZone.day page + 3))
      have early := TimeZone.early_addDays isPage.early
        (regular.occurs (calendar.calculator.gregorian.timeZone.day page + 3))
      rw [← NSCalendar.dateByAddingDays] at moved early
      refine ⟨_, congrArg (Option.map _) current, early, ?_⟩
      change calendar.sectionOf .week _ = calendar.sectionOf .week _
      rw [sectionOf_week regular unrepeated early, sectionOf_week regular unrepeated isPage.early,
        moved]
      rw [FSCalendarCalculator.daysIntoWeek, NSCalendar.weekday] at half
      rw [FSCalendarCalculator.firstWeekDay, FSCalendarCalculator.daysIntoWeek, NSCalendar.weekday]
      omega

theorem pageFor_spec (regular : calendar.calculator.Regular)
    (unrepeated : calendar.calculator.gregorian.timeZone.Unrepeated) (targetScope : FSCalendarScope)
    {date : ℤ} (early : calendar.calculator.gregorian.timeZone.Early date) :
    IsPage calendar.calculator targetScope (calendar.pageFor targetScope date) ∧
      calendar.sectionOf targetScope (some date) =
        calendar.sectionOf targetScope (some (calendar.pageFor targetScope date)) := by
  cases targetScope with
  | month =>
      have first := regular.fs_firstDayOfMonth_spec early
      have month := regular.month_fs_firstDayOfMonth date
      refine ⟨⟨first.2, fun week => nomatch week⟩, ?_⟩
      rw [pageFor, sectionOf_month regular unrepeated, sectionOf_month regular unrepeated, month]
  | week =>
      have middle := regular.fs_middleDayOfWeek_spec early
      have place : calendar.calculator.daysIntoWeek
          (calendar.calculator.gregorian.fs_middleDayOfWeek date) = 3 := by
        rw [FSCalendarCalculator.daysIntoWeek, NSCalendar.weekday, middle.1,
          FSCalendarCalculator.daysIntoWeek, NSCalendar.weekday]
        omega
      refine ⟨⟨middle.2, fun _ => place.le⟩, ?_⟩
      rw [pageFor, sectionOf_week regular unrepeated early,
        sectionOf_week regular unrepeated middle.2, middle.1,
        FSCalendarCalculator.firstWeekDay, FSCalendarCalculator.daysIntoWeek,
        FSCalendarCalculator.daysIntoWeek, NSCalendar.weekday, NSCalendar.weekday]
      omega

/-- A found candidate is a date on the page, and a selected one if one is on the page. -/
theorem focusedDate_spec (regular : calendar.calculator.Regular)
    (unrepeated : calendar.calculator.gregorian.timeZone.Unrepeated)
    {targetScope : FSCalendarScope} {selectedDates : List ℤ} {page : ℤ}
    (current : calendar.currentPage = some page)
    (isPage : IsPage calendar.calculator targetScope.other page)
    (today : calendar.calculator.gregorian.timeZone.Early calendar.today)
    (selected : ∀ date ∈ selectedDates, calendar.calculator.gregorian.timeZone.Early date) :
    ∃ date, calendar.focusedDate targetScope selectedDates = some date ∧
      calendar.calculator.gregorian.timeZone.Early date ∧
      calendar.sectionOf targetScope.other (some date) =
        calendar.sectionOf targetScope.other calendar.currentPage ∧
      ((∃ other ∈ selectedDates, calendar.sectionOf targetScope.other (some other) =
          calendar.sectionOf targetScope.other calendar.currentPage) → date ∈ selectedDates) := by
  obtain ⟨last, last_eq, last_early, last_onPage⟩ :=
    lastCandidate_onPage regular unrepeated current isPage
  have candidates_eq : calendar.candidates targetScope selectedDates =
      (selectedDates.reverse.map some) ++ [some calendar.today, some last] := by
    rw [candidates, List.map_append, List.append_assoc, last_eq]
    rfl
  rw [focusedDate, candidates_eq, List.find?_append]
  cases first : (selectedDates.reverse.map some).find? fun candidate =>
      decide (calendar.sectionOf targetScope.other candidate =
        calendar.sectionOf targetScope.other calendar.currentPage) with
  | some candidate =>
      obtain ⟨date, member, rfl⟩ := List.mem_map.mp (List.mem_of_find?_eq_some first)
      rw [List.mem_reverse] at member
      have onPage := List.find?_some first
      exact ⟨date, rfl, selected date member, of_decide_eq_true onPage, fun _ => member⟩
  | none =>
      have unselected : ¬ ∃ other ∈ selectedDates,
          calendar.sectionOf targetScope.other (some other) =
            calendar.sectionOf targetScope.other calendar.currentPage := by
        rintro ⟨other, member, onPage⟩
        have absent := List.find?_eq_none.mp first (some other)
          (List.mem_map_of_mem (List.mem_reverse.mpr member))
        exact absent (decide_eq_true onPage)
      simp only [Option.none_or, List.find?_cons]
      split
      case h_1 onPage =>
        exact ⟨calendar.today, rfl, today, of_decide_eq_true onPage,
          fun exists_selected => absurd exists_selected unselected⟩
      case h_2 =>
        rw [decide_eq_true last_onPage]
        exact ⟨last, rfl, last_early, last_onPage,
          fun exists_selected => absurd exists_selected unselected⟩

theorem focuses_createTransitionAttributes (regular : calendar.calculator.Regular)
    (unrepeated : calendar.calculator.gregorian.timeZone.Unrepeated)
    {targetScope : FSCalendarScope} {selectedDates : List ℤ} {page : ℤ}
    (current : calendar.currentPage = some page)
    (isPage : IsPage calendar.calculator targetScope.other page)
    (today : calendar.calculator.gregorian.timeZone.Early calendar.today)
    (selected : ∀ date ∈ selectedDates, calendar.calculator.gregorian.timeZone.Early date) :
    calendar.Focuses selectedDates
      (calendar.createTransitionAttributes targetScope selectedDates) := by
  obtain ⟨date, focused, early, onPage, chosen⟩ :=
    focusedDate_spec regular unrepeated current isPage today selected
  have page_spec := pageFor_spec regular unrepeated targetScope early
  have target : (calendar.createTransitionAttributes targetScope selectedDates).targetPage =
      some (calendar.pageFor targetScope date) := by
    rw [createTransitionAttributes, focused]
    rfl
  refine ⟨⟨date, focused, early, onPage, ?_, chosen⟩, ⟨_, target, page_spec.1⟩⟩
  rw [target]
  exact page_spec.2

/-- The current page, which is a month while the calendar changes; the pages of a transition. -/
structure Paged (calendar : FSCalendar) : Prop where
  regular : calendar.calculator.Regular
  unrepeated : calendar.calculator.gregorian.timeZone.Unrepeated
  today : calendar.calculator.gregorian.timeZone.Early calendar.today
  page : ∃ page, calendar.currentPage = some page ∧
    IsPage calendar.calculator (if calendar.state = .changing then .month else calendar.scope) page
  changing : ∀ attributes, calendar.state = .changing →
    calendar.transitionAttributes = some attributes →
      attributes.targetScope = calendar.scope.other ∧
      (∃ page, attributes.sourcePage = some page ∧
        IsPage calendar.calculator calendar.scope page) ∧
      ∃ page, attributes.targetPage = some page ∧
        IsPage calendar.calculator calendar.scope.other page

theorem Paged.loaded {isPad : Bool} {calculator : FSCalendarCalculator} {today : ℤ}
    (regular : calculator.Regular) (unrepeated : calculator.gregorian.timeZone.Unrepeated)
    (early : calculator.gregorian.timeZone.Early today) :
    (loaded isPad calculator today).Paged where
  regular := regular
  unrepeated := unrepeated
  today := early
  page :=
    ⟨_, rfl, (regular.fs_firstDayOfMonth_spec early).2, fun week => nomatch week⟩
  changing _ changing := nomatch changing

theorem Paged.of_page {after : FSCalendar} (paged : calendar.Paged)
    (calculator : after.calculator = calendar.calculator) (today : after.today = calendar.today)
    (resting : after.state ≠ .changing)
    (page : ∃ page, after.currentPage = some page ∧
      IsPage calendar.calculator after.scope page) : after.Paged := by
  refine ⟨calculator ▸ paged.regular, calculator ▸ paged.unrepeated, ?_, ?_, ?_⟩
  · rw [calculator, today]
    exact paged.today
  · rw [if_neg resting, calculator]
    exact page
  · intro attributes changing
    exact absurd changing resting

theorem Begins.paged (paged : calendar.Paged) {selectedDates : List ℤ} {velocity : ℚ}
    {begun : FSCalendar} (begins : calendar.Begins selectedDates velocity begun)
    (selected : ∀ date ∈ selectedDates, calendar.calculator.gregorian.timeZone.Early date) :
    begun.Paged := by
  obtain ⟨page, current, isPage⟩ := paged.page
  rw [if_neg (by rw [begins.idle]; decide)] at isPage
  have focuses : calendar.Focuses selectedDates
      (calendar.createTransitionAttributes calendar.scope.other selectedDates) :=
    focuses_createTransitionAttributes paged.regular paged.unrepeated current
      (by rwa [other_other]) paged.today selected
  obtain ⟨targetPage, target, target_isPage⟩ := focuses.page
  refine ⟨begins.calculator ▸ paged.regular, begins.calculator ▸ paged.unrepeated, ?_, ?_, ?_⟩
  · rw [begins.calculator, begins.today]
    exact paged.today
  · rw [begins.currentPage, begins.state, if_pos rfl, begins.calculator]
    cases scope : calendar.scope with
    | month => exact ⟨page, current, scope ▸ isPage⟩
    | week =>
        rw [scope] at target target_isPage
        exact ⟨targetPage, target, target_isPage⟩
  · intro attributes _ found
    rw [begins.attributes] at found
    cases found
    rw [begins.scope, begins.calculator]
    exact ⟨rfl, ⟨page, current, isPage⟩, ⟨targetPage, target, target_isPage⟩⟩

theorem Paged.scopeTransitionDidUpdate (paged : calendar.Paged) (translation : ℚ) :
    (calendar.scopeTransitionDidUpdate translation).Paged := by
  rw [FSCalendar.scopeTransitionDidUpdate]
  split
  · exact ⟨paged.regular, paged.unrepeated, paged.today, paged.page, paged.changing⟩
  · exact paged

/-- A transition to a week takes its page; one to a month has taken it before. -/
theorem Paged.performTransition (paged : calendar.Paged) (changing : calendar.state = .changing)
    {attributes : FSCalendarTransitionAttributes}
    (target : ∃ page, attributes.targetPage = some page ∧
      IsPage calendar.calculator attributes.targetScope page) :
    ({ calendar with state := .finishing }.performTransition attributes).Paged := by
  refine paged.of_page rfl rfl (fun changing => nomatch changing) ?_
  obtain ⟨page, current, isPage⟩ := paged.page
  rw [if_pos changing] at isPage
  simp only [FSCalendar.performTransition]
  cases scope : attributes.targetScope with
  | month => exact ⟨page, current, isPage⟩
  | week =>
      rw [scope] at target
      exact target

theorem Paged.scopeTransitionDidEnd (paged : calendar.Paged) (translation velocity : ℚ) :
    (calendar.scopeTransitionDidEnd translation velocity).Paged := by
  rw [FSCalendar.scopeTransitionDidEnd]
  split
  case h_1 attributes changing found =>
    obtain ⟨leads, ⟨source, source_eq, source_isPage⟩, ⟨target, target_eq, target_isPage⟩⟩ :=
      paged.changing attributes changing found
    simp only
    split
    · refine paged.performTransition changing ⟨source, source_eq, ?_⟩
      rwa [FSCalendarTransitionAttributes.revert, leads, other_other]
    · refine paged.performTransition changing ⟨target, target_eq, ?_⟩
      rwa [leads]
  case h_2 => exact paged

theorem Paged.performTransitionCompletion (paged : calendar.Paged)
    (finishing : calendar.state = .finishing) (attributes : FSCalendarTransitionAttributes) :
    (calendar.performTransitionCompletion attributes).Paged := by
  have page := paged.page
  rw [if_neg (by rw [finishing]; decide)] at page
  rw [FSCalendar.performTransitionCompletion]
  cases attributes.targetScope with
  | month => exact paged.of_page rfl rfl (fun changing => nomatch changing) page
  | week => exact paged.of_page rfl rfl (fun changing => nomatch changing) page

theorem isPage_pageForSection (regular : calendar.calculator.Regular) (number : Nat) :
    IsPage calendar.calculator calendar.scope (calendar.pageForSection number) := by
  rw [pageForSection]
  cases calendar.scope with
  | month =>
      exact ⟨(regular.monthForSection_spec number).2, fun week => nomatch week⟩
  | week =>
      have week := regular.weekForSection_spec number
      refine ⟨week.2, ?_⟩
      intro _
      rw [FSCalendarCalculator.daysIntoWeek, NSCalendar.weekday, week.1,
        FSCalendarCalculator.firstWeekDay, FSCalendarCalculator.daysIntoWeek, NSCalendar.weekday]
      omega

theorem Paged.nextScope (paged : calendar.Paged) {selectedDates : List ℤ} {event : Event}
    {after : FSCalendar}
    (selected : ∀ date ∈ selectedDates, calendar.calculator.gregorian.timeZone.Early date)
    (step : calendar.nextScope selectedDates event = some after) : after.Paged := by
  cases event with
  | panBegan contentOffset contentInsetTop velocity =>
      obtain ⟨-, began⟩ := Option.ite_none_right_eq_some.mp step
      cases began
      rcases scopeTransitionDidBegin_cases selectedDates velocity with same | begins
      · rwa [same]
      · exact begins.paged paged selected
  | panChanged translation =>
      cases step
      exact paged.scopeTransitionDidUpdate translation
  | panEnded translation velocity =>
      cases step
      exact paged.scopeTransitionDidEnd translation velocity
  | animationCompleted =>
      rw [FSCalendar.nextScope] at step
      split at step
      case h_1 attributes finishing found =>
        cases step
        exact paged.performTransitionCompletion finishing attributes
      case h_2 => cases step
  | willEndDragging number =>
      obtain ⟨idle, dragged⟩ := Option.ite_none_right_eq_some.mp step
      cases dragged
      rw [scrollViewWillEndDragging]
      split
      · refine paged.of_page rfl rfl (by simp [idle]) ⟨_, rfl, ?_⟩
        exact isPage_pageForSection paged.regular number
      · exact paged

theorem nextScope_calculator {selectedDates : List ℤ} {event : Event} {after : FSCalendar}
    (step : calendar.nextScope selectedDates event = some after) :
    after.calculator = calendar.calculator := by
  cases event with
  | panBegan contentOffset contentInsetTop velocity =>
      obtain ⟨-, began⟩ := Option.ite_none_right_eq_some.mp step
      cases began
      rcases scopeTransitionDidBegin_cases selectedDates velocity with same | begins
      · rw [same]
      · exact begins.calculator
  | panChanged translation =>
      cases step
      rw [scopeTransitionDidUpdate]
      split
      · rfl
      · rfl
  | panEnded translation velocity =>
      cases step
      rw [scopeTransitionDidEnd]
      split
      · simp only
        split
        · rfl
        · rfl
      · rfl
  | animationCompleted =>
      rw [nextScope] at step
      split at step
      case h_1 attributes _ _ =>
        cases step
        rw [performTransitionCompletion]
        cases attributes.targetScope with
        | month => rfl
        | week => rfl
      case h_2 => cases step
  | willEndDragging number =>
      obtain ⟨-, dragged⟩ := Option.ite_none_right_eq_some.mp step
      cases dragged
      rw [scrollViewWillEndDragging]
      split
      · rfl
      · rfl

/-- A pan from its begin to the end of the animation. -/
def panEvents (selectedDates : List ℤ) (contentOffset contentInsetTop velocity : ℚ)
    (translations : List ℚ) (lastTranslation lastVelocity : ℚ) : List (List ℤ × Event) :=
  (selectedDates, .panBegan contentOffset contentInsetTop velocity) ::
    (translations.map fun translation => (selectedDates, .panChanged translation)) ++
      [(selectedDates, .panEnded lastTranslation lastVelocity),
        (selectedDates, .animationCompleted)]

variable (calendar) in
/-- While the finger moves, the height changes and nothing else. -/
theorem scopeTransitionDidUpdate_eq (translation : ℚ) :
    ∃ calendarHeight, calendar.scopeTransitionDidUpdate translation =
      { calendar with calendarHeight } := by
  rw [FSCalendar.scopeTransitionDidUpdate]
  split
  · exact ⟨_, rfl⟩
  · exact ⟨calendar.calendarHeight, rfl⟩

theorem exists_run_panChanged {selectedDates : List ℤ} {rest : List (List ℤ × Event)}
    (translations : List ℚ)
    (lifted : ∀ calendarHeight,
      ∃ after, machine.run rest { calendar with calendarHeight } = some after) :
    ∃ after, machine.run
      ((translations.map fun translation => (selectedDates, Event.panChanged translation)) ++ rest)
      calendar = some after := by
  induction translations generalizing calendar with
  | nil => exact lifted calendar.calendarHeight
  | cons translation translations ih =>
      obtain ⟨height, updated⟩ := scopeTransitionDidUpdate_eq calendar translation
      have later := @ih (calendar.scopeTransitionDidUpdate translation)
      rw [updated] at later
      obtain ⟨after, execution⟩ := later lifted
      refine ⟨after, machine.run_cons_eq_some.mpr ⟨_, rfl, ?_⟩⟩
      rw [updated]
      exact execution

/-- The attributes a pan ends with. -/
def endedAttributes (attributes : FSCalendarTransitionAttributes) (translation velocity : ℚ) :
    FSCalendarTransitionAttributes :=
  if velocity * clampedTranslation attributes translation < 0 then attributes.revert else attributes

theorem scopeTransitionDidEnd_eq {attributes : FSCalendarTransitionAttributes}
    (translation velocity : ℚ) (changing : calendar.state = .changing)
    (found : calendar.transitionAttributes = some attributes) :
    calendar.scopeTransitionDidEnd translation velocity =
      { calendar with state := .finishing }.performTransition
        (endedAttributes attributes translation velocity) := by
  rw [scopeTransitionDidEnd, endedAttributes]
  split
  case h_1 other _ same =>
    rw [found] at same
    cases same
    simp only
    split
    · rfl
    · rfl
  case h_2 none => exact absurd found (none attributes changing)

theorem towards_of_shouldBegin {contentOffset contentInsetTop velocity : ℚ}
    (should : calendar.gestureRecognizerShouldBegin contentOffset contentInsetTop velocity = true) :
    calendar.scope = .month ∧ velocity < 0 ∨ calendar.scope = .week ∧ 0 < velocity := by
  rw [gestureRecognizerShouldBegin] at should
  split at should
  · cases scope : calendar.scope with
    | month =>
        rw [scope] at should
        exact .inl ⟨rfl, of_decide_eq_true should⟩
    | week =>
        rw [scope] at should
        exact .inr ⟨rfl, of_decide_eq_true should⟩
  · cases should

theorem exists_run_panEnded {attributes : FSCalendarTransitionAttributes}
    (selectedDates : List ℤ) (translation velocity : ℚ) (changing : calendar.state = .changing)
    (found : calendar.transitionAttributes = some attributes) :
    ∃ after, machine.run [(selectedDates, Event.panEnded translation velocity),
      (selectedDates, .animationCompleted)] calendar = some after := by
  have completed : nextScope (calendar.scopeTransitionDidEnd translation velocity) selectedDates
      .animationCompleted =
        some (({ calendar with state := .finishing }.performTransition (endedAttributes attributes
          translation velocity)).performTransitionCompletion (endedAttributes attributes
            translation velocity)) := by
    rw [scopeTransitionDidEnd_eq translation velocity changing found]
    rfl
  exact ⟨_, machine.run_cons_eq_some.mpr ⟨_, rfl,
    machine.run_cons_eq_some.mpr ⟨_, completed, rfl⟩⟩⟩

theorem exists_run_panEvents {contentOffset contentInsetTop velocity : ℚ}
    (idle : calendar.state = .idle)
    (should : calendar.gestureRecognizerShouldBegin contentOffset contentInsetTop velocity = true)
    (selectedDates : List ℤ) (translations : List ℚ) (lastTranslation lastVelocity : ℚ) :
    ∃ after, machine.run (panEvents selectedDates contentOffset contentInsetTop velocity
      translations lastTranslation lastVelocity) calendar = some after := by
  have begins := begins_of_idle selectedDates idle (towards_of_shouldBegin should)
  have lifted : ∀ calendarHeight, ∃ after, machine.run
      [(selectedDates, Event.panEnded lastTranslation lastVelocity),
        (selectedDates, .animationCompleted)]
      { calendar.scopeTransitionDidBegin selectedDates velocity with calendarHeight } =
        some after :=
    fun _ => exists_run_panEnded selectedDates lastTranslation lastVelocity begins.state
      begins.attributes
  obtain ⟨after, execution⟩ := exists_run_panChanged translations lifted
  exact ⟨after, machine.run_cons_eq_some.mpr ⟨_, if_pos should, execution⟩⟩

/-- The screen on 19 July 2020, with the twentieth selected. -/
def july : FSCalendar :=
  loaded false .unchanged (18462 * 86400)

theorem july_coordinated :
    ∃ after, machine.run (panEvents [18463 * 86400] 0 0 (-1) [-10, -20] (-40) (-2)) july =
      some after ∧ after.Coordinated := by
  have should : july.gestureRecognizerShouldBegin 0 0 (-1) = true := by decide
  obtain ⟨after, pan⟩ :=
    exists_run_panEvents rfl should [18463 * 86400] [-10, -20] (-40) (-2)
  exact ⟨after, pan, run_coordinated pan⟩

end FSCalendar

end Celeste
