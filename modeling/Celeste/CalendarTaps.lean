import Celeste.FSCalendarTransitionCoordinator
import Celeste.SelectionRuns

/-!
# Taps on the calendar's cells

The collection view of FSCalendar has its own selection of index paths, which decides whether a tap
selects or deselects.  Reloading the cells empties it, and a cell that is loaded again brings it in
step with the selected dates.  So a tap always toggles the date of its cell, through every scroll,
reload and change of scope.
-/

namespace Celeste

/-- The calendar screen with FSCalendar, whose selected dates are the screen's. -/
structure TappedCalendar where
  screen : OurCalendarViewController ℤ
  calendar : FSCalendar

namespace TappedCalendar

open OurCalendarViewController (loaded)

/-! ## Selecting cells -/

variable (tapped : TappedCalendar)

/-- `dateForIndexPath:`. -/
def dateForIndexPath (indexPath : IndexPath) : ℤ :=
  tapped.calendar.calculator.dateForIndexPath tapped.calendar.representingScope indexPath

/-- `monthPositionForIndexPath:`. -/
def monthPositionForIndexPath (indexPath : IndexPath) : FSCalendarMonthPosition :=
  tapped.calendar.calculator.monthPositionForIndexPath tapped.calendar.representingScope indexPath

/-- `isDateInRange:`. -/
def isDateInRange (date : ℤ) : Bool :=
  let calculator := tapped.calendar.calculator
  calculator.gregorian.days date calculator.minimumDate ≤ 0 &&
    calculator.gregorian.days date calculator.maximumDate ≥ 0

/-- `shouldSelectItemAtIndexPath:` and `shouldDeselectItemAtIndexPath:`; the screen implements
neither of the delegate's. -/
def shouldChangeItem (indexPath : IndexPath) : Bool :=
  if tapped.calendar.calculator.placeholderType = .none ∧
      tapped.monthPositionForIndexPath indexPath ≠ .current then false
  else tapped.isDateInRange (tapped.dateForIndexPath indexPath)

/-- `cellForItemAtIndexPath:` gives a blank cell. -/
def isBlank (indexPath : IndexPath) : Bool :=
  tapped.calendar.calculator.placeholderType = .none &&
    tapped.calendar.representingScope = .month &&
      tapped.monthPositionForIndexPath indexPath ≠ .current

/-- `reloadDataForCell:atIndexPath:`, which brings the collection view's selection in step. -/
def reloadDataForCell (indexPath : IndexPath) : TappedCalendar :=
  let indexPaths := tapped.calendar.indexPathsForSelectedItems
  { tapped with
    calendar :=
      { tapped.calendar with
        indexPathsForSelectedItems :=
          if tapped.dateForIndexPath indexPath ∈ tapped.screen.selectedDates then
            indexPath :: indexPaths
          else indexPaths.filter (· ≠ indexPath) } }

/-- `cellForItemAtIndexPath:`, for a cell that is displayed. -/
def cellForItemAt (indexPath : IndexPath) : TappedCalendar :=
  let displayed :=
    { tapped with
      calendar :=
        { tapped.calendar with
          displayedItems := indexPath :: tapped.calendar.displayedItems } }
  if displayed.isBlank indexPath then displayed else displayed.reloadDataForCell indexPath

/-- What happens to the calendar screen: taps on cells, cells that come and go, pans, and what the
screen handles without the calendar. -/
inductive Event
  | tap (indexPath : IndexPath)
  | cellForItemAt (indexPath : IndexPath)
  | didEndDisplaying (indexPath : IndexPath)
  | scope (event : FSCalendar.Event)
  | screen (event : OurCalendarViewController.Event ℤ)

/-- Only the calendar reports selections. -/
def reportsSelection : OurCalendarViewController.Event ℤ → Bool
  | .didSelect _ | .didDeselect _ => true
  | _ => false

/-- The observer of `calendarData` reloads the calendar. -/
def reloadsCalendar : OurCalendarViewController.Event ℤ → Bool
  | .getCalendarEventsCompleted _ (.success _) => true
  | _ => false

/-- What a tap reports to the screen: the collection view deselects what it holds selected. -/
def tapReport (indexPath : IndexPath) : OurCalendarViewController.Event ℤ :=
  if indexPath ∈ tapped.calendar.indexPathsForSelectedItems then
    .didDeselect (tapped.dateForIndexPath indexPath)
  else .didSelect (tapped.dateForIndexPath indexPath)

/-- The collection view's selection after a tap. -/
def tapItems (indexPath : IndexPath) : List IndexPath :=
  let indexPaths := tapped.calendar.indexPathsForSelectedItems
  if indexPath ∈ indexPaths then indexPaths.filter (· ≠ indexPath) else indexPath :: indexPaths

section Machine

variable (dateFormatter : ℤ → String)

/-- The transitions. -/
def machine : Machine TappedCalendar Event where
  next tapped
    | .tap indexPath =>
        if indexPath ∈ tapped.calendar.displayedItems then
          if tapped.shouldChangeItem indexPath then
            ((OurCalendarViewController.machine dateFormatter).next tapped.screen
              (tapped.tapReport indexPath)).map fun screen =>
                { screen
                  calendar :=
                    { tapped.calendar with
                      indexPathsForSelectedItems := tapped.tapItems indexPath } }
          else some tapped
        else none
    | .cellForItemAt indexPath =>
        if indexPath.item < FSCalendarCalculator.numberOfItems
            tapped.calendar.representingScope then
          some (tapped.cellForItemAt indexPath)
        else none
    | .didEndDisplaying indexPath =>
        some { tapped with
          calendar :=
            { tapped.calendar with
              displayedItems := tapped.calendar.displayedItems.filter (· ≠ indexPath) } }
    | .scope event =>
        (tapped.calendar.nextScope tapped.screen.selectedDates event).map fun calendar =>
          { tapped with calendar }
    | .screen event =>
        if reportsSelection event then none
        else
          ((OurCalendarViewController.machine dateFormatter).next tapped.screen event).map
            fun screen =>
              { screen
                calendar :=
                  if reloadsCalendar event then tapped.calendar.reloadCollectionView
                  else tapped.calendar }

end Machine

/-! ## Cells in step with the selection -/

/-- The displayed cells of days are selected in the collection view as their dates are. -/
structure InStep (tapped : TappedCalendar) : Prop where
  regular : tapped.calendar.calculator.Regular
  unfilled : tapped.calendar.calculator.placeholderType = .none
  coordinated : tapped.calendar.Coordinated
  inPage : ∀ indexPath ∈ tapped.calendar.displayedItems,
    indexPath.item < FSCalendarCalculator.numberOfItems tapped.calendar.representingScope
  cells : ∀ indexPath ∈ tapped.calendar.displayedItems,
    tapped.monthPositionForIndexPath indexPath = .current →
      (indexPath ∈ tapped.calendar.indexPathsForSelectedItems ↔
        tapped.dateForIndexPath indexPath ∈ tapped.screen.selectedDates)
  nodup : tapped.screen.selectedDates.Nodup

variable {tapped after : TappedCalendar} {dateFormatter : ℤ → String} {event : Event}

theorem InStep.loaded {isPad : Bool} {calculator : FSCalendarCalculator} {today : ℤ}
    (regular : calculator.Regular) (unfilled : calculator.placeholderType = .none) :
    InStep ⟨.loaded, .loaded isPad calculator today⟩ where
  regular := regular
  unfilled := unfilled
  coordinated := .loaded isPad calculator today
  inPage _ member := absurd member List.not_mem_nil
  cells _ member := absurd member List.not_mem_nil
  nodup := List.nodup_nil

theorem InStep.current_of_should (inStep : tapped.InStep) {indexPath : IndexPath}
    (should : tapped.shouldChangeItem indexPath = true) :
    tapped.monthPositionForIndexPath indexPath = .current := by
  rw [shouldChangeItem] at should
  split at should
  case isTrue => cases should
  case isFalse notBlank =>
    by_contra other
    exact notBlank ⟨inStep.unfilled, other⟩

theorem InStep.tapReport_eq (inStep : tapped.InStep) {indexPath : IndexPath}
    (displayed : indexPath ∈ tapped.calendar.displayedItems)
    (current : tapped.monthPositionForIndexPath indexPath = .current) :
    tapped.tapReport indexPath =
      if tapped.dateForIndexPath indexPath ∈ tapped.screen.selectedDates then
        .didDeselect (tapped.dateForIndexPath indexPath)
      else .didSelect (tapped.dateForIndexPath indexPath) := by
  rw [tapReport, if_congr (inStep.cells indexPath displayed current) rfl rfl]

/-- A list with an element toggled. -/
def toggled {Element : Type} [DecidableEq Element] (elements : List Element) (element : Element) :
    List Element :=
  if element ∈ elements then elements.filter (· ≠ element) else elements ++ [element]

theorem mem_toggled_iff {Element : Type} [DecidableEq Element] {elements : List Element}
    {element other : Element} :
    other ∈ toggled elements element ↔ (other ∈ elements ↔ ¬ other = element) := by
  rw [toggled]
  split
  case isTrue member =>
    rw [List.mem_filter, decide_eq_true_eq]
    by_cases same : other = element
    · simp [same, member]
    · simp [same]
  case isFalse absent =>
    rw [List.mem_append, List.mem_singleton]
    by_cases same : other = element
    · simp [same, absent]
    · simp [same]

theorem nodup_toggled {Element : Type} [DecidableEq Element] {elements : List Element}
    (nodup : elements.Nodup) (element : Element) : (toggled elements element).Nodup := by
  rw [toggled]
  split
  case isTrue => exact nodup.filter _
  case isFalse absent => exact List.Nodup.append nodup (List.nodup_singleton element) (by simpa)

/-- What an event changes. -/
inductive Change (dateFormatter : ℤ → String) (tapped : TappedCalendar) :
    Event → TappedCalendar → Prop
  | toggled {indexPath : IndexPath} {screen : OurCalendarViewController ℤ}
      (displayed : indexPath ∈ tapped.calendar.displayedItems)
      (should : tapped.shouldChangeItem indexPath = true)
      (reported : (OurCalendarViewController.machine dateFormatter).next tapped.screen
        (tapped.tapReport indexPath) = some screen) :
      Change dateFormatter tapped (.tap indexPath)
        { screen
          calendar :=
            { tapped.calendar with indexPathsForSelectedItems := tapped.tapItems indexPath } }
  | ignored {indexPath : IndexPath} (should : tapped.shouldChangeItem indexPath = false) :
      Change dateFormatter tapped (.tap indexPath) tapped
  | displayed {indexPath : IndexPath}
      (inPage : indexPath.item < FSCalendarCalculator.numberOfItems
        tapped.calendar.representingScope) :
      Change dateFormatter tapped (.cellForItemAt indexPath) (tapped.cellForItemAt indexPath)
  | ended {indexPath : IndexPath} :
      Change dateFormatter tapped (.didEndDisplaying indexPath)
        { tapped with
          calendar :=
            { tapped.calendar with
              displayedItems := tapped.calendar.displayedItems.filter (· ≠ indexPath) } }
  | rescoped {event : FSCalendar.Event} {calendar : FSCalendar}
      (step : tapped.calendar.nextScope tapped.screen.selectedDates event = some calendar) :
      Change dateFormatter tapped (.scope event) { tapped with calendar }
  | handled {event : OurCalendarViewController.Event ℤ} {screen : OurCalendarViewController ℤ}
      (unreported : reportsSelection event = false)
      (step : (OurCalendarViewController.machine dateFormatter).next tapped.screen event =
        some screen) :
      Change dateFormatter tapped (.screen event)
        { screen
          calendar :=
            if reloadsCalendar event then tapped.calendar.reloadCollectionView
            else tapped.calendar }

theorem next_change (step : (machine dateFormatter).next tapped event = some after) :
    Change dateFormatter tapped event after := by
  cases event with
  | tap indexPath =>
      obtain ⟨displayed, tap⟩ := Option.ite_none_right_eq_some.mp step
      split at tap
      case isTrue should =>
        obtain ⟨screen, reported, rfl⟩ := Option.map_eq_some_iff.mp tap
        exact .toggled displayed should reported
      case isFalse should =>
        cases tap
        exact .ignored (Bool.eq_false_iff.mpr should)
  | cellForItemAt indexPath =>
      obtain ⟨inPage, loaded⟩ := Option.ite_none_right_eq_some.mp step
      cases loaded
      exact .displayed inPage
  | didEndDisplaying indexPath =>
      cases step
      exact .ended
  | scope event =>
      obtain ⟨calendar, rescoped, rfl⟩ := Option.map_eq_some_iff.mp step
      exact .rescoped rescoped
  | screen event =>
      obtain ⟨unreported, handled⟩ := Option.ite_none_left_eq_some.mp step
      obtain ⟨screen, next, rfl⟩ := Option.map_eq_some_iff.mp handled
      exact .handled (Bool.eq_false_iff.mpr unreported) next

/-- The date an event toggles. -/
def toggledDate (tapped : TappedCalendar) : Event → Option ℤ
  | .tap indexPath =>
      if tapped.shouldChangeItem indexPath then some (tapped.dateForIndexPath indexPath) else none
  | _ => none

/-- Only a tap on the cell of a day changes the selection, by toggling the day's date. -/
theorem InStep.change_selectedDates (inStep : tapped.InStep)
    (change : Change dateFormatter tapped event after) :
    after.screen.selectedDates =
      (tapped.toggledDate event).elim tapped.screen.selectedDates
        (toggled tapped.screen.selectedDates) := by
  cases change with
  | @toggled indexPath screen displayed should reported =>
      have selection := OurCalendarViewController.next_selectedDates reported
      rw [inStep.tapReport_eq displayed (inStep.current_of_should should)] at selection
      rw [toggledDate, if_pos should, Option.elim_some, TappedCalendar.toggled]
      simp only at selection ⊢
      rw [selection]
      split
      case isTrue => rfl
      case isFalse absent =>
        rw [OurCalendarViewController.Event.selection, if_neg absent]
  | ignored should =>
      rw [toggledDate, if_neg (Bool.eq_false_iff.mp should)]
      rfl
  | @displayed indexPath inPage =>
      rw [TappedCalendar.cellForItemAt]
      simp only
      split
      · rfl
      · rfl
  | ended => rfl
  | rescoped step => rfl
  | @handled event screen unreported step =>
      have selection := OurCalendarViewController.next_selectedDates step
      cases event with
      | didSelect date => cases unreported
      | didDeselect date => cases unreported
      | _ => exact selection

theorem InStep.of_kept (inStep : tapped.InStep)
    (calculator : after.calendar.calculator = tapped.calendar.calculator)
    (coordinated : after.calendar.Coordinated)
    (displayed : ∀ indexPath ∈ after.calendar.displayedItems,
      indexPath ∈ tapped.calendar.displayedItems ∧
        after.calendar.indexPathsForSelectedItems = tapped.calendar.indexPathsForSelectedItems ∧
          after.calendar.representingScope = tapped.calendar.representingScope)
    (selected : after.screen.selectedDates = tapped.screen.selectedDates) : after.InStep := by
  refine ⟨calculator ▸ inStep.regular, calculator ▸ inStep.unfilled, coordinated, ?_, ?_,
    selected ▸ inStep.nodup⟩
  · intro indexPath member
    obtain ⟨before, -, scope⟩ := displayed indexPath member
    rw [scope]
    exact inStep.inPage indexPath before
  · intro indexPath member current
    obtain ⟨before, items, scope⟩ := displayed indexPath member
    rw [monthPositionForIndexPath, calculator, scope] at current
    rw [dateForIndexPath, calculator, scope, items, selected]
    exact inStep.cells indexPath before current

/-- A tap on a cell changes its selection and no other displayed cell's. -/
theorem InStep.toggles (inStep : tapped.InStep) {indexPath : IndexPath}
    {screen : OurCalendarViewController ℤ}
    (displayed : indexPath ∈ tapped.calendar.displayedItems)
    (should : tapped.shouldChangeItem indexPath = true)
    (selected : screen.selectedDates =
      toggled tapped.screen.selectedDates (tapped.dateForIndexPath indexPath)) :
    InStep
      { screen
        calendar :=
          { tapped.calendar with indexPathsForSelectedItems := tapped.tapItems indexPath } } := by
  have current := inStep.current_of_should should
  refine ⟨inStep.regular, inStep.unfilled, inStep.coordinated.congr rfl rfl rfl rfl rfl,
    inStep.inPage, ?_, ?_⟩
  · intro other member other_current
    change other ∈ tapped.tapItems indexPath ↔
      tapped.dateForIndexPath other ∈ screen.selectedDates
    have inStep_other := inStep.cells other member other_current
    have same_iff : tapped.dateForIndexPath other = tapped.dateForIndexPath indexPath ↔
        other = indexPath := by
      constructor
      · intro same
        exact inStep.regular.currentCell_inj (inStep.inPage other member)
          (inStep.inPage indexPath displayed) other_current current (congrArg _ same)
      · rintro rfl
        rfl
    rw [selected, mem_toggled_iff, same_iff, ← inStep_other, tapItems]
    split
    case isTrue held =>
      rw [List.mem_filter, decide_eq_true_eq]
      by_cases same : other = indexPath
      · simp [same, held]
      · simp [same]
    case isFalse unheld =>
      rw [List.mem_cons]
      by_cases same : other = indexPath
      · simp [same, unheld]
      · simp [same]
  · change screen.selectedDates.Nodup
    rw [selected]
    exact nodup_toggled inStep.nodup _

theorem mem_reloadDataForCell_iff {indexPath other : IndexPath} :
    other ∈ (tapped.reloadDataForCell indexPath).calendar.indexPathsForSelectedItems ↔
      if other = indexPath then tapped.dateForIndexPath indexPath ∈ tapped.screen.selectedDates
      else other ∈ tapped.calendar.indexPathsForSelectedItems := by
  simp only [reloadDataForCell]
  split
  case isTrue selected =>
    rw [List.mem_cons]
    split
    case isTrue same => simp [same, selected]
    case isFalse different => simp [different]
  case isFalse unselected =>
    rw [List.mem_filter, decide_eq_true_eq]
    split
    case isTrue same => simp [same, unselected]
    case isFalse different => simp [different]

theorem InStep.cellForItemAt (inStep : tapped.InStep) {indexPath : IndexPath}
    (inPage : indexPath.item < FSCalendarCalculator.numberOfItems
      tapped.calendar.representingScope) : (tapped.cellForItemAt indexPath).InStep := by
  have displayed_inPage : ∀ other ∈ indexPath :: tapped.calendar.displayedItems,
      other.item < FSCalendarCalculator.numberOfItems tapped.calendar.representingScope := by
    intro other member
    rcases List.mem_cons.mp member with rfl | member
    · exact inPage
    · exact inStep.inPage other member
  rw [TappedCalendar.cellForItemAt]
  simp only
  split
  case isTrue blank =>
    refine ⟨inStep.regular, inStep.unfilled, inStep.coordinated.congr rfl rfl rfl rfl rfl,
      displayed_inPage, ?_, inStep.nodup⟩
    intro other member current
    rcases List.mem_cons.mp member with rfl | member
    · simp [isBlank, current] at blank
    · exact inStep.cells other member current
  case isFalse =>
    refine ⟨inStep.regular, inStep.unfilled, inStep.coordinated.congr rfl rfl rfl rfl rfl,
      displayed_inPage, ?_, inStep.nodup⟩
    intro other member current
    refine mem_reloadDataForCell_iff.trans ?_
    split
    case isTrue same =>
      rw [same]
      exact Iff.rfl
    case isFalse different =>
      rcases List.mem_cons.mp member with same | member
      · exact absurd same different
      · exact inStep.cells other member current

theorem InStep.change (inStep : tapped.InStep)
    (change : Change dateFormatter tapped event after) : after.InStep := by
  have selected := inStep.change_selectedDates change
  cases change with
  | @toggled indexPath screen displayed should reported =>
      rw [toggledDate, if_pos should] at selected
      exact inStep.toggles displayed should selected
  | ignored should => exact inStep
  | displayed inPage => exact inStep.cellForItemAt inPage
  | @ended indexPath =>
      refine inStep.of_kept rfl (inStep.coordinated.congr rfl rfl rfl rfl rfl) ?_ rfl
      intro other member
      exact ⟨(List.mem_filter.mp member).1, rfl, rfl⟩
  | @rescoped event calendar step =>
      refine inStep.of_kept (FSCalendar.nextScope_calculator step)
        (inStep.coordinated.nextScope step) ?_ rfl
      intro indexPath member
      rcases inStep.coordinated.reloadsOrKeeps step with reloaded | ⟨displayed, items, scope⟩
      · rw [reloaded] at member
        exact absurd member List.not_mem_nil
      · exact ⟨displayed ▸ member, items, scope⟩
  | @handled event screen unreported step =>
      refine inStep.of_kept ?_ ?_ ?_ selected
      · simp only
        split
        · rfl
        · rfl
      · simp only
        split
        · exact inStep.coordinated.congr rfl rfl rfl rfl rfl
        · exact inStep.coordinated
      · intro indexPath member
        simp only at member ⊢
        split at member
        case isTrue => exact absurd member List.not_mem_nil
        case isFalse kept =>
          rw [if_neg kept]
          exact ⟨member, rfl, rfl⟩

/-! ## Runs -/

/-- The dates a run toggles, in order. -/
def toggledDates (dateFormatter : ℤ → String) : List Event → TappedCalendar → List ℤ
  | [], _ => []
  | event :: events, tapped =>
      (tapped.toggledDate event).toList ++
        ((machine dateFormatter).next tapped event).elim [] (toggledDates dateFormatter events)

/-- What an event reports to the screen. -/
def report (tapped : TappedCalendar) : Event → Option (OurCalendarViewController.Event ℤ)
  | .tap indexPath =>
      if tapped.shouldChangeItem indexPath then some (tapped.tapReport indexPath) else none
  | .screen event => some event
  | _ => none

/-- What a run reports to the screen, in order. -/
def reports (dateFormatter : ℤ → String) :
    List Event → TappedCalendar → List (OurCalendarViewController.Event ℤ)
  | [], _ => []
  | event :: events, tapped =>
      (tapped.report event).toList ++
        ((machine dateFormatter).next tapped event).elim [] (reports dateFormatter events)

/-- A date is reported selected when it is not, and deselected when it is selected. -/
def ReportsChange (screen : OurCalendarViewController ℤ) :
    OurCalendarViewController.Event ℤ → Prop
  | .didSelect date => date ∉ screen.selectedDates
  | .didDeselect date => date ∈ screen.selectedDates
  | _ => True

/-- A report is an event of the screen that changes its selection if it says so; without a report
the screen is the same. -/
theorem InStep.change_report (inStep : tapped.InStep)
    (change : Change dateFormatter tapped event after) :
    (∀ reported, tapped.report event = some reported →
      (OurCalendarViewController.machine dateFormatter).next tapped.screen reported =
        some after.screen ∧ ReportsChange tapped.screen reported) ∧
    (tapped.report event = none → after.screen = tapped.screen) := by
  cases change with
  | @toggled indexPath screen displayed should reported =>
      rw [report, if_pos should]
      refine ⟨?_, fun absent => nomatch absent⟩
      intro other same
      cases same
      refine ⟨reported, ?_⟩
      rw [inStep.tapReport_eq displayed (inStep.current_of_should should)]
      split
      case isTrue selected => exact selected
      case isFalse unselected => exact unselected
  | ignored should =>
      rw [report, if_neg (Bool.eq_false_iff.mp should)]
      exact ⟨fun _ absent => (nomatch absent), fun _ => rfl⟩
  | @displayed indexPath inPage =>
      refine ⟨fun _ absent => (nomatch absent), fun _ => ?_⟩
      rw [TappedCalendar.cellForItemAt]
      simp only
      split
      · rfl
      · rfl
  | ended => exact ⟨fun _ absent => (nomatch absent), fun _ => rfl⟩
  | rescoped step => exact ⟨fun _ absent => (nomatch absent), fun _ => rfl⟩
  | @handled event screen unreported step =>
      refine ⟨?_, fun absent => nomatch absent⟩
      intro other same
      cases same
      refine ⟨step, ?_⟩
      cases event with
      | didSelect date => cases unreported
      | didDeselect date => cases unreported
      | _ => exact True.intro

/-- What holds after a run: the selected dates are those toggled an odd number of times, and the
screen has run through its own events. -/
structure Ran (dateFormatter : ℤ → String) (events : List Event) (before after : TappedCalendar) :
    Prop where
  inStep : after.InStep
  selected : ∀ date, date ∈ after.screen.selectedDates ↔
    (date ∈ before.screen.selectedDates ↔
      Even ((toggledDates dateFormatter events before).count date))
  screen : (OurCalendarViewController.machine dateFormatter).run
    (reports dateFormatter events before) before.screen = some after.screen
  changes : (OurCalendarViewController.machine dateFormatter).Respects ReportsChange
    (reports dateFormatter events before) before.screen

theorem Ran.cons {events : List Event} {middle : TappedCalendar} (inStep : tapped.InStep)
    (step : (machine dateFormatter).next tapped event = some middle)
    (ran : Ran dateFormatter events middle after) :
    Ran dateFormatter (event :: events) tapped after := by
  have change := next_change step
  have selected := inStep.change_selectedDates change
  have reported := inStep.change_report change
  refine ⟨ran.inStep, ?_, ?_, ?_⟩
  · intro date
    rw [ran.selected, toggledDates, step, Option.elim_some, List.count_append, selected]
    cases tapped.toggledDate event with
    | none => simp
    | some other =>
        rw [Option.elim_some, mem_toggled_iff, Option.toList_some, List.count_singleton,
          Nat.even_add]
        by_cases same : date = other
        · simp only [same, not_true_eq_false, iff_false, if_true, beq_self_eq_true,
            Nat.not_even_one, false_iff, Nat.not_even_iff_odd]
          rw [← Nat.not_even_iff_odd]
          tauto
        · have different : ¬ (other == date) = true := by
            simpa using fun back => same back.symm
          simp [same, different]
  · rw [reports, step, Option.elim_some]
    cases report_eq : tapped.report event with
    | none =>
        rw [Option.toList_none, List.nil_append, ← reported.2 report_eq]
        exact ran.screen
    | some other =>
        exact (Machine.run_cons_eq_some _).mpr
          ⟨middle.screen, (reported.1 other report_eq).1, ran.screen⟩
  · rw [reports, step, Option.elim_some]
    cases report_eq : tapped.report event with
    | none =>
        rw [Option.toList_none, List.nil_append, ← reported.2 report_eq]
        exact ran.changes
    | some other =>
        have next := reported.1 other report_eq
        exact Machine.Respects.cons next.1 next.2 ran.changes

theorem InStep.run {events : List Event} (inStep : tapped.InStep)
    (execution : (machine dateFormatter).run events tapped = some after) :
    Ran dateFormatter events tapped after := by
  induction events generalizing tapped with
  | nil =>
      cases execution
      exact ⟨inStep, by simp [toggledDates], rfl, True.intro⟩
  | cons event events ih =>
      obtain ⟨middle, step, rest⟩ := (machine dateFormatter).run_cons_eq_some.mp execution
      exact Ran.cons inStep step (ih (inStep.change (next_change step)) rest)

/-- In every run, through scrolls, reloads and changes of scope, the dates selected are those whose
cells were tapped an odd number of times; the screen is told of each change, and of nothing else. -/
theorem run_selected {isPad : Bool} {calculator : FSCalendarCalculator} {today : ℤ}
    {events : List Event} (regular : calculator.Regular)
    (unfilled : calculator.placeholderType = .none)
    (execution : (machine dateFormatter).run events ⟨.loaded, .loaded isPad calculator today⟩ =
      some after) :
    (∀ date, date ∈ after.screen.selectedDates ↔
      Odd ((toggledDates dateFormatter events
        ⟨.loaded, .loaded isPad calculator today⟩).count date)) ∧
    after.screen.selectedDates.Nodup ∧
    (OurCalendarViewController.machine dateFormatter).run
      (reports dateFormatter events ⟨.loaded, .loaded isPad calculator today⟩) .loaded =
        some after.screen ∧
    (OurCalendarViewController.machine dateFormatter).Respects ReportsChange
      (reports dateFormatter events ⟨.loaded, .loaded isPad calculator today⟩) .loaded := by
  have ran := (InStep.loaded regular unfilled).run execution
  refine ⟨?_, ran.inStep.nodup, ran.screen, ran.changes⟩
  intro date
  rw [ran.selected, ← Nat.not_even_iff_odd]
  simp [OurCalendarViewController.loaded, OurCalendarViewController.fetchEventsData,
    OurCalendarViewController.call]

/-- The cell of 20 July 2020 is tapped, leaves the screen, and is loaded anew after a fetch. -/
def julyTaps : List Event :=
  [.cellForItemAt ⟨22, 606⟩, .tap ⟨22, 606⟩, .didEndDisplaying ⟨22, 606⟩,
    .screen (.getCalendarEventsCompleted 0 (.success [])), .cellForItemAt ⟨22, 606⟩]

theorem julyTaps_selected :
    ∃ after, (machine fun _ => "").run julyTaps ⟨.loaded, .july⟩ = some after ∧
      (∀ date, date ∈ after.screen.selectedDates ↔
        Odd ((toggledDates (fun _ => "") julyTaps ⟨.loaded, .july⟩).count date)) := by
  have runs : ∃ after, (machine fun _ => "").run julyTaps ⟨.loaded, .july⟩ = some after := ⟨_, rfl⟩
  obtain ⟨after, execution⟩ := runs
  exact ⟨after, execution,
    (run_selected FSCalendarCalculator.unchanged_regular rfl execution).1⟩

end TappedCalendar

end Celeste
