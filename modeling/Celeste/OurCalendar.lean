import Celeste.AddCalendarEvent
import Celeste.Library.Requests

/-!
# The calendar screen

The screen keeps a fetched list of events, the events of the selected days in a table of reused
cells, and a label for the empty table.  Every handler that changes the list or the selection
recomputes the table and the label.  The action sheet that confirms a deletion keeps the event it
was opened for.
-/

namespace Celeste

/-! ## Table cells -/

/-- The component in a table cell: the event it was given, its closure, and what it shows. -/
structure CalendarEventTableCellComponent where
  calendarEvent : Option CalendarEvent
  /-- The closure `actions` has been assigned. -/
  hasActions : Bool
  eventTypePillText : Option String
  titleText : Option String
  locationText : Option String
  locationHidden : Bool
  descriptionText : Option String
  descriptionHidden : Bool
  dateText : Option String
  deriving DecidableEq

namespace CalendarEventTableCellComponent

/-- A component just created. -/
def fresh : CalendarEventTableCellComponent where
  calendarEvent := none
  hasActions := false
  eventTypePillText := none
  titleText := none
  locationText := none
  locationHidden := false
  descriptionText := none
  descriptionHidden := false
  dateText := none

/-- `CalendarEventTableCellComponent.apply(viewModel:)`. -/
def apply (component : CalendarEventTableCellComponent) (calendarEvent : CalendarEvent) :
    CalendarEventTableCellComponent :=
  { component with
    calendarEvent := some calendarEvent
    eventTypePillText := some calendarEvent.eventType.rawValue
    titleText := some calendarEvent.eventTitle
    locationHidden :=
      decide (calendarEvent.eventLocation = none ∨ calendarEvent.eventLocation = some "")
    locationText := calendarEvent.eventLocation
    descriptionHidden :=
      decide (calendarEvent.eventDescription = none ∨ calendarEvent.eventDescription = some "")
    descriptionText := calendarEvent.eventDescription
    dateText := some calendarEvent.date }

/-- The location on display, if there is one. -/
def shownLocation (component : CalendarEventTableCellComponent) : Option String :=
  if component.locationHidden then none else component.locationText

/-- The description on display, if there is one. -/
def shownDescription (component : CalendarEventTableCellComponent) : Option String :=
  if component.descriptionHidden then none else component.descriptionText

/-- The component acts on an event and shows it, whatever it held before. -/
structure Holds (component : CalendarEventTableCellComponent) (calendarEvent : CalendarEvent) :
    Prop where
  event : component.calendarEvent = some calendarEvent
  actions : component.hasActions = true
  eventType : component.eventTypePillText = some calendarEvent.eventType.rawValue
  title : component.titleText = some calendarEvent.eventTitle
  /-- A missing or empty location is not shown. -/
  location : component.shownLocation = calendarEvent.eventLocation.filter (· ≠ "")
  /-- A missing or empty description is not shown. -/
  description : component.shownDescription = calendarEvent.eventDescription.filter (· ≠ "")
  date : component.dateText = some calendarEvent.date

/-- `tableView(_:cellForRowAt:)` on a dequeued component. -/
def configured (component : CalendarEventTableCellComponent) (calendarEvent : CalendarEvent) :
    CalendarEventTableCellComponent :=
  { component.apply calendarEvent with hasActions := true }

/-- Hiding an optional text that is missing or empty leaves the texts worth showing. -/
theorem shown_eq_filter (text : Option String) :
    (if decide (text = none ∨ text = some "") then none else text) = text.filter (· ≠ "") := by
  cases text with
  | none => rfl
  | some characters =>
      by_cases empty : characters = ""
      · simp [empty, Option.filter]
      · simp [empty, Option.filter]

theorem holds_configured (component : CalendarEventTableCellComponent)
    (calendarEvent : CalendarEvent) : (component.configured calendarEvent).Holds calendarEvent where
  event := rfl
  actions := rfl
  eventType := rfl
  title := rfl
  location := shown_eq_filter calendarEvent.eventLocation
  description := shown_eq_filter calendarEvent.eventDescription
  date := rfl

end CalendarEventTableCellComponent

/-! ## The screen -/

namespace OurCalendarViewController

/-- A call of the calendar service. -/
inductive ServiceCall
  | getCalendarEvents
  | removeCalendarEvent (calendarEvent : CalendarEvent)
  deriving DecidableEq

/-- The event a call removes. -/
def ServiceCall.removal : ServiceCall → Option CalendarEvent
  | .getCalendarEvents => none
  | .removeCalendarEvent calendarEvent => some calendarEvent

/-- Something the screen presented over itself. -/
inductive Presentation
  | alert (message title : String)
  | toast (title : String)
  | addCalendarEvent (selectedDates : List String)
  deriving DecidableEq

/-- A table cell, and the event of the row it was last dequeued for. -/
structure Row where
  calendarEvent : CalendarEvent
  component : CalendarEventTableCellComponent

/-- An answer to the sheet "Are you sure?", or none yet. -/
inductive Choice
  | delete
  | dismiss
  deriving DecidableEq

/-- The action sheet of `calendarMoreTapped`, which captures the event. -/
structure ActionSheet where
  calendarEvent : CalendarEvent
  choice : Option Choice
  deriving DecidableEq

end OurCalendarViewController

open OurCalendarViewController in
/-- The screen and its calls of the service. -/
structure OurCalendarViewController (Date : Type) where
  selectedDates : List Date
  calendarData : List CalendarEvent
  calendarEventsTableData : List CalendarEvent
  noEventLabelHidden : Bool
  rows : List Row
  sheets : List ActionSheet
  requests : Requests ServiceCall
  presentations : List Presentation

namespace OurCalendarViewController

/-- What UIKit, FSCalendar and the service report to the screen. -/
inductive Event (Date : Type)
  | didSelect (date : Date)
  | didDeselect (date : Date)
  | getCalendarEventsCompleted (call : Nat) (result : Result (List CalendarEvent))
  | removeCalendarEventAnswered (call : Nat) (error : Option FirestoreError)
  | successfullyAdded
  | addButtonTapped
  | cellForRowAt (row cell : Nat)
  | moreTapped (cell : Nat)
  | deleteTapped (sheet : Nat)
  | dismissTapped (sheet : Nat)

/-- The number of the call an event answers. -/
def Event.reply {Date : Type} : Event Date → Option Nat
  | .getCalendarEventsCompleted number _ | .removeCalendarEventAnswered number _ => some number
  | _ => none

/-- The sheet an event answers. -/
def Event.sheet {Date : Type} : Event Date → Option Nat
  | .deleteTapped index | .dismissTapped index => some index
  | _ => none

section Handlers

variable {Date : Type} (dateFormatter : Date → String)

/-- `displayAlert`, a toast, or another screen. -/
def present (screen : OurCalendarViewController Date) (presentation : Presentation) :
    OurCalendarViewController Date :=
  { screen with presentations := screen.presentations ++ [presentation] }

/-- Call the service; the answer comes later. -/
def call (screen : OurCalendarViewController Date) (serviceCall : ServiceCall) :
    OurCalendarViewController Date :=
  { screen with requests := screen.requests.issue serviceCall }

/-- The service answered a call. -/
def answered (screen : OurCalendarViewController Date) (number : Nat) :
    OurCalendarViewController Date :=
  { screen with requests := screen.requests.answer number }

/-- `updateCalendarTableEventsData`. -/
def updateCalendarTableEventsData (screen : OurCalendarViewController Date) :
    OurCalendarViewController Date :=
  let calendarEventsTableData := screen.calendarData.filter fun event =>
    screen.selectedDates.any fun date => dateFormatter date = event.date
  { screen with
    calendarEventsTableData
    noEventLabelHidden := !calendarEventsTableData.isEmpty }

/-- `numberOfEventsFor`: the dots under a date. -/
def numberOfEventsFor (screen : OurCalendarViewController Date) (date : Date) : Nat :=
  if !(screen.calendarData.filter fun event => event.date = dateFormatter date).isEmpty then
    1
  else
    0

/-- `fetchEventsData`. -/
def fetchEventsData (screen : OurCalendarViewController Date) : OurCalendarViewController Date :=
  screen.call .getCalendarEvents

/-- The block of `fetchEventsData`; the observer of `calendarData` updates the table. -/
def fetched (screen : OurCalendarViewController Date) :
    Result (List CalendarEvent) → OurCalendarViewController Date
  | .success calendarEvents =>
      updateCalendarTableEventsData dateFormatter { screen with calendarData := calendarEvents }
  | .failure _ =>
      screen.present
        (.alert "Something went wrong getting dates from server, let anto know :( Sorry! 420"
          "Oops!")

/-- `removeCalendarEvent(calendarEvent:)`. -/
def removeCalendarEvent (screen : OurCalendarViewController Date) (calendarEvent : CalendarEvent) :
    OurCalendarViewController Date :=
  screen.call (.removeCalendarEvent calendarEvent)

/-- The block of `removeCalendarEvent`. -/
def removed (screen : OurCalendarViewController Date) (success : Bool) :
    OurCalendarViewController Date :=
  if success then
    screen.fetchEventsData
  else
    screen.present
      (.alert "Something went wrong attempting to delete this event, let anto know 421!" "Oops!")

/-- `addButtonTapped`. -/
def addButtonTapped (screen : OurCalendarViewController Date) : OurCalendarViewController Date :=
  if screen.selectedDates.isEmpty then
    screen.present
      (.alert "No selected dates! Select at least one date to add an event!" "Oops!")
  else
    screen.present (.addCalendarEvent (screen.selectedDates.map dateFormatter))

/-- `successfullyAdded`. -/
def successfullyAdded (screen : OurCalendarViewController Date) : OurCalendarViewController Date :=
  (screen.present (.toast "Added Events")).fetchEventsData

/-- `tableView(_:cellForRowAt:)` for a row that dequeues a cell, new or reused. -/
def cellForRowAt (screen : OurCalendarViewController Date) (calendarEvent : CalendarEvent)
    (cell : Nat) : OurCalendarViewController Date :=
  match screen.rows[cell]? with
  | some row =>
      { screen with
        rows :=
          screen.rows.set cell
            { calendarEvent, component := row.component.configured calendarEvent } }
  | none =>
      { screen with
        rows :=
          screen.rows ++
            [{ calendarEvent
               component := CalendarEventTableCellComponent.fresh.configured calendarEvent }] }

/-- `calendarMoreTapped`. -/
def calendarMoreTapped (screen : OurCalendarViewController Date) (calendarEvent : CalendarEvent) :
    OurCalendarViewController Date :=
  { screen with sheets := screen.sheets ++ [{ calendarEvent, choice := none }] }

/-- `moreTapped` on a cell's component, through the closure `cellForRowAt` assigned. -/
def moreTapped (screen : OurCalendarViewController Date)
    (component : CalendarEventTableCellComponent) : OurCalendarViewController Date :=
  match component.hasActions, component.calendarEvent with
  | true, some calendarEvent => screen.calendarMoreTapped calendarEvent
  | _, _ => screen

/-- Close a sheet with a choice. -/
def choose (screen : OurCalendarViewController Date) (index : Nat) (sheet : ActionSheet)
    (choice : Choice) : OurCalendarViewController Date :=
  { screen with sheets := screen.sheets.set index { sheet with choice := some choice } }

/-- The screen after `viewDidLoad`. -/
def loaded : OurCalendarViewController Date :=
  fetchEventsData
    { selectedDates := []
      calendarData := []
      calendarEventsTableData := []
      noEventLabelHidden := false
      rows := []
      sheets := []
      requests := .empty
      presentations := [] }

variable [DecidableEq Date]

/-- The transitions of the screen. -/
def machine : Machine (OurCalendarViewController Date) (Event Date) where
  next screen
    | .didSelect date =>
        some
          (updateCalendarTableEventsData dateFormatter
            { screen with
              selectedDates :=
                if date ∈ screen.selectedDates then
                  screen.selectedDates
                else
                  screen.selectedDates ++ [date] })
    | .didDeselect date =>
        some
          (updateCalendarTableEventsData dateFormatter
            { screen with selectedDates := screen.selectedDates.filter (· ≠ date) })
    | .getCalendarEventsCompleted number result =>
        if number ∈ screen.requests.unanswered ∧
            screen.requests.calls[number]? = some .getCalendarEvents then
          some (fetched dateFormatter (screen.answered number) result)
        else
          none
    | .removeCalendarEventAnswered number error =>
        if number ∈ screen.requests.unanswered ∧
            ((screen.requests.calls[number]?).bind ServiceCall.removal).isSome then
          some ((screen.answered number).removed (CalendarServices.removeReported error))
        else
          none
    | .successfullyAdded => some screen.successfullyAdded
    | .addButtonTapped => some (addButtonTapped dateFormatter screen)
    | .cellForRowAt row cell =>
        (screen.calendarEventsTableData[row]?).map fun calendarEvent =>
          screen.cellForRowAt calendarEvent cell
    | .moreTapped cell => (screen.rows[cell]?).map fun row => screen.moreTapped row.component
    | .deleteTapped index =>
        (screen.sheets[index]?).bind fun sheet =>
          if sheet.choice = none then
            some ((screen.choose index sheet .delete).removeCalendarEvent sheet.calendarEvent)
          else
            none
    | .dismissTapped index =>
        (screen.sheets[index]?).bind fun sheet =>
          if sheet.choice = none then some (screen.choose index sheet .dismiss) else none

end Handlers

section Invariants

variable {Date : Type} {dateFormatter : Date → String}
  {screen after : OurCalendarViewController Date} {event : Event Date}

/-! ## What an event changes -/

/-- The events the screen asked the service to remove, oldest first. -/
def removals (screen : OurCalendarViewController Date) : List CalendarEvent :=
  screen.requests.calls.filterMap ServiceCall.removal

/-- The fetched events, the table, the label and the selection are the same. -/
structure SameData (before after : OurCalendarViewController Date) : Prop where
  calendarData : after.calendarData = before.calendarData
  table : after.calendarEventsTableData = before.calendarEventsTableData
  label : after.noEventLabelHidden = before.noEventLabelHidden
  selectedDates : after.selectedDates = before.selectedDates

/-- Everything an event can do to the screen. -/
inductive Change (dateFormatter : Date → String) (screen : OurCalendarViewController Date) :
    Event Date → OurCalendarViewController Date → Prop
  /-- The selection changes, and the table with it. -/
  | selected {event : Event Date} (unasked : event.reply = none) (unconfirmed : event.sheet = none)
      (selectedDates : List Date) :
      Change dateFormatter screen event
        (updateCalendarTableEventsData dateFormatter { screen with selectedDates })
  /-- A fetch succeeds, and the table changes with the list. -/
  | fetched {number : Nat} (unanswered : number ∈ screen.requests.unanswered)
      (calendarEvents : List CalendarEvent) :
      Change dateFormatter screen (.getCalendarEventsCompleted number (.success calendarEvents))
        (updateCalendarTableEventsData dateFormatter
          { screen.answered number with calendarData := calendarEvents })
  /-- Nothing on display changes, and nothing is removed. -/
  | quiet {event : Event Date} {after : OurCalendarViewController Date}
      (same : SameData screen after) (rows : after.rows = screen.rows)
      (sheets : after.sheets = screen.sheets) (removals : after.removals = screen.removals)
      (requests : screen.requests.Step event.reply after.requests)
      (unconfirmed : event.sheet = none)
      (unfetched : ∀ number calendarEvents,
        event ≠ .getCalendarEventsCompleted number (.success calendarEvents)) :
      Change dateFormatter screen event after
  | dequeued {row cell : Nat} {calendarEvent : CalendarEvent}
      (found : screen.calendarEventsTableData[row]? = some calendarEvent) :
      Change dateFormatter screen (.cellForRowAt row cell) (screen.cellForRowAt calendarEvent cell)
  | tapped {cell : Nat} {row : Row} (found : screen.rows[cell]? = some row) :
      Change dateFormatter screen (.moreTapped cell) (screen.moreTapped row.component)
  | deleted {index : Nat} {sheet : ActionSheet} (found : screen.sheets[index]? = some sheet)
      (unanswered : sheet.choice = none) :
      Change dateFormatter screen (.deleteTapped index)
        ((screen.choose index sheet .delete).removeCalendarEvent sheet.calendarEvent)
  | dismissed {index : Nat} {sheet : ActionSheet} (found : screen.sheets[index]? = some sheet)
      (unanswered : sheet.choice = none) :
      Change dateFormatter screen (.dismissTapped index) (screen.choose index sheet .dismiss)

theorem removals_fetchEventsData (screen : OurCalendarViewController Date) :
    screen.fetchEventsData.removals = screen.removals := by
  simp [fetchEventsData, call, removals, Requests.issue, ServiceCall.removal]

theorem next_change [DecidableEq Date]
    (step : (machine dateFormatter).next screen event = some after) :
    Change dateFormatter screen event after := by
  cases event with
  | didSelect date =>
      cases step
      exact .selected rfl rfl _
  | didDeselect date =>
      cases step
      exact .selected rfl rfl _
  | getCalendarEventsCompleted number result =>
      simp only [machine] at step
      split at step
      · next open_call =>
          cases step
          cases result with
          | success calendarEvents => exact .fetched open_call.1 calendarEvents
          | failure reason =>
              exact .quiet ⟨rfl, rfl, rfl, rfl⟩ rfl rfl rfl (.answered open_call.1) rfl (by simp)
      · cases step
  | removeCalendarEventAnswered number error =>
      simp only [machine] at step
      split at step
      · next open_call =>
          cases step
          cases error with
          | none =>
              exact .quiet ⟨rfl, rfl, rfl, rfl⟩ rfl rfl (removals_fetchEventsData _)
                (.continued open_call.1 _) rfl
                (by simp)
          | some error =>
              exact .quiet ⟨rfl, rfl, rfl, rfl⟩ rfl rfl rfl (.answered open_call.1) rfl (by simp)
      · cases step
  | successfullyAdded =>
      cases step
      exact .quiet ⟨rfl, rfl, rfl, rfl⟩ rfl rfl (removals_fetchEventsData _) (.issued _) rfl
        (by simp)
  | addButtonTapped =>
      cases step
      unfold addButtonTapped
      split
      · exact .quiet ⟨rfl, rfl, rfl, rfl⟩ rfl rfl rfl .idle rfl (by simp)
      · exact .quiet ⟨rfl, rfl, rfl, rfl⟩ rfl rfl rfl .idle rfl (by simp)
  | cellForRowAt row cell =>
      obtain ⟨calendarEvent, found, rfl⟩ := Option.map_eq_some_iff.mp step
      exact .dequeued found
  | moreTapped cell =>
      obtain ⟨row, found, rfl⟩ := Option.map_eq_some_iff.mp step
      exact .tapped found
  | deleteTapped index =>
      obtain ⟨sheet, found, chosen⟩ := Option.bind_eq_some_iff.mp step
      split at chosen
      · next unanswered =>
          cases chosen
          exact .deleted found unanswered
      · cases chosen
  | dismissTapped index =>
      obtain ⟨sheet, found, chosen⟩ := Option.bind_eq_some_iff.mp step
      split at chosen
      · next unanswered =>
          cases chosen
          exact .dismissed found unanswered
      · cases chosen

theorem cellForRowAt_eq (screen : OurCalendarViewController Date) (calendarEvent : CalendarEvent)
    (cell : Nat) : ∃ rows, screen.cellForRowAt calendarEvent cell = { screen with rows } := by
  unfold cellForRowAt
  split
  · exact ⟨_, rfl⟩
  · exact ⟨_, rfl⟩

theorem moreTapped_eq (screen : OurCalendarViewController Date)
    (component : CalendarEventTableCellComponent) :
    ∃ sheets, screen.moreTapped component = { screen with sheets } := by
  unfold moreTapped
  split
  · exact ⟨_, rfl⟩
  · exact ⟨_, rfl⟩

theorem sameData_cellForRowAt (screen : OurCalendarViewController Date)
    (calendarEvent : CalendarEvent) (cell : Nat) :
    SameData screen (screen.cellForRowAt calendarEvent cell) := by
  obtain ⟨rows, laid_out⟩ := cellForRowAt_eq screen calendarEvent cell
  rw [laid_out]
  exact ⟨rfl, rfl, rfl, rfl⟩

theorem sameData_moreTapped (screen : OurCalendarViewController Date)
    (component : CalendarEventTableCellComponent) :
    SameData screen (screen.moreTapped component) := by
  obtain ⟨sheets, opened⟩ := moreTapped_eq screen component
  rw [opened]
  exact ⟨rfl, rfl, rfl, rfl⟩

theorem Change.requests (change : Change dateFormatter screen event after) :
    screen.requests.Step event.reply after.requests := by
  cases change with
  | selected unasked unconfirmed selectedDates =>
      rw [unasked]
      exact .idle
  | fetched unanswered calendarEvents => exact .answered unanswered
  | quiet same rows sheets removals requests => exact requests
  | @dequeued row cell calendarEvent found =>
      obtain ⟨rows, laid_out⟩ := cellForRowAt_eq screen calendarEvent cell
      rw [laid_out]
      exact .idle
  | @tapped cell row found =>
      obtain ⟨sheets, opened⟩ := moreTapped_eq screen row.component
      rw [opened]
      exact .idle
  | deleted found unanswered => exact .issued _
  | dismissed found unanswered => exact .idle

/-! ## Derived state -/

/-- The table, the label and the dots show the fetched events of the selected dates. -/
structure InStep (dateFormatter : Date → String) (screen : OurCalendarViewController Date) :
    Prop where
  table : screen.calendarEventsTableData =
    screen.calendarData.filter fun event =>
      decide (∃ date ∈ screen.selectedDates, dateFormatter date = event.date)
  label : screen.noEventLabelHidden = true ↔ screen.calendarEventsTableData ≠ []
  dots : screen.noEventLabelHidden = false ↔
    ∀ date ∈ screen.selectedDates, numberOfEventsFor dateFormatter screen date = 0

theorem numberOfEventsFor_eq_zero_iff {date : Date} :
    numberOfEventsFor dateFormatter screen date = 0 ↔
      ∀ event ∈ screen.calendarData, event.date ≠ dateFormatter date := by
  simp [numberOfEventsFor]

theorem inStep_update (screen : OurCalendarViewController Date) :
    InStep dateFormatter (updateCalendarTableEventsData dateFormatter screen) where
  table := by
    apply List.filter_congr
    intro event _
    apply Bool.eq_iff_iff.mpr
    rw [decide_eq_true_iff]
    simp [updateCalendarTableEventsData]
  label := by simp [updateCalendarTableEventsData]
  dots := by
    simp only [numberOfEventsFor_eq_zero_iff]
    simp only [updateCalendarTableEventsData, Bool.not_eq_false', List.isEmpty_iff,
      List.filter_eq_nil_iff, List.any_eq_true, decide_eq_true_eq, not_exists, not_and]
    constructor
    · intro absent date selected event member same
      exact absent event member date selected same.symm
    · intro absent event member date selected same
      exact absent date selected event member same.symm

theorem InStep.of_sameData (inStep : InStep dateFormatter screen) (same : SameData screen after) :
    InStep dateFormatter after where
  table := by rw [same.table, same.calendarData, same.selectedDates, inStep.table]
  label := by rw [same.label, same.table, inStep.label]
  dots := by
    rw [same.label, same.selectedDates, inStep.dots]
    simp only [numberOfEventsFor_eq_zero_iff, same.calendarData]

theorem InStep.loaded : InStep dateFormatter (loaded : OurCalendarViewController Date) where
  table := rfl
  label := by simp [OurCalendarViewController.loaded, fetchEventsData, call]
  dots := by simp [OurCalendarViewController.loaded, fetchEventsData, call]

theorem InStep.change (inStep : InStep dateFormatter screen)
    (change : Change dateFormatter screen event after) : InStep dateFormatter after := by
  cases change with
  | selected unasked unconfirmed selectedDates => exact inStep_update _
  | fetched unanswered calendarEvents => exact inStep_update _
  | quiet same => exact inStep.of_sameData same
  | dequeued found => exact inStep.of_sameData (sameData_cellForRowAt _ _ _)
  | tapped found => exact inStep.of_sameData (sameData_moreTapped _ _)
  | deleted found unanswered => exact inStep.of_sameData ⟨rfl, rfl, rfl, rfl⟩
  | dismissed found unanswered => exact inStep.of_sameData ⟨rfl, rfl, rfl, rfl⟩

/-- A failed fetch or delete. -/
def Event.Failed : Event Date → Prop
  | .getCalendarEventsCompleted _ (.failure _) | .removeCalendarEventAnswered _ (some _) => True
  | _ => False

theorem Change.sameData_of_failed (change : Change dateFormatter screen event after)
    (failed : event.Failed) : SameData screen after := by
  cases change with
  | @selected event unasked unconfirmed selectedDates =>
      cases event <;> simp_all [Event.Failed, Event.reply]
  | fetched unanswered calendarEvents => exact failed.elim
  | quiet same => exact same
  | dequeued found => exact failed.elim
  | tapped found => exact failed.elim
  | deleted found unanswered => exact failed.elim
  | dismissed found unanswered => exact failed.elim

/-- In every run the table, the label and the dots are in step with the fetched events and the
selection, and a failed fetch or delete changes none of them. -/
theorem run_inStep [DecidableEq Date] {events : List (Event Date)}
    (execution : (machine dateFormatter).run events loaded = some screen) :
    InStep dateFormatter screen ∧
      ∀ event after, event.Failed → (machine dateFormatter).next screen event = some after →
        SameData screen after := by
  constructor
  · exact Machine.run_invariant (InStep dateFormatter)
      (fun inStep step => inStep.change (next_change step)) InStep.loaded execution
  · intro event after failed step
    exact (next_change step).sameData_of_failed failed

/-- A formatter that knows one day. -/
def picnicDay : Unit → String :=
  fun _ => "2020/09/12"

/-- The first fetch lists an event of the selected day, and its row is laid out. -/
def picnicShown : List (Event Unit) :=
  [.didSelect (), .getCalendarEventsCompleted 0 (.success [CalendarDatabase.picnic]),
    .cellForRowAt 0 0]

theorem picnicShown_inStep :
    ∃ screen, (machine picnicDay).run picnicShown loaded = some screen ∧
      InStep picnicDay screen := by
  have runs : ∃ screen, (machine picnicDay).run picnicShown loaded = some screen := ⟨_, rfl⟩
  obtain ⟨screen, execution⟩ := runs
  exact ⟨screen, execution, (run_inStep execution).1⟩

/-! ## Deleting the row that was tapped -/

/-- Every cell acts on the event of its row and shows it. -/
def RowsHold (screen : OurCalendarViewController Date) : Prop :=
  ∀ row ∈ screen.rows, row.component.Holds row.calendarEvent

theorem rowsHold_cellForRowAt (rows : RowsHold screen) (calendarEvent : CalendarEvent)
    (cell : Nat) : RowsHold (screen.cellForRowAt calendarEvent cell) := by
  unfold cellForRowAt
  split
  · intro row member
    rcases List.mem_or_eq_of_mem_set member with member | rfl
    · exact rows row member
    · exact CalendarEventTableCellComponent.holds_configured _ calendarEvent
  · intro row member
    rcases List.mem_append.mp member with member | member
    · exact rows row member
    · rw [List.mem_singleton.mp member]
      exact CalendarEventTableCellComponent.holds_configured _ calendarEvent

theorem moreTapped_of_rowsHold (rows : RowsHold screen) {cell : Nat} {row : Row}
    (found : screen.rows[cell]? = some row) :
    screen.moreTapped row.component = screen.calendarMoreTapped row.calendarEvent := by
  have holds := rows row (List.mem_of_getElem? found)
  simp only [moreTapped, holds.actions, holds.event]

theorem RowsHold.change (rows : RowsHold screen)
    (change : Change dateFormatter screen event after) : RowsHold after := by
  cases change with
  | selected unasked unconfirmed selectedDates => exact rows
  | fetched unanswered calendarEvents => exact rows
  | quiet same rows_eq =>
      intro row member
      rw [rows_eq] at member
      exact rows row member
  | dequeued found => exact rowsHold_cellForRowAt rows _ _
  | tapped found =>
      rw [moreTapped_of_rowsHold rows found]
      exact rows
  | deleted found unanswered => exact rows
  | dismissed found unanswered => exact rows

theorem run_rowsHold [DecidableEq Date] {events : List (Event Date)}
    (execution : (machine dateFormatter).run events loaded = some screen) : RowsHold screen := by
  refine Machine.run_invariant RowsHold (fun rows step => rows.change (next_change step)) ?_
    execution
  intro row member
  cases member

/-- A sheet keeps its event, and is open as long as no event answered it. -/
def SheetKept (shown : CalendarEvent) (index : Nat) (past : List (Event Date))
    (screen : OurCalendarViewController Date) : Prop :=
  ∃ sheet, screen.sheets[index]? = some sheet ∧ sheet.calendarEvent = shown ∧
    (sheet.choice = none ↔ ∀ event ∈ past, event.sheet ≠ some index)

theorem SheetKept.of_sheets_eq {shown : CalendarEvent} {index : Nat} {past : List (Event Date)}
    (kept : SheetKept shown index past screen)
    (sheets : after.sheets[index]? = screen.sheets[index]?)
    (unconfirmed : event.sheet ≠ some index) : SheetKept shown index (past ++ [event]) after := by
  obtain ⟨sheet, found, shown_eq, choice⟩ := kept
  refine ⟨sheet, sheets.trans found, shown_eq, ?_⟩
  simpa [choice, or_imp, forall_and] using fun _ => unconfirmed

theorem SheetKept.of_choose {shown : CalendarEvent} {index : Nat} {past : List (Event Date)}
    (kept : SheetKept shown index past screen) {chosen : Nat} {sheet : ActionSheet}
    {choice : Choice} (found : screen.sheets[chosen]? = some sheet)
    (sheets : after.sheets = screen.sheets.set chosen { sheet with choice := some choice })
    (confirmed : event.sheet = some chosen) : SheetKept shown index (past ++ [event]) after := by
  by_cases same : chosen = index
  · subst same
    obtain ⟨own, found_own, shown_eq, _⟩ := kept
    have own_eq : own = sheet := Option.some.inj (found_own.symm.trans found)
    have bound : chosen < screen.sheets.length := (List.getElem?_eq_some_iff.mp found).1
    refine ⟨{ sheet with choice := some choice }, ?_, own_eq ▸ shown_eq, ?_⟩
    · rw [sheets, List.getElem?_set_self bound]
    · simp only [reduceCtorEq, false_iff]
      intro open_sheet
      exact open_sheet event (List.mem_append_right past List.mem_cons_self) confirmed
  · apply kept.of_sheets_eq
    · rw [sheets, List.getElem?_set_ne same]
    · intro confirmed_own
      exact same (Option.some.inj (confirmed.symm.trans confirmed_own))

theorem SheetKept.change {shown : CalendarEvent} {index : Nat} {past : List (Event Date)}
    (kept : SheetKept shown index past screen) (rows : RowsHold screen)
    (change : Change dateFormatter screen event after) :
    SheetKept shown index (past ++ [event]) after := by
  cases change with
  | selected unasked unconfirmed selectedDates =>
      exact kept.of_sheets_eq rfl (by simp [unconfirmed])
  | fetched unanswered calendarEvents => exact kept.of_sheets_eq rfl (by simp [Event.sheet])
  | quiet same rows_eq sheets removals requests unconfirmed =>
      exact kept.of_sheets_eq (by rw [sheets]) (by simp [unconfirmed])
  | @dequeued row cell calendarEvent found =>
      obtain ⟨rows, laid_out⟩ := cellForRowAt_eq screen calendarEvent cell
      rw [laid_out]
      exact kept.of_sheets_eq rfl (by simp [Event.sheet])
  | tapped found =>
      rw [moreTapped_of_rowsHold rows found]
      obtain ⟨sheet, found_sheet, _⟩ := id kept
      have bound : index < screen.sheets.length := (List.getElem?_eq_some_iff.mp found_sheet).1
      apply kept.of_sheets_eq
      · exact List.getElem?_append_left bound
      · simp [Event.sheet]
  | deleted found unanswered => exact kept.of_choose found rfl rfl
  | dismissed found unanswered => exact kept.of_choose found rfl rfl

/-- Confirming a sheet removes its event; no other event of the screen removes anything. -/
theorem Change.removals (change : Change dateFormatter screen event after) :
    (∃ index sheet, event = .deleteTapped index ∧ screen.sheets[index]? = some sheet ∧
      after.removals = screen.removals ++ [sheet.calendarEvent]) ∨
    ((∀ index, event ≠ .deleteTapped index) ∧ after.removals = screen.removals) := by
  cases change with
  | selected unasked unconfirmed selectedDates =>
      right
      refine ⟨?_, rfl⟩
      intro index same
      simp [same, Event.sheet] at unconfirmed
  | fetched unanswered calendarEvents => exact .inr ⟨by simp, rfl⟩
  | quiet same rows sheets removals requests unconfirmed =>
      right
      refine ⟨?_, removals⟩
      intro index same
      simp [same, Event.sheet] at unconfirmed
  | @dequeued row cell calendarEvent found =>
      obtain ⟨rows, laid_out⟩ := cellForRowAt_eq screen calendarEvent cell
      rw [laid_out]
      exact .inr ⟨by simp, rfl⟩
  | @tapped cell row found =>
      obtain ⟨sheets, opened⟩ := moreTapped_eq screen row.component
      rw [opened]
      exact .inr ⟨by simp, rfl⟩
  | deleted found unanswered =>
      left
      refine ⟨_, _, rfl, found, ?_⟩
      simp [removeCalendarEvent, call, choose, OurCalendarViewController.removals, Requests.issue,
        ServiceCall.removal]
  | dismissed found unanswered => exact .inr ⟨by simp, rfl⟩

variable [DecidableEq Date]

/-- What the sheet opened for a row does after a run: if it is confirmed it asks to remove the event
shown, once, and if it is dismissed it asks for nothing. -/
structure SheetDeletes (dateFormatter : Date → String) (shown : CalendarEvent) (index : Nat)
    (past : List (Event Date)) (screen : OurCalendarViewController Date) : Prop where
  /-- Until it is answered the sheet can be confirmed. -/
  confirmable : (∀ event ∈ past, event.sheet ≠ some index) →
    ∃ after, (machine dateFormatter).next screen (.deleteTapped index) = some after
  /-- Confirming it asks for one removal, of the event shown. -/
  delete : ∀ after, (machine dateFormatter).next screen (.deleteTapped index) = some after →
    after.removals = screen.removals ++ [shown]
  /-- Only confirming a sheet asks for a removal; dismissing it does not. -/
  others : ∀ event after, (∀ sheet, event ≠ .deleteTapped sheet) →
    (machine dateFormatter).next screen event = some after → after.removals = screen.removals
  /-- An answered sheet takes no further answer. -/
  once : (∃ event ∈ past, event.sheet = some index) →
    ∀ event, event.sheet = some index → (machine dateFormatter).next screen event = none
  /-- The removal deletes the document the id names and no other. -/
  target : ∀ write, CalendarServices.removeCalendarEvent shown = some write →
    ∃ key, calendarCollection.document shown.id = some key ∧ ∀ store : Store,
      (write.perform store).lookup key = none ∧
        ∀ other, other ≠ key → (write.perform store).lookup other = store.lookup other
  /-- The document deleted is the event's own exactly for an id as the app assigns them. -/
  own : CalendarServices.DeletesOwn shown ↔ IsDocumentId shown.id

theorem SheetKept.deletes {shown : CalendarEvent} {index : Nat} {past : List (Event Date)}
    (kept : SheetKept shown index past screen) :
    SheetDeletes dateFormatter shown index past screen where
  confirmable := by
    intro unanswered
    obtain ⟨sheet, found, _, choice⟩ := kept
    have open_sheet : sheet.choice = none := choice.mpr unanswered
    exact ⟨_, Option.bind_eq_some_iff.mpr ⟨sheet, found, if_pos open_sheet⟩⟩
  delete := by
    intro after step
    obtain ⟨sheet, found, shown_eq, _⟩ := kept
    rcases (next_change step).removals with ⟨chosen, own, event_eq, found_own, removed⟩ | other
    · cases event_eq
      have own_eq : sheet = own := Option.some.inj (found.symm.trans found_own)
      rw [removed, ← own_eq, shown_eq]
    · exact absurd rfl (other.1 index)
  others := by
    intro event after other step
    rcases (next_change step).removals with ⟨chosen, own, event_eq, _⟩ | ⟨_, unchanged⟩
    · exact absurd event_eq (other chosen)
    · exact unchanged
  once := by
    intro answered event own
    obtain ⟨sheet, found, _, choice⟩ := kept
    have closed : sheet.choice ≠ none := by
      intro open_sheet
      obtain ⟨answer, member, same⟩ := answered
      exact choice.mp open_sheet answer member same
    cases event <;> simp_all [Event.sheet, machine]
  target := CalendarServices.removeCalendarEvent_target
  own := CalendarServices.deletesOwn_iff

/-- In every run, tapping the more button of a cell opens a sheet for the event its row shows, and
whatever happens before that sheet is answered, confirming it asks to delete that event, once. -/
theorem run_delete {front later : List (Event Date)}
    {before tapped : OurCalendarViewController Date} {cell : Nat}
    (reached : (machine dateFormatter).run front loaded = some before)
    (tap : (machine dateFormatter).next before (.moreTapped cell) = some tapped)
    (execution : (machine dateFormatter).run later tapped = some screen) :
    ∃ row, before.rows[cell]? = some row ∧ row.component.Holds row.calendarEvent ∧
      tapped.removals = before.removals ∧
      SheetDeletes dateFormatter row.calendarEvent before.sheets.length later screen := by
  have rows := run_rowsHold reached
  obtain ⟨row, found, tapped_eq⟩ := Option.map_eq_some_iff.mp tap
  rw [moreTapped_of_rowsHold rows found] at tapped_eq
  subst tapped_eq
  have opened : SheetKept row.calendarEvent before.sheets.length ([] : List (Event Date))
      (before.calendarMoreTapped row.calendarEvent) := by
    refine ⟨{ calendarEvent := row.calendarEvent, choice := none }, ?_, rfl, ?_⟩
    · exact List.getElem?_concat_length
    · simp
  have opened_rows : RowsHold (before.calendarMoreTapped row.calendarEvent) := rows
  have kept := Machine.run_past
    (fun past screen => RowsHold screen ∧
      SheetKept row.calendarEvent before.sheets.length past screen)
    (fun holds step =>
      ⟨holds.1.change (next_change step), holds.2.change holds.1 (next_change step)⟩)
    ⟨opened_rows, opened⟩ execution
  exact ⟨row, found, rows row (List.mem_of_getElem? found), rfl, kept.2.deletes⟩

/-- While the sheet is open the list is fetched again, empty, and the row's cell is not reused. -/
def picnicRefetched : List (Event Unit) :=
  [.successfullyAdded, .getCalendarEventsCompleted 1 (.success [])]

theorem picnicRefetched_deletes :
    ∃ before tapped screen, (machine picnicDay).run picnicShown loaded = some before ∧
      (machine picnicDay).next before (.moreTapped 0) = some tapped ∧
      (machine picnicDay).run picnicRefetched tapped = some screen ∧
      ∃ row, before.rows[0]? = some row ∧ row.component.Holds row.calendarEvent ∧
        tapped.removals = before.removals ∧
        SheetDeletes picnicDay row.calendarEvent before.sheets.length picnicRefetched screen := by
  have runs : ∃ before tapped screen, (machine picnicDay).run picnicShown loaded = some before ∧
      (machine picnicDay).next before (.moreTapped 0) = some tapped ∧
      (machine picnicDay).run picnicRefetched tapped = some screen := ⟨_, _, _, rfl, rfl, rfl⟩
  obtain ⟨before, tapped, screen, reached, tap, execution⟩ := runs
  exact ⟨before, tapped, screen, reached, tap, execution, run_delete reached tap execution⟩

/-- An event whose id starts with a slash is shown. -/
def slashedShown : List (Event Unit) :=
  [.didSelect (),
    .getCalendarEventsCompleted 0 (.success [{ CalendarDatabase.picnic with id := "/picnic" }]),
    .cellForRowAt 0 0]

/-- A confirmed deletion need not delete the document of the event shown: with a slash in front
the id names the document of another event. -/
theorem slash_id_deletes_other :
    ¬ ∀ (front later : List (Event Unit)) before tapped screen after cell row,
      (machine picnicDay).run front loaded = some before →
      (machine picnicDay).next before (.moreTapped cell) = some tapped →
      (machine picnicDay).run later tapped = some screen →
      (machine picnicDay).next screen (.deleteTapped before.sheets.length) = some after →
      before.rows[cell]? = some row → CalendarServices.DeletesOwn row.calendarEvent := by
  intro deletes
  have runs : ∃ before tapped after row,
      (machine picnicDay).run slashedShown loaded = some before ∧
      (machine picnicDay).next before (.moreTapped 0) = some tapped ∧
      (machine picnicDay).next tapped (.deleteTapped before.sheets.length) = some after ∧
      before.rows[0]? = some row ∧ row.calendarEvent.id = "/picnic" :=
    ⟨_, _, _, _, rfl, rfl, rfl, rfl, rfl⟩
  obtain ⟨before, tapped, after, row, reached, tap, confirmed, found, id_eq⟩ := runs
  have own := deletes slashedShown [] before tapped tapped after 0 row reached tap rfl confirmed
    found
  have single : IsDocumentId row.calendarEvent.id := CalendarServices.deletesOwn_iff.mp own
  rw [id_eq] at single
  revert single
  decide

end Invariants

end OurCalendarViewController

end Celeste
