import Celeste.CalendarCells
import Celeste.OurCalendar

/-!
# Selected days in a row

The calendar draws consecutive selected days as one shape.  `configure` looks for the neighbours of
a day among the selected instants, and moves its own start by a day to find them.  That works as
long as consecutive selected days start at the same time of day, and this time is not met where it
is repeated: a day whose midnight is skipped is drawn on its own, and so can be the day after one
with two midnights.
-/

namespace Celeste

/-! ## Types of days -/

/-- The type of a day by the days selected. -/
def dayType (days : List ℤ) (day : ℤ) : SelectionType :=
  if day ∈ days then
    if day - 1 ∈ days then
      if day + 1 ∈ days then .middle else .rightBorder
    else if day + 1 ∈ days then .leftBorder
    else .single
  else .none

/-- A longest run of consecutive selected days. -/
structure IsRun (days : List ℤ) (first : ℤ) (length : Nat) : Prop where
  nonempty : 0 < length
  selected : ∀ index < length, first + index ∈ days
  before : first - 1 ∉ days
  after : first + length ∉ days

/-- How a run is drawn: a single day, or from the left border to the right one. -/
def runTypes : Nat → List SelectionType
  | 0 => []
  | 1 => [.single]
  | inner + 2 => .leftBorder :: (List.replicate inner .middle ++ [.rightBorder])

theorem IsRun.map_dayType {days : List ℤ} {first : ℤ} {length : Nat}
    (run : IsRun days first length) :
    ((List.range length).map fun index : Nat => dayType days (first + index)) =
      runTypes length := by
  match length, run with
  | 0, run => exact absurd run.nonempty (Nat.lt_irrefl 0)
  | 1, run =>
      have selected : first ∈ days := by simpa using run.selected 0 Nat.one_pos
      have before := run.before
      have after : first + 1 ∉ days := run.after
      simp [runTypes, dayType, selected, before, after]
  | inner + 2, run =>
      have left : dayType days (first + (0 : Nat)) = .leftBorder := by
        have selected : first ∈ days := by simpa using run.selected 0 (by omega)
        have next : first + 1 ∈ days := by simpa using run.selected 1 (by omega)
        simp [dayType, selected, next, run.before]
      have right : dayType days (first + (inner + 1 : Nat)) = .rightBorder := by
        have selected := run.selected (inner + 1) (by omega)
        have previous := run.selected inner (by omega)
        have after := run.after
        have previous_eq : first + (inner + 1 : Nat) - 1 = first + inner := by omega
        have after_eq : first + (inner + 1 : Nat) + 1 = first + (inner + 2 : Nat) := by omega
        rw [dayType, previous_eq, after_eq, if_pos selected, if_pos previous, if_neg after]
      have middle : ∀ index ∈ List.range inner,
          dayType days (first + (index + 1 : Nat)) = .middle := by
        intro index member
        have bound := List.mem_range.mp member
        have selected := run.selected (index + 1) (by omega)
        have previous := run.selected index (by omega)
        have next := run.selected (index + 2) (by omega)
        have previous_eq : first + (index + 1 : Nat) - 1 = first + index := by omega
        have next_eq : first + (index + 1 : Nat) + 1 = first + (index + 2 : Nat) := by omega
        rw [dayType, previous_eq, next_eq, if_pos selected, if_pos previous, if_pos next]
      rw [List.range_succ, List.range_succ_eq_map, List.map_append, List.map_cons, List.map_map,
        List.map_singleton, left, right, runTypes, List.cons_append]
      congr 2
      exact List.eq_replicate_iff.mpr ⟨by simp, by simpa using middle⟩

/-! ## Types of dates -/

section Zone

variable (zone : TimeZone)

/-- The first instant of its civil day. -/
def IsStart (date : ℤ) : Prop :=
  zone.startOfDay (zone.day date) = date

instance (date : ℤ) : Decidable (IsStart zone date) :=
  inferInstanceAs (Decidable (_ = _))

/-- The civil days of some dates. -/
def civilDays (dates : List ℤ) : List ℤ :=
  dates.map zone.day

/-- No selected day follows a skipped one; consecutive selected days start at one time, and neither
start moved to the other day meets a repetition of this time. -/
structure Aligned (days : List ℤ) : Prop where
  previous : ∀ day ∈ days, zone.Occurs (day - 1)
  startTime : ∀ day ∈ days, day + 1 ∈ days → zone.startTime (day + 1) = zone.startTime day
  forward : ∀ day ∈ days, day + 1 ∈ days → ¬ zone.LeadsToRepetition 1 (zone.startOfDay day)
  backward : ∀ day ∈ days, day + 1 ∈ days →
    ¬ zone.LeadsToRepetition (-1) (zone.startOfDay (day + 1))

variable {zone} {dates : List ℤ}

theorem isStart_startOfDay (day : ℤ) : IsStart zone (zone.startOfDay day) :=
  TimeZone.startOfDay_day_startOfDay day

theorem mem_dates_iff (starts : ∀ date ∈ dates, IsStart zone date) {date : ℤ} :
    date ∈ dates ↔ IsStart zone date ∧ zone.day date ∈ civilDays zone dates := by
  constructor
  · intro member
    exact ⟨starts date member, List.mem_map_of_mem member⟩
  · intro both
    obtain ⟨other, member, same⟩ := List.mem_map.mp both.2
    have date_eq : date = other := by rw [← both.1, ← same, starts other member]
    exact date_eq ▸ member

theorem occurs_of_mem {day : ℤ} (member : day ∈ civilDays zone dates) : zone.Occurs day := by
  obtain ⟨date, -, rfl⟩ := List.mem_map.mp member
  exact TimeZone.occurs_day date

theorem startOfDay_mem_iff (starts : ∀ date ∈ dates, IsStart zone date) {day : ℤ}
    (occurs : zone.Occurs day) :
    zone.startOfDay day ∈ dates ↔ day ∈ civilDays zone dates := by
  rw [mem_dates_iff starts, occurs]
  exact and_iff_right (isStart_startOfDay day)

/-- A neighbour that occurs is found if it is selected, starts no earlier, and its time is not met
at a repetition. -/
theorem addDays_mem_iff (starts : ∀ date ∈ dates, IsStart zone date) {count day other : ℤ}
    (moved : day + count = other) (occurs : zone.Occurs day) (other_occurs : zone.Occurs other) :
    zone.addDays count (zone.startOfDay day) ∈ dates ↔
      other ∈ civilDays zone dates ∧ zone.startTime day ≤ zone.startTime other ∧
        ¬ zone.LeadsToRepetition count (zone.startOfDay day) := by
  subst moved
  rw [mem_dates_iff starts, IsStart, TimeZone.day_addDays occurs other_occurs,
    ← TimeZone.addDays_eq_startOfDay_iff, eq_comm, and_comm]

theorem addDays_mem_iff_of_skipped (starts : ∀ date ∈ dates, IsStart zone date)
    {count day other : ℤ} (moved : day + count = other) (occurs : zone.Occurs day)
    (skipped : ¬ zone.Occurs other) :
    zone.addDays count (zone.startOfDay day) ∈ dates ↔
      zone.day (zone.startOfDay other) ∈ civilDays zone dates := by
  subst moved
  rw [TimeZone.addDays_of_skipped occurs skipped, mem_dates_iff starts]
  exact and_iff_right (isStart_startOfDay (day + count))

theorem day_startOfDay_sub_one {day : ℤ} (occurs : zone.Occurs day)
    (skipped : ¬ zone.Occurs (day - 1)) : zone.day (zone.startOfDay (day - 1)) = day := by
  have entered : day - 1 ≤ zone.day (zone.startOfDay (day - 1)) :=
    TimeZone.le_day_startOfDay (day - 1)
  have different : zone.day (zone.startOfDay (day - 1)) ≠ day - 1 := skipped
  have same : zone.startOfDay (day - 1) = zone.startOfDay day := by
    apply le_antisymm
    · exact TimeZone.startOfDay_mono (by omega)
    · exact TimeZone.startOfDay_le (by omega)
  rw [same]
  exact occurs

/-- The start of a day, moved by a day, is found among the dates exactly if that neighbour is
selected. -/
def FindsNeighbours (zone : TimeZone) (dates : List ℤ) (day : ℤ) : Prop :=
  (zone.addDays (-1) (zone.startOfDay day) ∈ dates ↔ day - 1 ∈ civilDays zone dates) ∧
    (zone.addDays 1 (zone.startOfDay day) ∈ dates ↔ day + 1 ∈ civilDays zone dates)

/-- In an aligned selection every selected day finds its neighbours. -/
theorem Aligned.findsNeighbours (aligned : Aligned zone (civilDays zone dates))
    (starts : ∀ date ∈ dates, IsStart zone date) {day : ℤ}
    (selected : day ∈ civilDays zone dates) : FindsNeighbours zone dates day := by
  have occurs := occurs_of_mem selected
  constructor
  · have previous := aligned.previous day selected
    have follows : day - 1 + 1 = day := by omega
    rw [addDays_mem_iff starts (by omega) occurs previous]
    refine and_iff_left_of_imp ?_
    intro member
    have same := aligned.startTime (day - 1) member (follows.symm ▸ selected)
    have first := aligned.backward (day - 1) member (follows.symm ▸ selected)
    rw [follows] at same first
    exact ⟨same.le, first⟩
  · by_cases next : zone.Occurs (day + 1)
    · rw [addDays_mem_iff starts rfl occurs next]
      refine and_iff_left_of_imp ?_
      intro member
      exact ⟨(aligned.startTime day selected member).ge, aligned.forward day selected member⟩
    · rw [addDays_mem_iff_of_skipped starts rfl occurs next]
      constructor
      · intro member
        -- the day found follows a skipped day
        have previous := aligned.previous _ member
        have entered : day + 1 ≤ zone.day (zone.startOfDay (day + 1)) :=
          TimeZone.le_day_startOfDay (day + 1)
        have different : zone.day (zone.startOfDay (day + 1)) ≠ day + 1 := next
        have between : ¬ zone.Occurs (zone.day (zone.startOfDay (day + 1)) - 1) :=
          @TimeZone.not_occurs_of_lt zone (day + 1) _ (by omega) (by omega)
        exact absurd previous between
      · intro member
        exact absurd (occurs_of_mem member) next

/-- Where all selected days find their neighbours, the selection is aligned. -/
theorem aligned_of_findsNeighbours (starts : ∀ date ∈ dates, IsStart zone date)
    (finds : ∀ day ∈ civilDays zone dates, FindsNeighbours zone dates day) :
    Aligned zone (civilDays zone dates) := by
  have previous : ∀ day ∈ civilDays zone dates, zone.Occurs (day - 1) := by
    intro day selected
    by_contra skipped
    have occurs := occurs_of_mem selected
    have found : zone.addDays (-1) (zone.startOfDay day) ∈ dates := by
      rw [addDays_mem_iff_of_skipped starts (by omega) occurs skipped]
      exact (day_startOfDay_sub_one occurs skipped).symm ▸ selected
    exact skipped (occurs_of_mem ((finds day selected).1.mp found))
  have forward : ∀ day ∈ civilDays zone dates, day + 1 ∈ civilDays zone dates →
      zone.startTime day ≤ zone.startTime (day + 1) ∧
        ¬ zone.LeadsToRepetition 1 (zone.startOfDay day) := by
    intro day selected next
    exact ((addDays_mem_iff starts rfl (occurs_of_mem selected) (occurs_of_mem next)).mp
      ((finds day selected).2.mpr next)).2
  have backward : ∀ day ∈ civilDays zone dates, day + 1 ∈ civilDays zone dates →
      zone.startTime (day + 1) ≤ zone.startTime day ∧
        ¬ zone.LeadsToRepetition (-1) (zone.startOfDay (day + 1)) := by
    intro day selected next
    have precedes : day + 1 - 1 = day := by omega
    exact ((addDays_mem_iff starts (by omega) (occurs_of_mem next) (occurs_of_mem selected)).mp
      ((finds (day + 1) next).1.mpr (precedes.symm ▸ selected))).2
  exact
    { previous
      startTime := fun day selected next =>
        le_antisymm (backward day selected next).1 (forward day selected next).1
      forward := fun day selected next => (forward day selected next).2
      backward := fun day selected next => (backward day selected next).2 }

/-- The cell of a day gets the type of the day exactly if it finds its neighbours. -/
theorem selectionType_eq_dayType_iff (starts : ∀ date ∈ dates, IsStart zone date) {day : ℤ}
    (occurs : zone.Occurs day) {content : CellContent} (date : content.date = zone.startOfDay day)
    (selectedDates : content.selectedDates = dates) :
    content.selectionType zone = dayType (civilDays zone dates) day ↔
      (day ∈ civilDays zone dates → FindsNeighbours zone dates day) := by
  have chosen := startOfDay_mem_iff starts occurs
  rw [CellContent.selectionType, date, selectedDates, dayType, FindsNeighbours]
  by_cases selected : day ∈ civilDays zone dates
  · by_cases previous : day - 1 ∈ civilDays zone dates
    · by_cases next : day + 1 ∈ civilDays zone dates
      · simp only [chosen, selected, previous, next, if_true, iff_true, forall_const]
        grind
      · simp only [chosen, selected, previous, next, if_true, if_false, iff_true, iff_false,
          forall_const]
        grind
    · by_cases next : day + 1 ∈ civilDays zone dates
      · simp only [chosen, selected, previous, next, if_true, if_false, iff_true, iff_false,
          forall_const]
        grind
      · simp only [chosen, selected, previous, next, if_true, if_false, iff_false, forall_const]
        grind
  · simp [chosen, selected]

end Zone

/-! ## The selection -/

namespace OurCalendarViewController

/-- The selection after an event. -/
def Event.selection (selectedDates : List ℤ) : Event ℤ → List ℤ
  | .didSelect date => if date ∈ selectedDates then selectedDates else selectedDates ++ [date]
  | .didDeselect date => selectedDates.filter (· ≠ date)
  | _ => selectedDates

variable {dateFormatter : ℤ → String} {screen after : OurCalendarViewController ℤ}
  {event : Event ℤ}

theorem next_selectedDates (step : (machine dateFormatter).next screen event = some after) :
    after.selectedDates = event.selection screen.selectedDates := by
  cases event with
  | didSelect date =>
      cases step
      rfl
  | didDeselect date =>
      cases step
      rfl
  | getCalendarEventsCompleted number result =>
      obtain ⟨-, fetched⟩ := Option.ite_none_right_eq_some.mp step
      cases fetched
      cases result with
      | success calendarEvents => rfl
      | failure reason => rfl
  | removeCalendarEventAnswered number error =>
      obtain ⟨-, removed⟩ := Option.ite_none_right_eq_some.mp step
      cases removed
      cases error with
      | none => rfl
      | some error => rfl
  | successfullyAdded =>
      cases step
      rfl
  | addButtonTapped =>
      cases step
      rw [addButtonTapped]
      split
      · rfl
      · rfl
  | cellForRowAt row cell =>
      obtain ⟨calendarEvent, -, rfl⟩ := Option.map_eq_some_iff.mp step
      exact (sameData_cellForRowAt screen calendarEvent cell).selectedDates
  | moreTapped cell =>
      obtain ⟨row, -, rfl⟩ := Option.map_eq_some_iff.mp step
      exact (sameData_moreTapped screen row.component).selectedDates
  | deleteTapped index =>
      obtain ⟨sheet, -, chosen⟩ := Option.bind_eq_some_iff.mp step
      obtain ⟨-, deleted⟩ := Option.ite_none_right_eq_some.mp chosen
      cases deleted
      rfl
  | dismissTapped index =>
      obtain ⟨sheet, -, chosen⟩ := Option.bind_eq_some_iff.mp step
      obtain ⟨-, dismissed⟩ := Option.ite_none_right_eq_some.mp chosen
      cases dismissed
      rfl

end OurCalendarViewController

/-! ## The cells on display -/

/-- The type a cell draws. -/
def OurCalendarCell.drawnType (cell : OurCalendarCell) : SelectionType :=
  if cell.selectionLayerHidden then .none else cell.selectionType

theorem drawnType_configure (zone : TimeZone) (content : CellContent) (cell : OurCalendarCell) :
    (content.configure zone cell).drawnType = content.shownType zone := by
  rw [CellContent.configure_eq, OurCalendarCell.drawnType]
  by_cases unselected : content.shownType zone = .none
  · simp [unselected]
  · simp [unselected]

theorem drawnType_layoutIfNeeded (cell : OurCalendarCell) :
    cell.layoutIfNeeded.drawnType = cell.drawnType := by
  rw [OurCalendarCell.layoutIfNeeded, OurCalendarCell.layoutSubviews_eq]
  split
  · rfl
  · rfl

/-- A visible cell, with what `date(for:)` and `monthPosition(for:)` give for it. -/
structure PlacedCell where
  date : ℤ
  position : FSCalendarMonthPosition
  cell : OurCalendarCell

/-- The calendar screen and its visible cells. -/
structure CalendarGrid where
  screen : OurCalendarViewController ℤ
  visible : List PlacedCell

namespace CalendarGrid

/-- An event of the screen, or of the cells; `today` is the civil day it finds. -/
inductive Event
  | screen (event : OurCalendarViewController.Event ℤ) (today : ℤ)
  | willDisplay (date : ℤ) (position : FSCalendarMonthPosition) (cell : OurCalendarCell)
      (today : ℤ)
  | didEndDisplaying (index : Nat)
  | layoutIfNeeded

/-- The screen has loaded, without cells. -/
def loaded : CalendarGrid where
  screen := .loaded
  visible := []

section Machine

variable (dateFormatter : ℤ → String) (zone : TimeZone)

/-- What `configure` is given for a cell. -/
def content (grid : CalendarGrid) (date : ℤ) (position : FSCalendarMonthPosition) (today : ℤ) :
    CellContent where
  date := date
  position := position
  selectedDates := grid.screen.selectedDates
  today := today

/-- `configureVisibleCells`. -/
def configureVisibleCells (grid : CalendarGrid) (today : ℤ) : CalendarGrid :=
  { grid with
    visible := grid.visible.map fun placed =>
      { placed with
        cell := (grid.content placed.date placed.position today).configure zone placed.cell } }

/-- The screen has handled an event; a changed selection configures the visible cells. -/
def shows (grid : CalendarGrid) (today : ℤ) (screen : OurCalendarViewController ℤ) :
    OurCalendarViewController.Event ℤ → CalendarGrid
  | .didSelect _ | .didDeselect _ => { grid with screen }.configureVisibleCells zone today
  | _ => { grid with screen }

/-- A date FSCalendar selects is the first instant of a day. -/
def selectsStart : OurCalendarViewController.Event ℤ → Bool
  | .didSelect date => IsStart zone date
  | _ => true

/-- The transitions; a cell about to be displayed may be new or reused. -/
def machine : Machine CalendarGrid Event where
  next grid
    | .screen event today =>
        if selectsStart zone event = true then
          ((OurCalendarViewController.machine dateFormatter).next grid.screen event).map
            fun screen => grid.shows zone today screen event
        else none
    | .willDisplay date position cell today =>
        if IsStart zone date then
          some { grid with
            visible := grid.visible ++
              [{ date, position
                 cell := (grid.content date position today).configure zone cell }] }
        else none
    | .didEndDisplaying index => some { grid with visible := grid.visible.eraseIdx index }
    | .layoutIfNeeded =>
        some { grid with
          visible := grid.visible.map fun placed =>
            { placed with cell := placed.cell.layoutIfNeeded } }

end Machine

/-- The civil days selected. -/
def selectedDays (zone : TimeZone) (grid : CalendarGrid) : List ℤ :=
  civilDays zone grid.screen.selectedDates

/-- The cells of the current month are drawn by the selected days: those visible, and any cell that
would be configured for a day; a run of selected days is drawn as one. -/
structure DrawsRuns (zone : TimeZone) (grid : CalendarGrid) : Prop where
  visible : ∀ placed ∈ grid.visible, placed.position = .current →
    placed.cell.drawnType = dayType (grid.selectedDays zone) (zone.day placed.date)
  cells : ∀ (cell : OurCalendarCell) (day today : ℤ), zone.Occurs day →
    ((grid.content (zone.startOfDay day) .current today).configure zone cell).drawnType =
      dayType (grid.selectedDays zone) day
  runs : ∀ (cells : ℤ → OurCalendarCell) (today first : ℤ) (length : Nat),
    IsRun (grid.selectedDays zone) first length →
      ((List.range length).map fun index : Nat =>
        ((grid.content (zone.startOfDay (first + index)) .current today).configure zone
          (cells (first + index))).drawnType) = runTypes length

variable {zone : TimeZone} {dateFormatter : ℤ → String} {before after : CalendarGrid}
  {event : Event}

/-- Selected dates are starts of days, and visible cells show the present selection. -/
structure UpToDate (zone : TimeZone) (grid : CalendarGrid) : Prop where
  starts : ∀ date ∈ grid.screen.selectedDates, IsStart zone date
  visible : ∀ placed ∈ grid.visible, IsStart zone placed.date ∧
    ∀ today, placed.cell.drawnType =
      (grid.content placed.date placed.position today).shownType zone

theorem UpToDate.loaded : UpToDate zone loaded where
  starts _ member := absurd member List.not_mem_nil
  visible _ member := absurd member List.not_mem_nil

theorem upToDate_configureVisibleCells {grid : CalendarGrid} (today : ℤ)
    (starts : ∀ date ∈ grid.screen.selectedDates, IsStart zone date)
    (placed_starts : ∀ placed ∈ grid.visible, IsStart zone placed.date) :
    UpToDate zone (grid.configureVisibleCells zone today) where
  starts := starts
  visible := by
    intro configured member
    obtain ⟨placed, shown, rfl⟩ := List.mem_map.mp member
    refine ⟨placed_starts placed shown, ?_⟩
    intro later
    exact drawnType_configure zone _ placed.cell

theorem UpToDate.of_selectedDates (upToDate : UpToDate zone before)
    {screen : OurCalendarViewController ℤ}
    (same : screen.selectedDates = before.screen.selectedDates) :
    UpToDate zone { before with screen } where
  starts := by
    intro date member
    exact upToDate.starts date (same ▸ member)
  visible := by
    intro placed member
    have shown := upToDate.visible placed member
    simp only [content, same]
    exact shown

theorem UpToDate.next (upToDate : UpToDate zone before)
    (step : (machine dateFormatter zone).next before event = some after) :
    UpToDate zone after := by
  cases event with
  | screen event today =>
      obtain ⟨start, handled⟩ := Option.ite_none_right_eq_some.mp step
      obtain ⟨screen, screen_step, rfl⟩ := Option.map_eq_some_iff.mp handled
      have selection := OurCalendarViewController.next_selectedDates screen_step
      have placed_starts : ∀ placed ∈ before.visible, IsStart zone placed.date :=
        fun placed member => (upToDate.visible placed member).1
      cases event with
      | didSelect date =>
          refine upToDate_configureVisibleCells today ?_ placed_starts
          intro other member
          have chosen : other ∈ before.screen.selectedDates ∨ other = date := by
            simp only [selection, OurCalendarViewController.Event.selection] at member
            split at member
            · exact .inl member
            · simpa using member
          rcases chosen with old | new
          · exact upToDate.starts other old
          · exact new ▸ of_decide_eq_true start
      | didDeselect date =>
          refine upToDate_configureVisibleCells today ?_ placed_starts
          intro other member
          simp only [selection, OurCalendarViewController.Event.selection] at member
          exact upToDate.starts other (List.mem_filter.mp member).1
      | getCalendarEventsCompleted | removeCalendarEventAnswered | successfullyAdded
      | addButtonTapped | cellForRowAt | moreTapped | deleteTapped | dismissTapped =>
          exact upToDate.of_selectedDates selection
  | willDisplay date position cell today =>
      obtain ⟨start, result⟩ := Option.ite_none_right_eq_some.mp step
      cases result
      refine ⟨upToDate.starts, ?_⟩
      intro placed member
      rcases List.mem_append.mp member with old | new
      · exact upToDate.visible placed old
      · rw [List.mem_singleton.mp new]
        exact ⟨start, fun later => drawnType_configure zone _ cell⟩
  | didEndDisplaying index =>
      cases step
      exact ⟨upToDate.starts,
        fun placed member => upToDate.visible placed (List.mem_of_mem_eraseIdx member)⟩
  | layoutIfNeeded =>
      cases step
      refine ⟨upToDate.starts, ?_⟩
      intro laid_out member
      obtain ⟨placed, shown, rfl⟩ := List.mem_map.mp member
      have placed_shows := upToDate.visible placed shown
      refine ⟨placed_shows.1, ?_⟩
      intro today
      rw [drawnType_layoutIfNeeded]
      exact placed_shows.2 today

theorem UpToDate.drawsRuns_iff {grid : CalendarGrid} (upToDate : UpToDate zone grid) :
    grid.DrawsRuns zone ↔ Aligned zone (grid.selectedDays zone) := by
  have types : ∀ day today, zone.Occurs day →
      ((grid.content (zone.startOfDay day) .current today).shownType zone =
        dayType (grid.selectedDays zone) day ↔
          (day ∈ grid.selectedDays zone → FindsNeighbours zone grid.screen.selectedDates day)) :=
    fun day today occurs => selectionType_eq_dayType_iff upToDate.starts occurs rfl rfl
  constructor
  · intro draws
    refine aligned_of_findsNeighbours upToDate.starts ?_
    intro day selected
    have occurs := occurs_of_mem selected
    have drawn := draws.cells (.fresh ⟨0, 0⟩) day 0 occurs
    rw [drawnType_configure] at drawn
    exact (types day 0 occurs).mp drawn selected
  · intro aligned
    have shown : ∀ day today, zone.Occurs day →
        (grid.content (zone.startOfDay day) .current today).shownType zone =
          dayType (grid.selectedDays zone) day :=
      fun day today occurs => (types day today occurs).mpr
        (aligned.findsNeighbours upToDate.starts)
    have cells : ∀ (cell : OurCalendarCell) (day today : ℤ), zone.Occurs day →
        ((grid.content (zone.startOfDay day) .current today).configure zone cell).drawnType =
          dayType (grid.selectedDays zone) day := by
      intro cell day today occurs
      rw [drawnType_configure, shown day today occurs]
    refine ⟨?_, cells, ?_⟩
    · intro placed member current
      obtain ⟨start, drawn⟩ := upToDate.visible placed member
      have day_shown := shown (zone.day placed.date) 0 (TimeZone.occurs_day placed.date)
      rw [start] at day_shown
      rw [drawn 0, current, day_shown]
    · intro cells_of today first length run
      rw [← run.map_dayType]
      apply List.map_congr_left
      intro index member
      have bound := List.mem_range.mp member
      exact cells _ _ _ (occurs_of_mem (run.selected index bound))

/-- After every run the visible cells show the present selection, and selected days are drawn as
runs exactly if none follows a skipped day and consecutive ones start at the same time of day, which
is not met at a repetition. -/
theorem run_drawsRuns_iff {events : List Event} {grid : CalendarGrid}
    (execution : (machine dateFormatter zone).run events loaded = some grid) :
    grid.DrawsRuns zone ↔ Aligned zone (grid.selectedDays zone) := by
  have upToDate := Machine.run_invariant (UpToDate zone) UpToDate.next .loaded execution
  exact upToDate.drawsRuns_iff

theorem exists_run_selecting {dates : List ℤ} (starts : ∀ date ∈ dates, IsStart zone date)
    (nodup : dates.Nodup) :
    ∃ events grid, (machine dateFormatter zone).run events loaded = some grid ∧
      grid.screen.selectedDates = dates := by
  suffices selecting : ∀ (dates : List ℤ) (before : CalendarGrid),
      (before.screen.selectedDates ++ dates).Nodup → (∀ date ∈ dates, IsStart zone date) →
      ∃ events grid, (machine dateFormatter zone).run events before = some grid ∧
        grid.screen.selectedDates = before.screen.selectedDates ++ dates from
    selecting dates loaded nodup starts
  intro dates
  induction dates with
  | nil =>
      intro before _ _
      exact ⟨[], before, rfl, (List.append_nil _).symm⟩
  | cons date dates ih =>
      intro before distinct starts
      have step : ∃ middle, (machine dateFormatter zone).next before (.screen (.didSelect date) 0) =
          some middle ∧ middle.screen.selectedDates = before.screen.selectedDates ++ [date] := by
        have fresh : date ∉ before.screen.selectedDates := by
          intro member
          exact (List.nodup_append.mp distinct).2.2 date member date List.mem_cons_self rfl
        have start : IsStart zone date := starts date List.mem_cons_self
        refine ⟨_, if_pos (decide_eq_true start), ?_⟩
        exact if_neg fresh
      obtain ⟨middle, step, selected⟩ := step
      have rest := ih middle (by simpa [selected] using distinct)
        (fun other member => starts other (List.mem_cons_of_mem date member))
      obtain ⟨events, grid, execution, result⟩ := rest
      refine ⟨.screen (.didSelect date) 0 :: events, grid, ?_, ?_⟩
      · exact (Machine.run_cons_eq_some _).mpr ⟨middle, step, execution⟩
      · rw [result, selected, List.append_assoc, List.singleton_append]

end CalendarGrid

/-! ## A skipped midnight -/

/-- No day skips noon where the clock is put forward from midnight to one o'clock. -/
theorem saoPaulo_steady (instant : ℤ) :
    let localTime := TimeZone.forwardReading 1541300400 (-10800) (-7200)
    let firstInstant := TimeZone.forwardInstant 1541300400 (-10800) (-7200)
    localTime (firstInstant (localTime instant / 86400 * 86400 + 43200)) =
      localTime instant / 86400 * 86400 + 43200 := by
  simp only [TimeZone.forwardReading, TimeZone.forwardInstant]
  omega

theorem saoPaulo_least (reading : ℤ) :
    IsLeast {instant | reading ≤ TimeZone.forwardReading 1541300400 (-10800) (-7200) instant}
      (TimeZone.forwardInstant 1541300400 (-10800) (-7200) reading) :=
  TimeZone.isLeast_forwardInstant (by omega) reading

theorem noon_range : (0 : ℤ) ≤ 43200 ∧ (43200 : ℤ) < 86400 := by omega

/-- The clock of São Paulo around 4 November 2018, day 17839, which starts at one o'clock. -/
def saoPaulo : TimeZone where
  localTime := TimeZone.forwardReading 1541300400 (-10800) (-7200)
  firstInstant := TimeZone.forwardInstant 1541300400 (-10800) (-7200)
  least := saoPaulo_least
  lastInstant := TimeZone.forwardInstant 1541300400 (-10800) (-7200)
  latest := TimeZone.forwardInstant_latest (by omega)
  steadyTime := 43200
  steadyTime_range := noon_range
  steady := saoPaulo_steady

namespace CalendarGrid

/-- Three days in a row are selected from the third of November, and the fourth is displayed. -/
def novemberEvents : List Event :=
  [.screen (.didSelect (saoPaulo.startOfDay 17838)) 17838,
    .screen (.didSelect (saoPaulo.startOfDay 17839)) 17838,
    .screen (.didSelect (saoPaulo.startOfDay 17840)) 17838,
    .willDisplay (saoPaulo.startOfDay 17839) .current (.fresh ⟨40, 40⟩) 17838]

theorem novemberEvents_drawsRuns_iff :
    ∃ grid, (machine (fun _ => "") saoPaulo).run novemberEvents loaded = some grid ∧
      (grid.DrawsRuns saoPaulo ↔ Aligned saoPaulo (grid.selectedDays saoPaulo)) := by
  have runs : ∃ grid, (machine (fun _ => "") saoPaulo).run novemberEvents loaded = some grid :=
    ⟨_, rfl⟩
  obtain ⟨grid, execution⟩ := runs
  exact ⟨grid, execution, run_drawsRuns_iff execution⟩

/-- The fourth of November is drawn on its own between its selected neighbours. -/
theorem novemberEvents_draws_single :
    ∃ grid, (machine (fun _ => "") saoPaulo).run novemberEvents loaded = some grid ∧
      grid.selectedDays saoPaulo = [17838, 17839, 17840] ∧
      grid.visible.map (fun placed => (saoPaulo.day placed.date, placed.cell.drawnType)) =
        [(17839, .single)] ∧
      ¬ grid.DrawsRuns saoPaulo := by
  refine ⟨_, rfl, by decide, by decide, ?_⟩
  intro draws
  have drawn := draws.visible _ List.mem_cons_self rfl
  exact absurd drawn (by decide)

end CalendarGrid

end Celeste
