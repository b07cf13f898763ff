import Celeste.CalendarDatabase

/-!
# Adding calendar events

The form that posts one event per selected date.  A batch of writes is issued at once and every
write reports on its own, in any order, also after the screen is gone.  The trace of a batch shows
when the service completed and what the screen did then: `postCalendarEvents` completes with `true`
before any write has reported, so only the empty batch is reported honestly.
-/

namespace Celeste

namespace AddCalendarEventViewController

/-! ## The form -/

/-- What `submitTapped` leads to. -/
inductive Submission
  | displayAlert (message title : String)
  | postCalendarEvents (calendarEvents : List CalendarEvent)
  deriving DecidableEq

/-- The text fields of the form. -/
structure Form where
  eventTitle : Option String
  eventType : Option String
  eventLocation : Option String
  eventDescription : Option String

/-- `AddCalendarEventViewController.submitTapped`, with one UUID per selected date. -/
def submitTapped (selectedDates uuidStrings : List String) (form : Form) : Submission :=
  let eventName := form.eventTitle.getD ""
  let eventTypeString := form.eventType.getD ""
  if eventName = "" then
    .displayAlert "Please make sure to include an event name!" "Event name pls!"
  else if eventTypeString = "" then
    .displayAlert "Please make sure to select an event type!" "Event type pls!"
  else
    match EventType.ofRawValue eventTypeString with
    | none => .displayAlert "Please make sure to select an event type!" "Event type pls!"
    | some eventType =>
        .postCalendarEvents
          ((selectedDates.zip uuidStrings).map fun (date, id) =>
            { id
              date
              eventType
              eventLocation := form.eventLocation
              eventDescription := form.eventDescription
              eventTitle := eventName })

/-- A submitted batch has one event for each selected date, under the UUID drawn for it. -/
theorem submitTapped_batch {selectedDates uuidStrings : List String} {form : Form}
    {calendarEvents : List CalendarEvent} (drawn : uuidStrings.length = selectedDates.length)
    (submitted : submitTapped selectedDates uuidStrings form = .postCalendarEvents calendarEvents) :
    calendarEvents.map CalendarEvent.date = selectedDates ∧
      calendarEvents.map CalendarEvent.id = uuidStrings := by
  simp only [submitTapped] at submitted
  split at submitted
  · cases submitted
  · split at submitted
    · cases submitted
    · cases found : EventType.ofRawValue (form.eventType.getD "") with
      | none => simp [found] at submitted
      | some eventType =>
          simp only [found, Submission.postCalendarEvents.injEq] at submitted
          rw [← submitted, List.map_map, List.map_map]
          constructor
          · exact List.map_fst_zip drawn.ge
          · exact List.map_snd_zip drawn.le

/-! ## Traces of a batch -/

/-- One step of a batch, by the service, by Firestore or by the screen. -/
inductive Effect
  | submitEnabled (isEnabled : Bool)
  | setData (index : Nat) (write : CalendarWrite)
  | reported (index : Nat) (error : Option FirestoreError)
  | completion (success : Bool)
  | successfullyAdded
  | dismiss
  | displayAlert (message title : String)
  deriving DecidableEq

/-- The block the screen passes to `postCalendarEvents`; it captures the screen weakly. -/
def complete (alive success : Bool) : List Effect :=
  .completion success ::
    if alive then
      if success then
        [.submitEnabled true, .successfullyAdded, .dismiss]
      else
        [.submitEnabled true,
          .displayAlert "Oops, something went wrong please let anto know 402 error!" "Sorry!"]
    else
      []

/-- `AddCalendarEventViewController.postCalendarEvents` up to its return. -/
def opening (calendarEvents : List CalendarEvent) : List Effect :=
  .submitEnabled false ::
    ((CalendarServices.postCalendarEvents calendarEvents).writes.mapIdx .setData ++
      (CalendarServices.postCalendarEvents calendarEvents).completions.flatMap (complete true))

/-- One write reports: the block that `postCalendarEvents` passed to `setData`. -/
def report (alive : Bool) (index : Nat) (error : Option FirestoreError) : List Effect :=
  .reported index error :: (CalendarServices.postReported error).flatMap (complete alive)

/-- The answers a trace gave to its caller. -/
def completions (trace : List Effect) : List Bool :=
  trace.filterMap fun
    | .completion success => some success
    | _ => none

/-- The writes a trace saw fail. -/
def failures (trace : List Effect) : List Nat :=
  trace.filterMap fun
    | .reported index (some _) => some index
    | _ => none

/-- Every write of the batch has reported. -/
def AllReported (calendarEvents : List CalendarEvent) (trace : List Effect) : Prop :=
  ∀ index < calendarEvents.length, ∃ error, .reported index error ∈ trace

/-- Every write of the batch has been stored. -/
def AllStored (calendarEvents : List CalendarEvent) (trace : List Effect) : Prop :=
  ∀ index < calendarEvents.length, .reported index none ∈ trace

/-- What precedes each occurrence of an effect satisfies a condition. -/
def PrecededBy (condition : List Effect → Prop) (effect : Effect) (trace : List Effect) : Prop :=
  ∀ front back, trace = front ++ effect :: back → condition front

/-- The batch was reported honestly, to the caller and to the user. -/
structure Honest (calendarEvents : List CalendarEvent) (trace : List Effect) : Prop where
  once : (completions trace).length = 1
  settled : ∀ success, PrecededBy (AllReported calendarEvents) (.completion success) trace
  truthful : true ∈ completions trace ↔ failures trace = []
  added : PrecededBy (AllStored calendarEvents) .successfullyAdded trace
  dismissed : PrecededBy (AllStored calendarEvents) .dismiss trace
  exclusive : .successfullyAdded ∈ trace → ∀ message title, .displayAlert message title ∉ trace
  disabled : PrecededBy (AllReported calendarEvents) (.submitEnabled true) trace

theorem postCalendarEvents_completions (calendarEvents : List CalendarEvent) :
    (CalendarServices.postCalendarEvents calendarEvents).completions = [] ∨
      (CalendarServices.postCalendarEvents calendarEvents).completions = [true] := by
  induction calendarEvents with
  | nil => exact .inr rfl
  | cons event calendarEvents ih =>
      simp only [CalendarServices.postCalendarEvents]
      cases calendarCollection.document event.id with
      | none => exact .inl rfl
      | some key => exact ih

@[simp]
theorem completions_append (front back : List Effect) :
    completions (front ++ back) = completions front ++ completions back :=
  List.filterMap_append

@[simp]
theorem failures_append (front back : List Effect) :
    failures (front ++ back) = failures front ++ failures back :=
  List.filterMap_append

theorem mem_mapIdx_setData {writes : List CalendarWrite} {effect : Effect}
    (member : effect ∈ writes.mapIdx .setData) : ∃ index write, effect = .setData index write := by
  obtain ⟨index, _, rfl⟩ := List.mem_mapIdx.mp member
  exact ⟨index, _, rfl⟩

theorem completions_mapIdx_setData (writes : List CalendarWrite) :
    completions (writes.mapIdx .setData) = [] := by
  rw [completions, List.filterMap_eq_nil_iff]
  intro effect member
  obtain ⟨index, write, rfl⟩ := mem_mapIdx_setData member
  rfl

theorem failures_mapIdx_setData (writes : List CalendarWrite) :
    failures (writes.mapIdx .setData) = [] := by
  rw [failures, List.filterMap_eq_nil_iff]
  intro effect member
  obtain ⟨index, write, rfl⟩ := mem_mapIdx_setData member
  rfl

theorem completions_opening (calendarEvents : List CalendarEvent) :
    completions (opening calendarEvents) =
      (CalendarServices.postCalendarEvents calendarEvents).completions := by
  rw [opening, ← List.singleton_append, completions_append, completions_append,
    completions_mapIdx_setData]
  rcases postCalendarEvents_completions calendarEvents with trapped | completed
  · rw [trapped]
    rfl
  · rw [completed]
    rfl

theorem failures_opening (calendarEvents : List CalendarEvent) :
    failures (opening calendarEvents) = [] := by
  rw [opening, ← List.singleton_append, failures_append, failures_append,
    failures_mapIdx_setData]
  rcases postCalendarEvents_completions calendarEvents with trapped | completed
  · rw [trapped]
    rfl
  · rw [completed]
    rfl

theorem completions_report (alive : Bool) (index : Nat) (error : Option FirestoreError) :
    completions (report alive index error) =
      List.replicate (failures (report alive index error)).length false := by
  cases error with
  | none => rfl
  | some error => cases alive <;> rfl

/-! ## Honesty of one batch -/

theorem honest_opening_nil : Honest [] (opening []) where
  once := rfl
  settled := by simp [PrecededBy, AllReported]
  truthful := by decide
  added := by simp [PrecededBy, AllStored]
  dismissed := by simp [PrecededBy, AllStored]
  exclusive := by simp [opening, complete, CalendarServices.postCalendarEvents]
  disabled := by simp [PrecededBy, AllReported]

/-- A batch with a write is completed before that write reports, or never. -/
theorem not_honest_opening {calendarEvents : List CalendarEvent} (nonempty : calendarEvents ≠ [])
    {later : List Effect}
    (halted : (CalendarServices.postCalendarEvents calendarEvents).completions = [] → later = []) :
    ¬ Honest calendarEvents (opening calendarEvents ++ later) := by
  intro honest
  rcases postCalendarEvents_completions calendarEvents with trapped | completed
  · have once := honest.once
    rw [halted trapped, List.append_nil, completions_opening, trapped] at once
    cases once
  · have split : opening calendarEvents ++ later =
        (.submitEnabled false ::
          (CalendarServices.postCalendarEvents calendarEvents).writes.mapIdx .setData) ++
        .completion true ::
          ([.submitEnabled true, .successfullyAdded, .dismiss] ++ later) := by
      simp [opening, completed, complete]
    have first : 0 < calendarEvents.length := List.length_pos_of_ne_nil nonempty
    obtain ⟨error, reported⟩ := honest.settled true _ _ split 0 first
    rcases List.mem_cons.mp reported with same | reported
    · cases same
    · obtain ⟨index, write, same⟩ := mem_mapIdx_setData reported
      cases same

/-- The submit button after a trace. -/
def enabledAfter (isEnabled : Bool) (trace : List Effect) : Bool :=
  trace.foldl
    (fun isEnabled effect =>
      match effect with
      | .submitEnabled isEnabled' => isEnabled'
      | _ => isEnabled)
    isEnabled

/-- One call of `postCalendarEvents`: its events, the writes yet to report, and its trace. -/
structure Batch where
  calendarEvents : List CalendarEvent
  unreported : List Nat
  trace : List Effect

/-- A batch just posted. -/
def Batch.opened (calendarEvents : List CalendarEvent) : Batch where
  calendarEvents := calendarEvents
  unreported := List.range (CalendarServices.postCalendarEvents calendarEvents).writes.length
  trace := opening calendarEvents

/-- A trap ended the process inside the call. -/
def Batch.Trapped (batch : Batch) : Prop :=
  (CalendarServices.postCalendarEvents batch.calendarEvents).completions = []

instance (batch : Batch) : Decidable batch.Trapped := by
  unfold Batch.Trapped
  infer_instance

end AddCalendarEventViewController

/-! ## The screen -/

/-- The form's screen, its batches and the alerts it showed before posting. -/
structure AddCalendarEventViewController where
  selectedDates : List String
  submitEnabled : Bool
  /-- The screen has not been released. -/
  alive : Bool
  /-- A trap ended the process. -/
  halted : Bool
  alerts : List (String × String)
  batches : List AddCalendarEventViewController.Batch

namespace AddCalendarEventViewController

/-- What can happen to the screen and to its writes. -/
inductive Event
  | submitTapped (form : Form) (uuidStrings : List String)
  | postCalendarEvents (calendarEvents : List CalendarEvent)
  | report (batch position : Nat) (error : Option FirestoreError)
  | release

/-- The screen as `addButtonTapped` presents it. -/
def presented (selectedDates : List String) : AddCalendarEventViewController where
  selectedDates := selectedDates
  submitEnabled := true
  alive := true
  halted := false
  alerts := []
  batches := []

/-- Post a batch. -/
def post (screen : AddCalendarEventViewController) (calendarEvents : List CalendarEvent) :
    AddCalendarEventViewController :=
  { screen with
    submitEnabled := enabledAfter screen.submitEnabled (opening calendarEvents)
    halted := (Batch.opened calendarEvents).Trapped
    batches := screen.batches ++ [Batch.opened calendarEvents] }

/-- A write of a batch reports. -/
def reportWrite (screen : AddCalendarEventViewController) (index position : Nat) (batch : Batch)
    (write : Nat) (error : Option FirestoreError) : AddCalendarEventViewController :=
  { screen with
    submitEnabled := enabledAfter screen.submitEnabled (report screen.alive write error)
    batches :=
      screen.batches.set index
        { batch with
          unreported := batch.unreported.eraseIdx position
          trace := batch.trace ++ report screen.alive write error } }

/-- The transitions of the screen; a disabled button takes no tap. -/
def machine : Machine AddCalendarEventViewController Event where
  next screen event :=
    if screen.halted then
      none
    else
      match event with
      | .submitTapped form uuidStrings =>
          if screen.alive ∧ screen.submitEnabled ∧
              uuidStrings.length = screen.selectedDates.length then
            match AddCalendarEventViewController.submitTapped screen.selectedDates uuidStrings
                form with
            | .displayAlert message title =>
                some { screen with alerts := screen.alerts ++ [(message, title)] }
            | .postCalendarEvents calendarEvents => some (screen.post calendarEvents)
          else
            none
      | .postCalendarEvents calendarEvents =>
          if screen.alive then some (screen.post calendarEvents) else none
      | .report index position error =>
          (screen.batches[index]?).bind fun batch =>
            (batch.unreported[position]?).map fun write =>
              screen.reportWrite index position batch write error
      | .release => if screen.alive then some { screen with alive := false } else none

/-! ## What every run keeps -/

/-- A batch's trace is its opening and then reports of its writes. -/
structure Batch.Traced (batch : Batch) : Prop where
  later : ∃ later, batch.trace = opening batch.calendarEvents ++ later ∧
    (batch.Trapped → later = []) ∧ (batch.unreported = [] ∨ batch.calendarEvents ≠ []) ∧
    (batch.calendarEvents = [] → later = []) ∧
    completions later = List.replicate (failures later).length false

/-- Every batch is traced, and only a halted process holds a trapped one. -/
structure Consistent (screen : AddCalendarEventViewController) : Prop where
  traced : ∀ batch ∈ screen.batches, batch.Traced
  running : ∀ batch ∈ screen.batches, batch.Trapped → screen.halted = true

variable {screen : AddCalendarEventViewController}

theorem Batch.Traced.opened (calendarEvents : List CalendarEvent) :
    (Batch.opened calendarEvents).Traced := by
  refine ⟨[], by simp [Batch.opened], fun _ => rfl, ?_, fun _ => rfl, rfl⟩
  cases calendarEvents with
  | nil => exact .inl rfl
  | cons event calendarEvents => exact .inr (by simp [Batch.opened])

theorem Batch.Traced.report {batch : Batch} (traced : batch.Traced) (running : ¬ batch.Trapped)
    {position write : Nat} (found : batch.unreported[position]? = some write) (alive : Bool)
    (error : Option FirestoreError) :
    Batch.Traced
      { batch with
        unreported := batch.unreported.eraseIdx position
        trace := batch.trace ++ AddCalendarEventViewController.report alive write error } := by
  obtain ⟨later, trace_eq, _, settled, _, completed⟩ := traced.later
  have nonempty : batch.calendarEvents ≠ [] := by
    rcases settled with settled | nonempty
    · simp [settled] at found
    · exact nonempty
  refine ⟨later ++ AddCalendarEventViewController.report alive write error, ?_, ?_, .inr nonempty,
    ?_, ?_⟩
  · simp [trace_eq]
  · intro trapped
    exact absurd trapped running
  · intro empty
    exact absurd empty nonempty
  · rw [completions_append, failures_append, completed, completions_report, List.length_append,
      List.replicate_add]

theorem Consistent.post (consistent : Consistent screen) (running : screen.halted = false)
    (calendarEvents : List CalendarEvent) : Consistent (screen.post calendarEvents) where
  traced := by
    intro batch member
    rcases List.mem_append.mp member with member | member
    · exact consistent.traced batch member
    · rw [List.mem_singleton.mp member]
      exact Batch.Traced.opened calendarEvents
  running := by
    intro batch member trapped
    rcases List.mem_append.mp member with member | member
    · have halted := consistent.running batch member trapped
      rw [running] at halted
      cases halted
    · rw [List.mem_singleton.mp member] at trapped
      exact decide_eq_true trapped

theorem Consistent.next {event : Event} {after : AddCalendarEventViewController}
    (consistent : Consistent screen) (step : machine.next screen event = some after) :
    Consistent after := by
  simp only [machine] at step
  split at step
  · cases step
  · next running =>
      have running : screen.halted = false := by simpa using running
      cases event with
      | submitTapped form uuidStrings =>
          simp only at step
          split at step
          · cases submitted : AddCalendarEventViewController.submitTapped screen.selectedDates
                uuidStrings form with
            | displayAlert message title =>
                simp only [submitted, Option.some.injEq] at step
                subst step
                exact ⟨consistent.traced, consistent.running⟩
            | postCalendarEvents calendarEvents =>
                simp only [submitted, Option.some.injEq] at step
                subst step
                exact consistent.post running calendarEvents
          · cases step
      | postCalendarEvents calendarEvents =>
          simp only at step
          split at step
          · cases step
            exact consistent.post running calendarEvents
          · cases step
      | report index position error =>
          obtain ⟨batch, found, reported⟩ := Option.bind_eq_some_iff.mp step
          obtain ⟨write, unreported, rfl⟩ := Option.map_eq_some_iff.mp reported
          have member := List.mem_of_getElem? found
          have open_batch : ¬ batch.Trapped := by
            intro trapped
            have halted := consistent.running batch member trapped
            rw [running] at halted
            cases halted
          constructor
          · intro other listed
            rcases List.mem_or_eq_of_mem_set listed with listed | rfl
            · exact consistent.traced other listed
            · exact (consistent.traced batch member).report open_batch unreported _ error
          · intro other listed trapped
            rcases List.mem_or_eq_of_mem_set listed with listed | rfl
            · exact consistent.running other listed trapped
            · exact absurd trapped open_batch
      | release =>
          simp only at step
          split at step
          · cases step
            exact ⟨consistent.traced, consistent.running⟩
          · cases step

theorem Consistent.run {selectedDates : List String} {events : List Event}
    (execution : machine.run events (presented selectedDates) = some screen) :
    Consistent screen := by
  refine Machine.run_invariant Consistent (fun consistent step => consistent.next step) ?_ execution
  constructor
  · simp [presented]
  · simp [presented]

/-- In every run, what a batch that did not trap completed with: `true`, then `false` once for each
write that failed so far. -/
theorem run_completions {selectedDates : List String} {events : List Event}
    (execution : machine.run events (presented selectedDates) = some screen) {batch : Batch}
    (member : batch ∈ screen.batches) (returned : ¬ batch.Trapped) :
    completions batch.trace = true :: List.replicate (failures batch.trace).length false := by
  have traced := (Consistent.run execution).traced batch member
  obtain ⟨later, trace_eq, _, _, _, completed⟩ := traced.later
  have opened : (CalendarServices.postCalendarEvents batch.calendarEvents).completions = [true] :=
    (postCalendarEvents_completions batch.calendarEvents).resolve_left returned
  rw [trace_eq, completions_append, failures_append, completions_opening, failures_opening, opened,
    completed]
  rfl

/-- In every run a settled batch was reported honestly exactly when it was empty. -/
theorem run_honest_iff {selectedDates : List String} {events : List Event}
    (execution : machine.run events (presented selectedDates) = some screen) :
    ∀ batch ∈ screen.batches, batch.unreported = [] →
      (Honest batch.calendarEvents batch.trace ↔ batch.calendarEvents = []) := by
  intro batch member _
  have traced := (Consistent.run execution).traced batch member
  obtain ⟨later, trace_eq, halted, _, quiet, _⟩ := traced.later
  constructor
  · intro honest
    by_contra nonempty
    rw [trace_eq] at honest
    exact not_honest_opening nonempty halted honest
  · intro empty
    rw [trace_eq, quiet empty, List.append_nil, empty]
    exact honest_opening_nil

/-- The form filled in for a birthday. -/
def birthdayForm : Form where
  eventTitle := some "Birthday"
  eventType := some "Special Occasion"
  eventLocation := some ""
  eventDescription := none

/-- A tap on submit for one date whose write is refused, and a direct post of nothing. -/
def refusedBirthday : List Event :=
  [.submitTapped birthdayForm ["A"], .postCalendarEvents [], .report 0 0 (some ⟨7⟩)]

theorem refusedBirthday_honest_iff :
    ∃ screen, machine.run refusedBirthday (presented ["2020/09/12"]) = some screen ∧
      ∀ batch ∈ screen.batches, batch.unreported = [] →
        (Honest batch.calendarEvents batch.trace ↔ batch.calendarEvents = []) := by
  have runs : ∃ screen,
      machine.run refusedBirthday (presented ["2020/09/12"]) = some screen := ⟨_, rfl⟩
  obtain ⟨screen, execution⟩ := runs
  exact ⟨screen, execution, run_honest_iff execution⟩

/-- The refused write is reported as a success and then as a failure. -/
theorem refusedBirthday_not_honest :
    ¬ ∀ (events : List Event) screen,
      machine.run events (presented ["2020/09/12"]) = some screen →
        ∀ batch ∈ screen.batches, batch.unreported = [] →
          Honest batch.calendarEvents batch.trace := by
  intro honest
  have batch_honest := honest refusedBirthday _ rfl _ List.mem_cons_self rfl
  exact absurd batch_honest.once (by decide)

end AddCalendarEventViewController

end Celeste
