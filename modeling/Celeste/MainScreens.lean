import Celeste.Library.Machine
import Celeste.Model

/-!
# The main screen and its timer

Unlocking presents a new main screen, which schedules a repeating timer with itself as target.
Locking dismisses the screen and leaves the timer, so it goes on updating a screen that is gone.
-/

namespace Celeste

/-- `DateDiffType`. -/
inductive DateDiffType
  | years
  | months
  | days
  | minutes
  deriving DecidableEq

/-- The raw value, counted from one. -/
def DateDiffType.rawValue : DateDiffType → Nat
  | .years => 1
  | .months => 2
  | .days => 3
  | .minutes => 4

/-- `DateDiffType.allCases`. -/
def DateDiffType.allCases : List DateDiffType :=
  [.years, .months, .days, .minutes]

/-- The calendar components that the screen asks for. -/
inductive CalendarComponent
  | year
  | month
  | day
  | hour
  | minute
  | second
  deriving DecidableEq

/-- `Calendar.current.dateComponents(_:from:to:)` from the start of the relationship to a date: what
the asked components come to. -/
abbrev DateComponents (Date : Type) :=
  List CalendarComponent → Date → CalendarComponent → Option Int

/-- What the screen keeps and shows. -/
structure MainViewController where
  who : Who
  dateDiffType : DateDiffType
  subtitleLabel : String

namespace MainViewController

/-- `MainViewController(who:)`. -/
def init (who : Who) : MainViewController where
  who := who
  dateDiffType := .days
  subtitleLabel := ""

/-- `MainView.applyTime(dateString:animate:)`. -/
def applyTime (screen : MainViewController) (dateString : Option String) : MainViewController :=
  { screen with subtitleLabel := dateString.getD "Unknown time ago!" }

/-- `determineDiffType(index:)`. -/
def determineDiffType (index : Nat) : DateDiffType :=
  if index = 1 then .years
  else if index = 2 then .months
  else if index = 3 then .days
  else .minutes

section Dates

variable {Date : Type} (dateComponents : DateComponents Date) (now : Date)

/-- `calculateLengthDate(diffType:)`. -/
def calculateLengthDate : DateDiffType → Option String
  | .years =>
      let difference := dateComponents [.year] now
      some (toString ((difference .year).getD 0) ++ " Years")
  | .months =>
      let difference := dateComponents [.month] now
      some (toString ((difference .month).getD 0) ++ " Months")
  | .days =>
      let difference := dateComponents [.day] now
      some (toString ((difference .day).getD 0) ++ " Days")
  | .minutes =>
      let difference := dateComponents [.hour, .minute, .second] now
      some (toString ((difference .hour).getD 0) ++ "h " ++
        toString ((difference .minute).getD 0) ++ "m " ++
        toString ((difference .second).getD 0) ++ "s")

/-- `viewWillAppear(_:)`. -/
def viewWillAppear (screen : MainViewController) : MainViewController :=
  screen.applyTime (calculateLengthDate dateComponents now screen.dateDiffType)

/-- `updateTimeLabel`. -/
def updateTimeLabel (screen : MainViewController) : MainViewController :=
  screen.applyTime (calculateLengthDate dateComponents now screen.dateDiffType)

/-- Setting `dateDiffType`, which updates the label. -/
def setDateDiffType (screen : MainViewController) (diffType : DateDiffType) : MainViewController :=
  { screen with dateDiffType := diffType }.applyTime
    (calculateLengthDate dateComponents now diffType)

/-- `timeDateTapped`. -/
def timeDateTapped (screen : MainViewController) : MainViewController :=
  let index := (screen.dateDiffType.rawValue + 1) % DateDiffType.allCases.length
  screen.setDateDiffType dateComponents now (determineDiffType index)

end Dates

/-- Tapping goes through all kinds of difference in turn. -/
theorem determineDiffType_allCases (diffType : DateDiffType) :
    DateDiffType.allCases[diffType.rawValue % DateDiffType.allCases.length]? =
      some (determineDiffType ((diffType.rawValue + 1) % DateDiffType.allCases.length)) := by
  cases diffType <;> rfl

end MainViewController

/-- All main screens made, by number; those presented; the targets of the live timers; and the
dismissed screens whose `updateTimeLabel` fired. -/
structure MainScreens where
  created : List MainViewController
  presented : List Nat
  timers : List Nat
  dismissedUpdates : List Nat

namespace MainScreens

/-- What happens to the main screens; `now` is the date the screen finds. -/
inductive Event (Date : Type)
  | unlock (who : Who) (now : Date)
  | lock (number : Nat)
  | timeDateTapped (number : Nat) (now : Date)
  | tick (timer : Nat) (now : Date)

/-- No main screen yet. -/
def launched : MainScreens where
  created := []
  presented := []
  timers := []
  dismissedUpdates := []

section Machine

variable {Date : Type} (dateComponents : DateComponents Date)

/-- `transitionToMainScreen`: the new screen's view loads, where `configureActions` schedules its
timer, and appears. -/
def transitionToMainScreen (screens : MainScreens) (who : Who) (now : Date) : MainScreens :=
  let number := screens.created.length
  { screens with
    created := screens.created ++ [(MainViewController.init who).viewWillAppear dateComponents now]
    presented := screens.presented ++ [number]
    timers := screens.timers ++ [number] }

/-- The action of the lock button: `dismiss(animated:)`. -/
def dismiss (screens : MainScreens) (number : Nat) : MainScreens :=
  { screens with presented := screens.presented.erase number }

/-- A timer fires on its target. -/
def fire (screens : MainScreens) (target : Nat) (now : Date) : MainScreens :=
  { screens with
    created := screens.created.modify target fun screen =>
      screen.updateTimeLabel dateComponents now
    dismissedUpdates :=
      if target ∈ screens.presented then screens.dismissedUpdates
      else screens.dismissedUpdates ++ [target] }

/-- The transitions: the user reaches presented screens only, and every live timer fires. -/
def machine : Machine MainScreens (Event Date) where
  next screens
    | .unlock who now => some (screens.transitionToMainScreen dateComponents who now)
    | .lock number =>
        if number ∈ screens.presented then some (screens.dismiss number) else none
    | .timeDateTapped number now =>
        if number ∈ screens.presented then
          some { screens with
            created := screens.created.modify number fun screen =>
              screen.timeDateTapped dateComponents now }
        else none
    | .tick timer now => screens.timers[timer]?.map fun target =>
        screens.fire dateComponents target now

end Machine

/-- There are as many live timers as presented screens, and none fired on a dismissed one. -/
structure TimersMatch (screens : MainScreens) : Prop where
  length : screens.timers.length = screens.presented.length
  updates : screens.dismissedUpdates = []

/-- The event unlocks. -/
def Event.isUnlock {Date : Type} : Event Date → Bool
  | .unlock _ _ => true
  | _ => false

/-- The event locks. -/
def Event.isLock {Date : Type} : Event Date → Bool
  | .lock _ => true
  | _ => false

variable {Date : Type} {dateComponents : DateComponents Date} {before after : MainScreens}
  {event : Event Date}

theorem next_cases (step : (machine dateComponents).next before event = some after) :
    (∃ who now, event = .unlock who now ∧
      after = before.transitionToMainScreen dateComponents who now) ∨
    (∃ number, event = .lock number ∧ number ∈ before.presented ∧ after = before.dismiss number) ∨
    (event.isUnlock = false ∧ event.isLock = false ∧ ∃ created, after = { before with created }) ∨
    (∃ timer now target, event = .tick timer now ∧ before.timers[timer]? = some target ∧
      after = before.fire dateComponents target now) := by
  cases event with
  | unlock who now =>
      cases step
      exact .inl ⟨who, now, rfl, rfl⟩
  | lock number =>
      obtain ⟨member, result⟩ := Option.ite_none_right_eq_some.mp step
      cases result
      exact .inr (.inl ⟨number, rfl, member, rfl⟩)
  | timeDateTapped number now =>
      obtain ⟨-, result⟩ := Option.ite_none_right_eq_some.mp step
      cases result
      exact .inr (.inr (.inl ⟨rfl, rfl, _, rfl⟩))
  | tick timer now =>
      obtain ⟨target, found, rfl⟩ := Option.map_eq_some_iff.mp step
      exact .inr (.inr (.inr ⟨timer, now, target, rfl, found, rfl⟩))

/-- The presented screens are targets of live timers, in order. -/
def Targeted (screens : MainScreens) : Prop :=
  screens.presented.Sublist screens.timers

theorem Targeted.next (targeted : Targeted before)
    (step : (machine dateComponents).next before event = some after) : Targeted after := by
  obtain ⟨who, now, -, rfl⟩ | ⟨number, -, -, rfl⟩ | ⟨-, -, created, rfl⟩ |
    ⟨timer, now, target, -, -, rfl⟩ := next_cases step
  · exact List.Sublist.append targeted (List.Sublist.refl [before.created.length])
  · exact List.erase_sublist.trans targeted
  · exact targeted
  · exact targeted

/-- A step keeps timers and screens matched exactly if it is no lock. -/
theorem Targeted.timersMatch_iff (targeted : Targeted before)
    (step : (machine dateComponents).next before event = some after) :
    after.TimersMatch ↔ before.TimersMatch ∧ event.isLock = false := by
  obtain ⟨who, now, rfl, rfl⟩ | ⟨number, rfl, member, rfl⟩ | ⟨-, no_lock, created, rfl⟩ |
    ⟨timer, now, target, rfl, found, rfl⟩ := next_cases step
  · constructor
    · intro matched
      have length := matched.length
      simp only [transitionToMainScreen, List.length_append, List.length_singleton] at length
      exact ⟨⟨by omega, matched.updates⟩, rfl⟩
    · intro both
      have length := both.1.length
      refine ⟨?_, both.1.updates⟩
      simp only [transitionToMainScreen, List.length_append, List.length_singleton]
      omega
  · constructor
    · intro matched
      have length : before.timers.length = (before.presented.erase number).length :=
        matched.length
      have shorter := List.length_erase_add_one member
      have bound := targeted.length_le
      omega
    · intro both
      exact Bool.noConfusion both.2
  · rw [no_lock]
    exact ⟨fun matched => ⟨⟨matched.length, matched.updates⟩, rfl⟩,
      fun both => ⟨both.1.length, both.1.updates⟩⟩
  · constructor
    · intro matched
      have updates := matched.updates
      by_cases shown : target ∈ before.presented
      · exact ⟨⟨matched.length, by simpa [fire, shown] using updates⟩, rfl⟩
      · simp [fire, shown] at updates
    · intro both
      have same : before.presented = before.timers := targeted.eq_of_length both.1.length.symm
      have shown : target ∈ before.presented := same ▸ List.mem_of_getElem? found
      exact ⟨both.1.length, by simpa [fire, shown] using both.1.updates⟩

/-- Every unlock of the past left a timer, and every lock took a presented screen. -/
structure Counts (past : List (Event Date)) (screens : MainScreens) : Prop where
  timers : screens.timers.length = past.countP Event.isUnlock
  presented : screens.presented.length + past.countP Event.isLock = past.countP Event.isUnlock

theorem Counts.next {past : List (Event Date)} (counts : Counts past before)
    (step : (machine dateComponents).next before event = some after) :
    Counts (past ++ [event]) after := by
  have timers := counts.timers
  have presented := counts.presented
  have unlocks : (past ++ [event]).countP Event.isUnlock =
      past.countP Event.isUnlock + if event.isUnlock = true then 1 else 0 := by
    rw [List.countP_append, List.countP_singleton]
  have locks : (past ++ [event]).countP Event.isLock =
      past.countP Event.isLock + if event.isLock = true then 1 else 0 := by
    rw [List.countP_append, List.countP_singleton]
  obtain ⟨who, now, rfl, rfl⟩ | ⟨number, rfl, member, rfl⟩ | ⟨no_unlock, no_lock, created, rfl⟩ |
    ⟨timer, now, target, rfl, -, rfl⟩ := next_cases step
  · constructor
    · rw [unlocks, ← timers, transitionToMainScreen, List.length_append]
      rfl
    · rw [unlocks, locks, ← presented, transitionToMainScreen, List.length_append]
      exact Nat.add_right_comm _ _ _
  · have shorter : (before.dismiss number).presented.length + 1 = before.presented.length :=
      List.length_erase_add_one member
    constructor
    · exact timers.trans unlocks.symm
    · simp only [unlocks, locks, Event.isLock, Event.isUnlock, if_true, Bool.false_eq_true,
        if_false]
      omega
  · rw [no_unlock] at unlocks
    rw [no_lock] at locks
    constructor
    · exact timers.trans unlocks.symm
    · rw [unlocks, locks]
      exact presented
  · constructor
    · exact timers.trans unlocks.symm
    · rw [unlocks, locks]
      exact presented

theorem run_counts {events : List (Event Date)} {screens : MainScreens}
    (execution : (machine dateComponents).run events launched = some screens) :
    Counts events screens := by
  have start : Counts ([] : List (Event Date)) launched := ⟨rfl, rfl⟩
  exact Machine.run_past Counts Counts.next start execution

/-- In every run timers and presented screens match exactly if there is no lock. -/
theorem run_timersMatch_iff {events : List (Event Date)} {screens : MainScreens}
    (execution : (machine dateComponents).run events launched = some screens) :
    screens.TimersMatch ↔ ∀ event ∈ events, event.isLock = false := by
  have start : launched.TimersMatch := ⟨rfl, rfl⟩
  have targeted : Targeted launched := List.Sublist.refl []
  rw [Machine.run_respects_iff Targeted TimersMatch Targeted.next Targeted.timersMatch_iff targeted
    execution, Machine.respects_iff_forall execution]
  exact and_iff_right start

/-- Dates as seconds since the start, with months of thirty days. -/
def secondsSince : DateComponents Nat :=
  fun _ seconds component =>
    match component with
    | .year => some 0
    | .month => some (seconds / 2592000)
    | .day => some (seconds / 86400)
    | .hour => some (seconds / 3600)
    | .minute => some (seconds / 60 % 60)
    | .second => some (seconds % 60)

/-- Lauren unlocks, a second passes, she locks, and another second passes. -/
def lockedAgain : List (Event Nat) :=
  [.unlock .lauren 86400, .tick 0 86401, .lock 0, .tick 0 86402]

theorem lockedAgain_timersMatch_iff :
    ∃ screens, (machine secondsSince).run lockedAgain launched = some screens ∧
      (screens.TimersMatch ↔ ∀ event ∈ lockedAgain, event.isLock = false) := by
  have runs : ∃ screens, (machine secondsSince).run lockedAgain launched = some screens :=
    ⟨_, rfl⟩
  obtain ⟨screens, execution⟩ := runs
  exact ⟨screens, execution, run_timersMatch_iff execution⟩

/-- The timer outlives the screen and updates it after the lock. -/
theorem lockedAgain_updates_dismissed :
    ∃ screens, (machine secondsSince).run lockedAgain launched = some screens ∧
      screens.presented = [] ∧ screens.timers = [0] ∧ screens.dismissedUpdates = [0] ∧
      ¬ screens.TimersMatch := by
  refine ⟨_, rfl, rfl, rfl, rfl, ?_⟩
  intro matched
  exact absurd matched.length (by decide)

end MainScreens

end Celeste
