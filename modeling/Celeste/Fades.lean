import Celeste.Library.Machine
import Celeste.Library.Requests
import Mathlib.Data.Rat.Defs

/-!
# Fading views

`fadeOut` and `fadeIn` set the alpha of a view at once and `isHidden` when their animations
complete.  Completions of overlapping fades come in any order, and each sets `isHidden`, so the one
that comes last decides, whatever fade was called last.
-/

namespace Celeste

/-- A call of `fadeOut` or `fadeIn`. -/
inductive Fade
  | fadeOut
  | fadeIn
  deriving DecidableEq

/-- The alpha a fade animates to. -/
def Fade.alpha : Fade → ℚ
  | .fadeOut => 0
  | .fadeIn => 1

/-- What the completion of a fade sets `isHidden` to. -/
def Fade.hides : Fade → Bool
  | .fadeOut => true
  | .fadeIn => false

theorem Fade.hides_injective : Function.Injective Fade.hides := by
  intro left right same
  cases left <;> cases right <;> simp_all [Fade.hides]

/-- A view, the fades called on it, and those whose completion is pending. -/
structure FadingView where
  alpha : ℚ
  isHidden : Bool
  fades : Requests Fade

namespace FadingView

/-- A call, or the completion of a call's animation, which may have been interrupted. -/
inductive Event
  | fadeOut (duration delay : ℚ)
  | fadeIn (duration delay : ℚ)
  | completed (number : Nat) (finished : Bool)

/-- A view without fades. -/
def still (alpha : ℚ) (isHidden : Bool) : FadingView where
  alpha := alpha
  isHidden := isHidden
  fades := .empty

/-- `UIView.fadeOut(duration:delay:)`. -/
def fadeOut (view : FadingView) : FadingView :=
  { view with
    alpha := 0
    fades := view.fades.issue .fadeOut }

/-- `UIView.fadeIn(duration:delay:)`. -/
def fadeIn (view : FadingView) : FadingView :=
  { view with
    isHidden := false
    alpha := 1
    fades := view.fades.issue .fadeIn }

/-- The completion of a fade's animation, finished or not. -/
def completed (view : FadingView) (number : Nat) (fade : Fade) : FadingView :=
  { view with
    isHidden := fade.hides
    fades := view.fades.answer number }

/-- The transitions of a view; each completion comes once, after its call. -/
def machine : Machine FadingView Event where
  next view
    | .fadeOut _ _ => some view.fadeOut
    | .fadeIn _ _ => some view.fadeIn
    | .completed number _ =>
        if number ∈ view.fades.unanswered then
          view.fades.calls[number]?.map fun fade => view.completed number fade
        else none

/-- The view is as a fade leaves it. -/
structure Faded (view : FadingView) (fade : Fade) : Prop where
  alpha : view.alpha = fade.alpha
  isHidden : view.isHidden = fade.hides

/-! ## What the events say -/

/-- The fade an event calls. -/
def Event.fade : Event → Option Fade
  | .fadeOut _ _ => some .fadeOut
  | .fadeIn _ _ => some .fadeIn
  | .completed _ _ => none

/-- The number of the fade an event completes. -/
def Event.completion : Event → Option Nat
  | .fadeOut _ _ => none
  | .fadeIn _ _ => none
  | .completed number _ => some number

/-- The fades called, oldest first. -/
def called (events : List Event) : List Fade :=
  events.filterMap Event.fade

/-- The fade whose completion came last. -/
def lastCompleted (events : List Event) : Option Fade :=
  (events.filterMap Event.completion).getLast?.bind fun number => (called events)[number]?

variable {before after : FadingView} {event : Event} {past : List Event}

theorem next_cases (step : machine.next before event = some after) :
    (∃ fade, event.fade = some fade ∧ event.completion = none ∧
      after.alpha = fade.alpha ∧ after.fades = before.fades.issue fade) ∨
    (∃ number fade, event.fade = none ∧ event.completion = some number ∧
      number ∈ before.fades.unanswered ∧ before.fades.calls[number]? = some fade ∧
      after = before.completed number fade) := by
  cases event with
  | fadeOut duration delay =>
      cases step
      exact .inl ⟨.fadeOut, rfl, rfl, rfl, rfl⟩
  | fadeIn duration delay =>
      cases step
      exact .inl ⟨.fadeIn, rfl, rfl, rfl, rfl⟩
  | completed number finished =>
      obtain ⟨pending, completion⟩ := Option.ite_none_right_eq_some.mp step
      obtain ⟨fade, found, rfl⟩ := Option.map_eq_some_iff.mp completion
      exact .inr ⟨number, fade, rfl, rfl, pending, found, rfl⟩

/-- The alpha is that of the fade called last; once none is pending, the view is hidden as the fade
completed last says. -/
structure Follows (past : List Event) (view : FadingView) : Prop where
  calls : view.fades.calls = called past
  alpha : ∀ fade, (called past).getLast? = some fade → view.alpha = fade.alpha
  isHidden : view.fades.unanswered = [] → called past ≠ [] →
    ∃ fade, lastCompleted past = some fade ∧ view.isHidden = fade.hides

theorem Follows.still (alpha : ℚ) (isHidden : Bool) : Follows [] (still alpha isHidden) where
  calls := rfl
  alpha _ last := by cases last
  isHidden _ some_call := absurd rfl some_call

theorem Follows.next (follows : Follows past before)
    (step : machine.next before event = some after) : Follows (past ++ [event]) after := by
  obtain ⟨fade, fade_eq, completion, alpha, fades⟩ |
    ⟨number, fade, fade_eq, completion, pending, found, rfl⟩ := next_cases step
  · have calls : called (past ++ [event]) = called past ++ [fade] := by
      simp [called, fade_eq]
    constructor
    · rw [fades, calls, Requests.issue, follows.calls]
    · intro last last_eq
      have same : fade = last := by simpa [calls] using last_eq
      exact same ▸ alpha
    · intro none_pending
      simp [fades, Requests.issue] at none_pending
  · have calls : called (past ++ [event]) = called past := by
      simp [called, fade_eq]
    constructor
    · rw [calls]
      exact follows.calls
    · rw [calls]
      exact follows.alpha
    · intro _ _
      refine ⟨fade, ?_, rfl⟩
      have last : ((past ++ [event]).filterMap Event.completion).getLast? = some number := by
        simp [completion]
      rw [lastCompleted, last, calls, ← follows.calls]
      exact found

theorem run_follows {alpha : ℚ} {isHidden : Bool} {events : List Event} {view : FadingView}
    (execution : machine.run events (still alpha isHidden) = some view) : Follows events view :=
  Machine.run_past Follows Follows.next (.still alpha isHidden) execution

/-- Once no completion is pending, a view is as the fade called last leaves it exactly if the fade
completed last is of the same kind. -/
theorem run_faded_iff {alpha : ℚ} {isHidden : Bool} {events : List Event} {view : FadingView}
    {last : Fade} (execution : machine.run events (still alpha isHidden) = some view)
    (settled : view.fades.unanswered = []) (last_called : (called events).getLast? = some last) :
    view.Faded last ↔ lastCompleted events = some last := by
  have follows := run_follows execution
  have some_call : called events ≠ [] := by
    intro no_call
    simp [no_call] at last_called
  obtain ⟨fade, completed_last, hidden⟩ := follows.isHidden settled some_call
  rw [completed_last]
  constructor
  · intro faded
    have same : fade = last := Fade.hides_injective (hidden.symm.trans faded.isHidden)
    exact congrArg some same
  · intro same
    have fade_eq : fade = last := Option.some.inj same
    exact ⟨follows.alpha last last_called, fade_eq ▸ hidden⟩

/-- A view fades out and is called back in; the interrupted fade out completes last. -/
def fadedBack : List Event :=
  [.fadeOut (3 / 10) (4 / 10), .fadeIn (3 / 10) 0, .completed 1 true, .completed 0 false]

theorem fadedBack_faded_iff :
    ∃ view, machine.run fadedBack (still 1 false) = some view ∧ view.fades.unanswered = [] ∧
      (view.Faded .fadeIn ↔ lastCompleted fadedBack = some .fadeIn) := by
  have runs : ∃ view, machine.run fadedBack (still 1 false) = some view ∧
      view.fades.unanswered = [] := ⟨_, rfl, rfl⟩
  obtain ⟨view, execution, settled⟩ := runs
  exact ⟨view, execution, settled, run_faded_iff execution settled rfl⟩

/-- The view stays hidden, though it was faded in last. -/
theorem fadedBack_hidden :
    ∃ view, machine.run fadedBack (still 1 false) = some view ∧
      view.fades.unanswered = [] ∧ (called fadedBack).getLast? = some .fadeIn ∧
      view.isHidden = true ∧ ¬ view.Faded .fadeIn := by
  refine ⟨_, rfl, rfl, rfl, rfl, ?_⟩
  intro faded
  cases faded.isHidden

end FadingView

end Celeste
