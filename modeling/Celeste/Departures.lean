import Celeste.Library.Chains
import Celeste.Library.Machine
import Celeste.Model

/-!
# Screens that disappear before the next

A tap starts `handleDisappearAnimation`, whose completion presents the screen tapped for.  The home
screen and the main screen animate in one chain, and present once.  The screen that asks who is
using the application animates in two chains of two animations, calls back at the end of each, and
presents twice.
-/

namespace Celeste

/-! ## The animations -/

/-- `HomeView.handleDisappearAnimation`: the title and the image fade, which calls back; the fades
of the sections do not. -/
def HomeView.handleDisappearAnimation : List (Handler Bool) :=
  [.callBack true]

/-- `MainView.handleDisappearAnimation`: the title fades, which calls back; the fades of the buttons
do not. -/
def MainView.handleDisappearAnimation : List (Handler Bool) :=
  [.callBack true]

/-- `WhoThisView.handleDisappearAnimation`: the title and the subtitle slide, then fade; each fading
calls back. -/
def WhoThisView.handleDisappearAnimation : List (Handler Bool) :=
  [.animate (.callBack true), .animate (.callBack true)]

/-! ## The screens -/

/-- The taps for a next screen, and the screens presented, oldest first. -/
structure DepartingScreen (Destination : Type) where
  taps : AnimatedCalls Destination Bool
  presented : List Destination

namespace DepartingScreen

/-- A tap, or the completion of an animation of a tap. -/
inductive Event (Destination : Type)
  | tapped (destination : Destination)
  | animationCompleted (number place : Nat)

section Machine

variable {Destination : Type} (handleDisappearAnimation : List (Handler Bool))

/-- The view has loaded. -/
def loaded : DepartingScreen Destination where
  taps := []
  presented := []

/-- Present a screen. -/
def present (screen : DepartingScreen Destination) (destination : Destination) :
    DepartingScreen Destination :=
  { screen with presented := screen.presented ++ [destination] }

/-- The action of a tap. -/
def tapped (screen : DepartingScreen Destination) (destination : Destination) :
    DepartingScreen Destination :=
  { screen with taps := screen.taps.start destination handleDisappearAnimation }

/-- The completion that the action passes to `handleDisappearAnimation`. -/
def disappeared (screen : DepartingScreen Destination) :
    Option (Destination × Bool) → DepartingScreen Destination
  | some (destination, done) => if done then screen.present destination else screen
  | none => screen

/-- The transitions of the screen. -/
def machine : Machine (DepartingScreen Destination) (Event Destination) where
  next screen
    | .tapped destination => some (screen.tapped handleDisappearAnimation destination)
    | .animationCompleted number place =>
        (screen.taps.complete number place).map fun completed =>
          { screen with taps := completed.1 }.disappeared completed.2

end Machine

variable {Destination : Type} {handleDisappearAnimation : List (Handler Bool)}

/-- A screen is presented once for each tap whose animations have finished, and each tap is called
back once, after all its chains. -/
structure AdvancesOnce (screen : DepartingScreen Destination) : Prop where
  presented : screen.presented.length = screen.taps.finishedCount fun _ => True
  calledBack : screen.taps.CalledBackOnce fun _ => True

/-- The animation that completes, if any, has another one of its chain after it. -/
def ChainGoesOn (screen : DepartingScreen Destination) : Event Destination → Prop
  | .tapped _ => True
  | .animationCompleted number place => screen.taps.endsChain number place = false

/-- Every tap runs a number of chains, and is presented as often as it is called back. -/
structure Consistent (chains : Nat) (screen : DepartingScreen Destination) : Prop where
  chained : ∀ tap ∈ screen.taps, AnimatedCalls.Chained (fun _ => True) chains true tap
  presented : screen.presented.length = screen.taps.answerCount

@[simp]
theorem disappeared_taps (screen : DepartingScreen Destination)
    (reply : Option (Destination × Bool)) : (screen.disappeared reply).taps = screen.taps := by
  unfold disappeared
  split
  · split <;> rfl
  · rfl

/-- Called back with `true`, the screen presents; not called back, it does not. -/
theorem disappeared_presented (screen : DepartingScreen Destination)
    {reply : Option (Destination × Bool)}
    (positive : ∀ destination done, reply = some (destination, done) → done = true) :
    (screen.disappeared reply).presented.length =
      screen.presented.length + reply.toList.length := by
  cases reply with
  | none => rfl
  | some reply =>
      obtain ⟨destination, done⟩ := reply
      have done_eq := positive destination done rfl
      rw [disappeared, done_eq, if_pos rfl, present, List.length_append]
      rfl

variable {before after : DepartingScreen Destination} {event : Event Destination}

theorem Consistent.loaded (chains : Nat) :
    Consistent chains (loaded : DepartingScreen Destination) where
  chained _ member := absurd member List.not_mem_nil
  presented := rfl

theorem Consistent.next (answers : ∀ handler ∈ handleDisappearAnimation, handler.answer = true)
    (consistent : Consistent handleDisappearAnimation.length before)
    (step : (machine handleDisappearAnimation).next before event = some after) :
    Consistent handleDisappearAnimation.length after := by
  cases event with
  | tapped destination =>
      cases step
      constructor
      · exact AnimatedCalls.start_forall consistent.chained (.start True.intro answers)
      · exact consistent.presented.trans (AnimatedCalls.start_answerCount _ _ _).symm
  | animationCompleted number place =>
      obtain ⟨⟨taps, reply⟩, completion, rfl⟩ := Option.map_eq_some_iff.mp step
      have chained := AnimatedCalls.complete_forall (fun holds => holds.complete)
        consistent.chained completion
      have count := AnimatedCalls.complete_answerCount completion
      refine ⟨by simpa using chained, ?_⟩
      rw [disappeared_presented, disappeared_taps, count]
      · exact congrArg (· + _) consistent.presented
      · intro destination done replied
        exact (AnimatedCalls.complete_reply consistent.chained completion replied).2

theorem run_consistent (answers : ∀ handler ∈ handleDisappearAnimation, handler.answer = true)
    {events : List (Event Destination)}
    (execution : (machine handleDisappearAnimation).run events loaded = some after) :
    Consistent handleDisappearAnimation.length after :=
  Machine.run_invariant (Consistent handleDisappearAnimation.length) (Consistent.next answers)
    (.loaded _) execution

theorem next_unanswered_iff
    (step : (machine handleDisappearAnimation).next before event = some after) :
    after.taps.Unanswered ↔ before.taps.Unanswered ∧ before.ChainGoesOn event := by
  cases event with
  | tapped destination =>
      cases step
      rw [tapped, AnimatedCalls.start_unanswered_iff]
      exact (and_iff_left True.intro).symm
  | animationCompleted number place =>
      obtain ⟨⟨taps, reply⟩, completion, rfl⟩ := Option.map_eq_some_iff.mp step
      rw [disappeared_taps, ChainGoesOn, AnimatedCalls.complete_unanswered_iff completion]

/-- With one chain a run presents once for each finished tap. -/
theorem run_advancesOnce (answers : ∀ handler ∈ handleDisappearAnimation, handler.answer = true)
    (one : handleDisappearAnimation.length = 1) {events : List (Event Destination)}
    (execution : (machine handleDisappearAnimation).run events loaded = some after) :
    after.AdvancesOnce := by
  have consistent := run_consistent answers execution
  rw [one] at consistent
  have calledBack := AnimatedCalls.calledBackOnce_of_one consistent.chained
  exact ⟨consistent.presented.trans calledBack.answerCount_eq, calledBack⟩

/-- With several chains it does exactly if no chain comes to its end. -/
theorem run_advancesOnce_iff
    (answers : ∀ handler ∈ handleDisappearAnimation, handler.answer = true)
    (several : 1 < handleDisappearAnimation.length) {events : List (Event Destination)}
    (execution : (machine handleDisappearAnimation).run events loaded = some after) :
    after.AdvancesOnce ↔
      (machine handleDisappearAnimation).Respects ChainGoesOn events loaded := by
  have consistent := run_consistent answers execution
  have once : after.AdvancesOnce ↔ after.taps.Unanswered := by
    rw [← AnimatedCalls.once_iff several consistent.chained, ← consistent.presented]
    exact ⟨fun advances => ⟨advances.presented, advances.calledBack⟩,
      fun both => ⟨both.1, both.2⟩⟩
  have start : (loaded : DepartingScreen Destination).taps.Unanswered :=
    fun _ member => absurd member List.not_mem_nil
  rw [once, Machine.run_respects_iff (fun _ => True) (fun screen => screen.taps.Unanswered)
    (fun _ _ => True.intro) (fun _ => next_unanswered_iff) True.intro execution]
  exact and_iff_right start

end DepartingScreen

/-! ## Their destinations -/

/-- What the home screen presents. -/
inductive HomeSection
  | calendar
  | coupon
  | photoGallery
  deriving DecidableEq

/-- The actions of `HomeViewController`: a section presents its screen. -/
def HomeViewController.machine :
    Machine (DepartingScreen HomeSection) (DepartingScreen.Event HomeSection) :=
  DepartingScreen.machine HomeView.handleDisappearAnimation

/-- The next button of `MainViewController`, which presents the home screen. -/
def MainViewController.nextMachine : Machine (DepartingScreen Unit) (DepartingScreen.Event Unit) :=
  DepartingScreen.machine MainView.handleDisappearAnimation

/-- `WhoThisViewController`: a tap on a user presents the passcode screen for that user. -/
abbrev WhoThisViewController := DepartingScreen Who

/-- The actions of `WhoThisViewController`. -/
def WhoThisViewController.machine : Machine WhoThisViewController (DepartingScreen.Event Who) :=
  DepartingScreen.machine WhoThisView.handleDisappearAnimation

/-- The home screen presents a section once for each finished tap. -/
theorem HomeViewController.run_advancesOnce {events : List (DepartingScreen.Event HomeSection)}
    {screen : DepartingScreen HomeSection}
    (execution : machine.run events .loaded = some screen) : screen.AdvancesOnce :=
  DepartingScreen.run_advancesOnce
    (by simp [HomeView.handleDisappearAnimation, Handler.answer]) rfl execution

/-- The main screen presents the home screen once for each finished tap. -/
theorem MainViewController.run_advancesOnce {events : List (DepartingScreen.Event Unit)}
    {screen : DepartingScreen Unit}
    (execution : nextMachine.run events .loaded = some screen) : screen.AdvancesOnce :=
  DepartingScreen.run_advancesOnce
    (by simp [MainView.handleDisappearAnimation, Handler.answer]) rfl execution

/-- The screen of users presents the passcode screen once for each finished tap exactly if no chain
comes to its end. -/
theorem WhoThisViewController.run_advancesOnce_iff {events : List (DepartingScreen.Event Who)}
    {screen : WhoThisViewController} (execution : machine.run events .loaded = some screen) :
    screen.AdvancesOnce ↔ machine.Respects DepartingScreen.ChainGoesOn events .loaded := by
  have several : 1 < WhoThisView.handleDisappearAnimation.length := Nat.one_lt_two
  exact DepartingScreen.run_advancesOnce_iff
    (by simp [WhoThisView.handleDisappearAnimation, Handler.answer]) several execution

end Celeste
