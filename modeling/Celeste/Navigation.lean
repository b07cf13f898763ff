import Celeste.AddCalendarEvent
import Celeste.CouponsScreen
import Celeste.GiftCoupon
import Celeste.Library.Presentations
import Celeste.Login
import Celeste.OurCalendar

/-!
# From screen to screen

The whole application as the row of screens that are up.  Each screen runs by its own machine, with
its calls to present and to dismiss handed to UIKit, which takes up a call to present only from the
screen on top.  Every screen up is presented by the one that should present it, all are for one
user, and the main screen is up only over a passcode screen on which the passcode was submitted.
The second call of a screen that calls back twice is refused as long as no screen is dismissed
between the two.
-/

namespace Celeste

/-! ## Screens -/

/-- A screen of the application, with what its own machine keeps. -/
inductive Screen (Date : Type)
  /-- `LaunchScreenViewController`, and how often its image has stopped. -/
  | launch (stops : Nat)
  | whoThis (controller : WhoThisViewController)
  | otp (controller : OTPViewController)
  | main (who : Who) (controller : DepartingScreen Unit)
  | home (who : Who) (controller : DepartingScreen HomeSection)
  | calendar (who : Who) (controller : OurCalendarViewController Date)
  | coupons (controller : CouponsViewController)
  | photoGallery (who : Who)
  | addCalendarEvent (controller : AddCalendarEventViewController)
  | giftCoupon (controller : GiftCouponViewController)
  | alert (message title : String)
  /-- The sheet "Are you sure?", by its number on the calendar screen. -/
  | actionSheet (sheet : Nat)

namespace Screen

variable {Date : Type}

/-- An event of a screen, of each kind. -/
inductive Event (Date : Type)
  | gifDidStop
  | whoThis (event : DepartingScreen.Event Who)
  | otp (event : OTPViewController.Event)
  | main (event : DepartingScreen.Event Unit)
  | home (event : DepartingScreen.Event HomeSection)
  | calendar (event : OurCalendarViewController.Event Date)
  | coupons (event : CouponsViewController.Event)
  | addCalendarEvent (event : AddCalendarEventViewController.Event)
  | giftCoupon (event : GiftCouponViewController.Event)

/-- How an event comes about: the user touches the screen, something calls back, or another screen
passes it on. -/
inductive Origin
  | touch
  | callback
  | relay
  deriving DecidableEq

/-- How an event of each kind comes about. -/
def Event.origin : Event Date → Origin
  | .gifDidStop => .callback
  | .whoThis (.tapped _) | .main (.tapped _) | .home (.tapped _) => .touch
  | .whoThis (.animationCompleted _ _) | .main (.animationCompleted _ _)
  | .home (.animationCompleted _ _) | .otp (.animationCompleted _ _) => .callback
  | .otp _ => .touch
  | .calendar (.didSelect _) | .calendar (.didDeselect _) | .calendar .addButtonTapped
  | .calendar (.moreTapped _) => .touch
  | .calendar (.getCalendarEventsCompleted _ _) | .calendar (.removeCalendarEventAnswered _ _)
  | .calendar (.cellForRowAt _ _) => .callback
  | .calendar .successfullyAdded | .calendar (.deleteTapped _) | .calendar (.dismissTapped _) =>
      .relay
  | .coupons .giftButtonTapped | .coupons (.redeemTapped _) => .touch
  | .coupons .successfullyGifted => .relay
  | .coupons _ => .callback
  | .addCalendarEvent (.submitTapped _ _) => .touch
  | .addCalendarEvent (.report _ _ _) => .callback
  | .addCalendarEvent (.postCalendarEvents _) | .addCalendarEvent .release => .relay
  | .giftCoupon (.submitTapped _ _ _) => .touch
  | .giftCoupon .release => .relay
  | .giftCoupon _ => .callback

section Machine

variable [DecidableEq Date] (dateFormatter : Date → String) (characters : CharacterCount)

/-- A screen moves by its own machine. -/
def machine : Machine (Screen Date) (Event Date) where
  next
    | .launch stops, .gifDidStop => some (.launch (stops + 1))
    | .whoThis controller, .whoThis event =>
        (WhoThisViewController.machine.next controller event).map .whoThis
    | .otp controller, .otp event =>
        ((OTPViewController.machine characters).next controller event).map .otp
    | .main who controller, .main event =>
        (MainViewController.nextMachine.next controller event).map (.main who)
    | .home who controller, .home event =>
        (HomeViewController.machine.next controller event).map (.home who)
    | .calendar who controller, .calendar event =>
        ((OurCalendarViewController.machine dateFormatter).next controller event).map
          (.calendar who)
    | .coupons controller, .coupons event =>
        (CouponsViewController.machine.next controller event).map .coupons
    | .addCalendarEvent controller, .addCalendarEvent event =>
        (AddCalendarEventViewController.machine.next controller event).map .addCalendarEvent
    | .giftCoupon controller, .giftCoupon event =>
        (GiftCouponViewController.machine.next controller event).map .giftCoupon
    | _, _ => none

end Machine

/-! ## What a screen asks of UIKit -/

/-- A call of a screen to `present` or `dismiss`, or a message to its delegate, which is the screen
that presented it. -/
inductive Effect (Date : Type)
  | present (screen : Screen Date)
  | dismiss
  | tell (event : Event Date)

/-- `HomeViewController.presentCalendar`, `presentCoupon` and `presentPhotoGallery`. -/
def opened (who : Who) : HomeSection → Screen Date
  | .calendar => .calendar who .loaded
  | .coupon => .coupons (.loaded who)
  | .photoGallery => .photoGallery who

/-- A toast is not a screen. -/
def ofCalendar : OurCalendarViewController.Presentation → Option (Screen Date)
  | .alert message title => some (.alert message title)
  | .toast _ => none
  | .addCalendarEvent selectedDates =>
      some (.addCalendarEvent (AddCalendarEventViewController.presented selectedDates))

/-- A toast is not a screen. -/
def ofCoupons : CouponsViewController.Presentation → Option (Screen Date)
  | .alert message title => some (.alert message title)
  | .toast _ => none
  | .giftCoupon who => some (.giftCoupon (.presented who))

/-- What the trace of a batch asks for. -/
def ofBatch : AddCalendarEventViewController.Effect → Option (Effect Date)
  | .displayAlert message title => some (.present (.alert message title))
  | .successfullyAdded => some (.tell (.calendar .successfullyAdded))
  | .dismiss => some .dismiss
  | _ => none

/-- What was added to the traces of the batches. -/
def newEffects (before after : AddCalendarEventViewController) :
    List AddCalendarEventViewController.Effect :=
  (after.batches.mapIdx fun number batch =>
    batch.trace.drop ((before.batches[number]?).elim 0 fun old => old.trace.length)).flatten

/-- What a screen asked for in one event, from what it was and what it has become. -/
def effects : Screen Date → Screen Date → List (Effect Date)
  | .launch before, .launch after =>
      List.replicate (after - before) (.present (.whoThis .loaded))
  | .whoThis before, .whoThis after =>
      (after.presented.drop before.presented.length).map fun who => .present (.otp (.loaded who))
  | .otp before, .otp after =>
      (after.presentedMain.drop before.presentedMain.length).map fun who =>
        .present (.main who .loaded)
  | .main who before, .main _ after =>
      (after.presented.drop before.presented.length).map fun _ => .present (.home who .loaded)
  | .home who before, .home _ after =>
      (after.presented.drop before.presented.length).map fun destination =>
        .present (opened who destination)
  | .calendar _ before, .calendar _ after =>
      ((after.presentations.drop before.presentations.length).filterMap ofCalendar).map .present ++
        (List.range' before.sheets.length (after.sheets.length - before.sheets.length)).map
          fun sheet => .present (.actionSheet sheet)
  | .coupons before, .coupons after =>
      ((after.presentations.drop before.presentations.length).filterMap ofCoupons).map .present
  | .addCalendarEvent before, .addCalendarEvent after =>
      ((after.alerts.drop before.alerts.length).map fun (message, title) =>
          .present (.alert message title)) ++
        (newEffects before after).filterMap ofBatch
  | .giftCoupon before, .giftCoupon after =>
      ((after.alerts.drop before.alerts.length).map fun (message, title) =>
          .present (.alert message title)) ++
        (after.gifted.drop before.gifted.length).flatMap fun _ =>
          [.tell (.coupons .successfullyGifted), .dismiss]
  | _, _ => []

/-- The screen has a way back of its own: `backTapped`, `lockButton`, `userImageTapped`,
`backButtonTapped`, `closeButton` unless a spinner covers it, the swipe that dismisses a form, or
"OK". -/
def hasWayBack : Screen Date → Bool
  | .launch _ | .whoThis _ | .actionSheet _ => false
  | .coupons controller => controller.spinners.isEmpty
  | _ => true

/-- The user a screen is for. -/
def who? : Screen Date → Option Who
  | .otp controller => some controller.who
  | .main who _ | .home who _ | .calendar who _ | .photoGallery who => some who
  | .coupons controller => some controller.who
  | .giftCoupon controller => some controller.who
  | .launch _ | .whoThis _ | .addCalendarEvent _ | .alert _ _ | .actionSheet _ => none

end Screen

/-! ## The application -/

/-- The screens that are up. -/
abbrev App (Date : Type) := Presentation (Screen Date)

namespace App

variable {Date : Type}

/-- An event of a screen that is up, the way back from the one on top, or an answer to the sheet
on top. -/
inductive Event (Date : Type)
  | screen (index : Nat) (event : Screen.Event Date)
  | wentBack
  | sheetTapped (choice : OurCalendarViewController.Choice)

/-- `scene(_:willConnectTo:options:)`. -/
def launched : App Date :=
  Presentation.launched (.launch 0)

section Machine

variable [DecidableEq Date] (dateFormatter : Date → String) (characters : CharacterCount)

/-- A screen moves alone, where its machine lets it. -/
def tell (app : App Date) (index : Nat) (event : Screen.Event Date) : App Date :=
  match (app.screen? index).bind fun screen =>
      (Screen.machine dateFormatter characters).next screen event with
  | some screen => app.move index screen
  | none => app

/-- UIKit, or the delegate, does what a screen asks for. -/
def perform (index : Nat) (app : App Date) : Screen.Effect Date → App Date
  | .present screen => app.present index screen
  | .dismiss => app.dismiss index
  | .tell event =>
      match index with
      | 0 => app
      | below + 1 => app.tell dateFormatter characters below event

/-- A screen moves, then what it asked for is done in order. -/
def move (app : App Date) (index : Nat) (event : Screen.Event Date) : Option (App Date) :=
  (app.screen? index).bind fun before =>
    ((Screen.machine dateFormatter characters).next before event).map fun after =>
      (Screen.effects before after).foldl (perform dateFormatter characters index)
        (Presentation.move app index after)

/-- The handler of an answer to a sheet. -/
def answer (sheet : Nat) : OurCalendarViewController.Choice → Screen.Event Date
  | .delete => .calendar (.deleteTapped sheet)
  | .dismiss => .calendar (.dismissTapped sheet)

/-- The transitions of the application: touches reach the screen on top, calls back any screen. -/
def machine : Machine (App Date) (Event Date) where
  next app
    | .screen index event =>
        match event.origin with
        | .touch =>
            if index + 1 = app.length then app.move dateFormatter characters index event else none
        | .callback => app.move dateFormatter characters index event
        | .relay => none
    | .wentBack =>
        if (app.screen? (app.length - 1)).any Screen.hasWayBack then
          some (app.dismiss (app.length - 1))
        else
          none
    | .sheetTapped choice =>
        match app.screen? (app.length - 1) with
        | some (.actionSheet sheet) =>
            let dismissed : App Date := app.dismiss (app.length - 1)
            some (dismissed.tell dateFormatter characters (app.length - 2) (answer sheet choice))
        | _ => none

end Machine

end App

/-! ## What a screen calls to present -/

namespace DepartingScreen

variable {Destination : Type} {handleDisappearAnimation : List (Handler Bool)}
  {before after : DepartingScreen Destination} {event : Event Destination}

/-- An event presents at most one more screen, for a tap that is called back and had not
finished. -/
theorem next_presented (step : (machine handleDisappearAnimation).next before event = some after) :
    ∃ new, after.presented = before.presented ++ new ∧ new.length ≤ 1 ∧
      ∀ destination ∈ new, after.taps.AnsweredOne (· = destination) ∧
        before.taps.finishedCount (fun _ => True) < before.taps.startedCount fun _ => True := by
  cases event with
  | tapped destination =>
      cases step
      exact ⟨[], (List.append_nil _).symm, Nat.zero_le _, List.forall_mem_nil _⟩
  | animationCompleted number place =>
      obtain ⟨⟨taps, reply⟩, completion, rfl⟩ := Option.map_eq_some_iff.mp step
      have quiet : ∃ new, before.presented = before.presented ++ new ∧ new.length ≤ 1 ∧
          ∀ destination ∈ new, taps.AnsweredOne (· = destination) ∧
            before.taps.finishedCount (fun _ => True) <
              before.taps.startedCount fun _ => True :=
        ⟨[], (List.append_nil _).symm, Nat.zero_le _, List.forall_mem_nil _⟩
      rw [disappeared_taps]
      cases reply with
      | none => exact quiet
      | some reply =>
          obtain ⟨destination, done⟩ := reply
          cases done with
          | false => exact quiet
          | true =>
              refine ⟨[destination], rfl, le_rfl, ?_⟩
              intro other member
              rw [List.mem_singleton.mp member]
              exact ⟨(AnimatedCalls.complete_answeredOne completion).2 destination true rfl rfl,
                (AnimatedCalls.complete_counts _ completion).2.2 destination true rfl True.intro⟩

theorem next_answeredOne
    (step : (machine handleDisappearAnimation).next before event = some after)
    {accepted : Destination → Prop} (answered : before.taps.AnsweredOne accepted) :
    after.taps.AnsweredOne accepted := by
  cases event with
  | tapped destination =>
      cases step
      exact answered.start destination handleDisappearAnimation
  | animationCompleted number place =>
      obtain ⟨⟨taps, reply⟩, completion, rfl⟩ := Option.map_eq_some_iff.mp step
      rw [disappeared_taps]
      exact (AnimatedCalls.complete_answeredOne completion).1 answered

theorem next_counts (animates : handleDisappearAnimation ≠ [])
    (step : (machine handleDisappearAnimation).next before event = some after) :
    (before.taps.startedCount fun _ => True) ≤ (after.taps.startedCount fun _ => True) ∧
      (before.taps.finishedCount fun _ => True) ≤ after.taps.finishedCount fun _ => True := by
  cases event with
  | tapped destination =>
      cases step
      rw [tapped, AnimatedCalls.start_startedCount,
        AnimatedCalls.start_finishedCount _ fun _ => animates]
      exact ⟨Nat.le_add_right _ _, le_rfl⟩
  | animationCompleted number place =>
      obtain ⟨⟨taps, reply⟩, completion, rfl⟩ := Option.map_eq_some_iff.mp step
      obtain ⟨started, finished, -⟩ := AnimatedCalls.complete_counts (fun _ => True) completion
      rw [disappeared_taps]
      exact ⟨started.ge, finished⟩

end DepartingScreen

namespace OTPViewController

variable {characters : CharacterCount} {before after : OTPViewController} {event : Event}

@[simp]
theorem becomeFirstResponder_who (screen : OTPViewController) :
    screen.becomeFirstResponder.who = screen.who := by
  unfold becomeFirstResponder
  split <;> rfl

@[simp]
theorem submitTapped_who (characters : CharacterCount) (screen : OTPViewController) :
    (screen.submitTapped characters).who = screen.who := by
  simp only [submitTapped]
  split
  · simp
  · split <;> rfl

@[simp]
theorem disappeared_who (screen : OTPViewController) (reply : Option (List UInt16 × Bool)) :
    (screen.disappeared reply).who = screen.who := by
  unfold disappeared
  split
  · split <;> rfl
  · rfl

theorem next_who (step : (machine characters).next before event = some after) :
    after.who = before.who := by
  cases event with
  | fieldTapped =>
      cases step
      simp
  | dismissKeyboard =>
      cases step
      rfl
  | edit range string =>
      obtain ⟨-, step⟩ := Option.ite_none_right_eq_some.mp step
      cases step
      split <;> rfl
  | submitTapped =>
      cases step
      simp
  | animationCompleted number place =>
      obtain ⟨completed, -, rfl⟩ := Option.map_eq_some_iff.mp step
      simp

theorem next_answeredOne (step : (machine characters).next before event = some after)
    {accepted : List UInt16 → Prop} (answered : before.submits.AnsweredOne accepted) :
    after.submits.AnsweredOne accepted := by
  obtain ⟨submits, -, -⟩ | ⟨rfl, rfl⟩ |
    ⟨number, place, submits, reply, rfl, completion, rfl⟩ := next_cases step
  · rwa [submits]
  · rw [submitTapped_submits]
    exact answered.start _ _
  · rw [disappeared_submits]
    exact (AnimatedCalls.complete_answeredOne completion).1 answered

/-- An event presents at most one main screen, for the user, after a submit of the passcode that is
called back and had not finished. -/
theorem Consistent.next_presentedMain (consistent : Consistent before)
    (step : (machine characters).next before event = some after) :
    ∃ new, after.presentedMain = before.presentedMain ++ new ∧ new.length ≤ 1 ∧
      ∀ who ∈ new, who = after.who ∧ after.submits.AnsweredOne (· = passcode) ∧
        before.submits.finishedCount (· = passcode) <
          before.submits.startedCount (· = passcode) := by
  have quiet : ∀ presented, presented = before.presentedMain →
      ∃ new, presented = before.presentedMain ++ new ∧ new.length ≤ 1 ∧
        ∀ who ∈ new, who = after.who ∧ after.submits.AnsweredOne (· = passcode) ∧
          before.submits.finishedCount (· = passcode) <
            before.submits.startedCount (· = passcode) :=
    fun presented same => ⟨[], by rw [same, List.append_nil], Nat.zero_le _, List.forall_mem_nil _⟩
  obtain ⟨-, presented, -⟩ | ⟨rfl, rfl⟩ |
    ⟨number, place, submits, reply, rfl, completion, rfl⟩ := next_cases step
  · exact quiet _ presented
  · exact quiet _ (submitTapped_presentedMain characters before)
  · cases reply with
    | none => exact quiet _ rfl
    | some reply =>
        obtain ⟨code, done⟩ := reply
        have allowed := AnimatedCalls.complete_reply consistent.chained completion rfl
        obtain ⟨rfl, rfl⟩ := allowed
        refine ⟨[before.who], rfl, le_rfl, ?_⟩
        intro who member
        rw [disappeared_submits, disappeared_who]
        exact ⟨List.mem_singleton.mp member,
          (AnimatedCalls.complete_answeredOne completion).2 passcode true rfl rfl,
          (AnimatedCalls.complete_counts _ completion).2.2 passcode true rfl rfl⟩

theorem next_counts (step : (machine characters).next before event = some after) :
    before.submits.startedCount (· = passcode) ≤ after.submits.startedCount (· = passcode) ∧
      before.submits.finishedCount (· = passcode) ≤
        after.submits.finishedCount (· = passcode) := by
  obtain ⟨submits, -, -⟩ | ⟨rfl, rfl⟩ |
    ⟨number, place, submits, reply, rfl, completion, rfl⟩ := next_cases step
  · rw [submits]
    exact ⟨le_rfl, le_rfl⟩
  · rw [submitTapped_submits, AnimatedCalls.start_startedCount,
      AnimatedCalls.start_finishedCount]
    · exact ⟨Nat.le_add_right _ _, le_rfl⟩
    · intro right
      rw [if_pos right]
      exact List.cons_ne_nil _ _
  · obtain ⟨started, finished, -⟩ := AnimatedCalls.complete_counts (· = passcode) completion
    rw [disappeared_submits]
    exact ⟨started.ge, finished⟩

end OTPViewController

namespace OurCalendarViewController

variable {Date : Type} [DecidableEq Date] {dateFormatter : Date → String}
  {before after : OurCalendarViewController Date} {event : Event Date}

/-- An event adds what it presents to what was presented; a form it presents has dates. -/
theorem next_presentations (step : (machine dateFormatter).next before event = some after) :
    ∃ new, after.presentations = before.presentations ++ new ∧
      ∀ selectedDates, .addCalendarEvent selectedDates ∈ new → selectedDates ≠ [] := by
  have quiet : ∀ presentations, presentations = before.presentations →
      ∃ new, presentations = before.presentations ++ new ∧
        ∀ selectedDates, .addCalendarEvent selectedDates ∈ new → selectedDates ≠ [] :=
    fun presentations same => ⟨[], by rw [same, List.append_nil], by simp⟩
  cases event with
  | didSelect date =>
      cases step
      exact quiet _ rfl
  | didDeselect date =>
      cases step
      exact quiet _ rfl
  | getCalendarEventsCompleted number result =>
      obtain ⟨-, step⟩ := Option.ite_none_right_eq_some.mp step
      cases step
      cases result with
      | success calendarEvents => exact quiet _ rfl
      | failure reason => exact ⟨[_], rfl, by simp⟩
  | removeCalendarEventAnswered number error =>
      obtain ⟨-, step⟩ := Option.ite_none_right_eq_some.mp step
      cases step
      cases error with
      | some error => exact ⟨[_], rfl, by simp⟩
      | none => exact quiet _ rfl
  | successfullyAdded =>
      cases step
      exact ⟨[_], rfl, by simp⟩
  | addButtonTapped =>
      cases step
      unfold addButtonTapped
      split
      case isTrue empty => exact ⟨[_], rfl, by simp⟩
      case isFalse dates =>
        refine ⟨[_], rfl, ?_⟩
        intro selectedDates member
        cases List.mem_singleton.mp member
        simpa using dates
  | cellForRowAt row cell =>
      obtain ⟨calendarEvent, -, rfl⟩ := Option.map_eq_some_iff.mp step
      refine quiet _ ?_
      unfold cellForRowAt
      split <;> rfl
  | moreTapped cell =>
      obtain ⟨row, -, rfl⟩ := Option.map_eq_some_iff.mp step
      refine quiet _ ?_
      unfold moreTapped
      split <;> rfl
  | deleteTapped index =>
      obtain ⟨sheet, -, step⟩ := Option.bind_eq_some_iff.mp step
      obtain ⟨-, step⟩ := Option.ite_none_right_eq_some.mp step
      cases step
      exact quiet _ rfl
  | dismissTapped index =>
      obtain ⟨sheet, -, step⟩ := Option.bind_eq_some_iff.mp step
      obtain ⟨-, step⟩ := Option.ite_none_right_eq_some.mp step
      cases step
      exact quiet _ rfl

end OurCalendarViewController

namespace CouponsViewController

variable {before after : CouponsViewController} {event : Event}

theorem next_who (step : machine.next before event = some after) : after.who = before.who := by
  cases next_change step with
  | fetched unanswered coupons => rfl
  | quiet who coupons items => exact who
  | @dequeued index cell coupon found =>
      unfold cellForItemAt
      split <;> rfl
  | @tapped cell item found enabled =>
      unfold redeemTapped
      split <;> rfl

/-- An event adds what it presents to what was presented; a form it presents is for the user. -/
theorem next_presentations (step : machine.next before event = some after) :
    ∃ new, after.presentations = before.presentations ++ new ∧
      ∀ who, .giftCoupon who ∈ new → who = before.who := by
  have quiet : ∀ presentations, presentations = before.presentations →
      ∃ new, presentations = before.presentations ++ new ∧
        ∀ who, .giftCoupon who ∈ new → who = before.who :=
    fun presentations same => ⟨[], by rw [same, List.append_nil], by simp⟩
  cases event with
  | getCouponsCompleted number result =>
      obtain ⟨-, step⟩ := Option.ite_none_right_eq_some.mp step
      cases step
      cases result with
      | success coupons => exact quiet _ rfl
      | failure reason => exact ⟨[_], rfl, by simp⟩
  | redeemCouponCompleted number success =>
      obtain ⟨redemption, -, step⟩ := Option.bind_eq_some_iff.mp step
      obtain ⟨-, step⟩ := Option.ite_none_right_eq_some.mp step
      cases step
      cases success with
      | false => exact ⟨[_], rfl, by simp⟩
      | true => exact quiet _ rfl
  | spinnerAdded number =>
      obtain ⟨-, step⟩ := Option.ite_none_right_eq_some.mp step
      cases step
      exact quiet _ rfl
  | spinnerElapsed number =>
      obtain ⟨-, step⟩ := Option.ite_none_right_eq_some.mp step
      cases step
      exact quiet _ rfl
  | giftButtonTapped =>
      cases step
      exact ⟨[_], rfl, by simp⟩
  | successfullyGifted =>
      cases step
      exact ⟨[_], rfl, by simp⟩
  | cellForItemAt index cell =>
      obtain ⟨coupon, -, rfl⟩ := Option.map_eq_some_iff.mp step
      refine quiet _ ?_
      unfold cellForItemAt
      split <;> rfl
  | redeemTapped cell =>
      obtain ⟨item, -, step⟩ := Option.bind_eq_some_iff.mp step
      obtain ⟨-, step⟩ := Option.ite_none_right_eq_some.mp step
      cases step
      refine quiet _ ?_
      unfold redeemTapped
      split <;> rfl

end CouponsViewController

namespace AddCalendarEventViewController

theorem next_selectedDates {before after : AddCalendarEventViewController} {event : Event}
    (step : machine.next before event = some after) :
    after.selectedDates = before.selectedDates := by
  simp only [machine] at step
  split at step
  · cases step
  · cases event with
    | submitTapped form uuidStrings =>
        obtain ⟨-, step⟩ := Option.ite_none_right_eq_some.mp step
        split at step
        · cases step
          rfl
        · cases step
          rfl
    | postCalendarEvents calendarEvents =>
        obtain ⟨-, step⟩ := Option.ite_none_right_eq_some.mp step
        cases step
        rfl
    | report index position error =>
        obtain ⟨batch, -, step⟩ := Option.bind_eq_some_iff.mp step
        obtain ⟨write, -, rfl⟩ := Option.map_eq_some_iff.mp step
        rfl
    | release =>
        obtain ⟨-, step⟩ := Option.ite_none_right_eq_some.mp step
        cases step
        rfl

end AddCalendarEventViewController

theorem GiftCouponViewController.next_who {before after : GiftCouponViewController}
    {event : GiftCouponViewController.Event} (step : machine.next before event = some after) :
    after.who = before.who := by
  cases next_change step with
  | quiet who => exact who
  | requested alive unspun named offered sent => rfl
  | completed unanswered success => exact completed_who _ _ _

/-! ## Which screen is over which -/

namespace Screen

variable {Date : Type}

/-- A screen as it is presented. -/
inductive IsLoaded : Screen Date → Prop
  | launch : IsLoaded (.launch 0)
  | whoThis : IsLoaded (.whoThis .loaded)
  | otp (who : Who) : IsLoaded (.otp (.loaded who))
  | main (who : Who) : IsLoaded (.main who .loaded)
  | home (who : Who) : IsLoaded (.home who .loaded)
  | calendar (who : Who) : IsLoaded (.calendar who .loaded)
  | coupons (who : Who) : IsLoaded (.coupons (.loaded who))
  | photoGallery (who : Who) : IsLoaded (.photoGallery who)
  | addCalendarEvent (selectedDates : List String) :
      IsLoaded (.addCalendarEvent (AddCalendarEventViewController.presented selectedDates))
  | giftCoupon (who : Who) : IsLoaded (.giftCoupon (.presented who))
  | alert (message title : String) : IsLoaded (.alert message title)
  | actionSheet (sheet : Nat) : IsLoaded (.actionSheet sheet)

/-- The first screen is presented by the second one as the application means it: for the user
tapped, after the passcode, for the same user, and with some dates. -/
def Presents : Screen Date → Screen Date → Prop
  | .launch _, .whoThis _ => True
  | .whoThis choice, .otp entry => choice.taps.AnsweredOne (· = entry.who)
  | .otp entry, .main who _ => who = entry.who ∧ entry.submits.AnsweredOne (· = passcode)
  | .main user _, .home who _ => who = user
  | .home user _, .calendar who _ => who = user
  | .home user _, .coupons controller => controller.who = user
  | .home user _, .photoGallery who => who = user
  | .calendar _ _, .addCalendarEvent form => form.selectedDates ≠ []
  | .calendar _ _, .actionSheet _ => True
  | .coupons controller, .giftCoupon form => form.who = controller.who
  | .calendar _ _, .alert _ _ | .coupons _, .alert _ _ | .addCalendarEvent _, .alert _ _
  | .giftCoupon _, .alert _ _ => True
  | _, _ => False

variable [DecidableEq Date] {dateFormatter : Date → String} {characters : CharacterCount}

variable (dateFormatter characters) in
/-- A screen has run by its own machine since it was presented. -/
def HasRun (screen : Screen Date) : Prop :=
  ∃ loaded events, loaded.IsLoaded ∧
    (machine dateFormatter characters).run events loaded = some screen

theorem IsLoaded.hasRun {screen : Screen Date} (loaded : screen.IsLoaded) :
    screen.HasRun dateFormatter characters :=
  ⟨screen, [], loaded, rfl⟩

variable {before after other : Screen Date} {event : Event Date}

theorem HasRun.next (ran : before.HasRun dateFormatter characters)
    (step : (machine dateFormatter characters).next before event = some after) :
    after.HasRun dateFormatter characters := by
  obtain ⟨loaded, events, start, execution⟩ := ran
  refine ⟨loaded, events ++ [event], start, ?_⟩
  rw [Machine.run_append, execution]
  exact (Machine.run_cons_eq_some _).mpr ⟨after, step, rfl⟩

variable (dateFormatter characters) in
/-- A step of a screen is a step of its own machine. -/
inductive Step : Screen Date → Event Date → Screen Date → Prop
  | launch (stops : Nat) : Step (.launch stops) .gifDidStop (.launch (stops + 1))
  | whoThis {before after : WhoThisViewController} {event : DepartingScreen.Event Who}
      (step : WhoThisViewController.machine.next before event = some after) :
      Step (.whoThis before) (.whoThis event) (.whoThis after)
  | otp {before after : OTPViewController} {event : OTPViewController.Event}
      (step : (OTPViewController.machine characters).next before event = some after) :
      Step (.otp before) (.otp event) (.otp after)
  | main (who : Who) {before after : DepartingScreen Unit} {event : DepartingScreen.Event Unit}
      (step : MainViewController.nextMachine.next before event = some after) :
      Step (.main who before) (.main event) (.main who after)
  | home (who : Who) {before after : DepartingScreen HomeSection}
      {event : DepartingScreen.Event HomeSection}
      (step : HomeViewController.machine.next before event = some after) :
      Step (.home who before) (.home event) (.home who after)
  | calendar (who : Who) {before after : OurCalendarViewController Date}
      {event : OurCalendarViewController.Event Date}
      (step : (OurCalendarViewController.machine dateFormatter).next before event = some after) :
      Step (.calendar who before) (.calendar event) (.calendar who after)
  | coupons {before after : CouponsViewController} {event : CouponsViewController.Event}
      (step : CouponsViewController.machine.next before event = some after) :
      Step (.coupons before) (.coupons event) (.coupons after)
  | addCalendarEvent {before after : AddCalendarEventViewController}
      {event : AddCalendarEventViewController.Event}
      (step : AddCalendarEventViewController.machine.next before event = some after) :
      Step (.addCalendarEvent before) (.addCalendarEvent event) (.addCalendarEvent after)
  | giftCoupon {before after : GiftCouponViewController} {event : GiftCouponViewController.Event}
      (step : GiftCouponViewController.machine.next before event = some after) :
      Step (.giftCoupon before) (.giftCoupon event) (.giftCoupon after)

theorem next_step (step : (machine dateFormatter characters).next before event = some after) :
    Step dateFormatter characters before event after := by
  simp only [machine] at step
  split at step
  · cases step
    exact .launch _
  · obtain ⟨moved, moves, rfl⟩ := Option.map_eq_some_iff.mp step
    exact .whoThis moves
  · obtain ⟨moved, moves, rfl⟩ := Option.map_eq_some_iff.mp step
    exact .otp moves
  · obtain ⟨moved, moves, rfl⟩ := Option.map_eq_some_iff.mp step
    exact .main _ moves
  · obtain ⟨moved, moves, rfl⟩ := Option.map_eq_some_iff.mp step
    exact .home _ moves
  · obtain ⟨moved, moves, rfl⟩ := Option.map_eq_some_iff.mp step
    exact .calendar _ moves
  · obtain ⟨moved, moves, rfl⟩ := Option.map_eq_some_iff.mp step
    exact .coupons moves
  · obtain ⟨moved, moves, rfl⟩ := Option.map_eq_some_iff.mp step
    exact .addCalendarEvent moves
  · obtain ⟨moved, moves, rfl⟩ := Option.map_eq_some_iff.mp step
    exact .giftCoupon moves
  · cases step

theorem HasRun.otp_consistent {entry : OTPViewController}
    (ran : (Screen.otp entry : Screen Date).HasRun dateFormatter characters) :
    entry.Consistent := by
  obtain ⟨loaded, events, start, execution⟩ := ran
  have kept := Machine.run_invariant
    (fun screen : Screen Date => ∀ entry, screen = .otp entry → entry.Consistent) ?_ ?_ execution
  · exact kept entry rfl
  · intro before event after consistent step entry same
    subst same
    cases next_step step with
    | otp step => exact (consistent _ rfl).next step
  · intro entry same
    subst same
    cases start with
    | otp who => exact .loaded who

/-- A screen that moves stays the one its presenter put up. -/
theorem Step.presents_below (step : Step dateFormatter characters before event after)
    (presents : other.Presents before) : other.Presents after := by
  cases step with
  | launch stops => cases other <;> exact presents
  | whoThis step => cases other <;> exact presents
  | otp step =>
      cases other with
      | whoThis choice =>
          change choice.taps.AnsweredOne (· = _)
          rw [OTPViewController.next_who step]
          exact presents
      | _ => exact presents
  | main who step => cases other <;> exact presents
  | home who step => cases other <;> exact presents
  | calendar who step => cases other <;> exact presents
  | coupons step =>
      cases other with
      | home user controller => exact (CouponsViewController.next_who step).trans presents
      | _ => exact presents
  | addCalendarEvent step =>
      cases other with
      | calendar who controller =>
          change AddCalendarEventViewController.selectedDates _ ≠ []
          rw [AddCalendarEventViewController.next_selectedDates step]
          exact presents
      | _ => exact presents
  | giftCoupon step =>
      cases other with
      | coupons controller => exact (GiftCouponViewController.next_who step).trans presents
      | _ => exact presents

/-- A screen that moves stays the presenter of what is on it. -/
theorem Step.presents_above (step : Step dateFormatter characters before event after)
    (presents : before.Presents other) : after.Presents other := by
  cases step with
  | launch stops => cases other <;> exact presents
  | @whoThis choice after event step =>
      cases other with
      | otp entry =>
          have answered : choice.taps.AnsweredOne (· = entry.who) := presents
          exact DepartingScreen.next_answeredOne step answered
      | _ => exact presents
  | otp step =>
      cases other with
      | main who controller =>
          exact ⟨presents.1.trans (OTPViewController.next_who step).symm,
            OTPViewController.next_answeredOne step presents.2⟩
      | _ => exact presents
  | main who step => cases other <;> exact presents
  | home who step => cases other <;> exact presents
  | calendar who step => cases other <;> exact presents
  | coupons step =>
      cases other with
      | giftCoupon form =>
          exact Eq.trans presents (CouponsViewController.next_who step).symm
      | _ => exact presents
  | addCalendarEvent step => cases other <;> exact presents
  | giftCoupon step => cases other <;> exact presents

/-- How many screens are below one of its kind; an alert comes up over several kinds. -/
def level? : Screen Date → Option Nat
  | .launch _ => some 0
  | .whoThis _ => some 1
  | .otp _ => some 2
  | .main _ _ => some 3
  | .home _ _ => some 4
  | .calendar _ _ | .coupons _ | .photoGallery _ => some 5
  | .addCalendarEvent _ | .giftCoupon _ | .actionSheet _ => some 6
  | .alert _ _ => none

omit [DecidableEq Date] in
/-- A screen is presented from the level below its own. -/
theorem Presents.exists_level {below above : Screen Date} (presents : below.Presents above)
    {level : Nat} (leveled : above.level? = some level) :
    ∃ next, below.level? = some next ∧ level = next + 1 := by
  unfold Presents at presents
  split at presents
  all_goals first | cases presents | skip
  all_goals cases leveled
  all_goals exact ⟨_, rfl, rfl⟩

omit [DecidableEq Date] in
/-- A screen for a user other than the passcode screen is presented by one for the same user. -/
theorem Presents.who_eq {below above : Screen Date} (presents : below.Presents above) {user : Who}
    (owned : above.who? = some user) (notEntry : ∀ entry, above ≠ .otp entry) :
    below.who? = some user := by
  cases above with
  | otp entry => exact absurd rfl (notEntry entry)
  | main who controller =>
      cases below with
      | otp entry => exact (congrArg some presents.1.symm).trans owned
      | _ => exact absurd presents id
  | home who controller =>
      cases below with
      | main other controller => exact (congrArg some (Eq.symm presents)).trans owned
      | _ => exact absurd presents id
  | calendar who controller =>
      cases below with
      | home other controller => exact (congrArg some (Eq.symm presents)).trans owned
      | _ => exact absurd presents id
  | coupons controller =>
      cases below with
      | home other controller => exact (congrArg some (Eq.symm presents)).trans owned
      | _ => exact absurd presents id
  | photoGallery who =>
      cases below with
      | home other controller => exact (congrArg some (Eq.symm presents)).trans owned
      | _ => exact absurd presents id
  | giftCoupon form =>
      cases below with
      | coupons controller => exact (congrArg some (Eq.symm presents)).trans owned
      | _ => exact absurd presents id
  | _ => cases owned

theorem Step.effects_present (step : Step dateFormatter characters before event after)
    (ran : before.HasRun dateFormatter characters)
    (presented : .present other ∈ effects before after) :
    other.IsLoaded ∧ after.Presents other := by
  cases step with
  | launch stops =>
      rw [effects, List.mem_replicate] at presented
      cases presented.2
      exact ⟨.whoThis, True.intro⟩
  | whoThis step =>
      obtain ⟨new, grown, -, answered⟩ := DepartingScreen.next_presented step
      rw [effects, grown, List.drop_left, List.mem_map] at presented
      obtain ⟨who, member, same⟩ := presented
      cases same
      exact ⟨.otp who, (answered who member).1⟩
  | otp step =>
      obtain ⟨new, grown, -, submitted⟩ := ran.otp_consistent.next_presentedMain step
      rw [effects, grown, List.drop_left, List.mem_map] at presented
      obtain ⟨who, member, same⟩ := presented
      cases same
      obtain ⟨user, answered, -⟩ := submitted who member
      exact ⟨.main who, user, answered⟩
  | main who step =>
      rw [effects, List.mem_map] at presented
      obtain ⟨destination, -, same⟩ := presented
      cases same
      exact ⟨.home who, rfl⟩
  | home who step =>
      rw [effects, List.mem_map] at presented
      obtain ⟨destination, -, same⟩ := presented
      cases same
      cases destination with
      | calendar => exact ⟨.calendar who, rfl⟩
      | coupon => exact ⟨.coupons who, rfl⟩
      | photoGallery => exact ⟨.photoGallery who, rfl⟩
  | calendar who step =>
      obtain ⟨new, grown, dated⟩ := OurCalendarViewController.next_presentations step
      rw [effects, grown, List.drop_left, List.mem_append, List.mem_map, List.mem_map] at presented
      rcases presented with ⟨screen, member, same⟩ | ⟨sheet, -, same⟩
      · cases same
        obtain ⟨presentation, called, shown⟩ := List.mem_filterMap.mp member
        cases presentation with
        | alert message title =>
            cases shown
            exact ⟨.alert message title, True.intro⟩
        | toast title => cases shown
        | addCalendarEvent selectedDates =>
            cases shown
            exact ⟨.addCalendarEvent selectedDates, dated selectedDates called⟩
      · cases same
        exact ⟨.actionSheet sheet, True.intro⟩
  | coupons step =>
      obtain ⟨new, grown, owned⟩ := CouponsViewController.next_presentations step
      rw [effects, grown, List.drop_left, List.mem_map] at presented
      obtain ⟨screen, member, same⟩ := presented
      cases same
      obtain ⟨presentation, called, shown⟩ := List.mem_filterMap.mp member
      cases presentation with
      | alert message title =>
          cases shown
          exact ⟨.alert message title, True.intro⟩
      | toast title => cases shown
      | giftCoupon who =>
          cases shown
          exact ⟨.giftCoupon who,
            (owned who called).trans (CouponsViewController.next_who step).symm⟩
  | addCalendarEvent step =>
      rw [effects, List.mem_append, List.mem_map] at presented
      rcases presented with ⟨alert, -, same⟩ | member
      · cases same
        exact ⟨.alert _ _, True.intro⟩
      · obtain ⟨effect, -, shown⟩ := List.mem_filterMap.mp member
        cases effect with
        | displayAlert message title =>
            cases shown
            exact ⟨.alert message title, True.intro⟩
        | _ => cases shown
  | giftCoupon step =>
      rw [effects, List.mem_append, List.mem_map] at presented
      rcases presented with ⟨alert, -, same⟩ | member
      · cases same
        exact ⟨.alert _ _, True.intro⟩
      · obtain ⟨number, -, called⟩ := List.mem_flatMap.mp member
        simp at called

omit [DecidableEq Date] in
theorem effects_cases {effect : Effect Date} (member : effect ∈ effects before after) :
    (∃ screen, effect = .present screen) ∨ after.level? = some 6 ∧
      (effect = .dismiss ∨ ∃ event, effect = .tell event ∧ event.origin = .relay) := by
  unfold effects at member
  split at member
  case h_1 | h_2 | h_3 | h_4 | h_5 | h_7 =>
    left
    first
    | exact ⟨_, (List.mem_replicate.mp member).2⟩
    | (obtain ⟨shown, -, rfl⟩ := List.mem_map.mp member
       exact ⟨_, rfl⟩)
  case h_6 =>
    left
    rcases List.mem_append.mp member with presented | sheet
    · obtain ⟨shown, -, rfl⟩ := List.mem_map.mp presented
      exact ⟨_, rfl⟩
    · obtain ⟨shown, -, rfl⟩ := List.mem_map.mp sheet
      exact ⟨_, rfl⟩
  case h_8 =>
    rcases List.mem_append.mp member with alert | traced
    · obtain ⟨shown, -, rfl⟩ := List.mem_map.mp alert
      exact .inl ⟨_, rfl⟩
    · obtain ⟨asked, -, asks⟩ := List.mem_filterMap.mp traced
      cases asked with
      | displayAlert message title =>
          cases asks
          exact .inl ⟨_, rfl⟩
      | successfullyAdded =>
          cases asks
          exact .inr ⟨rfl, .inr ⟨_, rfl, rfl⟩⟩
      | dismiss =>
          cases asks
          exact .inr ⟨rfl, .inl rfl⟩
      | _ => cases asks
  case h_9 =>
    rcases List.mem_append.mp member with alert | gifted
    · obtain ⟨shown, -, rfl⟩ := List.mem_map.mp alert
      exact .inl ⟨_, rfl⟩
    · obtain ⟨number, -, asked⟩ := List.mem_flatMap.mp gifted
      rcases List.mem_cons.mp asked with rfl | asked
      · exact .inr ⟨rfl, .inr ⟨_, rfl, rfl⟩⟩
      · exact .inr ⟨rfl, .inl (List.mem_singleton.mp asked)⟩
  case h_10 => cases member

/-! ### How often it asks for the next screen -/

/-- How often the user, or the image, asked a screen for the next one, where the next one comes
after an animation. -/
def started : Screen Date → Option Nat
  | .launch stops => some stops
  | .whoThis controller => some (controller.taps.startedCount fun _ => True)
  | .otp controller => some (controller.submits.startedCount (· = passcode))
  | .main _ controller => some (controller.taps.startedCount fun _ => True)
  | .home _ controller => some (controller.taps.startedCount fun _ => True)
  | _ => none

/-- For how many of them all animations have finished. -/
def finished : Screen Date → Option Nat
  | .launch stops => some stops
  | .whoThis controller => some (controller.taps.finishedCount fun _ => True)
  | .otp controller => some (controller.submits.finishedCount (· = passcode))
  | .main _ controller => some (controller.taps.finishedCount fun _ => True)
  | .home _ controller => some (controller.taps.finishedCount fun _ => True)
  | _ => none

omit [DecidableEq Date] in
theorem finished_eq_none {screen : Screen Date} (uncounted : screen.started = none) :
    screen.finished = none := by
  cases screen <;> first | rfl | cases uncounted

theorem Step.counts (step : Step dateFormatter characters before event after) :
    (∀ count ∈ after.started, ∃ earlier ∈ before.started, earlier ≤ count) ∧
      ∀ count ∈ after.finished, ∃ earlier ∈ before.finished, earlier ≤ count := by
  have lift : ∀ {old new old' new' : Nat}, old ≤ new ∧ old' ≤ new' →
      (∀ count ∈ some new, ∃ earlier ∈ some old, earlier ≤ count) ∧
        ∀ count ∈ some new', ∃ earlier ∈ some old', earlier ≤ count := by
    intro old new old' new' le
    exact ⟨fun _ same => ⟨old, rfl, Option.some.inj same ▸ le.1⟩,
      fun _ same => ⟨old', rfl, Option.some.inj same ▸ le.2⟩⟩
  cases step with
  | launch stops => exact lift ⟨Nat.le_succ stops, Nat.le_succ stops⟩
  | whoThis step => exact lift (DepartingScreen.next_counts (List.cons_ne_nil _ _) step)
  | otp step => exact lift (OTPViewController.next_counts step)
  | main who step => exact lift (DepartingScreen.next_counts (List.cons_ne_nil _ _) step)
  | home who step => exact lift (DepartingScreen.next_counts (List.cons_ne_nil _ _) step)
  | _ => exact ⟨fun _ absent => (by cases absent), fun _ absent => (by cases absent)⟩

theorem eq_nil_or_singleton {Element : Type} {list : List Element} {condition : Prop}
    (short : list.length ≤ 1) (meets : ∀ element ∈ list, condition) :
    list = [] ∨ ∃ element, list = [element] ∧ condition := by
  match list, short with
  | [], _ => exact .inl rfl
  | [element], _ => exact .inr ⟨element, rfl, meets element List.mem_cons_self⟩

/-- An event makes such a screen call to present once at most, and then something it was asked for
had not finished. -/
theorem Step.effects_of_started (step : Step dateFormatter characters before event after)
    (ran : before.HasRun dateFormatter characters) {count : Nat} (counted : count ∈ after.started) :
    effects before after = [] ∨
      ∃ screen, effects before after = [.present screen] ∧
        ∃ earlier ∈ before.finished, earlier < count := by
  have departs : ∀ {Destination : Type} {handlers : List (Handler Bool)}
      {old new : DepartingScreen Destination} {event : DepartingScreen.Event Destination}
      {next : Destination → Screen Date}, handlers ≠ [] →
      (DepartingScreen.machine handlers).next old event = some new →
      ((new.presented.drop old.presented.length).map fun destination =>
          Effect.present (next destination)) = [] ∨
        ∃ screen, ((new.presented.drop old.presented.length).map fun destination =>
            Effect.present (next destination)) = [.present screen] ∧
          (old.taps.finishedCount fun _ => True) < new.taps.startedCount fun _ => True := by
    intro Destination handlers old new event next animates step
    obtain ⟨added, grown, short, unfinished⟩ := DepartingScreen.next_presented step
    have more := (DepartingScreen.next_counts animates step).1
    rw [grown, List.drop_left]
    rcases eq_nil_or_singleton short fun destination member =>
      (unfinished destination member).2 with rfl | ⟨destination, rfl, open_tap⟩
    · exact .inl rfl
    · exact .inr ⟨_, rfl, open_tap.trans_le more⟩
  cases step with
  | launch stops =>
      cases counted
      have once : stops + 1 - stops = 1 := by omega
      refine .inr ⟨.whoThis .loaded, ?_, stops, rfl, Nat.lt_succ_self stops⟩
      rw [effects, once]
      rfl
  | whoThis step =>
      cases counted
      rcases departs (List.cons_ne_nil _ _) step with none_shown | ⟨screen, shown, unfinished⟩
      · exact .inl none_shown
      · exact .inr ⟨screen, shown, _, rfl, unfinished⟩
  | otp step =>
      cases counted
      obtain ⟨added, grown, short, submitted⟩ := ran.otp_consistent.next_presentedMain step
      have more := (OTPViewController.next_counts step).1
      rw [effects, grown, List.drop_left]
      rcases eq_nil_or_singleton short fun who member => (submitted who member).2.2 with
        rfl | ⟨who, rfl, open_submit⟩
      · exact .inl rfl
      · exact .inr ⟨_, rfl, _, rfl, open_submit.trans_le more⟩
  | main who step =>
      cases counted
      rcases departs (List.cons_ne_nil _ _) step with none_shown | ⟨screen, shown, unfinished⟩
      · exact .inl none_shown
      · exact .inr ⟨screen, shown, _, rfl, unfinished⟩
  | home who step =>
      cases counted
      rcases departs (List.cons_ne_nil _ _) step with none_shown | ⟨screen, shown, unfinished⟩
      · exact .inl none_shown
      · exact .inr ⟨screen, shown, _, rfl, unfinished⟩
  | _ => cases counted

omit [DecidableEq Date] in
/-- Only a form dismisses itself, and the screen that presents one presents at once. -/
theorem finished_of_dismiss (dismissed : .dismiss ∈ effects before after)
    (presents : other.Presents after) : other.finished = none := by
  rcases effects_cases dismissed with ⟨screen, same⟩ | ⟨leveled, -⟩
  · cases same
  · obtain ⟨level, below, same⟩ := presents.exists_level leveled
    cases other with
    | launch | whoThis | otp | main | home =>
        cases below
        cases same
    | _ => rfl

end Screen

/-! ## What every run of the application keeps -/

namespace App

variable {Date : Type} [DecidableEq Date] {dateFormatter : Date → String}
  {characters : CharacterCount}

variable (dateFormatter characters) in
/-- The launch screen is the root, every screen has run by its own machine, and each presents the
next one as the application means it. -/
abbrev WellFormed (app : App Date) : Prop :=
  Presentation.WellFormed (fun root : Screen Date => ∃ stops, root = .launch stops)
    (Screen.HasRun dateFormatter characters) Screen.Presents app

variable {app after : App Date} {index : Nat}

theorem WellFormed.moved (wellFormed : app.WellFormed dateFormatter characters)
    {screen moved : Screen Date} {event : Screen.Event Date}
    (found : app.screen? index = some screen)
    (step : (Screen.machine dateFormatter characters).next screen event = some moved) :
    WellFormed dateFormatter characters (Presentation.move app index moved) := by
  have stepped := Screen.next_step step
  refine Presentation.WellFormed.move wellFormed found ?_ ((wellFormed.good found).next step)
    (fun other presents => stepped.presents_below presents)
    (fun other presents => stepped.presents_above presents)
  rintro ⟨stops, rfl⟩
  cases stepped with
  | launch => exact ⟨_, rfl⟩

theorem WellFormed.tell (wellFormed : app.WellFormed dateFormatter characters) (index : Nat)
    (event : Screen.Event Date) :
    WellFormed dateFormatter characters (app.tell dateFormatter characters index event) := by
  unfold App.tell
  split
  case h_1 moved told =>
    obtain ⟨screen, found, step⟩ := Option.bind_eq_some_iff.mp told
    exact wellFormed.moved found step
  case h_2 => exact wellFormed

@[simp]
theorem length_tell (app : App Date) (index : Nat) (event : Screen.Event Date) :
    (app.tell dateFormatter characters index event).length = app.length := by
  unfold App.tell
  split
  · exact Presentation.length_move app index _
  · rfl

theorem take_tell (app : App Date) {count : Nat} (below : count ≤ index)
    (event : Screen.Event Date) :
    (app.tell dateFormatter characters index event).take count = app.take count := by
  unfold App.tell
  split
  · rw [Presentation.move, List.take_modify, List.modify_eq_self]
    rw [List.length_take]
    omega
  · rfl

theorem screen?_tell_of_ne (app : App Date) {other : Nat} (differs : other ≠ index)
    (event : Screen.Event Date) :
    (app.tell dateFormatter characters index event).screen? other = app.screen? other := by
  unfold App.tell
  split
  · exact Presentation.screen?_move_of_ne differs
  · rfl

/-- Whatever is still up at a place is this screen. -/
def Stays (app : App Date) (index : Nat) (screen : Screen Date) : Prop :=
  ∀ shown, app.screen? index = some shown → shown = screen

/-- What a screen asks for keeps the application well formed, and the screen in its place. -/
theorem WellFormed.perform (wellFormed : app.WellFormed dateFormatter characters)
    {screen : Screen Date} (stays : app.Stays index screen) {effect : Screen.Effect Date}
    (presented : ∀ other, effect = .present other → other.IsLoaded ∧ screen.Presents other) :
    WellFormed dateFormatter characters (perform dateFormatter characters index app effect) ∧
      (perform dateFormatter characters index app effect).Stays index screen := by
  cases effect with
  | present other =>
      obtain ⟨loaded, presents⟩ := presented other rfl
      by_cases top : index + 1 = app.length
      · have bound : index < app.length := by omega
        have shown : app.screen? index = some app[index].screen := by
          rw [Presentation.screen?, List.getElem?_eq_getElem bound]
          rfl
        rw [stays _ shown] at shown
        refine ⟨Presentation.WellFormed.present wellFormed shown loaded.hasRun presents, ?_⟩
        intro still found
        rw [App.perform, Presentation.screen?_present_of_lt top bound] at found
        exact stays still found
      · rw [App.perform, Presentation.present_of_covered top]
        exact ⟨wellFormed, stays⟩
  | dismiss =>
      refine ⟨Presentation.WellFormed.dismiss wellFormed index, ?_⟩
      intro still found
      obtain ⟨count, -, same⟩ := Presentation.exists_dismiss_eq app index
      rw [App.perform, same] at found
      exact stays still (Presentation.screen?_take found).2
  | tell event =>
      cases index with
      | zero => exact ⟨wellFormed, stays⟩
      | succ below =>
          refine ⟨wellFormed.tell below event, ?_⟩
          intro still found
          rw [App.perform, screen?_tell_of_ne app (Nat.succ_ne_self below)] at found
          exact stays still found

theorem WellFormed.performs {effects : List (Screen.Effect Date)}
    (wellFormed : app.WellFormed dateFormatter characters) (screen : Screen Date)
    (stays : app.Stays index screen)
    (presented : ∀ other, .present other ∈ effects → other.IsLoaded ∧ screen.Presents other) :
    WellFormed dateFormatter characters
      (effects.foldl (App.perform dateFormatter characters index) app) := by
  induction effects generalizing app with
  | nil => exact wellFormed
  | cons effect effects ih =>
      have performed := wellFormed.perform stays
        fun other same => presented other (same ▸ List.mem_cons_self)
      exact ih performed.1 performed.2
        fun other member => presented other (List.mem_cons_of_mem _ member)

theorem WellFormed.screenMoves (wellFormed : app.WellFormed dateFormatter characters)
    {event : Screen.Event Date}
    (step : app.move dateFormatter characters index event = some after) :
    after.WellFormed dateFormatter characters := by
  obtain ⟨screen, found, step⟩ := Option.bind_eq_some_iff.mp step
  obtain ⟨moved, moves, rfl⟩ := Option.map_eq_some_iff.mp step
  refine WellFormed.performs (wellFormed.moved found moves) moved ?_ ?_
  · intro shown placed
    rw [Presentation.screen?_move_self (Presentation.lt_length_of_screen? found)] at placed
    exact (Option.some.inj placed).symm
  · intro other presented
    exact (Screen.next_step moves).effects_present (wellFormed.good found) presented

theorem WellFormed.next {event : Event Date} (wellFormed : app.WellFormed dateFormatter characters)
    (step : (machine dateFormatter characters).next app event = some after) :
    after.WellFormed dateFormatter characters := by
  cases event with
  | screen index event =>
      simp only [machine] at step
      split at step
      · obtain ⟨-, step⟩ := Option.ite_none_right_eq_some.mp step
        exact wellFormed.screenMoves step
      · exact wellFormed.screenMoves step
      · cases step
  | wentBack =>
      obtain ⟨-, step⟩ := Option.ite_none_right_eq_some.mp step
      cases step
      exact Presentation.WellFormed.dismiss wellFormed _
  | sheetTapped choice =>
      simp only [machine] at step
      split at step
      · cases step
        exact WellFormed.tell (Presentation.WellFormed.dismiss wellFormed _) _ _
      · cases step

theorem WellFormed.launched : (launched : App Date).WellFormed dateFormatter characters :=
  Presentation.WellFormed.launched ⟨0, rfl⟩ Screen.IsLoaded.launch.hasRun

theorem run_wellFormed {events : List (Event Date)}
    (execution : (machine dateFormatter characters).run events launched = some app) :
    app.WellFormed dateFormatter characters :=
  Machine.run_invariant (WellFormed dateFormatter characters) WellFormed.next WellFormed.launched
    execution

/-! ## One user, and the passcode -/

section Order

variable (wellFormed : app.WellFormed dateFormatter characters)

include wellFormed

theorem WellFormed.exists_below {above : Screen Date}
    (found : app.screen? (index + 1) = some above) :
    ∃ below, app.screen? index = some below ∧ below.Presents above := by
  have bound := Presentation.lt_length_of_screen? found
  obtain ⟨below, lower⟩ := Presentation.exists_screen? ((Nat.lt_succ_self index).trans bound)
  exact ⟨below, lower, wellFormed.presents lower found⟩

/-- A screen of a fixed level is up there and nowhere else. -/
theorem WellFormed.index_eq_level {screen : Screen Date} {level : Nat}
    (found : app.screen? index = some screen) (leveled : screen.level? = some level) :
    index = level := by
  induction index generalizing screen level with
  | zero =>
      obtain ⟨root, first, stops, rfl⟩ := wellFormed.root
      cases first.symm.trans found
      exact Option.some.inj leveled
  | succ index ih =>
      obtain ⟨below, lower, presents⟩ := wellFormed.exists_below found
      obtain ⟨next, lowerLevel, rfl⟩ := presents.exists_level leveled
      exact congrArg (· + 1) (ih lower lowerLevel)

/-- Every screen for a user is the passcode screen or above it, for its user. -/
theorem WellFormed.who_eq {screen : Screen Date} {user : Who}
    (found : app.screen? index = some screen) (owned : screen.who? = some user) :
    ∃ entry, app.screen? 2 = some (.otp entry) ∧ entry.who = user := by
  induction index generalizing screen with
  | zero =>
      obtain ⟨root, first, stops, rfl⟩ := wellFormed.root
      cases first.symm.trans found
      cases owned
  | succ index ih =>
      by_cases entry : ∃ controller, screen = .otp controller
      · obtain ⟨controller, rfl⟩ := entry
        have third : index + 1 = 2 := wellFormed.index_eq_level found rfl
        rw [third] at found
        cases owned
        exact ⟨controller, found, rfl⟩
      · obtain ⟨below, lower, presents⟩ := wellFormed.exists_below found
        exact ih lower (presents.who_eq owned fun controller same => entry ⟨controller, same⟩)

end Order

variable (dateFormatter characters) in
/-- What the screens that are up have to do with each other. -/
structure Sound (app : App Date) : Prop where
  wellFormed : app.WellFormed dateFormatter characters
  /-- All screens that are for a user are for the same one. -/
  oneUser : ∀ {left right : Nat} {leftScreen rightScreen : Screen Date} {user other : Who},
    app.screen? left = some leftScreen → app.screen? right = some rightScreen →
      leftScreen.who? = some user → rightScreen.who? = some other → user = other
  /-- A screen above the passcode screen is there after a submit of the passcode. -/
  passcode : ∀ {index : Nat} {screen : Screen Date}, 2 < index → app.screen? index = some screen →
    ∃ entry, app.screen? 2 = some (.otp entry) ∧ entry.submits.AnsweredOne (· = passcode)
  /-- The passcode screen is there after a tap on its user. -/
  chosen : ∀ {entry : OTPViewController}, app.screen? 2 = some (.otp entry) →
    ∃ choice, app.screen? 1 = some (.whoThis choice) ∧ choice.taps.AnsweredOne (· = entry.who)

/-- In every run each screen up has run by its own machine and is presented by the one it should be
over; all are for the user whose passcode screen is up; and nothing is above that screen until the
passcode was submitted on it. -/
theorem run_sound {events : List (Event Date)}
    (execution : (machine dateFormatter characters).run events launched = some app) :
    app.Sound dateFormatter characters := by
  have wellFormed := run_wellFormed execution
  refine ⟨wellFormed, ?_, ?_, ?_⟩
  · intro left right leftScreen rightScreen user other leftFound rightFound leftOwned rightOwned
    obtain ⟨entry, third, rfl⟩ := wellFormed.who_eq leftFound leftOwned
    obtain ⟨same, third', rfl⟩ := wellFormed.who_eq rightFound rightOwned
    cases third.symm.trans third'
    rfl
  · intro index screen above found
    have bound := Presentation.lt_length_of_screen? found
    obtain ⟨fourth, fourthFound⟩ := Presentation.exists_screen? (lt_of_le_of_lt above bound)
    obtain ⟨third, thirdFound, presents⟩ := wellFormed.exists_below fourthFound
    obtain ⟨second, secondFound, secondPresents⟩ := wellFormed.exists_below thirdFound
    obtain ⟨root, first, stops, rfl⟩ := wellFormed.root
    have rootPresents := wellFormed.presents first secondFound
    cases second with
    | whoThis choice =>
        cases third with
        | otp entry =>
            refine ⟨entry, thirdFound, ?_⟩
            cases fourth with
            | main who controller => exact presents.2
            | _ => exact absurd presents id
        | _ => exact absurd secondPresents id
    | _ => exact absurd rootPresents id
  · intro entry found
    obtain ⟨below, lower, presents⟩ := wellFormed.exists_below found
    cases below with
    | whoThis choice => exact ⟨choice, lower, presents⟩
    | _ => exact absurd presents id

/-- Lauren taps her picture, and the passcode screen comes up at the end of one chain. -/
def chosenByLauren : List (Event Unit) :=
  [.screen 0 .gifDidStop, .screen 1 (.whoThis (.tapped .lauren)),
    .screen 1 (.whoThis (.animationCompleted 0 0)), .screen 1 (.whoThis (.animationCompleted 0 0)),
    .screen 1 (.whoThis (.animationCompleted 0 0)), .screen 1 (.whoThis (.animationCompleted 0 0))]

/-- She submits the passcode, and the main screen comes up at the end of one chain. -/
def submittedByLauren : List (Event Unit) :=
  [.screen 2 (.otp .fieldTapped), .screen 2 (.otp (.edit ⟨0, 0⟩ passcode)),
    .screen 2 (.otp .submitTapped), .screen 2 (.otp (.animationCompleted 0 0)),
    .screen 2 (.otp (.animationCompleted 0 0))]

/-- She goes on to the calendar, selects a day and taps the button that adds events. -/
def addingByLauren : List (Event Unit) :=
  chosenByLauren ++ submittedByLauren ++
    [.screen 2 (.otp (.animationCompleted 0 0)), .screen 2 (.otp (.animationCompleted 0 0)),
      .screen 3 (.main (.tapped ())), .screen 3 (.main (.animationCompleted 0 0)),
      .screen 4 (.home (.tapped .calendar)), .screen 4 (.home (.animationCompleted 0 0)),
      .screen 5 (.calendar (.didSelect ())), .screen 5 (.calendar .addButtonTapped)]

theorem addingByLauren_sound :
    ∃ app, (machine OurCalendarViewController.picnicDay unitCharacters).run addingByLauren
        launched = some app ∧ app.length = 7 ∧
      Sound OurCalendarViewController.picnicDay unitCharacters app := by
  have runs : ∃ app, (machine OurCalendarViewController.picnicDay unitCharacters).run
      addingByLauren launched = some app ∧ app.length = 7 := ⟨_, rfl, rfl⟩
  obtain ⟨app, execution, height⟩ := runs
  exact ⟨app, execution, height, run_sound execution⟩

/-! ## The way back -/

/-- The event goes back from the screen on top. -/
def Event.GoesBack : Event Date → Prop
  | .wentBack | .sheetTapped .dismiss => True
  | _ => False

omit [DecidableEq Date] in
/-- No spinner is over the coupons screen, or still to be put up there. -/
def Uncovered (app : App Date) : Prop :=
  ∀ {index controller}, app.screen? index = some (.coupons controller) →
    controller.queued = [] ∧ controller.spinners = []

/-- Every redeem with a spinner, over the coupons screen or still to be put up, was answered. -/
def Answered (app : App Date) : Prop :=
  ∀ {index controller}, app.screen? index = some (.coupons controller) →
    ∀ number ∈ controller.queued ++ controller.spinners,
      number ∉ controller.requests.unanswered

omit [DecidableEq Date] in
theorem Uncovered.take (uncovered : app.Uncovered) (count : Nat) : Uncovered (app.take count) :=
  fun found => uncovered (Presentation.screen?_take found).2

theorem Uncovered.tell (uncovered : app.Uncovered) (place : Nat)
    (event : OurCalendarViewController.Event Date) :
    Uncovered (app.tell dateFormatter characters place (.calendar event)) := by
  intro index controller found
  unfold App.tell at found
  split at found
  case h_1 moved told =>
    obtain ⟨screen, up, step⟩ := Option.bind_eq_some_iff.mp told
    by_cases same : index = place
    · subst same
      rw [Presentation.screen?_move_self (Presentation.lt_length_of_screen? up)] at found
      cases found
      cases Screen.next_step step
    · rw [Presentation.screen?_move_of_ne same] at found
      exact uncovered found
  case h_2 => exact uncovered found

/-- From above the first two screens, with no spinner up, one touch on the top goes back to the one
below. -/
theorem WellFormed.exists_back (wellFormed : app.WellFormed dateFormatter characters)
    (uncovered : app.Uncovered) (above : 2 < app.length) :
    ∃ event after, Event.GoesBack event ∧
      (machine dateFormatter characters).next app event = some after ∧
      after.length + 1 = app.length ∧ after.take 2 = app.take 2 ∧ after.Uncovered := by
  have top : app.length - 1 + 1 = app.length := by omega
  obtain ⟨screen, found⟩ :=
    Presentation.exists_screen? (show app.length - 1 < List.length app by omega)
  have dismissed : Presentation.dismiss app (app.length - 1) = app.take (app.length - 1) :=
    Presentation.dismiss_top top (by omega)
  have kept : (app.take (app.length - 1)).take 2 = app.take 2 := by
    rw [List.take_take, min_eq_left (by omega)]
  have shorter : (app.take (app.length - 1)).length + 1 = app.length := by
    rw [List.length_take]
    omega
  by_cases hasWay : screen.hasWayBack = true
  · refine ⟨.wentBack, _, True.intro, ?_, dismissed ▸ shorter, dismissed ▸ kept,
      dismissed ▸ uncovered.take _⟩
    simp only [machine, found, Option.any_some, hasWay, if_true]
  · cases screen with
    | launch stops =>
        have first := wellFormed.index_eq_level found rfl
        omega
    | whoThis choice =>
        have second := wellFormed.index_eq_level found rfl
        omega
    | coupons controller =>
        have none_up := (uncovered found).2
        simp [Screen.hasWayBack, none_up] at hasWay
    | actionSheet sheet =>
        have seventh := wellFormed.index_eq_level found rfl
        have lower : 2 ≤ app.length - 2 := by omega
        refine ⟨.sheetTapped .dismiss,
          App.tell dateFormatter characters (app.take (app.length - 1)) (app.length - 2)
            (answer sheet .dismiss), True.intro, ?_, ?_, ?_, ?_⟩
        · simp only [machine, found, dismissed]
        · rw [length_tell]
          exact shorter
        · rw [take_tell _ lower]
          exact kept
        · exact Uncovered.tell (uncovered.take _) _ _
    | _ => exact absurd rfl hasWay

/-- With no spinner up, touches on the top lead back to the first two screens. -/
theorem WellFormed.exists_touches (wellFormed : app.WellFormed dateFormatter characters)
    (uncovered : app.Uncovered) (second : 2 ≤ app.length) :
    ∃ touches : List (Event Date), (∀ event ∈ touches, event.GoesBack) ∧
      touches.length = app.length - 2 ∧
      (machine dateFormatter characters).run touches app = some (app.take 2) := by
  generalize height : app.length - 2 = count
  induction count generalizing app with
  | zero =>
      refine ⟨[], List.forall_mem_nil _, rfl, ?_⟩
      rw [List.take_of_length_le (by omega)]
      rfl
  | succ count ih =>
      obtain ⟨event, after, back, step, shorter, same, still⟩ :=
        wellFormed.exists_back uncovered (by omega)
      obtain ⟨touches, allBack, length, rest⟩ :=
        ih (wellFormed.next step) still (by omega) (by omega)
      refine ⟨event :: touches, List.forall_mem_cons.mpr ⟨back, allBack⟩, ?_, ?_⟩
      · rw [List.length_cons, length]
      · rw [← same]
        exact (Machine.run_cons_eq_some _).mpr ⟨after, step, rest⟩

/-! ### Spinners in the way -/

/-- A spinner is over the coupons screen at a place, and its redeem is not answered. -/
def WaitsAt (index number : Nat) (app : App Date) : Prop :=
  ∃ controller, app.screen? index = some (.coupons controller) ∧
    number ∈ controller.spinners ∧ number ∈ controller.requests.unanswered

/-- The call of the coupons screen that an event answers. -/
def Event.couponReply : Event Date → Option Nat
  | .screen _ (.coupons event) => event.reply
  | _ => none

section Waiting

variable {number : Nat}

omit [DecidableEq Date] in
theorem WaitsAt.take (waits : app.WaitsAt index number) {count : Nat} (below : index < count) :
    WaitsAt index number (app.take count) := by
  obtain ⟨controller, found, up, waiting⟩ := waits
  refine ⟨controller, ?_, up, waiting⟩
  rw [Presentation.screen?, List.getElem?_take, if_pos below]
  exact found

omit [DecidableEq Date] in
theorem WaitsAt.present (waits : app.WaitsAt index number) (place : Nat) (screen : Screen Date) :
    WaitsAt index number (Presentation.present app place screen) := by
  by_cases top : place + 1 = app.length
  · obtain ⟨controller, found, up, waiting⟩ := waits
    have bound := Presentation.lt_length_of_screen? found
    exact ⟨controller, (Presentation.screen?_present_of_lt top bound).trans found, up, waiting⟩
  · rw [Presentation.present_of_covered top]
    exact waits

omit [DecidableEq Date] in
theorem WaitsAt.dismiss (waits : app.WaitsAt index number) {place : Nat} (above : index < place) :
    WaitsAt index number (Presentation.dismiss app place) := by
  unfold Presentation.dismiss
  split
  · exact waits.take (by omega)
  · split
    · exact waits
    · exact waits.take above

/-- Screens move, and the spinner stays up unless its redeem is answered. -/
theorem WaitsAt.moved (waits : app.WaitsAt index number) {place : Nat} {screen moved : Screen Date}
    {event : Screen.Event Date} (found : app.screen? place = some screen)
    (step : (Screen.machine dateFormatter characters).next screen event = some moved)
    (unanswered : ∀ call : CouponsViewController.Event, event = .coupons call →
      call.reply ≠ some number) : WaitsAt index number (Presentation.move app place moved) := by
  obtain ⟨controller, shown, up, waiting⟩ := waits
  by_cases same : index = place
  · subst same
    cases shown.symm.trans found
    cases Screen.next_step step with
    | @coupons before after call moves =>
        have change := CouponsViewController.next_change moves
        exact ⟨after, Presentation.screen?_move_self (Presentation.lt_length_of_screen? shown),
          change.spinners up waiting, change.requests.open_kept waiting (unanswered call rfl)⟩
  · exact ⟨controller, (Presentation.screen?_move_of_ne same).trans shown, up, waiting⟩

theorem WaitsAt.tell (waits : app.WaitsAt index number) (place : Nat) {event : Screen.Event Date}
    (relayed : event.origin = .relay) :
    WaitsAt index number (app.tell dateFormatter characters place event) := by
  unfold App.tell
  split
  case h_1 moved told =>
    obtain ⟨screen, found, step⟩ := Option.bind_eq_some_iff.mp told
    refine waits.moved found step ?_
    intro call same replied
    subst same
    cases call <;> simp_all [Screen.Event.origin, CouponsViewController.Event.reply]
  case h_2 => exact waits

/-- What a screen asks for leaves the spinner of a screen that is not above it. -/
theorem WaitsAt.performs (waits : app.WaitsAt index number) (place : Nat)
    {effects : List (Screen.Effect Date)}
    (asked : ∀ effect ∈ effects, (∃ screen, effect = .present screen) ∨
      index < place ∧ (effect = .dismiss ∨ ∃ event, effect = .tell event ∧
        event.origin = .relay)) :
    WaitsAt index number (effects.foldl (perform dateFormatter characters place) app) := by
  induction effects generalizing app with
  | nil => exact waits
  | cons effect effects ih =>
      obtain ⟨first, others⟩ := List.forall_mem_cons.mp asked
      refine ih ?_ others
      rcases first with ⟨screen, rfl⟩ | ⟨above, rfl | ⟨event, rfl, relayed⟩⟩
      · exact waits.present place screen
      · exact waits.dismiss above
      · cases place with
        | zero => exact waits
        | succ below => exact waits.tell below relayed

/-- As long as its redeem is not answered the spinner stays, and the coupons screen with it. -/
theorem WaitsAt.next (waits : app.WaitsAt index number)
    (wellFormed : app.WellFormed dateFormatter characters) {event : Event Date}
    (unanswered : event.couponReply ≠ some number)
    (step : (machine dateFormatter characters).next app event = some after) :
    after.WaitsAt index number := by
  obtain ⟨controller, shown, up, waiting⟩ := id waits
  have bound := Presentation.lt_length_of_screen? shown
  cases event with
  | screen place event =>
      have moves : app.move dateFormatter characters place event = some after := by
        simp only [machine] at step
        split at step
        · exact (Option.ite_none_right_eq_some.mp step).2
        · exact step
        · cases step
      obtain ⟨screen, found, moves⟩ := Option.bind_eq_some_iff.mp moves
      obtain ⟨moved, stepped, rfl⟩ := Option.map_eq_some_iff.mp moves
      have still := waits.moved found stepped fun call same => by
        subst same
        exact unanswered
      refine still.performs place ?_
      intro effect member
      refine (Screen.effects_cases member).imp_right fun asked => ⟨?_, asked.2⟩
      have sixth : index = 5 := wellFormed.index_eq_level shown rfl
      have placed := @Presentation.screen?_move_self _ app place moved
        (Presentation.lt_length_of_screen? found)
      have seventh : place = 6 := (wellFormed.moved found stepped).index_eq_level placed asked.1
      omega
  | wentBack =>
      obtain ⟨back, step⟩ := Option.ite_none_right_eq_some.mp step
      cases step
      refine waits.dismiss ?_
      by_contra last
      have top : app.length - 1 = index := by omega
      rw [top, shown, Option.any_some] at back
      exact absurd (List.isEmpty_iff.mp back) (List.ne_nil_of_mem up)
  | sheetTapped choice =>
      simp only [machine] at step
      split at step
      case h_1 sheet top =>
        cases step
        have below : index < app.length - 1 := by
          by_contra last
          have same : app.length - 1 = index := by omega
          rw [same, shown] at top
          cases top
        have relayed : (answer sheet choice : Screen.Event Date).origin = .relay := by
          cases choice <;> rfl
        exact (waits.dismiss below).tell _ relayed
      case h_2 => cases step

end Waiting

/-- A screen has presented at most as many screens as it was asked for, and the one on top not for
what is still animating. -/
structure Sparing (app : App Date) : Prop where
  covered : ∀ {index : Nat} {presented : Presented (Screen Date)},
    app[index]? = some presented → ∀ count ∈ presented.screen.started, presented.shown ≤ count
  top : ∀ {index : Nat} {presented : Presented (Screen Date)},
    app[index]? = some presented → index + 1 = app.length →
      ∀ count ∈ presented.screen.finished, presented.shown ≤ count

/-- The way back is taken only once the screen below has finished its animations. -/
def Settled (app : App Date) : Event Date → Prop
  | .wentBack => ∀ screen, app.screen? (app.length - 2) = some screen →
      screen.started = screen.finished
  | _ => True

omit [DecidableEq Date] in
theorem Sparing.launched : Sparing (launched : App Date) where
  covered := by
    intro index presented found
    cases index with
    | zero =>
        cases found
        exact fun _ _ => Nat.zero_le _
    | succ index => cases found
  top := by
    intro index presented found
    cases index with
    | zero =>
        cases found
        exact fun _ _ _ => Nat.zero_le _
    | succ index => cases found

theorem Sparing.moved (sparing : app.Sparing) {screen moved : Screen Date}
    {event : Screen.Event Date} (found : app.screen? index = some screen)
    (step : (Screen.machine dateFormatter characters).next screen event = some moved) :
    Sparing (Presentation.move app index moved) := by
  have counts := (Screen.next_step step).counts
  obtain ⟨presented, placed, rfl⟩ := Option.map_eq_some_iff.mp found
  have shown : ∀ {place other}, (Presentation.move app index moved)[place]? = some other →
      (place = index ∧ other = { presented with screen := moved }) ∨
        (place ≠ index ∧ app[place]? = some other) := by
    intro place other located
    rw [Presentation.move, List.getElem?_modify] at located
    by_cases same : index = place
    · subst same
      rw [placed] at located
      exact .inl ⟨rfl, by simpa using located.symm⟩
    · exact .inr ⟨Ne.symm same, by simpa [same] using located⟩
  constructor
  · intro place other located count counted
    rcases shown located with ⟨rfl, rfl⟩ | ⟨-, old⟩
    · obtain ⟨earlier, before, le⟩ := counts.1 count counted
      exact (sparing.covered placed earlier before).trans le
    · exact sparing.covered old count counted
  · intro place other located last count counted
    rw [Presentation.length_move] at last
    rcases shown located with ⟨rfl, rfl⟩ | ⟨-, old⟩
    · obtain ⟨earlier, before, le⟩ := counts.2 count counted
      exact (sparing.top placed last earlier before).trans le
    · exact sparing.top old last count counted

theorem Sparing.tell (sparing : app.Sparing) (index : Nat) (event : Screen.Event Date) :
    Sparing (app.tell dateFormatter characters index event) := by
  unfold App.tell
  split
  case h_1 moved told =>
    obtain ⟨screen, found, step⟩ := Option.bind_eq_some_iff.mp told
    exact sparing.moved found step
  case h_2 => exact sparing

omit [DecidableEq Date] in
theorem Sparing.present (sparing : app.Sparing)
    (asked : ∀ presented, app[index]? = some presented → index + 1 = app.length →
      ∀ count ∈ presented.screen.started, presented.shown < count)
    (screen : Screen Date) : Sparing (Presentation.present app index screen) := by
  by_cases top : index + 1 = app.length
  · have shown : ∀ {place other}, (Presentation.present app index screen)[place]? = some other →
        (other.shown = 0) ∨
          (place ≠ index ∧ place < app.length ∧ app[place]? = some other) ∨
          ∃ presented, place = index ∧ app[index]? = some presented ∧
            other = { presented with shown := presented.shown + 1 } := by
      intro place other located
      rw [Presentation.present, if_pos top, List.getElem?_append] at located
      split at located
      case isTrue bound =>
        rw [List.length_modify] at bound
        rw [List.getElem?_modify] at located
        obtain ⟨presented, old, rfl⟩ := Option.map_eq_some_iff.mp located
        by_cases same : index = place
        · subst same
          refine .inr (.inr ⟨presented, rfl, old, ?_⟩)
          simp
        · exact .inr (.inl ⟨Ne.symm same, bound, by simpa [same] using old⟩)
      case isFalse =>
        have new := List.mem_of_getElem? located
        rw [List.mem_singleton.mp new]
        exact .inl rfl
    constructor
    · intro place other located count counted
      rcases shown located with zero | ⟨-, -, old⟩ | ⟨presented, rfl, old, rfl⟩
      · omega
      · exact sparing.covered old count counted
      · exact asked presented old top count counted
    · intro place other located last count counted
      rw [Presentation.length_present top] at last
      rcases shown located with zero | ⟨-, bound, -⟩ | ⟨presented, rfl, -, -⟩
      · omega
      · omega
      · omega
  · rw [Presentation.present_of_covered top]
    exact sparing

omit [DecidableEq Date] in
/-- What is below a screen taken down may be on top if it has finished its animations. -/
theorem Sparing.take (sparing : app.Sparing) {count : Nat}
    (settled : ∀ screen, app.screen? (count - 1) = some screen →
      count < app.length → screen.started = screen.finished ∨ screen.finished = none) :
    Sparing (app.take count) where
  covered := by
    intro index presented found
    rw [List.getElem?_take] at found
    split at found
    · exact sparing.covered found
    · cases found
  top := by
    intro index presented found last bound counted
    rw [List.getElem?_take] at found
    rw [List.length_take] at last
    split at found
    case isTrue below =>
      by_cases all : app.length ≤ count
      · exact sparing.top found (by omega) bound counted
      · have place : index = count - 1 := by omega
        subst place
        have shown : app.screen? (count - 1) = some presented.screen := by
          rw [Presentation.screen?, found]
          rfl
        rcases settled _ shown (by omega) with same | none
        · exact sparing.covered found bound (same ▸ counted)
        · rw [none] at counted
          cases counted
    case isFalse => cases found

theorem Sparing.perform (sparing : app.Sparing)
    (wellFormed : app.WellFormed dateFormatter characters) {screen : Screen Date}
    (stays : app.Stays index screen) (uncounted : screen.started = none)
    {effect : Screen.Effect Date}
    (dismissed : effect = .dismiss → ∀ below : Screen Date, below.Presents screen →
      below.finished = none) :
    Sparing (App.perform dateFormatter characters index app effect) := by
  cases effect with
  | present other =>
      refine sparing.present ?_ other
      intro presented found top count counted
      have shown : app.screen? index = some presented.screen := by
        rw [Presentation.screen?, found]
        rfl
      rw [stays _ shown, uncounted] at counted
      cases counted
  | dismiss =>
      change Sparing (Presentation.dismiss app index)
      unfold Presentation.dismiss
      split
      case isTrue =>
        refine sparing.take ?_
        intro same found _
        rw [Nat.add_sub_cancel] at found
        rw [stays same found]
        exact .inr (Screen.finished_eq_none uncounted)
      case isFalse high =>
        split
        case isTrue => exact sparing
        case isFalse above =>
          refine sparing.take ?_
          intro below found bound
          have shown : app.screen? index = some app[index].screen := by
            rw [Presentation.screen?, List.getElem?_eq_getElem bound]
            rfl
          have place : index - 1 + 1 = index := by omega
          have presents : below.Presents app[index].screen :=
            wellFormed.presents found (by rw [place]; exact shown)
          rw [stays _ shown] at presents
          exact .inr (dismissed rfl below presents)
  | tell event =>
      cases index with
      | zero => exact sparing
      | succ below => exact sparing.tell below event

theorem Sparing.performs {effects : List (Screen.Effect Date)} (sparing : app.Sparing)
    (wellFormed : app.WellFormed dateFormatter characters) (screen : Screen Date)
    (stays : app.Stays index screen) (uncounted : screen.started = none)
    (presented : ∀ other, .present other ∈ effects → other.IsLoaded ∧ screen.Presents other)
    (dismissed : .dismiss ∈ effects → ∀ below : Screen Date, below.Presents screen →
      below.finished = none) :
    Sparing (effects.foldl (App.perform dateFormatter characters index) app) := by
  induction effects generalizing app with
  | nil => exact sparing
  | cons effect effects ih =>
      have first : Sparing (App.perform dateFormatter characters index app effect) := by
        refine sparing.perform wellFormed stays uncounted ?_
        intro same
        exact dismissed (same ▸ List.mem_cons_self)
      have performed := wellFormed.perform stays
        fun other same => presented other (same ▸ List.mem_cons_self)
      exact ih first performed.1 performed.2
        (fun other member => presented other (List.mem_cons_of_mem _ member))
        fun member => dismissed (List.mem_cons_of_mem _ member)

theorem Sparing.screenMoves (sparing : app.Sparing)
    (wellFormed : app.WellFormed dateFormatter characters) {event : Screen.Event Date}
    (step : app.move dateFormatter characters index event = some after) : after.Sparing := by
  obtain ⟨screen, found, step⟩ := Option.bind_eq_some_iff.mp step
  obtain ⟨moved, moves, rfl⟩ := Option.map_eq_some_iff.mp step
  have stepped := Screen.next_step moves
  have ran := wellFormed.good found
  have movedSparing := sparing.moved found moves
  have bound := Presentation.lt_length_of_screen? found
  cases counted : moved.started with
  | none =>
      refine movedSparing.performs (wellFormed.moved found moves) moved ?_ counted ?_ ?_
      · intro shown placed
        rw [Presentation.screen?_move_self bound] at placed
        exact (Option.some.inj placed).symm
      · exact fun other presented => stepped.effects_present ran presented
      · exact fun member below presents => Screen.finished_of_dismiss member presents
  | some count =>
      rcases stepped.effects_of_started ran counted with
        none_shown | ⟨shown, one, earlier, finished, fewer⟩
      · rw [none_shown]
        exact movedSparing
      · rw [one]
        refine movedSparing.present ?_ shown
        intro presented placed top count' counted'
        obtain ⟨old, oldPlaced, rfl⟩ := Option.map_eq_some_iff.mp found
        rw [Presentation.move, List.getElem?_modify_eq, oldPlaced] at placed
        cases placed
        cases counted.symm.trans counted'
        rw [Presentation.length_move] at top
        exact (sparing.top oldPlaced top earlier finished).trans_lt fewer

theorem Sparing.next {event : Event Date} (sparing : app.Sparing)
    (wellFormed : app.WellFormed dateFormatter characters) (settled : app.Settled event)
    (step : (machine dateFormatter characters).next app event = some after) : after.Sparing := by
  cases event with
  | screen index event =>
      simp only [machine] at step
      split at step
      · obtain ⟨-, step⟩ := Option.ite_none_right_eq_some.mp step
        exact sparing.screenMoves wellFormed step
      · exact sparing.screenMoves wellFormed step
      · cases step
  | wentBack =>
      obtain ⟨-, step⟩ := Option.ite_none_right_eq_some.mp step
      cases step
      by_cases single : app.length ≤ 1
      · have same : Presentation.dismiss app (app.length - 1) = app := by
          rw [Presentation.dismiss, if_neg (by omega), if_pos (by omega)]
        rw [same]
        exact sparing
      · rw [Presentation.dismiss_top (by omega) (by omega)]
        exact sparing.take fun screen found _ => .inl (settled screen found)
  | sheetTapped choice =>
      simp only [machine] at step
      split at step
      case h_1 sheet top =>
        cases step
        have bound := Presentation.lt_length_of_screen? top
        by_cases single : app.length ≤ 1
        · have same : Presentation.dismiss app (app.length - 1) = app := by
            rw [Presentation.dismiss, if_neg (by omega), if_pos (by omega)]
          rw [same]
          exact sparing.tell _ _
        · rw [Presentation.dismiss_top (by omega) (by omega)]
          refine Sparing.tell (sparing.take ?_) _ _
          intro screen found _
          have next : app.length - 1 - 1 + 1 = app.length - 1 := by omega
          have presents : screen.Presents (.actionSheet sheet) :=
            wellFormed.presents found (by rw [next]; exact top)
          cases screen with
          | calendar who controller => exact .inr rfl
          | _ => exact absurd presents id
      case h_2 => cases step

/-- In every run in which the way back is taken only once the screen below has finished its
animations, every screen up has presented at most as many screens as it was asked for: the second
answer to a tap, or to a submit of the passcode, presents nothing. -/
theorem run_sparing {events : List (Event Date)}
    (settled : (machine dateFormatter characters).Respects Settled events launched)
    (execution : (machine dateFormatter characters).run events launched = some app) :
    app.Sparing := by
  have kept := Machine.run_guarded
    (fun app : App Date => app.WellFormed dateFormatter characters ∧ app.Sparing)
    (fun holds settled step => ⟨holds.1.next step, holds.2.next holds.1 settled step⟩)
    ⟨.launched, .launched⟩ settled execution
  exact kept.2

theorem addingByLauren_sparing :
    ∃ app, (machine OurCalendarViewController.picnicDay unitCharacters).run addingByLauren
        launched = some app ∧ app.Sparing := by
  have settled : ∀ event ∈ addingByLauren, ∀ app : App Unit, app.Settled event := by
    simp [addingByLauren, chosenByLauren, submittedByLauren, Settled]
  have runs : ∃ app, (machine OurCalendarViewController.picnicDay unitCharacters).run
      addingByLauren launched = some app := ⟨_, rfl⟩
  obtain ⟨app, execution⟩ := runs
  exact ⟨app, execution, run_sparing (.of_always settled _) execution⟩

/-- The main screen is locked before the second chain of the passcode screen has come to its end,
which presents it again. -/
def lockedTooSoon : List (Event Unit) :=
  chosenByLauren ++ submittedByLauren ++
    [.wentBack, .screen 2 (.otp (.animationCompleted 0 0)),
      .screen 2 (.otp (.animationCompleted 0 0))]

theorem lockedTooSoon_not_sparing :
    ∃ app, (machine OurCalendarViewController.picnicDay unitCharacters).run lockedTooSoon
        launched = some app ∧ ¬ app.Sparing := by
  refine ⟨_, rfl, ?_⟩
  intro sparing
  have shown := sparing.covered (show _[2]? = some _ from rfl) 1 rfl
  exact absurd shown (by decide)

end App

end Celeste
