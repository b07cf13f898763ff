import Celeste.Departures

/-!
# Signing in

The screen that asks for the passcode.  It leaves through two chains of animations, like the screen
that asks who is using the application, so one submit of the passcode presents the main screen
twice.  The back button is not modelled.
-/

namespace Celeste

/-- `OTPView.handleDisappearAnimation`: the title and the subtitle slide, then fade; each fading
calls back. -/
def OTPView.handleDisappearAnimation : List (Handler Bool) :=
  [.animate (.callBack true), .animate (.callBack true)]

theorem OTPView.handleDisappearAnimation_answer :
    ∀ handler ∈ handleDisappearAnimation, handler.answer = true := by
  simp [handleDisappearAnimation, Handler.answer]

/-! ## The passcode -/

/-- A range of UTF-16 units. -/
structure NSRange where
  location : Nat
  length : Nat

/-- `NSString.replacingCharacters(in:with:)`. -/
def replacingCharacters (text : List UInt16) (range : NSRange) (string : List UInt16) :
    List UInt16 :=
  text.take range.location ++ string ++ text.drop (range.location + range.length)

/-- `String.count`, of UTF-16 text: decimal digits are characters of their own. -/
structure CharacterCount where
  count : List UInt16 → Nat
  count_digits (text : List UInt16) (digits : ∀ unit ∈ text, 0x30 ≤ unit ∧ unit ≤ 0x39) :
    count text = text.length

/-- The passcode `0215`. -/
def passcode : List UInt16 :=
  [0x30, 0x32, 0x31, 0x35]

theorem CharacterCount.count_passcode (characters : CharacterCount) :
    characters.count passcode = 4 :=
  characters.count_digits passcode (by simp [passcode])

/-- The passcode field, the taps on submit with the text they found, and the users for whom the main
screen was presented. -/
structure OTPViewController where
  who : Who
  text : List UInt16
  isFirstResponder : Bool
  errorLabelHidden : Bool
  submits : AnimatedCalls (List UInt16) Bool
  presentedMain : List Who

namespace OTPViewController

/-- What the user does on the screen, or the completion of an animation of a submit. -/
inductive Event
  | fieldTapped
  | dismissKeyboard
  | edit (range : NSRange) (string : List UInt16)
  | submitTapped
  | animationCompleted (number place : Nat)

/-- The view has loaded. -/
def loaded (who : Who) : OTPViewController where
  who := who
  text := []
  isFirstResponder := false
  errorLabelHidden := true
  submits := []
  presentedMain := []

/-- `textFieldDidBeginEditing(_:)`. -/
def textFieldDidBeginEditing (screen : OTPViewController) : OTPViewController :=
  { screen with errorLabelHidden := true }

/-- `OTPField.becomeFirstResponder()`. -/
def becomeFirstResponder (screen : OTPViewController) : OTPViewController :=
  if screen.isFirstResponder then screen
  else { screen with isFirstResponder := true }.textFieldDidBeginEditing

/-- `textField(_:shouldChangeCharactersIn:replacementString:)`. -/
def shouldChangeCharactersIn (screen : OTPViewController) (range : NSRange)
    (string : List UInt16) : Bool :=
  let maxLength := 4
  (replacingCharacters screen.text range string).length ≤ maxLength

/-- `submitTapped`; each tap is recorded with the text it found. -/
def submitTapped (characters : CharacterCount) (screen : OTPViewController) : OTPViewController :=
  let code := screen.text
  if characters.count code < 4 then
    { screen with submits := screen.submits.start code [] }.becomeFirstResponder
  else if code = passcode then
    { screen with submits := screen.submits.start code OTPView.handleDisappearAnimation }
  else
    { screen with
      submits := screen.submits.start code []
      errorLabelHidden := false }

/-- `transitionToMainScreen`. -/
def transitionToMainScreen (screen : OTPViewController) : OTPViewController :=
  { screen with presentedMain := screen.presentedMain ++ [screen.who] }

/-- The completion that `submitTapped` passes to `handleDisappearAnimation`. -/
def disappeared (screen : OTPViewController) :
    Option (List UInt16 × Bool) → OTPViewController
  | some (_, done) => if done then { screen with text := [] }.transitionToMainScreen else screen
  | none => screen

/-- The transitions of the screen; an edit has a range of the text. -/
def machine (characters : CharacterCount) : Machine OTPViewController Event where
  next screen
    | .fieldTapped => some screen.becomeFirstResponder
    | .dismissKeyboard => some { screen with isFirstResponder := false }
    | .edit range string =>
        if range.location + range.length ≤ screen.text.length then
          some (if screen.shouldChangeCharactersIn range string then
            { screen with text := replacingCharacters screen.text range string } else screen)
        else none
    | .submitTapped => some (screen.submitTapped characters)
    | .animationCompleted number place =>
        (screen.submits.complete number place).map fun completed =>
          { screen with submits := completed.1 }.disappeared completed.2

/-- The main screen is presented once for each submit of the passcode whose animations have
finished; each such submit is called back once, after both its chains, and no other one is. -/
structure AdvancesOnce (screen : OTPViewController) : Prop where
  presented : screen.presentedMain.length = screen.submits.finishedCount (· = passcode)
  calledBack : screen.submits.CalledBackOnce (· = passcode)

/-- The animation that completes, if any, has another one of its chain after it. -/
def ChainGoesOn (screen : OTPViewController) : Event → Prop
  | .animationCompleted number place => screen.submits.endsChain number place = false
  | _ => True

/-- Exactly the submits of the passcode run two chains, and the main screen is presented as often as
they are called back. -/
structure Consistent (screen : OTPViewController) : Prop where
  chained : ∀ submit ∈ screen.submits, AnimatedCalls.Chained (· = passcode) 2 true submit
  presented : screen.presentedMain.length = screen.submits.answerCount

@[simp]
theorem becomeFirstResponder_submits (screen : OTPViewController) :
    screen.becomeFirstResponder.submits = screen.submits := by
  unfold becomeFirstResponder
  split <;> rfl

@[simp]
theorem becomeFirstResponder_presentedMain (screen : OTPViewController) :
    screen.becomeFirstResponder.presentedMain = screen.presentedMain := by
  unfold becomeFirstResponder
  split <;> rfl

@[simp]
theorem disappeared_submits (screen : OTPViewController) (reply : Option (List UInt16 × Bool)) :
    (screen.disappeared reply).submits = screen.submits := by
  unfold disappeared
  split
  · split <;> rfl
  · rfl

/-- Called back with `true`, the screen presents; not called back, it does not. -/
theorem disappeared_presentedMain (screen : OTPViewController)
    {reply : Option (List UInt16 × Bool)}
    (positive : ∀ code done, reply = some (code, done) → done = true) :
    (screen.disappeared reply).presentedMain.length =
      screen.presentedMain.length + reply.toList.length := by
  cases reply with
  | none => rfl
  | some reply =>
      obtain ⟨code, done⟩ := reply
      have done_eq := positive code done rfl
      rw [disappeared, done_eq, if_pos rfl, transitionToMainScreen, List.length_append]
      rfl

theorem submitTapped_submits (characters : CharacterCount) (screen : OTPViewController) :
    (screen.submitTapped characters).submits =
      screen.submits.start screen.text
        (if screen.text = passcode then OTPView.handleDisappearAnimation else []) := by
  unfold submitTapped
  by_cases right : screen.text = passcode
  · simp [right, characters.count_passcode]
  · by_cases short : characters.count screen.text < 4
    · simp [short, right]
    · simp [short, right]

@[simp]
theorem submitTapped_presentedMain (characters : CharacterCount) (screen : OTPViewController) :
    (screen.submitTapped characters).presentedMain = screen.presentedMain := by
  simp only [submitTapped]
  split
  · simp
  · split <;> rfl

variable {characters : CharacterCount} {before after : OTPViewController} {event : Event}

theorem next_cases (step : (machine characters).next before event = some after) :
    (after.submits = before.submits ∧ after.presentedMain = before.presentedMain ∧
      before.ChainGoesOn event) ∨
    (event = .submitTapped ∧ after = before.submitTapped characters) ∨
    (∃ number place submits reply, event = .animationCompleted number place ∧
      before.submits.complete number place = some (submits, reply) ∧
      after = { before with submits := submits }.disappeared reply) := by
  cases event with
  | fieldTapped =>
      cases step
      exact .inl ⟨by simp, by simp, True.intro⟩
  | dismissKeyboard =>
      cases step
      exact .inl ⟨rfl, rfl, True.intro⟩
  | edit range string =>
      simp only [machine, Option.ite_none_right_eq_some, Option.some.injEq] at step
      obtain ⟨-, rfl⟩ := step
      refine .inl ⟨?_, ?_, True.intro⟩
      · split <;> rfl
      · split <;> rfl
  | submitTapped =>
      cases step
      exact .inr (.inl ⟨rfl, rfl⟩)
  | animationCompleted number place =>
      obtain ⟨⟨submits, reply⟩, completion, rfl⟩ := Option.map_eq_some_iff.mp step
      exact .inr (.inr ⟨number, place, submits, reply, rfl, completion, rfl⟩)

theorem Consistent.loaded (who : Who) : Consistent (loaded who) where
  chained _ member := absurd member List.not_mem_nil
  presented := rfl

theorem Consistent.next (consistent : Consistent before)
    (step : (machine characters).next before event = some after) : Consistent after := by
  obtain ⟨submits, presented, -⟩ | ⟨rfl, rfl⟩ |
    ⟨number, place, submits, reply, rfl, completion, rfl⟩ := next_cases step
  · constructor
    · rw [submits]
      exact consistent.chained
    · rw [submits, presented]
      exact consistent.presented
  · constructor
    · rw [submitTapped_submits]
      refine AnimatedCalls.start_forall consistent.chained ?_
      split
      case isTrue right =>
        exact @AnimatedCalls.Chained.start _ _ (· = passcode) true before.text
          OTPView.handleDisappearAnimation right OTPView.handleDisappearAnimation_answer
      case isFalse wrong => exact .start_rejected wrong
    · rw [submitTapped_presentedMain, submitTapped_submits, AnimatedCalls.start_answerCount]
      exact consistent.presented
  · have count := AnimatedCalls.complete_answerCount completion
    constructor
    · rw [disappeared_submits]
      exact AnimatedCalls.complete_forall (fun holds => holds.complete) consistent.chained
        completion
    · rw [disappeared_presentedMain, disappeared_submits, count]
      · exact congrArg (· + _) consistent.presented
      · intro code done replied
        exact (AnimatedCalls.complete_reply consistent.chained completion replied).2

theorem next_unanswered_iff (step : (machine characters).next before event = some after) :
    after.submits.Unanswered ↔ before.submits.Unanswered ∧ before.ChainGoesOn event := by
  obtain ⟨submits, -, goes_on⟩ | ⟨rfl, rfl⟩ |
    ⟨number, place, submits, reply, rfl, completion, rfl⟩ := next_cases step
  · rw [submits]
    exact (and_iff_left goes_on).symm
  · rw [submitTapped_submits, AnimatedCalls.start_unanswered_iff]
    exact (and_iff_left True.intro).symm
  · rw [disappeared_submits, ChainGoesOn, AnimatedCalls.complete_unanswered_iff completion]

/-- Submits are answered for once only as long as none is answered. -/
theorem Consistent.advancesOnce_iff {screen : OTPViewController}
    (consistent : Consistent screen) : screen.AdvancesOnce ↔ screen.submits.Unanswered := by
  rw [← AnimatedCalls.once_iff Nat.one_lt_two consistent.chained, ← consistent.presented]
  exact ⟨fun advances => ⟨advances.presented, advances.calledBack⟩,
    fun both => ⟨both.1, both.2⟩⟩

/-- A run presents the main screen once per finished submit of the passcode exactly if no chain
comes to its end. -/
theorem run_advancesOnce_iff {who : Who} {events : List Event} {screen : OTPViewController}
    (execution : (machine characters).run events (.loaded who) = some screen) :
    screen.AdvancesOnce ↔ (machine characters).Respects ChainGoesOn events (.loaded who) := by
  have consistent := Machine.run_invariant Consistent Consistent.next (.loaded who) execution
  have start : (OTPViewController.loaded who).submits.Unanswered :=
    fun _ member => absurd member List.not_mem_nil
  rw [consistent.advancesOnce_iff,
    Machine.run_respects_iff Consistent (fun screen => screen.submits.Unanswered) Consistent.next
      (fun _ => next_unanswered_iff) (.loaded who) execution]
  exact and_iff_right start

/-- In every run the main screen is presented for submits of the passcode only, and twice for each
whose animations have finished. -/
theorem run_presentedMain {who : Who} {events : List Event} {screen : OTPViewController}
    (execution : (machine characters).run events (.loaded who) = some screen) :
    screen.presentedMain.length = screen.submits.answerCount ∧
      ∀ submit ∈ screen.submits, (submit.answers ≠ [] → submit.call = passcode) ∧
        (submit.call = passcode → submit.isFinished = true → submit.answers.length = 2) := by
  have consistent := Machine.run_invariant Consistent Consistent.next (.loaded who) execution
  refine ⟨consistent.presented, ?_⟩
  intro submit member
  have chained := consistent.chained submit member
  constructor
  · intro answered
    by_contra wrong
    have length := chained.rejected_length wrong
    exact answered (List.length_eq_zero_iff.mp (by omega))
  · intro right finished
    have length := chained.accepted_length right
    have none_runs : submit.running = [] := List.isEmpty_iff.mp finished
    rwa [none_runs, List.length_nil, Nat.zero_add] at length

end OTPViewController

/-! ## Both screens -/

/-- In every run of either screen, the next one is presented once for each accepted tap whose
animations have finished exactly if no chain of animations comes to its end. -/
theorem login_advancesOnce_iff {characters : CharacterCount} {who : Who}
    {taps : List (DepartingScreen.Event Who)} {choice : WhoThisViewController}
    {submits : List OTPViewController.Event} {entry : OTPViewController}
    (chosen : WhoThisViewController.machine.run taps .loaded = some choice)
    (entered : (OTPViewController.machine characters).run submits (.loaded who) = some entry) :
    (choice.AdvancesOnce ↔
      WhoThisViewController.machine.Respects DepartingScreen.ChainGoesOn taps .loaded) ∧
    (entry.AdvancesOnce ↔
      (OTPViewController.machine characters).Respects OTPViewController.ChainGoesOn submits
        (.loaded who)) :=
  ⟨WhoThisViewController.run_advancesOnce_iff chosen,
    OTPViewController.run_advancesOnce_iff entered⟩

/-- Text of single-unit characters. -/
def unitCharacters : CharacterCount where
  count := List.length
  count_digits _ _ := rfl

/-- Lauren taps her picture and both chains of the tap run to their ends. -/
def laurenTapped : List (DepartingScreen.Event Who) :=
  [.tapped .lauren, .animationCompleted 0 0, .animationCompleted 0 1,
    .animationCompleted 0 0, .animationCompleted 0 0]

/-- Lauren types the passcode, submits it, and both chains run to their ends. -/
def passcodeSubmitted : List OTPViewController.Event :=
  [.fieldTapped, .edit ⟨0, 0⟩ passcode, .submitTapped, .animationCompleted 0 0,
    .animationCompleted 0 1, .animationCompleted 0 0, .animationCompleted 0 0]

theorem laurenTapped_advancesOnce_iff :
    ∃ choice entry, WhoThisViewController.machine.run laurenTapped .loaded = some choice ∧
      (OTPViewController.machine unitCharacters).run passcodeSubmitted (.loaded .lauren) =
        some entry ∧
      (choice.AdvancesOnce ↔ WhoThisViewController.machine.Respects
        DepartingScreen.ChainGoesOn laurenTapped .loaded) ∧
      (entry.AdvancesOnce ↔ (OTPViewController.machine unitCharacters).Respects
        OTPViewController.ChainGoesOn passcodeSubmitted (.loaded .lauren)) := by
  have runs : ∃ choice,
      WhoThisViewController.machine.run laurenTapped .loaded = some choice := ⟨_, rfl⟩
  have enters : ∃ entry, (OTPViewController.machine unitCharacters).run passcodeSubmitted
      (.loaded .lauren) = some entry := ⟨_, rfl⟩
  obtain ⟨choice, chosen⟩ := runs
  obtain ⟨entry, entered⟩ := enters
  exact ⟨choice, entry, chosen, entered, login_advancesOnce_iff chosen entered⟩

/-- One tap presents the passcode screen twice, and one submit the main screen. -/
theorem laurenTapped_advances_twice :
    ∃ choice entry, WhoThisViewController.machine.run laurenTapped .loaded = some choice ∧
      (OTPViewController.machine unitCharacters).run passcodeSubmitted (.loaded .lauren) =
        some entry ∧
      choice.presented = [.lauren, .lauren] ∧ entry.presentedMain = [.lauren, .lauren] ∧
      ¬ choice.AdvancesOnce ∧ ¬ entry.AdvancesOnce := by
  refine ⟨_, _, rfl, rfl, rfl, rfl, ?_, ?_⟩
  · intro advances
    exact absurd advances.presented (by decide)
  · intro advances
    exact absurd advances.presented (by decide)

end Celeste
