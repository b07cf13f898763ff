import Celeste.GifPlayback
import Celeste.Navigation

/-!
# From the launch screen into the application

The launch screen plays a GIF once and presents the screen that asks who is using the application
when it stops.  The application and the manager of the GIF run side by side, and meet in the calls
of the delegate.  Nothing is up but the launch screen until the GIF was shown to its end, and then
the other screen is asked for once, however often the launch screen appears.
-/

namespace Celeste

/-! ## The root of the application -/

namespace App

variable {Date : Type} [DecidableEq Date] {dateFormatter : Date → String}
  {characters : CharacterCount} {app after : App Date} {index : Nat}

theorem perform_two (two : 2 ≤ app.length) (above : 0 < index) {effect : Screen.Effect Date}
    (third : (∃ other, effect = .present other) ∨ 2 ≤ index) :
    2 ≤ (perform dateFormatter characters index app effect).length ∧
      (perform dateFormatter characters index app effect).screen? 0 = app.screen? 0 := by
  cases effect with
  | present other =>
      by_cases top : index + 1 = app.length
      · rw [perform, Presentation.length_present top,
          Presentation.screen?_present_of_lt top (by omega)]
        exact ⟨by omega, rfl⟩
      · rw [perform, Presentation.present_of_covered top]
        exact ⟨two, rfl⟩
  | dismiss =>
      have third : 2 ≤ index := by
        rcases third with ⟨other, same⟩ | third
        · cases same
        · exact third
      have taken : ∃ count, 2 ≤ count ∧ app.dismiss index = app.take count := by
        unfold Presentation.dismiss
        split
        case isTrue => exact ⟨index + 1, by omega, rfl⟩
        case isFalse =>
          rw [if_neg (by omega)]
          exact ⟨index, third, rfl⟩
      obtain ⟨count, some_left, same⟩ := taken
      rw [perform, same, List.length_take, Presentation.screen?, List.getElem?_take,
        if_pos (by omega)]
      exact ⟨by omega, rfl⟩
  | tell event =>
      have third : 2 ≤ index := by
        rcases third with ⟨other, same⟩ | third
        · cases same
        · exact third
      obtain ⟨below, rfl⟩ := Nat.exists_eq_succ_of_ne_zero above.ne'
      rw [perform, length_tell, screen?_tell_of_ne app (by omega)]
      exact ⟨two, rfl⟩

theorem performs_two {effects : List (Screen.Effect Date)} (two : 2 ≤ app.length)
    (above : 0 < index)
    (third : (∀ effect ∈ effects, ∃ other, effect = .present other) ∨ 2 ≤ index) :
    2 ≤ (effects.foldl (perform dateFormatter characters index) app).length ∧
      Presentation.screen? (effects.foldl (perform dateFormatter characters index) app) 0 =
        app.screen? 0 := by
  induction effects generalizing app with
  | nil => exact ⟨two, rfl⟩
  | cons effect effects ih =>
      have first := @perform_two _ _ dateFormatter characters _ _ two above effect
        (third.imp_left fun presents => presents effect List.mem_cons_self)
      have rest := ih first.1
        (third.imp_left fun presents other member => presents other (List.mem_cons_of_mem _ member))
      exact ⟨rest.1, rest.2.trans first.2⟩

theorem WellFormed.exists_whoThis (wellFormed : app.WellFormed dateFormatter characters)
    (two : 2 ≤ app.length) : ∃ choice, app.screen? 1 = some (.whoThis choice) := by
  obtain ⟨second, found⟩ := Presentation.exists_screen? two
  obtain ⟨root, first, stops, rfl⟩ := wellFormed.root
  have presents := wellFormed.presents first found
  cases second with
  | whoThis choice => exact ⟨choice, found⟩
  | _ => exact absurd presents id

/-- An event of the image on the launch screen. -/
def Event.IsLaunch : Event Date → Prop
  | .screen _ .gifDidStop => True
  | _ => False

instance (event : Event Date) : Decidable event.IsLaunch := by
  unfold Event.IsLaunch
  split <;> infer_instance

theorem WellFormed.three_le_of_hasWayBack (wellFormed : app.WellFormed dateFormatter characters)
    (back : (app.screen? (app.length - 1)).any Screen.hasWayBack = true) : 3 ≤ app.length := by
  obtain ⟨root, first, stops, rfl⟩ := wellFormed.root
  have positive := Presentation.lt_length_of_screen? first
  by_contra few
  by_cases one : app.length = 1
  · rw [one, first] at back
    cases back
  · have two : app.length = 2 := by omega
    obtain ⟨choice, second⟩ := wellFormed.exists_whoThis two.ge
    rw [two, second] at back
    cases back

theorem WellFormed.three_le_of_actionSheet (wellFormed : app.WellFormed dateFormatter characters)
    {sheet : Nat} (found : app.screen? (app.length - 1) = some (.actionSheet sheet)) :
    3 ≤ app.length := by
  obtain ⟨root, first, stops, rfl⟩ := wellFormed.root
  have positive := Presentation.lt_length_of_screen? first
  by_contra few
  by_cases one : app.length = 1
  · rw [one, first] at found
    cases found
  · have two : app.length = 2 := by omega
    obtain ⟨choice, second⟩ := wellFormed.exists_whoThis two.ge
    rw [two, second] at found
    cases found

/-- Nothing moves the launch screen but its image, and nothing takes down the second screen. -/
theorem WellFormed.next_two {event : Event Date}
    (wellFormed : app.WellFormed dateFormatter characters) (other : ¬ event.IsLaunch)
    (step : (machine dateFormatter characters).next app event = some after) :
    2 ≤ app.length ∧ 2 ≤ after.length ∧ after.screen? 0 = app.screen? 0 := by
  obtain ⟨root, first, stops, rfl⟩ := wellFormed.root
  cases event with
  | screen index event =>
      have moves : app.move dateFormatter characters index event = some after := by
        simp only [machine] at step
        split at step
        · exact (Option.ite_none_right_eq_some.mp step).2
        · exact step
        · cases step
      obtain ⟨screen, found, moves⟩ := Option.bind_eq_some_iff.mp moves
      obtain ⟨moved, stepped, rfl⟩ := Option.map_eq_some_iff.mp moves
      have bound := Presentation.lt_length_of_screen? found
      have above : 0 < index := by
        refine Nat.pos_of_ne_zero fun zero => other ?_
        subst zero
        cases first.symm.trans found
        cases Screen.next_step stepped with
        | launch => exact True.intro
      have two : 2 ≤ app.length := by omega
      have third : (∀ effect ∈ Screen.effects screen moved, ∃ other, effect = .present other) ∨
          2 ≤ index := by
        by_cases second : index = 1
        · subst second
          obtain ⟨choice, found'⟩ := wellFormed.exists_whoThis two
          cases found.symm.trans found'
          refine .inl fun effect member => ?_
          cases Screen.next_step stepped with
          | whoThis =>
              obtain ⟨who, -, rfl⟩ := List.mem_map.mp member
              exact ⟨_, rfl⟩
        · exact .inr (by omega)
      have kept := @performs_two _ _ dateFormatter characters (Presentation.move app index moved)
        index _ (two.trans_eq (Presentation.length_move app index moved).symm) above third
      rw [Presentation.screen?_move_of_ne above.ne] at kept
      exact ⟨two, kept⟩
  | wentBack =>
      obtain ⟨back, step⟩ := Option.ite_none_right_eq_some.mp step
      cases step
      have three := wellFormed.three_le_of_hasWayBack back
      rw [Presentation.dismiss_top (by omega) (by omega), List.length_take, Presentation.screen?,
        List.getElem?_take, if_pos (by omega)]
      exact ⟨by omega, by omega, rfl⟩
  | sheetTapped choice =>
      simp only [machine] at step
      split at step
      case h_1 sheet found =>
        cases step
        have three := wellFormed.three_le_of_actionSheet found
        rw [length_tell, screen?_tell_of_ne _ (by omega),
          Presentation.dismiss_top (by omega) (by omega), List.length_take, Presentation.screen?,
          List.getElem?_take, if_pos (by omega)]
        exact ⟨by omega, by omega, rfl⟩
      case h_2 => cases step

theorem WellFormed.gifDidStop (wellFormed : app.WellFormed dateFormatter characters) {stops : Nat}
    (found : app.screen? 0 = some (.launch stops)) :
    ∃ after, app.move dateFormatter characters 0 .gifDidStop = some after ∧
      after.WellFormed dateFormatter characters ∧ 2 ≤ after.length ∧
      after.screen? 0 = some (.launch (stops + 1)) := by
  have bound := Presentation.lt_length_of_screen? found
  have moves : app.move dateFormatter characters 0 .gifDidStop =
      some ((Presentation.move app 0 (.launch (stops + 1))).present 0 (.whoThis .loaded)) := by
    rw [App.move, found, Option.bind_some]
    simp only [Screen.machine, Option.map_some, Screen.effects, Nat.add_sub_cancel_left,
      List.replicate_one, List.foldl_cons, List.foldl_nil]
    rfl
  refine ⟨_, moves, wellFormed.screenMoves moves, ?_⟩
  have moved := @Presentation.screen?_move_self _ app 0 (.launch (stops + 1)) bound
  by_cases top : 0 + 1 = (Presentation.move app 0 (.launch (stops + 1))).length
  · rw [Presentation.length_present top, Presentation.screen?_present_of_lt top (by omega), moved]
    exact ⟨by omega, rfl⟩
  · rw [Presentation.present_of_covered top, moved]
    rw [Presentation.length_move] at top ⊢
    exact ⟨by omega, rfl⟩

end App

/-! ## The launch screen -/

/-- The application, and the manager of the one image view with a GIF. -/
structure Launch (Date Picture : Type) where
  app : App Date
  manager : SwiftyGifManager Unit Picture

namespace Launch

variable {Date Picture : Type}

/-- An event of the application but its image, of the timer, or of UIKit for the image view. -/
inductive Event (Date : Type)
  | app (event : App.Event Date)
  | viewDidAppear
  | updateImageView
  | moved (isDisplayedInScreen isDiscarded : Bool)
  | evicted (kept : Nat → Bool)

/-- What an event is for the manager. -/
def Event.gif? : Event Date → Option (SwiftyGifManager.Event Unit Picture)
  | .app _ => none
  | .viewDidAppear => some (.startAnimatingGif ())
  | .updateImageView => some .updateImageView
  | .moved isDisplayedInScreen isDiscarded => some (.moved () isDisplayedInScreen isDiscarded)
  | .evicted kept => some (.evicted () kept)

/-- `LaunchScreenView`: the GIF is set once, to be shown once. -/
def launched (gif : GifImage Picture) : Launch Date Picture where
  app := App.launched
  manager := (SwiftyGifManager.initial 50).setGifImage () gif 1

section Machine

variable [DecidableEq Date] (dateFormatter : Date → String) (characters : CharacterCount)

/-- The launch screen has one of the methods of its image view's delegate. -/
def hear (app : App Date) : DelegateCall → App Date
  | .gifDidStop => (app.move dateFormatter characters 0 .gifDidStop).getD app
  | .gifDidStart | .gifDidLoop => app

/-- The image view changes, and its delegate is called. -/
def hears (launch : Launch Date Picture) (manager : SwiftyGifManager Unit Picture) :
    Launch Date Picture where
  app := ((manager.views ()).delegateCalls.drop
    (launch.manager.views ()).delegateCalls.length).foldl (hear dateFormatter characters) launch.app
  manager := manager

/-- The transitions of the launched application: its image stops by the timer alone. -/
def machine : Machine (Launch Date Picture) (Event Date) where
  next launch
    | .app event =>
        if event.IsLaunch then
          none
        else
          ((App.machine dateFormatter characters).next launch.app event).map fun app =>
            { launch with app := app }
    | event =>
        event.gif?.bind fun event =>
          (SwiftyGifManager.machine.next launch.manager event).map
            (launch.hears dateFormatter characters)

end Machine

/-! ## The two sides -/

variable [DecidableEq Date] {dateFormatter : Date → String} {characters : CharacterCount}
  {launch after : Launch Date Picture} {event : Event Date} {events : List (Event Date)}

/-- A step is one of the application, or one of the manager of which the application hears. -/
theorem next_cases (step : (machine dateFormatter characters).next launch event = some after) :
    (∃ appEvent, event = .app appEvent ∧ ¬ appEvent.IsLaunch ∧
      (App.machine dateFormatter characters).next launch.app appEvent = some after.app ∧
      after.manager = launch.manager) ∨
    ∃ gifEvent manager, event.gif? = some gifEvent ∧
      SwiftyGifManager.machine.next launch.manager gifEvent = some manager ∧
      after = launch.hears dateFormatter characters manager := by
  cases event with
  | app appEvent =>
      obtain ⟨other, step⟩ := Option.ite_none_left_eq_some.mp step
      obtain ⟨app, moved, rfl⟩ := Option.map_eq_some_iff.mp step
      exact .inl ⟨appEvent, rfl, other, moved, rfl⟩
  | _ =>
      simp only [machine, Event.gif?, Option.bind_some] at step
      obtain ⟨manager, moved, rfl⟩ := Option.map_eq_some_iff.mp step
      exact .inr ⟨_, manager, rfl, moved, rfl⟩

theorem run_manager
    (execution : (machine dateFormatter characters).run events launch = some after) :
    SwiftyGifManager.machine.run (events.filterMap Event.gif?) launch.manager =
      some after.manager := by
  induction events generalizing launch with
  | nil =>
      cases execution
      rfl
  | cons event events ih =>
      obtain ⟨middle, step, rest⟩ := Machine.run_cons_eq_some _ |>.mp execution
      rcases next_cases step with ⟨appEvent, rfl, -, -, same⟩ |
        ⟨gifEvent, manager, found, moved, rfl⟩
      · rw [List.filterMap_cons_none rfl, ← same]
        exact ih rest
      · rw [List.filterMap_cons_some found]
        exact (Machine.run_cons_eq_some _).mpr ⟨manager, moved, ih rest⟩

/-- How often the image has stopped, as its delegate has heard. -/
def stops (launch : Launch Date Picture) : Nat :=
  (launch.manager.views ()).delegateCalls.count .gifDidStop

variable (dateFormatter characters) in
/-- The application has heard of each stop of the image, and has nothing else up before the first
one. -/
structure Follows (launch : Launch Date Picture) : Prop where
  timed : launch.manager.Timed
  ran : ∃ past, (App.machine dateFormatter characters).run past App.launched = some launch.app
  root : launch.app.screen? 0 = some (.launch launch.stops)
  waits : launch.stops = 0 → launch.app = App.launched
  asks : 0 < launch.stops → 2 ≤ launch.app.length

theorem Follows.wellFormed (follows : launch.Follows dateFormatter characters) :
    launch.app.WellFormed dateFormatter characters := by
  obtain ⟨past, execution⟩ := follows.ran
  exact App.run_wellFormed execution

theorem hear_foldl {app : App Date} {calls : List DelegateCall} {stops : Nat}
    (wellFormed : app.WellFormed dateFormatter characters)
    (root : app.screen? 0 = some (.launch stops)) :
    (∃ heard, (App.machine dateFormatter characters).run heard app =
      some (calls.foldl (hear dateFormatter characters) app)) ∧
    Presentation.screen? (calls.foldl (hear dateFormatter characters) app) 0 =
      some (.launch (stops + calls.count .gifDidStop)) ∧
    (calls.count .gifDidStop = 0 → calls.foldl (hear dateFormatter characters) app = app) ∧
    (0 < calls.count .gifDidStop ∨ 2 ≤ app.length →
      2 ≤ (calls.foldl (hear dateFormatter characters) app).length) := by
  induction calls generalizing app stops with
  | nil => exact ⟨⟨[], rfl⟩, root, fun _ => rfl, fun two => two.resolve_left (lt_irrefl 0)⟩
  | cons call calls ih =>
      cases call with
      | gifDidStop =>
          obtain ⟨middle, moves, wellFormed', two, root'⟩ := wellFormed.gifDidStop root
          obtain ⟨⟨heard, rest⟩, counted, -, stays⟩ := ih wellFormed' root'
          have heardFirst : hear dateFormatter characters app .gifDidStop = middle := by
            rw [hear, moves, Option.getD_some]
          rw [List.foldl_cons, heardFirst, List.count_cons_self]
          refine ⟨⟨.screen 0 .gifDidStop :: heard, ?_⟩, ?_, ?_, fun _ => stays (.inr two)⟩
          · exact (Machine.run_cons_eq_some _).mpr ⟨middle, moves, rest⟩
          · rw [counted]
            congr 2
            omega
          · exact fun none_left => absurd none_left (Nat.succ_ne_zero _)
      | gifDidStart => exact ih wellFormed root
      | gifDidLoop => exact ih wellFormed root

omit [DecidableEq Date] in
theorem prefix_delegateCalls {gifEvent : SwiftyGifManager.Event Unit Picture}
    {manager : SwiftyGifManager Unit Picture} (timed : launch.manager.Timed)
    (found : event.gif? = some gifEvent)
    (step : SwiftyGifManager.machine.next launch.manager gifEvent = some manager) :
    (launch.manager.views ()).delegateCalls <+: (manager.views ()).delegateCalls := by
  cases event with
  | app appEvent => cases found
  | viewDidAppear =>
      cases found
      cases step
      exact List.prefix_append _ _
  | updateImageView =>
      cases found
      obtain ⟨-, same⟩ := Option.ite_none_right_eq_some.mp step
      cases same
      exact timed.prefix_updateImageView ()
  | moved isDisplayedInScreen isDiscarded =>
      cases found
      cases step
      exact List.prefix_rfl
  | evicted kept =>
      cases found
      cases step
      exact List.prefix_rfl

theorem Follows.next (follows : launch.Follows dateFormatter characters)
    (step : (machine dateFormatter characters).next launch event = some after) :
    after.Follows dateFormatter characters := by
  obtain ⟨past, execution⟩ := follows.ran
  rcases next_cases step with ⟨appEvent, rfl, other, moves, same⟩ |
    ⟨gifEvent, manager, found, moves, rfl⟩
  · obtain ⟨two, stays, root⟩ := follows.wellFormed.next_two other moves
    have stops : after.stops = launch.stops := by rw [Launch.stops, same, Launch.stops]
    have heard : 0 < launch.stops := by
      refine Nat.pos_of_ne_zero fun quiet => ?_
      rw [follows.waits quiet] at two
      exact absurd two (show ¬ 2 ≤ 1 by decide)
    refine ⟨same ▸ follows.timed, ⟨past ++ [appEvent], ?_⟩, ?_, ?_, fun _ => stays⟩
    · rw [Machine.run_append, execution]
      exact (Machine.run_cons_eq_some _).mpr ⟨_, moves, rfl⟩
    · rw [root, follows.root, stops]
    · intro quiet
      omega
  · obtain ⟨new, called⟩ := prefix_delegateCalls follows.timed found moves
    have stops : (launch.hears dateFormatter characters manager).stops =
        launch.stops + new.count .gifDidStop := by
      rw [Launch.stops, hears, ← called, List.count_append, Launch.stops]
    have app : (launch.hears dateFormatter characters manager).app =
        new.foldl (hear dateFormatter characters) launch.app := by
      rw [hears, ← called, List.drop_left]
    obtain ⟨⟨heard, ran⟩, root, quiet, two⟩ :=
      @hear_foldl _ _ dateFormatter characters _ new _ follows.wellFormed follows.root
    rw [← app] at ran root quiet two
    refine ⟨follows.timed.next moves, ⟨past ++ heard, ?_⟩, ?_, ?_, ?_⟩
    · rw [Machine.run_append, execution]
      exact ran
    · rw [root, stops]
    · intro none_heard
      rw [stops] at none_heard
      rw [quiet (by omega), follows.waits (by omega)]
    · intro some_heard
      rw [stops] at some_heard
      by_cases fresh : 0 < new.count .gifDidStop
      · exact two (.inl fresh)
      · exact two (.inr (follows.asks (by omega)))

theorem follows_launched {gif : GifImage Picture} (playable : gif.IsPlayable) :
    (launched gif : Launch Date Picture).Follows dateFormatter characters := by
  have timed : (SwiftyGifManager.initial 50 : SwiftyGifManager Unit Picture).Timed := .initial 50
  have begun := SwiftyGifManager.played_setGifImage playable Nat.one_pos
    (SwiftyGifManager.initial 50 : SwiftyGifManager Unit Picture) ()
  have quiet : (launched gif : Launch Date Picture).stops = 0 := by
    refine begun.gifDidStop.trans ?_
    rw [GifImage.loopsOver, GifImage.imagesShown, Nat.zero_div, Nat.zero_div]
    rfl
  refine ⟨timed.setGifImage () gif 1, ⟨[], rfl⟩, ?_, fun _ => rfl, fun heard => by omega⟩
  rw [quiet]
  rfl

/-! ## The launch -/

/-- What a launched application is like after some updates of its image: until the last one it is as
it was, and from then on the screen that asks who is using it is up, and was asked for once. -/
structure Launches (gif : GifImage Picture) (updates : Nat) (launch : Launch Date Picture) :
    Prop where
  within : updates ≤ gif.length 1
  waits : updates < gif.length 1 → launch.app = App.launched
  asks : updates = gif.length 1 → launch.app.screen? 0 = some (.launch 1) ∧
    ∃ choice, launch.app.screen? 1 = some (.whoThis choice)

/-- The updates of the image in a run of the launched application. -/
def updates (gif : GifImage Picture) (events : List (Event Date)) : Nat :=
  SwiftyGifManager.updatesOf () (events.filterMap Event.gif?)
    ((SwiftyGifManager.initial 50).setGifImage () gif 1)

/-- A run of the launched application is one of the manager after the GIF was set, which nothing
sets again or stops. -/
theorem run_gif {gif : GifImage Picture}
    (execution : (machine dateFormatter characters).run events (launched gif) = some launch) :
    SwiftyGifManager.machine.run (.setGifImage () gif 1 :: events.filterMap Event.gif?)
        (SwiftyGifManager.initial 50) = some launch.manager ∧
      ∀ gifEvent : SwiftyGifManager.Event Unit Picture,
        gifEvent ∈ events.filterMap Event.gif? →
          ¬ gifEvent.Sets () ∧ gifEvent.stops () = false := by
  refine ⟨(Machine.run_cons_eq_some _).mpr ⟨_, rfl, run_manager execution⟩, ?_⟩
  intro gifEvent member
  obtain ⟨event, -, found⟩ := List.mem_filterMap.mp member
  cases event <;> cases found <;> exact ⟨id, rfl⟩

theorem countP_stops {gifEvents : List (SwiftyGifManager.Event Unit Picture)}
    (others_set : ∀ gifEvent ∈ gifEvents, ¬ gifEvent.Sets () ∧ gifEvent.stops () = false) :
    gifEvents.countP (SwiftyGifManager.Event.stops ()) = 0 :=
  List.countP_eq_zero.mpr fun gifEvent member =>
    Bool.eq_false_iff.mp (others_set gifEvent member).2

/-- The image has stopped once when all its updates are done, and not before. -/
theorem stops_eq {gif : GifImage Picture} (playable : gif.IsPlayable)
    (execution : (machine dateFormatter characters).run events (launched gif) = some launch) :
    updates gif events ≤ gif.length 1 ∧
      launch.stops = if updates gif events = gif.length 1 then 1 else 0 := by
  obtain ⟨begun, others_set⟩ := run_gif execution
  have played := @SwiftyGifManager.run_played _ _ _ _ _ () gif 1 50 [] _ rfl playable Nat.one_pos
    (fun gifEvent member => (others_set gifEvent member).1) begun
  refine ⟨played.within, ?_⟩
  have stopped := played.gifDidStop
  rw [countP_stops others_set, playable.loopsOver_sub Nat.one_pos played.within] at stopped
  exact stopped.trans (Nat.zero_add _)

/-- In every run of the launched application, however often its launch screen appears and its image
comes and goes on the screen: it runs as the application does, and nothing but the launch screen is
up until the image was updated to its end; then the screen that asks who is using it was asked for
once. -/
theorem run_launches {gif : GifImage Picture} (playable : gif.IsPlayable)
    (execution : (machine dateFormatter characters).run events (launched gif) = some launch) :
    (∃ past, (App.machine dateFormatter characters).run past App.launched = some launch.app) ∧
      Launches gif (updates gif events) launch := by
  have follows : launch.Follows dateFormatter characters :=
    Machine.run_invariant (Follows dateFormatter characters) Follows.next
      (follows_launched playable) execution
  obtain ⟨within, stops⟩ := stops_eq playable execution
  refine ⟨follows.ran, within, ?_, ?_⟩
  · intro lt
    rw [if_neg lt.ne] at stops
    exact follows.waits stops
  · intro all
    rw [if_pos all] at stops
    exact ⟨stops ▸ follows.root,
      follows.wellFormed.exists_whoThis (follows.asks (stops ▸ Nat.one_pos))⟩

theorem run_replicate {manager : SwiftyGifManager Unit Picture} {refreshes : Nat}
    (execution : SwiftyGifManager.machine.run (List.replicate refreshes .updateImageView)
      launch.manager = some manager) :
    ∃ final, (machine dateFormatter characters).run (List.replicate refreshes .updateImageView)
      launch = some final ∧ final.manager = manager := by
  induction refreshes generalizing launch with
  | zero =>
      cases execution
      exact ⟨launch, rfl, rfl⟩
  | succ refreshes ih =>
      obtain ⟨middle, step, rest⟩ := Machine.run_cons_eq_some _ |>.mp execution
      obtain ⟨final, ran, same⟩ := @ih (launch.hears dateFormatter characters middle) rest
      refine ⟨final, (Machine.run_cons_eq_some _).mpr ⟨_, ?_, ran⟩, same⟩
      exact congrArg (Option.map (launch.hears dateFormatter characters)) step

/-- Wherever a run has taken the launch screen with its image playing on it: as many refreshes of
the display as the image has updates to go, and one, bring up the screen that asks who is using the
application. -/
theorem run_exists_whoThis {gif : GifImage Picture} (playable : gif.IsPlayable)
    (execution : (machine dateFormatter characters).run events (launched gif) = some launch)
    (plays : launch.manager.Plays ()) :
    ∃ refreshes final, (machine dateFormatter characters).run
        (List.replicate refreshes .updateImageView) launch = some final ∧
      refreshes + updates gif events = gif.length 1 + 1 ∧
      final.app.screen? 0 = some (.launch 1) ∧
      ∃ choice, final.app.screen? 1 = some (.whoThis choice) := by
  obtain ⟨begun, others_set⟩ := run_gif execution
  obtain ⟨refreshes, manager, rest, count, -, stopped⟩ :=
    @SwiftyGifManager.run_exists_end _ _ _ _ _ () gif 1 50 [] _ rfl playable Nat.one_pos
      (fun gifEvent member => (others_set gifEvent member).1) begun plays
  obtain ⟨final, ran, rfl⟩ := @run_replicate _ _ _ dateFormatter characters launch _ _ rest
  refine ⟨refreshes, final, ran, count, ?_⟩
  have whole : (machine dateFormatter characters).run
      (events ++ List.replicate refreshes .updateImageView) (launched gif) = some final := by
    rw [Machine.run_append, execution]
    exact ran
  have stops : final.stops = 1 := by
    rw [countP_stops others_set] at stopped
    exact stopped
  obtain ⟨-, launches⟩ := run_launches playable whole
  refine launches.asks ?_
  obtain ⟨-, counted⟩ := stops_eq playable whole
  by_contra early
  rw [if_neg early, stops] at counted
  cases counted

/-- The launch screen appears and its image comes onto the screen and is updated. -/
def appeared : List (Event Unit) :=
  [.moved true false, .viewDidAppear, .updateImageView]

theorem appeared_launches :
    ∃ launch, (machine OurCalendarViewController.picnicDay unitCharacters).run appeared
        (launched SwiftyGifManager.threeSeconds) = some launch ∧
      Launches SwiftyGifManager.threeSeconds 1 launch := by
  have runs : ∃ launch, (machine OurCalendarViewController.picnicDay unitCharacters).run
      appeared (launched SwiftyGifManager.threeSeconds) = some launch := ⟨_, rfl⟩
  obtain ⟨launch, execution⟩ := runs
  exact ⟨launch, execution, (run_launches SwiftyGifManager.threeSeconds_playable execution).2⟩

theorem appeared_exists_whoThis :
    ∃ launch refreshes final choice,
      (machine OurCalendarViewController.picnicDay unitCharacters).run appeared
        (launched SwiftyGifManager.threeSeconds) = some launch ∧
      (machine OurCalendarViewController.picnicDay unitCharacters).run
        (List.replicate refreshes .updateImageView) launch = some final ∧
      refreshes = 180 ∧ final.app.screen? 1 = some (.whoThis choice) := by
  have runs : ∃ launch, (machine OurCalendarViewController.picnicDay unitCharacters).run
      appeared (launched SwiftyGifManager.threeSeconds) = some launch ∧
        launch.manager.Plays () := ⟨_, rfl, by decide, rfl, rfl, rfl⟩
  obtain ⟨launch, execution, plays⟩ := runs
  obtain ⟨refreshes, final, ran, count, -, choice, shown⟩ :=
    run_exists_whoThis SwiftyGifManager.threeSeconds_playable execution plays
  refine ⟨launch, refreshes, final, choice, execution, ran, ?_, shown⟩
  change refreshes + 1 = 181 at count
  omega

end Launch

end Celeste
