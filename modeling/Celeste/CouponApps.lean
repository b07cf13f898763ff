import Celeste.CouponsScreen

/-!
# Coupons on several devices

App instances signed in as one user, next to the user's coupons.  An instance checks the coupon it
shows, then updates the field unconditionally, so the check and the update of two taps can overlap.
The update is idempotent: at most one of a coupon's redeems changes it.  At most one completes with
`true` where every tap is made, with no spinner up or still to be put up, on a copy that is still
current.
-/

namespace Celeste

/-- The coupons, the screens of the instances, and the redeems that completed, oldest first.  A
write is known by its instance and the number of its call there. -/
structure CouponApps (App : Type) where
  database : CouponDatabase (App × Nat)
  screens : App → CouponsViewController
  completed : List (CouponAnswer (App × Nat))

namespace CouponApps

variable {App : Type}

/-- An event of one screen, or the application of one update. -/
inductive Event (App : Type)
  | screen (app : App) (event : CouponsViewController.Event)
  | applyWrite (index : Nat)

/-- Every instance has just loaded its screen. -/
def opened (who : Who) (start : Store) : CouponApps App where
  database := .initial start
  screens := fun _ => .loaded who
  completed := []

/-- Issue the update of a redeem a screen asked for. -/
def redeeming (apps : CouponApps App) (app : App) (redemption : Option (Who × Coupon)) :
    CouponDatabase (App × Nat) :=
  match redemption with
  | some (who, coupon) =>
      apps.database.issue (app, (apps.screens app).requests.calls.length)
        (CouponServices.redeemCoupon who coupon)
  | none => apps.database

/-- The redeem a step of a screen asked for. -/
def newRedemption (before after : CouponsViewController) : Option (Who × Coupon) :=
  (after.redemptions.drop before.redemptions.length).head?

section Machine

variable [DecidableEq App]

/-- One screen moves. -/
def showing (apps : CouponApps App) (app : App) (screen : CouponsViewController) :
    CouponApps App :=
  { apps with screens := Function.update apps.screens app screen }

/-- The transitions of the instances and of their coupons; a redeem completes with what Firestore
answered. -/
def machine : Machine (CouponApps App) (Event App) where
  next apps
    | .screen app event =>
        (CouponsViewController.machine.next (apps.screens app) event).bind fun screen =>
          match event with
          | .redeemTapped _ =>
              some
                { apps.showing app screen with
                  database := apps.redeeming app (newRedemption (apps.screens app) screen) }
          | .redeemCouponCompleted number success =>
              (apps.database.answers.find? fun answer => answer.caller = (app, number)).bind
                fun answer =>
                  if answer.success = success then
                    some { apps.showing app screen with completed := apps.completed ++ [answer] }
                  else
                    none
          | _ => some (apps.showing app screen)
    | .applyWrite index =>
        (apps.database.pending[index]?).map fun call =>
          { apps with database := (apps.database.settle index).perform call }

/-! ## What an event changes -/

variable {apps after : CouponApps App} {event : Event App}

/-- Everything an event can do to the instances and their coupons. -/
inductive Change (apps : CouponApps App) : Event App → CouponApps App → Prop
  /-- A screen moves without redeeming. -/
  | shown {app : App} {event : CouponsViewController.Event} {screen : CouponsViewController}
      (moved : CouponsViewController.Change (apps.screens app) event screen)
      (fetches : ∀ number, event.reply = some number → ∀ serviceCall,
        (apps.screens app).requests.calls[number]? = some serviceCall →
          serviceCall.redemption = none) :
      Change apps (.screen app event) (apps.showing app screen)
  /-- A redeem completes as Firestore answered it. -/
  | completed {app : App} {number : Nat} {screen : CouponsViewController}
      {answer : CouponAnswer (App × Nat)}
      (moved : CouponsViewController.Change (apps.screens app)
        (.redeemCouponCompleted number answer.success) screen)
      (answered : answer ∈ apps.database.answers) (caller : answer.caller = (app, number)) :
      Change apps (.screen app (.redeemCouponCompleted number answer.success))
        { apps.showing app screen with completed := apps.completed ++ [answer] }
  /-- A tap issues the update for the coupon of its cell. -/
  | tapped {app : App} {cell : Nat} {item : CouponsViewController.Item}
      (found : (apps.screens app).items[cell]? = some item)
      (enabled : item.cell.redeemEnabled = true) :
      Change apps (.screen app (.redeemTapped cell))
        { apps.showing app
            ((apps.screens app).redeemCoupon (apps.screens app).who item.coupon) with
          database := apps.redeeming app (some ((apps.screens app).who, item.coupon)) }
  | performed {index : Nat} {call : CouponCall (App × Nat)}
      (found : apps.database.pending[index]? = some call) :
      Change apps (.applyWrite index)
        { apps with database := (apps.database.settle index).perform call }

theorem newRedemption_redeemCoupon (screen : CouponsViewController) (who : Who) (coupon : Coupon) :
    newRedemption screen (screen.redeemCoupon who coupon) = some (who, coupon) := by
  rw [newRedemption, CouponsViewController.redemptions_redeemCoupon, List.drop_left]
  rfl

theorem next_change (items : ∀ app, (apps.screens app).ItemsHold)
    (step : machine.next apps event = some after) : Change apps event after := by
  cases event with
  | screen app event =>
      obtain ⟨screen, moved, step⟩ := Option.bind_eq_some_iff.mp step
      have change := CouponsViewController.next_change moved
      cases event with
      | redeemTapped cell =>
          cases step
          cases change with
          | quiet who coupons items redemptions requests fetches covered spinners untapped =>
              exact absurd rfl (untapped cell)
          | tapped found enabled =>
              rw [CouponsViewController.redeemTapped_of_itemsHold (items app) found,
                newRedemption_redeemCoupon]
              exact .tapped found enabled
      | redeemCouponCompleted number success =>
          obtain ⟨answer, found, step⟩ := Option.bind_eq_some_iff.mp step
          split at step
          · next success_eq =>
              cases step
              subst success_eq
              have caller := List.find?_some found
              exact .completed change (List.mem_of_find?_eq_some found) (of_decide_eq_true caller)
          · cases step
      | getCouponsCompleted number result =>
          cases step
          refine .shown change ?_
          intro answered replied serviceCall found
          cases replied
          exact CouponsViewController.redemption_of_fetch moved found
      | spinnerAdded number =>
          cases step
          exact .shown change (by simp [CouponsViewController.Event.reply])
      | spinnerElapsed number =>
          cases step
          exact .shown change (by simp [CouponsViewController.Event.reply])
      | giftButtonTapped =>
          cases step
          exact .shown change (by simp [CouponsViewController.Event.reply])
      | successfullyGifted =>
          cases step
          exact .shown change (by simp [CouponsViewController.Event.reply])
      | cellForItemAt index cell =>
          cases step
          exact .shown change (by simp [CouponsViewController.Event.reply])
  | applyWrite index =>
      obtain ⟨call, found, rfl⟩ := Option.map_eq_some_iff.mp step
      exact .performed found

end Machine

variable {apps after : CouponApps App} {event : Event App} {who : Who}

/-! ## Calls and their answers -/

/-- The calls whose updates are in flight or answered. -/
def callers (database : CouponDatabase (App × Nat)) : List (App × Nat) :=
  database.pending.map (fun call => call.caller) ++
    database.answers.map fun answer => answer.caller

/-- A call of an instance that redeems and waits for its completion. -/
def Waits (screens : App → CouponsViewController) (caller : App × Nat) : Prop :=
  caller.2 ∈ (screens caller.1).requests.unanswered ∧
    ∃ serviceCall, (screens caller.1).requests.calls[caller.2]? = some serviceCall ∧
      serviceCall.redemption ≠ none

/-- A call of an instance that has been answered. -/
def Closed (screens : App → CouponsViewController) (caller : App × Nat) : Prop :=
  caller.2 < (screens caller.1).requests.calls.length ∧
    caller.2 ∉ (screens caller.1).requests.unanswered

/-- The document an update names. -/
def Named (who : Who) (write : CouponWrite) : Prop :=
  write.request = .redeemCoupon ∧ write.who = who ∧
    (couponCollection who).document write.coupon.id = some write.key

/-- What holds of the instances and their coupons in every run. -/
structure Consistent (who : Who) (apps : CouponApps App) : Prop where
  screens : ∀ app, (apps.screens app).Consistent who
  spinning : ∀ app, (apps.screens app).Spinning
  waiting : ∀ call ∈ apps.database.pending, Waits apps.screens call.caller
  bounded : ∀ caller ∈ callers apps.database,
    caller.2 < (apps.screens caller.1).requests.calls.length
  callers_nodup : (callers apps.database).Nodup
  pending_named : ∀ call ∈ apps.database.pending, Named who call.write
  answers_named : ∀ answer ∈ apps.database.answers, Named who answer.write
  closed : ∀ answer ∈ apps.completed, Closed apps.screens answer.caller
  answered : ∀ answer ∈ apps.completed, answer ∈ apps.database.answers
  completed_nodup : (apps.completed.map fun answer => answer.caller).Nodup
  /-- An update that succeeded left the field set. -/
  marked : ∀ answer ∈ apps.database.answers, answer.success = true →
    ∀ data, apps.database.store.lookup answer.write.key = some data →
      data.lookup "redeemed" = some (.boolean true)

theorem Consistent.opened (who : Who) (start : Store) :
    Consistent who (opened who start : CouponApps App) where
  screens _ := .loaded who
  spinning _ := .loaded who
  waiting := by simp [CouponApps.opened, CouponDatabase.initial]
  bounded := by simp [CouponApps.opened, CouponDatabase.initial, callers]
  callers_nodup := by simp [CouponApps.opened, CouponDatabase.initial, callers]
  pending_named := by simp [CouponApps.opened, CouponDatabase.initial]
  answers_named := by simp [CouponApps.opened, CouponDatabase.initial]
  closed := by simp [CouponApps.opened]
  answered := by simp [CouponApps.opened]
  completed_nodup := by simp [CouponApps.opened]
  marked := by simp [CouponApps.opened, CouponDatabase.initial]

theorem Consistent.requests (consistent : Consistent who apps)
    (moved : CouponsViewController.Change (apps.screens app) screenEvent screen) :
    (apps.screens app).requests.Numbered ∧
      (apps.screens app).requests.Step screenEvent.reply screen.requests :=
  ⟨(consistent.spinning app).numbered, moved.requests⟩

theorem Consistent.caller_new (consistent : Consistent who apps) (app : App) :
    (app, (apps.screens app).requests.calls.length) ∉ callers apps.database := by
  intro member
  exact Nat.lt_irrefl _ (consistent.bounded _ member)

theorem Consistent.issue (consistent : Consistent who apps) {caller : App × Nat}
    {write : CouponWrite} (waits : Waits apps.screens caller)
    (bound : caller.2 < (apps.screens caller.1).requests.calls.length)
    (new : caller ∉ callers apps.database) (named : Named who write) :
    Consistent who { apps with database := apps.database.issue caller (some write) } := by
  have order : (callers (apps.database.issue caller (some write))).Perm
      (caller :: callers apps.database) := by
    simp [callers, CouponDatabase.issue]
  exact
    { consistent with
      waiting := by
        intro call member
        rcases List.mem_append.mp member with member | member
        · exact consistent.waiting call member
        · rw [Option.toList_some, List.map_singleton, List.mem_singleton] at member
          rw [member]
          exact waits
      bounded := by
        intro other member
        rcases List.mem_cons.mp (order.mem_iff.mp member) with rfl | member
        · exact bound
        · exact consistent.bounded other member
      callers_nodup := by
        rw [order.nodup_iff]
        exact List.nodup_cons.mpr ⟨new, consistent.callers_nodup⟩
      pending_named := by
        intro call member
        rcases List.mem_append.mp member with member | member
        · exact consistent.pending_named call member
        · rw [Option.toList_some, List.map_singleton, List.mem_singleton] at member
          rw [member]
          exact named }

/-- A write in flight is applied or fails on a missing document, and is answered. -/
theorem perform_cases (database : CouponDatabase (App × Nat)) (call : CouponCall (App × Nat)) :
    ∃ store error,
      database.perform call = { database.answer call error with store := store } ∧
        ((call.write.perform database.store = none ∧ store = database.store ∧
            error = some .notFound) ∨
          (call.write.perform database.store = some store ∧ error = none)) := by
  cases performed : call.write.perform database.store with
  | none =>
      exact ⟨_, _, CouponDatabase.perform_of_none performed, .inl ⟨rfl, rfl, rfl⟩⟩
  | some store =>
      exact ⟨store, none, CouponDatabase.perform_of_some performed, .inr ⟨rfl, rfl⟩⟩

/-- A redeem leaves the field set where it was, and sets it where it writes. -/
theorem marked_perform {call : CouponCall (App × Nat)} {store after : Store}
    (redeem : call.write.request = .redeemCoupon)
    (performed : call.write.perform store = some after) {key : DocumentKey}
    (marked : key = call.write.key ∨ ∀ data, store.lookup key = some data →
      data.lookup "redeemed" = some (.boolean true)) :
    ∀ data, after.lookup key = some data → data.lookup "redeemed" = some (.boolean true) := by
  intro data found
  by_cases own : key = call.write.key
  · obtain ⟨before, _, written⟩ := CouponWrite.lookup_perform_redeem redeem performed
    rw [own, written, Option.some.injEq] at found
    rw [← found]
    exact AList.lookup_insert before
  · rw [CouponWrite.lookup_perform_ne performed own] at found
    exact (marked.resolve_left own) data found

theorem Consistent.performed (consistent : Consistent who apps) {index : Nat}
    {call : CouponCall (App × Nat)} (found : apps.database.pending[index]? = some call) :
    Consistent who { apps with database := (apps.database.settle index).perform call } := by
  have member := List.mem_of_getElem? found
  have named := consistent.pending_named call member
  obtain ⟨store, error, after, outcome⟩ := perform_cases (apps.database.settle index) call
  have order : (callers ((apps.database.settle index).perform call)).Perm
      (callers apps.database) := by
    have moved := ((CouponDatabase.pending_settle found).map fun call => call.caller).append_right
      (apps.database.answers.map fun answer => answer.caller)
    refine List.Perm.trans ?_ moved.symm
    rw [after]
    simp [callers, CouponDatabase.answer, CouponDatabase.settle, ← List.append_assoc]
  have waiting : ∀ other ∈ ((apps.database.settle index).perform call).pending,
      other ∈ apps.database.pending := by
    intro other other_member
    rw [after] at other_member
    exact List.mem_of_mem_eraseIdx other_member
  have answers : ((apps.database.settle index).perform call).answers =
      apps.database.answers ++ [{ toCouponCall := call, error }] := by
    rw [after]
    rfl
  exact
    { consistent with
      waiting := fun other other_member => consistent.waiting other (waiting other other_member)
      bounded := fun caller caller_member =>
        consistent.bounded caller (order.mem_iff.mp caller_member)
      callers_nodup := order.nodup_iff.mpr consistent.callers_nodup
      pending_named := fun other other_member =>
        consistent.pending_named other (waiting other other_member)
      answers_named := by
        intro answer answer_member
        rw [answers] at answer_member
        rcases List.mem_append.mp answer_member with earlier | new
        · exact consistent.answers_named answer earlier
        · rw [List.mem_singleton.mp new]
          exact named
      answered := by
        intro answer answer_member
        rw [answers]
        exact List.mem_append_left _ (consistent.answered answer answer_member)
      marked := by
        intro answer answer_member success data stored
        rw [answers] at answer_member
        rw [after] at stored
        rcases outcome with ⟨_, rfl, rfl⟩ | ⟨performed, rfl⟩
        · rcases List.mem_append.mp answer_member with earlier | new
          · exact consistent.marked answer earlier success data stored
          · rw [List.mem_singleton.mp new] at success
            cases success
        · refine marked_perform named.1 performed ?_ data stored
          rcases List.mem_append.mp answer_member with earlier | new
          · exact .inr (consistent.marked answer earlier success)
          · rw [List.mem_singleton.mp new]
            exact .inl rfl }

/-! ## What every event keeps -/

section Runs

variable [DecidableEq App] {app : App} {screen : CouponsViewController}
  {screenEvent : CouponsViewController.Event}

theorem showing_screens_ne {other : App} (differs : other ≠ app) :
    (apps.showing app screen).screens other = apps.screens other := by
  simp [showing, differs]

@[simp]
theorem showing_screens_self : (apps.showing app screen).screens app = screen := by
  simp [showing]

theorem Consistent.waits_showing (consistent : Consistent who apps)
    (moved : CouponsViewController.Change (apps.screens app) screenEvent screen)
    {caller : App × Nat} (waits : Waits apps.screens caller)
    (unanswered : ∀ number, screenEvent.reply = some number → caller ≠ (app, number)) :
    Waits (apps.showing app screen).screens caller := by
  obtain ⟨other, number⟩ := caller
  obtain ⟨waiting, serviceCall, found, redeems⟩ := waits
  obtain ⟨numbered, requests⟩ := consistent.requests moved
  by_cases same : other = app
  · subst same
    have reply : screenEvent.reply ≠ some number := fun replied => unanswered number replied rfl
    simp only [Waits, showing_screens_self]
    have still_open := requests.open_kept waiting reply
    exact ⟨still_open, serviceCall, requests.call_kept found, redeems⟩
  · simp only [Waits, showing_screens_ne same]
    exact ⟨waiting, serviceCall, found, redeems⟩

theorem Consistent.closed_showing (consistent : Consistent who apps)
    (moved : CouponsViewController.Change (apps.screens app) screenEvent screen)
    {caller : App × Nat} (closed : Closed apps.screens caller) :
    Closed (apps.showing app screen).screens caller := by
  obtain ⟨other, number⟩ := caller
  obtain ⟨bound, answered⟩ := closed
  obtain ⟨numbered, requests⟩ := consistent.requests moved
  by_cases same : other = app
  · subst same
    simp only [Closed, showing_screens_self]
    exact ⟨Nat.lt_of_lt_of_le bound requests.length_le,
      requests.closed_kept numbered bound answered⟩
  · simp only [Closed, showing_screens_ne same]
    exact ⟨bound, answered⟩

theorem Consistent.show (consistent : Consistent who apps)
    (moved : CouponsViewController.Change (apps.screens app) screenEvent screen)
    (unanswered : ∀ number, screenEvent.reply = some number →
      ∀ call ∈ apps.database.pending, call.caller ≠ (app, number)) :
    Consistent who (apps.showing app screen) where
  screens := by
    intro other
    by_cases same : other = app
    · subst same
      rw [showing_screens_self]
      exact (consistent.screens other).change moved
    · rw [showing_screens_ne same]
      exact consistent.screens other
  spinning := by
    intro other
    by_cases same : other = app
    · subst same
      rw [showing_screens_self]
      exact (consistent.spinning other).change (consistent.screens other).items moved
    · rw [showing_screens_ne same]
      exact consistent.spinning other
  waiting := by
    intro call member
    exact consistent.waits_showing moved (consistent.waiting call member)
      fun number replied => unanswered number replied call member
  bounded := by
    intro caller member
    have bound := consistent.bounded caller member
    by_cases same : caller.1 = app
    · rw [same, showing_screens_self]
      rw [same] at bound
      exact Nat.lt_of_lt_of_le bound moved.requests.length_le
    · rw [showing_screens_ne same]
      exact bound
  callers_nodup := consistent.callers_nodup
  pending_named := consistent.pending_named
  answers_named := consistent.answers_named
  closed := by
    intro answer member
    exact consistent.closed_showing moved (consistent.closed answer member)
  answered := consistent.answered
  completed_nodup := consistent.completed_nodup
  marked := consistent.marked

theorem Consistent.shown (consistent : Consistent who apps) {app : App}
    {screen : CouponsViewController} {screenEvent : CouponsViewController.Event}
    (moved : CouponsViewController.Change (apps.screens app) screenEvent screen)
    (fetches : ∀ number, screenEvent.reply = some number → ∀ serviceCall,
      (apps.screens app).requests.calls[number]? = some serviceCall →
        serviceCall.redemption = none) :
    Consistent who (apps.showing app screen) := by
  apply consistent.show moved
  intro number replied call member caller_eq
  obtain ⟨_, serviceCall, found, redeems⟩ := consistent.waiting call member
  rw [caller_eq] at found
  exact redeems (fetches number replied serviceCall found)

theorem Consistent.complete (consistent : Consistent who apps) {app : App} {number : Nat}
    {screen : CouponsViewController} {answer : CouponAnswer (App × Nat)}
    (moved : CouponsViewController.Change (apps.screens app)
      (.redeemCouponCompleted number answer.success) screen)
    (answered : answer ∈ apps.database.answers) (caller : answer.caller = (app, number)) :
    Consistent who { apps.showing app screen with completed := apps.completed ++ [answer] } := by
  obtain ⟨numbered, requests⟩ := consistent.requests moved
  have unanswered : ∀ other, CouponsViewController.Event.reply
      (.redeemCouponCompleted number answer.success) = some other →
        ∀ call ∈ apps.database.pending, call.caller ≠ (app, other) := by
    intro other replied call member caller_eq
    cases replied
    have disjoint := (List.nodup_append.mp consistent.callers_nodup).2.2
    exact disjoint call.caller (List.mem_map_of_mem member) answer.caller
      (List.mem_map_of_mem answered) (caller_eq.trans caller.symm)
  have shown := consistent.show moved unanswered
  have before_open : number ∈ (apps.screens app).requests.unanswered := requests.reply_mem
  have new : answer.caller ∉ apps.completed.map fun answer => answer.caller := by
    intro member
    obtain ⟨earlier, earlier_member, same⟩ := List.mem_map.mp member
    have closed := (consistent.closed earlier earlier_member).2
    rw [same, caller] at closed
    exact closed before_open
  have closed : Closed (apps.showing app screen).screens answer.caller := by
    have bound := shown.bounded answer.caller
      (List.mem_append_right _ (List.mem_map_of_mem answered))
    refine ⟨bound, ?_⟩
    rw [caller, showing_screens_self]
    exact requests.reply_closed numbered
  exact
    { shown with
      closed := by
        intro other member
        rcases List.mem_append.mp member with member | member
        · exact shown.closed other member
        · rw [List.mem_singleton.mp member]
          exact closed
      answered := by
        intro other member
        rcases List.mem_append.mp member with member | member
        · exact shown.answered other member
        · rw [List.mem_singleton.mp member]
          exact answered
      completed_nodup := by
        simpa using shown.completed_nodup.concat new }

theorem Consistent.tapped (consistent : Consistent who apps) {app : App} {cell : Nat}
    {item : CouponsViewController.Item} (found : (apps.screens app).items[cell]? = some item)
    (enabled : item.cell.redeemEnabled = true) :
    Consistent who
      { apps.showing app
          ((apps.screens app).redeemCoupon (apps.screens app).who item.coupon) with
        database := apps.redeeming app (some ((apps.screens app).who, item.coupon)) } := by
  have moved := CouponsViewController.Change.tapped found enabled
  rw [CouponsViewController.redeemTapped_of_itemsHold (consistent.screens app).items found] at moved
  have shown := consistent.show moved (by simp [CouponsViewController.Event.reply])
  have user : (apps.screens app).who = who := (consistent.screens app).who_eq
  cases resolved : (couponCollection who).document item.coupon.id with
  | none =>
      -- `document(coupon.id)` traps: nothing is issued
      have unchanged : apps.redeeming app (some ((apps.screens app).who, item.coupon)) =
          apps.database := by
        simp [redeeming, CouponServices.redeemCoupon, CouponServices.write, user, resolved,
          CouponDatabase.issue]
      rw [unchanged]
      exact shown
  | some key =>
      have issued : apps.redeeming app (some ((apps.screens app).who, item.coupon)) =
          apps.database.issue (app, (apps.screens app).requests.calls.length)
            (some { request := .redeemCoupon, who, coupon := item.coupon, key }) := by
        simp [redeeming, CouponServices.redeemCoupon, CouponServices.write, user, resolved]
      rw [issued]
      refine shown.issue ?_ ?_ (consistent.caller_new app) ⟨rfl, rfl, resolved⟩
      · simp [Waits, CouponsViewController.redeemCoupon, CouponsViewController.call,
          Requests.issue, CouponsViewController.ServiceCall.redemption]
      · simp [CouponsViewController.redeemCoupon, CouponsViewController.call, Requests.issue]

theorem Consistent.change (consistent : Consistent who apps) (change : Change apps event after) :
    Consistent who after := by
  cases change with
  | shown moved fetches => exact consistent.shown moved fetches
  | completed moved answered caller => exact consistent.complete moved answered caller
  | tapped found enabled => exact consistent.tapped found enabled
  | performed found => exact consistent.performed found

theorem Consistent.next (consistent : Consistent who apps)
    (step : machine.next apps event = some after) : Consistent who after :=
  consistent.change (next_change (fun app => (consistent.screens app).items) step)

theorem run_consistent {start : Store} {events : List (Event App)}
    (execution : machine.run events (.opened who start) = some apps) : Consistent who apps :=
  Machine.run_invariant (Consistent who) (fun consistent step => consistent.next step)
    (Consistent.opened who start) execution

end Runs

/-! ## Redeems that change something -/

/-- The fields of a stored document. -/
def contentOf (store : Store) (key : DocumentKey) : Option (String → Option FirestoreValue) :=
  (store.lookup key).map fun data field => data.lookup field

theorem contentOf_perform {write : CouponWrite} {store after : Store}
    (redeem : write.request = .redeemCoupon) (performed : write.perform store = some after)
    (marked : ∀ data, store.lookup write.key = some data →
      data.lookup "redeemed" = some (.boolean true)) :
    contentOf after = contentOf store := by
  funext key
  by_cases own : key = write.key
  · obtain ⟨data, found, written⟩ := CouponWrite.lookup_perform_redeem redeem performed
    have same : ∀ field, (data.insert "redeemed" (.boolean true)).lookup field =
        data.lookup field := by
      intro field
      by_cases name : field = "redeemed"
      · rw [name, AList.lookup_insert, marked data found]
      · exact AList.lookup_insert_ne name
    rw [own, contentOf, contentOf, found, written, Option.map_some, Option.map_some]
    exact congrArg some (funext same)
  · rw [contentOf, contentOf, CouponWrite.lookup_perform_ne performed own]

theorem Consistent.contentOf_performed (consistent : Consistent who apps) {index : Nat}
    {call : CouponCall (App × Nat)} (found : apps.database.pending[index]? = some call)
    {answer : CouponAnswer (App × Nat)} (answered : answer ∈ apps.database.answers)
    (success : answer.success = true) (same : answer.write.key = call.write.key) :
    contentOf ((apps.database.settle index).perform call).store =
      contentOf apps.database.store := by
  have redeem := (consistent.pending_named call (List.mem_of_getElem? found)).1
  obtain ⟨store, error, after, outcome⟩ := perform_cases (apps.database.settle index) call
  rw [after]
  rcases outcome with ⟨_, rfl, _⟩ | ⟨performed, _⟩
  · rfl
  · exact contentOf_perform redeem performed
      (same ▸ consistent.marked answer answered success)

theorem Consistent.spinner (consistent : Consistent who apps) {call : CouponCall (App × Nat)}
    (pending : call ∈ apps.database.pending) :
    call.caller.2 ∈
      (apps.screens call.caller.1).queued ++ (apps.screens call.caller.1).spinners := by
  obtain ⟨waiting, serviceCall, asked, redeems⟩ := consistent.waiting call pending
  exact (consistent.spinning call.caller.1).covered call.caller.2 waiting serviceCall asked redeems

/-! ## Taps on current copies -/

/-- A redeem tap, with no spinner up or still to be put up, acts on a copy that is current: the
coupon is stored as the cell has it, and no other instance has a redeem of it in flight. -/
def CurrentCopy (apps : CouponApps App) : Event App → Prop
  | .screen app (.redeemTapped cell) =>
      (apps.screens app).queued = [] ∧ (apps.screens app).spinners = [] ∧
      ∀ item, (apps.screens app).items[cell]? = some item →
        ∀ key, (couponCollection (apps.screens app).who).document item.coupon.id = some key →
          (∃ data, apps.database.store.lookup key = some data ∧
            Coupon.decode data = .ok item.coupon) ∧
          ∀ call ∈ apps.database.pending, call.write.key = key → call.caller.1 = app
  | _ => True

/-- The documents of the redeems in flight, then of those that succeeded. -/
def redeemKeys (database : CouponDatabase (App × Nat)) : List DocumentKey :=
  database.pending.map (fun call => call.write.key) ++
    (database.answers.filter fun answer => answer.success).map fun answer => answer.write.key

/-- A coupon of an enabled cell that is stored as the cell has it has no redeem in flight or
answered with success. -/
theorem Consistent.key_new (consistent : Consistent who apps) {app : App} {cell : Nat}
    {item : CouponsViewController.Item} (found : (apps.screens app).items[cell]? = some item)
    (enabled : item.cell.redeemEnabled = true)
    (current : apps.CurrentCopy (.screen app (.redeemTapped cell))) {key : DocumentKey}
    (resolved : (couponCollection (apps.screens app).who).document item.coupon.id = some key) :
    key ∉ redeemKeys apps.database := by
  obtain ⟨unqueued, uncovered, copies⟩ := current
  obtain ⟨⟨data, stored, decoded⟩, others⟩ := copies item found key resolved
  have holds := (consistent.screens app).items item (List.mem_of_getElem? found)
  have unredeemed : item.coupon.redeemed = some false := holds.enabled.mp enabled
  intro member
  rcases List.mem_append.mp member with in_flight | succeeded
  · obtain ⟨call, pending, same⟩ := List.mem_map.mp in_flight
    have own : call.caller.1 = app := others call pending same
    have spinner := consistent.spinner pending
    rw [own, unqueued, uncovered] at spinner
    cases spinner
  · obtain ⟨answer, answered, same⟩ := List.mem_map.mp succeeded
    obtain ⟨answered, success⟩ := List.mem_filter.mp answered
    have marked := consistent.marked answer answered success data (same ▸ stored)
    have field := (Coupon.decode_eq_ok_iff.mp decoded).2.2.2
    rw [unredeemed] at field
    have unmarked : data.lookup "redeemed" = some (.boolean false) := field
    rw [marked] at unmarked
    cases unmarked

/-- Applying a redeem moves its document from the redeems in flight to those that succeeded, or
takes it out. -/
theorem redeemKeys_performed {database : CouponDatabase (App × Nat)} {index : Nat}
    {call : CouponCall (App × Nat)} (found : database.pending[index]? = some call)
    (nodup : (redeemKeys database).Nodup) :
    (redeemKeys ((database.settle index).perform call)).Nodup := by
  have order := ((CouponDatabase.pending_settle found).map fun call => call.write.key).append_right
    ((database.answers.filter fun answer => answer.success).map fun answer => answer.write.key)
  have moved := order.nodup_iff.mp nodup
  obtain ⟨store, error, after, outcome⟩ := perform_cases (database.settle index) call
  rw [after]
  rcases outcome with ⟨_, _, rfl⟩ | ⟨_, rfl⟩
  · have kept := (List.nodup_cons.mp moved).2
    simpa [redeemKeys, CouponDatabase.answer, CouponDatabase.settle, CouponAnswer.success,
      CouponServices.reported] using kept
  · have last : (redeemKeys { (database.settle index).answer call none with store := store }).Perm
        (call.write.key :: (database.pending.eraseIdx index).map (fun call => call.write.key) ++
          (database.answers.filter fun answer => answer.success).map
            fun answer => answer.write.key) := by
      simp [redeemKeys, CouponDatabase.answer, CouponDatabase.settle, CouponAnswer.success,
        CouponServices.reported, ← List.append_assoc]
    exact last.nodup_iff.mpr moved

/-! ## Redeems that complete -/

/-- The ids of the redeems that completed with `true`, oldest first. -/
def redeemedIds (apps : CouponApps App) : List String :=
  (apps.completed.filter fun answer => answer.success).map fun answer => answer.write.coupon.id

theorem Consistent.redeemedIds_nodup (consistent : Consistent who apps)
    (nodup : (redeemKeys apps.database).Nodup) : apps.redeemedIds.Nodup := by
  have keys := (List.nodup_append.mp nodup).2.1
  have successful : ∀ answer ∈ apps.completed.filter fun answer => answer.success,
      answer ∈ apps.database.answers.filter fun answer => answer.success := by
    intro answer member
    obtain ⟨member, success⟩ := List.mem_filter.mp member
    exact List.mem_filter.mpr ⟨consistent.answered answer member, success⟩
  refine List.Nodup.map_on ?_ (consistent.completed_nodup.of_map.filter _)
  intro left left_member right right_member same
  have left_answer := successful left left_member
  have right_answer := successful right right_member
  have left_named := (consistent.answers_named left (List.mem_of_mem_filter left_answer)).2.2
  have right_named := (consistent.answers_named right (List.mem_of_mem_filter right_answer)).2.2
  rw [same, right_named, Option.some.injEq] at left_named
  exact List.inj_on_of_nodup_map keys left_answer right_answer left_named.symm

section Redeems

variable [DecidableEq App]

/-- While every tap is made on a current copy, no document has two redeems. -/
theorem Consistent.redeemKeys_nodup (consistent : Consistent who apps)
    (nodup : (redeemKeys apps.database).Nodup) (current : apps.CurrentCopy event)
    (change : Change apps event after) : (redeemKeys after.database).Nodup := by
  cases change with
  | shown moved fetches => exact nodup
  | completed moved answered caller => exact nodup
  | @tapped app cell item found enabled =>
      cases resolved : (couponCollection (apps.screens app).who).document item.coupon.id with
      | none =>
          simpa [redeeming, CouponServices.redeemCoupon, CouponServices.write, resolved,
            CouponDatabase.issue] using nodup
      | some key =>
          have new := consistent.key_new found enabled current resolved
          have order : (redeemKeys (apps.redeeming app
              (some ((apps.screens app).who, item.coupon)))).Perm
              (key :: redeemKeys apps.database) := by
            simp [redeemKeys, redeeming, CouponServices.redeemCoupon, CouponServices.write,
              resolved, CouponDatabase.issue]
          rw [order.nodup_iff]
          exact List.nodup_cons.mpr ⟨new, nodup⟩
  | performed found => exact redeemKeys_performed found nodup

theorem run_redeemKeys_nodup {start : Store} {events : List (Event App)}
    (current : machine.Respects CurrentCopy events (.opened who start))
    (execution : machine.run events (.opened who start) = some apps) :
    (redeemKeys apps.database).Nodup := by
  have kept := Machine.run_guarded
    (fun apps : CouponApps App => Consistent who apps ∧ (redeemKeys apps.database).Nodup)
    (fun {before event after} holds meets step => ?_)
    ⟨Consistent.opened who start, List.nodup_nil⟩ current execution
  · exact kept.2
  · have change := next_change (fun app => (holds.1.screens app).items) step
    exact ⟨holds.1.change change, holds.1.redeemKeys_nodup holds.2 meets change⟩

/-- In every run: of all redeems of a coupon at most one changes what is stored; a redeem that is
unanswered has its spinner, up or still to be put up; and where every tap is made with no spinner up
or to be put up and on a current copy, at most one redeem of an id completes with `true`. -/
theorem run_redeemsOnce {start : Store} {events : List (Event App)}
    (execution : machine.run events (.opened who start) = some apps) :
    (∀ index call after, apps.database.pending[index]? = some call →
      machine.next apps (.applyWrite index) = some after →
        (∃ answer ∈ apps.database.answers, answer.success = true ∧
          answer.write.key = call.write.key) →
          contentOf after.database.store = contentOf apps.database.store) ∧
    (∀ app, ∀ number ∈ (apps.screens app).requests.unanswered, ∀ serviceCall,
      (apps.screens app).requests.calls[number]? = some serviceCall →
        serviceCall.redemption ≠ none →
          number ∈ (apps.screens app).queued ++ (apps.screens app).spinners) ∧
    (machine.Respects CurrentCopy events (.opened who start) → apps.redeemedIds.Nodup) := by
  have consistent := run_consistent execution
  refine ⟨?_, ?_, ?_⟩
  · intro index call after found step earlier
    obtain ⟨answer, answered, success, same⟩ := earlier
    obtain ⟨taken, found', rfl⟩ := Option.map_eq_some_iff.mp step
    have call_eq : call = taken := Option.some.inj (found.symm.trans found')
    subst call_eq
    exact consistent.contentOf_performed found answered success same
  · intro app
    exact (consistent.spinning app).covered
  · intro current
    exact consistent.redeemedIds_nodup (run_redeemKeys_nodup current execution)

end Redeems

/-- A second coupon for Lauren. -/
def dinner : Coupon :=
  { CouponDatabase.massage with id := "B", title := "Dinner" }

/-- Lauren's coupons, stored and unredeemed. -/
def couponsStored : Store :=
  ((∅ : Store).insert ((couponCollection .lauren).key dinner.id) dinner.encode).insert
    ((couponCollection .lauren).key CouponDatabase.massage.id) CouponDatabase.massage.encode

/-- An instance fetches both coupons and lays one of them out. -/
def fetchedBy (app : Bool) (index : Nat) : List (Event Bool) :=
  [.screen app (.getCouponsCompleted 0 (.success [CouponDatabase.massage, dinner])),
    .screen app (.cellForItemAt index 0)]

/-- Two instances redeem one coupon each, with both updates in flight at once. -/
def tappedBoth : List (Event Bool) :=
  fetchedBy false 0 ++ fetchedBy true 1 ++
    [.screen false (.redeemTapped 0), .screen true (.redeemTapped 0),
      .screen true (.spinnerAdded 1), .screen false (.spinnerAdded 1), .applyWrite 1,
      .screen true (.redeemCouponCompleted 1 true), .applyWrite 0,
      .screen false (.redeemCouponCompleted 1 true)]

theorem tappedBoth_redeemsOnce :
    ∃ apps, machine.run tappedBoth (.opened .lauren couponsStored) = some apps ∧
      apps.redeemedIds.length = 2 ∧ apps.redeemedIds.Nodup := by
  have runs : ∃ apps, machine.run tappedBoth (.opened .lauren couponsStored) = some apps ∧
      apps.redeemedIds.length = 2 := ⟨_, rfl, by decide⟩
  obtain ⟨apps, execution, both⟩ := runs
  have current : machine.Respects CurrentCopy tappedBoth (.opened .lauren couponsStored) := by
    refine .cons rfl True.intro (.cons rfl True.intro (.cons rfl True.intro (.cons rfl True.intro
      (.cons rfl ?_ (.cons rfl ?_ (.cons rfl True.intro (.cons rfl True.intro
        (.cons rfl True.intro (.cons rfl True.intro (.cons rfl True.intro
          (.cons rfl True.intro True.intro)))))))))))
    · refine ⟨rfl, rfl, ?_⟩
      intro item found key resolved
      cases found
      cases resolved
      refine ⟨⟨_, rfl, Coupon.decode_encode CouponDatabase.massage⟩, ?_⟩
      intro call member
      cases member
    · refine ⟨rfl, rfl, ?_⟩
      intro item found key resolved
      cases found
      cases resolved
      refine ⟨⟨_, rfl, Coupon.decode_encode dinner⟩, ?_⟩
      intro call member same
      -- the update in flight is for the other coupon
      cases List.mem_singleton.mp member
      exact absurd same (by decide)
  exact ⟨apps, execution, both, (run_redeemsOnce execution).2.2 current⟩

/-- The spinner goes before the list is fetched again, and Lauren taps again. -/
def tappedAgain : List (Event Bool) :=
  fetchedBy false 0 ++
    [.screen false (.redeemTapped 0), .screen false (.spinnerAdded 1), .applyWrite 0,
      .screen false (.redeemCouponCompleted 1 true), .screen false (.spinnerElapsed 1),
      .screen false (.redeemTapped 0), .applyWrite 0, .screen false (.redeemCouponCompleted 3 true)]

/-- Two redeems of one coupon complete with `true` on a single instance, whose only fetch answered
what is stored. -/
theorem tappedAgain_redeems_twice :
    CouponDatabase.Reads couponsStored .lauren [CouponDatabase.massage, dinner] ∧
      ∃ apps, machine.run tappedAgain (.opened .lauren couponsStored) = some apps ∧
        ¬ apps.redeemedIds.Nodup := by
  constructor
  · exact ⟨_, List.Perm.refl _, rfl⟩
  · exact ⟨_, rfl, by decide⟩

end CouponApps

end Celeste
