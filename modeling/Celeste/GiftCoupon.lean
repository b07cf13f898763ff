import Celeste.CouponDatabase
import Celeste.Library.Requests

/-!
# The gift form

A user writes a coupon for the other one.  A request runs under a spinner that is put up a moment
after it was sent, and its answer is reported to the user of a form that is still there.  Next to
the coupon collections every gift reported as sent can be read by the other user, every coupon a
user reads was asked for on one form, once, and a form whose spinners come up before the next tap
gives one coupon at most.
-/

namespace Celeste

/-! ## The form -/

/-- The form: its requests; the spinners `displaySpinner` has yet to add and those over the form,
each known by its request; what it alerted; and the requests it reported as sent, where it told its
delegate and dismissed itself, and as gone wrong. -/
structure GiftCouponViewController where
  who : Who
  requests : Requests (Who × Coupon)
  queued : List Nat
  spinners : List Nat
  alerts : List (String × String)
  gifted : List Nat
  failed : List Nat
  /-- The form has not been released. -/
  alive : Bool

namespace GiftCouponViewController

/-- What the user, UIKit and the service do to the form. -/
inductive Event
  | submitTapped (couponTitleText couponDescriptionText : Option String) (uuidString : String)
  | spinnerAdded (number : Nat)
  | giftCouponCompleted (number : Nat) (success : Bool)
  | spinnerRemoved (number : Nat)
  | release

/-- The form as `giftButton` presents it. -/
def presented (who : Who) : GiftCouponViewController where
  who := who
  requests := .empty
  queued := []
  spinners := []
  alerts := []
  gifted := []
  failed := []
  alive := true

/-- `displayAlert(message:title:)`. -/
def displayAlert (form : GiftCouponViewController) (message title : String) :
    GiftCouponViewController :=
  { form with alerts := form.alerts ++ [(message, title)] }

/-- `giftCouponRequest(whoToGift:coupon:)` up to its return. -/
def giftCouponRequest (form : GiftCouponViewController) (whoToGift : Who) (coupon : Coupon) :
    GiftCouponViewController :=
  { form with
    queued := form.queued ++ [form.requests.calls.length]
    requests := form.requests.issue (whoToGift, coupon) }

/-- What a submission does to the form. -/
def submit (form : GiftCouponViewController) : Submission → GiftCouponViewController
  | .displayAlert message title => form.displayAlert message title
  | .giftCouponRequest whoToGift coupon => form.giftCouponRequest whoToGift coupon

/-- The block of `giftCouponRequest`, which captures the form weakly; the spinner goes a second
later. -/
def completed (form : GiftCouponViewController) (number : Nat) (success : Bool) :
    GiftCouponViewController :=
  let answered := { form with requests := form.requests.answer number }
  if form.alive then
    if success then
      { answered with gifted := form.gifted ++ [number] }
    else
      { answered with failed := form.failed ++ [number] }.displayAlert
        "Oops, something went wrong please let anto know 442 error!" "Sorry!"
  else
    answered

/-- The transitions of the form; a spinner over the form takes the taps. -/
def machine : Machine GiftCouponViewController Event where
  next form
    | .submitTapped couponTitleText couponDescriptionText uuidString =>
        if form.alive ∧ form.spinners = [] then
          some (form.submit
            (submitTapped form.who couponTitleText couponDescriptionText uuidString))
        else
          none
    | .spinnerAdded number =>
        if number ∈ form.queued then
          some { form with
            queued := form.queued.erase number
            spinners := form.spinners ++ [number] }
        else
          none
    | .giftCouponCompleted number success =>
        if number ∈ form.requests.unanswered then some (form.completed number success) else none
    | .spinnerRemoved number =>
        if number ∈ form.spinners ∧ number ∉ form.requests.unanswered then
          some { form with spinners := form.spinners.erase number }
        else
          none
    | .release => if form.alive then some { form with alive := false } else none

/-! ## What an event changes -/

/-- A coupon as `submitTapped` makes it: for the other user, and unredeemed. -/
structure Offered (who : Who) (gift : Who × Coupon) : Prop where
  other : gift.1 ≠ who
  unredeemed : gift.2.redeemed = some false

/-- Everything an event can do to the form. -/
inductive Change (form : GiftCouponViewController) : Event → GiftCouponViewController → Prop
  /-- The requests and the reports stay. -/
  | quiet {event : Event} {after : GiftCouponViewController} (who : after.who = form.who)
      (requests : after.requests = form.requests) (gifted : after.gifted = form.gifted)
      (failed : after.failed = form.failed) (alive : after.alive = true → form.alive = true)
      (unsent : ∀ couponTitleText couponDescriptionText uuidString,
        event = .submitTapped couponTitleText couponDescriptionText uuidString →
          (submitTapped form.who couponTitleText couponDescriptionText uuidString).write = none)
      (unanswered : ∀ number success, event ≠ .giftCouponCompleted number success)
      (covered : ∀ number ∈ form.queued ++ form.spinners,
        number ∈ after.queued ++ after.spinners ∨ number ∉ form.requests.unanswered) :
      Change form event after
  | requested {couponTitleText couponDescriptionText : Option String} {uuidString : String}
      {whoToGift : Who} {coupon : Coupon} (alive : form.alive = true)
      (unspun : form.spinners = []) (named : coupon.id = uuidString)
      (offered : Offered form.who (whoToGift, coupon))
      (sent : submitTapped form.who couponTitleText couponDescriptionText uuidString =
        .giftCouponRequest whoToGift coupon) :
      Change form (.submitTapped couponTitleText couponDescriptionText uuidString)
        (form.giftCouponRequest whoToGift coupon)
  | completed {number : Nat} (unanswered : number ∈ form.requests.unanswered) (success : Bool) :
      Change form (.giftCouponCompleted number success) (form.completed number success)

theorem submitTapped_cases (who : Who) (couponTitleText couponDescriptionText : Option String)
    (uuidString : String) :
    (∃ message title, submitTapped who couponTitleText couponDescriptionText uuidString =
        .displayAlert message title) ∨
      ∃ whoToGift coupon, submitTapped who couponTitleText couponDescriptionText uuidString =
          .giftCouponRequest whoToGift coupon ∧
        Offered who (whoToGift, coupon) ∧ coupon.id = uuidString := by
  cases couponTitleText with
  | none => exact .inl ⟨_, _, rfl⟩
  | some couponTitle =>
      cases couponDescriptionText with
      | none => exact .inl ⟨_, _, rfl⟩
      | some couponDescription =>
          simp only [submitTapped]
          split
          · refine .inr ⟨_, _, rfl, ⟨?_, rfl⟩, rfl⟩
            cases who with
            | lauren => simp
            | antonio => simp
          · exact .inl ⟨_, _, rfl⟩

variable {form after : GiftCouponViewController} {event : Event}

theorem next_change (step : machine.next form event = some after) : Change form event after := by
  cases event with
  | submitTapped couponTitleText couponDescriptionText uuidString =>
      obtain ⟨enabled, step⟩ := Option.ite_none_right_eq_some.mp step
      cases step
      rcases submitTapped_cases form.who couponTitleText couponDescriptionText uuidString with
        ⟨message, title, refused⟩ | ⟨whoToGift, coupon, sent, offered, named⟩
      · rw [refused]
        refine .quiet rfl rfl rfl rfl id ?_ (by simp) (fun _ => .inl)
        intro titleText descriptionText text same
        cases same
        rw [refused]
        rfl
      · rw [sent]
        exact .requested enabled.1 enabled.2 named offered sent
  | spinnerAdded number =>
      obtain ⟨member, step⟩ := Option.ite_none_right_eq_some.mp step
      cases step
      refine .quiet rfl rfl rfl rfl id (by simp) (by simp) ?_
      intro other covered
      left
      by_cases same : other = number
      · simp [same]
      · simpa [List.mem_erase_of_ne same, or_assoc, same] using covered
  | giftCouponCompleted number success =>
      obtain ⟨unanswered, step⟩ := Option.ite_none_right_eq_some.mp step
      cases step
      exact .completed unanswered success
  | spinnerRemoved number =>
      obtain ⟨⟨-, answered⟩, step⟩ := Option.ite_none_right_eq_some.mp step
      cases step
      refine .quiet rfl rfl rfl rfl id (by simp) (by simp) ?_
      intro other covered
      by_cases same : other = number
      · exact .inr (same ▸ answered)
      · left
        simpa [List.mem_erase_of_ne same] using covered
  | release =>
      obtain ⟨alive, step⟩ := Option.ite_none_right_eq_some.mp step
      cases step
      exact .quiet rfl rfl rfl rfl (fun _ => alive) (by simp) (by simp) (fun _ => .inl)

@[simp]
theorem completed_who (form : GiftCouponViewController) (number : Nat) (success : Bool) :
    (form.completed number success).who = form.who := by
  simp only [completed]
  split
  · split <;> rfl
  · rfl

@[simp]
theorem completed_alive (form : GiftCouponViewController) (number : Nat) (success : Bool) :
    (form.completed number success).alive = form.alive := by
  simp only [completed]
  split
  · split <;> rfl
  · rfl

@[simp]
theorem completed_requests (form : GiftCouponViewController) (number : Nat) (success : Bool) :
    (form.completed number success).requests = form.requests.answer number := by
  simp only [completed]
  split
  · split <;> rfl
  · rfl

@[simp]
theorem completed_queued (form : GiftCouponViewController) (number : Nat) (success : Bool) :
    (form.completed number success).queued = form.queued := by
  simp only [completed]
  split
  · split <;> rfl
  · rfl

@[simp]
theorem completed_spinners (form : GiftCouponViewController) (number : Nat) (success : Bool) :
    (form.completed number success).spinners = form.spinners := by
  simp only [completed]
  split
  · split <;> rfl
  · rfl

theorem completed_gifted (form : GiftCouponViewController) (number : Nat) (success : Bool) :
    (form.completed number success).gifted =
      form.gifted ++ if form.alive ∧ success then [number] else [] := by
  simp only [completed]
  split
  case isTrue alive => cases success <;> simp [alive, displayAlert]
  case isFalse gone => simp [gone]

theorem completed_failed (form : GiftCouponViewController) (number : Nat) (success : Bool) :
    (form.completed number success).failed =
      form.failed ++ if form.alive ∧ success = false then [number] else [] := by
  simp only [completed]
  split
  case isTrue alive => cases success <;> simp [alive, displayAlert]
  case isFalse gone => simp [gone]

/-! ## What every run keeps -/

/-- Requests are numbered and offer coupons to the other user; each is reported at most once, once
answered, and on a form still there every answered one is; and one that is under way has its
spinner, over the form or about to be. -/
structure Consistent (who : Who) (form : GiftCouponViewController) : Prop where
  user : form.who = who
  numbered : form.requests.Numbered
  offered : ∀ gift ∈ form.requests.calls, Offered who gift
  closed : ∀ number ∈ form.gifted ++ form.failed,
    number < form.requests.calls.length ∧ number ∉ form.requests.unanswered
  once : (form.gifted ++ form.failed).Nodup
  reported : form.alive = true → ∀ number < form.requests.calls.length,
    number ∉ form.requests.unanswered → number ∈ form.gifted ++ form.failed
  covered : ∀ number ∈ form.requests.unanswered, number ∈ form.queued ++ form.spinners

theorem Consistent.presented (who : Who) : Consistent who (presented who) where
  user := rfl
  numbered := .empty
  offered := by simp [GiftCouponViewController.presented, Requests.empty]
  closed := by simp [GiftCouponViewController.presented]
  once := by simp [GiftCouponViewController.presented]
  reported := by simp [GiftCouponViewController.presented, Requests.empty]
  covered := by simp [GiftCouponViewController.presented, Requests.empty]

variable {who : Who}

theorem completed_reports (form : GiftCouponViewController) (number : Nat) (success : Bool) :
    ((form.completed number success).gifted ++ (form.completed number success).failed).Perm
      ((if form.alive then [number] else []) ++ (form.gifted ++ form.failed)) := by
  rw [completed_gifted, completed_failed]
  cases alive : form.alive with
  | false => simp
  | true =>
      cases success with
      | false => simp [List.perm_append_singleton, ← List.append_assoc]
      | true => simp

theorem Consistent.change (consistent : Consistent who form) (change : Change form event after) :
    Consistent who after := by
  cases change with
  | quiet who_eq requests gifted failed alive unsent unanswered covered =>
      constructor
      · exact who_eq.trans consistent.user
      · exact requests ▸ consistent.numbered
      · exact requests ▸ consistent.offered
      · rw [gifted, failed, requests]
        exact consistent.closed
      · rw [gifted, failed]
        exact consistent.once
      · intro still
        rw [gifted, failed, requests]
        exact consistent.reported (alive still)
      · intro number waiting
        rw [requests] at waiting
        have before := covered number (consistent.covered number waiting)
        exact before.resolve_right fun gone => gone waiting
  | @requested titleText descriptionText uuidString whoToGift coupon alive unspun named offered =>
      have bounded : ∀ number ∈ form.gifted ++ form.failed,
          number < form.requests.calls.length := fun number member =>
        (consistent.closed number member).1
      constructor
      · exact consistent.user
      · exact consistent.numbered.issue _
      · intro gift member
        rcases List.mem_append.mp member with old | new
        · exact consistent.offered gift old
        · rw [List.mem_singleton.mp new]
          exact consistent.user ▸ offered
      · intro number member
        obtain ⟨bound, answered⟩ := consistent.closed number member
        simp only [giftCouponRequest, Requests.issue, List.length_append, List.length_singleton,
          List.mem_append, List.mem_singleton, not_or]
        exact ⟨by omega, answered, by omega⟩
      · exact consistent.once
      · intro _ number bound closed
        simp only [giftCouponRequest, Requests.issue, List.length_append, List.length_singleton,
          List.mem_append, List.mem_singleton, not_or] at bound closed
        exact consistent.reported alive number (by omega) closed.1
      · intro number waiting
        simp only [giftCouponRequest, Requests.issue, List.mem_append, List.mem_singleton]
          at waiting ⊢
        rcases waiting with old | new
        · rcases List.mem_append.mp (consistent.covered number old) with queued | up
          · exact .inl (.inl queued)
          · exact .inr up
        · exact .inl (.inr new)
  | @completed number unanswered success =>
      have reports := completed_reports form number success
      have bound := consistent.numbered.bound number unanswered
      have erased : ∀ other, other ∈ form.requests.unanswered.erase number ↔
          other ≠ number ∧ other ∈ form.requests.unanswered :=
        fun other => consistent.numbered.nodup.mem_erase_iff
      constructor
      · exact (completed_who form number success).trans consistent.user
      · rw [completed_requests]
        exact consistent.numbered.answer number
      · rw [completed_requests]
        exact consistent.offered
      · intro other member
        rw [completed_requests, Requests.answer, erased]
        rcases List.mem_append.mp (reports.mem_iff.mp member) with new | old
        · have same : other = number := by
            split at new
            · exact List.mem_singleton.mp new
            · cases new
          exact ⟨same ▸ bound, fun still => still.1 same⟩
        · obtain ⟨other_bound, answered⟩ := consistent.closed other old
          exact ⟨other_bound, fun still => answered still.2⟩
      · rw [reports.nodup_iff]
        split
        · rw [List.singleton_append, List.nodup_cons]
          exact ⟨fun member => (consistent.closed number member).2 unanswered, consistent.once⟩
        · exact consistent.once
      · intro still other other_bound closed
        rw [completed_alive] at still
        rw [completed_requests] at other_bound closed
        rw [reports.mem_iff, if_pos still, List.singleton_append, List.mem_cons]
        by_cases same : other = number
        · exact .inl same
        · right
          have answered : other ∉ form.requests.unanswered := fun waiting =>
            closed ((erased other).mpr ⟨same, waiting⟩)
          exact consistent.reported still other other_bound answered
      · intro other waiting
        rw [completed_requests] at waiting
        rw [completed_queued, completed_spinners]
        exact consistent.covered other (List.mem_of_mem_erase waiting)

theorem Consistent.next (consistent : Consistent who form)
    (step : machine.next form event = some after) : Consistent who after :=
  consistent.change (next_change step)

/-! ## One coupon at a time -/

/-- A tap on submit comes when no spinner is still to be put up, and not after the form has
dismissed itself. -/
def OneByOne (form : GiftCouponViewController) : Event → Prop
  | .submitTapped _ _ _ => form.queued = [] ∧ form.gifted = []
  | _ => True

/-- All requests but the last one have failed. -/
def OnlyLastOpen (form : GiftCouponViewController) : Prop :=
  ∀ number, number + 1 < form.requests.calls.length → number ∈ form.failed

/-- A form whose spinners come up in time sends a request only after the ones before have failed. -/
theorem OnlyLastOpen.change (consistent : Consistent who form) (onlyLast : form.OnlyLastOpen)
    (guarded : form.OneByOne event) (change : Change form event after) : after.OnlyLastOpen := by
  cases change with
  | quiet who_eq requests gifted failed =>
      unfold OnlyLastOpen
      rw [requests, failed]
      exact onlyLast
  | @requested titleText descriptionText uuidString whoToGift coupon alive unspun =>
      intro number bound
      rw [giftCouponRequest, Requests.issue, List.length_append, List.length_singleton] at bound
      have none_open : number ∉ form.requests.unanswered := by
        intro waiting
        have covered := consistent.covered number waiting
        rw [guarded.1, unspun] at covered
        cases covered
      have reported := consistent.reported alive number (by omega) none_open
      rwa [guarded.2, List.nil_append] at reported
  | @completed number unanswered success =>
      intro other bound
      rw [completed_requests] at bound
      rw [completed_failed]
      exact List.mem_append_left _ (onlyLast other bound)

end GiftCouponViewController

/-! ## Calls of the coupon service -/

/-- A coupon gifted unredeemed advances to every later reading of it. -/
theorem Coupon.advances_redeemed {coupon : Coupon} (unredeemed : coupon.redeemed = some false)
    (flag : Bool) : coupon.Advances { coupon with redeemed := some flag } := by
  cases flag with
  | false => exact .inl (by rw [← unredeemed])
  | true => exact .inr ⟨unredeemed, rfl⟩

theorem Coupon.Advances.id_eq {before after : Coupon} (advances : before.Advances after) :
    after.id = before.id := by
  rcases advances with rfl | ⟨-, rfl⟩
  · rfl
  · rfl

/-- A redeemed flag aside, the ledger lists every gift of the log. -/
theorem exists_mem_ledger {log : List CouponWrite} {write : CouponWrite} (member : write ∈ log)
    (gift : write.request = .giftCoupon) (unredeemed : write.coupon.redeemed = some false) :
    ∃ listed ∈ ledger write.who log, write.coupon.Advances listed := by
  induction log with
  | nil => cases member
  | cons first log ih =>
      rw [ledger]
      rcases List.mem_cons.mp member with rfl | later
      · rw [if_pos ⟨gift, rfl⟩]
        exact ⟨_, List.mem_cons_self, Coupon.advances_redeemed unredeemed _⟩
      · obtain ⟨listed, found, advanced⟩ := ih later
        refine ⟨listed, ?_, advanced⟩
        split
        · exact List.mem_cons_of_mem _ found
        · exact found

/-- A redeemed flag aside, the ledger lists gifts of the log only. -/
theorem exists_gift_of_mem_ledger {who : Who} {log : List CouponWrite} {listed : Coupon}
    (member : listed ∈ ledger who log) :
    ∃ write ∈ log, write.request = .giftCoupon ∧ write.who = who ∧
      ∃ flag, listed = { write.coupon with redeemed := some flag } := by
  induction log with
  | nil => cases member
  | cons first log ih =>
      rw [ledger] at member
      split at member
      case isTrue own =>
        rcases List.mem_cons.mp member with same | later
        · exact ⟨first, List.mem_cons_self, own.1, own.2, _, same⟩
        · obtain ⟨write, found, rest⟩ := ih later
          exact ⟨write, List.mem_cons_of_mem _ found, rest⟩
      case isFalse other =>
        obtain ⟨write, found, rest⟩ := ih member
        exact ⟨write, List.mem_cons_of_mem _ found, rest⟩

namespace CouponDatabase

variable {Caller : Type} {database : CouponDatabase Caller}

/-- The calls in flight, then those answered. -/
def calls (database : CouponDatabase Caller) : List (CouponCall Caller) :=
  database.pending ++ database.answers.map CouponAnswer.toCouponCall

theorem calls_issue (database : CouponDatabase Caller) (caller : Caller)
    (write : Option CouponWrite) :
    (database.issue caller write).calls.Perm
      (write.toList.map (CouponCall.mk caller) ++ database.calls) := by
  rw [calls, issue, calls, List.append_assoc]
  exact List.perm_append_comm_assoc _ _ _

theorem calls_answer {index : Nat} {call : CouponCall Caller}
    (found : database.pending[index]? = some call) (error : Option FirestoreError) :
    ((database.settle index).answer call error).calls.Perm database.calls := by
  rw [calls, calls, answer_pending]
  refine List.Perm.trans ?_ ((pending_settle found).append_right _).symm
  simp [answer, settle, ← List.append_assoc]

theorem exists_perform_eq (database : CouponDatabase Caller) (call : CouponCall Caller) :
    ∃ error store, database.perform call = { database.answer call error with store := store } := by
  cases performed : call.write.perform database.store with
  | none => exact ⟨_, _, perform_of_none performed⟩
  | some store => exact ⟨_, store, perform_of_some performed⟩

theorem mem_applied_iff {write : CouponWrite} :
    write ∈ database.applied ↔
      ∃ answer ∈ database.answers, answer.success = true ∧ answer.write = write := by
  simp [applied, and_assoc]

end CouponDatabase

/-! ## Forms next to the coupons -/

/-- The coupons, and the gift forms ever opened.  A gift is known by its form and the number of its
request there. -/
structure GiftForms (Form : Type) where
  database : CouponDatabase (Option (Form × Nat))
  forms : Form → GiftCouponViewController

namespace GiftForms

variable {Form : Type}

/-- An event of one form, a redeem by a coupons screen, or the fate of one write. -/
inductive Event (Form : Type)
  | form (form : Form) (event : GiftCouponViewController.Event)
  | redeemCoupon (who : Who) (coupon : Coupon)
  | applyWrite (index : Nat)
  | rejectWrite (index : Nat) (error : FirestoreError)

/-- Every id a redeem of the run names satisfies a condition. -/
def Event.Ids (condition : String → Prop) : Event Form → Prop
  | .redeemCoupon _ coupon => condition coupon.id
  | .form .. | .applyWrite _ | .rejectWrite .. => True

/-- Every form as it is presented to its user. -/
def opened (users : Form → Who) (start : Store) : GiftForms Form where
  database := .initial start
  forms form := .presented (users form)

section Machine

variable [DecidableEq Form]

/-- One form moves. -/
def showing (gifts : GiftForms Form) (form : Form) (moved : GiftCouponViewController) :
    GiftForms Form :=
  { gifts with forms := Function.update gifts.forms form moved }

/-- The transitions of the forms and of the coupons; a request completes with what Firestore
answered. -/
def machine : Machine (GiftForms Form) (Event Form) where
  next gifts
    | .form form event =>
        (GiftCouponViewController.machine.next (gifts.forms form) event).bind fun moved =>
          match event with
          | .submitTapped couponTitleText couponDescriptionText uuidString =>
              (CouponDatabase.machine.next gifts.database
                (.submitTapped (some (form, (gifts.forms form).requests.calls.length))
                  (gifts.forms form).who couponTitleText couponDescriptionText
                  uuidString)).map fun database =>
                { gifts.showing form moved with database }
          | .giftCouponCompleted number success =>
              if ∃ answer ∈ gifts.database.answers,
                  answer.caller = some (form, number) ∧ answer.success = success then
                some (gifts.showing form moved)
              else
                none
          | _ => some (gifts.showing form moved)
    | .redeemCoupon who coupon =>
        (CouponDatabase.machine.next gifts.database (.redeemCoupon none who coupon)).map
          fun database => { gifts with database }
    | .applyWrite index =>
        (CouponDatabase.machine.next gifts.database (.applyWrite index)).map
          fun database => { gifts with database }
    | .rejectWrite index error =>
        (CouponDatabase.machine.next gifts.database (.rejectWrite index error)).map
          fun database => { gifts with database }

end Machine

/-! ## What every run keeps -/

/-- Two gifts are not under one id. -/
def Apart (left right : CouponCall (Option (Form × Nat))) : Prop :=
  left.write.request = .giftCoupon → right.write.request = .giftCoupon →
    left.write.coupon.id ≠ right.write.coupon.id

/-- The request of a form under a number. -/
def request (gifts : GiftForms Form) (caller : Form × Nat) : Option (Who × Coupon) :=
  (gifts.forms caller.1).requests.calls[caller.2]?

/-- Requests of a form that have been answered so. -/
def Answered (answers : List (CouponAnswer (Option (Form × Nat)))) (success : Bool) (form : Form)
    (numbers : List Nat) : Prop :=
  ∀ number ∈ numbers, ∃ answer ∈ answers,
    answer.caller = some (form, number) ∧ answer.success = success

/-- Every request has its call, every gift is the call of a request, no two gifts are under one id,
and reports are of answers. -/
structure Consistent (users : Form → Who) (gifts : GiftForms Form) : Prop where
  database : gifts.database.Consistent
  forms : ∀ form, (gifts.forms form).Consistent (users form)
  asked : ∀ call ∈ gifts.database.calls, ∀ caller, call.caller = some caller →
    ∃ gift, gifts.request caller = some gift ∧
      CouponServices.giftCoupon gift.1 gift.2 = some call.write
  named : ∀ call ∈ gifts.database.calls, call.write.request = .giftCoupon →
    ∃ caller, call.caller = some caller
  issued : ∀ caller gift, gifts.request caller = some gift →
    ∃ call ∈ gifts.database.calls, call.caller = some caller
  apart : gifts.database.calls.Pairwise Apart
  drawn : ∀ call ∈ gifts.database.calls, call.write.request = .giftCoupon →
    call.write.coupon.id ∈ gifts.database.uuids
  sent : ∀ form, Answered gifts.database.answers true form (gifts.forms form).gifted
  refused : ∀ form, Answered gifts.database.answers false form (gifts.forms form).failed

variable {users : Form → Who} {gifts after : GiftForms Form}

theorem Apart.symm {left right : CouponCall (Option (Form × Nat))} (apart : Apart left right) :
    Apart right left :=
  fun rightGift leftGift same => apart leftGift rightGift same.symm

instance : Std.Symm (@Apart Form) where
  symm _ _ := Apart.symm

theorem Consistent.opened (users : Form → Who) {start : Store}
    (empty : ∀ who, start.documents (couponCollection who) = []) :
    Consistent users (opened users start) where
  database := .initial empty
  forms form := .presented (users form)
  asked := by simp [GiftForms.opened, CouponDatabase.calls, CouponDatabase.initial]
  named := by simp [GiftForms.opened, CouponDatabase.calls, CouponDatabase.initial]
  issued := by
    simp [GiftForms.opened, GiftForms.request, GiftCouponViewController.presented, Requests.empty]
  apart := by simp [GiftForms.opened, CouponDatabase.calls, CouponDatabase.initial]
  drawn := by simp [GiftForms.opened, CouponDatabase.calls, CouponDatabase.initial]
  sent _ := List.forall_mem_nil _
  refused _ := List.forall_mem_nil _

theorem giftCoupon_eq_some {who : Who} {coupon : Coupon} {write : CouponWrite}
    (issued : CouponServices.giftCoupon who coupon = some write) :
    write.request = .giftCoupon ∧ write.who = who ∧ write.coupon = coupon := by
  obtain ⟨key, -, rfl⟩ := Option.map_eq_some_iff.mp issued
  exact ⟨rfl, rfl, rfl⟩

/-- Steps that make no request keep the consistency if every call they add is a redeem of no form,
and every report they add is of an answer. -/
theorem Consistent.keeps (consistent : Consistent users gifts)
    (database : after.database.Consistent)
    (forms : ∀ form, (after.forms form).Consistent (users form))
    (request : ∀ caller, after.request caller = gifts.request caller)
    {added : List (CouponCall (Option (Form × Nat)))}
    (redeems : ∀ call ∈ added, call.caller = none ∧ call.write.request = .redeemCoupon)
    (calls : after.database.calls.Perm (added ++ gifts.database.calls))
    (uuids : gifts.database.uuids ⊆ after.database.uuids)
    (sent : ∀ form, Answered after.database.answers true form (after.forms form).gifted)
    (refused : ∀ form, Answered after.database.answers false form (after.forms form).failed) :
    Consistent users after where
  database := database
  forms := forms
  asked := by
    intro call member caller called
    rcases List.mem_append.mp (calls.mem_iff.mp member) with new | old
    · rw [(redeems call new).1] at called
      cases called
    · rw [request]
      exact consistent.asked call old caller called
  named := by
    intro call member gift
    rcases List.mem_append.mp (calls.mem_iff.mp member) with new | old
    · rw [(redeems call new).2] at gift
      cases gift
    · exact consistent.named call old gift
  issued := by
    intro caller gift requested
    rw [request] at requested
    obtain ⟨call, member, called⟩ := consistent.issued caller gift requested
    exact ⟨call, calls.mem_iff.mpr (List.mem_append_right _ member), called⟩
  apart := by
    rw [calls.pairwise_iff Apart.symm, List.pairwise_append]
    have no_gift : ∀ call ∈ added, call.write.request ≠ .giftCoupon := by
      intro call member gift
      rw [(redeems call member).2] at gift
      cases gift
    refine ⟨?_, consistent.apart, ?_⟩
    · exact List.pairwise_of_forall_mem_list fun left member _ _ gift =>
        absurd gift (no_gift left member)
    · exact fun left member _ _ gift => absurd gift (no_gift left member)
  drawn := by
    intro call member gift
    rcases List.mem_append.mp (calls.mem_iff.mp member) with new | old
    · rw [(redeems call new).2] at gift
      cases gift
    · exact uuids (consistent.drawn call old gift)
  sent := sent
  refused := refused

theorem Consistent.asks (consistent : Consistent users gifts)
    (database : after.database.Consistent)
    (forms : ∀ form, (after.forms form).Consistent (users form))
    {new : Form × Nat} {gift : Who × Coupon} {write : CouponWrite}
    (fresh : gifts.request new = none) (requested : after.request new = some gift)
    (request : ∀ caller, caller ≠ new → after.request caller = gifts.request caller)
    (issued : CouponServices.giftCoupon gift.1 gift.2 = some write)
    (calls : after.database.calls.Perm ({ caller := some new, write } :: gifts.database.calls))
    (unused : gift.2.id ∉ gifts.database.uuids)
    (uuids : after.database.uuids = gift.2.id :: gifts.database.uuids)
    (answers : after.database.answers = gifts.database.answers)
    (gifted : ∀ form, (after.forms form).gifted = (gifts.forms form).gifted)
    (failed : ∀ form, (after.forms form).failed = (gifts.forms form).failed) :
    Consistent users after where
  database := database
  forms := forms
  asked := by
    intro call member caller called
    rcases List.mem_cons.mp (calls.mem_iff.mp member) with rfl | old
    · cases called
      exact ⟨gift, requested, issued⟩
    · obtain ⟨other, found, written⟩ := consistent.asked call old caller called
      have differs : caller ≠ new := by
        rintro rfl
        rw [fresh] at found
        cases found
      exact ⟨other, (request caller differs).trans found, written⟩
  named := by
    intro call member named
    rcases List.mem_cons.mp (calls.mem_iff.mp member) with rfl | old
    · exact ⟨new, rfl⟩
    · exact consistent.named call old named
  issued := by
    intro caller other found
    by_cases same : caller = new
    · exact ⟨_, calls.mem_iff.mpr List.mem_cons_self, congrArg some same.symm⟩
    · rw [request caller same] at found
      obtain ⟨call, member, called⟩ := consistent.issued caller other found
      exact ⟨call, calls.mem_iff.mpr (List.mem_cons_of_mem _ member), called⟩
  apart := by
    rw [calls.pairwise_iff Apart.symm, List.pairwise_cons]
    refine ⟨?_, consistent.apart⟩
    intro call member _ called same
    have drawn := consistent.drawn call member called
    rw [← same, (giftCoupon_eq_some issued).2.2] at drawn
    exact unused drawn
  drawn := by
    intro call member named
    rw [uuids]
    rcases List.mem_cons.mp (calls.mem_iff.mp member) with rfl | old
    · rw [(giftCoupon_eq_some issued).2.2]
      exact List.mem_cons_self
    · exact List.mem_cons_of_mem _ (consistent.drawn call old named)
  sent := by
    intro form
    rw [gifted, answers]
    exact consistent.sent form
  refused := by
    intro form
    rw [failed, answers]
    exact consistent.refused form

section Steps

variable [DecidableEq Form] {form : Form} {moved : GiftCouponViewController}
  {event : Event Form}

theorem showing_forms_self : (gifts.showing form moved).forms form = moved := by
  simp [showing]

theorem showing_forms_of_ne {other : Form} (differs : other ≠ form) :
    (gifts.showing form moved).forms other = gifts.forms other := by
  simp [showing, differs]

theorem showing_forall (property : Form → GiftCouponViewController → Prop)
    (others : ∀ other, property other (gifts.forms other)) (own : property form moved)
    (other : Form) : property other ((gifts.showing form moved).forms other) := by
  by_cases same : other = form
  · rw [same, showing_forms_self]
    exact own
  · rw [showing_forms_of_ne same]
    exact others other

theorem showing_request (calls : moved.requests.calls = (gifts.forms form).requests.calls)
    (caller : Form × Nat) : (gifts.showing form moved).request caller = gifts.request caller := by
  rw [request, request]
  by_cases same : caller.1 = form
  · rw [same, showing_forms_self, calls]
  · rw [showing_forms_of_ne same]

/-- A form that moves without a request or a report keeps the consistency, also where a UUID was
drawn for it. -/
theorem Consistent.quiet (consistent : Consistent users gifts)
    (own : moved.Consistent (users form))
    (calls : moved.requests.calls = (gifts.forms form).requests.calls)
    (gifted : moved.gifted = (gifts.forms form).gifted)
    (failed : moved.failed = (gifts.forms form).failed)
    {database : CouponDatabase (Option (Form × Nat))} (kept : database.Consistent)
    (same : database.calls = gifts.database.calls)
    (answers : database.answers = gifts.database.answers)
    (uuids : gifts.database.uuids ⊆ database.uuids) :
    Consistent users { gifts.showing form moved with database } := by
  refine consistent.keeps kept (showing_forall _ consistent.forms own) (showing_request calls)
    (List.forall_mem_nil _) (same ▸ .refl _) uuids ?_ ?_
  · rw [answers]
    exact showing_forall
      (fun other shown => Answered gifts.database.answers true other shown.gifted) consistent.sent
      (gifted ▸ consistent.sent form)
  · rw [answers]
    exact showing_forall
      (fun other shown => Answered gifts.database.answers false other shown.failed)
      consistent.refused (failed ▸ consistent.refused form)

theorem Consistent.requested (consistent : Consistent users gifts)
    {whoToGift : Who} {coupon : Coupon} {database : CouponDatabase (Option (Form × Nat))}
    (own : ((gifts.forms form).giftCouponRequest whoToGift coupon).Consistent (users form))
    (kept : database.Consistent) (single : IsDocumentId coupon.id)
    (unused : coupon.id ∉ gifts.database.uuids)
    (issued : database =
      { gifts.database with uuids := coupon.id :: gifts.database.uuids }.issue
        (some (form, (gifts.forms form).requests.calls.length))
        (CouponServices.giftCoupon whoToGift coupon)) :
    Consistent users
      { gifts.showing form ((gifts.forms form).giftCouponRequest whoToGift coupon) with
        database } := by
  have written : CouponServices.giftCoupon whoToGift coupon = some _ :=
    CouponServices.write_eq single
  have asked : (gifts.showing form
      ((gifts.forms form).giftCouponRequest whoToGift coupon)).request
        (form, (gifts.forms form).requests.calls.length) = some (whoToGift, coupon) := by
    rw [request, showing_forms_self]
    exact List.getElem?_concat_length
  refine @Consistent.asks _ _ gifts
    { gifts.showing form ((gifts.forms form).giftCouponRequest whoToGift coupon) with database }
    consistent kept (showing_forall _ consistent.forms own)
    (form, (gifts.forms form).requests.calls.length) (whoToGift, coupon) _
    (List.getElem?_eq_none le_rfl) asked ?_ written ?_ unused ?_ ?_ ?_ ?_
  · intro caller differs
    rw [request, request]
    by_cases same : caller.1 = form
    · change ((gifts.showing form _).forms caller.1).requests.calls[caller.2]? = _
      rw [same, showing_forms_self, GiftCouponViewController.giftCouponRequest, Requests.issue]
      have other : caller.2 ≠ (gifts.forms form).requests.calls.length := by
        intro last
        exact differs (Prod.ext same last)
      rw [List.getElem?_append]
      split
      · rfl
      · rw [List.getElem?_eq_none (by simp; omega), List.getElem?_eq_none (by omega)]
    · change ((gifts.showing form _).forms caller.1).requests.calls[caller.2]? = _
      rw [showing_forms_of_ne same]
  · rw [issued, written]
    exact CouponDatabase.calls_issue _ _ _
  · rw [issued]
    rfl
  · rw [issued]
    rfl
  · exact showing_forall (fun other shown => shown.gifted = (gifts.forms other).gifted)
      (fun _ => rfl) rfl
  · exact showing_forall (fun other shown => shown.failed = (gifts.forms other).failed)
      (fun _ => rfl) rfl

theorem Consistent.completed (consistent : Consistent users gifts) {number : Nat} {success : Bool}
    (own : ((gifts.forms form).completed number success).Consistent (users form))
    (answered : ∃ answer ∈ gifts.database.answers,
      answer.caller = some (form, number) ∧ answer.success = success) :
    Consistent users (gifts.showing form ((gifts.forms form).completed number success)) := by
  have calls : ((gifts.forms form).completed number success).requests.calls =
      (gifts.forms form).requests.calls := by
    rw [GiftCouponViewController.completed_requests]
    rfl
  refine consistent.keeps consistent.database (showing_forall _ consistent.forms own)
    (showing_request calls) (List.forall_mem_nil _) (.refl _) (List.Subset.refl _) ?_ ?_
  · refine showing_forall
      (fun other shown => Answered gifts.database.answers true other shown.gifted)
      consistent.sent ?_
    rw [GiftCouponViewController.completed_gifted]
    intro other member
    rcases List.mem_append.mp member with old | new
    · exact consistent.sent form other old
    · split at new
      case isTrue reports =>
        rw [List.mem_singleton.mp new]
        exact reports.2 ▸ answered
      case isFalse => cases new
  · refine showing_forall
      (fun other shown => Answered gifts.database.answers false other shown.failed)
      consistent.refused ?_
    rw [GiftCouponViewController.completed_failed]
    intro other member
    rcases List.mem_append.mp member with old | new
    · exact consistent.refused form other old
    · split at new
      case isTrue reports =>
        rw [List.mem_singleton.mp new]
        exact reports.2 ▸ answered
      case isFalse => cases new

omit [DecidableEq Form] in
/-- A redeem, or the fate of a write, keeps the consistency: the forms stay as they are. -/
theorem Consistent.databaseStep (consistent : Consistent users gifts)
    {event : CouponDatabase.Event (Option (Form × Nat))} (ids : event.Ids IsDocumentId)
    {database : CouponDatabase (Option (Form × Nat))}
    (step : CouponDatabase.machine.next gifts.database event = some database)
    {added : List (CouponCall (Option (Form × Nat)))}
    (redeems : ∀ call ∈ added, call.caller = none ∧ call.write.request = .redeemCoupon)
    (calls : database.calls.Perm (added ++ gifts.database.calls))
    (uuids : database.uuids = gifts.database.uuids)
    (answers : gifts.database.answers ⊆ database.answers) :
    Consistent users { gifts with database } := by
  have grows : ∀ {success : Bool} {form : Form} {numbers : List Nat},
      Answered gifts.database.answers success form numbers →
        Answered database.answers success form numbers := by
    intro success form numbers answered number member
    obtain ⟨answer, found, rest⟩ := answered number member
    exact ⟨answer, answers found, rest⟩
  exact consistent.keeps (consistent.database.next ids step) consistent.forms (fun _ => rfl)
    redeems calls (uuids ▸ List.Subset.refl _) (fun form => grows (consistent.sent form))
    (fun form => grows (consistent.refused form))

theorem Consistent.next (consistent : Consistent users gifts) (ids : event.Ids IsDocumentId)
    (step : machine.next gifts event = some after) : Consistent users after := by
  cases event with
  | form form event =>
      obtain ⟨moved, moves, step⟩ := Option.bind_eq_some_iff.mp step
      have own : moved.Consistent (users form) := (consistent.forms form).next moves
      cases event with
      | submitTapped titleText descriptionText uuidString =>
          obtain ⟨database, asks, rfl⟩ := Option.map_eq_some_iff.mp step
          have kept := consistent.database.next (by exact True.intro) asks
          obtain ⟨⟨single, unused⟩, issued⟩ := Option.ite_none_right_eq_some.mp asks
          cases issued
          cases GiftCouponViewController.next_change moves with
          | quiet who requests gifted failed alive unsent =>
              refine consistent.quiet own (congrArg _ requests) gifted failed kept ?_ rfl
                (List.subset_cons_self _ _)
              rw [unsent _ _ _ rfl]
              simp [CouponDatabase.issue, CouponDatabase.calls]
          | requested alive unspun named offered sent =>
              subst named
              refine consistent.requested own kept single unused ?_
              rw [sent]
              rfl
      | spinnerAdded number =>
          cases step
          cases GiftCouponViewController.next_change moves with
          | quiet who requests gifted failed =>
              exact consistent.quiet own (congrArg _ requests) gifted failed consistent.database
                rfl rfl (List.Subset.refl _)
      | giftCouponCompleted number success =>
          obtain ⟨answered, step⟩ := Option.ite_none_right_eq_some.mp step
          cases step
          cases GiftCouponViewController.next_change moves with
          | quiet who requests gifted failed alive unsent unanswered =>
              exact absurd rfl (unanswered number success)
          | completed waiting => exact consistent.completed own answered
      | spinnerRemoved number =>
          cases step
          cases GiftCouponViewController.next_change moves with
          | quiet who requests gifted failed =>
              exact consistent.quiet own (congrArg _ requests) gifted failed consistent.database
                rfl rfl (List.Subset.refl _)
      | release =>
          cases step
          cases GiftCouponViewController.next_change moves with
          | quiet who requests gifted failed =>
              exact consistent.quiet own (congrArg _ requests) gifted failed consistent.database
                rfl rfl (List.Subset.refl _)
  | redeemCoupon who coupon =>
      cases step
      have redeemed : CouponDatabase.machine.next gifts.database
          (.redeemCoupon none who coupon) = some _ := rfl
      refine consistent.databaseStep (by exact ids) redeemed ?_
        (CouponDatabase.calls_issue _ _ _) rfl
        (List.Subset.refl _)
      intro call member
      obtain ⟨write, written, rfl⟩ := List.mem_map.mp member
      obtain ⟨key, -, rfl⟩ := Option.map_eq_some_iff.mp (Option.mem_toList.mp written)
      exact ⟨rfl, rfl⟩
  | applyWrite index =>
      obtain ⟨database, applied, rfl⟩ := Option.map_eq_some_iff.mp step
      obtain ⟨call, found, performed⟩ := Option.map_eq_some_iff.mp applied
      obtain ⟨error, store, answered⟩ :=
        CouponDatabase.exists_perform_eq (gifts.database.settle index) call
      rw [answered] at performed
      subst performed
      exact consistent.databaseStep (by exact True.intro) applied (List.forall_mem_nil _)
        (CouponDatabase.calls_answer found error) rfl (List.subset_append_left _ _)
  | rejectWrite index error =>
      obtain ⟨database, rejected, rfl⟩ := Option.map_eq_some_iff.mp step
      obtain ⟨call, found, rfl⟩ := Option.map_eq_some_iff.mp rejected
      exact consistent.databaseStep (by exact True.intro) rejected (List.forall_mem_nil _)
        (CouponDatabase.calls_answer found (some error)) rfl (List.subset_append_left _ _)

end Steps

/-! ## What is reported, and what is read -/

open CouponDatabase (Reads)

/-- Reports of gifts agree with what the users read. -/
structure Truthful (users : Form → Who) (gifts : GiftForms Form) : Prop where
  /-- A gift reported as sent is for the other user, who reads it in every answer. -/
  sent : ∀ form, ∀ number ∈ (gifts.forms form).gifted, ∃ whoToGift coupon,
    gifts.request (form, number) = some (whoToGift, coupon) ∧ whoToGift ≠ users form ∧
      ∀ coupons, Reads gifts.database.store whoToGift coupons →
        ∃ listed ∈ coupons, coupon.Advances listed
  /-- One reported as gone wrong is in no answer. -/
  failed : ∀ form, ∀ number ∈ (gifts.forms form).failed, ∃ whoToGift coupon,
    gifts.request (form, number) = some (whoToGift, coupon) ∧
      ∀ coupons, Reads gifts.database.store whoToGift coupons →
        coupon.id ∉ coupons.map Coupon.id
  /-- Each request is reported at most once. -/
  once : ∀ form, ((gifts.forms form).gifted ++ (gifts.forms form).failed).Nodup
  /-- On a form that is still there exactly the answered requests are reported. -/
  reported : ∀ form, (gifts.forms form).alive = true →
    ∀ number < (gifts.forms form).requests.calls.length,
      number ∈ (gifts.forms form).gifted ++ (gifts.forms form).failed ↔
        number ∉ (gifts.forms form).requests.unanswered
  /-- Each coupon a user reads was asked for once, on a form of the other user. -/
  asked : ∀ who coupons, Reads gifts.database.store who coupons → ∀ listed ∈ coupons,
    ∃! caller : Form × Nat, ∃ coupon, gifts.request caller = some (who, coupon) ∧
      users caller.1 ≠ who ∧ coupon.Advances listed

theorem Consistent.offered (consistent : Consistent users gifts) {caller : Form × Nat}
    {gift : Who × Coupon} (requested : gifts.request caller = some gift) :
    GiftCouponViewController.Offered (users caller.1) gift :=
  (consistent.forms caller.1).offered gift (List.mem_of_getElem? requested)

theorem Consistent.answer_cases (consistent : Consistent users gifts)
    {answer : CouponAnswer (Option (Form × Nat))} (member : answer ∈ gifts.database.answers)
    {caller : Form × Nat} (called : answer.caller = some caller) :
    ∃ gift, gifts.request caller = some gift ∧ answer.write.request = .giftCoupon ∧
      answer.write.who = gift.1 ∧ answer.write.coupon = gift.2 := by
  have answered : answer.toCouponCall ∈ gifts.database.calls :=
    List.mem_append_right _ (List.mem_map_of_mem member)
  obtain ⟨gift, requested, issued⟩ := consistent.asked _ answered caller called
  exact ⟨gift, requested, giftCoupon_eq_some issued⟩

theorem Consistent.answer_inj (consistent : Consistent users gifts)
    {left right : CouponAnswer (Option (Form × Nat))} (leftMember : left ∈ gifts.database.answers)
    (rightMember : right ∈ gifts.database.answers) (leftGift : left.write.request = .giftCoupon)
    (rightGift : right.write.request = .giftCoupon)
    (same : left.write.coupon.id = right.write.coupon.id) : left = right := by
  have answers : (gifts.database.answers.map CouponAnswer.toCouponCall).Pairwise Apart :=
    (List.pairwise_append.mp consistent.apart).2.1
  have symm : Std.Symm fun left right : CouponAnswer (Option (Form × Nat)) =>
      Apart left.toCouponCall right.toCouponCall := ⟨fun _ _ => Apart.symm⟩
  by_contra differ
  have apart := (List.pairwise_map.mp answers).forall leftMember rightMember differ
  exact apart leftGift rightGift same

theorem Consistent.request_inj (consistent : Consistent users gifts) {left right : Form × Nat}
    {leftGift rightGift : Who × Coupon} (leftRequest : gifts.request left = some leftGift)
    (rightRequest : gifts.request right = some rightGift)
    (same : leftGift.2.id = rightGift.2.id) : left = right := by
  obtain ⟨leftCall, leftMember, leftCalled⟩ := consistent.issued left leftGift leftRequest
  obtain ⟨rightCall, rightMember, rightCalled⟩ := consistent.issued right rightGift rightRequest
  obtain ⟨gift, found, issued⟩ := consistent.asked leftCall leftMember left leftCalled
  obtain ⟨other, found', issued'⟩ := consistent.asked rightCall rightMember right rightCalled
  cases leftRequest.symm.trans found
  cases rightRequest.symm.trans found'
  obtain ⟨request, -, coupon⟩ := giftCoupon_eq_some issued
  obtain ⟨request', -, coupon'⟩ := giftCoupon_eq_some issued'
  have calls_eq : leftCall = rightCall := by
    by_contra differ
    have apart := consistent.apart.forall leftMember rightMember differ
    exact apart request request' (by rw [coupon, coupon', same])
  rw [calls_eq, rightCalled] at leftCalled
  exact (Option.some.inj leftCalled).symm

theorem Consistent.read_cases (consistent : Consistent users gifts) {who : Who}
    {coupons : List Coupon} (reads : Reads gifts.database.store who coupons) {listed : Coupon}
    (member : listed ∈ coupons) :
    ∃ answer ∈ gifts.database.answers, answer.success = true ∧
      ∃ caller coupon, answer.caller = some caller ∧ gifts.request caller = some (who, coupon) ∧
        answer.write.request = .giftCoupon ∧ answer.write.coupon = coupon ∧
          coupon.Advances listed := by
  have entry := (consistent.database.listed reads).2.mem_iff.mp member
  obtain ⟨write, applied, gift, own, flag, read⟩ := exists_gift_of_mem_ledger entry
  obtain ⟨answer, answered, success, rfl⟩ := CouponDatabase.mem_applied_iff.mp applied
  have called : answer.toCouponCall ∈ gifts.database.calls :=
    List.mem_append_right _ (List.mem_map_of_mem answered)
  obtain ⟨caller, named⟩ := consistent.named _ called gift
  obtain ⟨⟨user, coupon⟩, requested, -, who_eq, coupon_eq⟩ :=
    consistent.answer_cases answered named
  have user_eq : user = who := who_eq.symm.trans own
  subst user_eq
  refine ⟨answer, answered, success, caller, coupon, named, requested, gift, coupon_eq, ?_⟩
  rw [read, coupon_eq]
  exact Coupon.advances_redeemed (consistent.offered requested).unredeemed flag

theorem Consistent.truthful (consistent : Consistent users gifts) : Truthful users gifts where
  sent := by
    intro form number member
    obtain ⟨answer, answered, called, success⟩ := consistent.sent form number member
    obtain ⟨⟨whoToGift, coupon⟩, requested, gift, who_eq, coupon_eq⟩ :=
      consistent.answer_cases answered called
    have offered := consistent.offered requested
    refine ⟨whoToGift, coupon, requested, offered.other, ?_⟩
    intro coupons reads
    have applied : answer.write ∈ gifts.database.applied :=
      CouponDatabase.mem_applied_iff.mpr ⟨answer, answered, success, rfl⟩
    have unredeemed : answer.write.coupon.redeemed = some false :=
      coupon_eq ▸ offered.unredeemed
    obtain ⟨listed, entry, advances⟩ := exists_mem_ledger applied gift unredeemed
    rw [who_eq] at entry
    rw [coupon_eq] at advances
    exact ⟨listed, (consistent.database.listed reads).2.mem_iff.mpr entry, advances⟩
  failed := by
    intro form number member
    obtain ⟨answer, answered, called, failure⟩ := consistent.refused form number member
    obtain ⟨⟨whoToGift, coupon⟩, requested, gift, -, coupon_eq⟩ :=
      consistent.answer_cases answered called
    refine ⟨whoToGift, coupon, requested, ?_⟩
    intro coupons reads listed_id
    obtain ⟨listed, listed_member, id_eq⟩ := List.mem_map.mp listed_id
    obtain ⟨other, other_answered, success, caller, asked, -, -, other_gift, other_coupon,
      advances⟩ := consistent.read_cases reads listed_member
    have same_id : other.write.coupon.id = answer.write.coupon.id := by
      rw [other_coupon, coupon_eq, ← advances.id_eq, id_eq]
    have same := consistent.answer_inj other_answered answered other_gift gift same_id
    rw [same, failure] at success
    cases success
  once form := (consistent.forms form).once
  reported := by
    intro form alive number bound
    constructor
    · intro member
      exact ((consistent.forms form).closed number member).2
    · intro answered
      exact (consistent.forms form).reported alive number bound answered
  asked := by
    intro who coupons reads listed member
    obtain ⟨-, -, -, caller, coupon, -, requested, -, -, advances⟩ :=
      consistent.read_cases reads member
    have other := (consistent.offered requested).other
    refine ⟨caller, ⟨coupon, requested, other.symm, advances⟩, ?_⟩
    rintro caller' ⟨coupon', requested', -, advances'⟩
    exact consistent.request_inj requested' requested
      (advances'.id_eq.symm.trans advances.id_eq)

variable [DecidableEq Form]

theorem run_consistent {start : Store}
    (empty : ∀ who, start.documents (couponCollection who) = []) {events : List (Event Form)}
    (ids : ∀ event ∈ events, event.Ids IsDocumentId)
    (execution : machine.run events (opened users start) = some gifts) :
    Consistent users gifts :=
  Machine.run_guarded (Consistent users) (fun kept single step => kept.next single step)
    (.opened users empty) (.of_forall ids _) execution

/-- In every run of any forms over empty coupon collections, next to redeems of coupons whose ids
are document ids, the reports of gifts agree with what the users read. -/
theorem run_truthful {start : Store} (empty : ∀ who, start.documents (couponCollection who) = [])
    {events : List (Event Form)} (ids : ∀ event ∈ events, event.Ids IsDocumentId)
    (execution : machine.run events (opened users start) = some gifts) :
    Truthful users gifts :=
  (run_consistent empty ids execution).truthful

/-- Antonio gifts a coupon, whose first request is refused, and Lauren redeems it. -/
def giftedAtLast : List (Event Who) :=
  [.form .antonio (.submitTapped (some "Massage") (some "One hour") "A"),
    .form .antonio (.spinnerAdded 0), .rejectWrite 0 { code := 7 },
    .form .antonio (.giftCouponCompleted 0 false), .form .antonio (.spinnerRemoved 0),
    .form .antonio (.submitTapped (some "Massage") (some "One hour") "B"),
    .form .antonio (.spinnerAdded 1), .applyWrite 0,
    .form .antonio (.giftCouponCompleted 1 true),
    .redeemCoupon .lauren { CouponDatabase.massage with id := "B" }, .applyWrite 0]

theorem giftedAtLast_truthful :
    ∃ gifts, machine.run giftedAtLast (opened id ∅) = some gifts ∧ Truthful id gifts := by
  have single : IsDocumentId "B" := by decide
  have ids : ∀ event ∈ giftedAtLast, event.Ids IsDocumentId := by
    simp [giftedAtLast, Event.Ids, single]
  have runs : ∃ gifts, machine.run giftedAtLast (opened id ∅) = some gifts := ⟨_, rfl⟩
  obtain ⟨gifts, execution⟩ := runs
  exact ⟨gifts, execution, run_truthful (fun _ => rfl) ids execution⟩

theorem next_forms {event : Event Form} (step : machine.next gifts event = some after)
    (form : Form) :
    after.forms form = gifts.forms form ∨ ∃ formEvent, event = .form form formEvent ∧
      GiftCouponViewController.machine.next (gifts.forms form) formEvent =
        some (after.forms form) := by
  cases event with
  | form other formEvent =>
      obtain ⟨moved, moves, step⟩ := Option.bind_eq_some_iff.mp step
      have forms : after.forms = (gifts.showing other moved).forms := by
        cases formEvent with
        | submitTapped titleText descriptionText uuidString =>
            obtain ⟨database, -, rfl⟩ := Option.map_eq_some_iff.mp step
            rfl
        | giftCouponCompleted number success =>
            obtain ⟨-, same⟩ := Option.ite_none_right_eq_some.mp step
            cases same
            rfl
        | spinnerAdded number =>
            cases step
            rfl
        | spinnerRemoved number =>
            cases step
            rfl
        | release =>
            cases step
            rfl
      rw [forms]
      by_cases same : form = other
      · subst same
        right
        exact ⟨formEvent, rfl, by rw [showing_forms_self, moves]⟩
      · exact .inl (showing_forms_of_ne same)
  | redeemCoupon who coupon =>
      cases step
      exact .inl rfl
  | applyWrite index =>
      obtain ⟨database, -, rfl⟩ := Option.map_eq_some_iff.mp step
      exact .inl rfl
  | rejectWrite index error =>
      obtain ⟨database, -, rfl⟩ := Option.map_eq_some_iff.mp step
      exact .inl rfl

/-- A form is tapped when no spinner of its is still to be put up, and not once it has dismissed
itself. -/
def OneByOne (form : Form) (gifts : GiftForms Form) : Event Form → Prop
  | .form other event => other = form → (gifts.forms form).OneByOne event
  | _ => True

/-- Some user can read the coupon. -/
def CanRead (gifts : GiftForms Form) (gift : Who × Coupon) : Prop :=
  ∃ coupons, Reads gifts.database.store gift.1 coupons ∧ gift.2.id ∈ coupons.map Coupon.id

/-- A form whose spinners come up before the next tap gives at most one coupon that can be read,
however many of its requests fail and whatever happens on other forms. -/
theorem run_oneGift {start : Store} (empty : ∀ who, start.documents (couponCollection who) = [])
    {events : List (Event Form)} (ids : ∀ event ∈ events, event.Ids IsDocumentId) {form : Form}
    (oneByOne : machine.Respects (OneByOne form) events (opened users start))
    (execution : machine.run events (opened users start) = some gifts)
    {left right : Nat} {leftGift rightGift : Who × Coupon}
    (leftRequest : gifts.request (form, left) = some leftGift)
    (rightRequest : gifts.request (form, right) = some rightGift)
    (leftRead : gifts.CanRead leftGift) (rightRead : gifts.CanRead rightGift) : left = right := by
  have consistent := run_consistent empty ids execution
  have holds : (gifts.forms form).Consistent (users form) ∧ (gifts.forms form).OnlyLastOpen := by
    refine Machine.run_guarded
      (fun gifts => (gifts.forms form).Consistent (users form) ∧
        (gifts.forms form).OnlyLastOpen) ?_
      ⟨.presented (users form), fun number bound => absurd bound (Nat.not_lt_zero _)⟩
      oneByOne execution
    intro before event after kept guarded step
    rcases next_forms step form with same | ⟨formEvent, rfl, moves⟩
    · rw [same]
      exact kept
    · exact ⟨kept.1.next moves, kept.2.change kept.1 (guarded rfl)
        (GiftCouponViewController.next_change moves)⟩
  have last : ∀ {number gift}, gifts.request (form, number) = some gift → gifts.CanRead gift →
      number + 1 = (gifts.forms form).requests.calls.length := by
    rintro number gift requested ⟨coupons, reads, listed⟩
    have bound : number < (gifts.forms form).requests.calls.length :=
      (List.getElem?_eq_some_iff.mp requested).1
    by_contra earlier
    have failed := holds.2 number (by omega)
    obtain ⟨whoToGift, coupon, requested', absent⟩ :=
      consistent.truthful.failed form number failed
    cases requested.symm.trans requested'
    exact absent coupons reads listed
  have leftLast := last leftRequest leftRead
  have rightLast := last rightRequest rightRead
  omega

/-- Lauren taps submit twice on a form of hers before its spinner is put up. -/
def giftedBeside : List (Event Who) :=
  giftedAtLast ++
    [.form .lauren (.submitTapped (some "Dinner") (some "At eight") "C"),
      .form .lauren (.submitTapped (some "Dinner") (some "At eight") "D")]

theorem giftedBeside_oneGift :
    ∃ gifts, machine.run giftedBeside (opened id ∅) = some gifts ∧
      ∀ number gift, gifts.request (.antonio, number) = some gift → gifts.CanRead gift →
        number = 1 := by
  have single : IsDocumentId "B" := by decide
  have ids : ∀ event ∈ giftedBeside, event.Ids IsDocumentId := by
    simp [giftedBeside, giftedAtLast, Event.Ids, single]
  have oneByOne : machine.Respects (OneByOne .antonio) giftedBeside (opened id ∅) :=
    .cons rfl (fun _ => ⟨rfl, rfl⟩) <| .cons rfl (fun _ => True.intro) <| .cons rfl True.intro <|
      .cons rfl (fun _ => True.intro) <| .cons rfl (fun _ => True.intro) <|
      .cons rfl (fun _ => ⟨rfl, rfl⟩) <| .cons rfl (fun _ => True.intro) <|
      .cons rfl True.intro <| .cons rfl (fun _ => True.intro) <| .cons rfl True.intro <|
      .cons rfl True.intro <| .cons rfl (fun same => absurd same (by decide)) <|
      .cons rfl (fun same => absurd same (by decide)) True.intro
  have runs : ∃ gifts, machine.run giftedBeside (opened id ∅) = some gifts ∧
      gifts.request (.antonio, 1) = some (.lauren, { CouponDatabase.massage with id := "B" }) ∧
      1 ∈ (gifts.forms .antonio).gifted := ⟨_, rfl, rfl, List.mem_singleton_self 1⟩
  obtain ⟨gifts, execution, requested, sent⟩ := runs
  have consistent := run_consistent (fun _ => rfl) ids execution
  obtain ⟨whoToGift, coupon, requested', -, told⟩ := consistent.truthful.sent .antonio 1 sent
  cases requested.symm.trans requested'
  obtain ⟨coupons, answered⟩ := consistent.database.readable .lauren _ (List.Perm.refl _)
  have reads : Reads gifts.database.store .lauren coupons := ⟨_, List.Perm.refl _, answered⟩
  obtain ⟨listed, member, advances⟩ := told coupons reads
  have read : gifts.CanRead (.lauren, { CouponDatabase.massage with id := "B" }) :=
    ⟨coupons, reads, List.mem_map.mpr ⟨listed, member, advances.id_eq⟩⟩
  refine ⟨gifts, execution, ?_⟩
  intro number gift asked canRead
  exact run_oneGift (fun _ => rfl) ids oneByOne execution asked requested canRead read

end GiftForms

end Celeste
