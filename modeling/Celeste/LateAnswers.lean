import Celeste.OurCalendar
import Celeste.CouponsScreen
import Celeste.Library.Replies

/-!
# Late answers

The two screens that fetch a list, next to the collection they fetch from.  Neither numbers its
fetches, so each shows the success delivered last, and an answer that was overtaken replaces the
newer list.  Every list shown was read at a moment after its own fetch was issued.
-/

namespace Celeste

/-! ## The calendar screen as a fetcher -/

namespace OurCalendarViewController

variable {Date : Type}

/-- The fetch an event answers, and its list unless it failed. -/
def Event.delivery : Event Date → Option (Nat × Option (List CalendarEvent))
  | .getCalendarEventsCompleted number (.success calendarEvents) =>
      some (number, some calendarEvents)
  | .getCalendarEventsCompleted number (.failure _) => some (number, none)
  | _ => none

variable {dateFormatter : Date → String} {screen after : OurCalendarViewController Date}
  {event : Event Date}

theorem Event.delivery_eq_success_iff {number : Nat} {calendarEvents : List CalendarEvent} :
    event.delivery = some (number, some calendarEvents) ↔
      event = .getCalendarEventsCompleted number (.success calendarEvents) := by
  cases event with
  | getCalendarEventsCompleted call result => cases result <;> simp [Event.delivery]
  | _ => simp [Event.delivery]

theorem Event.reply_of_delivery {number : Nat} {result : Option (List CalendarEvent)}
    (delivered : event.delivery = some (number, result)) : event.reply = some number := by
  cases event with
  | getCalendarEventsCompleted call answer =>
      cases answer <;> simp_all [Event.delivery, Event.reply]
  | _ => simp [Event.delivery] at delivered

/-- The list on display changes only by a successful fetch, and then to its list. -/
theorem Change.calendarData (change : Change dateFormatter screen event after) :
    after.calendarData = (event.delivery.bind Prod.snd).getD screen.calendarData := by
  have unchanged : (∀ number calendarEvents,
      event ≠ .getCalendarEventsCompleted number (.success calendarEvents)) →
        event.delivery.bind Prod.snd = none := by
    intro unfetched
    rw [Option.bind_eq_none_iff]
    intro delivery delivered
    obtain ⟨number, result⟩ := delivery
    cases result with
    | none => rfl
    | some calendarEvents =>
        exact absurd (Event.delivery_eq_success_iff.mp delivered) (unfetched number calendarEvents)
  cases change with
  | selected unasked unconfirmed selectedDates =>
      rw [unchanged]
      · rfl
      · intro number calendarEvents same
        simp [same, Event.reply] at unasked
  | fetched unanswered calendarEvents => rfl
  | quiet same rows sheets removals requests unconfirmed unfetched =>
      rw [unchanged unfetched]
      exact same.calendarData
  | dequeued found => exact (sameData_cellForRowAt _ _ _).calendarData
  | tapped found => exact (sameData_moreTapped _ _).calendarData
  | deleted found unanswered => rfl
  | dismissed found unanswered => rfl

theorem delivery_iff [DecidableEq Date] {number : Nat} {call : ServiceCall}
    (step : (machine dateFormatter).next screen event = some after)
    (replied : event.reply = some number)
    (found : screen.requests.calls[number]? = some call) :
    call = .getCalendarEvents ↔ ∃ result, event.delivery = some (number, result) := by
  cases event with
  | getCalendarEventsCompleted answered result =>
      cases replied
      simp only [machine] at step
      split at step
      · next open_call =>
          have fetch : call = .getCalendarEvents := Option.some.inj (found.symm.trans open_call.2)
          cases result <;> simp [fetch, Event.delivery]
      · cases step
  | removeCalendarEventAnswered answered error =>
      cases replied
      simp only [machine] at step
      split at step
      · next open_call =>
          rw [found] at open_call
          cases call with
          | getCalendarEvents => simp [ServiceCall.removal] at open_call
          | removeCalendarEvent calendarEvent => simp [Event.delivery]
      · cases step
  | _ => cases replied

/-- The calendar screen as a client that keeps fetched events. -/
def fetcher [DecidableEq Date] (dateFormatter : Date → String) :
    Fetcher (OurCalendarViewController Date) (Event Date) ServiceCall (List CalendarEvent) where
  machine := machine dateFormatter
  requests := OurCalendarViewController.requests
  value := OurCalendarViewController.calendarData
  reply := Event.reply
  delivery := Event.delivery
  IsFetch call := call = .getCalendarEvents
  step step := (next_change step).requests
  value_next step := (next_change step).calendarData
  reply_of_delivery := Event.reply_of_delivery
  delivery_iff := delivery_iff

end OurCalendarViewController

/-! ## The coupons screen as a fetcher -/

namespace CouponsViewController

/-- The fetch an event answers, and its list unless it failed. -/
def Event.delivery : Event → Option (Nat × Option (List Coupon))
  | .getCouponsCompleted number (.success coupons) => some (number, some coupons)
  | .getCouponsCompleted number (.failure _) => some (number, none)
  | _ => none

variable {screen after : CouponsViewController} {event : Event}

theorem Event.delivery_eq_success_iff {number : Nat} {coupons : List Coupon} :
    event.delivery = some (number, some coupons) ↔
      event = .getCouponsCompleted number (.success coupons) := by
  cases event with
  | getCouponsCompleted call result => cases result <;> simp [Event.delivery]
  | _ => simp [Event.delivery]

theorem Event.reply_of_delivery {number : Nat} {result : Option (List Coupon)}
    (delivered : event.delivery = some (number, result)) : event.reply = some number := by
  cases event with
  | getCouponsCompleted call answer => cases answer <;> simp_all [Event.delivery, Event.reply]
  | _ => simp [Event.delivery] at delivered

/-- The list on display changes only by a successful fetch, and then to its list. -/
theorem Change.coupons (change : Change screen event after) :
    after.coupons = (event.delivery.bind Prod.snd).getD screen.coupons := by
  cases change with
  | fetched unanswered coupons => rfl
  | quiet who coupons items redemptions requests fetches covered spinners untapped unfetched =>
      have unchanged : event.delivery.bind Prod.snd = none := by
        rw [Option.bind_eq_none_iff]
        intro delivery delivered
        obtain ⟨number, result⟩ := delivery
        cases result with
        | none => rfl
        | some coupons =>
            exact absurd (Event.delivery_eq_success_iff.mp delivered) (unfetched number coupons)
      rw [unchanged]
      exact coupons
  | @dequeued index cell coupon found =>
      obtain ⟨items, laid_out⟩ := cellForItemAt_eq screen coupon cell
      rw [laid_out]
      rfl
  | tapped found enabled =>
      unfold redeemTapped
      split <;> rfl

theorem delivery_iff {number : Nat} {call : ServiceCall}
    (step : machine.next screen event = some after) (replied : event.reply = some number)
    (found : screen.requests.calls[number]? = some call) :
    call.redemption = none ↔ ∃ result, event.delivery = some (number, result) := by
  cases event with
  | getCouponsCompleted answered result =>
      cases replied
      simp only [machine] at step
      split at step
      · next open_call =>
          rw [found, Option.bind_some] at open_call
          cases result <;> simp [open_call, Event.delivery]
      · cases step
  | redeemCouponCompleted answered success =>
      cases replied
      obtain ⟨redemption, redeems, _⟩ := Option.bind_eq_some_iff.mp step
      rw [found, Option.bind_some] at redeems
      simp [redeems, Event.delivery]
  | _ => cases replied

/-- The coupons screen as a client that keeps fetched coupons. -/
def fetcher : Fetcher CouponsViewController Event ServiceCall (List Coupon) where
  machine := machine
  requests := CouponsViewController.requests
  value := CouponsViewController.coupons
  reply := Event.reply
  delivery := Event.delivery
  IsFetch call := call.redemption = none
  step step := (next_change step).requests
  value_next step := (next_change step).coupons
  reply_of_delivery := Event.reply_of_delivery
  delivery_iff := delivery_iff

end CouponsViewController

/-! ## What a listed document cannot be -/

section Documents

variable {key : DocumentKey}

/-- Among the first writes of a log a removal of the document was applied, and nothing in the log
posted it again. -/
def RemovedBy (key : DocumentKey) (log : List CalendarWrite) (issued : Nat) : Prop :=
  ∃ front back, log = front ++ .delete key :: back ∧ front.length < issued ∧
    ∀ write ∈ back, write.key = key → write = .delete key

/-- Among the first writes of a log a redeem of the document was applied, and nothing in the log
gifted it again. -/
def RedeemedBy (key : DocumentKey) (log : List CouponWrite) (issued : Nat) : Prop :=
  ∃ front write back, log = front ++ write :: back ∧ front.length < issued ∧
    write.request = .redeemCoupon ∧ write.key = key ∧
      ∀ later ∈ back, later.key = key → later.request = .redeemCoupon

/-- The Calendar documents after a log of writes. -/
def calendarStore (start : Store) (log : List CalendarWrite) : Store :=
  log.foldl CalendarWrite.perform start

/-- The coupon documents after a log of writes; a redeem of a missing one does nothing. -/
def couponStore (start : Store) (log : List CouponWrite) : Store :=
  log.foldl (fun store write => (write.perform store).getD store) start

theorem lookup_of_removedBy {log : List CalendarWrite} {issued : Nat} (start : Store)
    (removed : RemovedBy key log issued) : (calendarStore start log).lookup key = none := by
  obtain ⟨front, back, rfl, -, kept⟩ := removed
  have replayed := congrFun
    (CalendarWrite.lookup_foldl_perform start (front ++ .delete key :: back)) key
  rw [calendarStore, replayed]
  refine CellWrites.replay_established (· = none) (fun _ => rfl) ?_
  intro later member same cell _
  rw [kept later member same]
  rfl

theorem redeemed_of_decode_insert {data : Fields} {coupon : Coupon}
    (decoded : Coupon.decode (data.insert "redeemed" (.boolean true)) = .ok coupon) :
    coupon.redeemed = some true := by
  have holds := (Coupon.decode_eq_ok_iff.mp decoded).2.2.2
  cases redeemed : coupon.redeemed with
  | none => simp [redeemed, Fields.HoldsOptional] at holds
  | some flag => simpa [redeemed, Fields.HoldsOptional, eq_comm] using holds

theorem redeemed_of_redeemedBy {log : List CouponWrite} {issued : Nat} (start : Store)
    (redeemed : RedeemedBy key log issued) {data : Fields}
    (found : (couponStore start log).lookup key = some data) {coupon : Coupon}
    (decoded : Coupon.decode data = .ok coupon) : coupon.redeemed = some true := by
  obtain ⟨front, write, back, rfl, -, redeem, rfl, kept⟩ := redeemed
  have replayed := congrFun
    (CouponWrite.lookup_foldl_perform start (front ++ write :: back)) write.key
  rw [couponStore, replayed] at found
  have marks : ∀ {other : CouponWrite}, other.request = .redeemCoupon → ∀ cell,
      ∀ data ∈ CouponWrite.cells.effect other cell,
        ∀ coupon, Coupon.decode data = .ok coupon → coupon.redeemed = some true := by
    intro other redeem cell data member coupon decoded
    simp only [CouponWrite.cells, redeem, Option.mem_map] at member
    obtain ⟨earlier, _, rfl⟩ := member
    exact redeemed_of_decode_insert decoded
  refine CellWrites.replay_established
    (fun cell => ∀ data ∈ cell, ∀ coupon, Coupon.decode data = .ok coupon →
      coupon.redeemed = some true) (marks redeem) ?_ data found coupon decoded
  intro later member same cell _
  exact marks (kept later member same) cell

end Documents

/-! ## Sessions -/

open Fetcher

/-- `getCalendarEvents` can answer the collection after a log with these events. -/
def CalendarReads (start : Store) (log : List CalendarWrite) (events : List CalendarEvent) : Prop :=
  CalendarDatabase.Lists (calendarStore start log) events

/-- `getCoupons` can answer the user's collection after a log with these coupons. -/
def CouponReads (who : Who) (start : Store) (log : List CouponWrite) (coupons : List Coupon) :
    Prop :=
  CouponDatabase.Reads (couponStore start log) who coupons

/-- A run of the calendar screen next to the Calendar collection, every answer a reading of it. -/
structure CalendarSession {Date : Type} [DecidableEq Date] (dateFormatter : Date → String)
    (start : Store)
    (events : List (SessionEvent (OurCalendarViewController.Event Date) CalendarWrite))
    (session : Session (OurCalendarViewController Date) CalendarWrite) : Prop where
  run : (OurCalendarViewController.fetcher dateFormatter).session.run events
    ((OurCalendarViewController.fetcher dateFormatter).start .loaded) = some session
  reads : (OurCalendarViewController.fetcher dateFormatter).session.Respects
    ((OurCalendarViewController.fetcher dateFormatter).Reads (CalendarReads start)) events
    ((OurCalendarViewController.fetcher dateFormatter).start .loaded)

/-- A run of the coupons screen next to its user's coupons, every answer a reading of them. -/
structure CouponSession (who : Who) (start : Store)
    (events : List (SessionEvent CouponsViewController.Event CouponWrite))
    (session : Session CouponsViewController CouponWrite) : Prop where
  run : CouponsViewController.fetcher.session.run events
    (CouponsViewController.fetcher.start (.loaded who)) = some session
  reads : CouponsViewController.fetcher.session.Respects
    (CouponsViewController.fetcher.Reads (CouponReads who start)) events
    (CouponsViewController.fetcher.start (.loaded who))

section Sessions

variable {Date : Type} [DecidableEq Date] {dateFormatter : Date → String} {start : Store}

theorem CalendarSession.showsLast
    {events : List (SessionEvent (OurCalendarViewController.Event Date) CalendarWrite)}
    {session : Session (OurCalendarViewController Date) CalendarWrite}
    (calendar : CalendarSession dateFormatter start events session) :
    ShowsLast (OurCalendarViewController.fetcher dateFormatter) (CalendarReads start) [] events
      session :=
  (run_recorded rfl calendar.reads calendar.run).showsLast

theorem CouponSession.showsLast {who : Who}
    {events : List (SessionEvent CouponsViewController.Event CouponWrite)}
    {session : Session CouponsViewController CouponWrite}
    (coupon : CouponSession who start events session) :
    ShowsLast CouponsViewController.fetcher (CouponReads who start)
      [CouponsViewController.placeholder] events session :=
  (run_recorded rfl coupon.reads coupon.run).showsLast

end Sessions

/-- Both screens show their first list until a fetch succeeds and then the success delivered last,
which is the newest one exactly when it was not overtaken.  Each element shown was read from a
document after the fetch was issued: no event removed before and not posted again until the reading,
and a coupon redeemed before and not gifted again until the reading as redeemed. -/
theorem shows_last_success :
    (∀ (Date : Type) [DecidableEq Date] (dateFormatter : Date → String) (start : Store) events
      session, CalendarSession dateFormatter start events session →
        ShowsLast (OurCalendarViewController.fetcher dateFormatter) (CalendarReads start) [] events
          session ∧
        ∀ number issued moment,
          Shows (OurCalendarViewController.fetcher dateFormatter) (CalendarReads start) events
            session number issued moment →
          ∀ event ∈ session.client.calendarData, ∃ id data,
            (calendarStore start (session.log.take moment)).lookup (calendarCollection.key id) =
              some data ∧
            CalendarEvent.decode data = .ok event ∧
            ¬ RemovedBy (calendarCollection.key id) (session.log.take moment) issued) ∧
    (∀ (who : Who) (start : Store) events session, CouponSession who start events session →
        ShowsLast CouponsViewController.fetcher (CouponReads who start)
          [CouponsViewController.placeholder] events session ∧
        ∀ number issued moment,
          Shows CouponsViewController.fetcher (CouponReads who start) events session number issued
            moment →
          ∀ coupon ∈ session.client.coupons, ∃ id data,
            (couponStore start (session.log.take moment)).lookup ((couponCollection who).key id) =
              some data ∧
            Coupon.decode data = .ok coupon ∧
            (RedeemedBy ((couponCollection who).key id) (session.log.take moment) issued →
              coupon.redeemed = some true)) := by
  constructor
  · intro Date _ dateFormatter start events session calendar
    refine ⟨calendar.showsLast, ?_⟩
    intro number issued moment shows event member
    obtain ⟨id, data, stored, decoded⟩ := (Store.Answers.mem_iff shows.read).mp member
    refine ⟨id, data, stored, decoded, ?_⟩
    intro removed
    rw [lookup_of_removedBy start removed] at stored
    cases stored
  · intro who start events session coupon
    refine ⟨coupon.showsLast, ?_⟩
    intro number issued moment shows element member
    obtain ⟨id, data, stored, decoded⟩ := (Store.Answers.mem_iff shows.read).mp member
    refine ⟨id, data, stored, decoded, ?_⟩
    intro redeemed
    exact redeemed_of_redeemedBy start redeemed stored decoded

/-! ## An answer that was overtaken -/

section Overtaken

open CalendarDatabase OurCalendarViewController

/-- The Calendar collection with one event. -/
def picnicStored : Store :=
  Store.setData ∅ (calendarCollection.key picnic.id) picnic.encode

theorem calendarReads_picnicStored : CalendarReads picnicStored [] [picnic.stored] := by
  refine ⟨_, List.Perm.refl _, handleDocuments_of_decodes ?_⟩
  have documents : (calendarStore picnicStored []).documents calendarCollection =
      [⟨calendarCollection.key picnic.id, picnic.encode⟩] := rfl
  rw [documents]
  simp

theorem calendarReads_removed :
    CalendarReads picnicStored [.delete (calendarCollection.key picnic.id)] [] :=
  ⟨_, List.Perm.refl _, handleDocuments_of_decodes rfl⟩

/-- The event is removed before the second fetch is issued, whose answer overtakes the first. -/
def overtaken : List (SessionEvent (OurCalendarViewController.Event Unit) CalendarWrite) :=
  [.write (.delete (calendarCollection.key picnic.id)), .client .successfullyAdded,
    .client (.getCalendarEventsCompleted 1 (.success [])),
    .client (.getCalendarEventsCompleted 0 (.success [picnic.stored]))]

theorem overtaken_reads : (fetcher picnicDay).session.Respects
    ((fetcher picnicDay).Reads (CalendarReads picnicStored)) overtaken
    ((fetcher picnicDay).start .loaded) := by
  refine .cons rfl (.of_undelivered ?_) (.cons rfl (.of_undelivered ?_)
    (.cons rfl (.of_delivery rfl ?_) (.cons rfl (.of_delivery rfl ?_) True.intro)))
  · intro event same
    cases same
  · intro event same
    cases same
    rfl
  · exact ⟨1, rfl, 1, Nat.le_refl 1, Nat.le_refl 1, calendarReads_removed⟩
  · exact ⟨0, rfl, 0, Nat.le_refl 0, Nat.zero_le 1, calendarReads_picnicStored⟩

/-- The massage coupon of Lauren, stored and unredeemed. -/
def massageStored : Store :=
  Store.setData ∅ ((couponCollection .lauren).key CouponDatabase.massage.id)
    CouponDatabase.massage.encode

/-- A redeem of the massage coupon. -/
def massageRedeem : CouponWrite where
  request := .redeemCoupon
  who := .lauren
  coupon := CouponDatabase.massage
  key := (couponCollection .lauren).key CouponDatabase.massage.id

/-- The massage coupon as it is read once redeemed. -/
def massageRedeemed : Coupon :=
  { CouponDatabase.massage with redeemed := some true }

/-- Two redeems of one coupon are answered before either of the fetches that follow, and the second
of these is answered first. -/
def redeemedTwice : List (SessionEvent CouponsViewController.Event CouponWrite) :=
  [.client (.getCouponsCompleted 0 (.success [CouponDatabase.massage])),
    .client (.cellForItemAt 0 0), .client (.redeemTapped 0), .client (.redeemTapped 0),
    .write massageRedeem, .client (.redeemCouponCompleted 1 true), .write massageRedeem,
    .client (.redeemCouponCompleted 2 true),
    .client (.getCouponsCompleted 4 (.success [massageRedeemed])),
    .client (.getCouponsCompleted 3 (.success [massageRedeemed]))]

theorem redeemedTwice_reads : CouponsViewController.fetcher.session.Respects
    (CouponsViewController.fetcher.Reads (CouponReads .lauren massageStored)) redeemedTwice
    (CouponsViewController.fetcher.start (.loaded .lauren)) := by
  refine .cons rfl (.of_delivery rfl ?_) (.cons rfl (.of_undelivered ?_)
    (.cons rfl (.of_undelivered ?_) (.cons rfl (.of_undelivered ?_)
      (.cons rfl (.of_undelivered ?_) (.cons rfl (.of_undelivered ?_)
        (.cons rfl (.of_undelivered ?_) (.cons rfl (.of_undelivered ?_)
          (.cons rfl (.of_delivery rfl ?_) (.cons rfl (.of_delivery rfl ?_) True.intro)))))))))
  · exact ⟨0, rfl, 0, Nat.le_refl 0, Nat.le_refl 0, _, List.Perm.refl _, rfl⟩
  case refine_9 => exact ⟨2, rfl, 2, Nat.le_refl 2, Nat.le_refl 2, _, List.Perm.refl _, rfl⟩
  case refine_10 => exact ⟨1, rfl, 1, Nat.le_refl 1, Nat.le_succ 1, _, List.Perm.refl _, rfl⟩
  all_goals
    intro event same
    cases same
  all_goals rfl

/-- Answers overtake each other on both screens, which show those delivered last. -/
theorem overtaken_showsLast :
    ∃ calendar coupons, CalendarSession picnicDay picnicStored overtaken calendar ∧
      calendar.client.calendarData = [picnic.stored] ∧
      ShowsLast (fetcher picnicDay) (CalendarReads picnicStored) [] overtaken calendar ∧
      CouponSession .lauren massageStored redeemedTwice coupons ∧
      coupons.client.coupons = [massageRedeemed] ∧
      ShowsLast CouponsViewController.fetcher (CouponReads .lauren massageStored)
        [CouponsViewController.placeholder] redeemedTwice coupons := by
  obtain ⟨calendar, fetched, listed⟩ : ∃ calendar,
      CalendarSession picnicDay picnicStored overtaken calendar ∧
        calendar.client.calendarData = [picnic.stored] := ⟨_, ⟨rfl, overtaken_reads⟩, rfl⟩
  obtain ⟨coupons, redeemed, shown⟩ : ∃ coupons,
      CouponSession .lauren massageStored redeemedTwice coupons ∧
        coupons.client.coupons = [massageRedeemed] := ⟨_, ⟨rfl, redeemedTwice_reads⟩, rfl⟩
  exact ⟨calendar, coupons, fetched, listed,
    (shows_last_success.1 Unit picnicDay picnicStored overtaken calendar fetched).1, redeemed,
    shown, (shows_last_success.2 .lauren massageStored redeemedTwice coupons redeemed).1⟩

/-- An event whose removal was applied before the last fetch was issued is back on display. -/
theorem overtaken_shows_removed :
    ¬ ∀ events session, CalendarSession picnicDay picnicStored events session →
      ¬ session.client.requests.Awaits (· = .getCalendarEvents) →
        ((fetcher picnicDay).successes events = [] ∧ session.client.calendarData = []) ∨
          ∃ number issued moment,
            Shows (fetcher picnicDay) (CalendarReads picnicStored) events session number issued
              moment ∧
            Newest (fetcher picnicDay) events session number := by
  intro newest
  have runs : ∃ session, (fetcher picnicDay).session.run overtaken
      ((fetcher picnicDay).start .loaded) = some session ∧
      session.client.requests.unanswered = [] ∧
      session.client.requests.calls = [.getCalendarEvents, .getCalendarEvents] :=
    ⟨_, rfl, rfl, rfl⟩
  obtain ⟨session, run, unanswered, calls⟩ := runs
  have settled : ¬ session.client.requests.Awaits (· = .getCalendarEvents) := by
    intro awaits
    obtain ⟨number, waiting, _⟩ := awaits
    rw [unanswered] at waiting
    cases waiting
  rcases newest overtaken session ⟨run, overtaken_reads⟩ settled with
    none_yet | ⟨number, _, _, shows, newest⟩
  · exact absurd none_yet.1 (by decide)
  · have last : (0, [picnic.stored]) = (number, session.client.calendarData) :=
      Option.some.inj shows.last
    have number_eq : 0 = number := congrArg Prod.fst last
    subst number_eq
    have second : session.client.requests.calls[1]? = some .getCalendarEvents := by
      rw [calls]
      rfl
    have failed := (newest 1 .getCalendarEvents Nat.zero_lt_one second rfl).1
    exact absurd failed (by decide)

end Overtaken

end Celeste
