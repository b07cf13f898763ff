import Celeste.CouponDatabase
import Celeste.Library.Requests

/-!
# The coupons screen

A carousel of reused cells over the fetched list, first filled with a placeholder.  A cell keeps
the coupon last applied to it, and its redeem button is enabled only where that coupon is known to
be unredeemed.
-/

namespace Celeste

/-! ## Carousel cells -/

/-- A carousel cell: its coupon, its closure, and what its labels and its button show. -/
structure CouponsCollectionCell where
  coupon : Option Coupon
  /-- The closure `actions` has been assigned. -/
  hasActions : Bool
  couponTitle : Option String
  couponDescription : Option String
  redeemEnabled : Bool
  redeemText : Option String
  deriving DecidableEq

namespace CouponsCollectionCell

/-- A cell just created; a new button is enabled. -/
def fresh : CouponsCollectionCell where
  coupon := none
  hasActions := false
  couponTitle := none
  couponDescription := none
  redeemEnabled := true
  redeemText := none

/-- `CouponsCollectionCell.apply(coupon:)`. -/
def apply (cell : CouponsCollectionCell) (coupon : Coupon) : CouponsCollectionCell :=
  let shown :=
    { cell with
      coupon := some coupon
      couponTitle := some coupon.title
      couponDescription := some coupon.description }
  match coupon.redeemed with
  | some redeemed =>
      let toggled := { shown with redeemEnabled := !redeemed }
      if redeemed then
        { toggled with redeemText := some "Redeemed" }
      else
        { toggled with redeemText := some "Redeem" }
  | none => { shown with redeemText := some "Loading...", redeemEnabled := false }

/-- `pagerView(_:cellForItemAt:)` on a dequeued cell. -/
def configured (cell : CouponsCollectionCell) (coupon : Coupon) : CouponsCollectionCell :=
  { cell.apply coupon with hasActions := true }

/-- The cell acts on a coupon, shows it, and lets it be redeemed only while unredeemed. -/
structure Holds (cell : CouponsCollectionCell) (coupon : Coupon) : Prop where
  applied : cell.coupon = some coupon
  actions : cell.hasActions = true
  title : cell.couponTitle = some coupon.title
  description : cell.couponDescription = some coupon.description
  enabled : cell.redeemEnabled = true ↔ coupon.redeemed = some false
  text : cell.redeemText =
    match coupon.redeemed with
    | none => some "Loading..."
    | some true => some "Redeemed"
    | some false => some "Redeem"

theorem holds_configured (cell : CouponsCollectionCell) (coupon : Coupon) :
    (cell.configured coupon).Holds coupon := by
  obtain ⟨id, title, description, redeemed⟩ := coupon
  cases redeemed with
  | none => exact ⟨rfl, rfl, rfl, rfl, by simp [configured, apply], rfl⟩
  | some redeemed =>
      cases redeemed with
      | true => exact ⟨rfl, rfl, rfl, rfl, by simp [configured, apply], rfl⟩
      | false => exact ⟨rfl, rfl, rfl, rfl, by simp [configured, apply], rfl⟩

end CouponsCollectionCell

/-! ## The screen -/

namespace CouponsViewController

/-- A call of the coupon service. -/
inductive ServiceCall
  | getCoupons (who : Who)
  | redeemCoupon (who : Who) (coupon : Coupon)
  deriving DecidableEq

/-- The user and the coupon a call redeems. -/
def ServiceCall.redemption : ServiceCall → Option (Who × Coupon)
  | .getCoupons _ => none
  | .redeemCoupon who coupon => some (who, coupon)

/-- Something the screen presented over itself. -/
inductive Presentation
  | alert (message title : String)
  | toast (title : String)
  | giftCoupon (who : Who)
  deriving DecidableEq

/-- A carousel cell, and the coupon last applied to it. -/
structure Item where
  coupon : Coupon
  cell : CouponsCollectionCell

/-- The coupon shown while the first fetch is under way. -/
def placeholder : Coupon where
  id := "123"
  title := "Fetching Coupons"
  description :=
    "Currently fetching your coupons from the server ;) " ++
      "Please give it a second to load in all your coupons"
  redeemed := none

end CouponsViewController

open CouponsViewController in
/-- The screen and its calls of the service; the spinners `displaySpinner` has yet to add and those
over the screen, each known by the call it waits for. -/
structure CouponsViewController where
  who : Who
  coupons : List Coupon
  items : List Item
  requests : Requests ServiceCall
  queued : List Nat
  spinners : List Nat
  presentations : List Presentation

namespace CouponsViewController

/-- What UIKit and the service report to the screen. -/
inductive Event
  | getCouponsCompleted (call : Nat) (result : Result (List Coupon))
  | redeemCouponCompleted (call : Nat) (success : Bool)
  | spinnerAdded (call : Nat)
  | spinnerElapsed (call : Nat)
  | giftButtonTapped
  | successfullyGifted
  | cellForItemAt (index cell : Nat)
  | redeemTapped (cell : Nat)

/-- The number of the call an event answers. -/
def Event.reply : Event → Option Nat
  | .getCouponsCompleted number _ | .redeemCouponCompleted number _ => some number
  | _ => none

/-- `displayAlert`, a toast, or another screen. -/
def present (screen : CouponsViewController) (presentation : Presentation) :
    CouponsViewController :=
  { screen with presentations := screen.presentations ++ [presentation] }

/-- Call the service; the answer comes later. -/
def call (screen : CouponsViewController) (serviceCall : ServiceCall) : CouponsViewController :=
  { screen with requests := screen.requests.issue serviceCall }

/-- The service answered a call. -/
def answered (screen : CouponsViewController) (number : Nat) : CouponsViewController :=
  { screen with requests := screen.requests.answer number }

/-- `fetchCoupons(who:)`. -/
def fetchCoupons (screen : CouponsViewController) (who : Who) : CouponsViewController :=
  screen.call (.getCoupons who)

/-- The block of `fetchCoupons`. -/
def fetched (screen : CouponsViewController) : Result (List Coupon) → CouponsViewController
  | .success coupons => { screen with coupons }
  | .failure _ =>
      screen.present
        (.alert "Something went wrong getting coupons from server, let anto know :( Sorry! 421"
          "Oops!")

/-- `redeemCoupon(who:coupon:)` up to its return; a block of the main queue adds the spinner. -/
def redeemCoupon (screen : CouponsViewController) (who : Who) (coupon : Coupon) :
    CouponsViewController :=
  { screen with queued := screen.queued ++ [screen.requests.calls.length] }.call
    (.redeemCoupon who coupon)

/-- The block of `redeemCoupon`, which captured the user; the spinner goes a second later. -/
def redeemed (screen : CouponsViewController) (who : Who) (success : Bool) :
    CouponsViewController :=
  if success then
    screen.fetchCoupons who
  else
    screen.present
      (.alert "Something went wrong redeeming this coupon, let anto know :(" "Oops!")

/-- `pagerView(_:cellForItemAt:)` for an item that dequeues a cell, new or reused. -/
def cellForItemAt (screen : CouponsViewController) (coupon : Coupon) (cell : Nat) :
    CouponsViewController :=
  match screen.items[cell]? with
  | some item =>
      { screen with items := screen.items.set cell { coupon, cell := item.cell.configured coupon } }
  | none =>
      { screen with
        items :=
          screen.items ++ [{ coupon, cell := CouponsCollectionCell.fresh.configured coupon }] }

/-- `redeemTapped` on a cell, through the closure `cellForItemAt` assigned. -/
def redeemTapped (screen : CouponsViewController) (cell : CouponsCollectionCell) :
    CouponsViewController :=
  match cell.hasActions, cell.coupon with
  | true, some coupon => screen.redeemCoupon screen.who coupon
  | _, _ => screen

/-- The screen after `viewDidLoad`. -/
def loaded (who : Who) : CouponsViewController :=
  fetchCoupons
    { who
      coupons := [placeholder]
      items := []
      requests := .empty
      queued := []
      spinners := []
      presentations := [] }
    who

/-- The transitions of the screen; a disabled button sends no tap. -/
def machine : Machine CouponsViewController Event where
  next screen
    | .getCouponsCompleted number result =>
        if number ∈ screen.requests.unanswered ∧
            ((screen.requests.calls[number]?).bind ServiceCall.redemption) = none then
          some ((screen.answered number).fetched result)
        else
          none
    | .redeemCouponCompleted number success =>
        ((screen.requests.calls[number]?).bind ServiceCall.redemption).bind fun redemption =>
          if number ∈ screen.requests.unanswered then
            some ((screen.answered number).redeemed redemption.1 success)
          else
            none
    | .spinnerAdded number =>
        if number ∈ screen.queued then
          some { screen with
            queued := screen.queued.erase number
            spinners := screen.spinners ++ [number] }
        else
          none
    | .spinnerElapsed number =>
        if number ∈ screen.spinners ∧ number ∉ screen.requests.unanswered then
          some { screen with spinners := screen.spinners.erase number }
        else
          none
    | .giftButtonTapped => some (screen.present (.giftCoupon screen.who))
    | .successfullyGifted => some (screen.present (.toast "Sent Over Coupon!"))
    | .cellForItemAt index cell =>
        (screen.coupons[index]?).map fun coupon => screen.cellForItemAt coupon cell
    | .redeemTapped cell =>
        (screen.items[cell]?).bind fun item =>
          if item.cell.redeemEnabled then some (screen.redeemTapped item.cell) else none

/-! ## What an event changes -/

variable {screen after : CouponsViewController} {event : Event}

/-- The redemptions the screen asked for, oldest first. -/
def redemptions (screen : CouponsViewController) : List (Who × Coupon) :=
  screen.requests.calls.filterMap ServiceCall.redemption

/-- Everything an event can do to the screen. -/
inductive Change (screen : CouponsViewController) : Event → CouponsViewController → Prop
  /-- A fetch succeeds. -/
  | fetched {number : Nat} (unanswered : number ∈ screen.requests.unanswered)
      (coupons : List Coupon) :
      Change screen (.getCouponsCompleted number (.success coupons))
        { screen.answered number with coupons }
  /-- The list and the cells stay, and nothing is redeemed. -/
  | quiet {event : Event} {after : CouponsViewController} (who : after.who = screen.who)
      (coupons : after.coupons = screen.coupons) (items : after.items = screen.items)
      (redemptions : after.redemptions = screen.redemptions)
      (requests : screen.requests.Step event.reply after.requests)
      (fetches : ∀ user, .getCoupons user ∈ after.requests.calls →
        .getCoupons user ∈ screen.requests.calls ∨ ∃ coupon, (user, coupon) ∈ screen.redemptions)
      (covered : ∀ number ∈ screen.queued ++ screen.spinners,
        number ∈ after.queued ++ after.spinners ∨ number ∉ screen.requests.unanswered)
      (spinners : ∀ number ∈ screen.spinners,
        number ∈ after.spinners ∨ number ∉ screen.requests.unanswered)
      (untapped : ∀ cell, event ≠ .redeemTapped cell)
      (unfetched : ∀ number coupons, event ≠ .getCouponsCompleted number (.success coupons)) :
      Change screen event after
  | dequeued {index cell : Nat} {coupon : Coupon} (found : screen.coupons[index]? = some coupon) :
      Change screen (.cellForItemAt index cell) (screen.cellForItemAt coupon cell)
  | tapped {cell : Nat} {item : Item} (found : screen.items[cell]? = some item)
      (enabled : item.cell.redeemEnabled = true) :
      Change screen (.redeemTapped cell) (screen.redeemTapped item.cell)

theorem redemptions_fetchCoupons (screen : CouponsViewController) (who : Who) :
    (screen.fetchCoupons who).redemptions = screen.redemptions := by
  simp [fetchCoupons, call, redemptions, Requests.issue, ServiceCall.redemption]

theorem next_change (step : machine.next screen event = some after) :
    Change screen event after := by
  cases event with
  | getCouponsCompleted number result =>
      simp only [machine] at step
      split at step
      · next open_call =>
          cases step
          cases result with
          | success coupons => exact .fetched open_call.1 coupons
          | failure reason =>
              exact .quiet rfl rfl rfl rfl (.answered open_call.1) (fun _ => .inl)
                (fun _ => .inl) (fun _ => .inl) (by simp) (by simp)
      · cases step
  | redeemCouponCompleted number success =>
      obtain ⟨⟨user, coupon⟩, redeems, answered⟩ := Option.bind_eq_some_iff.mp step
      obtain ⟨serviceCall, found, redeems⟩ := Option.bind_eq_some_iff.mp redeems
      have asked : (user, coupon) ∈ screen.redemptions :=
        List.mem_filterMap.mpr ⟨serviceCall, List.mem_of_getElem? found, redeems⟩
      split at answered
      · next unanswered =>
          cases answered
          cases success with
          | true =>
              refine .quiet rfl rfl rfl (redemptions_fetchCoupons _ _) (.continued unanswered _)
                ?_ (fun _ => .inl) (fun _ => .inl) (by simp) (by simp)
              intro fetcher member
              rcases List.mem_append.mp member with member | member
              · exact .inl member
              · cases List.mem_singleton.mp member
                exact .inr ⟨coupon, asked⟩
          | false =>
              exact .quiet rfl rfl rfl rfl (.answered unanswered) (fun _ => .inl)
                (fun _ => .inl) (fun _ => .inl) (by simp) (by simp)
      · cases answered
  | spinnerAdded number =>
      obtain ⟨member, step⟩ := Option.ite_none_right_eq_some.mp step
      cases step
      refine .quiet rfl rfl rfl rfl .idle (fun _ => .inl) ?_ ?_ (by simp) (by simp)
      · intro other covered
        left
        by_cases same : other = number
        · simp [same]
        · simpa [List.mem_erase_of_ne same, same] using covered
      · exact fun other up => .inl (List.mem_append_left _ up)
  | spinnerElapsed number =>
      obtain ⟨⟨-, answered⟩, step⟩ := Option.ite_none_right_eq_some.mp step
      cases step
      refine .quiet rfl rfl rfl rfl .idle (fun _ => .inl) ?_ ?_ (by simp) (by simp)
      · intro other covered
        by_cases same : other = number
        · exact .inr (same ▸ answered)
        · left
          simpa [List.mem_erase_of_ne same] using covered
      · intro other up
        by_cases same : other = number
        · exact .inr (same ▸ answered)
        · exact .inl ((List.mem_erase_of_ne same).mpr up)
  | giftButtonTapped =>
      cases step
      exact .quiet rfl rfl rfl rfl .idle (fun _ => .inl) (fun _ => .inl) (fun _ => .inl) (by simp)
        (by simp)
  | successfullyGifted =>
      cases step
      exact .quiet rfl rfl rfl rfl .idle (fun _ => .inl) (fun _ => .inl) (fun _ => .inl) (by simp)
        (by simp)
  | cellForItemAt index cell =>
      obtain ⟨coupon, found, rfl⟩ := Option.map_eq_some_iff.mp step
      exact .dequeued found
  | redeemTapped cell =>
      obtain ⟨item, found, tapped⟩ := Option.bind_eq_some_iff.mp step
      split at tapped
      · next enabled =>
          cases tapped
          exact .tapped found enabled
      · cases tapped

theorem cellForItemAt_eq (screen : CouponsViewController) (coupon : Coupon) (cell : Nat) :
    ∃ items, screen.cellForItemAt coupon cell = { screen with items } := by
  unfold cellForItemAt
  split
  · exact ⟨_, rfl⟩
  · exact ⟨_, rfl⟩

theorem Change.requests (change : Change screen event after) :
    screen.requests.Step event.reply after.requests := by
  cases change with
  | fetched unanswered coupons => exact .answered unanswered
  | quiet who coupons items redemptions requests => exact requests
  | @dequeued index cell coupon found =>
      obtain ⟨items, laid_out⟩ := cellForItemAt_eq screen coupon cell
      rw [laid_out]
      exact .idle
  | tapped found enabled =>
      unfold redeemTapped
      split
      · exact .issued _
      · exact .idle

theorem redemption_of_fetch {number : Nat} {result : Result (List Coupon)}
    {serviceCall : ServiceCall}
    (step : machine.next screen (.getCouponsCompleted number result) = some after)
    (found : screen.requests.calls[number]? = some serviceCall) :
    serviceCall.redemption = none := by
  simp only [machine] at step
  split at step
  · next open_call =>
      have fetch := open_call.2
      rwa [found] at fetch
  · cases step

/-! ## Redeeming only what is redeemable -/

/-- Every cell acts on the coupon last applied to it, and is enabled only where that is
unredeemed. -/
def ItemsHold (screen : CouponsViewController) : Prop :=
  ∀ item ∈ screen.items, item.cell.Holds item.coupon

/-- The screen keeps its user, whose coupons it fetches, and its cells, and has redeemed only
unredeemed coupons. -/
structure Consistent (who : Who) (screen : CouponsViewController) : Prop where
  who_eq : screen.who = who
  items : screen.ItemsHold
  fetches : ∀ user, .getCoupons user ∈ screen.requests.calls → user = who
  redeemable : ∀ redemption ∈ screen.redemptions,
    redemption.1 = who ∧ redemption.2.redeemed = some false

theorem itemsHold_cellForItemAt (items : screen.ItemsHold) (coupon : Coupon) (cell : Nat) :
    (screen.cellForItemAt coupon cell).ItemsHold := by
  unfold cellForItemAt
  split
  · intro item member
    rcases List.mem_or_eq_of_mem_set member with member | rfl
    · exact items item member
    · exact CouponsCollectionCell.holds_configured _ coupon
  · intro item member
    rcases List.mem_append.mp member with member | member
    · exact items item member
    · rw [List.mem_singleton.mp member]
      exact CouponsCollectionCell.holds_configured _ coupon

theorem redeemTapped_of_itemsHold (items : screen.ItemsHold) {cell : Nat} {item : Item}
    (found : screen.items[cell]? = some item) :
    screen.redeemTapped item.cell = screen.redeemCoupon screen.who item.coupon := by
  have holds := items item (List.mem_of_getElem? found)
  simp only [redeemTapped, holds.actions, holds.applied]

theorem redemptions_redeemCoupon (screen : CouponsViewController) (who : Who) (coupon : Coupon) :
    (screen.redeemCoupon who coupon).redemptions = screen.redemptions ++ [(who, coupon)] := by
  simp [redeemCoupon, call, redemptions, Requests.issue, ServiceCall.redemption]

theorem Consistent.change {who : Who} (consistent : Consistent who screen)
    (change : Change screen event after) : Consistent who after := by
  cases change with
  | fetched unanswered coupons =>
      exact ⟨consistent.who_eq, consistent.items, consistent.fetches, consistent.redeemable⟩
  | quiet who_eq coupons items redemptions requests fetches =>
      constructor
      · rw [who_eq, consistent.who_eq]
      · intro item member
        rw [items] at member
        exact consistent.items item member
      · intro user member
        rcases fetches user member with fetched | ⟨coupon, redeemed⟩
        · exact consistent.fetches user fetched
        · exact (consistent.redeemable (user, coupon) redeemed).1
      · rw [redemptions]
        exact consistent.redeemable
  | @dequeued index cell coupon found =>
      have holds := itemsHold_cellForItemAt consistent.items coupon cell
      obtain ⟨items, laid_out⟩ := cellForItemAt_eq screen coupon cell
      rw [laid_out] at holds ⊢
      exact ⟨consistent.who_eq, holds, consistent.fetches, consistent.redeemable⟩
  | tapped found enabled =>
      rw [redeemTapped_of_itemsHold consistent.items found]
      refine ⟨consistent.who_eq, consistent.items, ?_, ?_⟩
      · intro user member
        rcases List.mem_append.mp member with member | member
        · exact consistent.fetches user member
        · cases List.mem_singleton.mp member
      · intro redemption member
        rw [redemptions_redeemCoupon] at member
        rcases List.mem_append.mp member with member | member
        · exact consistent.redeemable redemption member
        · rw [List.mem_singleton.mp member]
          have holds := consistent.items _ (List.mem_of_getElem? found)
          exact ⟨consistent.who_eq, holds.enabled.mp enabled⟩

theorem Consistent.loaded (who : Who) : Consistent who (loaded who) where
  who_eq := rfl
  items := by
    intro item member
    cases member
  fetches := by
    intro user member
    cases List.mem_singleton.mp member
    rfl
  redeemable := by
    intro redemption member
    cases member

theorem run_consistent {who : Who} {events : List Event}
    (execution : machine.run events (loaded who) = some screen) : Consistent who screen :=
  Machine.run_invariant (Consistent who)
    (fun consistent step => consistent.change (next_change step)) (Consistent.loaded who) execution

/-! ## Spinners -/

/-- Every redeem that is under way has its spinner, over the screen or about to be. -/
structure Spinning (screen : CouponsViewController) : Prop where
  numbered : screen.requests.Numbered
  covered : ∀ number ∈ screen.requests.unanswered, ∀ serviceCall,
    screen.requests.calls[number]? = some serviceCall → serviceCall.redemption ≠ none →
      number ∈ screen.queued ++ screen.spinners

theorem redemption_of_added {added : List ServiceCall} {number : Nat} {serviceCall : ServiceCall}
    (calls : after.requests.calls = screen.requests.calls ++ added)
    (redemptions : after.redemptions = screen.redemptions)
    (new : screen.requests.calls.length ≤ number)
    (found : after.requests.calls[number]? = some serviceCall) :
    serviceCall.redemption = none := by
  rw [CouponsViewController.redemptions, CouponsViewController.redemptions, calls,
    List.filterMap_append, List.append_right_eq_self] at redemptions
  rw [calls, List.getElem?_append_right new] at found
  exact List.filterMap_eq_nil_iff.mp redemptions serviceCall (List.mem_of_getElem? found)

/-- Without a new redemption a screen stays covered as long as no spinner goes early. -/
theorem Spinning.of_step (spinning : Spinning screen) {reply : Option Nat}
    (requests : screen.requests.Step reply after.requests)
    (redemptions : after.redemptions = screen.redemptions)
    (covered : ∀ number ∈ screen.queued ++ screen.spinners,
      number ∈ after.queued ++ after.spinners ∨ number ∉ screen.requests.unanswered) :
    Spinning after where
  numbered := spinning.numbered.step requests
  covered := by
    intro number waiting serviceCall found redeems
    obtain ⟨added, calls⟩ := requests.calls
    rcases (requests.mem_unanswered spinning.numbered number).mp waiting with old | new
    · have bound := spinning.numbered.bound number old.1
      rw [calls, List.getElem?_append_left bound] at found
      have spinner := spinning.covered number old.1 serviceCall found redeems
      exact (covered number spinner).resolve_right fun gone => gone old.1
    · exact absurd (redemption_of_added calls redemptions new.1 found) redeems

theorem Spinning.change (spinning : Spinning screen) (items : screen.ItemsHold)
    (change : Change screen event after) : Spinning after := by
  cases change with
  | fetched unanswered coupons =>
      exact spinning.of_step (.answered unanswered) rfl (fun _ => .inl)
  | quiet who_eq coupons items redemptions requests fetches covered =>
      exact spinning.of_step requests redemptions covered
  | @dequeued index cell coupon found =>
      obtain ⟨items, laid_out⟩ := cellForItemAt_eq screen coupon cell
      rw [laid_out]
      exact ⟨spinning.numbered, spinning.covered⟩
  | @tapped cell item found enabled =>
      rw [redeemTapped_of_itemsHold items found]
      constructor
      · exact spinning.numbered.issue _
      · intro number waiting serviceCall asked redeems
        rcases List.mem_append.mp waiting with old | new
        · have bound := spinning.numbered.bound number old
          have asked_before : screen.requests.calls[number]? = some serviceCall :=
            (List.getElem?_append_left bound).symm.trans asked
          rcases List.mem_append.mp (spinning.covered number old serviceCall asked_before redeems)
            with queued | up
          · exact List.mem_append_left _ (List.mem_append_left _ queued)
          · exact List.mem_append_right _ up
        · exact List.mem_append_left _ (List.mem_append_right _ new)

theorem Spinning.loaded (who : Who) : Spinning (loaded who) where
  numbered := Requests.Numbered.empty.issue _
  covered := by
    intro number waiting serviceCall found redeems
    cases List.mem_singleton.mp waiting
    cases found
    exact absurd rfl redeems

/-- A spinner over the screen stays there until its redeem is answered. -/
theorem Change.spinners (change : Change screen event after) {number : Nat}
    (up : number ∈ screen.spinners) (waiting : number ∈ screen.requests.unanswered) :
    number ∈ after.spinners := by
  cases change with
  | fetched unanswered coupons => exact up
  | quiet who coupons items redemptions requests fetches covered spinners =>
      exact (spinners number up).resolve_right fun answered => answered waiting
  | @dequeued index cell coupon found =>
      obtain ⟨items, laid_out⟩ := cellForItemAt_eq screen coupon cell
      rw [laid_out]
      exact up
  | tapped found enabled =>
      unfold redeemTapped
      split
      · exact up
      · exact up

/-- In every run each redeem request is for the screen's own user and an unredeemed coupon; a tap
makes one for the coupon last applied to the tapped cell, and nothing else makes any. -/
theorem run_redeems {who : Who} {events : List Event}
    (execution : machine.run events (loaded who) = some screen) :
    (∀ user coupon, .redeemCoupon user coupon ∈ screen.requests.calls →
      user = who ∧ coupon.redeemed = some false) ∧
    (∀ cell after, machine.next screen (.redeemTapped cell) = some after →
      ∃ item, screen.items[cell]? = some item ∧ item.coupon.redeemed = some false ∧
        after.requests.calls = screen.requests.calls ++ [.redeemCoupon who item.coupon]) ∧
    (∀ event after, (∀ cell, event ≠ .redeemTapped cell) →
      machine.next screen event = some after → after.redemptions = screen.redemptions) := by
  have consistent := run_consistent execution
  refine ⟨?_, ?_, ?_⟩
  · intro user coupon member
    have redeemed : (user, coupon) ∈ screen.redemptions :=
      List.mem_filterMap.mpr ⟨.redeemCoupon user coupon, member, rfl⟩
    exact consistent.redeemable (user, coupon) redeemed
  · intro cell after step
    cases next_change step with
    | quiet who_eq coupons items redemptions requests fetches covered spinners untapped =>
        exact absurd rfl (untapped cell)
    | @tapped cell item found enabled =>
        have holds := consistent.items item (List.mem_of_getElem? found)
        refine ⟨item, found, holds.enabled.mp enabled, ?_⟩
        rw [redeemTapped_of_itemsHold consistent.items found, consistent.who_eq]
        rfl
  · intro event after untapped step
    cases next_change step with
    | fetched unanswered coupons => rfl
    | quiet who_eq coupons items redemptions => exact redemptions
    | @dequeued index cell coupon found =>
        obtain ⟨items, laid_out⟩ := cellForItemAt_eq screen coupon cell
        rw [laid_out]
        rfl
    | @tapped cell item found enabled => exact absurd rfl (untapped cell)

/-- The placeholder's cell is reused for a fetched coupon, which is then redeemed. -/
def placeholderReused : List Event :=
  [.cellForItemAt 0 0, .getCouponsCompleted 0 (.success [CouponDatabase.massage]),
    .cellForItemAt 0 0, .redeemTapped 0]

theorem placeholderReused_redeems :
    ∃ screen, machine.run placeholderReused (loaded .lauren) = some screen ∧
      ∀ user coupon, .redeemCoupon user coupon ∈ screen.requests.calls →
        user = .lauren ∧ coupon.redeemed = some false := by
  have runs : ∃ screen, machine.run placeholderReused (loaded .lauren) = some screen := ⟨_, rfl⟩
  obtain ⟨screen, execution⟩ := runs
  exact ⟨screen, execution, (run_redeems execution).1⟩

end CouponsViewController

end Celeste
