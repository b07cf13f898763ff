import Celeste.Queries
import Celeste.Library.CellWrites
import Celeste.Library.Machine
import Mathlib.Data.List.Perm.Basic

/-!
# The coupon collections

Each user has a collection of coupons.  The other user gifts into it, and redeeming overwrites one
field of a coupon already there.  Writes are applied or refused one at a time and at any later
time.  The ledger reads the coupons of a user off the log of applied writes, and every answer to
`getCoupons` is that ledger.
-/

namespace Celeste

open Fallible

/-- `reference(to: .Coupons).document(who.rawValue).collection("Coupons")`. -/
def couponCollection (who : Who) : CollectionReference where
  path := ["Coupons", who.rawValue, "Coupons"]
  odd := by simp

theorem couponCollection_key_inj {left right : Who} {leftId rightId : String} :
    (couponCollection left).key leftId = (couponCollection right).key rightId ↔
      left = right ∧ leftId = rightId := by
  constructor
  · intro same
    have paths := congrArg DocumentKey.path same
    simp only [CollectionReference.key, couponCollection, List.cons_append, List.nil_append,
      List.cons.injEq, and_true, true_and] at paths
    exact ⟨Who.rawValue_injective paths.1, paths.2⟩
  · intro same
    rw [same.1, same.2]

/-! ## Writes of the coupon service -/

/-- The service function a write came from. -/
inductive CouponRequest
  | giftCoupon
  | redeemCoupon
  deriving DecidableEq

/-- A write of the coupon service, at the document it resolved. -/
structure CouponWrite where
  request : CouponRequest
  who : Who
  coupon : Coupon
  key : DocumentKey
  deriving DecidableEq

namespace CouponWrite

/-- A write at the document its coupon's id names. -/
def IsFiled (write : CouponWrite) : Prop :=
  write.key = (couponCollection write.who).key write.coupon.id

/-- The store after Firestore applied a write; `none` where the document is missing. -/
def perform (store : Store) (write : CouponWrite) : Option Store :=
  match write.request with
  | .giftCoupon => some (store.setData write.key write.coupon.encode)
  | .redeemCoupon => store.updateData write.key [("redeemed", .boolean true)]

variable {write : CouponWrite} {store after : Store}

theorem perform_gift (gift : write.request = .giftCoupon) :
    write.perform store = some (store.setData write.key write.coupon.encode) := by
  simp [perform, gift]

theorem perform_redeem (redeem : write.request = .redeemCoupon) :
    write.perform store =
      (store.lookup write.key).map fun data =>
        store.insert write.key (data.insert "redeemed" (.boolean true)) := by
  simp [perform, redeem, Store.updateData]

theorem lookup_perform_redeem (redeem : write.request = .redeemCoupon)
    (performed : write.perform store = some after) :
    ∃ data, store.lookup write.key = some data ∧
      after.lookup write.key = some (data.insert "redeemed" (.boolean true)) := by
  rw [perform_redeem redeem, Option.map_eq_some_iff] at performed
  obtain ⟨data, found, rfl⟩ := performed
  exact ⟨data, found, AList.lookup_insert store⟩

theorem lookup_perform_ne (performed : write.perform store = some after) {key : DocumentKey}
    (differs : key ≠ write.key) : after.lookup key = store.lookup key := by
  cases request : write.request with
  | giftCoupon =>
      rw [perform_gift request, Option.some.injEq] at performed
      rw [← performed]
      exact AList.lookup_insert_ne differs
  | redeemCoupon =>
      rw [perform_redeem request, Option.map_eq_some_iff] at performed
      obtain ⟨data, _, rfl⟩ := performed
      exact AList.lookup_insert_ne differs

/-- Coupon writes as writes to independent documents; a redeem of a missing one does nothing. -/
def cells : CellWrites CouponWrite DocumentKey Fields where
  key := key
  effect write cell :=
    match write.request with
    | .giftCoupon => some write.coupon.encode
    | .redeemCoupon => cell.map fun data => data.insert "redeemed" (.boolean true)

theorem lookup_perform (store : Store) (write : CouponWrite) :
    (fun key => ((write.perform store).getD store).lookup key) =
      cells.apply (fun key => store.lookup key) write := by
  funext key
  by_cases own : key = write.key
  · subst own
    cases request : write.request with
    | giftCoupon =>
        rw [perform_gift request]
        simp [Store.setData, CellWrites.apply, cells, request]
    | redeemCoupon =>
        rw [perform_redeem request]
        cases found : store.lookup write.key <;>
          simp [CellWrites.apply, cells, request, found]
  · have untouched : cells.apply (fun key => store.lookup key) write key = store.lookup key :=
      Function.update_of_ne own _ _
    rw [untouched]
    cases performed : write.perform store with
    | none => rfl
    | some after => exact lookup_perform_ne performed own

/-- The store after a log of writes is the replay of the log, document by document. -/
theorem lookup_foldl_perform (start : Store) (log : List CouponWrite) :
    (fun key =>
        (log.foldl (fun store write => (write.perform store).getD store) start).lookup key) =
      cells.replay (fun key => start.lookup key) log := by
  induction log generalizing start with
  | nil => rfl
  | cons write log ih =>
      rw [List.foldl_cons, ih, lookup_perform]
      rfl

theorem key_ne (filed : write.IsFiled) {who : Who} {id : String}
    (other : ¬ (write.who = who ∧ write.coupon.id = id)) :
    (couponCollection who).key id ≠ write.key := by
  intro same
  rw [filed, couponCollection_key_inj] at same
  exact other ⟨same.1.symm, same.2.symm⟩

end CouponWrite

namespace CouponServices

/-- The write a request issues, or a trap on the id. -/
def write (request : CouponRequest) (who : Who) (coupon : Coupon) : Option CouponWrite :=
  ((couponCollection who).document coupon.id).map fun key => { request, who, coupon, key }

/-- `CouponServices.giftCoupon`: the write it issues. -/
def giftCoupon : Who → Coupon → Option CouponWrite :=
  write .giftCoupon

/-- `CouponServices.redeemCoupon`: the write it issues. -/
def redeemCoupon : Who → Coupon → Option CouponWrite :=
  write .redeemCoupon

/-- The block both pass to Firestore: the completion it makes. -/
def reported : Option FirestoreError → Bool
  | some _ => false
  | none => true

theorem write_eq {request : CouponRequest} {who : Who} {coupon : Coupon}
    (single : IsDocumentId coupon.id) :
    write request who coupon =
      some { request, who, coupon, key := (couponCollection who).key coupon.id } := by
  rw [write, (couponCollection who).document_of_isDocumentId single]
  rfl

end CouponServices

/-! ## Gifting -/

/-- The user who gets what this one gifts. -/
def Who.other : Who → Who
  | .lauren => .antonio
  | .antonio => .lauren

namespace GiftCouponViewController

/-- What `submitTapped` leads to. -/
inductive Submission
  | displayAlert (message title : String)
  | giftCouponRequest (whoToGift : Who) (coupon : Coupon)
  deriving DecidableEq

/-- `GiftCouponViewController.submitTapped` for the signed-in user and one fresh UUID. -/
def submitTapped (who : Who) (couponTitleText couponDescriptionText : Option String)
    (uuidString : String) : Submission :=
  match couponTitleText, couponDescriptionText with
  | some couponTitle, some couponDescription =>
      if couponTitle ≠ "" ∧ couponDescription ≠ "" then
        .giftCouponRequest (if who = .lauren then .antonio else .lauren)
          { id := uuidString
            title := couponTitle
            description := couponDescription
            redeemed := some false }
      else
        .displayAlert "Please make sure to a coupon title and description" "Coupon details pls!"
  | _, _ =>
      .displayAlert "Please make sure to a coupon title and description" "Coupon details pls!"

/-- The write a submission issues. -/
def Submission.write : Submission → Option CouponWrite
  | .displayAlert _ _ => none
  | .giftCouponRequest whoToGift coupon => CouponServices.giftCoupon whoToGift coupon

/-- The gift of the coupon typed in to the other user, where neither text is missing or empty. -/
def typedGift (who : Who) (couponTitleText couponDescriptionText : Option String)
    (uuidString : String) : Option CouponWrite :=
  (couponTitleText.filter (· ≠ "")).bind fun couponTitle =>
    (couponDescriptionText.filter (· ≠ "")).map fun couponDescription =>
      { request := .giftCoupon
        who := who.other
        coupon :=
          { id := uuidString
            title := couponTitle
            description := couponDescription
            redeemed := some false }
        key := (couponCollection who.other).key uuidString }

theorem submitTapped_write (who : Who) (couponTitleText couponDescriptionText : Option String)
    {uuidString : String} (single : IsDocumentId uuidString) :
    (submitTapped who couponTitleText couponDescriptionText uuidString).write =
      typedGift who couponTitleText couponDescriptionText uuidString := by
  cases couponTitleText with
  | none => rfl
  | some couponTitle =>
      cases couponDescriptionText with
      | none => simp [submitTapped, typedGift, Submission.write]
      | some couponDescription =>
          simp only [submitTapped, typedGift]
          split
          case isTrue complete =>
              rw [Submission.write, CouponServices.giftCoupon, CouponServices.write_eq single]
              cases who with
              | lauren => simp [Option.filter_some, complete, Who.other]
              | antonio => simp [Option.filter_some, complete, Who.other]
          case isFalse incomplete =>
              rw [not_and_or, not_not, not_not] at incomplete
              rcases incomplete with rfl | rfl
              · simp [Option.filter_some, Submission.write]
              · simp [Option.filter_some, Submission.write]

theorem typedGift_eq_some {who : Who} {couponTitleText couponDescriptionText : Option String}
    {uuidString : String} {write : CouponWrite}
    (typed : typedGift who couponTitleText couponDescriptionText uuidString = some write) :
    write.request = .giftCoupon ∧ write.coupon.id = uuidString ∧ write.IsFiled := by
  obtain ⟨couponTitle, _, typed⟩ := Option.bind_eq_some_iff.mp typed
  obtain ⟨couponDescription, _, rfl⟩ := Option.map_eq_some_iff.mp typed
  exact ⟨rfl, rfl, rfl⟩

end GiftCouponViewController

/-! ## The ledger -/

/-- Some redeem of the log names this coupon of this user. -/
def redeemedIn (log : List CouponWrite) (who : Who) (id : String) : Bool :=
  log.any fun write => write.request = .redeemCoupon ∧ write.who = who ∧ write.coupon.id = id

/-- The coupons gifted to a user, oldest first, redeemed where a later write of the log did so. -/
def ledger (who : Who) : List CouponWrite → List Coupon
  | [] => []
  | write :: later =>
      if write.request = .giftCoupon ∧ write.who = who then
        { write.coupon with redeemed := some (redeemedIn later who write.coupon.id) } ::
          ledger who later
      else
        ledger who later

/-- The ids of the gifts of a log. -/
def giftIds (log : List CouponWrite) : List String :=
  (log.filter fun write => write.request = .giftCoupon).map fun write => write.coupon.id

/-- A coupon of a user after a redeem was applied. -/
def redeemedBy (write : CouponWrite) (who : Who) (coupon : Coupon) : Coupon :=
  if write.who = who ∧ write.coupon.id = coupon.id then
    { coupon with redeemed := some true }
  else
    coupon

@[simp]
theorem redeemedBy_id (write : CouponWrite) (who : Who) (coupon : Coupon) :
    (redeemedBy write who coupon).id = coupon.id := by
  unfold redeemedBy
  split <;> rfl

theorem ledger_snoc_gift {write : CouponWrite} (gift : write.request = .giftCoupon) (who : Who)
    (log : List CouponWrite) :
    ledger who (log ++ [write]) =
      ledger who log ++
        if write.who = who then [{ write.coupon with redeemed := some false }] else [] := by
  induction log with
  | nil => simp [ledger, gift, redeemedIn]
  | cons first log ih =>
      have unchanged : redeemedIn (log ++ [write]) who first.coupon.id =
          redeemedIn log who first.coupon.id := by
        simp [redeemedIn, gift]
      simp only [List.cons_append, ledger, ih, unchanged]
      split <;> rfl

theorem ledger_snoc_redeem {write : CouponWrite} (redeem : write.request = .redeemCoupon)
    (who : Who) (log : List CouponWrite) :
    ledger who (log ++ [write]) = (ledger who log).map (redeemedBy write who) := by
  induction log with
  | nil => simp [ledger, redeem]
  | cons first log ih =>
      simp only [List.cons_append, ledger, ih]
      split
      · rw [List.map_cons]
        congr 1
        by_cases hit : write.who = who ∧ write.coupon.id = first.coupon.id
        · simp [redeemedBy, redeemedIn, redeem, hit]
        · simp [redeemedBy, redeemedIn, redeem, hit]
      · rfl

theorem giftIds_cons (write : CouponWrite) (log : List CouponWrite) :
    giftIds (write :: log) =
      (if write.request = .giftCoupon then [write.coupon.id] else []) ++ giftIds log := by
  simp only [giftIds, List.filter_cons, decide_eq_true_eq]
  split <;> rfl

theorem giftIds_perm {left right : List CouponWrite} (same : left.Perm right) :
    (giftIds left).Perm (giftIds right) :=
  (same.filter _).map _

/-- A user's ledger holds ids of gifts, in the order of the log. -/
theorem ledger_ids_sublist (who : Who) (log : List CouponWrite) :
    ((ledger who log).map Coupon.id).Sublist (giftIds log) := by
  induction log with
  | nil => exact .slnil
  | cons first log ih =>
      rw [giftIds_cons, ledger]
      by_cases gift : first.request = .giftCoupon
      · by_cases own : first.who = who
        · simpa [gift, own] using ih
        · simpa [gift, own] using ih.cons _
      · simpa [gift] using ih

/-- The ledger entry under an id. -/
def ledgerEntry (who : Who) (log : List CouponWrite) (id : String) : Option Coupon :=
  (ledger who log).find? fun coupon => coupon.id = id

theorem ledgerEntry_id {who : Who} {log : List CouponWrite} {id : String} {coupon : Coupon}
    (entry : ledgerEntry who log id = some coupon) : coupon.id = id := by
  simpa using List.find?_some (show (ledger who log).find? _ = some coupon from entry)

theorem ledgerEntry_snoc_gift {write : CouponWrite} (gift : write.request = .giftCoupon)
    (who : Who) (log : List CouponWrite) (id : String) :
    ledgerEntry who (log ++ [write]) id =
      (ledgerEntry who log id).or
        (if write.who = who ∧ write.coupon.id = id then
          some { write.coupon with redeemed := some false }
        else
          none) := by
  rw [ledgerEntry, ledger_snoc_gift gift, List.find?_append, ← ledgerEntry]
  by_cases own : write.who = who
  · by_cases same : write.coupon.id = id
    · simp [own, same]
    · simp [own, same]
  · simp [own]

theorem ledgerEntry_snoc_redeem {write : CouponWrite} (redeem : write.request = .redeemCoupon)
    (who : Who) (log : List CouponWrite) (id : String) :
    ledgerEntry who (log ++ [write]) id =
      (ledgerEntry who log id).map (redeemedBy write who) := by
  have same_id : (fun coupon : Coupon => decide (coupon.id = id)) ∘ redeemedBy write who =
      fun coupon => decide (coupon.id = id) := by
    funext coupon
    rw [Function.comp_apply, redeemedBy_id]
  rw [ledgerEntry, ledger_snoc_redeem redeem, List.find?_map, same_id, ledgerEntry]

theorem ledgerEntry_eq_none {who : Who} {log : List CouponWrite} {id : String}
    (absent : id ∉ giftIds log) : ledgerEntry who log id = none := by
  rw [ledgerEntry, List.find?_eq_none]
  intro coupon member same
  have id_eq : coupon.id = id := of_decide_eq_true same
  have listed : coupon.id ∈ (ledger who log).map Coupon.id := List.mem_map_of_mem member
  exact absent (id_eq ▸ (ledger_ids_sublist who log).subset listed)

/-- How a coupon may differ between two readings: it is the same, or newly redeemed. -/
def Coupon.Advances (before after : Coupon) : Prop :=
  after = before ∨ before.redeemed = some false ∧ after = { before with redeemed := some true }

theorem ledger_redeemed {who : Who} {log : List CouponWrite} {coupon : Coupon}
    (member : coupon ∈ ledger who log) : ∃ flag, coupon.redeemed = some flag := by
  induction log with
  | nil => cases member
  | cons first log ih =>
      rw [ledger] at member
      split at member
      · rcases List.mem_cons.mp member with rfl | member
        · exact ⟨_, rfl⟩
        · exact ih member
      · exact ih member

/-- Every write leaves a ledger entry as it is, or marks it redeemed. -/
theorem ledgerEntry_advances {who : Who} {log : List CouponWrite} {id : String} {coupon : Coupon}
    (entry : ledgerEntry who log id = some coupon) (write : CouponWrite) :
    ∃ coupon', ledgerEntry who (log ++ [write]) id = some coupon' ∧ coupon.Advances coupon' := by
  cases request : write.request with
  | giftCoupon =>
      refine ⟨coupon, ?_, .inl rfl⟩
      rw [ledgerEntry_snoc_gift request, entry, Option.some_or]
  | redeemCoupon =>
      refine ⟨redeemedBy write who coupon, ?_, ?_⟩
      · rw [ledgerEntry_snoc_redeem request, entry, Option.map_some]
      · obtain ⟨flag, redeemed⟩ := ledger_redeemed (List.mem_of_find?_eq_some entry)
        rw [redeemedBy]
        split
        · cases flag with
          | false => exact .inr ⟨redeemed, rfl⟩
          | true => exact .inl (by rw [← redeemed])
        · exact .inl rfl

/-- With fresh ids the ledger is the list of its entries. -/
theorem mem_ledger_iff {who : Who} {log : List CouponWrite} (fresh : (giftIds log).Nodup)
    {coupon : Coupon} :
    coupon ∈ ledger who log ↔ ledgerEntry who log coupon.id = some coupon := by
  have nodup : ((ledger who log).map Coupon.id).Nodup := fresh.sublist (ledger_ids_sublist who log)
  constructor
  · intro member
    cases entry : ledgerEntry who log coupon.id with
    | none =>
        have missing := List.find?_eq_none.mp entry coupon member
        simp at missing
    | some found =>
        have found_member : found ∈ ledger who log := List.mem_of_find?_eq_some entry
        have same : found.id = coupon.id := ledgerEntry_id entry
        rw [List.inj_on_of_nodup_map nodup found_member member same]
  · intro entry
    exact List.mem_of_find?_eq_some entry

/-! ## The collections and their clients -/

/-- A write in flight and the client that waits for its answer. -/
structure CouponCall (Caller : Type) where
  caller : Caller
  write : CouponWrite

/-- An answered write: Firestore's error, if any. -/
structure CouponAnswer (Caller : Type) extends CouponCall Caller where
  error : Option FirestoreError

/-- The completion an answer makes. -/
def CouponAnswer.success {Caller : Type} (answer : CouponAnswer Caller) : Bool :=
  CouponServices.reported answer.error

/-- The stored documents, the writes in flight, the answers given, oldest first, and the UUIDs
drawn so far. -/
structure CouponDatabase (Caller : Type) where
  store : Store
  pending : List (CouponCall Caller)
  answers : List (CouponAnswer Caller)
  uuids : List String

namespace CouponDatabase

variable {Caller : Type}

/-- A call by some client, or the fate of one write in flight. -/
inductive Event (Caller : Type)
  | submitTapped (caller : Caller) (who : Who)
      (couponTitleText couponDescriptionText : Option String) (uuidString : String)
  | redeemCoupon (caller : Caller) (who : Who) (coupon : Coupon)
  | applyWrite (index : Nat)
  | rejectWrite (index : Nat) (error : FirestoreError)

/-- A database nobody has written to yet. -/
def initial (store : Store) : CouponDatabase Caller where
  store := store
  pending := []
  answers := []
  uuids := []

/-- The writes applied so far, oldest first. -/
def applied (database : CouponDatabase Caller) : List CouponWrite :=
  (database.answers.filter fun answer => answer.success).map fun answer => answer.write

/-- Issue the writes of a call: they reach the server later. -/
def issue (database : CouponDatabase Caller) (caller : Caller) (writes : Option CouponWrite) :
    CouponDatabase Caller :=
  { database with
    pending := database.pending ++ writes.toList.map fun write => { caller, write } }

/-- Take a write out of flight. -/
def settle (database : CouponDatabase Caller) (index : Nat) : CouponDatabase Caller :=
  { database with pending := database.pending.eraseIdx index }

/-- Answer a call. -/
def answer (database : CouponDatabase Caller) (call : CouponCall Caller)
    (error : Option FirestoreError) : CouponDatabase Caller :=
  { database with answers := database.answers ++ [{ toCouponCall := call, error }] }

/-- Apply the write of a call and answer it. -/
def perform (database : CouponDatabase Caller) (call : CouponCall Caller) :
    CouponDatabase Caller :=
  match call.write.perform database.store with
  | some store => { database.answer call none with store := store }
  | none => database.answer call (some .notFound)

/-- The transitions of the collections; `getCoupons` only reads.  A UUID is drawn once. -/
def machine : Machine (CouponDatabase Caller) (Event Caller) where
  next database
    | .submitTapped caller who couponTitleText couponDescriptionText uuidString =>
        if IsDocumentId uuidString ∧ uuidString ∉ database.uuids then
          some
            ({ database with uuids := uuidString :: database.uuids }.issue caller
              (GiftCouponViewController.submitTapped who couponTitleText couponDescriptionText
                uuidString).write)
        else
          none
    | .redeemCoupon caller who coupon =>
        some (database.issue caller (CouponServices.redeemCoupon who coupon))
    | .applyWrite index =>
        (database.pending[index]?).map fun call => (database.settle index).perform call
    | .rejectWrite index error =>
        (database.pending[index]?).map fun call =>
          (database.settle index).answer call (some error)

/-- The writes an event of the run asks for: the coupon typed in, or the redeem of a coupon. -/
def Event.asks : Event Caller → List CouponWrite
  | .submitTapped _ who couponTitleText couponDescriptionText uuidString =>
      (GiftCouponViewController.typedGift who couponTitleText couponDescriptionText
        uuidString).toList
  | .redeemCoupon _ who coupon =>
      [{ request := .redeemCoupon, who, coupon, key := (couponCollection who).key coupon.id }]
  | .applyWrite _ | .rejectWrite _ _ => []

/-- Every id a redeem of the run names satisfies a condition. -/
def Event.Ids (condition : String → Prop) : Event Caller → Prop
  | .redeemCoupon _ _ coupon => condition coupon.id
  | .submitTapped .. | .applyWrite _ | .rejectWrite _ _ => True

@[simp]
theorem answer_store (database : CouponDatabase Caller) (call : CouponCall Caller)
    (error : Option FirestoreError) : (database.answer call error).store = database.store := rfl

@[simp]
theorem answer_pending (database : CouponDatabase Caller) (call : CouponCall Caller)
    (error : Option FirestoreError) :
    (database.answer call error).pending = database.pending := rfl

@[simp]
theorem applied_answer (database : CouponDatabase Caller) (call : CouponCall Caller)
    (error : Option FirestoreError) :
    (database.answer call error).applied =
      database.applied ++ if CouponServices.reported error then [call.write] else [] := by
  cases error <;> simp [applied, answer, CouponAnswer.success, CouponServices.reported]

/-- The writes issued and not refused: those in flight, then those applied. -/
def issued (database : CouponDatabase Caller) : List CouponWrite :=
  (database.pending.map fun call => call.write) ++ database.applied

/-! ## What every run keeps -/

/-- The documents decode to the ledger, and no id was gifted twice. -/
structure Consistent (database : CouponDatabase Caller) : Prop where
  filed : ∀ call ∈ database.pending, call.write.IsFiled
  stored : ∀ who id,
    (database.store.lookup ((couponCollection who).key id)).map Coupon.decode =
      (ledgerEntry who database.applied id).map .ok
  fresh : (giftIds database.issued).Nodup
  drawn : ∀ id ∈ giftIds database.issued, id ∈ database.uuids

variable {database : CouponDatabase Caller}

theorem Consistent.initial {start : Store}
    (empty : ∀ who, start.documents (couponCollection who) = []) :
    Consistent (initial start : CouponDatabase Caller) where
  filed := by simp [CouponDatabase.initial]
  stored := by
    intro who id
    cases stored : start.lookup ((couponCollection who).key id) with
    | none => simp [CouponDatabase.initial, stored, applied, ledgerEntry, ledger]
    | some fields =>
        have member : (⟨(couponCollection who).key id, fields⟩ : DocumentSnapshot) ∈
            start.documents (couponCollection who) :=
          Store.mem_documents_iff.mpr ⟨stored, id, rfl⟩
        rw [empty] at member
        cases member
  fresh := by simp [CouponDatabase.initial, issued, applied, giftIds]
  drawn := by simp [CouponDatabase.initial, issued, applied, giftIds]

theorem Consistent.issue_redeem (consistent : Consistent database) (caller : Caller) (who : Who)
    {coupon : Coupon} (single : IsDocumentId coupon.id) :
    Consistent (database.issue caller (CouponServices.redeemCoupon who coupon)) := by
  rw [CouponServices.redeemCoupon, CouponServices.write_eq single]
  have ids : giftIds (database.issue caller
      (some { request := .redeemCoupon, who, coupon,
              key := (couponCollection who).key coupon.id })).issued =
      giftIds database.issued := by
    simp [issue, issued, giftIds, applied]
  constructor
  · intro call member
    rcases List.mem_append.mp member with member | member
    · exact consistent.filed call member
    · rw [Option.toList_some, List.map_singleton, List.mem_singleton] at member
      rw [member]
      rfl
  · exact consistent.stored
  · exact ids ▸ consistent.fresh
  · exact ids ▸ consistent.drawn

theorem Consistent.issue_gift (consistent : Consistent database) (caller : Caller)
    {write : CouponWrite} (gift : write.request = .giftCoupon) (filed : write.IsFiled)
    (unused : write.coupon.id ∉ database.uuids) :
    Consistent
      ({ database with uuids := write.coupon.id :: database.uuids }.issue caller (some write)) := by
  have ids : (giftIds ({ database with uuids := write.coupon.id :: database.uuids }.issue caller
      (some write)).issued).Perm (write.coupon.id :: giftIds database.issued) := by
    have order : ({ database with uuids := write.coupon.id :: database.uuids }.issue caller
        (some write)).issued.Perm (write :: database.issued) := by
      simp [issue, issued, applied]
    have perm := giftIds_perm order
    rwa [giftIds_cons, if_pos gift] at perm
  constructor
  · intro call member
    rcases List.mem_append.mp member with member | member
    · exact consistent.filed call member
    · rw [Option.toList_some, List.map_singleton, List.mem_singleton] at member
      rw [member]
      exact filed
  · exact consistent.stored
  · rw [ids.nodup_iff, List.nodup_cons]
    exact ⟨fun used => unused (consistent.drawn _ used), consistent.fresh⟩
  · intro id member
    rcases List.mem_cons.mp (ids.mem_iff.mp member) with rfl | member
    · exact List.mem_cons_self
    · exact List.mem_cons_of_mem _ (consistent.drawn id member)

theorem Consistent.draw (consistent : Consistent database) (uuidString : String) :
    Consistent { database with uuids := uuidString :: database.uuids } where
  filed := consistent.filed
  stored := consistent.stored
  fresh := consistent.fresh
  drawn id member := List.mem_cons_of_mem _ (consistent.drawn id member)

theorem pending_settle {index : Nat} {call : CouponCall Caller}
    (found : database.pending[index]? = some call) :
    database.pending.Perm (call :: (database.settle index).pending) :=
  CellWrites.perm_cons_eraseIdx found

theorem issued_settle {index : Nat} {call : CouponCall Caller}
    (found : database.pending[index]? = some call) :
    database.issued.Perm (call.write :: (database.settle index).issued) :=
  ((pending_settle found).map fun call => call.write).append_right _

theorem Consistent.settle (consistent : Consistent database) {index : Nat}
    {call : CouponCall Caller} (found : database.pending[index]? = some call) :
    Consistent (database.settle index) where
  filed other member := consistent.filed other (List.mem_of_mem_eraseIdx member)
  stored := consistent.stored
  fresh := by
    have order := giftIds_perm (issued_settle found)
    have nodup := order.nodup_iff.mp consistent.fresh
    rw [giftIds_cons] at nodup
    exact nodup.of_append_right
  drawn := by
    intro id member
    have order := giftIds_perm (issued_settle found)
    apply consistent.drawn id
    rw [order.mem_iff, giftIds_cons]
    exact List.mem_append_right _ member

theorem issued_refuse (database : CouponDatabase Caller) (call : CouponCall Caller)
    (error : FirestoreError) : (database.answer call (some error)).issued = database.issued := by
  simp [issued, CouponServices.reported]

theorem Consistent.refuse (consistent : Consistent database) (call : CouponCall Caller)
    (error : FirestoreError) : Consistent (database.answer call (some error)) where
  filed := consistent.filed
  stored := by
    rw [applied_answer]
    simpa [CouponServices.reported] using consistent.stored
  fresh := by
    rw [issued_refuse]
    exact consistent.fresh
  drawn := by
    rw [issued_refuse]
    exact consistent.drawn

theorem perform_of_none {call : CouponCall Caller}
    (missing : call.write.perform database.store = none) :
    database.perform call = database.answer call (some .notFound) := by
  simp only [perform, missing]

section Performed

variable {call : CouponCall Caller} {after : Store}
  (performed : call.write.perform database.store = some after)

include performed

theorem perform_of_some :
    database.perform call = { database.answer call none with store := after } := by
  simp only [perform, performed]

theorem applied_perform :
    (database.perform call).applied = database.applied ++ [call.write] := by
  rw [perform_of_some performed]
  exact applied_answer database call none

theorem issued_perform :
    (database.perform call).issued.Perm (call.write :: database.issued) := by
  rw [issued, issued, applied_perform performed, perform_of_some performed, answer_pending,
    ← List.append_assoc]
  exact List.perm_append_singleton _ _

theorem lookup_perform_of_other (filed : call.write.IsFiled) {who : Who} {id : String}
    (other : ¬ (call.write.who = who ∧ call.write.coupon.id = id)) :
    (database.perform call).store.lookup ((couponCollection who).key id) =
      database.store.lookup ((couponCollection who).key id) := by
  rw [perform_of_some performed]
  exact CouponWrite.lookup_perform_ne performed (CouponWrite.key_ne filed other)

end Performed

theorem Consistent.perform_gift (consistent : Consistent database) {call : CouponCall Caller}
    (filed : call.write.IsFiled) (gift : call.write.request = .giftCoupon)
    (unused : call.write.coupon.id ∉ giftIds database.issued)
    (drawn : call.write.coupon.id ∈ database.uuids) : Consistent (database.perform call) := by
  have performed : call.write.perform database.store =
      some (database.store.setData call.write.key call.write.coupon.encode) :=
    CouponWrite.perform_gift gift
  have unapplied : call.write.coupon.id ∉ giftIds database.applied := by
    intro used
    apply unused
    rw [issued, giftIds, List.filter_append, List.map_append]
    exact List.mem_append_right _ used
  have ids := giftIds_perm (issued_perform performed)
  rw [giftIds_cons, if_pos gift] at ids
  constructor
  · rw [perform_of_some performed]
    exact consistent.filed
  · intro who id
    rw [applied_perform performed, ledgerEntry_snoc_gift gift]
    by_cases own : call.write.who = who ∧ call.write.coupon.id = id
    · obtain ⟨rfl, rfl⟩ := own
      have stored : (database.perform call).store.lookup
          ((couponCollection call.write.who).key call.write.coupon.id) =
          some call.write.coupon.encode := by
        rw [perform_of_some performed, ← filed]
        exact AList.lookup_insert _
      rw [stored, ledgerEntry_eq_none unapplied]
      simp
    · rw [lookup_perform_of_other performed filed own, consistent.stored, if_neg own,
        Option.or_none]
  · rw [ids.nodup_iff]
    exact List.nodup_cons.mpr ⟨unused, consistent.fresh⟩
  · intro id member
    rw [perform_of_some performed]
    rcases List.mem_cons.mp (ids.mem_iff.mp member) with rfl | member
    · exact drawn
    · exact consistent.drawn id member

/-- Applying a redeem marks its entry in the ledger, or fails where there is none. -/
theorem Consistent.perform_redeem (consistent : Consistent database) {call : CouponCall Caller}
    (filed : call.write.IsFiled) (redeem : call.write.request = .redeemCoupon) :
    Consistent (database.perform call) := by
  cases performed : call.write.perform database.store with
  | none =>
      rw [perform_of_none performed]
      exact consistent.refuse call .notFound
  | some after =>
      have ids := giftIds_perm (issued_perform performed)
      rw [giftIds_cons, if_neg (by simp [redeem]), List.nil_append] at ids
      constructor
      · rw [perform_of_some performed]
        exact consistent.filed
      · intro who id
        rw [applied_perform performed, ledgerEntry_snoc_redeem redeem]
        have entry := consistent.stored who id
        by_cases own : call.write.who = who ∧ call.write.coupon.id = id
        · obtain ⟨rfl, rfl⟩ := own
          obtain ⟨data, found, changed⟩ := CouponWrite.lookup_perform_redeem redeem performed
          rw [filed] at found changed
          rw [found, Option.map_some, eq_comm, Option.map_eq_some_iff] at entry
          obtain ⟨coupon, listed, decoded⟩ := entry
          have id_eq : coupon.id = call.write.coupon.id := ledgerEntry_id listed
          have marked : redeemedBy call.write call.write.who coupon =
              { coupon with redeemed := some true } := by
            rw [redeemedBy, if_pos ⟨rfl, id_eq.symm⟩]
          rw [perform_of_some performed, changed, listed, Option.map_some, Option.map_some,
            Option.map_some, Coupon.decode_insert_redeemed decoded.symm, marked]
        · have unmarked : ∀ coupon, ledgerEntry who database.applied id = some coupon →
              redeemedBy call.write who coupon = coupon := by
            intro coupon listed
            have id_eq : coupon.id = id := ledgerEntry_id listed
            rw [redeemedBy, id_eq, if_neg own]
          rw [lookup_perform_of_other performed filed own, entry]
          cases listed : ledgerEntry who database.applied id with
          | none => rfl
          | some coupon =>
              rw [Option.map_some, Option.map_some, Option.map_some, unmarked coupon listed]
      · rw [ids.nodup_iff]
        exact consistent.fresh
      · intro id member
        rw [perform_of_some performed]
        exact consistent.drawn id (ids.mem_iff.mp member)

theorem Consistent.next {event : Event Caller} {after : CouponDatabase Caller}
    (consistent : Consistent database) (ids : event.Ids IsDocumentId)
    (step : machine.next database event = some after) : Consistent after := by
  cases event with
  | submitTapped caller who couponTitleText couponDescriptionText uuidString =>
      simp only [machine] at step
      split at step
      · next drawn =>
          cases step
          obtain ⟨single, unused⟩ := drawn
          rw [GiftCouponViewController.submitTapped_write who couponTitleText couponDescriptionText
            single]
          cases typed : GiftCouponViewController.typedGift who couponTitleText
              couponDescriptionText uuidString with
          | none => simpa [issue] using consistent.draw uuidString
          | some write =>
              obtain ⟨gift, rfl, filed⟩ := GiftCouponViewController.typedGift_eq_some typed
              exact consistent.issue_gift caller gift filed unused
      · cases step
  | redeemCoupon caller who coupon =>
      cases step
      exact consistent.issue_redeem caller who ids
  | applyWrite index =>
      obtain ⟨call, found, rfl⟩ := Option.map_eq_some_iff.mp step
      have filed := consistent.filed call (List.mem_of_getElem? found)
      have settled := consistent.settle found
      cases request : call.write.request with
      | giftCoupon =>
          have order := giftIds_perm (issued_settle found)
          rw [giftIds_cons, if_pos request] at order
          have nodup := order.nodup_iff.mp consistent.fresh
          have drawn := consistent.drawn call.write.coupon.id
            (order.mem_iff.mpr List.mem_cons_self)
          exact settled.perform_gift filed request (List.nodup_cons.mp nodup).1 drawn
      | redeemCoupon => exact settled.perform_redeem filed request
  | rejectWrite index error =>
      obtain ⟨call, found, rfl⟩ := Option.map_eq_some_iff.mp step
      exact (consistent.settle found).refuse call error

theorem Consistent.run {events : List (Event Caller)} {after : CouponDatabase Caller}
    (consistent : Consistent database) (ids : ∀ event ∈ events, event.Ids IsDocumentId)
    (execution : machine.run events database = some after) : Consistent after := by
  have respects : machine.Respects (fun _ event => event.Ids IsDocumentId) events database :=
    .of_forall ids database
  exact Machine.run_guarded (Consistent) (fun kept ids step => kept.next ids step)
    consistent respects execution

/-! ## Where the applied writes come from -/

theorem issued_issue (database : CouponDatabase Caller) (caller : Caller)
    (writes : Option CouponWrite) :
    (database.issue caller writes).issued.Perm (database.issued ++ writes.toList) := by
  have order : (writes.toList ++ database.applied).Perm (database.applied ++ writes.toList) :=
    List.perm_append_comm
  have calls : (database.issue caller writes).pending.map (fun call => call.write) =
      database.pending.map (fun call => call.write) ++ writes.toList := by
    rw [issue, List.map_append, List.map_map]
    exact congrArg _ (List.map_id writes.toList)
  rw [issued, issued, calls, List.append_assoc, List.append_assoc]
  exact order.append_left _

theorem issued_next {event : Event Caller} {after : CouponDatabase Caller}
    (ids : event.Ids IsDocumentId) (step : machine.next database event = some after) :
    after.issued.Subperm (database.issued ++ event.asks) := by
  cases event with
  | submitTapped caller who couponTitleText couponDescriptionText uuidString =>
      obtain ⟨drawn, step⟩ := Option.ite_none_right_eq_some.mp step
      cases step
      rw [GiftCouponViewController.submitTapped_write who couponTitleText couponDescriptionText
        drawn.1]
      exact (issued_issue _ caller _).subperm
  | redeemCoupon caller who coupon =>
      cases step
      rw [CouponServices.redeemCoupon, CouponServices.write_eq ids]
      exact (issued_issue database caller _).subperm
  | applyWrite index =>
      obtain ⟨call, found, rfl⟩ := Option.map_eq_some_iff.mp step
      have taken := issued_settle found
      rw [Event.asks, List.append_nil]
      cases performed : call.write.perform (database.settle index).store with
      | none =>
          rw [perform_of_none performed, issued_refuse]
          exact List.Subperm.cons_self.trans taken.symm.subperm
      | some after => exact ((issued_perform performed).trans taken.symm).subperm
  | rejectWrite index error =>
      obtain ⟨call, found, rfl⟩ := Option.map_eq_some_iff.mp step
      rw [Event.asks, List.append_nil, issued_refuse]
      exact List.Subperm.cons_self.trans (issued_settle found).symm.subperm

/-- The applied writes of a run are the gifts typed in and the redeems called, each at most once. -/
theorem run_asked {start : Store} {events : List (Event Caller)} {after : CouponDatabase Caller}
    (ids : ∀ event ∈ events, event.Ids IsDocumentId)
    (execution : machine.run events (initial start) = some after) :
    after.applied.Subperm (events.flatMap Event.asks) := by
  have respects : machine.Respects (fun _ event => event.Ids IsDocumentId) events
      (initial start : CouponDatabase Caller) := .of_forall ids (initial start)
  have asked := Machine.run_subperm CouponDatabase.issued Event.asks issued_next respects execution
  have applied : after.applied.Sublist after.issued := List.sublist_append_right _ _
  exact applied.subperm.trans asked

/-! ## Reading the collections -/

theorem applied_next {event : Event Caller} {after : CouponDatabase Caller}
    (step : machine.next database event = some after) :
    after.applied = database.applied ∨
      ∃ write, after.applied = database.applied ++ [write] := by
  cases event with
  | submitTapped caller who couponTitleText couponDescriptionText uuidString =>
      simp only [machine] at step
      split at step
      · cases step
        exact .inl rfl
      · cases step
  | redeemCoupon caller who coupon =>
      cases step
      exact .inl rfl
  | applyWrite index =>
      obtain ⟨call, _, rfl⟩ := Option.map_eq_some_iff.mp step
      cases performed : call.write.perform (database.settle index).store with
      | none =>
          left
          rw [perform_of_none performed, applied_answer]
          exact List.append_nil _
      | some after => exact .inr ⟨call.write, applied_perform performed⟩
  | rejectWrite index error =>
      obtain ⟨call, _, rfl⟩ := Option.map_eq_some_iff.mp step
      left
      rw [applied_answer]
      exact List.append_nil _

/-- `getCoupons who` can answer a store's current content with these coupons. -/
def Reads (store : Store) (who : Who) (coupons : List Coupon) : Prop :=
  store.Answers (couponCollection who) CouponServices.getCoupons coupons

/-- After the events of a run, every answer to `getCoupons` lists the ledger of the applied
writes. -/
structure KeepsLedger (run : List (Event Caller)) (database : CouponDatabase Caller) : Prop where
  /-- Writes are applied as the calls of the run asked for them, and no more often. -/
  asked : database.applied.Subperm (run.flatMap Event.asks)
  readable : ∀ who, database.store.Readable (couponCollection who) CouponServices.getCoupons
  listed : ∀ who coupons, Reads database.store who coupons →
    (coupons.map Coupon.id).Nodup ∧ coupons.Perm (ledger who database.applied)

/-- What one event may change in what the users read. -/
structure StepKeeps (before : CouponDatabase Caller) (event : Event Caller)
    (after : CouponDatabase Caller) : Prop where
  /-- No coupon is lost or rewritten, and none goes back to unredeemed. -/
  advances : ∀ who coupons coupons', Reads before.store who coupons →
    Reads after.store who coupons' →
      ∀ coupon ∈ coupons, ∃ coupon' ∈ coupons', coupon.Advances coupon'
  /-- Only an applied write changes anything. -/
  idle : (∀ index, event ≠ .applyWrite index) → after.store = before.store
  /-- A write to one user's coupons is invisible to the other. -/
  separate : ∀ index call, event = .applyWrite index → before.pending[index]? = some call →
    ∀ who, who ≠ call.write.who →
      ∀ coupons, Reads after.store who coupons ↔ Reads before.store who coupons
  /-- Redeeming an absent coupon fails and changes nothing. -/
  absent : ∀ index call, event = .applyWrite index → before.pending[index]? = some call →
    call.write.request = .redeemCoupon →
      (∀ coupons, Reads before.store call.write.who coupons →
        call.write.coupon.id ∉ coupons.map Coupon.id) →
      after.store = before.store ∧
        ∃ answer, after.answers = before.answers ++ [answer] ∧
          answer.toCouponCall = call ∧ answer.success = false

theorem Consistent.readable (consistent : Consistent database) (who : Who) :
    database.store.Readable (couponCollection who) CouponServices.getCoupons := by
  apply Store.readable_of_decodes
  intro id fields stored
  have entry := consistent.stored who id
  rw [stored, Option.map_some, eq_comm, Option.map_eq_some_iff] at entry
  obtain ⟨coupon, _, decoded⟩ := entry
  exact ⟨coupon, decoded.symm⟩

theorem Consistent.mem_reads (consistent : Consistent database) {who : Who}
    {coupons : List Coupon} (reads : Reads database.store who coupons) {coupon : Coupon} :
    coupon ∈ coupons ↔ ledgerEntry who database.applied coupon.id = some coupon := by
  rw [Store.Answers.mem_iff reads]
  constructor
  · intro found
    obtain ⟨id, fields, stored, decoded⟩ := found
    have entry := consistent.stored who id
    rw [stored, Option.map_some, decoded, eq_comm, Option.map_eq_some_iff] at entry
    obtain ⟨listed, entry, same⟩ := entry
    rw [Except.ok.injEq] at same
    subst same
    rwa [ledgerEntry_id entry]
  · intro entry
    have stored := consistent.stored who coupon.id
    rw [entry, Option.map_some, Option.map_eq_some_iff] at stored
    obtain ⟨fields, found, decoded⟩ := stored
    exact ⟨coupon.id, fields, found, decoded⟩

theorem Consistent.fresh_applied (consistent : Consistent database) :
    (giftIds database.applied).Nodup := by
  have nodup := consistent.fresh
  rw [issued, giftIds, List.filter_append, List.map_append] at nodup
  exact nodup.of_append_right

theorem Consistent.listed (consistent : Consistent database) {who : Who} {coupons : List Coupon}
    (reads : Reads database.store who coupons) :
    (coupons.map Coupon.id).Nodup ∧ coupons.Perm (ledger who database.applied) := by
  have ids_nodup : (coupons.map Coupon.id).Nodup := by
    apply Store.Answers.ids_nodup reads
    intro id fields coupon stored decoded
    have entry := consistent.stored who id
    rw [stored, Option.map_some, decoded, eq_comm, Option.map_eq_some_iff] at entry
    obtain ⟨listed, entry, same⟩ := entry
    rw [Except.ok.injEq] at same
    rw [← same, ledgerEntry_id entry]
  have ledger_nodup : ((ledger who database.applied).map Coupon.id).Nodup :=
    consistent.fresh_applied.sublist (ledger_ids_sublist who database.applied)
  refine ⟨ids_nodup, ?_⟩
  rw [List.perm_ext_iff_of_nodup ids_nodup.of_map ledger_nodup.of_map]
  intro coupon
  rw [consistent.mem_reads reads, mem_ledger_iff consistent.fresh_applied]

theorem Consistent.keepsLedger (consistent : Consistent database) {run : List (Event Caller)}
    (asked : database.applied.Subperm (run.flatMap Event.asks)) : KeepsLedger run database where
  asked := asked
  readable := consistent.readable
  listed _ _ reads := consistent.listed reads

/-! ## What one event changes -/

theorem Consistent.perform_absent (consistent : Consistent database) {call : CouponCall Caller}
    (filed : call.write.IsFiled) (redeem : call.write.request = .redeemCoupon)
    (absent : ∀ coupons, Reads database.store call.write.who coupons →
      call.write.coupon.id ∉ coupons.map Coupon.id) :
    call.write.perform database.store = none := by
  cases performed : call.write.perform database.store with
  | none => rfl
  | some after =>
      obtain ⟨data, found, _⟩ := CouponWrite.lookup_perform_redeem redeem performed
      have entry := consistent.stored call.write.who call.write.coupon.id
      rw [← filed, found, Option.map_some, eq_comm, Option.map_eq_some_iff] at entry
      obtain ⟨coupon, entry, _⟩ := entry
      have id_eq : coupon.id = call.write.coupon.id := ledgerEntry_id entry
      obtain ⟨coupons, answered⟩ := consistent.readable call.write.who _ (List.Perm.refl _)
      have reads : Reads database.store call.write.who coupons := ⟨_, List.Perm.refl _, answered⟩
      have listed : coupon ∈ coupons := (consistent.mem_reads reads).mpr (id_eq ▸ entry)
      exact absurd (List.mem_map.mpr ⟨coupon, listed, id_eq⟩) (absent coupons reads)

theorem lookup_perform_of_who_ne {call : CouponCall Caller} (filed : call.write.IsFiled)
    {who : Who} (other : who ≠ call.write.who) (id : String) :
    (database.perform call).store.lookup ((couponCollection who).key id) =
      database.store.lookup ((couponCollection who).key id) := by
  cases performed : call.write.perform database.store with
  | none => rw [perform_of_none performed, answer_store]
  | some after =>
      exact lookup_perform_of_other performed filed fun own => other own.1.symm

theorem Consistent.advances (consistent : Consistent database) {event : Event Caller}
    {after : CouponDatabase Caller} (after_consistent : Consistent after)
    (step : machine.next database event = some after) {who : Who} {coupons coupons' : List Coupon}
    (reads : Reads database.store who coupons) (reads' : Reads after.store who coupons')
    {coupon : Coupon} (member : coupon ∈ coupons) :
    ∃ coupon' ∈ coupons', coupon.Advances coupon' := by
  have entry := (consistent.mem_reads reads).mp member
  rcases applied_next step with same | ⟨write, grown⟩
  · refine ⟨coupon, ?_, .inl rfl⟩
    rw [after_consistent.mem_reads reads', same]
    exact entry
  · obtain ⟨coupon', entry', advanced⟩ := ledgerEntry_advances entry write
    have id_eq : coupon'.id = coupon.id := ledgerEntry_id entry'
    refine ⟨coupon', ?_, advanced⟩
    rw [after_consistent.mem_reads reads', grown, id_eq]
    exact entry'

theorem Consistent.stepKeeps (consistent : Consistent database) {event : Event Caller}
    {after : CouponDatabase Caller} (ids : event.Ids IsDocumentId)
    (step : machine.next database event = some after) : StepKeeps database event after where
  advances who coupons coupons' reads reads' coupon member :=
    consistent.advances (consistent.next ids step) step reads reads' member
  idle := by
    intro other
    cases event with
    | submitTapped caller who couponTitleText couponDescriptionText uuidString =>
        simp only [machine] at step
        split at step
        · cases step
          rfl
        · cases step
    | redeemCoupon caller who coupon =>
        cases step
        rfl
    | applyWrite index => exact absurd rfl (other index)
    | rejectWrite index error =>
        obtain ⟨call, _, rfl⟩ := Option.map_eq_some_iff.mp step
        rfl
  separate := by
    intro index call event_eq found who other coupons
    subst event_eq
    obtain ⟨taken, found', rfl⟩ := Option.map_eq_some_iff.mp step
    have call_eq : call = taken := Option.some.inj (found.symm.trans found')
    subst call_eq
    have filed := consistent.filed call (List.mem_of_getElem? found)
    have same : ∀ id, ((database.settle index).perform call).store.lookup
        ((couponCollection who).key id) = database.store.lookup ((couponCollection who).key id) :=
      lookup_perform_of_who_ne filed other
    constructor
    · intro reads
      exact Store.Answers.of_lookup_eq reads fun id => (same id).symm
    · intro reads
      exact Store.Answers.of_lookup_eq reads same
  absent := by
    intro index call event_eq found redeem absent
    subst event_eq
    obtain ⟨taken, found', rfl⟩ := Option.map_eq_some_iff.mp step
    have call_eq : call = taken := Option.some.inj (found.symm.trans found')
    subst call_eq
    have filed := consistent.filed call (List.mem_of_getElem? found)
    have missing := (consistent.settle found).perform_absent filed redeem absent
    rw [perform_of_none missing]
    exact ⟨rfl, _, rfl, rfl, rfl⟩

/-- Starting from empty coupon collections, every run of gifts under fresh UUIDs and of redeems of
coupons whose ids are document ids keeps the ledger, and so does every further event. -/
theorem run_keepsLedger {start : Store} (empty : ∀ who, start.documents (couponCollection who) = [])
    {events : List (Event Caller)} (ids : ∀ event ∈ events, event.Ids IsDocumentId)
    {database : CouponDatabase Caller}
    (execution : machine.run events (initial start) = some database) :
    KeepsLedger events database ∧
      ∀ event after, event.Ids IsDocumentId → machine.next database event = some after →
        StepKeeps database event after := by
  have consistent : Consistent database := (Consistent.initial empty).run ids execution
  constructor
  · exact consistent.keepsLedger (run_asked ids execution)
  · intro event after single step
    exact consistent.stepKeeps single step

/-- The coupon of the sample runs. -/
def massage : Coupon where
  id := "A"
  title := "Massage"
  description := "One hour"
  redeemed := some false

/-- Antonio gifts Lauren the coupon. -/
def gifted : List (Event Who) :=
  [.submitTapped .antonio .antonio (some massage.title) (some massage.description) massage.id,
    .applyWrite 0]

/-- The gifted coupon is redeemed by both, and the redeems arrive the other way round. -/
def redeemedTwice : List (Event Who) :=
  gifted ++
    [.redeemCoupon .lauren .lauren massage, .redeemCoupon .antonio .lauren massage,
      .applyWrite 1, .applyWrite 0]

theorem redeemedTwice_keepsLedger :
    ∃ database, machine.run redeemedTwice (initial ∅) = some database ∧
      KeepsLedger redeemedTwice database := by
  have single : IsDocumentId massage.id := by decide
  have ids : ∀ event ∈ redeemedTwice, event.Ids IsDocumentId := by
    simp [redeemedTwice, gifted, Event.Ids, single]
  have runs : ∃ database, machine.run redeemedTwice (initial ∅) = some database := ⟨_, rfl⟩
  obtain ⟨database, execution⟩ := runs
  exact ⟨database, execution, (run_keepsLedger (fun _ => rfl) ids execution).1⟩

/-- Over redeems of arbitrary coupon values the ledger breaks: a leading slash redeems the coupon
of another id. -/
theorem slash_id_redeems_other :
    ¬ ∀ (events : List (Event Who)) database,
      machine.run events (initial ∅) = some database → KeepsLedger events database := by
  intro keeps
  have ledgerOf := keeps
    (gifted ++ [.redeemCoupon .lauren .lauren { massage with id := "/A" }, .applyWrite 0]) _ rfl
  obtain ⟨coupons, answered⟩ := ledgerOf.readable .lauren _ (List.Perm.refl _)
  have reads : Reads _ .lauren coupons := ⟨_, List.Perm.refl _, answered⟩
  have redeemed : { massage with redeemed := some true } ∈ coupons := by
    rw [Store.Answers.mem_iff reads]
    exact ⟨"A", _, rfl, Coupon.decode_insert_redeemed (Coupon.decode_encode massage)⟩
  have listed := (ledgerOf.listed .lauren coupons reads).2.mem_iff.mp redeemed
  exact absurd listed (by decide)

end CouponDatabase

end Celeste
