import Celeste.Model

/-!
# Reading a collection

The completion blocks of `getCalendarEvents` and `getCoupons`.  Both run the same loop over the
snapshot with `try!` around the decoder, so a document that does not decode stops the process
before the caller hears anything.  They report every answer as a value exactly when every document
of the snapshot is a record of the expected shape.
-/

namespace Celeste

open Fallible

/-! ## Answers -/

/-- The failures of calendar requests. -/
inductive CalendarFailures
  | calendarDataError (error : FirestoreError)
  | decodingError (message : String)
  deriving DecidableEq

/-- The failures of coupon requests. -/
inductive CouponFailures
  | couponDataError (error : FirestoreError)
  | decodingError (message : String)
  deriving DecidableEq

/-- The values of the protocol `resultFailures`. -/
inductive ResultFailures
  | calendar (failure : CalendarFailures)
  | coupon (failure : CouponFailures)
  deriving DecidableEq

/-- The failure is one of the two `decodingError` cases. -/
def ResultFailures.IsDecodingError (reason : ResultFailures) : Prop :=
  ∃ message, reason = .calendar (.decodingError message) ∨
    reason = .coupon (.decodingError message)

/-- The `Result` handed to a completion handler. -/
inductive Result (α : Type)
  | success (value : α)
  | failure (reason : ResultFailures)
  deriving DecidableEq

/-- What `getDocuments` hands to its block: an error, or the documents' data in order. -/
abbrev QueryAnswer := Except FirestoreError (List Fields)

/-- One run of a block: the completions it made, and the error a `try!` trapped on. -/
structure BlockRun (α : Type) where
  completions : List α
  trap : Option DecodingError
  deriving DecidableEq

/-- The block both services pass to `getDocuments`. -/
def handleDocuments {α : Type} (decode : Fields → Except DecodingError α)
    (dataError : FirestoreError → ResultFailures) : QueryAnswer → BlockRun (Result (List α))
  | .error error => { completions := [.failure (dataError error)], trap := none }
  | .ok documents =>
      match collect decode [] documents with
      | .error error => { completions := [], trap := some error }
      | .ok elements => { completions := [.success elements], trap := none }

/-- `CalendarServices.getCalendarEvents` on one answer. -/
def CalendarServices.getCalendarEvents : QueryAnswer → BlockRun (Result (List CalendarEvent)) :=
  handleDocuments CalendarEvent.decode fun error => .calendar (.calendarDataError error)

/-- `CouponServices.getCoupons` on one answer. -/
def CouponServices.getCoupons : QueryAnswer → BlockRun (Result (List Coupon)) :=
  handleDocuments Coupon.decode fun error => .coupon (.couponDataError error)

section Blocks

variable {α : Type} {decode : Fields → Except DecodingError α}
  {dataError : FirestoreError → ResultFailures} {documents : List Fields}

theorem handleDocuments_of_decodes {elements : List α}
    (decoded : documents.map decode = elements.map .ok) :
    handleDocuments decode dataError (.ok documents) =
      { completions := [.success elements], trap := none } := by
  simp [handleDocuments, collect_nil_eq_ok_iff.mpr decoded]

theorem handleDocuments_of_undecodable {document : Fields} {error : DecodingError}
    (member : document ∈ documents) (failed : decode document = .error error) :
    ∃ trapped, handleDocuments decode dataError (.ok documents) =
      { completions := [], trap := some trapped } := by
  have stops : ∃ trapped, collect decode [] documents = .error trapped :=
    collect_fails_iff.mpr ⟨document, member, error, failed⟩
  obtain ⟨trapped, stops⟩ := stops
  exact ⟨trapped, by simp [handleDocuments, stops]⟩

theorem exists_elements
    (decodes : ∀ document ∈ documents, ∃ element, decode document = .ok element) :
    ∃ elements : List α, documents.map decode = elements.map .ok := by
  induction documents with
  | nil => exact ⟨[], rfl⟩
  | cons document documents ih =>
      obtain ⟨element, head⟩ := decodes document List.mem_cons_self
      obtain ⟨elements, tail⟩ := ih fun other member =>
        decodes other (List.mem_cons_of_mem document member)
      exact ⟨element :: elements, by simp [head, tail]⟩

theorem decodes_of_handleDocuments {elements : List α}
    (answered : handleDocuments decode dataError (.ok documents) =
      { completions := [.success elements], trap := none }) :
    documents.map decode = elements.map .ok := by
  rw [handleDocuments] at answered
  cases collected : collect decode [] documents with
  | error error => simp [collected] at answered
  | ok results =>
      simp only [collected, BlockRun.mk.injEq, List.cons.injEq, Result.success.injEq, and_true]
        at answered
      rw [← answered]
      exact collect_nil_eq_ok_iff.mp collected

end Blocks

/-! ## Bad data as a value -/

/-- A block reports its answer as a value: it does not trap, it completes once, it succeeds with
one element per document in order exactly when there was no error and every document decodes, and
an undecodable document gives the decoding failure. -/
structure ReportsAsValue {α : Type} (decode : Fields → Except DecodingError α)
    (answer : QueryAnswer) (ran : BlockRun (Result (List α))) : Prop where
  no_trap : ran.trap = none
  once : ∃ result, ran.completions = [result]
  success_iff : ∀ elements, ran.completions = [.success elements] ↔
    ∃ documents, answer = .ok documents ∧ documents.map decode = elements.map .ok
  undecodable : ∀ documents, answer = .ok documents →
    (∃ document ∈ documents, ∃ error, decode document = .error error) →
      ∃ reason, ran.completions = [.failure reason] ∧ reason.IsDecodingError

/-- Every document of the answer, if there is a snapshot, satisfies a predicate. -/
def EveryDocument (shape : Fields → Prop) (answer : QueryAnswer) : Prop :=
  ∀ documents, answer = .ok documents → ∀ document ∈ documents, shape document

theorem reportsAsValue_of_error {α : Type} {decode : Fields → Except DecodingError α}
    {dataError : FirestoreError → ResultFailures} (error : FirestoreError) :
    ReportsAsValue decode (.error error) (handleDocuments decode dataError (.error error)) where
  no_trap := rfl
  once := ⟨_, rfl⟩
  success_iff := by simp [handleDocuments]
  undecodable := by simp

theorem reportsAsValue_of_decodes {α : Type} {decode : Fields → Except DecodingError α}
    {dataError : FirestoreError → ResultFailures} {documents : List Fields}
    (decodes : ∀ document ∈ documents, ∃ element, decode document = .ok element) :
    ReportsAsValue decode (.ok documents) (handleDocuments decode dataError (.ok documents)) := by
  obtain ⟨elements, decoded⟩ := exists_elements decodes
  rw [handleDocuments_of_decodes decoded]
  constructor
  · rfl
  · exact ⟨_, rfl⟩
  · intro others
    simp only [List.cons.injEq, Result.success.injEq, and_true, Except.ok.injEq, exists_eq_left',
      decoded]
    constructor
    · intro same
      rw [same]
    · intro same
      exact List.map_injective_iff.mpr (fun _ _ => Except.ok.inj) same
  · intro listed same broken
    obtain ⟨document, member, error, failed⟩ := broken
    rw [Except.ok.injEq] at same
    subst same
    obtain ⟨element, decoded⟩ := decodes document member
    simp [decoded] at failed

/-- A block reports as a value exactly the answers all of whose documents decode. -/
theorem reportsAsValue_iff {α : Type} {decode : Fields → Except DecodingError α}
    {dataError : FirestoreError → ResultFailures} {answer : QueryAnswer} :
    ReportsAsValue decode answer (handleDocuments decode dataError answer) ↔
      EveryDocument (fun document => ∃ element, decode document = .ok element) answer := by
  cases answer with
  | error error => simp [EveryDocument, reportsAsValue_of_error]
  | ok documents =>
      constructor
      · intro reports listed same document member
        rw [Except.ok.injEq] at same
        subst same
        cases failed : decode document with
        | ok element => exact ⟨element, rfl⟩
        | error error =>
            have traps : ∃ trapped, handleDocuments decode dataError (.ok documents) =
                { completions := [], trap := some trapped } :=
              handleDocuments_of_undecodable member failed
            obtain ⟨trapped, ran⟩ := traps
            have no_trap := reports.no_trap
            simp [ran] at no_trap
      · intro decodes
        exact reportsAsValue_of_decodes (decodes documents rfl)

/-- The calendar and the coupon query report an answer as a value exactly when it is an error or
every document has the record's required fields at their types. -/
theorem queries_report_as_value_iff (answer : QueryAnswer) :
    (ReportsAsValue CalendarEvent.decode answer (CalendarServices.getCalendarEvents answer) ↔
      EveryDocument CalendarEvent.IsDocument answer) ∧
    (ReportsAsValue Coupon.decode answer (CouponServices.getCoupons answer) ↔
      EveryDocument Coupon.IsDocument answer) := by
  constructor
  · rw [CalendarServices.getCalendarEvents, reportsAsValue_iff]
    simp only [CalendarEvent.decode_succeeds_iff]
  · rw [CouponServices.getCoupons, reportsAsValue_iff]
    simp only [Coupon.decode_succeeds_iff]

/-- An event document whose type is outside the enumeration. -/
def unknownTypeDocument : Fields :=
  .literal
    [("date", .string "2020/09/12"),
      ("eventTitle", .string "Picnic"),
      ("eventType", .string "Picnic"),
      ("id", .string "E621E1F8-C36C-495A-93FC-0C247A3E6E5F")]

/-- A snapshot with one document of an unknown type takes the calendar query down. -/
theorem unknown_type_traps :
    ¬ ReportsAsValue CalendarEvent.decode (.ok [unknownTypeDocument])
      (CalendarServices.getCalendarEvents (.ok [unknownTypeDocument])) := by
  intro reports
  exact absurd reports.no_trap (by decide)

/-! ## Reading the store -/

namespace Store

/-- A query block on the current content of a collection can succeed with these elements. -/
def Answers {α : Type} (store : Store) (collection : CollectionReference)
    (block : QueryAnswer → BlockRun (Result (List α))) (elements : List α) : Prop :=
  ∃ snapshot : List DocumentSnapshot, snapshot.Perm (store.documents collection) ∧
    block (.ok (snapshot.map Sigma.snd)) = { completions := [.success elements], trap := none }

/-- Every answer to the query is a success. -/
def Readable {α : Type} (store : Store) (collection : CollectionReference)
    (block : QueryAnswer → BlockRun (Result (List α))) : Prop :=
  ∀ snapshot : List DocumentSnapshot, snapshot.Perm (store.documents collection) →
    ∃ elements,
      block (.ok (snapshot.map Sigma.snd)) = { completions := [.success elements], trap := none }

variable {α : Type} {store : Store} {collection : CollectionReference}
  {decode : Fields → Except DecodingError α} {dataError : FirestoreError → ResultFailures}
  {elements : List α}

theorem readable_of_decodes
    (decodes : ∀ id fields, store.lookup (collection.key id) = some fields →
      ∃ element, decode fields = .ok element) :
    store.Readable collection (handleDocuments decode dataError) := by
  intro snapshot same
  have each : ∀ fields ∈ snapshot.map Sigma.snd, ∃ element, decode fields = .ok element := by
    intro fields member
    obtain ⟨document, listed, rfl⟩ := List.mem_map.mp member
    obtain ⟨stored, id, key_eq⟩ := Store.mem_documents_iff.mp (same.mem_iff.mp listed)
    exact decodes id document.2 (key_eq ▸ stored)
  obtain ⟨elements, decoded⟩ := exists_elements each
  exact ⟨elements, handleDocuments_of_decodes decoded⟩

theorem Answers.mem_iff
    (answers : store.Answers collection (handleDocuments decode dataError) elements)
    {element : α} :
    element ∈ elements ↔
      ∃ id fields, store.lookup (collection.key id) = some fields ∧
        decode fields = .ok element := by
  obtain ⟨snapshot, same, answered⟩ := answers
  rw [mem_iff_of_decoded (decodes_of_handleDocuments answered)]
  constructor
  · intro found
    obtain ⟨fields, member, decoded⟩ := found
    obtain ⟨document, listed, rfl⟩ := List.mem_map.mp member
    obtain ⟨stored, id, key_eq⟩ := Store.mem_documents_iff.mp (same.mem_iff.mp listed)
    exact ⟨id, document.2, key_eq ▸ stored, decoded⟩
  · intro found
    obtain ⟨id, fields, stored, decoded⟩ := found
    have listed : (⟨collection.key id, fields⟩ : DocumentSnapshot) ∈ snapshot :=
      same.mem_iff.mpr (Store.mem_documents_iff.mpr ⟨stored, id, rfl⟩)
    exact ⟨fields, List.mem_map_of_mem listed, decoded⟩

/-- Where documents carry the id they are stored under, an answer holds each id once. -/
theorem Answers.ids_nodup {ident : α → String}
    (answers : store.Answers collection (handleDocuments decode dataError) elements)
    (own : ∀ id fields element, store.lookup (collection.key id) = some fields →
      decode fields = .ok element → ident element = id) :
    (elements.map ident).Nodup := by
  obtain ⟨snapshot, same, answered⟩ := answers
  have decoded := decodes_of_handleDocuments answered
  rw [List.map_map] at decoded
  have keys : snapshot.map Sigma.fst = elements.map (collection.key ∘ ident) := by
    apply map_eq_map_of_decoded decoded
    intro document member element decodes
    obtain ⟨stored, id, key_eq⟩ := Store.mem_documents_iff.mp (same.mem_iff.mp member)
    have id_eq : ident element = id := own id document.2 element (key_eq ▸ stored) decodes
    rw [key_eq, Function.comp_apply, id_eq]
  have nodup : (snapshot.map Sigma.fst).Nodup :=
    (same.map Sigma.fst).nodup_iff.mpr Store.documents_keys_nodup
  rw [keys, ← List.map_map] at nodup
  exact nodup.of_map

theorem Answers.of_lookup_eq {other : Store}
    {block : QueryAnswer → BlockRun (Result (List α))}
    (answers : store.Answers collection block elements)
    (same : ∀ id, other.lookup (collection.key id) = store.lookup (collection.key id)) :
    other.Answers collection block elements := by
  obtain ⟨snapshot, perm, answered⟩ := answers
  have documents : (store.documents collection).Perm (other.documents collection) := by
    rw [List.perm_ext_iff_of_nodup Store.documents_nodup Store.documents_nodup]
    intro document
    rw [Store.mem_documents_iff, Store.mem_documents_iff]
    constructor
    · intro found
      obtain ⟨stored, id, key_eq⟩ := found
      exact ⟨by rw [key_eq, same, ← key_eq, stored], id, key_eq⟩
    · intro found
      obtain ⟨stored, id, key_eq⟩ := found
      exact ⟨by rw [key_eq, ← same, ← key_eq, stored], id, key_eq⟩
  exact ⟨snapshot, perm.trans documents, answered⟩

end Store

end Celeste
