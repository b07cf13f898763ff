import Celeste.Queries
import Celeste.Library.CellWrites
import Celeste.Library.Machine

/-!
# The Calendar collection

Any number of clients post, remove and read events; each document write is applied, or rejected,
on its own and at any later time.  The collection is the replay of the writes applied so far, so it
presents the finite map from ids to the events last posted under them.  Ids must be single path
segments: a slash sends the document to another key.
-/

namespace Celeste

open Fallible

/-- `reference(to: .Calendar)`. -/
def calendarCollection : CollectionReference where
  path := ["Calendar"]
  odd := rfl

/-! ## Writes of the calendar service -/

/-- A write of the calendar service, at the document it resolved. -/
inductive CalendarWrite
  | setData (key : DocumentKey) (event : CalendarEvent)
  | delete (key : DocumentKey)
  deriving DecidableEq

namespace CalendarWrite

/-- The document a write touches. -/
def key : CalendarWrite → DocumentKey
  | .setData key _ => key
  | .delete key => key

/-- The store after Firestore applied a write. -/
def perform (store : Store) : CalendarWrite → Store
  | .setData key event => store.setData key event.encode
  | .delete key => store.delete key

/-- Calendar writes as writes to independent documents. -/
def cells : CellWrites CalendarWrite DocumentKey Fields where
  key := key
  effect
    | .setData _ event => fun _ => some event.encode
    | .delete _ => fun _ => none

theorem lookup_perform (store : Store) (write : CalendarWrite) :
    (fun key => (write.perform store).lookup key) =
      cells.apply (fun key => store.lookup key) write := by
  funext key
  cases write with
  | setData target event =>
      by_cases same : key = target
      · subst same
        simp [perform, Store.setData, CellWrites.apply, cells, CalendarWrite.key]
      · simp [perform, Store.setData, CellWrites.apply, cells, CalendarWrite.key, same,
          AList.lookup_insert_ne]
  | delete target =>
      by_cases same : key = target
      · subst same
        simp [perform, Store.delete, CellWrites.apply, cells, CalendarWrite.key]
      · simp [perform, Store.delete, CellWrites.apply, cells, CalendarWrite.key, same,
          AList.lookup_erase_ne]

/-- The store after a log of writes is the replay of the log, document by document. -/
theorem lookup_foldl_perform (start : Store) (log : List CalendarWrite) :
    (fun key => (log.foldl perform start).lookup key) =
      cells.replay (fun key => start.lookup key) log := by
  induction log generalizing start with
  | nil => rfl
  | cons write log ih =>
      rw [List.foldl_cons, ih, lookup_perform]
      rfl

/-- A write directly under the Calendar collection, an event under its own id. -/
def IsFiled : CalendarWrite → Prop
  | .setData key event => IsDocumentId event.id ∧ key = calendarCollection.key event.id
  | .delete key => ∃ id, key = calendarCollection.key id

end CalendarWrite

namespace CalendarServices

/-- What one call of `postCalendarEvents` does before it returns. -/
structure PostCall where
  /-- The `setData` writes issued, in order. -/
  writes : List CalendarWrite
  /-- The completions made, none when an id trapped on the way. -/
  completions : List Bool
  deriving DecidableEq

/-- `CalendarServices.postCalendarEvents`: the `forEach`, then `completion(true)`. -/
def postCalendarEvents : List CalendarEvent → PostCall
  | [] => { writes := [], completions := [true] }
  | event :: events =>
      match calendarCollection.document event.id with
      | none => { writes := [], completions := [] }
      | some key =>
          { writes := .setData key event :: (postCalendarEvents events).writes
            completions := (postCalendarEvents events).completions }

/-- The block each `setData` of `postCalendarEvents` gets: the completions it makes. -/
def postReported : Option FirestoreError → List Bool
  | some _ => [false]
  | none => []

/-- `CalendarServices.removeCalendarEvent`: the write it issues, or a trap on the id. -/
def removeCalendarEvent (event : CalendarEvent) : Option CalendarWrite :=
  (calendarCollection.document event.id).map .delete

/-- The block `removeCalendarEvent` passes to `delete`: the completion it makes. -/
def removeReported : Option FirestoreError → Bool
  | some _ => false
  | none => true

/-- Over document ids a batch writes every event under its own id, in order. -/
theorem postCalendarEvents_writes {events : List CalendarEvent}
    (ids : ∀ event ∈ events, IsDocumentId event.id) :
    (postCalendarEvents events).writes =
      events.map fun event => .setData (calendarCollection.key event.id) event := by
  induction events with
  | nil => rfl
  | cons event events ih =>
      have resolved : calendarCollection.document event.id =
          some (calendarCollection.key event.id) :=
        calendarCollection.document_of_isDocumentId (ids event List.mem_cons_self)
      have rest := ih fun other member => ids other (List.mem_cons_of_mem event member)
      simp only [postCalendarEvents, resolved, rest, List.map_cons]

theorem mem_postCalendarEvents_isFiled {events : List CalendarEvent}
    (ids : ∀ event ∈ events, IsDocumentId event.id) :
    ∀ write ∈ (postCalendarEvents events).writes, write.IsFiled := by
  intro write member
  rw [postCalendarEvents_writes ids] at member
  obtain ⟨event, posted, rfl⟩ := List.mem_map.mp member
  exact ⟨ids event posted, rfl⟩

theorem removeCalendarEvent_eq {event : CalendarEvent} (single : IsDocumentId event.id) :
    removeCalendarEvent event = some (.delete (calendarCollection.key event.id)) := by
  rw [removeCalendarEvent, calendarCollection.document_of_isDocumentId single]
  rfl

theorem removeCalendarEvent_target {event : CalendarEvent} (write : CalendarWrite)
    (issued : removeCalendarEvent event = some write) :
    ∃ key, calendarCollection.document event.id = some key ∧ ∀ store : Store,
      (write.perform store).lookup key = none ∧
        ∀ other, other ≠ key → (write.perform store).lookup other = store.lookup other := by
  obtain ⟨key, resolved, rfl⟩ := Option.map_eq_some_iff.mp issued
  refine ⟨key, resolved, ?_⟩
  intro store
  constructor
  · exact AList.lookup_erase key store
  · intro other differs
    exact AList.lookup_erase_ne differs

/-- The removal of an event deletes the document with the event's id and no other. -/
def DeletesOwn (event : CalendarEvent) : Prop :=
  ∃ write, removeCalendarEvent event = some write ∧ ∀ store : Store,
    (write.perform store).lookup (calendarCollection.key event.id) = none ∧
      ∀ other, other ≠ calendarCollection.key event.id →
        (write.perform store).lookup other = store.lookup other

/-- A removal deletes the event's own document exactly if its id is one path segment. -/
theorem deletesOwn_iff {event : CalendarEvent} : DeletesOwn event ↔ IsDocumentId event.id := by
  rw [← calendarCollection.document_eq_key_iff]
  constructor
  · rintro ⟨write, issued, deletes⟩
    obtain ⟨key, resolved, deleted⟩ := removeCalendarEvent_target write issued
    rw [resolved]
    by_contra other_key
    have differs : key ≠ calendarCollection.key event.id := by
      intro same
      exact other_key (congrArg some same)
    -- a store that holds the document under the key the id resolved to
    have kept := (deletes (AList.insert key ∅ ∅)).2 key differs
    rw [(deleted _).1, AList.lookup_insert] at kept
    cases kept
  · intro resolved
    refine ⟨.delete (calendarCollection.key event.id), ?_, ?_⟩
    · rw [removeCalendarEvent, resolved]
      rfl
    · intro store
      constructor
      · exact AList.lookup_erase _ store
      · intro other differs
        exact AList.lookup_erase_ne differs

end CalendarServices

/-! ## The collection and its clients -/

/-- The stored documents, the writes in flight and the writes applied, oldest first. -/
structure CalendarDatabase where
  store : Store
  pending : List CalendarWrite
  applied : List CalendarWrite

namespace CalendarDatabase

/-- A call by some client, or the fate of one write in flight. -/
inductive Event
  | postCalendarEvents (events : List CalendarEvent)
  | removeCalendarEvent (event : CalendarEvent)
  | applyWrite (index : Nat)
  | rejectWrite (index : Nat)

/-- A database nobody has written to yet. -/
def initial (store : Store) : CalendarDatabase where
  store := store
  pending := []
  applied := []

/-- Issue writes: they reach the server later. -/
def issue (database : CalendarDatabase) (writes : List CalendarWrite) : CalendarDatabase :=
  { database with pending := database.pending ++ writes }

/-- Apply one write. -/
def perform (database : CalendarDatabase) (write : CalendarWrite) : CalendarDatabase :=
  { database with
    store := write.perform database.store
    applied := database.applied ++ [write] }

/-- Take a write out of flight. -/
def settle (database : CalendarDatabase) (index : Nat) : CalendarDatabase :=
  { database with pending := database.pending.eraseIdx index }

/-- The transitions of the collection; `getCalendarEvents` only reads. -/
def machine : Machine CalendarDatabase Event where
  next database
    | .postCalendarEvents events =>
        some (database.issue (CalendarServices.postCalendarEvents events).writes)
    | .removeCalendarEvent event =>
        some (database.issue (CalendarServices.removeCalendarEvent event).toList)
    | .applyWrite index =>
        (database.pending[index]?).map fun write => (database.settle index).perform write
    | .rejectWrite index =>
        (database.pending[index]?).map fun _ => database.settle index

/-- Every id an event of the run names satisfies a condition. -/
def Event.Ids (condition : String → Prop) : Event → Prop
  | .postCalendarEvents events => ∀ event ∈ events, condition event.id
  | .removeCalendarEvent event => condition event.id
  | .applyWrite _ | .rejectWrite _ => True

/-- The writes an event of the run asks for, each under the id of its calendar event. -/
def Event.asks : Event → List CalendarWrite
  | .postCalendarEvents events =>
      events.map fun event => .setData (calendarCollection.key event.id) event
  | .removeCalendarEvent event => [.delete (calendarCollection.key event.id)]
  | .applyWrite _ | .rejectWrite _ => []

/-- The event of the latest applied write under an id, if that write was a post. -/
def latestPost (database : CalendarDatabase) (id : String) : Option CalendarEvent :=
  match CalendarWrite.cells.latest (calendarCollection.key id) database.applied with
  | some (.setData _ event) => some event
  | _ => none

/-- `getCalendarEvents` can answer a store's current content with these events. -/
def Lists (store : Store) (events : List CalendarEvent) : Prop :=
  store.Answers calendarCollection CalendarServices.getCalendarEvents events

/-- After the events of a run, the Calendar collection presents the finite map of the latest applied
writes. -/
structure PresentsMap (run : List Event) (database : CalendarDatabase) : Prop where
  /-- Writes are applied as the calls of the run asked for them, and no more often. -/
  asked : database.applied.Subperm (run.flatMap Event.asks)
  /-- Every document sits under its own id and decodes. -/
  keyed : ∀ document ∈ database.store.documents calendarCollection, ∃ id event,
    document.1 = calendarCollection.key id ∧ document.2.HoldsString "id" id ∧
      CalendarEvent.decode document.2 = .ok event
  /-- Reading never meets an undecodable document. -/
  readable : database.store.Readable calendarCollection CalendarServices.getCalendarEvents
  /-- Reading lists, once each, the latest posts that no later removal undid. -/
  listed : ∀ events, Lists database.store events →
    (events.map CalendarEvent.id).Nodup ∧
      ∀ event, event ∈ events ↔
        ∃ posted, database.latestPost event.id = some posted ∧ event = posted.stored
  /-- Removing a listed event removes exactly that event. -/
  removal : ∀ events, Lists database.store events → ∀ event ∈ events,
    ∃ write, CalendarServices.removeCalendarEvent event = some write ∧
      (∀ key, key ≠ calendarCollection.key event.id →
        (write.perform database.store).lookup key = database.store.lookup key) ∧
      ∀ remaining, Lists (write.perform database.store) remaining →
        remaining.Perm (events.erase event)

/-! ## What every run keeps -/

/-- The store is the replay of the applied writes, and every write is filed under its id. -/
structure Consistent (start : Store) (database : CalendarDatabase) : Prop where
  replayed : (fun key => database.store.lookup key) =
    CalendarWrite.cells.replay (fun key => start.lookup key) database.applied
  pending_filed : ∀ write ∈ database.pending, write.IsFiled
  applied_filed : ∀ write ∈ database.applied, write.IsFiled

variable {start : Store} {database : CalendarDatabase}

theorem Consistent.initial (start : Store) : Consistent start (initial start) where
  replayed := rfl
  pending_filed := by simp [CalendarDatabase.initial]
  applied_filed := by simp [CalendarDatabase.initial]

theorem Consistent.issue (consistent : Consistent start database) {writes : List CalendarWrite}
    (filed : ∀ write ∈ writes, write.IsFiled) : Consistent start (database.issue writes) where
  replayed := consistent.replayed
  pending_filed := by
    intro write member
    rcases List.mem_append.mp member with member | member
    · exact consistent.pending_filed write member
    · exact filed write member
  applied_filed := consistent.applied_filed

theorem Consistent.settle (consistent : Consistent start database) (index : Nat) :
    Consistent start (database.settle index) where
  replayed := consistent.replayed
  pending_filed := by
    intro write member
    exact consistent.pending_filed write (List.mem_of_mem_eraseIdx member)
  applied_filed := consistent.applied_filed

theorem Consistent.perform (consistent : Consistent start database) {write : CalendarWrite}
    (filed : write.IsFiled) : Consistent start (database.perform write) where
  replayed := by
    rw [show (database.perform write).applied = database.applied ++ [write] from rfl,
      CellWrites.replay_snoc, ← consistent.replayed]
    exact CalendarWrite.lookup_perform database.store write
  pending_filed := consistent.pending_filed
  applied_filed := by
    intro other member
    rcases List.mem_append.mp member with member | member
    · exact consistent.applied_filed other member
    · rw [List.mem_singleton.mp member]
      exact filed

theorem Consistent.next {event : Event} {after : CalendarDatabase}
    (consistent : Consistent start database) (ids : event.Ids IsDocumentId)
    (step : machine.next database event = some after) : Consistent start after := by
  cases event with
  | postCalendarEvents events =>
      cases step
      exact consistent.issue (CalendarServices.mem_postCalendarEvents_isFiled ids)
  | removeCalendarEvent event =>
      cases step
      apply consistent.issue
      rw [CalendarServices.removeCalendarEvent_eq ids]
      intro write member
      rw [Option.toList_some, List.mem_singleton] at member
      subst member
      exact ⟨event.id, rfl⟩
  | applyWrite index =>
      obtain ⟨write, pending, rfl⟩ := Option.map_eq_some_iff.mp step
      have filed := consistent.pending_filed write (List.mem_of_getElem? pending)
      exact (consistent.settle index).perform filed
  | rejectWrite index =>
      obtain ⟨write, _, rfl⟩ := Option.map_eq_some_iff.mp step
      exact consistent.settle index

theorem Consistent.run {events : List Event} {after : CalendarDatabase}
    (consistent : Consistent start database) (ids : ∀ event ∈ events, event.Ids IsDocumentId)
    (execution : machine.run events database = some after) : Consistent start after := by
  have respects : machine.Respects (fun _ event => event.Ids IsDocumentId) events database :=
    .of_forall ids database
  exact Machine.run_guarded (Consistent start) (fun kept ids step => kept.next ids step)
    consistent respects execution

/-! ## Where the applied writes come from -/

/-- The writes issued and not rejected: those in flight, then those applied. -/
def issued (database : CalendarDatabase) : List CalendarWrite :=
  database.pending ++ database.applied

theorem issued_issue (database : CalendarDatabase) (writes : List CalendarWrite) :
    (database.issue writes).issued.Perm (database.issued ++ writes) := by
  have order : (writes ++ database.applied).Perm (database.applied ++ writes) :=
    List.perm_append_comm
  simpa [issued, issue] using order.append_left database.pending

theorem issued_settle {index : Nat} {write : CalendarWrite}
    (found : database.pending[index]? = some write) :
    database.issued.Perm (write :: (database.settle index).issued) := by
  have taken := CellWrites.perm_cons_eraseIdx found
  exact taken.append_right database.applied

theorem issued_perform (database : CalendarDatabase) (write : CalendarWrite) :
    (database.perform write).issued.Perm (write :: database.issued) := by
  rw [issued, issued, show (database.perform write).applied = database.applied ++ [write] from rfl,
    ← List.append_assoc]
  exact List.perm_append_singleton write _

theorem issued_next {event : Event} {after : CalendarDatabase} (ids : event.Ids IsDocumentId)
    (step : machine.next database event = some after) :
    after.issued.Subperm (database.issued ++ event.asks) := by
  cases event with
  | postCalendarEvents events =>
      cases step
      rw [CalendarServices.postCalendarEvents_writes ids]
      exact (issued_issue database _).subperm
  | removeCalendarEvent event =>
      cases step
      rw [CalendarServices.removeCalendarEvent_eq ids]
      exact (issued_issue database _).subperm
  | applyWrite index =>
      obtain ⟨write, found, rfl⟩ := Option.map_eq_some_iff.mp step
      have moved : ((database.settle index).perform write).issued.Perm database.issued :=
        (issued_perform (database.settle index) write).trans (issued_settle found).symm
      simpa [Event.asks] using moved.subperm
  | rejectWrite index =>
      obtain ⟨write, found, rfl⟩ := Option.map_eq_some_iff.mp step
      have dropped : (database.settle index).issued.Subperm database.issued :=
        List.Subperm.cons_self.trans (issued_settle found).symm.subperm
      simpa [Event.asks] using dropped

/-- The applied writes of a run are writes its calls asked for, each at most once. -/
theorem run_asked {events : List Event} {after : CalendarDatabase}
    (ids : ∀ event ∈ events, event.Ids IsDocumentId)
    (execution : machine.run events (initial start) = some after) :
    after.applied.Subperm (events.flatMap Event.asks) := by
  have respects : machine.Respects (fun _ event => event.Ids IsDocumentId) events (initial start) :=
    .of_forall ids (initial start)
  have asked :=
    Machine.run_subperm CalendarDatabase.issued Event.asks issued_next respects execution
  have applied : after.applied.Sublist after.issued := List.sublist_append_right _ _
  exact applied.subperm.trans asked

/-! ## Reading a consistent collection -/

theorem Consistent.latestPost_id (consistent : Consistent start database) {id : String}
    {event : CalendarEvent} (last : database.latestPost id = some event) :
    event.id = id ∧ IsDocumentId id := by
  rw [latestPost] at last
  split at last
  · next key posted found =>
      cases last
      obtain ⟨member, same⟩ := CellWrites.latest_mem found
      obtain ⟨single, key_eq⟩ := consistent.applied_filed _ member
      have id_eq : event.id = id := by
        apply CollectionReference.key_inj.mp
        exact key_eq.symm.trans same
      exact ⟨id_eq, id_eq ▸ single⟩
  · cases last

/-- The documents of the collection are the latest posts in their stored form. -/
theorem Consistent.lookup_key (consistent : Consistent start database)
    (empty : start.documents calendarCollection = []) (id : String) :
    database.store.lookup (calendarCollection.key id) =
      (database.latestPost id).map CalendarEvent.encode := by
  have replayed := congrFun consistent.replayed (calendarCollection.key id)
  rw [replayed, latestPost]
  cases last : CalendarWrite.cells.latest (calendarCollection.key id) database.applied with
  | none =>
      rw [CellWrites.replay_of_unwritten (CellWrites.latest_eq_none_iff.mp last)]
      cases stored : start.lookup (calendarCollection.key id) with
      | none => rfl
      | some fields =>
          have member : (⟨calendarCollection.key id, fields⟩ : DocumentSnapshot) ∈
              start.documents calendarCollection :=
            Store.mem_documents_iff.mpr ⟨stored, id, rfl⟩
          rw [empty] at member
          cases member
  | some write =>
      cases write with
      | setData key event => exact CellWrites.replay_of_latest last fun _ => rfl
      | delete key => exact CellWrites.replay_of_latest last fun _ => rfl

theorem Consistent.document (consistent : Consistent start database)
    (empty : start.documents calendarCollection = []) {id : String} {fields : Fields}
    (stored : database.store.lookup (calendarCollection.key id) = some fields) :
    ∃ event, database.latestPost id = some event ∧ event.id = id ∧ fields = event.encode := by
  rw [consistent.lookup_key empty, Option.map_eq_some_iff] at stored
  obtain ⟨event, last, encoded⟩ := stored
  exact ⟨event, last, (consistent.latestPost_id last).1, encoded.symm⟩

theorem Consistent.readable (consistent : Consistent start database)
    (empty : start.documents calendarCollection = []) :
    database.store.Readable calendarCollection CalendarServices.getCalendarEvents := by
  apply Store.readable_of_decodes
  intro id fields stored
  obtain ⟨event, _, _, rfl⟩ := consistent.document empty stored
  exact ⟨event.stored, event.decode_encode⟩

theorem Consistent.listed (consistent : Consistent start database)
    (empty : start.documents calendarCollection = []) {events : List CalendarEvent}
    (lists : Lists database.store events) :
    (events.map CalendarEvent.id).Nodup ∧
      ∀ event, event ∈ events ↔
        ∃ posted, database.latestPost event.id = some posted ∧ event = posted.stored := by
  constructor
  · apply Store.Answers.ids_nodup lists
    intro id fields event stored decodes
    obtain ⟨posted, _, id_eq, rfl⟩ := consistent.document empty stored
    rw [CalendarEvent.decode_encode, Except.ok.injEq] at decodes
    rw [← decodes, CalendarEvent.stored_id, id_eq]
  · intro event
    rw [Store.Answers.mem_iff lists]
    constructor
    · intro found
      obtain ⟨id, fields, stored, decodes⟩ := found
      obtain ⟨posted, last, rfl, rfl⟩ := consistent.document empty stored
      rw [CalendarEvent.decode_encode, Except.ok.injEq] at decodes
      subst decodes
      exact ⟨posted, last, rfl⟩
    · intro found
      obtain ⟨posted, last, rfl⟩ := found
      have stored : database.store.lookup (calendarCollection.key posted.stored.id) =
          some posted.encode := by
        rw [consistent.lookup_key empty, last, Option.map_some]
      exact ⟨posted.stored.id, posted.encode, stored, posted.decode_encode⟩

/-! ## Removing a listed event -/

theorem latestPost_perform_delete (database : CalendarDatabase) (removed id : String) :
    (database.perform (.delete (calendarCollection.key removed))).latestPost id =
      if id = removed then none else database.latestPost id := by
  by_cases same : id = removed
  · subst same
    simp [latestPost, perform, CellWrites.latest, CellWrites.history, CalendarWrite.cells,
      CalendarWrite.key]
  · have unrelated : CalendarWrite.cells.history (calendarCollection.key id)
        [.delete (calendarCollection.key removed)] = [] := by
      simp [CellWrites.history, CalendarWrite.cells, CalendarWrite.key, Ne.symm same]
    rw [if_neg same]
    simp only [latestPost, perform, CellWrites.latest, CellWrites.history_append, unrelated,
      List.append_nil]

theorem Consistent.removal (consistent : Consistent start database)
    (empty : start.documents calendarCollection = []) {events : List CalendarEvent}
    (lists : Lists database.store events) {event : CalendarEvent} (member : event ∈ events) :
    ∃ write, CalendarServices.removeCalendarEvent event = some write ∧
      (∀ key, key ≠ calendarCollection.key event.id →
        (write.perform database.store).lookup key = database.store.lookup key) ∧
      ∀ remaining, Lists (write.perform database.store) remaining →
        remaining.Perm (events.erase event) := by
  obtain ⟨ids_nodup, mem_events⟩ := consistent.listed empty lists
  have events_nodup : events.Nodup := ids_nodup.of_map
  obtain ⟨posted, last, event_eq⟩ := (mem_events event).mp member
  have single : IsDocumentId event.id := (consistent.latestPost_id last).2
  refine ⟨_, CalendarServices.removeCalendarEvent_eq single, ?_, ?_⟩
  · intro key differs
    exact AList.lookup_erase_ne differs
  · intro remaining lists'
    have consistent' : Consistent start
        (database.perform (.delete (calendarCollection.key event.id))) :=
      consistent.perform ⟨event.id, rfl⟩
    obtain ⟨ids_nodup', mem_remaining⟩ := consistent'.listed empty lists'
    rw [List.perm_ext_iff_of_nodup ids_nodup'.of_map (events_nodup.erase event)]
    intro other
    rw [mem_remaining, events_nodup.mem_erase_iff, mem_events, latestPost_perform_delete]
    split
    · next same =>
        have unique : ∀ posted', database.latestPost other.id = some posted' →
            other = posted'.stored → other = event := by
          intro posted' last' other_eq
          rw [same, last, Option.some.injEq] at last'
          rw [other_eq, event_eq, last']
        constructor
        · rintro ⟨_, absent, _⟩
          cases absent
        · rintro ⟨differs, posted', last', other_eq⟩
          exact absurd (unique posted' last' other_eq) differs
    · next differs =>
        have other_ne : other ≠ event := fun same => differs (congrArg CalendarEvent.id same)
        simp [other_ne]

theorem Consistent.presentsMap (consistent : Consistent start database)
    (empty : start.documents calendarCollection = []) {run : List Event}
    (asked : database.applied.Subperm (run.flatMap Event.asks)) : PresentsMap run database where
  asked := asked
  keyed := by
    intro document member
    obtain ⟨stored, id, key_eq⟩ := Store.mem_documents_iff.mp member
    obtain ⟨event, _, rfl, encoded⟩ := consistent.document empty (key_eq ▸ stored)
    rw [encoded]
    exact ⟨event.id, event.stored, key_eq, event.encode_id, event.decode_encode⟩
  readable := consistent.readable empty
  listed _ lists := consistent.listed empty lists
  removal _ lists _ member := consistent.removal empty lists member

/-- Starting from an empty Calendar collection, every run over events whose ids are document ids
leaves the collection presenting the finite map of its latest writes. -/
theorem run_presentsMap {start : Store} (empty : start.documents calendarCollection = [])
    {events : List Event} (ids : ∀ event ∈ events, event.Ids IsDocumentId)
    {database : CalendarDatabase}
    (execution : machine.run events (initial start) = some database) :
    PresentsMap events database :=
  ((Consistent.initial start).run ids execution).presentsMap empty (run_asked ids execution)

/-- An event under a plain id. -/
def picnic : CalendarEvent where
  id := "picnic"
  date := "2020/09/12"
  eventType := .food
  eventLocation := none
  eventDescription := some "By the lake"
  eventTitle := "Picnic"

/-- Two posts under one id, one of them applied, and a removal still in flight. -/
theorem picnic_presentsMap :
    PresentsMap
      [.postCalendarEvents [picnic], .removeCalendarEvent picnic, .postCalendarEvents [picnic],
        .applyWrite 0]
      (((initial ∅).perform (.setData (calendarCollection.key "picnic") picnic)).issue
        [.delete (calendarCollection.key "picnic"),
          .setData (calendarCollection.key "picnic") picnic]) := by
  have execution : machine.run
      [.postCalendarEvents [picnic], .removeCalendarEvent picnic, .postCalendarEvents [picnic],
        .applyWrite 0] (initial ∅) =
      some (((initial ∅).perform (.setData (calendarCollection.key "picnic") picnic)).issue
        [.delete (calendarCollection.key "picnic"),
          .setData (calendarCollection.key "picnic") picnic]) := by rfl
  refine run_presentsMap rfl ?_ execution
  have single : IsDocumentId picnic.id := by decide
  simp [Event.Ids, single]

/-- With non-empty ids in place of document ids the collection is no map: a leading slash files an
event under another id than its own. -/
theorem slash_id_misfiles :
    ¬ ∀ events : List Event, (∀ event ∈ events, event.Ids (· ≠ "")) →
      ∀ database, machine.run events (initial ∅) = some database → PresentsMap events database := by
  intro presents
  have execution : machine.run
      [.postCalendarEvents [{ picnic with id := "/picnic" }], .applyWrite 0] (initial ∅) =
      some ((initial ∅).perform
        (.setData (calendarCollection.key "picnic") { picnic with id := "/picnic" })) := by rfl
  have map := presents _ (by simp [Event.Ids]) _ execution
  have member : (⟨calendarCollection.key "picnic",
      CalendarEvent.encode { picnic with id := "/picnic" }⟩ : DocumentSnapshot) ∈
      ((initial ∅).perform (.setData (calendarCollection.key "picnic")
        { picnic with id := "/picnic" })).store.documents calendarCollection :=
    Store.mem_documents_iff.mpr ⟨rfl, "picnic", rfl⟩
  obtain ⟨id, event, key_eq, holds, _⟩ := map.keyed _ member
  have id_eq : "picnic" = id := CollectionReference.key_inj.mp key_eq
  subst id_eq
  have own := CalendarEvent.encode_id { picnic with id := "/picnic" }
  simp only [Fields.HoldsString] at holds own
  rw [own] at holds
  simp at holds

end CalendarDatabase

end Celeste
