import Celeste.Library.Machine
import Celeste.Library.Requests

/-!
# Late replies

A client keeps the result of the last fetch that was answered.  Fetches overlap, their answers come
in any order, and each answer is a reading of a growing log at some moment since the fetch was
issued.  The value kept is that of the success delivered last, whichever fetch it answers; it is
that of the newest successful fetch wherever successes arrive in the order of issue.
-/

universe u

/-- A client that keeps a fetched value, and the laws of its machine. -/
structure Fetcher (State Event Call Value : Type u) where
  machine : Machine State Event
  requests : State → Requests Call
  value : State → Value
  /-- The number of the call an event answers. -/
  reply : Event → Option Nat
  /-- The fetch an event answers, and the value it brings unless it failed. -/
  delivery : Event → Option (Nat × Option Value)
  IsFetch : Call → Prop
  step : ∀ {before event after}, machine.next before event = some after →
    (requests before).Step (reply event) (requests after)
  value_next : ∀ {before event after}, machine.next before event = some after →
    value after = ((delivery event).bind Prod.snd).getD (value before)
  reply_of_delivery : ∀ {event number result}, delivery event = some (number, result) →
    reply event = some number
  /-- Answers to fetches, and they alone, are deliveries. -/
  delivery_iff : ∀ {before event after number call},
    machine.next before event = some after → reply event = some number →
      (requests before).calls[number]? = some call →
        (IsFetch call ↔ ∃ result, delivery event = some (number, result))

namespace Fetcher

/-- A client, the log its fetches read, and the length the log had when each call was issued. -/
structure Session (State Write : Type u) where
  client : State
  log : List Write
  issuedAt : List Nat

/-- An event of the client, or a new entry of the log. -/
inductive SessionEvent (Event Write : Type u)
  | client (event : Event)
  | write (write : Write)

variable {State Event Call Value Write : Type u} (fetcher : Fetcher State Event Call Value)

/-- A session that starts with the log empty. -/
def start (state : State) : Session State Write where
  client := state
  log := []
  issuedAt := List.replicate (fetcher.requests state).calls.length 0

/-- The client next to a log that others write too. -/
def session : Machine (Session State Write) (SessionEvent Event Write) where
  next before
    | .client event =>
        (fetcher.machine.next before.client event).map fun client =>
          { client
            log := before.log
            issuedAt :=
              before.issuedAt ++
                List.replicate ((fetcher.requests client).calls.length - before.issuedAt.length)
                  before.log.length }
    | .write write => some { before with log := before.log ++ [write] }

/-- The fetches a run answered, in the order of delivery. -/
def deliveries (past : List (SessionEvent Event Write)) : List (Nat × Option Value) :=
  past.filterMap fun
    | .client event => fetcher.delivery event
    | .write _ => none

/-- The fetches that succeeded, in the order of delivery. -/
def successes (past : List (SessionEvent Event Write)) : List (Nat × Value) :=
  (fetcher.deliveries past).filterMap fun delivery =>
    delivery.2.map fun value => (delivery.1, value)

/-- No success arrives after the success of a fetch issued later. -/
def InOrder (past : List (SessionEvent Event Write)) : Prop :=
  (fetcher.successes past).Pairwise fun earlier later => earlier.1 < later.1

/-- A value is a reading of the log at a moment between a call and now. -/
def ReadSince (Read : List Write → Value → Prop) (session : Session State Write) (number : Nat)
    (value : Value) : Prop :=
  ∃ issued, session.issuedAt[number]? = some issued ∧
    ∃ moment, issued ≤ moment ∧ moment ≤ session.log.length ∧
      Read (session.log.take moment) value

/-- What is assumed of answers: a success brings a reading since its fetch was issued. -/
def Reads (Read : List Write → Value → Prop) (session : Session State Write)
    (event : SessionEvent Event Write) : Prop :=
  ∀ clientEvent number value, event = .client clientEvent →
    fetcher.delivery clientEvent = some (number, some value) → ReadSince Read session number value

/-- What a run leaves behind, next to its past. -/
structure Recorded (Read : List Write → Value → Prop) (initial : Value)
    (past : List (SessionEvent Event Write)) (session : Session State Write) : Prop where
  value : fetcher.value session.client =
    ((fetcher.successes past).getLast?.map Prod.snd).getD initial
  numbered : (fetcher.requests session.client).Numbered
  issued_length : session.issuedAt.length = (fetcher.requests session.client).calls.length
  issued_le : ∀ issued ∈ session.issuedAt, issued ≤ session.log.length
  answered : ∀ number call, (fetcher.requests session.client).calls[number]? = some call →
    fetcher.IsFetch call → number ∉ (fetcher.requests session.client).unanswered →
      ∃ result, (number, result) ∈ fetcher.deliveries past
  closed : ∀ delivery ∈ fetcher.deliveries past,
    delivery.1 < (fetcher.requests session.client).calls.length ∧
      delivery.1 ∉ (fetcher.requests session.client).unanswered
  fetches : ∀ delivery ∈ fetcher.deliveries past, ∃ call,
    (fetcher.requests session.client).calls[delivery.1]? = some call ∧ fetcher.IsFetch call
  once : ((fetcher.deliveries past).map Prod.fst).Nodup
  read : ∀ number value, (number, some value) ∈ fetcher.deliveries past →
    ReadSince Read session number value

variable {fetcher} {Read : List Write → Value → Prop} {initial : Value}
  {past : List (SessionEvent Event Write)} {before : Session State Write}

/-- Nothing is assumed of an event that brings no answer to a fetch. -/
theorem Reads.of_undelivered {session : Session State Write} {event : SessionEvent Event Write}
    (undelivered : ∀ clientEvent, event = .client clientEvent →
      fetcher.delivery clientEvent = none) : fetcher.Reads Read session event := by
  intro clientEvent number value same delivered
  rw [undelivered clientEvent same] at delivered
  cases delivered

theorem Reads.of_delivery {session : Session State Write} {clientEvent : Event} {number : Nat}
    {value : Value} (delivered : fetcher.delivery clientEvent = some (number, some value))
    (read : ReadSince Read session number value) :
    fetcher.Reads Read session (.client clientEvent) := by
  intro other number' value' same delivered'
  cases same
  cases delivered.symm.trans delivered'
  exact read

theorem deliveries_snoc_client (past : List (SessionEvent Event Write)) (event : Event) :
    fetcher.deliveries (past ++ [.client event]) =
      fetcher.deliveries past ++ (fetcher.delivery event).toList := by
  rw [deliveries, List.filterMap_append]
  cases delivered : fetcher.delivery event with
  | none => simp [deliveries, delivered]
  | some delivery => simp [deliveries, delivered]

@[simp]
theorem deliveries_snoc_write (past : List (SessionEvent Event Write)) (write : Write) :
    fetcher.deliveries (past ++ [.write write]) = fetcher.deliveries past := by
  simp [deliveries]

theorem mem_successes {number : Nat} {value : Value} :
    (number, value) ∈ fetcher.successes past ↔
      (number, some value) ∈ fetcher.deliveries past := by
  simp only [successes, List.mem_filterMap, Option.map_eq_some_iff, Prod.mk.injEq]
  constructor
  · intro found
    obtain ⟨⟨number', result⟩, member, value', result_eq, number_eq, value_eq⟩ := found
    simp only at result_eq number_eq
    rwa [← number_eq, ← value_eq, ← result_eq]
  · intro member
    exact ⟨(number, some value), member, value, rfl, rfl, rfl⟩

theorem ReadSince.mono {session later : Session State Write} {number : Nat} {value : Value}
    (read : ReadSince Read session number value) (log : session.log <+: later.log)
    (issuedAt : session.issuedAt <+: later.issuedAt) : ReadSince Read later number value := by
  obtain ⟨issued, found, moment, since, now, reading⟩ := read
  obtain ⟨added, log_eq⟩ := log
  have bound : number < session.issuedAt.length := (List.getElem?_eq_some_iff.mp found).1
  refine ⟨issued, ?_, moment, since, ?_, ?_⟩
  · obtain ⟨issuedLater, issued_eq⟩ := issuedAt
    rw [← issued_eq, List.getElem?_append_left bound, found]
  · rw [← log_eq, List.length_append]
    omega
  · rwa [← log_eq, List.take_append_of_le_length now]

theorem Recorded.start {state : State} {call : Call}
    (asked : fetcher.requests state = Requests.empty.issue call) :
    Recorded fetcher Read (fetcher.value state) []
      (fetcher.start state : Session State Write) where
  value := rfl
  numbered := by
    rw [Fetcher.start, asked]
    exact Requests.Numbered.empty.issue call
  issued_length := by simp [Fetcher.start]
  issued_le := by simp [Fetcher.start]
  answered := by
    intro number other found _ closed
    have bound := (List.getElem?_eq_some_iff.mp found).1
    rw [Fetcher.start, asked] at bound closed
    exact absurd (Requests.mem_unanswered_first bound) closed
  closed := by simp [deliveries]
  fetches := by simp [deliveries]
  once := by simp [deliveries]
  read := by simp [deliveries]

theorem Recorded.write (recorded : Recorded fetcher Read initial past before) (write : Write) :
    Recorded fetcher Read initial (past ++ [.write write])
      { before with log := before.log ++ [write] } where
  value := by
    rw [successes, deliveries_snoc_write]
    exact recorded.value
  numbered := recorded.numbered
  issued_length := recorded.issued_length
  issued_le := by
    intro issued member
    have bound := recorded.issued_le issued member
    rw [List.length_append]
    omega
  answered := by
    rw [deliveries_snoc_write]
    exact recorded.answered
  closed := by
    rw [deliveries_snoc_write]
    exact recorded.closed
  fetches := by
    rw [deliveries_snoc_write]
    exact recorded.fetches
  once := by
    rw [deliveries_snoc_write]
    exact recorded.once
  read := by
    rw [deliveries_snoc_write]
    intro number value member
    exact (recorded.read number value member).mono (List.prefix_append _ _) List.prefix_rfl

theorem successes_snoc_client (past : List (SessionEvent Event Write)) (event : Event) :
    fetcher.successes (past ++ [.client event]) =
      fetcher.successes past ++
        (fetcher.delivery event).toList.filterMap fun delivery =>
          delivery.2.map fun value => (delivery.1, value) := by
  rw [successes, deliveries_snoc_client, List.filterMap_append]
  rfl

theorem Recorded.value_client (recorded : Recorded fetcher Read initial past before)
    {event : Event} {client : State}
    (step : fetcher.machine.next before.client event = some client) :
    fetcher.value client =
      ((fetcher.successes (past ++ [.client event])).getLast?.map Prod.snd).getD initial := by
  rw [fetcher.value_next step, successes_snoc_client, recorded.value]
  cases delivered : fetcher.delivery event with
  | none => simp
  | some delivery =>
      obtain ⟨number, result⟩ := delivery
      cases result with
      | none => simp
      | some value => simp

theorem Recorded.client (recorded : Recorded fetcher Read initial past before) {event : Event}
    (reads : fetcher.Reads Read before (.client event)) {client : State}
    (step : fetcher.machine.next before.client event = some client) :
    Recorded fetcher Read initial (past ++ [.client event])
      { client
        log := before.log
        issuedAt :=
          before.issuedAt ++
            List.replicate ((fetcher.requests client).calls.length - before.issuedAt.length)
              before.log.length } := by
  have request := fetcher.step step
  have opened := request.mem_unanswered recorded.numbered
  obtain ⟨added, calls⟩ := request.calls
  have grown : (fetcher.requests before.client).calls.length ≤
      (fetcher.requests client).calls.length := by
    rw [calls, List.length_append]
    omega
  have newest : ∀ delivery, fetcher.delivery event = some delivery →
      fetcher.reply event = some delivery.1 ∧
        delivery.1 ∈ (fetcher.requests before.client).unanswered := by
    intro delivery delivered
    have replied : fetcher.reply event = some delivery.1 := fetcher.reply_of_delivery delivered
    rw [replied] at request
    exact ⟨replied, request.reply_mem⟩
  constructor
  · exact recorded.value_client step
  · exact recorded.numbered.step request
  · rw [List.length_append, List.length_replicate, recorded.issued_length]
    exact Nat.add_sub_of_le grown
  · intro issued member
    rcases List.mem_append.mp member with member | member
    · exact recorded.issued_le issued member
    · exact Nat.le_of_eq (List.eq_of_mem_replicate member)
  · intro number call found fetch closed
    rw [opened number] at closed
    have bound : number < (fetcher.requests client).calls.length :=
      (List.getElem?_eq_some_iff.mp found).1
    have old : number < (fetcher.requests before.client).calls.length := by
      by_contra new
      exact closed (.inr ⟨Nat.le_of_not_lt new, bound⟩)
    rw [calls, List.getElem?_append_left old] at found
    rw [deliveries_snoc_client]
    by_cases waiting : number ∈ (fetcher.requests before.client).unanswered
    · have replied : fetcher.reply event = some number := by
        by_contra unreplied
        exact closed (.inl ⟨waiting, unreplied⟩)
      obtain ⟨result, delivered⟩ := (fetcher.delivery_iff step replied found).mp fetch
      exact ⟨result, List.mem_append_right _ (by simp [delivered])⟩
    · obtain ⟨result, member⟩ := recorded.answered number call found fetch waiting
      exact ⟨result, List.mem_append_left _ member⟩
  · intro delivery member
    rw [deliveries_snoc_client] at member
    rw [opened delivery.1]
    rcases List.mem_append.mp member with member | member
    · obtain ⟨bound, closed⟩ := recorded.closed delivery member
      refine ⟨Nat.lt_of_lt_of_le bound grown, ?_⟩
      intro reopened
      rcases reopened with waiting | new
      · exact closed waiting.1
      · omega
    · obtain ⟨replied, waiting⟩ := newest delivery (Option.mem_toList.mp member)
      have bound := recorded.numbered.bound delivery.1 waiting
      refine ⟨Nat.lt_of_lt_of_le bound grown, ?_⟩
      intro reopened
      rcases reopened with waiting | new
      · exact waiting.2 replied
      · omega
  · intro delivery member
    rw [deliveries_snoc_client] at member
    rw [calls]
    rcases List.mem_append.mp member with member | member
    · obtain ⟨call, found, fetch⟩ := recorded.fetches delivery member
      have bound := (List.getElem?_eq_some_iff.mp found).1
      exact ⟨call, (List.getElem?_append_left bound).trans found, fetch⟩
    · have delivered := Option.mem_toList.mp member
      obtain ⟨replied, waiting⟩ := newest delivery delivered
      have bound := recorded.numbered.bound delivery.1 waiting
      have found := List.getElem?_eq_getElem bound
      have fetch := (fetcher.delivery_iff step replied found).mpr ⟨delivery.2, delivered⟩
      exact ⟨_, (List.getElem?_append_left bound).trans found, fetch⟩
  · rw [deliveries_snoc_client, List.map_append, List.nodup_append]
    refine ⟨recorded.once, ?_, ?_⟩
    · cases fetcher.delivery event <;> simp
    · intro first old second new same
      obtain ⟨earlier, earlier_member, rfl⟩ := List.mem_map.mp old
      obtain ⟨later, later_member, rfl⟩ := List.mem_map.mp new
      have closed := (recorded.closed earlier earlier_member).2
      have waiting := (newest later (Option.mem_toList.mp later_member)).2
      exact closed (same ▸ waiting)
  · intro number value member
    have prefix_issued : before.issuedAt <+: before.issuedAt ++
        List.replicate ((fetcher.requests client).calls.length - before.issuedAt.length)
          before.log.length := List.prefix_append _ _
    rw [deliveries_snoc_client] at member
    rcases List.mem_append.mp member with member | member
    · exact (recorded.read number value member).mono List.prefix_rfl prefix_issued
    · have read := reads event number value rfl (Option.mem_toList.mp member)
      exact read.mono List.prefix_rfl prefix_issued

theorem run_recorded {state : State} {call : Call}
    (asked : fetcher.requests state = Requests.empty.issue call)
    {events : List (SessionEvent Event Write)} {after : Session State Write}
    (reads : fetcher.session.Respects (fetcher.Reads Read) events (fetcher.start state))
    (execution : fetcher.session.run events (fetcher.start state) = some after) :
    Recorded fetcher Read (fetcher.value state) events after := by
  have recorded := Machine.run_history (Recorded fetcher Read (fetcher.value state))
    (fun {past before event after} recorded reads step => ?_)
    (Recorded.start asked) reads execution
  · exact recorded
  · cases event with
    | client event =>
        obtain ⟨client, stepped, rfl⟩ := Option.map_eq_some_iff.mp step
        exact recorded.client reads stepped
    | write write =>
        cases step
        exact recorded.write write

/-! ## What the client shows -/

/-- The value shown is the last success, read at a moment since its fetch was issued. -/
structure Shows (fetcher : Fetcher State Event Call Value) (Read : List Write → Value → Prop)
    (past : List (SessionEvent Event Write)) (session : Session State Write)
    (number issued moment : Nat) : Prop where
  last : (fetcher.successes past).getLast? = some (number, fetcher.value session.client)
  issued_eq : session.issuedAt[number]? = some issued
  since : issued ≤ moment
  now : moment ≤ session.log.length
  read : Read (session.log.take moment) (fetcher.value session.client)

/-- Every fetch issued later than a call failed. -/
def Newest (fetcher : Fetcher State Event Call Value) (past : List (SessionEvent Event Write))
    (session : Session State Write) (number : Nat) : Prop :=
  ∀ later call, number < later → (fetcher.requests session.client).calls[later]? = some call →
    fetcher.IsFetch call →
      (later, none) ∈ fetcher.deliveries past ∧ later ∉ (fetcher.successes past).map Prod.fst

/-- The client shows its initial value until a fetch succeeds, and then the last success. -/
theorem Recorded.shows (recorded : Recorded fetcher Read initial past before) :
    (fetcher.successes past = [] ∧ fetcher.value before.client = initial) ∨
      ∃ number issued moment, Shows fetcher Read past before number issued moment := by
  have value := recorded.value
  cases last : (fetcher.successes past).getLast? with
  | none =>
      left
      rw [last] at value
      exact ⟨List.getLast?_eq_none_iff.mp last, value⟩
  | some success =>
      right
      obtain ⟨number, shown⟩ := success
      rw [last, Option.map_some, Option.getD_some] at value
      simp only at value
      have member : (number, some shown) ∈ fetcher.deliveries past :=
        mem_successes.mp (List.mem_of_getLast? last)
      obtain ⟨issued, issued_eq, moment, since, now, read⟩ := recorded.read number shown member
      rw [← value] at last read
      exact ⟨number, issued, moment, last, issued_eq, since, now, read⟩

/-- A fetch is answered once: by a success or by a failure. -/
theorem Recorded.not_success_of_failure (recorded : Recorded fetcher Read initial past before)
    {number : Nat} (failed : (number, none) ∈ fetcher.deliveries past) :
    number ∉ (fetcher.successes past).map Prod.fst := by
  intro succeeded
  obtain ⟨success, member, rfl⟩ := List.mem_map.mp succeeded
  have delivered : (success.1, some success.2) ∈ fetcher.deliveries past :=
    mem_successes.mp member
  have same := List.inj_on_of_nodup_map recorded.once failed delivered rfl
  cases congrArg Prod.snd same

/-- With no fetch pending, the success shown is that of the newest fetch that succeeded exactly
when no later fetch had its success delivered earlier. -/
theorem Recorded.newest_iff (recorded : Recorded fetcher Read initial past before)
    (settled : ¬ (fetcher.requests before.client).Awaits fetcher.IsFetch) {number : Nat} :
    Newest fetcher past before number ↔
      ∀ success ∈ fetcher.successes past, success.1 ≤ number := by
  constructor
  · intro newest success member
    by_contra later
    have delivered : (success.1, some success.2) ∈ fetcher.deliveries past :=
      mem_successes.mp member
    obtain ⟨call, found, fetch⟩ := recorded.fetches _ delivered
    have failed := (newest success.1 call (Nat.lt_of_not_le later) found fetch).2
    exact failed (List.mem_map_of_mem member)
  · intro bounded later call after found fetch
    have closed : later ∉ (fetcher.requests before.client).unanswered := by
      intro waiting
      exact settled ⟨later, waiting, call, found, fetch⟩
    obtain ⟨result, delivered⟩ := recorded.answered later call found fetch closed
    cases result with
    | none => exact ⟨delivered, recorded.not_success_of_failure delivered⟩
    | some value =>
        have early : later ≤ number := bounded (later, value) (mem_successes.mpr delivered)
        omega

theorem InOrder.le_last (inOrder : fetcher.InOrder past) {number : Nat} {value : Value}
    (last : (fetcher.successes past).getLast? = some (number, value)) :
    ∀ success ∈ fetcher.successes past, success.1 ≤ number := by
  obtain ⟨front, split⟩ := List.getLast?_eq_some_iff.mp last
  rw [InOrder, split, List.pairwise_append] at inOrder
  rw [split]
  intro success member
  rcases List.mem_append.mp member with earlier | own
  · exact Nat.le_of_lt (inOrder.2.2 success earlier (number, value) List.mem_cons_self)
  · have same : success.1 = number := congrArg Prod.fst (List.mem_singleton.mp own)
    exact Nat.le_of_eq same

/-- The client shows its initial value, or the last success, which is the newest one exactly when
it was not overtaken. -/
def ShowsLast (fetcher : Fetcher State Event Call Value) (Read : List Write → Value → Prop)
    (initial : Value) (past : List (SessionEvent Event Write)) (session : Session State Write) :
    Prop :=
  (fetcher.successes past = [] ∧ fetcher.value session.client = initial) ∨
    ∃ number issued moment, Shows fetcher Read past session number issued moment ∧
      (¬ (fetcher.requests session.client).Awaits fetcher.IsFetch →
        (Newest fetcher past session number ↔
          ∀ success ∈ fetcher.successes past, success.1 ≤ number) ∧
        (fetcher.InOrder past → Newest fetcher past session number))

theorem Recorded.showsLast (recorded : Recorded fetcher Read initial past before) :
    ShowsLast fetcher Read initial past before := by
  rcases recorded.shows with none_yet | ⟨number, issued, moment, shows⟩
  · exact .inl none_yet
  · refine .inr ⟨number, issued, moment, shows, ?_⟩
    intro settled
    refine ⟨recorded.newest_iff settled, ?_⟩
    intro inOrder
    exact (recorded.newest_iff settled).mpr (inOrder.le_last shows.last)

end Fetcher
