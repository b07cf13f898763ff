import Mathlib.Data.List.Basic
import Mathlib.Data.List.Perm.Subperm
import Mathlib.Data.Option.Basic

/-!
# Guarded machines and their runs

A machine moves by events, and `next` is defined exactly on the enabled ones.  Runs are event
lists, so one definition serves replay of a concrete trace and induction over every run.  What
every event keeps is kept by runs, also where only events that meet a condition keep it.
-/

/-- A machine whose transition function is defined exactly on the enabled events. -/
structure Machine (State Event : Type*) where
  /-- The state after one event, or `none` where the event is not enabled. -/
  next : State → Event → Option State

namespace Machine

variable {State Event : Type*} (machine : Machine State Event)

/-- Execute a list of events, failing at the first one that is not enabled. -/
def run : List Event → State → Option State
  | [], state => some state
  | event :: events, state => machine.next state event >>= run events

theorem run_cons_eq_some {event : Event} {events : List Event} {before after : State} :
    machine.run (event :: events) before = some after ↔
      ∃ middle, machine.next before event = some middle ∧
        machine.run events middle = some after :=
  Option.bind_eq_some_iff

theorem run_append (first second : List Event) (before : State) :
    machine.run (first ++ second) before = machine.run first before >>= machine.run second := by
  induction first generalizing before with
  | nil => rfl
  | cons event first ih =>
      have rest : machine.run (first ++ second) =
          fun middle => machine.run first middle >>= machine.run second := funext ih
      rw [List.cons_append, run, run, rest]
      exact (Option.bind_assoc _ _ _).symm

/-- Every event of a run meets a condition on the state it finds. -/
def Respects (guard : State → Event → Prop) : List Event → State → Prop
  | [], _ => True
  | event :: events, before =>
      guard before event ∧
        ∀ after, machine.next before event = some after → Respects guard events after

variable {machine}

theorem Respects.of_always {guard : State → Event → Prop} {events : List Event}
    (meets : ∀ event ∈ events, ∀ state, guard state event) (state : State) :
    machine.Respects guard events state := by
  induction events generalizing state with
  | nil => exact True.intro
  | cons event events ih =>
      have tail : ∀ other ∈ events, ∀ state, guard state other :=
        fun other member => meets other (List.mem_cons_of_mem event member)
      exact ⟨meets event List.mem_cons_self state, fun after _ => ih tail after⟩

/-- A condition on events alone is met by a run whose events all meet it. -/
theorem Respects.of_forall {condition : Event → Prop} {events : List Event}
    (meets : ∀ event ∈ events, condition event) (state : State) :
    machine.Respects (fun _ => condition) events state := by
  induction events generalizing state with
  | nil => exact True.intro
  | cons event events ih =>
      have tail : ∀ other ∈ events, condition other :=
        fun other member => meets other (List.mem_cons_of_mem event member)
      exact ⟨meets event List.mem_cons_self, fun after _ => ih tail after⟩

theorem Respects.cons {guard : State → Event → Prop} {event : Event} {events : List Event}
    {before after : State} (step : machine.next before event = some after)
    (meets : guard before event) (rest : machine.Respects guard events after) :
    machine.Respects guard (event :: events) before := by
  refine ⟨meets, ?_⟩
  intro other step'
  have same : after = other := Option.some.inj (step.symm.trans step')
  exact same ▸ rest

theorem respects_cons_iff {guard : State → Event → Prop} {event : Event} {events : List Event}
    {before after : State} (step : machine.next before event = some after) :
    machine.Respects guard (event :: events) before ↔
      guard before event ∧ machine.Respects guard events after := by
  constructor
  · intro respects
    exact ⟨respects.1, respects.2 after step⟩
  · intro respects
    exact .cons step respects.1 respects.2

/-- The events of a run meet a condition on events alone exactly if they all meet it. -/
theorem respects_iff_forall {condition : Event → Prop} {events : List Event}
    {before after : State} (execution : machine.run events before = some after) :
    machine.Respects (fun _ => condition) events before ↔ ∀ event ∈ events, condition event := by
  induction events generalizing before with
  | nil => simp [Respects]
  | cons event events ih =>
      obtain ⟨middle, step, rest⟩ := machine.run_cons_eq_some.mp execution
      rw [respects_cons_iff step, ih rest, List.forall_mem_cons]

/-- A property of the past of a run and of its state, kept by every event that meets a condition,
holds of every run whose events meet it. -/
theorem run_history {guard : State → Event → Prop} (Invariant : List Event → State → Prop)
    (kept : ∀ {past before event after}, Invariant past before → guard before event →
      machine.next before event = some after → Invariant (past ++ [event]) after)
    {events past : List Event} {before after : State} (holds : Invariant past before)
    (respects : machine.Respects guard events before)
    (execution : machine.run events before = some after) : Invariant (past ++ events) after := by
  induction events generalizing past before with
  | nil =>
      cases execution
      rwa [List.append_nil]
  | cons event events ih =>
      obtain ⟨middle, step, rest⟩ := machine.run_cons_eq_some.mp execution
      have middle_holds : Invariant (past ++ [event]) middle := kept holds respects.1 step
      have all := ih middle_holds (respects.2 middle step) rest
      rwa [List.append_assoc, List.singleton_append] at all

/-- A property of the past of a run and of its state, kept by every event, holds of every run. -/
theorem run_past (Invariant : List Event → State → Prop)
    (kept : ∀ {past before event after}, Invariant past before →
      machine.next before event = some after → Invariant (past ++ [event]) after)
    {events : List Event} {before after : State} (holds : Invariant [] before)
    (execution : machine.run events before = some after) : Invariant events after :=
  run_history Invariant (fun holds _ step => kept holds step) holds
    (.of_forall (fun _ _ => True.intro) before) execution

/-- A property of states, kept by every event that meets a condition, is kept by every run whose
events meet it. -/
theorem run_guarded {guard : State → Event → Prop} (Invariant : State → Prop)
    (kept : ∀ {before event after}, Invariant before → guard before event →
      machine.next before event = some after → Invariant after)
    {events : List Event} {before after : State} (holds : Invariant before)
    (respects : machine.Respects guard events before)
    (execution : machine.run events before = some after) : Invariant after :=
  @run_history State Event machine guard (fun _ => Invariant) kept events [] before after holds
    respects execution

/-- Where every event adds to the items of a state at most what it asks for, so does every run, each
item at most as often as it is asked for. -/
theorem run_subperm {Item : Type*} {guard : State → Event → Prop} (held : State → List Item)
    (asks : Event → List Item)
    (kept : ∀ {before event after}, guard before event → machine.next before event = some after →
      (held after).Subperm (held before ++ asks event))
    {events : List Event} {before after : State}
    (respects : machine.Respects guard events before)
    (execution : machine.run events before = some after) :
    (held after).Subperm (held before ++ events.flatMap asks) := by
  refine @run_history _ _ machine guard
    (fun past state => (held state).Subperm (held before ++ past.flatMap asks)) ?_ events [] before
    after ?_ respects execution
  · intro past state event next bounded meets step
    have asked : (held state ++ asks event).Subperm
        ((held before ++ past.flatMap asks) ++ asks event) :=
      bounded.append (List.Subperm.refl (asks event))
    have grown := (kept meets step).trans asked
    rwa [List.append_assoc, ← List.flatMap_singleton asks event, ← List.flatMap_append] at grown
  · rw [List.flatMap_nil, List.append_nil]

/-- A property kept by every enabled event is kept by every run. -/
theorem run_invariant (Invariant : State → Prop)
    (kept : ∀ {before event after}, Invariant before →
      machine.next before event = some after → Invariant after)
    {events : List Event} {before after : State} (holds : Invariant before)
    (execution : machine.run events before = some after) : Invariant after :=
  run_guarded Invariant (fun holds _ step => kept holds step) holds
    (.of_forall (fun _ _ => True.intro) before) execution

/-- A condition that an event keeps exactly if it meets a guard holds after a run exactly if it held
before and all events meet the guard. -/
theorem run_respects_iff {guard : State → Event → Prop} (Invariant Condition : State → Prop)
    (kept : ∀ {before event after}, Invariant before →
      machine.next before event = some after → Invariant after)
    (exact_kept : ∀ {before event after}, Invariant before →
      machine.next before event = some after →
      (Condition after ↔ Condition before ∧ guard before event))
    {events : List Event} {before after : State} (holds : Invariant before)
    (execution : machine.run events before = some after) :
    Condition after ↔ Condition before ∧ machine.Respects guard events before := by
  induction events generalizing before with
  | nil =>
      cases execution
      exact ⟨fun condition => ⟨condition, True.intro⟩, fun both => both.1⟩
  | cons event events ih =>
      obtain ⟨middle, step, rest⟩ := machine.run_cons_eq_some.mp execution
      rw [ih (kept holds step) rest, exact_kept holds step, respects_cons_iff step, and_assoc]

end Machine
