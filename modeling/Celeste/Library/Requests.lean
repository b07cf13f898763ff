import Mathlib.Data.List.Basic
import Mathlib.Data.List.Nodup

/-!
# Asynchronous requests

A client's calls are numbered by their place in the list of all calls, and each is answered at most
once, in any order.  One event of a client may answer one call and issue one.
-/

/-- The calls a client made, oldest first, and the numbers of those not answered yet. -/
structure Requests (Call : Type*) where
  calls : List Call
  unanswered : List Nat

namespace Requests

variable {Call : Type*}

/-- No calls yet. -/
def empty : Requests Call where
  calls := []
  unanswered := []

/-- Make a call. -/
def issue (requests : Requests Call) (call : Call) : Requests Call where
  calls := requests.calls ++ [call]
  unanswered := requests.unanswered ++ [requests.calls.length]

/-- Take the answer to a call. -/
def answer (requests : Requests Call) (number : Nat) : Requests Call where
  calls := requests.calls
  unanswered := requests.unanswered.erase number

/-- Some calls of this kind have not been answered. -/
def Awaits (requests : Requests Call) (kind : Call → Prop) : Prop :=
  ∃ number ∈ requests.unanswered, ∃ call, requests.calls[number]? = some call ∧ kind call

/-- What one event may do: answer a call still open, then make at most one call. -/
inductive Step (before : Requests Call) : Option Nat → Requests Call → Prop
  | idle : Step before none before
  | issued (call : Call) : Step before none (before.issue call)
  | answered {number : Nat} (unanswered : number ∈ before.unanswered) :
      Step before (some number) (before.answer number)
  | continued {number : Nat} (unanswered : number ∈ before.unanswered) (call : Call) :
      Step before (some number) ((before.answer number).issue call)

/-- Numbers still open are distinct and name calls. -/
structure Numbered (requests : Requests Call) : Prop where
  nodup : requests.unanswered.Nodup
  bound : ∀ number ∈ requests.unanswered, number < requests.calls.length

variable {before after : Requests Call} {reply : Option Nat}

theorem Numbered.empty : Numbered (empty : Requests Call) where
  nodup := List.nodup_nil
  bound := by simp [Requests.empty]

theorem Numbered.issue (numbered : Numbered before) (call : Call) :
    Numbered (before.issue call) where
  nodup := by
    have fresh : before.calls.length ∉ before.unanswered := by
      intro member
      exact Nat.lt_irrefl _ (numbered.bound _ member)
    simpa [Requests.issue] using numbered.nodup.concat fresh
  bound := by
    intro number member
    rw [Requests.issue, List.length_append, List.length_singleton]
    rcases List.mem_append.mp member with member | member
    · have bound := numbered.bound number member
      omega
    · rw [List.mem_singleton.mp member]
      omega

theorem mem_unanswered_first {call : Call} {number : Nat}
    (bound : number < (empty.issue call).calls.length) :
    number ∈ (empty.issue call).unanswered := by
  simpa [Requests.issue, Requests.empty] using bound

theorem Numbered.answer (numbered : Numbered before) (number : Nat) :
    Numbered (before.answer number) where
  nodup := numbered.nodup.erase number
  bound other member := numbered.bound other (List.mem_of_mem_erase member)

theorem Numbered.step (numbered : Numbered before) (step : Step before reply after) :
    Numbered after := by
  cases step with
  | idle => exact numbered
  | issued call => exact numbered.issue call
  | answered unanswered => exact numbered.answer _
  | continued unanswered call => exact (numbered.answer _).issue call

theorem Step.calls (step : Step before reply after) :
    ∃ added, after.calls = before.calls ++ added := by
  cases step with
  | idle => exact ⟨[], (List.append_nil _).symm⟩
  | issued call => exact ⟨[call], rfl⟩
  | answered unanswered => exact ⟨[], (List.append_nil _).symm⟩
  | continued unanswered call => exact ⟨[call], rfl⟩

theorem Step.reply_mem {number : Nat} (step : Step before (some number) after) :
    number ∈ before.unanswered := by
  cases step with
  | answered unanswered => exact unanswered
  | continued unanswered call => exact unanswered

/-- An open number was open before, or names a new call; and the number answered is closed. -/
theorem Step.mem_unanswered (numbered : Numbered before) (step : Step before reply after)
    (number : Nat) :
    number ∈ after.unanswered ↔
      (number ∈ before.unanswered ∧ reply ≠ some number) ∨
        (before.calls.length ≤ number ∧ number < after.calls.length) := by
  have bound : number ∈ before.unanswered → number < before.calls.length := numbered.bound number
  have erased : ∀ other, number ∈ before.unanswered.erase other ↔
      number ≠ other ∧ number ∈ before.unanswered := by
    intro other
    exact numbered.nodup.mem_erase_iff
  cases step with
  | idle =>
      simp only [ne_eq, reduceCtorEq, not_false_eq_true, and_true]
      constructor
      · exact .inl
      · intro found
        rcases found with member | range
        · exact member
        · omega
  | issued call =>
      simp only [Requests.issue, List.mem_append, List.mem_singleton, List.length_append,
        List.length_singleton, ne_eq, reduceCtorEq, not_false_eq_true, and_true]
      constructor
      · intro found
        rcases found with member | new
        · exact .inl member
        · exact .inr (by omega)
      · intro found
        rcases found with member | range
        · exact .inl member
        · exact .inr (by omega)
  | @answered other unanswered =>
      simp only [Requests.answer, erased, ne_eq, Option.some.injEq]
      constructor
      · intro found
        exact .inl ⟨found.2, Ne.symm found.1⟩
      · intro found
        rcases found with member | range
        · exact ⟨Ne.symm member.2, member.1⟩
        · omega
  | @continued other unanswered call =>
      simp only [Requests.issue, Requests.answer, List.mem_append, List.mem_singleton, erased,
        List.length_append, List.length_singleton, ne_eq, Option.some.injEq]
      constructor
      · intro found
        rcases found with member | new
        · exact .inl ⟨member.2, Ne.symm member.1⟩
        · exact .inr (by omega)
      · intro found
        rcases found with member | range
        · exact .inl ⟨Ne.symm member.2, member.1⟩
        · exact .inr (by omega)

theorem Step.open_kept (step : Step before reply after) {number : Nat}
    (waiting : number ∈ before.unanswered) (other : reply ≠ some number) :
    number ∈ after.unanswered := by
  cases step with
  | idle => exact waiting
  | issued call => exact List.mem_append_left _ waiting
  | answered unanswered =>
      have differs := fun same : number = _ => other (congrArg some same.symm)
      exact (List.mem_erase_of_ne differs).mpr waiting
  | continued unanswered call =>
      have differs := fun same : number = _ => other (congrArg some same.symm)
      exact List.mem_append_left _ ((List.mem_erase_of_ne differs).mpr waiting)

theorem Step.length_le (step : Step before reply after) :
    before.calls.length ≤ after.calls.length := by
  obtain ⟨added, calls⟩ := step.calls
  rw [calls, List.length_append]
  exact Nat.le_add_right _ _

theorem Step.closed_kept (numbered : Numbered before) (step : Step before reply after)
    {number : Nat} (bound : number < before.calls.length) (closed : number ∉ before.unanswered) :
    number ∉ after.unanswered := by
  intro reopened
  rcases (step.mem_unanswered numbered number).mp reopened with old | new
  · exact closed old.1
  · omega

theorem Step.reply_closed (numbered : Numbered before) {number : Nat}
    (step : Step before (some number) after) : number ∉ after.unanswered := by
  intro reopened
  have bound := numbered.bound number step.reply_mem
  rcases (step.mem_unanswered numbered number).mp reopened with old | new
  · exact old.2 rfl
  · omega

theorem Step.call_kept (step : Step before reply after) {number : Nat} {call : Call}
    (found : before.calls[number]? = some call) : after.calls[number]? = some call := by
  obtain ⟨added, calls⟩ := step.calls
  have bound := (List.getElem?_eq_some_iff.mp found).1
  rw [calls, List.getElem?_append_left bound, found]

end Requests
