import Mathlib.Data.List.Basic

/-!
# Chained animations

A call starts several chains of animations at once.  The completion handler of an animation starts
the next animation of its chain or, at the chain's end, calls back with an answer.  Handlers of one
call run in any order their chains allow, also between the handlers of other calls.
-/

/-- What the completion handler of an animation does: start one more animation, or call back. -/
inductive Handler (Answer : Type*)
  | animate (handler : Handler Answer)
  | callBack (answer : Answer)
  deriving DecidableEq, Repr

namespace Handler

variable {Answer : Type*}

/-- The answer a chain calls back with in the end. -/
def answer : Handler Answer → Answer
  | animate handler => handler.answer
  | callBack answer => answer

/-- No animation of the chain follows. -/
def isLast : Handler Answer → Bool
  | animate _ => false
  | callBack _ => true

end Handler

/-- A call, the handlers of its running animations, and the answers it was called back with. -/
structure AnimatedCall (Call Answer : Type*) where
  call : Call
  running : List (Handler Answer)
  answers : List Answer

namespace AnimatedCall

variable {Call Answer : Type*}

/-- A call starts the first animation of each of its chains. -/
def start (call : Call) (handlers : List (Handler Answer)) : AnimatedCall Call Answer where
  call := call
  running := handlers
  answers := []

/-- All animations of the call have completed. -/
def isFinished (animated : AnimatedCall Call Answer) : Bool :=
  animated.running.isEmpty

/-- The animation at a place among the running ones completes; the answer it calls back, if any. -/
def complete (animated : AnimatedCall Call Answer) (place : Nat) :
    Option (AnimatedCall Call Answer × Option Answer) :=
  match animated.running[place]? with
  | none => none
  | some (.animate handler) =>
      some ({ animated with running := animated.running.set place handler }, none)
  | some (.callBack answer) =>
      some ({ animated with
        running := animated.running.eraseIdx place
        answers := animated.answers ++ [answer] }, some answer)

variable {before after : AnimatedCall Call Answer} {place : Nat} {reply : Option Answer}

theorem complete_cases (completion : before.complete place = some (after, reply)) :
    (∃ handler, before.running[place]? = some (.animate handler) ∧ reply = none ∧
      after = { before with running := before.running.set place handler }) ∨
    (∃ answer, before.running[place]? = some (.callBack answer) ∧ reply = some answer ∧
      after = { before with
        running := before.running.eraseIdx place
        answers := before.answers ++ [answer] }) := by
  rw [complete] at completion
  cases found : before.running[place]? with
  | none => simp [found] at completion
  | some handler =>
      cases handler with
      | animate handler =>
          simp only [found, Option.some.injEq, Prod.mk.injEq] at completion
          exact .inl ⟨handler, rfl, completion.2.symm, completion.1.symm⟩
      | callBack answer =>
          simp only [found, Option.some.injEq, Prod.mk.injEq] at completion
          exact .inr ⟨answer, rfl, completion.2.symm, completion.1.symm⟩

theorem complete_call (completion : before.complete place = some (after, reply)) :
    after.call = before.call := by
  obtain ⟨handler, -, -, rfl⟩ | ⟨answer, -, -, rfl⟩ := complete_cases completion
  · rfl
  · rfl

theorem complete_answers (completion : before.complete place = some (after, reply)) :
    after.answers = before.answers ++ reply.toList := by
  obtain ⟨handler, -, rfl, rfl⟩ | ⟨answer, -, rfl, rfl⟩ := complete_cases completion
  · exact (List.append_nil _).symm
  · rfl

theorem complete_length (completion : before.complete place = some (after, reply)) :
    after.running.length + after.answers.length =
      before.running.length + before.answers.length := by
  obtain ⟨handler, -, -, rfl⟩ | ⟨answer, found, -, rfl⟩ := complete_cases completion
  · rw [List.length_set]
  · have bound := (List.getElem?_eq_some_iff.mp found).1
    rw [List.length_eraseIdx_of_lt bound, List.length_append, List.length_singleton]
    omega

/-- What every running chain answers in the end, it still answers, and is called back. -/
theorem complete_answer {expected : Answer}
    (promised : ∀ handler ∈ before.running, handler.answer = expected)
    (completion : before.complete place = some (after, reply)) :
    (∀ handler ∈ after.running, handler.answer = expected) ∧
      ∀ answer, reply = some answer → answer = expected := by
  obtain ⟨next, found, rfl, rfl⟩ | ⟨last, found, rfl, rfl⟩ := complete_cases completion
  · have next_answer : next.answer = expected :=
      promised (.animate next) (List.mem_of_getElem? found)
    constructor
    · intro handler member
      rcases List.mem_or_eq_of_mem_set member with old | new
      · exact promised handler old
      · rw [new, next_answer]
    · intro answer replied
      cases replied
  · have last_answer : last = expected := promised (.callBack last) (List.mem_of_getElem? found)
    constructor
    · intro handler member
      exact promised handler (List.mem_of_mem_eraseIdx member)
    · intro answer replied
      cases replied
      exact last_answer

end AnimatedCall

/-! ## Many calls -/

/-- The calls made, oldest first. -/
abbrev AnimatedCalls (Call Answer : Type*) := List (AnimatedCall Call Answer)

namespace AnimatedCalls

variable {Call Answer : Type*}

/-- One more call. -/
def start (calls : AnimatedCalls Call Answer) (call : Call) (handlers : List (Handler Answer)) :
    AnimatedCalls Call Answer :=
  calls ++ [.start call handlers]

/-- An animation of a call completes; the call and the answer it is called back with, if any. -/
def complete (calls : AnimatedCalls Call Answer) (number place : Nat) :
    Option (AnimatedCalls Call Answer × Option (Call × Answer)) := do
  let animated ← calls[number]?
  let (completed, reply) ← animated.complete place
  pure (calls.set number completed, reply.map (Prod.mk animated.call))

/-- The animation that completes is the last one of its chain. -/
def endsChain (calls : AnimatedCalls Call Answer) (number place : Nat) : Bool :=
  calls[number]?.any fun animated => animated.running[place]?.any Handler.isLast

/-- How often calls were called back. -/
def answerCount : AnimatedCalls Call Answer → Nat
  | [] => 0
  | animated :: calls => answerCount calls + animated.answers.length

/-- No call has been called back. -/
def Unanswered (calls : AnimatedCalls Call Answer) : Prop :=
  ∀ animated ∈ calls, animated.answers = []

/-- Calls of an accepted kind are called back once, when all their animations have completed; other
calls never are. -/
def CalledBackOnce (accepted : Call → Prop) [DecidablePred accepted]
    (calls : AnimatedCalls Call Answer) : Prop :=
  ∀ animated ∈ calls, animated.answers.length =
    if accepted animated.call ∧ animated.isFinished = true then 1 else 0

/-- How many calls of an accepted kind have finished. -/
def finishedCount (accepted : Call → Prop) [DecidablePred accepted]
    (calls : AnimatedCalls Call Answer) : Nat :=
  calls.countP fun animated => accepted animated.call ∧ animated.isFinished = true

/-- Each accepted call started a number of chains, which all answer the same; others started
none. -/
structure Chained (accepted : Call → Prop) (chains : Nat) (expected : Answer)
    (animated : AnimatedCall Call Answer) : Prop where
  accepted_length : accepted animated.call →
    animated.running.length + animated.answers.length = chains
  rejected_length : ¬ accepted animated.call →
    animated.running.length + animated.answers.length = 0
  promised : ∀ handler ∈ animated.running, handler.answer = expected

variable {before after : AnimatedCalls Call Answer} {number place : Nat}
  {reply : Option (Call × Answer)}

theorem complete_cases (completion : before.complete number place = some (after, reply)) :
    ∃ animated completed answer, before[number]? = some animated ∧
      animated.complete place = some (completed, answer) ∧ after = before.set number completed ∧
      reply = answer.map (Prod.mk animated.call) := by
  obtain ⟨animated, found, rest⟩ := Option.bind_eq_some_iff.mp completion
  obtain ⟨⟨completed, answer⟩, step, result⟩ := Option.bind_eq_some_iff.mp rest
  have parts := Prod.mk.inj (Option.some.inj result)
  exact ⟨animated, completed, answer, found, step, parts.1.symm, parts.2.symm⟩

theorem complete_forall {Keeps : AnimatedCall Call Answer → Prop}
    (kept : ∀ {animated completed answer}, Keeps animated →
      animated.complete place = some (completed, answer) → Keeps completed)
    (holds : ∀ animated ∈ before, Keeps animated)
    (completion : before.complete number place = some (after, reply)) :
    ∀ animated ∈ after, Keeps animated := by
  obtain ⟨animated, completed, answer, found, step, rfl, -⟩ := complete_cases completion
  intro other member
  rcases List.mem_or_eq_of_mem_set member with old | new
  · exact holds other old
  · exact new ▸ kept (holds animated (List.mem_of_getElem? found)) step

theorem start_forall {Keeps : AnimatedCall Call Answer → Prop} {call : Call}
    {handlers : List (Handler Answer)} (holds : ∀ animated ∈ before, Keeps animated)
    (new : Keeps (.start call handlers)) :
    ∀ animated ∈ before.start call handlers, Keeps animated := by
  intro animated member
  rcases List.mem_append.mp member with old | last
  · exact holds animated old
  · exact List.mem_singleton.mp last ▸ new

theorem Chained.start {accepted : Call → Prop} {expected : Answer} {call : Call}
    {handlers : List (Handler Answer)} (allowed : accepted call)
    (promised : ∀ handler ∈ handlers, handler.answer = expected) :
    Chained accepted handlers.length expected (.start call handlers) where
  accepted_length := fun _ => rfl
  rejected_length := fun rejected => absurd allowed rejected
  promised := promised

theorem Chained.start_rejected {accepted : Call → Prop} {chains : Nat} {expected : Answer}
    {call : Call} (rejected : ¬ accepted call) :
    Chained accepted chains expected (.start call []) where
  accepted_length := fun allowed => absurd allowed rejected
  rejected_length := fun _ => rfl
  promised := fun _ member => absurd member List.not_mem_nil

theorem Chained.complete {accepted : Call → Prop} {chains : Nat} {expected : Answer}
    {animated completed : AnimatedCall Call Answer} {answer : Option Answer}
    (chained : Chained accepted chains expected animated)
    (completion : animated.complete place = some (completed, answer)) :
    Chained accepted chains expected completed where
  accepted_length := by
    rw [AnimatedCall.complete_call completion, AnimatedCall.complete_length completion]
    exact chained.accepted_length
  rejected_length := by
    rw [AnimatedCall.complete_call completion, AnimatedCall.complete_length completion]
    exact chained.rejected_length
  promised := (AnimatedCall.complete_answer chained.promised completion).1

/-- Only calls of an accepted kind are called back, with the answer their chains promise. -/
theorem complete_reply {accepted : Call → Prop} {chains : Nat} {expected : Answer}
    (chained : ∀ animated ∈ before, Chained accepted chains expected animated)
    (completion : before.complete number place = some (after, reply)) {call : Call}
    {answer : Answer} (replied : reply = some (call, answer)) :
    accepted call ∧ answer = expected := by
  obtain ⟨animated, completed, result, found, step, rfl, rfl⟩ := complete_cases completion
  obtain ⟨given, rfl, same⟩ := Option.map_eq_some_iff.mp replied
  obtain ⟨rfl, rfl⟩ := Prod.mk.inj same
  have holds := chained animated (List.mem_of_getElem? found)
  constructor
  · by_contra rejected
    have length := holds.rejected_length rejected
    have answers := AnimatedCall.complete_answers step
    have total := AnimatedCall.complete_length step
    rw [answers, List.length_append, Option.toList_some, List.length_singleton] at total
    omega
  · exact (AnimatedCall.complete_answer holds.promised step).2 given rfl

theorem answerCount_set {calls : AnimatedCalls Call Answer} {number : Nat}
    {old : AnimatedCall Call Answer} (found : calls[number]? = some old)
    (new : AnimatedCall Call Answer) :
    answerCount (calls.set number new) + old.answers.length =
      answerCount calls + new.answers.length := by
  induction calls generalizing number with
  | nil => simp at found
  | cons animated calls ih =>
      cases number with
      | zero =>
          have same : animated = old := by simpa using found
          rw [List.set_cons_zero, answerCount, answerCount, same]
          omega
      | succ number =>
          have tail : calls[number]? = some old := by simpa using found
          have rest := ih tail
          rw [List.set_cons_succ, answerCount, answerCount]
          omega

theorem answerCount_append (calls more : AnimatedCalls Call Answer) :
    answerCount (calls ++ more) = answerCount calls + answerCount more := by
  induction calls with
  | nil => simp [answerCount]
  | cons animated calls ih =>
      rw [List.cons_append, answerCount, answerCount, ih]
      omega

/-- The count of answers grows exactly where a call is called back. -/
theorem complete_answerCount (completion : before.complete number place = some (after, reply)) :
    after.answerCount = before.answerCount + reply.toList.length := by
  obtain ⟨animated, completed, answer, found, step, rfl, rfl⟩ := complete_cases completion
  have sums := answerCount_set found completed
  have answers := congrArg List.length (AnimatedCall.complete_answers step)
  have same_length : (answer.map (Prod.mk animated.call)).toList.length = answer.toList.length := by
    cases answer with
    | none => rfl
    | some _ => rfl
  rw [List.length_append] at answers
  rw [same_length]
  omega

theorem start_answerCount (calls : AnimatedCalls Call Answer) (call : Call)
    (handlers : List (Handler Answer)) :
    (calls.start call handlers).answerCount = calls.answerCount := by
  rw [start, answerCount_append]
  rfl

/-- A completion calls back exactly at the end of a chain. -/
theorem complete_endsChain (completion : before.complete number place = some (after, reply)) :
    before.endsChain number place = reply.isSome := by
  obtain ⟨animated, completed, answer, found, step, rfl, rfl⟩ := complete_cases completion
  obtain ⟨handler, running, rfl, -⟩ | ⟨last, running, rfl, -⟩ := AnimatedCall.complete_cases step
  · simp [endsChain, found, running, Handler.isLast]
  · simp [endsChain, found, running, Handler.isLast]

theorem answerCount_eq_zero {calls : AnimatedCalls Call Answer} :
    calls.answerCount = 0 ↔ calls.Unanswered := by
  induction calls with
  | nil => simp [answerCount, Unanswered]
  | cons animated calls ih =>
      rw [answerCount, Nat.add_eq_zero_iff, ih, List.length_eq_zero_iff, Unanswered, Unanswered,
        List.forall_mem_cons, and_comm]

theorem complete_unanswered_iff
    (completion : before.complete number place = some (after, reply)) :
    after.Unanswered ↔ before.Unanswered ∧ before.endsChain number place = false := by
  have count := complete_answerCount completion
  rw [← answerCount_eq_zero, ← answerCount_eq_zero, complete_endsChain completion]
  cases reply with
  | none =>
      have same : after.answerCount = before.answerCount := count
      simp [same]
  | some answer =>
      have more : after.answerCount = before.answerCount + 1 := count
      simp [more]

theorem start_unanswered_iff {calls : AnimatedCalls Call Answer} (call : Call)
    (handlers : List (Handler Answer)) :
    (calls.start call handlers).Unanswered ↔ calls.Unanswered := by
  rw [← answerCount_eq_zero, ← answerCount_eq_zero, start_answerCount]

/-- Called back once each, calls have as many answers as there are finished ones. -/
theorem CalledBackOnce.answerCount_eq {accepted : Call → Prop} [DecidablePred accepted]
    {calls : AnimatedCalls Call Answer} (once : calls.CalledBackOnce accepted) :
    calls.answerCount = calls.finishedCount accepted := by
  induction calls with
  | nil => rfl
  | cons animated calls ih =>
      have head := once animated List.mem_cons_self
      have tail := ih fun other member => once other (List.mem_cons_of_mem animated member)
      rw [answerCount, tail, head, finishedCount, finishedCount, List.countP_cons]
      simp only [decide_eq_true_eq]

/-- Where a call starts one chain, it is called back once. -/
theorem calledBackOnce_of_one {accepted : Call → Prop} [DecidablePred accepted]
    {expected : Answer} {calls : AnimatedCalls Call Answer}
    (chained : ∀ animated ∈ calls, Chained accepted 1 expected animated) :
    calls.CalledBackOnce accepted := by
  intro animated member
  have holds := chained animated member
  by_cases allowed : accepted animated.call
  · have length := holds.accepted_length allowed
    cases running : animated.running with
    | nil =>
        have answers : animated.answers.length = 1 := by simpa [running] using length
        simp [allowed, AnimatedCall.isFinished, running, answers]
    | cons handler handlers =>
        rw [running, List.length_cons] at length
        have answers : animated.answers.length = 0 := by omega
        simp [AnimatedCall.isFinished, running, answers]
  · have length := holds.rejected_length allowed
    have answers : animated.answers.length = 0 := by omega
    simp [allowed, answers]

/-- No accepted call without an answer has finished. -/
theorem Chained.isFinished_eq_false {accepted : Call → Prop} {chains : Nat} {expected : Answer}
    {animated : AnimatedCall Call Answer} (some_chain : 0 < chains)
    (chained : Chained accepted chains expected animated) (allowed : accepted animated.call)
    (unanswered : animated.answers = []) : animated.isFinished = false := by
  have length := chained.accepted_length allowed
  rw [unanswered, List.length_nil] at length
  cases running : animated.running with
  | nil =>
      rw [running, List.length_nil] at length
      omega
  | cons handler handlers => simp [AnimatedCall.isFinished, running]

/-- Where a call starts several chains, calls are called back once only as long as none is called
back at all. -/
theorem calledBackOnce_iff {accepted : Call → Prop} [DecidablePred accepted] {chains : Nat}
    {expected : Answer} {calls : AnimatedCalls Call Answer} (several : 1 < chains)
    (chained : ∀ animated ∈ calls, Chained accepted chains expected animated) :
    calls.CalledBackOnce accepted ↔ calls.Unanswered := by
  constructor
  · intro once animated member
    have holds := chained animated member
    have answers := once animated member
    by_cases allowed : accepted animated.call
    · have length := holds.accepted_length allowed
      cases running : animated.running with
      | nil =>
          simp only [running, List.length_nil, AnimatedCall.isFinished, allowed, List.isEmpty_nil,
            and_self, if_true] at length answers
          omega
      | cons handler handlers =>
          simpa [AnimatedCall.isFinished, running] using answers
    · simpa [allowed] using answers
  · intro unanswered animated member
    have holds := chained animated member
    have answers := unanswered animated member
    by_cases allowed : accepted animated.call
    · have going := holds.isFinished_eq_false (Nat.zero_lt_of_lt several) allowed answers
      simp [answers, going]
    · simp [answers, allowed]

theorem finishedCount_eq_zero {accepted : Call → Prop} [DecidablePred accepted] {chains : Nat}
    {expected : Answer} {calls : AnimatedCalls Call Answer} (some_chain : 0 < chains)
    (chained : ∀ animated ∈ calls, Chained accepted chains expected animated)
    (unanswered : calls.Unanswered) : calls.finishedCount accepted = 0 := by
  refine List.countP_eq_zero.mpr ?_
  intro animated member finished
  obtain ⟨allowed, done⟩ := of_decide_eq_true finished
  have going := (chained animated member).isFinished_eq_false some_chain allowed
    (unanswered animated member)
  rw [going] at done
  cases done

/-- Where a call starts several chains, answers and finished calls agree, call by call, only as long
as there is no answer. -/
theorem once_iff {accepted : Call → Prop} [DecidablePred accepted] {chains : Nat}
    {expected : Answer} {calls : AnimatedCalls Call Answer} (several : 1 < chains)
    (chained : ∀ animated ∈ calls, Chained accepted chains expected animated) :
    (calls.answerCount = calls.finishedCount accepted ∧ calls.CalledBackOnce accepted) ↔
      calls.Unanswered := by
  rw [calledBackOnce_iff several chained]
  constructor
  · intro both
    exact both.2
  · intro unanswered
    have finished := finishedCount_eq_zero (Nat.zero_lt_of_lt several) chained unanswered
    exact ⟨(answerCount_eq_zero.mpr unanswered).trans finished.symm, unanswered⟩

/-! ## Counts over a run -/

/-- How many calls of an accepted kind were made. -/
def startedCount (accepted : Call → Prop) [DecidablePred accepted]
    (calls : AnimatedCalls Call Answer) : Nat :=
  calls.countP fun animated => accepted animated.call

/-- Some call of an accepted kind has been called back. -/
def AnsweredOne (accepted : Call → Prop) (calls : AnimatedCalls Call Answer) : Prop :=
  ∃ animated ∈ calls, accepted animated.call ∧ animated.answers ≠ []

section Counts

variable {accepted : Call → Prop} [DecidablePred accepted]

variable (accepted) in
theorem finishedCount_le_startedCount (calls : AnimatedCalls Call Answer) :
    calls.finishedCount accepted ≤ calls.startedCount accepted := by
  apply List.countP_mono_left
  intro animated _ finished
  exact decide_eq_true (of_decide_eq_true finished).1

theorem exists_set_eq {calls : AnimatedCalls Call Answer} {animated : AnimatedCall Call Answer}
    (found : calls[number]? = some animated) (completed : AnimatedCall Call Answer) :
    ∃ front back, calls = front ++ animated :: back ∧
      calls.set number completed = front ++ completed :: back := by
  obtain ⟨bound, rfl⟩ := List.getElem?_eq_some_iff.mp found
  refine ⟨calls.take number, calls.drop (number + 1), ?_, ?_⟩
  · rw [List.getElem_cons_drop, List.take_append_drop]
  · rw [List.set_eq_take_append_cons_drop, if_pos bound]

theorem start_startedCount (calls : AnimatedCalls Call Answer) (call : Call)
    (handlers : List (Handler Answer)) :
    (calls.start call handlers).startedCount accepted =
      calls.startedCount accepted + if accepted call then 1 else 0 := by
  rw [startedCount, start, List.countP_append, List.countP_singleton, startedCount]
  by_cases allowed : accepted call
  · simp [AnimatedCall.start, allowed]
  · simp [AnimatedCall.start, allowed]

theorem start_finishedCount (calls : AnimatedCalls Call Answer) {call : Call}
    {handlers : List (Handler Answer)} (starts : accepted call → handlers ≠ []) :
    (calls.start call handlers).finishedCount accepted = calls.finishedCount accepted := by
  rw [finishedCount, start, List.countP_append, List.countP_singleton, ← finishedCount]
  by_cases allowed : accepted call
  · simp [AnimatedCall.start, AnimatedCall.isFinished, starts allowed]
  · simp [AnimatedCall.start, allowed]

variable (accepted) in
/-- The call whose animation completes had not finished. -/
theorem complete_counts (completion : before.complete number place = some (after, reply)) :
    after.startedCount accepted = before.startedCount accepted ∧
      before.finishedCount accepted ≤ after.finishedCount accepted ∧
      ∀ call answer, reply = some (call, answer) → accepted call →
        before.finishedCount accepted < before.startedCount accepted := by
  obtain ⟨animated, completed, result, found, step, rfl, rfl⟩ := complete_cases completion
  obtain ⟨front, back, split, changed⟩ := exists_set_eq found completed
  have running : animated.isFinished = false := by
    obtain ⟨handler, place_running, -⟩ | ⟨answer, place_running, -⟩ :=
      AnimatedCall.complete_cases step
    · exact List.isEmpty_eq_false_iff_exists_mem.mpr ⟨_, List.mem_of_getElem? place_running⟩
    · exact List.isEmpty_eq_false_iff_exists_mem.mpr ⟨_, List.mem_of_getElem? place_running⟩
  have same_call := AnimatedCall.complete_call step
  have frontCounts := finishedCount_le_startedCount accepted front
  have backCounts := finishedCount_le_startedCount accepted back
  rw [changed, split]
  simp only [startedCount, finishedCount, List.countP_append, List.countP_cons, same_call, running]
    at frontCounts backCounts ⊢
  refine ⟨trivial, by simp, ?_⟩
  intro call answer replied allowed
  obtain ⟨given, -, same⟩ := Option.map_eq_some_iff.mp replied
  obtain ⟨rfl, rfl⟩ := Prod.mk.inj same
  simp only [allowed, Bool.false_eq_true, and_false, decide_false, if_false, decide_true, if_true]
  omega

end Counts

theorem AnsweredOne.start {accepted : Call → Prop} {calls : AnimatedCalls Call Answer}
    (answered : calls.AnsweredOne accepted) (call : Call) (handlers : List (Handler Answer)) :
    (calls.start call handlers).AnsweredOne accepted := by
  obtain ⟨animated, member, rest⟩ := answered
  exact ⟨animated, List.mem_append_left _ member, rest⟩

/-- Calls that were called back stay so, and the one called back joins them. -/
theorem complete_answeredOne {accepted : Call → Prop}
    (completion : before.complete number place = some (after, reply)) :
    (before.AnsweredOne accepted → after.AnsweredOne accepted) ∧
      ∀ call answer, reply = some (call, answer) → accepted call → after.AnsweredOne accepted := by
  obtain ⟨animated, completed, result, found, step, rfl, rfl⟩ := complete_cases completion
  obtain ⟨front, back, split, changed⟩ := exists_set_eq found completed
  have same_call := AnimatedCall.complete_call step
  have answers := AnimatedCall.complete_answers step
  rw [changed, split]
  constructor
  · rintro ⟨other, member, allowed, answered⟩
    rcases List.mem_append.mp member with early | late
    · exact ⟨other, List.mem_append_left _ early, allowed, answered⟩
    · rcases List.mem_cons.mp late with rfl | later
      · refine ⟨completed, by simp, same_call ▸ allowed, ?_⟩
        rw [answers]
        exact List.append_ne_nil_of_left_ne_nil answered _
      · exact ⟨other, by simp [later], allowed, answered⟩
  · intro call answer replied allowed
    obtain ⟨given, rfl, same⟩ := Option.map_eq_some_iff.mp replied
    obtain ⟨rfl, rfl⟩ := Prod.mk.inj same
    refine ⟨completed, by simp, same_call ▸ allowed, ?_⟩
    rw [answers]
    exact List.append_ne_nil_of_right_ne_nil _ (List.cons_ne_nil _ _)

end AnimatedCalls
