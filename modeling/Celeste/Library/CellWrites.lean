import Mathlib.Data.List.Perm.Basic
import Mathlib.Logic.Function.Basic

/-!
# Logs of writes to independent cells

A write names one cell and acts on its content, present or absent.  The content of a cell after a
log depends only on the writes to that cell, in order: it is unchanged where nothing wrote, and it
is the last write's value where that write overwrites.
-/

/-- How writes act on a keyed collection: each one touches a single cell. -/
structure CellWrites (Write Key Value : Type*) where
  /-- The cell a write touches. -/
  key : Write → Key
  /-- The new content of that cell, from its old content. -/
  effect : Write → Option Value → Option Value

namespace CellWrites

variable {Write Key Value : Type*} [DecidableEq Key] (writes : CellWrites Write Key Value)

/-- The cells after one write. -/
def apply (cells : Key → Option Value) (write : Write) : Key → Option Value :=
  Function.update cells (writes.key write) (writes.effect write (cells (writes.key write)))

/-- The cells after a log of writes, oldest first. -/
def replay (cells : Key → Option Value) (log : List Write) : Key → Option Value :=
  log.foldl writes.apply cells

/-- The writes of a log that touch one cell. -/
def history (key : Key) (log : List Write) : List Write :=
  log.filter fun write => writes.key write = key

/-- The last write of a log to one cell. -/
def latest (key : Key) (log : List Write) : Option Write :=
  (writes.history key log).getLast?

variable {writes}

theorem replay_append (cells : Key → Option Value) (front back : List Write) :
    writes.replay cells (front ++ back) = writes.replay (writes.replay cells front) back := by
  simp [replay]

theorem replay_snoc (cells : Key → Option Value) (log : List Write) (write : Write) :
    writes.replay cells (log ++ [write]) = writes.apply (writes.replay cells log) write := by
  simp [replay]

@[simp]
theorem history_append (key : Key) (front back : List Write) :
    writes.history key (front ++ back) = writes.history key front ++ writes.history key back := by
  simp [history]

theorem mem_history {key : Key} {log : List Write} {write : Write} :
    write ∈ writes.history key log ↔ write ∈ log ∧ writes.key write = key := by
  simp [history]

/-- A cell sees its own history and nothing else. -/
theorem replay_eq_history (cells : Key → Option Value) (log : List Write) (key : Key) :
    writes.replay cells log key =
      (writes.history key log).foldl (fun cell write => writes.effect write cell) (cells key) := by
  induction log generalizing cells with
  | nil => rfl
  | cons write log ih =>
      have tail := ih (writes.apply cells write)
      by_cases same : writes.key write = key
      · subst same
        simpa [replay, history, apply] using tail
      · have untouched : writes.apply cells write key = cells key :=
          Function.update_of_ne (Ne.symm same) _ _
        rw [untouched] at tail
        simpa [replay, history, same] using tail

/-- A cell no write of the log touches keeps its content. -/
theorem replay_of_unwritten {cells : Key → Option Value} {log : List Write} {key : Key}
    (unwritten : ∀ write ∈ log, writes.key write ≠ key) :
    writes.replay cells log key = cells key := by
  have empty : writes.history key log = [] := by
    simpa [history] using unwritten
  rw [replay_eq_history, empty]
  rfl

theorem latest_eq_none_iff {key : Key} {log : List Write} :
    writes.latest key log = none ↔ ∀ write ∈ log, writes.key write ≠ key := by
  simp [latest, history]

theorem latest_mem {key : Key} {log : List Write} {write : Write}
    (last : writes.latest key log = some write) : write ∈ log ∧ writes.key write = key :=
  mem_history.mp (List.mem_of_getLast? last)

theorem replay_of_latest {cells : Key → Option Value} {log : List Write} {key : Key}
    {write : Write} {content : Option Value} (last : writes.latest key log = some write)
    (overwrites : ∀ cell, writes.effect write cell = content) :
    writes.replay cells log key = content := by
  obtain ⟨front, split⟩ := List.getLast?_eq_some_iff.mp last
  rw [replay_eq_history, split, List.foldl_append]
  exact overwrites _

/-- A property of a cell's content that every write to it keeps holds after the log. -/
theorem replay_keeps {cells : Key → Option Value} {log : List Write} {key : Key}
    (Holds : Option Value → Prop) (start : Holds (cells key))
    (kept : ∀ write ∈ log, writes.key write = key →
      ∀ cell, Holds cell → Holds (writes.effect write cell)) :
    Holds (writes.replay cells log key) := by
  rw [replay_eq_history]
  have kept' : ∀ write ∈ writes.history key log,
      ∀ cell, Holds cell → Holds (writes.effect write cell) := by
    intro write member
    obtain ⟨logged, same⟩ := mem_history.mp member
    exact kept write logged same
  generalize writes.history key log = own at kept'
  generalize cells key = cell at start
  induction own generalizing cell with
  | nil => exact start
  | cons write own ih =>
      have head : Holds (writes.effect write cell) := kept' write List.mem_cons_self cell start
      exact ih (fun other member => kept' other (List.mem_cons_of_mem write member)) _ head

/-- What one write establishes in its cell, and the later writes to it keep, holds after the log. -/
theorem replay_established {cells : Key → Option Value} {front back : List Write} {write : Write}
    (Holds : Option Value → Prop) (established : ∀ cell, Holds (writes.effect write cell))
    (kept : ∀ later ∈ back, writes.key later = writes.key write →
      ∀ cell, Holds cell → Holds (writes.effect later cell)) :
    Holds (writes.replay cells (front ++ write :: back) (writes.key write)) := by
  rw [List.append_cons, replay_append]
  apply replay_keeps Holds
  · rw [replay_snoc, apply, Function.update_self]
    exact established _
  · exact kept

/-- A write taken out of flight, next to the others. -/
theorem perm_cons_eraseIdx {pending : List Write} {index : Nat} {write : Write}
    (found : pending[index]? = some write) : pending.Perm (write :: pending.eraseIdx index) := by
  obtain ⟨bound, found⟩ := List.getElem?_eq_some_iff.mp found
  have order : (pending[index] :: pending.eraseIdx index).Perm pending :=
    List.getElem_cons_eraseIdx_perm bound
  rw [found] at order
  exact order.symm

end CellWrites
