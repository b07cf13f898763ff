import Mathlib.Data.Option.Basic

/-!
# Tables of remembered values

A table remembers values of a function.  It agrees with the function when what it remembers is what
the function gives.
-/

/-- The values remembered for some keys. -/
structure MemoTable (Key Value : Type*) where
  find? : Key → Option Value

namespace MemoTable

variable {Key Value : Type*}

/-- Nothing is remembered. -/
def empty : MemoTable Key Value where
  find? _ := none

/-- Remember a value for a key. -/
def store [DecidableEq Key] (table : MemoTable Key Value) (key : Key) (value : Value) :
    MemoTable Key Value where
  find? other := if other = key then some value else table.find? other

/-- Only some keys stay remembered. -/
def keep (table : MemoTable Key Value) (kept : Key → Bool) : MemoTable Key Value where
  find? key := if kept key then table.find? key else none

/-- Every remembered value is that of a function. -/
def Agrees (table : MemoTable Key Value) (compute : Key → Value) : Prop :=
  ∀ key value, table.find? key = some value → value = compute key

variable {table : MemoTable Key Value} {compute : Key → Value}

theorem Agrees.empty : (empty : MemoTable Key Value).Agrees compute := by
  intro key value found
  cases found

theorem Agrees.store [DecidableEq Key] (agrees : table.Agrees compute) (key : Key) :
    (table.store key (compute key)).Agrees compute := by
  intro other value found
  simp only [MemoTable.store] at found
  split at found
  case isTrue same =>
    cases found
    rw [same]
  case isFalse different => exact agrees other value found

theorem Agrees.keep (agrees : table.Agrees compute) (kept : Key → Bool) :
    (table.keep kept).Agrees compute := by
  intro key value found
  simp only [MemoTable.keep] at found
  split at found
  case isTrue => exact agrees key value found
  case isFalse => cases found

/-- A table that agrees with a function agrees with every function that has the same values at the
remembered keys, and with no other. -/
theorem Agrees.congr_iff (agrees : table.Agrees compute) {other : Key → Value} :
    table.Agrees other ↔ ∀ key, (table.find? key).isSome → compute key = other key := by
  constructor
  · intro others key remembered
    obtain ⟨value, found⟩ := Option.isSome_iff_exists.mp remembered
    rw [← agrees key value found, ← others key value found]
  · intro same key value found
    rw [agrees key value found]
    exact same key (Option.isSome_of_eq_some found)

end MemoTable
