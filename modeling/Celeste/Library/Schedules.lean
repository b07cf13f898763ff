import Mathlib.Algebra.Order.Group.Int
import Mathlib.Data.List.Basic
import Mathlib.Order.Monotone.Basic
import Mathlib.Tactic.Common

/-!
# Schedules

Items with the positions at which they end, and for each moment the first item that has not ended
at it.
-/

namespace Schedule

/-- The first item that ends after a moment. -/
def itemAt (positions : List ℤ) (moment : Nat) : Nat :=
  positions.findIdx fun position => (moment : ℤ) < position

/-- For each moment up to a count, the first item that ends after it. -/
def order (positions : List ℤ) (count : Nat) : List Nat :=
  (List.range count).map (itemAt positions)

/-- Where an item begins: where the one before it ends, and the first at `origin`. -/
def start (origin : ℤ) (positions : List ℤ) (item : Nat) : ℤ :=
  (origin :: positions).getD item 0

/-- How many items end where they begin. -/
def emptyCount (origin : ℤ) : List ℤ → Nat
  | [] => 0
  | position :: positions => (if position = origin then 1 else 0) + emptyCount position positions

variable {positions : List ℤ} {origin position : ℤ} {count item moment : Nat}

@[simp]
theorem length_order (positions : List ℤ) (count : Nat) :
    (order positions count).length = count := by
  rw [order, List.length_map, List.length_range]

theorem getElem?_order (lt : moment < count) :
    (order positions count)[moment]? = some (itemAt positions moment) := by
  rw [order, List.getElem?_map, List.getElem?_range lt]
  rfl

theorem itemAt_monotone (positions : List ℤ) : Monotone (itemAt positions) := by
  intro earlier later le
  induction positions with
  | nil => exact le_refl 0
  | cons position positions ih =>
      simp only [itemAt, List.findIdx_cons] at ih ⊢
      by_cases beyond : (later : ℤ) < position
      · have beyond' : (earlier : ℤ) < position := by omega
        simp only [beyond, beyond', decide_true, cond_true, le_refl]
      · by_cases beyond' : (earlier : ℤ) < position
        · simp only [beyond', decide_true, cond_true, Nat.zero_le]
        · simp only [beyond, beyond', decide_false, cond_false]
          exact Nat.succ_le_succ ih

/-- The first item that ends after a moment is the one before which none does. -/
theorem itemAt_eq (placed : positions[item]? = some position) (beyond : (moment : ℤ) < position)
    (before : ∀ (other : Nat) (position : ℤ), other < item → positions[other]? = some position →
      position ≤ moment) :
    itemAt positions moment = item := by
  obtain ⟨bound, rfl⟩ := List.getElem?_eq_some_iff.mp placed
  refine (List.findIdx_eq bound).mpr ⟨decide_eq_true beyond, ?_⟩
  · intro other lt
    have le := before other _ lt (List.getElem?_eq_getElem (lt.trans bound))
    exact decide_eq_false (not_lt.mpr le)

theorem order_succ (positions : List ℤ) (count : Nat) :
    order positions (count + 1) = order positions count ++ [itemAt positions count] := by
  rw [order, List.range_succ, List.map_append]
  rfl

theorem order_sorted (positions : List ℤ) (count : Nat) :
    (order positions count).Pairwise (· ≤ ·) := by
  rw [order, List.pairwise_map]
  exact List.pairwise_lt_range.imp fun lt => itemAt_monotone positions lt.le

theorem origin_le_start (sorted : (origin :: positions).Pairwise (· ≤ ·))
    (bound : item ≤ positions.length) : origin ≤ start origin positions item := by
  have placed : (origin :: positions)[item]? = some (start origin positions item) := by
    rw [start, List.getD_eq_getElem?_getD, List.getElem?_eq_getElem (Nat.lt_succ_of_le bound)]
    rfl
  rcases List.mem_cons.mp (List.mem_of_getElem? placed) with same | later
  · exact same.ge
  · exact (List.pairwise_cons.mp sorted).1 _ later

theorem start_le (sorted : (origin :: positions).Pairwise (· ≤ ·))
    (placed : positions[item]? = some position) : start origin positions item ≤ position := by
  induction positions generalizing origin item with
  | nil => cases placed
  | cons first positions ih =>
      obtain ⟨above, rest⟩ := List.pairwise_cons.mp sorted
      cases item with
      | zero =>
          cases placed
          exact above _ List.mem_cons_self
      | succ item => exact ih rest placed

/-- An item is the one of the moments from its beginning to its end. -/
theorem itemAt_eq_iff (sorted : (origin :: positions).Pairwise (· ≤ ·))
    (from_origin : origin ≤ moment) (placed : positions[item]? = some position) :
    itemAt positions moment = item ↔ start origin positions item ≤ moment ∧ moment < position := by
  induction positions generalizing origin item with
  | nil => cases placed
  | cons first positions ih =>
      have rest := (List.pairwise_cons.mp sorted).2
      simp only [itemAt, List.findIdx_cons] at ih ⊢
      by_cases beyond : (moment : ℤ) < first
      · simp only [beyond, decide_true, cond_true]
        cases item with
        | zero =>
            cases placed
            exact iff_of_true rfl ⟨from_origin, beyond⟩
        | succ item =>
            have bound : item + 1 < (first :: positions).length :=
              (List.getElem?_eq_some_iff.mp placed).1
            have later := origin_le_start rest (Nat.lt_of_succ_lt_succ bound).le
            refine iff_of_false (by omega) fun within => ?_
            exact absurd (later.trans within.1) (not_le.mpr beyond)
      · simp only [beyond, decide_false, cond_false]
        cases item with
        | zero =>
            cases placed
            exact iff_of_false (by omega) fun within => beyond within.2
        | succ item =>
            rw [Nat.succ_inj]
            exact ih rest (not_lt.mp beyond) placed

/-- The order has an item from its beginning to its end. -/
theorem getElem?_order_eq_some_iff (sorted : (0 :: positions).Pairwise (· ≤ ·))
    (within : ∀ position ∈ positions, position ≤ count)
    (reached : ∃ position ∈ positions, count ≤ position) :
    (order positions count)[moment]? = some item ↔
      ∃ position, positions[item]? = some position ∧ start 0 positions item ≤ moment ∧
        moment < position := by
  by_cases lt : moment < count
  · rw [getElem?_order lt, Option.some_inj]
    obtain ⟨last, member, le⟩ := reached
    have beyond : ∃ position ∈ positions, decide ((moment : ℤ) < position) = true :=
      ⟨last, member, decide_eq_true (by omega)⟩
    have bound := List.findIdx_lt_length_of_exists beyond
    constructor
    · rintro rfl
      have placed := List.getElem?_eq_getElem bound
      exact ⟨_, placed, (itemAt_eq_iff sorted (Int.natCast_nonneg moment) placed).mp rfl⟩
    · rintro ⟨position, placed, shown⟩
      exact (itemAt_eq_iff sorted (Int.natCast_nonneg moment) placed).mpr shown
  · have none_left : (order positions count)[moment]? = none := by
      rw [List.getElem?_eq_none_iff, length_order]
      exact not_lt.mp lt
    rw [none_left]
    refine iff_of_false (by simp) ?_
    rintro ⟨position, placed, -, beyond⟩
    have le := within position (List.mem_of_getElem? placed)
    omega

/-- An item is in the order exactly if it does not end where it begins. -/
theorem mem_order_iff (sorted : (0 :: positions).Pairwise (· ≤ ·))
    (placed : positions[item]? = some position) (within : position ≤ count) :
    item ∈ order positions count ↔ position ≠ start 0 positions item := by
  have bound : item ≤ positions.length := (List.getElem?_eq_some_iff.mp placed).1.le
  have begins := origin_le_start sorted bound
  simp only [order, List.mem_map, List.mem_range]
  constructor
  · rintro ⟨moment, -, shown⟩ same
    have shows := (itemAt_eq_iff sorted (Int.natCast_nonneg moment) placed).mp shown
    omega
  · intro differs
    obtain ⟨moment, same⟩ := Int.eq_ofNat_of_zero_le begins
    have later := start_le sorted placed
    refine ⟨moment, by omega, ?_⟩
    exact (itemAt_eq_iff sorted (Int.natCast_nonneg moment) placed).mpr ⟨same.le, by omega⟩

theorem emptyCount_le_length (origin : ℤ) (positions : List ℤ) :
    emptyCount origin positions ≤ positions.length := by
  induction positions generalizing origin with
  | nil => exact le_refl 0
  | cons position positions ih =>
      have rest := ih position
      rw [emptyCount, List.length_cons]
      split <;> omega

/-- The items that are not in the order are as many as end where they begin. -/
theorem countP_not_mem_order (sorted : (0 :: positions).Pairwise (· ≤ ·))
    (within : ∀ position ∈ positions, position ≤ count) :
    (List.range positions.length).countP (fun item => item ∉ order positions count) =
      emptyCount 0 positions := by
  have counts : ∀ (origin : ℤ) (positions : List ℤ),
      (List.range positions.length).countP
          (fun item => positions[item]? = some (start origin positions item)) =
        emptyCount origin positions := by
    intro origin positions
    induction positions generalizing origin with
    | nil => rfl
    | cons first positions ih =>
        rw [List.length_cons, List.range_succ_eq_map, List.countP_cons, List.countP_map, emptyCount,
          ← ih first, Nat.add_comm]
        congr 1
        simp [start]
  rw [← counts 0 positions]
  refine List.countP_congr fun item member => ?_
  have bound := List.mem_range.mp member
  have placed : positions[item]? = some positions[item] := List.getElem?_eq_getElem bound
  have listed := mem_order_iff sorted placed (within _ (List.getElem_mem bound))
  simp only [decide_eq_true_eq, listed, not_ne_iff, placed, Option.some.injEq]

end Schedule
