import Mathlib.Algebra.BigOperators.Group.List.Basic
import Mathlib.Algebra.Field.Basic
import Mathlib.Algebra.Group.Subgroup.Defs
import Mathlib.Algebra.Order.Field.Basic
import Mathlib.Algebra.Order.BigOperators.Group.List
import Mathlib.Algebra.Order.Group.Abs
import Mathlib.Tactic.FieldSimp
import Mathlib.Tactic.Linarith
import Mathlib.Tactic.Ring

/-!
# Slices of an amount

An amount is cut into slices one after the other, each an equal share of what is left, rounded to a
grid.  The slices add up to an amount of the grid, and each begins near where it would without the
rounding.  Sizes are laid side by side, and each position in their sum is in the slot of one.
-/

/-! ## Sizes side by side -/

namespace Slots

variable {Length : Type*} [AddCommGroup Length]

/-- Where each of some sizes begins, laid side by side. -/
def starts (first : Length) : List Length → List Length
  | [] => []
  | size :: sizes => first :: starts (first + size) sizes

variable {sizes : List Length} {first position : Length} {index other : Nat}

theorem getElem?_starts (bound : index < sizes.length) :
    (starts first sizes)[index]? = some (first + (sizes.take index).sum) := by
  induction sizes generalizing first index with
  | nil => cases bound
  | cons size sizes ih =>
      cases index with
      | zero => simp [starts]
      | succ index =>
          rw [starts, List.getElem?_cons_succ, ih (Nat.lt_of_succ_lt_succ bound),
            List.take_succ_cons, List.sum_cons, add_assoc]

theorem getElem?_eq_sub (bound : index < sizes.length) :
    sizes[index]? = some ((sizes.take (index + 1)).sum - (sizes.take index).sum) := by
  rw [List.take_add_one, List.sum_append, List.getElem?_eq_getElem bound]
  simp

variable [LinearOrder Length]

/-- The position is in the slot of a size: at its beginning or after, and before its end. -/
def InSlot (first : Length) (sizes : List Length) (position : Length) (index : Nat) : Prop :=
  index < sizes.length ∧ first + (sizes.take index).sum ≤ position ∧
    position < first + (sizes.take (index + 1)).sum

theorem exists_inSlot (lower : first ≤ position) (upper : position < first + sizes.sum) :
    ∃ index, InSlot first sizes position index := by
  induction sizes generalizing first with
  | nil =>
      rw [List.sum_nil, add_zero] at upper
      exact absurd lower (not_le_of_gt upper)
  | cons size sizes ih =>
      rcases lt_or_ge position (first + size) with inFirst | beyond
      · refine ⟨0, Nat.succ_pos _, ?_, ?_⟩
        · simpa using lower
        · simpa using inFirst
      · rw [List.sum_cons, ← add_assoc] at upper
        obtain ⟨index, bound, begins, ends⟩ := ih beyond upper
        refine ⟨index + 1, Nat.succ_lt_succ bound, ?_, ?_⟩
        · rwa [List.take_succ_cons, List.sum_cons, ← add_assoc]
        · rwa [List.take_succ_cons, List.sum_cons, ← add_assoc]

variable [IsOrderedAddMonoid Length]

theorem sum_take_le (nonneg : ∀ size ∈ sizes, 0 ≤ size) (le : index ≤ other) :
    (sizes.take index).sum ≤ (sizes.take other).sum := by
  obtain ⟨more, rfl⟩ := Nat.exists_eq_add_of_le le
  rw [List.take_add, List.sum_append]
  refine le_add_of_nonneg_right (List.sum_nonneg fun size member => ?_)
  exact nonneg size (List.mem_of_mem_drop (List.mem_of_mem_take member))

end Slots

/-! ## Slices -/

variable {Amount : Type*} [Field Amount] [LinearOrder Amount] [IsStrictOrderedRing Amount]

/-- A rounding of amounts to a grid. -/
structure GridRounding (Amount : Type*) [Field Amount] [LinearOrder Amount]
    [IsStrictOrderedRing Amount] where
  round : Amount → Amount
  grid : AddSubgroup Amount
  error : Amount
  round_mem : ∀ amount, round amount ∈ grid
  round_of_mem : ∀ {amount}, amount ∈ grid → round amount = amount
  round_monotone : Monotone round
  abs_round_sub_le : ∀ amount, |round amount - amount| ≤ error

namespace GridRounding

variable (rounding : GridRounding Amount)

/-- Cut what is left into as many slices as remain, each the rounded share of the rest. -/
def slices (total : Amount) : Nat → List Amount
  | 0 => []
  | remains + 1 =>
      let piece := rounding.round (total / (remains + 1 : Nat))
      piece :: slices (total - piece) remains

variable {rounding} {total : Amount} {count index : Nat}

@[simp]
theorem length_slices (total : Amount) (count : Nat) :
    (rounding.slices total count).length = count := by
  induction count generalizing total with
  | zero => rfl
  | succ count ih => exact congrArg Nat.succ (ih _)

/-- The slices of an amount of the grid add up to it. -/
theorem sum_slices (inGrid : total ∈ rounding.grid) (positive : 0 < count) :
    (rounding.slices total count).sum = total := by
  induction count generalizing total with
  | zero => cases positive
  | succ count ih =>
      cases count with
      | zero =>
          rw [slices, slices, List.sum_singleton, Nat.cast_one, div_one]
          exact rounding.round_of_mem inGrid
      | succ count =>
          rw [slices, List.sum_cons, ih (rounding.grid.sub_mem inGrid (rounding.round_mem _))
            (Nat.succ_pos count)]
          exact add_sub_cancel _ _

theorem round_nonneg {amount : Amount} (nonneg : 0 ≤ amount) : 0 ≤ rounding.round amount := by
  have zero := rounding.round_of_mem rounding.grid.zero_mem
  exact zero ▸ rounding.round_monotone nonneg

theorem slices_nonneg (inGrid : total ∈ rounding.grid) (nonneg : 0 ≤ total) :
    ∀ piece ∈ rounding.slices total count, 0 ≤ piece := by
  induction count generalizing total with
  | zero =>
      intro piece member
      cases member
  | succ count ih =>
      have share : total / (count + 1 : Nat) ≤ total :=
        div_le_self nonneg (by exact_mod_cast Nat.succ_pos count)
      have rest : rounding.round (total / (count + 1 : Nat)) ≤ total :=
        (rounding.round_monotone share).trans_eq (rounding.round_of_mem inGrid)
      intro piece member
      rcases List.mem_cons.mp member with rfl | later
      · exact round_nonneg (div_nonneg nonneg (Nat.cast_nonneg _))
      · exact ih (rounding.grid.sub_mem inGrid (rounding.round_mem _)) (sub_nonneg.mpr rest) piece
          later

variable (Amount) in
/-- How many errors of the rounding a slice may begin away from where it would without it. -/
def drift : Nat → Nat → Amount
  | count + 1, index + 1 => (count - index) / count + drift count index
  | _, _ => 0

/-- A slice begins near where it would without the rounding. -/
theorem abs_sum_take_slices_le (before : index < count) :
    |((rounding.slices total count).take index).sum - index * (total / count)| ≤
      drift Amount count index * rounding.error := by
  induction count generalizing total index with
  | zero => cases before
  | succ count ih =>
      cases index with
      | zero => simp [drift]
      | succ index =>
          have before : index < count := Nat.lt_of_succ_lt_succ before
          have some_left : (count : Amount) ≠ 0 := Nat.cast_ne_zero.mpr (Nat.ne_zero_of_lt before)
          have more : (count : Amount) + 1 ≠ 0 := Nat.cast_add_one_ne_zero count
          generalize share_eq : rounding.round (total / (count + 1 : Nat)) = piece
          have error := rounding.abs_round_sub_le (total / (count + 1 : Nat))
          rw [share_eq] at error
          have rest := @ih (total - piece) index before
          have fraction : (0 : Amount) ≤ (count - index) / count :=
            div_nonneg (sub_nonneg.mpr (Nat.cast_le.mpr before.le)) (Nat.cast_nonneg count)
          -- The rest of the error is shared by the slices that are left.
          have split : ((rounding.slices total (count + 1)).take (index + 1)).sum -
              (index + 1 : Nat) * (total / (count + 1 : Nat)) =
              (count - index) / count * (piece - total / (count + 1 : Nat)) +
                (((rounding.slices (total - piece) count).take index).sum -
                  index * ((total - piece) / count)) := by
            rw [slices, share_eq, List.take_succ_cons, List.sum_cons]
            push_cast
            field_simp
            ring
          calc _ = _ := congrArg _ split
            _ ≤ |(count - index) / count * (piece - total / (count + 1 : Nat))| +
                |((rounding.slices (total - piece) count).take index).sum -
                  index * ((total - piece) / count)| := abs_add_le _ _
            _ ≤ (count - index) / count * rounding.error +
                drift Amount count index * rounding.error := by
              rw [abs_mul, abs_of_nonneg fraction]
              exact add_le_add (mul_le_mul_of_nonneg_left error fraction) rest
            _ = drift Amount (count + 1) (index + 1) * rounding.error := by
              rw [drift, add_mul]

end GridRounding
