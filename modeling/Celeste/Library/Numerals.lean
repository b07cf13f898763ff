import Mathlib.Data.Nat.Digits.Lemmas
import Mathlib.Data.List.Basic

/-!
# Padded numerals and patterns of them

A number is written over the digits of a numeral system, most significant first, and padded with
zeros to a width.  A pattern mixes numerals of named fields with literal symbols; a text determines
its fields where every numeral ends at a symbol that is no digit.
-/

namespace Numerals

variable {base : Nat} [NeZero base]

/-! ## Digits -/

/-- The digits of a number, most significant first, padded with zeros to at least a width. -/
def paddedDigits (base : Nat) [NeZero base] (width number : Nat) : List (Fin base) :=
  List.replicate (width - (Nat.digits base number).length) 0 ++
    (Nat.digits base number).reverse.map (Fin.ofNat base)

/-- The digits of a number determine it, whatever the padding. -/
theorem ofDigits_paddedDigits (large : 1 < base) (width number : Nat) :
    Nat.ofDigits base ((paddedDigits base width number).map Fin.val).reverse = number := by
  have kept : (Nat.digits base number).map (fun value => (Fin.ofNat base value).val) =
      Nat.digits base number := by
    have small : ∀ value ∈ Nat.digits base number, (Fin.ofNat base value).val = id value :=
      fun value member => Nat.mod_eq_of_lt (Nat.digits_lt_base large member)
    rw [List.map_congr_left small, List.map_id]
  have values : ((paddedDigits base width number).map Fin.val).reverse =
      Nat.digits base number ++ List.replicate (width - (Nat.digits base number).length) 0 := by
    simpa [paddedDigits, Function.comp_def] using kept
  rw [values, Nat.ofDigits_append_replicate_zero, Nat.ofDigits_digits]

theorem paddedDigits_injective (large : 1 < base) (width : Nat) :
    Function.Injective (paddedDigits base width) := by
  intro left right same
  rw [← ofDigits_paddedDigits large width left, ← ofDigits_paddedDigits large width right, same]

theorem width_le_length (width number : Nat) :
    width ≤ (paddedDigits base width number).length := by
  rw [paddedDigits, List.length_append, List.length_replicate, List.length_map,
    List.length_reverse]
  omega

theorem length_paddedDigits (large : 1 < base) {width number : Nat}
    (small : number < base ^ width) : (paddedDigits base width number).length = width := by
  have bound := (Nat.digits_length_le_iff large number).mpr small
  rw [paddedDigits, List.length_append, List.length_replicate, List.length_map,
    List.length_reverse]
  omega

theorem paddedDigits_ofDigits (large : 1 < base) (digits : List (Fin base)) :
    paddedDigits base digits.length (Nat.ofDigits base (digits.map Fin.val).reverse) =
      digits := by
  have isDigit : ∀ {places : List (Fin base)}, ∀ value ∈ (places.map Fin.val).reverse,
      value < base := by
    intro places value member
    obtain ⟨place, -, rfl⟩ := List.mem_map.mp (List.mem_reverse.mp member)
    exact place.isLt
  have small := Nat.ofDigits_lt_base_pow_length large (@isDigit digits)
  rw [List.length_reverse, List.length_map] at small
  have length := length_paddedDigits large small
  have values := Nat.ofDigits_inj_of_len_eq large (by simpa using length) isDigit
    (@isDigit digits) (ofDigits_paddedDigits large digits.length _)
  exact List.map_injective_iff.mpr Fin.val_injective (List.reverse_injective values)

/-! ## Patterns -/

/-- A numeral of a field, or a symbol that stands for itself. -/
inductive Piece (Field Symbol : Type*)
  | numeral (field : Field) (width : Nat)
  | literal (symbol : Symbol)

variable {Field Symbol : Type*}

/-- Write the fields as a pattern asks for, in a system of digits. -/
def render (digit : Fin base → Symbol) (value : Field → Nat) :
    List (Piece Field Symbol) → List Symbol
  | [] => []
  | .numeral field width :: pieces =>
      (paddedDigits base width (value field)).map digit ++ render digit value pieces
  | .literal symbol :: pieces => symbol :: render digit value pieces

/-- Every numeral of a pattern ends at a symbol that is no digit. -/
def Separated (digit : Fin base → Symbol) : List (Piece Field Symbol) → Prop
  | [] => True
  | .literal _ :: pieces => Separated digit pieces
  | [.numeral _ _] => True
  | .numeral _ _ :: .literal symbol :: pieces =>
      (∀ value, digit value ≠ symbol) ∧ Separated digit pieces
  | .numeral _ _ :: .numeral _ _ :: _ => False

theorem append_cons_inj {symbol : Symbol} {front back front' back' : List Symbol}
    (absent : symbol ∉ front) (absent' : symbol ∉ front')
    (same : front ++ symbol :: back = front' ++ symbol :: back') :
    front = front' ∧ back = back' := by
  induction front generalizing front' with
  | nil =>
      cases front' with
      | nil => exact ⟨rfl, (List.cons.inj same).2⟩
      | cons first front' =>
          have first_eq : symbol = first := (List.cons.inj same).1
          exact absurd List.mem_cons_self (first_eq ▸ absent')
  | cons first front ih =>
      cases front' with
      | nil =>
          have first_eq : first = symbol := (List.cons.inj same).1
          exact absurd List.mem_cons_self (first_eq ▸ absent)
      | cons first' front' =>
          obtain ⟨rfl, tails⟩ := List.cons.inj same
          have rest := ih (fun member => absent (List.mem_cons_of_mem first member))
            (fun member => absent' (List.mem_cons_of_mem first member)) tails
          exact ⟨congrArg (first :: ·) rest.1, rest.2⟩

/-- A text in a separated pattern determines the fields. -/
theorem eq_of_render_eq {digit : Fin base → Symbol} (large : 1 < base)
    (injective : Function.Injective digit) {pieces : List (Piece Field Symbol)}
    (separated : Separated digit pieces) {left right : Field → Nat}
    (same : render digit left pieces = render digit right pieces) {field : Field} {width : Nat}
    (member : .numeral field width ∈ pieces) : left field = right field := by
  have numeral_eq : ∀ {width field}, (paddedDigits base width (left field)).map digit =
      (paddedDigits base width (right field)).map digit → left field = right field := by
    intro width field equal
    exact paddedDigits_injective large width (List.map_injective_iff.mpr injective equal)
  fun_induction Separated digit pieces with
  | case1 => cases member
  | case2 symbol pieces ih =>
      have rest := (List.cons.inj same).2
      cases member with
      | tail _ member => exact ih separated rest member
  | case3 single width' =>
      cases List.mem_singleton.mp member
      simp only [render, List.append_nil] at same
      exact numeral_eq same
  | case4 first width' symbol pieces ih =>
      have apart : ∀ value : Field → Nat,
          symbol ∉ (paddedDigits base width' (value first)).map digit := by
        intro value digits
        obtain ⟨place, _, equal⟩ := List.mem_map.mp digits
        exact separated.1 place equal
      obtain ⟨numeral, rest⟩ := append_cons_inj (apart left) (apart right) same
      rcases List.mem_cons.mp member with own | later
      · cases own
        exact numeral_eq numeral
      · cases later with
        | tail _ later => exact ih separated.2 rest later
  | case5 => exact separated.elim

/-- A text that starts with a numeral starts with a digit. -/
theorem head_render (digit : Fin base → Symbol) (value : Field → Nat) (field : Field)
    {width : Nat} (wide : 0 < width) (pieces : List (Piece Field Symbol)) :
    ∃ place, (render digit value (.numeral field width :: pieces)).head? = some (digit place) := by
  have long : width ≤ (paddedDigits base width (value field)).length := width_le_length _ _
  cases digits : paddedDigits base width (value field) with
  | nil =>
      rw [digits, List.length_nil] at long
      omega
  | cons place places => exact ⟨place, by rw [render, digits]; rfl⟩

end Numerals
