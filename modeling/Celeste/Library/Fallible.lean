import Mathlib.Data.List.Basic

/-!
# Sequencing and looping over fallible steps

Inversion of `Except` binds, and the loop that runs a fallible function over a list and appends
each result to an accumulator, stopping at the first error.
-/

namespace Fallible

universe u v

variable {ε : Type u} {α β : Type v}

theorem bind_eq_ok_iff {x : Except ε α} {f : α → Except ε β} {result : β} :
    (x >>= f) = .ok result ↔ ∃ value, x = .ok value ∧ f value = .ok result := by
  cases x <;> simp [bind, Except.bind]

theorem bind_eq_error_iff {x : Except ε α} {f : α → Except ε β} {error : ε} :
    (x >>= f) = .error error ↔
      x = .error error ∨ ∃ value, x = .ok value ∧ f value = .error error := by
  cases x <;> simp [bind, Except.bind]

/-- Append the results of `f` along a list, stopping at the first error. -/
def collect (f : α → Except ε β) : List β → List α → Except ε (List β)
  | results, [] => .ok results
  | results, input :: inputs => do
      let result ← f input
      collect f (results ++ [result]) inputs

/-- The loop succeeds exactly when every element does, with the results in order. -/
theorem collect_eq_ok_iff {f : α → Except ε β} {start results : List β} {inputs : List α} :
    collect f start inputs = .ok results ↔
      ∃ added, results = start ++ added ∧ inputs.map f = added.map .ok := by
  induction inputs generalizing start with
  | nil =>
      simp only [collect, Except.ok.injEq, List.map_nil]
      constructor
      · rintro rfl
        exact ⟨[], by simp⟩
      · rintro ⟨added, rfl, none_added⟩
        simp [List.map_eq_nil_iff.mp none_added.symm]
  | cons input inputs ih =>
      simp only [collect, bind_eq_ok_iff, ih, List.map_cons]
      constructor
      · rintro ⟨result, head, added, rfl, tail⟩
        exact ⟨result :: added, by simp, by simp [head, tail]⟩
      · rintro ⟨added, rfl, same⟩
        obtain ⟨result, rest, rfl, head, tail⟩ := List.map_eq_cons_iff.mp same.symm
        exact ⟨result, head.symm, rest, by simp, tail.symm⟩

theorem collect_nil_eq_ok_iff {f : α → Except ε β} {results : List β} {inputs : List α} :
    collect f [] inputs = .ok results ↔ inputs.map f = results.map .ok := by
  simp [collect_eq_ok_iff]

theorem collect_fails_iff {f : α → Except ε β} {start : List β} {inputs : List α} :
    (∃ error, collect f start inputs = .error error) ↔
      ∃ input ∈ inputs, ∃ error, f input = .error error := by
  induction inputs generalizing start with
  | nil => simp [collect]
  | cons input inputs ih =>
      cases head : f input with
      | error error => simp [collect, head, bind, Except.bind]
      | ok result => simpa [collect, head, bind, Except.bind] using ih

theorem mem_iff_of_decoded {f : α → Except ε β} {inputs : List α} {results : List β}
    (decoded : inputs.map f = results.map .ok) {result : β} :
    result ∈ results ↔ ∃ input ∈ inputs, f input = .ok result := by
  have member : result ∈ results ↔ (.ok result : Except ε β) ∈ results.map .ok := by
    simp
  rw [member, ← decoded, List.mem_map]

/-- A property of inputs that their results determine is read off the results in order. -/
theorem map_eq_map_of_decoded {γ : Type*} {f : α → Except ε β} {inputs : List α}
    {results : List β} {source : α → γ} {target : β → γ}
    (decoded : inputs.map f = results.map .ok)
    (agree : ∀ input ∈ inputs, ∀ result, f input = .ok result → source input = target result) :
    inputs.map source = results.map target := by
  induction inputs generalizing results with
  | nil =>
      have empty : results = [] := by simpa using decoded.symm
      simp [empty]
  | cons input inputs ih =>
      obtain ⟨result, rest, rfl, head, tail⟩ := List.map_eq_cons_iff.mp decoded.symm
      have same : source input = target result := agree input List.mem_cons_self result head.symm
      have later := ih tail.symm fun other member =>
        agree other (List.mem_cons_of_mem input member)
      rw [List.map_cons, List.map_cons, same, later]

end Fallible
