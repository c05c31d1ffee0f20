import Mathlib.Data.List.Basic
import Mathlib.Data.List.Infix
import Mathlib.Data.List.TakeDrop
import Mathlib.Tactic.Common

/-!
# CausalSeries — series that never look ahead

A function from a list of inputs to a list of values is causal when it gives one value for each
input and the value at an index is a function of the inputs up to that index.  Causal functions
commute with truncation (`Causal.take`), and compose.
-/

namespace CausalSeries

variable {α β γ : Type*}

/-- One value for each input, and equal values at `k` where the inputs up to `k` are equal. -/
structure Causal (f : List α → List β) : Prop where
  length : ∀ l, (f l).length = l.length
  congr : ∀ l l' k, l.take (k + 1) = l'.take (k + 1) → (f l)[k]? = (f l')[k]?

namespace Causal

variable {f : List α → List β} {g : List β → List γ}

/-- The values of a truncated series are the first values of the whole one. -/
theorem take (hf : Causal f) (l : List α) (n : ℕ) : f (l.take n) = (f l).take n := by
  apply List.ext_getElem?
  intro k
  by_cases hk : k < n
  · have hsame : (l.take n).take (k + 1) = l.take (k + 1) := by
      rw [List.take_take, min_eq_left (Nat.succ_le_of_lt hk)]
    rw [hf.congr _ _ _ hsame, List.getElem?_take_of_lt hk]
  · have hleft : (f (l.take n)).length ≤ k := by
      rw [hf.length, List.length_take]
      omega
    have hright : ((f l).take n).length ≤ k := by
      rw [List.length_take]
      omega
    rw [List.getElem?_eq_none hleft, List.getElem?_eq_none hright]

/-- Where an initial part of the inputs reaches, it gives the same values. -/
theorem getElem?_append (hf : Causal f) {l : List α} {k : ℕ} (hk : k < l.length)
    (later : List α) : (f (l ++ later))[k]? = (f l)[k]? := by
  refine hf.congr _ _ _ ?_
  rw [List.take_append_of_le_length hk]

/-- A function that gives one value for each input, and more values for more inputs, is causal. -/
theorem of_initial (hlength : ∀ l, (f l).length = l.length)
    (hinitial : ∀ l later, f l <+: f (l ++ later)) : Causal f := by
  refine ⟨hlength, ?_⟩
  -- each side is the value of the common part of the inputs
  have hpart : ∀ l k, k < l.length → (f l)[k]? = (f (l.take (k + 1)))[k]? := by
    intro l k hk
    have hinit := hinitial (l.take (k + 1)) (l.drop (k + 1))
    rw [List.take_append_drop] at hinit
    rcases hinit with ⟨rest, hrest⟩
    have hin : k < (f (l.take (k + 1))).length := by
      rw [hlength, List.length_take]
      omega
    rw [← hrest, List.getElem?_append_left hin]
  intro l l' k hsame
  by_cases hk : k < l.length
  · have hk' : k < l'.length := by
      have hlengths := congrArg List.length hsame
      rw [List.length_take, List.length_take] at hlengths
      omega
    rw [hpart l k hk, hpart l' k hk', hsame]
  · have hk' : ¬k < l'.length := by
      have hlengths := congrArg List.length hsame
      rw [List.length_take, List.length_take] at hlengths
      omega
    rw [List.getElem?_eq_none (by rw [hlength]; omega),
      List.getElem?_eq_none (by rw [hlength]; omega)]

theorem map (h : α → β) : Causal (List.map h) := by
  refine of_initial (fun l => List.length_map h) ?_
  intro l later
  rw [List.map_append]
  exact List.prefix_append _ _

theorem comp (hg : Causal g) (hf : Causal f) : Causal fun l => g (f l) := by
  constructor
  case length =>
      intro l
      rw [hg.length, hf.length]
  case congr =>
      intro l l' k hsame
      refine hg.congr _ _ _ ?_
      rw [← hf.take, ← hf.take, hsame]

end Causal

end CausalSeries
