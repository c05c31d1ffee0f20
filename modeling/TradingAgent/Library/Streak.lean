import Mathlib.Data.List.Infix
import Mathlib.Order.Bounds.Basic
import Mathlib.Order.MinMax

/-!
# Streak — the longest stretch of consecutive items with a property

A counter that an item with the property raises and any other item resets, and the highest value it
has had: the greatest length of a stretch of such items (`isGreatest_longest`).
-/

namespace Streak

variable {α : Type*} (p : α → Bool)

/-- One more item: the streak it ends, and the longest one so far. -/
def observe (acc : ℕ × ℕ) (x : α) : ℕ × ℕ :=
  if p x then (acc.1 + 1, max acc.2 (acc.1 + 1)) else (0, acc.2)

def longest (xs : List α) : ℕ :=
  (xs.foldl (observe p) (0, 0)).2

/-- Consecutive items of `xs` that all have the property. -/
def Holds (xs ys : List α) : Prop :=
  ys <:+: xs ∧ ∀ y ∈ ys, p y = true

/-- What the counter says of the items seen: how long the streak at their end is, and how long the
longest one. -/
structure Counts (xs : List α) (acc : ℕ × ℕ) : Prop where
  ending : ∀ ys, ys <:+ xs → (∀ y ∈ ys, p y = true) → ys.length ≤ acc.1
  reached : ∃ ys, ys <:+ xs ∧ (∀ y ∈ ys, p y = true) ∧ ys.length = acc.1
  bounded : ∀ ys, Holds p xs ys → ys.length ≤ acc.2
  attained : ∃ ys, Holds p xs ys ∧ ys.length = acc.2

variable {p} {xs : List α} {acc : ℕ × ℕ}

theorem Counts.nil : Counts p [] (0, 0) where
  ending := by
    intro ys hys _
    rw [List.suffix_nil.1 hys, List.length_nil]
  reached := ⟨[], List.nil_suffix, by simp, rfl⟩
  bounded := by
    intro ys hys
    rw [List.infix_nil.1 hys.1, List.length_nil]
  attained := ⟨[], ⟨List.nil_infix, by simp⟩, rfl⟩

/-- A streak that reaches one more item is the item after a streak that ended before it. -/
theorem length_le_of_ends {ys : List α} {x : α} (h : Counts p xs acc) (hys : ys <:+ xs ++ [x])
    (hall : ∀ y ∈ ys, p y = true) : ys.length ≤ (observe p acc x).1 := by
  rcases List.suffix_concat_iff.1 hys with rfl | ⟨zs, rfl, hzs⟩
  · exact Nat.zero_le _
  · have hx : p x = true := hall x (by simp)
    have hbefore := h.ending zs hzs fun z hz => hall z (List.mem_append_left _ hz)
    simpa [observe, hx] using hbefore

theorem Counts.observe (h : Counts p xs acc) (x : α) :
    Counts p (xs ++ [x]) (Streak.observe p acc x) := by
  have hending : ∀ ys, ys <:+ xs ++ [x] → (∀ y ∈ ys, p y = true) →
      ys.length ≤ (Streak.observe p acc x).1 := fun ys hys hall => length_le_of_ends h hys hall
  have hgrow : acc.2 ≤ (Streak.observe p acc x).2 := by
    unfold Streak.observe
    split
    · exact le_max_left _ _
    · exact le_rfl
  have hends : (Streak.observe p acc x).1 ≤ (Streak.observe p acc x).2 := by
    unfold Streak.observe
    split
    · exact le_max_right _ _
    · exact Nat.zero_le _
  have hreached : ∃ ys, ys <:+ xs ++ [x] ∧ (∀ y ∈ ys, p y = true) ∧
      ys.length = (Streak.observe p acc x).1 := by
    rcases h.reached with ⟨ys, hys, hall, hlength⟩
    by_cases hx : p x = true
    · refine ⟨ys ++ [x], ?_, ?_, ?_⟩
      · exact List.suffix_concat_iff.2 (Or.inr ⟨ys, rfl, hys⟩)
      · intro y hy
        rcases List.mem_append.1 hy with hold | hnew
        · exact hall y hold
        · rw [List.mem_singleton.1 hnew]
          exact hx
      · simp [Streak.observe, hx, hlength]
    · exact ⟨[], List.nil_suffix, by simp, by simp [Streak.observe, hx]⟩
  refine ⟨hending, hreached, ?_, ?_⟩
  · rintro ys ⟨hys, hall⟩
    rcases List.infix_concat_iff.1 hys with hsuffix | hold
    · exact (hending ys hsuffix hall).trans hends
    · exact (h.bounded ys ⟨hold, hall⟩).trans hgrow
  · -- the longest streak is the old one, or the one the item ends
    by_cases hlonger : p x = true ∧ acc.2 < acc.1 + 1
    · rcases hreached with ⟨ys, hys, hall, hlength⟩
      refine ⟨ys, ⟨hys.isInfix, hall⟩, ?_⟩
      rw [hlength]
      simp [Streak.observe, hlonger.1, max_eq_right hlonger.2.le]
    · rcases h.attained with ⟨ys, ⟨hys, hall⟩, hlength⟩
      refine ⟨ys, ⟨List.infix_concat_iff.2 (Or.inr hys), hall⟩, ?_⟩
      rw [hlength]
      unfold Streak.observe
      split
      · rename_i hx
        exact (max_eq_left (not_lt.1 fun hlt => hlonger ⟨hx, hlt⟩)).symm
      · rfl

/-- The counter after a whole list. -/
theorem counts_foldl (h : Counts p xs acc) (rest : List α) :
    Counts p (xs ++ rest) (rest.foldl (Streak.observe p) acc) := by
  induction rest generalizing xs acc with
  | nil => simpa using h
  | cons x rest ih =>
      rw [List.foldl_cons, List.append_cons]
      exact ih (h.observe x)

theorem longest_counts (p : α → Bool) (xs : List α) :
    Counts p xs (xs.foldl (Streak.observe p) (0, 0)) :=
  counts_foldl Counts.nil xs

/-- The counter finds the greatest length of a streak. -/
theorem isGreatest_longest (p : α → Bool) (xs : List α) :
    IsGreatest {n | ∃ ys, Holds p xs ys ∧ ys.length = n} (longest p xs) := by
  have hcounts := longest_counts p xs
  refine ⟨hcounts.attained, ?_⟩
  rintro n ⟨ys, hys, rfl⟩
  exact hcounts.bounded ys hys

end Streak
