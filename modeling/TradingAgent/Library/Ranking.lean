import Mathlib.Algebra.Order.BigOperators.Group.List
import Mathlib.Data.List.Perm.Subperm
import Mathlib.Data.List.Sort

/-!
# Ranking — the sums of the highest items

Items ranked from the highest down.  The first `k` of a ranking add up to the most that any `k` of
the items do (`sum_le_topSum`), so the least length at which the running sum of a ranking reaches a
target is the least number of items that can reach it (`reach_eq_some_iff`).
-/

open scoped List

namespace Ranking

section Order

variable {α : Type*} [LinearOrder α]

/-- The items from the highest down. -/
def ranked (xs : List α) : List α :=
  xs.mergeSort fun a b => decide (b ≤ a)

theorem ranked_perm (xs : List α) : ranked xs ~ xs :=
  List.mergeSort_perm xs _

@[simp] theorem length_ranked (xs : List α) : (ranked xs).length = xs.length :=
  (ranked_perm xs).length_eq

theorem ranked_pairwise (xs : List α) : (ranked xs).Pairwise fun a b => b ≤ a := by
  have hsorted : (ranked xs).Pairwise fun a b => decide (b ≤ a) = true := by
    apply List.pairwise_mergeSort
    · intro a b c hab hbc
      rw [decide_eq_true_eq] at *
      exact hbc.trans hab
    · intro a b
      rw [Bool.or_eq_true, decide_eq_true_eq, decide_eq_true_eq]
      exact le_total b a
  exact hsorted.imp fun h => of_decide_eq_true h

end Order

variable {α : Type*} [AddCommGroup α] [LinearOrder α]

def topSum (k : ℕ) (xs : List α) : α :=
  ((ranked xs).take k).sum

section Sums

variable {xs ys : List α}

/-- The `k` highest items are `k` of the items. -/
theorem exists_topSum {k : ℕ} (hk : k ≤ xs.length) :
    ∃ ys, ys <+~ xs ∧ ys.length = k ∧ ys.sum = topSum k xs := by
  refine ⟨(ranked xs).take k, ?_, ?_, rfl⟩
  · exact (List.take_sublist k _).subperm.trans (ranked_perm xs).subperm
  · rw [List.length_take, length_ranked, min_eq_left hk]

@[simp] theorem topSum_length (xs : List α) : topSum xs.length xs = xs.sum := by
  rw [topSum, List.take_of_length_le (by rw [length_ranked]), (ranked_perm xs).sum_eq]

variable [IsOrderedAddMonoid α]

/-- Taking the highest item in place of a later one makes a sum no smaller. -/
theorem sum_take_le_cons {x : α} {l : List α} (hx : ∀ y ∈ l, y ≤ x) {n : ℕ} (hn : n ≤ l.length) :
    (l.take n).sum ≤ ((x :: l).take n).sum := by
  cases n with
  | zero => rfl
  | succ n =>
      have hlast : l[n] ≤ x := hx _ (List.getElem_mem hn)
      calc (l.take (n + 1)).sum = (l.take n).sum + l[n] := by
            rw [List.take_succ_eq_append_getElem hn, List.sum_append, List.sum_singleton]
        _ ≤ (l.take n).sum + x := add_le_add_right hlast _
        _ = ((x :: l).take (n + 1)).sum := by rw [List.take_succ_cons, List.sum_cons, add_comm]

/-- Of a ranked list no selection exceeds the first items. -/
theorem sum_le_sum_take {l : List α} (hranked : l.Pairwise fun a b => b ≤ a) (hys : ys <+ l) :
    ys.sum ≤ (l.take ys.length).sum := by
  induction hys with
  | slnil => rfl
  | cons x hsub ih =>
      rcases List.pairwise_cons.1 hranked with ⟨hx, hrest⟩
      exact (ih hrest).trans (sum_take_le_cons hx hsub.length_le)
  | cons_cons x hsub ih =>
      rcases List.pairwise_cons.1 hranked with ⟨-, hrest⟩
      rw [List.length_cons, List.take_succ_cons, List.sum_cons, List.sum_cons]
      exact add_le_add_right (ih hrest) x

/-- No `k` of the items add up to more than the `k` highest. -/
theorem sum_le_topSum (hys : ys <+~ xs) : ys.sum ≤ topSum ys.length xs := by
  rcases hys.trans (ranked_perm xs).symm.subperm with ⟨zs, hperm, hsub⟩
  calc ys.sum = zs.sum := hperm.sum_eq.symm
    _ ≤ ((ranked xs).take zs.length).sum := sum_le_sum_take (ranked_pairwise xs) hsub
    _ = topSum ys.length xs := by rw [hperm.length_eq, topSum]

end Sums

/-! ## Running sums -/

/-- How many items of a ranking it takes until the sum, which is `sum` after `i` of them, has
reached the target. -/
def reach (target : α) (sum : α) (i : ℕ) : List α → Option ℕ
  | [] => none
  | x :: rest =>
      if target ≤ sum + x then some (i + 1) else reach target (sum + x) (i + 1) rest

theorem reach_eq_some_iff {target sum : α} {i k : ℕ} {l : List α} :
    reach target sum i l = some k ↔ ∃ n, k = i + n ∧ 0 < n ∧ n ≤ l.length ∧
      target ≤ sum + (l.take n).sum ∧ ∀ m, 0 < m → m < n → sum + (l.take m).sum < target := by
  induction l generalizing sum i with
  | nil =>
      constructor
      · intro h
        cases h
      · rintro ⟨n, -, hpos, hle, -⟩
        rw [List.length_nil] at hle
        omega
  | cons x rest ih =>
      by_cases hreached : target ≤ sum + x
      · rw [reach, if_pos hreached, Option.some.injEq]
        constructor
        · rintro rfl
          refine ⟨1, rfl, Nat.one_pos, by simp, by simpa using hreached, ?_⟩
          intro m hpos hlt
          omega
        · rintro ⟨n, rfl, hpos, -, -, hbefore⟩
          -- the first item is enough
          by_contra hne
          have hlt := hbefore 1 Nat.one_pos (by omega)
          rw [List.take_succ_cons, List.take_zero, List.sum_singleton] at hlt
          exact absurd hreached (not_le.2 hlt)
      · rw [reach, if_neg hreached, ih]
        constructor
        · rintro ⟨n, rfl, hpos, hle, hsum, hbefore⟩
          refine ⟨n + 1, by omega, Nat.succ_pos n, by simpa using hle, ?_, ?_⟩
          · rw [List.take_succ_cons, List.sum_cons, ← add_assoc]
            exact hsum
          · intro m hm hlt
            cases m with
            | zero => omega
            | succ m =>
                rw [List.take_succ_cons, List.sum_cons, ← add_assoc]
                rcases Nat.eq_zero_or_pos m with rfl | hmpos
                · simpa using not_le.1 hreached
                · exact hbefore m hmpos (by omega)
        · rintro ⟨n, rfl, hpos, hle, hsum, hbefore⟩
          cases n with
          | zero => omega
          | succ n =>
              rw [List.take_succ_cons, List.sum_cons, ← add_assoc] at hsum
              have hn : 0 < n := by
                rcases Nat.eq_zero_or_pos n with rfl | hn
                · rw [List.take_zero, List.sum_nil, add_zero] at hsum
                  exact absurd hsum hreached
                · exact hn
              refine ⟨n, by omega, hn, by simpa using hle, hsum, ?_⟩
              intro m hm hlt
              have hlater := hbefore (m + 1) (Nat.succ_pos m) (by omega)
              rwa [List.take_succ_cons, List.sum_cons, ← add_assoc] at hlater

section Least

variable {xs : List α} {target : α}

/-- Whatever all items together reach, the running sums reach. -/
theorem exists_reach (hpos : 0 < target) (hsum : target ≤ xs.sum) :
    ∃ k, reach target 0 0 (ranked xs) = some k := by
  have hall : target ≤ ((ranked xs).take xs.length).sum := hsum.trans (topSum_length xs).ge
  have hex : ∃ n, target ≤ ((ranked xs).take n).sum := ⟨_, hall⟩
  classical
  have hfirst := Nat.find_spec hex
  refine ⟨Nat.find hex, reach_eq_some_iff.2 ⟨Nat.find hex, by omega, ?_, ?_, ?_, ?_⟩⟩
  · rcases Nat.eq_zero_or_pos (Nat.find hex) with hzero | hn
    · rw [hzero, List.take_zero, List.sum_nil] at hfirst
      exact absurd hfirst (not_le.2 hpos)
    · exact hn
  · rw [length_ranked]
    exact Nat.find_min' hex hall
  · rw [zero_add]
    exact hfirst
  · intro m _ hlt
    rw [zero_add]
    exact not_le.1 (Nat.find_min hex hlt)

variable [IsOrderedAddMonoid α]

/-- `k` is the least number of items that add up to the target. -/
def IsLeastReach (xs : List α) (target : α) (k : ℕ) : Prop :=
  (∃ ys, ys <+~ xs ∧ ys.length = k ∧ target ≤ ys.sum) ∧
    ∀ ys, ys <+~ xs → target ≤ ys.sum → k ≤ ys.length

/-- For a target above zero the running sums of the ranking reach it at the least number of items
that can. -/
theorem isLeastReach_of_reach (hpos : 0 < target) {k : ℕ}
    (h : reach target 0 0 (ranked xs) = some k) : IsLeastReach xs target k := by
  rcases reach_eq_some_iff.1 h with ⟨n, rfl, -, hle, hsum, hbefore⟩
  rw [zero_add] at hsum ⊢
  rw [length_ranked] at hle
  constructor
  · rcases exists_topSum hle with ⟨ys, hys, hlength, htop⟩
    exact ⟨ys, hys, hlength, hsum.trans htop.ge⟩
  · intro ys hys htarget
    by_contra hlt
    have htop := htarget.trans (sum_le_topSum hys)
    rcases Nat.eq_zero_or_pos ys.length with hzero | hlength
    · rw [hzero, topSum, List.take_zero, List.sum_nil] at htop
      exact absurd htop (not_le.2 hpos)
    · have hshort := hbefore ys.length hlength (not_le.1 hlt)
      rw [zero_add] at hshort
      exact absurd htop (not_le.2 hshort)

end Least

end Ranking
