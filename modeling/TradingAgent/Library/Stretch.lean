import Mathlib.Data.List.Range
import Mathlib.Tactic.Common

/-!
# Stretch — maximal runs of indices with a property

A stretch of `P` up to an index starts where `P` begins to hold.  It has one start only
(`Spans.unique`), and a scan that goes back from the index to the first break of `P` finds it
(`scanBack_eq_some_iff`).
-/

namespace Stretch

variable {P : ℕ → Prop} {start start' n : ℕ}

/-- `P` holds from `start` up to `n`, and not right before `start`. -/
structure Spans (P : ℕ → Prop) (start n : ℕ) : Prop where
  le : start ≤ n
  holds : ∀ k, start ≤ k → k ≤ n → P k
  first : ∀ k, k + 1 = start → ¬P k

namespace Spans

theorem last (h : Spans P start n) : P n :=
  h.holds n h.le le_rfl

/-- No stretch starts inside another. -/
theorem le_start (h : Spans P start n) (h' : Spans P start' n) : start ≤ start' := by
  by_contra hlt
  have hbefore : start - 1 + 1 = start := by omega
  apply h.first (start - 1) hbefore
  apply h'.holds
  · omega
  · have hle := h.le
    omega

theorem unique (h : Spans P start n) (h' : Spans P start' n) : start = start' :=
  le_antisymm (h.le_start h') (h'.le_start h)

/-- A stretch is told by the indices up to its end. -/
theorem congr {Q : ℕ → Prop} (hsame : ∀ k ≤ n, P k ↔ Q k) : Spans P start n ↔ Spans Q start n := by
  -- the index before the start is one of them as well
  have hbefore : ∀ {k}, start ≤ n → k + 1 = start → k ≤ n := by omega
  constructor
  · intro h
    constructor
    case le => exact h.le
    case holds => exact fun k hk hkn => (hsame k hkn).1 (h.holds k hk hkn)
    case first => exact fun k hk hq => h.first k hk ((hsame k (hbefore h.le hk)).2 hq)
  · intro h
    constructor
    case le => exact h.le
    case holds => exact fun k hk hkn => (hsame k hkn).2 (h.holds k hk hkn)
    case first => exact fun k hk hp => h.first k hk ((hsame k (hbefore h.le hk)).1 hp)

end Spans

/-- Where `P` holds, a stretch of it has started. -/
theorem exists_spans (h : P n) : ∃ start, Spans P start n := by
  induction n with
  | zero =>
      refine ⟨0, le_rfl, fun k _ hk => ?_, fun k hk => ?_⟩
      · rwa [Nat.le_zero.1 hk]
      · omega
  | succ n ih =>
      by_cases hn : P n
      · -- the stretch up to `n` goes on
        rcases ih hn with ⟨start, hspans⟩
        refine ⟨start, hspans.le.trans (Nat.le_succ n), fun k hstart hk => ?_, hspans.first⟩
        rcases Nat.le_succ_iff.1 hk with hle | rfl
        · exact hspans.holds k hstart hle
        · exact h
      · -- `P` begins to hold here
        refine ⟨n + 1, le_rfl, fun k hstart hk => ?_, fun k hk => ?_⟩
        · rwa [le_antisymm hk hstart]
        · cases hk
          exact hn

section Scan

variable {p : ℕ → Bool} {a k : ℕ}

/-- A scan from above finds the last index. -/
theorem find?_reverse_range'_eq_some :
    (List.range' a n).reverse.find? p = some k ↔
      p k = true ∧ (a ≤ k ∧ k < a + n) ∧ ∀ j, k < j → j < a + n → p j = false := by
  induction n with
  | zero =>
      simp only [List.range'_zero, List.reverse_nil, List.find?_nil, reduceCtorEq, false_iff]
      omega
  | succ n ih =>
      -- the scan begins with the last index
      have hlast : (List.range' a (n + 1)).reverse = (a + n) :: (List.range' a n).reverse := by
        rw [List.range'_concat, List.reverse_append, Nat.one_mul]
        rfl
      rw [hlast]
      cases hp : p (a + n) with
      | true =>
          rw [List.find?_cons_of_pos hp, Option.some.injEq]
          constructor
          · rintro rfl
            exact ⟨hp, by omega, fun j hj hlt => by omega⟩
          · rintro ⟨-, hin, hnone⟩
            by_contra hne
            have hfalse := hnone (a + n) (by omega) (by omega)
            rw [hp] at hfalse
            cases hfalse
      | false =>
          rw [List.find?_cons_of_neg (by simp [hp]), ih]
          constructor
          · rintro ⟨hk, hin, hnone⟩
            refine ⟨hk, by omega, fun j hj hlt => ?_⟩
            rcases Nat.lt_succ_iff_lt_or_eq.1 hlt with hlt | heq
            · exact hnone j hj hlt
            · exact heq ▸ hp
          · rintro ⟨hk, hin, hnone⟩
            have hne : k ≠ a + n := by
              rintro rfl
              rw [hp] at hk
              cases hk
            exact ⟨hk, by omega, fun j hj hlt => hnone j hj (by omega)⟩

/-- Going back from `n` to the first index before which `P` fails, down to `low`. -/
def scanBack (P : ℕ → Prop) [DecidablePred P] (low n : ℕ) : Option ℕ :=
  (List.range' low (n + 1 - low)).reverse.find? fun k => ¬P (k - 1)

variable [DecidablePred P] {low : ℕ}

/-- From inside a stretch the scan finds where it starts, unless that is below `low`. -/
theorem scanBack_eq_some_iff (hn : P n) (hlow : 0 < low) :
    scanBack P low n = some k ↔ low ≤ k ∧ Spans P k n := by
  unfold scanBack
  rw [find?_reverse_range'_eq_some]
  simp only [decide_eq_true_eq, decide_eq_false_iff_not, not_not]
  constructor
  · rintro ⟨hbreak, hin, hholds⟩
    refine ⟨hin.1, ?_⟩
    constructor
    case le => omega
    case holds =>
      intro j hkj hjn
      -- the scan has passed by the index after `j`, unless `j` is the last one
      rcases Nat.lt_or_ge j n with hlt | hge
      · exact hholds (j + 1) (by omega) (by omega)
      · rwa [le_antisymm hjn hge]
    case first =>
      intro j hj
      rwa [← hj, Nat.add_sub_cancel] at hbreak
  · rintro ⟨hle, hspans⟩
    have hkn := hspans.le
    refine ⟨hspans.first (k - 1) (by omega), by omega, fun j hj hlt => ?_⟩
    exact hspans.holds (j - 1) (by omega) (by omega)

end Scan

end Stretch
