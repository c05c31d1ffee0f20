import Mathlib.Algebra.Order.Field.Basic
import Mathlib.Data.List.Flatten
import Mathlib.Order.MinMax

/-!
# Drawdown — the deepest fall of a series below its running peak

* `fall` is the fraction by which a value lies below a peak, and `maxDrawdown` the deepest fall
  below the highest value so far;
* `maxDrawdown_le_iff` bounds it value by value, whatever the signs of the values;
* `maxDrawdown_flatten_le_iff`: over series laid end to end only the falls that begin in an earlier
  series can exceed the drawdowns of the series themselves.
-/

namespace Drawdown

variable {α : Type*}

section Order

variable [LinearOrder α] {values : List α} {p q : α}

/-- The value `p` is the highest of these. -/
def Highest (values : List α) (p : α) : Prop :=
  p ∈ values ∧ ∀ v ∈ values, v ≤ p

instance (values : List α) (p : α) : Decidable (Highest values p) :=
  inferInstanceAs (Decidable (_ ∧ _))

theorem Highest.append (h : Highest values p) (v : α) :
    Highest (values ++ [v]) (max p v) := by
  refine ⟨?_, ?_⟩
  · rcases max_choice p v with hp | hv
    · rw [hp]
      exact List.mem_append_left _ h.1
    · rw [hv]
      simp
  · intro w hw
    rcases List.mem_append.1 hw with hold | hnew
    · exact (h.2 w hold).trans (le_max_left p v)
    · rw [List.mem_singleton.1 hnew]
      exact le_max_right p v

theorem Highest.unique (hp : Highest values p) (hq : Highest values q) : p = q :=
  le_antisymm (hq.2 p hp.1) (hp.2 q hq.1)

theorem exists_highest {values : List α} (h : values ≠ []) : ∃ p, Highest values p := by
  induction values with
  | nil => exact absurd rfl h
  | cons v rest ih =>
      by_cases hrest : rest = []
      · rw [hrest]
        exact ⟨v, by simp, by simp⟩
      · rcases ih hrest with ⟨p, hp⟩
        refine ⟨max p v, ?_, ?_⟩
        · simpa [or_comm] using (hp.append v).1
        · intro w hw
          exact (hp.append v).2 w (by simpa [or_comm] using hw)

end Order

variable [Field α] [LinearOrder α]

/-- The fraction by which a value lies below a peak; none below a peak that is not positive. -/
def fall (peak value : α) : α :=
  if 0 < peak then (peak - value) / peak else 0

/-- One more value: the peak so far, and the deepest fall so far. -/
def observe (acc : α × α) (value : α) : α × α :=
  (max acc.1 value, max acc.2 (fall (max acc.1 value) value))

/-- The deepest fall of a series below its running peak. -/
def maxDrawdown : List α → α
  | [] => 0
  | first :: rest => ((first :: rest).foldl observe (first, 0)).2

@[simp] theorem fall_self (v : α) : fall v v = 0 := by
  simp [fall]

/-- After the values `seen`, with `p` the highest of them, the fold is bounded exactly if every
later value's fall is. -/
theorem foldl_observe_le_iff {seen : List α} {p d b : α} (hp : Highest seen p) (rest : List α) :
    (rest.foldl observe (p, d)).2 ≤ b ↔ d ≤ b ∧ ∀ before v after, rest = before ++ v :: after →
      ∀ q, Highest (seen ++ before ++ [v]) q → fall q v ≤ b := by
  induction rest generalizing seen p d with
  | nil => simp
  | cons x rest ih =>
      have hpeak := hp.append x
      rw [List.foldl_cons, observe, ih hpeak, max_le_iff, and_assoc]
      refine and_congr_right fun _ => ?_
      constructor
      · rintro ⟨hfirst, hlater⟩ before v after hsplit q hq
        cases before with
        | nil =>
            rcases List.cons.inj hsplit with ⟨rfl, -⟩
            rw [List.append_nil] at hq
            rw [hq.unique hpeak]
            exact hfirst
        | cons y before =>
            rcases List.cons.inj hsplit with ⟨rfl, hrest⟩
            refine hlater before v after hrest q ?_
            simpa using hq
      · intro hall
        refine ⟨hall [] x rest rfl _ (by simpa using hpeak), ?_⟩
        intro before v after hsplit q hq
        refine hall (x :: before) v after (by rw [hsplit]; rfl) q ?_
        simpa using hq

/-- A drawdown is bounded exactly if each value's fall below the highest value so far is. -/
theorem maxDrawdown_le_iff {values : List α} {b : α} :
    maxDrawdown values ≤ b ↔ 0 ≤ b ∧ ∀ before v after, values = before ++ v :: after →
      ∀ p, Highest (before ++ [v]) p → fall p v ≤ b := by
  cases values with
  | nil => simp [maxDrawdown]
  | cons first rest =>
      have hfirst : Highest [first] first := ⟨by simp, by simp⟩
      have hfold : maxDrawdown (first :: rest) = (rest.foldl observe (first, 0)).2 := by
        simp [maxDrawdown, observe]
      rw [hfold, foldl_observe_le_iff hfirst]
      refine and_congr_right fun hb => ?_
      constructor
      · intro hall before v after hsplit p hp
        cases before with
        | nil =>
            -- the first value is its own peak
            rw [List.mem_singleton.1 hp.1, fall_self]
            exact hb
        | cons y before =>
            rcases List.cons.inj hsplit with ⟨rfl, hrest⟩
            exact hall before v after hrest p hp
      · intro hall before v after hsplit p hp
        exact hall (first :: before) v after (by rw [hsplit]; rfl) p hp

theorem maxDrawdown_nonneg (values : List α) : 0 ≤ maxDrawdown values :=
  (maxDrawdown_le_iff.1 le_rfl).1

/-- A value of series laid end to end stands in one of them, after the earlier ones. -/
theorem exists_part {β : Type*} {parts : List (List β)} {before after : List β} {v : β}
    (h : parts.flatten = before ++ v :: after) :
    ∃ earlier begun rest later, parts = earlier ++ (begun ++ v :: rest) :: later ∧
      before = earlier.flatten ++ begun := by
  rcases List.flatten_eq_append_iff.1 h with
    ⟨earlier, others, rfl, rfl, hothers⟩ | ⟨earlier, begun, w, rest, later, rfl, rfl, hrest⟩
  · -- it is the first value of a series, after empty ones
    rcases List.flatten_eq_cons_iff.1 hothers.symm with ⟨empty, rest, later, rfl, hempty, -⟩
    refine ⟨earlier ++ empty, [], rest, later, by simp, ?_⟩
    simp [List.flatten_eq_nil_iff.2 hempty]
  · rcases List.cons.inj hrest with ⟨rfl, -⟩
    exact ⟨earlier, begun, rest, later, rfl, rfl⟩

/-- Over series laid end to end only a fall from a value of an earlier series can exceed a bound of
the series' own drawdowns. -/
theorem maxDrawdown_flatten_le_iff {parts : List (List α)} {b : α} (hb : 0 ≤ b)
    (hparts : ∀ part ∈ parts, maxDrawdown part ≤ b) :
    maxDrawdown parts.flatten ≤ b ↔ ∀ earlier part later, parts = earlier ++ part :: later →
      ∀ before v after, part = before ++ v :: after →
        ∀ p ∈ earlier.flatten, Highest (earlier.flatten ++ before ++ [v]) p → fall p v ≤ b := by
  rw [maxDrawdown_le_iff, and_iff_right hb]
  constructor
  · rintro hall earlier _ later rfl before v after rfl p - hp
    refine hall (earlier.flatten ++ before) v (after ++ later.flatten) ?_ p hp
    simp
  · intro hall before v after hsplit p hp
    rcases exists_part hsplit with ⟨earlier, begun, rest, later, rfl, rfl⟩
    have hmem : p ∈ earlier.flatten ∨ p ∈ begun ++ [v] := by
      rw [← List.mem_append, ← List.append_assoc]
      exact hp.1
    rcases hmem with hearlier | hown
    · exact hall earlier _ later rfl begun v rest rfl p hearlier hp
    · -- the peak lies in the series itself
      have hpart : begun ++ v :: rest ∈ earlier ++ (begun ++ v :: rest) :: later := by simp
      refine (maxDrawdown_le_iff.1 (hparts _ hpart)).2 begun v rest rfl p ⟨hown, ?_⟩
      intro w hw
      refine hp.2 w ?_
      rw [List.append_assoc]
      exact List.mem_append_right _ hw

/-! ## Value by value -/

theorem pairwise_iff_split {β : Type*} {R : β → β → Prop} {values : List β} :
    values.Pairwise R ↔
      ∀ before v after, values = before ++ v :: after → ∀ e ∈ before, R e v := by
  constructor
  · rintro h before v after rfl e he
    exact (List.pairwise_append.1 h).2.2 e he v (by simp)
  · intro h
    rw [List.pairwise_iff_getElem]
    intro i j hi hj hij
    have hsplit : values = values.take j ++ values[j] :: values.drop (j + 1) := by
      rw [List.getElem_cons_drop, List.take_append_drop]
    exact h _ _ _ hsplit _ (List.mem_take_iff_getElem.2 ⟨i, by omega, rfl⟩)

/-- Of a series that starts above zero a drawdown is bounded exactly if no value lies below this
fraction of an earlier one. -/
theorem maxDrawdown_le_iff_pairwise [IsStrictOrderedRing α] {first b : α} {rest : List α}
    (hfirst : 0 < first) (hb : 0 ≤ b) (hone : b ≤ 1) :
    maxDrawdown (first :: rest) ≤ b ↔
      (first :: rest).Pairwise fun earlier later => (1 - b) * earlier ≤ later := by
  have hfall : ∀ {p v : α}, 0 < p → (fall p v ≤ b ↔ (1 - b) * p ≤ v) := by
    intro p v hp
    rw [fall, if_pos hp, div_le_iff₀ hp, sub_mul, one_mul, sub_le_comm]
  rw [maxDrawdown_le_iff, pairwise_iff_split, and_iff_right hb]
  constructor
  · intro hall before v after hsplit e he
    rcases exists_highest (List.append_ne_nil_of_right_ne_nil before (List.cons_ne_nil v [])) with
      ⟨p, hp⟩
    have hhead : first ∈ before ++ [v] := by
      cases before with
      | nil => cases he
      | cons x before => simp [(List.cons.inj hsplit).1]
    -- the peak is above the earlier value, and bounds the fall from it
    calc (1 - b) * e ≤ (1 - b) * p :=
          mul_le_mul_of_nonneg_left (hp.2 e (List.mem_append_left _ he)) (sub_nonneg.2 hone)
      _ ≤ v := (hfall (hfirst.trans_le (hp.2 first hhead))).1 (hall before v after hsplit p hp)
  · intro hall before v after hsplit p hp
    rcases List.mem_append.1 hp.1 with hearlier | hlast
    · have hhead : first ∈ before ++ [v] := by
        cases before with
        | nil => cases hearlier
        | cons x before => simp [(List.cons.inj hsplit).1]
      exact (hfall (hfirst.trans_le (hp.2 first hhead))).2 (hall before v after hsplit p hearlier)
    · rw [List.mem_singleton.1 hlast, fall_self]
      exact hb

end Drawdown
