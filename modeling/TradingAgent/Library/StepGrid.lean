import Mathlib.Data.Rat.Floor
import Mathlib.Algebra.Order.Floor.Ring
import Mathlib.Tactic.FieldSimp
import Mathlib.Tactic.Linarith
import Mathlib.Tactic.Positivity

/-!
# StepGrid — rounding onto the multiples of a step

Rounding toward zero and rounding up to a multiple of `step`, over any linearly ordered field
with a floor.  `step = 0` stands for "no grid": nothing is rounded.

* `truncate` is the integer part toward zero;
* `roundDown step x` is the multiple of `step` nearest to `x` on the side of zero, for a
  non-negative `x` the largest one at or below it (`roundDown_isGreatest`);
* `roundUp step x` is the smallest multiple of a positive `step` at or above `x`
  (`le_roundUp`, `roundUp_le_of_mul`).
-/

namespace StepGrid

variable {K : Type*} [Field K] [LinearOrder K] [FloorRing K]

/-- The integer part of `x`, toward zero. -/
def truncate (x : K) : ℤ :=
  if 0 ≤ x then ⌊x⌋ else ⌈x⌉

/-- The multiples of `step`; every number when `step = 0`. -/
def grid (step : K) : Set K :=
  {y | step = 0 ∨ ∃ n : ℤ, y = n * step}

/-- `x` rounded toward zero onto the multiples of `step`; unchanged when `step = 0`. -/
def roundDown (step x : K) : K :=
  if step = 0 then x else truncate (x / step) * step

/-- `x` rounded up onto the multiples of `step`; unchanged unless `0 < step`. -/
def roundUp (step x : K) : K :=
  if 0 < step then ⌈x / step⌉ * step else x

theorem truncate_of_nonneg {x : K} (hx : 0 ≤ x) : truncate x = ⌊x⌋ :=
  if_pos hx

@[simp] theorem roundDown_zero_step (x : K) : roundDown 0 x = x := by
  simp [roundDown]

/-- The result lies on the grid. -/
theorem exists_int_roundDown {step : K} (h : step ≠ 0) (x : K) :
    ∃ n : ℤ, roundDown step x = n * step :=
  ⟨truncate (x / step), by simp [roundDown, h]⟩

theorem roundDown_mem_grid (step x : K) : roundDown step x ∈ grid step := by
  by_cases h : step = 0
  · exact Or.inl h
  · exact Or.inr (exists_int_roundDown h x)

theorem exists_int_roundUp {step : K} (h : 0 < step) (x : K) : ∃ n : ℤ, roundUp step x = n * step :=
  ⟨⌈x / step⌉, by simp [roundUp, h]⟩

variable [IsStrictOrderedRing K]

@[simp] theorem truncate_intCast (n : ℤ) : truncate (n : K) = n := by
  unfold truncate
  split
  · exact Int.floor_intCast n
  · exact Int.ceil_intCast n

theorem truncate_of_nonpos {x : K} (hx : x ≤ 0) : truncate x = ⌈x⌉ := by
  rcases hx.lt_or_eq with hlt | rfl
  · exact if_neg (not_le.2 hlt)
  · simp [truncate]

theorem truncate_neg (x : K) : truncate (-x) = -truncate x := by
  unfold truncate
  rcases lt_trichotomy x 0 with hlt | rfl | hgt
  · simp [hlt.le, not_le.2 hlt, Int.floor_neg]
  · simp
  · simp [hgt.le, not_le.2 hgt, Int.ceil_neg]

/-- A point of the grid is left where it is. -/
theorem roundDown_of_mul {step : K} (h : step ≠ 0) (n : ℤ) : roundDown step (n * step) = n * step := by
  have hdiv : (n : K) * step / step = n := by field_simp
  simp [roundDown, h, hdiv]

/-- Rounding twice is rounding once. -/
@[simp] theorem roundDown_roundDown (step x : K) :
    roundDown step (roundDown step x) = roundDown step x := by
  by_cases h : step = 0
  · simp [roundDown, h]
  · obtain ⟨n, hn⟩ := exists_int_roundDown h x
    rw [hn, roundDown_of_mul h]

theorem truncate_mul_le {x step : K} (hx : 0 ≤ x) (h : step ≠ 0) :
    0 ≤ truncate (x / step) * step ∧ truncate (x / step) * step ≤ x := by
  rcases lt_or_gt_of_ne h with hneg | hpos
  · -- a negative step: the quotient is at most zero and is rounded up
    have hq : x / step ≤ 0 := div_nonpos_of_nonneg_of_nonpos hx hneg.le
    have hceil : (truncate (x / step) : K) ≤ 0 ∧ x / step ≤ truncate (x / step) := by
      rw [truncate_of_nonpos hq]
      have hle : ⌈x / step⌉ ≤ 0 := Int.ceil_le.2 (by simpa using hq)
      exact ⟨by exact_mod_cast hle, Int.le_ceil _⟩
    refine ⟨mul_nonneg_of_nonpos_of_nonpos hceil.1 hneg.le, ?_⟩
    calc (truncate (x / step) : K) * step ≤ x / step * step :=
          mul_le_mul_of_nonpos_right hceil.2 hneg.le
      _ = x := div_mul_cancel₀ x h
  · have hq : 0 ≤ x / step := div_nonneg hx hpos.le
    rw [truncate_of_nonneg hq]
    have h0 : (0 : K) ≤ ⌊x / step⌋ := by exact_mod_cast Int.floor_nonneg.2 hq
    refine ⟨mul_nonneg h0 hpos.le, ?_⟩
    calc (⌊x / step⌋ : K) * step ≤ x / step * step :=
          mul_le_mul_of_nonneg_right (Int.floor_le _) hpos.le
      _ = x := div_mul_cancel₀ x h

/-- Rounding a non-negative number down never enlarges it. -/
theorem roundDown_le {step x : K} (hx : 0 ≤ x) : roundDown step x ≤ x := by
  by_cases h : step = 0
  · simp [roundDown, h]
  · simpa [roundDown, h] using (truncate_mul_le hx h).2

/-- A rounded number that is positive came from a positive one. -/
theorem pos_of_roundDown_pos {step x : K} (h : 0 < roundDown step x) : 0 < x := by
  by_contra hx
  have hx' : x ≤ 0 := not_lt.1 hx
  by_cases h0 : step = 0
  · simp only [roundDown, h0, if_true] at h
    exact absurd h hx
  · -- rounding is odd, so the non-positive case is the mirror of the non-negative one
    have hodd : (truncate (x / step) : K) * step ≤ 0 := by
      have hneg := (truncate_mul_le (neg_nonneg.2 hx') h0).1
      rw [neg_div, truncate_neg, Int.cast_neg] at hneg
      linarith
    simp only [roundDown, h0, if_false] at h
    exact absurd h (not_lt.2 hodd)

/-! ## The largest point below -/

omit [FloorRing K] [IsStrictOrderedRing K] in
omit [FloorRing K] [IsStrictOrderedRing K] in
/-- The direction of the step does not matter. -/
theorem grid_abs (step : K) : grid |step| = grid step := by
  ext y
  rcases abs_choice step with h | h
  · rw [h]
  · rw [h]
    constructor
    · rintro (hzero | ⟨n, rfl⟩)
      · exact Or.inl (neg_eq_zero.1 hzero)
      · exact Or.inr ⟨-n, by push_cast; ring⟩
    · rintro (hzero | ⟨n, rfl⟩)
      · exact Or.inl (neg_eq_zero.2 hzero)
      · exact Or.inr ⟨-n, by push_cast; ring⟩

/-- A non-negative number is rounded down to the largest point of the grid at or below it. -/
theorem roundDown_isGreatest {step x : K} (hx : 0 ≤ x) :
    IsGreatest {y | y ∈ grid step ∧ y ≤ x} (roundDown step x) := by
  refine ⟨⟨roundDown_mem_grid step x, roundDown_le hx⟩, ?_⟩
  rintro y ⟨hgrid, hy⟩
  by_cases h : step = 0
  · simpa [roundDown, h] using hy
  rcases hgrid with hzero | ⟨n, rfl⟩
  · exact absurd hzero h
  simp only [roundDown, h, if_false]
  rcases lt_or_gt_of_ne h with hneg | hpos
  · -- below zero the quotient is rounded up
    have hq : x / step ≤ 0 := div_nonpos_of_nonneg_of_nonpos hx hneg.le
    have hn : x / step ≤ n := (div_le_iff_of_neg hneg).2 hy
    have hle : truncate (x / step) ≤ n := by
      rw [truncate_of_nonpos hq]
      exact Int.ceil_le.2 hn
    have hcast : (truncate (x / step) : K) ≤ n := by exact_mod_cast hle
    exact mul_le_mul_of_nonpos_right hcast hneg.le
  · have hq : 0 ≤ x / step := div_nonneg hx hpos.le
    have hn : (n : K) ≤ x / step := (le_div_iff₀ hpos).2 hy
    have hle : n ≤ truncate (x / step) := by
      rw [truncate_of_nonneg hq]
      exact Int.le_floor.2 hn
    have hcast : (n : K) ≤ truncate (x / step) := by exact_mod_cast hle
    exact mul_le_mul_of_nonneg_right hcast hpos.le

/-! ## Rounding up -/

theorem le_roundUp (step x : K) : x ≤ roundUp step x := by
  unfold roundUp
  split
  · rename_i hstep
    calc x = x / step * step := (div_mul_cancel₀ x hstep.ne').symm
      _ ≤ ⌈x / step⌉ * step := mul_le_mul_of_nonneg_right (Int.le_ceil _) hstep.le
  · exact le_rfl

/-- No smaller point of the grid is at or above `x`. -/
theorem roundUp_le_of_mul {step x : K} (h : 0 < step) {n : ℤ} (hx : x ≤ n * step) :
    roundUp step x ≤ n * step := by
  have hceil : ⌈x / step⌉ ≤ n := Int.ceil_le.2 ((div_le_iff₀ h).2 hx)
  have hcast : (⌈x / step⌉ : K) ≤ n := by exact_mod_cast hceil
  simpa [roundUp, h] using mul_le_mul_of_nonneg_right hcast h.le

theorem roundUp_mono (step : K) {x y : K} (h : x ≤ y) : roundUp step x ≤ roundUp step y := by
  by_cases hstep : 0 < step
  · rcases exists_int_roundUp hstep y with ⟨n, hn⟩
    rw [hn]
    exact roundUp_le_of_mul hstep (hn ▸ h.trans (le_roundUp step y))
  · simpa [roundUp, hstep] using h

end StepGrid
