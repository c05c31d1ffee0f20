import Mathlib.Data.Int.Log
import Mathlib.Data.Rat.Floor
import Mathlib.Tactic.FieldSimp
import Mathlib.Tactic.GCongr
import Mathlib.Tactic.Linarith
import Mathlib.Tactic.Ring

/-!
# Decimal — the arithmetic context of Python's `decimal`

A `Decimal` operation computes its exact result and rounds it in the current context.  The agent
never sets one, so it runs in the default context: 28 significant digits, ties to even.

* `DecimalContext.exact` rounds nothing: exact rational arithmetic;
* `DecimalContext.default` is the context the agent runs in;
* `CurrentContext` is the one a run computes in: exact arithmetic, unless another is made current.
-/

namespace TradingAgent

structure DecimalContext where
  round : ℚ → ℚ
  /-- Whether an integer is short enough to be the coefficient of a number. -/
  fits : ℤ → Bool := fun _ => true

namespace DecimalContext

variable (context : DecimalContext) (a b : ℚ)

def add : ℚ := context.round (a + b)

def sub : ℚ := context.round (a - b)

def mul : ℚ := context.round (a * b)

def div : ℚ := context.round (a / b)

/-- `x` as a multiple of `10 ^ exponent`; `none` where the coefficient is too long for the context
(`InvalidOperation`). -/
def quantize (x : ℚ) (exponent : ℤ) (toIntegral : ℚ → ℤ) : Option ℚ :=
  let coefficient := toIntegral (x / 10 ^ exponent)
  if context.fits coefficient then some (coefficient * 10 ^ exponent) else none

/-- Exact rational arithmetic. -/
def exact : DecimalContext where
  round := id

@[simp] theorem exact_add : exact.add a b = a + b := rfl

@[simp] theorem exact_sub : exact.sub a b = a - b := rfl

@[simp] theorem exact_mul : exact.mul a b = a * b := rfl

@[simp] theorem exact_div : exact.div a b = a / b := rfl

/-- The nearest integer, ties to the even one (`ROUND_HALF_EVEN`). -/
def roundHalfEven (x : ℚ) : ℤ :=
  let below := ⌊x⌋
  if x - below < 1 / 2 then below
  else if x - below > 1 / 2 then below + 1
  else if below % 2 = 0 then below
  else below + 1

/-- Rounding to `prec` significant digits. -/
def significant (prec : ℕ) : DecimalContext where
  round x :=
    let scale : ℚ := 10 ^ ((prec : ℤ) - 1 - Int.log 10 |x|)
    roundHalfEven (x * scale) / scale
  fits coefficient := decide (|coefficient| < 10 ^ prec)

/-- The context of a fresh interpreter. -/
def default : DecimalContext := significant 28

/-- What is positive stays positive when it is rounded, and zero stays zero. -/
structure KeepsSign (context : DecimalContext) : Prop where
  pos : ∀ x, 0 < x → 0 < context.round x
  zero : context.round 0 = 0

theorem keepsSign_exact : exact.KeepsSign :=
  ⟨fun _ hx => hx, rfl⟩

/-! ## The nearest integer -/

theorem le_roundHalfEven {n : ℤ} {x : ℚ} (h : n ≤ x) : n ≤ roundHalfEven x := by
  have hfloor : n ≤ ⌊x⌋ := Int.le_floor.2 h
  simp only [roundHalfEven]
  split_ifs <;> omega

theorem roundHalfEven_le {n : ℤ} {x : ℚ} (h : x ≤ n) : roundHalfEven x ≤ n := by
  have hfloor : ⌊x⌋ ≤ n := by
    exact_mod_cast (Int.floor_le x).trans h
  rcases hfloor.lt_or_eq with hlt | heq
  · simp only [roundHalfEven]
    split_ifs <;> omega
  · -- then `x` is `n` itself
    have hx : x - ⌊x⌋ < 1 / 2 := by
      rw [heq]
      linarith
    simp only [roundHalfEven, if_pos hx]
    exact hfloor

@[simp] theorem roundHalfEven_intCast (n : ℤ) : roundHalfEven n = n :=
  le_antisymm (roundHalfEven_le le_rfl) (le_roundHalfEven le_rfl)

theorem abs_roundHalfEven_sub_le (x : ℚ) : |(roundHalfEven x : ℚ) - x| ≤ 1 / 2 := by
  have hlow := Int.floor_le x
  have hhigh := Int.lt_floor_add_one x
  rw [abs_le]
  simp only [roundHalfEven]
  split_ifs
  · constructor <;> linarith
  · push_cast
    constructor <;> linarith
  · constructor <;> linarith
  · push_cast
    constructor <;> linarith

theorem roundHalfEven_neg (x : ℚ) : roundHalfEven (-x) = -roundHalfEven x := by
  rcases (Int.floor_le x).lt_or_eq with hbetween | hinteger
  · -- strictly between two integers the distances to them change places
    have hfloor : ⌊-x⌋ = -⌊x⌋ - 1 := by
      rw [Int.floor_eq_iff]
      have hbelow := Int.lt_floor_add_one x
      push_cast
      constructor <;> linarith
    simp only [roundHalfEven, hfloor]
    push_cast
    split_ifs <;> first | omega | linarith
  · rw [← hinteger, roundHalfEven_intCast, ← Int.cast_neg, roundHalfEven_intCast]

/-! ## Significant digits -/

/-- The exponent of the last digit that rounding to `prec` digits leaves of `x`. -/
def lastPlace (prec : ℕ) (x : ℚ) : ℤ :=
  Int.log 10 |x| - (prec - 1)

/-- The numbers of at most `prec` significant digits. -/
def Representable (prec : ℕ) (x : ℚ) : Prop :=
  ∃ m e : ℤ, |m| < 10 ^ prec ∧ x = m * 10 ^ e

theorem representable_intCast {n : ℕ} {k : ℤ} (h : |k| ≤ 10 ^ (n + 1)) :
    Representable (n + 1) k := by
  rcases h.lt_or_eq with hlt | heq
  · exact ⟨k, 0, hlt, by simp⟩
  · -- one more digit than there is room for, but all of them but the first are zero
    have hone : (1 : ℤ) < 10 ^ (n + 1) := one_lt_pow₀ (by norm_num) (by omega)
    have hpower : (10 : ℚ) ^ ((n : ℤ) + 1) = 10 ^ (n + 1) := by norm_cast
    rcases abs_choice k with hk | hk
    · refine ⟨1, n + 1, by simpa using hone, ?_⟩
      rw [← hk, heq, hpower]
      push_cast
      ring
    · refine ⟨-1, n + 1, by simpa using hone, ?_⟩
      rw [← neg_neg k, ← hk, heq, hpower]
      push_cast
      ring

section Significant

variable {n : ℕ} {x : ℚ}

theorem ten_zpow_pos (e : ℤ) : (0 : ℚ) < 10 ^ e :=
  zpow_pos (by norm_num) e

/-- Rounding is to a multiple of the last place. -/
theorem significant_round (prec : ℕ) (x : ℚ) :
    (significant prec).round x =
      roundHalfEven (x / 10 ^ lastPlace prec x) * 10 ^ lastPlace prec x := by
  have hscale : (10 : ℚ) ^ ((prec : ℤ) - 1 - Int.log 10 |x|) =
      (10 ^ lastPlace prec x)⁻¹ := by
    rw [← zpow_neg, lastPlace, neg_sub]
  simp only [significant, hscale]
  rw [div_inv_eq_mul, div_eq_mul_inv]

@[simp] theorem significant_zero (prec : ℕ) : (significant prec).round 0 = 0 := by
  simp [significant_round, roundHalfEven]

/-- The first digit of a number is where its logarithm says. -/
theorem zpow_log_le (hx : x ≠ 0) : (10 : ℚ) ^ Int.log 10 |x| ≤ |x| := by
  have h := Int.zpow_log_le_self (R := ℚ) (b := 10) (r := |x|) (by norm_num) (abs_pos.2 hx)
  simpa using h

/-- A number that ends at or before its last place is left as it is. -/
theorem significant_of_le_place {prec : ℕ} {m e : ℤ} (hx : x = m * 10 ^ e)
    (h : lastPlace prec x ≤ e) : (significant prec).round x = x := by
  have hcoefficient : x / 10 ^ lastPlace prec x =
      ((m * 10 ^ (e - lastPlace prec x).toNat : ℤ) : ℚ) := by
    have hexponent : ((e - lastPlace prec x).toNat : ℤ) = e - lastPlace prec x :=
      Int.toNat_of_nonneg (by omega)
    push_cast
    rw [← zpow_natCast, hexponent, zpow_sub₀ (by norm_num), ← mul_div_assoc, ← hx]
  rw [significant_round, hcoefficient, roundHalfEven_intCast, ← hcoefficient]
  exact div_mul_cancel₀ x (ten_zpow_pos _).ne'

/-- How long a coefficient is shows in the size of the number. -/
theorem abs_mul_zpow_lt_iff (n : ℕ) (m e : ℤ) :
    |(m : ℚ) * 10 ^ e| < 10 ^ (e + (n + 1)) ↔ |m| < 10 ^ (n + 1) := by
  have hsplit : (10 : ℚ) ^ (e + (n + 1)) = 10 ^ (n + 1) * 10 ^ e := by
    rw [zpow_add₀ (by norm_num), mul_comm]
    norm_cast
  rw [abs_mul, abs_of_pos (ten_zpow_pos e), hsplit, mul_lt_mul_iff_left₀ (ten_zpow_pos e)]
  exact_mod_cast Iff.rfl

/-- What is representable is left as it is. -/
theorem significant_of_representable (h : Representable (n + 1) x) :
    (significant (n + 1)).round x = x := by
  rcases h with ⟨m, e, hm, rfl⟩
  by_cases hzero : (m : ℚ) * 10 ^ e = 0
  · rw [hzero, significant_zero]
  refine significant_of_le_place rfl ?_
  -- the first digit stands below the place `e + n + 1`
  have hlt := (abs_mul_zpow_lt_iff n m e).2 hm
  have hlog : Int.log 10 |(m : ℚ) * 10 ^ e| < e + (n + 1) := by
    have h := (zpow_log_le hzero).trans_lt hlt
    exact (zpow_lt_zpow_iff_right₀ (by norm_num)).1 h
  simp only [lastPlace]
  push_cast
  omega

/-- Rounding leaves a multiple of a power of ten a multiple of it. -/
theorem exists_significant_eq_mul (prec : ℕ) (m e : ℤ) :
    ∃ k : ℤ, (significant prec).round (m * 10 ^ e) = k * 10 ^ e := by
  by_cases h : lastPlace prec (m * 10 ^ e) ≤ e
  · exact ⟨m, significant_of_le_place rfl h⟩
  · have hexponent : ((lastPlace prec (m * 10 ^ e) - e).toNat : ℤ) =
        lastPlace prec (m * 10 ^ e) - e := Int.toNat_of_nonneg (by omega)
    refine ⟨roundHalfEven (m * 10 ^ e / 10 ^ lastPlace prec (m * 10 ^ e)) *
      10 ^ (lastPlace prec (m * 10 ^ e) - e).toNat, ?_⟩
    rw [significant_round]
    push_cast
    rw [mul_assoc, ← zpow_natCast, hexponent, ← zpow_add₀ (by norm_num), sub_add_cancel]

/-- The first digit is not lost. -/
theorem zpow_log_le_significant (hx : x ≠ 0) :
    (10 : ℚ) ^ Int.log 10 |x| ≤ |(significant (n + 1)).round x| := by
  have hplace := ten_zpow_pos (lastPlace (n + 1) x)
  have hsplit : (10 : ℚ) ^ Int.log 10 |x| = 10 ^ n * 10 ^ lastPlace (n + 1) x := by
    rw [← zpow_natCast, ← zpow_add₀ (by norm_num), lastPlace]
    congr 1
    push_cast
    ring
  have hlarge : (10 : ℚ) ^ n ≤ |x / 10 ^ lastPlace (n + 1) x| := by
    rw [abs_div, abs_of_pos hplace, le_div_iff₀ hplace, ← hsplit]
    exact zpow_log_le hx
  have hcoefficient : (10 : ℚ) ^ n ≤ |(roundHalfEven (x / 10 ^ lastPlace (n + 1) x) : ℚ)| := by
    rcases le_abs.1 hlarge with hpos | hneg
    · have hle : (10 ^ n : ℤ) ≤ roundHalfEven (x / 10 ^ lastPlace (n + 1) x) :=
        le_roundHalfEven (by exact_mod_cast hpos)
      exact le_abs.2 (Or.inl (by exact_mod_cast hle))
    · have hle : roundHalfEven (x / 10 ^ lastPlace (n + 1) x) ≤ -(10 ^ n : ℤ) :=
        roundHalfEven_le (by push_cast; linarith)
      have hcast : (roundHalfEven (x / 10 ^ lastPlace (n + 1) x) : ℚ) ≤ -10 ^ n := by
        exact_mod_cast hle
      exact le_abs.2 (Or.inr (by linarith))
  rw [significant_round, abs_mul, abs_of_pos hplace, hsplit]
  exact mul_le_mul_of_nonneg_right hcoefficient hplace.le

/-- Rounding loses nothing altogether. -/
theorem significant_eq_zero_iff : (significant (n + 1)).round x = 0 ↔ x = 0 := by
  constructor
  · intro h
    by_contra hx
    have hfirst := zpow_log_le_significant (n := n) hx
    rw [h, abs_zero] at hfirst
    exact absurd hfirst (not_le.2 (ten_zpow_pos _))
  · rintro rfl
    exact significant_zero _

theorem significant_neg (prec : ℕ) (x : ℚ) :
    (significant prec).round (-x) = -(significant prec).round x := by
  have hplace : lastPlace prec (-x) = lastPlace prec x := by
    rw [lastPlace, lastPlace, abs_neg]
  rw [significant_round, significant_round, hplace, neg_div, roundHalfEven_neg, Int.cast_neg,
    neg_mul]

theorem significant_nonneg {prec : ℕ} (hx : 0 ≤ x) : 0 ≤ (significant prec).round x := by
  have hplace := ten_zpow_pos (lastPlace prec x)
  have hcoefficient : (0 : ℤ) ≤ roundHalfEven (x / 10 ^ lastPlace prec x) :=
    le_roundHalfEven (by simpa using div_nonneg hx hplace.le)
  rw [significant_round]
  exact mul_nonneg (by exact_mod_cast hcoefficient) hplace.le

/-- Rounding is never past a representable number. -/
theorem le_significant {y : ℚ} (hy : Representable (n + 1) y) (h : y ≤ x) :
    y ≤ (significant (n + 1)).round x := by
  rcases hy with ⟨m, e, hm, rfl⟩
  by_cases hx : x = 0
  · rw [hx, significant_zero]
    exact hx ▸ h
  have hplace := ten_zpow_pos (lastPlace (n + 1) x)
  rcases le_or_gt (lastPlace (n + 1) x) e with hends | hlong
  · -- it ends at or before the last place, so it is one of the numbers rounded to
    have hexponent : ((e - lastPlace (n + 1) x).toNat : ℤ) = e - lastPlace (n + 1) x :=
      Int.toNat_of_nonneg (by omega)
    have hmultiple : (m : ℚ) * 10 ^ e =
        ((m * 10 ^ (e - lastPlace (n + 1) x).toNat : ℤ) : ℚ) * 10 ^ lastPlace (n + 1) x := by
      push_cast
      rw [mul_assoc, ← zpow_natCast, hexponent, ← zpow_add₀ (by norm_num), sub_add_cancel]
    rw [hmultiple] at h ⊢
    rw [significant_round]
    have hcoefficient := le_roundHalfEven ((le_div_iff₀ hplace).2 h)
    exact mul_le_mul_of_nonneg_right (by exact_mod_cast hcoefficient) hplace.le
  · -- it is shorter than the first digit of `x`, which rounding keeps
    have hshort : |(m : ℚ) * 10 ^ e| < 10 ^ Int.log 10 |x| := by
      refine ((abs_mul_zpow_lt_iff n m e).2 hm).trans_le (zpow_le_zpow_right₀ (by norm_num) ?_)
      simp only [lastPlace] at hlong
      push_cast at hlong
      omega
    rcases lt_or_gt_of_ne hx with hneg | hpos
    · have hfirst := hshort.trans_le (zpow_log_le hx)
      rw [abs_of_neg hneg] at hfirst
      exact absurd ((neg_le_neg h).trans (neg_le_abs _)) (not_le.2 hfirst)
    · have hfirst := hshort.trans_le (zpow_log_le_significant (n := n) hx)
      rw [abs_of_nonneg (significant_nonneg hpos.le)] at hfirst
      exact (le_abs_self _).trans hfirst.le

/-- The relative error is at most half a unit of the last of `n + 1` digits. -/
theorem abs_significant_sub_le (n : ℕ) (x : ℚ) :
    |(significant (n + 1)).round x - x| ≤ |x| * (1 / 2 / 10 ^ n) := by
  by_cases hx : x = 0
  · simp [hx]
  have hplace := ten_zpow_pos (lastPlace (n + 1) x)
  have hsplit : (10 : ℚ) ^ lastPlace (n + 1) x = 10 ^ Int.log 10 |x| / 10 ^ n := by
    rw [← zpow_natCast, ← zpow_sub₀ (by norm_num), lastPlace]
    congr 1
    push_cast
    ring
  have herror : (significant (n + 1)).round x - x =
      (roundHalfEven (x / 10 ^ lastPlace (n + 1) x) - x / 10 ^ lastPlace (n + 1) x) *
        10 ^ lastPlace (n + 1) x := by
    rw [significant_round, sub_mul, div_mul_cancel₀ x hplace.ne']
  rw [herror, abs_mul, abs_of_pos hplace]
  calc |(roundHalfEven (x / 10 ^ lastPlace (n + 1) x) : ℚ) - x / 10 ^ lastPlace (n + 1) x| *
        10 ^ lastPlace (n + 1) x
      ≤ 1 / 2 * (10 ^ Int.log 10 |x| / 10 ^ n) := by
        rw [← hsplit]
        exact mul_le_mul_of_nonneg_right (abs_roundHalfEven_sub_le _) hplace.le
    _ ≤ 1 / 2 * (|x| / 10 ^ n) := by
        have hlog := zpow_log_le hx
        gcongr
    _ = |x| * (1 / 2 / 10 ^ n) := by ring

/-- A product of whole numbers of steps is quantized to itself, unless its coefficient has more than
`n + 1` digits. -/
theorem quantize_significant_mul (n : ℕ) (m e : ℤ) {toIntegral : ℚ → ℤ}
    (hintegral : ∀ k : ℤ, toIntegral k = k) :
    (significant (n + 1)).quantize ((significant (n + 1)).round (m * 10 ^ e)) e toIntegral =
      if |m| < 10 ^ (n + 1) then some ((m : ℚ) * 10 ^ e) else none := by
  have hunit := ten_zpow_pos e
  have hcoefficient : ∀ k : ℤ, (k : ℚ) * 10 ^ e / 10 ^ e = k := fun k =>
    mul_div_cancel_right₀ _ hunit.ne'
  by_cases hm : |m| < 10 ^ (n + 1)
  · have hround : (significant (n + 1)).round (m * 10 ^ e) = m * 10 ^ e :=
      significant_of_representable ⟨m, e, hm, rfl⟩
    rw [hround, quantize, hcoefficient, hintegral, if_pos hm]
    simp only [significant, decide_eq_true hm, if_true]
  · -- too long before it was rounded, and rounding keeps the first digit where it is
    rcases exists_significant_eq_mul (n + 1) m e with ⟨k, hk⟩
    have hlarge : (10 : ℚ) ^ (e + (n + 1)) ≤ |(m : ℚ) * 10 ^ e| :=
      not_lt.1 (mt (abs_mul_zpow_lt_iff n m e).1 hm)
    have hne : (m : ℚ) * 10 ^ e ≠ 0 := abs_pos.1 ((ten_zpow_pos _).trans_le hlarge)
    have hlog : e + (n + 1) ≤ Int.log 10 |(m : ℚ) * 10 ^ e| :=
      (Int.zpow_le_iff_le_log (by norm_num) (abs_pos.2 hne)).1 (by exact_mod_cast hlarge)
    have hlong : ¬|k| < 10 ^ (n + 1) := by
      rw [← abs_mul_zpow_lt_iff n k e, ← hk, not_lt]
      exact (zpow_le_zpow_right₀ (by norm_num) hlog).trans (zpow_log_le_significant hne)
    rw [hk, quantize, hcoefficient, hintegral, if_neg hm]
    simp only [significant, decide_eq_false hlong, Bool.false_eq_true, if_false]

end Significant

/-- Exact arithmetic quantizes a product of whole numbers of steps to itself. -/
theorem quantize_exact_mul (m e : ℤ) {toIntegral : ℚ → ℤ} (hintegral : ∀ k : ℤ, toIntegral k = k) :
    exact.quantize (m * 10 ^ e) e toIntegral = some ((m : ℚ) * 10 ^ e) := by
  have hcoefficient : (m : ℚ) * 10 ^ e / 10 ^ e = m :=
    mul_div_cancel_right₀ _ (ten_zpow_pos e).ne'
  rw [quantize, hcoefficient, hintegral]
  exact if_pos rfl

/-- A context of at least one digit keeps the first digit of what it rounds. -/
theorem keepsSign_significant (n : ℕ) : (significant (n + 1)).KeepsSign := by
  constructor
  · intro x hx
    have hfirst := zpow_log_le_significant (n := n) hx.ne'
    rw [abs_of_nonneg (significant_nonneg hx.le)] at hfirst
    exact (ten_zpow_pos _).trans_le hfirst
  · exact significant_zero _

theorem keepsSign_default : default.KeepsSign :=
  keepsSign_significant 27

/-- Half a unit in the last of 28 digits. -/
def unitRoundoff : ℚ :=
  1 / 2 / 10 ^ 27

theorem abs_default_sub_le (x : ℚ) : |default.round x - x| ≤ |x| * unitRoundoff :=
  abs_significant_sub_le 27 x

theorem unitRoundoff_pos : 0 < unitRoundoff := by
  norm_num [unitRoundoff]

theorem unitRoundoff_lt_one : unitRoundoff < 1 := by
  norm_num [unitRoundoff]

theorem abs_default_add_sub_le (a b : ℚ) :
    |default.add a b - (a + b)| ≤ (|a| + |b|) * unitRoundoff :=
  (abs_default_sub_le (a + b)).trans
    (mul_le_mul_of_nonneg_right (abs_add_le a b) unitRoundoff_pos.le)

theorem abs_default_sub_sub_le (a b : ℚ) :
    |default.sub a b - (a - b)| ≤ (|a| + |b|) * unitRoundoff := by
  have h := abs_default_add_sub_le a (-b)
  rw [abs_neg, ← sub_eq_add_neg] at h
  rwa [add, ← sub_eq_add_neg] at h

/-- What `k` roundings, one upon the other, can make of the exact figure `exact`. -/
structure Near (k : ℕ) (rounded exact : ℚ) : Prop where
  nonneg : 0 ≤ exact
  low : exact * (1 - unitRoundoff) ^ k ≤ rounded
  high : rounded ≤ exact * (1 + unitRoundoff) ^ k

namespace Near

variable {j k : ℕ} {a b a' b' : ℚ}

theorem refl (ha : 0 ≤ a) : Near 0 a a :=
  ⟨ha, by simp, by simp⟩

theorem rounded_nonneg (h : Near k a a') : 0 ≤ a :=
  (mul_nonneg h.nonneg (pow_nonneg (sub_nonneg.2 unitRoundoff_lt_one.le) k)).trans h.low

theorem mono (h : Near j a a') (hjk : j ≤ k) : Near k a a' := by
  have hu := unitRoundoff_pos
  have hu1 := unitRoundoff_lt_one
  refine ⟨h.nonneg, le_trans ?_ h.low, h.high.trans ?_⟩
  · exact mul_le_mul_of_nonneg_left
      (pow_le_pow_of_le_one (by linarith) (by linarith) hjk) h.nonneg
  · exact mul_le_mul_of_nonneg_left (pow_le_pow_right₀ (by linarith) hjk) h.nonneg

/-- One more rounding. -/
theorem round (h : Near k a a') : Near (k + 1) (default.round a) a' := by
  have ha := h.rounded_nonneg
  have herror := abs_le.1 (abs_default_sub_le a)
  rw [abs_of_nonneg ha] at herror
  have hu := unitRoundoff_pos
  have hu1 := unitRoundoff_lt_one
  refine ⟨h.nonneg, ?_, ?_⟩
  · calc a' * (1 - unitRoundoff) ^ (k + 1) = a' * (1 - unitRoundoff) ^ k * (1 - unitRoundoff) := by
          ring
      _ ≤ a * (1 - unitRoundoff) := mul_le_mul_of_nonneg_right h.low (by linarith)
      _ ≤ default.round a := by linarith
  · calc default.round a ≤ a * (1 + unitRoundoff) := by linarith
      _ ≤ a' * (1 + unitRoundoff) ^ k * (1 + unitRoundoff) :=
        mul_le_mul_of_nonneg_right h.high (by linarith)
      _ = a' * (1 + unitRoundoff) ^ (k + 1) := by ring

theorem mul (ha : Near j a a') (hb : Near k b b') : Near (j + k + 1) (default.mul a b) (a' * b') := by
  have hu1 := unitRoundoff_lt_one
  have hproduct : Near (j + k) (a * b) (a' * b') := by
    refine ⟨mul_nonneg ha.nonneg hb.nonneg, ?_, ?_⟩
    · calc a' * b' * (1 - unitRoundoff) ^ (j + k)
          = a' * (1 - unitRoundoff) ^ j * (b' * (1 - unitRoundoff) ^ k) := by ring
        _ ≤ a * b := mul_le_mul ha.low hb.low
          (mul_nonneg hb.nonneg (pow_nonneg (by linarith) k)) ha.rounded_nonneg
    · calc a * b ≤ a' * (1 + unitRoundoff) ^ j * (b' * (1 + unitRoundoff) ^ k) :=
          mul_le_mul ha.high hb.high hb.rounded_nonneg (ha.rounded_nonneg.trans ha.high)
        _ = a' * b' * (1 + unitRoundoff) ^ (j + k) := by ring
  exact hproduct.round

theorem add (ha : Near k a a') (hb : Near k b b') : Near (k + 1) (default.add a b) (a' + b') := by
  have hsum : Near k (a + b) (a' + b') := by
    refine ⟨add_nonneg ha.nonneg hb.nonneg, ?_, ?_⟩
    · rw [add_mul]
      exact add_le_add ha.low hb.low
    · rw [add_mul]
      exact add_le_add ha.high hb.high
  exact hsum.round

end Near

/-- A difference that is not negative is rounded to zero only when there is none. -/
theorem KeepsSign.sub_nonpos {context : DecimalContext} (h : context.KeepsSign) {a b : ℚ}
    (hle : b ≤ a) : context.sub a b ≤ 0 ↔ a = b := by
  constructor
  · intro hsub
    by_contra hne
    have hpos := h.pos (a - b) (sub_pos.2 (lt_of_le_of_ne hle (Ne.symm hne)))
    exact absurd hsub (not_le.2 hpos)
  · rintro rfl
    simp [sub, h.zero]

example : default.mul 3 (default.div 10 3) = 9999999999999999999999999999 / 10 ^ 27 := by
  decide +kernel

end DecimalContext

/-- The context a run computes in. -/
class CurrentContext where
  decimal : DecimalContext

export CurrentContext (decimal)

instance (priority := low) exactArithmetic : CurrentContext := ⟨.exact⟩

@[simp] theorem decimal_exact : exactArithmetic.decimal = .exact := rfl

namespace Interpreter

/-- Where this namespace is open, a run computes as the agent's interpreter does. -/
scoped instance defaultContext : CurrentContext := ⟨.default⟩

@[simp] theorem decimal_default : defaultContext.decimal = .default := rfl

end Interpreter

end TradingAgent
