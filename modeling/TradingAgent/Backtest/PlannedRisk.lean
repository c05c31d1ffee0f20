import TradingAgent.Backtest.Invariant

/-!
# Planned risk — what an approved plan guarantees, before and after the fill

The plan solves for a target whose net reward is exactly twice the net loss, rounds it up to a
tick, and rounds the quantity down to a step.  Neither rounding can spoil a guarantee, and moving
the anchor from the reference price to the slipped fill only makes the plan safer.

* `planRiskRewardEntry_guarantees` lists what an approved plan promises;
* `PlanBasis.realized` re-validates an approved plan at its fill;
* `revalidation_agrees` adds that no run turns an entry down after its fill.
-/

namespace TradingAgent

/-! ## The algebra of the plan -/

theorem lossPerUnit_eq (entry stop fee slippage : ℚ) :
    lossPerUnit entry stop fee slippage =
      entry * (1 + fee) - stop * ((1 - slippage) * (1 - fee)) := by
  simp only [lossPerUnit, DecimalContext.exact_add, DecimalContext.exact_sub,
    DecimalContext.exact_mul]
  ring

theorem gainPerUnit_eq (entry target fee slippage : ℚ) :
    gainPerUnit entry target fee slippage =
      target * ((1 - slippage) * (1 - fee)) - entry * (1 + fee) := by
  simp only [gainPerUnit, DecimalContext.exact_sub, DecimalContext.exact_mul]
  ring

/-- The target whose net gain is exactly the minimum multiple of `loss`. -/
def algebraicTarget (entry loss fee slippage : ℚ) : ℚ :=
  (minNetRewardToRisk * loss + entry * (1 + fee)) / ((1 - slippage) * (1 - fee))

/-- What is left of a price after slippage and the fee of a sale. -/
theorem netShare_pos {fee slippage : ℚ} (hfee : fee < 1) (hslippage : slippage < 1) :
    0 < (1 - slippage) * (1 - fee) :=
  mul_pos (sub_pos.2 hslippage) (sub_pos.2 hfee)

theorem netShare_le_one {fee slippage : ℚ} (hfee : 0 ≤ fee) (hfeeLt : fee < 1)
    (hslippage : 0 ≤ slippage) : (1 - slippage) * (1 - fee) ≤ 1 := by
  calc (1 - slippage) * (1 - fee) ≤ 1 * (1 - fee) :=
        mul_le_mul_of_nonneg_right (by linarith) (sub_nonneg.2 hfeeLt.le)
    _ ≤ 1 := by linarith

section Algebra

variable {entry stop loss fee slippage raw target : ℚ} {filters : SymbolFilters}

theorem solveTargetPrice_eq_ok (hfee : fee < 1) (hslippage : slippage < 1) :
    solveTargetPrice entry loss fee slippage = .ok (algebraicTarget entry loss fee slippage) := by
  have hshare := (netShare_pos hfee hslippage).ne'
  simp [solveTargetPrice, decDiv, hshare, algebraicTarget]

theorem gainPerUnit_algebraicTarget (hfee : fee < 1) (hslippage : slippage < 1) :
    gainPerUnit entry (algebraicTarget entry loss fee slippage) fee slippage =
      minNetRewardToRisk * loss := by
  have hshare := (netShare_pos hfee hslippage).ne'
  rw [gainPerUnit_eq, algebraicTarget, div_mul_cancel₀ _ hshare]
  ring

/-- A higher target never gains less. -/
theorem gainPerUnit_mono (entry : ℚ) (hfee : fee < 1) (hslippage : slippage < 1) (h : raw ≤ target) :
    gainPerUnit entry raw fee slippage ≤ gainPerUnit entry target fee slippage := by
  have hmul := mul_le_mul_of_nonneg_right h (netShare_pos hfee hslippage).le
  simpa [gainPerUnit_eq] using hmul

/-- A higher stop never loses more. -/
theorem lossPerUnit_anti (entry : ℚ) {lower : ℚ} (hfee : fee < 1) (hslippage : slippage < 1)
    (h : lower ≤ stop) :
    lossPerUnit entry stop fee slippage ≤ lossPerUnit entry lower fee slippage := by
  have hmul := mul_le_mul_of_nonneg_right h (netShare_pos hfee hslippage).le
  rw [lossPerUnit_eq, lossPerUnit_eq]
  linarith

theorem algebraicTarget_mono (entry : ℚ) {loss' : ℚ} (hfee : fee < 1) (hslippage : slippage < 1)
    (h : loss' ≤ loss) :
    algebraicTarget entry loss' fee slippage ≤ algebraicTarget entry loss fee slippage := by
  have hloss := mul_le_mul_of_nonneg_left h (show 0 ≤ minNetRewardToRisk by norm_num [minNetRewardToRisk])
  exact div_le_div_of_nonneg_right (add_le_add_left hloss _) (netShare_pos hfee hslippage).le

/-- The target lies above the price that was paid: it has to earn back more than that price. -/
theorem entry_lt_algebraicTarget (hfee : 0 ≤ fee) (hfeeLt : fee < 1) (hslippage : 0 ≤ slippage)
    (hslippageLt : slippage < 1) (hentry : 0 < entry) (hloss : 0 < loss) :
    entry < algebraicTarget entry loss fee slippage := by
  have hshare := netShare_pos hfeeLt hslippageLt
  have hreward : 0 < minNetRewardToRisk * loss :=
    mul_pos (by norm_num [minNetRewardToRisk]) hloss
  rw [algebraicTarget, lt_div_iff₀ hshare]
  calc entry * ((1 - slippage) * (1 - fee)) ≤ entry * 1 :=
        mul_le_mul_of_nonneg_left (netShare_le_one hfee hfeeLt hslippage) hentry.le
    _ ≤ entry * (1 + fee) := mul_le_mul_of_nonneg_left (by linarith) hentry.le
    _ < minNetRewardToRisk * loss + entry * (1 + fee) := by linarith

/-- A stop below the entry price costs something, even without fees or slippage. -/
theorem lossPerUnit_pos {d : ℚ} (hfee : 0 ≤ fee) (hfeeLt : fee < 1) (hslippage : 0 ≤ slippage)
    (hentry : 0 < entry) (hd : 0 < d) (hdLt : d < 1) :
    0 < lossPerUnit entry (entry * (1 - d)) fee slippage := by
  have hstop : entry * (1 - d) < entry := by
    have := mul_pos hentry hd
    linarith
  have hkept : entry * (1 - d) * ((1 - slippage) * (1 - fee)) ≤ entry * (1 - d) * 1 :=
    mul_le_mul_of_nonneg_left (netShare_le_one hfee hfeeLt hslippage)
      (mul_pos hentry (sub_pos.2 hdLt)).le
  have hpaid := mul_nonneg hentry.le hfee
  rw [lossPerUnit_eq]
  linarith

/-- A rounded target is the solution rounded up, and fits under the maximum price. -/
theorem roundTargetUpToTick_eq_some (h : roundTargetUpToTick raw filters = .ok (some target)) :
    target = StepGrid.roundUp filters.tickSize raw ∧
      (0 < filters.maxPrice → target ≤ filters.maxPrice) := by
  rw [roundTargetUpToTick_exact] at h
  by_cases hover : filters.maxPrice > 0 ∧ StepGrid.roundUp filters.tickSize raw > filters.maxPrice
  · simp [if_pos hover] at h
  · rw [if_neg hover] at h
    cases h
    exact ⟨rfl, fun hpos => not_lt.1 fun hgt => hover ⟨hpos, hgt⟩⟩

/-- Where a target fits under the maximum price, so does any lower one. -/
theorem roundTargetUpToTick_of_le {raw' : ℚ}
    (h : roundTargetUpToTick raw filters = .ok (some target)) (hle : raw' ≤ raw) :
    ∃ target', roundTargetUpToTick raw' filters = .ok (some target') ∧ raw' ≤ target' ∧
      target' ≤ target := by
  rcases roundTargetUpToTick_eq_some h with ⟨rfl, hmax⟩
  have hmono := StepGrid.roundUp_mono filters.tickSize hle
  refine ⟨StepGrid.roundUp filters.tickSize raw', ?_, StepGrid.le_roundUp _ _, hmono⟩
  rw [roundTargetUpToTick_exact]
  exact congrArg _ (if_neg fun hover => not_lt.2 (hmono.trans (hmax hover.1)) hover.2)

end Algebra

/-! ## Before the fill -/

/-- What an approved plan promises. -/
structure PlanGuarantees (equity quoteBalance referencePrice stopDistancePct fee slippage : ℚ)
    (filters : SymbolFilters) (quantity stopPrice targetPrice : ℚ) : Prop where
  stop : stopPrice = referencePrice * (1 - stopDistancePct)
  risk : quantity * lossPerUnit (referencePrice * (1 + slippage)) stopPrice fee slippage ≤
    1 / 100 * equity
  cost : quantity * (referencePrice * (1 + slippage)) * (1 + fee) ≤ quoteBalance
  quantityPos : 0 < quantity
  onStep : ∃ n : ℤ, quantity = n * filters.stepSize
  minQty : filters.minQty ≤ quantity
  maxQty : filters.maxQty ≠ 0 → quantity ≤ filters.maxQty
  notional : filters.applyMinNotionalToMarket = true →
    filters.minNotional ≤ quantity * referencePrice
  target : ∃ rawTarget,
    gainPerUnit (referencePrice * (1 + slippage)) rawTarget fee slippage =
        2 * lossPerUnit (referencePrice * (1 + slippage)) stopPrice fee slippage ∧
      IsLeast {t | rawTarget ≤ t ∧ ∃ n : ℤ, t = n * filters.tickSize} targetPrice
  maxPrice : 0 < filters.maxPrice → targetPrice ≤ filters.maxPrice
  reward : 2 * (quantity * lossPerUnit (referencePrice * (1 + slippage)) stopPrice fee slippage) ≤
    quantity * gainPerUnit (referencePrice * (1 + slippage)) targetPrice fee slippage

theorem meetsLotSize_eq_true {q : ℚ} {filters : SymbolFilters}
    (h : meetsLotSize q filters = true) :
    filters.minQty ≤ q ∧ (filters.maxQty ≠ 0 → q ≤ filters.maxQty) := by
  unfold meetsLotSize at h
  by_cases hmin : q < filters.minQty
  · simp [hmin] at h
  · refine ⟨not_lt.1 hmin, ?_⟩
    intro hset
    simpa [hmin, hset] using h

/-- With rates below one nothing divides by zero, and exact arithmetic rounds every quantity. -/
theorem not_planningRaises {equity quote price d fee slippage : ℚ} {filters : SymbolFilters}
    {e : PyError} (hfee : 0 ≤ fee) (hfeeLt : fee < 1) (hslippage : 0 ≤ slippage)
    (hslippageLt : slippage < 1) : ¬PlanningRaises equity quote price d fee slippage filters .exact e := by
  intro h
  cases h with
  | cost hopen hcost =>
      have hpos : 0 < price * (1 + slippage) * (1 + fee) :=
        mul_pos (mul_pos hopen.pricePos (by linarith)) (by linarith)
      exact absurd hcost hpos.ne'
  | size _ _ hround =>
      rw [roundQuantity_exact] at hround
      cases hround
  | target _ hsolve =>
      unfold entryTarget at hsolve
      rw [solveTargetPrice_eq_ok hfeeLt hslippageLt] at hsolve
      cases hsolve
  | tick _ _ hround =>
      rw [roundTargetUpToTick_exact] at hround
      cases hround
  | stop hbasis hdistance =>
      -- the distance of the stop is a share of the positive price
      have hpos : 0 < price * d := mul_pos hbasis.pricePos hbasis.stopPos
      have hzero : price - price * (1 - d) = 0 := hdistance
      linarith

/-- With rates below one an entry is turned down or assessed. -/
theorem planRiskRewardEntry_returns (equity quote price d : ℚ) {fee slippage : ℚ} (hfee : 0 ≤ fee)
    (hfeeLt : fee < 1) (hslippage : 0 ≤ slippage) (hslippageLt : slippage < 1)
    (filters : SymbolFilters) :
    (∃ code stop, code ≠ .rrRejectedNetRewardToRiskBelowMinimum ∧
        planRiskRewardEntry equity quote price d fee slippage filters =
          .ok (rejectedPlan code stop)) ∨
      ∃ quantity rawTarget target,
        PlanBasis equity quote price d fee slippage filters quantity rawTarget target ∧
          planRiskRewardEntry equity quote price d fee slippage filters =
            .ok (assessedPlan equity price d fee slippage quantity target) := by
  have hplanning := planRiskRewardEntry_outcome equity quote price d fee slippage filters
  generalize planRiskRewardEntry equity quote price d fee slippage filters = r at hplanning ⊢
  cases hplanning with
  | raised hraises => exact absurd hraises (not_planningRaises hfee hfeeLt hslippage hslippageLt)
  | refused code stop hcode =>
      exact Or.inl ⟨code, stop, hcode, rfl⟩
  | assessed quantity rawTarget target hbasis _ =>
      exact Or.inr ⟨quantity, rawTarget, target, hbasis, rfl⟩

namespace PlanBasis

variable {equity quote price d fee slippage : ℚ} {filters : SymbolFilters} {q raw target : ℚ}

theorem raw_eq (h : PlanBasis equity quote price d fee slippage filters q raw target)
    (hfee : fee < 1) (hslippage : slippage < 1) :
    raw = algebraicTarget (price * (1 + slippage))
      (lossPerUnit (price * (1 + slippage)) (price * (1 - d)) fee slippage) fee slippage := by
  have hsolved := h.solved
  unfold entryTarget at hsolved
  rw [solveTargetPrice_eq_ok hfee hslippage] at hsolved
  exact (Except.ok.inj hsolved).symm

/-- Rounding the target up keeps the reward at twice the risk. -/
theorem reward (h : PlanBasis equity quote price d fee slippage filters q raw target)
    (hfee : fee < 1) (hslippage : slippage < 1) :
    minNetRewardToRisk *
        (q * lossPerUnit (price * (1 + slippage)) (price * (1 - d)) fee slippage) ≤
      q * gainPerUnit (price * (1 + slippage)) target fee slippage := by
  rcases roundTargetUpToTick_eq_some h.rounded with ⟨htarget, -⟩
  have hle : raw ≤ target := htarget ▸ StepGrid.le_roundUp _ _
  have hgain := gainPerUnit_mono (price * (1 + slippage)) hfee hslippage hle
  rw [h.raw_eq hfee hslippage, gainPerUnit_algebraicTarget hfee hslippage] at hgain
  calc minNetRewardToRisk *
        (q * lossPerUnit (price * (1 + slippage)) (price * (1 - d)) fee slippage)
      = q * (minNetRewardToRisk *
          lossPerUnit (price * (1 + slippage)) (price * (1 - d)) fee slippage) := by ring
    _ ≤ q * gainPerUnit (price * (1 + slippage)) target fee slippage :=
        mul_le_mul_of_nonneg_left hgain h.quantityPos.le

theorem guarantees (h : PlanBasis equity quote price d fee slippage filters q raw target)
    (hfee : 0 ≤ fee) (hfeeLt : fee < 1) (hslippage : 0 ≤ slippage) (hslippageLt : slippage < 1)
    (htick : 0 < filters.tickSize) (hstep : 0 < filters.stepSize) :
    PlanGuarantees equity quote price d fee slippage filters q (price * (1 - d)) target := by
  have hentry : 0 < price * (1 + slippage) := mul_pos h.pricePos (by linarith)
  have hcost : 0 < price * (1 + slippage) * (1 + fee) := mul_pos hentry (by linarith)
  rcases roundTargetUpToTick_eq_some h.rounded with ⟨htarget, hmax⟩
  rcases meetsLotSize_eq_true h.lot with ⟨hmin, hmaxQty⟩
  constructor
  case stop => rfl
  case risk => simpa [fixedMaxRiskPerTradePct, mul_comm] using h.risk_le
  case cost => simpa [mul_assoc] using h.affordable hcost
  case quantityPos => exact h.quantityPos
  case onStep =>
      rw [roundQuantity_eq_ok h.capped]
      exact StepGrid.exists_int_roundDown hstep.ne' _
  case minQty => exact hmin
  case maxQty => exact hmaxQty
  case notional =>
      intro happlies
      simpa [meetsMinNotional, happlies, mul_comm] using h.notional
  case target =>
      refine ⟨raw, ?_, ?_⟩
      · rw [h.raw_eq hfeeLt hslippageLt, gainPerUnit_algebraicTarget hfeeLt hslippageLt,
          minNetRewardToRisk]
      · -- the rounded target is the least tick at or above the solution
        subst htarget
        refine ⟨⟨StepGrid.le_roundUp _ _, StepGrid.exists_int_roundUp htick raw⟩, ?_⟩
        rintro t ⟨hle, n, rfl⟩
        exact StepGrid.roundUp_le_of_mul htick hle
  case maxPrice => exact hmax
  case reward => simpa [minNetRewardToRisk] using h.reward hfeeLt hslippageLt

end PlanBasis

/-- With rates below one and positive grids, planning an entry always returns a plan, never one
rejected for its net reward/risk, and an approved plan keeps every promise. -/
theorem planRiskRewardEntry_guarantees (equity quote price d fee slippage : ℚ)
    (filters : SymbolFilters) (hfee : 0 ≤ fee) (hfeeLt : fee < 1) (hslippage : 0 ≤ slippage)
    (hslippageLt : slippage < 1) (htick : 0 < filters.tickSize) (hstep : 0 < filters.stepSize) :
    ∃ plan, planRiskRewardEntry equity quote price d fee slippage filters = .ok plan ∧
      plan.reasonCode ≠ .rrRejectedNetRewardToRiskBelowMinimum ∧
      (plan.approved = true → ∃ q stop target, plan.quantity = some q ∧
        plan.stopPrice = some stop ∧ plan.targetPrice = some target ∧
        PlanGuarantees equity quote price d fee slippage filters q stop target) := by
  rcases planRiskRewardEntry_returns equity quote price d hfee hfeeLt hslippage hslippageLt filters
    with ⟨code, stop, hcode, hplan⟩ | ⟨q, raw, target, hbasis, hplan⟩
  · refine ⟨_, hplan, hcode, ?_⟩
    intro happroved
    exact absurd happroved rejectedPlan_ne_approved
  · -- the gate finds what the algebra promised, so the assessed plan is an approved one
    have hgate := hbasis.reward hfeeLt hslippageLt
    refine ⟨_, hplan, by simp [assessedPlan, hgate], ?_⟩
    intro _
    exact ⟨q, _, target, by simp [assessedPlan, hgate], rfl, rfl,
      hbasis.guarantees hfee hfeeLt hslippage hslippageLt htick hstep⟩

/-- The default rates on a symbol that sets every filter: the entry is approved. -/
theorem planRiskRewardEntry_guarantees_default :
    ∃ plan q stop target, planRiskRewardEntry 50 50 100 (5 / 100) (1 / 1000) (5 / 10000)
        Scenario.filters = .ok plan ∧ plan.quantity = some q ∧ plan.stopPrice = some stop ∧
      plan.targetPrice = some target ∧ PlanGuarantees 50 50 100 (5 / 100) (1 / 1000) (5 / 10000)
        Scenario.filters q stop target := by
  rcases planRiskRewardEntry_guarantees 50 50 100 (5 / 100) (1 / 1000) (5 / 10000)
    Scenario.filters (by norm_num) (by norm_num) (by norm_num) (by norm_num)
    (by norm_num [Scenario.filters]) (by norm_num [Scenario.filters]) with
    ⟨plan, hplan, -, hpromises⟩
  have happroved : (planRiskRewardEntry 50 50 100 (5 / 100) (1 / 1000) (5 / 10000)
      Scenario.filters).map RiskRewardPlan.approved = .ok true := by decide +kernel
  rw [hplan] at happroved
  rcases hpromises (Except.ok.inj happroved) with ⟨q, stop, target, hq, hstop, htarget, hall⟩
  exact ⟨plan, q, stop, target, hplan, hq, hstop, htarget, hall⟩

/-- A symbol that sets no maximum quantity. -/
def Scenario.unboundedFilters : SymbolFilters :=
  { Scenario.filters with maxQty := 0 }

/-- A maximum quantity of zero stands for no maximum: the approved quantity is above it. -/
theorem planRiskRewardEntry_above_unset_maxQty :
    ∃ plan q, planRiskRewardEntry 50 50 100 (5 / 100) (1 / 1000) (5 / 10000)
        Scenario.unboundedFilters = .ok plan ∧ plan.approved = true ∧
      plan.quantity = some q ∧ ¬q ≤ Scenario.unboundedFilters.maxQty := by
  rcases exists_of_isOk (x := planRiskRewardEntry 50 50 100 (5 / 100) (1 / 1000) (5 / 10000)
    Scenario.unboundedFilters) (by decide +kernel) with ⟨plan, hplan⟩
  have hfields : (planRiskRewardEntry 50 50 100 (5 / 100) (1 / 1000) (5 / 10000)
      Scenario.unboundedFilters).map (fun p => (p.approved, p.quantity)) =
        .ok (true, some (9447 / 100000)) := by decide +kernel
  rw [hplan] at hfields
  have hpair := Prod.mk.inj (Except.ok.inj hfields)
  exact ⟨plan, _, hplan, hpair.1, hpair.2, by norm_num [Scenario.unboundedFilters]⟩

/-! ## After the fill -/

/-- A plan re-validated at its fill: still approved, with no more risk and no higher target. -/
structure AgreesAfterFill (plan realized : RiskRewardPlan) : Prop where
  approved : realized.approved = true
  risk : ∃ before after, plan.plannedRiskQuote = some before ∧
    realized.plannedRiskQuote = some after ∧ after ≤ before
  target : ∃ before after, plan.targetPrice = some before ∧
    realized.targetPrice = some after ∧ after ≤ before
  reward : ∃ risk reward, realized.plannedRiskQuote = some risk ∧
    realized.plannedRewardQuote = some reward ∧ 2 * risk ≤ reward

namespace RealizedBasis

variable {fill d fee slippage equity : ℚ} {filters : SymbolFilters} {raw target : ℚ}

theorem buildRealizedPlan_eq {plan : RiskRewardPlan} {q : ℚ}
    (h : RealizedBasis fill d fee slippage filters raw target) (happroved : plan.approved = true)
    (hquantity : plan.quantity = some q) (hstop : fill - fill * (1 - d) ≠ 0) (equity : ℚ) :
    buildRealizedPlan plan fill d fee slippage equity filters =
      .ok (revalidatedPlan plan fill d fee slippage equity q target) := by
  have hloss := h.lossPos
  have hsolved := h.solved
  unfold filledLoss at hloss hsolved
  simp only [DecimalContext.exact_mul, DecimalContext.exact_sub] at hloss hsolved
  simp only [buildRealizedPlan, happroved, hquantity, DecimalContext.exact_mul,
    DecimalContext.exact_sub, if_neg (not_le.2 hloss), hsolved, bind, Except.bind, h.rounded,
    if_neg (not_le.2 h.targetAbove), decDiv_of_ne_zero hstop, revalidatedPlan]

/-- The target of a filled entry earns twice its risk. -/
theorem gain (h : RealizedBasis fill d fee slippage filters raw target) (hfee : fee < 1)
    (hslippage : slippage < 1) :
    minNetRewardToRisk * lossPerUnit fill (fill * (1 - d)) fee slippage ≤
      gainPerUnit fill target fee slippage := by
  have hsolved := h.solved
  unfold filledLoss at hsolved
  rw [solveTargetPrice_eq_ok hfee hslippage] at hsolved
  rcases roundTargetUpToTick_eq_some h.rounded with ⟨htarget, -⟩
  calc minNetRewardToRisk * lossPerUnit fill (fill * (1 - d)) fee slippage
      = gainPerUnit fill raw fee slippage := by
        rw [← Except.ok.inj hsolved, gainPerUnit_algebraicTarget hfee hslippage]
        rfl
    _ ≤ gainPerUnit fill target fee slippage :=
        gainPerUnit_mono fill hfee hslippage (htarget ▸ StepGrid.le_roundUp _ _)

end RealizedBasis

namespace PlanBasis

variable {equity quote price d fee slippage : ℚ} {filters : SymbolFilters} {q raw target : ℚ}

/-- The stop of the slipped fill is above the planned one, so a unit loses no more there. -/
theorem realized_loss_le (h : PlanBasis equity quote price d fee slippage filters q raw target)
    (hfee : fee < 1) (hslippage : 0 ≤ slippage) (hslippageLt : slippage < 1) :
    lossPerUnit (price * (1 + slippage)) (price * (1 + slippage) * (1 - d)) fee slippage ≤
      lossPerUnit (price * (1 + slippage)) (price * (1 - d)) fee slippage := by
  have hstop : price * (1 - d) ≤ price * (1 + slippage) * (1 - d) := by
    have hprice : price ≤ price * (1 + slippage) := by
      have := mul_nonneg h.pricePos.le hslippage
      linarith
    exact mul_le_mul_of_nonneg_right hprice (sub_nonneg.2 h.stopLt.le)
  exact lossPerUnit_anti _ hfee hslippageLt hstop

/-- An approved plan passes every check again at its fill, with a target no higher. -/
theorem realized (h : PlanBasis equity quote price d fee slippage filters q raw target)
    (hfee : 0 ≤ fee) (hfeeLt : fee < 1) (hslippage : 0 ≤ slippage) (hslippageLt : slippage < 1) :
    ∃ raw' target', RealizedBasis (price * (1 + slippage)) d fee slippage filters raw' target' ∧
      target' ≤ target := by
  have hfill : 0 < price * (1 + slippage) := mul_pos h.pricePos (by linarith)
  have hloss := lossPerUnit_pos hfee hfeeLt hslippage hfill h.stopPos h.stopLt
  have hle := h.realized_loss_le hfeeLt hslippage hslippageLt
  have hraw := algebraicTarget_mono (price * (1 + slippage)) hfeeLt hslippageLt hle
  rw [← h.raw_eq hfeeLt hslippageLt] at hraw
  rcases roundTargetUpToTick_of_le h.rounded hraw with ⟨target', hround, hup, hdown⟩
  have habove := entry_lt_algebraicTarget hfee hfeeLt hslippage hslippageLt hfill hloss
  exact ⟨_, target', ⟨hloss, solveTargetPrice_eq_ok hfeeLt hslippageLt, hround,
    habove.trans_le hup⟩, hdown⟩

/-- Re-validating an assessed and approved plan at its fill approves it again. -/
theorem agreesAfterFill (h : PlanBasis equity quote price d fee slippage filters q raw target)
    (hfee : 0 ≤ fee) (hfeeLt : fee < 1) (hslippage : 0 ≤ slippage) (hslippageLt : slippage < 1)
    {plan : RiskRewardPlan} (hplan : plan = assessedPlan equity price d fee slippage q target)
    (happroved : plan.approved = true) :
    ∃ realized, buildRealizedPlan plan (price * (1 + slippage)) d fee slippage equity filters =
      .ok realized ∧ AgreesAfterFill plan realized := by
  subst hplan
  have hquantity : (assessedPlan equity price d fee slippage q target).quantity = some q :=
    if_pos happroved
  rcases h.realized hfee hfeeLt hslippage hslippageLt with ⟨raw', target', hbasis, htarget⟩
  have hfill : 0 < price * (1 + slippage) := mul_pos h.pricePos (by linarith)
  have hdistance : price * (1 + slippage) - price * (1 + slippage) * (1 - d) ≠ 0 := by
    have hpos := mul_pos hfill h.stopPos
    linarith
  have hrisk : q * lossPerUnit (price * (1 + slippage)) (price * (1 + slippage) * (1 - d)) fee
        slippage ≤
      q * lossPerUnit (price * (1 + slippage)) (price * (1 - d)) fee slippage :=
    mul_le_mul_of_nonneg_left (h.realized_loss_le hfeeLt hslippage hslippageLt) h.quantityPos.le
  have hreward : minNetRewardToRisk * (q * lossPerUnit (price * (1 + slippage))
        (price * (1 + slippage) * (1 - d)) fee slippage) ≤
      q * gainPerUnit (price * (1 + slippage)) target' fee slippage := by
    have := mul_le_mul_of_nonneg_left (hbasis.gain hfeeLt hslippageLt) h.quantityPos.le
    linarith
  refine ⟨_, hbasis.buildRealizedPlan_eq happroved hquantity hdistance equity, ?_⟩
  constructor
  case approved => simp [revalidatedPlan, hrisk.trans h.risk_le, hreward]
  case risk => exact ⟨_, _, rfl, rfl, hrisk⟩
  case target => exact ⟨_, _, rfl, rfl, htarget⟩
  case reward => exact ⟨_, _, rfl, rfl, hreward⟩

end PlanBasis

/-! ## Over a run -/

section Run

variable {env : RunEnv} {candle : Candle} {v v' : LoopVars}

/-- The rates of the configuration leave something of a price. -/
structure RunEnv.RatesBelowOne (env : RunEnv) : Prop where
  fee : env.config.fees.takerFeePct < 1
  slippage : env.config.fees.slippagePct < 1

/-- Every approved BUY size under the policy is the quantity of an assessed plan. -/
theorem sizePendingSignal_policy (henv : env.Standard)
    (hpolicy : env.useFixedRiskRewardPolicy = true) {price equity q : ℚ} {p : PortfolioState}
    {code : ReasonCode} {plan : Option RiskRewardPlan}
    (h : sizePendingSignal env .buy price equity p = .ok (⟨true, some q, code⟩, plan)) :
    ∃ approvedPlan raw target, plan = some approvedPlan ∧ approvedPlan.approved = true ∧
      approvedPlan.quantity = some q ∧
      PlanBasis equity p.quoteBalance price env.config.stopLoss.stopDistancePct
        env.config.fees.takerFeePct env.config.fees.slippagePct env.filters q raw target ∧
      approvedPlan = assessedPlan equity price env.config.stopLoss.stopDistancePct
        env.config.fees.takerFeePct env.config.fees.slippagePct q target := by
  simp only [sizePendingSignal, henv.imports, EngineImports.current, hpolicy, if_true, bind,
    Except.bind] at h
  split at h
  · cases h
  · rename_i approvedPlan hplan
    simp only [Except.ok.injEq, Prod.mk.injEq, SizingDecision.mk.injEq] at h
    rcases h with ⟨⟨happroved, hquantity, -⟩, rfl⟩
    rcases planRiskRewardEntry_assessed hplan happroved with ⟨quantity, raw, target, hbasis, -, heq⟩
    -- the approved plan records the quantity it assessed
    have hrecorded : approvedPlan.quantity = some quantity := by
      subst heq
      exact if_pos happroved
    have hq : quantity = q := by simpa [hrecorded] using hquantity
    subst hq
    exact ⟨approvedPlan, raw, target, rfl, happroved, hrecorded, hbasis, heq⟩

/-- The plan of an approved BUY is approved again at its fill. -/
theorem realizePlan_approved (henv : env.Standard) (hrates : env.RatesBelowOne)
    (hpolicy : env.useFixedRiskRewardPolicy = true) {equity q : ℚ} {p : PortfolioState}
    {code : ReasonCode} {plan : Option RiskRewardPlan}
    (hsize : sizePendingSignal env .buy candle.open equity p = .ok (⟨true, some q, code⟩, plan)) :
    ∃ approvedPlan realized, plan = some approvedPlan ∧
      realizePlan env plan q (env.imports.simulateBuy env.broker q candle.open).fillPrice equity =
        .ok (some realized) ∧ AgreesAfterFill approvedPlan realized := by
  rcases sizePendingSignal_policy henv hpolicy hsize with
    ⟨approvedPlan, raw, target, rfl, happroved, hquantity, hbasis, hplan⟩
  rcases hbasis.agreesAfterFill env.config.fees.takerFeePctNonneg hrates.fee
    env.config.fees.slippagePctNonneg hrates.slippage hplan happroved with
    ⟨realized, hbuild, hagrees⟩
  refine ⟨approvedPlan, realized, rfl, ?_, hagrees⟩
  rw [simulateBuy_standard henv]
  simp only [realizePlan, hpolicy, hquantity, if_true, henv.imports, EngineImports.current,
    decimal_exact, entryPrice, hbuild, bind, Except.bind]

theorem recordExit_revalidations (env : RunEnv) (v : LoopVars) (timeMs : ℤ) (q : ℚ)
    (fill : SimulatedFill) (reason : ExitReason) (ref : ℚ) (portfolio : PortfolioState) :
    (recordExit env timeMs q fill reason ref portfolio v).diag.rrRejectedPostFillRevalidation =
      v.diag.rrRejectedPostFillRevalidation := by
  cases hopen : v.state.openTrade with
  | none => simp only [recordExit, hopen]
  | some t =>
      simp only [recordExit, hopen]
      split <;> rfl

theorem recordEntry_revalidations (q : ℚ) (fill : SimulatedFill) (plan : Option RiskRewardPlan)
    (portfolio : PortfolioState) :
    (recordEntry env candle q fill plan portfolio v).diag.rrRejectedPostFillRevalidation =
      v.diag.rrRejectedPostFillRevalidation := by
  cases plan <;> rfl

theorem applyExitFill_revalidations {timeMs : ℤ} {q ref : ℚ} {fill : SimulatedFill}
    {reason : ExitReason} (h : applyExitFill env timeMs q fill reason ref v = .ok v') :
    v'.diag.rrRejectedPostFillRevalidation = v.diag.rrRejectedPostFillRevalidation := by
  rcases applyExitFill_eq_ok h with ⟨portfolio, -, rfl⟩
  exact recordExit_revalidations env v timeMs q fill reason ref portfolio

/-- The buy of an approved plan is filled: its re-validation does not turn it down. -/
theorem fillBuy_revalidations {equity q : ℚ} {plan : Option RiskRewardPlan}
    {realized : RiskRewardPlan}
    (hrealize : realizePlan env plan q
      (env.imports.simulateBuy env.broker q candle.open).fillPrice equity = .ok (some realized))
    (happroved : realized.approved = true) (h : fillBuy env candle q equity plan v = .ok v') :
    v'.diag.rrRejectedPostFillRevalidation = v.diag.rrRejectedPostFillRevalidation := by
  simp only [fillBuy, hrealize, happroved, if_true, bind, Except.bind] at h
  rw [openPosition_eq_map] at h
  cases hbuy : env.imports.applyBuy v.state.portfolio q
      (env.imports.simulateBuy env.broker q candle.open).fillPrice
      (env.imports.simulateBuy env.broker q candle.open).feeQuote with
  | error e =>
      rw [hbuy] at h
      cases h
  | ok portfolio =>
      rw [hbuy] at h
      cases h
      exact recordEntry_revalidations q _ _ portfolio

/-- Submitting a sized signal never ends in a failed re-validation. -/
theorem submitSized_revalidations (henv : env.Standard) (hrates : env.RatesBelowOne)
    (hpolicy : env.useFixedRiskRewardPolicy = true) {signalType : ActionableSignal}
    {equity requested : ℚ} {p : PortfolioState} {code : ReasonCode} {plan : Option RiskRewardPlan}
    (hsize : sizePendingSignal env signalType candle.open equity p =
      .ok (⟨true, some requested, code⟩, plan))
    (h : submitSized env signalType candle equity requested plan v = .ok v') :
    v'.diag.rrRejectedPostFillRevalidation = v.diag.rrRejectedPostFillRevalidation := by
  simp only [submitSized] at h
  split at h
  · -- the gate closed
    cases h
    cases signalType <;> rfl
  · rcases exists_of_bind_ok h with ⟨⟨validApproved, validQuantity, validCode⟩, hvalid, h⟩
    dsimp only at h
    split at h
    · rename_i quantity
      cases signalType with
      | buy =>
          -- the validator leaves the already rounded quantity as it is
          have hquantity : quantity = requested := by
            rcases sizePendingSignal_buy henv hsize with ⟨-, hrounded, -⟩
            rw [henv.imports] at hvalid
            exact Except.ok.inj ((validateOrder_approved hvalid).1.symm.trans hrounded)
          subst hquantity
          rcases realizePlan_approved henv hrates hpolicy hsize with
            ⟨approvedPlan, realized, -, hrealize, hagrees⟩
          have hfilled := fillBuy_revalidations hrealize hagrees.approved h
          exact hfilled
      | exit =>
          have hfilled := applyExitFill_revalidations h
          exact hfilled
    · -- the validator refused it
      cases h
      cases signalType <;> rfl

theorem recordSizingRejection_revalidations (signalType : ActionableSignal) (code : ReasonCode)
    (plan : Option RiskRewardPlan) (diag : DiagBuilder) :
    (recordSizingRejection signalType code plan diag).rrRejectedPostFillRevalidation =
      diag.rrRejectedPostFillRevalidation := by
  cases signalType with
  | exit => rfl
  | buy =>
      cases plan with
      | none => rfl
      | some plan =>
          simp only [recordSizingRejection]
          split
          · rfl
          · split <;> rfl

theorem fillPending_revalidations (henv : env.Standard) (hrates : env.RatesBelowOne)
    (hpolicy : env.useFixedRiskRewardPolicy = true) (h : fillPending env candle v = .ok v') :
    v'.diag.rrRejectedPostFillRevalidation = v.diag.rrRejectedPostFillRevalidation := by
  rcases fillPending_cases h with ⟨-, rfl⟩ | ⟨signalType, m, -, hres, rfl⟩
  · rfl
  · simp only [resolvePendingSignal] at hres
    cases hsize : sizePendingSignal env signalType candle.open
        (v.state.portfolio.equity candle.open) v.state.portfolio with
    | error e =>
        simp [hsize, bind, Except.bind] at hres
    | ok sized =>
        rcases sized with ⟨⟨approved, quantity, code⟩, plan⟩
        simp only [hsize, bind, Except.bind] at hres
        split at hres
        · have hsubmitted := submitSized_revalidations henv hrates hpolicy hsize hres
          exact hsubmitted
        · cases hres
          exact recordSizingRejection_revalidations signalType code plan v.diag

theorem protectiveExit_revalidations (h : protectiveExit env candle v = .ok v') :
    v'.diag.rrRejectedPostFillRevalidation = v.diag.rrRejectedPostFillRevalidation := by
  rcases protectiveExit_cases h with rfl | ⟨e, rfl⟩
  · rfl
  · exact recordExit_revalidations env v candle.openTimeMs v.state.portfolio.baseBalance
      (env.imports.simulateSell env.broker v.state.portfolio.baseBalance e.reference) e.reason
      e.reference e.portfolio

/-- One candle never turns an entry down after its fill. -/
theorem CandleTrace.Valid.revalidations (henv : env.Standard) (hrates : env.RatesBelowOne)
    (hpolicy : env.useFixedRiskRewardPolicy = true) {seen : List Candle} {tr : CandleTrace}
    (htr : tr.Valid env seen) :
    tr.closed.diag.rrRejectedPostFillRevalidation =
      tr.before.diag.rrRejectedPostFillRevalidation := by
  rcases htr.marks with ⟨signal, -, hclosed⟩
  calc tr.closed.diag.rrRejectedPostFillRevalidation
      = tr.guarded.diag.rrRejectedPostFillRevalidation := by
        rw [hclosed]
        cases hsignal : signal.type <;> simp [recordMark, recordSignal, hsignal]
    _ = tr.filled.diag.rrRejectedPostFillRevalidation := protectiveExit_revalidations htr.protects
    _ = tr.atOpen.diag.rrRejectedPostFillRevalidation :=
        fillPending_revalidations henv hrates hpolicy htr.fills
    _ = tr.before.diag.rrRejectedPostFillRevalidation := by rw [htr.atOpen_eq, rollDay_diag]

theorem traceSegment_revalidations (henv : env.Standard) (hrates : env.RatesBelowOne)
    (hpolicy : env.useFixedRiskRewardPolicy = true) {segment : List Candle} {S : ℚ}
    {journal : Journal} {traces : List CandleTrace}
    (h : traceSegment env segment S journal = .ok (traces, v)) :
    v.diag.rrRejectedPostFillRevalidation = 0 := by
  refine (traceSegment_induct (fun _ u => u.diag.rrRejectedPostFillRevalidation = 0) h ?_ ?_).1
  · intro first _
    rfl
  · intro hist seen tr rest htr hzero _
    rw [htr.revalidations henv hrates hpolicy, hzero]

end Run

/-- With rates below one, an approved plan is approved again at its fill, with no more risk, no
higher target and twice the risk as reward; so no run turns an entry down after its fill. -/
theorem revalidation_agrees (fee slippage : ℚ) (hfee : 0 ≤ fee) (hfeeLt : fee < 1)
    (hslippage : 0 ≤ slippage) (hslippageLt : slippage < 1) :
    (∀ equity quote price d filters plan,
      planRiskRewardEntry equity quote price d fee slippage filters = .ok plan →
      plan.approved = true →
        ∃ q realized, plan.quantity = some q ∧
          buildRealizedPlan plan (BacktestBroker.simulateBuy ⟨fee, slippage⟩ q price).fillPrice d
            fee slippage equity filters = .ok realized ∧ AgreesAfterFill plan realized) ∧
      ∀ config filters strategy minRequired hpos segment S journal r j,
        config.fees.takerFeePct = fee → config.fees.slippagePct = slippage →
        runSegment (.standard config filters strategy minRequired hpos true) segment S journal =
          .ok (r, j) →
        r.riskReward.map RiskRewardDiagnostics.entriesRejectedPostFillRevalidation = some 0 := by
  constructor
  · intro equity quote price d filters plan hplan happroved
    rcases planRiskRewardEntry_assessed hplan happroved with ⟨q, raw, target, hbasis, -, heq⟩
    have hquantity : plan.quantity = some q := by
      subst heq
      exact if_pos happroved
    rcases hbasis.agreesAfterFill hfee hfeeLt hslippage hslippageLt heq happroved with
      ⟨realized, hbuild, hagrees⟩
    exact ⟨q, realized, hquantity, hbuild, hagrees⟩
  · intro config filters strategy minRequired hpos segment S journal r j hfeeEq hslippageEq hrun
    have henv := RunEnv.standard_standard config filters strategy minRequired hpos true
    rcases runSegment_traced hrun with ⟨traces, last, v, -, htraces, rfl, rfl⟩
    have hrates : (RunEnv.standard config filters strategy minRequired hpos true).RatesBelowOne :=
      ⟨hfeeEq ▸ hfeeLt, hslippageEq ▸ hslippageLt⟩
    have hzero := traceSegment_revalidations henv hrates rfl htraces
    simpa [buildResult, buildRiskReward, RunEnv.standard] using hzero

/-- The default configuration over three candles with one entry. -/
theorem revalidation_agrees_default :
    ∃ r j, runSegment (Scenario.env true) [Scenario.candle 0 100 100, Scenario.candle 1 100 102,
        Scenario.candle 2 103 104] 50 none = .ok (r, j) ∧ r.diagnostics.executedEntries = 1 ∧
      r.riskReward.map RiskRewardDiagnostics.entriesRejectedPostFillRevalidation = some 0 := by
  rcases exists_of_isOk (x := runSegment (Scenario.env true) [Scenario.candle 0 100 100,
    Scenario.candle 1 100 102, Scenario.candle 2 103 104] 50 none) (by decide +kernel) with
    ⟨⟨r, j⟩, h⟩
  have hentries : (runSegment (Scenario.env true) [Scenario.candle 0 100 100,
      Scenario.candle 1 100 102, Scenario.candle 2 103 104] 50 none).map
        (fun x => x.1.diagnostics.executedEntries) = .ok 1 := by decide +kernel
  rw [h] at hentries
  exact ⟨r, j, h, Except.ok.inj hentries,
    (revalidation_agrees (1 / 1000) (5 / 10000) (by norm_num) (by norm_num) (by norm_num)
      (by norm_num)).2 {} _ _ _ _ _ _ _ r j rfl rfl h⟩

end TradingAgent
