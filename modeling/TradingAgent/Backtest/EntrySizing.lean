import TradingAgent.Backtest.Records
import TradingAgent.Backtest.RiskReward

/-!
# Entry sizing — the three sizers against the validator

`plan_risk_reward_entry`, `compute_risk_based_buy_quantity` and `compute_sell_quantity` round and
check a quantity; `validate_order` does it once more before an order is sent.  All of it is read in
the context the agent runs in, with 28 digits.

* `SizedRight` is what an approved quantity should be, `sizers_agree_iff` says when all three
  sizers approve no other;
* `planner_returns_iff` says on which inputs the planner returns a plan.
-/

namespace TradingAgent

/-! ## Rounding to a step with 28 digits -/

/-- The whole steps in a quantity, as its quotient by the step shows them with 28 digits. -/
def stepsHeld (quantity step : ℚ) : ℤ :=
  ⌊DecimalContext.default.div quantity |step|⌋

/-- What these steps make: the quantity that is left after rounding. -/
def shownQuantity (quantity : ℚ) (filters : SymbolFilters) : ℚ :=
  stepsHeld quantity filters.stepSize * |filters.stepSize|

/-- From here on a multiple of the step has more than 28 digits. -/
def SymbolFilters.quantityBound (filters : SymbolFilters) : ℚ :=
  10 ^ 28 * 10 ^ filters.stepExponent

section Rounded

variable {filters : SymbolFilters} {raw quantity step : ℚ}

theorem stepsHeld_nonneg (hraw : 0 ≤ raw) (step : ℚ) : 0 ≤ stepsHeld raw step :=
  Int.floor_nonneg.2 (DecimalContext.significant_nonneg (div_nonneg hraw (abs_nonneg step)))

theorem shownQuantity_nonneg (hraw : 0 ≤ raw) (filters : SymbolFilters) :
    0 ≤ shownQuantity raw filters :=
  mul_nonneg (by exact_mod_cast stepsHeld_nonneg hraw _) (abs_nonneg _)

/-- Rounding toward zero counts the steps in the direction of the step. -/
theorem wholeSteps_mul_step (hraw : 0 ≤ raw) (step : ℚ) :
    (wholeSteps raw step .default : ℚ) * step = stepsHeld raw step * |step| := by
  have hquotient : 0 ≤ DecimalContext.default.div raw |step| :=
    DecimalContext.significant_nonneg (div_nonneg hraw (abs_nonneg step))
  rcases le_or_gt 0 step with hpos | hneg
  · rw [abs_of_nonneg hpos] at hquotient
    rw [wholeSteps, StepGrid.truncate_of_nonneg hquotient, stepsHeld, abs_of_nonneg hpos]
  · have hodd : DecimalContext.default.div raw step = -DecimalContext.default.div raw |step| := by
      unfold DecimalContext.div
      rw [abs_of_neg hneg, div_neg]
      exact (neg_eq_iff_eq_neg.2 (DecimalContext.significant_neg 28 _)).symm
    rw [wholeSteps, hodd, StepGrid.truncate_neg, StepGrid.truncate_of_nonneg hquotient, stepsHeld,
      abs_of_neg hneg]
    push_cast
    ring

theorem wholeSteps_neg (raw step : ℚ) :
    wholeSteps (-raw) step .default = -wholeSteps raw step .default := by
  have hodd : DecimalContext.default.div (-raw) step = -DecimalContext.default.div raw step := by
    unfold DecimalContext.div
    rw [neg_div]
    exact DecimalContext.significant_neg 28 _
  rw [wholeSteps, hodd, StepGrid.truncate_neg, wholeSteps]

/-- A quantity is rounded to the steps its quotient shows, unless they are too long. -/
theorem roundQuantity_default (hraw : 0 ≤ raw) (hstep : filters.stepSize ≠ 0) :
    roundQuantity raw filters .default =
      if shownQuantity raw filters < filters.quantityBound then
        .ok (shownQuantity raw filters)
      else .error .invalidOperation := by
  have hrounded := roundDownToStep_significant filters.stepScaled hstep 27 raw
  have hsteps := wholeSteps_mul_step hraw filters.stepSize
  unfold DecimalContext.default at hsteps
  rw [hsteps] at hrounded
  rw [roundQuantity, DecimalContext.default, hrounded, ← shownQuantity,
    abs_of_nonneg (shownQuantity_nonneg hraw filters)]
  rfl

theorem roundQuantity_of_step_zero (hstep : filters.stepSize = 0) (context : DecimalContext) :
    roundQuantity raw filters context = .ok raw := by
  rw [roundQuantity, roundDownToStep, if_pos hstep]

/-- What is left of a quantity that was rounded to a step. -/
theorem rounded_eq (h : roundQuantity raw filters .default = .ok quantity) (hraw : 0 ≤ raw)
    (hstep : filters.stepSize ≠ 0) :
    quantity = shownQuantity raw filters ∧
      quantity < filters.quantityBound := by
  rw [roundQuantity_default hraw hstep] at h
  split_ifs at h with hshort
  cases h
  exact ⟨rfl, hshort⟩

/-- Nothing positive comes of a quantity that is not. -/
theorem raw_pos (h : roundQuantity raw filters .default = .ok quantity) (hpos : 0 < quantity) :
    0 < raw := by
  by_contra hraw
  by_cases hstep : filters.stepSize = 0
  · rw [roundQuantity_of_step_zero hstep] at h
    cases h
    exact hraw hpos
  have hrounded := roundDownToStep_significant filters.stepScaled hstep 27 raw
  unfold roundQuantity DecimalContext.default at h
  rw [hrounded] at h
  split_ifs at h
  cases h
  -- rounding is odd, so this is what is left of the positive quantity, negated
  have hraw' : 0 ≤ -raw := neg_nonneg.2 (not_lt.1 hraw)
  have hmirror := wholeSteps_mul_step hraw' filters.stepSize
  have hnonneg := shownQuantity_nonneg hraw' filters
  rw [shownQuantity, ← hmirror, wholeSteps_neg, Int.cast_neg, neg_mul] at hnonneg
  exact absurd hpos (not_lt.2 (neg_nonneg.1 hnonneg))

/-- So few steps are written with 28 digits. -/
theorem stepsHeld_lt (hstep : filters.stepSize ≠ 0)
    (hshort : shownQuantity raw filters < filters.quantityBound) :
    stepsHeld raw filters.stepSize < 10 ^ 28 := by
  rcases exists_scaled filters.stepScaled with ⟨m, hm⟩
  have hunit := DecimalContext.ten_zpow_pos filters.stepExponent
  have hm0 : m ≠ 0 := by
    rintro rfl
    exact hstep (by simpa using hm)
  have hleast : (10 : ℚ) ^ filters.stepExponent ≤ |filters.stepSize| := by
    have hone : (1 : ℚ) ≤ |(m : ℚ)| := by exact_mod_cast Int.one_le_abs hm0
    calc (10 : ℚ) ^ filters.stepExponent = 1 * 10 ^ filters.stepExponent := (one_mul _).symm
      _ ≤ |(m : ℚ)| * 10 ^ filters.stepExponent := mul_le_mul_of_nonneg_right hone hunit.le
      _ = |filters.stepSize| := by rw [hm, abs_mul, abs_of_pos hunit]
  by_contra hlong
  have hlong' : (10 : ℚ) ^ 28 ≤ stepsHeld raw filters.stepSize := by exact_mod_cast not_lt.1 hlong
  have hproduct : filters.quantityBound ≤ shownQuantity raw filters :=
    mul_le_mul hlong' hleast hunit.le ((by positivity : (0 : ℚ) ≤ 10 ^ 28).trans hlong')
  exact absurd hshort (not_lt.2 hproduct)

/-- A rounded quantity is not rounded again. -/
theorem roundQuantity_rounded_default (h : roundQuantity raw filters .default = .ok quantity)
    (hpos : 0 < quantity) : roundQuantity quantity filters .default = .ok quantity := by
  by_cases hstep : filters.stepSize = 0
  · exact roundQuantity_of_step_zero hstep _
  rcases rounded_eq h (raw_pos h hpos).le hstep with ⟨rfl, hshort⟩
  have hagain : shownQuantity (shownQuantity raw filters) filters = shownQuantity raw filters := by
    have hdigits : |stepsHeld raw filters.stepSize| ≤ 10 ^ 28 := by
      rw [abs_of_nonneg (stepsHeld_nonneg (raw_pos h hpos).le _)]
      exact (stepsHeld_lt hstep hshort).le
    have hexact : DecimalContext.default.round (stepsHeld raw filters.stepSize : ℚ) =
        stepsHeld raw filters.stepSize :=
      DecimalContext.significant_of_representable (DecimalContext.representable_intCast hdigits)
    have hquotient : shownQuantity raw filters / |filters.stepSize| =
        stepsHeld raw filters.stepSize := mul_div_cancel_right₀ _ (abs_pos.2 hstep).ne'
    rw [shownQuantity, stepsHeld, DecimalContext.div, hquotient, hexact, Int.floor_intCast,
      shownQuantity]
  rw [roundQuantity_default hpos.le hstep, hagain, if_pos hshort]

/-- A rounded quantity that is not above the raw one is the largest multiple of the step that is
not. -/
theorem rounded_isGreatest (h : roundQuantity raw filters .default = .ok quantity)
    (hpos : 0 < quantity) (hle : quantity ≤ raw) :
    IsGreatest {q | q ∈ StepGrid.grid filters.stepSize ∧ q ≤ raw} quantity := by
  by_cases hstep : filters.stepSize = 0
  · rw [roundQuantity_of_step_zero hstep] at h
    cases h
    exact ⟨⟨Or.inl hstep, le_rfl⟩, fun q hq => hq.2⟩
  rcases rounded_eq h (raw_pos h hpos).le hstep with ⟨rfl, hshort⟩
  have hunit : 0 < |filters.stepSize| := abs_pos.2 hstep
  have hgrid : shownQuantity raw filters ∈
      StepGrid.grid filters.stepSize := by
    rw [← StepGrid.grid_abs]
    exact Or.inr ⟨_, rfl⟩
  refine ⟨⟨hgrid, hle⟩, ?_⟩
  rintro q ⟨hq, hqraw⟩
  rw [← StepGrid.grid_abs] at hq
  rcases hq with hzero | ⟨j, rfl⟩
  · exact absurd hzero hunit.ne'
  -- one step more would be shown by the quotient, too
  by_contra hmore
  have hj : stepsHeld raw filters.stepSize + 1 ≤ j := by
    have hlt := lt_of_mul_lt_mul_right (not_le.1 hmore) hunit.le
    exact_mod_cast hlt
  have hj' : ((stepsHeld raw filters.stepSize + 1 : ℤ) : ℚ) ≤ j := by exact_mod_cast hj
  have hquotient : ((stepsHeld raw filters.stepSize + 1 : ℤ) : ℚ) ≤ raw / |filters.stepSize| :=
    (le_div_iff₀ hunit).2 ((mul_le_mul_of_nonneg_right hj' hunit.le).trans hqraw)
  have hdigits : |stepsHeld raw filters.stepSize + 1| ≤ 10 ^ 28 := by
    have hnonneg := stepsHeld_nonneg (raw_pos h hpos).le filters.stepSize
    have hshort' := stepsHeld_lt hstep hshort
    rw [abs_of_nonneg (by omega)]
    omega
  have hshown : stepsHeld raw filters.stepSize + 1 ≤ stepsHeld raw filters.stepSize :=
    Int.le_floor.2 (DecimalContext.le_significant (DecimalContext.representable_intCast hdigits)
      hquotient)
  omega

end Rounded

/-! ## Approved quantities -/

/-- A quantity the validator lets through unchanged: the largest multiple of the step that is not
above the raw quantity. -/
structure SizedRight (filters : SymbolFilters) (price rawQuantity quantity : ℚ) : Prop where
  validated : ∀ signalType,
    validateOrder ⟨signalType, filters.symbol, quantity, price⟩ filters .default =
      .ok ⟨true, some quantity, .validated⟩
  largest : IsGreatest {q | q ∈ StepGrid.grid filters.stepSize ∧ q ≤ rawQuantity} quantity

/-- The checks the validator makes of a rounded quantity. -/
structure PassesFilters (filters : SymbolFilters) (price quantity : ℚ) : Prop where
  lot : meetsLotSize quantity filters = true
  notional : meetsMinNotional price quantity filters .default = true

section Validator

variable {filters : SymbolFilters} {price raw quantity : ℚ}

theorem validateOrder_of_passes (hrounded : roundQuantity quantity filters .default = .ok quantity)
    (hpos : 0 < quantity) (h : PassesFilters filters price quantity)
    (signalType : ActionableSignal) :
    validateOrder ⟨signalType, filters.symbol, quantity, price⟩ filters .default =
      .ok ⟨true, some quantity, .validated⟩ := by
  simp [validateOrder, hrounded, not_le.2 hpos, h.lot, h.notional, bind, Except.bind]

/-- The validator lets nothing through that is not positive. -/
theorem SizedRight.pos (h : SizedRight filters price raw quantity) : 0 < quantity :=
  (validateOrder_approved (h.validated .buy)).2

/-- A rounded quantity that passes the filters is sized right exactly when something is left of it
and it is not above the raw one. -/
theorem sizedRight_iff (hrounded : roundQuantity raw filters .default = .ok quantity)
    (h : PassesFilters filters price quantity) :
    SizedRight filters price raw quantity ↔ 0 < quantity ∧ quantity ≤ raw := by
  constructor
  · intro hsized
    exact ⟨hsized.pos, hsized.largest.1.2⟩
  · rintro ⟨hpos, hle⟩
    exact ⟨validateOrder_of_passes (roundQuantity_rounded_default hrounded hpos) hpos h,
      rounded_isGreatest hrounded hpos hle⟩

end Validator

/-! ## The sizers -/

def PlannerAgrees (equity quoteBalance referencePrice stopDistancePct fee slippage : ℚ)
    (filters : SymbolFilters) : Prop :=
  ∀ plan quantity,
    planRiskRewardEntry equity quoteBalance referencePrice stopDistancePct fee slippage filters
      .default = .ok plan →
    plan.approved = true → plan.quantity = some quantity →
      SizedRight filters referencePrice
        (rawEntryQuantity equity quoteBalance referencePrice stopDistancePct fee slippage .default)
        quantity

def RiskBasedBuyAgrees (equity entryPrice stopPrice maxRiskPerTradePct maxPositionPct takerFeePct
    slippagePct : ℚ) (filters : SymbolFilters) : Prop :=
  ∀ quantity code,
    computeRiskBasedBuyQuantity equity entryPrice stopPrice maxRiskPerTradePct maxPositionPct
      takerFeePct slippagePct filters .default = .ok ⟨true, some quantity, code⟩ →
    SizedRight filters entryPrice
      (rawBuyQuantity equity entryPrice stopPrice maxRiskPerTradePct maxPositionPct takerFeePct
        slippagePct .default) quantity

def SellAgrees (heldQuantity price : ℚ) (filters : SymbolFilters) : Prop :=
  ∀ quantity code,
    computeSellQuantity heldQuantity price filters .default = .ok ⟨true, some quantity, code⟩ →
    SizedRight filters price heldQuantity quantity

/-- The quotient of a quantity by the step, written with 28 digits, shows a step that the quantity
does not hold. -/
structure ShowsStepTooMany (raw : ℚ) (filters : SymbolFilters) : Prop where
  stepped : filters.stepSize ≠ 0
  above : raw < shownQuantity raw filters

/-- The quotient shows no step at all. -/
structure ShowsNoStep (raw : ℚ) (filters : SymbolFilters) : Prop where
  stepped : filters.stepSize ≠ 0
  none : stepsHeld raw filters.stepSize = 0

/-- The checks an entry has passed when its plan is approved with 28 digits. -/
structure PlanAdmitted (equity quoteBalance referencePrice stopDistancePct fee slippage : ℚ)
    (filters : SymbolFilters) (quantity rawTarget targetPrice : ℚ) : Prop extends
    PlanBasis equity quoteBalance referencePrice stopDistancePct fee slippage filters quantity
      rawTarget targetPrice .default where
  distance : stopDistance referencePrice stopDistancePct .default ≠ 0
  rewarded : (assessedPlan equity referencePrice stopDistancePct fee slippage quantity targetPrice
    .default).approved = true

/-- The kind of input on which the planner approves too much: the quotient of the raw size shows a
step too many, and so many steps pass the checks on a plan. -/
structure PlansStepTooMany (equity quoteBalance referencePrice stopDistancePct fee slippage : ℚ)
    (filters : SymbolFilters) (raw : ℚ) : Prop where
  tooMany : ShowsStepTooMany raw filters
  admitted : ∃ rawTarget targetPrice,
    PlanAdmitted equity quoteBalance referencePrice stopDistancePct fee slippage filters
      (shownQuantity raw filters) rawTarget targetPrice

/-- The kind of input on which the risk-based sizer approves nothing at all, or too much: the quotient
of the raw size shows no step or a step too many, and so many steps pass the filters. -/
structure BuysWrongSteps (equity entryPrice stopPrice takerFeePct slippagePct : ℚ)
    (filters : SymbolFilters) (raw : ℚ) : Prop where
  usable : 0 < entryPrice ∧ 0 < stopPrice ∧ 0 < equity ∧
    0 < totalLossPerUnit entryPrice stopPrice takerFeePct slippagePct .default
  wrong : ShowsNoStep raw filters ∨ ShowsStepTooMany raw filters
  writable : shownQuantity raw filters < filters.quantityBound
  passes : PassesFilters filters entryPrice (shownQuantity raw filters)

section Sizers

variable {equity quote price stop d riskPct positionPct fee slippage : ℚ} {filters : SymbolFilters}

/-- A rounded quantity is above the raw one only where the quotient shows a step too many. -/
theorem showsStepTooMany_iff {raw quantity : ℚ} (hraw : 0 ≤ raw)
    (h : roundQuantity raw filters .default = .ok quantity) :
    raw < quantity ↔ ShowsStepTooMany raw filters := by
  by_cases hstep : filters.stepSize = 0
  · rw [roundQuantity_of_step_zero hstep] at h
    cases h
    exact ⟨fun hlt => absurd hlt (lt_irrefl _), fun hmany => absurd hstep hmany.stepped⟩
  · rw [(rounded_eq h hraw hstep).1]
    exact ⟨fun hlt => ⟨hstep, hlt⟩, fun hmany => hmany.above⟩

theorem PlanAdmitted.planned {quantity rawTarget target : ℚ}
    (h : PlanAdmitted equity quote price d fee slippage filters quantity rawTarget target) :
    planRiskRewardEntry equity quote price d fee slippage filters .default =
      .ok (assessedPlan equity price d fee slippage quantity target .default) :=
  planRiskRewardEntry_of_basis h.toPlanBasis h.distance

/-- An approved plan has passed all of the checks. -/
theorem exists_admitted {plan : RiskRewardPlan}
    (h : planRiskRewardEntry equity quote price d fee slippage filters .default = .ok plan)
    (happroved : plan.approved = true) :
    ∃ quantity rawTarget target,
      PlanAdmitted equity quote price d fee slippage filters quantity rawTarget target ∧
        plan = assessedPlan equity price d fee slippage quantity target .default := by
  rcases planRiskRewardEntry_assessed h happroved with
    ⟨quantity, rawTarget, target, hbasis, hdistance, rfl⟩
  exact ⟨quantity, rawTarget, target, ⟨hbasis, hdistance, happroved⟩, rfl⟩

theorem plannerAgrees_iff :
    PlannerAgrees equity quote price d fee slippage filters ↔
      ¬PlansStepTooMany equity quote price d fee slippage filters
        (rawEntryQuantity equity quote price d fee slippage .default) := by
  constructor
  · rintro hagrees ⟨hmany, rawTarget, target, hadmitted⟩
    have hsized := hagrees _ _ hadmitted.planned hadmitted.rewarded
      (assessedPlan_quantity hadmitted.rewarded)
    exact absurd hmany.above (not_lt.2 hsized.largest.1.2)
  · intro hfine plan quantity hplan happroved hquantity
    rcases exists_admitted hplan happroved with ⟨q, rawTarget, target, hadmitted, rfl⟩
    rw [assessedPlan_quantity happroved, Option.some.injEq] at hquantity
    subst hquantity
    refine (sizedRight_iff hadmitted.capped ⟨hadmitted.lot, hadmitted.notional⟩).2
      ⟨hadmitted.quantityPos, ?_⟩
    by_contra habove
    have hraw := (raw_pos hadmitted.capped hadmitted.quantityPos).le
    have hmany := (showsStepTooMany_iff hraw hadmitted.capped).1 (not_le.1 habove)
    have hshown := (rounded_eq hadmitted.capped hraw hmany.stepped).1
    exact hfine ⟨hmany, rawTarget, target, hshown ▸ hadmitted⟩

/-- What an approved sell size has passed. -/
theorem computeSellQuantity_passes {held quantity : ℚ} {code : ReasonCode}
    (h : computeSellQuantity held price filters .default = .ok ⟨true, some quantity, code⟩) :
    PassesFilters filters price quantity := by
  rcases exists_of_bind_ok h with ⟨rounded, -, h⟩
  split at h
  · cases h
  split at h
  · cases h
  · rename_i hlot
    split at h
    · cases h
    · rename_i hnotional
      cases h
      constructor
      · simpa using hlot
      · simpa using hnotional

/-- The sell sizer compares the rounded quantity with what is held. -/
theorem sellAgrees (held price : ℚ) (filters : SymbolFilters) : SellAgrees held price filters := by
  intro quantity code happroved
  rcases computeSellQuantity_approved happroved with ⟨hrounded, hpos, hle⟩
  exact (sizedRight_iff hrounded (computeSellQuantity_passes happroved)).2 ⟨hpos, hle⟩

/-- When the risk-based sizer approves: the inputs are usable and the rounded size passes the
filters. Unlike its siblings it does not ask whether anything is left of the size. -/
theorem computeRiskBasedBuyQuantity_approved_iff {quantity : ℚ} {code : ReasonCode} :
    computeRiskBasedBuyQuantity equity price stop riskPct positionPct fee slippage filters
        .default = .ok ⟨true, some quantity, code⟩ ↔
      (0 < price ∧ 0 < stop ∧ 0 < equity ∧
        0 < totalLossPerUnit price stop fee slippage .default) ∧
      roundQuantity (rawBuyQuantity equity price stop riskPct positionPct fee slippage .default)
        filters .default = .ok quantity ∧
      PassesFilters filters price quantity ∧ code = .sizedOk := by
  constructor
  · intro h
    unfold computeRiskBasedBuyQuantity at h
    split at h
    · cases h
    rename_i hprices
    split at h
    · cases h
    rename_i hequity
    dsimp only at h
    split at h
    · cases h
    rename_i hloss
    rcases exists_of_bind_ok h with ⟨rounded, hrounded, h⟩
    split at h
    · cases h
    rename_i hlot
    split at h
    · cases h
    rename_i hnotional
    cases h
    rcases not_or.1 hprices with ⟨hprice, hstop⟩
    refine ⟨⟨not_le.1 hprice, not_le.1 hstop, not_le.1 hequity, not_le.1 hloss⟩, hrounded,
      ⟨?_, ?_⟩, rfl⟩
    · simpa using hlot
    · simpa using hnotional
  · rintro ⟨⟨hprice, hstop, hequity, hloss⟩, hrounded, hpasses, rfl⟩
    unfold rawBuyQuantity at hrounded
    simp [computeRiskBasedBuyQuantity, not_le.2 hprice, not_le.2 hstop, not_le.2 hequity,
      not_le.2 hloss, hrounded, hpasses.lot, hpasses.notional, bind, Except.bind]

theorem rawBuyQuantity_pos (hrisk : 0 < riskPct) (hposition : 0 < positionPct) (hequity : 0 < equity)
    (hprice : 0 < price) (hloss : 0 < totalLossPerUnit price stop fee slippage .default) :
    0 < rawBuyQuantity equity price stop riskPct positionPct fee slippage .default := by
  have hpos := DecimalContext.keepsSign_default.pos
  refine lt_min (hpos _ (div_pos (hpos _ (mul_pos hequity hrisk)) hloss)) (hpos _ ?_)
  exact div_pos (hpos _ (mul_pos hequity hposition)) hprice

theorem riskBasedBuyAgrees_iff (hrisk : 0 < riskPct) (hposition : 0 < positionPct) :
    RiskBasedBuyAgrees equity price stop riskPct positionPct fee slippage filters ↔
      ¬BuysWrongSteps equity price stop fee slippage filters
        (rawBuyQuantity equity price stop riskPct positionPct fee slippage .default) := by
  constructor
  · rintro hagrees ⟨husable, hwrong, hwritable, hpasses⟩
    have hraw := rawBuyQuantity_pos hrisk hposition husable.2.2.1 husable.1 husable.2.2.2
    have hstep : filters.stepSize ≠ 0 := hwrong.elim (·.stepped) (·.stepped)
    have hrounded := roundQuantity_default hraw.le hstep
    rw [if_pos hwritable] at hrounded
    have hsized := hagrees _ _ (computeRiskBasedBuyQuantity_approved_iff.2
      ⟨husable, hrounded, hpasses, rfl⟩)
    rcases hwrong with hnone | hmany
    · have hpos := hsized.pos
      simp [shownQuantity, hnone.none] at hpos
    · exact absurd hmany.above (not_lt.2 hsized.largest.1.2)
  · intro hfine quantity code happroved
    rcases computeRiskBasedBuyQuantity_approved_iff.1 happroved with
      ⟨husable, hrounded, hpasses, -⟩
    have hraw := rawBuyQuantity_pos hrisk hposition husable.2.2.1 husable.1 husable.2.2.2
    by_cases hstep : filters.stepSize = 0
    · rw [roundQuantity_of_step_zero hstep] at hrounded
      cases hrounded
      exact (sizedRight_iff (roundQuantity_of_step_zero hstep _) hpasses).2 ⟨hraw, le_rfl⟩
    -- an approved size that is wrong is one of the two kinds
    rcases rounded_eq hrounded hraw.le hstep with ⟨rfl, hwritable⟩
    have hright : ¬(ShowsNoStep _ filters ∨ ShowsStepTooMany _ filters) := fun hwrong =>
      hfine ⟨husable, hwrong, hwritable, hpasses⟩
    refine (sizedRight_iff hrounded hpasses).2 ⟨?_, ?_⟩
    · have hsome : stepsHeld (rawBuyQuantity equity price stop riskPct positionPct fee slippage
          .default) filters.stepSize ≠ 0 := fun hnone => hright (Or.inl ⟨hstep, hnone⟩)
      have hpos := lt_of_le_of_ne (stepsHeld_nonneg hraw.le filters.stepSize) hsome.symm
      exact mul_pos (by exact_mod_cast hpos) (abs_pos.2 hstep)
    · exact not_lt.1 fun habove => hright (Or.inr ⟨hstep, habove⟩)

end Sizers

/-- All three sizers approve only quantities that are sized right, unless 28 digits of the quotient
by the step show the planner or the risk-based sizer a step too many, or the latter none at all. -/
theorem sizers_agree_iff {maxRiskPerTradePct maxPositionPct : ℚ} (hrisk : 0 < maxRiskPerTradePct)
    (hposition : 0 < maxPositionPct) (equity quoteBalance heldQuantity price stopPrice
    stopDistancePct fee slippage : ℚ) (filters : SymbolFilters) :
    (PlannerAgrees equity quoteBalance price stopDistancePct fee slippage filters ∧
      RiskBasedBuyAgrees equity price stopPrice maxRiskPerTradePct maxPositionPct fee slippage
        filters ∧
      SellAgrees heldQuantity price filters) ↔
    ¬PlansStepTooMany equity quoteBalance price stopDistancePct fee slippage filters
        (rawEntryQuantity equity quoteBalance price stopDistancePct fee slippage .default) ∧
      ¬BuysWrongSteps equity price stopPrice fee slippage filters
        (rawBuyQuantity equity price stopPrice maxRiskPerTradePct maxPositionPct fee slippage
          .default) := by
  rw [← riskBasedBuyAgrees_iff hrisk hposition, ← plannerAgrees_iff]
  constructor
  · rintro ⟨hplanner, hbuy, -⟩
    exact ⟨hplanner, hbuy⟩
  · rintro ⟨hplanner, hbuy⟩
    exact ⟨hplanner, hbuy, sellAgrees _ _ _⟩

namespace Scenario

/-- The filters of a symbol that is traded in whole coins and states no minimum. -/
def wholeCoinFilters : SymbolFilters where
  symbol := "BTCUSDT"
  tickSize := 0
  minPrice := 0
  maxPrice := 0
  stepSize := 1
  minQty := 0
  maxQty := 0
  minNotional := 0
  maxNotional := none
  applyMinNotionalToMarket := true

end Scenario

/-- With a minimum of one coin nothing is approved that is not sized right. -/
theorem sizers_agree_iff_minimum :
    PlannerAgrees 100 100 100 (1 / 20) (1 / 1000) (1 / 2000)
        { Scenario.wholeCoinFilters with minQty := 1 } ∧
      RiskBasedBuyAgrees 100 100 95 (1 / 100) (9 / 10) (1 / 1000) (1 / 2000)
        { Scenario.wholeCoinFilters with minQty := 1 } ∧
      SellAgrees 2 100 { Scenario.wholeCoinFilters with minQty := 1 } := by
  refine (sizers_agree_iff (by norm_num) (by norm_num) _ _ _ _ _ _ _ _ _).2 ⟨?_, ?_⟩
  · intro hplans
    exact absurd hplans.tooMany.above (by decide +kernel)
  · intro hbuys
    exact absurd hbuys.passes.lot (by decide +kernel)

/-- A budget of one coin's risk times 0.19: the risk-based sizer approves a quantity of zero, which
the validator refuses. -/
theorem risk_based_buy_approves_zero :
    computeRiskBasedBuyQuantity 100 100 95 (1 / 100) (9 / 10) (1 / 1000) (1 / 2000)
        Scenario.wholeCoinFilters .default = .ok ⟨true, some 0, .sizedOk⟩ ∧
      validateOrder ⟨.buy, "BTCUSDT", 0, 100⟩ Scenario.wholeCoinFilters .default =
        .ok ⟨false, none, .zeroQuantityAfterRounding⟩ ∧
      ¬RiskBasedBuyAgrees 100 100 95 (1 / 100) (9 / 10) (1 / 1000) (1 / 2000)
        Scenario.wholeCoinFilters := by
  have happroved : computeRiskBasedBuyQuantity 100 100 95 (1 / 100) (9 / 10) (1 / 1000) (1 / 2000)
      Scenario.wholeCoinFilters .default = .ok ⟨true, some 0, .sizedOk⟩ := by decide +kernel
  refine ⟨happroved, by decide +kernel, ?_⟩
  intro hagrees
  exact lt_irrefl 0 (hagrees 0 _ happroved).pos

/-- The quotient rounds up to three steps. -/
example : roundDownToStep (8999999999999999999999999999 / 10 ^ 28) (3 / 10) (-1) .default =
    .ok (9 / 10) := by decide +kernel

/-! ## Where the planner raises -/

/-- Planning an entry returns a plan, and so does re-validating an approved one at the simulated fill
price. -/
structure PlannerReturns (fees : FeesConfig) (stopLoss : StopLossConfig)
    (equity quoteBalance referencePrice : ℚ) (filters : SymbolFilters) : Prop where
  planned : ∃ plan, planRiskRewardEntry equity quoteBalance referencePrice stopLoss.stopDistancePct
    fees.takerFeePct fees.slippagePct filters .default = .ok plan
  realized : ∀ plan quantity,
    planRiskRewardEntry equity quoteBalance referencePrice stopLoss.stopDistancePct
      fees.takerFeePct fees.slippagePct filters .default = .ok plan →
    plan.approved = true → plan.quantity = some quantity →
      ∃ realized, buildRealizedPlan plan
        ((BacktestBroker.ofFees fees).simulateBuy quantity referencePrice .default).fillPrice
        stopLoss.stopDistancePct fees.takerFeePct fees.slippagePct equity filters .default =
          .ok realized

/-- The simulated fill price of an entry. -/
def fillPriceAt (referencePrice slippage : ℚ) : ℚ :=
  DecimalContext.default.mul referencePrice (DecimalContext.default.add 1 slippage)

/-- A stop so near to the price that 28 digits do not tell them apart. -/
def StopOnPrice (price stopDistancePct : ℚ) : Prop :=
  DecimalContext.default.mul price (DecimalContext.default.sub 1 stopDistancePct) = price

/-- A target whose tick has more than 28 digits. -/
structure TargetTooLong (rawTarget : ℚ) (filters : SymbolFilters) : Prop where
  ticked : 0 < filters.tickSize
  long : 10 ^ 28 * 10 ^ filters.tickExponent ≤
    |⌈DecimalContext.default.div rawTarget filters.tickSize⌉ * filters.tickSize|

/-- The kinds of input on which planning raises: a quantity or a target is too long for `quantize`, a
rate takes all of an exit, or the stop is rounded onto the price. -/
inductive PlanningFails (equity quoteBalance referencePrice stopDistancePct fee slippage : ℚ)
    (filters : SymbolFilters) : Prop
  | quantityTooLong :
      0 < entryLoss referencePrice stopDistancePct fee slippage .default →
      filters.stepSize ≠ 0 →
      filters.quantityBound ≤ shownQuantity (rawEntryQuantity equity quoteBalance referencePrice
        stopDistancePct fee slippage .default) filters →
      PlanningFails equity quoteBalance referencePrice stopDistancePct fee slippage filters
  | exitWorthless {quantity : ℚ} :
      fee = 1 ∨ slippage = 1 →
      EntrySized equity quoteBalance referencePrice stopDistancePct fee slippage filters quantity
        .default →
      PlanningFails equity quoteBalance referencePrice stopDistancePct fee slippage filters
  | targetTooLong {quantity rawTarget : ℚ} :
      EntrySized equity quoteBalance referencePrice stopDistancePct fee slippage filters quantity
        .default →
      entryTarget referencePrice stopDistancePct fee slippage .default = .ok rawTarget →
      TargetTooLong rawTarget filters →
      PlanningFails equity quoteBalance referencePrice stopDistancePct fee slippage filters
  | stopLost {quantity rawTarget targetPrice : ℚ} :
      PlanBasis equity quoteBalance referencePrice stopDistancePct fee slippage filters quantity
        rawTarget targetPrice .default →
      StopOnPrice referencePrice stopDistancePct →
      PlanningFails equity quoteBalance referencePrice stopDistancePct fee slippage filters

/-- The kinds of fill on which re-validating a plan raises: its target is too long, or its stop is
rounded onto the price. -/
inductive FillFails (fillPrice stopDistancePct fee slippage : ℚ) (filters : SymbolFilters) : Prop
  | targetTooLong {rawTarget : ℚ} :
      0 < filledLoss fillPrice stopDistancePct fee slippage .default →
      solveTargetPrice fillPrice (filledLoss fillPrice stopDistancePct fee slippage .default) fee
        slippage .default = .ok rawTarget →
      TargetTooLong rawTarget filters →
      FillFails fillPrice stopDistancePct fee slippage filters
  | stopLost {rawTarget targetPrice : ℚ} :
      RealizedBasis fillPrice stopDistancePct fee slippage filters rawTarget targetPrice .default →
      StopOnPrice fillPrice stopDistancePct →
      FillFails fillPrice stopDistancePct fee slippage filters

section Planner

variable {fees : FeesConfig} {stopLoss : StopLossConfig} {equity quote price fee slippage d : ℚ}
  {filters : SymbolFilters}

/-- With 28 digits no difference is lost but that of equal numbers. -/
theorem default_sub_eq_zero_iff {a b : ℚ} : DecimalContext.default.sub a b = 0 ↔ a = b :=
  (DecimalContext.significant_eq_zero_iff (n := 27)).trans sub_eq_zero

theorem default_mul_eq_zero_iff {a b : ℚ} :
    DecimalContext.default.mul a b = 0 ↔ a = 0 ∨ b = 0 :=
  (DecimalContext.significant_eq_zero_iff (n := 27)).trans mul_eq_zero

theorem stopDistance_eq_zero_iff : stopDistance price d .default = 0 ↔ StopOnPrice price d :=
  default_sub_eq_zero_iff.trans eq_comm

theorem entryCost_pos (hprice : 0 < price) (hfee : 0 ≤ fee) (hslippage : 0 ≤ slippage) :
    0 < entryCost price fee slippage .default := by
  have hpos := DecimalContext.keepsSign_default.pos
  have hslip : 0 < DecimalContext.default.add 1 slippage := hpos _ (by linarith)
  have hcharged : 0 < DecimalContext.default.add 1 fee := hpos _ (by linarith)
  exact hpos _ (mul_pos (hpos _ (mul_pos hprice hslip)) hcharged)

theorem solveTargetPrice_eq_error_iff {entry loss : ℚ} {e : PyError} :
    solveTargetPrice entry loss fee slippage .default = .error e ↔
      (fee = 1 ∨ slippage = 1) ∧ e = .zeroDivision := by
  have hdenominator : DecimalContext.default.mul (DecimalContext.default.sub 1 slippage)
      (DecimalContext.default.sub 1 fee) = 0 ↔ fee = 1 ∨ slippage = 1 := by
    rw [default_mul_eq_zero_iff, default_sub_eq_zero_iff, default_sub_eq_zero_iff, or_comm,
      eq_comm, eq_comm (a := 1)]
  constructor
  · intro h
    exact ⟨hdenominator.1 (divisor_of_decDiv_error h), decDiv_eq_error h⟩
  · rintro ⟨hunit, rfl⟩
    simp [solveTargetPrice, decDiv, hdenominator.2 hunit]

theorem roundTargetUpToTick_eq_error_iff {rawTarget : ℚ} {e : PyError} :
    roundTargetUpToTick rawTarget filters .default = .error e ↔
      TargetTooLong rawTarget filters ∧ e = .invalidOperation := by
  -- only `quantize` can fail, and only on a whole number of ticks that is too long
  let steps : ℤ := ⌈DecimalContext.default.div rawTarget filters.tickSize⌉
  have hquantized : quantize (DecimalContext.default.mul steps filters.tickSize) filters.tickExponent
      Int.ceil .default =
        if |steps * filters.tickSize| < 10 ^ 28 * 10 ^ filters.tickExponent then
          .ok (steps * filters.tickSize)
        else .error .invalidOperation :=
    quantize_steps filters.tickScaled 27 steps Int.ceil_intCast
  unfold roundTargetUpToTick
  dsimp only
  by_cases htick : filters.tickSize > 0
  · rw [if_pos htick, hquantized]
    by_cases hshort : |steps * filters.tickSize| < 10 ^ 28 * 10 ^ filters.tickExponent
    · rw [if_pos hshort]
      constructor
      · intro h
        simp only [bind, Except.bind] at h
        split at h <;> cases h
      · rintro ⟨hlong, -⟩
        exact absurd hlong.long (not_le.2 hshort)
    · rw [if_neg hshort]
      constructor
      · intro h
        cases h
        exact ⟨⟨htick, not_lt.1 hshort⟩, rfl⟩
      · rintro ⟨-, rfl⟩
        rfl
  · rw [if_neg htick]
    constructor
    · intro h
      simp only [bind, Except.bind] at h
      split at h <;> cases h
    · rintro ⟨hlong, -⟩
      exact absurd hlong.ticked htick

theorem EntryOpen.rawEntryQuantity_pos (h : EntryOpen equity quote price d fee slippage .default)
    (hcost : 0 < entryCost price fee slippage .default) :
    0 < rawEntryQuantity equity quote price d fee slippage .default := by
  have hpos := DecimalContext.keepsSign_default.pos
  have hbudget : 0 < DecimalContext.default.mul equity fixedMaxRiskPerTradePct :=
    hpos _ (mul_pos h.equityPos (by norm_num [fixedMaxRiskPerTradePct]))
  exact lt_min (hpos _ (div_pos hbudget h.lossPos)) (hpos _ (div_pos h.quotePos hcost))

theorem planning_raises_iff (hequity : 0 < equity) (hquote : 0 < quote) (hprice : 0 < price)
    (hd : 0 < d ∧ d < 1) (hfee : 0 ≤ fee) (hslippage : 0 ≤ slippage) :
    (∃ e, planRiskRewardEntry equity quote price d fee slippage filters .default = .error e) ↔
      PlanningFails equity quote price d fee slippage filters := by
  have hcost := entryCost_pos hprice hfee hslippage
  simp only [planRiskRewardEntry_eq_error_iff]
  constructor
  · rintro ⟨e, hraises⟩
    cases hraises with
    | cost _ hzero => exact absurd hzero hcost.ne'
    | size hopen _ hround =>
        by_cases hstep : filters.stepSize = 0
        · rw [roundQuantity_of_step_zero hstep] at hround
          cases hround
        · rw [roundQuantity_default (hopen.rawEntryQuantity_pos hcost).le hstep] at hround
          split_ifs at hround with hshort
          exact .quantityTooLong hopen.lossPos hstep (not_lt.1 hshort)
    | target hsized hsolve => exact .exitWorthless (solveTargetPrice_eq_error_iff.1 hsolve).1 hsized
    | tick hsized hsolve htick =>
        exact .targetTooLong hsized hsolve (roundTargetUpToTick_eq_error_iff.1 htick).1
    | stop hbasis hdistance => exact .stopLost hbasis (stopDistance_eq_zero_iff.1 hdistance)
  · intro hfails
    cases hfails with
    | quantityTooLong hloss hstep hlong =>
        have hopen : EntryOpen equity quote price d fee slippage .default :=
          ⟨hprice, hequity, hquote, hd.1, hd.2, hloss⟩
        have hround := roundQuantity_default (hopen.rawEntryQuantity_pos hcost).le hstep
        rw [if_neg (not_lt.2 hlong)] at hround
        exact ⟨_, .size hopen hcost.ne' hround⟩
    | exitWorthless hunit hsized =>
        exact ⟨_, .target hsized (solveTargetPrice_eq_error_iff.2 ⟨hunit, rfl⟩)⟩
    | targetTooLong hsized hsolve hlong =>
        exact ⟨_, .tick hsized hsolve (roundTargetUpToTick_eq_error_iff.2 ⟨hlong, rfl⟩)⟩
    | stopLost hbasis hdistance => exact ⟨_, .stop hbasis (stopDistance_eq_zero_iff.2 hdistance)⟩

/-- A rate of one has raised before there is a plan to re-validate. -/
theorem revalidation_raises_iff {fill quantity rawTarget target : ℚ}
    (h : PlanAdmitted equity quote price d fee slippage filters quantity rawTarget target) :
    (∃ e, RevalidationRaises fill d fee slippage filters .default e) ↔
      FillFails fill d fee slippage filters := by
  constructor
  · rintro ⟨e, hraises⟩
    cases hraises with
    | target _ hsolve =>
        have hunit := (solveTargetPrice_eq_error_iff.1 hsolve).1
        have hraised : entryTarget price d fee slippage .default = .error .zeroDivision :=
          solveTargetPrice_eq_error_iff.2 ⟨hunit, rfl⟩
        rw [h.solved] at hraised
        cases hraised
    | tick hloss hsolve htick =>
        exact .targetTooLong hloss hsolve (roundTargetUpToTick_eq_error_iff.1 htick).1
    | stop hbasis hdistance => exact .stopLost hbasis (stopDistance_eq_zero_iff.1 hdistance)
  · intro hfails
    cases hfails with
    | targetTooLong hloss hsolve hlong =>
        exact ⟨_, .tick hloss hsolve (roundTargetUpToTick_eq_error_iff.2 ⟨hlong, rfl⟩)⟩
    | stopLost hbasis hdistance => exact ⟨_, .stop hbasis (stopDistance_eq_zero_iff.2 hdistance)⟩

end Planner

/-- The planner returns on every admitted configuration and every positive equity, balance and price,
except on the kinds named: planning fails, or the plan is approved and its fill fails. -/
theorem planner_returns_iff (fees : FeesConfig) (stopLoss : StopLossConfig) {equity quote price : ℚ}
    (hequity : 0 < equity) (hquote : 0 < quote) (hprice : 0 < price) (filters : SymbolFilters) :
    PlannerReturns fees stopLoss equity quote price filters ↔
      ¬PlanningFails equity quote price stopLoss.stopDistancePct fees.takerFeePct fees.slippagePct
          filters ∧
        ∀ quantity rawTarget target,
          PlanAdmitted equity quote price stopLoss.stopDistancePct fees.takerFeePct
            fees.slippagePct filters quantity rawTarget target →
          ¬FillFails (fillPriceAt price fees.slippagePct) stopLoss.stopDistancePct fees.takerFeePct
            fees.slippagePct filters := by
  rw [← planning_raises_iff hequity hquote hprice
    ⟨stopLoss.stopDistancePctPos, stopLoss.stopDistancePctLt⟩ fees.takerFeePctNonneg
    fees.slippagePctNonneg]
  constructor
  · rintro ⟨⟨plan, hplan⟩, hrealized⟩
    refine ⟨?_, ?_⟩
    · rintro ⟨e, hraised⟩
      rw [hplan] at hraised
      cases hraised
    · -- an admitted entry has an approved plan, which cannot both return and raise
      intro quantity rawTarget target hadmitted hfails
      rcases (revalidation_raises_iff hadmitted).2 hfails with ⟨e, hraises⟩
      have hquantity := assessedPlan_quantity hadmitted.rewarded
      rcases hrealized _ _ hadmitted.planned hadmitted.rewarded hquantity with
        ⟨realized, hreturns⟩
      have hboth := hreturns.symm.trans
        ((buildRealizedPlan_eq_error_iff hadmitted.rewarded hquantity).2 hraises)
      cases hboth
  · rintro ⟨hplanning, hfill⟩
    constructor
    · cases hplan : planRiskRewardEntry equity quote price stopLoss.stopDistancePct
          fees.takerFeePct fees.slippagePct filters .default with
      | ok plan => exact ⟨plan, rfl⟩
      | error e => exact absurd ⟨e, hplan⟩ hplanning
    · -- only an admitted entry is approved, so the condition at its fill price applies
      intro plan quantity hplan happroved hquantity
      rcases exists_admitted hplan happroved with ⟨q, rawTarget, target, hadmitted, -⟩
      cases hresult : buildRealizedPlan plan
          ((BacktestBroker.ofFees fees).simulateBuy quantity price .default).fillPrice
          stopLoss.stopDistancePct fees.takerFeePct fees.slippagePct equity filters .default with
      | ok realized => exact ⟨realized, rfl⟩
      | error e =>
          have hraises := (buildRealizedPlan_eq_error_iff happroved hquantity).1 hresult
          exact absurd ((revalidation_raises_iff hadmitted).1 ⟨e, hraises⟩)
            (hfill q rawTarget target hadmitted)

/-- The default configuration: an entry of 188 coins is planned, approved and re-validated. -/
theorem planner_returns_iff_default :
    (planRiskRewardEntry 100000 100000 100 (1 / 20) (1 / 1000) (1 / 2000) Scenario.wholeCoinFilters
        .default).map (fun plan => (plan.approved, plan.quantity)) = .ok (true, some 188) ∧
      PlannerReturns .default .default 100000 100000 100 Scenario.wholeCoinFilters := by
  refine ⟨by decide +kernel,
    (planner_returns_iff _ _ (by norm_num) (by norm_num) (by norm_num) _).2 ⟨?_, ?_⟩⟩
  · intro hfails
    cases hfails with
    | quantityTooLong _ _ hlong => exact absurd hlong (by decide +kernel)
    | exitWorthless hunit _ => exact absurd hunit (by norm_num)
    | targetTooLong _ _ hlong => exact absurd hlong.ticked (by decide +kernel)
    | stopLost _ hstop =>
        exact absurd hstop (by unfold StopOnPrice; decide +kernel)
  · intro quantity rawTarget target _ hfails
    cases hfails with
    | targetTooLong _ _ hlong => exact absurd hlong.ticked (by decide +kernel)
    | stopLost _ hstop => exact absurd hstop (by unfold StopOnPrice; decide +kernel)

/-- A taker fee of one on an account that can buy: the planner divides by zero. -/
theorem planner_divides_by_zero :
    planRiskRewardEntry 100000 100000 100 (1 / 20) 1 0 Scenario.wholeCoinFilters .default =
        .error .zeroDivision ∧
      ¬PlannerReturns
        { FeesConfig.default with
          takerFeePct := 1
          slippagePct := 0
          takerFeePctNonneg := by norm_num
          slippagePctNonneg := le_rfl }
        .default 100000 100000 100 Scenario.wholeCoinFilters := by
  have hraises : planRiskRewardEntry 100000 100000 100 (1 / 20) 1 0 Scenario.wholeCoinFilters
      .default = .error .zeroDivision := by decide +kernel
  refine ⟨hraises, ?_⟩
  intro hreturns
  rcases hreturns.planned with ⟨plan, hplan⟩
  have hdistance : StopLossConfig.default.stopDistancePct = 1 / 20 := by norm_num
  rw [hdistance] at hplan
  rw [hraises] at hplan
  cases hplan

/-- A stop distance of `1e-30` is lost. -/
example : planRiskRewardEntry 100000 100000 100 (1 / 10 ^ 30) (1 / 1000) (1 / 2000)
    Scenario.wholeCoinFilters .default = .error .zeroDivision := by decide +kernel

/-- So many coins are too long. -/
example : planRiskRewardEntry (10 ^ 32) (10 ^ 32) 100 (1 / 20) (1 / 1000) (1 / 2000)
    { Scenario.wholeCoinFilters with stepExponent := 0, stepScaled := by decide +kernel } .default =
      .error .invalidOperation := by decide +kernel

end TradingAgent
