import TradingAgent.Sizing.Filters

/-!
# Risk/reward — the fixed 1:2 planned reward/risk policy

`backtest/risk_reward.py`.  The plan is computed twice for an entry: before the fill from the
reference price, and again from the price that filled, both in the current arithmetic context.

* `PlanBasis` collects the checks an assessed plan has passed, `PlanningRaises` where planning one
  raises, `RealizedBasis` and `RevalidationRaises` the same after the fill;
* `planRiskRewardEntry_approved` says what an approved plan has checked in exact arithmetic, the
  affordability cap on its quantity included;
* `buildRealizedPlan_approved` says that a re-validated plan carries both of its price levels.
-/

namespace TradingAgent

def fixedMaxRiskPerTradePct : ℚ := 1 / 100

def minNetRewardToRisk : ℚ := 2

def exchangeFilterRejectionReasons : List ReasonCode :=
  [.rrRejectedBelowMinLotSize, .rrRejectedBelowMinNotional, .rrRejectedInvalidTarget]

structure RiskRewardPlan where
  approved : Bool
  reasonCode : ReasonCode
  quantity : Option ℚ
  stopPrice : Option ℚ
  targetPrice : Option ℚ
  plannedRiskQuote : Option ℚ
  plannedRiskPct : Option ℚ
  plannedRewardQuote : Option ℚ
  plannedRewardPct : Option ℚ
  grossRewardToRisk : Option ℚ
  netRewardToRisk : Option ℚ
  deriving DecidableEq, Repr

/-! ## Solving for the target -/

def lossPerUnit (effectiveEntry stopPrice fee slippage : ℚ) (context : DecimalContext := .exact) :
    ℚ :=
  let effectiveStopExit := context.mul stopPrice (context.sub 1 slippage)
  context.add
    (context.add (context.sub effectiveEntry effectiveStopExit) (context.mul effectiveEntry fee))
    (context.mul effectiveStopExit fee)

def gainPerUnit (effectiveEntry targetPrice fee slippage : ℚ)
    (context : DecimalContext := .exact) : ℚ :=
  let effectiveTargetExit := context.mul targetPrice (context.sub 1 slippage)
  context.sub
    (context.sub (context.sub effectiveTargetExit effectiveEntry) (context.mul effectiveEntry fee))
    (context.mul effectiveTargetExit fee)

def solveTargetPrice (effectiveEntry loss fee slippage : ℚ) (context : DecimalContext := .exact) :
    Except PyError ℚ :=
  let requiredReward := context.mul minNetRewardToRisk loss
  let numerator := context.add requiredReward (context.mul effectiveEntry (context.add 1 fee))
  let denominator := context.mul (context.sub 1 slippage) (context.sub 1 fee)
  decDiv numerator denominator context

/-- `none` when no tick at or above the target fits under the symbol's maximum price. -/
def roundTargetUpToTick (targetPrice : ℚ) (filters : SymbolFilters)
    (context : DecimalContext := .exact) : Except PyError (Option ℚ) := do
  let tick := filters.tickSize
  let rounded ←
    if tick > 0 then
      let steps := ⌈context.div targetPrice tick⌉
      quantize (context.mul steps tick) filters.tickExponent Int.ceil context
    else .ok targetPrice
  if filters.maxPrice > 0 ∧ rounded > filters.maxPrice then .ok none else .ok (some rounded)

theorem roundTargetUpToTick_eq_error {targetPrice : ℚ} {filters : SymbolFilters}
    {context : DecimalContext} {e : PyError}
    (h : roundTargetUpToTick targetPrice filters context = .error e) : e = .invalidOperation := by
  unfold roundTargetUpToTick at h
  simp only at h
  split at h
  · cases hround : quantize (context.mul ⌈context.div targetPrice filters.tickSize⌉ filters.tickSize)
        filters.tickExponent Int.ceil context with
    | error e' =>
        simp only [hround, bind, Except.bind] at h
        cases h
        exact quantize_eq_error hround
    | ok rounded =>
        simp only [hround, bind, Except.bind] at h
        split at h <;> cases h
  · simp only [bind, Except.bind] at h
    split at h <;> cases h

/-- In exact arithmetic a target is the least tick at or above it. -/
theorem roundTargetUpToTick_exact (targetPrice : ℚ) (filters : SymbolFilters) :
    roundTargetUpToTick targetPrice filters =
      .ok (if filters.maxPrice > 0 ∧
          StepGrid.roundUp filters.tickSize targetPrice > filters.maxPrice then none
        else some (StepGrid.roundUp filters.tickSize targetPrice)) := by
  unfold roundTargetUpToTick StepGrid.roundUp
  by_cases htick : filters.tickSize > 0
  · rcases exists_scaled filters.tickScaled with ⟨m, hm⟩
    have hquantized : quantize (⌈targetPrice / filters.tickSize⌉ * filters.tickSize)
        filters.tickExponent Int.ceil = .ok (⌈targetPrice / filters.tickSize⌉ * filters.tickSize) := by
      rw [quantize, wholeSteps_mul hm, DecimalContext.quantize_exact_mul _ _ Int.ceil_intCast]
    simp only [if_pos htick, DecimalContext.exact_mul, DecimalContext.exact_div, hquantized, bind,
      Except.bind]
    split <;> rfl
  · simp only [if_neg htick, bind, Except.bind]
    split <;> rfl

def rejectedPlan (reasonCode : ReasonCode) (stopPrice : Option ℚ := none) : RiskRewardPlan where
  approved := false
  reasonCode := reasonCode
  quantity := none
  stopPrice := stopPrice
  targetPrice := none
  plannedRiskQuote := none
  plannedRiskPct := none
  plannedRewardQuote := none
  plannedRewardPct := none
  grossRewardToRisk := none
  netRewardToRisk := none

/-! ## The plan before the fill -/

def planRiskRewardEntry (equity quoteBalance referencePrice stopDistancePct takerFeePct
    slippagePct : ℚ) (filters : SymbolFilters) (context : DecimalContext := .exact) :
    Except PyError RiskRewardPlan :=
  if referencePrice ≤ 0 then .ok (rejectedPlan .rrRejectedInvalidPrice)
  else if equity ≤ 0 then .ok (rejectedPlan .rrRejectedInvalidEquity)
  else if quoteBalance ≤ 0 then .ok (rejectedPlan .rrRejectedInsufficientQuoteBalance)
  else if ¬(0 < stopDistancePct ∧ stopDistancePct < 1) then
    .ok (rejectedPlan .rrRejectedInvalidStopDistance)
  else
    let fee := takerFeePct
    let slippage := slippagePct
    let stopPrice := context.mul referencePrice (context.sub 1 stopDistancePct)
    let effectiveEntry := context.mul referencePrice (context.add 1 slippage)
    let loss := lossPerUnit effectiveEntry stopPrice fee slippage context
    if loss ≤ 0 then .ok (rejectedPlan .rrRejectedInvalidStopDistance stopPrice)
    else do
      let riskBudget := context.mul equity fixedMaxRiskPerTradePct
      let riskBasedQuantity := context.div riskBudget loss
      -- fees are reserved, so the quantity can always be paid for
      let affordabilityCapQuantity ←
        decDiv quoteBalance (context.mul effectiveEntry (context.add 1 fee)) context
      let quantity ←
        roundQuantity (min riskBasedQuantity affordabilityCapQuantity) filters context
      if quantity ≤ 0 ∨ meetsLotSize quantity filters = false then
        .ok (rejectedPlan .rrRejectedBelowMinLotSize stopPrice)
      else if meetsMinNotional referencePrice quantity filters context = false then
        .ok (rejectedPlan .rrRejectedBelowMinNotional stopPrice)
      else
        let rawTarget ← solveTargetPrice effectiveEntry loss fee slippage context
        match ← roundTargetUpToTick rawTarget filters context with
        | none => .ok (rejectedPlan .rrRejectedInvalidTarget stopPrice)
        | some targetPrice =>
            if targetPrice ≤ referencePrice then
              .ok (rejectedPlan .rrRejectedInvalidTarget stopPrice)
            else
              let gain := gainPerUnit effectiveEntry targetPrice fee slippage context
              let plannedRiskQuote := context.mul quantity loss
              let plannedRewardQuote := context.mul quantity gain
              let grossRewardToRisk ← decDiv (context.sub targetPrice referencePrice)
                (context.sub referencePrice stopPrice) context
              -- the gate: cross-multiplication, no tolerance
              let approved :=
                decide (context.mul minNetRewardToRisk plannedRiskQuote ≤ plannedRewardQuote)
              .ok {
                approved := approved
                reasonCode :=
                  if approved then .rrApproved else .rrRejectedNetRewardToRiskBelowMinimum
                quantity := if approved then some quantity else none
                stopPrice := some stopPrice
                targetPrice := some targetPrice
                plannedRiskQuote := some plannedRiskQuote
                plannedRiskPct := some (context.div plannedRiskQuote equity)
                plannedRewardQuote := some plannedRewardQuote
                plannedRewardPct := some (context.div plannedRewardQuote equity)
                grossRewardToRisk := some grossRewardToRisk
                netRewardToRisk :=
                  if plannedRiskQuote > 0 then
                    some (context.div plannedRewardQuote plannedRiskQuote)
                  else none }

/-! ## The plan after the fill -/

def failedRevalidation (plan : RiskRewardPlan) (stopPrice : ℚ) : RiskRewardPlan :=
  { plan with
    approved := false
    reasonCode := .rrRejectedPostFillRevalidationFailed
    stopPrice := some stopPrice
    targetPrice := none }

def buildRealizedPlan (plan : RiskRewardPlan) (fillPrice stopDistancePct takerFeePct slippagePct
    equity : ℚ) (filters : SymbolFilters) (context : DecimalContext := .exact) :
    Except PyError RiskRewardPlan :=
  match plan.approved, plan.quantity with
  | true, some quantity =>
      let fee := takerFeePct
      let slippage := slippagePct
      let stopPrice := context.mul fillPrice (context.sub 1 stopDistancePct)
      let loss := lossPerUnit fillPrice stopPrice fee slippage context
      if loss ≤ 0 then .ok (failedRevalidation plan stopPrice)
      else do
        let rawTarget ← solveTargetPrice fillPrice loss fee slippage context
        match ← roundTargetUpToTick rawTarget filters context with
        | none => .ok (failedRevalidation plan stopPrice)
        | some targetPrice =>
            if targetPrice ≤ fillPrice then .ok (failedRevalidation plan stopPrice)
            else
              let gain := gainPerUnit fillPrice targetPrice fee slippage context
              let plannedRiskQuote := context.mul quantity loss
              let plannedRewardQuote := context.mul quantity gain
              let riskBudget := context.mul equity fixedMaxRiskPerTradePct
              let grossRewardToRisk ← decDiv (context.sub targetPrice fillPrice)
                (context.sub fillPrice stopPrice) context
              let valid : Bool :=
                decide (plannedRiskQuote ≤ riskBudget) &&
                  decide (plannedRewardQuote ≥ context.mul minNetRewardToRisk plannedRiskQuote)
              .ok { plan with
                approved := valid
                reasonCode :=
                  if valid then plan.reasonCode else .rrRejectedPostFillRevalidationFailed
                stopPrice := some stopPrice
                targetPrice := some targetPrice
                plannedRiskQuote := some plannedRiskQuote
                plannedRiskPct :=
                  if equity > 0 then some (context.div plannedRiskQuote equity) else none
                plannedRewardQuote := some plannedRewardQuote
                plannedRewardPct :=
                  if equity > 0 then some (context.div plannedRewardQuote equity) else none
                grossRewardToRisk := some grossRewardToRisk
                netRewardToRisk :=
                  if plannedRiskQuote > 0 then
                    some (context.div plannedRewardQuote plannedRiskQuote)
                  else none }
  | _, _ => .error .planNotApproved

/-! ## What planning an entry comes to -/

section Figures

variable (equity quoteBalance referencePrice stopDistancePct fee slippage : ℚ)

/-- What a unit of an entry loses at its stop. -/
def entryLoss (context : DecimalContext := .exact) : ℚ :=
  lossPerUnit (context.mul referencePrice (context.add 1 slippage))
    (context.mul referencePrice (context.sub 1 stopDistancePct)) fee slippage context

/-- What a unit of an entry costs, its fee included. -/
def entryCost (context : DecimalContext := .exact) : ℚ :=
  context.mul (context.mul referencePrice (context.add 1 slippage)) (context.add 1 fee)

/-- The raw size of a planned entry. -/
def rawEntryQuantity (context : DecimalContext := .exact) : ℚ :=
  min
    (context.div (context.mul equity fixedMaxRiskPerTradePct)
      (entryLoss referencePrice stopDistancePct fee slippage context))
    (context.div quoteBalance (entryCost referencePrice fee slippage context))

/-- The target of an entry before it is rounded to a tick. -/
def entryTarget (context : DecimalContext := .exact) : Except PyError ℚ :=
  solveTargetPrice (context.mul referencePrice (context.add 1 slippage))
    (entryLoss referencePrice stopDistancePct fee slippage context) fee slippage context

/-- The distance of the stop, which the gross reward is divided by. -/
def stopDistance (context : DecimalContext := .exact) : ℚ :=
  context.sub referencePrice (context.mul referencePrice (context.sub 1 stopDistancePct))

/-- The account, the price and the stop can be planned with. -/
structure EntryOpen (context : DecimalContext := .exact) : Prop where
  pricePos : 0 < referencePrice
  equityPos : 0 < equity
  quotePos : 0 < quoteBalance
  stopPos : 0 < stopDistancePct
  stopLt : stopDistancePct < 1
  lossPos : 0 < entryLoss referencePrice stopDistancePct fee slippage context

/-- The quantity of an entry passed the filters. -/
structure EntrySized (filters : SymbolFilters) (quantity : ℚ)
    (context : DecimalContext := .exact) : Prop extends
    EntryOpen equity quoteBalance referencePrice stopDistancePct fee slippage context where
  costNe : entryCost referencePrice fee slippage context ≠ 0
  capped : roundQuantity
    (rawEntryQuantity equity quoteBalance referencePrice stopDistancePct fee slippage context)
      filters context = .ok quantity
  quantityPos : 0 < quantity
  lot : meetsLotSize quantity filters = true
  notional : meetsMinNotional referencePrice quantity filters context = true

/-- The checks an entry has passed when its plan is assessed, and what they found. -/
structure PlanBasis (filters : SymbolFilters) (quantity rawTarget targetPrice : ℚ)
    (context : DecimalContext := .exact) : Prop extends
    EntrySized equity quoteBalance referencePrice stopDistancePct fee slippage filters quantity
      context where
  solved : entryTarget referencePrice stopDistancePct fee slippage context = .ok rawTarget
  rounded : roundTargetUpToTick rawTarget filters context = .ok (some targetPrice)
  targetAbove : referencePrice < targetPrice

/-- Where planning an entry raises. -/
inductive PlanningRaises (filters : SymbolFilters) (context : DecimalContext := .exact) :
    PyError → Prop
  | cost :
      EntryOpen equity quoteBalance referencePrice stopDistancePct fee slippage context →
      entryCost referencePrice fee slippage context = 0 →
      PlanningRaises filters context .zeroDivision
  | size {e : PyError} :
      EntryOpen equity quoteBalance referencePrice stopDistancePct fee slippage context →
      entryCost referencePrice fee slippage context ≠ 0 →
      roundQuantity
        (rawEntryQuantity equity quoteBalance referencePrice stopDistancePct fee slippage context)
          filters context = .error e →
      PlanningRaises filters context e
  | target {quantity : ℚ} {e : PyError} :
      EntrySized equity quoteBalance referencePrice stopDistancePct fee slippage filters quantity
        context →
      entryTarget referencePrice stopDistancePct fee slippage context = .error e →
      PlanningRaises filters context e
  | tick {quantity rawTarget : ℚ} {e : PyError} :
      EntrySized equity quoteBalance referencePrice stopDistancePct fee slippage filters quantity
        context →
      entryTarget referencePrice stopDistancePct fee slippage context = .ok rawTarget →
      roundTargetUpToTick rawTarget filters context = .error e →
      PlanningRaises filters context e
  | stop {quantity rawTarget targetPrice : ℚ} :
      PlanBasis equity quoteBalance referencePrice stopDistancePct fee slippage filters quantity
        rawTarget targetPrice context →
      stopDistance referencePrice stopDistancePct context = 0 →
      PlanningRaises filters context .zeroDivision

end Figures

/-- The plan of an entry that passed every check but the last. -/
def assessedPlan (equity referencePrice stopDistancePct fee slippage quantity targetPrice : ℚ)
    (context : DecimalContext := .exact) : RiskRewardPlan :=
  let stopPrice := context.mul referencePrice (context.sub 1 stopDistancePct)
  let effectiveEntry := context.mul referencePrice (context.add 1 slippage)
  let plannedRiskQuote :=
    context.mul quantity (lossPerUnit effectiveEntry stopPrice fee slippage context)
  let plannedRewardQuote :=
    context.mul quantity (gainPerUnit effectiveEntry targetPrice fee slippage context)
  let approved := decide (context.mul minNetRewardToRisk plannedRiskQuote ≤ plannedRewardQuote)
  { approved := approved
    reasonCode := if approved then .rrApproved else .rrRejectedNetRewardToRiskBelowMinimum
    quantity := if approved then some quantity else none
    stopPrice := some stopPrice
    targetPrice := some targetPrice
    plannedRiskQuote := some plannedRiskQuote
    plannedRiskPct := some (context.div plannedRiskQuote equity)
    plannedRewardQuote := some plannedRewardQuote
    plannedRewardPct := some (context.div plannedRewardQuote equity)
    grossRewardToRisk :=
      some (context.div (context.sub targetPrice referencePrice)
        (context.sub referencePrice stopPrice))
    netRewardToRisk :=
      if plannedRiskQuote > 0 then some (context.div plannedRewardQuote plannedRiskQuote)
      else none }

/-- What planning an entry comes to: an exception, a refusal at one of the checks before the last,
or a plan that the last check assesses. -/
inductive EntryPlanning (equity quote price d fee slippage : ℚ) (filters : SymbolFilters)
    (context : DecimalContext := .exact) : Except PyError RiskRewardPlan → Prop
  | raised {e : PyError} :
      PlanningRaises equity quote price d fee slippage filters context e →
      EntryPlanning equity quote price d fee slippage filters context (.error e)
  | refused (code : ReasonCode) (stop : Option ℚ) :
      code ≠ .rrRejectedNetRewardToRiskBelowMinimum →
      EntryPlanning equity quote price d fee slippage filters context
        (.ok (rejectedPlan code stop))
  | assessed (quantity rawTarget target : ℚ) :
      PlanBasis equity quote price d fee slippage filters quantity rawTarget target context →
      stopDistance price d context ≠ 0 →
      EntryPlanning equity quote price d fee slippage filters context
        (.ok (assessedPlan equity price d fee slippage quantity target context))

theorem planRiskRewardEntry_outcome (equity quote price d fee slippage : ℚ)
    (filters : SymbolFilters) (context : DecimalContext := .exact) :
    EntryPlanning equity quote price d fee slippage filters context
      (planRiskRewardEntry equity quote price d fee slippage filters context) := by
  unfold planRiskRewardEntry
  -- the account and the distance of the stop
  by_cases hprice : price ≤ 0
  · rw [if_pos hprice]
    exact .refused _ _ (by decide)
  by_cases hequity : equity ≤ 0
  · rw [if_neg hprice, if_pos hequity]
    exact .refused _ _ (by decide)
  by_cases hquote : quote ≤ 0
  · rw [if_neg hprice, if_neg hequity, if_pos hquote]
    exact .refused _ _ (by decide)
  rw [if_neg hprice, if_neg hequity, if_neg hquote]
  by_cases hstop : 0 < d ∧ d < 1
  swap
  · rw [if_pos hstop]
    exact .refused _ _ (by decide)
  rw [if_neg (not_not.2 hstop)]
  dsimp only
  by_cases hloss : entryLoss price d fee slippage context ≤ 0
  · rw [if_pos (show lossPerUnit _ _ fee slippage context ≤ 0 from hloss)]
    exact .refused _ _ (by decide)
  rw [if_neg (show ¬lossPerUnit _ _ fee slippage context ≤ 0 from hloss)]
  have hopen : EntryOpen equity quote price d fee slippage context :=
    ⟨not_le.1 hprice, not_le.1 hequity, not_le.1 hquote, hstop.1, hstop.2, not_le.1 hloss⟩
  -- the quantity
  cases hcap : decDiv quote
      (context.mul (context.mul price (context.add 1 slippage)) (context.add 1 fee)) context with
  | error e =>
      rw [decDiv_eq_error hcap]
      exact .raised (.cost hopen (divisor_of_decDiv_error hcap))
  | ok cap =>
      rcases decDiv_eq_ok hcap with ⟨hcost, rfl⟩
      simp only [bind, Except.bind]
      generalize hround : roundQuantity _ filters context = rounding
      cases rounding with
      | error e => exact .raised (.size hopen hcost hround)
      | ok q =>
      dsimp only
      by_cases hlot : q ≤ 0 ∨ meetsLotSize q filters = false
      · rw [if_pos hlot]
        exact .refused _ _ (by decide)
      rw [if_neg hlot]
      by_cases hnotional : meetsMinNotional price q filters context = false
      · rw [if_pos hnotional]
        exact .refused _ _ (by decide)
      rw [if_neg hnotional]
      have hsized : EntrySized equity quote price d fee slippage filters q context :=
        { hopen with
          costNe := hcost
          capped := hround
          quantityPos := not_le.1 fun hle => hlot (Or.inl hle)
          lot := eq_true_of_ne_false fun hfalse => hlot (Or.inr hfalse)
          notional := eq_true_of_ne_false hnotional }
      -- the target
      generalize hsolve : solveTargetPrice _ _ fee slippage context = solving
      cases solving with
      | error e => exact .raised (.target hsized hsolve)
      | ok rawTarget =>
      dsimp only
      cases htick : roundTargetUpToTick rawTarget filters context with
      | error e => exact .raised (.tick hsized hsolve htick)
      | ok rounded =>
      cases rounded with
      | none => exact .refused _ _ (by decide)
      | some target =>
      dsimp only
      by_cases habove : target ≤ price
      · rw [if_pos habove]
        exact .refused _ _ (by decide)
      rw [if_neg habove]
      have hbasis : PlanBasis equity quote price d fee slippage filters q rawTarget target context :=
        { hsized with solved := hsolve, rounded := htick, targetAbove := not_le.1 habove }
      generalize hgross : decDiv _ _ context = dividing
      cases dividing with
      | error e =>
          rw [decDiv_eq_error hgross]
          exact .raised (.stop hbasis (divisor_of_decDiv_error hgross))
      | ok gross =>
          rcases decDiv_eq_ok hgross with ⟨hdistance, rfl⟩
          exact .assessed q rawTarget target hbasis hdistance

/-- Planning raises exactly at the five places named. -/
theorem planRiskRewardEntry_eq_error_iff {equity quote price d fee slippage : ℚ}
    {filters : SymbolFilters} {context : DecimalContext} {e : PyError} :
    planRiskRewardEntry equity quote price d fee slippage filters context = .error e ↔
      PlanningRaises equity quote price d fee slippage filters context e := by
  constructor
  · intro h
    have hplanning := planRiskRewardEntry_outcome equity quote price d fee slippage filters context
    rw [h] at hplanning
    cases hplanning with
    | raised hraises => exact hraises
  · intro h
    -- the checks on the account are passed in all five
    have hopen : EntryOpen equity quote price d fee slippage context := by
      cases h with
      | cost hopen _ => exact hopen
      | size hopen _ _ => exact hopen
      | target hsized _ => exact hsized.toEntryOpen
      | tick hsized _ _ => exact hsized.toEntryOpen
      | stop hbasis _ => exact hbasis.toEntryOpen
    have hloss := hopen.lossPos
    unfold entryLoss at hloss
    unfold planRiskRewardEntry
    rw [if_neg (not_le.2 hopen.pricePos), if_neg (not_le.2 hopen.equityPos),
      if_neg (not_le.2 hopen.quotePos), if_neg (not_not.2 ⟨hopen.stopPos, hopen.stopLt⟩)]
    dsimp only
    rw [if_neg (not_le.2 hloss)]
    cases h with
    | cost _ hcost =>
        unfold entryCost at hcost
        simp [decDiv, hcost, bind, Except.bind]
    | size _ hcost hround =>
        unfold entryCost at hcost
        unfold rawEntryQuantity entryLoss entryCost at hround
        simp [decDiv, hcost, hround, bind, Except.bind]
    | target hsized hsolve =>
        have hcost := hsized.costNe
        have hround := hsized.capped
        unfold entryCost at hcost
        unfold rawEntryQuantity entryLoss entryCost at hround
        unfold entryTarget entryLoss at hsolve
        simp [decDiv, hcost, hround, not_le.2 hsized.quantityPos, hsized.lot, hsized.notional,
          hsolve, bind, Except.bind]
    | tick hsized hsolve htick =>
        have hcost := hsized.costNe
        have hround := hsized.capped
        unfold entryCost at hcost
        unfold rawEntryQuantity entryLoss entryCost at hround
        unfold entryTarget entryLoss at hsolve
        simp [decDiv, hcost, hround, not_le.2 hsized.quantityPos, hsized.lot, hsized.notional,
          hsolve, htick, bind, Except.bind]
    | stop hbasis hdistance =>
        have hcost := hbasis.costNe
        have hround := hbasis.capped
        have hsolve := hbasis.solved
        unfold entryCost at hcost
        unfold rawEntryQuantity entryLoss entryCost at hround
        unfold entryTarget entryLoss at hsolve
        unfold stopDistance at hdistance
        simp [decDiv, hcost, hround, not_le.2 hbasis.quantityPos, hbasis.lot, hbasis.notional,
          hsolve, hbasis.rounded, not_le.2 hbasis.targetAbove, hdistance, bind, Except.bind]

/-- An entry that passed every check but the last is assessed by it. -/
theorem planRiskRewardEntry_of_basis {equity quote price d fee slippage q rawTarget target : ℚ}
    {filters : SymbolFilters} {context : DecimalContext}
    (h : PlanBasis equity quote price d fee slippage filters q rawTarget target context)
    (hdistance : stopDistance price d context ≠ 0) :
    planRiskRewardEntry equity quote price d fee slippage filters context =
      .ok (assessedPlan equity price d fee slippage q target context) := by
  have hloss := h.lossPos
  have hcost := h.costNe
  have hround := h.capped
  have hsolve := h.solved
  unfold entryLoss at hloss
  unfold entryCost at hcost
  unfold rawEntryQuantity entryLoss entryCost at hround
  unfold entryTarget entryLoss at hsolve
  unfold stopDistance at hdistance
  unfold planRiskRewardEntry
  rw [if_neg (not_le.2 h.pricePos), if_neg (not_le.2 h.equityPos), if_neg (not_le.2 h.quotePos),
    if_neg (not_not.2 ⟨h.stopPos, h.stopLt⟩)]
  dsimp only
  rw [if_neg (not_le.2 hloss)]
  simp [decDiv, hcost, hround, not_le.2 h.quantityPos, h.lot, h.notional, hsolve, h.rounded,
    not_le.2 h.targetAbove, hdistance, assessedPlan, bind, Except.bind]

theorem rejectedPlan_ne_approved {r : ReasonCode} {stop : Option ℚ} :
    (rejectedPlan r stop).approved ≠ true := by
  simp [rejectedPlan]

/-- An approved plan is an assessed one whose reward meets the minimum. -/
theorem planRiskRewardEntry_assessed {equity quote price d fee slippage : ℚ}
    {filters : SymbolFilters} {context : DecimalContext} {plan : RiskRewardPlan}
    (h : planRiskRewardEntry equity quote price d fee slippage filters context = .ok plan)
    (happroved : plan.approved = true) :
    ∃ quantity rawTarget target,
      PlanBasis equity quote price d fee slippage filters quantity rawTarget target context ∧
        stopDistance price d context ≠ 0 ∧
        plan = assessedPlan equity price d fee slippage quantity target context := by
  have hplanning := planRiskRewardEntry_outcome equity quote price d fee slippage filters context
  rw [h] at hplanning
  cases hplanning with
  | refused code stop _ =>
      -- no refused plan is approved
      exact absurd happroved rejectedPlan_ne_approved
  | assessed quantity rawTarget target hbasis hdistance =>
      exact ⟨quantity, rawTarget, target, hbasis, hdistance, rfl⟩

/-- The quantity is only recorded when the gate let the plan through. -/
theorem assessedPlan_quantity {equity price d fee slippage q target : ℚ} {context : DecimalContext}
    (h : (assessedPlan equity price d fee slippage q target context).approved = true) :
    (assessedPlan equity price d fee slippage q target context).quantity = some q :=
  if_pos h

/-- Planning raises no transition error. -/
theorem PlanningRaises.error_eq {equity quote price d fee slippage : ℚ} {filters : SymbolFilters}
    {context : DecimalContext} {e : PyError}
    (h : PlanningRaises equity quote price d fee slippage filters context e) :
    e = .zeroDivision ∨ e = .invalidOperation := by
  cases h with
  | cost _ _ => exact Or.inl rfl
  | size _ _ hround => exact Or.inr (roundQuantity_eq_error hround)
  | target _ hsolve => exact Or.inl (decDiv_eq_error hsolve)
  | tick _ _ hround => exact Or.inr (roundTargetUpToTick_eq_error hround)
  | stop _ _ => exact Or.inl rfl

/-! ### In exact arithmetic -/

/-- A plan fit to fill: its quantity can be paid for at the slipped price, entry fee included. -/
structure RiskRewardPlan.Fillable (plan : RiskRewardPlan)
    (quoteBalance effectiveEntry fee : ℚ) (filters : SymbolFilters) (quantity : ℚ) : Prop where
  quantity_eq : plan.quantity = some quantity
  quantity_pos : 0 < quantity
  quantity_rounded : roundQuantity quantity filters = .ok quantity
  affordable : 0 < effectiveEntry * (1 + fee) →
    quantity * (effectiveEntry * (1 + fee)) ≤ quoteBalance

namespace PlanBasis

variable {equity quote price d fee slippage : ℚ} {filters : SymbolFilters} {q raw target : ℚ}

theorem loss_pos (h : PlanBasis equity quote price d fee slippage filters q raw target) :
    0 < lossPerUnit (price * (1 + slippage)) (price * (1 - d)) fee slippage :=
  h.lossPos

/-- The quantity is within both of its caps: rounding it did not enlarge it. -/
theorem quantity_le (h : PlanBasis equity quote price d fee slippage filters q raw target) :
    q ≤ min (equity * fixedMaxRiskPerTradePct /
      lossPerUnit (price * (1 + slippage)) (price * (1 - d)) fee slippage)
        (quote / (price * (1 + slippage) * (1 + fee))) :=
  roundQuantity_le_of_pos h.capped h.quantityPos

theorem affordable (h : PlanBasis equity quote price d fee slippage filters q raw target)
    (hden : 0 < price * (1 + slippage) * (1 + fee)) :
    q * (price * (1 + slippage) * (1 + fee)) ≤ quote :=
  (le_div_iff₀ hden).1 (h.quantity_le.trans (min_le_right _ _))

/-- The planned loss stays within the risk budget. -/
theorem risk_le (h : PlanBasis equity quote price d fee slippage filters q raw target) :
    q * lossPerUnit (price * (1 + slippage)) (price * (1 - d)) fee slippage ≤
      equity * fixedMaxRiskPerTradePct :=
  (le_div_iff₀ h.loss_pos).1 (h.quantity_le.trans (min_le_left _ _))

end PlanBasis

theorem planRiskRewardEntry_approved {equity quote price d fee slippage : ℚ}
    {filters : SymbolFilters} {plan : RiskRewardPlan}
    (h : planRiskRewardEntry equity quote price d fee slippage filters = .ok plan)
    (happroved : plan.approved = true) :
    0 < price ∧ 0 < equity ∧
      ∃ quantity, plan.Fillable quote (price * (1 + slippage)) fee filters quantity := by
  rcases planRiskRewardEntry_assessed h happroved with ⟨q, raw, target, hbasis, -, rfl⟩
  exact ⟨hbasis.pricePos, hbasis.equityPos, q, assessedPlan_quantity happroved, hbasis.quantityPos,
    roundQuantity_rounded hbasis.capped, hbasis.affordable⟩

/-! ## What re-validating a plan comes to -/

section Realized

variable (fillPrice stopDistancePct fee slippage : ℚ) (filters : SymbolFilters)

/-- What a unit of a filled entry loses at its stop. -/
def filledLoss (context : DecimalContext := .exact) : ℚ :=
  lossPerUnit fillPrice (context.mul fillPrice (context.sub 1 stopDistancePct)) fee slippage context

/-- The checks a filled entry has passed when its plan is assessed again. -/
structure RealizedBasis (rawTarget targetPrice : ℚ) (context : DecimalContext := .exact) :
    Prop where
  lossPos : 0 < filledLoss fillPrice stopDistancePct fee slippage context
  solved : solveTargetPrice fillPrice (filledLoss fillPrice stopDistancePct fee slippage context) fee
    slippage context = .ok rawTarget
  rounded : roundTargetUpToTick rawTarget filters context = .ok (some targetPrice)
  targetAbove : fillPrice < targetPrice

/-- Where re-validating an approved plan raises. -/
inductive RevalidationRaises (context : DecimalContext := .exact) : PyError → Prop
  | target {e : PyError} :
      0 < filledLoss fillPrice stopDistancePct fee slippage context →
      solveTargetPrice fillPrice (filledLoss fillPrice stopDistancePct fee slippage context) fee
        slippage context = .error e →
      RevalidationRaises context e
  | tick {rawTarget : ℚ} {e : PyError} :
      0 < filledLoss fillPrice stopDistancePct fee slippage context →
      solveTargetPrice fillPrice (filledLoss fillPrice stopDistancePct fee slippage context) fee
        slippage context = .ok rawTarget →
      roundTargetUpToTick rawTarget filters context = .error e →
      RevalidationRaises context e
  | stop {rawTarget targetPrice : ℚ} :
      RealizedBasis fillPrice stopDistancePct fee slippage filters rawTarget targetPrice context →
      stopDistance fillPrice stopDistancePct context = 0 →
      RevalidationRaises context .zeroDivision

end Realized

/-- The plan of a filled entry that passed every check but the last two. -/
def revalidatedPlan (plan : RiskRewardPlan) (fillPrice stopDistancePct fee slippage equity : ℚ)
    (quantity targetPrice : ℚ) (context : DecimalContext := .exact) : RiskRewardPlan :=
  let stopPrice := context.mul fillPrice (context.sub 1 stopDistancePct)
  let plannedRiskQuote :=
    context.mul quantity (lossPerUnit fillPrice stopPrice fee slippage context)
  let plannedRewardQuote :=
    context.mul quantity (gainPerUnit fillPrice targetPrice fee slippage context)
  let valid : Bool :=
    decide (plannedRiskQuote ≤ context.mul equity fixedMaxRiskPerTradePct) &&
      decide (plannedRewardQuote ≥ context.mul minNetRewardToRisk plannedRiskQuote)
  { plan with
    approved := valid
    reasonCode := if valid then plan.reasonCode else .rrRejectedPostFillRevalidationFailed
    stopPrice := some stopPrice
    targetPrice := some targetPrice
    plannedRiskQuote := some plannedRiskQuote
    plannedRiskPct := if equity > 0 then some (context.div plannedRiskQuote equity) else none
    plannedRewardQuote := some plannedRewardQuote
    plannedRewardPct := if equity > 0 then some (context.div plannedRewardQuote equity) else none
    grossRewardToRisk :=
      some (context.div (context.sub targetPrice fillPrice) (context.sub fillPrice stopPrice))
    netRewardToRisk :=
      if plannedRiskQuote > 0 then some (context.div plannedRewardQuote plannedRiskQuote)
      else none }

/-- What re-validating an approved plan comes to: an exception, a failure at one of the checks before
the last two, or a plan that the last two assess. -/
inductive FillRevalidation (plan : RiskRewardPlan) (q fill d fee slippage equity : ℚ)
    (filters : SymbolFilters) (context : DecimalContext := .exact) :
    Except PyError RiskRewardPlan → Prop
  | raised {e : PyError} : RevalidationRaises fill d fee slippage filters context e →
      FillRevalidation plan q fill d fee slippage equity filters context (.error e)
  | failed : FillRevalidation plan q fill d fee slippage equity filters context
      (.ok (failedRevalidation plan (context.mul fill (context.sub 1 d))))
  | assessed (rawTarget target : ℚ) :
      RealizedBasis fill d fee slippage filters rawTarget target context →
      stopDistance fill d context ≠ 0 →
      FillRevalidation plan q fill d fee slippage equity filters context
        (.ok (revalidatedPlan plan fill d fee slippage equity q target context))

theorem buildRealizedPlan_outcome {plan : RiskRewardPlan} {q : ℚ} (happroved : plan.approved = true)
    (hquantity : plan.quantity = some q) (fill d fee slippage equity : ℚ)
    (filters : SymbolFilters) (context : DecimalContext := .exact) :
    FillRevalidation plan q fill d fee slippage equity filters context
      (buildRealizedPlan plan fill d fee slippage equity filters context) := by
  simp only [buildRealizedPlan, happroved, hquantity]
  by_cases hloss : filledLoss fill d fee slippage context ≤ 0
  · rw [if_pos (show lossPerUnit fill _ fee slippage context ≤ 0 from hloss)]
    exact .failed
  rw [if_neg (show ¬lossPerUnit fill _ fee slippage context ≤ 0 from hloss)]
  simp only [bind, Except.bind]
  generalize hsolve : solveTargetPrice fill _ fee slippage context = solving
  cases solving with
  | error e => exact .raised (.target (not_le.1 hloss) hsolve)
  | ok rawTarget =>
  dsimp only
  cases htick : roundTargetUpToTick rawTarget filters context with
  | error e => exact .raised (.tick (not_le.1 hloss) hsolve htick)
  | ok rounded =>
  cases rounded with
  | none => exact .failed
  | some target =>
  dsimp only
  by_cases habove : target ≤ fill
  · rw [if_pos habove]
    exact .failed
  rw [if_neg habove]
  have hbasis : RealizedBasis fill d fee slippage filters rawTarget target context :=
    ⟨not_le.1 hloss, hsolve, htick, not_le.1 habove⟩
  generalize hgross : decDiv _ _ context = dividing
  cases dividing with
  | error e =>
      rw [decDiv_eq_error hgross]
      exact .raised (.stop hbasis (divisor_of_decDiv_error hgross))
  | ok gross =>
      rcases decDiv_eq_ok hgross with ⟨hdistance, rfl⟩
      have hassessed : FillRevalidation plan q fill d fee slippage equity filters context
          (.ok (revalidatedPlan plan fill d fee slippage equity q target context)) :=
        .assessed rawTarget target hbasis hdistance
      simpa only [revalidatedPlan, hquantity] using hassessed

/-- Re-validating an approved plan raises exactly at the three places named, whatever the plan and
the account. -/
theorem buildRealizedPlan_eq_error_iff {plan : RiskRewardPlan} {q fill d fee slippage equity : ℚ}
    {filters : SymbolFilters} {context : DecimalContext} {e : PyError}
    (happroved : plan.approved = true) (hquantity : plan.quantity = some q) :
    buildRealizedPlan plan fill d fee slippage equity filters context = .error e ↔
      RevalidationRaises fill d fee slippage filters context e := by
  constructor
  · intro h
    have hrevalidation := buildRealizedPlan_outcome happroved hquantity fill d fee slippage equity
      filters context
    rw [h] at hrevalidation
    cases hrevalidation with
    | raised hraises => exact hraises
  · intro h
    simp only [buildRealizedPlan, happroved, hquantity]
    cases h with
    | target hloss hsolve =>
        unfold filledLoss at hloss hsolve
        simp [not_le.2 hloss, hsolve, bind, Except.bind]
    | tick hloss hsolve htick =>
        unfold filledLoss at hloss hsolve
        simp [not_le.2 hloss, hsolve, htick, bind, Except.bind]
    | stop hbasis hdistance =>
        have hloss := hbasis.lossPos
        have hsolve := hbasis.solved
        unfold filledLoss at hloss hsolve
        unfold stopDistance at hdistance
        simp [not_le.2 hloss, hsolve, hbasis.rounded, not_le.2 hbasis.targetAbove, decDiv, hdistance,
          bind, Except.bind]

theorem RevalidationRaises.error_eq {fill d fee slippage : ℚ} {filters : SymbolFilters}
    {context : DecimalContext} {e : PyError}
    (h : RevalidationRaises fill d fee slippage filters context e) :
    e = .zeroDivision ∨ e = .invalidOperation := by
  cases h with
  | target _ hsolve => exact Or.inl (decDiv_eq_error hsolve)
  | tick _ _ hround => exact Or.inr (roundTargetUpToTick_eq_error hround)
  | stop _ _ => exact Or.inl rfl

/-- Re-validating a plan raises what its arithmetic raises, or finds no approved plan. -/
theorem buildRealizedPlan_eq_error {plan : RiskRewardPlan} {fill d fee slippage equity : ℚ}
    {filters : SymbolFilters} {context : DecimalContext} {e : PyError}
    (h : buildRealizedPlan plan fill d fee slippage equity filters context = .error e) :
    RevalidationRaises fill d fee slippage filters context e ∨ e = .planNotApproved := by
  cases happroved : plan.approved with
  | false =>
      simp only [buildRealizedPlan, happroved] at h
      exact Or.inr (Except.error.inj h).symm
  | true =>
      cases hquantity : plan.quantity with
      | none =>
          simp only [buildRealizedPlan, happroved, hquantity] at h
          exact Or.inr (Except.error.inj h).symm
      | some q => exact Or.inl ((buildRealizedPlan_eq_error_iff happroved hquantity).1 h)

/-- A re-validated plan carries every level and figure that reports read. -/
structure RiskRewardPlan.Realized (realized : RiskRewardPlan) (fillPrice stopDistancePct : ℚ) :
    Prop where
  stop : realized.stopPrice = some (fillPrice * (1 - stopDistancePct))
  target : realized.targetPrice.isSome = true
  risk : realized.plannedRiskQuote.isSome = true
  reward : realized.plannedRewardQuote.isSome = true
  gross : realized.grossRewardToRisk.isSome = true
  net : realized.netRewardToRisk.isSome = true

theorem failedRevalidation_ne_approved {plan : RiskRewardPlan} {stop : ℚ} :
    (failedRevalidation plan stop).approved ≠ true := by
  simp [failedRevalidation]

/-- A plan that was re-validated and approved is an assessed one. -/
theorem buildRealizedPlan_assessed {plan realized : RiskRewardPlan}
    {q fill d fee slippage equity : ℚ} {filters : SymbolFilters} {context : DecimalContext}
    (h : buildRealizedPlan plan fill d fee slippage equity filters context = .ok realized)
    (hq : plan.quantity = some q) (happroved : realized.approved = true) :
    ∃ rawTarget target, RealizedBasis fill d fee slippage filters rawTarget target context ∧
      realized = revalidatedPlan plan fill d fee slippage equity q target context := by
  cases hplan : plan.approved with
  | false =>
      simp [buildRealizedPlan, hplan] at h
  | true =>
      have hrevalidation :=
        buildRealizedPlan_outcome hplan hq fill d fee slippage equity filters context
      rw [h] at hrevalidation
      cases hrevalidation with
      | failed =>
          -- no failed plan is approved
          exact absurd happroved failedRevalidation_ne_approved
      | assessed raw target hbasis _ =>
          exact ⟨raw, target, hbasis, rfl⟩

theorem buildRealizedPlan_approved {plan realized : RiskRewardPlan} {q fill d fee slippage equity : ℚ}
    {filters : SymbolFilters}
    (h : buildRealizedPlan plan fill d fee slippage equity filters = .ok realized)
    (hq : plan.quantity = some q) (hpos : 0 < q) (happroved : realized.approved = true) :
    realized.Realized fill d := by
  rcases buildRealizedPlan_assessed h hq happroved with ⟨raw, target, hbasis, rfl⟩
  -- the planned risk is positive, so the net ratio was computed
  have hrisk : 0 < q * lossPerUnit fill (fill * (1 - d)) fee slippage :=
    mul_pos hpos hbasis.lossPos
  constructor <;> simp [revalidatedPlan, hrisk]

/-- Whether re-validating an approved plan raises depends on the fill price and the rates only. -/
theorem buildRealizedPlan_returns {plan plan' realized : RiskRewardPlan}
    {q' fill d fee slippage equity : ℚ} {filters : SymbolFilters} {context : DecimalContext}
    (h : buildRealizedPlan plan fill d fee slippage equity filters context = .ok realized)
    (happroved' : plan'.approved = true) (hquantity' : plan'.quantity = some q') (equity' : ℚ) :
    ∃ realized',
      buildRealizedPlan plan' fill d fee slippage equity' filters context = .ok realized' := by
  cases hresult : buildRealizedPlan plan' fill d fee slippage equity' filters context with
  | ok realized' => exact ⟨realized', rfl⟩
  | error e =>
      have hraises := (buildRealizedPlan_eq_error_iff happroved' hquantity').1 hresult
      cases happroved : plan.approved with
      | false =>
          simp [buildRealizedPlan, happroved] at h
      | true =>
          cases hquantity : plan.quantity with
          | none =>
              simp [buildRealizedPlan, happroved, hquantity] at h
          | some q =>
              -- the same prices raise for the first plan as well
              rw [(buildRealizedPlan_eq_error_iff happroved hquantity).2 hraises] at h
              cases h

end TradingAgent
