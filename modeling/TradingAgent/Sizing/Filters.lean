import TradingAgent.Core.Market
import TradingAgent.Library.StepGrid

/-!
# Filters — exchange filters, position sizing and order validation

`sizing/exchange_filters.py`, `sizing/position_sizer.py` and `execution/order_validator.py`, each
in the arithmetic context it is given.

* Every rounding of a quantity goes through `roundDownToStep`: a division, a product and a
  `quantize`, the first of which can round up and the last of which can raise;
* in exact arithmetic it is `StepGrid.roundDown` (`roundDownToStep_exact`), so a rounded quantity
  never exceeds the raw one and rounding it again changes nothing;
* `roundDownToStep_significant` is what it is with finitely many digits.
-/

namespace TradingAgent

/-! ## Reason codes -/

/-- The reason codes of sizing, validation, the risk engine and the risk/reward policy. -/
inductive ReasonCode where
  | invalidPrice
  | invalidEquity
  | invalidStopDistance
  | belowMinLotSize
  | belowMinNotional
  | sizedOk
  | noSellableQuantity
  | symbolMismatch
  | zeroQuantityAfterRounding
  | validated
  | killSwitchEngaged
  | consecutiveApiErrorShutdown
  | staleData
  | duplicateOrderBlocked
  | reconciliationDiscrepancyBlocksAllOrders
  | approvedExitAlwaysAllowed
  | maxDrawdownShutdown
  | maxDailyLossShutdown
  | maxTradesPerDayReached
  | cooldownAfterLossActive
  | belowMinQuoteBalance
  | exceedsMaxPositionPct
  | approved
  | rrApproved
  | rrRejectedInvalidPrice
  | rrRejectedInvalidEquity
  | rrRejectedInsufficientQuoteBalance
  | rrRejectedInvalidStopDistance
  | rrRejectedBelowMinLotSize
  | rrRejectedBelowMinNotional
  | rrRejectedInvalidTarget
  | rrRejectedNetRewardToRiskBelowMinimum
  | rrRejectedPostFillRevalidationFailed
  deriving DecidableEq, Repr

def ReasonCode.text : ReasonCode → String
  | .invalidPrice => "INVALID_PRICE"
  | .invalidEquity => "INVALID_EQUITY"
  | .invalidStopDistance => "INVALID_STOP_DISTANCE"
  | .belowMinLotSize => "BELOW_MIN_LOT_SIZE"
  | .belowMinNotional => "BELOW_MIN_NOTIONAL"
  | .sizedOk => "SIZED_OK"
  | .noSellableQuantity => "NO_SELLABLE_QUANTITY"
  | .symbolMismatch => "SYMBOL_MISMATCH"
  | .zeroQuantityAfterRounding => "ZERO_QUANTITY_AFTER_ROUNDING"
  | .validated => "VALIDATED"
  | .killSwitchEngaged => "KILL_SWITCH_ENGAGED"
  | .consecutiveApiErrorShutdown => "CONSECUTIVE_API_ERROR_SHUTDOWN"
  | .staleData => "STALE_DATA"
  | .duplicateOrderBlocked => "DUPLICATE_ORDER_BLOCKED"
  | .reconciliationDiscrepancyBlocksAllOrders => "RECONCILIATION_DISCREPANCY_BLOCKS_ALL_ORDERS"
  | .approvedExitAlwaysAllowed => "APPROVED_EXIT_ALWAYS_ALLOWED"
  | .maxDrawdownShutdown => "MAX_DRAWDOWN_SHUTDOWN"
  | .maxDailyLossShutdown => "MAX_DAILY_LOSS_SHUTDOWN"
  | .maxTradesPerDayReached => "MAX_TRADES_PER_DAY_REACHED"
  | .cooldownAfterLossActive => "COOLDOWN_AFTER_LOSS_ACTIVE"
  | .belowMinQuoteBalance => "BELOW_MIN_QUOTE_BALANCE"
  | .exceedsMaxPositionPct => "EXCEEDS_MAX_POSITION_PCT"
  | .approved => "APPROVED"
  | .rrApproved => "RR_APPROVED"
  | .rrRejectedInvalidPrice => "RR_REJECTED_INVALID_PRICE"
  | .rrRejectedInvalidEquity => "RR_REJECTED_INVALID_EQUITY"
  | .rrRejectedInsufficientQuoteBalance => "RR_REJECTED_INSUFFICIENT_QUOTE_BALANCE"
  | .rrRejectedInvalidStopDistance => "RR_REJECTED_INVALID_STOP_DISTANCE"
  | .rrRejectedBelowMinLotSize => "RR_REJECTED_BELOW_MIN_LOT_SIZE"
  | .rrRejectedBelowMinNotional => "RR_REJECTED_BELOW_MIN_NOTIONAL"
  | .rrRejectedInvalidTarget => "RR_REJECTED_INVALID_TARGET"
  | .rrRejectedNetRewardToRiskBelowMinimum => "RR_REJECTED_NET_REWARD_TO_RISK_BELOW_MINIMUM"
  | .rrRejectedPostFillRevalidationFailed => "RR_REJECTED_POST_FILL_REVALIDATION_FAILED"

/-! ## Exchange filters -/

/-- A `Decimal` is a multiple of the power of ten of its exponent, which `quantize` rounds to. -/
structure SymbolFilters where
  symbol : String
  tickSize : ℚ
  minPrice : ℚ
  maxPrice : ℚ
  stepSize : ℚ
  minQty : ℚ
  maxQty : ℚ
  minNotional : ℚ
  maxNotional : Option ℚ
  applyMinNotionalToMarket : Bool
  tickExponent : ℤ := -8
  stepExponent : ℤ := -8
  tickScaled : (tickSize / 10 ^ tickExponent).isInt = true := by decide +kernel
  stepScaled : (stepSize / 10 ^ stepExponent).isInt = true := by decide +kernel
  deriving DecidableEq, Repr

/-- The steps of a rounded quantity, taken toward zero. -/
def wholeSteps (value step : ℚ) (context : DecimalContext := .exact) : ℤ :=
  StepGrid.truncate (context.div value step)

/-- `Decimal.quantize`. -/
def quantize (value : ℚ) (exponent : ℤ) (toIntegral : ℚ → ℤ) (context : DecimalContext := .exact) :
    Except PyError ℚ :=
  match context.quantize value exponent toIntegral with
  | some quantized => .ok quantized
  | none => .error .invalidOperation

def roundDownToStep (value step : ℚ) (exponent : ℤ) (context : DecimalContext := .exact) :
    Except PyError ℚ :=
  if step = 0 then .ok value
  else
    let steps := wholeSteps value step context
    let result := context.mul steps step
    quantize result exponent StepGrid.truncate context

def roundQuantity (quantity : ℚ) (filters : SymbolFilters) (context : DecimalContext := .exact) :
    Except PyError ℚ :=
  roundDownToStep quantity filters.stepSize filters.stepExponent context

def meetsMinNotional (price quantity : ℚ) (filters : SymbolFilters)
    (context : DecimalContext := .exact) : Bool :=
  if !filters.applyMinNotionalToMarket then true
  else decide (context.mul price quantity ≥ filters.minNotional)

def meetsLotSize (quantity : ℚ) (filters : SymbolFilters) : Bool :=
  if quantity < filters.minQty then false
  else !(decide (filters.maxQty ≠ 0) && decide (quantity > filters.maxQty))

section Rounding

variable {value step : ℚ} {exponent : ℤ}

theorem quantize_eq_error {toIntegral : ℚ → ℤ} {context : DecimalContext} {e : PyError}
    (h : quantize value exponent toIntegral context = .error e) : e = .invalidOperation := by
  unfold quantize at h
  split at h
  · cases h
  · cases h
    rfl

theorem exists_scaled (h : (step / 10 ^ exponent).isInt = true) :
    ∃ m : ℤ, step = m * 10 ^ exponent := by
  refine ⟨(step / 10 ^ exponent).num, ?_⟩
  rw [← Rat.eq_num_of_isInt h]
  exact (div_mul_cancel₀ step (DecimalContext.ten_zpow_pos exponent).ne').symm

theorem wholeSteps_mul {m : ℤ} (hm : step = m * 10 ^ exponent) (steps : ℤ) :
    (steps : ℚ) * step = ((steps * m : ℤ) : ℚ) * 10 ^ exponent := by
  rw [hm]
  push_cast
  ring

/-- In exact arithmetic rounding never fails. -/
theorem roundDownToStep_exact (h : (step / 10 ^ exponent).isInt = true) (value : ℚ) :
    roundDownToStep value step exponent = .ok (StepGrid.roundDown step value) := by
  by_cases hstep : step = 0
  · simp [roundDownToStep, StepGrid.roundDown, hstep]
  rcases exists_scaled h with ⟨m, hm⟩
  have hquantized : DecimalContext.exact.quantize (wholeSteps value step * step) exponent
      StepGrid.truncate = some ((wholeSteps value step : ℚ) * step) := by
    rw [wholeSteps_mul hm]
    exact DecimalContext.quantize_exact_mul _ _ StepGrid.truncate_intCast
  rw [roundDownToStep, if_neg hstep, StepGrid.roundDown, if_neg hstep]
  simp only [quantize, DecimalContext.exact_mul, hquantized]
  rfl

/-- With `n + 1` digits a whole number of steps is quantized to itself, or it is too long. -/
theorem quantize_steps (h : (step / 10 ^ exponent).isInt = true) (n : ℕ) (steps : ℤ)
    {toIntegral : ℚ → ℤ} (hintegral : ∀ k : ℤ, toIntegral k = k) :
    quantize ((DecimalContext.significant (n + 1)).mul steps step) exponent toIntegral
        (.significant (n + 1)) =
      if |steps * step| < 10 ^ (n + 1) * 10 ^ exponent then .ok (steps * step)
      else .error .invalidOperation := by
  rcases exists_scaled h with ⟨m, hm⟩
  have hunit := DecimalContext.ten_zpow_pos exponent
  have hshort : |(steps : ℚ) * step| < 10 ^ (n + 1) * 10 ^ exponent ↔
      |steps * m| < 10 ^ (n + 1) := by
    rw [wholeSteps_mul hm, abs_mul, abs_of_pos hunit, mul_lt_mul_iff_left₀ hunit]
    exact_mod_cast Iff.rfl
  simp only [hshort]
  rw [quantize, DecimalContext.mul, wholeSteps_mul hm,
    DecimalContext.quantize_significant_mul _ _ _ hintegral]
  split_ifs <;> rfl

/-- With `n + 1` digits a rounded quantity is a whole number of steps, or it is too long. -/
theorem roundDownToStep_significant (h : (step / 10 ^ exponent).isInt = true) (hstep : step ≠ 0)
    (n : ℕ) (value : ℚ) :
    roundDownToStep value step exponent (.significant (n + 1)) =
      if |wholeSteps value step (.significant (n + 1)) * step| < 10 ^ (n + 1) * 10 ^ exponent then
        .ok (wholeSteps value step (.significant (n + 1)) * step)
      else .error .invalidOperation := by
  rw [roundDownToStep, if_neg hstep]
  exact quantize_steps h n _ StepGrid.truncate_intCast

end Rounding

section RoundQuantity

variable {quantity rounded : ℚ} {filters : SymbolFilters}

theorem roundQuantity_eq_error {context : DecimalContext} {e : PyError}
    (h : roundQuantity quantity filters context = .error e) : e = .invalidOperation := by
  unfold roundQuantity roundDownToStep at h
  split at h
  · cases h
  · exact quantize_eq_error h

@[simp] theorem roundQuantity_exact (quantity : ℚ) (filters : SymbolFilters) :
    roundQuantity quantity filters = .ok (StepGrid.roundDown filters.stepSize quantity) :=
  roundDownToStep_exact filters.stepScaled quantity

theorem roundQuantity_eq_ok (h : roundQuantity quantity filters = .ok rounded) :
    rounded = StepGrid.roundDown filters.stepSize quantity := by
  rw [roundQuantity_exact] at h
  exact (Except.ok.inj h).symm

/-- Rounding what was rounded changes nothing. -/
theorem roundQuantity_rounded (h : roundQuantity quantity filters = .ok rounded) :
    roundQuantity rounded filters = .ok rounded := by
  rw [roundQuantity_exact, roundQuantity_eq_ok h, StepGrid.roundDown_roundDown]

/-- A quantity that is still positive after rounding was not enlarged by it. -/
theorem roundQuantity_le_of_pos (h : roundQuantity quantity filters = .ok rounded)
    (hpos : 0 < rounded) : rounded ≤ quantity := by
  rw [roundQuantity_eq_ok h] at hpos ⊢
  exact StepGrid.roundDown_le (StepGrid.pos_of_roundDown_pos hpos).le

end RoundQuantity

/-! ## Position sizing -/

structure SizingDecision where
  approved : Bool
  quantity : Option ℚ
  reasonCode : ReasonCode
  deriving DecidableEq, Repr

/-- The loss per unit an ordinary stop costs, slippage and both fees included. -/
def totalLossPerUnit (entryPrice stopPrice takerFeePct slippagePct : ℚ)
    (context : DecimalContext := .exact) : ℚ :=
  let effectiveEntry := context.mul entryPrice (context.add 1 slippagePct)
  let effectiveExit := context.mul stopPrice (context.sub 1 slippagePct)
  context.add
    (context.add (context.sub effectiveEntry effectiveExit) (context.mul effectiveEntry takerFeePct))
    (context.mul effectiveExit takerFeePct)

def computeRiskBasedBuyQuantity (equity entryPrice stopPrice maxRiskPerTradePct maxPositionPct
    takerFeePct slippagePct : ℚ) (filters : SymbolFilters) (context : DecimalContext := .exact) :
    Except PyError SizingDecision :=
  if entryPrice ≤ 0 ∨ stopPrice ≤ 0 then .ok ⟨false, none, .invalidPrice⟩
  else if equity ≤ 0 then .ok ⟨false, none, .invalidEquity⟩
  else
    let lossPerUnit := totalLossPerUnit entryPrice stopPrice takerFeePct slippagePct context
    if lossPerUnit ≤ 0 then .ok ⟨false, none, .invalidStopDistance⟩
    else do
      let riskBudget := context.mul equity maxRiskPerTradePct
      let riskBasedQuantity := context.div riskBudget lossPerUnit
      let maxNotional := context.mul equity maxPositionPct
      let positionCapQuantity := context.div maxNotional entryPrice
      let quantity ← roundQuantity (min riskBasedQuantity positionCapQuantity) filters context
      if !meetsLotSize quantity filters then .ok ⟨false, none, .belowMinLotSize⟩
      else if !meetsMinNotional entryPrice quantity filters context then
        .ok ⟨false, none, .belowMinNotional⟩
      else .ok ⟨true, some quantity, .sizedOk⟩

def computeSellQuantity (heldQuantity price : ℚ) (filters : SymbolFilters)
    (context : DecimalContext := .exact) : Except PyError SizingDecision := do
  let quantity ← roundQuantity heldQuantity filters context
  if quantity ≤ 0 ∨ quantity > heldQuantity then .ok ⟨false, none, .noSellableQuantity⟩
  else if !meetsLotSize quantity filters then .ok ⟨false, none, .belowMinLotSize⟩
  else if !meetsMinNotional price quantity filters context then
    .ok ⟨false, none, .belowMinNotional⟩
  else .ok ⟨true, some quantity, .sizedOk⟩

/-- The raw size of a risk-based buy: what the risk budget buys, and no more than the position cap
does. -/
def rawBuyQuantity (equity entryPrice stopPrice maxRiskPerTradePct maxPositionPct takerFeePct
    slippagePct : ℚ) (context : DecimalContext := .exact) : ℚ :=
  min
    (context.div (context.mul equity maxRiskPerTradePct)
      (totalLossPerUnit entryPrice stopPrice takerFeePct slippagePct context))
    (context.div (context.mul equity maxPositionPct) entryPrice)

section Sizers

variable {equity entryPrice stopPrice riskPct positionPct fee slippage held price q : ℚ}
  {filters : SymbolFilters} {context : DecimalContext} {code : ReasonCode}

/-- What an approved risk-based buy size is. -/
theorem computeRiskBasedBuyQuantity_approved
    (h : computeRiskBasedBuyQuantity equity entryPrice stopPrice riskPct positionPct fee slippage
      filters context = .ok ⟨true, some q, code⟩) :
    0 < entryPrice ∧ 0 < equity ∧ 0 < totalLossPerUnit entryPrice stopPrice fee slippage context ∧
      roundQuantity
        (rawBuyQuantity equity entryPrice stopPrice riskPct positionPct fee slippage context)
        filters context = .ok q := by
  unfold computeRiskBasedBuyQuantity at h
  split at h
  · cases h
  rename_i hprice
  split at h
  · cases h
  rename_i hequity
  dsimp only at h
  split at h
  · cases h
  rename_i hloss
  rcases exists_of_bind_ok h with ⟨quantity, hround, h⟩
  split at h
  · cases h
  split at h
  · cases h
  cases h
  exact ⟨not_le.1 fun hle => hprice (Or.inl hle), not_le.1 hequity, not_le.1 hloss, hround⟩

/-- What an approved sell size is. -/
theorem computeSellQuantity_approved
    (h : computeSellQuantity held price filters context = .ok ⟨true, some q, code⟩) :
    roundQuantity held filters context = .ok q ∧ 0 < q ∧ q ≤ held := by
  rcases exists_of_bind_ok h with ⟨quantity, hround, h⟩
  split at h
  · cases h
  rename_i hq
  split at h
  · cases h
  split at h
  · cases h
  cases h
  exact ⟨hround, not_le.1 fun hle => hq (Or.inl hle), not_lt.1 fun hlt => hq (Or.inr hlt)⟩

theorem computeRiskBasedBuyQuantity_eq_error {e : PyError}
    (h : computeRiskBasedBuyQuantity equity entryPrice stopPrice riskPct positionPct fee slippage
      filters context = .error e) : e = .invalidOperation := by
  unfold computeRiskBasedBuyQuantity at h
  split at h
  · cases h
  split at h
  · cases h
  dsimp only at h
  split at h
  · cases h
  rcases exists_of_bind_error h with hround | ⟨quantity, -, h⟩
  · exact roundQuantity_eq_error hround
  split at h
  · cases h
  split at h <;> cases h

theorem computeSellQuantity_eq_error {e : PyError}
    (h : computeSellQuantity held price filters context = .error e) : e = .invalidOperation := by
  rcases exists_of_bind_error h with hround | ⟨quantity, -, h⟩
  · exact roundQuantity_eq_error hround
  split at h
  · cases h
  split at h
  · cases h
  split at h <;> cases h

end Sizers

/-! ## Order validation -/

/-- The two signal types that may reach the risk engine: a HOLD cannot be built. -/
inductive ActionableSignal where
  | buy
  | exit
  deriving DecidableEq, Repr

def ActionableSignal.text : ActionableSignal → String
  | .buy => "buy"
  | .exit => "exit"

/-- The signal types a strategy's signal may leave pending. -/
def SignalType.actionable? : SignalType → Option ActionableSignal
  | .buy => some .buy
  | .exit => some .exit
  | .hold => none

structure TradeIntent where
  signalType : ActionableSignal
  symbol : String
  quantity : ℚ
  price : ℚ
  deriving DecidableEq, Repr

structure OrderValidationResult where
  approved : Bool
  validatedQuantity : Option ℚ
  reasonCode : ReasonCode
  deriving DecidableEq, Repr

def validateOrder (intent : TradeIntent) (filters : SymbolFilters)
    (context : DecimalContext := .exact) : Except PyError OrderValidationResult :=
  if intent.symbol ≠ filters.symbol then .ok ⟨false, none, .symbolMismatch⟩
  else do
    let quantity ← roundQuantity intent.quantity filters context
    if quantity ≤ 0 then .ok ⟨false, none, .zeroQuantityAfterRounding⟩
    else if !meetsLotSize quantity filters then .ok ⟨false, none, .belowMinLotSize⟩
    else if !meetsMinNotional intent.price quantity filters context then
      .ok ⟨false, none, .belowMinNotional⟩
    else .ok ⟨true, some quantity, .validated⟩

/-- What a validated quantity is. -/
theorem validateOrder_approved {intent : TradeIntent} {filters : SymbolFilters}
    {context : DecimalContext} {q : ℚ} {code : ReasonCode}
    (h : validateOrder intent filters context = .ok ⟨true, some q, code⟩) :
    roundQuantity intent.quantity filters context = .ok q ∧ 0 < q := by
  unfold validateOrder at h
  split at h
  · cases h
  rcases exists_of_bind_ok h with ⟨quantity, hround, h⟩
  split at h
  · cases h
  rename_i hq
  split at h
  · cases h
  split at h
  · cases h
  cases h
  exact ⟨hround, not_le.1 hq⟩

theorem validateOrder_eq_error {intent : TradeIntent} {filters : SymbolFilters}
    {context : DecimalContext} {e : PyError} (h : validateOrder intent filters context = .error e) :
    e = .invalidOperation := by
  unfold validateOrder at h
  split at h
  · cases h
  rcases exists_of_bind_error h with hround | ⟨quantity, -, h⟩
  · exact roundQuantity_eq_error hround
  split at h
  · cases h
  split at h
  · cases h
  split at h <;> cases h

end TradingAgent
