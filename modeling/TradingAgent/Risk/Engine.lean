import TradingAgent.Core.Config
import TradingAgent.Sizing.Filters

/-!
# Risk engine — the gates every proposed trade passes

`risk/limits.py` and `risk/engine.py`.  `RiskEngine.evaluate` is the only gate between a sized
signal and the order validator; `evaluate_buy_approved` says everything an approved BUY satisfies.
-/

namespace TradingAgent

structure RiskContext where
  equity : ℚ
  quoteBalance : ℚ
  tradesToday : ℕ
  cooldownBarsRemaining : ℕ
  dailyRealizedPnlPct : ℚ
  currentDrawdownPct : ℚ
  dataAgeSeconds : ℚ
  consecutiveApiErrors : ℕ
  killSwitchEngaged : Bool
  isDuplicateOrder : Bool
  reconciliationBlocked : Bool := false
  deriving DecidableEq, Repr

/-- How far the equity has fallen below its peak, as a fraction of the peak. -/
def drawdownPct [CurrentContext] (peakEquity equity : ℚ) : ℚ :=
  if peakEquity > 0 then decimal.div (decimal.sub peakEquity equity) peakEquity else 0

theorem drawdownPct_eq (peakEquity equity : ℚ) :
    drawdownPct peakEquity equity =
      if peakEquity > 0 then (peakEquity - equity) / peakEquity else 0 := rfl

structure RiskDecision where
  approved : Bool
  reasonCode : ReasonCode
  deriving DecidableEq, Repr

structure RiskEngine where
  config : RiskConfig
  deriving DecidableEq

namespace RiskEngine

def checkUniversalGates (engine : RiskEngine) (context : RiskContext) : Option RiskDecision :=
  if context.killSwitchEngaged then some ⟨false, .killSwitchEngaged⟩
  else if context.consecutiveApiErrors ≥ engine.config.maxConsecutiveApiErrors then
    some ⟨false, .consecutiveApiErrorShutdown⟩
  else if context.dataAgeSeconds > engine.config.staleDataMaxAgeSeconds then
    some ⟨false, .staleData⟩
  else if context.isDuplicateOrder then some ⟨false, .duplicateOrderBlocked⟩
  else if context.reconciliationBlocked then
    some ⟨false, .reconciliationDiscrepancyBlocksAllOrders⟩
  else none

def checkBuyGates (engine : RiskEngine) (intent : TradeIntent) (context : RiskContext)
    (arithmetic : DecimalContext := .exact) : RiskDecision :=
  if context.currentDrawdownPct ≥ engine.config.maxDrawdownPct then ⟨false, .maxDrawdownShutdown⟩
  else if context.dailyRealizedPnlPct ≤ -engine.config.maxDailyLossPct then
    ⟨false, .maxDailyLossShutdown⟩
  else if context.tradesToday ≥ engine.config.maxTradesPerDay then
    ⟨false, .maxTradesPerDayReached⟩
  else if context.cooldownBarsRemaining > 0 then ⟨false, .cooldownAfterLossActive⟩
  else if context.quoteBalance < engine.config.minQuoteBalance then ⟨false, .belowMinQuoteBalance⟩
  else if context.equity ≤ 0 then ⟨false, .invalidEquity⟩
  else
    let notional := arithmetic.mul intent.quantity intent.price
    let positionPct := arithmetic.div notional context.equity
    if positionPct > engine.config.maxPositionPct then ⟨false, .exceedsMaxPositionPct⟩
    else ⟨true, .approved⟩

def evaluate (engine : RiskEngine) (intent : TradeIntent) (context : RiskContext)
    (arithmetic : DecimalContext := .exact) : RiskDecision :=
  match engine.checkUniversalGates context with
  | some decision => decision
  | none =>
      match intent.signalType with
      | .exit => ⟨true, .approvedExitAlwaysAllowed⟩
      | .buy => engine.checkBuyGates intent context arithmetic

/-- The conditions an approved BUY satisfies. -/
structure BuyGatesOpen (config : RiskConfig) (intent : TradeIntent) (context : RiskContext)
    (arithmetic : DecimalContext := .exact) : Prop where
  drawdown : context.currentDrawdownPct < config.maxDrawdownPct
  dailyLoss : -config.maxDailyLossPct < context.dailyRealizedPnlPct
  trades : context.tradesToday < config.maxTradesPerDay
  cooldown : context.cooldownBarsRemaining = 0
  quote : config.minQuoteBalance ≤ context.quoteBalance
  equity : 0 < context.equity
  position : arithmetic.div (arithmetic.mul intent.quantity intent.price) context.equity ≤
    config.maxPositionPct

/-- In exact arithmetic the notional is within its share of the equity. -/
theorem BuyGatesOpen.notional_le {config : RiskConfig} {intent : TradeIntent}
    {context : RiskContext} (h : BuyGatesOpen config intent context) :
    intent.quantity * intent.price ≤ config.maxPositionPct * context.equity :=
  (div_le_iff₀ h.equity).1 h.position

theorem checkBuyGates_approved {engine : RiskEngine} {intent : TradeIntent} {context : RiskContext}
    {arithmetic : DecimalContext}
    (h : (engine.checkBuyGates intent context arithmetic).approved = true) :
    BuyGatesOpen engine.config intent context arithmetic := by
  unfold checkBuyGates at h
  split at h
  · cases h
  rename_i hdrawdown
  split at h
  · cases h
  rename_i hloss
  split at h
  · cases h
  rename_i htrades
  split at h
  · cases h
  rename_i hcooldown
  split at h
  · cases h
  rename_i hquote
  split at h
  · cases h
  rename_i hequity
  simp only at h
  split at h
  · cases h
  rename_i hposition
  exact ⟨not_le.1 hdrawdown, not_le.1 hloss, not_le.1 htrades, Nat.eq_zero_of_not_pos hcooldown,
    not_lt.1 hquote, not_le.1 hequity, not_lt.1 hposition⟩

/-- A universal gate only ever rejects. -/
theorem checkUniversalGates_rejects {engine : RiskEngine} {context : RiskContext}
    {decision : RiskDecision} (h : engine.checkUniversalGates context = some decision) :
    decision.approved = false := by
  unfold checkUniversalGates at h
  repeat' split at h
  all_goals first | (cases h; rfl) | cases h

/-- Nothing is approved twice: an approved intent is not a duplicate. -/
theorem evaluate_approved_not_duplicate {engine : RiskEngine} {intent : TradeIntent}
    {context : RiskContext} {arithmetic : DecimalContext}
    (h : (engine.evaluate intent context arithmetic).approved = true) :
    context.isDuplicateOrder = false := by
  unfold evaluate at h
  split at h
  · rename_i decision hgate
    have hrejected := checkUniversalGates_rejects hgate
    simp [hrejected] at h
  · rename_i hgate
    cases hduplicate : context.isDuplicateOrder with
    | false => rfl
    | true =>
        unfold checkUniversalGates at hgate
        repeat' split at hgate
        all_goals simp_all

/-- Everything an approved BUY satisfies. -/
theorem evaluate_buy_approved {engine : RiskEngine} {intent : TradeIntent} {context : RiskContext}
    {arithmetic : DecimalContext} (hbuy : intent.signalType = .buy)
    (h : (engine.evaluate intent context arithmetic).approved = true) :
    BuyGatesOpen engine.config intent context arithmetic := by
  unfold evaluate at h
  split at h
  · rename_i decision hgate
    have hrejected := checkUniversalGates_rejects hgate
    simp [hrejected] at h
  · rw [hbuy] at h
    exact checkBuyGates_approved h

/-- No universal gate closes. -/
structure UniversalGatesOpen (config : RiskConfig) (context : RiskContext) : Prop where
  killSwitch : context.killSwitchEngaged = false
  apiErrors : context.consecutiveApiErrors < config.maxConsecutiveApiErrors
  fresh : context.dataAgeSeconds ≤ config.staleDataMaxAgeSeconds
  notDuplicate : context.isDuplicateOrder = false
  reconciled : context.reconciliationBlocked = false

theorem checkUniversalGates_eq_none_iff {engine : RiskEngine} {context : RiskContext} :
    engine.checkUniversalGates context = none ↔ UniversalGatesOpen engine.config context := by
  constructor
  · intro h
    unfold checkUniversalGates at h
    split at h
    · cases h
    rename_i hkill
    split at h
    · cases h
    rename_i herrors
    split at h
    · cases h
    rename_i hage
    split at h
    · cases h
    rename_i hduplicate
    split at h
    · cases h
    rename_i hblocked
    exact ⟨by simpa using hkill, not_le.1 herrors, not_lt.1 hage, by simpa using hduplicate,
      by simpa using hblocked⟩
  · intro h
    simp [checkUniversalGates, h.killSwitch, not_le.2 h.apiErrors, not_lt.2 h.fresh,
      h.notDuplicate, h.reconciled]

/-- An EXIT is approved when no universal gate closes. -/
theorem evaluate_exit_approved_iff {engine : RiskEngine} {intent : TradeIntent}
    {context : RiskContext} (hexit : intent.signalType = .exit) :
    (engine.evaluate intent context).approved = true ↔
      UniversalGatesOpen engine.config context := by
  rw [← checkUniversalGates_eq_none_iff]
  cases hgate : engine.checkUniversalGates context with
  | some decision => simp [evaluate, hgate, checkUniversalGates_rejects hgate]
  | none => simp [evaluate, hgate, hexit]

end RiskEngine

end TradingAgent
