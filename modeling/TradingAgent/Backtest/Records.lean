import TradingAgent.Backtest.RiskReward
import TradingAgent.Core.Config
import TradingAgent.Library.KeyedTable
import TradingAgent.Portfolio.State

/-!
# Backtest records — simulated fills, trades and the loop's own state

* `BacktestBroker` is `execution/backtest_broker.py`;
* `Trade`, `EquityPoint` and the diagnostics are `metrics/performance.py` and
  `metrics/diagnostics.py`;
* `OpenTrade`, `LoopState` and `DiagBuilder` are the private records of `backtest/engine.py`.
-/

namespace TradingAgent

/-! ## Simulated fills -/

structure SimulatedFill where
  fillPrice : ℚ
  feeQuote : ℚ
  deriving DecidableEq, Repr

structure BacktestBroker where
  takerFeePct : ℚ
  slippagePct : ℚ
  deriving DecidableEq, Repr

namespace BacktestBroker

def ofFees (fees : FeesConfig) : BacktestBroker :=
  ⟨fees.takerFeePct, fees.slippagePct⟩

def simulateBuy (broker : BacktestBroker) (quantity price : ℚ)
    (context : DecimalContext := .exact) : SimulatedFill :=
  let fillPrice := context.mul price (context.add 1 broker.slippagePct)
  ⟨fillPrice, context.mul (context.mul quantity fillPrice) broker.takerFeePct⟩

def simulateSell (broker : BacktestBroker) (quantity price : ℚ)
    (context : DecimalContext := .exact) : SimulatedFill :=
  let fillPrice := context.mul price (context.sub 1 broker.slippagePct)
  ⟨fillPrice, context.mul (context.mul quantity fillPrice) broker.takerFeePct⟩

end BacktestBroker

/-! ## Trades and equity points -/

inductive ExitReason where
  | strategyExit
  | stopLoss
  | takeProfit
  deriving DecidableEq, Repr

structure Trade where
  entryTimeMs : ℤ
  exitTimeMs : ℤ
  entryPrice : ℚ
  exitPrice : ℚ
  quantity : ℚ
  feesPaid : ℚ
  pnlQuote : ℚ
  exitReason : ExitReason
  entryFeeQuote : ℚ
  exitFeeQuote : ℚ
  entryReferencePrice : ℚ
  exitReferencePrice : ℚ
  deriving DecidableEq, Repr

structure EquityPoint where
  timestampMs : ℤ
  equity : ℚ
  inPosition : Bool
  deriving DecidableEq, Repr

structure OpenTrade where
  entryTimeMs : ℤ
  entryPrice : ℚ
  quantity : ℚ
  entryFee : ℚ
  entryReferencePrice : ℚ
  realizedPlan : Option RiskRewardPlan := none
  deriving DecidableEq, Repr

structure PortfolioSnapshot where
  cashQuote : ℚ
  baseQuantity : ℚ
  openTrade : Option OpenTrade
  deriving DecidableEq, Repr

structure OpenPositionInfo where
  entryTimeMs : ℤ
  entryPrice : ℚ
  entryReferencePrice : ℚ
  quantity : ℚ
  entryFeeQuote : ℚ
  deriving DecidableEq, Repr

def openTradeToInfo (openTrade : OpenTrade) : OpenPositionInfo where
  entryTimeMs := openTrade.entryTimeMs
  entryPrice := openTrade.entryPrice
  entryReferencePrice := openTrade.entryReferencePrice
  quantity := openTrade.quantity
  entryFeeQuote := openTrade.entryFee

/-! ## The loop's state -/

structure LoopState where
  portfolio : PortfolioState
  openTrade : Option OpenTrade
  stopPrice : Option ℚ
  tradesToday : ℕ
  dailyRealizedPnlPct : ℚ
  dailyStartEquity : ℚ
  cooldownBarsRemaining : ℕ
  targetPrice : Option ℚ := none
  deriving DecidableEq, Repr

/-- The diagnostics accumulator of one `run_segment` call. -/
structure DiagBuilder where
  buySignalsGenerated : ℕ := 0
  exitSignalsGenerated : ℕ := 0
  executedEntries : ℕ := 0
  rejectedEntriesByReason : Dict ReasonCode ℕ := []
  shutdownFirstActivation : Dict ReasonCode (ℤ × ℚ × ℚ) := []
  shutdownLastActive : Dict ReasonCode ℤ := []
  lastApprovedBuyTimeMs : Option ℤ := none
  rrEntriesApproved : ℕ := 0
  rrRejectedNetRrBelowMinimum : ℕ := 0
  rrRejectedExchangeFilter : ℕ := 0
  rrRejectedPostFillRevalidation : ℕ := 0
  rrGapLossesExceedingPlannedRisk : ℕ := 0
  rrPlannedRiskQuoteTotal : ℚ := 0
  rrPlannedRewardQuoteTotal : ℚ := 0
  rrPlannedRiskPctValues : List ℚ := []
  rrPlannedRewardPctValues : List ℚ := []
  rrGrossRewardToRiskValues : List ℚ := []
  rrNetRewardToRiskValues : List ℚ := []
  rrPlannedRiskQuoteValues : List ℚ := []
  rrPlannedRewardQuoteValues : List ℚ := []
  deriving DecidableEq, Repr

namespace DiagBuilder

def recordRejectedEntry (diag : DiagBuilder) (reasonCode : ReasonCode) : DiagBuilder :=
  { diag with
    rejectedEntriesByReason :=
      diag.rejectedEntriesByReason.set reasonCode
        (diag.rejectedEntriesByReason.getD reasonCode 0 + 1) }

def recordRiskGateRejection (diag : DiagBuilder) (reasonCode : ReasonCode) (timeMs : ℤ)
    (equity drawdownPct : ℚ) : DiagBuilder :=
  let diag := diag.recordRejectedEntry reasonCode
  { diag with
    shutdownFirstActivation :=
      if diag.shutdownFirstActivation.contains reasonCode then diag.shutdownFirstActivation
      else diag.shutdownFirstActivation.set reasonCode (timeMs, equity, drawdownPct)
    shutdownLastActive := diag.shutdownLastActive.set reasonCode timeMs }

/-- The figures of one filled entry's plan, appended to the per-entry lists. -/
def recordRealizedPlan [CurrentContext] (diag : DiagBuilder) (plan : RiskRewardPlan) : DiagBuilder :=
  { diag with
    rrEntriesApproved := diag.rrEntriesApproved + 1
    rrPlannedRiskQuoteTotal :=
      decimal.add diag.rrPlannedRiskQuoteTotal (plan.plannedRiskQuote.getD 0)
    rrPlannedRewardQuoteTotal :=
      decimal.add diag.rrPlannedRewardQuoteTotal (plan.plannedRewardQuote.getD 0)
    rrPlannedRiskPctValues := diag.rrPlannedRiskPctValues ++ plan.plannedRiskPct.toList
    rrPlannedRewardPctValues := diag.rrPlannedRewardPctValues ++ plan.plannedRewardPct.toList
    rrGrossRewardToRiskValues := diag.rrGrossRewardToRiskValues ++ plan.grossRewardToRisk.toList
    rrNetRewardToRiskValues := diag.rrNetRewardToRiskValues ++ plan.netRewardToRisk.toList
    rrPlannedRiskQuoteValues := diag.rrPlannedRiskQuoteValues ++ plan.plannedRiskQuote.toList
    rrPlannedRewardQuoteValues :=
      diag.rrPlannedRewardQuoteValues ++ plan.plannedRewardQuote.toList }

/-- The bookkeeping of one executed entry. -/
def recordExecutedEntry (diag : DiagBuilder) (timeMs : ℤ) : DiagBuilder :=
  { diag with
    executedEntries := diag.executedEntries + 1
    lastApprovedBuyTimeMs := some timeMs }

end DiagBuilder

/-! ## The diagnostics of a finished run -/

structure ShutdownActivation where
  reasonCode : ReasonCode
  firstActivatedTimeMs : ℤ
  equityAtActivation : ℚ
  drawdownPctAtActivation : ℚ
  lastActiveTimeMs : ℤ
  blockedBuyCount : ℕ
  remainedLatchedToEnd : Bool
  durationMs : ℤ
  deriving DecidableEq, Repr

structure RunDiagnostics where
  buySignalsGenerated : ℕ
  exitSignalsGenerated : ℕ
  unexecutedSignals : ℕ
  executedEntries : ℕ
  executedStrategyExits : ℕ
  executedStopLossExits : ℕ
  executedTakeProfitExits : ℕ
  rejectedEntriesByReason : Dict ReasonCode ℕ
  firstExecutedTradeTimeMs : Option ℤ
  lastExecutedTradeTimeMs : Option ℤ
  maxDrawdownPct : ℚ
  maxDrawdownTimeMs : Option ℤ
  shutdownActivations : Dict ReasonCode ShutdownActivation
  startingEquity : ℚ
  endingEquity : ℚ
  endingCashQuote : ℚ
  endingBaseQuantity : ℚ
  endsWithOpenPosition : Bool
  deriving DecidableEq, Repr

structure RiskRewardDiagnostics where
  entriesApproved : ℕ
  entriesRejectedNetRrBelowMinimum : ℕ
  entriesRejectedExchangeFilterWithinRiskBudget : ℕ
  entriesRejectedPostFillRevalidation : ℕ
  stopLossExits : ℕ
  takeProfitExits : ℕ
  gapLossesExceedingPlannedRisk : ℕ
  plannedRiskQuoteTotal : ℚ
  plannedRewardQuoteTotal : ℚ
  plannedRiskPctValues : List ℚ
  plannedRewardPctValues : List ℚ
  grossRewardToRiskValues : List ℚ
  netRewardToRiskValues : List ℚ
  plannedRiskQuoteValues : List ℚ
  plannedRewardQuoteValues : List ℚ
  deriving DecidableEq, Repr

structure SegmentRunResult where
  trades : List Trade
  equityCurve : List EquityPoint
  endsWithOpenPosition : Bool
  pendingSignalNote : Option String
  diagnostics : RunDiagnostics
  openPosition : Option OpenPositionInfo
  portfolioSnapshots : List PortfolioSnapshot
  riskReward : Option RiskRewardDiagnostics
  deriving DecidableEq, Repr

end TradingAgent
