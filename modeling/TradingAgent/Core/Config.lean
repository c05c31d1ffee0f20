import Mathlib.Algebra.Order.Ring.Star
import Mathlib.Data.Rat.Star
import Mathlib.Tactic.NormNum

/-!
# Config — the validated configuration models

`config/models.py`.  The constraints pydantic checks are fields of the structures, so a value of
one of these types is a configuration the validation accepts.
-/

namespace TradingAgent

structure MarketConfig where
  symbol : String := "BTCUSDT"
  interval : String := "4h"
  deriving DecidableEq

@[simp] def MarketConfig.default : MarketConfig := {}

structure SizingConfig where
  maxAllocationPct : ℚ := 9 / 10
  minQuoteBuffer : ℚ := 5
  maxAllocationPctPos : 0 < maxAllocationPct := by norm_num
  maxAllocationPctLe : maxAllocationPct ≤ 1 := by norm_num
  minQuoteBufferNonneg : 0 ≤ minQuoteBuffer := by norm_num
  deriving DecidableEq

@[simp] def SizingConfig.default : SizingConfig := {}

structure FeesConfig where
  takerFeePct : ℚ := 1 / 1000
  makerFeePct : ℚ := 1 / 1000
  slippagePct : ℚ := 5 / 10000
  takerFeePctNonneg : 0 ≤ takerFeePct := by norm_num
  makerFeePctNonneg : 0 ≤ makerFeePct := by norm_num
  slippagePctNonneg : 0 ≤ slippagePct := by norm_num
  deriving DecidableEq

@[simp] def FeesConfig.default : FeesConfig := {}

structure RiskConfig where
  maxPositionPct : ℚ := 9 / 10
  maxRiskPerTradePct : ℚ := 9 / 10
  maxDailyLossPct : ℚ := 5 / 100
  maxDrawdownPct : ℚ := 15 / 100
  maxTradesPerDay : ℕ := 4
  cooldownBarsAfterLoss : ℕ := 2
  staleDataMaxAgeSeconds : ℕ := 21600
  minQuoteBalance : ℚ := 5
  maxConsecutiveApiErrors : ℕ := 3
  maxPositionPctPos : 0 < maxPositionPct := by norm_num
  maxPositionPctLe : maxPositionPct ≤ 1 := by norm_num
  maxRiskPerTradePctPos : 0 < maxRiskPerTradePct := by norm_num
  maxRiskPerTradePctLe : maxRiskPerTradePct ≤ 1 := by norm_num
  maxDailyLossPctPos : 0 < maxDailyLossPct := by norm_num
  maxDailyLossPctLe : maxDailyLossPct ≤ 1 := by norm_num
  maxDrawdownPctPos : 0 < maxDrawdownPct := by norm_num
  maxDrawdownPctLe : maxDrawdownPct ≤ 1 := by norm_num
  maxTradesPerDayPos : 0 < maxTradesPerDay := by norm_num
  staleDataMaxAgeSecondsPos : 0 < staleDataMaxAgeSeconds := by norm_num
  minQuoteBalanceNonneg : 0 ≤ minQuoteBalance := by norm_num
  maxConsecutiveApiErrorsPos : 0 < maxConsecutiveApiErrors := by norm_num
  deriving DecidableEq

@[simp] def RiskConfig.default : RiskConfig := {}

structure StopLossConfig where
  stopDistancePct : ℚ := 5 / 100
  stopDistancePctPos : 0 < stopDistancePct := by norm_num
  stopDistancePctLt : stopDistancePct < 1 := by norm_num
  deriving DecidableEq

@[simp] def StopLossConfig.default : StopLossConfig := {}

inductive GapPolicy where
  | reject
  | segment
  deriving DecidableEq, Repr

structure BacktestConfig where
  startingEquity : ℚ := 50
  gapPolicy : GapPolicy := .segment
  startingEquityPos : 0 < startingEquity := by norm_num
  deriving DecidableEq

@[simp] def BacktestConfig.default : BacktestConfig := {}

structure AppConfig where
  market : MarketConfig := .default
  sizing : SizingConfig := .default
  fees : FeesConfig := .default
  risk : RiskConfig := .default
  stopLoss : StopLossConfig := .default
  backtest : BacktestConfig := .default
  deriving DecidableEq

end TradingAgent
