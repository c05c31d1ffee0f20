import TradingAgent.Backtest.Records
import TradingAgent.Library.Drawdown
import Mathlib.Tactic.Linarith

/-!
# Performance — the statistics of an equity curve

`metrics/performance.py`, from `EquityPoint` on: the buy-and-hold comparison and the report every
backtest, holdout and shadow run attaches to its trades and its equity curve.  A float is the number
it stands for; powers, square roots and the text of a number with three decimals are those of
`FloatMath`.

* `maxDrawdownPct_eq`: the loop of `_max_drawdown_pct` computes the deepest fall below the running
  peak;
* `computePerformanceReport_totalReturnPct` depends on the first and the last point only.
-/

namespace TradingAgent

structure FloatMath where
  power : ℚ → ℚ → ℚ
  sqrt : ℚ → ℚ
  threeDecimals : ℚ → String

def msPerYear : ℤ := 365 * 24 * 60 * 60 * 1000

/-! ## Buy and hold -/

structure BuyAndHoldReport where
  returnPct : Option ℚ
  maxDrawdownPct : Option ℚ
  startTimeMs : Option ℤ
  endTimeMs : Option ℤ
  buyFeePctApplied : ℚ
  note : String
  deriving DecidableEq, Repr

def buyAndHoldNote (math : FloatMath) (startTimeMs endTimeMs : ℤ) (buyFeePct : ℚ) : String :=
  s!"buys at the window's first candle close ({startTimeMs}) net of a " ++
    s!"{math.threeDecimals (buyFeePct * 100)}% one-time transaction cost, holds unconditionally, " ++
    s!"and marks to market at the window's last available candle close ({endTimeMs}). This range " ++
    "is never bridged across a confirmed gap - it always matches the agent report's own candle " ++
    "range exactly. A comparison across a gap-segmented backtest's separate segments is only ever " ++
    "the sum/average of independently-computed per-segment buy-and-hold figures, never one " ++
    "continuous buy-and-hold position spanning the missing candles."

/-- One more equity: the peak so far and the largest drawdown so far. -/
def drawdownPctStep (acc : ℚ × ℚ) (value : ℚ) : ℚ × ℚ :=
  let peak := max acc.1 value
  if peak > 0 then (peak, max acc.2 ((peak - value) / peak)) else (peak, acc.2)

/-- `_max_drawdown_pct`, which is called with at least one equity. -/
def maxDrawdownPct : List ℚ → ℚ
  | [] => 0
  | first :: rest => ((first :: rest).foldl drawdownPctStep (first, 0)).2 * 100

/-- `compute_buy_and_hold_report`, over candles without a gap. -/
def computeBuyAndHoldReport (math : FloatMath) (windowCandles : List Candle)
    (startingEquity buyFeePct : ℚ) : BuyAndHoldReport :=
  match windowCandles.head?, windowCandles.getLast? with
  | some first, some last =>
      if first.close ≤ 0 ∨ startingEquity ≤ 0 then
        ⟨none, none, some first.closeTimeMs, some last.closeTimeMs, buyFeePct,
          "entry price or starting equity was non-positive - buy-and-hold is undefined."⟩
      else
        let effectiveCapital := startingEquity * (1 - buyFeePct)
        let quantity := effectiveCapital / first.close
        let curve := windowCandles.map fun c => quantity * c.close
        ⟨some ((quantity * last.close / startingEquity - 1) * 100), some (maxDrawdownPct curve),
          some first.closeTimeMs, some last.closeTimeMs, buyFeePct,
          buyAndHoldNote math first.closeTimeMs last.closeTimeMs buyFeePct⟩
  | _, _ =>
      ⟨none, none, none, none, buyFeePct,
        "no candles in this window - buy-and-hold is undefined."⟩

/-! ## The report -/

structure PerformanceAssumptions where
  riskFreeRate : ℚ
  periodsPerYear : ℚ
  sortinoMinimumAcceptableReturn : ℚ
  deriving DecidableEq, Repr

structure PerformanceReport where
  tradeCount : ℕ
  totalReturnPct : ℚ
  annualizedReturnPct : Option ℚ
  maxDrawdownPct : ℚ
  volatilityPct : Option ℚ
  sharpeRatio : Option ℚ
  sortinoRatio : Option ℚ
  winRate : Option ℚ
  profitFactor : Option ℚ
  avgWinQuote : Option ℚ
  avgLossQuote : Option ℚ
  exposurePct : ℚ
  turnover : ℚ
  buyAndHoldReturnPct : Option ℚ
  lowTradeCountWarning : Bool
  startingEquity : ℚ
  endingEquity : ℚ
  strategyExitCount : ℕ
  stopLossExitCount : ℕ
  takeProfitExitCount : ℕ
  buyAndHold : Option BuyAndHoldReport
  assumptions : PerformanceAssumptions
  deriving DecidableEq, Repr

/-- `periods_per_year`, for the interval whose length is `stepMs`. -/
def periodsPerYear (stepMs : ℤ) : ℚ :=
  msPerYear / stepMs

/-- The mean of some numbers; there is none of no numbers. -/
def mean? (values : List ℚ) : Option ℚ :=
  if values = [] then none else some (values.sum / values.length)

/-- The returns from point to point, where the earlier point is positive. -/
def periodReturns (equities : List ℚ) : List ℚ :=
  ((equities.zip equities.tail).filter fun pair => 0 < pair.1).map fun pair => pair.2 / pair.1 - 1

/-- Volatility, Sharpe ratio and Sortino ratio; there are none of fewer than two returns. -/
def riskRatios (math : FloatMath) (stepMs : ℤ) (returns : List ℚ) :
    Option ℚ × Option ℚ × Option ℚ :=
  if returns.length ≥ 2 then
    let meanReturn := returns.sum / returns.length
    let squares : List ℚ := returns.map fun r => (r - meanReturn) ^ 2
    let variance := squares.sum / (returns.length - 1)
    let stdDev := math.sqrt variance
    let ppy := periodsPerYear stepMs
    let downsideSquares : List ℚ := returns.map fun r => min r 0 ^ 2
    let downsideVariance := downsideSquares.sum / downsideSquares.length
    let downsideDev := math.sqrt downsideVariance
    (some (stdDev * math.sqrt ppy * 100),
      if stdDev > 0 then some (meanReturn / stdDev * math.sqrt ppy) else none,
      if downsideDev > 0 then some (meanReturn / downsideDev * math.sqrt ppy) else none)
  else (none, none, none)

def wins (trades : List Trade) : List ℚ :=
  (trades.map Trade.pnlQuote).filter fun pnl => 0 < pnl

def losses (trades : List Trade) : List ℚ :=
  (trades.map Trade.pnlQuote).filter fun pnl => pnl < 0

/-- `compute_performance_report`, for the interval whose length is `stepMs`. -/
def computePerformanceReport (math : FloatMath) (stepMs : ℤ) (trades : List Trade)
    (equityCurve : List EquityPoint) (minTradesForSignificance : ℕ)
    (buyAndHold : Option BuyAndHoldReport) : PerformanceReport :=
  let assumptions : PerformanceAssumptions := ⟨0, periodsPerYear stepMs, 0⟩
  let buyAndHoldReturnPct := buyAndHold.bind BuyAndHoldReport.returnPct
  match equityCurve.head?, equityCurve.getLast? with
  | some first, some last =>
      let equities := equityCurve.map EquityPoint.equity
      let startingEquity := first.equity
      let endingEquity := last.equity
      let durationMs := last.timestampMs - first.timestampMs
      let years : ℚ := durationMs / msPerYear
      let ratios := riskRatios math stepMs (periodReturns equities)
      let grossProfit := (wins trades).sum
      let grossLoss := |(losses trades).sum|
      let totalNotional :=
        (trades.map fun t => t.quantity * t.entryPrice + t.quantity * t.exitPrice).sum
      let countExits := fun reason => trades.countP fun t => t.exitReason = reason
      { tradeCount := trades.length
        totalReturnPct :=
          if startingEquity > 0 then (endingEquity / startingEquity - 1) * 100 else 0
        annualizedReturnPct :=
          if durationMs > 0 ∧ startingEquity > 0 ∧ endingEquity > 0 then
            some ((math.power (endingEquity / startingEquity) (1 / years) - 1) * 100)
          else none
        maxDrawdownPct := TradingAgent.maxDrawdownPct equities
        volatilityPct := ratios.1
        sharpeRatio := ratios.2.1
        sortinoRatio := ratios.2.2
        winRate :=
          if trades = [] then none else some (100 * (wins trades).length / trades.length)
        profitFactor :=
          if trades = [] then none
          else if grossLoss > 0 then some (grossProfit / grossLoss) else none
        avgWinQuote := mean? (wins trades)
        avgLossQuote := mean? (losses trades)
        exposurePct := 100 * (equityCurve.countP EquityPoint.inPosition) / equityCurve.length
        turnover :=
          if trades ≠ [] ∧ startingEquity > 0 then totalNotional / startingEquity else 0
        buyAndHoldReturnPct := buyAndHoldReturnPct
        lowTradeCountWarning := trades.length < minTradesForSignificance
        startingEquity := startingEquity
        endingEquity := endingEquity
        strategyExitCount := countExits .strategyExit
        stopLossExitCount := countExits .stopLoss
        takeProfitExitCount := countExits .takeProfit
        buyAndHold := buyAndHold
        assumptions := assumptions }
  | _, _ =>
      { tradeCount := 0
        totalReturnPct := 0
        annualizedReturnPct := none
        maxDrawdownPct := 0
        volatilityPct := none
        sharpeRatio := none
        sortinoRatio := none
        winRate := none
        profitFactor := none
        avgWinQuote := none
        avgLossQuote := none
        exposurePct := 0
        turnover := 0
        buyAndHoldReturnPct := buyAndHoldReturnPct
        lowTradeCountWarning := true
        startingEquity := 0
        endingEquity := 0
        strategyExitCount := 0
        stopLossExitCount := 0
        takeProfitExitCount := 0
        buyAndHold := buyAndHold
        assumptions := assumptions }

/-! ## Its drawdown and its return -/

theorem drawdownPctStep_eq {acc : ℚ × ℚ} (hacc : 0 ≤ acc.2) (value : ℚ) :
    drawdownPctStep acc value = Drawdown.observe acc value := by
  unfold drawdownPctStep Drawdown.observe Drawdown.fall
  by_cases hpeak : 0 < max acc.1 value
  · simp only [gt_iff_lt, hpeak, if_true]
  · simp only [gt_iff_lt, hpeak, if_false, max_eq_left hacc]

theorem foldl_drawdownPctStep (values : List ℚ) {acc : ℚ × ℚ} (hacc : 0 ≤ acc.2) :
    values.foldl drawdownPctStep acc = values.foldl Drawdown.observe acc := by
  induction values generalizing acc with
  | nil => rfl
  | cons value rest ih =>
      rw [List.foldl_cons, List.foldl_cons, drawdownPctStep_eq hacc]
      exact ih (hacc.trans (le_max_left _ _))

theorem maxDrawdownPct_eq (equities : List ℚ) :
    maxDrawdownPct equities = Drawdown.maxDrawdown equities * 100 := by
  cases equities with
  | nil => simp [maxDrawdownPct, Drawdown.maxDrawdown]
  | cons first rest => rw [maxDrawdownPct, foldl_drawdownPctStep _ le_rfl, Drawdown.maxDrawdown]

section Report

variable (math : FloatMath) (stepMs : ℤ) (trades : List Trade) (minTrades : ℕ)
  (buyAndHold : Option BuyAndHoldReport)

/-- The drawdown of the report is that of the curve, of no points too. -/
theorem computePerformanceReport_maxDrawdownPct (equityCurve : List EquityPoint) :
    (computePerformanceReport math stepMs trades equityCurve minTrades buyAndHold).maxDrawdownPct =
      maxDrawdownPct (equityCurve.map EquityPoint.equity) := by
  cases equityCurve with
  | nil => rfl
  | cons first rest =>
      rw [computePerformanceReport, List.head?_cons, List.getLast?_cons]

/-- The return is told by the first and the last point. -/
theorem computePerformanceReport_totalReturnPct {curve curve' : List EquityPoint}
    (trades' : List Trade) (minTrades' : ℕ)
    (hfirst : curve.head?.map EquityPoint.equity = curve'.head?.map EquityPoint.equity)
    (hlast : curve.getLast?.map EquityPoint.equity = curve'.getLast?.map EquityPoint.equity) :
    (computePerformanceReport math stepMs trades curve minTrades buyAndHold).totalReturnPct =
      (computePerformanceReport math stepMs trades' curve' minTrades'
        buyAndHold).totalReturnPct := by
  unfold computePerformanceReport
  cases curve with
  | nil =>
      rw [List.head?_nil, Option.map_none, eq_comm, Option.map_eq_none_iff,
        List.head?_eq_none_iff] at hfirst
      subst hfirst
      rfl
  | cons a rest =>
      cases curve' with
      | nil => cases hfirst
      | cons a' rest' =>
          simp only [List.head?_cons, List.getLast?_cons, Option.map_some,
            Option.some.injEq] at hfirst hlast ⊢
          rw [hfirst, hlast]

end Report

/-- Powers, roots and texts that nothing below depends on. -/
def Scenario.floatMath : FloatMath where
  power := fun base _ => base
  sqrt := id
  threeDecimals := fun _ => ""

end TradingAgent
