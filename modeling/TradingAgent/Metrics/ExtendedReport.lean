import TradingAgent.Backtest.RunBacktest
import TradingAgent.Library.Buckets
import TradingAgent.Library.Streak
import TradingAgent.Library.Underwater
import TradingAgent.Metrics.Calendar
import Mathlib.Data.List.MinMax

/-!
# Extended report — the sections besides the accounting identity

`metrics/extended_report.py`: the breakdown of the profit, the explanation of a window, the
performance over time, the distribution of the trades and the rolling windows, and
`extendedSections`, which puts them together.
-/

namespace TradingAgent

/-- The text of a decimal number, as it is and with two decimals. -/
structure NumberTexts where
  plain : ℚ → String
  twoDecimals : ℚ → String

/-! ## The breakdown of the profit -/

structure PnlBreakdown where
  realizedClosedTradePnlQuote : ℚ
  unrealizedOpenPositionPnlQuote : Option ℚ
  totalMarkedToMarketPnlQuote : ℚ
  entryFeesTotalQuote : ℚ
  exitFeesTotalQuote : ℚ
  feesAreEstimated : Bool
  slippageCostTotalQuote : ℚ
  openPositionNote : Option String
  deriving DecidableEq, Repr

/-- What the distance of both fills from their reference prices cost. -/
def Trade.slippageQuote (t : Trade) : ℚ :=
  |t.entryPrice - t.entryReferencePrice| * t.quantity +
    |t.exitPrice - t.exitReferencePrice| * t.quantity

def OpenPositionInfo.slippageQuote (p : OpenPositionInfo) : ℚ :=
  |p.entryPrice - p.entryReferencePrice| * p.quantity

/-- Marked at a price, without an exit. -/
def OpenPositionInfo.unrealized (p : OpenPositionInfo) (price : ℚ) : ℚ :=
  (price - p.entryPrice) * p.quantity - p.entryFeeQuote

def openPositionNote (texts : NumberTexts) (p : OpenPositionInfo) (finalMarkPrice : ℚ) : String :=
  s!"Position opened at entry_time_ms={p.entryTimeMs}, entry_price={texts.plain p.entryPrice}, " ++
    s!"quantity={texts.plain p.quantity}, remains open at this window's end. Marked to market at " ++
    s!"the final available close ({texts.plain finalMarkPrice}) - NOT liquidated or closed. " ++
    "unrealized_open_position_pnl_quote already deducts the entry fee actually paid, but " ++
    "deliberately does NOT deduct a hypothetical exit fee or exit slippage, since no exit was " ++
    "invented for it."

/-- `compute_pnl_breakdown`. -/
def computePnlBreakdown (texts : NumberTexts) (trades : List Trade)
    (openPosition : Option OpenPositionInfo) (finalMarkPrice : ℚ) : PnlBreakdown :=
  let realized := (trades.map Trade.pnlQuote).sum
  let entryFees := (trades.map Trade.entryFeeQuote).sum
  let exitFees := (trades.map Trade.exitFeeQuote).sum
  let slippage := (trades.map Trade.slippageQuote).sum
  let unrealized := openPosition.map fun p => p.unrealized finalMarkPrice
  { realizedClosedTradePnlQuote := realized
    unrealizedOpenPositionPnlQuote := unrealized
    totalMarkedToMarketPnlQuote := realized + unrealized.getD 0
    entryFeesTotalQuote :=
      entryFees + (openPosition.map OpenPositionInfo.entryFeeQuote).getD 0
    exitFeesTotalQuote := exitFees
    feesAreEstimated := true
    slippageCostTotalQuote :=
      slippage + (openPosition.map OpenPositionInfo.slippageQuote).getD 0
    openPositionNote := openPosition.map fun p => TradingAgent.openPositionNote texts p
      finalMarkPrice }

/-! ## The explanation of a window -/

/-- Why a window saw no more entries, as far as the report can tell. -/
inductive TradingStopped where
  | latched (activation : ShutdownActivation)
  | quiet (lastTradeTimeMs : ℤ)
  deriving DecidableEq, Repr

structure WindowExplanation where
  openPositionReason : Option String
  entriesVsClosedTradesNote : String
  tradingStoppedReason : Option String
  deriving DecidableEq, Repr

def openPositionReason (p : OpenPositionInfo) : String :=
  s!"A BUY was approved and filled at entry_time_ms={p.entryTimeMs}. No EXIT crossover signal and " ++
    "no stop-loss touch occurred on any subsequent candle before this window's data ended, so the " ++
    "position is still open at the window's last candle. No exit price is invented for it - see " ++
    "the PnL breakdown's unrealized figure instead."

def entriesVsClosedTradesNote (executedEntries closedCount : ℕ) : String :=
  if executedEntries > closedCount then
    s!"executed_entries ({executedEntries}) exceeds closed_trade_count ({closedCount}) because " ++
      s!"{executedEntries - closedCount} entry/entries opened a position that was still open when " ++
      "this window's data ended - a closed Trade record requires both an entry AND an exit fill, " ++
      "and the still-open entry has only the former. This is consistent with " ++
      "`ends_with_open_position` above, not a counting defect."
  else
    s!"executed_entries ({executedEntries}) equals closed_trade_count ({closedCount}) - every " ++
      "entry this window executed was also closed within it."

/-- The latched activation that came first, the first of several with one time. -/
def earliestLatched (activations : Dict ReasonCode ShutdownActivation) :
    Option ShutdownActivation :=
  (((activations.map Prod.snd).filter ShutdownActivation.remainedLatchedToEnd).mergeSort
    fun a b => decide (a.firstActivatedTimeMs ≤ b.firstActivatedTimeMs)).head?

/-- The exit of the last closed trade; of no closed trades, the entry of the open position. -/
def lastTradeTime (trades : List Trade) (openPosition : Option OpenPositionInfo) : Option ℤ :=
  match trades.getLast? with
  | some last => some last.exitTimeMs
  | none => openPosition.map OpenPositionInfo.entryTimeMs

def tradingStopped (trades : List Trade) (openPosition : Option OpenPositionInfo)
    (activations : Dict ReasonCode ShutdownActivation) (rejected : Dict ReasonCode ℕ)
    (windowEndTimeMs : ℤ) : Option TradingStopped :=
  match earliestLatched activations with
  | some activation => some (.latched activation)
  | none =>
      match lastTradeTime trades openPosition with
      | some time =>
          if time < windowEndTimeMs ∧ rejected = [] then some (.quiet time) else none
      | none => none

def TradingStopped.text (texts : NumberTexts) (windowEndTimeMs : ℤ) (buySignalsGenerated : ℕ) :
    TradingStopped → String
  | .latched a =>
      s!"No further entries executed after {a.firstActivatedTimeMs} because {a.reasonCode.text} " ++
        s!"activated at that time (equity={texts.plain a.equityAtActivation}, " ++
        s!"drawdown_pct={texts.twoDecimals (a.drawdownPctAtActivation * 100)}) and remained " ++
        "continuously latched for the rest of this window, rejecting " ++
        s!"{a.blockedBuyCount} further otherwise-valid BUY signal(s) - see " ++
        "`shutdown_activations`. This is a risk-gate block, not the strategy going silent."
  | .quiet time =>
      s!"The last execution in this window was at time_ms={time}, well before the window's own end " ++
        s!"({windowEndTimeMs}). No risk-gate rejection was ever recorded " ++
        "(rejected_entries_by_reason is empty) - the strategy itself simply generated no further " ++
        "BUY signal that crossed into an entry for the remainder of this window " ++
        s!"(buy_signals_generated={buySignalsGenerated} total across the whole window). This is a " ++
        "strategy-signal characteristic, not a risk-engine block."

/-- `explain_window`. -/
def explainWindow (texts : NumberTexts) (trades : List Trade) (executedEntries : ℕ)
    (openPosition : Option OpenPositionInfo) (activations : Dict ReasonCode ShutdownActivation)
    (rejected : Dict ReasonCode ℕ) (windowEndTimeMs : ℤ) (buySignalsGenerated : ℕ) :
    WindowExplanation where
  openPositionReason := openPosition.map TradingAgent.openPositionReason
  entriesVsClosedTradesNote :=
    TradingAgent.entriesVsClosedTradesNote executedEntries trades.length
  tradingStoppedReason :=
    (tradingStopped trades openPosition activations rejected windowEndTimeMs).map
      (TradingStopped.text texts windowEndTimeMs buySignalsGenerated)

/-! ## Performance over time -/

structure MonthlyReturn where
  year : ℤ
  month : ℕ
  returnPct : ℚ
  deriving DecidableEq, Repr

structure TimeBasedPerformance where
  cagrPct : Option ℚ
  monthlyReturns : List MonthlyReturn
  positiveMonthsPct : Option ℚ
  longestUnderwaterDays : Option ℚ
  longestUnderwaterStartMs : Option ℤ
  longestUnderwaterEndMs : Option ℤ
  exposurePct : ℚ
  exposureAdjustedReturnPct : Option ℚ
  calmarRatio : Option ℚ
  deriving DecidableEq, Repr

/-- The months in order, with the equity each is entered with. -/
def monthlyReturnsFrom (priorEquity : ℚ) :
    List ((ℤ ×ₗ ℕ) × List EquityPoint) → List MonthlyReturn
  | [] => []
  | (key, points) :: rest =>
      match points.getLast? with
      | none => monthlyReturnsFrom priorEquity rest
      | some last =>
          (if priorEquity > 0 then
            [⟨(ofLex key).1, (ofLex key).2, (last.equity / priorEquity - 1) * 100⟩]
          else []) ++ monthlyReturnsFrom last.equity rest

def monthlyReturns (equityCurve : List EquityPoint) : List MonthlyReturn :=
  match equityCurve.head? with
  | none => []
  | some first =>
      monthlyReturnsFrom first.equity
        (Buckets.buckets (fun point => utcYearMonth point.timestampMs) equityCurve)

def positiveMonthsPct (months : List MonthlyReturn) : Option ℚ :=
  if months = [] then none
  else some (100 * (months.countP fun m => 0 < m.returnPct) / months.length)

/-- The variables of the scan for the longest time under water. -/
structure UnderwaterVars where
  peak : ℚ
  peakTimeMs : ℤ
  underwaterStartMs : Option ℤ
  bestDurationMs : ℤ
  best : Option (ℤ × ℤ)

/-- A period under water that ends at `timeMs` counts where it is longer than the best so far. -/
def UnderwaterVars.close (v : UnderwaterVars) (timeMs : ℤ) : UnderwaterVars :=
  match v.underwaterStartMs with
  | none => v
  | some start =>
      if timeMs - start > v.bestDurationMs then
        { v with bestDurationMs := timeMs - start, best := some (start, timeMs) }
      else v

def UnderwaterVars.step (v : UnderwaterVars) (point : EquityPoint) : UnderwaterVars :=
  if point.equity ≥ v.peak then
    { v.close point.timestampMs with
      peak := point.equity
      peakTimeMs := point.timestampMs
      underwaterStartMs := none }
  else
    match v.underwaterStartMs with
    | none => { v with underwaterStartMs := some v.peakTimeMs }
    | some _ => v

/-- Where the longest time under water starts and ends. -/
def longestUnderwater (equityCurve : List EquityPoint) : Option (ℤ × ℤ) :=
  match equityCurve.head?, equityCurve.getLast? with
  | some first, some last =>
      ((equityCurve.foldl UnderwaterVars.step
        ⟨first.equity, first.timestampMs, none, 0, none⟩).close last.timestampMs).best
  | _, _ => none

/-- `compute_time_based_performance`. -/
def computeTimeBasedPerformance (equityCurve : List EquityPoint) (totalReturnPct : ℚ)
    (annualizedReturnPct : Option ℚ) (maxDrawdownPct exposurePct : ℚ) : TimeBasedPerformance :=
  let months := monthlyReturns equityCurve
  let underwater := longestUnderwater equityCurve
  { cagrPct := annualizedReturnPct
    monthlyReturns := months
    positiveMonthsPct := TradingAgent.positiveMonthsPct months
    longestUnderwaterDays := underwater.map fun period => (period.2 - period.1) / msPerDay
    longestUnderwaterStartMs := underwater.map Prod.fst
    longestUnderwaterEndMs := underwater.map Prod.snd
    exposurePct := exposurePct
    exposureAdjustedReturnPct :=
      if exposurePct > 0 then some (totalReturnPct / (exposurePct / 100)) else none
    calmarRatio := annualizedReturnPct.bind fun annualized =>
      if maxDrawdownPct > 0 then some (annualized / maxDrawdownPct) else none }

/-! ## The distribution of the trades -/

structure HoldingPeriodStats where
  minHours : Option ℚ
  medianHours : Option ℚ
  meanHours : Option ℚ
  maxHours : Option ℚ
  deriving DecidableEq, Repr

structure TradeDistribution where
  tradeCount : ℕ
  medianTradeReturnPct : Option ℚ
  averageWinnerQuote : Option ℚ
  averageLoserQuote : Option ℚ
  largestWinnerQuote : Option ℚ
  largestLoserQuote : Option ℚ
  bestTradePnlQuote : Option ℚ
  bestTradeContributionPct : Option ℚ
  totalPnlExcludingBestTradeQuote : Option ℚ
  returnPctExcludingBestTrade : Option ℚ
  maxConsecutiveWins : ℕ
  maxConsecutiveLosses : ℕ
  holdingPeriod : HoldingPeriodStats
  deriving DecidableEq, Repr

/-- `statistics.median`; there is none of no numbers. -/
def median? (values : List ℚ) : Option ℚ :=
  let sorted := values.mergeSort fun a b => decide (a ≤ b)
  let half := sorted.length / 2
  if sorted.length % 2 = 1 then sorted[half]?
  else (sorted[half - 1]?).bind fun low => (sorted[half]?).map fun high => (low + high) / 2

def Trade.returnPct (t : Trade) : ℚ :=
  if t.entryPrice * t.quantity > 0 then t.pnlQuote / (t.entryPrice * t.quantity) * 100 else 0

/-- The counters of consecutive wins and losses. -/
structure StreakVars where
  maxWins : ℕ
  maxLosses : ℕ
  curWins : ℕ
  curLosses : ℕ

def StreakVars.step (v : StreakVars) (t : Trade) : StreakVars :=
  let curWins := if t.pnlQuote > 0 then v.curWins + 1 else 0
  let curLosses :=
    if t.pnlQuote > 0 then 0 else if t.pnlQuote < 0 then v.curLosses + 1 else 0
  ⟨max v.maxWins curWins, max v.maxLosses curLosses, curWins, curLosses⟩

def Trade.holdingHours (t : Trade) : ℚ :=
  (t.exitTimeMs - t.entryTimeMs) / (60 * 60 * 1000)

def holdingPeriodStats (trades : List Trade) : HoldingPeriodStats :=
  let hours := trades.map Trade.holdingHours
  ⟨hours.min?, median? hours, mean? hours, hours.max?⟩

/-- `compute_trade_distribution`. -/
def computeTradeDistribution (trades : List Trade) (startingEquity : ℚ) :
    Option TradeDistribution :=
  (trades.argmax Trade.pnlQuote).map fun bestTrade =>
    let totalRealized := (trades.map Trade.pnlQuote).sum
    let totalExclBest := totalRealized - bestTrade.pnlQuote
    let streaks := trades.foldl StreakVars.step ⟨0, 0, 0, 0⟩
    { tradeCount := trades.length
      medianTradeReturnPct := median? (trades.map Trade.returnPct)
      averageWinnerQuote := mean? (wins trades)
      averageLoserQuote := mean? (losses trades)
      largestWinnerQuote := (wins trades).max?
      largestLoserQuote := (losses trades).min?
      bestTradePnlQuote := some bestTrade.pnlQuote
      bestTradeContributionPct :=
        if totalRealized ≠ 0 then some (bestTrade.pnlQuote / totalRealized * 100) else none
      totalPnlExcludingBestTradeQuote := some totalExclBest
      returnPctExcludingBestTrade :=
        if startingEquity > 0 then some (totalExclBest / startingEquity * 100) else none
      maxConsecutiveWins := streaks.maxWins
      maxConsecutiveLosses := streaks.maxLosses
      holdingPeriod := holdingPeriodStats trades }

/-! ## Rolling windows -/

structure RollingWindowPoint where
  windowIndex : ℕ
  tradeCount : ℕ
  startTimeMs : ℤ
  endTimeMs : ℤ
  returnPct : Option ℚ
  maxDrawdownPct : Option ℚ
  deriving DecidableEq, Repr

structure RollingWindowDiagnostics where
  tradesPerWindow : ℕ
  windows : List RollingWindowPoint
  deriving DecidableEq, Repr

def rollingWindowTradeCount : ℕ := 10

/-- The equity, its peak and its largest drawdown after one more trade of a window. -/
def rollingStep (acc : ℚ × ℚ × ℚ) (t : Trade) : ℚ × ℚ × ℚ :=
  let equityNow := acc.1 + t.pnlQuote
  let peak := max acc.2.1 equityNow
  (equityNow, peak, if peak > 0 then max acc.2.2 ((peak - equityNow) / peak) else acc.2.2)

def rollingWindow (startingEquity : ℚ) (windowIndex : ℕ) (chunk : List Trade) :
    Option RollingWindowPoint :=
  chunk.head?.bind fun first => chunk.getLast?.map fun last =>
    let (equityNow, _, maxDd) := chunk.foldl rollingStep (startingEquity, startingEquity, 0)
    { windowIndex := windowIndex
      tradeCount := chunk.length
      startTimeMs := first.entryTimeMs
      endTimeMs := last.exitTimeMs
      returnPct := some ((equityNow - startingEquity) / startingEquity * 100)
      maxDrawdownPct := some (maxDd * 100) }

/-- `trades[i : i + trades_per_window]` for each window. -/
def rollingChunks (trades : List Trade) (tradesPerWindow : ℕ) : List (List Trade) :=
  (List.range ((trades.length + tradesPerWindow - 1) / tradesPerWindow)).map fun i =>
    (trades.drop (i * tradesPerWindow)).take tradesPerWindow

/-- `compute_rolling_window_diagnostics`. -/
def computeRollingWindowDiagnostics (trades : List Trade) (startingEquity : ℚ)
    (tradesPerWindow : ℕ) : RollingWindowDiagnostics where
  tradesPerWindow := tradesPerWindow
  windows :=
    if trades = [] ∨ startingEquity ≤ 0 then []
    else ((rollingChunks trades tradesPerWindow).mapIdx (rollingWindow startingEquity)).filterMap id

/-! ## All sections -/

/-- The sections of an extended report besides its accounting identity; the bootstrap interval is
of any type. -/
structure ExtendedSections (β : Type) where
  pnlBreakdown : PnlBreakdown
  explanation : WindowExplanation
  timeBased : TimeBasedPerformance
  tradeDistribution : Option TradeDistribution
  bootstrap : β
  rollingWindows : RollingWindowDiagnostics

/-- The sections `compute_extended_diagnostics` adds to the accounting identity. -/
def extendedSections {β : Type} (texts : NumberTexts) (bootstrap : List Trade → ℚ → β)
    (inputs : ExtendedInputs) : ExtendedSections β where
  pnlBreakdown :=
    computePnlBreakdown texts inputs.trades inputs.window.openPosition inputs.window.finalMarkPrice
  explanation :=
    explainWindow texts inputs.trades inputs.executedEntries inputs.window.openPosition
      inputs.shutdownActivations inputs.rejectedEntriesByReason inputs.window.windowEndTimeMs
      inputs.buySignalsGenerated
  timeBased :=
    computeTimeBasedPerformance inputs.equityCurve inputs.totalReturnPct
      inputs.annualizedReturnPct inputs.maxDrawdownPct inputs.exposurePct
  tradeDistribution := computeTradeDistribution inputs.trades inputs.startingEquity
  bootstrap := bootstrap inputs.trades inputs.startingEquity
  rollingWindows :=
    computeRollingWindowDiagnostics inputs.trades inputs.startingEquity rollingWindowTradeCount

end TradingAgent
