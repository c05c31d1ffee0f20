import TradingAgent.Data.Segmentation
import TradingAgent.Metrics.Performance
import TradingAgent.Strategy.TrendBaseline
import TradingAgent.Backtest.Engine

/-!
# Backtests — one run a segment, and one run a holdout window

`run_backtest` and `run_independent_holdout_evaluation` of `backtest/engine.py`, with the accounting
identity of `metrics/extended_report.py`.  The other sections of an extended report are computed from
`ExtendedInputs` and read by nothing here; they are a parameter.

* `scanSegments` is the loop over the segments, `splitReport` one of the four splits of a run;
* `holdoutWindow` is one window of the holdout evaluation.
-/

namespace TradingAgent

/-! ## What a backtest is given -/

structure StrategyConfig where
  emaFast : ℕ+
  emaSlow : ℕ+
  fastBelowSlow : (emaFast : ℕ) < emaSlow

/-- The fields of `BacktestConfig` that only these two functions read. -/
structure SplitConfig where
  trainFraction : ℚ
  validationFraction : ℚ
  testFraction : ℚ
  minTradesForSignificance : ℕ
  excludeOpenPositionSegments : Bool
  trainFractionPos : 0 < trainFraction
  trainFractionLt : trainFraction < 1
  validationFractionPos : 0 < validationFraction
  validationFractionLt : validationFraction < 1
  testFractionPos : 0 < testFraction
  testFractionLt : testFraction < 1
  sumToOne : |trainFraction + validationFraction + testFraction - 1| ≤ 1 / 1000000
  minTradesForSignificancePos : 0 < minTradesForSignificance

/-- `stepMs` is the length of the configured interval, `portion` is `int(count * fraction)` with the
rounding of the float product. -/
structure BacktestSetup where
  config : AppConfig
  strategyConfig : StrategyConfig
  splitConfig : SplitConfig
  filters : SymbolFilters
  stepMs : ℤ
  portion : ℕ → ℚ → ℕ
  math : FloatMath

namespace BacktestSetup

variable (setup : BacktestSetup)

def strategy : EmaCrossoverTrendStrategy where
  emaFastPeriod := setup.strategyConfig.emaFast
  emaSlowPeriod := setup.strategyConfig.emaSlow
  fastLtSlow := setup.strategyConfig.fastBelowSlow

def minRequired : ℕ :=
  setup.strategyConfig.emaSlow + 1

def startingEquity : ℚ :=
  setup.config.backtest.startingEquity

/-- The engine without the risk/reward policy. -/
def env : RunEnv :=
  .standard setup.config setup.filters setup.strategy.generateSignal setup.minRequired
    (Nat.succ_pos _) false

end BacktestSetup

/-! ## Extended reports -/

def accountingNote : String :=
  "ending_equity = ending_cash + ending_base_quantity * final_mark_price. Both sides are printed " ++
    "and compared exactly (Decimal arithmetic, no floating-point rounding) so this is verified for " ++
    "this specific run, not merely assumed."

structure AccountingIdentity where
  endingCashQuote : ℚ
  endingBaseQuantity : ℚ
  finalMarkPrice : ℚ
  computedEndingEquity : ℚ
  reportedEndingEquity : ℚ
  differenceQuote : ℚ
  identityHolds : Bool
  note : String := accountingNote
  deriving DecidableEq, Repr

def computeAccountingIdentity (endingCashQuote endingBaseQuantity finalMarkPrice
    reportedEndingEquity : ℚ) : AccountingIdentity :=
  let computed := endingCashQuote + endingBaseQuantity * finalMarkPrice
  let difference := computed - reportedEndingEquity
  { endingCashQuote := endingCashQuote
    endingBaseQuantity := endingBaseQuantity
    finalMarkPrice := finalMarkPrice
    computedEndingEquity := computed
    reportedEndingEquity := reportedEndingEquity
    differenceQuote := difference
    identityHolds := difference = 0 }

/-- Where a report's window ends: the figures its accounting compares. -/
structure WindowEnd where
  windowEndTimeMs : ℤ
  finalMarkPrice : ℚ
  endingCashQuote : ℚ
  endingBaseQuantity : ℚ
  reportedEndingEquity : ℚ
  openPosition : Option OpenPositionInfo
  deriving DecidableEq, Repr

/-- The arguments of `compute_extended_diagnostics`. -/
structure ExtendedInputs where
  trades : List Trade
  equityCurve : List EquityPoint
  window : WindowEnd
  startingEquity : ℚ
  executedEntries : ℕ
  buySignalsGenerated : ℕ
  exposurePct : ℚ
  totalReturnPct : ℚ
  annualizedReturnPct : Option ℚ
  maxDrawdownPct : ℚ
  shutdownActivations : Dict ReasonCode ShutdownActivation
  rejectedEntriesByReason : Dict ReasonCode ℕ
  alreadyConsumed : Bool
  scopeNote : Option String

def alreadyConsumedTestWindowWarning : String :=
  "This TEST window has already been evaluated and its results observed in this report. It must " ++
    "NOT be treated as an untouched final holdout for any future strategy selection, parameter " ++
    "change, or go/no-go decision - doing so would silently reintroduce exactly the kind of " ++
    "test-set leakage a holdout is meant to prevent. A genuinely unseen test window requires new, " ++
    "not-yet-observed data collected after this evaluation."

/-- The sections besides the accounting are of any type. -/
structure ExtendedDiagnosticsReport (σ : Type) where
  accounting : AccountingIdentity
  sections : σ
  alreadyConsumedWarning : Option String
  scopeNote : Option String

section Backtests

variable {σ : Type}

def computeExtendedDiagnostics (sections : ExtendedInputs → σ) (inputs : ExtendedInputs) :
    ExtendedDiagnosticsReport σ where
  accounting := computeAccountingIdentity inputs.window.endingCashQuote
    inputs.window.endingBaseQuantity inputs.window.finalMarkPrice
    inputs.window.reportedEndingEquity
  sections := sections inputs
  alreadyConsumedWarning :=
    if inputs.alreadyConsumed then some alreadyConsumedTestWindowWarning else none
  scopeNote := inputs.scopeNote

/-- `_build_extended_diagnostics`. -/
def buildExtendedDiagnostics (sections : ExtendedInputs → σ) (trades : List Trade)
    (equityCurve : List EquityPoint) (window : WindowEnd) (startingEquity : ℚ)
    (report : PerformanceReport) (runDiagnostics : RunDiagnostics) (alreadyConsumed : Bool)
    (scopeNote : Option String) : ExtendedDiagnosticsReport σ :=
  computeExtendedDiagnostics sections
    { trades := trades
      equityCurve := equityCurve
      window := window
      startingEquity := startingEquity
      executedEntries := runDiagnostics.executedEntries
      buySignalsGenerated := runDiagnostics.buySignalsGenerated
      exposurePct := report.exposurePct
      totalReturnPct := report.totalReturnPct
      annualizedReturnPct := report.annualizedReturnPct
      maxDrawdownPct := report.maxDrawdownPct
      shutdownActivations := runDiagnostics.shutdownActivations
      rejectedEntriesByReason := runDiagnostics.rejectedEntriesByReason
      alreadyConsumed := alreadyConsumed
      scopeNote := scopeNote }

/-- The end of a run that is reported as a whole. -/
def SegmentRunResult.windowEnd (result : SegmentRunResult) (last : Candle) : WindowEnd where
  windowEndTimeMs := last.closeTimeMs
  finalMarkPrice := last.close
  endingCashQuote := result.diagnostics.endingCashQuote
  endingBaseQuantity := result.diagnostics.endingBaseQuantity
  reportedEndingEquity := result.diagnostics.endingEquity
  openPosition := result.openPosition

/-! ## The loop over the segments -/

structure SegmentReport (σ : Type) where
  index : ℕ
  startTimeMs : ℤ
  endTimeMs : ℤ
  candleCount : ℕ
  tradeCount : ℕ
  endsWithOpenPosition : Bool
  excludedFromOverall : Bool
  cancelledPendingSignal : Option String
  skippedInsufficientCandles : Bool
  performance : Option PerformanceReport := none
  diagnostics : Option RunDiagnostics := none
  openPosition : Option OpenPositionInfo := none
  extended : Option (ExtendedDiagnosticsReport σ) := none

/-- A segment whose run is part of the result. -/
structure UsedResult where
  index : ℕ
  segment : List Candle
  result : SegmentRunResult

/-- The variables of the loop over the segments. -/
structure ScanVars (σ : Type) where
  segmentReports : List (SegmentReport σ) := []
  warnings : List String := []
  unexecutedFinalSignal : Option String := none
  usedResults : List UsedResult := []
  journal : Journal

/-- The segments, and the gaps between them. -/
def rawSegments (setup : BacktestSetup) (candles : List Candle) :
    Except PyError (List (List Candle) × List GapRecord) :=
  match setup.config.backtest.gapPolicy with
  | .reject => do
      let _ ← validateCandleSequence setup.stepMs candles
      .ok ([candles], [])
  | .segment => do
      let segmentation ← partitionIntoSegments setup.stepMs candles
      .ok (segmentation.segments, segmentation.gaps)

def skippedReport (index : ℕ) (segment : List Candle) : SegmentReport σ where
  index := index
  startTimeMs := (segment.head?.map Candle.openTimeMs).getD 0
  endTimeMs := (segment.getLast?.map Candle.closeTimeMs).getD 0
  candleCount := segment.length
  tradeCount := 0
  endsWithOpenPosition := false
  excludedFromOverall := true
  cancelledPendingSignal := none
  skippedInsufficientCandles := true

/-- What the loop warns of after a run: a signal that no candle followed, a position across a gap. -/
def runWarnings (index : ℕ) (isLast exclude : Bool) (result : SegmentRunResult) : List String :=
  (match result.pendingSignalNote with
    | none => []
    | some note =>
        if isLast then [note]
        else [s!"segment {index}: {note} Cancelled at the following confirmed gap - never carried " ++
          "into the next segment."]) ++
    if result.endsWithOpenPosition ∧ ¬isLast then
      [s!"segment {index} ends with an open position that this segment's own data cannot resolve " ++
        "(the position spans a confirmed gap) - marked as an unresolved research condition; no " ++
        "exit price was invented for it." ++
        if exclude then " Excluded from aggregate trade statistics." else ""]
    else []

/-- The body of the loop. -/
def scanSegment (setup : BacktestSetup) (sections : ExtendedInputs → σ) (isLast : Bool)
    (index : ℕ) (segment : List Candle) (v : ScanVars σ) : Except PyError (ScanVars σ) :=
  if segment.length < setup.minRequired then
    .ok { v with
      segmentReports := v.segmentReports ++ [skippedReport index segment]
      warnings := v.warnings ++
        [s!"segment {index} has only {segment.length} candle(s), fewer than the " ++
          s!"{setup.minRequired} required for indicator warm-up - skipped entirely, not " ++
          "backtested."] }
  else do
    let (result, journal) ← runSegment setup.env segment setup.startingEquity v.journal
    match segment.head?, segment.getLast? with
    | some first, some last =>
        let exclude := result.endsWithOpenPosition && !isLast &&
          setup.splitConfig.excludeOpenPositionSegments
        let performance := computePerformanceReport setup.math setup.stepMs result.trades
          result.equityCurve setup.splitConfig.minTradesForSignificance
          (some (computeBuyAndHoldReport setup.math (segment.drop (setup.minRequired - 1))
            setup.startingEquity setup.config.fees.takerFeePct))
        let extended := buildExtendedDiagnostics sections result.trades result.equityCurve
          (result.windowEnd last) setup.startingEquity performance result.diagnostics false none
        .ok
          { segmentReports := v.segmentReports ++
              [{ index := index
                 startTimeMs := first.openTimeMs
                 endTimeMs := last.closeTimeMs
                 candleCount := segment.length
                 tradeCount := result.trades.length
                 endsWithOpenPosition := result.endsWithOpenPosition
                 excludedFromOverall := exclude
                 cancelledPendingSignal := result.pendingSignalNote
                 skippedInsufficientCandles := false
                 performance := some performance
                 diagnostics := some result.diagnostics
                 openPosition := result.openPosition
                 extended := some extended }]
            warnings := v.warnings ++ runWarnings index isLast exclude result
            unexecutedFinalSignal :=
              if isLast then result.pendingSignalNote.or v.unexecutedFinalSignal
              else v.unexecutedFinalSignal
            usedResults :=
              if exclude then v.usedResults else v.usedResults ++ [⟨index, segment, result⟩]
            journal := journal }
    | _, _ => .error .indexOutOfRange

/-- The loop, from the segment number `index` on. -/
def scanSegments (setup : BacktestSetup) (sections : ExtendedInputs → σ) :
    (index : ℕ) → List (List Candle) → ScanVars σ → Except PyError (ScanVars σ)
  | _, [], v => .ok v
  | index, segment :: rest, v => do
      let v' ← scanSegment setup sections rest.isEmpty index segment v
      scanSegments setup sections (index + 1) rest v'

/-! ## The splits of one run -/

inductive Split where
  | train
  | validation
  | test
  | overall
  deriving DecidableEq, Repr

def Split.name : Split → String
  | .train => "train"
  | .validation => "validation"
  | .test => "test"
  | .overall => "overall"

/-- Where the training window of a segment ends. -/
def BacktestSetup.trainEnd (setup : BacktestSetup) (segment : List Candle) : ℕ :=
  setup.minRequired - 1 + setup.portion (segment.length - (setup.minRequired - 1))
    setup.splitConfig.trainFraction

def BacktestSetup.validationEnd (setup : BacktestSetup) (segment : List Candle) : ℕ :=
  setup.trainEnd segment + setup.portion (segment.length - (setup.minRequired - 1))
    setup.splitConfig.validationFraction

/-- The candles of a split: from the first index up to, and without, the second. -/
def BacktestSetup.bounds (setup : BacktestSetup) (segment : List Candle) : Split → ℕ × ℕ
  | .train => (setup.minRequired - 1, setup.trainEnd segment)
  | .validation => (setup.trainEnd segment, setup.validationEnd segment)
  | .test => (setup.validationEnd segment, segment.length)
  | .overall => (setup.minRequired - 1, segment.length)

/-- `values[start:stop]`. -/
def slice {α : Type} (values : List α) (start stop : ℕ) : List α :=
  (values.take stop).drop start

/-- `_index_for_time`. -/
def indexForTime (segment : List Candle) (timeMs : ℤ) (offset : ℕ) : ℕ :=
  (segment.findIdx? fun candle => candle.openTimeMs = timeMs).getD offset

def continuousSplitScopeNote : String :=
  "This split is a chronological label on ONE continuous run (see the module docstring) - the " ++
    "signal/rejection/shutdown-activation counts above belong to the ENTIRE continuous segment, not " ++
    "only to this split's own date range. For counts genuinely scoped to an independent window, use " ++
    "run_independent_holdout_evaluation instead."

/-- What a split reports as its end: the snapshot of its last candle, and what the whole run ended
with where the split has no snapshot, no point or no candle. -/
def splitEnd (result : SegmentRunResult) (splitEquity : List EquityPoint)
    (snapshot : Option PortfolioSnapshot) (endCandle : Candle) : WindowEnd where
  windowEndTimeMs := endCandle.closeTimeMs
  finalMarkPrice := endCandle.close
  endingCashQuote := (snapshot.map PortfolioSnapshot.cashQuote).getD
    result.diagnostics.endingCashQuote
  endingBaseQuantity := (snapshot.map PortfolioSnapshot.baseQuantity).getD
    result.diagnostics.endingBaseQuantity
  reportedEndingEquity := (splitEquity.getLast?.map EquityPoint.equity).getD
    result.diagnostics.endingEquity
  openPosition :=
    match snapshot with
    | some snapshot => snapshot.openTrade.map openTradeToInfo
    | none => result.openPosition

/-- `portfolio_snapshots[end_idx - offset - 1]`, where there is such a snapshot. -/
def splitSnapshot (result : SegmentRunResult) (offset stop : ℕ) : Option PortfolioSnapshot :=
  if offset < stop then result.portfolioSnapshots[stop - offset - 1]? else none

/-- The body of the loop over the splits. -/
def splitReport (setup : BacktestSetup) (sections : ExtendedInputs → σ) (segment : List Candle)
    (result : SegmentRunResult) (split : Split) :
    Except PyError (PerformanceReport × ExtendedDiagnosticsReport σ) :=
  let offset := setup.minRequired - 1
  let (start, stop) := setup.bounds segment split
  let splitTrades := result.trades.filter fun t =>
    start ≤ indexForTime segment t.exitTimeMs offset ∧
      indexForTime segment t.exitTimeMs offset < stop
  let splitEquity := slice result.equityCurve (start - offset) (stop - offset)
  let buyAndHold := computeBuyAndHoldReport setup.math (slice segment start stop)
    setup.startingEquity setup.config.fees.takerFeePct
  let report := computePerformanceReport setup.math setup.stepMs splitTrades splitEquity
    setup.splitConfig.minTradesForSignificance (some buyAndHold)
  match if start < stop then segment[stop - 1]? else segment.getLast? with
  | none => .error .indexOutOfRange
  | some endCandle =>
      let window := splitEnd result splitEquity (splitSnapshot result offset stop) endCandle
      .ok (report, buildExtendedDiagnostics sections splitTrades splitEquity window
        setup.startingEquity report result.diagnostics (split = .test)
        (if start = offset ∧ stop = segment.length then none else some continuousSplitScopeNote))

def splitWarning (setup : BacktestSetup) (split : Split) (report : PerformanceReport) :
    List String :=
  if report.lowTradeCountWarning then
    [s!"{split.name}: only {report.tradeCount} trade(s), below the configured significance " ++
      s!"threshold of {setup.splitConfig.minTradesForSignificance} - results are not " ++
      "statistically meaningful."]
  else []

/-! ## The result -/

def aggregateNote : String :=
  "Trade-level aggregate ONLY across independently-restarted segments (each began from the same " ++
    "baseline starting_equity, not from the previous segment's ending balance). Money amounts and " ++
    "counts sum validly; there is deliberately no aggregate percentage return, drawdown, Sharpe, " ++
    "or Sortino here - those require one single continuous equity curve, which this is not. Read " ++
    "each segment's own PerformanceReport for those."

structure AggregateTradeStats where
  segmentsIncluded : ℕ
  totalTrades : ℕ
  totalRealizedPnlQuote : ℚ
  winRate : Option ℚ
  totalStrategyExits : ℕ
  totalStopLossExits : ℕ
  note : String := aggregateNote
  deriving DecidableEq, Repr

def aggregateTradeStats (segmentsIncluded : ℕ) (trades : List Trade) : AggregateTradeStats where
  segmentsIncluded := segmentsIncluded
  totalTrades := trades.length
  totalRealizedPnlQuote := (trades.map Trade.pnlQuote).sum
  winRate := if trades = [] then none else some (100 * (wins trades).length / trades.length)
  totalStrategyExits := trades.countP fun t => t.exitReason = .strategyExit
  totalStopLossExits := trades.countP fun t => t.exitReason = .stopLoss

structure BacktestResult (σ : Type) where
  trades : List Trade
  equityCurve : List EquityPoint
  reports : List (Split × PerformanceReport)
  warnings : List String
  unexecutedFinalSignal : Option String
  gaps : List GapRecord
  segments : List (SegmentReport σ)
  aggregateTradeStats : Option AggregateTradeStats
  diagnostics : Option RunDiagnostics
  extendedReports : List (Split × ExtendedDiagnosticsReport σ)

def gapWarnings (gaps : List GapRecord) : List String :=
  if gaps = [] then []
  else
    [s!"{gaps.length} confirmed historical gap(s) were detected and preserved as independent " ++
      "segment boundaries - results across gaps are NOT one continuous tradable equity history. " ++
      "Each segment starts fresh from the same baseline starting_equity; read its own " ++
      "PerformanceReport independently (see `segments[i].performance`) rather than trusting any " ++
      "naive concatenation."]

/-- The result of the loop's variables: the splits of the only used run, or the sums over several. -/
def buildBacktestResult (setup : BacktestSetup) (sections : ExtendedInputs → σ)
    (gaps : List GapRecord) (v : ScanVars σ) : Except PyError (BacktestResult σ) :=
  let allTrades := v.usedResults.flatMap fun used => used.result.trades
  let base : BacktestResult σ :=
    { trades := allTrades
      equityCurve := v.usedResults.flatMap fun used => used.result.equityCurve
      reports := []
      warnings := v.warnings ++ gapWarnings gaps
      unexecutedFinalSignal := v.unexecutedFinalSignal
      gaps := gaps
      segments := v.segmentReports
      aggregateTradeStats := none
      diagnostics := none
      extendedReports := [] }
  match v.usedResults with
  | [] => .ok base
  | [used] => do
      let report := splitReport setup sections used.segment used.result
      let train ← report .train
      let validation ← report .validation
      let test ← report .test
      let overall ← report .overall
      let reports := [(Split.train, train), (.validation, validation), (.test, test),
        (.overall, overall)]
      .ok { base with
        reports := reports.map fun entry => (entry.1, entry.2.1)
        warnings := base.warnings ++
          reports.flatMap fun entry => splitWarning setup entry.1 entry.2.1
        diagnostics := some used.result.diagnostics
        extendedReports := reports.map fun entry => (entry.1, entry.2.2) }
  | _ => .ok { base with
      aggregateTradeStats := some
        (TradingAgent.aggregateTradeStats v.usedResults.length allTrades)
      warnings := base.warnings ++
        [s!"{v.usedResults.length} independent segments contributed trades. No combined 'overall' " ++
          "return/drawdown/Sharpe/Sortino is reported - see `segments[i].performance` for each " ++
          "segment's own complete, independent report, and `aggregate_trade_stats` for the only " ++
          "mathematically valid cross-segment aggregate (trade-level counts and money sums)."] }

/-- `run_backtest`, with the journal it leaves behind. -/
def runBacktest (setup : BacktestSetup) (sections : ExtendedInputs → σ) (candles : List Candle)
    (journal : Journal := none) : Except PyError (BacktestResult σ × Journal) := do
  let (segments, gaps) ← rawSegments setup candles
  if segments.any fun segment => setup.minRequired ≤ segment.length then
    let v ← scanSegments setup sections 0 segments { journal := journal }
    let result ← buildBacktestResult setup sections gaps v
    .ok (result, v.journal)
  else
    .error (.external (s!"need at least {setup.minRequired} candles in some contiguous segment " ++
      s!"to backtest, got segment sizes {segments.map List.length}"))

/-! ## Holdout windows -/

def holdoutEvaluationLabel : String :=
  "INDEPENDENT FIXED-PARAMETER HOLDOUT EVALUATION - NOT walk-forward optimization. " ++
    "Train/validation/test windows share identical, fixed strategy parameters. Each window starts " ++
    "from a fresh configured starting balance and fresh risk state (peak equity, drawdown, " ++
    "cooldowns, and daily counters all reset); no position or pending signal ever carries from one " ++
    "window into the next; validation/test may look back only at preceding candles from the same " ++
    "gap-free segment for indicator warm-up, and those warm-up candles never generate a trade or " ++
    "contribute to the reported performance."

structure HoldoutWindowReport (σ : Type) where
  segmentIndex : ℕ
  label : Split
  warmUpStartTimeMs : ℤ
  warmUpCandleCount : ℕ
  windowStartTimeMs : ℤ
  windowEndTimeMs : ℤ
  candleCount : ℕ
  performance : PerformanceReport
  diagnostics : RunDiagnostics
  endsWithOpenPosition : Bool
  unresolvedPendingSignal : Option String
  openPosition : Option OpenPositionInfo
  extended : ExtendedDiagnosticsReport σ

structure HoldoutEvaluationResult (σ : Type) where
  label : String := holdoutEvaluationLabel
  windows : List (HoldoutWindowReport σ) := []
  warnings : List String := []

/-- One window of a segment; its slice starts with the candles of the warm-up. -/
def holdoutWindow (setup : BacktestSetup) (sections : ExtendedInputs → σ) (index : ℕ)
    (segment : List Candle) (label : Split)
    (acc : HoldoutEvaluationResult σ × Journal) :
    Except PyError (HoldoutEvaluationResult σ × Journal) :=
  let (start, stop) := setup.bounds segment label
  if stop ≤ start then
    .ok ({ acc.1 with
      warnings := acc.1.warnings ++
        [s!"segment {index} {label.name}: window would be empty - skipped."] }, acc.2)
  else do
    let warmUpStart := start - (setup.minRequired - 1)
    let (result, journal) ← runSegment setup.env (slice segment warmUpStart stop)
      setup.startingEquity acc.2
    let windowCandles := slice segment start stop
    let buyAndHold := computeBuyAndHoldReport setup.math windowCandles setup.startingEquity
      setup.config.fees.takerFeePct
    let report := computePerformanceReport setup.math setup.stepMs result.trades result.equityCurve
      setup.splitConfig.minTradesForSignificance (some buyAndHold)
    match segment[stop - 1]?, segment[warmUpStart]?, segment[start]? with
    | some last, some warmUpFirst, some first =>
        let extended := buildExtendedDiagnostics sections result.trades result.equityCurve
          (result.windowEnd last) setup.startingEquity report result.diagnostics (label = .test) none
        let lowTradeCount :=
          if report.lowTradeCountWarning then
            [s!"segment {index} {label.name}: only {report.tradeCount} trade(s), below the " ++
              "configured significance threshold of " ++
              s!"{setup.splitConfig.minTradesForSignificance}."]
          else []
        let pending := result.pendingSignalNote.toList.map fun note =>
          s!"segment {index} {label.name}: {note}"
        let window : HoldoutWindowReport σ :=
          { segmentIndex := index
            label := label
            warmUpStartTimeMs := warmUpFirst.openTimeMs
            warmUpCandleCount := setup.minRequired - 1
            windowStartTimeMs := first.openTimeMs
            windowEndTimeMs := last.closeTimeMs
            candleCount := stop - start
            performance := report
            diagnostics := result.diagnostics
            endsWithOpenPosition := result.endsWithOpenPosition
            unresolvedPendingSignal := result.pendingSignalNote
            openPosition := result.openPosition
            extended := extended }
        .ok ({ acc.1 with
          windows := acc.1.windows ++ [window]
          warnings := acc.1.warnings ++ lowTradeCount ++ pending }, journal)
    | _, _, _ => .error .indexOutOfRange

/-- The windows of one segment. -/
def holdoutSegment (setup : BacktestSetup) (sections : ExtendedInputs → σ) (index : ℕ)
    (segment : List Candle) (acc : HoldoutEvaluationResult σ × Journal) :
    Except PyError (HoldoutEvaluationResult σ × Journal) :=
  if segment.length < setup.minRequired then
    .ok ({ acc.1 with
      warnings := acc.1.warnings ++
        [s!"segment {index}: only {segment.length} candle(s), fewer than the " ++
          s!"{setup.minRequired} required for indicator warm-up - skipped entirely for holdout " ++
          "evaluation."] }, acc.2)
  else if setup.trainEnd segment ≤ setup.minRequired - 1 then
    .ok ({ acc.1 with
      warnings := acc.1.warnings ++
        [s!"segment {index}: not enough candles to form a non-empty train window - skipped " ++
          "entirely for holdout evaluation."] }, acc.2)
  else do
    let acc ← holdoutWindow setup sections index segment .train acc
    let acc ← holdoutWindow setup sections index segment .validation acc
    holdoutWindow setup sections index segment .test acc

def holdoutSegments (setup : BacktestSetup) (sections : ExtendedInputs → σ) :
    (index : ℕ) → List (List Candle) → HoldoutEvaluationResult σ × Journal →
      Except PyError (HoldoutEvaluationResult σ × Journal)
  | _, [], acc => .ok acc
  | index, segment :: rest, acc => do
      let acc' ← holdoutSegment setup sections index segment acc
      holdoutSegments setup sections (index + 1) rest acc'

/-- `run_independent_holdout_evaluation`, with the journal it leaves behind. -/
def runIndependentHoldoutEvaluation (setup : BacktestSetup) (sections : ExtendedInputs → σ)
    (candles : List Candle) (journal : Journal := none) :
    Except PyError (HoldoutEvaluationResult σ × Journal) := do
  let (segments, _) ← rawSegments setup candles
  holdoutSegments setup sections 0 segments ({}, journal)

end Backtests

end TradingAgent
