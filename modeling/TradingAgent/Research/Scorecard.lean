import TradingAgent.Metrics.ExtendedReport
import TradingAgent.Research.BlockedChronological
import TradingAgent.Research.Fingerprint
import Mathlib.Algebra.Ring.Nat

/-!
# Scorecard — a candidate's blocks against fixed thresholds

`research/scorecard.py`, and the reports of a block that `blocked_chronological_evaluation.py`
builds for it.

* `blockReports` is the performance report and the extended report of a block;
* `scoreCandidate` compares a candidate's blocks with the declared thresholds.
-/

namespace TradingAgent

/-! ## The reports of a block -/

/-- The performance report of a block and its extended report, whose bootstrap interval is of any
type. -/
structure BlockReports (β : Type) where
  performance : PerformanceReport
  extended : ExtendedDiagnosticsReport (ExtendedSections β)

section Reports

variable {β : Type} (math : FloatMath) (texts : NumberTexts) (bootstrap : List Trade → ℚ → β)
  (stepMs : ℤ) (config : AppConfig) (minTradesForSignificance : ℕ)

def blockPerformance (windowCandles : List Candle) (result : SegmentRunResult) :
    PerformanceReport :=
  computePerformanceReport math stepMs result.trades result.equityCurve minTradesForSignificance
    (some (computeBuyAndHoldReport math windowCandles config.backtest.startingEquity
      config.fees.takerFeePct))

/-- The reports the evaluation builds of a block's candles and its run. -/
def blockReports (windowCandles : List Candle) (result : SegmentRunResult) :
    Except PyError (BlockReports β) :=
  match windowCandles.getLast? with
  | none => .error .indexOutOfRange
  | some endCandle =>
      let report := blockPerformance math stepMs config minTradesForSignificance windowCandles result
      .ok
        { performance := report
          extended := computeExtendedDiagnostics (extendedSections texts bootstrap)
            { trades := result.trades
              equityCurve := result.equityCurve
              window :=
                { windowEndTimeMs := endCandle.closeTimeMs
                  finalMarkPrice := endCandle.close
                  endingCashQuote := result.diagnostics.endingCashQuote
                  endingBaseQuantity := result.diagnostics.endingBaseQuantity
                  reportedEndingEquity := result.diagnostics.endingEquity
                  openPosition := result.openPosition }
              startingEquity := config.backtest.startingEquity
              executedEntries := result.diagnostics.executedEntries
              buySignalsGenerated := result.diagnostics.buySignalsGenerated
              exposurePct := report.exposurePct
              totalReturnPct := report.totalReturnPct
              annualizedReturnPct := report.annualizedReturnPct
              maxDrawdownPct := report.maxDrawdownPct
              shutdownActivations := result.diagnostics.shutdownActivations
              rejectedEntriesByReason := result.diagnostics.rejectedEntriesByReason
              alreadyConsumed := false
              scopeNote := none } }

/-- The evaluation builds these reports. -/
def DurationEnv.Reporting (env : DurationEnv (BlockReports β)) : Prop :=
  env.reports = blockReports math texts bootstrap stepMs env.config env.minTradesForSignificance

end Reports

/-! ## The scorecard -/

def minTotalTradesForEvidence : ℕ := 30
def minBlocksWithATrade : ℕ := 4
def maxAcceptableDrawdownPct : ℚ := 15
def materiallyNegativeBlockRealizedReturnPct : ℚ := -10
def maxBestTradeContributionPct : ℚ := 50
def minPositiveRealizedPnlBlockFraction : ℚ := 3 / 5

/-- A scorecard entry with the figures reported for visibility only. -/
structure ScoredCandidate extends ScorecardEntry where
  medianBlockMarkedToMarketReturnPct : Option ℚ
  medianExcessReturnVsBuyAndHoldPct : Option ℚ
  deriving DecidableEq, Repr

section Scoring

variable {β : Type}

/-- The blocks of a candidate that have reports. -/
def evaluatedReports (blocks : List (BlockResult (BlockReports β))) : List (BlockReports β) :=
  blocks.filterMap BlockResult.reports

def BlockReports.realizedPnlQuote (reports : BlockReports β) : ℚ :=
  reports.extended.sections.pnlBreakdown.realizedClosedTradePnlQuote

/-- `_realized_return_pct`, of a block with reports. -/
def realizedReturnPct (reports : BlockReports β) : ℚ :=
  if reports.performance.startingEquity ≤ 0 then 0
  else reports.realizedPnlQuote / reports.performance.startingEquity * 100

/-- `_excess_return_pct`. -/
def excessReturnPct (reports : BlockReports β) : Option ℚ :=
  reports.performance.buyAndHoldReturnPct.map fun buyAndHold =>
    reports.performance.totalReturnPct - buyAndHold

/-- The best trade's share of the profit, of a block that made one. -/
def positiveBlockContribution (reports : BlockReports β) : Option ℚ :=
  if reports.realizedPnlQuote > 0 then
    reports.extended.sections.tradeDistribution.bind TradeDistribution.bestTradeContributionPct
  else none

def evidenceDetail (totalTrades blocksWithATrade : ℕ) : String :=
  s!"total_trades={totalTrades} (need >= 30), blocks_with_a_trade={blocksWithATrade} (need >= 4)"

/-- The texts of a float as it is and with one decimal, beside those of decimals. -/
structure ReportTexts extends NumberTexts where
  float : ℚ → String
  oneDecimal : ℚ → String

def ReportTexts.optionalFloat (texts : ReportTexts) : Option ℚ → String
  | none => "None"
  | some x => texts.float x

/-- What the criteria of a scored candidate look at. -/
structure ScoredFigures where
  medianRealizedReturn : ℚ
  aggregateRealized : ℚ
  worstRealizedReturn : ℚ
  worstBlockDrawdown : ℚ
  maxBestTradeContribution : Option ℚ
  positiveRealizedFraction : ℚ
  deriving DecidableEq, Repr

/-- The figures of blocks of which there is one, so that no median and no extreme is missing. -/
def scoredFigures (evaluated : List (BlockReports β)) : ScoredFigures :=
  let realizedReturns := evaluated.map realizedReturnPct
  { medianRealizedReturn := (median? realizedReturns).getD 0
    aggregateRealized := (evaluated.map BlockReports.realizedPnlQuote).sum
    worstRealizedReturn := realizedReturns.min?.getD 0
    worstBlockDrawdown :=
      (evaluated.map fun reports => reports.performance.maxDrawdownPct).max?.getD 0
    maxBestTradeContribution := (evaluated.filterMap positiveBlockContribution).max?
    positiveRealizedFraction :=
      (realizedReturns.countP fun r => 0 < r) / realizedReturns.length }

/-- An undefined contribution never passes. -/
def bestTradeDependencePassed (contribution : Option ℚ) : Bool :=
  contribution.any fun c => c ≤ maxBestTradeContributionPct

/-- The criteria, in the order they are reported. -/
def scorecardCriteria (texts : ReportTexts) (f : ScoredFigures) : List CriterionResult :=
  [⟨"positive_median_block_realized_return", 0 < f.medianRealizedReturn,
      s!"median_block_realized_return_pct={texts.twoDecimals f.medianRealizedReturn} (need > 0)"⟩,
    ⟨"positive_aggregate_realized_pnl", 0 < f.aggregateRealized,
      s!"aggregate_realized_pnl_quote={texts.plain f.aggregateRealized} (need > 0)"⟩,
    ⟨"no_materially_negative_block",
      materiallyNegativeBlockRealizedReturnPct ≤ f.worstRealizedReturn,
      s!"worst_block_realized_return_pct={texts.twoDecimals f.worstRealizedReturn} " ++
        "(need >= -10.0)"⟩,
    ⟨"acceptable_max_drawdown", f.worstBlockDrawdown ≤ maxAcceptableDrawdownPct,
      s!"worst_block_max_drawdown_pct={texts.twoDecimals f.worstBlockDrawdown} (need <= 15.0)"⟩,
    ⟨"limited_best_trade_dependence", bestTradeDependencePassed f.maxBestTradeContribution,
      s!"max_best_trade_contribution_pct={texts.optionalFloat f.maxBestTradeContribution} " ++
        "(need a defined value <= 50.0 - undefined never passes)"⟩,
    ⟨"stable_across_blocks", minPositiveRealizedPnlBlockFraction ≤ f.positiveRealizedFraction,
      s!"positive_realized_pnl_block_fraction={texts.twoDecimals f.positiveRealizedFraction} " ++
        "(need >= 0.6)"⟩]

/-- There is evidence enough to judge a candidate either way. -/
def evidenceOk (totalTrades blocksWithATrade : ℕ) : Prop :=
  minTotalTradesForEvidence ≤ totalTrades ∧ minBlocksWithATrade ≤ blocksWithATrade

instance (totalTrades blocksWithATrade : ℕ) : Decidable (evidenceOk totalTrades blocksWithATrade) :=
  inferInstanceAs (Decidable (_ ∧ _))

/-- `score_candidate`. -/
def scoreCandidate (texts : ReportTexts)
    (result : CandidateBlockedChronologicalResult (BlockReports β)) : ScoredCandidate :=
  let evaluated := evaluatedReports result.blocks
  let totalTrades := (evaluated.map fun reports => reports.performance.tradeCount).sum
  let blocksWithATrade := evaluated.countP fun reports => 0 < reports.performance.tradeCount
  if evidenceOk totalTrades blocksWithATrade then
    let figures := scoredFigures evaluated
    let criteria := scorecardCriteria texts figures
    let failed := (criteria.filter fun c => !c.passed).map CriterionResult.detail
    { candidateId := result.candidate.candidateId
      family := result.candidate.family
      params := result.candidate.params
      status := if failed = [] then .researchSurvivor else .rejected
      criteria := criteria
      reasons := failed
      totalTradeCount := totalTrades
      blocksWithATrade := blocksWithATrade
      blockCount := evaluated.length
      medianBlockRealizedReturnPct := some figures.medianRealizedReturn
      worstBlockRealizedReturnPct := some figures.worstRealizedReturn
      aggregateRealizedPnlQuote := figures.aggregateRealized
      positiveRealizedPnlBlockFraction := some figures.positiveRealizedFraction
      maxBestTradeContributionPct := figures.maxBestTradeContribution
      worstBlockMaxDrawdownPct := some figures.worstBlockDrawdown
      medianBlockMarkedToMarketReturnPct :=
        median? (evaluated.map fun reports => reports.performance.totalReturnPct)
      medianExcessReturnVsBuyAndHoldPct := median? (evaluated.filterMap excessReturnPct) }
  else
    { candidateId := result.candidate.candidateId
      family := result.candidate.family
      params := result.candidate.params
      status := .insufficientEvidence
      criteria :=
        [⟨"sufficient_evidence", false, evidenceDetail totalTrades blocksWithATrade⟩]
      reasons := [evidenceDetail totalTrades blocksWithATrade]
      totalTradeCount := totalTrades
      blocksWithATrade := blocksWithATrade
      blockCount := evaluated.length
      medianBlockRealizedReturnPct := none
      worstBlockRealizedReturnPct := none
      aggregateRealizedPnlQuote := 0
      positiveRealizedPnlBlockFraction := none
      maxBestTradeContributionPct := none
      worstBlockMaxDrawdownPct := none
      medianBlockMarkedToMarketReturnPct := none
      medianExcessReturnVsBuyAndHoldPct := none }

end Scoring

end TradingAgent
