import TradingAgent.Library.Ranking
import TradingAgent.Research.PostMortem
import TradingAgent.Research.Scorecard
import TradingAgent.Shadow.Report

/-!
# Post-mortem report — the figures of a candidate's closed trades

`research/post_mortem.py`, over the trades of the blocks of an evaluation and the records that
correlate them with their plans (`correlateTradesWithPlans`).

* `buildCandidatePostMortem` is the report on a candidate;
* `diagnose` is the fixed rule for its diagnosis.

The notes that are the same for every candidate are left out.
-/

namespace TradingAgent

/-! ## Counts and averages -/

structure TradeCounts where
  totalEntriesApproved : ℕ
  closedTrades : ℕ
  wins : ℕ
  losses : ℕ
  breakeven : ℕ
  winRatePct : Option ℚ
  deriving DecidableEq, Repr

/-- The winning trades in percent; there is no rate of no trades. -/
def winRatePct? (trades : List Trade) : Option ℚ :=
  if trades = [] then none
  else some (100 * (trades.countP fun t => 0 < t.pnlQuote) / trades.length)

/-- `_trade_counts`. -/
def tradeCounts (entriesApproved : ℕ) (trades : List Trade) : TradeCounts where
  totalEntriesApproved := entriesApproved
  closedTrades := trades.length
  wins := trades.countP fun t => 0 < t.pnlQuote
  losses := trades.countP fun t => t.pnlQuote < 0
  breakeven := trades.countP fun t => t.pnlQuote = 0
  winRatePct := winRatePct? trades

structure PnlStats where
  averageNetPnlQuote : Option ℚ
  medianNetPnlQuote : Option ℚ
  averageWinnerQuote : Option ℚ
  averageLoserQuote : Option ℚ
  realizedPayoffRatio : Option ℚ
  expectedValueQuote : Option ℚ
  expectedValuePctOfStartingEquity : Option ℚ
  expectedValueRMultiple : Option ℚ
  profitFactor : Option ℚ
  deriving DecidableEq, Repr

/-- `_pnl_stats`. -/
def pnlStats (trades : List Trade) (records : List TradeRecord) (startingEquity : Option ℚ) :
    PnlStats :=
  if trades = [] then ⟨none, none, none, none, none, none, none, none, none⟩
  else
    let pnls := trades.map Trade.pnlQuote
    let averageWinner := mean? (wins trades)
    let averageLoser := mean? (losses trades)
    let expectedValue := pnls.sum / pnls.length
    let grossLoss := |(losses trades).sum|
    { averageNetPnlQuote := some expectedValue
      medianNetPnlQuote := median? pnls
      averageWinnerQuote := averageWinner
      averageLoserQuote := averageLoser
      realizedPayoffRatio := averageWinner.bind fun winner => averageLoser.bind fun loser =>
        if loser = 0 then none else some (winner / |loser|)
      expectedValueQuote := some expectedValue
      expectedValuePctOfStartingEquity := startingEquity.bind fun equity =>
        if equity = 0 then none else some (expectedValue / equity * 100)
      expectedValueRMultiple := mean? (records.filterMap TradeRecord.rMultiple)
      profitFactor := if grossLoss > 0 then some ((wins trades).sum / grossLoss) else none }

/-! ## Exits and multiples of the risk -/

/-- The group of trades a breakdown is of. -/
inductive ExitGroup where
  | reason (exitReason : ExitReason)
  | gapThroughStop
  deriving DecidableEq, Repr

structure ExitReasonBreakdown where
  exitReason : ExitGroup
  tradeCount : ℕ
  winRatePct : Option ℚ
  expectancyQuote : Option ℚ
  deriving DecidableEq, Repr

def groupBreakdown (exitGroup : ExitGroup) (group : List Trade) : ExitReasonBreakdown where
  exitReason := exitGroup
  tradeCount := group.length
  winRatePct := winRatePct? group
  expectancyQuote := mean? (group.map Trade.pnlQuote)

/-- `_EXIT_REASONS`. -/
def exitReasons : List ExitReason := [.takeProfit, .stopLoss, .strategyExit]

/-- `_exit_reason_breakdown`. -/
def exitReasonBreakdown (trades : List Trade) : List ExitReasonBreakdown :=
  exitReasons.map fun reason =>
    groupBreakdown (.reason reason) (trades.filter fun t => t.exitReason = reason)

/-- `_gap_through_stop_breakdown`. -/
def gapThroughStopBreakdown (records : List TradeRecord) : ExitReasonBreakdown :=
  groupBreakdown .gapThroughStop
    ((records.filter fun r => r.isGapThroughStop = some true).map TradeRecord.trade)

structure RealizedRDistribution where
  tradesWithKnownR : ℕ
  tradesExcludedUnknownR : ℕ
  minR : Option ℚ
  medianR : Option ℚ
  meanR : Option ℚ
  maxR : Option ℚ
  pctAtLeastPlus2R : Option ℚ
  pctLosingMoreThanMinus1R : Option ℚ
  deriving DecidableEq, Repr

/-- The share of some numbers in percent; there is none of no numbers. -/
def pctOf? (known : List ℚ) (p : ℚ → Bool) : Option ℚ :=
  if known = [] then none else some (100 * (known.countP p) / known.length)

/-- `_realized_r_distribution`. -/
def realizedRDistribution (records : List TradeRecord) : RealizedRDistribution :=
  let known := records.filterMap TradeRecord.rMultiple
  { tradesWithKnownR := known.length
    tradesExcludedUnknownR := records.length - known.length
    minR := known.min?
    medianR := median? known
    meanR := mean? known
    maxR := known.max?
    pctAtLeastPlus2R := pctOf? known fun r => 2 ≤ r
    pctLosingMoreThanMinus1R := pctOf? known fun r => r < -1 }

structure PlannedVsRealizedRR where
  averagePlannedNetRewardToRisk : Option ℚ
  averageRealizedRMultipleOnWinners : Option ℚ
  totalPlannedRiskQuote : ℚ
  totalPlannedRewardQuote : ℚ
  totalRealizedPnlQuote : ℚ
  deriving DecidableEq, Repr

/-- `_planned_vs_realized`. -/
def plannedVsRealized (records : List TradeRecord)
    (totalPlannedRisk totalPlannedReward totalRealized : ℚ) : PlannedVsRealizedRR where
  averagePlannedNetRewardToRisk := mean? (records.filterMap TradeRecord.plannedNetRewardToRisk)
  averageRealizedRMultipleOnWinners :=
    mean? ((records.filter fun r => 0 < r.trade.pnlQuote).filterMap TradeRecord.rMultiple)
  totalPlannedRiskQuote := totalPlannedRisk
  totalPlannedRewardQuote := totalPlannedReward
  totalRealizedPnlQuote := totalRealized

structure CostTotals where
  totalFeesQuote : ℚ
  totalSlippageQuote : ℚ
  deriving DecidableEq, Repr

/-- `_cost_totals`. -/
def costTotals (trades : List Trade) : CostTotals where
  totalFeesQuote := (trades.map Trade.feesPaid).sum
  totalSlippageQuote := (trades.map Trade.slippageQuote).sum

/-! ## The best trades -/

/-- What is excluded: how many of the best trades. -/
inductive Exclusion where
  | bestTrade
  | best3Trades
  | best5PctOfTrades
  deriving DecidableEq, Repr

def Exclusion.label : Exclusion → String
  | .bestTrade => "excluding_best_trade"
  | .best3Trades => "excluding_best_3_trades"
  | .best5PctOfTrades => "excluding_best_5_pct_of_trades"

/-- Of `n` trades; five percent are rounded up, and one trade at least. -/
def Exclusion.count (n : ℕ) : Exclusion → ℕ
  | .bestTrade => 1
  | .best3Trades => 3
  | .best5PctOfTrades => max 1 ((n * 5 + 99) / 100)

structure ExclusionResult where
  exclusion : Exclusion
  tradesExcluded : ℕ
  netPnlQuote : ℚ
  remainsPositive : Bool
  deriving DecidableEq, Repr

/-- The trades from the most profitable down. -/
def rankedTrades (trades : List Trade) : List Trade :=
  trades.mergeSort fun a b => decide (b.pnlQuote ≤ a.pnlQuote)

/-- The result of one exclusion, of trades of which there is one. -/
def exclusionResult (trades : List Trade) (exclusion : Exclusion) : ExclusionResult :=
  let k := min (exclusion.count trades.length) trades.length
  let remaining := (trades.map Trade.pnlQuote).sum -
    (((rankedTrades trades).take k).map Trade.pnlQuote).sum
  ⟨exclusion, k, remaining, 0 < remaining⟩

/-- `_exclusion_results`, in the order they are reported. -/
def exclusionResults (trades : List Trade) : List ExclusionResult :=
  [Exclusion.bestTrade, .best3Trades, .best5PctOfTrades].map fun exclusion =>
    if trades = [] then ⟨exclusion, 0, 0, false⟩ else exclusionResult trades exclusion

structure ConcentrationStats where
  top1PctOfPositivePnl : Option ℚ
  top3PctOfPositivePnl : Option ℚ
  top5PctOfPositivePnl : Option ℚ
  tradesToReach50PctOfNetProfit : Option ℕ
  tradesToReach100PctOfNetProfit : Option ℕ
  deriving DecidableEq, Repr

/-- The winners' profits from the highest down. -/
def rankedWinners (trades : List Trade) : List ℚ :=
  Ranking.ranked (wins trades)

/-- The share of the `n` largest winners in what all winners made. -/
def topPctOfPositivePnl (trades : List Trade) (n : ℕ) : Option ℚ :=
  let grossPositive := (rankedWinners trades).sum
  if 0 < grossPositive then some (((rankedWinners trades).take n).sum / grossPositive * 100)
  else none

/-- The loop over the ranked profits, after `i` of them: how many it takes to half of the net profit,
and to all of it, where the loop ends. -/
def concentrationLoop (netProfit : ℚ) :
    (ranked : List ℚ) → (cumulative : ℚ) → (i : ℕ) → (to50 : Option ℕ) → Option ℕ × Option ℕ
  | [], _, _, to50 => (to50, none)
  | pnl :: rest, cumulative, i, to50 =>
      let to50 :=
        if to50 = none ∧ netProfit * (1 / 2) ≤ cumulative + pnl then some (i + 1) else to50
      if netProfit ≤ cumulative + pnl then (to50, some (i + 1))
      else concentrationLoop netProfit rest (cumulative + pnl) (i + 1) to50

/-- `_concentration_stats`. -/
def concentrationStats (trades : List Trade) : ConcentrationStats :=
  let netProfit := (trades.map Trade.pnlQuote).sum
  let tradesTo :=
    if 0 < netProfit then
      concentrationLoop netProfit (Ranking.ranked (trades.map Trade.pnlQuote)) 0 0 none
    else (none, none)
  { top1PctOfPositivePnl := topPctOfPositivePnl trades 1
    top3PctOfPositivePnl := topPctOfPositivePnl trades 3
    top5PctOfPositivePnl := topPctOfPositivePnl trades 5
    tradesToReach50PctOfNetProfit := tradesTo.1
    tradesToReach100PctOfNetProfit := tradesTo.2 }

/-! ## Stability over time -/

structure BlockChronoStat where
  segmentIndex : ℕ
  blockIndex : ℕ
  windowStartTimeMs : Option ℤ
  windowEndTimeMs : Option ℤ
  tradeCount : ℕ
  netPnlQuote : ℚ
  positive : Bool
  deriving DecidableEq, Repr

structure YearlyStat where
  year : ℤ
  tradeCount : ℕ
  netPnlQuote : ℚ
  winRatePct : Option ℚ
  deriving DecidableEq, Repr

structure HalfSplitStat where
  tradeCount : ℕ
  netPnlQuote : ℚ
  winRatePct : Option ℚ
  deriving DecidableEq, Repr

structure ChronologicalStability where
  perBlock : List BlockChronoStat
  perCalendarYear : List YearlyStat
  longestLosingStreakTrades : ℕ
  longestUnderwaterPeriodDays : Option ℚ
  firstHalf : HalfSplitStat
  secondHalf : HalfSplitStat
  deriving DecidableEq, Repr

/-- `_half_split_stat`. -/
def halfSplitStat (trades : List Trade) : HalfSplitStat :=
  ⟨trades.length, (trades.map Trade.pnlQuote).sum, winRatePct? trades⟩

def yearlyStat (year : ℤ) (group : List Trade) : YearlyStat :=
  ⟨year, group.length, (group.map Trade.pnlQuote).sum, winRatePct? group⟩

/-- The trades in the order of their entries. -/
def chronological (records : List TradeRecord) : List Trade :=
  (records.mergeSort fun a b => decide (a.trade.entryTimeMs ≤ b.trade.entryTimeMs)).map
    TradeRecord.trade

/-- The variables of the scan of the cumulative profit. -/
structure CumulativeVars where
  cumulative : ℚ
  peak : ℚ
  peakTimeMs : ℤ
  underwaterStartMs : Option ℤ
  bestDurationMs : ℤ

def CumulativeVars.close (v : CumulativeVars) (timeMs : ℤ) : CumulativeVars :=
  match v.underwaterStartMs with
  | none => v
  | some start => { v with bestDurationMs := max v.bestDurationMs (timeMs - start) }

def CumulativeVars.step (v : CumulativeVars) (t : Trade) : CumulativeVars :=
  let cumulative := v.cumulative + t.pnlQuote
  if cumulative ≥ v.peak then
    { v.close t.exitTimeMs with
      cumulative := cumulative
      peak := cumulative
      peakTimeMs := t.exitTimeMs
      underwaterStartMs := none }
  else
    match v.underwaterStartMs with
    | none => { v with cumulative := cumulative, underwaterStartMs := some v.peakTimeMs }
    | some _ => { v with cumulative := cumulative }

/-- How long the cumulative profit of ordered trades stayed below an earlier one, in days. -/
def longestUnderwaterDays (orderedTrades : List Trade) : Option ℚ :=
  match orderedTrades.head?, orderedTrades.getLast? with
  | some first, some last =>
      let v := (orderedTrades.foldl CumulativeVars.step ⟨0, 0, first.exitTimeMs, none, 0⟩).close
        last.exitTimeMs
      if v.bestDurationMs > 0 then some (v.bestDurationMs / msPerDay) else none
  | _, _ => none

section Report

variable {ρ : Type}

/-- The blocks that were not skipped. -/
def evaluatedBlocks (blocks : List (BlockResult ρ)) : List (BlockResult ρ) :=
  blocks.filter fun block => block.block.skippedReason = none

def blockChronoStat (block : BlockResult ρ) : BlockChronoStat :=
  let net := (block.trades.map Trade.pnlQuote).sum
  ⟨block.block.segmentIndex, block.block.blockIndex, block.block.windowStartTimeMs,
    block.block.windowEndTimeMs, block.trades.length, net, 0 < net⟩

/-- `_chronological_stability`. -/
def chronologicalStability (blocks : List (BlockResult ρ)) (records : List TradeRecord) :
    ChronologicalStability :=
  let ordered := chronological records
  let mid := ordered.length / 2
  { perBlock := (evaluatedBlocks blocks).map blockChronoStat
    perCalendarYear :=
      (Buckets.buckets (fun t => utcYear t.entryTimeMs) ordered).map fun entry =>
        yearlyStat entry.1 entry.2
    longestLosingStreakTrades := (ordered.foldl losingStreakStep (0, 0)).1
    longestUnderwaterPeriodDays := longestUnderwaterDays ordered
    firstHalf := halfSplitStat (ordered.take mid)
    secondHalf := halfSplitStat (ordered.drop mid) }

/-! ## The policy's figures -/

structure RiskRewardPolicyDiagnostics where
  entriesRejectedNetRrBelowMinimum : ℕ
  entriesRejectedExchangeFilter : ℕ
  entriesRejectedPostFillRevalidation : ℕ
  stopLossTradesTotal : ℕ
  stopLossTradesWithinPlannedRisk : ℕ
  stopLossTradesGapExceedingPlannedRisk : ℕ
  planned1PctRiskCompliancePct : Option ℚ
  deriving DecidableEq, Repr

/-- `_risk_reward_policy_diagnostics`. -/
def riskRewardPolicyDiagnostics (blocks : List (BlockResult ρ)) (records : List TradeRecord) :
    RiskRewardPolicyDiagnostics :=
  let rrBlocks := blocks.filterMap BlockResult.riskReward
  let stopRecords := records.filter fun r => r.trade.exitReason = .stopLoss
  let knownGap := stopRecords.filterMap TradeRecord.isGapThroughStop
  let within := knownGap.countP fun gap => !gap
  { entriesRejectedNetRrBelowMinimum :=
      (rrBlocks.map RiskRewardDiagnostics.entriesRejectedNetRrBelowMinimum).sum
    entriesRejectedExchangeFilter :=
      (rrBlocks.map RiskRewardDiagnostics.entriesRejectedExchangeFilterWithinRiskBudget).sum
    entriesRejectedPostFillRevalidation :=
      (rrBlocks.map RiskRewardDiagnostics.entriesRejectedPostFillRevalidation).sum
    stopLossTradesTotal := stopRecords.length
    stopLossTradesWithinPlannedRisk := within
    stopLossTradesGapExceedingPlannedRisk := knownGap.countP fun gap => gap
    planned1PctRiskCompliancePct :=
      if knownGap = [] then none else some (100 * within / knownGap.length) }

/-! ## The diagnosis -/

inductive EvidenceDiagnosis where
  | broadPositiveExpectancy
  | concentratedFragilePositiveExpectancy
  | negativeExpectancy
  | insufficientEvidence
  deriving DecidableEq, Repr

def top3ConcentrationFragileThresholdPct : ℚ := 75

/-- Whether the trades made money without those excluded. -/
def remainsPositive (exclusions : List ExclusionResult) (exclusion : Exclusion) : Bool :=
  (exclusions.find? fun e => e.exclusion = exclusion).any ExclusionResult.remainsPositive

/-- What is held against a broad expectancy. -/
def reasonsAgainstBroad (texts : ReportTexts) (exclusions : List ExclusionResult)
    (top3PositivePct positiveBlockFraction : Option ℚ) : List String :=
  (if remainsPositive exclusions .bestTrade then []
    else ["aggregate PnL is not positive once the single best trade is excluded"]) ++
  (if remainsPositive exclusions .best3Trades then []
    else ["aggregate PnL is not positive once the best 3 trades are excluded"]) ++
  (match top3PositivePct with
    | some pct =>
        if pct > top3ConcentrationFragileThresholdPct then
          [s!"top 3 winning trades supply {texts.oneDecimal pct}% of gross winning PnL (> 75.0%)"]
        else []
    | none => []) ++
  (match positiveBlockFraction with
    | some fraction =>
        if fraction < minPositiveRealizedPnlBlockFraction then
          [s!"positive_block_fraction={texts.float fraction} (need >= 0.6)"]
        else []
    | none => ["positive_block_fraction=None (need >= 0.6)"])

/-- `_diagnose`. -/
def diagnose (texts : ReportTexts) (totalClosedTrades blocksWithATrade : ℕ) (aggregatePnl : ℚ)
    (exclusions : List ExclusionResult) (top3PositivePct positiveBlockFraction : Option ℚ) :
    EvidenceDiagnosis × String :=
  if ¬ evidenceOk totalClosedTrades blocksWithATrade then
    (.insufficientEvidence,
      s!"total_closed_trades={totalClosedTrades} (need >= 30), " ++
        s!"blocks_with_a_trade={blocksWithATrade} (need >= 4).")
  else if aggregatePnl ≤ 0 then
    (.negativeExpectancy,
      s!"aggregate_realized_pnl_quote={texts.plain aggregatePnl} (<= 0).")
  else
    let reasons := reasonsAgainstBroad texts exclusions top3PositivePct positiveBlockFraction
    if reasons = [] then
      (.broadPositiveExpectancy,
        "aggregate PnL positive, sufficient evidence, survives excluding the best trade and best 3 " ++
          "trades, top-3 concentration and per-block positivity both within the declared bar.")
    else (.concentratedFragilePositiveExpectancy, "; ".intercalate reasons)

/-! ## The report -/

/-- What removing the best trades leaves, of a candidate of the breakout family. -/
structure BreakoutExclusionCheck where
  applicable : Bool
  remainsPositiveExcludingBestTrade : Option Bool
  remainsPositiveExcludingBest3Trades : Option Bool
  remainsPositiveExcludingBest5Pct : Option Bool
  deriving DecidableEq, Repr

def breakoutFamily : String := "volatility_normalized_breakout"

/-- `_breakout_exclusion_check`. -/
def breakoutExclusionCheck (family : String) (exclusions : List ExclusionResult) :
    BreakoutExclusionCheck :=
  if family ≠ breakoutFamily then ⟨false, none, none, none⟩
  else ⟨true, some (remainsPositive exclusions .bestTrade),
    some (remainsPositive exclusions .best3Trades),
    some (remainsPositive exclusions .best5PctOfTrades)⟩

structure CandidatePostMortem where
  candidate : CandidateSpec
  tradeCounts : TradeCounts
  pnlStats : PnlStats
  exitReasonBreakdown : List ExitReasonBreakdown
  realizedRDistribution : RealizedRDistribution
  plannedVsRealized : PlannedVsRealizedRR
  costs : CostTotals
  exclusions : List ExclusionResult
  concentration : ConcentrationStats
  chronologicalStability : ChronologicalStability
  riskRewardDiagnostics : RiskRewardPolicyDiagnostics
  breakoutExclusionCheck : BreakoutExclusionCheck
  diagnosis : EvidenceDiagnosis
  diagnosisReason : String
  warnings : List String
  deriving DecidableEq, Repr

/-- The one starting equity of all reports, with a warning where they disagree. -/
def commonStartingEquity {β : Type} (texts : ReportTexts) (reports : List (BlockReports β)) :
    Option ℚ × List String :=
  match (reports.map fun r => r.performance.startingEquity).dedup with
  | [] => (none, [])
  | [equity] => (some equity, [])
  | equities =>
      let sorted := equities.mergeSort fun a b => decide (a ≤ b)
      (none, ["blocks used inconsistent starting_equity values [" ++
        ", ".intercalate (sorted.map fun equity => s!"Decimal('{texts.plain equity}')") ++
        "] - expected_value_pct_of_starting_equity is left undefined (None)."])

/-- `build_candidate_post_mortem`. -/
def buildCandidatePostMortem {β : Type} (texts : ReportTexts)
    (result : CandidateBlockedChronologicalResult (BlockReports β)) : CandidatePostMortem :=
  let blocks := evaluatedBlocks result.blocks
  let allTrades := blocks.flatMap BlockResult.trades
  let allRecords := blocks.flatMap correlateTradesWithPlans
  let rrBlocks := blocks.filterMap BlockResult.riskReward
  let equity := commonStartingEquity texts (blocks.filterMap BlockResult.reports)
  let aggregatePnl := (allTrades.map Trade.pnlQuote).sum
  let exclusions := exclusionResults allTrades
  let concentration := concentrationStats allTrades
  let stability := TradingAgent.chronologicalStability blocks allRecords
  let positiveBlockFraction : Option ℚ :=
    if stability.perBlock = [] then none
    else some ((stability.perBlock.countP BlockChronoStat.positive) / stability.perBlock.length)
  let diagnosis := diagnose texts allTrades.length
    (blocks.countP fun block => 0 < block.trades.length) aggregatePnl exclusions
    concentration.top3PctOfPositivePnl positiveBlockFraction
  { candidate := result.candidate
    tradeCounts := TradingAgent.tradeCounts
      (rrBlocks.map RiskRewardDiagnostics.entriesApproved).sum allTrades
    pnlStats := TradingAgent.pnlStats allTrades allRecords equity.1
    exitReasonBreakdown :=
      TradingAgent.exitReasonBreakdown allTrades ++ [gapThroughStopBreakdown allRecords]
    realizedRDistribution := TradingAgent.realizedRDistribution allRecords
    plannedVsRealized := TradingAgent.plannedVsRealized allRecords
      (rrBlocks.map RiskRewardDiagnostics.plannedRiskQuoteTotal).sum
      (rrBlocks.map RiskRewardDiagnostics.plannedRewardQuoteTotal).sum aggregatePnl
    costs := costTotals allTrades
    exclusions := exclusions
    concentration := concentration
    chronologicalStability := stability
    riskRewardDiagnostics := riskRewardPolicyDiagnostics blocks allRecords
    breakoutExclusionCheck :=
      TradingAgent.breakoutExclusionCheck result.candidate.family exclusions
    diagnosis := diagnosis.1
    diagnosisReason := diagnosis.2
    warnings := equity.2 }

/-- `build_post_mortem_report`: the candidates in the order they are given. -/
def buildPostMortemReport {β : Type} (texts : ReportTexts)
    (results : List (CandidateBlockedChronologicalResult (BlockReports β))) :
    List CandidatePostMortem :=
  results.map (buildCandidatePostMortem texts)

end Report

end TradingAgent
