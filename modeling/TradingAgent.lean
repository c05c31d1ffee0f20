import TradingAgent.Library.KeyedTable
import TradingAgent.Library.Transactions
import TradingAgent.Core.Decimal
import TradingAgent.Core.Market
import TradingAgent.Core.Config
import TradingAgent.Library.StepGrid
import TradingAgent.Library.CausalRun
import TradingAgent.Sizing.Filters
import TradingAgent.Risk.Engine
import TradingAgent.Portfolio.State
import TradingAgent.Portfolio.Conservation
import TradingAgent.Backtest.RiskReward
import TradingAgent.Backtest.Records
import TradingAgent.Backtest.Engine
import TradingAgent.Backtest.Transitions
import TradingAgent.Backtest.Causality
import TradingAgent.Backtest.Invariant
import TradingAgent.Backtest.PlannedRisk
import TradingAgent.Backtest.Continuation
import TradingAgent.Backtest.Gates
import TradingAgent.Backtest.Episodes
import TradingAgent.Backtest.Affordability
import TradingAgent.Backtest.RoundedStops
import TradingAgent.Execution.OrderOutcome
import TradingAgent.Execution.ExecutionStore
import TradingAgent.Execution.FillAccounting
import TradingAgent.Library.Effects
import TradingAgent.Execution.LiveRunner
import TradingAgent.Execution.Exchange
import TradingAgent.Execution.Protocol
import TradingAgent.Execution.CycleSafety
import TradingAgent.Execution.OrderProtocol
import TradingAgent.Research.Freeze
import TradingAgent.Shadow.Outbox
import TradingAgent.Library.Groups
import TradingAgent.Library.CausalSeries
import TradingAgent.Data.GapDetection
import TradingAgent.Data.HistoricalFetch
import TradingAgent.Data.FetchCompleteness
import TradingAgent.Data.FetchLoss
import TradingAgent.Data.Storage
import TradingAgent.Data.CandleDb
import TradingAgent.Research.Cutoff
import TradingAgent.Data.GapRecovery
import TradingAgent.Library.Runs
import TradingAgent.Data.GapManifest
import TradingAgent.Research.FixedDuration
import TradingAgent.Research.ScheduleGrid
import TradingAgent.Research.ScheduleSafety
import TradingAgent.Strategy.Indicators
import TradingAgent.Strategy.MultiTimeframeBreakout
import TradingAgent.Strategy.NoRepaint
import TradingAgent.Strategy.SingleEntry
import TradingAgent.Backtest.Decisions
import TradingAgent.Shadow.SettlingBuffer
import TradingAgent.Execution.AgentRuns
import TradingAgent.Execution.CycleRerun
import TradingAgent.Execution.RiskHistory
import TradingAgent.Execution.RiskTracking
import TradingAgent.Shadow.Store
import TradingAgent.Shadow.Engine
import TradingAgent.Shadow.Bootstrap
import TradingAgent.Library.Cuts
import TradingAgent.Shadow.Arrivals
import TradingAgent.Data.RecoveryApply
import TradingAgent.Research.BlockedChronological
import TradingAgent.Shadow.Scored
import TradingAgent.Shadow.Covers
import TradingAgent.Shadow.Schedules
import TradingAgent.Shadow.GapSchedules
import TradingAgent.Library.Linking
import TradingAgent.Research.Fingerprint
import TradingAgent.Research.Drift
import TradingAgent.Backtest.EntryPlans
import TradingAgent.Research.PostMortem
import TradingAgent.Shadow.DisplayedPlan
import TradingAgent.Execution.ColdStart
import TradingAgent.Execution.Resolution
import TradingAgent.Data.GapAudit
import TradingAgent.Data.GapConfirmed
import TradingAgent.Data.GapResume
import TradingAgent.Strategy.GatedBreakout
import TradingAgent.Library.Stretch
import TradingAgent.Strategy.TrendRegime
import TradingAgent.Data.Segmentation
import TradingAgent.Backtest.EntrySizing
import TradingAgent.Shadow.SafeRetry
import TradingAgent.Data.Checkpoint
import TradingAgent.Shadow.WarmUp
import TradingAgent.Library.Drawdown
import TradingAgent.Metrics.Performance
import TradingAgent.Backtest.Marks
import TradingAgent.Shadow.Report
import TradingAgent.Strategy.TrendBaseline
import TradingAgent.Backtest.RunBacktest
import TradingAgent.Backtest.Journaling
import TradingAgent.Backtest.Accounting
import TradingAgent.Library.Streak
import TradingAgent.Library.Underwater
import TradingAgent.Library.Buckets
import TradingAgent.Metrics.Calendar
import TradingAgent.Metrics.ExtendedReport
import TradingAgent.Metrics.ExtendedFigures
import TradingAgent.Library.Ranking
import TradingAgent.Research.Scorecard
import TradingAgent.Research.TradeOrder
import TradingAgent.Research.Survivors
import TradingAgent.Research.PostMortemReport
import TradingAgent.Research.PostMortemFigures
import TradingAgent.Research.Stability
import TradingAgent.Research.StopGaps
import TradingAgent.Research.Diagnosis
import TradingAgent.Library.Tally
import TradingAgent.Backtest.Rejections
import TradingAgent.Backtest.SignalFunnel
import TradingAgent.Backtest.ShutdownLatch
import TradingAgent.Backtest.Breakdown
import TradingAgent.Backtest.SplitBreakdown
import TradingAgent.Shadow.ExitMessages
import TradingAgent.Library.Replacing
import TradingAgent.Logging.LoggingSetup
import TradingAgent.Logging.Redaction
import TradingAgent.Logging.LogLines
