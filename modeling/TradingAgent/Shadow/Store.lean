import TradingAgent.Backtest.Continuation
import TradingAgent.Data.Storage
import TradingAgent.Shadow.Outbox

/-!
# Shadow store — what the shadow cycles persist

`shadow/store.py`, without the delivery of its outbox (`Shadow/Outbox.lean`), and the check of the
bootstrap in `shadow/bootstrap.py`.  The candles of `data/shadow_agent.db` are a `CandleStore`, its
other tables a `ShadowStore`; each of its writes is one transaction.
-/

namespace TradingAgent

/-! ## Rows -/

/-- A closed trade with the figures it was entered under. -/
structure ShadowTradeRecord where
  trade : Trade
  plannedRiskQuote : Option ℚ
  netRewardToRisk : Option ℚ
  deriving DecidableEq, Repr

/-- The record of the one-time warm-up fetch. -/
structure ShadowBootstrapState where
  warmupStartTimeMs : ℤ
  warmupLastOpenTimeMs : ℤ
  warmupCandleCount : ℕ
  effectiveMinRequiredCandles : ℕ
  effectivePos : 0 < effectiveMinRequiredCandles

inductive ShadowStatus where
  | killSwitchEngaged
  | notBootstrapped
  | bootstrapInvalid
  | noNewCandles
  | insufficientData
  | ok
  deriving DecidableEq, Repr

def ShadowStatus.text : ShadowStatus → String
  | .killSwitchEngaged => "KILL_SWITCH_ENGAGED"
  | .notBootstrapped => "NOT_BOOTSTRAPPED"
  | .bootstrapInvalid => "BOOTSTRAP_INVALID"
  | .noNewCandles => "NO_NEW_CANDLES"
  | .insufficientData => "INSUFFICIENT_DATA"
  | .ok => "OK"

/-- The one row of `shadow_run_state`; the defaults are what a missing row is read as. -/
structure ShadowRunState where
  lastProcessedCloseTimeMs : Option ℤ := none
  lastRunAtMs : Option ℤ := none
  totalCycles : ℕ := 0
  lastSegmentLength : Option ℕ := none
  lastCycleStatus : String := ""
  lastCycleDetail : String := ""
  openPosition : Option OpenPositionInfo := none
  deriving DecidableEq, Repr

structure ShadowStore where
  runState : ShadowRunState := {}
  trades : List ShadowTradeRecord := []
  equity : List EquityPoint := []
  journalEntries : List JournalEntry := []
  outbox : Outbox := []
  bootstrapState : Option ShadowBootstrapState := none

/-! ## Primary keys -/

def ShadowTradeRecord.exitTimeMs (record : ShadowTradeRecord) : ℤ :=
  record.trade.exitTimeMs

namespace ShadowStore

/-- `touch_cycle`: a cycle that made no data changes. -/
def touchCycle (store : ShadowStore) (nowMs : ℤ) (status : ShadowStatus) (detail : String)
    (segmentLength : Option ℕ) : ShadowStore :=
  { store with
    runState := { store.runState with
      lastRunAtMs := some nowMs
      totalCycles := store.runState.totalCycles + 1
      lastSegmentLength := segmentLength
      lastCycleStatus := status.text
      lastCycleDetail := detail } }

/-- `record_cycle_atomically`: the new rows, the snapshot of the open position and the high-water
mark, in one transaction. -/
def recordCycleAtomically (store : ShadowStore) (newTrades : List ShadowTradeRecord)
    (newEquityPoints : List EquityPoint) (newJournalEntries : List JournalEntry)
    (newLastProcessedCloseTimeMs : ℤ) (openPosition : Option OpenPositionInfo) (nowMs : ℤ)
    (segmentLength : ℕ) (status : ShadowStatus) (detail : String)
    (notificationEvents : List NotificationEvent) : ShadowStore :=
  { store with
    trades := KeyedTable.insertAll ShadowTradeRecord.exitTimeMs store.trades newTrades
    equity := KeyedTable.insertAll EquityPoint.timestampMs store.equity newEquityPoints
    journalEntries := KeyedTable.insertAll JournalEntry.key store.journalEntries newJournalEntries
    outbox := store.outbox.enqueue notificationEvents
    runState :=
      { lastProcessedCloseTimeMs := some newLastProcessedCloseTimeMs
        lastRunAtMs := some nowMs
        totalCycles := store.runState.totalCycles + 1
        lastSegmentLength := some segmentLength
        lastCycleStatus := status.text
        lastCycleDetail := detail
        openPosition := openPosition } }

/-- `record_bootstrap_atomically`: a row that is there is never replaced. -/
def recordBootstrapAtomically (store : ShadowStore) (state : ShadowBootstrapState) : ShadowStore :=
  { store with bootstrapState := store.bootstrapState.or (some state) }

/-- `get_all_trades`. -/
def getAllTrades (store : ShadowStore) : List ShadowTradeRecord :=
  store.trades.insertionSort fun a b => a.exitTimeMs ≤ b.exitTimeMs

end ShadowStore

/-! ## The bootstrap -/

/-- What `verify_bootstrap_complete` answers: a verified range, or why there is none. -/
inductive BootstrapVerification where
  | verified (state : ShadowBootstrapState)
  | failed (reason : String) (state : Option ShadowBootstrapState)

/-- `verify_bootstrap_complete`, for the interval whose length is `stepMs`: a re-check of the stored
candles, not of a flag. -/
def verifyBootstrapComplete (stepMs : ℤ) (candleStore : CandleStore) (store : ShadowStore) :
    Except PyError BootstrapVerification :=
  match store.bootstrapState with
  | none =>
      .ok (.failed
        "shadow mode has not been bootstrapped yet - run `shadow-bootstrap` first." none)
  | some state =>
      let candles := candleStore.getCandles (some state.warmupStartTimeMs)
        (some state.warmupLastOpenTimeMs)
      if candles.length ≠ state.warmupCandleCount then
        .ok (.failed (s!"expected {state.warmupCandleCount} stored warm-up candle(s), found " ++
          s!"{candles.length} - warm-up data may be missing or corrupted; re-run shadow-bootstrap.")
            (some state))
      else
        match candles.head?, candles.getLast? with
        | some first, some last =>
            if first.openTimeMs ≠ state.warmupStartTimeMs ∨
                last.openTimeMs ≠ state.warmupLastOpenTimeMs then
              .ok (.failed
                "stored warm-up candle range no longer matches the recorded bootstrap boundaries."
                (some state))
            else do
              let segmentation ← partitionIntoSegments stepMs candles
              if segmentation.gaps = [] then .ok (.verified state)
              else
                .ok (.failed (s!"{segmentation.gaps.length} confirmed gap(s) found in " ++
                  "previously-bootstrapped warm-up data.") (some state))
        | _, _ => .error .indexOutOfRange

end TradingAgent
