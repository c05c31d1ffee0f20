import TradingAgent.Shadow.SettlingBuffer
import TradingAgent.Shadow.Store

/-!
# Shadow engine — one forward-only cycle

`shadow/engine.py`.  A cycle stores the candles it fetched, runs the whole latest segment again and
persists what is newer than the high-water mark.

* `evaluateCycle` is what follows the storing of the candles; it raises before its transaction
  commits, or returns the store the transaction leaves;
* `runShadowCycleLocked` is the cycle under its lock, for any answer of the exchange;
* `evaluateCycle_cases` is all a cycle can do to the store.

The texts of the notifications are any functions of what the builders are given; deliveries and
daily summaries come after the cycle's transaction, as steps of their own.
-/

namespace TradingAgent

/-! ## The messages -/

/-- What `build_entry_message` is given besides the configuration. -/
structure EntryNotice where
  eventId : String
  symbol : String
  signalTimeMs : ℤ
  entry : OpenPositionInfo
  equityBeforeEntry : ℚ
  realizedPlan : RiskRewardPlan
  /-- The payload of the signal, from which the reason code and the inputs are read. -/
  signalPayload : Option Payload

/-- What `build_exit_message` is given; `tradeRecordsToDate` is what its statistics are computed
from. -/
structure ExitNotice where
  eventId : String
  symbol : String
  record : ShadowTradeRecord
  updatedEquity : ℚ
  tradeRecordsToDate : List ShadowTradeRecord

structure MessageBuilders where
  entry : EntryNotice → Except PyError String
  exit : ExitNotice → Except PyError String

/-- What stays the same from cycle to cycle. -/
structure ShadowSetup where
  config : AppConfig
  strategy : Strategy
  minRequiredCandles : ℕ
  minRequiredCandlesPos : 0 < minRequiredCandles
  messages : MessageBuilders

/-- `f"entry:{...}"`. -/
def entryEventId (entryTimeMs : ℤ) : String :=
  s!"entry:{entryTimeMs}"

/-- `f"exit:{...}"`. -/
def exitEventId (exitTimeMs : ℤ) : String :=
  s!"exit:{exitTimeMs}"

/-- `_equity_before`. -/
def equityBefore (equityCurve : List EquityPoint) (timeMs : ℤ) (fallback : ℚ) : ℚ :=
  ((equityCurve.takeWhile fun point => point.timestampMs < timeMs).getLast?.map
    EquityPoint.equity).getD fallback

/-- `_equity_at_or_after`. -/
def equityAtOrAfter (equityCurve : List EquityPoint) (timeMs : ℤ) (fallback : ℚ) : ℚ :=
  ((equityCurve.find? fun point => timeMs ≤ point.timestampMs).map EquityPoint.equity).getD fallback

/-- `_find_buy_signal`: the payload of the signal whose candle closes right before the entry. -/
def findBuySignal (journal : List JournalEntry) (entryTimeMs : ℤ) : Option Payload :=
  (journal.find? fun row => row.entryType = .signal ∧ row.timestampMs = entryTimeMs - 1 ∧
    Dict.get? row.payload "type" = some (.text "buy")).map JournalEntry.payload

/-- `compute_realized_plan_for_display`. -/
def computeRealizedPlanForDisplay (entryPrice quantity equityBeforeEntry : ℚ) (config : AppConfig)
    (filters : SymbolFilters) : Except PyError RiskRewardPlan :=
  let placeholder : RiskRewardPlan :=
    { rejectedPlan .rrApproved with
      approved := true
      quantity := some quantity }
  buildRealizedPlan placeholder entryPrice config.stopLoss.stopDistancePct config.fees.takerFeePct
    config.fees.slippagePct equityBeforeEntry filters

/-- `_build_entry_notification_event`. -/
def buildEntryNotificationEvent (setup : ShadowSetup) (filters : SymbolFilters)
    (journal : List JournalEntry) (equityCurve : List EquityPoint) (startingEquity : ℚ)
    (nowMs : ℤ) (entry : OpenPositionInfo) : Except PyError NotificationEvent := do
  let equityBeforeEntry := equityBefore equityCurve entry.entryTimeMs startingEquity
  let realizedPlan ← computeRealizedPlanForDisplay entry.entryPrice entry.quantity
    equityBeforeEntry setup.config filters
  let message ← setup.messages.entry
    { eventId := entryEventId entry.entryTimeMs
      symbol := setup.config.market.symbol
      signalTimeMs := entry.entryTimeMs - 1
      entry := entry
      equityBeforeEntry := equityBeforeEntry
      realizedPlan := realizedPlan
      signalPayload := findBuySignal journal entry.entryTimeMs }
  .ok
    { eventId := entryEventId entry.entryTimeMs
      eventType := "entry"
      createdAtMs := nowMs
      payloadText := message }

/-- `_build_exit_notification_event`. -/
def buildExitNotificationEvent (setup : ShadowSetup) (equityCurve : List EquityPoint)
    (startingEquity : ℚ) (nowMs : ℤ) (tradeRecordsToDate : List ShadowTradeRecord)
    (record : ShadowTradeRecord) : Except PyError NotificationEvent := do
  let message ← setup.messages.exit
    { eventId := exitEventId record.exitTimeMs
      symbol := setup.config.market.symbol
      record := record
      updatedEquity := equityAtOrAfter equityCurve record.exitTimeMs startingEquity
      tradeRecordsToDate := tradeRecordsToDate }
  .ok
    { eventId := exitEventId record.exitTimeMs
      eventType := "exit"
      createdAtMs := nowMs
      payloadText := message }

/-- What a loop that appends to a list has appended when it ends or raises. -/
def untilRaise {α : Type*} : List (Except PyError α) → List α
  | .ok a :: rest => a :: untilRaise rest
  | _ => []

/-! ## The new rows -/

/-- The closed trades with the figures of their entries, correlated by their index. -/
def shadowTradeRecords (result : SegmentRunResult) : List ShadowTradeRecord :=
  result.trades.mapIdx fun i trade =>
    { trade := trade
      plannedRiskQuote := result.riskReward.bind fun rr => rr.plannedRiskQuoteValues[i]?
      netRewardToRisk := result.riskReward.bind fun rr => rr.netRewardToRiskValues[i]? }

/-- The entry of a closed trade. -/
def Trade.entry (trade : Trade) : OpenPositionInfo where
  entryTimeMs := trade.entryTimeMs
  entryPrice := trade.entryPrice
  entryReferencePrice := trade.entryReferencePrice
  quantity := trade.quantity
  entryFeeQuote := trade.entryFeeQuote

/-- The entries after the mark: of the open position first, then of the new closed trades. -/
def newEntries (threshold : ℤ) (result : SegmentRunResult)
    (newTradeRecords : List ShadowTradeRecord) : List OpenPositionInfo :=
  KeyedTable.after OpenPositionInfo.entryTimeMs threshold
    (result.openPosition.toList ++ newTradeRecords.map fun record => record.trade.entry)

/-- The events of a cycle, in two loops that an exception ends early. -/
def notificationEvents (setup : ShadowSetup) (filters : SymbolFilters) (threshold : ℤ)
    (result : SegmentRunResult) (journal : List JournalEntry)
    (newTradeRecords storedTrades : List ShadowTradeRecord) (startingEquity : ℚ) (nowMs : ℤ) :
    List NotificationEvent :=
  untilRaise ((newEntries threshold result newTradeRecords).map fun entry =>
      buildEntryNotificationEvent setup filters journal result.equityCurve startingEquity nowMs
        entry) ++
    untilRaise (newTradeRecords.mapIdx fun i record =>
      buildExitNotificationEvent setup result.equityCurve startingEquity nowMs
        (storedTrades ++ newTradeRecords.take (i + 1)) record)

/-! ## The cycle -/

structure ShadowCycleResult where
  status : ShadowStatus
  detail : String
  newCandlesFetched : ℕ
  segmentLength : Option ℕ
  minRequiredCandles : ℕ
  newTradesPersisted : ℕ
  newEquityPointsPersisted : ℕ
  newJournalEntriesPersisted : ℕ
  deriving DecidableEq, Repr

namespace ShadowSetup

variable (setup : ShadowSetup)

def startingEquity : ℚ :=
  setup.config.backtest.startingEquity

/-- The settling buffer counts only for the segment that begins at the warm-up start. -/
def requiredLength (state : ShadowBootstrapState) (segment : List Candle) : ℕ :=
  if segment.head?.map Candle.openTimeMs = some state.warmupStartTimeMs then
    state.effectiveMinRequiredCandles
  else setup.minRequiredCandles

theorem requiredLength_pos (state : ShadowBootstrapState) (segment : List Candle) :
    0 < setup.requiredLength state segment := by
  unfold requiredLength
  split
  · exact state.effectivePos
  · exact setup.minRequiredCandlesPos

/-- The engine as the cycle sets it up for a segment. -/
def env (filters : SymbolFilters) (state : ShadowBootstrapState) (segment : List Candle) : RunEnv :=
  .standard setup.config filters setup.strategy (setup.requiredLength state segment)
    (setup.requiredLength_pos state segment) true

/-- `run_segment` over a segment, with a fresh journal. -/
def evaluate (filters : SymbolFilters) (state : ShadowBootstrapState) (segment : List Candle) :
    Except PyError (SegmentRunResult × Journal) :=
  runSegment (setup.env filters state segment) segment setup.startingEquity (some [])

end ShadowSetup

/-- The result of a cycle that persists no row. -/
def quietResult (status : ShadowStatus) (detail : String) (newCandlesFetched : ℕ)
    (segmentLength : Option ℕ) (minRequiredCandles : ℕ) : ShadowCycleResult :=
  ⟨status, detail, newCandlesFetched, segmentLength, minRequiredCandles, 0, 0, 0⟩

/-- The cycle after `run_segment` has returned: the rows after the mark, and the events they give
rise to, in one transaction. -/
def recordRun (setup : ShadowSetup) (filters : SymbolFilters) (latestSegment : List Candle)
    (newLastProcessed : ℤ) (requiredLen newCandlesFetched : ℕ) (nowMs : ℤ)
    (result : SegmentRunResult) (journal : List JournalEntry) (store : ShadowStore) :
    ShadowStore × ShadowCycleResult :=
  let threshold := store.runState.lastProcessedCloseTimeMs.getD (-1)
  let newTradeRecords :=
    KeyedTable.after ShadowTradeRecord.exitTimeMs threshold (shadowTradeRecords result)
  let newEquityPoints := KeyedTable.after EquityPoint.timestampMs threshold result.equityCurve
  let newJournalEntries := KeyedTable.after JournalEntry.timestampMs threshold journal
  let detail := s!"processed {latestSegment.length} candles in the current segment; " ++
    s!"{newTradeRecords.length} new closed trade(s)."
  let events := notificationEvents setup filters threshold result journal newTradeRecords
    store.getAllTrades setup.startingEquity nowMs
  (store.recordCycleAtomically newTradeRecords newEquityPoints newJournalEntries newLastProcessed
      result.openPosition nowMs latestSegment.length .ok detail events,
    ⟨.ok, detail, newCandlesFetched, some latestSegment.length, requiredLen,
      newTradeRecords.length, newEquityPoints.length, newJournalEntries.length⟩)

/-- The cycle from the reading of the stored candles on. -/
def evaluateCycle (setup : ShadowSetup) (state : ShadowBootstrapState) (newCandlesFetched : ℕ)
    (exchangeInfo : Except PyError SymbolFilters) (nowMs : ℤ) (candleStore : CandleStore)
    (store : ShadowStore) : Except PyError (ShadowStore × ShadowCycleResult) :=
  let allCandles := candleStore.getCandles (some state.warmupStartTimeMs) none
  match allCandles.getLast? with
  | none =>
      let detail := "no shadow candles available yet."
      .ok (store.touchCycle nowMs .noNewCandles detail none,
        quietResult .noNewCandles detail newCandlesFetched none setup.minRequiredCandles)
  | some last =>
      if store.runState.lastProcessedCloseTimeMs = some last.closeTimeMs then
        let detail := "no new completed candle since the last processed cycle."
        let segmentLength := store.runState.lastSegmentLength
        .ok (store.touchCycle nowMs .noNewCandles detail segmentLength,
          quietResult .noNewCandles detail newCandlesFetched segmentLength
            setup.minRequiredCandles)
      else do
        let segmentation ← partitionIntoSegments hourMs allCandles
        match segmentation.segments.getLast? with
        | none => .error .indexOutOfRange
        | some latestSegment =>
            let requiredLen := setup.requiredLength state latestSegment
            if latestSegment.length < requiredLen then
              let detail := "accumulating warm-up/settling buffer: " ++
                s!"{latestSegment.length}/{requiredLen} completed 1h candles in the current " ++
                "gap-free segment - E1 cannot generate an eligible decision yet."
              .ok (store.touchCycle nowMs .insufficientData detail (some latestSegment.length),
                quietResult .insufficientData detail newCandlesFetched (some latestSegment.length)
                  requiredLen)
            else do
              let filters ← exchangeInfo
              let (result, journal) ← setup.evaluate filters state latestSegment
              .ok (recordRun setup filters latestSegment last.closeTimeMs requiredLen
                newCandlesFetched nowMs result journal.rows store)

/-- A cycle that scores the latest segment: what it has found, and the store it leaves. -/
structure ScoredCycle (setup : ShadowSetup) (state : ShadowBootstrapState) (newCandlesFetched : ℕ)
    (exchangeInfo : Except PyError SymbolFilters) (nowMs : ℤ) (candleStore : CandleStore)
    (store store' : ShadowStore) (result : ShadowCycleResult) where
  last : Candle
  segment : List Candle
  filters : SymbolFilters
  run : SegmentRunResult
  journal : Journal
  lastRead : (candleStore.getCandles (some state.warmupStartTimeMs) none).getLast? = some last
  unprocessed : store.runState.lastProcessedCloseTimeMs ≠ some last.closeTimeMs
  ordered : Ordered (candleStore.getCandles (some state.warmupStartTimeMs) none)
  latest : (segmentsOf hourMs
    (candleStore.getCandles (some state.warmupStartTimeMs) none)).getLast? = some segment
  longEnough : setup.requiredLength state segment ≤ segment.length
  filtersRead : exchangeInfo = .ok filters
  ran : setup.evaluate filters state segment = .ok (run, journal)
  recorded : recordRun setup filters segment last.closeTimeMs (setup.requiredLength state segment)
    newCandlesFetched nowMs run journal.rows store = (store', result)

/-- A cycle that returns has only been counted, or has scored the latest segment. -/
theorem evaluateCycle_cases {setup : ShadowSetup} {state : ShadowBootstrapState}
    {newCandlesFetched : ℕ} {exchangeInfo : Except PyError SymbolFilters} {nowMs : ℤ}
    {candleStore : CandleStore} {store store' : ShadowStore} {result : ShadowCycleResult}
    (h : evaluateCycle setup state newCandlesFetched exchangeInfo nowMs candleStore store =
      .ok (store', result)) :
    (∃ status detail segmentLength, store' = store.touchCycle nowMs status detail segmentLength) ∨
      Nonempty (ScoredCycle setup state newCandlesFetched exchangeInfo nowMs candleStore store
        store' result) := by
  unfold evaluateCycle at h
  cases hlast : (candleStore.getCandles (some state.warmupStartTimeMs) none).getLast? with
  | none =>
      simp only [hlast] at h
      cases h
      exact Or.inl ⟨_, _, _, rfl⟩
  | some last =>
      simp only [hlast] at h
      -- the newest candle was read in an earlier cycle
      by_cases hprocessed : store.runState.lastProcessedCloseTimeMs = some last.closeTimeMs
      · rw [if_pos hprocessed] at h
        cases h
        exact Or.inl ⟨_, _, _, rfl⟩
      rw [if_neg hprocessed] at h
      cases hpartition : partitionIntoSegments hourMs
          (candleStore.getCandles (some state.warmupStartTimeMs) none) with
      | error e =>
          simp [hpartition, bind, Except.bind] at h
      | ok segmentation =>
          rcases partitionIntoSegments_eq_ok hpartition with ⟨-, hordered, rfl⟩
          simp only [hpartition, bind, Except.bind] at h
          cases hlatest : (segmentsOf hourMs
              (candleStore.getCandles (some state.warmupStartTimeMs) none)).getLast? with
          | none =>
              simp [hlatest] at h
          | some segment =>
              simp only [hlatest] at h
              -- too few candles since the last gap
              by_cases hshort : segment.length < setup.requiredLength state segment
              · rw [if_pos hshort] at h
                cases h
                exact Or.inl ⟨_, _, _, rfl⟩
              rw [if_neg hshort] at h
              cases exchangeInfo with
              | error e => cases h
              | ok filters =>
                  cases hrun : setup.evaluate filters state segment with
                  | error e =>
                      simp [hrun] at h
                  | ok ran =>
                      rcases ran with ⟨run, journal⟩
                      simp only [hrun, Except.ok.injEq] at h
                      exact Or.inr ⟨⟨last, segment, filters, run, journal, hlast, hprocessed,
                        hordered, hlatest, not_lt.1 hshort, rfl, hrun, h⟩⟩

/-- No cycle touches the row of the bootstrap. -/
theorem evaluateCycle_bootstrapState {setup : ShadowSetup} {state : ShadowBootstrapState}
    {newCandlesFetched : ℕ} {exchangeInfo : Except PyError SymbolFilters} {nowMs : ℤ}
    {candleStore : CandleStore} {store store' : ShadowStore} {result : ShadowCycleResult}
    (h : evaluateCycle setup state newCandlesFetched exchangeInfo nowMs candleStore store =
      .ok (store', result)) : store'.bootstrapState = store.bootstrapState := by
  rcases evaluateCycle_cases h with ⟨status, detail, segmentLength, rfl⟩ | ⟨⟨scored⟩⟩
  · rfl
  · have hstore : store' = (recordRun setup scored.filters scored.segment scored.last.closeTimeMs
        (setup.requiredLength state scored.segment) newCandlesFetched nowMs scored.run
        scored.journal.rows store).1 := (congrArg Prod.fst scored.recorded).symm
    rw [hstore]
    rfl

/-! ## The database and the whole cycle -/

/-- `data/shadow_agent.db`. -/
structure ShadowDb where
  candles : CandleStore
  store : ShadowStore

/-- `filter_from_boundary`. -/
def filterFromBoundary (candles : List Candle) : List Candle :=
  candles.filter fun c => shadowStartBoundaryMs ≤ c.openTimeMs

/-- Where the fetch of a cycle starts. -/
def ShadowDb.fetchStartMs (db : ShadowDb) : ℤ :=
  match db.candles.latestCloseTimeMs with
  | none => shadowStartBoundaryMs
  | some latest => max shadowStartBoundaryMs (latest + 1)

/-- What the exchange answers in one cycle: the completed candles from a time on, and the filters of
the symbol. -/
structure ShadowAnswers where
  fetchCompletedCandles : (startTimeMs : ℤ) → Except PyError (List Candle)
  exchangeInfo : Except PyError SymbolFilters

/-- Store the candles fetched from the boundary on. -/
def ShadowDb.storeFetched (db : ShadowDb) (fetched : List Candle) : ShadowDb :=
  { db with candles := db.candles.upsertCandles (filterFromBoundary fetched) }

/-- `_run_shadow_cycle_locked`: the database it leaves, and what it returns or raises. -/
def runShadowCycleLocked (setup : ShadowSetup) (answers : ShadowAnswers) (nowMs : ℤ)
    (db : ShadowDb) : ShadowDb × Except PyError ShadowCycleResult :=
  match verifyBootstrapComplete hourMs db.candles db.store with
  | .error e => (db, .error e)
  | .ok (.failed reason state) =>
      let status := if state.isNone then ShadowStatus.notBootstrapped else .bootstrapInvalid
      let detail := s!"{reason} Run `shadow-bootstrap` before `shadow-run`."
      (db, .ok (quietResult status detail 0 none setup.minRequiredCandles))
  | .ok (.verified state) =>
      match answers.fetchCompletedCandles db.fetchStartMs with
      | .error e => (db, .error e)
      | .ok fetched =>
          let db := db.storeFetched fetched
          match evaluateCycle setup state (filterFromBoundary fetched).length answers.exchangeInfo
              nowMs db.candles db.store with
          | .error e => (db, .error e)
          | .ok (store, result) => ({ db with store := store }, .ok result)

/-- `run_shadow_cycle`, once its lock is taken: an engaged kill switch ends it before that. -/
def runShadowCycle (setup : ShadowSetup) (killSwitch : Option String) (answers : ShadowAnswers)
    (nowMs : ℤ) (db : ShadowDb) : ShadowDb × Except PyError ShadowCycleResult :=
  match killSwitch with
  | some reason =>
      (db, .ok (quietResult .killSwitchEngaged s!"shadow kill switch is engaged: {reason}" 0 none
        setup.minRequiredCandles))
  | none => runShadowCycleLocked setup answers nowMs db

/-- What a cycle leaves once its candles are fetched: them alone, or with them the store of its
transaction. -/
def CycleLeaves (setup : ShadowSetup) (state : ShadowBootstrapState) (answers : ShadowAnswers)
    (nowMs : ℤ) (db : ShadowDb) (fetched : List Candle) (db' : ShadowDb) : Prop :=
  db' = db.storeFetched fetched ∨
    ∃ store result,
      evaluateCycle setup state (filterFromBoundary fetched).length answers.exchangeInfo nowMs
        (db.storeFetched fetched).candles db.store = .ok (store, result) ∧
      db' = { db.storeFetched fetched with store := store }

theorem runShadowCycle_of_fetched {setup : ShadowSetup} {state : ShadowBootstrapState}
    {answers : ShadowAnswers} {nowMs : ℤ} {db : ShadowDb} {fetched : List Candle}
    (hverify : verifyBootstrapComplete hourMs db.candles db.store = .ok (.verified state))
    (hfetch : answers.fetchCompletedCandles db.fetchStartMs = .ok fetched) :
    CycleLeaves setup state answers nowMs db fetched
      (runShadowCycle setup none answers nowMs db).1 := by
  simp only [runShadowCycle, runShadowCycleLocked, hverify, hfetch]
  cases hcycle : evaluateCycle setup state (filterFromBoundary fetched).length
      answers.exchangeInfo nowMs (db.storeFetched fetched).candles
      (db.storeFetched fetched).store with
  | error e => exact Or.inl rfl
  | ok left =>
      rcases left with ⟨store, result⟩
      exact Or.inr ⟨store, result, hcycle, rfl⟩

/-- A cycle that fetched nothing leaves the database alone. -/
theorem runShadowCycle_cases (setup : ShadowSetup) (killSwitch : Option String)
    (answers : ShadowAnswers) (nowMs : ℤ) (db : ShadowDb) :
    (runShadowCycle setup killSwitch answers nowMs db).1 = db ∨
      ∃ state fetched, verifyBootstrapComplete hourMs db.candles db.store = .ok (.verified state) ∧
        CycleLeaves setup state answers nowMs db fetched
          (runShadowCycle setup killSwitch answers nowMs db).1 := by
  cases killSwitch with
  | some reason => exact Or.inl rfl
  | none =>
      cases hverify : verifyBootstrapComplete hourMs db.candles db.store with
      | error e => exact Or.inl (by simp [runShadowCycle, runShadowCycleLocked, hverify])
      | ok verification =>
          cases verification with
          | failed reason state =>
              exact Or.inl (by simp [runShadowCycle, runShadowCycleLocked, hverify])
          | verified state =>
              cases hfetch : answers.fetchCompletedCandles db.fetchStartMs with
              | error e =>
                  exact Or.inl (by simp [runShadowCycle, runShadowCycleLocked, hverify, hfetch])
              | ok fetched =>
                  exact Or.inr ⟨state, fetched, rfl, runShadowCycle_of_fetched hverify hfetch⟩

end TradingAgent
