import TradingAgent.Backtest.Breakdown
import TradingAgent.Metrics.ExtendedReport
import TradingAgent.Shadow.Report

/-!
# Exit messages — the trades so far, as each exit message counts them

`compute_trade_stats_to_date` and `build_exit_message` of `shadow/notifications/builder.py`.  A cycle
builds the message of an exit before its transaction commits, from the stored trades and its own
trades up to the one it reports.

* `TellsExit` says what the event of an exit was built from, and no later cycle changes it;
* `Scheduled.exitsTold_final`: so it is for every exit event, after any schedule;
* `exit_messages_to_date`: each message shows what the report shows of the table up to its trade.
-/

namespace TradingAgent

/-! ## The message -/

/-- `compute_trade_stats_to_date`'s figures. -/
structure TradeStatsToDate where
  closedTradeCount : ℕ
  winRatePct : Option ℚ
  expectancyQuote : Option ℚ
  expectancyR : Option ℚ
  deriving DecidableEq, Repr

def computeTradeStatsToDate (tradeRecords : List ShadowTradeRecord) : TradeStatsToDate :=
  let trades := tradeRecords.map ShadowTradeRecord.trade
  if trades = [] then ⟨0, none, none, none⟩
  else
    let wins := trades.filter fun t => t.pnlQuote > 0
    { closedTradeCount := trades.length
      winRatePct := some (100 * wins.length / trades.length)
      expectancyQuote := some ((trades.map Trade.pnlQuote).sum / trades.length)
      expectancyR := mean? (tradeRecords.filterMap ShadowTradeRecord.rMultiple?) }

/-- How numbers are written: `_fmt_money`, one decimal, two decimals, and as they are. -/
structure MessageTexts extends NumberTexts where
  money : ℚ → String
  oneDecimal : ℚ → String

def noRealOrderNote : String :=
  "⚠️ NO REAL OR TESTNET ORDER WAS PLACED - this is a simulated shadow-mode event only."

/-- `_EXIT_REASON_LABELS`, with `_STRATEGY_EXIT_LABEL` for any other reason. -/
def ExitReason.label : ExitReason → String
  | .takeProfit => "TAKE-PROFIT"
  | .stopLoss => "STOP-LOSS"
  | .strategyExit => "STRATEGY EXIT"

/-- `build_exit_message`; the realized multiple of the risk is that of the report. -/
def buildExitMessage (texts : MessageTexts) (eventId symbol : String) (record : ShadowTradeRecord)
    (updatedEquity : ℚ) (stats : TradeStatsToDate) : String :=
  let trade := record.trade
  let grossPnl := trade.pnlQuote + trade.feesPaid
  let entryNotional := trade.quantity * trade.entryPrice
  let holdingHours : ℚ := (trade.exitTimeMs - trade.entryTimeMs) / hourMs
  "\n".intercalate
    ["🔴 SHADOW EXIT",
      s!"Event ID: {eventId}",
      s!"Symbol: {symbol}",
      s!"Exit reason: {trade.exitReason.label}",
      s!"Entry timestamp (ms): {trade.entryTimeMs}  price: {texts.money trade.entryPrice}",
      s!"Exit timestamp (ms): {trade.exitTimeMs}  price: {texts.money trade.exitPrice}",
      s!"Quantity: {texts.plain trade.quantity}",
      s!"Holding duration: {texts.oneDecimal holdingHours} hour(s)",
      s!"Gross PnL: {texts.money grossPnl}",
      s!"Fees paid: {texts.money trade.feesPaid}",
      s!"Slippage cost: {texts.money (slippageCost trade)}",
      s!"Net PnL: {texts.money trade.pnlQuote}" ++
        (if entryNotional > 0 then
          s!" ({texts.twoDecimals (trade.pnlQuote / entryNotional * 100)}% of entry notional)"
        else ""),
      match record.rMultiple? with
      | some realizedR => s!"Realized R-multiple: {texts.twoDecimals realizedR}R"
      | none => "Realized R-multiple: n/a",
      s!"Updated simulated equity: {texts.money updatedEquity}",
      s!"Closed trade count (to date): {stats.closedTradeCount}",
      match stats.winRatePct with
      | some winRate => s!"Win rate (to date): {texts.twoDecimals winRate}%"
      | none => "Win rate (to date): n/a",
      "Expectancy (to date): " ++ ((stats.expectancyQuote.map texts.money).getD "n/a") ++
        (match stats.expectancyR with
        | some r => s!" ({texts.twoDecimals r}R)"
        | none => ""),
      "",
      noRealOrderNote]

/-- The message as the cycle builds it. -/
def ExitNotice.message (texts : MessageTexts) (notice : ExitNotice) : String :=
  buildExitMessage texts notice.eventId notice.symbol notice.record notice.updatedEquity
    (computeTradeStatsToDate notice.tradeRecordsToDate)

/-- The same figures, as the report has them. -/
def ShadowReport.statsToDate (report : ShadowReport) : TradeStatsToDate where
  closedTradeCount := report.performance.tradeCount
  winRatePct := report.performance.winRate
  expectancyQuote := report.expectancyQuote
  expectancyR := report.expectancyR

/-! ## What an event tells -/

/-- The event is that of a stored trade: its message was built from the trades stored up to it and
the first stored equity at or after its exit. -/
structure TellsExit (setup : ShadowSetup) (trades : List ShadowTradeRecord)
    (equity : List EquityPoint) (event : NotificationEvent) (earlier : List ShadowTradeRecord)
    (record : ShadowTradeRecord) (later : List ShadowTradeRecord) (point : EquityPoint) : Prop where
  stored : trades = earlier ++ record :: later
  atExit : equity.find? (fun p => record.exitTimeMs ≤ p.timestampMs) = some point
  id : event.eventId = exitEventId record.exitTimeMs
  built : setup.messages.exit
    { eventId := exitEventId record.exitTimeMs
      symbol := setup.config.market.symbol
      record := record
      updatedEquity := point.equity
      tradeRecordsToDate := earlier ++ [record] } = .ok event.payloadText

/-- Every exit event tells a stored trade. -/
def ExitsTold (setup : ShadowSetup) (store : ShadowStore) : Prop :=
  ∀ event ∈ store.outbox, event.eventType = "exit" →
    ∃ earlier record later point,
      TellsExit setup store.trades store.equity event earlier record later point

section Telling

variable {setup : ShadowSetup} {trades earlier later : List ShadowTradeRecord}
  {equity : List EquityPoint} {event event' : NotificationEvent} {record : ShadowTradeRecord}
  {point : EquityPoint} {store : ShadowStore}

/-- Rows that follow do not change what was told. -/
theorem TellsExit.append (h : TellsExit setup trades equity event earlier record later point)
    (ts : List ShadowTradeRecord) (ps : List EquityPoint) :
    TellsExit setup (trades ++ ts) (equity ++ ps) event earlier record (later ++ ts) point where
  stored := by rw [h.stored, List.append_assoc, List.cons_append]
  atExit := by rw [List.find?_append, h.atExit, Option.some_or]
  id := h.id
  built := h.built

/-- What is written of a delivery is not what was told. -/
theorem TellsExit.rewritten (h : TellsExit setup trades equity event earlier record later point)
    (hid : event'.eventId = event.eventId) (hpayload : event'.payloadText = event.payloadText) :
    TellsExit setup trades equity event' earlier record later point :=
  ⟨h.stored, h.atExit, hid.trans h.id, hpayload ▸ h.built⟩

theorem ExitsTold.delivered (h : ExitsTold setup store) (event : NotificationEvent)
    (result : SendResult) (nowMs : ℤ) :
    ExitsTold setup
      { store with outbox := store.outbox.updateNotificationStatus event result nowMs } := by
  intro event' hevent' htype
  rcases List.mem_map.1 hevent' with ⟨row, hrow, rfl⟩
  have hrowType : row.eventType = "exit" := by
    split at htype
    · exact htype
    · exact htype
  rcases h row hrow hrowType with ⟨earlier, record, later, point, htold⟩
  refine ⟨earlier, record, later, point, htold.rewritten ?_ ?_⟩
  · split <;> rfl
  · split <;> rfl

/-- A summary is no exit event. -/
theorem ExitsTold.dailySummary (h : ExitsTold setup store) (dateIso text : String) (nowMs : ℤ) :
    ExitsTold setup
      { store with outbox := store.outbox.enqueue [dailySummaryEvent dateIso text nowMs] } := by
  intro event hevent htype
  rcases KeyedTable.mem_insertAll hevent with hold | hnew
  · exact h event hold htype
  · rw [List.mem_singleton.1 hnew] at htype
    simp [dailySummaryEvent] at htype

end Telling

/-! ## A cycle -/

section Commit

variable {setup : ShadowSetup} {filters : SymbolFilters} {exchange : ServedCandles}
  {warmup fwd reads : List Candle} {store : ShadowStore} {cov : List CoveredSegment}

/-- The exits of the runs over the parts are at the candles scored, in their order. -/
theorem exitTimes_sublist (hvalid : ∀ x ∈ cov, x.Valid setup filters reads) :
    (((runsOf setup filters cov).flatMap RunRecords.tradeRecords).map
      ShadowTradeRecord.exitTimeMs).Sublist ((scoredCandles setup cov).map Candle.openTimeMs) := by
  induction cov with
  | nil => exact List.Sublist.refl _
  | cons x cov ih =>
      have hrest := ih fun y hy => hvalid y (List.mem_cons_of_mem x hy)
      have hfirst : ((setup.runOn filters x.part).tradeRecords.map
          ShadowTradeRecord.exitTimeMs).Sublist ((setup.scored x.part).map Candle.openTimeMs) := by
        have hstart : (RunRecords.start (some [])).Extends (setup.scored x.part)
            (setup.runOn filters x.part) := by
          by_cases hne : x.part = []
          · rw [hne, scored_nil, runOn_nil]
            exact .refl _
          · rcases ((hvalid x List.mem_cons_self).read hne).2.1 with ⟨⟨result, journal⟩, hran⟩
            rw [runOn_eq hran]
            exact (evaluate_records hran).1
        rcases hstart.tradeRecords .start with ⟨new, hnew, hsub⟩
        rw [hnew]
        exact hsub
      simpa [runsOf, scoredCandles] using hfirst.append hrest

/-- The trades are stored in the order of their exits. -/
theorem Covers.trades_pairwise (h : Covers setup filters (warmup ++ fwd) reads store cov)
    (hwarmup : IsWarmup setup warmup) (hfwd : fwd.Sublist exchange.forward) :
    store.trades.Pairwise fun a b => a.exitTimeMs ≤ b.exitTimeMs := by
  have hsub := (scoredCandles_sublist_forward hwarmup h.segments
    fun x hx => (h.valid x hx).initial).trans hfwd
  have hopens : ((scoredCandles setup cov).map Candle.openTimeMs).Pairwise (· ≤ ·) := by
    rw [List.pairwise_map]
    exact (exchange.forward_later.sublist hsub).imp fun hlt => hlt.1.le
  have htimes := hopens.sublist (exitTimes_sublist h.valid)
  rw [← h.recorded.trades] at htimes
  exact List.pairwise_map.1 htimes

/-- So they are read as they are stored. -/
theorem Covers.getAllTrades (h : Covers setup filters (warmup ++ fwd) reads store cov)
    (hwarmup : IsWarmup setup warmup) (hfwd : fwd.Sublist exchange.forward) :
    store.getAllTrades = store.trades :=
  (h.trades_pairwise hwarmup hfwd).insertionSort_eq

/-- The fees and the profit of every stored trade add up. -/
theorem Covers.balanced (h : Covers setup filters (warmup ++ fwd) reads store cov) :
    ∀ record ∈ store.trades, record.trade.Balanced := by
  intro record hrecord
  rw [h.recorded.trades] at hrecord
  rcases List.mem_flatMap.1 hrecord with ⟨run, hrun, hmem⟩
  rcases List.mem_map.1 hrun with ⟨x, hx, rfl⟩
  rcases List.mem_mapIdx.1 hmem with ⟨i, hi, rfl⟩
  have hne : x.part ≠ [] := by
    intro hnil
    rw [hnil, runOn_nil] at hi
    exact absurd hi (Nat.not_lt_zero i)
  rcases ((h.valid x hx).read hne).2.1 with ⟨⟨result, journal⟩, hran⟩
  rcases runSegment_traced hran with ⟨traces, last, v, -, htraces, rfl, -⟩
  rcases traceSegment_kept env_standard htraces with ⟨-, hinv, -⟩
  refine hinv.trades _ ?_
  have hread : (setup.runOn filters x.part).trades = v.trades := by
    rw [runOn_eq hran]
    rfl
  exact hread ▸ List.getElem_mem hi

/-- What a loop has appended was built. -/
theorem ok_mem_of_mem_untilRaise {α : Type*} {built : List (Except PyError α)} {a : α}
    (h : a ∈ untilRaise built) : Except.ok a ∈ built := by
  induction built with
  | nil => cases h
  | cons first rest ih =>
      cases first with
      | error e => cases h
      | ok b =>
          rcases List.mem_cons.1 h with rfl | hrest
          · exact List.mem_cons_self
          · exact List.mem_cons_of_mem _ (ih hrest)

theorem buildEntryNotificationEvent_type {rows : List JournalEntry} {curve : List EquityPoint}
    {S : ℚ} {nowMs : ℤ} {entry : OpenPositionInfo} {event : NotificationEvent}
    (h : buildEntryNotificationEvent setup filters rows curve S nowMs entry = .ok event) :
    event.eventType = "entry" := by
  rcases exists_of_bind_ok h with ⟨plan, -, h⟩
  rcases exists_of_bind_ok h with ⟨message, -, h⟩
  cases h
  rfl

/-- The events of a commit that are exit events, each with the trade it was built for. -/
theorem exists_of_exit_event {threshold : ℤ} {result : SegmentRunResult} {rows : List JournalEntry}
    {new stored : List ShadowTradeRecord} {S : ℚ} {nowMs : ℤ} {event : NotificationEvent}
    (h : event ∈ notificationEvents setup filters threshold result rows new stored S nowMs)
    (htype : event.eventType = "exit") :
    ∃ before record after, new = before ++ record :: after ∧
      buildExitNotificationEvent setup result.equityCurve S nowMs
        (stored ++ (before ++ [record])) record = .ok event := by
  rcases List.mem_append.1 h with hentry | hexit
  · rcases List.mem_map.1 (ok_mem_of_mem_untilRaise hentry) with ⟨entry, -, hbuilt⟩
    rw [buildEntryNotificationEvent_type hbuilt] at htype
    exact absurd htype (by decide)
  · rcases List.mem_mapIdx.1 (ok_mem_of_mem_untilRaise hexit) with ⟨i, hi, hbuilt⟩
    refine ⟨new.take i, new[i], new.drop (i + 1), ?_, ?_⟩
    · rw [List.cons_getElem_drop_succ, List.take_append_drop]
    · rw [List.take_concat_get' _ _ hi]
      exact hbuilt

variable {a : RunRecords} {front : List RunRecords} {cs : List Candle} {mark : ℤ}
  {result : SegmentRunResult} {journal : Journal}

/-- The first point at or after an exit that a continuation adds is one it adds too. -/
theorem Continues.point_atExit (h : Continues mark front a (result.records journal) cs)
    (hrecorded : RecordedAs store (front ++ [a])) {ps : List EquityPoint}
    (hps : result.equityCurve = a.equityCurve ++ ps)
    (htimes : ps.map EquityPoint.timestampMs = cs.map Candle.closeTimeMs) {t : ℤ}
    (ht : t ∈ cs.map Candle.openTimeMs) (S : ℚ) :
    ∃ point, (store.equity ++ ps).find? (fun p => t ≤ p.timestampMs) = some point ∧
      equityAtOrAfter result.equityCurve t S = point.equity := by
  have hlater := h.after.lt_of_mem_opens ht
  -- the points before it are up to the mark
  have hbefore : ∀ x ∈ front ++ [a],
      x.equityCurve.find? (fun p => t ≤ p.timestampMs) = none := by
    intro x hx
    refine List.find?_eq_none.2 ?_
    intro p hp
    have hle := (h.upTo x hx).equityCurve p hp
    simpa using hle.trans_lt hlater
  have hstored : store.equity.find? (fun p => t ≤ p.timestampMs) = none := by
    refine List.find?_eq_none.2 ?_
    intro p hp
    rw [hrecorded.equity] at hp
    rcases List.mem_flatMap.1 hp with ⟨x, hx, hpx⟩
    exact List.find?_eq_none.1 (hbefore x hx) p hpx
  -- the candle of the exit leaves a point at its close
  have hfound : (ps.find? fun p => t ≤ p.timestampMs).isSome = true := by
    rcases List.mem_map.1 ht with ⟨c, hc, rfl⟩
    have hclose : c.closeTimeMs ∈ ps.map EquityPoint.timestampMs :=
      htimes ▸ List.mem_map_of_mem hc
    rcases List.mem_map.1 hclose with ⟨p, hp, heq⟩
    rw [List.find?_isSome]
    exact ⟨p, hp, decide_eq_true (heq ▸ h.after.closes c hc)⟩
  rcases Option.isSome_iff_exists.1 hfound with ⟨point, hpoint⟩
  refine ⟨point, ?_, ?_⟩
  · rw [List.find?_append, hstored, hpoint, Option.none_or]
  · rw [equityAtOrAfter, hps, List.find?_append, hbefore a (by simp), hpoint, Option.none_or]
    rfl

/-- A commit tells each exit it adds, and leaves what was told before. -/
theorem ExitsTold.commit (h : ExitsTold setup store)
    (hrecorded : RecordedAs store (front ++ [a])) (hread : store.getAllTrades = store.trades)
    (hmark : store.runState.lastProcessedCloseTimeMs.getD (-1) = mark)
    (hcontinues : Continues mark front a (result.records journal) cs) (segment : List Candle)
    (newLastProcessed : ℤ) (requiredLen newCandlesFetched : ℕ) (nowMs : ℤ) :
    ExitsTold setup (recordRun setup filters segment newLastProcessed requiredLen newCandlesFetched
      nowMs result journal.rows store).1 := by
  rcases hcontinues.added with ⟨new, es, hnew, -, hnewSub, -⟩
  rcases hcontinues.extends'.equityCurve with ⟨ps, hps, htimes⟩
  have hcommit := hrecorded.commit hmark setup filters segment newLastProcessed requiredLen
    newCandlesFetched nowMs result journal hcontinues
  generalize hstore : (recordRun setup filters segment newLastProcessed requiredLen
    newCandlesFetched nowMs result journal.rows store).1 = store' at hcommit ⊢
  have hold : ∀ record ∈ store.trades, record.exitTimeMs ≤ mark := by
    intro record hrecord
    rw [hrecorded.trades] at hrecord
    rcases List.mem_flatMap.1 hrecord with ⟨x, hx, hmem⟩
    rcases List.mem_mapIdx.1 hmem with ⟨i, hi, rfl⟩
    exact (hcontinues.upTo x hx).trades _ (List.getElem_mem hi)
  have hexit : ∀ record ∈ new, record.exitTimeMs ∈ cs.map Candle.openTimeMs := fun record hrecord =>
    hnewSub.subset (List.mem_map_of_mem hrecord)
  have htrades : store'.trades = store.trades ++ new := by
    have hinserted : store'.trades =
        KeyedTable.insertAll ShadowTradeRecord.exitTimeMs store.trades new := by
      rw [← hstore]
      simp only [recordRun, ShadowStore.recordCycleAtomically, hmark, hnew]
    rw [hinserted]
    refine KeyedTable.insertAll_of_fresh (hcontinues.after.nodup_opens.sublist hnewSub) ?_
    intro record hrecord old hmem
    exact ((hold old hmem).trans_lt (hcontinues.after.lt_of_mem_opens (hexit record hrecord))).ne
  have hequity : store'.equity = store.equity ++ ps := by
    calc store'.equity = front.flatMap RunRecords.equityCurve ++ result.equityCurve := by
          rw [hcommit.equity, flatMap_replace_last]
          rfl
      _ = front.flatMap RunRecords.equityCurve ++ (a.equityCurve ++ ps) :=
          congrArg (front.flatMap RunRecords.equityCurve ++ ·) hps
      _ = store.equity ++ ps := by
          rw [hrecorded.equity, flatMap_replace_last, List.append_assoc]
  have houtbox : store'.outbox = store.outbox.enqueue (notificationEvents setup filters mark result
      journal.rows new store.trades setup.startingEquity nowMs) := by
    rw [← hstore]
    simp only [recordRun, ShadowStore.recordCycleAtomically, hmark, hnew, hread]
  intro event hevent htype
  rw [houtbox] at hevent
  rw [htrades, hequity]
  rcases KeyedTable.mem_insertAll hevent with hbefore | hadded
  · rcases h event hbefore htype with ⟨earlier, record, later, point, htold⟩
    exact ⟨earlier, record, later ++ new, point, htold.append new ps⟩
  · -- the trades it counts are those stored and those of the cycle up to its own
    rcases exists_of_exit_event hadded htype with ⟨before, record, after, hsplit, hbuilt⟩
    have hmem : record ∈ new := by simp [hsplit]
    rcases hcontinues.point_atExit hrecorded hps htimes (hexit record hmem)
      setup.startingEquity with ⟨point, hpoint, hupdated⟩
    rcases exists_of_bind_ok hbuilt with ⟨message, hmessage, hevent⟩
    cases hevent
    refine ⟨store.trades ++ before, record, after, point, ?_, hpoint, rfl, ?_⟩
    · rw [hsplit, List.append_assoc]
    · rw [hupdated, ← List.append_assoc] at hmessage
      exact hmessage

end Commit

/-! ## Schedules -/

section Schedules

variable {setup : ShadowSetup} {filters : SymbolFilters} {exchange : ServedCandles}
  {warmup reads : List Candle} {db : ShadowDb} {arrived : ℕ}

namespace Scheduled

/-- Every step of a schedule keeps what was told. -/
theorem exitsTold_step (h : Scheduled setup filters exchange warmup arrived reads db)
    (hwarmup : IsWarmup setup warmup) (htold : ExitsTold setup db.store) (pass : ShadowPass) :
    ExitsTold setup (runPass setup filters exchange db pass).store := by
  cases pass with
  | cycle arriving nowMs =>
      rcases h.exists_outcome hwarmup arriving nowMs with
        ⟨covInit, segment, part, last, newCandlesFetched, outcome, hcov, -, -, houtcome, hstore, -⟩
      rw [runPass, hstore]
      have hfwd := List.take_sublist (arrived + arriving) exchange.forward
      cases houtcome with
      | quiet nothing same status =>
          intro event hevent htype
          rw [storeAfter, same.trades, same.equity]
          exact htold event (same.outbox ▸ hevent) htype
      | raised error => exact htold
      | @scored run journal longEnough ran =>
          rcases hcov.continues hwarmup hfwd ran with ⟨cs, hcontinues⟩
          have hrecorded : RecordedAs db.store
              (runsOf setup filters covInit ++ [setup.runOn filters part]) := by
            simpa [runsOf] using hcov.recorded
          exact htold.commit hrecorded (hcov.getAllTrades hwarmup hfwd) rfl hcontinues segment
            last.closeTimeMs (setup.requiredLength setup.bootstrapState segment) newCandlesFetched
            nowMs
  | crash arriving =>
      rw [runPass, ShadowSetup.step]
      simp only [h.candles.verified hwarmup]
      exact htold
  | delivered event result nowMs => exact htold.delivered event result nowMs
  | dailySummary dateIso text nowMs => exact htold.dailySummary dateIso text nowMs

/-- A whole schedule does so. -/
theorem exitsTold_final (h : Scheduled setup filters exchange warmup arrived reads db)
    (hwarmup : IsWarmup setup warmup) (htold : ExitsTold setup db.store)
    (passes : List ShadowPass) :
    ExitsTold setup (Runs.final (runPass setup filters exchange) db passes).store := by
  induction passes generalizing arrived reads db with
  | nil => exact htold
  | cons pass rest ih => exact ih (h.step hwarmup pass) (h.exitsTold_step hwarmup htold pass)

end Scheduled

end Schedules

/-! ## The report -/

/-- The database with another table of trades. -/
def ShadowDb.withTrades (db : ShadowDb) (trades : List ShadowTradeRecord) : ShadowDb :=
  { db with store := { db.store with trades := trades } }

/-- The figures of a report are the statistics of the stored trades. -/
theorem buildShadowReport_statsToDate {math : FloatMath} {stepMs : ℤ} {minRequiredCandles : ℕ}
    {db : ShadowDb} {report : ShadowReport}
    (h : buildShadowReport math stepMs minRequiredCandles db = .ok report)
    (hcurve : db.store.getEquityCurve ≠ []) :
    report.statsToDate = computeTradeStatsToDate db.store.getAllTrades := by
  have hwins : ∀ trades : List Trade,
      (wins trades).length = (trades.filter fun t => t.pnlQuote > 0).length := by
    intro trades
    rw [wins, List.filter_map, List.length_map]
    rfl
  rcases List.exists_cons_of_ne_nil hcurve with ⟨first, rest, hpoints⟩
  rcases exists_of_bind_ok h with ⟨dataGaps, -, h⟩
  cases h
  unfold ShadowReport.statsToDate computeTradeStatsToDate
  simp only [computePerformanceReport, hpoints, List.head?_cons, List.getLast?_cons, hwins]
  by_cases hnone : db.store.getAllTrades.map ShadowTradeRecord.trade = []
  · have htrades : db.store.getAllTrades = [] := List.map_eq_nil_iff.1 hnone
    simp [htrades, mean?]
  · have hsome : db.store.getAllTrades ≠ [] := fun hnil => hnone (by rw [hnil, List.map_nil])
    simp [hnone, hsome, mean?]

/-- Slippage is what is left between the gross profit and that at the reference prices. -/
theorem Trade.Balanced.gross_add_slippage {t : Trade} (h : t.Balanced) :
    t.pnlQuote + t.feesPaid + slippageCost t = t.frictionless := by
  rw [h.pnl, slippageCost, Trade.frictionless]
  ring

/-- The event shows what the report shows of the table that ends with its trade, and the first
stored equity at or after the exit.  The report of the last trade is the report of the database. -/
structure ShownAsReported (math : FloatMath) (texts : MessageTexts) (setup : ShadowSetup)
    (db : ShadowDb) (event : NotificationEvent) (earlier : List ShadowTradeRecord)
    (record : ShadowTradeRecord) (later : List ShadowTradeRecord) (point : EquityPoint)
    (report : ShadowReport) : Prop where
  stored : db.store.trades = earlier ++ record :: later
  atExit : db.store.equity.find? (fun p => record.exitTimeMs ≤ p.timestampMs) = some point
  reported : buildShadowReport math hourMs setup.minRequiredCandles
    (db.withTrades (earlier ++ [record])) = .ok report
  text : event.payloadText = buildExitMessage texts (exitEventId record.exitTimeMs)
    setup.config.market.symbol record point.equity report.statsToDate
  costs : record.trade.pnlQuote + record.trade.feesPaid + slippageCost record.trade =
    record.trade.frictionless

section Shown

variable {math : FloatMath} {texts : MessageTexts} {setup : ShadowSetup} {filters : SymbolFilters}
  {exchange : ServedCandles} {warmup reads : List Candle} {db : ShadowDb} {arrived : ℕ}

/-- What was told of an exit is what the report shows. -/
theorem Scheduled.shownAsReported (h : Scheduled setup filters exchange warmup arrived reads db)
    (hwarmup : IsWarmup setup warmup)
    (hexit : ∀ notice, setup.messages.exit notice = .ok (notice.message texts))
    {event : NotificationEvent} {earlier later : List ShadowTradeRecord}
    {record : ShadowTradeRecord} {point : EquityPoint}
    (htells : TellsExit setup db.store.trades db.store.equity event earlier record later point) :
    ∃ report, ShownAsReported math texts setup db event earlier record later point report := by
  rcases h.covers with ⟨cov, hcov⟩
  have hfwd := List.take_sublist arrived exchange.forward
  have hordered := ordered_append hwarmup hfwd
  -- the table up to the trade is read as it is stored
  have hread : (db.withTrades (earlier ++ [record])).store.getAllTrades = earlier ++ [record] := by
    have hsorted := hcov.trades_pairwise hwarmup hfwd
    rw [htells.stored, List.append_cons] at hsorted
    exact (hsorted.sublist (List.sublist_append_left _ _)).insertionSort_eq
  have hcurve : (db.withTrades (earlier ++ [record])).store.getEquityCurve ≠ [] := by
    have hpoint := List.mem_of_find?_eq_some htells.atExit
    exact List.ne_nil_of_mem ((List.mem_insertionSort _).2 hpoint)
  -- the candles are those of the database, so the report is there
  have hstored : (db.withTrades (earlier ++ [record])).candles.getCandles
      (some (((db.withTrades (earlier ++ [record])).store.bootstrapState.map
        ShadowBootstrapState.warmupStartTimeMs).getD shadowStartBoundaryMs)) none =
          storedCandles exchange warmup arrived := by
    have hstate : (db.withTrades (earlier ++ [record])).store.bootstrapState =
        some setup.bootstrapState := h.candles.state
    rw [hstate, Option.map_some, Option.getD_some]
    exact h.candles.getCandles hwarmup
  rw [← storedCandles, ← hstored] at hordered
  rcases buildShadowReport_ok math hourMs setup.minRequiredCandles hordered with ⟨report, hreport⟩
  refine ⟨report, htells.stored, htells.atExit, hreport, ?_, ?_⟩
  · have hstats := buildShadowReport_statsToDate hreport hcurve
    have hbuilt := Except.ok.inj ((hexit _).symm.trans htells.built)
    rw [ExitNotice.message] at hbuilt
    rw [hread] at hstats
    rw [hstats, ← hbuilt]
  · refine (hcov.balanced record ?_).gross_add_slippage
    exact htells.stored ▸ List.mem_append_right _ List.mem_cons_self

/-- The exit times of the table are those of the runs. -/
theorem RecordedAs.exitTimes {store : ShadowStore} {runs : List RunRecords}
    (h : RecordedAs store runs) :
    store.trades.map ShadowTradeRecord.exitTimeMs = runs.flatMap RunRecords.exitTimes := by
  rw [h.trades, List.map_flatMap]
  refine List.flatMap_congr ?_
  intro run _
  refine List.ext_getElem (by simp [RunRecords.tradeRecords, RunRecords.exitTimes]) ?_
  intro i hi _
  simp [RunRecords.tradeRecords, RunRecords.exitTimes, ShadowTradeRecord.exitTimeMs]

end Shown

/-- After any schedule of cycles, crashes and deliveries the outbox has one exit event for each
stored trade, and each of them shows what the report shows of the trades up to its own. -/
theorem exit_messages_to_date (math : FloatMath) (texts : MessageTexts) (setup : ShadowSetup)
    (hexit : ∀ notice, setup.messages.exit notice = .ok (notice.message texts))
    (hentry : ∀ notice, ∃ text, setup.messages.entry notice = .ok text)
    (filters : SymbolFilters) (exchange : ServedCandles) (warmup : List Candle)
    (hrefusal : setup.refusal warmup = .ok none)
    (hcloses : ∀ c ∈ warmup, c.closeTimeMs < shadowStartBoundaryMs) (passes : List ShadowPass) :
    let db := Runs.final (runPass setup filters exchange) (setup.bootstrappedWith warmup) passes
    (db.store.outbox.idsOf "exit").Perm
        (db.store.trades.map fun record => exitEventId record.exitTimeMs) ∧
      ∀ event ∈ db.store.outbox, event.eventType = "exit" →
        ∃ earlier record later point report,
          ShownAsReported math texts setup db event earlier record later point report := by
  intro db
  have hwarmup := setup.isWarmup hrefusal hcloses
  have hscheduled : Scheduled setup filters exchange warmup 0 [] (setup.bootstrappedWith warmup) :=
    setup.bootstrappedWith_scheduled exchange hrefusal hcloses
  have hfinal := hscheduled.final hwarmup passes
  -- nothing is told before the first cycle
  have hstart : ExitsTold setup (setup.bootstrappedWith warmup).store := by
    have hstore : (setup.bootstrappedWith warmup).store =
        ({} : ShadowStore).recordBootstrapAtomically setup.bootstrapState := by
      unfold ShadowSetup.bootstrappedWith ShadowSetup.runShadowBootstrap
      simp only [ShadowDb.empty, hrefusal]
    rw [hstore]
    intro event hevent
    cases hevent
  have htold := hscheduled.exitsTold_final hwarmup hstart passes
  constructor
  · rcases hfinal.covers with ⟨cov, hcov⟩
    have hmessages : setup.messages.Return := ⟨hentry, fun notice => ⟨_, hexit notice⟩⟩
    have hexits := (hcov.notified hmessages).exits
    rw [← hcov.recorded.exitTimes, List.map_map] at hexits
    exact hexits
  · intro event hevent htype
    rcases htold event hevent htype with ⟨earlier, record, later, point, htells⟩
    rcases hfinal.shownAsReported hwarmup hexit htells with ⟨report, hshown⟩
    exact ⟨earlier, record, later, point, report, hshown⟩

namespace Scenario

def plainTexts : MessageTexts where
  plain := toString
  twoDecimals := toString
  money := toString
  oneDecimal := toString

def tellingSetup : ShadowSetup :=
  { shadowSetup with
    messages :=
      { entry := fun notice => .ok notice.eventId
        exit := fun notice => .ok (notice.message plainTexts) } }

/-- Twelve hours at one price from the boundary on. -/
def twelveHours : ServedCandles where
  candles := (List.range 12).map (hourCandle shadowStartBoundaryMs)
  spaced := by decide
  closes := by decide

/-- Both of its trades close before the last cycle, one of them after a crash. -/
def tellingFinal : ShadowDb :=
  Runs.final (runPass tellingSetup filters twelveHours) (tellingSetup.bootstrappedWith warmup)
    [.cycle 6 0, .crash 3, .cycle 3 0]

end Scenario

/-- Two trades of the alternating stand-in, and their two messages. -/
theorem exit_messages_to_date_twelveHours :
    Scenario.tellingFinal.store.trades.length = 2 ∧
      (Scenario.tellingFinal.store.outbox.idsOf "exit").length = 2 ∧
      ∀ event ∈ Scenario.tellingFinal.store.outbox, event.eventType = "exit" →
        ∃ earlier record later point report,
          ShownAsReported Scenario.floatMath Scenario.plainTexts Scenario.tellingSetup
            Scenario.tellingFinal event earlier record later point report := by
  have htrades : Scenario.tellingFinal.store.trades.length = 2 := by decide +kernel
  rcases exit_messages_to_date Scenario.floatMath Scenario.plainTexts Scenario.tellingSetup
    (fun _ => rfl) (fun notice => ⟨notice.eventId, rfl⟩) Scenario.filters Scenario.twelveHours
    Scenario.warmup (by decide +kernel) (by decide +kernel) [.cycle 6 0, .crash 3, .cycle 3 0] with
    ⟨hperm, hshown⟩
  have hlength := hperm.length_eq
  rw [List.length_map] at hlength
  rw [Scenario.tellingFinal] at htrades ⊢
  exact ⟨htrades, hlength.trans htrades, hshown⟩

end TradingAgent
