import TradingAgent.Backtest.Accounting
import TradingAgent.Backtest.Breakdown
import TradingAgent.Data.Segmentation
import TradingAgent.Metrics.ExtendedReport

/-!
# Split breakdown — the profit of one run over its three windows

A backtest without a gap reports the train, the validation and the test window of one uninterrupted
run.  Each window has the trades that exit in it and the position open at its end, so its own total
says little: what was realized before it belongs to the earlier windows.

* `tradesBefore_eq`: the trades that exit before an index are those of the run over the candles
  before it;
* `splitReport_telescopes`: a window's total and what the earlier windows realized are the gain of
  the equity up to its end;
* `split_breakdowns_telescope`: the three windows of a backtest, beside the whole run.
-/

namespace TradingAgent

/-! ## Trades by the candle they exit on -/

section Exits

variable {env : RunEnv} {segment : List Candle} {S : ℚ} {journal j : Journal}
  {r : SegmentRunResult} {offset start stop : ℕ}

/-- The trades that exit before the candle at `stop`. -/
def tradesBefore (segment : List Candle) (offset stop : ℕ) (trades : List Trade) : List Trade :=
  trades.filter fun t => indexForTime segment t.exitTimeMs offset < stop

/-- The trades that exit from the candle at `start` up to, and without, the one at `stop`. -/
def tradesBetween (segment : List Candle) (offset start stop : ℕ) (trades : List Trade) :
    List Trade :=
  trades.filter fun t => start ≤ indexForTime segment t.exitTimeMs offset ∧
    indexForTime segment t.exitTimeMs offset < stop

/-- What the trades before `stop` have in total, those before `start` and those in between have. -/
theorem sum_tradesBetween (hle : start ≤ stop) (f : Trade → ℚ) (trades : List Trade) :
    ((tradesBefore segment offset start trades).map f).sum +
        ((tradesBetween segment offset start stop trades).map f).sum =
      ((tradesBefore segment offset stop trades).map f).sum := by
  induction trades with
  | nil => simp [tradesBefore, tradesBetween]
  | cons t rest ih =>
      simp only [tradesBefore, tradesBetween, List.filter_cons] at ih ⊢
      generalize indexForTime segment t.exitTimeMs offset = i
      by_cases hbefore : i < start
      · -- the trade is before both
        have hstop : i < stop := hbefore.trans_le hle
        simp only [hbefore, hstop, not_le.2 hbefore, decide_true, decide_false, if_true, if_false,
          false_and, Bool.false_eq_true, List.map_cons, List.sum_cons]
        rw [← ih, add_assoc]
      · by_cases hstop : i < stop
        · simp only [hbefore, hstop, not_lt.1 hbefore, decide_true, decide_false, if_true, if_false,
            and_self, Bool.false_eq_true, List.map_cons, List.sum_cons]
          rw [← ih, add_left_comm]
        · simp only [hbefore, hstop, decide_false, if_false, and_false, Bool.false_eq_true]
          exact ih

/-- In a segment in order a candle is found at its own index. -/
theorem indexForTime_of_getElem? (hordered : Ordered segment) {i : ℕ} {c : Candle}
    (hc : segment[i]? = some c) : indexForTime segment c.openTimeMs offset = i := by
  rcases List.getElem?_eq_some_iff.1 hc with ⟨hi, rfl⟩
  have hfound : segment.findIdx? (fun d => d.openTimeMs = segment[i].openTimeMs) = some i := by
    rw [List.findIdx?_eq_some_iff_getElem]
    refine ⟨hi, by simp, ?_⟩
    intro k hk
    have hlt := List.pairwise_iff_getElem.1 hordered k i (hk.trans hi) hi hk
    simpa using hlt.ne
  rw [indexForTime, hfound, Option.getD_some]

theorem indexForTime_lt_of_mem_take (hordered : Ordered segment) {c : Candle}
    (hc : c ∈ segment.take stop) : indexForTime segment c.openTimeMs offset < stop := by
  rcases List.mem_iff_getElem?.1 hc with ⟨i, hi⟩
  have hlt : i < stop := by
    by_contra hge
    rw [List.getElem?_take_eq_none (not_lt.1 hge)] at hi
    cases hi
  rw [List.getElem?_take_of_lt hlt] at hi
  rwa [indexForTime_of_getElem? hordered hi]

theorem le_indexForTime_of_mem_drop (hordered : Ordered segment) {c : Candle}
    (hc : c ∈ segment.drop start) : start ≤ indexForTime segment c.openTimeMs offset := by
  rcases List.mem_iff_getElem?.1 hc with ⟨i, hi⟩
  rw [List.getElem?_drop] at hi
  rw [indexForTime_of_getElem? hordered hi]
  exact Nat.le_add_right _ _

/-- The exits of a run are on the candles its loop reads. -/
theorem runSegment_exits (h : runSegment env segment S journal = .ok (r, j)) :
    ∀ t ∈ r.trades, ∃ c ∈ segment.drop (env.minRequired - 1), t.exitTimeMs = c.openTimeMs := by
  rcases runSegment_eq_ok h with ⟨first, last, v, -, -, hloop, rfl, -⟩
  rcases (run_extends hloop).trades with ⟨ts, hts, hsub⟩
  intro t ht
  have hmem : t ∈ ts := by
    have htrades : v.trades = ts := hts
    rw [← htrades]
    exact ht
  exact exists_candle_of_sublist hsub hmem

/-- The trades that exit before an index are those of the run over the candles before it. -/
theorem tradesBefore_eq (hordered : Ordered segment) {k : ℕ} {r₀ : SegmentRunResult} {j₀ : Journal}
    (h : RestrictsTo env segment k journal r j r₀ j₀) (offset : ℕ) :
    tradesBefore segment offset k r.trades = r₀.trades := by
  rcases h.trades with ⟨later, htrades, hlater⟩
  have hkept : r₀.trades.filter (fun t => indexForTime segment t.exitTimeMs offset < k) =
      r₀.trades := by
    refine List.filter_eq_self.2 fun t ht => ?_
    rcases h.tradesStamped t ht with ⟨c, hc, hstamp⟩
    rw [hstamp]
    exact decide_eq_true (indexForTime_lt_of_mem_take hordered hc)
  have hdropped : later.filter (fun t => indexForTime segment t.exitTimeMs offset < k) = [] := by
    refine List.filter_eq_nil_iff.2 fun t ht => ?_
    rcases hlater t ht with ⟨c, hc, hstamp⟩
    rw [hstamp, decide_eq_true_eq]
    exact not_lt.2 (le_indexForTime_of_mem_drop hordered hc)
  rw [tradesBefore, htrades, List.filter_append, hkept, hdropped, List.append_nil]

/-- No trade exits before the first candle of the loop. -/
theorem tradesBefore_first (hordered : Ordered segment)
    (h : runSegment env segment S journal = .ok (r, j)) (offset : ℕ) :
    tradesBefore segment offset (env.minRequired - 1) r.trades = [] := by
  refine List.filter_eq_nil_iff.2 fun t ht => ?_
  rcases runSegment_exits h t ht with ⟨c, hc, hstamp⟩
  rw [hstamp, decide_eq_true_eq]
  exact not_lt.2 (le_indexForTime_of_mem_drop hordered hc)

end Exits

/-! ## The end of a window -/

section Windows

variable {env : RunEnv} {segment : List Candle} {S : ℚ} {journal j : Journal}
  {r : SegmentRunResult}

/-- A run's records at its last candle, beside the variables of its loop. -/
structure EndsWith (env : RunEnv) (segment : List Candle) (S : ℚ) (r : SegmentRunResult)
    (last : Candle) (v : LoopVars) : Prop where
  kept : LoopInvariant env S v
  lastCandle : segment.getLast? = some last
  trades : r.trades = v.trades
  points : r.equityCurve.length = segment.length - (env.minRequired - 1)
  point : ∃ p, r.equityCurve.getLast? = some p ∧ p.equity = v.state.portfolio.equity last.close
  snapshots : r.portfolioSnapshots.length = segment.length - (env.minRequired - 1)
  snapshot : r.portfolioSnapshots.getLast? = some
    ⟨v.state.portfolio.quoteBalance, v.state.portfolio.baseBalance, v.state.openTrade⟩

theorem runSegment_endsWith (henv : env.Standard)
    (h : runSegment env segment S journal = .ok (r, j)) :
    ∃ last v, EndsWith env segment S r last v := by
  rcases runSegment_marked h with ⟨marks, mark, hmarked⟩
  rcases runSegment_traced h with ⟨traces, last, v, hlast, htraces, rfl, -⟩
  rcases traceSegment_kept henv htraces with ⟨-, hinv, -⟩
  rcases traceSegment_induct (MarkedBy S) htraces
    (fun first _ => ⟨rfl, rfl, by simp, by simp, fun _ => ⟨rfl, rfl⟩⟩)
    (fun hist seen tr rest htr hmarkedBy _ => hmarkedBy.step htr) with ⟨hby, hcandles⟩
  have hcount : traces.length = segment.length - (env.minRequired - 1) := by
    have hlength := congrArg List.length hcandles
    rwa [List.length_map, List.length_drop] at hlength
  -- the curve is not empty, so the loop has read a candle
  have hpos : 0 < traces.length := by
    have hcurve : v.equityCurve = marks.map CandleTrace.point := hmarked.curve
    have hmarks : marks ≠ [] := by
      rintro rfl
      cases hmarked.ends
    rw [← List.length_map CandleTrace.point, ← hby.curve, hcurve, List.length_map]
    exact List.length_pos_iff.2 hmarks
  have htail := List.getLast?_eq_some_getLast (List.length_pos_iff.1 hpos)
  generalize traces.getLast (List.length_pos_iff.1 hpos) = tr at htail
  have hclosed := hby.last tr htail
  have hcandle : some tr.candle = some last := by
    calc some tr.candle = (segment.drop (env.minRequired - 1)).getLast? := by
          rw [← hcandles, List.getLast?_map, htail, Option.map_some]
      _ = segment.getLast? := by rw [List.getLast?_drop, if_neg (by omega)]
      _ = some last := hlast
  cases hcandle
  refine ⟨tr.candle, v, hinv, hlast, rfl, ?_, ⟨tr.point, ?_, ?_⟩, ?_, ?_⟩
  · exact (congrArg List.length hby.curve).trans ((List.length_map _).trans hcount)
  · exact (congrArg List.getLast? hby.curve).trans (by rw [List.getLast?_map, htail]; rfl)
  · rw [← hclosed]
    rfl
  · exact (congrArg List.length hby.snapshots).trans ((List.length_map _).trans hcount)
  · refine (congrArg List.getLast? hby.snapshots).trans ?_
    rw [List.getLast?_map, htail, ← hclosed]
    rfl

/-- A run passes the end of each window with what the run over the candles up to it ends with. -/
theorem runSegment_passes (henv : env.Standard) (hordered : Ordered segment) {stop : ℕ}
    (hstop : env.minRequired ≤ stop) (hle : stop ≤ segment.length)
    (h : runSegment env segment S journal = .ok (r, j)) :
    ∃ last v, LoopInvariant env S v ∧ segment[stop - 1]? = some last ∧
      (∀ offset, tradesBefore segment offset stop r.trades = v.trades) ∧
      (∃ p, r.equityCurve[stop - (env.minRequired - 1) - 1]? = some p ∧
        p.equity = v.state.portfolio.equity last.close) ∧
      r.portfolioSnapshots[stop - (env.minRequired - 1) - 1]? = some
        ⟨v.state.portfolio.quoteBalance, v.state.portfolio.baseBalance, v.state.openTrade⟩ := by
  have hpos := env.minRequiredPos
  rcases runSegment_restricts hstop h with ⟨r₀, j₀, hrun₀, hrestricts⟩
  rcases runSegment_endsWith henv hrun₀ with ⟨last, v, hends⟩
  have hlength : (segment.take stop).length = stop := List.length_take_of_le hle
  have hcut : stop + 1 - env.minRequired = stop - (env.minRequired - 1) := by omega
  have hpoints := hends.points
  have hsnapshots := hends.snapshots
  rw [hlength] at hpoints hsnapshots
  refine ⟨last, v, hends.kept, ?_, ?_, ?_, ?_⟩
  · have hlast := hends.lastCandle
    rwa [List.getLast?_eq_getElem?, hlength, List.getElem?_take_of_lt (by omega)] at hlast
  · intro offset
    rw [tradesBefore_eq hordered hrestricts, hends.trades]
  · rcases hends.point with ⟨p, hp, hequity⟩
    refine ⟨p, ?_, hequity⟩
    rwa [List.getLast?_eq_getElem?, hpoints, ← hrestricts.equityCurve, hcut,
      List.getElem?_take_of_lt (by omega)] at hp
  · have hsnapshot := hends.snapshot
    rwa [List.getLast?_eq_getElem?, hsnapshots, ← hrestricts.portfolioSnapshots, hcut,
      List.getElem?_take_of_lt (by omega)] at hsnapshot

end Windows

/-! ## The windows of one run -/

section Splits

variable {β : Type} {texts : NumberTexts} {bootstrap : List Trade → ℚ → β} {setup : BacktestSetup}
  {segment : List Candle} {result : SegmentRunResult} {journal j : Journal} {split : Split}
  {report : PerformanceReport} {extended : ExtendedDiagnosticsReport (ExtendedSections β)}

/-- The trades of a window. -/
def splitTrades (setup : BacktestSetup) (segment : List Candle) (result : SegmentRunResult)
    (split : Split) : List Trade :=
  tradesBetween segment (setup.minRequired - 1) (setup.bounds segment split).1
    (setup.bounds segment split).2 result.trades

/-- A window's closed trades are those that exit in it. -/
theorem splitReport_closed
    (h : splitReport setup (extendedSections texts bootstrap) segment result split =
      .ok (report, extended)) :
    extended.sections.pnlBreakdown.realizedClosedTradePnlQuote =
        ((splitTrades setup segment result split).map Trade.pnlQuote).sum ∧
      extended.sections.pnlBreakdown.exitFeesTotalQuote =
        ((splitTrades setup segment result split).map Trade.exitFeeQuote).sum := by
  unfold splitReport at h
  simp only at h
  split at h
  · cases h
  · cases h
    exact ⟨rfl, rfl⟩

theorem splitReport_telescopes (hordered : Ordered segment)
    (hrun : runSegment setup.env segment setup.startingEquity journal = .ok (result, j))
    (h : splitReport setup (extendedSections texts bootstrap) segment result split =
      .ok (report, extended))
    (hlt : (setup.bounds segment split).1 < (setup.bounds segment split).2) :
    ((tradesBefore segment (setup.minRequired - 1) (setup.bounds segment split).1
        result.trades).map Trade.pnlQuote).sum +
      extended.sections.pnlBreakdown.totalMarkedToMarketPnlQuote =
        extended.accounting.reportedEndingEquity - setup.startingEquity := by
  have hstart := bounds_start_le setup segment split
  have hsum := @sum_tradesBetween segment (setup.minRequired - 1) _ _ hlt.le Trade.pnlQuote
    result.trades
  generalize hbounds : setup.bounds segment split = bounds at hstart hlt hsum
  rcases bounds with ⟨start, stop⟩
  unfold splitReport at h
  rw [hbounds] at h
  simp only at h hstart hlt hsum ⊢
  split at h
  · cases h
  rename_i endCandle hend
  rw [if_pos hlt] at hend
  cases h
  have hpos : 0 < setup.minRequired := Nat.succ_pos _
  have hstop : setup.env.minRequired ≤ stop := by
    change setup.minRequired ≤ stop
    omega
  have hle : stop ≤ segment.length := by
    have hread := (List.getElem?_eq_some_iff.1 hend).1
    omega
  -- the run stands at the end of the window as the run over the candles up to it
  rcases runSegment_passes (RunEnv.standard_standard _ _ _ _ _ _) hordered hstop hle hrun with
    ⟨last, v, hinv, hlast, htrades, ⟨p, hp, hequity⟩, hsnapshot⟩
  cases hlast.symm.trans hend
  have hend : splitSnapshot result (setup.minRequired - 1) stop = some
      ⟨v.state.portfolio.quoteBalance, v.state.portfolio.baseBalance, v.state.openTrade⟩ := by
    rw [splitSnapshot, if_pos (by omega)]
    exact hsnapshot
  have hpoint : (slice result.equityCurve (start - (setup.minRequired - 1))
      (stop - (setup.minRequired - 1))).getLast? = some p :=
    getLast?_slice (by omega) hp
  rw [htrades] at hsum
  calc _ = ((tradesBefore segment (setup.minRequired - 1) start result.trades).map
            Trade.pnlQuote).sum +
          (((tradesBetween segment (setup.minRequired - 1) start stop result.trades).map
            Trade.pnlQuote).sum +
              ((v.state.openTrade.map openTradeToInfo).map fun o =>
                o.unrealized endCandle.close).getD 0) := by
        simp only [buildExtendedDiagnostics, computeExtendedDiagnostics, extendedSections,
          computePnlBreakdown, splitEnd, hend, tradesBetween]
    _ = v.state.portfolio.equity endCandle.close - setup.startingEquity := by
        rw [hinv.equity_eq endCandle.close, ← hsum]
        ring
    _ = _ := by
        simp only [buildExtendedDiagnostics, computeExtendedDiagnostics, computeAccountingIdentity,
          splitEnd, hpoint, Option.map_some, Option.getD_some, hequity]

/-- A window with a candle ends within the segment. -/
theorem splitReport_stop_le
    (h : splitReport setup (extendedSections texts bootstrap) segment result split =
      .ok (report, extended))
    (hlt : (setup.bounds segment split).1 < (setup.bounds segment split).2) :
    (setup.bounds segment split).2 ≤ segment.length := by
  unfold splitReport at h
  simp only at h
  split at h
  · cases h
  · rename_i endCandle hend
    rw [if_pos hlt] at hend
    have hread := (List.getElem?_eq_some_iff.1 hend).1
    omega

/-- The windows of a run with reports lie one after the other in its segment. -/
theorem splits_ordered (hlong : setup.minRequired ≤ segment.length)
    {train validation : PerformanceReport × ExtendedDiagnosticsReport (ExtendedSections β)}
    (htrain : splitReport setup (extendedSections texts bootstrap) segment result .train = .ok train)
    (hvalidation : splitReport setup (extendedSections texts bootstrap) segment result .validation =
      .ok validation) :
    setup.minRequired - 1 ≤ setup.trainEnd segment ∧
      setup.trainEnd segment ≤ setup.validationEnd segment ∧
        setup.validationEnd segment ≤ segment.length := by
  have htrainLe : setup.minRequired - 1 ≤ setup.trainEnd segment := Nat.le_add_right _ _
  have hvalidationLe : setup.trainEnd segment ≤ setup.validationEnd segment := Nat.le_add_right _ _
  refine ⟨htrainLe, hvalidationLe, ?_⟩
  rcases hvalidationLe.eq_or_lt with hempty | hlt
  · rw [← hempty]
    rcases htrainLe.eq_or_lt with hnone | hlt
    · omega
    · exact splitReport_stop_le htrain hlt
  · exact splitReport_stop_le hvalidation hlt

/-- What the trades of the windows have in total, from window to window. -/
theorem sum_splitTrades (hordered : Ordered segment)
    (hrun : runSegment setup.env segment setup.startingEquity journal = .ok (result, j))
    (hsplits : setup.minRequired - 1 ≤ setup.trainEnd segment ∧
      setup.trainEnd segment ≤ setup.validationEnd segment ∧
        setup.validationEnd segment ≤ segment.length) (f : Trade → ℚ) :
    ((tradesBefore segment (setup.minRequired - 1) (setup.minRequired - 1)
        result.trades).map f).sum = 0 ∧
      ((tradesBefore segment (setup.minRequired - 1) (setup.trainEnd segment)
          result.trades).map f).sum = ((splitTrades setup segment result .train).map f).sum ∧
      ((tradesBefore segment (setup.minRequired - 1) (setup.validationEnd segment)
          result.trades).map f).sum = ((splitTrades setup segment result .train).map f).sum +
            ((splitTrades setup segment result .validation).map f).sum ∧
      ((splitTrades setup segment result .overall).map f).sum =
        ((splitTrades setup segment result .train).map f).sum +
          ((splitTrades setup segment result .validation).map f).sum +
            ((splitTrades setup segment result .test).map f).sum := by
  rcases hsplits with ⟨htrainLe, hvalidationLe, htestLe⟩
  have hnone : tradesBefore segment (setup.minRequired - 1) (setup.minRequired - 1)
      result.trades = [] := tradesBefore_first hordered hrun _
  have htrain := @sum_tradesBetween segment (setup.minRequired - 1) _ _ htrainLe f result.trades
  have hvalidation := @sum_tradesBetween segment (setup.minRequired - 1) _ _ hvalidationLe f
    result.trades
  have htest := @sum_tradesBetween segment (setup.minRequired - 1) _ _ htestLe f result.trades
  have hwhole := @sum_tradesBetween segment (setup.minRequired - 1) _ _
    (htrainLe.trans (hvalidationLe.trans htestLe)) f result.trades
  rw [hnone, List.map_nil, List.sum_nil, zero_add] at htrain hwhole
  simp only [splitTrades, BacktestSetup.bounds]
  refine ⟨by rw [hnone]; rfl, htrain.symm, ?_, ?_⟩
  · rw [← hvalidation, ← htrain]
  · rw [hwhole, ← htest, ← hvalidation, ← htrain]

/-- The breakdowns of the three windows of a run and of the whole run: the windows cut what was
realized, and each total goes on from what the windows before it realized. -/
structure SplitsTelescope (setup : BacktestSetup) (segment : List Candle)
    (train validation test overall : ExtendedDiagnosticsReport (ExtendedSections β)) : Prop where
  realized : overall.sections.pnlBreakdown.realizedClosedTradePnlQuote =
    train.sections.pnlBreakdown.realizedClosedTradePnlQuote +
      validation.sections.pnlBreakdown.realizedClosedTradePnlQuote +
        test.sections.pnlBreakdown.realizedClosedTradePnlQuote
  exitFees : overall.sections.pnlBreakdown.exitFeesTotalQuote =
    train.sections.pnlBreakdown.exitFeesTotalQuote +
      validation.sections.pnlBreakdown.exitFeesTotalQuote +
        test.sections.pnlBreakdown.exitFeesTotalQuote
  afterTrain : setup.minRequired - 1 < setup.trainEnd segment →
    train.sections.pnlBreakdown.totalMarkedToMarketPnlQuote =
      train.accounting.reportedEndingEquity - setup.startingEquity
  afterValidation : setup.trainEnd segment < setup.validationEnd segment →
    train.sections.pnlBreakdown.realizedClosedTradePnlQuote +
        validation.sections.pnlBreakdown.totalMarkedToMarketPnlQuote =
      validation.accounting.reportedEndingEquity - setup.startingEquity
  afterTest : setup.validationEnd segment < segment.length →
    train.sections.pnlBreakdown.realizedClosedTradePnlQuote +
        validation.sections.pnlBreakdown.realizedClosedTradePnlQuote +
        test.sections.pnlBreakdown.totalMarkedToMarketPnlQuote =
      test.accounting.reportedEndingEquity - setup.startingEquity
  whole : overall.sections.pnlBreakdown.totalMarkedToMarketPnlQuote =
    overall.accounting.reportedEndingEquity - setup.startingEquity

theorem splitsTelescope (hordered : Ordered segment)
    (hrun : runSegment setup.env segment setup.startingEquity journal = .ok (result, j))
    (hlong : setup.minRequired ≤ segment.length)
    {train validation test overall :
      PerformanceReport × ExtendedDiagnosticsReport (ExtendedSections β)}
    (htrain : splitReport setup (extendedSections texts bootstrap) segment result .train = .ok train)
    (hvalidation : splitReport setup (extendedSections texts bootstrap) segment result .validation =
      .ok validation)
    (htest : splitReport setup (extendedSections texts bootstrap) segment result .test = .ok test)
    (hoverall : splitReport setup (extendedSections texts bootstrap) segment result .overall =
      .ok overall) :
    SplitsTelescope setup segment train.2 validation.2 test.2 overall.2 := by
  have hsplits := splits_ordered hlong htrain hvalidation
  have hpnl := sum_splitTrades hordered hrun hsplits Trade.pnlQuote
  have hfees := sum_splitTrades hordered hrun hsplits Trade.exitFeeQuote
  rcases splitReport_closed htrain with ⟨htrainPnl, htrainFees⟩
  rcases splitReport_closed hvalidation with ⟨hvalidationPnl, hvalidationFees⟩
  rcases splitReport_closed htest with ⟨htestPnl, htestFees⟩
  rcases splitReport_closed hoverall with ⟨hoverallPnl, hoverallFees⟩
  constructor
  case realized => rw [htrainPnl, hvalidationPnl, htestPnl, hoverallPnl, hpnl.2.2.2]
  case exitFees => rw [htrainFees, hvalidationFees, htestFees, hoverallFees, hfees.2.2.2]
  case afterTrain =>
      intro hlt
      have htotal := splitReport_telescopes hordered hrun htrain hlt
      simp only [BacktestSetup.bounds] at htotal
      rwa [hpnl.1, zero_add] at htotal
  case afterValidation =>
      intro hlt
      have htotal := splitReport_telescopes hordered hrun hvalidation hlt
      simp only [BacktestSetup.bounds] at htotal
      rwa [hpnl.2.1, ← htrainPnl] at htotal
  case afterTest =>
      intro hlt
      have htotal := splitReport_telescopes hordered hrun htest hlt
      simp only [BacktestSetup.bounds] at htotal
      rwa [hpnl.2.2.1, ← htrainPnl, ← hvalidationPnl] at htotal
  case whole =>
      have hpos : 0 < setup.minRequired := Nat.succ_pos _
      have hlt : setup.minRequired - 1 < segment.length := by omega
      have htotal := splitReport_telescopes hordered hrun hoverall hlt
      simp only [BacktestSetup.bounds] at htotal
      rwa [hpnl.1, zero_add] at htotal

end Splits

/-! ## The backtest -/

theorem rawSegments_ordered {setup : BacktestSetup} {candles segment : List Candle}
    {segments : List (List Candle)} {gaps : List GapRecord}
    (h : rawSegments setup candles = .ok (segments, gaps)) (hmem : segment ∈ segments) :
    Ordered segment := by
  unfold rawSegments at h
  split at h
  · rcases exists_of_bind_ok h with ⟨cs, hvalid, h⟩
    cases h
    have hsame := validateCandleSequence_eq_ok _ hvalid
    rw [hsame] at hvalid
    rcases (validateCandleSequence_ok_iff _ candles).1 hvalid with ⟨result, hresult, -⟩
    rw [List.mem_singleton.1 hmem]
    exact (partitionIntoSegments_eq_ok hresult).2.1
  · rcases exists_of_bind_ok h with ⟨result, hresult, h⟩
    cases h
    rcases partitionIntoSegments_eq_ok hresult with ⟨-, hordered, rfl⟩
    have hflat : (segmentsOf setup.stepMs candles).flatten = candles :=
      List.flatten_splitBy (adjacent setup.stepMs) candles
    exact hordered.sublist (hflat ▸ List.sublist_flatten_of_mem hmem)

/-- In every backtest with the reports of one run: the train, validation and test windows cut what
the run realized and paid in exit fees, and the total of each window, after what the windows before
it realized, is what the equity gained from the start of the run to the end of the window. -/
theorem split_breakdowns_telescope {β : Type} (texts : NumberTexts)
    (bootstrap : List Trade → ℚ → β) (setup : BacktestSetup) (candles : List Candle)
    (journal after : Journal) (r : BacktestResult (ExtendedSections β))
    (h : runBacktest setup (extendedSections texts bootstrap) candles journal = .ok (r, after))
    (hreports : r.extendedReports ≠ []) :
    ∃ segments gaps segment train validation test overall,
      rawSegments setup candles = .ok (segments, gaps) ∧
        setup.keptSegments segments = [segment] ∧
        r.extendedReports = [(.train, train), (.validation, validation), (.test, test),
          (.overall, overall)] ∧
        SplitsTelescope setup segment train validation test overall := by
  rcases exists_of_bind_ok h with ⟨⟨segments, gaps⟩, hraw, h⟩
  simp only at h
  split at h
  · rcases exists_of_bind_ok h with ⟨v, hscan, h⟩
    rcases exists_of_bind_ok h with ⟨result, hbuild, h⟩
    cases h
    have hstart : ScanVars.Sound setup segments []
        ({ journal := journal } : ScanVars (ExtendedSections β)) :=
      ⟨by simp, by simp, rfl⟩
    have hsound := scanSegments_sound hstart (List.Subset.refl segments) hscan
    rw [List.nil_append] at hsound
    have hkept := hsound.kept
    match hused : v.usedResults with
    | [] =>
        simp only [buildBacktestResult, hused] at hbuild
        cases hbuild
        exact absurd rfl hreports
    | [used] =>
        rw [hused] at hkept
        rcases buildBacktestResult_only hused hbuild with ⟨train, validation, test, overall, htrain,
          hvalidation, htest, hoverall, -, hextended⟩
        rcases hsound.evaluated used (by simp [hused]) with ⟨hlong, hevaluate⟩
        rcases BacktestSetup.exists_run_of_evaluate hevaluate with ⟨j, hrun⟩
        have hmem : used.segment ∈ segments := by
          refine BacktestSetup.keptSegments_subset setup segments ?_
          rw [← hkept]
          exact List.mem_singleton_self _
        exact ⟨segments, gaps, used.segment, train.2, validation.2, test.2, overall.2, hraw,
          hkept.symm, hextended, splitsTelescope (rawSegments_ordered hraw hmem) hrun hlong htrain
            hvalidation htest hoverall⟩
    | first :: second :: rest =>
        simp only [buildBacktestResult, hused] at hbuild
        cases hbuild
        exact absurd rfl hreports
  · cases h

namespace Scenario

/-- Candles that move from each price to the next. -/
def moving (prices : List ℚ) : List Candle :=
  (prices.zip (prices.drop 1)).zipIdx.map fun entry => candle (entry.2 : ℤ) entry.1.1 entry.1.2

/-- A rise that is sold in the training window, and one that is held over the validation window. -/
def twoRises : List Candle :=
  moving [100, 100, 100, 110, 120, 130, 120, 110, 100, 110, 120, 130, 140, 130, 120]

def noTexts : NumberTexts where
  plain _ := ""
  twoDecimals _ := ""

end Scenario

/-- Both trades of the run, one in the first window and one in the last. -/
theorem split_breakdowns_telescope_twoRises :
    ∃ r after segment train validation test overall,
      runBacktest Scenario.fastBacktest (extendedSections Scenario.noTexts fun _ _ => ())
          Scenario.twoRises = .ok (r, after) ∧
        r.trades.length = 2 ∧
        r.extendedReports = [(.train, train), (.validation, validation), (.test, test),
          (.overall, overall)] ∧
        SplitsTelescope Scenario.fastBacktest segment train validation test overall := by
  have hrun : (runBacktest Scenario.fastBacktest (extendedSections Scenario.noTexts fun _ _ => ())
      Scenario.twoRises).map (fun ran => (ran.1.trades.length, ran.1.extendedReports.length)) =
        .ok (2, 4) := by
    decide +kernel
  rcases exists_of_map_ok hrun with ⟨⟨r, after⟩, h, hfigures⟩
  rcases Prod.mk.inj hfigures with ⟨htrades, hreports⟩
  have hne : r.extendedReports ≠ [] := by
    intro hnone
    rw [hnone] at hreports
    cases hreports
  rcases split_breakdowns_telescope Scenario.noTexts (fun _ _ => ()) Scenario.fastBacktest
    Scenario.twoRises none after r h hne with
    ⟨segments, gaps, segment, train, validation, test, overall, -, -, hsplits, htelescope⟩
  exact ⟨r, after, segment, train, validation, test, overall, h, htrades.symm, hsplits, htelescope⟩

end TradingAgent
