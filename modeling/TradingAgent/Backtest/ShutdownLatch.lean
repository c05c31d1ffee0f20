import TradingAgent.Backtest.SignalFunnel

/-!
# Shutdown latch — a drawdown shutdown never recovers

A drawdown shutdown turns a BUY down, so it activates while the run is flat.  A flat run marks the
same equity at every candle, so its peak and its drawdown stay as they are, and every later BUY is
turned down too.

* `Latched` is the state from the activation on, and every candle keeps it;
* `drawdown_shutdown_latches`: from the activation on a run makes no entry and its equity stays at
  the equity of the activation.
-/

namespace TradingAgent

/-- The position a pending signal was emitted at. -/
def LoopVars.PendingFits (v : LoopVars) : Prop :=
  (v.pendingSignal = some .buy → v.state.portfolio.positionSide = .flat) ∧
    (v.pendingSignal = some .exit → v.state.portfolio.positionSide = .long)

/-- The drawdown gate stays closed: no position, no sale pending, and a peak too far above. -/
structure LoopVars.Shut (env : RunEnv) (equity : ℚ) (v : LoopVars) : Prop where
  flat : v.state.portfolio.positionSide = .flat
  quote : v.state.portfolio.quoteBalance = equity
  drawdown : env.config.risk.maxDrawdownPct ≤ drawdownPct v.peakEquity equity
  noSale : v.pendingSignal ≠ some .exit

/-- A run that has been shut since a candle that opened at `first`. -/
structure Latched (env : RunEnv) (first : ℤ) (equity : ℚ) (hist : List CandleTrace)
    (v : LoopVars) : Prop where
  shut : v.Shut env equity
  entries : ∀ t ∈ v.entryTimes, t < first
  exits : ∀ t ∈ v.trades, t.exitTimeMs < first
  points : ∀ tr ∈ hist, first ≤ tr.candle.openTimeMs →
    tr.point.equity = equity ∧ tr.point.inPosition = false

section Steps

variable {env : RunEnv} {S equity : ℚ} {hist : List CandleTrace} {seen : List Candle}
  {tr : CandleTrace} {v : LoopVars} {refused : List RejectedEntry} {journal : Journal}

/-- A drawdown limit that is reached leaves the peak above the equity. -/
theorem max_eq_of_drawdown {limit peak : ℚ} (hpos : 0 < limit) (h : limit ≤ drawdownPct peak equity) :
    max peak equity = peak := by
  unfold drawdownPct at h
  split at h
  · rename_i hpeak
    have hfall : 0 < (peak - equity) / peak := hpos.trans_le h
    have hbelow : 0 < peak - equity := by
      by_contra hle
      exact absurd hfall (not_lt.2 (div_nonpos_of_nonpos_of_nonneg (not_lt.1 hle) hpeak.le))
    exact max_eq_left (by linarith)
  · linarith

theorem evaluate_maxDrawdownShutdown {engine : RiskEngine} {intent : TradeIntent}
    {context : RiskContext} (hbuy : intent.signalType = .buy)
    (h : engine.evaluate intent context = ⟨false, .maxDrawdownShutdown⟩) :
    engine.config.maxDrawdownPct ≤ context.currentDrawdownPct := by
  unfold RiskEngine.evaluate at h
  cases hgate : engine.checkUniversalGates context with
  | some decision =>
      rw [hgate] at h
      unfold RiskEngine.checkUniversalGates at hgate
      repeat' split at hgate
      all_goals simp_all
  | none =>
      rw [hgate, hbuy] at h
      by_contra hbelow
      simp only [RiskEngine.checkBuyGates, ge_iff_le, hbelow, if_false] at h
      repeat' split at h
      all_goals simp_all

/-- At each close the pending signal fits the position it was emitted at. -/
theorem CandleTrace.Valid.pendingFits (hstrategy : env.strategy.RespectsPosition)
    (htr : tr.Valid env seen) (hnone : tr.guarded.pendingSignal = none) : tr.closed.PendingFits := by
  rcases htr.marks with ⟨signal, hsignal, hclosed⟩
  have hpending : tr.closed.pendingSignal = signal.type.actionable? := by
    rw [hclosed]
    simp [recordMark, hnone]
  have hside : tr.closed.state.portfolio.positionSide = tr.guarded.state.portfolio.positionSide := by
    rw [hclosed]
    rfl
  rw [LoopVars.PendingFits, hpending, hside]
  cases hpos : tr.guarded.state.portfolio.positionSide with
  | flat =>
      refine ⟨fun _ => rfl, fun hexit => ?_⟩
      rw [hpos] at hsignal
      have hno := hstrategy.exitOnlyLong seen signal hsignal
      cases htype : signal.type <;> simp_all [SignalType.actionable?]
  | long =>
      refine ⟨fun hbuy => ?_, fun _ => rfl⟩
      rw [hpos] at hsignal
      have hno := hstrategy.buyOnlyFlat seen signal hsignal
      cases htype : signal.type <;> simp_all [SignalType.actionable?]

/-- A flat portfolio is worth its quote balance at every price. -/
theorem LoopInvariant.equity_of_positionSide (h : LoopInvariant env S v)
    (hflat : v.state.portfolio.positionSide = .flat) (price : ℚ) :
    v.state.portfolio.equity price = v.state.portfolio.quoteBalance := by
  rw [PortfolioState.equity_eq, h.books.flatBase hflat, zero_mul, add_zero]

/-- Where the gate is shut once the open is behind, it is shut at the close. -/
theorem CandleTrace.Valid.closed_shut (hstrategy : env.strategy.RespectsPosition)
    (htr : tr.Valid env seen) (hkept : tr.Kept env S) (hnone : tr.filled.pendingSignal = none)
    (hflat : tr.filled.state.portfolio.positionSide = .flat)
    (hquote : tr.filled.state.portfolio.quoteBalance = equity)
    (hdrawdown : env.config.risk.maxDrawdownPct ≤ drawdownPct tr.filled.peakEquity equity) :
    tr.closed.Shut env equity ∧ tr.closed.state = tr.filled.state ∧
      tr.closed.trades = tr.filled.trades ∧ tr.point.equity = equity ∧
        tr.point.inPosition = false := by
  have hguarded : tr.guarded = tr.filled := by
    rcases protectiveExit_cases htr.protects with hsame | ⟨e, -⟩
    · exact hsame
    · have hlong := e.long
      rw [hflat] at hlong
      cases hlong
  have hfits := htr.pendingFits hstrategy (hguarded ▸ hnone)
  rcases htr.marks with ⟨signal, -, hclosed⟩
  rw [hguarded] at hclosed
  have hstate : tr.closed.state = tr.filled.state := by
    rw [hclosed]
    rfl
  have hworth : tr.closed.state.portfolio.equity tr.candle.close = equity := by
    rw [hstate, hkept.filled.equity_of_positionSide hflat, hquote]
  have hpeak : tr.closed.peakEquity = tr.filled.peakEquity := by
    have hmark : tr.closed.peakEquity =
        max tr.filled.peakEquity (tr.filled.state.portfolio.equity tr.candle.close) := by
      rw [hclosed]
      rfl
    rw [hmark, hkept.filled.equity_of_positionSide hflat, hquote]
    exact max_eq_of_drawdown env.config.risk.maxDrawdownPctPos hdrawdown
  refine ⟨⟨?_, ?_, ?_, ?_⟩, hstate, ?_, hworth, ?_⟩
  · rw [hstate, hflat]
  · rw [hstate, hquote]
  · rw [hpeak]
    exact hdrawdown
  · intro hexit
    have hlong := hfits.2 hexit
    rw [hstate, hflat] at hlong
    cases hlong
  · rw [hclosed]
    rfl
  · simp [CandleTrace.point, hstate, hflat]

/-- While the gate is shut, the pending signal leaves the state and the peak as they are. -/
theorem LoopVars.Shut.filled (henv : env.Standard) (h : tr.before.Shut env equity)
    (hkept : tr.Kept env S) (htr : tr.Valid env seen) :
    tr.filled.pendingSignal = none ∧ tr.filled.state = tr.atOpen.state ∧
      tr.filled.trades = tr.before.trades ∧ tr.filled.peakEquity = tr.before.peakEquity := by
  have hopen := htr.atOpen_eq
  have hpending : tr.atOpen.pendingSignal = tr.before.pendingSignal := by rw [hopen]; rfl
  have hpeakOpen : tr.atOpen.peakEquity = tr.before.peakEquity := by rw [hopen]; rfl
  have htrades : tr.atOpen.trades = tr.before.trades := by rw [hopen, rollDay_trades]
  have hportfolio : tr.atOpen.state.portfolio = tr.before.state.portfolio := by
    rw [hopen, rollDay_portfolio]
  have hworth : tr.atOpen.equityAtOpen tr.candle = equity := by
    rw [LoopVars.equityAtOpen, hportfolio, hkept.before.equity_of_positionSide h.flat, h.quote]
  have hpeak : tr.atOpen.peakAtOpen tr.candle = tr.before.peakEquity := by
    rw [LoopVars.peakAtOpen, hworth, hpeakOpen]
    exact max_eq_of_drawdown env.config.risk.maxDrawdownPctPos h.drawdown
  rcases fillPending_cases htr.fills with ⟨hnone, hsame⟩ | ⟨signalType, m, hsome, hres, hfilled⟩
  · rw [hsame]
    exact ⟨hnone, rfl, htrades, hpeakOpen⟩
  · rcases resolvePendingSignal_cases hres with
      ⟨rows, diag, -, -, rfl⟩ | ⟨-, e, -⟩ | ⟨rfl, -, -⟩
    · rw [hfilled]
      exact ⟨rfl, rfl, htrades, hpeak⟩
    · -- an entry would have passed the drawdown gate
      have hgate := (e.facts henv).gates.drawdown
      simp only [LoopVars.contextAtOpen, riskContext, hpeak, hworth] at hgate
      exact absurd h.drawdown (not_le.2 hgate)
    · exact absurd (hpending.symm.trans hsome) h.noSale

/-- A latched run stays latched. -/
theorem Latched.step (henv : env.Standard) (hstrategy : env.strategy.RespectsPosition) {first : ℤ}
    (h : Latched env first equity hist tr.before) (hkept : tr.Kept env S)
    (htr : tr.Valid env seen) : Latched env first equity (hist ++ [tr]) tr.closed := by
  rcases h.shut.filled henv hkept htr with ⟨hnone, hstate, htrades, hpeak⟩
  have hopen : tr.atOpen.state.portfolio = tr.before.state.portfolio := by
    rw [htr.atOpen_eq, rollDay_portfolio]
  have hopenTrade : tr.atOpen.state.openTrade = tr.before.state.openTrade := by
    rw [htr.atOpen_eq, rollDay_openTrade]
  rcases htr.closed_shut hstrategy hkept hnone (by rw [hstate, hopen, h.shut.flat])
      (by rw [hstate, hopen, h.shut.quote]) (by rw [hpeak]; exact h.shut.drawdown) with
    ⟨hshut, hclosed, hclosedTrades, hpoint⟩
  refine ⟨hshut, ?_, ?_, ?_⟩
  · have htimes : tr.closed.entryTimes = tr.before.entryTimes := by
      unfold LoopVars.entryTimes
      rw [hclosedTrades, htrades, hclosed, hstate, hopenTrade]
    rw [htimes]
    exact h.entries
  · rw [hclosedTrades, htrades]
    exact h.exits
  · intro tr' htr' hlate
    rcases List.mem_append.1 htr' with hold | hnew
    · exact h.points tr' hold hlate
    · rw [List.mem_singleton.1 hnew]
      exact hpoint

/-- The first drawdown rejection latches the run. -/
theorem CandleTrace.Valid.latches (henv : env.Standard) (hstrategy : env.strategy.RespectsPosition)
    (htr : tr.Valid env seen) (hkept : tr.Kept env S) (hfits : tr.before.PendingFits)
    {e : RejectedEntry} (hrefuses : tr.Refuses env (some e)) (hstage : e.stage = .riskGate)
    (hcode : e.code = .maxDrawdownShutdown)
    (hentries : ∀ t ∈ tr.before.entryTimes, t < tr.candle.openTimeMs)
    (hexits : ∀ t ∈ tr.before.trades, t.exitTimeMs < tr.candle.openTimeMs)
    (hearlier : ∀ old ∈ hist, old.candle.openTimeMs < tr.candle.openTimeMs) :
    Latched env e.timeMs e.equity (hist ++ [tr]) tr.closed := by
  have hopen := htr.atOpen_eq
  have hpending : tr.atOpen.pendingSignal = tr.before.pendingSignal := by rw [hopen]; rfl
  have hportfolio : tr.atOpen.state.portfolio = tr.before.state.portfolio := by
    rw [hopen, rollDay_portfolio]
  have hopenTrade : tr.atOpen.state.openTrade = tr.before.state.openTrade := by
    rw [hopen, rollDay_openTrade]
  have htrades : tr.atOpen.trades = tr.before.trades := by rw [hopen, rollDay_trades]
  have hpeak := (fillPending_counters henv hkept.atOpen htr.fills).2
  unfold CandleTrace.Refuses at hrefuses
  cases hsignal : tr.before.pendingSignal with
  | none =>
      rw [hsignal] at hrefuses
      cases hrefuses.1
  | some signalType =>
      rw [hsignal] at hrefuses
      rcases hrefuses with ⟨m, hdecides, hfilled⟩
      rcases hdecides.kept e rfl with ⟨rfl, hstate, hsame⟩
      rcases hdecides.decidedAt e rfl with ⟨htime, hequity, -⟩
      rcases hdecides.gate e rfl hstage with ⟨intent, context, hbuy, rfl, hgate⟩
      have hflat : tr.before.state.portfolio.positionSide = .flat := hfits.1 hsignal
      have hstate : tr.filled.state = tr.atOpen.state := by rw [hfilled]; exact hstate
      have hsame : tr.filled.trades = tr.atOpen.trades := by rw [hfilled]; exact hsame
      have hquote : tr.before.state.portfolio.quoteBalance = e.equity := by
        rw [hequity, LoopVars.equityAtOpen, hportfolio, hkept.before.equity_of_positionSide hflat]
      -- what the gate read is the peak the fill leaves behind
      have hdrawdown : env.config.risk.maxDrawdownPct ≤
          drawdownPct tr.filled.peakEquity e.equity := by
        rw [hcode, henv.imports, henv.riskEngine] at hgate
        have hreached := evaluate_maxDrawdownShutdown hbuy hgate
        rw [hpeak, hpending, hsignal, Option.isSome_some, if_pos rfl, hequity]
        exact hreached
      rcases htr.closed_shut hstrategy hkept (by rw [hfilled])
          (by rw [hstate, hportfolio, hflat]) (by rw [hstate, hportfolio, hquote]) hdrawdown with
        ⟨hshut, hclosed, hclosedTrades, hpoint⟩
      refine ⟨hshut, ?_, ?_, ?_⟩
      · have htimes : tr.closed.entryTimes = tr.before.entryTimes := by
          unfold LoopVars.entryTimes
          rw [hclosedTrades, hsame, htrades, hclosed, hstate, hopenTrade]
        rw [htimes, htime]
        exact hentries
      · rw [hclosedTrades, hsame, htrades, htime]
        exact hexits
      · intro tr' htr' hlate
        rcases List.mem_append.1 htr' with hold | hnew
        · rw [htime] at hlate
          exact absurd (hearlier tr' hold) (not_lt.2 hlate)
        · rw [List.mem_singleton.1 hnew]
          exact hpoint

theorem CandleTrace.Valid.processed (htr : tr.Valid env seen) :
    processCandle env seen tr.candle tr.before = .ok tr.closed := by
  rcases htr.marks with ⟨signal, hsignal, hclosed⟩
  have hfills := htr.fills
  rw [htr.atOpen_eq] at hfills
  simp [processCandle, markAndSignal, hfills, htr.protects, hsignal, hclosed, bind, Except.bind]

/-! ## A whole run -/

/-- What a run has shown of its drawdown shutdown so far. -/
structure LatchedSoFar (env : RunEnv) (S : ℚ) (journal : Journal) (hist : List CandleTrace)
    (v : LoopVars) : Prop where
  invariant : LoopInvariant env S v
  fits : v.PendingFits
  exits : (v.trades.map Trade.exitTimeMs).Sublist (hist.map fun tr => tr.candle.openTimeMs)
  latched : ∃ refused, Ledger env journal hist refused v ∧
    ∀ e, ((gateRejections refused).find? fun e => e.code = .maxDrawdownShutdown) = some e →
      Latched env e.timeMs e.equity hist v

theorem LatchedSoFar.step (henv : env.Standard) (hstrategy : env.strategy.RespectsPosition)
    {rest : List Candle} (h : LatchedSoFar env S journal hist tr.before) (htr : tr.Valid env seen)
    (horder : (hist.map CandleTrace.candle ++ tr.candle :: rest).Pairwise
      fun a b => a.openTimeMs < b.openTimeMs) :
    LatchedSoFar env S journal (hist ++ [tr]) tr.closed := by
  have hkept := htr.kept henv h.invariant
  rcases h.latched with ⟨refused, hledger, hlatched⟩
  rcases htr.refuses henv with ⟨refusal, hrefuses⟩
  rcases hledger.filled henv h.invariant htr hrefuses with ⟨hfilled, hnone⟩
  have hclosed := hfilled.closed hnone hkept.filled htr
  have hguarded : tr.guarded.pendingSignal = none := by
    rw [(protectiveExit_figures htr.protects).2.2.2.1, hnone]
  have hearlier : ∀ old ∈ hist, old.candle.openTimeMs < tr.candle.openTimeMs := fun old hold =>
    (List.pairwise_append.1 horder).2.2 _ (List.mem_map_of_mem hold) _ List.mem_cons_self
  have hbefore : ∀ times : List ℤ, times.Sublist (hist.map fun tr => tr.candle.openTimeMs) →
      ∀ t ∈ times, t < tr.candle.openTimeMs := by
    intro times htimes t ht
    rcases List.mem_map.1 (htimes.subset ht) with ⟨old, hold, rfl⟩
    exact hearlier old hold
  refine ⟨hkept.closed, htr.pendingFits hstrategy hguarded, ?_, refused ++ refusal.toList, hclosed,
    ?_⟩
  · rcases (processCandle_extends htr.processed).trades with ⟨ts, hts, htimes⟩
    rw [hts, List.map_append, List.map_append]
    exact h.exits.append htimes
  · intro e he
    rw [gateRejections, List.filter_append, List.find?_append] at he
    cases hold : (gateRejections refused).find? fun e => e.code = .maxDrawdownShutdown with
    | some e' =>
        -- the run was latched before this candle
        rw [gateRejections] at hold
        rw [hold, Option.some_or] at he
        cases Option.some.inj he
        exact (hlatched e hold).step henv hstrategy hkept htr
    | none =>
        rw [gateRejections] at hold
        rw [hold, Option.none_or] at he
        have hmem := List.mem_filter.1 (List.mem_of_find?_eq_some he)
        have hrefusal : refusal = some e := Option.mem_toList.1 hmem.1
        rw [hrefusal] at hrefuses
        refine htr.latches henv hstrategy hkept h.fits hrefuses (by simpa using hmem.2)
          (by simpa using List.find?_some he) (hbefore _ hledger.enteredAt) ?_ hearlier
        intro t ht
        exact hbefore _ h.exits _ (List.mem_map_of_mem ht)

end Steps

/-- A finished run that made no entry from an activation on, and whose equity stayed as it was. -/
structure SegmentRunResult.ShutFrom (r : SegmentRunResult) (candles : List Candle)
    (a : ShutdownActivation) : Prop where
  latched : a.remainedLatchedToEnd = true
  flat : r.endsWithOpenPosition = false
  equity : r.diagnostics.endingEquity = a.equityAtActivation
  entries : ∀ t ∈ r.entryTimes, t < a.firstActivatedTimeMs
  exits : ∀ t ∈ r.trades, t.exitTimeMs < a.firstActivatedTimeMs
  points : ∀ p ∈ candles.zip r.equityCurve, a.firstActivatedTimeMs ≤ p.1.openTimeMs →
    p.2.equity = a.equityAtActivation ∧ p.2.inPosition = false

/-- A drawdown shutdown latches: for every strategy that emits BUY only while flat and EXIT only
while long, over candles that open in strict order, a run that reports one makes no entry and no
exit from it on, ends flat, and is worth at every later close what it was worth when the shutdown
activated. -/
theorem drawdown_shutdown_latches (config : AppConfig) (filters : SymbolFilters)
    (strategy : Strategy) (hstrategy : strategy.RespectsPosition) (minRequired : ℕ)
    (hpos : 0 < minRequired) (policy : Bool) (segment : List Candle) (S : ℚ) (journal j : Journal)
    (r : SegmentRunResult) (horder : segment.Pairwise fun a b => a.openTimeMs < b.openTimeMs)
    (h : runSegment (.standard config filters strategy minRequired hpos policy) segment S journal =
      .ok (r, j)) (a : ShutdownActivation)
    (ha : (.maxDrawdownShutdown, a) ∈ r.diagnostics.shutdownActivations) :
    r.ShutFrom (segment.drop (minRequired - 1)) a := by
  have henv := RunEnv.standard_standard config filters strategy minRequired hpos policy
  rcases runSegment_traced h with ⟨traces, last, v, -, htraces, rfl, rfl⟩
  have hdrop : (segment.drop (minRequired - 1)).Pairwise fun a b => a.openTimeMs < b.openTimeMs :=
    List.Pairwise.drop horder
  have hrun := traceSegment_induct
    (LatchedSoFar (.standard config filters strategy minRequired hpos policy) S journal) htraces
    (fun first _ => ⟨.initial S first.close journal, ⟨by simp [initialVars], by simp [initialVars]⟩,
      List.Sublist.refl [], [], .initial S first.close journal, by simp [gateRejections]⟩)
    (fun hist seen tr rest htr hP hsplit => hP.step henv hstrategy htr (hsplit ▸ hdrop))
  have hfar := hrun.1
  have hcandles : traces.map CandleTrace.candle = segment.drop (minRequired - 1) := hrun.2
  rcases hfar.latched with ⟨refused, hledger, hlatched⟩
  -- the activation is the first drawdown rejection
  rcases List.mem_map.1 ha with ⟨⟨code, first⟩, hmem, heq⟩
  cases heq
  have hfirsts : v.diag.shutdownFirstActivation = Dict.firsts ((gateRejections refused).map
      fun e => (e.code, e.timeMs, e.equity, e.drawdown)) :=
    congrArg RejectionFigures.first hledger.figures
  rw [hfirsts, Dict.mem_firsts, List.find?_map, Option.map_eq_some_iff] at hmem
  rcases hmem with ⟨e, he, hkey⟩
  have hshut := hlatched e he
  have htime : e.timeMs = first.1 := congrArg (fun p => p.2.1) hkey
  have hequity : e.equity = first.2.1 := congrArg (fun p => p.2.2.1) hkey
  rw [htime, hequity] at hshut
  have hopens : (traces.map fun tr => tr.candle.openTimeMs).Pairwise (· ≤ ·) := by
    rw [← hcandles, List.pairwise_map] at hdrop
    rw [List.pairwise_map]
    exact hdrop.imp fun hlt => hlt.le
  constructor
  case latched => exact (hledger.latched_iff hopens first.1).2 hshut.entries
  case flat => simp [buildResult, hshut.shut.flat]
  case equity =>
    refine Eq.trans ?_ hshut.shut.quote
    exact hfar.invariant.equity_of_positionSide hshut.shut.flat last.close
  case entries =>
    rw [buildResult_entryTimes]
    exact hshut.entries
  case exits => exact hshut.exits
  case points =>
    have hcurve : (buildResult (.standard config filters strategy minRequired hpos policy) S last
        v).equityCurve = traces.map CandleTrace.point := (traceSegment_kept henv htraces).2.2
    rw [hcurve, ← hcandles, List.zip_map']
    intro p hp hlate
    rcases List.mem_map.1 hp with ⟨tr, htr, rfl⟩
    exact hshut.points tr htr hlate

/-- The strategy of the small scenario emits BUY while flat and EXIT while long. -/
theorem Scenario.alternating_respectsPosition : Scenario.alternating.RespectsPosition where
  buyOnlyFlat := by
    intro candles s h
    cases h
    decide
  exitOnlyLong := by
    intro candles s h
    cases h
    decide
  noTransition := by
    intro candles side e h
    cases side <;> cases h

/-- A fall of three tenths, then two BUYs that are turned down. -/
def Scenario.crash : List Candle :=
  [Scenario.candle 0 100 100, Scenario.candle 1 100 100, Scenario.candle 2 70 70,
    Scenario.candle 3 70 71, Scenario.candle 4 72 75]

theorem drawdown_shutdown_latches_crash :
    ∃ r j a, runSegment (Scenario.env false) Scenario.crash 50 (some []) = .ok (r, j) ∧
      (.maxDrawdownShutdown, a) ∈ r.diagnostics.shutdownActivations ∧
        r.ShutFrom Scenario.crash a := by
  have hreported : (runSegment (Scenario.env false) Scenario.crash 50 (some [])).map
      (fun run => run.1.diagnostics.shutdownActivations.map Prod.fst) =
        .ok [.maxDrawdownShutdown] := by
    decide +kernel
  rcases exists_of_map_ok hreported with ⟨⟨r, j⟩, h, hkeys⟩
  have hmem : ReasonCode.maxDrawdownShutdown ∈ r.diagnostics.shutdownActivations.map Prod.fst := by
    rw [← hkeys]
    exact List.mem_singleton_self _
  rcases List.mem_map.1 hmem with ⟨⟨code, a⟩, ha, hcode⟩
  cases hcode
  exact ⟨r, j, a, h, ha, drawdown_shutdown_latches {} Scenario.filters Scenario.alternating
    Scenario.alternating_respectsPosition 1 Nat.one_pos false Scenario.crash 50 (some []) j r
    (by unfold Scenario.crash; decide) h a ha⟩

end TradingAgent
