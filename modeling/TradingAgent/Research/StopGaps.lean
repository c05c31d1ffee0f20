import TradingAgent.Research.Stability

/-!
# Stop gaps — the engine's count of gaps through the stop and the post-mortem's

The engine counts a gap when a stop exit loses more than the risk of the plan kept with the open
trade.  The post-mortem counts again, from the closed trades and the lists of planned risks, by
index.

* `stopGaps` is the count by index;
* `traceSegment_gapsCounted`: at the end of a run under the policy the counter is that count;
* `planned_risk_accounted`: the figures of a candidate's post-mortem are those of its blocks.
-/

namespace TradingAgent

/-! ## The count by index -/

/-- The stop exits that lost more than the planned risk at their index. -/
def stopGaps (risks : List ℚ) (trades : List Trade) : ℕ :=
  (trades.mapIdx fun i t => isGapThroughStop t risks[i]?).count (some true)

section Count

variable {risks : List ℚ} {trades : List Trade}

theorem stopGaps_concat (risks : List ℚ) (trades : List Trade) (t : Trade) :
    stopGaps risks (trades ++ [t]) =
      stopGaps risks trades +
        if isGapThroughStop t risks[trades.length]? = some true then 1 else 0 := by
  rw [stopGaps, List.mapIdx_concat, List.count_append, List.count_singleton, stopGaps]
  simp only [beq_iff_eq]

/-- A later entry does not move the figures of the trades before it. -/
theorem stopGaps_risks_append (hlen : trades.length ≤ risks.length) (more : List ℚ) :
    stopGaps (risks ++ more) trades = stopGaps risks trades := by
  refine congrArg (List.count (some true)) (List.mapIdx_eq_mapIdx_iff.2 ?_)
  intro i hi
  rw [List.getElem?_append_left (hi.trans_le hlen)]

/-- Only a stop exit goes through the stop. -/
theorem isGapThroughStop_of_ne {t : Trade} (h : t.exitReason ≠ .stopLoss) (risk : Option ℚ) :
    isGapThroughStop t risk = none :=
  if_neg h

/-- The engine's test of an exit is the post-mortem's of the trade it closes. -/
theorem exceedsPlannedRisk_iff (o : OpenTrade) (timeMs : ℤ) (q : ℚ) (fill : SimulatedFill)
    (realized : ℚ) (reason : ExitReason) (ref : ℚ) :
    exceedsPlannedRisk reason o realized = true ↔
      isGapThroughStop (closedTrade o timeMs q fill realized reason ref)
        (o.realizedPlan.bind RiskRewardPlan.plannedRiskQuote) = some true := by
  unfold exceedsPlannedRisk isGapThroughStop
  generalize o.realizedPlan.bind RiskRewardPlan.plannedRiskQuote = risk
  cases risk with
  | none => cases reason <;> simp [closedTrade]
  | some risk => cases reason <;> simp [closedTrade]

end Count

/-! ## The engine's counter -/

section Counter

variable {env : RunEnv} {candle : Candle} {S : ℚ} {v v' : LoopVars} {diag : DiagBuilder}
  {hist : List CandleTrace} {tr : CandleTrace} {es : List RunEntry}

/-- What an exit of the open trade adds to the counter. -/
theorem recordExit_gaps (env : RunEnv) {o : OpenTrade} (ho : v.state.openTrade = some o)
    (timeMs : ℤ) (q : ℚ) (fill : SimulatedFill) (reason : ExitReason) (ref : ℚ)
    (portfolio : PortfolioState) :
    (recordExit env timeMs q fill reason ref portfolio v).diag.rrGapLossesExceedingPlannedRisk =
      v.diag.rrGapLossesExceedingPlannedRisk +
        if exceedsPlannedRisk reason o
          (portfolio.realizedPnlQuote - v.state.portfolio.realizedPnlQuote) = true then 1 else 0 := by
  change _ = _ + if exceedsPlannedRisk reason o
    (decimal.sub portfolio.realizedPnlQuote v.state.portfolio.realizedPnlQuote) = true then 1 else 0
  simp only [recordExit, ho]
  split <;> rfl

theorem recordSignal_gaps (signalType : SignalType) (diag : DiagBuilder) :
    (recordSignal signalType diag).rrGapLossesExceedingPlannedRisk =
      diag.rrGapLossesExceedingPlannedRisk := by
  cases signalType <;> rfl

theorem recordSizingRejection_gaps (signalType : ActionableSignal) (code : ReasonCode)
    (plan : Option RiskRewardPlan) (diag : DiagBuilder) :
    (recordSizingRejection signalType code plan diag).rrGapLossesExceedingPlannedRisk =
      diag.rrGapLossesExceedingPlannedRisk := by
  cases signalType with
  | exit => rfl
  | buy =>
      cases plan with
      | none => rfl
      | some plan =>
          simp only [recordSizingRejection]
          split
          · rfl
          · split <;> rfl

theorem openPosition_gaps {q : ℚ} {fill : SimulatedFill} {plan : Option RiskRewardPlan}
    (h : openPosition env candle q fill plan v = .ok v') :
    v'.diag.rrGapLossesExceedingPlannedRisk = v.diag.rrGapLossesExceedingPlannedRisk := by
  rw [openPosition_eq_map] at h
  cases hbuy : env.imports.applyBuy v.state.portfolio q fill.fillPrice fill.feeQuote with
  | error e =>
      rw [hbuy] at h
      cases h
  | ok portfolio =>
      rw [hbuy] at h
      cases h
      cases plan <;> rfl

theorem fillBuy_gaps {q equity : ℚ} {plan : Option RiskRewardPlan}
    (h : fillBuy env candle q equity plan v = .ok v') :
    v'.diag.rrGapLossesExceedingPlannedRisk = v.diag.rrGapLossesExceedingPlannedRisk := by
  unfold fillBuy at h
  cases hrealize : realizePlan env plan q
      (env.imports.simulateBuy env.broker q candle.open).fillPrice equity with
  | error e =>
      simp [hrealize, bind, Except.bind] at h
  | ok realizedPlan =>
      simp only [hrealize, bind, Except.bind] at h
      cases realizedPlan with
      | none => exact openPosition_gaps h
      | some realized =>
          by_cases happroved : realized.approved = true
          · simp only [happroved, if_true] at h
            exact openPosition_gaps h
          · simp only [happroved] at h
            cases h
            rfl

/-- An exit the strategy asked for is no stop exit. -/
theorem fillExit_gaps {q : ℚ} (h : fillExit env candle q v = .ok v') :
    v'.diag.rrGapLossesExceedingPlannedRisk = v.diag.rrGapLossesExceedingPlannedRisk := by
  rcases applyExitFill_eq_ok h with ⟨portfolio, -, rfl⟩
  cases ho : v.state.openTrade with
  | none => simp only [recordExit, ho]
  | some o =>
      have hno : exceedsPlannedRisk .strategyExit o
          (portfolio.realizedPnlQuote - v.state.portfolio.realizedPnlQuote) = false := rfl
      rw [recordExit_gaps env ho, hno, if_neg Bool.false_ne_true, Nat.add_zero]

theorem submitSized_gaps {signalType : ActionableSignal} {equity q : ℚ}
    {plan : Option RiskRewardPlan}
    (h : submitSized env signalType candle equity q plan v = .ok v') :
    v'.diag.rrGapLossesExceedingPlannedRisk = v.diag.rrGapLossesExceedingPlannedRisk := by
  simp only [submitSized] at h
  split at h
  · cases h
    cases signalType <;> rfl
  · rcases exists_of_bind_ok h with ⟨validation, -, h⟩
    split at h
    · cases signalType with
      | buy => exact (fillBuy_gaps h :)
      | exit => exact (fillExit_gaps h :)
    · cases h
      cases signalType <;> rfl

/-- Filling the pending signal never counts a gap. -/
theorem fillPending_gaps (h : fillPending env candle v = .ok v') :
    v'.diag.rrGapLossesExceedingPlannedRisk = v.diag.rrGapLossesExceedingPlannedRisk := by
  rcases fillPending_cases h with ⟨-, rfl⟩ | ⟨signalType, m, -, hres, rfl⟩
  · rfl
  · simp only [resolvePendingSignal, bind, Except.bind] at hres
    split at hres
    · cases hres
    · split at hres
      · exact (submitSized_gaps hres :)
      · cases hres
        exact recordSizingRejection_gaps _ _ _ _

/-! ## A whole run -/

/-- The counter is the count by index. -/
def GapsCounted (v : LoopVars) : Prop :=
  v.diag.rrGapLossesExceedingPlannedRisk = stopGaps v.diag.rrPlannedRiskQuoteValues v.trades

theorem GapsCounted.congr (h : GapsCounted v) (htrades : v'.trades = v.trades)
    (hrisks : v'.diag.rrPlannedRiskQuoteValues = v.diag.rrPlannedRiskQuoteValues)
    (hgaps : v'.diag.rrGapLossesExceedingPlannedRisk = v.diag.rrGapLossesExceedingPlannedRisk) :
    GapsCounted v' := by
  rw [GapsCounted, htrades, hrisks, hgaps]
  exact h

/-- There is a planned risk for each entry. -/
theorem EntryPlans.length_risks (h : EntryPlans env hist es v) :
    v.diag.rrPlannedRiskQuoteValues.length = es.length := by
  have hrisk := congrArg List.length h.figures.risk
  simpa [DiagBuilder.planFigures] using hrisk

/-- The next planned risk is the one kept with the open trade. -/
theorem EntryPlans.openRisk (h : EntryPlans env hist es v) {o : OpenTrade}
    (ho : v.state.openTrade = some o) :
    v.diag.rrPlannedRiskQuoteValues[v.trades.length]? =
      o.realizedPlan.bind RiskRewardPlan.plannedRiskQuote := by
  rcases h.opened ho with ⟨e, he, rfl⟩
  rcases h.opens e (List.mem_of_getElem? he) with ⟨entry, -, hopened⟩
  rw [hopened.filled.stored, Option.bind_some]
  refine getElem?_of_map_some h.figures.risk ?_
  rw [List.getElem?_map, List.getElem?_map, he]
  rfl

/-- What filling the pending signal does to the closed trades: nothing, or an exit the strategy
asked for. -/
theorem fillPending_strategyTrades (h : fillPending env candle v = .ok v') :
    v'.trades = v.trades ∨ ∃ t, v'.trades = v.trades ++ [t] ∧ t.exitReason ≠ .stopLoss := by
  rcases fillPending_cases h with ⟨-, rfl⟩ | ⟨signalType, m, -, hres, rfl⟩
  · exact Or.inl rfl
  · rcases resolvePendingSignal_cases hres with
      ⟨rows, diag, -, -, rfl⟩ | ⟨-, e, rfl⟩ | ⟨-, e, rfl⟩
    · exact Or.inl rfl
    · exact Or.inl rfl
    · cases ho : v.state.openTrade with
      | none =>
          left
          simp only [ExitFill.result, ExitAttempt.leaves, recordExit, LoopVars.decided, ho]
      | some o =>
          right
          refine ⟨closedTrade o candle.openTimeMs e.quantity
            (env.imports.simulateSell env.broker e.quantity candle.open)
            (e.portfolio.realizedPnlQuote - v.state.portfolio.realizedPnlQuote) .strategyExit
            candle.open, ?_, by simp [closedTrade]⟩
          simp only [ExitFill.result, ExitAttempt.leaves, recordExit, LoopVars.decided, ho,
            decimal_exact, DecimalContext.exact_sub]

theorem GapsCounted.fillPending (h : GapsCounted v)
    (hlen : v.trades.length ≤ v.diag.rrPlannedRiskQuoteValues.length)
    (hfill : TradingAgent.fillPending env candle v = .ok v') : GapsCounted v' := by
  rcases (fillPending_frame hfill).figures.plannedRisk with ⟨more, hmore⟩
  have hrisks : v'.diag.rrPlannedRiskQuoteValues = v.diag.rrPlannedRiskQuoteValues ++ more :=
    hmore.symm
  have hold : v'.diag.rrGapLossesExceedingPlannedRisk =
      stopGaps v'.diag.rrPlannedRiskQuoteValues v.trades := by
    rw [fillPending_gaps hfill, hrisks, stopGaps_risks_append hlen]
    exact h
  rcases fillPending_strategyTrades hfill with hsame | ⟨t, ht, hreason⟩
  · rw [GapsCounted, hsame, hold]
  · -- the trade that was closed is no stop exit, whatever its planned risk
    rw [GapsCounted, ht, stopGaps_concat, isGapThroughStop_of_ne hreason, ← hold]
    simp

theorem GapsCounted.protectiveExit (h : GapsCounted v) (hkept : LoopInvariant env S v)
    (hplans : EntryPlans env hist es v)
    (hexit : TradingAgent.protectiveExit env candle v = .ok v') : GapsCounted v' := by
  have hrisks : v'.diag.rrPlannedRiskQuoteValues = v.diag.rrPlannedRiskQuoteValues :=
    congrArg EntryFigures.plannedRiskQuote (protectiveExit_frame hexit).figures
  rcases protectiveExit_cases hexit with rfl | ⟨e, rfl⟩
  · exact h
  · rcases hkept.holding_of_long e.long with ⟨o, ho, -⟩
    -- the engine's test and the test by index read the same planned risk
    have hsame := exceedsPlannedRisk_iff o candle.openTimeMs v.state.portfolio.baseBalance
      (env.imports.simulateSell env.broker v.state.portfolio.baseBalance e.reference)
      (e.portfolio.realizedPnlQuote - v.state.portfolio.realizedPnlQuote) e.reason e.reference
    have hcounter : e.result.diag.rrGapLossesExceedingPlannedRisk = _ :=
      recordExit_gaps env ho candle.openTimeMs v.state.portfolio.baseBalance
        (env.imports.simulateSell env.broker v.state.portfolio.baseBalance e.reference) e.reason
        e.reference e.portfolio
    rw [GapsCounted, hcounter, hrisks, e.result_trades ho, stopGaps_concat, hplans.openRisk ho, h]
    exact congrArg _ (if_congr hsame rfl rfl)

/-- At the end of a run under the policy the engine's counter is the count by index. -/
theorem traceSegment_gapsCounted (henv : env.Standard)
    (hpolicy : env.useFixedRiskRewardPolicy = true) {segment : List Candle} {journal : Journal}
    {traces : List CandleTrace} (h : traceSegment env segment S journal = .ok (traces, v)) :
    GapsCounted v := by
  refine (traceSegment_induct (fun hist u => (LoopInvariant env S u ∧
    ∃ es, EntryPlans env hist es u) ∧ GapsCounted u) h ?_ ?_).1.2
  · intro first _
    exact ⟨⟨.initial S first.close journal, [], .initial S first.close journal⟩, rfl⟩
  · rintro hist seen tr rest htr ⟨⟨hbefore, es, hes⟩, hgaps⟩ _
    have hkept := htr.kept henv hbefore
    have hopen : EntryPlans env (hist ++ [tr]) es tr.atOpen := by
      refine (hes.grow tr).congr ?_ ?_ ?_ <;> rw [htr.atOpen_eq]
      · exact rollDay_trades
      · exact rollDay_openTrade
      · rw [rollDay_diag]
    have hgapsOpen : GapsCounted tr.atOpen := by
      refine hgaps.congr ?_ ?_ ?_ <;> rw [htr.atOpen_eq]
      · exact rollDay_trades
      · rw [rollDay_diag]
      · rw [rollDay_diag]
    rcases hopen.fillPending henv hpolicy htr hkept.atOpen with ⟨es', hfilled⟩
    have hgapsFilled := hgapsOpen.fillPending (hopen.length_risks ▸ hopen.trades_le) htr.fills
    have hguarded := hfilled.protectiveExit htr hkept.filled
    have hgapsGuarded := hgapsFilled.protectiveExit hkept.filled hfilled htr.protects
    rcases htr.marks with ⟨signal, -, hclosed⟩
    have hfigures := DiagBuilder.entryFigures_recordSignal signal.type tr.guarded.diag
    have hrewards := rewards_recordSignal signal.type tr.guarded.diag
    refine ⟨⟨hkept.closed, es', hguarded.congr ?_ ?_ ?_⟩, hgapsGuarded.congr ?_ ?_ ?_⟩ <;>
      rw [hclosed]
    · rfl
    · rfl
    · exact DiagBuilder.planFigures_eq hfigures hrewards
    · rfl
    · exact congrArg EntryFigures.plannedRiskQuote hfigures
    · exact recordSignal_gaps signal.type tr.guarded.diag

end Counter

/-! ## The blocks of an evaluation -/

section Blocks

variable {ρ : Type} {env : DurationEnv ρ} {blocks : List (BlockResult ρ)} {block : BlockResult ρ}
  {r : SegmentRunResult} {runs : List SegmentRunResult}

/-- The plan of a filled entry risks something. -/
theorem FilledUnder.risk_pos {env : RunEnv} {candle : Candle} {equity : ℚ} {o : OpenTrade}
    {plan : RiskRewardPlan} (h : FilledUnder env candle equity o plan) :
    ∃ risk, plan.plannedRiskQuote = some risk ∧ 0 < risk := by
  rcases h.realized with ⟨-, planned, -, -, hquantity, -, hbuilt⟩
  rcases buildRealizedPlan_assessed hbuilt hquantity h.approved with ⟨raw, target, hbasis, rfl⟩
  exact ⟨_, rfl, mul_pos h.quantityPos hbasis.lossPos⟩

/-- What the records of a block say of its risk, beside the figures of the engine. -/
structure RiskRecorded (block : BlockResult ρ) (rr : RiskRewardDiagnostics) : Prop where
  engine : block.riskReward = some rr
  /-- Every closed trade has the risk it was planned with. -/
  known : ∀ record ∈ correlateTradesWithPlans block,
    ∃ risk, record.plannedRiskQuote = some risk ∧ 0 < risk
  stops : rr.stopLossExits =
    (correlateTradesWithPlans block).countP fun record => record.trade.exitReason = .stopLoss
  gaps : rr.gapLossesExceedingPlannedRisk =
    (correlateTradesWithPlans block).countP fun record => record.isGapThroughStop = some true

theorem countP_correlate_stops (block : BlockResult ρ) :
    ((correlateTradesWithPlans block).countP fun record => record.trade.exitReason = .stopLoss) =
      block.trades.countP fun t => t.exitReason = .stopLoss := by
  rw [← map_trade_correlate block, List.countP_map]
  rfl

theorem countP_correlate_gaps (rr : RiskRewardDiagnostics) (h : block.riskReward = some rr) :
    ((correlateTradesWithPlans block).countP fun record => record.isGapThroughStop = some true) =
      stopGaps rr.plannedRiskQuoteValues block.trades := by
  have hmap : (correlateTradesWithPlans block).map TradeRecord.isGapThroughStop =
      block.trades.mapIdx fun i t => isGapThroughStop t rr.plannedRiskQuoteValues[i]? := by
    refine List.ext_getElem? fun i => ?_
    simp only [correlateTradesWithPlans, List.getElem?_map, List.getElem?_mapIdx, Option.map_map, h,
      Option.bind_some]
    rfl
  rw [stopGaps, ← hmap, List.count, List.countP_map]
  refine List.countP_congr fun record _ => ?_
  simp

theorem Evaluated.riskRecorded (h : Evaluated env block r) : ∃ rr, RiskRecorded block rr := by
  rcases h with ⟨segment, segIdx, blockIdx, bounds, journal, j, reports, hrun, -, rfl⟩
  have henv := RunEnv.standard_standard env.config env.filters env.strategy env.minRequired
    env.minRequiredPos true
  rcases runSegment_traced hrun with ⟨traces, last, v, -, htraces, rfl, -⟩
  rcases traceSegment_entryPlans henv rfl htraces with ⟨hinv, es, hes⟩
  have hgaps := traceSegment_gapsCounted henv rfl htraces
  refine ⟨buildRiskReward v, rfl, ?_, ?_, ?_⟩
  · intro record hrecord
    rcases List.getElem?_of_mem hrecord with ⟨i, hi⟩
    have htrade := hi
    rw [correlateTradesWithPlans, List.getElem?_mapIdx, Option.map_eq_some_iff] at htrade
    rcases htrade with ⟨t, ht, -⟩
    -- the record of the trade is the plan its entry was filled under
    rcases @EntryPlans.correlatedAt _ _ _ _ env.config.backtest.startingEquity hes rfl last i t ht with
      ⟨e, he⟩
    rcases he.opens with ⟨tr, -, hopened⟩
    rcases hopened.filled.risk_pos with ⟨risk, hrisk, hpos⟩
    rw [he.postMortem _ rfl rfl, Option.some.injEq] at hi
    exact ⟨risk, by rw [← hi]; exact hrisk, hpos⟩
  · rw [countP_correlate_stops]
    rfl
  · rw [countP_correlate_gaps (buildRiskReward v) rfl]
    exact hgaps

theorem RunsOf.evaluated (h : RunsOf env blocks runs) :
    ∀ block ∈ evaluatedBlocks blocks, ∃ r, Evaluated env block r := by
  induction h with
  | nil => simp [evaluatedBlocks]
  | skipped segIdx blockIdx count reason _ ih =>
      rw [evaluatedBlocks, List.filter_cons_of_neg (by simp [skippedBlock])]
      exact ih
  | @ran block r blocks runs hblock _ ih =>
      intro b hb
      rcases List.mem_cons.1 (List.mem_of_mem_filter hb) with rfl | hrest
      · exact ⟨r, hblock⟩
      · exact ih b (List.mem_filter.2 ⟨hrest, (List.mem_filter.1 hb).2⟩)

/-- A figure that counts the records of each block counts those of all blocks. -/
theorem sum_engine_figures {figure : RiskRewardDiagnostics → ℕ} {p : TradeRecord → Bool}
    (h : ∀ block ∈ blocks, ∃ rr, block.riskReward = some rr ∧
      figure rr = (correlateTradesWithPlans block).countP p) :
    ((blocks.filterMap BlockResult.riskReward).map figure).sum =
      (blocks.flatMap correlateTradesWithPlans).countP p := by
  induction blocks with
  | nil => rfl
  | cons block rest ih =>
      rcases h block (List.mem_cons_self ..) with ⟨rr, hrr, hfigure⟩
      rw [List.filterMap_cons_some hrr, List.map_cons, List.sum_cons, List.flatMap_cons,
        List.countP_append, hfigure, ih fun b hb => h b (List.mem_cons_of_mem _ hb)]

end Blocks

/-! ## The figures of a candidate -/

/-- The figures of the post-mortem beside those the engine kept of each block. -/
structure RiskAccounted (pm : CandidatePostMortem) (engine : List RiskRewardDiagnostics) : Prop where
  stops : pm.riskRewardDiagnostics.stopLossTradesTotal =
    (engine.map RiskRewardDiagnostics.stopLossExits).sum
  gaps : pm.riskRewardDiagnostics.stopLossTradesGapExceedingPlannedRisk =
    (engine.map RiskRewardDiagnostics.gapLossesExceedingPlannedRisk).sum
  /-- No stop exit is left out for want of a planned risk. -/
  within : pm.riskRewardDiagnostics.stopLossTradesWithinPlannedRisk +
    pm.riskRewardDiagnostics.stopLossTradesGapExceedingPlannedRisk =
      pm.riskRewardDiagnostics.stopLossTradesTotal
  gapGroup : ∃ reasons gap, pm.exitReasonBreakdown = reasons ++ [gap] ∧
    gap.tradeCount = pm.riskRewardDiagnostics.stopLossTradesGapExceedingPlannedRisk
  knownR : pm.realizedRDistribution.tradesExcludedUnknownR = 0

section Account

variable {records : List TradeRecord}

/-- Records whose trade has the risk it was planned with, read by index. -/
def KnownRisk (record : TradeRecord) : Prop :=
  record.rMultiple.isSome = true ∧
    (record.isGapThroughStop.isSome = true ↔ record.trade.exitReason = .stopLoss)

theorem knownRisk_of_mem {ρ : Type} {block : BlockResult ρ} {record : TradeRecord}
    (hmem : record ∈ correlateTradesWithPlans block)
    (h : ∃ risk, record.plannedRiskQuote = some risk ∧ 0 < risk) : KnownRisk record := by
  rcases h with ⟨risk, hrisk, hpos⟩
  rw [correlateTradesWithPlans, List.mem_mapIdx] at hmem
  rcases hmem with ⟨i, hi, rfl⟩
  simp only [tradeRecord] at hrisk
  simp only [KnownRisk, tradeRecord, hrisk, rMultiple, isGapThroughStop, Option.bind_some,
    if_pos hpos, Option.map_some]
  refine ⟨rfl, ?_⟩
  split <;> simp_all

/-- The stop exits with a known risk are all of them. -/
theorem length_knownGaps (h : ∀ record ∈ records, KnownRisk record) :
    ((records.filter fun r => r.trade.exitReason = .stopLoss).filterMap
      TradeRecord.isGapThroughStop).length =
        (records.filter fun r => r.trade.exitReason = .stopLoss).length := by
  refine List.filterMap_length_eq_length.2 fun record hrecord => ?_
  rcases List.mem_filter.1 hrecord with ⟨hmem, hstop⟩
  exact (h record hmem).2.2 (of_decide_eq_true hstop)

/-- Counting the gaps among the stop exits is counting them among all records. -/
theorem countP_knownGaps (h : ∀ record ∈ records, KnownRisk record) :
    (((records.filter fun r => r.trade.exitReason = .stopLoss).filterMap
      TradeRecord.isGapThroughStop).countP fun gap => gap) =
        records.countP fun r => r.isGapThroughStop = some true := by
  rw [List.countP_filterMap, List.countP_filter]
  refine List.countP_congr fun record hrecord => ?_
  rcases h record hrecord with ⟨-, hstop⟩
  cases hgap : record.isGapThroughStop with
  | none => simp
  | some gap =>
      have hreason : record.trade.exitReason = .stopLoss := hstop.1 (by rw [hgap]; rfl)
      simp [hreason]

end Account

/-- In the post-mortem of every evaluation that returns the stop exits and the gaps beyond the planned
risk are those the engine counted as it ran, each stop exit is within its planned risk or such a gap,
and every closed trade has its realized multiple of the planned risk. -/
theorem planned_risk_accounted {β : Type} (texts : ReportTexts) (stepMs : ℤ)
    (env : DurationEnv (BlockReports β)) (candles : List Candle) (journal journal' : Journal)
    (blockCount : ℕ) (result : CandidateBlockedChronologicalResult (BlockReports β))
    (h : runCandidateBlockedChronologicalEvaluation env stepMs candles journal blockCount =
      .ok (result, journal')) :
    (∀ block ∈ evaluatedBlocks result.blocks, block.riskReward.isSome = true) ∧
      RiskAccounted (buildCandidatePostMortem texts result)
        ((evaluatedBlocks result.blocks).filterMap BlockResult.riskReward) := by
  rcases exists_runsOf h with ⟨runs, hruns⟩
  have hrecorded : ∀ block ∈ evaluatedBlocks result.blocks, ∃ rr, RiskRecorded block rr := by
    intro block hblock
    rcases hruns.evaluated block hblock with ⟨r, hr⟩
    exact hr.riskRecorded
  have hknown : ∀ record ∈ evaluatedRecords result.blocks, KnownRisk record := by
    intro record hrecord
    rcases List.mem_flatMap.1 hrecord with ⟨block, hblock, hmem⟩
    rcases hrecorded block hblock with ⟨rr, hrr⟩
    exact knownRisk_of_mem hmem (hrr.known record hmem)
  have hgaps := countP_knownGaps hknown
  have hlength := length_knownGaps hknown
  refine ⟨?_, ?_⟩
  · intro block hblock
    rcases hrecorded block hblock with ⟨rr, hrr⟩
    rw [hrr.engine]
    rfl
  constructor
  case stops =>
      calc ((evaluatedRecords result.blocks).filter fun r => r.trade.exitReason = .stopLoss).length
          = (evaluatedRecords result.blocks).countP fun r => r.trade.exitReason = .stopLoss :=
            List.countP_eq_length_filter.symm
        _ = _ := (sum_engine_figures fun block hblock => by
            rcases hrecorded block hblock with ⟨rr, hrr⟩
            exact ⟨rr, hrr.engine, hrr.stops⟩).symm
  case gaps =>
      refine hgaps.trans (sum_engine_figures fun block hblock => ?_).symm
      rcases hrecorded block hblock with ⟨rr, hrr⟩
      exact ⟨rr, hrr.engine, hrr.gaps⟩
  case within =>
      refine Eq.trans ?_ hlength
      rw [List.length_eq_countP_add_countP fun gap => gap, Nat.add_comm]
      simp [buildCandidatePostMortem, riskRewardPolicyDiagnostics, evaluatedRecords]
  case gapGroup =>
      refine ⟨_, _, rfl, ?_⟩
      refine Eq.trans ?_ hgaps.symm
      simp [gapThroughStopBreakdown, groupBreakdown, List.countP_eq_length_filter, evaluatedRecords]
  case knownR =>
      have hall : ((evaluatedRecords result.blocks).filterMap TradeRecord.rMultiple).length =
          (evaluatedRecords result.blocks).length :=
        List.filterMap_length_eq_length.2 fun record hrecord => (hknown record hrecord).1
      exact Nat.sub_eq_zero_of_le hall.ge

namespace Scenario

/-- Buys whenever flat and leaves every exit to the stop and the target. -/
def buying : Strategy := fun _ side =>
  match side with
  | .flat => .ok ⟨.buy, "ALWAYS_BUY", 0, []⟩
  | .long => .ok ⟨.hold, "HOLD", 0, []⟩

/-- An entry, and the next day a fall at the open far below its stop. -/
def gapDown : List Candle :=
  [candle 0 100 100, candle 6 100 100, candle 12 90 90, candle 18 90 90]

end Scenario

/-- One stop exit through a gap, counted by both. -/
theorem planned_risk_accounted_gapDown :
    ∃ result journal', runCandidateBlockedChronologicalEvaluation
        { Scenario.reportingEnv with strategy := Scenario.buying } dayMs Scenario.gapDown none 1 =
          .ok (result, journal') ∧
      (buildCandidatePostMortem Scenario.reportTexts
        result).riskRewardDiagnostics.stopLossTradesGapExceedingPlannedRisk = 1 := by
  have hrun : (runCandidateBlockedChronologicalEvaluation
      { Scenario.reportingEnv with strategy := Scenario.buying } dayMs Scenario.gapDown none 1).map
        (fun x => (((evaluatedBlocks x.1.blocks).filterMap BlockResult.riskReward).map
          RiskRewardDiagnostics.gapLossesExceedingPlannedRisk).sum) = .ok 1 := by
    decide +kernel
  rcases exists_of_map_ok hrun with ⟨⟨result, journal'⟩, h, hcount⟩
  have haccount := planned_risk_accounted Scenario.reportTexts dayMs
    { Scenario.reportingEnv with strategy := Scenario.buying } Scenario.gapDown none journal' 1
    result h
  exact ⟨result, journal', h, haccount.2.gaps.trans hcount.symm⟩

end TradingAgent
