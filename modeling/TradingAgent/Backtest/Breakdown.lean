import TradingAgent.Backtest.Episodes
import TradingAgent.Backtest.Marks
import TradingAgent.Backtest.SignalFunnel
import TradingAgent.Metrics.ExtendedReport

/-!
# Breakdown — where the profit of a run went

The profit breakdown of an extended report adds up realized profit, unrealized profit, fees and
slippage, each from the records of a run.

* `Priced` says how the fills of a trade follow from its reference prices, and every stage of a
  candle keeps it;
* `pnl_breakdown_explains`: the total is what the run's equity gained, and the costs are exactly
  what separates it from the same trades filled at their reference prices.
-/

namespace TradingAgent

/-! ## Prices -/

/-- How an entry was filled: above its reference price by the slippage, with the taker fee. -/
structure OpenTrade.Priced (env : RunEnv) (o : OpenTrade) : Prop where
  referencePos : 0 < o.entryReferencePrice
  price : o.entryPrice = o.entryReferencePrice * (1 + env.config.fees.slippagePct)
  fee : o.entryFee = o.quantity * o.entryPrice * env.config.fees.takerFeePct
  quantityPos : 0 < o.quantity

/-- How a closed trade was filled, on both sides. -/
structure Trade.Priced (env : RunEnv) (t : Trade) : Prop where
  entryReferencePos : 0 < t.entryReferencePrice
  entryPrice : t.entryPrice = t.entryReferencePrice * (1 + env.config.fees.slippagePct)
  entryFee : t.entryFeeQuote = t.quantity * t.entryPrice * env.config.fees.takerFeePct
  exitReferencePos : 0 < t.exitReferencePrice
  exitPrice : t.exitPrice = t.exitReferencePrice * (1 - env.config.fees.slippagePct)
  exitFee : t.exitFeeQuote = t.quantity * t.exitPrice * env.config.fees.takerFeePct
  quantityPos : 0 < t.quantity

/-- Every trade so far is priced, and the levels of the open one are positive. -/
structure Pricing (env : RunEnv) (v : LoopVars) : Prop where
  closed : ∀ t ∈ v.trades, t.Priced env
  opened : ∀ o, v.state.openTrade = some o → o.Priced env
  stop : ∀ price, v.state.stopPrice = some price → 0 < price
  target : ∀ price, v.state.targetPrice = some price → 0 < price

section Stages

variable {env : RunEnv} {candle : Candle} {v v' : LoopVars} {S : ℚ}

theorem Pricing.initial (S firstClose : ℚ) (journal : Journal) :
    Pricing env (initialVars S firstClose journal) := by
  constructor <;> simp [initialVars]

theorem Pricing.congr (h : Pricing env v) (htrades : v'.trades = v.trades)
    (hopen : v'.state.openTrade = v.state.openTrade) (hstop : v'.state.stopPrice = v.state.stopPrice)
    (htarget : v'.state.targetPrice = v.state.targetPrice) : Pricing env v' :=
  ⟨htrades ▸ h.closed, hopen ▸ h.opened, hstop ▸ h.stop, htarget ▸ h.target⟩

theorem Pricing.rollDay (h : Pricing env v) : Pricing env (rollDay candle v) := by
  refine h.congr rfl ?_ ?_ ?_ <;>
    · simp only [TradingAgent.rollDay]
      split <;> rfl

/-- The target of an entry under the policy lies above its fill. -/
theorem EntryAttempt.target_above (henv : env.Standard)
    (hpolicy : env.useFixedRiskRewardPolicy = true) (e : EntryAttempt env candle v)
    {realized : RiskRewardPlan} (hsome : e.realizedPlan = some realized) {target : ℚ}
    (htarget : realized.targetPrice = some target) : entryPrice env candle < target := by
  rcases e.revalidated henv hpolicy with ⟨plan, raw, planned, hbasis, hplan⟩
  rw [simulateBuy_standard henv] at hbasis hplan
  rw [hsome] at hplan
  cases hplan
  cases htarget
  exact hbasis.targetAbove

/-- The levels an entry sets lie above zero. -/
theorem EntryFill.levels_pos (henv : env.Standard) (e : EntryFill env candle v)
    (htarget : ∀ price, v.state.targetPrice = some price → 0 < price) :
    (∀ price, e.result.state.stopPrice = some price → 0 < price) ∧
      ∀ price, e.result.state.targetPrice = some price → 0 < price := by
  have hfacts := e.facts henv
  have hprice : 0 < entryPrice env candle :=
    mul_pos hfacts.pricePos (by linarith [env.config.fees.slippagePctNonneg])
  have hstop : 0 < entryPrice env candle * (1 - env.config.stopLoss.stopDistancePct) :=
    mul_pos hprice (by linarith [env.config.stopLoss.stopDistancePctLt])
  have hplan := hfacts.plan
  by_cases hpolicy : env.useFixedRiskRewardPolicy = true
  · rw [if_pos hpolicy] at hplan
    rcases hplan with ⟨realized, hsome, hrealized⟩
    refine ⟨?_, ?_⟩
    · intro price hset
      simp only [EntryFill.result, EntryAttempt.leaves, recordEntry, hsome, hrealized.stop,
        Option.some.injEq] at hset
      rw [← hset]
      exact hstop
    · intro price hset
      simp only [EntryFill.result, EntryAttempt.leaves, recordEntry, hsome] at hset
      exact hprice.trans (e.target_above henv hpolicy hsome hset)
  · rw [if_neg hpolicy] at hplan
    refine ⟨?_, ?_⟩
    · intro price hset
      simp only [EntryFill.result, EntryAttempt.leaves, recordEntry, hplan,
        simulateBuy_standard henv, Option.some.injEq] at hset
      rw [← hset]
      exact hstop
    · intro price hset
      simp only [EntryFill.result, EntryAttempt.leaves, recordEntry, hplan] at hset
      exact htarget price hset

theorem Pricing.entry (henv : env.Standard) (h : Pricing env v) (e : EntryFill env candle v) :
    Pricing env e.result := by
  have hfacts := e.facts henv
  rcases e.levels_pos henv h.target with ⟨hstop, htarget⟩
  refine ⟨h.closed, ?_, hstop, htarget⟩
  intro o ho
  rw [e.result_openTrade, Option.some.injEq] at ho
  subst ho
  have hfill : env.imports.simulateBuy env.broker e.quantity candle.open =
      ⟨entryPrice env candle, entryFee env candle e.quantity⟩ :=
    simulateBuy_standard henv e.quantity
  constructor
  case referencePos => exact hfacts.pricePos
  case price => exact congrArg SimulatedFill.fillPrice hfill
  case fee =>
      have hprice : e.openTrade.entryPrice = entryPrice env candle :=
        congrArg SimulatedFill.fillPrice hfill
      rw [hprice]
      exact congrArg SimulatedFill.feeQuote hfill
  case quantityPos => exact hfacts.quantityPos

/-- Selling the position from a positive reference price keeps the trades priced. -/
theorem Pricing.exit (henv : env.Standard) (hinv : LoopInvariant env S v) (h : Pricing env v)
    (timeMs : ℤ) (reason : ExitReason) {reference : ℚ} (href : 0 < reference)
    (portfolio : PortfolioState) :
    Pricing env (recordExit env timeMs v.state.portfolio.baseBalance
      (env.imports.simulateSell env.broker v.state.portfolio.baseBalance reference) reason reference
      portfolio v) := by
  constructor
  case opened =>
      intro o ho
      cases ho
  case stop =>
      intro price hset
      cases hset
  case target =>
      intro price hset
      cases hset
  case closed =>
      intro t ht
      cases hopen : v.state.openTrade with
      | none =>
          refine h.closed t ?_
          simpa [recordExit, hopen] using ht
      | some o =>
          rw [LoopInvariant.recordExit_trades_of_open hopen, List.mem_append,
            List.mem_singleton] at ht
          rcases ht with hold | rfl
          · exact h.closed t hold
          · have hpriced := h.opened o hopen
            have hbase : v.state.portfolio.baseBalance = o.quantity := by
              have hposition := hinv.position
              unfold PositionInvariant at hposition
              rw [hopen] at hposition
              exact hposition.base
            rw [hbase, henv.imports, henv.broker]
            exact ⟨hpriced.referencePos, hpriced.price, hpriced.fee, href, rfl, rfl,
              hpriced.quantityPos⟩

theorem Pricing.fillPending (henv : env.Standard) (hinv : LoopInvariant env S v)
    (h : Pricing env v) (hopen : 0 < candle.open) (hfill : fillPending env candle v = .ok v') :
    Pricing env v' := by
  rcases fillPending_cases hfill with ⟨-, rfl⟩ | ⟨signalType, m, -, hres, rfl⟩
  · exact h
  · rcases resolvePendingSignal_cases hres with ⟨rows, diag, -, -, rfl⟩ | ⟨-, e, rfl⟩ | ⟨-, e, rfl⟩
    · exact h.congr rfl rfl rfl rfl
    · exact (h.entry henv e).congr rfl rfl rfl rfl
    · rcases hinv.holding_of_exitFill henv e with ⟨o, -, hold⟩
      have hdecided : LoopInvariant env S (v.decided candle e.rows) :=
        hinv.congr rfl rfl rfl rfl rfl
      have hpricing : Pricing env (v.decided candle e.rows) := h.congr rfl rfl rfl rfl
      have hexit := hpricing.exit henv hdecided candle.openTimeMs .strategyExit hopen e.portfolio
      have hquantity : (v.decided candle e.rows).state.portfolio.baseBalance = e.quantity :=
        (e.quantity_of_holding henv hold).symm
      rw [hquantity] at hexit
      exact hexit.congr rfl rfl rfl rfl

theorem Pricing.protectiveExit (henv : env.Standard) (hinv : LoopInvariant env S v)
    (h : Pricing env v) (hopen : 0 < candle.open) (hexit : protectiveExit env candle v = .ok v') :
    Pricing env v' := by
  rcases protectiveExit_cases hexit with rfl | ⟨e, rfl⟩
  · exact h
  · have href : 0 < e.reference := by
      rcases e.trigger with ⟨-, stopPrice, hstop, -, hmin⟩ | ⟨-, -, htarget, -⟩
      · rw [hmin]
        exact lt_min (h.stop stopPrice hstop) hopen
      · exact h.target e.reference htarget
    exact (h.exit henv hinv candle.openTimeMs e.reason href e.portfolio).congr rfl rfl rfl rfl

/-- A candle with a positive open keeps the trades priced. -/
theorem Pricing.step {seen : List Candle} {tr : CandleTrace} (henv : env.Standard)
    (htr : tr.Valid env seen) (hkept : tr.Kept env S) (hopen : 0 < tr.candle.open)
    (h : Pricing env tr.before) : Pricing env tr.closed := by
  have hatOpen : Pricing env tr.atOpen := htr.atOpen_eq ▸ h.rollDay
  have hfilled := hatOpen.fillPending henv hkept.atOpen hopen htr.fills
  have hguarded := hfilled.protectiveExit henv hkept.filled hopen htr.protects
  rcases htr.marks with ⟨signal, -, hclosed⟩
  rw [hclosed]
  exact hguarded.congr rfl rfl rfl rfl

theorem traceSegment_pricing (henv : env.Standard) {segment : List Candle} {journal : Journal}
    {traces : List CandleTrace} (hopens : ∀ c ∈ segment, 0 < c.open)
    (h : traceSegment env segment S journal = .ok (traces, v)) : Pricing env v := by
  have hrun := traceSegment_induct (fun _ u => LoopInvariant env S u ∧ Pricing env u) h
    (fun first _ => ⟨.initial S first.close journal, .initial S first.close journal⟩) ?_
  · exact hrun.1.2
  · rintro hist seen tr rest htr ⟨hinv, hpricing⟩ hsplit
    have hkept := htr.kept henv hinv
    have hmem : tr.candle ∈ segment := by
      refine List.mem_of_mem_drop (i := env.minRequired - 1) ?_
      rw [hsplit]
      simp
    exact ⟨hkept.closed, hpricing.step henv htr hkept (hopens _ hmem)⟩

end Stages

/-! ## The costs -/

/-- The profit of the same fills without slippage and without fees. -/
def Trade.frictionless (t : Trade) : ℚ :=
  (t.exitReferencePrice - t.entryReferencePrice) * t.quantity

def OpenPositionInfo.frictionless (p : OpenPositionInfo) (price : ℚ) : ℚ :=
  (price - p.entryReferencePrice) * p.quantity

section Costs

variable {env : RunEnv}

theorem abs_slipped_sub {reference slippage : ℚ} (href : 0 < reference) (hslip : 0 ≤ slippage) :
    |reference * (1 + slippage) - reference| = reference * slippage ∧
      |reference * (1 - slippage) - reference| = reference * slippage := by
  have hnonneg : 0 ≤ reference * slippage := mul_nonneg href.le hslip
  constructor
  · rw [mul_add, mul_one, add_sub_cancel_left, abs_of_nonneg hnonneg]
  · rw [mul_sub, mul_one, sub_sub_cancel_left, abs_neg, abs_of_nonneg hnonneg]

/-- Slippage and fees are all that separates a trade's profit from the frictionless one. -/
theorem Trade.pnl_eq {t : Trade} (hpriced : t.Priced env) (hbalanced : t.Balanced) :
    t.pnlQuote = t.frictionless - (t.entryFeeQuote + t.exitFeeQuote + t.slippageQuote) := by
  have hslip := env.config.fees.slippagePctNonneg
  have hentry := (abs_slipped_sub hpriced.entryReferencePos hslip).1
  have hexit := (abs_slipped_sub hpriced.exitReferencePos hslip).2
  rw [hbalanced.pnl, ← hbalanced.fees, Trade.slippageQuote, Trade.frictionless,
    hpriced.entryPrice, hpriced.exitPrice, hentry, hexit]
  ring

theorem OpenPositionInfo.unrealized_eq {o : OpenTrade} (hpriced : o.Priced env) (price : ℚ) :
    (openTradeToInfo o).unrealized price = (openTradeToInfo o).frictionless price -
      ((openTradeToInfo o).entryFeeQuote + (openTradeToInfo o).slippageQuote) := by
  have hslip := env.config.fees.slippagePctNonneg
  have hentry := (abs_slipped_sub hpriced.referencePos hslip).1
  simp only [openTradeToInfo, OpenPositionInfo.unrealized, OpenPositionInfo.frictionless,
    OpenPositionInfo.slippageQuote, hpriced.price, hentry]
  ring

theorem sum_pnl_eq {trades : List Trade} (hpriced : ∀ t ∈ trades, t.Priced env)
    (hbalanced : ∀ t ∈ trades, t.Balanced) :
    (trades.map Trade.pnlQuote).sum = (trades.map Trade.frictionless).sum -
      ((trades.map Trade.entryFeeQuote).sum + (trades.map Trade.exitFeeQuote).sum +
        (trades.map Trade.slippageQuote).sum) := by
  induction trades with
  | nil => simp
  | cons t rest ih =>
      have ht := Trade.pnl_eq (hpriced t (by simp)) (hbalanced t (by simp))
      have hrest := ih (fun u hu => hpriced u (List.mem_cons_of_mem _ hu))
        fun u hu => hbalanced u (List.mem_cons_of_mem _ hu)
      simp only [List.map_cons, List.sum_cons, ht, hrest]
      ring

end Costs

/-! ## A run's breakdown -/

/-- At any price the equity is the starting equity, the recorded profit and the unrealized one. -/
theorem LoopInvariant.equity_eq {env : RunEnv} {S : ℚ} {v : LoopVars} (h : LoopInvariant env S v)
    (price : ℚ) : v.state.portfolio.equity price = S + (v.trades.map Trade.pnlQuote).sum +
      ((v.state.openTrade.map openTradeToInfo).map fun p => p.unrealized price).getD 0 := by
  have hbalanced := h.books.balanced
  have hposition := h.position
  unfold PositionInvariant at hposition
  cases hopen : v.state.openTrade with
  | none =>
      rw [hopen] at hposition
      rw [h.books.flatBase hposition.1, h.books.flatFee hposition.1, h.pnl] at hbalanced
      rw [PortfolioState.equity_eq, h.books.flatBase hposition.1]
      simp only [Option.map_none, Option.getD_none]
      linarith
  | some o =>
      rw [hopen] at hposition
      rw [hposition.avg, hposition.fee, hposition.base, Option.getD_some, h.pnl] at hbalanced
      rw [PortfolioState.equity_eq, hposition.base]
      simp only [Option.map_some, Option.getD_some, OpenPositionInfo.unrealized, openTradeToInfo]
      linarith

/-- The breakdown accounts for what the equity of the run gained, and for every cost. -/
structure PnlBreakdown.Explains (b : PnlBreakdown) (r : SegmentRunResult) (S price : ℚ) : Prop where
  total : b.totalMarkedToMarketPnlQuote = r.diagnostics.endingEquity - S
  unrealized : b.unrealizedOpenPositionPnlQuote.isSome = r.endsWithOpenPosition
  costs : b.totalMarkedToMarketPnlQuote = (r.trades.map Trade.frictionless).sum +
    (r.openPosition.map fun p => p.frictionless price).getD 0 -
      (b.entryFeesTotalQuote + b.exitFeesTotalQuote + b.slippageCostTotalQuote)
  slippage : 0 ≤ b.slippageCostTotalQuote

/-- For every run over candles with positive opens the profit breakdown of its report adds up to
what the equity gained, and its fees and its slippage are exactly what separates that from the same
entries and exits at their reference prices. -/
theorem pnl_breakdown_explains (config : AppConfig) (filters : SymbolFilters) (strategy : Strategy)
    (minRequired : ℕ) (hpos : 0 < minRequired) (policy : Bool) (segment : List Candle) (S : ℚ)
    (journal j : Journal) (r : SegmentRunResult) (texts : NumberTexts)
    (hopens : ∀ c ∈ segment, 0 < c.open)
    (h : runSegment (.standard config filters strategy minRequired hpos policy) segment S journal =
      .ok (r, j)) :
    ∃ last, segment.getLast? = some last ∧
      (computePnlBreakdown texts r.trades r.openPosition last.close).Explains r S last.close := by
  have henv := RunEnv.standard_standard config filters strategy minRequired hpos policy
  rcases runSegment_traced h with ⟨traces, last, v, hlast, htraces, rfl, rfl⟩
  have hinv := (traceSegment_kept henv htraces).2.1
  have hpricing := traceSegment_pricing henv hopens htraces
  refine ⟨last, hlast, ?_⟩
  have hequity := hinv.equity_eq last.close
  have hcosts := sum_pnl_eq hpricing.closed hinv.trades
  have hopenCosts : ((v.state.openTrade.map openTradeToInfo).map fun p =>
      p.unrealized last.close).getD 0 =
        ((v.state.openTrade.map openTradeToInfo).map fun p => p.frictionless last.close).getD 0 -
          (((v.state.openTrade.map openTradeToInfo).map OpenPositionInfo.entryFeeQuote).getD 0 +
            ((v.state.openTrade.map openTradeToInfo).map OpenPositionInfo.slippageQuote).getD 0) := by
    cases hopen : v.state.openTrade with
    | none => simp
    | some o => exact OpenPositionInfo.unrealized_eq (hpricing.opened o hopen) last.close
  constructor
  case total =>
      change _ = v.state.portfolio.equity last.close - S
      rw [hequity, add_assoc, add_sub_cancel_left]
      rfl
  case unrealized =>
      have hposition := hinv.position
      unfold PositionInvariant at hposition
      cases hopen : v.state.openTrade with
      | none =>
          rw [hopen] at hposition
          simp [computePnlBreakdown, buildResult, hopen, hposition.1]
      | some o =>
          rw [hopen] at hposition
          simp [computePnlBreakdown, buildResult, hopen, hposition.long]
  case costs =>
      simp only [computePnlBreakdown, buildResult, hcosts, hopenCosts]
      ring
  case slippage =>
      have hclosed : 0 ≤ (v.trades.map Trade.slippageQuote).sum := by
        refine List.sum_nonneg ?_
        intro cost hcost
        rcases List.mem_map.1 hcost with ⟨t, ht, rfl⟩
        have hquantity := (hpricing.closed t ht).quantityPos.le
        exact add_nonneg (mul_nonneg (abs_nonneg _) hquantity) (mul_nonneg (abs_nonneg _) hquantity)
      have hopened :
          0 ≤ ((v.state.openTrade.map openTradeToInfo).map OpenPositionInfo.slippageQuote).getD 0 := by
        cases hopen : v.state.openTrade with
        | none => exact le_rfl
        | some o => exact mul_nonneg (abs_nonneg _) (hpricing.opened o hopen).quantityPos.le
      exact add_nonneg hclosed hopened

theorem pnl_breakdown_explains_churn :
    ∃ r j, ∃ last : Candle, runSegment (Scenario.env false) Scenario.churn 50 (some []) = .ok (r, j) ∧
      (computePnlBreakdown ⟨fun _ => "", fun _ => ""⟩ r.trades r.openPosition last.close).Explains r
        50 last.close := by
  rcases exists_of_isOk (x := runSegment (Scenario.env false) Scenario.churn 50 (some []))
    (by decide +kernel) with ⟨⟨r, j⟩, h⟩
  rcases pnl_breakdown_explains {} Scenario.filters Scenario.alternating 1 Nat.one_pos false _ 50
    (some []) j r ⟨fun _ => "", fun _ => ""⟩ (by unfold Scenario.churn; decide) h with
    ⟨last, -, hexplains⟩
  exact ⟨r, j, last, h, hexplains⟩

end TradingAgent
