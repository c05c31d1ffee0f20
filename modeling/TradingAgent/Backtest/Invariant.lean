import TradingAgent.Backtest.Causality
import TradingAgent.Portfolio.Conservation

/-!
# Simulator invariant — the loop's state always describes one position

The portfolio, the open trade, the stop and the target are rewritten by entries, strategy exits,
stop exits and take-profit exits, several of them in one candle.  They always agree.

* `EntryAttempt.facts` says what an entry has checked in the engine as it is set up from a
  configuration;
* `LoopInvariant` is kept by every stage of a candle;
* `simulator_state_invariant` reads it off after every candle of a run.
-/

namespace TradingAgent

/-- The engine runs the current modules, its risk engine and broker built from the configuration. -/
structure RunEnv.Standard [CurrentContext] (env : RunEnv) : Prop where
  imports : env.imports = .current
  riskEngine : env.riskEngine = ⟨env.config.risk⟩
  broker : env.broker = .ofFees env.config.fees

theorem RunEnv.standard_standard [CurrentContext] (config : AppConfig) (filters : SymbolFilters)
    (strategy : Strategy) (minRequired : ℕ) (hpos : 0 < minRequired) (policy : Bool) :
    (RunEnv.standard config filters strategy minRequired hpos policy).Standard :=
  ⟨rfl, rfl, rfl⟩

section Fills

variable {env : RunEnv} {candle : Candle} {v v' : LoopVars}

/-! ## Sizing -/

/-- The unrounded size of a BUY under plain risk-based sizing. -/
def riskBasedSize (config : AppConfig) (equity price : ℚ) : ℚ :=
  min (equity * config.risk.maxRiskPerTradePct /
      totalLossPerUnit price (price * (1 - config.stopLoss.stopDistancePct))
        config.fees.takerFeePct config.fees.slippagePct)
    (equity * config.risk.maxPositionPct / price)

/-- What an approved BUY size is, in either sizing mode. -/
theorem sizePendingSignal_buy (henv : env.Standard) {price equity q : ℚ} {p : PortfolioState}
    {code : ReasonCode} {plan : Option RiskRewardPlan}
    (h : sizePendingSignal env .buy price equity p = .ok (⟨true, some q, code⟩, plan)) :
    0 < price ∧ roundQuantity q env.filters = .ok q ∧
      if env.useFixedRiskRewardPolicy then
        ∃ approvedPlan, plan = some approvedPlan ∧
          approvedPlan.Fillable p.quoteBalance (price * (1 + env.config.fees.slippagePct))
            env.config.fees.takerFeePct env.filters q
      else plan = none ∧
        roundQuantity (riskBasedSize env.config equity price) env.filters = .ok q := by
  simp only [sizePendingSignal, henv.imports, EngineImports.current] at h
  by_cases hpolicy : env.useFixedRiskRewardPolicy = true
  · simp only [hpolicy, if_true, bind, Except.bind] at h
    split at h
    · cases h
    · rename_i approvedPlan hplan
      simp only [Except.ok.injEq, Prod.mk.injEq, SizingDecision.mk.injEq] at h
      rcases h with ⟨⟨happroved, hquantity, -⟩, rfl⟩
      rcases planRiskRewardEntry_approved hplan happroved with ⟨hprice, -, quantity, hfillable⟩
      have hq : quantity = q := by
        simpa [hfillable.quantity_eq] using hquantity
      subst hq
      refine ⟨hprice, hfillable.quantity_rounded, ?_⟩
      simpa [hpolicy] using hfillable
  · rw [if_neg hpolicy] at h
    rcases exists_of_bind_ok h with ⟨sizing, hsized, hsizing⟩
    cases hsizing
    rcases computeRiskBasedBuyQuantity_approved hsized with ⟨hprice, -, -, hq⟩
    refine ⟨hprice, roundQuantity_rounded hq, ?_⟩
    rw [if_neg hpolicy]
    exact ⟨rfl, hq⟩

/-! ## Entries -/

/-- The price a BUY at `candle`'s open fills at. -/
def entryPrice (env : RunEnv) (candle : Candle) : ℚ :=
  candle.open * (1 + env.config.fees.slippagePct)

def entryFee (env : RunEnv) (candle : Candle) (quantity : ℚ) : ℚ :=
  quantity * entryPrice env candle * env.config.fees.takerFeePct

theorem simulateBuy_standard (henv : env.Standard) (quantity : ℚ) :
    env.imports.simulateBuy env.broker quantity candle.open =
      ⟨entryPrice env candle, entryFee env candle quantity⟩ := by
  simp only [henv.imports, henv.broker]
  rfl

/-- Everything an entry has checked when it reaches the portfolio. -/
structure EntryAttempt.Facts (e : EntryAttempt env candle v) : Prop where
  pricePos : 0 < candle.open
  quantityEq : e.quantity = e.requested
  quantityPos : 0 < e.quantity
  rounded : roundQuantity e.quantity env.filters = .ok e.quantity
  gates : RiskEngine.BuyGatesOpen env.config.risk
    ⟨.buy, candle.symbol, e.requested, candle.open⟩ (v.contextAtOpen candle)
  buys : e.buy = applyBuy v.state.portfolio e.quantity (entryPrice env candle)
    (entryFee env candle e.quantity)
  size : if env.useFixedRiskRewardPolicy then
      0 < entryPrice env candle * (1 + env.config.fees.takerFeePct) →
        e.quantity * (entryPrice env candle * (1 + env.config.fees.takerFeePct)) ≤
          v.state.portfolio.quoteBalance
    else e.quantity ≤ riskBasedSize env.config (v.equityAtOpen candle) candle.open
  plan : if env.useFixedRiskRewardPolicy then
      ∃ realized, e.realizedPlan = some realized ∧
        realized.Realized (entryPrice env candle) env.config.stopLoss.stopDistancePct
    else e.realizedPlan = none

theorem EntryAttempt.facts (henv : env.Standard) (e : EntryAttempt env candle v) : e.Facts := by
  rcases e.sized with ⟨code, hsized⟩
  rcases e.validated with ⟨validCode, hvalidated⟩
  rcases sizePendingSignal_buy henv hsized with ⟨hprice, hrounded, hmode⟩
  -- rounding an already rounded size again changes nothing
  have hvalid : e.quantity = e.requested ∧ 0 < e.quantity := by
    rw [henv.imports] at hvalidated
    rcases validateOrder_approved hvalidated with ⟨hq, hpos⟩
    exact ⟨Except.ok.inj (hq.symm.trans hrounded), hpos⟩
  have hbuys : e.buy = applyBuy v.state.portfolio e.quantity (entryPrice env candle)
      (entryFee env candle e.quantity) := by
    unfold EntryAttempt.buy
    rw [simulateBuy_standard henv, henv.imports]
    rfl
  have hgated := e.gated
  rw [henv.imports, henv.riskEngine] at hgated
  have hrealized := e.realized
  rw [simulateBuy_standard henv] at hrealized
  refine ⟨hprice, hvalid.1, hvalid.2, hvalid.1 ▸ hrounded,
    RiskEngine.evaluate_buy_approved rfl hgated, hbuys, ?_, ?_⟩
  · by_cases hpolicy : env.useFixedRiskRewardPolicy = true
    · simp only [hpolicy, if_true] at hmode ⊢
      rcases hmode with ⟨approvedPlan, -, hfillable⟩
      rw [hvalid.1]
      exact hfillable.affordable
    · rw [if_neg hpolicy] at hmode ⊢
      have hpos := hvalid.2
      rw [hvalid.1] at hpos ⊢
      exact roundQuantity_le_of_pos hmode.2 hpos
  · by_cases hpolicy : env.useFixedRiskRewardPolicy = true
    · simp only [hpolicy, if_true] at hmode ⊢
      rcases hmode with ⟨approvedPlan, hsome, hfillable⟩
      simp only [realizePlan, hpolicy, hsome, hfillable.quantity_eq, hvalid.1, if_true,
        henv.imports, EngineImports.current, bind, Except.bind] at hrealized
      split at hrealized
      · cases hrealized
      · rename_i realized hbuild
        have hsomeRealized : e.realizedPlan = some realized := by
          simpa using hrealized.symm
        refine ⟨realized, hsomeRealized, ?_⟩
        exact buildRealizedPlan_approved hbuild hfillable.quantity_eq hfillable.quantity_pos
          (e.approved realized hsomeRealized)
    · rw [if_neg hpolicy]
      simpa [realizePlan, hpolicy, eq_comm] using hrealized

theorem EntryFill.applied (henv : env.Standard) (e : EntryFill env candle v) :
    applyBuy v.state.portfolio e.quantity (entryPrice env candle)
      (entryFee env candle e.quantity) = .ok e.portfolio := by
  rw [← (e.facts henv).buys]
  exact e.bought

/-- The plan an entry under the policy is filled under is one that was re-validated, for its quantity
and its fill price. -/
theorem EntryAttempt.revalidated [CurrentContext] (henv : env.Standard)
    (hpolicy : env.useFixedRiskRewardPolicy = true) (e : EntryAttempt env candle v) :
    ∃ plan raw target,
      RealizedBasis (env.imports.simulateBuy env.broker e.quantity candle.open).fillPrice
          env.config.stopLoss.stopDistancePct env.config.fees.takerFeePct
          env.config.fees.slippagePct env.filters raw target decimal ∧
        e.realizedPlan = some (revalidatedPlan plan
          (env.imports.simulateBuy env.broker e.quantity candle.open).fillPrice
          env.config.stopLoss.stopDistancePct env.config.fees.takerFeePct
          env.config.fees.slippagePct (v.equityAtOpen candle) e.quantity target decimal) := by
  rcases e.sized with ⟨code, hsized⟩
  have hrealized := e.realized
  simp only [sizePendingSignal, if_pos hpolicy] at hsized
  rcases exists_of_bind_ok hsized with ⟨approvedPlan, -, hsizing⟩
  have hplan : e.plan = some approvedPlan := by
    simpa using (congrArg Prod.snd (Except.ok.inj hsizing)).symm
  simp only [realizePlan, hpolicy, hplan] at hrealized
  rcases exists_of_bind_ok hrealized with ⟨realized, hbuild, hsome⟩
  have hrealizedPlan : e.realizedPlan = some realized := (Except.ok.inj hsome).symm
  have happroved := e.approved realized hrealizedPlan
  -- the quantity of the plan is replaced by the one that is bought
  have hquantity : (if approvedPlan.quantity = some e.quantity then approvedPlan
      else { approvedPlan with quantity := some e.quantity }).quantity = some e.quantity := by
    split
    · assumption
    · rfl
  rw [congrArg EngineImports.buildRealizedPlan henv.imports] at hbuild
  rcases buildRealizedPlan_assessed hbuild hquantity happroved with ⟨raw, target, hbasis, rfl⟩
  exact ⟨_, raw, target, hbasis, hrealizedPlan⟩

/-! ## The invariant -/

/-- The open trade `t` is the whole position of the loop's state. -/
structure Holding (env : RunEnv) (state : LoopState) (t : OpenTrade) : Prop where
  long : state.portfolio.positionSide = .long
  base : state.portfolio.baseBalance = t.quantity
  avg : state.portfolio.avgEntryPrice = some t.entryPrice
  fee : state.portfolio.openPositionEntryFee = t.entryFee
  quantityPos : 0 < t.quantity
  rounded : roundQuantity t.quantity env.filters = .ok t.quantity
  stop : state.stopPrice.isSome = true
  target : state.targetPrice.isSome = env.useFixedRiskRewardPolicy

/-- A strategy exit asks for exactly the position: its size survives both roundings. -/
theorem ExitAttempt.quantity_of_holding (henv : env.Standard) {t : OpenTrade}
    (e : ExitAttempt env candle v) (hold : Holding env v.state t) :
    e.quantity = v.state.portfolio.baseBalance := by
  rcases e.sized with ⟨code, hsized⟩
  rcases e.validated with ⟨validCode, hvalidated⟩
  rw [henv.imports] at hsized hvalidated
  have hheld : roundQuantity v.state.portfolio.baseBalance env.filters =
      .ok v.state.portfolio.baseBalance := by
    rw [hold.base, hold.rounded]
  have hrequested : v.state.portfolio.baseBalance = e.requested :=
    Except.ok.inj (hheld.symm.trans (computeSellQuantity_approved hsized).1)
  have hquantity := (validateOrder_approved hvalidated).1
  dsimp only at hquantity
  rw [← hrequested] at hquantity
  exact Except.ok.inj (hquantity.symm.trans hheld)

/-- The loop's state describes one position, or none. -/
def PositionInvariant (env : RunEnv) (state : LoopState) : Prop :=
  match state.openTrade with
  | none => state.portfolio.positionSide = .flat ∧ state.stopPrice = none ∧ state.targetPrice = none
  | some t => Holding env state t

/-- A closed trade whose fees and profit add up. -/
structure Trade.Balanced (t : Trade) : Prop where
  fees : t.entryFeeQuote + t.exitFeeQuote = t.feesPaid
  pnl : t.pnlQuote = t.quantity * (t.exitPrice - t.entryPrice) - t.feesPaid

structure LoopInvariant (env : RunEnv) (S : ℚ) (v : LoopVars) : Prop where
  books : Conserved S v.state.portfolio
  position : PositionInvariant env v.state
  pnl : v.state.portfolio.realizedPnlQuote = (v.trades.map Trade.pnlQuote).sum
  trades : ∀ t ∈ v.trades, t.Balanced

/-- An exit between `before` and `after` sold the whole position. -/
def ExitCloses (before after : LoopVars) : Prop :=
  after.trades = before.trades ∨
    ∃ o t, before.state.openTrade = some o ∧ after.trades = before.trades ++ [t] ∧
      t.quantity = before.state.portfolio.baseBalance ∧ t.quantity = o.quantity ∧
      after.state.portfolio.baseBalance = 0 ∧ after.state.portfolio.positionSide = .flat ∧
      after.state.openTrade = none

namespace LoopInvariant

variable {S : ℚ}

theorem initial (S firstClose : ℚ) (journal : Journal) :
    LoopInvariant env S (initialVars S firstClose journal) :=
  ⟨.initial S, ⟨rfl, rfl, rfl⟩, by simp [initialVars, PortfolioState.initial],
    by simp [initialVars]⟩

/-- The invariant only reads the position and the trades. -/
theorem congr (h : LoopInvariant env S v) (hportfolio : v'.state.portfolio = v.state.portfolio)
    (hopen : v'.state.openTrade = v.state.openTrade) (hstop : v'.state.stopPrice = v.state.stopPrice)
    (htarget : v'.state.targetPrice = v.state.targetPrice) (htrades : v'.trades = v.trades) :
    LoopInvariant env S v' := by
  refine ⟨hportfolio ▸ h.books, ?_, by rw [hportfolio, htrades, h.pnl], by rw [htrades]; exact h.trades⟩
  have hposition := h.position
  unfold PositionInvariant at hposition ⊢
  rw [hopen]
  cases hv : v.state.openTrade with
  | none =>
      rw [hv] at hposition
      simpa [hportfolio, hstop, htarget] using hposition
  | some t =>
      rw [hv] at hposition
      constructor
      · rw [hportfolio, hposition.long]
      · rw [hportfolio, hposition.base]
      · rw [hportfolio, hposition.avg]
      · rw [hportfolio, hposition.fee]
      · exact hposition.quantityPos
      · exact hposition.rounded
      · rw [hstop, hposition.stop]
      · rw [htarget, hposition.target]

theorem rollDay (h : LoopInvariant env S v) : LoopInvariant env S (rollDay candle v) := by
  refine h.congr ?_ ?_ ?_ ?_ rfl <;>
    · simp only [TradingAgent.rollDay]
      split <;> rfl

theorem openTrade_of_flat (h : LoopInvariant env S v)
    (hflat : v.state.portfolio.positionSide = .flat) :
    v.state.openTrade = none ∧ v.state.targetPrice = none := by
  have hposition := h.position
  unfold PositionInvariant at hposition
  split at hposition
  · rename_i hnone
    exact ⟨hnone, hposition.2.2⟩
  · rw [hposition.long] at hflat
    cases hflat

theorem holding_of_long (h : LoopInvariant env S v)
    (hlong : v.state.portfolio.positionSide = .long) :
    ∃ t, v.state.openTrade = some t ∧ Holding env v.state t := by
  have hposition := h.position
  unfold PositionInvariant at hposition
  split at hposition
  · rw [hposition.1] at hlong
    cases hlong
  · rename_i t hsome
    exact ⟨t, hsome, hposition⟩

theorem entry (henv : env.Standard) (h : LoopInvariant env S v) (e : EntryFill env candle v) :
    LoopInvariant env S e.result := by
  have hfacts := e.facts henv
  have happlied := e.applied henv
  rcases applyBuy_eq_ok happlied with ⟨hflat, -, hportfolio⟩
  have hbase := h.books.flatBase hflat
  have hfee : 0 ≤ entryFee env candle e.quantity := by
    have hprice : 0 ≤ entryPrice env candle :=
      mul_nonneg hfacts.pricePos.le (by linarith [env.config.fees.slippagePctNonneg])
    exact mul_nonneg (mul_nonneg hfacts.quantityPos.le hprice) env.config.fees.takerFeePctNonneg
  have hbooks : Conserved S e.portfolio := h.books.buy hfacts.quantityPos hfee happlied
  have hplan := hfacts.plan
  refine ⟨hbooks, ?_, ?_, h.trades⟩
  · -- the trade the entry opened is the whole position, with its stop and target
    unfold PositionInvariant
    simp only [EntryFill.result, EntryAttempt.leaves, recordEntry, simulateBuy_standard henv]
    by_cases hpolicy : env.useFixedRiskRewardPolicy = true
    · simp only [hpolicy, if_true] at hplan
      rcases hplan with ⟨realized, hsome, hrealized⟩
      constructor <;> simp [hportfolio, hbase, hsome, hpolicy, hrealized.stop, hrealized.target,
        hfacts.quantityPos, hfacts.rounded]
    · simp only [hpolicy] at hplan
      have hnone : e.realizedPlan = none := by simpa using hplan
      have htarget := (h.openTrade_of_flat hflat).2
      constructor <;> simp [hportfolio, hbase, hnone, hpolicy, htarget, LoopVars.decided,
        hfacts.quantityPos, hfacts.rounded]
  · have hpnl := h.pnl
    simpa [EntryFill.result, EntryAttempt.leaves, recordEntry, hportfolio, LoopVars.decided]
      using hpnl

/-- The trade an exit records when a trade is open. -/
theorem recordExit_trades_of_open {t : OpenTrade} (ht : v.state.openTrade = some t) (timeMs : ℤ)
    (q : ℚ) (fill : SimulatedFill) (reason : ExitReason) (ref : ℚ) (portfolio : PortfolioState) :
    (recordExit env timeMs q fill reason ref portfolio v).trades = v.trades ++
      [closedTrade t timeMs q fill
        (portfolio.realizedPnlQuote - v.state.portfolio.realizedPnlQuote) reason ref] := by
  simp only [recordExit, ht, decimal_exact, DecimalContext.exact_sub]

/-- Selling the whole position closes the trade and books its profit. -/
theorem exit (h : LoopInvariant env S v) {t : OpenTrade} (ht : v.state.openTrade = some t)
    (hold : Holding env v.state t) (timeMs : ℤ) {fill : SimulatedFill} (reason : ExitReason)
    (ref : ℚ) {portfolio : PortfolioState}
    (hsell : applySell v.state.portfolio v.state.portfolio.baseBalance fill.fillPrice
      fill.feeQuote = .ok portfolio) :
    LoopInvariant env S (recordExit env timeMs v.state.portfolio.baseBalance fill reason ref
        portfolio v) ∧
      ExitCloses v (recordExit env timeMs v.state.portfolio.baseBalance fill reason ref
        portfolio v) := by
  have hbase : 0 < v.state.portfolio.baseBalance := hold.base ▸ hold.quantityPos
  have hbooks := h.books.sell hbase hsell
  rw [applySell_all hold.long hold.avg hbase] at hsell
  cases hsell
  refine ⟨⟨hbooks, ⟨rfl, rfl, rfl⟩, ?_, ?_⟩, Or.inr ⟨t, _, ht,
    recordExit_trades_of_open ht timeMs _ fill reason ref _, rfl, hold.base, rfl, rfl, rfl⟩⟩
  · have hpnl := h.pnl
    rw [recordExit_trades_of_open ht]
    simp only [recordExit, List.map_append, List.sum_append, List.map_cons, List.map_nil,
      List.sum_cons, List.sum_nil, closedTrade, ← hpnl]
    ring
  · intro trade htrade
    rw [recordExit_trades_of_open ht, List.mem_append, List.mem_singleton] at htrade
    rcases htrade with hold' | rfl
    · exact h.trades trade hold'
    · refine ⟨rfl, ?_⟩
      simp only [closedTrade, hold.fee, decimal_exact, DecimalContext.exact_add]
      ring

/-- A strategy exit only fills while a trade is open. -/
theorem holding_of_exitFill (henv : env.Standard) (h : LoopInvariant env S v)
    (e : ExitFill env candle v) : ∃ t, v.state.openTrade = some t ∧ Holding env v.state t := by
  have hsold := e.sold
  unfold ExitAttempt.sell at hsold
  rw [henv.imports] at hsold
  rcases applySell_eq_ok hsold with ⟨-, hlong, -⟩
  exact h.holding_of_long hlong

theorem exitFill (henv : env.Standard) (h : LoopInvariant env S v) (e : ExitFill env candle v) :
    LoopInvariant env S e.result ∧ ExitCloses v e.result := by
  rcases h.holding_of_exitFill henv e with ⟨t, ht, hold⟩
  have hsold := e.sold
  have hquantity := e.quantity_of_holding henv hold
  have hdecided : LoopInvariant env S (v.decided candle e.rows) := h.congr rfl rfl rfl rfl rfl
  unfold ExitAttempt.sell at hsold
  rw [hquantity, henv.imports] at hsold
  have hexit := hdecided.exit ht ⟨hold.long, hold.base, hold.avg, hold.fee, hold.quantityPos,
    hold.rounded, hold.stop, hold.target⟩ candle.openTimeMs .strategyExit candle.open hsold
  have hresult : e.result = recordExit env candle.openTimeMs v.state.portfolio.baseBalance
      (env.imports.simulateSell env.broker v.state.portfolio.baseBalance candle.open)
      .strategyExit candle.open e.portfolio (v.decided candle e.rows) := by
    rw [ExitFill.result, ExitAttempt.leaves, hquantity]
  rw [hresult, henv.imports]
  exact hexit

theorem protectiveFill (henv : env.Standard) (h : LoopInvariant env S v)
    (e : ProtectiveFill env candle v) : LoopInvariant env S e.result ∧ ExitCloses v e.result := by
  rcases h.holding_of_long e.long with ⟨t, ht, hold⟩
  have hsold := e.sold
  have hsell : applySell v.state.portfolio v.state.portfolio.baseBalance
      (env.imports.simulateSell env.broker v.state.portfolio.baseBalance e.reference).fillPrice
      (env.imports.simulateSell env.broker v.state.portfolio.baseBalance e.reference).feeQuote =
        .ok e.portfolio := by
    rw [henv.imports] at hsold ⊢
    exact hsold
  have hexit := h.exit ht hold candle.openTimeMs e.reason e.reference hsell
  exact ⟨hexit.1.congr rfl rfl rfl rfl rfl, hexit.2⟩

theorem fillPending (henv : env.Standard) (h : LoopInvariant env S v)
    (hfill : fillPending env candle v = .ok v') :
    LoopInvariant env S v' ∧ ExitCloses v v' := by
  rcases fillPending_cases hfill with ⟨-, rfl⟩ | ⟨signalType, m, -, hres, rfl⟩
  · exact ⟨h, Or.inl rfl⟩
  · rcases resolvePendingSignal_cases hres with ⟨rows, diag, -, -, rfl⟩ | ⟨-, e, rfl⟩ | ⟨-, e, rfl⟩
    · exact ⟨h.congr rfl rfl rfl rfl rfl, Or.inl rfl⟩
    · exact ⟨(h.entry henv e).congr rfl rfl rfl rfl rfl, Or.inl rfl⟩
    · rcases h.exitFill henv e with ⟨hexit, hcloses⟩
      exact ⟨hexit.congr rfl rfl rfl rfl rfl, hcloses⟩

theorem protectiveExit (henv : env.Standard) (h : LoopInvariant env S v)
    (hexit : protectiveExit env candle v = .ok v') :
    LoopInvariant env S v' ∧ ExitCloses v v' := by
  rcases protectiveExit_cases hexit with rfl | ⟨e, rfl⟩
  · exact ⟨h, Or.inl rfl⟩
  · exact h.protectiveFill henv e

end LoopInvariant

end Fills

/-! ## One candle, and a whole run -/

/-- The invariant between the stages of one candle, whose exits all close the position. -/
structure CandleTrace.Kept (env : RunEnv) (S : ℚ) (tr : CandleTrace) : Prop where
  before : LoopInvariant env S tr.before
  atOpen : LoopInvariant env S tr.atOpen
  filled : LoopInvariant env S tr.filled
  guarded : LoopInvariant env S tr.guarded
  closed : LoopInvariant env S tr.closed
  fillCloses : ExitCloses tr.atOpen tr.filled
  protectCloses : ExitCloses tr.filled tr.guarded

theorem CandleTrace.Valid.kept {env : RunEnv} (henv : env.Standard) {S : ℚ} {seen : List Candle}
    {tr : CandleTrace} (htr : tr.Valid env seen) (h : LoopInvariant env S tr.before) :
    tr.Kept env S := by
  have hopen : LoopInvariant env S tr.atOpen := htr.atOpen_eq ▸ h.rollDay
  rcases hopen.fillPending henv htr.fills with ⟨hfilled, hfillCloses⟩
  rcases hfilled.protectiveExit henv htr.protects with ⟨hguarded, hprotectCloses⟩
  rcases htr.marks with ⟨signal, -, hclosed⟩
  refine ⟨h, hopen, hfilled, hguarded, ?_, hfillCloses, hprotectCloses⟩
  rw [hclosed]
  exact hguarded.congr rfl rfl rfl rfl rfl

/-- The equity point a candle records. -/
def CandleTrace.point (tr : CandleTrace) : EquityPoint :=
  ⟨tr.candle.closeTimeMs, tr.closed.state.portfolio.equity tr.candle.close,
    tr.closed.state.portfolio.positionSide = .long⟩

theorem CandleTrace.Valid.equityCurve {env : RunEnv} {seen : List Candle} {tr : CandleTrace}
    (htr : tr.Valid env seen) : tr.closed.equityCurve = tr.before.equityCurve ++ [tr.point] := by
  rcases htr.marks with ⟨signal, -, hclosed⟩
  have hcurve : tr.guarded.equityCurve = tr.before.equityCurve := by
    rw [(protectiveExit_frame htr.protects).curve, (fillPending_frame htr.fills).curve,
      htr.atOpen_eq, rollDay_equityCurve]
  rw [CandleTrace.point, hclosed]
  exact congrArg (· ++ [_]) hcurve

/-- What holds after every candle of a run. -/
structure CandleTrace.StateInvariant (env : RunEnv) (S : ℚ) (tr : CandleTrace) : Prop where
  longIffTrade : tr.closed.state.portfolio.positionSide = .long ↔
    tr.closed.state.openTrade.isSome = true
  tradeIffStop : tr.closed.state.openTrade.isSome = true ↔
    tr.closed.state.stopPrice.isSome = true
  stopIffBase : tr.closed.state.stopPrice.isSome = true ↔
    0 < tr.closed.state.portfolio.baseBalance
  whenLong : ∀ t, tr.closed.state.openTrade = some t →
    tr.closed.state.portfolio.baseBalance = t.quantity ∧
      tr.closed.state.portfolio.avgEntryPrice = some t.entryPrice ∧
        (env.useFixedRiskRewardPolicy = true → tr.closed.state.targetPrice.isSome = true)
  whenFlat : tr.closed.state.portfolio.positionSide = .flat →
    tr.closed.state.targetPrice = none
  fillCloses : ExitCloses tr.atOpen tr.filled
  protectCloses : ExitCloses tr.filled tr.guarded
  trades : ∀ t ∈ tr.closed.trades, t.entryFeeQuote + t.exitFeeQuote = t.feesPaid ∧
    t.pnlQuote = t.quantity * (t.exitPrice - t.entryPrice) - t.feesPaid
  equity : tr.closed.state.portfolio.equity tr.candle.close =
    S + (tr.closed.trades.map Trade.pnlQuote).sum +
      match tr.closed.state.openTrade with
      | none => 0
      | some t => t.quantity * (tr.candle.close - t.entryPrice) - t.entryFee

theorem CandleTrace.Kept.stateInvariant {env : RunEnv} {S : ℚ} {tr : CandleTrace}
    (h : tr.Kept env S) : tr.StateInvariant env S := by
  have hbooks := h.closed.books
  have hpnl := h.closed.pnl
  have hposition := h.closed.position
  have htrades : ∀ t ∈ tr.closed.trades, t.entryFeeQuote + t.exitFeeQuote = t.feesPaid ∧
      t.pnlQuote = t.quantity * (t.exitPrice - t.entryPrice) - t.feesPaid :=
    fun t ht => ⟨(h.closed.trades t ht).fees, (h.closed.trades t ht).pnl⟩
  unfold PositionInvariant at hposition
  cases hopen : tr.closed.state.openTrade with
  | none =>
      -- flat: the base balance is zero and the equity is the quote balance
      simp only [hopen] at hposition
      rcases hposition with ⟨hflat, hstop, htarget⟩
      have hbase := hbooks.flatBase hflat
      have hbalanced := hbooks.balanced
      rw [hbase, hbooks.flatFee hflat] at hbalanced
      refine ⟨by simp [hflat, hopen], by simp [hopen, hstop], by simp [hstop, hbase], ?_,
        fun _ => htarget, h.fillCloses, h.protectCloses, htrades, ?_⟩
      · intro t ht
        rw [hopen] at ht
        cases ht
      · rw [hopen, PortfolioState.equity_eq, hbase, ← hpnl]
        linarith
  | some t =>
      -- long: the portfolio holds the open trade's quantity at its price
      simp only [hopen] at hposition
      have hbase : 0 < tr.closed.state.portfolio.baseBalance :=
        hposition.base ▸ hposition.quantityPos
      have hbalanced := hbooks.balanced
      rw [hposition.avg, hposition.fee, hposition.base, Option.getD_some] at hbalanced
      refine ⟨by simp [hposition.long, hopen], by simp [hopen, hposition.stop],
        by simp [hposition.stop, hbase], ?_, ?_, h.fillCloses, h.protectCloses, htrades, ?_⟩
      · intro t' ht'
        rw [hopen] at ht'
        cases ht'
        exact ⟨hposition.base, hposition.avg, fun hpolicy => hposition.target.trans hpolicy⟩
      · intro hflat
        rw [hposition.long] at hflat
        cases hflat
      · rw [hopen, PortfolioState.equity_eq, hposition.base, ← hpnl]
        linarith

/-- The invariant holds between all stages of all candles of a run. -/
theorem traceSegment_kept {env : RunEnv} (henv : env.Standard) {segment : List Candle} {S : ℚ}
    {journal : Journal} {traces : List CandleTrace} {v : LoopVars}
    (h : traceSegment env segment S journal = .ok (traces, v)) :
    (∀ tr ∈ traces, tr.Kept env S) ∧ LoopInvariant env S v ∧
      v.equityCurve = traces.map CandleTrace.point := by
  have hrun := traceSegment_induct (fun hist u => (∀ tr ∈ hist, tr.Kept env S) ∧
    LoopInvariant env S u ∧ u.equityCurve = hist.map CandleTrace.point) h
    (fun first _ => ⟨by simp, .initial S first.close journal, rfl⟩) ?_
  · exact hrun.1
  · intro hist seen tr rest htr hP _
    have hkept := htr.kept henv hP.2.1
    refine ⟨?_, hkept.closed, ?_⟩
    · intro tr' htr'
      rcases List.mem_append.1 htr' with hold | hnew
      · exact hP.1 tr' hold
      · rw [List.mem_singleton] at hnew
        exact hnew ▸ hkept
    · rw [htr.equityCurve, hP.2.2, List.map_append]
      rfl

/-- After every candle of every run that returns, the loop's state describes one position or none,
every exit closed the whole of it, and the equity is the starting equity plus the recorded profit
plus the open position's. -/
theorem simulator_state_invariant (config : AppConfig) (filters : SymbolFilters)
    (strategy : Strategy) (minRequired : ℕ) (hpos : 0 < minRequired) (policy : Bool)
    (segment : List Candle) (S : ℚ) (journal j : Journal) (r : SegmentRunResult)
    (h : runSegment (.standard config filters strategy minRequired hpos policy) segment S journal =
      .ok (r, j)) :
    ∃ traces v,
      traceSegment (.standard config filters strategy minRequired hpos policy) segment S journal =
          .ok (traces, v) ∧
        traces.map CandleTrace.candle = segment.drop (minRequired - 1) ∧
        r.trades = v.trades ∧ r.equityCurve = traces.map CandleTrace.point ∧
        ∀ tr ∈ traces, tr.StateInvariant
          (.standard config filters strategy minRequired hpos policy) S := by
  have henv := RunEnv.standard_standard config filters strategy minRequired hpos policy
  rcases runSegment_traced h with ⟨traces, last, v, -, htraces, rfl, rfl⟩
  rcases traceSegment_kept henv htraces with ⟨hkept, -, hcurve⟩
  have hcandles := (traceSegment_induct (fun _ _ => True) htraces (fun _ _ => trivial)
    (fun _ _ _ _ _ _ _ => trivial)).2
  exact ⟨traces, v, htraces, hcandles, rfl, hcurve, fun tr htr => (hkept tr htr).stateInvariant⟩

/-- An entry and a strategy exit under the risk/reward policy. -/
theorem simulator_state_invariant_round_trip :
    ∃ r j traces v,
      runSegment (Scenario.env true) [Scenario.candle 0 100 100, Scenario.candle 1 100 102,
          Scenario.candle 2 103 104] 50 (some []) = .ok (r, j) ∧
        traceSegment (Scenario.env true) [Scenario.candle 0 100 100, Scenario.candle 1 100 102,
          Scenario.candle 2 103 104] 50 (some []) = .ok (traces, v) ∧
        ∀ tr ∈ traces, tr.StateInvariant (Scenario.env true) 50 := by
  rcases exists_of_isOk (x := runSegment (Scenario.env true) [Scenario.candle 0 100 100,
    Scenario.candle 1 100 102, Scenario.candle 2 103 104] 50 (some [])) (by decide +kernel) with
    ⟨⟨r, j⟩, h⟩
  rcases simulator_state_invariant {} Scenario.filters Scenario.alternating 1 Nat.one_pos true
    _ 50 (some []) j r h with ⟨traces, v, htraces, -, -, -, hinv⟩
  exact ⟨r, j, traces, v, h, htraces, hinv⟩

end TradingAgent
