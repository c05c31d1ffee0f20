import TradingAgent.Execution.CycleRerun

/-!
# Cold start — the account a first cycle accepts, and what later cycles compare it with

A cold start accepts any base balance below the minimum quantity and stores a portfolio that holds
none of it; the reconciliation of every cycle, that one included, allows for an absolute tolerance
only.

* `runsTo_seedPortfolio_iff` is what a cold start accepts and stores;
* `cold_start_agrees_iff`: the two agree exactly on base balances within the tolerance.
-/

namespace TradingAgent

open Effects

section ColdStart

variable {seen : Observation} {ctx : StoreContext} {filters : SymbolFilters} {s s' t : AgentState}

theorem runsTo_fetchBalances_self (seen : Observation) (s : AgentState) :
    RunsTo seen.Answers fetchBalances s seen.balances s := by
  refine runsTo_bind.2 ⟨.ok seen.balances, s, runsTo_perform.2 ⟨rfl, rfl⟩, ?_⟩
  exact runsTo_pure.2 ⟨rfl, rfl⟩

/-- The portfolio a cold start seeds: the quote balance, and no position. -/
def seededPortfolio (seen : Observation) (ctx : StoreContext) : PortfolioState :=
  .initial (balanceTotal seen.balances ctx.quoteAsset)

theorem runsTo_reconcileInitialPortfolio_iff {portfolio : PortfolioState} :
    RunsTo seen.Answers (reconcileInitialPortfolio ctx filters) s portfolio s' ↔
      balanceTotal seen.balances ctx.baseAsset < filters.minQty ∧
        portfolio = seededPortfolio seen ctx ∧ s' = s := by
  constructor
  · intro h
    rcases runsTo_bind.1 h with ⟨balances, u, hfetch, hcheck⟩
    rcases runsTo_fetchBalances hfetch with ⟨rfl, rfl⟩
    simp only at hcheck
    split at hcheck
    · exact (runsTo_raise.1 hcheck).elim
    · rename_i hdust
      exact ⟨not_le.1 hdust, runsTo_pure.1 hcheck⟩
  · rintro ⟨hdust, rfl, rfl⟩
    refine runsTo_bind.2 ⟨seen.balances, _, runsTo_fetchBalances_self seen _, ?_⟩
    simp only [ge_iff_le, if_neg (not_le.2 hdust)]
    exact runsTo_pure.2 ⟨rfl, rfl⟩

/-- A cold start accepts what is below the minimum quantity, and stores the seeded portfolio. -/
theorem runsTo_seedPortfolio_iff {u : Unit} (hfresh : s.store.loadPortfolio ctx.symbol = none) :
    RunsTo seen.Answers (seedPortfolio ctx filters) s u s' ↔
      balanceTotal seen.balances ctx.baseAsset < filters.minQty ∧
        s' = { s with store := s.store.savePortfolio ctx.symbol (seededPortfolio seen ctx) } := by
  constructor
  · intro h
    rcases runsTo_bind.1 h with ⟨answer, v, hload, hrest⟩
    rcases (runsTo_perform.1 hload).2 with ⟨hanswer, rfl⟩
    have hnone : answer = none := hanswer.trans hfresh
    subst hnone
    rcases runsTo_bind.1 hrest with ⟨portfolio, w, hreconcile, hsave⟩
    rcases runsTo_reconcileInitialPortfolio_iff.1 hreconcile with ⟨hdust, rfl, rfl⟩
    exact ⟨hdust, (runsTo_perform.1 hsave).2⟩
  · rintro ⟨hdust, rfl⟩
    refine runsTo_bind.2 ⟨none, s, runsTo_perform.2 ⟨trivial, hfresh.symm, rfl⟩, ?_⟩
    refine runsTo_bind.2 ⟨seededPortfolio seen ctx, s, ?_, runsTo_perform.2 ⟨trivial, rfl⟩⟩
    exact runsTo_reconcileInitialPortfolio_iff.2 ⟨hdust, rfl, rfl⟩

/-- A reconciliation with a stored portfolio reports what the comparison says. -/
theorem runsTo_reconcileBalances_iff {portfolio : PortfolioState} {out : Bool × Option String}
    (hloaded : t.store.loadPortfolio ctx.symbol = some portfolio) :
    RunsTo seen.Answers (reconcileBalances ctx) t out s' ↔
      out = compareBalances portfolio (balanceTotal seen.balances ctx.quoteAsset)
        (balanceTotal seen.balances ctx.baseAsset) ∧ s' = t := by
  constructor
  · exact runsTo_reconcileBalances hloaded
  · rintro ⟨rfl, rfl⟩
    refine runsTo_bind.2 ⟨some portfolio, _, runsTo_perform.2 ⟨trivial, hloaded.symm, rfl⟩, ?_⟩
    refine runsTo_bind.2 ⟨seen.balances, _, runsTo_fetchBalances_self seen _, ?_⟩
    exact runsTo_pure.2 ⟨rfl, rfl⟩

theorem compareBalances_ok_iff {portfolio : PortfolioState} {quoteTotal baseTotal : ℚ} :
    compareBalances portfolio quoteTotal baseTotal = (true, none) ↔
      |portfolio.quoteBalance - quoteTotal| ≤ balanceReconciliationTolerance ∧
        |portfolio.baseBalance - baseTotal| ≤ balanceReconciliationTolerance := by
  unfold compareBalances
  simp only [gt_iff_lt]
  split
  · rename_i hover
    simp only [Prod.mk.injEq, Bool.false_eq_true, reduceCtorEq, and_self, false_iff, not_and, not_le]
    intro hquote
    exact hover.resolve_left (not_lt.2 hquote)
  · rename_i hwithin
    simpa [not_or, not_lt] using hwithin

/-- The seeded portfolio matches the quote balance exactly and forgets the base balance. -/
theorem compareBalances_seeded_iff :
    compareBalances (seededPortfolio seen ctx) (balanceTotal seen.balances ctx.quoteAsset)
        (balanceTotal seen.balances ctx.baseAsset) = (true, none) ↔
      |balanceTotal seen.balances ctx.baseAsset| ≤ balanceReconciliationTolerance := by
  rw [compareBalances_ok_iff]
  have hquote : |(seededPortfolio seen ctx).quoteBalance -
      balanceTotal seen.balances ctx.quoteAsset| ≤ balanceReconciliationTolerance := by
    simp [seededPortfolio, PortfolioState.initial, balanceReconciliationTolerance]
  have hbase : (seededPortfolio seen ctx).baseBalance - balanceTotal seen.balances ctx.baseAsset =
      -balanceTotal seen.balances ctx.baseAsset := by
    simp [seededPortfolio, PortfolioState.initial]
  rw [hbase, abs_neg]
  exact and_iff_right hquote

end ColdStart

/-- While the portfolio stored in `s'` and the account stay as they are, every reconciliation of
balances reports ok. -/
def ColdStartAgrees (seen : Observation) (ctx : StoreContext) (s' : AgentState) : Prop :=
  ∀ t : AgentState, t.store.loadPortfolio ctx.symbol = s'.store.loadPortfolio ctx.symbol →
    RunsTo seen.Answers (reconcileBalances ctx) t (true, none) t

/-- After every cold start that accepted its account, the reconciliations agree exactly when the
base balance of the account is within the tolerance. -/
theorem cold_start_agrees_iff (seen : Observation) (ctx : StoreContext) (filters : SymbolFilters)
    (s s' : AgentState) (hfresh : s.store.loadPortfolio ctx.symbol = none)
    (haccepted : RunsTo seen.Answers (seedPortfolio ctx filters) s () s') :
    ColdStartAgrees seen ctx s' ↔
      |balanceTotal seen.balances ctx.baseAsset| ≤ balanceReconciliationTolerance := by
  rcases (runsTo_seedPortfolio_iff hfresh).1 haccepted with ⟨-, rfl⟩
  have hstored : (s.store.savePortfolio ctx.symbol (seededPortfolio seen ctx)).loadPortfolio
      ctx.symbol = some (seededPortfolio seen ctx) := by simp
  rw [← compareBalances_seeded_iff]
  constructor
  · intro hagrees
    exact ((runsTo_reconcileBalances_iff hstored).1 (hagrees _ rfl)).1.symm
  · intro hwithin t hsame
    exact (runsTo_reconcileBalances_iff (hsame.trans hstored)).2 ⟨hwithin.symm, rfl⟩

namespace ColdStart

def context : StoreContext where
  symbol := "BTCUSDT"
  quoteAsset := "USDT"
  baseAsset := "BTC"
  fallbackFeePct := 1 / 1000

/-- Fifty quote units and this much of the base asset, half of it locked. -/
def seen (baseTotal : ℚ) : Observation :=
  { HoldTwice.seen with
    balances := [("USDT", (50, 0)), ("BTC", (baseTotal / 2, baseTotal / 2))] }

/-- Tables in which nothing has been stored yet. -/
def tables : AgentState where
  store := ⟨[], []⟩
  riskStates := []
  journal := []
  posted := []

/-- The tables after the cold start. -/
def seeded (baseTotal : ℚ) : AgentState :=
  { tables with
    store := tables.store.savePortfolio "BTCUSDT" (seededPortfolio (seen baseTotal) context) }

theorem accepted (baseTotal : ℚ) (h : baseTotal < OneExit.filters.minQty) :
    RunsTo (seen baseTotal).Answers (seedPortfolio context OneExit.filters) tables ()
      (seeded baseTotal) := by
  refine (runsTo_seedPortfolio_iff rfl).2 ⟨?_, rfl⟩
  have htotal : balanceTotal (seen baseTotal).balances context.baseAsset = baseTotal := by
    simp [balanceTotal, seen, context, Dict.getD, Dict.get?]
  rwa [htotal]

end ColdStart

/-- An account without any base asset agrees with the portfolio seeded from it. -/
theorem cold_start_agrees_iff_flat :
    RunsTo (ColdStart.seen 0).Answers (seedPortfolio ColdStart.context OneExit.filters)
        ColdStart.tables () (ColdStart.seeded 0) ∧
      ColdStartAgrees (ColdStart.seen 0) ColdStart.context (ColdStart.seeded 0) := by
  have haccepted := ColdStart.accepted 0 (by norm_num [OneExit.filters])
  refine ⟨haccepted, (cold_start_agrees_iff _ _ _ _ _ rfl haccepted).2 ?_⟩
  decide +kernel

/-- Half of the minimum quantity is accepted by the cold start, and reported as a mismatch by every
reconciliation after it. -/
theorem cold_start_dust_never_agrees :
    RunsTo (ColdStart.seen (1 / 200000)).Answers
        (seedPortfolio ColdStart.context OneExit.filters) ColdStart.tables ()
        (ColdStart.seeded (1 / 200000)) ∧
      ¬ColdStartAgrees (ColdStart.seen (1 / 200000)) ColdStart.context
        (ColdStart.seeded (1 / 200000)) := by
  refine ⟨ColdStart.accepted (1 / 200000) (by norm_num [OneExit.filters]), ?_⟩
  intro hagrees
  have hstored : (ColdStart.seeded (1 / 200000)).store.loadPortfolio ColdStart.context.symbol =
      some (seededPortfolio (ColdStart.seen (1 / 200000)) ColdStart.context) := by decide +kernel
  have hreport := ((runsTo_reconcileBalances_iff hstored).1 (hagrees _ rfl)).1
  revert hreport
  decide +kernel

end TradingAgent
