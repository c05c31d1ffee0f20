import TradingAgent.Backtest.Gates
import TradingAgent.Backtest.PlannedRisk

/-!
# Episodes — each closed trade with the candles it was opened and closed on

The loop carries one open trade at a time, and a closed trade remembers little of how it came
about.  An `Episode` keeps the two candles: `Opens` says what the entry had checked and recorded,
`StopExit` what a stop exit sold for.

* `TradeLedger` ties the loop's trades, its open trade and the recorded risks to the history, in
  whatever context the run computes; `TradeLedger.step`: every candle keeps it;
* `Episodes` is the ledger of a run in exact arithmetic;
* `ordinary_stop_within_budget`: a stop that did not gap costs what was planned.
-/

namespace TradingAgent

/-- The stop the engine places below an entry. -/
def OpenTrade.stop (env : RunEnv) (o : OpenTrade) : ℚ :=
  o.entryPrice * (1 - env.config.stopLoss.stopDistancePct)

/-- The loss per unit of an open trade when its exit fills from `reference`. -/
def OpenTrade.lossAt (env : RunEnv) (o : OpenTrade) (reference : ℚ) : ℚ :=
  lossPerUnit o.entryPrice reference env.config.fees.takerFeePct env.config.fees.slippagePct

def OpenTrade.plannedRisk (o : OpenTrade) : Option ℚ :=
  o.realizedPlan.bind RiskRewardPlan.plannedRiskQuote

/-- The candle of `tr` filled the entry that opened `o`. -/
structure Opens (env : RunEnv) (tr : CandleTrace) (o : OpenTrade) : Prop where
  flat : tr.atOpen.state.openTrade = none
  held : tr.filled.state.openTrade = some o
  stop : tr.filled.state.stopPrice = some (o.stop env)
  timeMs : o.entryTimeMs = tr.candle.openTimeMs
  reference : o.entryReferencePrice = tr.candle.open
  referencePos : 0 < tr.candle.open
  price : o.entryPrice = entryPrice env tr.candle
  fee : o.entryFee = o.quantity * o.entryPrice * env.config.fees.takerFeePct
  quantityPos : 0 < o.quantity
  sized : if env.useFixedRiskRewardPolicy then
      o.plannedRisk = some (o.quantity * o.lossAt env (o.stop env)) ∧
        o.quantity * o.lossAt env (o.stop env) ≤ 1 / 100 * tr.equityAtOpen
    else o.quantity ≤ riskBasedSize env.config tr.equityAtOpen tr.candle.open

/-- The candle of `tr` touched the stop of `o` and closed it as `t`. -/
structure StopExit (env : RunEnv) (tr : CandleTrace) (o : OpenTrade) (t : Trade) : Prop where
  held : tr.filled.state.openTrade = some o
  touched : tr.candle.low ≤ o.stop env
  entryTimeMs : t.entryTimeMs = o.entryTimeMs
  exitTimeMs : t.exitTimeMs = tr.candle.openTimeMs
  reference : t.exitReferencePrice = min (o.stop env) tr.candle.open
  pnl : t.pnlQuote = -(o.quantity * o.lossAt env (min (o.stop env) tr.candle.open))

/-! ## The ledger of trades -/

section Ledger

variable (Opened : CandleTrace → OpenTrade → Prop) (Stops : CandleTrace → OpenTrade → Trade → Prop)
  (stopOf : OpenTrade → ℚ)

/-- A closed trade, the open trade it was, and the positions of its two candles. -/
structure Episode where
  opened : OpenTrade
  trade : Trade
  entryIndex : ℕ
  exitIndex : ℕ

structure Episode.Valid (hist : List CandleTrace) (ep : Episode) : Prop where
  ordered : ep.entryIndex ≤ ep.exitIndex
  opens : ∃ tr, hist[ep.entryIndex]? = some tr ∧ Opened tr ep.opened
  closes : ∃ tr, hist[ep.exitIndex]? = some tr ∧
    (ep.trade.exitReason = .stopLoss → Stops tr ep.opened ep.trade)

/-- The loop's trades, its open trade and the recorded risks, as the history has them: every trade
was opened and, if it was stopped, stopped as told. -/
structure TradeLedger (hist : List CandleTrace) (eps : List Episode) (v : LoopVars) : Prop where
  trades : v.trades = eps.map Episode.trade
  valid : ∀ ep ∈ eps, ep.Valid Opened Stops hist
  holding : ∀ o, v.state.openTrade = some o →
    v.state.stopPrice = some (stopOf o) ∧ ∃ (i : ℕ) (tr : CandleTrace),
      hist[i]? = some tr ∧ Opened tr o
  risks : v.diag.rrPlannedRiskQuoteValues =
    (eps.map Episode.opened ++ v.state.openTrade.toList).flatMap fun o => o.plannedRisk.toList

end Ledger

/-- The open trade of an executed entry. -/
def EntryFill.openTrade [CurrentContext] {env : RunEnv} {candle : Candle} {v : LoopVars}
    (e : EntryFill env candle v) : OpenTrade where
  entryTimeMs := candle.openTimeMs
  entryPrice := (env.imports.simulateBuy env.broker e.quantity candle.open).fillPrice
  quantity := e.quantity
  entryFee := (env.imports.simulateBuy env.broker e.quantity candle.open).feeQuote
  entryReferencePrice := candle.open
  realizedPlan := e.realizedPlan

/-- The trade a protective exit of `o` closes. -/
def ProtectiveFill.trade [CurrentContext] {env : RunEnv} {candle : Candle} {v : LoopVars}
    (e : ProtectiveFill env candle v) (o : OpenTrade) : Trade :=
  closedTrade o candle.openTimeMs v.state.portfolio.baseBalance
    (env.imports.simulateSell env.broker v.state.portfolio.baseBalance e.reference)
    (decimal.sub e.portfolio.realizedPnlQuote v.state.portfolio.realizedPnlQuote) e.reason
    e.reference

theorem getElem?_grow {hist : List CandleTrace} {i : ℕ} {old : CandleTrace}
    (h : hist[i]? = some old) (tr : CandleTrace) : (hist ++ [tr])[i]? = some old := by
  rcases List.getElem?_eq_some_iff.1 h with ⟨hi, -⟩
  simpa [List.getElem?_append_left hi] using h

section Stages

variable [CurrentContext] {env : RunEnv} {candle : Candle} {hist : List CandleTrace}
  {eps : List Episode} {v v' : LoopVars} {tr : CandleTrace} {seen : List Candle}

theorem EntryFill.result_openTrade (e : EntryFill env candle v) :
    e.result.state.openTrade = some e.openTrade := rfl

theorem EntryFill.result_risks (e : EntryFill env candle v) :
    e.result.diag.rrPlannedRiskQuoteValues =
      v.diag.rrPlannedRiskQuoteValues ++ e.openTrade.plannedRisk.toList := by
  unfold EntryFill.result EntryAttempt.leaves recordEntry OpenTrade.plannedRisk EntryFill.openTrade
  cases e.realizedPlan with
  | none => simp [DiagBuilder.recordExecutedEntry, LoopVars.decided]
  | some plan =>
      simp [DiagBuilder.recordExecutedEntry, DiagBuilder.recordRealizedPlan, LoopVars.decided]

theorem ProtectiveFill.result_trades (e : ProtectiveFill env candle v) {o : OpenTrade}
    (ho : v.state.openTrade = some o) : e.result.trades = v.trades ++ [e.trade o] := by
  simp only [ProtectiveFill.result, recordExit, ho, ProtectiveFill.trade]

namespace TradeLedger

variable {Opened : CandleTrace → OpenTrade → Prop} {Stops : CandleTrace → OpenTrade → Trade → Prop}
  {stopOf : OpenTrade → ℚ}

theorem initial (S firstClose : ℚ) (journal : Journal) :
    TradeLedger Opened Stops stopOf [] [] (initialVars S firstClose journal) := by
  constructor
  case trades => rfl
  case valid => simp
  case holding => simp [initialVars]
  case risks => rfl

omit [CurrentContext] in
/-- What the history already says, a longer one says too. -/
theorem grow (h : TradeLedger Opened Stops stopOf hist eps v) (tr : CandleTrace) :
    TradeLedger Opened Stops stopOf (hist ++ [tr]) eps v := by
  refine ⟨h.trades, ?_, ?_, h.risks⟩
  · intro ep hep
    rcases (h.valid ep hep).opens with ⟨entry, hentry, hopens⟩
    rcases (h.valid ep hep).closes with ⟨exit, hexit, hcloses⟩
    exact ⟨(h.valid ep hep).ordered, ⟨entry, getElem?_grow hentry tr, hopens⟩,
      ⟨exit, getElem?_grow hexit tr, hcloses⟩⟩
  · intro o ho
    rcases h.holding o ho with ⟨hstop, i, entry, hentry, hopens⟩
    exact ⟨hstop, i, entry, getElem?_grow hentry tr, hopens⟩

omit [CurrentContext] in
/-- The ledger reads the trades, the open trade with its stop, and the recorded risks only. -/
theorem congr (h : TradeLedger Opened Stops stopOf hist eps v) (htrades : v'.trades = v.trades)
    (hopen : v'.state.openTrade = v.state.openTrade)
    (hstop : v'.state.stopPrice = v.state.stopPrice)
    (hrisks : v'.diag.rrPlannedRiskQuoteValues = v.diag.rrPlannedRiskQuoteValues) :
    TradeLedger Opened Stops stopOf hist eps v' := by
  constructor
  case trades => rw [htrades, h.trades]
  case valid => exact h.valid
  case holding =>
      intro o ho
      rw [hopen] at ho
      rw [hstop]
      exact h.holding o ho
  case risks => rw [hrisks, hopen, h.risks]

omit [CurrentContext] in
/-- Closing the open trade adds its episode; nothing is recorded for it a second time. -/
theorem close (h : TradeLedger Opened Stops stopOf (hist ++ [tr]) eps v) {o : OpenTrade}
    (ho : v.state.openTrade = some o) {t : Trade} (htrades : v'.trades = v.trades ++ [t])
    (hopen : v'.state.openTrade = none)
    (hrisks : v'.diag.rrPlannedRiskQuoteValues = v.diag.rrPlannedRiskQuoteValues)
    (hstop : t.exitReason = .stopLoss → Stops tr o t) :
    ∃ ep, TradeLedger Opened Stops stopOf (hist ++ [tr]) (eps ++ [ep]) v' := by
  rcases h.holding o ho with ⟨-, i, entry, hentry, hopens⟩
  have hi : i ≤ hist.length := by
    rcases List.getElem?_eq_some_iff.1 hentry with ⟨hlt, -⟩
    simpa [Nat.lt_succ_iff] using hlt
  refine ⟨⟨o, t, i, hist.length⟩, ?_, ?_, ?_, ?_⟩
  · rw [htrades, h.trades, List.map_append]
    rfl
  · intro ep hep
    rcases List.mem_append.1 hep with hold | hnew
    · exact h.valid ep hold
    · rw [List.mem_singleton] at hnew
      subst hnew
      exact ⟨hi, ⟨entry, hentry, hopens⟩, ⟨tr, by simp, hstop⟩⟩
  · intro o' ho'
    rw [hopen] at ho'
    cases ho'
  · rw [hrisks, h.risks, ho, hopen]
    simp

/-- An exit closes the open trade, if there is one. -/
theorem exit (h : TradeLedger Opened Stops stopOf (hist ++ [tr]) eps v) (env : RunEnv) (timeMs : ℤ)
    (q : ℚ) (fill : SimulatedFill) (reason : ExitReason) (ref : ℚ) (portfolio : PortfolioState)
    (hstop : ∀ o, v.state.openTrade = some o → reason = .stopLoss →
      Stops tr o (closedTrade o timeMs q fill
        (decimal.sub portfolio.realizedPnlQuote v.state.portfolio.realizedPnlQuote) reason ref)) :
    ∃ eps', TradeLedger Opened Stops stopOf (hist ++ [tr]) eps'
      (recordExit env timeMs q fill reason ref portfolio v) := by
  have hrisks : (recordExit env timeMs q fill reason ref portfolio v).diag.rrPlannedRiskQuoteValues =
      v.diag.rrPlannedRiskQuoteValues :=
    congrArg EntryFigures.plannedRiskQuote recordExit_entryFigures
  cases ho : v.state.openTrade with
  | none =>
      refine ⟨eps, ?_, h.valid, ?_, ?_⟩
      · rw [← h.trades]
        simp only [recordExit, ho]
      · intro o hopen
        cases hopen
      · rw [hrisks, h.risks, ho]
        rfl
  | some o =>
      rcases h.close ho (by simp only [recordExit, ho]) rfl hrisks
        (fun hreason => hstop o ho hreason) with ⟨ep, hep⟩
      exact ⟨_, hep⟩

/-- Filling the pending signal opens a trade, closes one, or leaves the trades alone. -/
theorem fillPending (htr : tr.Valid env seen)
    (h : TradeLedger Opened Stops stopOf (hist ++ [tr]) eps tr.atOpen)
    (hentry : ∀ e : EntryFill env tr.candle tr.atOpen, tr.filled.state = e.result.state →
      tr.atOpen.pendingSignal = some .buy →
        tr.atOpen.state.openTrade = none ∧ Opened tr e.openTrade ∧
          tr.filled.state.stopPrice = some (stopOf e.openTrade)) :
    ∃ eps', TradeLedger Opened Stops stopOf (hist ++ [tr]) eps' tr.filled := by
  rcases fillPending_cases htr.fills with ⟨-, hfilled⟩ | ⟨signalType, m, hpending, hres, hfilled⟩
  · exact ⟨eps, hfilled ▸ h⟩
  rcases resolvePendingSignal_cases hres with
    ⟨rows, diag, -, hdiag, rfl⟩ | ⟨rfl, e, rfl⟩ | ⟨-, e, rfl⟩
  · refine ⟨eps, h.congr ?_ ?_ ?_ ?_⟩ <;> rw [hfilled] <;> try rfl
    exact congrArg EntryFigures.plannedRiskQuote hdiag
  · have hstate : tr.filled.state = e.result.state := by rw [hfilled]
    rcases hentry e hstate hpending with ⟨hflat, hopens, hstop⟩
    have hheld : tr.filled.state.openTrade = some e.openTrade := by
      rw [hstate, e.result_openTrade]
    refine ⟨eps, ?_, h.valid, ?_, ?_⟩
    · rw [hfilled]
      exact h.trades
    · -- the only open trade is the one just opened
      intro o ho
      rw [hheld] at ho
      cases ho
      exact ⟨hstop, hist.length, tr, by simp, hopens⟩
    · have hrisks := h.risks
      rw [hflat] at hrisks
      rw [hheld, hfilled]
      simp only [e.result_risks, hrisks]
      simp
  · -- a strategy exit is no stop
    have hdecided : TradeLedger Opened Stops stopOf (hist ++ [tr]) eps
        (tr.atOpen.decided tr.candle e.rows) := h.congr rfl rfl rfl rfl
    rcases hdecided.exit env tr.candle.openTimeMs e.quantity
      (env.imports.simulateSell env.broker e.quantity tr.candle.open) .strategyExit tr.candle.open
      e.portfolio (fun _ _ hreason => by cases hreason) with ⟨eps', heps⟩
    exact ⟨eps', heps.congr (by rw [hfilled]; rfl) (by rw [hfilled]; rfl) (by rw [hfilled]; rfl)
      (by rw [hfilled]; rfl)⟩

theorem protectiveExit (htr : tr.Valid env seen)
    (h : TradeLedger Opened Stops stopOf (hist ++ [tr]) eps tr.filled)
    (hstop : ∀ (e : ProtectiveFill env tr.candle tr.filled) (o : OpenTrade) (entry : CandleTrace),
      tr.guarded = e.result → tr.filled.state.openTrade = some o →
      tr.filled.state.stopPrice = some (stopOf o) → Opened entry o → e.reason = .stopLoss →
        Stops tr o (e.trade o)) :
    ∃ eps', TradeLedger Opened Stops stopOf (hist ++ [tr]) eps' tr.guarded := by
  rcases protectiveExit_cases htr.protects with hguarded | ⟨e, hguarded⟩
  · exact ⟨eps, hguarded ▸ h⟩
  have hstops : ∀ o, tr.filled.state.openTrade = some o → e.reason = .stopLoss →
      Stops tr o (e.trade o) := by
    intro o ho hreason
    rcases h.holding o ho with ⟨hset, i, entry, -, hopens⟩
    exact hstop e o entry hguarded ho hset hopens hreason
  rcases h.exit env tr.candle.openTimeMs tr.filled.state.portfolio.baseBalance
    (env.imports.simulateSell env.broker tr.filled.state.portfolio.baseBalance e.reference)
    e.reason e.reference e.portfolio hstops with ⟨eps', heps⟩
  exact ⟨eps', heps.congr (by rw [hguarded]; rfl) (by rw [hguarded]; rfl) (by rw [hguarded]; rfl)
    (by rw [hguarded]; rfl)⟩

/-- One candle keeps a ledger whose entries and stop exits its stages check. -/
theorem step (htr : tr.Valid env seen) (h : TradeLedger Opened Stops stopOf hist eps tr.before)
    (hentry : ∀ e : EntryFill env tr.candle tr.atOpen, tr.filled.state = e.result.state →
      tr.atOpen.pendingSignal = some .buy →
        tr.atOpen.state.openTrade = none ∧ Opened tr e.openTrade ∧
          tr.filled.state.stopPrice = some (stopOf e.openTrade))
    (hstop : ∀ (e : ProtectiveFill env tr.candle tr.filled) (o : OpenTrade) (entry : CandleTrace),
      tr.guarded = e.result → tr.filled.state.openTrade = some o →
      tr.filled.state.stopPrice = some (stopOf o) → Opened entry o → e.reason = .stopLoss →
        Stops tr o (e.trade o)) :
    ∃ eps', TradeLedger Opened Stops stopOf (hist ++ [tr]) eps' tr.closed := by
  -- the roll of the day and the mark leave the trades alone
  have hopen : TradeLedger Opened Stops stopOf (hist ++ [tr]) eps tr.atOpen := by
    refine (h.grow tr).congr ?_ ?_ ?_ ?_ <;> rw [htr.atOpen_eq]
    · exact rollDay_trades
    · exact rollDay_openTrade
    · exact rollDay_stopPrice
    · rw [rollDay_diag]
  rcases hopen.fillPending htr hentry with ⟨filledEps, hfilled⟩
  rcases hfilled.protectiveExit htr hstop with ⟨guardedEps, hguarded⟩
  rcases htr.marks with ⟨signal, -, hclosed⟩
  refine ⟨guardedEps, hguarded.congr ?_ ?_ ?_ ?_⟩ <;> rw [hclosed] <;> try rfl
  exact congrArg EntryFigures.plannedRiskQuote (DiagBuilder.entryFigures_recordSignal _ _)

/-! ### Reading the ledger -/

omit [CurrentContext] in
/-- A stopped trade with its two candles. -/
theorem stopped (h : TradeLedger Opened Stops stopOf hist eps v) {k : ℕ} {t : Trade}
    (hk : v.trades[k]? = some t) (hreason : t.exitReason = .stopLoss) :
    ∃ (ep : Episode) (i j : ℕ) (entry exit : CandleTrace), eps[k]? = some ep ∧ i ≤ j ∧
      hist[i]? = some entry ∧ hist[j]? = some exit ∧ Opened entry ep.opened ∧
        Stops exit ep.opened t := by
  rw [h.trades, List.getElem?_map, Option.map_eq_some_iff] at hk
  rcases hk with ⟨ep, hep, rfl⟩
  have hvalid := h.valid ep (List.mem_of_getElem? hep)
  rcases hvalid.opens with ⟨entry, hentry, hopens⟩
  rcases hvalid.closes with ⟨exit, hexit, hstops⟩
  exact ⟨ep, _, _, entry, exit, hep, hvalid.ordered, hentry, hexit, hopens, hstops hreason⟩

omit [CurrentContext] in
/-- Where every entry was opened with a planned risk, the recorded risks are these, in order. -/
theorem risks_eq (h : TradeLedger Opened Stops stopOf hist eps v) {risk : OpenTrade → ℚ}
    (hplanned : ∀ tr o, Opened tr o → o.plannedRisk = some (risk o)) :
    v.diag.rrPlannedRiskQuoteValues =
      (eps.map Episode.opened ++ v.state.openTrade.toList).map risk := by
  have hrisk : ∀ o ∈ eps.map Episode.opened ++ v.state.openTrade.toList,
      o.plannedRisk = some (risk o) := by
    intro o ho
    rcases List.mem_append.1 ho with hclosed | hopen
    · rcases List.mem_map.1 hclosed with ⟨ep, hep, rfl⟩
      rcases (h.valid ep hep).opens with ⟨tr, -, hopens⟩
      exact hplanned tr _ hopens
    · rcases h.holding o (Option.mem_toList.1 hopen) with ⟨-, i, tr, -, hopens⟩
      exact hplanned tr _ hopens
  calc v.diag.rrPlannedRiskQuoteValues
      = (eps.map Episode.opened ++ v.state.openTrade.toList).flatMap
          fun o => o.plannedRisk.toList := h.risks
    _ = (eps.map Episode.opened ++ v.state.openTrade.toList).flatMap fun o => [risk o] :=
        List.flatMap_congr fun o ho => by rw [hrisk o ho, Option.toList_some]
    _ = _ := List.map_eq_flatMap.symm

omit [CurrentContext] in
theorem risk_getElem? (h : TradeLedger Opened Stops stopOf hist eps v) {risk : OpenTrade → ℚ}
    (hplanned : ∀ tr o, Opened tr o → o.plannedRisk = some (risk o)) {k : ℕ} {ep : Episode}
    (hk : eps[k]? = some ep) : v.diag.rrPlannedRiskQuoteValues[k]? = some (risk ep.opened) := by
  have hlt : k < eps.length := (List.getElem?_eq_some_iff.1 hk).1
  rw [h.risks_eq hplanned, List.getElem?_map, List.getElem?_append_left (by simpa using hlt),
    List.getElem?_map, hk]
  rfl

end TradeLedger

/-- The planned risk the run recorded for its `k`-th entry. -/
def SegmentRunResult.recordedRisk (r : SegmentRunResult) (k : ℕ) : Option ℚ :=
  (r.riskReward.map RiskRewardDiagnostics.plannedRiskQuoteValues).bind
    fun values => values[k]?

theorem TradeLedger.recordedRisk {Opened : CandleTrace → OpenTrade → Prop}
    {Stops : CandleTrace → OpenTrade → Trade → Prop} {stopOf : OpenTrade → ℚ}
    (h : TradeLedger Opened Stops stopOf hist eps v) {risk : OpenTrade → ℚ}
    (hplanned : ∀ tr o, Opened tr o → o.plannedRisk = some (risk o))
    (hpolicy : env.useFixedRiskRewardPolicy = true) {k : ℕ} {ep : Episode}
    (hk : eps[k]? = some ep) (S : ℚ) (last : Candle) :
    (buildResult env S last v).recordedRisk k = some (risk ep.opened) := by
  simpa [SegmentRunResult.recordedRisk, buildResult, buildRiskReward, hpolicy]
    using h.risk_getElem? hplanned hk

end Stages

/-! ## Exact arithmetic -/

/-- The ledger of a run in exact arithmetic. -/
abbrev Episodes (env : RunEnv) (hist : List CandleTrace) (eps : List Episode) (v : LoopVars) :
    Prop :=
  TradeLedger (Opens env) (StopExit env) (OpenTrade.stop env) hist eps v

section Exact

variable {env : RunEnv} {S : ℚ} {v : LoopVars} {tr : CandleTrace}

/-- The plan an entry under the policy is opened with: its stop, and a risk within the budget. -/
theorem EntryAttempt.realized_plan (henv : env.Standard)
    (hpolicy : env.useFixedRiskRewardPolicy = true) {candle : Candle}
    (e : EntryAttempt env candle v) :
    ∃ plan, e.realizedPlan = some plan ∧
      plan.stopPrice =
        some (entryPrice env candle * (1 - env.config.stopLoss.stopDistancePct)) ∧
      ∃ risk, risk = e.quantity * lossPerUnit (entryPrice env candle)
          (entryPrice env candle * (1 - env.config.stopLoss.stopDistancePct))
          env.config.fees.takerFeePct env.config.fees.slippagePct ∧
        plan.plannedRiskQuote = some risk ∧ risk ≤ 1 / 100 * v.equityAtOpen candle := by
  rcases e.revalidated henv hpolicy with ⟨plan, raw, target, -, hsome⟩
  have happroved := e.approved _ hsome
  rw [simulateBuy_standard henv] at hsome happroved
  -- being approved, the plan has checked its risk against the budget
  have hbudget := (Bool.and_eq_true_iff.1 happroved).1
  refine ⟨_, hsome, rfl, _, rfl, rfl, ?_⟩
  simpa [fixedMaxRiskPerTradePct, mul_comm] using of_decide_eq_true hbudget

/-- The candle that fills an entry opens its trade. -/
theorem EntryFill.opens (henv : env.Standard) (hkept : LoopInvariant env S tr.atOpen)
    (hportfolio : tr.atOpen.state.portfolio = tr.before.state.portfolio)
    (e : EntryFill env tr.candle tr.atOpen) (hfilled : tr.filled.state = e.result.state) :
    Opens env tr e.openTrade := by
  have hfacts := e.facts henv
  have hequity : tr.atOpen.equityAtOpen tr.candle = tr.equityAtOpen := by
    rw [LoopVars.equityAtOpen, hportfolio, CandleTrace.equityAtOpen]
  have hprice : e.openTrade.entryPrice = entryPrice env tr.candle :=
    congrArg SimulatedFill.fillPrice (simulateBuy_standard henv e.quantity)
  constructor
  case flat =>
      rcases applyBuy_eq_ok (e.applied henv) with ⟨hflat, -, -⟩
      exact (hkept.openTrade_of_flat hflat).1
  case held => rw [hfilled, e.result_openTrade]
  case stop =>
      rw [hfilled]
      unfold OpenTrade.stop
      rw [hprice]
      -- the stop of the plan, or the percentage of the fill price
      by_cases hpolicy : env.useFixedRiskRewardPolicy = true
      · rcases e.realized_plan henv hpolicy with ⟨plan, hsome, hstop, -⟩
        simpa [EntryFill.result, EntryAttempt.leaves, recordEntry, hsome] using hstop
      · have hnone : e.realizedPlan = none := by simpa [hpolicy] using hfacts.plan
        simp [EntryFill.result, EntryAttempt.leaves, recordEntry, hnone,
          simulateBuy_standard henv]
  case timeMs => rfl
  case reference => rfl
  case referencePos => exact hfacts.pricePos
  case price => exact hprice
  case fee =>
      rw [hprice]
      exact congrArg SimulatedFill.feeQuote (simulateBuy_standard henv e.quantity)
  case quantityPos => exact hfacts.quantityPos
  case sized =>
      -- the plan's own risk, or the size the percentage rule gives
      by_cases hpolicy : env.useFixedRiskRewardPolicy = true
      · rcases e.realized_plan henv hpolicy with ⟨plan, hsome, -, risk, hrisk, hplanned, hbudget⟩
        have hloss : e.openTrade.quantity * e.openTrade.lossAt env (e.openTrade.stop env) = risk := by
          rw [hrisk, OpenTrade.lossAt, OpenTrade.stop, hprice]
          rfl
        rw [if_pos hpolicy, hloss, ← hequity]
        exact ⟨by simp [OpenTrade.plannedRisk, EntryFill.openTrade, hsome, hplanned], hbudget⟩
      · have hsize := hfacts.size
        rw [if_neg hpolicy] at hsize ⊢
        rw [← hequity]
        exact hsize

/-- What a stop exit of the open trade costs. -/
theorem ProtectiveFill.stopExit (henv : env.Standard) {o : OpenTrade} {entry : CandleTrace}
    (hopens : Opens env entry o) (e : ProtectiveFill env tr.candle tr.filled)
    (ho : tr.filled.state.openTrade = some o)
    (hstop : tr.filled.state.stopPrice = some (o.stop env))
    (hbase : tr.filled.state.portfolio.baseBalance = o.quantity)
    (hbalanced : (e.trade o).Balanced) (hreason : (e.trade o).exitReason = .stopLoss) :
    StopExit env tr o (e.trade o) := by
  have hreason' : e.reason = .stopLoss := hreason
  rcases e.trigger with ⟨-, stopPrice, hset, hlow, href⟩ | ⟨hprofit, -⟩
  swap
  · rw [hreason'] at hprofit
    cases hprofit
  have hstopPrice : stopPrice = o.stop env := by simpa [hstop] using hset.symm
  subst hstopPrice
  constructor
  case held => exact ho
  case touched => exact hlow
  case entryTimeMs => rfl
  case exitTimeMs => rfl
  case reference => exact href
  case pnl =>
      rw [hbalanced.pnl, ← href]
      simp only [ProtectiveFill.trade, closedTrade, hbase, hopens.fee, henv.imports,
        EngineImports.current, henv.broker, BacktestBroker.simulateSell, BacktestBroker.ofFees,
        OpenTrade.lossAt, lossPerUnit, decimal_exact, DecimalContext.exact_add,
        DecimalContext.exact_sub, DecimalContext.exact_mul]
      ring

/-! ### A whole run -/

/-- Every run has its episodes. -/
theorem traceSegment_episodes {segment : List Candle} {journal : Journal}
    {traces : List CandleTrace} (henv : env.Standard)
    (h : traceSegment env segment S journal = .ok (traces, v)) :
    ∃ eps, Episodes env traces eps v := by
  have hrun := traceSegment_induct (fun hist u => LoopInvariant env S u ∧
    ∃ eps, Episodes env hist eps u) h
    (fun first _ => ⟨.initial S first.close journal, [], .initial S first.close journal⟩) ?_
  · exact hrun.1.2
  · rintro hist seen tr rest htr ⟨hbefore, eps, heps⟩ _
    have hkept := htr.kept henv hbefore
    refine ⟨hkept.closed, heps.step htr ?_ ?_⟩
    · intro e hfilled _
      have hopens := e.opens henv hkept.atOpen (by rw [htr.atOpen_eq, rollDay_portfolio]) hfilled
      exact ⟨hopens.flat, hopens, hopens.stop⟩
    · intro e o entry hguarded ho hset hopens hreason
      rcases hkept.filled.holding_of_long e.long with ⟨o', ho', hold⟩
      have hsame : o' = o := Option.some.inj (ho'.symm.trans ho)
      subst hsame
      have hbalanced : (e.trade o').Balanced := by
        refine hkept.guarded.trades _ ?_
        rw [hguarded, e.result_trades ho]
        exact List.mem_append_right _ (List.mem_singleton_self _)
      exact e.stopExit henv hopens ho hset hold.base hbalanced hreason

end Exact

/-! ## Stopped trades -/

/-- The trade `t` was opened as `o` on the candle of `entry` and stopped on the candle of `exit`. -/
structure Stopped (env : RunEnv) (traces : List CandleTrace) (t : Trade) (o : OpenTrade) (i j : ℕ)
    (entry exit : CandleTrace) : Prop where
  ordered : i ≤ j
  entryAt : traces[i]? = some entry
  exitAt : traces[j]? = some exit
  opens : Opens env entry o
  stops : StopExit env exit o t

section Stopped

variable {env : RunEnv} {traces : List CandleTrace} {eps : List Episode} {v : LoopVars}

theorem Episodes.stopped (h : Episodes env traces eps v) {k : ℕ} {t : Trade}
    (hk : v.trades[k]? = some t) (hreason : t.exitReason = .stopLoss) :
    ∃ ep i j entry exit, eps[k]? = some ep ∧ Stopped env traces t ep.opened i j entry exit := by
  rcases TradeLedger.stopped h hk hreason with
    ⟨ep, i, j, entry, exit, hep, hle, hentry, hexit, hopens, hstops⟩
  exact ⟨ep, i, j, entry, exit, hep, hle, hentry, hexit, hopens, hstops⟩

theorem Opens.plannedRisk_eq {tr : CandleTrace} {o : OpenTrade}
    (hpolicy : env.useFixedRiskRewardPolicy = true) (h : Opens env tr o) :
    o.plannedRisk = some (o.quantity * o.lossAt env (o.stop env)) ∧
      o.quantity * o.lossAt env (o.stop env) ≤ 1 / 100 * tr.equityAtOpen := by
  simpa [hpolicy] using h.sized

/-- Plain sizing keeps the planned loss of an entry within its share of the equity. -/
theorem Opens.baseline_risk (hrates : env.RatesBelowOne) {tr : CandleTrace} {o : OpenTrade}
    (hpolicy : env.useFixedRiskRewardPolicy = false) (h : Opens env tr o) :
    o.quantity * o.lossAt env (o.stop env) ≤
      env.config.risk.maxRiskPerTradePct * tr.equityAtOpen := by
  have hsized : o.quantity ≤ riskBasedSize env.config tr.equityAtOpen tr.candle.open := by
    simpa [hpolicy] using h.sized
  have hslippage := env.config.fees.slippagePctNonneg
  have hentry : 0 < o.entryPrice := by
    rw [h.price]
    exact mul_pos h.referencePos (by linarith)
  have hpos : 0 < o.lossAt env (o.stop env) :=
    lossPerUnit_pos env.config.fees.takerFeePctNonneg hrates.fee hslippage hentry
      env.config.stopLoss.stopDistancePctPos env.config.stopLoss.stopDistancePctLt
  -- the sizer plans with the stop below the reference price, which is the lower one
  have hlower : tr.candle.open * (1 - env.config.stopLoss.stopDistancePct) ≤ o.stop env := by
    have hraise : tr.candle.open ≤ o.entryPrice := by
      rw [h.price]
      have := mul_nonneg h.referencePos.le hslippage
      simp only [entryPrice]
      linarith
    exact mul_le_mul_of_nonneg_right hraise
      (sub_nonneg.2 env.config.stopLoss.stopDistancePctLt.le)
  have htotal : o.lossAt env (o.stop env) ≤ totalLossPerUnit tr.candle.open
      (tr.candle.open * (1 - env.config.stopLoss.stopDistancePct)) env.config.fees.takerFeePct
      env.config.fees.slippagePct := by
    have hanti := lossPerUnit_anti o.entryPrice hrates.fee hrates.slippage hlower
    rw [h.price] at hanti
    simpa [OpenTrade.lossAt, h.price, totalLossPerUnit, lossPerUnit, entryPrice] using hanti
  calc o.quantity * o.lossAt env (o.stop env)
      ≤ o.quantity * totalLossPerUnit tr.candle.open
          (tr.candle.open * (1 - env.config.stopLoss.stopDistancePct)) env.config.fees.takerFeePct
          env.config.fees.slippagePct := mul_le_mul_of_nonneg_left htotal h.quantityPos.le
    _ ≤ tr.equityAtOpen * env.config.risk.maxRiskPerTradePct :=
        (le_div_iff₀ (hpos.trans_le htotal)).1 (hsized.trans (min_le_left _ _))
    _ = env.config.risk.maxRiskPerTradePct * tr.equityAtOpen := mul_comm _ _

end Stopped

/-- The `k`-th trade lost what was planned for it, within the budget of its entry. -/
def WithinBudget (env : RunEnv) (r : SegmentRunResult) (k : ℕ) (t : Trade) (entry : CandleTrace) :
    Prop :=
  if env.useFixedRiskRewardPolicy then
    r.recordedRisk k = some (-t.pnlQuote) ∧ -t.pnlQuote ≤ 1 / 100 * entry.equityAtOpen
  else -t.pnlQuote ≤ env.config.risk.maxRiskPerTradePct * entry.equityAtOpen

/-- In every run with rates below one, a stop exit whose candle opens at or above the stop costs
the risk planned for its entry, which is within the budget; under plain sizing it stays within the
configured share of the equity before the entry. -/
theorem ordinary_stop_within_budget (config : AppConfig) (filters : SymbolFilters)
    (strategy : Strategy) (minRequired : ℕ) (hpos : 0 < minRequired) (policy : Bool)
    (segment : List Candle) (S : ℚ) (journal j : Journal) (r : SegmentRunResult)
    (hfee : config.fees.takerFeePct < 1) (hslippage : config.fees.slippagePct < 1)
    (h : runSegment (.standard config filters strategy minRequired hpos policy) segment S journal =
      .ok (r, j)) :
    ∃ traces v,
      traceSegment (.standard config filters strategy minRequired hpos policy) segment S journal =
          .ok (traces, v) ∧
        ∀ (k : ℕ) t, r.trades[k]? = some t → t.exitReason = .stopLoss →
          ∃ o a b entry exit,
            Stopped (.standard config filters strategy minRequired hpos policy) traces t o a b
                entry exit ∧
              (o.stop (.standard config filters strategy minRequired hpos policy) ≤
                  exit.candle.open →
                WithinBudget (.standard config filters strategy minRequired hpos policy) r k t
                  entry) := by
  have henv := RunEnv.standard_standard config filters strategy minRequired hpos policy
  have hrates : (RunEnv.standard config filters strategy minRequired hpos policy).RatesBelowOne :=
    ⟨hfee, hslippage⟩
  rcases runSegment_traced h with ⟨traces, last, v, -, htraces, rfl, rfl⟩
  rcases traceSegment_episodes henv htraces with ⟨eps, heps⟩
  refine ⟨traces, v, htraces, ?_⟩
  intro k t hk hreason
  rcases heps.stopped hk hreason with ⟨ep, a, b, entry, exit, hep, hstopped⟩
  refine ⟨ep.opened, a, b, entry, exit, hstopped, ?_⟩
  intro hopen
  -- no gap: the exit fills from the stop itself
  have hpnl := hstopped.stops.pnl
  rw [min_eq_left hopen] at hpnl
  unfold WithinBudget
  rw [hpnl, neg_neg]
  cases policy with
  | true =>
      exact ⟨TradeLedger.recordedRisk heps (fun _ _ hopens => (hopens.plannedRisk_eq rfl).1) rfl hep S
        last, (hstopped.opens.plannedRisk_eq rfl).2⟩
  | false => exact hstopped.opens.baseline_risk hrates rfl

/-- A candle that falls through the stop of the entry it filled. -/
theorem ordinary_stop_within_budget_same_candle :
    ∃ r j traces v t, runSegment (Scenario.env true) [Scenario.candle 0 100 100,
        Scenario.candle 1 100 90] 50 none = .ok (r, j) ∧
      traceSegment (Scenario.env true) [Scenario.candle 0 100 100, Scenario.candle 1 100 90] 50
        none = .ok (traces, v) ∧ r.trades[0]? = some t ∧ t.exitReason = .stopLoss ∧
      ∃ o a b entry exit, Stopped (Scenario.env true) traces t o a b entry exit ∧
        (o.stop (Scenario.env true) ≤ exit.candle.open →
          WithinBudget (Scenario.env true) r 0 t entry) := by
  rcases exists_of_isOk (x := runSegment (Scenario.env true) [Scenario.candle 0 100 100,
    Scenario.candle 1 100 90] 50 none) (by decide +kernel) with ⟨⟨r, j⟩, h⟩
  have hreasons : (runSegment (Scenario.env true) [Scenario.candle 0 100 100,
      Scenario.candle 1 100 90] 50 none).map
        (fun x => x.1.trades[0]?.map Trade.exitReason) = .ok (some .stopLoss) := by decide +kernel
  rw [h] at hreasons
  rcases Option.map_eq_some_iff.1 (Except.ok.inj hreasons) with ⟨t, ht, hreason⟩
  rcases ordinary_stop_within_budget {} Scenario.filters Scenario.alternating 1 Nat.one_pos true
    _ 50 none j r (by norm_num) (by norm_num) h with ⟨traces, v, htraces, hall⟩
  exact ⟨r, j, traces, v, t, h, htraces, ht, hreason, hall 0 t ht hreason⟩

end TradingAgent
