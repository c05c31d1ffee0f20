import TradingAgent.Backtest.Engine

/-!
# Backtest transitions — what one stage of a candle can do

One inversion lemma for each stage of the loop body.  A stage that returns has done one of a few
things, and the evidence for it (what was sized, gated, validated and filled) is a structure, so
every later proof about the loop starts from these lemmas and unfolds no stage.

* `resolvePendingSignal_outcome` — a pending signal raises while it is planned, is turned down, or
  reaches the portfolio as an `EntryAttempt` or an `ExitAttempt`; `resolvePendingSignal_cases` is
  the same for one that resolved;
* `protectiveExit_cases` — nothing happens, or the position is closed (`ProtectiveFill`);
* `processCandle_cases` — the three stages of one candle, with the state between them.
-/

namespace TradingAgent

/-! ## Figures the diagnostics keep for each entry -/

/-- What the diagnostics keep of the filled entries. -/
structure EntryFigures where
  executedEntries : ℕ
  plannedRiskQuote : List ℚ
  netRewardToRisk : List ℚ
  deriving DecidableEq

namespace DiagBuilder

def entryFigures (diag : DiagBuilder) : EntryFigures :=
  ⟨diag.executedEntries, diag.rrPlannedRiskQuoteValues, diag.rrNetRewardToRiskValues⟩

@[simp] theorem entryFigures_recordRejectedEntry (diag : DiagBuilder) (code : ReasonCode) :
    (diag.recordRejectedEntry code).entryFigures = diag.entryFigures := rfl

@[simp] theorem entryFigures_recordRiskGateRejection (diag : DiagBuilder) (code : ReasonCode)
    (timeMs : ℤ) (equity drawdown : ℚ) :
    (diag.recordRiskGateRejection code timeMs equity drawdown).entryFigures =
      diag.entryFigures := rfl

theorem entryFigures_recordSizingRejection (signalType : ActionableSignal) (code : ReasonCode)
    (plan : Option RiskRewardPlan) (diag : DiagBuilder) :
    (recordSizingRejection signalType code plan diag).entryFigures = diag.entryFigures := by
  cases signalType with
  | exit => rfl
  | buy =>
      cases plan with
      | none => rfl
      | some plan =>
          simp only [recordSizingRejection]
          split
          · rfl
          · split <;> rfl

@[simp] theorem entryFigures_recordSignal (signalType : SignalType) (diag : DiagBuilder) :
    (recordSignal signalType diag).entryFigures = diag.entryFigures := by
  cases signalType <;> rfl

end DiagBuilder

/-! ## Filling the pending signal -/

variable [CurrentContext]

/-- The rows of one decision: sizing, then the risk gate, then the validation, as far as it got. -/
structure DecisionRows (candle : Candle) (rows : List JournalEntry) : Prop where
  types : rows.map JournalEntry.entryType <+: [.sizing, .riskDecision, .orderValidation]
  stamped : ∀ row ∈ rows, row.timestampMs = candle.openTimeMs

variable {env : RunEnv} {candle : Candle} {v v' : LoopVars}

/-- The equity the pending signal is sized and gated against. -/
def LoopVars.equityAtOpen (candle : Candle) (v : LoopVars) : ℚ :=
  v.state.portfolio.equity candle.open

def LoopVars.peakAtOpen (candle : Candle) (v : LoopVars) : ℚ :=
  max v.peakEquity (v.equityAtOpen candle)

/-- The context the risk engine sees for a signal that fills at `candle`'s open. -/
def LoopVars.contextAtOpen (candle : Candle) (v : LoopVars) : RiskContext :=
  riskContext v.state (v.equityAtOpen candle)
    (drawdownPct (v.peakAtOpen candle) (v.equityAtOpen candle))

/-- The variables after a decision has left its rows and its mark of the equity. -/
def LoopVars.decided (candle : Candle) (rows : List JournalEntry) (v : LoopVars) : LoopVars :=
  { v with peakEquity := v.peakAtOpen candle, journal := v.journal.extend rows }

/-- An entry that passed every check and reached `apply_buy`. -/
structure EntryAttempt (env : RunEnv) (candle : Candle) (v : LoopVars) where
  requested : ℚ
  quantity : ℚ
  plan : Option RiskRewardPlan
  realizedPlan : Option RiskRewardPlan
  rows : List JournalEntry
  decision : DecisionRows candle rows
  sized : ∃ code, sizePendingSignal env .buy candle.open (v.equityAtOpen candle)
    v.state.portfolio = .ok (⟨true, some requested, code⟩, plan)
  gated : (env.imports.evaluate env.riskEngine ⟨.buy, candle.symbol, requested, candle.open⟩
    (v.contextAtOpen candle)).approved = true
  validated : ∃ code, env.imports.validateOrder ⟨.buy, candle.symbol, requested, candle.open⟩
    env.filters = .ok ⟨true, some quantity, code⟩
  realized : realizePlan env plan quantity
    (env.imports.simulateBuy env.broker quantity candle.open).fillPrice (v.equityAtOpen candle) =
      .ok realizedPlan
  approved : ∀ r, realizedPlan = some r → r.approved = true

namespace EntryAttempt

/-- The buy the attempt makes. -/
def buy (e : EntryAttempt env candle v) : Except PyError PortfolioState :=
  env.imports.applyBuy v.state.portfolio e.quantity
    (env.imports.simulateBuy env.broker e.quantity candle.open).fillPrice
    (env.imports.simulateBuy env.broker e.quantity candle.open).feeQuote

/-- The variables the attempt leaves behind when the buy returns `portfolio`. -/
def leaves (e : EntryAttempt env candle v) (portfolio : PortfolioState) : LoopVars :=
  recordEntry env candle e.quantity (env.imports.simulateBuy env.broker e.quantity candle.open)
    e.realizedPlan portfolio (v.decided candle e.rows)

end EntryAttempt

/-- An executed entry. -/
structure EntryFill (env : RunEnv) (candle : Candle) (v : LoopVars) extends
    EntryAttempt env candle v where
  portfolio : PortfolioState
  bought : toEntryAttempt.buy = .ok portfolio

def EntryFill.result (e : EntryFill env candle v) : LoopVars :=
  e.leaves e.portfolio

/-- A strategy exit that passed every check and reached `apply_sell`. -/
structure ExitAttempt (env : RunEnv) (candle : Candle) (v : LoopVars) where
  requested : ℚ
  quantity : ℚ
  rows : List JournalEntry
  decision : DecisionRows candle rows
  sized : ∃ code, env.imports.computeSellQuantity v.state.portfolio.baseBalance candle.open
    env.filters = .ok ⟨true, some requested, code⟩
  validated : ∃ code, env.imports.validateOrder ⟨.exit, candle.symbol, requested, candle.open⟩
    env.filters = .ok ⟨true, some quantity, code⟩

namespace ExitAttempt

def sell (e : ExitAttempt env candle v) : Except PyError PortfolioState :=
  env.imports.applySell v.state.portfolio e.quantity
    (env.imports.simulateSell env.broker e.quantity candle.open).fillPrice
    (env.imports.simulateSell env.broker e.quantity candle.open).feeQuote

def leaves (e : ExitAttempt env candle v) (portfolio : PortfolioState) : LoopVars :=
  recordExit env candle.openTimeMs e.quantity
    (env.imports.simulateSell env.broker e.quantity candle.open) .strategyExit candle.open
    portfolio (v.decided candle e.rows)

end ExitAttempt

/-- An executed strategy exit. -/
structure ExitFill (env : RunEnv) (candle : Candle) (v : LoopVars) extends
    ExitAttempt env candle v where
  portfolio : PortfolioState
  sold : toExitAttempt.sell = .ok portfolio

def ExitFill.result (e : ExitFill env candle v) : LoopVars :=
  e.leaves e.portfolio

/-- An exception raised while a signal was sized, validated or planned. -/
def PlanningError (env : RunEnv) (e : PyError) : Prop :=
  (∃ signalType price equity portfolio,
      sizePendingSignal env signalType price equity portfolio = .error e) ∨
    (∃ intent, env.imports.validateOrder intent env.filters = .error e) ∨
      ∃ plan quantity price equity, realizePlan env plan quantity price equity = .error e

theorem applyExitFill_eq_map (timeMs : ℤ) (q ref : ℚ) (fill : SimulatedFill)
    (reason : ExitReason) :
    applyExitFill env timeMs q fill reason ref v =
      (env.imports.applySell v.state.portfolio q fill.fillPrice fill.feeQuote).map fun portfolio =>
        recordExit env timeMs q fill reason ref portfolio v := by
  unfold applyExitFill
  cases env.imports.applySell v.state.portfolio q fill.fillPrice fill.feeQuote <;> rfl

theorem applyExitFill_eq_ok {timeMs : ℤ} {q ref : ℚ} {fill : SimulatedFill} {reason : ExitReason}
    (h : applyExitFill env timeMs q fill reason ref v = .ok v') :
    ∃ portfolio,
      env.imports.applySell v.state.portfolio q fill.fillPrice fill.feeQuote = .ok portfolio ∧
        v' = recordExit env timeMs q fill reason ref portfolio v := by
  rw [applyExitFill_eq_map] at h
  cases hsell : env.imports.applySell v.state.portfolio q fill.fillPrice fill.feeQuote with
  | error e =>
      rw [hsell] at h
      cases h
  | ok portfolio =>
      rw [hsell] at h
      cases h
      exact ⟨portfolio, rfl, rfl⟩

theorem openPosition_eq_map (q : ℚ) (fill : SimulatedFill) (plan : Option RiskRewardPlan) :
    openPosition env candle q fill plan v =
      (env.imports.applyBuy v.state.portfolio q fill.fillPrice fill.feeQuote).map fun portfolio =>
        recordEntry env candle q fill plan portfolio v := by
  unfold openPosition
  cases env.imports.applyBuy v.state.portfolio q fill.fillPrice fill.feeQuote <;> rfl

/-- A buy that reaches the broker fails to be planned, fails its re-validation, or is made. -/
theorem fillBuy_outcome (env : RunEnv) (candle : Candle) (v : LoopVars) (q equity : ℚ)
    (plan : Option RiskRewardPlan) :
    (∃ e, PlanningError env e ∧ fillBuy env candle q equity plan v = .error e) ∨
      (∃ diag, diag.entryFigures = v.diag.entryFigures ∧
        fillBuy env candle q equity plan v = .ok { v with diag := diag }) ∨
      ∃ realizedPlan,
        realizePlan env plan q (env.imports.simulateBuy env.broker q candle.open).fillPrice
            equity = .ok realizedPlan ∧
          (∀ r, realizedPlan = some r → r.approved = true) ∧
          fillBuy env candle q equity plan v =
            (env.imports.applyBuy v.state.portfolio q
              (env.imports.simulateBuy env.broker q candle.open).fillPrice
              (env.imports.simulateBuy env.broker q candle.open).feeQuote).map fun portfolio =>
                recordEntry env candle q (env.imports.simulateBuy env.broker q candle.open)
                  realizedPlan portfolio v := by
  unfold fillBuy
  cases hrealize : realizePlan env plan q
      (env.imports.simulateBuy env.broker q candle.open).fillPrice equity with
  | error e =>
      exact Or.inl ⟨e, Or.inr (Or.inr ⟨plan, q, _, equity, hrealize⟩),
        by simp only [hrealize, bind, Except.bind]⟩
  | ok realizedPlan =>
      simp only [hrealize, bind, Except.bind]
      cases realizedPlan with
      | none =>
          -- no plan to re-validate: the position opens
          exact Or.inr (Or.inr ⟨none, rfl, by simp, openPosition_eq_map q _ none⟩)
      | some realized =>
          by_cases happroved : realized.approved = true
          · refine Or.inr (Or.inr ⟨some realized, rfl, ?_, ?_⟩)
            · intro r hr
              cases hr
              exact happroved
            · simp only [happroved, if_true]
              exact openPosition_eq_map q _ (some realized)
          · refine Or.inr (Or.inl ⟨_, ?_, if_neg happroved⟩)
            rfl

theorem sizePendingSignal_exit {price equity requested : ℚ} {p : PortfolioState}
    {plan : Option RiskRewardPlan} {code : ReasonCode}
    (h : sizePendingSignal env .exit price equity p = .ok (⟨true, some requested, code⟩, plan)) :
    env.imports.computeSellQuantity p.baseBalance price env.filters =
      .ok ⟨true, some requested, code⟩ := by
  rcases exists_of_bind_ok h with ⟨sizing, hsell, hsizing⟩
  cases hsizing
  exact hsell

/-- A sized signal is turned down by the gate or the validator, or handed to the broker. -/
theorem submitSized_outcome {signalType : ActionableSignal} {requested : ℚ}
    {plan : Option RiskRewardPlan} {code : ReasonCode}
    (hsize : sizePendingSignal env signalType candle.open (v.equityAtOpen candle)
      v.state.portfolio = .ok (⟨true, some requested, code⟩, plan)) :
    let r := submitSized env signalType candle (v.equityAtOpen candle) requested plan
      (v.decided candle [⟨candle.openTimeMs, .sizing, decisionPayload signalType true code⟩])
    (∃ e, PlanningError env e ∧ r = .error e) ∨
      (∃ rows diag, DecisionRows candle rows ∧ diag.entryFigures = v.diag.entryFigures ∧
        r = .ok { v.decided candle rows with diag := diag }) ∨
      (signalType = .buy ∧ ∃ a : EntryAttempt env candle v, r = a.buy.map a.leaves) ∨
      (signalType = .exit ∧ ∃ a : ExitAttempt env candle v, r = a.sell.map a.leaves) := by
  intro r
  have hr : r = submitSized env signalType candle (v.equityAtOpen candle) requested plan
      (v.decided candle [⟨candle.openTimeMs, .sizing, decisionPayload signalType true code⟩]) := rfl
  simp only [submitSized, LoopVars.decided, Journal.record_eq_extend, Journal.extend_extend] at hr
  split at hr
  · -- the gate closed
    refine Or.inr (Or.inl ⟨_, _, ⟨?_, ?_⟩, ?_, hr⟩)
    · simp
    · simp
    · cases signalType <;> rfl
  · rename_i hgate
    have hgated := eq_true_of_ne_false hgate
    cases hvalidate : env.imports.validateOrder
        ⟨signalType, candle.symbol, requested, candle.open⟩ env.filters with
    | error e =>
        simp only [hvalidate, bind, Except.bind] at hr
        exact Or.inl ⟨e, Or.inr (Or.inl ⟨_, hvalidate⟩), hr⟩
    | ok validation =>
    rcases validation with ⟨validApproved, validQuantity, validCode⟩
    simp only [hvalidate, bind, Except.bind] at hr
    split at hr
    · rename_i quantity
      cases signalType with
      | buy =>
          rcases fillBuy_outcome env candle _ quantity (v.equityAtOpen candle) plan with
            ⟨e, herror, heq⟩ | ⟨diag, hdiag, heq⟩ | ⟨realizedPlan, hrealize, happroved, heq⟩
          · exact Or.inl ⟨e, herror, hr.trans heq⟩
          · refine Or.inr (Or.inl ⟨_, diag, ⟨?_, ?_⟩, hdiag, hr.trans heq⟩)
            · simp
            · simp
          · refine Or.inr (Or.inr (Or.inl ⟨rfl, ⟨requested, quantity, plan, realizedPlan, _,
              ⟨?_, ?_⟩, ⟨code, hsize⟩, hgated, ⟨validCode, hvalidate⟩, hrealize, happroved⟩,
              hr.trans heq⟩))
            · simp
            · simp
      | exit =>
          refine Or.inr (Or.inr (Or.inr ⟨rfl, ⟨requested, quantity, _, ⟨?_, ?_⟩,
            ⟨code, sizePendingSignal_exit hsize⟩, ⟨validCode, hvalidate⟩⟩,
            hr.trans (applyExitFill_eq_map _ _ _ _ _)⟩))
          · simp
          · simp
    · -- the validator refused it
      refine Or.inr (Or.inl ⟨_, _, ⟨?_, ?_⟩, ?_, hr⟩)
      · simp
      · simp
      · cases signalType <;> rfl

/-- Everything the resolution of a pending signal can do: raise while planning, turn the signal
down, or make the buy or the sale it asks for. -/
theorem resolvePendingSignal_outcome (env : RunEnv) (signalType : ActionableSignal)
    (candle : Candle) (v : LoopVars) :
    (∃ e, PlanningError env e ∧ resolvePendingSignal env signalType candle v = .error e) ∨
      (∃ rows diag, DecisionRows candle rows ∧ diag.entryFigures = v.diag.entryFigures ∧
        resolvePendingSignal env signalType candle v =
          .ok { v.decided candle rows with diag := diag }) ∨
      (signalType = .buy ∧ ∃ a : EntryAttempt env candle v,
        resolvePendingSignal env signalType candle v = a.buy.map a.leaves) ∨
      (signalType = .exit ∧ ∃ a : ExitAttempt env candle v,
        resolvePendingSignal env signalType candle v = a.sell.map a.leaves) := by
  cases hsize : sizePendingSignal env signalType candle.open (v.equityAtOpen candle)
      v.state.portfolio with
  | error e =>
      refine Or.inl ⟨e, Or.inl ⟨signalType, _, _, _, hsize⟩, ?_⟩
      unfold LoopVars.equityAtOpen at hsize
      simp [resolvePendingSignal, hsize, bind, Except.bind]
  | ok sized =>
      rcases sized with ⟨⟨sizeApproved, sizeQuantity, sizeCode⟩, plan⟩
      have hequity := hsize
      unfold LoopVars.equityAtOpen at hequity
      simp only [resolvePendingSignal, hequity, bind, Except.bind]
      split
      · exact submitSized_outcome hsize
      · refine Or.inr (Or.inl ⟨_, _, ⟨?_, ?_⟩,
          DiagBuilder.entryFigures_recordSizingRejection signalType sizeCode plan v.diag, rfl⟩)
        · simp
        · simp

/-- A pending signal that resolved was turned down, filled as an entry, or filled as an exit. -/
theorem resolvePendingSignal_cases {signalType : ActionableSignal}
    (h : resolvePendingSignal env signalType candle v = .ok v') :
    (∃ rows diag, DecisionRows candle rows ∧ diag.entryFigures = v.diag.entryFigures ∧
        v' = { v.decided candle rows with diag := diag }) ∨
      (signalType = .buy ∧ ∃ e : EntryFill env candle v, v' = e.result) ∨
      (signalType = .exit ∧ ∃ e : ExitFill env candle v, v' = e.result) := by
  rcases resolvePendingSignal_outcome env signalType candle v with
    ⟨e, -, herror⟩ | ⟨rows, diag, hrows, hdiag, hok⟩ | ⟨hbuy, a, hmap⟩ | ⟨hexit, a, hmap⟩
  · rw [h] at herror
    cases herror
  · rw [h] at hok
    cases hok
    exact Or.inl ⟨rows, diag, hrows, hdiag, rfl⟩
  · rw [h] at hmap
    cases hbought : a.buy with
    | error e =>
        rw [hbought] at hmap
        cases hmap
    | ok portfolio =>
        rw [hbought] at hmap
        cases hmap
        exact Or.inr (Or.inl ⟨hbuy, ⟨a, portfolio, hbought⟩, rfl⟩)
  · rw [h] at hmap
    cases hsold : a.sell with
    | error e =>
        rw [hsold] at hmap
        cases hmap
    | ok portfolio =>
        rw [hsold] at hmap
        cases hmap
        exact Or.inr (Or.inr ⟨hexit, ⟨a, portfolio, hsold⟩, rfl⟩)

theorem fillPending_cases (h : fillPending env candle v = .ok v') :
    (v.pendingSignal = none ∧ v' = v) ∨
      ∃ signalType m, v.pendingSignal = some signalType ∧
        resolvePendingSignal env signalType candle v = .ok m ∧
          v' = { m with pendingSignal := none } := by
  unfold fillPending at h
  split at h
  · rename_i hnone
    cases h
    exact Or.inl ⟨hnone, rfl⟩
  · rename_i signalType hsome
    cases hres : resolvePendingSignal env signalType candle v with
    | error e =>
        simp [hres, bind, Except.bind] at h
    | ok m =>
        simp only [hres, bind, Except.bind] at h
        cases h
        exact Or.inr ⟨signalType, m, hsome, hres, rfl⟩

/-! ## Protective exits -/

/-- An executed stop or take-profit exit. -/
structure ProtectiveFill (env : RunEnv) (candle : Candle) (v : LoopVars) where
  reason : ExitReason
  reference : ℚ
  portfolio : PortfolioState
  row : JournalEntry
  long : v.state.portfolio.positionSide = .long
  stopSet : v.state.stopPrice.isSome = true
  rowType : row.entryType = .stopLossTriggered ∨ row.entryType = .takeProfitTriggered
  stamped : row.timestampMs = candle.openTimeMs
  trigger : (reason = .stopLoss ∧ ∃ stopPrice, v.state.stopPrice = some stopPrice ∧
      candle.low ≤ stopPrice ∧ reference = min stopPrice candle.open) ∨
    (reason = .takeProfit ∧ env.useFixedRiskRewardPolicy = true ∧
      v.state.targetPrice = some reference ∧ reference ≤ candle.high)
  sold : env.imports.applySell v.state.portfolio v.state.portfolio.baseBalance
    (env.imports.simulateSell env.broker v.state.portfolio.baseBalance reference).fillPrice
    (env.imports.simulateSell env.broker v.state.portfolio.baseBalance reference).feeQuote =
      .ok portfolio

def ProtectiveFill.result (e : ProtectiveFill env candle v) : LoopVars :=
  let closed := recordExit env candle.openTimeMs v.state.portfolio.baseBalance
    (env.imports.simulateSell env.broker v.state.portfolio.baseBalance e.reference) e.reason
    e.reference e.portfolio v
  { closed with journal := v.journal.extend [e.row] }

theorem executeStopExit_eq_ok {stopPrice : ℚ} (hstop : v.state.stopPrice = some stopPrice)
    (hlong : v.state.portfolio.positionSide = .long) (hlow : candle.low ≤ stopPrice)
    (h : executeStopExit env candle v = .ok v') :
    ∃ e : ProtectiveFill env candle v, v' = e.result := by
  unfold executeStopExit at h
  simp only [hstop, bind, Except.bind] at h
  split at h
  · cases h
  · rename_i closed hclosed
    rcases applyExitFill_eq_ok hclosed with ⟨portfolio, hsell, rfl⟩
    cases h
    exact ⟨⟨.stopLoss, min stopPrice candle.open, portfolio, _, hlong, by simp [hstop], Or.inl rfl,
      rfl, Or.inl ⟨rfl, stopPrice, hstop, hlow, rfl⟩, hsell⟩, rfl⟩

theorem executeTakeProfitExit_eq_ok {target : ℚ} (htarget : v.state.targetPrice = some target)
    (hlong : v.state.portfolio.positionSide = .long) (hstop : v.state.stopPrice.isSome = true)
    (hpolicy : env.useFixedRiskRewardPolicy = true) (hhigh : target ≤ candle.high)
    (h : executeTakeProfitExit env candle v = .ok v') :
    ∃ e : ProtectiveFill env candle v, v' = e.result := by
  unfold executeTakeProfitExit at h
  simp only [htarget, bind, Except.bind] at h
  split at h
  · cases h
  · rename_i closed hclosed
    rcases applyExitFill_eq_ok hclosed with ⟨portfolio, hsell, rfl⟩
    cases h
    exact ⟨⟨.takeProfit, target, portfolio, _, hlong, hstop, Or.inr rfl, rfl,
      Or.inr ⟨rfl, hpolicy, htarget, hhigh⟩, hsell⟩, rfl⟩

/-- The protective check does nothing, or closes the position. -/
theorem protectiveExit_cases (h : protectiveExit env candle v = .ok v') :
    v' = v ∨ ∃ e : ProtectiveFill env candle v, v' = e.result := by
  unfold protectiveExit at h
  split at h
  · rename_i stopPrice hlong hstop
    split at h
    · rename_i hlow
      exact Or.inr (executeStopExit_eq_ok hstop hlong hlow h)
    · split at h
      · rename_i target hpolicy htarget
        split at h
        · rename_i hhigh
          exact Or.inr (executeTakeProfitExit_eq_ok htarget hlong (by simp [hstop]) hpolicy hhigh h)
        · cases h
          exact Or.inl rfl
      · cases h
        exact Or.inl rfl
  · cases h
    exact Or.inl rfl

/-! ## One candle -/

/-- The variables at each point of one candle's processing. -/
structure CandleTrace where
  candle : Candle
  before : LoopVars
  atOpen : LoopVars
  filled : LoopVars
  guarded : LoopVars
  closed : LoopVars

/-- `processCandle`, keeping the variables between its stages. -/
def traceCandle (env : RunEnv) (seen : List Candle) (candle : Candle) (v : LoopVars) :
    Except PyError CandleTrace := do
  let filled ← fillPending env candle (rollDay candle v)
  let guarded ← protectiveExit env candle filled
  let closed ← markAndSignal env seen candle guarded
  .ok ⟨candle, v, rollDay candle v, filled, guarded, closed⟩

theorem processCandle_eq_plain (env : RunEnv) :
    processCandle env = CausalRun.plain (traceCandle env) CandleTrace.closed := by
  funext seen candle v
  unfold processCandle CausalRun.plain traceCandle
  cases hfill : fillPending env candle (rollDay candle v) with
  | error e => rfl
  | ok filled =>
      cases hexit : protectiveExit env candle filled with
      | error e => simp [bind, Except.bind, Except.map, hexit]
      | ok guarded =>
          cases hmark : markAndSignal env seen candle guarded with
          | error e => simp [bind, Except.bind, Except.map, hexit, hmark]
          | ok closed => simp [bind, Except.bind, Except.map, hexit, hmark]

/-- A trace whose stages are the stages of the loop body. -/
structure CandleTrace.Valid (env : RunEnv) (seen : List Candle) (tr : CandleTrace) : Prop where
  atOpen_eq : tr.atOpen = rollDay tr.candle tr.before
  fills : fillPending env tr.candle tr.atOpen = .ok tr.filled
  protects : protectiveExit env tr.candle tr.filled = .ok tr.guarded
  marks : ∃ signal, env.strategy seen tr.guarded.state.portfolio.positionSide = .ok signal ∧
    tr.closed = recordMark tr.candle signal tr.guarded

theorem traceCandle_eq_ok {seen : List Candle} {tr : CandleTrace}
    (h : traceCandle env seen candle v = .ok tr) :
    tr.Valid env seen ∧ tr.candle = candle ∧ tr.before = v := by
  unfold traceCandle at h
  cases hfill : fillPending env candle (rollDay candle v) with
  | error e =>
      simp [hfill, bind, Except.bind] at h
  | ok filled =>
      cases hexit : protectiveExit env candle filled with
      | error e =>
          simp [hfill, hexit, bind, Except.bind] at h
      | ok guarded =>
          cases hsignal : env.strategy seen guarded.state.portfolio.positionSide with
          | error e =>
              simp [hfill, hexit, markAndSignal, hsignal, bind, Except.bind] at h
          | ok signal =>
              simp only [hfill, hexit, markAndSignal, hsignal, bind, Except.bind] at h
              cases h
              exact ⟨⟨rfl, hfill, hexit, signal, hsignal, rfl⟩, rfl, rfl⟩

/-- The three stages of a candle that was processed. -/
theorem processCandle_cases {seen : List Candle} (h : processCandle env seen candle v = .ok v') :
    ∃ tr : CandleTrace, tr.Valid env seen ∧ tr.candle = candle ∧ tr.before = v ∧
      v' = tr.closed := by
  rw [processCandle_eq_plain] at h
  rcases CausalRun.plain_eq_ok h with ⟨tr, htr, rfl⟩
  rcases traceCandle_eq_ok htr with ⟨hvalid, hcandle, hbefore⟩
  exact ⟨tr, hvalid, hcandle, hbefore, rfl⟩

/-! ## A whole run -/

/-- A returned run is a returned loop and the result built from its variables. -/
theorem runSegment_eq_ok {env : RunEnv} {segment : List Candle} {S : ℚ} {journal j : Journal}
    {r : SegmentRunResult} (h : runSegment env segment S journal = .ok (r, j)) :
    ∃ first last v, segment[env.minRequired - 1]? = some first ∧ segment.getLast? = some last ∧
      runLoop env segment (initialVars S first.close journal) = .ok v ∧
        r = buildResult env S last v ∧ j = v.journal := by
  unfold runSegment at h
  split at h
  · rename_i first last hfirst hlast
    cases hloop : runLoop env segment (initialVars S first.close journal) with
    | error e =>
        simp [hloop, bind, Except.bind] at h
    | ok v =>
        simp only [hloop, bind, Except.bind] at h
        cases h
        exact ⟨first, last, v, hfirst, hlast, hloop, rfl, rfl⟩
  · cases h

theorem runSegment_of_loop {env : RunEnv} {segment : List Candle} {S : ℚ} {journal : Journal}
    {first last : Candle} {v : LoopVars} (hfirst : segment[env.minRequired - 1]? = some first)
    (hlast : segment.getLast? = some last)
    (hloop : runLoop env segment (initialVars S first.close journal) = .ok v) :
    runSegment env segment S journal = .ok (buildResult env S last v, v.journal) := by
  simp [runSegment, hfirst, hlast, hloop, bind, Except.bind]

/-- The traces of a run's candles, in order, and the variables it ends with. -/
def traceSegment (env : RunEnv) (segment : List Candle) (S : ℚ) (journal : Journal) :
    Except PyError (List CandleTrace × LoopVars) :=
  match segment[env.minRequired - 1]? with
  | none => .error .indexOutOfRange
  | some first =>
      CausalRun.run (CausalRun.recorded (traceCandle env) CandleTrace.closed)
        (segment.take (env.minRequired - 1)) (segment.drop (env.minRequired - 1))
        ([], initialVars S first.close journal)

/-- Every run that returns has its traces. -/
theorem runSegment_traced {env : RunEnv} {segment : List Candle} {S : ℚ} {journal j : Journal}
    {r : SegmentRunResult} (h : runSegment env segment S journal = .ok (r, j)) :
    ∃ traces last v, segment.getLast? = some last ∧
      traceSegment env segment S journal = .ok (traces, v) ∧ r = buildResult env S last v ∧
        j = v.journal := by
  rcases runSegment_eq_ok h with ⟨first, last, v, hfirst, hlast, hloop, rfl, rfl⟩
  unfold runLoop at hloop
  rw [processCandle_eq_plain] at hloop
  rcases CausalRun.exists_recorded hloop [] with ⟨traces, htraces⟩
  exact ⟨traces, last, v, hlast, by simp [traceSegment, hfirst, htraces], rfl, rfl⟩

/-- The invariant rule of runs: what holds initially, and each candle preserves, holds at the end,
the history being the traces of the candles processed so far. -/
theorem traceSegment_induct {env : RunEnv} {segment : List Candle} {S : ℚ} {journal : Journal}
    {traces : List CandleTrace} {v : LoopVars} (P : List CandleTrace → LoopVars → Prop)
    (h : traceSegment env segment S journal = .ok (traces, v))
    (h0 : ∀ first, segment[env.minRequired - 1]? = some first →
      P [] (initialVars S first.close journal))
    (hstep : ∀ hist seen tr rest, tr.Valid env seen → P hist tr.before →
      segment.drop (env.minRequired - 1) = hist.map CandleTrace.candle ++ tr.candle :: rest →
      P (hist ++ [tr]) tr.closed) :
    P traces v ∧ traces.map CandleTrace.candle = segment.drop (env.minRequired - 1) := by
  unfold traceSegment at h
  split at h
  · cases h
  · rename_i first hfirst
    -- the history's candles are those read since the loop began
    have hcandle : ∀ pre candle post (s s' : List CandleTrace × LoopVars),
        segment.drop (env.minRequired - 1) = pre ++ candle :: post →
        (P s.1 s.2 ∧ segment.take (env.minRequired - 1) ++ pre =
          segment.take (env.minRequired - 1) ++ s.1.map CandleTrace.candle) →
        CausalRun.recorded (traceCandle env) CandleTrace.closed
          (segment.take (env.minRequired - 1) ++ pre ++ [candle]) candle s = .ok s' →
        (P s'.1 s'.2 ∧ segment.take (env.minRequired - 1) ++ pre ++ [candle] =
          segment.take (env.minRequired - 1) ++ s'.1.map CandleTrace.candle) := by
      rintro pre candle post ⟨hist, u⟩ ⟨hist', u'⟩ hsplit ⟨hP, hread⟩ hrec
      rcases CausalRun.recorded_eq_ok hrec with ⟨tr, htr, rfl, rfl⟩
      rcases traceCandle_eq_ok htr with ⟨hvalid, rfl, rfl⟩
      have hpre : pre = hist.map CandleTrace.candle := List.append_cancel_left hread
      refine ⟨hstep hist _ tr post hvalid hP (by rw [hsplit, hpre]), ?_⟩
      simp [hpre]
    have hrun := CausalRun.run_induct_mem
      (fun (read : List Candle) (s : List CandleTrace × LoopVars) => P s.1 s.2 ∧
        read = segment.take (env.minRequired - 1) ++ s.1.map CandleTrace.candle)
      hcandle ⟨h0 first hfirst, by simp⟩ h
    exact ⟨hrun.1, (List.append_cancel_left hrun.2).symm⟩

end TradingAgent
