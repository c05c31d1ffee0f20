import TradingAgent.Backtest.Records
import TradingAgent.Library.CausalRun
import TradingAgent.Risk.Engine

/-!
# Backtest engine — one independent run over a contiguous segment

`backtest/engine.py`, from `run_segment` down.

* `EngineImports` are the functions `engine.py` imports from other modules;
  `EngineImports.current` is what those modules define;
* `processCandle` is the body of the loop: roll the day, fill the pending signal at this candle's
  open, check the protective exits, mark to the close and ask the strategy for the next signal;
* `runSegment` runs the loop and builds the result.
-/

namespace TradingAgent

/-! ## What the engine is given -/

/-- The functions `engine.py` imports. -/
structure EngineImports where
  planRiskRewardEntry : (equity quoteBalance referencePrice stopDistancePct takerFeePct
    slippagePct : ℚ) → SymbolFilters → Except PyError RiskRewardPlan
  buildRealizedPlan : RiskRewardPlan → (fillPrice stopDistancePct takerFeePct slippagePct
    equity : ℚ) → SymbolFilters → Except PyError RiskRewardPlan
  computeRiskBasedBuyQuantity : (equity entryPrice stopPrice maxRiskPerTradePct maxPositionPct
    takerFeePct slippagePct : ℚ) → SymbolFilters → Except PyError SizingDecision
  computeSellQuantity : (heldQuantity price : ℚ) → SymbolFilters → Except PyError SizingDecision
  evaluate : RiskEngine → TradeIntent → RiskContext → RiskDecision
  validateOrder : TradeIntent → SymbolFilters → Except PyError OrderValidationResult
  simulateBuy : BacktestBroker → ℚ → ℚ → SimulatedFill
  simulateSell : BacktestBroker → ℚ → ℚ → SimulatedFill
  applyBuy : PortfolioState → (quantity price feeQuote : ℚ) → Except PyError PortfolioState
  applySell : PortfolioState → (quantity price feeQuote : ℚ) → Except PyError PortfolioState

def EngineImports.current [CurrentContext] : EngineImports where
  planRiskRewardEntry equity quote price stopDistance fee slippage filters :=
    TradingAgent.planRiskRewardEntry equity quote price stopDistance fee slippage filters decimal
  buildRealizedPlan plan fillPrice stopDistance fee slippage equity filters :=
    TradingAgent.buildRealizedPlan plan fillPrice stopDistance fee slippage equity filters decimal
  computeRiskBasedBuyQuantity equity entry stop risk position fee slippage filters :=
    TradingAgent.computeRiskBasedBuyQuantity equity entry stop risk position fee slippage filters
      decimal
  computeSellQuantity held price filters :=
    TradingAgent.computeSellQuantity held price filters decimal
  evaluate engine intent context := engine.evaluate intent context decimal
  validateOrder intent filters := TradingAgent.validateOrder intent filters decimal
  simulateBuy broker quantity price := broker.simulateBuy quantity price decimal
  simulateSell broker quantity price := broker.simulateSell quantity price decimal
  applyBuy state quantity price fee := TradingAgent.applyBuy state quantity price fee false decimal
  applySell state quantity price fee := TradingAgent.applySell state quantity price fee false decimal

/-- The arguments of `run_segment` that stay the same from candle to candle. -/
structure RunEnv where
  config : AppConfig
  filters : SymbolFilters
  strategy : Strategy
  riskEngine : RiskEngine
  broker : BacktestBroker
  minRequired : ℕ
  minRequiredPos : 0 < minRequired
  useFixedRiskRewardPolicy : Bool := false
  imports : EngineImports := .current

variable [CurrentContext]

/-- The engine as `run_backtest` and the candidate evaluations set it up from a configuration. -/
def RunEnv.standard (config : AppConfig) (filters : SymbolFilters) (strategy : Strategy)
    (minRequired : ℕ) (minRequiredPos : 0 < minRequired) (useFixedRiskRewardPolicy : Bool) :
    RunEnv where
  config := config
  filters := filters
  strategy := strategy
  riskEngine := ⟨config.risk⟩
  broker := .ofFees config.fees
  minRequired := minRequired
  minRequiredPos := minRequiredPos
  useFixedRiskRewardPolicy := useFixedRiskRewardPolicy
  imports := .current

/-- The variables of `run_segment` that the loop carries from candle to candle. -/
structure LoopVars where
  state : LoopState
  peakEquity : ℚ
  diag : DiagBuilder := {}
  pendingSignal : Option ActionableSignal := none
  trades : List Trade := []
  equityCurve : List EquityPoint := []
  portfolioSnapshots : List PortfolioSnapshot := []
  currentDay : Option ℤ := none
  journal : Journal

/-! ## Day roll -/

def msPerDay : ℤ := 24 * 60 * 60 * 1000

/-- The UTC day a candle opens in. -/
def Candle.day (candle : Candle) : ℤ :=
  candle.openTimeMs / msPerDay

/-- A new UTC day resets the day's counters; every candle counts the cooldown down. -/
def rollDay (candle : Candle) (v : LoopVars) : LoopVars :=
  let state : LoopState :=
    if v.currentDay = some candle.day then v.state
    else { v.state with
      dailyStartEquity := v.state.portfolio.equity candle.open
      dailyRealizedPnlPct := 0
      tradesToday := 0 }
  { v with
    currentDay := some candle.day
    state := { state with cooldownBarsRemaining := state.cooldownBarsRemaining - 1 } }

/-! ## Exits -/

/-- Whether a stop exit lost more than its plan's risk: a gap through the stop. -/
def exceedsPlannedRisk (exitReason : ExitReason) (openTrade : OpenTrade) (realized : ℚ) : Bool :=
  match exitReason, openTrade.realizedPlan.bind RiskRewardPlan.plannedRiskQuote with
  | .stopLoss, some plannedRiskQuote => decide (-realized > plannedRiskQuote)
  | _, _ => false

def closedTrade (openTrade : OpenTrade) (exitTimeMs : ℤ) (quantity : ℚ) (fill : SimulatedFill)
    (realized : ℚ) (exitReason : ExitReason) (exitReferencePrice : ℚ) : Trade where
  entryTimeMs := openTrade.entryTimeMs
  exitTimeMs := exitTimeMs
  entryPrice := openTrade.entryPrice
  exitPrice := fill.fillPrice
  quantity := quantity
  feesPaid := decimal.add openTrade.entryFee fill.feeQuote
  pnlQuote := realized
  exitReason := exitReason
  entryFeeQuote := openTrade.entryFee
  exitFeeQuote := fill.feeQuote
  entryReferencePrice := openTrade.entryReferencePrice
  exitReferencePrice := exitReferencePrice

/-- Everything an exit writes once `apply_sell` has returned `portfolio`. -/
def recordExit (env : RunEnv) (exitTimeMs : ℤ) (quantity : ℚ) (fill : SimulatedFill)
    (exitReason : ExitReason) (exitReferencePrice : ℚ) (portfolio : PortfolioState)
    (v : LoopVars) : LoopVars :=
  let realized := decimal.sub portfolio.realizedPnlQuote v.state.portfolio.realizedPnlQuote
  { v with
    trades :=
      match v.state.openTrade with
      | none => v.trades
      | some openTrade =>
          v.trades ++
            [closedTrade openTrade exitTimeMs quantity fill realized exitReason exitReferencePrice]
    diag :=
      match v.state.openTrade with
      | none => v.diag
      | some openTrade =>
          if exceedsPlannedRisk exitReason openTrade realized then
            { v.diag with
              rrGapLossesExceedingPlannedRisk := v.diag.rrGapLossesExceedingPlannedRisk + 1 }
          else v.diag
    state := { v.state with
      portfolio := portfolio
      dailyRealizedPnlPct :=
        if v.state.dailyStartEquity > 0 then
          v.state.dailyRealizedPnlPct + decimal.div realized v.state.dailyStartEquity
        else v.state.dailyRealizedPnlPct
      cooldownBarsRemaining :=
        if realized < 0 then env.config.risk.cooldownBarsAfterLoss
        else v.state.cooldownBarsRemaining
      tradesToday := v.state.tradesToday + 1
      stopPrice := none
      targetPrice := none
      openTrade := none } }

def applyExitFill (env : RunEnv) (exitTimeMs : ℤ) (quantity : ℚ) (fill : SimulatedFill)
    (exitReason : ExitReason) (exitReferencePrice : ℚ) (v : LoopVars) :
    Except PyError LoopVars := do
  let portfolio ←
    env.imports.applySell v.state.portfolio quantity fill.fillPrice fill.feeQuote
  .ok (recordExit env exitTimeMs quantity fill exitReason exitReferencePrice portfolio v)

def executeStopExit (env : RunEnv) (candle : Candle) (v : LoopVars) : Except PyError LoopVars :=
  match v.state.stopPrice with
  | none => .error .noActiveStopPrice
  | some stopPrice => do
      -- a gap through the stop fills at the worse of the stop price and the open
      let fillReferencePrice := min stopPrice candle.open
      let quantity := v.state.portfolio.baseBalance
      let fill := env.imports.simulateSell env.broker quantity fillReferencePrice
      let v ← applyExitFill env candle.openTimeMs quantity fill .stopLoss fillReferencePrice v
      .ok { v with
        journal := v.journal.record .stopLossTriggered
          [("stop_price", .number fillReferencePrice), ("quantity", .number quantity)]
          candle.openTimeMs }

def executeTakeProfitExit (env : RunEnv) (candle : Candle) (v : LoopVars) :
    Except PyError LoopVars :=
  match v.state.targetPrice with
  | none => .error .noActiveTargetPrice
  | some targetPrice => do
      -- a gap beyond the target is never credited as an improvement
      let fillReferencePrice := targetPrice
      let quantity := v.state.portfolio.baseBalance
      let fill := env.imports.simulateSell env.broker quantity fillReferencePrice
      let v ← applyExitFill env candle.openTimeMs quantity fill .takeProfit fillReferencePrice v
      .ok { v with
        journal := v.journal.record .takeProfitTriggered
          [("target_price", .number fillReferencePrice), ("quantity", .number quantity)]
          candle.openTimeMs }

/-- The stop and, under the risk/reward policy, the target, checked against this candle's range.
When both are touched, the stop comes first. -/
def protectiveExit (env : RunEnv) (candle : Candle) (v : LoopVars) : Except PyError LoopVars :=
  match v.state.portfolio.positionSide, v.state.stopPrice with
  | .long, some stopPrice =>
      if candle.low ≤ stopPrice then executeStopExit env candle v
      else
        match env.useFixedRiskRewardPolicy, v.state.targetPrice with
        | true, some targetPrice =>
            if candle.high ≥ targetPrice then executeTakeProfitExit env candle v else .ok v
        | _, _ => .ok v
  | _, _ => .ok v

/-! ## Filling the pending signal -/

/-- Size the pending signal; the plan is there exactly for a BUY under the risk/reward policy. -/
def sizePendingSignal (env : RunEnv) (signalType : ActionableSignal) (referencePrice equity : ℚ)
    (portfolio : PortfolioState) : Except PyError (SizingDecision × Option RiskRewardPlan) :=
  match signalType with
  | .buy =>
      if env.useFixedRiskRewardPolicy then do
        let plan ← env.imports.planRiskRewardEntry equity portfolio.quoteBalance referencePrice
          env.config.stopLoss.stopDistancePct env.config.fees.takerFeePct
          env.config.fees.slippagePct env.filters
        .ok (⟨plan.approved, plan.quantity, plan.reasonCode⟩, some plan)
      else
        let stopPrice :=
          decimal.mul referencePrice (decimal.sub 1 env.config.stopLoss.stopDistancePct)
        return (← env.imports.computeRiskBasedBuyQuantity equity referencePrice stopPrice
          env.config.risk.maxRiskPerTradePct env.config.risk.maxPositionPct
          env.config.fees.takerFeePct env.config.fees.slippagePct env.filters, none)
  | .exit => do
      return (← env.imports.computeSellQuantity portfolio.baseBalance referencePrice env.filters, none)

def recordSizingRejection (signalType : ActionableSignal) (reasonCode : ReasonCode)
    (plan : Option RiskRewardPlan) (diag : DiagBuilder) : DiagBuilder :=
  match signalType, plan with
  | .exit, _ => diag
  | .buy, none => diag.recordRejectedEntry reasonCode
  | .buy, some plan =>
      let diag := diag.recordRejectedEntry reasonCode
      if plan.reasonCode ∈ exchangeFilterRejectionReasons then
        { diag with rrRejectedExchangeFilter := diag.rrRejectedExchangeFilter + 1 }
      else if plan.reasonCode = .rrRejectedNetRewardToRiskBelowMinimum then
        { diag with rrRejectedNetRrBelowMinimum := diag.rrRejectedNetRrBelowMinimum + 1 }
      else diag

/-- The re-validated plan of a BUY under the risk/reward policy, computed from the fill price. -/
def realizePlan (env : RunEnv) (plan : Option RiskRewardPlan) (quantity fillPrice equity : ℚ) :
    Except PyError (Option RiskRewardPlan) :=
  match env.useFixedRiskRewardPolicy, plan with
  | true, some plan => do
      let planForFill :=
        if plan.quantity = some quantity then plan else { plan with quantity := some quantity }
      let realized ← env.imports.buildRealizedPlan planForFill fillPrice
        env.config.stopLoss.stopDistancePct env.config.fees.takerFeePct
        env.config.fees.slippagePct equity env.filters
      .ok (some realized)
  | _, _ => .ok none

/-- Everything an entry writes once `apply_buy` has returned `portfolio`: the open trade with
its stop and, under the risk/reward policy, its target. -/
def recordEntry (env : RunEnv) (candle : Candle) (quantity : ℚ) (fill : SimulatedFill)
    (realizedPlan : Option RiskRewardPlan) (portfolio : PortfolioState) (v : LoopVars) :
    LoopVars :=
  let diag :=
    match realizedPlan with
    | some plan => v.diag.recordRealizedPlan plan
    | none => v.diag
  { v with
    diag := diag.recordExecutedEntry candle.openTimeMs
    state := { v.state with
      portfolio := portfolio
      stopPrice :=
        match realizedPlan with
        | some plan => plan.stopPrice
        | none =>
            some (decimal.mul fill.fillPrice (decimal.sub 1 env.config.stopLoss.stopDistancePct))
      targetPrice :=
        match realizedPlan with
        | some plan => plan.targetPrice
        | none => v.state.targetPrice
      openTrade := some
        { entryTimeMs := candle.openTimeMs
          entryPrice := fill.fillPrice
          quantity := quantity
          entryFee := fill.feeQuote
          entryReferencePrice := candle.open
          realizedPlan := realizedPlan }
      tradesToday := v.state.tradesToday + 1 } }

def openPosition (env : RunEnv) (candle : Candle) (quantity : ℚ) (fill : SimulatedFill)
    (realizedPlan : Option RiskRewardPlan) (v : LoopVars) : Except PyError LoopVars := do
  let portfolio ←
    env.imports.applyBuy v.state.portfolio quantity fill.fillPrice fill.feeQuote
  .ok (recordEntry env candle quantity fill realizedPlan portfolio v)

def fillBuy (env : RunEnv) (candle : Candle) (quantity equity : ℚ)
    (plan : Option RiskRewardPlan) (v : LoopVars) : Except PyError LoopVars := do
  let fill := env.imports.simulateBuy env.broker quantity candle.open
  let realizedPlan ← realizePlan env plan quantity fill.fillPrice equity
  match realizedPlan with
  | some realized =>
      -- fail closed: without a validated plan the position is never created
      if realized.approved then openPosition env candle quantity fill (some realized) v
      else
        let diag := v.diag.recordRejectedEntry realized.reasonCode
        .ok { v with
          diag := { diag with
            rrRejectedPostFillRevalidation := diag.rrRejectedPostFillRevalidation + 1 } }
  | none => openPosition env candle quantity fill none v

def fillExit (env : RunEnv) (candle : Candle) (quantity : ℚ) (v : LoopVars) :
    Except PyError LoopVars :=
  let fill := env.imports.simulateSell env.broker quantity candle.open
  applyExitFill env candle.openTimeMs quantity fill .strategyExit candle.open v

/-- The payload of the three decision rows a pending signal leaves in the journal. -/
def decisionPayload (signalType : ActionableSignal) (approved : Bool) (reasonCode : ReasonCode) :
    Payload :=
  [("signal_type", .text signalType.text), ("approved", .flag approved),
    ("reason_code", .text reasonCode.text)]

def riskContext (state : LoopState) (equity drawdown : ℚ) : RiskContext where
  equity := equity
  quoteBalance := state.portfolio.quoteBalance
  tradesToday := state.tradesToday
  cooldownBarsRemaining := state.cooldownBarsRemaining
  dailyRealizedPnlPct := state.dailyRealizedPnlPct
  currentDrawdownPct := drawdown
  dataAgeSeconds := 0
  consecutiveApiErrors := 0
  killSwitchEngaged := false
  isDuplicateOrder := false

/-- Gate, validate and fill a sized signal. -/
def submitSized (env : RunEnv) (signalType : ActionableSignal) (candle : Candle) (equity : ℚ)
    (quantity : ℚ) (plan : Option RiskRewardPlan) (v : LoopVars) : Except PyError LoopVars :=
  let drawdown := drawdownPct v.peakEquity equity
  let intent : TradeIntent := ⟨signalType, candle.symbol, quantity, candle.open⟩
  let riskDecision := env.imports.evaluate env.riskEngine intent (riskContext v.state equity drawdown)
  let v := { v with
    journal := v.journal.record .riskDecision
      (decisionPayload signalType riskDecision.approved riskDecision.reasonCode) candle.openTimeMs }
  if riskDecision.approved = false then
    .ok { v with
      diag :=
        match signalType with
        | .buy =>
            v.diag.recordRiskGateRejection riskDecision.reasonCode candle.openTimeMs equity drawdown
        | .exit => v.diag }
  else do
    let validation ← env.imports.validateOrder intent env.filters
    let v := { v with
      journal := v.journal.record .orderValidation
        (decisionPayload signalType validation.approved validation.reasonCode) candle.openTimeMs }
    match validation.approved, validation.validatedQuantity with
    | true, some validated =>
        match signalType with
        | .buy => fillBuy env candle validated equity plan v
        | .exit => fillExit env candle validated v
    | _, _ =>
        .ok { v with
          diag :=
            match signalType with
            | .buy => v.diag.recordRejectedEntry validation.reasonCode
            | .exit => v.diag }

def resolvePendingSignal (env : RunEnv) (signalType : ActionableSignal) (candle : Candle)
    (v : LoopVars) : Except PyError LoopVars := do
  let referencePrice := candle.open
  let equity := v.state.portfolio.equity referencePrice
  let v := { v with peakEquity := max v.peakEquity equity }
  let (sizing, plan) ← sizePendingSignal env signalType referencePrice equity v.state.portfolio
  let v := { v with
    journal := v.journal.record .sizing
      (decisionPayload signalType sizing.approved sizing.reasonCode) candle.openTimeMs }
  match sizing.approved, sizing.quantity with
  | true, some quantity => submitSized env signalType candle equity quantity plan v
  | _, _ => .ok { v with diag := recordSizingRejection signalType sizing.reasonCode plan v.diag }

def fillPending (env : RunEnv) (candle : Candle) (v : LoopVars) : Except PyError LoopVars :=
  match v.pendingSignal with
  | none => .ok v
  | some signalType => do
      let v ← resolvePendingSignal env signalType candle v
      .ok { v with pendingSignal := none }

/-! ## Marking to the close -/

def recordSignal (signalType : SignalType) (diag : DiagBuilder) : DiagBuilder :=
  match signalType with
  | .buy => { diag with buySignalsGenerated := diag.buySignalsGenerated + 1 }
  | .exit => { diag with exitSignalsGenerated := diag.exitSignalsGenerated + 1 }
  | .hold => diag

/-- What the end of a candle records: the mark, the signal, the equity point and the snapshot. -/
def recordMark (candle : Candle) (signal : Signal) (v : LoopVars) : LoopVars :=
  let portfolio := v.state.portfolio
  { v with
    peakEquity := max v.peakEquity (portfolio.equity candle.close)
    journal := v.journal.record .signal (signalPayload signal) candle.closeTimeMs
    diag := recordSignal signal.type v.diag
    pendingSignal := signal.type.actionable?.or v.pendingSignal
    equityCurve := v.equityCurve ++
      [⟨candle.closeTimeMs, portfolio.equity candle.close, portfolio.positionSide = .long⟩]
    portfolioSnapshots := v.portfolioSnapshots ++
      [⟨portfolio.quoteBalance, portfolio.baseBalance, v.state.openTrade⟩] }

def markAndSignal (env : RunEnv) (seen : List Candle) (candle : Candle) (v : LoopVars) :
    Except PyError LoopVars := do
  let signal ← env.strategy seen v.state.portfolio.positionSide
  .ok (recordMark candle signal v)

/-! ## The loop -/

/-- The body of the loop; `seen` is `segment[: i + 1]`. -/
def processCandle (env : RunEnv) : CausalRun.Step Candle LoopVars PyError :=
  fun seen candle v => do
    let v ← fillPending env candle (rollDay candle v)
    let v ← protectiveExit env candle v
    markAndSignal env seen candle v

def initialVars (startingEquity : ℚ) (firstClose : ℚ) (journal : Journal) : LoopVars :=
  let portfolio := PortfolioState.initial startingEquity
  { state :=
      { portfolio := portfolio
        openTrade := none
        stopPrice := none
        tradesToday := 0
        dailyRealizedPnlPct := 0
        dailyStartEquity := startingEquity
        cooldownBarsRemaining := 0 }
    peakEquity := portfolio.equity firstClose
    journal := journal }

def runLoop (env : RunEnv) (segment : List Candle) (v : LoopVars) : Except PyError LoopVars :=
  CausalRun.run (processCandle env) (segment.take (env.minRequired - 1))
    (segment.drop (env.minRequired - 1)) v

/-! ## The result -/

/-- The running peak, the largest drawdown so far and the time it was reached. -/
def drawdownStep (acc : ℚ × ℚ × Option ℤ) (point : EquityPoint) : ℚ × ℚ × Option ℤ :=
  let peak := max acc.1 point.equity
  if peak > 0 ∧ decimal.div (decimal.sub peak point.equity) peak > acc.2.1 then
    (peak, decimal.div (decimal.sub peak point.equity) peak, some point.timestampMs)
  else (peak, acc.2.1, acc.2.2)

def maxDrawdownWithTime (equityCurve : List EquityPoint) : ℚ × Option ℤ :=
  match equityCurve with
  | [] => (0, none)
  | first :: _ =>
      let acc := equityCurve.foldl drawdownStep (first.equity, 0, none)
      (acc.2.1 * 100, acc.2.2)

/-- One entry of `shutdown_activations`; both dictionaries of the builder have the same keys. -/
def shutdownActivation (diag : DiagBuilder) (segmentEndTimeMs : ℤ) (reasonCode : ReasonCode)
    (first : ℤ × ℚ × ℚ) : ShutdownActivation :=
  let lastActiveMs := diag.shutdownLastActive.getD reasonCode first.1
  let remainedLatched := diag.lastApprovedBuyTimeMs.all fun t => t < first.1
  { reasonCode := reasonCode
    firstActivatedTimeMs := first.1
    equityAtActivation := first.2.1
    drawdownPctAtActivation := first.2.2
    lastActiveTimeMs := lastActiveMs
    blockedBuyCount := diag.rejectedEntriesByReason.getD reasonCode 0
    remainedLatchedToEnd := remainedLatched
    durationMs := if remainedLatched then segmentEndTimeMs - first.1 else lastActiveMs - first.1 }

def pendingSignalNote (pendingSignal : ActionableSignal) : String :=
  let name := pendingSignal.text.toUpper
  s!"a {name} signal was generated on the final candle of this segment " ++
    "and is unexecuted - execution requires a following candle's open, which does not exist " ++
    "within this segment."

def buildDiagnostics (v : LoopVars) (startingEquity : ℚ) (last : Candle) : RunDiagnostics :=
  let countExits := fun reason => v.trades.countP fun t => t.exitReason = reason
  let maxDrawdown := maxDrawdownWithTime v.equityCurve
  let portfolio := v.state.portfolio
  { buySignalsGenerated := v.diag.buySignalsGenerated
    exitSignalsGenerated := v.diag.exitSignalsGenerated
    unexecutedSignals := if v.pendingSignal.isSome then 1 else 0
    executedEntries := v.diag.executedEntries
    executedStrategyExits := countExits .strategyExit
    executedStopLossExits := countExits .stopLoss
    executedTakeProfitExits := countExits .takeProfit
    rejectedEntriesByReason := v.diag.rejectedEntriesByReason
    firstExecutedTradeTimeMs := v.trades.head?.map Trade.entryTimeMs
    lastExecutedTradeTimeMs := v.trades.getLast?.map Trade.exitTimeMs
    maxDrawdownPct := maxDrawdown.1
    maxDrawdownTimeMs := maxDrawdown.2
    shutdownActivations :=
      v.diag.shutdownFirstActivation.map fun entry =>
        (entry.1, shutdownActivation v.diag last.closeTimeMs entry.1 entry.2)
    startingEquity := startingEquity
    endingEquity := portfolio.equity last.close
    endingCashQuote := portfolio.quoteBalance
    endingBaseQuantity := portfolio.baseBalance
    endsWithOpenPosition := portfolio.positionSide = .long }

def buildRiskReward (v : LoopVars) : RiskRewardDiagnostics where
  entriesApproved := v.diag.rrEntriesApproved
  entriesRejectedNetRrBelowMinimum := v.diag.rrRejectedNetRrBelowMinimum
  entriesRejectedExchangeFilterWithinRiskBudget := v.diag.rrRejectedExchangeFilter
  entriesRejectedPostFillRevalidation := v.diag.rrRejectedPostFillRevalidation
  stopLossExits := v.trades.countP fun t => t.exitReason = .stopLoss
  takeProfitExits := v.trades.countP fun t => t.exitReason = .takeProfit
  gapLossesExceedingPlannedRisk := v.diag.rrGapLossesExceedingPlannedRisk
  plannedRiskQuoteTotal := v.diag.rrPlannedRiskQuoteTotal
  plannedRewardQuoteTotal := v.diag.rrPlannedRewardQuoteTotal
  plannedRiskPctValues := v.diag.rrPlannedRiskPctValues
  plannedRewardPctValues := v.diag.rrPlannedRewardPctValues
  grossRewardToRiskValues := v.diag.rrGrossRewardToRiskValues
  netRewardToRiskValues := v.diag.rrNetRewardToRiskValues
  plannedRiskQuoteValues := v.diag.rrPlannedRiskQuoteValues
  plannedRewardQuoteValues := v.diag.rrPlannedRewardQuoteValues

def buildResult (env : RunEnv) (startingEquity : ℚ) (last : Candle) (v : LoopVars) :
    SegmentRunResult where
  trades := v.trades
  equityCurve := v.equityCurve
  endsWithOpenPosition := v.state.portfolio.positionSide = .long
  pendingSignalNote := v.pendingSignal.map TradingAgent.pendingSignalNote
  diagnostics := buildDiagnostics v startingEquity last
  openPosition := v.state.openTrade.map openTradeToInfo
  portfolioSnapshots := v.portfolioSnapshots
  riskReward := if env.useFixedRiskRewardPolicy then some (buildRiskReward v) else none

/-- `run_segment`, with the journal it leaves behind. -/
def runSegment (env : RunEnv) (segment : List Candle) (startingEquity : ℚ)
    (journal : Journal := none) : Except PyError (SegmentRunResult × Journal) :=
  match segment[env.minRequired - 1]?, segment.getLast? with
  | some first, some last => do
      let v ← runLoop env segment (initialVars startingEquity first.close journal)
      .ok (buildResult env startingEquity last v, v.journal)
  | _, _ => .error .indexOutOfRange

/-! ## A small scenario -/

namespace Scenario

def filters : SymbolFilters where
  symbol := "BTCUSDT"
  tickSize := 1 / 100
  minPrice := 0
  maxPrice := 0
  stepSize := 1 / 100000
  minQty := 1 / 100000
  maxQty := 9000
  minNotional := 5
  maxNotional := none
  applyMinNotionalToMarket := true

/-- The four-hour candle number `index`, moving straight from its open to its close. -/
def candle (index : ℤ) (openPrice closePrice : ℚ) : Candle where
  symbol := "BTCUSDT"
  interval := "4h"
  openTimeMs := index * 14400000
  closeTimeMs := index * 14400000 + 14399999
  «open» := openPrice
  high := max openPrice closePrice
  low := min openPrice closePrice
  close := closePrice
  volume := 1

/-- Buys whenever flat and exits whenever long. -/
def alternating : Strategy := fun _ side =>
  match side with
  | .flat => .ok ⟨.buy, "ALWAYS_BUY", 0, []⟩
  | .long => .ok ⟨.exit, "ALWAYS_EXIT", 0, []⟩

/-- The default configuration over one warm-up candle. -/
def env (useFixedRiskRewardPolicy : Bool) : RunEnv :=
  .standard {} filters alternating 1 Nat.one_pos useFixedRiskRewardPolicy

end Scenario

end TradingAgent
