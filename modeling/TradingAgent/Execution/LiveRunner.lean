import TradingAgent.Execution.ExecutionStore
import TradingAgent.Library.Effects
import TradingAgent.Risk.Engine

/-!
# Live runner — one testnet decision cycle

`execution/live_runner.py`, `execution/startup_reconciliation.py` and
`execution/reconciliation.py` as programs over their effects: the two databases, the journal, the
kill switch, the market data and the exchange.  A cycle may stop between any two effects.

* `reconcilePendingOrders` resolves what an earlier cycle left open;
* `gateExit` decides whether an EXIT signal may be submitted, and under which client order id;
* `submitOrder` is the submit path with its retry;
* `runTestnetCycle` is the whole cycle.
-/

namespace TradingAgent

/-! ## Effects -/

structure RiskState where
  dayKey : ℤ
  dailyStartEquity : ℚ
  dailyRealizedPnlPct : ℚ
  tradesToday : ℕ
  peakEquity : ℚ
  cooldownBarsRemaining : ℕ
  consecutiveApiErrors : ℕ
  deriving DecidableEq, Repr

def RiskState.initial (startingEquity : ℚ) (dayKey : ℤ) : RiskState :=
  ⟨dayKey, startingEquity, 0, 0, startingEquity, 0, 0⟩

/-- What the data stage of a cycle hands on: at least one completed, validated candle. -/
structure MarketData where
  serverTimeMs : ℤ
  candles : List Candle
  filters : SymbolFilters
  nonempty : candles ≠ []

/-- How the data stage fails: the clock drifted too far, or anything else. -/
inductive FetchError where
  | clockDrift (text : String)
  | unavailable (text : String)
  deriving DecidableEq, Repr

abbrev Balances := Dict String (ℚ × ℚ)

inductive LiveEffect where
  | fetchMarketData (symbol : String)
  | killSwitchEngaged
  | loadPortfolio (symbol : String)
  | savePortfolio (symbol : String) (state : PortfolioState)
  | loadOpenPending (symbol : String)
  | getPending (clientOrderId : String)
  | createPending (clientOrderId symbol : String) (side : OrderSide) (requestedQuantity : ℚ)
      (signalCandleCloseTimeMs submittedAtMs : ℤ)
  | applyOrderResult (ctx : StoreContext) (order : OrderResult) (nowMs : ℤ)
  | loadRiskState (symbol : String)
  | saveRiskState (symbol : String) (state : RiskState)
  | journalRecord (entryType : EntryType) (payload : Payload) (timestampMs : ℤ)
  | journalEntriesByType (entryType : EntryType)
  | getAccountBalances
  | getOrder (symbol clientOrderId : String)
  | placeMarketOrder (symbol : String) (side : OrderSide) (quantity : ℚ) (clientOrderId : String)

/-- What each effect answers. -/
def LiveEffect.Answer : LiveEffect → Type
  | .fetchMarketData _ => Except FetchError MarketData
  | .killSwitchEngaged => Bool
  | .loadPortfolio _ => Option PortfolioState
  | .savePortfolio _ _ => Unit
  | .loadOpenPending _ => List PendingOrder
  | .getPending _ => Option PendingOrder
  | .createPending .. => Unit
  | .applyOrderResult .. => Except PyError OrderApplicationResult
  | .loadRiskState _ => Option RiskState
  | .saveRiskState _ _ => Unit
  | .journalRecord .. => Unit
  | .journalEntriesByType _ => List JournalEntry
  | .getAccountBalances => Except AdapterError Balances
  | .getOrder _ _ => Except AdapterError OrderResult
  | .placeMarketOrder .. => Except AdapterError OrderResult

abbrev LiveProgram (α : Type) := Effects.Program LiveEffect LiveEffect.Answer PyError α

/-- Perform an effect. -/
abbrev perform (effect : LiveEffect) : LiveProgram effect.Answer :=
  Effects.Program.request effect

def raise {α : Type} (e : PyError) : LiveProgram α := .fail e

def journalRecord (entryType : EntryType) (payload : Payload) (timestampMs : ℤ) :
    LiveProgram Unit :=
  perform (.journalRecord entryType payload timestampMs)

/-! ## Reconciling one order -/

inductive ReconciledStatus where
  | confirmedTerminal
  | confirmedOpen
  | notFound
  | unknown
  deriving DecidableEq, Repr

def ReconciledStatus.text : ReconciledStatus → String
  | .confirmedTerminal => "confirmed_terminal"
  | .confirmedOpen => "confirmed_open"
  | .notFound => "not_found"
  | .unknown => "unknown"

def orderDoesNotExistCode : ℤ := -2013

/-- The outcome of a query that was answered with an order. -/
def classifyOrder (order : OrderResult) : ReconciledStatus :=
  match order.status with
  | .filled | .canceled | .rejected | .expired => .confirmedTerminal
  | .new | .partiallyFilled => .confirmedOpen
  | .neverSubmitted | .other _ => .unknown

def reconcileOrder (symbol clientOrderId : String) :
    LiveProgram (ReconciledStatus × Option OrderResult) := do
  match ← perform (.getOrder symbol clientOrderId) with
  | .ok order => return (classifyOrder order, some order)
  | .error (.api _ code _) =>
      if code = some orderDoesNotExistCode then return (.notFound, none)
      else return (.unknown, none)
  | .error e => raise (.adapter e)

/-- Only ever retry with positive confirmation that the order never happened. -/
def safeToRetry (status : ReconciledStatus) : Bool :=
  status = .notFound

/-! ## Startup reconciliation -/

structure PendingOrderReconciliationResult where
  blocked : Bool
  blockedReason : Option String
  deriving DecidableEq, Repr

/-- The zero-execution report that closes out an order that never reached the exchange. -/
def neverSubmittedReport (pending : PendingOrder) (nowMs : ℤ) : OrderResult where
  orderId := 0
  clientOrderId := pending.clientOrderId
  status := .neverSubmitted
  executedQty := pending.applied.executedQty
  cumulativeQuoteQty := pending.applied.cumulativeQuoteQty
  transactTimeMs := nowMs

def applyAtomically (ctx : StoreContext) (order : OrderResult) (nowMs : ℤ) :
    LiveProgram OrderApplicationResult := do
  match ← perform (.applyOrderResult ctx order nowMs) with
  | .ok result => return result
  | .error e => raise e

def startupPayload (clientOrderId outcome : String) : Payload :=
  [("client_order_id", .text clientOrderId), ("outcome", .text outcome)]

/-- The exchange has never heard of the order: close it out through the same atomic path. -/
def closeNeverSubmitted (ctx : StoreContext) (nowMs : ℤ) (pending : PendingOrder) :
    LiveProgram (Option PendingOrderReconciliationResult) := do
  let _ ← applyAtomically ctx (neverSubmittedReport pending nowMs) nowMs
  journalRecord .reconciliationStartup (startupPayload pending.clientOrderId "NOT_FOUND") nowMs
  return none

/-- Apply the report; an order that is still open blocks the cycle. -/
def applyReconciled (ctx : StoreContext) (nowMs : ℤ) (pending : PendingOrder)
    (order : OrderResult) : LiveProgram (Option PendingOrderReconciliationResult) := do
  let id := pending.clientOrderId
  let result ← applyAtomically ctx order nowMs
  journalRecord result.journalEventType
    (("client_order_id", .text id) :: result.journalPayload) nowMs
  if result.isTerminal = true then return none
  else return some ⟨true, some s!"order {id} is still open ({order.status.text})"⟩

def blockOnUnknown (nowMs : ℤ) (pending : PendingOrder) :
    LiveProgram (Option PendingOrderReconciliationResult) := do
  let id := pending.clientOrderId
  journalRecord .reconciliationStartup (startupPayload id "UNKNOWN") nowMs
  return some ⟨true,
    some s!"unresolved order {id}: reconciliation returned an unrecognized outcome"⟩

/-- The body of the loop: `none` when it goes on to the next pending order. -/
def reconcilePendingOrder (ctx : StoreContext) (nowMs : ℤ) (pending : PendingOrder) :
    LiveProgram (Option PendingOrderReconciliationResult) := do
  let (status, order) ← reconcileOrder ctx.symbol pending.clientOrderId
  match status, order with
  | .notFound, _ => closeNeverSubmitted ctx nowMs pending
  | .confirmedTerminal, some order
  | .confirmedOpen, some order => applyReconciled ctx nowMs pending order
  | _, _ => blockOnUnknown nowMs pending

def reconcilePendingLoop (ctx : StoreContext) (nowMs : ℤ) :
    List PendingOrder → LiveProgram PendingOrderReconciliationResult
  | [] => return ⟨false, none⟩
  | pending :: rest => do
      match ← reconcilePendingOrder ctx nowMs pending with
      | some blocked => return blocked
      | none => reconcilePendingLoop ctx nowMs rest

def reconcilePendingOrders (ctx : StoreContext) (nowMs : ℤ) :
    LiveProgram PendingOrderReconciliationResult := do
  let pendings ← perform (.loadOpenPending ctx.symbol)
  reconcilePendingLoop ctx nowMs pendings

def balanceReconciliationTolerance : ℚ := 1 / 10000000

def balanceTotal (balances : Balances) (asset : String) : ℚ :=
  let entry := balances.getD asset (0, 0)
  entry.1 + entry.2

/-- `get_account_balances`, its exceptions passed on. -/
def fetchBalances : LiveProgram Balances := do
  match ← perform .getAccountBalances with
  | .ok balances => return balances
  | .error e => raise (.adapter e)

/-- Compare the local balances against the exchange's totals. -/
def compareBalances (portfolio : PortfolioState) (quoteTotal baseTotal : ℚ) : Bool × Option String :=
  let quoteDiff := |portfolio.quoteBalance - quoteTotal|
  let baseDiff := |portfolio.baseBalance - baseTotal|
  if quoteDiff > balanceReconciliationTolerance ∨ baseDiff > balanceReconciliationTolerance then
    (false, some
      (s!"balance mismatch: local quote={portfolio.quoteBalance} vs exchange={quoteTotal} " ++
        s!"(diff {quoteDiff}); local base={portfolio.baseBalance} vs exchange={baseTotal} " ++
          s!"(diff {baseDiff})"))
  else (true, none)

def reconcileBalances (ctx : StoreContext) : LiveProgram (Bool × Option String) := do
  match ← perform (.loadPortfolio ctx.symbol) with
  | none => return (false, some s!"no portfolio state for '{ctx.symbol}' to reconcile")
  | some portfolio => do
      let balances ← fetchBalances
      return compareBalances portfolio (balanceTotal balances ctx.quoteAsset)
        (balanceTotal balances ctx.baseAsset)

/-! ## The cycle -/

inductive CycleAction where
  | hold
  | sell
  | noTrade
  | error
  deriving DecidableEq, Repr

structure CycleResult where
  action : CycleAction
  reasonCode : String
  detail : Payload := []
  deriving DecidableEq, Repr

/-- What a cycle is given: its configuration, the strategy the configuration selects, and the
deterministic client order id. -/
structure LiveRunner where
  config : AppConfig
  strategy : Strategy
  clientOrderId : String → OrderSide → ℤ → String

def quoteSuffixes : List String := ["USDT", "USDC", "BUSD", "BTC", "ETH"]

def quoteAssetOf (symbol : String) : Except PyError String :=
  match quoteSuffixes.find? fun suffix => suffix.toList.isSuffixOf symbol.toList with
  | some suffix => .ok suffix
  | none => .error (.unknownQuoteAsset symbol)

def baseAssetOf (symbol quoteAsset : String) : String :=
  String.ofList (symbol.toList.take (symbol.toList.length - quoteAsset.toList.length))

def utcDayMs : ℤ := 86400000

/-- The UTC day of a time stamp. -/
def utcDayKey (timestampMs : ℤ) : ℤ := timestampMs / utcDayMs

/-- A cold start requires an account that holds no more than dust. -/
def reconcileInitialPortfolio (ctx : StoreContext) (filters : SymbolFilters) :
    LiveProgram PortfolioState := do
  let balances ← fetchBalances
  let baseTotal := balanceTotal balances ctx.baseAsset
  if baseTotal ≥ filters.minQty then raise (.coldStartReconciliation baseTotal ctx.baseAsset)
  else return .initial (balanceTotal balances ctx.quoteAsset)

def seedPortfolio (ctx : StoreContext) (filters : SymbolFilters) : LiveProgram Unit := do
  match ← perform (.loadPortfolio ctx.symbol) with
  | some _ => return ()
  | none => do
      let portfolio ← reconcileInitialPortfolio ctx filters
      perform (.savePortfolio ctx.symbol portfolio)

/-- The risk state a cycle starts from: rolled to the day, one bar of cooldown gone, the peak
raised to the equity. -/
def rollRiskState (stored : Option RiskState) (equityNow : ℚ) (dayKey : ℤ) : RiskState :=
  let state :=
    match stored with
    | none => RiskState.initial equityNow dayKey
    | some state =>
        if state.dayKey ≠ dayKey then
          { state with
            dayKey := dayKey
            dailyStartEquity := equityNow
            dailyRealizedPnlPct := 0
            tradesToday := 0 }
        else state
  { state with
    cooldownBarsRemaining := state.cooldownBarsRemaining - 1
    peakEquity := max state.peakEquity equityNow }

theorem rollRiskState_of_day {riskState : RiskState} {equityNow : ℚ} {dayKey : ℤ}
    (h : riskState.dayKey = dayKey) :
    rollRiskState (some riskState) equityNow dayKey =
      { riskState with
        cooldownBarsRemaining := riskState.cooldownBarsRemaining - 1
        peakEquity := max riskState.peakEquity equityNow } := by
  simp [rollRiskState, h]

theorem rollRiskState_dayKey (stored : Option RiskState) (equityNow : ℚ) (dayKey : ℤ) :
    (rollRiskState stored equityNow dayKey).dayKey = dayKey := by
  cases stored with
  | none => rfl
  | some riskState =>
      by_cases h : riskState.dayKey = dayKey
      · rw [rollRiskState_of_day h]
        exact h
      · simp [rollRiskState, h]

/-- `risk_state_store.save` and the result the cycle ends with. -/
def endCycle (symbol : String) (riskState : RiskState) (result : CycleResult) :
    LiveProgram CycleResult := do
  perform (.saveRiskState symbol riskState)
  return result

def testnetEntryDisabledReason : String := "TESTNET_AUTO_ENTRY_DISABLED_PENDING_PROTECTIVE_ORDER"

def reconciliationBlocksSellReason : String := "RECONCILIATION_DISCREPANCY_BLOCKS_ALL_ORDERS"

/-- The values the stages of one cycle share. -/
structure CycleContext where
  runner : LiveRunner
  store : StoreContext
  market : MarketData
  portfolio : PortfolioState
  riskState : RiskState

namespace CycleContext

variable (c : CycleContext)

def lastCandle : Candle := c.market.candles.getLast c.market.nonempty

def equityNow : ℚ := c.portfolio.equity c.lastCandle.close

def closeMs : ℤ := c.lastCandle.closeTimeMs

def clientOrderId : String := c.runner.clientOrderId c.store.symbol .sell c.closeMs

end CycleContext

/-- Whether a row of the journal is the submission of this order. -/
def JournalEntry.submits (clientOrderId : String) (entry : JournalEntry) : Bool :=
  Dict.get? entry.payload "client_order_id" = some (.text clientOrderId)

def approvalPayload (approved : Bool) (reasonCode : ReasonCode) : Payload :=
  [("approved", .flag approved), ("reason_code", .text reasonCode.text)]

def exitRiskContext (c : CycleContext) (killSwitchEngaged alreadySubmitted : Bool) : RiskContext where
  equity := c.equityNow
  quoteBalance := c.portfolio.quoteBalance
  tradesToday := c.riskState.tradesToday
  cooldownBarsRemaining := c.riskState.cooldownBarsRemaining
  dailyRealizedPnlPct := c.riskState.dailyRealizedPnlPct
  currentDrawdownPct := drawdownPct c.riskState.peakEquity c.equityNow
  dataAgeSeconds := (c.market.serverTimeMs - c.closeMs : ℤ) / 1000
  consecutiveApiErrors := c.riskState.consecutiveApiErrors
  killSwitchEngaged := killSwitchEngaged
  isDuplicateOrder := alreadySubmitted
  reconciliationBlocked := false

/-- A stage that ends the cycle, or hands a value on. -/
inductive Stage (α : Type) where
  | finished (result : CycleResult)
  | proceed (value : α)

/-- The cycle ends without a trade. -/
def noTrade (c : CycleContext) (reasonCode : String) (detail : Payload := []) :
    LiveProgram CycleResult :=
  endCycle c.store.symbol c.riskState ⟨.noTrade, reasonCode, detail⟩

/-- Size, gate and validate an EXIT: the quantity to submit. -/
def gateExit (c : CycleContext) : LiveProgram (Stage ℚ) := do
  let sizing ← Effects.Program.ofExcept
    (computeSellQuantity c.portfolio.baseBalance c.lastCandle.close c.market.filters)
  journalRecord .sizing (approvalPayload sizing.approved sizing.reasonCode) c.closeMs
  match sizing.approved, sizing.quantity with
  | true, some sized => do
      let found ← perform (.getPending c.clientOrderId)
      let submitted ← perform (.journalEntriesByType .orderSubmitted)
      let alreadySubmitted :=
        found.isSome || submitted.any fun entry => entry.submits c.clientOrderId
      let engaged ← perform .killSwitchEngaged
      let intent : TradeIntent := ⟨.exit, c.store.symbol, sized, c.lastCandle.close⟩
      let decision := (RiskEngine.mk c.runner.config.risk).evaluate intent
        (exitRiskContext c engaged alreadySubmitted)
      journalRecord .riskDecision (approvalPayload decision.approved decision.reasonCode) c.closeMs
      if decision.approved = false then
        return .finished (← noTrade c decision.reasonCode.text)
      else do
        let validation ← Effects.Program.ofExcept (validateOrder intent c.market.filters)
        journalRecord .orderValidation
          (approvalPayload validation.approved validation.reasonCode) c.closeMs
        match validation.approved, validation.validatedQuantity with
        | true, some quantity => return .proceed quantity
        | _, _ => return .finished (← noTrade c validation.reasonCode.text)
  | _, _ => return .finished (← noTrade c sizing.reasonCode.text)

/-- One more consecutive API error, and the cycle ends. -/
def failSubmission (c : CycleContext) (payload : Payload) (reasonCode : String) (detail : Payload) :
    LiveProgram (Stage OrderResult) := do
  perform (.saveRiskState c.store.symbol
    { c.riskState with consecutiveApiErrors := c.riskState.consecutiveApiErrors + 1 })
  journalRecord .exception payload c.closeMs
  return .finished ⟨.error, reasonCode, detail⟩

/-- `failSubmission` with the text of the exception in the journal and in the result. -/
def failWith (c : CycleContext) (stage : String) (e : AdapterError) (reasonCode : String) :
    LiveProgram (Stage OrderResult) :=
  failSubmission c [("stage", .text stage), ("error", .text e.text)] reasonCode
    [("error", .text e.text)]

/-- After an ambiguous network failure: ask what became of the order, and retry only when it never
happened. -/
def resolveSubmission (c : CycleContext) (quantity : ℚ) : LiveProgram (Stage OrderResult) := do
  let (status, reconciled) ← reconcileOrder c.store.symbol c.clientOrderId
  journalRecord .reconciliation [("status", .text status.text)] c.closeMs
  if safeToRetry status then do
    match ← perform (.placeMarketOrder c.store.symbol .sell quantity c.clientOrderId) with
    | .ok order => return .proceed order
    | .error (.other text) => raise (.adapter (.other text))
    | .error e => failWith c "retry_after_timeout" e "RETRY_FAILED"
  else
    match status, reconciled with
    | .confirmedTerminal, some order
    | .confirmedOpen, some order => return .proceed order
    | _, _ =>
        failSubmission c [("stage", .text "reconciliation_unknown")] "RECONCILIATION_UNKNOWN" []

/-- Record the intent, then submit. -/
def submitOrder (c : CycleContext) (quantity : ℚ) : LiveProgram (Stage OrderResult) := do
  perform (.createPending c.clientOrderId c.store.symbol .sell quantity c.closeMs
    c.market.serverTimeMs)
  journalRecord .orderSubmitted
    [("client_order_id", .text c.clientOrderId), ("side", .text "SELL"),
      ("quantity", .number quantity)] c.closeMs
  match ← perform (.placeMarketOrder c.store.symbol .sell quantity c.clientOrderId) with
  | .ok order => return .proceed order
  | .error (.request _) => resolveSubmission c quantity
  | .error (.other text) => raise (.adapter (.other text))
  | .error e => failWith c "place_order" e "API_ERROR"

/-- The risk state after an order's outcome has been applied. -/
def riskStateAfter (config : RiskConfig) (state : RiskState) (result : OrderApplicationResult) :
    RiskState :=
  let state := { state with consecutiveApiErrors := 0 }
  let state :=
    if result.newApplied.executedQty > 0 ∨ result.isTerminal = true then
      { state with tradesToday := state.tradesToday + 1 }
    else state
  match result.realizedPnlDelta with
  | none => state
  | some delta =>
      let state :=
        if state.dailyStartEquity > 0 then
          { state with
            dailyRealizedPnlPct := state.dailyRealizedPnlPct + delta / state.dailyStartEquity }
        else state
      if delta < 0 then { state with cooldownBarsRemaining := config.cooldownBarsAfterLoss }
      else state

section RiskStateAfter

variable (config : RiskConfig) (state : RiskState) (result : OrderApplicationResult)

theorem riskStateAfter_dayKey : (riskStateAfter config state result).dayKey = state.dayKey := by
  cases h : result.realizedPnlDelta <;> simp only [riskStateAfter, h] <;> split_ifs <;> rfl

theorem riskStateAfter_dailyStartEquity :
    (riskStateAfter config state result).dailyStartEquity = state.dailyStartEquity := by
  cases h : result.realizedPnlDelta <;> simp only [riskStateAfter, h] <;> split_ifs <;> rfl

theorem riskStateAfter_tradesToday :
    (riskStateAfter config state result).tradesToday =
      if result.newApplied.executedQty > 0 ∨ result.isTerminal = true then state.tradesToday + 1
      else state.tradesToday := by
  cases h : result.realizedPnlDelta <;> simp only [riskStateAfter, h] <;> split_ifs <;> rfl

theorem riskStateAfter_dailyRealizedPnlPct :
    (riskStateAfter config state result).dailyRealizedPnlPct =
      state.dailyRealizedPnlPct + if state.dailyStartEquity > 0 then
        result.realizedPnlDelta.getD 0 / state.dailyStartEquity else 0 := by
  cases h : result.realizedPnlDelta <;> simp only [riskStateAfter, h] <;> split_ifs <;> simp

theorem riskStateAfter_cooldownBarsRemaining :
    (riskStateAfter config state result).cooldownBarsRemaining =
      if result.realizedPnlDelta.getD 0 < 0 then config.cooldownBarsAfterLoss
      else state.cooldownBarsRemaining := by
  cases h : result.realizedPnlDelta with
  | none => simp only [riskStateAfter, h, Option.getD_none, lt_irrefl, if_false]; split_ifs <;> rfl
  | some delta =>
      by_cases hloss : delta < 0
      · simp only [riskStateAfter, h, Option.getD_some, if_pos hloss]
      · simp only [riskStateAfter, h, Option.getD_some, if_neg hloss]
        split_ifs <;> rfl

end RiskStateAfter

/-- Apply what the exchange reported and end the cycle. -/
def applyOutcome (c : CycleContext) (order : OrderResult) : LiveProgram CycleResult := do
  let result ← applyAtomically c.store order c.market.serverTimeMs
  journalRecord result.journalEventType result.journalPayload c.closeMs
  let newlyAppliedQty := result.newApplied.executedQty
  let idDetail : Payload := [("client_order_id", .text c.clientOrderId)]
  endCycle c.store.symbol (riskStateAfter c.runner.config.risk c.riskState result)
    (if result.isTerminal = false then
      ⟨.noTrade, "ORDER_STILL_OPEN", ("status", .text order.status.text) :: idDetail⟩
    else if newlyAppliedQty = 0 then ⟨.noTrade, order.status.text, idDetail⟩
    else ⟨.sell, order.status.text, ("quantity", .number newlyAppliedQty) :: idDetail⟩)

def signalSuppressed (c : CycleContext) (payload : Payload) : LiveProgram Unit :=
  journalRecord .signalSuppressed payload c.closeMs

/-- From the signal on: HOLD and BUY end the cycle, EXIT is gated, submitted and applied. -/
def actOnSignal (c : CycleContext) (signal : Signal) (balances : Bool × Option String) :
    LiveProgram CycleResult := do
  journalRecord .signal (signalPayload signal) c.closeMs
  match signal.type with
  | .hold => endCycle c.store.symbol c.riskState ⟨.hold, signal.reasonCode, []⟩
  | .buy => do
      signalSuppressed c [("reason", .text testnetEntryDisabledReason)]
      noTrade c testnetEntryDisabledReason
  | .exit =>
      if balances.1 = false then do
        let reason := balances.2.getD ""
        signalSuppressed c
          [("reason", .text reconciliationBlocksSellReason), ("detail", .text reason)]
        noTrade c reconciliationBlocksSellReason [("reason", .text reason)]
      else do
        match ← gateExit c with
        | .finished result => return result
        | .proceed quantity => do
            match ← submitOrder c quantity with
            | .finished result => return result
            | .proceed order => applyOutcome c order

def recordDiscrepancy (balances : Bool × Option String) (nowMs : ℤ) : LiveProgram Unit :=
  if balances.1 = false then
    journalRecord .reconciliationDiscrepancy [("reason", .text (balances.2.getD ""))] nowMs
  else return ()

/-- After the data stage: seed, reconcile, roll the risk state, decide. -/
def tradeOnMarket (runner : LiveRunner) (ctx : StoreContext) (market : MarketData) :
    LiveProgram CycleResult := do
  seedPortfolio ctx market.filters
  let pendingResult ← reconcilePendingOrders ctx market.serverTimeMs
  if pendingResult.blocked = true then
    return ⟨.noTrade, "UNRESOLVED_ORDER_BLOCKS_NEW_SIGNAL",
      [("reason", .text (pendingResult.blockedReason.getD ""))]⟩
  else do
    match ← perform (.loadPortfolio ctx.symbol) with
    | none => raise (.external "portfolio was seeded above and reconciliation never deletes it")
    | some portfolio => do
        let balances ← reconcileBalances ctx
        recordDiscrepancy balances market.serverTimeMs
        let stored ← perform (.loadRiskState ctx.symbol)
        let equityNow := portfolio.equity (market.candles.getLast market.nonempty).close
        let riskState := rollRiskState stored equityNow (utcDayKey market.serverTimeMs)
        let signal ← Effects.Program.ofExcept
          (runner.strategy market.candles portfolio.positionSide)
        actOnSignal ⟨runner, ctx, market, portfolio, riskState⟩ signal balances

def runTestnetCycle (runner : LiveRunner) : LiveProgram CycleResult := do
  let symbol := runner.config.market.symbol
  let quoteAsset ← Effects.Program.ofExcept (quoteAssetOf symbol)
  let ctx : StoreContext :=
    { symbol := symbol
      quoteAsset := quoteAsset
      baseAsset := baseAssetOf symbol quoteAsset
      fallbackFeePct := runner.config.fees.takerFeePct }
  match ← perform (.fetchMarketData symbol) with
  | .ok market => tradeOnMarket runner ctx market
  | .error (.clockDrift text) => do
      journalRecord .exception [("stage", .text "clock_sync"), ("error", .text text)] 0
      return ⟨.error, "CLOCK_DRIFT_EXCEEDS_TOLERANCE", [("error", .text text)]⟩
  | .error (.unavailable text) => do
      journalRecord .exception [("stage", .text "data_fetch"), ("error", .text text)] 0
      return ⟨.noTrade, "DATA_UNAVAILABLE_OR_INVALID", [("error", .text text)]⟩

end TradingAgent
