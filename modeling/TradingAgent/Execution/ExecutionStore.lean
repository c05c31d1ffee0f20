import TradingAgent.Execution.OrderOutcome
import Mathlib.Data.List.Sort

/-!
# Execution store — portfolio and pending orders in one transaction

`persistence/execution_store.py`.  The two tables live behind one connection.  A transaction is a
program over both that keeps what it has written when it raises; `applyOrderResultAtomically`
commits it or rolls it back, so a call that raises leaves the store as it was.
-/

namespace TradingAgent

inductive PendingStatus where
  | submitted
  | resolved
  deriving DecidableEq, Repr

structure PendingOrder where
  clientOrderId : String
  symbol : String
  side : OrderSide
  requestedQuantity : ℚ
  signalCandleCloseTimeMs : ℤ
  submittedAtMs : ℤ
  status : PendingStatus
  applied : AppliedExecution := {}
  resolvedOrderStatus : Option OrderStatus := none
  resolvedAtMs : Option ℤ := none
  deriving DecidableEq, Repr

/-- The two tables: `portfolio_state` by symbol, `pending_orders` by client order id. -/
structure ExecutionState where
  portfolios : Dict String PortfolioState := []
  pendingOrders : List PendingOrder := []
  deriving DecidableEq, Repr

/-- The points `_raise_fault_at` names. -/
inductive FaultPoint where
  | beforeWrite
  | afterPortfolioWrite
  | beforeCommit
  deriving DecidableEq, Repr

def FaultPoint.text : FaultPoint → String
  | .beforeWrite => "before_write"
  | .afterPortfolioWrite => "after_portfolio_write"
  | .beforeCommit => "before_commit"

namespace ExecutionState

def loadPortfolio (store : ExecutionState) (symbol : String) : Option PortfolioState :=
  store.portfolios.get? symbol

/-- `save_portfolio` and `_write_portfolio`. -/
def savePortfolio (store : ExecutionState) (symbol : String) (state : PortfolioState) :
    ExecutionState :=
  { store with portfolios := store.portfolios.set symbol state }

def createPending (store : ExecutionState) (clientOrderId symbol : String) (side : OrderSide)
    (requestedQuantity : ℚ) (signalCandleCloseTimeMs submittedAtMs : ℤ) : ExecutionState :=
  { store with
    pendingOrders := KeyedTable.insertNew PendingOrder.clientOrderId store.pendingOrders
      { clientOrderId := clientOrderId
        symbol := symbol
        side := side
        requestedQuantity := requestedQuantity
        signalCandleCloseTimeMs := signalCandleCloseTimeMs
        submittedAtMs := submittedAtMs
        status := .submitted } }

/-- The unresolved orders of a symbol, oldest first. -/
def loadOpenPending (store : ExecutionState) (symbol : String) : List PendingOrder :=
  (store.pendingOrders.filter fun row => row.symbol = symbol ∧ row.status = .submitted).insertionSort
    fun a b => a.submittedAtMs ≤ b.submittedAtMs

def getPending (store : ExecutionState) (clientOrderId : String) : Option PendingOrder :=
  KeyedTable.lookup PendingOrder.clientOrderId store.pendingOrders clientOrderId

def updatePending (store : ExecutionState) (clientOrderId : String)
    (f : PendingOrder → PendingOrder) : ExecutionState :=
  { store with
    pendingOrders :=
      KeyedTable.update PendingOrder.clientOrderId store.pendingOrders clientOrderId f }

end ExecutionState

/-! ## The atomic operation -/

/-- A transaction under way: it keeps its writes when it raises. -/
abbrev Transaction := EStateM PyError ExecutionState

def maybeRaiseFault (raiseFaultAt : Option FaultPoint) (point : FaultPoint) : Transaction Unit :=
  if raiseFaultAt = some point then throw (.injectedFault point.text) else pure ()

@[simp] theorem run_raise {α : Type} (e : PyError) (store : ExecutionState) :
    EStateM.run (throw e : Transaction α) store = .error e store := rfl

@[simp] theorem run_maybeRaiseFault (fault : Option FaultPoint) (point : FaultPoint)
    (store : ExecutionState) :
    (maybeRaiseFault fault point).run store =
      if fault = some point then .error (.injectedFault point.text) store else .ok () store := by
  unfold maybeRaiseFault
  split <;> rfl

/-- What the `UPDATE` writes into the row of a pending order. -/
def PendingOrder.record (pending : PendingOrder) (order : OrderResult)
    (result : OrderApplicationResult) (nowMs : ℤ) : PendingOrder :=
  { pending with
    applied := result.newApplied
    status := if result.isTerminal then .resolved else .submitted
    resolvedOrderStatus := if result.isTerminal then some order.status else none
    resolvedAtMs := if result.isTerminal then some nowMs else none }

/-- The values every call for one symbol passes. -/
structure StoreContext where
  symbol : String
  quoteAsset : String
  baseAsset : String
  fallbackFeePct : ℚ
  decimal : DecimalContext := .exact

def applyOrderResult (ctx : StoreContext) (raiseFaultAt : Option FaultPoint) (order : OrderResult)
    (nowMs : ℤ) : Transaction OrderApplicationResult := do
  match (← get).getPending order.clientOrderId with
  | none => throw (.noPendingRecord order.clientOrderId)
  | some pending =>
      match (← get).loadPortfolio ctx.symbol with
      | none => throw (.noPortfolioState ctx.symbol)
      | some portfolio =>
          maybeRaiseFault raiseFaultAt .beforeWrite
          match computeOrderApplication ctx.decimal order pending.side ctx.quoteAsset ctx.baseAsset
            portfolio pending.applied ctx.fallbackFeePct with
          | .error e => throw e
          | .ok result =>
              modify fun store => store.savePortfolio ctx.symbol result.portfolio
              maybeRaiseFault raiseFaultAt .afterPortfolioWrite
              modify fun store =>
                store.updatePending order.clientOrderId fun row => row.record order result nowMs
              maybeRaiseFault raiseFaultAt .beforeCommit
              return result

/-- Run the transaction; commit when it returns, roll back when it raises. -/
def applyOrderResultAtomically (ctx : StoreContext) (raiseFaultAt : Option FaultPoint)
    (order : OrderResult) (nowMs : ℤ) (store : ExecutionState) :
    Except PyError OrderApplicationResult × ExecutionState :=
  match (applyOrderResult ctx raiseFaultAt order nowMs).run store with
  | .ok result store' => (.ok result, store')
  | .error e _ => (.error e, store)

/-! ## What a call that returns has read and written -/

/-- The rows a committed application read, and the two it wrote. -/
structure Committed (ctx : StoreContext) (order : OrderResult) (nowMs : ℤ) (store : ExecutionState)
    (result : OrderApplicationResult) (store' : ExecutionState) where
  pending : PendingOrder
  portfolio : PortfolioState
  found : store.getPending order.clientOrderId = some pending
  loaded : store.loadPortfolio ctx.symbol = some portfolio
  computed : computeOrderApplication ctx.decimal order pending.side ctx.quoteAsset ctx.baseAsset
    portfolio pending.applied ctx.fallbackFeePct = .ok result
  written : store' = (store.savePortfolio ctx.symbol result.portfolio).updatePending
    order.clientOrderId fun row => row.record order result nowMs

section Transactions

variable {ctx : StoreContext} {fault : Option FaultPoint} {order : OrderResult} {nowMs : ℤ}
variable {store store' : ExecutionState} {result : OrderApplicationResult}

/-- A transaction that reaches its commit met no fault, found both rows and accepted the report. -/
theorem applyOrderResult_eq_ok
    (h : (applyOrderResult ctx fault order nowMs).run store = .ok result store') :
    fault = none ∧ Nonempty (Committed ctx order nowMs store result store') := by
  simp only [applyOrderResult, EStateM.run_bind, EStateM.run_get] at h
  cases hfound : store.getPending order.clientOrderId with
  | none =>
      simp [hfound] at h
  | some pending =>
      cases hloaded : store.loadPortfolio ctx.symbol with
      | none =>
          simp [hfound, hloaded] at h
      | some portfolio =>
          cases hcomputed : computeOrderApplication ctx.decimal order pending.side ctx.quoteAsset
              ctx.baseAsset portfolio pending.applied ctx.fallbackFeePct with
          | error e =>
              by_cases hfault : fault = some .beforeWrite <;>
                simp [hfound, hloaded, hcomputed, hfault] at h
          | ok r =>
              cases fault with
              | some point =>
                  -- whichever point it is, the transaction raises there
                  cases point <;> simp [hfound, hloaded, hcomputed, -bind_pure_comp] at h
              | none =>
                  simp only [hfound, hloaded, hcomputed, EStateM.run_bind, EStateM.run_get,
                    run_maybeRaiseFault, EStateM.run_modify, EStateM.run_pure, reduceCtorEq,
                    if_false, EStateM.Result.ok.injEq] at h
                  rcases h with ⟨rfl, rfl⟩
                  exact ⟨rfl, ⟨pending, portfolio, hfound, hloaded, hcomputed, rfl⟩⟩

/-- A call that returns has committed everything the report changes. -/
theorem applyOrderResultAtomically_eq_ok
    (h : applyOrderResultAtomically ctx fault order nowMs store = (.ok result, store')) :
    fault = none ∧ Nonempty (Committed ctx order nowMs store result store') := by
  unfold applyOrderResultAtomically at h
  split at h
  · rename_i r s hrun
    cases h
    exact applyOrderResult_eq_ok hrun
  · cases h

/-- A call that raises leaves both tables as they were. -/
theorem applyOrderResultAtomically_error {e : PyError}
    (h : applyOrderResultAtomically ctx fault order nowMs store = (.error e, store')) :
    store' = store := by
  unfold applyOrderResultAtomically at h
  split at h
  · cases h
  · cases h
    rfl

/-- With a fault injected the call raises, whichever point it is injected at. -/
theorem applyOrderResultAtomically_fault (point : FaultPoint) :
    ∃ e, applyOrderResultAtomically ctx (some point) order nowMs store = (.error e, store) := by
  cases hcall : applyOrderResultAtomically ctx (some point) order nowMs store with
  | mk outcome s =>
      cases outcome with
      | ok r =>
          have hcommitted := applyOrderResultAtomically_eq_ok hcall
          cases hcommitted.1
      | error e =>
          exact ⟨e, by rw [applyOrderResultAtomically_error hcall]⟩

end Transactions

/-! ## What is read back -/

namespace ExecutionState

variable {store : ExecutionState}

@[simp] theorem loadPortfolio_savePortfolio (symbol : String) (state : PortfolioState) :
    (store.savePortfolio symbol state).loadPortfolio symbol = some state := by
  simp [loadPortfolio, savePortfolio]

theorem loadPortfolio_savePortfolio_of_ne {symbol other : String} (state : PortfolioState)
    (hne : other ≠ symbol) :
    (store.savePortfolio other state).loadPortfolio symbol = store.loadPortfolio symbol := by
  exact Dict.get?_set_of_ne store.portfolios hne.symm state

@[simp] theorem pendingOrders_savePortfolio (symbol : String) (state : PortfolioState) :
    (store.savePortfolio symbol state).pendingOrders = store.pendingOrders := rfl

@[simp] theorem getPending_savePortfolio (symbol id : String) (state : PortfolioState) :
    (store.savePortfolio symbol state).getPending id = store.getPending id := rfl

@[simp] theorem loadPortfolio_updatePending (symbol id : String) (f : PendingOrder → PendingOrder) :
    (store.updatePending id f).loadPortfolio symbol = store.loadPortfolio symbol := rfl

@[simp] theorem loadPortfolio_createPending (symbol id sym : String) (side : OrderSide) (q : ℚ)
    (closeMs nowMs : ℤ) :
    (store.createPending id sym side q closeMs nowMs).loadPortfolio symbol =
      store.loadPortfolio symbol := rfl

theorem getPending_updatePending {f : PendingOrder → PendingOrder}
    (hkey : ∀ row, (f row).clientOrderId = row.clientOrderId) (id id' : String) :
    (store.updatePending id f).getPending id' =
      if id' = id then (store.getPending id).map f else store.getPending id' :=
  KeyedTable.lookup_update hkey store.pendingOrders id id'

/-- A pending order created under a new id is the row found under it, and nothing else changes. -/
theorem getPending_createPending {id symbol : String} {side : OrderSide} {q : ℚ}
    {closeMs nowMs : ℤ} (hnew : store.getPending id = none) (id' : String) :
    (store.createPending id symbol side q closeMs nowMs).getPending id' =
      if id = id' then
        some { clientOrderId := id, symbol := symbol, side := side, requestedQuantity := q,
               signalCandleCloseTimeMs := closeMs, submittedAtMs := nowMs, status := .submitted }
      else store.getPending id' := by
  let row : PendingOrder := ⟨id, symbol, side, q, closeMs, nowMs, .submitted, {}, none, none⟩
  have hlookup : KeyedTable.lookup PendingOrder.clientOrderId store.pendingOrders
      row.clientOrderId = none := hnew
  exact KeyedTable.lookup_insertNew hlookup id'

theorem mem_loadOpenPending {symbol : String} {row : PendingOrder} :
    row ∈ store.loadOpenPending symbol ↔
      row ∈ store.pendingOrders ∧ row.symbol = symbol ∧ row.status = .submitted := by
  simp [loadOpenPending]

theorem nodup_loadOpenPending (h : (store.pendingOrders.map PendingOrder.clientOrderId).Nodup)
    (symbol : String) : ((store.loadOpenPending symbol).map PendingOrder.clientOrderId).Nodup := by
  have hperm := List.perm_insertionSort (fun a b : PendingOrder => a.submittedAtMs ≤ b.submittedAtMs)
    (store.pendingOrders.filter fun row => row.symbol = symbol ∧ row.status = .submitted)
  refine (hperm.map _).nodup_iff.2 ?_
  exact h.sublist (List.filter_sublist.map _)

end ExecutionState

/-- After a committed application the row records it and the portfolio is the computed one. -/
theorem Committed.readBack {ctx : StoreContext} {order : OrderResult} {nowMs : ℤ}
    {store store' : ExecutionState} {result : OrderApplicationResult}
    (c : Committed ctx order nowMs store result store') :
    store'.getPending order.clientOrderId = some (c.pending.record order result nowMs) ∧
      store'.loadPortfolio ctx.symbol = some result.portfolio := by
  have hkey : ∀ row : PendingOrder, (row.record order result nowMs).clientOrderId =
      row.clientOrderId := fun _ => rfl
  have hwritten := c.written
  constructor
  · have hfound : ((store.savePortfolio ctx.symbol result.portfolio).updatePending
        order.clientOrderId fun row => row.record order result nowMs).getPending
        order.clientOrderId = _ :=
      ExecutionState.getPending_updatePending hkey order.clientOrderId order.clientOrderId
    simpa [← hwritten, c.found] using hfound
  · simpa using congrArg (fun s => s.loadPortfolio ctx.symbol) hwritten

end TradingAgent
