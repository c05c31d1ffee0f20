import TradingAgent.Execution.LiveRunner
import Mathlib.Logic.Function.Basic

/-!
# Exchange — the world a live cycle runs in

The exchange holds at most one order for each client order id and the requests that have been sent
and not yet been decided.  It accepts or drops a request, and fills, cancels or expires an open
order, at any time; what it reports are the order's true figures.

* `ExchangeStep` is what the exchange does by itself;
* `LiveWorld` adds the agent's databases, and a log of what each application of a report took from
  the stored base balance, which no program reads;
* `liveEnvironment` says what each effect of a cycle may answer, network failures included.
-/

namespace TradingAgent

/-- An order as the exchange knows it. -/
structure ExchangeOrder where
  executedQty : ℚ
  cumulativeQuoteQty : ℚ
  status : OrderStatus
  deriving DecidableEq, Repr

structure Exchange where
  orders : String → Option ExchangeOrder
  inFlight : List String

namespace Exchange

/-- The executed quantity of an order, zero where there is none. -/
def executed (exchange : Exchange) (id : String) : ℚ :=
  (exchange.orders id).elim 0 ExchangeOrder.executedQty

def setOrder (exchange : Exchange) (id : String) (order : ExchangeOrder) : Exchange :=
  { exchange with orders := Function.update exchange.orders id (some order) }

/-- Send a request: it will be decided later, or not at all. -/
def send (exchange : Exchange) (id : String) : Exchange :=
  { exchange with inFlight := id :: exchange.inFlight }

/-- No request for this order will be executed any more. -/
def forget (exchange : Exchange) (id : String) : Exchange :=
  { exchange with inFlight := exchange.inFlight.filter (· ≠ id) }

end Exchange

/-- What may happen to an order that is still open: its figures grow and its status changes. -/
structure OrderStep (before after : ExchangeOrder) : Prop where
  open' : before.status.isTerminal = false
  executed : before.executedQty ≤ after.executedQty
  quote : before.cumulativeQuoteQty ≤ after.cumulativeQuoteQty

inductive ExchangeStep : Exchange → Exchange → Prop where
  /-- A request becomes an order, unless there is one under its id. -/
  | accept {exchange : Exchange} {id : String} :
      id ∈ exchange.inFlight → exchange.orders id = none →
        ExchangeStep exchange
          ({ exchange with inFlight := exchange.inFlight.erase id }.setOrder id ⟨0, 0, .new⟩)
  | drop {exchange : Exchange} {id : String} :
      id ∈ exchange.inFlight →
        ExchangeStep exchange { exchange with inFlight := exchange.inFlight.erase id }
  | progress {exchange : Exchange} {id : String} {before after : ExchangeOrder} :
      exchange.orders id = some before → OrderStep before after →
        ExchangeStep exchange (exchange.setOrder id after)

/-- The report of an order: its true figures at the time of the answer. -/
structure Reports (exchange : Exchange) (id : String) (report : OrderResult) : Prop where
  sameOrder : report.clientOrderId = id
  figures : exchange.orders id =
    some ⟨report.executedQty, report.cumulativeQuoteQty, report.status⟩

/-! ## The world -/

structure LiveWorld where
  store : ExecutionState
  exchange : Exchange
  riskStates : Dict String RiskState
  journal : List JournalEntry
  /-- By how much each application of a report lowered the stored base balance, by client order
  id. -/
  applied : List (String × ℚ)
  /-- The client order ids of all requests ever sent. -/
  posted : List String

/-- The base balance of the portfolio stored for a symbol, zero before one is. -/
def ExecutionState.storedBase (store : ExecutionState) (symbol : String) : ℚ :=
  (store.loadPortfolio symbol).elim 0 PortfolioState.baseBalance

/-- The base quantity taken from the portfolio on behalf of an order. -/
def appliedTotal (applied : List (String × ℚ)) (id : String) : ℚ :=
  ((applied.filter fun entry => entry.1 = id).map Prod.snd).sum

/-- The base quantity taken from the portfolio by all orders. -/
def appliedSum (applied : List (String × ℚ)) : ℚ :=
  (applied.map Prod.snd).sum

@[simp] theorem appliedTotal_append (applied : List (String × ℚ)) (entry : String × ℚ)
    (id : String) : appliedTotal (applied ++ [entry]) id =
      appliedTotal applied id + if entry.1 = id then entry.2 else 0 := by
  by_cases h : entry.1 = id <;> simp [appliedTotal, h]

@[simp] theorem appliedSum_append (applied : List (String × ℚ)) (entry : String × ℚ) :
    appliedSum (applied ++ [entry]) = appliedSum applied + entry.2 := by
  simp [appliedSum]

/-- What an effect may answer, and the world after it. -/
def serveEffect : (effect : LiveEffect) → LiveWorld → effect.Answer → LiveWorld → Prop
  | .fetchMarketData _, w, _, w' => w' = w
  | .killSwitchEngaged, w, _, w' => w' = w
  | .loadPortfolio symbol, w, answer, w' => answer = w.store.loadPortfolio symbol ∧ w' = w
  | .savePortfolio symbol state, w, _, w' =>
      w' = { w with store := w.store.savePortfolio symbol state }
  | .loadOpenPending symbol, w, answer, w' => answer = w.store.loadOpenPending symbol ∧ w' = w
  | .getPending id, w, answer, w' => answer = w.store.getPending id ∧ w' = w
  | .createPending id symbol side quantity closeMs nowMs, w, _, w' =>
      w' = { w with store := w.store.createPending id symbol side quantity closeMs nowMs }
  | .applyOrderResult ctx order nowMs, w, answer, w' =>
      answer = (applyOrderResultAtomically ctx none order nowMs w.store).1 ∧
        w' = { w with
          store := (applyOrderResultAtomically ctx none order nowMs w.store).2
          applied := w.applied ++ [(order.clientOrderId, w.store.storedBase ctx.symbol -
            (applyOrderResultAtomically ctx none order nowMs w.store).2.storedBase ctx.symbol)] }
  | .loadRiskState symbol, w, answer, w' => answer = w.riskStates.get? symbol ∧ w' = w
  | .saveRiskState symbol state, w, _, w' =>
      w' = { w with riskStates := w.riskStates.set symbol state }
  | .journalRecord entryType payload timestampMs, w, _, w' =>
      w' = { w with journal := w.journal ++ [⟨timestampMs, entryType, payload⟩] }
  | .journalEntriesByType entryType, w, answer, w' =>
      answer = w.journal.filter (fun entry => entry.entryType = entryType) ∧ w' = w
  | .getAccountBalances, w, _, w' => w' = w
  | .getOrder _ id, w, answer, w' =>
      match answer with
      | .ok report => Reports w.exchange id report ∧ w' = w
      | .error (.api _ code _) =>
          if code = some orderDoesNotExistCode then
            -- no earlier request of this id was or will be executed
            w.exchange.orders id = none ∧ w' = { w with exchange := w.exchange.forget id }
          else w' = w
      | .error _ => w' = w
  | .placeMarketOrder _ _ _ id, w, answer, w' =>
      ∃ exchange, Relation.ReflTransGen ExchangeStep (w.exchange.send id) exchange ∧
        w' = { w with exchange := exchange, posted := id :: w.posted } ∧
        match answer with
        | .ok report => Reports exchange id report
        | .error _ => True

def liveEnvironment : Effects.Environment LiveEffect LiveEffect.Answer LiveWorld where
  step w w' := ∃ exchange, ExchangeStep w.exchange exchange ∧ w' = { w with exchange := exchange }
  serve := serveEffect

/-! ## What the exchange cannot undo -/

/-- An order whose executed quantity is final: it is terminal, or there is none and none will be. -/
structure Final (exchange : Exchange) (id : String) (quantity : ℚ) : Prop where
  executed : exchange.executed id = quantity
  closed : match exchange.orders id with
    | some order => order.status.isTerminal = true
    | none => id ∉ exchange.inFlight

namespace ExchangeStep

variable {exchange exchange' : Exchange}

theorem executed_le (h : ExchangeStep exchange exchange') (id : String) :
    exchange.executed id ≤ exchange'.executed id := by
  cases h with
  | @accept id' hin hnone =>
      by_cases hid : id = id'
      · subst hid
        simp [Exchange.executed, Exchange.setOrder, hnone]
      · simp [Exchange.executed, Exchange.setOrder, Function.update_of_ne hid]
  | drop hin => exact le_rfl
  | @progress id' before after hbefore hstep =>
      by_cases hid : id = id'
      · subst hid
        simpa [Exchange.executed, Exchange.setOrder, hbefore] using hstep.executed
      · simp [Exchange.executed, Exchange.setOrder, Function.update_of_ne hid]

theorem final (h : ExchangeStep exchange exchange') {id : String} {quantity : ℚ}
    (hfinal : Final exchange id quantity) : Final exchange' id quantity := by
  have hclosed := hfinal.closed
  cases h with
  | @accept id' hin hnone =>
      -- an order that may still be accepted is not final
      have hid : id ≠ id' := by
        intro heq
        subst heq
        rw [hnone] at hclosed
        exact hclosed hin
      refine ⟨?_, ?_⟩
      · simpa [Exchange.executed, Exchange.setOrder, Function.update_of_ne hid] using
          hfinal.executed
      · simp only [Exchange.setOrder, Function.update_of_ne hid]
        cases horder : exchange.orders id with
        | some order => simpa [horder] using hclosed
        | none =>
            rw [horder] at hclosed
            exact fun hmem => hclosed (List.mem_of_mem_erase hmem)
  | drop hin =>
      refine ⟨hfinal.executed, ?_⟩
      cases horder : exchange.orders id with
      | some order => simpa [horder] using hclosed
      | none =>
          rw [horder] at hclosed
          exact fun hmem => hclosed (List.mem_of_mem_erase hmem)
  | @progress id' before after hbefore hstep =>
      -- nor is one that still makes progress
      have hid : id ≠ id' := by
        intro heq
        subst heq
        rw [hbefore] at hclosed
        have hopen := hstep.open'
        rw [hclosed] at hopen
        cases hopen
      refine ⟨?_, ?_⟩
      · simpa [Exchange.executed, Exchange.setOrder, Function.update_of_ne hid] using
          hfinal.executed
      · simpa [Exchange.setOrder, Function.update_of_ne hid] using hclosed

end ExchangeStep

/-- A request of another order leaves what is final as it is. -/
theorem Final.send {exchange : Exchange} {id other : String} {quantity : ℚ}
    (h : Final exchange id quantity) (hne : id ≠ other) :
    Final (exchange.send other) id quantity := by
  refine ⟨h.executed, ?_⟩
  have hclosed := h.closed
  simp only [Exchange.send]
  cases horder : exchange.orders id with
  | some order => simpa [horder] using hclosed
  | none =>
      rw [horder] at hclosed
      exact fun hmem => (List.mem_cons.1 hmem).elim hne hclosed

theorem Final.forget {exchange : Exchange} {id other : String} {quantity : ℚ}
    (h : Final exchange id quantity) : Final (exchange.forget other) id quantity := by
  refine ⟨h.executed, ?_⟩
  have hclosed := h.closed
  simp only [Exchange.forget]
  cases horder : exchange.orders id with
  | some order => simpa [horder] using hclosed
  | none =>
      rw [horder] at hclosed
      exact fun hmem => hclosed (List.mem_of_mem_filter hmem)

/-- An order that does not exist and is forgotten is final at zero. -/
theorem Final.of_forget {exchange : Exchange} {id : String} (h : exchange.orders id = none) :
    Final (exchange.forget id) id 0 := by
  refine ⟨by simp [Exchange.executed, Exchange.forget, h], ?_⟩
  simp [Exchange.forget, h]

end TradingAgent
