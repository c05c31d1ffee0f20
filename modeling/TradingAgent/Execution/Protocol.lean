import TradingAgent.Execution.Exchange

/-!
# Order protocol — no lost and no duplicated fill

The invariant that ties the durable rows, the quantities applied and the exchange's orders, at every
point between two effects of every cycle.

* `ProtocolInv` is the invariant, `Alone` and `NothingOpen` what the submit path knows on top of it;
* `Steady` assertions are those the exchange's own steps cannot falsify;
* `RowWritten` is what writing one row may do, and `RowWritten.protocolInv` that it keeps the
  invariant;
* `ProtocolInv.send`, `.createPending` and `.apply` are what the three writes of a cycle do to it;
  what is applied is measured on the stored base balance.
-/

namespace TradingAgent

/-! ## The invariant -/

/-- The part of the world the protocol is about. -/
structure ProtocolState where
  store : ExecutionState
  exchange : Exchange
  applied : List (String × ℚ)
  posted : List String

def LiveWorld.protocol (w : LiveWorld) : ProtocolState :=
  ⟨w.store, w.exchange, w.applied, w.posted⟩

namespace ProtocolState

def row (s : ProtocolState) (id : String) : Option PendingOrder :=
  s.store.getPending id

end ProtocolState

/-- An unresolved row of the symbol. -/
def PendingOrder.IsOpen (symbol : String) (row : PendingOrder) : Prop :=
  row.symbol = symbol ∧ row.status = .submitted

structure ProtocolInv (symbol : String) (s : ProtocolState) : Prop where
  keys : (s.store.pendingOrders.map PendingOrder.clientOrderId).Nodup
  sells : ∀ id row, s.row id = some row → row.side = .sell
  oneOpen : ∀ id id' row row', s.row id = some row → s.row id' = some row' →
    row.IsOpen symbol → row'.IsOpen symbol → id = id'
  applied : ∀ id, appliedTotal s.applied id = (s.row id).elim 0 fun row => row.applied.executedQty
  nonneg : ∀ id row, s.row id = some row → 0 ≤ row.applied.executedQty
  bounded : ∀ id row, s.row id = some row → row.applied.executedQty ≤ s.exchange.executed id
  settled : ∀ id row, s.row id = some row → row.status = .resolved →
    Final s.exchange id row.applied.executedQty
  posted : ∀ id ∈ s.posted, s.row id ≠ none
  executed : ∀ id, 0 ≤ s.exchange.executed id

/-- No row of the symbol is unresolved. -/
def NothingOpen (symbol : String) (s : ProtocolState) : Prop :=
  ∀ id row, s.row id = some row → ¬row.IsOpen symbol

/-- `row` is unresolved, and the only such row of the symbol. -/
structure Alone (symbol : String) (row : PendingOrder) (s : ProtocolState) : Prop where
  found : s.row row.clientOrderId = some row
  isOpen : row.IsOpen symbol
  only : ∀ id row', s.row id = some row' → row'.IsOpen symbol → id = row.clientOrderId

/-- A report that may be applied: it shows no more than was executed, and what it closes is
closed. -/
structure ReportFor (exchange : Exchange) (order : OrderResult) : Prop where
  executed : order.executedQty ≤ exchange.executed order.clientOrderId
  final : order.status.isTerminal = true → Final exchange order.clientOrderId order.executedQty

/-- An order report is one that may be applied. -/
theorem Reports.reportFor {exchange : Exchange} {id : String} {report : OrderResult}
    (h : Reports exchange id report) : ReportFor exchange report := by
  have hfigures := h.figures
  rw [← h.sameOrder] at hfigures
  have hexecuted : exchange.executed report.clientOrderId = report.executedQty := by
    simp [Exchange.executed, hfigures]
  refine ⟨hexecuted.ge, ?_⟩
  intro hterminal
  refine ⟨hexecuted, ?_⟩
  rw [hfigures]
  exact hterminal

/-! ## Assertions about the protocol -/

/-- An assertion the exchange's own steps cannot falsify. -/
def Steady (P : ProtocolState → Prop) : Prop :=
  ∀ s exchange, ExchangeStep s.exchange exchange → P s → P { s with exchange := exchange }

theorem Steady.stable {P : ProtocolState → Prop} (h : Steady P) :
    Effects.Stable liveEnvironment fun w => P w.protocol := by
  intro w w' hstep hw
  rcases hstep with ⟨exchange, hexchange, rfl⟩
  exact h w.protocol exchange hexchange hw

/-- Nor can any number of them. -/
theorem Steady.steps {P : ProtocolState → Prop} (h : Steady P) {s : ProtocolState}
    {exchange : Exchange} (hsteps : Relation.ReflTransGen ExchangeStep s.exchange exchange)
    (hs : P s) : P { s with exchange := exchange } := by
  induction hsteps with
  | refl => exact hs
  | @tail before after _ hstep ih => exact h { s with exchange := before } after hstep ih

theorem Steady.and {P Q : ProtocolState → Prop} (hP : Steady P) (hQ : Steady Q) :
    Steady fun s => P s ∧ Q s := by
  intro s exchange hstep hs
  exact ⟨hP s exchange hstep hs.1, hQ s exchange hstep hs.2⟩

theorem Steady.const (φ : Prop) : Steady fun _ => φ := by
  intro s exchange _ hs
  exact hs

theorem Steady.imp {φ : Prop} {P : ProtocolState → Prop} (hP : Steady P) :
    Steady fun s => φ → P s := by
  intro s exchange hstep hs hφ
  exact hP s exchange hstep (hs hφ)

theorem Steady.forall {ι : Sort*} {P : ι → ProtocolState → Prop} (h : ∀ i, Steady (P i)) :
    Steady fun s => ∀ i, P i s := by
  intro s exchange hstep hs i
  exact h i s exchange hstep (hs i)

/-- What is said about the agent's tables only is steady. -/
theorem Steady.store (φ : ExecutionState → Prop) : Steady fun s => φ s.store := by
  intro s exchange _ hs
  exact hs

theorem ProtocolInv.steady (symbol : String) : Steady (ProtocolInv symbol) := by
  intro s exchange hstep h
  exact
    { keys := h.keys
      sells := h.sells
      oneOpen := h.oneOpen
      applied := h.applied
      nonneg := h.nonneg
      bounded := fun id row hrow => (h.bounded id row hrow).trans (hstep.executed_le id)
      settled := fun id row hrow hresolved => hstep.final (h.settled id row hrow hresolved)
      posted := h.posted
      executed := fun id => (h.executed id).trans (hstep.executed_le id) }

theorem NothingOpen.steady (symbol : String) : Steady (NothingOpen symbol) := by
  intro s exchange _ h
  exact h

theorem Alone.steady (symbol : String) (row : PendingOrder) : Steady (Alone symbol row) := by
  intro s exchange _ h
  exact ⟨h.found, h.isOpen, h.only⟩

theorem ReportFor.steady (order : OrderResult) : Steady fun s => ReportFor s.exchange order := by
  intro s exchange hstep h
  exact ⟨h.executed.trans (hstep.executed_le _), fun hterminal => hstep.final (h.final hterminal)⟩

theorem Final.steady (id : String) (quantity : ℚ) : Steady fun s => Final s.exchange id quantity := by
  intro s exchange hstep h
  exact hstep.final h

/-! ## What the writes do to the invariant -/

namespace ProtocolInv

variable {symbol : String} {s : ProtocolState}

/-- Forgetting requests keeps the invariant. -/
theorem forget (h : ProtocolInv symbol s) (id : String) :
    ProtocolInv symbol { s with exchange := s.exchange.forget id } :=
  { keys := h.keys
    sells := h.sells
    oneOpen := h.oneOpen
    applied := h.applied
    nonneg := h.nonneg
    bounded := h.bounded
    settled := fun id' row hrow hresolved => (h.settled id' row hrow hresolved).forget
    posted := h.posted
    executed := h.executed }

/-- Sending the only unresolved order keeps it. -/
theorem send (h : ProtocolInv symbol s) {row : PendingOrder} (halone : Alone symbol row s) :
    ProtocolInv symbol { s with
      exchange := s.exchange.send row.clientOrderId
      posted := row.clientOrderId :: s.posted } := by
  refine
    { keys := h.keys
      sells := h.sells
      oneOpen := h.oneOpen
      applied := h.applied
      nonneg := h.nonneg
      bounded := h.bounded
      settled := ?_
      posted := ?_
      executed := h.executed }
  · intro id row' hrow hresolved
    refine (h.settled id row' hrow hresolved).send ?_
    intro heq
    subst heq
    -- the row sent is unresolved, so it is another one
    have hsame : row' = row := Option.some.inj (hrow.symm.trans halone.found)
    rw [hsame, halone.isOpen.2] at hresolved
    cases hresolved
  · intro id hid
    rcases List.mem_cons.1 hid with rfl | hold
    · simp only [ne_eq]
      intro hnone
      exact Option.some_ne_none _ (halone.found.symm.trans hnone)
    · exact h.posted id hold

end ProtocolInv

/-- The row `create_pending` inserts. -/
def submittedRow (id symbol : String) (side : OrderSide) (quantity : ℚ) (closeMs nowMs : ℤ) :
    PendingOrder where
  clientOrderId := id
  symbol := symbol
  side := side
  requestedQuantity := quantity
  signalCandleCloseTimeMs := closeMs
  submittedAtMs := nowMs
  status := .submitted

/-! ## Writing a row -/

/-- `s'` is `s` with one row written, which accounts for what was applied under its id. -/
structure RowWritten (symbol : String) (new : PendingOrder) (s s' : ProtocolState) : Prop where
  rows : ∀ id, s'.row id = if id = new.clientOrderId then some new else s.row id
  keys : (s'.store.pendingOrders.map PendingOrder.clientOrderId).Nodup
  sells : new.side = .sell
  exchange : s'.exchange = s.exchange
  posted : s'.posted = s.posted
  others : ∀ id, id ≠ new.clientOrderId → appliedTotal s'.applied id = appliedTotal s.applied id
  applied : appliedTotal s'.applied new.clientOrderId = new.applied.executedQty
  nonneg : 0 ≤ new.applied.executedQty
  bounded : new.applied.executedQty ≤ s.exchange.executed new.clientOrderId
  settled : new.status = .resolved → Final s.exchange new.clientOrderId new.applied.executedQty
  alone : ∀ id row, s.row id = some row → row.IsOpen symbol → id = new.clientOrderId

namespace RowWritten

variable {symbol : String} {new : PendingOrder} {s s' : ProtocolState}

theorem found (h : RowWritten symbol new s s') : s'.row new.clientOrderId = some new := by
  rw [h.rows, if_pos rfl]

/-- A row found afterwards is the one written, or was there before. -/
theorem row_cases (h : RowWritten symbol new s s') {id : String} {row : PendingOrder}
    (hfound : s'.row id = some row) :
    id = new.clientOrderId ∧ row = new ∨ s.row id = some row := by
  rw [h.rows] at hfound
  split at hfound
  · rename_i heq
    exact Or.inl ⟨heq, (Option.some.inj hfound).symm⟩
  · exact Or.inr hfound

/-- An open row is the one written. -/
theorem eq_of_open (h : RowWritten symbol new s s') {id : String} {row : PendingOrder}
    (hfound : s'.row id = some row) (hopen : row.IsOpen symbol) :
    id = new.clientOrderId ∧ row = new := by
  rcases h.row_cases hfound with hwritten | hold
  · exact hwritten
  · have heq := h.alone id row hold hopen
    rw [heq] at hfound
    exact ⟨heq, Option.some.inj (hfound.symm.trans h.found)⟩

theorem protocolInv (h : RowWritten symbol new s s') (hinv : ProtocolInv symbol s) :
    ProtocolInv symbol s' := by
  constructor
  case keys => exact h.keys
  case sells =>
      intro id row hfound
      rcases h.row_cases hfound with ⟨rfl, rfl⟩ | hold
      · exact h.sells
      · exact hinv.sells id row hold
  case oneOpen =>
      intro id id' row row' hfound hfound' hopen hopen'
      exact (h.eq_of_open hfound hopen).1.trans (h.eq_of_open hfound' hopen').1.symm
  case applied =>
      intro id
      -- the written row has the total it claims, the others have theirs
      by_cases heq : id = new.clientOrderId
      · subst heq
        rw [h.applied, h.found]
        rfl
      · rw [h.others id heq, h.rows, if_neg heq]
        exact hinv.applied id
  case nonneg =>
      intro id row hfound
      rcases h.row_cases hfound with ⟨rfl, rfl⟩ | hold
      · exact h.nonneg
      · exact hinv.nonneg id row hold
  case bounded =>
      intro id row hfound
      rw [h.exchange]
      rcases h.row_cases hfound with ⟨rfl, rfl⟩ | hold
      · exact h.bounded
      · exact hinv.bounded id row hold
  case settled =>
      intro id row hfound hresolved
      rw [h.exchange]
      rcases h.row_cases hfound with ⟨rfl, rfl⟩ | hold
      · exact h.settled hresolved
      · exact hinv.settled id row hold hresolved
  case posted =>
      intro id hid
      rw [h.posted] at hid
      rw [h.rows]
      split
      · exact Option.some_ne_none new
      · exact hinv.posted id hid
  case executed =>
      rw [h.exchange]
      exact hinv.executed

theorem isAlone (h : RowWritten symbol new s s') (hopen : new.IsOpen symbol) :
    Alone symbol new s' where
  found := h.found
  isOpen := hopen
  only := fun _ _ hfound hopen' => (h.eq_of_open hfound hopen').1

theorem nothingOpen (h : RowWritten symbol new s s') (hclosed : ¬new.IsOpen symbol) :
    NothingOpen symbol s' := by
  intro id row hfound hopen
  exact hclosed ((h.eq_of_open hfound hopen).2 ▸ hopen)

end RowWritten

section Writes

variable {symbol : String} {w : LiveWorld}

/-- Storing a portfolio leaves the invariant alone. -/
theorem ProtocolInv.savePortfolio (h : ProtocolInv symbol w.protocol) (sym : String)
    (state : PortfolioState) {w' : LiveWorld}
    (hw' : w' = { w with store := w.store.savePortfolio sym state }) :
    ProtocolInv symbol w'.protocol := by
  subst hw'
  exact ⟨h.keys, h.sells, h.oneOpen, h.applied, h.nonneg, h.bounded, h.settled, h.posted,
    h.executed⟩

/-- A report that is refused takes nothing. -/
theorem ProtocolInv.refused (h : ProtocolInv symbol w.protocol) (id : String) {w' : LiveWorld}
    (hw' : w' = { w with applied := w.applied ++ [(id, 0)] }) :
    ProtocolInv symbol w'.protocol := by
  subst hw'
  refine ⟨h.keys, h.sells, h.oneOpen, ?_, h.nonneg, h.bounded, h.settled, h.posted, h.executed⟩
  intro id'
  have happlied := h.applied id'
  change appliedTotal (w.applied ++ [(id, 0)]) id' = _
  rw [appliedTotal_append, ite_self, add_zero]
  exact happlied

/-- Creating a row under a new id while nothing is open leaves it the only open one. -/
theorem ProtocolInv.createPending (h : ProtocolInv symbol w.protocol)
    (hnothing : NothingOpen symbol w.protocol) {id : String} (hnew : w.protocol.row id = none)
    (quantity : ℚ) (closeMs nowMs : ℤ) {w' : LiveWorld}
    (hw' : w' = { w with
      store := w.store.createPending id symbol .sell quantity closeMs nowMs }) :
    ProtocolInv symbol w'.protocol ∧
      Alone symbol (submittedRow id symbol .sell quantity closeMs nowMs) w'.protocol := by
  have hwritten : RowWritten symbol (submittedRow id symbol .sell quantity closeMs nowMs) w.protocol
      w'.protocol := by
    subst hw'
    constructor
    case rows =>
        intro id'
        refine (ExecutionState.getPending_createPending hnew id').trans ?_
        simp only [submittedRow, eq_comm]
        rfl
    case keys => exact KeyedTable.nodup_insertNew h.keys _
    case sells => rfl
    case exchange => rfl
    case posted => rfl
    case others => exact fun _ _ => rfl
    case applied =>
        -- nothing was applied under an id without a row
        have happlied := h.applied id
        rw [hnew] at happlied
        exact happlied
    case nonneg => exact le_rfl
    case bounded => exact h.executed id
    case settled =>
        intro hresolved
        cases hresolved
    case alone =>
        intro id' row hfound hopen
        exact absurd hopen (hnothing id' row hfound)
  exact ⟨hwritten.protocolInv h, hwritten.isAlone ⟨rfl, rfl⟩⟩

/-- What applying a report to a SELL row comes to: the row shows what the report shows, and the
portfolio holds less by what the row has gained. -/
structure Advances (row : PendingOrder) (order : OrderResult) (portfolio : PortfolioState)
    (result : OrderApplicationResult) : Prop where
  taken : portfolio.baseBalance - result.portfolio.baseBalance =
    result.newApplied.executedQty - row.applied.executedQty
  le : result.newApplied.executedQty ≤ order.executedQty
  all : order.status.isTerminal = true → result.newApplied.executedQty = order.executedQty
  terminal : result.isTerminal = order.status.isTerminal
  nonneg : 0 ≤ result.newApplied.executedQty

theorem advances_of_computed {row : PendingOrder} {order : OrderResult}
    {result : OrderApplicationResult} {quoteAsset baseAsset : String} {portfolio : PortfolioState}
    {fallbackFeePct : ℚ} (hsell : row.side = .sell)
    (h : computeOrderApplication .exact order row.side quoteAsset baseAsset portfolio row.applied
      fallbackFeePct = .ok result) (hnonneg : 0 ≤ row.applied.executedQty) :
    Advances row order portfolio result := by
  rcases computeOrderApplication_cases h with ⟨haccepted, hsame | hnew⟩
  · constructor
    case taken => simp [hsame.sameApplied, hsame.samePortfolio]
    case le =>
        rw [hsame.sameApplied]
        exact haccepted.executed
    case all =>
        intro hterminal
        rw [hsame.sameApplied]
        rcases hsame.nothingNew with hstatus | heq
        · rw [hstatus] at hterminal
          cases hterminal
        · exact heq.symm
    case terminal => exact hsame.terminal
    case nonneg =>
        rw [hsame.sameApplied]
        exact hnonneg
  · have hexecuted : result.newApplied.executedQty = order.executedQty := by
      rw [hnew.advanced]
      rfl
    constructor
    case taken =>
        have hfilled := hnew.filled
        rw [hsell] at hfilled
        have hbalances := applyFillDelta_balances hfilled
        rw [hexecuted, hbalances.2.1]
        ring
    case le => exact hexecuted.le
    case all => exact fun _ => hexecuted
    case terminal => exact hnew.terminal
    case nonneg =>
        rw [hexecuted]
        exact hnonneg.trans hnew.more.le

/-- The row of a committed report is resolved exactly when the report is terminal. -/
theorem Advances.status_record {row : PendingOrder} {order : OrderResult}
    {portfolio : PortfolioState} {result : OrderApplicationResult}
    (h : Advances row order portfolio result) (nowMs : ℤ) :
    (row.record order result nowMs).status = .submitted ↔ order.status.isTerminal = false := by
  cases hclosed : order.status.isTerminal with
  | true => simp [PendingOrder.record, h.terminal, hclosed]
  | false => simp [PendingOrder.record, h.terminal, hclosed]

/-- Applying a report that may be applied to the only open row keeps the invariant; a terminal one
leaves nothing open. -/
theorem ProtocolInv.apply (h : ProtocolInv symbol w.protocol) {row : PendingOrder}
    (halone : Alone symbol row w.protocol) {ctx : StoreContext} (hctx : ctx.decimal = .exact)
    {order : OrderResult} {nowMs : ℤ} (hid : order.clientOrderId = row.clientOrderId)
    (hreport : ReportFor w.exchange order) {result : OrderApplicationResult}
    {store' : ExecutionState} (c : Committed ctx order nowMs w.store result store') {w' : LiveWorld}
    (hw' : w' = { w with
      store := store'
      applied := w.applied ++ [(order.clientOrderId,
        w.store.storedBase ctx.symbol - store'.storedBase ctx.symbol)] }) :
    ProtocolInv symbol w'.protocol ∧ result.isTerminal = order.status.isTerminal ∧
      (order.status.isTerminal = true → NothingOpen symbol w'.protocol) := by
  have hpending : c.pending = row := by
    have hfound := c.found
    rw [hid] at hfound
    exact Option.some.inj (hfound.symm.trans halone.found)
  have hcomputed := c.computed
  rw [hctx, hpending] at hcomputed
  have hsell := h.sells _ row halone.found
  have hadvances := advances_of_computed hsell hcomputed (h.nonneg _ row halone.found)
  -- the base balance stored before and after is that of the two portfolios
  have htaken : w.store.storedBase ctx.symbol - store'.storedBase ctx.symbol =
      result.newApplied.executedQty - row.applied.executedQty := by
    rw [ExecutionState.storedBase, ExecutionState.storedBase, c.loaded, c.readBack.2]
    exact hadvances.taken
  have hkey : ∀ r : PendingOrder, (r.record order result nowMs).clientOrderId = r.clientOrderId :=
    fun _ => rfl
  have hpendings : store'.pendingOrders = KeyedTable.update PendingOrder.clientOrderId
      w.store.pendingOrders order.clientOrderId fun r => r.record order result nowMs := by
    rw [c.written]
    rfl
  have hwritten : RowWritten symbol (row.record order result nowMs) w.protocol w'.protocol := by
    subst hw'
    constructor
    case rows =>
        intro id'
        have hfound : KeyedTable.lookup PendingOrder.clientOrderId w.store.pendingOrders
            row.clientOrderId = some row := halone.found
        change KeyedTable.lookup PendingOrder.clientOrderId store'.pendingOrders id' =
          if id' = _ then _ else KeyedTable.lookup PendingOrder.clientOrderId w.store.pendingOrders id'
        rw [hpendings, hid, KeyedTable.lookup_update hkey, hfound]
        rfl
    case keys =>
        change (store'.pendingOrders.map PendingOrder.clientOrderId).Nodup
        rw [hpendings, KeyedTable.map_key_update hkey]
        exact h.keys
    case sells => exact hsell
    case exchange => rfl
    case posted => rfl
    case others =>
        intro id' hne
        have hother : row.clientOrderId ≠ id' := fun heq => hne heq.symm
        change appliedTotal (w.applied ++ _) id' = appliedTotal w.applied id'
        rw [appliedTotal_append, hid]
        simp [hother]
    case applied =>
        -- the row gains what the log does
        have happlied := h.applied row.clientOrderId
        rw [halone.found] at happlied
        change appliedTotal w.applied _ = _ at happlied
        change appliedTotal (w.applied ++ _) row.clientOrderId = _
        rw [appliedTotal_append, hid, happlied, htaken]
        simp [PendingOrder.record]
    case nonneg => exact hadvances.nonneg
    case bounded =>
        change result.newApplied.executedQty ≤ w.exchange.executed row.clientOrderId
        rw [← hid]
        exact hadvances.le.trans hreport.executed
    case settled =>
        intro hresolved
        have hclosed : order.status.isTerminal = true := by
          by_contra hopen
          rw [(hadvances.status_record nowMs).2 (by simpa using hopen)] at hresolved
          cases hresolved
        have hfinal := hreport.final hclosed
        rw [hid, ← hadvances.all hclosed] at hfinal
        exact hfinal
    case alone => exact halone.only
  refine ⟨hwritten.protocolInv h, hadvances.terminal, ?_⟩
  intro hclosed
  refine hwritten.nothingOpen ?_
  intro hopen
  rw [(hadvances.status_record nowMs).1 hopen.2] at hclosed
  cases hclosed

end Writes

end TradingAgent
