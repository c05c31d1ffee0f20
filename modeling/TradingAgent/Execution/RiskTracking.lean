import TradingAgent.Execution.CycleRerun
import TradingAgent.Execution.RiskHistory

/-!
# Risk tracking — the stored risk state over whole runs

Cycles of one symbol run one after the other over the agent's tables, with answers from outside as
they come, and may stop between any two effects; beside the tables goes the log of what was applied
and saved.

* `trackedEnvironment` is that world; its answers may be restricted;
* `OwnFillsOnly` restricts it to runs where whatever there is to track is applied by the cycle that
  sent the order, and saved before the next cycle begins;
* `risk_state_tracks` says that in such runs the stored risk state tracks the log, and
  `reconciled_fill_untracked` that it does not in others.
-/

namespace TradingAgent

open Effects

/-! ## The tables and the log -/

/-- The log, the order the cycle has created a row for, and whether the risk state has not been
saved since something to track was applied. -/
structure RiskHistory where
  log : List HistoryEvent := []
  own : Option String := none
  unsaved : Bool := false

structure TrackedWorld where
  agent : AgentState
  history : RiskHistory

/-- What a committed application adds to the log. -/
def fillEvent (before : ExecutionState) (order : OrderResult) (nowMs : ℤ)
    (result : OrderApplicationResult) : FillEvent where
  day := utcDayKey nowMs
  clientOrderId := order.clientOrderId
  counts := result.isTerminal || decide
    (((before.getPending order.clientOrderId).map fun row => row.applied.executedQty).getD 0 <
      result.newApplied.executedQty)
  pnl := result.realizedPnlDelta

def RiskHistory.apply (h : RiskHistory) (e : FillEvent) : RiskHistory :=
  { h with log := h.log ++ [.applied e], unsaved := h.unsaved || e.matters }

def RiskHistory.record (before : ExecutionState) (h : RiskHistory) :
    (effect : LiveEffect) → effect.Answer → RiskHistory
  | .fetchMarketData _, _ => { h with own := none }
  | .createPending id _ _ _ _ _, _ => { h with own := some id }
  | .applyOrderResult _ _ _, .error _ => h
  | .applyOrderResult _ order nowMs, .ok result => h.apply (fillEvent before order nowMs result)
  | .saveRiskState _ _, _ => { h with log := h.log ++ [.saved], unsaved := false }
  | _, _ => h

/-- The agent's tables and the log, with answers as `meets` allows. -/
def trackedEnvironment (meets : (effect : LiveEffect) → TrackedWorld → effect.Answer → Prop) :
    Environment LiveEffect LiveEffect.Answer TrackedWorld where
  step _ _ := False
  serve effect w answer w' :=
    meets effect w answer ∧ agentServe effect w.agent answer w'.agent ∧
      w'.history = w.history.record w.agent.store effect answer

/-- A report with nothing new: the order is still open, as it was. -/
def StillAsRecorded (store : ExecutionState) (order : OrderResult) : Prop :=
  order.status.isTerminal = false ∧
    ∀ row, store.getPending order.clientOrderId = some row →
      order.executedQty ≤ row.applied.executedQty

/-- A cycle begins with everything saved, on no earlier day than the stored risk state, and what it
applies to an order it has not sent itself is nothing new. -/
def OwnFillsOnly (symbol : String) :
    (effect : LiveEffect) → TrackedWorld → effect.Answer → Prop
  | .fetchMarketData _, w, answer => w.history.unsaved = false ∧
      ∀ market, answer = .ok market → ∀ state, w.agent.riskStates.get? symbol = some state →
        state.dayKey ≤ utcDayKey market.serverTimeMs
  | .applyOrderResult _ order _, w, _ =>
      w.history.own = some order.clientOrderId ∨ StillAsRecorded w.agent.store order
  | _, _, _ => True

/-! ## What the effects do to the books -/

/-- The part of the world the tracking is about. -/
structure Books where
  rows : List PendingOrder
  stored : Option RiskState
  history : RiskHistory

def TrackedWorld.books (symbol : String) (w : TrackedWorld) : Books :=
  ⟨w.agent.store.pendingOrders, w.agent.riskStates.get? symbol, w.history⟩

/-- Every order in the log has its row, and whenever everything is saved the stored risk state
tracks the log. -/
structure BooksInv (barsAfterLoss : ℕ) (b : Books) : Prop where
  rows : ∀ e ∈ fillsOf b.history.log, e.counts = true →
    (KeyedTable.lookup PendingOrder.clientOrderId b.rows e.clientOrderId).isSome = true
  consistent : b.history.unsaved = false → Consistent barsAfterLoss b.history.log b.stored

/-- An effect that leaves the books alone. -/
def LiveEffect.Silent : LiveEffect → Prop
  | .fetchMarketData _ | .createPending .. | .applyOrderResult .. | .saveRiskState .. => False
  | _ => True

section Effects

variable {symbol : String} {barsAfterLoss : ℕ} {w w' : TrackedWorld}
variable {meets : (effect : LiveEffect) → TrackedWorld → effect.Answer → Prop}

theorem LiveEffect.Silent.books {effect : LiveEffect} (h : effect.Silent) {answer : effect.Answer}
    (hserve : (trackedEnvironment meets).serve effect w answer w') :
    w'.books symbol = w.books symbol := by
  rcases hserve with ⟨-, hagent, hhistory⟩
  cases effect with
  | fetchMarketData | createPending | applyOrderResult | saveRiskState => cases h
  | killSwitchEngaged | getAccountBalances =>
      simp only [TrackedWorld.books, hhistory, show w'.agent = w.agent from hagent]
      rfl
  | savePortfolio | journalRecord =>
      simp only [agentServe] at hagent
      simp only [TrackedWorld.books, hhistory, hagent]
      rfl
  | loadPortfolio | loadOpenPending | getPending | loadRiskState | journalEntriesByType | getOrder =>
      simp only [TrackedWorld.books, hhistory, show w'.agent = w.agent from hagent.2]
      rfl
  | placeMarketOrder =>
      simp only [TrackedWorld.books, hhistory, hagent.2]
      rfl

/-- A report with nothing new has nothing to realize. -/
theorem realizedPnlDelta_of_nothingNew {order : OrderResult} {side : OrderSide}
    {quoteAsset baseAsset : String} {portfolio : PortfolioState} {applied : AppliedExecution}
    {fee : ℚ} {result : OrderApplicationResult} (hle : order.executedQty ≤ applied.executedQty)
    (h : computeOrderApplication .exact order side quoteAsset baseAsset portfolio applied fee =
      .ok result) : result.realizedPnlDelta = none := by
  simp only [computeOrderApplication] at h
  split at h
  · cases h
  split at h
  · cases h
  split at h
  · cases h
  split at h
  · cases h
    rfl
  rw [if_pos (show DecimalContext.exact.sub order.executedQty applied.executedQty ≤ 0 from
    sub_nonpos.2 hle)] at h
  cases h
  rfl

theorem isSome_lookup_of_committed {ctx : StoreContext} {order : OrderResult} {nowMs : ℤ}
    {store store' : ExecutionState} {result : OrderApplicationResult}
    (c : Committed ctx order nowMs store result store') {id : String}
    (h : (store.getPending id).isSome = true) : (store'.getPending id).isSome = true := by
  have hkey : ∀ row : PendingOrder, (row.record order result nowMs).clientOrderId =
      row.clientOrderId := fun _ => rfl
  rw [c.written, ExecutionState.getPending_updatePending hkey]
  by_cases hid : id = order.clientOrderId
  · rw [if_pos hid, ExecutionState.getPending_savePortfolio, ← hid]
    simpa using h
  · rw [if_neg hid, ExecutionState.getPending_savePortfolio]
    exact h

/-- A call that raises has changed nothing. -/
theorem books_of_apply_error {ctx : StoreContext} {order : OrderResult} {nowMs : ℤ} {e : PyError}
    (hserve : (trackedEnvironment meets).serve (.applyOrderResult ctx order nowMs) w (.error e) w') :
    w'.books symbol = w.books symbol := by
  rcases hserve with ⟨-, ⟨hanswer, hagent⟩, hhistory⟩
  have hstore := applyOrderResultAtomically_error (Prod.ext hanswer.symm rfl)
  have hsame : w'.agent = w.agent :=
    hagent.trans (congrArg (fun store => { w.agent with store := store }) hstore)
  simp only [TrackedWorld.books, hsame, hhistory]
  rfl

/-- What a call that returns has done to the tables and to the log. -/
theorem committed_of_serve {ctx : StoreContext} {order : OrderResult} {nowMs : ℤ}
    {result : OrderApplicationResult}
    (hserve : (trackedEnvironment meets).serve (.applyOrderResult ctx order nowMs) w (.ok result)
      w') :
    Nonempty (Committed ctx order nowMs w.agent.store result w'.agent.store) ∧
      w'.agent.riskStates = w.agent.riskStates ∧
        w'.history = w.history.apply (fillEvent w.agent.store order nowMs result) := by
  rcases hserve with ⟨-, ⟨hanswer, hagent⟩, hhistory⟩
  have hcall : applyOrderResultAtomically ctx none order nowMs w.agent.store =
      (.ok result, w'.agent.store) := by
    rw [hagent]
    exact Prod.ext hanswer.symm rfl
  exact ⟨(applyOrderResultAtomically_eq_ok hcall).2, by rw [hagent], hhistory⟩

/-- An application keeps the books: until it is saved the log is ahead of the stored risk state. -/
theorem BooksInv.apply_ok {ctx : StoreContext} {order : OrderResult} {nowMs : ℤ}
    {result : OrderApplicationResult} (hinv : BooksInv barsAfterLoss (w.books symbol))
    (committed : Committed ctx order nowMs w.agent.store result w'.agent.store)
    (hrisk : w'.agent.riskStates = w.agent.riskStates)
    (hhistory : w'.history = w.history.apply (fillEvent w.agent.store order nowMs result)) :
    BooksInv barsAfterLoss (w'.books symbol) := by
  refine ⟨?_, ?_⟩
  · intro e he hcounts
    simp only [TrackedWorld.books, hhistory, RiskHistory.apply, fillsOf_applied] at he
    change (w'.agent.store.getPending e.clientOrderId).isSome = true
    rcases List.mem_append.1 he with hold | hnew
    · exact isSome_lookup_of_committed committed (hinv.rows e hold hcounts)
    · cases List.mem_singleton.1 hnew
      change (w'.agent.store.getPending order.clientOrderId).isSome = true
      rw [committed.readBack.1]
      rfl
  · intro hsaved
    simp only [TrackedWorld.books, hhistory, RiskHistory.apply, Bool.or_eq_false_iff] at hsaved
    simp only [TrackedWorld.books, hhistory, hrisk]
    exact (hinv.consistent hsaved.1).quiet hsaved.2

/-- A report with nothing new leaves nothing to save. -/
theorem matters_of_stillAsRecorded {ctx : StoreContext} {order : OrderResult} {nowMs : ℤ}
    {store store' : ExecutionState} {result : OrderApplicationResult}
    (hctx : ctx.decimal = .exact) (hstill : StillAsRecorded store order)
    (committed : Committed ctx order nowMs store result store') :
    (fillEvent store order nowMs result).matters = false := by
  have hle := hstill.2 _ committed.found
  have hcomputed := committed.computed
  rw [hctx] at hcomputed
  have hpnl := realizedPnlDelta_of_nothingNew hle hcomputed
  have hresult : result.newApplied = committed.pending.applied ∧ result.isTerminal = false := by
    rcases (computeOrderApplication_cases hcomputed).2 with hunchanged | happlied
    · exact ⟨hunchanged.sameApplied, hunchanged.terminal.trans hstill.1⟩
    · exact absurd happlied.more (not_lt.2 hle)
  simp [fillEvent, FillEvent.matters, committed.found, hresult.1, hresult.2, hpnl]

end Effects

/-! ## Triples about the books -/

def trackingContract (symbol : String) (barsAfterLoss : ℕ) : Contract LiveEffect TrackedWorld where
  inv w := BooksInv barsAfterLoss (w.books symbol)
  pre _ _ := True

/-- From `P` the program keeps the books, and returns where `Q` holds. -/
def KeepsBooks {α : Type} (symbol : String) (barsAfterLoss : ℕ) (P : Books → Prop)
    (p : LiveProgram α) (Q : α → Books → Prop) : Prop :=
  Triple (trackedEnvironment (OwnFillsOnly symbol)) (trackingContract symbol barsAfterLoss)
    (fun w => BooksInv barsAfterLoss (w.books symbol) ∧ P (w.books symbol)) p
    fun a w => BooksInv barsAfterLoss (w.books symbol) ∧ Q a (w.books symbol)

namespace KeepsBooks

variable {α β : Type} {symbol : String} {barsAfterLoss : ℕ} {P P' : Books → Prop}
variable {Q : α → Books → Prop}

theorem stable {meets : (effect : LiveEffect) → TrackedWorld → effect.Answer → Prop}
    (P : TrackedWorld → Prop) : Stable (trackedEnvironment meets) P :=
  fun _ _ hstep => hstep.elim

theorem pure {a : α} (hpost : ∀ b, P b → Q a b) :
    KeepsBooks symbol barsAfterLoss P (Pure.pure a : LiveProgram α) Q :=
  Triple.done (stable _) (fun _ hw => hw.1) fun _ hw => ⟨hw.1, hpost _ hw.2⟩

theorem raise {e : PyError} : KeepsBooks symbol barsAfterLoss P (TradingAgent.raise e) Q :=
  Triple.fail (stable _) fun _ hw => hw.1

theorem bind {p : LiveProgram α} {f : α → LiveProgram β} {R : β → Books → Prop}
    (hp : KeepsBooks symbol barsAfterLoss P p Q) (hf : ∀ a, KeepsBooks symbol barsAfterLoss (Q a) (f a) R) :
    KeepsBooks symbol barsAfterLoss P (p >>= f) R :=
  Triple.bind hp hf

theorem strengthen {p : LiveProgram α} (hp : KeepsBooks symbol barsAfterLoss P p Q)
    (h : ∀ b, BooksInv barsAfterLoss b → P' b → P b) : KeepsBooks symbol barsAfterLoss P' p Q :=
  Triple.strengthen hp fun w hw => ⟨hw.1, h (w.books symbol) hw.1 hw.2⟩

/-- A program that ends here owes nothing more. -/
theorem finish {a : α} :
    KeepsBooks symbol barsAfterLoss P (Pure.pure a : LiveProgram α) fun _ _ => True :=
  pure fun _ _ => trivial

/-- One effect, after which the books are as its answer says. -/
theorem effect {effect : LiveEffect} {R : effect.Answer → Books → Prop}
    (h : ∀ w answer w', BooksInv barsAfterLoss (w.books symbol) → P (w.books symbol) →
      (trackedEnvironment (OwnFillsOnly symbol)).serve effect w answer w' →
        BooksInv barsAfterLoss (w'.books symbol) ∧ R answer (w'.books symbol)) :
    KeepsBooks symbol barsAfterLoss P (perform effect) R :=
  Triple.request (stable _) (fun _ hw => hw.1) (fun _ _ => trivial)
    (fun w answer w' hw hserve => h w answer w' hw.1 hw.2 hserve)
    fun _ => ⟨stable _, fun _ hw => hw.1⟩

/-- A silent effect whose answer tells something about the books. -/
theorem ask {effect : LiveEffect} (hsilent : effect.Silent) {φ : effect.Answer → Books → Prop}
    (h : ∀ s answer s' history, agentServe effect s answer s' →
      φ answer (TrackedWorld.books symbol ⟨s, history⟩)) :
    KeepsBooks symbol barsAfterLoss P (perform effect) fun answer b => P b ∧ φ answer b := by
  apply KeepsBooks.effect
  intro w answer w' hinv hP hserve
  rw [hsilent.books hserve]
  exact ⟨hinv, hP, h w.agent answer w'.agent w.history hserve.2.1⟩

/-- A program of silent effects keeps any assertion. -/
theorem silent {p : LiveProgram α} (hp : p.Uses LiveEffect.Silent) :
    KeepsBooks symbol barsAfterLoss P p fun _ => P := by
  refine Triple.of_uses (stable _) (fun _ hw => hw.1) (fun _ _ _ _ => trivial) ?_ hp
  intro effect w answer w' hsilent hw hserve
  rw [hsilent.books hserve]
  exact hw

end KeepsBooks

/-! ## Before the decision -/

section Early

open Program

/-- What a cycle does before its decision: it may also apply reports. -/
def LiveEffect.Early : LiveEffect → Prop
  | .applyOrderResult ctx _ _ => ctx.decimal = .exact
  | effect => effect.Silent

/-- Everything is saved, the cycle has sent nothing, and the stored risk state is of no later day. -/
structure Undecided (day : ℤ) (b : Books) : Prop where
  saved : b.history.unsaved = false
  nothingSent : b.history.own = none
  day : ∀ state, b.stored = some state → state.dayKey ≤ day

variable {symbol : String} {barsAfterLoss : ℕ} {day : ℤ}

theorem tracked_early {α : Type} {p : LiveProgram α} (hp : p.Uses LiveEffect.Early) :
    KeepsBooks symbol barsAfterLoss (Undecided day) p fun _ => Undecided day := by
  refine Triple.of_uses (KeepsBooks.stable _) (fun _ hw => hw.1) (fun _ _ _ _ => trivial) ?_ hp
  intro effect w answer w' hearly hw hserve
  have hsilent : effect.Silent → BooksInv barsAfterLoss (w'.books symbol) ∧
      Undecided day (w'.books symbol) := by
    intro h
    rw [h.books hserve]
    exact hw
  cases effect with
  | applyOrderResult ctx order nowMs =>
      have hstill : StillAsRecorded w.agent.store order := by
        rcases hserve.1 with hown | hstill
        · rw [show w.history.own = none from hw.2.nothingSent] at hown
          cases hown
        · exact hstill
      cases answer with
      | error e =>
          rw [books_of_apply_error hserve]
          exact hw
      | ok result =>
          rcases committed_of_serve hserve with ⟨⟨committed⟩, hrisk, hhistory⟩
          have hmatters := matters_of_stillAsRecorded hearly hstill committed
          refine ⟨hw.1.apply_ok committed hrisk hhistory, ?_, ?_, ?_⟩
          · simpa [TrackedWorld.books, hhistory, RiskHistory.apply, hmatters] using hw.2.saved
          · simpa [TrackedWorld.books, hhistory, RiskHistory.apply] using hw.2.nothingSent
          · intro state hstate
            apply hw.2.day state
            rw [← hstate, TrackedWorld.books, TrackedWorld.books, hrisk]
  | fetchMarketData | createPending | saveRiskState => cases hearly
  | _ => exact hsilent hearly

theorem early_journalRecord (entryType : EntryType) (payload : Payload) (timestampMs : ℤ) :
    (journalRecord entryType payload timestampMs).Uses LiveEffect.Early :=
  Uses.request trivial

theorem early_raise {α : Type} (e : PyError) : (raise e : LiveProgram α).Uses LiveEffect.Early :=
  Uses.fail e

theorem early_fetchBalances : fetchBalances.Uses LiveEffect.Early := by
  refine Uses.bind (Uses.request trivial) ?_
  intro answer
  cases answer with
  | ok balances => exact Uses.pure _
  | error e => exact Uses.fail _

theorem early_seedPortfolio (ctx : StoreContext) (filters : SymbolFilters) :
    (seedPortfolio ctx filters).Uses LiveEffect.Early := by
  refine Uses.bind (Uses.request trivial) ?_
  intro stored
  cases stored with
  | some portfolio => exact Uses.pure _
  | none =>
      refine Uses.bind (early_fetchBalances.bind ?_) fun _ => Uses.request trivial
      intro balances
      by_cases hdust : balanceTotal balances ctx.baseAsset ≥ filters.minQty
      · simpa only [hdust, if_true] using early_raise _
      · simpa only [hdust, if_false] using Uses.pure _

theorem early_applyAtomically {ctx : StoreContext} (hctx : ctx.decimal = .exact)
    (order : OrderResult) (nowMs : ℤ) :
    (applyAtomically ctx order nowMs).Uses LiveEffect.Early := by
  refine Uses.bind (Uses.request hctx) ?_
  intro answer
  cases answer with
  | ok result => exact Uses.pure _
  | error e => exact Uses.fail _

theorem early_reconcileOrder (symbol id : String) :
    (reconcileOrder symbol id).Uses LiveEffect.Early := by
  refine Uses.bind (Uses.request trivial) ?_
  intro answer
  cases answer with
  | ok order => exact Uses.pure _
  | error e =>
      cases e with
      | request text | other text => exact Uses.fail _
      | api statusCode code message =>
          by_cases hcode : code = some orderDoesNotExistCode
          · simpa only [hcode, if_true] using Uses.pure _
          · simpa only [hcode, if_false] using Uses.pure _

theorem early_reconcilePendingOrder {ctx : StoreContext} (hctx : ctx.decimal = .exact) (nowMs : ℤ)
    (pending : PendingOrder) :
    (reconcilePendingOrder ctx nowMs pending).Uses LiveEffect.Early := by
  refine (early_reconcileOrder _ _).bind ?_
  rintro ⟨status, order⟩
  have happly : ∀ order, (applyReconciled ctx nowMs pending order).Uses LiveEffect.Early := by
    intro order
    refine (early_applyAtomically hctx _ _).bind fun result => (early_journalRecord _ _ _).bind ?_
    intro _
    by_cases hterminal : result.isTerminal = true
    · simpa only [hterminal, if_true] using Uses.pure _
    · simpa only [if_neg hterminal] using Uses.pure _
  simp only
  split
  · exact (early_applyAtomically hctx _ _).bind fun _ => (early_journalRecord _ _ _).bind fun _ =>
      Uses.pure _
  · exact happly _
  · exact happly _
  · exact (early_journalRecord _ _ _).bind fun _ => Uses.pure _

theorem early_reconcilePendingOrders {ctx : StoreContext} (hctx : ctx.decimal = .exact)
    (nowMs : ℤ) : (reconcilePendingOrders ctx nowMs).Uses LiveEffect.Early := by
  refine Uses.bind (Uses.request trivial) ?_
  intro rows
  induction rows with
  | nil => exact Uses.pure _
  | cons pending rest ih =>
      refine (early_reconcilePendingOrder hctx nowMs pending).bind ?_
      intro result
      cases result with
      | none => exact ih
      | some blocked => exact Uses.pure _

theorem early_reconcileBalances (ctx : StoreContext) :
    (reconcileBalances ctx).Uses LiveEffect.Early := by
  refine Uses.bind (Uses.request trivial) ?_
  intro answer
  cases answer with
  | none => exact Uses.pure _
  | some portfolio => exact early_fetchBalances.bind fun _ => Uses.pure _

theorem early_recordDiscrepancy (balances : Bool × Option String) (nowMs : ℤ) :
    (recordDiscrepancy balances nowMs).Uses LiveEffect.Early := by
  unfold recordDiscrepancy
  split
  · exact early_journalRecord _ _ _
  · exact Uses.pure _

end Early

/-! ## The decision -/

section Decision

open Program

variable {symbol : String} {barsAfterLoss : ℕ} {c : CycleContext}

theorem silent_journalRecord (entryType : EntryType) (payload : Payload) (timestampMs : ℤ) :
    (journalRecord entryType payload timestampMs).Uses LiveEffect.Silent :=
  Uses.request trivial

/-- This risk state may be saved. -/
def MaySave (barsAfterLoss : ℕ) (riskState : RiskState) (b : Books) : Prop :=
  Consistent barsAfterLoss (b.history.log ++ [.saved]) (some riskState)

theorem tracked_saveRiskState (riskState : RiskState) :
    KeepsBooks symbol barsAfterLoss (MaySave barsAfterLoss riskState)
      (perform (.saveRiskState symbol riskState)) fun _ _ => True := by
  apply KeepsBooks.effect
  intro w answer w' hinv hmay hserve
  rcases hserve with ⟨-, hagent, hhistory⟩
  have hagent : w'.agent = { w.agent with
      riskStates := w.agent.riskStates.set symbol riskState } := hagent
  have hhistory : w'.history = { w.history with
      log := w.history.log ++ [.saved], unsaved := false } := hhistory
  have hstored : w'.agent.riskStates.get? symbol = some riskState := by
    rw [hagent]
    exact Dict.get?_set_self ..
  refine ⟨⟨?_, ?_⟩, trivial⟩
  · intro e he hcounts
    simp only [TrackedWorld.books, hhistory, fillsOf_saved] at he
    simp only [TrackedWorld.books, hagent]
    exact hinv.rows e he hcounts
  · intro _
    simp only [TrackedWorld.books, hhistory, hstored]
    exact hmay

theorem tracked_endCycle (riskState : RiskState) (result : CycleResult) :
    KeepsBooks symbol barsAfterLoss (MaySave barsAfterLoss riskState)
      (endCycle symbol riskState result) fun _ _ => True :=
  (tracked_saveRiskState riskState).bind fun _ => KeepsBooks.finish

/-- The risk state has been rolled, and nothing has been sent since. -/
structure Rolled (barsAfterLoss : ℕ) (c : CycleContext) (b : Books) : Prop where
  saved : b.history.unsaved = false
  maySave : MaySave barsAfterLoss c.riskState b

theorem tracked_noTrade (hsymbol : c.store.symbol = symbol) (reasonCode : String)
    (detail : Payload) :
    KeepsBooks symbol barsAfterLoss (Rolled barsAfterLoss c) (noTrade c reasonCode detail)
      fun _ _ => True := by
  subst hsymbol
  exact (tracked_endCycle _ _).strengthen fun _ _ h => h.maySave

theorem tracked_finished {α : Type} (hsymbol : c.store.symbol = symbol) (reasonCode : String)
    {Q : Stage α → Books → Prop} (hQ : ∀ result b, Q (.finished result) b) :
    KeepsBooks symbol barsAfterLoss (Rolled barsAfterLoss c)
      (do return .finished (← noTrade c reasonCode)) Q :=
  (tracked_noTrade hsymbol reasonCode []).bind fun _ => KeepsBooks.pure fun b _ => hQ _ b

/-- No row has this id yet. -/
def NoRow (id : String) (b : Books) : Prop :=
  KeyedTable.lookup PendingOrder.clientOrderId b.rows id = none

/-- What goes through `gateExit` is an order that has no row yet. -/
def GatedBooks (barsAfterLoss : ℕ) (c : CycleContext) : Stage ℚ → Books → Prop
  | .finished _, _ => True
  | .proceed _, b => Rolled barsAfterLoss c b ∧ NoRow c.clientOrderId b

theorem tracked_gateExit (hsymbol : c.store.symbol = symbol) :
    KeepsBooks symbol barsAfterLoss (Rolled barsAfterLoss c) (gateExit c)
      (GatedBooks barsAfterLoss c) := by
  have hfinished : ∀ reasonCode, KeepsBooks symbol barsAfterLoss (Rolled barsAfterLoss c)
      (do return .finished (← noTrade c reasonCode)) (GatedBooks barsAfterLoss c) :=
    fun reasonCode => tracked_finished hsymbol reasonCode fun _ _ => trivial
  refine (KeepsBooks.silent (Program.Uses.ofExcept _)).bind ?_
  intro sizing
  refine (KeepsBooks.silent (silent_journalRecord _ _ _)).bind ?_
  intro _
  split
  · -- whether the id has a row decides whether the order is a duplicate
    have hfound : KeepsBooks symbol barsAfterLoss (Rolled barsAfterLoss c)
        (perform (.getPending c.clientOrderId)) fun found b => Rolled barsAfterLoss c b ∧
          (found.isSome = false → NoRow c.clientOrderId b) := by
      apply KeepsBooks.ask (by trivial)
      intro s answer s' history hserve hnone
      rw [hserve.1, Option.isSome_eq_false_iff, Option.isNone_iff_eq_none] at hnone
      exact hnone
    refine hfound.bind ?_
    intro found
    refine KeepsBooks.bind (KeepsBooks.silent (Uses.request trivial)) ?_
    intro submitted
    refine KeepsBooks.bind (KeepsBooks.silent (Uses.request trivial)) ?_
    intro engaged
    refine (KeepsBooks.silent (silent_journalRecord _ _ _)).bind ?_
    intro _
    split
    · exact (hfinished _).strengthen fun _ _ h => h.1
    · rename_i hallowed
      refine (KeepsBooks.silent (Program.Uses.ofExcept _)).bind ?_
      intro validation
      refine (KeepsBooks.silent (silent_journalRecord _ _ _)).bind ?_
      intro _
      split
      · apply KeepsBooks.pure
        intro b hb
        refine ⟨hb.1, hb.2 ?_⟩
        have hopen := (RiskEngine.evaluate_exit_approved_iff rfl).1 (by simpa using hallowed)
        exact (Bool.or_eq_false_iff.1 hopen.notDuplicate).1
      · exact (hfinished _).strengthen fun _ _ h => h.1
  · exact hfinished _

/-- The order has its row, as created, and is in no application of the log. -/
structure Sending (barsAfterLoss : ℕ) (c : CycleContext) (b : Books) : Prop extends
    Rolled barsAfterLoss c b where
  own : b.history.own = some c.clientOrderId
  row : ∃ row, KeyedTable.lookup PendingOrder.clientOrderId b.rows c.clientOrderId = some row ∧
    row.applied.executedQty = 0
  notInLog : ∀ e ∈ fillsOf b.history.log, e.counts = true → e.clientOrderId ≠ c.clientOrderId

theorem tracked_createPending (quantity : ℚ) (side : OrderSide) (closeMs nowMs : ℤ) :
    KeepsBooks symbol barsAfterLoss (fun b => Rolled barsAfterLoss c b ∧ NoRow c.clientOrderId b)
      (perform (.createPending c.clientOrderId c.store.symbol side quantity closeMs nowMs))
      fun _ => Sending barsAfterLoss c := by
  apply KeepsBooks.effect
  rintro w answer w' hinv ⟨hrolled, hnone⟩ ⟨-, hagent, hhistory⟩
  have hagent : w'.agent = { w.agent with
      store := w.agent.store.createPending c.clientOrderId c.store.symbol side quantity closeMs
        nowMs } := hagent
  have hhistory : w'.history = { w.history with own := some c.clientOrderId } := hhistory
  -- one row is new, every other one is as it was
  have hlookup : ∀ id, w'.agent.store.getPending id = if c.clientOrderId = id then
      some ⟨c.clientOrderId, c.store.symbol, side, quantity, closeMs, nowMs, .submitted, {}, none,
        none⟩ else w.agent.store.getPending id := by
    intro id
    rw [hagent]
    exact ExecutionState.getPending_createPending hnone id
  refine ⟨⟨?_, ?_⟩, ⟨?_, ?_⟩, ?_, ?_, ?_⟩
  · intro e he hcounts
    simp only [TrackedWorld.books, hhistory] at he
    change (w'.agent.store.getPending e.clientOrderId).isSome = true
    rw [hlookup]
    split
    · rfl
    · exact hinv.rows e he hcounts
  · simp only [TrackedWorld.books, hhistory, hagent]
    exact hinv.consistent
  · simpa only [TrackedWorld.books, hhistory] using hrolled.saved
  · simpa only [MaySave, TrackedWorld.books, hhistory] using hrolled.maySave
  · simp only [TrackedWorld.books, hhistory]
  · refine ⟨_, (hlookup c.clientOrderId).trans (if_pos rfl), rfl⟩
  · intro e he hcounts heq
    simp only [TrackedWorld.books, hhistory] at he
    have hrow := hinv.rows e he hcounts
    rw [heq, show KeyedTable.lookup PendingOrder.clientOrderId (w.books symbol).rows
      c.clientOrderId = none from hnone] at hrow
    cases hrow

/-- A request keeps the books, and an order it is answered with is the one asked for. -/
theorem tracked_placeMarketOrder {P : Books → Prop} (sym : String) (side : OrderSide)
    (quantity : ℚ) (id : String) :
    KeepsBooks symbol barsAfterLoss P (perform (.placeMarketOrder sym side quantity id))
      fun answer b => P b ∧ AnswersFor id answer :=
  KeepsBooks.ask (by trivial) fun _ _ _ _ hserve => hserve.1

theorem tracked_getOrder {P : Books → Prop} (sym id : String) :
    KeepsBooks symbol barsAfterLoss P (perform (.getOrder sym id))
      fun answer b => P b ∧ AnswersFor id answer :=
  KeepsBooks.ask (by trivial) fun _ _ _ _ hserve => hserve.1

theorem tracked_reconcileOrder {P : Books → Prop} (sym id : String) :
    KeepsBooks symbol barsAfterLoss P (reconcileOrder sym id) fun r b =>
      P b ∧ ∀ order, r.2 = some order → order.clientOrderId = id := by
  refine (tracked_getOrder sym id).bind ?_
  intro answer
  cases answer with
  | ok order =>
      apply KeepsBooks.pure
      rintro b ⟨hb, hfor⟩
      refine ⟨hb, ?_⟩
      intro order' heq
      cases heq
      exact hfor
  | error e =>
      cases e with
      | request text | other text => exact KeepsBooks.raise
      | api statusCode code message =>
          by_cases hcode : code = some orderDoesNotExistCode
          · simp only [hcode, if_true]
            exact KeepsBooks.pure fun b hb => ⟨hb.1, fun _ h => by cases h⟩
          · simp only [hcode, if_false]
            exact KeepsBooks.pure fun b hb => ⟨hb.1, fun _ h => by cases h⟩

/-- How a stage of the submission leaves the books. -/
def SubmittedBooks (barsAfterLoss : ℕ) (c : CycleContext) : Stage OrderResult → Books → Prop
  | .finished _, _ => True
  | .proceed order, b => Sending barsAfterLoss c b ∧ order.clientOrderId = c.clientOrderId

theorem tracked_failSubmission (hsymbol : c.store.symbol = symbol) (payload : Payload)
    (reasonCode : String) (detail : Payload) :
    KeepsBooks symbol barsAfterLoss (Sending barsAfterLoss c)
      (failSubmission c payload reasonCode detail) (SubmittedBooks barsAfterLoss c) := by
  subst hsymbol
  refine KeepsBooks.bind ((tracked_saveRiskState _).strengthen fun _ _ hb => hb.maySave.errors _) ?_
  intro _
  refine (KeepsBooks.silent (silent_journalRecord _ _ _)).bind ?_
  intro _
  exact KeepsBooks.pure fun _ _ => trivial

theorem tracked_resolveSubmission (hsymbol : c.store.symbol = symbol) (quantity : ℚ) :
    KeepsBooks symbol barsAfterLoss (Sending barsAfterLoss c) (resolveSubmission c quantity)
      (SubmittedBooks barsAfterLoss c) := by
  refine (tracked_reconcileOrder _ _).bind ?_
  rintro ⟨status, reconciled⟩
  refine (KeepsBooks.silent (silent_journalRecord _ _ _)).bind ?_
  intro _
  have hfail : ∀ payload reasonCode detail, KeepsBooks symbol barsAfterLoss (Sending barsAfterLoss c)
      (failSubmission c payload reasonCode detail) (SubmittedBooks barsAfterLoss c) :=
    tracked_failSubmission hsymbol
  split
  · refine (tracked_placeMarketOrder _ _ _ _).bind ?_
    intro answer
    cases answer with
    | ok order => exact KeepsBooks.pure fun b hb => ⟨hb.1.1, hb.2⟩
    | error e =>
        cases e with
        | other text => exact KeepsBooks.raise
        | api _ _ _ | request _ => exact (hfail _ _ _).strengthen fun _ _ hb => hb.1.1
  · split
    · exact KeepsBooks.pure fun b hb => ⟨hb.1, hb.2 _ rfl⟩
    · exact KeepsBooks.pure fun b hb => ⟨hb.1, hb.2 _ rfl⟩
    · exact (hfail _ _ _).strengthen fun _ _ hb => hb.1

theorem tracked_submitOrder (hsymbol : c.store.symbol = symbol) (quantity : ℚ) :
    KeepsBooks symbol barsAfterLoss (fun b => Rolled barsAfterLoss c b ∧ NoRow c.clientOrderId b)
      (submitOrder c quantity) (SubmittedBooks barsAfterLoss c) := by
  refine (tracked_createPending _ _ _ _).bind ?_
  intro _
  refine (KeepsBooks.silent (silent_journalRecord _ _ _)).bind ?_
  intro _
  refine (tracked_placeMarketOrder _ _ _ _).bind ?_
  intro answer
  cases answer with
  | ok order => exact KeepsBooks.pure fun b hb => hb
  | error e =>
      cases e with
      | other text => exact KeepsBooks.raise
      | request text => exact (tracked_resolveSubmission hsymbol _).strengthen fun _ _ hb => hb.1
      | api _ _ _ => exact (tracked_failSubmission hsymbol _ _ _).strengthen fun _ _ hb => hb.1

/-- The outcome of the cycle's own order is applied; its risk state may be saved. -/
theorem tracked_applyAtomically {config : RiskConfig}
    (hbars : config.cooldownBarsAfterLoss = barsAfterLoss)
    (hday : c.riskState.dayKey = utcDayKey c.market.serverTimeMs) {order : OrderResult} :
    KeepsBooks symbol barsAfterLoss
      (fun b => Sending barsAfterLoss c b ∧ order.clientOrderId = c.clientOrderId)
      (applyAtomically c.store order c.market.serverTimeMs) fun result =>
        MaySave barsAfterLoss (riskStateAfter config c.riskState result) := by
  have heffect : KeepsBooks symbol barsAfterLoss
      (fun b => Sending barsAfterLoss c b ∧ order.clientOrderId = c.clientOrderId)
      (perform (.applyOrderResult c.store order c.market.serverTimeMs)) fun answer b =>
        ∀ result, answer = .ok result →
          MaySave barsAfterLoss (riskStateAfter config c.riskState result) b := by
    apply KeepsBooks.effect
    rintro w answer w' hinv ⟨hsending, hid⟩ hserve
    cases answer with
    | error e =>
        rw [books_of_apply_error hserve]
        exact ⟨hinv, fun _ h => by cases h⟩
    | ok result =>
        rcases committed_of_serve hserve with ⟨⟨committed⟩, hrisk, hhistory⟩
        let e := fillEvent w.agent.store order c.market.serverTimeMs result
        -- the row is the one just submitted, with nothing applied yet
        have hrow : committed.pending.applied.executedQty = 0 := by
          rcases hsending.row with ⟨row, hrow, hzero⟩
          have hfound := committed.found
          rw [hid] at hfound
          obtain rfl := Option.some.inj (hfound.symm.trans hrow)
          exact hzero
        have hcounts : e.counts = true ↔
            0 < result.newApplied.executedQty ∨ result.isTerminal = true := by
          simp [e, fillEvent, committed.found, hrow, or_comm]
        -- so this is the order's first fill, and it counts once
        have hnew : e.clientOrderId ∉ ordersOn w.history.log e.day := by
          intro hmem
          rcases mem_ordersOn.1 hmem with ⟨e', he', hcounts', -, hsame⟩
          exact hsending.notInLog e' he' hcounts' (hsame.trans hid)
        have hconsistent := hinv.consistent hsending.saved
        refine ⟨hinv.apply_ok committed hrisk hhistory, ?_⟩
        intro result' heq
        cases heq
        simp only [MaySave, TrackedWorld.books, hhistory]
        exact hsending.maySave.fill hconsistent.settled hday.symm hbars hnew hcounts rfl
  refine heffect.bind ?_
  intro answer
  cases answer with
  | ok result => exact KeepsBooks.pure fun b hb => hb result rfl
  | error e => exact KeepsBooks.raise

theorem tracked_applyOutcome (hsymbol : c.store.symbol = symbol)
    (hbars : c.runner.config.risk.cooldownBarsAfterLoss = barsAfterLoss)
    (hday : c.riskState.dayKey = utcDayKey c.market.serverTimeMs) {order : OrderResult} :
    KeepsBooks symbol barsAfterLoss
      (fun b => Sending barsAfterLoss c b ∧ order.clientOrderId = c.clientOrderId)
      (applyOutcome c order) fun _ _ => True := by
  subst hsymbol
  refine (tracked_applyAtomically hbars hday).bind ?_
  intro result
  refine (KeepsBooks.silent (silent_journalRecord _ _ _)).bind ?_
  intro _
  exact tracked_endCycle _ _

theorem tracked_actOnSignal (hsymbol : c.store.symbol = symbol)
    (hbars : c.runner.config.risk.cooldownBarsAfterLoss = barsAfterLoss)
    (hday : c.riskState.dayKey = utcDayKey c.market.serverTimeMs) (signal : Signal)
    (balances : Bool × Option String) :
    KeepsBooks symbol barsAfterLoss (Rolled barsAfterLoss c) (actOnSignal c signal balances)
      fun _ _ => True := by
  have hnoTrade : ∀ reasonCode detail, KeepsBooks symbol barsAfterLoss (Rolled barsAfterLoss c)
      (noTrade c reasonCode detail) fun _ _ => True :=
    tracked_noTrade hsymbol
  refine (KeepsBooks.silent (silent_journalRecord _ _ _)).bind ?_
  intro _
  split
  · subst hsymbol
    exact (tracked_endCycle _ _).strengthen fun _ _ h => h.maySave
  · exact (KeepsBooks.silent (silent_journalRecord _ _ _)).bind fun _ => hnoTrade _ _
  · split
    · exact (KeepsBooks.silent (silent_journalRecord _ _ _)).bind fun _ => hnoTrade _ _
    · refine (tracked_gateExit hsymbol).bind ?_
      intro stage
      cases stage with
      | finished result => exact KeepsBooks.finish
      | proceed quantity =>
          refine (tracked_submitOrder hsymbol quantity).bind ?_
          intro outcome
          cases outcome with
          | finished result => exact KeepsBooks.finish
          | proceed order => exact tracked_applyOutcome hsymbol hbars hday

end Decision

/-! ## A whole cycle -/

section Cycle

variable {symbol : String} {barsAfterLoss : ℕ} {runner : LiveRunner} {ctx : StoreContext}

theorem tracked_tradeOnMarket (hctx : ctx.decimal = .exact) (hsymbol : ctx.symbol = symbol)
    (hbars : runner.config.risk.cooldownBarsAfterLoss = barsAfterLoss) (market : MarketData) :
    KeepsBooks symbol barsAfterLoss (Undecided (utcDayKey market.serverTimeMs))
      (tradeOnMarket runner ctx market) fun _ _ => True := by
  refine (tracked_early (early_seedPortfolio ctx market.filters)).bind ?_
  intro _
  refine (tracked_early (early_reconcilePendingOrders hctx market.serverTimeMs)).bind ?_
  intro pendingResult
  split
  · exact KeepsBooks.finish
  · refine KeepsBooks.bind (tracked_early (Program.Uses.request trivial)) ?_
    intro loaded
    cases loaded with
    | none => exact KeepsBooks.raise
    | some portfolio =>
        refine (tracked_early (early_reconcileBalances ctx)).bind ?_
        intro balances
        refine (tracked_early (early_recordDiscrepancy _ _)).bind ?_
        intro _
        -- the risk state read here is the stored one, and is rolled to the day of the cycle
        have hload : KeepsBooks symbol barsAfterLoss (Undecided (utcDayKey market.serverTimeMs))
            (perform (.loadRiskState ctx.symbol)) fun stored b =>
              Undecided (utcDayKey market.serverTimeMs) b ∧ stored = b.stored := by
          apply KeepsBooks.ask (by trivial)
          intro s answer s' history hserve
          rw [hsymbol] at hserve
          exact hserve.1
        refine hload.bind ?_
        intro stored
        refine (KeepsBooks.silent (Program.Uses.ofExcept _)).bind ?_
        intro signal
        refine (tracked_actOnSignal hsymbol hbars (rollRiskState_dayKey _ _ _) signal _).strengthen ?_
        rintro b hinv ⟨hsettled, rfl⟩
        exact ⟨hsettled.saved, (hinv.consistent hsettled.saved).roll hsettled.day _⟩

/-- Every cycle of the symbol keeps the books, at every point between two of its effects. -/
theorem tracked_runTestnetCycle (hsymbol : runner.config.market.symbol = symbol)
    (hbars : runner.config.risk.cooldownBarsAfterLoss = barsAfterLoss) :
    KeepsBooks symbol barsAfterLoss (fun _ => True) (runTestnetCycle runner) fun _ _ => True := by
  refine (KeepsBooks.silent (Program.Uses.ofExcept _)).bind ?_
  intro quoteAsset
  have hfetch : KeepsBooks symbol barsAfterLoss (fun _ => True)
      (perform (.fetchMarketData runner.config.market.symbol)) fun answer b =>
        ∀ market, answer = .ok market → Undecided (utcDayKey market.serverTimeMs) b := by
    apply KeepsBooks.effect
    rintro w answer w' hinv - ⟨⟨hsaved, hday⟩, hagent, hhistory⟩
    have hagent : w'.agent = w.agent := hagent
    have hhistory : w'.history = { w.history with own := none } := hhistory
    refine ⟨⟨?_, ?_⟩, ?_⟩
    · simpa only [TrackedWorld.books, hagent, hhistory] using hinv.rows
    · simpa only [TrackedWorld.books, hagent, hhistory] using hinv.consistent
    · intro market hmarket
      refine ⟨?_, ?_, ?_⟩
      · simpa only [TrackedWorld.books, hhistory] using hsaved
      · simp only [TrackedWorld.books, hhistory]
      · simpa only [TrackedWorld.books, hagent] using hday market hmarket
  refine hfetch.bind ?_
  intro fetched
  cases fetched with
  | ok market =>
      exact (tracked_tradeOnMarket rfl hsymbol hbars market).strengthen fun _ _ h => h market rfl
  | error e =>
      cases e with
      | clockDrift text | unavailable text =>
          refine (KeepsBooks.silent (silent_journalRecord _ _ _)).bind ?_
          intro _
          exact KeepsBooks.finish

end Cycle

/-! ## Whole runs -/

/-- The cycles of one symbol under one cooldown, whatever the rest of the configuration. -/
def CycleUnder (symbol : String) (barsAfterLoss : ℕ) (p : LiveProgram CycleResult) : Prop :=
  ∃ runner : LiveRunner, runner.config.market.symbol = symbol ∧
    runner.config.risk.cooldownBarsAfterLoss = barsAfterLoss ∧ p = runTestnetCycle runner

abbrev TrackedState := Machine LiveEffect LiveEffect.Answer TrackedWorld PyError CycleResult

/-- Before the first cycle no risk state is stored and nothing is in the log. -/
structure TrackedWorld.Fresh (symbol : String) (w : TrackedWorld) : Prop where
  noneStored : w.agent.riskStates.get? symbol = none
  noHistory : w.history = {}

namespace LateFill

/-- One base unit, bought at 110. -/
def world : TrackedWorld where
  agent :=
    { store := { portfolios := [("BTCUSDT", ⟨0, 1, .long, some 110, 0, 0, false⟩)] }
      riskStates := []
      journal := []
      posted := [] }
  history := {}

/-- A report about a sale at 100. -/
def report (status : OrderStatus) (executedQty : ℚ) (id : String) : OrderResult where
  orderId := 1
  clientOrderId := id
  status := status
  executedQty := executedQty
  cumulativeQuoteQty := 100 * executedQty
  transactTimeMs := 14399999

/-- A request is answered with the order open or filled, a query with the order filled. -/
def choose (atOnce : Bool) (effect : LiveEffect) (w : TrackedWorld) :
    effect.Answer × TrackedWorld :=
  let reply : effect.Answer × AgentState :=
    match effect with
    | .getOrder _ id => (.ok (report .filled 1 id), w.agent)
    | .placeMarketOrder _ _ _ id =>
        (.ok (if atOnce then report .filled 1 id else report .new 0 id),
          { w.agent with posted := id :: w.agent.posted })
    | effect => HoldTwice.seen.choose effect w.agent
  (reply.1, ⟨reply.2, w.history.record w.agent.store effect reply.1⟩)

theorem serve_choose (atOnce : Bool)
    {meets : (effect : LiveEffect) → TrackedWorld → effect.Answer → Prop} (effect : LiveEffect)
    (w : TrackedWorld) (h : meets effect w (choose atOnce effect w).1) :
    (trackedEnvironment meets).serve effect w (choose atOnce effect w).1
      (choose atOnce effect w).2 := by
  refine ⟨h, ?_, rfl⟩
  cases effect with
  | getOrder symbol id => exact ⟨rfl, rfl⟩
  | placeMarketOrder symbol side quantity id =>
      refine ⟨?_, rfl⟩
      cases atOnce <;> exact rfl
  | _ => exact (HoldTwice.seen.serve_choose _ w.agent).2

/-- The world after one cycle. -/
def afterCycle (atOnce : Bool) (w : TrackedWorld) : TrackedWorld :=
  (Machine.follow (choose atOnce) 60 ⟨w, some (runTestnetCycle OneExit.runner)⟩).world

theorem cycleUnder_runner : CycleUnder "BTCUSDT" 2 (runTestnetCycle OneExit.runner) :=
  ⟨OneExit.runner, rfl, rfl, rfl⟩

/-- Where the log and the tables allow the next effect: all is saved at a cycle's begin, and a report
is about the cycle's own order. -/
def ok (effect : LiveEffect) (w : TrackedWorld) : Bool :=
  match effect with
  | .fetchMarketData _ =>
      !w.history.unsaved && (w.agent.riskStates.get? "BTCUSDT").all fun state => state.dayKey ≤ 0
  | .applyOrderResult _ order _ => w.history.own = some order.clientOrderId
  | _ => true

theorem ownFillsOnly_of_ok (atOnce : Bool) (effect : LiveEffect) (w : TrackedWorld)
    (h : ok effect w = true) : OwnFillsOnly "BTCUSDT" effect w (choose atOnce effect w).1 := by
  cases effect with
  | fetchMarketData symbol =>
      rcases Bool.and_eq_true_iff.1 h with ⟨hsaved, hday⟩
      refine ⟨by simpa using hsaved, ?_⟩
      intro market hmarket state hstate
      cases hmarket
      rw [hstate] at hday
      exact of_decide_eq_true hday
  | applyOrderResult ctx order nowMs => exact Or.inl (of_decide_eq_true h)
  | _ => trivial

end LateFill

end TradingAgent
