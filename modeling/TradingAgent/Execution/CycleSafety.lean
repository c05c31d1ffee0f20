import TradingAgent.Execution.Protocol

/-!
# Cycle safety — every cycle keeps the order protocol

Each function of the live runner has its triple, assembled from those of its effects.  The effects
that touch neither the rows nor the exchange are quiet, and the functions made of them keep any
assertion; the others are the submit path.

* `protocolContract` says where the three writes of the protocol may be asked for;
* `keeps_runTestnetCycle` is the triple of a whole cycle.
-/

namespace TradingAgent

open Effects

/-! ## The contract -/

/-- A SELL row is created while nothing is open, a request is sent for the only open row, and a
report that may be applied is applied to it; a portfolio is seeded without touching the stored base
balance. -/
def protocolContract (symbol : String) : Contract LiveEffect LiveWorld where
  inv w := ProtocolInv symbol w.protocol
  pre effect w :=
    match effect with
    | .savePortfolio sym state => state.baseBalance = w.store.storedBase sym
    | .createPending id _ side _ _ _ =>
        side = .sell ∧ NothingOpen symbol w.protocol ∧ w.protocol.row id = none
    | .placeMarketOrder _ _ _ id => ∃ row, row.clientOrderId = id ∧ Alone symbol row w.protocol
    | .applyOrderResult ctx order _ => ctx.symbol = symbol ∧ ctx.decimal = .exact ∧
        ReportFor w.exchange order ∧
          ∃ row, row.clientOrderId = order.clientOrderId ∧ Alone symbol row w.protocol
    | _ => True

/-- From the invariant and `P` the program keeps the protocol, and returns where the invariant and
`Q` hold. -/
def Keeps {α : Type} (symbol : String) (P : ProtocolState → Prop) (p : LiveProgram α)
    (Q : α → ProtocolState → Prop) : Prop :=
  Triple liveEnvironment (protocolContract symbol)
    (fun w => ProtocolInv symbol w.protocol ∧ P w.protocol) p
    fun a w => ProtocolInv symbol w.protocol ∧ Q a w.protocol

/-- An effect that leaves the tables of the store, the exchange and what was applied alone. -/
def LiveEffect.Quiet : LiveEffect → Prop
  | .savePortfolio .. | .createPending .. | .applyOrderResult .. | .getOrder ..
  | .placeMarketOrder .. => False
  | _ => True

theorem LiveEffect.Quiet.protocol {effect : LiveEffect} (h : effect.Quiet) {w w' : LiveWorld}
    {answer : effect.Answer} (hserve : serveEffect effect w answer w') :
    w'.protocol = w.protocol := by
  cases effect with
  | savePortfolio | createPending | applyOrderResult | getOrder | placeMarketOrder => cases h
  | fetchMarketData | killSwitchEngaged | getAccountBalances =>
      exact congrArg LiveWorld.protocol hserve
  | saveRiskState | journalRecord =>
      subst hserve
      rfl
  | loadPortfolio | loadOpenPending | getPending | loadRiskState | journalEntriesByType =>
      exact congrArg LiveWorld.protocol hserve.2

theorem LiveEffect.Quiet.pre {effect : LiveEffect} (h : effect.Quiet) (symbol : String)
    (w : LiveWorld) : (protocolContract symbol).pre effect w := by
  cases effect with
  | savePortfolio | createPending | applyOrderResult | getOrder | placeMarketOrder => cases h
  | _ => trivial

namespace Keeps

variable {α β : Type} {symbol : String} {P P' : ProtocolState → Prop}
variable {Q Q' : α → ProtocolState → Prop}

theorem stable (symbol : String) (hP : Steady P) :
    Stable liveEnvironment fun w => ProtocolInv symbol w.protocol ∧ P w.protocol :=
  ((ProtocolInv.steady symbol).and hP).stable

theorem pure {a : α} (hP : Steady P) (hpost : ∀ s, P s → Q a s) :
    Keeps symbol P (Pure.pure a : LiveProgram α) Q :=
  Triple.done (stable symbol hP) (fun _ hw => hw.1) fun _ hw => ⟨hw.1, hpost _ hw.2⟩

theorem raise {e : PyError} (hP : Steady P) : Keeps symbol P (TradingAgent.raise e) Q :=
  Triple.fail (stable symbol hP) fun _ hw => hw.1

theorem bind {p : LiveProgram α} {f : α → LiveProgram β} {R : β → ProtocolState → Prop}
    (hp : Keeps symbol P p Q) (hf : ∀ a, Keeps symbol (Q a) (f a) R) :
    Keeps symbol P (p >>= f) R :=
  Triple.bind hp hf

theorem strengthen {p : LiveProgram α} (hp : Keeps symbol P p Q)
    (h : ∀ s, ProtocolInv symbol s → P' s → P s) : Keeps symbol P' p Q :=
  Triple.strengthen hp fun w hw => ⟨hw.1, h w.protocol hw.1 hw.2⟩

theorem weaken {p : LiveProgram α} (hp : Keeps symbol P p Q) (h : ∀ a s, Q a s → Q' a s) :
    Keeps symbol P p Q' :=
  Triple.weaken hp fun a w hw => ⟨hw.1, h a w.protocol hw.2⟩

/-- A program that ends here owes nothing more. -/
theorem finish {a : α} : Keeps symbol P (Pure.pure a : LiveProgram α) fun _ _ => True :=
  (pure (fun _ _ _ h => h) fun _ h => h).strengthen fun _ _ _ => trivial

/-- A program made of quiet effects keeps any steady assertion. -/
theorem quiet {p : LiveProgram α} (hp : p.Uses LiveEffect.Quiet) (hP : Steady P) :
    Keeps symbol P p fun _ => P := by
  refine Triple.of_uses (stable symbol hP) (fun _ hw => hw.1) ?_ ?_ hp
  · intro effect w hquiet _
    exact hquiet.pre symbol w
  · intro effect w answer w' hquiet hw hserve
    rw [hquiet.protocol hserve]
    exact hw

/-- A quiet effect whose answer tells something about the rows. -/
theorem ask {effect : LiveEffect} (hquiet : effect.Quiet)
    {φ : effect.Answer → ProtocolState → Prop} (hP : Steady P) (hφ : ∀ answer, Steady (φ answer))
    (hserve : ∀ w answer w', ProtocolInv symbol w.protocol → serveEffect effect w answer w' →
      φ answer w.protocol) :
    Keeps symbol P (perform effect) fun answer s => P s ∧ φ answer s := by
  refine Triple.request (stable symbol hP) (fun _ hw => hw.1) ?_ ?_ ?_
  · intro w _
    exact hquiet.pre symbol w
  · intro w answer w' hw hanswer
    rw [hquiet.protocol hanswer]
    exact ⟨hw.1, hw.2, hserve w answer w' hw.1 hanswer⟩
  · intro answer
    exact ⟨stable symbol (hP.and (hφ answer)), fun _ hw => hw.1⟩

end Keeps

/-! ## The quiet parts of a cycle -/

section Quiet

open Program

theorem quiet_journalRecord (entryType : EntryType) (payload : Payload) (timestampMs : ℤ) :
    (journalRecord entryType payload timestampMs).Uses LiveEffect.Quiet :=
  Uses.request trivial

theorem quiet_fetchBalances : fetchBalances.Uses LiveEffect.Quiet := by
  refine Uses.bind (Uses.request trivial) ?_
  intro answer
  cases answer with
  | ok balances => exact Uses.pure _
  | error e => exact Uses.fail _

theorem quiet_reconcileBalances (ctx : StoreContext) :
    (reconcileBalances ctx).Uses LiveEffect.Quiet := by
  refine Uses.bind (Uses.request trivial) ?_
  intro answer
  cases answer with
  | none => exact Uses.pure _
  | some portfolio => exact quiet_fetchBalances.bind fun _ => Uses.pure _

theorem quiet_endCycle (symbol : String) (riskState : RiskState) (result : CycleResult) :
    (endCycle symbol riskState result).Uses LiveEffect.Quiet :=
  Uses.bind (Uses.request trivial) fun _ => Uses.pure _

theorem quiet_noTrade (c : CycleContext) (reasonCode : String) (detail : Payload) :
    (noTrade c reasonCode detail).Uses LiveEffect.Quiet :=
  quiet_endCycle _ _ _

theorem quiet_recordDiscrepancy (balances : Bool × Option String) (nowMs : ℤ) :
    (recordDiscrepancy balances nowMs).Uses LiveEffect.Quiet := by
  unfold recordDiscrepancy
  split
  · exact quiet_journalRecord _ _ _
  · exact Uses.pure _

end Quiet

/-! ## Seeding the portfolio -/

section Seed

variable {symbol : String}

/-- A portfolio that holds the base balance already stored may be stored. -/
theorem keeps_savePortfolio (sym : String) (state : PortfolioState) :
    Keeps symbol (fun s => state.baseBalance = s.store.storedBase sym)
      (perform (.savePortfolio sym state)) fun _ _ => True := by
  have hsteady : Steady fun s => state.baseBalance = s.store.storedBase sym :=
    Steady.store fun store => state.baseBalance = store.storedBase sym
  refine Triple.request (Keeps.stable symbol hsteady) (fun _ hw => hw.1) (fun _ hw => hw.2) ?_ ?_
  · intro w answer w' hw hserve
    exact ⟨hw.1.savePortfolio sym state hserve, trivial⟩
  · intro answer
    exact ⟨Keeps.stable symbol (Steady.const True), fun _ hw => hw.1⟩

/-- An account that may be started with is seeded without base. -/
theorem keeps_reconcileInitialPortfolio (ctx : StoreContext) (filters : SymbolFilters)
    {P : ProtocolState → Prop} (hP : Steady P) :
    Keeps symbol P (reconcileInitialPortfolio ctx filters) fun portfolio s =>
      P s ∧ portfolio.baseBalance = 0 := by
  refine Keeps.bind (Keeps.quiet quiet_fetchBalances hP) ?_
  intro balances
  by_cases hdust : balanceTotal balances ctx.baseAsset ≥ filters.minQty
  · simp only [hdust, if_true]
    exact Keeps.raise hP
  · simp only [hdust, if_false]
    exact Keeps.pure hP fun s hs => ⟨hs, rfl⟩

/-- The portfolio is seeded where none is stored, so the stored base balance is zero before and
after. -/
theorem keeps_seedPortfolio (ctx : StoreContext) (filters : SymbolFilters) :
    Keeps symbol (fun _ => True) (seedPortfolio ctx filters) fun _ _ => True := by
  have hquiet : (LiveEffect.loadPortfolio ctx.symbol).Quiet := trivial
  have hloaded : ∀ answer, Steady fun s => answer = s.store.loadPortfolio ctx.symbol :=
    fun answer => Steady.store fun store => answer = store.loadPortfolio ctx.symbol
  refine Keeps.bind (Keeps.ask (φ := fun answer s => answer = s.store.loadPortfolio ctx.symbol)
    hquiet (Steady.const True) hloaded fun w answer w' _ hserve => hserve.1) ?_
  intro stored
  cases stored with
  | some portfolio => exact Keeps.finish
  | none =>
      have hnone := (Steady.const True).and (hloaded none)
      refine Keeps.bind (keeps_reconcileInitialPortfolio ctx filters hnone) ?_
      intro portfolio
      refine Keeps.strengthen (keeps_savePortfolio ctx.symbol portfolio) ?_
      intro s _ hs
      rw [ExecutionState.storedBase, ← hs.1.2]
      exact hs.2

end Seed

/-! ## Asking the exchange -/

section Exchange

variable {symbol : String} {row : PendingOrder}

/-- `row` is the only open row, and an order handed on is a report that may be applied to it. -/
structure Answered (symbol : String) (row : PendingOrder) (order : Option OrderResult)
    (s : ProtocolState) : Prop where
  alone : Alone symbol row s
  report : ∀ o, order = some o → o.clientOrderId = row.clientOrderId ∧ ReportFor s.exchange o

theorem Answered.steady (symbol : String) (row : PendingOrder) (order : Option OrderResult) :
    Steady (Answered symbol row order) := by
  intro s exchange hstep h
  refine ⟨Alone.steady symbol row s exchange hstep h.alone, ?_⟩
  intro o ho
  exact ⟨(h.report o ho).1, ReportFor.steady o s exchange hstep (h.report o ho).2⟩

theorem Answered.of_reports {s : ProtocolState} {order : OrderResult} (halone : Alone symbol row s)
    (h : Reports s.exchange row.clientOrderId order) : Answered symbol row (some order) s := by
  refine ⟨halone, ?_⟩
  intro o ho
  cases ho
  exact ⟨h.sameOrder, h.reportFor⟩

theorem Answered.of_none {s : ProtocolState} (halone : Alone symbol row s) :
    Answered symbol row none s := by
  refine ⟨halone, ?_⟩
  intro o ho
  cases ho

/-- Whether a query was answered with "order does not exist". -/
def orderDoesNotExist : Except AdapterError OrderResult → Prop
  | .error (.api _ code _) => code = some orderDoesNotExistCode
  | _ => False

theorem queried_steady (answer : Except AdapterError OrderResult) :
    Steady fun s => Answered symbol row answer.toOption s ∧
      (orderDoesNotExist answer → Final s.exchange row.clientOrderId 0) :=
  (Answered.steady symbol row _).and (Final.steady row.clientOrderId 0).imp

/-- After a query the order, where there is one, may be applied, and one that does not exist never
will. -/
theorem keeps_getOrder (sym : String) :
    Keeps symbol (Alone symbol row) (perform (.getOrder sym row.clientOrderId)) fun answer s =>
      Answered symbol row answer.toOption s ∧
        (orderDoesNotExist answer → Final s.exchange row.clientOrderId 0) := by
  refine Triple.request (Keeps.stable symbol (Alone.steady symbol row)) (fun _ hw => hw.1)
    (fun _ _ => trivial) ?_ ?_
  · intro w answer w' hw hserve
    rcases hw with ⟨hinv, halone⟩
    have halone' := halone
    cases answer with
    | ok report =>
        rcases hserve with ⟨hreports, rfl⟩
        exact ⟨hinv, .of_reports halone hreports, fun h => h.elim⟩
    | error e =>
        cases e with
        | request text | other text =>
            cases hserve
            exact ⟨hinv, .of_none halone, fun h => h.elim⟩
        | api statusCode code message =>
            by_cases hcode : code = some orderDoesNotExistCode
            · -- the exchange has forgotten every request of this order
              change if code = some orderDoesNotExistCode then _ else _ at hserve
              rw [if_pos hcode] at hserve
              rcases hserve with ⟨hnone, rfl⟩
              refine ⟨hinv.forget row.clientOrderId, .of_none ?_, fun _ => .of_forget hnone⟩
              exact ⟨halone.found, halone.isOpen, halone.only⟩
            · change if code = some orderDoesNotExistCode then _ else _ at hserve
              rw [if_neg hcode] at hserve
              cases hserve
              exact ⟨hinv, .of_none halone, fun h => absurd h hcode⟩
  · intro answer
    exact ⟨Keeps.stable symbol (queried_steady answer), fun _ hw => hw.1⟩

/-- A request may be decided at once: the invariant holds after it, whatever it was answered. -/
theorem keeps_placeMarketOrder (sym : String) (side : OrderSide) (quantity : ℚ) :
    Keeps symbol (Alone symbol row)
      (perform (.placeMarketOrder sym side quantity row.clientOrderId))
      fun answer => Answered symbol row answer.toOption := by
  refine Triple.request (Keeps.stable symbol (Alone.steady symbol row)) (fun _ hw => hw.1) ?_ ?_ ?_
  · intro w hw
    exact ⟨row, rfl, hw.2⟩
  · intro w answer w' hw hserve
    rcases hw with ⟨hinv, halone⟩
    rcases hserve with ⟨exchange, hsteps, rfl, hanswer⟩
    have hsent : ProtocolInv symbol
        ⟨w.store, w.exchange.send row.clientOrderId, w.applied,
          row.clientOrderId :: w.posted⟩ := hinv.send halone
    have hmoved := (ProtocolInv.steady symbol).steps hsteps hsent
    have halone' : Alone symbol row
        ⟨w.store, exchange, w.applied, row.clientOrderId :: w.posted⟩ :=
      ⟨halone.found, halone.isOpen, halone.only⟩
    refine ⟨hmoved, ?_⟩
    cases answer with
    | ok report => exact .of_reports halone' hanswer
    | error e => exact .of_none halone'
  · intro answer
    exact ⟨Keeps.stable symbol (Answered.steady symbol row _), fun _ hw => hw.1⟩

theorem keeps_reconcileOrder (sym : String) :
    Keeps symbol (Alone symbol row) (reconcileOrder sym row.clientOrderId) fun r s =>
      Answered symbol row r.2 s ∧ (r.1 = .notFound → Final s.exchange row.clientOrderId 0) := by
  refine (keeps_getOrder sym).bind ?_
  intro answer
  have hsteady := @queried_steady symbol row answer
  cases answer with
  | ok order =>
      refine Keeps.pure hsteady ?_
      intro s hs
      refine ⟨hs.1, ?_⟩
      intro hnotFound
      cases hstatus : order.status <;> simp [classifyOrder, hstatus] at hnotFound
  | error e =>
      cases e with
      | request text | other text => exact Keeps.raise hsteady
      | api statusCode code message =>
          by_cases hcode : code = some orderDoesNotExistCode
          · simp only [hcode, if_true]
            refine Keeps.pure (hcode ▸ hsteady) ?_
            intro s hs
            exact ⟨hs.1, fun _ => hs.2 rfl⟩
          · simp only [hcode, if_false]
            refine Keeps.pure hsteady ?_
            intro s hs
            exact ⟨hs.1, fun h => by cases h⟩

end Exchange

/-! ## Applying a report -/

section Apply

variable {symbol : String} {row : PendingOrder} {ctx : StoreContext}

/-- A report that may be applied is, all of it or nothing; a terminal one leaves nothing open. -/
theorem keeps_applyAtomically (hsymbol : ctx.symbol = symbol) (hctx : ctx.decimal = .exact)
    {order : OrderResult}
    (hid : order.clientOrderId = row.clientOrderId) (nowMs : ℤ) :
    Keeps symbol (fun s => Alone symbol row s ∧ ReportFor s.exchange order)
      (applyAtomically ctx order nowMs) fun result s =>
        result.isTerminal = order.status.isTerminal ∧
          (order.status.isTerminal = true → NothingOpen symbol s) := by
  have hsteady : Steady fun s => Alone symbol row s ∧ ReportFor s.exchange order :=
    (Alone.steady symbol row).and (ReportFor.steady order)
  -- what each answer says of the world after it
  let post : Except PyError OrderApplicationResult → ProtocolState → Prop := fun answer s =>
    ∀ result, answer = .ok result → result.isTerminal = order.status.isTerminal ∧
      (order.status.isTerminal = true → NothingOpen symbol s)
  have hpost : ∀ answer, Steady (post answer) := fun answer =>
    .forall fun result => .imp ((Steady.const _).and (.imp (NothingOpen.steady symbol)))
  have hrequest : Keeps symbol (fun s => Alone symbol row s ∧ ReportFor s.exchange order)
      (perform (.applyOrderResult ctx order nowMs)) post := by
    refine Triple.request (Keeps.stable symbol hsteady) (fun _ hw => hw.1) ?_ ?_ ?_
    · intro w hw
      exact ⟨hsymbol, hctx, hw.2.2, row, hid.symm, hw.2.1⟩
    · intro w answer w' hw hserve
      rcases hw with ⟨hinv, halone, hreport⟩
      rcases hserve with ⟨hanswer, hw'⟩
      cases hcall : applyOrderResultAtomically ctx none order nowMs w.store with
      | mk outcome store' =>
          rw [hcall] at hanswer hw'
          subst hanswer
          cases answer with
          | ok result =>
              rcases applyOrderResultAtomically_eq_ok hcall with ⟨-, ⟨c⟩⟩
              have happlied := hinv.apply halone hctx hid hreport c hw'
              refine ⟨happlied.1, ?_⟩
              intro result' hresult
              cases hresult
              exact happlied.2
          | error e =>
              rw [applyOrderResultAtomically_error hcall, sub_self] at hw'
              refine ⟨hinv.refused _ hw', ?_⟩
              intro result hresult
              cases hresult
    · intro answer
      exact ⟨Keeps.stable symbol (hpost answer), fun _ hw => hw.1⟩
  refine hrequest.bind ?_
  intro answer
  cases answer with
  | ok result => exact Keeps.pure (hpost _) fun s hs => hs result rfl
  | error e => exact Keeps.raise (hpost _)

/-- The report that closes out an order that never reached the exchange may be applied: nothing was
applied of it, and nothing will be executed. -/
theorem neverSubmittedReport_reportFor {s : ProtocolState} (hinv : ProtocolInv symbol s)
    (halone : Alone symbol row s) (habsent : Final s.exchange row.clientOrderId 0) (nowMs : ℤ) :
    ReportFor s.exchange (neverSubmittedReport row nowMs) := by
  have hnonneg := hinv.nonneg _ row halone.found
  have hbounded := hinv.bounded _ row halone.found
  have hzero : row.applied.executedQty = 0 := by
    rw [habsent.executed] at hbounded
    exact le_antisymm hbounded hnonneg
  refine ⟨hbounded, ?_⟩
  intro _
  change Final s.exchange row.clientOrderId row.applied.executedQty
  rw [hzero]
  exact habsent

/-- How the reconciliation of the only open order ends: it is closed, or the cycle is blocked. -/
def ClosedOrBlocked (symbol : String) (result : Option PendingOrderReconciliationResult)
    (s : ProtocolState) : Prop :=
  match result with
  | none => NothingOpen symbol s
  | some blocked => blocked.blocked = true

theorem keeps_closeNeverSubmitted (hsymbol : ctx.symbol = symbol) (hctx : ctx.decimal = .exact)
    (nowMs : ℤ) :
    Keeps symbol (fun s => Alone symbol row s ∧ Final s.exchange row.clientOrderId 0)
      (closeNeverSubmitted ctx nowMs row)
        (ClosedOrBlocked symbol) := by
  have hid : (neverSubmittedReport row nowMs).clientOrderId = row.clientOrderId := rfl
  have happly : Keeps symbol (fun s => Alone symbol row s ∧
      ReportFor s.exchange (neverSubmittedReport row nowMs)) _ _ :=
    keeps_applyAtomically hsymbol hctx hid nowMs
  refine Keeps.bind (happly.strengthen ?_) ?_
  · intro s hinv hs
    exact ⟨hs.1, neverSubmittedReport_reportFor hinv hs.1 hs.2 nowMs⟩
  · intro result
    refine Keeps.bind (Keeps.quiet (quiet_journalRecord _ _ _) ?_) ?_
    · exact (Steady.const _).and (.imp (NothingOpen.steady symbol))
    · intro _
      refine Keeps.pure ((Steady.const _).and (.imp (NothingOpen.steady symbol))) ?_
      intro s hs
      exact hs.2 rfl

theorem keeps_applyReconciled (hsymbol : ctx.symbol = symbol) (hctx : ctx.decimal = .exact)
    (nowMs : ℤ) {order : OrderResult}
    (hid : order.clientOrderId = row.clientOrderId) :
    Keeps symbol (fun s => Alone symbol row s ∧ ReportFor s.exchange order)
      (applyReconciled ctx nowMs row order)
        (ClosedOrBlocked symbol) := by
  refine Keeps.bind (keeps_applyAtomically hsymbol hctx hid nowMs) ?_
  intro result
  have hsteady : Steady fun s => result.isTerminal = order.status.isTerminal ∧
      (order.status.isTerminal = true → NothingOpen symbol s) :=
    (Steady.const _).and (.imp (NothingOpen.steady symbol))
  refine Keeps.bind (Keeps.quiet (quiet_journalRecord _ _ _) hsteady) ?_
  intro _
  by_cases hterminal : result.isTerminal = true
  · simp only [hterminal, if_true] at hsteady ⊢
    exact Keeps.pure hsteady fun s hs => hs.2 hs.1.symm
  · simp only [hterminal, Bool.false_eq_true, if_false] at hsteady ⊢
    exact Keeps.pure hsteady fun _ _ => rfl

theorem keeps_blockOnUnknown (nowMs : ℤ) {P : ProtocolState → Prop} (hP : Steady P) :
    Keeps symbol P (blockOnUnknown nowMs row)
      (ClosedOrBlocked symbol) := by
  refine Keeps.bind (Keeps.quiet (quiet_journalRecord _ _ _) hP) ?_
  intro _
  exact Keeps.pure hP fun _ _ => rfl

/-- Reconciling the only open order closes it, or blocks the cycle. -/
theorem keeps_reconcilePendingOrder (hsymbol : ctx.symbol = symbol) (hctx : ctx.decimal = .exact)
    (nowMs : ℤ) :
    Keeps symbol (Alone symbol row) (reconcilePendingOrder ctx nowMs row)
      (ClosedOrBlocked symbol) := by
  refine Keeps.bind (keeps_reconcileOrder ctx.symbol) ?_
  rintro ⟨status, order⟩
  have hsteady : Steady fun s => Answered symbol row order s ∧
      (status = .notFound → Final s.exchange row.clientOrderId 0) :=
    (Answered.steady symbol row order).and (Final.steady row.clientOrderId 0).imp
  have happly : ∀ o, order = some o → Keeps symbol
      (fun s => Answered symbol row order s ∧
        (status = .notFound → Final s.exchange row.clientOrderId 0))
      (applyReconciled ctx nowMs row o) (ClosedOrBlocked symbol) := by
    intro o ho w hw
    have hanswered := hw.2.1.report o ho
    exact keeps_applyReconciled hsymbol hctx nowMs hanswered.1 w ⟨hw.1, hw.2.1.alone, hanswered.2⟩
  cases status with
  | notFound =>
      refine Keeps.strengthen (keeps_closeNeverSubmitted hsymbol hctx nowMs) ?_
      intro s _ hs
      exact ⟨hs.1.alone, hs.2 rfl⟩
  | confirmedTerminal | confirmedOpen =>
      cases order with
      | some o => exact happly o rfl
      | none => exact keeps_blockOnUnknown nowMs hsteady
  | unknown => exact keeps_blockOnUnknown nowMs hsteady

end Apply

/-! ## Startup reconciliation -/

section Startup

variable {symbol : String} {ctx : StoreContext}

/-- What reading the open rows tells: there is none, or only one. -/
structure OpenRows (symbol : String) (rows : List PendingOrder) (s : ProtocolState) : Prop where
  none : rows = [] → NothingOpen symbol s
  one : ∀ row, rows = [row] → Alone symbol row s
  atMostOne : rows.length ≤ 1

theorem OpenRows.steady (symbol : String) (rows : List PendingOrder) :
    Steady (OpenRows symbol rows) := by
  intro s exchange hstep h
  refine ⟨h.none, ?_, h.atMostOne⟩
  intro row hrow
  exact Alone.steady symbol row s exchange hstep (h.one row hrow)

/-- An open row is the one found under its id. -/
theorem ProtocolInv.row_of_open {w : LiveWorld} (h : ProtocolInv symbol w.protocol)
    {row : PendingOrder} (hrow : row ∈ w.store.loadOpenPending symbol) :
    w.protocol.row row.clientOrderId = some row ∧ row.IsOpen symbol := by
  have hmem := ExecutionState.mem_loadOpenPending.1 hrow
  exact ⟨KeyedTable.lookup_eq_of_mem h.keys hmem.1, hmem.2⟩

/-- Of a row found, what is open is read. -/
theorem mem_loadOpenPending_of_row {w : LiveWorld} {id : String} {row : PendingOrder}
    (hrow : w.protocol.row id = some row) (hopen : row.IsOpen symbol) :
    row ∈ w.store.loadOpenPending symbol :=
  ExecutionState.mem_loadOpenPending.2 ⟨(KeyedTable.lookup_eq_some hrow).1, hopen⟩

theorem ProtocolInv.openRows {w : LiveWorld} (h : ProtocolInv symbol w.protocol) :
    OpenRows symbol (w.store.loadOpenPending symbol) w.protocol := by
  have hnodup : ((w.store.loadOpenPending symbol).map PendingOrder.clientOrderId).Nodup :=
    ExecutionState.nodup_loadOpenPending h.keys symbol
  cases hrows : w.store.loadOpenPending symbol with
  | nil =>
      refine ⟨?_, fun row hrow => (by cases hrow), by simp⟩
      intro _ id row hrow hopen
      have hmem := mem_loadOpenPending_of_row hrow hopen
      rw [hrows] at hmem
      cases hmem
  | cons row rest =>
      have hrow : row ∈ w.store.loadOpenPending symbol := hrows ▸ List.mem_cons_self
      have hfound := h.row_of_open hrow
      have hrest : rest = [] := by
        cases rest with
        | nil => rfl
        | cons row' rest' =>
            -- a second open row would have the id of the first
            have hrow' : row' ∈ w.store.loadOpenPending symbol := by simp [hrows]
            have hfound' := h.row_of_open hrow'
            have hsame := h.oneOpen _ _ row row' hfound.1 hfound'.1 hfound.2 hfound'.2
            simp [hrows, hsame] at hnodup
      subst hrest
      refine ⟨fun h => (by cases h), ?_, by simp⟩
      intro row₁ hone
      cases hone
      refine ⟨hfound.1, hfound.2, ?_⟩
      intro id row' hrow' hopen'
      exact h.oneOpen id row.clientOrderId row' row hrow' hfound.1 hopen' hfound.2

/-- After startup reconciliation nothing is open, or the cycle is blocked. -/
theorem keeps_reconcilePendingOrders (hsymbol : ctx.symbol = symbol) (hctx : ctx.decimal = .exact)
    (nowMs : ℤ) : Keeps symbol (fun _ => True) (reconcilePendingOrders ctx nowMs) fun result s =>
      result.blocked = false → NothingOpen symbol s := by
  -- the open rows that are read are one at most
  have hask : Keeps symbol (fun _ => True) (perform (.loadOpenPending ctx.symbol))
      fun rows s => True ∧ OpenRows symbol rows s := by
    have hquiet : (LiveEffect.loadOpenPending ctx.symbol).Quiet := trivial
    refine Keeps.ask hquiet (Steady.const True) (OpenRows.steady symbol) ?_
    intro w answer w' hinv hserve
    rw [hserve.1, hsymbol]
    exact hinv.openRows
  refine Keeps.bind hask ?_
  intro rows
  have hsteady : Steady fun s => True ∧ OpenRows symbol rows s :=
    (Steady.const True).and (OpenRows.steady symbol rows)
  cases rows with
  | nil => exact Keeps.pure hsteady fun s hs _ => hs.2.none rfl
  | cons row rest =>
      cases rest with
      | cons row' rest' =>
          intro w hw
          exact absurd hw.2.2.atMostOne (by simp)
      | nil =>
          have hrow : Keeps symbol (Alone symbol row) _ _ :=
            keeps_reconcilePendingOrder hsymbol hctx nowMs
          have hloop := hrow.strengthen
            fun s _ (hs : True ∧ OpenRows symbol [row] s) => hs.2.one row rfl
          refine Keeps.bind hloop ?_
          intro result
          cases result with
          | none => exact Keeps.pure (NothingOpen.steady symbol) fun s hs _ => hs
          | some blocked =>
              refine Keeps.pure (Steady.const _) ?_
              intro s hs hfalse
              rw [hs] at hfalse
              cases hfalse

end Startup

/-! ## The submit path -/

section Submit

variable {symbol : String} {c : CycleContext}

/-- A gated EXIT may be submitted: nothing is open, and the client order id is new. -/
def MaySubmit (symbol id : String) (stage : Stage ℚ) (s : ProtocolState) : Prop :=
  ∀ quantity, stage = .proceed quantity → NothingOpen symbol s ∧ s.row id = none

theorem MaySubmit.finished {id : String} {result : CycleResult} {s : ProtocolState} :
    MaySubmit symbol id (.finished result) s := by
  intro quantity h
  cases h

theorem keeps_finish {P : ProtocolState → Prop} {result : LiveProgram CycleResult} (id : String)
    (hP : Steady P) (hresult : result.Uses LiveEffect.Quiet) :
    Keeps symbol P (do return .finished (← result)) (MaySubmit symbol id) := by
  refine Keeps.bind (Keeps.quiet hresult hP) ?_
  intro r
  exact Keeps.pure hP fun _ _ => MaySubmit.finished

/-- What the gates let through has a client order id without a row: the risk engine rejects what is
a duplicate. -/
theorem keeps_gateExit :
    Keeps symbol (NothingOpen symbol) (gateExit c) (MaySubmit symbol c.clientOrderId) := by
  have hnothing := NothingOpen.steady symbol
  unfold gateExit
  refine Keeps.bind (Keeps.quiet (Program.Uses.ofExcept _) hnothing) ?_
  intro sizing
  refine Keeps.bind (Keeps.quiet (quiet_journalRecord _ _ _) hnothing) ?_
  intro _
  split
  · rename_i sized happroved hquantity
    have hquiet : (LiveEffect.getPending c.clientOrderId).Quiet := trivial
    refine Keeps.bind (Keeps.ask (φ := fun found s => found = s.row c.clientOrderId) hquiet hnothing
      (fun found => Steady.store fun store => found = store.getPending c.clientOrderId) ?_) ?_
    · intro w answer w' _ hserve
      exact hserve.1
    · intro found
      have hfound : Steady fun s => NothingOpen symbol s ∧ found = s.row c.clientOrderId :=
        hnothing.and (Steady.store fun store => found = store.getPending c.clientOrderId)
      refine Keeps.bind (Keeps.quiet (Program.Uses.request trivial) hfound) ?_
      intro submitted
      refine Keeps.bind (Keeps.quiet (Program.Uses.request trivial) hfound) ?_
      intro engaged
      extract_lets intent decision
      refine Keeps.bind (Keeps.quiet (quiet_journalRecord _ _ _) hfound) ?_
      intro _
      split
      · exact keeps_finish _ hfound (quiet_noTrade _ _ _)
      · rename_i hdecision
        -- an approved exit is not a duplicate, so no row was found
        have hnotDuplicate := RiskEngine.evaluate_approved_not_duplicate
          (Bool.eq_true_of_not_eq_false hdecision)
        have hnone : found = none := by
          have hsome : found.isSome = false := (Bool.or_eq_false_iff.1 hnotDuplicate).1
          cases found with
          | none => rfl
          | some row => cases hsome
        refine Keeps.bind (Keeps.quiet (Program.Uses.ofExcept _) hfound) ?_
        intro validation
        refine Keeps.bind (Keeps.quiet (quiet_journalRecord _ _ _) hfound) ?_
        intro _
        split
        · refine Keeps.pure hfound ?_
          intro s hs quantity _
          exact ⟨hs.1, hs.2 ▸ hnone⟩
        · exact keeps_finish _ hfound (quiet_noTrade _ _ _)
  · exact keeps_finish _ hnothing (quiet_noTrade _ _ _)

/-- What a submission hands on: a report that may be applied to the row it has created. -/
def Submitted (symbol : String) (row : PendingOrder) (stage : Stage OrderResult)
    (s : ProtocolState) : Prop :=
  ∀ order, stage = .proceed order → Answered symbol row (some order) s

theorem Submitted.finished {row : PendingOrder} {result : CycleResult} {s : ProtocolState} :
    Submitted symbol row (.finished result) s := by
  intro order h
  cases h

theorem Submitted.proceed {row : PendingOrder} {order : OrderResult} {s : ProtocolState}
    (h : Answered symbol row (some order) s) : Submitted symbol row (.proceed order) s := by
  intro order' h'
  cases h'
  exact h

theorem keeps_failSubmission {row : PendingOrder} {P : ProtocolState → Prop} (hP : Steady P)
    (payload : Payload) (reasonCode : String) (detail : Payload) :
    Keeps symbol P (failSubmission c payload reasonCode detail) (Submitted symbol row) := by
  refine Keeps.bind (Keeps.quiet (Program.Uses.request trivial) hP) ?_
  intro _
  refine Keeps.bind (Keeps.quiet (quiet_journalRecord _ _ _) hP) ?_
  intro _
  exact Keeps.pure hP fun _ _ => Submitted.finished

/-- How the answer to a request is handled: an order goes on, an unknown error is raised, and the
rest fails the submission. -/
theorem keeps_resolveSubmission {row : PendingOrder} (hid : c.clientOrderId = row.clientOrderId)
    (quantity : ℚ) :
    Keeps symbol (Alone symbol row) (resolveSubmission c quantity) (Submitted symbol row) := by
  unfold resolveSubmission
  rw [hid]
  refine Keeps.bind (keeps_reconcileOrder c.store.symbol) ?_
  rintro ⟨status, order⟩
  have hsteady : Steady fun s => Answered symbol row order s ∧
      (status = .notFound → Final s.exchange row.clientOrderId 0) :=
    (Answered.steady symbol row order).and (Final.steady row.clientOrderId 0).imp
  refine Keeps.bind (Keeps.quiet (quiet_journalRecord _ _ _) hsteady) ?_
  intro _
  split
  · -- a retry: the order never happened, and its row is still the only open one
    refine Keeps.bind (Keeps.strengthen (keeps_placeMarketOrder c.store.symbol .sell quantity)
      fun s _ hs => hs.1.alone) ?_
    intro answer
    cases answer with
    | ok order' =>
        exact Keeps.pure (Answered.steady symbol row _) fun s hs => Submitted.proceed hs
    | error e =>
        cases e with
        | other text => exact Keeps.raise (Answered.steady symbol row _)
        | request text | api statusCode code message =>
            exact keeps_failSubmission (Answered.steady symbol row _) _ _ _
  · split
    · exact Keeps.pure hsteady fun s hs => Submitted.proceed hs.1
    · exact Keeps.pure hsteady fun s hs => Submitted.proceed hs.1
    · exact keeps_failSubmission hsteady _ _ _

/-- The row a submission creates. -/
def CycleContext.submitted (c : CycleContext) (quantity : ℚ) : PendingOrder :=
  submittedRow c.clientOrderId c.store.symbol .sell quantity c.closeMs c.market.serverTimeMs

/-- The intent is recorded before the request is sent. -/
theorem keeps_submitOrder (hsymbol : c.store.symbol = symbol) (quantity : ℚ) :
    Keeps symbol (fun s => NothingOpen symbol s ∧ s.row c.clientOrderId = none)
      (submitOrder c quantity) (Submitted symbol (c.submitted quantity)) := by
  subst hsymbol
  have halone := Alone.steady c.store.symbol (c.submitted quantity)
  -- the row is written before anything is sent
  have hcreate : Keeps c.store.symbol
      (fun s => NothingOpen c.store.symbol s ∧ s.row c.clientOrderId = none)
      (perform (.createPending c.clientOrderId c.store.symbol .sell quantity c.closeMs
        c.market.serverTimeMs)) fun _ => Alone c.store.symbol (c.submitted quantity) := by
    have hsteady : Steady fun s => NothingOpen c.store.symbol s ∧ s.row c.clientOrderId = none :=
      (NothingOpen.steady _).and (Steady.store fun store => store.getPending c.clientOrderId = none)
    refine Triple.request (Keeps.stable _ hsteady) (fun _ hw => hw.1) ?_ ?_ ?_
    · intro w hw
      exact ⟨rfl, hw.2⟩
    · intro w answer w' hw hserve
      exact hw.1.createPending hw.2.1 hw.2.2 _ _ _ hserve
    · intro answer
      exact ⟨Keeps.stable _ halone, fun _ hw => hw.1⟩
  refine Keeps.bind hcreate ?_
  intro _
  refine Keeps.bind (Keeps.quiet (quiet_journalRecord _ _ _) halone) ?_
  intro _
  refine Keeps.bind (keeps_placeMarketOrder c.store.symbol .sell quantity) ?_
  intro answer
  have hanswered := Answered.steady c.store.symbol (c.submitted quantity)
  cases answer with
  | ok order => exact Keeps.pure (hanswered _) fun s hs => Submitted.proceed hs
  | error e =>
      cases e with
      | request text =>
          exact Keeps.strengthen (keeps_resolveSubmission rfl quantity) fun s _ hs => hs.alone
      | other text => exact Keeps.raise (hanswered _)
      | api statusCode code message => exact keeps_failSubmission (hanswered _) _ _ _

theorem keeps_applyOutcome (hsymbol : c.store.symbol = symbol) (hctx : c.store.decimal = .exact)
    {row : PendingOrder} (order : OrderResult) :
    Keeps symbol (Answered symbol row (some order)) (applyOutcome c order) fun _ _ => True := by
  intro w hw
  have hreport := hw.2.report order rfl
  have happly : Keeps symbol (fun s => Alone symbol row s ∧ ReportFor s.exchange order)
      (applyOutcome c order) fun _ _ => True := by
    refine Keeps.bind (keeps_applyAtomically hsymbol hctx hreport.1 c.market.serverTimeMs) ?_
    intro result
    refine Keeps.strengthen ?_ fun s _ _ => trivial
    refine Keeps.bind (Keeps.quiet (quiet_journalRecord _ _ _) (Steady.const True)) ?_
    intro _
    exact Keeps.quiet (quiet_endCycle _ _ _) (Steady.const True)
  exact happly w ⟨hw.1, hw.2.alone, hreport.2⟩

/-! ## A whole cycle -/

theorem keeps_actOnSignal (hctx : c.store.decimal = .exact) (hsymbol : c.store.symbol = symbol)
    (signal : Signal) (balances : Bool × Option String) :
    Keeps symbol (NothingOpen symbol) (actOnSignal c signal balances) fun _ _ => True := by
  have hnothing := NothingOpen.steady symbol
  have hquiet : ∀ {p : LiveProgram CycleResult}, p.Uses LiveEffect.Quiet →
      Keeps symbol (NothingOpen symbol) p fun _ _ => True :=
    fun hp => (Keeps.quiet hp hnothing).weaken fun _ _ _ => trivial
  refine Keeps.bind (Keeps.quiet (quiet_journalRecord _ _ _) hnothing) ?_
  intro _
  split
  · exact hquiet (quiet_endCycle _ _ _)
  · exact hquiet ((quiet_journalRecord _ _ _).bind fun _ => quiet_noTrade _ _ _)
  · split
    · exact hquiet ((quiet_journalRecord _ _ _).bind fun _ => quiet_noTrade _ _ _)
    · refine Keeps.bind keeps_gateExit ?_
      intro stage
      cases stage with
      | finished result => exact Keeps.finish
      | proceed quantity =>
          refine Keeps.strengthen ?_ fun s _ hs => hs quantity rfl
          refine Keeps.bind (keeps_submitOrder hsymbol quantity) ?_
          intro outcome
          cases outcome with
          | finished result => exact Keeps.finish
          | proceed order =>
              exact Keeps.strengthen (keeps_applyOutcome hsymbol hctx order) fun s _ hs => hs order rfl

theorem keeps_tradeOnMarket {runner : LiveRunner} {ctx : StoreContext}
    (hctx : ctx.decimal = .exact) (hsymbol : ctx.symbol = symbol) (market : MarketData) :
    Keeps symbol (fun _ => True) (tradeOnMarket runner ctx market) fun _ _ => True := by
  have htrue := Steady.const True
  have hnothing := NothingOpen.steady symbol
  refine Keeps.bind (keeps_seedPortfolio ctx market.filters) ?_
  intro _
  refine Keeps.bind (keeps_reconcilePendingOrders hsymbol hctx market.serverTimeMs) ?_
  intro pendingResult
  split
  · exact Keeps.finish
  · rename_i hunblocked
    refine Keeps.strengthen ?_ fun s _ hs => hs (Bool.eq_false_of_not_eq_true hunblocked)
    refine Keeps.bind (Keeps.quiet (Program.Uses.request trivial) hnothing) ?_
    intro loaded
    cases loaded with
    | none => exact Keeps.raise hnothing
    | some portfolio =>
        refine Keeps.bind (Keeps.quiet (quiet_reconcileBalances ctx) hnothing) ?_
        intro balances
        refine Keeps.bind (Keeps.quiet (quiet_recordDiscrepancy _ _) hnothing) ?_
        intro _
        refine Keeps.bind (Keeps.quiet (Program.Uses.request trivial) hnothing) ?_
        intro stored
        refine Keeps.bind (Keeps.quiet (Program.Uses.ofExcept _) hnothing) ?_
        intro signal
        exact keeps_actOnSignal hctx hsymbol signal balances

/-- Every cycle of the symbol keeps the protocol, at every point between two of its effects. -/
theorem keeps_runTestnetCycle {runner : LiveRunner} (hsymbol : runner.config.market.symbol = symbol) :
    Keeps symbol (fun _ => True) (runTestnetCycle runner) fun _ _ => True := by
  have htrue := Steady.const True
  refine Keeps.bind (Keeps.quiet (Program.Uses.ofExcept _) htrue) ?_
  intro quoteAsset
  refine Keeps.bind (Keeps.quiet (Program.Uses.request trivial) htrue) ?_
  intro fetched
  cases fetched with
  | ok market => exact keeps_tradeOnMarket rfl hsymbol market
  | error e =>
      cases e with
      | clockDrift text | unavailable text =>
          refine Keeps.bind (Keeps.quiet (quiet_journalRecord _ _ _) htrue) ?_
          intro _
          exact Keeps.finish

end Submit

end TradingAgent
