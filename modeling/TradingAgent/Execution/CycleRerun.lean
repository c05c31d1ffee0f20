import TradingAgent.Execution.AgentRuns
import TradingAgent.Execution.OrderProtocol

/-!
# Cycle rerun — a second cycle on the same candle

Two cycles in a row that see the same candles on the same day.  The second one sends no order and
leaves the portfolio and the pending orders alone; the risk state it leaves alone only when no
cooldown was running and the equity is no new peak, for every cycle takes one bar off the cooldown.

* `exitPlan` is the quantity a cycle would submit, as a function of what it reads;
* `Concluded` is what a cycle leaves behind that a cycle on the same candle starts from;
* `rerun_isNoop_iff` is the result.
-/

namespace TradingAgent

open Effects

/-! ## What a cycle sees -/

/-- What the outside tells a cycle: the market, the kill switch and the account. -/
structure Observation where
  market : MarketData
  killSwitchEngaged : Bool
  balances : Balances

/-- No query about the outside fails, and each is answered by the observation. -/
def Observation.Answers (seen : Observation) : (effect : LiveEffect) → effect.Answer → Prop
  | .fetchMarketData _, answer => answer = .ok seen.market
  | .killSwitchEngaged, answer => answer = seen.killSwitchEngaged
  | .getAccountBalances, answer => answer = .ok seen.balances
  | _, _ => True

/-- Whether an order of this id has been submitted already. -/
def AgentState.alreadySubmitted (s : AgentState) (clientOrderId : String) : Bool :=
  (s.store.getPending clientOrderId).isSome ||
    (s.journal.filter fun entry => entry.entryType = .orderSubmitted).any fun entry =>
      entry.submits clientOrderId

/-- The quantity `gateExit` lets through. -/
def exitQuantity (c : CycleContext) (killSwitchEngaged alreadySubmitted : Bool) : Option ℚ :=
  match computeSellQuantity c.portfolio.baseBalance c.lastCandle.close c.market.filters with
  | .ok ⟨true, some sized, _⟩ =>
      let intent : TradeIntent := ⟨.exit, c.store.symbol, sized, c.lastCandle.close⟩
      let decision := (RiskEngine.mk c.runner.config.risk).evaluate intent
        (exitRiskContext c killSwitchEngaged alreadySubmitted)
      if decision.approved = false then none
      else
        match validateOrder intent c.market.filters with
        | .ok ⟨true, some quantity, _⟩ => some quantity
        | _ => none
  | _ => none

/-- The quantity a cycle submits. -/
def exitPlan (c : CycleContext) (killSwitchEngaged alreadySubmitted : Bool)
    (balances : Balances) : Option ℚ :=
  match c.runner.strategy c.market.candles c.portfolio.positionSide with
  | .error _ => none
  | .ok signal =>
      match signal.type with
      | .exit =>
          if (compareBalances c.portfolio (balanceTotal balances c.store.quoteAsset)
              (balanceTotal balances c.store.baseAsset)).1 = false then none
          else exitQuantity c killSwitchEngaged alreadySubmitted
      | _ => none

section Stages

variable {seen : Observation} {c : CycleContext} {s s' : AgentState}

/-- A journal row that is no submission. -/
theorem alreadySubmitted_journal {entryType : EntryType} (h : entryType ≠ .orderSubmitted)
    (payload : Payload) (timestampMs : ℤ) (clientOrderId : String) :
    ({ s with journal := s.journal ++ [⟨timestampMs, entryType, payload⟩] } :
      AgentState).alreadySubmitted clientOrderId = s.alreadySubmitted clientOrderId := by
  simp [AgentState.alreadySubmitted, List.filter_append, h]

theorem runsTo_journalRecord {obs : (effect : LiveEffect) → effect.Answer → Prop}
    {entryType : EntryType} {payload : Payload} {timestampMs : ℤ} {u : Unit}
    (h : RunsTo obs (journalRecord entryType payload timestampMs) s u s') :
    s' = { s with journal := s.journal ++ [⟨timestampMs, entryType, payload⟩] } :=
  (runsTo_perform.1 h).2

theorem runsTo_endCycle {obs : (effect : LiveEffect) → effect.Answer → Prop} {symbol : String}
    {riskState : RiskState} {result r : CycleResult}
    (h : RunsTo obs (endCycle symbol riskState result) s r s') :
    r = result ∧ s' = { s with riskStates := s.riskStates.set symbol riskState } := by
  rcases runsTo_bind.1 h with ⟨_, t, hsave, hreturn⟩
  rcases runsTo_pure.1 hreturn with ⟨rfl, rfl⟩
  exact ⟨rfl, (runsTo_perform.1 hsave).2⟩

/-- A stage leaves the tables alone but for the journal, which gets no submission. -/
structure OnlyJournals (s s' : AgentState) : Prop where
  store : s'.store = s.store
  riskStates : s'.riskStates = s.riskStates
  posted : s'.posted = s.posted
  alreadySubmitted : ∀ id, s'.alreadySubmitted id = s.alreadySubmitted id

namespace OnlyJournals

theorem refl (s : AgentState) : OnlyJournals s s := ⟨rfl, rfl, rfl, fun _ => rfl⟩

theorem trans {s t u : AgentState} (h : OnlyJournals s t) (h' : OnlyJournals t u) :
    OnlyJournals s u :=
  ⟨h'.store.trans h.store, h'.riskStates.trans h.riskStates, h'.posted.trans h.posted,
    fun id => (h'.alreadySubmitted id).trans (h.alreadySubmitted id)⟩

theorem journal {entryType : EntryType} (h : entryType ≠ .orderSubmitted) (payload : Payload)
    (timestampMs : ℤ) :
    OnlyJournals s { s with journal := s.journal ++ [⟨timestampMs, entryType, payload⟩] } :=
  ⟨rfl, rfl, rfl, alreadySubmitted_journal h payload timestampMs⟩

end OnlyJournals

/-- The cycle has ended without an order: the risk state is saved, the rest only journaled. -/
structure EndsQuietly (c : CycleContext) (s s' : AgentState) : Prop where
  store : s'.store = s.store
  riskStates : s'.riskStates = s.riskStates.set c.store.symbol c.riskState
  posted : s'.posted = s.posted
  alreadySubmitted : ∀ id, s'.alreadySubmitted id = s.alreadySubmitted id

theorem OnlyJournals.ends {t : AgentState} (h : OnlyJournals s t) :
    EndsQuietly c s { t with riskStates := t.riskStates.set c.store.symbol c.riskState } :=
  ⟨h.store, by rw [h.riskStates], h.posted, h.alreadySubmitted⟩

theorem endsQuietly_noTrade {obs : (effect : LiveEffect) → effect.Answer → Prop}
    {reasonCode : String} {detail : Payload} {t : AgentState} {r : CycleResult}
    (hs : OnlyJournals s t) (h : RunsTo obs (noTrade c reasonCode detail) t r s') :
    EndsQuietly c s s' := by
  rcases runsTo_endCycle h with ⟨-, rfl⟩
  exact hs.ends

theorem endsQuietly_finished {obs : (effect : LiveEffect) → effect.Answer → Prop}
    {reasonCode : String} {t : AgentState} {stage : Stage ℚ} (hs : OnlyJournals s t)
    (h : RunsTo obs (do return .finished (← noTrade c reasonCode)) t stage s') :
    (∃ result, stage = .finished result) ∧ EndsQuietly c s s' := by
  rcases runsTo_bind.1 h with ⟨result, u, hend, hreturn⟩
  rcases runsTo_pure.1 hreturn with ⟨rfl, rfl⟩
  exact ⟨⟨result, rfl⟩, endsQuietly_noTrade hs hend⟩

/-- `gateExit` lets `exitQuantity` through, or ends the cycle. -/
theorem runsTo_gateExit {stage : Stage ℚ} (h : RunsTo seen.Answers (gateExit c) s stage s') :
    match exitQuantity c seen.killSwitchEngaged (s.alreadySubmitted c.clientOrderId) with
    | some quantity => stage = .proceed quantity ∧ OnlyJournals s s'
    | none => (∃ result, stage = .finished result) ∧ EndsQuietly c s s' := by
  rcases runsTo_bind.1 h with ⟨⟨approved, sizedQuantity, sizeCode⟩, s₀, hsized, hrecorded⟩
  rcases runsTo_ofExcept.1 hsized with ⟨hsell, hs₀⟩
  obtain rfl : s = s₀ := Eq.symm hs₀
  rcases runsTo_bind.1 hrecorded with ⟨_, t, hsizing, hgated⟩
  have ht : OnlyJournals s t := by
    rw [runsTo_journalRecord hsizing]
    exact OnlyJournals.journal (by decide) _ _
  have hfinish : ∀ {reasonCode : String} {u : AgentState}, OnlyJournals s u →
      RunsTo seen.Answers (do return .finished (← noTrade c reasonCode)) u stage s' →
        (∃ result, stage = .finished result) ∧ EndsQuietly c s s' :=
    fun hu hrun => endsQuietly_finished hu hrun
  simp only [exitQuantity, hsell]
  cases approved with
  | false => exact hfinish ht hgated
  | true =>
      cases sizedQuantity with
      | none => exact hfinish ht hgated
      | some sized =>
          dsimp only at hgated ⊢
          rcases runsTo_bind.1 hgated with ⟨found, t₁, hfound, hrest₁⟩
          rcases runsTo_bind.1 hrest₁ with ⟨submitted, t₂, hsubmitted, hrest₂⟩
          rcases runsTo_bind.1 hrest₂ with ⟨engaged, t₃, hengaged, hrest₃⟩
          rcases runsTo_bind.1 hrest₃ with ⟨_, t₄, hdecision, hdecided⟩
          rcases (runsTo_perform.1 hfound).2 with ⟨rfl, ht₁⟩
          obtain rfl := ht₁.symm
          rcases (runsTo_perform.1 hsubmitted).2 with ⟨rfl, ht₂⟩
          obtain rfl := ht₂.symm
          rcases runsTo_perform.1 hengaged with ⟨hseen, ht₃⟩
          obtain rfl : engaged = seen.killSwitchEngaged := hseen
          obtain rfl : t = t₃ := Eq.symm ht₃
          -- the tables still say of the order what they said at the start
          have halready : ((t.store.getPending c.clientOrderId).isSome ||
              (t.journal.filter fun entry => entry.entryType = .orderSubmitted).any fun entry =>
                entry.submits c.clientOrderId) = s.alreadySubmitted c.clientOrderId :=
            ht.alreadySubmitted c.clientOrderId
          have ht₄ : OnlyJournals s t₄ := by
            rw [runsTo_journalRecord hdecision]
            exact ht.trans (OnlyJournals.journal (by decide) _ _)
          rw [halready] at hdecided
          by_cases hdenied : ((RiskEngine.mk c.runner.config.risk).evaluate
              ⟨.exit, c.store.symbol, sized, c.lastCandle.close⟩
              (exitRiskContext c seen.killSwitchEngaged
                (s.alreadySubmitted c.clientOrderId))).approved = false
          · rw [if_pos hdenied] at hdecided ⊢
            exact hfinish ht₄ hdecided
          · rw [if_neg hdenied] at hdecided ⊢
            rcases runsTo_bind.1 hdecided with
              ⟨⟨validApproved, validQuantity, validCode⟩, u, hchecked, hrest₄⟩
            rcases runsTo_ofExcept.1 hchecked with ⟨hvalid, hu⟩
            obtain rfl : t₄ = u := Eq.symm hu
            rcases runsTo_bind.1 hrest₄ with ⟨_, t₅, hvalidation, hvalidated⟩
            have ht₅ : OnlyJournals s t₅ := by
              rw [runsTo_journalRecord hvalidation]
              exact ht₄.trans (OnlyJournals.journal (by decide) _ _)
            simp only [hvalid]
            cases validApproved with
            | false => exact hfinish ht₅ hvalidated
            | true =>
                cases validQuantity with
                | none => exact hfinish ht₅ hvalidated
                | some quantity =>
                    rcases runsTo_pure.1 hvalidated with ⟨rfl, rfl⟩
                    exact ⟨rfl, ht₅⟩

end Stages

/-! ## Reconciling before the decision -/

section Reconcile

variable {obs : (effect : LiveEffect) → effect.Answer → Prop} {ctx : StoreContext} {nowMs : ℤ}
  {s s' : AgentState}

/-- What reconciling one order leaves alone: the other rows, the requests, and that there is a
portfolio. -/
structure Reconciles (symbol id : String) (s s' : AgentState) : Prop where
  others : ∀ id', id' ≠ id → s'.store.getPending id' = s.store.getPending id'
  posted : s'.posted = s.posted
  portfolio : (s.store.loadPortfolio symbol).isSome = true →
    (s'.store.loadPortfolio symbol).isSome = true

theorem Reconciles.journal {symbol id : String} {t : AgentState} (h : Reconciles symbol id s t)
    (entry : JournalEntry) : Reconciles symbol id s { t with journal := t.journal ++ [entry] } :=
  ⟨h.others, h.posted, h.portfolio⟩

/-- An application that returns has committed, and has touched no other order. -/
theorem runsTo_applyAtomically {order : OrderResult} {result : OrderApplicationResult}
    (h : RunsTo obs (applyAtomically ctx order nowMs) s result s') :
    Nonempty (Committed ctx order nowMs s.store result s'.store) ∧
      s' = { s with store := s'.store } ∧ Reconciles ctx.symbol order.clientOrderId s s' := by
  rcases runsTo_bind.1 h with ⟨answer, t, hserve, hanswer⟩
  rcases (runsTo_perform.1 hserve).2 with ⟨houtcome, ht⟩
  cases answer with
  | error e => exact (runsTo_raise.1 hanswer).elim
  | ok outcome =>
      rcases runsTo_pure.1 hanswer with ⟨rfl, rfl⟩
      have hcall : applyOrderResultAtomically ctx none order nowMs s.store =
          (.ok result, s'.store) := by
        rw [ht]
        exact Prod.ext houtcome.symm rfl
      rcases (applyOrderResultAtomically_eq_ok hcall).2 with ⟨committed⟩
      have hstate : s' = { s with store := s'.store } := by rw [ht]
      refine ⟨⟨committed⟩, hstate, ?_, by rw [hstate], ?_⟩
      · intro id' hne
        have hkey : ∀ row : PendingOrder, (row.record order result nowMs).clientOrderId =
            row.clientOrderId := fun _ => rfl
        rw [committed.written, ExecutionState.getPending_updatePending hkey, if_neg hne]
        rfl
      · intro _
        rw [committed.readBack.2]
        rfl

/-- Whether an unresolved order of the symbol is stored. -/
def AgentState.HasOpen (s : AgentState) (symbol : String) : Prop :=
  s.store.loadOpenPending symbol ≠ []

theorem hasOpen_of_found {symbol id : String} {row : PendingOrder}
    (hfound : s.store.getPending id = some row) (hsymbol : row.symbol = symbol)
    (hopen : row.status = .submitted) : s.HasOpen symbol := by
  have hmem : row ∈ s.store.pendingOrders := (KeyedTable.lookup_eq_some hfound).1
  exact List.ne_nil_of_mem (ExecutionState.mem_loadOpenPending.2 ⟨hmem, hsymbol, hopen⟩)

theorem runsTo_reconcileOrder {symbol id : String} {out : ReconciledStatus × Option OrderResult}
    (h : RunsTo obs (reconcileOrder symbol id) s out s') :
    s' = s ∧ ∀ order, out.2 = some order → order.clientOrderId = id := by
  rcases runsTo_bind.1 h with ⟨answer, t, hserve, hanswer⟩
  rcases (runsTo_perform.1 hserve).2 with ⟨hfor, ht⟩
  obtain rfl := ht.symm
  cases answer with
  | ok order =>
      rcases runsTo_pure.1 hanswer with ⟨rfl, rfl⟩
      refine ⟨rfl, ?_⟩
      intro order' heq
      cases heq
      exact hfor
  | error e =>
      cases e with
      | api status code text =>
          by_cases hcode : code = some orderDoesNotExistCode
          · simp only [hcode, if_true] at hanswer
            rcases runsTo_pure.1 hanswer with ⟨rfl, rfl⟩
            exact ⟨rfl, by simp⟩
          · simp only [if_neg hcode] at hanswer
            rcases runsTo_pure.1 hanswer with ⟨rfl, rfl⟩
            exact ⟨rfl, by simp⟩
      | request text => exact (runsTo_raise.1 hanswer).elim
      | other text => exact (runsTo_raise.1 hanswer).elim

/-- Reconciling an unresolved order: the cycle goes on, or the order stays unresolved. -/
theorem runsTo_reconcilePendingOrder {pending : PendingOrder}
    {out : Option PendingOrderReconciliationResult}
    (hfound : s.store.getPending pending.clientOrderId = some pending)
    (hsymbol : pending.symbol = ctx.symbol) (hopen : pending.status = .submitted)
    (h : RunsTo obs (reconcilePendingOrder ctx nowMs pending) s out s') :
    Reconciles ctx.symbol pending.clientOrderId s s' ∧
      ∀ result, out = some result → s'.HasOpen ctx.symbol := by
  rcases runsTo_bind.1 h with ⟨⟨status, order⟩, t, hreconcile, hnext⟩
  rcases runsTo_reconcileOrder hreconcile with ⟨ht, hid⟩
  obtain rfl := ht.symm
  -- nothing is applied, and the order stays as it is
  have hblock : ∀ {u : AgentState} {r : Option PendingOrderReconciliationResult},
      RunsTo obs (blockOnUnknown nowMs pending) s r u →
        Reconciles ctx.symbol pending.clientOrderId s u ∧
          ∀ result, r = some result → u.HasOpen ctx.symbol := by
    intro u r hrun
    rcases runsTo_bind.1 hrun with ⟨_, v, hjournal, hreturn⟩
    rcases runsTo_pure.1 hreturn with ⟨-, rfl⟩
    rw [runsTo_journalRecord hjournal]
    exact ⟨⟨fun _ _ => rfl, rfl, fun hp => hp⟩, fun _ _ => hasOpen_of_found hfound hsymbol hopen⟩
  have happly : ∀ {order : OrderResult} {u : AgentState}
      {r : Option PendingOrderReconciliationResult}, order.clientOrderId = pending.clientOrderId →
      RunsTo obs (applyReconciled ctx nowMs pending order) s r u →
        Reconciles ctx.symbol pending.clientOrderId s u ∧
          ∀ result, r = some result → u.HasOpen ctx.symbol := by
    intro order u r hsame hrun
    rcases runsTo_bind.1 hrun with ⟨result, v, happlied, hrest⟩
    rcases runsTo_bind.1 hrest with ⟨_, v', hjournal, hreturn⟩
    rcases runsTo_applyAtomically happlied with ⟨⟨committed⟩, -, hframe⟩
    rw [hsame] at hframe
    have hv' := runsTo_journalRecord hjournal
    have hfinal : u = v' := by
      split at hreturn <;> exact (runsTo_pure.1 hreturn).2
    refine ⟨?_, ?_⟩
    · rw [hfinal, hv']
      exact hframe.journal _
    · intro blocked hblocked
      -- the order is still open, so its row was written back as unresolved
      have hnot : result.isTerminal = false := by
        by_contra hterminal
        rw [if_pos (by simpa using hterminal)] at hreturn
        have hnone := (runsTo_pure.1 hreturn).1
        rw [hnone] at hblocked
        cases hblocked
      have hsamePending : committed.pending = pending := by
        have hrow := committed.found
        rw [hsame, hfound] at hrow
        exact (Option.some.inj hrow).symm
      have hrow : u.store.getPending order.clientOrderId =
          some (committed.pending.record order result nowMs) := by
        rw [hfinal, hv']
        exact committed.readBack.1
      refine hasOpen_of_found hrow ?_ ?_
      · rw [hsamePending]
        exact hsymbol
      · simp [PendingOrder.record, hnot]
  simp only at hnext
  split at hnext
  · rcases runsTo_bind.1 hnext with ⟨result, v, happlied, hrest⟩
    rcases runsTo_bind.1 hrest with ⟨_, v', hjournal, hreturn⟩
    rcases runsTo_pure.1 hreturn with ⟨rfl, rfl⟩
    rw [runsTo_journalRecord hjournal]
    exact ⟨(runsTo_applyAtomically happlied).2.2.journal _, by simp⟩
  · exact happly (hid _ rfl) hnext
  · exact happly (hid _ rfl) hnext
  · exact hblock hnext

/-- The rows the loop goes over, each still as it was loaded. -/
structure StillOpen (symbol : String) (rows : List PendingOrder) (s : AgentState) : Prop where
  nodup : (rows.map PendingOrder.clientOrderId).Nodup
  found : ∀ row ∈ rows, s.store.getPending row.clientOrderId = some row
  symbol : ∀ row ∈ rows, row.symbol = symbol
  isOpen : ∀ row ∈ rows, row.status = .submitted

theorem stillOpen_loadOpenPending (symbol : String)
    (hkeys : (s.store.pendingOrders.map PendingOrder.clientOrderId).Nodup) :
    StillOpen symbol (s.store.loadOpenPending symbol) s where
  nodup := ExecutionState.nodup_loadOpenPending hkeys symbol
  found := fun _ hrow =>
    KeyedTable.lookup_eq_of_mem hkeys (ExecutionState.mem_loadOpenPending.1 hrow).1
  symbol := fun _ hrow => (ExecutionState.mem_loadOpenPending.1 hrow).2.1
  isOpen := fun _ hrow => (ExecutionState.mem_loadOpenPending.1 hrow).2.2

/-- What reconciling leaves alone. -/
structure ReconcilesAll (symbol : String) (s s' : AgentState) : Prop where
  posted : s'.posted = s.posted
  portfolio : (s.store.loadPortfolio symbol).isSome = true →
    (s'.store.loadPortfolio symbol).isSome = true

theorem runsTo_reconcilePendingLoop {rows : List PendingOrder}
    {out : PendingOrderReconciliationResult} (hrows : StillOpen ctx.symbol rows s)
    (h : RunsTo obs (reconcilePendingLoop ctx nowMs rows) s out s') :
    ReconcilesAll ctx.symbol s s' ∧ (out.blocked = true → s'.HasOpen ctx.symbol) := by
  induction rows generalizing s with
  | nil =>
      rcases runsTo_pure.1 h with ⟨rfl, rfl⟩
      exact ⟨⟨rfl, fun hp => hp⟩, by simp⟩
  | cons pending rest ih =>
      rcases runsTo_bind.1 h with ⟨result, t, hone, hnext⟩
      have hhead : pending ∈ pending :: rest := List.mem_cons_self ..
      rcases runsTo_reconcilePendingOrder (hrows.found pending hhead) (hrows.symbol pending hhead)
        (hrows.isOpen pending hhead) hone with ⟨hframe, hblocked⟩
      cases result with
      | some blocked =>
          rcases runsTo_pure.1 hnext with ⟨rfl, rfl⟩
          exact ⟨⟨hframe.posted, hframe.portfolio⟩, fun _ => hblocked out rfl⟩
      | none =>
          rcases List.nodup_cons.1 hrows.nodup with ⟨hnew, hnodup⟩
          have hlater : StillOpen ctx.symbol rest t := by
            refine ⟨hnodup, ?_, fun row hrow => hrows.symbol row (List.mem_cons_of_mem _ hrow),
              fun row hrow => hrows.isOpen row (List.mem_cons_of_mem _ hrow)⟩
            intro row hrow
            have hne : row.clientOrderId ≠ pending.clientOrderId := by
              intro heq
              exact hnew (heq ▸ List.mem_map_of_mem hrow)
            rw [hframe.others _ hne]
            exact hrows.found row (List.mem_cons_of_mem _ hrow)
          rcases ih hlater hnext with ⟨hrest, hopen⟩
          exact ⟨⟨hrest.posted.trans hframe.posted, fun hp => hrest.portfolio (hframe.portfolio hp)⟩,
            hopen⟩

/-- Reconciling blocks the cycle only over an order that was unresolved and stays so. -/
theorem runsTo_reconcilePendingOrders {out : PendingOrderReconciliationResult}
    (hkeys : s.HasOpen ctx.symbol →
      (s.store.pendingOrders.map PendingOrder.clientOrderId).Nodup)
    (h : RunsTo obs (reconcilePendingOrders ctx nowMs) s out s') :
    ReconcilesAll ctx.symbol s s' ∧
      (out.blocked = true → s.HasOpen ctx.symbol ∧ s'.HasOpen ctx.symbol) := by
  rcases runsTo_bind.1 h with ⟨rows, t, hload, hloop⟩
  rcases (runsTo_perform.1 hload).2 with ⟨hrows, ht⟩
  have hrows : rows = s.store.loadOpenPending ctx.symbol := hrows
  obtain rfl := ht.symm
  subst hrows
  by_cases hopen : s.HasOpen ctx.symbol
  · have hrows := stillOpen_loadOpenPending ctx.symbol (hkeys hopen)
    rcases runsTo_reconcilePendingLoop hrows hloop with ⟨hframe, hblocked⟩
    exact ⟨hframe, fun h => ⟨hopen, hblocked h⟩⟩
  · rw [not_not.1 hopen] at hloop
    rcases runsTo_pure.1 hloop with ⟨rfl, rfl⟩
    exact ⟨⟨rfl, fun hp => hp⟩, by simp⟩

end Reconcile

/-! ## Submitting -/

section Submit

variable {obs : (effect : LiveEffect) → effect.Answer → Prop} {c : CycleContext} {s s' : AgentState}

/-- A request has been sent, and the order and the portfolio are stored. -/
structure Sent (c : CycleContext) (s s' : AgentState) : Prop where
  posted : s.posted.length < s'.posted.length
  pending : (s'.store.getPending c.clientOrderId).isSome = true
  portfolio : (s'.store.loadPortfolio c.store.symbol).isSome = true

/-- A request has been sent, and a risk state of the cycle's day is saved. -/
structure Submits (c : CycleContext) (s s' : AgentState) : Prop extends Sent c s s' where
  riskState : ∃ riskState, s'.riskStates.get? c.store.symbol = some riskState ∧
    riskState.dayKey = c.riskState.dayKey

namespace Sent

theorem journal (h : Sent c s s') (entry : JournalEntry) :
    Sent c s { s' with journal := s'.journal ++ [entry] } :=
  ⟨h.posted, h.pending, h.portfolio⟩

theorem post (h : Sent c s s') (id : String) :
    Sent c s { s' with posted := id :: s'.posted } :=
  ⟨h.posted.trans (Nat.lt_succ_self _), h.pending, h.portfolio⟩

theorem save (h : Sent c s s') {riskState : RiskState}
    (hday : riskState.dayKey = c.riskState.dayKey) :
    Submits c s { s' with riskStates := s'.riskStates.set c.store.symbol riskState } :=
  ⟨⟨h.posted, h.pending, h.portfolio⟩, riskState, Dict.get?_set_self .., hday⟩

end Sent

theorem Submits.journal (h : Submits c s s') (entry : JournalEntry) :
    Submits c s { s' with journal := s'.journal ++ [entry] } :=
  ⟨h.toSent.journal entry, h.riskState⟩

theorem runsTo_failSubmission {t : AgentState} (hs : Sent c s t) {payload detail : Payload}
    {reasonCode : String} {stage : Stage OrderResult}
    (h : RunsTo obs (failSubmission c payload reasonCode detail) t stage s') :
    (∃ result, stage = .finished result) ∧ Submits c s s' := by
  rcases runsTo_bind.1 h with ⟨_, t₁, hsave, hrest⟩
  rcases runsTo_bind.1 hrest with ⟨_, t₂, hjournal, hreturn⟩
  rcases runsTo_pure.1 hreturn with ⟨rfl, rfl⟩
  have ht₁ : Submits c s t₁ := by
    rw [show t₁ = _ from (runsTo_perform.1 hsave).2]
    exact hs.save rfl
  rw [runsTo_journalRecord hjournal]
  exact ⟨⟨_, rfl⟩, ht₁.journal _⟩

/-- What a stage of the submission leaves: the cycle is over, or the order goes on. -/
def SubmitStage (c : CycleContext) (s s' : AgentState) : Stage OrderResult → Prop
  | .finished _ => Submits c s s'
  | .proceed _ => Sent c s s'

theorem SubmitStage.of_finished {stage : Stage OrderResult}
    (h : (∃ result, stage = .finished result) ∧ Submits c s s') : SubmitStage c s s' stage := by
  rcases h with ⟨⟨result, rfl⟩, hsubmits⟩
  exact hsubmits

theorem runsTo_resolveSubmission {t : AgentState} (hs : Sent c s t) {quantity : ℚ}
    {stage : Stage OrderResult} (h : RunsTo obs (resolveSubmission c quantity) t stage s') :
    SubmitStage c s s' stage := by
  rcases runsTo_bind.1 h with ⟨⟨status, reconciled⟩, t₁, hreconcile, hrest⟩
  rcases runsTo_reconcileOrder hreconcile with ⟨ht₁, -⟩
  obtain rfl := ht₁.symm
  rcases runsTo_bind.1 hrest with ⟨_, t₂, hjournal, hdecide⟩
  have ht₂ : Sent c s t₂ := by
    rw [runsTo_journalRecord hjournal]
    exact hs.journal _
  split at hdecide
  · rcases runsTo_bind.1 hdecide with ⟨answer, t₃, hplace, hanswer⟩
    have hposted := (runsTo_perform.1 hplace).2.2
    have ht₃ : Sent c s t₃ := by
      rw [hposted]
      exact ht₂.post _
    cases answer with
    | ok order =>
        rcases runsTo_pure.1 hanswer with ⟨rfl, rfl⟩
        exact ht₃
    | error e =>
        cases e with
        | other text => exact (runsTo_raise.1 hanswer).elim
        | api status code text => exact .of_finished (runsTo_failSubmission ht₃ hanswer)
        | request text => exact .of_finished (runsTo_failSubmission ht₃ hanswer)
  · split at hdecide
    · rcases runsTo_pure.1 hdecide with ⟨rfl, rfl⟩
      exact ht₂
    · rcases runsTo_pure.1 hdecide with ⟨rfl, rfl⟩
      exact ht₂
    · exact .of_finished (runsTo_failSubmission ht₂ hdecide)

theorem isSome_getPending_createPending (store : ExecutionState) (id symbol : String)
    (side : OrderSide) (quantity : ℚ) (closeMs nowMs : ℤ) :
    ((store.createPending id symbol side quantity closeMs nowMs).getPending id).isSome = true := by
  cases hfound : store.getPending id with
  | none =>
      rw [ExecutionState.getPending_createPending hfound, if_pos rfl]
      rfl
  | some row =>
      have hstill : (store.createPending id symbol side quantity closeMs nowMs).getPending id =
          some row := KeyedTable.lookup_insertNew_of_found hfound _
      rw [hstill]
      rfl

theorem runsTo_submitOrder {quantity : ℚ} {stage : Stage OrderResult}
    (hportfolio : (s.store.loadPortfolio c.store.symbol).isSome = true)
    (h : RunsTo obs (submitOrder c quantity) s stage s') : SubmitStage c s s' stage := by
  rcases runsTo_bind.1 h with ⟨_, t₁, hcreate, hrest₁⟩
  rcases runsTo_bind.1 hrest₁ with ⟨_, t₂, hjournal, hrest₂⟩
  rcases runsTo_bind.1 hrest₂ with ⟨answer, t₃, hplace, hanswer⟩
  have ht₁ : t₁ = _ := (runsTo_perform.1 hcreate).2
  have ht₃ : Sent c s t₃ := by
    rw [(runsTo_perform.1 hplace).2.2, runsTo_journalRecord hjournal, ht₁]
    refine ⟨Nat.lt_succ_self _, isSome_getPending_createPending .., ?_⟩
    simpa using hportfolio
  cases answer with
  | ok order =>
      rcases runsTo_pure.1 hanswer with ⟨rfl, rfl⟩
      exact ht₃
  | error e =>
      cases e with
      | request text => exact runsTo_resolveSubmission ht₃ hanswer
      | other text => exact (runsTo_raise.1 hanswer).elim
      | api status code text => exact .of_finished (runsTo_failSubmission ht₃ hanswer)

theorem runsTo_applyOutcome {t : AgentState} (hs : Sent c s t) {order : OrderResult}
    {result : CycleResult} (h : RunsTo obs (applyOutcome c order) t result s') :
    Submits c s s' := by
  rcases runsTo_bind.1 h with ⟨applied, t₁, happlied, hrest⟩
  rcases runsTo_bind.1 hrest with ⟨_, t₂, hjournal, hend⟩
  rcases runsTo_applyAtomically happlied with ⟨⟨committed⟩, hstate, hframe⟩
  have hpending : (t₁.store.getPending c.clientOrderId).isSome = true := by
    by_cases hid : c.clientOrderId = order.clientOrderId
    · rw [hid, committed.readBack.1]
      rfl
    · rw [hframe.others _ hid]
      exact hs.pending
  have ht₁ : Sent c s t₁ := ⟨by rw [hframe.posted]; exact hs.posted, hpending,
    hframe.portfolio hs.portfolio⟩
  rcases runsTo_endCycle hend with ⟨-, rfl⟩
  rw [runsTo_journalRecord hjournal]
  exact (ht₁.journal _).save (riskStateAfter_dayKey _ _ _)

/-- From the signal on, the cycle submits an order exactly when it plans one. -/
theorem runsTo_actOnSignal {seen : Observation} {signal : Signal} {result : CycleResult}
    (hportfolio : (s.store.loadPortfolio c.store.symbol).isSome = true)
    (hsignal : c.runner.strategy c.market.candles c.portfolio.positionSide = .ok signal)
    (h : RunsTo seen.Answers (actOnSignal c signal
      (compareBalances c.portfolio (balanceTotal seen.balances c.store.quoteAsset)
        (balanceTotal seen.balances c.store.baseAsset))) s result s') :
    match exitPlan c seen.killSwitchEngaged (s.alreadySubmitted c.clientOrderId) seen.balances with
    | some _ => Submits c s s'
    | none => EndsQuietly c s s' := by
  rcases runsTo_bind.1 h with ⟨_, t, hjournal, hdecide⟩
  have ht : OnlyJournals s t := by
    rw [runsTo_journalRecord hjournal]
    exact OnlyJournals.journal (by decide) _ _
  simp only [exitPlan, hsignal]
  cases htype : signal.type with
  | hold =>
      simp only [htype] at hdecide ⊢
      rcases runsTo_endCycle hdecide with ⟨-, rfl⟩
      exact ht.ends
  | buy =>
      simp only [htype] at hdecide ⊢
      rcases runsTo_bind.1 hdecide with ⟨_, t₁, hsuppressed, hend⟩
      refine endsQuietly_noTrade ?_ hend
      rw [runsTo_journalRecord hsuppressed]
      exact ht.trans (OnlyJournals.journal (by decide) _ _)
  | exit =>
      simp only [htype] at hdecide ⊢
      split at hdecide
      · -- the reported balances do not match: nothing is submitted
        rename_i hbalances
        rw [if_pos hbalances]
        rcases runsTo_bind.1 hdecide with ⟨_, t₁, hsuppressed, hend⟩
        refine endsQuietly_noTrade ?_ hend
        rw [runsTo_journalRecord hsuppressed]
        exact ht.trans (OnlyJournals.journal (by decide) _ _)
      · -- the gate decides whether the order goes out
        rename_i hbalances
        rw [if_neg hbalances, ← ht.alreadySubmitted]
        rcases runsTo_bind.1 hdecide with ⟨stage, t₁, hgate, hnext⟩
        have hgated := runsTo_gateExit hgate
        split at hgated
        · -- it does: the order is submitted, and what comes of it is applied
          rcases hgated with ⟨rfl, ht₁⟩
          rcases runsTo_bind.1 hnext with ⟨stage, t₂, hsubmit, hfinish⟩
          have hstage : SubmitStage c t₁ t₂ stage := by
            apply runsTo_submitOrder _ hsubmit
            rw [ht₁.store, ht.store]
            exact hportfolio
          have hposted : t₁.posted = s.posted := ht₁.posted.trans ht.posted
          cases stage with
          | finished r =>
              rcases runsTo_pure.1 hfinish with ⟨rfl, rfl⟩
              exact ⟨⟨hposted ▸ hstage.posted, hstage.pending, hstage.portfolio⟩, hstage.riskState⟩
          | proceed order =>
              have hsent : Sent c s t₂ :=
                ⟨hposted ▸ hstage.posted, hstage.pending, hstage.portfolio⟩
              exact runsTo_applyOutcome hsent hfinish
        · -- it does not, and the cycle has ended there
          rcases hgated with ⟨⟨r, rfl⟩, hends⟩
          rcases runsTo_pure.1 hnext with ⟨rfl, rfl⟩
          exact ⟨hends.store.trans ht.store, by rw [hends.riskStates, ht.riskStates],
            hends.posted.trans ht.posted,
            fun id => (hends.alreadySubmitted id).trans (ht.alreadySubmitted id)⟩

end Submit

/-! ## A whole cycle -/

/-- The context a cycle decides in. -/
def decisionContext (runner : LiveRunner) (ctx : StoreContext) (market : MarketData)
    (portfolio : PortfolioState) (stored : Option RiskState) : CycleContext :=
  ⟨runner, ctx, market, portfolio,
    rollRiskState stored (portfolio.equity (market.candles.getLast market.nonempty).close)
      (utcDayKey market.serverTimeMs)⟩

/-- From the tables `t` on, the cycle submits the order it plans, or ends without one. -/
def Decides (seen : Observation) (c : CycleContext) (t s' : AgentState) : Prop :=
  match exitPlan c seen.killSwitchEngaged (t.alreadySubmitted c.clientOrderId) seen.balances with
  | some _ => Submits c t s'
  | none => EndsQuietly c t s'

section Cycle

variable {seen : Observation} {runner : LiveRunner} {ctx : StoreContext} {s s' : AgentState}

theorem runsTo_fetchBalances {balances : Balances}
    (h : RunsTo seen.Answers fetchBalances s balances s') : balances = seen.balances ∧ s' = s := by
  rcases runsTo_bind.1 h with ⟨reply, t, hserve, hreply⟩
  rcases runsTo_perform.1 hserve with ⟨hseen, ht⟩
  have hseen : reply = .ok seen.balances := hseen
  subst hseen
  rcases runsTo_pure.1 hreply with ⟨rfl, rfl⟩
  exact ⟨rfl, ht⟩

theorem runsTo_seedPortfolio {filters : SymbolFilters} {u : Unit}
    (h : RunsTo seen.Answers (seedPortfolio ctx filters) s u s') :
    (s'.store.loadPortfolio ctx.symbol).isSome = true ∧ s'.posted = s.posted ∧
      s'.store.pendingOrders = s.store.pendingOrders ∧
      ((s.store.loadPortfolio ctx.symbol).isSome = true → s' = s) := by
  rcases runsTo_bind.1 h with ⟨answer, t, hload, hrest⟩
  rcases (runsTo_perform.1 hload).2 with ⟨hanswer, ht⟩
  have hanswer : answer = s.store.loadPortfolio ctx.symbol := hanswer
  obtain rfl := ht.symm
  cases answer with
  | some portfolio =>
      rcases runsTo_pure.1 hrest with ⟨-, rfl⟩
      exact ⟨by rw [← hanswer]; rfl, rfl, rfl, fun _ => rfl⟩
  | none =>
      rcases runsTo_bind.1 hrest with ⟨portfolio, t₁, hreconcile, hsave⟩
      have ht₁ : t₁ = s := by
        rcases runsTo_bind.1 hreconcile with ⟨balances, t₂, hfetch, hcheck⟩
        have ht₁ : t₁ = t₂ := by
          simp only at hcheck
          split at hcheck
          · exact (runsTo_raise.1 hcheck).elim
          · exact (runsTo_pure.1 hcheck).2
        exact ht₁.trans (runsTo_fetchBalances hfetch).2
      have hs' : s' = _ := (runsTo_perform.1 hsave).2
      rw [ht₁] at hs'
      subst hs'
      refine ⟨by simp, rfl, rfl, ?_⟩
      rw [← hanswer]
      intro hsome
      cases hsome

theorem runsTo_reconcileBalances {portfolio : PortfolioState} {out : Bool × Option String}
    (hloaded : s.store.loadPortfolio ctx.symbol = some portfolio)
    (h : RunsTo seen.Answers (reconcileBalances ctx) s out s') :
    out = compareBalances portfolio (balanceTotal seen.balances ctx.quoteAsset)
      (balanceTotal seen.balances ctx.baseAsset) ∧ s' = s := by
  rcases runsTo_bind.1 h with ⟨answer, t, hload, hrest⟩
  rcases (runsTo_perform.1 hload).2 with ⟨hanswer, ht⟩
  have hanswer : answer = s.store.loadPortfolio ctx.symbol := hanswer
  rw [hloaded] at hanswer
  subst hanswer
  rcases runsTo_bind.1 hrest with ⟨balances, t₁, hfetch, hreturn⟩
  rcases runsTo_fetchBalances hfetch with ⟨rfl, ht₁⟩
  rcases runsTo_pure.1 hreturn with ⟨rfl, rfl⟩
  exact ⟨rfl, ht₁.trans ht⟩

theorem runsTo_recordDiscrepancy {balances : Bool × Option String} {nowMs : ℤ} {u : Unit}
    (h : RunsTo seen.Answers (recordDiscrepancy balances nowMs) s u s') : OnlyJournals s s' := by
  simp only [recordDiscrepancy] at h
  split at h
  · rw [runsTo_journalRecord h]
    exact OnlyJournals.journal (by decide) _ _
  · rw [(runsTo_pure.1 h).2]
    exact OnlyJournals.refl s

/-- After the reconciliation, a cycle that is not blocked decides. -/
theorem runsTo_tradeOnMarket {result : CycleResult}
    (hkeys : s.HasOpen ctx.symbol →
      (s.store.pendingOrders.map PendingOrder.clientOrderId).Nodup)
    (h : RunsTo seen.Answers (tradeOnMarket runner ctx seen.market) s result s') :
    (s.HasOpen ctx.symbol ∧ s'.HasOpen ctx.symbol) ∨
      ∃ t portfolio, t.posted = s.posted ∧ t.store.loadPortfolio ctx.symbol = some portfolio ∧
        ((s.store.loadPortfolio ctx.symbol).isSome = true → ¬ s.HasOpen ctx.symbol →
          OnlyJournals s t) ∧
        Decides seen (decisionContext runner ctx seen.market portfolio
          (t.riskStates.get? ctx.symbol)) t s' := by
  -- the cold start, then what is still open
  rcases runsTo_bind.1 h with ⟨_, t₁, hseed, hrest₁⟩
  rcases runsTo_seedPortfolio hseed with ⟨hseeded, hposted₁, hpending₁, hkept⟩
  rcases runsTo_bind.1 hrest₁ with ⟨pendingResult, t₂, hreconcile, hrest₂⟩
  have hkeys₁ : t₁.HasOpen ctx.symbol →
      (t₁.store.pendingOrders.map PendingOrder.clientOrderId).Nodup := by
    simp only [AgentState.HasOpen, ExecutionState.loadOpenPending, hpending₁]
    exact hkeys
  rcases runsTo_reconcilePendingOrders hkeys₁ hreconcile with ⟨hframe, hblocked⟩
  simp only at hrest₂
  split at hrest₂
  · -- an order whose outcome is unknown ends the cycle
    rename_i hblock
    rcases runsTo_pure.1 hrest₂ with ⟨rfl, rfl⟩
    rcases hblocked hblock with ⟨hbefore, hafter⟩
    refine Or.inl ⟨?_, hafter⟩
    simpa only [AgentState.HasOpen, ExecutionState.loadOpenPending, hpending₁] using hbefore
  · right
    -- the portfolio, the balances, the risk state and the signal are read in turn
    rcases runsTo_bind.1 hrest₂ with ⟨loaded, t₃, hload, hrest₃⟩
    rcases (runsTo_perform.1 hload).2 with ⟨hloaded, ht₃⟩
    have hloaded : loaded = t₂.store.loadPortfolio ctx.symbol := hloaded
    obtain rfl := ht₃.symm
    cases loaded with
    | none => exact (runsTo_raise.1 hrest₃).elim
    | some portfolio =>
        rcases runsTo_bind.1 hrest₃ with ⟨balances, t₄, hbalances, hrest₄⟩
        rcases runsTo_reconcileBalances hloaded.symm hbalances with ⟨rfl, ht₄⟩
        obtain rfl := ht₄.symm
        rcases runsTo_bind.1 hrest₄ with ⟨_, t₅, hdiscrepancy, hrest₅⟩
        have ht₅ := runsTo_recordDiscrepancy hdiscrepancy
        rcases runsTo_bind.1 hrest₅ with ⟨stored, t₆, hrisk, hrest₆⟩
        rcases (runsTo_perform.1 hrisk).2 with ⟨hstored, ht₆⟩
        obtain rfl := ht₆.symm
        obtain rfl : stored = t₅.riskStates.get? ctx.symbol := hstored
        rcases runsTo_bind.1 hrest₆ with ⟨signal, t₇, hstrategy, hact⟩
        rcases runsTo_ofExcept.1 hstrategy with ⟨hsignal, ht₇⟩
        obtain rfl := ht₇.symm
        have hportfolio : t₅.store.loadPortfolio ctx.symbol = some portfolio := by
          rw [ht₅.store]
          exact hloaded.symm
        refine ⟨t₅, portfolio, ht₅.posted.trans (hframe.posted.trans hposted₁), hportfolio, ?_, ?_⟩
        · -- without a cold start and without an open row nothing was written so far
          intro hsome hnone
          have hstart : t₁ = s := hkept hsome
          have hquiet : t₂ = s := by
            rcases runsTo_bind.1 hreconcile with ⟨rows, t₈, hrows, hloop⟩
            rcases (runsTo_perform.1 hrows).2 with ⟨hempty, ht₈⟩
            have hempty : rows = t₁.store.loadOpenPending ctx.symbol := hempty
            rw [hstart, not_not.1 hnone] at hempty
            subst hempty
            rw [(runsTo_pure.1 hloop).2, ht₈, hstart]
          rw [← hquiet]
          exact ht₅
        · have hsome : (t₅.store.loadPortfolio ctx.symbol).isSome = true := by
            rw [hportfolio]
            rfl
          exact runsTo_actOnSignal (c := decisionContext runner ctx seen.market portfolio
            (t₅.riskStates.get? ctx.symbol)) hsome hsignal hact

end Cycle

/-! ## What a later cycle would plan -/

section Plans

variable {c : CycleContext} {killSwitchEngaged : Bool} {balances : Balances}

/-- An order that is already submitted is not planned again. -/
theorem exitPlan_alreadySubmitted :
    exitPlan c killSwitchEngaged true balances = none := by
  have hquantity : exitQuantity c killSwitchEngaged true = none := by
    simp only [exitQuantity]
    split
    · rename_i sized _ _
      have hdenied : ((RiskEngine.mk c.runner.config.risk).evaluate
          ⟨.exit, c.store.symbol, sized, c.lastCandle.close⟩
          (exitRiskContext c killSwitchEngaged true)).approved = false := by
        by_contra happroved
        have hopen := (RiskEngine.evaluate_exit_approved_iff rfl).1 (by simpa using happroved)
        cases hopen.notDuplicate
      rw [if_pos hdenied]
    · rfl
  simp only [exitPlan]
  split
  · rfl
  · split
    · rw [hquantity, ite_self]
    · rfl

/-- The same candles and filters at another time. -/
def MarketData.later (market : MarketData) (serverTimeMs : ℤ) : MarketData :=
  ⟨serverTimeMs, market.candles, market.filters, market.nonempty⟩

/-- The same context at another time, with another risk state. -/
def CycleContext.later (c : CycleContext) (serverTimeMs : ℤ) (riskState : RiskState) :
    CycleContext :=
  ⟨c.runner, c.store, c.market.later serverTimeMs, c.portfolio, riskState⟩

/-- What was not planned is not planned later, on the same candles, either. -/
theorem exitPlan_later {alreadySubmitted : Bool} {serverTimeMs : ℤ} {riskState : RiskState}
    (htime : c.market.serverTimeMs ≤ serverTimeMs)
    (herrors : riskState.consecutiveApiErrors = c.riskState.consecutiveApiErrors)
    (h : exitPlan c killSwitchEngaged alreadySubmitted balances = none) :
    exitPlan (c.later serverTimeMs riskState) killSwitchEngaged alreadySubmitted balances =
      none := by
  -- the data only gets older
  have hgates : ∀ config, RiskEngine.UniversalGatesOpen config (exitRiskContext
      (c.later serverTimeMs riskState) killSwitchEngaged alreadySubmitted) →
        RiskEngine.UniversalGatesOpen config (exitRiskContext c killSwitchEngaged alreadySubmitted) := by
    intro config hopen
    refine ⟨hopen.killSwitch, ?_, ?_, hopen.notDuplicate, rfl⟩
    · have hfew := hopen.apiErrors
      simpa [exitRiskContext, CycleContext.later, MarketData.later, herrors] using hfew
    · refine le_trans ?_ hopen.fresh
      have hms : ((c.market.serverTimeMs - c.closeMs : ℤ) : ℚ) ≤
          (serverTimeMs - c.closeMs : ℤ) := by
        exact_mod_cast (by omega : c.market.serverTimeMs - c.closeMs ≤ serverTimeMs - c.closeMs)
      simp only [exitRiskContext]
      exact div_le_div_of_nonneg_right hms (by norm_num)
  have hquantity : exitQuantity c killSwitchEngaged alreadySubmitted = none →
      exitQuantity (c.later serverTimeMs riskState) killSwitchEngaged alreadySubmitted = none := by
    intro hnone
    simp only [exitQuantity, CycleContext.later, MarketData.later, CycleContext.lastCandle] at hnone ⊢
    split at hnone
    · rename_i sized _ hsized
      simp only [hsized]
      by_cases hdenied : ((RiskEngine.mk c.runner.config.risk).evaluate
          ⟨.exit, c.store.symbol, sized, c.lastCandle.close⟩
          (exitRiskContext (c.later serverTimeMs riskState) killSwitchEngaged
            alreadySubmitted)).approved = false
      · exact if_pos hdenied
      · have hlater := (RiskEngine.evaluate_exit_approved_iff rfl).1 (by simpa using hdenied)
        have hearlier := (RiskEngine.evaluate_exit_approved_iff
          (show (⟨.exit, c.store.symbol, sized, c.lastCandle.close⟩ : TradeIntent).signalType =
            .exit from rfl)).2 (hgates _ hlater)
        have hallowed : ¬ ((RiskEngine.mk c.runner.config.risk).evaluate
            ⟨.exit, c.store.symbol, sized, c.lastCandle.close⟩
            (exitRiskContext c killSwitchEngaged alreadySubmitted)).approved = false := by
          rw [hearlier]
          decide
        exact (if_neg hdenied).trans ((if_neg hallowed).symm.trans hnone)
    · rfl
  cases hsignal : c.runner.strategy c.market.candles c.portfolio.positionSide with
  | error e =>
      have hlater : (c.later serverTimeMs riskState).runner.strategy
          (c.later serverTimeMs riskState).market.candles
          (c.later serverTimeMs riskState).portfolio.positionSide = .error e := hsignal
      simp only [exitPlan, hlater]
  | ok signal =>
      have hlater : (c.later serverTimeMs riskState).runner.strategy
          (c.later serverTimeMs riskState).market.candles
          (c.later serverTimeMs riskState).portfolio.positionSide = .ok signal := hsignal
      simp only [exitPlan, hsignal] at h
      simp only [exitPlan, hlater]
      cases htype : signal.type with
      | hold => simp only
      | buy => simp only
      | exit =>
          simp only [htype] at h ⊢
          by_cases hbalances : (compareBalances c.portfolio
              (balanceTotal balances c.store.quoteAsset)
              (balanceTotal balances c.store.baseAsset)).1 = false
          · exact if_pos hbalances
          · exact (if_neg hbalances).trans (hquantity ((if_neg hbalances).symm.trans h))

end Plans

/-! ## Two cycles on the same candle -/

/-- The values a cycle passes to its store. -/
def LiveRunner.storeContext (runner : LiveRunner) (quoteAsset : String) : StoreContext where
  symbol := runner.config.market.symbol
  quoteAsset := quoteAsset
  baseAsset := baseAssetOf runner.config.market.symbol quoteAsset
  fallbackFeePct := runner.config.fees.takerFeePct

/-- No order is sent, and the portfolio, the pending orders and the risk state stay. -/
structure IsNoop (symbol : String) (s s' : AgentState) : Prop where
  noOrder : s'.posted = s.posted
  portfolio : s'.store.loadPortfolio symbol = s.store.loadPortfolio symbol
  pendingOrders : s'.store.pendingOrders = s.store.pendingOrders
  riskState : s'.riskStates.get? symbol = s.riskStates.get? symbol

section Rerun

variable {runner : LiveRunner} {s s' : AgentState}

/-- A cycle that sees the market and returns has gone through `tradeOnMarket`. -/
theorem runsTo_runTestnetCycle {seen : Observation} {result : CycleResult}
    (h : RunsTo seen.Answers (runTestnetCycle runner) s result s') :
    ∃ quoteAsset, quoteAssetOf runner.config.market.symbol = .ok quoteAsset ∧
      RunsTo seen.Answers (tradeOnMarket runner (runner.storeContext quoteAsset) seen.market) s
        result s' := by
  rcases runsTo_bind.1 h with ⟨quoteAsset, t, hquote, hrest⟩
  rcases runsTo_ofExcept.1 hquote with ⟨hasset, ht⟩
  obtain rfl := ht.symm
  rcases runsTo_bind.1 hrest with ⟨answer, t₁, hfetch, htrade⟩
  rcases runsTo_perform.1 hfetch with ⟨hseen, hsame⟩
  have hanswer : answer = .ok seen.market := hseen
  have ht₁ : t₁ = s := hsame
  subst hanswer ht₁
  exact ⟨quoteAsset, hasset, htrade⟩

/-- On the same candles and filters only the time and the risk state differ. -/
theorem decisionContext_eq_later {ctx : StoreContext} {market market' : MarketData}
    {portfolio : PortfolioState} {stored' : Option RiskState} (stored : Option RiskState)
    (hcandles : market'.candles = market.candles) (hfilters : market'.filters = market.filters) :
    decisionContext runner ctx market' portfolio stored' =
      (decisionContext runner ctx market portfolio stored).later market'.serverTimeMs
        (decisionContext runner ctx market' portfolio stored').riskState := by
  cases market with
  | mk serverTimeMs candles filters nonempty =>
      cases market' with
      | mk serverTimeMs' candles' filters' nonempty' =>
          cases hcandles
          cases hfilters
          rfl

theorem rollRiskState_consecutiveApiErrors (stored : RiskState) (equityNow : ℚ) (dayKey : ℤ) :
    (rollRiskState (some stored) equityNow dayKey).consecutiveApiErrors =
      stored.consecutiveApiErrors := by
  simp only [rollRiskState]
  split <;> rfl

/-- The roll of a risk state of the day changes nothing but the cooldown and the peak. -/
theorem rollRiskState_eq_self_iff {riskState : RiskState} {dayKey : ℤ} (equityNow : ℚ)
    (h : riskState.dayKey = dayKey) :
    rollRiskState (some riskState) equityNow dayKey = riskState ↔
      riskState.cooldownBarsRemaining = 0 ∧ equityNow ≤ riskState.peakEquity := by
  rw [rollRiskState_of_day h]
  constructor
  · intro heq
    have hcooldown := congrArg RiskState.cooldownBarsRemaining heq
    have hpeak := congrArg RiskState.peakEquity heq
    simp only at hcooldown hpeak
    exact ⟨by omega, max_eq_left_iff.1 hpeak⟩
  · rintro ⟨hcooldown, hpeak⟩
    rw [max_eq_left hpeak, hcooldown]
    cases riskState
    simpa using hcooldown.symm

/-- The second observation is of the same candles, on the same day. -/
structure SameCandles (first second : Observation) : Prop where
  candles : second.market.candles = first.market.candles
  day : utcDayKey second.market.serverTimeMs = utcDayKey first.market.serverTimeMs

/-- Nothing else a cycle asks about has changed, and the clock has not gone back. -/
structure NothingNew (first second : Observation) : Prop where
  filters : second.market.filters = first.market.filters
  killSwitch : second.killSwitchEngaged = first.killSwitchEngaged
  time : first.market.serverTimeMs ≤ second.market.serverTimeMs

/-- The order a cycle on these tables would submit. -/
def orderDue (runner : LiveRunner) (quoteAsset : String) (seen : Observation)
    (portfolio : PortfolioState) (riskState : RiskState) (s : AgentState) : Option ℚ :=
  let c := decisionContext runner (runner.storeContext quoteAsset) seen.market portfolio
    (some riskState)
  exitPlan c seen.killSwitchEngaged (s.alreadySubmitted c.clientOrderId) seen.balances

/-- What a cycle leaves behind that the next one starts from. -/
structure Concluded (runner : LiveRunner) (quoteAsset : String) (seen : Observation)
    (portfolio : PortfolioState) (riskState : RiskState) (s s' : AgentState) : Prop where
  loaded : s'.store.loadPortfolio runner.config.market.symbol = some portfolio
  saved : s'.riskStates.get? runner.config.market.symbol = some riskState
  day : riskState.dayKey = utcDayKey seen.market.serverTimeMs
  nothingDue : ∀ next : Observation, SameCandles seen next → NothingNew seen next →
    (s'.posted = s.posted → next.balances = seen.balances) →
      orderDue runner quoteAsset next portfolio riskState s' = none

/-- A cycle that returns and leaves nothing unresolved has submitted what was due, or it was not
due. -/
theorem concluded {seen : Observation} {quoteAsset : String} {result : CycleResult}
    (hkeys : (s.store.pendingOrders.map PendingOrder.clientOrderId).Nodup)
    (hopen : ¬ s'.HasOpen runner.config.market.symbol)
    (h : RunsTo seen.Answers (tradeOnMarket runner (runner.storeContext quoteAsset) seen.market) s
      result s') :
    ∃ portfolio riskState, Concluded runner quoteAsset seen portfolio riskState s s' := by
  have hsymbol : (runner.storeContext quoteAsset).symbol = runner.config.market.symbol := rfl
  rcases runsTo_tradeOnMarket (fun _ => hkeys) h with hblocked | ⟨t, portfolio, hposted, hload, -,
    hdecides⟩
  · exact absurd hblocked.2 hopen
  simp only [Decides] at hdecides
  split at hdecides
  · -- an order was submitted, and its row says so
    rcases hdecides.riskState with ⟨riskState, hrisk, hday⟩
    rcases Option.isSome_iff_exists.1 hdecides.portfolio with ⟨portfolio', hportfolio'⟩
    refine ⟨portfolio', riskState, hportfolio', hrisk, ?_, ?_⟩
    · rw [hday]
      exact rollRiskState_dayKey _ _ _
    · intro next hsame _ _
      have hid : (decisionContext runner (runner.storeContext quoteAsset) next.market portfolio'
          (some riskState)).clientOrderId = (decisionContext runner (runner.storeContext quoteAsset)
            seen.market portfolio (t.riskStates.get? runner.config.market.symbol)).clientOrderId := by
        simp only [CycleContext.clientOrderId, CycleContext.closeMs, CycleContext.lastCandle,
          decisionContext, hsame.candles]
      have halready : s'.alreadySubmitted (decisionContext runner (runner.storeContext quoteAsset)
          next.market portfolio' (some riskState)).clientOrderId = true := by
        rw [hid, AgentState.alreadySubmitted, ← hsymbol, hdecides.pending, Bool.true_or]
      simp only [orderDue, halready]
      exact exitPlan_alreadySubmitted
  · -- none was due, and what is due next is decided from the same data
    rename_i hplan
    refine ⟨portfolio, (decisionContext runner (runner.storeContext quoteAsset) seen.market
      portfolio (t.riskStates.get? runner.config.market.symbol)).riskState, ?_, ?_,
      rollRiskState_dayKey _ _ _, ?_⟩
    · rw [hdecides.store]
      exact hload
    · rw [hdecides.riskStates]
      exact Dict.get?_set_self ..
    · intro next hsame hnew hbalances
      have hsent : s'.posted = s.posted := hdecides.posted.trans hposted
      rw [orderDue, decisionContext_eq_later (t.riskStates.get? runner.config.market.symbol)
        hsame.candles hnew.filters,
        hdecides.alreadySubmitted, hbalances hsent, hnew.killSwitch]
      apply exitPlan_later hnew.time _ hplan
      exact rollRiskState_consecutiveApiErrors _ _ _

/-- A cycle that starts from what an earlier one on the same day has concluded. -/
theorem isNoop_iff_of_concluded {first second : Observation} {quoteAsset : String}
    {portfolio : PortfolioState} {riskState : RiskState} {s₀ : AgentState} {result : CycleResult}
    (hconcluded : Concluded runner quoteAsset first portfolio riskState s₀ s)
    (hsame : SameCandles first second) (hopen : ¬ s.HasOpen runner.config.market.symbol)
    (h : RunsTo second.Answers
      (tradeOnMarket runner (runner.storeContext quoteAsset) second.market) s result s') :
    IsNoop runner.config.market.symbol s s' ↔
      riskState.cooldownBarsRemaining = 0 ∧
        portfolio.equity (second.market.candles.getLast second.market.nonempty).close ≤
          riskState.peakEquity ∧
        orderDue runner quoteAsset second portfolio riskState s = none := by
  -- the rerun reads the portfolio and the risk state the first cycle has left
  rcases runsTo_tradeOnMarket (fun h => absurd h hopen) h with hblocked | ⟨t, portfolio', hposted,
    hload, hquiet, hdecides⟩
  · exact absurd hblocked.1 hopen
  have ht : OnlyJournals s t := by
    refine hquiet ?_ hopen
    rw [show (runner.storeContext quoteAsset).symbol = runner.config.market.symbol from rfl,
      hconcluded.loaded]
    rfl
  obtain rfl : portfolio' = portfolio := by
    have hstored := hconcluded.loaded
    rw [← ht.store, show runner.config.market.symbol = (runner.storeContext quoteAsset).symbol
      from rfl, hload] at hstored
    exact Option.some.inj hstored
  have hstored : t.riskStates.get? (runner.storeContext quoteAsset).symbol = some riskState := by
    rw [ht.riskStates]
    exact hconcluded.saved
  have hday : riskState.dayKey = utcDayKey second.market.serverTimeMs :=
    hconcluded.day.trans hsame.day.symm
  rw [hstored] at hdecides
  simp only [Decides, ht.alreadySubmitted] at hdecides
  cases hdue : orderDue runner quoteAsset second portfolio' riskState s with
  | some quantity =>
      simp only [orderDue] at hdue
      rw [hdue] at hdecides
      constructor
      · -- an order that is due is posted
        intro hnoop
        have hgrown := hdecides.posted
        rw [hnoop.noOrder, ht.posted] at hgrown
        exact absurd hgrown (lt_irrefl _)
      · rintro ⟨-, -, hnone⟩
        cases hnone
  | none =>
      simp only [orderDue] at hdue
      rw [hdue] at hdecides
      -- all that is written is the risk state, rolled once more
      have hsaved : s'.riskStates.get? runner.config.market.symbol = some (rollRiskState
          (some riskState)
          (portfolio'.equity (second.market.candles.getLast second.market.nonempty).close)
          (utcDayKey second.market.serverTimeMs)) := by
        rw [hdecides.riskStates]
        exact Dict.get?_set_self ..
      have hroll := rollRiskState_eq_self_iff
        (portfolio'.equity (second.market.candles.getLast second.market.nonempty).close) hday
      constructor
      · intro hnoop
        have hstay := hnoop.riskState
        rw [hsaved, hconcluded.saved] at hstay
        rcases hroll.1 (Option.some.inj hstay) with ⟨hcooldown, hpeak⟩
        exact ⟨hcooldown, hpeak, rfl⟩
      · rintro ⟨hcooldown, hpeak, -⟩
        refine ⟨hdecides.posted.trans ht.posted, ?_, ?_, ?_⟩
        · rw [hdecides.store, ht.store]
        · rw [hdecides.store, ht.store]
        · rw [hsaved, hconcluded.saved, hroll.2 ⟨hcooldown, hpeak⟩]

/-- A second cycle on the same candles changes nothing exactly when no cooldown is running, the
equity is no new peak, and no order is due that the first one has not submitted; where nothing but
the time has changed, none is due. -/
theorem rerun_isNoop_iff {first second : Observation} {s₀ s₁ s₂ : AgentState}
    {result₁ result₂ : CycleResult}
    (hkeys : (s₀.store.pendingOrders.map PendingOrder.clientOrderId).Nodup)
    (hfirst : RunsTo first.Answers (runTestnetCycle runner) s₀ result₁ s₁)
    (hsecond : RunsTo second.Answers (runTestnetCycle runner) s₁ result₂ s₂)
    (hsame : SameCandles first second) (hresolved : ¬ s₁.HasOpen runner.config.market.symbol) :
    ∃ quoteAsset portfolio riskState,
      quoteAssetOf runner.config.market.symbol = .ok quoteAsset ∧
      s₁.store.loadPortfolio runner.config.market.symbol = some portfolio ∧
      s₁.riskStates.get? runner.config.market.symbol = some riskState ∧
      (IsNoop runner.config.market.symbol s₁ s₂ ↔
        riskState.cooldownBarsRemaining = 0 ∧
          portfolio.equity (second.market.candles.getLast second.market.nonempty).close ≤
            riskState.peakEquity ∧
          orderDue runner quoteAsset second portfolio riskState s₁ = none) ∧
      (NothingNew first second → (s₁.posted = s₀.posted → second.balances = first.balances) →
        orderDue runner quoteAsset second portfolio riskState s₁ = none) := by
  rcases runsTo_runTestnetCycle hfirst with ⟨quoteAsset, hasset, htrade₁⟩
  rcases runsTo_runTestnetCycle hsecond with ⟨quoteAsset', hasset', htrade₂⟩
  obtain rfl : quoteAsset' = quoteAsset := by
    rw [hasset] at hasset'
    exact (Except.ok.inj hasset').symm
  rcases concluded hkeys hresolved htrade₁ with ⟨portfolio, riskState, hconcluded⟩
  refine ⟨quoteAsset', portfolio, riskState, hasset, hconcluded.loaded, hconcluded.saved,
    isNoop_iff_of_concluded hconcluded hsame hresolved htrade₂, ?_⟩
  exact hconcluded.nothingDue second hsame

end Rerun

/-! ## Two cycles that hold -/

/-- The tables answer for themselves, the outside as observed; the exchange does not answer. -/
def Observation.choose (seen : Observation) :
    (effect : LiveEffect) → AgentState → effect.Answer × AgentState
  | .fetchMarketData _, s => (.ok seen.market, s)
  | .killSwitchEngaged, s => (seen.killSwitchEngaged, s)
  | .loadPortfolio symbol, s => (s.store.loadPortfolio symbol, s)
  | .savePortfolio symbol state, s => ((), { s with store := s.store.savePortfolio symbol state })
  | .loadOpenPending symbol, s => (s.store.loadOpenPending symbol, s)
  | .getPending id, s => (s.store.getPending id, s)
  | .createPending id symbol side quantity closeMs nowMs, s =>
      ((), { s with store := s.store.createPending id symbol side quantity closeMs nowMs })
  | .applyOrderResult ctx order nowMs, s =>
      let outcome := applyOrderResultAtomically ctx none order nowMs s.store
      (outcome.1, { s with store := outcome.2 })
  | .loadRiskState symbol, s => (s.riskStates.get? symbol, s)
  | .saveRiskState symbol state, s => ((), { s with riskStates := s.riskStates.set symbol state })
  | .journalRecord entryType payload timestampMs, s =>
      ((), { s with journal := s.journal ++ [⟨timestampMs, entryType, payload⟩] })
  | .journalEntriesByType entryType, s =>
      (s.journal.filter fun entry => entry.entryType = entryType, s)
  | .getAccountBalances, s => (.ok seen.balances, s)
  | .getOrder _ _, s => (.error (.request "timed out"), s)
  | .placeMarketOrder _ _ _ id, s =>
      (.error (.request "timed out"), { s with posted := id :: s.posted })

theorem Observation.serve_choose (seen : Observation) (effect : LiveEffect) (s : AgentState) :
    (agentEnvironment seen.Answers).serve effect s (seen.choose effect s).1
      (seen.choose effect s).2 := by
  cases effect with
  | fetchMarketData | killSwitchEngaged | getAccountBalances => exact ⟨rfl, rfl⟩
  | savePortfolio | createPending | saveRiskState | journalRecord => exact ⟨trivial, rfl⟩
  | loadPortfolio | loadOpenPending | getPending | loadRiskState => exact ⟨trivial, rfl, rfl⟩
  | journalEntriesByType | applyOrderResult | getOrder | placeMarketOrder =>
      exact ⟨trivial, by trivial, rfl⟩

namespace HoldTwice

def runner : LiveRunner where
  config := {}
  strategy := fun _ _ => .ok ⟨.hold, "ALWAYS_HOLD", 0, []⟩
  clientOrderId := fun _ _ _ => "exit-1"

def seen : Observation where
  market := OneExit.market
  killSwitchEngaged := false
  balances := [("USDT", (0, 0)), ("BTC", (1, 0))]

/-- One base unit at the price of its peak, with a cooldown stored. -/
def tables (cooldownBarsRemaining : ℕ) : AgentState where
  store := OneExit.world.store
  riskStates := [("BTCUSDT", ⟨0, 100, 0, 0, 100, cooldownBarsRemaining, 0⟩)]
  journal := []
  posted := []

/-- The tables after one more cycle. -/
def next (s : AgentState) : AgentState :=
  ((runTestnetCycle runner).execute seen.choose s).2

def cooldownOf (s : AgentState) : Option ℕ :=
  (s.riskStates.get? "BTCUSDT").map RiskState.cooldownBarsRemaining

theorem runsTo_next {s : AgentState}
    (h : ((runTestnetCycle runner).execute seen.choose s).1.toBool = true) :
    ∃ result, RunsTo seen.Answers (runTestnetCycle runner) s result (next s) := by
  cases hrun : (runTestnetCycle runner).execute seen.choose s with
  | mk outcome s' =>
      cases outcome with
      | error e =>
          rw [hrun] at h
          cases h
      | ok result =>
          refine ⟨result, Program.returns_of_execute seen.serve_choose ?_⟩
          rw [hrun, next, hrun]

end HoldTwice

/-- With a cooldown of three bars stored, two cycles on one candle spend two of them. -/
theorem rerun_spends_cooldown :
    ∃ result₁ result₂,
      RunsTo HoldTwice.seen.Answers (runTestnetCycle HoldTwice.runner) (HoldTwice.tables 3) result₁
        (HoldTwice.next (HoldTwice.tables 3)) ∧
      RunsTo HoldTwice.seen.Answers (runTestnetCycle HoldTwice.runner)
        (HoldTwice.next (HoldTwice.tables 3)) result₂
        (HoldTwice.next (HoldTwice.next (HoldTwice.tables 3))) ∧
      ¬ (HoldTwice.next (HoldTwice.tables 3)).HasOpen "BTCUSDT" ∧
      HoldTwice.cooldownOf (HoldTwice.next (HoldTwice.tables 3)) = some 2 ∧
      HoldTwice.cooldownOf (HoldTwice.next (HoldTwice.next (HoldTwice.tables 3))) = some 1 := by
  rcases HoldTwice.runsTo_next (s := HoldTwice.tables 3) (by decide +kernel) with ⟨r₁, h₁⟩
  rcases HoldTwice.runsTo_next (s := HoldTwice.next (HoldTwice.tables 3)) (by decide +kernel) with
    ⟨r₂, h₂⟩
  refine ⟨r₁, r₂, h₁, h₂, ?_, by decide +kernel, by decide +kernel⟩
  rw [AgentState.HasOpen, not_not]
  decide +kernel

/-- Without a cooldown the second of two cycles that hold changes nothing. -/
theorem rerun_isNoop_without_cooldown :
    IsNoop "BTCUSDT" (HoldTwice.next (HoldTwice.tables 0))
      (HoldTwice.next (HoldTwice.next (HoldTwice.tables 0))) := by
  rcases HoldTwice.runsTo_next (s := HoldTwice.tables 0) (by decide +kernel) with ⟨r₁, h₁⟩
  rcases HoldTwice.runsTo_next (s := HoldTwice.next (HoldTwice.tables 0)) (by decide +kernel) with
    ⟨r₂, h₂⟩
  have hresolved : ¬ (HoldTwice.next (HoldTwice.tables 0)).HasOpen "BTCUSDT" := by
    rw [AgentState.HasOpen, not_not]
    decide +kernel
  have hkeys : ((HoldTwice.tables 0).store.pendingOrders.map PendingOrder.clientOrderId).Nodup :=
    List.nodup_nil
  rcases rerun_isNoop_iff hkeys h₁ h₂ ⟨rfl, rfl⟩ hresolved with
    ⟨quoteAsset, portfolio, riskState, -, hportfolio, hriskState, hnoop, hdue⟩
  refine hnoop.2 ⟨?_, ?_, hdue ⟨rfl, rfl, le_rfl⟩ fun _ => rfl⟩
  · have hzero : HoldTwice.cooldownOf (HoldTwice.next (HoldTwice.tables 0)) = some 0 := by
      decide +kernel
    rw [HoldTwice.cooldownOf, show "BTCUSDT" = HoldTwice.runner.config.market.symbol from rfl,
      hriskState] at hzero
    exact Option.some.inj hzero
  · have hequity : ((HoldTwice.next (HoldTwice.tables 0)).store.loadPortfolio "BTCUSDT").map
        (PortfolioState.equity · 100) = some 100 := by decide +kernel
    have hpeak : ((HoldTwice.next (HoldTwice.tables 0)).riskStates.get? "BTCUSDT").map
        RiskState.peakEquity = some 100 := by decide +kernel
    rw [show "BTCUSDT" = HoldTwice.runner.config.market.symbol from rfl, hportfolio] at hequity
    rw [show "BTCUSDT" = HoldTwice.runner.config.market.symbol from rfl, hriskState] at hpeak
    have hequity : portfolio.equity 100 = 100 := Option.some.inj hequity
    have hpeak : riskState.peakEquity = 100 := Option.some.inj hpeak
    exact le_of_eq (hequity.trans hpeak.symm)

end TradingAgent
