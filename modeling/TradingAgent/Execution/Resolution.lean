import TradingAgent.Execution.FillAccounting
import TradingAgent.Library.Runs
import Mathlib.Data.List.Induction

/-!
# Resolution — the row of an order that is closed

What a call of `apply_order_result_atomically` leaves in the row of an order, for every report it
can be handed and in every context that keeps the sign of a difference.

* `ReportOutcome` says once what a report can do: it is refused, brings nothing new, is taken by
  the portfolio or refused by it;
* `resolved_totals_match_iff` is about the figures of a row that is RESOLVED;
* `resolved_is_absorbing_iff` is about what a later report does to such a row.
-/

namespace TradingAgent

/-! ## What a report can do -/

/-- `apply_fill_delta` as a report calls it, on the difference to what was applied before. -/
def executionDelta (context : DecimalContext) (order : OrderResult) (side : OrderSide)
    (quoteAsset baseAsset : String) (portfolio : PortfolioState) (applied : AppliedExecution)
    (fee : ℚ) : Except PyError PortfolioState :=
  let deltaQuoteQty := context.sub order.cumulativeQuoteQty applied.cumulativeQuoteQty
  let buckets := computeCommissionBuckets context order.fills quoteAsset baseAsset deltaQuoteQty fee
  applyFillDelta portfolio side (context.sub order.executedQty applied.executedQty) deltaQuoteQty
    buckets.quote buckets.base buckets.isEstimated context

/-- A report that executes nothing the row has not applied already. -/
def NothingFurther (context : DecimalContext) (order : OrderResult) (applied : AppliedExecution) :
    Prop :=
  order.status = .new ∨ context.sub order.executedQty applied.executedQty ≤ 0

inductive ReportOutcome (context : DecimalContext) (order : OrderResult) (side : OrderSide)
    (quoteAsset baseAsset : String) (portfolio : PortfolioState) (applied : AppliedExecution)
    (fee : ℚ) : Except PyError OrderApplicationResult → Prop
  | refused (reason : InconsistentReport) :
      ¬ReportAccepted order applied →
      ReportOutcome context order side quoteAsset baseAsset portfolio applied fee
        (.error (.inconsistentReport reason))
  | unchanged (r : OrderApplicationResult) :
      ReportAccepted order applied → NothingFurther context order applied →
      r.portfolio = portfolio → r.newApplied = applied →
      r.isTerminal = order.status.isTerminal →
      ReportOutcome context order side quoteAsset baseAsset portfolio applied fee (.ok r)
  | unaffordable (e : PyError) :
      ReportAccepted order applied → ¬NothingFurther context order applied →
      executionDelta context order side quoteAsset baseAsset portfolio applied fee = .error e →
      ReportOutcome context order side quoteAsset baseAsset portfolio applied fee (.error e)
  | applied (r : OrderApplicationResult) :
      ReportAccepted order applied → ¬NothingFurther context order applied →
      executionDelta context order side quoteAsset baseAsset portfolio applied fee =
        .ok r.portfolio →
      r.newApplied.totals = order.totals → r.isTerminal = order.status.isTerminal →
      ReportOutcome context order side quoteAsset baseAsset portfolio applied fee (.ok r)

section Outcomes

variable {context : DecimalContext} {order : OrderResult} {side : OrderSide}
variable {quoteAsset baseAsset : String} {portfolio : PortfolioState}
variable {applied : AppliedExecution} {fee : ℚ}

/-- Whatever the report, `compute_order_application` ends in one of the four ways. -/
theorem computeOrderApplication_outcome :
    ReportOutcome context order side quoteAsset baseAsset portfolio applied fee
      (computeOrderApplication context order side quoteAsset baseAsset portfolio applied fee) := by
  unfold computeOrderApplication
  simp only
  split
  · rename_i hless
    exact .refused _ fun haccepted => absurd haccepted.executed (not_le.2 hless)
  rename_i hexecuted
  split
  · rename_i hless
    exact .refused _ fun haccepted => absurd haccepted.quote (not_le.2 hless)
  rename_i hquote
  split
  · rename_i hmismatch
    exact .refused _ fun haccepted => hmismatch haccepted.together
  rename_i htogether
  have haccepted : ReportAccepted order applied :=
    ⟨not_lt.1 hexecuted, not_lt.1 hquote, not_not.1 htogether⟩
  split
  · -- NEW: nothing is applied, whatever the figures say
    rename_i hnew
    exact .unchanged _ haccepted (Or.inl hnew) rfl rfl (by simp [hnew, OrderStatus.isTerminal])
  rename_i hnew
  split
  · rename_i hdelta
    exact .unchanged _ haccepted (Or.inr hdelta) rfl rfl rfl
  rename_i hdelta
  have hmore : ¬NothingFurther context order applied := fun hnothing => hnothing.elim hnew hdelta
  cases hfill : executionDelta context order side quoteAsset baseAsset portfolio applied fee with
  | error e =>
      simp only [executionDelta] at hfill
      rw [hfill]
      exact .unaffordable e haccepted hmore hfill
  | ok newPortfolio =>
      simp only [executionDelta] at hfill
      rw [hfill]
      exact .applied _ haccepted hmore hfill rfl rfl

theorem ReportOutcome.accepted {r : OrderApplicationResult}
    (h : ReportOutcome context order side quoteAsset baseAsset portfolio applied fee (.ok r)) :
    ReportAccepted order applied := by
  cases h with
  | unchanged _ haccepted _ _ _ _ => exact haccepted
  | applied _ haccepted _ _ _ _ => exact haccepted

theorem ReportOutcome.terminal {r : OrderApplicationResult}
    (h : ReportOutcome context order side quoteAsset baseAsset portfolio applied fee (.ok r)) :
    r.isTerminal = order.status.isTerminal := by
  cases h with
  | unchanged _ _ _ _ _ hstatus => exact hstatus
  | applied _ _ _ _ _ hstatus => exact hstatus

/-- The exceptions by which the portfolio refuses an execution. -/
inductive PortfolioRefusal : PyError → Prop
  | transition (t : InvalidTransition) : PortfolioRefusal (.invalidTransition t)
  | commission (c : ℚ) : PortfolioRefusal (.unsupportedCommission c)
  | division : PortfolioRefusal .zeroDivision

section Refusals

variable {quantity price commission : ℚ} {isEstimated : Bool} {e : PyError}

theorem applyBuy_refusal (h : applyBuy portfolio quantity price commission isEstimated context =
    .error e) : PortfolioRefusal e := by
  unfold applyBuy at h
  split at h
  · cases h
    exact .transition _
  · dsimp only at h
    split at h
    · cases h
      exact .transition _
    · cases h

theorem applyPartialFillIncrease_refusal (h : applyPartialFillIncrease portfolio quantity price
    commission isEstimated context = .error e) : PortfolioRefusal e := by
  unfold applyPartialFillIncrease at h
  split at h
  · dsimp only at h
    split at h
    · cases h
      exact .transition _
    · split at h
      · cases h
        exact .division
      · cases h
  · cases h
    exact .transition _

theorem applySell_refusal (h : applySell portfolio quantity price commission isEstimated context =
    .error e) : PortfolioRefusal e := by
  unfold applySell at h
  split at h
  · split at h
    · cases h
      exact .transition _
    · cases h
  · cases h
    exact .transition _

end Refusals

theorem executionDelta_refusal {e : PyError}
    (h : executionDelta context order side quoteAsset baseAsset portfolio applied fee = .error e) :
    PortfolioRefusal e := by
  simp only [executionDelta, applyFillDelta] at h
  cases side with
  | buy =>
      simp only at h
      split at h
      · cases h
        exact .transition _
      · split at h
        · exact applyPartialFillIncrease_refusal h
        · exact applyBuy_refusal h
  | sell =>
      simp only at h
      split at h
      · cases h
        exact .commission _
      · split at h
        · cases h
          exact .transition _
        · exact applySell_refusal h

end Outcomes

/-! ## Calls of the store -/

/-- The store after a call, whether it returned or raised. -/
def takeReport (ctx : StoreContext) (store : ExecutionState) (call : ReportCall) :
    ExecutionState :=
  (applyOrderResultAtomically ctx call.raiseFaultAt call.report call.nowMs store).2

/-- What a call without a fault computes once it has read its two rows. -/
def computeFrom (ctx : StoreContext) (order : OrderResult) (pending : PendingOrder)
    (portfolio : PortfolioState) : Except PyError OrderApplicationResult :=
  computeOrderApplication ctx.decimal order pending.side ctx.quoteAsset ctx.baseAsset portfolio
    pending.applied ctx.fallbackFeePct

section Calls

variable {ctx : StoreContext} {store : ExecutionState} {call : ReportCall}
variable {order : OrderResult} {nowMs : ℤ} {pending : PendingOrder} {portfolio : PortfolioState}

theorem applyOrderResultAtomically_of_rows
    (hfound : store.getPending order.clientOrderId = some pending)
    (hloaded : store.loadPortfolio ctx.symbol = some portfolio) :
    applyOrderResultAtomically ctx none order nowMs store =
      match computeFrom ctx order pending portfolio with
      | .ok result =>
          (.ok result, (store.savePortfolio ctx.symbol result.portfolio).updatePending
            order.clientOrderId fun row => row.record order result nowMs)
      | .error e => (.error e, store) := by
  cases hcomputed : computeFrom ctx order pending portfolio with
  | error e =>
      simp only [computeFrom] at hcomputed
      simp [applyOrderResultAtomically, applyOrderResult, hfound, hloaded, hcomputed]
  | ok result =>
      simp only [computeFrom] at hcomputed
      simp [applyOrderResultAtomically, applyOrderResult, hfound, hloaded, hcomputed,
        -bind_pure_comp]

/-- Without the order's row or the portfolio's the call raises. -/
theorem applyOrderResultAtomically_of_missing {fault : Option FaultPoint}
    (h : store.getPending order.clientOrderId = none ∨ store.loadPortfolio ctx.symbol = none) :
    ∃ e, applyOrderResultAtomically ctx fault order nowMs store = (.error e, store) := by
  cases hcall : applyOrderResultAtomically ctx fault order nowMs store with
  | mk outcome s =>
      cases outcome with
      | ok r =>
          rcases applyOrderResultAtomically_eq_ok hcall with ⟨-, ⟨c⟩⟩
          rcases h with hnone | hnone
          · rw [c.found] at hnone
            cases hnone
          · rw [c.loaded] at hnone
            cases hnone
      | error e =>
          exact ⟨e, by rw [applyOrderResultAtomically_error hcall]⟩

theorem takeReport_of_error {e : PyError} {s : ExecutionState}
    (h : applyOrderResultAtomically ctx call.raiseFaultAt call.report call.nowMs store =
      (.error e, s)) : takeReport ctx store call = store := by
  rw [takeReport, h]
  exact applyOrderResultAtomically_error h

end Calls

/-! ## The totals of a closed row -/

instance (order : OrderResult) (applied : AppliedExecution) :
    Decidable (ReportAccepted order applied) :=
  decidable_of_iff (applied.executedQty ≤ order.executedQty ∧
      applied.cumulativeQuoteQty ≤ order.cumulativeQuoteQty ∧
      (order.executedQty = 0 ↔ order.cumulativeQuoteQty = 0))
    ⟨fun ⟨hexecuted, hquote, htogether⟩ => ⟨hexecuted, hquote, htogether⟩,
      fun h => ⟨h.executed, h.quote, h.together⟩⟩

instance (a b : ℚ × ℚ) : Decidable (GrowsTogether a b) :=
  decidable_of_iff (a.1 ≤ b.1 ∧ a.2 ≤ b.2 ∧ (a.1 < b.1 ↔ a.2 < b.2))
    ⟨fun ⟨hexecuted, hquote, htogether⟩ => ⟨hexecuted, hquote, htogether⟩,
      fun h => ⟨h.executed, h.quote, h.together⟩⟩

/-- Figures that pass every check although only one of them has grown. -/
def HalfGrown (order : OrderResult) (applied : AppliedExecution) : Prop :=
  ReportAccepted order applied ∧ ¬GrowsTogether applied.totals order.totals

instance (order : OrderResult) (applied : AppliedExecution) : Decidable (HalfGrown order applied) :=
  inferInstanceAs (Decidable (_ ∧ _))

/-- A call that hands such a report to a row and a portfolio that are there. -/
def HalfGrownAt (ctx : StoreContext) (store : ExecutionState) (call : ReportCall) : Prop :=
  call.raiseFaultAt = none ∧ (store.loadPortfolio ctx.symbol).isSome ∧
    ∃ pending ∈ store.getPending call.report.clientOrderId, HalfGrown call.report pending.applied

instance (ctx : StoreContext) (store : ExecutionState) (call : ReportCall) :
    Decidable (HalfGrownAt ctx store call) :=
  inferInstanceAs (Decidable (_ ∧ _ ∧ _))

/-- A row the call leaves RESOLVED has the report's totals, and a report that does not grow out of
what was applied is refused as inconsistent, both tables left as they were. -/
structure AppliesConsistently (ctx : StoreContext) (store : ExecutionState) (call : ReportCall) :
    Prop where
  resolved : ∀ result store' row,
    applyOrderResultAtomically ctx call.raiseFaultAt call.report call.nowMs store =
        (.ok result, store') →
      store'.getPending call.report.clientOrderId = some row → row.status = .resolved →
      row.applied.totals = call.report.totals
  refused : ∀ pending, store.getPending call.report.clientOrderId = some pending →
    ¬GrowsTogether pending.applied.totals call.report.totals →
    ∃ e, applyOrderResultAtomically ctx call.raiseFaultAt call.report call.nowMs store =
        (.error e, store) ∧
      (call.raiseFaultAt = none → (store.loadPortfolio ctx.symbol).isSome →
        ∃ reason, e = .inconsistentReport reason)

section Totals

variable {ctx : StoreContext} {store store' : ExecutionState} {call : ReportCall}
variable {order : OrderResult} {nowMs : ℤ} {result : OrderApplicationResult}
variable {applied : AppliedExecution}

/-- The outcome of a call that has committed. -/
theorem Committed.outcome (c : Committed ctx order nowMs store result store') :
    ReportOutcome ctx.decimal order c.pending.side ctx.quoteAsset ctx.baseAsset c.portfolio
      c.pending.applied ctx.fallbackFeePct (.ok result) := by
  rw [← c.computed]
  exact computeOrderApplication_outcome

/-- Figures that grow together and bring no base quantity have not changed. -/
theorem totals_eq_of_nothingNew (hsign : ctx.decimal.KeepsSign)
    (hgrows : GrowsTogether applied.totals order.totals)
    (hnothing : NothingFurther ctx.decimal order applied) (hterminal : order.status.isTerminal) :
    order.totals = applied.totals := by
  rcases hnothing with hnew | hdelta
  · simp [hnew, OrderStatus.isTerminal] at hterminal
  · apply hgrows.eq_of_le
    have hsame : order.executedQty = applied.executedQty :=
      (hsign.sub_nonpos hgrows.executed).1 hdelta
    exact hsame.le

/-- A committed report that is not half grown gives a closed row its totals. -/
theorem Committed.totals_of_resolved (hsign : ctx.decimal.KeepsSign)
    (c : Committed ctx order nowMs store result store') (hhalf : ¬HalfGrown order c.pending.applied)
    (hterminal : result.isTerminal = true) : result.newApplied.totals = order.totals := by
  cases c.outcome with
  | unchanged _ haccepted hnothing _ hsame hstatus =>
      have hgrows : GrowsTogether c.pending.applied.totals order.totals := by
        by_contra hnot
        exact hhalf ⟨haccepted, hnot⟩
      rw [hsame]
      exact (totals_eq_of_nothingNew hsign hgrows hnothing (hstatus ▸ hterminal)).symm
  | applied _ _ _ _ htotals _ => exact htotals

/-- A call that commits found its rows, so a half-grown report in it is one in the store. -/
theorem Committed.not_halfGrown (c : Committed ctx call.report nowMs store result store')
    (hfault : call.raiseFaultAt = none) (h : ¬HalfGrownAt ctx store call) :
    ¬HalfGrown call.report c.pending.applied := by
  intro hhalf
  exact h ⟨hfault, by rw [c.loaded]; rfl, c.pending, c.found, hhalf⟩

/-- A half-grown report is not applied consistently: the call does not raise, or not for that. -/
theorem AppliesConsistently.not_halfGrown (h : AppliesConsistently ctx store call) :
    ¬HalfGrownAt ctx store call := by
  rintro ⟨hfault, hportfolio, pending, hfound, haccepted, hnot⟩
  rcases Option.isSome_iff_exists.1 hportfolio with ⟨portfolio, hloaded⟩
  rcases h.refused pending hfound hnot with ⟨e, hcall, hreason⟩
  rcases hreason hfault hportfolio with ⟨reason, rfl⟩
  have houtcome : ReportOutcome _ _ _ _ _ _ _ _
      (computeFrom ctx call.report pending portfolio) := computeOrderApplication_outcome
  rw [hfault, applyOrderResultAtomically_of_rows hfound hloaded] at hcall
  generalize computeFrom ctx call.report pending portfolio = outcome at houtcome hcall
  -- an accepted report is applied, or refused by the portfolio for another reason
  cases houtcome with
  | refused reason' hrefused => exact hrefused haccepted
  | unchanged r _ _ _ _ _ => cases hcall
  | unaffordable e' _ _ hdelta =>
      cases hcall
      cases executionDelta_refusal hdelta
  | applied r _ _ _ _ _ => cases hcall

/-- A report that the checks turn down raises and leaves both tables as they were. -/
theorem raises_of_not_accepted {pending : PendingOrder}
    (hfound : store.getPending call.report.clientOrderId = some pending)
    (hrefused : call.raiseFaultAt = none → (store.loadPortfolio ctx.symbol).isSome →
      ¬ReportAccepted call.report pending.applied) :
    ∃ e, applyOrderResultAtomically ctx call.raiseFaultAt call.report call.nowMs store =
        (.error e, store) ∧
      (call.raiseFaultAt = none → (store.loadPortfolio ctx.symbol).isSome →
        ∃ reason, e = .inconsistentReport reason) := by
  cases hfault : call.raiseFaultAt with
  | some point =>
      -- an injected fault comes first
      have hraises : ∃ e, applyOrderResultAtomically ctx (some point) call.report call.nowMs
          store = (.error e, store) := applyOrderResultAtomically_fault point
      rcases hraises with ⟨e, hcall⟩
      exact ⟨e, hcall, by simp⟩
  | none =>
      cases hloaded : store.loadPortfolio ctx.symbol with
      | none =>
          have hraises : ∃ e, applyOrderResultAtomically ctx none call.report call.nowMs
              store = (.error e, store) :=
            applyOrderResultAtomically_of_missing (Or.inr hloaded)
          rcases hraises with ⟨e, hcall⟩
          exact ⟨e, hcall, by simp⟩
      | some portfolio =>
          have hnot : ¬ReportAccepted call.report pending.applied :=
            hrefused hfault (by rw [hloaded]; rfl)
          have houtcome : ReportOutcome _ _ _ _ _ _ _ _
              (computeFrom ctx call.report pending portfolio) := computeOrderApplication_outcome
          rw [applyOrderResultAtomically_of_rows hfound hloaded]
          generalize computeFrom ctx call.report pending portfolio = outcome at houtcome ⊢
          cases houtcome with
          | refused reason _ => exact ⟨_, rfl, fun _ _ => ⟨reason, rfl⟩⟩
          | unchanged r haccepted _ _ _ _ => exact absurd haccepted hnot
          | unaffordable e haccepted _ _ => exact absurd haccepted hnot
          | applied r haccepted _ _ _ _ => exact absurd haccepted hnot

/-- **Exactly the half-grown reports are applied wrongly.** -/
theorem appliesConsistently_iff (hsign : ctx.decimal.KeepsSign) :
    AppliesConsistently ctx store call ↔ ¬HalfGrownAt ctx store call := by
  constructor
  · exact AppliesConsistently.not_halfGrown
  · intro h
    constructor
    case resolved =>
      intro result store' row hcall hrow hstatus
      rcases applyOrderResultAtomically_eq_ok hcall with ⟨hfault, ⟨c⟩⟩
      rw [c.readBack.1] at hrow
      cases hrow
      have hterminal : result.isTerminal = true := by
        by_contra hopen
        simp [PendingOrder.record, hopen] at hstatus
      exact c.totals_of_resolved hsign (c.not_halfGrown hfault h) hterminal
    case refused =>
      intro pending hfound hnot
      apply raises_of_not_accepted hfound
      intro hfault hportfolio haccepted
      exact h ⟨hfault, hportfolio, pending, hfound, haccepted, hnot⟩

/-- The call of a run that closed the row: a terminal report, and no call after it has changed the
store. -/
def ClosedBy (ctx : StoreContext) (store : ExecutionState) (calls : List ReportCall)
    (row : PendingOrder) : Prop :=
  ∃ before call after, calls = before ++ call :: after ∧
    Runs.final (takeReport ctx) store calls =
      Runs.final (takeReport ctx) store (before ++ [call]) ∧
    call.report.status.isTerminal ∧ row.resolvedOrderStatus = some call.report.status ∧
    row.applied.totals = call.report.totals

/-- A row that is RESOLVED after a run without half-grown reports was closed by one of its calls. -/
theorem closedBy_of_run (hsign : ctx.decimal.KeepsSign) {id : String} {calls : List ReportCall}
    (hid : ∀ call ∈ calls, call.report.clientOrderId = id)
    (hopen : ∀ row, store.getPending id = some row → row.status = .submitted)
    (hrun : Runs.Along (takeReport ctx) (fun s call => ¬HalfGrownAt ctx s call) store calls)
    {row : PendingOrder}
    (hrow : (Runs.final (takeReport ctx) store calls).getPending id = some row)
    (hstatus : row.status = .resolved) : ClosedBy ctx store calls row := by
  -- the last call either raised and left the row as it was, or wrote the row itself
  induction calls using List.reverseRecOn generalizing row with
  | nil =>
      rw [hopen row hrow] at hstatus
      cases hstatus
  | append_singleton calls call ih =>
      rcases Runs.along_concat.1 hrun with ⟨hbefore, hhalf⟩
      have hsame : call.report.clientOrderId = id := hid call (by simp)
      rw [Runs.final_concat] at hrow
      cases hcall : applyOrderResultAtomically ctx call.raiseFaultAt call.report call.nowMs
          (Runs.final (takeReport ctx) store calls) with
      | mk outcome after =>
          cases outcome with
          | error e =>
              have hkept := takeReport_of_error hcall
              rw [hkept] at hrow
              rcases ih (fun c hc => hid c (List.mem_append_left _ hc)) hbefore hrow hstatus with
                ⟨before, closing, rest, heq, hfinal, hclosed⟩
              refine ⟨before, closing, rest ++ [call], by simp [heq], ?_, hclosed⟩
              rw [Runs.final_concat, hkept, hfinal]
          | ok result =>
              rcases applyOrderResultAtomically_eq_ok hcall with ⟨hfault, ⟨c⟩⟩
              have hwrites : takeReport ctx (Runs.final (takeReport ctx) store calls) call = after :=
                congrArg Prod.snd hcall
              rw [hwrites, ← hsame, c.readBack.1] at hrow
              cases hrow
              have hterminal : result.isTerminal = true := by
                by_contra hnot
                simp [PendingOrder.record, hnot] at hstatus
              refine ⟨calls, call, [], rfl, rfl, ?_, by simp [PendingOrder.record, hterminal], ?_⟩
              · rw [← c.outcome.terminal]
                exact hterminal
              · exact c.totals_of_resolved hsign (c.not_halfGrown hfault hhalf) hterminal

end Totals

/-- **The totals of a resolved order.**  A call applies its report consistently exactly when the
report is not half grown.  In a run without such reports every call does, and a row that is
RESOLVED has the totals of the report that closed it. -/
theorem resolved_totals_match_iff (ctx : StoreContext) (hsign : ctx.decimal.KeepsSign)
    (store : ExecutionState) (id : String) (calls : List ReportCall)
    (hid : ∀ call ∈ calls, call.report.clientOrderId = id)
    (hopen : ∀ row, store.getPending id = some row → row.status = .submitted) :
    (∀ s call, AppliesConsistently ctx s call ↔ ¬HalfGrownAt ctx s call) ∧
      (Runs.Along (takeReport ctx) (fun s call => ¬HalfGrownAt ctx s call) store calls →
        Runs.Along (takeReport ctx) (AppliesConsistently ctx) store calls ∧
          ∀ row, (Runs.final (takeReport ctx) store calls).getPending id = some row →
            row.status = .resolved → ClosedBy ctx store calls row) := by
  refine ⟨fun _ _ => appliesConsistently_iff hsign, fun hrun => ⟨?_, ?_⟩⟩
  · apply Runs.along_of_invariant (fun _ => True) _ trivial hrun
    intro s call _ hhalf
    exact ⟨trivial, (appliesConsistently_iff hsign).2 hhalf⟩
  · intro row hrow hstatus
    exact closedBy_of_run hsign hid hopen hrun hrow hstatus

/-- The calls of `TwoFills` in the interpreter's own context: a fault, a retry and a repetition. -/
theorem resolved_totals_match_iff_two_fills :
    ∃ row, (Runs.final (takeReport ⟨"BTCUSDT", "USDT", "BTC", 1 / 1000, .default⟩)
        (TwoFills.store.createPending "ta-1" "BTCUSDT" .buy (1 / 1000) 1 2)
        TwoFills.calls).getPending "ta-1" = some row ∧
      ClosedBy ⟨"BTCUSDT", "USDT", "BTC", 1 / 1000, .default⟩
        (TwoFills.store.createPending "ta-1" "BTCUSDT" .buy (1 / 1000) 1 2) TwoFills.calls row := by
  have hresult := resolved_totals_match_iff ⟨"BTCUSDT", "USDT", "BTC", 1 / 1000, .default⟩
    DecimalContext.keepsSign_default
    (TwoFills.store.createPending "ta-1" "BTCUSDT" .buy (1 / 1000) 1 2) "ta-1" TwoFills.calls
    (by decide) (by
      intro row hrow
      rw [ExecutionState.getPending_createPending rfl, if_pos rfl] at hrow
      cases hrow
      rfl)
  have hclosed : ((Runs.final (takeReport ⟨"BTCUSDT", "USDT", "BTC", 1 / 1000, .default⟩)
      (TwoFills.store.createPending "ta-1" "BTCUSDT" .buy (1 / 1000) 1 2)
      TwoFills.calls).getPending "ta-1").map PendingOrder.status = some .resolved := by
    decide +kernel
  rcases Option.map_eq_some_iff.1 hclosed with ⟨row, hrow, hstatus⟩
  refine ⟨row, hrow, (hresult.2 ?_).2 row hrow hstatus⟩
  simp only [Runs.Along, TwoFills.calls]
  decide +kernel

/-! ## A quote figure that grows alone -/

namespace QuoteAlone

def ctx : StoreContext := ⟨"BTCUSDT", "USDT", "BTC", 1 / 1000, .default⟩

def store : ExecutionState :=
  ({ portfolios := [("BTCUSDT", .initial 500)] } : ExecutionState).createPending
    "ta-1" "BTCUSDT" .buy 1 1 2

def partialFill : OrderResult where
  orderId := 1
  clientOrderId := "ta-1"
  status := .partiallyFilled
  executedQty := 1
  cumulativeQuoteQty := 100
  transactTimeMs := 1

/-- The same execution, a quote unit dearer. -/
def filled : OrderResult where
  orderId := 1
  clientOrderId := "ta-1"
  status := .filled
  executedQty := 1
  cumulativeQuoteQty := 101
  transactTimeMs := 2

end QuoteAlone

/-- The second report is taken, and closes the row with the quote figure of the first. -/
theorem quote_alone_resolves :
    ¬Runs.Along (takeReport QuoteAlone.ctx) (AppliesConsistently QuoteAlone.ctx) QuoteAlone.store
        [⟨QuoteAlone.partialFill, none, 3⟩, ⟨QuoteAlone.filled, none, 4⟩] ∧
      ((Runs.final (takeReport QuoteAlone.ctx) QuoteAlone.store
          [⟨QuoteAlone.partialFill, none, 3⟩, ⟨QuoteAlone.filled, none, 4⟩]).getPending
        "ta-1").map (fun row => (row.status, row.resolvedOrderStatus, row.applied.totals)) =
          some (.resolved, some .filled, (1, 100)) ∧
      QuoteAlone.filled.totals = (1, 101) := by
  refine ⟨?_, by decide +kernel, rfl⟩
  intro hrun
  have hhalf : HalfGrownAt QuoteAlone.ctx
      (takeReport QuoteAlone.ctx QuoteAlone.store ⟨QuoteAlone.partialFill, none, 3⟩)
      ⟨QuoteAlone.filled, none, 4⟩ := by
    decide +kernel
  exact (appliesConsistently_iff DecimalContext.keepsSign_default).1 hrun.2.1 hhalf

/-! ## Later reports for a closed row -/

/-- The row is RESOLVED with this status of its order, and the portfolio is this one. -/
structure ResolvedAs (symbol id : String) (status : OrderStatus)
    (portfolio : Option PortfolioState) (store : ExecutionState) : Prop where
  row : ∃ row, store.getPending id = some row ∧ row.status = .resolved ∧
    row.resolvedOrderStatus = some status
  portfolio : store.loadPortfolio symbol = portfolio

theorem resolvedAs_iff {symbol id : String} {status : OrderStatus}
    {portfolio : Option PortfolioState} {store : ExecutionState} :
    ResolvedAs symbol id status portfolio store ↔
      ((store.getPending id).map fun row => (row.status, row.resolvedOrderStatus)) =
          some (.resolved, some status) ∧ store.loadPortfolio symbol = portfolio := by
  constructor
  · rintro ⟨⟨row, hfound, hresolved, hstatus⟩, hportfolio⟩
    exact ⟨by rw [hfound, Option.map_some, hresolved, hstatus], hportfolio⟩
  · rintro ⟨hrow, hportfolio⟩
    rcases Option.map_eq_some_iff.1 hrow with ⟨row, hfound, heq⟩
    exact ⟨⟨row, hfound, congrArg Prod.fst heq, congrArg Prod.snd heq⟩, hportfolio⟩

instance (symbol id : String) (status : OrderStatus) (portfolio : Option PortfolioState)
    (store : ExecutionState) : Decidable (ResolvedAs symbol id status portfolio store) :=
  decidable_of_iff _ resolvedAs_iff.symm

/-- The calls that raise before they write, and those that repeat the status the row was closed
with and execute nothing more. -/
inductive LeavesResolved (ctx : StoreContext) (status : OrderStatus) (store : ExecutionState)
    (call : ReportCall) : Prop
  | fault : call.raiseFaultAt ≠ none → LeavesResolved ctx status store call
  | noPortfolio : store.loadPortfolio ctx.symbol = none → LeavesResolved ctx status store call
  | refused (pending : PendingOrder) :
      store.getPending call.report.clientOrderId = some pending →
      ¬ReportAccepted call.report pending.applied → LeavesResolved ctx status store call
  | unaffordable (pending : PendingOrder) (portfolio : PortfolioState) (e : PyError) :
      store.getPending call.report.clientOrderId = some pending →
      store.loadPortfolio ctx.symbol = some portfolio →
      ¬NothingFurther ctx.decimal call.report pending.applied →
      executionDelta ctx.decimal call.report pending.side ctx.quoteAsset ctx.baseAsset portfolio
        pending.applied ctx.fallbackFeePct = .error e → LeavesResolved ctx status store call
  | repeated (pending : PendingOrder) :
      store.getPending call.report.clientOrderId = some pending →
      call.report.status = status → call.report.executedQty ≤ pending.applied.executedQty →
      LeavesResolved ctx status store call

section Absorbing

variable {ctx : StoreContext} {store : ExecutionState} {call : ReportCall}
variable {id : String} {status : OrderStatus} {portfolio : Option PortfolioState}

/-- A call whose report is taken writes the row and the portfolio. -/
theorem takeReport_readBack {pending : PendingOrder} {held : PortfolioState}
    {result : OrderApplicationResult} (hfault : call.raiseFaultAt = none)
    (hfound : store.getPending call.report.clientOrderId = some pending)
    (hloaded : store.loadPortfolio ctx.symbol = some held)
    (hresult : computeFrom ctx call.report pending held = .ok result) :
    (takeReport ctx store call).getPending call.report.clientOrderId =
        some (pending.record call.report result call.nowMs) ∧
      (takeReport ctx store call).loadPortfolio ctx.symbol = some result.portfolio := by
  have hcall : applyOrderResultAtomically ctx none call.report call.nowMs store = _ :=
    applyOrderResultAtomically_of_rows hfound hloaded
  rw [hresult, ← hfault] at hcall
  let c : Committed ctx call.report call.nowMs store result (takeReport ctx store call) :=
    ⟨pending, held, hfound, hloaded, hresult, congrArg Prod.snd hcall⟩
  exact c.readBack

/-- A call whose report is refused leaves the store as it was. -/
theorem takeReport_of_refused {pending : PendingOrder} {held : PortfolioState} {e : PyError}
    (hfault : call.raiseFaultAt = none)
    (hfound : store.getPending call.report.clientOrderId = some pending)
    (hloaded : store.loadPortfolio ctx.symbol = some held)
    (hresult : computeFrom ctx call.report pending held = .error e) :
    takeReport ctx store call = store := by
  have hcall : applyOrderResultAtomically ctx none call.report call.nowMs store = _ :=
    applyOrderResultAtomically_of_rows hfound hloaded
  rw [hresult, ← hfault] at hcall
  exact takeReport_of_error hcall

theorem takeReport_of_fault (hfault : call.raiseFaultAt ≠ none) :
    takeReport ctx store call = store := by
  rcases Option.ne_none_iff_exists'.1 hfault with ⟨point, hpoint⟩
  have hraises : ∃ e, applyOrderResultAtomically ctx (some point) call.report call.nowMs store =
      (.error e, store) := applyOrderResultAtomically_fault point
  rcases hraises with ⟨e, hcall⟩
  rw [takeReport, hpoint, hcall]

theorem takeReport_of_noPortfolio (hnone : store.loadPortfolio ctx.symbol = none) :
    takeReport ctx store call = store := by
  have hraises : ∃ e, applyOrderResultAtomically ctx call.raiseFaultAt call.report call.nowMs
      store = (.error e, store) := applyOrderResultAtomically_of_missing (Or.inr hnone)
  rcases hraises with ⟨e, hcall⟩
  rw [takeReport, hcall]

/-- Where the portfolio takes an execution, its base balance moves. -/
theorem executionDelta_exact_ne {order : OrderResult} {side : OrderSide}
    {quoteAsset baseAsset : String} {held held' : PortfolioState} {applied : AppliedExecution}
    {fee : ℚ}
    (h : executionDelta .exact order side quoteAsset baseAsset held applied fee = .ok held') :
    held' ≠ held := by
  rintro rfl
  simp only [executionDelta] at h
  have hbalances := applyFillDelta_balances h
  cases side with
  | buy =>
      have hnet := (applyFillDelta_buy_eq_ok h).1
      linarith [hbalances.1]
  | sell =>
      have hpos := (applyFillDelta_sell_eq_ok h).2.1
      linarith [hbalances.2.1]

/-- Of these kinds only a repeated report is taken, and it leaves the portfolio alone. -/
theorem LeavesResolved.repeats {pending : PendingOrder} {held : PortfolioState}
    {result : OrderApplicationResult} (hsign : ctx.decimal.KeepsSign)
    (h : LeavesResolved ctx status store call) (hfault : call.raiseFaultAt = none)
    (hfound : store.getPending call.report.clientOrderId = some pending)
    (hloaded : store.loadPortfolio ctx.symbol = some held)
    (houtcome : ReportOutcome ctx.decimal call.report pending.side ctx.quoteAsset ctx.baseAsset
      held pending.applied ctx.fallbackFeePct (.ok result)) :
    call.report.status = status ∧ result.portfolio = held := by
  cases h with
  | fault hsome => exact absurd hfault hsome
  | noPortfolio hnone =>
      rw [hloaded] at hnone
      cases hnone
  | refused pending' hfound' hrefused =>
      rw [hfound] at hfound'
      cases hfound'
      exact absurd houtcome.accepted hrefused
  | unaffordable pending' held' e hfound' hloaded' hmore herror =>
      rw [hfound] at hfound'
      cases hfound'
      rw [hloaded] at hloaded'
      cases hloaded'
      cases houtcome with
      | unchanged _ _ hnothing _ _ _ => exact absurd hnothing hmore
      | applied _ _ _ hdelta _ _ =>
          rw [herror] at hdelta
          cases hdelta
  | repeated pending' hfound' hsame hno =>
      rw [hfound] at hfound'
      cases hfound'
      refine ⟨hsame, ?_⟩
      cases houtcome with
      | unchanged _ _ _ hheld _ _ => exact hheld
      | applied _ haccepted hmore _ _ _ =>
          -- a report that executes no more has no difference to apply
          have hequal := le_antisymm hno haccepted.executed
          exact absurd (Or.inr ((hsign.sub_nonpos haccepted.executed).2 hequal)) hmore

/-- A call of one of these kinds keeps the row and the portfolio. -/
theorem ResolvedAs.step (hsign : ctx.decimal.KeepsSign) (hid : call.report.clientOrderId = id)
    (hterminal : status.isTerminal = true)
    (h : ResolvedAs ctx.symbol id status portfolio store)
    (hleaves : LeavesResolved ctx status store call) :
    ResolvedAs ctx.symbol id status portfolio (takeReport ctx store call) := by
  subst hid
  by_cases hfault : call.raiseFaultAt = none
  case neg => rwa [takeReport_of_fault hfault]
  cases hloaded : store.loadPortfolio ctx.symbol with
  | none => rwa [takeReport_of_noPortfolio hloaded]
  | some held =>
      rcases h.row with ⟨pending, hfound, hresolved, hstatus⟩
      have houtcome : ReportOutcome _ _ _ _ _ _ _ _ (computeFrom ctx call.report pending held) :=
        computeOrderApplication_outcome
      cases hresult : computeFrom ctx call.report pending held with
      | error e => rwa [takeReport_of_refused hfault hfound hloaded hresult]
      | ok result =>
          rw [hresult] at houtcome
          rcases hleaves.repeats hsign hfault hfound hloaded houtcome with ⟨hsame, hheld⟩
          rcases takeReport_readBack hfault hfound hloaded hresult with ⟨hrow, hportfolio⟩
          have hclosed : result.isTerminal = true := by
            rw [houtcome.terminal, hsame]
            exact hterminal
          refine ⟨⟨_, hrow, by simp [PendingOrder.record, hclosed], ?_⟩, ?_⟩
          · simp [PendingOrder.record, hclosed, hsame]
          · rw [hportfolio, hheld, ← hloaded]
            exact h.portfolio

/-- In exact arithmetic a call that keeps the row and the portfolio is of one of these kinds. -/
theorem ResolvedAs.leaves (hexact : ctx.decimal = .exact) (hid : call.report.clientOrderId = id)
    (h : ResolvedAs ctx.symbol id status portfolio store)
    (hnext : ResolvedAs ctx.symbol id status portfolio (takeReport ctx store call)) :
    LeavesResolved ctx status store call := by
  subst hid
  by_cases hfault : call.raiseFaultAt = none
  case neg => exact .fault hfault
  cases hloaded : store.loadPortfolio ctx.symbol with
  | none => exact .noPortfolio hloaded
  | some held =>
      rcases h.row with ⟨pending, hfound, -, -⟩
      have houtcome : ReportOutcome _ _ _ _ _ _ _ _ (computeFrom ctx call.report pending held) :=
        computeOrderApplication_outcome
      cases hresult : computeFrom ctx call.report pending held with
      | error e =>
          rw [hresult] at houtcome
          cases houtcome with
          | refused _ hrefused => exact .refused pending hfound hrefused
          | unaffordable _ _ hmore herror =>
              exact .unaffordable pending held e hfound hloaded hmore herror
      | ok result =>
          rw [hresult] at houtcome
          -- the call has written the row: it still says RESOLVED, with the status of before
          rcases takeReport_readBack hfault hfound hloaded hresult with ⟨hrow, hportfolio⟩
          rcases hnext.row with ⟨row, hrow', hresolved, hstatus⟩
          rw [hrow] at hrow'
          cases hrow'
          have hclosed : result.isTerminal = true := by
            by_contra hnot
            simp [PendingOrder.record, hnot] at hresolved
          have hsame : call.report.status = status := by
            simpa [PendingOrder.record, hclosed] using hstatus
          -- and the portfolio it wrote is the one that was there
          have hheld : result.portfolio = held := by
            have hkept := hnext.portfolio
            rw [hportfolio, ← h.portfolio, hloaded] at hkept
            exact Option.some.inj hkept
          -- so the report brought nothing, as an execution moves the quote balance
          cases houtcome with
          | unchanged _ _ hnothing _ _ hterminal =>
              rcases hnothing with hnew | hdelta
              · simp [hterminal, hnew, OrderStatus.isTerminal] at hclosed
              · rw [hexact] at hdelta
                exact .repeated pending hfound hsame (sub_nonpos.1 hdelta)
          | applied _ _ _ hdelta _ _ =>
              rw [hexact] at hdelta
              exact absurd hheld (executionDelta_exact_ne hdelta)

end Absorbing

/-- **A closed row and later reports.**  In a run whose calls all raise before they write or repeat
the status the row was closed with, executing nothing more, the row stays RESOLVED with that status
and the portfolio stays as it is.  In exact arithmetic no other call leaves both alone. -/
theorem resolved_is_absorbing_iff (ctx : StoreContext) (hsign : ctx.decimal.KeepsSign)
    (id : String) (status : OrderStatus) (portfolio : Option PortfolioState)
    (hterminal : status.isTerminal = true) :
    (∀ store calls, ResolvedAs ctx.symbol id status portfolio store →
      (∀ call ∈ calls, call.report.clientOrderId = id) →
      Runs.Along (takeReport ctx) (LeavesResolved ctx status) store calls →
      ResolvedAs ctx.symbol id status portfolio (Runs.final (takeReport ctx) store calls)) ∧
    (ctx.decimal = .exact → ∀ store call, ResolvedAs ctx.symbol id status portfolio store →
      call.report.clientOrderId = id →
      (ResolvedAs ctx.symbol id status portfolio (takeReport ctx store call) ↔
        LeavesResolved ctx status store call)) := by
  constructor
  · intro store calls h hid hrun
    induction calls generalizing store with
    | nil => exact h
    | cons call rest ih =>
        have hnext := h.step hsign (hid call (by simp)) hterminal hrun.1
        exact ih _ hnext (fun c hc => hid c (by simp [hc])) hrun.2
  · intro hexact store call h hid
    constructor
    · exact h.leaves hexact hid
    · exact h.step hsign hid hterminal

namespace TwoFills

def ctx : StoreContext := ⟨"BTCUSDT", "USDT", "BTC", 1 / 1000, .exact⟩

/-- The store once the order is filled. -/
def closed : ExecutionState :=
  Runs.final (takeReport ctx) (store.createPending "ta-1" "BTCUSDT" .buy (1 / 1000) 1 2) calls

end TwoFills

/-- Both reports of the filled order are delivered once more: the first is refused, the second
changes nothing. -/
theorem resolved_is_absorbing_iff_two_fills :
    ResolvedAs "BTCUSDT" "ta-1" .filled (TwoFills.closed.loadPortfolio "BTCUSDT")
      (Runs.final (takeReport TwoFills.ctx) TwoFills.closed
        [⟨TwoFills.partialFill, none, 7⟩, ⟨TwoFills.filled, none, 8⟩]) := by
  have hrow : (TwoFills.closed.getPending "ta-1").map
      (fun row => (row.status, row.resolvedOrderStatus, row.applied.executedQty)) =
        some (.resolved, some .filled, 1 / 1000) := by
    decide +kernel
  rcases Option.map_eq_some_iff.1 hrow with ⟨row, hfound, heq⟩
  have hexecuted : row.applied.executedQty = 1 / 1000 := congrArg (fun x => x.2.2) heq
  have hkept : takeReport TwoFills.ctx TwoFills.closed ⟨TwoFills.partialFill, none, 7⟩ =
      TwoFills.closed := by
    decide +kernel
  apply (resolved_is_absorbing_iff TwoFills.ctx DecimalContext.keepsSign_exact "ta-1" .filled
    (TwoFills.closed.loadPortfolio "BTCUSDT") rfl).1 TwoFills.closed
  · exact resolvedAs_iff.2 ⟨by decide +kernel, rfl⟩
  · decide
  · refine ⟨.refused row hfound fun haccepted => ?_, ?_, trivial⟩
    · have hless := haccepted.executed
      rw [hexecuted] at hless
      norm_num [TwoFills.partialFill] at hless
    · rw [hkept]
      exact .repeated row hfound rfl (by rw [hexecuted]; rfl)

/-! ## A stale report for a closed row -/

namespace StaleReport

def ctx : StoreContext := ⟨"BTCUSDT", "USDT", "BTC", 1 / 1000, .exact⟩

def store : ExecutionState :=
  ({ portfolios := [("BTCUSDT", .initial 500)] } : ExecutionState).createPending
    "ta-1" "BTCUSDT" .buy 1 1 2

/-- The order as the exchange first reports it. -/
def accepted : OrderResult where
  orderId := 1
  clientOrderId := "ta-1"
  status := .new
  executedQty := 0
  cumulativeQuoteQty := 0
  transactTimeMs := 1

def canceled : OrderResult :=
  { accepted with status := .canceled, transactTimeMs := 2 }

end StaleReport

/-- The cancelled order's first report, delivered late, opens its row again. -/
theorem stale_report_reopens :
    ResolvedAs "BTCUSDT" "ta-1" .canceled (some (.initial 500))
        (takeReport StaleReport.ctx StaleReport.store ⟨StaleReport.canceled, none, 3⟩) ∧
      ¬ResolvedAs "BTCUSDT" "ta-1" .canceled (some (.initial 500))
        (Runs.final (takeReport StaleReport.ctx) StaleReport.store
          [⟨StaleReport.canceled, none, 3⟩, ⟨StaleReport.accepted, none, 4⟩]) ∧
      ((Runs.final (takeReport StaleReport.ctx) StaleReport.store
          [⟨StaleReport.canceled, none, 3⟩, ⟨StaleReport.accepted, none, 4⟩]).getPending
        "ta-1").map (fun row => (row.status, row.resolvedOrderStatus)) =
          some (.submitted, none) := by
  decide +kernel

end TradingAgent
