import TradingAgent.Execution.ExecutionStore
import TradingAgent.Library.CausalRun
import Mathlib.Tactic.Ring

/-!
# Fill accounting — reports of one order, delivered in any chunks

Reports of an order reach the store with cumulative figures.  Some calls fail at an injected fault
and are made again, and a report may be delivered twice.

* `deliverAll` makes the calls one after another;
* `Accounted` is what the store says after the reports accepted so far: the row holds the last
  report's figures and the balances have moved by exactly these and the commission;
* `fill_accounting_telescopes` is the result over whole sequences, in exact arithmetic.
-/

namespace TradingAgent

/-! ## Deliveries -/

/-- One call of the store: a report, and the point a fault is injected at, if any. -/
structure ReportCall where
  report : OrderResult
  raiseFaultAt : Option FaultPoint := none
  nowMs : ℤ := 0
  deriving DecidableEq, Repr

/-- Make one call.  An injected fault is caught by the caller, any other exception is not. -/
def deliver (ctx : StoreContext) : CausalRun.Step ReportCall ExecutionState PyError :=
  fun _ call store =>
    match applyOrderResultAtomically ctx call.raiseFaultAt call.report call.nowMs store with
    | (.ok _, store') => .ok store'
    | (.error e, store') => if call.raiseFaultAt.isSome then .ok store' else .error e

def deliverAll (ctx : StoreContext) (calls : List ReportCall) (store : ExecutionState) :
    Except PyError ExecutionState :=
  CausalRun.run (deliver ctx) [] calls store

/-- The reports of the calls no fault was injected into. -/
def accepted (calls : List ReportCall) : List OrderResult :=
  (calls.filter fun call => call.raiseFaultAt.isNone).map ReportCall.report

@[simp] theorem accepted_append_of_fault {calls : List ReportCall} {call : ReportCall}
    (h : call.raiseFaultAt.isSome = true) : accepted (calls ++ [call]) = accepted calls := by
  have hnone : call.raiseFaultAt.isNone = false := by simpa using h
  simp [accepted, hnone]

@[simp] theorem accepted_append_of_none {calls : List ReportCall} {call : ReportCall}
    (h : call.raiseFaultAt = none) : accepted (calls ++ [call]) = accepted calls ++ [call.report] := by
  simp [accepted, h]

/-! ## Cumulative reports -/

/-- The cumulative figures of a report. -/
def OrderResult.totals (order : OrderResult) : ℚ × ℚ :=
  (order.executedQty, order.cumulativeQuoteQty)

def AppliedExecution.totals (applied : AppliedExecution) : ℚ × ℚ :=
  (applied.executedQty, applied.cumulativeQuoteQty)

/-- Neither figure decreases, and they grow only together. -/
structure GrowsTogether (a b : ℚ × ℚ) : Prop where
  executed : a.1 ≤ b.1
  quote : a.2 ≤ b.2
  together : a.1 < b.1 ↔ a.2 < b.2

/-- Figures that have not grown in one part have not grown at all. -/
theorem GrowsTogether.eq_of_le {a b : ℚ × ℚ} (h : GrowsTogether a b) (hle : b.1 ≤ a.1) : b = a := by
  have hquote : ¬a.2 < b.2 := fun hlt => not_lt.2 hle (h.together.2 hlt)
  exact Prod.ext (le_antisymm hle h.executed) (le_antisymm (not_lt.1 hquote) h.quote)

/-- Reports of one order: cumulative figures that start at zero and grow together, and nothing
executed while the order is NEW. -/
structure CumulativeReports (clientOrderId : String) (reports : List OrderResult) : Prop where
  sameOrder : ∀ r ∈ reports, r.clientOrderId = clientOrderId
  newIsZero : ∀ r ∈ reports, r.status = .new → r.totals = (0, 0)
  grow : ((0, 0) :: reports.map OrderResult.totals).Pairwise GrowsTogether

/-- The figures of the last report, zero before the first. -/
def lastTotals (reports : List OrderResult) : ℚ × ℚ :=
  (reports.getLast?.map OrderResult.totals).getD (0, 0)

@[simp] theorem lastTotals_nil : lastTotals [] = (0, 0) := rfl

@[simp] theorem lastTotals_append (reports : List OrderResult) (r : OrderResult) :
    lastTotals (reports ++ [r]) = r.totals := by
  simp [lastTotals]

theorem lastTotals_mem (reports : List OrderResult) :
    lastTotals reports ∈ (0, 0) :: reports.map OrderResult.totals := by
  rcases List.eq_nil_or_concat reports with rfl | ⟨init, last, rfl⟩
  · simp
  · simp

namespace CumulativeReports

variable {id : String} {reports : List OrderResult} {r : OrderResult}

theorem of_append (h : CumulativeReports id (reports ++ [r])) : CumulativeReports id reports := by
  refine ⟨fun r' hr' => h.sameOrder r' (List.mem_append_left _ hr'),
    fun r' hr' => h.newIsZero r' (List.mem_append_left _ hr'), ?_⟩
  have hgrow := h.grow
  rw [List.map_append, ← List.cons_append] at hgrow
  exact (List.pairwise_append.1 hgrow).1

/-- The next report grows out of the last one. -/
theorem grows (h : CumulativeReports id (reports ++ [r])) :
    GrowsTogether (lastTotals reports) r.totals := by
  have hgrow := h.grow
  rw [List.map_append, ← List.cons_append] at hgrow
  exact (List.pairwise_append.1 hgrow).2.2 _ (lastTotals_mem reports) _ (by simp)

theorem grows_from_zero (h : CumulativeReports id reports) :
    GrowsTogether (0, 0) (lastTotals reports) := by
  rcases List.mem_cons.1 (lastTotals_mem reports) with heq | hmem
  · rw [heq]
    exact ⟨le_rfl, le_rfl, by simp⟩
  · exact (List.pairwise_cons.1 h.grow).1 _ hmem

end CumulativeReports

/-! ## What the store says after some reports -/

/-- The reports that executed something. -/
def executing (reports : List OrderResult) : List OrderResult :=
  reports.filter fun r => 0 < r.executedQty

theorem lastTotals_eq_zero {id : String} {reports : List OrderResult}
    (h : CumulativeReports id reports) (hnone : executing reports = []) :
    lastTotals reports = (0, 0) := by
  refine h.grows_from_zero.eq_of_le ?_
  rcases List.eq_nil_or_concat reports with rfl | ⟨init, last, rfl⟩
  · simp
  · have hlast := List.filter_eq_nil_iff.1 hnone last (by simp)
    simpa [OrderResult.totals] using hlast

/-- The balances have moved by what was applied of the order, commission included. -/
def BalancesMoved (side : OrderSide) (start : PortfolioState) (applied : AppliedExecution)
    (portfolio : PortfolioState) : Prop :=
  match side with
  | .buy =>
      portfolio.baseBalance =
          start.baseBalance + (applied.executedQty - applied.commissionBase) ∧
        portfolio.quoteBalance =
          start.quoteBalance - (applied.cumulativeQuoteQty + applied.commissionQuote)
  | .sell =>
      portfolio.baseBalance = start.baseBalance - applied.executedQty ∧
        portfolio.quoteBalance =
          start.quoteBalance + (applied.cumulativeQuoteQty - applied.commissionQuote)

/-- Where only the first executing report carries fills, the commission is that of its fills, and
the fallback percentage of everything executed after it. -/
structure CommissionCharged (ctx : StoreContext) (reports : List OrderResult)
    (applied : AppliedExecution) : Prop where
  nothing : executing reports = [] → applied.commissionQuote = 0 ∧ applied.commissionBase = 0
  charged : ∀ first rest, executing reports = first :: rest → (∀ r ∈ rest, r.fills = []) →
    applied.commissionQuote =
        (deltaCommission first ctx.quoteAsset ctx.baseAsset {} ctx.fallbackFeePct).quote +
          (applied.cumulativeQuoteQty - first.cumulativeQuoteQty) * ctx.fallbackFeePct ∧
      applied.commissionBase =
        (deltaCommission first ctx.quoteAsset ctx.baseAsset {} ctx.fallbackFeePct).base

/-- The order's row and the portfolio after the reports accepted so far. -/
structure Accounted (ctx : StoreContext) (id : String) (side : OrderSide) (start : PortfolioState)
    (reports : List OrderResult) (store : ExecutionState) where
  pending : PendingOrder
  portfolio : PortfolioState
  found : store.getPending id = some pending
  loaded : store.loadPortfolio ctx.symbol = some portfolio
  sameSide : pending.side = side
  totals : pending.applied.totals = lastTotals reports
  moved : BalancesMoved side start pending.applied portfolio
  commission : CommissionCharged ctx reports pending.applied

section Steps

variable {ctx : StoreContext} {id : String} {side : OrderSide} {start : PortfolioState}
variable {reports : List OrderResult} {order : OrderResult} {applied : AppliedExecution}
variable {portfolio : PortfolioState} {result : OrderApplicationResult}

/-- A report that brought nothing new repeats the last figures. -/
theorem totals_of_unchanged (h : CumulativeReports id (reports ++ [order]))
    (happlied : applied.totals = lastTotals reports)
    (hnothing : order.status = .new ∨ order.executedQty = applied.executedQty) :
    order.totals = lastTotals reports := by
  refine h.grows.eq_of_le ?_
  rcases hnothing with hnew | heq
  · have hzero := h.newIsZero order (by simp) hnew
    rw [hzero]
    exact h.of_append.grows_from_zero.executed
  · rw [← happlied]
    exact heq.le

theorem executing_append (reports : List OrderResult) (order : OrderResult) :
    executing (reports ++ [order]) =
      executing reports ++ if 0 < order.executedQty then [order] else [] := by
  by_cases hpos : 0 < order.executedQty <;> simp [executing, hpos]

/-- A report that brought nothing new was charged nothing. -/
theorem CommissionCharged.unchanged (hcharged : CommissionCharged ctx reports applied)
    (h : CumulativeReports id (reports ++ [order]))
    (hsame : order.totals = lastTotals reports) :
    CommissionCharged ctx (reports ++ [order]) applied := by
  -- an executing report that repeats the last figures is not the first one
  have hfirst : 0 < order.executedQty → executing reports ≠ [] := by
    intro hpos hnone
    have hzero : order.totals = (0, 0) := hsame.trans (lastTotals_eq_zero h.of_append hnone)
    have hexecuted : order.executedQty = 0 := congrArg Prod.fst hzero
    exact absurd hexecuted hpos.ne'
  constructor
  · intro hnone
    rw [executing_append] at hnone
    exact hcharged.nothing (List.append_eq_nil_iff.1 hnone).1
  · intro first rest hexecuting hrest
    rw [executing_append] at hexecuting
    split at hexecuting
    · rename_i hpos
      cases hold : executing reports with
      | nil =>
          exact absurd hold (hfirst hpos)
      | cons first' rest' =>
          rw [hold, List.cons_append] at hexecuting
          cases hexecuting
          exact hcharged.charged first rest' hold fun r hr => hrest r (List.mem_append_left _ hr)
    · rw [List.append_nil] at hexecuting
      exact hcharged.charged first rest hexecuting hrest

/-- What a report brought is charged its own commission. -/
theorem CommissionCharged.advance (hcharged : CommissionCharged ctx reports applied)
    (h : CumulativeReports id (reports ++ [order]))
    (happlied : applied.totals = lastTotals reports)
    (hmore : applied.executedQty < order.executedQty) :
    CommissionCharged ctx (reports ++ [order]) (applied.advance .exact order
      (deltaCommission order ctx.quoteAsset ctx.baseAsset applied ctx.fallbackFeePct)) := by
  have hnonneg : 0 ≤ applied.executedQty := by
    have hzero := h.of_append.grows_from_zero.executed
    rwa [← happlied] at hzero
  have hexecuting : executing (reports ++ [order]) = executing reports ++ [order] := by
    rw [executing_append, if_pos (hnonneg.trans_lt hmore)]
  constructor
  · intro hnone
    rw [hexecuting] at hnone
    simp at hnone
  · intro first rest hlist hrest
    rw [hexecuting] at hlist
    cases hold : executing reports with
    | nil =>
        -- this is the first report that executed anything
        rw [hold] at hlist
        cases hlist
        have hzero : applied.totals = (0, 0) := by
          rw [happlied, lastTotals_eq_zero h.of_append hold]
        have hquote : applied.cumulativeQuoteQty = 0 := congrArg Prod.snd hzero
        have hsame : deltaCommission order ctx.quoteAsset ctx.baseAsset applied
            ctx.fallbackFeePct = deltaCommission order ctx.quoteAsset ctx.baseAsset {}
              ctx.fallbackFeePct := by
          simp [deltaCommission, hquote]
        simp [AppliedExecution.advance, hcharged.nothing hold, hsame]
    | cons first' rest' =>
        rw [hold, List.cons_append] at hlist
        cases hlist
        have hprior := hcharged.charged first rest' hold fun r hr =>
          hrest r (List.mem_append_left _ hr)
        have hfills : order.fills = [] := hrest order (by simp)
        simp only [AppliedExecution.advance, DecimalContext.exact_add, hprior.1, hprior.2,
          deltaCommission_of_no_fills hfills]
        constructor
        · ring
        · ring

/-- An execution delta moves the balances by itself and its commission. -/
theorem BalancesMoved.advance {portfolio' : PortfolioState} {buckets : CommissionBuckets}
    (hmoved : BalancesMoved side start applied portfolio)
    (hfill : applyFillDelta portfolio side (order.executedQty - applied.executedQty)
      (order.cumulativeQuoteQty - applied.cumulativeQuoteQty) buckets.quote buckets.base
      buckets.isEstimated = .ok portfolio') :
    BalancesMoved side start (applied.advance .exact order buckets) portfolio' := by
  have hbalances := applyFillDelta_balances hfill
  cases side with
  | buy =>
      rcases hmoved with ⟨hbase, hquote⟩
      rcases hbalances with ⟨hbase', hquote'⟩
      simp only [BalancesMoved, AppliedExecution.advance, DecimalContext.exact_add, hbase',
        hquote', hbase, hquote]
      constructor
      · ring
      · ring
  | sell =>
      rcases hmoved with ⟨hbase, hquote⟩
      rcases hbalances with ⟨-, hbase', hquote'⟩
      simp only [BalancesMoved, AppliedExecution.advance, DecimalContext.exact_add, hbase',
        hquote', hbase, hquote]
      constructor
      · ring
      · ring

/-- An accepted report keeps the account. -/
theorem Accounted.step {store store' : ExecutionState} {nowMs : ℤ} (hctx : ctx.decimal = .exact)
    (a : Accounted ctx id side start reports store)
    (h : CumulativeReports id (reports ++ [order]))
    (c : Committed ctx order nowMs store result store') :
    Nonempty (Accounted ctx id side start (reports ++ [order]) store') := by
  have hid : order.clientOrderId = id := h.sameOrder order (by simp)
  have hpending : c.pending = a.pending := by
    have hfound := c.found
    rw [hid, a.found] at hfound
    exact (Option.some.inj hfound).symm
  have hportfolio : c.portfolio = a.portfolio := by
    have hloaded := c.loaded
    rw [a.loaded] at hloaded
    exact (Option.some.inj hloaded).symm
  have hcomputed := c.computed
  rw [hctx, hpending, hportfolio, a.sameSide] at hcomputed
  have hread := c.readBack
  rw [hid, hpending] at hread
  rcases computeOrderApplication_cases hcomputed with ⟨-, hsame | hnew⟩
  · have htotals := totals_of_unchanged h a.totals hsame.nothingNew
    refine ⟨⟨_, _, hread.1, hread.2, a.sameSide, ?_, ?_, ?_⟩⟩
    · simp only [PendingOrder.record, hsame.sameApplied, lastTotals_append, htotals]
      exact a.totals
    · simp only [PendingOrder.record, hsame.sameApplied, hsame.samePortfolio]
      exact a.moved
    · simp only [PendingOrder.record, hsame.sameApplied]
      exact a.commission.unchanged h htotals
  · refine ⟨⟨_, _, hread.1, hread.2, a.sameSide, ?_, ?_, ?_⟩⟩
    · simp only [PendingOrder.record, hnew.advanced, lastTotals_append]
      rfl
    · simp only [PendingOrder.record, hnew.advanced]
      exact a.moved.advance hnew.filled
    · simp only [PendingOrder.record, hnew.advanced]
      exact a.commission.advance h a.totals hnew.more

/-- The account of an order that has just been created. -/
theorem Accounted.created {store : ExecutionState} {q : ℚ} {closeMs nowMs : ℤ}
    (hloaded : store.loadPortfolio ctx.symbol = some start) (hnew : store.getPending id = none) :
    Nonempty (Accounted ctx id side start []
      (store.createPending id ctx.symbol side q closeMs nowMs)) := by
  have hfound : (store.createPending id ctx.symbol side q closeMs nowMs).getPending id = _ :=
    ExecutionState.getPending_createPending hnew id
  rw [if_pos rfl] at hfound
  refine ⟨⟨_, start, hfound, hloaded, rfl, rfl, ?_, ?_, ?_⟩⟩
  · cases side <;> simp [BalancesMoved]
  · intro _
    exact ⟨rfl, rfl⟩
  · intro first rest hfirst
    cases hfirst

/-- One call keeps the account, whether it fails at a fault or is accepted. -/
theorem deliver_accounted {seen : List ReportCall} {call : ReportCall}
    {store store' : ExecutionState} (hctx : ctx.decimal = .exact)
    (hreports : CumulativeReports id (accepted (seen ++ [call])))
    (a : Accounted ctx id side start (accepted seen) store)
    (h : deliver ctx (seen ++ [call]) call store = .ok store') :
    Nonempty (Accounted ctx id side start (accepted (seen ++ [call])) store') := by
  unfold deliver at h
  split at h
  · rename_i result after hcall
    cases h
    rcases applyOrderResultAtomically_eq_ok hcall with ⟨hfault, ⟨c⟩⟩
    rw [accepted_append_of_none hfault] at hreports ⊢
    exact a.step hctx hreports c
  · rename_i e after hcall
    split at h
    · rename_i hfault
      cases h
      -- the failed call was rolled back
      rw [applyOrderResultAtomically_error hcall, accepted_append_of_fault hfault]
      exact ⟨a⟩
    · cases h

end Steps

/-- **Fill accounting telescopes.**  After any sequence of calls for one order, with faults and
repetitions, the row holds the last accepted report's figures, and the balances have moved by
exactly these and the commission applied with them. -/
theorem fill_accounting_telescopes (symbol quoteAsset baseAsset : String) (fallbackFeePct : ℚ)
    (store store' : ExecutionState) (start : PortfolioState) (id : String) (side : OrderSide)
    (requestedQuantity : ℚ) (closeMs submittedAtMs : ℤ) (calls : List ReportCall)
    (hloaded : store.loadPortfolio symbol = some start) (hnew : store.getPending id = none)
    (hreports : CumulativeReports id (accepted calls))
    (h : deliverAll ⟨symbol, quoteAsset, baseAsset, fallbackFeePct, .exact⟩ calls
      (store.createPending id symbol side requestedQuantity closeMs submittedAtMs) = .ok store') :
    ∃ pending portfolio, store'.getPending id = some pending ∧
      store'.loadPortfolio symbol = some portfolio ∧
      pending.applied.totals = lastTotals (accepted calls) ∧
      BalancesMoved side start pending.applied portfolio ∧
      CommissionCharged ⟨symbol, quoteAsset, baseAsset, fallbackFeePct, .exact⟩ (accepted calls)
        pending.applied ∧
      ((∀ r ∈ accepted calls, r.fills = []) →
        pending.applied.commissionQuote = fallbackFeePct * (lastTotals (accepted calls)).2 ∧
          pending.applied.commissionBase = 0) := by
  let ctx : StoreContext := ⟨symbol, quoteAsset, baseAsset, fallbackFeePct, .exact⟩
  -- every accepted report keeps the account, and a faulty call leaves it alone
  have hrun : CumulativeReports id (accepted ([] ++ calls)) →
      Nonempty (Accounted ctx id side start (accepted ([] ++ calls)) store') := by
    refine CausalRun.run_induct (fun seen s => CumulativeReports id (accepted seen) →
      Nonempty (Accounted ctx id side start (accepted seen) s)) ?_ ?_ h
    · intro seen call s s' hseen hdeliver hreports'
      have hprefix : CumulativeReports id (accepted seen) := by
        by_cases hfault : call.raiseFaultAt = none
        · rw [accepted_append_of_none hfault] at hreports'
          exact hreports'.of_append
        · rwa [accepted_append_of_fault (Option.isSome_iff_ne_none.2 hfault)] at hreports'
      rcases hseen hprefix with ⟨a⟩
      exact deliver_accounted rfl hreports' a hdeliver
    · intro _
      exact Accounted.created hloaded hnew
  rcases hrun hreports with ⟨a⟩
  refine ⟨a.pending, a.portfolio, a.found, a.loaded, a.totals, a.moved, a.commission, ?_⟩
  intro hfills
  have hquote : a.pending.applied.cumulativeQuoteQty = (lastTotals (accepted calls)).2 :=
    congrArg Prod.snd a.totals
  -- without fills every executing report is charged on its notional
  cases hexecuting : executing (accepted calls) with
  | nil =>
      rcases a.commission.nothing hexecuting with ⟨hcharged, hbase⟩
      rw [lastTotals_eq_zero hreports hexecuting]
      exact ⟨by simpa using hcharged, hbase⟩
  | cons first rest =>
      have hmem : ∀ r ∈ first :: rest, r.fills = [] := by
        intro r hr
        rw [← hexecuting] at hr
        exact hfills r (List.mem_of_mem_filter hr)
      rcases a.commission.charged first rest hexecuting
        fun r hr => hmem r (List.mem_cons_of_mem _ hr) with ⟨hcharged, hbase⟩
      rw [deltaCommission_of_no_fills (hmem first List.mem_cons_self)] at hcharged hbase
      refine ⟨?_, hbase⟩
      rw [hcharged, ← hquote]
      ring

/-! ## Two fills and a fault -/

namespace TwoFills

def store : ExecutionState where
  portfolios := [("BTCUSDT", .initial 100)]

/-- A first chunk of 0.0004 at 50000, then the rest of 0.001 at 60000. -/
def partialFill : OrderResult where
  orderId := 1
  clientOrderId := "ta-1"
  status := .partiallyFilled
  executedQty := 4 / 10000
  cumulativeQuoteQty := 20
  transactTimeMs := 1
  fills := [⟨50000, 4 / 10000, 2 / 100, "USDT"⟩]

def filled : OrderResult where
  orderId := 1
  clientOrderId := "ta-1"
  status := .filled
  executedQty := 1 / 1000
  cumulativeQuoteQty := 56
  transactTimeMs := 2

/-- The first chunk fails before its commit, is retried, and is delivered once more. -/
def calls : List ReportCall :=
  [⟨partialFill, some .beforeCommit, 3⟩, ⟨partialFill, none, 4⟩, ⟨partialFill, none, 5⟩,
    ⟨filled, none, 6⟩]

theorem cumulativeReports : CumulativeReports "ta-1" (accepted calls) := by
  have hreports : accepted calls = [partialFill, partialFill, filled] := by decide +kernel
  rw [hreports]
  refine ⟨by simp [partialFill, filled], by simp [partialFill, filled], ?_⟩
  simp only [List.map_cons, List.map_nil, List.pairwise_cons, List.mem_cons, List.not_mem_nil,
    or_false, forall_eq_or_imp, forall_eq, false_implies, implies_true, List.Pairwise.nil,
    and_true, OrderResult.totals, partialFill, filled]
  refine ⟨⟨?_, ?_, ?_⟩, ⟨?_, ?_⟩, ?_⟩ <;> constructor <;> norm_num

end TwoFills

theorem fill_accounting_telescopes_two_fills :
    ∃ store' pending portfolio,
      deliverAll ⟨"BTCUSDT", "USDT", "BTC", 1 / 1000, .exact⟩ TwoFills.calls
          (TwoFills.store.createPending "ta-1" "BTCUSDT" .buy (1 / 1000) 1 2) = .ok store' ∧
        store'.getPending "ta-1" = some pending ∧
        store'.loadPortfolio "BTCUSDT" = some portfolio ∧
        pending.applied.totals = lastTotals (accepted TwoFills.calls) ∧
        BalancesMoved .buy (.initial 100) pending.applied portfolio := by
  rcases exists_of_isOk (x := deliverAll ⟨"BTCUSDT", "USDT", "BTC", 1 / 1000, .exact⟩
    TwoFills.calls (TwoFills.store.createPending "ta-1" "BTCUSDT" .buy (1 / 1000) 1 2))
    (by decide +kernel) with ⟨store', h⟩
  rcases fill_accounting_telescopes "BTCUSDT" "USDT" "BTC" (1 / 1000) TwoFills.store store'
    (.initial 100) "ta-1" .buy (1 / 1000) 1 2 TwoFills.calls rfl rfl TwoFills.cumulativeReports h
    with ⟨pending, portfolio, hfound, hloaded, htotals, hmoved, -, -⟩
  exact ⟨store', pending, portfolio, h, hfound, hloaded, htotals, hmoved⟩

/-! ## Rounding -/

namespace Rounding

/-- Three units bought for ten: two at 3.33 and one at 3.34, the commission paid in BNB. -/
def report : OrderResult where
  orderId := 1
  clientOrderId := "ta-1"
  status := .filled
  executedQty := 3
  cumulativeQuoteQty := 10
  transactTimeMs := 1
  fills := [⟨333 / 100, 1, 1 / 10000, "BNB"⟩, ⟨333 / 100, 1, 1 / 10000, "BNB"⟩,
    ⟨334 / 100, 1, 1 / 10000, "BNB"⟩]

def store : ExecutionState where
  portfolios := [("SOLUSDT", .initial 10)]

/-- What the default context leaves in the two tables. -/
def result : Except PyError ExecutionState :=
  deliverAll ⟨"SOLUSDT", "USDT", "SOL", 1 / 1000, .default⟩ [⟨report, none, 3⟩]
    (store.createPending "ta-1" "SOLUSDT" .buy 3 1 2)

/-- The row holds the report's figures and no quote commission; 1e-27 of the balance is left. -/
theorem result_eq :
    (result.toOption.bind fun s => s.getPending "ta-1").map
          (fun row => (row.applied.totals, row.applied.commissionQuote)) = some ((3, 10), 0) ∧
      (result.toOption.bind fun s => s.loadPortfolio "SOLUSDT").map PortfolioState.quoteBalance =
        some (1 / 10 ^ 27) := by
  constructor <;> decide +kernel

theorem cumulativeReports : CumulativeReports "ta-1" [report] := by
  refine ⟨by simp [report], by simp [report], ?_⟩
  simp only [List.map_cons, List.map_nil, List.pairwise_cons, List.mem_cons, List.not_mem_nil,
    or_false, forall_eq, false_implies, implies_true, List.Pairwise.nil, and_true,
    OrderResult.totals, report]
  constructor <;> norm_num

end Rounding

/-- In the interpreter's own context the average price is rounded: a balance of 10 that pays 10
for three units keeps 1e-27. -/
theorem fill_accounting_rounds :
    CumulativeReports "ta-1" [Rounding.report] ∧
      ∃ store' pending portfolio, Rounding.result = .ok store' ∧
        store'.getPending "ta-1" = some pending ∧
        store'.loadPortfolio "SOLUSDT" = some portfolio ∧
        portfolio.quoteBalance ≠ 10 -
          (Rounding.report.cumulativeQuoteQty + pending.applied.commissionQuote) := by
  refine ⟨Rounding.cumulativeReports, ?_⟩
  rcases Rounding.result_eq with ⟨hrow, hbalance⟩
  rcases exists_of_isOk (x := Rounding.result) (by decide +kernel) with ⟨store', h⟩
  simp only [h, Except.toOption, Option.bind_some, Option.map_eq_some_iff] at hrow hbalance
  rcases hrow with ⟨pending, hfound, hrow⟩
  rcases hbalance with ⟨portfolio, hloaded, hquote⟩
  have hcommission : pending.applied.commissionQuote = 0 := congrArg Prod.snd hrow
  refine ⟨store', pending, portfolio, h, hfound, hloaded, ?_⟩
  rw [hquote, hcommission]
  norm_num [Rounding.report]

end TradingAgent
