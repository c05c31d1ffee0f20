import TradingAgent.Library.KeyedTable
import TradingAgent.Portfolio.State

/-!
# Order outcome — what is new in an execution report

`execution/fees.py` and `execution/order_outcome.py`: the part of a report's cumulative figures
that has not been applied yet, its commission by asset, and the portfolio after it.

* `computeOrderApplication` is the function the execution store calls in its transaction;
* `computeOrderApplication_cases` says a report that is accepted changes nothing or applies exactly
  the difference to what was applied before.
-/

namespace TradingAgent

/-! ## Reports -/

structure Fill where
  price : ℚ
  qty : ℚ
  commission : ℚ
  commissionAsset : String
  deriving DecidableEq, Repr

/-- The statuses of an order.  `neverSubmitted` is the agent's own; any status of the exchange that
the agent does not know is `other`. -/
inductive OrderStatus where
  | new
  | partiallyFilled
  | filled
  | canceled
  | rejected
  | expired
  | neverSubmitted
  | other (text : String)
  deriving DecidableEq, Repr

namespace OrderStatus

def text : OrderStatus → String
  | .new => "NEW"
  | .partiallyFilled => "PARTIALLY_FILLED"
  | .filled => "FILLED"
  | .canceled => "CANCELED"
  | .rejected => "REJECTED"
  | .expired => "EXPIRED"
  | .neverSubmitted => "NEVER_SUBMITTED"
  | .other text => text

/-- `status in TERMINAL_STATUSES`. -/
def isTerminal : OrderStatus → Bool
  | .filled | .canceled | .rejected | .expired | .neverSubmitted => true
  | .new | .partiallyFilled | .other _ => false

/-- `_JOURNAL_EVENT_BY_STATUS.get(status, "ORDER_UNKNOWN_STATUS")`. -/
def journalEvent : OrderStatus → EntryType
  | .new => .orderOpen
  | .partiallyFilled => .orderPartiallyFilled
  | .filled => .orderFilled
  | .canceled => .orderCanceled
  | .rejected => .orderRejected
  | .expired => .orderExpired
  | .neverSubmitted => .orderNeverSubmitted
  | .other _ => .orderUnknownStatus

end OrderStatus

structure OrderResult where
  orderId : ℤ
  clientOrderId : String
  status : OrderStatus
  executedQty : ℚ
  cumulativeQuoteQty : ℚ
  transactTimeMs : ℤ
  fills : List Fill := []
  deriving DecidableEq, Repr

/-! ## Commission by asset -/

structure CommissionBuckets where
  quote : ℚ
  base : ℚ
  other : Dict String ℚ
  isEstimated : Bool
  deriving DecidableEq, Repr

/-- `d[asset] = d.get(asset, Decimal(0)) + amount`. -/
def addAmount (context : DecimalContext) (d : Dict String ℚ) (asset : String) (amount : ℚ) :
    Dict String ℚ :=
  d.set asset (context.add (d.getD asset 0) amount)

def addFillCommission (context : DecimalContext) (quoteAsset baseAsset : String)
    (buckets : CommissionBuckets) (fill : Fill) : CommissionBuckets :=
  if fill.commissionAsset = quoteAsset then
    { buckets with quote := context.add buckets.quote fill.commission }
  else if fill.commissionAsset = baseAsset then
    { buckets with base := context.add buckets.base fill.commission }
  else
    { buckets with
      other := addAmount context buckets.other fill.commissionAsset fill.commission }

def estimateFeeFromNotional (context : DecimalContext) (notional fallbackFeePct : ℚ) : ℚ :=
  context.mul notional fallbackFeePct

def computeCommissionBuckets (context : DecimalContext) (fills : List Fill)
    (quoteAsset baseAsset : String) (fallbackNotional fallbackFeePct : ℚ) : CommissionBuckets :=
  match fills with
  | [] => ⟨estimateFeeFromNotional context fallbackNotional fallbackFeePct, 0, [], true⟩
  | _ :: _ => fills.foldl (addFillCommission context quoteAsset baseAsset) ⟨0, 0, [], false⟩

/-! ## Applying a report -/

/-- What has been applied of an order so far. -/
structure AppliedExecution where
  executedQty : ℚ := 0
  cumulativeQuoteQty : ℚ := 0
  commissionQuote : ℚ := 0
  commissionBase : ℚ := 0
  commissionOther : Dict String ℚ := []
  deriving DecidableEq, Repr

structure OrderApplicationResult where
  portfolio : PortfolioState
  isTerminal : Bool
  newApplied : AppliedExecution
  journalEventType : EntryType
  journalPayload : Payload
  realizedPnlDelta : Option ℚ
  deriving DecidableEq, Repr

/-- What is applied once the difference to `order` is, with the commission of that difference. -/
def AppliedExecution.advance (context : DecimalContext) (applied : AppliedExecution)
    (order : OrderResult) (buckets : CommissionBuckets) : AppliedExecution where
  executedQty := order.executedQty
  cumulativeQuoteQty := order.cumulativeQuoteQty
  commissionQuote := context.add applied.commissionQuote buckets.quote
  commissionBase := context.add applied.commissionBase buckets.base
  commissionOther :=
    buckets.other.foldl (fun merged entry => addAmount context merged entry.1 entry.2)
      applied.commissionOther

def computeOrderApplication (context : DecimalContext) (order : OrderResult) (side : OrderSide)
    (quoteAsset baseAsset : String) (portfolio : PortfolioState) (applied : AppliedExecution)
    (fallbackFeePct : ℚ) : Except PyError OrderApplicationResult :=
  let status := order.status
  let statusPayload : Payload :=
    [("status", .text status.text), ("order_id", .integer order.orderId)]
  if order.executedQty < applied.executedQty then
    .error (.inconsistentReport
      (.executedDecreased order.executedQty applied.executedQty order.clientOrderId))
  else if order.cumulativeQuoteQty < applied.cumulativeQuoteQty then
    .error (.inconsistentReport
      (.quoteDecreased order.cumulativeQuoteQty applied.cumulativeQuoteQty order.clientOrderId))
  else if ¬(order.executedQty = 0 ↔ order.cumulativeQuoteQty = 0) then
    .error (.inconsistentReport
      (.zeroMismatch order.executedQty order.cumulativeQuoteQty order.clientOrderId))
  else if status = .new then
    .ok ⟨portfolio, false, applied, status.journalEvent, statusPayload, none⟩
  else
    let deltaBaseQty := context.sub order.executedQty applied.executedQty
    let deltaQuoteQty := context.sub order.cumulativeQuoteQty applied.cumulativeQuoteQty
    if deltaBaseQty ≤ 0 then
      .ok ⟨portfolio, status.isTerminal, applied, status.journalEvent,
        statusPayload ++ [("executed_qty", .number order.executedQty)], none⟩
    else do
      let buckets := computeCommissionBuckets context order.fills quoteAsset baseAsset
        deltaQuoteQty fallbackFeePct
      let newPortfolio ← applyFillDelta portfolio side deltaBaseQty deltaQuoteQty buckets.quote
        buckets.base buckets.isEstimated context
      .ok
        { portfolio := newPortfolio
          isTerminal := status.isTerminal
          newApplied := applied.advance context order buckets
          journalEventType := status.journalEvent
          journalPayload := statusPayload ++
            [("applied_qty", .number deltaBaseQty), ("applied_quote", .number deltaQuoteQty),
              ("commission_quote", .number buckets.quote),
              ("commission_base", .number buckets.base),
              ("commission_other", .amounts buckets.other),
              ("fee_is_estimated", .flag buckets.isEstimated)]
          realizedPnlDelta :=
            match side with
            | .buy => none
            | .sell =>
                some (context.sub newPortfolio.realizedPnlQuote portfolio.realizedPnlQuote) }

/-! ## What an accepted report did -/

/-- The commission of the difference between a report and what was applied before. -/
def deltaCommission (order : OrderResult) (quoteAsset baseAsset : String)
    (applied : AppliedExecution) (fallbackFeePct : ℚ) : CommissionBuckets :=
  computeCommissionBuckets .exact order.fills quoteAsset baseAsset
    (order.cumulativeQuoteQty - applied.cumulativeQuoteQty) fallbackFeePct

@[simp] theorem deltaCommission_of_no_fills {order : OrderResult} (hfills : order.fills = [])
    (quoteAsset baseAsset : String) (applied : AppliedExecution) (fallbackFeePct : ℚ) :
    deltaCommission order quoteAsset baseAsset applied fallbackFeePct =
      ⟨(order.cumulativeQuoteQty - applied.cumulativeQuoteQty) * fallbackFeePct, 0, [], true⟩ := by
  simp [deltaCommission, hfills, computeCommissionBuckets, estimateFeeFromNotional]

section Cases

variable {order : OrderResult} {side : OrderSide} {quoteAsset baseAsset : String}
variable {portfolio : PortfolioState} {applied : AppliedExecution} {fee : ℚ}
variable {r : OrderApplicationResult}

/-- The checks every accepted report has passed. -/
structure ReportAccepted (order : OrderResult) (applied : AppliedExecution) : Prop where
  executed : applied.executedQty ≤ order.executedQty
  quote : applied.cumulativeQuoteQty ≤ order.cumulativeQuoteQty
  together : order.executedQty = 0 ↔ order.cumulativeQuoteQty = 0

/-- A report that brought nothing new. -/
structure ReportUnchanged (order : OrderResult) (portfolio : PortfolioState)
    (applied : AppliedExecution) (r : OrderApplicationResult) : Prop where
  samePortfolio : r.portfolio = portfolio
  sameApplied : r.newApplied = applied
  terminal : r.isTerminal = order.status.isTerminal
  nothingNew : order.status = .new ∨ order.executedQty = applied.executedQty

/-- A report whose new executions were applied. -/
structure ReportApplied (order : OrderResult) (side : OrderSide) (quoteAsset baseAsset : String)
    (portfolio : PortfolioState) (applied : AppliedExecution) (fee : ℚ)
    (r : OrderApplicationResult) : Prop where
  status : order.status ≠ .new
  more : applied.executedQty < order.executedQty
  filled : applyFillDelta portfolio side (order.executedQty - applied.executedQty)
    (order.cumulativeQuoteQty - applied.cumulativeQuoteQty)
    (deltaCommission order quoteAsset baseAsset applied fee).quote
    (deltaCommission order quoteAsset baseAsset applied fee).base
    (deltaCommission order quoteAsset baseAsset applied fee).isEstimated = .ok r.portfolio
  advanced : r.newApplied =
    applied.advance .exact order (deltaCommission order quoteAsset baseAsset applied fee)
  terminal : r.isTerminal = order.status.isTerminal

/-- In exact arithmetic an accepted report changes nothing or applies exactly what is new. -/
theorem computeOrderApplication_cases
    (h : computeOrderApplication .exact order side quoteAsset baseAsset portfolio applied fee =
      .ok r) :
    ReportAccepted order applied ∧
      (ReportUnchanged order portfolio applied r ∨
        ReportApplied order side quoteAsset baseAsset portfolio applied fee r) := by
  unfold computeOrderApplication at h
  simp only at h
  split at h
  · cases h
  rename_i hexecuted
  split at h
  · cases h
  rename_i hquote
  split at h
  · cases h
  rename_i htogether
  refine ⟨⟨not_lt.1 hexecuted, not_lt.1 hquote, not_not.1 htogether⟩, ?_⟩
  split at h
  · rename_i hnew
    cases h
    exact Or.inl ⟨rfl, rfl, by simp [hnew, OrderStatus.isTerminal], Or.inl hnew⟩
  rename_i hnew
  split at h
  · rename_i hdelta
    cases h
    have hle : order.executedQty ≤ applied.executedQty := sub_nonpos.1 hdelta
    exact Or.inl ⟨rfl, rfl, rfl, Or.inr (le_antisymm hle (not_lt.1 hexecuted))⟩
  · rename_i hdelta
    have hmore : applied.executedQty < order.executedQty := sub_pos.1 (not_le.1 hdelta)
    simp only [bind, Except.bind] at h
    split at h
    · cases h
    · rename_i newPortfolio hfill
      cases h
      exact Or.inr ⟨hnew, hmore, hfill, rfl, rfl⟩

end Cases

end TradingAgent
