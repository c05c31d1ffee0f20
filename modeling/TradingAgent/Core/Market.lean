import TradingAgent.Core.Decimal
import TradingAgent.Library.KeyedTable
import Mathlib.Data.Rat.Defs

/-!
# Market — candles, signals, exceptions and journal rows

The data every other module of the agent passes around.  A `Decimal`, and a float derived from
one, is a rational here, computed with exactly unless a `DecimalContext` is given; timestamps are
integers (milliseconds since the epoch).

* `PyError` lists the exceptions the modelled functions raise, one constructor for each kind of
  `raise`, carrying the values its message prints;
* `Candle`, `Signal`, `Strategy` are `data/models.py` and `strategy/base.py`;
* `JournalEntry` is one row of `journal/journal.py`.
-/

namespace TradingAgent

/-! ## Exceptions -/

/-- The reasons `portfolio/state.py` raises `InvalidTransitionError`. -/
inductive InvalidTransition where
  | buyWhileHolding
  | buyCostExceeds (cost available : ℚ)
  | increaseNotOpen
  | partialFillCostExceeds (cost available : ℚ)
  | sellNotHolding
  | sellExceedsHeld (quantity held : ℚ)
  | commissionConsumesQuantity (commission executed : ℚ)
  | nonPositiveSellDelta
  deriving DecidableEq, Repr

def InvalidTransition.message : InvalidTransition → String
  | .buyWhileHolding => "cannot buy while already holding a position"
  | .buyCostExceeds cost available =>
      s!"buy cost {cost} exceeds available quote balance {available}"
  | .increaseNotOpen => "cannot increase a position that is not open"
  | .partialFillCostExceeds cost available =>
      s!"partial-fill cost {cost} exceeds available quote balance {available}"
  | .sellNotHolding => "cannot sell while not holding a position"
  | .sellExceedsHeld quantity held =>
      s!"sell quantity {quantity} exceeds held base balance {held}"
  | .commissionConsumesQuantity commission executed =>
      s!"base commission {commission} consumes the entire executed quantity {executed}"
  | .nonPositiveSellDelta => "cannot apply a sell delta with non-positive quantity"

/-- The reasons `execution/order_outcome.py` raises `InconsistentExecutionReportError`. -/
inductive InconsistentReport where
  | executedDecreased (executed applied : ℚ) (clientOrderId : String)
  | quoteDecreased (quote applied : ℚ) (clientOrderId : String)
  | zeroMismatch (executed quote : ℚ) (clientOrderId : String)
  deriving DecidableEq, Repr

def InconsistentReport.message : InconsistentReport → String
  | .executedDecreased executed applied clientOrderId =>
      s!"executed_qty {executed} is less than already-applied {applied} for order {clientOrderId}"
  | .quoteDecreased quote applied clientOrderId =>
      s!"cumulative_quote_qty {quote} is less than already-applied {applied} " ++
        s!"for order {clientOrderId}"
  | .zeroMismatch executed quote clientOrderId =>
      s!"executed_qty={executed} and cumulative_quote_qty={quote} " ++
        s!"are inconsistent with each other for order {clientOrderId}"

/-- What a call of the exchange adapter raises: a network failure (`RequestException`), an answer of
the exchange that reports an error (`BinanceApiError`), or anything else. -/
inductive AdapterError where
  | request (text : String)
  | api (statusCode : ℤ) (code : Option ℤ) (message : String)
  | other (text : String)
  deriving DecidableEq, Repr

def AdapterError.text : AdapterError → String
  | .request text => text
  | .api statusCode code message =>
      let codeText := code.elim "None" toString
      s!"Binance API error {codeText}: {message} (HTTP {statusCode})"
  | .other text => text

inductive PyError where
  | invalidTransition (reason : InvalidTransition)
  | unsupportedCommission (commission : ℚ)
  | inconsistentReport (reason : InconsistentReport)
  | noPendingRecord (clientOrderId : String)
  | noPortfolioState (symbol : String)
  | planNotApproved
  | noActiveStopPrice
  | noActiveTargetPrice
  | zeroDivision
  | invalidOperation
  | indexOutOfRange
  | insufficientData (needed got : ℕ)
  | emptyData
  | duplicateCandle (openTimeMs : ℤ)
  | outOfOrderCandle (openTimeMs previousOpenTimeMs : ℤ)
  | gapDetected (previousOpenTimeMs openTimeMs : ℤ)
  | staleData
  | preBoundaryCandle
  | injectedFault (point : String)
  | adapter (error : AdapterError)
  | coldStartReconciliation (held : ℚ) (baseAsset : String)
  | unknownQuoteAsset (symbol : String)
  | external (text : String)
  deriving DecidableEq, Repr

/-- Whether an exception is an `InvalidTransitionError`. -/
def PyError.isInvalidTransition : PyError → Bool
  | .invalidTransition _ => true
  | _ => false

/-- `Decimal` division where the source does not itself exclude a zero divisor. -/
def decDiv (a b : ℚ) (context : DecimalContext := .exact) : Except PyError ℚ :=
  if b = 0 then .error .zeroDivision else .ok (context.div a b)

section Division

variable {context : DecimalContext} {a b c : ℚ} {e : PyError}

theorem decDiv_of_ne_zero (hb : b ≠ 0) : decDiv a b context = .ok (context.div a b) := by
  simp [decDiv, hb]

theorem decDiv_eq_ok (h : decDiv a b context = .ok c) : b ≠ 0 ∧ c = context.div a b := by
  unfold decDiv at h
  split at h
  · cases h
  · rename_i hb
    cases h
    exact ⟨hb, rfl⟩

theorem decDiv_eq_error (h : decDiv a b context = .error e) : e = .zeroDivision := by
  unfold decDiv at h
  split at h
  · cases h
    rfl
  · cases h

theorem divisor_of_decDiv_error (h : decDiv a b context = .error e) : b = 0 := by
  by_contra hb
  simp [decDiv_of_ne_zero hb] at h

end Division

theorem exists_of_isOk {ε α : Type*} {x : Except ε α} (h : x.isOk = true) : ∃ a, x = .ok a := by
  cases x with
  | error e => cases h
  | ok a => exact ⟨a, rfl⟩

/-- Two computations one after the other return where both do. -/
theorem exists_of_bind_ok {ε α β : Type} {x : Except ε α} {f : α → Except ε β} {b : β}
    (h : (x >>= f) = .ok b) : ∃ a, x = .ok a ∧ f a = .ok b := by
  cases x with
  | error e => cases h
  | ok a => exact ⟨a, rfl, h⟩

/-- Two computations one after the other raise where one of them does. -/
theorem exists_of_bind_error {ε α β : Type} {x : Except ε α} {f : α → Except ε β} {e : ε}
    (h : (x >>= f) = .error e) : x = .error e ∨ ∃ a, x = .ok a ∧ f a = .error e := by
  cases x with
  | error e' => exact Or.inl (by cases h; rfl)
  | ok a => exact Or.inr ⟨a, rfl, h⟩

theorem exists_of_map_ok {ε α β : Type} {x : Except ε α} {f : α → β} {b : β}
    (h : x.map f = .ok b) : ∃ a, x = .ok a ∧ b = f a := by
  cases x with
  | error e => cases h
  | ok a =>
      cases h
      exact ⟨a, rfl, rfl⟩

/-! ## Candles -/

structure Candle where
  symbol : String
  interval : String
  openTimeMs : ℤ
  closeTimeMs : ℤ
  «open» : ℚ
  high : ℚ
  low : ℚ
  close : ℚ
  volume : ℚ
  deriving DecidableEq, Repr

/-- Every price of the candle is positive. -/
structure Candle.PositivePrices (c : Candle) : Prop where
  openPos : 0 < c.open
  highPos : 0 < c.high
  lowPos : 0 < c.low
  closePos : 0 < c.close

/-! ## Signals -/

inductive SignalType where
  | buy
  | exit
  | hold
  deriving DecidableEq, Repr

inductive PositionSide where
  | flat
  | long
  deriving DecidableEq, Repr

/-- The values a journal payload or a signal's `inputs` may hold. -/
inductive PayloadValue where
  | text (s : String)
  | flag (b : Bool)
  | number (q : ℚ)
  | integer (n : ℤ)
  | amounts (m : List (String × ℚ))
  deriving DecidableEq, Repr

abbrev Payload := List (String × PayloadValue)

structure Signal where
  type : SignalType
  reasonCode : String
  candleCloseTimeMs : ℤ
  inputs : Payload := []
  deriving DecidableEq, Repr

def SignalType.text : SignalType → String
  | .buy => "buy"
  | .exit => "exit"
  | .hold => "hold"

/-- `{"type": ..., "reason_code": ..., **signal.inputs}`. -/
def signalPayload (signal : Signal) : Payload :=
  signal.inputs.foldl (fun payload entry => Dict.set payload entry.1 entry.2)
    [("type", .text signal.type.text), ("reason_code", .text signal.reasonCode)]

/-- `SignalGenerator.generate_signal`: a pure function of (completed candles, current position). -/
abbrev Strategy := List Candle → PositionSide → Except PyError Signal

/-- A strategy that emits BUY only when FLAT and EXIT only when LONG.  Having no portfolio, it
raises no exception about one. -/
structure Strategy.RespectsPosition (strategy : Strategy) : Prop where
  buyOnlyFlat : ∀ candles s, strategy candles .long = .ok s → s.type ≠ .buy
  exitOnlyLong : ∀ candles s, strategy candles .flat = .ok s → s.type ≠ .exit
  noTransition : ∀ candles side e, strategy candles side = .error e →
    e.isInvalidTransition = false

/-! ## Journal rows -/

inductive EntryType where
  | signal
  | signalSuppressed
  | sizing
  | riskDecision
  | orderValidation
  | orderSubmitted
  | orderOpen
  | orderPartiallyFilled
  | orderFilled
  | orderCanceled
  | orderRejected
  | orderExpired
  | orderNeverSubmitted
  | orderUnknownStatus
  | reconciliation
  | reconciliationStartup
  | reconciliationDiscrepancy
  | stopLossTriggered
  | takeProfitTriggered
  | exception
  deriving DecidableEq, Repr

structure JournalEntry where
  timestampMs : ℤ
  entryType : EntryType
  payload : Payload
  deriving DecidableEq, Repr

/-- An append-only journal; `none` where the caller passed no journal. -/
abbrev Journal := Option (List JournalEntry)

namespace Journal

/-- `if journal is not None: journal.record(...)`. -/
def record (journal : Journal) (entryType : EntryType) (payload : Payload) (timestampMs : ℤ) :
    Journal :=
  journal.map fun entries => entries ++ [⟨timestampMs, entryType, payload⟩]

/-- The rows a journal holds, none when there is no journal. -/
def rows : Journal → List JournalEntry
  | none => []
  | some entries => entries

/-- The journal with more rows appended, where there is one. -/
def extend (journal : Journal) (rows : List JournalEntry) : Journal :=
  journal.map fun entries => entries ++ rows

theorem record_eq_extend (journal : Journal) (e : EntryType) (p : Payload) (t : ℤ) :
    journal.record e p t = journal.extend [⟨t, e, p⟩] := rfl

@[simp] theorem extend_nil (journal : Journal) : journal.extend [] = journal := by
  cases journal <;> simp [extend]

@[simp] theorem extend_extend (journal : Journal) (xs ys : List JournalEntry) :
    (journal.extend xs).extend ys = journal.extend (xs ++ ys) := by
  cases journal <;> simp [extend]

@[simp] theorem extend_some (entries rows : List JournalEntry) :
    extend (some entries) rows = some (entries ++ rows) := rfl

end Journal

end TradingAgent
