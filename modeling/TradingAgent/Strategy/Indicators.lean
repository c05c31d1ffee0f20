import TradingAgent.Core.Market
import TradingAgent.Library.CausalSeries
import Mathlib.Data.PNat.Basic
import Mathlib.Algebra.Order.Group.Unbundled.Abs
import Mathlib.Algebra.Order.Ring.Rat

/-!
# Indicators

`indicators/moving_averages.py` and `indicators/volatility.py`, with exact numbers for floats and
`none` for the NaN of a rolling window that is not full yet.  The source refuses a period that is
not positive; here a period is positive by its type.

* `CausalIndicators` is all that the results about the strategies assume of their indicators;
* `documentedIndicators` are those of the source.
-/

namespace TradingAgent

open CausalSeries

/-- `series.ewm(span=period, adjust=False).mean()`. -/
def ema (values : List ℚ) (period : ℕ+) : List ℚ :=
  match values with
  | [] => []
  | first :: rest =>
      let alpha : ℚ := 2 / (period + 1)
      rest.scanl (fun previous x => (1 - alpha) * previous + alpha * x) first

/-- `series.rolling(window=period)`, followed by an aggregation of each full window. -/
def rolling (aggregate : List ℚ → ℚ) (values : List ℚ) (period : ℕ+) : List (Option ℚ) :=
  (List.range values.length).map fun (i : ℕ) =>
    if i + 1 < (period : ℕ) then none
    else some (aggregate ((values.take (i + 1)).drop (i + 1 - period)))

def mean (window : List ℚ) : ℚ :=
  window.sum / window.length

def maximum : List ℚ → ℚ
  | [] => 0
  | first :: rest => rest.foldl max first

def sma (values : List ℚ) (period : ℕ+) : List (Option ℚ) :=
  rolling mean values period

def rollingMax (values : List ℚ) (period : ℕ+) : List (Option ℚ) :=
  rolling maximum values period

/-- The true range of each candle after `previousClose`. -/
def trueRangeFrom (previousClose : ℚ) : List Candle → List ℚ
  | [] => []
  | candle :: rest =>
      max (candle.high - candle.low)
          (max |candle.high - previousClose| |candle.low - previousClose|) ::
        trueRangeFrom candle.close rest

def trueRange : List Candle → List ℚ
  | [] => []
  | candle :: rest => (candle.high - candle.low) :: trueRangeFrom candle.close rest

def atr (candles : List Candle) (period : ℕ+) : List (Option ℚ) :=
  rolling mean (trueRange candles) period

/-! ## Any causal indicators -/

/-- The indicators of the strategy: `ewm(span, adjust=False).mean()`, `rolling(window).mean()` and
`rolling(window).max()`, of which only causality is assumed. -/
structure CausalIndicators where
  ema : List ℚ → ℕ+ → List ℚ
  rollingMean : List ℚ → ℕ+ → List (Option ℚ)
  rollingMax : List ℚ → ℕ+ → List (Option ℚ)
  emaCausal : ∀ period, Causal fun values => ema values period
  rollingMeanCausal : ∀ period, Causal fun values => rollingMean values period
  rollingMaxCausal : ∀ period, Causal fun values => rollingMax values period

/-- `atr`, with the rolling mean of the indicators. -/
def CausalIndicators.atr (indicators : CausalIndicators) (candles : List Candle) (period : ℕ+) :
    List (Option ℚ) :=
  indicators.rollingMean (trueRange candles) period

section Documented

theorem causal_ema (period : ℕ+) : Causal fun values => ema values period := by
  refine .of_initial ?_ ?_
  · intro values
    cases values with
    | nil => rfl
    | cons first rest => simp [ema]
  · intro values later
    cases values with
    | nil => exact List.nil_prefix
    | cons first rest =>
        simp only [ema, List.cons_append]
        induction rest generalizing first with
        | nil => cases later <;> simp
        | cons x rest ih =>
            simp only [List.scanl_cons, List.cons_append]
            exact (List.prefix_cons_inj _).2 (ih _)

theorem causal_rolling (aggregate : List ℚ → ℚ) (period : ℕ+) :
    Causal fun values => rolling aggregate values period := by
  constructor
  case length => simp [rolling]
  case congr =>
      intro values values' k hsame
      have hlengths := congrArg List.length hsame
      rw [List.length_take, List.length_take] at hlengths
      by_cases hk : k < values.length
      · have hk' : k < values'.length := by omega
        simp [rolling, hk, hk', hsame]
      · have hk' : ¬k < values'.length := by omega
        simp [rolling, hk, hk']

/-- The true ranges of more candles go on from those of the first ones. -/
theorem trueRangeFrom_append (previousClose : ℚ) (candles later : List Candle) :
    trueRangeFrom previousClose candles <+: trueRangeFrom previousClose (candles ++ later) := by
  induction candles generalizing previousClose with
  | nil => exact List.nil_prefix
  | cons c rest ih => exact (List.prefix_cons_inj _).2 (ih c.close)

theorem length_trueRangeFrom (previousClose : ℚ) (candles : List Candle) :
    (trueRangeFrom previousClose candles).length = candles.length := by
  induction candles generalizing previousClose with
  | nil => rfl
  | cons c rest ih => simp [trueRangeFrom, ih]

theorem causal_trueRange : Causal trueRange := by
  refine .of_initial ?_ ?_
  · intro candles
    cases candles with
    | nil => rfl
    | cons c rest => simp [trueRange, length_trueRangeFrom]
  · intro candles later
    cases candles with
    | nil => exact List.nil_prefix
    | cons c rest => exact (List.prefix_cons_inj _).2 (trueRangeFrom_append c.close rest later)

theorem CausalIndicators.atrCausal (indicators : CausalIndicators) (period : ℕ+) :
    Causal fun candles => indicators.atr candles period :=
  (indicators.rollingMeanCausal period).comp causal_trueRange

/-- The indicators as pandas documents them, on exact numbers. -/
def documentedIndicators : CausalIndicators where
  ema := ema
  rollingMean := sma
  rollingMax := rollingMax
  emaCausal := causal_ema
  rollingMeanCausal := causal_rolling mean
  rollingMaxCausal := causal_rolling maximum

end Documented

end TradingAgent
