import TradingAgent.Strategy.GatedBreakout

/-!
# Trend baseline — the crossover of a fast and a slow average

`strategy/trend_baseline.py`, the strategy of every plain backtest.  It reads the last two values of
both averages, so it needs one candle more than the slow period.
-/

namespace TradingAgent

structure EmaCrossoverTrendStrategy where
  emaFastPeriod : ℕ+
  emaSlowPeriod : ℕ+
  fastLtSlow : (emaFastPeriod : ℕ) < emaSlowPeriod

namespace EmaCrossoverTrendStrategy

variable (s : EmaCrossoverTrendStrategy)

def minRequiredCandles : ℕ :=
  s.emaSlowPeriod + 1

/-- `values[-2]` and `values[-1]`. -/
def lastTwo (values : List ℚ) : Except PyError (ℚ × ℚ) :=
  match values.reverse with
  | curr :: prev :: _ => .ok (prev, curr)
  | _ => .error .indexOutOfRange

def generateSignal : Strategy := fun candles currentPosition =>
  if candles.length < s.minRequiredCandles then
    .error (.insufficientData s.minRequiredCandles candles.length)
  else do
    let closes := candles.map Candle.close
    let (fastPrev, fastCurr) ← lastTwo (ema closes s.emaFastPeriod)
    let (slowPrev, slowCurr) ← lastTwo (ema closes s.emaSlowPeriod)
    match candles.getLast? with
    | none => .error .indexOutOfRange
    | some lastCandle =>
        let inputs : Payload :=
          [("symbol", .text lastCandle.symbol), ("interval", .text lastCandle.interval),
            ("close", .number lastCandle.close),
            ("ema_fast_period", .integer (s.emaFastPeriod : ℕ)),
            ("ema_slow_period", .integer (s.emaSlowPeriod : ℕ)),
            ("ema_fast_prev", .number fastPrev), ("ema_fast_curr", .number fastCurr),
            ("ema_slow_prev", .number slowPrev), ("ema_slow_curr", .number slowCurr),
            ("current_position", .text currentPosition.value)]
        let signal := fun type reasonCode =>
          Signal.mk type reasonCode lastCandle.closeTimeMs inputs
        if fastPrev ≤ slowPrev ∧ fastCurr > slowCurr then
          if currentPosition = .long then .ok (signal .hold "HOLD_ALREADY_LONG")
          else .ok (signal .buy "BULLISH_EMA_CROSSOVER")
        else if fastPrev ≥ slowPrev ∧ fastCurr < slowCurr then
          if currentPosition = .flat then .ok (signal .hold "HOLD_ALREADY_FLAT")
          else .ok (signal .exit "BEARISH_EMA_CROSSOVER")
        else .ok (signal .hold "HOLD_NO_CROSSOVER")

end EmaCrossoverTrendStrategy

end TradingAgent
