import TradingAgent.Strategy.SingleEntry

/-!
# Gated breakout — the setups of E1 are the entries of D1

`research/candidates/volatility_breakout.py` and `research/candidates/breakout_regime_gate.py`: a
breakout of the Donchian channel by a multiple of the average true range, and the same behind a
rising long-term average.  The counters of the strategy object are left out, no decision reads them.

* `buys_iff` of either strategy says what a BUY needs;
* `setups_are_gated_breakouts`: the multi-timeframe breakout, which computes its indicators once over
  all 4h buckets, has a setup for a bucket exactly where the gated breakout buys on the buckets up to
  it.
-/

namespace TradingAgent

open CausalSeries

def PositionSide.value : PositionSide → String
  | .flat => "flat"
  | .long => "long"

/-- A float of a signal's `inputs`, which may be NaN. -/
def floatValue : Option ℚ → PayloadValue
  | some q => .number q
  | none => .text "nan"

def minimum : List ℚ → ℚ
  | [] => 0
  | first :: rest => rest.foldl min first

/-- The strategy answers with a BUY. -/
def Buys (strategy : Strategy) (candles : List Candle) (side : PositionSide) : Prop :=
  ∃ signal, strategy candles side = .ok signal ∧ signal.type = .buy

/-! ## The breakout -/

structure VolatilityNormalizedBreakoutStrategy where
  channelPeriod : ℕ+
  atrPeriod : ℕ+
  breakoutAtrMultiple : ℚ
  multipleNonneg : 0 ≤ breakoutAtrMultiple

namespace VolatilityNormalizedBreakoutStrategy

/-- The constructor, with the text of its `ValueError`. -/
def create (channelPeriod atrPeriod : ℤ) (breakoutAtrMultiple : ℚ) :
    Except String VolatilityNormalizedBreakoutStrategy :=
  if hperiods : channelPeriod ≤ 0 ∨ atrPeriod ≤ 0 then .error "periods must be positive"
  else if hmultiple : breakoutAtrMultiple < 0 then
    .error "breakout_atr_multiple must be non-negative"
  else .ok
    { channelPeriod := ⟨channelPeriod.toNat, by omega⟩
      atrPeriod := ⟨atrPeriod.toNat, by omega⟩
      breakoutAtrMultiple := breakoutAtrMultiple
      multipleNonneg := not_lt.1 hmultiple }

/-- Every strategy is what its constructor makes of its parameters. -/
theorem create_self (s : VolatilityNormalizedBreakoutStrategy) :
    create s.channelPeriod s.atrPeriod s.breakoutAtrMultiple = .ok s := by
  have hchannel := s.channelPeriod.pos
  have hatr := s.atrPeriod.pos
  rw [create, dif_neg (by omega), dif_neg (not_lt.2 s.multipleNonneg)]
  rfl

variable (s : VolatilityNormalizedBreakoutStrategy) (indicators : CausalIndicators)

def minRequiredCandles : ℕ :=
  max ((s.channelPeriod : ℕ) + 1) s.atrPeriod

/-- `candles[-(channel_period + 1):-1]`. -/
def preceding (candles : List Candle) : List Candle :=
  candles.dropLast.drop (candles.length - ((s.channelPeriod : ℕ) + 1))

def donchianHigh (candles : List Candle) : ℚ :=
  maximum ((s.preceding candles).map Candle.high)

def donchianLow (candles : List Candle) : ℚ :=
  minimum ((s.preceding candles).map Candle.low)

/-- The last average true range; it and every comparison with it may be NaN. -/
def atrCurr (candles : List Candle) : Option ℚ :=
  (indicators.atr candles s.atrPeriod).getLast?.getD none

def confirms (breakoutDistance : ℚ) (atrCurr : Option ℚ) : Bool :=
  breakoutDistance > 0 &&
    atrCurr.any fun a => a ≤ 0 || breakoutDistance ≥ s.breakoutAtrMultiple * a

def generateSignal : Strategy := fun candles currentPosition =>
  if candles.length < s.minRequiredCandles then
    .error (.insufficientData s.minRequiredCandles candles.length)
  else
    match candles.getLast? with
    | none => .error .indexOutOfRange
    | some lastCandle =>
        let inputs : Payload :=
          [("symbol", .text lastCandle.symbol), ("close", .number lastCandle.close),
            ("donchian_high", .number (s.donchianHigh candles)),
            ("donchian_low", .number (s.donchianLow candles)),
            ("atr_curr", floatValue (s.atrCurr indicators candles)),
            ("breakout_atr_multiple", .number s.breakoutAtrMultiple),
            ("current_position", .text currentPosition.value)]
        if currentPosition = .flat then
          if s.confirms (lastCandle.close - s.donchianHigh candles)
              (s.atrCurr indicators candles) = true then
            .ok ⟨.buy, "VOLATILITY_CONFIRMED_UPSIDE_BREAKOUT", lastCandle.closeTimeMs, inputs⟩
          else .ok ⟨.hold, "HOLD_NO_CONFIRMED_BREAKOUT", lastCandle.closeTimeMs, inputs⟩
        else if lastCandle.close < s.donchianLow candles then
          .ok ⟨.exit, "CHANNEL_BREAKDOWN", lastCandle.closeTimeMs, inputs⟩
        else .ok ⟨.hold, "HOLD_WITHIN_CHANNEL", lastCandle.closeTimeMs, inputs⟩

/-- The breakout buys where it is flat and the last close confirms. -/
theorem buys_iff {candles : List Candle} {side : PositionSide} :
    Buys (s.generateSignal indicators) candles side ↔
      s.minRequiredCandles ≤ candles.length ∧ side = .flat ∧ ∃ last ∈ candles.getLast?,
        s.confirms (last.close - s.donchianHigh candles) (s.atrCurr indicators candles) = true := by
  simp only [Buys, generateSignal]
  by_cases hshort : candles.length < s.minRequiredCandles
  · simp [hshort, not_le.2 hshort]
  rw [if_neg hshort]
  cases hlast : candles.getLast? with
  | none => simp
  | some last =>
      cases side with
      | long =>
          -- neither the exit nor the hold of a position is a BUY
          simp only [reduceCtorEq, if_false, false_and, and_false, iff_false]
          rintro ⟨signal, hsignal, hbuy⟩
          split at hsignal <;> cases hsignal <;> cases hbuy
      | flat =>
          simp only [if_true, Option.mem_def, Option.some.injEq, exists_eq_left', true_and,
            not_lt.1 hshort]
          constructor
          · rintro ⟨signal, hsignal, hbuy⟩
            split at hsignal
            · assumption
            · cases hsignal
              cases hbuy
          · intro hconfirms
            exact ⟨_, if_pos hconfirms, rfl⟩

end VolatilityNormalizedBreakoutStrategy

/-! ## The gate -/

/-- `EMA_REGIME_PERIOD`. -/
def emaRegimePeriod : ℕ+ := ⟨200, by decide⟩

/-- `EMA_REGIME_SLOPE_LOOKBACK_CANDLES`. -/
def emaRegimeSlopeLookbackCandles : ℕ := 20

structure BreakoutWithBullishRegimeGateStrategy where
  breakout : VolatilityNormalizedBreakoutStrategy

namespace BreakoutWithBullishRegimeGateStrategy

def create (channelPeriod atrPeriod : ℤ) (breakoutAtrMultiple : ℚ) :
    Except String BreakoutWithBullishRegimeGateStrategy :=
  (VolatilityNormalizedBreakoutStrategy.create channelPeriod atrPeriod breakoutAtrMultiple).map
    BreakoutWithBullishRegimeGateStrategy.mk

variable (s : BreakoutWithBullishRegimeGateStrategy) (indicators : CausalIndicators)

def minRequiredCandles : ℕ :=
  max s.breakout.minRequiredCandles (emaRegimePeriod + emaRegimeSlopeLookbackCandles)

def generateSignal : Strategy := fun candles currentPosition =>
  if candles.length < s.minRequiredCandles then
    .error (.insufficientData s.minRequiredCandles candles.length)
  else
    match s.breakout.generateSignal indicators candles currentPosition with
    | .error e => .error e
    | .ok signal =>
        if signal.type ≠ .buy then .ok signal
        else
          let closes := candles.map Candle.close
          let emaValues := indicators.ema closes emaRegimePeriod
          let currentIdx := candles.length - 1
          match closes[currentIdx]?, emaValues[currentIdx]?,
              emaValues[currentIdx - emaRegimeSlopeLookbackCandles]? with
          | some closeCurr, some emaCurr, some emaPrior =>
              let inputs := signal.inputs ++
                [("ema200_curr", .number emaCurr), ("ema200_prior", .number emaPrior),
                  ("above_ema200", .flag (closeCurr > emaCurr)),
                  ("ema200_rising", .flag (emaCurr > emaPrior))]
              if closeCurr > emaCurr ∧ emaCurr > emaPrior then
                .ok ⟨.buy, "BREAKOUT_CONFIRMED_BULLISH_REGIME", signal.candleCloseTimeMs, inputs⟩
              else .ok ⟨.hold, "HOLD_REGIME_GATE_BLOCKED", signal.candleCloseTimeMs, inputs⟩
          | _, _, _ => .error .indexOutOfRange

/-- The close is above an average that is above what it was twenty candles before. -/
def AboveRisingEma (candles : List Candle) : Prop :=
  ∃ last ∈ candles.getLast?,
    ∃ emaCurr ∈ (indicators.ema (candles.map Candle.close) emaRegimePeriod)[candles.length - 1]?,
      ∃ emaPrior ∈ (indicators.ema (candles.map Candle.close) emaRegimePeriod)[
          candles.length - 1 - emaRegimeSlopeLookbackCandles]?,
        last.close > emaCurr ∧ emaCurr > emaPrior

/-- The gated breakout buys where the breakout does, above a rising average. -/
theorem buys_iff {candles : List Candle} {side : PositionSide} :
    Buys (s.generateSignal indicators) candles side ↔
      s.minRequiredCandles ≤ candles.length ∧
        Buys (s.breakout.generateSignal indicators) candles side ∧
          AboveRisingEma indicators candles := by
  unfold Buys generateSignal
  by_cases hshort : candles.length < s.minRequiredCandles
  · simp [hshort, not_le.2 hshort]
  rw [if_neg hshort]
  have hlast : (candles.map Candle.close)[candles.length - 1]? =
      candles.getLast?.map Candle.close := by
    rw [List.getElem?_map, List.getLast?_eq_getElem?]
  simp only [not_lt.1 hshort, true_and, hlast, AboveRisingEma]
  cases s.breakout.generateSignal indicators candles side with
  | error e => simp
  | ok signal =>
      by_cases hbuy : signal.type = .buy
      case neg =>
        -- what is no BUY passes through
        simp [hbuy]
      simp only [hbuy, ne_eq, not_true_eq_false, if_false, Except.ok.injEq, exists_eq_left',
        true_and]
      cases candles.getLast? with
      | none => simp
      | some last =>
          cases (indicators.ema (candles.map Candle.close) emaRegimePeriod)[
              candles.length - 1]? with
          | none => simp
          | some emaCurr =>
              cases (indicators.ema (candles.map Candle.close) emaRegimePeriod)[
                  candles.length - 1 - emaRegimeSlopeLookbackCandles]? with
              | none => simp
              | some emaPrior =>
                  by_cases habove : last.close > emaCurr ∧ emaCurr > emaPrior
                  · simp [habove]
                  · simp [habove]

/-- D1. -/
def d1 : BreakoutWithBullishRegimeGateStrategy where
  breakout :=
    { channelPeriod := ⟨20, by decide⟩
      atrPeriod := ⟨14, by decide⟩
      breakoutAtrMultiple := 1 / 4
      multipleNonneg := by norm_num }

example : create 20 14 (1 / 4) = .ok d1 :=
  congrArg (Except.map mk) (VolatilityNormalizedBreakoutStrategy.create_self d1.breakout)

end BreakoutWithBullishRegimeGateStrategy

/-! ## Indicators at an index, and on the candles up to it -/

section UpTo

variable (s : VolatilityNormalizedBreakoutStrategy) (indicators : CausalIndicators)
variable {candles : List Candle} {i : ℕ}

theorem getLast?_upTo {α : Type*} {values : List α} (hi : i < values.length) :
    (values.take (i + 1)).getLast? = values[i]? := by
  rw [List.getLast?_eq_getElem?, List.length_take_of_le hi, List.getElem?_take_of_lt (by omega)]
  rfl

/-- The channel before the last candle is the inclusive window that ends one candle earlier. -/
theorem donchianHigh_upTo (hi : i < candles.length) (hchannel : (s.channelPeriod : ℕ) ≤ i) :
    (rollingMax (candles.map Candle.high) s.channelPeriod)[i - 1]? =
      some (some (s.donchianHigh (candles.take (i + 1)))) := by
  have hpos := s.channelPeriod.pos
  have hindex : i - 1 + 1 = i := by omega
  have hdropLast : (candles.take (i + 1)).dropLast = candles.take i := by
    rw [List.dropLast_eq_take, List.length_take_of_le hi, List.take_take]
    congr 1
    omega
  have hstart : i + 1 - ((s.channelPeriod : ℕ) + 1) = i - s.channelPeriod := by omega
  have hwindow : (s.preceding (candles.take (i + 1))).map Candle.high =
      ((candles.map Candle.high).take i).drop (i - s.channelPeriod) := by
    rw [VolatilityNormalizedBreakoutStrategy.preceding, hdropLast, List.length_take_of_le hi,
      hstart, List.map_drop, List.map_take]
  have hlength : i - 1 < (candles.map Candle.high).length := by
    rw [List.length_map]
    omega
  rw [rollingMax, rolling, List.getElem?_map, List.getElem?_range hlength, Option.map_some,
    hindex, if_neg (not_lt.2 hchannel), VolatilityNormalizedBreakoutStrategy.donchianHigh, hwindow]

theorem atrCurr_upTo (hi : i < candles.length) :
    s.atrCurr indicators (candles.take (i + 1)) =
      (indicators.atr candles s.atrPeriod)[i]?.getD none := by
  have hcausal := indicators.atrCausal s.atrPeriod
  have hlength : i < (indicators.atr candles s.atrPeriod).length := by
    rwa [hcausal.length candles]
  rw [VolatilityNormalizedBreakoutStrategy.atrCurr, hcausal.take candles (i + 1),
    getLast?_upTo hlength]

theorem ema_upTo (period : ℕ+) {k : ℕ} (hk : k ≤ i) :
    (indicators.ema ((candles.take (i + 1)).map Candle.close) period)[k]? =
      (indicators.ema (candles.map Candle.close) period)[k]? := by
  rw [List.map_take, (indicators.emaCausal period).take (candles.map Candle.close) (i + 1),
    List.getElem?_take_of_lt (Nat.lt_succ_of_le hk)]

end UpTo

/-! ## The setups of E1 -/

/-- The indicators with `rolling(window).max()` the greatest value of each full window. -/
def CausalIndicators.withMaximum (indicators : CausalIndicators) : CausalIndicators :=
  { indicators with
    rollingMax := fun values period => rolling maximum values period
    rollingMaxCausal := causal_rolling maximum }

section Setups

variable {indicators : CausalIndicators} {candles : List Candle} {buckets : List CompletedBucket}
variable {bucket : CompletedBucket} {i : ℕ}

/-- What a setup at a bucket needs. -/
theorem setupOf_isSome_iff (hbucket : buckets[i]? = some bucket) :
    (setupOf indicators candles buckets i).isSome ↔
      ∃ level, (indicators.rollingMax ((buckets.map CompletedBucket.candle).map Candle.high)
          fourHChannelPeriod)[i - 1]? = some (some level) ∧
        ∃ atrI ∈ (indicators.atr (buckets.map CompletedBucket.candle) fourHAtrPeriod)[i]?,
        ∃ emaCurr ∈ (indicators.ema ((buckets.map CompletedBucket.candle).map Candle.close)
          fourHEmaRegimePeriod)[i]?,
        ∃ emaPrior ∈ (indicators.ema ((buckets.map CompletedBucket.candle).map Candle.close)
          fourHEmaRegimePeriod)[i - fourHEmaSlopeLookbackCandles]?,
          confirmedBreakout (bucket.candle.close - level) atrI = true ∧
            bucket.candle.close > emaCurr ∧ emaCurr > emaPrior := by
  unfold setupOf setupEventAt
  rw [hbucket]
  rcases (indicators.rollingMax ((buckets.map CompletedBucket.candle).map Candle.high)
    fourHChannelPeriod)[i - 1]? with _ | _ | level
  · simp
  · simp
  cases (indicators.atr (buckets.map CompletedBucket.candle) fourHAtrPeriod)[i]? with
  | none => simp
  | some atrI =>
      cases (indicators.ema ((buckets.map CompletedBucket.candle).map Candle.close)
          fourHEmaRegimePeriod)[i]? with
      | none => simp
      | some emaCurr =>
          cases (indicators.ema ((buckets.map CompletedBucket.candle).map Candle.close)
              fourHEmaRegimePeriod)[i - fourHEmaSlopeLookbackCandles]? with
          | none => simp
          | some emaPrior =>
              cases hconfirmed : confirmedBreakout (bucket.candle.close - level) atrI with
              | false => simp [hconfirmed]
              | true =>
                  by_cases habove : bucket.candle.close > emaCurr ∧ emaCurr > emaPrior
                  · simp [hconfirmed, habove]
                  · simp [hconfirmed, habove]

/-- The setups that close with a bucket are the one of its index. -/
theorem exists_setup_iff (hmin : minFourHIdx ≤ i)
    (hbuckets : aggregateCompletedBuckets candles fourHHours fourHBucketStartMs = buckets)
    (hbucket : buckets[i]? = some bucket) :
    (∃ e ∈ scanSetupEvents indicators candles, e.setupHourIndex = bucket.lastHourIndex) ↔
      (setupOf indicators candles buckets i).isSome := by
  have hlength := (List.getElem?_eq_some_iff.1 hbucket).1
  rw [scanSetupEvents_eq indicators candles hbuckets]
  constructor
  · rintro ⟨e, hmem, hhour⟩
    rcases List.mem_filterMap.1 hmem with ⟨j, -, hsome⟩
    rcases setupOf_eq_some hsome with ⟨bucket', hbucket', level, rfl⟩
    -- buckets that end with the same hour are the same
    have hordered : buckets.Pairwise fun b b' =>
        b.lastHourIndex + fourHHours ≤ b'.lastHourIndex := by
      rw [← hbuckets]
      exact completedBuckets_pairwise 0 _
    have hsame : bucket'.lastHourIndex = bucket.lastHourIndex := hhour
    have hindex : j = i := by
      rcases List.getElem?_eq_some_iff.1 hbucket with ⟨hi, rfl⟩
      rcases List.getElem?_eq_some_iff.1 hbucket' with ⟨hj, rfl⟩
      have hfour : 0 < fourHHours := by decide
      rcases lt_trichotomy j i with hlt | heq | hgt
      · have hapart := List.pairwise_iff_getElem.1 hordered j i hj hi hlt
        omega
      · exact heq
      · have hapart := List.pairwise_iff_getElem.1 hordered i j hi hj hgt
        omega
    rw [← hindex, hsome]
    rfl
  · intro hsome
    rcases Option.isSome_iff_exists.1 hsome with ⟨e, he⟩
    rcases setupOf_eq_some he with ⟨bucket', hbucket', level, rfl⟩
    refine ⟨_, List.mem_filterMap.2 ⟨i, List.mem_range'_1.2 ⟨hmin, by omega⟩, he⟩, ?_⟩
    cases hbucket.symm.trans hbucket'
    rfl

end Setups

section Entries

open BreakoutWithBullishRegimeGateStrategy

variable {indicators : CausalIndicators} {candles : List Candle} {i : ℕ}

/-- What D1, flat, buys on at an index, read off the series over all the candles. -/
theorem d1_buys_upTo (hi : 219 ≤ i) {last : Candle} (hlast : candles[i]? = some last) :
    Buys (d1.generateSignal indicators) (candles.take (i + 1)) .flat ↔
      confirmedBreakout (last.close - d1.breakout.donchianHigh (candles.take (i + 1)))
          ((indicators.atr candles d1.breakout.atrPeriod)[i]?.getD none) = true ∧
        ∃ emaCurr ∈ (indicators.ema (candles.map Candle.close) emaRegimePeriod)[i]?,
          ∃ emaPrior ∈ (indicators.ema (candles.map Candle.close) emaRegimePeriod)[
              i - emaRegimeSlopeLookbackCandles]?,
            last.close > emaCurr ∧ emaCurr > emaPrior := by
  have hlt : i < candles.length := (List.getElem?_eq_some_iff.1 hlast).1
  have hlength : (candles.take (i + 1)).length = i + 1 := List.length_take_of_le hlt
  have hend : (candles.take (i + 1)).getLast? = some last := (getLast?_upTo hlt).trans hlast
  have henough : d1.minRequiredCandles ≤ i + 1 :=
    calc d1.minRequiredCandles ≤ 220 := by decide
      _ ≤ i + 1 := Nat.succ_le_succ hi
  have henough' : d1.breakout.minRequiredCandles ≤ i + 1 := (le_max_left _ _).trans henough
  have hema : ∀ k ≤ i, (indicators.ema ((candles.take (i + 1)).map Candle.close)
      emaRegimePeriod)[k]? = (indicators.ema (candles.map Candle.close) emaRegimePeriod)[k]? :=
    fun k hk => ema_upTo indicators emaRegimePeriod hk
  have hcurrent := hema i le_rfl
  have hprior := hema (i - emaRegimeSlopeLookbackCandles) (Nat.sub_le _ _)
  rw [buys_iff, VolatilityNormalizedBreakoutStrategy.buys_iff]
  simp only [AboveRisingEma, hlength, hend, atrCurr_upTo d1.breakout indicators hlt,
    Nat.add_sub_cancel, hcurrent, hprior, henough, henough', true_and, Option.mem_def,
    Option.some.injEq, exists_eq_left']
  -- both sides confirm a breakout by a quarter of the ATR
  exact Iff.rfl

/-- **The setups of E1 are the entries of D1.**  With the same causal indicators, whatever they are,
the 4h bucket of an index from 219 on closes with a setup exactly where D1, flat, buys on the buckets
up to it. -/
theorem setups_are_gated_breakouts (indicators : CausalIndicators) (candles : List Candle) {i : ℕ}
    {bucket : CompletedBucket} (hi : 219 ≤ i)
    (hbucket : (aggregateCompletedBuckets candles fourHHours fourHBucketStartMs)[i]? = some bucket) :
    (∃ e ∈ scanSetupEvents indicators.withMaximum candles,
        e.setupHourIndex = bucket.lastHourIndex) ↔
      Buys (d1.generateSignal indicators)
        (((aggregateCompletedBuckets candles fourHHours fourHBucketStartMs).map
          CompletedBucket.candle).take (i + 1)) .flat := by
  rw [exists_setup_iff hi rfl hbucket, setupOf_isSome_iff hbucket]
  generalize aggregateCompletedBuckets candles fourHHours fourHBucketStartMs = buckets at hbucket ⊢
  have hcandle : (buckets.map CompletedBucket.candle)[i]? = some bucket.candle := by
    rw [List.getElem?_map, hbucket, Option.map_some]
  rw [d1_buys_upTo hi hcandle]
  have hlt : i < (buckets.map CompletedBucket.candle).length :=
    (List.getElem?_eq_some_iff.1 hcandle).1
  -- the level is the highest of the twenty buckets before, and the ATR has a value at the index
  have hhigh : (indicators.withMaximum.rollingMax ((buckets.map CompletedBucket.candle).map
      Candle.high) fourHChannelPeriod)[i - 1]? =
        some (some (d1.breakout.donchianHigh ((buckets.map CompletedBucket.candle).take (i + 1)))) :=
    donchianHigh_upTo d1.breakout hlt ((by decide : 20 ≤ 219).trans hi)
  have hsome : ∃ atrI, (indicators.atr (buckets.map CompletedBucket.candle) fourHAtrPeriod)[i]? =
      some atrI := by
    have hcausal := (indicators.atrCausal fourHAtrPeriod).length (buckets.map CompletedBucket.candle)
    exact ⟨_, List.getElem?_eq_getElem (by rwa [hcausal])⟩
  rcases hsome with ⟨atrI, hatrI⟩
  have hatr : (indicators.atr (buckets.map CompletedBucket.candle) d1.breakout.atrPeriod)[i]?.getD
      none = atrI := congrArg (fun x => Option.getD x none) hatrI
  rw [hhigh, hatr]
  constructor
  · rintro ⟨level, hlevel, atrI', hatrI', emaCurr, hcurr, emaPrior, hprior, hconfirmed, habove⟩
    cases hlevel
    cases hatrI.symm.trans hatrI'
    exact ⟨hconfirmed, emaCurr, hcurr, emaPrior, hprior, habove⟩
  · rintro ⟨hconfirmed, emaCurr, hcurr, emaPrior, hprior, habove⟩
    exact ⟨_, rfl, atrI, hatrI, emaCurr, hcurr, emaPrior, hprior, hconfirmed, habove⟩

end Entries

/-- Hours whose price rises by one each. -/
def Scenario.risingHours : List Candle :=
  (List.range 880).map fun i =>
    { hourCandle 0 i with
      «open» := 100 + i
      high := 100 + i
      low := 100 + i
      close := 100 + i }

/-- The 220th bucket is the first that can close with a setup; it does, and D1 buys on it. -/
theorem setups_are_gated_breakouts_rising_hours :
    ∃ bucket, (aggregateCompletedBuckets Scenario.risingHours fourHHours
        fourHBucketStartMs)[219]? = some bucket ∧
      Buys (BreakoutWithBullishRegimeGateStrategy.d1.generateSignal documentedIndicators)
        (((aggregateCompletedBuckets Scenario.risingHours fourHHours fourHBucketStartMs).map
          CompletedBucket.candle).take 220) .flat := by
  have hsetups : (scanSetupEvents documentedIndicators Scenario.risingHours).map
      SetupEvent.setupHourIndex = [879] := by
    decide +kernel
  have hhour : (aggregateCompletedBuckets Scenario.risingHours fourHHours
      fourHBucketStartMs)[219]?.map CompletedBucket.lastHourIndex = some 879 := by
    decide +kernel
  have hscan : scanSetupEvents documentedIndicators.withMaximum =
      scanSetupEvents documentedIndicators := rfl
  generalize Scenario.risingHours = candles at *
  rcases Option.map_eq_some_iff.1 hhour with ⟨bucket, hbucket, hlast⟩
  refine ⟨bucket, hbucket, ?_⟩
  apply (setups_are_gated_breakouts documentedIndicators candles le_rfl hbucket).1
  have hmem : 879 ∈ (scanSetupEvents documentedIndicators candles).map
      SetupEvent.setupHourIndex := by
    rw [hsetups]
    exact List.mem_singleton_self 879
  rcases List.mem_map.1 hmem with ⟨e, he, heq⟩
  rw [hscan]
  exact ⟨e, he, heq.trans hlast.symm⟩

end TradingAgent
