import TradingAgent.Strategy.Indicators
import Mathlib.Data.List.SplitBy
import Mathlib.Data.List.MinMax

/-!
# Multi-timeframe breakout

`research/candidates/multitimeframe_breakout.py`: hourly candles are aggregated into completed
4h and weekly buckets; a 4h setup arms the four hours after it, and the first of them that confirms
is bought.  The indicators are any causal ones; the source's are `documentedIndicators`.  The counters
of the strategy object are left out, no decision reads them.

* `mem_aggregateCompletedBuckets`: a completed bucket is so many adjacent hours, on its grid;
* `mem_scanSetupEvents`: a setup closes with a bucket and its window is the next four hours;
* `generateSignal_buy`: a BUY is governed by a setup whose window holds the current hour.
-/

namespace TradingAgent

def hourMs : ℤ := 60 * 60 * 1000

def fourHHours : ℕ := 4

def weekHours : ℕ := 7 * 24

def fourHMs : ℤ := fourHHours * hourMs

def weekMs : ℤ := weekHours * hourMs

/-- The epoch was a Thursday, three days after the preceding Monday. -/
def epochMondayOffsetMs : ℤ := 3 * 24 * hourMs

def weeklyEmaPeriod : ℕ+ := 40

def weeklyEmaSlopeLookbackCandles : ℕ := 4

def fourHChannelPeriod : ℕ+ := 20

def fourHAtrPeriod : ℕ+ := 14

def fourHBreakoutAtrMultiple : ℚ := 1 / 4

def fourHEmaRegimePeriod : ℕ+ := 200

def fourHEmaSlopeLookbackCandles : ℕ := 20

def confirmationWindow1hCandles : ℕ := 4

def fourHAlignmentMarginHours : ℕ := fourHHours

def weeklyAlignmentMarginHours : ℕ := weekHours

def fourHBucketStartMs (openTimeMs : ℤ) : ℤ :=
  openTimeMs - openTimeMs % fourHMs

def weeklyBucketStartMs (openTimeMs : ℤ) : ℤ :=
  let shifted := openTimeMs + epochMondayOffsetMs
  shifted - shifted % weekMs - epochMondayOffsetMs

/-! ## Aggregation -/

/-- A completed bucket, with the index of its last hourly candle. -/
structure CompletedBucket where
  candle : Candle
  lastHourIndex : ℕ
  deriving DecidableEq, Repr

/-- Whether a run of candles of one bucket is the whole bucket, without a hole. -/
def isComplete (hoursPerBucket : ℕ) (bucketStart : ℤ → ℤ) (group : List Candle) : Bool :=
  group.length = hoursPerBucket &&
    (group.head?.any fun first => first.openTimeMs = bucketStart first.openTimeMs) &&
    decide (group.IsChain fun a b => b.openTimeMs - a.openTimeMs = hourMs)

def aggregateGroup (hoursPerBucket : ℕ) (first : Candle) (rest : List Candle) : Candle where
  symbol := first.symbol
  interval := s!"{hoursPerBucket}h_aggregated"
  openTimeMs := first.openTimeMs
  closeTimeMs := (rest.getLast?.getD first).closeTimeMs
  «open» := first.open
  high := rest.foldl (fun high c => max high c.high) first.high
  low := rest.foldl (fun low c => min low c.low) first.low
  close := (rest.getLast?.getD first).close
  volume := ((first :: rest).map Candle.volume).sum

/-- The completed buckets among groups of candles, the first of which starts at index `i`. -/
def completedBuckets (hoursPerBucket : ℕ) (bucketStart : ℤ → ℤ) :
    ℕ → List (List Candle) → List CompletedBucket
  | _, [] => []
  | i, [] :: groups => completedBuckets hoursPerBucket bucketStart i groups
  | i, (first :: rest) :: groups =>
      let later := completedBuckets hoursPerBucket bucketStart (i + (rest.length + 1)) groups
      if isComplete hoursPerBucket bucketStart (first :: rest) then
        ⟨aggregateGroup hoursPerBucket first rest, i + rest.length⟩ :: later
      else later

/-- `_aggregate_completed_buckets`: the groups are the maximal runs of candles of one bucket. -/
def aggregateCompletedBuckets (candles : List Candle) (hoursPerBucket : ℕ)
    (bucketStart : ℤ → ℤ) : List CompletedBucket :=
  completedBuckets hoursPerBucket bucketStart 0
    (candles.splitBy fun a b => bucketStart a.openTimeMs = bucketStart b.openTimeMs)

section Aggregation

variable {hoursPerBucket : ℕ} {bucketStart : ℤ → ℤ}

/-- The bucket is the hours from index `i` on, the first of which opens with it, on its grid. -/
structure CompletedBucket.Spans (bucket : CompletedBucket) (hoursPerBucket : ℕ)
    (bucketStart : ℤ → ℤ) (candles : List Candle) (i : ℕ) : Prop where
  last : bucket.lastHourIndex + 1 = i + hoursPerBucket
  visible : bucket.lastHourIndex < candles.length
  opens : candles[i]?.map Candle.openTimeMs = some bucket.candle.openTimeMs
  onGrid : bucket.candle.openTimeMs = bucketStart bucket.candle.openTimeMs

theorem mem_completedBuckets {bucket : CompletedBucket} {i : ℕ} {groups : List (List Candle)}
    {candles : List Candle} (done : List Candle) (hcandles : candles = done ++ groups.flatten)
    (hi : done.length = i)
    (h : bucket ∈ completedBuckets hoursPerBucket bucketStart i groups) :
    ∃ j, bucket.Spans hoursPerBucket bucketStart candles j := by
  induction groups generalizing i done with
  | nil => cases h
  | cons group groups ih =>
      cases group with
      | nil => exact ih done (by simpa using hcandles) hi h
      | cons first rest =>
          have hlater : bucket ∈ completedBuckets hoursPerBucket bucketStart
              (i + (rest.length + 1)) groups →
                ∃ j, bucket.Spans hoursPerBucket bucketStart candles j := by
            apply ih (done ++ (first :: rest))
            · simpa using hcandles
            · simp [hi]
          simp only [completedBuckets] at h
          split at h
          · rename_i hcomplete
            rcases List.mem_cons.1 h with rfl | hmem
            · simp only [isComplete, Bool.and_eq_true, decide_eq_true_eq, List.length_cons,
                List.head?_cons, Option.any_some] at hcomplete
              rcases hcomplete with ⟨⟨hlength, hgrid⟩, -⟩
              refine ⟨i, ?_, ?_, ?_, hgrid⟩
              · simp only
                omega
              · simp only [hcandles, List.length_append, List.flatten_cons, List.length_cons]
                omega
              · simp [hcandles, ← hi, aggregateGroup]
            · exact hlater hmem
          · exact hlater h

theorem mem_aggregateCompletedBuckets {bucket : CompletedBucket} {candles : List Candle}
    (h : bucket ∈ aggregateCompletedBuckets candles hoursPerBucket bucketStart) :
    ∃ i, bucket.Spans hoursPerBucket bucketStart candles i := by
  apply mem_completedBuckets [] _ rfl h
  rw [List.nil_append, List.flatten_splitBy]

end Aggregation

/-! ## The weekly filter -/

def weeklyFilterBullish (indicators : CausalIndicators) (candles : List Candle) : Bool :=
  let weeklyBuckets := aggregateCompletedBuckets candles weekHours weeklyBucketStartMs
  let minWeekly := weeklyEmaPeriod + weeklyEmaSlopeLookbackCandles
  if weeklyBuckets.length < minWeekly then false
  else
    let closes := weeklyBuckets.map fun b => b.candle.close
    let emaValues := indicators.ema closes weeklyEmaPeriod
    let lastIdx := weeklyBuckets.length - 1
    match closes[lastIdx]?, emaValues[lastIdx]?,
        emaValues[lastIdx - weeklyEmaSlopeLookbackCandles]? with
    | some close, some emaCurr, some emaPrior => close > emaCurr && emaCurr > emaPrior
    | _, _, _ => false

/-! ## Setups -/

structure SetupEvent where
  setupHourIndex : ℕ
  breakoutLevel : ℚ
  windowStartIndex : ℕ
  windowEndIndex : ℕ
  confirmationIndex : Option ℕ
  deriving DecidableEq, Repr

def minFourHIdx : ℕ :=
  max (fourHChannelPeriod : ℕ) (max ((fourHAtrPeriod : ℕ) - 1)
    (fourHEmaRegimePeriod + fourHEmaSlopeLookbackCandles - 1))

/-- Comparisons with a NaN average true range are false. -/
def confirmedBreakout (breakoutDistance : ℚ) (atrI : Option ℚ) : Bool :=
  breakoutDistance > 0 &&
    atrI.any fun a => a ≤ 0 || breakoutDistance ≥ fourHBreakoutAtrMultiple * a

/-- The first hour of the window that closes above the breakout level and above its own open. -/
def confirmationIndex (candles : List Candle) (breakoutLevel : ℚ)
    (windowStartIndex windowEndIndex : ℕ) : Option ℕ :=
  let lastVisible1hIdx := candles.length - 1
  (List.range' windowStartIndex (min windowEndIndex lastVisible1hIdx + 1 - windowStartIndex)).find?
    fun h => candles[h]?.any fun c => c.close > breakoutLevel && c.close > c.open

/-- The setup that closes with `bucket`. -/
def setupEvent (candles : List Candle) (breakoutLevel : ℚ) (bucket : CompletedBucket) :
    SetupEvent where
  setupHourIndex := bucket.lastHourIndex
  breakoutLevel := breakoutLevel
  windowStartIndex := bucket.lastHourIndex + 1
  windowEndIndex := bucket.lastHourIndex + confirmationWindow1hCandles
  confirmationIndex := confirmationIndex candles breakoutLevel (bucket.lastHourIndex + 1)
    (bucket.lastHourIndex + confirmationWindow1hCandles)

/-- The body of the loop over 4h buckets; the Donchian channel ends one bucket before. -/
def setupEventAt (candles : List Candle) (buckets : List CompletedBucket) (ema200 : List ℚ)
    (atr14 donchianHigh : List (Option ℚ)) (i : ℕ) : Option SetupEvent :=
  match buckets[i]?, donchianHigh[i - 1]?, atr14[i]?, ema200[i]?,
      ema200[i - fourHEmaSlopeLookbackCandles]? with
  | some bucket, some (some donchianHighI), some atrI, some emaCurr, some emaPrior =>
      if confirmedBreakout (bucket.candle.close - donchianHighI) atrI = false then none
      else if ¬ (bucket.candle.close > emaCurr ∧ emaCurr > emaPrior) then none
      else some (setupEvent candles donchianHighI bucket)
  | _, _, _, _, _ => none

def scanSetupEvents (indicators : CausalIndicators) (candles : List Candle) : List SetupEvent :=
  let fourHBuckets := aggregateCompletedBuckets candles fourHHours fourHBucketStartMs
  if fourHBuckets.length ≤ minFourHIdx then []
  else
    let fourHCandles := fourHBuckets.map CompletedBucket.candle
    let ema200 := indicators.ema (fourHCandles.map Candle.close) fourHEmaRegimePeriod
    let atr14 := indicators.atr fourHCandles fourHAtrPeriod
    let donchianHighInclusive :=
      indicators.rollingMax (fourHCandles.map Candle.high) fourHChannelPeriod
    (List.range' minFourHIdx (fourHBuckets.length - minFourHIdx)).filterMap
      (setupEventAt candles fourHBuckets ema200 atr14 donchianHighInclusive)

/-- A setup closes with a completed 4h bucket, and its window is the next four hours. -/
theorem mem_scanSetupEvents {indicators : CausalIndicators} {candles : List Candle}
    {e : SetupEvent} (h : e ∈ scanSetupEvents indicators candles) :
    ∃ bucket ∈ aggregateCompletedBuckets candles fourHHours fourHBucketStartMs,
      ∃ breakoutLevel, e = setupEvent candles breakoutLevel bucket := by
  simp only [scanSetupEvents] at h
  split at h
  · cases h
  · rcases List.mem_filterMap.1 h with ⟨i, -, hi⟩
    simp only [setupEventAt] at hi
    split at hi
    · rename_i bucket donchianHighI atrI emaCurr emaPrior hbucket _ _ _ _
      split at hi
      · cases hi
      · split at hi
        · cases hi
        · exact ⟨bucket, List.mem_of_getElem? hbucket, donchianHighI, (Option.some.inj hi).symm⟩
    · cases hi

/-! ## The strategy -/

def weeklyFloorHours : ℕ :=
  (weeklyEmaPeriod + weeklyEmaSlopeLookbackCandles) * weekHours + weeklyAlignmentMarginHours

def fourHFloorHours : ℕ :=
  max ((fourHChannelPeriod : ℕ) + 1) (max (fourHAtrPeriod : ℕ)
      (fourHEmaRegimePeriod + fourHEmaSlopeLookbackCandles)) * fourHHours +
    fourHAlignmentMarginHours

namespace MultiTimeframeBreakoutStrategy

def minRequiredCandles : ℕ :=
  max weeklyFloorHours fourHFloorHours + confirmationWindow1hCandles

/-- The setups whose window holds the current hour. -/
def activeEvents (events : List SetupEvent) (currentIdx : ℕ) : List SetupEvent :=
  events.filter fun e => e.windowStartIndex ≤ currentIdx && currentIdx ≤ e.windowEndIndex

def generateSignal (indicators : CausalIndicators) : Strategy := fun candles currentPosition =>
  match candles.getLast? with
  | none => .error (.insufficientData minRequiredCandles 0)
  | some lastCandle =>
      if candles.length < minRequiredCandles then
        .error (.insufficientData minRequiredCandles candles.length)
      else
        let currentIdx := candles.length - 1
        let inputs : Payload :=
          [("symbol", .text lastCandle.symbol), ("close", .number lastCandle.close),
            ("current_position", .text (match currentPosition with
              | .flat => "flat"
              | .long => "long"))]
        let hold := fun reasonCode inputs => Signal.mk .hold reasonCode lastCandle.closeTimeMs inputs
        if weeklyFilterBullish indicators candles = false then
          .ok (hold "HOLD_WEEKLY_FILTER_BLOCKED" inputs)
        else if currentPosition = .long then .ok (hold "HOLD_ALREADY_LONG" inputs)
        else
          -- `max` returns the first of equal ones, and so does `argmax`
          match (activeEvents (scanSetupEvents indicators candles) currentIdx).argmax
              SetupEvent.setupHourIndex with
          | none => .ok (hold "HOLD_NO_ARMED_SETUP" inputs)
          | some governing =>
              let inputs := inputs ++
                [("governing_setup_hour_index", .integer governing.setupHourIndex),
                  ("governing_breakout_level", .number governing.breakoutLevel)]
              match governing.confirmationIndex with
              | none => .ok (hold "HOLD_AWAITING_1H_CONFIRMATION" inputs)
              | some confirmed =>
                  if confirmed < currentIdx then .ok (hold "HOLD_SETUP_ALREADY_CONSUMED" inputs)
                  else .ok ⟨.buy, "MULTITIMEFRAME_1H_CONFIRMED_ENTRY", lastCandle.closeTimeMs, inputs⟩

/-- A BUY names the setup that governs it, whose window holds the current hour. -/
theorem generateSignal_buy {indicators : CausalIndicators} {candles : List Candle}
    {side : PositionSide} {signal : Signal} (h : generateSignal indicators candles side = .ok signal)
    (hbuy : signal.type = .buy) : ∃ governing ∈ scanSetupEvents indicators candles,
      governing.windowStartIndex ≤ candles.length - 1 ∧
      candles.length - 1 ≤ governing.windowEndIndex ∧
      ("governing_setup_hour_index", .integer governing.setupHourIndex) ∈ signal.inputs := by
  simp only [generateSignal] at h
  split at h
  · cases h
  · split at h
    · cases h
    · split at h
      · cases h
        cases hbuy
      · split at h
        · cases h
          cases hbuy
        · split at h
          · cases h
            cases hbuy
          · rename_i governing hgoverning
            have hactive := List.argmax_mem hgoverning
            rcases List.mem_filter.1 hactive with ⟨hevent, hwindow⟩
            simp only [Bool.and_eq_true, decide_eq_true_eq] at hwindow
            split at h
            · cases h
              cases hbuy
            · split at h
              · cases h
                cases hbuy
              · cases h
                exact ⟨governing, hevent, hwindow.1, hwindow.2, by simp⟩

/-- With enough candles the strategy always answers. -/
theorem exists_generateSignal (indicators : CausalIndicators) {candles : List Candle}
    (side : PositionSide) (h : minRequiredCandles ≤ candles.length) :
    ∃ signal, generateSignal indicators candles side = .ok signal := by
  simp only [generateSignal]
  split
  · rename_i hnone
    have hempty : candles = [] := List.getLast?_eq_none_iff.1 hnone
    subst hempty
    exact absurd h (by decide)
  · rw [if_neg (not_lt.2 h)]
    split
    · exact ⟨_, rfl⟩
    · split
      · exact ⟨_, rfl⟩
      · split
        · exact ⟨_, rfl⟩
        · split
          · exact ⟨_, rfl⟩
          · split <;> exact ⟨_, rfl⟩

end MultiTimeframeBreakoutStrategy

example : MultiTimeframeBreakoutStrategy.minRequiredCandles = 7564 := by decide

namespace Scenario

/-- The hour number `index` from `startMs` on, with a price that stays. -/
def hourCandle (startMs : ℤ) (index : ℕ) : Candle where
  symbol := "BTCUSDT"
  interval := "1h"
  openTimeMs := startMs + index * hourMs
  closeTimeMs := startMs + index * hourMs + hourMs - 1
  «open» := 100
  high := 100
  low := 100
  close := 100
  volume := 1

end Scenario

end TradingAgent
