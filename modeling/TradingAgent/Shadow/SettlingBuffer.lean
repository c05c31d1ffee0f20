import TradingAgent.Backtest.Decisions
import TradingAgent.Strategy.MultiTimeframeBreakout

/-!
# Settling buffer — the first decision of a bootstrapped run

`compute_warmup_candle_count` and `compute_effective_min_required_candles` of `shadow/bootstrap.py`,
and what the second one does when `run_segment` runs the multi-timeframe breakout over the warm-up
candles and the forward ones after them: no 4h setup from before the boundary governs a BUY, and
none from after it loses an hour of its window.
-/

namespace TradingAgent

/-- 2026-09-06T00:00:00Z. -/
def shadowStartBoundaryMs : ℤ := 1788652800000

def warmupSafetyMarginCandles : ℕ := 48

def computeWarmupCandleCount (strategyMinRequiredCandles : ℕ) : ℕ :=
  strategyMinRequiredCandles - 1 + warmupSafetyMarginCandles

def computeEffectiveMinRequiredCandles (warmupCandleCount : ℕ) : ℕ :=
  warmupCandleCount + confirmationWindow1hCandles + 1

theorem computeEffectiveMinRequiredCandles_pos (warmupCandleCount : ℕ) :
    0 < computeEffectiveMinRequiredCandles warmupCandleCount :=
  Nat.succ_pos _

/-- Gap-free hourly candles from `startMs` on. -/
def HourlyFrom (startMs : ℤ) (candles : List Candle) : Prop :=
  ∀ i (h : i < candles.length), candles[i].openTimeMs = startMs + i * hourMs

/-- The run of the multi-timeframe breakout over a segment that starts with the warm-up. -/
def bootstrappedEnv (indicators : CausalIndicators) (config : AppConfig) (filters : SymbolFilters) (warmupCandleCount : ℕ) :
    RunEnv :=
  .standard config filters (MultiTimeframeBreakoutStrategy.generateSignal indicators)
    (computeEffectiveMinRequiredCandles warmupCandleCount)
    (computeEffectiveMinRequiredCandles_pos warmupCandleCount) true

section Buffer

variable {indicators : CausalIndicators} {boundaryMs : ℤ} {warmup : ℕ} {segment : List Candle}

theorem HourlyFrom.take (h : HourlyFrom boundaryMs segment) (m : ℕ) :
    HourlyFrom boundaryMs (segment.take m) := by
  intro i hi
  rw [List.length_take] at hi
  rw [List.getElem_take]
  exact h i (by omega)

/-- A 4h bucket starts a multiple of four hours away from the boundary. -/
theorem bucket_aligned (h : HourlyFrom (boundaryMs - warmup * hourMs) segment)
    (hboundary : fourHMs ∣ boundaryMs) {bucket : CompletedBucket}
    (hbucket : bucket ∈ aggregateCompletedBuckets segment fourHHours fourHBucketStartMs) :
    bucket.candle.openTimeMs =
        boundaryMs + ((bucket.lastHourIndex : ℤ) - 3 - warmup) * hourMs ∧
      (bucket.lastHourIndex + 1 ≤ warmup ∨ warmup + 3 ≤ bucket.lastHourIndex) := by
  rcases mem_aggregateCompletedBuckets hbucket with ⟨i, hspans⟩
  have hlast : bucket.lastHourIndex + 1 = i + 4 := hspans.last
  have hvisible := hspans.visible
  have hi : i < segment.length := by omega
  have hopens := hspans.opens
  rw [List.getElem?_eq_getElem hi, Option.map_some, Option.some.injEq, h i hi] at hopens
  have hopen : bucket.candle.openTimeMs =
      boundaryMs + ((bucket.lastHourIndex : ℤ) - 3 - warmup) * hourMs := by
    have hcast : (bucket.lastHourIndex : ℤ) = i + 3 := by omega
    rw [← hopens, hcast]
    ring
  refine ⟨hopen, ?_⟩
  -- its first hour is a multiple of four hours, and so is the boundary
  have hgrid : fourHMs ∣ bucket.candle.openTimeMs := by
    have hstart := hspans.onGrid
    rw [fourHBucketStartMs] at hstart
    exact Int.dvd_of_emod_eq_zero (by omega)
  rw [hopen] at hgrid
  have hhours := (Int.dvd_add_right hboundary).1 hgrid
  have hfour : (4 : ℤ) ∣ (bucket.lastHourIndex : ℤ) - 3 - warmup := by
    have hms : fourHMs = 4 * hourMs := by decide
    rw [hms] at hhours
    exact Int.dvd_of_mul_dvd_mul_right (by decide) hhours
  omega

/-- The setups a run may find: all of them of a bucket on one side of the boundary. -/
theorem setup_cases (h : HourlyFrom (boundaryMs - warmup * hourMs) segment)
    (hboundary : fourHMs ∣ boundaryMs) {setup : SetupEvent} (hsetup : setup ∈ scanSetupEvents indicators segment) :
    ∃ bucket ∈ aggregateCompletedBuckets segment fourHHours fourHBucketStartMs,
      setup.setupHourIndex = bucket.lastHourIndex ∧
      setup.windowStartIndex = setup.setupHourIndex + 1 ∧
      setup.windowEndIndex = setup.setupHourIndex + 4 ∧
      (setup.setupHourIndex < warmup ∧ bucket.candle.openTimeMs < boundaryMs ∨
        warmup + 3 ≤ setup.setupHourIndex ∧ boundaryMs ≤ bucket.candle.openTimeMs) := by
  rcases mem_scanSetupEvents hsetup with ⟨bucket, hbucket, breakoutLevel, rfl⟩
  rcases bucket_aligned h hboundary hbucket with ⟨hopen, hside⟩
  refine ⟨bucket, hbucket, rfl, rfl, rfl, ?_⟩
  have hhour : (0 : ℤ) < hourMs := by decide
  rcases hside with hbefore | hafter
  · left
    refine ⟨hbefore, ?_⟩
    have hneg : ((bucket.lastHourIndex : ℤ) - 3 - warmup) * hourMs < 0 :=
      mul_neg_of_neg_of_pos (by omega) hhour
    linarith
  · right
    refine ⟨hafter, ?_⟩
    have hnonneg : 0 ≤ ((bucket.lastHourIndex : ℤ) - 3 - warmup) * hourMs :=
      mul_nonneg (by omega) hhour.le
    linarith

/-- A setup closes at or after the boundary when its bucket opens there. -/
theorem setup_after (h : HourlyFrom (boundaryMs - warmup * hourMs) segment)
    (hboundary : fourHMs ∣ boundaryMs) {setup : SetupEvent} {bucket : CompletedBucket}
    (hbucket : bucket ∈ aggregateCompletedBuckets segment fourHHours fourHBucketStartMs)
    (hlast : setup.setupHourIndex = bucket.lastHourIndex)
    (hopens : boundaryMs ≤ bucket.candle.openTimeMs) : warmup + 3 ≤ setup.setupHourIndex := by
  rcases bucket_aligned h hboundary hbucket with ⟨hopen, hbefore | hafter⟩
  · have hneg : ((bucket.lastHourIndex : ℤ) - 3 - warmup) * hourMs < 0 :=
      mul_neg_of_neg_of_pos (by omega) (by decide)
    linarith
  · omega

/-- The hour a setup of a bucket after the boundary closes with is a forward hour. -/
theorem closing_after (h : HourlyFrom (boundaryMs - warmup * hourMs) segment) {index : ℕ}
    (hwarmup : warmup ≤ index) (hindex : index < segment.length) :
    ∃ closing, segment[index]? = some closing ∧ boundaryMs ≤ closing.openTimeMs := by
  refine ⟨segment[index], List.getElem?_eq_getElem hindex, ?_⟩
  have hhours : (0 : ℤ) ≤ ((index : ℤ) - warmup) * hourMs := mul_nonneg (by omega) (by decide)
  calc boundaryMs
      ≤ boundaryMs + ((index : ℤ) - warmup) * hourMs := by linarith
    _ = boundaryMs - warmup * hourMs + index * hourMs := by ring
    _ = segment[index].openTimeMs := (h index hindex).symm

section Calls

variable {config : AppConfig} {filters : SymbolFilters} {startingEquity : ℚ} {journal : Journal}
  {call : StrategyCall}

/-- A decision sees a prefix that holds the warm-up and the longest window after it. -/
theorem mem_bootstrappedCalls (hcall : call ∈
      strategyCalls (bootstrappedEnv indicators config filters warmup) segment startingEquity journal) :
    MultiTimeframeBreakoutStrategy.generateSignal indicators call.seen call.side = call.answer ∧
      ∃ i, warmup + 4 ≤ i ∧ i < segment.length ∧ call.seen = segment.take (i + 1) ∧
        call.seen.length = i + 1 := by
  rcases mem_strategyCalls hcall with ⟨hasked, i, hfrom, hi, hseen⟩
  have hmin : (bootstrappedEnv indicators config filters warmup).minRequired = warmup + 5 := rfl
  refine ⟨hasked.symm, i, by omega, hi, hseen, ?_⟩
  rw [hseen, List.length_take]
  omega

/-- A BUY is governed by a setup from after the boundary. -/
theorem buy_governed (h : HourlyFrom (boundaryMs - warmup * hourMs) segment)
    (hboundary : fourHMs ∣ boundaryMs)
    (hcall : call ∈
      strategyCalls (bootstrappedEnv indicators config filters warmup) segment startingEquity journal)
    {signal : Signal} (hanswer : call.answer = .ok signal) (hbuy : signal.type = .buy) :
    ∃ setup ∈ scanSetupEvents indicators call.seen,
      ("governing_setup_hour_index", .integer setup.setupHourIndex) ∈ signal.inputs ∧
      ∃ bucket ∈ aggregateCompletedBuckets call.seen fourHHours fourHBucketStartMs,
        setup.setupHourIndex = bucket.lastHourIndex ∧
          boundaryMs ≤ bucket.candle.openTimeMs ∧
          ∃ closing, segment[setup.setupHourIndex]? = some closing ∧
            boundaryMs ≤ closing.openTimeMs := by
  rcases mem_bootstrappedCalls hcall with ⟨hasked, i, hfrom, hi, hseen, hlength⟩
  rcases MultiTimeframeBreakoutStrategy.generateSignal_buy (hasked.trans hanswer) hbuy with
    ⟨setup, hsetup, -, hend, hinputs⟩
  have hgrid : HourlyFrom (boundaryMs - warmup * hourMs) call.seen := by
    rw [hseen]
    exact h.take (i + 1)
  rcases setup_cases hgrid hboundary hsetup with ⟨bucket, hbucket, hlast, -, hwindow, hside⟩
  -- the window of a setup from before the boundary is over when the decisions begin
  have hlate : warmup ≤ setup.setupHourIndex := by omega
  rcases hside with ⟨hbefore, -⟩ | ⟨-, hopens⟩
  · omega
  · rcases mem_aggregateCompletedBuckets hbucket with ⟨j, hspans⟩
    have hvisible := hspans.visible
    have hin : setup.setupHourIndex < segment.length := by omega
    exact ⟨setup, hsetup, hinputs, bucket, hbucket, hlast, hopens, closing_after h hlate hin⟩

/-- Over the bootstrap's own warm-up every decision has the candles the strategy needs. -/
theorem bootstrappedCall_answered (henough : MultiTimeframeBreakoutStrategy.minRequiredCandles ≤
      computeEffectiveMinRequiredCandles warmup)
    (hcall : call ∈
      strategyCalls (bootstrappedEnv indicators config filters warmup) segment startingEquity journal) :
    ∃ signal, call.answer = .ok signal := by
  rcases mem_bootstrappedCalls hcall with ⟨hasked, i, hfrom, hi, hseen, hseenLength⟩
  have hlength : MultiTimeframeBreakoutStrategy.minRequiredCandles ≤ call.seen.length := by
    have heffective : computeEffectiveMinRequiredCandles warmup = warmup + 5 := rfl
    omega
  rcases MultiTimeframeBreakoutStrategy.exists_generateSignal indicators call.side hlength with
    ⟨signal, hsignal⟩
  exact ⟨signal, hasked.symm.trans hsignal⟩

end Calls

/-- **The settling buffer is exact.**  Every setup is of a 4h bucket wholly before the boundary or
wholly after it.  A BUY is governed by one after it.  The window of one after it, as far as the
candles go, is decided hour by hour in every run that returns; and a run over the bootstrap's own
warm-up gets an answer to every decision. -/
theorem settling_buffer_exact (indicators : CausalIndicators) (config : AppConfig) (filters : SymbolFilters) (startingEquity : ℚ)
    (journal : Journal) (h : HourlyFrom (boundaryMs - warmup * hourMs) segment)
    (hboundary : fourHMs ∣ boundaryMs) :
    (∀ call ∈ strategyCalls (bootstrappedEnv indicators config filters warmup) segment startingEquity journal,
      ∀ signal, call.answer = .ok signal → signal.type = .buy →
        ∃ setup ∈ scanSetupEvents indicators call.seen,
          ("governing_setup_hour_index", .integer setup.setupHourIndex) ∈ signal.inputs ∧
          ∃ bucket ∈ aggregateCompletedBuckets call.seen fourHHours fourHBucketStartMs,
            setup.setupHourIndex = bucket.lastHourIndex ∧
              boundaryMs ≤ bucket.candle.openTimeMs ∧
              ∃ closing, segment[setup.setupHourIndex]? = some closing ∧
                boundaryMs ≤ closing.openTimeMs) ∧
    (∀ result after, runSegment (bootstrappedEnv indicators config filters warmup) segment startingEquity
        journal = .ok (result, after) →
      ∀ m, ∀ setup ∈ scanSetupEvents indicators (segment.take m),
        ∀ bucket ∈ aggregateCompletedBuckets (segment.take m) fourHHours fourHBucketStartMs,
          setup.setupHourIndex = bucket.lastHourIndex → boundaryMs ≤ bucket.candle.openTimeMs →
          ∀ i, setup.windowStartIndex ≤ i → i ≤ setup.windowEndIndex → i < segment.length →
            ∃ call ∈ strategyCalls (bootstrappedEnv indicators config filters warmup) segment startingEquity
                journal, call.seen = segment.take (i + 1) ∧ ∃ signal, call.answer = .ok signal) ∧
    (∀ m, ∀ setup ∈ scanSetupEvents indicators (segment.take m),
      ∃ bucket ∈ aggregateCompletedBuckets (segment.take m) fourHHours fourHBucketStartMs,
        setup.setupHourIndex = bucket.lastHourIndex ∧
          (setup.setupHourIndex < warmup ∧ bucket.candle.openTimeMs < boundaryMs ∨
            boundaryMs ≤ bucket.candle.openTimeMs)) ∧
    (MultiTimeframeBreakoutStrategy.minRequiredCandles ≤
        computeEffectiveMinRequiredCandles warmup →
      ∀ call ∈ strategyCalls (bootstrappedEnv indicators config filters warmup) segment startingEquity journal,
        ∃ signal, call.answer = .ok signal) := by
  refine ⟨?_, ?_, ?_, ?_⟩
  · intro call hcall signal hanswer hbuy
    exact buy_governed h hboundary hcall hanswer hbuy
  · intro result after hrun m setup hsetup bucket hbucket hlast hopens i hfrom _ hi
    rcases setup_cases (h.take m) hboundary hsetup with ⟨_, _, _, hstart, -, -⟩
    -- the bucket given is the one the setup closes with
    have hafter := setup_after (h.take m) hboundary hbucket hlast hopens
    have hmin : (bootstrappedEnv indicators config filters warmup).minRequired = warmup + 5 := rfl
    exact exists_call_of_ok hrun (by omega) hi
  · intro m setup hsetup
    rcases setup_cases (h.take m) hboundary hsetup with ⟨bucket, hbucket, hlast, -, -, hside⟩
    refine ⟨bucket, hbucket, hlast, ?_⟩
    rcases hside with hbefore | hafter
    · exact Or.inl hbefore
    · exact Or.inr hafter.2
  · intro henough call hcall
    exact bootstrappedCall_answered henough hcall

end Buffer

namespace Scenario

/-- The bootstrap's warm-up and a hundred forward hours. -/
def bootstrappedHours : List Candle :=
  (List.range 7711).map (hourCandle (shadowStartBoundaryMs - (7611 : ℕ) * hourMs))

theorem bootstrappedHours_hourly :
    HourlyFrom (shadowStartBoundaryMs - (7611 : ℕ) * hourMs) bootstrappedHours := by
  intro i hi
  simp [bootstrappedHours, hourCandle]

end Scenario

/-- With the boundary and the warm-up of the source. -/
theorem settling_buffer_exact_bootstrapped :
    fourHMs ∣ shadowStartBoundaryMs ∧
      computeWarmupCandleCount MultiTimeframeBreakoutStrategy.minRequiredCandles = 7611 ∧
      ∀ call ∈ strategyCalls (bootstrappedEnv documentedIndicators {} Scenario.filters 7611)
        Scenario.bootstrappedHours 10000 none, ∃ signal, call.answer = .ok signal :=
  ⟨by decide, by decide,
    (settling_buffer_exact documentedIndicators {} Scenario.filters 10000 none Scenario.bootstrappedHours_hourly
      (by decide)).2.2.2 (by decide)⟩

end TradingAgent
