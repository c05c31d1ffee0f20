import TradingAgent.Shadow.Arrivals
import TradingAgent.Strategy.NoRepaint

/-!
# Warm-up — the candles the multi-timeframe breakout asks for are enough

`min_required_candles` of `research/candidates/multitimeframe_breakout.py`.  Hourly candles that start
anywhere hold a partial bucket at either end and complete ones in between.

* `HourGrid.le_length_aggregate`: so many whole buckets after the first boundary are completed;
* `LooksAt` is a 4h bucket the scan evaluates;
* `warm_up_sufficient` is the count for the declared minimum, at every alignment.
-/

namespace TradingAgent

/-! ## Boundaries -/

/-- A grid of buckets of so many whole hours, one after the other. -/
structure HourGrid (hoursPerBucket : ℕ) (bucketStart : ℤ → ℤ) : Prop
    extends BucketGrid hoursPerBucket bucketStart where
  le : ∀ t, bucketStart t ≤ t
  next : ∀ t, bucketStart (t + hoursPerBucket * hourMs) = bucketStart t + hoursPerBucket * hourMs
  aligned : ∀ t, hourMs ∣ t → hourMs ∣ bucketStart t

theorem fourHHourGrid : HourGrid fourHHours fourHBucketStartMs := by
  have hwidth : (fourHHours : ℤ) * hourMs = 14400000 := rfl
  have hms : fourHMs = 14400000 := rfl
  have hhour : hourMs = 3600000 := rfl
  refine { fourHGrid with le := ?_, next := ?_, aligned := ?_ }
  · intro t
    rw [fourHBucketStartMs, hms]
    omega
  · intro t
    simp only [fourHBucketStartMs, hwidth, hms]
    omega
  · intro t ht
    rw [fourHBucketStartMs, hms]
    rw [hhour] at ht ⊢
    omega

theorem weeklyHourGrid : HourGrid weekHours weeklyBucketStartMs := by
  have hwidth : (weekHours : ℤ) * hourMs = 604800000 := rfl
  have hms : weekMs = 604800000 := rfl
  have hoffset : epochMondayOffsetMs = 259200000 := rfl
  have hhour : hourMs = 3600000 := rfl
  refine { weeklyGrid with le := ?_, next := ?_, aligned := ?_ }
  · intro t
    simp only [weeklyBucketStartMs, hms]
    omega
  · intro t
    simp only [weeklyBucketStartMs, hwidth, hms]
    omega
  · intro t ht
    simp only [weeklyBucketStartMs, hms, hoffset]
    rw [hhour] at ht ⊢
    omega

namespace HourGrid

variable {hoursPerBucket : ℕ} {bucketStart : ℤ → ℤ}

/-- Within one bucket of any full hour there is a boundary. -/
theorem exists_boundary (grid : HourGrid hoursPerBucket bucketStart) {startMs : ℤ}
    (h : hourMs ∣ startMs) : ∃ r : ℕ, r ≤ hoursPerBucket ∧
      bucketStart (startMs + r * hourMs) = startMs + r * hourMs := by
  have hhour : (0 : ℤ) < hourMs := by decide
  have hle := grid.le startMs
  have hlt := grid.lt_end startMs
  have hdvd : hourMs ∣ bucketStart startMs + hoursPerBucket * hourMs - startMs :=
    Int.dvd_sub (Int.dvd_add (grid.aligned startMs h) (Int.dvd_mul_left _ _)) h
  rcases hdvd with ⟨q, hq⟩
  have hpos : 0 ≤ q := by
    by_contra hneg
    have hmul : hourMs * q < 0 := mul_neg_of_pos_of_neg hhour (not_le.1 hneg)
    linarith
  have hwithin : q ≤ hoursPerBucket := by
    have hmul : hourMs * q ≤ hourMs * hoursPerBucket := by linarith
    exact le_of_mul_le_mul_left hmul hhour
  have hcast : ((q.toNat : ℕ) : ℤ) = q := Int.toNat_of_nonneg hpos
  refine ⟨q.toNat, by omega, ?_⟩
  have hboundary : startMs + (q.toNat : ℤ) * hourMs =
      bucketStart startMs + hoursPerBucket * hourMs := by
    rw [hcast]
    linarith
  -- the start of a bucket is its own, and so is that of the next one
  have hself : bucketStart (bucketStart startMs) = bucketStart startMs :=
    grid.start_eq startMs _ le_rfl (by linarith)
  rw [hboundary, grid.next, hself]

/-- Whole buckets after a boundary there is a boundary again. -/
theorem boundary_add (grid : HourGrid hoursPerBucket bucketStart) {t : ℤ} (ht : bucketStart t = t)
    (K : ℕ) : bucketStart (t + (K * hoursPerBucket : ℕ) * hourMs) =
      t + (K * hoursPerBucket : ℕ) * hourMs := by
  induction K with
  | zero => simpa using ht
  | succ K ih =>
      have hsucc : t + ((K + 1) * hoursPerBucket : ℕ) * hourMs =
          t + (K * hoursPerBucket : ℕ) * hourMs + hoursPerBucket * hourMs := by
        push_cast
        ring
      rw [hsucc, grid.next, ih]

end HourGrid

/-! ## Counting buckets -/

section Counting

variable {hoursPerBucket : ℕ} {bucketStart : ℤ → ℤ} {startMs : ℤ} {candles : List Candle}

theorem HourlyFrom.drop (h : HourlyFrom startMs candles) (k : ℕ) :
    HourlyFrom (startMs + k * hourMs) (candles.drop k) := by
  intro i hi
  rw [List.length_drop] at hi
  rw [List.getElem_drop, h (k + i) (by omega)]
  push_cast
  ring

theorem HourlyFrom.aligned (h : HourlyFrom startMs candles) (hstart : hourMs ∣ startMs) :
    HourAligned candles := by
  intro c hc
  rcases List.getElem_of_mem hc with ⟨i, hi, rfl⟩
  rw [h i hi]
  exact Int.dvd_add hstart (Int.dvd_mul_left _ _)

/-- A whole bucket of hours is completed. -/
theorem length_aggregate_block (grid : HourGrid hoursPerBucket bucketStart)
    (hpos : 0 < hoursPerBucket) {t : ℤ} (ht : bucketStart t = t) {block : List Candle}
    (hblock : HourlyFrom t block) (hlength : block.length = hoursPerBucket) :
    ∀ i, (completedBuckets hoursPerBucket bucketStart i
      (block.splitBy fun a b => bucketStart a.openTimeMs = bucketStart b.openTimeMs)).length = 1 := by
  have hhour : (0 : ℤ) < hourMs := by decide
  have hstart : ∀ (i : ℕ) (hi : i < block.length), bucketStart block[i].openTimeMs = t := by
    intro i hi
    have hcast : (i : ℤ) < hoursPerBucket := by exact_mod_cast hlength ▸ hi
    have hnonneg : (0 : ℤ) ≤ i * hourMs := mul_nonneg (Int.natCast_nonneg i) hhour.le
    have hlt : (i : ℤ) * hourMs < hoursPerBucket * hourMs := mul_lt_mul_of_pos_right hcast hhour
    rw [hblock i hi, grid.start_eq t, ht]
    · rw [ht]
      linarith
    · rw [ht]
      linarith
  have hne : block ≠ [] := List.ne_nil_of_length_pos (by omega)
  have hsame : block.IsChain fun a b =>
      decide (bucketStart a.openTimeMs = bucketStart b.openTimeMs) = true := by
    rw [List.isChain_iff_getElem]
    intro i hi
    rw [decide_eq_true_eq, hstart i (by omega), hstart (i + 1) hi]
  intro i
  rw [List.splitBy_of_isChain hne hsame]
  cases block with
  | nil => exact absurd rfl hne
  | cons first rest =>
      have hcomplete : isComplete hoursPerBucket bucketStart (first :: rest) = true := by
        have hfirst : first.openTimeMs = t := by
          have hzero := hblock 0 (by simp)
          simpa using hzero
        have hhourly : (first :: rest).IsChain fun a b => b.openTimeMs - a.openTimeMs = hourMs :=
          hblock.chain.imp fun a b hab => of_decide_eq_true hab
        simp [isComplete, hlength, hfirst, ht, hhourly]
      simp [completedBuckets, hcomplete]

/-- A whole bucket of hours after earlier candles adds one. -/
theorem length_aggregate_append_block (grid : HourGrid hoursPerBucket bucketStart)
    (hpos : 0 < hoursPerBucket) {t : ℤ} (ht : bucketStart t = t) {done block : List Candle}
    (hblock : HourlyFrom t block) (hlength : block.length = hoursPerBucket)
    (hbefore : ∀ c ∈ done, c.openTimeMs < t) :
    (aggregateCompletedBuckets (done ++ block) hoursPerBucket bucketStart).length =
      (aggregateCompletedBuckets done hoursPerBucket bucketStart).length + 1 := by
  have hcut : ∀ a ∈ done.getLast?, ∀ b ∈ block.head?,
      decide (bucketStart a.openTimeMs = bucketStart b.openTimeMs) = false := by
    intro a ha b hb
    have hopen : b.openTimeMs = t := by
      rw [List.head?_eq_getElem?] at hb
      rcases List.getElem?_eq_some_iff.1 hb with ⟨hi, rfl⟩
      simpa using hblock 0 hi
    have hlt := hbefore a (List.mem_of_getLast? ha)
    have hle := grid.le a.openTimeMs
    rw [decide_eq_false_iff_not, hopen, ht]
    omega
  unfold aggregateCompletedBuckets
  rw [List.splitBy_append hcut, completedBuckets_append, List.length_append,
    length_aggregate_block grid hpos ht hblock hlength]

/-- So many whole buckets of hours after a boundary are completed. -/
theorem HourGrid.le_length_aggregate (grid : HourGrid hoursPerBucket bucketStart)
    (hpos : 0 < hoursPerBucket) (h : HourlyFrom startMs candles) {r : ℕ}
    (hboundary : bucketStart (startMs + r * hourMs) = startMs + r * hourMs) (K : ℕ)
    (henough : r + K * hoursPerBucket ≤ candles.length) :
    K ≤ (aggregateCompletedBuckets (candles.take (r + K * hoursPerBucket)) hoursPerBucket
      bucketStart).length := by
  induction K with
  | zero => exact Nat.zero_le _
  | succ K ih =>
      have hsize : r + (K + 1) * hoursPerBucket = r + K * hoursPerBucket + hoursPerBucket := by ring
      rw [hsize] at henough ⊢
      have hK := ih (by omega)
      have hm' : bucketStart (startMs + (r + K * hoursPerBucket : ℕ) * hourMs) =
          startMs + (r + K * hoursPerBucket : ℕ) * hourMs := by
        have hadd := grid.boundary_add hboundary K
        have hsum : startMs + (r + K * hoursPerBucket : ℕ) * hourMs =
            startMs + r * hourMs + (K * hoursPerBucket : ℕ) * hourMs := by
          push_cast
          ring
        rw [hsum, hadd]
      generalize r + K * hoursPerBucket = m at hK henough hm' ⊢
      have hblock : HourlyFrom (startMs + m * hourMs) ((candles.drop m).take hoursPerBucket) :=
        (h.drop m).take hoursPerBucket
      have hbefore : ∀ c ∈ candles.take m, c.openTimeMs < startMs + m * hourMs := by
        intro c hc
        rcases List.getElem_of_mem hc with ⟨i, hi, rfl⟩
        rw [h.take m i hi]
        rw [List.length_take] at hi
        have hcast : (i : ℤ) < m := by omega
        have hhours := mul_lt_mul_of_pos_right hcast (show (0 : ℤ) < hourMs by decide)
        linarith
      rw [List.take_add, length_aggregate_append_block grid hpos hm' hblock (by simp; omega) hbefore]
      omega

/-- The buckets of the first candles are the first buckets. -/
theorem aggregate_take (grid : HourGrid hoursPerBucket bucketStart) (hordered : Ordered candles)
    (haligned : HourAligned candles) (m : ℕ) :
    ∃ more, aggregateCompletedBuckets candles hoursPerBucket bucketStart =
      aggregateCompletedBuckets (candles.take m) hoursPerBucket bucketStart ++ more := by
  have hsplit := List.take_append_drop m candles
  rw [← hsplit] at hordered haligned
  rcases aggregateCompletedBuckets_append grid.toBucketGrid hordered haligned with ⟨more, hmore, -⟩
  rw [hsplit] at hmore
  exact ⟨more, hmore⟩

/-- A bucket that closes late is listed after those of the candles before. -/
theorem length_aggregate_take_le (grid : HourGrid hoursPerBucket bucketStart)
    (hordered : Ordered candles) (haligned : HourAligned candles) {m i : ℕ}
    {bucket : CompletedBucket}
    (hbucket : (aggregateCompletedBuckets candles hoursPerBucket bucketStart)[i]? = some bucket)
    (hlate : m ≤ bucket.lastHourIndex) :
    (aggregateCompletedBuckets (candles.take m) hoursPerBucket bucketStart).length ≤ i := by
  rcases aggregate_take grid hordered haligned m with ⟨more, hmore⟩
  by_contra hlt
  rw [hmore, List.getElem?_append_left (not_le.1 hlt)] at hbucket
  rcases mem_aggregateCompletedBuckets (List.mem_of_getElem? hbucket) with ⟨_, hspans⟩
  have hvisible := hspans.visible
  rw [List.length_take] at hvisible
  omega

end Counting

/-! ## What the scan looks at -/

theorem rolling_getElem? {aggregate : List ℚ → ℚ} {values : List ℚ} {period : ℕ+} {i : ℕ}
    (hi : i < values.length) (hfull : (period : ℕ) ≤ i + 1) :
    ∃ a, (rolling aggregate values period)[i]? = some (some a) := by
  have hwindow : ¬i + 1 < (period : ℕ) := not_lt.2 hfull
  simp [rolling, hi, hwindow]

/-- The scan evaluates its conditions at the 4h bucket number `i`: it is in the range of the loop, and
neither the channel before it nor its average true range is missing. -/
structure LooksAt (candles : List Candle) (i : ℕ) : Prop where
  inRange : i ∈ List.range' minFourHIdx
    ((aggregateCompletedBuckets candles fourHHours fourHBucketStartMs).length - minFourHIdx)
  channel : ∃ high, (rollingMax
    ((aggregateCompletedBuckets candles fourHHours fourHBucketStartMs).map fun b => b.candle.high)
      fourHChannelPeriod)[i - 1]? = some (some high)
  averageRange : ∃ a, (atr
    ((aggregateCompletedBuckets candles fourHHours fourHBucketStartMs).map CompletedBucket.candle)
      fourHAtrPeriod)[i]? = some (some a)

theorem looksAt {candles : List Candle} {i : ℕ} (hfrom : minFourHIdx ≤ i)
    (hi : i < (aggregateCompletedBuckets candles fourHHours fourHBucketStartMs).length) :
    LooksAt candles i := by
  have hmin : minFourHIdx = 219 := by decide
  have hchannel : (fourHChannelPeriod : ℕ) = 20 := rfl
  have hatr : (fourHAtrPeriod : ℕ) = 14 := rfl
  refine ⟨List.mem_range'_1.2 ⟨hfrom, by omega⟩, ?_, ?_⟩
  · exact rolling_getElem? (by rw [List.length_map]; omega) (by omega)
  · exact rolling_getElem? (by rw [causal_trueRange.length, List.length_map]; exact hi) (by omega)

/-! ## The declared minimum -/

section WarmUp

variable {startMs : ℤ} {candles : List Candle}

theorem enough_weeks (hstart : hourMs ∣ startMs) (h : HourlyFrom startMs candles)
    (hlength : MultiTimeframeBreakoutStrategy.minRequiredCandles ≤ candles.length) :
    weeklyEmaPeriod + weeklyEmaSlopeLookbackCandles ≤
      (aggregateCompletedBuckets candles weekHours weeklyBucketStartMs).length := by
  rcases weeklyHourGrid.exists_boundary hstart with ⟨r, hr, hboundary⟩
  have hmin : MultiTimeframeBreakoutStrategy.minRequiredCandles = 7564 := by decide
  have hweek : weekHours = 168 := rfl
  -- 44 weeks and the hours before the first boundary, at most one week
  have hcount := weeklyHourGrid.le_length_aggregate (by decide) h hboundary 44 (by omega)
  rcases aggregate_take weeklyHourGrid h.ordered (h.aligned hstart) (r + 44 * weekHours) with
    ⟨more, hmore⟩
  rw [hmore, List.length_append]
  exact hcount.trans (Nat.le_add_right _ _)

/-- There are more 4h buckets than the scan skips. -/
theorem enough_fourHours (hstart : hourMs ∣ startMs) (h : HourlyFrom startMs candles)
    (hlength : 884 ≤ candles.length) :
    minFourHIdx < (aggregateCompletedBuckets candles fourHHours fourHBucketStartMs).length := by
  rcases fourHHourGrid.exists_boundary hstart with ⟨r, hr, hboundary⟩
  have hfour : fourHHours = 4 := rfl
  have hmin : minFourHIdx = 219 := by decide
  have hcount := fourHHourGrid.le_length_aggregate (by decide) h hboundary 220 (by omega)
  rcases aggregate_take fourHHourGrid h.ordered (h.aligned hstart) (r + 220 * fourHHours) with
    ⟨more, hmore⟩
  rw [hmore, List.length_append]
  omega

/-- A bucket that closes after so many hours is one the scan looks at. -/
theorem looksAt_late (hstart : hourMs ∣ startMs) (h : HourlyFrom startMs candles)
    {i : ℕ} {bucket : CompletedBucket}
    (hbucket : (aggregateCompletedBuckets candles fourHHours fourHBucketStartMs)[i]? = some bucket)
    (hlate : 884 ≤ bucket.lastHourIndex) : LooksAt candles i := by
  rcases fourHHourGrid.exists_boundary hstart with ⟨r, hr, hboundary⟩
  rcases mem_aggregateCompletedBuckets (List.mem_of_getElem? hbucket) with ⟨_, hspans⟩
  have hvisible := hspans.visible
  have hfour : fourHHours = 4 := rfl
  have hmin : minFourHIdx = 219 := by decide
  have hcount := fourHHourGrid.le_length_aggregate (by decide) h hboundary 220 (by omega)
  have hr' : r + 220 * fourHHours ≤ bucket.lastHourIndex := by omega
  have hindex := length_aggregate_take_le fourHHourGrid h.ordered (h.aligned hstart) hbucket hr'
  refine looksAt (by omega) ?_
  exact (List.getElem?_eq_some_iff.1 hbucket).1

end WarmUp

/-- With the candles the strategy asks for, wherever they start: there are enough completed weeks
for its filter; now and at each of the last four hours before, there are more 4h buckets than the
scan skips and it looks at every one that closes among those hours; and the strategy answers. -/
theorem warm_up_sufficient (indicators : CausalIndicators) {startMs : ℤ} {candles : List Candle}
    (hstart : hourMs ∣ startMs)
    (h : HourlyFrom startMs candles)
    (hlength : MultiTimeframeBreakoutStrategy.minRequiredCandles ≤ candles.length) :
    weeklyEmaPeriod + weeklyEmaSlopeLookbackCandles ≤
      (aggregateCompletedBuckets candles weekHours weeklyBucketStartMs).length ∧
    (∀ k ≤ confirmationWindow1hCandles,
      minFourHIdx < (aggregateCompletedBuckets (candles.take (candles.length - k)) fourHHours
        fourHBucketStartMs).length ∧
      ∀ i bucket, (aggregateCompletedBuckets (candles.take (candles.length - k)) fourHHours
          fourHBucketStartMs)[i]? = some bucket →
        candles.length ≤ bucket.lastHourIndex + 1 + confirmationWindow1hCandles →
          LooksAt (candles.take (candles.length - k)) i) ∧
    ∀ side, ∃ signal, MultiTimeframeBreakoutStrategy.generateSignal indicators candles side = .ok signal := by
  have hmin : MultiTimeframeBreakoutStrategy.minRequiredCandles = 7564 := by decide
  have hwindow : confirmationWindow1hCandles = 4 := rfl
  refine ⟨enough_weeks hstart h hlength, ?_, ?_⟩
  · intro k hk
    refine ⟨enough_fourHours hstart (h.take _) (by rw [List.length_take]; omega), ?_⟩
    intro i bucket hbucket hcloses
    exact looksAt_late hstart (h.take _) hbucket (by omega)
  · intro side
    exact MultiTimeframeBreakoutStrategy.exists_generateSignal indicators side hlength

namespace Scenario

/-- Exactly the declared minimum, from a Thursday at three in the morning. -/
def minimalHours : List Candle :=
  (List.range 7564).map (hourCandle (3 * hourMs))

theorem minimalHours_hourly : HourlyFrom (3 * hourMs) minimalHours := by
  intro i hi
  simp [minimalHours, hourCandle]

end Scenario

/-- The declared minimum is just enough at that alignment too. -/
theorem warm_up_sufficient_minimal :
    weeklyEmaPeriod + weeklyEmaSlopeLookbackCandles ≤
      (aggregateCompletedBuckets Scenario.minimalHours weekHours weeklyBucketStartMs).length ∧
    (∀ k ≤ confirmationWindow1hCandles,
      minFourHIdx < (aggregateCompletedBuckets
        (Scenario.minimalHours.take (Scenario.minimalHours.length - k)) fourHHours
          fourHBucketStartMs).length ∧
      ∀ i bucket, (aggregateCompletedBuckets
          (Scenario.minimalHours.take (Scenario.minimalHours.length - k)) fourHHours
            fourHBucketStartMs)[i]? = some bucket →
        Scenario.minimalHours.length ≤ bucket.lastHourIndex + 1 + confirmationWindow1hCandles →
          LooksAt (Scenario.minimalHours.take (Scenario.minimalHours.length - k)) i) ∧
    ∀ side, ∃ signal, MultiTimeframeBreakoutStrategy.generateSignal documentedIndicators
      Scenario.minimalHours side = .ok signal :=
  warm_up_sufficient documentedIndicators (Int.dvd_mul_left 3 hourMs)
    Scenario.minimalHours_hourly (by simp [Scenario.minimalHours]; decide)

end TradingAgent
