import TradingAgent.Metrics.ExtendedReport

/-!
# Extended figures — what the scans of an extended report find

Each section of an extended report that runs over the points or the trades, against what it is for.

* `longest_underwater`: the period under water that is reported is a longest one;
* `consecutive_wins_losses`: the two counters find the longest winning and losing streaks;
* `monthly_returns_compound`: the monthly returns compound to the whole return;
* `rolling_windows`: the windows lose no trade, and each has the drawdown of its own equity.
-/

namespace TradingAgent

/-! ## Under water -/

def EquityPoint.timed (point : EquityPoint) : ℤ × ℚ :=
  (point.timestampMs, point.equity)

/-- The variables of the scan, as the general one has them. -/
def UnderwaterVars.scan (v : UnderwaterVars) : Underwater.Scan ℤ ℚ :=
  ⟨v.peak, v.peakTimeMs, v.underwaterStartMs, v.bestDurationMs, v.best⟩

theorem UnderwaterVars.scan_close (v : UnderwaterVars) (timeMs : ℤ) :
    (v.close timeMs).scan = v.scan.record timeMs := by
  unfold UnderwaterVars.close Underwater.Scan.record
  cases hstart : v.underwaterStartMs with
  | none => simp [UnderwaterVars.scan, hstart]
  | some start =>
      by_cases hlonger : v.bestDurationMs < timeMs - start
      · simp [UnderwaterVars.scan, hstart, hlonger]
      · simp [UnderwaterVars.scan, hstart, hlonger]

theorem UnderwaterVars.scan_step (v : UnderwaterVars) (point : EquityPoint) :
    (v.step point).scan = v.scan.observe point.timed := by
  unfold UnderwaterVars.step Underwater.Scan.observe
  by_cases hpeak : v.peak ≤ point.equity
  · have hclose := v.scan_close point.timestampMs
    simp only [ge_iff_le, hpeak, if_true, UnderwaterVars.scan, EquityPoint.timed] at hclose ⊢
    rw [← hclose]
  · simp only [ge_iff_le, hpeak, if_false, UnderwaterVars.scan, EquityPoint.timed]
    cases hstart : v.underwaterStartMs with
    | none => rfl
    | some start => simp [hstart]

theorem UnderwaterVars.scan_foldl (v : UnderwaterVars) (points : List EquityPoint) :
    (points.foldl UnderwaterVars.step v).scan =
      (points.map EquityPoint.timed).foldl Underwater.Scan.observe v.scan := by
  induction points generalizing v with
  | nil => rfl
  | cons point rest ih =>
      rw [List.foldl_cons, List.map_cons, List.foldl_cons, ih, UnderwaterVars.scan_step]

theorem longestUnderwater_eq (curve : List EquityPoint) :
    longestUnderwater curve = Underwater.longest (curve.map EquityPoint.timed) := by
  cases curve with
  | nil => rfl
  | cons first rest =>
      generalize hlast : (first :: rest).getLast (List.cons_ne_nil first rest) = last
      have htime : ((first.timed :: rest.map EquityPoint.timed).getLast
          (List.cons_ne_nil _ _)).1 = last.timestampMs := by
        have hmap := List.getLast_map (f := EquityPoint.timed) (l := first :: rest) (by simp)
        rw [hlast] at hmap
        exact congrArg Prod.fst hmap
      generalize hv : (first :: rest).foldl UnderwaterVars.step
        ⟨first.equity, first.timestampMs, none, 0, none⟩ = v
      have hscan : v.scan = (rest.map EquityPoint.timed).foldl Underwater.Scan.observe
          (Underwater.Scan.initial first.timed) := by
        calc v.scan = ((first :: rest).map EquityPoint.timed).foldl Underwater.Scan.observe
              (Underwater.Scan.initial first.timed) := by rw [← hv, UnderwaterVars.scan_foldl]; rfl
          _ = _ := by rw [List.map_cons, List.foldl_cons, Underwater.Scan.observe_initial]
      have hclosed : longestUnderwater (first :: rest) = (v.close last.timestampMs).best := by
        rw [longestUnderwater, List.head?_cons, List.getLast?_eq_some_getLast (by simp), hlast]
        simp only [hv]
      rw [hclosed, List.map_cons, Underwater.longest, Underwater.scanAll, htime, ← hscan,
        ← UnderwaterVars.scan_close]
      rfl

/-- The section names a longest period under water of the curve, and how many days it lasts; where
it names none, none lasts. -/
def TimeBasedPerformance.ReportsLongest (report : TimeBasedPerformance)
    (curve : List EquityPoint) : Prop :=
  match report.longestUnderwaterStartMs, report.longestUnderwaterEndMs,
    report.longestUnderwaterDays with
  | none, none, none => ∀ s e, Underwater.Drought (curve.map EquityPoint.timed) s e → e ≤ s
  | some start, some stop, some days =>
      Underwater.Drought (curve.map EquityPoint.timed) start stop ∧ start < stop ∧
        days * msPerDay = stop - start ∧
        ∀ s e, Underwater.Drought (curve.map EquityPoint.timed) s e → e - s ≤ stop - start
  | _, _, _ => False

/-- Over points in the order of their times the section on time reports a longest period under
water. -/
theorem longest_underwater (curve : List EquityPoint)
    (horder : curve.Pairwise fun a b => a.timestampMs ≤ b.timestampMs)
    (totalReturnPct : ℚ) (annualizedReturnPct : Option ℚ) (maxDrawdownPct exposurePct : ℚ) :
    (computeTimeBasedPerformance curve totalReturnPct annualizedReturnPct maxDrawdownPct
      exposurePct).ReportsLongest curve := by
  have hsorted : (curve.map EquityPoint.timed).Pairwise fun a b => a.1 ≤ b.1 :=
    List.pairwise_map.2 horder
  have hlongest := Underwater.longest_isLongest _ hsorted
  rw [← longestUnderwater_eq] at hlongest
  unfold TimeBasedPerformance.ReportsLongest computeTimeBasedPerformance
  cases hfound : longestUnderwater curve with
  | none =>
      rw [hfound] at hlongest
      intro s e hdrought
      exact sub_nonpos.1 (hlongest s e hdrought)
  | some period =>
      rw [hfound] at hlongest
      rcases hlongest with ⟨hdrought, hpos, hall⟩
      refine ⟨hdrought, sub_pos.1 hpos, ?_, hall⟩
      have hday : (msPerDay : ℚ) ≠ 0 := by
        rw [Ne, Int.cast_eq_zero]
        decide
      exact div_mul_cancel₀ _ hday

/-- A fall and no recovery. -/
def Scenario.dip : List EquityPoint :=
  [⟨0, 50, false⟩, ⟨10, 60, true⟩, ⟨20, 55, true⟩, ⟨30, 58, false⟩]

theorem longest_underwater_dip :
    longestUnderwater Scenario.dip = some (10, 30) ∧
      (computeTimeBasedPerformance Scenario.dip 16 none 8 50).ReportsLongest Scenario.dip :=
  ⟨by decide +kernel,
    longest_underwater Scenario.dip (by unfold Scenario.dip; decide) 16 none 8 50⟩

/-! ## Streaks -/

theorem streakVars_foldl (v : StreakVars) (trades : List Trade) :
    ((trades.foldl StreakVars.step v).curWins, (trades.foldl StreakVars.step v).maxWins) =
        trades.foldl (Streak.observe fun t => decide (0 < t.pnlQuote)) (v.curWins, v.maxWins) ∧
      ((trades.foldl StreakVars.step v).curLosses, (trades.foldl StreakVars.step v).maxLosses) =
        trades.foldl (Streak.observe fun t => decide (t.pnlQuote < 0))
          (v.curLosses, v.maxLosses) := by
  induction trades generalizing v with
  | nil => exact ⟨rfl, rfl⟩
  | cons t rest ih =>
      rcases ih (v.step t) with ⟨hwins, hlosses⟩
      rw [List.foldl_cons, List.foldl_cons, List.foldl_cons, hwins, hlosses]
      constructor
      · congr 1
        by_cases hwin : 0 < t.pnlQuote <;> simp [StreakVars.step, Streak.observe, hwin]
      · congr 1
        -- no trade is both a win and a loss
        by_cases hwin : 0 < t.pnlQuote
        · simp [StreakVars.step, Streak.observe, hwin, not_lt.2 hwin.le]
        · by_cases hloss : t.pnlQuote < 0 <;> simp [StreakVars.step, Streak.observe, hwin, hloss]

/-- Stretches of consecutive trades, by their lengths. -/
def streakLengths (p : Trade → Bool) (trades : List Trade) : Set ℕ :=
  {n | ∃ streak, streak <:+: trades ∧ (∀ t ∈ streak, p t = true) ∧ streak.length = n}

theorem isGreatest_streakLengths (p : Trade → Bool) (trades : List Trade) :
    IsGreatest (streakLengths p trades) (Streak.longest p trades) := by
  have hset : streakLengths p trades =
      {n | ∃ ys, Streak.Holds p trades ys ∧ ys.length = n} := by
    ext n
    simp only [streakLengths, Streak.Holds, and_assoc]
  rw [hset]
  exact Streak.isGreatest_longest p trades

/-- The two counters of a trade distribution are the lengths of the longest streaks of consecutive
winning and of consecutive losing trades. -/
theorem consecutive_wins_losses (trades : List Trade) (startingEquity : ℚ)
    (d : TradeDistribution) (h : computeTradeDistribution trades startingEquity = some d) :
    IsGreatest (streakLengths (fun t => decide (0 < t.pnlQuote)) trades) d.maxConsecutiveWins ∧
      IsGreatest (streakLengths (fun t => decide (t.pnlQuote < 0)) trades)
        d.maxConsecutiveLosses := by
  rcases Option.map_eq_some_iff.1 h with ⟨best, -, rfl⟩
  rcases streakVars_foldl ⟨0, 0, 0, 0⟩ trades with ⟨hwins, hlosses⟩
  constructor
  · have hlongest := isGreatest_streakLengths (fun t : Trade => decide (0 < t.pnlQuote)) trades
    rwa [Streak.longest, ← congrArg Prod.snd hwins] at hlongest
  · have hlongest := isGreatest_streakLengths (fun t : Trade => decide (t.pnlQuote < 0)) trades
    rwa [Streak.longest, ← congrArg Prod.snd hlosses] at hlongest

/-- A trade with this result. -/
def Scenario.trade (index : ℤ) (pnlQuote : ℚ) : Trade where
  entryTimeMs := 1000 * index
  exitTimeMs := 1000 * index + 500
  entryPrice := 100
  exitPrice := 100 + pnlQuote
  quantity := 1
  feesPaid := 0
  pnlQuote := pnlQuote
  exitReason := .strategyExit
  entryFeeQuote := 0
  exitFeeQuote := 0
  entryReferencePrice := 100
  exitReferencePrice := 100 + pnlQuote

/-- Two wins, two losses, an even trade and another loss. -/
def Scenario.mixedTrades : List Trade :=
  [trade 0 3, trade 1 1, trade 2 (-2), trade 3 (-1), trade 4 0, trade 5 (-1)]

theorem consecutive_wins_losses_mixed :
    ∃ d, computeTradeDistribution Scenario.mixedTrades 50 = some d ∧
      IsGreatest (streakLengths (fun t => decide (0 < t.pnlQuote)) Scenario.mixedTrades)
          d.maxConsecutiveWins ∧
        IsGreatest (streakLengths (fun t => decide (t.pnlQuote < 0)) Scenario.mixedTrades)
          d.maxConsecutiveLosses := by
  have hsome : (computeTradeDistribution Scenario.mixedTrades 50).isSome = true := by
    decide +kernel
  rcases Option.isSome_iff_exists.1 hsome with ⟨d, hd⟩
  exact ⟨d, hd, consecutive_wins_losses Scenario.mixedTrades 50 d hd⟩

/-! ## Months -/

/-- What a monthly return multiplies the equity by. -/
def MonthlyReturn.growth (m : MonthlyReturn) : ℚ :=
  1 + m.returnPct / 100

/-- Month by month the growth is the quotient of two equities, so the product telescopes. -/
theorem prod_growth_monthlyReturnsFrom {prior : ℚ} (hprior : 0 < prior)
    (months : List ((ℤ ×ₗ ℕ) × List EquityPoint)) (hne : ∀ month ∈ months, month.2 ≠ [])
    (hpos : ∀ month ∈ months, ∀ point ∈ month.2, 0 < point.equity) :
    ((monthlyReturnsFrom prior months).map MonthlyReturn.growth).prod =
      (((months.flatMap Prod.snd).getLast?.map EquityPoint.equity).getD prior) / prior := by
  induction months generalizing prior with
  | nil => simp [monthlyReturnsFrom, hprior.ne']
  | cons month rest ih =>
      rcases month with ⟨key, points⟩
      have hpoints : points ≠ [] := hne (key, points) (by simp)
      have hlast := List.getLast?_eq_some_getLast hpoints
      generalize points.getLast hpoints = last at hlast
      have hequity : 0 < last.equity :=
        hpos (key, points) (by simp) last (List.mem_of_getLast? hlast)
      have hrest := ih hequity (fun m hm => hne m (List.mem_cons_of_mem _ hm))
        fun m hm => hpos m (List.mem_cons_of_mem _ hm)
      have hgrowth : (1 : ℚ) + (last.equity / prior - 1) * 100 / 100 = last.equity / prior := by
        rw [mul_div_assoc, div_self (by norm_num), mul_one, add_sub_cancel]
      have hfinal : (((key, points) :: rest).flatMap Prod.snd).getLast? =
          ((rest.flatMap Prod.snd).getLast?).or (some last) := by
        rw [List.flatMap_cons, List.getLast?_append, hlast]
      rw [hfinal]
      simp only [monthlyReturnsFrom, hlast, gt_iff_lt, hprior, if_true, List.cons_append,
        List.nil_append, List.map_cons, List.prod_cons, MonthlyReturn.growth, hgrowth]
      rw [hrest]
      cases (rest.flatMap Prod.snd).getLast? with
      | none => simp [div_self hequity.ne']
      | some point =>
          simp only [Option.map_some, Option.getD_some, Option.some_or]
          rw [mul_comm, div_mul_div_cancel₀ hequity.ne']

/-- Each month of a curve of positive equities has one return. -/
theorem keys_monthlyReturnsFrom {prior : ℚ} (hprior : 0 < prior)
    (months : List ((ℤ ×ₗ ℕ) × List EquityPoint)) (hne : ∀ month ∈ months, month.2 ≠ [])
    (hpos : ∀ month ∈ months, ∀ point ∈ month.2, 0 < point.equity) :
    (monthlyReturnsFrom prior months).map (fun m => toLex (m.year, m.month)) =
      months.map Prod.fst := by
  induction months generalizing prior with
  | nil => rfl
  | cons month rest ih =>
      rcases month with ⟨key, points⟩
      have hpoints : points ≠ [] := hne (key, points) (by simp)
      have hlast := List.getLast?_eq_some_getLast hpoints
      generalize points.getLast hpoints = last at hlast
      have hequity : 0 < last.equity :=
        hpos (key, points) (by simp) last (List.mem_of_getLast? hlast)
      have hrest := ih hequity (fun m hm => hne m (List.mem_cons_of_mem _ hm))
        fun m hm => hpos m (List.mem_cons_of_mem _ hm)
      simp only [monthlyReturnsFrom, hlast, gt_iff_lt, hprior, if_true, List.cons_append,
        List.nil_append, List.map_cons, hrest]
      rfl

/-- The months of a curve in the order of its times, all of its equities positive: each month with a
point has one return, in order, and together they compound to the total return the performance
report gives. -/
theorem monthly_returns_compound (math : FloatMath) (stepMs : ℤ) (trades : List Trade)
    (minTrades : ℕ) (buyAndHold : Option BuyAndHoldReport) (curve : List EquityPoint)
    (hne : curve ≠ []) (horder : curve.Pairwise fun a b => a.timestampMs ≤ b.timestampMs)
    (hpos : ∀ point ∈ curve, 0 < point.equity) :
    (monthlyReturns curve).map (fun m => toLex (m.year, m.month)) =
        Buckets.keys (fun point => utcYearMonth point.timestampMs) curve ∧
      (((monthlyReturns curve).map MonthlyReturn.growth).prod - 1) * 100 =
        (computePerformanceReport math stepMs trades curve minTrades buyAndHold).totalReturnPct := by
  rcases List.exists_cons_of_ne_nil hne with ⟨first, rest, rfl⟩
  have hfirst : 0 < first.equity := hpos first (by simp)
  have hmonths : (Buckets.buckets (fun point => utcYearMonth point.timestampMs)
      (first :: rest)).flatMap Prod.snd = first :: rest :=
    Buckets.flatten_buckets (horder.imp fun h => utcYearMonth_mono h)
  have hnonempty : ∀ month ∈ Buckets.buckets (fun point => utcYearMonth point.timestampMs)
      (first :: rest), month.2 ≠ [] := fun month hmonth => Buckets.ne_nil_of_mem hmonth
  have hpositive : ∀ month ∈ Buckets.buckets (fun point => utcYearMonth point.timestampMs)
      (first :: rest), ∀ point ∈ month.2, 0 < point.equity := by
    intro month hmonth point hpoint
    refine hpos point ?_
    rw [← hmonths]
    exact List.mem_flatMap.2 ⟨month, hmonth, hpoint⟩
  constructor
  · calc (monthlyReturns (first :: rest)).map (fun m => toLex (m.year, m.month))
        = (Buckets.buckets (fun point => utcYearMonth point.timestampMs)
            (first :: rest)).map Prod.fst :=
          keys_monthlyReturnsFrom hfirst _ hnonempty hpositive
      _ = _ := by rw [Buckets.buckets, List.map_map]; exact List.map_id _
  · have hprod := prod_growth_monthlyReturnsFrom hfirst _ hnonempty hpositive
    rw [hmonths, List.getLast?_cons] at hprod
    have hreturns : monthlyReturns (first :: rest) = monthlyReturnsFrom first.equity
        (Buckets.buckets (fun point => utcYearMonth point.timestampMs) (first :: rest)) := rfl
    rw [hreturns, hprod, computePerformanceReport, List.head?_cons, List.getLast?_cons]
    simp only [Option.map_some, Option.getD_some, gt_iff_lt, hfirst, if_true]

theorem monthly_returns_compound_dip :
    (monthlyReturns Scenario.dip).map (fun m => toLex (m.year, m.month)) =
        Buckets.keys (fun point => utcYearMonth point.timestampMs) Scenario.dip ∧
      (((monthlyReturns Scenario.dip).map MonthlyReturn.growth).prod - 1) * 100 =
        (computePerformanceReport Scenario.floatMath 10 [] Scenario.dip 1 none).totalReturnPct :=
  monthly_returns_compound Scenario.floatMath 10 [] 1 none Scenario.dip
    (by unfold Scenario.dip; decide) (by unfold Scenario.dip; decide)
    (by unfold Scenario.dip; decide)

/-! ## Rolling windows -/

/-- The equity a window starts with and has after each of its trades. -/
def equityAfterTrades (startingEquity : ℚ) (trades : List Trade) : List ℚ :=
  (trades.map Trade.pnlQuote).scanl (· + ·) startingEquity

/-- The loop over a window's trades: their sum, and the deepest fall of the equity below its peak. -/
theorem rollingStep_foldl (chunk : List Trade) {equity peak maxDd : ℚ} (hdd : 0 ≤ maxDd) :
    chunk.foldl rollingStep (equity, peak, maxDd) =
      (equity + (chunk.map Trade.pnlQuote).sum,
        (equityAfterTrades equity chunk).tail.foldl Drawdown.observe (peak, maxDd)) := by
  induction chunk generalizing equity peak maxDd with
  | nil => simp [equityAfterTrades]
  | cons t rest ih =>
      have hstep : rollingStep (equity, peak, maxDd) t =
          (equity + t.pnlQuote, Drawdown.observe (peak, maxDd) (equity + t.pnlQuote)) := by
        rw [← drawdownPctStep_eq hdd]
        by_cases hpeak : 0 < max peak (equity + t.pnlQuote)
        · simp [rollingStep, drawdownPctStep, hpeak]
        · simp [rollingStep, drawdownPctStep, hpeak]
      have hnonneg : 0 ≤ (Drawdown.observe (peak, maxDd) (equity + t.pnlQuote)).2 :=
        hdd.trans (le_max_left _ _)
      rw [List.foldl_cons, hstep, ih hnonneg]
      have hcurve : (equityAfterTrades equity (t :: rest)).tail =
          (equity + t.pnlQuote) :: (equityAfterTrades (equity + t.pnlQuote) rest).tail := by
        cases rest <;> simp [equityAfterTrades]
      rw [hcurve, List.foldl_cons, List.map_cons, List.sum_cons, add_assoc]

/-- The window of a chunk: its trades, their sum, the drawdown of its equity. -/
structure RollingWindowPoint.Of (window : RollingWindowPoint) (startingEquity : ℚ)
    (chunk : List Trade) : Prop where
  tradeCount : window.tradeCount = chunk.length
  startTime : chunk.head?.map Trade.entryTimeMs = some window.startTimeMs
  endTime : chunk.getLast?.map Trade.exitTimeMs = some window.endTimeMs
  returnPct : window.returnPct = some ((chunk.map Trade.pnlQuote).sum / startingEquity * 100)
  maxDrawdownPct :
    window.maxDrawdownPct =
      some (TradingAgent.maxDrawdownPct (equityAfterTrades startingEquity chunk))

theorem maxDrawdown_equityAfterTrades (startingEquity : ℚ) (chunk : List Trade) :
    ((equityAfterTrades startingEquity chunk).tail.foldl Drawdown.observe (startingEquity, 0)).2 *
      100 = maxDrawdownPct (equityAfterTrades startingEquity chunk) := by
  have hcurve : equityAfterTrades startingEquity chunk =
      startingEquity :: (equityAfterTrades startingEquity chunk).tail := by
    cases chunk <;> simp [equityAfterTrades]
  rw [maxDrawdownPct_eq, hcurve]
  simp [Drawdown.maxDrawdown, Drawdown.observe]

theorem rollingWindow_of (startingEquity : ℚ) (index : ℕ) {chunk : List Trade}
    (hne : chunk ≠ []) : ∃ window, rollingWindow startingEquity index chunk = some window ∧
      window.windowIndex = index ∧ window.Of startingEquity chunk := by
  rcases List.exists_cons_of_ne_nil hne with ⟨first, rest, rfl⟩
  have hlast := List.getLast?_eq_some_getLast hne
  generalize (first :: rest).getLast hne = last at hlast
  have hfold : (first :: rest).foldl rollingStep (startingEquity, startingEquity, 0) =
      (startingEquity + ((first :: rest).map Trade.pnlQuote).sum,
        (equityAfterTrades startingEquity (first :: rest)).tail.foldl Drawdown.observe
          (startingEquity, 0)) :=
    rollingStep_foldl (first :: rest) le_rfl
  refine ⟨⟨index, (first :: rest).length, first.entryTimeMs, last.exitTimeMs,
    some (((first :: rest).map Trade.pnlQuote).sum / startingEquity * 100),
    some (maxDrawdownPct (equityAfterTrades startingEquity (first :: rest)))⟩, ?_, rfl, ?_⟩
  · rw [rollingWindow, List.head?_cons, hlast, hfold]
    simp only [Option.bind_some, Option.map_some, add_sub_cancel_left,
      maxDrawdown_equityAfterTrades]
  · exact ⟨rfl, rfl, by rw [hlast]; rfl, rfl, rfl⟩

/-- The chunks are the trades, cut into pieces of one length. -/
theorem flatten_rollingChunks (trades : List Trade) {n : ℕ} (hn : 0 < n) :
    (rollingChunks trades n).flatten = trades := by
  have hcut : ∀ m, ((List.range m).map fun i => (trades.drop (i * n)).take n).flatten =
      trades.take (m * n) := by
    intro m
    induction m with
    | zero => simp
    | succ m ih =>
        rw [List.range_succ, List.map_append, List.flatten_append, ih, Nat.succ_mul, List.take_add]
        simp
  rw [rollingChunks, hcut, List.take_of_length_le]
  have hdiv := Nat.div_add_mod (trades.length + n - 1) n
  have hmod := Nat.mod_lt (trades.length + n - 1) hn
  rw [mul_comm] at hdiv
  omega

theorem length_rollingChunk {trades : List Trade} {n : ℕ} (hn : 0 < n) {chunk : List Trade}
    {i : ℕ} (h : (rollingChunks trades n)[i]? = some chunk) :
    chunk.length = min n (trades.length - i * n) ∧ 0 < chunk.length := by
  rw [rollingChunks, List.getElem?_map] at h
  rcases Option.map_eq_some_iff.1 h with ⟨j, hj, rfl⟩
  rcases List.getElem?_eq_some_iff.1 hj with ⟨hlt, hget⟩
  rw [List.getElem_range] at hget
  subst hget
  rw [List.length_range] at hlt
  have hbefore : i * n < trades.length := by
    have hle : (i + 1) * n ≤ (trades.length + n - 1) / n * n := Nat.mul_le_mul_right n hlt
    have hdiv := Nat.div_mul_le_self (trades.length + n - 1) n
    rw [Nat.succ_mul] at hle
    omega
  rw [List.length_take, List.length_drop]
  omega

theorem map_some_filterMap_id {α : Type} {values : List (Option α)}
    (h : ∀ value ∈ values, value.isSome = true) : (values.filterMap id).map some = values := by
  induction values with
  | nil => rfl
  | cons value rest ih =>
      rcases Option.isSome_iff_exists.1 (h value (by simp)) with ⟨x, rfl⟩
      have hrest := ih fun v hv => h v (List.mem_cons_of_mem _ hv)
      calc ((some x :: rest).filterMap id).map some
          = some x :: (rest.filterMap id).map some := rfl
        _ = some x :: rest := by rw [hrest]

/-- The windows cut the trades into stretches of one length, the last one possibly shorter, and lose
none; each reports the sum and the deepest drawdown of an account that starts with the window. -/
theorem rolling_windows (trades : List Trade) (startingEquity : ℚ) (hpos : 0 < startingEquity)
    (n : ℕ) (hn : 0 < n) :
    ∃ chunks : List (List Trade), chunks.flatten = trades ∧
      (computeRollingWindowDiagnostics trades startingEquity n).windows.length = chunks.length ∧
      ∀ (i : ℕ) chunk, chunks[i]? = some chunk →
        chunk.length = min n (trades.length - i * n) ∧ 0 < chunk.length ∧
          ∃ window, (computeRollingWindowDiagnostics trades startingEquity n).windows[i]? =
            some window ∧ window.windowIndex = i ∧ window.Of startingEquity chunk := by
  generalize hwindows : (computeRollingWindowDiagnostics trades startingEquity n).windows = windows
  refine ⟨rollingChunks trades n, flatten_rollingChunks trades hn, ?_⟩
  have hchunk : ∀ (i : ℕ) chunk, (rollingChunks trades n)[i]? = some chunk → chunk ≠ [] := by
    intro i chunk hi
    exact List.ne_nil_of_length_pos (length_rollingChunk hn hi).2
  have hmap : windows.map some =
      (rollingChunks trades n).mapIdx (rollingWindow startingEquity) := by
    rw [← hwindows, computeRollingWindowDiagnostics]
    by_cases hnone : trades = []
    · subst hnone
      have hnil : rollingChunks [] n = [] := by
        rw [rollingChunks, List.length_nil, Nat.div_eq_of_lt (by omega)]
        rfl
      simp [hnil]
    · rw [if_neg (by simp [hnone, not_le.2 hpos])]
      refine map_some_filterMap_id ?_
      intro value hvalue
      rcases List.mem_iff_getElem?.1 hvalue with ⟨i, hi⟩
      rw [List.getElem?_mapIdx] at hi
      rcases Option.map_eq_some_iff.1 hi with ⟨chunk, hget, rfl⟩
      rcases rollingWindow_of startingEquity i (hchunk i chunk hget) with ⟨window, hwindow, -⟩
      rw [hwindow]
      rfl
  refine ⟨by simpa using congrArg List.length hmap, ?_⟩
  intro i chunk hi
  rcases length_rollingChunk hn hi with ⟨hlength, hposLength⟩
  rcases rollingWindow_of startingEquity i (hchunk i chunk hi) with ⟨window, hwindow, hindex, hof⟩
  refine ⟨hlength, hposLength, window, ?_, hindex, hof⟩
  have hat := congrArg (fun l => l[i]?) hmap
  simp only [List.getElem?_map, List.getElem?_mapIdx, hi, Option.map_some, hwindow] at hat
  rcases Option.map_eq_some_iff.1 hat with ⟨w, hw, heq⟩
  rw [hw, Option.some.inj heq]

theorem rolling_windows_mixed :
    ∃ chunks : List (List Trade), chunks.flatten = Scenario.mixedTrades ∧
      (computeRollingWindowDiagnostics Scenario.mixedTrades 50 4).windows.length =
        chunks.length ∧
      ∀ (i : ℕ) chunk, chunks[i]? = some chunk →
        chunk.length = min 4 (Scenario.mixedTrades.length - i * 4) ∧ 0 < chunk.length ∧
          ∃ window, (computeRollingWindowDiagnostics Scenario.mixedTrades 50 4).windows[i]? =
            some window ∧ window.windowIndex = i ∧ window.Of 50 chunk :=
  rolling_windows Scenario.mixedTrades 50 (by decide) 4 (by decide)

end TradingAgent
