import Mathlib.Data.Finset.Max
import TradingAgent.Backtest.Marks
import TradingAgent.Metrics.Performance
import TradingAgent.Shadow.GapSchedules

/-!
# Shadow report — one drawdown over independent segments

`shadow/report.py`.  Each segment of the stored candles is evaluated on its own, from the starting
equity; their equity points share one table, and the report's statistics run over the whole table.

* `segmentCurves` are the points of the table segment by segment, and `equity_eq_flatten` says that
  the table is one after the other;
* `buildShadowReport_performance`: the statistics are those of the table;
* `report_within_segments_iff`: the return is that of the last segment that was scored, and the
  drawdown is one inside a segment exactly if no restart lies deeper below an earlier segment.
-/

namespace TradingAgent

/-! ## The report -/

def shadowMinClosedTradesForPromotionReview : ℕ := 30

def shadowNotProfitableNote : String :=
  "This is a forward-only SHADOW SIMULATION of the frozen multitimeframe_breakout_E1_round3 " ++
    "candidate. No order - real, Testnet, or otherwise - has ever been placed by this tool. " ++
    "Nothing in this report is a claim of profitability, and nothing in this report is approval " ++
    "for Testnet or live trading. A promotion review requires at least " ++
    s!"{shadowMinClosedTradesForPromotionReview} closed forward trades and is, in any case, a " ++
    "separate manual decision this tool does not make."

structure ShadowDataGapSummary where
  storedCandleCount : ℕ
  gapCount : ℕ
  totalMissingIntervals : ℤ
  latestSegmentLength : ℕ
  minRequiredCandles : ℕ
  effectiveMinRequiredCandles : ℕ
  deriving DecidableEq, Repr

structure ShadowOpenPositionSummary where
  entryTimeMs : ℤ
  entryPrice : ℚ
  quantity : ℚ
  entryFeeQuote : ℚ
  latestCloseTimeMs : Option ℤ
  latestClosePrice : Option ℚ
  unrealizedPnlQuote : Option ℚ
  deriving DecidableEq, Repr

structure ShadowReport where
  runState : ShadowRunState
  bootstrap : Option ShadowBootstrapState
  performance : PerformanceReport
  expectancyR : Option ℚ
  expectancyQuote : Option ℚ
  totalFeesPaidQuote : ℚ
  totalSlippageCostQuote : ℚ
  longestLosingStreak : ℕ
  openPosition : Option ShadowOpenPositionSummary
  dataGaps : ShadowDataGapSummary
  promotionReviewEligible : Bool
  promotionReviewNote : String
  notProfitableNote : String := shadowNotProfitableNote

/-- `get_equity_curve`. -/
def ShadowStore.getEquityCurve (store : ShadowStore) : List EquityPoint :=
  store.equity.insertionSort fun a b => a.timestampMs ≤ b.timestampMs

/-- The profit of a trade as a multiple of the risk it was planned with, where that is positive. -/
def ShadowTradeRecord.rMultiple? (record : ShadowTradeRecord) : Option ℚ :=
  match record.plannedRiskQuote with
  | some plannedRisk => if plannedRisk > 0 then some (record.trade.pnlQuote / plannedRisk) else none
  | none => none

def slippageCost (trade : Trade) : ℚ :=
  (trade.entryPrice - trade.entryReferencePrice) * trade.quantity +
    (trade.exitReferencePrice - trade.exitPrice) * trade.quantity

/-- The longest streak of losing trades so far, and the one under way. -/
def losingStreakStep (acc : ℕ × ℕ) (trade : Trade) : ℕ × ℕ :=
  if trade.pnlQuote < 0 then (max acc.1 (acc.2 + 1), acc.2 + 1) else (acc.1, 0)

def summarizeOpenPosition (storedCandles : List Candle) (pos : OpenPositionInfo) :
    ShadowOpenPositionSummary :=
  let latestCandle := storedCandles.getLast?
  { entryTimeMs := pos.entryTimeMs
    entryPrice := pos.entryPrice
    quantity := pos.quantity
    entryFeeQuote := pos.entryFeeQuote
    latestCloseTimeMs := latestCandle.map Candle.closeTimeMs
    latestClosePrice := latestCandle.map Candle.close
    unrealizedPnlQuote := latestCandle.map fun candle =>
      pos.quantity * (candle.close - pos.entryPrice) - pos.entryFeeQuote }

/-- The data-gap summary; the requirement of the latest segment depends on where it begins. -/
def summarizeDataGaps (stepMs : ℤ) (minRequiredCandles : ℕ)
    (bootstrapState : Option ShadowBootstrapState) (storedCandles : List Candle) :
    Except PyError ShadowDataGapSummary :=
  if storedCandles = [] then .ok ⟨0, 0, 0, 0, minRequiredCandles, minRequiredCandles⟩
  else do
    let segmentation ← partitionIntoSegments stepMs storedCandles
    match segmentation.segments.getLast? with
    | none => .error .indexOutOfRange
    | some latestSegment =>
        match latestSegment.head? with
        | none => .error .indexOutOfRange
        | some first =>
            let effective :=
              match bootstrapState with
              | some state =>
                  if first.openTimeMs = state.warmupStartTimeMs then
                    state.effectiveMinRequiredCandles
                  else minRequiredCandles
              | none => minRequiredCandles
            .ok ⟨storedCandles.length, segmentation.gaps.length,
              (segmentation.gaps.map GapRecord.missingIntervals).sum, latestSegment.length,
              minRequiredCandles, effective⟩

def promotionReviewNote (closedTradeCount : ℕ) : String :=
  if closedTradeCount ≥ shadowMinClosedTradesForPromotionReview then
    s!"eligible: {closedTradeCount} closed forward trade(s) observed " ++
      s!"(>= {shadowMinClosedTradesForPromotionReview} required) - a promotion review is a " ++
      "separate manual decision this tool does not make."
  else
    s!"NOT yet eligible: {closedTradeCount} of {shadowMinClosedTradesForPromotionReview} " ++
      "required closed forward trades observed."

/-- `build_shadow_report`, for the interval whose length is `stepMs`. -/
def buildShadowReport (math : FloatMath) (stepMs : ℤ) (minRequiredCandles : ℕ) (db : ShadowDb) :
    Except PyError ShadowReport := do
  let bootstrapState := db.store.bootstrapState
  let tradeRecords := db.store.getAllTrades
  let gapSummaryStartMs :=
    (bootstrapState.map ShadowBootstrapState.warmupStartTimeMs).getD shadowStartBoundaryMs
  let storedCandles := db.candles.getCandles (some gapSummaryStartMs) none
  let trades := tradeRecords.map ShadowTradeRecord.trade
  let dataGaps ← summarizeDataGaps stepMs minRequiredCandles bootstrapState storedCandles
  .ok
    { runState := db.store.runState
      bootstrap := bootstrapState
      performance := computePerformanceReport math stepMs trades db.store.getEquityCurve
        shadowMinClosedTradesForPromotionReview none
      expectancyR := mean? (tradeRecords.filterMap ShadowTradeRecord.rMultiple?)
      expectancyQuote := mean? (trades.map Trade.pnlQuote)
      totalFeesPaidQuote := (trades.map Trade.feesPaid).sum
      totalSlippageCostQuote := (trades.map slippageCost).sum
      longestLosingStreak := (trades.foldl losingStreakStep (0, 0)).1
      openPosition := db.store.runState.openPosition.map (summarizeOpenPosition storedCandles)
      dataGaps := dataGaps
      promotionReviewEligible := trades.length ≥ shadowMinClosedTradesForPromotionReview
      promotionReviewNote := TradingAgent.promotionReviewNote trades.length }

/-! ## The points of each segment -/

/-- The stored points at the closes of a segment's candles. -/
def segmentCurve (store : ShadowStore) (segment : List Candle) : List EquityPoint :=
  store.getEquityCurve.filter fun point => point.timestampMs ∈ segment.map Candle.closeTimeMs

/-- The points of the table, segment by segment of the stored candles. -/
def segmentCurves (setup : ShadowSetup) (db : ShadowDb) : List (List EquityPoint) :=
  (segmentsOf hourMs (db.readCandles setup)).map (segmentCurve db.store)

def equities (curve : List EquityPoint) : List ℚ :=
  curve.map EquityPoint.equity

/-- The points of the last segment that has any. -/
def latestCurve (curves : List (List EquityPoint)) : List EquityPoint :=
  (curves.filter fun curve => curve ≠ []).getLast?.getD []

/-- The figures of a report come from within the segments: its return is that of the last one, and
its drawdown is at most the drawdown inside one of them. -/
structure WithinSegments (math : FloatMath) (stepMs : ℤ) (curves : List (List EquityPoint))
    (performance : PerformanceReport) : Prop where
  totalReturn : performance.totalReturnPct =
    (computePerformanceReport math stepMs [] (latestCurve curves) 0 none).totalReturnPct
  drawdown : ∃ curve ∈ curves, performance.maxDrawdownPct ≤ maxDrawdownPct (equities curve)

/-- No point of a segment lies further below the highest point so far, where this is a point of an
earlier segment, than the drawdown inside some segment. -/
def RestartsWithin (curves : List (List EquityPoint)) : Prop :=
  ∀ earlier curve later, curves = earlier ++ curve :: later →
    ∀ before v after, equities curve = before ++ v :: after →
      ∀ p ∈ equities earlier.flatten,
        Drawdown.Highest (equities earlier.flatten ++ before ++ [v]) p →
          ∃ curve' ∈ curves, Drawdown.fall p v ≤ Drawdown.maxDrawdown (equities curve')

/-- The statistics are those of the whole table. -/
theorem buildShadowReport_performance {math : FloatMath} {stepMs : ℤ} {minRequiredCandles : ℕ}
    {db : ShadowDb} {report : ShadowReport}
    (h : buildShadowReport math stepMs minRequiredCandles db = .ok report) :
    report.performance = computePerformanceReport math stepMs
      (db.store.getAllTrades.map ShadowTradeRecord.trade) db.store.getEquityCurve
      shadowMinClosedTradesForPromotionReview none := by
  unfold buildShadowReport at h
  simp only [bind, Except.bind] at h
  split at h
  · cases h
  · cases h
    rfl

section Stored

variable {setup : ShadowSetup} {filters : SymbolFilters} {exchange : ServedCandles}
  {warmup fwd reads : List Candle} {store : ShadowStore} {cov : List CoveredSegment}

/-- The table is in the order it is read in. -/
theorem Covers.getEquityCurve (h : Covers setup filters (warmup ++ fwd) reads store cov)
    (hwarmup : IsWarmup setup warmup) (hfwd : fwd.Sublist exchange.forward) :
    store.getEquityCurve = store.equity := by
  have hsub := (scoredCandles_sublist_forward hwarmup h.segments
    fun x hx => (h.valid x hx).initial).trans hfwd
  have htimes : (store.equity.map EquityPoint.timestampMs).Pairwise (· ≤ ·) := by
    rw [h.equityTimes, List.pairwise_map]
    exact (exchange.forward_later.sublist hsub).imp fun hlt => hlt.2.2.le
  exact (List.pairwise_map.1 htimes).insertionSort_eq

/-- The points of a run are stamped by candles of its own segment, none of another. -/
theorem Covers.stamped_elsewhere (h : Covers setup filters (warmup ++ fwd) reads store cov)
    (hwarmup : IsWarmup setup warmup) (hfwd : fwd.Sublist exchange.forward)
    {x y : CoveredSegment} (hx : x ∈ cov) (hy : y ∈ cov)
    (hdisjoint : List.Disjoint x.segment y.segment) :
    ∀ point ∈ (setup.runOn filters y.part).equityCurve,
      point.timestampMs ∉ x.segment.map Candle.closeTimeMs := by
  intro point hpoint hstamped
  have htime := List.mem_map_of_mem (f := EquityPoint.timestampMs) hpoint
  rw [(h.valid y hy).equityTimes] at htime
  rcases List.mem_map.1 htime with ⟨c, hc, hclose⟩
  rcases List.mem_map.1 hstamped with ⟨d, hd, hclose'⟩
  have hcy : c ∈ y.segment := (h.valid y hy).initial.subset (List.mem_of_mem_drop hc)
  have hforward : c ∈ fwd := (scoredCandles_sublist_forward hwarmup h.segments
    fun z hz => (h.valid z hz).initial).subset (List.mem_flatMap.2 ⟨y, hy, hc⟩)
  have hstored : d ∈ warmup ++ fwd := by
    have hall := List.flatten_splitBy (adjacent hourMs) (warmup ++ fwd)
    have hsegment : x.segment ∈ segmentsOf hourMs (warmup ++ fwd) := by
      rw [← h.segments]
      exact List.mem_map_of_mem hx
    rw [← hall]
    exact List.mem_flatten.2 ⟨x.segment, hsegment, hd⟩
  rcases List.mem_append.1 hstored with hwarm | hlater
  · -- a candle of the warm-up closes before the boundary
    have hbefore := hwarmup.closes d hwarm
    have hboundary := ServedCandles.boundary_le (hfwd.subset hforward)
    have hcandle := exchange.closes c (List.mem_of_mem_filter (hfwd.subset hforward))
    omega
  · have hsame : d = c := List.inj_on_of_nodup_map (nodup_closes_of_sublist hfwd) hlater hforward
      (hclose'.trans hclose.symm)
    exact hdisjoint hd (hsame ▸ hcy)

/-- The stored points of a segment are those of its run. -/
theorem Covers.segmentCurve_eq (h : Covers setup filters (warmup ++ fwd) reads store cov)
    (hwarmup : IsWarmup setup warmup) (hfwd : fwd.Sublist exchange.forward)
    {x : CoveredSegment} (hx : x ∈ cov) :
    segmentCurve store x.segment = (setup.runOn filters x.part).equityCurve := by
  have hordered := ordered_append hwarmup hfwd
  have hdisjoint := (List.nodup_flatMap.1 (h.nodup_segments hordered)).2
  have hown : ∀ point ∈ (setup.runOn filters x.part).equityCurve,
      decide (point.timestampMs ∈ x.segment.map Candle.closeTimeMs) = true := by
    intro point hpoint
    have htime := List.mem_map_of_mem (f := EquityPoint.timestampMs) hpoint
    rw [(h.valid x hx).equityTimes] at htime
    rcases List.mem_map.1 htime with ⟨c, hc, hclose⟩
    have hsegment := (h.valid x hx).initial.subset (List.mem_of_mem_drop hc)
    exact decide_eq_true (hclose ▸ List.mem_map_of_mem hsegment)
  -- no segment before or after this one has a point at its closes
  have hothers : ∀ others : List CoveredSegment, (∀ y ∈ others, y ∈ cov) →
      (∀ y ∈ others, List.Disjoint x.segment y.segment) →
      (others.flatMap fun y => (setup.runOn filters y.part).equityCurve).filter
        (fun point => point.timestampMs ∈ x.segment.map Candle.closeTimeMs) = [] := by
    intro others hmem hapart
    refine List.filter_eq_nil_iff.2 ?_
    intro point hpoint
    rcases List.mem_flatMap.1 hpoint with ⟨y, hy, hcurve⟩
    have helsewhere := h.stamped_elsewhere hwarmup hfwd hx (hmem y hy) (hapart y hy) point hcurve
    exact fun hin => helsewhere (of_decide_eq_true hin)
  rcases List.append_of_mem hx with ⟨front, rest, hsplit⟩
  rw [hsplit] at hdisjoint
  rcases List.pairwise_append.1 hdisjoint with ⟨-, hrest, hfront⟩
  have hbefore := hothers front (fun y hy => by simp [hsplit, hy])
    fun y hy => (hfront y hy x List.mem_cons_self).symm
  have hafter := hothers rest (fun y hy => by simp [hsplit, hy])
    fun y hy => List.rel_of_pairwise_cons hrest hy
  rw [segmentCurve, h.getEquityCurve hwarmup hfwd, h.recorded.equity, runsOf, hsplit,
    List.flatMap_map, List.flatMap_append, List.flatMap_cons, List.filter_append,
    List.filter_append, hbefore, hafter, List.filter_eq_self.2 hown]
  simp

/-- The points of the table, segment by segment, are those of the runs over the parts. -/
theorem Covers.segmentCurves_eq (h : Covers setup filters (warmup ++ fwd) reads store cov)
    (hwarmup : IsWarmup setup warmup) (hfwd : fwd.Sublist exchange.forward) :
    (segmentsOf hourMs (warmup ++ fwd)).map (segmentCurve store) =
      cov.map fun x => (setup.runOn filters x.part).equityCurve := by
  rw [← h.segments, List.map_map]
  exact List.map_congr_left fun x hx => h.segmentCurve_eq hwarmup hfwd hx

/-- Every run starts at the starting equity. -/
theorem CoveredSegment.Valid.curve_starts {x : CoveredSegment} (h : x.Valid setup filters reads) :
    ∀ point ∈ (setup.runOn filters x.part).equityCurve.head?,
      point.equity = setup.startingEquity := by
  by_cases hne : x.part = []
  · rw [hne]
    simp [RunRecords.start]
  · rcases (h.read hne).2.1 with ⟨⟨result, journal⟩, hran⟩
    rcases runSegment_marked hran with ⟨traces, last, hmarked⟩
    have hcurve : (setup.runOn filters x.part).equityCurve = traces.map CandleTrace.point := by
      rw [runOn_eq hran]
      exact hmarked.curve
    rw [hcurve, List.head?_map]
    intro point hpoint
    rcases Option.map_eq_some_iff.1 hpoint with ⟨tr, htr, rfl⟩
    exact hmarked.first tr htr

end Stored

/-! ## Its return and its drawdown -/

section Figures

variable {curves : List (List EquityPoint)} {S : ℚ}

/-- The last segment with a point ends where the table ends, and starts as the table does. -/
theorem latestCurve_ends (hstarts : ∀ curve ∈ curves, ∀ point ∈ curve.head?, point.equity = S) :
    curves.flatten.head?.map EquityPoint.equity =
        (latestCurve curves).head?.map EquityPoint.equity ∧
      curves.flatten.getLast?.map EquityPoint.equity =
        (latestCurve curves).getLast?.map EquityPoint.equity := by
  have hflat := List.flatten_filter_ne_nil (L := curves)
  rw [latestCurve]
  rcases List.eq_nil_or_concat (curves.filter fun curve => curve ≠ []) with
    hnone | ⟨front, latest, hsome⟩
  · rw [hnone] at hflat ⊢
    rw [← hflat]
    exact ⟨rfl, rfl⟩
  · rw [List.concat_eq_append] at hsome
    have hstart : ∀ curve ∈ front ++ [latest], curve ≠ [] ∧
        curve.head?.map EquityPoint.equity = some S := by
      intro curve hcurve
      rw [← hsome] at hcurve
      have hne : curve ≠ [] := by simpa using (List.mem_filter.1 hcurve).2
      rcases List.exists_cons_of_ne_nil hne with ⟨point, rest, rfl⟩
      have hpoint := hstarts _ (List.mem_of_mem_filter hcurve) point rfl
      exact ⟨hne, by rw [List.head?_cons, Option.map_some, hpoint]⟩
    have hlatest := hstart latest (by simp)
    rw [← hflat, hsome, List.getLast?_concat, Option.getD_some, hlatest.2]
    constructor
    · cases front with
      | nil => simpa using hlatest.2
      | cons first others =>
          have hfirst := hstart first (by simp)
          rw [List.cons_append, List.flatten_cons, List.head?_append_of_ne_nil _ hfirst.1]
          exact hfirst.2
    · rw [List.flatten_append, List.flatten_singleton,
        List.getLast?_append_of_ne_nil _ hlatest.1]

theorem equities_flatten (curves : List (List EquityPoint)) :
    equities curves.flatten = (curves.map equities).flatten :=
  List.map_flatten

/-- The drawdown over the table is one inside a segment exactly if no restart lies deeper. -/
theorem drawdown_within_iff (hne : curves ≠ []) :
    (∃ curve ∈ curves, maxDrawdownPct (equities curves.flatten) ≤
        maxDrawdownPct (equities curve)) ↔ RestartsWithin curves := by
  have hdeepest : ∃ curve ∈ curves, ∀ curve' ∈ curves,
      Drawdown.maxDrawdown (equities curve') ≤ Drawdown.maxDrawdown (equities curve) := by
    have hmax := Finset.exists_max_image curves.toFinset
      (fun curve => Drawdown.maxDrawdown (equities curve)) ((List.toFinset_nonempty_iff curves).2 hne)
    simpa only [List.mem_toFinset] using hmax
  rcases hdeepest with ⟨deepest, hmem, hdeepest⟩
  have hbound : ∀ q : ℚ, (∃ curve ∈ curves, q ≤ Drawdown.maxDrawdown (equities curve)) ↔
      q ≤ Drawdown.maxDrawdown (equities deepest) := by
    intro q
    constructor
    · rintro ⟨curve, hcurve, hq⟩
      exact hq.trans (hdeepest curve hcurve)
    · exact fun hq => ⟨deepest, hmem, hq⟩
  have hpct : ∀ values values' : List ℚ, maxDrawdownPct values ≤ maxDrawdownPct values' ↔
      Drawdown.maxDrawdown values ≤ Drawdown.maxDrawdown values' := by
    intro values values'
    rw [maxDrawdownPct_eq, maxDrawdownPct_eq, mul_le_mul_iff_left₀ (by norm_num)]
  have hparts : ∀ part ∈ curves.map equities,
      Drawdown.maxDrawdown part ≤ Drawdown.maxDrawdown (equities deepest) := by
    intro part hpart
    rcases List.mem_map.1 hpart with ⟨curve, hcurve, rfl⟩
    exact hdeepest curve hcurve
  unfold RestartsWithin
  simp only [hpct, hbound, equities_flatten]
  rw [Drawdown.maxDrawdown_flatten_le_iff (Drawdown.maxDrawdown_nonneg _) hparts]
  constructor
  · intro hall earlier curve later hsplit before v after hcurve p hp hhighest
    refine hall (earlier.map equities) (equities curve) (later.map equities) ?_ before v after hcurve
      p hp hhighest
    rw [hsplit, List.map_append, List.map_cons]
  · intro hall earlier part later hsplit
    rcases List.map_eq_append_iff.1 hsplit with ⟨front, others, rfl, rfl, hothers⟩
    rcases List.map_eq_cons_iff.1 hothers with ⟨curve, rest, rfl, rfl, rfl⟩
    exact hall front curve rest rfl

end Figures

theorem summarizeDataGaps_ok {candles : List Candle} (hordered : Ordered candles) (stepMs : ℤ)
    (minRequiredCandles : ℕ) (bootstrapState : Option ShadowBootstrapState) :
    ∃ summary, summarizeDataGaps stepMs minRequiredCandles bootstrapState candles =
      .ok summary := by
  unfold summarizeDataGaps
  by_cases hne : candles = []
  · exact ⟨_, if_pos hne⟩
  · have hsegments : segmentsOf stepMs candles ≠ [] := List.splitBy_ne_nil.2 hne
    have hlatest := List.getLast?_eq_some_getLast hsegments
    have hsegment := List.ne_nil_of_mem_splitBy (List.getLast_mem hsegments)
    rcases List.exists_cons_of_ne_nil hsegment with ⟨first, rest, hfirst⟩
    rw [if_neg hne, partitionIntoSegments_of_ordered hordered hne]
    simp only [bind, Except.bind, hlatest]
    rw [hfirst]
    exact ⟨_, rfl⟩

/-- Over stored candles in order the report is there. -/
theorem buildShadowReport_ok (math : FloatMath) (stepMs : ℤ) (minRequiredCandles : ℕ) {db : ShadowDb}
    (hordered : Ordered (db.candles.getCandles (some ((db.store.bootstrapState.map
      ShadowBootstrapState.warmupStartTimeMs).getD shadowStartBoundaryMs)) none)) :
    ∃ report, buildShadowReport math stepMs minRequiredCandles db = .ok report := by
  rcases summarizeDataGaps_ok hordered stepMs minRequiredCandles db.store.bootstrapState with
    ⟨summary, hsummary⟩
  unfold buildShadowReport
  simp only [hsummary, bind, Except.bind]
  exact ⟨_, rfl⟩

/-- After any schedule of cycles the report is there.  Its return is that of the last segment with a
point, and its drawdown is at most the drawdown inside one segment exactly if no restart lies deeper
below an earlier segment. -/
theorem report_within_segments_iff (math : FloatMath) (setup : ShadowSetup)
    (filters : SymbolFilters) (exchange : ServedCandles) (warmup : List Candle)
    (hrefusal : setup.refusal warmup = .ok none)
    (hcloses : ∀ c ∈ warmup, c.closeTimeMs < shadowStartBoundaryMs) (passes : List ShadowPass) :
    let db := Runs.final (runPass setup filters exchange) (setup.bootstrappedWith warmup) passes
    ∃ report, buildShadowReport math hourMs setup.minRequiredCandles db = .ok report ∧
      (WithinSegments math hourMs (segmentCurves setup db) report.performance ↔
        RestartsWithin (segmentCurves setup db)) := by
  intro db
  have hwarmup := setup.isWarmup hrefusal hcloses
  have hscheduled : Scheduled setup filters exchange warmup 0 [] (setup.bootstrappedWith warmup) :=
    setup.bootstrappedWith_scheduled exchange hrefusal hcloses
  have hfinal := hscheduled.final hwarmup passes
  rcases hfinal.covers with ⟨cov, hcov⟩
  have hfwd := List.take_sublist (0 + arrivedAfter passes) exchange.forward
  have hread := hfinal.candles.getCandles hwarmup
  have hordered := ordered_append hwarmup hfwd
  have hstored : db.candles.getCandles (some ((db.store.bootstrapState.map
      ShadowBootstrapState.warmupStartTimeMs).getD shadowStartBoundaryMs)) none =
        storedCandles exchange warmup (0 + arrivedAfter passes) := by
    rw [hfinal.candles.state, Option.map_some, Option.getD_some]
    exact hread
  rw [← storedCandles, ← hstored] at hordered
  rcases buildShadowReport_ok math hourMs setup.minRequiredCandles hordered with ⟨report, hreport⟩
  refine ⟨report, hreport, ?_⟩
  -- the table is the points of the segments, one segment after the other
  have hcurves : segmentCurves setup db =
      cov.map fun x => (setup.runOn filters x.part).equityCurve := by
    rw [segmentCurves, hread]
    exact hcov.segmentCurves_eq hwarmup hfwd
  have htable : db.store.getEquityCurve = (segmentCurves setup db).flatten := by
    rw [hcov.getEquityCurve hwarmup hfwd, hcov.recorded.equity, runsOf, hcurves, List.flatMap_map,
      List.flatMap_def]
  have hne : segmentCurves setup db ≠ [] := by
    rw [segmentCurves, hread, Ne, List.map_eq_nil_iff]
    exact List.splitBy_ne_nil.2 (by simp [storedCandles, hwarmup.ne_nil])
  have hstarts : ∀ curve ∈ segmentCurves setup db, ∀ point ∈ curve.head?,
      point.equity = setup.startingEquity := by
    rw [hcurves]
    intro curve hcurve
    rcases List.mem_map.1 hcurve with ⟨x, hx, rfl⟩
    exact (hcov.valid x hx).curve_starts
  have hends := latestCurve_ends hstarts
  rw [buildShadowReport_performance hreport, htable, ← drawdown_within_iff hne]
  constructor
  · rintro ⟨-, hdrawdown⟩
    rwa [computePerformanceReport_maxDrawdownPct] at hdrawdown
  · intro hdrawdown
    constructor
    case totalReturn =>
        exact computePerformanceReport_totalReturnPct math hourMs _ _ none [] 0 hends.1 hends.2
    case drawdown => rwa [computePerformanceReport_maxDrawdownPct]

namespace Scenario

def pricedHour (index : ℕ) (openPrice closePrice : ℚ) : Candle :=
  { hourCandle shadowStartBoundaryMs index with
    «open» := openPrice
    high := max openPrice closePrice
    low := min openPrice closePrice
    close := closePrice }

/-- A rise by a fifth in the sixth hour, three hours missing, and two at the price before. -/
def riseBeforeGap : ServedCandles where
  candles := [pricedHour 0 100 100, pricedHour 1 100 100, pricedHour 2 100 100,
    pricedHour 3 100 100, pricedHour 4 100 100, pricedHour 5 100 120, pricedHour 9 100 100,
    pricedHour 10 100 100]
  spaced := by decide
  closes := by decide

def riseFinal : ShadowDb :=
  Runs.final (runPass shadowSetup filters riseBeforeGap) (shadowSetup.bootstrappedWith warmup)
    [.cycle 6 0, .cycle 2 0]

end Scenario

/-- At one price throughout, the segments only lose their costs.  (The setup's strategy is a stand-in
that alternates between BUY and EXIT and needs one candle.) -/
theorem report_within_segments_gapAlone :
    ∃ report, buildShadowReport Scenario.floatMath hourMs 1
        (Scenario.gappedFinal Scenario.gapAlone) = .ok report ∧
      WithinSegments Scenario.floatMath hourMs
        (segmentCurves Scenario.shadowSetup (Scenario.gappedFinal Scenario.gapAlone))
        report.performance := by
  rcases report_within_segments_iff Scenario.floatMath Scenario.shadowSetup Scenario.filters
    Scenario.hoursAroundGap Scenario.warmup (by decide +kernel) (by decide +kernel)
    Scenario.gapAlone with ⟨report, hreport, hiff⟩
  refine ⟨report, hreport, hiff.2 ?_⟩
  refine (drawdown_within_iff ?_).1 ?_
  · decide +kernel
  · decide +kernel

/-- A restart after a profitable segment counts as a loss of two percent, where no segment lost a
tenth of one; again with the alternating stand-in for the strategy. -/
theorem restart_reported_as_drawdown :
    ∃ report, buildShadowReport Scenario.floatMath hourMs 1 Scenario.riseFinal = .ok report ∧
      ¬WithinSegments Scenario.floatMath hourMs
        (segmentCurves Scenario.shadowSetup Scenario.riseFinal) report.performance ∧
      19 / 10 < report.performance.maxDrawdownPct ∧
      ∀ curve ∈ segmentCurves Scenario.shadowSetup Scenario.riseFinal,
        maxDrawdownPct (equities curve) < 1 / 10 := by
  rcases exists_of_isOk (x := buildShadowReport Scenario.floatMath hourMs 1 Scenario.riseFinal)
    (by decide +kernel) with ⟨report, hreport⟩
  have hdrawdown : report.performance.maxDrawdownPct =
      maxDrawdownPct (equities Scenario.riseFinal.store.getEquityCurve) := by
    rw [buildShadowReport_performance hreport]
    exact computePerformanceReport_maxDrawdownPct _ _ _ _ _ _
  have hdeep : 19 / 10 < report.performance.maxDrawdownPct := by
    rw [hdrawdown]
    decide +kernel
  have hshallow : ∀ curve ∈ segmentCurves Scenario.shadowSetup Scenario.riseFinal,
      maxDrawdownPct (equities curve) < 1 / 10 := by
    decide +kernel
  refine ⟨report, hreport, ?_, hdeep, hshallow⟩
  rintro ⟨-, curve, hcurve, hle⟩
  have hcurveShallow := hshallow curve hcurve
  linarith

end TradingAgent
