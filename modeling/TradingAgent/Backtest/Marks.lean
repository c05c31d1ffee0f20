import TradingAgent.Backtest.Gates

/-!
# Marks — what a run records at each close

The equity curve and the portfolio snapshots of a run are two views of the same portfolios, one
after each candle of its loop.

* `CandleTrace.point_equity`: a point is the cash and the base quantity of its snapshot, marked to
  the close of its candle;
* `runSegment_marked`: the first point is the starting equity, the last snapshot is what the
  diagnostics report.
-/

namespace TradingAgent

/-- The snapshot a candle records. -/
def CandleTrace.snapshot (tr : CandleTrace) : PortfolioSnapshot :=
  ⟨tr.closed.state.portfolio.quoteBalance, tr.closed.state.portfolio.baseBalance,
    tr.closed.state.openTrade⟩

/-- What cash and base quantity are worth at a price. -/
def PortfolioSnapshot.worth (snapshot : PortfolioSnapshot) (price : ℚ) : ℚ :=
  snapshot.cashQuote + snapshot.baseQuantity * price

theorem CandleTrace.point_equity (tr : CandleTrace) :
    tr.point.equity = tr.snapshot.worth tr.candle.close := rfl

@[simp] theorem PortfolioState.initial_equity (S price : ℚ) :
    (PortfolioState.initial S).equity price = S := by
  simp [PortfolioState.initial, PortfolioState.equity]

section Marking

variable {env : RunEnv} {segment seen : List Candle} {S : ℚ} {journal j : Journal}
  {r : SegmentRunResult} {tr : CandleTrace}

theorem CandleTrace.Valid.portfolioSnapshots (htr : tr.Valid env seen) :
    tr.closed.portfolioSnapshots = tr.before.portfolioSnapshots ++ [tr.snapshot] := by
  rcases htr.marks with ⟨signal, -, hclosed⟩
  have hsnapshots : tr.guarded.portfolioSnapshots = tr.before.portfolioSnapshots := by
    rw [(protectiveExit_frame htr.protects).snapshots, (fillPending_frame htr.fills).snapshots,
      htr.atOpen_eq, rollDay_portfolioSnapshots]
  rw [CandleTrace.snapshot, hclosed]
  exact congrArg (· ++ [_]) hsnapshots

/-- With nothing pending and no position a candle leaves the portfolio as it is. -/
theorem CandleTrace.Valid.idle (htr : tr.Valid env seen) (hpending : tr.before.pendingSignal = none)
    (hflat : tr.before.state.portfolio.positionSide = .flat) :
    tr.closed.state.portfolio = tr.before.state.portfolio := by
  have hopen : tr.atOpen.state.portfolio = tr.before.state.portfolio := by
    rw [htr.atOpen_eq]
    exact rollDay_portfolio
  have hfilled : tr.filled = tr.atOpen := by
    rcases fillPending_cases htr.fills with ⟨-, hsame⟩ | ⟨signalType, m, hsome, -⟩
    · exact hsame
    · rw [htr.atOpen_eq] at hsome
      exact absurd (hpending.symm.trans hsome) (by simp)
  have hguarded : tr.guarded = tr.filled := by
    rcases protectiveExit_cases htr.protects with hsame | ⟨e, -⟩
    · exact hsame
    · have hlong := e.long
      rw [hfilled, hopen, hflat] at hlong
      cases hlong
  rcases htr.marks with ⟨signal, -, hclosed⟩
  calc tr.closed.state.portfolio = tr.guarded.state.portfolio := by rw [hclosed]; rfl
    _ = tr.atOpen.state.portfolio := by rw [hguarded, hfilled]
    _ = tr.before.state.portfolio := hopen

/-- The records of a loop that has processed the candles of `hist`. -/
structure MarkedBy (S : ℚ) (hist : List CandleTrace) (v : LoopVars) : Prop where
  curve : v.equityCurve = hist.map CandleTrace.point
  snapshots : v.portfolioSnapshots = hist.map CandleTrace.snapshot
  first : ∀ tr ∈ hist.head?, tr.point.equity = S
  last : ∀ tr ∈ hist.getLast?, tr.closed = v
  start : hist = [] → v.pendingSignal = none ∧ v.state.portfolio = .initial S

theorem MarkedBy.step {hist : List CandleTrace} (h : MarkedBy S hist tr.before)
    (htr : tr.Valid env seen) : MarkedBy S (hist ++ [tr]) tr.closed where
  curve := by rw [htr.equityCurve, h.curve, List.map_append]; rfl
  snapshots := by rw [htr.portfolioSnapshots, h.snapshots, List.map_append]; rfl
  first := by
    intro first hfirst
    cases hist with
    | nil =>
        cases hfirst
        rcases h.start rfl with ⟨hpending, hportfolio⟩
        have hidle := htr.idle hpending (by rw [hportfolio]; rfl)
        rw [CandleTrace.point, hidle, hportfolio, PortfolioState.initial_equity]
    | cons old hist => exact h.first first hfirst
  last := by
    intro last hlast
    rw [List.getLast?_concat] at hlast
    rw [Option.mem_some.1 hlast]
  start := by simp

/-- What a run that returns reports: the marks of its candles, and the last of them. -/
structure Marked (S : ℚ) (segment : List Candle) (minRequired : ℕ) (traces : List CandleTrace)
    (last : CandleTrace) (r : SegmentRunResult) : Prop where
  candles : traces.map CandleTrace.candle = segment.drop (minRequired - 1)
  curve : r.equityCurve = traces.map CandleTrace.point
  snapshots : r.portfolioSnapshots = traces.map CandleTrace.snapshot
  first : ∀ tr ∈ traces.head?, tr.point.equity = S
  ends : traces.getLast? = some last
  lastCandle : segment.getLast? = some last.candle
  cash : r.diagnostics.endingCashQuote = last.snapshot.cashQuote
  base : r.diagnostics.endingBaseQuantity = last.snapshot.baseQuantity
  equity : r.diagnostics.endingEquity = last.point.equity

theorem runSegment_marked (h : runSegment env segment S journal = .ok (r, j)) :
    ∃ traces last, Marked S segment env.minRequired traces last r := by
  rcases runSegment_traced h with ⟨traces, final, v, hfinal, htrace, rfl, rfl⟩
  have hrun := traceSegment_induct (MarkedBy S) htrace
    (fun first _ => ⟨rfl, rfl, by simp, by simp, fun _ => ⟨rfl, rfl⟩⟩)
    (fun hist seen tr rest htr hmarked _ => hmarked.step htr)
  rcases hrun with ⟨hmarked, hcandles⟩
  have hread : segment.drop (env.minRequired - 1) ≠ [] := by
    rcases runSegment_eq_ok h with ⟨first, -, -, hfirst, -⟩
    have hlt := (List.getElem?_eq_some_iff.1 hfirst).1
    exact List.ne_nil_of_length_pos (by rw [List.length_drop]; omega)
  have hne : traces ≠ [] := by
    rintro rfl
    exact hread hcandles.symm
  have hlast := List.getLast?_eq_some_getLast hne
  generalize traces.getLast hne = last at hlast
  have hclosed := hmarked.last last hlast
  -- the last candle of the loop is the last of the segment
  have hcandle : some last.candle = some final := by
    calc some last.candle = (traces.map CandleTrace.candle).getLast? := by
          rw [List.getLast?_map, hlast, Option.map_some]
      _ = segment.getLast? := by
          rw [hcandles, List.getLast?_drop, if_neg (fun hle => hread (List.drop_eq_nil_of_le hle))]
      _ = some final := hfinal
  cases Option.some.inj hcandle
  subst hclosed
  exact ⟨traces, last, hcandles, hmarked.curve, hmarked.snapshots, hmarked.first, hlast, hfinal, rfl,
    rfl, rfl⟩

end Marking

end TradingAgent
