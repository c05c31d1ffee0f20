import TradingAgent.Backtest.Journaling
import TradingAgent.Backtest.Marks
import TradingAgent.Backtest.RunBacktest

/-!
# Accounting — the identity of the extended reports

Every extended report compares a cash balance, a base quantity and a mark price with an ending
equity.  Each figure is read at a candle of its run: the books at a snapshot, the mark at a close,
the equity at a point of the curve.

* `Marked.identityHolds`: figures read at one instant satisfy the identity;
* `splitInstants` are the instants the report of a split is read at (`splitReport_readAt`), and
  `splitInstants_same_iff` says when they are one;
* `scanSegments_sound` is what the loop over the segments keeps;
* `accounting_identity_iff`: every report is read at one instant and satisfies the identity exactly
  if the validation window has a candle or nothing comes before it.
-/

namespace TradingAgent

/-! ## The instant of a figure -/

/-- Where the figures of a report are read, in numbers of candles of the loop: the snapshot of its
cash and base quantity, the close of its mark price, the point of its equity. -/
structure Instants where
  books : ℕ
  mark : ℕ
  equity : ℕ
  deriving DecidableEq, Repr

/-- All figures are read at one candle. -/
def Instants.Same (instants : Instants) : Prop :=
  instants.books = instants.mark ∧ instants.mark = instants.equity

/-- The figures compared are those of the given instants of a run over `candles`. -/
structure AccountingIdentity.ReadAt (accounting : AccountingIdentity) (candles : List Candle)
    (run : SegmentRunResult) (instants : Instants) : Prop where
  books : ∃ snapshot, run.portfolioSnapshots[instants.books]? = some snapshot ∧
    accounting.endingCashQuote = snapshot.cashQuote ∧
    accounting.endingBaseQuantity = snapshot.baseQuantity
  mark : candles[instants.mark]?.map Candle.close = some accounting.finalMarkPrice
  equity : run.equityCurve[instants.equity]?.map EquityPoint.equity =
    some accounting.reportedEndingEquity

section Reading

variable {segment : List Candle} {result : SegmentRunResult} {S : ℚ} {minRequired : ℕ}
  {traces : List CandleTrace} {last : CandleTrace}

theorem Marked.readAt (h : Marked S segment minRequired traces last result) (instants : Instants)
    {books mark equity : CandleTrace} (hbooks : traces[instants.books]? = some books)
    (hmark : traces[instants.mark]? = some mark)
    (hequity : traces[instants.equity]? = some equity) :
    (computeAccountingIdentity books.snapshot.cashQuote books.snapshot.baseQuantity
      mark.candle.close equity.point.equity).ReadAt (segment.drop (minRequired - 1)) result
        instants := by
  refine ⟨⟨books.snapshot, ?_, rfl, rfl⟩, ?_, ?_⟩
  · rw [h.snapshots, List.getElem?_map, hbooks, Option.map_some]
  · rw [← h.candles, List.getElem?_map, hmark]
    rfl
  · rw [h.curve, List.getElem?_map, hequity]
    rfl

/-- Figures that are read at one instant satisfy the identity: the equity of a point is the worth of
the snapshot beside it at the close beside it. -/
theorem Marked.identityHolds (h : Marked S segment minRequired traces last result)
    {instants : Instants} (hsame : instants.Same) {accounting : AccountingIdentity}
    (hcomputed : accounting = computeAccountingIdentity accounting.endingCashQuote
      accounting.endingBaseQuantity accounting.finalMarkPrice accounting.reportedEndingEquity)
    (hread : accounting.ReadAt (segment.drop (minRequired - 1)) result instants) :
    accounting.identityHolds = true := by
  rcases instants with ⟨i, j, k⟩
  rcases hsame with ⟨hij, hjk⟩
  dsimp only at hij hjk
  subst hij hjk
  rcases hread.books with ⟨snapshot, hsnapshot, hcash, hbase⟩
  have hmark := hread.mark
  have hequity := hread.equity
  rw [h.snapshots, List.getElem?_map] at hsnapshot
  rcases Option.map_eq_some_iff.1 hsnapshot with ⟨tr, htr, rfl⟩
  rw [← h.candles, List.getElem?_map, htr] at hmark
  rw [h.curve, List.getElem?_map, htr] at hequity
  have hprice : tr.candle.close = accounting.finalMarkPrice := Option.some.inj hmark
  have hworth : tr.point.equity = accounting.reportedEndingEquity := Option.some.inj hequity
  have hequal : accounting.endingCashQuote +
      accounting.endingBaseQuantity * accounting.finalMarkPrice =
        accounting.reportedEndingEquity := by
    rw [hcash, hbase, ← hprice, ← hworth, tr.point_equity]
    rfl
  rw [hcomputed]
  simp [computeAccountingIdentity, hequal]

theorem Marked.length_traces (h : Marked S segment minRequired traces last result) :
    traces.length = segment.length - (minRequired - 1) := by
  rw [← List.length_drop, ← h.candles, List.length_map]

theorem Marked.getElem?_last (h : Marked S segment minRequired traces last result) :
    traces[segment.length - (minRequired - 1) - 1]? = some last := by
  rw [← h.length_traces, ← List.getLast?_eq_getElem?, h.ends]

end Reading

section Reports

variable {σ : Type} {sections : ExtendedInputs → σ} {setup : BacktestSetup}
  {segment : List Candle} {result : SegmentRunResult} {S : ℚ} {traces : List CandleTrace}
  {last : CandleTrace}

/-- The accounting of a report compares the figures of its window. -/
theorem buildExtendedDiagnostics_accounting (trades : List Trade) (equityCurve : List EquityPoint)
    (window : WindowEnd) (startingEquity : ℚ) (report : PerformanceReport)
    (runDiagnostics : RunDiagnostics) (alreadyConsumed : Bool) (scopeNote : Option String) :
    (buildExtendedDiagnostics sections trades equityCurve window startingEquity report
      runDiagnostics alreadyConsumed scopeNote).accounting =
        computeAccountingIdentity window.endingCashQuote window.endingBaseQuantity
          window.finalMarkPrice window.reportedEndingEquity := rfl

/-- The end of a run is read at its last candle. -/
theorem windowEnd_readAt {minRequired : ℕ}
    (hmarked : Marked S segment minRequired traces last result) {lastCandle : Candle}
    (hlast : segment.getLast? = some lastCandle) :
    (computeAccountingIdentity (result.windowEnd lastCandle).endingCashQuote
      (result.windowEnd lastCandle).endingBaseQuantity (result.windowEnd lastCandle).finalMarkPrice
      (result.windowEnd lastCandle).reportedEndingEquity).ReadAt
        (segment.drop (minRequired - 1)) result
        ⟨segment.length - (minRequired - 1) - 1, segment.length - (minRequired - 1) - 1,
          segment.length - (minRequired - 1) - 1⟩ := by
  have hcandle : lastCandle = last.candle := Option.some.inj (hlast.symm.trans hmarked.lastCandle)
  have hend := hmarked.getElem?_last
  let atEnd := segment.length - (minRequired - 1) - 1
  have hread := hmarked.readAt ⟨atEnd, atEnd, atEnd⟩ hend hend hend
  rw [← hmarked.cash, ← hmarked.base, ← hmarked.equity, ← hcandle] at hread
  exact hread

/-! ## One split -/

theorem getLast?_slice {α : Type} {values : List α} {start stop : ℕ} {x : α} (hlt : start < stop)
    (hlast : values[stop - 1]? = some x) : (slice values start stop).getLast? = some x := by
  have hstop := (List.getElem?_eq_some_iff.1 hlast).1
  have hlength : (values.take stop).length = stop := by
    rw [List.length_take]
    omega
  rw [slice, List.getLast?_drop, if_neg (by omega), List.getLast?_eq_getElem?, hlength,
    List.getElem?_take_of_lt (by omega), hlast]

theorem slice_eq_nil {α : Type} (values : List α) {start stop : ℕ} (hle : stop ≤ start) :
    slice values start stop = [] :=
  List.drop_eq_nil_of_le ((List.length_take_le stop values).trans hle)

/-- Where the report of the candles from `start` up to `stop` is read, in a loop that begins after
`offset` candles.  Its own last candle is number `stop - offset - 1` of the loop; without a candle
the mark and the equity are those of the end of the run, and so are the books where no snapshot comes
before. -/
def Instants.ofWindow (offset length start stop : ℕ) : Instants where
  books := if offset < stop ∧ stop ≤ length then stop - offset - 1 else length - offset - 1
  mark := if start < stop then stop - offset - 1 else length - offset - 1
  equity := if start < stop then stop - offset - 1 else length - offset - 1

theorem Instants.same_ofWindow_iff {offset length start stop : ℕ} (hlong : offset < length)
    (hstart : offset ≤ start) (hstop : start < stop → stop ≤ length) :
    (Instants.ofWindow offset length start stop).Same ↔
      start < stop ∨ stop ≤ offset ∨ length ≤ stop := by
  unfold Instants.ofWindow Instants.Same
  dsimp only
  split_ifs <;> omega

/-- Where the report of a split is read. -/
def BacktestSetup.splitInstants (setup : BacktestSetup) (segment : List Candle) (split : Split) :
    Instants :=
  .ofWindow (setup.minRequired - 1) segment.length (setup.bounds segment split).1
    (setup.bounds segment split).2

theorem bounds_start_le (setup : BacktestSetup) (segment : List Candle) (split : Split) :
    setup.minRequired - 1 ≤ (setup.bounds segment split).1 := by
  have htrain : setup.minRequired - 1 ≤ setup.trainEnd segment := Nat.le_add_right _ _
  have hvalidation : setup.trainEnd segment ≤ setup.validationEnd segment := Nat.le_add_right _ _
  cases split with
  | train => exact le_rfl
  | validation => exact htrain
  | test => exact htrain.trans hvalidation
  | overall => exact le_rfl

theorem splitSnapshot_of_trace (hmarked : Marked S segment setup.minRequired traces last result)
    {stop : ℕ} (hlt : setup.minRequired - 1 < stop) :
    splitSnapshot result (setup.minRequired - 1) stop =
      traces[stop - (setup.minRequired - 1) - 1]?.map CandleTrace.snapshot := by
  rw [splitSnapshot, if_pos hlt, hmarked.snapshots, List.getElem?_map]

/-- Every report of a split is read at the instants of the split. -/
theorem splitReport_readAt (hmarked : Marked S segment setup.minRequired traces last result)
    {split : Split} {report : PerformanceReport} {extended : ExtendedDiagnosticsReport σ}
    (h : splitReport setup sections segment result split = .ok (report, extended)) :
    extended.accounting.ReadAt (segment.drop (setup.minRequired - 1)) result
      (setup.splitInstants segment split) := by
  have hstart := bounds_start_le setup segment split
  have hlength := hmarked.length_traces
  have hend := hmarked.getElem?_last
  unfold BacktestSetup.splitInstants Instants.ofWindow
  generalize hbounds : setup.bounds segment split = bounds at hstart
  rcases bounds with ⟨start, stop⟩
  unfold splitReport at h
  rw [hbounds] at h
  simp only at h hstart ⊢
  split at h
  · cases h
  rename_i endCandle hendCandle
  cases h
  rw [buildExtendedDiagnostics_accounting]
  by_cases hlt : start < stop
  · -- the snapshot, the point and the mark are those of the last candle of the split
    rw [if_pos hlt] at hendCandle
    have hstop := (List.getElem?_eq_some_iff.1 hendCandle).1
    have hread : (traces.map CandleTrace.candle)[stop - (setup.minRequired - 1) - 1]? =
        some endCandle := by
      rw [hmarked.candles, List.getElem?_drop, ← hendCandle]
      congr 1
      omega
    rw [List.getElem?_map] at hread
    rcases Option.map_eq_some_iff.1 hread with ⟨tr, htr, rfl⟩
    have hsnapshot : splitSnapshot result (setup.minRequired - 1) stop = some tr.snapshot := by
      rw [splitSnapshot_of_trace hmarked (by omega), htr, Option.map_some]
    have hpoint : (slice result.equityCurve (start - (setup.minRequired - 1))
        (stop - (setup.minRequired - 1))).getLast? = some tr.point := by
      refine getLast?_slice (by omega) ?_
      rw [hmarked.curve, List.getElem?_map, htr, Option.map_some]
    rw [if_pos hlt, if_pos ⟨by omega, by omega⟩]
    simp only [splitEnd, hsnapshot, hpoint, Option.map_some, Option.getD_some]
    exact hmarked.readAt _ htr htr htr
  · -- nothing of the split is left but the snapshot before it
    rw [if_neg hlt, hmarked.lastCandle] at hendCandle
    cases hendCandle
    rw [slice_eq_nil _ (by omega), if_neg hlt]
    by_cases hbefore : setup.minRequired - 1 < stop ∧ stop ≤ segment.length
    · rcases hbefore with ⟨hoffset, hle⟩
      rcases List.getElem?_eq_some_iff.2 ⟨(by omega : stop - (setup.minRequired - 1) - 1 <
        traces.length), rfl⟩ with htr
      rw [if_pos ⟨hoffset, hle⟩]
      simp only [splitEnd, splitSnapshot_of_trace hmarked hoffset, htr, Option.map_some,
        Option.getD_some, List.getLast?_nil, Option.map_none, Option.getD_none]
      rw [hmarked.equity]
      exact hmarked.readAt _ htr hend hend
    · -- no snapshot is before it either
      have hnone : splitSnapshot result (setup.minRequired - 1) stop = none := by
        by_cases hoffset : setup.minRequired - 1 < stop
        · rw [splitSnapshot_of_trace hmarked hoffset, List.getElem?_eq_none (by omega),
            Option.map_none]
        · rw [splitSnapshot, if_neg hoffset]
      rw [if_neg hbefore]
      simp only [splitEnd, hnone, List.getLast?_nil, Option.map_none, Option.getD_none]
      rw [hmarked.cash, hmarked.base, hmarked.equity]
      exact hmarked.readAt _ hend hend hend

/-- The validation window has a candle, or no candle of the run comes before it, or none after. -/
def BacktestSetup.ValidationReadable (setup : BacktestSetup) (segment : List Candle) : Prop :=
  setup.trainEnd segment < setup.validationEnd segment ∨
    setup.trainEnd segment = setup.minRequired - 1 ∨ segment.length ≤ setup.trainEnd segment

/-- Only the report of a validation window can be read at two instants. -/
theorem splitInstants_same_iff (hlong : setup.minRequired ≤ segment.length) (split : Split)
    (hstop : (setup.bounds segment split).1 < (setup.bounds segment split).2 →
      (setup.bounds segment split).2 ≤ segment.length) :
    (setup.splitInstants segment split).Same ↔
      (split = .validation → setup.ValidationReadable segment) := by
  have hpos : 0 < setup.minRequired := Nat.succ_pos _
  have htrain : setup.minRequired - 1 ≤ setup.trainEnd segment := Nat.le_add_right _ _
  have hvalidation : setup.trainEnd segment ≤ setup.validationEnd segment := Nat.le_add_right _ _
  rw [BacktestSetup.splitInstants,
    Instants.same_ofWindow_iff (by omega) (bounds_start_le setup segment split) hstop]
  unfold BacktestSetup.ValidationReadable
  cases split with
  | train =>
      simp only [BacktestSetup.bounds, reduceCtorEq, false_imp_iff, iff_true]
      omega
  | validation =>
      simp only [BacktestSetup.bounds, true_imp_iff]
      omega
  | test =>
      simp only [BacktestSetup.bounds, reduceCtorEq, false_imp_iff, iff_true]
      omega
  | overall =>
      simp only [BacktestSetup.bounds, reduceCtorEq, false_imp_iff, iff_true]
      omega

theorem splitReport_computed {split : Split}
    {report : PerformanceReport × ExtendedDiagnosticsReport σ}
    (h : splitReport setup sections segment result split = .ok report) :
    report.2.accounting = computeAccountingIdentity report.2.accounting.endingCashQuote
      report.2.accounting.endingBaseQuantity report.2.accounting.finalMarkPrice
      report.2.accounting.reportedEndingEquity := by
  unfold splitReport at h
  simp only at h
  split at h
  · cases h
  · cases h
    rfl

/-- A split with a candle that has a report ends within the segment. -/
theorem stop_le_of_report {split : Split} {report : PerformanceReport × ExtendedDiagnosticsReport σ}
    (h : splitReport setup sections segment result split = .ok report)
    (hlt : (setup.bounds segment split).1 < (setup.bounds segment split).2) :
    (setup.bounds segment split).2 ≤ segment.length := by
  generalize hbounds : setup.bounds segment split = bounds at hlt
  rcases bounds with ⟨start, stop⟩
  dsimp only at hlt ⊢
  unfold splitReport at h
  rw [hbounds] at h
  simp only at h
  split at h
  · cases h
  · rename_i endCandle hend
    rw [if_pos hlt] at hend
    have hread := (List.getElem?_eq_some_iff.1 hend).1
    omega

end Reports

/-! ## The loop over the segments -/

namespace BacktestSetup

variable (setup : BacktestSetup)

/-- `run_segment` over a segment, without a journal. -/
def evaluate (segment : List Candle) : Except PyError SegmentRunResult :=
  (runSegment setup.env segment setup.startingEquity).map Prod.fst

/-- Whether the run over the segment ends with a position. -/
def endsOpen (segment : List Candle) : Bool :=
  match setup.evaluate segment with
  | .ok result => result.endsWithOpenPosition
  | .error _ => false

/-- Whether the run over the segment is part of the result: the segment is long enough, and does not
end with a position across a gap where such segments are excluded. -/
def keeps (isLast : Bool) (segment : List Candle) : Bool :=
  decide (setup.minRequired ≤ segment.length) &&
    !(setup.endsOpen segment && !isLast && setup.splitConfig.excludeOpenPositionSegments)

def keptSegments : List (List Candle) → List (List Candle)
  | [] => []
  | segment :: rest =>
      (if setup.keeps rest.isEmpty segment then [segment] else []) ++ keptSegments rest

theorem keptSegments_subset (segments : List (List Candle)) :
    setup.keptSegments segments ⊆ segments := by
  induction segments with
  | nil => exact List.Subset.refl _
  | cons segment rest ih =>
      rw [keptSegments]
      refine List.append_subset.2 ⟨?_, List.subset_cons_of_subset _ ih⟩
      split <;> simp

variable {setup} {segment : List Candle} {result : SegmentRunResult} {journal j : Journal}

theorem evaluate_eq (h : runSegment setup.env segment setup.startingEquity journal =
    .ok (result, j)) : setup.evaluate segment = .ok result := by
  rw [evaluate, runSegment_unjournaled h]
  rfl

theorem exists_run_of_evaluate (h : setup.evaluate segment = .ok result) :
    ∃ j, runSegment setup.env segment setup.startingEquity = .ok (result, j) := by
  unfold evaluate at h
  cases hrun : runSegment setup.env segment setup.startingEquity with
  | error e => simp [hrun, Except.map] at h
  | ok ran =>
      rw [hrun] at h
      cases h
      exact ⟨ran.2, rfl⟩

end BacktestSetup

/-- The figures compared are those of the given instants of the run over the segment. -/
def AccountingIdentity.ReadFrom (accounting : AccountingIdentity) (setup : BacktestSetup)
    (segment : List Candle) (instants : Instants) : Prop :=
  ∃ run, setup.evaluate segment = .ok run ∧
    accounting.ReadAt (segment.drop (setup.minRequired - 1)) run instants

/-- The four figures of a report belong to one instant of the run over the segment, and satisfy the
identity. -/
def ExtendedDiagnosticsReport.AtOneInstant {σ : Type} (extended : ExtendedDiagnosticsReport σ)
    (setup : BacktestSetup) (segment : List Candle) : Prop :=
  ∃ instants, instants.Same ∧ extended.accounting.ReadFrom setup segment instants ∧
    extended.accounting.identityHolds = true

/-- The report of a whole run is read at its last candle. -/
theorem buildExtendedDiagnostics_atOneInstant {σ : Type} (sections : ExtendedInputs → σ)
    {setup : BacktestSetup} {segment : List Candle} {result : SegmentRunResult}
    {journal j : Journal}
    (hrun : runSegment setup.env segment setup.startingEquity journal = .ok (result, j))
    {last : Candle} (hlast : segment.getLast? = some last) (trades : List Trade)
    (equityCurve : List EquityPoint) (startingEquity : ℚ) (report : PerformanceReport)
    (runDiagnostics : RunDiagnostics) (alreadyConsumed : Bool) (scopeNote : Option String) :
    (buildExtendedDiagnostics sections trades equityCurve (result.windowEnd last) startingEquity
      report runDiagnostics alreadyConsumed scopeNote).AtOneInstant setup segment := by
  rcases runSegment_marked hrun with ⟨traces, tr, hmarked⟩
  have hread := windowEnd_readAt hmarked hlast
  have hsame : Instants.Same ⟨segment.length - (setup.env.minRequired - 1) - 1,
      segment.length - (setup.env.minRequired - 1) - 1,
      segment.length - (setup.env.minRequired - 1) - 1⟩ := ⟨rfl, rfl⟩
  exact ⟨_, hsame, ⟨result, BacktestSetup.evaluate_eq hrun, hread⟩,
    hmarked.identityHolds hsame rfl hread⟩

section Scan

variable {σ : Type} {sections : ExtendedInputs → σ} {setup : BacktestSetup}
  {segment : List Candle} {all kept : List (List Candle)} {v v' : ScanVars σ}

/-- Each report so far is about one instant of a segment, and the runs so far are those over the
segments kept. -/
structure ScanVars.Sound (setup : BacktestSetup) (all kept : List (List Candle))
    (v : ScanVars σ) : Prop where
  instants : ∀ report ∈ v.segmentReports, ∀ extended ∈ report.extended,
    ∃ segment ∈ all, extended.AtOneInstant setup segment
  evaluated : ∀ used ∈ v.usedResults, setup.minRequired ≤ used.segment.length ∧
    setup.evaluate used.segment = .ok used.result
  kept : v.usedResults.map UsedResult.segment = kept

theorem scanSegment_sound (h : v.Sound setup all kept) (hmem : segment ∈ all) {isLast : Bool}
    {index : ℕ} (hscan : scanSegment setup sections isLast index segment v = .ok v') :
    v'.Sound setup all (kept ++ if setup.keeps isLast segment then [segment] else []) := by
  unfold scanSegment at hscan
  split at hscan
  · -- a segment that is too short has a report without an extended one
    rename_i hshort
    cases hscan
    have hskip : setup.keeps isLast segment = false := by
      simp [BacktestSetup.keeps, hshort]
    constructor
    case instants =>
        intro report hreport extended hextended
        rcases List.mem_append.1 hreport with hold | hnew
        · exact h.instants report hold extended hextended
        · rw [List.mem_singleton.1 hnew] at hextended
          cases hextended
    case evaluated => exact h.evaluated
    case kept => simp [hskip, h.kept]
  · rename_i hlong
    cases hrun : runSegment setup.env segment setup.startingEquity v.journal with
    | error e => simp [hrun, bind, Except.bind] at hscan
    | ok ran =>
        rcases ran with ⟨result, journal⟩
        simp only [hrun, bind, Except.bind] at hscan
        split at hscan
        · rename_i first last hfirst hlast
          cases hscan
          have hevaluate := BacktestSetup.evaluate_eq hrun
          have hkeeps : setup.keeps isLast segment =
              !(result.endsWithOpenPosition && !isLast &&
                setup.splitConfig.excludeOpenPositionSegments) := by
            simp [BacktestSetup.keeps, BacktestSetup.endsOpen, hevaluate, not_lt.1 hlong]
          rw [hkeeps]
          generalize (result.endsWithOpenPosition && !isLast &&
            setup.splitConfig.excludeOpenPositionSegments) = exclude
          constructor
          case instants =>
              intro report hreport extended hextended
              rcases List.mem_append.1 hreport with hold | hnew
              · exact h.instants report hold extended hextended
              · rw [List.mem_singleton.1 hnew] at hextended
                cases hextended
                exact ⟨segment, hmem,
                  buildExtendedDiagnostics_atOneInstant sections hrun hlast _ _ _ _ _ _ _⟩
          case evaluated =>
              intro used hused
              cases exclude with
              | true => exact h.evaluated used hused
              | false =>
                  rcases List.mem_append.1 hused with hold | hnew
                  · exact h.evaluated used hold
                  · rw [List.mem_singleton.1 hnew]
                    exact ⟨not_lt.1 hlong, hevaluate⟩
          case kept =>
              cases exclude with
              | true => simp [h.kept]
              | false => simp [h.kept]
        · cases hscan

theorem scanSegments_sound {segments : List (List Candle)} {index : ℕ}
    (h : v.Sound setup all kept) (hsubset : segments ⊆ all)
    (hscan : scanSegments setup sections index segments v = .ok v') :
    v'.Sound setup all (kept ++ setup.keptSegments segments) := by
  induction segments generalizing index kept v with
  | nil =>
      cases hscan
      rw [BacktestSetup.keptSegments, List.append_nil]
      exact h
  | cons segment rest ih =>
      rw [scanSegments] at hscan
      cases hstep : scanSegment setup sections rest.isEmpty index segment v with
      | error e => simp [hstep, bind, Except.bind] at hscan
      | ok w =>
          simp only [hstep, bind, Except.bind] at hscan
          rcases List.cons_subset.1 hsubset with ⟨hmem, hrestSubset⟩
          have hrest := ih (scanSegment_sound h hmem hstep) hrestSubset hscan
          rwa [List.append_assoc] at hrest

end Scan

/-! ## The whole backtest -/

/-- Each report of a split is read at the instants of the split, in the run over the only segment
kept. -/
def BacktestResult.ReadAsSplit {σ : Type} (result : BacktestResult σ) (setup : BacktestSetup)
    (segments : List (List Candle)) : Prop :=
  ∀ entry ∈ result.extendedReports, ∃ segment, setup.keptSegments segments = [segment] ∧
    entry.2.accounting.ReadFrom setup segment (setup.splitInstants segment entry.1)

/-- The figures of every extended report belong to one instant and satisfy the accounting identity:
the report of each segment, and the report of each split at the instants it is read at. -/
structure BacktestResult.AtOneInstant {σ : Type} (result : BacktestResult σ) (setup : BacktestSetup)
    (segments : List (List Candle)) : Prop where
  ofSegments : ∀ report ∈ result.segments, ∀ extended ∈ report.extended,
    ∃ segment ∈ segments, extended.AtOneInstant setup segment
  ofSplits : ∀ entry ∈ result.extendedReports, ∃ segment, setup.keptSegments segments = [segment] ∧
    (setup.splitInstants segment entry.1).Same ∧
      entry.2.accounting.ReadFrom setup segment (setup.splitInstants segment entry.1) ∧
        entry.2.accounting.identityHolds = true

/-- Where one segment alone is kept, its validation window can be read at one instant. -/
def BacktestSetup.ValidationsReadable (setup : BacktestSetup) (segments : List (List Candle)) :
    Prop :=
  ∀ segment, setup.keptSegments segments = [segment] → setup.ValidationReadable segment

section Result

variable {σ : Type} {sections : ExtendedInputs → σ} {setup : BacktestSetup}
  {segment : List Candle} {result : SegmentRunResult} {segments : List (List Candle)}
  {v : ScanVars σ}

/-- A report of a split is read at the instants of the split; where these are one, its identity
holds. -/
theorem splitReport_sound {journal j : Journal}
    (hrun : runSegment setup.env segment setup.startingEquity journal = .ok (result, j))
    {split : Split} {report : PerformanceReport × ExtendedDiagnosticsReport σ}
    (h : splitReport setup sections segment result split = .ok report) :
    report.2.accounting.ReadFrom setup segment (setup.splitInstants segment split) ∧
      ((setup.splitInstants segment split).Same → report.2.accounting.identityHolds = true) := by
  rcases runSegment_marked hrun with ⟨traces, tr, hmarked⟩
  have hread := splitReport_readAt hmarked h
  refine ⟨⟨result, BacktestSetup.evaluate_eq hrun, hread⟩, ?_⟩
  intro hsame
  exact hmarked.identityHolds hsame (splitReport_computed h) hread

/-- What the result of one used run holds. -/
theorem buildBacktestResult_only {gaps : List GapRecord} {used : UsedResult}
    {r : BacktestResult σ} (honly : v.usedResults = [used])
    (h : buildBacktestResult setup sections gaps v = .ok r) :
    ∃ train validation test overall,
      splitReport setup sections used.segment used.result .train = .ok train ∧
      splitReport setup sections used.segment used.result .validation = .ok validation ∧
      splitReport setup sections used.segment used.result .test = .ok test ∧
      splitReport setup sections used.segment used.result .overall = .ok overall ∧
      r.segments = v.segmentReports ∧
      r.extendedReports = [(.train, train.2), (.validation, validation.2), (.test, test.2),
        (.overall, overall.2)] := by
  unfold buildBacktestResult at h
  rw [honly] at h
  simp only at h
  rcases exists_of_bind_ok h with ⟨train, htrain, h⟩
  rcases exists_of_bind_ok h with ⟨validation, hvalidation, h⟩
  rcases exists_of_bind_ok h with ⟨test, htest, h⟩
  rcases exists_of_bind_ok h with ⟨overall, hoverall, h⟩
  cases h
  exact ⟨train, validation, test, overall, htrain, hvalidation, htest, hoverall, rfl, rfl⟩

/-- The result of the loop reads every split at its instants, and these are one exactly if the
validation windows are readable. -/
theorem buildBacktestResult_sound {gaps : List GapRecord} {r : BacktestResult σ}
    (hsound : v.Sound setup segments (setup.keptSegments segments))
    (h : buildBacktestResult setup sections gaps v = .ok r) :
    r.ReadAsSplit setup segments ∧
      (r.AtOneInstant setup segments ↔ setup.ValidationsReadable segments) := by
  have hkept := hsound.kept
  match hused : v.usedResults with
  | [] =>
      rw [hused] at hkept
      simp only [buildBacktestResult, hused] at h
      cases h
      refine ⟨by simp [BacktestResult.ReadAsSplit], iff_of_true ⟨hsound.instants, by simp⟩ ?_⟩
      intro segment honly
      rw [honly] at hkept
      cases hkept
  | [used] =>
      rw [hused] at hkept
      rcases buildBacktestResult_only hused h with ⟨train, validation, test, overall, htrain,
        hvalidation, htest, hoverall, hsegments, hreports⟩
      rcases hsound.evaluated used (by simp [hused]) with ⟨hlong, hevaluate⟩
      rcases BacktestSetup.exists_run_of_evaluate hevaluate with ⟨j, hrun⟩
      -- each of the four reports is that of its split
      have hsplit : ∀ entry ∈ r.extendedReports, ∃ report,
          splitReport setup sections used.segment used.result entry.1 = .ok report ∧
            entry.2 = report.2 := by
        simp only [hreports, List.forall_mem_cons, List.not_mem_nil, false_imp_iff, implies_true,
          and_true]
        exact ⟨⟨train, htrain, rfl⟩, ⟨validation, hvalidation, rfl⟩, ⟨test, htest, rfl⟩,
          ⟨overall, hoverall, rfl⟩⟩
      have hsame : ∀ entry ∈ r.extendedReports,
          ((setup.splitInstants used.segment entry.1).Same ↔
            (entry.1 = .validation → setup.ValidationReadable used.segment)) := by
        intro entry hentry
        rcases hsplit entry hentry with ⟨report, hreport, -⟩
        exact splitInstants_same_iff hlong entry.1 (stop_le_of_report hreport)
      constructor
      · intro entry hentry
        rcases hsplit entry hentry with ⟨report, hreport, heq⟩
        rw [heq]
        exact ⟨used.segment, hkept.symm, (splitReport_sound hrun hreport).1⟩
      constructor
      · intro hall segment honly
        have hmem : (Split.validation, validation.2) ∈ r.extendedReports := by simp [hreports]
        rcases hall.ofSplits _ hmem with ⟨segment', honly', hinstants, -⟩
        cases honly.symm.trans honly'
        cases hkept.trans honly
        exact (hsame _ hmem).1 hinstants rfl
      · intro hreadable
        refine ⟨hsegments ▸ hsound.instants, ?_⟩
        intro entry hentry
        rcases hsplit entry hentry with ⟨report, hreport, heq⟩
        have hone := (hsame entry hentry).2 fun _ => hreadable used.segment hkept.symm
        rcases splitReport_sound hrun hreport with ⟨hread, hholds⟩
        rw [heq]
        exact ⟨used.segment, hkept.symm, hone, hread, hholds hone⟩
  | first :: second :: rest =>
      rw [hused] at hkept
      simp only [buildBacktestResult, hused] at h
      cases h
      refine ⟨by simp [BacktestResult.ReadAsSplit], iff_of_true ⟨hsound.instants, by simp⟩ ?_⟩
      intro segment honly
      rw [honly] at hkept
      cases hkept

theorem runBacktest_sound {candles : List Candle} {gaps : List GapRecord} {journal after : Journal}
    {r : BacktestResult σ} (hraw : rawSegments setup candles = .ok (segments, gaps))
    (h : runBacktest setup sections candles journal = .ok (r, after)) :
    r.ReadAsSplit setup segments ∧
      (r.AtOneInstant setup segments ↔ setup.ValidationsReadable segments) := by
  rcases exists_of_bind_ok h with ⟨⟨segments', gaps'⟩, hraw', h⟩
  cases hraw.symm.trans hraw'
  simp only at h
  split at h
  · rcases exists_of_bind_ok h with ⟨v, hscan, h⟩
    rcases exists_of_bind_ok h with ⟨result, hbuild, h⟩
    cases h
    have hstart : ScanVars.Sound setup segments [] ({ journal := journal } : ScanVars σ) :=
      ⟨by simp, by simp, rfl⟩
    exact buildBacktestResult_sound
      (scanSegments_sound hstart (List.Subset.refl segments) hscan) hbuild
  · cases h

end Result

/-! ## Holdout windows -/

section Holdout

variable {σ : Type} {sections : ExtendedInputs → σ} {setup : BacktestSetup} {index : ℕ}
  {segment : List Candle} {all : List (List Candle)}
  {acc acc' : HoldoutEvaluationResult σ × Journal}

/-- What a window of a segment is run over: its candles, after those of its warm-up. -/
def BacktestSetup.windowSlice (setup : BacktestSetup) (segment : List Candle) (label : Split) :
    List Candle :=
  slice segment ((setup.bounds segment label).1 - (setup.minRequired - 1))
    (setup.bounds segment label).2

/-- The figures of every window belong to one instant of its run and satisfy the accounting
identity. -/
def HoldoutEvaluationResult.AtOneInstant (result : HoldoutEvaluationResult σ)
    (setup : BacktestSetup) (segments : List (List Candle)) : Prop :=
  ∀ window ∈ result.windows, ∃ segment ∈ segments,
    window.extended.AtOneInstant setup (setup.windowSlice segment window.label)

theorem holdoutWindow_sound {label : Split} (h : acc.1.AtOneInstant setup all)
    (hsegment : segment ∈ all)
    (hwindow : holdoutWindow setup sections index segment label acc = .ok acc') :
    acc'.1.AtOneInstant setup all := by
  have hslice : setup.windowSlice segment label =
      slice segment ((setup.bounds segment label).1 - (setup.minRequired - 1))
        (setup.bounds segment label).2 := rfl
  generalize hbounds : setup.bounds segment label = bounds at hslice
  rcases bounds with ⟨start, stop⟩
  unfold holdoutWindow at hwindow
  rw [hbounds] at hwindow
  simp only at hwindow hslice
  split at hwindow
  · cases hwindow
    exact h
  · rename_i hstop
    rcases exists_of_bind_ok hwindow with ⟨⟨result, journal⟩, hrun, hwindow⟩
    simp only at hwindow
    split at hwindow
    · rename_i last warmUpFirst first hlast hwarmUp hfirst
      cases hwindow
      intro window hmem
      rcases List.mem_append.1 hmem with hold | hnew
      · exact h window hold
      · refine ⟨segment, hsegment, ?_⟩
        rw [List.mem_singleton.1 hnew]
        dsimp only
        rw [hslice]
        exact buildExtendedDiagnostics_atOneInstant sections hrun
          (getLast?_slice (by omega) hlast) _ _ _ _ _ _ _
    · cases hwindow

theorem holdoutSegment_sound (h : acc.1.AtOneInstant setup all) (hmem : segment ∈ all)
    (hsegment : holdoutSegment setup sections index segment acc = .ok acc') :
    acc'.1.AtOneInstant setup all := by
  unfold holdoutSegment at hsegment
  split_ifs at hsegment
  · cases hsegment
    exact h
  · cases hsegment
    exact h
  · rcases exists_of_bind_ok hsegment with ⟨trained, htrain, hsegment⟩
    rcases exists_of_bind_ok hsegment with ⟨validated, hvalidation, htest⟩
    have htrained := holdoutWindow_sound h hmem htrain
    have hvalidated := holdoutWindow_sound htrained hmem hvalidation
    exact holdoutWindow_sound hvalidated hmem htest

theorem holdoutSegments_sound {segments : List (List Candle)} (h : acc.1.AtOneInstant setup all)
    (hsubset : segments ⊆ all)
    (hsegments : holdoutSegments setup sections index segments acc = .ok acc') :
    acc'.1.AtOneInstant setup all := by
  induction segments generalizing index acc with
  | nil =>
      cases hsegments
      exact h
  | cons segment rest ih =>
      rcases exists_of_bind_ok hsegments with ⟨next, hsegment, hrest⟩
      rcases List.cons_subset.1 hsubset with ⟨hmem, hrestSubset⟩
      exact ih (holdoutSegment_sound h hmem hsegment) hrestSubset hrest

theorem runIndependentHoldoutEvaluation_sound {candles : List Candle}
    {segments : List (List Candle)} {gaps : List GapRecord} {journal after : Journal}
    {result : HoldoutEvaluationResult σ} (hraw : rawSegments setup candles = .ok (segments, gaps))
    (h : runIndependentHoldoutEvaluation setup sections candles journal = .ok (result, after)) :
    result.AtOneInstant setup segments := by
  rcases exists_of_bind_ok h with ⟨⟨segments', gaps'⟩, hraw', h⟩
  cases hraw.symm.trans hraw'
  have hstart : ({} : HoldoutEvaluationResult σ).AtOneInstant setup segments := by
    simp [HoldoutEvaluationResult.AtOneInstant]
  exact holdoutSegments_sound hstart (List.Subset.refl segments) h

end Holdout

/-! ## Both evaluations -/

/-- The figures of every report of a holdout evaluation belong to one instant and satisfy the
accounting identity.  The figures of every report of a backtest do exactly if the only segment kept,
if it is only one, has a readable validation window; every split is read at `splitInstants`. -/
theorem accounting_identity_iff {σ : Type} (sections : ExtendedInputs → σ) (setup : BacktestSetup)
    (candles : List Candle) (segments : List (List Candle)) (gaps : List GapRecord)
    (hraw : rawSegments setup candles = .ok (segments, gaps)) (journal : Journal) :
    (∀ result after, runBacktest setup sections candles journal = .ok (result, after) →
      result.ReadAsSplit setup segments ∧
        (result.AtOneInstant setup segments ↔ setup.ValidationsReadable segments)) ∧
    ∀ result after,
      runIndependentHoldoutEvaluation setup sections candles journal = .ok (result, after) →
        result.AtOneInstant setup segments :=
  ⟨fun _ _ h => runBacktest_sound hraw h,
    fun _ _ h => runIndependentHoldoutEvaluation_sound hraw h⟩

namespace Scenario

/-- Averages over one and over two candles; three fifths of the candles for training. -/
def fastBacktest : BacktestSetup where
  config := {}
  strategyConfig := { emaFast := 1, emaSlow := 2, fastBelowSlow := by decide }
  splitConfig :=
    { trainFraction := 3 / 5
      validationFraction := 1 / 5
      testFraction := 1 / 5
      minTradesForSignificance := 1
      excludeOpenPositionSegments := true
      trainFractionPos := by norm_num
      trainFractionLt := by norm_num
      validationFractionPos := by norm_num
      validationFractionLt := by norm_num
      testFractionPos := by norm_num
      testFractionLt := by norm_num
      sumToOne := by norm_num
      minTradesForSignificancePos := by norm_num }
  filters := filters
  stepMs := 14400000
  portion := fun count fraction => ⌊(count : ℚ) * fraction⌋.toNat
  math := floatMath

/-- Two candles at one price and a rise in each of the next. -/
def risingCandles (count : ℕ) : List Candle :=
  [candle 0 100 100, candle 1 100 100] ++
    (List.range count).map fun (i : ℕ) => candle (2 + i) (100 + 10 * i) (110 + 10 * i)

end Scenario

/-- Five candles after the warm-up leave one for the validation window. -/
theorem accounting_identity_seven_candles :
    rawSegments Scenario.fastBacktest (Scenario.risingCandles 5) =
        .ok ([Scenario.risingCandles 5], []) ∧
      (∃ result after,
        runBacktest Scenario.fastBacktest (fun _ => ()) (Scenario.risingCandles 5) =
            .ok (result, after) ∧
          result.ReadAsSplit Scenario.fastBacktest [Scenario.risingCandles 5] ∧
            result.AtOneInstant Scenario.fastBacktest [Scenario.risingCandles 5]) ∧
      ∃ result after,
        runIndependentHoldoutEvaluation Scenario.fastBacktest (fun _ => ())
            (Scenario.risingCandles 5) = .ok (result, after) ∧
          result.AtOneInstant Scenario.fastBacktest [Scenario.risingCandles 5] := by
  have hraw : rawSegments Scenario.fastBacktest (Scenario.risingCandles 5) =
      .ok ([Scenario.risingCandles 5], []) := by decide +kernel
  have hidentity := accounting_identity_iff (fun _ => ()) Scenario.fastBacktest
    (Scenario.risingCandles 5) _ _ hraw none
  refine ⟨hraw, ?_, ?_⟩
  · rcases exists_of_isOk (x := runBacktest Scenario.fastBacktest (fun _ => ())
      (Scenario.risingCandles 5)) (by decide +kernel) with ⟨⟨result, after⟩, h⟩
    rcases hidentity.1 result after h with ⟨hread, hiff⟩
    refine ⟨result, after, h, hread, hiff.2 ?_⟩
    intro segment hkept
    have hsegment : segment = Scenario.risingCandles 5 := by
      have hmem : segment ∈ Scenario.fastBacktest.keptSegments [Scenario.risingCandles 5] := by
        simp [hkept]
      exact List.mem_singleton.1 (BacktestSetup.keptSegments_subset _ _ hmem)
    rw [hsegment]
    exact Or.inl (by decide +kernel)
  · rcases exists_of_isOk (x := runIndependentHoldoutEvaluation Scenario.fastBacktest (fun _ => ())
      (Scenario.risingCandles 5)) (by decide +kernel) with ⟨⟨result, after⟩, h⟩
    exact ⟨result, after, h, hidentity.2 result after h⟩

/-- With three candles after the warm-up the validation window has none: its cash is that of the
training window's last candle, before the purchase, its mark and its equity are those of the last. -/
theorem empty_validation_unbalanced :
    Scenario.fastBacktest.splitInstants (Scenario.risingCandles 3) .validation = ⟨0, 2, 2⟩ ∧
    ∃ result after,
      runBacktest Scenario.fastBacktest (fun _ => ()) (Scenario.risingCandles 3) =
          .ok (result, after) ∧
        ¬result.AtOneInstant Scenario.fastBacktest [Scenario.risingCandles 3] ∧
        result.extendedReports.map (fun entry => (entry.1, entry.2.accounting.identityHolds)) =
          [(.train, true), (.validation, false), (.test, true), (.overall, true)] := by
  refine ⟨by decide +kernel, ?_⟩
  rcases exists_of_isOk (x := runBacktest Scenario.fastBacktest (fun _ => ())
    (Scenario.risingCandles 3)) (by decide +kernel) with ⟨⟨result, after⟩, h⟩
  have hreports : (runBacktest Scenario.fastBacktest (fun _ => ())
      (Scenario.risingCandles 3)).toOption.map (fun ran => ran.1.extendedReports.map fun entry =>
        (entry.1, entry.2.accounting.identityHolds)) =
      some [(.train, true), (.validation, false), (.test, true), (.overall, true)] := by
    decide +kernel
  rw [h] at hreports
  have heq := Option.some.inj hreports
  refine ⟨result, after, h, ?_, heq⟩
  intro hall
  have hmem : (Split.validation, false) ∈ result.extendedReports.map (fun entry =>
      (entry.1, entry.2.accounting.identityHolds)) := by simp [heq]
  rcases List.mem_map.1 hmem with ⟨entry, hentry, hfalse⟩
  rcases hall.ofSplits entry hentry with ⟨segment, -, -, -, htrue⟩
  simp [(Prod.mk.inj hfalse).2] at htrue

end TradingAgent
