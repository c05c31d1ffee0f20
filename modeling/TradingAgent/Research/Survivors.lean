import TradingAgent.Backtest.Marks
import TradingAgent.Library.Drawdown
import TradingAgent.Research.Scorecard
import TradingAgent.Research.TradeOrder

/-!
# Survivors — what the verdict on a candidate says of its runs

* `RunsOf`: the blocks of an evaluation are blocks that were skipped and blocks that were run;
* `Reported`: what the reports of a block say of its run;
* `scorecard_verdict`: a candidate survives exactly if the closed trades and the equity curves of its
  runs meet the declared thresholds.
-/

namespace TradingAgent

/-! ## The runs of an evaluation -/

section Runs

variable {ρ : Type} {env : DurationEnv ρ} {blocks blocks' : List (BlockResult ρ)}
  {runs runs' : List SegmentRunResult} {block : BlockResult ρ} {r : SegmentRunResult}

/-- The block was run, with this result, after its warm-up. -/
def Evaluated (env : DurationEnv ρ) (block : BlockResult ρ) (r : SegmentRunResult) : Prop :=
  ∃ segment segIdx blockIdx, ∃ bounds : ℕ × ℕ, ∃ journal j reports,
    runSegment env.runEnv (candleSlice segment (bounds.1 - (env.minRequired - 1)) bounds.2)
        env.config.backtest.startingEquity journal = .ok (r, j) ∧
      env.reports (candleSlice segment bounds.1 bounds.2) r = .ok reports ∧
      block = evaluatedBlock env segment segIdx blockIdx bounds r reports

/-- Some blocks, and the runs of those that were not skipped. -/
inductive RunsOf (env : DurationEnv ρ) : List (BlockResult ρ) → List SegmentRunResult → Prop
  | nil : RunsOf env [] []
  | skipped (segIdx blockIdx candleCount : ℕ) (reason : String) {blocks : List (BlockResult ρ)}
      {runs : List SegmentRunResult} : RunsOf env blocks runs →
        RunsOf env (skippedBlock ρ segIdx blockIdx candleCount reason :: blocks) runs
  | ran {block : BlockResult ρ} {r : SegmentRunResult} {blocks : List (BlockResult ρ)}
      {runs : List SegmentRunResult} :
      Evaluated env block r → RunsOf env blocks runs → RunsOf env (block :: blocks) (r :: runs)

theorem RunsOf.append (h : RunsOf env blocks runs) (h' : RunsOf env blocks' runs') :
    RunsOf env (blocks ++ blocks') (runs ++ runs') := by
  induction h with
  | nil => exact h'
  | skipped segIdx blockIdx count reason _ ih => exact .skipped segIdx blockIdx count reason ih
  | ran hblock _ ih => exact .ran hblock ih

theorem RanBlock.evaluated {segment : List Candle} {segIdx : ℕ} {entry : (ℕ × ℕ) × ℕ}
    (h : RanBlock env segment segIdx entry block) : ∃ r, Evaluated env block r := by
  rcases h with ⟨journal, j, r, reports, hrun, hreports, hblock⟩
  exact ⟨r, segment, segIdx, entry.2, entry.1, journal, j, reports, hrun, hreports, hblock⟩

theorem exists_runsOf_part {blockCount : ℕ} {entry : List Candle × ℕ}
    (h : SegmentRan env blockCount entry blocks) : ∃ runs, RunsOf env blocks runs := by
  unfold SegmentRan at h
  by_cases hshort : entry.1.length < env.minRequired
  · rw [if_pos hshort] at h
    rw [h]
    exact ⟨[], .skipped _ _ _ _ .nil⟩
  · rw [if_neg hshort] at h
    -- every block of a segment that is long enough was run
    clear hshort
    generalize (blocksOf env.minRequired blockCount entry.1.length).zipIdx = ranges at h
    induction h with
    | nil => exact ⟨[], .nil⟩
    | cons hblock _ ih =>
        rcases hblock.evaluated with ⟨r, hr⟩
        rcases ih with ⟨runs, hruns⟩
        exact ⟨r :: runs, .ran hr hruns⟩

theorem exists_runsOf_parts {blockCount : ℕ} {entries : List (List Candle × ℕ)}
    {parts : List (List (BlockResult ρ))}
    (h : List.Forall₂ (SegmentRan env blockCount) entries parts) :
    ∃ runs, RunsOf env parts.flatten runs := by
  induction h with
  | nil => exact ⟨[], .nil⟩
  | cons hpart _ ih =>
      rcases exists_runsOf_part hpart with ⟨first, hfirst⟩
      rcases ih with ⟨rest, hrest⟩
      exact ⟨first ++ rest, hfirst.append hrest⟩

/-- An evaluation that returns has skipped or run each of its blocks. -/
theorem exists_runsOf {stepMs : ℤ} {candles : List Candle} {journal journal' : Journal}
    {blockCount : ℕ} {result : CandidateBlockedChronologicalResult ρ}
    (h : runCandidateBlockedChronologicalEvaluation env stepMs candles journal blockCount =
      .ok (result, journal')) : ∃ runs, RunsOf env result.blocks runs := by
  rcases exists_parts h with ⟨-, segments, parts, hblocks, hparts, -⟩
  rw [hblocks]
  exact exists_runsOf_parts hparts

end Runs

/-! ## The reports of a run -/

section Reported

variable {β : Type} {math : FloatMath} {texts : NumberTexts} {bootstrap : List Trade → ℚ → β}
  {stepMs : ℤ} {env : DurationEnv (BlockReports β)} {blocks : List (BlockResult (BlockReports β))}
  {runs : List SegmentRunResult} {r : SegmentRunResult} {S : ℚ}

/-- What a run's closed trades made. -/
def SegmentRunResult.realizedPnl (r : SegmentRunResult) : ℚ :=
  (r.trades.map Trade.pnlQuote).sum

def SegmentRunResult.equities (r : SegmentRunResult) : List ℚ :=
  r.equityCurve.map EquityPoint.equity

/-- What the reports of a block say of its run from the starting equity `S`. -/
structure Reported (S : ℚ) (reports : BlockReports β) (r : SegmentRunResult) : Prop where
  tradeCount : reports.performance.tradeCount = r.trades.length
  startingEquity : reports.performance.startingEquity = S
  drawdown : reports.performance.maxDrawdownPct = maxDrawdownPct r.equities
  realized : reports.realizedPnlQuote = r.realizedPnl
  distribution : reports.extended.sections.tradeDistribution = computeTradeDistribution r.trades S
  /-- The curve the drawdown is of. -/
  starts : ∃ rest, r.equities = S :: rest

theorem runSegment_equities {env : RunEnv} {segment : List Candle} {journal j : Journal}
    (h : runSegment env segment S journal = .ok (r, j)) :
    ∃ point rest, r.equityCurve = point :: rest ∧ point.equity = S := by
  rcases runSegment_marked h with ⟨traces, last, hmarked⟩
  cases traces with
  | nil => cases hmarked.ends
  | cons tr rest => exact ⟨tr.point, rest.map CandleTrace.point, hmarked.curve, hmarked.first tr rfl⟩

theorem Evaluated.reported {block : BlockResult (BlockReports β)}
    (henv : env.Reporting math texts bootstrap stepMs) (h : Evaluated env block r) :
    ∃ reports, block.reports = some reports ∧
      Reported env.config.backtest.startingEquity reports r := by
  rcases h with ⟨segment, segIdx, blockIdx, bounds, journal, j, reports, hrun, hreports, rfl⟩
  rcases runSegment_equities hrun with ⟨point, rest, hcurve, hpoint⟩
  refine ⟨reports, rfl, ?_⟩
  rw [henv, blockReports] at hreports
  cases hlast : (candleSlice segment bounds.1 bounds.2).getLast? with
  | none =>
      rw [hlast] at hreports
      cases hreports
  | some endCandle =>
      rw [hlast] at hreports
      cases hreports
      constructor
      case tradeCount =>
          simp only [blockPerformance, computePerformanceReport, hcurve, List.head?_cons,
            List.getLast?_cons]
      case startingEquity =>
          simp only [blockPerformance, computePerformanceReport, hcurve, List.head?_cons,
            List.getLast?_cons, hpoint]
      case drawdown => exact computePerformanceReport_maxDrawdownPct _ _ _ _ _ _
      case realized => rfl
      case distribution => rfl
      case starts =>
          refine ⟨rest.map EquityPoint.equity, ?_⟩
          rw [SegmentRunResult.equities, hcurve, List.map_cons, hpoint]

/-- The reports of an evaluation are those of its runs, in order. -/
theorem RunsOf.reported (henv : env.Reporting math texts bootstrap stepMs)
    (h : RunsOf env blocks runs) :
    List.Forall₂ (Reported env.config.backtest.startingEquity) (evaluatedReports blocks) runs := by
  induction h with
  | nil => exact .nil
  | skipped segIdx blockIdx count reason _ ih => exact ih
  | ran hblock _ ih =>
      rcases hblock.reported henv with ⟨reports, hreports, hreported⟩
      rw [evaluatedReports, List.filterMap_cons, hreports]
      exact .cons hreported ih

end Reported

/-! ## What the thresholds ask of the runs -/

section Thresholds

/-- The runs closed trades enough to judge them by. -/
structure EnoughEvidence (runs : List SegmentRunResult) : Prop where
  trades : 30 ≤ (runs.map fun r => r.trades.length).sum
  blocks : 4 ≤ runs.countP fun r => 0 < r.trades.length

/-- The runs, each from `S`, made money: altogether and typically, in most blocks, without a deep loss
or a deep fall, and not by one trade each. -/
structure Survives (S : ℚ) (runs : List SegmentRunResult) : Prop where
  evidence : EnoughEvidence runs
  median : ∃ m, median? (runs.map SegmentRunResult.realizedPnl) = some m ∧ 0 < m
  total : 0 < (runs.map SegmentRunResult.realizedPnl).sum
  noDeepLoss : ∀ r ∈ runs, -(S / 10) ≤ r.realizedPnl
  /-- No close is more than 15% below an earlier one of its block. -/
  drawdown : ∀ r ∈ runs, r.equities.Pairwise fun earlier later => 85 / 100 * earlier ≤ later
  bestTrade : ∀ r ∈ runs, 0 < r.realizedPnl → ∀ t ∈ r.trades, t.pnlQuote ≤ r.realizedPnl / 2
  stable : 3 / 5 * (runs.length : ℚ) ≤ runs.countP fun r => 0 < r.realizedPnl

/-- The median scales with the values. -/
theorem median?_map_mul (values : List ℚ) {c : ℚ} (hc : 0 < c) :
    median? (values.map (· * c)) = (median? values).map (· * c) := by
  have hsorted : (values.map (· * c)).mergeSort (fun a b => decide (a ≤ b)) =
      (values.mergeSort fun a b => decide (a ≤ b)).map (· * c) := by
    refine (List.map_mergeSort ?_).symm
    intro a _ b _
    exact decide_eq_decide.2 (mul_le_mul_iff_of_pos_right hc).symm
  simp only [median?, hsorted, List.length_map, List.getElem?_map]
  generalize values.mergeSort (fun a b => decide (a ≤ b)) = sorted
  by_cases hodd : sorted.length % 2 = 1
  · simp [hodd]
  · rw [if_neg hodd, if_neg hodd]
    cases sorted[sorted.length / 2 - 1]? with
    | none => rfl
    | some low =>
        cases sorted[sorted.length / 2]? with
        | none => rfl
        | some high => simp only [Option.map_some, Option.bind_some, ← add_mul, div_mul_eq_mul_div]

theorem median?_getD_pos_iff (values : List ℚ) {c : ℚ} (hc : 0 < c) :
    0 < (median? (values.map (· * c))).getD 0 ↔ ∃ m, median? values = some m ∧ 0 < m := by
  rw [median?_map_mul values hc]
  cases median? values with
  | none => simp
  | some m => simp [hc]

/-- The realized return in percent, as a multiple of what was realized. -/
theorem realizedReturn_eq (S x : ℚ) : x / S * 100 = x * (100 / S) := by
  rw [div_mul_eq_mul_div, mul_div_assoc]

theorem le_min?_getD_iff {values : List ℚ} (hne : values ≠ []) (b : ℚ) :
    b ≤ values.min?.getD 0 ↔ ∀ v ∈ values, b ≤ v := by
  rcases Option.isSome_iff_exists.1 (List.isSome_min?_of_ne_nil hne) with ⟨m, hm⟩
  rw [hm, Option.getD_some]
  exact List.le_min?_iff hm

theorem max?_getD_le_iff {values : List ℚ} (hne : values ≠ []) (b : ℚ) :
    values.max?.getD 0 ≤ b ↔ ∀ v ∈ values, v ≤ b := by
  rcases Option.isSome_iff_exists.1 (List.isSome_max?_of_ne_nil hne) with ⟨m, hm⟩
  rw [hm, Option.getD_some]
  exact List.max?_le_iff hm

theorem bestTradeDependencePassed_iff (contributions : List ℚ) :
    bestTradeDependencePassed contributions.max? = true ↔
      contributions ≠ [] ∧ ∀ c ∈ contributions, c ≤ 50 := by
  by_cases hne : contributions = []
  · simp [hne, bestTradeDependencePassed]
  · rcases Option.isSome_iff_exists.1 (List.isSome_max?_of_ne_nil hne) with ⟨m, hm⟩
    rw [hm, bestTradeDependencePassed, Option.any_some, decide_eq_true_eq, and_iff_right hne]
    exact List.max?_le_iff hm

theorem exists_pos_of_sum_pos {α : Type} {f : α → ℚ} {items : List α}
    (h : 0 < (items.map f).sum) : ∃ x ∈ items, 0 < f x := by
  by_contra hnone
  push Not at hnone
  have hle : (items.map f).sum ≤ (items.map fun _ => (0 : ℚ)).sum :=
    List.sum_le_sum fun x hx => hnone x hx
  rw [List.map_const', List.sum_replicate, smul_zero] at hle
  exact absurd h (not_lt.2 hle)

/-- The best trade's share of a profit, against half of it. -/
theorem contribution_le_iff {trades : List Trade} {S : ℚ}
    (hprofit : 0 < (trades.map Trade.pnlQuote).sum) :
    ∃ share, (computeTradeDistribution trades S).bind TradeDistribution.bestTradeContributionPct =
        some share ∧
      (share ≤ 50 ↔ ∀ t ∈ trades, t.pnlQuote ≤ (trades.map Trade.pnlQuote).sum / 2) := by
  cases hbest : trades.argmax Trade.pnlQuote with
  | none =>
      rw [List.argmax_eq_none.1 hbest] at hprofit
      simp at hprofit
  | some best =>
      refine ⟨best.pnlQuote / (trades.map Trade.pnlQuote).sum * 100, ?_, ?_⟩
      · simp [computeTradeDistribution, hbest, hprofit.ne']
      · have hshare : best.pnlQuote / (trades.map Trade.pnlQuote).sum * 100 ≤ 50 ↔
            best.pnlQuote ≤ (trades.map Trade.pnlQuote).sum / 2 := by
          rw [div_mul_eq_mul_div, div_le_iff₀ hprofit, le_div_iff₀ two_pos]
          constructor <;> intro h <;> linarith
        rw [hshare]
        constructor
        · intro hle t ht
          exact (List.le_of_mem_argmax ht hbest).trans hle
        · intro hall
          exact hall best (List.argmax_mem hbest)

theorem drawdown_le_iff {equities rest : List ℚ} {S : ℚ} (hS : 0 < S) (h : equities = S :: rest) :
    maxDrawdownPct equities ≤ 15 ↔
      equities.Pairwise fun earlier later => 85 / 100 * earlier ≤ later := by
  have hbound : Drawdown.maxDrawdown (S :: rest) * 100 ≤ 15 ↔
      Drawdown.maxDrawdown (S :: rest) ≤ 15 / 100 :=
    (le_div_iff₀ (by norm_num)).symm
  rw [h, maxDrawdownPct_eq, hbound,
    Drawdown.maxDrawdown_le_iff_pairwise hS (by norm_num) (by norm_num)]
  norm_num

end Thresholds

/-! ## The verdict -/

section Verdict

variable {β : Type} {reports : List (BlockReports β)} {runs : List SegmentRunResult} {S : ℚ}

theorem map_eq_of_forall₂ {α β γ : Type} {R : α → β → Prop} {f : α → γ} {g : β → γ} {l : List α}
    {l' : List β} (h : List.Forall₂ R l l') (hfg : ∀ a b, R a b → f a = g b) :
    l.map f = l'.map g := by
  induction h with
  | nil => rfl
  | cons hab _ ih => rw [List.map_cons, List.map_cons, hfg _ _ hab, ih]

theorem exists_of_forall₂_right {α β : Type} {R : α → β → Prop} {l : List α} {l' : List β} {b : β}
    (h : List.Forall₂ R l l') (hb : b ∈ l') : ∃ a, R a b := by
  induction h with
  | nil => cases hb
  | cons hab _ ih =>
      rcases List.mem_cons.1 hb with rfl | hrest
      · exact ⟨_, hab⟩
      · exact ih hrest

theorem Reported.returnPct {report : BlockReports β} {r : SegmentRunResult} (hS : 0 < S)
    (h : Reported S report r) : realizedReturnPct report = r.realizedPnl * (100 / S) := by
  rw [realizedReturnPct, h.startingEquity, if_neg (not_le.2 hS), h.realized, realizedReturn_eq]

/-- The share of the best trade of each profitable run. -/
def contributions (S : ℚ) (runs : List SegmentRunResult) : List ℚ :=
  runs.filterMap fun r =>
    if r.realizedPnl > 0 then
      (computeTradeDistribution r.trades S).bind TradeDistribution.bestTradeContributionPct
    else none

theorem scoredFigures_eq (hS : 0 < S) (h : List.Forall₂ (Reported S) reports runs) :
    scoredFigures reports =
      { medianRealizedReturn :=
          (median? ((runs.map SegmentRunResult.realizedPnl).map (· * (100 / S)))).getD 0
        aggregateRealized := (runs.map SegmentRunResult.realizedPnl).sum
        worstRealizedReturn :=
          ((runs.map SegmentRunResult.realizedPnl).map (· * (100 / S))).min?.getD 0
        worstBlockDrawdown := (runs.map fun r => maxDrawdownPct r.equities).max?.getD 0
        maxBestTradeContribution := (contributions S runs).max?
        positiveRealizedFraction :=
          (runs.countP fun r => 0 < r.realizedPnl : ℕ) / (runs.length : ℚ) } := by
  have hreturns : reports.map realizedReturnPct =
      (runs.map SegmentRunResult.realizedPnl).map (· * (100 / S)) := by
    rw [List.map_map]
    exact map_eq_of_forall₂ h fun _ _ hr => hr.returnPct hS
  have hcount : ((runs.map SegmentRunResult.realizedPnl).map (· * (100 / S))).countP (0 < ·) =
      runs.countP fun r => 0 < r.realizedPnl := by
    rw [List.countP_map, List.countP_map]
    refine List.countP_congr fun r _ => ?_
    simp only [Function.comp_apply, decide_eq_true_eq]
    exact mul_pos_iff_of_pos_right (div_pos (by norm_num) hS)
  have hshares : reports.filterMap positiveBlockContribution = contributions S runs := by
    have hmaps : reports.map positiveBlockContribution = runs.map fun r =>
        if r.realizedPnl > 0 then
          (computeTradeDistribution r.trades S).bind TradeDistribution.bestTradeContributionPct
        else none :=
      map_eq_of_forall₂ h fun report r hr => by
        rw [positiveBlockContribution, hr.realized, hr.distribution]
    calc reports.filterMap positiveBlockContribution
        = (reports.map positiveBlockContribution).filterMap id := by rw [List.filterMap_map]; rfl
      _ = contributions S runs := by rw [hmaps, List.filterMap_map]; rfl
  simp only [scoredFigures]
  rw [hreturns, hshares, hcount, map_eq_of_forall₂ h fun _ _ hr => hr.realized,
    map_eq_of_forall₂ h fun _ _ hr => hr.drawdown, List.length_map, List.length_map]

theorem mem_contributions_iff {c : ℚ} : c ∈ contributions S runs ↔ ∃ r ∈ runs, 0 < r.realizedPnl ∧
    (computeTradeDistribution r.trades S).bind TradeDistribution.bestTradeContributionPct =
      some c := by
  simp [contributions, List.mem_filterMap]

/-- Of runs that made money altogether the shares pass exactly if no profitable run owes more than
half of its profit to one trade. -/
theorem contributions_pass_iff (htotal : 0 < (runs.map SegmentRunResult.realizedPnl).sum) :
    bestTradeDependencePassed (contributions S runs).max? = true ↔
      ∀ r ∈ runs, 0 < r.realizedPnl → ∀ t ∈ r.trades, t.pnlQuote ≤ r.realizedPnl / 2 := by
  rcases exists_pos_of_sum_pos htotal with ⟨r, hr, hprofit⟩
  have hne : contributions S runs ≠ [] := by
    rcases contribution_le_iff (S := S) hprofit with ⟨share, hshare, -⟩
    exact List.ne_nil_of_mem (mem_contributions_iff.2 ⟨r, hr, hprofit, hshare⟩)
  rw [bestTradeDependencePassed_iff, and_iff_right hne]
  constructor
  · intro hall r hr hprofit
    rcases contribution_le_iff (S := S) hprofit with ⟨share, hshare, hiff⟩
    exact hiff.1 (hall share (mem_contributions_iff.2 ⟨r, hr, hprofit, hshare⟩))
  · intro hall c hc
    rcases mem_contributions_iff.1 hc with ⟨r, hr, hprofit, hshare⟩
    rcases contribution_le_iff (S := S) hprofit with ⟨share, hshare', hiff⟩
    cases hshare.symm.trans hshare'
    exact hiff.2 (hall r hr hprofit)

/-- All criteria pass exactly if the runs survive. -/
theorem criteria_pass_iff (texts : ReportTexts) (hS : 0 < S)
    (h : List.Forall₂ (Reported S) reports runs) (hevidence : EnoughEvidence runs) :
    ((scorecardCriteria texts (scoredFigures reports)).filter fun c => !c.passed).map
        CriterionResult.detail = [] ↔ Survives S runs := by
  have hscale : (0 : ℚ) < 100 / S := div_pos (by norm_num) hS
  have hruns : runs ≠ [] := by
    rintro rfl
    simpa using hevidence.blocks
  have hcount : (0 : ℚ) < runs.length := Nat.cast_pos.2 (List.length_pos_iff.2 hruns)
  rw [List.map_eq_nil_iff, List.filter_eq_nil_iff, scoredFigures_eq hS h]
  simp only [scorecardCriteria, List.forall_mem_cons, Bool.not_eq_true', Bool.not_eq_false,
    decide_eq_true_eq, List.not_mem_nil, false_imp_iff, implies_true, and_true]
  have hworst : materiallyNegativeBlockRealizedReturnPct ≤
      ((runs.map SegmentRunResult.realizedPnl).map (· * (100 / S))).min?.getD 0 ↔
        ∀ r ∈ runs, -(S / 10) ≤ r.realizedPnl := by
    rw [le_min?_getD_iff (by simpa using hruns), List.map_map, List.forall_mem_map]
    refine forall₂_congr fun r _ => ?_
    rw [Function.comp_apply, mul_div_assoc', le_div_iff₀ hS,
      materiallyNegativeBlockRealizedReturnPct]
    constructor <;> intro hle <;> linarith
  have hdrawdown : (runs.map fun r => maxDrawdownPct r.equities).max?.getD 0 ≤
      maxAcceptableDrawdownPct ↔
        ∀ r ∈ runs, r.equities.Pairwise fun earlier later => 85 / 100 * earlier ≤ later := by
    rw [max?_getD_le_iff (by simpa using hruns), List.forall_mem_map]
    refine forall₂_congr fun r hr => ?_
    rcases exists_of_forall₂_right h hr with ⟨report, hreport⟩
    rcases hreport.starts with ⟨rest, hrest⟩
    exact drawdown_le_iff hS hrest
  have hstable : minPositiveRealizedPnlBlockFraction ≤
      (runs.countP fun r => 0 < r.realizedPnl : ℕ) / (runs.length : ℚ) ↔
        3 / 5 * (runs.length : ℚ) ≤ runs.countP fun r => 0 < r.realizedPnl :=
    le_div_iff₀ hcount
  rw [median?_getD_pos_iff _ hscale, hworst, hdrawdown, hstable]
  constructor
  · rintro ⟨hmedian, htotal, hworst, hdrawdown, hshares, hstable⟩
    exact ⟨hevidence, hmedian, htotal, hworst, hdrawdown, (contributions_pass_iff htotal).1 hshares,
      hstable⟩
  · intro hsurvives
    exact ⟨hsurvives.median, hsurvives.total, hsurvives.noDeepLoss, hsurvives.drawdown,
      (contributions_pass_iff hsurvives.total).2 hsurvives.bestTrade, hsurvives.stable⟩

theorem evidenceOk_iff (h : List.Forall₂ (Reported S) reports runs) :
    evidenceOk (reports.map fun report => report.performance.tradeCount).sum
        (reports.countP fun report => 0 < report.performance.tradeCount) ↔ EnoughEvidence runs := by
  have hcounts : (reports.map fun report => report.performance.tradeCount) =
      runs.map fun r => r.trades.length :=
    map_eq_of_forall₂ h fun _ _ hr => hr.tradeCount
  have hblocks : (reports.countP fun report => 0 < report.performance.tradeCount) =
      runs.countP fun r => 0 < r.trades.length := by
    calc (reports.countP fun report => 0 < report.performance.tradeCount)
        = (reports.map fun report => report.performance.tradeCount).countP (0 < ·) := by
          rw [List.countP_map]; rfl
      _ = runs.countP fun r => 0 < r.trades.length := by rw [hcounts, List.countP_map]; rfl
  rw [hcounts, hblocks]
  exact ⟨fun hboth => ⟨hboth.1, hboth.2⟩, fun hboth => ⟨hboth.trades, hboth.blocks⟩⟩

/-- What a candidate's runs must be for each status. -/
theorem scoreCandidate_status (texts : ReportTexts) (hS : 0 < S)
    (result : CandidateBlockedChronologicalResult (BlockReports β))
    (h : List.Forall₂ (Reported S) (evaluatedReports result.blocks) runs) :
    ((scoreCandidate texts result).status = .insufficientEvidence ↔ ¬ EnoughEvidence runs) ∧
      ((scoreCandidate texts result).status = .researchSurvivor ↔ Survives S runs) := by
  by_cases hevidence : EnoughEvidence runs
  · have hpass := criteria_pass_iff texts hS h hevidence
    simp only [scoreCandidate, if_pos ((evidenceOk_iff h).2 hevidence), ← hpass]
    by_cases hfailed : ((scorecardCriteria texts (scoredFigures
        (evaluatedReports result.blocks))).filter fun c => !c.passed).map
          CriterionResult.detail = []
    · simp [hfailed, hevidence]
    · simp [hfailed, hevidence]
  · have hsurvives : ¬ Survives S runs := fun hs => hevidence hs.evidence
    simp [scoreCandidate, if_neg (mt (evidenceOk_iff h).1 hevidence), hevidence, hsurvives]

/-- Freezing asks for a survivor and for the candidate that was scored. -/
theorem exists_freezeCandidate_iff (digests : Digests) (version : CodeVersion)
    (commit : Option String) (entry : ScorecardEntry) (frozenAtMs boundaryMs : ℤ)
    (candidate : BuildableCandidate) (config : AppConfig) (filters : SymbolFilters)
    (candidateVersion : ℤ) :
    (∃ record, freezeCandidate digests version commit entry frozenAtMs boundaryMs candidate config
        filters candidateVersion = .ok record) ↔
      entry.status = .researchSurvivor ∧ candidate.candidateId = entry.candidateId := by
  unfold freezeCandidate
  by_cases hstatus : entry.status = .researchSurvivor
  · by_cases hid : candidate.candidateId = entry.candidateId
    · simp [hstatus, hid]
    · simp [hstatus, hid]
  · simp [hstatus]

@[simp] theorem scoreCandidate_candidateId (texts : ReportTexts)
    (result : CandidateBlockedChronologicalResult (BlockReports β)) :
    (scoreCandidate texts result).candidateId = result.candidate.candidateId := by
  simp only [scoreCandidate]
  by_cases hevidence : evidenceOk
      ((evaluatedReports result.blocks).map fun report => report.performance.tradeCount).sum
      ((evaluatedReports result.blocks).countP fun report => 0 < report.performance.tradeCount)
  · rw [if_pos hevidence]
  · rw [if_neg hevidence]

/-- The verdict on an evaluated candidate is told by the closed trades and the equity curves of its
runs, and only a candidate whose runs survive can be frozen. -/
theorem scorecard_verdict (math : FloatMath) (texts : ReportTexts) (bootstrap : List Trade → ℚ → β)
    (stepMs : ℤ) (env : DurationEnv (BlockReports β))
    (henv : env.Reporting math texts.toNumberTexts bootstrap stepMs)
    (hS : 0 < env.config.backtest.startingEquity) (candles : List Candle)
    (journal journal' : Journal) (blockCount : ℕ)
    (result : CandidateBlockedChronologicalResult (BlockReports β))
    (h : runCandidateBlockedChronologicalEvaluation env stepMs candles journal blockCount =
      .ok (result, journal')) :
    ∃ runs, RunsOf env result.blocks runs ∧
      ((scoreCandidate texts result).status = .insufficientEvidence ↔ ¬ EnoughEvidence runs) ∧
      ((scoreCandidate texts result).status = .researchSurvivor ↔
        Survives env.config.backtest.startingEquity runs) ∧
      ∀ digests version commit frozenAtMs boundaryMs candidate filters candidateVersion,
        (∃ record, freezeCandidate digests version commit
            (scoreCandidate texts result).toScorecardEntry frozenAtMs boundaryMs candidate env.config
            filters candidateVersion = .ok record) ↔
          Survives env.config.backtest.startingEquity runs ∧
            candidate.candidateId = result.candidate.candidateId := by
  rcases exists_runsOf h with ⟨runs, hruns⟩
  rcases scoreCandidate_status texts hS result (hruns.reported henv) with ⟨hevidence, hsurvives⟩
  refine ⟨runs, hruns, hevidence, hsurvives, ?_⟩
  intro digests version commit frozenAtMs boundaryMs candidate filters candidateVersion
  rw [← hsurvives, exists_freezeCandidate_iff, scoreCandidate_candidateId]

end Verdict

namespace Scenario

/-- A rise and a fall of three percent by turns, a day each. -/
def zigzag : List Candle :=
  (List.range 72).map fun i =>
    if i % 2 = 0 then candle (6 * i) 103 100 else candle (6 * i) 100 103

def reportTexts : ReportTexts where
  plain _ := ""
  twoDecimals _ := ""
  float _ := ""
  oneDecimal _ := ""

def reportMath : FloatMath where
  power base _ := base
  sqrt := id
  threeDecimals _ := ""

/-- A candidate that trades on every candle, with the reports of its blocks. -/
def reportingEnv : DurationEnv (BlockReports Unit) where
  candidate := ⟨"alternating", "test", []⟩
  config := {}
  filters := filters
  strategy := alternating
  minRequired := 1
  minRequiredPos := Nat.one_pos
  minTradesForSignificance := 1
  reports := blockReports reportMath reportTexts.toNumberTexts (fun _ _ => ()) dayMs {} 1

/-- What the scorecard looks at in a block's reports. -/
structure Scored where
  tradeCount : ℕ
  returnPct : ℚ
  realizedPnl : ℚ
  drawdownPct : ℚ
  contribution : Option ℚ
  deriving DecidableEq

def scored {β : Type} (reports : BlockReports β) : Scored where
  tradeCount := reports.performance.tradeCount
  returnPct := realizedReturnPct reports
  realizedPnl := reports.realizedPnlQuote
  drawdownPct := reports.performance.maxDrawdownPct
  contribution := positiveBlockContribution reports

/-- The figures of one of four equal blocks. -/
def zigzagBlock : Scored where
  tradeCount := 8
  returnPct := 51845275851 / 12500000000
  realizedPnl := 51845275851 / 25000000000
  drawdownPct := 297807597700 / 10260225957131
  contribution := some (244725 / 19234)

theorem median?_replicate (n : ℕ) (x : ℚ) : median? (List.replicate (n + 1) x) = some x := by
  have hsorted : (List.replicate (n + 1) x).mergeSort (fun a b => decide (a ≤ b)) =
      List.replicate (n + 1) x :=
    List.mergeSort_of_pairwise (List.pairwise_replicate.2 (Or.inr (by simp)))
  simp only [median?, hsorted, List.length_replicate, List.getElem?_replicate]
  by_cases hodd : (n + 1) % 2 = 1
  · simp [hodd, show (n + 1) / 2 < n + 1 by omega]
  · simp [hodd, show (n + 1) / 2 < n + 1 by omega, show (n + 1) / 2 - 1 < n + 1 by omega]

end Scenario

/-- Four blocks of eight equal profitable trades each. -/
theorem scorecard_verdict_zigzag :
    ∃ result journal' runs,
      runCandidateBlockedChronologicalEvaluation Scenario.reportingEnv dayMs Scenario.zigzag none 4 =
        .ok (result, journal') ∧
      RunsOf Scenario.reportingEnv result.blocks runs ∧ Survives 50 runs := by
  have hscored : (runCandidateBlockedChronologicalEvaluation Scenario.reportingEnv dayMs
      Scenario.zigzag none 4).map (fun x => (evaluatedReports x.1.blocks).map Scenario.scored) =
        .ok (List.replicate 4 Scenario.zigzagBlock) := by
    decide +kernel
  rcases exists_of_map_ok hscored with ⟨⟨result, journal'⟩, h, hfour⟩
  replace hfour : (evaluatedReports result.blocks).map Scenario.scored =
      List.replicate 4 Scenario.zigzagBlock :=
    hfour.symm
  rcases scorecard_verdict Scenario.reportMath Scenario.reportTexts (fun _ _ => ()) dayMs
    Scenario.reportingEnv rfl (by decide) Scenario.zigzag none journal' 4 result h with
    ⟨runs, hruns, -, hsurvives, -⟩
  refine ⟨result, journal', runs, h, hruns, hsurvives.1 ?_⟩
  simp only [scoreCandidate]
  generalize evaluatedReports result.blocks = reports at hfour
  have htrades : reports.map (fun r => r.performance.tradeCount) = List.replicate 4 8 := by
    simpa [Function.comp_def, Scenario.scored, Scenario.zigzagBlock] using
      congrArg (List.map Scenario.Scored.tradeCount) hfour
  have hreturns : reports.map realizedReturnPct =
      List.replicate 4 (51845275851 / 12500000000) := by
    simpa [Function.comp_def, Scenario.scored, Scenario.zigzagBlock] using
      congrArg (List.map Scenario.Scored.returnPct) hfour
  have hrealized : reports.map BlockReports.realizedPnlQuote =
      List.replicate 4 (51845275851 / 25000000000) := by
    simpa [Function.comp_def, Scenario.scored, Scenario.zigzagBlock] using
      congrArg (List.map Scenario.Scored.realizedPnl) hfour
  have hdrawdowns : reports.map (fun r => r.performance.maxDrawdownPct) =
      List.replicate 4 (297807597700 / 10260225957131) := by
    simpa [Function.comp_def, Scenario.scored, Scenario.zigzagBlock] using
      congrArg (List.map Scenario.Scored.drawdownPct) hfour
  have hshares : reports.filterMap positiveBlockContribution = List.replicate 4 (244725 / 19234) := by
    simpa [Function.comp_def, Scenario.scored, Scenario.zigzagBlock] using
      congrArg (List.filterMap Scenario.Scored.contribution) hfour
  have hblocks : (reports.countP fun r => 0 < r.performance.tradeCount) = 4 := by
    simpa [Function.comp_def] using congrArg (List.countP (0 < ·)) htrades
  have hevidence : evidenceOk (reports.map fun r => r.performance.tradeCount).sum
      (reports.countP fun r => 0 < r.performance.tradeCount) := by
    rw [htrades, hblocks]
    decide
  have hfigures : scoredFigures reports = ⟨51845275851 / 12500000000, 4 * (51845275851 / 25000000000),
      51845275851 / 12500000000, 297807597700 / 10260225957131, some (244725 / 19234), 1⟩ := by
    simp only [scoredFigures, hreturns, hrealized, hdrawdowns, hshares,
      Scenario.median?_replicate 3, Option.getD_some]
    decide +kernel
  rw [if_pos hevidence, hfigures]
  exact if_pos (by decide +kernel)

end TradingAgent
