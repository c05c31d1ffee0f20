import TradingAgent.Research.PostMortemFigures
import TradingAgent.Research.Stability

/-!
# Diagnosis — the post-mortem's diagnosis beside the scorecard's verdict

Two programs judge the same evaluation: the scorecard from the reports of its blocks, the post-mortem
from its closed trades.

* `diagnose_cases`: one condition for each diagnosis;
* `BroadlyPositive`: what the runs must be for the best of them;
* `diagnosis_beside_verdict`: both programs on one evaluation, by its runs.
-/

open scoped List

namespace TradingAgent

/-! ## The rule -/

section Rule

variable {texts : ReportTexts} {exclusions : List ExclusionResult} {top3 fraction : Option ℚ}

/-- Nothing is held against a broad expectancy. -/
structure NothingAgainst (exclusions : List ExclusionResult) (top3 fraction : Option ℚ) : Prop where
  withoutBest : remainsPositive exclusions .bestTrade = true
  withoutBest3 : remainsPositive exclusions .best3Trades = true
  top3 : ∀ pct, top3 = some pct → pct ≤ 75
  fraction : ∃ f, fraction = some f ∧ 3 / 5 ≤ f

theorem ite_singleton_eq_nil_iff {p : Prop} [Decidable p] (text : String) :
    (if p then [text] else []) = [] ↔ ¬ p := by
  by_cases hp : p <;> simp [hp]

theorem ite_nil_eq_nil_iff {p : Prop} [Decidable p] (text : String) :
    (if p then [] else [text]) = [] ↔ p := by
  by_cases hp : p <;> simp [hp]

theorem reasonsAgainstBroad_eq_nil_iff :
    reasonsAgainstBroad texts exclusions top3 fraction = [] ↔
      NothingAgainst exclusions top3 fraction := by
  constructor
  · intro h
    simp only [reasonsAgainstBroad, List.append_eq_nil_iff,
      ite_nil_eq_nil_iff] at h
    rcases h with ⟨⟨⟨hbest, hbest3⟩, htop3⟩, hfraction⟩
    refine ⟨hbest, hbest3, ?_, ?_⟩
    · rintro pct rfl
      exact not_lt.1 ((ite_singleton_eq_nil_iff _).1 htop3)
    · cases fraction with
      | none => cases hfraction
      | some f => exact ⟨f, rfl, not_lt.1 ((ite_singleton_eq_nil_iff _).1 hfraction)⟩
  · intro h
    rcases h.fraction with ⟨f, rfl, hf⟩
    simp only [reasonsAgainstBroad, List.append_eq_nil_iff,
      ite_nil_eq_nil_iff]
    refine ⟨⟨⟨h.withoutBest, h.withoutBest3⟩, ?_⟩, (ite_singleton_eq_nil_iff _).2 (not_lt.2 hf)⟩
    cases top3 with
    | none => rfl
    | some pct => exact (ite_singleton_eq_nil_iff _).2 (not_lt.2 (h.top3 pct rfl))

/-- The conditions of the diagnoses; what is left is concentrated or fragile. -/
theorem diagnose_cases (texts : ReportTexts) (total blocks : ℕ) (pnl : ℚ)
    (exclusions : List ExclusionResult) (top3 fraction : Option ℚ) :
    ((diagnose texts total blocks pnl exclusions top3 fraction).1 = .insufficientEvidence ↔
        ¬ evidenceOk total blocks) ∧
      ((diagnose texts total blocks pnl exclusions top3 fraction).1 = .negativeExpectancy ↔
        evidenceOk total blocks ∧ pnl ≤ 0) ∧
      ((diagnose texts total blocks pnl exclusions top3 fraction).1 = .broadPositiveExpectancy ↔
        evidenceOk total blocks ∧ 0 < pnl ∧ NothingAgainst exclusions top3 fraction) := by
  unfold diagnose
  by_cases hevidence : evidenceOk total blocks
  · rw [if_neg (not_not.2 hevidence)]
    by_cases hpnl : pnl ≤ 0
    · simp [hevidence, hpnl, not_lt.2 hpnl]
    · rw [if_neg hpnl, ← @reasonsAgainstBroad_eq_nil_iff texts]
      by_cases hreasons : reasonsAgainstBroad texts exclusions top3 fraction = []
      · simp [hevidence, hpnl, hreasons, not_le.1 hpnl]
      · simp [hevidence, hpnl, hreasons]
  · simp [hevidence]

end Rule

/-! ## The trades of the runs -/

section Runs

variable {ρ : Type} {env : DurationEnv ρ} {blocks : List (BlockResult ρ)}
  {runs : List SegmentRunResult} {trades : List Trade}

/-- The evaluated blocks hold the trades of the runs, in order. -/
theorem RunsOf.map_trades (h : RunsOf env blocks runs) :
    (evaluatedBlocks blocks).map BlockResult.trades = runs.map SegmentRunResult.trades := by
  induction h with
  | nil => rfl
  | skipped segIdx blockIdx count reason _ ih =>
      rw [evaluatedBlocks, List.filter_cons_of_neg (by simp [skippedBlock])]
      exact ih
  | ran hblock _ ih =>
      rcases hblock with ⟨segment, segIdx, blockIdx, bounds, journal, j, reports, -, -, rfl⟩
      rw [evaluatedBlocks, List.filter_cons_of_pos (by simp [evaluatedBlock]), List.map_cons,
        List.map_cons]
      exact congrArg _ ih

theorem RunsOf.evaluatedTrades_eq (h : RunsOf env blocks runs) :
    evaluatedTrades blocks = runs.flatMap SegmentRunResult.trades := by
  rw [evaluatedTrades, List.flatMap_def, h.map_trades, ← List.flatMap_def]

theorem sum_flatMap_trades (runs : List SegmentRunResult) :
    ((runs.flatMap SegmentRunResult.trades).map Trade.pnlQuote).sum =
      (runs.map SegmentRunResult.realizedPnl).sum := by
  rw [List.map_flatMap, List.flatMap_def, List.sum_flatten, List.map_map]
  rfl

/-- A count over the blocks by their trades is a count over the runs. -/
theorem RunsOf.countP_trades (h : RunsOf env blocks runs) (p : List Trade → Bool) :
    ((evaluatedBlocks blocks).countP fun block => p block.trades) =
      runs.countP fun r => p r.trades := by
  calc ((evaluatedBlocks blocks).countP fun block => p block.trades)
      = ((evaluatedBlocks blocks).map BlockResult.trades).countP p := by rw [List.countP_map]; rfl
    _ = runs.countP fun r => p r.trades := by rw [h.map_trades, List.countP_map]; rfl

theorem evidenceOk_runs_iff (h : RunsOf env blocks runs) :
    evidenceOk (evaluatedTrades blocks).length
        ((evaluatedBlocks blocks).countP fun block => 0 < block.trades.length) ↔
      EnoughEvidence runs := by
  rw [h.evaluatedTrades_eq, List.length_flatMap,
    h.countP_trades fun trades => decide (0 < trades.length)]
  exact ⟨fun hboth => ⟨hboth.1, hboth.2⟩, fun hboth => ⟨hboth.trades, hboth.blocks⟩⟩

/-- What an exclusion leaves stays positive exactly if no so many trades carry the profit. -/
theorem remainsPositive_iff (hne : trades ≠ []) (exclusion : Exclusion) :
    remainsPositive (exclusionResults trades) exclusion = true ↔
      ∀ removed, removed <+~ trades →
        removed.length = min (exclusion.count trades.length) trades.length →
          (removed.map Trade.pnlQuote).sum < (trades.map Trade.pnlQuote).sum := by
  have hleast := isLeast_leftWithout (min_le_right (exclusion.count trades.length) trades.length)
  have hfound : (exclusionResults trades).find? (fun e => e.exclusion = exclusion) =
      some (exclusionResult trades exclusion) := by
    cases exclusion <;> simp [exclusionResults, hne, exclusionResult]
  rw [remainsPositive, hfound, Option.any_some, exclusionResult, decide_eq_true_eq]
  constructor
  · intro hpositive removed hremoved hlength
    exact sub_pos.1 (hpositive.trans_le (hleast.2 ⟨removed, hremoved, hlength, rfl⟩))
  · intro hall
    rcases hleast.1 with ⟨removed, hremoved, hlength, hleft⟩
    rw [hleft]
    exact sub_pos.2 (hall removed hremoved hlength)

/-- The three best trades stay within three quarters of what the winners made. -/
theorem top3_le_iff (hgross : 0 < (wins trades).sum) :
    (∀ pct, topPctOfPositivePnl trades 3 = some pct → pct ≤ 75) ↔
      ∀ chosen, chosen <+~ trades → chosen.length ≤ 3 →
        (chosen.map Trade.pnlQuote).sum ≤ 3 / 4 * (wins trades).sum := by
  rcases isGreatest_topPct trades 3 hgross with ⟨share, hshare, hgreatest⟩
  have hscale : ∀ x : ℚ, x / (wins trades).sum * 100 ≤ 75 ↔ x ≤ 3 / 4 * (wins trades).sum := by
    intro x
    rw [div_mul_eq_mul_div, div_le_iff₀ hgross]
    constructor <;> intro hle <;> linarith
  constructor
  · intro hpct chosen hchosen hlength
    exact (hscale _).1 ((hgreatest.2 ⟨chosen, hchosen, hlength, rfl⟩).trans (hpct share hshare))
  · intro hall pct hpct
    rw [hshare, Option.some.injEq] at hpct
    rcases hgreatest.1 with ⟨chosen, hchosen, hlength, heq⟩
    rw [← hpct, heq]
    exact (hscale _).2 (hall chosen hchosen hlength)

end Runs

/-! ## The diagnosis of an evaluation -/

/-- The trades of the runs made money, without one of them and without three of them, no three made
more than three quarters of what the winners made, and three fifths of the runs made money. -/
structure BroadlyPositive (runs : List SegmentRunResult) : Prop where
  evidence : EnoughEvidence runs
  total : 0 < (runs.map SegmentRunResult.realizedPnl).sum
  withoutSome : ∀ removed, removed <+~ runs.flatMap SegmentRunResult.trades →
    removed.length = 1 ∨ removed.length = 3 →
      (removed.map Trade.pnlQuote).sum < (runs.map SegmentRunResult.realizedPnl).sum
  topThree : ∀ chosen, chosen <+~ runs.flatMap SegmentRunResult.trades → chosen.length ≤ 3 →
    (chosen.map Trade.pnlQuote).sum ≤ 3 / 4 * (wins (runs.flatMap SegmentRunResult.trades)).sum
  stable : 3 / 5 * (runs.length : ℚ) ≤ runs.countP fun r => 0 < r.realizedPnl

section Diagnosis

variable {β : Type} {env : DurationEnv (BlockReports β)} {runs : List SegmentRunResult}
  {blocks : List (BlockResult (BlockReports β))}

/-- The share of the profitable blocks is that of the profitable runs. -/
theorem positiveFraction_iff (h : RunsOf env blocks runs) (hne : runs ≠ [])
    (records : List TradeRecord) :
    (∃ f : ℚ, (if (chronologicalStability (evaluatedBlocks blocks) records).perBlock = [] then none
        else some (((chronologicalStability (evaluatedBlocks blocks) records).perBlock.countP
          BlockChronoStat.positive : ℕ) /
            ((chronologicalStability (evaluatedBlocks blocks) records).perBlock.length : ℚ))) =
          some f ∧ 3 / 5 ≤ f) ↔
      3 / 5 * (runs.length : ℚ) ≤ runs.countP fun r => 0 < r.realizedPnl := by
  have hperBlock : (chronologicalStability (evaluatedBlocks blocks) records).perBlock =
      (evaluatedBlocks blocks).map blockChronoStat := by
    simp only [chronologicalStability, evaluatedBlocks_idem]
  have hlength : ((evaluatedBlocks blocks).map blockChronoStat).length = runs.length := by
    rw [List.length_map, ← List.length_map BlockResult.trades, h.map_trades, List.length_map]
  have hpositive : ((evaluatedBlocks blocks).map blockChronoStat).countP BlockChronoStat.positive =
      runs.countP fun r => 0 < r.realizedPnl := by
    rw [List.countP_map]
    exact h.countP_trades fun trades => decide (0 < (trades.map Trade.pnlQuote).sum)
  have hcount : 0 < runs.length := List.length_pos_iff.2 hne
  have hsome : (evaluatedBlocks blocks).map blockChronoStat ≠ [] := by
    rw [← List.length_pos_iff, hlength]
    exact hcount
  rw [hperBlock, if_neg hsome, hlength, hpositive]
  simp only [Option.some.injEq, exists_eq_left']
  exact le_div_iff₀ (Nat.cast_pos.2 hcount)

/-- Of runs with enough evidence and a profit: what nothing against a broad expectancy asks of
them. -/
theorem nothingAgainst_iff (h : RunsOf env blocks runs) (hevidence : EnoughEvidence runs)
    (hprofit : 0 < (runs.map SegmentRunResult.realizedPnl).sum) {fraction : Option ℚ}
    (hfraction : (∃ f, fraction = some f ∧ 3 / 5 ≤ f) ↔
      3 / 5 * (runs.length : ℚ) ≤ runs.countP fun r => 0 < r.realizedPnl) :
    NothingAgainst (exclusionResults (evaluatedTrades blocks))
        (topPctOfPositivePnl (evaluatedTrades blocks) 3) fraction ↔ BroadlyPositive runs := by
  have htotal := sum_flatMap_trades runs
  have hcount : 30 ≤ (runs.flatMap SegmentRunResult.trades).length := by
    rw [List.length_flatMap]
    exact hevidence.trades
  rw [h.evaluatedTrades_eq]
  generalize hall : runs.flatMap SegmentRunResult.trades = trades at htotal hcount
  have hne : trades ≠ [] := by
    rintro rfl
    exact absurd hcount (by decide)
  have hgross : 0 < (wins trades).sum := by
    calc 0 < (trades.map Trade.pnlQuote).sum := by rw [htotal]; exact hprofit
      _ ≤ (wins trades).sum := sum_le_wins trades
  -- so many trades were closed that each exclusion takes out as many as it names
  have hone : min (Exclusion.bestTrade.count trades.length) trades.length = 1 := by
    simp only [Exclusion.count]
    omega
  have hthree : min (Exclusion.best3Trades.count trades.length) trades.length = 3 := by
    simp only [Exclusion.count]
    omega
  have hbest := remainsPositive_iff hne .bestTrade
  have hbest3 := remainsPositive_iff hne .best3Trades
  rw [hone, htotal] at hbest
  rw [hthree, htotal] at hbest3
  constructor
  · intro hnothing
    refine ⟨hevidence, hprofit, ?_, ?_, hfraction.1 hnothing.fraction⟩ <;> rw [hall]
    · rintro removed hremoved (hlength | hlength)
      · exact hbest.1 hnothing.withoutBest removed hremoved hlength
      · exact hbest3.1 hnothing.withoutBest3 removed hremoved hlength
    · exact (top3_le_iff hgross).1 hnothing.top3
  · intro hbroadly
    have hwithout := hbroadly.withoutSome
    have htop := hbroadly.topThree
    rw [hall] at hwithout htop
    constructor
    case withoutBest => exact hbest.2 fun removed hr hlength => hwithout removed hr (Or.inl hlength)
    case withoutBest3 =>
        exact hbest3.2 fun removed hr hlength => hwithout removed hr (Or.inr hlength)
    case top3 => exact (top3_le_iff hgross).2 htop
    case fraction => exact hfraction.2 hbroadly.stable

/-- What the runs of a candidate must be for each diagnosis. -/
theorem diagnosis_of_runs (texts : ReportTexts)
    (result : CandidateBlockedChronologicalResult (BlockReports β))
    (h : RunsOf env result.blocks runs) :
    ((buildCandidatePostMortem texts result).diagnosis = .insufficientEvidence ↔
        ¬ EnoughEvidence runs) ∧
      ((buildCandidatePostMortem texts result).diagnosis = .negativeExpectancy ↔
        EnoughEvidence runs ∧ (runs.map SegmentRunResult.realizedPnl).sum ≤ 0) ∧
      ((buildCandidatePostMortem texts result).diagnosis = .broadPositiveExpectancy ↔
        BroadlyPositive runs) := by
  have hevidence := evidenceOk_runs_iff h
  have htotal : ((evaluatedTrades result.blocks).map Trade.pnlQuote).sum =
      (runs.map SegmentRunResult.realizedPnl).sum := by
    rw [h.evaluatedTrades_eq, sum_flatMap_trades]
  rcases diagnose_cases texts (evaluatedTrades result.blocks).length
    ((evaluatedBlocks result.blocks).countP fun block => 0 < block.trades.length)
    ((evaluatedTrades result.blocks).map Trade.pnlQuote).sum
    (exclusionResults (evaluatedTrades result.blocks))
    (topPctOfPositivePnl (evaluatedTrades result.blocks) 3)
    (if (chronologicalStability (evaluatedBlocks result.blocks)
        (evaluatedRecords result.blocks)).perBlock = [] then none
      else some (((chronologicalStability (evaluatedBlocks result.blocks)
        (evaluatedRecords result.blocks)).perBlock.countP BlockChronoStat.positive : ℕ) /
          ((chronologicalStability (evaluatedBlocks result.blocks)
            (evaluatedRecords result.blocks)).perBlock.length : ℚ))) with
    ⟨hinsufficient, hnegative, hbroad⟩
  refine ⟨hinsufficient.trans (not_congr hevidence), hnegative.trans ?_, hbroad.trans ?_⟩
  · rw [hevidence, htotal]
  · rw [hevidence, htotal]
    constructor
    · rintro ⟨henough, hprofit, hnothing⟩
      have hne : runs ≠ [] := by
        rintro rfl
        simpa using henough.blocks
      exact (nothingAgainst_iff h henough hprofit (positiveFraction_iff h hne _)).1 hnothing
    · intro hbroadly
      have hne : runs ≠ [] := by
        rintro rfl
        simpa using hbroadly.evidence.blocks
      exact ⟨hbroadly.evidence, hbroadly.total, (nothingAgainst_iff h hbroadly.evidence
        hbroadly.total (positiveFraction_iff h hne _)).2 hbroadly⟩

/-- The post-mortem and the scorecard on one evaluation.  Both find the evidence insufficient, or
neither does; a negative expectancy was rejected, and a survivor has a positive one. -/
theorem diagnosis_beside_verdict (math : FloatMath) (texts : ReportTexts)
    (bootstrap : List Trade → ℚ → β) (stepMs : ℤ) (env : DurationEnv (BlockReports β))
    (henv : env.Reporting math texts.toNumberTexts bootstrap stepMs)
    (hS : 0 < env.config.backtest.startingEquity) (candles : List Candle)
    (journal journal' : Journal) (blockCount : ℕ)
    (result : CandidateBlockedChronologicalResult (BlockReports β))
    (h : runCandidateBlockedChronologicalEvaluation env stepMs candles journal blockCount =
      .ok (result, journal')) :
    (∃ runs, RunsOf env result.blocks runs ∧
      ((buildCandidatePostMortem texts result).diagnosis = .insufficientEvidence ↔
        ¬ EnoughEvidence runs) ∧
      ((buildCandidatePostMortem texts result).diagnosis = .negativeExpectancy ↔
        EnoughEvidence runs ∧ (runs.map SegmentRunResult.realizedPnl).sum ≤ 0) ∧
      ((buildCandidatePostMortem texts result).diagnosis = .broadPositiveExpectancy ↔
        BroadlyPositive runs)) ∧
      ((buildCandidatePostMortem texts result).diagnosis = .insufficientEvidence ↔
        (scoreCandidate texts result).status = .insufficientEvidence) ∧
      ((buildCandidatePostMortem texts result).diagnosis = .negativeExpectancy →
        (scoreCandidate texts result).status = .rejected) ∧
      ((scoreCandidate texts result).status = .researchSurvivor →
        (buildCandidatePostMortem texts result).diagnosis = .broadPositiveExpectancy ∨
          (buildCandidatePostMortem texts result).diagnosis =
            .concentratedFragilePositiveExpectancy) := by
  rcases exists_runsOf h with ⟨runs, hruns⟩
  rcases scoreCandidate_status texts hS result (hruns.reported henv) with ⟨hevidence, hsurvives⟩
  rcases diagnosis_of_runs texts result hruns with ⟨hinsufficient, hnegative, hbroad⟩
  refine ⟨⟨runs, hruns, hinsufficient, hnegative, hbroad⟩, hinsufficient.trans hevidence.symm, ?_,
    ?_⟩
  · intro hdiagnosis
    rcases hnegative.1 hdiagnosis with ⟨henough, htotal⟩
    -- no survivor made nothing
    have hno : ¬ Survives env.config.backtest.startingEquity runs := fun hs =>
      absurd hs.total (not_lt.2 htotal)
    cases hstatus : (scoreCandidate texts result).status with
    | rejected => rfl
    | insufficientEvidence => exact absurd henough (hevidence.1 hstatus)
    | researchSurvivor => exact absurd (hsurvives.1 hstatus) hno
  · intro hstatus
    have hsurvived := hsurvives.1 hstatus
    cases hdiagnosis : (buildCandidatePostMortem texts result).diagnosis with
    | broadPositiveExpectancy => exact Or.inl rfl
    | concentratedFragilePositiveExpectancy => exact Or.inr rfl
    | negativeExpectancy =>
        exact absurd hsurvived.total (not_lt.2 (hnegative.1 hdiagnosis).2)
    | insufficientEvidence => exact absurd hsurvived.evidence (hinsufficient.1 hdiagnosis)

end Diagnosis

/-- Days on which nothing moves, so that every trade loses its costs. -/
def Scenario.becalmed : List Candle :=
  (List.range 96).map fun i => Scenario.candle (6 * i) 100 100

/-- Trades enough to judge, and none that made anything. -/
theorem diagnosis_beside_verdict_becalmed :
    ∃ result journal', runCandidateBlockedChronologicalEvaluation Scenario.reportingEnv dayMs
        Scenario.becalmed none 4 = .ok (result, journal') ∧
      (buildCandidatePostMortem Scenario.reportTexts result).diagnosis = .negativeExpectancy ∧
      (scoreCandidate Scenario.reportTexts result).status = .rejected := by
  have hrun : (runCandidateBlockedChronologicalEvaluation Scenario.reportingEnv dayMs
      Scenario.becalmed none 4).map (fun x =>
        (buildCandidatePostMortem Scenario.reportTexts x.1).diagnosis) =
          .ok .negativeExpectancy := by
    decide +kernel
  rcases exists_of_map_ok hrun with ⟨⟨result, journal'⟩, h, hdiagnosis⟩
  have hbeside := diagnosis_beside_verdict Scenario.reportMath Scenario.reportTexts (fun _ _ => ())
    dayMs Scenario.reportingEnv rfl (by decide) Scenario.becalmed none journal' 4 result h
  exact ⟨result, journal', h, hdiagnosis.symm, hbeside.2.2.1 hdiagnosis.symm⟩

end TradingAgent
