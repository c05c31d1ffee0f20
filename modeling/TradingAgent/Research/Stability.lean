import TradingAgent.Metrics.ExtendedFigures
import TradingAgent.Research.PostMortemReport
import TradingAgent.Research.Survivors

/-!
# Stability — the post-mortem's cuts of the trades and its extremes over time

* `post_mortem_partitions`: blocks, years, halves, exit reasons and outcomes each cut the trades of a
  candidate into parts that lose none;
* `stability_extremes`: the longest losing streak and the longest time under water, over the trades
  of an evaluation in their order.
-/

open scoped List

namespace TradingAgent

section Cuts

variable {ρ : Type}

/-- The trades a post-mortem is about. -/
def evaluatedTrades (blocks : List (BlockResult ρ)) : List Trade :=
  (evaluatedBlocks blocks).flatMap BlockResult.trades

def evaluatedRecords (blocks : List (BlockResult ρ)) : List TradeRecord :=
  (evaluatedBlocks blocks).flatMap correlateTradesWithPlans

theorem map_trade_correlate (block : BlockResult ρ) :
    (correlateTradesWithPlans block).map TradeRecord.trade = block.trades := by
  rw [correlateTradesWithPlans, List.mapIdx_eq_zipIdx_map, List.map_map]
  exact List.zipIdx_map_fst 0 block.trades

theorem map_trade_evaluatedRecords (blocks : List (BlockResult ρ)) :
    (evaluatedRecords blocks).map TradeRecord.trade = evaluatedTrades blocks := by
  rw [evaluatedRecords, evaluatedTrades, List.map_flatMap]
  simp only [map_trade_correlate]

theorem chronological_perm (records : List TradeRecord) :
    chronological records ~ records.map TradeRecord.trade :=
  (List.mergeSort_perm records _).map TradeRecord.trade

@[simp] theorem evaluatedBlocks_idem (blocks : List (BlockResult ρ)) :
    evaluatedBlocks (evaluatedBlocks blocks) = evaluatedBlocks blocks := by
  simp [evaluatedBlocks]

/-- The parts of a cut together hold the trades and their profit. -/
structure CutOf (counts : List ℕ) (nets : List ℚ) (trades : List Trade) : Prop where
  count : counts.sum = trades.length
  net : nets.sum = (trades.map Trade.pnlQuote).sum

/-- Groups that together are the trades cut them. -/
theorem cutOf_groups {groups : List (List Trade)} {trades : List Trade}
    (h : groups.flatten ~ trades) :
    CutOf (groups.map List.length) (groups.map fun g => (g.map Trade.pnlQuote).sum) trades where
  count := by rw [← h.length_eq, List.length_flatten]
  net := by
    calc (groups.map fun g => (g.map Trade.pnlQuote).sum).sum
        = (groups.flatten.map Trade.pnlQuote).sum := by
          rw [List.map_flatten, List.sum_flatten, List.map_map]; rfl
      _ = (trades.map Trade.pnlQuote).sum := (h.map Trade.pnlQuote).sum_eq

/-- Every trade left by one of the three exits. -/
theorem exitGroups_perm (trades : List Trade) :
    (exitReasons.map fun reason => trades.filter fun t => t.exitReason = reason).flatten ~ trades := by
  rw [← List.flatMap_def]
  apply Buckets.flatMap_bucket_perm_self (show exitReasons.Nodup by decide)
  intro t _
  cases t.exitReason <;> decide

/-- How a post-mortem cuts the trades. -/
structure Partitions (pm : CandidatePostMortem) (trades : List Trade) : Prop where
  blocks : CutOf (pm.chronologicalStability.perBlock.map BlockChronoStat.tradeCount)
    (pm.chronologicalStability.perBlock.map BlockChronoStat.netPnlQuote) trades
  years : CutOf (pm.chronologicalStability.perCalendarYear.map YearlyStat.tradeCount)
    (pm.chronologicalStability.perCalendarYear.map YearlyStat.netPnlQuote) trades
  /-- The years are in order, and each counts the trades entered in it, of which there is one. -/
  yearly : (pm.chronologicalStability.perCalendarYear.map YearlyStat.year).Pairwise (· < ·) ∧
    ∀ y ∈ pm.chronologicalStability.perCalendarYear, 0 < y.tradeCount ∧
      y.tradeCount = trades.countP fun t => utcYear t.entryTimeMs = y.year
  halves : CutOf
    [pm.chronologicalStability.firstHalf.tradeCount, pm.chronologicalStability.secondHalf.tradeCount]
    [pm.chronologicalStability.firstHalf.netPnlQuote,
      pm.chronologicalStability.secondHalf.netPnlQuote] trades
  exits : ∃ reasons gap, pm.exitReasonBreakdown = reasons ++ [gap] ∧
    CutOf (reasons.map ExitReasonBreakdown.tradeCount)
      (reasons.map fun b => b.expectancyQuote.getD 0 * b.tradeCount) trades
  outcomes : pm.tradeCounts.wins + pm.tradeCounts.losses + pm.tradeCounts.breakeven = trades.length

theorem mean?_mul_length (values : List ℚ) :
    (mean? values).getD 0 * values.length = values.sum := by
  by_cases hnone : values = []
  · simp [mean?, hnone]
  · have hlength : (values.length : ℚ) ≠ 0 := by simpa using hnone
    rw [mean?, if_neg hnone, Option.getD_some, div_mul_cancel₀ _ hlength]

theorem outcomes_add (trades : List Trade) :
    (trades.countP fun t => 0 < t.pnlQuote) + (trades.countP fun t => t.pnlQuote < 0) +
      (trades.countP fun t => t.pnlQuote = 0) = trades.length := by
  induction trades with
  | nil => rfl
  | cons t rest ih =>
      rw [List.length_cons, ← ih]
      rcases lt_trichotomy t.pnlQuote 0 with hloss | hzero | hwin
      · simp [hloss, hloss.ne, hloss.not_gt]
        omega
      · simp [hzero]
        omega
      · simp [hwin, hwin.ne', hwin.not_gt]
        omega

/-- Each of the post-mortem's cuts loses no trade and no profit. -/
theorem post_mortem_partitions {β : Type} (texts : ReportTexts)
    (result : CandidateBlockedChronologicalResult (BlockReports β)) :
    Partitions (buildCandidatePostMortem texts result) (evaluatedTrades result.blocks) := by
  have hperm : chronological (evaluatedRecords result.blocks) ~ evaluatedTrades result.blocks := by
    rw [← map_trade_evaluatedRecords]
    exact chronological_perm _
  constructor
  case blocks =>
      have hgroups : ((evaluatedBlocks result.blocks).map BlockResult.trades).flatten ~
          evaluatedTrades result.blocks := by
        rw [evaluatedTrades, List.flatMap_def]
      have hcut := cutOf_groups hgroups
      rw [List.map_map, List.map_map] at hcut
      simp only [buildCandidatePostMortem, chronologicalStability, evaluatedBlocks_idem, List.map_map]
      exact hcut
  case years =>
      have hgroups : ((Buckets.buckets (fun t : Trade => utcYear t.entryTimeMs)
          (chronological (evaluatedRecords result.blocks))).map Prod.snd).flatten ~
            evaluatedTrades result.blocks := by
        rw [← List.flatMap_def]
        exact (Buckets.flatten_buckets_perm _ _).trans hperm
      have hcut := cutOf_groups hgroups
      rw [List.map_map, List.map_map] at hcut
      simp only [buildCandidatePostMortem, chronologicalStability, List.map_map]
      exact hcut
  case yearly =>
      simp only [buildCandidatePostMortem, chronologicalStability, List.map_map]
      refine ⟨?_, ?_⟩
      · have hkeys := Buckets.keys_pairwise (fun t : Trade => utcYear t.entryTimeMs)
          (chronological (evaluatedRecords result.blocks))
        rw [Buckets.buckets, List.map_map, ← evaluatedRecords]
        simpa [Function.comp_def, yearlyStat] using hkeys
      · intro y hy
        rcases List.mem_map.1 hy with ⟨entry, hentry, rfl⟩
        refine ⟨List.length_pos_iff.2 (Buckets.ne_nil_of_mem hentry), ?_⟩
        rcases List.mem_map.1 hentry with ⟨year, -, rfl⟩
        calc (Buckets.bucket (fun t : Trade => utcYear t.entryTimeMs)
              (chronological (evaluatedRecords result.blocks)) year).length
            = (chronological (evaluatedRecords result.blocks)).countP
                fun t => utcYear t.entryTimeMs = year := List.countP_eq_length_filter.symm
          _ = (evaluatedTrades result.blocks).countP fun t => utcYear t.entryTimeMs = year :=
              hperm.countP_eq _
  case halves =>
      refine @cutOf_groups [_, _] _ ?_
      rw [List.flatten_cons, List.flatten_cons, List.flatten_nil, List.append_nil,
        List.take_append_drop]
      exact hperm
  case exits =>
      have hcut := cutOf_groups (exitGroups_perm (evaluatedTrades result.blocks))
      rw [List.map_map, List.map_map] at hcut
      refine ⟨_, _, rfl, ?_⟩
      rw [exitReasonBreakdown, List.map_map, List.map_map]
      refine ⟨hcut.count, ?_⟩
      rw [← hcut.net]
      refine congrArg List.sum (List.map_congr_left fun reason _ => ?_)
      have hmean := mean?_mul_length
        (((evaluatedTrades result.blocks).filter fun t => t.exitReason = reason).map Trade.pnlQuote)
      rw [List.length_map] at hmean
      exact hmean
  case outcomes => exact outcomes_add _

end Cuts

/-! ## Losing streaks -/

theorem losingStreakStep_eq (acc : ℕ × ℕ) (t : Trade) :
    losingStreakStep acc t =
      (Streak.observe (fun t : Trade => decide (t.pnlQuote < 0)) acc.swap t).swap := by
  unfold losingStreakStep Streak.observe
  by_cases hloss : t.pnlQuote < 0
  · simp [hloss]
  · simp [hloss]

theorem losingStreak_foldl (acc : ℕ × ℕ) (trades : List Trade) :
    trades.foldl losingStreakStep acc =
      (trades.foldl (Streak.observe fun t : Trade => decide (t.pnlQuote < 0)) acc.swap).swap := by
  induction trades generalizing acc with
  | nil => exact (Prod.swap_swap acc).symm
  | cons t rest ih => rw [List.foldl_cons, List.foldl_cons, ih, losingStreakStep_eq, Prod.swap_swap]

/-- The counter of losses finds the longest losing streak. -/
theorem isGreatest_losingStreak (trades : List Trade) :
    IsGreatest (streakLengths (fun t => decide (t.pnlQuote < 0)) trades)
      (trades.foldl losingStreakStep (0, 0)).1 := by
  rw [losingStreak_foldl]
  exact isGreatest_streakLengths _ trades

/-! ## Under water -/

section Cumulative

/-- The cumulative profit after each trade, at its exit. -/
def cumulativeCurve (profit : ℚ) : List Trade → List (ℤ × ℚ)
  | [] => []
  | t :: rest => (t.exitTimeMs, profit + t.pnlQuote) :: cumulativeCurve (profit + t.pnlQuote) rest

/-- The cumulative profit of some trades, from nothing at the exit of the first. -/
def cumulativeSeries (trades : List Trade) : List (ℤ × ℚ) :=
  trades.head?.toList.map (fun first => (first.exitTimeMs, 0)) ++ cumulativeCurve 0 trades

theorem map_fst_cumulativeCurve (profit : ℚ) (trades : List Trade) :
    (cumulativeCurve profit trades).map Prod.fst = trades.map Trade.exitTimeMs := by
  induction trades generalizing profit with
  | nil => rfl
  | cons t rest ih => rw [cumulativeCurve, List.map_cons, List.map_cons, ih]

/-- The variables agree with the general scan, but for the period itself. -/
structure CumulativeVars.Tracks (v : CumulativeVars) (scan : Underwater.Scan ℤ ℚ) : Prop where
  peak : v.peak = scan.peak
  peakTime : v.peakTimeMs = scan.peakTime
  start : v.underwaterStartMs = scan.start
  duration : v.bestDurationMs = scan.duration

theorem CumulativeVars.Tracks.close {v : CumulativeVars} {scan : Underwater.Scan ℤ ℚ}
    (h : v.Tracks scan) (timeMs : ℤ) : (v.close timeMs).Tracks (scan.record timeMs) := by
  unfold CumulativeVars.close Underwater.Scan.record
  rw [← h.start]
  cases hstart : v.underwaterStartMs with
  | none => exact h
  | some start =>
      have hsame : some start = scan.start := hstart.symm.trans h.start
      by_cases hlonger : scan.duration < timeMs - start
      · simp only [hlonger, if_true]
        refine ⟨h.peak, h.peakTime, rfl, ?_⟩
        rw [h.duration]
        exact max_eq_right hlonger.le
      · simp only [hlonger, if_false]
        refine ⟨h.peak, h.peakTime, hsame, ?_⟩
        rw [h.duration]
        exact max_eq_left (not_lt.1 hlonger)

theorem CumulativeVars.Tracks.step {v : CumulativeVars} {scan : Underwater.Scan ℤ ℚ}
    (h : v.Tracks scan) (t : Trade) :
    (v.step t).Tracks (scan.observe (t.exitTimeMs, v.cumulative + t.pnlQuote)) ∧
      (v.step t).cumulative = v.cumulative + t.pnlQuote := by
  unfold CumulativeVars.step Underwater.Scan.observe
  by_cases hpeak : v.peak ≤ v.cumulative + t.pnlQuote
  · have hscan : scan.peak ≤ v.cumulative + t.pnlQuote := h.peak ▸ hpeak
    rw [if_pos hpeak, if_pos hscan]
    exact ⟨⟨rfl, rfl, rfl, (h.close t.exitTimeMs).duration⟩, rfl⟩
  · have hscan : ¬ scan.peak ≤ v.cumulative + t.pnlQuote := h.peak ▸ hpeak
    rw [if_neg hpeak, if_neg hscan]
    cases hstart : v.underwaterStartMs with
    | none => exact ⟨⟨h.peak, h.peakTime, by simp [← h.start, hstart, h.peakTime], h.duration⟩, rfl⟩
    | some start => exact ⟨⟨h.peak, h.peakTime, by simp [← h.start, hstart], h.duration⟩, rfl⟩

theorem CumulativeVars.Tracks.foldl {v : CumulativeVars} {scan : Underwater.Scan ℤ ℚ}
    (h : v.Tracks scan) (trades : List Trade) :
    (trades.foldl CumulativeVars.step v).Tracks
      ((cumulativeCurve v.cumulative trades).foldl Underwater.Scan.observe scan) := by
  induction trades generalizing v scan with
  | nil => exact h
  | cons t rest ih =>
      rcases h.step t with ⟨hstep, hcumulative⟩
      have hrest := ih hstep
      rw [hcumulative] at hrest
      exact hrest

/-- How long the longest period of a series under water lasts; no time, where there is none. -/
def longestDuration (series : List (ℤ × ℚ)) : ℤ :=
  ((Underwater.longest series).map fun period => period.2 - period.1).getD 0

theorem longestUnderwaterDays_eq (trades : List Trade) :
    longestUnderwaterDays trades =
      if longestDuration (cumulativeSeries trades) > 0 then
        some ((longestDuration (cumulativeSeries trades) : ℚ) / msPerDay)
      else none := by
  cases trades with
  | nil => rfl
  | cons first rest =>
      generalize hlast : (first :: rest).getLast (List.cons_ne_nil first rest) = last
      have hseries : cumulativeSeries (first :: rest) =
          (first.exitTimeMs, 0) :: cumulativeCurve 0 (first :: rest) := rfl
      -- the series ends at the exit of the last trade
      have htime : (((first.exitTimeMs, (0 : ℚ)) :: cumulativeCurve 0 (first :: rest)).getLast
          (List.cons_ne_nil _ _)).1 = last.exitTimeMs := by
        have hcurve : cumulativeCurve 0 (first :: rest) ≠ [] := List.cons_ne_nil _ _
        have hmap : ((cumulativeCurve 0 (first :: rest)).map Prod.fst).getLast? =
            some last.exitTimeMs := by
          rw [map_fst_cumulativeCurve, List.getLast?_map,
            List.getLast?_eq_some_getLast (List.cons_ne_nil first rest), hlast, Option.map_some]
        rw [List.getLast?_map, List.getLast?_eq_some_getLast hcurve, Option.map_some] at hmap
        rw [List.getLast_cons hcurve]
        exact Option.some.inj hmap
      have hinitial : (⟨0, 0, first.exitTimeMs, none, 0⟩ : CumulativeVars).Tracks
          (Underwater.Scan.initial (first.exitTimeMs, 0)) :=
        ⟨rfl, rfl, rfl, rfl⟩
      have htracks := (hinitial.foldl (first :: rest)).close last.exitTimeMs
      have hduration : longestDuration (cumulativeSeries (first :: rest)) =
          (((first :: rest).foldl CumulativeVars.step ⟨0, 0, first.exitTimeMs, none, 0⟩).close
            last.exitTimeMs).bestDurationMs := by
        rw [htracks.duration, longestDuration, hseries, Underwater.longest]
        have hsized := Underwater.sized_scanAll (first.exitTimeMs, (0 : ℚ))
          (cumulativeCurve 0 (first :: rest))
        rw [← hsized, Underwater.scanAll, htime]
      rw [longestUnderwaterDays, List.head?_cons, List.getLast?_eq_some_getLast (by simp), hlast,
        hduration]

/-- The days reported, if there are any, are those of a longest period of the series under water. -/
def ReportsLongestDays (series : List (ℤ × ℚ)) : Option ℚ → Prop
  | none => ∀ start stop, Underwater.Drought series start stop → stop ≤ start
  | some days => ∃ start stop, Underwater.Drought series start stop ∧ start < stop ∧
      days * msPerDay = stop - start ∧
      ∀ start' stop', Underwater.Drought series start' stop' → stop' - start' ≤ stop - start

theorem longestUnderwaterDays_reports {trades : List Trade}
    (horder : trades.Pairwise fun a b => a.exitTimeMs < b.exitTimeMs) :
    ReportsLongestDays (cumulativeSeries trades) (longestUnderwaterDays trades) := by
  have hcurve : (cumulativeCurve 0 trades).Pairwise fun a b => a.1 ≤ b.1 := by
    rw [← List.pairwise_map, map_fst_cumulativeCurve, List.pairwise_map]
    exact horder.imp le_of_lt
  have hsorted : (cumulativeSeries trades).Pairwise fun a b => a.1 ≤ b.1 := by
    cases trades with
    | nil => exact hcurve
    | cons first rest =>
        refine List.pairwise_cons.2 ⟨?_, hcurve⟩
        intro point hpoint
        rcases List.mem_cons.1 hpoint with rfl | hlater
        · exact le_rfl
        · exact (List.pairwise_cons.1 hcurve).1 point hlater
  have hlongest := Underwater.longest_isLongest _ hsorted
  rw [longestUnderwaterDays_eq]
  unfold longestDuration
  cases hfound : Underwater.longest (cumulativeSeries trades) with
  | none =>
      rw [hfound] at hlongest
      intro start stop hdrought
      exact sub_nonpos.1 (hlongest start stop hdrought)
  | some period =>
      rw [hfound] at hlongest
      rcases hlongest with ⟨hdrought, hpositive, hall⟩
      have hdays : ((msPerDay : ℤ) : ℚ) ≠ 0 := by decide
      rw [Option.map_some, Option.getD_some, if_pos hpositive]
      refine ⟨period.1, period.2, hdrought, sub_pos.1 hpositive, ?_, hall⟩
      rw [div_mul_cancel₀ _ hdays]
      exact Int.cast_sub period.2 period.1

end Cumulative

end TradingAgent
