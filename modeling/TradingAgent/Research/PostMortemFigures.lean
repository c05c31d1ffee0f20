import TradingAgent.Metrics.ExtendedFigures
import TradingAgent.Research.PostMortemReport

/-!
# Post-mortem figures — what the figures of the report say of the trades

* `exclusions_worst_case`: what is left without the best trades is the least that is left without any
  so many;
* `concentration_least`: the numbers of trades to the net profit are the least that can make it, and
  the top shares the greatest that so many trades can have.
-/

open scoped List

namespace TradingAgent

/-! ## The best trades -/

section Best

variable {trades removed chosen : List Trade}

theorem map_rankedTrades (trades : List Trade) :
    (rankedTrades trades).map Trade.pnlQuote = Ranking.ranked (trades.map Trade.pnlQuote) :=
  List.map_mergeSort fun _ _ _ _ => rfl

theorem rankedTrades_perm (trades : List Trade) : rankedTrades trades ~ trades :=
  List.mergeSort_perm trades _

theorem subperm_map {α β : Type} (f : α → β) {l l' : List α} (h : l <+~ l') :
    l.map f <+~ l'.map f := by
  rcases h with ⟨m, hperm, hsub⟩
  exact ⟨m.map f, hperm.map f, hsub.map f⟩

/-- What the trades make without some `k` of them. -/
def leftWithout (trades : List Trade) (k : ℕ) : Set ℚ :=
  {x | ∃ removed, removed <+~ trades ∧ removed.length = k ∧
    x = (trades.map Trade.pnlQuote).sum - (removed.map Trade.pnlQuote).sum}

theorem isLeast_leftWithout {k : ℕ} (hk : k ≤ trades.length) :
    IsLeast (leftWithout trades k) ((trades.map Trade.pnlQuote).sum -
      (((rankedTrades trades).take k).map Trade.pnlQuote).sum) := by
  constructor
  · refine ⟨(rankedTrades trades).take k, ?_, ?_, rfl⟩
    · exact (List.take_sublist k _).subperm.trans (rankedTrades_perm trades).subperm
    · rw [List.length_take, (rankedTrades_perm trades).length_eq, min_eq_left hk]
  · rintro x ⟨removed, hremoved, rfl, rfl⟩
    have htop := Ranking.sum_le_topSum (subperm_map Trade.pnlQuote hremoved)
    rw [List.length_map] at htop
    rw [List.map_take, map_rankedTrades]
    exact sub_le_sub_left htop _

/-- Each exclusion takes as many trades as it names, or all there are, and leaves the least that is
left without any so many: it stays positive exactly if no such choice of trades carries the profit. -/
theorem exclusions_worst_case (trades : List Trade) (e : ExclusionResult)
    (h : e ∈ exclusionResults trades) :
    e.tradesExcluded = min (e.exclusion.count trades.length) trades.length ∧
      IsLeast (leftWithout trades e.tradesExcluded) e.netPnlQuote ∧
      (e.remainsPositive = true ↔ ∀ x ∈ leftWithout trades e.tradesExcluded, 0 < x) := by
  rcases List.mem_map.1 h with ⟨exclusion, -, rfl⟩
  by_cases hnone : trades = []
  · -- of no trades nothing is excluded, and nothing remains
    have hleast : IsLeast (leftWithout [] 0) 0 := by
      simpa using isLeast_leftWithout (le_refl ([] : List Trade).length)
    rw [if_pos hnone, hnone]
    refine ⟨(min_eq_right (Nat.zero_le _)).symm, hleast, ?_⟩
    constructor
    · intro hpositive
      cases hpositive
    · intro hall
      exact absurd (hall 0 hleast.1) (lt_irrefl 0)
  · have hleast := isLeast_leftWithout (min_le_right (exclusion.count trades.length) trades.length)
    rw [if_neg hnone]
    refine ⟨rfl, hleast, ?_⟩
    rw [exclusionResult, decide_eq_true_eq]
    constructor
    · intro hpositive x hx
      exact hpositive.trans_le (hleast.2 hx)
    · intro hall
      exact hall _ hleast.1

namespace Scenario

/-- The best of three trades makes more than all of them. -/
def ranked : List Trade :=
  [trade 0 5, trade 1 1, trade 2 (-2)]

theorem rankedTrades_ranked : rankedTrades ranked = ranked :=
  List.mergeSort_of_pairwise (by decide +kernel)

end Scenario

theorem exclusions_worst_case_ranked :
    IsLeast (leftWithout Scenario.ranked 1) (-1) := by
  have hresult : (⟨.bestTrade, 1, -1, false⟩ : ExclusionResult) ∈
      exclusionResults Scenario.ranked := by
    refine List.mem_map.2 ⟨.bestTrade, by simp, ?_⟩
    rw [if_neg (by decide), exclusionResult, Scenario.rankedTrades_ranked]
    decide +kernel
  exact (exclusions_worst_case _ _ hresult).2.1

/-! ## Concentration -/

/-- The loop finds the first running sums that reach half of the profit and all of it. -/
theorem concentrationLoop_some (netProfit : ℚ) (ranked : List ℚ) (cumulative : ℚ) (i k : ℕ) :
    concentrationLoop netProfit ranked cumulative i (some k) =
      (some k, Ranking.reach netProfit cumulative i ranked) := by
  induction ranked generalizing cumulative i with
  | nil => rfl
  | cons pnl rest ih =>
      by_cases hreached : netProfit ≤ cumulative + pnl
      · simp only [concentrationLoop, Ranking.reach, reduceCtorEq, false_and, if_false,
          if_pos hreached]
      · simp only [concentrationLoop, Ranking.reach, reduceCtorEq, false_and, if_false,
          if_neg hreached, ih]

theorem concentrationLoop_none {netProfit : ℚ} (hprofit : 0 < netProfit) (ranked : List ℚ)
    (cumulative : ℚ) (i : ℕ) :
    concentrationLoop netProfit ranked cumulative i none =
      (Ranking.reach (netProfit * (1 / 2)) cumulative i ranked,
        Ranking.reach netProfit cumulative i ranked) := by
  induction ranked generalizing cumulative i with
  | nil => rfl
  | cons pnl rest ih =>
      by_cases hhalf : netProfit * (1 / 2) ≤ cumulative + pnl
      · simp only [concentrationLoop, Ranking.reach, true_and, if_pos hhalf,
          concentrationLoop_some]
        by_cases hreached : netProfit ≤ cumulative + pnl
        · rw [if_pos hreached, if_pos hreached]
        · rw [if_neg hreached, if_neg hreached]
      · -- below half of the profit the sum is below all of it
        have hreached : ¬ netProfit ≤ cumulative + pnl := by
          intro hle
          exact hhalf (le_trans (by linarith) hle)
        simp only [concentrationLoop, Ranking.reach, true_and, if_neg hhalf, if_neg hreached, ih]

/-- The winners of a selection are winners of the whole, and make no less than the selection. -/
theorem sum_le_wins (chosen : List Trade) :
    (chosen.map Trade.pnlQuote).sum ≤ (wins chosen).sum := by
  induction chosen with
  | nil => rfl
  | cons t rest ih =>
      by_cases hwin : 0 < t.pnlQuote
      · rw [wins, List.map_cons, List.filter_cons_of_pos (by simpa using hwin), List.sum_cons,
          List.sum_cons]
        exact add_le_add_right ih _
      · rw [wins, List.map_cons, List.filter_cons_of_neg (by simpa using hwin), List.sum_cons]
        exact (add_le_of_nonpos_left (not_lt.1 hwin)).trans ih

theorem wins_subperm (h : chosen <+~ trades) : wins chosen <+~ wins trades :=
  (subperm_map Trade.pnlQuote h).filter _

theorem wins_pos {x : ℚ} (h : x ∈ wins trades) : 0 < x := by
  simpa using (List.mem_filter.1 h).2

/-- The share of some `n` trades, or fewer, in what all winners made. -/
def sharesOf (trades : List Trade) (n : ℕ) : Set ℚ :=
  {x | ∃ chosen, chosen <+~ trades ∧ chosen.length ≤ n ∧
    x = (chosen.map Trade.pnlQuote).sum / (wins trades).sum * 100}

/-- The share of the `n` largest winners is the greatest of any `n` trades. -/
theorem isGreatest_topPct (trades : List Trade) (n : ℕ) (hgross : 0 < (wins trades).sum) :
    ∃ share, topPctOfPositivePnl trades n = some share ∧ IsGreatest (sharesOf trades n) share := by
  have hsum : (rankedWinners trades).sum = (wins trades).sum :=
    (Ranking.ranked_perm (wins trades)).sum_eq
  have hscale : ∀ {a b : ℚ}, a ≤ b → a / (wins trades).sum * 100 ≤ b / (wins trades).sum * 100 :=
    fun hab => mul_le_mul_of_nonneg_right ((div_le_div_iff_of_pos_right hgross).2 hab) (by norm_num)
  refine ⟨((rankedWinners trades).take n).sum / (wins trades).sum * 100, ?_, ?_, ?_⟩
  · rw [topPctOfPositivePnl, hsum, if_pos hgross]
  · -- the winning trades themselves, ranked
    have hwins : wins (trades.filter fun t => 0 < t.pnlQuote) = wins trades := by
      simp [wins, List.filter_map, List.filter_filter, Function.comp_def]
    have hmap : (trades.filter fun t => 0 < t.pnlQuote).map Trade.pnlQuote = wins trades := by
      simp [wins, List.filter_map, Function.comp_def]
    refine ⟨(rankedTrades (trades.filter fun t => 0 < t.pnlQuote)).take n, ?_, ?_, ?_⟩
    · exact ((List.take_sublist n _).subperm.trans (rankedTrades_perm _).subperm).trans
        List.filter_sublist.subperm
    · rw [List.length_take]
      exact min_le_left _ _
    · rw [List.map_take, map_rankedTrades, hmap, rankedWinners]
  · rintro x ⟨chosen, hchosen, hlength, rfl⟩
    refine hscale ?_
    have hcount : (wins chosen).length ≤ n := by
      calc (wins chosen).length ≤ (chosen.map Trade.pnlQuote).length := List.length_filter_le _ _
        _ = chosen.length := List.length_map _
        _ ≤ n := hlength
    calc (chosen.map Trade.pnlQuote).sum ≤ (wins chosen).sum := sum_le_wins chosen
      _ ≤ ((rankedWinners trades).take (wins chosen).length).sum :=
          Ranking.sum_le_topSum (wins_subperm hchosen)
      _ ≤ ((rankedWinners trades).take n).sum := by
          refine (List.take_prefix_take_left hcount).sublist.sum_le_sum ?_
          intro a ha
          exact (wins_pos ((Ranking.ranked_perm _).mem_iff.1 (List.mem_of_mem_take ha))).le

/-- Of trades with a net profit: the least number of trades that make half of it, and all of it; and
the greatest shares that one, three and five trades can have in what the winners made. -/
theorem concentration_least (trades : List Trade)
    (hprofit : 0 < (trades.map Trade.pnlQuote).sum) :
    (∃ k, (concentrationStats trades).tradesToReach50PctOfNetProfit = some k ∧
      Ranking.IsLeastReach (trades.map Trade.pnlQuote) ((trades.map Trade.pnlQuote).sum * (1 / 2))
        k) ∧
    (∃ k, (concentrationStats trades).tradesToReach100PctOfNetProfit = some k ∧
      Ranking.IsLeastReach (trades.map Trade.pnlQuote) (trades.map Trade.pnlQuote).sum k) ∧
    (∃ share, (concentrationStats trades).top1PctOfPositivePnl = some share ∧
      IsGreatest (sharesOf trades 1) share) ∧
    (∃ share, (concentrationStats trades).top3PctOfPositivePnl = some share ∧
      IsGreatest (sharesOf trades 3) share) ∧
    ∃ share, (concentrationStats trades).top5PctOfPositivePnl = some share ∧
      IsGreatest (sharesOf trades 5) share := by
  have hgross : 0 < (wins trades).sum := hprofit.trans_le (sum_le_wins trades)
  have hhalf : 0 < (trades.map Trade.pnlQuote).sum * (1 / 2) := by linarith
  have hloop := concentrationLoop_none hprofit (Ranking.ranked (trades.map Trade.pnlQuote)) 0 0
  refine ⟨?_, ?_, isGreatest_topPct trades 1 hgross, isGreatest_topPct trades 3 hgross,
    isGreatest_topPct trades 5 hgross⟩
  · have hpart : (trades.map Trade.pnlQuote).sum * (1 / 2) ≤ (trades.map Trade.pnlQuote).sum := by
      linarith
    rcases Ranking.exists_reach hhalf hpart with ⟨k, hk⟩
    refine ⟨k, ?_, Ranking.isLeastReach_of_reach hhalf hk⟩
    simp only [concentrationStats, if_pos hprofit, hloop, hk]
  · rcases Ranking.exists_reach hprofit le_rfl with ⟨k, hk⟩
    refine ⟨k, ?_, Ranking.isLeastReach_of_reach hprofit hk⟩
    simp only [concentrationStats, if_pos hprofit, hloop, hk]

theorem concentration_least_ranked :
    (∃ k, (concentrationStats Scenario.ranked).tradesToReach50PctOfNetProfit = some k ∧
      Ranking.IsLeastReach (Scenario.ranked.map Trade.pnlQuote)
        ((Scenario.ranked.map Trade.pnlQuote).sum * (1 / 2)) k) ∧
    (∃ k, (concentrationStats Scenario.ranked).tradesToReach100PctOfNetProfit = some k ∧
      Ranking.IsLeastReach (Scenario.ranked.map Trade.pnlQuote)
        (Scenario.ranked.map Trade.pnlQuote).sum k) ∧
    (∃ share, (concentrationStats Scenario.ranked).top1PctOfPositivePnl = some share ∧
      IsGreatest (sharesOf Scenario.ranked 1) share) ∧
    (∃ share, (concentrationStats Scenario.ranked).top3PctOfPositivePnl = some share ∧
      IsGreatest (sharesOf Scenario.ranked 3) share) ∧
    ∃ share, (concentrationStats Scenario.ranked).top5PctOfPositivePnl = some share ∧
      IsGreatest (sharesOf Scenario.ranked 5) share :=
  concentration_least Scenario.ranked (by decide +kernel)

end Best

end TradingAgent
