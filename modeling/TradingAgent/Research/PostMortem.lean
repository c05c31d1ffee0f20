import TradingAgent.Backtest.EntryPlans
import TradingAgent.Research.FixedDuration
import TradingAgent.Shadow.Engine

/-!
# Post-mortem — closed trades correlated with their plans by index

`research/post_mortem.py` and the shadow engine both look up the plan of the `i`-th closed trade at
index `i` of the per-entry lists.

* `correlateTradesWithPlans` is the correlation of a block's trades;
* `entry_plans_aligned`: the lists have one figure for each entry, and index `i` is the plan the
  `i`-th closed trade was opened under.
-/

namespace TradingAgent

/-- One closed trade with the plan it is correlated with. -/
structure TradeRecord where
  trade : Trade
  segmentIndex : ℕ
  blockIndex : ℕ
  plannedRiskQuote : Option ℚ
  plannedRewardQuote : Option ℚ
  plannedNetRewardToRisk : Option ℚ
  rMultiple : Option ℚ
  isGapThroughStop : Option Bool
  deriving DecidableEq, Repr

/-- The realized profit as a multiple of the planned risk. -/
def rMultiple (trade : Trade) (plannedRisk : Option ℚ) : Option ℚ :=
  plannedRisk.bind fun risk => if risk > 0 then some (trade.pnlQuote / risk) else none

/-- Known for a stop exit with a planned risk only. -/
def isGapThroughStop (trade : Trade) (plannedRisk : Option ℚ) : Option Bool :=
  if trade.exitReason = .stopLoss then
    plannedRisk.map fun risk => decide (-trade.pnlQuote > risk)
  else none

def tradeRecord (block : BlockSpec) (trade : Trade)
    (plannedRisk plannedReward plannedNetRr : Option ℚ) : TradeRecord where
  trade := trade
  segmentIndex := block.segmentIndex
  blockIndex := block.blockIndex
  plannedRiskQuote := plannedRisk
  plannedRewardQuote := plannedReward
  plannedNetRewardToRisk := plannedNetRr
  rMultiple := TradingAgent.rMultiple trade plannedRisk
  isGapThroughStop := TradingAgent.isGapThroughStop trade plannedRisk

/-- `_correlate_trades_with_plans`. -/
def correlateTradesWithPlans {ρ : Type} (block : BlockResult ρ) : List TradeRecord :=
  block.trades.mapIdx fun i trade =>
    tradeRecord block.block trade
      (block.riskReward.bind fun rr => rr.plannedRiskQuoteValues[i]?)
      (block.riskReward.bind fun rr => rr.plannedRewardQuoteValues[i]?)
      (block.riskReward.bind fun rr => rr.netRewardToRiskValues[i]?)

section Aligned

variable {env : RunEnv} {traces : List CandleTrace} {es : List RunEntry} {v : LoopVars} {S : ℚ}

/-- The diagnostics of a run hold the figures of these plans. -/
theorem buildRiskReward_figures {plans : List RiskRewardPlan} (h : v.diag.planFigures.Of plans) :
    (buildRiskReward v).entriesApproved = plans.length ∧
      (buildRiskReward v).plannedRiskQuoteValues.map some =
        plans.map RiskRewardPlan.plannedRiskQuote ∧
      (buildRiskReward v).plannedRewardQuoteValues.map some =
        plans.map RiskRewardPlan.plannedRewardQuote ∧
      (buildRiskReward v).netRewardToRiskValues.map some =
        plans.map RiskRewardPlan.netRewardToRisk :=
  ⟨h.approved, h.risk, h.reward, h.net⟩

/-- A position is open exactly while the portfolio is long. -/
theorem LoopInvariant.length_openTrade (h : LoopInvariant env S v) :
    v.state.openTrade.toList.length = if v.state.portfolio.positionSide = .long then 1 else 0 := by
  by_cases hlong : v.state.portfolio.positionSide = .long
  · rcases h.holding_of_long hlong with ⟨o, ho, -⟩
    simp [hlong, ho]
  · have hflat : v.state.portfolio.positionSide = .flat := by
      cases hside : v.state.portfolio.positionSide with
      | flat => rfl
      | long => exact absurd hside hlong
    simp [hlong, (h.openTrade_of_flat hflat).1]

/-- One figure of each kind for each entry, and an entry for each closed trade and the open one. -/
structure OneFigurePerEntry (r : SegmentRunResult) (rr : RiskRewardDiagnostics) : Prop where
  risk : rr.plannedRiskQuoteValues.length = rr.entriesApproved
  reward : rr.plannedRewardQuoteValues.length = rr.entriesApproved
  net : rr.netRewardToRiskValues.length = rr.entriesApproved
  approved : rr.entriesApproved = r.diagnostics.executedEntries
  executed : r.diagnostics.executedEntries =
    r.trades.length + if r.endsWithOpenPosition = true then 1 else 0

/-- The `i`-th closed trade is `t`, of this entry, and index `i` is the entry's plan in every list
and in both correlations. -/
structure CorrelatedAt (env : RunEnv) (traces : List CandleTrace) (r : SegmentRunResult)
    (rr : RiskRewardDiagnostics) (i : ℕ) (t : Trade) (e : RunEntry) : Prop where
  opens : ∃ tr, traces[e.index]? = some tr ∧ e.OpenedOn env tr
  closes : ∃ j tr, e.index ≤ j ∧ traces[j]? = some tr ∧ e.ClosedOn tr t
  risk : rr.plannedRiskQuoteValues[i]? = e.plan.plannedRiskQuote
  reward : rr.plannedRewardQuoteValues[i]? = e.plan.plannedRewardQuote
  net : rr.netRewardToRiskValues[i]? = e.plan.netRewardToRisk
  shadow : (shadowTradeRecords r)[i]? =
    some ⟨t, e.plan.plannedRiskQuote, e.plan.netRewardToRisk⟩
  postMortem : ∀ {ρ : Type} (block : BlockResult ρ), block.trades = r.trades →
    block.riskReward = r.riskReward → (correlateTradesWithPlans block)[i]? =
      some (tradeRecord block.block t e.plan.plannedRiskQuote e.plan.plannedRewardQuote
        e.plan.netRewardToRisk)

theorem EntryPlans.oneFigurePerEntry (h : EntryPlans env traces es v) (hinv : LoopInvariant env S v)
    (last : Candle) : OneFigurePerEntry (buildResult env S last v) (buildRiskReward v) := by
  rcases buildRiskReward_figures h.figures with ⟨happroved, hrisk, hreward, hnet⟩
  constructor
  case risk => simpa [happroved] using congrArg List.length hrisk
  case reward => simpa [happroved] using congrArg List.length hreward
  case net => simpa [happroved] using congrArg List.length hnet
  case approved => exact h.figures.approved.trans h.figures.executed.symm
  case executed =>
      calc v.diag.executedEntries = es.length :=
            h.figures.executed.trans (List.length_map RunEntry.plan)
        _ = v.trades.length + v.state.openTrade.toList.length := h.length_eq
        _ = _ := by
          rw [hinv.length_openTrade]
          simp [buildResult]

/-- The entry of the `i`-th closed trade is the `i`-th entry, so its plan is at index `i`. -/
theorem EntryPlans.correlatedAt (h : EntryPlans env traces es v)
    (hpolicy : env.useFixedRiskRewardPolicy = true) (last : Candle) {i : ℕ} {t : Trade}
    (ht : v.trades[i]? = some t) :
    ∃ e, CorrelatedAt env traces (buildResult env S last v) (buildRiskReward v) i t e := by
  rcases h.closes i t ht with ⟨e, j, tr, he, hle, hj, hclosed⟩
  rcases buildRiskReward_figures h.figures with ⟨-, hrisk, hreward, hnet⟩
  have hplan : (es.map RunEntry.plan)[i]? = some e.plan := by rw [List.getElem?_map, he]; rfl
  have hriskAt : (buildRiskReward v).plannedRiskQuoteValues[i]? = e.plan.plannedRiskQuote :=
    getElem?_of_map_some hrisk (by rw [List.getElem?_map, hplan]; rfl)
  have hrewardAt : (buildRiskReward v).plannedRewardQuoteValues[i]? = e.plan.plannedRewardQuote :=
    getElem?_of_map_some hreward (by rw [List.getElem?_map, hplan]; rfl)
  have hnetAt : (buildRiskReward v).netRewardToRiskValues[i]? = e.plan.netRewardToRisk :=
    getElem?_of_map_some hnet (by rw [List.getElem?_map, hplan]; rfl)
  have hrr : (buildResult env S last v).riskReward = some (buildRiskReward v) := if_pos hpolicy
  refine ⟨e, ?_⟩
  constructor
  case opens => exact h.opens e (List.mem_of_getElem? he)
  case closes => exact ⟨j, tr, hle, hj, hclosed⟩
  case risk => exact hriskAt
  case reward => exact hrewardAt
  case net => exact hnetAt
  case shadow =>
      have htrade : (buildResult env S last v).trades[i]? = some t := ht
      simp only [shadowTradeRecords, List.getElem?_mapIdx, htrade, Option.map_some, hrr,
        Option.bind_some, hriskAt, hnetAt]
  case postMortem =>
      intro ρ block htrades hriskReward
      have htrade : block.trades[i]? = some t := by rw [htrades]; exact ht
      simp only [correlateTradesWithPlans, List.getElem?_mapIdx, htrade, Option.map_some,
        hriskReward, hrr, Option.bind_some, hriskAt, hrewardAt, hnetAt]

end Aligned

/-- In every run under the policy the per-entry lists have one figure for each entry, and index `i`
of each is the plan the `i`-th closed trade was opened under. -/
theorem entry_plans_aligned (config : AppConfig) (filters : SymbolFilters) (strategy : Strategy)
    (minRequired : ℕ) (hpos : 0 < minRequired) (segment : List Candle) (S : ℚ)
    (journal j : Journal) (r : SegmentRunResult)
    (h : runSegment (.standard config filters strategy minRequired hpos true) segment S journal =
      .ok (r, j)) :
    ∃ traces v rr,
      traceSegment (.standard config filters strategy minRequired hpos true) segment S journal =
          .ok (traces, v) ∧
        r.riskReward = some rr ∧ OneFigurePerEntry r rr ∧
        ∀ (i : ℕ) t, r.trades[i]? = some t → ∃ e,
          CorrelatedAt (.standard config filters strategy minRequired hpos true) traces r rr i t e := by
  have henv := RunEnv.standard_standard config filters strategy minRequired hpos true
  rcases runSegment_traced h with ⟨traces, last, v, -, htraces, rfl, rfl⟩
  rcases traceSegment_entryPlans henv rfl htraces with ⟨hinv, es, hes⟩
  refine ⟨traces, v, buildRiskReward v, htraces, rfl, hes.oneFigurePerEntry hinv last, ?_⟩
  intro i t ht
  exact hes.correlatedAt rfl last ht

/-- An entry, its exit at a profit, and an entry that is still open at the end. -/
def Scenario.twoEntries : List Candle :=
  [Scenario.candle 0 100 100, Scenario.candle 1 100 104, Scenario.candle 2 104 100,
    Scenario.candle 3 100 100]

/-- One closed trade and two figures of each kind. -/
theorem entry_plans_aligned_open_tail :
    ∃ r j rr t e traces, runSegment (Scenario.env true) Scenario.twoEntries 50 none = .ok (r, j) ∧
      r.riskReward = some rr ∧ rr.plannedRiskQuoteValues.length = 2 ∧ r.trades[0]? = some t ∧
      CorrelatedAt (Scenario.env true) traces r rr 0 t e := by
  rcases exists_of_isOk (x := runSegment (Scenario.env true) Scenario.twoEntries 50 none)
    (by decide +kernel) with ⟨⟨r, j⟩, h⟩
  have hfields : (runSegment (Scenario.env true) Scenario.twoEntries 50 none).map
        (fun x => (x.1.diagnostics.executedEntries, x.1.trades[0]?.isSome)) = .ok (2, true) := by
    decide +kernel
  rw [h] at hfields
  rcases Prod.mk.inj (Except.ok.inj hfields) with ⟨hexecuted, hsome⟩
  rcases Option.isSome_iff_exists.1 hsome with ⟨t, ht⟩
  rcases entry_plans_aligned {} Scenario.filters Scenario.alternating 1 Nat.one_pos _ 50 none j r h
    with ⟨traces, v, rr, -, hrr, hone, hall⟩
  rcases hall 0 t ht with ⟨e, he⟩
  exact ⟨r, j, rr, t, e, traces, h, hrr, by rw [hone.risk, hone.approved, hexecuted], ht, he⟩

end TradingAgent
