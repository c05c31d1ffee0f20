import TradingAgent.Backtest.EntryPlans
import TradingAgent.Shadow.Engine

/-!
# Displayed plan — the plan in a notification is the plan that was traded

The message about an entry is built after the run, from what the run has persisted: the equity is
read off the curve and the plan is computed once more.

* `Chained` says what a candle starts from; an entry is never on the first one;
* `equityBefore_entry`: the last point before an entry is the equity it was planned with;
* `displayed_plan_is_traded`: for every entry, open or closed, the plan is the stored one.
-/

namespace TradingAgent

section Chain

variable {env : RunEnv} {hist traces : List CandleTrace} {tr : CandleTrace} {v : LoopVars} {S : ℚ}

/-- Each candle with a pending signal starts from where the one before it ended. -/
structure Chained (env : RunEnv) (hist : List CandleTrace) (v : LoopVars) : Prop where
  valid : ∀ tr ∈ hist, ∃ seen, tr.Valid env seen
  before : ∀ (i : ℕ) tr, hist[i]? = some tr → tr.before.pendingSignal.isSome = true →
    ∃ prev, 0 < i ∧ hist[i - 1]? = some prev ∧ tr.before = prev.closed
  pending : v.pendingSignal.isSome = true → ∃ last, hist.getLast? = some last ∧ v = last.closed

theorem Chained.step {seen : List Candle} (h : Chained env hist tr.before)
    (htr : tr.Valid env seen) : Chained env (hist ++ [tr]) tr.closed := by
  constructor
  case valid =>
      intro tr' htr'
      rcases List.mem_append.1 htr' with hold | hnew
      · exact h.valid tr' hold
      · rw [List.mem_singleton] at hnew
        exact ⟨seen, hnew ▸ htr⟩
  case before =>
      intro i tr' htr' hpending
      rcases Nat.lt_trichotomy i hist.length with hlt | rfl | hgt
      · rw [List.getElem?_append_left hlt] at htr'
        rcases h.before i tr' htr' hpending with ⟨prev, hpos, hprev, hbefore⟩
        exact ⟨prev, hpos, getElem?_grow hprev tr, hbefore⟩
      · have hsame : tr' = tr := by simpa using htr'.symm
        subst hsame
        -- the signal was left by the last candle of the history
        rcases h.pending hpending with ⟨last, hlast, hbefore⟩
        rw [List.getLast?_eq_getElem?] at hlast
        refine ⟨last, ?_, getElem?_grow hlast tr', hbefore⟩
        have hlt := (List.getElem?_eq_some_iff.1 hlast).1
        omega
      · rw [List.getElem?_eq_none (by simp; omega)] at htr'
        cases htr'
  case pending => exact fun _ => ⟨tr, by simp, rfl⟩

theorem traceSegment_chained {segment : List Candle} {journal : Journal}
    (h : traceSegment env segment S journal = .ok (traces, v)) : Chained env traces v := by
  refine (traceSegment_induct (fun hist u => Chained env hist u) h ?_ ?_).1
  · intro first _
    constructor
    case valid => simp
    case before => simp
    case pending => simp [initialVars]
  · intro hist seen tr rest htr hchained _
    exact hchained.step htr

/-- Only a pending signal opens a position. -/
theorem RunEntry.OpenedOn.pending {seen : List Candle} {e : RunEntry} (h : e.OpenedOn env tr)
    (htr : tr.Valid env seen) : tr.before.pendingSignal.isSome = true := by
  rcases fillPending_cases htr.fills with ⟨-, hsame⟩ | ⟨signalType, m, hpending, -, -⟩
  · have hheld := h.held
    rw [hsame, h.flat] at hheld
    cases hheld
  · rw [htr.atOpen_eq] at hpending
    have hbefore : tr.before.pendingSignal = some signalType := by
      simpa [rollDay] using hpending
    simp [hbefore]

/-- Without a position the equity is the cash, at any price. -/
theorem LoopInvariant.equity_of_flat (h : LoopInvariant env S v)
    (hnone : v.state.openTrade = none) (price : ℚ) :
    v.state.portfolio.equity price = v.state.portfolio.quoteBalance := by
  have hposition := h.position
  simp only [PositionInvariant, hnone] at hposition
  simp [PortfolioState.equity, h.books.flatBase hposition.1]

/-- The equity an entry is planned with is the one recorded at the close before it. -/
theorem Chained.equity_of_entry (h : Chained env traces v) (hkept : ∀ tr ∈ traces, tr.Kept env S)
    {e : RunEntry} (htr : traces[e.index]? = some tr) (hopened : e.OpenedOn env tr) :
    ∃ prev, 0 < e.index ∧ traces[e.index - 1]? = some prev ∧
      prev.point.equity = tr.equityAtOpen := by
  have hmem := List.mem_of_getElem? htr
  rcases h.valid tr hmem with ⟨seen, hvalid⟩
  rcases h.before e.index tr htr (hopened.pending hvalid) with ⟨prev, hpos, hprev, hbefore⟩
  have hflat : tr.before.state.openTrade = none := by
    have hopen := hopened.flat
    rwa [hvalid.atOpen_eq, rollDay_openTrade] at hopen
  have hinv := (hkept tr hmem).before
  refine ⟨prev, hpos, hprev, ?_⟩
  calc prev.point.equity = tr.before.state.portfolio.equity prev.candle.close := by rw [hbefore]; rfl
    _ = tr.before.state.portfolio.quoteBalance := hinv.equity_of_flat hflat _
    _ = tr.equityAtOpen := (hinv.equity_of_flat hflat _).symm

end Chain

/-! ## The curve before an entry -/

/-- Over candles that follow one another, the points before a candle's open are those of the candles
before it. -/
theorem takeWhile_points {traces : List CandleTrace} {i : ℕ} {tr : CandleTrace}
    (hspaced : (traces.map CandleTrace.candle).Pairwise fun a b => a.closeTimeMs < b.openTimeMs)
    (hcloses : tr.candle.openTimeMs ≤ tr.candle.closeTimeMs) (htr : traces[i]? = some tr) :
    (traces.map CandleTrace.point).takeWhile
        (fun point => point.timestampMs < tr.candle.openTimeMs) =
      (traces.take i).map CandleTrace.point := by
  rcases List.getElem?_eq_some_iff.1 htr with ⟨hi, hget⟩
  have hdrop : traces.drop i = tr :: traces.drop (i + 1) := by
    rw [← hget]
    exact List.drop_eq_getElem_cons hi
  have hearlier : ∀ point ∈ (traces.take i).map CandleTrace.point,
      decide (point.timestampMs < tr.candle.openTimeMs) = true := by
    intro point hpoint
    rcases List.mem_map.1 hpoint with ⟨old, hold, rfl⟩
    rw [List.pairwise_map] at hspaced
    rw [← List.take_append_drop i traces, hdrop] at hspaced
    exact decide_eq_true ((List.pairwise_append.1 hspaced).2.2 old hold tr List.mem_cons_self)
  conv_lhs => rw [← List.take_append_drop i traces, hdrop, List.map_append]
  rw [List.takeWhile_append_of_pos hearlier, List.map_cons, List.takeWhile_cons_of_neg, List.append_nil]
  -- the entry's own point is stamped with its close, which is not before its open
  exact fun hearlierClose => not_lt.2 hcloses (of_decide_eq_true hearlierClose)

/-- `_equity_before` finds the equity the entry was planned with. -/
theorem equityBefore_entry {env : RunEnv} {traces : List CandleTrace} {v : LoopVars} {S : ℚ}
    {tr : CandleTrace} {e : RunEntry} (h : Chained env traces v)
    (hkept : ∀ tr ∈ traces, tr.Kept env S)
    (hspaced : (traces.map CandleTrace.candle).Pairwise fun a b => a.closeTimeMs < b.openTimeMs)
    (hcloses : tr.candle.openTimeMs ≤ tr.candle.closeTimeMs) (htr : traces[e.index]? = some tr)
    (hopened : e.OpenedOn env tr) (fallback : ℚ) :
    equityBefore (traces.map CandleTrace.point) e.opened.entryTimeMs fallback = tr.equityAtOpen := by
  rcases h.equity_of_entry hkept htr hopened with ⟨prev, hpos, hprev, hequity⟩
  have hlt := (List.getElem?_eq_some_iff.1 htr).1
  have hlast : (traces.take e.index).getLast? = some prev := by
    rw [List.getLast?_eq_getElem?, List.length_take, min_eq_left hlt.le,
      List.getElem?_take_of_lt (by omega), hprev]
  rw [equityBefore, hopened.filled.timeMs, takeWhile_points hspaced hcloses htr, List.getLast?_map,
    hlast]
  exact hequity

/-! ## The plan, computed once more -/

/-- What re-validation leaves of the plan before it. -/
theorem revalidatedPlan_congr {plan plan' : RiskRewardPlan} (hquantity : plan.quantity = plan'.quantity)
    (hreason : plan.reasonCode = plan'.reasonCode) (fill d fee slippage equity q target : ℚ) :
    revalidatedPlan plan fill d fee slippage equity q target =
      revalidatedPlan plan' fill d fee slippage equity q target := by
  simp only [revalidatedPlan, hquantity, hreason]

/-- The plan computed for the message is the one the position was opened under. -/
theorem FilledUnder.displayed {env : RunEnv} {candle : Candle} {equity : ℚ} {o : OpenTrade}
    {plan : RiskRewardPlan} (h : FilledUnder env candle equity o plan) :
    computeRealizedPlanForDisplay o.entryPrice o.quantity equity env.config env.filters =
      .ok plan := by
  rcases h.realized with ⟨-, planned, -, happroved, hquantity, hreason, hbuilt⟩
  rcases buildRealizedPlan_assessed hbuilt hquantity h.approved with ⟨raw, target, hbasis, hplan⟩
  have hfill : 0 < o.entryPrice := by
    rw [h.price, entryPrice]
    have hslippage := env.config.fees.slippagePctNonneg
    exact mul_pos h.openPos (by linarith)
  have hdistance : o.entryPrice - o.entryPrice * (1 - env.config.stopLoss.stopDistancePct) ≠ 0 := by
    have hpos := mul_pos hfill env.config.stopLoss.stopDistancePctPos
    linarith
  unfold computeRealizedPlanForDisplay
  rw [hbasis.buildRealizedPlan_eq rfl rfl hdistance equity, hplan]
  exact congrArg Except.ok (revalidatedPlan_congr hquantity.symm hreason.symm _ _ _ _ _ _ _)

/-! ## Every entry of a run -/

/-- What the message about `e` is built from: the equity before it and the plan it was filled
under. -/
def entryNotice (symbol : String) (journal : List JournalEntry) (tr : CandleTrace) (e : RunEntry) :
    EntryNotice where
  eventId := entryEventId e.opened.entryTimeMs
  symbol := symbol
  signalTimeMs := e.opened.entryTimeMs - 1
  entry := openTradeToInfo e.opened
  equityBeforeEntry := tr.equityAtOpen
  realizedPlan := e.plan
  signalPayload := findBuySignal journal e.opened.entryTimeMs

/-- The entry of the message was opened on this candle, with the equity read off the curve, and the
plan of the message is the plan stored with the position. -/
structure DisplayedAsTraded (env : RunEnv) (curve : List EquityPoint) (S : ℚ) (tr : CandleTrace)
    (e : RunEntry) (entry : OpenPositionInfo) : Prop where
  opened : e.OpenedOn env tr
  info : entry = openTradeToInfo e.opened
  equity : equityBefore curve entry.entryTimeMs S = tr.equityAtOpen
  plan : computeRealizedPlanForDisplay entry.entryPrice entry.quantity
    (equityBefore curve entry.entryTimeMs S) env.config env.filters = .ok e.plan
  message : ∀ (setup : ShadowSetup) (rows : List JournalEntry) (nowMs : ℤ),
    setup.config = env.config →
      buildEntryNotificationEvent setup env.filters rows curve S nowMs entry =
        (setup.messages.entry (entryNotice setup.config.market.symbol rows tr e)).map fun text =>
          { eventId := entryEventId entry.entryTimeMs
            eventType := "entry"
            createdAtMs := nowMs
            payloadText := text }

theorem RunEntry.OpenedOn.displayedAsTraded {env : RunEnv} {curve : List EquityPoint} {S : ℚ}
    {tr : CandleTrace} {e : RunEntry} (h : e.OpenedOn env tr)
    (hequity : equityBefore curve e.opened.entryTimeMs S = tr.equityAtOpen) :
    DisplayedAsTraded env curve S tr e (openTradeToInfo e.opened) := by
  have hplan := h.filled.displayed
  rw [← hequity] at hplan
  constructor
  case opened => exact h
  case info => rfl
  case equity => exact hequity
  case plan => exact hplan
  case message =>
      intro setup rows nowMs hconfig
      rw [← hconfig] at hplan
      unfold buildEntryNotificationEvent
      simp only [openTradeToInfo, hplan, bind, Except.bind]
      rw [hequity]
      cases hmessage : setup.messages.entry (entryNotice setup.config.market.symbol rows tr e) with
      | error err =>
          simp only [entryNotice, openTradeToInfo] at hmessage
          simp [hmessage, Except.map]
      | ok text =>
          simp only [entryNotice, openTradeToInfo] at hmessage
          simp [hmessage, Except.map]

/-- The entries of a result's messages are those of its run. -/
theorem EntryPlans.exists_entry {env : RunEnv} {traces : List CandleTrace} {es : List RunEntry}
    {v : LoopVars} (h : EntryPlans env traces es v) (S : ℚ) (last : Candle)
    {entry : OpenPositionInfo}
    (hentry : entry ∈ (buildResult env S last v).openPosition.toList ++
      (buildResult env S last v).trades.map Trade.entry) :
    ∃ e ∈ es, entry = openTradeToInfo e.opened := by
  rcases List.mem_append.1 hentry with hopen | hclosed
  · rcases Option.map_eq_some_iff.1 (Option.mem_toList.1 hopen) with ⟨o, ho, rfl⟩
    rcases h.opened ho with ⟨e, he, rfl⟩
    exact ⟨e, List.mem_of_getElem? he, rfl⟩
  · rcases List.mem_map.1 hclosed with ⟨t, ht, rfl⟩
    rcases List.mem_iff_getElem?.1 ht with ⟨i, hi⟩
    rcases h.closes i t hi with ⟨e, j, tr, he, -, -, hclosedOn⟩
    rcases hclosedOn.entry with ⟨htime, hprice, hquantity, hfee, href⟩
    refine ⟨e, List.mem_of_getElem? he, ?_⟩
    simp only [Trade.entry, openTradeToInfo, htime, hprice, hquantity, hfee, href]

/-- In every run under the policy over candles that follow one another, the message of every entry,
open or closed, shows the plan the entry was traded under. -/
theorem displayed_plan_is_traded (config : AppConfig) (filters : SymbolFilters)
    (strategy : Strategy) (minRequired : ℕ) (hpos : 0 < minRequired) (segment : List Candle)
    (S : ℚ) (journal j : Journal) (r : SegmentRunResult)
    (hspaced : segment.Pairwise fun a b => a.closeTimeMs < b.openTimeMs)
    (hcloses : ∀ c ∈ segment, c.openTimeMs ≤ c.closeTimeMs)
    (h : runSegment (.standard config filters strategy minRequired hpos true) segment S journal =
      .ok (r, j)) :
    ∃ traces v,
      traceSegment (.standard config filters strategy minRequired hpos true) segment S journal =
          .ok (traces, v) ∧
        ∀ entry ∈ r.openPosition.toList ++ r.trades.map Trade.entry, ∃ tr ∈ traces, ∃ e,
          DisplayedAsTraded (.standard config filters strategy minRequired hpos true)
            r.equityCurve S tr e entry := by
  have henv := RunEnv.standard_standard config filters strategy minRequired hpos true
  rcases runSegment_traced h with ⟨traces, last, v, -, htraces, rfl, rfl⟩
  rcases traceSegment_entryPlans henv rfl htraces with ⟨-, es, hes⟩
  rcases traceSegment_kept henv htraces with ⟨hkept, -, hcurve⟩
  have hchained := traceSegment_chained htraces
  have hcandles := (traceSegment_induct (fun _ _ => True) htraces (fun _ _ => trivial)
    (fun _ _ _ _ _ _ _ => trivial)).2
  have hsub : (traces.map CandleTrace.candle).Sublist segment :=
    hcandles ▸ List.drop_sublist _ segment
  refine ⟨traces, v, htraces, ?_⟩
  intro entry hentry
  rcases hes.exists_entry S last hentry with ⟨e, he, rfl⟩
  rcases hes.opens e he with ⟨tr, htr, hopened⟩
  have hmem := List.mem_of_getElem? htr
  have hequity : equityBefore v.equityCurve e.opened.entryTimeMs S = tr.equityAtOpen := by
    rw [hcurve]
    exact equityBefore_entry hchained hkept (hspaced.sublist hsub)
      (hcloses _ (hsub.subset (List.mem_map_of_mem hmem))) htr hopened S
  exact ⟨tr, hmem, e, hopened.displayedAsTraded hequity⟩

/-- A closed trade and a position still open: both messages show what was traded. -/
theorem displayed_plan_is_traded_open_tail :
    ∃ r j traces v, runSegment (Scenario.env true) [Scenario.candle 0 100 100,
        Scenario.candle 1 100 104, Scenario.candle 2 104 100, Scenario.candle 3 100 100] 50 none =
          .ok (r, j) ∧
      traceSegment (Scenario.env true) [Scenario.candle 0 100 100, Scenario.candle 1 100 104,
        Scenario.candle 2 104 100, Scenario.candle 3 100 100] 50 none = .ok (traces, v) ∧
      r.openPosition.isSome = true ∧ r.trades.length = 1 ∧
      ∀ entry ∈ r.openPosition.toList ++ r.trades.map Trade.entry, ∃ tr ∈ traces, ∃ e,
        DisplayedAsTraded (Scenario.env true) r.equityCurve 50 tr e entry := by
  rcases exists_of_isOk (x := runSegment (Scenario.env true) [Scenario.candle 0 100 100,
    Scenario.candle 1 100 104, Scenario.candle 2 104 100, Scenario.candle 3 100 100] 50 none)
    (by decide +kernel) with ⟨⟨r, j⟩, h⟩
  have hfields : (runSegment (Scenario.env true) [Scenario.candle 0 100 100,
      Scenario.candle 1 100 104, Scenario.candle 2 104 100, Scenario.candle 3 100 100] 50 none).map
        (fun x => (x.1.openPosition.isSome, x.1.trades.length)) = .ok (true, 1) := by
    decide +kernel
  rw [h] at hfields
  rcases Prod.mk.inj (Except.ok.inj hfields) with ⟨hopen, htrades⟩
  rcases displayed_plan_is_traded {} Scenario.filters Scenario.alternating 1 Nat.one_pos _ 50 none j r
    (by decide) (by decide) h with ⟨traces, v, htraces, hall⟩
  exact ⟨r, j, traces, v, h, htraces, hopen, htrades, hall⟩

end TradingAgent
