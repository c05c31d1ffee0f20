import TradingAgent.Backtest.Invariant

/-!
# Continuation — a run over more candles goes on where the shorter one stopped

What a run leaves behind for its caller is a `RunRecords`: the trades, the entries (of the trades
and of the open position), the equity curve, the journal, and the figures kept for each entry.

* `RunRecords.Extends cs` says that one run recorded what another did and then, candle by candle,
  what the candles `cs` added;
* `runSegment_continues` cuts a run at any candle, `runSegment_records` starts it from nothing;
* `RunRecords.Aligned` says that each entry has its figures.
-/

namespace TradingAgent

/-! ## The records of a run -/

structure RunRecords where
  trades : List Trade
  entryTimes : List ℤ
  equityCurve : List EquityPoint
  journal : Journal
  plannedRisk : List ℚ
  netReward : List ℚ

/-- The entries so far: of the closed trades, then of the open one. -/
def LoopVars.entryTimes (v : LoopVars) : List ℤ :=
  v.trades.map Trade.entryTimeMs ++ v.state.openTrade.toList.map OpenTrade.entryTimeMs

def LoopVars.records (v : LoopVars) : RunRecords where
  trades := v.trades
  entryTimes := v.entryTimes
  equityCurve := v.equityCurve
  journal := v.journal
  plannedRisk := v.diag.rrPlannedRiskQuoteValues
  netReward := v.diag.rrNetRewardToRiskValues

def SegmentRunResult.entryTimes (result : SegmentRunResult) : List ℤ :=
  result.trades.map Trade.entryTimeMs ++
    result.openPosition.toList.map OpenPositionInfo.entryTimeMs

def SegmentRunResult.records (result : SegmentRunResult) (journal : Journal) : RunRecords where
  trades := result.trades
  entryTimes := result.entryTimes
  equityCurve := result.equityCurve
  journal := journal
  plannedRisk := (result.riskReward.map RiskRewardDiagnostics.plannedRiskQuoteValues).getD []
  netReward := (result.riskReward.map RiskRewardDiagnostics.netRewardToRiskValues).getD []

/-- What is recorded before the first candle. -/
def RunRecords.start (journal : Journal) : RunRecords :=
  ⟨[], [], [], journal, [], []⟩

namespace RunRecords

/-- `b` is `a` with what the candles `cs` recorded. -/
structure Extends (cs : List Candle) (a b : RunRecords) : Prop where
  trades : ∃ ts, b.trades = a.trades ++ ts ∧
    (ts.map Trade.exitTimeMs).Sublist (cs.map Candle.openTimeMs)
  entryTimes : ∃ es, b.entryTimes = a.entryTimes ++ es ∧ es.Sublist (cs.map Candle.openTimeMs)
  equityCurve : ∃ ps, b.equityCurve = a.equityCurve ++ ps ∧
    ps.map EquityPoint.timestampMs = cs.map Candle.closeTimeMs
  journal : ∃ rows, b.journal = a.journal.extend rows ∧
    (rows.map JournalEntry.key).Sublist (cs.flatMap Candle.journalKeys)
  plannedRisk : a.plannedRisk <+: b.plannedRisk
  netReward : a.netReward <+: b.netReward

/-- One figure of each kind for each entry. -/
structure Aligned (a : RunRecords) : Prop where
  plannedRisk : a.plannedRisk.length = a.entryTimes.length
  netReward : a.netReward.length = a.entryTimes.length

end RunRecords

section Stages

variable {env : RunEnv} {candle : Candle} {v v' : LoopVars} {S : ℚ}

/-- The result of a run under the risk/reward policy keeps the records of its loop. -/
theorem buildResult_records (hpolicy : env.useFixedRiskRewardPolicy = true) (S : ℚ) (last : Candle)
    (v : LoopVars) : (buildResult env S last v).records v.journal = v.records := by
  cases hopen : v.state.openTrade with
  | none =>
      simp [SegmentRunResult.records, SegmentRunResult.entryTimes, LoopVars.records,
        LoopVars.entryTimes, buildResult, buildRiskReward, hpolicy, hopen]
  | some t =>
      simp [SegmentRunResult.records, SegmentRunResult.entryTimes, LoopVars.records,
        LoopVars.entryTimes, buildResult, buildRiskReward, hpolicy, hopen, openTradeToInfo]

@[simp] theorem initialVars_records (S firstClose : ℚ) (journal : Journal) :
    (initialVars S firstClose journal).records = .start journal := rfl

/-! ## Entries -/

/-- What a stage did to the entries and their figures: nothing, or one entry at `timeMs`. -/
structure Enters (timeMs : ℤ) (v v' : LoopVars) : Prop where
  step : (v'.entryTimes = v.entryTimes ∧ v'.diag.entryFigures = v.diag.entryFigures) ∨
    (v'.entryTimes = v.entryTimes ++ [timeMs] ∧ ∃ risk net,
      v'.diag.entryFigures.plannedRiskQuote = v.diag.entryFigures.plannedRiskQuote ++ [risk] ∧
        v'.diag.entryFigures.netRewardToRisk = v.diag.entryFigures.netRewardToRisk ++ [net])

theorem Enters.stays {timeMs : ℤ} (hentries : v'.entryTimes = v.entryTimes)
    (hfigures : v'.diag.entryFigures = v.diag.entryFigures) : Enters timeMs v v' :=
  ⟨Or.inl ⟨hentries, hfigures⟩⟩

/-- `Enters` reads the entries and their figures only. -/
theorem Enters.congr {timeMs : ℤ} {u u' : LoopVars} (h : Enters timeMs v v')
    (hbefore : u.entryTimes = v.entryTimes)
    (hbeforeFigures : u.diag.entryFigures = v.diag.entryFigures)
    (hafter : u'.entryTimes = v'.entryTimes)
    (hafterFigures : u'.diag.entryFigures = v'.diag.entryFigures) : Enters timeMs u u' := by
  constructor
  rw [hbefore, hbeforeFigures, hafter, hafterFigures]
  exact h.step

/-- An exit moves the open trade to the closed ones, and opens none. -/
theorem recordExit_entryTimes (timeMs : ℤ) (q : ℚ) (fill : SimulatedFill) (reason : ExitReason)
    (ref : ℚ) (portfolio : PortfolioState) :
    (recordExit env timeMs q fill reason ref portfolio v).entryTimes = v.entryTimes := by
  cases hopen : v.state.openTrade with
  | none => simp [LoopVars.entryTimes, recordExit, hopen]
  | some t => simp [LoopVars.entryTimes, recordExit, hopen, closedTrade]

/-- The figures of an entry whose plan carries them. -/
theorem entryFigures_recordEntry {risk net : ℚ} {plan : RiskRewardPlan}
    (hrisk : plan.plannedRiskQuote = some risk) (hnet : plan.netRewardToRisk = some net)
    (env : RunEnv) (candle : Candle) (q : ℚ) (fill : SimulatedFill) (portfolio : PortfolioState)
    (v : LoopVars) :
    (recordEntry env candle q fill (some plan) portfolio v).diag.entryFigures =
      ⟨v.diag.executedEntries + 1, v.diag.entryFigures.plannedRiskQuote ++ [risk],
        v.diag.entryFigures.netRewardToRisk ++ [net]⟩ := by
  simp [recordEntry, DiagBuilder.recordRealizedPlan, DiagBuilder.recordExecutedEntry,
    DiagBuilder.entryFigures, hrisk, hnet]

/-- An entry finds no trade open, so it adds one to the list, with its figures. -/
theorem EntryFill.enters (henv : env.Standard) (hpolicy : env.useFixedRiskRewardPolicy = true)
    (hinv : LoopInvariant env S v) (e : EntryFill env candle v) :
    Enters candle.openTimeMs v e.result := by
  have happlied := e.applied henv
  have hflat := (applyBuy_eq_ok happlied).1
  have hnone := (hinv.openTrade_of_flat hflat).1
  have hplan := (e.facts henv).plan
  rw [if_pos hpolicy] at hplan
  rcases hplan with ⟨realized, hsome, hrealized⟩
  rcases Option.isSome_iff_exists.1 hrealized.risk with ⟨risk, hrisk⟩
  rcases Option.isSome_iff_exists.1 hrealized.net with ⟨net, hnet⟩
  have hfigures := entryFigures_recordEntry hrisk hnet env candle e.quantity
    (env.imports.simulateBuy env.broker e.quantity candle.open) e.portfolio
    (v.decided candle e.rows)
  rw [← hsome] at hfigures
  refine ⟨Or.inr ⟨?_, risk, net, ?_, ?_⟩⟩
  · simp [LoopVars.entryTimes, EntryFill.result, EntryAttempt.leaves, recordEntry,
      LoopVars.decided, hnone]
  · exact congrArg EntryFigures.plannedRiskQuote hfigures
  · exact congrArg EntryFigures.netRewardToRisk hfigures

theorem fillPending_enters (henv : env.Standard) (hpolicy : env.useFixedRiskRewardPolicy = true)
    (hinv : LoopInvariant env S v) (h : fillPending env candle v = .ok v') :
    Enters candle.openTimeMs v v' := by
  rcases fillPending_cases h with ⟨-, rfl⟩ | ⟨signalType, m, -, hres, rfl⟩
  · exact .stays rfl rfl
  · rcases resolvePendingSignal_cases hres with
      ⟨rows, diag, -, hdiag, rfl⟩ | ⟨-, e, rfl⟩ | ⟨-, e, rfl⟩
    · exact .stays rfl hdiag
    · exact ⟨(e.enters henv hpolicy hinv).step⟩
    · refine .stays ?_ ?_
      · exact recordExit_entryTimes (v := v.decided candle e.rows) _ _ _ _ _ _
      · simp only [ExitFill.result, ExitAttempt.leaves, recordExit_entryFigures]
        rfl

theorem protectiveExit_entryTimes (h : protectiveExit env candle v = .ok v') :
    v'.entryTimes = v.entryTimes := by
  rcases protectiveExit_cases h with rfl | ⟨e, rfl⟩
  · rfl
  · exact recordExit_entryTimes (v := v) _ _ _ _ _ _

theorem rollDay_entryTimes : (rollDay candle v).entryTimes = v.entryTimes := by
  have hopen : (rollDay candle v).state.openTrade = v.state.openTrade := by
    simp only [rollDay]
    split <;> rfl
  simp [LoopVars.entryTimes, hopen]

/-- One candle records at most one entry, with one figure of each kind. -/
theorem CandleTrace.Kept.enters {seen : List Candle} {tr : CandleTrace} (henv : env.Standard)
    (hpolicy : env.useFixedRiskRewardPolicy = true) (htr : tr.Valid env seen)
    (hkept : tr.Kept env S) : Enters tr.candle.openTimeMs tr.before tr.closed := by
  rcases htr.marks with ⟨signal, -, hclosed⟩
  have hprotect := protectiveExit_frame htr.protects
  -- only the filling of the pending signal enters a position
  refine (fillPending_enters henv hpolicy hkept.atOpen htr.fills).congr ?_ ?_ ?_ ?_
  · rw [htr.atOpen_eq, rollDay_entryTimes]
  · rw [htr.atOpen_eq, rollDay_diag]
  · rw [← protectiveExit_entryTimes htr.protects, hclosed]
    rfl
  · rw [← hprotect.figures, hclosed]
    simp [recordMark]

/-! ## The prices of the entries -/

/-- Re-validating a plan at this fill price raises nothing. -/
def PlannedAt (env : RunEnv) (price : ℚ) : Prop :=
  ∃ plan equity realized, buildRealizedPlan plan price env.config.stopLoss.stopDistancePct
    env.config.fees.takerFeePct env.config.fees.slippagePct equity env.filters = .ok realized

/-- Every entry so far was filled at a price its plan was re-validated at. -/
structure EntriesPlanned (env : RunEnv) (v : LoopVars) : Prop where
  closed : ∀ t ∈ v.trades, PlannedAt env t.entryPrice
  opened : ∀ t ∈ v.state.openTrade, PlannedAt env t.entryPrice

/-- Only the closed trades and the open one are read. -/
theorem EntriesPlanned.congr (h : EntriesPlanned env v) (htrades : v'.trades = v.trades)
    (hopen : v'.state.openTrade = v.state.openTrade) : EntriesPlanned env v' :=
  ⟨htrades ▸ h.closed, hopen ▸ h.opened⟩

theorem EntriesPlanned.recordExit (h : EntriesPlanned env v) (timeMs : ℤ) (q : ℚ)
    (fill : SimulatedFill) (reason : ExitReason) (ref : ℚ) (portfolio : PortfolioState) :
    EntriesPlanned env (recordExit env timeMs q fill reason ref portfolio v) := by
  constructor
  case opened =>
      intro t ht
      cases ht
  case closed =>
      intro t ht
      cases hopen : v.state.openTrade with
      | none =>
          refine h.closed t ?_
          simpa [TradingAgent.recordExit, hopen] using ht
      | some openTrade =>
          -- the exit closes the open trade at its own entry price
          have hmem : t ∈ v.trades ∨
              t = closedTrade openTrade timeMs q fill
                (portfolio.realizedPnlQuote - v.state.portfolio.realizedPnlQuote) reason ref := by
            simpa [TradingAgent.recordExit, hopen] using ht
          rcases hmem with hold | rfl
          · exact h.closed t hold
          · exact h.opened openTrade hopen

/-- An entry opens a trade at the price its plan was re-validated at. -/
theorem EntryFill.planned (henv : env.Standard) (hpolicy : env.useFixedRiskRewardPolicy = true)
    (h : EntriesPlanned env v) (e : EntryFill env candle v) : EntriesPlanned env e.result := by
  refine ⟨h.closed, ?_⟩
  intro t ht
  cases ht
  have hplan := (e.facts henv).plan
  rw [if_pos hpolicy] at hplan
  rcases hplan with ⟨realized, hsome, -⟩
  have hrealized := e.realized
  rw [hsome] at hrealized
  cases hpending : e.plan with
  | none =>
      simp [realizePlan, hpending] at hrealized
  | some plan =>
      have hcurrent : env.imports.buildRealizedPlan = TradingAgent.buildRealizedPlan := by
        rw [henv.imports]
        rfl
      simp only [realizePlan, hpolicy, hpending, hcurrent, bind, Except.bind] at hrealized
      split at hrealized
      · cases hrealized
      · rename_i built hbuilt
        exact ⟨_, _, built, hbuilt⟩

theorem processCandle_planned (henv : env.Standard) (hpolicy : env.useFixedRiskRewardPolicy = true)
    {seen : List Candle} (hplanned : EntriesPlanned env v)
    (h : processCandle env seen candle v = .ok v') : EntriesPlanned env v' := by
  rcases processCandle_cases h with ⟨tr, htr, rfl, rfl, rfl⟩
  have hatOpen : EntriesPlanned env tr.atOpen := by
    refine hplanned.congr ?_ ?_
    · rw [htr.atOpen_eq, rollDay_trades]
    · rw [htr.atOpen_eq]
      simp only [rollDay]
      split <;> rfl
  have hfilled : EntriesPlanned env tr.filled := by
    rcases fillPending_cases htr.fills with ⟨-, heq⟩ | ⟨signalType, m, -, hres, heq⟩
    · exact heq ▸ hatOpen
    · rw [heq]
      rcases resolvePendingSignal_cases hres with
        ⟨rows, diag, -, -, rfl⟩ | ⟨-, e, rfl⟩ | ⟨-, e, rfl⟩
      · exact hatOpen.congr rfl rfl
      · exact (e.planned henv hpolicy hatOpen).congr rfl rfl
      · have hdecided : EntriesPlanned env (tr.atOpen.decided tr.candle e.rows) :=
          hatOpen.congr rfl rfl
        exact (hdecided.recordExit _ _ _ _ _ _).congr rfl rfl
  have hguarded : EntriesPlanned env tr.guarded := by
    rcases protectiveExit_cases htr.protects with heq | ⟨e, heq⟩
    · exact heq ▸ hfilled
    · rw [heq]
      exact (hfilled.recordExit _ _ _ _ _ _).congr rfl rfl
  rcases htr.marks with ⟨signal, -, hclosed⟩
  rw [hclosed]
  exact hguarded.congr rfl rfl

/-! ## A run of candles -/

theorem RunRecords.Extends.refl (a : RunRecords) : a.Extends [] a :=
  ⟨⟨[], by simp, by simp⟩, ⟨[], by simp, by simp⟩, ⟨[], by simp, rfl⟩, ⟨[], by simp, by simp⟩,
    List.prefix_rfl, List.prefix_rfl⟩

/-- The entries a run of candles records, in order, each at the open of one of them. -/
theorem run_enters (henv : env.Standard) (hpolicy : env.useFixedRiskRewardPolicy = true)
    {seen rest : List Candle} (hinv : LoopInvariant env S v)
    (h : CausalRun.run (processCandle env) seen rest v = .ok v') :
    LoopInvariant env S v' ∧
      (∃ es, v'.entryTimes = v.entryTimes ++ es ∧ es.Sublist (rest.map Candle.openTimeMs)) ∧
      (v.records.Aligned → v'.records.Aligned) := by
  induction rest generalizing seen v with
  | nil =>
      cases h
      exact ⟨hinv, ⟨[], by simp, by simp⟩, id⟩
  | cons candle rest ih =>
      rcases CausalRun.run_cons_eq_ok h with ⟨m, hm, hrest⟩
      rcases processCandle_cases hm with ⟨tr, htr, rfl, rfl, rfl⟩
      have hkept := htr.kept henv hinv
      rcases ih hkept.closed hrest with ⟨hinv', ⟨es, hes, hsub⟩, haligned⟩
      rcases (hkept.enters henv hpolicy htr).step with ⟨hsame, hfigures⟩ | ⟨hnew, risk, net, hr, hn⟩
      · refine ⟨hinv', ⟨es, by rw [hes, hsame], hsub.cons _⟩, fun h₀ => haligned ⟨?_, ?_⟩⟩
        · have hrisk := congrArg EntryFigures.plannedRiskQuote hfigures
          simpa [LoopVars.records, hsame, DiagBuilder.entryFigures] using
            (congrArg List.length hrisk).trans h₀.plannedRisk
        · have hnet := congrArg EntryFigures.netRewardToRisk hfigures
          simpa [LoopVars.records, hsame, DiagBuilder.entryFigures] using
            (congrArg List.length hnet).trans h₀.netReward
      · refine ⟨hinv', ⟨tr.candle.openTimeMs :: es, by simp [hes, hnew], hsub.cons_cons _⟩,
          fun h₀ => haligned ⟨?_, ?_⟩⟩
        · have hlen := h₀.plannedRisk
          simp only [LoopVars.records, DiagBuilder.entryFigures] at hlen hr ⊢
          simp [hr, hnew, hlen]
        · have hlen := h₀.netReward
          simp only [LoopVars.records, DiagBuilder.entryFigures] at hlen hn ⊢
          simp [hn, hnew, hlen]

/-- A run of candles extends the records by what its candles add. -/
theorem run_records (henv : env.Standard) (hpolicy : env.useFixedRiskRewardPolicy = true)
    {seen rest : List Candle} (hinv : LoopInvariant env S v)
    (h : CausalRun.run (processCandle env) seen rest v = .ok v') :
    v.records.Extends rest v'.records := by
  rcases run_extends h with ⟨hequity, -, htrades, hjournal, hfigures⟩
  exact ⟨htrades, (run_enters henv hpolicy hinv h).2.1, hequity, hjournal, hfigures.plannedRisk,
    hfigures.netReward⟩

/-! ## A whole run -/

/-- What a run records, from nothing, over the candles its loop reads. -/
theorem runSegment_records (henv : env.Standard) (hpolicy : env.useFixedRiskRewardPolicy = true)
    {segment : List Candle} {journal j : Journal} {r : SegmentRunResult}
    (h : runSegment env segment S journal = .ok (r, j)) :
    (RunRecords.start journal).Extends (segment.drop (env.minRequired - 1)) (r.records j) ∧
      (r.records j).Aligned := by
  rcases runSegment_eq_ok h with ⟨first, last, w, -, -, hloop, rfl, rfl⟩
  have hinit : LoopInvariant env S (initialVars S first.close journal) := .initial S _ journal
  rw [buildResult_records hpolicy]
  refine ⟨?_, ?_⟩
  · rw [← initialVars_records S first.close journal]
    exact run_records henv hpolicy hinit hloop
  · apply (run_enters henv hpolicy hinit hloop).2.2
    exact ⟨rfl, rfl⟩

/-- Every entry of a run was filled at a price its plan was re-validated at. -/
theorem runSegment_planned (henv : env.Standard) (hpolicy : env.useFixedRiskRewardPolicy = true)
    {segment : List Candle} {journal j : Journal} {r : SegmentRunResult}
    (h : runSegment env segment S journal = .ok (r, j)) :
    (∀ t ∈ r.trades, PlannedAt env t.entryPrice) ∧
      ∀ p ∈ r.openPosition, PlannedAt env p.entryPrice := by
  rcases runSegment_eq_ok h with ⟨first, last, w, -, -, hloop, rfl, rfl⟩
  have hinit : EntriesPlanned env (initialVars S first.close journal) := by
    constructor
    case closed => simp [initialVars]
    case opened => simp [initialVars]
  have hplanned : EntriesPlanned env w := by
    refine CausalRun.run_induct (fun _ v => EntriesPlanned env v) ?_ hinit hloop
    intro seen candle v v' hv hstep
    exact processCandle_planned henv hpolicy hv hstep
  refine ⟨hplanned.closed, ?_⟩
  intro p hp
  rcases Option.map_eq_some_iff.1 hp with ⟨t, ht, rfl⟩
  exact hplanned.opened t ht

/-- A run recorded what the run over its first `k` candles did, and what the later ones added. -/
theorem runSegment_continues (henv : env.Standard) (hpolicy : env.useFixedRiskRewardPolicy = true)
    {segment : List Candle} {journal j : Journal} {r : SegmentRunResult} {k : ℕ}
    (hk : env.minRequired ≤ k) (h : runSegment env segment S journal = .ok (r, j)) :
    ∃ r₀ j₀, runSegment env (segment.take k) S journal = .ok (r₀, j₀) ∧
      (r₀.records j₀).Extends (segment.drop k) (r.records j) := by
  rcases runSegment_split hk h with ⟨first, last₀, last, m, w, hprefix, hlater, hrun₀, rfl, rfl⟩
  have hinit : LoopInvariant env S (initialVars S first.close journal) := .initial S _ journal
  have hinv := (run_enters henv hpolicy hinit hprefix).1
  refine ⟨_, _, hrun₀, ?_⟩
  rw [buildResult_records hpolicy, buildResult_records hpolicy]
  exact run_records henv hpolicy hinv hlater

end Stages

end TradingAgent
