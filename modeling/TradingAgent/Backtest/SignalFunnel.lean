import TradingAgent.Backtest.Rejections
import TradingAgent.Backtest.Continuation

/-!
# Signal funnel — from signals to entries, rejections and activations

What the diagnostics of a finished run say about its signals, its entries and the activations of its
risk gates, told by the list of the BUYs it turned down.

* `Ledger` ties that list to the loop's variables, and every candle keeps it;
* `signal_funnel`: every BUY signal became an entry, a counted rejection or the note at the end;
* `rejections_journaled`: the rejections counted are those the journal has a row for;
* `activations_journaled`: an activation is the first and the last of its gate's rows.
-/

namespace TradingAgent

/-- The BUYs turned down so far, as the loop's variables have them. -/
structure Ledger (env : RunEnv) (journal : Journal) (hist : List CandleTrace)
    (refused : List RejectedEntry) (v : LoopVars) : Prop where
  figures : v.diag.rejectionFigures = .of refused
  rows : ∃ rows, v.journal = journal.extend rows ∧
    rows.filter JournalEntry.refusesBuy = refused.filterMap RejectedEntry.row?
  buys : v.diag.buySignalsGenerated =
    v.diag.executedEntries + refused.length + if v.pendingSignal = some .buy then 1 else 0
  exits : (v.trades.countP fun t => t.exitReason = .strategyExit) +
    (if v.pendingSignal = some .exit then 1 else 0) ≤ v.diag.exitSignalsGenerated
  entries : v.diag.executedEntries = v.entryTimes.length
  lastEntry : v.diag.lastApprovedBuyTimeMs = v.entryTimes.getLast?
  refusedAt : (refused.map RejectedEntry.timeMs).Sublist (hist.map fun tr => tr.candle.openTimeMs)
  enteredAt : v.entryTimes.Sublist (hist.map fun tr => tr.candle.openTimeMs)
  postFill : ∀ e ∈ refused, e.stage = .postFill → env.useFixedRiskRewardPolicy = true

section Stages

variable {env : RunEnv} {candle : Candle} {v v' : LoopVars} {S : ℚ}

theorem recordExit_strategyExits (env : RunEnv) {o : OpenTrade}
    (ho : v.state.openTrade = some o) (timeMs : ℤ) (q : ℚ) (fill : SimulatedFill) (reason : ExitReason) (ref : ℚ) (portfolio : PortfolioState) :
    ((recordExit env timeMs q fill reason ref portfolio v).trades.countP
        fun t => t.exitReason = .strategyExit) =
      (v.trades.countP fun t => t.exitReason = .strategyExit) +
        if reason = .strategyExit then 1 else 0 := by
  simp [recordExit, ho, closedTrade, List.countP_cons]

/-- Filling the pending signal adds at most one entry, at this candle's open. -/
theorem fillPending_entryTimes (henv : env.Standard) (h : LoopInvariant env S v)
    (hfill : fillPending env candle v = .ok v') :
    (v'.entryTimes = v.entryTimes ∧ v'.diag.executedEntries = v.diag.executedEntries) ∨
      (v'.entryTimes = v.entryTimes ++ [candle.openTimeMs] ∧
        v'.diag.executedEntries = v.diag.executedEntries + 1) := by
  rcases fillPending_cases hfill with ⟨hnone, rfl⟩ | ⟨signalType, m, hsome, hres, rfl⟩
  · exact Or.inl ⟨rfl, rfl⟩
  · rcases resolvePendingSignal_cases hres with
      ⟨rows, diag, -, hdiag, rfl⟩ | ⟨-, e, rfl⟩ | ⟨rfl, e, rfl⟩
    · exact Or.inl ⟨rfl, congrArg EntryFigures.executedEntries hdiag⟩
    · -- an entry is made while flat
      have hflat := (applyBuy_eq_ok (e.applied henv)).1
      have hopen := (h.openTrade_of_flat hflat).1
      refine Or.inr ⟨?_, ?_⟩
      · simp [LoopVars.entryTimes, EntryFill.result, EntryAttempt.leaves, recordEntry,
          LoopVars.decided, hopen]
      · exact (recordEntry_counters env candle (v.decided candle e.rows) e.quantity
          (env.imports.simulateBuy env.broker e.quantity candle.open) e.realizedPlan
          e.portfolio).executed
    · rcases h.holding_of_exitFill henv e with ⟨o, ho, -⟩
      have hdecided : (v.decided candle e.rows).state.openTrade = some o := ho
      have hsame : e.result.diag.entryFigures = v.diag.entryFigures := recordExit_entryFigures
      exact Or.inl ⟨recordExit_entryTimes _ _ _ _ _ _,
        congrArg EntryFigures.executedEntries hsame⟩

theorem fillPending_strategyExits (henv : env.Standard) (h : LoopInvariant env S v)
    (hfill : fillPending env candle v = .ok v') :
    (v'.trades.countP fun t => t.exitReason = .strategyExit) ≤
      (v.trades.countP fun t => t.exitReason = .strategyExit) +
        if v.pendingSignal = some .exit then 1 else 0 := by
  rcases fillPending_cases hfill with ⟨hnone, rfl⟩ | ⟨signalType, m, hsome, hres, rfl⟩
  · exact Nat.le_add_right _ _
  · rcases resolvePendingSignal_cases hres with
      ⟨rows, diag, -, hdiag, rfl⟩ | ⟨-, e, rfl⟩ | ⟨rfl, e, rfl⟩
    · exact Nat.le_add_right _ _
    · exact Nat.le_add_right _ _
    · rcases h.holding_of_exitFill henv e with ⟨o, ho, -⟩
      have hdecided : (v.decided candle e.rows).state.openTrade = some o := ho
      rw [hsome, if_pos rfl]
      exact (recordExit_strategyExits env hdecided _ _ _ _ _ _).le

theorem protectiveExit_strategyExits (h : LoopInvariant env S v)
    (hexit : protectiveExit env candle v = .ok v') :
    (v'.trades.countP fun t => t.exitReason = .strategyExit) =
      v.trades.countP fun t => t.exitReason = .strategyExit := by
  rcases protectiveExit_cases hexit with rfl | ⟨e, rfl⟩
  · rfl
  · rcases h.holding_of_long e.long with ⟨o, ho, -⟩
    have hreason : e.reason ≠ .strategyExit := by
      rcases e.trigger with ⟨hstop, -⟩ | ⟨htarget, -⟩
      · rw [hstop]
        decide
      · rw [htarget]
        decide
    refine (recordExit_strategyExits env ho _ _ _ _ _ _).trans ?_
    rw [if_neg hreason, Nat.add_zero]

/-- What the protective check leaves of the diagnostics. -/
theorem protectiveExit_figures (hexit : protectiveExit env candle v = .ok v') :
    v'.diag.rejectionFigures = v.diag.rejectionFigures ∧
      v'.diag.signalFigures = v.diag.signalFigures ∧ v'.diag.entryFigures = v.diag.entryFigures ∧
        v'.pendingSignal = v.pendingSignal ∧ ∃ rows, v'.journal = v.journal.extend rows ∧
          rows.filter JournalEntry.refusesBuy = [] := by
  rcases protectiveExit_cases hexit with rfl | ⟨e, rfl⟩
  · exact ⟨rfl, rfl, rfl, rfl, [], by rw [Journal.extend_nil], rfl⟩
  · have hfigures := recordExit_figures env v candle.openTimeMs
      v.state.portfolio.baseBalance
      (env.imports.simulateSell env.broker v.state.portfolio.baseBalance e.reference) e.reason
      e.reference e.portfolio
    refine ⟨hfigures.1, hfigures.2.1, hfigures.2.2, rfl, [e.row], rfl, ?_⟩
    rcases e.rowType with hrow | hrow <;> simp [JournalEntry.refusesBuy, hrow]

end Stages

/-! ## One candle, and a whole run -/

/-- The BUY this candle turned down, if it did. -/
def CandleTrace.Refuses (env : RunEnv) (tr : CandleTrace) (refusal : Option RejectedEntry) : Prop :=
  match tr.before.pendingSignal with
  | none => refusal = none ∧ tr.filled = tr.atOpen
  | some signalType => ∃ m, Resolves env signalType tr.candle (tr.atOpen.equityAtOpen tr.candle)
      (drawdownPct (tr.atOpen.peakAtOpen tr.candle) (tr.atOpen.equityAtOpen tr.candle)) tr.atOpen m
        refusal ∧ tr.filled = { m with pendingSignal := none }

section Runs

variable {env : RunEnv} {S : ℚ} {journal : Journal} {hist : List CandleTrace}
  {refused : List RejectedEntry} {seen : List Candle} {tr : CandleTrace} {v v' : LoopVars}

theorem CandleTrace.Valid.refuses (henv : env.Standard) (htr : tr.Valid env seen) :
    ∃ refusal, tr.Refuses env refusal := by
  have hpending : tr.atOpen.pendingSignal = tr.before.pendingSignal := by
    rw [htr.atOpen_eq]
    rfl
  unfold CandleTrace.Refuses
  rcases fillPending_cases htr.fills with ⟨hnone, hsame⟩ | ⟨signalType, m, hsome, hres, hfilled⟩
  · rw [← hpending, hnone]
    exact ⟨none, rfl, hsame⟩
  · rw [← hpending, hsome]
    rcases resolvePendingSignal_resolves henv hres with ⟨refusal, hdecides⟩
    exact ⟨refusal, m, hdecides, hfilled⟩

theorem Ledger.initial (S firstClose : ℚ) (journal : Journal) :
    Ledger env journal [] [] (initialVars S firstClose journal) where
  figures := rfl
  rows := ⟨[], by rw [Journal.extend_nil]; rfl, rfl⟩
  buys := rfl
  exits := Nat.le_refl _
  entries := rfl
  lastEntry := rfl
  refusedAt := List.Sublist.refl []
  enteredAt := List.Sublist.refl []
  postFill := by simp

theorem Ledger.rollDay (h : Ledger env journal hist refused v) (candle : Candle) :
    Ledger env journal hist refused (rollDay candle v) where
  figures := h.figures
  rows := h.rows
  buys := h.buys
  exits := h.exits
  entries := by rw [rollDay_entryTimes]; exact h.entries
  lastEntry := by rw [rollDay_entryTimes]; exact h.lastEntry
  refusedAt := h.refusedAt
  enteredAt := by rw [rollDay_entryTimes]; exact h.enteredAt
  postFill := h.postFill

theorem Ledger.grow (h : Ledger env journal hist refused v) (tr : CandleTrace) :
    Ledger env journal (hist ++ [tr]) refused v where
  figures := h.figures
  rows := h.rows
  buys := h.buys
  exits := h.exits
  entries := h.entries
  lastEntry := h.lastEntry
  refusedAt := h.refusedAt.trans (by simp)
  enteredAt := h.enteredAt.trans (by simp)
  postFill := h.postFill

/-- The candle's entry or refusal takes its place at the end. -/
theorem Ledger.filled (henv : env.Standard) (h : Ledger env journal hist refused tr.before)
    (hinv : LoopInvariant env S tr.before) (htr : tr.Valid env seen)
    {refusal : Option RejectedEntry} (hrefuses : tr.Refuses env refusal) :
    Ledger env journal (hist ++ [tr]) (refused ++ refusal.toList) tr.filled ∧
      tr.filled.pendingSignal = none := by
  have hopen : Ledger env journal hist refused tr.atOpen := htr.atOpen_eq ▸ h.rollDay tr.candle
  have hpending : tr.atOpen.pendingSignal = tr.before.pendingSignal := by
    rw [htr.atOpen_eq]
    rfl
  have hinvOpen : LoopInvariant env S tr.atOpen := htr.atOpen_eq ▸ hinv.rollDay
  have htimes := fillPending_entryTimes henv hinvOpen htr.fills
  have hexits := fillPending_strategyExits henv hinvOpen htr.fills
  unfold CandleTrace.Refuses at hrefuses
  cases hsignal : tr.before.pendingSignal with
  | none =>
      rw [hsignal] at hrefuses
      rcases hrefuses with ⟨rfl, hsame⟩
      rw [Option.toList_none, List.append_nil, hsame]
      exact ⟨hopen.grow tr, hpending.trans hsignal⟩
  | some signalType =>
      rw [hsignal] at hrefuses hpending
      rcases hrefuses with ⟨m, hdecides, hfilled⟩
      have hexecuted : tr.filled.diag = m.diag := by rw [hfilled]
      have hnone : tr.filled.pendingSignal = none := by rw [hfilled]
      have hbuys := hopen.buys
      have hsold := hopen.exits
      rw [hpending] at hexits hbuys hsold
      refine ⟨?_, hnone⟩
      constructor
      case figures =>
        rw [hexecuted]
        exact hdecides.figures refused hopen.figures
      case rows =>
        rcases hopen.rows with ⟨old, hjournal, hold⟩
        rcases hdecides.rows with ⟨new, hextended, hnew⟩
        refine ⟨old ++ new, ?_, ?_⟩
        · have hmjournal : tr.filled.journal = m.journal := by rw [hfilled]
          rw [hmjournal, hextended, hjournal, Journal.extend_extend]
        · rw [List.filter_append, hold, hnew, List.filterMap_append]
          cases refusal with
          | none => rfl
          | some e => cases hrow : e.row? <;> simp [hrow]
      case buys =>
        have hdecided := hdecides.entries
        rw [hnone, hexecuted, hdecides.buys, hbuys, List.length_append]
        cases signalType <;> simp_all <;> omega
      case exits =>
        rw [hnone, hexecuted, hdecides.exits]
        simp only [reduceCtorEq, if_false]
        omega
      case entries =>
        rcases htimes with ⟨htimes, hcount⟩ | ⟨htimes, hcount⟩
        · rw [hcount, htimes, hopen.entries]
        · rw [hcount, htimes, hopen.entries, List.length_append, List.length_singleton]
      case lastEntry =>
        rw [hexecuted, hdecides.lastEntry, ← hexecuted]
        rcases htimes with ⟨htimes, hcount⟩ | ⟨htimes, hcount⟩
        · rw [if_pos hcount, htimes, hopen.lastEntry]
        · rw [if_neg (by omega), htimes, List.getLast?_concat]
      case refusedAt =>
        rw [List.map_append, List.map_append]
        refine hopen.refusedAt.append ?_
        cases refusal with
        | none => simp
        | some e => simp [(hdecides.decidedAt e rfl).1]
      case enteredAt =>
        rw [List.map_append]
        rcases htimes with ⟨htimes, -⟩ | ⟨htimes, -⟩
        · rw [htimes]
          exact hopen.enteredAt.trans (List.sublist_append_left _ _)
        · rw [htimes]
          exact hopen.enteredAt.append (List.Sublist.refl _)
      case postFill =>
        intro e he
        rcases List.mem_append.1 he with hold | hnew
        · exact h.postFill e hold
        · exact hdecides.postFill e (Option.mem_toList.1 hnew)

/-- The protective check and the mark at the close turn no BUY down. -/
theorem Ledger.closed (h : Ledger env journal hist refused tr.filled)
    (hnone : tr.filled.pendingSignal = none) (hinv : LoopInvariant env S tr.filled)
    (htr : tr.Valid env seen) : Ledger env journal hist refused tr.closed := by
  rcases protectiveExit_figures htr.protects with
    ⟨hfigures, hsignals, hentries, hpending, rows, hjournal, hrows⟩
  have htimes := protectiveExit_entryTimes htr.protects
  have hexits := protectiveExit_strategyExits hinv htr.protects
  rcases htr.marks with ⟨signal, -, hclosed⟩
  have hguarded : tr.guarded.pendingSignal = none := hpending.trans hnone
  have hclosedTimes : tr.closed.entryTimes = tr.filled.entryTimes := by
    rw [hclosed, ← htimes]
    rfl
  have hexecuted : tr.closed.diag.executedEntries = tr.filled.diag.executedEntries := by
    rw [hclosed]
    exact (congrArg EntryFigures.executedEntries
      (DiagBuilder.entryFigures_recordSignal signal.type _)).trans
        (congrArg EntryFigures.executedEntries hentries)
  have hbuys := h.buys
  have hsold := h.exits
  rw [hnone] at hbuys hsold
  have hbuyCount : tr.guarded.diag.buySignalsGenerated = tr.filled.diag.buySignalsGenerated :=
    congrArg Prod.fst hsignals
  have hexitCount : tr.guarded.diag.exitSignalsGenerated = tr.filled.diag.exitSignalsGenerated :=
    congrArg (fun figures => figures.2.1) hsignals
  have hlast : tr.guarded.diag.lastApprovedBuyTimeMs = tr.filled.diag.lastApprovedBuyTimeMs :=
    congrArg (fun figures => figures.2.2) hsignals
  constructor
  case figures =>
    rw [hclosed, ← h.figures, ← hfigures]
    exact DiagBuilder.rejectionFigures_recordSignal signal.type
  case rows =>
    rcases h.rows with ⟨old, hold, hfilter⟩
    refine ⟨old ++ (rows ++ [⟨tr.candle.closeTimeMs, .signal, signalPayload signal⟩]), ?_, ?_⟩
    · rw [hclosed, ← Journal.extend_extend, ← hold, ← Journal.extend_extend, ← hjournal]
      rfl
    · rw [List.filter_append, List.filter_append, hfilter, hrows]
      simp [JournalEntry.refusesBuy]
  case buys =>
    rw [hexecuted, hclosed]
    cases htype : signal.type <;>
      simp_all [recordMark, recordSignal, SignalType.actionable?]
  case exits =>
    rw [hclosed]
    cases htype : signal.type <;>
      simp_all [recordMark, recordSignal, SignalType.actionable?]
  case entries => rw [hexecuted, hclosedTimes, h.entries]
  case lastEntry =>
    rw [hclosedTimes, ← h.lastEntry, ← hlast, hclosed]
    cases htype : signal.type <;> simp [recordMark, recordSignal, htype]
  case refusedAt => exact h.refusedAt
  case enteredAt =>
    rw [hclosedTimes]
    exact h.enteredAt
  case postFill => exact h.postFill

theorem Ledger.step (henv : env.Standard) (h : Ledger env journal hist refused tr.before)
    (hinv : LoopInvariant env S tr.before) (htr : tr.Valid env seen) :
    ∃ refusal, tr.Refuses env refusal ∧
      Ledger env journal (hist ++ [tr]) (refused ++ refusal.toList) tr.closed := by
  rcases htr.refuses henv with ⟨refusal, hrefuses⟩
  rcases h.filled henv hinv htr hrefuses with ⟨hfilled, hnone⟩
  exact ⟨refusal, hrefuses, hfilled.closed hnone (htr.kept henv hinv).filled htr⟩

/-- The ledger of a whole run. -/
theorem traceSegment_ledger (henv : env.Standard) {segment : List Candle}
    {traces : List CandleTrace} (h : traceSegment env segment S journal = .ok (traces, v)) :
    ∃ refused, Ledger env journal traces refused v ∧ LoopInvariant env S v := by
  have hrun := traceSegment_induct (fun hist u => ∃ refused, Ledger env journal hist refused u ∧
    LoopInvariant env S u) h
    (fun first _ => ⟨[], .initial S first.close journal, .initial S first.close journal⟩) ?_
  · exact hrun.1
  · rintro hist seen tr rest htr ⟨refused, hledger, hinv⟩ -
    rcases hledger.step henv hinv htr with ⟨refusal, -, hstep⟩
    exact ⟨_, hstep, (htr.kept henv hinv).closed⟩

end Runs

/-! ## What the diagnostics say -/

theorem countExits_add (trades : List Trade) :
    (trades.countP fun t => t.exitReason = .strategyExit) +
        (trades.countP fun t => t.exitReason = .stopLoss) +
      (trades.countP fun t => t.exitReason = .takeProfit) = trades.length := by
  induction trades with
  | nil => rfl
  | cons t trades ih =>
      simp only [List.countP_cons, List.length_cons]
      cases t.exitReason <;> simp <;> omega

theorem LoopVars.entryTimes_length (v : LoopVars) :
    v.entryTimes.length = v.trades.length + v.state.openTrade.toList.length := by
  simp [LoopVars.entryTimes]

/-- How the signals of a finished run were used up. -/
structure SegmentRunResult.Funnel (r : SegmentRunResult) : Prop where
  pending : ∃ pending : Option ActionableSignal,
    r.pendingSignalNote = pending.map TradingAgent.pendingSignalNote ∧
      r.diagnostics.unexecutedSignals = pending.toList.length ∧
      r.diagnostics.buySignalsGenerated = r.diagnostics.executedEntries +
        Dict.total r.diagnostics.rejectedEntriesByReason + (if pending = some .buy then 1 else 0) ∧
      r.diagnostics.executedStrategyExits + (if pending = some .exit then 1 else 0) ≤
        r.diagnostics.exitSignalsGenerated
  entries : r.diagnostics.executedEntries =
    r.trades.length + if r.diagnostics.endsWithOpenPosition then 1 else 0
  exits : r.diagnostics.executedStrategyExits + r.diagnostics.executedStopLossExits +
    r.diagnostics.executedTakeProfitExits = r.trades.length

/-- Every BUY signal of a run that returns became an entry, a rejection the diagnostics count, or
the note about the last candle; every entry a closed trade or the open position; and no strategy
exit was made without an EXIT signal. -/
theorem signal_funnel (config : AppConfig) (filters : SymbolFilters) (strategy : Strategy)
    (minRequired : ℕ) (hpos : 0 < minRequired) (policy : Bool) (segment : List Candle) (S : ℚ)
    (journal j : Journal) (r : SegmentRunResult)
    (h : runSegment (.standard config filters strategy minRequired hpos policy) segment S journal =
      .ok (r, j)) : r.Funnel := by
  have henv := RunEnv.standard_standard config filters strategy minRequired hpos policy
  rcases runSegment_traced h with ⟨traces, last, v, -, htraces, rfl, rfl⟩
  rcases traceSegment_ledger henv htraces with ⟨refused, hledger, hinv⟩
  have hrejected : v.diag.rejectedEntriesByReason = Dict.tally (refused.map RejectedEntry.code) :=
    congrArg RejectionFigures.rejected hledger.figures
  have hlong : v.state.openTrade.toList.length =
      if v.state.portfolio.positionSide = .long then 1 else 0 := by
    have hposition := hinv.position
    unfold PositionInvariant at hposition
    cases hopen : v.state.openTrade with
    | none =>
        rw [hopen] at hposition
        simp [hposition.1]
    | some t =>
        rw [hopen] at hposition
        simp [hposition.long]
  constructor
  case pending =>
    refine ⟨v.pendingSignal, rfl, ?_, ?_, hledger.exits⟩
    · cases hpending : v.pendingSignal <;> simp [buildResult, buildDiagnostics, hpending]
    · calc v.diag.buySignalsGenerated
          = v.diag.executedEntries + refused.length + (if v.pendingSignal = some .buy then 1 else 0) :=
            hledger.buys
        _ = v.diag.executedEntries + Dict.total v.diag.rejectedEntriesByReason +
              (if v.pendingSignal = some .buy then 1 else 0) := by
            rw [hrejected, Dict.total_tally, List.length_map]
  case entries =>
    have hentries : v.diag.executedEntries = v.trades.length + v.state.openTrade.toList.length := by
      rw [hledger.entries, v.entryTimes_length]
    rw [hlong] at hentries
    simpa [buildResult, buildDiagnostics] using hentries
  case exits => exact countExits_add v.trades

/-- Four entries a day are one too many for the last BUY of this segment. -/
def Scenario.churn : List Candle :=
  [Scenario.candle 0 100 100, Scenario.candle 1 100 102, Scenario.candle 2 103 80,
    Scenario.candle 3 80 79, Scenario.candle 4 79 79, Scenario.candle 5 79 79]

theorem signal_funnel_churn :
    ∃ r j, runSegment (Scenario.env false) Scenario.churn 50 (some []) = .ok (r, j) ∧ r.Funnel := by
  rcases exists_of_isOk (x := runSegment (Scenario.env false) Scenario.churn 50 (some []))
    (by decide +kernel) with ⟨⟨r, j⟩, h⟩
  exact ⟨r, j, h, signal_funnel {} Scenario.filters Scenario.alternating 1 Nat.one_pos false _ 50
    (some []) j r h⟩

/-! ## The journal -/

theorem ReasonCode.text_injective : Function.Injective ReasonCode.text := by
  intro a b h
  cases a <;> cases b <;> first | rfl | simp [ReasonCode.text] at h

theorem decisionPayload_inj {code code' : ReasonCode} :
    decisionPayload .buy false code = decisionPayload .buy false code' ↔ code = code' := by
  constructor
  · intro h
    simp only [decisionPayload, List.cons.injEq, Prod.mk.injEq, PayloadValue.text.injEq, true_and,
      and_true] at h
    exact ReasonCode.text_injective h
  · rintro rfl
    rfl

/-- Whether a journal row says that a BUY was turned down for this reason. -/
def JournalEntry.refusesBuyFor (code : ReasonCode) (row : JournalEntry) : Bool :=
  row.refusesBuy && row.payload = decisionPayload .buy false code

/-- Whether it says so of the risk gate. -/
def JournalEntry.gatesBuyFor (code : ReasonCode) (row : JournalEntry) : Bool :=
  row.entryType = .riskDecision && row.payload = decisionPayload .buy false code

section Rows

variable {env : RunEnv} {journal : Journal} {hist : List CandleTrace}
  {refused : List RejectedEntry} {v : LoopVars} {rows : List JournalEntry}

theorem countP_refusesBuyFor
    (hrows : rows.filter JournalEntry.refusesBuy = refused.filterMap RejectedEntry.row?)
    (code : ReasonCode) :
    rows.countP (JournalEntry.refusesBuyFor code) =
      refused.countP fun e => e.stage ≠ .postFill ∧ e.code = code := by
  have hfilter : rows.countP (JournalEntry.refusesBuyFor code) =
      (rows.filter JournalEntry.refusesBuy).countP
        fun row => row.payload = decisionPayload .buy false code := by
    rw [List.countP_filter]
    refine List.countP_congr ?_
    intro row _
    rw [JournalEntry.refusesBuyFor, Bool.and_comm]
  rw [hfilter, hrows, List.countP_filterMap]
  refine List.countP_congr ?_
  intro e _
  cases hstage : e.stage <;>
    simp [RejectedEntry.row?, RejectionStage.entryType?, hstage, decisionPayload_inj]

/-- The rows of a gate are its rejections, in order. -/
theorem filter_gatesBuyFor
    (hrows : rows.filter JournalEntry.refusesBuy = refused.filterMap RejectedEntry.row?)
    (code : ReasonCode) :
    rows.filter (JournalEntry.gatesBuyFor code) =
      ((gateRejections refused).filter fun e => e.code = code).map fun e =>
        ⟨e.timeMs, .riskDecision, decisionPayload .buy false e.code⟩ := by
  have hrefuses : ∀ row : JournalEntry, row.gatesBuyFor code = true → row.refusesBuy = true := by
    intro row hrow
    simp only [JournalEntry.gatesBuyFor, Bool.and_eq_true, decide_eq_true_eq] at hrow
    rcases row with ⟨timeMs, entryType, payload⟩
    rcases hrow with ⟨rfl, rfl⟩
    simp [decisionPayload_refuses]
  have hfilter : rows.filter (JournalEntry.gatesBuyFor code) =
      (rows.filter JournalEntry.refusesBuy).filter (JournalEntry.gatesBuyFor code) := by
    rw [List.filter_filter]
    refine List.filter_congr ?_
    intro row _
    cases hgates : row.gatesBuyFor code with
    | false => rfl
    | true => rw [hrefuses row hgates, Bool.and_self]
  rw [hfilter, hrows, List.filter_filterMap, gateRejections, List.filter_filter,
    ← List.filterMap_eq_map, List.filterMap_filter]
  refine List.filterMap_congr ?_
  intro e _
  cases hstage : e.stage <;> by_cases hcode : e.code = code <;>
    simp [RejectedEntry.row?, RejectionStage.entryType?, JournalEntry.gatesBuyFor,
      decisionPayload_inj, Option.filter, hstage, hcode]

end Rows

/-- The rejections a run counted are those the journal has a row for, and the post-fill refusals. -/
structure SegmentRunResult.Journaled (r : SegmentRunResult) (policy : Bool)
    (rows : List JournalEntry) (unjournaled : List ReasonCode) : Prop where
  counted : ∀ code, r.diagnostics.rejectedEntriesByReason.getD code 0 =
    rows.countP (JournalEntry.refusesBuyFor code) + unjournaled.count code
  postFill : if policy then
      r.riskReward.map RiskRewardDiagnostics.entriesRejectedPostFillRevalidation =
        some unjournaled.length
    else unjournaled = []

/-- Reason by reason, a run that returns counts as many rejected entries as its journal has rows of
a BUY turned down; only the refusals after a fill, which the risk/reward diagnostics count apart,
leave no row. -/
theorem rejections_journaled (config : AppConfig) (filters : SymbolFilters) (strategy : Strategy)
    (minRequired : ℕ) (hpos : 0 < minRequired) (policy : Bool) (segment : List Candle) (S : ℚ)
    (journal j : Journal) (r : SegmentRunResult)
    (h : runSegment (.standard config filters strategy minRequired hpos policy) segment S journal =
      .ok (r, j)) :
    ∃ rows unjournaled, j = journal.extend rows ∧ r.Journaled policy rows unjournaled := by
  have henv := RunEnv.standard_standard config filters strategy minRequired hpos policy
  rcases runSegment_traced h with ⟨traces, last, v, -, htraces, rfl, rfl⟩
  rcases traceSegment_ledger henv htraces with ⟨refused, hledger, -⟩
  rcases hledger.rows with ⟨rows, hjournal, hrows⟩
  have hrejected : v.diag.rejectedEntriesByReason = Dict.tally (refused.map RejectedEntry.code) :=
    congrArg RejectionFigures.rejected hledger.figures
  have hpostFill : v.diag.rrRejectedPostFillRevalidation =
      refused.countP fun e => e.stage = .postFill :=
    congrArg RejectionFigures.postFill hledger.figures
  refine ⟨rows, (refused.filter fun e => e.stage = .postFill).map RejectedEntry.code, hjournal,
    ?_, ?_⟩
  · intro code
    -- a rejection is journaled or made after the fill
    calc v.diag.rejectedEntriesByReason.getD code 0
        = refused.countP fun e => e.code = code := by
          rw [hrejected, Dict.getD_tally, List.count, List.countP_map]
          exact List.countP_congr fun e _ => by simp
      _ = (refused.countP fun e => e.stage ≠ .postFill ∧ e.code = code) +
            refused.countP fun e => e.stage = .postFill ∧ e.code = code := by
          rw [List.countP_eq_countP_filter_add refused _ fun e => e.stage ≠ .postFill]
          simp [List.countP_filter, and_comm]
      _ = rows.countP (JournalEntry.refusesBuyFor code) +
            ((refused.filter fun e => e.stage = .postFill).map RejectedEntry.code).count code := by
          rw [countP_refusesBuyFor hrows, List.count, List.countP_map, List.countP_filter]
          refine congrArg _ (List.countP_congr ?_)
          intro e _
          simp [and_comm]
  · cases policy with
    | true =>
        rw [if_pos rfl, List.length_map, ← List.countP_eq_length_filter, ← hpostFill]
        rfl
    | false =>
        rw [if_neg (by simp), List.map_eq_nil_iff, List.filter_eq_nil_iff]
        intro e he hstage
        have hon : false = true := hledger.postFill e he (by simpa using hstage)
        cases hon

/-- With the policy on; at these rates a plan that was approved is approved again after its fill, so
the one refusal has a row. -/
theorem rejections_journaled_churn :
    ∃ r j rows unjournaled,
      runSegment (Scenario.env true) Scenario.churn 50 (some []) = .ok (r, j) ∧
        r.diagnostics.rejectedEntriesByReason.getD .maxTradesPerDayReached 0 = 1 ∧
        j = some ([] ++ rows) ∧ r.Journaled true rows unjournaled := by
  have hrun : (runSegment (Scenario.env true) Scenario.churn 50 (some [])).map
      (fun x => x.1.diagnostics.rejectedEntriesByReason.getD .maxTradesPerDayReached 0) = .ok 1 := by
    decide +kernel
  rcases exists_of_map_ok hrun with ⟨⟨r, j⟩, h, hcount⟩
  rcases rejections_journaled {} Scenario.filters Scenario.alternating 1 Nat.one_pos true _ 50
    (some []) j r h with ⟨rows, unjournaled, hjournal, htold⟩
  exact ⟨r, j, rows, unjournaled, h, hcount.symm, hjournal, htold⟩

/-! ## The activations -/

/-- An activation is told by the rows of its gate. -/
structure ShutdownActivation.Told (a : ShutdownActivation) (code : ReasonCode)
    (r : SegmentRunResult) (rows : List JournalEntry) : Prop where
  first : (rows.filter (JournalEntry.gatesBuyFor code)).head?.map JournalEntry.timestampMs =
    some a.firstActivatedTimeMs
  last : (rows.filter (JournalEntry.gatesBuyFor code)).getLast?.map JournalEntry.timestampMs =
    some a.lastActiveTimeMs
  ordered : a.firstActivatedTimeMs ≤ a.lastActiveTimeMs
  blocked : a.blockedBuyCount = r.diagnostics.rejectedEntriesByReason.getD code 0
  blockedRows : (rows.filter (JournalEntry.gatesBuyFor code)).length ≤ a.blockedBuyCount
  latched : a.remainedLatchedToEnd = true ↔ ∀ t ∈ r.entryTimes, t < a.firstActivatedTimeMs

section Activations

variable {env : RunEnv} {journal : Journal} {traces : List CandleTrace}
  {refused : List RejectedEntry} {v : LoopVars} {rows : List JournalEntry}

/-- In candles that open in order, the last of some of their times is the latest. -/
theorem le_getLast_of_sublist {times opens : List ℤ} (horder : opens.Pairwise (· ≤ ·))
    (h : times.Sublist opens) {t u : ℤ} (ht : t ∈ times) (hu : times.getLast? = some u) : t ≤ u := by
  rcases List.eq_nil_or_concat times with rfl | ⟨before, last, rfl⟩
  · cases ht
  · rw [List.concat_eq_append] at ht hu h
    rw [List.getLast?_concat] at hu
    cases hu
    rcases List.mem_append.1 ht with hbefore | hlast
    · exact (List.pairwise_append.1 (horder.sublist h)).2.2 t hbefore u (by simp)
    · exact (List.mem_singleton.1 hlast).le

theorem buildResult_entryTimes (env : RunEnv) (S : ℚ) (last : Candle) (v : LoopVars) :
    (buildResult env S last v).entryTimes = v.entryTimes := by
  unfold SegmentRunResult.entryTimes LoopVars.entryTimes
  cases hopen : v.state.openTrade <;> simp [buildResult, hopen, openTradeToInfo]

/-- Whether no entry was made from a time on is told by the last entry. -/
theorem Ledger.latched_iff (h : Ledger env journal traces refused v)
    (horder : (traces.map fun tr => tr.candle.openTimeMs).Pairwise (· ≤ ·)) (first : ℤ) :
    (v.diag.lastApprovedBuyTimeMs.all fun t => t < first) = true ↔
      ∀ t ∈ v.entryTimes, t < first := by
  rw [h.lastEntry]
  cases hlast : v.entryTimes.getLast? with
  | none =>
      rw [List.getLast?_eq_none_iff] at hlast
      simp [hlast]
  | some u =>
      simp only [Option.all_some, decide_eq_true_eq]
      constructor
      · intro hu t ht
        exact lt_of_le_of_lt (le_getLast_of_sublist horder h.enteredAt ht hlast) hu
      · intro hall
        exact hall u (List.mem_of_getLast? hlast)

theorem Ledger.told (h : Ledger env journal traces refused v)
    (horder : (traces.map fun tr => tr.candle.openTimeMs).Pairwise (· ≤ ·))
    (hrows : rows.filter JournalEntry.refusesBuy = refused.filterMap RejectedEntry.row?)
    {code : ReasonCode} {first : ℤ × ℚ × ℚ} (hmem : (code, first) ∈ v.diag.shutdownFirstActivation)
    (S : ℚ) (last : Candle) :
    (shutdownActivation v.diag last.closeTimeMs code first).Told code (buildResult env S last v)
      rows := by
  have hfirsts : v.diag.shutdownFirstActivation = Dict.firsts ((gateRejections refused).map
      fun e => (e.code, e.timeMs, e.equity, e.drawdown)) :=
    congrArg RejectionFigures.first h.figures
  have hlasts : v.diag.shutdownLastActive = Dict.updateAll [] ((gateRejections refused).map
      fun e => (e.code, e.timeMs)) :=
    congrArg RejectionFigures.last h.figures
  have hcounts : v.diag.rejectedEntriesByReason = Dict.tally (refused.map RejectedEntry.code) :=
    congrArg RejectionFigures.rejected h.figures
  generalize hgated : ((gateRejections refused).filter fun e => e.code = code) = gated
  have hgates := filter_gatesBuyFor hrows code
  rw [hgated] at hgates
  -- the first rejection of the gate with this code
  rw [hfirsts, Dict.mem_firsts, List.find?_map, Option.map_eq_some_iff] at hmem
  rcases hmem with ⟨e, he, hkey⟩
  have hhead : gated.head? = some e := by
    rw [← hgated, List.head?_filter]
    exact he
  have htime : e.timeMs = first.1 := congrArg (fun p => p.2.1) hkey
  -- and the last one
  have hne : gated ≠ [] := by
    intro hnil
    rw [hnil] at hhead
    cases hhead
  have hend := List.getLast?_eq_some_getLast hne
  generalize gated.getLast hne = e' at hend
  have hlastActive : v.diag.shutdownLastActive.getD code first.1 = e'.timeMs := by
    have hevents : (((gateRejections refused).map fun e => (e.code, e.timeMs)).filter
        fun p => p.1 = code) = gated.map fun e => (e.code, e.timeMs) := by
      rw [List.filter_map, ← hgated]
      rfl
    rw [Dict.getD, hlasts, Dict.get?_updateAll, hevents, List.getLast?_map, hend]
    rfl
  have hsublist : gated.Sublist refused := by
    rw [← hgated]
    exact List.filter_sublist.trans List.filter_sublist
  constructor
  case first =>
    rw [hgates, List.head?_map, hhead]
    exact congrArg some htime
  case last =>
    rw [hgates, List.getLast?_map, hend]
    exact congrArg some hlastActive.symm
  case ordered =>
    refine (le_of_eq htime.symm).trans ?_
    refine le_trans ?_ hlastActive.ge
    refine le_getLast_of_sublist horder ((hsublist.map RejectedEntry.timeMs).trans h.refusedAt)
      (List.mem_map_of_mem (List.mem_of_head? hhead)) ?_
    rw [List.getLast?_map, hend, Option.map_some]
  case blocked => rfl
  case blockedRows =>
    have hblocked : (shutdownActivation v.diag last.closeTimeMs code first).blockedBuyCount =
        refused.countP fun e => e.code = code := by
      refine Eq.trans (congrArg (fun d : Dict ReasonCode ℕ => d.getD code 0) hcounts) ?_
      rw [Dict.getD_tally, List.count, List.countP_map]
      exact List.countP_congr fun e _ => by simp
    rw [hgates, List.length_map, hblocked]
    calc gated.length = gated.countP fun e => e.code = code := by
          rw [List.countP_eq_length_filter, ← hgated, List.filter_filter]
          simp
      _ ≤ refused.countP fun e => e.code = code := hsublist.countP_le
  case latched =>
    rw [buildResult_entryTimes]
    exact h.latched_iff horder first.1

end Activations

/-- Every activation a run that returns reports is the first and the last journal row of its gate,
blocked at least as many BUYs as there are such rows, and remained latched exactly if no entry was
made from it on; every gate that turned a BUY down is reported. -/
theorem activations_journaled (config : AppConfig) (filters : SymbolFilters) (strategy : Strategy)
    (minRequired : ℕ) (hpos : 0 < minRequired) (policy : Bool) (segment : List Candle) (S : ℚ)
    (journal j : Journal) (r : SegmentRunResult) (horder : InOrder segment)
    (h : runSegment (.standard config filters strategy minRequired hpos policy) segment S journal =
      .ok (r, j)) :
    ∃ rows, j = journal.extend rows ∧
      (∀ code a, (code, a) ∈ r.diagnostics.shutdownActivations → a.Told code r rows) ∧
        ∀ code, code ∈ r.diagnostics.shutdownActivations.map Prod.fst ↔
          ∃ row ∈ rows, row.gatesBuyFor code = true := by
  have henv := RunEnv.standard_standard config filters strategy minRequired hpos policy
  rcases runSegment_traced h with ⟨traces, last, v, -, htraces, rfl, rfl⟩
  rcases traceSegment_ledger henv htraces with ⟨refused, hledger, -⟩
  rcases hledger.rows with ⟨rows, hjournal, hrows⟩
  have hcandles := (traceSegment_induct (fun _ _ => True) htraces (fun _ _ => trivial)
    (fun _ _ _ _ _ _ _ => trivial)).2
  have hopens : (traces.map fun tr => tr.candle.openTimeMs).Pairwise (· ≤ ·) := by
    have hdrop : InOrder (traces.map CandleTrace.candle) := hcandles ▸ List.Pairwise.drop horder
    unfold InOrder at hdrop
    rw [List.pairwise_map] at hdrop ⊢
    exact hdrop
  have hfirsts : v.diag.shutdownFirstActivation = Dict.firsts ((gateRejections refused).map
      fun e => (e.code, e.timeMs, e.equity, e.drawdown)) :=
    congrArg RejectionFigures.first hledger.figures
  refine ⟨rows, hjournal, ?_, ?_⟩
  · intro code a ha
    rcases List.mem_map.1 ha with ⟨⟨code', first⟩, hmem, heq⟩
    cases heq
    exact hledger.told hopens hrows hmem S last
  · intro code
    have hkeys : ∀ env, (buildResult env S last v).diagnostics.shutdownActivations.map Prod.fst =
        v.diag.shutdownFirstActivation.map Prod.fst := fun _ => List.map_map ..
    have hgates := filter_gatesBuyFor hrows code
    rw [hkeys, hfirsts, Dict.mem_keys_firsts, List.map_map]
    constructor
    · intro hcode
      rcases List.mem_map.1 hcode with ⟨e, he, hkey⟩
      have hrow : (⟨e.timeMs, .riskDecision, decisionPayload .buy false e.code⟩ : JournalEntry) ∈
          rows.filter (JournalEntry.gatesBuyFor code) := by
        rw [hgates]
        exact List.mem_map.2 ⟨e, List.mem_filter.2 ⟨he, by simpa using hkey⟩, rfl⟩
      exact ⟨_, List.mem_of_mem_filter hrow, (List.mem_filter.1 hrow).2⟩
    · rintro ⟨row, hrow, htells⟩
      have hmem : row ∈ rows.filter (JournalEntry.gatesBuyFor code) :=
        List.mem_filter.2 ⟨hrow, htells⟩
      rw [hgates] at hmem
      rcases List.mem_map.1 hmem with ⟨e, he, -⟩
      exact List.mem_map.2 ⟨e, List.mem_of_mem_filter he, by simpa using (List.mem_filter.1 he).2⟩

/-- The one activation of the daily limit. -/
theorem activations_journaled_churn :
    ∃ r j rows,
      runSegment (Scenario.env false) Scenario.churn 50 (some []) = .ok (r, j) ∧
        j = some ([] ++ rows) ∧
          r.diagnostics.shutdownActivations.map Prod.fst = [.maxTradesPerDayReached] ∧
          ∀ code a, (code, a) ∈ r.diagnostics.shutdownActivations → a.Told code r rows := by
  have hreported : (runSegment (Scenario.env false) Scenario.churn 50 (some [])).map
      (fun run => run.1.diagnostics.shutdownActivations.map Prod.fst) =
        .ok [.maxTradesPerDayReached] := by
    decide +kernel
  rcases exists_of_map_ok hreported with ⟨⟨r, j⟩, h, hkeys⟩
  rcases activations_journaled {} Scenario.filters Scenario.alternating 1 Nat.one_pos false _ 50
    (some []) j r (by unfold InOrder Scenario.churn; decide) h with ⟨rows, hjournal, htold, -⟩
  exact ⟨r, j, rows, h, hjournal, hkeys.symm, htold⟩

end TradingAgent
