import TradingAgent.Backtest.Transitions
import Mathlib.Data.List.Sublists

/-!
# Causality — the simulator has no look-ahead

What a run has recorded after `k` candles depends on those `k` candles only.

* `LoopVars.Extends cs` relates the variables before and after the candles `cs`: every record
  is appended, one equity point and one snapshot a candle, at most one exit a candle, and at most
  one journal row of each kind a candle;
* `runSegment_restricts` cuts a run at any candle: the run over the prefix returns, and the
  longer run only appends records stamped by later candles;
* `runSegment_no_lookahead` compares two runs that share a prefix.

Nothing here depends on what the imported functions compute, so it holds of any `EngineImports`.
-/

namespace TradingAgent

/-! ## What the stages leave alone -/

/-- The primary key of a journal row. -/
def JournalEntry.key (row : JournalEntry) : EntryType × ℤ :=
  (row.entryType, row.timestampMs)

/-- Every key a candle can leave in the journal, in the order of its processing. -/
def Candle.journalKeys (candle : Candle) : List (EntryType × ℤ) :=
  [(.sizing, candle.openTimeMs), (.riskDecision, candle.openTimeMs),
    (.orderValidation, candle.openTimeMs), (.stopLossTriggered, candle.openTimeMs),
    (.takeProfitTriggered, candle.openTimeMs), (.signal, candle.closeTimeMs)]

/-- Appending figures: nothing recorded of an entry is ever rewritten. -/
structure EntryFigures.Extends (a b : EntryFigures) : Prop where
  plannedRisk : a.plannedRiskQuote <+: b.plannedRiskQuote
  netReward : a.netRewardToRisk <+: b.netRewardToRisk

namespace EntryFigures.Extends

theorem refl (a : EntryFigures) : a.Extends a :=
  ⟨List.prefix_rfl, List.prefix_rfl⟩

theorem trans {a b c : EntryFigures} (hab : a.Extends b) (hbc : b.Extends c) : a.Extends c :=
  ⟨hab.plannedRisk.trans hbc.plannedRisk, hab.netReward.trans hbc.netReward⟩

theorem of_eq {a b : EntryFigures} (h : b = a) : a.Extends b :=
  h ▸ refl a

end EntryFigures.Extends

section Stages

variable [CurrentContext] {env : RunEnv} {candle : Candle} {v v' : LoopVars} {timeMs : ℤ} {q ref : ℚ}
  {fill : SimulatedFill} {reason : ExitReason} {portfolio : PortfolioState}
  {plan : Option RiskRewardPlan}

@[simp] theorem rollDay_trades : (rollDay candle v).trades = v.trades := rfl
@[simp] theorem rollDay_equityCurve : (rollDay candle v).equityCurve = v.equityCurve := rfl
@[simp] theorem rollDay_portfolioSnapshots :
    (rollDay candle v).portfolioSnapshots = v.portfolioSnapshots := rfl
@[simp] theorem rollDay_journal : (rollDay candle v).journal = v.journal := rfl
@[simp] theorem rollDay_diag : (rollDay candle v).diag = v.diag := rfl

theorem recordExit_trades (env : RunEnv) :
    ∃ ts, (recordExit env timeMs q fill reason ref portfolio v).trades = v.trades ++ ts ∧
      (ts.map Trade.exitTimeMs).Sublist [timeMs] := by
  cases hopen : v.state.openTrade with
  | none =>
      exact ⟨[], by simp [recordExit, hopen], by simp⟩
  | some openTrade =>
      exact ⟨_, by simp only [recordExit, hopen]; rfl, by simp [closedTrade]⟩

@[simp] theorem recordExit_entryFigures :
    (recordExit env timeMs q fill reason ref portfolio v).diag.entryFigures =
      v.diag.entryFigures := by
  simp only [recordExit]
  split
  · rfl
  · split <;> rfl

theorem recordEntry_entryFigures (env : RunEnv) (q : ℚ) (fill : SimulatedFill)
    (portfolio : PortfolioState) :
    v.diag.entryFigures.Extends
      (recordEntry env candle q fill plan portfolio v).diag.entryFigures := by
  cases plan with
  | none => exact ⟨List.prefix_rfl, List.prefix_rfl⟩
  | some plan => exact ⟨List.prefix_append _ _, List.prefix_append _ _⟩

/-- What filling the pending signal may have recorded. -/
structure FillFrame (candle : Candle) (v v' : LoopVars) : Prop where
  curve : v'.equityCurve = v.equityCurve
  snapshots : v'.portfolioSnapshots = v.portfolioSnapshots
  rows : ∃ rows, DecisionRows candle rows ∧ v'.journal = v.journal.extend rows
  exits : v'.trades = v.trades ∨ v'.state.stopPrice = none ∧
    ∃ ts, v'.trades = v.trades ++ ts ∧ (ts.map Trade.exitTimeMs).Sublist [candle.openTimeMs]
  figures : v.diag.entryFigures.Extends v'.diag.entryFigures

omit [CurrentContext] in
theorem DecisionRows.nil (candle : Candle) : DecisionRows candle [] :=
  ⟨by simp, by simp⟩

theorem fillPending_frame (h : fillPending env candle v = .ok v') : FillFrame candle v v' := by
  rcases fillPending_cases h with ⟨-, rfl⟩ | ⟨signalType, m, -, hres, rfl⟩
  · exact ⟨rfl, rfl, ⟨[], .nil candle, by simp⟩, Or.inl rfl, .refl _⟩
  · rcases resolvePendingSignal_cases hres with
      ⟨rows, diag, hrows, hdiag, rfl⟩ | ⟨-, e, rfl⟩ | ⟨-, e, rfl⟩
    · exact ⟨rfl, rfl, ⟨rows, hrows, rfl⟩, Or.inl rfl, .of_eq hdiag⟩
    · exact ⟨rfl, rfl, ⟨e.rows, e.decision, rfl⟩, Or.inl rfl,
        recordEntry_entryFigures env e.quantity
          (env.imports.simulateBuy env.broker e.quantity candle.open) e.portfolio⟩
    · refine ⟨rfl, rfl, ⟨e.rows, e.decision, rfl⟩, Or.inr ⟨rfl, ?_⟩, .of_eq ?_⟩
      · exact recordExit_trades env
      · simp only [ExitFill.result, ExitAttempt.leaves, recordExit_entryFigures]
        rfl

/-- What the protective check may have recorded. -/
structure ProtectFrame (candle : Candle) (v v' : LoopVars) : Prop where
  curve : v'.equityCurve = v.equityCurve
  snapshots : v'.portfolioSnapshots = v.portfolioSnapshots
  rows : ∃ rows, v'.journal = v.journal.extend rows ∧
    (rows.map JournalEntry.key).Sublist
      [(.stopLossTriggered, candle.openTimeMs), (.takeProfitTriggered, candle.openTimeMs)]
  exits : v'.trades = v.trades ∨ v.state.stopPrice.isSome = true ∧
    ∃ ts, v'.trades = v.trades ++ ts ∧ (ts.map Trade.exitTimeMs).Sublist [candle.openTimeMs]
  figures : v'.diag.entryFigures = v.diag.entryFigures

theorem protectiveExit_frame (h : protectiveExit env candle v = .ok v') :
    ProtectFrame candle v v' := by
  rcases protectiveExit_cases h with rfl | ⟨e, rfl⟩
  · exact ⟨rfl, rfl, ⟨[], by simp, by simp⟩, Or.inl rfl, rfl⟩
  · refine ⟨rfl, rfl, ⟨[e.row], rfl, ?_⟩, Or.inr ⟨e.stopSet, ?_⟩, ?_⟩
    · rcases e.rowType with htype | htype
      · simp [JournalEntry.key, htype, e.stamped]
      · simp [JournalEntry.key, htype, e.stamped]
    · exact recordExit_trades env
    · simp [ProtectiveFill.result]

omit [CurrentContext] in
/-- Decision rows carry the first keys of their candle. -/
theorem DecisionRows.keys {rows : List JournalEntry} (h : DecisionRows candle rows) :
    (rows.map JournalEntry.key).Sublist
      [(.sizing, candle.openTimeMs), (.riskDecision, candle.openTimeMs),
        (.orderValidation, candle.openTimeMs)] := by
  have hkeys : rows.map JournalEntry.key =
      (rows.map JournalEntry.entryType).map fun t => (t, candle.openTimeMs) := by
    rw [List.map_map]
    refine List.map_congr_left fun row hrow => ?_
    simp [JournalEntry.key, h.stamped row hrow]
  rw [hkeys]
  exact h.types.sublist.map _

end Stages

/-! ## What a run of candles appends -/

/-- `v'` is `v` after processing the candles `cs`. -/
structure LoopVars.Extends (cs : List Candle) (v v' : LoopVars) : Prop where
  equity : ∃ ps, v'.equityCurve = v.equityCurve ++ ps ∧
    ps.map EquityPoint.timestampMs = cs.map Candle.closeTimeMs
  snapshots : ∃ ss, v'.portfolioSnapshots = v.portfolioSnapshots ++ ss ∧ ss.length = cs.length
  trades : ∃ ts, v'.trades = v.trades ++ ts ∧
    (ts.map Trade.exitTimeMs).Sublist (cs.map Candle.openTimeMs)
  journal : ∃ rows, v'.journal = v.journal.extend rows ∧
    (rows.map JournalEntry.key).Sublist (cs.flatMap Candle.journalKeys)
  figures : v.diag.entryFigures.Extends v'.diag.entryFigures

namespace LoopVars.Extends

theorem refl (v : LoopVars) : v.Extends [] v :=
  ⟨⟨[], by simp, rfl⟩, ⟨[], by simp, rfl⟩, ⟨[], by simp, by simp⟩, ⟨[], by simp, by simp⟩, .refl _⟩

theorem trans {cs ds : List Candle} {a b c : LoopVars} (hab : a.Extends cs b)
    (hbc : b.Extends ds c) : a.Extends (cs ++ ds) c := by
  rcases hab with ⟨⟨ps, hps, hpt⟩, ⟨ss, hss, hsl⟩, ⟨ts, hts, htt⟩, ⟨rs, hrs, hrt⟩, hfig⟩
  rcases hbc with ⟨⟨ps', hps', hpt'⟩, ⟨ss', hss', hsl'⟩, ⟨ts', hts', htt'⟩, ⟨rs', hrs', hrt'⟩, hfig'⟩
  refine ⟨⟨ps ++ ps', ?_, ?_⟩, ⟨ss ++ ss', ?_, ?_⟩, ⟨ts ++ ts', ?_, ?_⟩, ⟨rs ++ rs', ?_, ?_⟩,
    hfig.trans hfig'⟩
  · rw [hps', hps, List.append_assoc]
  · simp [hpt, hpt']
  · rw [hss', hss, List.append_assoc]
  · simp [hsl, hsl']
  · rw [hts', hts, List.append_assoc]
  · simpa using htt.append htt'
  · rw [hrs', hrs, Journal.extend_extend]
  · simpa using hrt.append hrt'

end LoopVars.Extends

/-- One candle appends one equity point, one snapshot and at most one exit. -/
theorem processCandle_extends {env : RunEnv} {seen : List Candle} {candle : Candle}
    {v v' : LoopVars} (h : processCandle env seen candle v = .ok v') : v.Extends [candle] v' := by
  rcases processCandle_cases h with ⟨tr, htr, rfl, rfl, rfl⟩
  rcases htr.marks with ⟨signal, -, hclosed⟩
  have hatOpen := htr.atOpen_eq
  have hfill := fillPending_frame htr.fills
  have hprotect := protectiveExit_frame htr.protects
  rcases hfill.rows with ⟨fillRows, hdecision, hfillJournal⟩
  rcases hprotect.rows with ⟨protectRows, hprotectJournal, hprotectKeys⟩
  have hcurve : tr.guarded.equityCurve = tr.before.equityCurve := by
    rw [hprotect.curve, hfill.curve, hatOpen, rollDay_equityCurve]
  have hsnapshots : tr.guarded.portfolioSnapshots = tr.before.portfolioSnapshots := by
    rw [hprotect.snapshots, hfill.snapshots, hatOpen, rollDay_portfolioSnapshots]
  have hjournal : tr.guarded.journal = tr.before.journal.extend (fillRows ++ protectRows) := by
    rw [hprotectJournal, hfillJournal, hatOpen, rollDay_journal, Journal.extend_extend]
  have hfigures : tr.closed.diag.entryFigures = tr.filled.diag.entryFigures := by
    rw [← hprotect.figures, hclosed]
    simp [recordMark]
  have hrow := Journal.record_eq_extend tr.guarded.journal .signal (signalPayload signal)
    tr.candle.closeTimeMs
  constructor
  · rw [hclosed]
    exact ⟨[_], congrArg (· ++ [_]) hcurve, rfl⟩
  · rw [hclosed]
    exact ⟨[_], congrArg (· ++ [_]) hsnapshots, rfl⟩
  · -- an exit at the open clears the stop, so the protective check cannot exit again
    have htrades : tr.closed.trades = tr.guarded.trades := by rw [hclosed]; rfl
    have hbefore : tr.atOpen.trades = tr.before.trades := by simp [hatOpen]
    rw [htrades]
    rcases hfill.exits with hnone | ⟨hstop, ts, hts, hsub⟩
    · rcases hprotect.exits with hnone' | ⟨-, ts, hts, hsub⟩
      · exact ⟨[], by simp [hnone', hnone, hbefore], by simp⟩
      · exact ⟨ts, by rw [hts, hnone, hbefore], hsub⟩
    · rcases hprotect.exits with hnone' | ⟨hsome, -⟩
      · exact ⟨ts, by rw [hnone', hts, hbefore], hsub⟩
      · rw [hstop] at hsome
        cases hsome
  · have hclosedJournal : tr.closed.journal = tr.before.journal.extend
        (fillRows ++ protectRows ++
          [⟨tr.candle.closeTimeMs, .signal, signalPayload signal⟩]) := by
      have hmark : tr.closed.journal = tr.guarded.journal.record .signal (signalPayload signal)
          tr.candle.closeTimeMs := by rw [hclosed]; rfl
      rw [hmark, hrow, hjournal, Journal.extend_extend]
    refine ⟨_, hclosedJournal, ?_⟩
    have hkeys := (hdecision.keys.append hprotectKeys).append
      (List.Sublist.refl [(EntryType.signal, tr.candle.closeTimeMs)])
    simpa [Candle.journalKeys, JournalEntry.key] using hkeys
  · rw [hfigures]
    simpa [hatOpen] using hfill.figures

/-- A run of candles appends what each of its candles appends. -/
theorem run_extends {env : RunEnv} {seen rest : List Candle} {v v' : LoopVars}
    (h : CausalRun.run (processCandle env) seen rest v = .ok v') : v.Extends rest v' := by
  induction rest generalizing seen v with
  | nil =>
      cases h
      exact .refl _
  | cons candle rest ih =>
      rcases CausalRun.run_cons_eq_ok h with ⟨m, hm, hrest⟩
      exact (processCandle_extends hm).trans (ih hrest)

/-! ## Cutting a run at a candle -/

/-- The run `(r, j)` over `segment` agrees with the run `(r₀, j₀)` over its first `k` candles, and
everything else it recorded was stamped by a later candle. -/
structure RestrictsTo (env : RunEnv) (segment : List Candle) (k : ℕ) (journal : Journal)
    (r : SegmentRunResult) (j : Journal) (r₀ : SegmentRunResult) (j₀ : Journal) : Prop where
  equityCurve : r.equityCurve.take (k + 1 - env.minRequired) = r₀.equityCurve
  portfolioSnapshots : r.portfolioSnapshots.take (k + 1 - env.minRequired) = r₀.portfolioSnapshots
  trades : ∃ later, r.trades = r₀.trades ++ later ∧
    ∀ t ∈ later, ∃ c ∈ segment.drop k, t.exitTimeMs = c.openTimeMs
  tradesStamped : ∀ t ∈ r₀.trades, ∃ c ∈ segment.take k, t.exitTimeMs = c.openTimeMs
  rows : ∃ later, j = j₀.extend later ∧
    ∀ row ∈ later, ∃ c ∈ segment.drop k, row.key ∈ c.journalKeys
  rowsStamped : ∃ rows, j₀ = journal.extend rows ∧
    ∀ row ∈ rows, ∃ c ∈ segment.take k, row.key ∈ c.journalKeys

/-- What a list of candles stamps, each of its candles stamps. -/
theorem exists_candle_of_sublist {cs : List Candle} {ts : List Trade}
    (h : (ts.map Trade.exitTimeMs).Sublist (cs.map Candle.openTimeMs)) {t : Trade} (ht : t ∈ ts) :
    ∃ c ∈ cs, t.exitTimeMs = c.openTimeMs := by
  have hmem : t.exitTimeMs ∈ cs.map Candle.openTimeMs := h.subset (List.mem_map_of_mem ht)
  rcases List.mem_map.1 hmem with ⟨c, hc, heq⟩
  exact ⟨c, hc, heq.symm⟩

theorem exists_candle_of_keys {cs : List Candle} {rows : List JournalEntry}
    (h : (rows.map JournalEntry.key).Sublist (cs.flatMap Candle.journalKeys)) {row : JournalEntry}
    (hrow : row ∈ rows) : ∃ c ∈ cs, row.key ∈ c.journalKeys :=
  List.mem_flatMap.1 (h.subset (List.mem_map_of_mem hrow))

/-- The loop over a segment is the loop over its first `k` candles, which is what a run over those
returns, and then the loop over the later ones. -/
theorem runSegment_split {env : RunEnv} {segment : List Candle} {S : ℚ} {journal j : Journal}
    {r : SegmentRunResult} {k : ℕ} (hk : env.minRequired ≤ k)
    (h : runSegment env segment S journal = .ok (r, j)) :
    ∃ (first last₀ last : Candle) (m v : LoopVars),
      CausalRun.run (processCandle env) ((segment.take k).take (env.minRequired - 1))
          ((segment.take k).drop (env.minRequired - 1)) (initialVars S first.close journal) =
            .ok m ∧
        CausalRun.run (processCandle env) (segment.take k) (segment.drop k) m = .ok v ∧
        runSegment env (segment.take k) S journal = .ok (buildResult env S last₀ m, m.journal) ∧
        r = buildResult env S last v ∧ j = v.journal := by
  rcases runSegment_eq_ok h with ⟨first, last, v, hfirst, -, hloop, hr, hj⟩
  have hpos := env.minRequiredPos
  have hlt : env.minRequired - 1 < segment.length := by
    rcases List.getElem?_eq_some_iff.1 hfirst with ⟨hlt, -⟩
    exact hlt
  have hlen : env.minRequired - 1 < (segment.take k).length := by
    rw [List.length_take]
    omega
  -- the candles of the loop are those of the prefix and those after it
  have hsplit : segment.drop (env.minRequired - 1) =
      (segment.take k).drop (env.minRequired - 1) ++ segment.drop k := by
    conv_lhs => rw [← List.take_append_drop k segment]
    rw [List.drop_append_of_le_length hlen.le]
  have hseen : (segment.take k).take (env.minRequired - 1) =
      segment.take (env.minRequired - 1) := by
    rw [List.take_take, min_eq_left (by omega)]
  unfold runLoop at hloop
  rw [hsplit, ← hseen] at hloop
  rcases CausalRun.run_append_eq_ok hloop with ⟨m, hprefix, hlater⟩
  rw [List.take_append_drop] at hlater
  have hfirst₀ : (segment.take k)[env.minRequired - 1]? = some first := by
    rw [List.getElem?_take_of_lt (by omega), hfirst]
  have hlast₀ := List.getLast?_eq_some_getLast (List.ne_nil_of_length_pos (Nat.zero_lt_of_lt hlen))
  exact ⟨first, _, last, m, v, hprefix, hlater, runSegment_of_loop hfirst₀ hlast₀ hprefix, hr, hj⟩

/-- A run over a segment passes through the run over each of its prefixes. -/
theorem runSegment_restricts {env : RunEnv} {segment : List Candle} {S : ℚ}
    {journal j : Journal} {r : SegmentRunResult} {k : ℕ} (hk : env.minRequired ≤ k)
    (h : runSegment env segment S journal = .ok (r, j)) :
    ∃ r₀ j₀, runSegment env (segment.take k) S journal = .ok (r₀, j₀) ∧
      RestrictsTo env segment k journal r j r₀ j₀ := by
  rcases runSegment_split hk h with ⟨first, last₀, last, m, v, hprefix, hlater, hrun₀, rfl, rfl⟩
  have hpos := env.minRequiredPos
  refine ⟨_, _, hrun₀, ?_⟩
  -- the records of the prefix, and what the later candles append to them
  rcases run_extends hprefix with ⟨⟨ps, hps, hpt⟩, ⟨ss, hss, hsl⟩, ⟨ts, hts, htt⟩, ⟨rs, hrs, hrt⟩, -⟩
  rcases run_extends hlater with ⟨⟨ps', hps', -⟩, ⟨ss', hss', -⟩, ⟨ts', hts', htt'⟩,
    ⟨rs', hrs', hrt'⟩, -⟩
  have hcount : ((segment.take k).drop (env.minRequired - 1)).length ≤ k + 1 - env.minRequired := by
    rw [List.length_drop, List.length_take]
    omega
  have hrest : ∀ (xs : List Candle), xs ≠ [] → segment.drop k = xs →
      ((segment.take k).drop (env.minRequired - 1)).length = k + 1 - env.minRequired := by
    intro xs hxs hdrop
    have hk' : k < segment.length := by
      by_contra hge
      exact hxs (hdrop ▸ List.drop_eq_nil_of_le (not_lt.1 hge))
    rw [List.length_drop, List.length_take]
    omega
  have htake : ∀ {β : Type} (xs ys : List β),
      xs.length = ((segment.take k).drop (env.minRequired - 1)).length →
        (segment.drop k = [] → ys = []) → (xs ++ ys).take (k + 1 - env.minRequired) = xs := by
    intro β xs ys hxs hys
    by_cases hdrop : segment.drop k = []
    · rw [hys hdrop, List.append_nil, List.take_of_length_le (hxs ▸ hcount)]
    · rw [List.take_left' (hxs.trans (hrest _ hdrop rfl))]
  have hpsLen : ps.length = ((segment.take k).drop (env.minRequired - 1)).length := by
    simpa using congrArg List.length hpt
  have hstop : segment.drop k = [] → v = m := by
    intro hnil
    rw [hnil] at hlater
    cases hlater
    rfl
  refine ⟨?_, ?_, ⟨ts', hts', fun t ht => exists_candle_of_sublist htt' ht⟩, ?_,
    ⟨rs', hrs', fun row hrow => exists_candle_of_keys hrt' hrow⟩, ⟨rs, hrs, ?_⟩⟩
  · have hm : m.equityCurve = ps := by simpa [initialVars] using hps
    simp only [buildResult, hps', hm]
    refine htake _ _ hpsLen fun hnil => ?_
    have hv := hstop hnil
    subst hv
    simpa using hps'
  · have hm : m.portfolioSnapshots = ss := by simpa [initialVars] using hss
    simp only [buildResult, hss', hm]
    refine htake _ _ hsl fun hnil => ?_
    have hv := hstop hnil
    subst hv
    simpa using hss'
  · intro t ht
    have hm : m.trades = ts := by simpa [initialVars] using hts
    have ht' : t ∈ ts := hm ▸ ht
    rcases exists_candle_of_sublist htt ht' with ⟨c, hc, heq⟩
    exact ⟨c, List.mem_of_mem_drop hc, heq⟩
  · intro row hrow
    rcases exists_candle_of_keys hrt hrow with ⟨c, hc, hkey⟩
    exact ⟨c, List.mem_of_mem_drop hc, hkey⟩

/-- No candle after the first `k` shares a time stamp with one of the first `k`. -/
def SeparatedAt (segment : List Candle) (k : ℕ) : Prop :=
  ∀ c ∈ segment.drop k, ∀ d ∈ segment.take k, c.openTimeMs ≠ d.openTimeMs

/-- The trades of a run whose exit candle is among the first `k`. -/
def tradesWithin (segment : List Candle) (k : ℕ) (trades : List Trade) : List Trade :=
  trades.filter fun t => t.exitTimeMs ∈ (segment.take k).map Candle.openTimeMs

/-- Where time stamps tell the candles apart, the prefix's trades are those that exit in it. -/
theorem RestrictsTo.tradesWithin_eq {env : RunEnv} {segment : List Candle} {k : ℕ}
    {journal j j₀ : Journal} {r r₀ : SegmentRunResult}
    (h : RestrictsTo env segment k journal r j r₀ j₀) (hsep : SeparatedAt segment k) :
    tradesWithin segment k r.trades = r₀.trades := by
  rcases h.trades with ⟨later, htrades, hlater⟩
  have hin : tradesWithin segment k r₀.trades = r₀.trades := by
    refine List.filter_eq_self.2 fun t ht => ?_
    rcases h.tradesStamped t ht with ⟨c, hc, heq⟩
    exact decide_eq_true (heq ▸ List.mem_map_of_mem hc)
  have hout : tradesWithin segment k later = [] := by
    refine List.filter_eq_nil_iff.2 fun t ht => ?_
    rcases hlater t ht with ⟨c, hc, heq⟩
    intro hmem
    rcases List.mem_map.1 (of_decide_eq_true hmem) with ⟨d, hd, hopen⟩
    exact hsep c hc d hd (heq ▸ hopen.symm)
  unfold tradesWithin at *
  rw [htrades, List.filter_append, hin, hout, List.append_nil]

/-- Two runs over segments that share their first `k` candles record the same up to there: both
restrict to the one run over the shared prefix. -/
theorem runSegment_no_lookahead (env : RunEnv) (segment₁ segment₂ : List Candle) (k : ℕ) (S : ℚ)
    (journal j₁ j₂ : Journal) (r₁ r₂ : SegmentRunResult) (hk : env.minRequired ≤ k)
    (hagree : segment₁.take k = segment₂.take k)
    (h₁ : runSegment env segment₁ S journal = .ok (r₁, j₁))
    (h₂ : runSegment env segment₂ S journal = .ok (r₂, j₂)) :
    ∃ r₀ j₀, runSegment env (segment₁.take k) S journal = .ok (r₀, j₀) ∧
      RestrictsTo env segment₁ k journal r₁ j₁ r₀ j₀ ∧
      RestrictsTo env segment₂ k journal r₂ j₂ r₀ j₀ ∧
      r₁.equityCurve.take (k + 1 - env.minRequired) =
        r₂.equityCurve.take (k + 1 - env.minRequired) ∧
      r₁.portfolioSnapshots.take (k + 1 - env.minRequired) =
        r₂.portfolioSnapshots.take (k + 1 - env.minRequired) ∧
      (SeparatedAt segment₁ k → SeparatedAt segment₂ k →
        tradesWithin segment₁ k r₁.trades = tradesWithin segment₂ k r₂.trades) := by
  rcases runSegment_restricts hk h₁ with ⟨r₀, j₀, h₀, hr₁⟩
  rcases runSegment_restricts hk h₂ with ⟨r₀', j₀', h₀', hr₂⟩
  -- the two prefix runs are the same run
  rw [← hagree, h₀] at h₀'
  cases h₀'
  refine ⟨r₀, j₀, h₀, hr₁, hr₂, ?_, ?_, fun hsep₁ hsep₂ => ?_⟩
  · rw [hr₁.equityCurve, hr₂.equityCurve]
  · rw [hr₁.portfolioSnapshots, hr₂.portfolioSnapshots]
  · rw [hr₁.tradesWithin_eq hsep₁, hr₂.tradesWithin_eq hsep₂]

/-- A round trip, then two different futures. -/
theorem runSegment_no_lookahead_round_trip :
    let shared := [Scenario.candle 0 100 100, Scenario.candle 1 100 102, Scenario.candle 2 103 104]
    ∃ r₁ j₁ r₂ j₂,
      runSegment (Scenario.env true) (shared ++ [Scenario.candle 3 104 50]) 50 (some []) =
          .ok (r₁, j₁) ∧
        runSegment (Scenario.env true) (shared ++ [Scenario.candle 3 110 200]) 50 (some []) =
          .ok (r₂, j₂) ∧
        r₁.equityCurve.take 3 = r₂.equityCurve.take 3 := by
  intro shared
  rcases exists_of_isOk (x := runSegment (Scenario.env true)
    (shared ++ [Scenario.candle 3 104 50]) 50 (some [])) (by decide +kernel) with ⟨⟨r₁, j₁⟩, h₁⟩
  rcases exists_of_isOk (x := runSegment (Scenario.env true)
    (shared ++ [Scenario.candle 3 110 200]) 50 (some [])) (by decide +kernel) with ⟨⟨r₂, j₂⟩, h₂⟩
  rcases runSegment_no_lookahead (Scenario.env true) (shared ++ [Scenario.candle 3 104 50])
    (shared ++ [Scenario.candle 3 110 200]) 3 50 (some []) j₁ j₂ r₁ r₂ (by decide) rfl h₁ h₂ with
    ⟨_, _, -, -, -, hcurve, -⟩
  exact ⟨r₁, j₁, r₂, j₂, h₁, h₂, hcurve⟩

end TradingAgent
