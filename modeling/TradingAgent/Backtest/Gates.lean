import TradingAgent.Backtest.Invariant

/-!
# Gates — the risk limits over whole runs

The loop tracks the day's trades, the day's realized profit, the cooldown and the peak equity in
counters that are reset, decremented and latched in different places.  Here each counter is shown
equal to what the history of the run says, so the gates hold of the history.

* `fillsOn`, `exitsOn`, `dayStartEquity`, `runningPeak` are read off the traces of past candles;
* `CounterStep` says what the stages of one candle do to the counters;
* `Tracked` ties the counters to the history, and every candle keeps it;
* `risk_gates_hold` states the gates at every executed entry.
-/

namespace TradingAgent

/-! ## The history -/

namespace CandleTrace

/-- The trades closed while this candle was processed. -/
def exits (tr : CandleTrace) : List Trade :=
  tr.closed.trades.drop tr.before.trades.length

/-- The entries filled at this candle's open. -/
def entries (tr : CandleTrace) : ℕ :=
  tr.filled.diag.executedEntries - tr.before.diag.executedEntries

def fills (tr : CandleTrace) : ℕ :=
  tr.entries + tr.exits.length

/-- Whether a trade was closed at a loss while this candle was processed. -/
def Losing (tr : CandleTrace) : Prop :=
  ∃ t ∈ tr.exits, t.pnlQuote < 0

def equityAtOpen (tr : CandleTrace) : ℚ :=
  tr.before.state.portfolio.equity tr.candle.open

/-- The equity marks this candle took: at its open when a signal was pending, and at its close. -/
def marks (tr : CandleTrace) : List ℚ :=
  (if tr.before.pendingSignal.isSome then [tr.equityAtOpen] else []) ++
    [tr.closed.state.portfolio.equity tr.candle.close]

end CandleTrace

/-- The candles of a history that opened in the UTC day `day`. -/
def onDay (day : ℤ) (hist : List CandleTrace) : List CandleTrace :=
  hist.filter fun tr => tr.candle.day = day

def fillsOn (day : ℤ) (hist : List CandleTrace) : ℕ :=
  ((onDay day hist).map CandleTrace.fills).sum

def exitsOn (day : ℤ) (hist : List CandleTrace) : List Trade :=
  (onDay day hist).flatMap CandleTrace.exits

/-- The equity at the open of the day's first evaluated candle. -/
def dayStartEquity (day : ℤ) (hist : List CandleTrace) : ℚ :=
  ((onDay day hist).head?.map CandleTrace.equityAtOpen).getD 0

/-- The profits of `trades` as shares of `start`, when that is positive. -/
def realizedPct (start : ℚ) (trades : List Trade) : ℚ :=
  if 0 < start then (trades.map fun t => t.pnlQuote / start).sum else 0

/-- The running maximum of the starting equity and of every mark taken so far. -/
def runningPeak (S : ℚ) (hist : List CandleTrace) : ℚ :=
  (hist.flatMap CandleTrace.marks).foldl max S

section Days

variable {day : ℤ} {hist : List CandleTrace} {tr : CandleTrace}

theorem onDay_append_of_day (h : tr.candle.day = day) :
    onDay day (hist ++ [tr]) = onDay day hist ++ [tr] := by
  simp [onDay, h]

theorem fillsOn_append_of_day (h : tr.candle.day = day) :
    fillsOn day (hist ++ [tr]) = fillsOn day hist + tr.fills := by
  simp [fillsOn, onDay_append_of_day h]

theorem exitsOn_append_of_day (h : tr.candle.day = day) :
    exitsOn day (hist ++ [tr]) = exitsOn day hist ++ tr.exits := by
  simp [exitsOn, onDay_append_of_day h]

theorem runningPeak_append (S : ℚ) :
    runningPeak S (hist ++ [tr]) = tr.marks.foldl max (runningPeak S hist) := by
  simp [runningPeak]

theorem realizedPct_append (start : ℚ) (xs ys : List Trade) :
    realizedPct start (xs ++ ys) = realizedPct start xs + realizedPct start ys := by
  unfold realizedPct
  split
  · simp
  · simp

theorem Candle.day_le {a b : Candle} (h : a.openTimeMs ≤ b.openTimeMs) : a.day ≤ b.day :=
  Int.ediv_le_ediv (by decide) h

end Days

/-! ## What one candle does to the counters -/

/-- `after` is `before` with `entries` more entries, the trades `exits` closed, and the counters
moved accordingly. -/
structure CounterStep (env : RunEnv) (before after : LoopVars) (entries : ℕ) (exits : List Trade) :
    Prop where
  trades : after.trades = before.trades ++ exits
  executed : after.diag.executedEntries = before.diag.executedEntries + entries
  tradesToday : after.state.tradesToday = before.state.tradesToday + (entries + exits.length)
  start : after.state.dailyStartEquity = before.state.dailyStartEquity
  pct : after.state.dailyRealizedPnlPct =
    before.state.dailyRealizedPnlPct + realizedPct before.state.dailyStartEquity exits
  cooldownLosing : (∃ t ∈ exits, t.pnlQuote < 0) →
    after.state.cooldownBarsRemaining = env.config.risk.cooldownBarsAfterLoss
  cooldownKept : (∀ t ∈ exits, ¬t.pnlQuote < 0) →
    after.state.cooldownBarsRemaining = before.state.cooldownBarsRemaining

namespace CounterStep

variable {env : RunEnv} {a b c : LoopVars} {m n : ℕ} {xs ys : List Trade}

/-- Nothing was filled. -/
theorem idle (hstate : b.state = a.state) (htrades : b.trades = a.trades)
    (hentries : b.diag.executedEntries = a.diag.executedEntries) : CounterStep env a b 0 [] := by
  constructor <;> simp [hstate, htrades, hentries, realizedPct]

theorem trans (hab : CounterStep env a b m xs) (hbc : CounterStep env b c n ys) :
    CounterStep env a c (m + n) (xs ++ ys) := by
  constructor
  · rw [hbc.trades, hab.trades, List.append_assoc]
  · rw [hbc.executed, hab.executed, Nat.add_assoc]
  · rw [hbc.tradesToday, hab.tradesToday, List.length_append]
    omega
  · rw [hbc.start, hab.start]
  · rw [hbc.pct, hab.pct, hab.start, realizedPct_append, add_assoc]
  · rintro ⟨t, ht, hloss⟩
    by_cases hys : ∃ t ∈ ys, t.pnlQuote < 0
    · exact hbc.cooldownLosing hys
    · -- the loss was in the first part, and nothing after it touched the cooldown
      have hkept : ∀ t ∈ ys, ¬t.pnlQuote < 0 := fun t ht hneg => hys ⟨t, ht, hneg⟩
      rw [hbc.cooldownKept hkept]
      rcases List.mem_append.1 ht with hxs | hys'
      · exact hab.cooldownLosing ⟨t, hxs, hloss⟩
      · exact absurd hloss (hkept t hys')
  · intro hkept
    rw [hbc.cooldownKept fun t ht => hkept t (List.mem_append_right _ ht),
      hab.cooldownKept fun t ht => hkept t (List.mem_append_left _ ht)]

/-- The counters only read the loop's state, its trades and the number of entries. -/
theorem congr {a' b' : LoopVars} (h : CounterStep env a b m xs) (hastate : a'.state = a.state)
    (hatrades : a'.trades = a.trades)
    (haentries : a'.diag.executedEntries = a.diag.executedEntries) (hbstate : b'.state = b.state)
    (hbtrades : b'.trades = b.trades)
    (hbentries : b'.diag.executedEntries = b.diag.executedEntries) :
    CounterStep env a' b' m xs := by
  constructor
  · rw [hatrades, hbtrades, h.trades]
  · rw [haentries, hbentries, h.executed]
  · rw [hastate, hbstate, h.tradesToday]
  · rw [hastate, hbstate, h.start]
  · rw [hastate, hbstate, h.pct]
  · rw [hbstate]
    exact h.cooldownLosing
  · rw [hastate, hbstate]
    exact h.cooldownKept

end CounterStep

section Stages

variable {env : RunEnv} {candle : Candle} {v v' : LoopVars}

@[simp] theorem rollDay_portfolio [CurrentContext] :
    (rollDay candle v).state.portfolio = v.state.portfolio := by
  simp only [rollDay]
  split <;> rfl

@[simp] theorem rollDay_openTrade [CurrentContext] :
    (rollDay candle v).state.openTrade = v.state.openTrade := by
  simp only [rollDay]
  split <;> rfl

@[simp] theorem rollDay_stopPrice [CurrentContext] :
    (rollDay candle v).state.stopPrice = v.state.stopPrice := by
  simp only [rollDay]
  split <;> rfl

theorem recordExit_counters {o : OpenTrade} (ho : v.state.openTrade = some o) (timeMs : ℤ) (q : ℚ)
    (fill : SimulatedFill) (reason : ExitReason) (ref : ℚ) (portfolio : PortfolioState) :
    CounterStep env v (recordExit env timeMs q fill reason ref portfolio v) 0
      [closedTrade o timeMs q fill
        (portfolio.realizedPnlQuote - v.state.portfolio.realizedPnlQuote) reason ref] := by
  have hfigures : (recordExit env timeMs q fill reason ref portfolio v).diag.entryFigures =
      v.diag.entryFigures := recordExit_entryFigures
  constructor
  · simp only [recordExit, ho, decimal_exact, DecimalContext.exact_sub]
  · exact congrArg EntryFigures.executedEntries hfigures
  · rfl
  · rfl
  · simp only [recordExit, realizedPct, closedTrade, List.map_cons, List.map_nil, List.sum_cons,
      List.sum_nil]
    split <;> simp
  · rintro ⟨t, ht, hloss⟩
    rw [List.mem_singleton] at ht
    subst ht
    simp only [closedTrade] at hloss
    simp only [recordExit, decimal_exact, DecimalContext.exact_sub, hloss, if_true]
  · intro hkept
    have hloss := hkept _ (List.mem_singleton_self _)
    simp only [closedTrade] at hloss
    simp only [recordExit, decimal_exact, DecimalContext.exact_sub, hloss, if_false]

theorem recordEntry_counters (env : RunEnv) (candle : Candle) (v : LoopVars) (q : ℚ) (fill : SimulatedFill) (plan : Option RiskRewardPlan)
    (portfolio : PortfolioState) :
    CounterStep env v (recordEntry env candle q fill plan portfolio v) 1 [] := by
  constructor
  · simp [recordEntry]
  · cases plan <;> rfl
  · rfl
  · rfl
  · simp [recordEntry, realizedPct]
  · simp
  · intro _
    rfl

/-- Filling the pending signal moves the counters by its fill, and marks the peak at the open. -/
theorem fillPending_counters (henv : env.Standard) {S : ℚ} (h : LoopInvariant env S v)
    (hfill : fillPending env candle v = .ok v') :
    (∃ m xs, CounterStep env v v' m xs) ∧
      v'.peakEquity = if v.pendingSignal.isSome then v.peakAtOpen candle else v.peakEquity := by
  rcases fillPending_cases hfill with ⟨hnone, rfl⟩ | ⟨signalType, m, hsome, hres, rfl⟩
  · exact ⟨⟨0, [], .idle rfl rfl rfl⟩, by simp [hnone]⟩
  · rw [hsome]
    rcases resolvePendingSignal_cases hres with
      ⟨rows, diag, -, hdiag, rfl⟩ | ⟨-, e, rfl⟩ | ⟨-, e, rfl⟩
    · exact ⟨⟨0, [], .idle rfl rfl (congrArg EntryFigures.executedEntries hdiag)⟩, rfl⟩
    · exact ⟨⟨1, [], (recordEntry_counters env candle (v.decided candle e.rows) e.quantity
        (env.imports.simulateBuy env.broker e.quantity candle.open) e.realizedPlan
        e.portfolio).congr rfl rfl rfl rfl rfl rfl⟩, rfl⟩
    · rcases h.holding_of_exitFill henv e with ⟨t, ht, -⟩
      have hdecided : (v.decided candle e.rows).state.openTrade = some t := ht
      exact ⟨⟨0, _, (recordExit_counters hdecided candle.openTimeMs e.quantity
        (env.imports.simulateSell env.broker e.quantity candle.open) .strategyExit candle.open
        e.portfolio).congr rfl rfl rfl rfl rfl rfl⟩, rfl⟩

theorem protectiveExit_counters {S : ℚ} (h : LoopInvariant env S v)
    (hexit : protectiveExit env candle v = .ok v') :
    (∃ xs, CounterStep env v v' 0 xs) ∧ v'.peakEquity = v.peakEquity := by
  rcases protectiveExit_cases hexit with rfl | ⟨e, rfl⟩
  · exact ⟨⟨[], .idle rfl rfl rfl⟩, rfl⟩
  · rcases h.holding_of_long e.long with ⟨t, ht, -⟩
    exact ⟨⟨_, (recordExit_counters ht candle.openTimeMs v.state.portfolio.baseBalance
      (env.imports.simulateSell env.broker v.state.portfolio.baseBalance e.reference) e.reason
      e.reference e.portfolio).congr rfl rfl rfl rfl rfl rfl⟩, rfl⟩

theorem recordMark_counters (env : RunEnv) (candle : Candle) (signal : Signal) (v : LoopVars) :
    CounterStep env v (recordMark candle signal v) 0 [] := by
  refine .idle rfl rfl ?_
  exact congrArg EntryFigures.executedEntries (DiagBuilder.entryFigures_recordSignal _ _)

end Stages

/-- No stage after the roll of the day touches the day. -/
theorem CandleTrace.Valid.currentDay {env : RunEnv} {seen : List Candle} {tr : CandleTrace}
    (htr : tr.Valid env seen) : tr.closed.currentDay = some tr.candle.day := by
  rcases htr.marks with ⟨signal, -, hclosed⟩
  have hopen : tr.atOpen.currentDay = some tr.candle.day := by
    rw [htr.atOpen_eq]
    rfl
  have hfilled : tr.filled.currentDay = tr.atOpen.currentDay := by
    rcases fillPending_cases htr.fills with ⟨-, heq⟩ | ⟨signalType, m, -, hres, heq⟩
    · rw [heq]
    · rcases resolvePendingSignal_cases hres with
        ⟨rows, diag, -, -, rfl⟩ | ⟨-, e, rfl⟩ | ⟨-, e, rfl⟩ <;> rw [heq] <;> rfl
  have hguarded : tr.guarded.currentDay = tr.filled.currentDay := by
    rcases protectiveExit_cases htr.protects with heq | ⟨e, heq⟩ <;> rw [heq]
    rfl
  rw [hclosed, ← hopen, ← hfilled, ← hguarded]
  rfl

/-- From the roll of the day to its end, a candle moves the counters by its entries and exits. -/
theorem CandleTrace.Valid.counters {env : RunEnv} (henv : env.Standard) {S : ℚ}
    {seen : List Candle} {tr : CandleTrace} (htr : tr.Valid env seen)
    (h : LoopInvariant env S tr.before) :
    CounterStep env tr.atOpen tr.closed tr.entries tr.exits ∧
      tr.closed.peakEquity = tr.marks.foldl max tr.before.peakEquity := by
  have hkept := htr.kept henv h
  have hopen := htr.atOpen_eq
  rcases fillPending_counters henv hkept.atOpen htr.fills with ⟨⟨m, xs, hfill⟩, hfillPeak⟩
  rcases protectiveExit_counters hkept.filled htr.protects with ⟨⟨ys, hprotect⟩, hprotectPeak⟩
  rcases htr.marks with ⟨signal, -, hclosed⟩
  have hmark := recordMark_counters env tr.candle signal tr.guarded
  rw [← hclosed] at hmark
  have hall := (hfill.trans hprotect).trans hmark
  -- the observable entries and exits are those of the stages
  have hbeforeTrades : tr.atOpen.trades = tr.before.trades := by rw [hopen, rollDay_trades]
  have hbeforeDiag : tr.atOpen.diag = tr.before.diag := by rw [hopen, rollDay_diag]
  have hentries : tr.entries = m := by
    unfold CandleTrace.entries
    rw [hfill.executed, hbeforeDiag]
    omega
  have hexits : tr.exits = xs ++ ys := by
    have htrades := hall.trades
    rw [hbeforeTrades, List.append_nil] at htrades
    unfold CandleTrace.exits
    rw [htrades, List.drop_left]
  refine ⟨?_, ?_⟩
  · rw [hentries, hexits]
    simpa using hall
  · have hportfolio : tr.closed.state.portfolio = tr.guarded.state.portfolio := by rw [hclosed]; rfl
    have hpeak : tr.closed.peakEquity =
        max tr.guarded.peakEquity (tr.guarded.state.portfolio.equity tr.candle.close) := by
      rw [hclosed]
      rfl
    have hstart : tr.atOpen.peakEquity = tr.before.peakEquity := by rw [hopen]; rfl
    have hpending : tr.atOpen.pendingSignal = tr.before.pendingSignal := by rw [hopen]; rfl
    have hequity : tr.atOpen.equityAtOpen tr.candle = tr.equityAtOpen := by
      rw [hopen, CandleTrace.equityAtOpen, LoopVars.equityAtOpen, rollDay_portfolio]
    rw [hpeak, hprotectPeak, hfillPeak, hpending, hstart, LoopVars.peakAtOpen, hstart, hequity,
      CandleTrace.marks, hportfolio]
    split <;> simp

/-! ## The counters and the history -/

/-- The loop's counters say what the history says. -/
structure Tracked (env : RunEnv) (S : ℚ) (hist : List CandleTrace) (v : LoopVars) : Prop where
  day : v.currentDay = hist.getLast?.map fun tr => tr.candle.day
  trades : ∀ d, v.currentDay = some d → v.state.tradesToday = fillsOn d hist
  start : ∀ d, v.currentDay = some d → v.state.dailyStartEquity = dayStartEquity d hist
  pnl : ∀ d, v.currentDay = some d →
    v.state.dailyRealizedPnlPct = realizedPct (dayStartEquity d hist) (exitsOn d hist)
  peak : v.peakEquity = runningPeak S hist
  cooldown : ∀ j old, hist[j]? = some old → old.Losing →
    env.config.risk.cooldownBarsAfterLoss + j + 1 ≤
      v.state.cooldownBarsRemaining + hist.length

/-- The same once the day has rolled to the candle of `tr`, the history ending before it. -/
structure TrackedAtOpen (env : RunEnv) (S : ℚ) (hist : List CandleTrace) (tr : CandleTrace) :
    Prop where
  trades : tr.atOpen.state.tradesToday = fillsOn tr.candle.day hist
  start : tr.atOpen.state.dailyStartEquity = dayStartEquity tr.candle.day (hist ++ [tr])
  pnl : tr.atOpen.state.dailyRealizedPnlPct =
    realizedPct (dayStartEquity tr.candle.day (hist ++ [tr])) (exitsOn tr.candle.day hist)
  peak : tr.before.peakEquity = runningPeak S hist
  cooldown : ∀ j old, hist[j]? = some old → old.Losing →
    env.config.risk.cooldownBarsAfterLoss + j ≤
      tr.atOpen.state.cooldownBarsRemaining + hist.length

/-- Candles that open in order. -/
def InOrder (candles : List Candle) : Prop :=
  candles.Pairwise fun a b => a.openTimeMs ≤ b.openTimeMs

/-- When the last candle opened in another day, no earlier candle opened in this one. -/
theorem onDay_eq_nil {hist : List CandleTrace} {tr : CandleTrace} {rest : List Candle}
    (horder : InOrder (hist.map CandleTrace.candle ++ tr.candle :: rest))
    (hday : (hist.getLast?.map fun old => old.candle.day) ≠ some tr.candle.day) :
    onDay tr.candle.day hist = [] := by
  refine List.filter_eq_nil_iff.2 fun old hold hsame => hday ?_
  rcases List.eq_nil_or_concat hist with rfl | ⟨pre, last, rfl⟩
  · cases hold
  · rw [List.concat_eq_append] at hold horder ⊢
    have hlast : last.candle.openTimeMs ≤ tr.candle.openTimeMs :=
      (List.pairwise_append.1 horder).2.2 _ (by simp) _ List.mem_cons_self
    have hold' : old.candle.openTimeMs ≤ last.candle.openTimeMs := by
      rcases List.mem_append.1 hold with hpre | hlast'
      · have hhist := (List.pairwise_append.1 horder).1
        rw [List.map_append] at hhist
        exact (List.pairwise_append.1 hhist).2.2 _ (List.mem_map_of_mem hpre) _ (by simp)
      · rw [List.mem_singleton] at hlast'
        rw [hlast']
    -- the last day lies between this day and itself
    have hsame' : old.candle.day = tr.candle.day := by simpa using hsame
    have hle := Candle.day_le hold'
    have hge := Candle.day_le hlast
    have hday' : last.candle.day = tr.candle.day := le_antisymm hge (hsame' ▸ hle)
    simp [hday']

theorem dayStartEquity_append {hist : List CandleTrace} {tr : CandleTrace} {d : ℤ}
    (h : onDay d hist ≠ []) : dayStartEquity d (hist ++ [tr]) = dayStartEquity d hist := by
  have happend : onDay d (hist ++ [tr]) = onDay d hist ++ onDay d [tr] := List.filter_append ..
  unfold dayStartEquity
  rw [happend, List.head?_append_of_ne_nil _ h]

theorem onDay_ne_nil {hist : List CandleTrace} {d : ℤ}
    (h : (hist.getLast?.map fun old => old.candle.day) = some d) : onDay d hist ≠ [] := by
  rcases Option.map_eq_some_iff.1 h with ⟨last, hlast, hday⟩
  have hmem : last ∈ onDay d hist :=
    List.mem_filter.2 ⟨List.mem_of_getLast? hlast, by simp [hday]⟩
  exact List.ne_nil_of_mem hmem

theorem Tracked.atOpen {env : RunEnv} {S : ℚ} {hist : List CandleTrace} {seen : List Candle}
    {tr : CandleTrace} {rest : List Candle} (h : Tracked env S hist tr.before)
    (htr : tr.Valid env seen)
    (horder : InOrder (hist.map CandleTrace.candle ++ tr.candle :: rest)) :
    TrackedAtOpen env S hist tr := by
  have hopen := htr.atOpen_eq
  have hcooldown : ∀ j old, hist[j]? = some old → old.Losing →
      env.config.risk.cooldownBarsAfterLoss + j ≤
        tr.atOpen.state.cooldownBarsRemaining + hist.length := by
    intro j old hj hlosing
    have htracked := h.cooldown j old hj hlosing
    have hroll : tr.atOpen.state.cooldownBarsRemaining =
        tr.before.state.cooldownBarsRemaining - 1 := by
      rw [hopen]
      simp only [rollDay]
      split <;> rfl
    omega
  by_cases hsame : tr.before.currentDay = some tr.candle.day
  · -- the same day goes on: the counters are those of the history
    have hstate : tr.atOpen.state = { tr.before.state with
        cooldownBarsRemaining := tr.before.state.cooldownBarsRemaining - 1 } := by
      rw [hopen]
      simp [rollDay, hsame]
    have hne : onDay tr.candle.day hist ≠ [] := onDay_ne_nil (h.day ▸ hsame)
    refine ⟨?_, ?_, ?_, h.peak, hcooldown⟩
    · rw [hstate]
      exact h.trades _ hsame
    · rw [hstate, dayStartEquity_append hne]
      exact h.start _ hsame
    · rw [hstate, dayStartEquity_append hne]
      exact h.pnl _ hsame
  · -- a new day: the counters are reset, and the history has nothing of this day
    have hnil : onDay tr.candle.day hist = [] := onDay_eq_nil horder (h.day ▸ hsame)
    have hstate : tr.atOpen.state = { tr.before.state with
        dailyStartEquity := tr.equityAtOpen
        dailyRealizedPnlPct := 0
        tradesToday := 0
        cooldownBarsRemaining := tr.before.state.cooldownBarsRemaining - 1 } := by
      rw [hopen]
      simp [rollDay, hsame, CandleTrace.equityAtOpen]
    have hstart : dayStartEquity tr.candle.day (hist ++ [tr]) = tr.equityAtOpen := by
      simp [dayStartEquity, onDay_append_of_day rfl, hnil]
    refine ⟨?_, ?_, ?_, h.peak, hcooldown⟩
    · rw [hstate]
      simp [fillsOn, hnil]
    · rw [hstate, hstart]
    · rw [hstate]
      simp [exitsOn, hnil, realizedPct]

/-- A candle keeps the counters and the history in step. -/
theorem TrackedAtOpen.closed {env : RunEnv} (henv : env.Standard) {S : ℚ}
    {hist : List CandleTrace} {seen : List Candle} {tr : CandleTrace}
    (h : TrackedAtOpen env S hist tr) (htr : tr.Valid env seen)
    (hinv : LoopInvariant env S tr.before) : Tracked env S (hist ++ [tr]) tr.closed := by
  rcases htr.counters henv hinv with ⟨hstep, hpeak⟩
  have hday : tr.closed.currentDay = some tr.candle.day := htr.currentDay
  refine ⟨by simp [hday], ?_, ?_, ?_, ?_, ?_⟩
  · intro d hd
    rw [hday] at hd
    cases hd
    rw [hstep.tradesToday, h.trades, fillsOn_append_of_day rfl]
    rfl
  · intro d hd
    rw [hday] at hd
    cases hd
    rw [hstep.start, h.start]
  · intro d hd
    rw [hday] at hd
    cases hd
    rw [hstep.pct, h.pnl, h.start, exitsOn_append_of_day rfl, realizedPct_append]
  · rw [hpeak, h.peak, runningPeak_append]
  · intro j old hj hlosing
    rw [List.length_append, List.length_singleton]
    by_cases hnow : tr.Losing
    · -- a loss on this candle restarts the cooldown
      have hlt : j < (hist ++ [tr]).length := by
        by_contra hge
        rw [List.getElem?_eq_none (not_lt.1 hge)] at hj
        cases hj
      rw [List.length_append, List.length_singleton] at hlt
      rw [hstep.cooldownLosing hnow]
      omega
    · have hkept : ∀ t ∈ tr.exits, ¬t.pnlQuote < 0 := fun t ht hneg => hnow ⟨t, ht, hneg⟩
      rw [hstep.cooldownKept hkept]
      rcases lt_or_ge j hist.length with hlt | hge
      · rw [List.getElem?_append_left hlt] at hj
        have hold := h.cooldown j old hj hlosing
        omega
      · rw [List.getElem?_append_right hge] at hj
        have htr' : old = tr := by
          cases hsub : j - hist.length with
          | zero =>
              rw [hsub] at hj
              simpa using hj.symm
          | succ n =>
              rw [hsub] at hj
              simp at hj
        exact absurd (htr' ▸ hlosing) hnow

/-! ## The gates -/

/-- An entry filled at this candle's open passed every check of the resolution. -/
theorem CandleTrace.Valid.entered {env : RunEnv} {seen : List Candle} {tr : CandleTrace}
    (htr : tr.Valid env seen) (hentry : 0 < tr.entries) :
    ∃ e : EntryFill env tr.candle tr.atOpen, tr.filled = { e.result with pendingSignal := none } := by
  have hbefore : tr.atOpen.diag = tr.before.diag := by rw [htr.atOpen_eq, rollDay_diag]
  have hchanged : tr.filled.diag.executedEntries ≠ tr.atOpen.diag.executedEntries := by
    unfold CandleTrace.entries at hentry
    rw [hbefore]
    omega
  rcases fillPending_cases htr.fills with ⟨-, heq⟩ | ⟨signalType, m, -, hres, heq⟩
  · exact absurd (by rw [heq]) hchanged
  · rcases resolvePendingSignal_cases hres with
      ⟨rows, diag, -, hdiag, rfl⟩ | ⟨-, e, rfl⟩ | ⟨-, e, rfl⟩
    · rw [heq] at hchanged
      exact absurd (congrArg EntryFigures.executedEntries hdiag) hchanged
    · exact ⟨e, heq⟩
    · have hfigures : e.result.diag.entryFigures = tr.atOpen.diag.entryFigures :=
        recordExit_entryFigures
      rw [heq] at hchanged
      exact absurd (congrArg EntryFigures.executedEntries hfigures) hchanged

/-- The risk limits, read off the history `hist` before the candle of `tr`. -/
structure GatesHeld (config : RiskConfig) (S : ℚ) (hist : List CandleTrace) (tr : CandleTrace) :
    Prop where
  trades : fillsOn tr.candle.day hist < config.maxTradesPerDay
  dailyLoss : 0 < dayStartEquity tr.candle.day (hist ++ [tr]) →
    -config.maxDailyLossPct < ((exitsOn tr.candle.day hist).map fun t =>
      t.pnlQuote / dayStartEquity tr.candle.day (hist ++ [tr])).sum
  drawdown : (max (runningPeak S hist) tr.equityAtOpen - tr.equityAtOpen) /
    max (runningPeak S hist) tr.equityAtOpen < config.maxDrawdownPct
  cooldown : ∀ j old, hist[j]? = some old → old.Losing →
    ¬(j < hist.length ∧ hist.length < j + config.cooldownBarsAfterLoss)
  quote : config.minQuoteBalance ≤ tr.before.state.portfolio.quoteBalance
  position : ∀ t, tr.filled.state.openTrade = some t →
    t.quantity * tr.candle.open ≤ config.maxPositionPct * tr.equityAtOpen

theorem TrackedAtOpen.gatesHeld {env : RunEnv} (henv : env.Standard) {S : ℚ}
    {hist : List CandleTrace} {seen : List Candle} {tr : CandleTrace}
    (h : TrackedAtOpen env S hist tr) (htr : tr.Valid env seen) (hentry : 0 < tr.entries) :
    GatesHeld env.config.risk S hist tr := by
  rcases htr.entered hentry with ⟨e, hfilled⟩
  have hfacts := e.facts henv
  have hgates := hfacts.gates
  -- the gate read the equity and the peak of the history
  have hequity : tr.atOpen.equityAtOpen tr.candle = tr.equityAtOpen := by
    rw [htr.atOpen_eq, CandleTrace.equityAtOpen, LoopVars.equityAtOpen, rollDay_portfolio]
  have hpeak : tr.atOpen.peakAtOpen tr.candle = max (runningPeak S hist) tr.equityAtOpen := by
    rw [LoopVars.peakAtOpen, hequity, ← h.peak, htr.atOpen_eq]
    rfl
  have hpositive : 0 < tr.equityAtOpen := hequity ▸ hgates.equity
  -- each gate then says what it says of the history
  refine ⟨h.trades ▸ hgates.trades, ?_, ?_, ?_, ?_, ?_⟩
  · intro hstart
    have hloss := hgates.dailyLoss
    simp only [LoopVars.contextAtOpen, riskContext, h.pnl, realizedPct, hstart, if_true] at hloss
    exact hloss
  · have hdrawdown := hgates.drawdown
    have hpeakPos : 0 < max (runningPeak S hist) tr.equityAtOpen :=
      lt_max_of_lt_right hpositive
    simp only [LoopVars.contextAtOpen, riskContext, hpeak, hequity, drawdownPct_eq] at hdrawdown
    rw [if_pos hpeakPos] at hdrawdown
    exact hdrawdown
  · rintro j old hj hlosing ⟨-, hlt⟩
    have hzero : tr.atOpen.state.cooldownBarsRemaining = 0 := hgates.cooldown
    have hcooldown := h.cooldown j old hj hlosing
    omega
  · have hquote := hgates.quote
    have hportfolio : tr.atOpen.state.portfolio = tr.before.state.portfolio := by
      rw [htr.atOpen_eq, rollDay_portfolio]
    simp only [LoopVars.contextAtOpen, riskContext, hportfolio] at hquote
    exact hquote
  · intro t ht
    have hquantity : t.quantity = e.requested := by
      rw [hfilled] at ht
      have hopen : some t = e.result.state.openTrade := ht.symm
      simp only [EntryFill.result, EntryAttempt.leaves, recordEntry, Option.some.injEq] at hopen
      rw [hopen]
      exact hfacts.quantityEq
    have hposition := hgates.notional_le
    simp only [LoopVars.contextAtOpen, riskContext, hequity] at hposition
    rw [hquantity]
    exact hposition

/-- What a run has shown of its gates so far, with the counters that let it go on. -/
structure GatedSoFar (env : RunEnv) (S : ℚ) (hist : List CandleTrace) (v : LoopVars) : Prop where
  tracked : Tracked env S hist v
  invariant : LoopInvariant env S v
  trades : v.trades = hist.flatMap CandleTrace.exits
  entries : v.diag.executedEntries = (hist.map CandleTrace.entries).sum
  gates : ∀ pre tr post, hist = pre ++ tr :: post → 0 < tr.entries →
    GatesHeld env.config.risk S pre tr

theorem GatedSoFar.initial (env : RunEnv) (S firstClose : ℚ) (journal : Journal) :
    GatedSoFar env S [] (initialVars S firstClose journal) := by
  refine ⟨⟨rfl, ?_, ?_, ?_, ?_, ?_⟩, .initial S firstClose journal, rfl, rfl, ?_⟩
  · intro d hd
    cases hd
  · intro d hd
    cases hd
  · intro d hd
    cases hd
  · simp [initialVars, PortfolioState.initial, PortfolioState.equity, runningPeak]
  · intro j old hj
    cases hj
  · intro pre tr post hsplit
    exact absurd hsplit (by simp)

theorem GatedSoFar.step {env : RunEnv} (henv : env.Standard) {S : ℚ} {hist : List CandleTrace}
    {seen rest : List Candle} {tr : CandleTrace} (h : GatedSoFar env S hist tr.before)
    (htr : tr.Valid env seen)
    (horder : InOrder (hist.map CandleTrace.candle ++ tr.candle :: rest)) :
    GatedSoFar env S (hist ++ [tr]) tr.closed := by
  have hopen := h.tracked.atOpen htr horder
  rcases htr.counters henv h.invariant with ⟨hstep, -⟩
  refine ⟨hopen.closed henv htr h.invariant, (htr.kept henv h.invariant).closed, ?_, ?_, ?_⟩
  · rw [hstep.trades, htr.atOpen_eq, rollDay_trades, h.trades]
    simp
  · rw [hstep.executed, htr.atOpen_eq, rollDay_diag, h.entries]
    simp
  · intro pre tr' post hsplit hentry
    rcases List.eq_nil_or_concat post with rfl | ⟨post', last, rfl⟩
    · have hlast := List.append_inj' hsplit rfl
      rcases hlast with ⟨rfl, htail⟩
      cases htail
      exact hopen.gatesHeld henv htr hentry
    · rw [List.concat_eq_append, ← List.cons_append, ← List.append_assoc] at hsplit
      rcases List.append_inj' hsplit rfl with ⟨hhist, -⟩
      exact h.gates pre tr' post' hhist hentry

/-- At every executed entry of every run that returns, each risk limit holds of the history: the
day's fills, the day's realized loss, the drawdown from the running peak, the cooldown after a
losing exit, the quote balance and the size of the position. -/
theorem risk_gates_hold (config : AppConfig) (filters : SymbolFilters) (strategy : Strategy)
    (minRequired : ℕ) (hpos : 0 < minRequired) (policy : Bool) (segment : List Candle) (S : ℚ)
    (journal j : Journal) (r : SegmentRunResult) (horder : InOrder segment)
    (h : runSegment (.standard config filters strategy minRequired hpos policy) segment S journal =
      .ok (r, j)) :
    ∃ traces v,
      traceSegment (.standard config filters strategy minRequired hpos policy) segment S journal =
          .ok (traces, v) ∧
        traces.map CandleTrace.candle = segment.drop (minRequired - 1) ∧
        r.trades = traces.flatMap CandleTrace.exits ∧
        r.diagnostics.executedEntries = (traces.map CandleTrace.entries).sum ∧
        ∀ hist tr rest, traces = hist ++ tr :: rest → 0 < tr.entries →
          GatesHeld config.risk S hist tr := by
  have henv := RunEnv.standard_standard config filters strategy minRequired hpos policy
  rcases runSegment_traced h with ⟨traces, last, v, -, htraces, rfl, rfl⟩
  have hdrop : InOrder (segment.drop (minRequired - 1)) := List.Pairwise.drop horder
  have hrun := traceSegment_induct
    (GatedSoFar (.standard config filters strategy minRequired hpos policy) S) htraces
    (fun first _ => .initial _ S first.close journal)
    (fun hist seen tr rest htr hP hsplit => hP.step henv htr (hsplit ▸ hdrop))
  exact ⟨traces, v, htraces, hrun.2, hrun.1.trades, hrun.1.entries, hrun.1.gates⟩

/-- One executed entry, on the second candle. -/
theorem risk_gates_hold_entry :
    ∃ r j traces v,
      runSegment (Scenario.env false) [Scenario.candle 0 100 100, Scenario.candle 1 100 102] 50
          (some []) = .ok (r, j) ∧
        traceSegment (Scenario.env false) [Scenario.candle 0 100 100, Scenario.candle 1 100 102] 50
          (some []) = .ok (traces, v) ∧
        ∀ hist tr rest, traces = hist ++ tr :: rest → 0 < tr.entries →
          GatesHeld {} 50 hist tr := by
  rcases exists_of_isOk (x := runSegment (Scenario.env false) [Scenario.candle 0 100 100,
    Scenario.candle 1 100 102] 50 (some [])) (by decide +kernel) with ⟨⟨r, j⟩, h⟩
  rcases risk_gates_hold {} Scenario.filters Scenario.alternating 1 Nat.one_pos false _ 50
    (some []) j r (by unfold InOrder; decide) h with ⟨traces, v, htraces, -, -, -, hgates⟩
  exact ⟨r, j, traces, v, h, htraces, hgates⟩

end TradingAgent
