import TradingAgent.Shadow.Covers

/-!
# Schedules — any order of cycles, crashes and deliveries

Forward candles arrive in their order; a cycle may find any number of new ones, and may end before
its transaction commits.  Whatever the schedule, each segment of the stored candles has been scored
up to where it ended when a cycle last read it.

* `ShadowPass` is one step of a schedule, and `newestReads` the newest stored candle at each cycle;
* `Covers` is the invariant: the tables hold the runs over the parts scored so far;
* `shadow_exactly_once`: without gaps the tables are those of one run over the stored candles.
-/

namespace TradingAgent

/-! ## Schedules -/

/-- One step of a schedule.  A crash ends a cycle after its candles are stored and before its
transaction commits; between cycles notifications are delivered and summaries enqueued. -/
inductive ShadowPass where
  | cycle (arriving : ℕ) (nowMs : ℤ)
  | crash (arriving : ℕ)
  | delivered (event : NotificationEvent) (result : SendResult) (nowMs : ℤ)
  | dailySummary (dateIso text : String) (nowMs : ℤ)

/-- The first so many forward candles from a time on. -/
def ServedCandles.brings (exchange : ServedCandles) (startTimeMs : ℤ) (arriving : ℕ) :
    List Candle :=
  (exchange.forward.filter fun c => startTimeMs ≤ c.openTimeMs).take arriving

/-- What the exchange answers in a cycle that finds so many new candles. -/
def ServedCandles.answers (exchange : ServedCandles) (filters : SymbolFilters) (arriving : ℕ) :
    ShadowAnswers where
  fetchCompletedCandles := fun startTimeMs => .ok (exchange.brings startTimeMs arriving)
  exchangeInfo := .ok filters

def ShadowDb.withOutbox (db : ShadowDb) (outbox : Outbox) : ShadowDb :=
  { db with store := { db.store with outbox := outbox } }

/-- The database after one step; the filters of the symbol stay the same. -/
def runPass (setup : ShadowSetup) (filters : SymbolFilters) (exchange : ServedCandles)
    (db : ShadowDb) : ShadowPass → ShadowDb
  | .cycle arriving nowMs =>
      (runShadowCycle setup none (exchange.answers filters arriving) nowMs db).1
  | .crash arriving =>
      setup.step db (.interruptedCycle (exchange.brings db.fetchStartMs arriving))
  | .delivered event result nowMs =>
      db.withOutbox (db.store.outbox.updateNotificationStatus event result nowMs)
  | .dailySummary dateIso text nowMs =>
      db.withOutbox (db.store.outbox.enqueue [dailySummaryEvent dateIso text nowMs])

/-- How many new candles a step stores, as long as there are so many. -/
def ShadowPass.arriving : ShadowPass → ℕ
  | .cycle arriving _ => arriving
  | .crash arriving => arriving
  | .delivered _ _ _ => 0
  | .dailySummary _ _ _ => 0

/-- The candles a cycle reads. -/
def ShadowDb.readCandles (setup : ShadowSetup) (db : ShadowDb) : List Candle :=
  db.candles.getCandles (some setup.bootstrapState.warmupStartTimeMs) none

/-- The candles stored once so many forward candles have arrived. -/
def storedCandles (exchange : ServedCandles) (warmup : List Candle) (arrived : ℕ) : List Candle :=
  warmup ++ exchange.forward.take arrived

/-- How many forward candles a schedule stores, as long as there are so many. -/
def arrivedAfter (passes : List ShadowPass) : ℕ :=
  (passes.map ShadowPass.arriving).sum

/-- The newest stored candle, where the step is a cycle that reads it. -/
def ShadowPass.readBy (exchange : ServedCandles) (warmup : List Candle) (arrived : ℕ) :
    ShadowPass → List Candle
  | .cycle arriving _ => (storedCandles exchange warmup (arrived + arriving)).getLast?.toList
  | .crash _ => []
  | .delivered _ _ _ => []
  | .dailySummary _ _ _ => []

/-- The newest stored candle at each cycle of a schedule. -/
def newestReads (exchange : ServedCandles) (warmup : List Candle) : ℕ → List ShadowPass → List Candle
  | _, [] => []
  | arrived, pass :: rest =>
      pass.readBy exchange warmup arrived ++
        newestReads exchange warmup (arrived + pass.arriving) rest

/-- Whether a step is a cycle that commits new rows. -/
def Commits (setup : ShadowSetup) (filters : SymbolFilters) (exchange : ServedCandles)
    (db : ShadowDb) : ShadowPass → Prop
  | .cycle arriving nowMs =>
      ∃ result, (runShadowCycle setup none (exchange.answers filters arriving) nowMs db).2 =
        .ok result ∧ result.status = .ok
  | _ => False

instance (setup : ShadowSetup) (filters : SymbolFilters) (exchange : ServedCandles)
    (db : ShadowDb) : (pass : ShadowPass) → Decidable (Commits setup filters exchange db pass)
  | .cycle arriving nowMs =>
      decidable_of_iff ((runShadowCycle setup none (exchange.answers filters arriving) nowMs
          db).2.toOption.map ShadowCycleResult.status = some .ok) <| by
        cases hcycle : (runShadowCycle setup none (exchange.answers filters arriving) nowMs db).2
          <;> simp [Commits, hcycle, Except.toOption]
  | .crash _ => isFalse id
  | .delivered _ _ _ => isFalse id
  | .dailySummary _ _ _ => isFalse id

section Arriving

variable {setup : ShadowSetup} {filters : SymbolFilters} {exchange : ServedCandles}
  {warmup : List Candle} {db : ShadowDb} {arrived : ℕ}

theorem storedCandles_add (exchange : ServedCandles) (warmup : List Candle) (arrived more : ℕ) :
    storedCandles exchange warmup (arrived + more) =
      storedCandles exchange warmup arrived ++ (exchange.forward.drop arrived).take more := by
  rw [storedCandles, storedCandles, List.take_add, List.append_assoc]

/-- A fetch brings the next forward candles. -/
theorem Arrived.brings_eq (h : Arrived setup exchange warmup (exchange.forward.take arrived) db)
    (hwarmup : IsWarmup setup warmup) (arriving : ℕ) :
    exchange.brings db.fetchStartMs arriving = (exchange.forward.drop arrived).take arriving := by
  have hrest := h.unfetched_eq hwarmup (List.take_append_drop arrived exchange.forward)
  have hsame : (exchange.forward.filter fun c => db.fetchStartMs ≤ c.openTimeMs) =
      exchange.forward.filter fun c => !decide (c.openTimeMs < db.fetchStartMs) := by
    refine List.filter_congr ?_
    intro c _
    by_cases hstart : db.fetchStartMs ≤ c.openTimeMs
    · simp [hstart]
    · simp [hstart, not_le.1 hstart]
  rw [ServedCandles.brings, hsame, hrest]

theorem Arrived.storeBrought (h : Arrived setup exchange warmup (exchange.forward.take arrived) db)
    (hwarmup : IsWarmup setup warmup) (arriving : ℕ) :
    Arrived setup exchange warmup (exchange.forward.take (arrived + arriving))
      (db.storeFetched (exchange.brings db.fetchStartMs arriving)) := by
  rw [h.brings_eq hwarmup, List.take_add]
  refine h.storeFetched hwarmup ?_
  rw [← List.take_add]
  exact List.take_sublist _ _

/-- A cycle reads the warm-up and what has arrived. -/
theorem Arrived.getCandles (h : Arrived setup exchange warmup (exchange.forward.take arrived) db)
    (hwarmup : IsWarmup setup warmup) :
    db.readCandles setup = storedCandles exchange warmup arrived := by
  refine h.holds.getCandles (h.ordered hwarmup) ?_
  intro c hc
  have htime : c.openTimeMs ∈ db.candles.times := h.mem_times.2 ⟨c, hc, rfl⟩
  rcases (h.sound hwarmup).onGrid _ htime with hforward | hwarm
  · have hcount : (0 : ℤ) ≤ setup.warmupCandleCount * hourMs :=
      mul_nonneg (Int.natCast_nonneg _) (by decide)
    change setup.warmupStartMs ≤ c.openTimeMs
    rw [ShadowSetup.warmupStartMs]
    linarith
  · exact (setup.warmupTimes_range hwarm).1

theorem storedCandles_newest (exchange : ServedCandles) (hwarmup : IsWarmup setup warmup)
    (arrived : ℕ) :
    ∃ last, (storedCandles exchange warmup arrived).getLast? = some last := by
  have hne : storedCandles exchange warmup arrived ≠ [] := by
    simp [storedCandles, hwarmup.ne_nil]
  exact ⟨_, List.getLast?_eq_some_getLast hne⟩

/-- What a cycle leaves, and what it returns. -/
theorem Arrived.runShadowCycle_eq
    (h : Arrived setup exchange warmup (exchange.forward.take arrived) db)
    (hwarmup : IsWarmup setup warmup) (arriving : ℕ) (nowMs : ℤ) :
    let stored := db.storeFetched (exchange.brings db.fetchStartMs arriving)
    let outcome := evaluateCycle setup setup.bootstrapState
      (filterFromBoundary (exchange.brings db.fetchStartMs arriving)).length (.ok filters) nowMs
      stored.candles db.store
    runShadowCycle setup none (exchange.answers filters arriving) nowMs db =
      ({ stored with store := storeAfter db.store outcome }, outcome.map Prod.snd) := by
  intro stored outcome
  have hfetch : (exchange.answers filters arriving).fetchCompletedCandles db.fetchStartMs =
      .ok (exchange.brings db.fetchStartMs arriving) := rfl
  simp only [runShadowCycle, runShadowCycleLocked, h.verified hwarmup, hfetch]
  cases hcycle : evaluateCycle setup setup.bootstrapState
      (filterFromBoundary (exchange.brings db.fetchStartMs arriving)).length
      (exchange.answers filters arriving).exchangeInfo nowMs
      (db.storeFetched (exchange.brings db.fetchStartMs arriving)).candles
      (db.storeFetched (exchange.brings db.fetchStartMs arriving)).store with
  | error e =>
      have houtcome : outcome = .error e := hcycle
      rw [houtcome]
      rfl
  | ok left =>
      have houtcome : outcome = .ok left := hcycle
      rw [houtcome]
      rfl

end Arriving

/-! ## One step -/

/-- What holds once so many forward candles have arrived and the cycles have read `reads`. -/
structure Scheduled (setup : ShadowSetup) (filters : SymbolFilters) (exchange : ServedCandles)
    (warmup : List Candle) (arrived : ℕ) (reads : List Candle) (db : ShadowDb) : Prop where
  candles : Arrived setup exchange warmup (exchange.forward.take arrived) db
  covers : ∃ cov, Covers setup filters (storedCandles exchange warmup arrived) reads db.store cov

section Steps

variable {setup : ShadowSetup} {filters : SymbolFilters} {exchange : ServedCandles}
  {warmup reads : List Candle} {db : ShadowDb} {arrived : ℕ}

theorem storeAfter_bootstrapState {state : ShadowBootstrapState} {newCandlesFetched : ℕ}
    {nowMs : ℤ} {candleStore : CandleStore} {store : ShadowStore} :
    (storeAfter store (evaluateCycle setup state newCandlesFetched (.ok filters) nowMs candleStore
      store)).bootstrapState = store.bootstrapState := by
  cases hcycle : evaluateCycle setup state newCandlesFetched (.ok filters) nowMs candleStore
      store with
  | error e => rfl
  | ok left => exact evaluateCycle_bootstrapState hcycle

namespace Scheduled

/-- Storing more candles keeps what has been scored. -/
theorem grow (h : Scheduled setup filters exchange warmup arrived reads db)
    (hwarmup : IsWarmup setup warmup) (more : ℕ) :
    ∃ cov, Covers setup filters (storedCandles exchange warmup (arrived + more)) reads db.store
      cov := by
  rcases h.covers with ⟨cov, hcov⟩
  have hne : storedCandles exchange warmup arrived ≠ [] := by
    simp [storedCandles, hwarmup.ne_nil]
  have hordered : Ordered (storedCandles exchange warmup (arrived + more)) :=
    ordered_append hwarmup (List.take_sublist _ _)
  rw [storedCandles_add] at hordered ⊢
  exact hcov.grow hne hordered

theorem withOutbox (h : Scheduled setup filters exchange warmup arrived reads db) {outbox : Outbox}
    (hkept : ∀ entryTimes exitTimes, Notified db.store.outbox entryTimes exitTimes →
      Notified outbox entryTimes exitTimes) :
    Scheduled setup filters exchange warmup arrived reads (db.withOutbox outbox) := by
  rcases h.covers with ⟨cov, hcov⟩
  exact ⟨h.candles.withStore rfl, cov, hcov.withOutbox hkept⟩

/-- One step of a schedule keeps the cover, and a cycle adds what it reads. -/
theorem step (h : Scheduled setup filters exchange warmup arrived reads db)
    (hwarmup : IsWarmup setup warmup) (pass : ShadowPass) :
    Scheduled setup filters exchange warmup (arrived + pass.arriving)
      (reads ++ pass.readBy exchange warmup arrived) (runPass setup filters exchange db pass) := by
  cases pass with
  | cycle arriving nowMs =>
      have hstored := h.candles.storeBrought hwarmup arriving
      rcases storedCandles_newest exchange hwarmup (arrived + arriving) with ⟨last, hlast⟩
      rcases h.grow hwarmup arriving with ⟨cov, hcov⟩
      rcases hcov.cycle hwarmup (List.take_sublist _ _) hlast (hstored.getCandles hwarmup)
        (filterFromBoundary (exchange.brings db.fetchStartMs arriving)).length nowMs with
        ⟨cov', hcov'⟩
      rw [ShadowPass.readBy, hlast, Option.toList_some, runPass,
        h.candles.runShadowCycle_eq hwarmup arriving nowMs]
      exact ⟨hstored.withStore storeAfter_bootstrapState, cov', hcov'⟩
  | crash arriving =>
      have hstored := h.candles.storeBrought hwarmup arriving
      rw [ShadowPass.readBy, List.append_nil, runPass, ShadowSetup.step]
      simp only [h.candles.verified hwarmup]
      exact ⟨hstored, h.grow hwarmup arriving⟩
  | delivered event result nowMs =>
      rw [ShadowPass.readBy, List.append_nil]
      exact h.withOutbox fun _ _ hnotified => hnotified.delivered event result nowMs
  | dailySummary dateIso text nowMs =>
      rw [ShadowPass.readBy, List.append_nil]
      exact h.withOutbox fun _ _ hnotified => hnotified.dailySummary dateIso text nowMs

/-- A whole schedule does so. -/
theorem final (h : Scheduled setup filters exchange warmup arrived reads db)
    (hwarmup : IsWarmup setup warmup) (passes : List ShadowPass) :
    Scheduled setup filters exchange warmup (arrived + arrivedAfter passes)
      (reads ++ newestReads exchange warmup arrived passes)
      (Runs.final (runPass setup filters exchange) db passes) := by
  induction passes generalizing arrived reads db with
  | nil => simpa [arrivedAfter, newestReads, Runs.final] using h
  | cons pass rest ih =>
      have hrest := ih (h.step hwarmup pass)
      simpa [arrivedAfter, newestReads, Runs.final, Nat.add_assoc] using hrest

end Scheduled

/-- Right after the bootstrap the warm-up is stored, and nothing of it is scored. -/
theorem ShadowSetup.bootstrappedWith_scheduled (exchange : ServedCandles)
    (hrefusal : setup.refusal warmup = .ok none)
    (hcloses : ∀ c ∈ warmup, c.closeTimeMs < shadowStartBoundaryMs) :
    Scheduled setup filters exchange warmup 0 [] (setup.bootstrappedWith warmup) := by
  have hwarmup := setup.isWarmup hrefusal hcloses
  have hstore : (setup.bootstrappedWith warmup).store =
      ({} : ShadowStore).recordBootstrapAtomically setup.bootstrapState := by
    unfold ShadowSetup.bootstrappedWith ShadowSetup.runShadowBootstrap
    simp only [ShadowDb.empty, hrefusal]
  refine ⟨setup.bootstrappedWith_arrived exchange hrefusal hcloses, [⟨warmup, []⟩], ?_⟩
  rw [hstore]
  constructor
  case segments =>
      have hone : segmentsOf hourMs warmup = [warmup] :=
        List.splitBy_of_isChain hwarmup.ne_nil hwarmup.hourly.chain
      simp [storedCandles, hone]
  case valid =>
      intro x hx
      rw [List.mem_singleton.1 hx]
      exact .unread (by simp)
  case readStored => simp
  case recorded => exact ⟨rfl, rfl, rfl⟩
  case notified =>
      intro _
      constructor
      · exact List.Perm.refl []
      · exact List.Perm.refl []
      · intro event hevent
        cases hevent
  case mark => simp [scoredCandles, ShadowStore.recordBootstrapAtomically]

end Steps

/-! ## Without gaps -/

/-- The tables show one run, and the outbox one event for each of its entries and exits. -/
structure ShowsRun (setup : ShadowSetup) (store : ShadowStore) (result : SegmentRunResult)
    (journal : Journal) : Prop where
  trades : store.trades = shadowTradeRecords result
  equity : store.equity = result.equityCurve
  journalEntries : store.journalEntries = journal.rows
  openPosition : store.runState.openPosition = result.openPosition
  notified : setup.messages.Return → Notified store.outbox (result.records journal).entryTimes
    (result.records journal).exitTimes

section GapFree

variable {setup : ShadowSetup} {filters : SymbolFilters} {exchange : ServedCandles}
  {warmup fwd reads : List Candle} {db : ShadowDb} {arrived : ℕ} {result : SegmentRunResult}
  {journal : Journal}

theorem ShowsRun.of_sameRows {store store' : ShadowStore} (h : ShowsRun setup store result journal)
    (hsame : SameRows store store') : ShowsRun setup store' result journal where
  trades := hsame.trades.trans h.trades
  equity := hsame.equity.trans h.equity
  journalEntries := hsame.journal.trans h.journalEntries
  openPosition := hsame.openPosition.trans h.openPosition
  notified := fun hmessages => hsame.outbox.symm ▸ h.notified hmessages

/-- Only between the warm-up and the forward candles can there be a gap. -/
theorem segmentsOf_gapFree (hwarmup : IsWarmup setup warmup) (hgaps : gapsOf hourMs fwd = []) :
    segmentsOf hourMs (warmup ++ fwd) = [warmup ++ fwd] ∨
      segmentsOf hourMs (warmup ++ fwd) = [warmup, fwd] := by
  have hchain := gapsOf_eq_nil_iff.1 hgaps
  have hwarm := hwarmup.hourly.chain
  by_cases hnext : ∀ a ∈ warmup.getLast?, ∀ b ∈ fwd.head?, adjacent hourMs a b = true
  · refine Or.inl (List.splitBy_of_isChain (by simp [hwarmup.ne_nil]) ?_)
    exact List.isChain_append.2 ⟨hwarm, hchain, hnext⟩
  · have hcut : ∀ a ∈ warmup.getLast?, ∀ b ∈ fwd.head?, adjacent hourMs a b = false := by
      push Not at hnext
      rcases hnext with ⟨a, ha, b, hb, hne⟩
      intro a' ha' b' hb'
      rw [Option.mem_unique ha' ha, Option.mem_unique hb' hb]
      simpa using hne
    have hfwd : fwd ≠ [] := by
      rintro rfl
      exact hnext (by simp)
    right
    calc segmentsOf hourMs (warmup ++ fwd)
        = segmentsOf hourMs warmup ++ segmentsOf hourMs fwd := List.splitBy_append hcut
      _ = [warmup] ++ [fwd] := by
          rw [segmentsOf, segmentsOf, List.splitBy_of_isChain hwarmup.ne_nil hwarm,
            List.splitBy_of_isChain hfwd hchain]

/-- Without gaps nothing before the last segment is scored. -/
theorem Covers.earlier_unscored {store : ShadowStore} {covInit : List CoveredSegment}
    {segment part : List Candle}
    (h : Covers setup filters (warmup ++ fwd) reads store (covInit ++ [⟨segment, part⟩]))
    (hwarmup : IsWarmup setup warmup) (hgaps : gapsOf hourMs fwd = []) :
    ∀ x ∈ covInit, x.part = [] := by
  have hsegments := h.segments
  rw [List.map_append, List.map_singleton] at hsegments
  rcases segmentsOf_gapFree hwarmup hgaps with hone | htwo
  · rw [hone] at hsegments
    have hnone : covInit = [] := by
      have hlength := congrArg List.length hsegments
      simpa using hlength
    simp [hnone]
  · have hboth : covInit.map CoveredSegment.segment ++ [segment] = [warmup] ++ [fwd] :=
      hsegments.trans htwo
    have hfirst := (List.append_inj' hboth rfl).1
    intro x hx
    have hxwarmup : x.segment = warmup := by
      have hmem := List.mem_map_of_mem (f := CoveredSegment.segment) hx
      rw [hfirst] at hmem
      exact List.mem_singleton.1 hmem
    have hvalid := h.valid x (List.mem_append_left _ hx)
    by_contra hne
    -- a part of the warm-up is shorter than what is required of it
    have hinitial : x.part <+: warmup ++ [] := by
      rw [List.append_nil, ← hxwarmup]
      exact hvalid.initial
    have hrequired := hwarmup.requiredLength hinitial hne
    have hlong := (hvalid.read hne).1
    have hshort := hinitial.length_le
    rw [hrequired, computeEffectiveMinRequiredCandles] at hlong
    rw [List.append_nil] at hshort
    omega

namespace Scheduled

/-- What a cycle finds, and what it makes of it. -/
theorem exists_outcome (h : Scheduled setup filters exchange warmup arrived reads db)
    (hwarmup : IsWarmup setup warmup) (arriving : ℕ) (nowMs : ℤ) :
    ∃ covInit segment part last newCandlesFetched outcome,
      Covers setup filters (storedCandles exchange warmup (arrived + arriving)) reads db.store
        (covInit ++ [⟨segment, part⟩]) ∧
      (storedCandles exchange warmup (arrived + arriving)).getLast? = some last ∧
      Newest (storedCandles exchange warmup (arrived + arriving)) covInit segment last ∧
      CycleOutcome setup filters db.store last segment newCandlesFetched nowMs outcome ∧
      (runShadowCycle setup none (exchange.answers filters arriving) nowMs db).1.store =
        storeAfter db.store outcome ∧
      (runShadowCycle setup none (exchange.answers filters arriving) nowMs db).2 =
        outcome.map Prod.snd := by
  have hread := (h.candles.storeBrought hwarmup arriving).getCandles hwarmup
  have hfwd : (exchange.forward.take (arrived + arriving)).Sublist exchange.forward :=
    List.take_sublist _ _
  have hordered := ordered_append hwarmup hfwd
  rcases storedCandles_newest exchange hwarmup (arrived + arriving) with ⟨last, hlast⟩
  rcases h.grow hwarmup arriving with ⟨cov, hcov⟩
  rcases hcov.newest hordered hlast with ⟨covInit, segment, part, rfl, hnewest⟩
  rw [h.candles.runShadowCycle_eq hwarmup arriving nowMs]
  exact ⟨covInit, segment, part, last, _, _, hcov, hlast, hnewest,
    evaluateCycle_outcome hread hordered hlast hnewest.latest _ nowMs, rfl, rfl⟩

/-- A cycle that commits shows the run over the last segment. -/
theorem shows_of_commits (h : Scheduled setup filters exchange warmup arrived reads db)
    (hwarmup : IsWarmup setup warmup) (hgaps : gapsOf hourMs exchange.forward = [])
    {arriving : ℕ} {nowMs : ℤ}
    (hcommits : Commits setup filters exchange db (.cycle arriving nowMs)) :
    ∃ segment result journal,
      (segmentsOf hourMs (storedCandles exchange warmup (arrived + arriving))).getLast? =
        some segment ∧
      setup.evaluate filters setup.bootstrapState segment = .ok (result, journal) ∧
      ShowsRun setup (runPass setup filters exchange db (.cycle arriving nowMs)).store result
        journal := by
  have hfwdGaps : gapsOf hourMs (exchange.forward.take (arrived + arriving)) = [] :=
    gapsOf_eq_nil_iff.2 ((gapsOf_eq_nil_iff.1 hgaps).take _)
  rcases hcommits with ⟨result, hresult, hstatus⟩
  -- the pass evaluates the newest segment, and only a scored one commits
  rcases h.exists_outcome hwarmup arriving nowMs with
    ⟨covInit, segment, part, last, newCandlesFetched, outcome, hcov, hlast, hnewest, houtcome,
      hstore, hreturned⟩
  rw [hreturned] at hresult
  rw [runPass, hstore]
  cases houtcome with
  | quiet nothing same status =>
      cases hresult
      exact absurd hstatus status
  | raised error => cases hresult
  | @scored run journal longEnough ran =>
      have hscored := hcov.score hwarmup (List.take_sublist _ _) hlast hnewest longEnough ran
        newCandlesFetched nowMs
      -- the forward candles have no gap, so no earlier segment was scored
      have hnothing : ∀ a ∈ runsOf setup filters covInit, a = .start (some []) := by
        intro a ha
        rcases List.mem_map.1 ha with ⟨x, hx, rfl⟩
        rw [hcov.earlier_unscored hwarmup hfwdGaps x hx, runOn_nil]
      have hruns : ∀ {ρ : Type} (rows : RunRecords → List ρ), rows (.start (some [])) = [] →
          (runsOf setup filters (covInit ++ [⟨segment, segment⟩])).flatMap rows =
            rows (run.records journal) := by
        intro ρ rows hstart
        have hfront := flatMap_nothing rows hstart hnothing
        rw [runsOf] at hfront
        simp [runsOf, hfront, runOn_eq ran]
      refine ⟨segment, run, journal, hnewest.latest, ran, ?_⟩
      constructor
      case trades =>
          rw [shadowTradeRecords_eq run journal]
          exact hscored.recorded.trades.trans (hruns _ rfl)
      case equity => exact hscored.recorded.equity.trans (hruns _ rfl)
      case journalEntries => exact hscored.recorded.journal.trans (hruns _ rfl)
      case openPosition => rfl
      case notified =>
          intro hmessages
          have hnotified := hscored.notified hmessages
          rw [hruns _ rfl, hruns _ rfl] at hnotified
          exact hnotified

/-- A step that commits nothing shows the same run. -/
theorem shows_of_not_commits (h : Scheduled setup filters exchange warmup arrived reads db)
    (hwarmup : IsWarmup setup warmup) {pass : ShadowPass}
    (hquiet : ¬Commits setup filters exchange db pass)
    (hshows : ShowsRun setup db.store result journal) :
    ShowsRun setup (runPass setup filters exchange db pass).store result journal := by
  cases pass with
  | cycle arriving nowMs =>
      rcases h.exists_outcome hwarmup arriving nowMs with
        ⟨covInit, segment, part, last, newCandlesFetched, outcome, -, -, -, houtcome, hstore,
          hreturned⟩
      rw [runPass, hstore]
      cases houtcome with
      | quiet nothing same status => exact hshows.of_sameRows same
      | raised error => exact hshows
      | scored longEnough ran => exact absurd ⟨_, hreturned, rfl⟩ hquiet
  | crash arriving =>
      rw [runPass, ShadowSetup.step]
      simp only [h.candles.verified hwarmup]
      exact hshows
  | delivered event result nowMs =>
      exact ⟨hshows.trades, hshows.equity, hshows.journalEntries, hshows.openPosition,
        fun hmessages => (hshows.notified hmessages).delivered event result nowMs⟩
  | dailySummary dateIso text nowMs =>
      exact ⟨hshows.trades, hshows.equity, hshows.journalEntries, hshows.openPosition,
        fun hmessages => (hshows.notified hmessages).dailySummary dateIso text nowMs⟩

/-- Nor does a schedule that commits nothing. -/
theorem shows_final (h : Scheduled setup filters exchange warmup arrived reads db)
    (hwarmup : IsWarmup setup warmup) {passes : List ShadowPass}
    (hquiet : Runs.Along (runPass setup filters exchange)
      (fun db pass => ¬Commits setup filters exchange db pass) db passes)
    (hshows : ShowsRun setup db.store result journal) :
    ShowsRun setup (Runs.final (runPass setup filters exchange) db passes).store result
      journal := by
  induction passes generalizing arrived reads db with
  | nil => exact hshows
  | cons pass rest ih =>
      exact ih (h.step hwarmup pass) hquiet.2 (h.shows_of_not_commits hwarmup hquiet.1 hshows)

end Scheduled

end GapFree

/-- Where the forward candles have no gap, the tables after the last cycle that committed, however
the candles arrived and whatever was retried, are those of one run over the last stored segment. -/
theorem shadow_exactly_once (setup : ShadowSetup) (filters : SymbolFilters)
    (exchange : ServedCandles) (warmup : List Candle)
    (hrefusal : setup.refusal warmup = .ok none)
    (hcloses : ∀ c ∈ warmup, c.closeTimeMs < shadowStartBoundaryMs)
    (hgaps : gapsOf hourMs exchange.forward = []) (before after : List ShadowPass) (arriving : ℕ)
    (nowMs : ℤ)
    (hcommits : Commits setup filters exchange
      (Runs.final (runPass setup filters exchange) (setup.bootstrappedWith warmup) before)
      (.cycle arriving nowMs))
    (hlast : Runs.Along (runPass setup filters exchange)
      (fun db pass => ¬Commits setup filters exchange db pass)
      (Runs.final (runPass setup filters exchange) (setup.bootstrappedWith warmup)
        (before ++ [.cycle arriving nowMs])) after) :
    ∃ segment result journal,
      (segmentsOf hourMs ((Runs.final (runPass setup filters exchange)
        (setup.bootstrappedWith warmup) (before ++ [.cycle arriving nowMs])).readCandles
          setup)).getLast? = some segment ∧
      setup.evaluate filters setup.bootstrapState segment = .ok (result, journal) ∧
      ShowsRun setup
        (Runs.final (runPass setup filters exchange) (setup.bootstrappedWith warmup)
          (before ++ .cycle arriving nowMs :: after)).store result journal := by
  have hwarmup := setup.isWarmup hrefusal hcloses
  have hstart : Scheduled setup filters exchange warmup 0 [] (setup.bootstrappedWith warmup) :=
    setup.bootstrappedWith_scheduled exchange hrefusal hcloses
  have hbefore := hstart.final hwarmup before
  rcases hbefore.shows_of_commits hwarmup hgaps hcommits with
    ⟨segment, result, journal, hlatest, hran, hshows⟩
  -- what follows the last commit shows the same run
  have hnext := hbefore.step hwarmup (.cycle arriving nowMs)
  have hread := hnext.candles.getCandles hwarmup
  rw [Runs.final, List.foldl_append] at hlast
  rw [Runs.final, Runs.final, List.foldl_append, List.foldl_append]
  refine ⟨segment, result, journal, ?_, hran, hnext.shows_final hwarmup hlast hshows⟩
  rw [← hlatest]
  exact congrArg (fun stored => (segmentsOf hourMs stored).getLast?) hread

namespace Scenario

/-- Eight hours from the boundary on. -/
def eightHours : ServedCandles where
  candles := (List.range 8).map (hourCandle shadowStartBoundaryMs)
  spaced := by decide
  closes := by decide

/-- A cycle that scores two hours, one that ends before its transaction commits, and its retry. -/
def retried : List ShadowPass :=
  [.cycle 6 0, .crash 2]

def laterPasses : List ShadowPass :=
  [.dailySummary "2026-07-02" "" 0, .cycle 3 0]

end Scenario

theorem shadow_exactly_once_retried :
    ∃ segment result journal,
      (segmentsOf hourMs ((Runs.final
        (runPass Scenario.shadowSetup Scenario.filters Scenario.eightHours)
        (Scenario.shadowSetup.bootstrappedWith Scenario.warmup)
        (Scenario.retried ++ [.cycle 0 0])).readCandles Scenario.shadowSetup)).getLast? =
          some segment ∧
      Scenario.shadowSetup.evaluate Scenario.filters Scenario.shadowSetup.bootstrapState segment =
        .ok (result, journal) ∧
      ShowsRun Scenario.shadowSetup
        (Runs.final (runPass Scenario.shadowSetup Scenario.filters Scenario.eightHours)
          (Scenario.shadowSetup.bootstrappedWith Scenario.warmup)
          (Scenario.retried ++ .cycle 0 0 :: Scenario.laterPasses)).store result journal :=
  shadow_exactly_once Scenario.shadowSetup Scenario.filters Scenario.eightHours Scenario.warmup
    (by decide +kernel) (by decide +kernel) (by decide +kernel) Scenario.retried
    Scenario.laterPasses 0 0 (by decide +kernel)
    ⟨by decide +kernel, by decide +kernel, trivial⟩

end TradingAgent
