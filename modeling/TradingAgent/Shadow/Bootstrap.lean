import TradingAgent.Library.Runs
import TradingAgent.Shadow.Engine

/-!
# Shadow bootstrap — the one-time warm-up, and what later steps leave of it

`run_shadow_bootstrap` of `shadow/bootstrap.py`.  It writes twice, to the candles and to the shadow
tables, and may stop in between; cycles go on writing candles afterwards.

* `runShadowBootstrap` is one attempt, for any fetched range and any fault of its second write;
* `ShadowEvent` is one step of the database: an attempt, a cycle, or a cycle that stopped halfway;
* `ShadowDb.Sound` is kept by every step, and `bootstrap_verified_forever` reads it off.
-/

namespace TradingAgent

/-! ## One attempt -/

inductive BootstrapStatus where
  | ok
  | alreadyBootstrapped
  | gapInWarmupData
  | insufficientHistoryAvailable
  deriving DecidableEq, Repr

def BootstrapStatus.text : BootstrapStatus → String
  | .ok => "OK"
  | .alreadyBootstrapped => "ALREADY_BOOTSTRAPPED"
  | .gapInWarmupData => "GAP_IN_WARMUP_DATA"
  | .insufficientHistoryAvailable => "INSUFFICIENT_HISTORY_AVAILABLE"

structure BootstrapResult where
  status : BootstrapStatus
  detail : String
  warmupCandleCount : ℕ
  warmupStartTimeMs : Option ℤ
  warmupEndTimeMs : Option ℤ
  effectiveMinRequiredCandles : ℕ
  deriving DecidableEq, Repr

namespace ShadowSetup

variable (setup : ShadowSetup)

def warmupCandleCount : ℕ :=
  computeWarmupCandleCount setup.minRequiredCandles

def warmupStartMs : ℤ :=
  shadowStartBoundaryMs - setup.warmupCandleCount * hourMs

/-- The row an attempt records. -/
def bootstrapState : ShadowBootstrapState where
  warmupStartTimeMs := setup.warmupStartMs
  warmupLastOpenTimeMs := shadowStartBoundaryMs - hourMs
  warmupCandleCount := setup.warmupCandleCount
  effectiveMinRequiredCandles := computeEffectiveMinRequiredCandles setup.warmupCandleCount
  effectivePos := computeEffectiveMinRequiredCandles_pos _

/-- The result of an attempt that refused its range and stored nothing. -/
def refusedBootstrap (status : BootstrapStatus) (detail : String) : BootstrapResult where
  status := status
  detail := detail
  warmupCandleCount := 0
  warmupStartTimeMs := none
  warmupEndTimeMs := none
  effectiveMinRequiredCandles := setup.bootstrapState.effectiveMinRequiredCandles

/-- `f"missing {...} interval(s) between {...} and {...}"`. -/
def missingText (gap : GapRecord) : String :=
  s!"missing {gap.missingIntervals} interval(s) between " ++
    s!"{gap.previousOpenTimeMs} and {gap.nextOpenTimeMs}"

/-- Why a fetched range cannot be the warm-up; `none` when it can. -/
def refusal (candles : List Candle) : Except PyError (Option BootstrapResult) :=
  match candles.head?, candles.getLast? with
  | some first, some last => do
      let segmentation ← partitionIntoSegments hourMs candles
      if segmentation.gaps ≠ [] then
        .ok (some (setup.refusedBootstrap .gapInWarmupData
          (s!"{segmentation.gaps.length} confirmed gap(s) in the warm-up range - E1's weekly/4h " ++
            "aggregation cannot produce valid indicators at the boundary with a gap present. " ++
            "Nothing was stored. Investigate the gap(s) before retrying: " ++
            "; ".intercalate (segmentation.gaps.map missingText))))
      else if candles.length ≠ setup.warmupCandleCount ∨
          first.openTimeMs ≠ setup.warmupStartMs ∨
          last.openTimeMs ≠ shadowStartBoundaryMs - hourMs then
        .ok (some (setup.refusedBootstrap .insufficientHistoryAvailable
          (s!"expected exactly {setup.warmupCandleCount} contiguous candle(s) covering " ++
            s!"[{setup.warmupStartMs}, {shadowStartBoundaryMs}) (open times " ++
            s!"{setup.warmupStartMs}..{shadowStartBoundaryMs - hourMs}); got {candles.length} " ++
            s!"candle(s) spanning {first.openTimeMs}..{last.openTimeMs}. Nothing was stored.")))
      else .ok none
  | _, _ =>
      .ok (some (setup.refusedBootstrap .insufficientHistoryAvailable
        ("no candles were returned for the warm-up range " ++
          s!"[{setup.warmupStartMs}, {shadowStartBoundaryMs}).")))

/-- The result of an attempt that finds the row of an earlier one. -/
def alreadyBootstrapped (existing : ShadowBootstrapState) : BootstrapResult where
  status := .alreadyBootstrapped
  detail :=
    s!"already bootstrapped: {existing.warmupCandleCount} warm-up candle(s) from " ++
      s!"{existing.warmupStartTimeMs} through {existing.warmupLastOpenTimeMs} (open time) - " ++
      "shadow-bootstrap never re-fetches or overwrites an existing bootstrap."
  warmupCandleCount := existing.warmupCandleCount
  warmupStartTimeMs := some existing.warmupStartTimeMs
  warmupEndTimeMs := some existing.warmupLastOpenTimeMs
  effectiveMinRequiredCandles := existing.effectiveMinRequiredCandles

def bootstrapped : BootstrapResult where
  status := .ok
  detail :=
    s!"stored {setup.warmupCandleCount} warm-up-only candle(s) from {setup.warmupStartMs} through " ++
      s!"{shadowStartBoundaryMs - hourMs} (open time). shadow-run can now operate starting at the " ++
      s!"fixed boundary ({shadowStartBoundaryMs}) plus a {confirmationWindow1hCandles}-hour " ++
      "settling buffer, instead of waiting ~315 days for organic accumulation."
  warmupCandleCount := setup.warmupCandleCount
  warmupStartTimeMs := some setup.warmupStartMs
  warmupEndTimeMs := some (shadowStartBoundaryMs - hourMs)
  effectiveMinRequiredCandles := setup.bootstrapState.effectiveMinRequiredCandles

/-- `run_shadow_bootstrap`, given what `fetch_historical_range` returns for the warm-up range; with
a `recordFault` its second transaction fails, or the process ends before it, and is rolled back. -/
def runShadowBootstrap (fetched : Except PyError (List Candle)) (recordFault : Option PyError)
    (db : ShadowDb) : ShadowDb × Except PyError BootstrapResult :=
  match db.store.bootstrapState with
  | some existing => (db, .ok (alreadyBootstrapped existing))
  | none =>
      match fetched with
      | .error e => (db, .error e)
      | .ok candles =>
          match setup.refusal candles with
          | .error e => (db, .error e)
          | .ok (some refused) => (db, .ok refused)
          | .ok none =>
              let db := { db with candles := db.candles.upsertCandles candles }
              match recordFault with
              | some e => (db, .error e)
              | none =>
                  ({ db with store := db.store.recordBootstrapAtomically setup.bootstrapState },
                    .ok setup.bootstrapped)

end ShadowSetup

/-! ## Steps of the database -/

inductive ShadowEvent where
  | bootstrap (fetched : Except PyError (List Candle)) (recordFault : Option PyError)
  | cycle (killSwitch : Option String) (answers : ShadowAnswers) (nowMs : ℤ)
  /-- A cycle that ends after its candles are stored, before its transaction commits. -/
  | interruptedCycle (fetched : List Candle)

def ShadowSetup.step (setup : ShadowSetup) (db : ShadowDb) : ShadowEvent → ShadowDb
  | .bootstrap fetched recordFault => (setup.runShadowBootstrap fetched recordFault db).1
  | .cycle killSwitch answers nowMs => (runShadowCycle setup killSwitch answers nowMs db).1
  | .interruptedCycle fetched =>
      match verifyBootstrapComplete hourMs db.candles db.store with
      | .ok (.verified _) => db.storeFetched fetched
      | _ => db

def ShadowDb.empty : ShadowDb :=
  ⟨.empty, {}⟩

/-! ## Hourly candles -/

section Hourly

variable {startMs : ℤ} {candles : List Candle}

theorem HourlyFrom.chain (h : HourlyFrom startMs candles) :
    candles.IsChain fun a b => adjacent hourMs a b = true := by
  rw [List.isChain_iff_getElem]
  intro i hi
  have hnext := h (i + 1) hi
  have hhere := h i (Nat.lt_of_succ_lt hi)
  simp only [adjacent, decide_eq_true_eq, hnext, hhere]
  push_cast
  ring

theorem HourlyFrom.of_chain (hchain : candles.IsChain fun a b => adjacent hourMs a b = true)
    (hhead : ∀ c ∈ candles.head?, c.openTimeMs = startMs) : HourlyFrom startMs candles := by
  intro i hi
  induction i with
  | zero =>
      have hmem : candles[0] ∈ candles.head? := by
        rw [List.head?_eq_getElem?, List.getElem?_eq_getElem hi]
        rfl
      simpa using hhead _ hmem
  | succ i ih =>
      have hprevious := ih (Nat.lt_of_succ_lt hi)
      have hadjacent := List.isChain_iff_getElem.1 hchain i hi
      simp only [adjacent, decide_eq_true_eq] at hadjacent
      push_cast
      linarith

theorem HourlyFrom.mem_times (h : HourlyFrom startMs candles) {t : ℤ} :
    (∃ c ∈ candles, c.openTimeMs = t) ↔ ∃ i < candles.length, t = startMs + (i : ℤ) * hourMs := by
  constructor
  · rintro ⟨c, hc, rfl⟩
    rcases List.getElem_of_mem hc with ⟨i, hi, rfl⟩
    exact ⟨i, hi, h i hi⟩
  · rintro ⟨i, hi, rfl⟩
    exact ⟨candles[i], List.getElem_mem hi, h i hi⟩

/-- An ordered list whose open times are `n` successive hours is hourly. -/
theorem hourlyFrom_of_times {n : ℕ} (hordered : Ordered candles)
    (htimes : ∀ t, (∃ c ∈ candles, c.openTimeMs = t) ↔ ∃ i < n, t = startMs + (i : ℤ) * hourMs) :
    candles.length = n ∧ HourlyFrom startMs candles := by
  have hlt : (candles.map Candle.openTimeMs).Pairwise (· < ·) := List.pairwise_map.2 hordered
  have hgrid : ((List.range n).map fun i : ℕ => startMs + (i : ℤ) * hourMs).Pairwise (· < ·) := by
    refine List.pairwise_map.2 (List.pairwise_lt_range.imp ?_)
    intro a b hab
    have hcast : (a : ℤ) < b := by exact_mod_cast hab
    have hhour : (0 : ℤ) < hourMs := by decide
    have := mul_lt_mul_of_pos_right hcast hhour
    linarith
  -- strictly ascending lists with the same members are the same
  have hopens : candles.map Candle.openTimeMs =
      (List.range n).map fun i : ℕ => startMs + (i : ℤ) * hourMs := by
    refine hlt.eq_of_mem_iff hgrid ?_
    intro t
    simpa [eq_comm] using htimes t
  have hlength : candles.length = n := by simpa using congrArg List.length hopens
  refine ⟨hlength, ?_⟩
  intro i hi
  have hget : (candles.map Candle.openTimeMs)[i]? =
      ((List.range n).map fun i : ℕ => startMs + (i : ℤ) * hourMs)[i]? := by rw [hopens]
  simpa [hi, hlength ▸ hi] using hget

end Hourly

/-! ## The invariant -/

namespace ShadowSetup

variable {setup : ShadowSetup}

/-- The open times of the warm-up. -/
def warmupTimes (setup : ShadowSetup) : Set ℤ :=
  {t | ∃ i < setup.warmupCandleCount, t = setup.warmupStartMs + (i : ℤ) * hourMs}

theorem warmupCandleCount_pos : 0 < setup.warmupCandleCount := by
  unfold warmupCandleCount computeWarmupCandleCount warmupSafetyMarginCandles
  omega

/-- The warm-up ends one hour before the boundary. -/
theorem warmup_last :
    setup.warmupStartMs + ((setup.warmupCandleCount - 1 : ℕ) : ℤ) * hourMs =
      shadowStartBoundaryMs - hourMs := by
  have hpos := setup.warmupCandleCount_pos
  have hcast : ((setup.warmupCandleCount - 1 : ℕ) : ℤ) = setup.warmupCandleCount - 1 := by omega
  rw [warmupStartMs, hcast]
  ring

theorem warmupTimes_range {t : ℤ} (h : t ∈ setup.warmupTimes) :
    setup.warmupStartMs ≤ t ∧ t ≤ shadowStartBoundaryMs - hourMs := by
  rcases h with ⟨i, hi, ht⟩
  have hhour : (0 : ℤ) < hourMs := by decide
  have hi0 : (0 : ℤ) ≤ i := Int.natCast_nonneg i
  have hlast : (i : ℤ) ≤ ((setup.warmupCandleCount - 1 : ℕ) : ℤ) := by omega
  have hmul := mul_le_mul_of_nonneg_right hlast hhour.le
  rw [ht]
  refine ⟨by linarith [mul_nonneg hi0 hhour.le], ?_⟩
  rw [← setup.warmup_last]
  linarith

/-- A range that is not refused is hourly, from the warm-up start to the boundary. -/
theorem hourlyFrom_of_refusal_none {candles : List Candle} (h : setup.refusal candles = .ok none) :
    candles.length = setup.warmupCandleCount ∧ HourlyFrom setup.warmupStartMs candles := by
  unfold refusal at h
  cases hhead : candles.head? with
  | none =>
      simp [hhead] at h
  | some first =>
      cases hlast : candles.getLast? with
      | none =>
          simp [hhead, hlast] at h
      | some last =>
          simp only [hhead, hlast, bind, Except.bind] at h
          cases hpartition : partitionIntoSegments hourMs candles with
          | error e =>
              simp [hpartition] at h
          | ok segmentation =>
              simp only [hpartition] at h
              rcases partitionIntoSegments_eq_ok hpartition with ⟨-, -, rfl⟩
              by_cases hgaps : gapsOf hourMs candles ≠ []
              · simp [hgaps] at h
              rw [if_neg hgaps] at h
              by_cases hrange : candles.length ≠ setup.warmupCandleCount ∨
                  first.openTimeMs ≠ setup.warmupStartMs ∨
                  last.openTimeMs ≠ shadowStartBoundaryMs - hourMs
              · simp [hrange] at h
              simp only [ne_eq, not_or, not_not] at hgaps hrange
              refine ⟨hrange.1, .of_chain (gapsOf_eq_nil_iff.1 hgaps) ?_⟩
              intro c hc
              rw [hhead, Option.mem_some_iff] at hc
              exact hc ▸ hrange.2.1

/-- A range that is not refused covers the warm-up exactly. -/
theorem times_of_refusal_none {candles : List Candle} (h : setup.refusal candles = .ok none)
    {t : ℤ} : (∃ c ∈ candles, c.openTimeMs = t) ↔ t ∈ setup.warmupTimes := by
  rcases setup.hourlyFrom_of_refusal_none h with ⟨hlength, hhourly⟩
  rw [hhourly.mem_times, hlength]
  rfl

end ShadowSetup

/-- What the steps of the database keep. -/
structure ShadowDb.Sound (setup : ShadowSetup) (db : ShadowDb) : Prop where
  onGrid : ∀ t ∈ db.candles.times, shadowStartBoundaryMs ≤ t ∨ t ∈ setup.warmupTimes
  recorded : ∀ state, db.store.bootstrapState = some state →
    state = setup.bootstrapState ∧ setup.warmupTimes ⊆ db.candles.times
  unscored : db.store.bootstrapState = none → db.store = {}

/-- The stored warm-up is the recorded range, without a gap. -/
structure WarmupStored (db : ShadowDb) (state : ShadowBootstrapState) : Prop where
  verified : verifyBootstrapComplete hourMs db.candles db.store = .ok (.verified state)
  length : (db.candles.getCandles (some state.warmupStartTimeMs)
    (some state.warmupLastOpenTimeMs)).length = state.warmupCandleCount
  hourly : HourlyFrom state.warmupStartTimeMs
    (db.candles.getCandles (some state.warmupStartTimeMs) (some state.warmupLastOpenTimeMs))

namespace ShadowDb.Sound

variable {setup : ShadowSetup} {db : ShadowDb}

theorem empty : Sound setup .empty := by
  constructor
  case onGrid =>
      intro t ht
      simp [ShadowDb.empty, CandleStore.times, CandleStore.empty] at ht
  case recorded => simp [ShadowDb.empty]
  case unscored => exact fun _ => rfl

/-- Where the row is, the warm-up is stored and verified. -/
theorem warmupStored (h : Sound setup db) {state : ShadowBootstrapState}
    (hstate : db.store.bootstrapState = some state) : WarmupStored db state := by
  rcases h.recorded state hstate with ⟨rfl, hstored⟩
  have hordered : Ordered (db.candles.getCandles (some setup.bootstrapState.warmupStartTimeMs)
      (some setup.bootstrapState.warmupLastOpenTimeMs)) := CandleStore.ordered_getCandles _ _
  -- between its ends nothing but the warm-up is stored
  have htimes : ∀ t, (∃ c ∈ db.candles.getCandles (some setup.bootstrapState.warmupStartTimeMs)
      (some setup.bootstrapState.warmupLastOpenTimeMs), c.openTimeMs = t) ↔
        ∃ i < setup.warmupCandleCount, t = setup.warmupStartMs + (i : ℤ) * hourMs := by
    intro t
    rw [CandleStore.exists_mem_getCandles]
    constructor
    · rintro ⟨hmem, -, hlast⟩
      have hle : t ≤ shadowStartBoundaryMs - hourMs := hlast _ rfl
      have hhour : (0 : ℤ) < hourMs := by decide
      rcases h.onGrid t hmem with hafter | hwarmup
      · linarith
      · exact hwarmup
    · intro hwarmup
      have hrange := setup.warmupTimes_range hwarmup
      refine ⟨hstored hwarmup, ?_, ?_⟩
      · intro s hs
        rw [← Option.mem_some_iff.1 hs]
        exact hrange.1
      · intro e he
        rw [← Option.mem_some_iff.1 he]
        exact hrange.2
  rcases hourlyFrom_of_times hordered htimes with ⟨hlength, hhourly⟩
  refine ⟨?_, hlength, hhourly⟩
  generalize hcandles : db.candles.getCandles (some setup.bootstrapState.warmupStartTimeMs)
    (some setup.bootstrapState.warmupLastOpenTimeMs) = candles at hordered hlength hhourly
  have hpos := setup.warmupCandleCount_pos
  have hne : candles ≠ [] := by
    rintro rfl
    simp at hlength
    omega
  have hfirst : (candles.head hne).openTimeMs = setup.warmupStartMs := by
    have hget := hhourly 0 (by omega)
    simpa [List.head_eq_getElem] using hget
  have hlast : (candles.getLast hne).openTimeMs = shadowStartBoundaryMs - hourMs := by
    have hget := hhourly (candles.length - 1) (by omega)
    rw [List.getLast_eq_getElem, hget, hlength]
    exact setup.warmup_last
  have hpartition := @partitionIntoSegments_of_ordered hourMs candles hordered hne
  rw [gapsOf_eq_nil_iff.2 hhourly.chain] at hpartition
  have hcount : ¬candles.length ≠ setup.bootstrapState.warmupCandleCount := not_not.2 hlength
  have hends : ¬((candles.head hne).openTimeMs ≠ setup.bootstrapState.warmupStartTimeMs ∨
      (candles.getLast hne).openTimeMs ≠ setup.bootstrapState.warmupLastOpenTimeMs) := by
    rintro (hne' | hne')
    · exact hne' hfirst
    · exact hne' hlast
  simp only [verifyBootstrapComplete, hstate, hcandles, if_neg hcount,
    List.head?_eq_some_head hne, List.getLast?_eq_some_getLast hne, if_neg hends, hpartition, bind,
    Except.bind, if_true]

/-! ### The steps -/

/-- Candles from the boundary on do not touch the warm-up. -/
theorem storeFetched (h : Sound setup db) (fetched : List Candle) :
    Sound setup (db.storeFetched fetched) := by
  constructor
  case onGrid =>
      intro t ht
      rcases CandleStore.times_upsertCandles.1 ht with hold | ⟨c, hc, rfl⟩
      · exact h.onGrid t hold
      · exact Or.inl (by simpa using (List.mem_filter.1 hc).2)
  case recorded =>
      intro state hstate
      refine ⟨(h.recorded state hstate).1, ?_⟩
      intro t ht
      exact CandleStore.times_upsertCandles.2 (Or.inl ((h.recorded state hstate).2 ht))
  case unscored => exact h.unscored

/-- A change of the shadow tables that keeps the row of a bootstrapped database. -/
theorem withStore (h : Sound setup db) {store : ShadowStore} {state : ShadowBootstrapState}
    (hstate : db.store.bootstrapState = some state)
    (hkept : store.bootstrapState = db.store.bootstrapState) :
    Sound setup { db with store := store } := by
  constructor
  case onGrid => exact h.onGrid
  case recorded =>
      intro state' hstate'
      exact h.recorded state' (hkept ▸ hstate')
  case unscored =>
      intro hnone
      have hrow : store.bootstrapState = some state := hkept.trans hstate
      rw [hrow] at hnone
      cases hnone

/-- An attempt whose range is accepted stores the whole warm-up, and maybe its row. -/
theorem bootstrap (h : Sound setup db) (fetched : Except PyError (List Candle))
    (recordFault : Option PyError) :
    Sound setup (setup.runShadowBootstrap fetched recordFault db).1 := by
  unfold ShadowSetup.runShadowBootstrap
  cases hstate : db.store.bootstrapState with
  | some existing => exact h
  | none =>
      cases fetched with
      | error e => exact h
      | ok candles =>
          cases hrefusal : setup.refusal candles with
          | error e => simpa only [hrefusal] using h
          | ok refused =>
              cases refused with
              | some result => simpa only [hrefusal] using h
              | none =>
                  -- the warm-up was verified, so the candles stored are its own hours
                  have hstored : Sound setup
                      { db with candles := db.candles.upsertCandles candles } := by
                    refine ⟨?_, ?_, h.unscored⟩
                    · intro t ht
                      rcases CandleStore.times_upsertCandles.1 ht with hold | hnew
                      · exact h.onGrid t hold
                      · exact Or.inr ((setup.times_of_refusal_none hrefusal).1 hnew)
                    · intro state hsome
                      rw [hstate] at hsome
                      cases hsome
                  cases recordFault with
                  | some e => simpa only [hrefusal] using hstored
                  | none =>
                      simp only [hrefusal]
                      refine ⟨hstored.onGrid, ?_, ?_⟩
                      · intro state hsome
                        have hrow : setup.bootstrapState = state := by
                          simpa [ShadowStore.recordBootstrapAtomically, hstate] using hsome
                        refine ⟨hrow.symm, ?_⟩
                        intro t ht
                        exact CandleStore.times_upsertCandles.2
                          (Or.inr ((setup.times_of_refusal_none hrefusal).2 ht))
                      · intro hnone
                        simp [ShadowStore.recordBootstrapAtomically, hstate] at hnone

end ShadowDb.Sound

/-- What is verified is the recorded row. -/
theorem bootstrapState_of_verified {stepMs : ℤ} {candles : CandleStore} {store : ShadowStore}
    {state : ShadowBootstrapState}
    (h : verifyBootstrapComplete stepMs candles store = .ok (.verified state)) :
    store.bootstrapState = some state := by
  unfold verifyBootstrapComplete at h
  cases hstate : store.bootstrapState with
  | none =>
      simp [hstate] at h
  | some recorded =>
      simp only [hstate] at h
      split at h
      · simp at h
      split at h
      · split at h
        · simp at h
        · simp only [bind, Except.bind] at h
          split at h
          · cases h
          · split at h
            · simpa using h
            · simp at h
      · cases h

namespace ShadowDb.Sound

variable {setup : ShadowSetup} {db : ShadowDb}

theorem cycle (h : Sound setup db) (killSwitch : Option String) (answers : ShadowAnswers)
    (nowMs : ℤ) : Sound setup (runShadowCycle setup killSwitch answers nowMs db).1 := by
  rcases runShadowCycle_cases setup killSwitch answers nowMs db with
    hsame | ⟨state, fetched, hverify, hstored | ⟨store, result, hcycle, hcommitted⟩⟩
  · rw [hsame]
    exact h
  · rw [hstored]
    exact h.storeFetched fetched
  · rw [hcommitted]
    exact (h.storeFetched fetched).withStore (bootstrapState_of_verified hverify)
      (evaluateCycle_bootstrapState hcycle)

theorem step (h : Sound setup db) (event : ShadowEvent) : Sound setup (setup.step db event) := by
  cases event with
  | bootstrap fetched recordFault => exact h.bootstrap fetched recordFault
  | cycle killSwitch answers nowMs => exact h.cycle killSwitch answers nowMs
  | interruptedCycle fetched =>
      simp only [ShadowSetup.step]
      split
      · exact h.storeFetched fetched
      · exact h

theorem final (h : Sound setup db) (events : List ShadowEvent) :
    Sound setup (Runs.final setup.step db events) := by
  induction events generalizing db with
  | nil => exact h
  | cons event rest ih => exact ih (h.step event)

end ShadowDb.Sound

section Row

variable {setup : ShadowSetup} {db : ShadowDb}

/-- A step leaves a recorded row as it is. -/
theorem ShadowSetup.step_bootstrapState {state : ShadowBootstrapState}
    (hstate : db.store.bootstrapState = some state) (event : ShadowEvent) :
    (setup.step db event).store.bootstrapState = some state := by
  cases event with
  | bootstrap fetched recordFault =>
      simp [ShadowSetup.step, ShadowSetup.runShadowBootstrap, hstate]
  | interruptedCycle fetched =>
      simp only [ShadowSetup.step]
      split
      · exact hstate
      · exact hstate
  | cycle killSwitch answers nowMs =>
      rcases runShadowCycle_cases setup killSwitch answers nowMs db with
        hsame | ⟨verified, fetched, -, hstored | ⟨store, result, hcycle, hcommitted⟩⟩
      · simpa only [ShadowSetup.step, hsame] using hstate
      · simpa only [ShadowSetup.step, hstored, ShadowDb.storeFetched] using hstate
      · simpa only [ShadowSetup.step, hcommitted] using
          (evaluateCycle_bootstrapState hcycle).trans hstate

theorem ShadowSetup.final_bootstrapState {state : ShadowBootstrapState}
    (hstate : db.store.bootstrapState = some state) (events : List ShadowEvent) :
    (Runs.final setup.step db events).store.bootstrapState = some state := by
  induction events generalizing db with
  | nil => exact hstate
  | cons event rest ih => exact ih (setup.step_bootstrapState hstate event)

/-- A cycle before the bootstrap leaves the database as it is. -/
theorem runShadowCycle_of_not_bootstrapped (hnone : db.store.bootstrapState = none)
    (killSwitch : Option String) (answers : ShadowAnswers) (nowMs : ℤ) :
    (runShadowCycle setup killSwitch answers nowMs db).1 = db := by
  cases killSwitch with
  | some reason => rfl
  | none => simp [runShadowCycle, runShadowCycleLocked, verifyBootstrapComplete, hnone]

end Row

/-- After any attempts, cycles and interruptions, from an empty database on: where the row of the
bootstrap is, the warm-up it records is stored without a gap and verified, and no later step changes
it; where it is not, nothing has been scored, and no cycle scores anything. -/
theorem bootstrap_verified_forever (setup : ShadowSetup) (events : List ShadowEvent) :
    (∀ state, (Runs.final setup.step .empty events).store.bootstrapState = some state →
      WarmupStored (Runs.final setup.step .empty events) state ∧
        ∀ later, (Runs.final setup.step .empty (events ++ later)).store.bootstrapState =
          some state) ∧
      ((Runs.final setup.step .empty events).store.bootstrapState = none →
        (Runs.final setup.step .empty events).store = {} ∧
          ∀ killSwitch answers nowMs,
            (runShadowCycle setup killSwitch answers nowMs
              (Runs.final setup.step .empty events)).1 = Runs.final setup.step .empty events) := by
  have hsound : ShadowDb.Sound setup _ := ShadowDb.Sound.empty.final events
  constructor
  · intro state hstate
    refine ⟨hsound.warmupStored hstate, ?_⟩
    intro later
    have hfinal : Runs.final setup.step .empty (events ++ later) =
        Runs.final setup.step (Runs.final setup.step .empty events) later :=
      List.foldl_append
    rw [hfinal]
    exact setup.final_bootstrapState hstate later
  · intro hnone
    exact ⟨hsound.unscored hnone, fun killSwitch answers nowMs =>
      runShadowCycle_of_not_bootstrapped hnone killSwitch answers nowMs⟩

namespace Scenario

/-- A strategy that decides from its first candle on, so that the warm-up is the safety margin. -/
def shadowSetup : ShadowSetup where
  config := {}
  strategy := alternating
  minRequiredCandles := 1
  minRequiredCandlesPos := Nat.one_pos
  messages :=
    { entry := fun notice => .ok notice.eventId
      exit := fun notice => .ok notice.eventId }

def warmup : List Candle :=
  (List.range 48).map (hourCandle (shadowStartBoundaryMs - 48 * hourMs))

/-- A second write that fails, an attempt that succeeds, and a cycle with one forward candle. -/
def bootstrapEvents : List ShadowEvent :=
  [.bootstrap (.ok warmup) (some (.injectedFault "before_commit")), .bootstrap (.ok warmup) none,
    .cycle none ⟨fun _ => .ok [hourCandle shadowStartBoundaryMs 0], .ok filters⟩ 0]

end Scenario

theorem bootstrap_verified_forever_retried :
    ∃ state, (Runs.final Scenario.shadowSetup.step .empty
        Scenario.bootstrapEvents).store.bootstrapState = some state ∧
      WarmupStored (Runs.final Scenario.shadowSetup.step .empty Scenario.bootstrapEvents) state := by
  have hrow : (Runs.final Scenario.shadowSetup.step .empty
      Scenario.bootstrapEvents).store.bootstrapState.isSome = true := by decide +kernel
  rcases Option.isSome_iff_exists.1 hrow with ⟨state, hstate⟩
  exact ⟨state, hstate,
    ((bootstrap_verified_forever Scenario.shadowSetup Scenario.bootstrapEvents).1 state hstate).1⟩

end TradingAgent
