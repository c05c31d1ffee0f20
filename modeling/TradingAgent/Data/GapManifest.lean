import TradingAgent.Library.Runs
import TradingAgent.Data.FetchLoss
import TradingAgent.Data.GapRecovery
import Mathlib.Data.Int.ConditionallyCompleteOrder
import Mathlib.Order.ConditionallyCompleteLattice.Basic
import Mathlib.Order.Interval.Set.Basic

/-!
# Gap manifest — the commands that write candles and gaps

`fetch-data` (`cli/main.py`) stores what a download returned and upserts its gaps;
`research-gap-recover` replaces all rows of its symbol by the gaps of what is stored then.  All markets
share one database and one audit checkpoint.

* `GapIn` is a gap of a set of open times, whatever candles open at them;
* `ManifestInv`: every row of a market is a gap between two of its stored candles;
* `gap_manifest_consistent` carries it, for all markets, over a run of commands.
-/

namespace TradingAgent

/-! ## Commands -/

/-- `INTERVAL_MS`. -/
def intervalMs : Dict String ℤ :=
  [("1m", 60000), ("3m", 180000), ("5m", 300000), ("15m", 900000), ("30m", 1800000),
    ("1h", 3600000), ("2h", 7200000), ("4h", 14400000), ("6h", 21600000), ("8h", 28800000),
    ("12h", 43200000), ("1d", 86400000), ("3d", 259200000), ("1w", 604800000)]

/-- `interval_to_ms`; `none` where it raises. -/
def intervalToMs (interval : String) : Option ℤ :=
  intervalMs.get? interval

theorem intervalToMs_pos {interval : String} {stepMs : ℤ} (h : intervalToMs interval = some stepMs) :
    0 < stepMs := by
  have hall : ∀ p ∈ intervalMs, 0 < p.2 := by decide
  rcases Option.map_eq_some_iff.1 h with ⟨p, hfind, rfl⟩
  exact hall p (List.mem_of_find?_eq_some hfind)

/-- `from_binance_kline`: a row of the answer, as a candle of the symbol and interval asked for. -/
def Candle.fromKline (symbol interval : String) (row : Candle) : Candle :=
  { row with symbol := symbol, interval := interval }

/-- `get_klines` for one symbol and interval. -/
def KlineClient.klinesOf (symbol interval : String) (client : KlineClient) : KlineClient :=
  fun calls request => (client calls request).map (List.map (Candle.fromKline symbol interval))

/-- How `fetch-data` was invoked, and the exchange it met. -/
inductive FetchDataArgs where
  /-- With `--start`: a paginated download. -/
  | range (startTimeMs endTimeMs referenceTimeMs : ℤ) (pageLimit fuel : ℕ)
  /-- Without: the latest candles of a single request. -/
  | latest (response : Except KlineFailure (List Candle)) (referenceTimeMs : ℤ)

/-- `fetch_completed_candles`, without a range. -/
def fetchCompletedCandles (candles : List Candle) (referenceTimeMs : ℤ) : List Candle :=
  candles.filter fun c => c.closeTimeMs < referenceTimeMs

/-- What `fetch-data` is about to store; `none` where it exits with an error instead. -/
def FetchDataArgs.fetched (symbol interval : String) (env : FetchEnv) :
    FetchDataArgs → Option HistoricalFetchResult
  | .range startTimeMs endTimeMs referenceTimeMs pageLimit fuel =>
      match fetchHistoricalRange env startTimeMs endTimeMs pageLimit referenceTimeMs fuel with
      | some (.ok result, _) => if result.candles.isEmpty then none else some result
      | _ => none
  | .latest (.error _) _ => none
  | .latest (.ok response) referenceTimeMs =>
      let candles := fetchCompletedCandles (response.map (Candle.fromKline symbol interval))
        referenceTimeMs
      if candles.isEmpty then none
      else
        match confirmGaps env candles none [] with
        | (.ok result, _) => if result.candles.isEmpty then none else some result
        | (.error _, _) => none

/-- The half-open range a `fetch-data` invocation downloads. -/
def FetchDataArgs.range? : FetchDataArgs → HistoricalFetchResult → ℤ × ℤ
  | .range startTimeMs endTimeMs _ _ _, _ => (startTimeMs, endTimeMs)
  | .latest _ _, result =>
      ((result.candles.head?.map Candle.openTimeMs).getD 0,
        (result.candles.getLast?.map Candle.openTimeMs).getD 0 + 1)

/-- The files of one data directory: the two tables, and the checkpoint all audits share. -/
structure DataDir where
  db : CandleDb
  checkpoint : GapAuditCheckpoint

/-- The commands, each with the market it is configured for. -/
inductive StoreCommand where
  | fetchData (symbol interval : String) (client : KlineClient) (maxRetries : ℕ)
      (args : FetchDataArgs)
  | researchGapAudit (symbol interval : String) (resetCheckpoint : Bool)
      (evidence : ℤ → HourEvidence) (interruptedAfter : Option ℕ)
  | researchGapRecover (symbol interval : String) (confirm resetCheckpoint : Bool)
      (evidence : ℤ → HourEvidence) (interruptedAfter : Option ℕ)

/-- A download that `fetch-data` stores. -/
structure Download where
  symbol : String
  interval : String
  stepMs : ℤ
  range : ℤ × ℤ
  result : HistoricalFetchResult
  deriving DecidableEq

def StoreCommand.downloaded : StoreCommand → Option Download
  | .fetchData symbol interval client maxRetries args => do
      let stepMs ← intervalToMs interval
      let result ← args.fetched symbol interval
        ⟨client.klinesOf symbol interval, stepMs, maxRetries⟩
      return ⟨symbol, interval, stepMs, args.range? result, result⟩
  | _ => none

def fetchDataCmd (data : DataDir) (download : Download) : DataDir :=
  { data with
    db := (data.db.storeCandlesAndGaps download.result.candles download.result.confirmedGaps
      download.symbol download.interval [] none).1 }

/-- The checkpoint a command starts with: `--reset-checkpoint` clears it. -/
def DataDir.auditCheckpoint (data : DataDir) (resetCheckpoint : Bool) : GapAuditCheckpoint :=
  if resetCheckpoint then [] else data.checkpoint

/-- `research-gap-audit`, which only leaves its checkpoint. -/
def researchGapAuditCmd (data : DataDir) (symbol interval : String) (resetCheckpoint : Bool)
    (evidence : ℤ → HourEvidence) (interruptedAfter : Option ℕ) : DataDir :=
  if interval ≠ "1h" then data
  else
    let gaps := (data.db.under symbol "1h").getGaps
    if gaps.isEmpty then data
    else
      { data with
        checkpoint := (runGapForensics symbol evidence (data.auditCheckpoint resetCheckpoint) gaps
          interruptedAfter).2 }

/-- `research-gap-recover`: the same audit, and with `--confirm` the recovery of what it found. -/
def researchGapRecoverCmd (data : DataDir) (symbol interval : String)
    (confirm resetCheckpoint : Bool) (evidence : ℤ → HourEvidence)
    (interruptedAfter : Option ℕ) : DataDir :=
  if interval ≠ "1h" then data
  else
    let gaps := (data.db.under symbol "1h").getGaps
    if gaps.isEmpty then data
    else
      let (report, checkpoint) := runGapForensics symbol evidence
        (data.auditCheckpoint resetCheckpoint) gaps interruptedAfter
      if report.interrupted = true ∨ confirm = false ∨ report.fullyRecoverableHours = 0 then
        ⟨data.db, checkpoint⟩
      else ⟨(data.db.applyGapRecovery oneHourMs symbol "1h" report none).1, checkpoint⟩

def StoreCommand.run (data : DataDir) (command : StoreCommand) : DataDir :=
  match command with
  | .fetchData .. => (command.downloaded.map (fetchDataCmd data)).getD data
  | .researchGapAudit symbol interval resetCheckpoint evidence interruptedAfter =>
      researchGapAuditCmd data symbol interval resetCheckpoint evidence interruptedAfter
  | .researchGapRecover symbol interval confirm resetCheckpoint evidence interruptedAfter =>
      researchGapRecoverCmd data symbol interval confirm resetCheckpoint evidence interruptedAfter

/-! ## Gaps of a set of open times -/

/-- Two times of the set with none between them, more or less than one step apart, and the gap
recorded between them. -/
structure GapIn (stepMs : ℤ) (times : Set ℤ) (gap : GapRecord) : Prop where
  previousMem : gap.previousOpenTimeMs ∈ times
  nextMem : gap.nextOpenTimeMs ∈ times
  later : gap.previousOpenTimeMs < gap.nextOpenTimeMs
  noneBetween : ∀ t ∈ times, t ≤ gap.previousOpenTimeMs ∨ gap.nextOpenTimeMs ≤ t
  notAdjacent : gap.nextOpenTimeMs - gap.previousOpenTimeMs ≠ stepMs
  expected : gap.expectedOpenTimeMs = gap.previousOpenTimeMs + stepMs
  missing : gap.missingIntervals =
    (gap.nextOpenTimeMs - gap.previousOpenTimeMs) / stepMs - 1

def openTimes (candles : List Candle) : Set ℤ :=
  {t | ∃ c ∈ candles, c.openTimeMs = t}

theorem mem_openTimes {candles : List Candle} {c : Candle} (hc : c ∈ candles) :
    c.openTimeMs ∈ openTimes candles :=
  ⟨c, hc, rfl⟩

section GapIn

variable {stepMs : ℤ} {times others : Set ℤ} {gap gap' : GapRecord}

theorem mem_gapsOf_iff_gapIn {candles : List Candle} (h : Ordered candles) :
    gap ∈ gapsOf stepMs candles ↔ GapIn stepMs (openTimes candles) gap := by
  rw [mem_gapsOf_iff h]
  constructor
  · intro hex
    rcases hex with ⟨a, b, hab, rfl⟩
    refine ⟨mem_openTimes hab.previousMem, mem_openTimes hab.nextMem, hab.later, ?_,
      hab.notAdjacent, rfl, rfl⟩
    intro t ht
    rcases ht with ⟨c, hc, rfl⟩
    exact hab.noneBetween c hc
  · intro hgap
    rcases hgap.previousMem with ⟨a, ha, hprevious⟩
    rcases hgap.nextMem with ⟨b, hb, hnext⟩
    refine ⟨a, b, ⟨ha, hb, ?_, ?_, ?_⟩, ?_⟩
    · rw [hprevious, hnext]
      exact hgap.later
    · intro c hc
      rw [hprevious, hnext]
      exact hgap.noneBetween c.openTimeMs (mem_openTimes hc)
    · rw [hprevious, hnext]
      exact hgap.notAdjacent
    · cases gap
      simp only [gapBetween, hprevious, hnext, GapRecord.mk.injEq, true_and]
      exact ⟨hgap.expected, hgap.missing⟩

/-- Times outside of a gap do not end it. -/
theorem GapIn.union (h : GapIn stepMs times gap)
    (houtside : ∀ t ∈ others, t ≤ gap.previousOpenTimeMs ∨ gap.nextOpenTimeMs ≤ t) :
    GapIn stepMs (times ∪ others) gap where
  previousMem := .inl h.previousMem
  nextMem := .inl h.nextMem
  later := h.later
  noneBetween := by
    intro t ht
    rcases ht with ht | ht
    · exact h.noneBetween t ht
    · exact houtside t ht
  notAdjacent := h.notAdjacent
  expected := h.expected
  missing := h.missing

theorem GapIn.congr (h : GapIn stepMs times gap) (heq : times = others) :
    GapIn stepMs others gap :=
  heq ▸ h

/-- A gap of a set whose two ends lie in a part of it is a gap of that part. -/
theorem GapIn.subset (h : GapIn stepMs times gap) (hsub : others ⊆ times)
    (hprevious : gap.previousOpenTimeMs ∈ others) (hnext : gap.nextOpenTimeMs ∈ others) :
    GapIn stepMs others gap where
  previousMem := hprevious
  nextMem := hnext
  later := h.later
  noneBetween := fun t ht => h.noneBetween t (hsub ht)
  notAdjacent := h.notAdjacent
  expected := h.expected
  missing := h.missing

/-- No time of the set lies in the missing range of a gap of it. -/
theorem GapIn.not_covers (hstep : 0 < stepMs) (h : GapIn stepMs times gap) {t : ℤ}
    (ht : t ∈ times) : ¬gap.Covers t := by
  intro hcovers
  have hlow : gap.expectedOpenTimeMs ≤ t := hcovers.1
  have hhigh : t < gap.nextOpenTimeMs := hcovers.2
  have hexpected := h.expected
  rcases h.noneBetween t ht with hle | hle
  · omega
  · omega

end GapIn

theorem expected_le_of_mem_gapsFrom {stepMs : ℤ} {previous : Candle} {rest : List Candle}
    (h : Ordered (previous :: rest)) {gap : GapRecord} (hgap : gap ∈ gapsFrom stepMs previous rest) :
    previous.openTimeMs + stepMs ≤ gap.expectedOpenTimeMs := by
  induction rest generalizing previous with
  | nil => cases hgap
  | cons candle rest ih =>
      have hlt := h.head_lt List.mem_cons_self
      unfold gapsFrom at hgap
      split at hgap
      · have hle := ih h.tail hgap
        omega
      · rcases List.mem_cons.1 hgap with rfl | hgap
        · exact le_rfl
        · have hle := ih h.tail hgap
          omega

/-- The gaps of an ordered list are in the order of their first missing times. -/
theorem ordered_expected_gapsOf {stepMs : ℤ} {candles : List Candle} (h : Ordered candles) :
    (gapsOf stepMs candles).Pairwise fun a b => a.expectedOpenTimeMs < b.expectedOpenTimeMs := by
  cases candles with
  | nil => exact List.Pairwise.nil
  | cons previous rest =>
      change (gapsFrom stepMs previous rest).Pairwise _
      induction rest generalizing previous with
      | nil => exact List.Pairwise.nil
      | cons candle rest ih =>
          have hlt := h.head_lt List.mem_cons_self
          unfold gapsFrom
          split
          · exact ih candle h.tail
          · refine List.pairwise_cons.2 ⟨?_, ih candle h.tail⟩
            intro gap hgap
            have hle := expected_le_of_mem_gapsFrom h.tail hgap
            have hfirst : (gapBetween stepMs previous candle).expectedOpenTimeMs =
                previous.openTimeMs + stepMs := rfl
            omega

/-- The first missing times of the gaps of an ordered list are distinct. -/
theorem nodup_expected_gapsOf {stepMs : ℤ} {candles : List Candle} (h : Ordered candles) :
    ((gapsOf stepMs candles).map GapRecord.expectedOpenTimeMs).Nodup :=
  List.pairwise_map.2 ((ordered_expected_gapsOf h).imp fun hlt => hlt.ne)

/-! ## What an exchange serves -/

/-- Every candle of every answer is as `P` says. -/
def KlineClient.Serves (client : KlineClient) (P : Candle → Prop) : Prop :=
  ∀ calls request page, client calls request = .ok page → ∀ c ∈ page, P c

section Served

variable {env : FetchEnv} {P : Candle → Prop}

theorem klinesOf_serves (symbol interval : String) (client : KlineClient) :
    (client.klinesOf symbol interval).Serves fun c => c.isOf symbol interval = true := by
  intro calls request page hpage c hc
  rw [KlineClient.klinesOf] at hpage
  cases hanswer : client calls request with
  | error e => simp [hanswer, Except.map] at hpage
  | ok answer =>
      have hlist : answer.map (Candle.fromKline symbol interval) = page := by
        simpa [hanswer, Except.map] using hpage
      rw [← hlist] at hc
      rcases List.mem_map.1 hc with ⟨row, -, rfl⟩
      simp [Candle.isOf, Candle.fromKline]

theorem mem_of_mem_belowExclusiveEnd {candles : List Candle} {endTime : Option ℤ} {c : Candle}
    (h : c ∈ belowExclusiveEnd candles endTime) : c ∈ candles := by
  cases endTime with
  | none => exact h
  | some endTimeMs => exact List.mem_of_mem_filter h

theorem fetchPages_served (hserves : env.client.Serves P) {endTimeMs cursor : ℤ}
    {pageLimit fuel : ℕ} {allCandles fetched : List Candle} {calls calls' : List KlineCall}
    (hall : ∀ c ∈ allCandles, P c)
    (h : fetchPages env endTimeMs pageLimit fuel cursor allCandles calls =
      some (.ok fetched, calls')) : ∀ c ∈ fetched, P c := by
  induction fuel generalizing cursor allCandles calls with
  | zero => cases h
  | succ fuel ih =>
      simp only [fetchPages] at h
      split at h
      swap
      · cases h
        exact hall
      split at h
      · cases h
      rename_i page calls₁ hpage
      -- a page is what the exchange answered to the last of its calls
      rcases fetchPageWithRetries_log hpage with ⟨-, -, answer, -, rfl, -, before, hclient⟩
      have hnext : ∀ c ∈ allCandles ++ belowExclusiveEnd answer (some endTimeMs), P c := by
        intro c hc
        rcases List.mem_append.1 hc with hc | hc
        · exact hall c hc
        · exact hserves before _ answer hclient c (mem_of_mem_belowExclusiveEnd hc)
      split at h
      · cases h
        exact hall
      split at h
      · cases h
        exact hnext
      · exact ih hnext h

theorem attemptNarrowRecovery_served_by (hserves : env.client.Serves P) {gap : GapRecord}
    {endTime : Option ℤ} {left : ℕ} {calls calls' : List KlineCall} {found : List Candle}
    (h : attemptNarrowRecovery env gap endTime left calls = (.ok found, calls')) :
    ∀ c ∈ found, P c := by
  induction left generalizing calls with
  | zero =>
      cases h
      intro c hc
      cases hc
  | succ left ih =>
      simp only [attemptNarrowRecovery] at h
      split at h
      · exact ih h
      · cases h
      rename_i page hpage
      split at h
      · cases h
        intro c hc
        exact hserves calls _ page hpage c
          (List.mem_of_mem_filter (mem_of_mem_belowExclusiveEnd hc))
      · exact ih h

theorem recoverGaps_served (hserves : env.client.Serves P) {endTime : Option ℤ}
    {gaps : List GapRecord} {candles recovered : List Candle} {calls calls' : List KlineCall}
    (hcandles : ∀ c ∈ candles, P c)
    (h : recoverGaps env endTime gaps candles calls = (.ok recovered, calls')) :
    ∀ c ∈ recovered, P c := by
  induction gaps generalizing candles calls with
  | nil =>
      cases h
      exact hcandles
  | cons gap rest ih =>
      simp only [recoverGaps] at h
      split at h
      · cases h
      · rename_i found calls₁ hattempt
        refine ih ?_ h
        intro c hc
        rcases List.mem_append.1 hc with hc | hc
        · exact hcandles c hc
        · exact attemptNarrowRecovery_served_by hserves hattempt c hc

end Served

/-! ## One command -/

/-- Every row is a gap between two stored candles, with none stored between them. -/
def ManifestInv (stepMs : ℤ) (store : CandleStore) : Prop :=
  ∀ row ∈ store.getGaps, GapIn stepMs store.times row

/-- No row's missing range holds the open time of a stored candle. -/
def NoRowCovers (store : CandleStore) : Prop :=
  ∀ row ∈ store.getGaps, ∀ c ∈ store.getCandles none none, ¬row.Covers c.openTimeMs

/-- The rows inside a range, with the candles around them, are the gaps of the candles stored in it. -/
def RowsMatch (stepMs : ℤ) (store : CandleStore) (range : ℤ × ℤ) : Prop :=
  ∀ gap, (gap ∈ store.getGaps ∧ range.1 ≤ gap.previousOpenTimeMs ∧ gap.nextOpenTimeMs < range.2) ↔
    gap ∈ gapsOf stepMs (store.getCandles (some range.1) (some (range.2 - 1)))

/-- What the rows of all symbols and intervals say after a command. -/
structure ManifestConsistent (data : DataDir) (command : StoreCommand) : Prop where
  noRowCovers : ∀ symbol interval, NoRowCovers ((command.run data).db.under symbol interval)
  rowsMatch : ∀ download, command.downloaded = some download →
    RowsMatch download.stepMs
      ((command.run data).db.under download.symbol download.interval) download.range

/-- A download that brings no candle into a row's gap, except where it finds the first candle of that
gap missing again, and that leaves out no candle stored in its range (which starts at the first
candle it brings, should that lie before the time asked for); and a confirmed recovery that reuses
recorded results of its own symbol only. -/
structure ManifestSafe (data : DataDir) (command : StoreCommand) : Prop where
  foundAgain : ∀ download, command.downloaded = some download →
    ∀ row ∈ (data.db.under download.symbol download.interval).getGaps,
      (∃ c ∈ download.result.candles, row.previousOpenTimeMs < c.openTimeMs ∧
        c.openTimeMs < row.nextOpenTimeMs) →
      ∃ gap ∈ gapsOf download.stepMs download.result.candles,
        gap.expectedOpenTimeMs = row.expectedOpenTimeMs
  refetched : ∀ download, command.downloaded = some download →
    ∀ c ∈ (data.db.under download.symbol download.interval).getCandles none
        (some (download.range.2 - 1)),
      (download.range.1 ≤ c.openTimeMs ∨
        ∃ d ∈ download.result.candles, d.openTimeMs ≤ c.openTimeMs) →
      ∃ d ∈ download.result.candles, d.openTimeMs = c.openTimeMs
  ownResults : ∀ symbol evidence,
    command = .researchGapRecover symbol "1h" true false evidence none →
      data.checkpoint.OwnResults symbol (data.db.under symbol "1h").getGaps

section Commands

variable {stepMs : ℤ} {store : CandleStore}

theorem openTimes_getCandles_all : openTimes (store.getCandles none none) = store.times := by
  ext t
  refine CandleStore.exists_mem_getCandles.trans ?_
  simp

theorem openTimes_getCandles_range (range : ℤ × ℤ) :
    openTimes (store.getCandles (some range.1) (some (range.2 - 1))) =
      store.times ∩ Set.Ico range.1 range.2 := by
  ext t
  refine CandleStore.exists_mem_getCandles.trans ?_
  simp only [Option.mem_some_iff, forall_eq', Set.mem_inter_iff, Set.mem_Ico]
  constructor
  · intro h
    exact ⟨h.1, h.2.1, by omega⟩
  · intro h
    exact ⟨h.1, h.2.1, by omega⟩

theorem times_store (candles : List Candle) (gaps : List GapRecord) (stale : List ℤ) :
    (store.storeCandlesAndGaps candles gaps stale).times = store.times ∪ openTimes candles := by
  ext t
  exact CandleStore.times_storeCandlesAndGaps

/-- What `fetch-data` stores is of its market and in order, with the gaps between its candles, and
below the end of the range. -/
theorem FetchDataArgs.fetched_eq_some {symbol interval : String} {client : KlineClient}
    {maxRetries : ℕ} {args : FetchDataArgs} {result : HistoricalFetchResult}
    (h : args.fetched symbol interval ⟨client.klinesOf symbol interval, stepMs, maxRetries⟩ =
      some result) :
    (∀ c ∈ result.candles, c.isOf symbol interval = true) ∧ Ordered result.candles ∧
      result.confirmedGaps = gapsOf stepMs result.candles ∧
      ∀ c ∈ result.candles, c.openTimeMs < (args.range? result).2 := by
  have hserves := klinesOf_serves symbol interval client
  cases args with
  | range startTimeMs endTimeMs referenceTimeMs pageLimit fuel =>
      simp only [FetchDataArgs.fetched] at h
      split at h
      · rename_i fetched calls hfetch
        have hresult : fetched = result := by
          split at h
          · cases h
          · exact Option.some.inj h
        subst hresult
        have hbelow := (fetched_below_end hfetch).1 fetched rfl
        rcases fetchHistoricalRange_ok hfetch with
          ⟨allCandles, calls₀, recovered, hpages, hrecover, rfl⟩
        have hall := fetchPages_served hserves (by simp) hpages
        have hpaged : ∀ c ∈ pagedCandles endTimeMs referenceTimeMs allCandles,
            c.isOf symbol interval = true := by
          intro c hc
          exact hall c (mem_of_mem_belowExclusiveEnd
            (List.mem_of_mem_filter (mem_of_mem_dedup hc)))
        refine ⟨?_, ordered_dedup recovered, rfl, hbelow⟩
        intro c hc
        exact recoverGaps_served hserves hpaged hrecover c (mem_of_mem_dedup hc)
      · cases h
  | latest response referenceTimeMs =>
      cases response with
      | error e => cases h
      | ok response =>
          simp only [FetchDataArgs.fetched] at h
          split at h
          · cases h
          split at h
          · rename_i confirmed calls hconfirm
            have hresult : confirmed = result := by
              split at h
              · cases h
              · exact Option.some.inj h
            subst hresult
            rcases confirmGaps_ok hconfirm with ⟨recovered, hrecover, rfl⟩
            have hlatest : ∀ c ∈ fetchCompletedCandles
                (response.map (Candle.fromKline symbol interval)) referenceTimeMs,
                c.isOf symbol interval = true := by
              intro c hc
              rcases List.mem_map.1 (List.mem_of_mem_filter hc) with ⟨row, -, rfl⟩
              simp [Candle.isOf, Candle.fromKline]
            have hordered := ordered_dedup recovered
            refine ⟨?_, hordered, rfl, ?_⟩
            · intro c hc
              exact recoverGaps_served hserves hlatest hrecover c (mem_of_mem_dedup hc)
            -- the range of the latest candles ends after the last of them
            intro c hc
            have hlast : ∀ last, (dedupByOpenTime recovered).getLast? = some last →
                c.openTimeMs ≤ last.openTimeMs := by
              intro last hlast
              rcases List.getLast?_eq_some_iff.1 hlast with ⟨front, hfront⟩
              rw [hfront] at hordered
              rcases List.mem_append.1 (hfront ▸ hc) with hc | hc
              · exact ((List.pairwise_append.1 hordered).2.2 c hc last List.mem_cons_self).le
              · rw [List.mem_singleton.1 hc]
            cases hcases : (dedupByOpenTime recovered).getLast? with
            | none =>
                rw [List.getLast?_eq_none_iff.1 hcases] at hc
                cases hc
            | some last =>
                have hle := hlast last hcases
                simp only [FetchDataArgs.range?, hcases, Option.map_some, Option.getD_some]
                omega
          · cases h

/-- The candles of a safe download into a range. -/
structure SafeDownload (stepMs : ℤ) (store : CandleStore) (range : ℤ × ℤ)
    (candles : List Candle) : Prop where
  ordered : Ordered candles
  below : ∀ c ∈ candles, c.openTimeMs < range.2
  foundAgain : ∀ row ∈ store.getGaps, (∃ c ∈ candles,
    row.previousOpenTimeMs < c.openTimeMs ∧ c.openTimeMs < row.nextOpenTimeMs) →
    ∃ gap ∈ gapsOf stepMs candles, gap.expectedOpenTimeMs = row.expectedOpenTimeMs
  refetched : ∀ c ∈ store.getCandles none (some (range.2 - 1)),
    (range.1 ≤ c.openTimeMs ∨ ∃ d ∈ candles, d.openTimeMs ≤ c.openTimeMs) →
    ∃ d ∈ candles, d.openTimeMs = c.openTimeMs

namespace SafeDownload

variable {range : ℤ × ℤ} {candles : List Candle}

/-- A stored time of the range is that of a downloaded candle. -/
theorem again (h : SafeDownload stepMs store range candles) {t : ℤ} (ht : t ∈ store.times)
    (hlt : t < range.2) (hfrom : range.1 ≤ t ∨ ∃ d ∈ candles, d.openTimeMs ≤ t) :
    t ∈ openTimes candles := by
  have hbound : ∀ e ∈ some (range.2 - 1), t ≤ e := by
    intro e he
    cases he
    omega
  have hstored : ∃ c ∈ store.getCandles none (some (range.2 - 1)), c.openTimeMs = t :=
    CandleStore.exists_mem_getCandles.2 ⟨ht, by simp, hbound⟩
  rcases hstored with ⟨c, hc, rfl⟩
  exact h.refetched c hc hfrom

/-- A gap of the download is one of everything stored then. -/
theorem gapIn (h : SafeDownload stepMs store range candles) {gap : GapRecord}
    (hgap : gap ∈ gapsOf stepMs candles) :
    GapIn stepMs (store.times ∪ openTimes candles) gap := by
  have hdownloaded := (mem_gapsOf_iff_gapIn h.ordered).1 hgap
  rcases hdownloaded.nextMem with ⟨b, hb, hnext⟩
  rcases hdownloaded.previousMem with ⟨a, ha, hprevious⟩
  have hend := h.below b hb
  rw [Set.union_comm]
  apply hdownloaded.union
  intro t ht
  by_contra hbetween
  have hlt : t < range.2 := by omega
  have hagain := h.again ht hlt (.inr ⟨a, ha, by omega⟩)
  rcases hdownloaded.noneBetween t hagain with hle | hle
  · omega
  · omega

theorem rows (h : SafeDownload stepMs store range candles) (hinv : ManifestInv stepMs store)
    {row : GapRecord}
    (hrow : row ∈ (store.storeCandlesAndGaps candles (gapsOf stepMs candles) []).getGaps) :
    GapIn stepMs (store.times ∪ openTimes candles) row := by
  rcases (CandleStore.mem_getGaps_storeCandlesAndGaps (nodup_expected_gapsOf h.ordered)).1 hrow
    with hgap | ⟨hkept, -, hothers⟩
  · exact h.gapIn hgap
  · -- a row that is kept got no candle
    apply (hinv row hkept).union
    intro t ht
    by_contra hbetween
    rcases ht with ⟨c, hc, rfl⟩
    rcases h.foundAgain row hkept ⟨c, hc, by omega⟩ with ⟨gap, hgap, heq⟩
    exact hothers gap hgap heq

/-- A gap of what is stored in the range then is one of the download, which holds all of it. -/
theorem gap_downloaded (h : SafeDownload stepMs store range candles) {gap : GapRecord}
    (hgap : GapIn stepMs ((store.times ∪ openTimes candles) ∩ Set.Ico range.1 range.2) gap) :
    gap ∈ gapsOf stepMs candles := by
  have hin : ∀ t ∈ (store.times ∪ openTimes candles) ∩ Set.Ico range.1 range.2,
      t ∈ openTimes candles := by
    rintro t ⟨ht | ht, hstart, hend⟩
    · exact h.again ht hend (.inl hstart)
    · exact ht
  have hstart := hgap.previousMem.2.1
  have hend := hgap.nextMem.2.2
  refine (mem_gapsOf_iff_gapIn h.ordered).2 ⟨hin _ hgap.previousMem, hin _ hgap.nextMem,
    hgap.later, ?_, hgap.notAdjacent, hgap.expected, hgap.missing⟩
  intro t ht
  by_contra hbetween
  rcases hgap.noneBetween t ⟨.inr ht, by omega, by omega⟩ with hle | hle
  · omega
  · omega

end SafeDownload

/-- A safe download keeps the rows gaps of the stored candles, and finds all of them in its range. -/
theorem ManifestInv.download (hinv : ManifestInv stepMs store) {range : ℤ × ℤ}
    {candles : List Candle} (h : SafeDownload stepMs store range candles) :
    ManifestInv stepMs (store.storeCandlesAndGaps candles (gapsOf stepMs candles) []) ∧
      RowsMatch stepMs (store.storeCandlesAndGaps candles (gapsOf stepMs candles) []) range := by
  constructor
  · intro row hrow
    rw [times_store]
    exact h.rows hinv hrow
  · intro gap
    rw [mem_gapsOf_iff_gapIn (CandleStore.ordered_getCandles _ _), openTimes_getCandles_range,
      times_store]
    constructor
    · rintro ⟨hrow, hstart, hend⟩
      have hgap := h.rows hinv hrow
      have hlater := hgap.later
      apply hgap.subset Set.inter_subset_left
      · exact ⟨hgap.previousMem, hstart, by omega⟩
      · exact ⟨hgap.nextMem, by omega, hend⟩
    · intro hgap
      exact ⟨(CandleStore.mem_getGaps_storeCandlesAndGaps (nodup_expected_gapsOf h.ordered)).2
        (.inl (h.gap_downloaded hgap)), hgap.previousMem.2.1, hgap.nextMem.2.2⟩

theorem openTimes_dedup_append (candles recovered : List Candle) :
    openTimes (dedupByOpenTime (candles ++ recovered)) = openTimes candles ∪ openTimes recovered := by
  ext t
  constructor
  · intro ht
    rcases ht with ⟨c, hc, rfl⟩
    rcases List.mem_append.1 (mem_of_mem_dedup hc) with hc | hc
    · exact .inl (mem_openTimes hc)
    · exact .inr (mem_openTimes hc)
  · intro ht
    have hlist : ∃ c ∈ candles ++ recovered, c.openTimeMs = t := by
      rcases ht with ⟨c, hc, heq⟩ | ⟨c, hc, heq⟩
      · exact ⟨c, List.mem_append_left _ hc, heq⟩
      · exact ⟨c, List.mem_append_right _ hc, heq⟩
    rcases hlist with ⟨c, hc, rfl⟩
    exact exists_mem_dedup hc

/-- What a recovery stores has the gaps of the whole store as its rows, where every row was stale. -/
theorem manifestInv_recover {recovered : List Candle} {stale : List ℤ}
    (hstale : ∀ row ∈ store.getGaps, row.expectedOpenTimeMs ∈ stale) :
    ManifestInv oneHourMs (store.recover recovered stale) := by
  have hordered : Ordered (dedupSort1m (store.getCandles none none ++ recovered)) :=
    ordered_dedup _
  intro row hrow
  rcases (CandleStore.mem_getGaps_storeCandlesAndGaps (nodup_expected_gapsOf hordered)).1 hrow
    with hgap | ⟨hkept, hfresh, -⟩
  · apply ((mem_gapsOf_iff_gapIn hordered).1 hgap).congr
    rw [CandleStore.recover, times_store, ← openTimes_getCandles_all]
    exact openTimes_dedup_append _ _
  · exact absurd (hstale row hkept) hfresh

end Commands

/-! ## The data directory -/

/-- Every row is a gap between two stored candles of its market, with none stored between them, and
every recorded result is one of an earlier audit. -/
structure DataDir.Consistent (data : DataDir) : Prop where
  rows : ∀ symbol interval, ∀ row ∈ (data.db.under symbol interval).getGaps, ∃ stepMs,
    intervalToMs interval = some stepMs ∧ GapIn stepMs (data.db.under symbol interval).times row
  recorded : data.checkpoint.Recorded

section DataDirectory

variable {data : DataDir} {symbol interval : String} {stepMs : ℤ}

theorem DataDir.Consistent.manifestInv (h : data.Consistent)
    (hstep : intervalToMs interval = some stepMs) :
    ManifestInv stepMs (data.db.under symbol interval) := by
  intro row hrow
  rcases h.rows symbol interval row hrow with ⟨stepMs', hstep', hgap⟩
  have heq : stepMs' = stepMs := Option.some.inj (hstep'.symm.trans hstep)
  exact heq ▸ hgap

theorem DataDir.Consistent.noRowCovers (h : data.Consistent) (symbol interval : String) :
    NoRowCovers (data.db.under symbol interval) := by
  intro row hrow c hc
  rcases h.rows symbol interval row hrow with ⟨stepMs, hstep, hgap⟩
  have hmem : c.openTimeMs ∈ (data.db.under symbol interval).times := by
    rw [← openTimes_getCandles_all]
    exact mem_openTimes hc
  exact hgap.not_covers (intervalToMs_pos hstep) hmem

/-- It is enough to look at the market that a command wrote to. -/
theorem DataDir.Consistent.write {data' : DataDir} (h : data.Consistent)
    (hstep : intervalToMs interval = some stepMs)
    (hrows : ManifestInv stepMs (data'.db.under symbol interval))
    (hothers : ∀ s i, ¬(s = symbol ∧ i = interval) → data'.db.under s i = data.db.under s i)
    (hrecorded : data'.checkpoint.Recorded) : data'.Consistent where
  rows := by
    intro s i row hrow
    by_cases hkey : s = symbol ∧ i = interval
    · rcases hkey with ⟨rfl, rfl⟩
      exact ⟨stepMs, hstep, hrows row hrow⟩
    · rw [hothers s i hkey] at hrow ⊢
      exact h.rows s i row hrow
  recorded := hrecorded

theorem DataDir.auditCheckpoint_recorded (h : data.checkpoint.Recorded) (resetCheckpoint : Bool) :
    (data.auditCheckpoint resetCheckpoint).Recorded := by
  cases resetCheckpoint with
  | true => exact recorded_nil
  | false => exact h

/-- An audit only records its own results. -/
theorem DataDir.Consistent.audit (h : data.Consistent) (symbol interval : String)
    (resetCheckpoint : Bool) (evidence : ℤ → HourEvidence) (interruptedAfter : Option ℕ) :
    (researchGapAuditCmd data symbol interval resetCheckpoint evidence
      interruptedAfter).Consistent := by
  unfold researchGapAuditCmd
  split
  · exact h
  simp only
  split
  · exact h
  · have hcheckpoint := DataDir.auditCheckpoint_recorded h.recorded resetCheckpoint
    exact ⟨h.rows, runGapForensics_recorded hcheckpoint symbol evidence _ interruptedAfter⟩

/-- A recovery that reuses no result of another symbol replaces the rows of its symbol by the gaps of
what is stored then, or changes nothing. -/
theorem DataDir.Consistent.recover (h : data.Consistent) (symbol interval : String)
    (confirm resetCheckpoint : Bool) (evidence : ℤ → HourEvidence) (interruptedAfter : Option ℕ)
    (hown : interval = "1h" → confirm = true → resetCheckpoint = false → interruptedAfter = none →
      data.checkpoint.OwnResults symbol (data.db.under symbol "1h").getGaps) :
    (researchGapRecoverCmd data symbol interval confirm resetCheckpoint evidence
      interruptedAfter).Consistent := by
  have hcheckpoint := DataDir.auditCheckpoint_recorded h.recorded resetCheckpoint
  have hrecorded := runGapForensics_recorded hcheckpoint symbol evidence
    (data.db.under symbol "1h").getGaps interruptedAfter
  unfold researchGapRecoverCmd
  split
  · exact h
  rename_i hinterval
  simp only
  split
  · exact h
  split
  · exact ⟨h.rows, hrecorded⟩
  rename_i happly
  -- the audit ran to its end, and its recovery is confirmed
  cases interruptedAfter with
  | some n => exact absurd (Or.inl rfl) happly
  | none =>
      have hconfirm : confirm = true := by
        cases confirm with
        | true => rfl
        | false => exact absurd (Or.inr (Or.inl rfl)) happly
      have hnodup := CandleStore.nodup_getGaps (data.db.under symbol "1h")
      have hresults : (data.auditCheckpoint resetCheckpoint).OwnResults symbol
          (data.db.under symbol "1h").getGaps := by
        cases resetCheckpoint with
        | true =>
            intro gap hgap result hget
            cases hget
        | false => exact hown (not_not.1 hinterval) hconfirm rfl rfl
      have hcandles := @own_recoveredCandles symbol evidence _ hcheckpoint _ hnodup hresults
      have hstale := @stale_runGapForensics symbol evidence _ hcheckpoint _ hnodup
      have hcomplete := @completeFor_runGapForensics symbol evidence
        (data.auditCheckpoint resetCheckpoint) (data.db.under symbol "1h").getGaps
      by_cases hnone : (runGapForensics symbol evidence (data.auditCheckpoint resetCheckpoint)
          (data.db.under symbol "1h").getGaps none).1.recoveredCandles = []
      · rw [CandleDb.applyGapRecovery_nothing hcomplete hnone]
        exact ⟨h.rows, hrecorded⟩
      · rcases @CandleDb.under_applyGapRecovery data.db symbol _ hcomplete hnone hcandles with
          ⟨hunder, hothers⟩
        have hstep : intervalToMs "1h" = some oneHourMs := rfl
        refine h.write hstep ?_ hothers hrecorded
        rw [hunder]
        apply manifestInv_recover
        intro row hrow
        rw [hstale]
        exact List.mem_map_of_mem hrow

/-- What a download stores is of its market and in order, with the gaps between its candles, below the
end of its range. -/
structure Download.Sound (download : Download) : Prop where
  step : intervalToMs download.interval = some download.stepMs
  own : ∀ c ∈ download.result.candles, c.isOf download.symbol download.interval = true
  ordered : Ordered download.result.candles
  gaps : download.result.confirmedGaps = gapsOf download.stepMs download.result.candles
  below : ∀ c ∈ download.result.candles, c.openTimeMs < download.range.2

theorem StoreCommand.downloaded_sound {command : StoreCommand} {download : Download}
    (h : command.downloaded = some download) : download.Sound := by
  cases command with
  | fetchData symbol interval client maxRetries args =>
      rcases Option.bind_eq_some_iff.1 h with ⟨stepMs, hstep, hresult⟩
      rcases Option.bind_eq_some_iff.1 hresult with ⟨result, hfetched, hdownload⟩
      cases hdownload
      rcases FetchDataArgs.fetched_eq_some hfetched with ⟨hown, hordered, hgaps, hbelow⟩
      exact ⟨hstep, hown, hordered, hgaps, hbelow⟩
  | researchGapAudit | researchGapRecover => cases h

/-- A safe download keeps the rows of its market gaps of the stored candles, finds all of them in its
range, and touches no other market. -/
theorem DataDir.Consistent.fetch (h : data.Consistent) {download : Download}
    (hsound : download.Sound)
    (hsafe : SafeDownload download.stepMs (data.db.under download.symbol download.interval)
      download.range download.result.candles) :
    (fetchDataCmd data download).Consistent ∧
      RowsMatch download.stepMs
        ((fetchDataCmd data download).db.under download.symbol download.interval)
        download.range := by
  have hwrite := @CandleDb.under_storeCandlesAndGaps_own data.db _ _ _ hsound.own
    download.result.confirmedGaps []
  rcases (h.manifestInv hsound.step).download hsafe with ⟨hrows, hmatch⟩
  rw [← hsound.gaps] at hrows hmatch
  constructor
  · refine h.write hsound.step ?_ hwrite.2 h.recorded
    rw [fetchDataCmd, hwrite.1]
    exact hrows
  · rw [fetchDataCmd, hwrite.1]
    exact hmatch

/-- A safe command keeps the directory consistent, and its rows are consistent after it. -/
theorem DataDir.Consistent.command (h : data.Consistent) {command : StoreCommand}
    (hsafe : ManifestSafe data command) :
    (command.run data).Consistent ∧ ManifestConsistent data command := by
  cases hdownloaded : command.downloaded with
  | some download =>
      have hsound := StoreCommand.downloaded_sound hdownloaded
      have hrun : command.run data = fetchDataCmd data download := by
        cases command with
        | fetchData => simp [StoreCommand.run, hdownloaded]
        | researchGapAudit | researchGapRecover => cases hdownloaded
      have hnext := h.fetch hsound ⟨hsound.ordered, hsound.below,
        hsafe.foundAgain download hdownloaded, hsafe.refetched download hdownloaded⟩
      rw [← hrun] at hnext
      refine ⟨hnext.1, hnext.1.noRowCovers, ?_⟩
      intro download' hdownloaded'
      rw [hdownloaded] at hdownloaded'
      cases hdownloaded'
      exact hnext.2
  | none =>
      have hnext : (command.run data).Consistent := by
        cases command with
        | fetchData => simpa [StoreCommand.run, hdownloaded] using h
        | researchGapAudit symbol interval resetCheckpoint evidence interruptedAfter =>
            exact h.audit symbol interval resetCheckpoint evidence interruptedAfter
        | researchGapRecover symbol interval confirm resetCheckpoint evidence interruptedAfter =>
            apply h.recover
            rintro rfl rfl rfl rfl
            exact hsafe.ownResults symbol evidence rfl
      refine ⟨hnext, hnext.noRowCovers, ?_⟩
      intro download hsome
      rw [hdownloaded] at hsome
      cases hsome

/-- A directory without candles and rows, with what earlier audits recorded. -/
def emptyDir (checkpoint : GapAuditCheckpoint) : DataDir where
  db := .empty
  checkpoint := checkpoint

theorem consistent_emptyDir {checkpoint : GapAuditCheckpoint} (h : checkpoint.Recorded) :
    (emptyDir checkpoint).Consistent := by
  refine ⟨?_, h⟩
  intro symbol interval row hrow
  cases hrow

/-- In every run from an empty store whose commands are all safe, the rows of every market are
consistent with its stored candles after every command. -/
theorem gap_manifest_consistent {checkpoint : GapAuditCheckpoint} (hrecorded : checkpoint.Recorded)
    (commands : List StoreCommand)
    (hsafe : Runs.Along StoreCommand.run ManifestSafe (emptyDir checkpoint) commands) :
    Runs.Along StoreCommand.run ManifestConsistent (emptyDir checkpoint) commands :=
  Runs.along_of_invariant DataDir.Consistent (fun _ _ h hcommand => h.command hcommand)
    (consistent_emptyDir hrecorded) hsafe

end DataDirectory

/-! ## Runs on five hourly candles -/

section Hourly

/-- Hours 0 to 4, of which the exchange may serve some only. -/
def fiveHours : ExchangeHistory 3600000 where
  candles := [0, 1, 2, 3, 4].map hourlyCandle
  ordered := by decide +kernel
  aligned := by decide +kernel
  closes := by decide +kernel

/-- `fetch-data` for the five hours, from an exchange that does not serve hour 2. -/
def fetchWithoutHour2 (symbol : String) : StoreCommand :=
  .fetchData symbol "1h"
    (fun _ request => .ok ((fiveHours.asked request).filter fun c => c.openTimeMs ≠ 7200000))
    5 (.range 0 18000000 18000000 1000 2)

/-- The same, from the exchange that serves it again. -/
def fetchAllHours (symbol : String) : StoreCommand :=
  .fetchData symbol "1h" (fun _ request => .ok (fiveHours.asked request)) 5
    (.range 0 18000000 18000000 1000 2)

def minuteCandle (hourOpenTimeMs : ℤ) (minute : ℕ) : Candle where
  symbol := "BTCUSDT"
  interval := "1m"
  openTimeMs := hourOpenTimeMs + minute * oneMinuteMs
  closeTimeMs := hourOpenTimeMs + minute * oneMinuteMs + oneMinuteMs - 1
  «open» := 100
  high := 101
  low := 99
  close := 100
  volume := 1

/-- An exchange that has all sixty minutes of every hour. -/
def allMinutes (hour : ℤ) : HourEvidence :=
  ⟨true, (List.range minutesPerHour).map (minuteCandle hour), none⟩

def auditHour2 (symbol : String) : StoreCommand :=
  .researchGapAudit symbol "1h" false allMinutes none

def recoverHour2 (symbol : String) : StoreCommand :=
  .researchGapRecover symbol "1h" true false allMinutes none

/-- What the commands leave of the hourly candles and rows of a symbol. -/
def hourlyStore (symbol : String) (commands : List StoreCommand) : CandleStore :=
  (Runs.final StoreCommand.run (emptyDir []) commands).db.under symbol "1h"

/-- A first download with a gap, the same once more, and the recovery of its hour. -/
theorem gap_manifest_consistent_repeated :
    Runs.Along StoreCommand.run ManifestConsistent (emptyDir [])
      [fetchWithoutHour2 "BTCUSDT", fetchWithoutHour2 "BTCUSDT", recoverHour2 "BTCUSDT"] := by
  have hdownloaded : (fetchWithoutHour2 "BTCUSDT").downloaded = some ⟨"BTCUSDT", "1h", 3600000,
      (0, 18000000), ⟨[0, 1, 3, 4].map hourlyCandle, [⟨7200000, 3600000, 10800000, 1⟩]⟩⟩ := by
    decide +kernel
  apply gap_manifest_consistent recorded_nil
  refine ⟨⟨?_, ?_, ?_⟩, ⟨?_, ?_, ?_⟩, ⟨?_, ?_, ?_⟩, trivial⟩
  · intro download _ row hrow
    cases hrow
  · intro download _ c hc
    cases hc
  · intro symbol evidence heq
    cases heq
  · intro download hdownload
    rw [hdownloaded] at hdownload
    cases hdownload
    decide +kernel
  · intro download hdownload
    rw [hdownloaded] at hdownload
    cases hdownload
    decide +kernel
  · intro symbol evidence heq
    cases heq
  · intro download hdownload
    cases hdownload
  · intro download hdownload
    cases hdownload
  · intro symbol evidence _ gap _ result hget
    cases hget

/-- The row of a gap that a later download fills stays; a download again of a range with a recovered
candle puts the row of its gap back; and a recovery that reuses the result of another symbol stores
a candle in a gap of that symbol. -/
theorem gap_manifest_inconsistent :
    ¬NoRowCovers (hourlyStore "BTCUSDT"
      [fetchWithoutHour2 "BTCUSDT", fetchAllHours "BTCUSDT"]) ∧
    ¬NoRowCovers (hourlyStore "BTCUSDT"
      [fetchWithoutHour2 "BTCUSDT", recoverHour2 "BTCUSDT", fetchWithoutHour2 "BTCUSDT"]) ∧
    ¬NoRowCovers (hourlyStore "BTCUSDT"
      [fetchWithoutHour2 "BTCUSDT", auditHour2 "BTCUSDT", fetchWithoutHour2 "ETHUSDT",
        recoverHour2 "ETHUSDT"]) := by
  have hcovered : ∀ store : CandleStore, ⟨7200000, 3600000, 10800000, 1⟩ ∈ store.getGaps →
      (∃ c ∈ store.getCandles none none, c.openTimeMs = 7200000) → ¬NoRowCovers store := by
    rintro store hrow ⟨c, hc, hopen⟩ h
    apply h _ hrow c hc
    rw [hopen]
    decide
  refine ⟨hcovered _ ?_ ?_, hcovered _ ?_ ?_, hcovered _ ?_ ?_⟩
  all_goals decide +kernel

end Hourly

end TradingAgent
