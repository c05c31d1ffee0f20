import TradingAgent.Data.CandleDb
import TradingAgent.Research.Cutoff
import Mathlib.Algebra.Order.Ring.Rat

/-!
# Gap recovery — missing hours rebuilt from one-minute candles

`data/gap_recovery.py`, with the checkpoint its audits share.  What the exchange has for each missing
hour is a parameter (`HourEvidence`).

* `runGapForensics` classifies every missing hour of every confirmed gap, or reuses the result that
  an earlier audit, of whatever symbol, recorded for a gap with the same four times;
* `CandleDb.applyGapRecovery` alone writes, in one transaction;
* `CandleDb.under_applyGapRecovery` says what it leaves where all recovered candles are of the symbol.
-/

namespace TradingAgent

def oneHourMs : ℤ := 3600000

def oneMinuteMs : ℤ := 60000

def minutesPerHour : ℕ := 60

inductive RecoveryOutcome where
  | fullyRecoverable
  | partiallyRecoverable
  | genuineNoData
  | unresolved
  deriving DecidableEq, Repr

structure MissingHourOutcome where
  openTimeMs : ℤ
  outcome : RecoveryOutcome
  foundMinuteCandleCount : ℕ
  reconstructedCandle : Option Candle := none
  deriving DecidableEq, Repr

structure GapForensicResult where
  gap : GapRecord
  missingHours : List MissingHourOutcome
  deriving DecidableEq, Repr

structure GapForensicReport where
  symbol : String
  interval : String
  totalGaps : ℕ
  gapResults : List GapForensicResult
  interrupted : Bool
  gapsProcessed : ℕ
  deriving DecidableEq, Repr

/-- What an audit finds for one missing hour: whether it got there within its time budget, the
one-minute candles of the hour, and the exchange's own candle of the hour. -/
structure HourEvidence where
  reached : Bool
  minutes : List Candle
  native : Option Candle

/-! ## One hour -/

def isContinuous60Minutes (candles : List Candle) (hourOpenTimeMs : ℤ) : Bool :=
  candles.length = minutesPerHour ∧
    (candles.head?.map Candle.openTimeMs) = some hourOpenTimeMs ∧
    (candles.zip candles.tail).all fun p => p.2.openTimeMs - p.1.openTimeMs = oneMinuteMs

/-- `_aggregate_1m_to_1h`, for a first candle and the others. -/
def aggregateMinutes (symbol : String) (hourOpenTimeMs : ℤ) (first : Candle)
    (others : List Candle) : Candle where
  symbol := symbol
  interval := "1h"
  openTimeMs := hourOpenTimeMs
  closeTimeMs := hourOpenTimeMs + oneHourMs - 1
  «open» := first.open
  high := others.foldl (fun m c => max m c.high) first.high
  low := others.foldl (fun m c => min m c.low) first.low
  close := (others.getLast?.getD first).close
  volume := others.foldl (fun v c => v + c.volume) first.volume

/-- Whether the exchange's own candle differs from the reconstructed one. -/
def differsFromNative (reconstructed native : Candle) : Bool :=
  native.open ≠ reconstructed.open ∨ native.high ≠ reconstructed.high ∨
    native.low ≠ reconstructed.low ∨ native.close ≠ reconstructed.close ∨
    native.volume ≠ reconstructed.volume

def classifyHour (symbol : String) (hourOpenTimeMs : ℤ) (minuteCandles : List Candle)
    (native : Option Candle) : MissingHourOutcome :=
  let count := minuteCandles.length
  match minuteCandles with
  | [] => ⟨hourOpenTimeMs, .genuineNoData, 0, none⟩
  | first :: others =>
      if isContinuous60Minutes minuteCandles hourOpenTimeMs = false then
        if count < minutesPerHour then ⟨hourOpenTimeMs, .partiallyRecoverable, count, none⟩
        else ⟨hourOpenTimeMs, .unresolved, count, none⟩
      else
        let reconstructed := aggregateMinutes symbol hourOpenTimeMs first others
        if native.any (differsFromNative reconstructed) then
          ⟨hourOpenTimeMs, .unresolved, count, none⟩
        else ⟨hourOpenTimeMs, .fullyRecoverable, count, some reconstructed⟩

/-! ## Audit -/

def missingHoursForGap (gap : GapRecord) : List ℤ :=
  (List.range gap.missingIntervals.toNat).map fun i => gap.expectedOpenTimeMs + i * oneHourMs

theorem missingHoursForGap_eq (gap : GapRecord) : missingHoursForGap gap =
    (List.range gap.missingIntervals.toNat).map
      fun i : ℕ => gap.expectedOpenTimeMs + (i : ℤ) * oneHourMs := by
  have hcast : (List.range gap.missingIntervals.toNat).flatMap (fun i : ℕ => [(i : ℤ)]) =
      (List.range gap.missingIntervals.toNat).map fun i : ℕ => (i : ℤ) :=
    List.map_eq_flatMap.symm
  calc missingHoursForGap gap
      = ((List.range gap.missingIntervals.toNat).flatMap fun i : ℕ => [(i : ℤ)]).map
          fun i => gap.expectedOpenTimeMs + i * oneHourMs := rfl
    _ = (List.range gap.missingIntervals.toNat).map
          fun i : ℕ => gap.expectedOpenTimeMs + (i : ℤ) * oneHourMs := by
        rw [hcast, List.map_map]
        rfl

theorem missingHours_lt (gap : GapRecord) : (missingHoursForGap gap).Pairwise (· < ·) := by
  have hhour : (0 : ℤ) < oneHourMs := by decide
  rw [missingHoursForGap_eq]
  apply List.pairwise_map.2
  apply List.pairwise_lt_range.imp
  intro i j hij
  have hmul : (i : ℤ) * oneHourMs < j * oneHourMs :=
    mul_lt_mul_of_pos_right (by exact_mod_cast hij) hhour
  omega

theorem nodup_missingHoursForGap (gap : GapRecord) : (missingHoursForGap gap).Nodup :=
  (missingHours_lt gap).imp fun hlt => hlt.ne

/-- One missing hour, which is not even fetched at or after the research cutoff. -/
def analyzeHour (symbol : String) (evidence : ℤ → HourEvidence) (hourOpenTimeMs : ℤ) :
    MissingHourOutcome :=
  let found := evidence hourOpenTimeMs
  if hourOpenTimeMs ≥ researchCutoffMs ∨ found.reached = false then
    ⟨hourOpenTimeMs, .unresolved, 0, none⟩
  else classifyHour symbol hourOpenTimeMs found.minutes found.native

def analyzeOneGap (symbol : String) (evidence : ℤ → HourEvidence) (gap : GapRecord) :
    GapForensicResult :=
  ⟨gap, (missingHoursForGap gap).map (analyzeHour symbol evidence)⟩

/-- `GapAuditCheckpoint`: the recorded results, under the four fields of their gaps. -/
abbrev GapAuditCheckpoint := Dict GapRecord GapForensicResult

/-- One gap of the audit: the result recorded for it, or a new one, which is recorded. -/
def auditGap (symbol : String) (evidence : ℤ → HourEvidence) (checkpoint : GapAuditCheckpoint)
    (gap : GapRecord) : GapForensicResult × GapAuditCheckpoint :=
  match checkpoint.get? gap with
  | some cached => (cached, checkpoint)
  | none =>
      let result := analyzeOneGap symbol evidence gap
      (result, checkpoint.set result.gap result)

def auditGaps (symbol : String) (evidence : ℤ → HourEvidence) :
    GapAuditCheckpoint → List GapRecord → List GapForensicResult × GapAuditCheckpoint
  | checkpoint, [] => ([], checkpoint)
  | checkpoint, gap :: rest =>
      let (result, checkpoint) := auditGap symbol evidence checkpoint gap
      let (results, checkpoint) := auditGaps symbol evidence checkpoint rest
      (result :: results, checkpoint)

/-- `run_gap_forensics` with a checkpoint, for the interval `1h`, without which it raises: the report
and the checkpoint afterwards. -/
def runGapForensics (symbol : String) (evidence : ℤ → HourEvidence)
    (checkpoint : GapAuditCheckpoint) (confirmedGaps : List GapRecord)
    (interruptedAfter : Option ℕ) : GapForensicReport × GapAuditCheckpoint :=
  let (gapResults, checkpoint) := auditGaps symbol evidence checkpoint
    (confirmedGaps.take (interruptedAfter.getD confirmedGaps.length))
  ({  symbol := symbol
      interval := "1h"
      totalGaps := confirmedGaps.length
      gapResults := gapResults
      interrupted := interruptedAfter.isSome
      gapsProcessed := gapResults.length }, checkpoint)

/-- What an audit makes of one gap. -/
def Audited (gap : GapRecord) (result : GapForensicResult) : Prop :=
  ∃ symbol evidence, result = analyzeOneGap symbol evidence gap

/-- Every recorded result is one of an earlier audit, of whatever symbol. -/
def GapAuditCheckpoint.Recorded (checkpoint : GapAuditCheckpoint) : Prop :=
  ∀ gap result, checkpoint.get? gap = some result → Audited gap result

section Audit

variable {symbol : String} {evidence : ℤ → HourEvidence} {checkpoint : GapAuditCheckpoint}

theorem recorded_nil : GapAuditCheckpoint.Recorded [] := by
  intro gap result hget
  cases hget

theorem auditGap_recorded (h : GapAuditCheckpoint.Recorded checkpoint) (gap : GapRecord) :
    GapAuditCheckpoint.Recorded (auditGap symbol evidence checkpoint gap).2 := by
  unfold auditGap
  cases hget : checkpoint.get? gap with
  | some cached => exact h
  | none =>
      intro gap' result hget'
      by_cases hsame : gap' = gap
      · subst hsame
        have hself := Dict.get?_set_self checkpoint gap' (analyzeOneGap symbol evidence gap')
        have heq := hself.symm.trans hget'
        exact ⟨symbol, evidence, (Option.some.inj heq).symm⟩
      · have hother := Dict.get?_set_of_ne checkpoint hsame (analyzeOneGap symbol evidence gap)
        exact h gap' result (hother.symm.trans hget')

/-- Audits of any symbols, one after the other, record their own results only. -/
theorem auditGaps_recorded (h : GapAuditCheckpoint.Recorded checkpoint) (gaps : List GapRecord) :
    GapAuditCheckpoint.Recorded (auditGaps symbol evidence checkpoint gaps).2 := by
  induction gaps generalizing checkpoint with
  | nil => exact h
  | cons gap rest ih => exact ih (auditGap_recorded h gap)

/-- So do whole runs of `run_gap_forensics`, interrupted or not. -/
theorem runGapForensics_recorded (h : GapAuditCheckpoint.Recorded checkpoint)
    (symbol : String) (evidence : ℤ → HourEvidence) (gaps : List GapRecord)
    (interruptedAfter : Option ℕ) : GapAuditCheckpoint.Recorded
      (runGapForensics symbol evidence checkpoint gaps interruptedAfter).2 :=
  auditGaps_recorded h (gaps.take (interruptedAfter.getD gaps.length))

/-- The result for a gap: what the checkpoint held for it at the start, or a new one. -/
def resultOf (symbol : String) (evidence : ℤ → HourEvidence) (checkpoint : GapAuditCheckpoint)
    (gap : GapRecord) : GapForensicResult :=
  (checkpoint.get? gap).getD (analyzeOneGap symbol evidence gap)

theorem auditGaps_eq {gaps : List GapRecord} (hnodup : gaps.Nodup) :
    (auditGaps symbol evidence checkpoint gaps).1 =
      gaps.map (resultOf symbol evidence checkpoint) := by
  induction gaps generalizing checkpoint with
  | nil => rfl
  | cons gap rest ih =>
      rcases List.nodup_cons.1 hnodup with ⟨hfresh, hrest⟩
      have hfirst : (auditGap symbol evidence checkpoint gap).1 =
          resultOf symbol evidence checkpoint gap := by
        unfold auditGap resultOf
        cases checkpoint.get? gap with
        | some cached => rfl
        | none => rfl
      -- what is recorded for one gap does not show at the others
      have hothers : ∀ gap' ∈ rest,
          resultOf symbol evidence (auditGap symbol evidence checkpoint gap).2 gap' =
            resultOf symbol evidence checkpoint gap' := by
        intro gap' hgap'
        have hne : gap' ≠ gap := fun heq => hfresh (heq ▸ hgap')
        unfold resultOf auditGap
        cases hget : checkpoint.get? gap with
        | some cached => rfl
        | none =>
            have hother := Dict.get?_set_of_ne checkpoint hne (analyzeOneGap symbol evidence gap)
            exact congrArg (fun found => Option.getD found _) hother
      calc (auditGaps symbol evidence checkpoint (gap :: rest)).1
          = (auditGap symbol evidence checkpoint gap).1 ::
              (auditGaps symbol evidence (auditGap symbol evidence checkpoint gap).2 rest).1 := rfl
        _ = resultOf symbol evidence checkpoint gap ::
              rest.map (resultOf symbol evidence (auditGap symbol evidence checkpoint gap).2) := by
            rw [hfirst, ih hrest]
        _ = (gap :: rest).map (resultOf symbol evidence checkpoint) := by
            rw [List.map_cons, List.map_congr_left hothers]

theorem audited_resultOf (h : GapAuditCheckpoint.Recorded checkpoint) (gap : GapRecord) :
    Audited gap (resultOf symbol evidence checkpoint gap) := by
  unfold resultOf
  cases hget : checkpoint.get? gap with
  | some cached => exact h gap cached hget
  | none => exact ⟨symbol, evidence, rfl⟩

end Audit

/-! ## Recovery -/

/-- `_dedup_sort_1m`, which does what `_dedup_by_open_time` does. -/
abbrev dedupSort1m : List Candle → List Candle := dedupByOpenTime

inductive GapRecoveryError where
  | incompleteAudit (gapsProcessed totalGaps : ℕ)
  | reportMismatch (reportSymbol reportInterval symbol interval : String)
  | data (error : PyError)
  deriving DecidableEq, Repr

def GapRecoveryError.message : GapRecoveryError → String
  | .incompleteAudit gapsProcessed totalGaps =>
      "the audit backing this report was interrupted (Ctrl+C) before processing every confirmed gap " ++
        s!"({gapsProcessed}/{totalGaps} completed) - refusing to store anything. Re-run " ++
        "the audit (already-checkpointed gaps are skipped) until it completes, then retry recovery."
  | .reportMismatch reportSymbol reportInterval symbol interval =>
      s!"report was built for '{reportSymbol}'/'{reportInterval}', not '{symbol}'/'{interval}'"
  | .data _ => "invalid candle data"

structure RecoveryApplyResult where
  storedCandleCount : ℕ
  remainingConfirmedGaps : List GapRecord
  deriving DecidableEq, Repr

/-- `fully_recoverable_hours`, which `research-gap-recover` counts once more. -/
def GapForensicReport.fullyRecoverableHours (report : GapForensicReport) : ℕ :=
  ((report.gapResults.flatMap GapForensicResult.missingHours).filter fun hour =>
    hour.outcome = .fullyRecoverable).length

/-- The reconstructed candles of the fully recoverable hours. -/
def GapForensicReport.recoveredCandles (report : GapForensicReport) : List Candle :=
  (report.gapResults.flatMap GapForensicResult.missingHours).filterMap fun hour =>
    if hour.outcome = .fullyRecoverable then hour.reconstructedCandle else none

/-- The reconstructed candle of a fully recoverable hour. -/
def MissingHourOutcome.recovered (hour : MissingHourOutcome) : Option Candle :=
  if hour.outcome = .fullyRecoverable then hour.reconstructedCandle else none

def GapForensicResult.recoveredCandles (result : GapForensicResult) : List Candle :=
  result.missingHours.filterMap MissingHourOutcome.recovered

theorem GapForensicReport.recoveredCandles_eq (report : GapForensicReport) :
    report.recoveredCandles =
      report.gapResults.flatMap GapForensicResult.recoveredCandles := by
  unfold GapForensicReport.recoveredCandles
  induction report.gapResults with
  | nil => rfl
  | cons result rest ih =>
      rw [List.flatMap_cons, List.filterMap_append, ih, List.flatMap_cons]
      rfl

/-- A recovered candle is the reconstructed one of its hour. -/
theorem recovered_analyzeHour {symbol : String} {evidence : ℤ → HourEvidence} {hour : ℤ}
    {c : Candle} (h : (analyzeHour symbol evidence hour).recovered = some c) :
    c.openTimeMs = hour ∧ c.symbol = symbol ∧ c.interval = "1h" := by
  unfold analyzeHour at h
  simp only at h
  split at h
  · simp [MissingHourOutcome.recovered] at h
  unfold classifyHour at h
  cases hminutes : (evidence hour).minutes with
  | nil => simp [hminutes, MissingHourOutcome.recovered] at h
  | cons first others =>
      simp only [hminutes] at h
      split at h
      · split at h
        · simp [MissingHourOutcome.recovered] at h
        · simp [MissingHourOutcome.recovered] at h
      · split at h
        · simp [MissingHourOutcome.recovered] at h
        · have hc : aggregateMinutes symbol hour first others = c := by
            simpa [MissingHourOutcome.recovered] using h
          rw [← hc]
          exact ⟨rfl, rfl, rfl⟩

section Hours

variable {gap : GapRecord} {result : GapForensicResult}

theorem recoveredCandles_analyzeOneGap (symbol : String) (evidence : ℤ → HourEvidence)
    (gap : GapRecord) : (analyzeOneGap symbol evidence gap).recoveredCandles =
      (missingHoursForGap gap).filterMap
        (fun hour => (analyzeHour symbol evidence hour).recovered) := by
  unfold analyzeOneGap GapForensicResult.recoveredCandles
  rw [List.filterMap_map]
  rfl

theorem of_mem_analyzeOneGap {symbol : String} {evidence : ℤ → HourEvidence} {c : Candle}
    (hc : c ∈ (analyzeOneGap symbol evidence gap).recoveredCandles) :
    c.symbol = symbol ∧ c.interval = "1h" := by
  rw [recoveredCandles_analyzeOneGap] at hc
  rcases List.mem_filterMap.1 hc with ⟨hour, -, hrecovered⟩
  exact (recovered_analyzeHour hrecovered).2

/-- The candles recovered for a gap open at its missing hours, in order. -/
theorem Audited.times_sublist (h : Audited gap result) :
    (result.recoveredCandles.map Candle.openTimeMs).Sublist (missingHoursForGap gap) := by
  rcases h with ⟨symbol, evidence, rfl⟩
  rw [recoveredCandles_analyzeOneGap]
  induction missingHoursForGap gap with
  | nil => exact List.Sublist.slnil
  | cons hour rest ih =>
      cases hrecovered : (analyzeHour symbol evidence hour).recovered with
      | none => simpa [hrecovered] using ih.cons hour
      | some c => simpa [hrecovered, (recovered_analyzeHour hrecovered).1] using ih.cons_cons hour


end Hours

/-- What a recovery leaves of the rows of its symbol. -/
def CandleStore.recover (store : CandleStore) (recovered : List Candle) (stale : List ℤ) :
    CandleStore :=
  store.storeCandlesAndGaps recovered
    (gapsOf oneHourMs (dedupSort1m (store.getCandles none none ++ recovered))) stale

/-! ## The database -/

/-- Why a recovery raises: it is refused, or a statement of its transaction fails. -/
inductive RecoveryFailure where
  | refused (error : GapRecoveryError)
  | storage (error : PyError)
  deriving DecidableEq, Repr

/-- `apply_gap_recovery` on the whole database, with an exception at one of the statements of its
transaction or none. -/
def CandleDb.applyGapRecovery (stepMs : ℤ) (db : CandleDb) (symbol interval : String)
    (report : GapForensicReport) (fault : Option (ℕ × PyError)) :
    CandleDb × Except RecoveryFailure RecoveryApplyResult :=
  if report.interrupted = true then
    (db, .error (.refused (.incompleteAudit report.gapsProcessed report.totalGaps)))
  else if report.interval ≠ interval ∨ report.symbol ≠ symbol then
    (db, .error (.refused (.reportMismatch report.symbol report.interval symbol interval)))
  else
    let recoveredCandles := report.recoveredCandles
    let oldGapExpectedOpenTimes := report.gapResults.map fun r => r.gap.expectedOpenTimeMs
    if recoveredCandles.isEmpty then
      (db, .ok ⟨0, report.gapResults.map GapForensicResult.gap⟩)
    else
      let existing := (db.under symbol interval).getCandles none none
      let merged := dedupSort1m (existing ++ recoveredCandles)
      match partitionIntoSegments stepMs merged with
      | .error e => (db, .error (.refused (.data e)))
      | .ok newSegmentation =>
          let stored := db.storeCandlesAndGaps recoveredCandles newSegmentation.gaps symbol interval
            oldGapExpectedOpenTimes (fault.map Prod.fst)
          match fault with
          | some (_, e) => (stored.1, .error (.storage e))
          | none => (stored.1, .ok ⟨recoveredCandles.length, newSegmentation.gaps⟩)

section Database

variable {db : CandleDb} {symbol : String} {report : GapForensicReport}

theorem CandleDb.applyGapRecovery_interrupted (hinterrupted : report.interrupted = true)
    (fault : Option (ℕ × PyError)) :
    (db.applyGapRecovery oneHourMs symbol "1h" report fault).1 = db := by
  simp [CandleDb.applyGapRecovery, hinterrupted]

/-- A complete report on a symbol. -/
structure GapForensicReport.CompleteFor (report : GapForensicReport) (symbol : String) : Prop where
  complete : report.interrupted = false
  interval : report.interval = "1h"
  symbol : report.symbol = symbol

theorem CandleDb.applyGapRecovery_nothing (h : report.CompleteFor symbol)
    (hnone : report.recoveredCandles = []) (fault : Option (ℕ × PyError)) :
    db.applyGapRecovery oneHourMs symbol "1h" report fault =
      (db, .ok ⟨0, report.gapResults.map GapForensicResult.gap⟩) := by
  simp [CandleDb.applyGapRecovery, h.complete, h.interval, h.symbol, hnone]

/-- A recovery with something to store does so in one transaction. -/
theorem CandleDb.applyGapRecovery_stores (h : report.CompleteFor symbol)
    (hsome : report.recoveredCandles ≠ []) (fault : Option (ℕ × PyError)) :
    (db.applyGapRecovery oneHourMs symbol "1h" report fault).1 =
      (db.storeCandlesAndGaps report.recoveredCandles
        (gapsOf oneHourMs (dedupSort1m
          ((db.under symbol "1h").getCandles none none ++ report.recoveredCandles)))
        symbol "1h" (report.gapResults.map fun r => r.gap.expectedOpenTimeMs)
        (fault.map Prod.fst)).1 ∧
    (fault = none → ∃ result,
      (db.applyGapRecovery oneHourMs symbol "1h" report fault).2 = .ok result) := by
  have hordered := ordered_dedup
    ((db.under symbol "1h").getCandles none none ++ report.recoveredCandles)
  have hne : dedupSort1m ((db.under symbol "1h").getCandles none none ++
      report.recoveredCandles) ≠ [] := by
    rcases List.exists_mem_of_ne_nil _ hsome with ⟨c, hc⟩
    rcases exists_mem_dedup (List.mem_append_right _ hc) with ⟨d, hd, -⟩
    exact List.ne_nil_of_mem hd
  have hpartition := @partitionIntoSegments_of_ordered oneHourMs _ hordered hne
  have hnonempty : report.recoveredCandles.isEmpty = false := by simpa using hsome
  cases fault with
  | none =>
      simp [CandleDb.applyGapRecovery, h.complete, h.interval, h.symbol, hnonempty, hpartition]
  | some fault =>
      simp [CandleDb.applyGapRecovery, h.complete, h.interval, h.symbol, hnonempty, hpartition]

/-- Whatever a report holds, a failure of the transaction changes nothing. -/
theorem CandleDb.applyGapRecovery_fault (h : report.CompleteFor symbol) (n : ℕ) (e : PyError) :
    (db.applyGapRecovery oneHourMs symbol "1h" report (some (n, e))).1 = db := by
  by_cases hnone : report.recoveredCandles = []
  · rw [CandleDb.applyGapRecovery_nothing h hnone]
  · rw [(CandleDb.applyGapRecovery_stores h hnone _).1, Option.map_some,
      CandleDb.storeCandlesAndGaps_fault]

/-- Candles of one symbol and interval are stored under these, and nothing else changes. -/
theorem CandleDb.under_applyGapRecovery (h : report.CompleteFor symbol)
    (hsome : report.recoveredCandles ≠ [])
    (hown : ∀ c ∈ report.recoveredCandles, c.symbol = symbol ∧ c.interval = "1h") :
    ((db.applyGapRecovery oneHourMs symbol "1h" report none).1.under symbol "1h" =
      (db.under symbol "1h").recover report.recoveredCandles
        (report.gapResults.map fun r => r.gap.expectedOpenTimeMs)) ∧
    ∀ s i, ¬(s = symbol ∧ i = "1h") →
      (db.applyGapRecovery oneHourMs symbol "1h" report none).1.under s i = db.under s i := by
  rw [(CandleDb.applyGapRecovery_stores h hsome none).1, Option.map_none]
  have hisOf : ∀ c ∈ report.recoveredCandles, c.isOf symbol "1h" = true := by
    intro c hc
    simpa [Candle.isOf] using hown c hc
  exact CandleDb.under_storeCandlesAndGaps_own hisOf _ _

end Database

/-! ## Complete audits -/

/-- Every result of the checkpoint that is reused for a row holds candles of the symbol only. -/
def GapAuditCheckpoint.OwnResults (checkpoint : GapAuditCheckpoint) (symbol : String)
    (gaps : List GapRecord) : Prop :=
  ∀ gap ∈ gaps, ∀ result, checkpoint.get? gap = some result →
    ∀ c ∈ result.recoveredCandles, c.symbol = symbol

section Recovery

variable {db : CandleDb} {symbol : String} {evidence : ℤ → HourEvidence}
  {checkpoint : GapAuditCheckpoint}

theorem completeFor_runGapForensics (gaps : List GapRecord) :
    (runGapForensics symbol evidence checkpoint gaps none).1.CompleteFor symbol :=
  ⟨rfl, rfl, rfl⟩

/-- The recovered candles of a complete audit, gap by gap. -/
theorem recoveredCandles_runGapForensics {gaps : List GapRecord} (hnodup : gaps.Nodup) :
    (runGapForensics symbol evidence checkpoint gaps none).1.gapResults =
        gaps.map (resultOf symbol evidence checkpoint) ∧
      (runGapForensics symbol evidence checkpoint gaps none).1.recoveredCandles =
        gaps.flatMap fun gap => (resultOf symbol evidence checkpoint gap).recoveredCandles := by
  have hresults : (runGapForensics symbol evidence checkpoint gaps none).1.gapResults =
      gaps.map (resultOf symbol evidence checkpoint) := by
    have heq := @auditGaps_eq symbol evidence checkpoint gaps hnodup
    simpa [runGapForensics] using heq
  refine ⟨hresults, ?_⟩
  rw [GapForensicReport.recoveredCandles_eq, hresults, List.flatMap_map]

/-- With results of the symbol only, so are the recovered candles. -/
theorem own_recoveredCandles (hrecorded : checkpoint.Recorded) {gaps : List GapRecord}
    (hnodup : gaps.Nodup) (hown : checkpoint.OwnResults symbol gaps) :
    ∀ c ∈ (runGapForensics symbol evidence checkpoint gaps none).1.recoveredCandles,
      c.symbol = symbol ∧ c.interval = "1h" := by
  intro c hc
  rw [(recoveredCandles_runGapForensics hnodup).2] at hc
  rcases List.mem_flatMap.1 hc with ⟨gap, hgap, hmem⟩
  rcases @audited_resultOf symbol evidence checkpoint hrecorded gap with
    ⟨symbol', evidence', hresult⟩
  have hinterval : c.interval = "1h" := by
    rw [hresult] at hmem
    exact (of_mem_analyzeOneGap hmem).2
  refine ⟨?_, hinterval⟩
  unfold resultOf at hmem
  cases hget : checkpoint.get? gap with
  | some cached =>
      rw [hget] at hmem
      exact hown gap hgap cached hget c hmem
  | none =>
      rw [hget] at hmem
      exact (of_mem_analyzeOneGap hmem).1

/-- An audit reports every row it was given as stale. -/
theorem stale_runGapForensics (hrecorded : checkpoint.Recorded) {gaps : List GapRecord}
    (hnodup : gaps.Nodup) : (runGapForensics symbol evidence checkpoint gaps none).1.gapResults.map
      (fun r => r.gap.expectedOpenTimeMs) = gaps.map GapRecord.expectedOpenTimeMs := by
  rw [(recoveredCandles_runGapForensics hnodup).1, List.map_map]
  refine List.map_congr_left ?_
  intro gap _
  rcases @audited_resultOf symbol evidence checkpoint hrecorded gap with ⟨_, _, hresult⟩
  rw [Function.comp_apply, hresult]
  rfl

end Recovery

end TradingAgent
