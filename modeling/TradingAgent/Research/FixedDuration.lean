import TradingAgent.Backtest.Engine
import TradingAgent.Data.GapDetection
import TradingAgent.Research.Cutoff
import Mathlib.Data.List.Sort

/-!
# Fixed-duration evaluation — blocks of a fixed calendar length

`research/fixed_duration_evaluation.py`, and `count_round3_complete_blocks` of
`data/gap_recovery.py`, for an interval of `stepMs` milliseconds.

* `buildFixedDurationSchedule` computes windows of the same length in every gap-free segment, for an
  anchor warm-up;
* `runCandidateFixedDurationEvaluation` runs a candidate over the windows of a schedule, or over its
  own ones;
* the performance reports of a block are a parameter: some function of the candles of its window and
  the result of its run.
-/

namespace TradingAgent

def dayMs : ℤ := 24 * 60 * 60 * 1000

def defaultBlockDurationDays : ℕ := 365

/-! ## Schedules -/

/-- Why a segment got no block. -/
inductive FragmentReason where
  | fewerThanAnchor (candles anchor : ℕ)
  | fewerThanWarmUp (candles minRequired : ℕ) (candidateId : String)
  | noCompleteBlock (tradableDays : ℚ) (blockDurationDays : ℕ)
  deriving DecidableEq, Repr

structure InsufficientDurationFragment where
  segmentIndex : ℕ
  segmentStartTimeMs : ℤ
  segmentEndTimeMs : ℤ
  candleCount : ℕ
  availableTradableDurationDays : ℚ
  reason : FragmentReason
  deriving DecidableEq, Repr

structure LeftoverPartialWindow where
  segmentIndex : ℕ
  windowStartTimeMs : ℤ
  windowEndTimeMs : ℤ
  candleCount : ℕ
  durationDays : ℚ
  deriving DecidableEq, Repr

structure ScheduledBlockWindow where
  segmentIndex : ℕ
  blockIndex : ℕ
  windowStartTimeMs : ℤ
  windowEndTimeMs : ℤ
  deriving DecidableEq, Repr

structure FixedDurationBlockSchedule where
  blockDurationDays : ℕ
  anchorWarmUpCandlesRequired : ℕ
  windows : List ScheduledBlockWindow := []
  fragments : List InsufficientDurationFragment := []
  leftovers : List LeftoverPartialWindow := []
  deriving DecidableEq, Repr

inductive FixedDurationError where
  | cutoff (violation : ResearchCutoffViolation)
  | value (text : String)
  | insufficientWarmUp (minRequired segmentIndex blockIndex startIdx : ℕ)
  | windowPastSegment (segmentIndex blockIndex : ℕ) (windowEndMs segmentLastCloseMs : ℤ)
  | windowOutOfRange (segmentIndex blockIndex : ℕ) (windowStartMs windowEndMs : ℤ)
  | windowDuration (segmentIndex blockIndex : ℕ) (actualMs expectedMs : ℤ)
  | durationMismatch (scheduleDays requestedDays : ℕ)
  | overlap (earlier later : ScheduledBlockWindow)
  | windowPastCutoff (segmentIndex blockIndex : ℕ) (windowEndMs : ℤ)
  | raised (error : PyError)
  deriving DecidableEq, Repr

/-- Whether an error is a `FixedDurationScheduleError`. -/
def FixedDurationError.isScheduleError : FixedDurationError → Bool
  | .insufficientWarmUp .. | .windowPastSegment .. | .windowOutOfRange .. | .windowDuration ..
  | .durationMismatch .. | .overlap .. | .windowPastCutoff .. => true
  | .cutoff _ | .value _ | .raised _ => false

def FixedDurationError.message : FixedDurationError → String
  | .cutoff violation => violation.message
  | .value text => text
  | .insufficientWarmUp minRequired segmentIndex blockIndex startIdx =>
      s!"this candidate requires {minRequired} warm-up candle(s) but segment {segmentIndex} block " ++
        s!"{blockIndex}'s window starts only {startIdx} candle(s) into its own segment - a schedule " ++
        "must be anchored using the LARGEST warm-up requirement among every candidate it is " ++
        "applied to (see build_fixed_duration_schedule's anchor_warm_up_candles_required)."
  | .windowPastSegment segmentIndex blockIndex windowEndMs segmentLastCloseMs =>
      s!"segment {segmentIndex} block {blockIndex}: computed window end {windowEndMs} exceeds this " ++
        s!"segment's own last candle close {segmentLastCloseMs}."
  | .windowOutOfRange segmentIndex blockIndex windowStartMs windowEndMs =>
      s!"segment {segmentIndex} block {blockIndex}: scheduled window [{windowStartMs}, " ++
        s!"{windowEndMs}) does not resolve to a valid, complete, non-empty candle range within this " ++
        "segment - this segment either has no candle in this range at all, or runs out of candles " ++
        "(e.g. a confirmed gap) before the window's own declared end."
  | .windowDuration segmentIndex blockIndex actualMs expectedMs =>
      s!"segment {segmentIndex} block {blockIndex}: window duration " ++
        s!"{actualMs}ms != declared {expectedMs}ms."
  | .durationMismatch scheduleDays requestedDays =>
      s!"schedule.block_duration_days={scheduleDays} != " ++
        s!"block_duration_days={requestedDays} requested for this evaluation."
  | .overlap earlier later =>
      s!"window (segment={earlier.segmentIndex}, block={earlier.blockIndex}) " ++
        s!"[{earlier.windowStartTimeMs}, {earlier.windowEndTimeMs}) overlaps window " ++
        s!"(segment={later.segmentIndex}, block={later.blockIndex}) " ++
        s!"[{later.windowStartTimeMs}, {later.windowEndTimeMs})."
  | .windowPastCutoff segmentIndex blockIndex windowEndMs =>
      s!"segment {segmentIndex} block {blockIndex}: window_end_time_ms=" ++
        s!"{windowEndMs} touches or crosses the immutable research cutoff " ++
        s!"({researchCutoffMs})."
  | .raised _ => "raised"

/-- `bisect.bisect_left` on a sorted list: how many elements from `lo` on are below `x`, after `lo`. -/
def bisectLeft (xs : List ℤ) (x : ℤ) (lo : ℕ) : ℕ :=
  lo + ((xs.drop lo).takeWhile (· < x)).length

/-- `_segment_tradable_span`: the open times, the first tradable one and the length of the span. -/
def segmentTradableSpan (segment : List Candle) (firstTradableIdx : ℕ) (stepMs : ℤ) :
    Except PyError (List ℤ × ℤ × ℤ) :=
  let openTimes := segment.map Candle.openTimeMs
  match openTimes[firstTradableIdx]?, openTimes.getLast? with
  | some tradableStartMs, some lastOpenMs =>
      .ok (openTimes, tradableStartMs, (lastOpenMs - tradableStartMs) + stepMs)
  | _, _ => .error .indexOutOfRange

/-- What a segment contributes to a schedule. -/
structure ScheduleParts where
  windows : List ScheduledBlockWindow := []
  fragments : List InsufficientDurationFragment := []
  leftovers : List LeftoverPartialWindow := []

def ScheduleParts.append (p q : ScheduleParts) : ScheduleParts where
  windows := p.windows ++ q.windows
  fragments := p.fragments ++ q.fragments
  leftovers := p.leftovers ++ q.leftovers

/-- The body of the loop over segments in `build_fixed_duration_schedule`. -/
def scheduleSegment (stepMs : ℤ) (anchor blockDurationDays segIdx : ℕ) (segment : List Candle) :
    Except FixedDurationError ScheduleParts :=
  let blockDurationMs := blockDurationDays * dayMs
  let n := segment.length
  match segment.head?, segment.getLast? with
  | some first, some last =>
      if n < anchor then
        .ok { fragments := [⟨segIdx, first.openTimeMs, last.closeTimeMs, n, 0,
          .fewerThanAnchor n anchor⟩] }
      else
        let firstTradableIdx := anchor - 1
        match segmentTradableSpan segment firstTradableIdx stepMs with
        | .error e => .error (.raised e)
        | .ok (openTimes, tradableStartMs, totalTradableSpanMs) =>
            let possibleBlocks := totalTradableSpanMs / blockDurationMs
            if possibleBlocks = 0 then
              .ok { fragments := [⟨segIdx, first.openTimeMs, last.closeTimeMs, n,
                totalTradableSpanMs / dayMs,
                .noCompleteBlock (totalTradableSpanMs / dayMs) blockDurationDays⟩] }
            else
              let windows : List ScheduledBlockWindow :=
                (List.range possibleBlocks.toNat).map fun (blockIdx : ℕ) =>
                  let windowStartMs := tradableStartMs + blockIdx * blockDurationMs
                  ⟨segIdx, blockIdx, windowStartMs, windowStartMs + blockDurationMs⟩
              match windows.find? fun w => w.windowEndTimeMs > last.closeTimeMs + 1 with
              | some w => .error (.windowPastSegment segIdx w.blockIndex w.windowEndTimeMs
                  last.closeTimeMs)
              | none =>
                  let leftoverStartMs := tradableStartMs + possibleBlocks * blockDurationMs
                  let segmentEndMs := last.openTimeMs + stepMs
                  if leftoverStartMs < segmentEndMs then
                    let leftoverStartIdx := bisectLeft openTimes leftoverStartMs firstTradableIdx
                    match segment[leftoverStartIdx]? with
                    | some leftoverFirst =>
                        .ok { windows := windows
                              leftovers := [⟨segIdx, leftoverFirst.openTimeMs, last.closeTimeMs,
                                n - leftoverStartIdx, (segmentEndMs - leftoverStartMs) / dayMs⟩] }
                    | none => .ok { windows := windows }
                  else .ok { windows := windows }
  | _, _ => .error (.raised .indexOutOfRange)

def scheduleSegments (stepMs : ℤ) (anchor blockDurationDays : ℕ) :
    ℕ → List (List Candle) → Except FixedDurationError ScheduleParts
  | _, [] => .ok {}
  | segIdx, segment :: rest => do
      let parts ← scheduleSegment stepMs anchor blockDurationDays segIdx segment
      let others ← scheduleSegments stepMs anchor blockDurationDays (segIdx + 1) rest
      .ok (parts.append others)

/-! ## Validation -/

def validateWindow (expectedDurationMs : ℤ) (w : ScheduledBlockWindow) :
    Except FixedDurationError Unit :=
  let actualDurationMs := w.windowEndTimeMs - w.windowStartTimeMs
  if actualDurationMs ≠ expectedDurationMs then
    .error (.windowDuration w.segmentIndex w.blockIndex actualDurationMs expectedDurationMs)
  else if w.windowEndTimeMs > researchCutoffMs then
    .error (.windowPastCutoff w.segmentIndex w.blockIndex w.windowEndTimeMs)
  else .ok ()

def validateWindows (expectedDurationMs : ℤ) :
    List ScheduledBlockWindow → Except FixedDurationError Unit
  | [] => .ok ()
  | w :: rest => do
      validateWindow expectedDurationMs w
      validateWindows expectedDurationMs rest

/-- The check of each window against the next one. -/
def validateDisjoint : List ScheduledBlockWindow → Except FixedDurationError Unit
  | earlier :: later :: rest =>
      if earlier.windowEndTimeMs > later.windowStartTimeMs then .error (.overlap earlier later)
      else validateDisjoint (later :: rest)
  | _ => .ok ()

def validateSchedule (schedule : FixedDurationBlockSchedule) : Except FixedDurationError Unit := do
  validateWindows (schedule.blockDurationDays * dayMs) schedule.windows
  validateDisjoint (schedule.windows.insertionSort
    fun a b => a.windowStartTimeMs ≤ b.windowStartTimeMs)

def raisedBy {α : Type} (x : Except PyError α) : Except FixedDurationError α :=
  x.mapError .raised

def preCutoff (candles : List Candle) : Except FixedDurationError Unit :=
  (assertPreCutoff candles).mapError .cutoff

def buildFixedDurationSchedule (stepMs : ℤ) (preCutoffCandles : List Candle)
    (anchorWarmUpCandlesRequired : ℕ)
    (blockDurationDays : ℕ := defaultBlockDurationDays) :
    Except FixedDurationError FixedDurationBlockSchedule := do
  preCutoff preCutoffCandles
  if anchorWarmUpCandlesRequired = 0 then
    .error (.value "anchor_warm_up_candles_required must be positive")
  else if blockDurationDays = 0 then .error (.value "block_duration_days must be positive")
  else if preCutoffCandles.isEmpty then
    .ok { blockDurationDays := blockDurationDays
          anchorWarmUpCandlesRequired := anchorWarmUpCandlesRequired }
  else do
    let segmentation ← raisedBy (partitionIntoSegments stepMs preCutoffCandles)
    let parts ← scheduleSegments stepMs anchorWarmUpCandlesRequired blockDurationDays 0
      segmentation.segments
    let schedule : FixedDurationBlockSchedule :=
      { blockDurationDays := blockDurationDays
        anchorWarmUpCandlesRequired := anchorWarmUpCandlesRequired
        windows := parts.windows
        fragments := parts.fragments
        leftovers := parts.leftovers }
    validateSchedule schedule
    .ok schedule

/-- `count_round3_complete_blocks`; Python adds up `//` quotients, here of a positive divisor. -/
def countRound3CompleteBlocks (stepMs : ℤ) (candles : List Candle)
    (anchorWarmUpCandlesRequired : ℕ) (blockDurationDays : ℕ := defaultBlockDurationDays) :
    Except PyError ℤ :=
  if candles.isEmpty then .ok 0
  else do
    let blockDurationMs := blockDurationDays * dayMs
    let segmentation ← partitionIntoSegments stepMs candles
    segmentation.segments.foldlM (fun totalBlocks segment => do
      let n := segment.length
      if n < anchorWarmUpCandlesRequired then .ok totalBlocks
      else
        let openTimes := segment.map Candle.openTimeMs
        -- an anchor of zero reads the element at -1, which is the last one
        let tradableStart :=
          if anchorWarmUpCandlesRequired = 0 then openTimes.getLast?
          else openTimes[anchorWarmUpCandlesRequired - 1]?
        match tradableStart, openTimes.getLast? with
        | some tradableStartMs, some lastOpenMs =>
            let totalTradableSpanMs := (lastOpenMs - tradableStartMs) + stepMs
            if blockDurationMs = 0 then .error .zeroDivision
            else .ok (totalBlocks + totalTradableSpanMs / blockDurationMs)
        | _, _ => .error .indexOutOfRange) 0

/-! ## Evaluation -/

structure CandidateSpec where
  candidateId : String
  family : String
  params : List (String × ℚ)
  deriving DecidableEq, Repr

structure BlockSpec where
  segmentIndex : ℕ
  blockIndex : ℕ
  warmUpStartTimeMs : Option ℤ
  warmUpCandleCount : ℕ
  windowStartTimeMs : Option ℤ
  windowEndTimeMs : Option ℤ
  candleCount : ℕ
  skippedReason : Option String
  deriving DecidableEq, Repr

/-- A block's result; `ρ` is the type of its performance reports. -/
structure BlockResult (ρ : Type) where
  block : BlockSpec
  reports : Option ρ := none
  diagnostics : Option RunDiagnostics := none
  openPosition : Option OpenPositionInfo := none
  endsWithOpenPosition : Bool := false
  unresolvedPendingSignal : Option String := none
  riskReward : Option RiskRewardDiagnostics := none
  trades : List Trade := []

structure CandidateFixedDurationResult (ρ : Type) where
  candidate : CandidateSpec
  blocks : List (BlockResult ρ) := []
  fragments : List InsufficientDurationFragment := []
  leftovers : List LeftoverPartialWindow := []
  warnings : List String := []

/-- A candidate with what its evaluation is configured by. -/
structure DurationEnv (ρ : Type) where
  candidate : CandidateSpec
  config : AppConfig
  filters : SymbolFilters
  strategy : Strategy
  minRequired : ℕ
  minRequiredPos : 0 < minRequired
  minTradesForSignificance : ℕ
  reports : List Candle → SegmentRunResult → Except PyError ρ

def DurationEnv.runEnv {ρ : Type} (env : DurationEnv ρ) : RunEnv :=
  .standard env.config env.filters env.strategy env.minRequired env.minRequiredPos true

/-- What the evaluation carries from block to block. -/
structure EvaluationState where
  journal : Journal := none
  warnings : List String := []

section Evaluation

variable {ρ : Type}

/-- The warnings a block that ran adds. -/
def blockWarnings (env : DurationEnv ρ) (segIdx blockIdx : ℕ) (result : SegmentRunResult) :
    List String :=
  (if result.equityCurve.isEmpty ∨ result.trades.length < env.minTradesForSignificance then
    [s!"segment {segIdx} duration-block {blockIdx}: only {result.trades.length} trade(s), below " ++
      s!"the configured significance threshold of {env.minTradesForSignificance}."]
  else []) ++
  (result.pendingSignalNote.map fun note =>
    s!"segment {segIdx} duration-block {blockIdx}: {note}").toList

/-- The part of `_evaluate_duration_block` after the window has been resolved to the candles from
`startIdx` up to `endIdx`, and the warm-up to those from `warmUpStartIdx` on. -/
def runDurationBlock (env : DurationEnv ρ) (segment : List Candle)
    (segIdx blockIdx warmUpStartIdx startIdx endIdx : ℕ) (s : EvaluationState) :
    Except FixedDurationError (BlockResult ρ × EvaluationState) := do
  let windowSlice := (segment.take endIdx).drop warmUpStartIdx
  let (result, journal) ← raisedBy
    (runSegment env.runEnv windowSlice env.config.backtest.startingEquity s.journal)
  let windowCandles := (segment.take endIdx).drop startIdx
  let reports ← raisedBy (env.reports windowCandles result)
  .ok
    ({ block :=
        { segmentIndex := segIdx
          blockIndex := blockIdx
          warmUpStartTimeMs := segment[warmUpStartIdx]?.map Candle.openTimeMs
          warmUpCandleCount := env.minRequired - 1
          windowStartTimeMs := segment[startIdx]?.map Candle.openTimeMs
          windowEndTimeMs := segment[endIdx - 1]?.map Candle.closeTimeMs
          candleCount := endIdx - startIdx
          skippedReason := none }
       reports := some reports
       diagnostics := some result.diagnostics
       openPosition := result.openPosition
       endsWithOpenPosition := result.endsWithOpenPosition
       unresolvedPendingSignal := result.pendingSignalNote
       riskReward := result.riskReward
       trades := result.trades },
      { journal := journal
        warnings := s.warnings ++ blockWarnings env segIdx blockIdx result })

/-- `_evaluate_duration_block`. -/
def evaluateDurationBlock (env : DurationEnv ρ) (segment : List Candle) (segIdx blockIdx : ℕ)
    (windowStartMs windowEndMs : ℤ) (strict : Bool) (s : EvaluationState) :
    Except FixedDurationError (BlockResult ρ × EvaluationState) :=
  let openTimes := segment.map Candle.openTimeMs
  let startIdx := bisectLeft openTimes windowStartMs 0
  let endIdx := bisectLeft openTimes windowEndMs startIdx
  let runsPastAvailableCandles : Bool :=
    endIdx = segment.length && segment.getLast?.all fun last => last.closeTimeMs + 1 < windowEndMs
  if endIdx ≤ startIdx ∨ runsPastAvailableCandles = true then
    if strict = true then .error (.windowOutOfRange segIdx blockIdx windowStartMs windowEndMs)
    else
      .ok
        ({ block := ⟨segIdx, blockIdx, none, 0, none, none, 0, some "empty duration-block range"⟩ },
          { s with warnings := s.warnings ++
              [s!"segment {segIdx} duration-block {blockIdx}: empty candle range - skipped."] })
  else if startIdx < env.minRequired - 1 then
    .error (.insufficientWarmUp env.minRequired segIdx blockIdx startIdx)
  else
    runDurationBlock env segment segIdx blockIdx (startIdx - (env.minRequired - 1)) startIdx endIdx s

/-- The blocks of a schedule, in turn. -/
def evaluateWindows (env : DurationEnv ρ) (segments : List (List Candle)) :
    List ScheduledBlockWindow → EvaluationState →
      Except FixedDurationError (List (BlockResult ρ) × EvaluationState)
  | [], s => .ok ([], s)
  | w :: rest, s =>
      match segments[w.segmentIndex]? with
      | none => .error (.raised .indexOutOfRange)
      | some segment => do
          let (block, s') ← evaluateDurationBlock env segment w.segmentIndex w.blockIndex
            w.windowStartTimeMs w.windowEndTimeMs true s
          let (blocks, s'') ← evaluateWindows env segments rest s'
          .ok (block :: blocks, s'')

/-- The blocks `blockIdx`, …, `blockIdx + count - 1` of a segment, in the default mode. -/
def evaluateBlocks (env : DurationEnv ρ) (segment : List Candle) (segIdx : ℕ)
    (tradableStartMs blockDurationMs : ℤ) :
    (count blockIdx : ℕ) → EvaluationState →
      Except FixedDurationError (List (BlockResult ρ) × EvaluationState)
  | 0, _, s => .ok ([], s)
  | count + 1, blockIdx, s => do
      let windowStartMs := tradableStartMs + blockIdx * blockDurationMs
      let windowEndMs := windowStartMs + blockDurationMs
      let (block, s') ← evaluateDurationBlock env segment segIdx blockIdx windowStartMs windowEndMs
        false s
      let (blocks, s'') ← evaluateBlocks env segment segIdx tradableStartMs blockDurationMs count
        (blockIdx + 1) s'
      .ok (block :: blocks, s'')

/-- What a segment contributes in the default mode. -/
structure DurationParts (ρ : Type) where
  blocks : List (BlockResult ρ) := []
  fragments : List InsufficientDurationFragment := []
  leftovers : List LeftoverPartialWindow := []

/-- The body of the loop over segments in the default mode. -/
def evaluateSegment (stepMs : ℤ) (env : DurationEnv ρ) (blockDurationDays segIdx : ℕ)
    (segment : List Candle) (s : EvaluationState) :
    Except FixedDurationError (DurationParts ρ × EvaluationState) :=
  let blockDurationMs := blockDurationDays * dayMs
  let n := segment.length
  match segment.head?, segment.getLast? with
  | some first, some last =>
      if n < env.minRequired then
        .ok ({ fragments := [⟨segIdx, first.openTimeMs, last.closeTimeMs, n, 0,
          .fewerThanWarmUp n env.minRequired env.candidate.candidateId⟩] }, s)
      else
        let firstTradableIdx := env.minRequired - 1
        match segmentTradableSpan segment firstTradableIdx stepMs with
        | .error e => .error (.raised e)
        | .ok (openTimes, tradableStartMs, totalTradableSpanMs) =>
            let possibleBlocks := totalTradableSpanMs / blockDurationMs
            if possibleBlocks = 0 then
              .ok ({ fragments := [⟨segIdx, first.openTimeMs, last.closeTimeMs, n,
                totalTradableSpanMs / dayMs,
                .noCompleteBlock (totalTradableSpanMs / dayMs) blockDurationDays⟩] }, s)
            else do
              let (blocks, s') ← evaluateBlocks env segment segIdx tradableStartMs blockDurationMs
                possibleBlocks.toNat 0 s
              let leftoverStartMs := tradableStartMs + possibleBlocks * blockDurationMs
              let segmentEndMs := last.openTimeMs + stepMs
              if leftoverStartMs < segmentEndMs then
                let leftoverStartIdx := bisectLeft openTimes leftoverStartMs firstTradableIdx
                match segment[leftoverStartIdx]? with
                | some leftoverFirst =>
                    .ok ({ blocks := blocks
                           leftovers := [⟨segIdx, leftoverFirst.openTimeMs, last.closeTimeMs,
                             n - leftoverStartIdx, (segmentEndMs - leftoverStartMs) / dayMs⟩] }, s')
                | none => .ok ({ blocks := blocks }, s')
              else .ok ({ blocks := blocks }, s')
  | _, _ => .error (.raised .indexOutOfRange)

def evaluateSegments (stepMs : ℤ) (env : DurationEnv ρ) (blockDurationDays : ℕ) :
    ℕ → List (List Candle) → EvaluationState →
      Except FixedDurationError (DurationParts ρ × EvaluationState)
  | _, [], s => .ok ({}, s)
  | segIdx, segment :: rest, s => do
      let (parts, s') ← evaluateSegment stepMs env blockDurationDays segIdx segment s
      let (others, s'') ← evaluateSegments stepMs env blockDurationDays (segIdx + 1) rest s'
      .ok (⟨parts.blocks ++ others.blocks, parts.fragments ++ others.fragments,
        parts.leftovers ++ others.leftovers⟩, s'')

/-- `run_candidate_fixed_duration_evaluation`, with the journal it leaves behind. -/
def runCandidateFixedDurationEvaluation (stepMs : ℤ) (env : DurationEnv ρ)
    (preCutoffCandles : List Candle) (blockDurationDays : ℕ)
    (schedule : Option FixedDurationBlockSchedule) (journal : Journal) :
    Except FixedDurationError (CandidateFixedDurationResult ρ × Journal) := do
  preCutoff preCutoffCandles
  if blockDurationDays = 0 then .error (.value "block_duration_days must be positive")
  else if preCutoffCandles.isEmpty then
    .ok ({ candidate := env.candidate
           warnings := ["no pre-cutoff candles were supplied - nothing to evaluate."] }, journal)
  else do
    let segmentation ← raisedBy (partitionIntoSegments stepMs preCutoffCandles)
    match schedule with
    | some schedule =>
        if schedule.blockDurationDays ≠ blockDurationDays then
          .error (.durationMismatch schedule.blockDurationDays blockDurationDays)
        else do
          let (blocks, s) ← evaluateWindows env segmentation.segments schedule.windows ⟨journal, []⟩
          .ok ({ candidate := env.candidate
                 blocks := blocks
                 fragments := schedule.fragments
                 leftovers := schedule.leftovers
                 warnings := s.warnings }, s.journal)
    | none => do
        let (parts, s) ← evaluateSegments stepMs env blockDurationDays 0 segmentation.segments
          ⟨journal, []⟩
        .ok ({ candidate := env.candidate
               blocks := parts.blocks
               fragments := parts.fragments
               leftovers := parts.leftovers
               warnings := s.warnings }, s.journal)

end Evaluation

end TradingAgent
