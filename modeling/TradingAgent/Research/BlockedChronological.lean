import TradingAgent.Research.ScheduleSafety

/-!
# Blocked chronological evaluation — every tradable candle in one block

`research/blocked_chronological_evaluation.py`, for an interval of `stepMs` milliseconds.  The
tradable candles of each gap-free segment are split into blocks, and each block is run after its own
warm-up.

* `blockBoundaries` is the split, by index;
* `runCandidateBlockedChronologicalEvaluation` runs a candidate over the blocks of all segments;
* `blocked_evaluation_covers`: the blocks of a segment are its tradable candles, in order and evenly,
  and the evaluation runs exactly these.
-/

namespace TradingAgent

/-! ## Boundaries -/

/-- The loop of `_block_boundaries`: `count` ranges, the first of which is the `k`-th and starts at
`cursor`. -/
def blockBoundaryLoop (base remainder : ℕ) : (count k cursor : ℕ) → List (ℕ × ℕ)
  | 0, _, _ => []
  | count + 1, k, cursor =>
      let size := base + if k < remainder then 1 else 0
      (cursor, cursor + size) :: blockBoundaryLoop base remainder count (k + 1) (cursor + size)

/-- `_block_boundaries`; there is no loop without a block to divide by. -/
def blockBoundaries (firstTradableIdx n blockCount : ℕ) : List (ℕ × ℕ) :=
  let tradableN := n - firstTradableIdx
  blockBoundaryLoop (tradableN / blockCount) (tradableN % blockCount) blockCount 0 firstTradableIdx

def effectiveBlockCount (blockCount tradableN : ℕ) : ℕ :=
  if 0 < tradableN then min blockCount tradableN else 0

/-- The ranges the evaluation loops over in a segment of `n` candles. -/
def blocksOf (minRequired blockCount n : ℕ) : List (ℕ × ℕ) :=
  blockBoundaries (minRequired - 1) n (effectiveBlockCount blockCount (n - (minRequired - 1)))

/-- `segment[start:end]`. -/
def candleSlice (segment : List Candle) (start stop : ℕ) : List Candle :=
  (segment.take stop).drop start

/-! ## Evaluation -/

inductive BlockedEvaluationError where
  | cutoff (violation : ResearchCutoffViolation)
  | value (text : String)
  | raised (error : PyError)
  deriving DecidableEq, Repr

structure CandidateBlockedChronologicalResult (ρ : Type) where
  candidate : CandidateSpec
  blocks : List (BlockResult ρ) := []
  warnings : List String := []

section Evaluation

variable {ρ : Type} (env : DurationEnv ρ)

/-- The result of a segment or a block that is not run. -/
def skippedBlock (ρ : Type) (segIdx blockIdx candleCount : ℕ) (reason : String) : BlockResult ρ where
  block := ⟨segIdx, blockIdx, none, 0, none, none, candleCount, some reason⟩

/-- The result of a block that was run. -/
def evaluatedBlock (segment : List Candle) (segIdx blockIdx : ℕ) (bounds : ℕ × ℕ)
    (result : SegmentRunResult) (reports : ρ) : BlockResult ρ where
  block :=
    { segmentIndex := segIdx
      blockIndex := blockIdx
      warmUpStartTimeMs := segment[bounds.1 - (env.minRequired - 1)]?.map Candle.openTimeMs
      warmUpCandleCount := env.minRequired - 1
      windowStartTimeMs := segment[bounds.1]?.map Candle.openTimeMs
      windowEndTimeMs := segment[bounds.2 - 1]?.map Candle.closeTimeMs
      candleCount := bounds.2 - bounds.1
      skippedReason := none }
  reports := some reports
  diagnostics := some result.diagnostics
  openPosition := result.openPosition
  endsWithOpenPosition := result.endsWithOpenPosition
  unresolvedPendingSignal := result.pendingSignalNote
  riskReward := result.riskReward
  trades := result.trades

def blockedWarnings (segIdx blockIdx : ℕ) (result : SegmentRunResult) : List String :=
  (if result.equityCurve.isEmpty ∨ result.trades.length < env.minTradesForSignificance then
    [s!"segment {segIdx} block {blockIdx}: only {result.trades.length} trade(s), below the " ++
      s!"configured significance threshold of {env.minTradesForSignificance}."]
  else []) ++
  (result.pendingSignalNote.map fun note => s!"segment {segIdx} block {blockIdx}: {note}").toList

/-- The body of the loop over blocks. -/
def evaluateBlock (segment : List Candle) (segIdx blockIdx : ℕ) (bounds : ℕ × ℕ)
    (s : EvaluationState) : Except PyError (BlockResult ρ × EvaluationState) :=
  if bounds.2 ≤ bounds.1 then
    .ok (skippedBlock ρ segIdx blockIdx 0 "empty block range",
      { s with warnings := s.warnings ++
          [s!"segment {segIdx} block {blockIdx}: empty range - skipped."] })
  else do
    let windowSlice := candleSlice segment (bounds.1 - (env.minRequired - 1)) bounds.2
    let (result, journal) ←
      runSegment env.runEnv windowSlice env.config.backtest.startingEquity s.journal
    let reports ← env.reports (candleSlice segment bounds.1 bounds.2) result
    .ok (evaluatedBlock env segment segIdx blockIdx bounds result reports,
      { journal := journal
        warnings := s.warnings ++ blockedWarnings env segIdx blockIdx result })

def evaluateBlockList (segment : List Candle) (segIdx : ℕ) :
    ℕ → List (ℕ × ℕ) → EvaluationState → Except PyError (List (BlockResult ρ) × EvaluationState)
  | _, [], s => .ok ([], s)
  | blockIdx, bounds :: rest, s => do
      let (block, s) ← evaluateBlock env segment segIdx blockIdx bounds s
      let (blocks, s) ← evaluateBlockList segment segIdx (blockIdx + 1) rest s
      .ok (block :: blocks, s)

/-- The body of the loop over segments. -/
def evaluateBlockedSegment (blockCount segIdx : ℕ) (segment : List Candle) (s : EvaluationState) :
    Except PyError (List (BlockResult ρ) × EvaluationState) :=
  let n := segment.length
  if n < env.minRequired then
    .ok ([skippedBlock ρ segIdx 0 n "segment too small for warm-up"],
      { s with warnings := s.warnings ++
          [s!"segment {segIdx}: only {n} candle(s), fewer than the {env.minRequired} required for " ++
            s!"{env.candidate.candidateId}'s warm-up - entire segment skipped."] })
  else
    let tradableN := n - (env.minRequired - 1)
    let effective := effectiveBlockCount blockCount tradableN
    let fewer := if effective < blockCount then
        [s!"segment {segIdx}: only {tradableN} tradable candle(s) after warm-up - using " ++
          s!"{effective} block(s) instead of the requested {blockCount}."]
      else []
    evaluateBlockList env segment segIdx 0 (blocksOf env.minRequired blockCount n)
      { s with warnings := s.warnings ++ fewer }

def evaluateBlockedSegments (blockCount : ℕ) :
    ℕ → List (List Candle) → EvaluationState →
      Except PyError (List (BlockResult ρ) × EvaluationState)
  | _, [], s => .ok ([], s)
  | segIdx, segment :: rest, s => do
      let (blocks, s) ← evaluateBlockedSegment env blockCount segIdx segment s
      let (others, s) ← evaluateBlockedSegments blockCount (segIdx + 1) rest s
      .ok (blocks ++ others, s)

/-- `run_candidate_blocked_chronological_evaluation`, with the journal it leaves behind. -/
def runCandidateBlockedChronologicalEvaluation (stepMs : ℤ) (preCutoffCandles : List Candle)
    (journal : Journal) (blockCount : ℕ) :
    Except BlockedEvaluationError (CandidateBlockedChronologicalResult ρ × Journal) := do
  (assertPreCutoff preCutoffCandles).mapError .cutoff
  if blockCount = 0 then .error (.value "block_count must be positive")
  else if preCutoffCandles.isEmpty then
    .ok ({ candidate := env.candidate
           warnings := ["no pre-cutoff candles were supplied - nothing to evaluate."] }, journal)
  else do
    let segmentation ← (partitionIntoSegments stepMs preCutoffCandles).mapError .raised
    let (blocks, s) ← (evaluateBlockedSegments env blockCount 0 segmentation.segments
      ⟨journal, []⟩).mapError .raised
    .ok ({ candidate := env.candidate
           blocks := blocks
           warnings := s.warnings }, s.journal)

end Evaluation

/-! ## The split -/

section Split

variable {base remainder : ℕ}

/-- The ranges of the loop follow one another without a gap or an overlap. -/
theorem blockBoundaryLoop_indices (count k cursor : ℕ) :
    (blockBoundaryLoop base remainder count k cursor).flatMap
        (fun bounds => List.range' bounds.1 (bounds.2 - bounds.1)) =
      List.range' cursor (count * base + (min remainder (k + count) - min remainder k)) := by
  induction count generalizing k cursor with
  | zero => simp [blockBoundaryLoop]
  | succ count ih =>
      unfold blockBoundaryLoop
      have hsum : count * base + base + (min remainder (k + (count + 1)) - min remainder k) =
          (base + if k < remainder then 1 else 0) +
            (count * base + (min remainder (k + 1 + count) - min remainder (k + 1))) := by
        by_cases hk : k < remainder
        · rw [if_pos hk]
          omega
        · rw [if_neg hk]
          omega
      rw [List.flatMap_cons, ih, Nat.succ_mul, hsum]
      simp only [Nat.add_sub_cancel_left]
      exact List.range'_append_1

/-- The first ranges are one longer than the others. -/
theorem blockBoundaryLoop_sizes {count k cursor : ℕ} {bounds : ℕ × ℕ}
    (h : bounds ∈ blockBoundaryLoop base remainder count k cursor) :
    bounds.2 = bounds.1 + base ∨ bounds.2 = bounds.1 + (base + 1) := by
  induction count generalizing k cursor with
  | zero => cases h
  | succ count ih =>
      rcases List.mem_cons.1 h with rfl | hrest
      · by_cases hk : k < remainder
        · simp [hk]
        · simp [hk]
      · exact ih hrest

theorem blockBoundaryLoop_length (count k cursor : ℕ) :
    (blockBoundaryLoop base remainder count k cursor).length = count := by
  induction count generalizing k cursor with
  | zero => rfl
  | succ count ih => simp [blockBoundaryLoop, ih]

end Split

/-- What the blocks of a segment are. -/
structure BlocksCover (minRequired blockCount : ℕ) (segment : List Candle) : Prop where
  count : (blocksOf minRequired blockCount segment.length).length =
    min blockCount (segment.length - (minRequired - 1))
  /-- Every tradable index is in one block, once, and in order. -/
  indices : (blocksOf minRequired blockCount segment.length).flatMap
      (fun bounds => List.range' bounds.1 (bounds.2 - bounds.1)) =
    List.range' (minRequired - 1) (segment.length - (minRequired - 1))
  nonempty : ∀ bounds ∈ blocksOf minRequired blockCount segment.length, bounds.1 < bounds.2
  balanced : ∀ bounds ∈ blocksOf minRequired blockCount segment.length,
    ∀ bounds' ∈ blocksOf minRequired blockCount segment.length,
      bounds.2 - bounds.1 ≤ bounds'.2 - bounds'.1 + 1
  /-- What is run for a block is its warm-up and then the block. -/
  warmedUp : ∀ bounds ∈ blocksOf minRequired blockCount segment.length,
    candleSlice segment (bounds.1 - (minRequired - 1)) bounds.2 =
        candleSlice segment (bounds.1 - (minRequired - 1)) bounds.1 ++
          candleSlice segment bounds.1 bounds.2 ∧
      (candleSlice segment (bounds.1 - (minRequired - 1)) bounds.1).length = minRequired - 1 ∧
      (candleSlice segment bounds.1 bounds.2).length = bounds.2 - bounds.1

section Cover

variable {minRequired blockCount : ℕ} {segment : List Candle}

theorem candleSlice_append {start middle stop : ℕ} (hstart : start ≤ middle)
    (hstop : middle ≤ stop) :
    candleSlice segment start stop =
      candleSlice segment start middle ++ candleSlice segment middle stop := by
  unfold candleSlice
  generalize hl : segment.take stop = l
  have htake : segment.take middle = l.take middle := by
    rw [← hl, List.take_take, min_eq_left hstop]
  calc l.drop start
      = (l.drop start).take (middle - start) ++ (l.drop start).drop (middle - start) :=
        (List.take_append_drop _ _).symm
    _ = (l.take middle).drop start ++ l.drop middle := by
        rw [← List.drop_take, List.drop_drop, Nat.add_sub_cancel' hstart]
    _ = (segment.take middle).drop start ++ l.drop middle := by rw [htake]

theorem length_candleSlice {start stop : ℕ} (hstop : stop ≤ segment.length) :
    (candleSlice segment start stop).length = stop - start := by
  simp [candleSlice, hstop]

/-- The blocks of a segment that is long enough are its tradable candles. -/
theorem blocks_cover (hrequired : 0 < minRequired) (hcount : 0 < blockCount)
    (hlong : minRequired ≤ segment.length) : BlocksCover minRequired blockCount segment := by
  have htradable : 0 < segment.length - (minRequired - 1) := by omega
  have heffective : effectiveBlockCount blockCount (segment.length - (minRequired - 1)) =
      min blockCount (segment.length - (minRequired - 1)) := if_pos htradable
  generalize htotal : segment.length - (minRequired - 1) = tradableN at htradable heffective
  have hblocks : blocksOf minRequired blockCount segment.length =
      blockBoundaryLoop (tradableN / min blockCount tradableN)
        (tradableN % min blockCount tradableN) (min blockCount tradableN) 0 (minRequired - 1) := by
    rw [blocksOf, blockBoundaries, htotal, heffective]
  have hpos : 0 < min blockCount tradableN := lt_min hcount htradable
  have hindices : (blocksOf minRequired blockCount segment.length).flatMap
      (fun bounds => List.range' bounds.1 (bounds.2 - bounds.1)) =
        List.range' (minRequired - 1) tradableN := by
    have hmod : tradableN % min blockCount tradableN < min blockCount tradableN :=
      Nat.mod_lt _ hpos
    have hdivision := Nat.div_add_mod tradableN (min blockCount tradableN)
    rw [hblocks, blockBoundaryLoop_indices, Nat.zero_add, min_eq_left hmod.le, Nat.min_zero,
      Nat.sub_zero, hdivision]
  -- there are at most as many blocks as tradable candles, so none of them is empty
  have hbase : 0 < tradableN / min blockCount tradableN :=
    Nat.div_pos (min_le_right _ _) hpos
  have hsizes : ∀ bounds ∈ blocksOf minRequired blockCount segment.length,
      bounds.2 = bounds.1 + tradableN / min blockCount tradableN ∨
        bounds.2 = bounds.1 + (tradableN / min blockCount tradableN + 1) := by
    intro bounds hbounds
    rw [hblocks] at hbounds
    exact blockBoundaryLoop_sizes hbounds
  have hnonempty : ∀ bounds ∈ blocksOf minRequired blockCount segment.length,
      bounds.1 < bounds.2 := by
    intro bounds hbounds
    rcases hsizes bounds hbounds with hsize | hsize
    · omega
    · omega
  constructor
  case count => rw [hblocks, blockBoundaryLoop_length, htotal]
  case indices => rw [hindices, htotal]
  case nonempty => exact hnonempty
  case balanced =>
      intro bounds hbounds bounds' hbounds'
      rcases hsizes bounds hbounds with hsize | hsize
      · rcases hsizes bounds' hbounds' with hsize' | hsize'
        · omega
        · omega
      · rcases hsizes bounds' hbounds' with hsize' | hsize'
        · omega
        · omega
  case warmedUp =>
      intro bounds hbounds
      have hlt := hnonempty bounds hbounds
      -- the first and the last index of the block are tradable
      have hmem : ∀ i, bounds.1 ≤ i → i < bounds.2 → minRequired - 1 ≤ i ∧ i < segment.length := by
        intro i hfirst hlast
        have hin : i ∈ List.range' (minRequired - 1) tradableN := by
          rw [← hindices, List.mem_flatMap]
          refine ⟨bounds, hbounds, ?_⟩
          rw [List.mem_range'_1]
          omega
        rw [List.mem_range'_1] at hin
        omega
      have hfirst := hmem bounds.1 le_rfl hlt
      have hlast := hmem (bounds.2 - 1) (by omega) (by omega)
      refine ⟨candleSlice_append (by omega) hlt.le, ?_, ?_⟩
      · rw [length_candleSlice (by omega)]
        omega
      · exact length_candleSlice (by omega)

end Cover

/-! ## The evaluation runs the blocks -/

section Runs

variable {ρ : Type} {env : DurationEnv ρ} {segment : List Candle} {segIdx blockCount : ℕ}

/-- The block of these bounds was run, on its warm-up and its own candles. -/
def RanBlock (env : DurationEnv ρ) (segment : List Candle) (segIdx : ℕ) (entry : (ℕ × ℕ) × ℕ)
    (block : BlockResult ρ) : Prop :=
  ∃ journal journal' result reports,
    runSegment env.runEnv (candleSlice segment (entry.1.1 - (env.minRequired - 1)) entry.1.2)
      env.config.backtest.startingEquity journal = .ok (result, journal') ∧
    env.reports (candleSlice segment entry.1.1 entry.1.2) result = .ok reports ∧
    block = evaluatedBlock env segment segIdx entry.2 entry.1 result reports

/-- The run of the block of these bounds, or its report, raises. -/
def BlockRaises (env : DurationEnv ρ) (segment : List Candle) (bounds : ℕ × ℕ) (e : PyError) :
    Prop :=
  ∃ journal,
    runSegment env.runEnv (candleSlice segment (bounds.1 - (env.minRequired - 1)) bounds.2)
      env.config.backtest.startingEquity journal = .error e ∨
    ∃ result journal',
      runSegment env.runEnv (candleSlice segment (bounds.1 - (env.minRequired - 1)) bounds.2)
        env.config.backtest.startingEquity journal = .ok (result, journal') ∧
      env.reports (candleSlice segment bounds.1 bounds.2) result = .error e

/-- What a segment contributes to the blocks of an evaluation. -/
def SegmentRan (env : DurationEnv ρ) (blockCount : ℕ) (entry : List Candle × ℕ)
    (part : List (BlockResult ρ)) : Prop :=
  if entry.1.length < env.minRequired then
    part = [skippedBlock ρ entry.2 0 entry.1.length "segment too small for warm-up"]
  else
    List.Forall₂ (RanBlock env entry.1 entry.2)
      (blocksOf env.minRequired blockCount entry.1.length).zipIdx part

/-- A block that is not empty is run, unless its run or its report raises. -/
theorem evaluateBlock_cases {bounds : ℕ × ℕ} (hlt : bounds.1 < bounds.2) (blockIdx : ℕ)
    (s : EvaluationState) :
    (∃ e, evaluateBlock env segment segIdx blockIdx bounds s = .error e ∧
      BlockRaises env segment bounds e) ∨
    ∃ block s', evaluateBlock env segment segIdx blockIdx bounds s = .ok (block, s') ∧
      RanBlock env segment segIdx (bounds, blockIdx) block := by
  unfold evaluateBlock
  rw [if_neg (not_le.2 hlt)]
  cases hrun : runSegment env.runEnv
      (candleSlice segment (bounds.1 - (env.minRequired - 1)) bounds.2)
      env.config.backtest.startingEquity s.journal with
  | error e => exact Or.inl ⟨e, by simp [hrun, bind, Except.bind], s.journal, Or.inl hrun⟩
  | ok ran =>
      rcases ran with ⟨result, journal⟩
      cases hreports : env.reports (candleSlice segment bounds.1 bounds.2) result with
      | error e =>
          exact Or.inl ⟨e, by simp [hrun, hreports, bind, Except.bind], s.journal,
            Or.inr ⟨result, journal, hrun, hreports⟩⟩
      | ok reports =>
          refine Or.inr ⟨evaluatedBlock env segment segIdx blockIdx bounds result reports,
            { journal := journal
              warnings := s.warnings ++ blockedWarnings env segIdx blockIdx result }, ?_,
            s.journal, journal, result, reports, hrun, hreports, rfl⟩
          simp [hrun, hreports, bind, Except.bind]

theorem evaluateBlockList_cases {l : List (ℕ × ℕ)} (hlt : ∀ bounds ∈ l, bounds.1 < bounds.2)
    (blockIdx : ℕ) (s : EvaluationState) :
    (∃ e, evaluateBlockList env segment segIdx blockIdx l s = .error e ∧
      ∃ bounds ∈ l, BlockRaises env segment bounds e) ∨
    ∃ blocks s', evaluateBlockList env segment segIdx blockIdx l s = .ok (blocks, s') ∧
      List.Forall₂ (RanBlock env segment segIdx) (l.zipIdx blockIdx) blocks := by
  induction l generalizing blockIdx s with
  | nil => exact Or.inr ⟨[], s, rfl, List.Forall₂.nil⟩
  | cons bounds rest ih =>
      rcases List.forall_mem_cons.1 hlt with ⟨hfirst, hrest⟩
      unfold evaluateBlockList
      rcases @evaluateBlock_cases ρ env segment segIdx bounds hfirst blockIdx s with
        ⟨e, heq, hraises⟩ | ⟨block, s', heq, hran⟩
      · refine Or.inl ⟨e, ?_, bounds, List.mem_cons_self, hraises⟩
        simp [heq, bind, Except.bind]
      · rcases ih hrest (blockIdx + 1) s' with
          ⟨e, hlist, bounds', hmem, hraises⟩ | ⟨blocks, s'', hlist, hrans⟩
        · refine Or.inl ⟨e, ?_, bounds', List.mem_cons_of_mem _ hmem, hraises⟩
          simp [heq, hlist, bind, Except.bind]
        · refine Or.inr ⟨block :: blocks, s'', ?_, ?_⟩
          · simp [heq, hlist, bind, Except.bind]
          · rw [List.zipIdx_cons]
            exact List.Forall₂.cons hran hrans

/-- A segment is skipped, or its blocks are run. -/
theorem evaluateBlockedSegment_cases (hcount : 0 < blockCount) (s : EvaluationState) :
    (∃ e, evaluateBlockedSegment env blockCount segIdx segment s = .error e ∧
      ∃ bounds ∈ blocksOf env.minRequired blockCount segment.length,
        BlockRaises env segment bounds e) ∨
    ∃ part s', evaluateBlockedSegment env blockCount segIdx segment s = .ok (part, s') ∧
      SegmentRan env blockCount (segment, segIdx) part := by
  unfold evaluateBlockedSegment SegmentRan
  by_cases hshort : segment.length < env.minRequired
  · simp [hshort]
  · have hcover := blocks_cover env.minRequiredPos hcount (not_lt.1 hshort)
    simp only [hshort, if_false]
    exact evaluateBlockList_cases hcover.nonempty 0 _

theorem evaluateBlockedSegments_cases (hcount : 0 < blockCount) (segments : List (List Candle))
    (segIdx : ℕ) (s : EvaluationState) :
    (∃ e, evaluateBlockedSegments env blockCount segIdx segments s = .error e ∧
      ∃ segment ∈ segments, ∃ bounds ∈ blocksOf env.minRequired blockCount segment.length,
        BlockRaises env segment bounds e) ∨
    ∃ parts s', evaluateBlockedSegments env blockCount segIdx segments s =
        .ok (parts.flatten, s') ∧
      List.Forall₂ (SegmentRan env blockCount) (segments.zipIdx segIdx) parts := by
  induction segments generalizing segIdx s with
  | nil => exact Or.inr ⟨[], s, rfl, List.Forall₂.nil⟩
  | cons segment rest ih =>
      unfold evaluateBlockedSegments
      rcases @evaluateBlockedSegment_cases ρ env segment segIdx blockCount hcount s with
        ⟨e, heq, bounds, hbounds, hraises⟩ | ⟨part, s', heq, hran⟩
      · refine Or.inl ⟨e, ?_, segment, List.mem_cons_self, bounds, hbounds, hraises⟩
        simp [heq, bind, Except.bind]
      · rcases ih (segIdx + 1) s' with
          ⟨e, hrest, segment', hmem, hraises⟩ | ⟨parts, s'', hrest, hrans⟩
        · refine Or.inl ⟨e, ?_, segment', List.mem_cons_of_mem _ hmem, hraises⟩
          simp [heq, hrest, bind, Except.bind]
        · refine Or.inr ⟨part :: parts, s'', ?_, ?_⟩
          · simp [heq, hrest, bind, Except.bind]
          · rw [List.zipIdx_cons]
            exact List.Forall₂.cons hran hrans

end Runs

/-- In each gap-free segment that is long enough the blocks are the tradable candles, evenly and in
order, each with the warm-up before it; and the evaluation of ordered candles before the cutoff runs
exactly these blocks, unless the run or the report of one of them raises. -/
theorem blocked_evaluation_covers {ρ : Type} (stepMs : ℤ) (env : DurationEnv ρ)
    {candles : List Candle} (hordered : Ordered candles)
    (hcutoff : ∀ c ∈ candles, c.openTimeMs < researchCutoffMs) {blockCount : ℕ}
    (hcount : 0 < blockCount) (journal : Journal) :
    (∀ segment ∈ segmentsOf stepMs candles, env.minRequired ≤ segment.length →
      BlocksCover env.minRequired blockCount segment) ∧
    ((∃ e, runCandidateBlockedChronologicalEvaluation env stepMs candles journal blockCount =
        .error (.raised e) ∧
      ∃ segment ∈ segmentsOf stepMs candles,
        ∃ bounds ∈ blocksOf env.minRequired blockCount segment.length,
          BlockRaises env segment bounds e) ∨
    ∃ result journal',
      runCandidateBlockedChronologicalEvaluation env stepMs candles journal blockCount =
        .ok (result, journal') ∧
      ∃ parts, result.blocks = parts.flatten ∧
        List.Forall₂ (SegmentRan env blockCount) (segmentsOf stepMs candles).zipIdx parts) := by
  refine ⟨fun segment _ hlong => blocks_cover env.minRequiredPos hcount hlong, ?_⟩
  unfold runCandidateBlockedChronologicalEvaluation
  rw [(assertPreCutoff_eq_ok_iff candles).2 hcutoff]
  by_cases hnone : candles = []
  · subst hnone
    refine Or.inr ⟨{
      candidate := env.candidate
      warnings := ["no pre-cutoff candles were supplied - nothing to evaluate."] }, journal, ?_, [],
      rfl, List.Forall₂.nil⟩
    simp [Except.mapError, bind, Except.bind, hcount.ne']
  · -- the candles split into their segments, evaluated one after the other
    have hpartition := @partitionIntoSegments_of_ordered stepMs candles hordered hnone
    have hnonempty : candles.isEmpty = false := by simpa using hnone
    rcases @evaluateBlockedSegments_cases ρ env blockCount hcount (segmentsOf stepMs candles) 0
        ⟨journal, []⟩ with ⟨e, heq, hraises⟩ | ⟨parts, s, heq, hrans⟩
    · refine Or.inl ⟨e, ?_, hraises⟩
      simp [Except.mapError, bind, Except.bind, hcount.ne', hnonempty, hpartition, heq]
    · refine Or.inr ⟨{
        candidate := env.candidate
        blocks := parts.flatten
        warnings := s.warnings }, s.journal, ?_, parts, rfl, hrans⟩
      simp [Except.mapError, bind, Except.bind, hcount.ne', hnonempty, hpartition, heq]

/-- Two segments of three days, the second of two tradable candles, in at most two blocks each. -/
theorem blocked_evaluation_covers_threeDays :
    ∃ result journal', runCandidateBlockedChronologicalEvaluation Scenario.durationEnv dayMs
        Scenario.threeDays none 2 = .ok (result, journal') ∧
      ∃ parts, result.blocks = parts.flatten ∧
        List.Forall₂ (SegmentRan Scenario.durationEnv 2)
          (segmentsOf dayMs Scenario.threeDays).zipIdx parts := by
  have hcovers := (blocked_evaluation_covers dayMs Scenario.durationEnv
    Scenario.threeDays_research.ordered Scenario.threeDays_research.preCutoff
    (show 0 < 2 by decide) none).2
  refine hcovers.resolve_left ?_
  rintro ⟨e, heq, -⟩
  have hok : (runCandidateBlockedChronologicalEvaluation Scenario.durationEnv dayMs
      Scenario.threeDays none 2).isOk = true := by decide +kernel
  rw [heq] at hok
  cases hok

end TradingAgent
