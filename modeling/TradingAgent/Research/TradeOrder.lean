import TradingAgent.Backtest.Continuation
import TradingAgent.Research.BlockedChronological

/-!
# Trade order — the trades of an evaluation in the order of its blocks

Every trade of a block enters and exits at opens of the block's own candles, and no candle is in two
blocks.  So the trades of all blocks, one block after the other, are in the order of their entries
and of their exits (`evaluated_trades_within`).
-/

namespace TradingAgent

section Windows

variable {minRequired blockCount : ℕ} {segment : List Candle}

/-- Reading a list at consecutive indices. -/
theorem filterMap_range' {α : Type} (l : List α) (start n : ℕ) :
    (List.range' start n).filterMap (l[·]?) = (l.drop start).take n := by
  induction n generalizing start with
  | zero => simp
  | succ n ih =>
      rw [List.range'_succ, List.filterMap_cons]
      cases hat : l[start]? with
      | none =>
          have hle : l.length ≤ start := List.getElem?_eq_none_iff.1 hat
          rw [ih, List.drop_eq_nil_of_le hle, List.drop_eq_nil_of_le (hle.trans (Nat.le_succ _)),
            List.take_nil, List.take_nil]
      | some x =>
          rcases List.getElem?_eq_some_iff.1 hat with ⟨hlt, rfl⟩
          rw [ih, List.drop_eq_getElem_cons hlt, List.take_succ_cons]

theorem candleSlice_eq_filterMap (segment : List Candle) (start stop : ℕ) :
    candleSlice segment start stop = (List.range' start (stop - start)).filterMap (segment[·]?) := by
  rw [filterMap_range', candleSlice, List.drop_take]

/-- The blocks of a segment, one after the other, are its tradable candles. -/
theorem BlocksCover.flatMap_slices (h : BlocksCover minRequired blockCount segment) :
    ((blocksOf minRequired blockCount segment.length).flatMap fun bounds =>
      candleSlice segment bounds.1 bounds.2) = segment.drop (minRequired - 1) := by
  calc ((blocksOf minRequired blockCount segment.length).flatMap fun bounds =>
        candleSlice segment bounds.1 bounds.2)
      = (((blocksOf minRequired blockCount segment.length).flatMap fun bounds =>
          List.range' bounds.1 (bounds.2 - bounds.1))).filterMap (segment[·]?) := by
        simp only [candleSlice_eq_filterMap, List.filterMap_flatMap]
    _ = (segment.drop (minRequired - 1)).take (segment.length - (minRequired - 1)) := by
        rw [h.indices, filterMap_range']
    _ = segment.drop (minRequired - 1) :=
        List.take_of_length_le (by rw [List.length_drop])

end Windows

section Times

variable {ρ : Type} {env : DurationEnv ρ} {segment candles : List Candle} {segIdx blockCount : ℕ}

/-- The trades enter at opens of these candles and exit at opens of them, each in this order. -/
structure TradesWithin (trades : List Trade) (candles : List Candle) : Prop where
  entries : (trades.map Trade.entryTimeMs).Sublist (candles.map Candle.openTimeMs)
  exits : (trades.map Trade.exitTimeMs).Sublist (candles.map Candle.openTimeMs)

theorem TradesWithin.nil (candles : List Candle) : TradesWithin [] candles :=
  ⟨List.nil_sublist _, List.nil_sublist _⟩

theorem TradesWithin.append {trades trades' : List Trade} {candles' : List Candle}
    (h : TradesWithin trades candles) (h' : TradesWithin trades' candles') :
    TradesWithin (trades ++ trades') (candles ++ candles') where
  entries := by
    rw [List.map_append, List.map_append]
    exact h.entries.append h'.entries
  exits := by
    rw [List.map_append, List.map_append]
    exact h.exits.append h'.exits

theorem TradesWithin.mono {trades : List Trade} {candles' : List Candle}
    (h : TradesWithin trades candles) (hsub : candles.Sublist candles') :
    TradesWithin trades candles' where
  entries := h.entries.trans (hsub.map _)
  exits := h.exits.trans (hsub.map _)

/-- Over ordered candles entries and exits come in the order of their times. -/
theorem TradesWithin.pairwise {trades : List Trade} (h : TradesWithin trades candles)
    (hordered : Ordered candles) :
    trades.Pairwise (fun a b => a.entryTimeMs < b.entryTimeMs) ∧
      trades.Pairwise fun a b => a.exitTimeMs < b.exitTimeMs := by
  have hopens : (candles.map Candle.openTimeMs).Pairwise (· < ·) := List.pairwise_map.2 hordered
  exact ⟨List.pairwise_map.1 (hopens.sublist h.entries),
    List.pairwise_map.1 (hopens.sublist h.exits)⟩

/-- A run's trades are within the candles its loop reads. -/
theorem runSegment_within {journal j : Journal} {r : SegmentRunResult}
    (h : runSegment env.runEnv segment env.config.backtest.startingEquity journal = .ok (r, j)) :
    TradesWithin r.trades (segment.drop (env.minRequired - 1)) := by
  have henv : env.runEnv.Standard :=
    RunEnv.standard_standard env.config env.filters env.strategy env.minRequired env.minRequiredPos
      true
  have hextends := (runSegment_records henv rfl h).1
  constructor
  case entries =>
      rcases hextends.entryTimes with ⟨es, hes, hsub⟩
      have hentries : (r.records j).entryTimes = es := hes
      refine List.Sublist.trans ?_ hsub
      rw [← hentries]
      exact List.sublist_append_left _ _
  case exits =>
      rcases hextends.trades with ⟨ts, hts, hsub⟩
      have htrades : r.trades = ts := hts
      rw [htrades]
      exact hsub

/-- A block's trades are within the block, without its warm-up. -/
theorem RanBlock.within (hcover : BlocksCover env.minRequired blockCount segment)
    {entry : (ℕ × ℕ) × ℕ} (hentry : entry.1 ∈ blocksOf env.minRequired blockCount segment.length)
    {block : BlockResult ρ} (h : RanBlock env segment segIdx entry block) :
    TradesWithin block.trades (candleSlice segment entry.1.1 entry.1.2) := by
  rcases h with ⟨journal, j, r, reports, hrun, -, rfl⟩
  rcases hcover.warmedUp entry.1 hentry with ⟨hslice, hwarmup, -⟩
  have hwithin := runSegment_within hrun
  rw [hslice, List.drop_left' hwarmup] at hwithin
  exact hwithin

theorem within_of_forall₂ (hcover : BlocksCover env.minRequired blockCount segment)
    {entries : List ((ℕ × ℕ) × ℕ)}
    (hentries : ∀ entry ∈ entries, entry.1 ∈ blocksOf env.minRequired blockCount segment.length)
    {blocks : List (BlockResult ρ)} (h : List.Forall₂ (RanBlock env segment segIdx) entries blocks) :
    TradesWithin (blocks.flatMap BlockResult.trades)
      (entries.flatMap fun entry => candleSlice segment entry.1.1 entry.1.2) := by
  induction h with
  | nil => exact .nil _
  | cons hblock _ ih =>
      rcases List.forall_mem_cons.1 hentries with ⟨hfirst, hrest⟩
      rw [List.flatMap_cons, List.flatMap_cons]
      exact (hblock.within hcover hfirst).append (ih hrest)

/-- The trades of a segment's blocks are within the segment. -/
theorem SegmentRan.within (hcount : 0 < blockCount) {part : List (BlockResult ρ)}
    (h : SegmentRan env blockCount (segment, segIdx) part) :
    TradesWithin (part.flatMap BlockResult.trades) segment := by
  unfold SegmentRan at h
  by_cases hshort : segment.length < env.minRequired
  · rw [if_pos hshort] at h
    rw [h]
    exact .nil _
  · rw [if_neg hshort] at h
    have hcover := blocks_cover env.minRequiredPos hcount (not_lt.1 hshort)
    have hwithin := within_of_forall₂ hcover (fun entry hentry => List.fst_mem_of_mem_zipIdx hentry) h
    have hslices : ((blocksOf env.minRequired blockCount segment.length).zipIdx.flatMap fun entry =>
        candleSlice segment entry.1.1 entry.1.2) = segment.drop (env.minRequired - 1) := by
      calc ((blocksOf env.minRequired blockCount segment.length).zipIdx.flatMap fun entry =>
            candleSlice segment entry.1.1 entry.1.2)
          = ((blocksOf env.minRequired blockCount segment.length).zipIdx.map Prod.fst).flatMap
              fun bounds => candleSlice segment bounds.1 bounds.2 := by rw [List.flatMap_map]
        _ = segment.drop (env.minRequired - 1) := by
            rw [List.zipIdx_map_fst, hcover.flatMap_slices]
    rw [hslices] at hwithin
    exact hwithin.mono (List.drop_sublist _ _)

theorem within_of_parts (hcount : 0 < blockCount) {entries : List (List Candle × ℕ)}
    {parts : List (List (BlockResult ρ))}
    (h : List.Forall₂ (SegmentRan env blockCount) entries parts) :
    TradesWithin (parts.flatten.flatMap BlockResult.trades) (entries.map Prod.fst).flatten := by
  induction h with
  | nil => exact .nil _
  | cons hpart _ ih =>
      rw [List.flatten_cons, List.flatMap_append, List.map_cons, List.flatten_cons]
      exact (hpart.within hcount).append ih

/-- The segments an evaluation that returns has run, and what each contributed. -/
theorem exists_parts {stepMs : ℤ} {journal journal' : Journal}
    {result : CandidateBlockedChronologicalResult ρ}
    (h : runCandidateBlockedChronologicalEvaluation env stepMs candles journal blockCount =
      .ok (result, journal')) :
    0 < blockCount ∧ ∃ segments parts, result.blocks = parts.flatten ∧
      List.Forall₂ (SegmentRan env blockCount) (segments.zipIdx 0) parts ∧
      ((candles = [] ∧ segments = []) ∨
        ∃ gaps, partitionIntoSegments stepMs candles = .ok ⟨segments, gaps⟩) := by
  unfold runCandidateBlockedChronologicalEvaluation at h
  rcases exists_of_bind_ok h with ⟨-, -, h⟩
  by_cases hzero : blockCount = 0
  · simp [hzero] at h
  rw [if_neg hzero] at h
  refine ⟨Nat.pos_of_ne_zero hzero, ?_⟩
  by_cases hnone : candles.isEmpty = true
  · rw [if_pos hnone] at h
    cases h
    exact ⟨[], [], rfl, .nil, Or.inl ⟨List.isEmpty_iff.1 hnone, rfl⟩⟩
  rw [if_neg hnone] at h
  rcases exists_of_bind_ok h with ⟨segmentation, hpartition, h⟩
  rcases exists_of_bind_ok h with ⟨⟨blocks, s⟩, hblocks, h⟩
  cases h
  have hsegmentation : partitionIntoSegments stepMs candles = .ok segmentation := by
    cases hcases : partitionIntoSegments stepMs candles with
    | error e =>
        rw [hcases] at hpartition
        cases hpartition
    | ok found =>
        rw [hcases] at hpartition
        cases hpartition
        rfl
  rcases evaluateBlockedSegments_cases (Nat.pos_of_ne_zero hzero) segmentation.segments 0
      (⟨journal, []⟩ : EvaluationState) with ⟨e, heq, -⟩ | ⟨parts, s', heq, hparts⟩
  · rw [heq] at hblocks
    cases hblocks
  · rw [heq] at hblocks
    cases hblocks
    exact ⟨segmentation.segments, parts, rfl, hparts, Or.inr ⟨segmentation.gaps, hsegmentation⟩⟩

/-- Over ordered candles the trades of an evaluation, block by block, are within the candles. -/
theorem evaluated_trades_within {stepMs : ℤ} (hordered : Ordered candles)
    {journal journal' : Journal} {result : CandidateBlockedChronologicalResult ρ}
    (h : runCandidateBlockedChronologicalEvaluation env stepMs candles journal blockCount =
      .ok (result, journal')) :
    TradesWithin (result.blocks.flatMap BlockResult.trades) candles := by
  rcases exists_parts h with ⟨hcount, segments, parts, hblocks, hparts, hsegments⟩
  have hwithin := within_of_parts hcount hparts
  rw [← hblocks, List.zipIdx_map_fst] at hwithin
  have hflatten : segments.flatten = candles := by
    rcases hsegments with ⟨rfl, rfl⟩ | ⟨gaps, hpartition⟩
    · rfl
    · by_cases hnone : candles = []
      · subst hnone
        simp [partitionIntoSegments] at hpartition
      · rw [partitionIntoSegments_of_ordered hordered hnone] at hpartition
        cases hpartition
        exact List.flatten_splitBy _ _
  rwa [hflatten] at hwithin

end Times

end TradingAgent
