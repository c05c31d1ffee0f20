import TradingAgent.Research.ScheduleGrid

/-!
# Schedule safety — a schedule is built, and safe to apply

* `fixed_duration_schedule_safe`: on candles that do not overlap a schedule is always built, its
  windows tile the tradable spans, and every strategy it is anchored for is run on the same blocks;
* `fixed_duration_counts_agree`: the default mode, the schedule of a strategy's own warm-up and the
  block count find the same blocks.
-/

namespace TradingAgent

/-- What an evaluation is given: candles in order, each one step long, all before the cutoff. -/
structure ResearchCandles (stepMs : ℤ) (candles : List Candle) : Prop where
  ordered : Ordered candles
  closes : ∀ c ∈ candles, c.closeTimeMs = c.openTimeMs + stepMs - 1
  preCutoff : ∀ c ∈ candles, c.openTimeMs < researchCutoffMs
  lastEnds : ∀ last ∈ candles.getLast?, last.openTimeMs + stepMs ≤ researchCutoffMs

/-- Each candle closes before the next one opens. -/
def NoOverlap (candles : List Candle) : Prop :=
  candles.Pairwise fun a b => a.closeTimeMs < b.openTimeMs

instance (candles : List Candle) : Decidable (NoOverlap candles) :=
  inferInstanceAs (Decidable (candles.Pairwise _))

section Segments

variable {stepMs : ℤ} {candles : List Candle}

theorem ResearchCandles.allOnGrid (h : ResearchCandles stepMs candles) :
    AllOnGrid stepMs (segmentsOf stepMs candles) := by
  intro segment hmem
  rcases exists_onGrid hmem h.closes with ⟨startMs, g⟩
  exact g.start

theorem ResearchCandles.mem_of_segment (segment : List Candle)
    (hmem : segment ∈ segmentsOf stepMs candles) : ∀ c ∈ segment, c ∈ candles := by
  intro c hc
  rw [← List.flatten_splitBy (adjacent stepMs) candles]
  exact List.mem_flatten.2 ⟨segment, hmem, hc⟩

/-- The segments of candles that do not overlap follow one another. -/
theorem ResearchCandles.separated (h : ResearchCandles stepMs candles)
    (hapart : NoOverlap candles) : Separated stepMs (segmentsOf stepMs candles) := by
  have hflat : (segmentsOf stepMs candles).flatten.Pairwise
      fun a b => a.closeTimeMs < b.openTimeMs := by
    rw [segmentsOf, List.flatten_splitBy]
    exact hapart
  have hgrid := h.allOnGrid
  refine List.Pairwise.imp_of_mem ?_ (List.pairwise_flatten.1 hflat).2
  intro a b ha hb hbefore
  rcases (hgrid a ha).last with ⟨last, hlast, -, hclose⟩
  rcases (hgrid b hb).head with ⟨first, hfirst, hopen⟩
  have hlt := hbefore last (List.mem_of_getLast? hlast) first (List.mem_of_head? hfirst)
  rw [hclose, hopen] at hlt
  linarith

/-- No segment goes beyond the cutoff. -/
theorem ResearchCandles.segment_end_le (h : ResearchCandles stepMs candles) {segment : List Candle}
    (hmem : segment ∈ segmentsOf stepMs candles) :
    segmentStart segment + segment.length * stepMs ≤ researchCutoffMs := by
  rcases (h.allOnGrid segment hmem).last with ⟨last, hlast, hopen, -⟩
  have hin : last ∈ candles :=
    ResearchCandles.mem_of_segment segment hmem last (List.mem_of_getLast? hlast)
  have hne : candles ≠ [] := List.ne_nil_of_mem hin
  -- no candle opens after the last one of the list
  have hle : last.openTimeMs ≤ (candles.getLast hne).openTimeMs := by
    rcases List.mem_iff_getElem.1 hin with ⟨i, hi, rfl⟩
    rw [List.getLast_eq_getElem]
    rcases Nat.lt_or_ge i (candles.length - 1) with hlt | hge
    · exact (List.pairwise_iff_getElem.1 h.ordered i _ hi (by omega) hlt).le
    · have hsame : i = candles.length - 1 := by omega
      simp [hsame]
  have hcut := h.lastEnds (candles.getLast hne) (List.getLast?_eq_some_getLast hne)
  linarith

end Segments

/-! ## Validation -/

section Validation

theorem validateWindows_eq_ok {expectedMs : ℤ} {windows : List ScheduledBlockWindow}
    (hlength : ∀ w ∈ windows, w.windowEndTimeMs - w.windowStartTimeMs = expectedMs)
    (hcutoff : ∀ w ∈ windows, w.windowEndTimeMs ≤ researchCutoffMs) :
    validateWindows expectedMs windows = .ok () := by
  induction windows with
  | nil => rfl
  | cons w rest ih =>
      have hhere : validateWindow expectedMs w = .ok () := by
        have hends := hcutoff w (List.mem_cons_self ..)
        simp [validateWindow, hlength w (List.mem_cons_self ..), not_lt.2 hends]
      have hlater := ih (fun v hv => hlength v (List.mem_cons_of_mem _ hv))
        (fun v hv => hcutoff v (List.mem_cons_of_mem _ hv))
      simp [validateWindows, hhere, hlater, bind, Except.bind]

theorem validateDisjoint_eq_ok {windows : List ScheduledBlockWindow}
    (h : windows.Pairwise fun a b => a.windowEndTimeMs ≤ b.windowStartTimeMs) :
    validateDisjoint windows = .ok () := by
  induction windows with
  | nil => rfl
  | cons w rest ih =>
      cases rest with
      | nil => rfl
      | cons v rest =>
          rcases List.pairwise_cons.1 h with ⟨hfirst, hrest⟩
          have hle := hfirst v (List.mem_cons_self ..)
          simp only [validateDisjoint, gt_iff_lt, if_neg (not_lt.2 hle)]
          exact ih hrest

/-- Windows in order that do not overlap pass the check. -/
theorem validateSchedule_eq_ok {schedule : FixedDurationBlockSchedule}
    (hlength : ∀ w ∈ schedule.windows,
      w.windowEndTimeMs - w.windowStartTimeMs = schedule.blockDurationDays * dayMs)
    (hcutoff : ∀ w ∈ schedule.windows, w.windowEndTimeMs ≤ researchCutoffMs)
    (hdisjoint : schedule.windows.Pairwise fun a b => a.windowEndTimeMs ≤ b.windowStartTimeMs) :
    validateSchedule schedule = .ok () := by
  have hsorted : schedule.windows.Pairwise fun a b => a.windowStartTimeMs ≤ b.windowStartTimeMs := by
    refine List.Pairwise.imp_of_mem ?_ hdisjoint
    intro a b ha _ hle
    have hday : (0 : ℤ) ≤ schedule.blockDurationDays * dayMs :=
      mul_nonneg (Int.natCast_nonneg _) (by decide)
    have hlen := hlength a ha
    linarith
  simp only [validateSchedule, validateWindows_eq_ok hlength hcutoff, hsorted.insertionSort_eq,
    validateDisjoint_eq_ok hdisjoint, bind, Except.bind]

end Validation

/-! ## A schedule is built -/

section Build

variable {stepMs : ℤ} {candles : List Candle} {anchor days per : ℕ}

/-- A schedule is its grid, checked once more. -/
theorem buildFixedDurationSchedule_eq (h : ResearchCandles stepMs candles)
    (l : BlockLength stepMs days per) (hanchor : 0 < anchor) (hdays : 0 < days) :
    ∃ schedule : FixedDurationBlockSchedule,
      schedule.blockDurationDays = days ∧
      schedule.windows = overSegments (gridWindows stepMs per (anchor - 1)) 0
        (segmentsOf stepMs candles) ∧
      schedule.leftovers = overSegments (gridLeftovers stepMs per (anchor - 1)) 0
        (segmentsOf stepMs candles) ∧
      buildFixedDurationSchedule stepMs candles anchor days =
        (validateSchedule schedule).map fun _ => schedule := by
  have hcut : preCutoff candles = .ok () := by
    rw [preCutoff, (assertPreCutoff_eq_ok_iff candles).2 h.preCutoff]
    rfl
  cases candles with
  | nil =>
      refine ⟨⟨days, anchor, [], [], []⟩, rfl, rfl, rfl, ?_⟩
      simp [buildFixedDurationSchedule, hcut, hanchor.ne', hdays.ne', validateSchedule,
        validateWindows, validateDisjoint, bind, Except.bind, Except.map]
  | cons c rest =>
      have hpart : partitionIntoSegments stepMs (c :: rest) = _ :=
        partitionIntoSegments_of_ordered h.ordered (List.cons_ne_nil c rest)
      rcases scheduleSegments_eq h.allOnGrid l hanchor 0 with ⟨fragments, hparts⟩
      refine ⟨⟨days, anchor, _, fragments, _⟩, rfl, rfl, rfl, ?_⟩
      simp only [buildFixedDurationSchedule, hcut, if_neg hanchor.ne', if_neg hdays.ne',
        List.isEmpty_cons, Bool.false_eq_true, if_false, hpart, raisedBy, Except.mapError, hparts,
        bind, Except.bind]
      cases validateSchedule _ <;> rfl

theorem exists_schedule (h : ResearchCandles stepMs candles) (hapart : NoOverlap candles)
    (l : BlockLength stepMs days per) (hanchor : 0 < anchor) (hdays : 0 < days) :
    ∃ schedule : FixedDurationBlockSchedule,
      buildFixedDurationSchedule stepMs candles anchor days = .ok schedule ∧
      schedule.blockDurationDays = days ∧
      schedule.windows = overSegments (gridWindows stepMs per (anchor - 1)) 0
        (segmentsOf stepMs candles) ∧
      schedule.leftovers = overSegments (gridLeftovers stepMs per (anchor - 1)) 0
        (segmentsOf stepMs candles) := by
  rcases buildFixedDurationSchedule_eq h l hanchor hdays with
    ⟨schedule, hlength, hwindows, hleftovers, hbuild⟩
  refine ⟨schedule, ?_, hlength, hwindows, hleftovers⟩
  have hinside : ∀ w ∈ schedule.windows,
      w.windowEndTimeMs - w.windowStartTimeMs = days * dayMs ∧
        w.windowEndTimeMs ≤ researchCutoffMs := by
    intro w hw
    rw [hwindows] at hw
    rcases mem_overSegments hw with ⟨k, segment, hk, hmem⟩
    rcases gridWindows_inside l hmem with ⟨-, hend, hduration⟩
    exact ⟨hduration, hend.trans (h.segment_end_le (List.mem_of_getElem? hk))⟩
  have hvalid : validateSchedule schedule = .ok () := by
    apply validateSchedule_eq_ok
    · intro w hw
      rw [hlength]
      exact (hinside w hw).1
    · intro w hw
      exact (hinside w hw).2
    · rw [hwindows]
      exact pairwise_windows l (h.separated hapart) (anchor - 1) 0
  rw [hbuild, hvalid]
  rfl

end Build

/-! ## Tiling -/

/-- What follows the last block, up to the end of its segment: nothing, or less than one block. -/
def LeftoverFills (blockMs startMs endMs : ℤ) (leftovers : List LeftoverPartialWindow) : Prop :=
  (leftovers = [] ∧ startMs = endMs) ∨
    ∃ rest, leftovers = [rest] ∧ rest.windowStartTimeMs = startMs ∧
      rest.windowEndTimeMs + 1 = endMs ∧ rest.durationDays = (endMs - startMs : ℤ) / dayMs ∧
      startMs < endMs ∧ endMs - startMs < blockMs

/-- The windows and then the leftover cover a span, without a hole and without an overlap. -/
structure TilesSpan (blockMs startMs endMs : ℤ) (windows : List ScheduledBlockWindow)
    (leftovers : List LeftoverPartialWindow) : Prop where
  first : ∀ w ∈ windows.head?, w.windowStartTimeMs = startMs
  consecutive : windows.IsChain fun a b => a.windowEndTimeMs = b.windowStartTimeMs
  last : ∀ w ∈ windows.getLast?, LeftoverFills blockMs w.windowEndTimeMs endMs leftovers

section Tiling

variable {stepMs : ℤ} {days per first segIdx : ℕ} {segment : List Candle}

theorem gridLeftovers_fills (l : BlockLength stepMs days per) (hfirst : first ≤ segment.length)
    (hblocks : (segment.length - first) / per ≠ 0) :
    LeftoverFills (days * dayMs)
      (segmentStart segment + (first + (segment.length - first) / per * per : ℕ) * stepMs)
      (segmentStart segment + segment.length * stepMs)
      (gridLeftovers stepMs per first segIdx segment) := by
  have hle := blocks_end_le per first segment.length hfirst
  by_cases hrest : segment.length ≤ first + (segment.length - first) / per * per
  · left
    have hidx : first + (segment.length - first) / per * per = segment.length := by omega
    refine ⟨?_, by rw [hidx]⟩
    simp [gridLeftovers, hrest]
  · right
    have hcond : ¬ ((segment.length - first) / per = 0 ∨
        segment.length ≤ first + (segment.length - first) / per * per) := by
      rintro (h | h)
      · exact hblocks h
      · exact hrest h
    have hdiff : segmentStart segment + segment.length * stepMs -
        (segmentStart segment + (first + (segment.length - first) / per * per : ℕ) * stepMs) =
          (segment.length - (first + (segment.length - first) / per * per) : ℕ) * stepMs := by
      rw [Nat.cast_sub hle]
      ring
    -- the rest is a remainder of a division by the block
    have hshort : segment.length - (first + (segment.length - first) / per * per) < per := by
      have hmod := Nat.mod_lt (segment.length - first) l.per_pos
      have hdiv := Nat.div_add_mod' (segment.length - first) per
      omega
    refine ⟨_, if_neg hcond, rfl, by ring, ?_, ?_, ?_⟩
    · rw [hdiff]
    · have hpos : (0 : ℤ) < (segment.length - (first + (segment.length - first) / per * per) : ℕ) *
          stepMs := by
        apply mul_pos _ l.step_pos
        exact_mod_cast (by omega :
          0 < segment.length - (first + (segment.length - first) / per * per))
      linarith
    · rw [hdiff, l.eq]
      apply mul_lt_mul_of_pos_right _ l.step_pos
      exact_mod_cast hshort

/-- Within a segment that has a block, the blocks and the leftover cover the tradable span. -/
theorem tilesSpan_grid (l : BlockLength stepMs days per) (hfirst : first ≤ segment.length) :
    TilesSpan (days * dayMs) (segmentStart segment + first * stepMs)
      (segmentStart segment + segment.length * stepMs)
      (gridWindows stepMs per first segIdx segment)
      (gridLeftovers stepMs per first segIdx segment) := by
  constructor
  · intro w hw
    cases hblocks : (segment.length - first) / per with
    | zero => simp [gridWindows, hblocks] at hw
    | succ blocks =>
        simp only [gridWindows, hblocks, List.range_succ_eq_map, List.map_cons, List.head?_cons,
          Option.mem_some_iff] at hw
        simp [← hw, gridWindow]
  · refine List.isChain_iff_getElem.2 ?_
    intro i hi
    simp [gridWindows, gridWindow]
  · intro w hw
    cases hblocks : (segment.length - first) / per with
    | zero => simp [gridWindows, hblocks] at hw
    | succ blocks =>
        have hfills : LeftoverFills (days * dayMs) _ _
          (gridLeftovers stepMs per first segIdx segment) := gridLeftovers_fills l hfirst (by omega)
        simp only [gridWindows, hblocks, List.range_succ, List.map_append, List.map_cons,
          List.map_nil, List.getLast?_concat, Option.mem_some_iff] at hw
        simpa [← hw, gridWindow, hblocks] using hfills

end Tiling

/-! ## A schedule is applied -/

/-- A window of a schedule is the candles from `a` up to `b` of a segment, after `warmUp` others. -/
def ResolvesTo (stepMs : ℤ) (segments : List (List Candle)) (warmUp per : ℕ)
    (w : ScheduledBlockWindow) (a : ℕ) : Prop :=
  ∃ segment, segments[w.segmentIndex]? = some segment ∧
    OnGrid stepMs (segmentStart segment) segment ∧ warmUp ≤ a ∧ a + per ≤ segment.length ∧
    w = gridWindow stepMs (segmentStart segment) w.segmentIndex w.blockIndex a (a + per)

/-- `b` is the result of running a candidate over the window `w`. -/
structure RanOver {ρ : Type} (stepMs : ℤ) (env : DurationEnv ρ) (segments : List (List Candle))
    (w : ScheduledBlockWindow) (b : BlockResult ρ) : Prop where
  segmentIndex : b.block.segmentIndex = w.segmentIndex
  blockIndex : b.block.blockIndex = w.blockIndex
  windowStart : b.block.windowStartTimeMs = some w.windowStartTimeMs
  windowEnd : b.block.windowEndTimeMs = some (w.windowEndTimeMs - 1)
  candleCount : b.block.candleCount * stepMs = w.windowEndTimeMs - w.windowStartTimeMs
  notSkipped : b.block.skippedReason = none
  warmUpCount : b.block.warmUpCandleCount = env.minRequired - 1
  /-- The warm-up and the window are candles of one segment, next to each other. -/
  ran : ∃ segment a, segments[w.segmentIndex]? = some segment ∧ env.minRequired - 1 ≤ a ∧
    segment[a]?.map Candle.openTimeMs = some w.windowStartTimeMs ∧
    segment[a - (env.minRequired - 1)]?.map Candle.openTimeMs = b.block.warmUpStartTimeMs ∧
    ∃ journal result journal',
      runSegment env.runEnv
        ((segment.take (a + b.block.candleCount)).drop (a - (env.minRequired - 1)))
        env.config.backtest.startingEquity journal = .ok (result, journal') ∧
      b.trades = result.trades

section Apply

variable {ρ : Type} {env : DurationEnv ρ} {stepMs : ℤ} {days per anchor : ℕ}
  {segments : List (List Candle)} {segment : List Candle}

/-- A window on the grid is looked up without a loss, whatever the mode. -/
theorem evaluateDurationBlock_grid (g : OnGrid stepMs (segmentStart segment) segment)
    (hstep : 0 < stepMs) {segIdx blockIdx a b : ℕ} (hab : a < b) (hb : b ≤ segment.length)
    (hwarmUp : env.minRequired - 1 ≤ a) (strict : Bool) (s : EvaluationState) :
    evaluateDurationBlock env segment segIdx blockIdx (segmentStart segment + a * stepMs)
        (segmentStart segment + b * stepMs) strict s =
      runDurationBlock env segment segIdx blockIdx (a - (env.minRequired - 1)) a b s := by
  rcases g.last with ⟨last, hlast, -, hclose⟩
  have hstart := g.bisectLeft hstep (Nat.zero_le a) (hab.le.trans hb)
  have hend := g.bisectLeft hstep hab.le hb
  -- a window that ends with the segment does not run past it
  have hwithin : (decide (b = segment.length) && segment.getLast?.all fun last =>
      decide (last.closeTimeMs + 1 < segmentStart segment + b * stepMs)) = false := by
    by_cases hbn : b = segment.length
    · simp [hlast, hclose, hbn]
    · simp [hbn]
  simp only [evaluateDurationBlock, hstart, hend, hwithin, Bool.false_eq_true, or_false,
    if_neg (not_le.2 hab), if_neg (not_lt.2 hwarmUp)]

/-- A block that has run ran over its window. -/
theorem ranOver_of_runDurationBlock {w : ScheduledBlockWindow} {a : ℕ} (hper : 0 < per)
    (hw : segments[w.segmentIndex]? = some segment)
    (g : OnGrid stepMs (segmentStart segment) segment) (hwarmUp : env.minRequired - 1 ≤ a)
    (hb : a + per ≤ segment.length)
    (hwindow : w = gridWindow stepMs (segmentStart segment) w.segmentIndex w.blockIndex a (a + per))
    {s s' : EvaluationState} {b : BlockResult ρ}
    (h : runDurationBlock env segment w.segmentIndex w.blockIndex (a - (env.minRequired - 1)) a
      (a + per) s = .ok (b, s')) :
    RanOver stepMs env segments w b := by
  have hstart : w.windowStartTimeMs = segmentStart segment + a * stepMs := by
    rw [hwindow]
    rfl
  have hend : w.windowEndTimeMs = segmentStart segment + (a + per : ℕ) * stepMs := by
    rw [hwindow]
    rfl
  -- the window opens and closes with candles of the segment
  have hopen : segment[a]?.map Candle.openTimeMs = some w.windowStartTimeMs := by
    rw [List.getElem?_eq_getElem (by omega), Option.map_some, g.opens a (by omega), hstart]
  have hclose : segment[a + per - 1]?.map Candle.closeTimeMs = some (w.windowEndTimeMs - 1) := by
    rw [List.getElem?_eq_getElem (by omega), Option.map_some, g.closes _ (List.getElem_mem _),
      g.opens _ (by omega), hend, Nat.cast_sub (by omega)]
    congr 1
    push_cast
    ring
  simp only [runDurationBlock, raisedBy, bind, Except.bind] at h
  cases hrun : runSegment env.runEnv
      ((segment.take (a + per)).drop (a - (env.minRequired - 1)))
      env.config.backtest.startingEquity s.journal with
  | error e => simp [hrun, Except.mapError] at h
  | ok outcome =>
      simp only [hrun, Except.mapError] at h
      cases hreports : env.reports ((segment.take (a + per)).drop a) outcome.1 with
      | error e => simp [hreports] at h
      | ok reports =>
          simp only [hreports, Except.ok.injEq, Prod.mk.injEq] at h
          rcases h with ⟨rfl, -⟩
          refine ⟨rfl, rfl, hopen, hclose, ?_, rfl, rfl, segment, a, hw, hwarmUp, hopen, rfl,
            s.journal, outcome.1, outcome.2, ?_, rfl⟩
          · rw [hstart, hend, Nat.add_sub_cancel_left]
            push_cast
            ring
          · simpa using hrun

/-- An error of a block that is run is none of the schedule errors. -/
theorem runDurationBlock_error {segIdx blockIdx warmUpStartIdx startIdx endIdx : ℕ}
    {s : EvaluationState} {e : FixedDurationError}
    (h : runDurationBlock env segment segIdx blockIdx warmUpStartIdx startIdx endIdx s =
      .error e) : e.isScheduleError = false := by
  simp only [runDurationBlock, raisedBy, bind, Except.bind] at h
  cases hrun : runSegment env.runEnv ((segment.take endIdx).drop warmUpStartIdx)
      env.config.backtest.startingEquity s.journal with
  | error raised =>
      simp only [hrun, Except.mapError, Except.error.injEq] at h
      subst h
      rfl
  | ok outcome =>
      simp only [hrun, Except.mapError] at h
      cases hreports : env.reports ((segment.take endIdx).drop startIdx) outcome.1 with
      | error raised =>
          simp only [hreports, Except.error.injEq] at h
          subst h
          rfl
      | ok reports => simp [hreports] at h

/-- Windows that resolve are run one after the other, or a run fails by itself. -/
theorem evaluateWindows_spec (hstep : 0 < stepMs) (hper : 0 < per)
    {windows : List ScheduledBlockWindow}
    (h : ∀ w ∈ windows, ∃ a, ResolvesTo stepMs segments (env.minRequired - 1) per w a)
    (s : EvaluationState) :
    match evaluateWindows env segments windows s with
    | .error e => e.isScheduleError = false
    | .ok (blocks, _) => List.Forall₂ (RanOver stepMs env segments) windows blocks := by
  induction windows generalizing s with
  | nil => exact List.Forall₂.nil
  | cons w rest ih =>
      rcases h w (List.mem_cons_self ..) with ⟨a, segment, hsegment, g, hwarmUp, hb, hwindow⟩
      have hresolve : evaluateDurationBlock env segment w.segmentIndex w.blockIndex
          w.windowStartTimeMs w.windowEndTimeMs true s =
            runDurationBlock env segment w.segmentIndex w.blockIndex
              (a - (env.minRequired - 1)) a (a + per) s := by
        rw [hwindow]
        exact evaluateDurationBlock_grid g hstep (by omega) hb hwarmUp true s
      simp only [evaluateWindows, hsegment, hresolve, bind, Except.bind]
      cases hrun : runDurationBlock env segment w.segmentIndex w.blockIndex
          (a - (env.minRequired - 1)) a (a + per) s with
      | error e => exact runDurationBlock_error hrun
      | ok outcome =>
          have hhere := ranOver_of_runDurationBlock hper hsegment g hwarmUp hb hwindow hrun
          have hlater := ih (fun v hv => h v (List.mem_cons_of_mem _ hv)) outcome.2
          cases hrest : evaluateWindows env segments rest outcome.2 with
          | error e => simpa [hrest] using hlater
          | ok others =>
              simp only [hrest] at hlater ⊢
              exact List.Forall₂.cons hhere hlater

/-- Each window of a schedule resolves, for every candidate it is anchored for. -/
theorem resolvesTo_of_mem (hgrid : AllOnGrid stepMs segments) (hwarmUp : env.minRequired ≤ anchor)
    {w : ScheduledBlockWindow}
    (hw : w ∈ overSegments (gridWindows stepMs per (anchor - 1)) 0 segments) :
    ∃ a, ResolvesTo stepMs segments (env.minRequired - 1) per w a := by
  rcases mem_overSegments hw with ⟨i, segment, hi, hmem⟩
  rw [Nat.zero_add] at hmem
  rcases List.mem_map.1 hmem with ⟨k, hk, rfl⟩
  have hend := block_end_le (List.mem_range.1 hk)
  have hsucc : anchor - 1 + (k + 1) * per = anchor - 1 + k * per + per := by ring
  refine ⟨anchor - 1 + k * per, segment, hi, hgrid segment (List.mem_of_getElem? hi), by omega,
    by omega, ?_⟩
  simp only [gridWindow, hsucc]

/-- What running blocks over windows tells of each: its start, its end and its candles. -/
theorem blocks_eq_of_ranOver (hstep : 0 < stepMs) {windows : List ScheduledBlockWindow}
    {blocks : List (BlockResult ρ)}
    (h : List.Forall₂ (RanOver stepMs env segments) windows blocks) :
    blocks.map (fun b => (b.block.windowStartTimeMs, b.block.windowEndTimeMs,
        (b.block.candleCount : ℤ))) =
      windows.map fun w => (some w.windowStartTimeMs, some (w.windowEndTimeMs - 1),
        (w.windowEndTimeMs - w.windowStartTimeMs) / stepMs) := by
  induction h with
  | nil => rfl
  | cons hran _ ih =>
      have hcount := Int.ediv_eq_of_eq_mul_left hstep.ne' hran.candleCount.symm
      rw [List.map_cons, List.map_cons, ih, hran.windowStart, hran.windowEnd, hcount]

end Apply

/-- The candidate's run over a schedule either fails by itself, or ran over each window. -/
def AppliesSafely {ρ : Type} (stepMs : ℤ) (env : DurationEnv ρ) (candles : List Candle)
    (schedule : FixedDurationBlockSchedule) (journal : Journal) : Prop :=
  match runCandidateFixedDurationEvaluation stepMs env candles schedule.blockDurationDays
      (some schedule) journal with
  | .error e => e.isScheduleError = false
  | .ok (result, _) =>
      List.Forall₂ (RanOver stepMs env (segmentsOf stepMs candles)) schedule.windows
          result.blocks ∧
        result.blocks.map (fun b => (b.block.windowStartTimeMs, b.block.windowEndTimeMs,
            (b.block.candleCount : ℤ))) =
          schedule.windows.map fun w => (some w.windowStartTimeMs, some (w.windowEndTimeMs - 1),
            (w.windowEndTimeMs - w.windowStartTimeMs) / stepMs)

section Safety

variable {stepMs : ℤ} {candles : List Candle} {anchor days per : ℕ}

theorem ResearchCandles.preCutoff_eq_ok (h : ResearchCandles stepMs candles) :
    TradingAgent.preCutoff candles = .ok () := by
  rw [TradingAgent.preCutoff, (assertPreCutoff_eq_ok_iff candles).2 h.preCutoff]
  rfl

theorem appliesSafely_of_windows (h : ResearchCandles stepMs candles)
    (l : BlockLength stepMs days per) (hdays : 0 < days) {schedule : FixedDurationBlockSchedule}
    (hlength : schedule.blockDurationDays = days)
    (hwindows : schedule.windows = overSegments (gridWindows stepMs per (anchor - 1)) 0
      (segmentsOf stepMs candles)) {ρ : Type} (env : DurationEnv ρ)
    (hwarmUp : env.minRequired ≤ anchor) (journal : Journal) :
    AppliesSafely stepMs env candles schedule journal := by
  cases candles with
  | nil =>
      have hnone : schedule.windows = [] := hwindows
      simp [AppliesSafely, runCandidateFixedDurationEvaluation, hlength, hdays.ne',
        h.preCutoff_eq_ok, hnone, bind, Except.bind]
  | cons c rest =>
      have hpart : partitionIntoSegments stepMs (c :: rest) = _ :=
        partitionIntoSegments_of_ordered h.ordered (List.cons_ne_nil c rest)
      have hresolves : ∀ w ∈ schedule.windows, ∃ a, ResolvesTo stepMs
          (segmentsOf stepMs (c :: rest)) (env.minRequired - 1) per w a := by
        intro w hw
        rw [hwindows] at hw
        exact resolvesTo_of_mem h.allOnGrid hwarmUp hw
      have hspec := evaluateWindows_spec l.step_pos l.per_pos hresolves ⟨journal, []⟩
      simp only [AppliesSafely, runCandidateFixedDurationEvaluation, h.preCutoff_eq_ok, hlength,
        if_neg hdays.ne', List.isEmpty_cons, Bool.false_eq_true, if_false, hpart, raisedBy,
        Except.mapError, ne_eq, not_true_eq_false, bind, Except.bind]
      cases hrun : evaluateWindows env (segmentsOf stepMs (c :: rest)) schedule.windows
          ⟨journal, []⟩ with
      | error e => simpa [hrun] using hspec
      | ok outcome =>
          simp only [hrun] at hspec ⊢
          exact ⟨hspec, blocks_eq_of_ranOver l.step_pos hspec⟩

/-- **Schedule safety.**  On candles in order that do not overlap, a schedule is always built.  Its
windows are disjoint, each of the block's length and inside one segment; in a segment that has one
they cover the tradable span together with the leftover; and every candidate that needs no more
warm-up than the schedule is anchored for runs over the same blocks. -/
theorem fixed_duration_schedule_safe (hstep : 0 < stepMs) (hday : stepMs ∣ dayMs)
    (h : ResearchCandles stepMs candles) (hapart : NoOverlap candles) (hanchor : 0 < anchor)
    (hdays : 0 < days) :
    ∃ schedule, buildFixedDurationSchedule stepMs candles anchor days = .ok schedule ∧
      (schedule.windows.Pairwise fun a b => a.windowEndTimeMs ≤ b.windowStartTimeMs) ∧
      (∀ w ∈ schedule.windows, w.windowEndTimeMs - w.windowStartTimeMs = days * dayMs ∧
        ∃ segment first last, (segmentsOf stepMs candles)[w.segmentIndex]? = some segment ∧
          segment.head? = some first ∧ segment.getLast? = some last ∧
          first.openTimeMs ≤ w.windowStartTimeMs ∧ w.windowEndTimeMs ≤ last.closeTimeMs + 1) ∧
      (∀ i segment, (segmentsOf stepMs candles)[i]? = some segment →
        schedule.windows.filter (fun w => w.segmentIndex = i) ≠ [] →
        ∃ tradable last, segment[anchor - 1]? = some tradable ∧ segment.getLast? = some last ∧
          TilesSpan (days * dayMs) tradable.openTimeMs (last.closeTimeMs + 1)
            (schedule.windows.filter fun w => w.segmentIndex = i)
            (schedule.leftovers.filter fun rest => rest.segmentIndex = i)) ∧
      ∀ (ρ : Type) (env : DurationEnv ρ), env.minRequired ≤ anchor → ∀ journal,
        AppliesSafely stepMs env candles schedule journal := by
  -- the blocks of a duration have a fixed number of candles, as the candles lie on a grid
  rcases exists_blockLength hstep hday hdays with ⟨per, l⟩
  rcases exists_schedule h hapart l hanchor hdays with
    ⟨schedule, hbuild, hlength, hwindows, hleftovers⟩
  refine ⟨schedule, hbuild, ?_, ?_, ?_, ?_⟩
  · rw [hwindows]
    exact pairwise_windows l (h.separated hapart) (anchor - 1) 0
  · intro w hw
    rw [hwindows] at hw
    rcases mem_overSegments hw with ⟨i, segment, hi, hmem⟩
    rw [Nat.zero_add] at hmem
    have g := h.allOnGrid segment (List.mem_of_getElem? hi)
    rcases g.head with ⟨first, hfirst, hopen⟩
    rcases g.last with ⟨last, hlast, -, hclose⟩
    rcases gridWindows_inside l hmem with ⟨hfrom, hto, hduration⟩
    refine ⟨hduration, segment, first, last, ?_, hfirst, hlast, by linarith, by linarith⟩
    rw [segmentIndex_of_mem_gridWindows hmem]
    exact hi
  · intro i segment hi hsome
    have hfound : schedule.windows.filter (fun w => w.segmentIndex = i) =
        gridWindows stepMs per (anchor - 1) i segment := by
      have hindex : ∀ i s, ∀ w ∈ gridWindows stepMs per (anchor - 1) i s, w.segmentIndex = i :=
        fun _ _ _ hw => segmentIndex_of_mem_gridWindows hw
      have hfilter := filter_overSegments hindex (i := 0) hi
      simpa [hwindows] using hfilter
    have hrest : schedule.leftovers.filter (fun rest => rest.segmentIndex = i) =
        gridLeftovers stepMs per (anchor - 1) i segment := by
      have hindex : ∀ i s, ∀ rest ∈ gridLeftovers stepMs per (anchor - 1) i s,
          rest.segmentIndex = i := fun _ _ _ hrest => segmentIndex_of_mem_gridLeftovers hrest
      have hfilter := filter_overSegments hindex (i := 0) hi
      simpa [hleftovers] using hfilter
    rw [hfound] at hsome
    have hfits : anchor - 1 < segment.length := by
      by_contra hshort
      have hnone : segment.length - (anchor - 1) = 0 := by omega
      exact hsome (by simp [gridWindows, hnone])
    have g := h.allOnGrid segment (List.mem_of_getElem? hi)
    rcases g.last with ⟨last, hlast, -, hclose⟩
    refine ⟨segment[anchor - 1], last, List.getElem?_eq_getElem hfits, hlast, ?_⟩
    rw [hfound, hrest, g.opens _ hfits, hclose, sub_add_cancel]
    exact tilesSpan_grid l hfits.le
  · intro ρ env hwarmUp journal
    exact appliesSafely_of_windows h l hdays hlength hwindows env hwarmUp journal

end Safety

namespace Scenario

/-- A candle of one day. -/
def dayCandle (openTimeMs : ℤ) : Candle where
  symbol := "BTCUSDT"
  interval := "1d"
  openTimeMs := openTimeMs
  closeTimeMs := openTimeMs + dayMs - 1
  «open» := 100
  high := 110
  low := 90
  close := 105
  volume := 1

/-- Three days, with the second one missing. -/
def threeDays : List Candle := [dayCandle 0, dayCandle (2 * dayMs), dayCandle (3 * dayMs)]

theorem threeDays_research : ResearchCandles dayMs threeDays where
  ordered := by decide
  closes := by decide
  preCutoff := by decide
  lastEnds := by decide

/-- Two candles of one day that open half a day apart. -/
def halfDayApart : List Candle := [dayCandle 0, dayCandle (dayMs / 2)]

end Scenario

/-- Over two segments, the second one with two blocks. -/
theorem fixed_duration_schedule_safe_threeDays :
    ∃ schedule, buildFixedDurationSchedule dayMs Scenario.threeDays 1 1 = .ok schedule ∧
      (schedule.windows.Pairwise fun a b => a.windowEndTimeMs ≤ b.windowStartTimeMs) ∧
      (∀ w ∈ schedule.windows, w.windowEndTimeMs - w.windowStartTimeMs = (1 : ℕ) * dayMs ∧
        ∃ segment first last,
          (segmentsOf dayMs Scenario.threeDays)[w.segmentIndex]? = some segment ∧
          segment.head? = some first ∧ segment.getLast? = some last ∧
          first.openTimeMs ≤ w.windowStartTimeMs ∧ w.windowEndTimeMs ≤ last.closeTimeMs + 1) ∧
      (∀ i segment, (segmentsOf dayMs Scenario.threeDays)[i]? = some segment →
        schedule.windows.filter (fun w => w.segmentIndex = i) ≠ [] →
        ∃ tradable last, segment[1 - 1]? = some tradable ∧ segment.getLast? = some last ∧
          TilesSpan ((1 : ℕ) * dayMs) tradable.openTimeMs (last.closeTimeMs + 1)
            (schedule.windows.filter fun w => w.segmentIndex = i)
            (schedule.leftovers.filter fun rest => rest.segmentIndex = i)) ∧
      ∀ (ρ : Type) (env : DurationEnv ρ), env.minRequired ≤ 1 → ∀ journal,
        AppliesSafely dayMs env Scenario.threeDays schedule journal :=
  fixed_duration_schedule_safe (by decide) (dvd_refl dayMs) Scenario.threeDays_research (by decide)
    Nat.one_pos Nat.one_pos

/-- Without `NoOverlap` the two candles are two segments whose windows overlap, and the build
refuses the schedule. -/
theorem halfDayApart_schedule_refused :
    ResearchCandles dayMs Scenario.halfDayApart ∧
      buildFixedDurationSchedule dayMs Scenario.halfDayApart 1 1 =
        .error (.overlap ⟨0, 0, 0, dayMs⟩ ⟨1, 0, dayMs / 2, dayMs / 2 + dayMs⟩) :=
  ⟨⟨by decide, by decide, by decide, by decide⟩, by decide +kernel⟩

/-! ## The default mode -/

section DefaultMode

variable {ρ : Type} {env : DurationEnv ρ} {stepMs : ℤ} {days per : ℕ}
  {segments : List (List Candle)} {segment : List Candle}

theorem evaluateWindows_append (env : DurationEnv ρ) (segments : List (List Candle))
    (ws others : List ScheduledBlockWindow) (s : EvaluationState) :
    evaluateWindows env segments (ws ++ others) s = (do
      let (blocks, s') ← evaluateWindows env segments ws s
      let (rest, s'') ← evaluateWindows env segments others s'
      .ok (blocks ++ rest, s'')) := by
  induction ws generalizing s with
  | nil =>
      simp only [List.nil_append, evaluateWindows, bind, Except.bind]
      cases evaluateWindows env segments others s <;> rfl
  | cons w ws ih =>
      simp only [List.cons_append, evaluateWindows]
      cases segments[w.segmentIndex]? with
      | none => rfl
      | some segment =>
          simp only [bind, Except.bind, ih]
          cases evaluateDurationBlock env segment w.segmentIndex w.blockIndex w.windowStartTimeMs
              w.windowEndTimeMs true s with
          | error e => rfl
          | ok outcome =>
              simp only
              cases evaluateWindows env segments ws outcome.2 with
              | error e => rfl
              | ok first =>
                  simp only
                  cases evaluateWindows env segments others first.2 <;> rfl

/-- The default mode runs the blocks of a segment that a schedule would list. -/
theorem evaluateBlocks_eq {segIdx first : ℕ} (hsegment : segments[segIdx]? = some segment)
    (g : OnGrid stepMs (segmentStart segment) segment) (l : BlockLength stepMs days per)
    (hwarmUp : env.minRequired - 1 ≤ first) (count b : ℕ)
    (hfits : first + (b + count) * per ≤ segment.length) (s : EvaluationState) :
    evaluateBlocks env segment segIdx (segmentStart segment + first * stepMs) (days * dayMs) count b
        s =
      evaluateWindows env segments ((List.range' b count).map fun k =>
        gridWindow stepMs (segmentStart segment) segIdx k (first + k * per)
          (first + (k + 1) * per)) s := by
  induction count generalizing b s with
  | zero => rfl
  | succ count ih =>
      have hper := l.per_pos
      -- in candles, block `b` is from `first + b * per` on
      have hstart : segmentStart segment + first * stepMs + b * (days * dayMs) =
          segmentStart segment + (first + b * per : ℕ) * stepMs := by
        rw [l.eq]
        push_cast
        ring
      have hend : segmentStart segment + first * stepMs + b * (days * dayMs) + days * dayMs =
          segmentStart segment + (first + (b + 1) * per : ℕ) * stepMs := by
        rw [l.eq]
        push_cast
        ring
      have hsum : first + (b + 1 + count) * per ≤ segment.length := by
        rwa [show b + 1 + count = b + (count + 1) by omega]
      have hle : first + (b + 1) * per ≤ segment.length := by
        have hmono : (b + 1) * per ≤ (b + 1 + count) * per :=
          Nat.mul_le_mul_right per (by omega)
        omega
      have hlt : first + b * per < first + (b + 1) * per := by
        have hone : (b + 1) * per = b * per + per := Nat.succ_mul b per
        omega
      have hwarm : env.minRequired - 1 ≤ first + b * per := by omega
      -- on the grid the boundaries are found at the same candles in both modes
      have hmode : evaluateDurationBlock env segment segIdx b
          (segmentStart segment + first * stepMs + b * (days * dayMs))
          (segmentStart segment + first * stepMs + b * (days * dayMs) + days * dayMs) false s =
            evaluateDurationBlock env segment segIdx b
              (segmentStart segment + (first + b * per : ℕ) * stepMs)
              (segmentStart segment + (first + (b + 1) * per : ℕ) * stepMs) true s := by
        rw [hend, hstart, evaluateDurationBlock_grid g l.step_pos hlt hle hwarm,
          evaluateDurationBlock_grid g l.step_pos hlt hle hwarm]
      simp only [evaluateBlocks, hmode, ih (b + 1) hsum, List.range'_succ, List.map_cons,
        evaluateWindows, gridWindow, hsegment]

theorem evaluateSegment_eq (env : DurationEnv ρ) {segIdx : ℕ}
    (hsegment : segments[segIdx]? = some segment)
    (g : OnGrid stepMs (segmentStart segment) segment) (l : BlockLength stepMs days per) :
    ∃ fragments, ∀ s, evaluateSegment stepMs env days segIdx segment s =
      (evaluateWindows env segments (gridWindows stepMs per (env.minRequired - 1) segIdx segment)
        s).map fun out => (⟨out.1, fragments,
          gridLeftovers stepMs per (env.minRequired - 1) segIdx segment⟩, out.2) := by
  have hpos := env.minRequiredPos
  rcases g.head with ⟨first, hfirst, -⟩
  rcases g.last with ⟨last, hlast, -, -⟩
  by_cases hshort : segment.length < env.minRequired
  · -- the segment ends before the strategy could decide
    have hnone : segment.length - (env.minRequired - 1) = 0 := by omega
    simp [evaluateSegment, hfirst, hlast, hshort, gridWindows, gridLeftovers, hnone,
      evaluateWindows, Except.map]
    exact ⟨_, fun _ => rfl⟩
  · have hspan : segmentTradableSpan segment (env.minRequired - 1) stepMs = _ :=
      g.tradableSpan (by omega)
    have hblocks := l.blocks (segment.length - (env.minRequired - 1))
    -- no whole block fits, or the blocks are those of the grid
    by_cases hzero : (segment.length - (env.minRequired - 1)) / per = 0
    · simp [evaluateSegment, hfirst, hlast, hshort, hspan, hblocks, hzero, gridWindows,
        gridLeftovers, evaluateWindows, Except.map]
      exact ⟨_, fun _ => rfl⟩
    · refine ⟨[], ?_⟩
      intro s
      have hfits : env.minRequired - 1 +
          (0 + (segment.length - (env.minRequired - 1)) / per) * per ≤ segment.length := by
        rw [Nat.zero_add]
        exact blocks_end_le per (env.minRequired - 1) segment.length (by omega)
      have hrun := evaluateBlocks_eq hsegment g l le_rfl
        ((segment.length - (env.minRequired - 1)) / per) 0 hfits s
      rw [← List.range_eq_range'] at hrun
      simp only [evaluateSegment, hfirst, hlast, if_neg hshort, hspan, hblocks, Nat.cast_eq_zero,
        if_neg hzero, Int.toNat_natCast, hrun, ← gridWindows.eq_1]
      rcases leftover_cases segIdx g l (show env.minRequired - 1 ≤ segment.length by omega) hzero
        hlast with ⟨hnot, hnone⟩ | ⟨hlt, c, hc, hone⟩
      · rw [leftoverStart] at hnot
        rw [hnone]
        simp only [if_neg hnot, bind, Except.bind]
        cases evaluateWindows env segments _ s <;> rfl
      · rw [leftoverStart] at hlt hc hone
        rw [hone]
        simp only [if_pos hlt, hc, bind, Except.bind]
        cases evaluateWindows env segments _ s <;> rfl

/-- The default mode runs the windows of a schedule for the candidate's own warm-up. -/
theorem evaluateSegments_eq (env : DurationEnv ρ) (l : BlockLength stepMs days per)
    {done rest : List (List Candle)}
    (hall : segments = done ++ rest) (hgrid : AllOnGrid stepMs rest) :
    ∃ fragments, ∀ s, evaluateSegments stepMs env days done.length rest s =
      (evaluateWindows env segments
        (overSegments (gridWindows stepMs per (env.minRequired - 1)) done.length rest) s).map
          fun out => (⟨out.1, fragments,
            overSegments (gridLeftovers stepMs per (env.minRequired - 1)) done.length rest⟩,
            out.2) := by
  induction rest generalizing done with
  | nil => exact ⟨[], fun s => rfl⟩
  | cons segment rest ih =>
      have hsegment : segments[done.length]? = some segment := by
        rw [hall]
        simp
      rcases evaluateSegment_eq env hsegment (hgrid segment (List.mem_cons_self ..)) l with
        ⟨here, hhere⟩
      have hstep : segments = (done ++ [segment]) ++ rest := by simpa using hall
      rcases ih hstep (fun s hs => hgrid s (List.mem_cons_of_mem _ hs)) with ⟨later, hlater⟩
      rw [List.length_append, List.length_singleton] at hlater
      refine ⟨here ++ later, ?_⟩
      intro s
      simp only [evaluateSegments, hhere, hlater, overSegments, evaluateWindows_append, bind,
        Except.bind, Except.map]
      cases evaluateWindows env segments _ s with
      | error e => rfl
      | ok first =>
          simp only
          cases evaluateWindows env segments _ first.2 <;> rfl

end DefaultMode

/-! ## Counting -/

section Counting

variable {stepMs : ℤ} {candles : List Candle} {anchor days per : ℕ}

/-- Adding up what each segment counts. -/
theorem foldlM_count {f : ℤ → List Candle → Except PyError ℤ} (count : List Candle → ℕ)
    {segments : List (List Candle)}
    (h : ∀ total, ∀ segment ∈ segments, f total segment = .ok (total + count segment))
    (total : ℤ) : segments.foldlM f total = .ok (total + (segments.map count).sum) := by
  induction segments generalizing total with
  | nil => simp [List.foldlM, pure, Except.pure]
  | cons segment rest ih =>
      have hrest := ih (fun t s hs => h t s (List.mem_cons_of_mem _ hs)) (total + count segment)
      rw [List.foldlM_cons, h total segment (List.mem_cons_self ..)]
      simpa [bind, Except.bind, add_assoc] using hrest

theorem length_overSegments_gridWindows (first i : ℕ) (segments : List (List Candle)) :
    (overSegments (gridWindows stepMs per first) i segments).length =
      (segments.map fun segment => (segment.length - first) / per).sum := by
  induction segments generalizing i with
  | nil => rfl
  | cons segment rest ih =>
      simp [overSegments, gridWindows, ih]

/-- The count of complete blocks is the number of windows. -/
theorem countRound3CompleteBlocks_eq (h : ResearchCandles stepMs candles)
    (l : BlockLength stepMs days per) (hanchor : 0 < anchor) (hdays : 0 < days) :
    countRound3CompleteBlocks stepMs candles anchor days =
      .ok (overSegments (gridWindows stepMs per (anchor - 1)) 0
        (segmentsOf stepMs candles)).length := by
  cases candles with
  | nil => rfl
  | cons c rest =>
      have hpart : partitionIntoSegments stepMs (c :: rest) = _ :=
        partitionIntoSegments_of_ordered h.ordered (List.cons_ne_nil c rest)
      have hblockMs : (days * dayMs : ℤ) ≠ 0 := by
        apply mul_ne_zero
        · exact_mod_cast hdays.ne'
        · decide
      simp only [countRound3CompleteBlocks, List.isEmpty_cons, Bool.false_eq_true, if_false, hpart,
        bind, Except.bind]
      -- each segment adds the number of its blocks
      rw [foldlM_count (fun segment => (segment.length - (anchor - 1)) / per),
        length_overSegments_gridWindows, zero_add]
      intro total segment hmem
      by_cases hshort : segment.length < anchor
      · have hnone : segment.length - (anchor - 1) = 0 := by omega
        simp [hshort, hnone]
      · have g := h.allOnGrid segment hmem
        rcases g.last with ⟨last, hlast, hopen, -⟩
        have hfits : anchor - 1 < segment.length := by omega
        have htradable := g.opens (anchor - 1) hfits
        have hspan : last.openTimeMs - segment[anchor - 1].openTimeMs + stepMs =
            (segment.length - (anchor - 1) : ℕ) * stepMs := by
          rw [hopen, htradable, Nat.cast_sub hfits.le]
          ring
        simp only [if_neg hshort, if_neg hanchor.ne', List.getElem?_map,
          List.getElem?_eq_getElem hfits, Option.map_some, List.getLast?_map, hlast, hspan,
          if_neg hblockMs, l.blocks]

end Counting

/-- What of an evaluation is compared between the two modes: the blocks and the leftovers, and the
journal. -/
def blocksAndLeftovers {ρ : Type} (out : CandidateFixedDurationResult ρ × Journal) :
    List (BlockResult ρ) × List LeftoverPartialWindow × Journal :=
  (out.1.blocks, out.1.leftovers, out.2)

section Agreement

variable {ρ : Type} {stepMs : ℤ} {candles : List Candle} {days : ℕ}

theorem positive_of_built {anchor : ℕ} {schedule : FixedDurationBlockSchedule}
    (h : buildFixedDurationSchedule stepMs candles anchor days = .ok schedule) : 0 < days := by
  by_contra hzero
  have hnone : days = 0 := by omega
  simp only [buildFixedDurationSchedule, hnone, bind, Except.bind] at h
  split at h
  · cases h
  · split at h <;> cases h

theorem run_default_eq (h : ResearchCandles stepMs candles) {per : ℕ}
    (l : BlockLength stepMs days per) (hdays : 0 < days) (hne : candles ≠ []) (env : DurationEnv ρ)
    (journal : Journal) :
    ∃ fragments, runCandidateFixedDurationEvaluation stepMs env candles days none journal =
      (evaluateWindows env (segmentsOf stepMs candles)
        (overSegments (gridWindows stepMs per (env.minRequired - 1)) 0 (segmentsOf stepMs candles))
        ⟨journal, []⟩).map fun out =>
          (⟨env.candidate, out.1, fragments,
            overSegments (gridLeftovers stepMs per (env.minRequired - 1)) 0
              (segmentsOf stepMs candles), out.2.warnings⟩, out.2.journal) := by
  have hpart : partitionIntoSegments stepMs candles = _ :=
    partitionIntoSegments_of_ordered h.ordered hne
  rcases evaluateSegments_eq env l (List.nil_append (segmentsOf stepMs candles)).symm
    h.allOnGrid with ⟨fragments, hrun⟩
  rw [List.length_nil] at hrun
  refine ⟨fragments, ?_⟩
  simp only [runCandidateFixedDurationEvaluation, h.preCutoff_eq_ok, if_neg hdays.ne',
    List.isEmpty_eq_false_iff.2 hne, Bool.false_eq_true, if_false, hpart, raisedBy, hrun, bind,
    Except.bind, Except.mapError]
  cases evaluateWindows env (segmentsOf stepMs candles) _ ⟨journal, []⟩ <;> rfl

theorem run_scheduled_eq (h : ResearchCandles stepMs candles) (hdays : 0 < days)
    (hne : candles ≠ []) {schedule : FixedDurationBlockSchedule}
    (hlength : schedule.blockDurationDays = days) (env : DurationEnv ρ) (journal : Journal) :
    runCandidateFixedDurationEvaluation stepMs env candles days (some schedule) journal =
      (evaluateWindows env (segmentsOf stepMs candles) schedule.windows ⟨journal, []⟩).map
        fun out => (⟨env.candidate, out.1, schedule.fragments, schedule.leftovers,
          out.2.warnings⟩, out.2.journal) := by
  have hpart : partitionIntoSegments stepMs candles = _ :=
    partitionIntoSegments_of_ordered h.ordered hne
  simp only [runCandidateFixedDurationEvaluation, h.preCutoff_eq_ok, if_neg hdays.ne', hlength,
    List.isEmpty_eq_false_iff.2 hne, Bool.false_eq_true, if_false, hpart, raisedBy, bind, ne_eq,
    not_true_eq_false, Except.bind, Except.mapError]
  cases evaluateWindows env (segmentsOf stepMs candles) schedule.windows ⟨journal, []⟩ <;> rfl

/-- No block of a schedule's windows is skipped. -/
theorem notSkipped_of_ranOver {env : DurationEnv ρ} {segments : List (List Candle)}
    {windows : List ScheduledBlockWindow} {blocks : List (BlockResult ρ)}
    (h : List.Forall₂ (RanOver stepMs env segments) windows blocks) :
    ∀ b ∈ blocks, b.block.skippedReason = none := by
  intro b hb
  rcases List.mem_iff_getElem.1 hb with ⟨i, hi, rfl⟩
  have hlen := h.length_eq
  exact (h.get (by omega) hi).notSkipped

/-- Without candles there is nothing to evaluate, with a schedule or without. -/
theorem run_no_candles (h : ResearchCandles stepMs []) (env : DurationEnv ρ) {days : ℕ}
    (hdays : days ≠ 0) (journal : Journal) (s : Option FixedDurationBlockSchedule) :
    runCandidateFixedDurationEvaluation stepMs env [] days s journal =
      .ok (⟨env.candidate, [], [], [],
        ["no pre-cutoff candles were supplied - nothing to evaluate."]⟩, journal) := by
  simp [runCandidateFixedDurationEvaluation, h.preCutoff_eq_ok, hdays, bind, Except.bind]

/-- **The three counts of blocks agree.**  A candidate's schedule is built when the candles do not
overlap.  Whenever it is built, running the candidate by itself and over the schedule give the same
blocks and leftovers, or fail alike; no block is skipped; and the block count is the number of
windows. -/
theorem fixed_duration_counts_agree (hstep : 0 < stepMs) (hday : stepMs ∣ dayMs)
    (h : ResearchCandles stepMs candles) (env : DurationEnv ρ) (journal : Journal) :
    (NoOverlap candles → 0 < days →
      ∃ schedule, buildFixedDurationSchedule stepMs candles env.minRequired days = .ok schedule) ∧
    ∀ schedule, buildFixedDurationSchedule stepMs candles env.minRequired days = .ok schedule →
      (runCandidateFixedDurationEvaluation stepMs env candles days none journal).map
          blocksAndLeftovers =
        (runCandidateFixedDurationEvaluation stepMs env candles days (some schedule) journal).map
          blocksAndLeftovers ∧
      (∀ result after,
        runCandidateFixedDurationEvaluation stepMs env candles days none journal =
          .ok (result, after) → ∀ b ∈ result.blocks, b.block.skippedReason = none) ∧
      countRound3CompleteBlocks stepMs candles env.minRequired days =
        .ok schedule.windows.length := by
  constructor
  · intro hapart hdays
    rcases exists_blockLength hstep hday hdays with ⟨per, l⟩
    rcases exists_schedule h hapart l env.minRequiredPos hdays with ⟨schedule, hbuild, -⟩
    exact ⟨schedule, hbuild⟩
  · intro schedule hbuild
    have hdays := positive_of_built hbuild
    rcases exists_blockLength hstep hday hdays with ⟨per, l⟩
    rcases buildFixedDurationSchedule_eq h l env.minRequiredPos hdays with
      ⟨built, hlength, hwindows, hleftovers, heq⟩
    have hsame : built = schedule := by
      rw [hbuild] at heq
      cases hvalid : validateSchedule built with
      | error e => simp [hvalid, Except.map] at heq
      | ok _ =>
          simp only [hvalid, Except.map, Except.ok.injEq] at heq
          exact heq.symm
    subst hsame
    have hcount := countRound3CompleteBlocks_eq h l env.minRequiredPos hdays
    rw [← hwindows] at hcount
    by_cases hne : candles = []
    · subst hne
      have hnone := run_no_candles h env hdays.ne' journal
      refine ⟨by rw [hnone, hnone], ?_, hcount⟩
      intro result after hrun b hb
      rw [hnone, Except.ok.injEq, Prod.mk.injEq] at hrun
      rw [← hrun.1] at hb
      cases hb
    · rcases run_default_eq h l hdays hne env journal with ⟨fragments, hdefault⟩
      have hscheduled := run_scheduled_eq h hdays hne hlength env journal
      rw [hwindows] at hscheduled
      have hresolves : ∀ w ∈ overSegments (gridWindows stepMs per (env.minRequired - 1)) 0
          (segmentsOf stepMs candles), ∃ a, ResolvesTo stepMs (segmentsOf stepMs candles)
            (env.minRequired - 1) per w a := fun w hw => resolvesTo_of_mem h.allOnGrid le_rfl hw
      have hspec := evaluateWindows_spec l.step_pos l.per_pos hresolves ⟨journal, []⟩
      refine ⟨?_, ?_, hcount⟩
      · rw [hdefault, hscheduled, hleftovers]
        cases evaluateWindows env (segmentsOf stepMs candles) _ ⟨journal, []⟩ <;> rfl
      · intro result after hrun
        rw [hdefault] at hrun
        cases hwindowsRun : evaluateWindows env (segmentsOf stepMs candles)
            (overSegments (gridWindows stepMs per (env.minRequired - 1)) 0
              (segmentsOf stepMs candles)) ⟨journal, []⟩ with
        | error e => simp [hwindowsRun, Except.map] at hrun
        | ok out =>
            simp only [hwindowsRun, Except.map, Except.ok.injEq, Prod.mk.injEq] at hrun hspec
            rw [← hrun.1]
            exact notSkipped_of_ranOver hspec

end Agreement

namespace Scenario

/-- A candidate that trades on every candle, with a report that counts its trades. -/
def durationEnv : DurationEnv ℕ where
  candidate := ⟨"alternating", "test", []⟩
  config := {}
  filters := filters
  strategy := alternating
  minRequired := 1
  minRequiredPos := Nat.one_pos
  minTradesForSignificance := 1
  reports := fun _ result => .ok result.trades.length

end Scenario

theorem fixed_duration_counts_agree_threeDays :
    ∃ schedule, buildFixedDurationSchedule dayMs Scenario.threeDays 1 1 = .ok schedule ∧
      countRound3CompleteBlocks dayMs Scenario.threeDays 1 1 = .ok schedule.windows.length := by
  rcases fixed_duration_counts_agree (by decide) (dvd_refl dayMs) Scenario.threeDays_research
    Scenario.durationEnv none with ⟨hbuilt, hagree⟩
  rcases hbuilt (by decide) Nat.one_pos with ⟨schedule, hbuild⟩
  exact ⟨schedule, hbuild, (hagree schedule hbuild).2.2⟩

/-- On the overlapping candles the default mode has two blocks and the count finds two, but there
is no schedule to compare them with. -/
theorem halfDayApart_counts_differ :
    ResearchCandles dayMs Scenario.halfDayApart ∧
      countRound3CompleteBlocks dayMs Scenario.halfDayApart Scenario.durationEnv.minRequired 1 =
        .ok 2 ∧
      (runCandidateFixedDurationEvaluation dayMs Scenario.durationEnv Scenario.halfDayApart 1 none
        none).toOption.map (fun out => out.1.blocks.length) = some 2 ∧
      (buildFixedDurationSchedule dayMs Scenario.halfDayApart Scenario.durationEnv.minRequired
        1).toOption = none :=
  ⟨⟨by decide, by decide, by decide, by decide⟩, by decide +kernel, by decide +kernel,
    by decide +kernel⟩

end TradingAgent
