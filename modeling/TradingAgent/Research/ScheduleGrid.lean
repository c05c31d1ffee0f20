import TradingAgent.Research.FixedDuration
import Mathlib.Tactic.Linarith
import Mathlib.Tactic.Ring

/-!
# Schedule grid — windows in time and candles by index

A gap-free segment is a grid: its candle `i` opens `i` steps after the first.  Every window of a
schedule starts and ends on that grid, so that looking it up among the candles finds whole blocks.

* `OnGrid.bisectLeft`: looking up a time on the grid finds its index;
* `scheduleSegment_eq`, `scheduleSegments_eq`: what segments contribute to a schedule, in candles;
* `pairwise_windows`: the windows of separated segments follow one another.
-/

namespace TradingAgent

/-! ## Segments on a grid -/

/-- Candle `i` opens `i` steps after `startMs`, and closes one millisecond before the next step. -/
structure OnGrid (stepMs startMs : ℤ) (segment : List Candle) : Prop where
  nonempty : segment ≠ []
  opens : ∀ i (h : i < segment.length), segment[i].openTimeMs = startMs + i * stepMs
  closes : ∀ c ∈ segment, c.closeTimeMs = c.openTimeMs + stepMs - 1

section Grid

variable {stepMs startMs : ℤ} {segment : List Candle}

theorem onGrid_of_isChain {c : Candle} {rest : List Candle}
    (hchain : (c :: rest).IsChain fun a b => adjacent stepMs a b = true)
    (hcloses : ∀ d ∈ c :: rest, d.closeTimeMs = d.openTimeMs + stepMs - 1) :
    OnGrid stepMs c.openTimeMs (c :: rest) := by
  refine ⟨List.cons_ne_nil c rest, ?_, hcloses⟩
  intro i hi
  induction i with
  | zero => simp
  | succ i ih =>
      have hprevious := ih (by omega)
      have hstep := List.isChain_iff_getElem.1 hchain i hi
      have hadjacent : (c :: rest)[i + 1].openTimeMs - (c :: rest)[i].openTimeMs = stepMs := by
        simpa [adjacent] using hstep
      calc (c :: rest)[i + 1].openTimeMs
          = (c :: rest)[i].openTimeMs + stepMs := by linarith
        _ = c.openTimeMs + (i + 1 : ℕ) * stepMs := by
            push_cast
            linarith

/-- Each segment of a partition lies on a grid. -/
theorem exists_onGrid {candles : List Candle} (hmem : segment ∈ segmentsOf stepMs candles)
    (hcloses : ∀ c ∈ candles, c.closeTimeMs = c.openTimeMs + stepMs - 1) :
    ∃ startMs, OnGrid stepMs startMs segment := by
  have hne := List.ne_nil_of_mem_splitBy hmem
  have hchain := List.isChain_of_mem_splitBy hmem
  have hsub : ∀ c ∈ segment, c ∈ candles := by
    intro c hc
    rw [← List.flatten_splitBy (adjacent stepMs) candles]
    exact List.mem_flatten.2 ⟨segment, hmem, hc⟩
  cases segment with
  | nil => exact absurd rfl hne
  | cons c rest =>
      refine ⟨c.openTimeMs, onGrid_of_isChain hchain ?_⟩
      intro d hd
      exact hcloses d (hsub d hd)

theorem OnGrid.head (g : OnGrid stepMs startMs segment) :
    ∃ first, segment.head? = some first ∧ first.openTimeMs = startMs := by
  cases segment with
  | nil => exact absurd rfl g.nonempty
  | cons c rest =>
      have hopen := g.opens 0 (by simp)
      exact ⟨c, rfl, by simpa using hopen⟩

theorem OnGrid.last (g : OnGrid stepMs startMs segment) :
    ∃ last, segment.getLast? = some last ∧ last.openTimeMs = startMs + segment.length * stepMs - stepMs ∧
      last.closeTimeMs = startMs + segment.length * stepMs - 1 := by
  have hpos : 0 < segment.length := List.length_pos_of_ne_nil g.nonempty
  have hopen := g.opens (segment.length - 1) (by omega)
  refine ⟨segment[segment.length - 1], ?_, ?_, ?_⟩
  · rw [List.getLast?_eq_getElem?]
    exact List.getElem?_eq_getElem (by omega)
  · rw [hopen, Nat.cast_sub hpos]
    ring
  · rw [g.closes _ (List.getElem_mem _), hopen, Nat.cast_sub hpos]
    ring

/-- Looking up a time on the grid finds its index. -/
theorem OnGrid.bisectLeft (g : OnGrid stepMs startMs segment) (hstep : 0 < stepMs) {lo k : ℕ}
    (hlo : lo ≤ k) (hk : k ≤ segment.length) :
    bisectLeft (segment.map Candle.openTimeMs) (startMs + k * stepMs) lo = k := by
  have hsplit : (segment.map Candle.openTimeMs).drop lo =
      ((segment.drop lo).take (k - lo)).map Candle.openTimeMs ++
        (segment.drop k).map Candle.openTimeMs := by
    rw [← List.map_drop, ← List.map_append]
    have hdrop : segment.drop k = (segment.drop lo).drop (k - lo) := by
      rw [List.drop_drop]
      congr 1
      omega
    rw [hdrop, List.take_append_drop]
  -- the candles before index `k` open earlier, those from it on do not
  have hbefore : ∀ t ∈ ((segment.drop lo).take (k - lo)).map Candle.openTimeMs,
      decide (t < startMs + k * stepMs) = true := by
    intro t ht
    rcases List.mem_map.1 ht with ⟨c, hc, rfl⟩
    rcases List.mem_iff_getElem.1 hc with ⟨i, hi, rfl⟩
    rw [List.length_take, List.length_drop] at hi
    have hopen := g.opens (lo + i) (by omega)
    rw [List.getElem_take, List.getElem_drop, hopen, decide_eq_true_eq]
    have hlt : ((lo + i : ℕ) : ℤ) * stepMs < k * stepMs := by
      apply mul_lt_mul_of_pos_right _ hstep
      exact_mod_cast (by omega : lo + i < k)
    linarith
  have hafter : ((segment.drop k).map Candle.openTimeMs).takeWhile
      (fun t => decide (t < startMs + k * stepMs)) = [] := by
    cases hcases : segment.drop k with
    | nil => rfl
    | cons c rest =>
        have hlt : k < segment.length := by
          by_contra hge
          rw [List.drop_eq_nil_of_le (by omega)] at hcases
          cases hcases
        have hc : segment[k] = c := by
          rw [List.drop_eq_getElem_cons hlt] at hcases
          exact (List.cons.inj hcases).1
        have hopen := g.opens k hlt
        rw [hc] at hopen
        simp [hopen]
  have hlength : ((segment.drop lo).take (k - lo)).length = k - lo := by
    rw [List.length_take, List.length_drop]
    omega
  calc TradingAgent.bisectLeft (segment.map Candle.openTimeMs) (startMs + k * stepMs) lo
      = lo + (((segment.drop lo).take (k - lo)).map Candle.openTimeMs ++ []).length := by
        rw [TradingAgent.bisectLeft, hsplit, List.takeWhile_append_of_pos hbefore, hafter]
    _ = k := by
        rw [List.append_nil, List.length_map, hlength]
        omega

theorem OnGrid.tradableSpan (g : OnGrid stepMs startMs segment) {first : ℕ}
    (hfirst : first < segment.length) :
    segmentTradableSpan segment first stepMs = .ok (segment.map Candle.openTimeMs,
      startMs + first * stepMs, (segment.length - first : ℕ) * stepMs) := by
  rcases g.last with ⟨last, hlast, hopen, -⟩
  have hstart : (segment.map Candle.openTimeMs)[first]? = some (startMs + first * stepMs) := by
    rw [List.getElem?_map, List.getElem?_eq_getElem hfirst, Option.map_some, g.opens first hfirst]
  have hend : (segment.map Candle.openTimeMs).getLast? = some last.openTimeMs := by
    rw [List.getLast?_map, hlast, Option.map_some]
  simp only [segmentTradableSpan, hstart, hend, hopen]
  congr 3
  rw [Nat.cast_sub hfirst.le]
  ring

end Grid

/-! ## Windows on the grid -/

def segmentStart (segment : List Candle) : ℤ :=
  (segment.head?.map Candle.openTimeMs).getD 0

theorem OnGrid.start {stepMs startMs : ℤ} {segment : List Candle}
    (g : OnGrid stepMs startMs segment) : OnGrid stepMs (segmentStart segment) segment := by
  rcases g.head with ⟨first, hhead, hopen⟩
  have hstart : segmentStart segment = startMs := by
    simp [segmentStart, hhead, hopen]
  simpa [hstart] using g

/-- The window of the candles from `a` up to `b`. -/
def gridWindow (stepMs startMs : ℤ) (segIdx blockIdx a b : ℕ) : ScheduledBlockWindow :=
  ⟨segIdx, blockIdx, startMs + a * stepMs, startMs + b * stepMs⟩

/-- The blocks of `per` candles of a segment, from its candle `first` on. -/
def gridWindows (stepMs : ℤ) (per first segIdx : ℕ) (segment : List Candle) :
    List ScheduledBlockWindow :=
  (List.range ((segment.length - first) / per)).map fun k =>
    gridWindow stepMs (segmentStart segment) segIdx k (first + k * per) (first + (k + 1) * per)

/-- What is left after the last block, in a segment that has one. -/
def gridLeftovers (stepMs : ℤ) (per first segIdx : ℕ) (segment : List Candle) :
    List LeftoverPartialWindow :=
  let blocks := (segment.length - first) / per
  let idx := first + blocks * per
  if blocks = 0 ∨ segment.length ≤ idx then []
  else
    [⟨segIdx, segmentStart segment + idx * stepMs,
      segmentStart segment + segment.length * stepMs - 1, segment.length - idx,
      ((segment.length - idx : ℕ) * stepMs : ℤ) / dayMs⟩]

/-- `f` of each segment with its index, one after the other. -/
def overSegments {α : Type} (f : ℕ → List Candle → List α) : ℕ → List (List Candle) → List α
  | _, [] => []
  | i, segment :: rest => f i segment ++ overSegments f (i + 1) rest

/-- A block of `days` days is `per` candles. -/
structure BlockLength (stepMs : ℤ) (days per : ℕ) : Prop where
  step_pos : 0 < stepMs
  per_pos : 0 < per
  eq : (days * dayMs : ℤ) = per * stepMs

theorem exists_blockLength {stepMs : ℤ} {days : ℕ} (hstep : 0 < stepMs) (hday : stepMs ∣ dayMs)
    (hdays : 0 < days) : ∃ per, BlockLength stepMs days per := by
  rcases hday with ⟨perDay, hperDay⟩
  have hpos : 0 < perDay := by
    have hdayPos : 0 < stepMs * perDay := by
      rw [← hperDay]
      decide
    exact (mul_pos_iff_of_pos_left hstep).1 hdayPos
  lift perDay to ℕ using hpos.le
  refine ⟨days * perDay, hstep, Nat.mul_pos hdays (by exact_mod_cast hpos), ?_⟩
  rw [hperDay]
  push_cast
  ring

section Windows

variable {stepMs startMs : ℤ} {days per anchor segIdx : ℕ} {segment : List Candle}

theorem BlockLength.blocks (l : BlockLength stepMs days per) (candles : ℕ) :
    ((candles : ℤ) * stepMs) / (days * dayMs) = (candles / per : ℕ) := by
  rw [l.eq, Int.mul_ediv_mul_of_pos_left _ _ l.step_pos]
  exact (Int.natCast_div candles per).symm

/-- The last block ends within the segment. -/
theorem blocks_end_le (per first n : ℕ) (hfirst : first ≤ n) :
    first + (n - first) / per * per ≤ n := by
  have hle := Nat.div_mul_le_self (n - first) per
  omega

theorem block_end_le {per first n k : ℕ} (hk : k < (n - first) / per) :
    first + (k + 1) * per ≤ n := by
  have hle : (k + 1) * per ≤ (n - first) / per * per := Nat.mul_le_mul_right per hk
  have hend := Nat.div_mul_le_self (n - first) per
  have hpos : 0 < n - first := by
    by_contra hzero
    have hnone : n - first = 0 := by omega
    simp [hnone] at hk
  omega

/-- Where the last block ends. -/
def leftoverStart (stepMs : ℤ) (days per first : ℕ) (segment : List Candle) : ℤ :=
  segmentStart segment + first * stepMs +
    ((segment.length - first) / per : ℕ) * (days * dayMs)

theorem leftoverStart_eq (l : BlockLength stepMs days per) (first : ℕ) :
    leftoverStart stepMs days per first segment = segmentStart segment +
      (first + (segment.length - first) / per * per : ℕ) * stepMs := by
  rw [leftoverStart, l.eq]
  push_cast
  ring

theorem gridWindows_eq (l : BlockLength stepMs days per) (first : ℕ) :
    gridWindows stepMs per first segIdx segment =
      (List.range ((segment.length - first) / per)).map fun (k : ℕ) =>
        ⟨segIdx, k, segmentStart segment + first * stepMs + k * (days * dayMs),
          segmentStart segment + first * stepMs + k * (days * dayMs) + days * dayMs⟩ := by
  apply List.map_congr_left
  intro k _
  simp only [gridWindow, l.eq, ScheduledBlockWindow.mk.injEq, true_and]
  constructor <;> push_cast <;> ring

/-- The candles after the last block fill the time after it. -/
theorem sub_leftoverStart (l : BlockLength stepMs days per) {first : ℕ}
    (hfirst : first ≤ segment.length) :
    (segmentStart segment + segment.length * stepMs) -
        leftoverStart stepMs days per first segment =
      (segment.length - (first + (segment.length - first) / per * per) : ℕ) * stepMs := by
  have hle := blocks_end_le per first segment.length hfirst
  calc (segmentStart segment + segment.length * stepMs) -
        leftoverStart stepMs days per first segment
      = (segment.length - (first + (segment.length - first) / per * per : ℕ) : ℤ) * stepMs := by
        rw [leftoverStart_eq l]
        ring
    _ = (segment.length - (first + (segment.length - first) / per * per) : ℕ) * stepMs := by
        rw [Nat.cast_sub hle]

/-- The first candle at or after the end of the last block is the one after its candles. -/
theorem bisectLeft_leftoverStart (g : OnGrid stepMs (segmentStart segment) segment)
    (l : BlockLength stepMs days per) {first : ℕ} (hfirst : first ≤ segment.length) :
    bisectLeft (segment.map Candle.openTimeMs) (leftoverStart stepMs days per first segment) first =
      first + (segment.length - first) / per * per := by
  rw [leftoverStart_eq l]
  exact g.bisectLeft l.step_pos (Nat.le_add_right _ _)
    (blocks_end_le per first segment.length hfirst)

/-- Either the last block ends with the segment, or the rest of it is the leftover. -/
theorem leftover_cases (segIdx : ℕ) (g : OnGrid stepMs (segmentStart segment) segment)
    (l : BlockLength stepMs days per) {first : ℕ} {last : Candle}
    (hfirst : first ≤ segment.length) (hblocks : (segment.length - first) / per ≠ 0)
    (hlast : segment.getLast? = some last) :
    (¬ leftoverStart stepMs days per first segment < last.openTimeMs + stepMs ∧
      gridLeftovers stepMs per first segIdx segment = []) ∨
    (leftoverStart stepMs days per first segment < last.openTimeMs + stepMs ∧
      ∃ c, segment[bisectLeft (segment.map Candle.openTimeMs)
          (leftoverStart stepMs days per first segment) first]? = some c ∧
        gridLeftovers stepMs per first segIdx segment =
          [⟨segIdx, c.openTimeMs, last.closeTimeMs,
            segment.length - bisectLeft (segment.map Candle.openTimeMs)
              (leftoverStart stepMs days per first segment) first,
            ((last.openTimeMs + stepMs : ℤ) - leftoverStart stepMs days per first segment : ℚ) /
              dayMs⟩]) := by
  rcases g.last with ⟨last', hlast', hopen, hclose⟩
  have hsame : last' = last := Option.some.inj (hlast'.symm.trans hlast)
  subst hsame
  have hend : last'.openTimeMs + stepMs = segmentStart segment + segment.length * stepMs := by
    linarith
  have hrestMs : last'.openTimeMs + stepMs - leftoverStart stepMs days per first segment =
      (segment.length - (first + (segment.length - first) / per * per) : ℕ) * stepMs :=
    hend ▸ sub_leftoverStart l hfirst
  by_cases hrest : segment.length ≤ first + (segment.length - first) / per * per
  · -- no candle is left, and no time
    left
    rw [Nat.sub_eq_zero_of_le hrest, Nat.cast_zero, zero_mul] at hrestMs
    exact ⟨by linarith, by simp [gridLeftovers, hrest]⟩
  · right
    have hlt := not_le.1 hrest
    have hidx := bisectLeft_leftoverStart g l hfirst
    constructor
    · have hpos : (0 : ℤ) < (segment.length - (first + (segment.length - first) / per * per) : ℕ) *
          stepMs := by
        apply mul_pos _ l.step_pos
        exact_mod_cast Nat.sub_pos_of_lt hlt
      linarith
    · refine ⟨segment[first + (segment.length - first) / per * per], ?_, ?_⟩
      · rw [hidx]
        exact List.getElem?_eq_getElem hlt
      · -- the days left are those of the candles left
        have hrestQ : ((last'.openTimeMs + stepMs : ℤ) : ℚ) -
            (leftoverStart stepMs days per first segment : ℤ) =
              ((segment.length - (first + (segment.length - first) / per * per) : ℕ) * stepMs :
                ℤ) := by
          exact_mod_cast hrestMs
        have hcond : ¬ ((segment.length - first) / per = 0 ∨
            segment.length ≤ first + (segment.length - first) / per * per) := by
          rintro (h | h)
          · exact hblocks h
          · exact hrest h
        simp only [gridLeftovers, if_neg hcond, hidx, g.opens _ hlt, hclose, hrestQ]

/-- A segment contributes its blocks and what is left after them. -/
theorem scheduleSegment_eq (segIdx : ℕ) (g : OnGrid stepMs (segmentStart segment) segment)
    (l : BlockLength stepMs days per) (hanchor : 0 < anchor) :
    ∃ fragments, scheduleSegment stepMs anchor days segIdx segment =
      .ok ⟨gridWindows stepMs per (anchor - 1) segIdx segment, fragments,
        gridLeftovers stepMs per (anchor - 1) segIdx segment⟩ := by
  rcases g.head with ⟨first, hfirst, -⟩
  rcases g.last with ⟨last, hlast, hlastOpen, hlastClose⟩
  by_cases hshort : segment.length < anchor
  · have hnone : segment.length - (anchor - 1) = 0 := by omega
    simp [scheduleSegment, hfirst, hlast, hshort, gridWindows, gridLeftovers, hnone]
  · have hspan : segmentTradableSpan segment (anchor - 1) stepMs = _ :=
      g.tradableSpan (by omega)
    have hblocks := l.blocks (segment.length - (anchor - 1))
    by_cases hzero : (segment.length - (anchor - 1)) / per = 0
    · simp [scheduleSegment, hfirst, hlast, hshort, hspan, hblocks, hzero, gridWindows,
        gridLeftovers]
    · refine ⟨[], ?_⟩
      -- no window of the grid ends behind the segment's last candle
      have hfits : (gridWindows stepMs per (anchor - 1) segIdx segment).find?
          (fun w => decide (w.windowEndTimeMs > last.closeTimeMs + 1)) = none := by
        refine List.find?_eq_none.2 ?_
        intro w hw
        rcases List.mem_map.1 hw with ⟨k, hk, rfl⟩
        have hle := block_end_le (List.mem_range.1 hk)
        have hms : ((anchor - 1 + (k + 1) * per : ℕ) : ℤ) * stepMs ≤ segment.length * stepMs := by
          apply mul_le_mul_of_nonneg_right _ l.step_pos.le
          exact_mod_cast hle
        simp only [gridWindow, hlastClose, gt_iff_lt, decide_eq_true_eq, not_lt]
        linarith
      rw [gridWindows_eq l] at hfits ⊢
      simp only [scheduleSegment, hfirst, hlast, if_neg hshort, hspan, hblocks, Nat.cast_eq_zero,
        if_neg hzero, Int.toNat_natCast, hfits]
      rcases leftover_cases segIdx g l (show anchor - 1 ≤ segment.length by omega) hzero hlast with
        ⟨hnot, hnone⟩ | ⟨hlt, c, hc, hone⟩
      · rw [leftoverStart] at hnot
        rw [if_neg hnot, hnone]
      · rw [leftoverStart] at hlt hc hone
        simp only [if_pos hlt, hc, hone]

theorem segmentIndex_of_mem_gridWindows {per first i : ℕ} {w : ScheduledBlockWindow}
    (hw : w ∈ gridWindows stepMs per first i segment) : w.segmentIndex = i := by
  rcases List.mem_map.1 hw with ⟨k, -, rfl⟩
  rfl

theorem segmentIndex_of_mem_gridLeftovers {per first i : ℕ} {rest : LeftoverPartialWindow}
    (hrest : rest ∈ gridLeftovers stepMs per first i segment) : rest.segmentIndex = i := by
  simp only [gridLeftovers] at hrest
  split at hrest
  · cases hrest
  · rw [List.mem_singleton.1 hrest]

end Windows

section OverSegments

variable {α : Type} {f : ℕ → List Candle → List α}

theorem mem_overSegments {x : α} {i : ℕ} {segments : List (List Candle)}
    (hx : x ∈ overSegments f i segments) :
    ∃ k segment, segments[k]? = some segment ∧ x ∈ f (i + k) segment := by
  induction segments generalizing i with
  | nil => cases hx
  | cons segment rest ih =>
      rcases List.mem_append.1 hx with hhere | hlater
      · exact ⟨0, segment, rfl, hhere⟩
      · rcases ih hlater with ⟨k, s, hs, hmem⟩
        refine ⟨k + 1, s, hs, ?_⟩
        simpa [Nat.add_assoc, Nat.add_comm 1 k] using hmem

/-- What a segment contributed is found again by its index. -/
theorem filter_overSegments {index : α → ℕ} (hindex : ∀ i segment, ∀ x ∈ f i segment, index x = i)
    {i k : ℕ} {segments : List (List Candle)} {segment : List Candle}
    (hk : segments[k]? = some segment) :
    (overSegments f i segments).filter (fun x => index x = i + k) = f (i + k) segment := by
  induction segments generalizing i k with
  | nil => cases hk
  | cons s rest ih =>
      cases k with
      | zero =>
          have hs : s = segment := by simpa using hk
          subst hs
          have hhere : (f i s).filter (fun x => index x = i + 0) = f i s := by
            refine List.filter_eq_self.2 ?_
            intro x hx
            simpa using hindex i s x hx
          have hlater : (overSegments f (i + 1) rest).filter (fun x => index x = i + 0) = [] := by
            refine List.filter_eq_nil_iff.2 ?_
            intro x hx
            rcases mem_overSegments hx with ⟨j, t, -, hmem⟩
            have hidx := hindex _ t x hmem
            simp only [decide_eq_true_eq]
            omega
          rw [overSegments, List.filter_append, hhere, hlater, List.append_nil]
          rfl
      | succ k =>
          have hrest := ih (i := i + 1) (k := k) (by simpa using hk)
          have hsum : i + 1 + k = i + (k + 1) := by omega
          have hhere : (f i s).filter (fun x => index x = i + (k + 1)) = [] := by
            refine List.filter_eq_nil_iff.2 ?_
            intro x hx
            have hidx := hindex i s x hx
            simp only [decide_eq_true_eq]
            omega
          rw [hsum] at hrest
          rw [overSegments, List.filter_append, hhere, List.nil_append, hrest]

end OverSegments

/-! ## A schedule of all segments -/

section Schedule

variable {stepMs : ℤ} {days per anchor : ℕ} {segments : List (List Candle)}

/-- Every segment lies on its own grid. -/
def AllOnGrid (stepMs : ℤ) (segments : List (List Candle)) : Prop :=
  ∀ segment ∈ segments, OnGrid stepMs (segmentStart segment) segment

theorem scheduleSegments_eq (hgrid : AllOnGrid stepMs segments) (l : BlockLength stepMs days per)
    (hanchor : 0 < anchor) (i : ℕ) :
    ∃ fragments, scheduleSegments stepMs anchor days i segments =
      .ok ⟨overSegments (gridWindows stepMs per (anchor - 1)) i segments, fragments,
        overSegments (gridLeftovers stepMs per (anchor - 1)) i segments⟩ := by
  induction segments generalizing i with
  | nil => exact ⟨[], rfl⟩
  | cons segment rest ih =>
      rcases scheduleSegment_eq i (hgrid segment (List.mem_cons_self ..)) l hanchor with
        ⟨here, hhere⟩
      rcases ih (fun s hs => hgrid s (List.mem_cons_of_mem _ hs)) (i + 1) with ⟨later, hlater⟩
      refine ⟨here ++ later, ?_⟩
      simp [scheduleSegments, hhere, hlater, bind, Except.bind, ScheduleParts.append, overSegments]

/-- The windows of one segment follow one another. -/
theorem pairwise_gridWindows (l : BlockLength stepMs days per) (first i : ℕ)
    (segment : List Candle) :
    (gridWindows stepMs per first i segment).Pairwise fun a b =>
      a.windowEndTimeMs ≤ b.windowStartTimeMs := by
  refine List.pairwise_map.2 ?_
  refine List.Pairwise.imp ?_ (List.pairwise_lt_range (n := (segment.length - first) / per))
  intro a b hab
  have hms : ((first + (a + 1) * per : ℕ) : ℤ) * stepMs ≤ (first + b * per : ℕ) * stepMs := by
    apply mul_le_mul_of_nonneg_right _ l.step_pos.le
    have hle : (a + 1) * per ≤ b * per := Nat.mul_le_mul_right per hab
    exact_mod_cast (by omega : first + (a + 1) * per ≤ first + b * per)
  simp only [gridWindow]
  linarith

/-- A window of a segment lies between its first candle's open and its last candle's close. -/
theorem gridWindows_inside (l : BlockLength stepMs days per) {first i : ℕ} {segment : List Candle}
    {w : ScheduledBlockWindow} (hw : w ∈ gridWindows stepMs per first i segment) :
    segmentStart segment ≤ w.windowStartTimeMs ∧
      w.windowEndTimeMs ≤ segmentStart segment + segment.length * stepMs ∧
      w.windowEndTimeMs - w.windowStartTimeMs = days * dayMs := by
  rcases List.mem_map.1 hw with ⟨k, hk, rfl⟩
  have hle := block_end_le (List.mem_range.1 hk)
  have hms : ((first + (k + 1) * per : ℕ) : ℤ) * stepMs ≤ segment.length * stepMs := by
    apply mul_le_mul_of_nonneg_right _ l.step_pos.le
    exact_mod_cast hle
  have hnonneg : (0 : ℤ) ≤ (first + k * per : ℕ) * stepMs :=
    mul_nonneg (Int.natCast_nonneg _) l.step_pos.le
  simp only [gridWindow]
  refine ⟨by linarith, by linarith, ?_⟩
  rw [l.eq]
  push_cast
  ring

/-- Each segment ends before the next one starts. -/
def Separated (stepMs : ℤ) (segments : List (List Candle)) : Prop :=
  segments.Pairwise fun a b => segmentStart a + a.length * stepMs ≤ segmentStart b

theorem pairwise_windows (l : BlockLength stepMs days per) (hsep : Separated stepMs segments)
    (first i : ℕ) :
    (overSegments (gridWindows stepMs per first) i segments).Pairwise fun a b =>
      a.windowEndTimeMs ≤ b.windowStartTimeMs := by
  induction segments generalizing i with
  | nil => exact List.Pairwise.nil
  | cons segment rest ih =>
      rcases List.pairwise_cons.1 hsep with ⟨hbefore, hrest⟩
      refine List.pairwise_append.2 ⟨pairwise_gridWindows l first i segment, ih hrest (i + 1), ?_⟩
      intro a ha b hb
      rcases mem_overSegments hb with ⟨k, s, hs, hmem⟩
      have hlate := hbefore s (List.mem_of_getElem? hs)
      have hend := (gridWindows_inside l ha).2.1
      have hstart := (gridWindows_inside l hmem).1
      linarith

end Schedule

end TradingAgent
