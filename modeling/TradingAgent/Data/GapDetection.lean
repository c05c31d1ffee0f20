import TradingAgent.Core.Market
import TradingAgent.Library.Groups
import Mathlib.Algebra.Order.Ring.Int
import Mathlib.Tactic.Common

/-!
# Gap detection — contiguous segments of a candle list

`data/gap_detection.py`.  `partitionIntoSegments` scans the candles once; duplicates and candles out
of order raise, a gap is recorded and starts a new segment.

* `gapsOf` and `segmentsOf` say what the scan finds in an ordered list;
* `mem_gapsOf_iff` describes the gaps by the two candles around them.
-/

namespace TradingAgent

structure GapRecord where
  expectedOpenTimeMs : ℤ
  previousOpenTimeMs : ℤ
  nextOpenTimeMs : ℤ
  missingIntervals : ℤ
  deriving DecidableEq, Repr

/-- Whether a time lies in the missing range of a gap. -/
def GapRecord.Covers (gap : GapRecord) (timeMs : ℤ) : Prop :=
  gap.expectedOpenTimeMs ≤ timeMs ∧ timeMs < gap.nextOpenTimeMs

instance (gap : GapRecord) (timeMs : ℤ) : Decidable (gap.Covers timeMs) :=
  inferInstanceAs (Decidable (_ ∧ _))

structure SegmentationResult where
  segments : List (List Candle)
  gaps : List GapRecord
  deriving DecidableEq, Repr

/-- The variables of the loop: the finished segments, the one under way, the gaps, the open times
seen, and the previous candle. -/
structure SegmentScan where
  segments : List (List Candle) := []
  current : List Candle := []
  gaps : List GapRecord := []
  seenOpenTimes : List ℤ := []
  previous : Option Candle := none

/-- The gap between two candles that are not adjacent. -/
def gapBetween (stepMs : ℤ) (previous candle : Candle) : GapRecord where
  expectedOpenTimeMs := previous.openTimeMs + stepMs
  previousOpenTimeMs := previous.openTimeMs
  nextOpenTimeMs := candle.openTimeMs
  missingIntervals := (candle.openTimeMs - previous.openTimeMs) / stepMs - 1

def scanCandle (stepMs : ℤ) (s : SegmentScan) (candle : Candle) : Except PyError SegmentScan :=
  if candle.openTimeMs ∈ s.seenOpenTimes then .error (.duplicateCandle candle.openTimeMs)
  else
    let seen := candle.openTimeMs :: s.seenOpenTimes
    match s.previous with
    | none =>
        .ok { s with
          current := s.current ++ [candle]
          seenOpenTimes := seen
          previous := some candle }
    | some previous =>
        if candle.openTimeMs ≤ previous.openTimeMs then
          .error (.outOfOrderCandle candle.openTimeMs previous.openTimeMs)
        else if candle.openTimeMs - previous.openTimeMs ≠ stepMs then
          .ok
            { segments := s.segments ++ [s.current]
              current := [candle]
              gaps := s.gaps ++ [gapBetween stepMs previous candle]
              seenOpenTimes := seen
              previous := some candle }
        else
          .ok { s with
            current := s.current ++ [candle]
            seenOpenTimes := seen
            previous := some candle }

def scanCandles (stepMs : ℤ) (s : SegmentScan) : List Candle → Except PyError SegmentScan
  | [] => .ok s
  | candle :: rest => do
      let s' ← scanCandle stepMs s candle
      scanCandles stepMs s' rest

/-- `partition_into_segments`, for the interval whose length is `stepMs`. -/
def partitionIntoSegments (stepMs : ℤ) (candles : List Candle) :
    Except PyError SegmentationResult :=
  if candles.isEmpty then .error .emptyData
  else do
    let s ← scanCandles stepMs {} candles
    .ok ⟨s.segments ++ [s.current], s.gaps⟩

/-! ## What it finds in an ordered list -/

/-- Strictly ascending open times: neither duplicates nor candles out of order. -/
def Ordered (candles : List Candle) : Prop :=
  candles.Pairwise fun a b => a.openTimeMs < b.openTimeMs

instance (candles : List Candle) : Decidable (Ordered candles) :=
  inferInstanceAs (Decidable (candles.Pairwise _))

def adjacent (stepMs : ℤ) (a b : Candle) : Bool :=
  b.openTimeMs - a.openTimeMs = stepMs

/-- The gaps after a candle. -/
def gapsFrom (stepMs : ℤ) (previous : Candle) : List Candle → List GapRecord
  | [] => []
  | candle :: rest =>
      if adjacent stepMs previous candle then gapsFrom stepMs candle rest
      else gapBetween stepMs previous candle :: gapsFrom stepMs candle rest

def gapsOf (stepMs : ℤ) : List Candle → List GapRecord
  | [] => []
  | candle :: rest => gapsFrom stepMs candle rest

def segmentsOf (stepMs : ℤ) (candles : List Candle) : List (List Candle) :=
  candles.splitBy (adjacent stepMs)

section Scan

variable {stepMs : ℤ}

/-- The scan of candles in order finds the runs of adjacent candles and the gaps between them. -/
theorem scanCandles_of_ordered {previous : Candle} {current : List Candle}
    {segments : List (List Candle)} {gaps : List GapRecord} {seen : List ℤ} {rest : List Candle}
    (hordered : Ordered (previous :: rest)) (hseen : ∀ t ∈ seen, t ≤ previous.openTimeMs) :
    ∃ s, scanCandles stepMs ⟨segments.reverse, (previous :: current).reverse, gaps, seen,
        some previous⟩ rest = .ok s ∧
      s.segments ++ [s.current] =
        List.splitBy.loop (adjacent stepMs) rest previous current segments ∧
      s.gaps = gaps ++ gapsFrom stepMs previous rest := by
  induction rest generalizing previous current segments gaps seen with
  | nil => exact ⟨_, rfl, by simp [List.splitBy.loop], by simp [gapsFrom]⟩
  | cons candle rest ih =>
      have hlt : previous.openTimeMs < candle.openTimeMs :=
        (List.pairwise_cons.1 hordered).1 candle List.mem_cons_self
      have htail : Ordered (candle :: rest) := (List.pairwise_cons.1 hordered).2
      have hnew : candle.openTimeMs ∉ seen := by
        intro hmem
        have hle := hseen candle.openTimeMs hmem
        omega
      have hseen' : ∀ t ∈ candle.openTimeMs :: seen, t ≤ candle.openTimeMs := by
        intro t ht
        rcases List.mem_cons.1 ht with rfl | ht
        · exact le_rfl
        · exact (hseen t ht).trans hlt.le
      -- the candle goes on with the segment, or closes it and leaves a gap
      by_cases hadjacent : candle.openTimeMs - previous.openTimeMs = stepMs
      · have hrest : ∃ s, scanCandles stepMs ⟨segments.reverse,
            (candle :: previous :: current).reverse, gaps, candle.openTimeMs :: seen,
            some candle⟩ rest = .ok s ∧ _ ∧ _ := ih htail hseen'
        rcases hrest with ⟨s, hs, hsegments, hgaps⟩
        refine ⟨s, ?_, ?_, ?_⟩
        · simpa [scanCandles, scanCandle, hnew, not_le.2 hlt, hadjacent, bind, Except.bind] using hs
        · simpa [List.splitBy.loop, adjacent, hadjacent] using hsegments
        · simpa [gapsFrom, adjacent, hadjacent] using hgaps
      · have hrest : ∃ s, scanCandles stepMs ⟨((previous :: current).reverse :: segments).reverse,
            [candle].reverse, gaps ++ [gapBetween stepMs previous candle],
            candle.openTimeMs :: seen, some candle⟩ rest = .ok s ∧ _ ∧ _ := ih htail hseen'
        rcases hrest with ⟨s, hs, hsegments, hgaps⟩
        refine ⟨s, ?_, ?_, ?_⟩
        · simpa [scanCandles, scanCandle, hnew, not_le.2 hlt, hadjacent, bind, Except.bind] using hs
        · simpa [List.splitBy.loop, adjacent, hadjacent] using hsegments
        · simpa [gapsFrom, adjacent, hadjacent] using hgaps

/-- A scan that does not raise has seen ordered candles. -/
theorem ordered_of_scanCandles {previous : Candle} {s s' : SegmentScan} {rest : List Candle}
    (hprevious : s.previous = some previous) (h : scanCandles stepMs s rest = .ok s') :
    Ordered (previous :: rest) := by
  induction rest generalizing previous s with
  | nil => exact List.pairwise_singleton _ _
  | cons candle rest ih =>
      simp only [scanCandles, bind, Except.bind] at h
      split at h
      · cases h
      · rename_i s₁ hstep
        -- the candle scanned becomes the previous one, and is later than the one before
        have hnext : s₁.previous = some candle ∧ previous.openTimeMs < candle.openTimeMs := by
          unfold scanCandle at hstep
          simp only [hprevious] at hstep
          split at hstep
          · cases hstep
          split at hstep
          · cases hstep
          rename_i hlater
          split at hstep
          · cases hstep
            exact ⟨rfl, not_le.1 hlater⟩
          · cases hstep
            exact ⟨rfl, not_le.1 hlater⟩
        have hrest := ih hnext.1 h
        refine List.pairwise_cons.2 ⟨?_, hrest⟩
        intro c hc
        rcases List.mem_cons.1 hc with rfl | hc
        · exact hnext.2
        · exact hnext.2.trans ((List.pairwise_cons.1 hrest).1 c hc)

theorem partitionIntoSegments_of_ordered {candles : List Candle} (hordered : Ordered candles)
    (hne : candles ≠ []) : partitionIntoSegments stepMs candles =
      .ok ⟨segmentsOf stepMs candles, gapsOf stepMs candles⟩ := by
  cases candles with
  | nil => exact absurd rfl hne
  | cons candle rest =>
      have hseen : ∀ t ∈ [candle.openTimeMs], t ≤ candle.openTimeMs := by simp
      have hscan : ∃ s, scanCandles stepMs ⟨[].reverse, [candle].reverse, [], [candle.openTimeMs],
          some candle⟩ rest = .ok s ∧ _ ∧ _ := scanCandles_of_ordered hordered hseen
      rcases hscan with ⟨s, hs, hsegments, hgaps⟩
      have hfirst : scanCandles stepMs {} (candle :: rest) = .ok s := by
        simpa [scanCandles, scanCandle, bind, Except.bind] using hs
      simp only [partitionIntoSegments, List.isEmpty_cons, Bool.false_eq_true, if_false, hfirst,
        bind, Except.bind, hsegments, hgaps]
      rfl

/-- A partition that does not raise is that of an ordered list. -/
theorem partitionIntoSegments_eq_ok {candles : List Candle} {result : SegmentationResult}
    (h : partitionIntoSegments stepMs candles = .ok result) :
    candles ≠ [] ∧ Ordered candles ∧
      result = ⟨segmentsOf stepMs candles, gapsOf stepMs candles⟩ := by
  cases candles with
  | nil => cases h
  | cons candle rest =>
      have hordered : Ordered (candle :: rest) := by
        simp only [partitionIntoSegments, List.isEmpty_cons, Bool.false_eq_true, if_false, bind,
          Except.bind] at h
        split at h
        · cases h
        · rename_i s hs
          have hrest : scanCandles stepMs ⟨[], [candle], [], [candle.openTimeMs], some candle⟩ rest =
              .ok s := by
            simpa [scanCandles, scanCandle, bind, Except.bind] using hs
          exact ordered_of_scanCandles rfl hrest
      have hok : partitionIntoSegments stepMs (candle :: rest) = _ :=
        partitionIntoSegments_of_ordered hordered (List.cons_ne_nil _ _)
      rw [hok] at h
      cases h
      exact ⟨List.cons_ne_nil _ _, hordered, rfl⟩

end Scan

theorem gapsFrom_eq_nil_iff {stepMs : ℤ} {previous : Candle} {rest : List Candle} :
    gapsFrom stepMs previous rest = [] ↔
      (previous :: rest).IsChain fun a b => adjacent stepMs a b = true := by
  induction rest generalizing previous with
  | nil => simp [gapsFrom]
  | cons candle rest ih =>
      by_cases hadjacent : adjacent stepMs previous candle = true
      · simp [gapsFrom, hadjacent, ih]
      · simp [gapsFrom, hadjacent]

/-- Candles without a gap are each one step after the other. -/
theorem gapsOf_eq_nil_iff {stepMs : ℤ} {candles : List Candle} :
    gapsOf stepMs candles = [] ↔ candles.IsChain fun a b => adjacent stepMs a b = true := by
  cases candles with
  | nil => simp [gapsOf]
  | cons candle rest => exact gapsFrom_eq_nil_iff

/-! ## Segments of a growing list -/

section Segments

variable {stepMs : ℤ} {candles p : List Candle} {init : List (List Candle)}

/-- More candles leave all segments but the last as they are; the last may go on. -/
theorem segmentsOf_append (h : segmentsOf stepMs candles = init ++ [p]) (later : List Candle) :
    ∃ x rest, segmentsOf stepMs (candles ++ later) = init ++ (p ++ x) :: rest :=
  Groups.splitBy_append_eq h later

end Segments

/-! ## The gaps of an ordered list -/

section Gaps

variable {stepMs : ℤ} {candles : List Candle} {gap : GapRecord}

/-- Two candles of the list with none between them, and more or less than one step apart. -/
structure GapAround (stepMs : ℤ) (candles : List Candle) (previous next : Candle) : Prop where
  previousMem : previous ∈ candles
  nextMem : next ∈ candles
  later : previous.openTimeMs < next.openTimeMs
  noneBetween : ∀ c ∈ candles, c.openTimeMs ≤ previous.openTimeMs ∨ next.openTimeMs ≤ c.openTimeMs
  notAdjacent : next.openTimeMs - previous.openTimeMs ≠ stepMs

theorem Ordered.tail {c : Candle} {rest : List Candle} (h : Ordered (c :: rest)) : Ordered rest :=
  (List.pairwise_cons.1 h).2

theorem Ordered.filter {candles : List Candle} (h : Ordered candles) (p : Candle → Bool) :
    Ordered (candles.filter p) :=
  List.Pairwise.filter p h

theorem Ordered.nodup {candles : List Candle} (h : Ordered candles) : candles.Nodup :=
  h.imp fun hlt heq => hlt.ne (congrArg Candle.openTimeMs heq)

theorem Ordered.head_lt {c d : Candle} {rest : List Candle} (h : Ordered (c :: rest))
    (hd : d ∈ rest) : c.openTimeMs < d.openTimeMs :=
  (List.pairwise_cons.1 h).1 d hd

/-- In an ordered list a candle is determined by its open time. -/
theorem Ordered.eq_of_openTime (h : Ordered candles) {a b : Candle} (ha : a ∈ candles)
    (hb : b ∈ candles) (heq : a.openTimeMs = b.openTimeMs) : a = b := by
  induction candles with
  | nil => cases ha
  | cons c rest ih =>
      rcases List.mem_cons.1 ha with rfl | ha'
      · rcases List.mem_cons.1 hb with rfl | hb'
        · rfl
        · exact absurd heq (h.head_lt hb').ne
      · rcases List.mem_cons.1 hb with rfl | hb'
        · exact absurd heq (h.head_lt ha').ne'
        · exact ih h.tail ha' hb'

theorem mem_gapsFrom_iff {previous : Candle} {rest : List Candle}
    (h : Ordered (previous :: rest)) : gap ∈ gapsFrom stepMs previous rest ↔
      ∃ a b, GapAround stepMs (previous :: rest) a b ∧ gap = gapBetween stepMs a b := by
  induction rest generalizing previous with
  | nil =>
      constructor
      · intro hmem
        cases hmem
      · intro hex
        rcases hex with ⟨a, b, hab, -⟩
        have ha := List.mem_singleton.1 hab.previousMem
        have hb := List.mem_singleton.1 hab.nextMem
        have hlater := hab.later
        rw [ha, hb] at hlater
        exact absurd hlater (lt_irrefl _)
  | cons candle rest ih =>
      have hlt := h.head_lt List.mem_cons_self
      -- what is between two candles of the tail is between them in the whole list
      have hstep : (∃ a b, GapAround stepMs (previous :: candle :: rest) a b ∧
          gap = gapBetween stepMs a b) ↔
          (candle.openTimeMs - previous.openTimeMs ≠ stepMs ∧
            gap = gapBetween stepMs previous candle) ∨
          ∃ a b, GapAround stepMs (candle :: rest) a b ∧ gap = gapBetween stepMs a b := by
        constructor
        · intro hex
          rcases hex with ⟨a, b, hab, rfl⟩
          rcases List.mem_cons.1 hab.previousMem with rfl | ha
          · -- the first candle is followed by the second
            have hb : b = candle := by
              rcases List.mem_cons.1 hab.nextMem with rfl | hb
              · exact absurd hab.later (lt_irrefl _)
              · rcases hab.noneBetween candle (by simp) with hle | hle
                · exact absurd hlt (not_lt.2 hle)
                · rcases List.mem_cons.1 hb with rfl | hb'
                  · rfl
                  · exact absurd (h.tail.head_lt hb') (not_lt.2 hle)
            subst hb
            exact .inl ⟨hab.notAdjacent, rfl⟩
          · have hb : b ∈ candle :: rest := by
              rcases List.mem_cons.1 hab.nextMem with rfl | hb
              · exact absurd (hab.later.trans (h.head_lt ha)) (lt_irrefl _)
              · exact hb
            refine .inr ⟨a, b, ⟨ha, hb, hab.later, ?_, hab.notAdjacent⟩, rfl⟩
            intro c hc
            exact hab.noneBetween c (List.mem_cons_of_mem _ hc)
        · intro hor
          rcases hor with ⟨hnot, rfl⟩ | ⟨a, b, hab, rfl⟩
          · refine ⟨previous, candle, ⟨by simp, by simp, hlt, ?_, hnot⟩, rfl⟩
            intro c hc
            rcases List.mem_cons.1 hc with rfl | hc
            · exact .inl le_rfl
            · rcases List.mem_cons.1 hc with rfl | hc
              · exact .inr le_rfl
              · exact .inr (h.tail.head_lt hc).le
          · refine ⟨a, b, ⟨List.mem_cons_of_mem _ hab.previousMem,
              List.mem_cons_of_mem _ hab.nextMem, hab.later, ?_, hab.notAdjacent⟩, rfl⟩
            intro c hc
            rcases List.mem_cons.1 hc with rfl | hc
            · exact .inl (h.head_lt hab.previousMem).le
            · exact hab.noneBetween c hc
      rw [hstep, ← ih h.tail]
      by_cases hadjacent : candle.openTimeMs - previous.openTimeMs = stepMs
      · simp [gapsFrom, adjacent, hadjacent]
      · simp [gapsFrom, adjacent, hadjacent]

/-- The gaps of an ordered list are those between its neighbouring candles. -/
theorem mem_gapsOf_iff (h : Ordered candles) : gap ∈ gapsOf stepMs candles ↔
    ∃ a b, GapAround stepMs candles a b ∧ gap = gapBetween stepMs a b := by
  cases candles with
  | nil =>
      constructor
      · intro hmem
        cases hmem
      · intro hex
        rcases hex with ⟨a, b, hab, -⟩
        cases hab.previousMem
  | cons candle rest => exact mem_gapsFrom_iff h

/-- No candle of an ordered list lies in the missing range of one of its gaps. -/
theorem not_covers_of_mem_gapsOf (hstep : 0 < stepMs) (h : Ordered candles)
    (hgap : gap ∈ gapsOf stepMs candles) {c : Candle} (hc : c ∈ candles) :
    ¬gap.Covers c.openTimeMs := by
  rcases (mem_gapsOf_iff h).1 hgap with ⟨a, b, hab, rfl⟩
  intro hcovers
  rcases hab.noneBetween c hc with hle | hle
  · have hexpected : a.openTimeMs + stepMs ≤ c.openTimeMs := hcovers.1
    omega
  · exact absurd hcovers.2 (not_lt.2 hle)

/-- Two gaps of an ordered list that cover one time are the same. -/
theorem eq_of_covers (hstep : 0 < stepMs) (h : Ordered candles) {gap' : GapRecord}
    (hgap : gap ∈ gapsOf stepMs candles) (hgap' : gap' ∈ gapsOf stepMs candles) {timeMs : ℤ}
    (hcovers : gap.Covers timeMs) (hcovers' : gap'.Covers timeMs) : gap = gap' := by
  rcases (mem_gapsOf_iff h).1 hgap with ⟨a, b, hab, rfl⟩
  rcases (mem_gapsOf_iff h).1 hgap' with ⟨a', b', hab', rfl⟩
  have hlow : a.openTimeMs + stepMs ≤ timeMs := hcovers.1
  have hhigh : timeMs < b.openTimeMs := hcovers.2
  have hlow' : a'.openTimeMs + stepMs ≤ timeMs := hcovers'.1
  have hhigh' : timeMs < b'.openTimeMs := hcovers'.2
  -- neither candle before the time is later than the other, and neither after it is earlier
  have hprevious := hab.noneBetween a' hab'.previousMem
  have hprevious' := hab'.noneBetween a hab.previousMem
  have hnext := hab.noneBetween b' hab'.nextMem
  have hnext' := hab'.noneBetween b hab.nextMem
  have ha : a = a' := h.eq_of_openTime hab.previousMem hab'.previousMem (by omega)
  have hb : b = b' := h.eq_of_openTime hab.nextMem hab'.nextMem (by omega)
  rw [ha, hb]

/-- In an ordered list some candle is the last before a time, where one is. -/
theorem exists_last_before (h : Ordered candles) {timeMs : ℤ} {first : Candle}
    (hfirst : first ∈ candles) (hbefore : first.openTimeMs < timeMs) :
    ∃ a ∈ candles, a.openTimeMs < timeMs ∧
      ∀ c ∈ candles, c.openTimeMs < timeMs → c.openTimeMs ≤ a.openTimeMs := by
  induction candles generalizing first with
  | nil => cases hfirst
  | cons candle rest ih =>
      by_cases hrest : ∃ c ∈ rest, c.openTimeMs < timeMs
      · rcases hrest with ⟨c, hc, hlt⟩
        rcases ih h.tail hc hlt with ⟨a, ha, halt, hmax⟩
        refine ⟨a, List.mem_cons_of_mem _ ha, halt, ?_⟩
        intro d hd hdlt
        rcases List.mem_cons.1 hd with rfl | hd
        · exact (h.head_lt ha).le
        · exact hmax d hd hdlt
      · have honly : first = candle := by
          rcases List.mem_cons.1 hfirst with rfl | hmem
          · rfl
          · exact absurd ⟨first, hmem, hbefore⟩ hrest
        subst honly
        refine ⟨first, List.mem_cons_self, hbefore, ?_⟩
        intro d hd hdlt
        rcases List.mem_cons.1 hd with rfl | hd
        · exact le_rfl
        · exact absurd ⟨d, hd, hdlt⟩ hrest

/-- Likewise some candle is the first at or after a time. -/
theorem exists_first_after (h : Ordered candles) {timeMs : ℤ} {last : Candle}
    (hlast : last ∈ candles) (hafter : timeMs ≤ last.openTimeMs) :
    ∃ b ∈ candles, timeMs ≤ b.openTimeMs ∧
      ∀ c ∈ candles, timeMs ≤ c.openTimeMs → b.openTimeMs ≤ c.openTimeMs := by
  induction candles with
  | nil => cases hlast
  | cons candle rest ih =>
      by_cases hcandle : timeMs ≤ candle.openTimeMs
      · refine ⟨candle, List.mem_cons_self, hcandle, ?_⟩
        intro d hd _
        rcases List.mem_cons.1 hd with rfl | hd
        · exact le_rfl
        · exact (h.head_lt hd).le
      · rcases List.mem_cons.1 hlast with rfl | hmem
        · exact absurd hafter hcandle
        · rcases ih h.tail hmem with ⟨b, hb, hble, hmin⟩
          refine ⟨b, List.mem_cons_of_mem _ hb, hble, ?_⟩
          intro d hd hdle
          rcases List.mem_cons.1 hd with rfl | hd
          · exact absurd hdle hcandle
          · exact hmin d hd hdle

/-- A time on the grid between two candles of the list, at which none opens, lies in a gap. -/
theorem exists_gap_covering (hstep : 0 < stepMs) (h : Ordered candles) {timeMs : ℤ}
    {first last : Candle} (hfirst : first ∈ candles) (hbefore : first.openTimeMs < timeMs)
    (hlast : last ∈ candles) (hafter : timeMs < last.openTimeMs)
    (haligned : ∀ c ∈ candles, stepMs ∣ timeMs - c.openTimeMs)
    (hmissing : ∀ c ∈ candles, c.openTimeMs ≠ timeMs) :
    ∃ gap ∈ gapsOf stepMs candles, gap.Covers timeMs := by
  rcases exists_last_before h hfirst hbefore with ⟨a, ha, halt, hamax⟩
  rcases exists_first_after h hlast hafter.le with ⟨b, hb, hble, hbmin⟩
  have hblt : timeMs < b.openTimeMs := lt_of_le_of_ne hble (hmissing b hb).symm
  -- the time is at least one step after the candle before it
  have hexpected : a.openTimeMs + stepMs ≤ timeMs := by
    rcases haligned a ha with ⟨k, hk⟩
    have hpos : 0 < k := by
      by_contra hneg
      have hk0 : stepMs * k ≤ 0 := mul_nonpos_of_nonneg_of_nonpos hstep.le (not_lt.1 hneg)
      omega
    have hge : stepMs * 1 ≤ stepMs * k := Int.mul_le_mul_of_nonneg_left hpos hstep.le
    omega
  refine ⟨gapBetween stepMs a b, (mem_gapsOf_iff h).2 ⟨a, b, ?_, rfl⟩, hexpected, hblt⟩
  refine ⟨ha, hb, halt.trans hblt, ?_, ?_⟩
  · intro c hc
    by_cases hc' : c.openTimeMs < timeMs
    · exact .inl (hamax c hc hc')
    · exact .inr (hbmin c hc (not_lt.1 hc'))
  · intro heq
    omega

end Gaps

end TradingAgent
