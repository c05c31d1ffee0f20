import Mathlib.Tactic.Linarith
import Mathlib.Tactic.Ring
import TradingAgent.Data.GapRecovery

/-!
# Segmentation — the tolerant and the strict reading of a candle list

`partition_into_segments` splits a list at its gaps, `validate_candle_sequence`
(`data/validation.py`) refuses one that has any.

* `SplitsExactly` says what a partition is, `segmentation_exact` that every partition is one, and
  that both loops classify every list alike;
* `gap_counts_exact_iff` says when the gap records count the missing candles.
-/

namespace TradingAgent

/-! ## The strict loop -/

/-- The variables of the strict loop. -/
structure StrictScan where
  seenOpenTimes : List ℤ := []
  previous : Option Candle := none

def validateCandle (stepMs : ℤ) (s : StrictScan) (candle : Candle) : Except PyError StrictScan :=
  if candle.openTimeMs ∈ s.seenOpenTimes then .error (.duplicateCandle candle.openTimeMs)
  else
    let next : StrictScan := ⟨candle.openTimeMs :: s.seenOpenTimes, some candle⟩
    match s.previous with
    | none => .ok next
    | some previous =>
        if candle.openTimeMs ≤ previous.openTimeMs then
          .error (.outOfOrderCandle candle.openTimeMs previous.openTimeMs)
        else if candle.openTimeMs - previous.openTimeMs ≠ stepMs then
          .error (.gapDetected previous.openTimeMs candle.openTimeMs)
        else .ok next

def validateCandles (stepMs : ℤ) (s : StrictScan) : List Candle → Except PyError StrictScan
  | [] => .ok s
  | candle :: rest => do
      let s' ← validateCandle stepMs s candle
      validateCandles stepMs s' rest

/-- `validate_candle_sequence`, for the interval whose length is `stepMs`. -/
def validateCandleSequence (stepMs : ℤ) (candles : List Candle) : Except PyError (List Candle) :=
  if candles.isEmpty then .error .emptyData
  else do
    let _ ← validateCandles stepMs {} candles
    .ok candles

/-! ## Both loops side by side -/

section Loops

variable (stepMs : ℤ) {s s' : StrictScan} {t t' : SegmentScan}

/-- Both loops have read the same candles. -/
structure SameReading (s : StrictScan) (t : SegmentScan) : Prop where
  seen : s.seenOpenTimes = t.seenOpenTimes
  previous : s.previous = t.previous

/-- What one candle does to both loops: both raise, both go on, or the strict loop raises at a gap
that the tolerant one records. -/
inductive CandleRead (t : SegmentScan) : Except PyError StrictScan → Except PyError SegmentScan → Prop
  | refused (e : PyError) : CandleRead t (.error e) (.error e)
  | gap (previousOpenTimeMs openTimeMs : ℤ) (record : GapRecord) (t' : SegmentScan) :
      t'.gaps = t.gaps ++ [record] →
      CandleRead t (.error (.gapDetected previousOpenTimeMs openTimeMs)) (.ok t')
  | goesOn (s' : StrictScan) (t' : SegmentScan) :
      t'.gaps = t.gaps → SameReading s' t' → CandleRead t (.ok s') (.ok t')

theorem candleRead (h : SameReading s t) (candle : Candle) :
    CandleRead t (validateCandle stepMs s candle) (scanCandle stepMs t candle) := by
  unfold validateCandle scanCandle
  rw [h.seen, h.previous]
  by_cases hseen : candle.openTimeMs ∈ t.seenOpenTimes
  · rw [if_pos hseen, if_pos hseen]
    exact .refused _
  rw [if_neg hseen, if_neg hseen]
  cases t.previous with
  | none => exact .goesOn _ _ rfl ⟨rfl, rfl⟩
  | some previous =>
      dsimp only
      by_cases horder : candle.openTimeMs ≤ previous.openTimeMs
      · rw [if_pos horder, if_pos horder]
        exact .refused _
      rw [if_neg horder, if_neg horder]
      by_cases hgap : candle.openTimeMs - previous.openTimeMs ≠ stepMs
      · rw [if_pos hgap, if_pos hgap]
        exact .gap _ _ _ _ rfl
      · rw [if_neg hgap, if_neg hgap]
        exact .goesOn _ _ rfl ⟨rfl, rfl⟩

/-- A scan only appends gaps. -/
theorem gaps_prefix_scanCandles {candles : List Candle} {t t' : SegmentScan}
    (h : scanCandles stepMs t candles = .ok t') : t.gaps <+: t'.gaps := by
  induction candles generalizing t with
  | nil =>
      cases h
      exact List.prefix_rfl
  | cons candle rest ih =>
      simp only [scanCandles, bind, Except.bind] at h
      have hread := candleRead stepMs (s := ⟨t.seenOpenTimes, t.previous⟩) (t := t) ⟨rfl, rfl⟩
        candle
      cases hscan : scanCandle stepMs t candle with
      | error e =>
          rw [hscan] at h
          cases h
      | ok t₁ =>
          rw [hscan] at h hread
          have hrest : t₁.gaps <+: t'.gaps := ih h
          cases hvalidate : validateCandle stepMs ⟨t.seenOpenTimes, t.previous⟩ candle with
          | error e =>
              rw [hvalidate] at hread
              cases hread with
              | gap _ _ record _ hgaps =>
                  rw [hgaps] at hrest
                  exact (List.prefix_append _ _).trans hrest
          | ok s₁ =>
              rw [hvalidate] at hread
              cases hread with
              | goesOn _ _ hgaps _ =>
                  rw [hgaps] at hrest
                  exact hrest

/-- The strict loop returns exactly when the tolerant one returns without a new gap. -/
theorem validateCandles_ok_iff (h : SameReading s t) (candles : List Candle) :
    (∃ s', validateCandles stepMs s candles = .ok s') ↔
      ∃ t', scanCandles stepMs t candles = .ok t' ∧ t'.gaps = t.gaps := by
  induction candles generalizing s t with
  | nil => exact ⟨fun _ => ⟨t, rfl, rfl⟩, fun _ => ⟨s, rfl⟩⟩
  | cons candle rest ih =>
      have hread := candleRead stepMs h candle
      simp only [validateCandles, scanCandles, bind, Except.bind]
      cases hvalidate : validateCandle stepMs s candle with
      | error e =>
          rw [hvalidate] at hread
          constructor
          · intro hex
            rcases hex with ⟨s', hs'⟩
            cases hs'
          · intro hex
            rcases hex with ⟨t', ht', hgaps⟩
            cases hscan : scanCandle stepMs t candle with
            | error e =>
                rw [hscan] at ht'
                cases ht'
            | ok t₁ =>
                rw [hscan] at hread ht'
                -- a gap once recorded is never removed
                cases hread with
                | gap _ _ record _ hrecord =>
                    have hlonger := (gaps_prefix_scanCandles stepMs ht').length_le
                    rw [hrecord, hgaps, List.length_append, List.length_singleton] at hlonger
                    omega
      | ok s₁ =>
          rw [hvalidate] at hread
          cases hscan : scanCandle stepMs t candle with
          | error e =>
              rw [hscan] at hread
              cases hread
          | ok t₁ =>
              rw [hscan] at hread
              cases hread with
              | goesOn _ _ hgaps hsame =>
                  rw [← hgaps]
                  exact ih hsame

/-- The strict validation returns the candles it was given. -/
theorem validateCandleSequence_eq_ok {candles cs : List Candle}
    (h : validateCandleSequence stepMs candles = .ok cs) : cs = candles := by
  unfold validateCandleSequence at h
  split at h
  · cases h
  simp only [bind, Except.bind] at h
  split at h
  · cases h
  · cases h
    rfl

theorem validateCandleSequence_ok_iff (candles : List Candle) :
    validateCandleSequence stepMs candles = .ok candles ↔
      ∃ result, partitionIntoSegments stepMs candles = .ok result ∧ result.gaps = [] := by
  cases candles with
  | nil => simp [validateCandleSequence, partitionIntoSegments]
  | cons candle rest =>
      have hloops := validateCandles_ok_iff stepMs (s := {}) (t := {}) ⟨rfl, rfl⟩ (candle :: rest)
      simp only [validateCandleSequence, partitionIntoSegments, List.isEmpty_cons,
        Bool.false_eq_true, if_false, bind, Except.bind]
      constructor
      · intro h
        cases hvalidate : validateCandles stepMs {} (candle :: rest) with
        | error e =>
            rw [hvalidate] at h
            cases h
        | ok s' =>
            rcases hloops.1 ⟨s', hvalidate⟩ with ⟨t', hscan, hgaps⟩
            rw [hscan]
            exact ⟨_, rfl, hgaps⟩
      · intro h
        rcases h with ⟨result, hresult, hgaps⟩
        cases hscan : scanCandles stepMs {} (candle :: rest) with
        | error e =>
            rw [hscan] at hresult
            cases hresult
        | ok t' =>
            rw [hscan] at hresult
            cases hresult
            rcases hloops.2 ⟨t', hscan, hgaps⟩ with ⟨s', hs'⟩
            rw [hs']

end Loops

/-! ## Borders -/

section Borders

variable {stepMs : ℤ}

/-- The gap record between two neighbouring segments carries the opens of the candles at their
border. -/
structure BorderGap (before after : List Candle) (gap : GapRecord) : Prop where
  previous : before.getLast?.map Candle.openTimeMs = some gap.previousOpenTimeMs
  next : after.head?.map Candle.openTimeMs = some gap.nextOpenTimeMs

/-- A run of adjacent candles has no gap; the first one after it stands at its border. -/
theorem gapsFrom_append {a b : Candle} {rest later : List Candle}
    (hchain : (a :: rest).IsChain fun c d => adjacent stepMs c d = true)
    (hcut : adjacent stepMs ((a :: rest).getLast (List.cons_ne_nil _ _)) b = false) :
    gapsFrom stepMs a (rest ++ b :: later) =
      gapBetween stepMs ((a :: rest).getLast (List.cons_ne_nil _ _)) b ::
        gapsFrom stepMs b later := by
  induction rest generalizing a with
  | nil =>
      rw [List.getLast_singleton] at hcut ⊢
      simp [gapsFrom, hcut]
  | cons c rest ih =>
      rcases List.isChain_cons_cons.1 hchain with ⟨hadjacent, hrest⟩
      rw [List.getLast_cons (List.cons_ne_nil c rest)] at hcut ⊢
      simp only [List.cons_append, gapsFrom, hadjacent, if_true]
      exact ih hrest hcut

/-- The gaps of segments put together are those at their borders, one for each two neighbours. -/
theorem gapsOf_flatten {segments : List (List Candle)} (hne : [] ∉ segments)
    (hchains : ∀ p ∈ segments, p.IsChain fun a b => adjacent stepMs a b = true)
    (hcuts : segments.IsChain fun p q =>
      ∃ hp hq, adjacent stepMs (p.getLast hp) (q.head hq) = false) :
    (gapsOf stepMs segments.flatten).length + 1 = max segments.length 1 ∧
      ∀ i p q, segments[i]? = some p → segments[i + 1]? = some q →
        ∃ gap, (gapsOf stepMs segments.flatten)[i]? = some gap ∧ BorderGap p q gap := by
  induction segments with
  | nil => simp [gapsOf]
  | cons p later ih =>
      have hnp : p ≠ [] := fun hnil => hne (by simp [hnil])
      have hnlater : [] ∉ later := fun hmem => hne (List.mem_cons_of_mem _ hmem)
      have hlater := ih hnlater (fun q hq => hchains q (List.mem_cons_of_mem _ hq)) hcuts.tail
      cases p with
      | nil => exact absurd rfl hnp
      | cons a rest =>
          cases later with
          | nil =>
              have hnone : gapsOf stepMs [a :: rest].flatten = [] := by
                rw [List.flatten_singleton]
                exact gapsOf_eq_nil_iff.2 (hchains _ (by simp))
              rw [hnone]
              simp
          | cons q more =>
              rcases (List.isChain_cons_cons.1 hcuts).1 with ⟨hp, hq, hcut⟩
              cases q with
              | nil => exact absurd rfl hq
              | cons b others =>
                  have hgaps : gapsOf stepMs ((a :: rest) :: (b :: others) :: more).flatten =
                      gapBetween stepMs ((a :: rest).getLast hp) b ::
                        gapsOf stepMs ((b :: others) :: more).flatten :=
                    gapsFrom_append (hchains _ (by simp)) hcut
                  rw [hgaps]
                  refine ⟨?_, ?_⟩
                  · have hlength := hlater.1
                    simp only [List.length_cons] at hlength ⊢
                    omega
                  · intro i p q hi hj
                    cases i with
                    | zero =>
                        cases hi
                        cases hj
                        refine ⟨_, rfl, ?_, rfl⟩
                        rw [List.getLast?_eq_some_getLast hp]
                        rfl
                    | succ i => exact hlater.2 i p q hi hj

end Borders

/-! ## Segmentation is exact -/

/-- What a partition into segments is. -/
structure SplitsExactly (stepMs : ℤ) (candles : List Candle) (result : SegmentationResult) :
    Prop where
  flatten : result.segments.flatten = candles
  nonempty : ∀ p ∈ result.segments, p ≠ []
  /-- Consecutive opens of a segment are exactly one step apart. -/
  stepped : ∀ p ∈ result.segments,
    p.IsChain fun a b => b.openTimeMs - a.openTimeMs = stepMs
  /-- No segment could go on into the next one. -/
  maximal : result.segments.IsChain fun p q => ∀ a ∈ p.getLast?, ∀ b ∈ q.head?,
    b.openTimeMs - a.openTimeMs ≠ stepMs
  oneGapEach : result.gaps.length + 1 = result.segments.length
  borders : ∀ i p q, result.segments[i]? = some p → result.segments[i + 1]? = some q →
    ∃ gap, result.gaps[i]? = some gap ∧ BorderGap p q gap

theorem splitsExactly {stepMs : ℤ} {candles : List Candle} (hne : candles ≠ []) :
    SplitsExactly stepMs candles ⟨segmentsOf stepMs candles, gapsOf stepMs candles⟩ := by
  have hsegments : segmentsOf stepMs candles ≠ [] := List.splitBy_ne_nil.2 hne
  have hflat : (segmentsOf stepMs candles).flatten = candles := List.flatten_splitBy _ _
  have hcuts := List.isChain_getLast_head_splitBy (adjacent stepMs) candles
  have hgaps := gapsOf_flatten (List.nil_notMem_splitBy (adjacent stepMs) candles)
    (fun p hp => List.isChain_of_mem_splitBy hp) hcuts
  have hborders : (gapsOf stepMs candles).length + 1 = max (segmentsOf stepMs candles).length 1 ∧
      ∀ i p q, (segmentsOf stepMs candles)[i]? = some p →
        (segmentsOf stepMs candles)[i + 1]? = some q →
          ∃ gap, (gapsOf stepMs candles)[i]? = some gap ∧ BorderGap p q gap := by
    have hsame := hgaps
    rw [List.flatten_splitBy] at hsame
    exact hsame
  refine ⟨hflat, ?_, ?_, ?_, ?_, hborders.2⟩
  · intro p hp
    exact List.ne_nil_of_mem_splitBy hp
  · intro p hp
    refine (List.isChain_of_mem_splitBy hp).imp ?_
    intro a b hadjacent
    exact of_decide_eq_true hadjacent
  · refine hcuts.imp ?_
    intro p q hcut a ha b hb
    rcases hcut with ⟨hp, hq, hfalse⟩
    rw [List.getLast?_eq_some_getLast hp, Option.mem_some_iff] at ha
    rw [List.head?_eq_some_head hq, Option.mem_some_iff] at hb
    rw [← ha, ← hb]
    exact of_decide_eq_false hfalse
  · have hpos := List.length_pos_of_ne_nil hsegments
    have hlength := hborders.1
    simp only
    omega

/-- A partition raises exactly on an empty list and on candles that are not in order; any other list
it splits exactly, and the strict validation accepts the lists it splits without a gap. -/
theorem segmentation_exact (stepMs : ℤ) (candles : List Candle) :
    ((∃ e, partitionIntoSegments stepMs candles = .error e) ↔
      candles = [] ∨ ¬Ordered candles) ∧
    (∀ result, partitionIntoSegments stepMs candles = .ok result →
      SplitsExactly stepMs candles result) ∧
    ((∃ cs, validateCandleSequence stepMs candles = .ok cs) ↔
      ∃ result, partitionIntoSegments stepMs candles = .ok result ∧ result.gaps = []) := by
  refine ⟨⟨?_, ?_⟩, ?_, ?_, ?_⟩
  · intro herror
    rcases herror with ⟨e, he⟩
    by_contra hfine
    rcases not_or.1 hfine with ⟨hne, hordered⟩
    rw [partitionIntoSegments_of_ordered (not_not.1 hordered) hne] at he
    cases he
  · intro hbad
    cases hpartition : partitionIntoSegments stepMs candles with
    | error e => exact ⟨e, rfl⟩
    | ok result =>
        rcases partitionIntoSegments_eq_ok hpartition with ⟨hne, hordered, -⟩
        rcases hbad with hnil | hunordered
        · exact absurd hnil hne
        · exact absurd hordered hunordered
  · intro result hpartition
    rcases partitionIntoSegments_eq_ok hpartition with ⟨hne, -, rfl⟩
    exact splitsExactly hne
  · intro haccepts
    rcases haccepts with ⟨cs, hcs⟩
    have hsame := validateCandleSequence_eq_ok stepMs hcs
    subst hsame
    exact (validateCandleSequence_ok_iff stepMs _).1 hcs
  · intro hresult
    exact ⟨candles, (validateCandleSequence_ok_iff stepMs candles).2 hresult⟩

/-! ## What the gap records count -/

/-- A gap record counts the missing candles: at least one, and as many steps as there are up to the
next candle. -/
structure CountsMissing (stepMs : ℤ) (gap : GapRecord) : Prop where
  atLeastOne : 1 ≤ gap.missingIntervals
  exactly : gap.expectedOpenTimeMs + gap.missingIntervals * stepMs = gap.nextOpenTimeMs

/-- The hours gap forensics derives from a gap are those between its two candles, and none of them is
stored. -/
structure ListsMissingHours (candles : List Candle) (gap : GapRecord) : Prop where
  mem_iff : ∀ timeMs, timeMs ∈ missingHoursForGap gap ↔
    gap.previousOpenTimeMs < timeMs ∧ timeMs < gap.nextOpenTimeMs ∧
      oneHourMs ∣ timeMs - gap.previousOpenTimeMs
  notStored : ∀ c ∈ candles, c.openTimeMs ∉ missingHoursForGap gap

/-- Neighbouring candles are whole steps apart. -/
def WholeSteps (stepMs : ℤ) (candles : List Candle) : Prop :=
  candles.IsChain fun a b => stepMs ∣ b.openTimeMs - a.openTimeMs

instance (stepMs : ℤ) (candles : List Candle) : Decidable (WholeSteps stepMs candles) :=
  inferInstanceAs (Decidable (candles.IsChain _))

section Counts

variable {stepMs : ℤ}

/-- The count is a floor division: it is exact when nothing is left over. -/
theorem countsMissing_gapBetween_iff (hstep : 0 < stepMs) {a b : Candle}
    (hlater : a.openTimeMs < b.openTimeMs) (hgap : b.openTimeMs - a.openTimeMs ≠ stepMs) :
    CountsMissing stepMs (gapBetween stepMs a b) ↔ stepMs ∣ b.openTimeMs - a.openTimeMs := by
  constructor
  · intro hcounts
    have hexactly : a.openTimeMs + stepMs +
        ((b.openTimeMs - a.openTimeMs) / stepMs - 1) * stepMs = b.openTimeMs := hcounts.exactly
    refine ⟨(b.openTimeMs - a.openTimeMs) / stepMs, ?_⟩
    linarith
  · intro hdvd
    rcases hdvd with ⟨k, hk⟩
    have hquotient : (b.openTimeMs - a.openTimeMs) / stepMs = k := by
      rw [hk]
      exact Int.mul_ediv_cancel_left k hstep.ne'
    have hpos : 0 < k := by
      have hmul : 0 < stepMs * k := by omega
      exact (mul_pos_iff_of_pos_left hstep).1 hmul
    have hne : k ≠ 1 := by
      intro hone
      rw [hone, mul_one] at hk
      exact hgap hk
    constructor
    · simp only [gapBetween, hquotient]
      omega
    · simp only [gapBetween, hquotient]
      linarith

theorem countsMissing_gapsFrom_iff (hstep : 0 < stepMs) {previous : Candle} {rest : List Candle}
    (hordered : Ordered (previous :: rest)) :
    (∀ gap ∈ gapsFrom stepMs previous rest, CountsMissing stepMs gap) ↔
      WholeSteps stepMs (previous :: rest) := by
  induction rest generalizing previous with
  | nil => simp [gapsFrom, WholeSteps]
  | cons candle rest ih =>
      have hlater : previous.openTimeMs < candle.openTimeMs := hordered.head_lt List.mem_cons_self
      have hrest := ih hordered.tail
      simp only [WholeSteps, List.isChain_cons_cons] at hrest ⊢
      by_cases hadjacent : adjacent stepMs previous candle = true
      · have hone : candle.openTimeMs - previous.openTimeMs = stepMs := of_decide_eq_true hadjacent
        simp only [gapsFrom, hadjacent, if_true, hrest]
        rw [hone]
        simp
      · have hgap : candle.openTimeMs - previous.openTimeMs ≠ stepMs :=
          fun heq => hadjacent (decide_eq_true heq)
        simp only [gapsFrom, hadjacent, Bool.false_eq_true, if_false]
        rw [List.forall_mem_cons, countsMissing_gapBetween_iff hstep hlater hgap, hrest]

/-- An exact count derives exactly the missing hours. -/
theorem CountsMissing.mem_missingHours_iff {gap : GapRecord} (h : CountsMissing oneHourMs gap)
    (hexpected : gap.expectedOpenTimeMs = gap.previousOpenTimeMs + oneHourMs) (timeMs : ℤ) :
    timeMs ∈ missingHoursForGap gap ↔
      gap.previousOpenTimeMs < timeMs ∧ timeMs < gap.nextOpenTimeMs ∧
        oneHourMs ∣ timeMs - gap.previousOpenTimeMs := by
  have hexactly := h.exactly
  have hcount := h.atLeastOne
  rw [missingHoursForGap_eq]
  simp only [List.mem_map, List.mem_range]
  unfold oneHourMs at *
  constructor
  · intro hmem
    rcases hmem with ⟨i, hi, rfl⟩
    refine ⟨by omega, by omega, ⟨i + 1, ?_⟩⟩
    rw [hexpected]
    ring
  · intro hbetween
    rcases hbetween with ⟨hafter, hbefore, k, hk⟩
    exact ⟨(k - 1).toNat, by omega, by omega⟩

end Counts

/-- The gap records count the missing candles exactly, and the hours derived from them are the missing
ones, exactly when neighbouring candles are whole steps apart. -/
theorem gap_counts_exact_iff {stepMs : ℤ} (hstep : 0 < stepMs) {candles : List Candle}
    {result : SegmentationResult} (h : partitionIntoSegments stepMs candles = .ok result) :
    (∀ gap ∈ result.gaps, CountsMissing stepMs gap ∧
      (stepMs = oneHourMs → ListsMissingHours candles gap)) ↔ WholeSteps stepMs candles := by
  rcases partitionIntoSegments_eq_ok h with ⟨hne, hordered, rfl⟩
  have hcounts : (∀ gap ∈ gapsOf stepMs candles, CountsMissing stepMs gap) ↔
      WholeSteps stepMs candles := by
    cases candles with
    | nil => exact absurd rfl hne
    | cons candle rest => exact countsMissing_gapsFrom_iff hstep hordered
  rw [← hcounts]
  constructor
  · intro hall gap hgap
    exact (hall gap hgap).1
  · intro hall gap hgap
    refine ⟨hall gap hgap, ?_⟩
    intro hhour
    subst hhour
    rcases (mem_gapsOf_iff hordered).1 hgap with ⟨a, b, hab, rfl⟩
    have hmem := (hall _ hgap).mem_missingHours_iff rfl
    refine ⟨hmem, ?_⟩
    intro c hc hmissing
    rcases (hmem c.openTimeMs).1 hmissing with ⟨hafter, hbefore, -⟩
    -- no candle lies between the two candles of a gap
    rcases hab.noneBetween c hc with hle | hle
    · exact absurd hafter (not_lt.2 hle)
    · exact absurd hbefore (not_lt.2 hle)

namespace Scenario

/-- An hourly candle that opens at this time. -/
def hourlyAt (openTimeMs : ℤ) : Candle where
  symbol := "BTCUSDT"
  interval := "1h"
  openTimeMs := openTimeMs
  closeTimeMs := openTimeMs + 3599999
  «open» := 100
  high := 100
  low := 100
  close := 100
  volume := 1

end Scenario

/-- Three hours with the middle one missing: one gap, which counts it. -/
theorem gap_counts_exact_iff_one_hour :
    ∃ result, partitionIntoSegments oneHourMs
        [Scenario.hourlyAt 0, Scenario.hourlyAt 7200000] = .ok result ∧
      result.gaps.map GapRecord.missingIntervals = [1] ∧
      ∀ gap ∈ result.gaps, CountsMissing oneHourMs gap ∧
        (oneHourMs = oneHourMs →
          ListsMissingHours [Scenario.hourlyAt 0, Scenario.hourlyAt 7200000] gap) := by
  have hpartition : partitionIntoSegments oneHourMs
      [Scenario.hourlyAt 0, Scenario.hourlyAt 7200000] =
      .ok ⟨[[Scenario.hourlyAt 0], [Scenario.hourlyAt 7200000]],
        [gapBetween oneHourMs (Scenario.hourlyAt 0) (Scenario.hourlyAt 7200000)]⟩ := by
    decide +kernel
  exact ⟨_, hpartition, by decide, (gap_counts_exact_iff (by decide) hpartition).2 (by decide)⟩

/-- A candle half an hour after an hourly one: the record of the gap counts minus one candle. -/
theorem half_hour_gap_miscounts :
    ∃ result, partitionIntoSegments oneHourMs
        [Scenario.hourlyAt 0, Scenario.hourlyAt 1800000] = .ok result ∧
      Ordered [Scenario.hourlyAt 0, Scenario.hourlyAt 1800000] ∧
      result.gaps.map GapRecord.missingIntervals = [-1] ∧
      ¬∀ gap ∈ result.gaps, CountsMissing oneHourMs gap := by
  refine ⟨⟨[[Scenario.hourlyAt 0], [Scenario.hourlyAt 1800000]],
    [gapBetween oneHourMs (Scenario.hourlyAt 0) (Scenario.hourlyAt 1800000)]⟩,
    by decide +kernel, by decide, by decide, ?_⟩
  intro hall
  have hcount : (1 : ℤ) ≤ -1 := (hall _ List.mem_cons_self).atLeastOne
  omega

end TradingAgent
