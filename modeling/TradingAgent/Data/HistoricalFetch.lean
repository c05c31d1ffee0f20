import TradingAgent.Data.GapDetection
import Mathlib.Data.List.Sort

/-!
# Historical fetch — paginated download of a range of candles

`data/historical_fetch.py` and `data/boundary.py`.  The exchange is a parameter: it answers each
request depending on the calls made so far, with candles or with a failure.  The calls are logged;
sleeping between retries has no effect here.

* `fetchHistoricalRange` pages through the range, then looks for gaps and queries each again;
* `fetched_below_end` holds whatever the exchange answers: no candle at or after the end is returned.
-/

namespace TradingAgent

/-! ## Requests -/

structure KlineRequest where
  startTimeMs : ℤ
  endTimeMs : ℤ
  limit : ℤ
  deriving DecidableEq, Repr

/-- How a request fails: an exception of the transport or a status that reports an error
(`RequestException`), or anything else. -/
inductive KlineFailure where
  | request (text : String)
  | other (text : String)
  deriving DecidableEq, Repr

structure KlineCall where
  request : KlineRequest
  answer : Except KlineFailure (List Candle)

/-- What the exchange answers to a request after the calls made so far. -/
abbrev KlineClient := List KlineCall → KlineRequest → Except KlineFailure (List Candle)

inductive HistoricalFetchError where
  | pageFailed (startTimeMs : ℤ) (attempts : ℕ) (lastException : Option String)
  | atOrAfterEnd (endTimeMs : ℤ) (offending : List ℤ)
  | client (text : String)
  | data (error : PyError)
  deriving DecidableEq, Repr

def HistoricalFetchError.message : HistoricalFetchError → String
  | .pageFailed startTimeMs attempts lastException =>
      s!"failed to fetch page starting at {startTimeMs} after {attempts} attempts: " ++
        lastException.getD "None"
  | .atOrAfterEnd endTimeMs offending =>
      s!"{offending.length} candle(s) at or after the requested exclusive end " ++
        s!"({endTimeMs}ms) survived filtering - refusing to return them for storage: {offending}"
  | .client text => text
  | .data _ => "invalid candle data"

/-! ## The boundary -/

def exclusiveUpperBoundForRequest (endTimeMs : ℤ) : ℤ := endTimeMs - 1

def belowExclusiveEnd (candles : List Candle) (endTimeMs : Option ℤ) : List Candle :=
  match endTimeMs with
  | none => candles
  | some endTimeMs => candles.filter fun c => c.openTimeMs < endTimeMs

/-- `_dedup_by_open_time`: the last candle of each open time, sorted. -/
def dedupByOpenTime (candles : List Candle) : List Candle :=
  let seen : Dict ℤ Candle := candles.foldl (fun d c => d.set c.openTimeMs c) []
  (seen.map Prod.snd).insertionSort fun a b => a.openTimeMs ≤ b.openTimeMs

/-! ## Fetching -/

structure HistoricalFetchResult where
  candles : List Candle
  confirmedGaps : List GapRecord
  deriving DecidableEq, Repr

/-- What a download under way returns, with the calls it has made. -/
abbrev Fetched (α : Type) := Except HistoricalFetchError α × List KlineCall

/-- The arguments that stay the same throughout a download. -/
structure FetchEnv where
  client : KlineClient
  stepMs : ℤ
  maxRetries : ℕ

/-- `_fetch_page_with_retries`, with `left` attempts left. -/
def fetchPageWithRetries (env : FetchEnv) (request : KlineRequest) (endTimeMs : ℤ) :
    (left : ℕ) → List KlineCall → Option String → Fetched (List Candle)
  | 0, calls, lastException =>
      (.error (.pageFailed request.startTimeMs env.maxRetries lastException), calls)
  | left + 1, calls, _ =>
      let answer := env.client calls request
      let calls' := calls ++ [⟨request, answer⟩]
      match answer with
      | .ok page => (.ok (belowExclusiveEnd page (some endTimeMs)), calls')
      | .error (.request text) =>
          fetchPageWithRetries env request endTimeMs left calls' (some text)
      | .error (.other text) => (.error (.client text), calls')

def pageRequest (cursor endTimeMs : ℤ) (pageLimit : ℕ) : KlineRequest where
  startTimeMs := cursor
  endTimeMs := exclusiveUpperBoundForRequest endTimeMs
  limit := pageLimit

/-- The paging loop; `none` where it has not ended after `fuel` rounds. -/
def fetchPages (env : FetchEnv) (endTimeMs : ℤ) (pageLimit : ℕ) :
    (fuel : ℕ) → ℤ → List Candle → List KlineCall → Option (Fetched (List Candle))
  | 0, _, _, _ => none
  | fuel + 1, cursor, allCandles, calls =>
      if cursor < endTimeMs then
        match fetchPageWithRetries env (pageRequest cursor endTimeMs pageLimit) endTimeMs
          env.maxRetries calls none with
        | (.error e, calls') => some (.error e, calls')
        | (.ok page, calls') =>
            match page.getLast? with
            | none => some (.ok allCandles, calls')
            | some last =>
                if page.length < pageLimit then some (.ok (allCandles ++ page), calls')
                else
                  fetchPages env endTimeMs pageLimit fuel (last.openTimeMs + env.stepMs)
                    (allCandles ++ page) calls'
      else some (.ok allCandles, calls)

def recoveryRequest (gap : GapRecord) : KlineRequest where
  startTimeMs := gap.expectedOpenTimeMs
  endTimeMs := exclusiveUpperBoundForRequest gap.nextOpenTimeMs
  limit := gap.missingIntervals + 2

/-- `_attempt_narrow_recovery`, with `left` attempts left. -/
def attemptNarrowRecovery (env : FetchEnv) (gap : GapRecord) (endTimeMs : Option ℤ) :
    (left : ℕ) → List KlineCall → Fetched (List Candle)
  | 0, calls => (.ok [], calls)
  | left + 1, calls =>
      let answer := env.client calls (recoveryRequest gap)
      let calls' := calls ++ [⟨recoveryRequest gap, answer⟩]
      match answer with
      | .error (.request _) => attemptNarrowRecovery env gap endTimeMs left calls'
      | .error (.other text) => (.error (.client text), calls')
      | .ok page =>
          let inGap := page.filter fun c =>
            gap.expectedOpenTimeMs ≤ c.openTimeMs ∧ c.openTimeMs < gap.nextOpenTimeMs
          let found := belowExclusiveEnd inGap endTimeMs
          if found.isEmpty = false then (.ok found, calls')
          else attemptNarrowRecovery env gap endTimeMs left calls'

/-- The candles recovered for every gap, in turn. -/
def recoverGaps (env : FetchEnv) (endTimeMs : Option ℤ) :
    List GapRecord → List Candle → List KlineCall → Fetched (List Candle)
  | [], recovered, calls => (.ok recovered, calls)
  | gap :: rest, recovered, calls =>
      match attemptNarrowRecovery env gap endTimeMs env.maxRetries calls with
      | (.error e, calls') => (.error e, calls')
      | (.ok found, calls') => recoverGaps env endTimeMs rest (recovered ++ found) calls'

def segmentation (stepMs : ℤ) (candles : List Candle) :
    Except HistoricalFetchError SegmentationResult :=
  match partitionIntoSegments stepMs candles with
  | .ok result => .ok result
  | .error e => .error (.data e)

def confirmGaps (env : FetchEnv) (candles : List Candle) (endTimeMs : Option ℤ)
    (calls : List KlineCall) : Fetched HistoricalFetchResult :=
  match segmentation env.stepMs candles with
  | .error e => (.error e, calls)
  | .ok first =>
      if first.gaps.isEmpty then (.ok ⟨candles, []⟩, calls)
      else
        match recoverGaps env endTimeMs first.gaps candles calls with
        | (.error e, calls') => (.error e, calls')
        | (.ok recovered, calls') =>
            let finalCandles := dedupByOpenTime recovered
            match segmentation env.stepMs finalCandles with
            | .error e => (.error e, calls')
            | .ok final => (.ok ⟨finalCandles, final.gaps⟩, calls')

/-- `_assert_no_candle_at_or_after`. -/
def assertNoCandleAtOrAfter (candles : List Candle) (endTimeMs : ℤ) :
    Except HistoricalFetchError Unit :=
  let offending := (candles.filter fun c => c.openTimeMs ≥ endTimeMs).map Candle.openTimeMs
  if offending.isEmpty = false then .error (.atOrAfterEnd endTimeMs offending) else .ok ()

/-- What remains to be done with the candles of all pages. -/
def completeDownload (env : FetchEnv) (endTimeMs referenceTimeMs : ℤ) (allCandles : List Candle)
    (calls : List KlineCall) : Fetched HistoricalFetchResult :=
  let belowEnd := belowExclusiveEnd allCandles (some endTimeMs)
  let completed := belowEnd.filter fun c => c.closeTimeMs < referenceTimeMs
  let deduped := dedupByOpenTime completed
  if deduped.isEmpty then (.ok ⟨[], []⟩, calls)
  else
    match confirmGaps env deduped (some endTimeMs) calls with
    | (.error e, calls') => (.error e, calls')
    | (.ok result, calls') =>
        match assertNoCandleAtOrAfter result.candles endTimeMs with
        | .error e => (.error e, calls')
        | .ok () => (.ok result, calls')

/-- `fetch_historical_range`; `none` where its paging loop has not ended after `fuel` rounds. -/
def fetchHistoricalRange (env : FetchEnv) (startTimeMs endTimeMs : ℤ) (pageLimit : ℕ)
    (referenceTimeMs : ℤ) (fuel : ℕ) : Option (Fetched HistoricalFetchResult) :=
  match fetchPages env endTimeMs pageLimit fuel startTimeMs [] [] with
  | none => none
  | some (.error e, calls) => some (.error e, calls)
  | some (.ok allCandles, calls) =>
      some (completeDownload env endTimeMs referenceTimeMs allCandles calls)

/-! ## Deduplication -/

section Dedup

variable {candles : List Candle} {c : Candle}

theorem mem_dedupByOpenTime : c ∈ dedupByOpenTime candles ↔
    c ∈ (Dict.setAll Candle.openTimeMs [] candles).map Prod.snd :=
  List.mem_insertionSort _

theorem mem_of_mem_dedup (h : c ∈ dedupByOpenTime candles) : c ∈ candles := by
  rcases List.mem_map.1 (mem_dedupByOpenTime.1 h) with ⟨p, hp, rfl⟩
  rcases Dict.mem_of_mem_setAll hp with hp | hp
  · cases hp
  · exact hp

/-- Every open time of the list is that of a candle kept. -/
theorem exists_mem_dedup (h : c ∈ candles) :
    ∃ d ∈ dedupByOpenTime candles, d.openTimeMs = c.openTimeMs := by
  have hkey : c.openTimeMs ∈ (Dict.setAll Candle.openTimeMs [] candles).map Prod.fst :=
    Dict.mem_keys_setAll.2 (.inr ⟨c, h, rfl⟩)
  have hkeyed : Dict.KeyedBy Candle.openTimeMs (Dict.setAll Candle.openTimeMs [] candles) :=
    Dict.KeyedBy.setAll (by simp [Dict.KeyedBy]) candles
  rcases List.mem_map.1 hkey with ⟨p, hp, hpk⟩
  exact ⟨p.2, mem_dedupByOpenTime.2 (List.mem_map_of_mem hp), (hkeyed p hp).trans hpk⟩

/-- Candles stored under their open times, sorted by these, are in order. -/
theorem ordered_of_keyed {d : Dict ℤ Candle} (hkeyed : Dict.KeyedBy Candle.openTimeMs d)
    (hkeys : (d.map Prod.fst).Nodup) :
    Ordered ((d.map Prod.snd).insertionSort fun a b => a.openTimeMs ≤ b.openTimeMs) := by
  -- the values have pairwise distinct open times, because these are their keys
  have htimes : ((d.map Prod.snd).map Candle.openTimeMs).Nodup := by
    rw [List.map_map]
    have heq : d.map (Candle.openTimeMs ∘ Prod.snd) = d.map Prod.fst := List.map_congr_left hkeyed
    rwa [heq]
  have hsorted : ((d.map Prod.snd).insertionSort fun a b => a.openTimeMs ≤ b.openTimeMs).Pairwise
      fun a b => a.openTimeMs ≤ b.openTimeMs := by
    have : Std.Total fun a b : Candle => a.openTimeMs ≤ b.openTimeMs :=
      ⟨fun a b => le_total a.openTimeMs b.openTimeMs⟩
    have : IsTrans Candle fun a b => a.openTimeMs ≤ b.openTimeMs :=
      ⟨fun _ _ _ hab hbc => le_trans hab hbc⟩
    exact List.pairwise_insertionSort _ _
  have hperm := List.perm_insertionSort (fun a b : Candle => a.openTimeMs ≤ b.openTimeMs)
    (d.map Prod.snd)
  have hdistinct := List.pairwise_map.1 ((hperm.map Candle.openTimeMs).nodup_iff.2 htimes)
  exact hsorted.imp₂ (fun _ _ hle hne => lt_of_le_of_ne hle hne) hdistinct

theorem ordered_dedup (candles : List Candle) : Ordered (dedupByOpenTime candles) :=
  ordered_of_keyed (Dict.KeyedBy.setAll (by simp [Dict.KeyedBy]) candles)
    (Dict.nodup_keys_setAll (by simp) candles)

/-- A list in order is kept as it is. -/
theorem dedup_of_ordered (h : Ordered candles) : dedupByOpenTime candles = candles := by
  have hnodup : (candles.map Candle.openTimeMs).Nodup :=
    List.pairwise_map.2 (h.imp fun hlt => hlt.ne)
  have hset : Dict.setAll Candle.openTimeMs [] candles = candles.map fun c => (c.openTimeMs, c) := by
    simpa using Dict.setAll_of_fresh (d := []) hnodup (by simp)
  have hvalues : (Dict.setAll Candle.openTimeMs [] candles).map Prod.snd = candles := by
    rw [hset, List.map_map]
    exact List.map_id candles
  have hsorted : candles.Pairwise fun a b => a.openTimeMs ≤ b.openTimeMs := h.imp fun hlt => hlt.le
  calc dedupByOpenTime candles
      = ((Dict.setAll Candle.openTimeMs [] candles).map Prod.snd).insertionSort _ := rfl
    _ = candles.insertionSort _ := by rw [hvalues]
    _ = candles := hsorted.insertionSort_eq

end Dedup

/-! ## The end of the range, whatever the exchange answers -/

section Boundary

variable {env : FetchEnv} {endTimeMs : ℤ}

theorem mem_belowExclusiveEnd {candles : List Candle} {c : Candle} :
    c ∈ belowExclusiveEnd candles (some endTimeMs) ↔ c ∈ candles ∧ c.openTimeMs < endTimeMs := by
  simp [belowExclusiveEnd]

/-- Whether the final check of the boundary raised. -/
def HistoricalFetchError.isAtOrAfterEnd : HistoricalFetchError → Bool
  | .atOrAfterEnd _ _ => true
  | _ => false

theorem fetchPageWithRetries_error {request : KlineRequest} {left : ℕ} {calls calls' : List KlineCall}
    {lastException : Option String} {e : HistoricalFetchError}
    (h : fetchPageWithRetries env request endTimeMs left calls lastException = (.error e, calls')) :
    e.isAtOrAfterEnd = false := by
  induction left generalizing calls lastException with
  | zero =>
      cases h
      rfl
  | succ left ih =>
      simp only [fetchPageWithRetries] at h
      split at h
      · cases h
      · exact ih h
      · cases h
        rfl

theorem fetchPages_error {pageLimit fuel : ℕ} {cursor : ℤ} {allCandles : List Candle}
    {calls calls' : List KlineCall} {e : HistoricalFetchError}
    (h : fetchPages env endTimeMs pageLimit fuel cursor allCandles calls = some (.error e, calls')) :
    e.isAtOrAfterEnd = false := by
  induction fuel generalizing cursor allCandles calls with
  | zero => cases h
  | succ fuel ih =>
      simp only [fetchPages] at h
      split at h
      · split at h
        · rename_i hpage
          cases h
          exact fetchPageWithRetries_error hpage
        · split at h
          · cases h
          · split at h
            · cases h
            · exact ih h
      · cases h

theorem attemptNarrowRecovery_error {gap : GapRecord} {endTime : Option ℤ} {left : ℕ}
    {calls calls' : List KlineCall} {e : HistoricalFetchError}
    (h : attemptNarrowRecovery env gap endTime left calls = (.error e, calls')) :
    e.isAtOrAfterEnd = false := by
  induction left generalizing calls with
  | zero => cases h
  | succ left ih =>
      simp only [attemptNarrowRecovery] at h
      split at h
      · exact ih h
      · cases h
        rfl
      · split at h
        · cases h
        · exact ih h

/-- What a focused request recovers lies in the gap and below the end. -/
theorem mem_attemptNarrowRecovery {gap : GapRecord} {left : ℕ} {calls calls' : List KlineCall}
    {found : List Candle} {c : Candle}
    (h : attemptNarrowRecovery env gap (some endTimeMs) left calls = (.ok found, calls'))
    (hc : c ∈ found) : gap.Covers c.openTimeMs ∧ c.openTimeMs < endTimeMs := by
  induction left generalizing calls with
  | zero =>
      cases h
      cases hc
  | succ left ih =>
      simp only [attemptNarrowRecovery] at h
      split at h
      · exact ih h
      · cases h
      · split at h
        · cases h
          have hmem := mem_belowExclusiveEnd.1 hc
          exact ⟨by simpa [GapRecord.Covers] using (List.mem_filter.1 hmem.1).2, hmem.2⟩
        · exact ih h

theorem recoverGaps_below_end {gaps : List GapRecord} {recovered found : List Candle}
    {calls calls' : List KlineCall} (hbelow : ∀ c ∈ recovered, c.openTimeMs < endTimeMs)
    (h : recoverGaps env (some endTimeMs) gaps recovered calls = (.ok found, calls')) :
    ∀ c ∈ found, c.openTimeMs < endTimeMs := by
  induction gaps generalizing recovered calls with
  | nil =>
      cases h
      exact hbelow
  | cons gap rest ih =>
      simp only [recoverGaps] at h
      split at h
      · cases h
      · rename_i hattempt
        refine ih ?_ h
        intro c hc
        rcases List.mem_append.1 hc with hc | hc
        · exact hbelow c hc
        · exact (mem_attemptNarrowRecovery hattempt hc).2

theorem recoverGaps_error {gaps : List GapRecord} {endTime : Option ℤ} {recovered : List Candle}
    {calls calls' : List KlineCall} {e : HistoricalFetchError}
    (h : recoverGaps env endTime gaps recovered calls = (.error e, calls')) :
    e.isAtOrAfterEnd = false := by
  induction gaps generalizing recovered calls with
  | nil => cases h
  | cons gap rest ih =>
      simp only [recoverGaps] at h
      split at h
      · rename_i hattempt
        cases h
        exact attemptNarrowRecovery_error hattempt
      · exact ih h

theorem segmentation_error {stepMs : ℤ} {candles : List Candle} {e : HistoricalFetchError}
    (h : segmentation stepMs candles = .error e) : e.isAtOrAfterEnd = false := by
  unfold segmentation at h
  split at h
  · cases h
  · cases h
    rfl

/-- Confirming the gaps of candles below the end returns candles below the end. -/
theorem confirmGaps_below_end {candles : List Candle} {calls calls' : List KlineCall}
    {outcome : Except HistoricalFetchError HistoricalFetchResult}
    (hbelow : ∀ c ∈ candles, c.openTimeMs < endTimeMs)
    (h : confirmGaps env candles (some endTimeMs) calls = (outcome, calls')) :
    (∀ result, outcome = .ok result → ∀ c ∈ result.candles, c.openTimeMs < endTimeMs) ∧
      ∀ e, outcome = .error e → e.isAtOrAfterEnd = false := by
  unfold confirmGaps at h
  -- either segmentation may raise, and recovery adds candles below the end only
  split at h
  · rename_i e hsegmentation
    cases h
    exact ⟨by simp, fun e' he' => by cases he'; exact segmentation_error hsegmentation⟩
  split at h
  · cases h
    refine ⟨?_, by simp⟩
    intro result hresult
    cases hresult
    exact hbelow
  split at h
  · rename_i hrecover
    cases h
    exact ⟨by simp, fun e' he' => by cases he'; exact recoverGaps_error hrecover⟩
  rename_i recovered calls₁ hrecover
  simp only at h
  split at h
  · rename_i e hsegmentation
    cases h
    exact ⟨by simp, fun e' he' => by cases he'; exact segmentation_error hsegmentation⟩
  · cases h
    refine ⟨?_, by simp⟩
    intro result hresult
    cases hresult
    intro c hc
    exact recoverGaps_below_end hbelow hrecover c (mem_of_mem_dedup hc)

theorem assertNoCandleAtOrAfter_of_below {candles : List Candle}
    (hbelow : ∀ c ∈ candles, c.openTimeMs < endTimeMs) :
    assertNoCandleAtOrAfter candles endTimeMs = .ok () := by
  have hnone : (candles.filter fun c => c.openTimeMs ≥ endTimeMs) = [] := by
    simpa using hbelow
  simp [assertNoCandleAtOrAfter, hnone]

/-- Whatever the exchange answers, no candle at or after the end is returned, and the final check
does not raise. -/
theorem fetched_below_end {startTimeMs referenceTimeMs : ℤ} {pageLimit fuel : ℕ}
    {outcome : Except HistoricalFetchError HistoricalFetchResult} {calls : List KlineCall}
    (h : fetchHistoricalRange env startTimeMs endTimeMs pageLimit referenceTimeMs fuel =
      some (outcome, calls)) :
    (∀ result, outcome = .ok result → ∀ c ∈ result.candles, c.openTimeMs < endTimeMs) ∧
      ∀ e, outcome = .error e → e.isAtOrAfterEnd = false := by
  unfold fetchHistoricalRange at h
  split at h
  · cases h
  · rename_i hpages
    cases h
    exact ⟨by simp, fun e' he' => by cases he'; exact fetchPages_error hpages⟩
  rename_i allCandles calls₀ hpages
  have hcomplete := Option.some.inj h
  unfold completeDownload at hcomplete
  simp only at hcomplete
  split at hcomplete
  · cases hcomplete
    refine ⟨?_, by simp⟩
    intro result hresult
    cases hresult
    simp
  -- the pages were filtered before the gaps were looked for
  have hbelow : ∀ c ∈ dedupByOpenTime ((belowExclusiveEnd allCandles (some endTimeMs)).filter
      fun c => c.closeTimeMs < referenceTimeMs), c.openTimeMs < endTimeMs := by
    intro c hc
    have hmem := List.mem_filter.1 (mem_of_mem_dedup hc)
    exact (mem_belowExclusiveEnd.1 hmem.1).2
  split at hcomplete
  · rename_i hconfirm
    cases hcomplete
    exact ⟨by simp, (confirmGaps_below_end hbelow hconfirm).2⟩
  · rename_i result calls₁ hconfirm
    have hresult := (confirmGaps_below_end hbelow hconfirm).1 result rfl
    rw [assertNoCandleAtOrAfter_of_below hresult] at hcomplete
    cases hcomplete
    refine ⟨?_, by simp⟩
    intro result' heq
    cases heq
    exact hresult

end Boundary

/-! ## What confirming the gaps returns -/

section Confirm

variable {env : FetchEnv} {candles : List Candle} {endTime : Option ℤ}

theorem segmentation_eq_ok {stepMs : ℤ} {result : SegmentationResult}
    (h : segmentation stepMs candles = .ok result) :
    Ordered candles ∧ result.gaps = gapsOf stepMs candles := by
  unfold segmentation at h
  split at h
  · rename_i hpartition
    cases h
    have hok := partitionIntoSegments_eq_ok hpartition
    exact ⟨hok.2.1, congrArg SegmentationResult.gaps hok.2.2⟩
  · cases h

/-- The result holds the candles recovered for the gaps, and the gaps between the candles it holds. -/
theorem confirmGaps_ok {calls calls' : List KlineCall} {result : HistoricalFetchResult}
    (h : confirmGaps env candles endTime calls = (.ok result, calls')) :
    ∃ recovered, recoverGaps env endTime (gapsOf env.stepMs candles) candles calls =
        (.ok recovered, calls') ∧
      result = ⟨dedupByOpenTime recovered, gapsOf env.stepMs (dedupByOpenTime recovered)⟩ := by
  unfold confirmGaps at h
  split at h
  · cases h
  rename_i first hfirst
  rcases segmentation_eq_ok hfirst with ⟨hordered, hgaps⟩
  split at h
  · rename_i hnone
    cases h
    -- without gaps nothing is requested again
    have hnil : gapsOf env.stepMs candles = [] := by
      rw [← hgaps]
      simpa using hnone
    refine ⟨candles, by rw [hnil]; rfl, ?_⟩
    rw [dedup_of_ordered hordered, hnil]
  split at h
  · cases h
  rename_i recovered calls₁ hrecover
  simp only at h
  split at h
  · cases h
  · rename_i final hfinal
    cases h
    rw [hgaps] at hrecover
    exact ⟨recovered, hrecover, by rw [(segmentation_eq_ok hfinal).2]⟩

end Confirm

end TradingAgent
