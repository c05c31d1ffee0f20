import TradingAgent.Data.HistoricalFetch

/-!
# Fetch completeness — an exchange that answers in full

An exchange with a finite history that answers each request with the first candles of the range
asked for, after a few failures at most.

* `fetchPages_complete`: the paging loop collects what is left of the range, whatever the cursor;
* `confirmGaps_complete`: looking again for the gaps of a complete list finds nothing;
* `fetch_historical_range_complete` puts the two together.
-/

namespace TradingAgent

/-- The candles an exchange has: in order, on one grid, each closing one millisecond before the next
one may open. -/
structure ExchangeHistory (stepMs : ℤ) where
  candles : List Candle
  ordered : Ordered candles
  aligned : ∀ a ∈ candles, ∀ b ∈ candles, stepMs ∣ b.openTimeMs - a.openTimeMs
  closes : ∀ c ∈ candles, c.closeTimeMs = c.openTimeMs + stepMs - 1

namespace ExchangeHistory

variable {stepMs : ℤ}

/-- The candles a request asks for. -/
def asked (history : ExchangeHistory stepMs) (request : KlineRequest) : List Candle :=
  history.candles.filter fun c =>
    request.startTimeMs ≤ c.openTimeMs ∧ c.openTimeMs ≤ request.endTimeMs

/-- The full answer to a request. -/
def answer (history : ExchangeHistory stepMs) (request : KlineRequest) : List Candle :=
  (history.asked request).take request.limit.toNat

/-- The candles of the half-open range that have closed. -/
def completedIn (history : ExchangeHistory stepMs) (startTimeMs endTimeMs referenceTimeMs : ℤ) :
    List Candle :=
  history.candles.filter fun c =>
    startTimeMs ≤ c.openTimeMs ∧ c.openTimeMs < endTimeMs ∧ c.closeTimeMs < referenceTimeMs

/-- What is left of a range at a cursor. -/
def remaining (history : ExchangeHistory stepMs) (endTimeMs cursor : ℤ) : List Candle :=
  history.candles.filter fun c => cursor ≤ c.openTimeMs ∧ c.openTimeMs < endTimeMs

/-- A later candle opens at least one step later. -/
theorem step_le (history : ExchangeHistory stepMs) {a b : Candle}
    (ha : a ∈ history.candles) (hb : b ∈ history.candles) (hlt : a.openTimeMs < b.openTimeMs) :
    a.openTimeMs + stepMs ≤ b.openTimeMs := by
  have hle := Int.le_of_dvd (by omega) (history.aligned a ha b hb)
  omega

end ExchangeHistory

/-- After the calls made so far the request is answered in full, with at most `failures` transient
failures before. -/
inductive ServedWithin {stepMs : ℤ} (client : KlineClient) (history : ExchangeHistory stepMs)
    (request : KlineRequest) : (failures : ℕ) → List KlineCall → Prop where
  | answered {failures : ℕ} {calls : List KlineCall}
      (h : client calls request = .ok (history.answer request)) :
      ServedWithin client history request failures calls
  | retried {failures : ℕ} {calls : List KlineCall} {text : String}
      (h : client calls request = .error (.request text))
      (rest : ServedWithin client history request failures
        (calls ++ [⟨request, .error (.request text)⟩])) :
      ServedWithin client history request (failures + 1) calls

section Lists

/-- What follows the first `n` candles of an ordered list opens after the last of them. -/
theorem Ordered.drop_eq_filter {candles : List Candle} (h : Ordered candles) {n : ℕ} {last : Candle}
    (hlast : (candles.take n).getLast? = some last) {timeMs : ℤ} (hafter : last.openTimeMs < timeMs)
    (hnext : ∀ c ∈ candles, last.openTimeMs < c.openTimeMs → timeMs ≤ c.openTimeMs) :
    candles.filter (fun c => timeMs ≤ c.openTimeMs) = candles.drop n := by
  have hsplit : candles.take n ++ candles.drop n = candles := List.take_append_drop n candles
  have happend : Ordered (candles.take n ++ candles.drop n) := hsplit.symm ▸ h
  have hpairs := List.pairwise_append.1 happend
  have hmem : last ∈ candles.take n := List.mem_of_getLast? hlast
  have htake : (candles.take n).filter (fun c => timeMs ≤ c.openTimeMs) = [] := by
    rw [List.filter_eq_nil_iff]
    intro c hc hle
    -- a candle of the first part opens no later than its last one
    have hc' : c.openTimeMs ≤ last.openTimeMs := by
      rcases List.getLast?_eq_some_iff.1 hlast with ⟨front, hfront⟩
      rw [hfront] at hc
      rcases List.mem_append.1 hc with hc | hc
      · have hpart : Ordered (front ++ [last]) := hfront ▸ hpairs.1
        exact ((List.pairwise_append.1 hpart).2.2 c hc last List.mem_cons_self).le
      · rw [List.mem_singleton.1 hc]
    have hle' : timeMs ≤ c.openTimeMs := by simpa using hle
    omega
  have hdrop : (candles.drop n).filter (fun c => timeMs ≤ c.openTimeMs) = candles.drop n := by
    rw [List.filter_eq_self]
    intro c hc
    have hlt : last.openTimeMs < c.openTimeMs := hpairs.2.2 last hmem c hc
    simpa using hnext c (List.mem_of_mem_drop hc) hlt
  calc candles.filter (fun c => timeMs ≤ c.openTimeMs)
      = (candles.take n ++ candles.drop n).filter (fun c => timeMs ≤ c.openTimeMs) := by rw [hsplit]
    _ = candles.drop n := by rw [List.filter_append, htake, hdrop, List.nil_append]

end Lists

section Pages

variable {stepMs : ℤ} {history : ExchangeHistory stepMs} {endTimeMs : ℤ} {pageLimit : ℕ}

/-- The page at a cursor holds the first candles of what is left. -/
theorem answer_pageRequest (cursor : ℤ) :
    history.answer (pageRequest cursor endTimeMs pageLimit) =
      (history.remaining endTimeMs cursor).take pageLimit := by
  have hasked : history.asked (pageRequest cursor endTimeMs pageLimit) =
      history.remaining endTimeMs cursor := by
    refine List.filter_congr ?_
    intro c _
    refine decide_eq_decide.2 ?_
    simp only [pageRequest, exclusiveUpperBoundForRequest]
    omega
  calc history.answer (pageRequest cursor endTimeMs pageLimit)
      = (history.asked (pageRequest cursor endTimeMs pageLimit)).take (pageLimit : ℤ).toNat := rfl
    _ = (history.remaining endTimeMs cursor).take pageLimit := by rw [hasked, Int.toNat_natCast]

theorem belowExclusiveEnd_answer (cursor : ℤ) :
    belowExclusiveEnd (history.answer (pageRequest cursor endTimeMs pageLimit)) (some endTimeMs) =
      (history.remaining endTimeMs cursor).take pageLimit := by
  rw [answer_pageRequest]
  refine List.filter_eq_self.2 ?_
  intro c hc
  have hmem := List.mem_filter.1 (List.mem_of_mem_take hc)
  simpa using (by simpa using hmem.2 : cursor ≤ c.openTimeMs ∧ c.openTimeMs < endTimeMs).2

/-- After a full page the cursor leaves what the page did not hold. -/
theorem remaining_next (hstep : 0 < stepMs) {cursor : ℤ} {last : Candle}
    (hlast : ((history.remaining endTimeMs cursor).take pageLimit).getLast? = some last) :
    history.remaining endTimeMs (last.openTimeMs + stepMs) =
      (history.remaining endTimeMs cursor).drop pageLimit := by
  have hlastMem : last ∈ history.remaining endTimeMs cursor :=
    List.mem_of_mem_take (List.mem_of_getLast? hlast)
  have hlastHistory := List.mem_filter.1 hlastMem
  have hcursor : cursor ≤ last.openTimeMs := (by simpa using hlastHistory.2 :
    cursor ≤ last.openTimeMs ∧ last.openTimeMs < endTimeMs).1
  -- on the grid the next candle opens at least one step later
  have hnext : ∀ c ∈ history.remaining endTimeMs cursor, last.openTimeMs < c.openTimeMs →
      last.openTimeMs + stepMs ≤ c.openTimeMs := by
    intro c hc hlt
    exact history.step_le hlastHistory.1 (List.mem_filter.1 hc).1 hlt
  have hdrop := (history.ordered.filter _).drop_eq_filter hlast (by omega) hnext
  calc history.remaining endTimeMs (last.openTimeMs + stepMs)
      = (history.remaining endTimeMs cursor).filter
          (fun c => last.openTimeMs + stepMs ≤ c.openTimeMs) := by
        unfold ExchangeHistory.remaining
        rw [List.filter_filter]
        refine List.filter_congr ?_
        intro c _
        rw [← Bool.decide_and]
        refine decide_eq_decide.2 ?_
        omega
    _ = (history.remaining endTimeMs cursor).drop pageLimit := hdrop

end Pages

section Paging

variable {env : FetchEnv} {history : ExchangeHistory env.stepMs} {endTimeMs : ℤ} {pageLimit : ℕ}

/-- A request that is served in time returns the full answer below the end. -/
theorem fetchPageWithRetries_served {request : KlineRequest} {failures left : ℕ}
    {calls : List KlineCall} {lastException : Option String}
    (hserved : ServedWithin env.client history request failures calls) (hleft : failures < left) :
    ∃ calls', fetchPageWithRetries env request endTimeMs left calls lastException =
      (.ok (belowExclusiveEnd (history.answer request) (some endTimeMs)), calls') := by
  induction hserved generalizing left lastException with
  | @answered failures calls h =>
      rcases Nat.exists_eq_succ_of_ne_zero (Nat.ne_of_gt (Nat.zero_lt_of_lt hleft)) with ⟨left, rfl⟩
      refine ⟨calls ++ [⟨request, .ok (history.answer request)⟩], ?_⟩
      simp only [fetchPageWithRetries, h]
  | @retried failures calls text h _ ih =>
      rcases Nat.exists_eq_succ_of_ne_zero (Nat.ne_of_gt (Nat.zero_lt_of_lt hleft)) with ⟨left, rfl⟩
      have hrest : ∃ calls', fetchPageWithRetries env request endTimeMs left
          (calls ++ [⟨request, .error (.request text)⟩]) (some text) = (.ok _, calls') :=
        ih (by omega)
      rcases hrest with ⟨calls', hcalls'⟩
      exact ⟨calls', by simpa only [fetchPageWithRetries, h] using hcalls'⟩

/-- The paging loop collects what is left of the range. -/
theorem fetchPages_complete (hstep : 0 < env.stepMs) (hlimit : 1 ≤ pageLimit)
    {failures : ℕ} (hretries : failures < env.maxRetries)
    (hserved : ∀ calls request, ServedWithin env.client history request failures calls)
    {fuel : ℕ} {cursor : ℤ} {allCandles : List Candle} {calls : List KlineCall}
    (hfuel : (history.remaining endTimeMs cursor).length < fuel) :
    ∃ calls', fetchPages env endTimeMs pageLimit fuel cursor allCandles calls =
      some (.ok (allCandles ++ history.remaining endTimeMs cursor), calls') := by
  induction fuel generalizing cursor allCandles calls with
  | zero => exact absurd hfuel (Nat.not_lt_zero _)
  | succ fuel ih =>
      by_cases hcursor : cursor < endTimeMs
      · have hpage : ∃ calls', fetchPageWithRetries env (pageRequest cursor endTimeMs pageLimit)
            endTimeMs env.maxRetries calls none = (.ok _, calls') :=
          fetchPageWithRetries_served (hserved calls _) hretries
        rcases hpage with ⟨calls₁, hpage⟩
        rw [belowExclusiveEnd_answer] at hpage
        simp only [fetchPages, hcursor, if_true, hpage]
        cases hlast : ((history.remaining endTimeMs cursor).take pageLimit).getLast? with
        | none =>
            -- an empty page: nothing is left
            have htake : (history.remaining endTimeMs cursor).take pageLimit = [] := by
              simpa using hlast
            have hnil : history.remaining endTimeMs cursor = [] := by
              rcases List.take_eq_nil_iff.1 htake with hzero | hnil
              · omega
              · exact hnil
            exact ⟨calls₁, by simp [hnil]⟩
        | some last =>
            by_cases hshort : ((history.remaining endTimeMs cursor).take pageLimit).length < pageLimit
            · -- a short page: it holds all that is left
              have hall : (history.remaining endTimeMs cursor).take pageLimit =
                  history.remaining endTimeMs cursor := by
                rw [List.length_take] at hshort
                exact List.take_of_length_le (by omega)
              refine ⟨calls₁, ?_⟩
              simp only [hshort, if_true]
              rw [hall]
            · -- a full page: the cursor moves past it
              have hnext := remaining_next hstep hlast
              have hlength : (history.remaining endTimeMs
                  (last.openTimeMs + env.stepMs)).length < fuel := by
                rw [List.length_take] at hshort
                rw [hnext, List.length_drop]
                omega
              have hrest : ∃ calls', fetchPages env endTimeMs pageLimit fuel
                  (last.openTimeMs + env.stepMs)
                  (allCandles ++ (history.remaining endTimeMs cursor).take pageLimit) calls₁ =
                    some (.ok _, calls') := ih hlength
              rcases hrest with ⟨calls₂, hrest⟩
              refine ⟨calls₂, ?_⟩
              simp only [hshort, if_false, hrest, hnext, List.append_assoc, List.take_append_drop]
      · have hnil : history.remaining endTimeMs cursor = [] := by
          refine List.filter_eq_nil_iff.2 ?_
          intro c _ hc
          have hc' : cursor ≤ c.openTimeMs ∧ c.openTimeMs < endTimeMs := by simpa using hc
          omega
        exact ⟨calls, by simp [fetchPages, hcursor, hnil]⟩

end Paging

/-! ## Gaps -/

section Gaps

variable {env : FetchEnv} {history : ExchangeHistory env.stepMs}
  {startTimeMs endTimeMs referenceTimeMs : ℤ}

/-- A gap in which the exchange has no candle is requested in vain. -/
theorem attemptNarrowRecovery_nothing {gap : GapRecord} {failures : ℕ}
    (hserved : ∀ calls request, ServedWithin env.client history request failures calls)
    (hnone : ∀ c ∈ history.candles, ¬gap.Covers c.openTimeMs) (endTime : Option ℤ) (left : ℕ)
    (calls : List KlineCall) :
    ∃ calls', attemptNarrowRecovery env gap endTime left calls = (.ok [], calls') := by
  induction left generalizing calls with
  | zero => exact ⟨calls, rfl⟩
  | succ left ih =>
      cases hserved calls (recoveryRequest gap) with
      | answered h =>
          have hinGap : ((history.answer (recoveryRequest gap)).filter fun c =>
              gap.expectedOpenTimeMs ≤ c.openTimeMs ∧ c.openTimeMs < gap.nextOpenTimeMs) = [] := by
            refine List.filter_eq_nil_iff.2 ?_
            intro c hc hcovers
            have hmem := List.mem_filter.1 (List.mem_of_mem_take hc)
            exact hnone c hmem.1 (by simpa [GapRecord.Covers] using hcovers)
          have hfound : belowExclusiveEnd [] endTime = [] := by
            cases endTime <;> rfl
          rcases ih (calls ++ [⟨recoveryRequest gap, .ok (history.answer (recoveryRequest gap))⟩])
            with ⟨calls', hrest⟩
          refine ⟨calls', ?_⟩
          simpa only [attemptNarrowRecovery, h, hinGap, hfound, List.isEmpty_nil, Bool.true_eq_false,
            if_false] using hrest
      | @retried _ _ text h _ =>
          rcases ih (calls ++ [⟨recoveryRequest gap, .error (.request text)⟩]) with ⟨calls', hrest⟩
          refine ⟨calls', ?_⟩
          simpa only [attemptNarrowRecovery, h] using hrest

theorem recoverGaps_nothing {gaps : List GapRecord} {failures : ℕ}
    (hserved : ∀ calls request, ServedWithin env.client history request failures calls)
    (hnone : ∀ gap ∈ gaps, ∀ c ∈ history.candles, ¬gap.Covers c.openTimeMs) (endTime : Option ℤ)
    (recovered : List Candle) (calls : List KlineCall) :
    ∃ calls', recoverGaps env endTime gaps recovered calls = (.ok recovered, calls') := by
  induction gaps generalizing calls with
  | nil => exact ⟨calls, rfl⟩
  | cons gap rest ih =>
      rcases attemptNarrowRecovery_nothing hserved (hnone gap List.mem_cons_self) endTime
        env.maxRetries calls with ⟨calls₁, hattempt⟩
      rcases ih (fun g hg => hnone g (List.mem_cons_of_mem _ hg)) calls₁ with ⟨calls₂, hrest⟩
      exact ⟨calls₂, by simpa [recoverGaps, hattempt] using hrest⟩

theorem mem_completedIn {c : Candle} :
    c ∈ history.completedIn startTimeMs endTimeMs referenceTimeMs ↔ c ∈ history.candles ∧
      startTimeMs ≤ c.openTimeMs ∧ c.openTimeMs < endTimeMs ∧ c.closeTimeMs < referenceTimeMs := by
  simp [ExchangeHistory.completedIn]

theorem ordered_completedIn (history : ExchangeHistory env.stepMs)
    (startTimeMs endTimeMs referenceTimeMs : ℤ) :
    Ordered (history.completedIn startTimeMs endTimeMs referenceTimeMs) :=
  history.ordered.filter _

/-- A candle of the exchange that opens between two completed ones of the range is one of them. -/
theorem mem_completedIn_between {a b c : Candle}
    (ha : a ∈ history.completedIn startTimeMs endTimeMs referenceTimeMs)
    (hb : b ∈ history.completedIn startTimeMs endTimeMs referenceTimeMs)
    (hc : c ∈ history.candles) (hle : a.openTimeMs ≤ c.openTimeMs)
    (hlt : c.openTimeMs < b.openTimeMs) :
    c ∈ history.completedIn startTimeMs endTimeMs referenceTimeMs := by
  rcases mem_completedIn.1 ha with ⟨-, hstart, -, -⟩
  rcases mem_completedIn.1 hb with ⟨hbMem, -, hend, hcompleted⟩
  have hbClose := history.closes b hbMem
  have hcClose := history.closes c hc
  exact mem_completedIn.2 ⟨hc, by omega, by omega, by omega⟩

theorem not_covers_of_gap_of_completedIn (hstep : 0 < env.stepMs) {gap : GapRecord}
    (hgap : gap ∈ gapsOf env.stepMs (history.completedIn startTimeMs endTimeMs referenceTimeMs)) :
    ∀ c ∈ history.candles, ¬gap.Covers c.openTimeMs := by
  intro c hc hcovers
  rcases (mem_gapsOf_iff (ordered_completedIn history startTimeMs endTimeMs referenceTimeMs)).1 hgap with ⟨a, b, hab, rfl⟩
  have hexpected : a.openTimeMs + env.stepMs ≤ c.openTimeMs := hcovers.1
  have hmem := mem_completedIn_between hab.previousMem hab.nextMem hc (by omega) hcovers.2
  exact not_covers_of_mem_gapsOf hstep (ordered_completedIn _ _ _ _) hgap hmem hcovers

/-- Looking again for the gaps of a complete list changes nothing. -/
theorem confirmGaps_complete (hstep : 0 < env.stepMs) {failures : ℕ}
    (hserved : ∀ calls request, ServedWithin env.client history request failures calls)
    (hne : history.completedIn startTimeMs endTimeMs referenceTimeMs ≠ []) (endTime : Option ℤ)
    (calls : List KlineCall) :
    ∃ calls', confirmGaps env (history.completedIn startTimeMs endTimeMs referenceTimeMs) endTime
      calls = (.ok ⟨history.completedIn startTimeMs endTimeMs referenceTimeMs,
        gapsOf env.stepMs (history.completedIn startTimeMs endTimeMs referenceTimeMs)⟩, calls') := by
  have hsegmentation : segmentation env.stepMs
      (history.completedIn startTimeMs endTimeMs referenceTimeMs) =
      .ok ⟨segmentsOf env.stepMs (history.completedIn startTimeMs endTimeMs referenceTimeMs),
        gapsOf env.stepMs (history.completedIn startTimeMs endTimeMs referenceTimeMs)⟩ := by
    simp only [segmentation, partitionIntoSegments_of_ordered (ordered_completedIn _ _ _ _) hne]
  by_cases hgaps : gapsOf env.stepMs
      (history.completedIn startTimeMs endTimeMs referenceTimeMs) = []
  · exact ⟨calls, by simp [confirmGaps, hsegmentation, hgaps]⟩
  · have hnone : ∀ gap ∈ gapsOf env.stepMs
        (history.completedIn startTimeMs endTimeMs referenceTimeMs), ∀ c ∈ history.candles,
        ¬gap.Covers c.openTimeMs := fun gap hgap => not_covers_of_gap_of_completedIn hstep hgap
    rcases recoverGaps_nothing hserved hnone endTime
      (history.completedIn startTimeMs endTimeMs referenceTimeMs) calls with ⟨calls', hrecover⟩
    refine ⟨calls', ?_⟩
    have hdedup := dedup_of_ordered
      (ordered_completedIn history startTimeMs endTimeMs referenceTimeMs)
    simp [confirmGaps, hsegmentation, hgaps, hrecover, hdedup]

end Gaps

/-! ## The download -/

section Download

variable {env : FetchEnv} {history : ExchangeHistory env.stepMs}

theorem completedIn_eq_filter_remaining (history : ExchangeHistory env.stepMs)
    (startTimeMs endTimeMs referenceTimeMs : ℤ) :
    (belowExclusiveEnd (history.remaining endTimeMs startTimeMs) (some endTimeMs)).filter
      (fun c => c.closeTimeMs < referenceTimeMs) =
      history.completedIn startTimeMs endTimeMs referenceTimeMs := by
  simp only [belowExclusiveEnd, ExchangeHistory.remaining, ExchangeHistory.completedIn,
    List.filter_filter]
  refine List.filter_congr ?_
  intro c _
  rw [← Bool.decide_and, ← Bool.decide_and]
  refine decide_eq_decide.2 ?_
  omega

/-- An exchange that answers each request in full after fewer than `maxRetries` failures is
downloaded completely; and no exchange whatever makes the download return a candle at or after the
end, or fail its final check. -/
theorem fetch_historical_range_complete (hstep : 0 < env.stepMs) (hretries : 1 ≤ env.maxRetries)
    {pageLimit : ℕ} (hlimit : 1 ≤ pageLimit)
    (hserved : ∀ calls request,
      ServedWithin env.client history request (env.maxRetries - 1) calls)
    (startTimeMs endTimeMs referenceTimeMs : ℤ) :
    (∃ rounds, ∀ fuel ≥ rounds, ∃ calls,
      fetchHistoricalRange env startTimeMs endTimeMs pageLimit referenceTimeMs fuel =
        some (.ok ⟨history.completedIn startTimeMs endTimeMs referenceTimeMs,
          gapsOf env.stepMs (history.completedIn startTimeMs endTimeMs referenceTimeMs)⟩, calls)) ∧
    Ordered (history.completedIn startTimeMs endTimeMs referenceTimeMs) ∧
    ∀ (anyEnv : FetchEnv) (anyLimit fuel : ℕ)
      (outcome : Except HistoricalFetchError HistoricalFetchResult) (calls : List KlineCall),
      fetchHistoricalRange anyEnv startTimeMs endTimeMs anyLimit referenceTimeMs fuel =
        some (outcome, calls) →
      (∀ result, outcome = .ok result → ∀ c ∈ result.candles, c.openTimeMs < endTimeMs) ∧
        ∀ e, outcome = .error e → e.isAtOrAfterEnd = false := by
  refine ⟨⟨(history.remaining endTimeMs startTimeMs).length + 1, ?_⟩, ordered_completedIn _ _ _ _,
    fun _ _ _ _ _ h => fetched_below_end h⟩
  intro fuel hfuel
  have hpages : ∃ calls, fetchPages env endTimeMs pageLimit fuel startTimeMs [] [] =
      some (.ok _, calls) :=
    fetchPages_complete hstep hlimit (by omega) hserved (Nat.lt_of_succ_le hfuel)
  rcases hpages with ⟨calls, hpages⟩
  rw [List.nil_append] at hpages
  have hcompleted := completedIn_eq_filter_remaining history startTimeMs endTimeMs referenceTimeMs
  have hdedup := dedup_of_ordered
    (ordered_completedIn history startTimeMs endTimeMs referenceTimeMs)
  -- without candles there is no gap to confirm
  by_cases hne : history.completedIn startTimeMs endTimeMs referenceTimeMs = []
  · refine ⟨calls, ?_⟩
    have hgaps : gapsOf env.stepMs ([] : List Candle) = [] := rfl
    rw [hne] at hdedup
    simp [fetchHistoricalRange, hpages, completeDownload, hcompleted, hdedup, hne, hgaps]
  · rcases confirmGaps_complete hstep hserved hne (some endTimeMs) calls with ⟨calls', hconfirm⟩
    refine ⟨calls', ?_⟩
    have hbelow : ∀ c ∈ history.completedIn startTimeMs endTimeMs referenceTimeMs,
        c.openTimeMs < endTimeMs := by
      intro c hc
      exact (mem_completedIn.1 hc).2.2.1
    simp [fetchHistoricalRange, hpages, completeDownload, hcompleted, hdedup, hne, hconfirm,
      assertNoCandleAtOrAfter_of_below hbelow]

/-- Hourly candles of a short history: two pages of two candles, and a gap of one hour. -/
def hourlyCandle (hour : ℤ) : Candle where
  symbol := "BTCUSDT"
  interval := "1h"
  openTimeMs := hour * 3600000
  closeTimeMs := hour * 3600000 + 3600000 - 1
  «open» := 100
  high := 101
  low := 99
  close := 100
  volume := 1

def hourlyHistory : ExchangeHistory 3600000 where
  candles := [0, 1, 3, 4].map hourlyCandle
  ordered := by decide +kernel
  aligned := by decide +kernel
  closes := by decide +kernel

/-- An exchange that fails whenever no call, or a successful one, came just before. -/
def everyOtherCall (calls : List KlineCall) (request : KlineRequest) :
    Except KlineFailure (List Candle) :=
  match calls.getLast? with
  | some ⟨_, .error _⟩ => .ok (hourlyHistory.answer request)
  | _ => .error (.request "timeout")

theorem everyOtherCall_served (calls : List KlineCall) (request : KlineRequest) :
    ServedWithin everyOtherCall hourlyHistory request 1 calls := by
  by_cases hok : everyOtherCall calls request = .ok (hourlyHistory.answer request)
  · exact .answered hok
  · have herror : everyOtherCall calls request = .error (.request "timeout") := by
      unfold everyOtherCall at hok ⊢
      split
      · rename_i hlast
        exact absurd (by simp [hlast]) hok
      · rfl
    exact .retried herror (.answered (by simp [everyOtherCall]))

theorem fetch_historical_range_complete_hourly :
    ∃ rounds, ∀ fuel ≥ rounds, ∃ calls,
      fetchHistoricalRange ⟨everyOtherCall, 3600000, 2⟩ 0 18000000 2 18000000 fuel =
        some (.ok ⟨hourlyHistory.completedIn 0 18000000 18000000,
          gapsOf 3600000 (hourlyHistory.completedIn 0 18000000 18000000)⟩, calls) := by
  let env : FetchEnv := ⟨everyOtherCall, 3600000, 2⟩
  have hstep : 0 < env.stepMs := by decide
  have hretries : 1 ≤ env.maxRetries := by decide
  have hlimit : 1 ≤ 2 := by decide
  have hserved : ∀ calls request,
      ServedWithin env.client hourlyHistory request (env.maxRetries - 1) calls :=
    everyOtherCall_served
  exact (fetch_historical_range_complete hstep hretries hlimit hserved 0 18000000 18000000).1

end Download

end TradingAgent
