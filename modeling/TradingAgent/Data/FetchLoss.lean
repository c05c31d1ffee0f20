import TradingAgent.Data.FetchCompleteness

/-!
# Fetch loss — an exchange that fails and leaves candles out

Any single answer may fail or leave out candles the exchange has.  The calls a download logs tell
what it was answered:

* `Downloaded` collects what the log says about a download that returned;
* `no_silent_loss_iff`: nothing is lost silently exactly when the first and the last candle of the
  range were received and each request was answered at least once.
-/

namespace TradingAgent

variable {stepMs : ℤ}

/-- Every answer holds candles the exchange has in the range asked for, though perhaps not all. -/
def FaultyClient (client : KlineClient) (history : ExchangeHistory stepMs) : Prop :=
  ∀ calls request page, client calls request = .ok page → page.Sublist (history.asked request)

/-- Some answer held the candle. -/
def Received (calls : List KlineCall) (c : Candle) : Prop :=
  ∃ call ∈ calls, ∃ page, call.answer = .ok page ∧ c ∈ page

/-- Some call with this request was answered. -/
def RequestAnswered (calls : List KlineCall) (request : KlineRequest) : Prop :=
  ∃ call ∈ calls, call.request = request ∧ ∃ page, call.answer = .ok page

theorem Received.mono {calls calls' : List KlineCall} {c : Candle} (h : Received calls c)
    (hsub : calls ⊆ calls') : Received calls' c := by
  rcases h with ⟨call, hcall, hpage⟩
  exact ⟨call, hsub hcall, hpage⟩

theorem RequestAnswered.mono {calls calls' : List KlineCall} {request : KlineRequest}
    (h : RequestAnswered calls request) (hsub : calls ⊆ calls') : RequestAnswered calls' request := by
  rcases h with ⟨call, hcall, hpage⟩
  exact ⟨call, hsub hcall, hpage⟩

/-! ## Pages -/

section Paging

variable {env : FetchEnv} {history : ExchangeHistory env.stepMs} {startTimeMs endTimeMs : ℤ}

/-- A page is the answer of the last of its calls; the others failed. -/
theorem fetchPageWithRetries_log {request : KlineRequest} {left : ℕ} {calls calls' : List KlineCall}
    {lastException : Option String} {page : List Candle}
    (h : fetchPageWithRetries env request endTimeMs left calls lastException = (.ok page, calls')) :
    0 < left ∧ ∃ failed answer, calls' = calls ++ (failed ++ [⟨request, .ok answer⟩]) ∧
      page = belowExclusiveEnd answer (some endTimeMs) ∧
      (∀ call ∈ failed, call.request = request ∧ ∃ failure, call.answer = .error failure) ∧
      ∃ before, env.client before request = .ok answer := by
  induction left generalizing calls lastException with
  | zero => cases h
  | succ left ih =>
      refine ⟨Nat.succ_pos left, ?_⟩
      simp only [fetchPageWithRetries] at h
      split at h
      · rename_i answer hanswer
        cases h
        exact ⟨[], answer, by simp [hanswer], rfl, by simp, calls, hanswer⟩
      · rename_i text hanswer
        rcases ih h with ⟨-, failed, answer, hcalls, hpage, hfailed, hclient⟩
        refine ⟨⟨request, .error (.request text)⟩ :: failed, answer, ?_, hpage, ?_, hclient⟩
        · rw [hcalls, hanswer]
          simp
        · intro call hcall
          rcases List.mem_cons.1 hcall with rfl | hcall
          · exact ⟨rfl, _, rfl⟩
          · exact hfailed call hcall
      · cases h

/-- What the log says of the pages fetched so far. -/
structure Paged (env : FetchEnv) (history : ExchangeHistory env.stepMs) (startTimeMs endTimeMs : ℤ)
    (allCandles : List Candle) (calls : List KlineCall) : Prop where
  toTheEnd : ∀ call ∈ calls, call.request.endTimeMs + 1 = endTimeMs
  inRange : ∀ c ∈ allCandles, c ∈ history.candles ∧ startTimeMs ≤ c.openTimeMs ∧
    c.openTimeMs < endTimeMs ∧ Received calls c
  kept : ∀ c, Received calls c → c ∈ allCandles
  answered : ∀ call ∈ calls, RequestAnswered calls call.request
  retried : allCandles ≠ [] → 0 < env.maxRetries

theorem paged_nil : Paged env history startTimeMs endTimeMs [] [] where
  toTheEnd := by simp
  inRange := by simp
  kept := by
    intro c hc
    rcases hc with ⟨call, hcall, -⟩
    cases hcall
  answered := by simp
  retried := by simp

/-- Fetching one page more. -/
theorem Paged.page {allCandles page : List Candle} {calls calls' : List KlineCall} {cursor : ℤ}
    {pageLimit : ℕ} (hpaged : Paged env history startTimeMs endTimeMs allCandles calls)
    (hfaulty : FaultyClient env.client history) (hcursor : startTimeMs ≤ cursor)
    (h : fetchPageWithRetries env (pageRequest cursor endTimeMs pageLimit) endTimeMs env.maxRetries
      calls none = (.ok page, calls')) :
    Paged env history startTimeMs endTimeMs (allCandles ++ page) calls' ∧
      ∀ c ∈ page, cursor ≤ c.openTimeMs := by
  rcases fetchPageWithRetries_log h with ⟨hretries, failed, answer, rfl, rfl, hfailed, before,
    hclient⟩
  have hsublist := hfaulty _ _ _ hclient
  have hanswer : ∀ c ∈ answer, c ∈ history.candles ∧ cursor ≤ c.openTimeMs ∧
      c.openTimeMs < endTimeMs := by
    intro c hc
    have hmem := List.mem_filter.1 (hsublist.subset hc)
    have hasked : cursor ≤ c.openTimeMs ∧ c.openTimeMs ≤ endTimeMs - 1 := of_decide_eq_true hmem.2
    exact ⟨hmem.1, hasked.1, by omega⟩
  have hlast : (⟨pageRequest cursor endTimeMs pageLimit, .ok answer⟩ : KlineCall) ∈
      calls ++ (failed ++ [⟨pageRequest cursor endTimeMs pageLimit, .ok answer⟩]) := by simp
  have hrequests : ∀ call ∈ failed ++ [⟨pageRequest cursor endTimeMs pageLimit, .ok answer⟩],
      call.request = pageRequest cursor endTimeMs pageLimit := by
    intro call hcall
    rcases List.mem_append.1 hcall with hcall | hcall
    · exact (hfailed call hcall).1
    · rw [List.mem_singleton.1 hcall]
  -- a call is an earlier one, a failed attempt at this page, or the one that was answered
  refine ⟨?_, fun c hc => (hanswer c (mem_belowExclusiveEnd.1 hc).1).2.1⟩
  constructor
  case toTheEnd =>
      intro call hcall
      rcases List.mem_append.1 hcall with hcall | hcall
      · exact hpaged.toTheEnd call hcall
      · rw [hrequests call hcall]
        simp [pageRequest, exclusiveUpperBoundForRequest]
  case inRange =>
      intro c hc
      rcases List.mem_append.1 hc with hc | hc
      · rcases hpaged.inRange c hc with ⟨hmem, hstart, hend, hreceived⟩
        exact ⟨hmem, hstart, hend, hreceived.mono (List.subset_append_left _ _)⟩
      · rcases hanswer c (mem_belowExclusiveEnd.1 hc).1 with ⟨hmem, hstart, hend⟩
        exact ⟨hmem, hcursor.trans hstart, hend, _, hlast, answer, rfl,
          (mem_belowExclusiveEnd.1 hc).1⟩
  case kept =>
      intro c hreceived
      rcases hreceived with ⟨call, hcall, received, hok, hc⟩
      rw [List.mem_append]
      rcases List.mem_append.1 hcall with hcall | hcall
      · exact .inl (hpaged.kept c ⟨call, hcall, received, hok, hc⟩)
      rcases List.mem_append.1 hcall with hcall | hcall
      · rcases (hfailed call hcall).2 with ⟨failure, herror⟩
        rw [herror] at hok
        cases hok
      · rw [List.mem_singleton.1 hcall] at hok
        cases hok
        exact .inr (mem_belowExclusiveEnd.2 ⟨hc, (hanswer c hc).2.2⟩)
  case answered =>
      intro call hcall
      rcases List.mem_append.1 hcall with hcall | hcall
      · exact (hpaged.answered call hcall).mono (List.subset_append_left _ _)
      · rw [hrequests call hcall]
        exact ⟨_, hlast, rfl, answer, rfl⟩
  case retried => exact fun _ => hretries

theorem Paged.fetchPages (hstep : 0 < env.stepMs) {allCandles allCandles' : List Candle}
    {calls calls' : List KlineCall} {cursor : ℤ} {pageLimit fuel : ℕ}
    (hpaged : Paged env history startTimeMs endTimeMs allCandles calls)
    (hfaulty : FaultyClient env.client history) (hcursor : startTimeMs ≤ cursor)
    (h : fetchPages env endTimeMs pageLimit fuel cursor allCandles calls =
      some (.ok allCandles', calls')) :
    Paged env history startTimeMs endTimeMs allCandles' calls' := by
  induction fuel generalizing cursor allCandles calls with
  | zero => cases h
  | succ fuel ih =>
      simp only [TradingAgent.fetchPages] at h
      split at h
      · split at h
        · cases h
        · rename_i page calls₁ hpage
          rcases hpaged.page hfaulty hcursor hpage with ⟨hnext, hafter⟩
          split at h
          · rename_i hlast
            cases h
            rw [List.getLast?_eq_none_iff.1 hlast, List.append_nil] at hnext
            exact hnext
          · rename_i last hlast
            split at h
            · cases h
              exact hnext
            · have hge := hafter last (List.mem_of_getLast? hlast)
              exact ih hnext (by omega) h
      · cases h
        exact hpaged

end Paging

/-! ## Focused requests -/

section Recovery

variable {env : FetchEnv} {history : ExchangeHistory env.stepMs} {endTimeMs : ℤ}

/-- What the calls for one gap recover: every candle of the gap that an answer held. -/
structure Requested (env : FetchEnv) (endTimeMs : ℤ) (gap : GapRecord) (found : List Candle)
    (added : List KlineCall) : Prop where
  request : ∀ call ∈ added, call.request = recoveryRequest gap
  fromClient : ∀ call ∈ added, ∃ before, env.client before (recoveryRequest gap) = call.answer
  kept : ∀ c, Received added c → gap.Covers c.openTimeMs → c.openTimeMs < endTimeMs → c ∈ found
  found : ∀ c ∈ found, gap.Covers c.openTimeMs ∧ Received added c

namespace Requested

variable {gap : GapRecord} {found : List Candle} {added calls : List KlineCall}
  {answer : Except KlineFailure (List Candle)}

theorem nothing : Requested env endTimeMs gap [] [] where
  request := by simp
  fromClient := by simp
  kept := by
    rintro c ⟨call, hcall, -⟩
    cases hcall
  found := by simp

/-- One more call before the others that brought no candle of the gap. -/
theorem cons (h : Requested env endTimeMs gap found added)
    (hanswer : env.client calls (recoveryRequest gap) = answer)
    (hnothing : ∀ page, answer = .ok page → ∀ c ∈ page, gap.Covers c.openTimeMs →
      ¬c.openTimeMs < endTimeMs) :
    Requested env endTimeMs gap found (⟨recoveryRequest gap, answer⟩ :: added) := by
  constructor
  case request =>
      intro call hcall
      rcases List.mem_cons.1 hcall with rfl | hcall
      · rfl
      · exact h.request call hcall
  case fromClient =>
      intro call hcall
      rcases List.mem_cons.1 hcall with rfl | hcall
      · exact ⟨calls, hanswer⟩
      · exact h.fromClient call hcall
  case kept =>
      rintro c ⟨call, hcall, page, hok, hc⟩ hcovers hbelow
      rcases List.mem_cons.1 hcall with rfl | hcall
      · exact absurd hbelow (hnothing page hok c hc hcovers)
      · exact h.kept c ⟨call, hcall, page, hok, hc⟩ hcovers hbelow
  case found =>
      intro c hc
      rcases h.found c hc with ⟨hcovers, hreceived⟩
      exact ⟨hcovers, hreceived.mono (List.subset_cons_self _ _)⟩

/-- A call that brought candles of the gap is the last one. -/
theorem singleton {page : List Candle}
    (hanswer : env.client calls (recoveryRequest gap) = .ok page)
    (hfound : ∀ c, c ∈ found ↔ c ∈ page ∧ gap.Covers c.openTimeMs ∧ c.openTimeMs < endTimeMs) :
    Requested env endTimeMs gap found [⟨recoveryRequest gap, .ok page⟩] := by
  constructor
  case request => simp
  case fromClient =>
      intro call hcall
      rw [List.mem_singleton.1 hcall]
      exact ⟨calls, hanswer⟩
  case kept =>
      rintro c ⟨call, hcall, received, hok, hc⟩ hcovers hbelow
      rw [List.mem_singleton.1 hcall] at hok
      cases hok
      exact (hfound c).2 ⟨hc, hcovers, hbelow⟩
  case found =>
      intro c hc
      rcases (hfound c).1 hc with ⟨hc, hcovers, -⟩
      exact ⟨hcovers, _, List.mem_singleton_self _, page, rfl, hc⟩

end Requested

theorem attemptNarrowRecovery_log {gap : GapRecord} {left : ℕ} {calls calls' : List KlineCall}
    {found : List Candle}
    (h : attemptNarrowRecovery env gap (some endTimeMs) left calls = (.ok found, calls')) :
    ∃ added, calls' = calls ++ added ∧ Requested env endTimeMs gap found added ∧
      (0 < left → added ≠ []) := by
  induction left generalizing calls with
  | zero =>
      cases h
      exact ⟨[], by simp, .nothing, by simp⟩
  | succ left ih =>
      simp only [attemptNarrowRecovery] at h
      split at h
      · -- a call that failed
        rename_i text hanswer
        rcases ih h with ⟨added, hcalls, hrequested, -⟩
        exact ⟨_ :: added, by simpa using hcalls, hrequested.cons rfl (by simp [hanswer]), by simp⟩
      · cases h
      · rename_i page hanswer
        have hmem : ∀ c, c ∈ belowExclusiveEnd (page.filter fun c =>
            gap.expectedOpenTimeMs ≤ c.openTimeMs ∧ c.openTimeMs < gap.nextOpenTimeMs)
            (some endTimeMs) ↔
            c ∈ page ∧ gap.Covers c.openTimeMs ∧ c.openTimeMs < endTimeMs := by
          intro c
          simp [mem_belowExclusiveEnd, GapRecord.Covers, and_assoc]
        rw [hanswer] at h
        split at h
        · cases h
          exact ⟨_, rfl, .singleton hanswer hmem, by simp⟩
        · -- an answer without a candle of the gap
          rename_i hnothing
          rcases ih h with ⟨added, hcalls, hrequested, -⟩
          refine ⟨⟨recoveryRequest gap, .ok page⟩ :: added, by simpa using hcalls,
            hrequested.cons hanswer ?_, by simp⟩
          intro answer heq c hc hcovers hbelow
          cases heq
          have hempty : (belowExclusiveEnd (page.filter fun c =>
              gap.expectedOpenTimeMs ≤ c.openTimeMs ∧ c.openTimeMs < gap.nextOpenTimeMs)
              (some endTimeMs)) = [] := by
            simpa using hnothing
          have hin := (hmem c).2 ⟨hc, hcovers, hbelow⟩
          rw [hempty] at hin
          cases hin

/-- What the calls for all gaps recover. -/
structure Recovered (env : FetchEnv) (endTimeMs : ℤ) (gaps : List GapRecord)
    (before after : List Candle) (added : List KlineCall) : Prop where
  subset : before ⊆ after
  focused : ∀ call ∈ added, ∃ gap ∈ gaps, call.request = recoveryRequest gap ∧
    ∃ log, env.client log (recoveryRequest gap) = call.answer
  kept : ∀ gap ∈ gaps, ∀ call ∈ added, call.request = recoveryRequest gap →
    ∀ page, call.answer = .ok page → ∀ c ∈ page, gap.Covers c.openTimeMs →
      c.openTimeMs < endTimeMs → c ∈ after
  found : ∀ c ∈ after, c ∈ before ∨ ∃ gap ∈ gaps, gap.Covers c.openTimeMs ∧
    ∃ call ∈ added, call.request = recoveryRequest gap ∧ ∃ page, call.answer = .ok page ∧ c ∈ page
  requested : 0 < env.maxRetries → ∀ gap ∈ gaps, ∃ call ∈ added, call.request = recoveryRequest gap

/-- A gap is determined by the request for it. -/
theorem covers_of_recoveryRequest_eq {gap gap' : GapRecord}
    (h : recoveryRequest gap = recoveryRequest gap') (timeMs : ℤ) :
    gap.Covers timeMs ↔ gap'.Covers timeMs := by
  have hstart : gap.expectedOpenTimeMs = gap'.expectedOpenTimeMs :=
    congrArg KlineRequest.startTimeMs h
  have hend : gap.nextOpenTimeMs - 1 = gap'.nextOpenTimeMs - 1 :=
    congrArg KlineRequest.endTimeMs h
  unfold GapRecord.Covers
  omega

theorem recoverGaps_log {gaps : List GapRecord} {before after : List Candle}
    {calls calls' : List KlineCall}
    (h : recoverGaps env (some endTimeMs) gaps before calls = (.ok after, calls')) :
    ∃ added, calls' = calls ++ added ∧ Recovered env endTimeMs gaps before after added := by
  induction gaps generalizing before calls with
  | nil =>
      cases h
      refine ⟨[], by simp, ⟨List.Subset.refl _, by simp, by simp, ?_, by simp⟩⟩
      intro c hc
      exact .inl hc
  | cons gap rest ih =>
      simp only [recoverGaps] at h
      split at h
      · cases h
      · rename_i found calls₁ hattempt
        -- the calls of the first gap, then those of the rest
        rcases attemptNarrowRecovery_log hattempt with ⟨first, rfl, hfirst, hcalled⟩
        rcases ih h with ⟨later, hcalls, hlater⟩
        refine ⟨first ++ later, by simpa using hcalls, ⟨?_, ?_, ?_, ?_, ?_⟩⟩
        · intro c hc
          exact hlater.subset (List.mem_append_left _ hc)
        · intro call hcall
          rcases List.mem_append.1 hcall with hcall | hcall
          · rcases hfirst.fromClient call hcall with ⟨log, hlog⟩
            exact ⟨gap, List.mem_cons_self, hfirst.request call hcall, log, hlog⟩
          · rcases hlater.focused call hcall with ⟨g, hg, hcall'⟩
            exact ⟨g, List.mem_cons_of_mem _ hg, hcall'⟩
        · intro g _ call hcall hrequest page hok c hc hcovers hbelow
          rcases List.mem_append.1 hcall with hcall | hcall
          · -- the call was made for the first gap, which covers what this one covers
            have heq : recoveryRequest g = recoveryRequest gap :=
              hrequest.symm.trans (hfirst.request call hcall)
            have hcovers' := (covers_of_recoveryRequest_eq heq c.openTimeMs).1 hcovers
            exact hlater.subset (List.mem_append_right _
              (hfirst.kept c ⟨call, hcall, page, hok, hc⟩ hcovers' hbelow))
          · rcases hlater.focused call hcall with ⟨g', hg', hrequest', -⟩
            have heq : recoveryRequest g = recoveryRequest g' := hrequest.symm.trans hrequest'
            have hcovers' := (covers_of_recoveryRequest_eq heq c.openTimeMs).1 hcovers
            exact hlater.kept g' hg' call hcall hrequest' page hok c hc hcovers' hbelow
        · intro c hc
          rcases hlater.found c hc with hc | ⟨g, hg, hcovers, call, hcall, hanswer⟩
          · rcases List.mem_append.1 hc with hc | hc
            · exact .inl hc
            · rcases hfirst.found c hc with ⟨hcovers, call, hcall, hanswer⟩
              exact .inr ⟨gap, List.mem_cons_self, hcovers, call, List.mem_append_left _ hcall,
                hfirst.request call hcall, hanswer⟩
          · exact .inr ⟨g, List.mem_cons_of_mem _ hg, hcovers, call,
              List.mem_append_right _ hcall, hanswer⟩
        · intro hretries g hg
          rcases List.mem_cons.1 hg with rfl | hg
          · rcases List.exists_mem_of_ne_nil _ (hcalled hretries) with ⟨call, hcall⟩
            exact ⟨call, List.mem_append_left _ hcall, hfirst.request call hcall⟩
          · rcases hlater.requested hretries g hg with ⟨call, hcall, hrequest⟩
            exact ⟨call, List.mem_append_right _ hcall, hrequest⟩

end Recovery

/-! ## Loss -/

section Loss

variable (history : ExchangeHistory stepMs) (startTimeMs endTimeMs referenceTimeMs : ℤ)

/-- Every completed candle of the range is in the result or lies in a confirmed gap. -/
def NothingLost (result : HistoricalFetchResult) : Prop :=
  ∀ c ∈ history.completedIn startTimeMs endTimeMs referenceTimeMs,
    c ∈ result.candles ∨ ∃ gap ∈ result.confirmedGaps, gap.Covers c.openTimeMs

/-- The missing range of the gap was asked for in a request narrower than the download, which stops
before the end of the range, and the answer held no candle of it. -/
def Requeried (calls : List KlineCall) (gap : GapRecord) : Prop :=
  ∃ call ∈ calls, ∃ page, call.answer = .ok page ∧
    call.request.startTimeMs ≤ gap.expectedOpenTimeMs ∧
    gap.nextOpenTimeMs ≤ call.request.endTimeMs + 1 ∧ call.request.endTimeMs + 1 < endTimeMs ∧
    ∀ c ∈ page, ¬gap.Covers c.openTimeMs

structure NoSilentLoss (result : HistoricalFetchResult) (calls : List KlineCall) : Prop where
  nothingLost : NothingLost history startTimeMs endTimeMs referenceTimeMs result
  requeried : ∀ gap ∈ result.confirmedGaps, Requeried endTimeMs calls gap

/-- The first and the last completed candle of the range were in some answer. -/
def EndsReceived (calls : List KlineCall) : Prop :=
  ∀ c, (history.completedIn startTimeMs endTimeMs referenceTimeMs).head? = some c ∨
    (history.completedIn startTimeMs endTimeMs referenceTimeMs).getLast? = some c →
    Received calls c

/-- Every request was answered at least once. -/
def EachAnswered (calls : List KlineCall) : Prop :=
  ∀ call ∈ calls, RequestAnswered calls call.request

end Loss

/-! ## The download -/

section Download

variable {env : FetchEnv} {history : ExchangeHistory env.stepMs}
  {startTimeMs endTimeMs referenceTimeMs : ℤ}

/-- The completed candles of the pages, as the gaps are first looked for in them. -/
def pagedCandles (endTimeMs referenceTimeMs : ℤ) (allCandles : List Candle) : List Candle :=
  dedupByOpenTime ((belowExclusiveEnd allCandles (some endTimeMs)).filter
    fun c => c.closeTimeMs < referenceTimeMs)

/-- A download that returns has fetched its pages, requested each gap between their candles, and
found the gaps of what it has then. -/
theorem fetchHistoricalRange_ok {pageLimit fuel : ℕ} {result : HistoricalFetchResult}
    {calls : List KlineCall}
    (h : fetchHistoricalRange env startTimeMs endTimeMs pageLimit referenceTimeMs fuel =
      some (.ok result, calls)) :
    ∃ allCandles calls₀ recovered,
      fetchPages env endTimeMs pageLimit fuel startTimeMs [] [] = some (.ok allCandles, calls₀) ∧
      recoverGaps env (some endTimeMs)
        (gapsOf env.stepMs (pagedCandles endTimeMs referenceTimeMs allCandles))
        (pagedCandles endTimeMs referenceTimeMs allCandles) calls₀ = (.ok recovered, calls) ∧
      result = ⟨dedupByOpenTime recovered, gapsOf env.stepMs (dedupByOpenTime recovered)⟩ := by
  unfold fetchHistoricalRange at h
  split at h
  · cases h
  · cases h
  rename_i allCandles calls₀ hpages
  have hcomplete := Option.some.inj h
  unfold completeDownload at hcomplete
  simp only at hcomplete
  refine ⟨allCandles, calls₀, ?_⟩
  split at hcomplete
  · rename_i hempty
    cases hcomplete
    have hnil : pagedCandles endTimeMs referenceTimeMs allCandles = [] := by
      simpa [pagedCandles] using hempty
    exact ⟨[], hpages, by rw [hnil]; rfl, rfl⟩
  split at hcomplete
  · cases hcomplete
  rename_i confirmed calls₁ hconfirm
  -- the last check lets the confirmed candles through or raises
  have hresult : confirmed = result ∧ calls₁ = calls := by
    split at hcomplete
    · cases hcomplete
    · cases hcomplete
      exact ⟨rfl, rfl⟩
  rcases hresult with ⟨rfl, rfl⟩
  rcases confirmGaps_ok hconfirm with ⟨recovered, hrecover, hresult⟩
  exact ⟨recovered, hpages, hrecover, hresult⟩

/-- What the log of a download that returned says about it. -/
structure Downloaded (history : ExchangeHistory env.stepMs)
    (startTimeMs endTimeMs referenceTimeMs : ℤ) (paged : List Candle) (calls : List KlineCall)
    (candles : List Candle) : Prop where
  pagedOrdered : Ordered paged
  ordered : Ordered candles
  pagedSubset : paged ⊆ candles
  completed : candles ⊆ history.completedIn startTimeMs endTimeMs referenceTimeMs
  received : ∀ c ∈ candles, Received calls c
  fromHistory : ∀ c, Received calls c → c ∈ history.candles
  kept : ∀ c ∈ history.completedIn startTimeMs endTimeMs referenceTimeMs, Received calls c →
    c ∈ candles
  recovered : ∀ c ∈ candles, c ∈ paged ∨ ∃ gap ∈ gapsOf env.stepMs paged,
    gap.Covers c.openTimeMs ∧ RequestAnswered calls (recoveryRequest gap)
  requests : ∀ call ∈ calls, call.request.endTimeMs + 1 = endTimeMs ∧ RequestAnswered calls call.request ∨
    ∃ gap ∈ gapsOf env.stepMs paged, call.request = recoveryRequest gap
  requested : ∀ gap ∈ gapsOf env.stepMs paged, ∃ call ∈ calls, call.request = recoveryRequest gap

/-- Candles of the exchange are all kept by deduplication. -/
theorem mem_dedup_of_subset {candles : List Candle} (hsub : candles ⊆ history.candles) {c : Candle} :
    c ∈ dedupByOpenTime candles ↔ c ∈ candles := by
  constructor
  · exact mem_of_mem_dedup
  · intro hc
    rcases exists_mem_dedup hc with ⟨d, hd, heq⟩
    have hdc : d = c := history.ordered.eq_of_openTime (hsub (mem_of_mem_dedup hd)) (hsub hc) heq
    exact hdc ▸ hd

theorem Paged.mem_pagedCandles {allCandles : List Candle} {calls : List KlineCall}
    (h : Paged env history startTimeMs endTimeMs allCandles calls) {c : Candle} :
    c ∈ pagedCandles endTimeMs referenceTimeMs allCandles ↔
      c ∈ allCandles ∧ c.closeTimeMs < referenceTimeMs := by
  have hsub : (belowExclusiveEnd allCandles (some endTimeMs)).filter
      (fun c => c.closeTimeMs < referenceTimeMs) ⊆ history.candles := by
    intro d hd
    exact (h.inRange d (mem_belowExclusiveEnd.1 (List.mem_filter.1 hd).1).1).1
  rw [pagedCandles, mem_dedup_of_subset hsub, List.mem_filter, mem_belowExclusiveEnd]
  constructor
  · intro hc
    exact ⟨hc.1.1, by simpa using hc.2⟩
  · intro hc
    exact ⟨⟨hc.1, (h.inRange c hc.1).2.2.1⟩, by simpa using hc.2⟩

theorem Paged.pagedCandles_completed {allCandles : List Candle} {calls : List KlineCall}
    (h : Paged env history startTimeMs endTimeMs allCandles calls) :
    pagedCandles endTimeMs referenceTimeMs allCandles ⊆
      history.completedIn startTimeMs endTimeMs referenceTimeMs := by
  intro c hc
  rcases h.mem_pagedCandles.1 hc with ⟨hall, hcompleted⟩
  rcases h.inRange c hall with ⟨hmem, hstart, hend, -⟩
  exact mem_completedIn.2 ⟨hmem, hstart, hend, hcompleted⟩

/-- An answer to a focused request holds candles of the exchange in the gap it was for. -/
theorem Recovered.focused_answer {gaps : List GapRecord} {before after : List Candle}
    {added : List KlineCall} (h : Recovered env endTimeMs gaps before after added)
    (hfaulty : FaultyClient env.client history) {call : KlineCall} (hcall : call ∈ added)
    {page : List Candle} (hok : call.answer = .ok page) {c : Candle} (hc : c ∈ page) :
    c ∈ history.candles ∧ ∃ gap ∈ gaps, call.request = recoveryRequest gap ∧
      gap.Covers c.openTimeMs := by
  rcases h.focused call hcall with ⟨gap, hgap, hrequest, log, hlog⟩
  rw [hok] at hlog
  have hmem := List.mem_filter.1 ((hfaulty _ _ _ hlog).subset hc)
  have hasked : gap.expectedOpenTimeMs ≤ c.openTimeMs ∧ c.openTimeMs ≤ gap.nextOpenTimeMs - 1 :=
    of_decide_eq_true hmem.2
  exact ⟨hmem.1, gap, hgap, hrequest, hasked.1, by omega⟩

/-- What recovery adds to completed candles lies between two of them, so it is completed too. -/
theorem Recovered.completed {before after : List Candle} {added : List KlineCall}
    (h : Recovered env endTimeMs (gapsOf env.stepMs before) before after added)
    (hstep : 0 < env.stepMs) (hfaulty : FaultyClient env.client history)
    (hordered : Ordered before)
    (hbefore : before ⊆ history.completedIn startTimeMs endTimeMs referenceTimeMs) :
    after ⊆ history.completedIn startTimeMs endTimeMs referenceTimeMs := by
  intro c hc
  rcases h.found c hc with hold | ⟨gap, hgap, hcovers, call, hcall, -, page, hok, hmem⟩
  · exact hbefore hold
  · have hhistory := (h.focused_answer hfaulty hcall hok hmem).1
    rcases (mem_gapsOf_iff hordered).1 hgap with ⟨a, b, hab, rfl⟩
    have hexpected : a.openTimeMs + env.stepMs ≤ c.openTimeMs := hcovers.1
    exact mem_completedIn_between (hbefore hab.previousMem) (hbefore hab.nextMem) hhistory
      (by omega) hcovers.2

theorem downloaded_of_ok (hstep : 0 < env.stepMs) (hfaulty : FaultyClient env.client history)
    {pageLimit fuel : ℕ} {result : HistoricalFetchResult} {calls : List KlineCall}
    (h : fetchHistoricalRange env startTimeMs endTimeMs pageLimit referenceTimeMs fuel =
      some (.ok result, calls)) :
    ∃ paged, Downloaded history startTimeMs endTimeMs referenceTimeMs paged calls result.candles ∧
      result.confirmedGaps = gapsOf env.stepMs result.candles := by
  rcases fetchHistoricalRange_ok h with ⟨allCandles, calls₀, after, hpages, hrecover, rfl⟩
  have hpaged := paged_nil.fetchPages hstep hfaulty (le_refl startTimeMs) hpages
  rcases recoverGaps_log hrecover with ⟨added, rfl, hrecovered⟩
  have hpagedOrdered : Ordered (pagedCandles endTimeMs referenceTimeMs allCandles) :=
    ordered_dedup _
  have hafter := hrecovered.completed hstep hfaulty hpagedOrdered hpaged.pagedCandles_completed
  have hmemAfter : ∀ c, c ∈ dedupByOpenTime after ↔ c ∈ after := by
    intro c
    exact mem_dedup_of_subset fun d hd => (mem_completedIn.1 (hafter hd)).1
  refine ⟨pagedCandles endTimeMs referenceTimeMs allCandles, ?_, rfl⟩
  -- every call of the log is one for a page, or a focused one
  constructor
  case pagedOrdered => exact hpagedOrdered
  case ordered => exact ordered_dedup _
  case pagedSubset => exact fun c hc => (hmemAfter c).2 (hrecovered.subset hc)
  case completed => exact fun c hc => hafter ((hmemAfter c).1 hc)
  case received =>
      intro c hc
      rcases hrecovered.found c ((hmemAfter c).1 hc) with hc | ⟨_, _, _, call, hcall, -, page, hmem⟩
      · exact (hpaged.inRange c (hpaged.mem_pagedCandles.1 hc).1).2.2.2.mono
          (List.subset_append_left _ _)
      · exact ⟨call, List.mem_append_right _ hcall, page, hmem⟩
  case fromHistory =>
      rintro c ⟨call, hcall, page, hok, hc⟩
      rcases List.mem_append.1 hcall with hcall | hcall
      · exact (hpaged.inRange c (hpaged.kept c ⟨call, hcall, page, hok, hc⟩)).1
      · exact (hrecovered.focused_answer hfaulty hcall hok hc).1
  case kept =>
      rintro c hcompleted ⟨call, hcall, page, hok, hc⟩
      rcases mem_completedIn.1 hcompleted with ⟨-, -, hend, hclosed⟩
      refine (hmemAfter c).2 ?_
      rcases List.mem_append.1 hcall with hcall | hcall
      · have hall := hpaged.kept c ⟨call, hcall, page, hok, hc⟩
        exact hrecovered.subset (hpaged.mem_pagedCandles.2 ⟨hall, hclosed⟩)
      · rcases (hrecovered.focused_answer hfaulty hcall hok hc).2 with
          ⟨gap, hgap, hrequest, hcovers⟩
        exact hrecovered.kept gap hgap call hcall hrequest page hok c hc hcovers hend
  case recovered =>
      intro c hc
      rcases hrecovered.found c ((hmemAfter c).1 hc) with hc |
        ⟨gap, hgap, hcovers, call, hcall, hrequest, page, hok, -⟩
      · exact .inl hc
      · exact .inr ⟨gap, hgap, hcovers, call, List.mem_append_right _ hcall, hrequest, page, hok⟩
  case requests =>
      intro call hcall
      rcases List.mem_append.1 hcall with hcall | hcall
      · exact .inl ⟨hpaged.toTheEnd call hcall,
          (hpaged.answered call hcall).mono (List.subset_append_left _ _)⟩
      · rcases hrecovered.focused call hcall with ⟨gap, hgap, hrequest, -⟩
        exact .inr ⟨gap, hgap, hrequest⟩
  case requested =>
      intro gap hgap
      -- candles were fetched, hence there is at least one attempt
      have hne : allCandles ≠ [] := by
        rintro rfl
        rcases (mem_gapsOf_iff hpagedOrdered).1 hgap with ⟨a, b, hab, -⟩
        exact absurd (hpaged.mem_pagedCandles.1 hab.previousMem).1 (by simp)
      rcases hrecovered.requested (hpaged.retried hne) gap hgap with ⟨call, hcall, hrequest⟩
      exact ⟨call, List.mem_append_right _ hcall, hrequest⟩

/-- The candles around a gap of the exchange's own candles are two steps apart at least. -/
theorem two_steps_of_gapAround (hstep : 0 < env.stepMs) {candles : List Candle} {a b : Candle}
    (hsub : candles ⊆ history.candles) (hab : GapAround env.stepMs candles a b) :
    a.openTimeMs + 2 * env.stepMs ≤ b.openTimeMs := by
  rcases history.aligned a (hsub hab.previousMem) b (hsub hab.nextMem) with ⟨k, hk⟩
  have hlater := hab.later
  have hpos : 0 < k := by
    have hprod : 0 < env.stepMs * k := by omega
    exact (mul_pos_iff_of_pos_left hstep).1 hprod
  have hone : k ≠ 1 := by
    rintro rfl
    exact hab.notAdjacent (by rw [hk, mul_one])
  have hge : env.stepMs * 2 ≤ env.stepMs * k := Int.mul_le_mul_of_nonneg_left (by omega) hstep.le
  omega

section Settled

variable {paged candles : List Candle} {calls : List KlineCall}
  (d : Downloaded history startTimeMs endTimeMs referenceTimeMs paged calls candles)
include d

theorem Downloaded.subset_history : candles ⊆ history.candles := by
  intro c hc
  exact (mem_completedIn.1 (d.completed hc)).1

/-- A recovered candle lies between two candles of the pages. -/
theorem Downloaded.between_paged (hstep : 0 < env.stepMs) {c : Candle} (hc : c ∈ candles) :
    (∃ a ∈ paged, a.openTimeMs ≤ c.openTimeMs) ∧ ∃ b ∈ paged, c.openTimeMs ≤ b.openTimeMs := by
  rcases d.recovered c hc with hmem | ⟨gap, hgap, hcovers, -⟩
  · exact ⟨⟨c, hmem, le_rfl⟩, c, hmem, le_rfl⟩
  · rcases (mem_gapsOf_iff d.pagedOrdered).1 hgap with ⟨a, b, hab, rfl⟩
    have hlow : a.openTimeMs + env.stepMs ≤ c.openTimeMs := hcovers.1
    have hhigh : c.openTimeMs < b.openTimeMs := hcovers.2
    exact ⟨⟨a, hab.previousMem, by omega⟩, b, hab.nextMem, hhigh.le⟩

/-- A gap of the result is part of a gap between the candles of the pages. -/
theorem Downloaded.exists_wider_gap (hstep : 0 < env.stepMs) {gap : GapRecord}
    (hgap : gap ∈ gapsOf env.stepMs candles) :
    ∃ wider ∈ gapsOf env.stepMs paged, wider.expectedOpenTimeMs ≤ gap.expectedOpenTimeMs ∧
      gap.nextOpenTimeMs ≤ wider.nextOpenTimeMs := by
  rcases (mem_gapsOf_iff d.ordered).1 hgap with ⟨a, b, hab, rfl⟩
  have htwo := two_steps_of_gapAround hstep d.subset_history hab
  rcases (d.between_paged hstep hab.previousMem).1 with ⟨first, hfirst, hfirstLe⟩
  rcases (d.between_paged hstep hab.nextMem).2 with ⟨last, hlast, hlastLe⟩
  have hfirstLt : first.openTimeMs < a.openTimeMs + 1 := by omega
  rcases exists_last_before d.pagedOrdered hfirst hfirstLt with ⟨a₀, ha₀, ha₀Lt, ha₀Max⟩
  rcases exists_first_after d.pagedOrdered hlast hlastLe with ⟨b₀, hb₀, hb₀Le, hb₀Min⟩
  refine ⟨gapBetween env.stepMs a₀ b₀, (mem_gapsOf_iff d.pagedOrdered).2 ⟨a₀, b₀,
    ⟨ha₀, hb₀, by omega, ?_, by omega⟩, rfl⟩, ?_, ?_⟩
  · intro c hc
    rcases hab.noneBetween c (d.pagedSubset hc) with hle | hle
    · exact .inl (ha₀Max c hc (by omega))
    · exact .inr (hb₀Min c hc hle)
  · change a₀.openTimeMs + env.stepMs ≤ a.openTimeMs + env.stepMs
    omega
  · exact hb₀Le

/-- A gap in which every request failed stays a gap. -/
theorem Downloaded.gap_stays (hstep : 0 < env.stepMs) {gap : GapRecord}
    (hgap : gap ∈ gapsOf env.stepMs paged) (hfailed : ¬RequestAnswered calls (recoveryRequest gap)) :
    gap ∈ gapsOf env.stepMs candles := by
  rcases (mem_gapsOf_iff d.pagedOrdered).1 hgap with ⟨a, b, hab, rfl⟩
  refine (mem_gapsOf_iff d.ordered).2 ⟨a, b, ⟨d.pagedSubset hab.previousMem,
    d.pagedSubset hab.nextMem, hab.later, ?_, hab.notAdjacent⟩, rfl⟩
  intro c hc
  by_contra hbetween
  have hstrict : a.openTimeMs < c.openTimeMs ∧ c.openTimeMs < b.openTimeMs := by omega
  have hcovers : (gapBetween env.stepMs a b).Covers c.openTimeMs := by
    have ha := d.subset_history (d.pagedSubset hab.previousMem)
    exact ⟨history.step_le ha (d.subset_history hc) hstrict.1, hstrict.2⟩
  rcases d.recovered c hc with hmem | ⟨gap', hgap', hcovers', hanswered⟩
  · rcases hab.noneBetween c hmem with hle | hle
    · omega
    · omega
  · have heq := eq_of_covers hstep d.pagedOrdered hgap' hgap hcovers' hcovers
    exact hfailed (heq ▸ hanswered)

/-- A candle at an end of the range lies in no gap, so it was received unless it is lost. -/
theorem Downloaded.endsReceived (hstep : 0 < env.stepMs)
    (hlost : NothingLost history startTimeMs endTimeMs referenceTimeMs
      ⟨candles, gapsOf env.stepMs candles⟩) :
    EndsReceived history startTimeMs endTimeMs referenceTimeMs calls := by
  intro c hend
  have hc : c ∈ history.completedIn startTimeMs endTimeMs referenceTimeMs := by
    rcases hend with hhead | hlast
    · exact List.mem_of_head? hhead
    · exact List.mem_of_getLast? hlast
  rcases hlost c hc with hmem | ⟨gap, hgap, hcovers⟩
  · exact d.received c hmem
  · -- no candle of the range lies before the first or after the last
    rcases (mem_gapsOf_iff d.ordered).1 hgap with ⟨a, b, hab, rfl⟩
    have hlow : a.openTimeMs + env.stepMs ≤ c.openTimeMs := hcovers.1
    have hhigh : c.openTimeMs < b.openTimeMs := hcovers.2
    have ha := d.completed hab.previousMem
    have hb := d.completed hab.nextMem
    have hordered := ordered_completedIn history startTimeMs endTimeMs referenceTimeMs
    rcases hend with hhead | hlast
    · rcases List.head?_eq_some_iff.1 hhead with ⟨rest, hrest⟩
      rw [hrest] at ha hordered
      rcases List.mem_cons.1 ha with rfl | ha
      · omega
      · have hlt := hordered.head_lt ha
        omega
    · rcases List.getLast?_eq_some_iff.1 hlast with ⟨front, hfront⟩
      rw [hfront] at hb hordered
      rcases List.mem_append.1 hb with hb | hb
      · have hlt := (List.pairwise_append.1 hordered).2.2 b hb c List.mem_cons_self
        omega
      · rw [List.mem_singleton.1 hb] at hhigh
        omega

/-- With both ends in the result, a candle that is not in it lies between two that are. -/
theorem Downloaded.nothingLost (hstep : 0 < env.stepMs)
    (hends : EndsReceived history startTimeMs endTimeMs referenceTimeMs calls) :
    NothingLost history startTimeMs endTimeMs referenceTimeMs
      ⟨candles, gapsOf env.stepMs candles⟩ := by
  intro c hc
  by_cases hmem : c ∈ candles
  · exact .inl hmem
  have hordered := ordered_completedIn history startTimeMs endTimeMs referenceTimeMs
  -- a candle that is missing lies between the first and the last of those received
  have hne : ∀ d' ∈ candles, d'.openTimeMs ≠ c.openTimeMs := by
    intro d' hd' heq
    have hsame := hordered.eq_of_openTime (d.completed hd') hc heq
    exact hmem (hsame ▸ hd')
  have hfirst : ∃ first ∈ candles, first.openTimeMs < c.openTimeMs := by
    rcases List.exists_cons_of_ne_nil (List.ne_nil_of_mem hc) with ⟨first, rest, hcons⟩
    have hhead : first ∈ candles := by
      refine d.kept first (by rw [hcons]; exact List.mem_cons_self) (hends first (.inl ?_))
      rw [hcons]
      rfl
    refine ⟨first, hhead, ?_⟩
    rw [hcons] at hc hordered
    rcases List.mem_cons.1 hc with rfl | hc
    · exact absurd hhead hmem
    · exact hordered.head_lt hc
  have hlast : ∃ last ∈ candles, c.openTimeMs < last.openTimeMs := by
    rcases List.eq_nil_or_concat'
      (history.completedIn startTimeMs endTimeMs referenceTimeMs) with hnil | ⟨front, last, hsnoc⟩
    · rw [hnil] at hc
      cases hc
    have htail : last ∈ candles := by
      refine d.kept last (by rw [hsnoc]; simp) (hends last (.inr ?_))
      rw [hsnoc]
      simp
    refine ⟨last, htail, ?_⟩
    rw [hsnoc] at hc hordered
    rcases List.mem_append.1 hc with hc | hc
    · exact (List.pairwise_append.1 hordered).2.2 c hc last List.mem_cons_self
    · rw [List.mem_singleton.1 hc] at hmem
      exact absurd htail hmem
  rcases hfirst with ⟨first, hfirst, hbefore⟩
  rcases hlast with ⟨last, hlast, hafter⟩
  -- the candles on both sides of it are on its grid, so a recorded gap covers it
  have haligned : ∀ d' ∈ candles, env.stepMs ∣ c.openTimeMs - d'.openTimeMs := by
    intro d' hd'
    exact history.aligned d' (d.subset_history hd') c (mem_completedIn.1 hc).1
  exact .inr (exists_gap_covering hstep d.ordered hfirst hbefore hlast hafter haligned hne)

/-- Nothing is lost exactly when both ends of the range were received. -/
theorem Downloaded.nothingLost_iff (hstep : 0 < env.stepMs) :
    NothingLost history startTimeMs endTimeMs referenceTimeMs ⟨candles, gapsOf env.stepMs candles⟩ ↔
      EndsReceived history startTimeMs endTimeMs referenceTimeMs calls :=
  ⟨d.endsReceived hstep, d.nothingLost hstep⟩

/-- A candle received in the missing range of a gap of the pages is in the result. -/
theorem Downloaded.mem_of_covers (hstep : 0 < env.stepMs) {gap : GapRecord}
    (hgap : gap ∈ gapsOf env.stepMs paged) {c : Candle} (hc : Received calls c)
    (hcovers : gap.Covers c.openTimeMs) : c ∈ candles := by
  rcases (mem_gapsOf_iff d.pagedOrdered).1 hgap with ⟨a, b, hab, rfl⟩
  have hexpected : a.openTimeMs + env.stepMs ≤ c.openTimeMs := hcovers.1
  have hcompleted := mem_completedIn_between (d.completed (d.pagedSubset hab.previousMem))
    (d.completed (d.pagedSubset hab.nextMem)) (d.fromHistory c hc) (by omega) hcovers.2
  exact d.kept c hcompleted hc

/-- A gap whose requests all failed stays, and no other request narrows down on it. -/
theorem Downloaded.eachAnswered (hstep : 0 < env.stepMs)
    (hrequeried : ∀ gap ∈ gapsOf env.stepMs candles, Requeried endTimeMs calls gap) :
    EachAnswered calls := by
  intro call hcall
  rcases d.requests call hcall with ⟨-, hanswered⟩ | ⟨gap, hgap, hrequest⟩
  · exact hanswered
  rw [hrequest]
  by_contra hfailed
  rcases hrequeried gap (d.gap_stays hstep hgap hfailed) with
    ⟨call', hcall', page, hok, hstart, hend, hnarrow, -⟩
  -- the call that asked for the gap is one for a gap of the pages, hence for this gap
  rcases d.requests call' hcall' with ⟨htoTheEnd, -⟩ | ⟨gap', hgap', hrequest'⟩
  · omega
  rw [hrequest'] at hstart hend
  have hstart' : gap'.expectedOpenTimeMs ≤ gap.expectedOpenTimeMs := hstart
  have hend' : gap.nextOpenTimeMs ≤ gap'.nextOpenTimeMs - 1 + 1 := hend
  have hnonempty : gap.expectedOpenTimeMs < gap.nextOpenTimeMs := by
    rcases (mem_gapsOf_iff d.pagedOrdered).1 hgap with ⟨a, b, hab, rfl⟩
    have htwo := two_steps_of_gapAround hstep
      (fun c hc => d.subset_history (d.pagedSubset hc)) hab
    change a.openTimeMs + env.stepMs < b.openTimeMs
    omega
  have hcovers : gap.Covers gap.expectedOpenTimeMs := ⟨le_rfl, hnonempty⟩
  have hcovers' : gap'.Covers gap.expectedOpenTimeMs := ⟨hstart', by omega⟩
  have heq : gap' = gap := eq_of_covers hstep d.pagedOrdered hgap' hgap hcovers' hcovers
  exact hfailed ⟨call', hcall', by rw [hrequest', heq], page, hok⟩

/-- A gap of the result is part of a gap of the pages, whose request was answered. -/
theorem Downloaded.requeried (hstep : 0 < env.stepMs) (hanswered : EachAnswered calls) :
    ∀ gap ∈ gapsOf env.stepMs candles, Requeried endTimeMs calls gap := by
  intro gap hgap
  rcases d.exists_wider_gap hstep hgap with ⟨wider, hwider, hlow, hhigh⟩
  rcases d.requested wider hwider with ⟨call₀, hcall₀, hrequest₀⟩
  rcases hanswered call₀ hcall₀ with ⟨call, hcall, hrequest, page, hok⟩
  rw [hrequest₀] at hrequest
  have hnext : wider.nextOpenTimeMs < endTimeMs := by
    rcases (mem_gapsOf_iff d.pagedOrdered).1 hwider with ⟨a, b, hab, rfl⟩
    exact (mem_completedIn.1 (d.completed (d.pagedSubset hab.nextMem))).2.2.1
  refine ⟨call, hcall, page, hok, ?_, ?_, ?_, ?_⟩
  · rw [hrequest]
    exact hlow
  · rw [hrequest]
    change gap.nextOpenTimeMs ≤ wider.nextOpenTimeMs - 1 + 1
    omega
  · rw [hrequest]
    change wider.nextOpenTimeMs - 1 + 1 < endTimeMs
    omega
  · intro c hc hcovers
    have hcovers' : wider.Covers c.openTimeMs :=
      ⟨hlow.trans hcovers.1, hcovers.2.trans_le hhigh⟩
    have hmem := d.mem_of_covers hstep hwider ⟨call, hcall, page, hok, hc⟩ hcovers'
    exact not_covers_of_mem_gapsOf hstep d.ordered hgap hmem hcovers

/-- Every confirmed gap was requested again with an answer exactly when every request was answered. -/
theorem Downloaded.requeried_iff (hstep : 0 < env.stepMs) :
    (∀ gap ∈ gapsOf env.stepMs candles, Requeried endTimeMs calls gap) ↔ EachAnswered calls :=
  ⟨d.eachAnswered hstep, d.requeried hstep⟩

end Settled

/-- A download that returns has lost nothing silently exactly when the first and the last completed
candle of the range were received, and each request made was answered at least once. -/
theorem no_silent_loss_iff (hstep : 0 < env.stepMs) (hfaulty : FaultyClient env.client history)
    {pageLimit fuel : ℕ} {result : HistoricalFetchResult} {calls : List KlineCall}
    (h : fetchHistoricalRange env startTimeMs endTimeMs pageLimit referenceTimeMs fuel =
      some (.ok result, calls)) :
    NoSilentLoss history startTimeMs endTimeMs referenceTimeMs result calls ↔
      EndsReceived history startTimeMs endTimeMs referenceTimeMs calls ∧ EachAnswered calls := by
  rcases downloaded_of_ok hstep hfaulty h with ⟨paged, d, hgaps⟩
  have hresult : result = ⟨result.candles, gapsOf env.stepMs result.candles⟩ := by rw [← hgaps]
  have hlost := d.nothingLost_iff hstep
  have hrequeried := d.requeried_iff hstep
  rw [← hresult] at hlost
  rw [← hgaps] at hrequeried
  constructor
  · intro hloss
    exact ⟨hlost.1 hloss.nothingLost, hrequeried.1 hloss.requeried⟩
  · intro hcondition
    exact ⟨hlost.2 hcondition.1, hrequeried.2 hcondition.2⟩

/-- An exchange that leaves some candles out of its first answer; what it does then is given. -/
def omitsFirst (history : ExchangeHistory stepMs) (omitted : Candle → Bool)
    (later : List Candle → Except KlineFailure (List Candle)) (calls : List KlineCall)
    (request : KlineRequest) : Except KlineFailure (List Candle) :=
  if calls.isEmpty then .ok ((history.asked request).filter fun c => !omitted c)
  else later (history.asked request)

theorem omitsFirst_faulty (history : ExchangeHistory stepMs) (omitted : Candle → Bool)
    {later : List Candle → Except KlineFailure (List Candle)}
    (hlater : ∀ asked page, later asked = .ok page → page.Sublist asked) :
    FaultyClient (omitsFirst history omitted later) history := by
  intro calls request page hpage
  unfold omitsFirst at hpage
  split at hpage
  · cases hpage
    exact List.filter_sublist
  · exact hlater _ _ hpage

/-- The last candle is left out of the first page, and never asked for again. -/
def shortPage : FetchEnv where
  client := omitsFirst hourlyHistory (fun c => c.openTimeMs = 14400000) .ok
  stepMs := 3600000
  maxRetries := 5

/-- The second candle is left out of the first page, and each request for the gap times out. -/
def requeryTimesOut : FetchEnv where
  client := omitsFirst hourlyHistory (fun c => c.openTimeMs = 3600000)
    fun _ => .error (.request "timeout")
  stepMs := 3600000
  maxRetries := 5

theorem shortPage_run : ∃ calls, fetchHistoricalRange shortPage 0 18000000 1000 18000000 2 =
    some (.ok ⟨[0, 1, 3].map hourlyCandle, [⟨7200000, 3600000, 10800000, 1⟩]⟩, calls) := by
  have hok : (fetchHistoricalRange shortPage 0 18000000 1000 18000000 2).map Prod.fst =
      some (.ok ⟨[0, 1, 3].map hourlyCandle, [⟨7200000, 3600000, 10800000, 1⟩]⟩) := by
    decide +kernel
  rcases Option.map_eq_some_iff.1 hok with ⟨⟨outcome, calls⟩, hrun, houtcome⟩
  cases houtcome
  exact ⟨calls, hrun⟩

theorem shortPage_faulty : FaultyClient shortPage.client hourlyHistory := by
  refine omitsFirst_faulty _ _ ?_
  intro asked page h
  cases h
  exact List.Sublist.refl _

theorem requeryTimesOut_faulty : FaultyClient requeryTimesOut.client hourlyHistory := by
  have hlater : ∀ asked page : List Candle,
      (.error (.request "timeout") : Except KlineFailure (List Candle)) = .ok page →
        page.Sublist asked := by
    intro asked page h
    cases h
  exact omitsFirst_faulty hourlyHistory (fun c => c.openTimeMs = 3600000) hlater

theorem no_silent_loss_iff_short_page : ∃ result calls,
    fetchHistoricalRange shortPage 0 18000000 1000 18000000 2 = some (.ok result, calls) ∧
    (NoSilentLoss hourlyHistory 0 18000000 18000000 result calls ↔
      EndsReceived hourlyHistory 0 18000000 18000000 calls ∧ EachAnswered calls) := by
  rcases shortPage_run with ⟨calls, hrun⟩
  have hstep : 0 < shortPage.stepMs := by decide
  exact ⟨_, calls, hrun, no_silent_loss_iff hstep shortPage_faulty hrun⟩

/-- A short page is taken for the end of the history, and a request that only fails for one that
found nothing. -/
theorem silent_loss_after_faults :
    (FaultyClient shortPage.client hourlyHistory ∧ ∃ result calls,
      fetchHistoricalRange shortPage 0 18000000 1000 18000000 2 = some (.ok result, calls) ∧
      ¬NothingLost hourlyHistory 0 18000000 18000000 result) ∧
    FaultyClient requeryTimesOut.client hourlyHistory ∧ ∃ result calls gap,
      fetchHistoricalRange requeryTimesOut 0 18000000 1000 18000000 2 = some (.ok result, calls) ∧
      gap ∈ result.confirmedGaps ∧ ¬Requeried 18000000 calls gap := by
  refine ⟨⟨shortPage_faulty, ?_⟩, requeryTimesOut_faulty, ?_⟩
  · rcases shortPage_run with ⟨calls, hrun⟩
    refine ⟨_, calls, hrun, ?_⟩
    intro hlost
    have hlast := hlost (hourlyCandle 4) (by decide +kernel)
    revert hlast
    decide +kernel
  · have hok : (fetchHistoricalRange requeryTimesOut 0 18000000 1000 18000000 2).map
        (fun r => (r.1, r.2.all fun call => !call.answer.isOk ||
          decide (call.request.endTimeMs + 1 = 18000000))) =
        some (.ok ⟨[0, 3, 4].map hourlyCandle, [⟨3600000, 0, 10800000, 2⟩]⟩, true) := by
      decide +kernel
    rcases Option.map_eq_some_iff.1 hok with ⟨⟨outcome, calls⟩, hrun, houtcome⟩
    rcases Prod.mk.inj houtcome with ⟨rfl, hcalls⟩
    refine ⟨_, calls, ⟨3600000, 0, 10800000, 2⟩, hrun, by simp, ?_⟩
    intro hrequeried
    rcases hrequeried with ⟨call, hcall, page, hanswer, -, -, hnarrow, -⟩
    -- the only calls that were answered are those for pages
    have hpages := List.all_eq_true.1 hcalls call hcall
    rw [hanswer] at hpages
    have hend : call.request.endTimeMs + 1 = 18000000 := by
      simpa [Except.isOk, Except.toBool] using hpages
    omega

end Download

end TradingAgent
