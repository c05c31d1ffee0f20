import TradingAgent.Data.FetchCompleteness
import TradingAgent.Data.GapAudit
import TradingAgent.Library.Cuts

/-!
# Confirmed minutes — what an audit has been told about a gap

An exchange with a finite history of one-minute candles, whose successful answers list the first
candles of the range asked for.  Requests fail and time passes in any pattern.

* `Confirmed`: the answers of a trace tell everything about a time;
* `analyzeGap_spec`: a run is `analyzeOneGap` on the candles below the point where fetching stopped,
  and exactly the times below that point are confirmed;
* `gap_hours_classified` says what every outcome of a run rests on.
-/

namespace TradingAgent

open Effects

/-! ## Confirmed times -/

def AuditEvent.minutes (request : KlineRequest) (page : List Candle) : AuditEvent :=
  ⟨.getKlines "1m" request, .ok page⟩

theorem AuditEvent.minutes_inj {request request' : KlineRequest} {page page' : List Candle}
    (h : AuditEvent.minutes request page = .minutes request' page') :
    request = request' ∧ page = page' := by
  cases h
  exact ⟨rfl, rfl⟩

/-- A page that is not full tells everything about its range, a full one about the range up to the
minute of its last candle. -/
def Confirms (request : KlineRequest) (page : List Candle) (timeMs : ℤ) : Prop :=
  request.startTimeMs ≤ timeMs ∧
    if (page.length : ℤ) < request.limit then timeMs ≤ request.endTimeMs
    else ∃ last ∈ page.getLast?, timeMs < last.openTimeMs + oneMinuteMs

def Confirmed (trace : List AuditEvent) (timeMs : ℤ) : Prop :=
  ∃ request page, .minutes request page ∈ trace ∧ Confirms request page timeMs

/-- Every successful request for one-minute candles was answered in full. -/
def ListsMinutes (history : ExchangeHistory oneMinuteMs) (trace : List AuditEvent) : Prop :=
  ∀ request page, .minutes request page ∈ trace → page = history.answer request

section Confirmed

variable {history : ExchangeHistory oneMinuteMs} {trace trace' : List AuditEvent} {timeMs : ℤ}

theorem confirmed_append :
    Confirmed (trace ++ trace') timeMs ↔ Confirmed trace timeMs ∨ Confirmed trace' timeMs := by
  constructor
  · rintro ⟨request, page, hmem, hconfirms⟩
    rcases List.mem_append.1 hmem with hmem | hmem
    · exact Or.inl ⟨request, page, hmem, hconfirms⟩
    · exact Or.inr ⟨request, page, hmem, hconfirms⟩
  · rintro (⟨request, page, hmem, hconfirms⟩ | ⟨request, page, hmem, hconfirms⟩)
    · exact ⟨request, page, List.mem_append_left _ hmem, hconfirms⟩
    · exact ⟨request, page, List.mem_append_right _ hmem, hconfirms⟩

@[simp] theorem confirmed_nil : ¬Confirmed [] timeMs := by
  rintro ⟨request, page, hmem, -⟩
  cases hmem

@[simp] theorem confirmed_minutes {request : KlineRequest} {page : List Candle} :
    Confirmed [.minutes request page] timeMs ↔ Confirms request page timeMs := by
  constructor
  · rintro ⟨request', page', hmem, hconfirms⟩
    cases List.mem_singleton.1 hmem
    exact hconfirms
  · intro h
    exact ⟨request, page, by simp, h⟩

/-- Events that are no pages of minutes confirm nothing. -/
theorem not_confirmed_of_other (h : ∀ request page, .minutes request page ∉ trace) :
    ¬Confirmed trace timeMs := by
  rintro ⟨request, page, hmem, -⟩
  exact h request page hmem

theorem ListsMinutes.of_append (h : ListsMinutes history (trace ++ trace')) :
    ListsMinutes history trace :=
  fun request page hmem => h request page (List.mem_append_left _ hmem)

theorem not_confirmed_failures {interval : String} {request : KlineRequest}
    {failures : List String} : ¬Confirmed (failures.map (.failed interval request)) timeMs := by
  apply not_confirmed_of_other
  intro request' page hmem
  rcases List.mem_map.1 hmem with ⟨text, -, heq⟩
  cases heq

/-- Reading the clock confirms nothing. -/
theorem not_confirmed_now {seconds : ℚ} : ¬Confirmed [⟨.now, seconds⟩] timeMs := by
  apply not_confirmed_of_other
  intro request page hmem
  cases List.mem_singleton.1 hmem

end Confirmed

/-! ## Pages -/

/-- What the paging loop knows at a cursor: it holds the candles before it, and exactly the times
before it are confirmed. -/
structure PagedTo (history : ExchangeHistory oneMinuteMs) (startMs endMs cursor : ℤ)
    (candles : List Candle) (trace : List AuditEvent) : Prop where
  start : startMs ≤ cursor
  rest : candles ++ history.remaining endMs cursor = history.remaining endMs startMs
  confirmed : ∀ t, startMs ≤ t → t < endMs → (Confirmed trace t ↔ t < cursor)
  origin : cursor = startMs ∨ cursor = endMs ∨
    ∃ last ∈ candles, cursor = last.openTimeMs + oneMinuteMs

section Paging

variable {history : ExchangeHistory oneMinuteMs} {startMs endMs cursor : ℤ}
variable {candles : List Candle} {trace : List AuditEvent}

theorem mem_remaining {stepMs : ℤ} {history : ExchangeHistory stepMs} {c : Candle} :
    c ∈ history.remaining endMs cursor ↔
    c ∈ history.candles ∧ cursor ≤ c.openTimeMs ∧ c.openTimeMs < endMs := by
  simp [ExchangeHistory.remaining]

/-- Cutting what is left of a range at a time in it. -/
theorem remaining_split {middle : ℤ} (hstart : cursor ≤ middle) (hend : middle ≤ endMs) :
    history.remaining middle cursor ++ history.remaining endMs middle =
      history.remaining endMs cursor := by
  have hcut := Cuts.filter_append_filter_not (p := fun c : Candle => decide (c.openTimeMs < middle))
    (history.ordered.filter fun c => decide (cursor ≤ c.openTimeMs ∧ c.openTimeMs < endMs))
    (by
      intro a b hlt hb
      simp only [decide_eq_true_eq] at hb ⊢
      exact hlt.trans hb)
  rw [List.filter_filter, List.filter_filter] at hcut
  calc history.remaining middle cursor ++ history.remaining endMs middle
      = _ ++ _ := by
        congr 1
        · apply List.filter_congr
          intro c _
          rw [← Bool.decide_and]
          apply decide_eq_decide.2
          omega
        · apply List.filter_congr
          intro c _
          rw [← decide_not, ← Bool.decide_and]
          apply decide_eq_decide.2
          omega
    _ = history.remaining endMs cursor := hcut

/-- Nothing is left at the end of the range. -/
theorem remaining_of_le (h : endMs ≤ cursor) : history.remaining endMs cursor = [] := by
  apply List.filter_eq_nil_iff.2
  intro c _ hc
  simp only [decide_eq_true_eq] at hc
  omega

/-- The candles collected up to a point of the range are all there are before it. -/
theorem PagedTo.candles_eq (h : PagedTo history startMs endMs cursor candles trace)
    (hcursor : cursor ≤ endMs) : candles = history.remaining cursor startMs := by
  have hsplit : history.remaining cursor startMs ++ history.remaining endMs cursor = _ :=
    remaining_split h.start hcursor
  exact List.append_cancel_right (h.rest.trans hsplit.symm)

theorem confirms_pageRequest {page : List Candle} {limit : ℕ} {t : ℤ} :
    Confirms (pageRequest cursor endMs limit) page t ↔
      cursor ≤ t ∧ if page.length < limit then t < endMs
        else ∃ last ∈ page.getLast?, t < last.openTimeMs + oneMinuteMs := by
  simp only [Confirms, pageRequest, exclusiveUpperBoundForRequest, Int.ofNat_lt, Int.le_sub_one_iff]

/-- An answer at the cursor, with whatever failed before it. -/
theorem confirmed_page {quiet : List AuditEvent} {page : List Candle} {t : ℤ}
    (hquiet : ¬Confirmed quiet t) :
    Confirmed (trace ++ quiet ++ [.minutes (pageRequest cursor endMs klinePageLimit) page]) t ↔
      Confirmed trace t ∨ Confirms (pageRequest cursor endMs klinePageLimit) page t := by
  rw [confirmed_append, confirmed_append, confirmed_minutes]
  simp [hquiet]

/-- A page that is not full ends the range. -/
theorem PagedTo.last (h : PagedTo history startMs endMs cursor candles trace)
    (hcursor : cursor < endMs) {quiet : List AuditEvent} (hquiet : ∀ t, ¬Confirmed quiet t)
    (hshort : ((history.remaining endMs cursor).take klinePageLimit).length < klinePageLimit) :
    PagedTo history startMs endMs endMs
      (candles ++ (history.remaining endMs cursor).take klinePageLimit)
      (trace ++ quiet ++ [.minutes (pageRequest cursor endMs klinePageLimit)
        ((history.remaining endMs cursor).take klinePageLimit)]) := by
  have hall : (history.remaining endMs cursor).take klinePageLimit =
      history.remaining endMs cursor := by
    apply List.take_of_length_le
    rw [List.length_take] at hshort
    omega
  constructor
  case start => exact h.start.trans hcursor.le
  case rest =>
    rw [remaining_of_le le_rfl, List.append_nil, hall]
    exact h.rest
  case confirmed =>
    intro t hstart hend
    rw [confirmed_page (hquiet t), h.confirmed t hstart hend]
    -- the page tells about everything from the cursor on
    constructor
    · intro _
      exact hend
    · intro _
      by_cases ht : t < cursor
      · exact Or.inl ht
      · exact Or.inr (confirms_pageRequest.2 ⟨not_lt.1 ht, by rwa [if_pos hshort]⟩)
  case origin => exact Or.inr (Or.inl rfl)

/-- A full page moves the cursor behind the minute of its last candle. -/
theorem PagedTo.next (h : PagedTo history startMs endMs cursor candles trace)
    {quiet : List AuditEvent} (hquiet : ∀ t, ¬Confirmed quiet t) {last : Candle}
    (hlast : ((history.remaining endMs cursor).take klinePageLimit).getLast? = some last)
    (hfull : ¬((history.remaining endMs cursor).take klinePageLimit).length < klinePageLimit) :
    PagedTo history startMs endMs (last.openTimeMs + oneMinuteMs)
      (candles ++ (history.remaining endMs cursor).take klinePageLimit)
      (trace ++ quiet ++ [.minutes (pageRequest cursor endMs klinePageLimit)
        ((history.remaining endMs cursor).take klinePageLimit)]) := by
  have hmem := List.mem_of_getLast? hlast
  have hleft := (mem_remaining.1 (List.mem_of_mem_take hmem)).2.1
  have hstart := h.start
  have hminute : (0 : ℤ) < oneMinuteMs := by decide
  constructor
  case start => omega
  case rest =>
    calc candles ++ (history.remaining endMs cursor).take klinePageLimit ++
          history.remaining endMs (last.openTimeMs + oneMinuteMs)
        = candles ++ ((history.remaining endMs cursor).take klinePageLimit ++
            (history.remaining endMs cursor).drop klinePageLimit) := by
          rw [List.append_assoc, remaining_next hminute hlast]
      _ = candles ++ history.remaining endMs cursor := by rw [List.take_append_drop]
      _ = history.remaining endMs startMs := h.rest
  case confirmed =>
    intro t ht hend
    rw [confirmed_page (hquiet t), h.confirmed t ht hend, confirms_pageRequest, if_neg hfull]
    constructor
    · rintro (hlt | ⟨-, last', hlast', hlt⟩)
      · omega
      · rw [hlast] at hlast'
        cases hlast'
        exact hlt
    · intro hlt
      by_cases hcursor : t < cursor
      · exact Or.inl hcursor
      · exact Or.inr ⟨not_lt.1 hcursor, last, hlast, hlt⟩
  case origin =>
    exact Or.inr (Or.inr ⟨last, List.mem_append_right _ hmem, rfl⟩)

/-- Where the paging loop ends. -/
structure FetchEnd (history : ExchangeHistory oneMinuteMs) (startMs endMs : ℤ)
    (fetched : FetchedRange) (trace : List AuditEvent) : Prop where
  paged : PagedTo history startMs endMs fetched.reachedUpToMs fetched.candles trace
  inside : fetched.reachedUpToMs ≤ endMs
  whole : fetched.stoppedReason = none → fetched.reachedUpToMs = endMs
  stopped : fetched.stoppedReason.isSome → fetched.reachedUpToMs < endMs

/-- What came before the page of one round. -/
theorem PagedTo.quiet (h : PagedTo history startMs endMs cursor candles trace)
    {quiet : List AuditEvent} (hquiet : ∀ t, ¬Confirmed quiet t) :
    PagedTo history startMs endMs cursor candles (trace ++ quiet) := by
  refine ⟨h.start, h.rest, ?_, h.origin⟩
  intro t ht hend
  rw [confirmed_append, h.confirmed t ht hend]
  simp [hquiet t]

/-- A cursor that has left the range ends it. -/
theorem PagedTo.done (h : PagedTo history startMs endMs cursor candles trace)
    (hrange : startMs ≤ endMs) (hcursor : endMs ≤ cursor) :
    FetchEnd history startMs endMs ⟨candles, endMs, none⟩ trace := by
  refine ⟨⟨hrange, ?_, ?_, Or.inr (Or.inl rfl)⟩, le_rfl, fun _ => rfl, by simp⟩
  · have hnothing : history.remaining endMs endMs = [] := remaining_of_le le_rfl
    have hrest := h.rest
    rwa [remaining_of_le hcursor, ← hnothing] at hrest
  · intro t ht hend
    rw [h.confirmed t ht hend]
    exact ⟨fun _ => hend, fun _ => hend.trans_le hcursor⟩

/-- A fetch that stops before the end of the range. -/
theorem PagedTo.stop (h : PagedTo history startMs endMs cursor candles trace)
    (hcursor : cursor < endMs) (reason : StoppedReason) :
    FetchEnd history startMs endMs ⟨candles, cursor, some reason⟩ trace :=
  ⟨h, hcursor.le, by simp, fun _ => hcursor⟩

/-- The page that answers a round is the first of what remains, and none of it is cut off. -/
theorem answered_page {answer : List Candle} (hlists : ListsMinutes history trace)
    (hmem : .minutes (pageRequest cursor endMs klinePageLimit) answer ∈ trace) :
    answer = (history.remaining endMs cursor).take klinePageLimit ∧
      belowExclusiveEnd answer (some endMs) =
        (history.remaining endMs cursor).take klinePageLimit := by
  have hanswer : answer = history.answer (pageRequest cursor endMs klinePageLimit) :=
    hlists _ _ hmem
  refine ⟨hanswer.trans (answer_pageRequest cursor), ?_⟩
  rw [hanswer]
  exact belowExclusiveEnd_answer cursor

/-- From any cursor of the range the paging loop ends, and holds the candles before the point it has
reached. -/
theorem fetch1mRange_spec {maxRetries rounds : ℕ} {deadline : ℚ} {trace' : List AuditEvent}
    {fetched : Option FetchedRange}
    (h : RecordsTo (fetch1mRange endMs maxRetries deadline (rounds + 1) cursor candles) trace
      fetched trace')
    (hlists : ListsMinutes history trace')
    (hpaged : PagedTo history startMs endMs cursor candles trace) (hrange : startMs ≤ endMs)
    (hrounds : endMs - cursor ≤ rounds * oneMinuteMs) :
    ∃ r, fetched = some r ∧ FetchEnd history startMs endMs r trace' := by
  induction rounds generalizing cursor candles trace with
  | zero =>
      have hcursor : ¬cursor < endMs := by omega
      simp only [fetch1mRange, hcursor, if_false] at h
      rcases recordsTo_pure.1 h with ⟨rfl, rfl⟩
      exact ⟨_, rfl, hpaged.done hrange (not_lt.1 hcursor)⟩
  | succ rounds ih =>
      rw [fetch1mRange] at h
      by_cases hcursor : cursor < endMs
      case neg =>
        rw [if_neg hcursor] at h
        rcases recordsTo_pure.1 h with ⟨rfl, rfl⟩
        exact ⟨_, rfl, hpaged.done hrange (not_lt.1 hcursor)⟩
      rw [if_pos hcursor] at h
      rcases recordsTo_bind.1 h with ⟨seconds, middle, hnow, hround⟩
      cases recordsTo_now.1 hnow
      have hpaged' : PagedTo history startMs endMs cursor candles
          (trace ++ [⟨.now, seconds⟩]) := hpaged.quiet fun _ => not_confirmed_now
      split at hround
      · -- the gap's time budget is used up
        rcases recordsTo_pure.1 hround with ⟨rfl, rfl⟩
        exact ⟨_, rfl, hpaged'.stop hcursor _⟩
      rcases recordsTo_bind.1 hround with ⟨page, middle, hpage, hrest⟩
      rcases fetchKlines_records hpage with ⟨failures, hrecords⟩
      cases page with
      | none =>
          -- the page's retries are used up
          rcases recordsTo_pure.1 hrest with ⟨rfl, rfl⟩
          rw [hrecords.2]
          exact ⟨_, rfl, (hpaged'.quiet fun _ => not_confirmed_failures).stop hcursor _⟩
      | some page =>
          rcases hrecords with ⟨answer, rfl, rfl⟩
          have hmem : .minutes (pageRequest cursor endMs klinePageLimit) answer ∈ trace' := by
            rcases RecordsTo.appends hrest with ⟨events, rfl⟩
            simp [AuditEvent.answered, AuditEvent.minutes, pageRequest]
          rcases answered_page hlists hmem with ⟨htake, hbelow⟩
          rw [hbelow, htake] at hrest
          have hquiet : ∀ t, ¬Confirmed (failures.map
              (.failed "1m" (pageRequest cursor endMs klinePageLimit))) t :=
            fun _ => not_confirmed_failures
          cases hlast : ((history.remaining endMs cursor).take klinePageLimit).getLast? with
          | none =>
              -- an empty page: nothing more in the range
              have hempty := List.getLast?_eq_none_iff.1 hlast
              have hend := hpaged'.last hcursor hquiet (by rw [hempty]; decide)
              rw [hempty] at hrest hend
              rcases recordsTo_pure.1 hrest with ⟨rfl, rfl⟩
              rw [List.append_nil] at hend
              exact ⟨_, rfl, hend, le_rfl, fun _ => rfl, by simp⟩
          | some last =>
              simp only [hlast] at hrest
              by_cases hshort : ((history.remaining endMs cursor).take klinePageLimit).length <
                  klinePageLimit
              case pos =>
                rw [if_pos hshort] at hrest
                rcases recordsTo_pure.1 hrest with ⟨rfl, rfl⟩
                exact ⟨_, rfl, hpaged'.last hcursor hquiet hshort, le_rfl, fun _ => rfl, by simp⟩
              case neg =>
                rw [if_neg hshort] at hrest
                apply ih hrest (hpaged'.next hquiet hlast hshort)
                have hmem := List.mem_of_mem_take (List.mem_of_getLast? hlast)
                have hleft := (mem_remaining.1 hmem).2.1
                push_cast at hrounds
                linarith

end Paging

/-! ## Hours -/

theorem nativeRequest_injective : Function.Injective nativeRequest := by
  intro hour hour' h
  exact congrArg KlineRequest.startTimeMs h

theorem oneMinute_pos : (0 : ℤ) < oneMinuteMs := by decide

theorem oneHour_pos : (0 : ℤ) < oneHourMs := by decide

section Hours

variable {symbol : String} {maxRetries : ℕ} {deadline : ℚ} {fetched : FetchedRange}
variable {trace trace' : List AuditEvent} {hour : ℤ}

/-- Events that belong to the cross-checks of other hours answer none of this hour. -/
theorem nativePage_of_hours {hours : List ℤ} (hhour : hour ∉ hours)
    (h : ∀ e ∈ trace, e.effect = .now ∨ ∃ hour' ∈ hours,
      e.effect = .getKlines "1h" (nativeRequest hour')) : nativePage trace hour = none := by
  apply nativePage_of_other
  intro e he heq
  rcases h e he with hnow | ⟨hour', hmem, hother⟩
  · rw [hnow] at heq
    cases heq
  · rw [hother] at heq
    have hsame : hour' = hour := nativeRequest_injective (AuditEffect.getKlines.inj heq).2
    exact hhour (hsame ▸ hmem)

/-- What becomes of one hour of a range that was fetched up to a point. -/
def fetchedOutcome (symbol : String) (fetched : FetchedRange) (trace : List AuditEvent)
    (hour : ℤ) : MissingHourOutcome :=
  if fetched.stoppedReason.isSome ∧ hour ≥ fetched.reachedUpToMs then
    ⟨hour, .unresolved, 0, none⟩
  else classifyHour symbol hour (hourMinutes fetched.candles hour) (nativeIn trace hour)

/-- The events of one hour, and what they make of it. -/
theorem auditHour_spec {outcome : MissingHourOutcome}
    (h : RecordsTo (auditHour symbol maxRetries deadline fetched hour) trace outcome trace') :
    ∃ events, trace' = trace ++ events ∧
      (∀ e ∈ events, e.effect = .now ∨ e.effect = .getKlines "1h" (nativeRequest hour)) ∧
      outcome = fetchedOutcome symbol fetched events hour := by
  unfold fetchedOutcome
  unfold auditHour at h
  split at h
  · rename_i hunreached
    rcases recordsTo_pure.1 h with ⟨rfl, rfl⟩
    exact ⟨[], by simp, by simp, (if_pos hunreached).symm⟩
  · rename_i hreached
    rcases classifyFetchedHour_spec h with ⟨events, htrace, hevents, houtcome⟩
    exact ⟨events, htrace, hevents, by rw [if_neg hreached, houtcome]⟩

/-- Every hour is classified by its candles and by what its own cross-check was answered. -/
theorem classifyHours_spec {hours : List ℤ} {outcomes : List MissingHourOutcome}
    (h : RecordsTo (classifyHours symbol maxRetries deadline fetched hours) trace outcomes trace')
    (hnodup : hours.Nodup) (hfresh : ∀ hour ∈ hours, nativePage trace hour = none) :
    ∃ events, trace' = trace ++ events ∧
      (∀ e ∈ events, e.effect = .now ∨ ∃ hour ∈ hours,
        e.effect = .getKlines "1h" (nativeRequest hour)) ∧
      outcomes = hours.map (fetchedOutcome symbol fetched trace') := by
  induction hours generalizing trace outcomes with
  | nil =>
      rcases recordsTo_pure.1 h with ⟨rfl, rfl⟩
      exact ⟨[], by simp, by simp, rfl⟩
  | cons hour rest ih =>
      rcases List.nodup_cons.1 hnodup with ⟨hnew, hrest⟩
      rcases recordsTo_bind.1 h with ⟨outcome, middle, hfirst, hothers⟩
      rcases recordsTo_bind.1 hothers with ⟨outcomes', trace'', hrun, hdone⟩
      rcases recordsTo_pure.1 hdone with ⟨rfl, rfl⟩
      rcases auditHour_spec hfirst with ⟨events, rfl, hevents, houtcome⟩
      -- the events of the first hour answer no other hour's cross-check
      have hofHour : ∀ e ∈ events, e.effect = .now ∨ ∃ hour' ∈ [hour],
          e.effect = .getKlines "1h" (nativeRequest hour') := by
        intro e he
        rcases hevents e he with hnow | hnative
        · exact Or.inl hnow
        · exact Or.inr ⟨hour, by simp, hnative⟩
      have hfresh' : ∀ hour' ∈ rest, nativePage (trace ++ events) hour' = none := by
        intro hour' hmem
        have hne : hour' ∉ [hour] := by
          intro heq
          exact hnew (List.mem_singleton.1 heq ▸ hmem)
        rw [nativePage_append, hfresh hour' (List.mem_cons_of_mem _ hmem),
          nativePage_of_hours hne hofHour]
        rfl
      rcases ih hrun hrest hfresh' with ⟨later, rfl, hlater, houtcomes⟩
      refine ⟨events ++ later, by simp, ?_, ?_⟩
      · intro e he
        rcases List.mem_append.1 he with he | he
        · rcases hevents e he with hnow | hnative
          · exact Or.inl hnow
          · exact Or.inr ⟨hour, by simp, hnative⟩
        · rcases hlater e he with hnow | ⟨hour', hmem, hnative⟩
          · exact Or.inl hnow
          · exact Or.inr ⟨hour', List.mem_cons_of_mem _ hmem, hnative⟩
      · -- nor do the later events answer the first hour's
        have hpage : nativePage (trace ++ events ++ later) hour = nativePage events hour := by
          rw [nativePage_append, nativePage_append, hfresh hour List.mem_cons_self,
            nativePage_of_hours hnew hlater]
          simp
        have hsame : fetchedOutcome symbol fetched (trace ++ events ++ later) hour =
            fetchedOutcome symbol fetched events hour := by
          simp only [fetchedOutcome, nativeIn, hpage]
        rw [List.map_cons, hsame, houtcome, houtcomes]

/-- The fetched candles of an hour, where they are in order. -/
theorem hourMinutes_of_ordered {candles : List Candle} (h : Ordered candles) :
    hourMinutes candles hour =
      candles.filter fun c => hour ≤ c.openTimeMs ∧ c.openTimeMs < hour + oneHourMs := by
  have hnodup : (candles.map Candle.openTimeMs).Nodup :=
    List.pairwise_map.2 (h.imp fun hlt => hlt.ne)
  have hset : candles.foldl (fun (d : Dict ℤ Candle) c => d.set c.openTimeMs c) [] =
      candles.map fun c => (c.openTimeMs, c) := by
    simpa [Dict.setAll] using Dict.setAll_of_fresh (d := []) hnodup (by simp)
  have hvalues : (((candles.map fun c => (c.openTimeMs, c)).filter fun entry =>
      hour ≤ entry.1 ∧ entry.1 < hour + oneHourMs).map Prod.snd) =
        candles.filter fun c => hour ≤ c.openTimeMs ∧ c.openTimeMs < hour + oneHourMs := by
    rw [List.filter_map, List.map_map]
    exact List.map_id _
  have hsorted : (candles.filter fun c => hour ≤ c.openTimeMs ∧
      c.openTimeMs < hour + oneHourMs).Pairwise fun a b => a.openTimeMs ≤ b.openTimeMs :=
    (h.filter _).imp fun hlt => hlt.le
  unfold hourMinutes
  rw [hset]
  exact (congrArg _ hvalues).trans hsorted.insertionSort_eq

end Hours

/-! ## One gap -/

/-- What an audit has found for an hour when fetching ended at a point: the candles before it. -/
def evidenceUpTo (history : ExchangeHistory oneMinuteMs) (reachedUpToMs : ℤ)
    (trace : List AuditEvent) (hour : ℤ) : HourEvidence where
  reached := hour < reachedUpToMs
  minutes := history.candles.filter fun c =>
    hour ≤ c.openTimeMs ∧ c.openTimeMs < hour + oneHourMs ∧ c.openTimeMs < reachedUpToMs
  native := nativeIn trace hour

section Gap

variable {history : ExchangeHistory oneMinuteMs} {symbol : String} {maxRetries : ℕ}
variable {maxSecondsPerGap : ℚ} {gap : GapRecord} {trace trace' : List AuditEvent}

/-- The hours below the cutoff come first. -/
theorem hours_below_append (gap : GapRecord) :
    ((missingHoursForGap gap).filter fun h => h < researchCutoffMs) ++
      ((missingHoursForGap gap).filter fun h => h ≥ researchCutoffMs) = missingHoursForGap gap := by
  have hcut := Cuts.filter_append_filter_not (p := fun h : ℤ => decide (h < researchCutoffMs))
    (missingHours_lt gap) (by
      intro a b hlt hb
      simp only [decide_eq_true_eq] at hb ⊢
      exact hlt.trans hb)
  have hnot : (fun h : ℤ => !decide (h < researchCutoffMs)) =
      fun h => decide (h ≥ researchCutoffMs) := by
    funext h
    rw [← decide_not]
    exact decide_eq_decide.2 not_lt
  rwa [hnot] at hcut

/-- Events after the fetch confirm nothing more. -/
theorem confirmed_after_fetch {events : List AuditEvent} {timeMs : ℤ}
    (h : ∀ e ∈ events, ∀ request, e.effect ≠ .getKlines "1m" request) :
    Confirmed (trace ++ events) timeMs ↔ Confirmed trace timeMs := by
  rw [confirmed_append]
  have hnone : ¬Confirmed events timeMs := by
    apply not_confirmed_of_other
    intro request page hmem
    exact h _ hmem request rfl
  simp [hnone]

/-- The fetched candles of an hour of the range are those of the exchange before the point reached. -/
theorem FetchEnd.hourMinutes_eq {startMs endMs hour : ℤ} {fetched : FetchedRange}
    (h : FetchEnd history startMs endMs fetched trace) (hstart : startMs ≤ hour) :
    hourMinutes fetched.candles hour = history.candles.filter fun c =>
      hour ≤ c.openTimeMs ∧ c.openTimeMs < hour + oneHourMs ∧
        c.openTimeMs < fetched.reachedUpToMs := by
  rw [h.paged.candles_eq h.inside, ExchangeHistory.remaining,
    hourMinutes_of_ordered (history.ordered.filter _), List.filter_filter]
  apply List.filter_congr
  intro c _
  rw [← Bool.decide_and]
  apply decide_eq_decide.2
  omega

/-- An hour of the range, from what was fetched of it. -/
theorem fetchedOutcome_eq {startMs endMs hour : ℤ} {fetched : FetchedRange}
    (hend : FetchEnd history startMs endMs fetched trace) (hstart : startMs ≤ hour)
    (hinside : hour < endMs) (hcutoff : hour < researchCutoffMs)
    (hnative : nativePage trace' hour = nativePage trace hour) :
    fetchedOutcome symbol fetched trace hour =
      analyzeHour symbol (evidenceUpTo history fetched.reachedUpToMs trace') hour := by
  have hreached : (fetched.stoppedReason.isSome ∧ hour ≥ fetched.reachedUpToMs) ↔
      ¬hour < fetched.reachedUpToMs := by
    constructor
    · exact fun h => not_lt.2 h.2
    · intro hnot
      refine ⟨?_, not_lt.1 hnot⟩
      -- a fetch that was not stopped has reached the end of the range
      rw [Option.isSome_iff_ne_none]
      intro hwhole
      exact hnot (hinside.trans_eq (hend.whole hwhole).symm)
  simp only [fetchedOutcome, analyzeHour, hreached, hend.hourMinutes_eq hstart]
  simp only [evidenceUpTo, nativeIn, hnative, decide_eq_false_iff_not, ge_iff_le,
    not_le.2 hcutoff, false_or]

/-- In an ascending list every hour lies between the first and the last one. -/
theorem mem_between {first hour : ℤ} {rest : List ℤ} (h : (first :: rest).Pairwise (· < ·))
    (hmem : hour ∈ first :: rest) :
    first ≤ hour ∧ hour ≤ (first :: rest).getLast?.getD first := by
  constructor
  · rcases List.mem_cons.1 hmem with rfl | hmem
    · exact le_rfl
    · exact ((List.pairwise_cons.1 h).1 hour hmem).le
  · rcases List.eq_nil_or_concat' (first :: rest) with hnil | ⟨init, last, heq⟩
    · cases hnil
    · rw [heq] at h hmem ⊢
      rw [List.getLast?_concat, Option.getD_some]
      rcases List.mem_append.1 hmem with hmem | hmem
      · exact ((List.pairwise_append.1 h).2.2 hour hmem last (by simp)).le
      · exact (List.mem_singleton.1 hmem).le

/-- The point where the fetch of a gap has ended: before it the times of the gap's hours are
confirmed, and where it lies inside an hour, it follows a candle. -/
structure FetchedUpTo (history : ExchangeHistory oneMinuteMs) (gap : GapRecord)
    (trace : List AuditEvent) (reachedUpToMs : ℤ) : Prop where
  confirmed : ∀ hour ∈ missingHoursForGap gap, hour < researchCutoffMs → ∀ t, hour ≤ t →
    t < hour + oneHourMs → (Confirmed trace t ↔ t < reachedUpToMs)
  inside : ∀ hour ∈ missingHoursForGap gap, hour < researchCutoffMs → hour < reachedUpToMs →
    reachedUpToMs < hour + oneHourMs →
    ∃ last ∈ history.candles, reachedUpToMs = last.openTimeMs + oneMinuteMs

/-- Fetching the range of the hours below the cutoff. -/
theorem fetchGapRange_spec {deadline : ℚ} {first : ℤ} {rest : List ℤ}
    {fetched : Option FetchedRange}
    (h : RecordsTo (fetchGapRange maxRetries deadline (first :: rest)) trace fetched trace')
    (hsorted : (first :: rest).Pairwise (· < ·)) (hlists : ListsMinutes history trace')
    (hquiet : ∀ t, ¬Confirmed trace t) :
    ∃ r, fetched = some r ∧ FetchEnd history first
      ((first :: rest).getLast?.getD first + oneHourMs) r trace' := by
  have hle : first ≤ (first :: rest).getLast?.getD first :=
    (mem_between hsorted List.mem_cons_self).2
  have hhour := oneHour_pos
  refine fetch1mRange_spec h hlists ⟨le_rfl, rfl, ?_, Or.inl rfl⟩ (by omega) ?_
  · intro t ht _
    simp [hquiet t, not_lt.2 ht]
  · generalize hend : (first :: rest).getLast?.getD first + oneHourMs = rangeEnd
    have hrounds := Int.lt_ediv_add_one_mul_self (rangeEnd - first) oneMinute_pos
    have hnonneg : 0 ≤ (rangeEnd - first) / oneMinuteMs :=
      Int.ediv_nonneg (by omega) oneMinute_pos.le
    rw [Nat.cast_add, Int.toNat_of_nonneg hnonneg]
    exact hrounds.le

theorem minutes_ne_native {request request' : KlineRequest} :
    AuditEffect.getKlines "1m" request ≠ .getKlines "1h" request' := by
  intro h
  exact absurd (AuditEffect.getKlines.inj h).1 (by decide)

/-- While the minutes are fetched no cross-check is made. -/
theorem nativePage_of_pages {pages : List AuditEvent} (seconds : ℚ)
    (hpages : ∀ e ∈ pages, e.effect = .now ∨ ∃ request, e.effect = .getKlines "1m" request)
    (hour : ℤ) : nativePage ([⟨.now, seconds⟩] ++ pages) hour = none := by
  apply nativePage_of_other
  intro e he heq
  rcases List.mem_append.1 he with he | he
  · cases List.mem_singleton.1 he
    cases heq
  · rcases hpages e he with hnow | ⟨request, hpage⟩
    · cases hnow.symm.trans heq
    · exact minutes_ne_native (hpage.symm.trans heq)

/-- While the hours are classified no minutes are asked for. -/
theorem ne_minutes_of_checks {checks : List AuditEvent} {hours : List ℤ} (seconds : ℚ)
    (hchecks : ∀ e ∈ checks, e.effect = .now ∨ ∃ hour ∈ hours,
      e.effect = .getKlines "1h" (nativeRequest hour)) :
    ∀ e ∈ checks ++ [⟨.now, seconds⟩], ∀ request, e.effect ≠ .getKlines "1m" request := by
  intro e he request heq
  rcases List.mem_append.1 he with he | he
  · rcases hchecks e he with hnow | ⟨hour, -, hnative⟩
    · cases hnow.symm.trans heq
    · exact minutes_ne_native (heq.symm.trans hnative)
  · cases List.mem_singleton.1 he
    cases heq

/-- What is asked for after the fetch does not change where it ended. -/
theorem FetchEnd.after {startMs endMs : ℤ} {fetched : FetchedRange} {events : List AuditEvent}
    (h : FetchEnd history startMs endMs fetched trace)
    (hother : ∀ e ∈ events, ∀ request, e.effect ≠ .getKlines "1m" request) :
    FetchEnd history startMs endMs fetched (trace ++ events) := by
  refine ⟨⟨h.paged.start, h.paged.rest, ?_, h.paged.origin⟩, h.inside, h.whole, h.stopped⟩
  intro t ht hend
  rw [confirmed_after_fetch hother]
  exact h.paged.confirmed t ht hend

/-- The point where the fetch of the gap's hours has ended, seen from the end of the run. -/
theorem FetchEnd.fetchedUpTo {first : ℤ} {rest : List ℤ} {fetched : FetchedRange}
    {events : List AuditEvent}
    (h : FetchEnd history first ((first :: rest).getLast?.getD first + oneHourMs) fetched trace)
    (hsorted : (first :: rest).Pairwise (· < ·))
    (hmem : ∀ hour ∈ missingHoursForGap gap, hour < researchCutoffMs → hour ∈ first :: rest)
    (hother : ∀ e ∈ events, ∀ request, e.effect ≠ .getKlines "1m" request) :
    FetchedUpTo history gap (trace ++ events) fetched.reachedUpToMs := by
  constructor
  case confirmed =>
    intro hour hin hlt t ht hhour
    rcases mem_between hsorted (hmem hour hin hlt) with ⟨hfirst, hlast⟩
    exact (h.after hother).paged.confirmed t (by omega) (by omega)
  case inside =>
    intro hour hin hlt hreached hcut
    rcases mem_between hsorted (hmem hour hin hlt) with ⟨hfirst, hlast⟩
    rcases h.paged.origin with hstart | hend | ⟨last, hcandle, heq⟩
    · omega
    · omega
    · rw [h.paged.candles_eq h.inside] at hcandle
      exact ⟨last, (mem_remaining.1 hcandle).1, heq⟩

/-- The outcomes of the hours below the cutoff and of the others, put together. -/
theorem analyzeOneGap_eq (evidence : ℤ → HourEvidence) :
    analyzeOneGap symbol evidence gap =
      ⟨gap, ((missingHoursForGap gap).filter fun h => h < researchCutoffMs).map
          (analyzeHour symbol evidence) ++
        ((missingHoursForGap gap).filter fun h => h ≥ researchCutoffMs).map
          fun hour => ⟨hour, .unresolved, 0, none⟩⟩ := by
  have hcutoff : ((missingHoursForGap gap).filter fun h => h ≥ researchCutoffMs).map
      (fun hour => (⟨hour, .unresolved, 0, none⟩ : MissingHourOutcome)) =
        ((missingHoursForGap gap).filter fun h => h ≥ researchCutoffMs).map
          (analyzeHour symbol evidence) := by
    apply List.map_congr_left
    intro hour hmem
    have hge : hour ≥ researchCutoffMs := by simpa using (List.mem_filter.1 hmem).2
    exact (if_pos (Or.inl hge)).symm
  rw [hcutoff, ← List.map_append, hours_below_append, analyzeOneGap]

/-- The parts of a run: the fetch of the hours below the cutoff, and their classification. -/
theorem analyzeGap_inv {result : Option GapForensicResult}
    (h : RecordsTo (analyzeGap symbol maxRetries maxSecondsPerGap gap) [] result trace) :
    ∃ start : ℚ, ∃ fetched middle,
      RecordsTo (fetchGapRange maxRetries (start + maxSecondsPerGap)
        ((missingHoursForGap gap).filter fun h => h < researchCutoffMs)) [⟨.now, start⟩] fetched
        middle ∧
      match fetched with
      | none => trace = middle
      | some fetched => ∃ outcomes last, ∃ elapsed : ℚ,
          RecordsTo (classifyHours symbol maxRetries (start + maxSecondsPerGap) fetched
            ((missingHoursForGap gap).filter fun h => h < researchCutoffMs)) middle outcomes last ∧
          trace = last ++ [⟨.now, elapsed⟩] ∧
          result = some ⟨gap, outcomes ++ ((missingHoursForGap gap).filter
            fun h => h ≥ researchCutoffMs).map fun hour => ⟨hour, .unresolved, 0, none⟩⟩ := by
  rcases recordsTo_bind.1 h with ⟨start, trace₀, hnow, hfetch⟩
  cases recordsTo_now.1 hnow
  rcases recordsTo_bind.1 hfetch with ⟨fetched, middle, hrange, hclassify⟩
  refine ⟨start, fetched, middle, hrange, ?_⟩
  cases fetched with
  | none => exact (recordsTo_pure.1 hclassify).2
  | some fetched =>
      rcases recordsTo_bind.1 hclassify with ⟨outcomes, last, houtcomes, hrest⟩
      rcases recordsTo_bind.1 hrest with ⟨elapsed, trace₃, hnow', hdone⟩
      cases recordsTo_now.1 hnow'
      rcases recordsTo_pure.1 hdone with ⟨rfl, rfl⟩
      exact ⟨outcomes, last, elapsed, houtcomes, rfl, rfl⟩

/-- The hours of a gap that are fetched. -/
theorem mem_fetchable {hour : ℤ} :
    hour ∈ (missingHoursForGap gap).filter (fun h => h < researchCutoffMs) ↔
      hour ∈ missingHoursForGap gap ∧ hour < researchCutoffMs := by
  simp

/-- An analysis that has hours to fetch: the pages, and the checks after them. -/
structure AnalysisParts (history : ExchangeHistory oneMinuteMs) (symbol : String) (maxRetries : ℕ)
    (deadline : ℚ) (first : ℤ) (rest : List ℤ) (start : ℚ) (pages checks : List AuditEvent)
    (fetched : FetchedRange) (outcomes : List MissingHourOutcome) : Prop where
  fetch : RecordsTo (fetchGapRange maxRetries deadline (first :: rest)) [⟨.now, start⟩]
    (some fetched) ([⟨.now, start⟩] ++ pages)
  classify : RecordsTo (classifyHours symbol maxRetries deadline fetched (first :: rest))
    ([⟨.now, start⟩] ++ pages) outcomes ([⟨.now, start⟩] ++ pages ++ checks)
  ended : FetchEnd history first ((first :: rest).getLast?.getD first + oneHourMs) fetched
    ([⟨.now, start⟩] ++ pages)
  quiet : ∀ e ∈ checks, e.effect = .now ∨ ∃ hour ∈ first :: rest,
    e.effect = .getKlines "1h" (nativeRequest hour)
  classified : outcomes = (first :: rest).map
    (fetchedOutcome symbol fetched ([⟨.now, start⟩] ++ pages ++ checks))

theorem analyzeGap_parts {first : ℤ} {rest : List ℤ} {result : Option GapForensicResult}
    (h : RecordsTo (analyzeGap symbol maxRetries maxSecondsPerGap gap) [] result trace)
    (hlists : ListsMinutes history trace)
    (hhours : (missingHoursForGap gap).filter (fun h => h < researchCutoffMs) = first :: rest) :
    ∃ start pages checks fetched outcomes, ∃ elapsed : ℚ,
      AnalysisParts history symbol maxRetries (start + maxSecondsPerGap) first rest start pages
        checks fetched outcomes ∧
      trace = [⟨.now, start⟩] ++ pages ++ checks ++ [⟨.now, elapsed⟩] ∧
      result = some ⟨gap, outcomes ++ ((missingHoursForGap gap).filter
        fun h => h ≥ researchCutoffMs).map fun hour => ⟨hour, .unresolved, 0, none⟩⟩ := by
  rcases analyzeGap_inv h with ⟨start, fetched, middle, hrange, hrest⟩
  rw [hhours] at hrange hrest
  have hsorted : (first :: rest).Pairwise (· < ·) := hhours ▸ (missingHours_lt gap).filter _
  have huses : (fetchGapRange maxRetries (start + maxSecondsPerGap) (first :: rest)).Uses
      fun effect => effect = .now ∨ ∃ request, effect = .getKlines "1m" request :=
    uses_fetch1mRange
  rcases RecordsTo.uses huses hrange with ⟨pages, rfl, hpages⟩
  have hfresh := nativePage_of_pages start hpages
  have hlists₁ : ListsMinutes history ([⟨.now, start⟩] ++ pages) := by
    cases fetched with
    | none => exact hrest ▸ hlists
    | some fetched =>
        rcases hrest with ⟨outcomes, last, elapsed, houtcomes, rfl, -⟩
        rcases RecordsTo.appends houtcomes with ⟨events, rfl⟩
        exact hlists.of_append.of_append
  rcases fetchGapRange_spec hrange hsorted hlists₁ (fun _ => not_confirmed_now) with
    ⟨fetched, rfl, hend⟩
  rcases hrest with ⟨outcomes, last, elapsed, houtcomes, rfl, rfl⟩
  rcases classifyHours_spec houtcomes (hsorted.imp fun hlt => hlt.ne) (fun hour _ => hfresh hour)
    with ⟨checks, rfl, hchecks, hclassified⟩
  exact ⟨start, pages, checks, fetched, outcomes, elapsed,
    ⟨hrange, houtcomes, hend, hchecks, hclassified⟩, rfl, rfl⟩

/-- A run of the analysis of a gap ends, and is `analyzeOneGap` with what was fetched up to a
point. -/
theorem analyzeGap_spec {result : Option GapForensicResult}
    (h : RecordsTo (analyzeGap symbol maxRetries maxSecondsPerGap gap) [] result trace)
    (hlists : ListsMinutes history trace) :
    ∃ reachedUpToMs, FetchedUpTo history gap trace reachedUpToMs ∧
      result = some (analyzeOneGap symbol (evidenceUpTo history reachedUpToMs trace) gap) := by
  cases hhours : (missingHoursForGap gap).filter (fun h => h < researchCutoffMs) with
  | nil =>
      -- nothing is fetched
      rcases analyzeGap_inv h with ⟨start, fetched, middle, hrange, hrest⟩
      rw [hhours] at hrange hrest
      have hnone : ∀ hour ∈ missingHoursForGap gap, ¬hour < researchCutoffMs := by
        intro hour hin hlt
        have hmem := mem_fetchable.2 ⟨hin, hlt⟩
        rw [hhours] at hmem
        cases hmem
      rcases recordsTo_pure.1 hrange with ⟨rfl, rfl⟩
      rcases hrest with ⟨outcomes, last, elapsed, houtcomes, -, rfl⟩
      rcases recordsTo_pure.1 houtcomes with ⟨rfl, -⟩
      refine ⟨0, ⟨?_, ?_⟩, by rw [analyzeOneGap_eq, hhours]; rfl⟩
      · intro hour hin hlt
        exact absurd hlt (hnone hour hin)
      · intro hour hin hlt
        exact absurd hlt (hnone hour hin)
  | cons first rest =>
      rcases analyzeGap_parts h hlists hhours with
        ⟨start, pages, checks, fetched, outcomes, elapsed, hparts, rfl, rfl⟩
      have hsorted : (first :: rest).Pairwise (· < ·) := hhours ▸ (missingHours_lt gap).filter _
      have hmem : ∀ hour ∈ missingHoursForGap gap, hour < researchCutoffMs → hour ∈ first :: rest :=
        fun hour hin hlt => hhours ▸ mem_fetchable.2 ⟨hin, hlt⟩
      have hother := ne_minutes_of_checks elapsed hparts.quiet
      refine ⟨fetched.reachedUpToMs, ?_, ?_⟩
      · have hupTo := hparts.ended.fetchedUpTo hsorted hmem hother
        rwa [← List.append_assoc] at hupTo
      · have hsame : outcomes = (first :: rest).map (analyzeHour symbol
            (evidenceUpTo history fetched.reachedUpToMs
              ([⟨.now, start⟩] ++ pages ++ checks ++ [⟨.now, elapsed⟩]))) := by
          rw [hparts.classified]
          apply List.map_congr_left
          intro hour hin
          rcases mem_between hsorted hin with ⟨hfirst, hlast⟩
          have hafter := hparts.ended.after fun e he => hother e (List.mem_append_left _ he)
          apply fetchedOutcome_eq hafter hfirst
          · exact lt_of_le_of_lt hlast (lt_add_of_pos_right _ oneHour_pos)
          · exact (mem_fetchable.1 (hhours ▸ hin)).2
          · rw [nativePage_append, nativePage_now]
            simp
        rw [analyzeOneGap_eq, hhours, hsame]

end Gap

/-! ## What the outcomes rest on -/

/-- The times of an hour. -/
def InHour (hour timeMs : ℤ) : Prop :=
  hour ≤ timeMs ∧ timeMs < hour + oneHourMs

/-- The exchange has told everything about the hour. -/
def HourConfirmed (trace : List AuditEvent) (hour : ℤ) : Prop :=
  ∀ t, InHour hour t → Confirmed trace t

/-- Fetching has stopped inside the hour. -/
def CutShort (trace : List AuditEvent) (hour : ℤ) : Prop :=
  (∃ t, InHour hour t ∧ Confirmed trace t) ∧ ∃ t, InHour hour t ∧ ¬Confirmed trace t

/-- The minute candles an exchange has of an hour, up to a point. -/
def minutesBefore (history : ExchangeHistory oneMinuteMs) (hour stopMs : ℤ) : List Candle :=
  history.candles.filter fun c =>
    hour ≤ c.openTimeMs ∧ c.openTimeMs < hour + oneHourMs ∧ c.openTimeMs < stopMs

/-- The minute candles an exchange has of an hour. -/
def minutesOf (history : ExchangeHistory oneMinuteMs) (hour : ℤ) : List Candle :=
  minutesBefore history hour (hour + oneHourMs)

/-- An hour that is cut short is classified from its minutes before the stop. -/
structure ClassifiedBefore (history : ExchangeHistory oneMinuteMs) (trace : List AuditEvent)
    (outcome : MissingHourOutcome) (stopMs : ℤ) : Prop where
  inside : outcome.openTimeMs < stopMs ∧ stopMs < outcome.openTimeMs + oneHourMs
  confirmed : ∀ t, InHour outcome.openTimeMs t → (Confirmed trace t ↔ t < stopMs)
  found : outcome.foundMinuteCandleCount =
    (minutesBefore history outcome.openTimeMs stopMs).length
  classified : outcome.outcome =
    if outcome.foundMinuteCandleCount = 0 then .genuineNoData else .partiallyRecoverable
  onMinutes : (∀ c ∈ history.candles, oneMinuteMs ∣ c.openTimeMs) →
    oneMinuteMs ∣ outcome.openTimeMs → outcome.outcome = .partiallyRecoverable

/-- An outcome is settled by everything the exchange has of its hour, unless the hour is cut short;
an hour nothing is known of is unresolved. -/
structure ClassifiedSoundly (history : ExchangeHistory oneMinuteMs) (trace : List AuditEvent)
    (outcome : MissingHourOutcome) : Prop where
  settled : outcome.outcome ≠ .unresolved → ¬CutShort trace outcome.openTimeMs →
    HourConfirmed trace outcome.openTimeMs ∧
      outcome.foundMinuteCandleCount = (minutesOf history outcome.openTimeMs).length
  unknown : ¬HourConfirmed trace outcome.openTimeMs → ¬CutShort trace outcome.openTimeMs →
    outcome.outcome = .unresolved
  cut : outcome.openTimeMs < researchCutoffMs → CutShort trace outcome.openTimeMs →
    ∃ stopMs, ClassifiedBefore history trace outcome stopMs

section Outcomes

variable {history : ExchangeHistory oneMinuteMs} {symbol : String} {gap : GapRecord}
variable {trace : List AuditEvent} {hour reachedUpToMs : ℤ}

/-- An hour of less than sixty minutes. -/
theorem classifyHour_of_lt {minuteCandles : List Candle} {native : Option Candle}
    (h : minuteCandles.length < minutesPerHour) :
    classifyHour symbol hour minuteCandles native =
      ⟨hour, if minuteCandles.length = 0 then .genuineNoData else .partiallyRecoverable,
        minuteCandles.length, none⟩ := by
  cases minuteCandles with
  | nil => rfl
  | cons first others =>
      have hpartial : isContinuous60Minutes (first :: others) hour = false :=
        decide_eq_false fun hall => h.ne hall.1
      rw [if_neg (by simp : ¬(first :: others).length = 0)]
      simp only [classifyHour, hpartial, if_true, if_pos h]

/-- Every candle of the hour is counted, however it is classified. -/
theorem classifyHour_found {minuteCandles : List Candle} {native : Option Candle} :
    (classifyHour symbol hour minuteCandles native).openTimeMs = hour ∧
      (classifyHour symbol hour minuteCandles native).foundMinuteCandleCount =
        minuteCandles.length := by
  cases minuteCandles with
  | nil => exact ⟨rfl, rfl⟩
  | cons first others =>
      simp only [classifyHour]
      split_ifs <;> exact ⟨rfl, rfl⟩

theorem analyzeHour_openTime (evidence : ℤ → HourEvidence) :
    (analyzeHour symbol evidence hour).openTimeMs = hour := by
  simp only [analyzeHour]
  split
  · rfl
  · exact classifyHour_found.1

/-- Times at least a step apart, in a range. -/
theorem length_mul_le_of_apart {step a b : ℤ} {times : List ℤ}
    (hapart : times.Pairwise fun x y => x + step ≤ y) (hin : ∀ x ∈ times, a ≤ x ∧ x ≤ b)
    (hab : a ≤ b + step) : times.length * step ≤ b - a + step := by
  induction times generalizing a with
  | nil =>
      simp only [List.length_nil, Nat.cast_zero, zero_mul]
      omega
  | cons x rest ih =>
      rcases List.pairwise_cons.1 hapart with ⟨hfirst, hrest⟩
      have hx := hin x List.mem_cons_self
      have hlater := ih hrest (a := x + step)
        (fun y hy => ⟨hfirst y hy, (hin y (List.mem_cons_of_mem _ hy)).2⟩) (by omega)
      rw [List.length_cons, Nat.cast_add, Nat.cast_one, add_mul, one_mul]
      omega

/-- Before a stop behind a candle inside the hour there are less than sixty minutes. -/
theorem minutesBefore_lt {last : Candle} (hlast : last ∈ history.candles)
    (hstart : hour < last.openTimeMs + oneMinuteMs)
    (hend : last.openTimeMs + oneMinuteMs < hour + oneHourMs) :
    (minutesBefore history hour (last.openTimeMs + oneMinuteMs)).length < minutesPerHour := by
  have hapart : ((minutesBefore history hour (last.openTimeMs + oneMinuteMs)).map
      Candle.openTimeMs).Pairwise fun x y => x + oneMinuteMs ≤ y := by
    apply List.pairwise_map.2
    apply (history.ordered.filter _).imp_of_mem
    intro a b ha hb hlt
    exact history.step_le (List.mem_filter.1 ha).1 (List.mem_filter.1 hb).1 hlt
  have hin : ∀ x ∈ (minutesBefore history hour (last.openTimeMs + oneMinuteMs)).map
      Candle.openTimeMs, hour ≤ x ∧ x ≤ last.openTimeMs := by
    intro x hx
    rcases List.mem_map.1 hx with ⟨c, hc, rfl⟩
    rcases List.mem_filter.1 hc with ⟨hcandle, hrange⟩
    simp only [decide_eq_true_eq] at hrange
    refine ⟨hrange.1, not_lt.1 fun hlt => ?_⟩
    -- the next candle opens behind the stop
    have hstep := history.step_le hlast hcandle hlt
    omega
  have hlength := length_mul_le_of_apart hapart hin hstart.le
  rw [List.length_map] at hlength
  simp only [oneMinuteMs, oneHourMs, minutesPerHour] at *
  omega

/-- An hour at the cutoff, or one that fetching has not reached. -/
theorem FetchedUpTo.classified_unreached (h : FetchedUpTo history gap trace reachedUpToMs)
    (hmem : hour ∈ missingHoursForGap gap)
    (hunreached : hour ≥ researchCutoffMs ∨ ¬hour < reachedUpToMs) :
    ClassifiedSoundly history trace
      (analyzeHour symbol (evidenceUpTo history reachedUpToMs trace) hour) := by
  have houtcome : analyzeHour symbol (evidenceUpTo history reachedUpToMs trace) hour =
      ⟨hour, .unresolved, 0, none⟩ := by
    apply if_pos
    exact hunreached.imp_right fun hnot => decide_eq_false hnot
  rw [houtcome]
  constructor
  case settled => exact fun hne => absurd rfl hne
  case unknown => exact fun _ _ => rfl
  case cut =>
    rintro hcutoff ⟨⟨t, ht, hconfirmed⟩, -⟩
    have hnot := hunreached.resolve_left (not_le.2 hcutoff)
    have hlt := (h.confirmed hour hmem hcutoff t ht.1 ht.2).1 hconfirmed
    exact absurd (ht.1.trans_lt hlt) hnot

/-- An hour before the point reached: every time of it is confirmed, and every minute counted. -/
theorem FetchedUpTo.classified_whole (h : FetchedUpTo history gap trace reachedUpToMs)
    (hmem : hour ∈ missingHoursForGap gap) (hcutoff : hour < researchCutoffMs)
    (hwhole : hour + oneHourMs ≤ reachedUpToMs) :
    ClassifiedSoundly history trace (classifyHour symbol hour
      (minutesBefore history hour reachedUpToMs) (nativeIn trace hour)) := by
  have hconfirmed : HourConfirmed trace hour := fun t ht =>
    (h.confirmed hour hmem hcutoff t ht.1 ht.2).2 (ht.2.trans_le hwhole)
  have hminutes : minutesBefore history hour reachedUpToMs = minutesOf history hour := by
    apply List.filter_congr
    intro c _
    apply decide_eq_decide.2
    omega
  have hnotcut : ¬CutShort trace hour := fun hcut => by
    rcases hcut.2 with ⟨t, ht, hnot⟩
    exact hnot (hconfirmed t ht)
  have hfound : (classifyHour symbol hour (minutesBefore history hour reachedUpToMs)
      (nativeIn trace hour)).openTimeMs = hour ∧ _ := classifyHour_found
  constructor
  case settled =>
    intro _ _
    rw [hfound.1, hfound.2, hminutes]
    exact ⟨hconfirmed, rfl⟩
  case unknown =>
    intro hnot
    rw [hfound.1] at hnot
    exact absurd hconfirmed hnot
  case cut =>
    intro _ hcut
    rw [hfound.1] at hcut
    exact absurd hcut hnotcut

/-- The hour in which fetching has stopped: it is classified by its minutes before the stop. -/
theorem FetchedUpTo.classified_cut (h : FetchedUpTo history gap trace reachedUpToMs)
    (hmem : hour ∈ missingHoursForGap gap) (hcutoff : hour < researchCutoffMs)
    (hreached : hour < reachedUpToMs) (hinside : reachedUpToMs < hour + oneHourMs) :
    ClassifiedSoundly history trace (classifyHour symbol hour
      (minutesBefore history hour reachedUpToMs) (nativeIn trace hour)) := by
  have hour_pos := oneHour_pos
  have hknown := h.confirmed hour hmem hcutoff
  have hcut : CutShort trace hour :=
    ⟨⟨hour, ⟨le_rfl, by omega⟩, (hknown hour le_rfl (by omega)).2 hreached⟩,
      reachedUpToMs, ⟨hreached.le, hinside⟩, fun hnot =>
        absurd ((hknown _ hreached.le hinside).1 hnot) (lt_irrefl _)⟩
  rcases h.inside hour hmem hcutoff hreached hinside with ⟨last, hlast, rfl⟩
  rw [classifyHour_of_lt (minutesBefore_lt hlast hreached hinside)]
  constructor
  case settled => exact fun _ hnot => absurd hcut hnot
  case unknown => exact fun _ hnot => absurd hcut hnot
  case cut =>
    intro _ _
    refine ⟨last.openTimeMs + oneMinuteMs, ⟨hreached, hinside⟩, fun t ht => hknown t ht.1 ht.2, rfl,
      rfl, ?_⟩
    intro haligned hhour
    -- on whole minutes the candle before the stop lies in the hour
    have hin : last ∈ minutesBefore history hour (last.openTimeMs + oneMinuteMs) := by
      have hle : hour ≤ last.openTimeMs := by
        rcases haligned last hlast with ⟨i, hi⟩
        rcases hhour with ⟨j, hj⟩
        simp only [oneMinuteMs] at *
        omega
      have hpos := oneMinute_pos
      apply List.mem_filter.2
      refine ⟨hlast, decide_eq_true ⟨hle, ?_, ?_⟩⟩ <;> omega
    exact if_neg (List.length_pos_of_mem hin).ne'

/-- An hour of the gap with the point where fetching has ended. -/
theorem FetchedUpTo.classified (h : FetchedUpTo history gap trace reachedUpToMs)
    (hmem : hour ∈ missingHoursForGap gap) :
    ClassifiedSoundly history trace
      (analyzeHour symbol (evidenceUpTo history reachedUpToMs trace) hour) := by
  by_cases hunreached : hour ≥ researchCutoffMs ∨ ¬hour < reachedUpToMs
  · exact h.classified_unreached hmem hunreached
  rw [not_or, not_le, not_not] at hunreached
  rcases hunreached with ⟨hcutoff, hreached⟩
  have houtcome : analyzeHour symbol (evidenceUpTo history reachedUpToMs trace) hour =
      classifyHour symbol hour (minutesBefore history hour reachedUpToMs) (nativeIn trace hour) := by
    apply if_neg
    simp [evidenceUpTo, hcutoff, hreached]
  rw [houtcome]
  by_cases hwhole : hour + oneHourMs ≤ reachedUpToMs
  · exact h.classified_whole hmem hcutoff hwhole
  · exact h.classified_cut hmem hcutoff hreached (not_le.1 hwhole)

/-- Fetching stops inside one hour at most. -/
theorem FetchedUpTo.cut_unique (h : FetchedUpTo history gap trace reachedUpToMs) {hour' : ℤ}
    (hmem : hour ∈ missingHoursForGap gap) (hmem' : hour' ∈ missingHoursForGap gap)
    (hcutoff : hour < researchCutoffMs) (hcutoff' : hour' < researchCutoffMs)
    (hcut : CutShort trace hour) (hcut' : CutShort trace hour') : hour = hour' := by
  have hinside : ∀ x ∈ missingHoursForGap gap, x < researchCutoffMs → CutShort trace x →
      x < reachedUpToMs ∧ reachedUpToMs < x + oneHourMs := by
    rintro x hx hlt ⟨⟨t, ht, hconfirmed⟩, u, hu, hnot⟩
    have hbefore := (h.confirmed x hx hlt t ht.1 ht.2).1 hconfirmed
    have hafter := mt (h.confirmed x hx hlt u hu.1 hu.2).2 hnot
    exact ⟨ht.1.trans_lt hbefore, (not_lt.1 hafter).trans_lt hu.2⟩
  have hone := hinside hour hmem hcutoff hcut
  have htwo := hinside hour' hmem' hcutoff' hcut'
  rw [missingHoursForGap_eq] at hmem hmem'
  rcases List.mem_map.1 hmem with ⟨i, -, rfl⟩
  rcases List.mem_map.1 hmem' with ⟨j, -, rfl⟩
  simp only [oneHourMs] at *
  omega

end Outcomes

/-- **What the outcomes of a gap rest on.**  Whatever requests fail and however time passes, an
analysis ends, and an hour that is not unresolved was confirmed from its first to its last minute and
counts every candle of it; an hour nothing is known of is unresolved.  One hour at most is cut short,
and classified from its minutes before the stop. -/
theorem gap_hours_classified (history : ExchangeHistory oneMinuteMs) (symbol : String)
    (maxRetries : ℕ) (maxSecondsPerGap : ℚ) (gap : GapRecord) (trace : List AuditEvent)
    (result : Option GapForensicResult) (hlists : ListsMinutes history trace)
    (hrun : RecordsTo (analyzeGap symbol maxRetries maxSecondsPerGap gap) [] result trace) :
    ∃ r, result = some r ∧ r.gap = gap ∧
      r.missingHours.map MissingHourOutcome.openTimeMs = missingHoursForGap gap ∧
      (∀ outcome ∈ r.missingHours, ClassifiedSoundly history trace outcome) ∧
      ∀ hour ∈ missingHoursForGap gap, ∀ hour' ∈ missingHoursForGap gap,
        hour < researchCutoffMs → hour' < researchCutoffMs →
        CutShort trace hour → CutShort trace hour' → hour = hour' := by
  rcases analyzeGap_spec hrun hlists with ⟨reachedUpToMs, hupTo, rfl⟩
  refine ⟨_, rfl, rfl, ?_, ?_, ?_⟩
  · rw [analyzeOneGap, List.map_map]
    exact (List.map_congr_left fun hour _ => analyzeHour_openTime _).trans (List.map_id _)
  · intro outcome hmem
    rcases List.mem_map.1 hmem with ⟨hour, hhour, rfl⟩
    exact hupTo.classified hhour
  · intro hour hmem hour' hmem' hcutoff hcutoff' hcut hcut'
    exact hupTo.cut_unique hmem hmem' hcutoff hcutoff' hcut hcut'

/-! ## A page of a thousand minutes, and no time for the next one -/

namespace TwentyHours

def minuteCandle (i : ℕ) : Candle where
  symbol := "BTCUSDT"
  interval := "1m"
  openTimeMs := i * oneMinuteMs
  closeTimeMs := i * oneMinuteMs + oneMinuteMs - 1
  «open» := 100
  high := 100
  low := 100
  close := 100
  volume := 1

/-- An exchange that has every minute of twenty hours. -/
def history : ExchangeHistory oneMinuteMs where
  candles := (List.range 1200).map minuteCandle
  ordered := by
    apply List.pairwise_map.2
    apply List.pairwise_lt_range.imp
    intro i j hij
    exact mul_lt_mul_of_pos_right (by exact_mod_cast hij) oneMinute_pos
  aligned := by
    intro a ha b hb
    rcases List.mem_map.1 ha with ⟨i, -, rfl⟩
    rcases List.mem_map.1 hb with ⟨j, -, rfl⟩
    exact Int.dvd_sub (Int.dvd_mul_left _ _) (Int.dvd_mul_left _ _)
  closes := by
    intro c hc
    rcases List.mem_map.1 hc with ⟨i, -, rfl⟩
    rfl

def gap : GapRecord := ⟨0, -3600000, 72000000, 20⟩

/-- The first page, which is full. -/
def page : List Candle := (history.remaining 72000000 0).take klinePageLimit

theorem page_last : page.getLast? = some (minuteCandle 999) := by decide +kernel

theorem page_length : page.length = 1000 := by decide +kernel

/-- The events up to the stop: one page is answered in time, then the budget is used up. -/
def fetchEvents : List AuditEvent :=
  [⟨.now, (0 : ℚ)⟩, ⟨.now, (0 : ℚ)⟩, .minutes (pageRequest 0 72000000 klinePageLimit) page,
    ⟨.now, (1 : ℚ)⟩]

/-- The fetch of the gap ends behind the last candle of the page. -/
theorem fetch_run : RecordsTo (fetch1mRange 72000000 1 (0 + 1) 1202 0 []) [⟨.now, (0 : ℚ)⟩]
    (some ⟨page, 60000000, some .gapTimeBudgetExceeded⟩) fetchEvents := by
  have hask : RecordsTo (fetchKlinesWithBoundedRetries "1m" 0 72000000 klinePageLimit 1)
      [⟨.now, (0 : ℚ)⟩, ⟨.now, (0 : ℚ)⟩] (some page)
      [⟨.now, (0 : ℚ)⟩, ⟨.now, (0 : ℚ)⟩, .minutes (pageRequest 0 72000000 klinePageLimit) page] := by
    refine recordsTo_bind.2 ⟨.ok page, _, recordsTo_getKlines.2 rfl, ?_⟩
    apply recordsTo_pure.2
    refine ⟨congrArg some ?_, rfl⟩
    have hbelow : belowExclusiveEnd page (some 72000000) = page := by
      have hanswer : history.answer (pageRequest 0 72000000 klinePageLimit) = page :=
        answer_pageRequest 0
      have hkept : belowExclusiveEnd (history.answer (pageRequest 0 72000000 klinePageLimit))
          (some 72000000) = page := belowExclusiveEnd_answer 0
      rwa [hanswer] at hkept
    exact hbelow.symm
  have hstop : (minuteCandle 999).openTimeMs + oneMinuteMs = 60000000 := by decide
  rw [fetch1mRange, if_pos (by decide)]
  refine recordsTo_bind.2 ⟨0, _, recordsTo_now.2 rfl, ?_⟩
  rw [if_neg (by norm_num)]
  refine recordsTo_bind.2 ⟨some page, _, hask, ?_⟩
  simp only [page_last, page_length, hstop, List.nil_append]
  rw [if_neg (by decide), fetch1mRange, if_pos (by decide)]
  refine recordsTo_bind.2 ⟨1, _, recordsTo_now.2 rfl, ?_⟩
  rw [if_pos (by norm_num)]
  refine recordsTo_pure.2 ⟨rfl, ?_⟩
  simp [fetchEvents]

theorem range_run : RecordsTo (fetchGapRange 1 (0 + 1)
    ((missingHoursForGap gap).filter fun h => h < researchCutoffMs)) [⟨.now, (0 : ℚ)⟩]
    (some ⟨page, 60000000, some .gapTimeBudgetExceeded⟩) fetchEvents := by
  have hfetchable : (missingHoursForGap gap).filter (fun h => h < researchCutoffMs) =
      0 :: (missingHoursForGap gap).tail := by
    decide +kernel
  have hend : (0 :: (missingHoursForGap gap).tail).getLast?.getD 0 + oneHourMs = 72000000 := by
    decide +kernel
  have hrounds : pageRounds 0 72000000 = 1202 := by decide
  rw [hfetchable]
  simp only [fetchGapRange, hend, hrounds]
  exact fetch_run

theorem confirmed_fetchEvents {events : List AuditEvent}
    (hquiet : ∀ request page, .minutes request page ∉ events) (t : ℤ) :
    Confirmed (fetchEvents ++ events) t ↔
      Confirms (pageRequest 0 72000000 klinePageLimit) page t := by
  have hfetch : fetchEvents = [⟨.now, (0 : ℚ)⟩] ++ ([⟨.now, (0 : ℚ)⟩] ++
      ([.minutes (pageRequest 0 72000000 klinePageLimit) page] ++ [⟨.now, (1 : ℚ)⟩])) := rfl
  rw [hfetch]
  simp only [confirmed_append, not_confirmed_now, confirmed_minutes,
    not_confirmed_of_other hquiet, false_or, or_false]

/-- A run of the analysis that is stopped after the page. -/
theorem exists_run : ∃ result trace, RecordsTo (analyzeGap "BTCUSDT" 1 1 gap) [] result trace ∧
    ListsMinutes history trace ∧
    ∀ t, Confirmed trace t ↔ Confirms (pageRequest 0 72000000 klinePageLimit) page t := by
  have hlater := exists_failing_run (α := Option GapForensicResult) (do
    let outcomes ← classifyHours "BTCUSDT" 1 (0 + 1)
      ⟨page, 60000000, some .gapTimeBudgetExceeded⟩
      ((missingHoursForGap gap).filter fun h => h < researchCutoffMs)
    let _elapsed ← now
    pure (some ⟨gap, outcomes ++ ((missingHoursForGap gap).filter
      fun h => h ≥ researchCutoffMs).map fun hour => ⟨hour, .unresolved, 0, none⟩⟩)) fetchEvents
  rcases hlater with ⟨result, events, hrest, hunanswered⟩
  have hquiet : ∀ request page, .minutes request page ∉ events := hunanswered "1m"
  refine ⟨result, fetchEvents ++ events, ?_, ?_, confirmed_fetchEvents hquiet⟩
  · exact recordsTo_bind.2 ⟨0, _, recordsTo_now.2 rfl,
      recordsTo_bind.2 ⟨some ⟨page, 60000000, some .gapTimeBudgetExceeded⟩, _, range_run, hrest⟩⟩
  · intro request answer hmem
    rcases List.mem_append.1 hmem with hmem | hmem
    · have hpage : AuditEvent.minutes request answer =
          .minutes (pageRequest 0 72000000 klinePageLimit) page := by
        rcases List.mem_cons.1 hmem with heq | hmem
        · cases heq
        rcases List.mem_cons.1 hmem with heq | hmem
        · cases heq
        rcases List.mem_cons.1 hmem with heq | hmem
        · exact heq
        · cases List.mem_singleton.1 hmem
      rcases AuditEvent.minutes_inj hpage with ⟨rfl, hanswer⟩
      exact hanswer.trans (answer_pageRequest 0).symm
    · exact absurd hmem (hquiet request answer)

theorem confirms_page (t : ℤ) :
    Confirms (pageRequest 0 72000000 klinePageLimit) page t ↔ 0 ≤ t ∧ t < 60000000 := by
  have hstop : (minuteCandle 999).openTimeMs + oneMinuteMs = 60000000 := by decide
  rw [confirms_pageRequest, page_length, if_neg (by decide), page_last]
  simp [hstop]

/-- The seventeenth hour is cut short. -/
theorem cutShort {trace : List AuditEvent}
    (h : ∀ t, Confirmed trace t ↔ Confirms (pageRequest 0 72000000 klinePageLimit) page t) :
    CutShort trace 57600000 := by
  simp only [CutShort, InHour, h, confirms_page, oneHourMs]
  exact ⟨⟨57600000, by norm_num⟩, 60000000, by norm_num⟩

end TwentyHours

theorem gap_hours_classified_twenty_hours :
    ∃ trace r, RecordsTo (analyzeGap "BTCUSDT" 1 1 TwentyHours.gap) [] (some r) trace ∧
      ∃ outcome ∈ r.missingHours, outcome.openTimeMs = 57600000 ∧
        ∃ stopMs, ClassifiedBefore TwentyHours.history trace outcome stopMs := by
  rcases TwentyHours.exists_run with ⟨result, trace, hrun, hlists, hconfirmed⟩
  rcases gap_hours_classified TwentyHours.history "BTCUSDT" 1 1 TwentyHours.gap trace result hlists
    hrun with ⟨r, rfl, -, htimes, hsound, -⟩
  have hmem : (57600000 : ℤ) ∈ r.missingHours.map MissingHourOutcome.openTimeMs := by
    rw [htimes]
    decide +kernel
  rcases List.mem_map.1 hmem with ⟨outcome, houtcome, htime⟩
  refine ⟨trace, r, hrun, outcome, houtcome, htime, (hsound outcome houtcome).cut ?_ ?_⟩
  · rw [htime]
    decide
  · rw [htime]
    exact TwentyHours.cutShort hconfirmed

/-- The exchange has all sixty minutes of the seventeenth hour; forty were fetched before the budget
was used up, and the hour is reported as partially recoverable. -/
theorem cut_hour_is_partial :
    ∃ trace r, RecordsTo (analyzeGap "BTCUSDT" 1 1 TwentyHours.gap) [] (some r) trace ∧
      ListsMinutes TwentyHours.history trace ∧
      ∃ outcome ∈ r.missingHours, outcome.outcome = .partiallyRecoverable ∧
        ¬HourConfirmed trace outcome.openTimeMs ∧ outcome.foundMinuteCandleCount = 40 ∧
        (minutesOf TwentyHours.history outcome.openTimeMs).length = 60 := by
  rcases TwentyHours.exists_run with ⟨result, trace, hrun, hlists, hconfirmed⟩
  rcases analyzeGap_spec hrun hlists with ⟨reachedUpToMs, hupTo, rfl⟩
  have hmem : (57600000 : ℤ) ∈ missingHoursForGap TwentyHours.gap := by decide +kernel
  have hcut := TwentyHours.cutShort hconfirmed
  have hsound : ClassifiedSoundly TwentyHours.history trace (analyzeHour "BTCUSDT"
      (evidenceUpTo TwentyHours.history reachedUpToMs trace) 57600000) := hupTo.classified hmem
  have htime : (analyzeHour "BTCUSDT" (evidenceUpTo TwentyHours.history reachedUpToMs trace)
      57600000).openTimeMs = 57600000 := analyzeHour_openTime _
  have hin := List.mem_map_of_mem (f := analyzeHour "BTCUSDT"
    (evidenceUpTo TwentyHours.history reachedUpToMs trace)) hmem
  generalize analyzeHour "BTCUSDT" (evidenceUpTo TwentyHours.history reachedUpToMs trace)
    57600000 = outcome at hsound htime hin
  rcases hsound.cut (by rw [htime]; decide) (by rw [htime]; exact hcut) with ⟨stopMs, hbefore⟩
  -- the stop lies behind the last minute of the page
  have hstop : stopMs = 60000000 := by
    have hknown := hbefore.confirmed
    simp only [htime, InHour, hconfirmed, TwentyHours.confirms_page, oneHourMs] at hknown
    have hlast := (hknown 59999999 (by norm_num)).1 (by norm_num)
    have hnext := mt (hknown 60000000 (by norm_num)).2 (by norm_num)
    omega
  subst hstop
  have hfound : outcome.foundMinuteCandleCount = 40 := by
    rw [hbefore.found, htime]
    decide +kernel
  refine ⟨trace, _, hrun, hlists, outcome, hin, ?_, ?_, hfound, ?_⟩
  · rw [hbefore.classified, hfound]
    rfl
  · intro hwhole
    rw [htime] at hwhole
    rcases hcut.2 with ⟨t, ht, hnot⟩
    exact hnot (hwhole t ht)
  · rw [htime]
    decide +kernel

end TradingAgent
