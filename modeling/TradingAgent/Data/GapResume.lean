import TradingAgent.Data.GapConfirmed
import TradingAgent.Data.RecoveryApply

/-!
# Gap audit, resumed — what a checkpoint keeps of a run that was held up

`run_gap_forensics` with a checkpoint, gap by gap.  The loop reuses a recorded result and records
every result it computes, those of a gap whose fetch was stopped among them.

* `auditGapList` is the loop, and `AuditRun` its rounds, each with what it asked the exchange;
* `HourUnharmed`: what the exchange did not tell about an hour would not have changed its outcome;
* `resumed_audit_agrees_iff`: a healthy run after an earlier one finds what a healthy run without a
  checkpoint finds exactly where nothing was lost of the gaps it shares with the earlier one.
-/

namespace TradingAgent

open Effects

/-! ## The exchange -/

/-- What an exchange has: one-minute candles, and its own hourly ones. -/
structure AuditExchange where
  minutes : ExchangeHistory oneMinuteMs
  hours : ExchangeHistory oneHourMs

/-- Every successful request was answered in full. -/
structure Answers (x : AuditExchange) (trace : List AuditEvent) : Prop where
  minutes : ListsMinutes x.minutes trace
  hours : ∀ request page, .answered "1h" request page ∈ trace → page = x.hours.answer request

/-- No request failed, and the time budget was not used up. -/
structure Unhindered (maxSecondsPerGap : ℚ) (trace : List AuditEvent) : Prop where
  answered : ∀ interval request text, .failed interval request text ∉ trace
  inTime : ∀ start : ℚ, trace.head? = some ⟨.now, start⟩ →
    ∀ seconds : ℚ, ⟨.now, seconds⟩ ∈ trace → seconds < start + maxSecondsPerGap

/-- The exchange's own candle of an hour. -/
def AuditExchange.nativeOf (x : AuditExchange) (hour : ℤ) : Option Candle :=
  x.hours.candles.find? fun c => c.openTimeMs = hour

/-- The outcome the candles of the exchange call for. -/
def AuditExchange.outcomeOf (x : AuditExchange) (symbol : String) (hour : ℤ) : RecoveryOutcome :=
  if hour ≥ researchCutoffMs then .unresolved
  else (classifyHour symbol hour (minutesOf x.minutes hour) (x.nativeOf hour)).outcome

def AuditExchange.outcomesOf (x : AuditExchange) (symbol : String) (gap : GapRecord) :
    List (ℤ × RecoveryOutcome) :=
  (missingHoursForGap gap).map fun hour => (hour, x.outcomeOf symbol hour)

def GapForensicResult.outcomes (result : GapForensicResult) : List (ℤ × RecoveryOutcome) :=
  result.missingHours.map fun found => (found.openTimeMs, found.outcome)

section Native

variable {x : AuditExchange} {trace : List AuditEvent} {hour : ℤ}

theorem pageFor_eq_some {e : AuditEvent} {request : KlineRequest} {page : List Candle}
    (h : e.pageFor (.getKlines "1h" request) = some page) : e = .answered "1h" request page := by
  unfold AuditEvent.pageFor at h
  split at h
  · rename_i interval request' page'
    split at h
    · rename_i heq
      cases heq
      cases h
      rfl
    · cases h
  · cases h

/-- An hour that was cross-checked was shown the exchange's own candle. -/
theorem Answers.nativeIn_eq (h : Answers x trace) :
    nativeIn trace hour = if (nativePage trace hour).isSome then x.nativeOf hour else none := by
  cases hpage : nativePage trace hour with
  | none => simp [nativeIn, hpage]
  | some page =>
      rcases List.exists_of_findSome?_eq_some hpage with ⟨e, hmem, hanswer⟩
      have hevent := pageFor_eq_some hanswer
      have hfull := h.hours _ page (hevent ▸ hmem)
      have hkept : belowExclusiveEnd page (some (hour + oneHourMs)) =
          (x.hours.remaining (hour + oneHourMs) hour).take 1 := by
        rw [hfull]
        exact belowExclusiveEnd_answer hour
      rw [nativeIn, hpage, Option.bind_some, hkept, if_pos Option.isSome_some]
      -- the hour's own candle is the first one asked for
      cases hfind : x.nativeOf hour with
      | none =>
          apply List.find?_eq_none.2
          intro c hc
          have hcandle := (mem_remaining.1 (List.mem_of_mem_take hc)).1
          exact List.find?_eq_none.1 hfind c hcandle
      | some c =>
          have hopen : c.openTimeMs = hour := by simpa using List.find?_some hfind
          have hpos := oneHour_pos
          have hcandle : c ∈ x.hours.candles := by
            rw [AuditExchange.nativeOf] at hfind
            exact List.mem_of_find?_eq_some hfind
          have hleft : c ∈ x.hours.remaining (hour + oneHourMs) hour :=
            mem_remaining.2 ⟨hcandle, by omega, by omega⟩
          have hordered : Ordered (x.hours.remaining (hour + oneHourMs) hour) :=
            x.hours.ordered.filter _
          cases hlist : x.hours.remaining (hour + oneHourMs) hour with
          | nil => simp [hlist] at hleft
          | cons first rest =>
              have hfirst : first = c := by
                rw [hlist] at hleft hordered
                rcases List.mem_cons.1 hleft with heq | hrest
                · exact heq.symm
                · have hlt := (List.pairwise_cons.1 hordered).1 c hrest
                  have hge := (mem_remaining.1 (hlist ▸ List.mem_cons_self :
                    first ∈ x.hours.remaining (hour + oneHourMs) hour)).2.1
                  omega
              simp [hfirst, hopen]

end Native

/-! ## One hour -/

/-- Whether the exchange's own candle differs from the one the minutes make. -/
def contradicted (symbol : String) (hourOpenTimeMs : ℤ) (minuteCandles : List Candle)
    (native : Option Candle) : Bool :=
  match minuteCandles with
  | [] => false
  | first :: others =>
      native.any (differsFromNative (aggregateMinutes symbol hourOpenTimeMs first others))

/-- The hour has sixty minutes that make no hour, or one the exchange contradicts. -/
def AuditExchange.LeavesUnresolved (x : AuditExchange) (symbol : String) (hour : ℤ) : Prop :=
  minutesPerHour ≤ (minutesOf x.minutes hour).length ∧
    (isContinuous60Minutes (minutesOf x.minutes hour) hour = true →
      contradicted symbol hour (minutesOf x.minutes hour) (x.nativeOf hour) = true)

/-- What an audit was not told about an hour leaves its outcome as it is: an hour nothing was fetched
of stays unresolved anyway, one whose fetch was cut short is incomplete and did not only seem empty,
and a complete hour was checked where the exchange contradicts it. -/
structure HourUnharmed (x : AuditExchange) (symbol : String) (trace : List AuditEvent)
    (hour : ℤ) : Prop where
  unreached : (∀ t, InHour hour t → ¬Confirmed trace t) → x.LeavesUnresolved symbol hour
  cut : CutShort trace hour → (minutesOf x.minutes hour).length < minutesPerHour ∧
    (minutesOf x.minutes hour ≠ [] →
      ∃ c ∈ minutesOf x.minutes hour, Confirmed trace c.openTimeMs)
  unchecked : HourConfirmed trace hour →
    isContinuous60Minutes (minutesOf x.minutes hour) hour = true →
    contradicted symbol hour (minutesOf x.minutes hour) (x.nativeOf hour) = true →
    (nativePage trace hour).isSome

section Hour

variable {x : AuditExchange} {symbol : String} {gap : GapRecord} {trace : List AuditEvent}
variable {hour reachedUpToMs : ℤ} {minuteCandles : List Candle} {native : Option Candle}

theorem length_of_continuous (h : isContinuous60Minutes minuteCandles hour = true) :
    minuteCandles.length = minutesPerHour :=
  (of_decide_eq_true h).1

/-- An hour of sixty minutes or more. -/
theorem classifyHour_of_ge (h : minutesPerHour ≤ minuteCandles.length) :
    (classifyHour symbol hour minuteCandles native).outcome =
      if isContinuous60Minutes minuteCandles hour = true ∧
          contradicted symbol hour minuteCandles native = false then .fullyRecoverable
      else .unresolved := by
  cases minuteCandles with
  | nil => exact absurd h (by decide)
  | cons first others =>
      have hmany : ¬(first :: others).length < minutesPerHour := not_lt.2 h
      simp only [classifyHour]
      by_cases hcontinuous : isContinuous60Minutes (first :: others) hour = false
      · rw [if_pos hcontinuous, if_neg hmany, if_neg fun hwhole => ?_]
        simp [hcontinuous] at hwhole
      · have hwhole := Bool.eq_true_of_not_eq_false hcontinuous
        have hdiffers : contradicted symbol hour (first :: others) native =
          native.any (differsFromNative (aggregateMinutes symbol hour first others)) := rfl
        rw [if_neg hcontinuous, ← hdiffers]
        cases contradicted symbol hour (first :: others) native <;> simp [hwhole]

/-- What is left unresolved of the hours that were reached. -/
theorem classifyHour_unresolved :
    (classifyHour symbol hour minuteCandles native).outcome = .unresolved ↔
      minutesPerHour ≤ minuteCandles.length ∧
        (isContinuous60Minutes minuteCandles hour = true →
          contradicted symbol hour minuteCandles native = true) := by
  rcases lt_or_ge minuteCandles.length minutesPerHour with hlt | hge
  · rw [classifyHour_of_lt hlt]
    constructor
    · intro h
      split at h <;> cases h
    · exact fun h => absurd h.1 (not_le.2 hlt)
  · rw [classifyHour_of_ge hge]
    split
    · rename_i hfull
      simp [hfull.1, hfull.2]
    · rename_i hnot
      refine ⟨fun _ => ⟨hge, fun hcontinuous => ?_⟩, fun _ => rfl⟩
      exact Bool.eq_true_of_not_eq_false fun hagrees => hnot ⟨hcontinuous, hagrees⟩

/-- An hour that was not reached. -/
theorem agrees_of_unreached (hnone : ∀ t, InHour hour t → ¬Confirmed trace t)
    (hcutoff : hour < researchCutoffMs) :
    RecoveryOutcome.unresolved = x.outcomeOf symbol hour ↔ HourUnharmed x symbol trace hour := by
  have hpos := oneHour_pos
  have hin : InHour hour hour := ⟨le_rfl, by omega⟩
  rw [AuditExchange.outcomeOf, if_neg (not_le.2 hcutoff), eq_comm, classifyHour_unresolved]
  constructor
  · intro h
    constructor
    case unreached => exact fun _ => h
    case cut =>
      intro hcut
      rcases hcut.1 with ⟨t, ht, hconfirmed⟩
      exact absurd hconfirmed (hnone t ht)
    case unchecked => exact fun hall => absurd (hall hour hin) (hnone hour hin)
  · exact fun h => h.unreached hnone

/-- An hour whose fetch was cut short behind one of its candles. -/
theorem agrees_of_cut (hreached : hour < reachedUpToMs)
    (hwhole : reachedUpToMs < hour + oneHourMs)
    (hknown : ∀ t, hour ≤ t → t < hour + oneHourMs → (Confirmed trace t ↔ t < reachedUpToMs))
    (hfew : (minutesBefore x.minutes hour reachedUpToMs).length < minutesPerHour)
    (hcutoff : hour < researchCutoffMs) :
    (classifyHour symbol hour (minutesBefore x.minutes hour reachedUpToMs) native).outcome =
      x.outcomeOf symbol hour ↔ HourUnharmed x symbol trace hour := by
  have hin : InHour hour hour := ⟨le_rfl, hreached.trans hwhole⟩
  have hstop : InHour hour reachedUpToMs := ⟨hreached.le, hwhole⟩
  have hfirst : Confirmed trace hour := (hknown hour hin.1 hin.2).2 hreached
  have hnot : ¬Confirmed trace reachedUpToMs := fun h =>
    lt_irrefl _ ((hknown _ hstop.1 hstop.2).1 h)
  have hcut : CutShort trace hour := ⟨⟨hour, hin, hfirst⟩, reachedUpToMs, hstop, hnot⟩
  -- the minutes before the stop are those whose open time is confirmed
  have hbefore : ∀ c, c ∈ minutesBefore x.minutes hour reachedUpToMs ↔
      c ∈ minutesOf x.minutes hour ∧ Confirmed trace c.openTimeMs := by
    intro c
    simp only [minutesOf, minutesBefore, List.mem_filter, decide_eq_true_eq, and_assoc]
    constructor
    · rintro ⟨hc, hge, hlt, hstop⟩
      exact ⟨hc, hge, hlt, hlt, (hknown _ hge hlt).2 hstop⟩
    · rintro ⟨hc, hge, hlt, -, hconfirmed⟩
      exact ⟨hc, hge, hlt, (hknown _ hge hlt).1 hconfirmed⟩
  -- of the three conditions only the second applies to the hour
  have hlost : HourUnharmed x symbol trace hour ↔
      (minutesOf x.minutes hour).length < minutesPerHour ∧
        (minutesOf x.minutes hour ≠ [] → minutesBefore x.minutes hour reachedUpToMs ≠ []) := by
    constructor
    · intro h
      refine ⟨(h.cut hcut).1, fun hsome => ?_⟩
      rcases (h.cut hcut).2 hsome with ⟨c, hc, hconfirmed⟩
      exact List.ne_nil_of_mem ((hbefore c).2 ⟨hc, hconfirmed⟩)
    · rintro ⟨hlength, hseen⟩
      constructor
      case unreached => exact fun hnone => absurd hfirst (hnone hour hin)
      case cut =>
        refine fun _ => ⟨hlength, fun hsome => ?_⟩
        rcases List.exists_mem_of_ne_nil _ (hseen hsome) with ⟨c, hc⟩
        exact ⟨c, (hbefore c).1 hc⟩
      case unchecked => exact fun hall => absurd (hall _ hstop) hnot
  rw [hlost, AuditExchange.outcomeOf, if_neg (not_le.2 hcutoff), classifyHour_of_lt hfew]
  rcases lt_or_ge (minutesOf x.minutes hour).length minutesPerHour with hlt | hge
  · -- both are classified from less than sixty minutes
    rw [classifyHour_of_lt hlt]
    have hnone : minutesOf x.minutes hour = [] → minutesBefore x.minutes hour reachedUpToMs = [] := by
      intro hempty
      apply List.eq_nil_iff_forall_not_mem.2
      intro c hc
      have hmem := ((hbefore c).1 hc).1
      simp [hempty] at hmem
    simp only [List.length_eq_zero_iff, hlt, true_and]
    by_cases hfound : minutesBefore x.minutes hour reachedUpToMs = []
    · by_cases hall : minutesOf x.minutes hour = [] <;> simp [hfound, hall]
    · have hall : minutesOf x.minutes hour ≠ [] := fun h => hfound (hnone h)
      simp [hfound, hall]
  · -- sixty minutes are not incomplete
    rw [classifyHour_of_ge hge]
    constructor
    · intro h
      split at h <;> split at h <;> cases h
    · exact fun h => absurd h.1 (not_lt.2 hge)

/-- An hour that was confirmed from its first to its last minute. -/
theorem agrees_of_confirmed (h : Answers x trace) (hconfirmed : HourConfirmed trace hour)
    (hcutoff : hour < researchCutoffMs) :
    (classifyHour symbol hour (minutesOf x.minutes hour) (nativeIn trace hour)).outcome =
      x.outcomeOf symbol hour ↔ HourUnharmed x symbol trace hour := by
  have hpos := oneHour_pos
  have hin : InHour hour hour := ⟨le_rfl, by omega⟩
  have hlost : HourUnharmed x symbol trace hour ↔
      (isContinuous60Minutes (minutesOf x.minutes hour) hour = true →
        contradicted symbol hour (minutesOf x.minutes hour) (x.nativeOf hour) = true →
        (nativePage trace hour).isSome) := by
    refine ⟨fun h => h.unchecked hconfirmed, fun h => ?_⟩
    constructor
    case unreached => exact fun hnone => absurd (hconfirmed hour hin) (hnone hour hin)
    case cut =>
      intro hcut
      rcases hcut.2 with ⟨t, ht, hnot⟩
      exact absurd (hconfirmed t ht) hnot
    case unchecked => exact fun _ => h
  rw [hlost, AuditExchange.outcomeOf, if_neg (not_le.2 hcutoff), h.nativeIn_eq]
  rcases lt_or_ge (minutesOf x.minutes hour).length minutesPerHour with hlt | hge
  · -- no cross-check decides an incomplete hour
    rw [classifyHour_of_lt hlt, classifyHour_of_lt hlt]
    exact ⟨fun _ hall => absurd (length_of_continuous hall) hlt.ne, fun _ => rfl⟩
  · -- without a cross-check nothing contradicts the minutes
    rw [classifyHour_of_ge hge, classifyHour_of_ge hge]
    have hnothing : contradicted symbol hour (minutesOf x.minutes hour) none = false := by
      unfold contradicted
      split <;> rfl
    by_cases hchecked : (nativePage trace hour).isSome = true
    · simp [hchecked]
    · rw [if_neg hchecked]
      cases isContinuous60Minutes (minutesOf x.minutes hour) hour <;>
        cases contradicted symbol hour (minutesOf x.minutes hour) (x.nativeOf hour) <;>
          simp [hchecked, hnothing]

/-- An hour gets the outcome the exchange's candles call for exactly where nothing was lost. -/
theorem FetchedUpTo.agrees_iff (h : FetchedUpTo x.minutes gap trace reachedUpToMs)
    (hanswers : Answers x trace) (hmem : hour ∈ missingHoursForGap gap)
    (hcutoff : hour < researchCutoffMs) :
    (analyzeHour symbol (evidenceUpTo x.minutes reachedUpToMs trace) hour).outcome =
      x.outcomeOf symbol hour ↔ HourUnharmed x symbol trace hour := by
  have hknown := h.confirmed hour hmem hcutoff
  by_cases hreached : hour < reachedUpToMs
  case neg =>
    have hunresolved : analyzeHour symbol (evidenceUpTo x.minutes reachedUpToMs trace) hour =
        ⟨hour, .unresolved, 0, none⟩ := if_pos (Or.inr (decide_eq_false hreached))
    rw [hunresolved]
    apply agrees_of_unreached ?_ hcutoff
    intro t ht hconfirmed
    exact hreached (ht.1.trans_lt ((hknown t ht.1 ht.2).1 hconfirmed))
  have hclassified : analyzeHour symbol (evidenceUpTo x.minutes reachedUpToMs trace) hour =
      classifyHour symbol hour (minutesBefore x.minutes hour reachedUpToMs)
        (nativeIn trace hour) := by
    apply if_neg
    simp [evidenceUpTo, hcutoff, hreached]
  rw [hclassified]
  rcases lt_or_ge reachedUpToMs (hour + oneHourMs) with hcut | hwhole
  · rcases h.inside hour hmem hcutoff hreached hcut with ⟨last, hlast, rfl⟩
    exact agrees_of_cut hreached hcut hknown (minutesBefore_lt hlast hreached hcut) hcutoff
  · have hminutes : minutesBefore x.minutes hour reachedUpToMs = minutesOf x.minutes hour := by
      apply List.filter_congr
      intro c _
      apply decide_eq_decide.2
      omega
    rw [hminutes]
    apply agrees_of_confirmed hanswers ?_ hcutoff
    exact fun t ht => (hknown t ht.1 ht.2).2 (ht.2.trans_le hwhole)

end Hour

/-! ## Healthy analyses -/

section Healthy

variable {x : AuditExchange} {symbol interval : String} {gap : GapRecord} {maxRetries : ℕ}
variable {maxSecondsPerGap deadline : ℚ} {trace events : List AuditEvent} {hour : ℤ}

/-- Events none of which failed or showed a time at or past the deadline. -/
structure Calm (deadline : ℚ) (events : List AuditEvent) : Prop where
  answered : ∀ interval request text, .failed interval request text ∉ events
  inTime : ∀ seconds : ℚ, ⟨.now, seconds⟩ ∈ events → seconds < deadline

theorem Calm.of_subset {events' : List AuditEvent} (h : Calm deadline events)
    (hsub : ∀ e ∈ events', e ∈ events) : Calm deadline events' :=
  ⟨fun interval request text hmem => h.answered interval request text (hsub _ hmem),
    fun seconds hmem => h.inTime seconds (hsub _ hmem)⟩

theorem Calm.left {events' : List AuditEvent} (h : Calm deadline (events ++ events')) :
    Calm deadline events :=
  h.of_subset fun _ hmem => List.mem_append_left _ hmem

theorem Calm.right {events' : List AuditEvent} (h : Calm deadline (events ++ events')) :
    Calm deadline events' :=
  h.of_subset fun _ hmem => List.mem_append_right _ hmem

/-- Without failures a request is answered. -/
theorem Calm.page_isSome {startMs endMs : ℤ} {limit : ℕ} {result : Option (List Candle)}
    (h : Calm deadline events) (hretries : 0 < maxRetries)
    (hrun : RecordsTo (fetchKlinesWithBoundedRetries interval startMs endMs limit maxRetries) trace
      result (trace ++ events)) : result ≠ none := by
  rintro rfl
  rcases fetchKlines_records hrun with ⟨failures, hlength, htrace⟩
  cases failures with
  | nil => exact absurd hlength hretries.ne
  | cons text failures =>
      rw [List.append_cancel_left htrace] at h
      exact h.answered _ _ _ List.mem_cons_self

/-- Where nothing fails and the deadline is not reached, fetching is not stopped. -/
theorem Calm.not_stopped {endMs cursor : ℤ} {fuel : ℕ} {candles : List Candle}
    {fetched : FetchedRange} (h : Calm deadline events) (hretries : 0 < maxRetries)
    (hrun : RecordsTo (fetch1mRange endMs maxRetries deadline fuel cursor candles) trace
      (some fetched) (trace ++ events)) : fetched.stoppedReason = none := by
  induction fuel generalizing cursor candles trace events with
  | zero => cases (recordsTo_pure.1 hrun).1
  | succ fuel ih =>
      rw [fetch1mRange] at hrun
      split at hrun
      case isFalse =>
        cases (recordsTo_pure.1 hrun).1
        rfl
      rcases recordsTo_bind.1 hrun with ⟨seconds, middle, hnow, hround⟩
      cases recordsTo_now.1 hnow
      -- the time read at the start of the round is one of the events
      have hintime : seconds < deadline := by
        rcases RecordsTo.appends hround with ⟨later, heq⟩
        rw [List.append_assoc] at heq
        apply h.inTime
        rw [List.append_cancel_left heq]
        exact List.mem_cons_self
      rw [if_neg (not_le.2 hintime)] at hround
      rcases recordsTo_bind.1 hround with ⟨page, middle, hpage, hrest⟩
      -- the events of the page, and those after it
      rcases RecordsTo.appends hpage with ⟨asked, rfl⟩
      rcases RecordsTo.appends hrest with ⟨later, heq⟩
      simp only [List.append_assoc] at heq
      have hevents := List.append_cancel_left heq
      rw [hevents] at h
      have hsome := h.right.left.page_isSome hretries hpage
      cases page with
      | none => exact absurd rfl hsome
      | some page =>
          cases hlast : page.getLast? with
          | none =>
              simp only [hlast] at hrest
              cases (recordsTo_pure.1 hrest).1
              rfl
          | some last =>
              simp only [hlast] at hrest
              split at hrest
              · cases (recordsTo_pure.1 hrest).1
                rfl
              · have hnext : RecordsTo (fetch1mRange endMs maxRetries deadline fuel
                    (last.openTimeMs + oneMinuteMs) (candles ++ page))
                    (trace ++ [⟨.now, seconds⟩] ++ asked) (some fetched)
                    (trace ++ [⟨.now, seconds⟩] ++ asked ++ later) := by
                  simpa [hevents] using hrest
                exact ih h.right.right hnext

/-- A complete hour is cross-checked while nothing fails and there is time. -/
theorem Calm.checked {minuteCandles : List Candle} {outcome : MissingHourOutcome}
    (h : Calm deadline events) (hretries : 0 < maxRetries)
    (hcomplete : isContinuous60Minutes minuteCandles hour = true)
    (hrun : RecordsTo (classifyFetchedHour symbol maxRetries deadline hour minuteCandles) trace
      outcome (trace ++ events)) : (nativePage events hour).isSome := by
  rw [classifyFetchedHour, if_pos hcomplete] at hrun
  rcases recordsTo_bind.1 hrun with ⟨seconds, middle, hnow, hrest⟩
  cases recordsTo_now.1 hnow
  rcases RecordsTo.appends hrest with ⟨later, heq⟩
  rw [List.append_assoc] at heq
  have hevents := List.append_cancel_left heq
  rw [hevents] at h hrest ⊢
  rw [if_pos (h.inTime seconds List.mem_cons_self)] at hrest
  rcases recordsTo_bind.1 hrest with ⟨native, middle, hnative, hdone⟩
  rcases recordsTo_pure.1 hdone with ⟨-, hmiddle⟩
  rw [← hmiddle, ← List.append_assoc] at hnative
  rcases recordsTo_bind.1 hnative with ⟨page, middle', hpage, hfound⟩
  have hend : middle' = trace ++ [⟨.now, seconds⟩] ++ later := by
    cases page <;> exact (recordsTo_pure.1 hfound).2.symm
  rw [hend] at hpage
  have hsome := h.right.page_isSome hretries hpage
  cases page with
  | none => exact absurd rfl hsome
  | some page =>
      rcases fetchKlines_records hpage with ⟨failures, answer, -, htrace⟩
      rw [List.append_assoc _ (failures.map _)] at htrace
      have hanswered : nativePage later hour = some answer := by
        rw [List.append_cancel_left htrace, nativePage_append]
        exact congrArg₂ Option.or nativePage_failures nativePage_answered
      rw [nativePage_append, nativePage_now, hanswered]
      rfl

/-- Every complete hour of a range that was fetched to its end is cross-checked. -/
theorem Calm.all_checked {fetched : FetchedRange} {hours : List ℤ}
    {outcomes : List MissingHourOutcome} (h : Calm deadline events) (hretries : 0 < maxRetries)
    (hwhole : fetched.stoppedReason = none)
    (hrun : RecordsTo (classifyHours symbol maxRetries deadline fetched hours) trace outcomes
      (trace ++ events)) :
    ∀ hour ∈ hours, isContinuous60Minutes (hourMinutes fetched.candles hour) hour = true →
      (nativePage events hour).isSome := by
  induction hours generalizing trace events outcomes with
  | nil => simp
  | cons first rest ih =>
      rcases recordsTo_bind.1 hrun with ⟨outcome, middle, hfirst, hothers⟩
      rcases RecordsTo.appends hfirst with ⟨own, rfl⟩
      rcases recordsTo_bind.1 hothers with ⟨outcomes', middle, hrest, hdone⟩
      rcases recordsTo_pure.1 hdone with ⟨-, rfl⟩
      rcases RecordsTo.appends hrest with ⟨later, heq⟩
      rw [List.append_assoc] at heq
      have hevents := List.append_cancel_left heq
      subst hevents
      intro hour hmem hcomplete
      rw [nativePage_append]
      rcases List.mem_cons.1 hmem with rfl | hmem
      · have hreached : ¬(fetched.stoppedReason.isSome ∧ hour ≥ fetched.reachedUpToMs) := by
          simp [hwhole]
        rw [auditHour, if_neg hreached] at hfirst
        rw [Option.isSome_or, h.left.checked hretries hcomplete hfirst]
        rfl
      · rw [← List.append_assoc] at hrest
        rw [Option.isSome_or, ih h.right hrest hour hmem hcomplete, Bool.or_true]

/-- A healthy analysis loses nothing. -/
theorem Unhindered.unharmed {result : Option GapForensicResult}
    (h : Unhindered maxSecondsPerGap trace) (hanswers : Answers x trace)
    (hretries : 0 < maxRetries)
    (hrun : RecordsTo (analyzeGap symbol maxRetries maxSecondsPerGap gap) [] result trace)
    (hmem : hour ∈ missingHoursForGap gap) (hcutoff : hour < researchCutoffMs) :
    HourUnharmed x symbol trace hour := by
  have hin := mem_fetchable.2 ⟨hmem, hcutoff⟩
  cases hhours : (missingHoursForGap gap).filter (fun h => h < researchCutoffMs) with
  | nil => simp [hhours] at hin
  | cons first rest =>
      rw [hhours] at hin
      rcases analyzeGap_parts hrun hanswers.minutes hhours with
        ⟨start, pages, checks, fetched, outcomes, elapsed, hparts, rfl, rfl⟩
      have hsorted : (first :: rest).Pairwise (· < ·) := hhours ▸ (missingHours_lt gap).filter _
      rcases mem_between hsorted hin with ⟨hfirst, hlast⟩
      have hcalm : Calm (start + maxSecondsPerGap)
          ([⟨.now, start⟩] ++ pages ++ checks ++ [⟨.now, elapsed⟩]) :=
        ⟨h.answered, fun seconds hmem => h.inTime start (by simp) seconds hmem⟩
      have hwhole : fetched.stoppedReason = none :=
        hcalm.left.left.right.not_stopped hretries hparts.fetch
      have hend := hparts.ended.whole hwhole
      -- the whole hour was fetched
      have hconfirmed : HourConfirmed ([⟨.now, start⟩] ++ pages ++ checks ++ [⟨.now, elapsed⟩])
          hour := by
        intro t ht
        have hlt : t < (first :: rest).getLast?.getD first + oneHourMs := by
          have := ht.2
          omega
        rw [List.append_assoc, confirmed_after_fetch (ne_minutes_of_checks elapsed hparts.quiet),
          hparts.ended.paged.confirmed t (hfirst.trans ht.1) hlt, hend]
        exact hlt
      have hminutes : hourMinutes fetched.candles hour = minutesOf x.minutes hour := by
        rw [hparts.ended.hourMinutes_eq hfirst, hend]
        apply List.filter_congr
        intro c _
        apply decide_eq_decide.2
        omega
      constructor
      case unreached =>
        intro hnone
        have hpos := oneHour_pos
        have hself : InHour hour hour := ⟨le_rfl, by omega⟩
        exact absurd (hconfirmed hour hself) (hnone hour hself)
      case cut =>
        intro hcut
        rcases hcut.2 with ⟨t, ht, hnot⟩
        exact absurd (hconfirmed t ht) hnot
      case unchecked =>
        -- a complete hour was cross-checked, with the same minutes
        intro _ hcomplete _
        rw [← hminutes] at hcomplete
        have hchecked := hcalm.left.right.all_checked hretries hwhole hparts.classify hour hin
          hcomplete
        rw [nativePage_append, nativePage_append, Option.isSome_or, Option.isSome_or, hchecked,
          Bool.or_true, Bool.true_or]

end Healthy

/-! ## The loop -/

structure AuditSettings where
  symbol : String
  maxRetries : ℕ
  maxSecondsPerGap : ℚ

/-- The loop of `run_gap_forensics` over the gaps it comes to before an interruption: the results in
turn and the checkpoint it leaves; `none` where a paging loop has not ended. -/
def auditGapList (settings : AuditSettings) : Option GapAuditCheckpoint → List GapRecord →
    AuditProgram (Option (List GapForensicResult × Option GapAuditCheckpoint))
  | checkpoint, [] => pure (some ([], checkpoint))
  | checkpoint, gap :: rest =>
      match checkpoint.bind fun c => c.get? gap with
      | some cached => do
          let later ← auditGapList settings checkpoint rest
          pure (later.map fun found => (cached :: found.1, found.2))
      | none => do
          let result ← analyzeGap settings.symbol settings.maxRetries settings.maxSecondsPerGap gap
          match result with
          | none => pure none
          | some result => do
              let later ← auditGapList settings (checkpoint.map fun c => c.set result.gap result)
                rest
              pure (later.map fun found => (result :: found.1, found.2))

/-- One round of the loop: the gap, what was asked and answered for it, and its result.  Nothing is
asked for a gap whose result is recorded. -/
structure AuditRound where
  gap : GapRecord
  asked : Option (List AuditEvent)
  result : GapForensicResult

/-- The loop body of `run_gap_forensics`, with the checkpoint, if there is one, before and after. -/
inductive AuditStep (settings : AuditSettings) :
    Option GapAuditCheckpoint → AuditRound → Option GapAuditCheckpoint → Prop where
  | reused {checkpoint : GapAuditCheckpoint} {gap : GapRecord} {cached : GapForensicResult}
      (hcached : checkpoint.get? gap = some cached) :
      AuditStep settings (some checkpoint) ⟨gap, none, cached⟩ (some checkpoint)
  | analyzed {checkpoint : Option GapAuditCheckpoint} {gap : GapRecord}
      {result : GapForensicResult} {trace : List AuditEvent}
      (hnew : (checkpoint.bind fun c => c.get? gap) = none)
      (hrun : RecordsTo (analyzeGap settings.symbol settings.maxRetries settings.maxSecondsPerGap
        gap) [] (some result) trace) :
      AuditStep settings checkpoint ⟨gap, some trace, result⟩
        (checkpoint.map fun c => c.set result.gap result)

/-- The rounds of a run.  An interrupted run of a list of gaps is one of an initial part of it. -/
inductive AuditRun (settings : AuditSettings) :
    Option GapAuditCheckpoint → List AuditRound → Option GapAuditCheckpoint → Prop where
  | done (checkpoint : Option GapAuditCheckpoint) : AuditRun settings checkpoint [] checkpoint
  | round {checkpoint checkpoint' checkpoint'' : Option GapAuditCheckpoint} {r : AuditRound}
      {rounds : List AuditRound} (hstep : AuditStep settings checkpoint r checkpoint')
      (hrest : AuditRun settings checkpoint' rounds checkpoint'') :
      AuditRun settings checkpoint (r :: rounds) checkpoint''

/-- The exchange answers truly, wherever it answers. -/
def TrueRounds (x : AuditExchange) (rounds : List AuditRound) : Prop :=
  ∀ r ∈ rounds, ∀ trace ∈ r.asked, Answers x trace

/-- A run with at least one attempt a request, during which nothing fails and the budget of no gap is
used up. -/
structure HealthyRun (x : AuditExchange) (settings : AuditSettings)
    (checkpoint : Option GapAuditCheckpoint) (rounds : List AuditRound)
    (checkpoint' : Option GapAuditCheckpoint) : Prop where
  run : AuditRun settings checkpoint rounds checkpoint'
  attempts : 0 < settings.maxRetries
  truthful : TrueRounds x rounds
  unhindered : ∀ r ∈ rounds, ∀ trace ∈ r.asked, Unhindered settings.maxSecondsPerGap trace

def outcomesOfRounds (rounds : List AuditRound) : List (List (ℤ × RecoveryOutcome)) :=
  rounds.map fun r => r.result.outcomes

def askedInRounds (rounds : List AuditRound) : List AuditEvent :=
  rounds.flatMap fun r => r.asked.getD []

section Loop

variable {x : AuditExchange} {settings : AuditSettings} {symbol : String} {gap : GapRecord}
variable {maxRetries : ℕ} {maxSecondsPerGap : ℚ} {trace : List AuditEvent}
variable {checkpoint checkpoint' : GapAuditCheckpoint} {result : GapForensicResult}
variable {rounds : List AuditRound} {r : AuditRound}

/-- The rounds are those of the loop as the program runs it. -/
theorem recordsTo_auditGapList {gaps : List GapRecord} {results : List GapForensicResult}
    {c c' : Option GapAuditCheckpoint} {events : List AuditEvent} :
    RecordsTo (auditGapList settings c gaps) [] (some (results, c')) events ↔
      ∃ rounds, AuditRun settings c rounds c' ∧ rounds.map AuditRound.gap = gaps ∧
        rounds.map AuditRound.result = results ∧ askedInRounds rounds = events := by
  induction gaps generalizing c results events with
  | nil =>
      rw [auditGapList, recordsTo_pure]
      constructor
      · rintro ⟨heq, rfl⟩
        cases heq
        exact ⟨[], .done _, rfl, rfl, rfl⟩
      · rintro ⟨rounds, hrun, hgaps, rfl, rfl⟩
        cases List.map_eq_nil_iff.1 hgaps
        cases hrun
        exact ⟨rfl, rfl⟩
  | cons gap rest ih =>
      rw [auditGapList]
      cases hget : c.bind (fun c => c.get? gap) with
      | some cached =>
          -- the recorded result is reused, and nothing is asked
          rcases Option.bind_eq_some_iff.1 hget with ⟨checkpoint, rfl, hcached⟩
          simp only [recordsTo_bind, recordsTo_pure]
          constructor
          · rintro ⟨later, middle, hlater, hfound, rfl⟩
            rcases Option.map_eq_some_iff.1 hfound.symm with ⟨⟨results', after⟩, rfl, ⟨⟩⟩
            rcases ih.1 hlater with ⟨rounds, hrun, hgaps, hresults, hevents⟩
            exact ⟨⟨gap, none, cached⟩ :: rounds, .round (.reused hcached) hrun,
              congrArg _ hgaps, congrArg _ hresults, hevents⟩
          · rintro ⟨rounds, hrun, hgaps, rfl, rfl⟩
            cases hrun with
            | done _ => cases hgaps
            | round hstep hrest =>
                rcases List.cons_eq_cons.1 hgaps with ⟨rfl, hlater⟩
                cases hstep with
                | reused hsame =>
                    cases hcached.symm.trans hsame
                    exact ⟨_, _, ih.2 ⟨_, hrest, hlater, rfl, rfl⟩, rfl, rfl⟩
                | analyzed hnew hrun => cases hcached.symm.trans hnew
      | none =>
          -- the gap is analyzed; the rounds after it are runs of their own
          simp only [recordsTo_bind]
          constructor
          · rintro ⟨result, trace, hanalyzed, hlater⟩
            cases result with
            | none => cases (recordsTo_pure.1 hlater).1
            | some result =>
                rcases recordsTo_bind.1 hlater with ⟨later, middle, hothers, hdone⟩
                rcases recordsTo_pure.1 hdone with ⟨hfound, rfl⟩
                rcases Option.map_eq_some_iff.1 hfound.symm with ⟨⟨results', after⟩, rfl, ⟨⟩⟩
                rcases RecordsTo.appends hothers with ⟨asked, rfl⟩
                nth_rewrite 1 [← List.append_nil trace] at hothers
                have hframed := (recordsTo_frame trace).1 hothers
                rcases ih.1 hframed with ⟨rounds, hrun, hgaps, hresults, hevents⟩
                exact ⟨⟨gap, some trace, result⟩ :: rounds, .round (.analyzed hget hanalyzed) hrun,
                  congrArg _ hgaps, congrArg _ hresults, congrArg _ hevents⟩
          · rintro ⟨rounds, hrun, hgaps, rfl, rfl⟩
            cases hrun with
            | done _ => cases hgaps
            | round hstep hrest =>
                rcases List.cons_eq_cons.1 hgaps with ⟨rfl, hlater⟩
                cases hstep with
                | reused hcached => cases hcached.symm.trans hget
                | @analyzed _ _ result trace hnew hanalyzed =>
                    have hframed := (recordsTo_frame trace).2 (ih.2 ⟨_, hrest, hlater, rfl, rfl⟩)
                    rw [List.append_nil] at hframed
                    refine ⟨some result, trace, hanalyzed, ?_⟩
                    exact recordsTo_bind.2 ⟨_, _, hframed, recordsTo_pure.2 ⟨rfl, rfl⟩⟩

/-- A gap gets the outcomes the exchange's candles call for exactly where no hour lost anything. -/
theorem Answers.outcomes_iff (h : Answers x trace)
    (hrun : RecordsTo (analyzeGap symbol maxRetries maxSecondsPerGap gap) [] (some result) trace) :
    result.gap = gap ∧ (result.outcomes = x.outcomesOf symbol gap ↔
      ∀ hour ∈ missingHoursForGap gap, hour < researchCutoffMs →
        HourUnharmed x symbol trace hour) := by
  rcases analyzeGap_spec hrun h.minutes with ⟨reachedUpToMs, hupTo, heq⟩
  cases heq
  refine ⟨rfl, ?_⟩
  have houtcomes : (analyzeOneGap symbol (evidenceUpTo x.minutes reachedUpToMs trace) gap).outcomes =
      (missingHoursForGap gap).map fun hour => (hour,
        (analyzeHour symbol (evidenceUpTo x.minutes reachedUpToMs trace) hour).outcome) := by
    rw [GapForensicResult.outcomes, analyzeOneGap, List.map_map]
    apply List.map_congr_left
    intro hour _
    exact Prod.ext (analyzeHour_openTime _) rfl
  rw [houtcomes, AuditExchange.outcomesOf, List.map_inj_left]
  apply forall₂_congr
  intro hour hmem
  rw [Prod.mk.injEq, eq_self, true_and]
  by_cases hcutoff : hour < researchCutoffMs
  · rw [hupTo.agrees_iff h hmem hcutoff]
    exact ⟨fun hkept _ => hkept, fun hkept => hkept hcutoff⟩
  · -- at the cutoff and after it every audit leaves the hour unresolved
    have hge := not_lt.1 hcutoff
    have hleft : analyzeHour symbol (evidenceUpTo x.minutes reachedUpToMs trace) hour =
        ⟨hour, .unresolved, 0, none⟩ := if_pos (Or.inl hge)
    have hright : x.outcomeOf symbol hour = .unresolved := if_pos hge
    rw [hleft, hright]
    exact ⟨fun _ hlt => absurd hlt hcutoff, fun _ => rfl⟩

/-- What a run reports for a gap: the recorded outcomes, or those the exchange's candles call for. -/
def shownOutcomes (x : AuditExchange) (symbol : String) (checkpoint : Option GapAuditCheckpoint)
    (gap : GapRecord) : List (ℤ × RecoveryOutcome) :=
  ((checkpoint.bind fun c => c.get? gap).map GapForensicResult.outcomes).getD
    (x.outcomesOf symbol gap)

/-- A healthy round shows what is shown of its gap, and changes nothing of what is shown. -/
theorem AuditStep.shown {c c' : Option GapAuditCheckpoint} (h : AuditStep settings c r c')
    (hattempts : 0 < settings.maxRetries) (htrue : ∀ trace ∈ r.asked, Answers x trace)
    (hhealthy : ∀ trace ∈ r.asked, Unhindered settings.maxSecondsPerGap trace) :
    r.result.outcomes = shownOutcomes x settings.symbol c r.gap ∧
      ∀ gap, shownOutcomes x settings.symbol c' gap = shownOutcomes x settings.symbol c gap := by
  cases h with
  | reused hcached => exact ⟨by simp [shownOutcomes, hcached], fun _ => rfl⟩
  | @analyzed _ gap result trace hnew hrun =>
      have hanswers := htrue trace rfl
      rcases hanswers.outcomes_iff hrun with ⟨hgap, hiff⟩
      have hfound : result.outcomes = x.outcomesOf settings.symbol gap :=
        hiff.2 fun hour hmem hcutoff =>
          (hhealthy trace rfl).unharmed hanswers hattempts hrun hmem hcutoff
      refine ⟨by simp [shownOutcomes, hnew, hfound], ?_⟩
      intro gap'
      cases c with
      | none => rfl
      | some c =>
          -- the gap now shows what it was recorded with
          by_cases hsame : gap' = gap
          · subst hsame
            have hset : (c.set result.gap result).get? gap' = some result := by
              rw [hgap]
              exact Dict.get?_set_self c gap' result
            have hnone : c.get? gap' = none := hnew
            simp [shownOutcomes, hset, hnone, hfound]
          · have hset : (c.set result.gap result).get? gap' = c.get? gap' := by
              rw [hgap]
              exact Dict.get?_set_of_ne c hsame result
            simp [shownOutcomes, hset]

/-- A healthy run reports what is shown at its start. -/
theorem HealthyRun.outcomes {c c' : Option GapAuditCheckpoint}
    (h : HealthyRun x settings c rounds c') :
    outcomesOfRounds rounds =
      (rounds.map AuditRound.gap).map (shownOutcomes x settings.symbol c) := by
  rcases h with ⟨hrun, hattempts, htrue, hhealthy⟩
  induction hrun with
  | done c => rfl
  | @round c c' c'' r rounds hstep hrest ih =>
      rcases hstep.shown hattempts (htrue r List.mem_cons_self) (hhealthy r List.mem_cons_self) with
        ⟨hfirst, hshown⟩
      have hlater := ih (fun r' hmem => htrue r' (List.mem_cons_of_mem _ hmem))
        (fun r' hmem => hhealthy r' (List.mem_cons_of_mem _ hmem))
      have hsame : shownOutcomes x settings.symbol c' = shownOutcomes x settings.symbol c :=
        funext hshown
      rw [hsame] at hlater
      exact congrArg₂ List.cons hfirst hlater

/-- What a round leaves in a checkpoint: its own gap has its result, the others what they had. -/
theorem AuditStep.recorded {c' : Option GapAuditCheckpoint}
    (h : AuditStep settings (some checkpoint) r c') (htrue : ∀ trace ∈ r.asked, Answers x trace) :
    ∃ checkpoint', c' = some checkpoint' ∧ checkpoint'.get? r.gap = some r.result ∧
      (∀ gap ≠ r.gap, checkpoint'.get? gap = checkpoint.get? gap) ∧
      (r.asked.isSome ↔ checkpoint.get? r.gap = none) := by
  cases h with
  | reused hcached => exact ⟨checkpoint, rfl, hcached, fun _ _ => rfl, by simp [hcached]⟩
  | @analyzed _ gap result trace hnew hrun =>
      rcases (htrue trace rfl).outcomes_iff hrun with ⟨hgap, -⟩
      refine ⟨_, rfl, ?_, ?_, by simpa using hnew⟩
      · rw [hgap]
        exact Dict.get?_set_self checkpoint gap result
      · intro gap' hne
        rw [hgap]
        exact Dict.get?_set_of_ne checkpoint hne result

/-- What a run leaves in a checkpoint for a gap: what was recorded before, or what it has computed. -/
theorem AuditRun.recorded {c' : Option GapAuditCheckpoint}
    (h : AuditRun settings (some checkpoint) rounds c') (htrue : TrueRounds x rounds) :
    ∃ checkpoint', c' = some checkpoint' ∧
      (∀ gap result, checkpoint.get? gap = some result → checkpoint'.get? gap = some result) ∧
      (∀ r ∈ rounds, r.asked.isSome → checkpoint'.get? r.gap = some r.result) ∧
      ∀ gap result, checkpoint'.get? gap = some result → checkpoint.get? gap = some result ∨
        ∃ r ∈ rounds, r.asked.isSome ∧ r.gap = gap ∧ r.result = result := by
  generalize hc : some checkpoint = c at h
  induction h generalizing checkpoint with
  | done c =>
      subst hc
      exact ⟨checkpoint, rfl, fun _ _ h => h, by simp, fun _ _ h => Or.inl h⟩
  | @round c middle c'' r rounds hstep hrest ih =>
      subst hc
      rcases hstep.recorded (htrue r List.mem_cons_self) with
        ⟨checkpoint₁, rfl, hown, hothers, hasked⟩
      rcases ih (fun r' hmem => htrue r' (List.mem_cons_of_mem _ hmem)) rfl with
        ⟨checkpoint₂, rfl, hkept, hrecorded, hfound⟩
      refine ⟨checkpoint₂, rfl, ?_, ?_, ?_⟩
      -- what was recorded before stays
      · intro gap result hget
        apply hkept
        by_cases hsame : gap = r.gap
        · -- the gap was reused, with the same result
          subst hsame
          cases hstep with
          | reused hcached => exact hget
          | analyzed hnew hrun => cases hget.symm.trans hnew
        · exact (hothers gap hsame).trans hget
      -- what a round has computed is recorded
      · intro r' hmem hsome
        rcases List.mem_cons.1 hmem with rfl | hmem
        · exact hkept _ _ hown
        · exact hrecorded r' hmem hsome
      -- and nothing else
      · intro gap result hget
        rcases hfound gap result hget with hget | ⟨r', hmem, hsome, hgap, hresult⟩
        · by_cases hsame : gap = r.gap
          · subst hsame
            have hresult : r.result = result := Option.some.inj (hown.symm.trans hget)
            cases hcached : checkpoint.get? r.gap with
            | none => exact Or.inr ⟨r, List.mem_cons_self, hasked.2 hcached, rfl, hresult⟩
            | some cached =>
                have hnotasked : ¬r.asked.isSome := fun hsome => by
                  simp [hasked.1 hsome] at hcached
                cases hstep with
                | reused hget => exact Or.inl (hcached.symm.trans (hresult ▸ hget))
                | analyzed hnew hrun => exact absurd rfl hnotasked
          · exact Or.inl ((hothers gap hsame).symm.trans hget)
        · exact Or.inr ⟨r', List.mem_cons_of_mem _ hmem, hsome, hgap, hresult⟩

theorem AuditRun.analysis {c c' : Option GapAuditCheckpoint} (h : AuditRun settings c rounds c')
    (hmem : r ∈ rounds) (hasked : r.asked = some trace) :
    RecordsTo (analyzeGap settings.symbol settings.maxRetries settings.maxSecondsPerGap r.gap) []
      (some r.result) trace := by
  induction h with
  | done c => cases hmem
  | round hstep hrest ih =>
      rcases List.mem_cons.1 hmem with rfl | hmem
      · cases hstep with
        | reused hcached => cases hasked
        | analyzed hnew hrun =>
            cases hasked
            exact hrun
      · exact ih hmem

end Loop

/-! ## Healthy runs there are -/

/-- The answers of an exchange that fails no request, while the clock stands still. -/
def AuditExchange.promptAnswer (x : AuditExchange) : (effect : AuditEffect) → effect.Answer
  | .now => (0 : ℚ)
  | .getKlines interval request =>
      .ok (if interval = "1m" then x.minutes.answer request else x.hours.answer request)

section Exists

variable {x : AuditExchange} {trace : List AuditEvent}

/-- Prompt answers are full ones, in time. -/
theorem healthy_of_prompt {maxSecondsPerGap : ℚ} (hbudget : 0 < maxSecondsPerGap)
    (h : ∀ e ∈ trace, e.answer = x.promptAnswer e.effect) :
    Answers x trace ∧ Unhindered maxSecondsPerGap trace := by
  refine ⟨⟨fun request page hmem => ?_, fun request page hmem => ?_⟩,
    ⟨fun interval request text hmem => ?_, fun start hstart seconds hmem => ?_⟩⟩
  · exact Except.ok.inj (h _ hmem)
  · exact Except.ok.inj (h _ hmem)
  · cases h _ hmem
  · have hstart : start = 0 := h _ (List.mem_of_head? hstart)
    have hseconds : seconds = 0 := h _ hmem
    rw [hstart, hseconds, zero_add]
    exact hbudget

/-- From every checkpoint, or without one, there is a healthy run over every list of gaps. -/
theorem exists_healthyRun (x : AuditExchange) (settings : AuditSettings)
    (hattempts : 0 < settings.maxRetries) (hbudget : 0 < settings.maxSecondsPerGap)
    (gaps : List GapRecord)
    (c : Option GapAuditCheckpoint) :
    ∃ rounds c', HealthyRun x settings c rounds c' ∧ rounds.map AuditRound.gap = gaps := by
  induction gaps generalizing c with
  | nil => exact ⟨[], c, ⟨.done c, hattempts, by simp [TrueRounds], by simp⟩, rfl⟩
  | cons gap rest ih =>
      -- one round, healthy and truthful
      have hround : ∃ r middle, AuditStep settings c r middle ∧ r.gap = gap ∧
          ∀ trace ∈ r.asked, Answers x trace ∧ Unhindered settings.maxSecondsPerGap trace := by
        cases hget : c.bind (fun c => c.get? gap) with
        | some cached =>
            rcases Option.bind_eq_some_iff.1 hget with ⟨checkpoint, rfl, hcached⟩
            exact ⟨_, _, .reused hcached, rfl, by simp⟩
        | none =>
            rcases exists_run (fun e => e.answer = x.promptAnswer e.effect)
              (fun effect => ⟨x.promptAnswer effect, rfl⟩) (analyzeGap settings.symbol
                settings.maxRetries settings.maxSecondsPerGap gap) [] with
              ⟨result, events, hrun, hprompt⟩
            rcases healthy_of_prompt hbudget hprompt with ⟨hanswers, hunhindered⟩
            rw [List.nil_append] at hrun
            rcases analyzeGap_spec hrun hanswers.minutes with ⟨reachedUpToMs, -, rfl⟩
            refine ⟨_, _, .analyzed hget hrun, rfl, ?_⟩
            rintro trace ⟨⟩
            exact ⟨hanswers, hunhindered⟩
      rcases hround with ⟨r, middle, hstep, hgap, hhealthy⟩
      rcases ih middle with ⟨rounds, c', hrest, hgaps⟩
      refine ⟨r :: rounds, c', ⟨.round hstep hrest.run, hattempts, ?_, ?_⟩, ?_⟩
      · intro r' hmem trace hasked
        rcases List.mem_cons.1 hmem with rfl | hmem
        · exact (hhealthy trace hasked).1
        · exact hrest.truthful r' hmem trace hasked
      · intro r' hmem trace hasked
        rcases List.mem_cons.1 hmem with rfl | hmem
        · exact (hhealthy trace hasked).2
        · exact hrest.unhindered r' hmem trace hasked
      · rw [List.map_cons, hgap, hgaps]

end Exists

/-- **Resuming an audit.**  After any run from any checkpoint, whatever failed during it, a healthy
run over a list of gaps with the checkpoint it left finds the outcomes of a healthy run without one
exactly where, for every gap of the list, the outcomes recorded before are those the exchange's
candles call for, and what the first run was not told would have changed nothing. -/
theorem resumed_audit_agrees_iff (x : AuditExchange) (symbol : String) (gaps : List GapRecord)
    {checkpoint checkpoint' : GapAuditCheckpoint} {c'' c : Option GapAuditCheckpoint}
    {attempts attempts' attempts'' : ℕ} {seconds seconds' seconds'' : ℚ}
    {earlier resumed uninterrupted : List AuditRound}
    (hearlier : AuditRun ⟨symbol, attempts, seconds⟩ (some checkpoint) earlier (some checkpoint'))
    (htrue : TrueRounds x earlier)
    (hresumed : HealthyRun x ⟨symbol, attempts', seconds'⟩ (some checkpoint') resumed c'')
    (hgaps : resumed.map AuditRound.gap = gaps)
    (huninterrupted : HealthyRun x ⟨symbol, attempts'', seconds''⟩ none uninterrupted c)
    (hgaps' : uninterrupted.map AuditRound.gap = gaps) :
    outcomesOfRounds resumed = outcomesOfRounds uninterrupted ↔
      (∀ gap ∈ gaps, ∀ result, checkpoint.get? gap = some result →
        result.outcomes = x.outcomesOf symbol gap) ∧
      ∀ r ∈ earlier, r.gap ∈ gaps → ∀ trace ∈ r.asked, ∀ hour ∈ missingHoursForGap r.gap,
        hour < researchCutoffMs → HourUnharmed x symbol trace hour := by
  have hfresh : ∀ gap, shownOutcomes x symbol none gap = x.outcomesOf symbol gap := fun _ => rfl
  rw [hresumed.outcomes, huninterrupted.outcomes, hgaps, hgaps', List.map_inj_left]
  simp only [hfresh]
  rcases hearlier.recorded htrue with ⟨c₁, heq, hkept, hrecorded, hfound⟩
  cases heq
  have hshown : ∀ gap, shownOutcomes x symbol (some checkpoint') gap = x.outcomesOf symbol gap ↔
      ∀ result, checkpoint'.get? gap = some result → result.outcomes = x.outcomesOf symbol gap := by
    intro gap
    cases hget : checkpoint'.get? gap with
    | none => simp [shownOutcomes, hget]
    | some result => simp [shownOutcomes, hget]
  simp only [hshown]
  constructor
  · intro h
    refine ⟨fun gap hmem result hget => h gap hmem result (hkept gap result hget), ?_⟩
    -- what the earlier run computed is recorded, and agrees only where nothing was lost
    intro r hr hmem trace hasked
    have hrun := hearlier.analysis hr hasked
    have hanswers := htrue r hr trace hasked
    apply (hanswers.outcomes_iff hrun).2.1
    exact h r.gap hmem r.result (hrecorded r hr (by rw [hasked]; rfl))
  · rintro ⟨hbefore, hnothing⟩ gap hmem result hget
    rcases hfound gap result hget with hget | ⟨r, hr, hsome, rfl, rfl⟩
    · exact hbefore gap hmem result hget
    · rcases Option.isSome_iff_exists.1 hsome with ⟨trace, hasked⟩
      have hrun := hearlier.analysis hr hasked
      have hanswers := htrue r hr trace hasked
      exact (hanswers.outcomes_iff hrun).2.2 (hnothing r hr hmem trace hasked)

/-! ## One hour, of which the exchange has every minute -/

namespace OneHour

def exchange : AuditExchange where
  minutes := TwentyHours.history
  hours := ⟨[], List.Pairwise.nil, by simp, by simp⟩

def gap : GapRecord := ⟨0, -3600000, 3600000, 1⟩

theorem outcomes : exchange.outcomesOf "BTCUSDT" gap = [(0, .fullyRecoverable)] := by
  decide +kernel

/-- A run during which every request fails, which leaves the hour unresolved. -/
theorem exists_failed_run : ∃ trace result,
    AuditRun ⟨"BTCUSDT", 1, 1⟩ (some []) [⟨gap, some trace, result⟩] (some [(gap, result)]) ∧
      Unanswered trace ∧ result.outcomes = [(0, .unresolved)] := by
  rcases exists_failing_run (analyzeGap "BTCUSDT" 1 1 gap) [] with ⟨result, trace, hrun, hnone⟩
  rw [List.nil_append] at hrun
  have hminutes : ∀ t, ¬Confirmed trace t := fun t => not_confirmed_of_other (hnone "1m")
  have hlists : ListsMinutes exchange.minutes trace := fun request page hmem =>
    absurd hmem (hnone "1m" request page)
  rcases analyzeGap_spec hrun hlists with ⟨reachedUpToMs, hupTo, rfl⟩
  refine ⟨trace, _, .round (.analyzed rfl hrun) (.done _), hnone, ?_⟩
  -- the fetch has not even reached the hour
  have hreached : ¬0 < reachedUpToMs := by
    intro hlt
    have hmem : (0 : ℤ) ∈ missingHoursForGap gap := by decide +kernel
    exact hminutes 0 ((hupTo.confirmed 0 hmem (by decide) 0 le_rfl (by decide)).2 hlt)
  have hhours : missingHoursForGap gap = [0] := by decide +kernel
  simp [GapForensicResult.outcomes, analyzeOneGap, hhours, analyzeHour, evidenceUpTo, hreached]

/-- What a healthy run over the gap finds with a checkpoint that has nothing of it, or without one. -/
theorem healthy_outcomes {c c' : Option GapAuditCheckpoint} {rounds : List AuditRound}
    (h : HealthyRun exchange ⟨"BTCUSDT", 1, 1⟩ c rounds c') (hgaps : rounds.map AuditRound.gap = [gap])
    (hnew : (c.bind fun c => c.get? gap) = none) :
    outcomesOfRounds rounds = [[(0, .fullyRecoverable)]] := by
  rw [h.outcomes, hgaps]
  simp [shownOutcomes, hnew, outcomes]

end OneHour

/-- A healthy audit that is run again. -/
theorem resumed_audit_agrees_again :
    ∃ earlier resumed uninterrupted : List AuditRound, ∃ checkpoint : GapAuditCheckpoint,
      ∃ c c' : Option GapAuditCheckpoint,
      HealthyRun OneHour.exchange ⟨"BTCUSDT", 1, 1⟩ (some []) earlier (some checkpoint) ∧
      earlier.map AuditRound.gap = [OneHour.gap] ∧
      HealthyRun OneHour.exchange ⟨"BTCUSDT", 1, 1⟩ (some checkpoint) resumed c ∧
      resumed.map AuditRound.gap = [OneHour.gap] ∧
      HealthyRun OneHour.exchange ⟨"BTCUSDT", 1, 1⟩ none uninterrupted c' ∧
      uninterrupted.map AuditRound.gap = [OneHour.gap] ∧
      outcomesOfRounds resumed = outcomesOfRounds uninterrupted := by
  rcases exists_healthyRun OneHour.exchange ⟨"BTCUSDT", 1, 1⟩ one_pos one_pos [OneHour.gap]
    (some []) with ⟨earlier, c₁, hearlier, hgaps₁⟩
  rcases hearlier.run.recorded hearlier.truthful with ⟨checkpoint, rfl, -⟩
  rcases exists_healthyRun OneHour.exchange ⟨"BTCUSDT", 1, 1⟩ one_pos one_pos [OneHour.gap]
    (some checkpoint) with ⟨resumed, c, hresumed, hgaps⟩
  rcases exists_healthyRun OneHour.exchange ⟨"BTCUSDT", 1, 1⟩ one_pos one_pos [OneHour.gap]
    none with ⟨uninterrupted, c', huninterrupted, hgaps'⟩
  refine ⟨earlier, resumed, uninterrupted, checkpoint, c, c', hearlier, hgaps₁, hresumed, hgaps,
    huninterrupted, hgaps', ?_⟩
  apply (resumed_audit_agrees_iff OneHour.exchange "BTCUSDT" [OneHour.gap] hearlier.run
    hearlier.truthful hresumed hgaps huninterrupted hgaps').2
  refine ⟨by simp [Dict.get?], fun r hr _ trace hasked hour hmem hcutoff => ?_⟩
  have hrun := hearlier.run.analysis hr hasked
  exact (hearlier.unhindered r hr trace hasked).unharmed (hearlier.truthful r hr trace hasked)
    one_pos hrun hmem hcutoff

/-- Every request of the first run failed and the hour was left unresolved.  The healthy run after it
reuses that, though the exchange has all sixty minutes of the hour. -/
theorem held_up_gap_is_not_retried :
    ∃ earlier resumed uninterrupted : List AuditRound, ∃ checkpoint : GapAuditCheckpoint,
      ∃ c c' : Option GapAuditCheckpoint,
      AuditRun ⟨"BTCUSDT", 1, 1⟩ (some []) earlier (some checkpoint) ∧
      earlier.map AuditRound.gap = [OneHour.gap] ∧
      (∀ r ∈ earlier, ∀ trace ∈ r.asked, Unanswered trace) ∧
      outcomesOfRounds earlier = [[(0, .unresolved)]] ∧
      HealthyRun OneHour.exchange ⟨"BTCUSDT", 1, 1⟩ (some checkpoint) resumed c ∧
      resumed.map AuditRound.gap = [OneHour.gap] ∧
      outcomesOfRounds resumed = [[(0, .unresolved)]] ∧
      HealthyRun OneHour.exchange ⟨"BTCUSDT", 1, 1⟩ none uninterrupted c' ∧
      uninterrupted.map AuditRound.gap = [OneHour.gap] ∧
      outcomesOfRounds uninterrupted = [[(0, .fullyRecoverable)]] := by
  rcases OneHour.exists_failed_run with ⟨trace, result, hrun, hnone, houtcomes⟩
  rcases exists_healthyRun OneHour.exchange ⟨"BTCUSDT", 1, 1⟩ one_pos one_pos [OneHour.gap]
    (some [(OneHour.gap, result)]) with ⟨resumed, c, hresumed, hgaps⟩
  rcases exists_healthyRun OneHour.exchange ⟨"BTCUSDT", 1, 1⟩ one_pos one_pos [OneHour.gap]
    none with ⟨uninterrupted, c', huninterrupted, hgaps'⟩
  refine ⟨_, resumed, uninterrupted, _, c, c', hrun, rfl, ?_, ?_, hresumed, hgaps, ?_,
    huninterrupted, hgaps', OneHour.healthy_outcomes huninterrupted hgaps' rfl⟩
  · rintro r hmem trace' hasked
    cases List.mem_singleton.1 hmem
    cases hasked
    exact hnone
  · simp [outcomesOfRounds, houtcomes]
  · -- the recorded result is reused
    have hcached : Dict.get? [(OneHour.gap, result)] OneHour.gap = some result := by
      simp [Dict.get?]
    rw [hresumed.outcomes, hgaps]
    simp [shownOutcomes, hcached, houtcomes]

end TradingAgent
