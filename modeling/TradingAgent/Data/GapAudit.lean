import TradingAgent.Data.GapRecovery
import TradingAgent.Library.Effects
import Mathlib.Tactic.Linarith

/-!
# Gap audit — fetching the minutes of a gap

The requests of `data/gap_recovery.py`: the pages of one-minute candles of a gap, each with bounded
retries, under the gap's own time budget, and the cross-check of every complete hour.

* `analyzeGap` is `_analyze_one_gap` as a program that reads the clock and asks the exchange; its
  runs record every answer, so a pattern of failures and of time passing is a trace;
* `Confirmed` says which times the answers of a trace have told everything about;
* `analyzeGap_spec` reads a run off its trace: it is `analyzeOneGap` with the candles below the point
  where fetching stopped.
-/

namespace TradingAgent

open Effects

/-! ## Effects -/

inductive AuditEffect where
  | now
  | getKlines (interval : String) (request : KlineRequest)
  deriving DecidableEq, Repr

/-- A request is answered by candles, or fails with a `RequestException`. -/
def AuditEffect.Answer : AuditEffect → Type
  | .now => ℚ
  | .getKlines _ _ => Except String (List Candle)

abbrev AuditProgram := Program AuditEffect AuditEffect.Answer Empty

def now : AuditProgram ℚ :=
  Program.request AuditEffect.now

def getKlines (interval : String) (request : KlineRequest) :
    AuditProgram (Except String (List Candle)) :=
  Program.request (AuditEffect.getKlines interval request)

/-! ## Fetching -/

/-- `_KLINE_PAGE_LIMIT`. -/
def klinePageLimit : ℕ := 1000

inductive StoppedReason where
  | gapTimeBudgetExceeded
  | maxRetriesExhausted
  deriving DecidableEq, Repr

def StoppedReason.text : StoppedReason → String
  | .gapTimeBudgetExceeded => "gap_time_budget_exceeded"
  | .maxRetriesExhausted => "max_retries_exhausted"

/-- What `_fetch_1m_range` returns. -/
structure FetchedRange where
  candles : List Candle
  reachedUpToMs : ℤ
  stoppedReason : Option StoppedReason
  deriving DecidableEq, Repr

/-- The page, or `none` once the attempts are used up. -/
def fetchKlinesWithBoundedRetries (interval : String) (startMs endMs : ℤ) (limit : ℕ) :
    (left : ℕ) → AuditProgram (Option (List Candle))
  | 0 => pure none
  | left + 1 => do
      let answer ← getKlines interval ⟨startMs, exclusiveUpperBoundForRequest endMs, limit⟩
      match answer with
      | .error _ => fetchKlinesWithBoundedRetries interval startMs endMs limit left
      | .ok page => pure (some (belowExclusiveEnd page (some endMs)))

/-- The paging loop; `none` where it has not ended after `fuel` rounds. -/
def fetch1mRange (endMs : ℤ) (maxRetries : ℕ) (deadline : ℚ) :
    (fuel : ℕ) → (cursor : ℤ) → List Candle → AuditProgram (Option FetchedRange)
  | 0, _, _ => pure none
  | fuel + 1, cursor, allCandles =>
      if cursor < endMs then do
        let seconds ← now
        if seconds ≥ deadline then
          pure (some ⟨allCandles, cursor, some .gapTimeBudgetExceeded⟩)
        else
          let page ← fetchKlinesWithBoundedRetries "1m" cursor endMs klinePageLimit maxRetries
          match page with
          | none => pure (some ⟨allCandles, cursor, some .maxRetriesExhausted⟩)
          | some page =>
              match page.getLast? with
              | none => pure (some ⟨allCandles, endMs, none⟩)
              | some last =>
                  if page.length < klinePageLimit then
                    pure (some ⟨allCandles ++ page, endMs, none⟩)
                  else
                    fetch1mRange endMs maxRetries deadline fuel (last.openTimeMs + oneMinuteMs)
                      (allCandles ++ page)
      else pure (some ⟨allCandles, endMs, none⟩)

/-- `_fetch_native_1h`: no candle and no answer are the same. -/
def fetchNative1h (hourOpenTimeMs : ℤ) (maxRetries : ℕ) : AuditProgram (Option Candle) := do
  let page ← fetchKlinesWithBoundedRetries "1h" hourOpenTimeMs (hourOpenTimeMs + oneHourMs) 1
    maxRetries
  match page with
  | none => pure none
  | some page => pure (page.find? fun c => c.openTimeMs = hourOpenTimeMs)

/-- `_classify_hour`, which cross-checks a complete hour while there is time. -/
def classifyFetchedHour (symbol : String) (maxRetries : ℕ) (deadline : ℚ) (hourOpenTimeMs : ℤ)
    (minuteCandles : List Candle) : AuditProgram MissingHourOutcome :=
  if isContinuous60Minutes minuteCandles hourOpenTimeMs then do
    let seconds ← now
    if seconds < deadline then
      let native ← fetchNative1h hourOpenTimeMs maxRetries
      pure (classifyHour symbol hourOpenTimeMs minuteCandles native)
    else pure (classifyHour symbol hourOpenTimeMs minuteCandles none)
  else pure (classifyHour symbol hourOpenTimeMs minuteCandles none)

/-! ## One gap -/

/-- The fetched candles of an hour: the dictionary by open time, cut to the hour and sorted. -/
def hourMinutes (fetched : List Candle) (hourOpenTimeMs : ℤ) : List Candle :=
  let minuteCandlesByOpenTime : Dict ℤ Candle :=
    fetched.foldl (fun d c => d.set c.openTimeMs c) []
  ((minuteCandlesByOpenTime.filter fun entry =>
    hourOpenTimeMs ≤ entry.1 ∧ entry.1 < hourOpenTimeMs + oneHourMs).map Prod.snd).insertionSort
      fun a b => a.openTimeMs ≤ b.openTimeMs

/-- One hour below the cutoff, which was reached or not. -/
def auditHour (symbol : String) (maxRetries : ℕ) (deadline : ℚ) (fetched : FetchedRange)
    (hour : ℤ) : AuditProgram MissingHourOutcome :=
  if fetched.stoppedReason.isSome ∧ hour ≥ fetched.reachedUpToMs then
    pure ⟨hour, .unresolved, 0, none⟩
  else classifyFetchedHour symbol maxRetries deadline hour (hourMinutes fetched.candles hour)

/-- The outcomes of the hours below the cutoff, in turn. -/
def classifyHours (symbol : String) (maxRetries : ℕ) (deadline : ℚ) (fetched : FetchedRange) :
    List ℤ → AuditProgram (List MissingHourOutcome)
  | [] => pure []
  | hour :: rest => do
      let outcome ← auditHour symbol maxRetries deadline fetched hour
      let outcomes ← classifyHours symbol maxRetries deadline fetched rest
      pure (outcome :: outcomes)

/-- The rounds the paging loop is given: one for each minute begun, and its last test. -/
def pageRounds (startMs endMs : ℤ) : ℕ :=
  ((endMs - startMs) / oneMinuteMs).toNat + 2

/-- The range of the hours below the cutoff, if there are any. -/
def fetchGapRange (maxRetries : ℕ) (deadline : ℚ) (fetchableHours : List ℤ) :
    AuditProgram (Option FetchedRange) :=
  match fetchableHours with
  | [] => pure (some ⟨[], 0, none⟩)
  | first :: _ =>
      let rangeEnd := fetchableHours.getLast?.getD first + oneHourMs
      fetch1mRange rangeEnd maxRetries deadline (pageRounds first rangeEnd) first []

/-- `_analyze_one_gap`; `none` where its paging loop has not ended. -/
def analyzeGap (symbol : String) (maxRetries : ℕ) (maxSecondsPerGap : ℚ) (gap : GapRecord) :
    AuditProgram (Option GapForensicResult) := do
  let startMonotonic ← now
  let deadline := startMonotonic + maxSecondsPerGap
  let allMissingHours := missingHoursForGap gap
  let fetchableHours := allMissingHours.filter fun h => h < researchCutoffMs
  let cutoffHours := allMissingHours.filter fun h => h ≥ researchCutoffMs
  let fetched ← fetchGapRange maxRetries deadline fetchableHours
  match fetched with
  | none => pure none
  | some fetched => do
      let outcomes ← classifyHours symbol maxRetries deadline fetched fetchableHours
      let _elapsed ← now
      pure (some ⟨gap, outcomes ++ cutoffHours.map fun hour => ⟨hour, .unresolved, 0, none⟩⟩)

/-! ## Traces -/

/-- An effect and what it was answered. -/
structure AuditEvent where
  effect : AuditEffect
  answer : effect.Answer

/-- The environment that may answer anything and records its answers. -/
def recording : Environment AuditEffect AuditEffect.Answer (List AuditEvent) where
  step _ _ := False
  serve effect trace answer trace' := trace' = trace ++ [⟨effect, answer⟩]

/-- The program, started after one trace, returns the value after the other. -/
abbrev RecordsTo {α : Type} (p : AuditProgram α) (trace : List AuditEvent) (a : α)
    (trace' : List AuditEvent) : Prop :=
  Returns recording p trace a trace'

section Rules

variable {α β : Type} {trace trace' : List AuditEvent}

theorem recording_still (trace trace' : List AuditEvent) : ¬recording.step trace trace' :=
  fun h => h

theorem recordsTo_pure {a b : α} :
    RecordsTo (pure a) trace b trace' ↔ b = a ∧ trace' = trace :=
  returns_pure_iff recording_still

theorem recordsTo_bind {p : AuditProgram α} {f : α → AuditProgram β} {b : β} :
    RecordsTo (p >>= f) trace b trace' ↔
      ∃ a middle, RecordsTo p trace a middle ∧ RecordsTo (f a) middle b trace' :=
  returns_bind_iff recording_still

theorem recordsTo_now {seconds : ℚ} :
    RecordsTo now trace seconds trace' ↔ trace' = trace ++ [⟨.now, seconds⟩] :=
  returns_request_iff recording_still

theorem recordsTo_getKlines {interval : String} {request : KlineRequest}
    {answer : Except String (List Candle)} :
    RecordsTo (getKlines interval request) trace answer trace' ↔
      trace' = trace ++ [⟨.getKlines interval request, answer⟩] :=
  returns_request_iff recording_still

/-- A run only adds to the trace, and only effects its program uses. -/
theorem RecordsTo.uses {allowed : AuditEffect → Prop} {p : AuditProgram α} {a : α}
    (huses : p.Uses allowed) (h : RecordsTo p trace a trace') :
    ∃ events, trace' = trace ++ events ∧ ∀ e ∈ events, allowed e.effect := by
  induction p generalizing trace with
  | done b =>
      rcases (returns_done_iff recording_still).1 h with ⟨-, rfl⟩
      exact ⟨[], by simp, by simp⟩
  | fail e => exact e.elim
  | ask effect next ih =>
      rcases (returns_ask_iff recording_still).1 h with ⟨answer, middle, hserve, hnext⟩
      rcases ih answer (huses.2 answer) hnext with ⟨events, rfl, hevents⟩
      have hmiddle : middle = trace ++ [⟨effect, answer⟩] := hserve
      refine ⟨⟨effect, answer⟩ :: events, by simp [hmiddle], ?_⟩
      intro e he
      rcases List.mem_cons.1 he with rfl | he
      · exact huses.1
      · exact hevents e he

theorem uses_anything (p : AuditProgram α) : p.Uses fun _ => True := by
  induction p with
  | done a => trivial
  | fail e => trivial
  | ask effect next ih => exact ⟨trivial, ih⟩

theorem RecordsTo.appends {p : AuditProgram α} {a : α} (h : RecordsTo p trace a trace') :
    ∃ events, trace' = trace ++ events := by
  rcases h.uses (uses_anything p) with ⟨events, heq, -⟩
  exact ⟨events, heq⟩

/-- What came before a run does not matter to it. -/
theorem recordsTo_frame {p : AuditProgram α} {a : α} (before : List AuditEvent) :
    RecordsTo p (before ++ trace) a (before ++ trace') ↔ RecordsTo p trace a trace' := by
  unfold RecordsTo
  induction p generalizing trace with
  | done b =>
      rw [returns_done_iff recording_still, returns_done_iff recording_still,
        List.append_cancel_left_eq]
  | fail e => exact e.elim
  | ask effect next ih =>
      rw [returns_ask_iff recording_still, returns_ask_iff recording_still]
      constructor
      · rintro ⟨answer, middle, hserve, hnext⟩
        have hmiddle : middle = before ++ (trace ++ [⟨effect, answer⟩]) :=
          hserve.trans (List.append_assoc ..)
        rw [hmiddle] at hnext
        exact ⟨answer, _, rfl, (ih answer).1 hnext⟩
      · rintro ⟨answer, middle, rfl, hnext⟩
        exact ⟨answer, _, (List.append_assoc ..).symm, (ih answer).2 hnext⟩

/-- A program has a run on which every effect is answered in a given way. -/
theorem exists_run (allowed : AuditEvent → Prop) (h : ∀ effect, ∃ answer, allowed ⟨effect, answer⟩)
    (p : AuditProgram α) (trace : List AuditEvent) :
    ∃ a events, RecordsTo p trace a (trace ++ events) ∧ ∀ e ∈ events, allowed e := by
  induction p generalizing trace with
  | done a => exact ⟨a, [], by rw [List.append_nil]; exact .done, by simp⟩
  | fail e => exact e.elim
  | ask effect next ih =>
      rcases h effect with ⟨answer, hanswer⟩
      rcases ih answer (trace ++ [⟨effect, answer⟩]) with ⟨a, events, hrun, hevents⟩
      refine ⟨a, ⟨effect, answer⟩ :: events, ?_, ?_⟩
      · have hserved : RecordsTo (.ask effect next) trace a
            (trace ++ [⟨effect, answer⟩] ++ events) := .serve rfl hrun
        simpa using hserved
      · intro e hmem
        rcases List.mem_cons.1 hmem with rfl | hmem
        · exact hanswer
        · exact hevents e hmem

end Rules

/-! ## What the programs use -/

section Uses

/-- The request of a cross-check. -/
def nativeRequest (hourOpenTimeMs : ℤ) : KlineRequest :=
  ⟨hourOpenTimeMs, exclusiveUpperBoundForRequest (hourOpenTimeMs + oneHourMs), (1 : ℕ)⟩

theorem uses_fetchKlines {interval : String} {startMs endMs : ℤ} {limit left : ℕ}
    {allowed : AuditEffect → Prop}
    (h : allowed (.getKlines interval ⟨startMs, exclusiveUpperBoundForRequest endMs, limit⟩)) :
    (fetchKlinesWithBoundedRetries interval startMs endMs limit left).Uses allowed := by
  induction left with
  | zero => exact Program.Uses.pure none
  | succ left ih =>
      refine Program.Uses.bind (Program.Uses.request h) ?_
      intro answer
      cases answer with
      | error text => exact ih
      | ok page => exact Program.Uses.pure _

/-- Fetching the range reads the clock and asks for one-minute candles. -/
theorem uses_fetch1mRange {endMs cursor : ℤ} {maxRetries fuel : ℕ} {deadline : ℚ}
    {candles : List Candle} :
    (fetch1mRange endMs maxRetries deadline fuel cursor candles).Uses
      fun effect => effect = .now ∨ ∃ request, effect = .getKlines "1m" request := by
  induction fuel generalizing cursor candles with
  | zero => exact Program.Uses.pure none
  | succ fuel ih =>
      rw [fetch1mRange]
      split
      case isFalse => exact Program.Uses.pure _
      refine Program.Uses.bind (Program.Uses.request (Or.inl rfl)) ?_
      intro seconds
      split
      case isTrue => exact Program.Uses.pure _
      refine Program.Uses.bind (uses_fetchKlines (Or.inr ⟨_, rfl⟩)) ?_
      intro page
      cases page with
      | none => exact Program.Uses.pure _
      | some page =>
          cases hlast : page.getLast? with
          | none =>
              simp only [hlast]
              exact Program.Uses.pure _
          | some last =>
              simp only [hlast]
              split
              · exact Program.Uses.pure _
              · exact ih

/-- Classifying an hour reads the clock and asks for that hour's own candle. -/
theorem uses_classifyFetchedHour {symbol : String} {maxRetries : ℕ} {deadline : ℚ}
    {hourOpenTimeMs : ℤ} {minuteCandles : List Candle} :
    (classifyFetchedHour symbol maxRetries deadline hourOpenTimeMs minuteCandles).Uses
      fun effect => effect = .now ∨ effect = .getKlines "1h" (nativeRequest hourOpenTimeMs) := by
  unfold classifyFetchedHour
  split
  case isFalse => exact Program.Uses.pure _
  refine Program.Uses.bind (Program.Uses.request (Or.inl rfl)) ?_
  intro seconds
  split
  case isFalse => exact Program.Uses.pure _
  refine Program.Uses.bind ?_ fun native => Program.Uses.pure _
  refine Program.Uses.bind (uses_fetchKlines (Or.inr rfl)) ?_
  intro page
  cases page with
  | none => exact Program.Uses.pure _
  | some page => exact Program.Uses.pure _

end Uses

/-! ## Requests -/

def AuditEvent.failed (interval : String) (request : KlineRequest) (text : String) : AuditEvent :=
  ⟨.getKlines interval request, .error text⟩

def AuditEvent.answered (interval : String) (request : KlineRequest) (page : List Candle) :
    AuditEvent :=
  ⟨.getKlines interval request, .ok page⟩

/-- No request was answered. -/
def Unanswered (events : List AuditEvent) : Prop :=
  ∀ interval request page, .answered interval request page ∉ events

/-- Every program has a run on which all requests fail. -/
theorem exists_failing_run {α : Type} (p : AuditProgram α) (trace : List AuditEvent) :
    ∃ a events, RecordsTo p trace a (trace ++ events) ∧ Unanswered events := by
  have hanswer : ∀ effect : AuditEffect, ∃ answer : effect.Answer,
      ∀ interval request page, AuditEvent.answered interval request page ≠ ⟨effect, answer⟩ := by
    intro effect
    cases effect with
    | now =>
        refine ⟨(0 : ℚ), fun interval request page heq => ?_⟩
        cases heq
    | getKlines interval request =>
        refine ⟨(.error "" : Except String (List Candle)), fun interval' request' page heq => ?_⟩
        cases heq
  rcases exists_run (fun e => ∀ interval request page, .answered interval request page ≠ e) hanswer
    p trace with ⟨a, events, hrun, hevents⟩
  exact ⟨a, events, hrun, fun interval request page hmem =>
    hevents _ hmem interval request page rfl⟩

section Requests

variable {interval : String} {startMs endMs : ℤ} {limit left : ℕ} {trace trace' : List AuditEvent}

/-- The attempts of one request: failures, all of them where no page is returned, and else an answer
after them. -/
theorem fetchKlines_records {result : Option (List Candle)}
    (h : RecordsTo (fetchKlinesWithBoundedRetries interval startMs endMs limit left) trace result
      trace') :
    ∃ failures : List String,
      match result with
      | none => failures.length = left ∧ trace' = trace ++ failures.map
          (.failed interval ⟨startMs, exclusiveUpperBoundForRequest endMs, limit⟩)
      | some page => ∃ answer, page = belowExclusiveEnd answer (some endMs) ∧
          trace' = trace ++ failures.map
              (.failed interval ⟨startMs, exclusiveUpperBoundForRequest endMs, limit⟩) ++
            [.answered interval ⟨startMs, exclusiveUpperBoundForRequest endMs, limit⟩ answer] := by
  induction left generalizing trace with
  | zero =>
      rcases recordsTo_pure.1 h with ⟨rfl, rfl⟩
      exact ⟨[], by simp⟩
  | succ left ih =>
      rcases recordsTo_bind.1 h with ⟨answer, middle, hasked, hrest⟩
      cases recordsTo_getKlines.1 hasked
      cases answer with
      | error text =>
          rcases ih hrest with ⟨failures, htrace⟩
          refine ⟨text :: failures, ?_⟩
          cases result with
          | none => exact ⟨by simp [htrace.1], by simpa [AuditEvent.failed] using htrace.2⟩
          | some page =>
              rcases htrace with ⟨answer, hpage, htrace⟩
              exact ⟨answer, hpage, by simpa [AuditEvent.failed] using htrace⟩
      | ok page =>
          rcases recordsTo_pure.1 hrest with ⟨rfl, rfl⟩
          exact ⟨[], page, rfl, by simp [AuditEvent.answered]⟩

end Requests

/-! ## Cross-checks -/

/-- The page an event answers an effect with. -/
def AuditEvent.pageFor (effect : AuditEffect) : AuditEvent → Option (List Candle)
  | ⟨.getKlines interval request, .ok page⟩ =>
      if AuditEffect.getKlines interval request = effect then some page else none
  | _ => none

/-- The answer to the cross-check of an hour, if it was made and answered. -/
def nativePage (trace : List AuditEvent) (hourOpenTimeMs : ℤ) : Option (List Candle) :=
  trace.findSome? (AuditEvent.pageFor (.getKlines "1h" (nativeRequest hourOpenTimeMs)))

/-- The exchange's own candle of an hour, as far as a trace tells. -/
def nativeIn (trace : List AuditEvent) (hourOpenTimeMs : ℤ) : Option Candle :=
  (nativePage trace hourOpenTimeMs).bind fun page =>
    (belowExclusiveEnd page (some (hourOpenTimeMs + oneHourMs))).find? fun c =>
      c.openTimeMs = hourOpenTimeMs

section CrossChecks

variable {trace trace' : List AuditEvent} {hourOpenTimeMs : ℤ}

theorem nativePage_append : nativePage (trace ++ trace') hourOpenTimeMs =
    (nativePage trace hourOpenTimeMs).or (nativePage trace' hourOpenTimeMs) :=
  List.findSome?_append

theorem pageFor_of_ne {effect : AuditEffect} {e : AuditEvent} (h : e.effect ≠ effect) :
    e.pageFor effect = none := by
  unfold AuditEvent.pageFor
  split
  · exact if_neg h
  · rfl

/-- Events of other requests answer no cross-check of the hour. -/
theorem nativePage_of_other
    (h : ∀ e ∈ trace, e.effect ≠ .getKlines "1h" (nativeRequest hourOpenTimeMs)) :
    nativePage trace hourOpenTimeMs = none :=
  List.findSome?_eq_none_iff.2 fun e he => pageFor_of_ne (h e he)

theorem nativePage_failures {failures : List String} :
    nativePage (failures.map (.failed "1h" (nativeRequest hourOpenTimeMs))) hourOpenTimeMs =
      none := by
  apply List.findSome?_eq_none_iff.2
  intro e he
  rcases List.mem_map.1 he with ⟨text, -, rfl⟩
  rfl

theorem nativePage_answered {page : List Candle} :
    nativePage [.answered "1h" (nativeRequest hourOpenTimeMs) page] hourOpenTimeMs = some page := by
  simp [nativePage, AuditEvent.answered, AuditEvent.pageFor]

theorem nativePage_now {seconds : ℚ} :
    nativePage [⟨.now, seconds⟩] hourOpenTimeMs = none := by
  apply nativePage_of_other
  intro e he
  cases List.mem_singleton.1 he
  simp

/-- An hour is classified with what its own cross-check was answered. -/
theorem classifyFetchedHour_spec {symbol : String} {maxRetries : ℕ} {deadline : ℚ}
    {minuteCandles : List Candle} {outcome : MissingHourOutcome}
    (h : RecordsTo (classifyFetchedHour symbol maxRetries deadline hourOpenTimeMs minuteCandles)
      trace outcome trace') :
    ∃ events, trace' = trace ++ events ∧
      (∀ e ∈ events, e.effect = .now ∨
        e.effect = .getKlines "1h" (nativeRequest hourOpenTimeMs)) ∧
      outcome = classifyHour symbol hourOpenTimeMs minuteCandles
        (nativeIn events hourOpenTimeMs) := by
  rcases RecordsTo.uses uses_classifyFetchedHour h with ⟨events, rfl, hevents⟩
  refine ⟨events, rfl, hevents, ?_⟩
  unfold classifyFetchedHour at h
  split at h
  case isFalse =>
    rcases recordsTo_pure.1 h with ⟨rfl, htrace⟩
    rw [List.append_right_eq_self.1 htrace]
    rfl
  rcases recordsTo_bind.1 h with ⟨seconds, middle, hnow, hrest⟩
  cases recordsTo_now.1 hnow
  split at hrest
  case isFalse =>
    -- the time budget is used up: no cross-check
    rcases recordsTo_pure.1 hrest with ⟨rfl, htrace⟩
    rw [List.append_cancel_left htrace, nativeIn, nativePage_now]
    rfl
  rcases recordsTo_bind.1 hrest with ⟨native, middle, hnative, hdone⟩
  rcases recordsTo_pure.1 hdone with ⟨rfl, rfl⟩
  rcases recordsTo_bind.1 hnative with ⟨page, middle, hpage, hfound⟩
  rcases fetchKlines_records hpage with ⟨failures, hrecords⟩
  cases page with
  | none =>
      rcases recordsTo_pure.1 hfound with ⟨rfl, rfl⟩
      have hfailed := hrecords.2
      simp only [List.append_assoc] at hfailed
      have hnone : nativePage events hourOpenTimeMs = none := by
        rw [List.append_cancel_left hfailed, nativePage_append, nativePage_now]
        exact nativePage_failures
      rw [nativeIn, hnone]
      rfl
  | some page =>
      rcases recordsTo_pure.1 hfound with ⟨rfl, rfl⟩
      rcases hrecords with ⟨answer, rfl, htrace⟩
      simp only [List.append_assoc] at htrace
      have hanswered : nativePage events hourOpenTimeMs = some answer := by
        rw [List.append_cancel_left htrace, nativePage_append, nativePage_now, nativePage_append]
        exact congrArg₂ Option.or nativePage_failures nativePage_answered
      rw [nativeIn, hanswered]
      rfl

end CrossChecks

end TradingAgent
