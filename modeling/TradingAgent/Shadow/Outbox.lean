import TradingAgent.Library.KeyedTable
import Mathlib.Data.List.Sort
import Mathlib.Logic.Relation

/-!
# Outbox — delivery of the shadow notifications

`shadow/notifications/sender.py` and `telegram_client.py` over the outbox table of
`shadow/store.py`.  The shadow cycle (one at a time, under its lock) flushes the pending rows; a
`notification-retry` process, which takes no lock, sends one row again.  Either may stop at any
point, and a row is sent outside any transaction.

* `OutboxStep` is every step of the two processes;
* `Orderly` steps keep the processes apart, and `OutboxInv` is the invariant of their runs;
* `outbox_never_resends` is the result about those runs.
-/

namespace TradingAgent

/-! ## Sending one message -/

inductive SendOutcome where
  | sent
  | ambiguous
  | failed
  deriving DecidableEq, Repr

/-- What one POST comes to: an answer (its status, and whether the body says `ok`, where it can be
parsed), a read timeout, a connection failure, or any other exception of the transport. -/
inductive PostOutcome where
  | response (statusCode : ℤ) (accepted : Option Bool) (text : String)
  | readTimeout (text : String)
  | connectionError (text : String)
  | requestError (text : String)
  deriving DecidableEq, Repr

structure SendResult where
  outcome : SendOutcome
  attempts : ℕ
  safeError : Option String
  deriving DecidableEq, Repr

def redactedText : String := "***REDACTED***"

/-- `_redact`. -/
def redact (text secret : String) : String :=
  if secret = "" then text else text.replace secret redactedText

/-- `_classify_response`. -/
def classifyResponse (botToken : String) (statusCode : ℤ) (accepted : Option Bool) (text : String)
    (attempts : ℕ) : SendResult :=
  if statusCode = 200 then
    match accepted with
    | none => ⟨.failed, attempts, some "malformed 200 response body"⟩
    | some true => ⟨.sent, attempts, none⟩
    | some false =>
        ⟨.failed, attempts, some (redact s!"Telegram rejected the message: {text}" botToken)⟩
  else
    let shown := String.ofList (text.toList.take 200)
    ⟨.failed, attempts, some (redact s!"HTTP {statusCode}: {shown}" botToken)⟩

/-- The attempts from number `attempt` on, `left` of which remain. -/
def sendAttempts (botToken : String) (posts : ℕ → PostOutcome) :
    (left attempt : ℕ) → Option String → SendResult
  | 0, attempt, lastSafeError => ⟨.failed, attempt, lastSafeError⟩
  | left + 1, attempt, _ =>
      let attempts := attempt + 1
      match posts attempt with
      | .readTimeout text => ⟨.ambiguous, attempts, some (redact text botToken)⟩
      | .connectionError text => sendAttempts botToken posts left attempts (some (redact text botToken))
      | .requestError text => ⟨.ambiguous, attempts, some (redact text botToken)⟩
      | .response statusCode accepted text =>
          classifyResponse botToken statusCode accepted text attempts

def defaultMaxSafeRetries : ℕ := 3

def sendMessage (botToken : String) (posts : ℕ → PostOutcome) : SendResult :=
  sendAttempts botToken posts defaultMaxSafeRetries 0 none

/-! ## The outbox -/

inductive NotificationStatus where
  | pending
  | sent
  | ambiguous
  | failed
  deriving DecidableEq, Repr

/-- `_OUTCOME_TO_STATUS`. -/
def SendOutcome.status : SendOutcome → NotificationStatus
  | .sent => .sent
  | .ambiguous => .ambiguous
  | .failed => .failed

structure NotificationEvent where
  eventId : String
  eventType : String
  createdAtMs : ℤ
  payloadText : String
  status : NotificationStatus := .pending
  attemptCount : ℕ := 0
  lastAttemptAtMs : Option ℤ := none
  lastError : Option String := none
  sentAtMs : Option ℤ := none
  deriving DecidableEq, Repr

abbrev Outbox := List NotificationEvent

namespace Outbox

/-- `_insert_notification_event_no_commit` for every event, in one transaction. -/
def enqueue (outbox : Outbox) (events : List NotificationEvent) : Outbox :=
  KeyedTable.insertAll NotificationEvent.eventId outbox events

def getNotification (outbox : Outbox) (eventId : String) : Option NotificationEvent :=
  KeyedTable.lookup NotificationEvent.eventId outbox eventId

/-- `list_notifications(status=PENDING)`, oldest first. -/
def listPending (outbox : Outbox) : List NotificationEvent :=
  (outbox.filter fun event => event.status = .pending).insertionSort
    fun a b => a.createdAtMs ≤ b.createdAtMs

/-- What `update_notification_status` writes after an attempt; `event` is the row as it was read. -/
def recordAttempt (event : NotificationEvent) (result : SendResult) (nowMs : ℤ)
    (row : NotificationEvent) : NotificationEvent :=
  { row with
    status := result.outcome.status
    attemptCount := event.attemptCount + result.attempts
    lastAttemptAtMs := some nowMs
    lastError := result.safeError
    sentAtMs := if result.outcome = .sent then some nowMs else none }

def updateNotificationStatus (outbox : Outbox) (event : NotificationEvent) (result : SendResult)
    (nowMs : ℤ) : Outbox :=
  KeyedTable.update NotificationEvent.eventId outbox event.eventId
    (recordAttempt event result nowMs)

end Outbox

/-! ## The two processes -/

/-- Where a process is with one event: its request is in flight, or answered and not yet
recorded. -/
inductive Delivery where
  | posting (event : NotificationEvent)
  | answered (event : NotificationEvent) (result : SendResult) (nowMs : ℤ)
  deriving DecidableEq, Repr

def Delivery.event : Delivery → NotificationEvent
  | .posting event => event
  | .answered event _ _ => event

/-- `flush_pending_notifications`: the delivery under way, and the rest of the list it has read. -/
structure FlushState where
  current : Option Delivery
  rest : List NotificationEvent
  deriving DecidableEq, Repr

/-- `retry_notification`: the row it has read, before or after its request is sent. -/
inductive RetryState where
  | read (event : NotificationEvent)
  | delivering (delivery : Delivery)
  deriving DecidableEq, Repr

def RetryState.event : RetryState → NotificationEvent
  | .read event => event
  | .delivering delivery => delivery.event

structure OutboxWorld where
  outbox : Outbox
  flush : Option FlushState
  retry : Option RetryState
  /-- The events of which a request may have been delivered: it was answered `SENT` or `AMBIGUOUS`,
  or was in flight when its process stopped. -/
  maybeDelivered : List String
  deriving DecidableEq, Repr

/-- The ids an answer adds to `maybeDelivered`. -/
def deliveredBy (event : NotificationEvent) (result : SendResult) : List String :=
  if result.outcome = .failed then [] else [event.eventId]

/-- The ids a process that stops adds to `maybeDelivered`. -/
def inFlight : Option Delivery → List String
  | some (.posting event) => [event.eventId]
  | _ => []

def RetryState.delivery : RetryState → Option Delivery
  | .read _ => none
  | .delivering delivery => some delivery

/-- The steps, by what they do. -/
inductive OutboxAction where
  | enqueue (events : List NotificationEvent)
  | flushStart
  | flushSend (event : NotificationEvent)
  | flushAnswer
  | flushRecord
  | flushStop
  | retryRead (event : NotificationEvent)
  | retrySend
  | retryAnswer
  | retryRecord
  | retryStop

/-- One step of the shadow cycle's process, of the retry process, or of neither. -/
inductive OutboxStep (botToken : String) : OutboxWorld → OutboxAction → OutboxWorld → Prop where
  | enqueue {w : OutboxWorld} {events : List NotificationEvent} :
      (∀ event ∈ events, event.status = .pending) →
        OutboxStep botToken w (.enqueue events) { w with outbox := w.outbox.enqueue events }
  | flushStart {w : OutboxWorld} : w.flush = none →
      OutboxStep botToken w .flushStart { w with flush := some ⟨none, w.outbox.listPending⟩ }
  | flushSend {w : OutboxWorld} {event : NotificationEvent} {rest : List NotificationEvent} :
      w.flush = some ⟨none, event :: rest⟩ →
        OutboxStep botToken w (.flushSend event)
          { w with flush := some ⟨some (.posting event), rest⟩ }
  | flushAnswer {w : OutboxWorld} {event : NotificationEvent} {rest : List NotificationEvent}
      (posts : ℕ → PostOutcome) (nowMs : ℤ) :
      w.flush = some ⟨some (.posting event), rest⟩ →
        OutboxStep botToken w .flushAnswer { w with
          flush := some ⟨some (.answered event (sendMessage botToken posts) nowMs), rest⟩
          maybeDelivered := deliveredBy event (sendMessage botToken posts) ++ w.maybeDelivered }
  | flushRecord {w : OutboxWorld} {event : NotificationEvent} {result : SendResult} {nowMs : ℤ}
      {rest : List NotificationEvent} : w.flush = some ⟨some (.answered event result nowMs), rest⟩ →
        OutboxStep botToken w .flushRecord { w with
          outbox := w.outbox.updateNotificationStatus event result nowMs
          flush := some ⟨none, rest⟩ }
  /-- The flush ends: its list is done, an exception was caught, or its process crashed. -/
  | flushStop {w : OutboxWorld} {flush : FlushState} : w.flush = some flush →
      OutboxStep botToken w .flushStop { w with
        flush := none
        maybeDelivered := inFlight flush.current ++ w.maybeDelivered }
  | retryRead {w : OutboxWorld} {event : NotificationEvent} {eventId : String} : w.retry = none →
      w.outbox.getNotification eventId = some event → event.status ≠ .sent →
        OutboxStep botToken w (.retryRead event) { w with retry := some (.read event) }
  | retrySend {w : OutboxWorld} {event : NotificationEvent} : w.retry = some (.read event) →
      OutboxStep botToken w .retrySend { w with retry := some (.delivering (.posting event)) }
  | retryAnswer {w : OutboxWorld} {event : NotificationEvent} (posts : ℕ → PostOutcome)
      (nowMs : ℤ) : w.retry = some (.delivering (.posting event)) →
        OutboxStep botToken w .retryAnswer { w with
          retry := some (.delivering (.answered event (sendMessage botToken posts) nowMs))
          maybeDelivered := deliveredBy event (sendMessage botToken posts) ++ w.maybeDelivered }
  | retryRecord {w : OutboxWorld} {event : NotificationEvent} {result : SendResult} {nowMs : ℤ} :
      w.retry = some (.delivering (.answered event result nowMs)) →
        OutboxStep botToken w .retryRecord { w with
          outbox := w.outbox.updateNotificationStatus event result nowMs
          retry := none }
  /-- The retry process raises or crashes. -/
  | retryStop {w : OutboxWorld} {retry : RetryState} : w.retry = some retry →
      OutboxStep botToken w .retryStop { w with
        retry := none
        maybeDelivered := inFlight retry.delivery ++ w.maybeDelivered }

/-! ## Orderly steps -/

/-- Whether a delivery may have reached its receiver and is not recorded yet. -/
def unrecorded : Option Delivery → Bool
  | some (.posting _) => true
  | some (.answered _ result _) => decide (result.outcome ≠ .failed)
  | none => false

/-- The events a flush still holds in its own list. -/
def FlushState.held (flush : FlushState) : List NotificationEvent :=
  flush.current.toList.map Delivery.event ++ flush.rest

/-- A step that keeps the two processes apart and loses no answer: a flush does not start while the
retry of a pending row is under way, the retry does not read a row a flush holds, and neither stops
between the request of a pending row and the record of its answer. -/
def Orderly (w : OutboxWorld) : OutboxAction → Prop
  | .flushStart => ∀ retry, w.retry = some retry → retry.event.status ≠ .pending
  | .flushStop => ∀ flush, w.flush = some flush → unrecorded flush.current = false
  | .retryRead event => ∀ flush, w.flush = some flush →
      ∀ held ∈ flush.held, held.eventId ≠ event.eventId
  | .retryStop => ∀ retry, w.retry = some retry → retry.event.status = .pending →
      unrecorded retry.delivery = false
  | _ => True

def OrderlyStep (botToken : String) (w w' : OutboxWorld) : Prop :=
  ∃ action, Orderly w action ∧ OutboxStep botToken w action w'

/-! ## The invariant -/

/-- An answer that may have reached its receiver waits to be recorded. -/
def Awaits (delivery : Option Delivery) (eventId : String) : Prop :=
  ∃ event result nowMs, delivery = some (.answered event result nowMs) ∧
    event.eventId = eventId ∧ result.outcome ≠ .failed

structure OutboxInv (w : OutboxWorld) : Prop where
  keys : (w.outbox.map NotificationEvent.eventId).Nodup
  delivered : ∀ id ∈ w.maybeDelivered, ∃ row, w.outbox.getNotification id = some row ∧
    (row.status ≠ .pending ∨ Awaits (w.flush.bind FlushState.current) id ∨
      Awaits (w.retry.bind RetryState.delivery) id)
  heldNodup : ∀ flush, w.flush = some flush →
    (flush.held.map NotificationEvent.eventId).Nodup
  heldPending : ∀ flush, w.flush = some flush → ∀ event ∈ flush.held,
    ∃ row, w.outbox.getNotification event.eventId = some row ∧ row.status = .pending
  retried : ∀ retry, w.retry = some retry → retry.event.status ≠ .sent ∧
    ∃ row, w.outbox.getNotification retry.event.eventId = some row ∧
      row.status = retry.event.status
  apart : ∀ flush retry, w.flush = some flush → w.retry = some retry →
    ∀ event ∈ flush.held, event.eventId ≠ retry.event.eventId

namespace Outbox

variable {outbox : Outbox} {id : String} {row : NotificationEvent}

theorem getNotification_enqueue (h : outbox.getNotification id = some row)
    (events : List NotificationEvent) : (outbox.enqueue events).getNotification id = some row :=
  KeyedTable.lookup_insertAll_of_found h events

theorem recordAttempt_eventId (event : NotificationEvent) (result : SendResult) (nowMs : ℤ)
    (row : NotificationEvent) :
    (recordAttempt event result nowMs row).eventId = row.eventId := rfl

/-- An update writes its row and leaves the others. -/
theorem getNotification_update (event : NotificationEvent) (result : SendResult) (nowMs : ℤ)
    (id : String) : (outbox.updateNotificationStatus event result nowMs).getNotification id =
      if id = event.eventId then
        (outbox.getNotification event.eventId).map (recordAttempt event result nowMs)
      else outbox.getNotification id :=
  KeyedTable.lookup_update (recordAttempt_eventId event result nowMs) outbox event.eventId id

theorem map_eventId_update (event : NotificationEvent) (result : SendResult) (nowMs : ℤ) :
    (outbox.updateNotificationStatus event result nowMs).map NotificationEvent.eventId =
      outbox.map NotificationEvent.eventId :=
  KeyedTable.map_key_update (recordAttempt_eventId event result nowMs) outbox event.eventId

/-- What a flush lists are the pending rows. -/
theorem mem_listPending (hkeys : (outbox.map NotificationEvent.eventId).Nodup)
    {event : NotificationEvent} (h : event ∈ outbox.listPending) :
    outbox.getNotification event.eventId = some event ∧ event.status = .pending := by
  have hmem : event ∈ outbox ∧ event.status = .pending := by simpa [listPending] using h
  exact ⟨KeyedTable.lookup_eq_of_mem hkeys hmem.1, hmem.2⟩

theorem nodup_listPending (hkeys : (outbox.map NotificationEvent.eventId).Nodup) :
    (outbox.listPending.map NotificationEvent.eventId).Nodup := by
  have hperm := List.perm_insertionSort
    (fun a b : NotificationEvent => a.createdAtMs ≤ b.createdAtMs)
    (outbox.filter fun event => event.status = .pending)
  refine (hperm.map _).nodup_iff.2 ?_
  exact hkeys.sublist (List.filter_sublist.map _)

end Outbox

section Steps

variable {botToken : String} {w w' : OutboxWorld} {action : OutboxAction}

/-- The rows keep their status, and the deliveries keep waiting. -/
theorem OutboxInv.enqueue (h : OutboxInv w) (events : List NotificationEvent) :
    OutboxInv { w with outbox := w.outbox.enqueue events } := by
  refine
    { keys := KeyedTable.nodup_insertAll h.keys events
      delivered := ?_
      heldNodup := h.heldNodup
      heldPending := ?_
      retried := ?_
      apart := h.apart }
  · intro id hid
    rcases h.delivered id hid with ⟨row, hrow, hstatus⟩
    exact ⟨row, Outbox.getNotification_enqueue hrow events, hstatus⟩
  · intro flush hflush event hevent
    rcases h.heldPending flush hflush event hevent with ⟨row, hrow, hstatus⟩
    exact ⟨row, Outbox.getNotification_enqueue hrow events, hstatus⟩
  · intro retry hretry
    rcases h.retried retry hretry with ⟨hnotSent, row, hrow, hstatus⟩
    exact ⟨hnotSent, row, Outbox.getNotification_enqueue hrow events, hstatus⟩

theorem OutboxInv.flushStart (h : OutboxInv w) (hidle : w.flush = none)
    (horderly : Orderly w .flushStart) :
    OutboxInv { w with flush := some ⟨none, w.outbox.listPending⟩ } := by
  refine
    { keys := h.keys
      delivered := ?_
      heldNodup := ?_
      heldPending := ?_
      retried := h.retried
      apart := ?_ }
  · intro id hid
    rcases h.delivered id hid with ⟨row, hrow, hstatus⟩
    simp only [hidle] at hstatus
    exact ⟨row, hrow, hstatus⟩
  · intro flush hflush
    cases hflush
    exact Outbox.nodup_listPending h.keys
  · intro flush hflush event hevent
    cases hflush
    have hlisted := Outbox.mem_listPending h.keys hevent
    exact ⟨event, hlisted⟩
  · intro flush retry hflush hretry event hevent heq
    cases hflush
    -- the row under retry is not pending, the rows listed are
    have hlisted := Outbox.mem_listPending h.keys hevent
    rcases (h.retried retry hretry).2 with ⟨row, hrow, hstatus⟩
    rw [← heq, hlisted.1] at hrow
    cases hrow
    exact horderly retry hretry (hstatus.symm.trans hlisted.2)

/-- The id of an answer waiting to be recorded is that of the delivery under way. -/
theorem Awaits.eventId {delivery : Delivery} {id : String} (h : Awaits (some delivery) id) :
    delivery.event.eventId = id ∧ unrecorded (some delivery) = true := by
  rcases h with ⟨event, result, nowMs, hdelivery, hid, houtcome⟩
  cases hdelivery
  exact ⟨hid, by simpa [unrecorded] using houtcome⟩

theorem not_awaits_posting (event : NotificationEvent) (id : String) :
    ¬Awaits (some (.posting event)) id := by
  intro h
  rcases h with ⟨event', result, nowMs, hdelivery, -⟩
  cases hdelivery

theorem not_awaits_none (id : String) : ¬Awaits none id := by
  intro h
  rcases h with ⟨event, result, nowMs, hdelivery, -⟩
  cases hdelivery

/-- The ids an answer adds are the one of its event, where it did not fail. -/
theorem mem_deliveredBy {event : NotificationEvent} {result : SendResult} {id : String}
    (h : id ∈ deliveredBy event result) : event.eventId = id ∧ result.outcome ≠ .failed := by
  unfold deliveredBy at h
  split at h
  · cases h
  · rename_i houtcome
    exact ⟨(List.mem_singleton.1 h).symm, houtcome⟩

theorem status_ne_pending (outcome : SendOutcome) : outcome.status ≠ .pending := by
  cases outcome <;> simp [SendOutcome.status]

/-- A flush that goes on with the events it holds. -/
theorem OutboxInv.holding (h : OutboxInv w) {flush : FlushState} (flush' : FlushState)
    (hflush : w.flush = some flush) (hheld : flush'.held = flush.held) {ids : List String}
    (hdelivered : ∀ id ∈ ids, ∃ row, w.outbox.getNotification id = some row ∧
      (row.status ≠ .pending ∨ Awaits flush'.current id ∨
        Awaits (w.retry.bind RetryState.delivery) id)) :
    OutboxInv { w with flush := some flush', maybeDelivered := ids } := by
  refine
    { keys := h.keys
      delivered := hdelivered
      heldNodup := ?_
      heldPending := ?_
      retried := h.retried
      apart := ?_ }
  · intro f hf
    cases hf
    rw [hheld]
    exact h.heldNodup flush hflush
  · intro f hf
    cases hf
    rw [hheld]
    exact h.heldPending flush hflush
  · intro f retry hf hretry
    cases hf
    rw [hheld]
    exact h.apart flush retry hflush hretry

theorem OutboxInv.flushSend (h : OutboxInv w) {event : NotificationEvent}
    {rest : List NotificationEvent} (hflush : w.flush = some ⟨none, event :: rest⟩) :
    OutboxInv { w with flush := some ⟨some (.posting event), rest⟩ } := by
  refine h.holding ⟨some (.posting event), rest⟩ hflush rfl ?_
  intro id hid
  rcases h.delivered id hid with ⟨row, hrow, hstatus | hawaits | hawaits⟩
  · exact ⟨row, hrow, .inl hstatus⟩
  · rw [hflush] at hawaits
    exact absurd hawaits (not_awaits_none id)
  · exact ⟨row, hrow, .inr (.inr hawaits)⟩

theorem OutboxInv.flushAnswer (h : OutboxInv w) {event : NotificationEvent}
    {rest : List NotificationEvent} (hflush : w.flush = some ⟨some (.posting event), rest⟩)
    (result : SendResult) (nowMs : ℤ) :
    OutboxInv { w with
      flush := some ⟨some (.answered event result nowMs), rest⟩
      maybeDelivered := deliveredBy event result ++ w.maybeDelivered } := by
  refine h.holding ⟨some (.answered event result nowMs), rest⟩ hflush rfl ?_
  intro id hid
  rcases List.mem_append.1 hid with hnew | hold
  · rcases mem_deliveredBy hnew with ⟨hid', houtcome⟩
    rcases h.heldPending _ hflush event List.mem_cons_self with ⟨row, hrow, -⟩
    exact ⟨row, hid' ▸ hrow, .inr (.inl ⟨event, result, nowMs, rfl, hid', houtcome⟩)⟩
  · rcases h.delivered id hold with ⟨row, hrow, hstatus | hawaits | hawaits⟩
    · exact ⟨row, hrow, .inl hstatus⟩
    · rw [hflush] at hawaits
      exact absurd hawaits (not_awaits_posting event id)
    · exact ⟨row, hrow, .inr (.inr hawaits)⟩

theorem OutboxInv.flushRecord (h : OutboxInv w) {event : NotificationEvent} {result : SendResult}
    {nowMs : ℤ} {rest : List NotificationEvent}
    (hflush : w.flush = some ⟨some (.answered event result nowMs), rest⟩) :
    OutboxInv { w with
      outbox := w.outbox.updateNotificationStatus event result nowMs
      flush := some ⟨none, rest⟩ } := by
  have hnodup : event.eventId ∉ rest.map NotificationEvent.eventId ∧
      (rest.map NotificationEvent.eventId).Nodup := List.nodup_cons.1 (h.heldNodup _ hflush)
  constructor
  case keys =>
      exact (Outbox.map_eventId_update event result nowMs).symm ▸ h.keys
  case delivered =>
      intro id hid
      rcases h.delivered id hid with ⟨row, hrow, hstatus⟩
      by_cases hsame : id = event.eventId
      · subst hsame
        refine ⟨Outbox.recordAttempt event result nowMs row, ?_, .inl (status_ne_pending _)⟩
        rw [Outbox.getNotification_update, if_pos rfl, hrow]
        rfl
      · refine ⟨row, by rw [Outbox.getNotification_update, if_neg hsame, hrow], ?_⟩
        rcases hstatus with hstatus | hawaits | hawaits
        · exact .inl hstatus
        · rw [hflush] at hawaits
          exact absurd hawaits.eventId.1.symm hsame
        · exact .inr (.inr hawaits)
  case heldNodup =>
      intro flush hsome
      cases hsome
      exact hnodup.2
  case heldPending =>
      intro flush hsome event' hevent'
      cases hsome
      -- an event still held is another one, as ids are held once
      have hheld : event' ∈ rest := hevent'
      rcases h.heldPending _ hflush event' (List.mem_cons_of_mem _ hheld) with ⟨row, hrow, hpending⟩
      have hne : event'.eventId ≠ event.eventId := fun heq =>
        hnodup.1 (heq ▸ List.mem_map_of_mem hheld)
      exact ⟨row, by rw [Outbox.getNotification_update, if_neg hne, hrow], hpending⟩
  case retried =>
      intro retry hretry
      rcases h.retried retry hretry with ⟨hnotSent, row, hrow, hstatus⟩
      have hne : retry.event.eventId ≠ event.eventId := fun heq =>
        h.apart _ retry hflush hretry event List.mem_cons_self heq.symm
      exact ⟨hnotSent, row, by rw [Outbox.getNotification_update, if_neg hne, hrow], hstatus⟩
  case apart =>
      intro flush retry hsome hretry event' hevent'
      cases hsome
      have hheld : event' ∈ rest := hevent'
      exact h.apart _ retry hflush hretry event' (List.mem_cons_of_mem _ hheld)

/-- A flush that loses no answer leaves none behind when it stops. -/
theorem inFlight_of_recorded {delivery : Option Delivery} (h : unrecorded delivery = false) :
    inFlight delivery = [] := by
  cases delivery with
  | none => rfl
  | some delivery =>
      cases delivery with
      | posting event => cases h
      | answered event result nowMs => rfl

theorem OutboxInv.flushStop (h : OutboxInv w) {flush : FlushState} (hflush : w.flush = some flush)
    (horderly : Orderly w .flushStop) :
    OutboxInv { w with
      flush := none
      maybeDelivered := inFlight flush.current ++ w.maybeDelivered } := by
  have hrecorded := horderly flush hflush
  have hnone : ∀ f : FlushState, ¬(none : Option FlushState) = some f := fun f hf => by cases hf
  refine
    { keys := h.keys
      delivered := ?_
      heldNodup := fun f hf => absurd hf (hnone f)
      heldPending := fun f hf => absurd hf (hnone f)
      retried := h.retried
      apart := fun f retry hf => absurd hf (hnone f) }
  intro id hid
  rw [inFlight_of_recorded hrecorded] at hid
  rcases h.delivered id hid with ⟨row, hrow, hstatus | hawaits | hawaits⟩
  · exact ⟨row, hrow, .inl hstatus⟩
  · rw [hflush] at hawaits
    cases hcurrent : flush.current with
    | none =>
        simp only [Option.bind_some, hcurrent] at hawaits
        exact absurd hawaits (not_awaits_none id)
    | some delivery =>
        simp only [Option.bind_some, hcurrent] at hawaits
        rw [hcurrent, hawaits.eventId.2] at hrecorded
        cases hrecorded
  · exact ⟨row, hrow, .inr (.inr hawaits)⟩

theorem OutboxInv.retryRead (h : OutboxInv w) {event : NotificationEvent} {eventId : String}
    (hidle : w.retry = none) (hfound : w.outbox.getNotification eventId = some event)
    (hnotSent : event.status ≠ .sent) (horderly : Orderly w (.retryRead event)) :
    OutboxInv { w with retry := some (.read event) } := by
  have hid : event.eventId = eventId := (KeyedTable.lookup_eq_some hfound).2
  refine
    { keys := h.keys
      delivered := ?_
      heldNodup := h.heldNodup
      heldPending := h.heldPending
      retried := ?_
      apart := ?_ }
  · intro id hmem
    rcases h.delivered id hmem with ⟨row, hrow, hstatus⟩
    rw [hidle] at hstatus
    exact ⟨row, hrow, hstatus⟩
  · intro retry hretry
    cases hretry
    exact ⟨hnotSent, event, hid ▸ hfound, rfl⟩
  · intro flush retry hflush hretry
    cases hretry
    exact horderly flush hflush

/-- A retry that goes on with the row it has read. -/
theorem OutboxInv.retrying (h : OutboxInv w) {retry : RetryState} (retry' : RetryState)
    (hretry : w.retry = some retry) (hevent : retry'.event = retry.event) {ids : List String}
    (hdelivered : ∀ id ∈ ids, ∃ row, w.outbox.getNotification id = some row ∧
      (row.status ≠ .pending ∨ Awaits (w.flush.bind FlushState.current) id ∨
        Awaits retry'.delivery id)) :
    OutboxInv { w with retry := some retry', maybeDelivered := ids } := by
  refine
    { keys := h.keys
      delivered := hdelivered
      heldNodup := h.heldNodup
      heldPending := h.heldPending
      retried := ?_
      apart := ?_ }
  · intro r hr
    cases hr
    rw [hevent]
    exact h.retried retry hretry
  · intro flush r hflush hr
    cases hr
    rw [hevent]
    exact h.apart flush retry hflush hretry

theorem OutboxInv.retrySend (h : OutboxInv w) {event : NotificationEvent}
    (hretry : w.retry = some (.read event)) :
    OutboxInv { w with retry := some (.delivering (.posting event)) } := by
  refine h.retrying (.delivering (.posting event)) hretry rfl ?_
  intro id hid
  rcases h.delivered id hid with ⟨row, hrow, hstatus | hawaits | hawaits⟩
  · exact ⟨row, hrow, .inl hstatus⟩
  · exact ⟨row, hrow, .inr (.inl hawaits)⟩
  · rw [hretry] at hawaits
    exact absurd hawaits (not_awaits_none id)

theorem OutboxInv.retryAnswer (h : OutboxInv w) {event : NotificationEvent}
    (hretry : w.retry = some (.delivering (.posting event))) (result : SendResult) (nowMs : ℤ) :
    OutboxInv { w with
      retry := some (.delivering (.answered event result nowMs))
      maybeDelivered := deliveredBy event result ++ w.maybeDelivered } := by
  refine h.retrying (.delivering (.answered event result nowMs)) hretry rfl ?_
  intro id hid
  rcases List.mem_append.1 hid with hnew | hold
  · rcases mem_deliveredBy hnew with ⟨hid', houtcome⟩
    rcases (h.retried _ hretry).2 with ⟨row, hrow, -⟩
    exact ⟨row, hid' ▸ hrow, .inr (.inr ⟨event, result, nowMs, rfl, hid', houtcome⟩)⟩
  · rcases h.delivered id hold with ⟨row, hrow, hstatus | hawaits | hawaits⟩
    · exact ⟨row, hrow, .inl hstatus⟩
    · exact ⟨row, hrow, .inr (.inl hawaits)⟩
    · rw [hretry] at hawaits
      exact absurd hawaits (not_awaits_posting event id)

theorem OutboxInv.retryRecord (h : OutboxInv w) {event : NotificationEvent} {result : SendResult}
    {nowMs : ℤ} (hretry : w.retry = some (.delivering (.answered event result nowMs))) :
    OutboxInv { w with
      outbox := w.outbox.updateNotificationStatus event result nowMs
      retry := none } := by
  refine
    { keys := ?_
      delivered := ?_
      heldNodup := h.heldNodup
      heldPending := ?_
      retried := fun r hr => by cases hr
      apart := fun f r _ hr => by cases hr }
  · exact (Outbox.map_eventId_update event result nowMs).symm ▸ h.keys
  · intro id hid
    rcases h.delivered id hid with ⟨row, hrow, hstatus⟩
    by_cases hsame : id = event.eventId
    · subst hsame
      refine ⟨Outbox.recordAttempt event result nowMs row, ?_, .inl (status_ne_pending _)⟩
      rw [Outbox.getNotification_update, if_pos rfl, hrow]
      rfl
    · refine ⟨row, by rw [Outbox.getNotification_update, if_neg hsame, hrow], ?_⟩
      rcases hstatus with hstatus | hawaits | hawaits
      · exact .inl hstatus
      · exact .inr (.inl hawaits)
      · rw [hretry] at hawaits
        exact absurd hawaits.eventId.1.symm hsame
  · intro flush hflush held hheld
    rcases h.heldPending flush hflush held hheld with ⟨row, hrow, hpending⟩
    have hne : held.eventId ≠ event.eventId := h.apart flush _ hflush hretry held hheld
    exact ⟨row, by rw [Outbox.getNotification_update, if_neg hne, hrow], hpending⟩

theorem OutboxInv.retryStop (h : OutboxInv w) {retry : RetryState} (hretry : w.retry = some retry)
    (horderly : Orderly w .retryStop) :
    OutboxInv { w with
      retry := none
      maybeDelivered := inFlight retry.delivery ++ w.maybeDelivered } := by
  rcases (h.retried retry hretry).2 with ⟨row, hrow, hrowStatus⟩
  -- what the retry may have delivered is a row that is not pending, or nothing
  have hlost : ∀ id, retry.event.eventId = id → unrecorded retry.delivery = true →
      ∃ row, w.outbox.getNotification id = some row ∧ row.status ≠ .pending := by
    intro id hid hunrecorded
    refine ⟨row, hid ▸ hrow, ?_⟩
    intro hpending
    have hrecorded := horderly retry hretry (hrowStatus.symm.trans hpending)
    rw [hunrecorded] at hrecorded
    cases hrecorded
  refine
    { keys := h.keys
      delivered := ?_
      heldNodup := h.heldNodup
      heldPending := h.heldPending
      retried := fun r hr => by cases hr
      apart := fun f r _ hr => by cases hr }
  intro id hid
  rcases List.mem_append.1 hid with hnew | hold
  · cases retry with
    | read event => cases hnew
    | delivering delivery =>
        cases delivery with
        | answered event result nowMs => cases hnew
        | posting event =>
            rcases hlost id (List.mem_singleton.1 hnew).symm rfl with ⟨row', hrow', hstatus⟩
            exact ⟨row', hrow', .inl hstatus⟩
  · rcases h.delivered id hold with ⟨row', hrow', hstatus | hawaits | hawaits⟩
    · exact ⟨row', hrow', .inl hstatus⟩
    · exact ⟨row', hrow', .inr (.inl hawaits)⟩
    · rw [hretry] at hawaits
      cases retry with
      | read event => exact absurd hawaits (not_awaits_none id)
      | delivering delivery =>
          rcases hlost id hawaits.eventId.1 hawaits.eventId.2 with ⟨row'', hrow'', hstatus⟩
          exact ⟨row'', hrow'', .inl hstatus⟩

/-- An orderly step keeps the invariant. -/
theorem OutboxInv.step (h : OutboxInv w) (horderly : Orderly w action)
    (hstep : OutboxStep botToken w action w') : OutboxInv w' := by
  cases hstep with
  | enqueue _ => exact h.enqueue _
  | flushStart hidle => exact h.flushStart hidle horderly
  | flushSend hflush => exact h.flushSend hflush
  | flushAnswer posts nowMs hflush => exact h.flushAnswer hflush _ nowMs
  | flushRecord hflush => exact h.flushRecord hflush
  | flushStop hflush => exact h.flushStop hflush horderly
  | retryRead hidle hfound hnotSent => exact h.retryRead hidle hfound hnotSent horderly
  | retrySend hretry => exact h.retrySend hretry
  | retryAnswer posts nowMs hretry => exact h.retryAnswer hretry _ nowMs
  | retryRecord hretry => exact h.retryRecord hretry
  | retryStop hretry => exact h.retryStop hretry horderly

/-- A row that is `SENT` is still so after the step. -/
def SentKept (w w' : OutboxWorld) : Prop :=
  ∀ id row, w.outbox.getNotification id = some row → row.status = .sent →
    ∃ row', w'.outbox.getNotification id = some row' ∧ row'.status = .sent

/-- An update of a row that is not `SENT` keeps those that are. -/
theorem sentKept_update {event : NotificationEvent} {row : NotificationEvent}
    (hrow : w.outbox.getNotification event.eventId = some row) (hnotSent : row.status ≠ .sent)
    (result : SendResult) (nowMs : ℤ) {w' : OutboxWorld}
    (hw' : w'.outbox = w.outbox.updateNotificationStatus event result nowMs) :
    SentKept w w' := by
  intro id row' hrow' hsent
  have hne : id ≠ event.eventId := by
    intro heq
    subst heq
    rw [hrow] at hrow'
    cases hrow'
    exact hnotSent hsent
  exact ⟨row', by rw [hw', Outbox.getNotification_update, if_neg hne, hrow'], hsent⟩

/-- From the invariant, no step unsends a row. -/
theorem OutboxInv.sentKept (h : OutboxInv w) (hstep : OutboxStep botToken w action w') :
    SentKept w w' := by
  have hsame : ∀ {w'' : OutboxWorld}, w''.outbox = w.outbox → SentKept w w'' := by
    intro w'' heq id row hrow hsent
    exact ⟨row, heq ▸ hrow, hsent⟩
  cases hstep with
  | enqueue _ =>
      intro id row hrow hsent
      exact ⟨row, Outbox.getNotification_enqueue hrow _, hsent⟩
  | flushRecord hflush =>
      rcases h.heldPending _ hflush _ List.mem_cons_self with ⟨row, hrow, hpending⟩
      exact sentKept_update hrow (by simp [hpending]) _ _ rfl
  | retryRecord hretry =>
      rcases h.retried _ hretry with ⟨hnotSent, row, hrow, hstatus⟩
      exact sentKept_update hrow (by rw [hstatus]; exact hnotSent) _ _ rfl
  | _ => exact hsame rfl

/-- From the invariant, no event is sent of which a request may have been delivered. -/
theorem OutboxInv.notResent (h : OutboxInv w) {event : NotificationEvent}
    (hstep : OutboxStep botToken w (.flushSend event) w') :
    event.eventId ∉ w.maybeDelivered := by
  cases hstep with
  | flushSend hflush =>
      intro hmem
      rcases h.heldPending _ hflush event List.mem_cons_self with ⟨row, hrow, hpending⟩
      rcases h.delivered _ hmem with ⟨row', hrow', hstatus | hawaits | hawaits⟩
      · rw [hrow] at hrow'
        cases hrow'
        exact hstatus hpending
      · rw [hflush] at hawaits
        exact not_awaits_none _ hawaits
      · cases hretry : w.retry with
        | none =>
            rw [hretry] at hawaits
            exact not_awaits_none _ hawaits
        | some retry =>
            rw [hretry] at hawaits
            cases retry with
            | read event' => exact not_awaits_none _ hawaits
            | delivering delivery =>
                exact h.apart _ _ hflush hretry event List.mem_cons_self hawaits.eventId.1.symm

/-- Before anything is sent. -/
structure OutboxWorld.Fresh (w : OutboxWorld) : Prop where
  keys : (w.outbox.map NotificationEvent.eventId).Nodup
  noFlush : w.flush = none
  noRetry : w.retry = none
  noneDelivered : w.maybeDelivered = []

theorem OutboxWorld.Fresh.inv (h : w.Fresh) : OutboxInv w where
  keys := h.keys
  delivered := fun id hid => by simp [h.noneDelivered] at hid
  heldNodup := fun flush hflush => by simp [h.noFlush] at hflush
  heldPending := fun flush hflush => by simp [h.noFlush] at hflush
  retried := fun retry hretry => by simp [h.noRetry] at hretry
  apart := fun flush retry hflush => by simp [h.noFlush] at hflush

/-- Orderly steps, any number of them. -/
abbrev OrderlyRun (botToken : String) : OutboxWorld → OutboxWorld → Prop :=
  Relation.ReflTransGen (OrderlyStep botToken)

theorem OutboxInv.run (h : OutboxInv w) (hrun : OrderlyRun botToken w w') :
    OutboxInv w' ∧ SentKept w w' := by
  induction hrun with
  | refl => exact ⟨h, fun id row hrow hsent => ⟨row, hrow, hsent⟩⟩
  | tail _ hstep ih =>
      rcases hstep with ⟨action, horderly, hstep⟩
      refine ⟨ih.1.step horderly hstep, ?_⟩
      intro id row hrow hsent
      rcases ih.2 id row hrow hsent with ⟨row', hrow', hsent'⟩
      exact ih.1.sentKept hstep id row' hrow' hsent'

/-- In every run of orderly steps from a fresh outbox: a row that is `SENT` never leaves it, and a
flush never sends an event of which an earlier request may have been delivered. -/
theorem outbox_never_resends {w₀ : OutboxWorld} (hfresh : w₀.Fresh)
    (hreach : OrderlyRun botToken w₀ w) :
    (∀ w', OrderlyRun botToken w w' → SentKept w w') ∧
      ∀ event w', OutboxStep botToken w (.flushSend event) w' →
        event.eventId ∉ w.maybeDelivered := by
  have hinv := (hfresh.inv.run hreach).1
  refine ⟨fun w' hrun => (hinv.run hrun).2, ?_⟩
  intro event w' hstep
  exact hinv.notResent hstep

end Steps

/-! ## One event, sent twice -/

namespace OneEvent

def event : NotificationEvent where
  eventId := "exit:2000"
  eventType := "EXIT"
  createdAtMs := 0
  payloadText := "SHADOW exit"

def accepted : SendResult := ⟨.sent, 1, none⟩

def malformed : SendResult := ⟨.failed, 1, some "malformed 200 response body"⟩

def outbox (result : SendResult) : Outbox := [Outbox.recordAttempt event result 0 event]

/-- Enqueued and not sent yet. -/
def fresh : OutboxWorld := ⟨[event], none, none, []⟩

/-- The flush has sent it. -/
def posting : OutboxWorld := { fresh with flush := some ⟨some (.posting event), []⟩ }

/-- The answer has come. -/
def answered (retry : Option RetryState) : OutboxWorld :=
  ⟨[event], some ⟨some (.answered event accepted 0), []⟩, retry, ["exit:2000"]⟩

/-- The answer has been recorded. -/
def recorded (retry : Option RetryState) : OutboxWorld :=
  ⟨outbox accepted, some ⟨none, []⟩, retry, ["exit:2000"]⟩

theorem record (retry : Option RetryState) :
    OutboxStep "" (answered retry) .flushRecord (recorded retry) := by
  have hflush : (answered retry).flush = some ⟨some (.answered event accepted 0), []⟩ := rfl
  exact OutboxStep.flushRecord hflush

theorem fresh_fresh : fresh.Fresh := ⟨by decide, rfl, rfl, rfl⟩

end OneEvent

/-- Steps of any kind, any number of them. -/
abbrev OutboxRun (botToken : String) : OutboxWorld → OutboxWorld → Prop :=
  Relation.ReflTransGen fun w w' => ∃ action, OutboxStep botToken w action w'

/-- A retry that read the pending row while the flush was sending it overwrites `SENT`; and a flush
that stops with its request in flight leaves a row that the next flush sends again. -/
theorem outbox_resends :
    (∃ w w', OutboxRun "" OneEvent.fresh w ∧ OutboxRun "" w w' ∧ ¬SentKept w w') ∧
      ∃ w w', OutboxRun "" OneEvent.fresh w ∧
        OutboxStep "" w (.flushSend OneEvent.event) w' ∧
          OneEvent.event.eventId ∈ w.maybeDelivered := by
  have hposting : OutboxRun "" OneEvent.fresh OneEvent.posting :=
    .tail (.single ⟨_, .flushStart rfl⟩) ⟨_, .flushSend rfl⟩
  constructor
  · let reading := RetryState.read OneEvent.event
    let waiting := RetryState.delivering (.posting OneEvent.event)
    let refused := RetryState.delivering (.answered OneEvent.event OneEvent.malformed 0)
    have hread : OutboxStep "" OneEvent.posting (.retryRead OneEvent.event)
        { OneEvent.posting with retry := some reading } := by
      have hfound : OneEvent.posting.outbox.getNotification "exit:2000" = some OneEvent.event := rfl
      exact OutboxStep.retryRead rfl hfound (by decide)
    have hsend : OutboxStep "" { OneEvent.posting with retry := some reading } .retrySend
        { OneEvent.posting with retry := some waiting } := .retrySend rfl
    have hanswer : OutboxStep "" { OneEvent.posting with retry := some waiting } .flushAnswer
        (OneEvent.answered (some waiting)) :=
      .flushAnswer (fun _ => .response 200 (some true) "") 0 rfl
    have hrecord := OneEvent.record (some waiting)
    have hrefuse : OutboxStep "" (OneEvent.recorded (some waiting)) .retryAnswer
        (OneEvent.recorded (some refused)) :=
      .retryAnswer (fun _ => .response 200 none "") 0 rfl
    have hoverwrite : OutboxStep "" (OneEvent.recorded (some refused)) .retryRecord
        { OneEvent.recorded none with outbox := OneEvent.outbox OneEvent.malformed } := by
      have hretry : (OneEvent.recorded (some refused)).retry =
          some (.delivering (.answered OneEvent.event OneEvent.malformed 0)) := rfl
      exact OutboxStep.retryRecord hretry
    refine ⟨OneEvent.recorded (some waiting), _, ?_, .tail (.single ⟨_, hrefuse⟩) ⟨_, hoverwrite⟩, ?_⟩
    · exact (((hposting.tail ⟨_, hread⟩).tail ⟨_, hsend⟩).tail ⟨_, hanswer⟩).tail ⟨_, hrecord⟩
    · intro hkept
      rcases hkept "exit:2000" _ rfl rfl with ⟨row, hrow, hsent⟩
      cases hrow
      cases hsent
  · have hstop : OutboxStep "" OneEvent.posting .flushStop
        { OneEvent.fresh with maybeDelivered := ["exit:2000"] } := by
      have hflush : OneEvent.posting.flush = some ⟨some (.posting OneEvent.event), []⟩ := rfl
      exact OutboxStep.flushStop hflush
    have hstart : OutboxStep "" { OneEvent.fresh with maybeDelivered := ["exit:2000"] } .flushStart
        { OneEvent.fresh with
          flush := some ⟨none, [OneEvent.event]⟩
          maybeDelivered := ["exit:2000"] } := .flushStart rfl
    refine ⟨_, _, (hposting.tail ⟨_, hstop⟩).tail ⟨_, hstart⟩, .flushSend rfl, ?_⟩
    exact List.mem_singleton_self _

/-- A flush sends one event and records the answer: the row stays `SENT` and is not sent again. -/
theorem outbox_never_resends_one_event :
    OrderlyRun "" OneEvent.fresh (OneEvent.recorded none) ∧
      (∀ w', OrderlyRun "" (OneEvent.recorded none) w' → SentKept (OneEvent.recorded none) w') ∧
      ∀ event w', OutboxStep "" (OneEvent.recorded none) (.flushSend event) w' →
        event.eventId ∉ (OneEvent.recorded none).maybeDelivered := by
  have hstart : OrderlyStep "" OneEvent.fresh
      { OneEvent.fresh with flush := some ⟨none, [OneEvent.event]⟩ } :=
    ⟨.flushStart, fun retry hretry => (by cases hretry), .flushStart rfl⟩
  have hsend : OrderlyStep "" { OneEvent.fresh with flush := some ⟨none, [OneEvent.event]⟩ }
      OneEvent.posting := ⟨.flushSend OneEvent.event, trivial, .flushSend rfl⟩
  have hanswer : OrderlyStep "" OneEvent.posting (OneEvent.answered none) :=
    ⟨.flushAnswer, trivial, .flushAnswer (fun _ => .response 200 (some true) "") 0 rfl⟩
  have hrecord : OrderlyStep "" (OneEvent.answered none) (OneEvent.recorded none) :=
    ⟨.flushRecord, trivial, OneEvent.record none⟩
  have hrun : OrderlyRun "" OneEvent.fresh (OneEvent.recorded none) :=
    (((Relation.ReflTransGen.single hstart).tail hsend).tail hanswer).tail hrecord
  exact ⟨hrun, outbox_never_resends OneEvent.fresh_fresh hrun⟩

end TradingAgent
