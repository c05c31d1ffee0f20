import TradingAgent.Shadow.Engine
import Std.Data.String.ToInt

/-!
# Scored — what a commit adds to the shadow tables

A cycle runs the whole latest segment again and persists the rows after the high-water mark.  Where
the mark is the close of the last candle the run before has scored, these are exactly the rows the
later candles add.

* `RecordedAs runs` says that the tables hold the rows of these runs, one run after the other;
* `RecordedAs.commit` replaces the last run by one that goes on where it stopped;
* `Notified` is the outbox, up to the deliveries of its rows, and `Notified.commit` does the same
  for it.
-/

namespace TradingAgent

/-! ## The rows of a run -/

/-- The entries of a run begin with those of its trades, each entry has its figures, and there is a
journal. -/
structure RunRecords.Complete (a : RunRecords) : Prop where
  aligned : a.Aligned
  entered : a.trades.map Trade.entryTimeMs <+: a.entryTimes
  journaled : a.journal.isSome = true

/-- The trades with the figures of their entries. -/
def RunRecords.tradeRecords (a : RunRecords) : List ShadowTradeRecord :=
  a.trades.mapIdx fun i trade => ⟨trade, a.plannedRisk[i]?, a.netReward[i]?⟩

theorem shadowTradeRecords_eq (result : SegmentRunResult) (journal : Journal) :
    shadowTradeRecords result = (result.records journal).tradeRecords := by
  unfold shadowTradeRecords RunRecords.tradeRecords SegmentRunResult.records
  cases result.riskReward with
  | none => simp
  | some rr => simp

section Rows

variable {a b : RunRecords} {cs : List Candle} {mark : ℤ}

theorem RunRecords.Complete.start : (RunRecords.start (some [])).Complete :=
  ⟨⟨rfl, rfl⟩, List.nil_prefix, rfl⟩

/-- The records of a run are complete. -/
theorem RunRecords.Complete.ofExtends {result : SegmentRunResult} {journal : Journal}
    (h : (RunRecords.start (some [])).Extends cs (result.records journal))
    (haligned : (result.records journal).Aligned) : (result.records journal).Complete := by
  refine ⟨haligned, List.prefix_append _ _, ?_⟩
  rcases h.journal with ⟨rows, hrows, -⟩
  rw [hrows]
  rfl

/-- In a journal, the rows of the shorter run come first. -/
theorem RunRecords.Extends.journalRows (h : a.Extends cs b) (hcomplete : a.Complete) :
    ∃ new, b.journal.rows = a.journal.rows ++ new ∧
      (new.map JournalEntry.key).Sublist (cs.flatMap Candle.journalKeys) := by
  rcases h.journal with ⟨new, hjournal, hkeys⟩
  rcases Option.isSome_iff_exists.1 hcomplete.journaled with ⟨rows, hrows⟩
  refine ⟨new, ?_, hkeys⟩
  rw [hjournal, hrows]
  rfl

/-- No row of the run is later than the mark. -/
structure RunRecords.UpTo (mark : ℤ) (a : RunRecords) : Prop where
  trades : ∀ trade ∈ a.trades, trade.exitTimeMs ≤ mark
  entryTimes : ∀ t ∈ a.entryTimes, t ≤ mark
  equityCurve : ∀ point ∈ a.equityCurve, point.timestampMs ≤ mark
  journal : ∀ row ∈ a.journal.rows, row.timestampMs ≤ mark

/-- The candles of a continuation: each closes before the next opens, and all are after the mark. -/
structure After (mark : ℤ) (cs : List Candle) : Prop where
  later : ∀ c ∈ cs, mark < c.openTimeMs
  closes : ∀ c ∈ cs, c.openTimeMs ≤ c.closeTimeMs
  spaced : cs.Pairwise fun c d => c.closeTimeMs < d.openTimeMs

namespace After

theorem opens_lt (h : After mark cs) : cs.Pairwise fun c d => c.openTimeMs < d.openTimeMs :=
  h.spaced.imp_of_mem fun hc _ hlt => (h.closes _ hc).trans_lt hlt

theorem closes_lt (h : After mark cs) : cs.Pairwise fun c d => c.closeTimeMs < d.closeTimeMs :=
  h.spaced.imp_of_mem fun _ hd hlt => hlt.trans_le (h.closes _ hd)

/-- A time stamp that one of the candles leaves is after the mark. -/
theorem lt_of_mem_opens (h : After mark cs) {t : ℤ} (ht : t ∈ cs.map Candle.openTimeMs) :
    mark < t := by
  rcases List.mem_map.1 ht with ⟨c, hc, rfl⟩
  exact h.later c hc

theorem lt_of_mem_closes (h : After mark cs) {t : ℤ} (ht : t ∈ cs.map Candle.closeTimeMs) :
    mark < t := by
  rcases List.mem_map.1 ht with ⟨c, hc, rfl⟩
  exact (h.later c hc).trans_le (h.closes c hc)

theorem nodup_opens (h : After mark cs) : (cs.map Candle.openTimeMs).Nodup :=
  List.pairwise_map.2 (h.opens_lt.imp fun hlt => hlt.ne)

theorem nodup_closes (h : After mark cs) : (cs.map Candle.closeTimeMs).Nodup :=
  List.pairwise_map.2 (h.closes_lt.imp fun hlt => hlt.ne)

/-- The time of a journal key of a candle is its open or its close. -/
theorem key_time {c : Candle} {key : EntryType × ℤ} (h : key ∈ c.journalKeys) :
    key.2 = c.openTimeMs ∨ key.2 = c.closeTimeMs := by
  simp only [Candle.journalKeys, List.mem_cons, List.not_mem_nil, or_false] at h
  rcases h with rfl | rfl | rfl | rfl | rfl | rfl
  · exact Or.inl rfl
  · exact Or.inl rfl
  · exact Or.inl rfl
  · exact Or.inl rfl
  · exact Or.inl rfl
  · exact Or.inr rfl

theorem lt_of_mem_keys (h : After mark cs) {key : EntryType × ℤ}
    (hkey : key ∈ cs.flatMap Candle.journalKeys) : mark < key.2 := by
  rcases List.mem_flatMap.1 hkey with ⟨c, hc, hmem⟩
  rcases key_time hmem with heq | heq
  · exact heq ▸ h.later c hc
  · exact heq ▸ (h.later c hc).trans_le (h.closes c hc)

/-- Of one kind, a candle leaves at most one row; and no two candles leave one at the same time. -/
theorem nodup_keys (h : After mark cs) : (cs.flatMap Candle.journalKeys).Nodup := by
  rw [List.nodup_flatMap]
  constructor
  · intro c _
    simp [Candle.journalKeys]
  · refine (h.opens_lt.and h.closes_lt).imp ?_
    intro c d hcd key hc hd
    simp only [Candle.journalKeys, List.mem_cons, List.not_mem_nil, or_false] at hc hd
    have hopen := hcd.1.ne
    have hclose := hcd.2.ne
    rcases hc with rfl | rfl | rfl | rfl | rfl | rfl <;> simp_all

end After

/-- The trades of the shorter run keep their figures, and the later ones follow. -/
theorem RunRecords.Extends.tradeRecords (h : a.Extends cs b) (hcomplete : a.Complete) :
    ∃ new, b.tradeRecords = a.tradeRecords ++ new ∧
      (new.map ShadowTradeRecord.exitTimeMs).Sublist (cs.map Candle.openTimeMs) := by
  rcases h.trades with ⟨ts, hts, hsub⟩
  have hcount : a.trades.length ≤ a.entryTimes.length := by
    simpa using hcomplete.entered.length_le
  have hread : ∀ {xs ys : List ℚ}, xs <+: ys → xs.length = a.entryTimes.length →
      ∀ i < a.trades.length, ys[i]? = xs[i]? := by
    rintro xs ys ⟨zs, rfl⟩ hlength i hi
    exact List.getElem?_append_left (by omega)
  refine ⟨ts.mapIdx fun i trade => ⟨trade, b.plannedRisk[i + a.trades.length]?,
    b.netReward[i + a.trades.length]?⟩, ?_, ?_⟩
  · unfold RunRecords.tradeRecords
    rw [hts, List.mapIdx_append]
    congr 1
    refine List.ext_getElem (by simp) ?_
    intro i hi _
    rw [List.length_mapIdx] at hi
    simp only [List.getElem_mapIdx]
    rw [hread h.plannedRisk hcomplete.aligned.plannedRisk i hi,
      hread h.netReward hcomplete.aligned.netReward i hi]
  · have htimes : (ts.mapIdx fun i trade => (⟨trade, b.plannedRisk[i + a.trades.length]?,
        b.netReward[i + a.trades.length]?⟩ : ShadowTradeRecord)).map
          ShadowTradeRecord.exitTimeMs = ts.map Trade.exitTimeMs := by
      refine List.ext_getElem (by simp) ?_
      intro i hi _
      simp [ShadowTradeRecord.exitTimeMs]
    rw [htimes]
    exact hsub

end Rows

/-! ## The tables -/

/-- The tables hold the rows of these runs, one run after the other. -/
structure RecordedAs (store : ShadowStore) (runs : List RunRecords) : Prop where
  trades : store.trades = runs.flatMap RunRecords.tradeRecords
  equity : store.equity = runs.flatMap RunRecords.equityCurve
  journal : store.journalEntries = runs.flatMap fun a => a.journal.rows

section Commit

variable {a b : RunRecords} {front : List RunRecords} {cs : List Candle} {mark : ℤ}

theorem flatMap_replace_last {α β : Type*} (f : α → List β) (front : List α) (x : α) :
    (front ++ [x]).flatMap f = front.flatMap f ++ f x := by
  simp

/-- Inserting the rows of a continuation after the mark turns the rows of the shorter run into those
of the longer one. -/
theorem insertAll_continuation {ρ κ : Type*} [DecidableEq κ] {key : ρ → κ} {time : ρ → ℤ}
    (hkey : ∀ x y, key x = key y → time x = time y) {rows : RunRecords → List ρ} {new : List ρ}
    (hupto : ∀ x ∈ front ++ [a], ∀ r ∈ rows x, time r ≤ mark) (hrows : rows b = rows a ++ new)
    (hnew : ∀ r ∈ new, mark < time r) (hnodup : (new.map key).Nodup) :
    KeyedTable.insertAll key ((front ++ [a]).flatMap rows) (KeyedTable.after time mark (rows b)) =
      (front ++ [b]).flatMap rows := by
  have htable : ∀ r ∈ (front ++ [a]).flatMap rows, time r ≤ mark := by
    intro r hr
    rcases List.mem_flatMap.1 hr with ⟨x, hx, hmem⟩
    exact hupto x hx r hmem
  calc KeyedTable.insertAll key ((front ++ [a]).flatMap rows) (KeyedTable.after time mark (rows b))
      = KeyedTable.insertAll key ((front ++ [a]).flatMap rows)
          (KeyedTable.after time mark (rows a ++ new)) := by rw [hrows]
    _ = (front ++ [a]).flatMap rows ++ new :=
        KeyedTable.insertAll_after hkey htable (hupto a (by simp)) hnew hnodup
    _ = front.flatMap rows ++ (rows a ++ new) := by
        rw [flatMap_replace_last, List.append_assoc]
    _ = (front ++ [b]).flatMap rows := by rw [flatMap_replace_last, hrows]

/-- A run whose last rows are those of a run up to the mark, and what later candles add to it. -/
structure Continues (mark : ℤ) (front : List RunRecords) (a b : RunRecords) (cs : List Candle) :
    Prop where
  upTo : ∀ x ∈ front ++ [a], x.UpTo mark
  complete : a.Complete
  extends' : a.Extends cs b
  after : After mark cs

/-- Committing a continuation replaces the last run by the longer one. -/
theorem RecordedAs.commit {store : ShadowStore} (h : RecordedAs store (front ++ [a]))
    (hmark : store.runState.lastProcessedCloseTimeMs.getD (-1) = mark) (setup : ShadowSetup)
    (filters : SymbolFilters) (segment : List Candle) (newLastProcessed : ℤ)
    (requiredLen newCandlesFetched : ℕ) (nowMs : ℤ) (result : SegmentRunResult) (journal : Journal)
    (hcontinues : Continues mark front a (result.records journal) cs) :
    RecordedAs (recordRun setup filters segment newLastProcessed requiredLen newCandlesFetched nowMs
      result journal.rows store).1 (front ++ [result.records journal]) := by
  have hafter := hcontinues.after
  constructor
  case trades =>
      rcases hcontinues.extends'.tradeRecords hcontinues.complete with ⟨new, hrows, hsub⟩
      simp only [recordRun, ShadowStore.recordCycleAtomically, hmark, h.trades,
        shadowTradeRecords_eq result journal]
      refine insertAll_continuation (fun _ _ heq => heq) ?_ hrows ?_ ?_
      · intro x hx record hrecord
        rcases List.mem_mapIdx.1 hrecord with ⟨i, hi, rfl⟩
        exact (hcontinues.upTo x hx).trades _ (List.getElem_mem hi)
      · intro record hrecord
        exact hafter.lt_of_mem_opens (hsub.subset (List.mem_map_of_mem hrecord))
      · exact hafter.nodup_opens.sublist hsub
  case equity =>
      rcases hcontinues.extends'.equityCurve with ⟨new, hrows, htimes⟩
      simp only [recordRun, ShadowStore.recordCycleAtomically, hmark, h.equity]
      refine insertAll_continuation (fun _ _ heq => heq)
        (fun x hx => (hcontinues.upTo x hx).equityCurve) hrows ?_ ?_
      · intro point hpoint
        exact hafter.lt_of_mem_closes (htimes ▸ List.mem_map_of_mem hpoint)
      · exact htimes ▸ hafter.nodup_closes
  case journal =>
      rcases hcontinues.extends'.journalRows hcontinues.complete with ⟨new, hrows, hkeys⟩
      have hfold : journal.rows = (fun x : RunRecords => x.journal.rows)
          (result.records journal) := rfl
      simp only [recordRun, ShadowStore.recordCycleAtomically, hmark, h.journal]
      rw [hfold]
      refine insertAll_continuation ?_ (fun x hx => (hcontinues.upTo x hx).journal) hrows ?_ ?_
      · intro row row' heq
        exact congrArg Prod.snd heq
      · intro row hrow
        exact hafter.lt_of_mem_keys (hkeys.subset (List.mem_map_of_mem hrow))
      · exact hafter.nodup_keys.sublist hkeys

end Commit

/-! ## The outbox -/

/-- The ids of the events of one type. -/
def Outbox.idsOf (outbox : Outbox) (eventType : String) : List String :=
  (outbox.filter fun event => event.eventType = eventType).map NotificationEvent.eventId

def dailySummaryEventId (dateIso : String) : String :=
  s!"daily_summary:{dateIso}"

/-- One entry event for each entry, one exit event for each exit, and otherwise daily summaries. -/
structure Notified (outbox : Outbox) (entryTimes exitTimes : List ℤ) : Prop where
  entries : (outbox.idsOf "entry").Perm (entryTimes.map entryEventId)
  exits : (outbox.idsOf "exit").Perm (exitTimes.map exitEventId)
  others : ∀ event ∈ outbox, event.eventType = "entry" ∨ event.eventType = "exit" ∨
    event.eventType = "daily_summary" ∧ ∃ dateIso, event.eventId = dailySummaryEventId dateIso

/-- Neither message builder raises. -/
structure MessageBuilders.Return (messages : MessageBuilders) : Prop where
  entry : ∀ notice, ∃ text, messages.entry notice = .ok text
  exit : ∀ notice, ∃ text, messages.exit notice = .ok text

theorem entryEventId_injective : Function.Injective entryEventId := by
  intro t t' h
  have hshown : "entry:" ++ t.repr = "entry:" ++ t'.repr := by
    simpa [entryEventId] using h
  exact Int.repr_injective (String.append_right_inj "entry:" |>.1 hshown)

theorem exitEventId_injective : Function.Injective exitEventId := by
  intro t t' h
  have hshown : "exit:" ++ t.repr = "exit:" ++ t'.repr := by
    simpa [exitEventId] using h
  exact Int.repr_injective ((String.append_right_inj "exit:").1 hshown)

theorem entryEventId_ne_exitEventId (t t' : ℤ) : entryEventId t ≠ exitEventId t' := by
  intro h
  have hsecond := congrArg (fun id => id.toList[1]?) h
  simp [entryEventId, exitEventId, toString] at hsecond

theorem entryEventId_ne_dailySummary (t : ℤ) (dateIso : String) :
    entryEventId t ≠ dailySummaryEventId dateIso := by
  intro h
  have hfirst := congrArg (fun id => id.toList[0]?) h
  simp [entryEventId, dailySummaryEventId, toString] at hfirst

theorem exitEventId_ne_dailySummary (t : ℤ) (dateIso : String) :
    exitEventId t ≠ dailySummaryEventId dateIso := by
  intro h
  have hfirst := congrArg (fun id => id.toList[0]?) h
  simp [exitEventId, dailySummaryEventId, toString] at hfirst

/-- One event of this type for each of these times, in their order. -/
structure EventsFor (eventType : String) (id : ℤ → String) (events : List NotificationEvent)
    (times : List ℤ) : Prop where
  types : ∀ event ∈ events, event.eventType = eventType
  ids : events.map NotificationEvent.eventId = times.map id

/-- Where nothing raises, a loop appends everything. -/
theorem EventsFor.untilRaise {α : Type*} {eventType : String} {id : ℤ → String} {time : α → ℤ}
    {build : α → Except PyError NotificationEvent} {xs : List α}
    (h : ∀ x ∈ xs, ∃ event, build x = .ok event ∧ event.eventType = eventType ∧
      event.eventId = id (time x)) :
    EventsFor eventType id (untilRaise (xs.map build)) (xs.map time) := by
  induction xs with
  | nil => exact ⟨by simp [TradingAgent.untilRaise], rfl⟩
  | cons x xs ih =>
      rcases h x List.mem_cons_self with ⟨event, hevent, htype, hid⟩
      have hrest := ih fun x' hx' => h x' (List.mem_cons_of_mem x hx')
      simp only [List.map_cons, hevent, TradingAgent.untilRaise]
      refine ⟨?_, by simp [hid, hrest.ids]⟩
      intro event' hevent'
      rcases List.mem_cons.1 hevent' with rfl | hlater
      · exact htype
      · exact hrest.types event' hlater

theorem EventsFor.exists_time {eventType : String} {id : ℤ → String}
    {events : List NotificationEvent} {times : List ℤ} (h : EventsFor eventType id events times)
    {event : NotificationEvent} (hevent : event ∈ events) :
    ∃ t ∈ times, event.eventId = id t := by
  have hmem := List.mem_map_of_mem (f := NotificationEvent.eventId) hevent
  rw [h.ids] at hmem
  rcases List.mem_map.1 hmem with ⟨t, ht, heq⟩
  exact ⟨t, ht, heq.symm⟩

theorem EventsFor.idsOf {eventType : String} {id : ℤ → String}
    {events : List NotificationEvent} {times : List ℤ} (h : EventsFor eventType id events times) :
    Outbox.idsOf events eventType = times.map id := by
  have hall : events.filter (fun event => event.eventType = eventType) = events :=
    List.filter_eq_self.2 fun event hevent => decide_eq_true (h.types event hevent)
  rw [Outbox.idsOf, hall, h.ids]

theorem EventsFor.idsOf_ne {eventType eventType' : String} {id : ℤ → String}
    {events : List NotificationEvent} {times : List ℤ} (h : EventsFor eventType id events times)
    (hne : eventType ≠ eventType') : Outbox.idsOf events eventType' = [] := by
  have hnone : events.filter (fun event => event.eventType = eventType') = [] := by
    refine List.filter_eq_nil_iff.2 ?_
    intro event hevent htype
    exact hne ((h.types event hevent).symm.trans (of_decide_eq_true htype))
  rw [Outbox.idsOf, hnone, List.map_nil]

theorem Outbox.idsOf_append (outbox events : Outbox) (eventType : String) :
    Outbox.idsOf (outbox ++ events) eventType = outbox.idsOf eventType ++ events.idsOf eventType := by
  rw [Outbox.idsOf, List.filter_append, List.map_append]
  rfl

section Outbox

variable {outbox : Outbox} {entryTimes exitTimes newEntryTimes newExitTimes : List ℤ}
  {event : NotificationEvent}

theorem Outbox.mem_idsOf (hevent : event ∈ outbox) {eventType : String}
    (htype : event.eventType = eventType) : event.eventId ∈ outbox.idsOf eventType :=
  List.mem_map_of_mem (List.mem_filter.2 ⟨hevent, decide_eq_true htype⟩)

/-- The id of an entry event tells the time of the entry. -/
theorem Notified.mem_of_entry (h : Notified outbox entryTimes exitTimes) {t : ℤ}
    (hevent : event ∈ outbox) (hid : event.eventId = entryEventId t) : t ∈ entryTimes := by
  rcases h.others event hevent with hentry | hexit | ⟨-, dateIso, hdaily⟩
  · rcases List.mem_map.1 (h.entries.subset (Outbox.mem_idsOf hevent hentry)) with ⟨t', ht', heq⟩
    exact entryEventId_injective (heq.trans hid) ▸ ht'
  · rcases List.mem_map.1 (h.exits.subset (Outbox.mem_idsOf hevent hexit)) with ⟨t', -, heq⟩
    exact absurd (hid.symm.trans heq.symm) (entryEventId_ne_exitEventId t t')
  · exact absurd (hid.symm.trans hdaily) (entryEventId_ne_dailySummary t dateIso)

theorem Notified.mem_of_exit (h : Notified outbox entryTimes exitTimes) {t : ℤ}
    (hevent : event ∈ outbox) (hid : event.eventId = exitEventId t) : t ∈ exitTimes := by
  rcases h.others event hevent with hentry | hexit | ⟨-, dateIso, hdaily⟩
  · rcases List.mem_map.1 (h.entries.subset (Outbox.mem_idsOf hevent hentry)) with ⟨t', -, heq⟩
    exact absurd (heq.trans hid) (entryEventId_ne_exitEventId t' t)
  · rcases List.mem_map.1 (h.exits.subset (Outbox.mem_idsOf hevent hexit)) with ⟨t', ht', heq⟩
    exact exitEventId_injective (heq.trans hid) ▸ ht'
  · exact absurd (hid.symm.trans hdaily) (exitEventId_ne_dailySummary t dateIso)

/-- Where the entries and exits are new, what is enqueued is one event for each. -/
theorem Notified.enqueue (h : Notified outbox entryTimes exitTimes)
    {entryEvents exitEvents : List NotificationEvent}
    (hentries : EventsFor "entry" entryEventId entryEvents newEntryTimes)
    (hexits : EventsFor "exit" exitEventId exitEvents newExitTimes)
    (hentryNodup : newEntryTimes.Nodup) (hexitNodup : newExitTimes.Nodup)
    (hentryFresh : ∀ t ∈ newEntryTimes, t ∉ entryTimes)
    (hexitFresh : ∀ t ∈ newExitTimes, t ∉ exitTimes) :
    Notified (outbox.enqueue (entryEvents ++ exitEvents)) (entryTimes ++ newEntryTimes)
      (exitTimes ++ newExitTimes) := by
  -- no id is there already, and none comes twice
  have henqueued : outbox.enqueue (entryEvents ++ exitEvents) =
      outbox ++ (entryEvents ++ exitEvents) := by
    refine KeyedTable.insertAll_of_fresh ?_ ?_
    · rw [List.map_append, hentries.ids, hexits.ids]
      refine List.nodup_append.2 ⟨hentryNodup.map entryEventId_injective,
        hexitNodup.map exitEventId_injective, ?_⟩
      rintro id hid id' hid' rfl
      rcases List.mem_map.1 hid with ⟨t, -, rfl⟩
      rcases List.mem_map.1 hid' with ⟨t', -, heq⟩
      exact entryEventId_ne_exitEventId t t' heq.symm
    · intro event hevent row hrow heq
      rcases List.mem_append.1 hevent with hmem | hmem
      · rcases hentries.exists_time hmem with ⟨t, ht, hid⟩
        exact hentryFresh t ht (h.mem_of_entry hrow (heq.trans hid))
      · rcases hexits.exists_time hmem with ⟨t, ht, hid⟩
        exact hexitFresh t ht (h.mem_of_exit hrow (heq.trans hid))
  rw [henqueued]
  constructor
  case entries =>
      rw [Outbox.idsOf_append, Outbox.idsOf_append, hentries.idsOf,
        hexits.idsOf_ne (by decide), List.append_nil, List.map_append]
      exact h.entries.append_right _
  case exits =>
      rw [Outbox.idsOf_append, Outbox.idsOf_append, hentries.idsOf_ne (by decide),
        hexits.idsOf, List.nil_append, List.map_append]
      exact h.exits.append_right _
  case others =>
      intro event hevent
      rcases List.mem_append.1 hevent with hold | hnew
      · exact h.others event hold
      · rcases List.mem_append.1 hnew with hmem | hmem
        · exact Or.inl (hentries.types event hmem)
        · exact Or.inr (Or.inl (hexits.types event hmem))

/-- The order of the entries and of the exits does not matter. -/
theorem Notified.perm (h : Notified outbox entryTimes exitTimes)
    (hentries : entryTimes.Perm newEntryTimes) (hexits : exitTimes.Perm newExitTimes) :
    Notified outbox newEntryTimes newExitTimes :=
  ⟨h.entries.trans (hentries.map _), h.exits.trans (hexits.map _), h.others⟩

/-- Rewriting events without their ids and types changes nothing. -/
theorem Notified.map (h : Notified outbox entryTimes exitTimes)
    {rewrite : NotificationEvent → NotificationEvent}
    (hid : ∀ event, (rewrite event).eventId = event.eventId)
    (htype : ∀ event, (rewrite event).eventType = event.eventType) :
    Notified (outbox.map rewrite) entryTimes exitTimes := by
  have hids : ∀ eventType, Outbox.idsOf (outbox.map rewrite) eventType =
      outbox.idsOf eventType := by
    intro eventType
    have hkept : ((fun event => decide (event.eventType = eventType)) ∘ rewrite) =
        fun event : NotificationEvent => decide (event.eventType = eventType) := by
      funext event
      rw [Function.comp_apply, htype]
    have hread : NotificationEvent.eventId ∘ rewrite = NotificationEvent.eventId := funext hid
    rw [Outbox.idsOf, List.filter_map, hkept, List.map_map, hread]
    rfl
  refine ⟨(hids "entry").symm ▸ h.entries, (hids "exit").symm ▸ h.exits, ?_⟩
  intro event hevent
  rcases List.mem_map.1 hevent with ⟨old, hold, rfl⟩
  rw [htype, hid]
  exact h.others old hold

/-- A delivery writes its outcome only. -/
theorem Notified.delivered (h : Notified outbox entryTimes exitTimes) (event : NotificationEvent)
    (result : SendResult) (nowMs : ℤ) :
    Notified (outbox.updateNotificationStatus event result nowMs) entryTimes exitTimes := by
  refine h.map ?_ ?_
  · intro row
    split
    · rfl
    · rfl
  · intro row
    split
    · rfl
    · rfl

/-- The event of a daily summary. -/
def dailySummaryEvent (dateIso text : String) (nowMs : ℤ) : NotificationEvent where
  eventId := dailySummaryEventId dateIso
  eventType := "daily_summary"
  createdAtMs := nowMs
  payloadText := text

theorem Notified.dailySummary (h : Notified outbox entryTimes exitTimes) (dateIso text : String)
    (nowMs : ℤ) :
    Notified (outbox.enqueue [dailySummaryEvent dateIso text nowMs]) entryTimes exitTimes := by
  have henqueue : outbox.enqueue [dailySummaryEvent dateIso text nowMs] =
      KeyedTable.insertNew NotificationEvent.eventId outbox
        (dailySummaryEvent dateIso text nowMs) := rfl
  rw [henqueue, KeyedTable.insertNew]
  split
  · exact h
  · have hnone : ∀ eventType, eventType ≠ "daily_summary" →
        Outbox.idsOf [dailySummaryEvent dateIso text nowMs] eventType = [] := by
      intro eventType hne
      simp [Outbox.idsOf, dailySummaryEvent, hne.symm]
    constructor
    case entries =>
        rw [Outbox.idsOf_append, hnone "entry" (by decide), List.append_nil]
        exact h.entries
    case exits =>
        rw [Outbox.idsOf_append, hnone "exit" (by decide), List.append_nil]
        exact h.exits
    case others =>
        intro event hevent
        rcases List.mem_append.1 hevent with hold | hnew
        · exact h.others event hold
        · rw [List.mem_singleton.1 hnew]
          exact Or.inr (Or.inr ⟨rfl, dateIso, rfl⟩)

end Outbox

/-! ## The events of a commit -/

section Events

variable {a : RunRecords} {front : List RunRecords} {cs : List Candle} {mark : ℤ}
  {result : SegmentRunResult} {journal : Journal}

/-- The exits of a run. -/
def RunRecords.exitTimes (a : RunRecords) : List ℤ :=
  a.trades.map Trade.exitTimeMs

/-- What a continuation adds, as the cycle finds it: the trades that exit after the mark, and the
entries after it of the open position and of those trades. -/
theorem Continues.added (h : Continues mark front a (result.records journal) cs) :
    ∃ (new : List ShadowTradeRecord) (es : List ℤ),
      KeyedTable.after ShadowTradeRecord.exitTimeMs mark (shadowTradeRecords result) = new ∧
      (result.records journal).exitTimes =
        a.exitTimes ++ new.map ShadowTradeRecord.exitTimeMs ∧
      (new.map ShadowTradeRecord.exitTimeMs).Sublist (cs.map Candle.openTimeMs) ∧
      (result.records journal).entryTimes = a.entryTimes ++ es ∧
      es.Sublist (cs.map Candle.openTimeMs) ∧
      ((newEntries mark result new).map OpenPositionInfo.entryTimeMs).Perm es := by
  have hupto := h.upTo a (by simp)
  rcases h.extends'.tradeRecords h.complete with ⟨new, hrows, hnewSub⟩
  rcases h.extends'.entryTimes with ⟨es, hes, hesSub⟩
  -- what the run adds exits after the mark, what it had before did so up to it
  have hnew : ∀ record ∈ new, mark < record.exitTimeMs := fun record hrecord =>
    h.after.lt_of_mem_opens (hnewSub.subset (List.mem_map_of_mem hrecord))
  have hold : ∀ record ∈ a.tradeRecords, record.exitTimeMs ≤ mark := by
    intro record hrecord
    rcases List.mem_mapIdx.1 hrecord with ⟨i, hi, rfl⟩
    exact hupto.trades _ (List.getElem_mem hi)
  have hafter : KeyedTable.after ShadowTradeRecord.exitTimeMs mark (shadowTradeRecords result) =
      new := by
    rw [shadowTradeRecords_eq result journal, hrows]
    exact KeyedTable.after_append hold hnew
  -- the records show the trades themselves
  have hread : ∀ x : RunRecords, x.tradeRecords.map ShadowTradeRecord.trade = x.trades := by
    intro x
    refine List.ext_getElem (by simp [RunRecords.tradeRecords]) ?_
    intro i hi _
    simp [RunRecords.tradeRecords]
  have htrades : result.trades = a.trades ++ new.map ShadowTradeRecord.trade := by
    have hmap := congrArg (List.map ShadowTradeRecord.trade) hrows
    rw [List.map_append, hread, hread] at hmap
    exact hmap
  refine ⟨new, es, hafter, ?_, hnewSub, hes, hesSub, ?_⟩
  · have hexits : (result.records journal).exitTimes = result.trades.map Trade.exitTimeMs := rfl
    rw [hexits, htrades, List.map_append, List.map_map]
    rfl
  · -- the entries after the mark are those of the new trades and of the open position
    have hbefore : ∀ t ∈ a.entryTimes, ¬decide (mark < t) = true := by
      intro t ht
      simpa using hupto.entryTimes t ht
    have hlater : ∀ t ∈ es, decide (mark < t) = true := fun t ht =>
      decide_eq_true (h.after.lt_of_mem_opens (hesSub.subset ht))
    have hentryTimes : (result.records journal).entryTimes =
        a.trades.map Trade.entryTimeMs ++ (new.map fun record => record.trade.entryTimeMs) ++
          result.openPosition.toList.map OpenPositionInfo.entryTimeMs := by
      change result.trades.map Trade.entryTimeMs ++ _ = _
      rw [htrades, List.map_append, List.map_map]
      rfl
    have hesEq : es = ((new.map fun record => record.trade.entryTimeMs) ++
        result.openPosition.toList.map OpenPositionInfo.entryTimeMs).filter
          fun t => mark < t := by
      have hfilter := congrArg (List.filter fun t => decide (mark < t)) (hes.symm.trans hentryTimes)
      have hclosed : (a.trades.map Trade.entryTimeMs).filter (fun t => decide (mark < t)) = [] :=
        List.filter_eq_nil_iff.2 fun t ht => hbefore t (h.complete.entered.subset ht)
      rw [List.filter_append, List.filter_eq_nil_iff.2 hbefore, List.filter_eq_self.2 hlater,
        List.nil_append, List.append_assoc, List.filter_append, hclosed, List.nil_append] at hfilter
      exact hfilter
    rw [hesEq, newEntries, KeyedTable.map_after, List.map_append, List.map_map]
    exact List.perm_append_comm.filter _

/-- Every entry of the run can be shown with its plan. -/
def EntriesShown (setup : ShadowSetup) (filters : SymbolFilters) (result : SegmentRunResult) :
    Prop :=
  ∀ entry ∈ result.openPosition.toList ++ result.trades.map Trade.entry, ∀ equity,
    ∃ plan, computeRealizedPlanForDisplay entry.entryPrice entry.quantity equity setup.config
      filters = .ok plan

/-- The plan of an entry was re-validated when it was filled, so it can be shown. -/
theorem entriesShown_of_evaluate {setup : ShadowSetup} {filters : SymbolFilters}
    {state : ShadowBootstrapState} {segment : List Candle}
    (h : setup.evaluate filters state segment = .ok (result, journal)) :
    EntriesShown setup filters result := by
  have henv : (setup.env filters state segment).Standard := RunEnv.standard_standard _ _ _ _ _ _
  rcases runSegment_planned henv rfl h with ⟨hclosed, hopened⟩
  have hplanned : ∀ entry ∈ result.openPosition.toList ++ result.trades.map Trade.entry,
      PlannedAt (setup.env filters state segment) entry.entryPrice := by
    intro entry hentry
    rcases List.mem_append.1 hentry with hopen | hclose
    · exact hopened entry (Option.mem_toList.1 hopen)
    · rcases List.mem_map.1 hclose with ⟨trade, htrade, rfl⟩
      exact hclosed trade htrade
  intro entry hentry equity
  rcases hplanned entry hentry with ⟨plan, equity', realized, hrealized⟩
  unfold computeRealizedPlanForDisplay
  apply buildRealizedPlan_returns hrealized
  · rfl
  · rfl

/-- An entry to report is one of the run. -/
theorem newEntries_subset {new : List ShadowTradeRecord}
    (hnew : KeyedTable.after ShadowTradeRecord.exitTimeMs mark (shadowTradeRecords result) = new) :
    ∀ entry ∈ newEntries mark result new,
      entry ∈ result.openPosition.toList ++ result.trades.map Trade.entry := by
  intro entry hentry
  rcases List.mem_append.1 (List.mem_filter.1 hentry).1 with hopen | hclosed
  · exact List.mem_append_left _ hopen
  · rcases List.mem_map.1 hclosed with ⟨record, hrecord, rfl⟩
    rw [← hnew] at hrecord
    rcases List.mem_mapIdx.1 (List.mem_filter.1 hrecord).1 with ⟨i, hi, rfl⟩
    exact List.mem_append_right _ (List.mem_map_of_mem (List.getElem_mem hi))

/-- One entry event for each entry to report, since every one of them can be shown. -/
theorem eventsFor_newEntries {setup : ShadowSetup} (hmessages : setup.messages.Return)
    {filters : SymbolFilters} (hshown : EntriesShown setup filters result)
    {new : List ShadowTradeRecord}
    (hnew : KeyedTable.after ShadowTradeRecord.exitTimeMs mark (shadowTradeRecords result) = new)
    (rows : List JournalEntry) (startingEquity : ℚ) (nowMs : ℤ) :
    EventsFor "entry" entryEventId
      (untilRaise ((newEntries mark result new).map fun entry =>
        buildEntryNotificationEvent setup filters rows result.equityCurve startingEquity nowMs
          entry))
      ((newEntries mark result new).map OpenPositionInfo.entryTimeMs) := by
  refine EventsFor.untilRaise ?_
  intro entry hentry
  rcases hshown entry (newEntries_subset hnew entry hentry)
    (equityBefore result.equityCurve entry.entryTimeMs startingEquity) with ⟨plan, hplan⟩
  unfold buildEntryNotificationEvent
  simp only [hplan, bind, Except.bind]
  rcases hmessages.entry _ with ⟨text, htext⟩
  rw [htext]
  exact ⟨_, rfl, rfl, rfl⟩

/-- One exit event for each trade to report, whatever trades its message counts. -/
theorem eventsFor_exits {setup : ShadowSetup} (hmessages : setup.messages.Return)
    (new : List ShadowTradeRecord) (allTrades : ℕ → List ShadowTradeRecord)
    (equityCurve : List EquityPoint) (startingEquity : ℚ) (nowMs : ℤ) :
    EventsFor "exit" exitEventId
      (untilRaise (new.mapIdx fun i record =>
        buildExitNotificationEvent setup equityCurve startingEquity nowMs (allTrades i) record))
      (new.map ShadowTradeRecord.exitTimeMs) := by
  have htimes : new.map ShadowTradeRecord.exitTimeMs =
      new.zipIdx.map fun pair => pair.1.exitTimeMs := by
    conv_lhs => rw [← List.zipIdx_map_fst 0 new]
    rw [List.map_map]
    rfl
  rw [htimes, List.mapIdx_eq_zipIdx_map]
  refine EventsFor.untilRaise ?_
  rintro ⟨record, i⟩ _
  unfold buildExitNotificationEvent
  simp only [bind, Except.bind]
  rcases hmessages.exit _ with ⟨text, htext⟩
  rw [htext]
  exact ⟨_, rfl, rfl, rfl⟩

/-- Nothing after the mark was recorded by runs up to it. -/
theorem not_mem_of_upTo {runs : List RunRecords} {times : RunRecords → List ℤ}
    (hupTo : ∀ x ∈ runs, ∀ t ∈ times x, t ≤ mark) {new : List ℤ} (hnew : ∀ t ∈ new, mark < t) :
    ∀ t ∈ new, t ∉ runs.flatMap times := by
  intro t ht hold
  rcases List.mem_flatMap.1 hold with ⟨x, hx, hmem⟩
  exact absurd (hupTo x hx t hmem) (not_le.2 (hnew t ht))

theorem RunRecords.UpTo.exitTimes {x : RunRecords} (h : x.UpTo mark) :
    ∀ t ∈ x.exitTimes, t ≤ mark := by
  intro t ht
  rcases List.mem_map.1 ht with ⟨trade, htrade, rfl⟩
  exact h.trades trade htrade

/-- Committing a continuation enqueues one event for each entry and each exit it adds. -/
theorem Notified.commit {store : ShadowStore}
    (h : Notified store.outbox ((front ++ [a]).flatMap RunRecords.entryTimes)
      ((front ++ [a]).flatMap RunRecords.exitTimes))
    (hmark : store.runState.lastProcessedCloseTimeMs.getD (-1) = mark) {setup : ShadowSetup}
    (hmessages : setup.messages.Return) {filters : SymbolFilters}
    (hshown : EntriesShown setup filters result) (segment : List Candle) (newLastProcessed : ℤ)
    (requiredLen newCandlesFetched : ℕ) (nowMs : ℤ)
    (hcontinues : Continues mark front a (result.records journal) cs) :
    Notified (recordRun setup filters segment newLastProcessed requiredLen newCandlesFetched nowMs
      result journal.rows store).1.outbox
        ((front ++ [result.records journal]).flatMap RunRecords.entryTimes)
        ((front ++ [result.records journal]).flatMap RunRecords.exitTimes) := by
  rcases hcontinues.added with ⟨new, es, hnew, hexits, hnewSub, hes, hesSub, hperm⟩
  have hafter := hcontinues.after
  have hentryEvents := eventsFor_newEntries hmessages hshown hnew journal.rows setup.startingEquity
    nowMs
  have hexitEvents := eventsFor_exits hmessages new
    (fun i => store.getAllTrades ++ new.take (i + 1)) result.equityCurve setup.startingEquity nowMs
  -- all of them are after the mark, and none of the events enqueued before is
  have hentryFresh : ∀ t ∈ (newEntries mark result new).map OpenPositionInfo.entryTimeMs,
      t ∉ (front ++ [a]).flatMap RunRecords.entryTimes := by
    apply not_mem_of_upTo fun x hx => (hcontinues.upTo x hx).entryTimes
    intro t ht
    exact hafter.lt_of_mem_opens (hesSub.subset (hperm.subset ht))
  have hexitFresh : ∀ t ∈ new.map ShadowTradeRecord.exitTimeMs,
      t ∉ (front ++ [a]).flatMap RunRecords.exitTimes := by
    apply not_mem_of_upTo fun x hx => (hcontinues.upTo x hx).exitTimes
    intro t ht
    exact hafter.lt_of_mem_opens (hnewSub.subset ht)
  have henqueued := h.enqueue hentryEvents hexitEvents
    (hperm.nodup_iff.2 (hafter.nodup_opens.sublist hesSub)) (hafter.nodup_opens.sublist hnewSub)
    hentryFresh hexitFresh
  have hstore : (recordRun setup filters segment newLastProcessed requiredLen newCandlesFetched nowMs
      result journal.rows store).1.outbox =
        store.outbox.enqueue (notificationEvents setup filters mark result journal.rows new
          store.getAllTrades setup.startingEquity nowMs) := by
    simp only [recordRun, ShadowStore.recordCycleAtomically, hmark, hnew]
  rw [hstore]
  refine henqueued.perm ?_ ?_
  · rw [flatMap_replace_last, flatMap_replace_last, hes, ← List.append_assoc]
    exact hperm.append_left _
  · rw [flatMap_replace_last, flatMap_replace_last, hexits, List.append_assoc]

end Events

end TradingAgent
