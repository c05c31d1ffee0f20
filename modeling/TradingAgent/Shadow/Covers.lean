import TradingAgent.Shadow.Arrivals
import TradingAgent.Shadow.Scored

/-!
# Covers — which part of each segment has been scored

Only the latest segment is run again, so a segment stays scored up to where it ended when a cycle
last scored it.

* `ShadowSetup.runOn` is the run over such a part, and `runOn_continues` compares it with the run
  over the whole segment;
* `Covers` is the invariant of the shadow tables: the parts of the segments, and their rows;
* `Covers.grow` stores more candles, `Covers.cycle` lets a cycle read them.
-/

namespace TradingAgent

/-! ## The run over a part of a segment -/

namespace ShadowSetup

variable (setup : ShadowSetup) (filters : SymbolFilters)

/-- The candles a run over `part` scores. -/
def scored (part : List Candle) : List Candle :=
  part.drop (setup.requiredLength setup.bootstrapState part - 1)

/-- What the run over `part` records, and nothing where it does not return. -/
def runOn (part : List Candle) : RunRecords :=
  match setup.evaluate filters setup.bootstrapState part with
  | .ok (result, journal) => result.records journal
  | .error _ => .start (some [])

end ShadowSetup

section Parts

variable {setup : ShadowSetup} {filters : SymbolFilters} {part segment : List Candle}
  {result : SegmentRunResult} {journal : Journal} {mark : ℤ}

@[simp] theorem scored_nil : setup.scored [] = [] :=
  List.drop_nil

@[simp] theorem runOn_nil : setup.runOn filters [] = .start (some []) := rfl

theorem runOn_eq (h : setup.evaluate filters setup.bootstrapState part = .ok (result, journal)) :
    setup.runOn filters part = result.records journal := by
  rw [ShadowSetup.runOn, h]

/-- What a cycle requires of a segment depends on where it begins. -/
theorem requiredLength_of_initial (h : part <+: segment) (hne : part ≠ []) :
    setup.requiredLength setup.bootstrapState part =
      setup.requiredLength setup.bootstrapState segment := by
  rcases h with ⟨rest, rfl⟩
  cases part with
  | nil => exact absurd rfl hne
  | cons first part => rfl

theorem env_of_initial (h : part <+: segment) (hne : part ≠ []) :
    setup.env filters setup.bootstrapState part =
      setup.env filters setup.bootstrapState segment := by
  rcases h with ⟨rest, rfl⟩
  cases part with
  | nil => exact absurd rfl hne
  | cons first part => rfl

theorem env_standard : (setup.env filters setup.bootstrapState part).Standard :=
  RunEnv.standard_standard _ _ _ _ _ _

theorem evaluate_records
    (h : setup.evaluate filters setup.bootstrapState part = .ok (result, journal)) :
    (RunRecords.start (some [])).Extends (setup.scored part) (result.records journal) ∧
      (result.records journal).Aligned :=
  runSegment_records env_standard rfl h

theorem runOn_complete : (setup.runOn filters part).Complete := by
  cases h : setup.evaluate filters setup.bootstrapState part with
  | error e =>
      rw [ShadowSetup.runOn, h]
      exact .start
  | ok ran =>
      rcases ran with ⟨result, journal⟩
      rcases evaluate_records h with ⟨hextends, haligned⟩
      rw [runOn_eq h]
      exact .ofExtends hextends haligned

/-- A run stamps its rows with times of the candles it scores. -/
theorem runOn_upTo (hbefore : ∀ c ∈ setup.scored part, c.openTimeMs ≤ mark ∧ c.closeTimeMs ≤ mark) :
    (setup.runOn filters part).UpTo mark := by
  cases h : setup.evaluate filters setup.bootstrapState part with
  | error e =>
      rw [ShadowSetup.runOn, h]
      constructor <;> simp [RunRecords.start, Journal.rows]
  | ok ran =>
      rcases ran with ⟨result, journal⟩
      rcases evaluate_records h with ⟨hextends, -⟩
      rw [runOn_eq h]
      rcases hextends with ⟨⟨ts, hts, htsSub⟩, ⟨es, hes, hesSub⟩, ⟨ps, hps, hpsTimes⟩,
        ⟨rows, hrows, hkeys⟩, -, -⟩
      -- every record of the run has a time of one of the scored candles
      have hopen : ∀ t ∈ (setup.scored part).map Candle.openTimeMs, t ≤ mark := by
        intro t ht
        rcases List.mem_map.1 ht with ⟨c, hc, rfl⟩
        exact (hbefore c hc).1
      constructor
      case trades =>
          intro trade htrade
          rw [hts] at htrade
          exact hopen _ (htsSub.subset (List.mem_map_of_mem htrade))
      case entryTimes =>
          intro t ht
          rw [hes] at ht
          exact hopen t (hesSub.subset ht)
      case equityCurve =>
          intro point hpoint
          rw [hps] at hpoint
          have hclose := List.mem_map_of_mem (f := EquityPoint.timestampMs) hpoint
          rw [RunRecords.start, List.nil_append, hpsTimes] at hclose
          rcases List.mem_map.1 hclose with ⟨c, hc, heq⟩
          exact heq ▸ (hbefore c hc).2
      case journal =>
          intro row hrow
          rw [hrows] at hrow
          rcases List.mem_flatMap.1 (hkeys.subset (List.mem_map_of_mem hrow)) with ⟨c, hc, hkey⟩
          rcases After.key_time hkey with heq | heq
          · exact le_of_eq_of_le heq (hbefore c hc).1
          · exact le_of_eq_of_le heq (hbefore c hc).2

/-- The run over a segment goes on where the run over its first part stopped. -/
theorem runOn_continues (hinitial : part <+: segment)
    (hlong : part ≠ [] → setup.requiredLength setup.bootstrapState part ≤ part.length)
    (h : setup.evaluate filters setup.bootstrapState segment = .ok (result, journal)) :
    ∃ cs, setup.scored segment = setup.scored part ++ cs ∧
      (setup.runOn filters part).Extends cs (result.records journal) := by
  by_cases hne : part = []
  · subst hne
    exact ⟨setup.scored segment, by simp, (evaluate_records h).1⟩
  · have henv := @env_of_initial setup filters part segment hinitial hne
    have hrequired := @requiredLength_of_initial setup part segment hinitial hne
    have hlength := hlong hne
    rcases hinitial with ⟨rest, rfl⟩
    rw [hrequired] at hlength
    rcases runSegment_continues env_standard rfl hlength h with ⟨r₀, j₀, hran, hextends⟩
    rw [List.take_left, ← henv] at hran
    rw [List.drop_left] at hextends
    refine ⟨rest, ?_, ?_⟩
    · rw [ShadowSetup.scored, ShadowSetup.scored, ← hrequired]
      exact List.drop_append_of_le_length (by omega)
    · rw [runOn_eq hran]
      exact hextends

end Parts

/-! ## The parts scored so far -/

/-- A segment of the stored candles, and the part of it that has been scored. -/
structure CoveredSegment where
  segment : List Candle
  part : List Candle

/-- The segment is scored up to where a cycle last read it, and its run returned; `reads` are the
newest candles that cycles have read. -/
structure CoveredSegment.Valid (setup : ShadowSetup) (filters : SymbolFilters)
    (reads : List Candle) (x : CoveredSegment) : Prop where
  initial : x.part <+: x.segment
  read : x.part ≠ [] → setup.requiredLength setup.bootstrapState x.part ≤ x.part.length ∧
    (∃ ran, setup.evaluate filters setup.bootstrapState x.part = .ok ran) ∧
    ∃ c ∈ reads, x.part.getLast? = some c
  longest : ∀ part, part <+: x.segment →
    setup.requiredLength setup.bootstrapState part ≤ part.length →
    (∃ ran, setup.evaluate filters setup.bootstrapState part = .ok ran) →
    (∃ c ∈ reads, part.getLast? = some c) → part.length ≤ x.part.length

namespace CoveredSegment.Valid

variable {setup : ShadowSetup} {filters : SymbolFilters} {reads segment part more : List Candle}
  {last : Candle} {x : CoveredSegment}

/-- A segment none of whose candles was read when it was the newest is not scored. -/
theorem unread (hunread : ∀ c ∈ segment, c ∉ reads) : Valid setup filters reads ⟨segment, []⟩ where
  initial := List.nil_prefix
  read := fun hne => absurd rfl hne
  longest := by
    rintro part hinitial - - ⟨c, hread, hlast⟩
    exact absurd hread (hunread c (hinitial.subset (List.mem_of_getLast? hlast)))

/-- Candles that were not read leave the part as it is. -/
theorem append (h : Valid setup filters reads ⟨segment, part⟩) (hunread : ∀ c ∈ more, c ∉ reads) :
    Valid setup filters reads ⟨segment ++ more, part⟩ where
  initial := h.initial.trans (List.prefix_append _ _)
  read := h.read
  longest := by
    rintro part' hinitial hlong hran ⟨c, hread, hlast⟩
    by_cases hle : part'.length ≤ segment.length
    · have hwithin : part' <+: segment :=
        List.prefix_of_prefix_length_le hinitial (List.prefix_append _ _) hle
      exact h.longest part' hwithin hlong hran ⟨c, hread, hlast⟩
    · -- otherwise the last candle of the part is one of the later ones
      have hbeyond : segment <+: part' :=
        List.prefix_of_prefix_length_le (List.prefix_append _ _) hinitial (by omega)
      rcases hbeyond with ⟨y, rfl⟩
      have hy : y <+: more := (List.prefix_append_right_inj segment).1 hinitial
      have hne : y ≠ [] := by
        rintro rfl
        simp at hle
      rw [List.getLast?_append_of_ne_nil _ hne] at hlast
      exact absurd hread (hunread c (hy.subset (List.mem_of_getLast? hlast)))

/-- Reading another candle leaves the part as it is, unless a longer part ends with it. -/
theorem addRead (h : x.Valid setup filters reads)
    (hlast : ∀ part, part <+: x.segment →
      setup.requiredLength setup.bootstrapState part ≤ part.length →
      (∃ ran, setup.evaluate filters setup.bootstrapState part = .ok ran) →
      part.getLast? = some last → part.length ≤ x.part.length) :
    x.Valid setup filters (reads ++ [last]) where
  initial := h.initial
  read := by
    intro hne
    rcases h.read hne with ⟨hlong, hran, c, hread, hend⟩
    exact ⟨hlong, hran, c, List.mem_append_left _ hread, hend⟩
  longest := by
    rintro part hinitial hlong hran ⟨c, hread, hend⟩
    rcases List.mem_append.1 hread with hold | hnew
    · exact h.longest part hinitial hlong hran ⟨c, hold, hend⟩
    · rw [List.mem_singleton.1 hnew] at hend
      exact hlast part hinitial hlong hran hend

/-- A cycle that scores the whole segment leaves nothing of it. -/
theorem scored (hlong : setup.requiredLength setup.bootstrapState segment ≤ segment.length)
    (hran : ∃ ran, setup.evaluate filters setup.bootstrapState segment = .ok ran)
    (hend : segment.getLast? = some last) (hread : last ∈ reads) :
    Valid setup filters reads ⟨segment, segment⟩ where
  initial := List.prefix_rfl
  read := fun _ => ⟨hlong, hran, last, hread, hend⟩
  longest := fun _ hinitial _ _ _ => hinitial.length_le

end CoveredSegment.Valid

/-- The candles scored so far. -/
def scoredCandles (setup : ShadowSetup) (cov : List CoveredSegment) : List Candle :=
  cov.flatMap fun x => setup.scored x.part

def runsOf (setup : ShadowSetup) (filters : SymbolFilters) (cov : List CoveredSegment) :
    List RunRecords :=
  cov.map fun x => setup.runOn filters x.part

/-- The tables hold the rows of the runs over the parts, and the mark is the close of the last candle
scored. -/
structure Covers (setup : ShadowSetup) (filters : SymbolFilters) (stored reads : List Candle)
    (store : ShadowStore) (cov : List CoveredSegment) : Prop where
  segments : cov.map CoveredSegment.segment = segmentsOf hourMs stored
  valid : ∀ x ∈ cov, x.Valid setup filters reads
  readStored : ∀ c ∈ reads, c ∈ stored
  recorded : RecordedAs store (runsOf setup filters cov)
  notified : setup.messages.Return → Notified store.outbox
    ((runsOf setup filters cov).flatMap RunRecords.entryTimes)
    ((runsOf setup filters cov).flatMap RunRecords.exitTimes)
  mark : store.runState.lastProcessedCloseTimeMs =
    (scoredCandles setup cov).getLast?.map Candle.closeTimeMs

section Covering

variable {setup : ShadowSetup} {filters : SymbolFilters} {exchange : ServedCandles}
  {warmup fwd stored reads : List Candle} {store : ShadowStore} {cov : List CoveredSegment}

/-- The parts of the first segments, in order, are a part of them. -/
theorem scoredCandles_sublist (hinitial : ∀ x ∈ cov, x.part <+: x.segment) :
    (scoredCandles setup cov).Sublist (cov.map CoveredSegment.segment).flatten := by
  induction cov with
  | nil => exact List.Sublist.refl _
  | cons x cov ih =>
      have hrest := ih fun y hy => hinitial y (List.mem_cons_of_mem x hy)
      have hfirst : (setup.scored x.part).Sublist x.segment :=
        (List.drop_sublist _ _).trans (hinitial x List.mem_cons_self).sublist
      simpa [scoredCandles] using hfirst.append hrest

theorem IsWarmup.ne_nil (h : IsWarmup setup warmup) : warmup ≠ [] := by
  have hpos := setup.warmupCandleCount_pos
  intro hnil
  have hlength := h.length
  rw [hnil, List.length_nil] at hlength
  omega

/-- A segment that begins with the warm-up is required to go beyond it. -/
theorem IsWarmup.requiredLength (h : IsWarmup setup warmup) {part x : List Candle}
    (hinitial : part <+: warmup ++ x) (hpart : part ≠ []) :
    setup.requiredLength setup.bootstrapState part =
      computeEffectiveMinRequiredCandles warmup.length := by
  have hne := h.ne_nil
  have hhead : (warmup ++ x).head?.map Candle.openTimeMs =
      some setup.bootstrapState.warmupStartTimeMs := by
    have hstart := h.hourly 0 (List.length_pos_of_ne_nil hne)
    rw [List.head?_append_of_ne_nil _ hne, List.head?_eq_getElem?,
      List.getElem?_eq_getElem (List.length_pos_of_ne_nil hne), Option.map_some, hstart]
    simp [ShadowSetup.bootstrapState]
  rw [requiredLength_of_initial hinitial hpart, ShadowSetup.requiredLength, if_pos hhead, h.length]
  rfl

/-- Nothing of the warm-up is scored. -/
theorem scoredCandles_sublist_forward (hwarmup : IsWarmup setup warmup)
    (hsegments : cov.map CoveredSegment.segment = segmentsOf hourMs (warmup ++ fwd))
    (hinitial : ∀ x ∈ cov, x.part <+: x.segment) : (scoredCandles setup cov).Sublist fwd := by
  have hne := hwarmup.ne_nil
  rcases Groups.splitBy_chain_append hne hwarmup.hourly.chain fwd with ⟨x, rest, hsplit⟩
  have hflat : x ++ rest.flatten = fwd := by
    have hall := List.flatten_splitBy (adjacent hourMs) (warmup ++ fwd)
    rw [hsplit, List.flatten_cons, List.append_assoc] at hall
    exact List.append_cancel_left hall
  rw [segmentsOf, hsplit] at hsegments
  cases cov with
  | nil => cases hsegments
  | cons first later =>
      rcases List.cons.inj hsegments with ⟨hfirst, hlater⟩
      have hlaterSub := @scoredCandles_sublist setup later fun y hy =>
        hinitial y (List.mem_cons_of_mem first hy)
      rw [hlater] at hlaterSub
      -- the first segment holds the warm-up, and scores only what comes after its window
      have hfirstSub : (setup.scored first.part).Sublist x := by
        by_cases hpart : first.part = []
        · rw [hpart, scored_nil]
          exact List.nil_sublist x
        · have hbegin := hinitial first List.mem_cons_self
          rw [hfirst] at hbegin
          have hrequired : setup.requiredLength setup.bootstrapState first.part - 1 =
              warmup.length + confirmationWindow1hCandles := by
            rw [hwarmup.requiredLength hbegin hpart]
            rfl
          have hdrop := hbegin.drop (warmup.length + confirmationWindow1hCandles)
          rw [List.drop_length_add_append] at hdrop
          rw [ShadowSetup.scored, hrequired]
          exact hdrop.sublist.trans (List.drop_sublist _ _)
      have hboth := hfirstSub.append hlaterSub
      rw [hflat] at hboth
      simpa [scoredCandles] using hboth

/-- No two forward candles close at the same time. -/
theorem nodup_closes_of_sublist {candles : List Candle} (h : candles.Sublist exchange.forward) :
    (candles.map Candle.closeTimeMs).Nodup :=
  List.pairwise_map.2 ((exchange.forward_later.sublist h).imp fun hlt => hlt.2.2.ne)

/-! ### More candles -/

/-- The last segment of stored candles is the last of the cover. -/
theorem Covers.exists_last (h : Covers setup filters stored reads store cov) (hne : stored ≠ []) :
    ∃ covInit segment part, cov = covInit ++ [⟨segment, part⟩] ∧
      segmentsOf hourMs stored = covInit.map CoveredSegment.segment ++ [segment] := by
  rcases List.eq_nil_or_concat cov with hnil | ⟨covInit, x, hcov⟩
  · have hempty := h.segments
    rw [hnil] at hempty
    exact absurd (List.splitBy_eq_nil.1 hempty.symm) hne
  · rw [List.concat_eq_append] at hcov
    refine ⟨covInit, x.segment, x.part, hcov, ?_⟩
    rw [← h.segments, hcov, List.map_append]
    rfl

/-- Runs that record nothing have no rows. -/
theorem flatMap_nothing {ρ : Type} {nothing : List RunRecords} (rows : RunRecords → List ρ)
    (hstart : rows (.start (some [])) = []) (hnothing : ∀ a ∈ nothing, a = .start (some [])) :
    nothing.flatMap rows = [] := by
  refine List.flatMap_eq_nil_iff.2 ?_
  intro a ha
  rw [hnothing a ha, hstart]

theorem flatMap_append_nothing {ρ : Type} {runs nothing : List RunRecords}
    (rows : RunRecords → List ρ) (hstart : rows (.start (some [])) = [])
    (hnothing : ∀ a ∈ nothing, a = .start (some [])) :
    (runs ++ nothing).flatMap rows = runs.flatMap rows := by
  rw [List.flatMap_append, flatMap_nothing rows hstart hnothing, List.append_nil]

theorem RecordedAs.append_nothing {runs nothing : List RunRecords} (h : RecordedAs store runs)
    (hnothing : ∀ a ∈ nothing, a = .start (some [])) : RecordedAs store (runs ++ nothing) where
  trades := h.trades.trans (flatMap_append_nothing _ rfl hnothing).symm
  equity := h.equity.trans (flatMap_append_nothing _ rfl hnothing).symm
  journal := h.journal.trans (flatMap_append_nothing _ rfl hnothing).symm

theorem Notified.append_nothing {outbox : Outbox} {runs nothing : List RunRecords}
    (h : Notified outbox (runs.flatMap RunRecords.entryTimes) (runs.flatMap RunRecords.exitTimes))
    (hnothing : ∀ a ∈ nothing, a = .start (some [])) :
    Notified outbox ((runs ++ nothing).flatMap RunRecords.entryTimes)
      ((runs ++ nothing).flatMap RunRecords.exitTimes) := by
  rw [flatMap_append_nothing RunRecords.entryTimes rfl hnothing,
    flatMap_append_nothing RunRecords.exitTimes rfl hnothing]
  exact h

/-- Storing more candles lets the last segment go on, and begins new ones that are not scored. -/
theorem Covers.grow (h : Covers setup filters stored reads store cov) (hne : stored ≠ [])
    {later : List Candle} (hordered : Ordered (stored ++ later)) :
    ∃ cov', Covers setup filters (stored ++ later) reads store cov' := by
  rcases h.exists_last hne with ⟨covInit, segment, part, rfl, hlast⟩
  rcases segmentsOf_append hlast later with ⟨x, rest, hgrown⟩
  have hlater : x ++ rest.flatten = later := by
    have hbefore := List.flatten_splitBy (adjacent hourMs) stored
    have hafter := List.flatten_splitBy (adjacent hourMs) (stored ++ later)
    rw [segmentsOf] at hlast hgrown
    rw [hlast] at hbefore
    rw [hgrown, ← hbefore] at hafter
    simpa using hafter
  -- what the later candles bring is after all that was read
  have hunread : ∀ c ∈ later, c ∉ reads := by
    intro c hc hread
    have hlt := (List.pairwise_append.1 hordered).2.2 c (h.readStored c hread) c hc
    exact lt_irrefl _ hlt
  let unscored : List CoveredSegment := rest.map fun s => ⟨s, []⟩
  have hruns : runsOf setup filters (covInit ++ ⟨segment ++ x, part⟩ :: unscored) =
      runsOf setup filters (covInit ++ [⟨segment, part⟩]) ++ runsOf setup filters unscored := by
    simp [runsOf]
  have hnothing : ∀ a ∈ runsOf setup filters unscored, a = .start (some []) := by
    intro a ha
    rcases List.mem_map.1 ha with ⟨y, hy, rfl⟩
    rcases List.mem_map.1 hy with ⟨s, hs, rfl⟩
    rfl
  refine ⟨covInit ++ ⟨segment ++ x, part⟩ :: unscored, ?_⟩
  constructor
  case segments => simp [hgrown, unscored, Function.comp_def]
  case valid =>
      intro y hy
      rcases List.mem_append.1 hy with hold | hnew
      · exact h.valid y (List.mem_append_left _ hold)
      · rcases List.mem_cons.1 hnew with rfl | hmem
        · refine (h.valid ⟨segment, part⟩ (by simp)).append ?_
          intro c hc
          exact hunread c (hlater ▸ List.mem_append_left _ hc)
        · rcases List.mem_map.1 hmem with ⟨s, hs, rfl⟩
          refine .unread ?_
          intro c hc
          exact hunread c (hlater ▸ List.mem_append_right x (List.mem_flatten_of_mem hs hc))
  case readStored => exact fun c hc => List.mem_append_left _ (h.readStored c hc)
  case recorded =>
      rw [hruns]
      exact h.recorded.append_nothing hnothing
  case notified =>
      intro hmessages
      rw [hruns]
      exact (h.notified hmessages).append_nothing hnothing
  case mark =>
      have hscored : scoredCandles setup (covInit ++ ⟨segment ++ x, part⟩ :: unscored) =
          scoredCandles setup (covInit ++ [⟨segment, part⟩]) := by
        simp [scoredCandles, unscored, List.flatMap_map]
      rw [hscored]
      exact h.mark

/-- What is done to the outbox concerns no other table. -/
theorem Covers.withOutbox (h : Covers setup filters stored reads store cov) {outbox : Outbox}
    (hkept : ∀ entryTimes exitTimes, Notified store.outbox entryTimes exitTimes →
      Notified outbox entryTimes exitTimes) :
    Covers setup filters stored reads { store with outbox := outbox } cov where
  segments := h.segments
  valid := h.valid
  readStored := h.readStored
  recorded := ⟨h.recorded.trades, h.recorded.equity, h.recorded.journal⟩
  notified := fun hmessages => hkept _ _ (h.notified hmessages)
  mark := h.mark

/-! ### A cycle reads them -/

/-- The newest candle is the last one of the last segment, and of no segment before it. -/
structure Newest (stored : List Candle) (covInit : List CoveredSegment) (segment : List Candle)
    (last : Candle) : Prop where
  latest : (segmentsOf hourMs stored).getLast? = some segment
  ends : segment.getLast? = some last
  nodup : segment.Nodup
  others : ∀ x ∈ covInit, last ∉ x.segment

theorem Covers.newest (h : Covers setup filters stored reads store cov) (hordered : Ordered stored)
    {last : Candle} (hlast : stored.getLast? = some last) :
    ∃ covInit segment part, cov = covInit ++ [⟨segment, part⟩] ∧
      Newest stored covInit segment last := by
  have hne : stored ≠ [] := by
    rintro rfl
    cases hlast
  rcases h.exists_last hne with ⟨covInit, segment, part, hcov, hsegments⟩
  have hflat := List.flatten_splitBy (adjacent hourMs) stored
  have hnil : [] ∉ segmentsOf hourMs stored := List.nil_notMem_splitBy _ _
  rw [← segmentsOf, hsegments, List.flatten_append, List.flatten_singleton] at hflat
  rw [hsegments] at hnil
  have hsegment : segment ≠ [] := fun heq => hnil (by simp [heq])
  have hnodup : stored.Nodup := hordered.nodup
  rw [← hflat] at hnodup hlast
  rw [List.getLast?_append_of_ne_nil _ hsegment] at hlast
  refine ⟨covInit, segment, part, hcov, by simp [hsegments], hlast,
    (List.nodup_append.1 hnodup).2.1, ?_⟩
  intro x hx hmem
  have hearlier : last ∈ (covInit.map CoveredSegment.segment).flatten :=
    List.mem_flatten_of_mem (List.mem_map_of_mem hx) hmem
  exact (List.nodup_append.1 hnodup).2.2 last hearlier last (List.mem_of_getLast? hlast) rfl

/-- The high-water mark after these candles. -/
def markAfter (scored : List Candle) : ℤ :=
  (scored.getLast?.map Candle.closeTimeMs).getD (-1)

theorem le_markAfter {scored : List Candle} (hsub : scored.Sublist exchange.forward) {c : Candle}
    (hc : c ∈ scored) : c.openTimeMs ≤ markAfter scored ∧ c.closeTimeMs ≤ markAfter scored := by
  rcases List.eq_nil_or_concat scored with rfl | ⟨front, last, rfl⟩
  · cases hc
  · rw [List.concat_eq_append] at hc hsub ⊢
    have hmark : markAfter (front ++ [last]) = last.closeTimeMs := by simp [markAfter]
    have hclose := ServedCandles.forward_closes (hsub.subset hc)
    have hle : c.closeTimeMs ≤ last.closeTimeMs := by
      rcases List.mem_append.1 hc with hfront | hend
      · have hlater := exchange.forward_later.sublist hsub
        exact ((List.pairwise_append.1 hlater).2.2 c hfront last (by simp)).2.2.le
      · rw [List.mem_singleton.1 hend]
    rw [hmark]
    exact ⟨hclose.trans hle, hle⟩

/-- Forward candles after those scored are after the mark. -/
theorem after_markAfter {scored cs : List Candle} (hsub : (scored ++ cs).Sublist exchange.forward) :
    After (markAfter scored) cs := by
  have hforward : ∀ c ∈ cs, c ∈ exchange.forward := fun c hc =>
    hsub.subset (List.mem_append_right scored hc)
  have hspaced := exchange.forward_spaced.sublist hsub
  refine ⟨?_, fun c hc => ServedCandles.forward_closes (hforward c hc),
    (List.pairwise_append.1 hspaced).2.1⟩
  intro c hc
  cases hlast : scored.getLast? with
  | none =>
      have hboundary := ServedCandles.boundary_le (hforward c hc)
      have hpos : (-1 : ℤ) < shadowStartBoundaryMs := by decide
      rw [markAfter, hlast]
      exact hpos.trans_le hboundary
  | some last =>
      rw [markAfter, hlast]
      exact (List.pairwise_append.1 hspaced).2.2 last (List.mem_of_getLast? hlast) c hc

/-- What a cycle leaves of the store: nothing is committed when it raises. -/
def storeAfter (store : ShadowStore) :
    Except PyError (ShadowStore × ShadowCycleResult) → ShadowStore
  | .ok (store', _) => store'
  | .error _ => store

/-- The same rows, the same mark and the same open position. -/
structure SameRows (store store' : ShadowStore) : Prop where
  trades : store'.trades = store.trades
  equity : store'.equity = store.equity
  journal : store'.journalEntries = store.journalEntries
  outbox : store'.outbox = store.outbox
  mark : store'.runState.lastProcessedCloseTimeMs = store.runState.lastProcessedCloseTimeMs
  openPosition : store'.runState.openPosition = store.runState.openPosition

theorem SameRows.refl (store : ShadowStore) : SameRows store store :=
  ⟨rfl, rfl, rfl, rfl, rfl, rfl⟩

theorem SameRows.touchCycle (store : ShadowStore) (nowMs : ℤ) (status : ShadowStatus)
    (detail : String) (segmentLength : Option ℕ) :
    SameRows store (store.touchCycle nowMs status detail segmentLength) :=
  ⟨rfl, rfl, rfl, rfl, rfl, rfl⟩

/-- The newest candle is processed already, or its segment is too short. -/
def NothingToScore (setup : ShadowSetup) (store : ShadowStore) (last : Candle)
    (segment : List Candle) : Prop :=
  store.runState.lastProcessedCloseTimeMs = some last.closeTimeMs ∨
    segment.length < setup.requiredLength setup.bootstrapState segment

/-- What a cycle makes of the candles it reads. -/
inductive CycleOutcome (setup : ShadowSetup) (filters : SymbolFilters) (store : ShadowStore)
    (last : Candle) (segment : List Candle) (newCandlesFetched : ℕ) (nowMs : ℤ) :
    Except PyError (ShadowStore × ShadowCycleResult) → Prop where
  | quiet {store' : ShadowStore} {result : ShadowCycleResult}
      (nothing : NothingToScore setup store last segment) (same : SameRows store store')
      (status : result.status ≠ .ok) :
      CycleOutcome setup filters store last segment newCandlesFetched nowMs (.ok (store', result))
  | raised {e : PyError}
      (error : setup.evaluate filters setup.bootstrapState segment = .error e) :
      CycleOutcome setup filters store last segment newCandlesFetched nowMs (.error e)
  | scored {run : SegmentRunResult} {journal : Journal}
      (longEnough : setup.requiredLength setup.bootstrapState segment ≤ segment.length)
      (ran : setup.evaluate filters setup.bootstrapState segment = .ok (run, journal)) :
      CycleOutcome setup filters store last segment newCandlesFetched nowMs
        (.ok (recordRun setup filters segment last.closeTimeMs
          (setup.requiredLength setup.bootstrapState segment) newCandlesFetched nowMs run
          journal.rows store))

/-- A cycle scores the latest segment unless it is processed, too short or its run raises. -/
theorem evaluateCycle_outcome {candleStore : CandleStore} {last : Candle} {segment : List Candle}
    (hread : candleStore.getCandles (some setup.bootstrapState.warmupStartTimeMs) none = stored)
    (hordered : Ordered stored) (hlast : stored.getLast? = some last)
    (hlatest : (segmentsOf hourMs stored).getLast? = some segment) (newCandlesFetched : ℕ)
    (nowMs : ℤ) :
    CycleOutcome setup filters store last segment newCandlesFetched nowMs
      (evaluateCycle setup setup.bootstrapState newCandlesFetched (.ok filters) nowMs candleStore
        store) := by
  have hne : stored ≠ [] := by
    rintro rfl
    cases hlast
  have hpartition : partitionIntoSegments hourMs stored = _ :=
    partitionIntoSegments_of_ordered hordered hne
  unfold evaluateCycle
  simp only [hread, hlast, hpartition, bind, Except.bind, hlatest]
  by_cases hprocessed : store.runState.lastProcessedCloseTimeMs = some last.closeTimeMs
  · rw [if_pos hprocessed]
    exact .quiet (Or.inl hprocessed) (.touchCycle _ _ _ _ _) (by simp [quietResult])
  rw [if_neg hprocessed]
  by_cases hshort : segment.length < setup.requiredLength setup.bootstrapState segment
  · rw [if_pos hshort]
    exact .quiet (Or.inr hshort) (.touchCycle _ _ _ _ _) (by simp [quietResult])
  rw [if_neg hshort]
  cases hran : setup.evaluate filters setup.bootstrapState segment with
  | error e => exact .raised hran
  | ok ran =>
      rcases ran with ⟨run, journal⟩
      exact .scored (not_lt.1 hshort) hran

/-- A part that holds the last candle of its segment is the whole segment. -/
theorem eq_of_last_mem {part segment : List Candle} {last : Candle} (hinitial : part <+: segment)
    (hnodup : segment.Nodup) (hend : segment.getLast? = some last) (hmem : last ∈ part) :
    part = segment := by
  rcases hinitial with ⟨y, rfl⟩
  rcases List.eq_nil_or_concat y with rfl | ⟨z, c, rfl⟩
  · exact (List.append_nil part).symm
  · have hc : c = last := by simpa [← List.append_assoc] using hend
    have hlater : last ∈ z.concat c := by simp [hc]
    exact absurd rfl ((List.nodup_append.1 hnodup).2.2 last hmem last hlater)

section Cycle

variable {covInit : List CoveredSegment} {segment part : List Candle} {last : Candle}
  {run : SegmentRunResult} {journal : Journal}

/-- Where the mark is the close of the newest candle, the whole last segment is scored. -/
theorem Covers.part_eq_of_processed (h : Covers setup filters (warmup ++ fwd) reads store
      (covInit ++ [⟨segment, part⟩])) (hwarmup : IsWarmup setup warmup)
    (hfwd : fwd.Sublist exchange.forward) (hlast : (warmup ++ fwd).getLast? = some last)
    (hnewest : Newest (warmup ++ fwd) covInit segment last)
    (hmark : store.runState.lastProcessedCloseTimeMs = some last.closeTimeMs) : part = segment := by
  have hinitial := fun x hx => (h.valid x hx).initial
  have hsub := scoredCandles_sublist_forward hwarmup h.segments hinitial
  have hmarked := h.mark
  rw [hmark] at hmarked
  rcases Option.map_eq_some_iff.1 hmarked.symm with ⟨c, hc, hclose⟩
  have hcforward := hsub.subset (List.mem_of_getLast? hc)
  have hboundary := ServedCandles.boundary_le (hfwd.subset hcforward)
  have hcclose := ServedCandles.forward_closes (hfwd.subset hcforward)
  -- the closes differ from candle to candle, so the last one scored is the newest
  have hsame : c = last := by
    rcases List.mem_append.1 (List.mem_of_getLast? hlast) with hwarm | hforward
    · have hbefore := hwarmup.closes last hwarm
      linarith
    · exact List.inj_on_of_nodup_map (nodup_closes_of_sublist hfwd) hcforward hforward hclose
  have hmem : last ∈ scoredCandles setup (covInit ++ [⟨segment, part⟩]) :=
    hsame ▸ List.mem_of_getLast? hc
  rcases List.mem_flatMap.1 hmem with ⟨x, hx, hscored⟩
  have hpart : last ∈ x.part := List.mem_of_mem_drop hscored
  rcases List.mem_append.1 hx with hearlier | hmine
  · exact absurd ((hinitial x hx).subset hpart) (hnewest.others x hearlier)
  · rw [List.mem_singleton.1 hmine] at hpart
    exact eq_of_last_mem (hinitial ⟨segment, part⟩ (by simp)) hnewest.nodup hnewest.ends hpart

/-- A read of the newest candle does not concern the segments before the last. -/
theorem Covers.earlier_valid (h : Covers setup filters stored reads store
      (covInit ++ [⟨segment, part⟩])) (hnewest : Newest stored covInit segment last) :
    ∀ x ∈ covInit, x.Valid setup filters (reads ++ [last]) := by
  intro x hx
  refine (h.valid x (List.mem_append_left _ hx)).addRead ?_
  intro part' hinitial _ _ hend
  exact absurd (hinitial.subset (List.mem_of_getLast? hend)) (hnewest.others x hx)

theorem Covers.readStored_last (h : Covers setup filters stored reads store cov)
    (hlast : stored.getLast? = some last) : ∀ c ∈ reads ++ [last], c ∈ stored := by
  intro c hc
  rcases List.mem_append.1 hc with hold | hnew
  · exact h.readStored c hold
  · rw [List.mem_singleton.1 hnew]
    exact List.mem_of_getLast? hlast

/-- A cycle that scores nothing leaves everything as it is. -/
theorem Covers.quiet {store' : ShadowStore} (h : Covers setup filters (warmup ++ fwd) reads store
      (covInit ++ [⟨segment, part⟩])) (hwarmup : IsWarmup setup warmup)
    (hfwd : fwd.Sublist exchange.forward) (hlast : (warmup ++ fwd).getLast? = some last)
    (hnewest : Newest (warmup ++ fwd) covInit segment last)
    (hnothing : NothingToScore setup store last segment ∨
      ∃ e, setup.evaluate filters setup.bootstrapState segment = .error e)
    (hsame : SameRows store store') :
    Covers setup filters (warmup ++ fwd) (reads ++ [last]) store'
      (covInit ++ [⟨segment, part⟩]) := by
  have hlastValid : CoveredSegment.Valid setup filters (reads ++ [last]) ⟨segment, part⟩ := by
    refine (h.valid ⟨segment, part⟩ (by simp)).addRead ?_
    intro part' hinitial hlong hran hend
    have hwhole := eq_of_last_mem hinitial hnewest.nodup hnewest.ends
      (List.mem_of_getLast? hend)
    subst hwhole
    rcases hnothing with (hprocessed | hshort) | ⟨e, herror⟩
    · rw [h.part_eq_of_processed hwarmup hfwd hlast hnewest hprocessed]
    · exact absurd hlong (not_le.2 hshort)
    · rcases hran with ⟨ran, hok⟩
      cases herror.symm.trans hok
  refine ⟨h.segments, ?_, h.readStored_last hlast, ?_, ?_, hsame.mark.trans h.mark⟩
  · intro x hx
    rcases List.mem_append.1 hx with hold | hnew
    · exact h.earlier_valid hnewest x hold
    · exact (List.mem_singleton.1 hnew).symm ▸ hlastValid
  · exact ⟨hsame.trades.trans h.recorded.trades, hsame.equity.trans h.recorded.equity,
      hsame.journal.trans h.recorded.journal⟩
  · intro hmessages
    rw [hsame.outbox]
    exact h.notified hmessages

/-- The run over the whole last segment goes on after the mark. -/
theorem Covers.continues (h : Covers setup filters (warmup ++ fwd) reads store
      (covInit ++ [⟨segment, part⟩])) (hwarmup : IsWarmup setup warmup)
    (hfwd : fwd.Sublist exchange.forward)
    (hran : setup.evaluate filters setup.bootstrapState segment = .ok (run, journal)) :
    ∃ cs, Continues (store.runState.lastProcessedCloseTimeMs.getD (-1))
      (runsOf setup filters covInit) (setup.runOn filters part) (run.records journal) cs := by
  have hvalid : CoveredSegment.Valid setup filters reads ⟨segment, part⟩ := h.valid _ (by simp)
  rcases runOn_continues hvalid.initial (fun hne => (hvalid.read hne).1) hran with
    ⟨cs, hscored, hextends⟩
  -- what is scored then is again a part of the forward candles
  let whole : CoveredSegment := ⟨segment, segment⟩
  have hsegments : (covInit ++ [whole]).map CoveredSegment.segment =
      segmentsOf hourMs (warmup ++ fwd) := by
    simpa [whole] using h.segments
  have hinitial : ∀ x ∈ covInit ++ [whole], x.part <+: x.segment := by
    intro x hx
    rcases List.mem_append.1 hx with hold | hnew
    · exact (h.valid x (List.mem_append_left _ hold)).initial
    · rw [List.mem_singleton.1 hnew]
  have hsub := (scoredCandles_sublist_forward hwarmup hsegments hinitial).trans hfwd
  have hcov : scoredCandles setup (covInit ++ [whole]) =
      scoredCandles setup (covInit ++ [⟨segment, part⟩]) ++ cs := by
    simp [whole, scoredCandles, hscored]
  rw [hcov] at hsub
  have hmark : store.runState.lastProcessedCloseTimeMs.getD (-1) =
      markAfter (scoredCandles setup (covInit ++ [⟨segment, part⟩])) := by
    rw [h.mark, markAfter]
  rw [hmark]
  refine ⟨cs, ?_, runOn_complete, hextends, after_markAfter hsub⟩
  intro a ha
  have hrun : ∃ x ∈ covInit ++ [(⟨segment, part⟩ : CoveredSegment)],
      setup.runOn filters x.part = a := by
    rcases List.mem_append.1 ha with hold | hnew
    · rcases List.mem_map.1 hold with ⟨x, hx, rfl⟩
      exact ⟨x, List.mem_append_left _ hx, rfl⟩
    · exact ⟨⟨segment, part⟩, by simp, (List.mem_singleton.1 hnew).symm⟩
  rcases hrun with ⟨x, hx, rfl⟩
  refine runOn_upTo ?_
  intro c hc
  exact le_markAfter ((List.sublist_append_left _ cs).trans hsub) (List.mem_flatMap.2 ⟨x, hx, hc⟩)

/-- A cycle that scores the last segment leaves nothing of it. -/
theorem Covers.score (h : Covers setup filters (warmup ++ fwd) reads store
      (covInit ++ [⟨segment, part⟩])) (hwarmup : IsWarmup setup warmup)
    (hfwd : fwd.Sublist exchange.forward) (hlast : (warmup ++ fwd).getLast? = some last)
    (hnewest : Newest (warmup ++ fwd) covInit segment last)
    (hlong : setup.requiredLength setup.bootstrapState segment ≤ segment.length)
    (hran : setup.evaluate filters setup.bootstrapState segment = .ok (run, journal))
    (newCandlesFetched : ℕ) (nowMs : ℤ) :
    Covers setup filters (warmup ++ fwd) (reads ++ [last])
      (recordRun setup filters segment last.closeTimeMs
        (setup.requiredLength setup.bootstrapState segment) newCandlesFetched nowMs run
        journal.rows store).1 (covInit ++ [⟨segment, segment⟩]) := by
  rcases h.continues hwarmup hfwd hran with ⟨cs, hcontinues⟩
  -- the run over the whole segment takes the place of the run over its part
  have hruns : runsOf setup filters (covInit ++ [⟨segment, segment⟩]) =
      runsOf setup filters covInit ++ [run.records journal] := by
    simp [runsOf, runOn_eq hran]
  have hfront : runsOf setup filters (covInit ++ [⟨segment, part⟩]) =
      runsOf setup filters covInit ++ [setup.runOn filters part] := by
    simp [runsOf]
  refine ⟨by simpa using h.segments, ?_, h.readStored_last hlast, ?_, ?_, ?_⟩
  · intro x hx
    rcases List.mem_append.1 hx with hold | hnew
    · exact h.earlier_valid hnewest x hold
    · rw [List.mem_singleton.1 hnew]
      exact .scored hlong ⟨_, hran⟩ hnewest.ends (by simp)
  · rw [hruns]
    exact (hfront ▸ h.recorded).commit rfl setup filters segment last.closeTimeMs
      (setup.requiredLength setup.bootstrapState segment) newCandlesFetched nowMs run journal
      hcontinues
  · intro hmessages
    rw [hruns]
    exact (hfront ▸ h.notified hmessages).commit rfl hmessages (entriesShown_of_evaluate hran)
      segment last.closeTimeMs (setup.requiredLength setup.bootstrapState segment)
      newCandlesFetched nowMs hcontinues
  · -- the newest candle is the last one scored
    have hpos := setup.requiredLength_pos setup.bootstrapState segment
    have hshown : (setup.scored segment).getLast? = some last := by
      rw [ShadowSetup.scored, List.getLast?_drop, if_neg (by omega), hnewest.ends]
    have hne : setup.scored segment ≠ [] := by
      intro hnil
      rw [hnil] at hshown
      cases hshown
    have hall : scoredCandles setup (covInit ++ [⟨segment, segment⟩]) =
        scoredCandles setup covInit ++ setup.scored segment := by
      simp [scoredCandles]
    rw [hall, List.getLast?_append_of_ne_nil _ hne, hshown]
    rfl

/-- A cycle that reads the stored candles scores the last segment, or has nothing to score. -/
theorem Covers.cycle (h : Covers setup filters (warmup ++ fwd) reads store cov)
    (hwarmup : IsWarmup setup warmup) (hfwd : fwd.Sublist exchange.forward)
    (hlast : (warmup ++ fwd).getLast? = some last) {candleStore : CandleStore}
    (hread : candleStore.getCandles (some setup.bootstrapState.warmupStartTimeMs) none =
      warmup ++ fwd) (newCandlesFetched : ℕ) (nowMs : ℤ) :
    ∃ cov', Covers setup filters (warmup ++ fwd) (reads ++ [last])
      (storeAfter store (evaluateCycle setup setup.bootstrapState newCandlesFetched (.ok filters)
        nowMs candleStore store)) cov' := by
  have hordered := ordered_append hwarmup hfwd
  rcases h.newest hordered hlast with ⟨covInit, segment, part, rfl, hnewest⟩
  have houtcome := @evaluateCycle_outcome setup filters _ store candleStore last segment hread
    hordered hlast hnewest.latest newCandlesFetched nowMs
  generalize evaluateCycle setup setup.bootstrapState newCandlesFetched (.ok filters) nowMs
    candleStore store = outcome at houtcome ⊢
  cases houtcome with
  | quiet nothing same status =>
      exact ⟨_, h.quiet hwarmup hfwd hlast hnewest (Or.inl nothing) same⟩
  | raised error =>
      exact ⟨_, h.quiet hwarmup hfwd hlast hnewest (Or.inr ⟨_, error⟩) (.refl store)⟩
  | scored longEnough ran =>
      exact ⟨_, h.score hwarmup hfwd hlast hnewest longEnough ran newCandlesFetched nowMs⟩

end Cycle

end Covering

end TradingAgent
