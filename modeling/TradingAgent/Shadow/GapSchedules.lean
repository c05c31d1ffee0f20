import TradingAgent.Shadow.Schedules

/-!
# Gap schedules — what a schedule scores before a gap

A cycle evaluates the latest segment only and moves the mark to its end.  What an earlier segment
still had to score is then behind the mark, so it depends on the schedule whether the end of a
segment was scored before the first candle after the gap arrived.

* `EndsRead` says that it was, for every segment that is long enough;
* `Covers.part_eq_iff`: these are the segments of which everything is scored;
* `schedules_agree_iff`: two finished schedules leave the same rows, with every candle scored once,
  exactly when both have read the ends of these segments.
-/

namespace TradingAgent

/-! ## What is said about a schedule -/

/-- Every candle of a segment that is long enough is scored exactly once. -/
def ScoredOnce (setup : ShadowSetup) (stored : List Candle) (store : ShadowStore) : Prop :=
  ∀ segment ∈ segmentsOf hourMs stored,
    setup.requiredLength setup.bootstrapState segment ≤ segment.length →
    ∀ c ∈ setup.scored segment,
      (store.equity.map EquityPoint.timestampMs).count c.closeTimeMs = 1

/-- The same trades, equity points and journal entries. -/
structure SameRecords (store store' : ShadowStore) : Prop where
  trades : store.trades = store'.trades
  equity : store.equity = store'.equity
  journal : store.journalEntries = store'.journalEntries

/-- All forward candles have arrived, and a cycle since then has returned. -/
def Finished (setup : ShadowSetup) (filters : SymbolFilters) (exchange : ServedCandles)
    (db : ShadowDb) (passes : List ShadowPass) : Prop :=
  ∃ before arriving nowMs after, passes = before ++ .cycle arriving nowMs :: after ∧
    exchange.forward.length ≤ arrivedAfter before + arriving ∧
    ∃ result, (runShadowCycle setup none (exchange.answers filters arriving) nowMs
      (Runs.final (runPass setup filters exchange) db before)).2 = .ok result

/-- The run over the segment returns, and a cycle ran while its last candle was the newest. -/
def EndRead (setup : ShadowSetup) (filters : SymbolFilters) (reads segment : List Candle) : Prop :=
  (∃ ran, setup.evaluate filters setup.bootstrapState segment = .ok ran) ∧
    ∃ c ∈ reads, segment.getLast? = some c

theorem exists_ok_iff {α : Type*} {x : Except PyError α} : (∃ a, x = .ok a) ↔ x.isOk = true := by
  constructor
  · rintro ⟨a, rfl⟩
    rfl
  · exact exists_of_isOk

instance (setup : ShadowSetup) (filters : SymbolFilters) (reads segment : List Candle) :
    Decidable (EndRead setup filters reads segment) :=
  decidable_of_iff
    ((setup.evaluate filters setup.bootstrapState segment).isOk = true ∧
      ∃ c ∈ reads, segment.getLast? = some c)
    (and_congr_left' exists_ok_iff.symm)

/-- So it is for each segment that is long enough and that a gap ends. -/
def EndsRead (setup : ShadowSetup) (filters : SymbolFilters) (exchange : ServedCandles)
    (warmup : List Candle) (passes : List ShadowPass) : Prop :=
  ∀ segment ∈ (segmentsOf hourMs (warmup ++ exchange.forward)).dropLast,
    setup.requiredLength setup.bootstrapState segment ≤ segment.length →
    EndRead setup filters (newestReads exchange warmup 0 passes) segment

instance (setup : ShadowSetup) (filters : SymbolFilters) (exchange : ServedCandles)
    (warmup : List Candle) (passes : List ShadowPass) :
    Decidable (EndsRead setup filters exchange warmup passes) :=
  inferInstanceAs (Decidable (∀ segment ∈ _, _ → _))

/-! ## What is scored of a segment -/

section Parts

variable {setup : ShadowSetup} {filters : SymbolFilters} {exchange : ServedCandles}
  {warmup fwd stored reads reads' : List Candle} {store store' : ShadowStore}
  {cov cov' : List CoveredSegment} {x : CoveredSegment}

/-- Of a segment that is too short nothing is scored. -/
theorem CoveredSegment.Valid.part_nil (h : x.Valid setup filters reads)
    (hshort : x.segment.length < setup.requiredLength setup.bootstrapState x.segment) :
    x.part = [] := by
  by_contra hne
  have hlong := (h.read hne).1
  have hle := h.initial.length_le
  rw [requiredLength_of_initial h.initial hne] at hlong
  omega

/-- A segment that is long enough is scored to its end exactly where its end was read. -/
theorem CoveredSegment.Valid.part_eq_iff (h : x.Valid setup filters reads)
    (hlong : setup.requiredLength setup.bootstrapState x.segment ≤ x.segment.length) :
    x.part = x.segment ↔ EndRead setup filters reads x.segment := by
  constructor
  · intro hwhole
    have hne : x.part ≠ [] := by
      intro hnil
      have hpos := setup.requiredLength_pos setup.bootstrapState x.segment
      rw [← hwhole, hnil] at hlong hpos
      simp only [List.length_nil] at hlong
      omega
    have hread := (h.read hne).2
    rwa [hwhole] at hread
  · rintro ⟨hran, hend⟩
    have hle := h.longest x.segment List.prefix_rfl hlong hran hend
    exact h.initial.eq_of_length (le_antisymm h.initial.length_le hle)

/-- Where all ends were read, the parts are determined by the segments. -/
theorem Covers.eq_of_endsRead (h : Covers setup filters stored reads store cov)
    (h' : Covers setup filters stored reads' store' cov')
    (hends : ∀ segment ∈ segmentsOf hourMs stored,
      setup.requiredLength setup.bootstrapState segment ≤ segment.length →
        EndRead setup filters reads segment)
    (hends' : ∀ segment ∈ segmentsOf hourMs stored,
      setup.requiredLength setup.bootstrapState segment ≤ segment.length →
        EndRead setup filters reads' segment) : cov = cov' := by
  -- where every end was read, the segments alone tell which part was scored
  have hpart : ∀ {reads store cov}, Covers setup filters stored reads store cov →
      (∀ segment ∈ segmentsOf hourMs stored,
        setup.requiredLength setup.bootstrapState segment ≤ segment.length →
          EndRead setup filters reads segment) →
      cov = (segmentsOf hourMs stored).map fun segment =>
        ⟨segment, if setup.requiredLength setup.bootstrapState segment ≤ segment.length then segment
          else []⟩ := by
    intro reads store cov hcov hread
    rw [← hcov.segments, List.map_map]
    refine (List.map_id cov).symm.trans (List.map_congr_left ?_)
    rintro ⟨segment, part⟩ hx
    have hmem : segment ∈ segmentsOf hourMs stored :=
      hcov.segments ▸ List.mem_map_of_mem hx
    have hvalid := hcov.valid _ hx
    rw [Function.comp_apply]
    split
    · rename_i hlong
      have hwhole : part = segment := (hvalid.part_eq_iff hlong).2 (hread _ hmem hlong)
      rw [hwhole]
      rfl
    · rename_i hshort
      have hnil : part = [] := hvalid.part_nil (not_le.1 hshort)
      rw [hnil]
      rfl
  exact (hpart h hends).trans (hpart h' hends').symm

theorem RecordedAs.sameRecords {runs : List RunRecords} (h : RecordedAs store runs)
    (h' : RecordedAs store' runs) : SameRecords store store' :=
  ⟨h.trades.trans h'.trades.symm, h.equity.trans h'.equity.symm, h.journal.trans h'.journal.symm⟩

/-- A run over a part leaves one equity point for each candle it scores. -/
theorem CoveredSegment.Valid.equityTimes (h : x.Valid setup filters reads) :
    (setup.runOn filters x.part).equityCurve.map EquityPoint.timestampMs =
      (setup.scored x.part).map Candle.closeTimeMs := by
  by_cases hne : x.part = []
  · rw [hne, scored_nil]
    rfl
  · rcases (h.read hne).2.1 with ⟨⟨result, journal⟩, hran⟩
    rcases (evaluate_records hran).1.equityCurve with ⟨points, hpoints, htimes⟩
    rw [runOn_eq hran, hpoints]
    exact htimes

/-- The equity points are those of the candles scored. -/
theorem Covers.equityTimes (h : Covers setup filters stored reads store cov) :
    store.equity.map EquityPoint.timestampMs = (scoredCandles setup cov).map Candle.closeTimeMs := by
  rw [h.recorded.equity, runsOf, scoredCandles, List.map_flatMap, List.map_flatMap,
    List.flatMap_map]
  refine List.flatMap_congr ?_
  intro x hx
  exact (h.valid x hx).equityTimes

theorem Covers.nodup_segments (h : Covers setup filters stored reads store cov)
    (hordered : Ordered stored) : (cov.flatMap CoveredSegment.segment).Nodup := by
  rw [List.flatMap_def, h.segments, segmentsOf, List.flatten_splitBy]
  exact hordered.nodup

/-- A stored candle is in one segment only. -/
theorem Covers.eq_of_mem (h : Covers setup filters stored reads store cov)
    (hordered : Ordered stored) {y : CoveredSegment} (hx : x ∈ cov) (hy : y ∈ cov) {c : Candle}
    (hcx : c ∈ x.segment) (hcy : c ∈ y.segment) : x = y := by
  have hsymm : Std.Symm (Function.onFun List.Disjoint CoveredSegment.segment) :=
    ⟨fun _ _ hab => hab.symm⟩
  by_contra hne
  have hdisjoint := (List.nodup_flatMap.1 (h.nodup_segments hordered)).2.forall hx hy hne
  exact hdisjoint hcx hcy

/-- Scoring every segment to its end scores forward candles only. -/
theorem Covers.mem_forward_of_scored (h : Covers setup filters (warmup ++ fwd) reads store cov)
    (hwarmup : IsWarmup setup warmup) (hx : x ∈ cov) {c : Candle}
    (hc : c ∈ setup.scored x.segment) : c ∈ fwd := by
  let whole : List CoveredSegment := cov.map fun y => ⟨y.segment, y.segment⟩
  have hsegments : whole.map CoveredSegment.segment = segmentsOf hourMs (warmup ++ fwd) := by
    rw [List.map_map]
    exact h.segments
  have hinitial : ∀ y ∈ whole, y.part <+: y.segment := by
    intro y hy
    rcases List.mem_map.1 hy with ⟨z, hz, rfl⟩
    exact List.prefix_rfl
  refine (scoredCandles_sublist_forward hwarmup hsegments hinitial).subset ?_
  exact List.mem_flatMap.2 ⟨⟨x.segment, x.segment⟩, List.mem_map_of_mem hx, hc⟩

/-- Every candle is scored once exactly where all ends were read. -/
theorem Covers.scoredOnce_iff (h : Covers setup filters (warmup ++ fwd) reads store cov)
    (hwarmup : IsWarmup setup warmup) (hfwd : fwd.Sublist exchange.forward) :
    ScoredOnce setup (warmup ++ fwd) store ↔ ∀ segment ∈ segmentsOf hourMs (warmup ++ fwd),
      setup.requiredLength setup.bootstrapState segment ≤ segment.length →
        EndRead setup filters reads segment := by
  have hordered := ordered_append hwarmup hfwd
  have hsub := (scoredCandles_sublist_forward hwarmup h.segments
    fun x hx => (h.valid x hx).initial).trans hfwd
  have hcloses := nodup_closes_of_sublist hsub
  have hmem : ∀ segment, segment ∈ segmentsOf hourMs (warmup ++ fwd) ↔
      ∃ x ∈ cov, x.segment = segment := by
    intro segment
    rw [← h.segments, List.mem_map]
  constructor
  · intro honce segment hsegment hlong
    rcases (hmem segment).1 hsegment with ⟨x, hx, rfl⟩
    have hvalid := h.valid x hx
    refine (hvalid.part_eq_iff hlong).1 ?_
    -- the last candle of the segment is scored, so it lies in the part
    have hpos := setup.requiredLength_pos setup.bootstrapState x.segment
    have hne : x.segment ≠ [] := List.ne_nil_of_length_pos (hpos.trans_le hlong)
    have hlastOf : ∃ last, x.segment.getLast? = some last := ⟨_, List.getLast?_eq_some_getLast hne⟩
    rcases hlastOf with ⟨last, hend⟩
    have hlast : last ∈ setup.scored x.segment := by
      refine List.mem_of_getLast? ?_
      rw [ShadowSetup.scored, List.getLast?_drop, if_neg (by omega), hend]
    have hcount := honce x.segment hsegment hlong last hlast
    rw [h.equityTimes] at hcount
    have hclose : last.closeTimeMs ∈ (scoredCandles setup cov).map Candle.closeTimeMs := by
      refine List.count_pos_iff.1 ?_
      rw [hcount]
      exact Nat.one_pos
    rcases List.mem_map.1 hclose with ⟨c, hc, hsame⟩
    have hforward := h.mem_forward_of_scored hwarmup hx hlast
    have hfwdSub := scoredCandles_sublist_forward hwarmup h.segments
      fun x hx => (h.valid x hx).initial
    have heq : c = last := List.inj_on_of_nodup_map (nodup_closes_of_sublist hfwd)
      (hfwdSub.subset hc) hforward hsame
    subst heq
    rcases List.mem_flatMap.1 hc with ⟨y, hy, hscored⟩
    have hpart : c ∈ y.part := List.mem_of_mem_drop hscored
    have hyx : y = x := h.eq_of_mem hordered hy hx ((h.valid y hy).initial.subset hpart)
      (List.mem_of_getLast? hend)
    subst hyx
    have hnodup := (List.nodup_flatMap.1 (h.nodup_segments hordered)).1 y hy
    exact eq_of_last_mem hvalid.initial hnodup hend hpart
  · intro hends segment hsegment hlong c hc
    rcases (hmem segment).1 hsegment with ⟨x, hx, rfl⟩
    have hwhole := ((h.valid x hx).part_eq_iff hlong).2 (hends _ hsegment hlong)
    have hscored : c ∈ scoredCandles setup cov :=
      List.mem_flatMap.2 ⟨x, hx, by rwa [hwhole]⟩
    rw [h.equityTimes]
    exact List.count_eq_one_of_mem hcloses (List.mem_map_of_mem hscored)

end Parts

/-! ## Finished schedules -/

section Finishing

variable {setup : ShadowSetup} {filters : SymbolFilters} {exchange : ServedCandles}
  {warmup reads : List Candle} {db : ShadowDb} {arrived : ℕ} {passes : List ShadowPass}

theorem newestReads_append (exchange : ServedCandles) (warmup : List Candle)
    (before after : List ShadowPass) :
    newestReads exchange warmup arrived (before ++ after) =
      newestReads exchange warmup arrived before ++
        newestReads exchange warmup (arrived + arrivedAfter before) after := by
  induction before generalizing arrived with
  | nil => simp [newestReads, arrivedAfter]
  | cons pass rest ih =>
      simp [newestReads, ih, arrivedAfter, Nat.add_assoc]

theorem storedCandles_all (h : exchange.forward.length ≤ arrived) :
    storedCandles exchange warmup arrived = warmup ++ exchange.forward := by
  rw [storedCandles, List.take_of_length_le h]

/-- In a finished schedule the end of the last segment was read, where it is long enough. -/
theorem Scheduled.last_endRead (h : Scheduled setup filters exchange warmup 0 [] db)
    (hwarmup : IsWarmup setup warmup) (hfinished : Finished setup filters exchange db passes)
    {segment : List Candle}
    (hlatest : (segmentsOf hourMs (warmup ++ exchange.forward)).getLast? = some segment)
    (hlong : setup.requiredLength setup.bootstrapState segment ≤ segment.length) :
    EndRead setup filters (newestReads exchange warmup 0 passes) segment := by
  rcases hfinished with ⟨before, arriving, nowMs, after, rfl, hall, result, hresult⟩
  have hbefore := h.final hwarmup before
  rw [Nat.zero_add, List.nil_append] at hbefore
  rcases hbefore.exists_outcome hwarmup arriving nowMs with
    ⟨covInit, segment', part, last, newCandlesFetched, outcome, hcov, hlast, hnewest, houtcome, -,
      hreturned⟩
  rw [storedCandles_all hall] at hcov hlast hnewest
  have hsame : segment' = segment := Option.some.inj (hnewest.latest.symm.trans hlatest)
  subst hsame
  refine ⟨?_, last, ?_, hnewest.ends⟩
  · rw [hreturned] at hresult
    cases houtcome with
    | quiet nothing same status =>
        rcases nothing with hprocessed | hshort
        · -- processed already, it was scored by a run that returned
          have hwhole := hcov.part_eq_of_processed hwarmup (List.Sublist.refl _) hlast hnewest
            hprocessed
          have hne : part ≠ [] := by
            rw [hwhole]
            exact List.ne_nil_of_mem (List.mem_of_getLast? hnewest.ends)
          rw [← hwhole]
          exact ((hcov.valid ⟨segment', part⟩ (by simp)).read hne).2.1
        · exact absurd hlong (not_le.2 hshort)
    | raised error => cases hresult
    | scored longEnough ran => exact ⟨_, ran⟩
  · rw [newestReads_append, Nat.zero_add, newestReads, ShadowPass.readBy, storedCandles_all hall,
      hlast]
    simp

/-- In a finished schedule it is up to the segments before a gap whether all ends were read. -/
theorem Scheduled.endsRead_iff (h : Scheduled setup filters exchange warmup 0 [] db)
    (hwarmup : IsWarmup setup warmup) (hfinished : Finished setup filters exchange db passes) :
    EndsRead setup filters exchange warmup passes ↔
      ∀ segment ∈ segmentsOf hourMs (warmup ++ exchange.forward),
        setup.requiredLength setup.bootstrapState segment ≤ segment.length →
          EndRead setup filters (newestReads exchange warmup 0 passes) segment := by
  constructor
  · intro hends segment hsegment hlong
    rcases List.eq_nil_or_concat (segmentsOf hourMs (warmup ++ exchange.forward)) with
      hnil | ⟨front, latest, hfront⟩
    · rw [hnil] at hsegment
      cases hsegment
    · rw [List.concat_eq_append] at hfront
      rw [hfront] at hsegment
      rcases List.mem_append.1 hsegment with hearlier | hlatest
      · refine hends segment ?_ hlong
        rwa [hfront, List.dropLast_concat]
      · refine h.last_endRead hwarmup hfinished ?_ hlong
        rw [hfront, List.getLast?_concat, List.mem_singleton.1 hlatest]
  · intro hends segment hsegment
    exact hends segment (List.dropLast_subset _ hsegment)

/-- A finished schedule has stored all candles, and its cover is about them. -/
theorem Scheduled.final_covers (h : Scheduled setup filters exchange warmup 0 [] db)
    (hwarmup : IsWarmup setup warmup) (hfinished : Finished setup filters exchange db passes) :
    ∃ cov, Covers setup filters (warmup ++ exchange.forward)
      (newestReads exchange warmup 0 passes)
      (Runs.final (runPass setup filters exchange) db passes).store cov := by
  have hfinal := h.final hwarmup passes
  have hall : exchange.forward.length ≤ 0 + arrivedAfter passes := by
    rcases hfinished with ⟨before, arriving, nowMs, after, rfl, hall, -⟩
    simp only [arrivedAfter, List.map_append, List.map_cons, List.sum_append, List.sum_cons,
      ShadowPass.arriving] at hall ⊢
    omega
  have hcovers := hfinal.covers
  rw [List.nil_append, storedCandles_all hall] at hcovers
  exact hcovers

end Finishing

/-- Two finished schedules leave the same rows, with every candle scored once, exactly when both have
read the end of every segment that a gap ends before the gap was revealed. -/
theorem schedules_agree_iff (setup : ShadowSetup) (filters : SymbolFilters)
    (exchange : ServedCandles) (warmup : List Candle)
    (hrefusal : setup.refusal warmup = .ok none)
    (hcloses : ∀ c ∈ warmup, c.closeTimeMs < shadowStartBoundaryMs)
    (passes passes' : List ShadowPass)
    (hfinished : Finished setup filters exchange (setup.bootstrappedWith warmup) passes)
    (hfinished' : Finished setup filters exchange (setup.bootstrappedWith warmup) passes') :
    (SameRecords
        (Runs.final (runPass setup filters exchange) (setup.bootstrappedWith warmup) passes).store
        (Runs.final (runPass setup filters exchange) (setup.bootstrappedWith warmup) passes').store ∧
      ScoredOnce setup (warmup ++ exchange.forward)
        (Runs.final (runPass setup filters exchange) (setup.bootstrappedWith warmup) passes).store ∧
      ScoredOnce setup (warmup ++ exchange.forward)
        (Runs.final (runPass setup filters exchange) (setup.bootstrappedWith warmup) passes').store) ↔
    EndsRead setup filters exchange warmup passes ∧
      EndsRead setup filters exchange warmup passes' := by
  have hwarmup := setup.isWarmup hrefusal hcloses
  have hstart : Scheduled setup filters exchange warmup 0 [] (setup.bootstrappedWith warmup) :=
    setup.bootstrappedWith_scheduled exchange hrefusal hcloses
  rcases hstart.final_covers hwarmup hfinished with ⟨cov, hcov⟩
  rcases hstart.final_covers hwarmup hfinished' with ⟨cov', hcov'⟩
  rw [hcov.scoredOnce_iff hwarmup (List.Sublist.refl _),
    hcov'.scoredOnce_iff hwarmup (List.Sublist.refl _),
    hstart.endsRead_iff hwarmup hfinished, hstart.endsRead_iff hwarmup hfinished']
  constructor
  · rintro ⟨-, hends⟩
    exact hends
  · rintro ⟨hends, hends'⟩
    refine ⟨?_, hends, hends'⟩
    have hsame := hcov.eq_of_endsRead hcov' hends hends'
    subst hsame
    exact hcov.recorded.sameRecords hcov'.recorded

namespace Scenario

/-- Seven hours from the boundary on, two hours missing, and two more. -/
def hoursAroundGap : ServedCandles where
  candles := ([0, 1, 2, 3, 4, 5, 6, 9, 10] : List ℕ).map (hourCandle shadowStartBoundaryMs)
  spaced := by decide
  closes := by decide

/-- The first candle after the gap arrives on its own. -/
def gapAlone : List ShadowPass :=
  [.cycle 7 0, .cycle 2 0]

/-- The gap lies between two candles of one batch. -/
def gapInBatch : List ShadowPass :=
  [.cycle 5 0, .cycle 4 0]

/-- Four hours are stored before a crash, and the gap comes alone. -/
def retriedBeforeGap : List ShadowPass :=
  [.crash 4, .cycle 3 0, .cycle 2 0]

def gappedFinal (passes : List ShadowPass) : ShadowDb :=
  Runs.final (runPass shadowSetup filters hoursAroundGap) (shadowSetup.bootstrappedWith warmup) passes

theorem gapAlone_finished :
    Finished shadowSetup filters hoursAroundGap (shadowSetup.bootstrappedWith warmup) gapAlone :=
  ⟨[.cycle 7 0], 2, 0, [], rfl, by decide, exists_of_isOk (by decide +kernel)⟩

end Scenario

theorem schedules_agree_gapAlone :
    SameRecords (Scenario.gappedFinal Scenario.gapAlone).store
        (Scenario.gappedFinal Scenario.retriedBeforeGap).store ∧
      ScoredOnce Scenario.shadowSetup (Scenario.warmup ++ Scenario.hoursAroundGap.forward)
        (Scenario.gappedFinal Scenario.gapAlone).store ∧
      ScoredOnce Scenario.shadowSetup (Scenario.warmup ++ Scenario.hoursAroundGap.forward)
        (Scenario.gappedFinal Scenario.retriedBeforeGap).store :=
  (schedules_agree_iff Scenario.shadowSetup Scenario.filters Scenario.hoursAroundGap Scenario.warmup
    (by decide +kernel) (by decide +kernel) Scenario.gapAlone Scenario.retriedBeforeGap
    Scenario.gapAlone_finished
    ⟨[.crash 4, .cycle 3 0], 2, 0, [], rfl, by decide, exists_of_isOk (by decide +kernel)⟩).2
    ⟨by decide +kernel, by decide +kernel⟩

/-- What the first segment still had to score is lost when the gap comes in the same batch. -/
theorem schedules_disagree_gapInBatch :
    Finished Scenario.shadowSetup Scenario.filters Scenario.hoursAroundGap
        (Scenario.shadowSetup.bootstrappedWith Scenario.warmup) Scenario.gapAlone ∧
      Finished Scenario.shadowSetup Scenario.filters Scenario.hoursAroundGap
        (Scenario.shadowSetup.bootstrappedWith Scenario.warmup) Scenario.gapInBatch ∧
      ¬SameRecords (Scenario.gappedFinal Scenario.gapAlone).store
        (Scenario.gappedFinal Scenario.gapInBatch).store ∧
      ¬ScoredOnce Scenario.shadowSetup (Scenario.warmup ++ Scenario.hoursAroundGap.forward)
        (Scenario.gappedFinal Scenario.gapInBatch).store := by
  refine ⟨Scenario.gapAlone_finished,
    ⟨[.cycle 5 0], 4, 0, [], rfl, by decide, exists_of_isOk (by decide +kernel)⟩, ?_, ?_⟩
  · intro hsame
    exact absurd hsame.equity (by decide +kernel)
  · unfold ScoredOnce
    decide +kernel

end TradingAgent
