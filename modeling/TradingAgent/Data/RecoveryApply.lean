import TradingAgent.Data.GapManifest
import Mathlib.Tactic.Linarith

/-!
# Applying a recovery — store and manifest after `research-gap-recover --confirm`

What `apply_gap_recovery` leaves of the whole database, with the checkpoint its report may have been
resumed from.

* `missingHours_fresh`: the hours the rows miss are distinct, and nothing is stored at them;
* `CandleStore.manifestAgrees_recover` and `CandleStore.recover_again` are about one symbol's rows;
* `gap_recovery_agrees_iff`: store and manifest agree afterwards exactly when no reused result of the
  checkpoint holds a candle of another symbol.
-/

namespace TradingAgent

/-! ## The missing hours -/

/-- The missing hours of a gap lie in its missing range. -/
theorem covers_of_mem_missingHours {times : Set ℤ} {gap : GapRecord} {hour : ℤ}
    (h : GapIn oneHourMs times gap)
    (hmem : hour ∈ missingHoursForGap gap) : gap.Covers hour := by
  rw [missingHoursForGap_eq] at hmem
  rcases List.mem_map.1 hmem with ⟨i, hi, rfl⟩
  have hhour : (0 : ℤ) < oneHourMs := by decide
  have hlt : (i : ℤ) + 1 ≤ gap.missingIntervals := by
    have hlt := List.mem_range.1 hi
    omega
  have hmissing := h.missing
  have hexpected := h.expected
  have hdiv : (gap.nextOpenTimeMs - gap.previousOpenTimeMs) / oneHourMs * oneHourMs ≤
      gap.nextOpenTimeMs - gap.previousOpenTimeMs := Int.ediv_mul_le _ hhour.ne'
  have hcount : ((i : ℤ) + 2) * oneHourMs ≤
      (gap.nextOpenTimeMs - gap.previousOpenTimeMs) / oneHourMs * oneHourMs :=
    mul_le_mul_of_nonneg_right (by linarith) hhour.le
  constructor
  · have hpos := mul_nonneg (Int.natCast_nonneg i) hhour.le
    linarith
  · linarith

/-! ## One store -/

/-- The rows are the gaps that `partitionIntoSegments` finds in the stored candles. -/
def ManifestAgrees (store : CandleStore) : Prop :=
  store.getGaps = gapsOf oneHourMs (store.getCandles none none)

namespace CandleStore

variable {store store' : CandleStore}

/-- The same rows in both tables, in whatever order. -/
structure SameRows (store store' : CandleStore) : Prop where
  candles : store.candles.Perm store'.candles
  gaps : store.gaps.Perm store'.gaps

theorem SameRows.refl (store : CandleStore) : store.SameRows store :=
  ⟨.refl _, .refl _⟩

theorem mem_getCandles_all {c : Candle} :
    c ∈ store.getCandles none none ↔ (c.openTimeMs, c) ∈ store.candles := by
  have hall : c ∈ store.getCandles none none ↔ c ∈ store.candles.map Prod.snd := by
    unfold getCandles
    simp
  rw [hall, List.mem_map]
  constructor
  · rintro ⟨p, hp, rfl⟩
    rw [store.candlesKeyed p hp]
    exact hp
  · intro hmem
    exact ⟨_, hmem, rfl⟩

/-- Stores that read the same hold the same rows. -/
theorem SameRows.of_mem
    (hcandles : ∀ c, c ∈ store.getCandles none none ↔ c ∈ store'.getCandles none none)
    (hgaps : ∀ row, row ∈ store.getGaps ↔ row ∈ store'.getGaps) : store.SameRows store' := by
  constructor
  case candles =>
      apply Dict.perm_of_keyed store.candlesUnique store'.candlesUnique store.candlesKeyed
        store'.candlesKeyed
      intro c
      rw [← mem_getCandles_all, ← mem_getCandles_all]
      exact hcandles c
  case gaps =>
      apply Dict.perm_of_keyed store.gapsUnique store'.gapsUnique store.gapsKeyed store'.gapsKeyed
      intro row
      rw [← mem_getGaps, ← mem_getGaps]
      exact hgaps row

section Recover

variable {recovered : List Candle} {stale : List ℤ}

/-- Candles at new, distinct times are added to the stored ones. -/
theorem mem_getCandles_recover (hnodup : (recovered.map Candle.openTimeMs).Nodup)
    (hfresh : ∀ c ∈ recovered, c.openTimeMs ∉ store.times) {c : Candle} :
    c ∈ (store.recover recovered stale).getCandles none none ↔
      c ∈ store.getCandles none none ∨ c ∈ recovered := by
  rw [mem_getCandles_all, mem_getCandles_all]
  change (c.openTimeMs, c) ∈ Dict.setAll Candle.openTimeMs store.candles recovered ↔ _
  rw [Dict.mem_setAll hnodup]
  constructor
  · rintro (⟨hmem, -⟩ | ⟨hmem, -⟩)
    · exact Or.inr hmem
    · exact Or.inl hmem
  · rintro (hmem | hmem)
    · refine Or.inr ⟨hmem, ?_⟩
      intro d hd heq
      exact hfresh d hd (heq ▸ List.mem_map_of_mem hmem)
    · exact Or.inl ⟨hmem, rfl⟩

/-- Merging in candles that are stored, or that open at new times, gives the candles stored then. -/
theorem merged_eq (hordered : Ordered (store'.getCandles none none))
    (hmem : ∀ c, c ∈ store'.getCandles none none ↔ c ∈ store.getCandles none none ∨ c ∈ recovered) :
    dedupSort1m (store.getCandles none none ++ recovered) = store'.getCandles none none := by
  refine KeyedTable.eq_of_mem_iff (ordered_dedup _) hordered ?_
  intro c
  constructor
  · intro hc
    exact (hmem c).2 (List.mem_append.1 (mem_of_mem_dedup hc))
  · intro hc
    -- what is kept at the time of the candle is stored as well, so it is the candle
    rcases exists_mem_dedup (List.mem_append.2 ((hmem c).1 hc)) with ⟨d, hd, htime⟩
    have hstored := (hmem d).2 (List.mem_append.1 (mem_of_mem_dedup hd))
    rw [← hordered.eq_of_openTime hstored hc htime]
    exact hd

/-- Where every row was stale, the rows are the gaps of the candles stored then. -/
theorem manifestAgrees_recover (hnodup : (recovered.map Candle.openTimeMs).Nodup)
    (hfresh : ∀ c ∈ recovered, c.openTimeMs ∉ store.times)
    (hstale : ∀ row ∈ store.getGaps, row.expectedOpenTimeMs ∈ stale) :
    ManifestAgrees (store.recover recovered stale) := by
  have hordered : Ordered ((store.recover recovered stale).getCandles none none) :=
    ordered_getCandles none none
  have hmerged : dedupSort1m (store.getCandles none none ++ recovered) =
      (store.recover recovered stale).getCandles none none :=
    merged_eq hordered fun c => mem_getCandles_recover hnodup hfresh
  refine KeyedTable.eq_of_mem_iff (ordered_getGaps _) (ordered_expected_gapsOf hordered) ?_
  intro row
  have hgaps : Ordered (dedupSort1m (store.getCandles none none ++ recovered)) := ordered_dedup _
  rw [← hmerged]
  refine (mem_getGaps_storeCandlesAndGaps (nodup_expected_gapsOf hgaps)).trans ?_
  constructor
  · rintro (hgap | ⟨hkept, hnot, -⟩)
    · exact hgap
    · exact absurd (hstale row hkept) hnot
  · intro hgap
    exact Or.inl hgap

/-- A second recovery finds its candles and gaps stored. -/
theorem recover_again (hnodup : (recovered.map Candle.openTimeMs).Nodup)
    (hstored : ∀ c ∈ recovered, c ∈ store.getCandles none none) (hagrees : ManifestAgrees store) :
    (store.recover recovered stale).SameRows store := by
  have hordered : Ordered (store.getCandles none none) := ordered_getCandles none none
  -- what is merged in is stored already
  have hmerged : dedupSort1m (store.getCandles none none ++ recovered) =
      store.getCandles none none := by
    refine merged_eq hordered ?_
    intro c
    constructor
    · exact Or.inl
    · rintro (hc | hc)
      · exact hc
      · exact hstored c hc
  refine SameRows.of_mem ?_ ?_
  · intro c
    rw [mem_getCandles_all, mem_getCandles_all]
    change (c.openTimeMs, c) ∈ Dict.setAll Candle.openTimeMs store.candles recovered ↔ _
    rw [Dict.mem_setAll hnodup]
    constructor
    · rintro (⟨hmem, -⟩ | ⟨hmem, -⟩)
      · exact mem_getCandles_all.1 (hstored c hmem)
      · exact hmem
    · intro hmem
      by_cases hc : ∃ d ∈ recovered, d.openTimeMs = c.openTimeMs
      · rcases hc with ⟨d, hd, htime⟩
        have heq := hordered.eq_of_openTime (hstored d hd) (mem_getCandles_all.2 hmem) htime
        exact Or.inl ⟨heq ▸ hd, rfl⟩
      · exact Or.inr ⟨hmem, fun d hd heq => hc ⟨d, hd, heq⟩⟩
  · intro row
    have hrows := @mem_getGaps_storeCandlesAndGaps store recovered
      (gapsOf oneHourMs (store.getCandles none none)) stale (nodup_expected_gapsOf hordered) row
    rw [recover, hmerged]
    refine hrows.trans ?_
    rw [← hagrees]
    constructor
    · rintro (hgap | ⟨hkept, -, -⟩)
      · exact hgap
      · exact hkept
    · exact Or.inl

end Recover

end CandleStore

/-- The same rows under every symbol and interval. -/
def CandleDb.SameRows (db db' : CandleDb) : Prop :=
  ∀ symbol interval, (db.under symbol interval).SameRows (db'.under symbol interval)

/-! ## The recovery of a complete audit -/

/-- The recovery of what an audit of all rows of a symbol found. -/
def CandleDb.recoverAudited (db : CandleDb) (symbol : String) (evidence : ℤ → HourEvidence)
    (checkpoint : GapAuditCheckpoint) (interruptedAfter : Option ℕ)
    (fault : Option (ℕ × PyError)) : CandleDb × Except RecoveryFailure RecoveryApplyResult :=
  db.applyGapRecovery oneHourMs symbol "1h"
    (runGapForensics symbol evidence checkpoint (db.under symbol "1h").getGaps
      interruptedAfter).1 fault

/-- What a recovery should leave of the two tables. -/
structure RecoveryAgrees (db : CandleDb) (symbol : String) (evidence : ℤ → HourEvidence)
    (checkpoint : GapAuditCheckpoint) : Prop where
  returns : ∃ result, (db.recoverAudited symbol evidence checkpoint none none).2 = .ok result
  candles : ∀ c, c ∈ ((db.recoverAudited symbol evidence checkpoint none none).1.under symbol
      "1h").getCandles none none ↔
    c ∈ (db.under symbol "1h").getCandles none none ∨
      c ∈ (runGapForensics symbol evidence checkpoint
        (db.under symbol "1h").getGaps none).1.recoveredCandles
  others : ∀ s i, ¬(s = symbol ∧ i = "1h") →
    (db.recoverAudited symbol evidence checkpoint none none).1.under s i = db.under s i
  gaps : ManifestAgrees
    ((db.recoverAudited symbol evidence checkpoint none none).1.under symbol "1h")
  again : ((db.recoverAudited symbol evidence checkpoint none none).1.applyGapRecovery oneHourMs
      symbol "1h" (runGapForensics symbol evidence checkpoint
        (db.under symbol "1h").getGaps none).1 none).1.SameRows
    (db.recoverAudited symbol evidence checkpoint none none).1
  interrupted : ∀ n fault, (db.recoverAudited symbol evidence checkpoint (some n) fault).1 = db
  rolledBack : ∀ fault, (db.recoverAudited symbol evidence checkpoint none (some fault)).1 = db

section Recovery

variable {db : CandleDb} {symbol : String} {evidence : ℤ → HourEvidence}
  {checkpoint : GapAuditCheckpoint}

/-- The missing hours of all gaps of a store are distinct, and nothing is stored at them. -/
theorem missingHours_fresh {store : CandleStore} (hagrees : ManifestAgrees store) :
    (store.getGaps.flatMap missingHoursForGap).Nodup ∧
      ∀ hour ∈ store.getGaps.flatMap missingHoursForGap, hour ∉ store.times := by
  have hhour : (0 : ℤ) < oneHourMs := by decide
  have hordered : Ordered (store.getCandles none none) := CandleStore.ordered_getCandles none none
  have hgapIn : ∀ gap ∈ store.getGaps, GapIn oneHourMs store.times gap := by
    intro gap hgap
    rw [hagrees] at hgap
    rw [← openTimes_getCandles_all]
    exact (mem_gapsOf_iff_gapIn hordered).1 hgap
  constructor
  · refine List.nodup_flatMap.2 ⟨fun gap _ => nodup_missingHoursForGap gap, ?_⟩
    refine (CandleStore.ordered_getGaps store).imp_of_mem ?_
    intro gap gap' hgap hgap' hlt hour hmem hmem'
    -- an hour that two gaps miss is covered by both
    have hcovers := covers_of_mem_missingHours (hgapIn gap hgap) hmem
    have hcovers' := covers_of_mem_missingHours (hgapIn gap' hgap') hmem'
    rw [hagrees] at hgap hgap'
    have heq := eq_of_covers hhour hordered hgap hgap' hcovers hcovers'
    rw [heq] at hlt
    exact lt_irrefl _ hlt
  · intro hour hmem hstored
    rcases List.mem_flatMap.1 hmem with ⟨gap, hgap, hmissing⟩
    exact (hgapIn gap hgap).not_covers hhour hstored
      (covers_of_mem_missingHours (hgapIn gap hgap) hmissing)

theorem recoveredCandles_fresh (hrecorded : checkpoint.Recorded)
    (hagrees : ManifestAgrees (db.under symbol "1h")) :
    ((runGapForensics symbol evidence checkpoint
        (db.under symbol "1h").getGaps none).1.recoveredCandles.map Candle.openTimeMs).Nodup ∧
      ∀ c ∈ (runGapForensics symbol evidence checkpoint
        (db.under symbol "1h").getGaps none).1.recoveredCandles,
        c.openTimeMs ∉ (db.under symbol "1h").times := by
  rcases missingHours_fresh hagrees with ⟨hdistinct, hfresh⟩
  have hsub : ((runGapForensics symbol evidence checkpoint
      (db.under symbol "1h").getGaps none).1.recoveredCandles.map Candle.openTimeMs).Sublist
        ((db.under symbol "1h").getGaps.flatMap missingHoursForGap) := by
    rw [(recoveredCandles_runGapForensics (CandleStore.nodup_getGaps _)).2, List.map_flatMap]
    exact List.Sublist.flatMap_right _ fun gap _ => (audited_resultOf hrecorded gap).times_sublist
  refine ⟨hsub.nodup hdistinct, ?_⟩
  intro c hc
  exact hfresh _ (hsub.subset (List.mem_map_of_mem hc))

/-- An interrupted audit, or a failing statement, leaves the database as it was. -/
theorem recoverAudited_unchanged :
    (∀ n fault, (db.recoverAudited symbol evidence checkpoint (some n) fault).1 = db) ∧
      ∀ fault, (db.recoverAudited symbol evidence checkpoint none (some fault)).1 = db :=
  ⟨fun _ fault => CandleDb.applyGapRecovery_interrupted rfl fault,
    fun fault => CandleDb.applyGapRecovery_fault (completeFor_runGapForensics _) fault.1 fault.2⟩

/-- Where nothing was recovered, neither recovery does anything. -/
theorem recoveryAgrees_of_nothing (hagrees : ManifestAgrees (db.under symbol "1h"))
    (hnone : (runGapForensics symbol evidence checkpoint
      (db.under symbol "1h").getGaps none).1.recoveredCandles = []) :
    RecoveryAgrees db symbol evidence checkpoint := by
  have hcomplete := @completeFor_runGapForensics symbol evidence checkpoint (db.under symbol "1h").getGaps
  have hsame : ∀ db' : CandleDb, db'.applyGapRecovery oneHourMs symbol "1h" (runGapForensics
      symbol evidence checkpoint (db.under symbol "1h").getGaps none).1 none = (db', .ok _) :=
    fun db' => CandleDb.applyGapRecovery_nothing hcomplete hnone none
  have hdb : db.recoverAudited symbol evidence checkpoint none none = (db, .ok _) := hsame db
  constructor
  case returns => exact ⟨_, congrArg Prod.snd hdb⟩
  case candles =>
      intro c
      rw [hdb, hnone]
      simp
  case others =>
      intro s i _
      rw [hdb]
  case gaps =>
      rw [hdb]
      exact hagrees
  case again =>
      rw [hdb, hsame]
      intro s i
      exact CandleStore.SameRows.refl _
  case interrupted => exact recoverAudited_unchanged.1
  case rolledBack => exact recoverAudited_unchanged.2

/-- Where candles of the symbol were recovered, they are stored and their gaps are gone. -/
theorem recoveryAgrees_of_stored (hrecorded : checkpoint.Recorded)
    (hagrees : ManifestAgrees (db.under symbol "1h"))
    (hown : checkpoint.OwnResults symbol (db.under symbol "1h").getGaps)
    (hnone : (runGapForensics symbol evidence checkpoint
      (db.under symbol "1h").getGaps none).1.recoveredCandles ≠ []) :
    RecoveryAgrees db symbol evidence checkpoint := by
  have hcomplete := @completeFor_runGapForensics symbol evidence checkpoint (db.under symbol "1h").getGaps
  have hcandles := @own_recoveredCandles symbol evidence checkpoint hrecorded _ (CandleStore.nodup_getGaps _)
    hown
  rcases @recoveredCandles_fresh db symbol evidence checkpoint hrecorded hagrees with
    ⟨hnodup, hfresh⟩
  -- the report deletes the row of every gap it was given
  have hstale : ∀ row ∈ (db.under symbol "1h").getGaps, row.expectedOpenTimeMs ∈
      (runGapForensics symbol evidence checkpoint
        (db.under symbol "1h").getGaps none).1.gapResults.map
          fun r => r.gap.expectedOpenTimeMs := by
    intro row hrow
    rw [stale_runGapForensics hrecorded (CandleStore.nodup_getGaps _)]
    exact List.mem_map_of_mem hrow
  rcases @CandleDb.under_applyGapRecovery db symbol _ hcomplete hnone hcandles with
    ⟨hunder, hothers⟩
  have hmem : ∀ c, c ∈ ((db.recoverAudited symbol evidence checkpoint none none).1.under symbol
      "1h").getCandles none none ↔
      c ∈ (db.under symbol "1h").getCandles none none ∨
        c ∈ (runGapForensics symbol evidence checkpoint
          (db.under symbol "1h").getGaps none).1.recoveredCandles := by
    intro c
    rw [CandleDb.recoverAudited, hunder]
    exact CandleStore.mem_getCandles_recover hnodup hfresh
  have hgaps : ManifestAgrees
      ((db.recoverAudited symbol evidence checkpoint none none).1.under symbol "1h") := by
    rw [CandleDb.recoverAudited, hunder]
    exact CandleStore.manifestAgrees_recover hnodup hfresh hstale
  constructor
  case returns => exact (CandleDb.applyGapRecovery_stores hcomplete hnone none).2 rfl
  case candles => exact hmem
  case others => exact hothers
  case gaps => exact hgaps
  case again =>
      rcases @CandleDb.under_applyGapRecovery
        (db.recoverAudited symbol evidence checkpoint none none).1 symbol _ hcomplete hnone
        hcandles with ⟨hunder', hothers'⟩
      intro s i
      by_cases hkey : s = symbol ∧ i = "1h"
      · -- every candle of the second recovery is stored by now
        rcases hkey with ⟨rfl, rfl⟩
        rw [hunder']
        exact CandleStore.recover_again hnodup (fun c hc => (hmem c).2 (Or.inr hc)) hgaps
      · rw [hothers' s i hkey]
        exact CandleStore.SameRows.refl _
  case interrupted => exact recoverAudited_unchanged.1
  case rolledBack => exact recoverAudited_unchanged.2

/-- With results of the symbol only, the recovery leaves what it should. -/
theorem recoveryAgrees_of_own (hrecorded : checkpoint.Recorded)
    (hagrees : ManifestAgrees (db.under symbol "1h"))
    (hown : checkpoint.OwnResults symbol (db.under symbol "1h").getGaps) :
    RecoveryAgrees db symbol evidence checkpoint := by
  by_cases hnone : (runGapForensics symbol evidence checkpoint
      (db.under symbol "1h").getGaps none).1.recoveredCandles = []
  · exact recoveryAgrees_of_nothing hagrees hnone
  · exact recoveryAgrees_of_stored hrecorded hagrees hown hnone

end Recovery

/-- Whatever of the missing hours an audit finds, applying it leaves what it should in both tables,
if and only if no result that the audit took from its checkpoint holds a candle of another symbol. -/
theorem gap_recovery_agrees_iff (db : CandleDb) (symbol : String) (evidence : ℤ → HourEvidence)
    (checkpoint : GapAuditCheckpoint) (hrecorded : checkpoint.Recorded)
    (hagrees : ManifestAgrees (db.under symbol "1h")) :
    RecoveryAgrees db symbol evidence checkpoint ↔
      checkpoint.OwnResults symbol (db.under symbol "1h").getGaps := by
  constructor
  · intro h gap hgap cached hget c hc
    have hreused : resultOf symbol evidence checkpoint gap = cached := by
      simp [resultOf, hget]
    have hrecovered : c ∈ (runGapForensics symbol evidence checkpoint
        (db.under symbol "1h").getGaps none).1.recoveredCandles := by
      rw [(recoveredCandles_runGapForensics (CandleStore.nodup_getGaps _)).2]
      exact List.mem_flatMap.2 ⟨gap, hgap, hreused ▸ hc⟩
    -- what is read under the symbol is of the symbol
    have hstored := CandleStore.mem_getCandles_all.1 ((h.candles c).2 (Or.inr hrecovered))
    exact ((db.recoverAudited symbol evidence checkpoint none none).1.own symbol "1h" _ hstored).1
  · exact recoveryAgrees_of_own hrecorded hagrees

/-! ## Hour 2 of five is missing -/

section Hour2

/-- Hours 0, 1, 3 and 4 of a symbol, and the row of the gap between them. -/
def withoutHour2 (symbol : String) : CandleDb :=
  (CandleDb.empty.storeCandlesAndGaps ([0, 1, 3, 4].map fun i => { hourlyCandle i with symbol := symbol })
    [⟨7200000, 3600000, 10800000, 1⟩] symbol "1h" [] none).1

/-- The checkpoint that an audit of a symbol leaves. -/
def checkpointOf (symbol : String) : GapAuditCheckpoint :=
  (runGapForensics symbol allMinutes []
    ((withoutHour2 symbol).under symbol "1h").getGaps none).2

end Hour2

theorem gap_recovery_agrees_fresh :
    RecoveryAgrees (withoutHour2 "BTCUSDT") "BTCUSDT" allMinutes [] := by
  refine (gap_recovery_agrees_iff (withoutHour2 "BTCUSDT") "BTCUSDT" allMinutes []
    recorded_nil ?_).2 ?_
  · unfold ManifestAgrees
    decide +kernel
  · intro gap hgap result hget
    cases hget

/-- A result recorded for one symbol is reused for the same hour of another: the row of the gap goes,
and its candle is stored elsewhere. -/
theorem gap_recovery_other_symbol :
    ManifestAgrees ((withoutHour2 "ETHUSDT").under "ETHUSDT" "1h") ∧
      (checkpointOf "BTCUSDT").Recorded ∧
      ¬RecoveryAgrees (withoutHour2 "ETHUSDT") "ETHUSDT" allMinutes (checkpointOf "BTCUSDT") := by
  refine ⟨?_, ?_, ?_⟩
  · unfold ManifestAgrees
    decide +kernel
  · exact runGapForensics_recorded recorded_nil "BTCUSDT" allMinutes _ none
  · intro h
    have hgaps := h.gaps
    unfold ManifestAgrees at hgaps
    revert hgaps
    decide +kernel

end TradingAgent
