import TradingAgent.Data.HistoricalFetch
import Mathlib.Data.Set.Defs

/-!
# Storage — candles and their gap manifest

`data/storage.py`, for one symbol and interval: the primary keys of both tables are fields of the
store.  `storeCandlesAndGaps` is one transaction, so a failure part-way through leaves the store as
it was.
-/

namespace TradingAgent

structure CandleStore where
  candles : Dict ℤ Candle
  gaps : Dict ℤ GapRecord
  candlesKeyed : Dict.KeyedBy Candle.openTimeMs candles
  candlesUnique : (candles.map Prod.fst).Nodup
  gapsKeyed : Dict.KeyedBy GapRecord.expectedOpenTimeMs gaps
  gapsUnique : (gaps.map Prod.fst).Nodup

namespace CandleStore

def empty : CandleStore where
  candles := []
  gaps := []
  candlesKeyed := by simp [Dict.KeyedBy]
  candlesUnique := by simp
  gapsKeyed := by simp [Dict.KeyedBy]
  gapsUnique := by simp

/-- `get_candles`, with both bounds inclusive. -/
def getCandles (store : CandleStore) (startTimeMs endTimeMs : Option ℤ) : List Candle :=
  ((store.candles.map Prod.snd).insertionSort fun a b => a.openTimeMs ≤ b.openTimeMs).filter
    fun c => startTimeMs.all (· ≤ c.openTimeMs) && endTimeMs.all (c.openTimeMs ≤ ·)

def getGaps (store : CandleStore) : List GapRecord :=
  (store.gaps.map Prod.snd).insertionSort fun a b => a.expectedOpenTimeMs ≤ b.expectedOpenTimeMs

theorem gapsKeyed_eraseAll (store : CandleStore) (keys : List ℤ) :
    Dict.KeyedBy GapRecord.expectedOpenTimeMs (store.gaps.eraseAll keys) := by
  intro p hp
  exact store.gapsKeyed p (Dict.mem_eraseAll.1 hp).1

theorem gapsUnique_eraseAll (store : CandleStore) (keys : List ℤ) :
    ((store.gaps.eraseAll keys).map Prod.fst).Nodup :=
  (List.filter_sublist.map Prod.fst).nodup store.gapsUnique

/-- `store_candles_and_gaps`; `stale` is empty where the caller passes none. -/
def storeCandlesAndGaps (store : CandleStore) (candles : List Candle) (gaps : List GapRecord)
    (stale : List ℤ) : CandleStore where
  candles := Dict.setAll Candle.openTimeMs store.candles candles
  gaps := Dict.setAll GapRecord.expectedOpenTimeMs (store.gaps.eraseAll stale) gaps
  candlesKeyed := store.candlesKeyed.setAll candles
  candlesUnique := Dict.nodup_keys_setAll store.candlesUnique candles
  gapsKeyed := Dict.KeyedBy.setAll (store.gapsKeyed_eraseAll stale) gaps
  gapsUnique := Dict.nodup_keys_setAll (store.gapsUnique_eraseAll stale) gaps

/-- `upsert_candles`. -/
def upsertCandles (store : CandleStore) (candles : List Candle) : CandleStore where
  candles := Dict.setAll Candle.openTimeMs store.candles candles
  gaps := store.gaps
  candlesKeyed := store.candlesKeyed.setAll candles
  candlesUnique := Dict.nodup_keys_setAll store.candlesUnique candles
  gapsKeyed := store.gapsKeyed
  gapsUnique := store.gapsUnique

/-- `_delete_gaps_no_commit`. -/
def deleteGaps (store : CandleStore) (keys : List ℤ) : CandleStore where
  candles := store.candles
  gaps := store.gaps.eraseAll keys
  candlesKeyed := store.candlesKeyed
  candlesUnique := store.candlesUnique
  gapsKeyed := store.gapsKeyed_eraseAll keys
  gapsUnique := store.gapsUnique_eraseAll keys

/-- `_upsert_gaps_no_commit`. -/
def upsertGaps (store : CandleStore) (gaps : List GapRecord) : CandleStore where
  candles := store.candles
  gaps := Dict.setAll GapRecord.expectedOpenTimeMs store.gaps gaps
  candlesKeyed := store.candlesKeyed
  candlesUnique := store.candlesUnique
  gapsKeyed := store.gapsKeyed.setAll gaps
  gapsUnique := Dict.nodup_keys_setAll store.gapsUnique gaps

/-- `latest_close_time_ms`. -/
def latestCloseTimeMs (store : CandleStore) : Option ℤ :=
  (store.candles.map fun p => p.2.closeTimeMs).max?

/-- The open times of the stored candles. -/
def times (store : CandleStore) : Set ℤ :=
  {t | t ∈ store.candles.map Prod.fst}

section Reads

variable {store : CandleStore}

theorem ordered_getCandles (startTimeMs endTimeMs : Option ℤ) :
    Ordered (store.getCandles startTimeMs endTimeMs) :=
  (ordered_of_keyed store.candlesKeyed store.candlesUnique).filter _

theorem mem_getGaps {row : GapRecord} :
    row ∈ store.getGaps ↔ (row.expectedOpenTimeMs, row) ∈ store.gaps := by
  rw [getGaps, List.mem_insertionSort, List.mem_map]
  constructor
  · intro h
    rcases h with ⟨p, hp, rfl⟩
    rw [store.gapsKeyed p hp]
    exact hp
  · intro h
    exact ⟨_, h, rfl⟩

/-- The rows are read in the order of their first missing times. -/
theorem ordered_getGaps (store : CandleStore) :
    store.getGaps.Pairwise fun a b => a.expectedOpenTimeMs < b.expectedOpenTimeMs := by
  have hkeys : ((store.gaps.map Prod.snd).map GapRecord.expectedOpenTimeMs).Nodup := by
    have heq : store.gaps.map (GapRecord.expectedOpenTimeMs ∘ Prod.snd) =
        store.gaps.map Prod.fst := List.map_congr_left store.gapsKeyed
    rw [List.map_map, heq]
    exact store.gapsUnique
  have hsorted : store.getGaps.Pairwise fun a b => a.expectedOpenTimeMs ≤ b.expectedOpenTimeMs :=
    List.pairwise_insertionSort _ _
  have hnodup : (store.getGaps.map GapRecord.expectedOpenTimeMs).Nodup :=
    ((List.perm_insertionSort _ _).map _).nodup_iff.2 hkeys
  exact hsorted.imp₂ (fun _ _ hle hne => lt_of_le_of_ne hle hne) (List.pairwise_map.1 hnodup)


theorem nodup_getGaps (store : CandleStore) : store.getGaps.Nodup :=
  store.ordered_getGaps.imp fun hlt heq => absurd (heq ▸ hlt) (lt_irrefl _)

/-- The candles read are those whose open times are stored in the range. -/
theorem exists_mem_getCandles {startTimeMs endTimeMs : Option ℤ} {t : ℤ} :
    (∃ c ∈ store.getCandles startTimeMs endTimeMs, c.openTimeMs = t) ↔
      t ∈ store.times ∧ (∀ s ∈ startTimeMs, s ≤ t) ∧ ∀ e ∈ endTimeMs, t ≤ e := by
  constructor
  · intro h
    rcases h with ⟨c, hc, rfl⟩
    rcases List.mem_filter.1 hc with ⟨hmem, hrange⟩
    rcases List.mem_map.1 ((List.mem_insertionSort _).1 hmem) with ⟨p, hp, rfl⟩
    refine ⟨?_, ?_⟩
    · exact List.mem_map.2 ⟨p, hp, (store.candlesKeyed p hp).symm⟩
    · simpa [Option.all_eq_true] using hrange
  · intro h
    rcases h with ⟨hmem, hrange⟩
    rcases List.mem_map.1 hmem with ⟨p, hp, rfl⟩
    have hkey : p.2.openTimeMs = p.1 := store.candlesKeyed p hp
    refine ⟨p.2, List.mem_filter.2 ⟨?_, ?_⟩, hkey⟩
    · exact (List.mem_insertionSort _).2 (List.mem_map_of_mem hp)
    · simpa [Option.all_eq_true, hkey] using hrange

theorem times_storeCandlesAndGaps {candles : List Candle} {gaps : List GapRecord} {stale : List ℤ}
    {t : ℤ} : t ∈ (store.storeCandlesAndGaps candles gaps stale).times ↔
      t ∈ store.times ∨ ∃ c ∈ candles, c.openTimeMs = t :=
  Dict.mem_keys_setAll

theorem times_upsertCandles {candles : List Candle} {t : ℤ} :
    t ∈ (store.upsertCandles candles).times ↔
      t ∈ store.times ∨ ∃ c ∈ candles, c.openTimeMs = t :=
  Dict.mem_keys_setAll

/-- The rows afterwards: the gaps stored, and the rows before that are neither stale nor replaced. -/
theorem mem_getGaps_storeCandlesAndGaps {candles : List Candle} {gaps : List GapRecord}
    {stale : List ℤ} (hnodup : (gaps.map GapRecord.expectedOpenTimeMs).Nodup) {row : GapRecord} :
    row ∈ (store.storeCandlesAndGaps candles gaps stale).getGaps ↔
      row ∈ gaps ∨ row ∈ store.getGaps ∧ row.expectedOpenTimeMs ∉ stale ∧
        ∀ gap ∈ gaps, gap.expectedOpenTimeMs ≠ row.expectedOpenTimeMs := by
  rw [mem_getGaps, mem_getGaps]
  change _ ∈ Dict.setAll GapRecord.expectedOpenTimeMs (store.gaps.eraseAll stale) gaps ↔ _
  rw [Dict.mem_setAll hnodup, Dict.mem_eraseAll]
  simp [and_assoc]

end Reads

/-! ## Candles that arrive in order -/

/-- The store holds these candles, in this order. -/
def Holds (store : CandleStore) (candles : List Candle) : Prop :=
  store.candles = candles.map fun c => (c.openTimeMs, c)

section Arrivals

variable {store : CandleStore} {candles later : List Candle}

theorem Holds.getCandles (h : store.Holds candles) (hordered : Ordered candles)
    {startTimeMs : ℤ} (hstart : ∀ c ∈ candles, startTimeMs ≤ c.openTimeMs) :
    store.getCandles (some startTimeMs) none = candles := by
  have hvalues : store.candles.map Prod.snd = candles := by
    rw [h, List.map_map]
    exact List.map_id candles
  have hsorted : candles.Pairwise fun a b => a.openTimeMs ≤ b.openTimeMs :=
    hordered.imp fun hlt => hlt.le
  have hkept : ∀ c ∈ candles, ((some startTimeMs).all (· ≤ c.openTimeMs) &&
      (none : Option ℤ).all (c.openTimeMs ≤ ·)) = true := by
    intro c hc
    simpa using hstart c hc
  calc store.getCandles (some startTimeMs) none
      = ((store.candles.map Prod.snd).insertionSort _).filter _ := rfl
    _ = (candles.insertionSort _).filter _ := by rw [hvalues]
    _ = candles.filter _ := by rw [hsorted.insertionSort_eq]
    _ = candles := List.filter_eq_self.2 hkept

/-- Later candles are appended. -/
theorem Holds.upsert (h : store.Holds candles) (hordered : Ordered (candles ++ later)) :
    (store.upsertCandles later).Holds (candles ++ later) := by
  rcases List.pairwise_append.1 hordered with ⟨-, hlater, hacross⟩
  have hnodup : (later.map Candle.openTimeMs).Nodup :=
    List.pairwise_map.2 (hlater.imp fun hlt => hlt.ne)
  have hfresh : ∀ v ∈ later, ∀ p ∈ store.candles, p.1 ≠ v.openTimeMs := by
    intro v hv p hp
    rw [h] at hp
    rcases List.mem_map.1 hp with ⟨c, hc, rfl⟩
    exact (hacross c hc v hv).ne
  calc (store.upsertCandles later).candles
      = Dict.setAll Candle.openTimeMs store.candles later := rfl
    _ = store.candles ++ later.map fun c => (c.openTimeMs, c) :=
        Dict.setAll_of_fresh hnodup hfresh
    _ = (candles ++ later).map fun c => (c.openTimeMs, c) := by rw [h, List.map_append]

end Arrivals

end CandleStore

end TradingAgent
