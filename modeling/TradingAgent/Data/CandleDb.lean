import TradingAgent.Data.Storage
import TradingAgent.Library.Transactions

/-!
# Candle database — the rows of all symbols and intervals

`data/storage.py` once more, with the symbol and the interval of the primary keys, and with
`store_candles_and_gaps` row by row: each row written is a statement of one transaction.

* `CandleDb` holds a `CandleStore` under each symbol and interval;
* `under_storeCandlesAndGaps` says what the transaction leaves under each of them.
-/

namespace TradingAgent

namespace CandleStore

variable {store store' : CandleStore}

theorem ext_rows (hcandles : store.candles = store'.candles) (hgaps : store.gaps = store'.gaps) :
    store = store' := by
  cases store
  cases store'
  cases hcandles
  cases hgaps
  rfl

@[simp] theorem deleteGaps_candles (store : CandleStore) (keys : List ℤ) :
    (store.deleteGaps keys).candles = store.candles := rfl

@[simp] theorem upsertGaps_candles (store : CandleStore) (gaps : List GapRecord) :
    (store.upsertGaps gaps).candles = store.candles := rfl

@[simp] theorem upsertCandles_nil (store : CandleStore) : store.upsertCandles [] = store := rfl

theorem upsertCandles_cons (store : CandleStore) (c : Candle) (candles : List Candle) :
    store.upsertCandles (c :: candles) = (store.upsertCandles [c]).upsertCandles candles := rfl

theorem upsertGaps_cons (store : CandleStore) (gap : GapRecord) (gaps : List GapRecord) :
    store.upsertGaps (gap :: gaps) = (store.upsertGaps [gap]).upsertGaps gaps := rfl

theorem deleteGaps_cons (store : CandleStore) (key : ℤ) (keys : List ℤ) :
    store.deleteGaps (key :: keys) = (store.deleteGaps [key]).deleteGaps keys := by
  refine ext_rows rfl ?_
  exact (Dict.eraseAll_eraseAll store.gaps [key] keys).symm

@[simp] theorem deleteGaps_nil (store : CandleStore) : store.deleteGaps [] = store :=
  ext_rows rfl (Dict.eraseAll_nil store.gaps)

theorem storeCandlesAndGaps_eq (store : CandleStore) (candles : List Candle)
    (gaps : List GapRecord) (stale : List ℤ) : store.storeCandlesAndGaps candles gaps stale =
      ((store.upsertCandles candles).deleteGaps stale).upsertGaps gaps := rfl

end CandleStore

/-- The tables `candles` and `candle_gaps`: the rows under each symbol and interval. -/
structure CandleDb where
  under : (symbol interval : String) → CandleStore
  own : ∀ symbol interval, ∀ p ∈ (under symbol interval).candles,
    p.2.symbol = symbol ∧ p.2.interval = interval

/-- Whether a candle belongs under a symbol and an interval. -/
def Candle.isOf (c : Candle) (symbol interval : String) : Bool :=
  c.symbol = symbol ∧ c.interval = interval

namespace CandleDb

variable {db : CandleDb} {symbol interval : String}

def empty : CandleDb where
  under _ _ := .empty
  own := by
    intro symbol interval p hp
    cases hp

/-! ## Statements -/

/-- Replace what is stored under a symbol and an interval. -/
def set (db : CandleDb) (symbol interval : String) (store : CandleStore)
    (hown : ∀ p ∈ store.candles, p.2.symbol = symbol ∧ p.2.interval = interval) : CandleDb where
  under s i := if s = symbol ∧ i = interval then store else db.under s i
  own := by
    intro s i
    by_cases hkey : s = symbol ∧ i = interval
    · simpa [hkey] using hown
    · simpa [hkey] using db.own s i

theorem own_upsertCandles (db : CandleDb) {candles : List Candle}
    (hcandles : ∀ c ∈ candles, c.isOf symbol interval = true) :
    ∀ p ∈ ((db.under symbol interval).upsertCandles candles).candles,
      p.2.symbol = symbol ∧ p.2.interval = interval := by
  intro p hp
  rcases Dict.mem_of_mem_setAll hp with hold | hnew
  · exact db.own symbol interval p hold
  · simpa [Candle.isOf] using hcandles p.2 hnew

/-- One row of `_upsert_candles_no_commit`, which goes under the symbol and interval of the candle. -/
def upsertCandle (db : CandleDb) (c : Candle) : CandleDb :=
  db.set c.symbol c.interval ((db.under c.symbol c.interval).upsertCandles [c])
    (db.own_upsertCandles (by simp [Candle.isOf]))

/-- One row of `_delete_gaps_no_commit`. -/
def deleteGap (symbol interval : String) (db : CandleDb) (expectedOpenTimeMs : ℤ) : CandleDb :=
  db.set symbol interval ((db.under symbol interval).deleteGaps [expectedOpenTimeMs])
    (by simpa using db.own symbol interval)

/-- One row of `_upsert_gaps_no_commit`. -/
def upsertGap (symbol interval : String) (db : CandleDb) (gap : GapRecord) : CandleDb :=
  db.set symbol interval ((db.under symbol interval).upsertGaps [gap])
    (by simpa using db.own symbol interval)

/-- The statements of `store_candles_and_gaps`, in order. -/
def storeStatements (candles : List Candle) (gaps : List GapRecord) (symbol interval : String)
    (stale : List ℤ) : List (CandleDb → CandleDb) :=
  candles.map (fun c db => db.upsertCandle c) ++
    stale.map (fun key db => db.deleteGap symbol interval key) ++
    gaps.map fun gap db => db.upsertGap symbol interval gap

/-- `store_candles_and_gaps`, with an exception at one of its statements or none: what is committed,
and whether it returned. -/
def storeCandlesAndGaps (db : CandleDb) (candles : List Candle) (gaps : List GapRecord)
    (symbol interval : String) (stale : List ℤ) (fault : Option ℕ) : CandleDb × Bool :=
  let (connection, returned) := Transactions.transact
    (storeStatements candles gaps symbol interval stale) fault (.idle db)
  (connection.committed, returned)

/-! ## What the transaction leaves -/

theorem under_set {store : CandleStore} {hown} (s i : String) :
    (db.set symbol interval store hown).under s i =
      if s = symbol ∧ i = interval then store else db.under s i := rfl

/-- The candles of the other symbols and intervals do not matter. -/
theorem under_upsertCandle (c : Candle) (s i : String) :
    (db.upsertCandle c).under s i = (db.under s i).upsertCandles
      ([c].filter fun c => c.isOf s i) := by
  unfold upsertCandle
  rw [under_set]
  by_cases hkey : s = c.symbol ∧ i = c.interval
  · rcases hkey with ⟨rfl, rfl⟩
    simp [Candle.isOf]
  · have hother : c.isOf s i = false := by
      simp only [Candle.isOf, decide_eq_false_iff_not]
      rintro ⟨rfl, rfl⟩
      exact hkey ⟨rfl, rfl⟩
    simp [hkey, hother]

theorem under_upsertAll (candles : List Candle) (s i : String) :
    (candles.foldl upsertCandle db).under s i =
      (db.under s i).upsertCandles (candles.filter fun c => c.isOf s i) := by
  induction candles generalizing db with
  | nil => rfl
  | cons c rest ih =>
      have hstep : ((c :: rest).foldl upsertCandle db).under s i =
          ((db.upsertCandle c).under s i).upsertCandles (rest.filter fun c => c.isOf s i) := ih
      rw [hstep, under_upsertCandle]
      by_cases hc : c.isOf s i = true
      · simp [hc, ← CandleStore.upsertCandles_cons]
      · simp [hc]

theorem under_deleteGap (key : ℤ) (s i : String) :
    (db.deleteGap symbol interval key).under s i =
      if s = symbol ∧ i = interval then (db.under symbol interval).deleteGaps [key]
      else db.under s i := rfl

theorem under_upsertGap (gap : GapRecord) (s i : String) :
    (db.upsertGap symbol interval gap).under s i =
      if s = symbol ∧ i = interval then (db.under symbol interval).upsertGaps [gap]
      else db.under s i := rfl

theorem under_deleteAll (keys : List ℤ) (s i : String) :
    (keys.foldl (deleteGap symbol interval) db).under s i =
      if s = symbol ∧ i = interval then (db.under s i).deleteGaps keys else db.under s i := by
  induction keys generalizing db with
  | nil => simp
  | cons key rest ih =>
      have hstep : ((key :: rest).foldl (deleteGap symbol interval) db).under s i =
          if s = symbol ∧ i = interval then
            ((db.deleteGap symbol interval key).under s i).deleteGaps rest
          else (db.deleteGap symbol interval key).under s i := ih
      rw [hstep, under_deleteGap]
      by_cases hkey : s = symbol ∧ i = interval
      · rcases hkey with ⟨rfl, rfl⟩
        simp [← CandleStore.deleteGaps_cons]
      · simp [hkey]

theorem under_upsertGapsAll (gaps : List GapRecord) (s i : String) :
    (gaps.foldl (upsertGap symbol interval) db).under s i =
      if s = symbol ∧ i = interval then (db.under s i).upsertGaps gaps else db.under s i := by
  induction gaps generalizing db with
  | nil =>
      have hnone : (db.under s i).upsertGaps [] = db.under s i := rfl
      simp [hnone]
  | cons gap rest ih =>
      have hstep : ((gap :: rest).foldl (upsertGap symbol interval) db).under s i =
          if s = symbol ∧ i = interval then
            ((db.upsertGap symbol interval gap).under s i).upsertGaps rest
          else (db.upsertGap symbol interval gap).under s i := ih
      rw [hstep, under_upsertGap]
      by_cases hkey : s = symbol ∧ i = interval
      · rcases hkey with ⟨rfl, rfl⟩
        simp [← CandleStore.upsertGaps_cons]
      · simp [hkey]

/-- The whole transaction: each candle goes under its own symbol and interval, the gaps under those
given. -/
theorem under_storeCandlesAndGaps (candles : List Candle) (gaps : List GapRecord)
    (stale : List ℤ) (s i : String) :
    (db.storeCandlesAndGaps candles gaps symbol interval stale none).1.under s i =
      if s = symbol ∧ i = interval then
        (db.under s i).storeCandlesAndGaps (candles.filter fun c => c.isOf s i) gaps stale
      else (db.under s i).upsertCandles (candles.filter fun c => c.isOf s i) := by
  unfold storeCandlesAndGaps
  rw [Transactions.transact_none]
  simp only [storeStatements, List.foldl_append, List.foldl_map]
  refine (under_upsertGapsAll gaps s i).trans ?_
  rw [under_deleteAll, under_upsertAll, CandleStore.storeCandlesAndGaps_eq]
  by_cases hkey : s = symbol ∧ i = interval
  · simp [hkey]
  · simp [hkey]

/-- Candles of the symbol and interval given are stored under these, and nothing else changes. -/
theorem under_storeCandlesAndGaps_own {candles : List Candle}
    (hown : ∀ c ∈ candles, c.isOf symbol interval = true) (gaps : List GapRecord)
    (stale : List ℤ) :
    ((db.storeCandlesAndGaps candles gaps symbol interval stale none).1.under symbol interval =
      (db.under symbol interval).storeCandlesAndGaps candles gaps stale) ∧
    ∀ s i, ¬(s = symbol ∧ i = interval) →
      (db.storeCandlesAndGaps candles gaps symbol interval stale none).1.under s i =
        db.under s i := by
  constructor
  · rw [under_storeCandlesAndGaps, if_pos ⟨rfl, rfl⟩, List.filter_eq_self.2 hown]
  · intro s i hother
    have hnone : candles.filter (fun c => c.isOf s i) = [] := by
      refine List.filter_eq_nil_iff.2 ?_
      intro c hc hof
      have hkey : c.symbol = s ∧ c.interval = i := by simpa [Candle.isOf] using hof
      have hkey' : c.symbol = symbol ∧ c.interval = interval := by
        simpa [Candle.isOf] using hown c hc
      exact hother ⟨hkey.1.symm.trans hkey'.1, hkey.2.symm.trans hkey'.2⟩
    rw [under_storeCandlesAndGaps, if_neg hother, hnone, CandleStore.upsertCandles_nil]

/-- A failure leaves both tables as they were. -/
theorem storeCandlesAndGaps_fault (candles : List Candle) (gaps : List GapRecord)
    (symbol interval : String) (stale : List ℤ) (n : ℕ) :
    db.storeCandlesAndGaps candles gaps symbol interval stale (some n) = (db, false) := by
  unfold storeCandlesAndGaps
  rw [Transactions.transact_some]
  rfl

end CandleDb

end TradingAgent
