import TradingAgent.Library.Cuts
import TradingAgent.Shadow.Bootstrap

/-!
# Arrivals — which forward candles the cycles have stored

A cycle asks the exchange for its completed candles after the newest stored one.  What a response
left out before that candle is never asked for again.

* `ServedCandles` is every forward candle the exchange has or will have; a `ShadowRound` is one cycle
  with what its response contains;
* `Arrived` says what the rounds so far have stored;
* `stored_forward_exact_iff`: the stored forward candles are the exchange's up to the last stored
  one exactly when no response left out a candle earlier than one it contained.
-/

namespace TradingAgent

/-! ## The exchange and its responses -/

/-- The candles an exchange serves, in order and apart. -/
structure ServedCandles where
  candles : List Candle
  spaced : candles.Pairwise fun a b => a.closeTimeMs < b.openTimeMs
  closes : ∀ c ∈ candles, c.openTimeMs ≤ c.closeTimeMs

/-- The candles from the boundary on. -/
def ServedCandles.forward (exchange : ServedCandles) : List Candle :=
  exchange.candles.filter fun c => shadowStartBoundaryMs ≤ c.openTimeMs

/-- One cycle: its kill switch, whether its fetch raises, the server time it compares with, and the
candles its response contains of those it asked for. -/
structure ShadowRound where
  killSwitch : Option String := none
  fetchFault : Option PyError := none
  serverTimeMs : ℤ
  contains : Candle → Bool
  exchangeInfo : Except PyError SymbolFilters
  nowMs : ℤ

namespace ShadowRound

variable (exchange : ServedCandles) (round : ShadowRound)

/-- The exchange's completed candles from a time on: what the round asks for. -/
def asked (startTimeMs : ℤ) : List Candle :=
  exchange.candles.filter fun c =>
    startTimeMs ≤ c.openTimeMs ∧ c.closeTimeMs < round.serverTimeMs

def answers : ShadowAnswers where
  fetchCompletedCandles startTimeMs :=
    match round.fetchFault with
    | some e => .error e
    | none => .ok ((round.asked exchange startTimeMs).filter round.contains)
  exchangeInfo := round.exchangeInfo

/-- The candles a round receives. -/
def received (db : ShadowDb) : List Candle :=
  match round.killSwitch, round.fetchFault with
  | none, none => (round.asked exchange db.fetchStartMs).filter round.contains
  | _, _ => []

/-- Every candle the response left out is later than all it contains. -/
def OmitsOnlyLater (db : ShadowDb) : Prop :=
  round.received exchange db <+: round.asked exchange db.fetchStartMs

end ShadowRound

def runRound (setup : ShadowSetup) (exchange : ServedCandles) (db : ShadowDb) (round : ShadowRound) :
    ShadowDb :=
  (runShadowCycle setup round.killSwitch (round.answers exchange) round.nowMs db).1

/-- The stored candles from the boundary on. -/
def ShadowDb.forward (db : ShadowDb) : List Candle :=
  db.candles.getCandles (some shadowStartBoundaryMs) none

/-- The stored forward candles are exactly the exchange's up to the last stored one. -/
def StoredExactly (exchange : ServedCandles) (db : ShadowDb) : Prop :=
  db.forward = exchange.forward.filter fun c =>
    db.forward.getLast?.any fun last => c.openTimeMs ≤ last.openTimeMs

/-! ## Candles in order -/

section Spaced

variable {exchange : ServedCandles} {fwd rest : List Candle}

namespace ServedCandles

theorem forward_spaced (exchange : ServedCandles) :
    exchange.forward.Pairwise fun a b => a.closeTimeMs < b.openTimeMs :=
  List.Pairwise.filter _ exchange.spaced

theorem forward_closes {c : Candle} (hc : c ∈ exchange.forward) : c.openTimeMs ≤ c.closeTimeMs :=
  exchange.closes c (List.mem_filter.1 hc).1

theorem boundary_le {c : Candle} (hc : c ∈ exchange.forward) :
    shadowStartBoundaryMs ≤ c.openTimeMs := by
  simpa using (List.mem_filter.1 hc).2

theorem forward_ordered (exchange : ServedCandles) : Ordered exchange.forward :=
  exchange.forward_spaced.imp_of_mem fun ha _ hab => (forward_closes ha).trans_lt hab

/-- Both times of a later candle are later. -/
theorem forward_later (exchange : ServedCandles) : exchange.forward.Pairwise fun a b =>
    a.openTimeMs < b.openTimeMs ∧ a.closeTimeMs < b.openTimeMs ∧
      a.closeTimeMs < b.closeTimeMs := by
  refine exchange.forward_spaced.imp_of_mem ?_
  intro a b ha hb hab
  exact ⟨(forward_closes ha).trans_lt hab, hab, hab.trans_le (forward_closes hb)⟩

end ServedCandles

/-- The candles up to the last one of `fwd` are `fwd` itself exactly when it is an initial part. -/
theorem eq_filter_last_iff (hsub : fwd.Sublist exchange.forward) :
    fwd = exchange.forward.filter (fun c =>
        fwd.getLast?.any fun last => c.openTimeMs ≤ last.openTimeMs) ↔
      fwd <+: exchange.forward := by
  have hdown : ∀ a b : Candle, (a.openTimeMs < b.openTimeMs ∧ a.closeTimeMs < b.openTimeMs ∧
      a.closeTimeMs < b.closeTimeMs) →
        (fwd.getLast?.any fun last => b.openTimeMs ≤ last.openTimeMs) = true →
          (fwd.getLast?.any fun last => a.openTimeMs ≤ last.openTimeMs) = true := by
    intro a b hab hb
    cases hlast : fwd.getLast? with
    | none =>
        simp [hlast] at hb
    | some last =>
        have hle : b.openTimeMs ≤ last.openTimeMs := by simpa [hlast] using hb
        simpa using hab.1.le.trans hle
  have hordered : Ordered fwd := exchange.forward_ordered.sublist hsub
  constructor
  · intro h
    rw [h]
    exact Cuts.filter_initial exchange.forward_later hdown
  · rintro ⟨rest, hrest⟩
    rcases List.eq_nil_or_concat fwd with hnil | ⟨front, last, hfront⟩
    · simp [hnil]
    · have hlast : fwd.getLast? = some last := by simp [hfront]
      have hall := exchange.forward_ordered
      rw [← hrest] at hall ⊢
      rw [hlast, List.filter_append]
      simp only [Option.any_some]
      -- every candle of the initial part is up to its last, none after it is
      have hkept : ∀ c ∈ fwd, decide (c.openTimeMs ≤ last.openTimeMs) = true := by
        intro c hc
        rw [hfront, List.concat_eq_append, List.mem_append, List.mem_singleton] at hc
        rcases hc with hc | rfl
        · rw [hfront, List.concat_eq_append] at hordered
          have hlt := (List.pairwise_append.1 hordered).2.2 c hc last (by simp)
          simpa using hlt.le
        · simp
      have hmem : last ∈ fwd := List.mem_of_getLast? hlast
      have hdropped : ∀ c ∈ rest, ¬decide (c.openTimeMs ≤ last.openTimeMs) = true := by
        intro c hc
        have hlt := (List.pairwise_append.1 hall).2.2 last hmem c hc
        simpa using hlt
      rw [List.filter_eq_self.2 hkept, List.filter_eq_nil_iff.2 hdropped, List.append_nil]

end Spaced

/-! ## What the rounds have stored -/

/-- The warm-up of a bootstrapped database. -/
structure IsWarmup (setup : ShadowSetup) (warmup : List Candle) : Prop where
  hourly : HourlyFrom setup.warmupStartMs warmup
  length : warmup.length = setup.warmupCandleCount
  closes : ∀ c ∈ warmup, c.closeTimeMs < shadowStartBoundaryMs

/-- The database holds the warm-up and, after it, the forward candles `fwd` of the exchange. -/
structure Arrived (setup : ShadowSetup) (exchange : ServedCandles) (warmup fwd : List Candle)
    (db : ShadowDb) : Prop where
  state : db.store.bootstrapState = some setup.bootstrapState
  holds : db.candles.Holds (warmup ++ fwd)
  served : fwd.Sublist exchange.forward

section Rounds

variable {setup : ShadowSetup} {exchange : ServedCandles} {warmup fwd : List Candle} {db : ShadowDb}

theorem HourlyFrom.ordered {startMs : ℤ} {candles : List Candle} (h : HourlyFrom startMs candles) :
    Ordered candles := by
  refine List.pairwise_iff_getElem.2 ?_
  intro i j hi hj hij
  have hcast : (i : ℤ) < j := by exact_mod_cast hij
  have hmul := mul_lt_mul_of_pos_right hcast (show (0 : ℤ) < hourMs by decide)
  rw [h i hi, h j hj]
  linarith

theorem IsWarmup.before_boundary (h : IsWarmup setup warmup) {c : Candle} (hc : c ∈ warmup) :
    c.openTimeMs < shadowStartBoundaryMs := by
  have htime : c.openTimeMs ∈ setup.warmupTimes := by
    have := h.hourly.mem_times.1 ⟨c, hc, rfl⟩
    rwa [h.length] at this
  have hrange := (setup.warmupTimes_range htime).2
  have hhour : (0 : ℤ) < hourMs := by decide
  linarith

theorem ordered_append (hwarmup : IsWarmup setup warmup) (hfwd : fwd.Sublist exchange.forward) :
    Ordered (warmup ++ fwd) := by
  refine List.pairwise_append.2 ⟨hwarmup.hourly.ordered, exchange.forward_ordered.sublist hfwd, ?_⟩
  intro a ha b hb
  exact (hwarmup.before_boundary ha).trans_le (ServedCandles.boundary_le (hfwd.subset hb))

namespace Arrived

theorem ordered (h : Arrived setup exchange warmup fwd db) (hwarmup : IsWarmup setup warmup) :
    Ordered (warmup ++ fwd) :=
  ordered_append hwarmup h.served

theorem mem_times (h : Arrived setup exchange warmup fwd db) {t : ℤ} :
    t ∈ db.candles.times ↔ ∃ c ∈ warmup ++ fwd, c.openTimeMs = t := by
  have hcandles : db.candles.candles = (warmup ++ fwd).map fun c => (c.openTimeMs, c) := h.holds
  simp [CandleStore.times, hcandles, or_and_right, exists_or]

theorem sound (h : Arrived setup exchange warmup fwd db) (hwarmup : IsWarmup setup warmup) :
    ShadowDb.Sound setup db := by
  have htimes : ∀ t, (∃ c ∈ warmup, c.openTimeMs = t) ↔ t ∈ setup.warmupTimes := by
    intro t
    rw [hwarmup.hourly.mem_times, hwarmup.length]
    rfl
  constructor
  case onGrid =>
      intro t ht
      rcases h.mem_times.1 ht with ⟨c, hc, rfl⟩
      rcases List.mem_append.1 hc with hc | hc
      · exact Or.inr ((htimes _).1 ⟨c, hc, rfl⟩)
      · exact Or.inl (ServedCandles.boundary_le (h.served.subset hc))
  case recorded =>
      intro state hstate
      refine ⟨(Option.some.inj (h.state.symm.trans hstate)).symm, ?_⟩
      intro t ht
      rcases (htimes t).2 ht with ⟨c, hc, hopen⟩
      exact h.mem_times.2 ⟨c, List.mem_append_left _ hc, hopen⟩
  case unscored =>
      intro hnone
      rw [h.state] at hnone
      cases hnone

theorem verified (h : Arrived setup exchange warmup fwd db) (hwarmup : IsWarmup setup warmup) :
    verifyBootstrapComplete hourMs db.candles db.store = .ok (.verified setup.bootstrapState) :=
  ((h.sound hwarmup).warmupStored h.state).verified

/-- The stored forward candles are those that have arrived. -/
theorem forward_eq (h : Arrived setup exchange warmup fwd db) (hwarmup : IsWarmup setup warmup) :
    db.forward = fwd := by
  have hcandles : db.candles.candles = (warmup ++ fwd).map fun c => (c.openTimeMs, c) := h.holds
  have hvalues : db.candles.candles.map Prod.snd = warmup ++ fwd := by
    rw [hcandles, List.map_map]
    exact List.map_id _
  have hsorted : (warmup ++ fwd).Pairwise fun a b => a.openTimeMs ≤ b.openTimeMs :=
    (h.ordered hwarmup).imp fun hlt => hlt.le
  unfold ShadowDb.forward CandleStore.getCandles
  rw [hvalues, hsorted.insertionSort_eq, List.filter_append]
  have hbefore : ∀ c ∈ warmup, ¬((some shadowStartBoundaryMs).all (· ≤ c.openTimeMs) &&
      (none : Option ℤ).all (c.openTimeMs ≤ ·)) = true := by
    intro c hc
    simpa using hwarmup.before_boundary hc
  have hafter : ∀ c ∈ fwd, ((some shadowStartBoundaryMs).all (· ≤ c.openTimeMs) &&
      (none : Option ℤ).all (c.openTimeMs ≤ ·)) = true := by
    intro c hc
    simpa using ServedCandles.boundary_le (h.served.subset hc)
  rw [List.filter_eq_nil_iff.2 hbefore, List.filter_eq_self.2 hafter, List.nil_append]

/-! ### Where the next fetch starts -/

theorem boundary_le_fetchStart (db : ShadowDb) : shadowStartBoundaryMs ≤ db.fetchStartMs := by
  unfold ShadowDb.fetchStartMs
  split
  · exact le_rfl
  · exact le_max_left _ _

theorem closes_eq (h : Arrived setup exchange warmup fwd db) :
    db.candles.latestCloseTimeMs = ((warmup ++ fwd).map Candle.closeTimeMs).max? := by
  have hcandles : db.candles.candles = (warmup ++ fwd).map fun c => (c.openTimeMs, c) := h.holds
  rw [CandleStore.latestCloseTimeMs, hcandles, List.map_map]
  rfl

/-- Nothing that has arrived is asked for again. -/
theorem lt_fetchStart (h : Arrived setup exchange warmup fwd db) {c : Candle} (hc : c ∈ fwd) :
    c.openTimeMs < db.fetchStartMs := by
  have hmem : c.closeTimeMs ∈ (warmup ++ fwd).map Candle.closeTimeMs :=
    List.mem_map_of_mem (List.mem_append_right _ hc)
  unfold ShadowDb.fetchStartMs
  rw [h.closes_eq]
  cases hmax : ((warmup ++ fwd).map Candle.closeTimeMs).max? with
  | none =>
      rw [List.max?_eq_none_iff] at hmax
      rw [hmax] at hmem
      cases hmem
  | some latest =>
      have hle := (List.max?_eq_some_iff.1 hmax).2 _ hmem
      have hclose := ServedCandles.forward_closes (h.served.subset hc)
      have hfloor : latest + 1 ≤ max shadowStartBoundaryMs (latest + 1) := le_max_right _ _
      simp only
      linarith

/-- A forward candle later than all that have arrived is asked for. -/
theorem fetchStart_le (h : Arrived setup exchange warmup fwd db) (hwarmup : IsWarmup setup warmup)
    {c : Candle} (hc : c ∈ exchange.forward) (hlater : ∀ d ∈ fwd, d.closeTimeMs < c.openTimeMs) :
    db.fetchStartMs ≤ c.openTimeMs := by
  have hboundary := ServedCandles.boundary_le hc
  unfold ShadowDb.fetchStartMs
  rw [h.closes_eq]
  cases hmax : ((warmup ++ fwd).map Candle.closeTimeMs).max? with
  | none => exact hboundary
  | some latest =>
      have hlatest : latest < c.openTimeMs := by
        rcases List.mem_map.1 (List.max?_eq_some_iff.1 hmax).1 with ⟨d, hd, rfl⟩
        rcases List.mem_append.1 hd with hd | hd
        · exact (hwarmup.closes d hd).trans_le hboundary
        · exact hlater d hd
      exact max_le hboundary hlatest

/-! ### One round -/

/-- The forward candles that have not arrived are those asked for, until they are complete. -/
theorem asked_eq (round : ShadowRound) :
    round.asked exchange db.fetchStartMs =
      (exchange.forward.filter fun c => !decide (c.openTimeMs < db.fetchStartMs)).filter
        fun c => c.closeTimeMs < round.serverTimeMs := by
  unfold ShadowRound.asked ServedCandles.forward
  rw [List.filter_filter, List.filter_filter]
  refine List.filter_congr ?_
  intro c hc
  have hfloor := boundary_le_fetchStart db
  by_cases hstart : db.fetchStartMs ≤ c.openTimeMs
  · simp [hstart, hfloor.trans hstart]
  · simp [hstart, not_le.1 hstart]

theorem received_sublist_asked (exchange : ServedCandles) (db : ShadowDb) (round : ShadowRound) :
    (round.received exchange db).Sublist (round.asked exchange db.fetchStartMs) := by
  unfold ShadowRound.received
  split
  · exact List.filter_sublist
  · exact List.nil_sublist _

/-- What arrives is again a part of the forward candles, in order. -/
theorem served_append (h : Arrived setup exchange warmup fwd db) (round : ShadowRound) :
    (fwd ++ round.received exchange db).Sublist exchange.forward := by
  have hreceived : (round.received exchange db).Sublist
      (exchange.forward.filter fun c => !decide (c.openTimeMs < db.fetchStartMs)) := by
    refine (received_sublist_asked exchange db round).trans ?_
    rw [asked_eq]
    exact List.filter_sublist
  refine (hreceived.append_left fwd).trans ?_
  refine Cuts.append_filter_not_sublist exchange.forward_later ?_ h.served ?_
  · intro a b hab hb
    simp only [decide_eq_true_eq] at hb ⊢
    exact hab.1.trans hb
  · intro c hc
    simpa using h.lt_fetchStart hc

/-- What is fetched after the stored candles is stored after them. -/
theorem storeFetched (h : Arrived setup exchange warmup fwd db) (hwarmup : IsWarmup setup warmup)
    {fetched : List Candle} (hserved : (fwd ++ fetched).Sublist exchange.forward) :
    Arrived setup exchange warmup (fwd ++ fetched) (db.storeFetched fetched) := by
  -- nothing fetched lies before the boundary
  have hforward : filterFromBoundary fetched = fetched := by
    refine List.filter_eq_self.2 ?_
    intro c hc
    simpa using ServedCandles.boundary_le (hserved.subset (List.mem_append_right fwd hc))
  have hordered : Ordered ((warmup ++ fwd) ++ fetched) := by
    rw [List.append_assoc]
    exact ordered_append hwarmup hserved
  refine ⟨h.state, ?_, hserved⟩
  rw [ShadowDb.storeFetched, hforward, ← List.append_assoc]
  exact h.holds.upsert hordered

/-- The transaction of a cycle touches no candle. -/
theorem withStore (h : Arrived setup exchange warmup fwd db) {store : ShadowStore}
    (hkept : store.bootstrapState = db.store.bootstrapState) :
    Arrived setup exchange warmup fwd { db with store := store } :=
  ⟨hkept.trans h.state, h.holds, h.served⟩

theorem runRound_arrived (h : Arrived setup exchange warmup fwd db)
    (hwarmup : IsWarmup setup warmup) (round : ShadowRound) :
    Arrived setup exchange warmup (fwd ++ round.received exchange db)
      (runRound setup exchange db round) := by
  have hserved := h.served_append round
  cases hswitch : round.killSwitch with
  | some reason =>
      simpa [runRound, runShadowCycle, ShadowRound.received, hswitch] using h
  | none =>
      cases hfault : round.fetchFault with
      | some e =>
          have hanswer : (round.answers exchange).fetchCompletedCandles db.fetchStartMs =
              .error e := by
            simp [ShadowRound.answers, hfault]
          simpa [runRound, runShadowCycle, runShadowCycleLocked, h.verified hwarmup, hanswer,
            ShadowRound.received, hswitch, hfault] using h
      | none =>
          have hanswer : (round.answers exchange).fetchCompletedCandles db.fetchStartMs =
              .ok (round.received exchange db) := by
            simp [ShadowRound.answers, ShadowRound.received, hfault, hswitch]
          have hstored := h.storeFetched hwarmup hserved
          have hleaves : CycleLeaves setup setup.bootstrapState (round.answers exchange)
              round.nowMs db (round.received exchange db)
              (runShadowCycle setup none (round.answers exchange) round.nowMs db).1 :=
            runShadowCycle_of_fetched (h.verified hwarmup) hanswer
          rw [runRound, hswitch]
          rcases hleaves with hleft | ⟨store, result, hcycle, hleft⟩
          · rw [hleft]
            exact hstored
          · rw [hleft]
            exact hstored.withStore (evaluateCycle_bootstrapState hcycle)

/-- After an initial part of the forward candles, the next fetch starts with the rest of them. -/
theorem unfetched_eq (h : Arrived setup exchange warmup fwd db) (hwarmup : IsWarmup setup warmup)
    {rest : List Candle} (hrest : fwd ++ rest = exchange.forward) :
    (exchange.forward.filter fun c => !decide (c.openTimeMs < db.fetchStartMs)) = rest := by
  have hspaced := exchange.forward_spaced
  rw [← hrest] at hspaced
  have harrived : ∀ c ∈ fwd, ¬(!decide (c.openTimeMs < db.fetchStartMs)) = true := by
    intro c hc
    simpa using h.lt_fetchStart hc
  have hmissing : ∀ c ∈ rest, (!decide (c.openTimeMs < db.fetchStartMs)) = true := by
    intro c hc
    have hmem : c ∈ exchange.forward := hrest ▸ List.mem_append_right fwd hc
    have hstart := h.fetchStart_le hwarmup hmem fun d hd =>
      (List.pairwise_append.1 hspaced).2.2 d hd c hc
    simpa using hstart
  rw [← hrest, List.filter_append, List.filter_eq_nil_iff.2 harrived,
    List.filter_eq_self.2 hmissing, List.nil_append]

/-- After an initial part of the forward candles, what arrives continues it exactly when the
response is an initial part of what was asked for. -/
theorem prefix_append_received_iff (h : Arrived setup exchange warmup fwd db)
    (hwarmup : IsWarmup setup warmup) (hinitial : fwd <+: exchange.forward) (round : ShadowRound) :
    fwd ++ round.received exchange db <+: exchange.forward ↔ round.OmitsOnlyLater exchange db := by
  rcases hinitial with ⟨rest, hrest⟩
  have hlater := exchange.forward_later
  rw [← hrest] at hlater
  -- what has not arrived is the rest, so the round asks for its completed candles
  have hasked : round.asked exchange db.fetchStartMs =
      rest.filter fun c => c.closeTimeMs < round.serverTimeMs := by
    rw [asked_eq, h.unfetched_eq hwarmup hrest]
  have hreceived := (received_sublist_asked exchange db round).subset
  have hcompleted : ∀ c ∈ round.received exchange db,
      decide (c.closeTimeMs < round.serverTimeMs) = true := by
    intro c hc
    have hmem := hreceived hc
    rw [hasked] at hmem
    exact (List.mem_filter.1 hmem).2
  have hdown : ∀ a b : Candle, (a.openTimeMs < b.openTimeMs ∧ a.closeTimeMs < b.openTimeMs ∧
      a.closeTimeMs < b.closeTimeMs) → decide (b.closeTimeMs < round.serverTimeMs) = true →
        decide (a.closeTimeMs < round.serverTimeMs) = true := by
    intro a b hab hb
    simp only [decide_eq_true_eq] at hb ⊢
    exact hab.2.2.trans hb
  calc fwd ++ round.received exchange db <+: exchange.forward
      ↔ round.received exchange db <+: rest := by
        rw [← hrest, List.prefix_append_right_inj]
    _ ↔ round.received exchange db <+: round.asked exchange db.fetchStartMs := by
        rw [hasked]
        exact (Cuts.prefix_filter_iff (List.pairwise_append.1 hlater).2.1 hdown hcompleted).symm

/-! ### All rounds -/

theorem final (h : Arrived setup exchange warmup fwd db) (hwarmup : IsWarmup setup warmup)
    (rounds : List ShadowRound) :
    ∃ stored, Arrived setup exchange warmup stored
        (Runs.final (runRound setup exchange) db rounds) ∧
      (stored <+: exchange.forward ↔ fwd <+: exchange.forward ∧
        Runs.Along (runRound setup exchange) (fun db round => round.OmitsOnlyLater exchange db) db
          rounds) := by
  induction rounds generalizing db fwd with
  | nil => exact ⟨fwd, h, by simp [Runs.Along]⟩
  | cons round rest ih =>
      rcases ih (h.runRound_arrived hwarmup round) with ⟨stored, hstored, hiff⟩
      refine ⟨stored, hstored, hiff.trans ?_⟩
      constructor
      · rintro ⟨hextended, halong⟩
        have hinitial := (List.prefix_append fwd _).trans hextended
        exact ⟨hinitial, (h.prefix_append_received_iff hwarmup hinitial round).1 hextended, halong⟩
      · rintro ⟨hinitial, homits, halong⟩
        exact ⟨(h.prefix_append_received_iff hwarmup hinitial round).2 homits, halong⟩

/-- The stored candles are the exchange's up to the last one exactly when they are an initial part
of the forward candles. -/
theorem storedExactly_iff (h : Arrived setup exchange warmup fwd db)
    (hwarmup : IsWarmup setup warmup) : StoredExactly exchange db ↔ fwd <+: exchange.forward := by
  unfold StoredExactly
  rw [h.forward_eq hwarmup]
  exact eq_filter_last_iff h.served

end Arrived

end Rounds

/-! ## From the bootstrap on -/

/-- The database a bootstrap with this range leaves. -/
def ShadowSetup.bootstrappedWith (setup : ShadowSetup) (warmup : List Candle) : ShadowDb :=
  (setup.runShadowBootstrap (.ok warmup) none .empty).1

section Bootstrapped

variable {setup : ShadowSetup} {warmup : List Candle}

theorem ShadowSetup.isWarmup (hrefusal : setup.refusal warmup = .ok none)
    (hcloses : ∀ c ∈ warmup, c.closeTimeMs < shadowStartBoundaryMs) : IsWarmup setup warmup := by
  rcases setup.hourlyFrom_of_refusal_none hrefusal with ⟨hlength, hhourly⟩
  exact ⟨hhourly, hlength, hcloses⟩

theorem ShadowSetup.bootstrappedWith_arrived (exchange : ServedCandles)
    (hrefusal : setup.refusal warmup = .ok none)
    (hcloses : ∀ c ∈ warmup, c.closeTimeMs < shadowStartBoundaryMs) :
    Arrived setup exchange warmup [] (setup.bootstrappedWith warmup) := by
  have hwarmup := setup.isWarmup hrefusal hcloses
  have hempty : CandleStore.empty.Holds [] := rfl
  have hordered : Ordered ([] ++ warmup) := hwarmup.hourly.ordered
  have hstored := hempty.upsert hordered
  unfold ShadowSetup.bootstrappedWith ShadowSetup.runShadowBootstrap
  simp only [ShadowDb.empty, hrefusal]
  refine ⟨rfl, ?_, List.nil_sublist _⟩
  rwa [List.append_nil]

end Bootstrapped

/-- After any rounds the stored forward candles are exactly the exchange's up to the last stored
one, if and only if no response so far has left out a candle earlier than one it contained. -/
theorem stored_forward_exact_iff (setup : ShadowSetup) (exchange : ServedCandles) (warmup : List Candle)
    (hrefusal : setup.refusal warmup = .ok none)
    (hcloses : ∀ c ∈ warmup, c.closeTimeMs < shadowStartBoundaryMs) (rounds : List ShadowRound) :
    StoredExactly exchange
        (Runs.final (runRound setup exchange) (setup.bootstrappedWith warmup) rounds) ↔
      Runs.Along (runRound setup exchange) (fun db round => round.OmitsOnlyLater exchange db)
        (setup.bootstrappedWith warmup) rounds := by
  have hwarmup := setup.isWarmup hrefusal hcloses
  have hstart := setup.bootstrappedWith_arrived exchange hrefusal hcloses
  rcases hstart.final hwarmup rounds with ⟨stored, harrived, hiff⟩
  rw [harrived.storedExactly_iff hwarmup, hiff]
  exact and_iff_right List.nil_prefix

namespace Scenario

/-- Three hours from the boundary on. -/
def threeHours : ServedCandles where
  candles := (List.range 3).map (hourCandle shadowStartBoundaryMs)
  spaced := by decide
  closes := by decide

/-- A round at the end of the three hours. -/
def laterRound (contains : Candle → Bool) : ShadowRound where
  serverTimeMs := shadowStartBoundaryMs + 3 * hourMs
  contains := contains
  exchangeInfo := .ok filters
  nowMs := shadowStartBoundaryMs + 3 * hourMs

/-- The second hour's candle arrives without the first hour's, and the next response is whole. -/
def omittedOnce : List ShadowRound :=
  [{ laterRound fun c => c.openTimeMs ≠ shadowStartBoundaryMs with
      serverTimeMs := shadowStartBoundaryMs + 2 * hourMs },
    laterRound fun _ => true]

end Scenario

theorem stored_forward_exact_two_rounds :
    StoredExactly Scenario.threeHours
      (Runs.final (runRound Scenario.shadowSetup Scenario.threeHours)
        (Scenario.shadowSetup.bootstrappedWith Scenario.warmup)
        [Scenario.laterRound fun _ => true, Scenario.laterRound fun _ => true]) := by
  refine (stored_forward_exact_iff Scenario.shadowSetup Scenario.threeHours Scenario.warmup
    (by decide +kernel) (by decide +kernel) _).2 ?_
  unfold Runs.Along Runs.Along Runs.Along ShadowRound.OmitsOnlyLater
  decide +kernel

/-- An omitted candle stays missing after a response that omits nothing. -/
theorem stored_forward_exact_omitted :
    ¬StoredExactly Scenario.threeHours
      (Runs.final (runRound Scenario.shadowSetup Scenario.threeHours)
        (Scenario.shadowSetup.bootstrappedWith Scenario.warmup) Scenario.omittedOnce) := by
  unfold StoredExactly
  decide +kernel

end TradingAgent
