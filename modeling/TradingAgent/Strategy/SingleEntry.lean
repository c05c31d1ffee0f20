import TradingAgent.Library.KeyedTable
import TradingAgent.Strategy.NoRepaint

/-!
# One entry for each setup

The strategy keeps no state between calls; what it buys is read off the setups of each call.  Over
the calls on all initial parts of hour-aligned candles:

* `scanSetupEvents_disjoint`: the confirmation windows do not overlap;
* `boughtOn_of_buy`: what a BUY says about the candles of its own call;
* `one_entry_per_setup`: a BUY is at the first confirmation of its setup among all candles, so that
  no other call buys the same setup.
-/

namespace TradingAgent

/-! ## What a BUY promises -/

/-- The hour closes above the level and above its own open. -/
def ConfirmsAt (candles : List Candle) (level : ℚ) (h : ℕ) : Prop :=
  ∃ c, candles[h]? = some c ∧ level < c.close ∧ c.open < c.close

/-- Hour `h` is the first of the four after the setup's closing hour that confirms it. -/
structure FirstConfirmation (candles : List Candle) (setup : SetupEvent) (h : ℕ) : Prop where
  afterSetup : setup.setupHourIndex < h
  within : h ≤ setup.setupHourIndex + confirmationWindow1hCandles
  confirms : ConfirmsAt candles setup.breakoutLevel h
  first : ∀ j, setup.setupHourIndex < j → j < h → ¬ConfirmsAt candles setup.breakoutLevel j

/-- The closes of the completed weeks. -/
def weeklyCloses (candles : List Candle) : List ℚ :=
  (aggregateCompletedBuckets candles weekHours weeklyBucketStartMs).map fun b => b.candle.close

/-- The last of these weeks closes above its EMA, which is higher than four weeks before. -/
def WeeklyUptrend (indicators : CausalIndicators) (closes : List ℚ) : Prop :=
  weeklyEmaPeriod + weeklyEmaSlopeLookbackCandles ≤ closes.length ∧
    ∃ close emaCurr emaPrior, closes[closes.length - 1]? = some close ∧
      (indicators.ema closes weeklyEmaPeriod)[closes.length - 1]? = some emaCurr ∧
      (indicators.ema closes weeklyEmaPeriod)[closes.length - 1 - weeklyEmaSlopeLookbackCandles]? =
        some emaPrior ∧
      emaCurr < close ∧ emaPrior < emaCurr

theorem weeklyFilterBullish_eq_true {indicators : CausalIndicators} {candles : List Candle}
    (h : weeklyFilterBullish indicators candles = true) :
    WeeklyUptrend indicators (weeklyCloses candles) := by
  have hcount : (weeklyCloses candles).length =
      (aggregateCompletedBuckets candles weekHours weeklyBucketStartMs).length :=
    List.length_map _
  unfold weeklyFilterBullish at h
  simp only [← hcount] at h
  change (if (weeklyCloses candles).length < weeklyEmaPeriod + weeklyEmaSlopeLookbackCandles then
    false else _) = true at h
  by_cases hshort : (weeklyCloses candles).length < weeklyEmaPeriod + weeklyEmaSlopeLookbackCandles
  · simp [hshort] at h
  · refine ⟨not_lt.1 hshort, ?_⟩
    rw [if_neg hshort] at h
    split at h
    · rename_i close emaCurr emaPrior hclose hcurr hprior
      simp only [Bool.and_eq_true, decide_eq_true_eq] at h
      exact ⟨close, emaCurr, emaPrior, hclose, hcurr, hprior, h⟩
    · cases h

/-- What a BUY says about the candles of its own call. -/
structure BoughtOn (indicators : CausalIndicators) (candles : List Candle) (side : PositionSide)
    (signal : Signal) (governing : SetupEvent) : Prop where
  enough : MultiTimeframeBreakoutStrategy.minRequiredCandles ≤ candles.length
  setup : governing ∈ scanSetupEvents indicators candles
  named : Dict.get? signal.inputs "governing_setup_hour_index" =
    some (.integer governing.setupHourIndex)
  confirmed : ∃ h, governing.confirmationIndex = some h ∧ ¬h < candles.length - 1
  weekly : WeeklyUptrend indicators (weeklyCloses candles)
  flat : side = .flat

theorem boughtOn_of_buy {indicators : CausalIndicators} {candles : List Candle}
    {side : PositionSide} {signal : Signal}
    (h : MultiTimeframeBreakoutStrategy.generateSignal indicators candles side = .ok signal)
    (hbuy : signal.type = .buy) : ∃ governing, BoughtOn indicators candles side signal governing := by
  simp only [MultiTimeframeBreakoutStrategy.generateSignal] at h
  -- each earlier return is an exception or no BUY
  split at h
  · cases h
  split at h
  · cases h
  rename_i lastCandle _ hlength
  split at h
  · cases h
    cases hbuy
  rename_i hweekly
  split at h
  · cases h
    cases hbuy
  rename_i hside
  split at h
  · cases h
    cases hbuy
  rename_i governing hgoverning
  split at h
  · cases h
    cases hbuy
  rename_i confirmed hconfirmed
  split at h
  · cases h
    cases hbuy
  rename_i hnow
  cases h
  refine ⟨governing, not_lt.1 hlength, (List.mem_filter.1 (List.argmax_mem hgoverning)).1, ?_,
    ⟨confirmed, hconfirmed, hnow⟩, weeklyFilterBullish_eq_true (by simpa using hweekly), ?_⟩
  · simp [Dict.get?]
  · cases side with
    | flat => rfl
    | long => exact absurd rfl hside

/-! ## Disjoint windows -/

section Windows

variable {hoursPerBucket : ℕ} {bucketStart : ℤ → ℤ}

/-- A bucket takes all its hours from the candles that were left. -/
theorem add_hours_le_of_mem {bucket : CompletedBucket} {i : ℕ} {groups : List (List Candle)}
    (h : bucket ∈ completedBuckets hoursPerBucket bucketStart i groups) :
    i + hoursPerBucket ≤ bucket.lastHourIndex + 1 := by
  induction groups generalizing i with
  | nil => cases h
  | cons group groups ih =>
      cases group with
      | nil => exact ih h
      | cons first rest =>
          simp only [completedBuckets] at h
          split at h
          · rename_i hcomplete
            rcases List.mem_cons.1 h with rfl | hlater
            · simp only [isComplete, Bool.and_eq_true, decide_eq_true_eq, List.length_cons]
                at hcomplete
              rw [← hcomplete.1.1, Nat.add_assoc]
            · have hle := ih hlater
              omega
          · have hle := ih h
            omega

theorem completedBuckets_pairwise (i : ℕ) (groups : List (List Candle)) :
    (completedBuckets hoursPerBucket bucketStart i groups).Pairwise
      fun b b' => b.lastHourIndex + hoursPerBucket ≤ b'.lastHourIndex := by
  induction groups generalizing i with
  | nil => exact List.Pairwise.nil
  | cons group groups ih =>
      cases group with
      | nil => exact ih i
      | cons first rest =>
          simp only [completedBuckets]
          split
          · refine List.pairwise_cons.2 ⟨?_, ih _⟩
            intro later hlater
            have hle := add_hours_le_of_mem hlater
            change i + rest.length + hoursPerBucket ≤ later.lastHourIndex
            omega
          · exact ih _

end Windows

/-- The confirmation windows of the setups do not overlap, and are in order. -/
theorem scanSetupEvents_disjoint (indicators : CausalIndicators) (candles : List Candle) :
    (scanSetupEvents indicators candles).Pairwise
      fun setup setup' => setup.windowEndIndex < setup'.windowStartIndex := by
  rw [scanSetupEvents_eq indicators candles rfl, List.pairwise_filterMap]
  refine List.Pairwise.imp ?_ (List.pairwise_lt_range' 1)
  intro i j hij setup hsetup setup' hsetup'
  rcases setupOf_eq_some hsetup with ⟨bucket, hbucket, level, rfl⟩
  rcases setupOf_eq_some hsetup' with ⟨bucket', hbucket', level', rfl⟩
  -- the later bucket has four more hours, and the window is the four hours after the first
  have hapart : bucket.lastHourIndex + fourHHours ≤ bucket'.lastHourIndex := by
    rcases List.getElem?_eq_some_iff.1 hbucket with ⟨hi, rfl⟩
    rcases List.getElem?_eq_some_iff.1 hbucket' with ⟨hj, rfl⟩
    exact List.pairwise_iff_getElem.1 (completedBuckets_pairwise 0 _) i j hi hj hij
  exact Nat.lt_succ_of_le hapart

/-! ## One entry -/

section Entries

variable {indicators : CausalIndicators} {candles : List Candle}

theorem confirmsAt_iff (candles : List Candle) (level : ℚ) (h : ℕ) :
    (candles[h]?.any fun c => c.close > level && c.close > c.open) = true ↔
      ConfirmsAt candles level h := by
  unfold ConfirmsAt
  cases candles[h]? with
  | none => simp
  | some c => simp

/-- The confirmation of a setup is the first confirming hour of its window. -/
theorem firstConfirmation_of_mem {setup : SetupEvent} {h : ℕ}
    (hsetup : setup ∈ scanSetupEvents indicators candles)
    (hconfirmed : setup.confirmationIndex = some h) : FirstConfirmation candles setup h := by
  rw [scanSetupEvents_eq indicators candles rfl] at hsetup
  rcases List.mem_filterMap.1 hsetup with ⟨i, -, hi⟩
  rcases setupOf_eq_some hi with ⟨bucket, -, level, rfl⟩
  unfold setupEvent confirmationIndex at hconfirmed
  simp only [List.find?_range'_eq_some, List.mem_range'_1, confirmsAt_iff] at hconfirmed
  rcases hconfirmed with ⟨hconfirms, hrange, hfirst⟩
  refine ⟨?_, ?_, hconfirms, ?_⟩
  · exact hrange.1
  · simp only [setupEvent]
    omega
  · intro j hj hjh hconfirmsAt
    have hnot := hfirst j hj hjh
    rw [(confirmsAt_iff candles level j).2 hconfirmsAt] at hnot
    cases hnot

theorem FirstConfirmation.unique {setup : SetupEvent} {h h' : ℕ}
    (hfirst : FirstConfirmation candles setup h) (hfirst' : FirstConfirmation candles setup h') :
    h = h' := by
  rcases lt_trichotomy h h' with hlt | heq | hgt
  · exact absurd hfirst.confirms (hfirst'.first h hfirst.afterSetup hlt)
  · exact heq
  · exact absurd hfirst'.confirms (hfirst.first h' hfirst'.afterSetup hgt)

/-- The window of a setup is the four hours after its closing hour. -/
theorem window_of_mem {setup : SetupEvent}
    (hsetup : setup ∈ scanSetupEvents indicators candles) :
    setup.windowStartIndex = setup.setupHourIndex + 1 ∧
      setup.windowEndIndex = setup.setupHourIndex + confirmationWindow1hCandles := by
  rw [scanSetupEvents_eq indicators candles rfl] at hsetup
  rcases List.mem_filterMap.1 hsetup with ⟨i, -, hi⟩
  rcases setupOf_eq_some hi with ⟨bucket, -, level, rfl⟩
  exact ⟨rfl, rfl⟩

theorem setup_eq_of_hour {setup setup' : SetupEvent}
    (hsetup : setup ∈ scanSetupEvents indicators candles)
    (hsetup' : setup' ∈ scanSetupEvents indicators candles)
    (hhour : setup.setupHourIndex = setup'.setupHourIndex) : setup = setup' := by
  by_contra hne
  have hdistinct : (scanSetupEvents indicators candles).Pairwise
      fun setup setup' => setup.setupHourIndex ≠ setup'.setupHourIndex := by
    refine (scanSetupEvents_disjoint indicators candles).imp_of_mem ?_
    intro a b ha hb hlt
    rw [(window_of_mem ha).2, (window_of_mem hb).1] at hlt
    have hwindow : 0 < confirmationWindow1hCandles := by decide
    change a.setupHourIndex ≠ b.setupHourIndex
    omega
  have : Std.Symm fun a b : SetupEvent => a.setupHourIndex ≠ b.setupHourIndex :=
    ⟨fun _ _ => Ne.symm⟩
  exact hdistinct.forall hsetup hsetup' hne hhour

/-- A BUY on the first candles is at the first confirmation of its setup among all candles. -/
theorem entry_of_buy (hordered : Ordered candles) (haligned : HourAligned candles) {n : ℕ}
    (hn : n ≤ candles.length) {side : PositionSide} {signal : Signal}
    (h : MultiTimeframeBreakoutStrategy.generateSignal indicators (candles.take n) side =
      .ok signal) (hbuy : signal.type = .buy) :
    ∃ setup ∈ scanSetupEvents indicators candles,
      Dict.get? signal.inputs "governing_setup_hour_index" =
        some (.integer setup.setupHourIndex) ∧
      FirstConfirmation candles setup (n - 1) := by
  rcases boughtOn_of_buy h hbuy with ⟨governing, hbought⟩
  have hlength : (candles.take n).length = n := by
    rw [List.length_take, min_eq_left hn]
  have hfirst : candles.take n <+: candles := List.take_prefix n candles
  have hscan := @scanSetupEvents_initial indicators _ _ hordered haligned hfirst
  have hgoverning := hbought.setup
  rw [hscan, hlength] at hgoverning
  rcases List.mem_map.1 hgoverning with ⟨setup, hmem, rfl⟩
  have hsetup := (List.mem_filter.1 hmem).1
  refine ⟨setup, hsetup, hbought.named, ?_⟩
  -- what this call sees as the confirmation is the confirmation among all candles, and not before
  -- the last hour of the call
  rcases hbought.confirmed with ⟨confirmed, hconfirmed, hnow⟩
  rcases Option.filter_eq_some_iff.1 hconfirmed with ⟨hall, hseen⟩
  rw [hlength] at hnow
  have hseen' := of_decide_eq_true hseen
  have hlast : confirmed = n - 1 := by omega
  rw [← hlast]
  exact firstConfirmation_of_mem hsetup hall

/-- The setup whose window holds the current hour governs the call: no other window holds it. -/
theorem argmax_activeEvents {setup : SetupEvent} {currentIdx : ℕ}
    (hsetup : setup ∈ scanSetupEvents indicators candles)
    (hstart : setup.windowStartIndex ≤ currentIdx) (hend : currentIdx ≤ setup.windowEndIndex) :
    (MultiTimeframeBreakoutStrategy.activeEvents (scanSetupEvents indicators candles)
      currentIdx).argmax SetupEvent.setupHourIndex = some setup := by
  have hactive : ∀ other ∈ MultiTimeframeBreakoutStrategy.activeEvents
      (scanSetupEvents indicators candles) currentIdx, other = setup := by
    intro other hother
    rcases List.mem_filter.1 hother with ⟨hmem, hwindow⟩
    simp only [Bool.and_eq_true, decide_eq_true_eq] at hwindow
    by_contra hne
    have hapart : (scanSetupEvents indicators candles).Pairwise fun a b =>
        ¬(a.windowStartIndex ≤ currentIdx ∧ currentIdx ≤ a.windowEndIndex ∧
          b.windowStartIndex ≤ currentIdx ∧ currentIdx ≤ b.windowEndIndex) := by
      refine (scanSetupEvents_disjoint indicators candles).imp ?_
      rintro a b hlt ⟨-, ha, hb, -⟩
      omega
    have : Std.Symm fun a b : SetupEvent =>
        ¬(a.windowStartIndex ≤ currentIdx ∧ currentIdx ≤ a.windowEndIndex ∧
          b.windowStartIndex ≤ currentIdx ∧ currentIdx ≤ b.windowEndIndex) :=
      ⟨fun _ _ h hba => h ⟨hba.2.2.1, hba.2.2.2, hba.1, hba.2.1⟩⟩
    exact hapart.forall hmem hsetup hne ⟨hwindow.1, hwindow.2, hstart, hend⟩
  cases hargmax : (MultiTimeframeBreakoutStrategy.activeEvents
      (scanSetupEvents indicators candles) currentIdx).argmax SetupEvent.setupHourIndex with
  | none =>
      have hnone := List.argmax_eq_none.1 hargmax
      have hmem : setup ∈ MultiTimeframeBreakoutStrategy.activeEvents
          (scanSetupEvents indicators candles) currentIdx :=
        List.mem_filter.2 ⟨hsetup, by simp [hstart, hend]⟩
      rw [hnone] at hmem
      cases hmem
  | some governing => rw [hactive governing (List.argmax_mem hargmax)]

/-- In an uptrend of the weeks and without a position, the first confirming hour of a setup is bought
when it is the current one. -/
theorem buy_of_confirmed {setup : SetupEvent} {currentIdx : ℕ}
    (henough : MultiTimeframeBreakoutStrategy.minRequiredCandles ≤ candles.length)
    (hcurrent : candles.length = currentIdx + 1)
    (hweekly : weeklyFilterBullish indicators candles = true)
    (hsetup : setup ∈ scanSetupEvents indicators candles)
    (hconfirmed : setup.confirmationIndex = some currentIdx) :
    ∃ signal, MultiTimeframeBreakoutStrategy.generateSignal indicators candles .flat = .ok signal ∧
      signal.type = .buy ∧ Dict.get? signal.inputs "governing_setup_hour_index" =
        some (.integer setup.setupHourIndex) := by
  have hidx : candles.length - 1 = currentIdx := by omega
  have hfirst := firstConfirmation_of_mem hsetup hconfirmed
  have hwindow := window_of_mem hsetup
  have hafter := hfirst.afterSetup
  have hwithin := hfirst.within
  have hgoverning := @argmax_activeEvents _ _ setup currentIdx hsetup (by omega) (by omega)
  simp only [MultiTimeframeBreakoutStrategy.generateSignal]
  cases hlast : candles.getLast? with
  | none =>
      have hempty : candles = [] := List.getLast?_eq_none_iff.1 hlast
      simp [hempty] at hcurrent
  | some lastCandle =>
      simp only [if_neg (not_lt.2 henough), hweekly, hidx, hgoverning, hconfirmed, lt_self_iff_false,
        if_false, Bool.true_eq_false, reduceCtorEq]
      exact ⟨_, rfl, rfl, by simp [Dict.get?]⟩

end Entries

open MultiTimeframeBreakoutStrategy in
/-- Over the calls on all initial parts of hour-aligned candles, with any position at each call: the
windows of the setups do not overlap; each BUY is in an uptrend of the weeks, without a position, at
the first of the four hours after its setup that confirms it; and no two calls buy one setup. -/
theorem one_entry_per_setup (indicators : CausalIndicators) {candles : List Candle}
    (hordered : Ordered candles) (haligned : HourAligned candles) (side : ℕ → PositionSide) :
    ((scanSetupEvents indicators candles).Pairwise
      fun setup setup' => setup.windowEndIndex < setup'.windowStartIndex) ∧
    (∀ n ≤ candles.length, ∀ signal,
      generateSignal indicators (candles.take n) (side n) = .ok signal → signal.type = .buy →
        side n = .flat ∧ WeeklyUptrend indicators (weeklyCloses (candles.take n)) ∧
        ∃ setup ∈ scanSetupEvents indicators candles,
          Dict.get? signal.inputs "governing_setup_hour_index" =
            some (.integer setup.setupHourIndex) ∧
          FirstConfirmation candles setup (n - 1)) ∧
    (∀ n ≤ candles.length, ∀ n' ≤ candles.length, ∀ signal signal',
      generateSignal indicators (candles.take n) (side n) = .ok signal →
      signal.type = .buy →
      generateSignal indicators (candles.take n') (side n') = .ok signal' →
      signal'.type = .buy →
      Dict.get? signal.inputs "governing_setup_hour_index" =
        Dict.get? signal'.inputs "governing_setup_hour_index" → n = n') := by
  refine ⟨scanSetupEvents_disjoint indicators candles, ?_, ?_⟩
  · intro n hn signal h hbuy
    rcases boughtOn_of_buy h hbuy with ⟨governing, hbought⟩
    exact ⟨hbought.flat, hbought.weekly, entry_of_buy hordered haligned hn h hbuy⟩
  · intro n hn n' hn' signal signal' h hbuy h' hbuy' hsame
    rcases entry_of_buy hordered haligned hn h hbuy with ⟨setup, hsetup, hnamed, hfirst⟩
    rcases entry_of_buy hordered haligned hn' h' hbuy' with ⟨setup', hsetup', hnamed', hfirst'⟩
    -- both calls name the setup's hour, which tells the setup
    have hhour : setup.setupHourIndex = setup'.setupHourIndex := by
      rw [hnamed, hnamed'] at hsame
      simpa using hsame
    rcases setup_eq_of_hour hsetup hsetup' hhour with rfl
    have heq := hfirst.unique hfirst'
    have hpos := hfirst.afterSetup
    have hpos' := hfirst'.afterSetup
    omega

namespace Scenario

/-- Indicators that need no history: an average one below its value, a window of one value. -/
def plainIndicators : CausalIndicators where
  ema values _ := values.map (· - 1)
  rollingMean values _ := values.map some
  rollingMax values _ := values.map some
  emaCausal _ := .map _
  rollingMeanCausal _ := .map _
  rollingMaxCausal _ := .map _

/-- More hours than the strategy requires, with a price that rises by one each hour. -/
def manyHours : List Candle :=
  (List.range 7568).map fun i =>
    { hourCandle 0 i with
      «open» := 100 + i
      high := 101 + i
      low := 100 + i
      close := 101 + i }

theorem manyHours_ordered : Ordered manyHours := by
  refine List.pairwise_map.2 (List.pairwise_lt_range.imp ?_)
  intro i j hij
  have hhour : (0 : ℤ) < hourMs := by decide
  simpa [hourCandle, hhour] using hij

theorem manyHours_aligned : HourAligned manyHours := by
  intro c hc
  rcases List.mem_map.1 hc with ⟨i, -, rfl⟩
  simp [hourCandle]

theorem length_manyHours_take {n : ℕ} (h : n ≤ 7568) : (manyHours.take n).length = n := by
  rw [manyHours, List.length_take, List.length_map, List.length_range, min_eq_left h]

/-- The call on the first 7565 hours buys. -/
theorem manyHours_buy : ∃ signal,
    MultiTimeframeBreakoutStrategy.generateSignal plainIndicators (manyHours.take 7565) .flat =
      .ok signal ∧ signal.type = .buy ∧
    Dict.get? signal.inputs "governing_setup_hour_index" = some (.integer 7563) := by
  have hweekly : weeklyFilterBullish plainIndicators (manyHours.take 7565) = true := by
    decide +kernel
  have hsetup : (setupOf plainIndicators (manyHours.take 7565) (aggregateCompletedBuckets
      (manyHours.take 7565) fourHHours fourHBucketStartMs) 1890).map
        (fun setup => (setup.setupHourIndex, setup.confirmationIndex)) =
      some (7563, some 7564) := by
    decide +kernel
  have hlength : (manyHours.take 7565).length = 7565 := length_manyHours_take (by decide)
  generalize manyHours.take 7565 = candles at *
  rcases Option.map_eq_some_iff.1 hsetup with ⟨setup, hat, hfields⟩
  simp only [Prod.mk.injEq] at hfields
  -- the bucket of the setup is one the scan looks at
  have hmem : setup ∈ scanSetupEvents plainIndicators candles := by
    rw [scanSetupEvents_eq plainIndicators candles rfl]
    rcases setupOf_eq_some hat with ⟨bucket, hbucket, -⟩
    have hcount := (List.getElem?_eq_some_iff.1 hbucket).1
    have hmin : minFourHIdx = 219 := by decide
    exact List.mem_filterMap.2 ⟨1890, List.mem_range'_1.2 (by omega), hat⟩
  rcases buy_of_confirmed (by rw [hlength]; decide) hlength hweekly hmem hfields.2 with
    ⟨signal, hsignal, hbuy, hnamed⟩
  refine ⟨signal, hsignal, hbuy, ?_⟩
  rw [hnamed, hfields.1]
  rfl

end Scenario

open MultiTimeframeBreakoutStrategy Scenario in
/-- On these hours the call that buys does so in an uptrend of the weeks, at the first confirmation of
its setup, and no other call buys that setup. -/
theorem one_entry_per_setup_many_hours :
    ((scanSetupEvents plainIndicators manyHours).Pairwise
      fun setup setup' => setup.windowEndIndex < setup'.windowStartIndex) ∧
    ∃ signal, generateSignal plainIndicators (manyHours.take 7565) .flat = .ok signal ∧
      signal.type = .buy ∧
      WeeklyUptrend plainIndicators (weeklyCloses (manyHours.take 7565)) ∧
      (∃ setup ∈ scanSetupEvents plainIndicators manyHours, setup.setupHourIndex = 7563 ∧
        FirstConfirmation manyHours setup 7564) ∧
      ∀ n ≤ manyHours.length, ∀ signal',
        generateSignal plainIndicators (manyHours.take n) .flat = .ok signal' →
        signal'.type = .buy →
        Dict.get? signal'.inputs "governing_setup_hour_index" = some (.integer 7563) →
          n = 7565 := by
  rcases one_entry_per_setup plainIndicators manyHours_ordered manyHours_aligned
    (fun _ => .flat) with ⟨hdisjoint, hentries, hunique⟩
  rcases manyHours_buy with ⟨signal, hsignal, hbuy, hnamed⟩
  have hlength : manyHours.length = 7568 := by
    rw [manyHours, List.length_map, List.length_range]
  have hn : 7565 ≤ manyHours.length := hlength.symm ▸ (by decide)
  rcases hentries 7565 hn signal hsignal hbuy with ⟨-, hweekly, setup, hsetup, hhour, hfirst⟩
  rw [hnamed] at hhour
  refine ⟨hdisjoint, signal, hsignal, hbuy, hweekly, ⟨setup, hsetup, ?_, hfirst⟩, ?_⟩
  · have hindex : (setup.setupHourIndex : ℤ) = 7563 := by simpa using hhour.symm
    exact_mod_cast hindex
  · intro n hn' signal' hsignal' hbuy' hnamed'
    exact hunique n hn' 7565 hn signal' signal hsignal' hbuy' hsignal hbuy
      (hnamed'.trans hnamed.symm)

end TradingAgent
