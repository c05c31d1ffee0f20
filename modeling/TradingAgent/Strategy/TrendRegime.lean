import TradingAgent.Library.Stretch
import TradingAgent.Strategy.GatedBreakout

/-!
# Trend following — one entry for each observed cycle

`research/candidates/trend_regime.py`.  Every call derives the bullish cycle anew, back from the last
candle to the crossover it started with, and from there on to the candle that confirms it.

* `buys_iff`: a BUY is the first strong enough candle of a cycle whose crossover was observed;
* `one_entry_per_cycle`: over the calls on successive prefixes, with any positions, a bullish run is
  bought once at most;
* `unobserved_iff_no_crossover_iff`: of the crossovers on candles that can be evaluated, the one on the
  very first of them is not observed.
-/

namespace TradingAgent

open Stretch

structure TrendWithRegimeFilterStrategy where
  emaFastPeriod : ℕ+
  emaSlowPeriod : ℕ+
  atrPeriod : ℕ+
  minTrendStrengthAtr : ℚ
  fastLtSlow : (emaFastPeriod : ℕ) < emaSlowPeriod
  strengthNonneg : 0 ≤ minTrendStrengthAtr

/-- `abs(fast - slow) / atr if atr > 0 else 0.0`; a NaN is not above zero. -/
def trendStrength (fast slow : ℚ) (atr : Option ℚ) : ℚ :=
  match atr with
  | none => 0
  | some atr => if atr > 0 then |fast - slow| / atr else 0

namespace TrendWithRegimeFilterStrategy

/-- The constructor, with the text of its `ValueError`. -/
def create (emaFast emaSlow atrPeriod : ℤ) (minTrendStrengthAtr : ℚ) :
    Except String TrendWithRegimeFilterStrategy :=
  if hperiods : emaFast ≤ 0 ∨ emaSlow ≤ 0 ∨ atrPeriod ≤ 0 then .error "periods must be positive"
  else if horder : emaFast ≥ emaSlow then .error "ema_fast must be strictly less than ema_slow"
  else if hstrength : minTrendStrengthAtr < 0 then
    .error "min_trend_strength_atr must be non-negative"
  else .ok
    { emaFastPeriod := ⟨emaFast.toNat, by omega⟩
      emaSlowPeriod := ⟨emaSlow.toNat, by omega⟩
      atrPeriod := ⟨atrPeriod.toNat, by omega⟩
      minTrendStrengthAtr := minTrendStrengthAtr
      fastLtSlow := by
        change emaFast.toNat < emaSlow.toNat
        omega
      strengthNonneg := Rat.not_lt.1 hstrength }

/-- Every strategy is what its constructor makes of its parameters. -/
theorem create_self (s : TrendWithRegimeFilterStrategy) :
    create s.emaFastPeriod s.emaSlowPeriod s.atrPeriod s.minTrendStrengthAtr = .ok s := by
  have hfast := s.emaFastPeriod.pos
  have hslow := s.emaSlowPeriod.pos
  have hatr := s.atrPeriod.pos
  have horder := s.fastLtSlow
  rw [create, dif_neg (by omega), dif_neg (by omega), dif_neg (not_lt.2 s.strengthNonneg)]
  rfl

variable (s : TrendWithRegimeFilterStrategy) (indicators : CausalIndicators)

def minRequiredCandles : ℕ :=
  max (s.emaSlowPeriod : ℕ) s.atrPeriod + 1

/-! ## What a call reads -/

/-- `fast_values[k]`, for an index of the candles. -/
def fast (candles : List Candle) (k : ℕ) : ℚ :=
  (indicators.ema (candles.map Candle.close) s.emaFastPeriod)[k]?.getD 0

/-- `slow_values[k]`. -/
def slow (candles : List Candle) (k : ℕ) : ℚ :=
  (indicators.ema (candles.map Candle.close) s.emaSlowPeriod)[k]?.getD 0

/-- `atr_values[k]`, which may be NaN. -/
def atrAt (candles : List Candle) (k : ℕ) : Option ℚ :=
  (indicators.atr candles s.atrPeriod)[k]?.getD none

def strength (candles : List Candle) (k : ℕ) : ℚ :=
  trendStrength (s.fast indicators candles k) (s.slow indicators candles k)
    (s.atrAt indicators candles k)

/-- The backward scan `range(current_idx, earliest_idx, -1)`. -/
def crossoverIdx (candles : List Candle) (currentIdx earliestIdx : ℕ) : Option ℕ :=
  (List.range' (earliestIdx + 1) (currentIdx - earliestIdx)).reverse.find? fun k =>
    s.fast indicators candles (k - 1) ≤ s.slow indicators candles (k - 1)

/-- The forward scan `range(crossover_idx, current_idx + 1)`. -/
def confirmationIdx (candles : List Candle) (crossoverIdx currentIdx : ℕ) : Option ℕ :=
  (List.range' crossoverIdx (currentIdx + 1 - crossoverIdx)).find? fun j =>
    s.strength indicators candles j ≥ s.minTrendStrengthAtr

def generateSignal : Strategy := fun candles currentPosition =>
  if candles.length < s.minRequiredCandles then
    .error (.insufficientData s.minRequiredCandles candles.length)
  else
    match candles.getLast? with
    | none => .error .indexOutOfRange
    | some lastCandle =>
        let currentIdx := candles.length - 1
        let earliestIdx := s.minRequiredCandles - 1
        let fastCurr := s.fast indicators candles currentIdx
        let slowCurr := s.slow indicators candles currentIdx
        let inputs : Payload :=
          [("symbol", .text lastCandle.symbol), ("close", .number lastCandle.close),
            ("ema_fast_curr", .number fastCurr), ("ema_slow_curr", .number slowCurr),
            ("atr_curr", floatValue (s.atrAt indicators candles currentIdx)),
            ("trend_strength_atr", .number (s.strength indicators candles currentIdx)),
            ("min_trend_strength_atr", .number s.minTrendStrengthAtr),
            ("in_bullish_state", .flag (fastCurr > slowCurr)),
            ("current_position", .text currentPosition.value)]
        let signal := fun type reasonCode inputs =>
          Signal.mk type reasonCode lastCandle.closeTimeMs inputs
        if ¬fastCurr > slowCurr then
          let fastPrev := s.fast indicators candles (currentIdx - 1)
          let slowPrev := s.slow indicators candles (currentIdx - 1)
          if fastPrev ≥ slowPrev ∧ fastCurr < slowCurr then
            if currentPosition = .flat then .ok (signal .hold "HOLD_ALREADY_FLAT" inputs)
            else .ok (signal .exit "BEARISH_EMA_CROSSOVER_CYCLE_RESET" inputs)
          else .ok (signal .hold "HOLD_NOT_IN_BULLISH_STATE" inputs)
        else
          match s.crossoverIdx indicators candles currentIdx earliestIdx with
          | none => .ok (signal .hold "HOLD_UNOBSERVED_CYCLE" inputs)
          | some crossover =>
              let inputs := inputs ++ [("cycle_crossover_time_ms",
                .integer ((candles[crossover]?.map Candle.closeTimeMs).getD 0))]
              match s.confirmationIdx indicators candles crossover currentIdx with
              | none => .ok (signal .hold "ARMED_AWAITING_TREND_CONFIRMATION" inputs)
              | some confirmation =>
                  if currentPosition = .long then .ok (signal .hold "HOLD_ALREADY_LONG" inputs)
                  else if confirmation = currentIdx then
                    .ok (signal .buy "BULLISH_TREND_CONFIRMED_ENTRY" inputs)
                  else .ok (signal .hold
                    "HOLD_CYCLE_ALREADY_ENTERED_NO_REENTRY_WITHOUT_FRESH_CYCLE" inputs)

/-! ## One call -/

/-- The fast average is above the slow one. -/
def Bullish (candles : List Candle) (k : ℕ) : Prop :=
  s.fast indicators candles k > s.slow indicators candles k

instance (candles : List Candle) : DecidablePred (s.Bullish indicators candles) :=
  fun _ => inferInstanceAs (Decidable (_ < _))

section Call

variable {s indicators} {candles : List Candle} {side : PositionSide}

/-- Going back from a bullish candle finds where its run has started, if that is above the earliest
index. -/
theorem crossoverIdx_eq (candles : List Candle) (currentIdx earliestIdx : ℕ) :
    s.crossoverIdx indicators candles currentIdx earliestIdx =
      scanBack (s.Bullish indicators candles) (earliestIdx + 1) currentIdx := by
  unfold crossoverIdx scanBack
  rw [Nat.add_sub_add_right]
  congr 1
  funext k
  exact decide_eq_decide.2 not_lt.symm

/-- The first strong enough candle from the crossover on. -/
theorem confirmationIdx_eq_some_iff {crossover current j : ℕ} :
    s.confirmationIdx indicators candles crossover current = some j ↔
      s.minTrendStrengthAtr ≤ s.strength indicators candles j ∧
        (crossover ≤ j ∧ j ≤ current) ∧
        ∀ k, crossover ≤ k → k < j → s.strength indicators candles k < s.minTrendStrengthAtr := by
  unfold confirmationIdx
  rw [List.find?_range'_eq_some]
  simp only [List.mem_range'_1, decide_eq_true_eq, Bool.not_eq_true', decide_eq_false_iff_not,
    ge_iff_le, not_le]
  constructor
  · rintro ⟨hstrong, hin, hweak⟩
    exact ⟨hstrong, by omega, hweak⟩
  · rintro ⟨hstrong, hin, hweak⟩
    exact ⟨hstrong, by omega, hweak⟩

theorem minRequired_pos : 0 < s.minRequiredCandles :=
  Nat.succ_pos _

theorem exists_getLast? (h : 0 < candles.length) : ∃ last, candles.getLast? = some last :=
  ⟨_, List.getLast?_eq_some_getLast (List.length_pos_iff.1 h)⟩

/-- Without a bullish state a call neither buys nor looks for a crossover. -/
theorem answer_of_not_bullish (side : PositionSide)
    (henough : s.minRequiredCandles ≤ candles.length)
    (hbullish : ¬s.Bullish indicators candles (candles.length - 1)) :
    ∃ signal, s.generateSignal indicators candles side = .ok signal ∧
      signal.type ≠ .buy ∧ signal.reasonCode ≠ "HOLD_UNOBSERVED_CYCLE" := by
  rcases exists_getLast? (minRequired_pos.trans_le henough) with ⟨last, hlast⟩
  have hstate : ¬s.fast indicators candles (candles.length - 1) >
      s.slow indicators candles (candles.length - 1) := hbullish
  simp only [generateSignal, if_neg (not_lt.2 henough), hlast, if_pos hstate]
  -- the branches of a bearish crossover, and the state that just goes on
  split
  · split <;> exact ⟨_, rfl, by simp, by simp⟩
  · exact ⟨_, rfl, by simp, by simp⟩

/-- In a run that started too early to be observed a call holds. -/
theorem answer_of_unobserved (side : PositionSide)
    (henough : s.minRequiredCandles ≤ candles.length)
    (hbullish : s.Bullish indicators candles (candles.length - 1))
    (hscan : s.crossoverIdx indicators candles (candles.length - 1) (s.minRequiredCandles - 1) =
      none) :
    ∃ signal, s.generateSignal indicators candles side = .ok signal ∧
      signal.type ≠ .buy ∧ signal.reasonCode = "HOLD_UNOBSERVED_CYCLE" := by
  rcases exists_getLast? (minRequired_pos.trans_le henough) with ⟨last, hlast⟩
  have hstate : ¬¬s.fast indicators candles (candles.length - 1) >
      s.slow indicators candles (candles.length - 1) := not_not.2 hbullish
  simp only [generateSignal, if_neg (not_lt.2 henough), hlast, if_neg hstate, hscan]
  exact ⟨_, rfl, by simp, rfl⟩

/-- In an observed run a call buys where it is flat and the last candle is the one that confirms. -/
theorem answer_of_observed (side : PositionSide)
    (henough : s.minRequiredCandles ≤ candles.length)
    (hbullish : s.Bullish indicators candles (candles.length - 1)) {crossover : ℕ}
    (hscan : s.crossoverIdx indicators candles (candles.length - 1) (s.minRequiredCandles - 1) =
      some crossover) :
    ∃ signal, s.generateSignal indicators candles side = .ok signal ∧
      (signal.type = .buy ↔ side = .flat ∧
        s.confirmationIdx indicators candles crossover (candles.length - 1) =
          some (candles.length - 1)) ∧
      signal.reasonCode ≠ "HOLD_UNOBSERVED_CYCLE" := by
  rcases exists_getLast? (minRequired_pos.trans_le henough) with ⟨last, hlast⟩
  have hstate : ¬¬s.fast indicators candles (candles.length - 1) >
      s.slow indicators candles (candles.length - 1) := not_not.2 hbullish
  simp only [generateSignal, if_neg (not_lt.2 henough), hlast, if_neg hstate, hscan]
  cases s.confirmationIdx indicators candles crossover (candles.length - 1) with
  | none => exact ⟨_, rfl, by simp, by simp⟩
  | some confirmation =>
      cases side with
      | long => exact ⟨_, rfl, by simp, by simp⟩
      | flat =>
          by_cases hnow : confirmation = candles.length - 1
          · simp only [reduceCtorEq, if_false, if_pos hnow]
            exact ⟨_, rfl, by simp [hnow], by simp⟩
          · simp only [reduceCtorEq, if_false, if_neg hnow]
            exact ⟨_, rfl, by simp [hnow], by simp⟩

/-- A cycle that was observed from its crossover on, and whose first strong enough candle is the
last one. -/
structure ConfirmsNow (s : TrendWithRegimeFilterStrategy) (indicators : CausalIndicators)
    (candles : List Candle) (n start : ℕ) : Prop where
  observed : s.minRequiredCandles ≤ start
  run : Spans (s.Bullish indicators candles) start n
  strong : s.minTrendStrengthAtr ≤ s.strength indicators candles n
  weak : ∀ k, start ≤ k → k < n → s.strength indicators candles k < s.minTrendStrengthAtr

/-- What the scan back from a bullish candle finds. -/
theorem crossoverIdx_eq_some_iff {n crossover : ℕ} (hbullish : s.Bullish indicators candles n) :
    s.crossoverIdx indicators candles n (s.minRequiredCandles - 1) = some crossover ↔
      s.minRequiredCandles ≤ crossover ∧ Spans (s.Bullish indicators candles) crossover n := by
  rw [crossoverIdx_eq, Nat.sub_add_cancel minRequired_pos]
  exact scanBack_eq_some_iff hbullish minRequired_pos

/-- A call buys where it is flat and the last candle confirms an observed cycle. -/
theorem buys_iff : Buys (s.generateSignal indicators) candles side ↔
    s.minRequiredCandles ≤ candles.length ∧ side = .flat ∧
      ∃ start, ConfirmsNow s indicators candles (candles.length - 1) start := by
  by_cases henough : s.minRequiredCandles ≤ candles.length
  case neg =>
    simp [Buys, generateSignal, not_le.1 henough, henough]
  by_cases hbullish : s.Bullish indicators candles (candles.length - 1)
  case neg =>
    -- a cycle that is confirmed now is bullish now
    rcases answer_of_not_bullish side henough hbullish with ⟨signal, hanswer, hhold, -⟩
    constructor
    · rintro ⟨signal', hsignal, hbuy⟩
      cases hanswer.symm.trans hsignal
      exact absurd hbuy hhold
    · rintro ⟨-, -, start, hconfirms⟩
      exact absurd hconfirms.run.last hbullish
  cases hscan : s.crossoverIdx indicators candles (candles.length - 1)
      (s.minRequiredCandles - 1) with
  | none =>
      -- an observed cycle would have been found
      rcases answer_of_unobserved side henough hbullish hscan with
        ⟨signal, hanswer, hhold, -⟩
      constructor
      · rintro ⟨signal', hsignal, hbuy⟩
        cases hanswer.symm.trans hsignal
        exact absurd hbuy hhold
      · rintro ⟨-, -, start, hconfirms⟩
        have hfound := (crossoverIdx_eq_some_iff hbullish).2 ⟨hconfirms.observed, hconfirms.run⟩
        cases hscan.symm.trans hfound
  | some crossover =>
      rcases answer_of_observed side henough hbullish hscan with
        ⟨signal, hanswer, hbuy, -⟩
      rcases (crossoverIdx_eq_some_iff hbullish).1 hscan with ⟨hobserved, hrun⟩
      rw [confirmationIdx_eq_some_iff] at hbuy
      constructor
      · rintro ⟨signal', hsignal, hsame⟩
        cases hanswer.symm.trans hsignal
        rcases hbuy.1 hsame with ⟨hflat, hstrong, -, hweak⟩
        exact ⟨henough, hflat, crossover, hobserved, hrun, hstrong, hweak⟩
      · -- the cycle found is the one confirmed, as a run has one start
        rintro ⟨-, hflat, start, hconfirms⟩
        refine ⟨signal, hanswer, hbuy.2 ⟨hflat, hconfirms.strong, ⟨hrun.le, le_rfl⟩, ?_⟩⟩
        rw [hrun.unique hconfirms.run]
        exact hconfirms.weak

end Call

/-! ## Successive calls -/

section Calls

variable {s indicators} {candles : List Candle} {n k : ℕ}

theorem fast_upTo (hk : k ≤ n) :
    s.fast indicators (candles.take (n + 1)) k = s.fast indicators candles k :=
  congrArg (fun x => Option.getD x 0) (ema_upTo indicators s.emaFastPeriod hk)

theorem slow_upTo (hk : k ≤ n) :
    s.slow indicators (candles.take (n + 1)) k = s.slow indicators candles k :=
  congrArg (fun x => Option.getD x 0) (ema_upTo indicators s.emaSlowPeriod hk)

theorem atrAt_upTo (hk : k ≤ n) :
    s.atrAt indicators (candles.take (n + 1)) k = s.atrAt indicators candles k := by
  have htake := (indicators.atrCausal s.atrPeriod).take candles (n + 1)
  rw [atrAt, atrAt, htake, List.getElem?_take_of_lt (Nat.lt_succ_of_le hk)]

theorem strength_upTo (hk : k ≤ n) :
    s.strength indicators (candles.take (n + 1)) k = s.strength indicators candles k := by
  rw [strength, strength, fast_upTo hk, slow_upTo hk, atrAt_upTo hk]

theorem bullish_upTo (hk : k ≤ n) :
    s.Bullish indicators (candles.take (n + 1)) k ↔ s.Bullish indicators candles k := by
  rw [Bullish, Bullish, fast_upTo hk, slow_upTo hk]

/-- Whether a candle confirms is the same in every call that reaches it. -/
theorem confirmsNow_upTo {start : ℕ} :
    ConfirmsNow s indicators (candles.take (n + 1)) n start ↔
      ConfirmsNow s indicators candles n start := by
  have hrun : Spans (s.Bullish indicators (candles.take (n + 1))) start n ↔
      Spans (s.Bullish indicators candles) start n := Spans.congr fun k hk => bullish_upTo hk
  constructor
  · intro h
    constructor
    case observed => exact h.observed
    case run => exact hrun.1 h.run
    case strong => exact strength_upTo le_rfl ▸ h.strong
    case weak =>
      intro k hk hkn
      rw [← strength_upTo hkn.le]
      exact h.weak k hk hkn
  · intro h
    constructor
    case observed => exact h.observed
    case run => exact hrun.2 h.run
    case strong => exact (strength_upTo le_rfl).symm ▸ h.strong
    case weak =>
      intro k hk hkn
      rw [strength_upTo hkn.le]
      exact h.weak k hk hkn

end Calls

/-- The call on the candles up to an index, in the position held there, buys. -/
def BuysAt (candles : List Candle) (sides : ℕ → PositionSide) (n : ℕ) : Prop :=
  n < candles.length ∧ Buys (s.generateSignal indicators) (candles.take (n + 1)) (sides n)

theorem buysAt_iff (candles : List Candle) (sides : ℕ → PositionSide) (n : ℕ) :
    s.BuysAt indicators candles sides n ↔
      n < candles.length ∧ sides n = .flat ∧ ∃ start, ConfirmsNow s indicators candles n start := by
  apply and_congr_right
  intro hn
  rw [buys_iff, List.length_take_of_le hn, Nat.succ_sub_one]
  simp only [confirmsNow_upTo]
  constructor
  · exact fun h => h.2
  · rintro ⟨hflat, start, hconfirms⟩
    have hobserved := hconfirms.observed
    have hle := hconfirms.run.le
    exact ⟨by omega, hflat, start, hconfirms⟩

/-- **One entry for each observed cycle.**  Whatever the positions are, of a run of bullish candles one
is bought at most; it is the first one strong enough; a run that began before it could be observed is
not bought; and nothing else is. -/
theorem one_entry_per_cycle (candles : List Candle) (sides : ℕ → PositionSide) (start : ℕ) :
    (∀ n n', Spans (s.Bullish indicators candles) start n →
      Spans (s.Bullish indicators candles) start n' → s.BuysAt indicators candles sides n →
      s.BuysAt indicators candles sides n' → n = n') ∧
    (∀ n, Spans (s.Bullish indicators candles) start n → s.BuysAt indicators candles sides n →
      s.minTrendStrengthAtr ≤ s.strength indicators candles n ∧
      ∀ k, start ≤ k → k < n → s.strength indicators candles k < s.minTrendStrengthAtr) ∧
    (start < s.minRequiredCandles → ∀ n, Spans (s.Bullish indicators candles) start n →
      ¬s.BuysAt indicators candles sides n) ∧
    ∀ n, s.BuysAt indicators candles sides n → s.Bullish indicators candles n := by
  -- the run a BUY belongs to is the one whose candle it confirms
  have hconfirms : ∀ n, Spans (s.Bullish indicators candles) start n →
      s.BuysAt indicators candles sides n → ConfirmsNow s indicators candles n start := by
    intro n hrun hbuys
    rcases ((buysAt_iff s indicators candles sides n).1 hbuys).2.2 with ⟨start', hconfirms⟩
    rwa [hrun.unique hconfirms.run]
  refine ⟨fun n n' hrun hrun' hbuys hbuys' => ?_, fun n hrun hbuys => ?_, fun hearly n hrun hbuys => ?_,
    fun n hbuys => ?_⟩
  · -- the earlier of two would have left the later one no weak candle to wait for
    have hfirst := hconfirms n hrun hbuys
    have hfirst' := hconfirms n' hrun' hbuys'
    rcases lt_trichotomy n n' with hlt | heq | hgt
    · exact absurd hfirst.strong (not_le.2 (hfirst'.weak n hrun.le hlt))
    · exact heq
    · exact absurd hfirst'.strong (not_le.2 (hfirst.weak n' hrun'.le hgt))
  · exact ⟨(hconfirms n hrun hbuys).strong, (hconfirms n hrun hbuys).weak⟩
  · exact absurd (hconfirms n hrun hbuys).observed (not_le.2 hearly)
  · rcases ((buysAt_iff s indicators candles sides n).1 hbuys).2.2 with ⟨start', hconfirms⟩
    exact hconfirms.run.last

/-! ## The crossovers that are observed -/

/-- The call holds because it has seen no crossover. -/
def HoldsUnobserved (candles : List Candle) (side : PositionSide) : Prop :=
  ∃ signal, s.generateSignal indicators candles side = .ok signal ∧
    signal.reasonCode = "HOLD_UNOBSERVED_CYCLE"

/-- A crossover on a candle that can be evaluated. -/
def CrossesAt (candles : List Candle) (k : ℕ) : Prop :=
  s.fast indicators candles (k - 1) ≤ s.slow indicators candles (k - 1) ∧
    s.fast indicators candles k > s.slow indicators candles k

section Observed

variable {s indicators} {candles : List Candle} {side : PositionSide} {start low n : ℕ}

/-- In a bullish state a call sees no crossover exactly where the run started too early. -/
theorem holdsUnobserved_iff (henough : s.minRequiredCandles ≤ candles.length)
    (hrun : Spans (s.Bullish indicators candles) start (candles.length - 1)) :
    s.HoldsUnobserved indicators candles side ↔ start < s.minRequiredCandles := by
  cases hscan : s.crossoverIdx indicators candles (candles.length - 1)
      (s.minRequiredCandles - 1) with
  | none =>
      have hearly : start < s.minRequiredCandles := by
        by_contra hge
        have hfound := (crossoverIdx_eq_some_iff hrun.last).2 ⟨not_lt.1 hge, hrun⟩
        cases hscan.symm.trans hfound
      rcases answer_of_unobserved side henough hrun.last hscan with
        ⟨signal, hanswer, -, hreason⟩
      exact ⟨fun _ => hearly, fun _ => ⟨signal, hanswer, hreason⟩⟩
  | some crossover =>
      rcases (crossoverIdx_eq_some_iff hrun.last).1 hscan with ⟨hobserved, hrun'⟩
      rcases answer_of_observed side henough hrun.last hscan with
        ⟨signal, hanswer, -, hother⟩
      constructor
      · rintro ⟨signal', hsignal, hreason⟩
        cases hanswer.symm.trans hsignal
        exact absurd hreason hother
      · intro hearly
        rw [hrun.unique hrun'] at hearly
        exact absurd hobserved (not_le.2 hearly)

/-- From an index on there is a crossover where the run started there or later. -/
theorem exists_crossesAt_iff (hlow : 0 < low) (hrun : Spans (s.Bullish indicators candles) start n) :
    (∃ k, low ≤ k ∧ k ≤ n ∧ s.CrossesAt indicators candles k) ↔ low ≤ start := by
  constructor
  · rintro ⟨k, hk, hkn, hbefore, -⟩
    by_contra hlt
    -- the candle before is in the run as well
    have hbullish := hrun.holds (k - 1) (by omega) (by omega)
    exact absurd hbullish (not_lt.2 hbefore)
  · intro hle
    have hfirst := hrun.first (start - 1) (by omega)
    exact ⟨start, hle, hrun.le, not_lt.1 hfirst, hrun.holds start le_rfl hrun.le⟩

theorem two_lt_minRequired : 2 < s.minRequiredCandles := by
  have hfast := s.emaFastPeriod.pos
  have horder := s.fastLtSlow
  have hmax := le_max_left (s.emaSlowPeriod : ℕ) s.atrPeriod
  unfold minRequiredCandles
  omega

end Observed

/-- In a bullish state at the end of enough candles, a call reports an unobserved cycle exactly where
no crossover lies on the candles that can be evaluated, unless the run started on the very first of
them. -/
theorem unobserved_iff_no_crossover_iff (candles : List Candle) (side : PositionSide)
    (henough : s.minRequiredCandles ≤ candles.length)
    (hbullish : s.Bullish indicators candles (candles.length - 1)) :
    (s.HoldsUnobserved indicators candles side ↔
      ¬∃ k, s.minRequiredCandles - 1 ≤ k ∧ k ≤ candles.length - 1 ∧
        s.CrossesAt indicators candles k) ↔
      ¬Spans (s.Bullish indicators candles) (s.minRequiredCandles - 1) (candles.length - 1) := by
  rcases exists_spans hbullish with ⟨start, hrun⟩
  have hmin : 2 < s.minRequiredCandles := two_lt_minRequired
  have hspans : Spans (s.Bullish indicators candles) (s.minRequiredCandles - 1)
      (candles.length - 1) ↔ start = s.minRequiredCandles - 1 := by
    constructor
    · exact fun h => hrun.unique h
    · rintro rfl
      exact hrun
  rw [holdsUnobserved_iff henough hrun, exists_crossesAt_iff (by omega) hrun, hspans]
  omega

end TrendWithRegimeFilterStrategy

namespace Scenario

def pricedDay (index : ℕ) (price : ℚ) : Candle where
  symbol := "BTCUSDT"
  interval := "1d"
  openTimeMs := index * 86400000
  closeTimeMs := index * 86400000 + 86399999
  «open» := price
  high := price
  low := price
  close := price
  volume := 1

def dayCandles (prices : List ℚ) : List Candle :=
  prices.mapIdx pricedDay

/-- A fast average of three candles, a slow one of six. -/
def trend : TrendWithRegimeFilterStrategy where
  emaFastPeriod := 3
  emaSlowPeriod := 6
  atrPeriod := 3
  minTrendStrengthAtr := 0
  fastLtSlow := by decide
  strengthNonneg := le_rfl

/-- Six falling prices, and a rise on the first candle that can be evaluated. -/
def crossesFirst : List Candle :=
  dayCandles [100, 99, 98, 97, 96, 95, 120]

/-- The same rise one candle later. -/
def crossesSecond : List Candle :=
  dayCandles [100, 99, 98, 97, 96, 95, 94, 120]

end Scenario

open Scenario TrendWithRegimeFilterStrategy in
/-- The rise on the second candle is observed. -/
theorem unobserved_iff_no_crossover_iff_second :
    trend.HoldsUnobserved documentedIndicators crossesSecond .flat ↔
      ¬∃ k, trend.minRequiredCandles - 1 ≤ k ∧ k ≤ crossesSecond.length - 1 ∧
        trend.CrossesAt documentedIndicators crossesSecond k := by
  have hbullish : trend.Bullish documentedIndicators crossesSecond 7 := by decide +kernel
  have hbefore : ¬trend.Bullish documentedIndicators crossesSecond 6 := by decide +kernel
  apply (unobserved_iff_no_crossover_iff trend documentedIndicators crossesSecond .flat (by decide)
    hbullish).2
  intro hrun
  exact hbefore (hrun.holds 6 le_rfl (by decide))

open Scenario TrendWithRegimeFilterStrategy in
/-- The rise on the first candle that can be evaluated is a crossover that is not observed. -/
theorem first_crossover_is_unobserved :
    trend.minRequiredCandles = 7 ∧ crossesFirst.length = 7 ∧
      trend.Bullish documentedIndicators crossesFirst 6 ∧
      trend.CrossesAt documentedIndicators crossesFirst 6 ∧
      trend.HoldsUnobserved documentedIndicators crossesFirst .flat := by
  have hbullish : trend.Bullish documentedIndicators crossesFirst 6 := by decide +kernel
  have hbefore : ¬trend.Bullish documentedIndicators crossesFirst 5 := by decide +kernel
  have hrun : Stretch.Spans (trend.Bullish documentedIndicators crossesFirst) 6 6 := by
    refine ⟨le_rfl, fun k hk hk' => ?_, fun k hk => ?_⟩
    · rwa [le_antisymm hk' hk]
    · cases hk
      exact hbefore
  refine ⟨by decide, by decide, hbullish, ⟨not_lt.1 hbefore, hbullish⟩, ?_⟩
  exact (holdsUnobserved_iff (by decide) hrun).2 (by decide)

end TradingAgent
