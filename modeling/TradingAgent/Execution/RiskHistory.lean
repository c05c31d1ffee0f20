import TradingAgent.Execution.AgentRuns

/-!
# Risk history — what the stored risk state is to keep track of

A log of the applications the execution store has committed and of the times the risk state was
saved, and the figures of a risk state as functions of that log.

* `RiskTracks` says that the figures of the stored risk state are those of the log;
* `Consistent` is what every save restores;
* `Consistent.roll` is a cycle that applies nothing, `Consistent.fill` one that applies the outcome
  of its own order.
-/

namespace TradingAgent

/-! ## The log -/

/-- A committed application: its UTC day, the order, whether it executed something new or resolved
the order, and the realized delta of a SELL fill. -/
structure FillEvent where
  day : ℤ
  clientOrderId : String
  counts : Bool
  pnl : Option ℚ
  deriving DecidableEq, Repr

/-- There is something in the application for the risk state to track. -/
def FillEvent.matters (e : FillEvent) : Bool := e.counts || e.pnl.isSome

def FillEvent.loses (e : FillEvent) : Bool := decide (e.pnl.getD 0 < 0)

inductive HistoryEvent where
  | applied (e : FillEvent)
  | saved
  deriving DecidableEq, Repr

/-- The applications of a log. -/
def fillsOf (log : List HistoryEvent) : List FillEvent :=
  log.filterMap fun
    | .applied e => some e
    | .saved => none

/-- The orders that executed or were resolved on a day. -/
def ordersOn (log : List HistoryEvent) (day : ℤ) : Finset String :=
  (((fillsOf log).filter fun e => e.counts ∧ e.day = day).map FillEvent.clientOrderId).toFinset

/-- The realized deltas of a day. -/
def realizedOn (log : List HistoryEvent) (day : ℤ) : ℚ :=
  (((fillsOf log).filter fun e => e.day = day).map fun e => e.pnl.getD 0).sum

/-- As a fraction of the day's starting equity; there is none of an equity that is not positive. -/
def fractionOf (dailyStartEquity amount : ℚ) : ℚ :=
  if 0 < dailyStartEquity then amount / dailyStartEquity else 0

/-- The cooldown so far, and whether a losing fill has not been saved yet. -/
def cooldownStep (barsAfterLoss : ℕ) : ℕ × Bool → HistoryEvent → ℕ × Bool
  | (bars, lost), .applied e => (bars, lost || e.loses)
  | (bars, lost), .saved => (if lost then barsAfterLoss else bars - 1, false)

def cooldownAfter (barsAfterLoss : ℕ) (log : List HistoryEvent) : ℕ × Bool :=
  log.foldl (cooldownStep barsAfterLoss) (0, false)

/-- The figures of a risk state are those of the log: the trades and the realized loss of its day,
and the bars left of the cooldown that the last losing fill started. -/
structure FiguresTrack (barsAfterLoss : ℕ) (log : List HistoryEvent) (state : RiskState) : Prop where
  trades : state.tradesToday = (ordersOn log state.dayKey).card
  realized : state.dailyRealizedPnlPct =
    fractionOf state.dailyStartEquity (realizedOn log state.dayKey)
  cooldown : state.cooldownBarsRemaining = (cooldownAfter barsAfterLoss log).1

/-- Where no risk state is stored yet, there is nothing to track. -/
def RiskTracks (barsAfterLoss : ℕ) (log : List HistoryEvent) : Option RiskState → Prop
  | some state => FiguresTrack barsAfterLoss log state
  | none => ∀ e ∈ fillsOf log, e.matters = false

/-! ## The figures of a longer log -/

section Append

variable {log : List HistoryEvent} {e : FillEvent} {day : ℤ} {barsAfterLoss : ℕ}

theorem fillsOf_applied : fillsOf (log ++ [.applied e]) = fillsOf log ++ [e] := by
  simp [fillsOf]

@[simp] theorem fillsOf_saved : fillsOf (log ++ [.saved]) = fillsOf log := by
  simp [fillsOf]

@[simp] theorem ordersOn_saved : ordersOn (log ++ [.saved]) day = ordersOn log day := by
  simp [ordersOn]

@[simp] theorem realizedOn_saved : realizedOn (log ++ [.saved]) day = realizedOn log day := by
  simp [realizedOn]

theorem ordersOn_applied :
    ordersOn (log ++ [.applied e]) day =
      if e.counts = true ∧ e.day = day then insert e.clientOrderId (ordersOn log day)
      else ordersOn log day := by
  by_cases h : e.counts = true ∧ e.day = day
  · ext id
    simp [ordersOn, fillsOf_applied, List.filter_append, h]
  · simp [ordersOn, fillsOf_applied, List.filter_append, h]

theorem realizedOn_applied :
    realizedOn (log ++ [.applied e]) day =
      realizedOn log day + if e.day = day then e.pnl.getD 0 else 0 := by
  by_cases h : e.day = day
  · simp [realizedOn, fillsOf_applied, List.filter_append, h]
  · simp [realizedOn, fillsOf_applied, List.filter_append, h]

theorem cooldownAfter_applied :
    cooldownAfter barsAfterLoss (log ++ [.applied e]) =
      ((cooldownAfter barsAfterLoss log).1, (cooldownAfter barsAfterLoss log).2 || e.loses) := by
  simp [cooldownAfter, cooldownStep]

theorem cooldownAfter_saved :
    cooldownAfter barsAfterLoss (log ++ [.saved]) =
      (if (cooldownAfter barsAfterLoss log).2 then barsAfterLoss
        else (cooldownAfter barsAfterLoss log).1 - 1, false) := by
  rw [cooldownAfter, List.foldl_append]
  rfl

theorem mem_ordersOn {id : String} :
    id ∈ ordersOn log day ↔
      ∃ e ∈ fillsOf log, e.counts = true ∧ e.day = day ∧ e.clientOrderId = id := by
  simp [ordersOn, and_assoc]

theorem fractionOf_add (equity a b : ℚ) :
    fractionOf equity (a + b) = fractionOf equity a + fractionOf equity b := by
  simp only [fractionOf]
  split
  · exact add_div a b equity
  · simp

@[simp] theorem fractionOf_zero (equity : ℚ) : fractionOf equity 0 = 0 := by
  simp [fractionOf]

end Append

/-! ## What every save restores -/

/-- The stored risk state tracks the log, is dated no earlier than what it tracks, and no losing
fill waits for a save. -/
structure Consistent (barsAfterLoss : ℕ) (log : List HistoryEvent) (stored : Option RiskState) :
    Prop where
  tracks : ∀ state, stored = some state → FiguresTrack barsAfterLoss log state
  dated : ∀ e ∈ fillsOf log, e.matters = true → ∃ state, stored = some state ∧ e.day ≤ state.dayKey
  fresh : stored = none → (cooldownAfter barsAfterLoss log).1 = 0
  settled : (cooldownAfter barsAfterLoss log).2 = false

namespace Consistent

variable {barsAfterLoss : ℕ} {log : List HistoryEvent} {stored : Option RiskState}

theorem riskTracks (h : Consistent barsAfterLoss log stored) : RiskTracks barsAfterLoss log stored := by
  cases stored with
  | some state => exact h.tracks state rfl
  | none =>
      intro e he
      by_contra hmatters
      rcases h.dated e he (by simpa using hmatters) with ⟨state, hstate, -⟩
      cases hstate

theorem empty : Consistent barsAfterLoss [] none :=
  ⟨fun _ h => (by cases h), fun _ h => (by cases h), fun _ => rfl, rfl⟩

/-- The error counter is not one of the figures. -/
theorem errors {state : RiskState} (h : Consistent barsAfterLoss log (some state)) (n : ℕ) :
    Consistent barsAfterLoss log (some { state with consecutiveApiErrors := n }) := by
  refine ⟨?_, ?_, fun hnone => (by cases hnone), h.settled⟩
  · intro state' hstate'
    cases hstate'
    rcases h.tracks state rfl with ⟨htrades, hrealized, hcooldown⟩
    exact ⟨htrades, hrealized, hcooldown⟩
  · intro e he hmatters
    rcases h.dated e he hmatters with ⟨t, ht, hle⟩
    cases ht
    exact ⟨_, rfl, hle⟩

/-- A day later than every one tracked has nothing to track yet. -/
theorem ordersOn_of_later (h : Consistent barsAfterLoss log stored) {day : ℤ}
    (hlater : ∀ state, stored = some state → state.dayKey < day) : ordersOn log day = ∅ := by
  refine Finset.eq_empty_of_forall_notMem ?_
  intro id hid
  rcases mem_ordersOn.1 hid with ⟨e, he, hcounts, hday, -⟩
  rcases h.dated e he (by simp [FillEvent.matters, hcounts]) with ⟨state, hstate, hle⟩
  have hlt := hlater state hstate
  omega

theorem realizedOn_of_later (h : Consistent barsAfterLoss log stored) {day : ℤ}
    (hlater : ∀ state, stored = some state → state.dayKey < day) : realizedOn log day = 0 := by
  refine List.sum_eq_zero ?_
  intro x hx
  rcases List.mem_map.1 hx with ⟨e, he, rfl⟩
  rcases List.mem_filter.1 he with ⟨he, hday⟩
  cases hpnl : e.pnl with
  | none => rfl
  | some delta =>
      rcases h.dated e he (by simp [FillEvent.matters, hpnl]) with ⟨state, hstate, hle⟩
      have hlt := hlater state hstate
      have heq : e.day = day := by simpa using hday
      omega

/-- A state rolled to a day keeps what was tracked of it, or begins it with nothing tracked. -/
theorem roll_figures (h : Consistent barsAfterLoss log stored) {day : ℤ}
    (hday : ∀ state, stored = some state → state.dayKey ≤ day) (equityNow : ℚ) :
    (rollRiskState stored equityNow day).tradesToday = (ordersOn log day).card ∧
      (rollRiskState stored equityNow day).dailyRealizedPnlPct =
        fractionOf (rollRiskState stored equityNow day).dailyStartEquity (realizedOn log day) := by
  by_cases hsame : ∃ state, stored = some state ∧ state.dayKey = day
  · rcases hsame with ⟨state, rfl, rfl⟩
    rw [rollRiskState_of_day rfl]
    exact ⟨(h.tracks state rfl).trades, (h.tracks state rfl).realized⟩
  · have hlater : ∀ state, stored = some state → state.dayKey < day := by
      intro state hstate
      exact lt_of_le_of_ne (hday state hstate) fun heq => hsame ⟨state, hstate, heq⟩
    rw [h.ordersOn_of_later hlater, h.realizedOn_of_later hlater, fractionOf_zero]
    cases stored with
    | none => exact ⟨rfl, rfl⟩
    | some state =>
        have hne := (hlater state rfl).ne
        simp [rollRiskState, hne]

/-- Each roll takes a bar off the cooldown. -/
theorem roll_cooldown (h : Consistent barsAfterLoss log stored) (day : ℤ) (equityNow : ℚ) :
    (rollRiskState stored equityNow day).cooldownBarsRemaining =
      (cooldownAfter barsAfterLoss log).1 - 1 := by
  cases stored with
  | none => simp [rollRiskState, RiskState.initial, h.fresh rfl]
  | some state =>
      rw [← (h.tracks state rfl).cooldown]
      simp only [rollRiskState]
      split
      · rfl
      · rfl

/-- Rolled to a day that is not earlier, with a bar taken off, the risk state may be saved. -/
theorem roll (h : Consistent barsAfterLoss log stored) {day : ℤ}
    (hday : ∀ state, stored = some state → state.dayKey ≤ day) (equityNow : ℚ) :
    Consistent barsAfterLoss (log ++ [.saved]) (some (rollRiskState stored equityNow day)) := by
  have hkey := rollRiskState_dayKey stored equityNow day
  rcases h.roll_figures hday equityNow with ⟨htrades, hrealized⟩
  constructor
  case tracks =>
      intro state hstate
      cases hstate
      constructor
      case trades => rw [hkey, ordersOn_saved, htrades]
      case realized => rw [hkey, realizedOn_saved, hrealized]
      case cooldown => simp [cooldownAfter_saved, h.settled, h.roll_cooldown]
  case dated =>
      intro e he hmatters
      rw [fillsOf_saved] at he
      rcases h.dated e he hmatters with ⟨state, hstate, hle⟩
      exact ⟨_, rfl, (hle.trans (hday state hstate)).trans_eq hkey.symm⟩
  case fresh =>
      intro hnone
      cases hnone
  case settled => simp [cooldownAfter_saved]

/-- An application with nothing to track. -/
theorem quiet (h : Consistent barsAfterLoss log stored) {e : FillEvent}
    (he : e.matters = false) : Consistent barsAfterLoss (log ++ [.applied e]) stored := by
  have hcounts : e.counts = false := (Bool.or_eq_false_iff.1 he).1
  have hpnl : e.pnl = none := by simpa using (Bool.or_eq_false_iff.1 he).2
  have hcooldown : cooldownAfter barsAfterLoss (log ++ [.applied e]) =
      cooldownAfter barsAfterLoss log := by
    simp [cooldownAfter_applied, FillEvent.loses, hpnl]
  constructor
  case tracks =>
      intro state hstate
      rcases h.tracks state hstate with ⟨htrades, hrealized, hbars⟩
      exact ⟨by simpa [ordersOn_applied, hcounts] using htrades,
        by simpa [realizedOn_applied, hpnl] using hrealized, by rw [hcooldown]; exact hbars⟩
  case dated =>
      intro e' he' hmatters
      rw [fillsOf_applied] at he'
      rcases List.mem_append.1 he' with hold | hnew
      · exact h.dated e' hold hmatters
      · cases List.mem_singleton.1 hnew
        rw [he] at hmatters
        cases hmatters
  case fresh =>
      rw [hcooldown]
      exact h.fresh
  case settled =>
      rw [hcooldown]
      exact h.settled

/-- The outcome of an order that has not counted yet, applied and saved. -/
theorem fill {state : RiskState} (hsettled : (cooldownAfter barsAfterLoss log).2 = false)
    (h : Consistent barsAfterLoss (log ++ [.saved]) (some state)) {e : FillEvent}
    {config : RiskConfig} {result : OrderApplicationResult} (hday : e.day = state.dayKey)
    (hbars : config.cooldownBarsAfterLoss = barsAfterLoss)
    (hnew : e.clientOrderId ∉ ordersOn log e.day)
    (hcounts : e.counts = true ↔ 0 < result.newApplied.executedQty ∨ result.isTerminal = true)
    (hpnl : e.pnl = result.realizedPnlDelta) :
    Consistent barsAfterLoss (log ++ [.applied e] ++ [.saved])
      (some (riskStateAfter config state result)) := by
  rcases h.tracks state rfl with ⟨htrades, hrealized, hcooldown⟩
  have hkey : (riskStateAfter config state result).dayKey = state.dayKey :=
    riskStateAfter_dayKey config state result
  constructor
  case tracks =>
      intro state' hstate'
      cases hstate'
      constructor
      case trades =>
          -- the order is a new one of the day, so the count goes up by one
          rw [riskStateAfter_tradesToday, hkey, ordersOn_saved, ordersOn_applied, hday]
          rw [ordersOn_saved] at htrades
          by_cases hc : e.counts = true
          · rw [if_pos (hcounts.1 hc), if_pos ⟨hc, rfl⟩, Finset.card_insert_of_notMem (hday ▸ hnew),
              htrades]
          · rw [if_neg (fun hor => hc (hcounts.2 hor)), if_neg (fun hand => hc hand.1), htrades]
      case realized =>
          rw [riskStateAfter_dailyRealizedPnlPct, riskStateAfter_dailyStartEquity, hkey,
            realizedOn_saved, realizedOn_applied, if_pos hday, hpnl, fractionOf_add, hrealized,
            realizedOn_saved]
          rfl
      case cooldown =>
          -- the roll before has taken its bar off; a loss starts the cooldown anew
          rw [cooldownAfter_saved, hsettled] at hcooldown
          rw [riskStateAfter_cooldownBarsRemaining, cooldownAfter_saved, cooldownAfter_applied,
            hsettled, FillEvent.loses, hpnl, hcooldown, hbars]
          simp
  case dated =>
      intro e' he' hmatters
      rw [fillsOf_saved, fillsOf_applied] at he'
      rcases List.mem_append.1 he' with hold | hnew'
      · rcases h.dated e' (by rwa [fillsOf_saved]) hmatters with ⟨t, ht, hle⟩
        cases ht
        exact ⟨_, rfl, hle.trans_eq hkey.symm⟩
      · cases List.mem_singleton.1 hnew'
        exact ⟨_, rfl, (hday.trans hkey.symm).le⟩
  case fresh =>
      intro hnone
      cases hnone
  case settled => rw [cooldownAfter_saved]

end Consistent

end TradingAgent
