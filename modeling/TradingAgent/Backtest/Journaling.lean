import TradingAgent.Backtest.Transitions

/-!
# Journaling — a run only writes its journal

No stage of a run reads the journal, so a run with a journal reports the same as the run without
one (`runSegment_unjournaled`).
-/

namespace TradingAgent

/-- The variables without a journal. -/
def LoopVars.unjournaled (v : LoopVars) : LoopVars :=
  { v with journal := none }

@[simp] theorem unjournaled_state (v : LoopVars) : v.unjournaled.state = v.state := rfl
@[simp] theorem unjournaled_pendingSignal (v : LoopVars) :
    v.unjournaled.pendingSignal = v.pendingSignal := rfl

/-- Computations that commute with a map, one after the other. -/
theorem bind_of_map {ε α : Type} {g : α → α} {x x' : Except ε α} {f f' : α → Except ε α}
    (hx : x' = x.map g) (hf : ∀ a, f' (g a) = (f a).map g) : (x' >>= f') = (x >>= f).map g := by
  rw [hx]
  cases x with
  | error e => rfl
  | ok a => exact hf a

section Stages

variable (env : RunEnv) (candle : Candle) (v : LoopVars)

theorem applyExitFill_unjournaled (timeMs : ℤ) (q ref : ℚ) (fill : SimulatedFill)
    (reason : ExitReason) :
    applyExitFill env timeMs q fill reason ref v.unjournaled =
      (applyExitFill env timeMs q fill reason ref v).map LoopVars.unjournaled := by
  unfold applyExitFill
  change (env.imports.applySell v.state.portfolio q fill.fillPrice fill.feeQuote >>= _) = _
  cases env.imports.applySell v.state.portfolio q fill.fillPrice fill.feeQuote with
  | error e => rfl
  | ok portfolio => rfl

theorem executeStopExit_unjournaled :
    executeStopExit env candle v.unjournaled =
      (executeStopExit env candle v).map LoopVars.unjournaled := by
  unfold executeStopExit
  rw [unjournaled_state]
  cases v.state.stopPrice with
  | none => rfl
  | some stopPrice =>
      exact bind_of_map (applyExitFill_unjournaled env v _ _ _ _ _) fun w => rfl

theorem executeTakeProfitExit_unjournaled :
    executeTakeProfitExit env candle v.unjournaled =
      (executeTakeProfitExit env candle v).map LoopVars.unjournaled := by
  unfold executeTakeProfitExit
  rw [unjournaled_state]
  cases v.state.targetPrice with
  | none => rfl
  | some targetPrice =>
      exact bind_of_map (applyExitFill_unjournaled env v _ _ _ _ _) fun w => rfl

theorem protectiveExit_unjournaled :
    protectiveExit env candle v.unjournaled =
      (protectiveExit env candle v).map LoopVars.unjournaled := by
  unfold protectiveExit
  rw [unjournaled_state]
  cases v.state.portfolio.positionSide with
  | flat => rfl
  | long =>
      cases v.state.stopPrice with
      | none => rfl
      | some stopPrice =>
          by_cases hlow : candle.low ≤ stopPrice
          · simp only [hlow, if_true]
            exact executeStopExit_unjournaled env candle v
          · simp only [hlow, if_false]
            cases env.useFixedRiskRewardPolicy with
            | false => rfl
            | true =>
                cases v.state.targetPrice with
                | none => rfl
                | some targetPrice =>
                    by_cases hhigh : candle.high ≥ targetPrice
                    · simp only [hhigh, if_true]
                      exact executeTakeProfitExit_unjournaled env candle v
                    · simp only [hhigh, if_false]
                      rfl

theorem openPosition_unjournaled (q : ℚ) (fill : SimulatedFill) (plan : Option RiskRewardPlan) :
    openPosition env candle q fill plan v.unjournaled =
      (openPosition env candle q fill plan v).map LoopVars.unjournaled := by
  unfold openPosition
  change (env.imports.applyBuy v.state.portfolio q fill.fillPrice fill.feeQuote >>= _) = _
  cases env.imports.applyBuy v.state.portfolio q fill.fillPrice fill.feeQuote with
  | error e => rfl
  | ok portfolio => rfl

theorem fillBuy_unjournaled (q equity : ℚ) (plan : Option RiskRewardPlan) :
    fillBuy env candle q equity plan v.unjournaled =
      (fillBuy env candle q equity plan v).map LoopVars.unjournaled := by
  unfold fillBuy
  simp only
  cases realizePlan env plan q (env.imports.simulateBuy env.broker q candle.open).fillPrice
      equity with
  | error e => rfl
  | ok realized =>
      cases realized with
      | none => exact openPosition_unjournaled env candle v _ _ _
      | some realized =>
          simp only [bind, Except.bind]
          split
          · exact openPosition_unjournaled env candle v _ _ _
          · rfl

theorem submitSized_unjournaled (signalType : ActionableSignal) (equity q : ℚ)
    (plan : Option RiskRewardPlan) :
    submitSized env signalType candle equity q plan v.unjournaled =
      (submitSized env signalType candle equity q plan v).map LoopVars.unjournaled := by
  unfold submitSized
  simp only [unjournaled_state]
  change (if (env.imports.evaluate env.riskEngine _ (riskContext v.state equity
    (drawdownPct v.peakEquity equity))).approved = false then _ else _) = _
  by_cases hrefused : (env.imports.evaluate env.riskEngine
      ⟨signalType, candle.symbol, q, candle.open⟩
      (riskContext v.state equity (drawdownPct v.peakEquity equity))).approved = false
  · rw [if_pos hrefused, if_pos hrefused]
    cases signalType <;> rfl
  · rw [if_neg hrefused, if_neg hrefused]
    cases env.imports.validateOrder ⟨signalType, candle.symbol, q, candle.open⟩ env.filters with
    | error e => rfl
    | ok validation =>
        simp only [bind, Except.bind]
        cases validation.approved with
        | false => cases signalType <;> rfl
        | true =>
            cases validation.validatedQuantity with
            | none => cases signalType <;> rfl
            | some validated =>
                cases signalType with
                | buy =>
                    refine Eq.trans ?_ (fillBuy_unjournaled env candle _ _ _ _)
                    rfl
                | exit =>
                    refine Eq.trans ?_ (applyExitFill_unjournaled env _ _ _ _ _ _)
                    rfl

theorem resolvePendingSignal_unjournaled (signalType : ActionableSignal) :
    resolvePendingSignal env signalType candle v.unjournaled =
      (resolvePendingSignal env signalType candle v).map LoopVars.unjournaled := by
  unfold resolvePendingSignal
  simp only [unjournaled_state]
  cases sizePendingSignal env signalType candle.open (v.state.portfolio.equity candle.open)
      v.state.portfolio with
  | error e => rfl
  | ok sized =>
      simp only [bind, Except.bind]
      cases sized.1.approved with
      | false => rfl
      | true =>
          cases sized.1.quantity with
          | none => rfl
          | some quantity =>
              refine Eq.trans ?_ (submitSized_unjournaled env candle _ signalType _ _ _)
              rfl

theorem fillPending_unjournaled :
    fillPending env candle v.unjournaled =
      (fillPending env candle v).map LoopVars.unjournaled := by
  unfold fillPending
  rw [unjournaled_pendingSignal]
  cases v.pendingSignal with
  | none => rfl
  | some signalType =>
      exact bind_of_map (resolvePendingSignal_unjournaled env candle v signalType) fun w => rfl

theorem markAndSignal_unjournaled (seen : List Candle) :
    markAndSignal env seen candle v.unjournaled =
      (markAndSignal env seen candle v).map LoopVars.unjournaled := by
  unfold markAndSignal
  rw [unjournaled_state]
  cases env.strategy seen v.state.portfolio.positionSide with
  | error e => rfl
  | ok signal => rfl

theorem processCandle_unjournaled (seen : List Candle) :
    processCandle env seen candle v.unjournaled =
      (processCandle env seen candle v).map LoopVars.unjournaled := by
  unfold processCandle
  refine bind_of_map (fillPending_unjournaled env candle (rollDay candle v)) fun w => ?_
  refine bind_of_map (protectiveExit_unjournaled env candle w) fun u => ?_
  exact markAndSignal_unjournaled env candle u seen

end Stages

/-! ## A whole run -/

section Runs

variable {env : RunEnv}

theorem run_unjournaled (seen rest : List Candle) (v : LoopVars) :
    CausalRun.run (processCandle env) seen rest v.unjournaled =
      (CausalRun.run (processCandle env) seen rest v).map LoopVars.unjournaled := by
  induction rest generalizing seen v with
  | nil => rfl
  | cons candle rest ih =>
      have hstep := processCandle_unjournaled env candle v (seen ++ [candle])
      cases hcandle : processCandle env (seen ++ [candle]) candle v with
      | error e =>
          rw [hcandle] at hstep
          rw [CausalRun.run_cons_error hcandle, CausalRun.run_cons_error hstep]
          rfl
      | ok w =>
          rw [hcandle] at hstep
          rw [CausalRun.run_cons_ok hcandle, CausalRun.run_cons_ok hstep, ih]

/-- The result of a run is that of the run without a journal. -/
theorem runSegment_unjournaled {segment : List Candle} {S : ℚ} {journal j : Journal}
    {r : SegmentRunResult} (h : runSegment env segment S journal = .ok (r, j)) :
    runSegment env segment S none = .ok (r, none) := by
  rcases runSegment_eq_ok h with ⟨first, last, v, hfirst, hlast, hloop, rfl, rfl⟩
  have hquiet : runLoop env segment (initialVars S first.close none) = .ok v.unjournaled := by
    unfold runLoop at hloop ⊢
    change CausalRun.run _ _ _ (initialVars S first.close journal).unjournaled = _
    rw [run_unjournaled, hloop]
    rfl
  exact runSegment_of_loop hfirst hlast hquiet

end Runs

end TradingAgent
