import TradingAgent.Backtest.Transitions

/-!
# Decisions — when a run asks its strategy

`strategyCalls` lists the calls of `generate_signal` a run makes, in order, with what each was given
and what it answered; a run that fails makes the calls before its failure.

* `mem_strategyCalls`: a call sees the candles up to an index of the loop;
* `exists_call_of_ok`: a run that returns has made a call at every index of the loop.
-/

namespace TradingAgent

structure StrategyCall where
  seen : List Candle
  side : PositionSide
  answer : Except PyError Signal

def loopCalls (env : RunEnv) : List Candle → List Candle → LoopVars → List StrategyCall
  | _, [], _ => []
  | seen, candle :: rest, v =>
      match fillPending env candle (rollDay candle v) with
      | .error _ => []
      | .ok filled =>
          match protectiveExit env candle filled with
          | .error _ => []
          | .ok guarded =>
              let side := guarded.state.portfolio.positionSide
              let answer := env.strategy (seen ++ [candle]) side
              ⟨seen ++ [candle], side, answer⟩ ::
                match answer with
                | .error _ => []
                | .ok signal => loopCalls env (seen ++ [candle]) rest (recordMark candle signal guarded)

/-- The calls of `generate_signal` during `run_segment`. -/
def strategyCalls (env : RunEnv) (segment : List Candle) (startingEquity : ℚ)
    (journal : Journal) : List StrategyCall :=
  match segment[env.minRequired - 1]?, segment.getLast? with
  | some first, some _ =>
      loopCalls env (segment.take (env.minRequired - 1)) (segment.drop (env.minRequired - 1))
        (initialVars startingEquity first.close journal)
  | _, _ => []

section Calls

variable {env : RunEnv} {segment : List Candle} {startingEquity : ℚ} {journal : Journal}

theorem mem_loopCalls {seen rest : List Candle} {v : LoopVars} {call : StrategyCall}
    (h : call ∈ loopCalls env seen rest v) :
    call.answer = env.strategy call.seen call.side ∧
      ∃ k < rest.length, call.seen = seen ++ rest.take (k + 1) := by
  induction rest generalizing seen v with
  | nil => cases h
  | cons candle rest ih =>
      simp only [loopCalls] at h
      split at h
      · cases h
      · split at h
        · cases h
        · rcases List.mem_cons.1 h with rfl | hlater
          · exact ⟨rfl, 0, by simp, by simp⟩
          · split at hlater
            · cases hlater
            · rcases ih hlater with ⟨hanswer, k, hk, hseen⟩
              refine ⟨hanswer, k + 1, by simpa using hk, ?_⟩
              simpa using hseen

/-- A call sees the candles up to an index of the loop. -/
theorem mem_strategyCalls {call : StrategyCall}
    (h : call ∈ strategyCalls env segment startingEquity journal) :
    call.answer = env.strategy call.seen call.side ∧
      ∃ i, env.minRequired - 1 ≤ i ∧ i < segment.length ∧ call.seen = segment.take (i + 1) := by
  simp only [strategyCalls] at h
  split at h
  · rename_i first last hfirst _
    rcases mem_loopCalls h with ⟨hanswer, k, hk, hseen⟩
    rw [List.length_drop] at hk
    refine ⟨hanswer, env.minRequired - 1 + k, Nat.le_add_right _ _, by omega, ?_⟩
    rw [hseen, Nat.add_assoc]
    exact (List.take_add ..).symm
  · cases h

theorem exists_loopCall {seen rest : List Candle} {v v' : LoopVars}
    (h : CausalRun.run (processCandle env) seen rest v = .ok v') {k : ℕ} (hk : k < rest.length) :
    ∃ call ∈ loopCalls env seen rest v, call.seen = seen ++ rest.take (k + 1) ∧
      ∃ signal, call.answer = .ok signal := by
  induction rest generalizing seen v k with
  | nil => cases hk
  | cons candle rest ih =>
      rcases CausalRun.run_cons_eq_ok h with ⟨u, hu, hrest⟩
      rcases processCandle_cases hu with ⟨tr, hvalid, rfl, rfl, rfl⟩
      rcases hvalid.marks with ⟨signal, hsignal, hclosed⟩
      have hfill : fillPending env tr.candle (rollDay tr.candle tr.before) = .ok tr.filled := by
        rw [← hvalid.atOpen_eq]
        exact hvalid.fills
      simp only [loopCalls, hfill, hvalid.protects, hsignal]
      cases k with
      | zero => exact ⟨_, List.mem_cons_self .., by simp, signal, rfl⟩
      | succ k =>
          rw [hclosed] at hrest
          rcases ih hrest (Nat.lt_of_succ_lt_succ hk) with ⟨call, hcall, hseen, hanswer⟩
          refine ⟨call, List.mem_cons_of_mem _ hcall, ?_, hanswer⟩
          simpa using hseen

/-- A run that returns has asked its strategy at every index of its loop. -/
theorem exists_call_of_ok {result : SegmentRunResult} {after : Journal}
    (h : runSegment env segment startingEquity journal = .ok (result, after)) {i : ℕ}
    (hfrom : env.minRequired - 1 ≤ i) (hi : i < segment.length) :
    ∃ call ∈ strategyCalls env segment startingEquity journal, call.seen = segment.take (i + 1) ∧
      ∃ signal, call.answer = .ok signal := by
  rcases runSegment_eq_ok h with ⟨first, last, v, hfirst, hlast, hloop, -, -⟩
  have hk : i - (env.minRequired - 1) < (segment.drop (env.minRequired - 1)).length := by
    rw [List.length_drop]
    omega
  rcases exists_loopCall hloop hk with ⟨call, hcall, hseen, hanswer⟩
  refine ⟨call, by simpa [strategyCalls, hfirst, hlast] using hcall, ?_, hanswer⟩
  have hsum : i + 1 = env.minRequired - 1 + (i - (env.minRequired - 1) + 1) := by omega
  rw [hseen, hsum]
  exact (List.take_add ..).symm

end Calls

end TradingAgent
