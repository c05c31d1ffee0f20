import TradingAgent.Execution.Exchange

/-!
# Agent runs — a cycle over the agent's own tables

The agent's databases and the requests it has sent, with an exchange and a market that may answer
anything about the order asked for.  What every such run does, every run over the exchange does
(`agentServe_of_serveEffect`).

* `agentServe` is what each effect does to the agent's tables;
* `RunsTo` is a run that returns, over answers as `obs` allows.
-/

namespace TradingAgent

open Effects

/-- The agent's part of the world. -/
structure AgentState where
  store : ExecutionState
  riskStates : Dict String RiskState
  journal : List JournalEntry
  posted : List String

def LiveWorld.agent (w : LiveWorld) : AgentState :=
  ⟨w.store, w.riskStates, w.journal, w.posted⟩

/-- An answer about an order is about the order asked for. -/
def AnswersFor (id : String) : Except AdapterError OrderResult → Prop
  | .ok order => order.clientOrderId = id
  | .error _ => True

def agentServe : (effect : LiveEffect) → AgentState → effect.Answer → AgentState → Prop
  | .fetchMarketData _, s, _, s' => s' = s
  | .killSwitchEngaged, s, _, s' => s' = s
  | .loadPortfolio symbol, s, answer, s' => answer = s.store.loadPortfolio symbol ∧ s' = s
  | .savePortfolio symbol state, s, _, s' =>
      s' = { s with store := s.store.savePortfolio symbol state }
  | .loadOpenPending symbol, s, answer, s' => answer = s.store.loadOpenPending symbol ∧ s' = s
  | .getPending id, s, answer, s' => answer = s.store.getPending id ∧ s' = s
  | .createPending id symbol side quantity closeMs nowMs, s, _, s' =>
      s' = { s with store := s.store.createPending id symbol side quantity closeMs nowMs }
  | .applyOrderResult ctx order nowMs, s, answer, s' =>
      answer = (applyOrderResultAtomically ctx none order nowMs s.store).1 ∧
        s' = { s with store := (applyOrderResultAtomically ctx none order nowMs s.store).2 }
  | .loadRiskState symbol, s, answer, s' => answer = s.riskStates.get? symbol ∧ s' = s
  | .saveRiskState symbol state, s, _, s' =>
      s' = { s with riskStates := s.riskStates.set symbol state }
  | .journalRecord entryType payload timestampMs, s, _, s' =>
      s' = { s with journal := s.journal ++ [⟨timestampMs, entryType, payload⟩] }
  | .journalEntriesByType entryType, s, answer, s' =>
      answer = s.journal.filter (fun entry => entry.entryType = entryType) ∧ s' = s
  | .getAccountBalances, s, _, s' => s' = s
  | .getOrder _ id, s, answer, s' => AnswersFor id answer ∧ s' = s
  | .placeMarketOrder _ _ _ id, s, answer, s' =>
      AnswersFor id answer ∧ s' = { s with posted := id :: s.posted }

/-- The tables change as the world they are part of does. -/
theorem agentServe_of_serveEffect {effect : LiveEffect} {w w' : LiveWorld} {answer : effect.Answer}
    (h : serveEffect effect w answer w') : agentServe effect w.agent answer w'.agent := by
  cases effect with
  | fetchMarketData | killSwitchEngaged | getAccountBalances | savePortfolio | createPending
  | saveRiskState | journalRecord =>
      cases h
      rfl
  | loadPortfolio | loadOpenPending | getPending | loadRiskState | journalEntriesByType =>
      rcases h with ⟨rfl, rfl⟩
      exact ⟨rfl, rfl⟩
  | applyOrderResult =>
      rcases h with ⟨rfl, rfl⟩
      exact ⟨rfl, rfl⟩
  | getOrder symbol id =>
      simp only [serveEffect] at h
      split at h
      · exact ⟨h.1.sameOrder, by rw [h.2]⟩
      · split at h
        · exact ⟨trivial, by rw [h.2]; rfl⟩
        · exact ⟨trivial, by rw [h]⟩
      · exact ⟨trivial, by rw [h]⟩
  | placeMarketOrder symbol side quantity id =>
      rcases h with ⟨exchange, -, rfl, hanswer⟩
      refine ⟨?_, rfl⟩
      cases answer with
      | ok report => exact hanswer.sameOrder
      | error e => trivial

/-! ## Runs -/

/-- The agent's tables, with answers as `obs` allows. -/
def agentEnvironment (obs : (effect : LiveEffect) → effect.Answer → Prop) :
    Environment LiveEffect LiveEffect.Answer AgentState where
  step _ _ := False
  serve effect s answer s' := obs effect answer ∧ agentServe effect s answer s'

abbrev RunsTo (obs : (effect : LiveEffect) → effect.Answer → Prop) {α : Type} (p : LiveProgram α)
    (s : AgentState) (a : α) (s' : AgentState) : Prop :=
  Returns (agentEnvironment obs) p s a s'

section Rules

variable {obs : (effect : LiveEffect) → effect.Answer → Prop} {α β : Type} {s s' : AgentState}

theorem agent_still (s s' : AgentState) : ¬(agentEnvironment obs).step s s' :=
  fun h => h

theorem runsTo_pure {a b : α} : RunsTo obs (pure a) s b s' ↔ b = a ∧ s' = s :=
  returns_pure_iff agent_still

theorem runsTo_raise {e : PyError} {a : α} : RunsTo obs (raise e) s a s' ↔ False :=
  returns_fail_iff agent_still

theorem runsTo_bind {p : LiveProgram α} {f : α → LiveProgram β} {b : β} :
    RunsTo obs (p >>= f) s b s' ↔ ∃ a u, RunsTo obs p s a u ∧ RunsTo obs (f a) u b s' :=
  returns_bind_iff agent_still

theorem runsTo_perform {effect : LiveEffect} {answer : effect.Answer} :
    RunsTo obs (perform effect) s answer s' ↔ obs effect answer ∧ agentServe effect s answer s' :=
  returns_request_iff agent_still

theorem runsTo_ofExcept {x : Except PyError α} {a : α} :
    RunsTo obs (Program.ofExcept x) s a s' ↔ x = .ok a ∧ s' = s := by
  cases x with
  | ok b =>
      rw [Program.ofExcept, RunsTo, returns_done_iff agent_still, Except.ok.injEq]
      exact and_congr_left fun _ => eq_comm
  | error e => simp [Program.ofExcept, RunsTo, returns_fail_iff agent_still]

end Rules

end TradingAgent
