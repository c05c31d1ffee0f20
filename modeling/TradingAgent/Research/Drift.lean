import TradingAgent.Research.Fingerprint

/-!
# Drift — whether an accepted record still describes the code

A candidate's official evaluation runs the engine, the modules it imports and the modules of the
candidate's strategy.  The fingerprints read a list of modules written by hand.

* `officialEvaluation` is what `run_segment` under the fixed risk/reward policy returns in a version
  of the code base, for any behaviour of its modules;
* `drift_sound_iff`: an accepted record guarantees the same evaluation exactly where equal texts of
  the listed modules leave no difference in a module that is run;
* `unfingerprinted_iff` names the modules that are run and not listed.
-/

namespace TradingAgent

/-! ## The evaluation of a candidate -/

structure CandidateStrategy where
  strategy : Strategy
  minRequiredCandles : ℕ
  minRequiredCandlesPos : 0 < minRequiredCandles

/-- What the modules do, as a function of their sources: what each exports, the strategy a family's
class constructs, and the trades and the equity curve of `run_segment` with
`use_fixed_risk_reward_policy=True`. -/
structure CodeBehaviour where
  Exports : CodeModule → Type
  meaning : Linking.Meaning codeGraph String Exports
  construct : (family : FamilyModule) → Exports (.family family) → List (String × ℚ) →
    CandidateStrategy
  runSegment : Exports .engine → AppConfig → SymbolFilters → CandidateStrategy → List Candle →
    Except PyError (List Trade × List EquityPoint)

/-- The official simulated evaluation of a candidate in a version of the code base. -/
def officialEvaluation (behaviour : CodeBehaviour) (version : CodeVersion)
    (candidate : BuildableCandidate) (config : AppConfig) (filters : SymbolFilters)
    (candles : List Candle) : Except PyError (List Trade × List EquityPoint) :=
  let exports : (m : CodeModule) → behaviour.Exports m := Linking.link behaviour.meaning version
  behaviour.runSegment (exports .engine) config filters
    (behaviour.construct candidate.strategyModule (exports (.family candidate.strategyModule))
      candidate.arguments) candles

/-- The modules an evaluation of the candidate runs. -/
def Runs (candidate : BuildableCandidate) (m : CodeModule) : Prop :=
  codeGraph.Reaches .engine m ∨ codeGraph.Reaches (.family candidate.strategyModule) m

/-- Whatever the modules do: a record frozen in one version and accepted in the other guarantees the
same evaluation on every candle list. -/
def DriftSound (digests : Digests) (version version' : CodeVersion)
    (candidate : BuildableCandidate) : Prop :=
  ∀ (behaviour : CodeBehaviour) (sourceCommitHash : Option String) (entry : ScorecardEntry)
    (frozenAtMs freezeBoundaryMs : ℤ) (config : AppConfig) (filters : SymbolFilters)
    (candidateVersion : ℤ) (record : FrozenCandidateRecord),
    freezeCandidate digests version sourceCommitHash entry frozenAtMs freezeBoundaryMs candidate
      config filters candidateVersion = .ok record →
    assertMatchesCurrentImplementation digests version' record candidate config filters = .ok () →
    ∀ candles, officialEvaluation behaviour version candidate config filters candles =
      officialEvaluation behaviour version' candidate config filters candles

/-! ## What an evaluation depends on -/

section Evaluation

variable {digests : Digests} {version version' : CodeVersion} {candidate : BuildableCandidate}
  {m : CodeModule}

/-- Versions that agree on what is run evaluate alike. -/
theorem officialEvaluation_congr (behaviour : CodeBehaviour)
    (h : ∀ m, Runs candidate m → version m = version' m) (config : AppConfig)
    (filters : SymbolFilters) (candles : List Candle) :
    officialEvaluation behaviour version candidate config filters candles =
      officialEvaluation behaviour version' candidate config filters candles := by
  have hengine : Linking.link behaviour.meaning version .engine =
      Linking.link behaviour.meaning version' .engine :=
    Linking.link_congr behaviour.meaning fun m hm => h m (Or.inl hm)
  have hfamily : Linking.link behaviour.meaning version (.family candidate.strategyModule) =
      Linking.link behaviour.meaning version' (.family candidate.strategyModule) :=
    Linking.link_congr behaviour.meaning fun m hm => h m (Or.inr hm)
  rw [officialEvaluation, officialEvaluation, hengine, hfamily]

def isSource (m : CodeModule) (source : String) : CodeModule → String → Bool :=
  fun m' source' => m' = m ∧ source' = source

/-- Whether a module runs `m` with this source. -/
def sees (m : CodeModule) (source : String) (version : CodeVersion) : CodeModule → Bool :=
  Linking.link (Linking.traces codeGraph (isSource m source)) version

/-- An engine that raises where it or the strategy sees this source of the module. -/
def revealing (m : CodeModule) (source : String) : CodeBehaviour where
  Exports := fun _ => Bool
  meaning := Linking.traces codeGraph (isSource m source)
  construct := fun _ seen _ => ⟨fun _ _ => .error .emptyData, if seen then 2 else 1,
    by cases seen <;> decide⟩
  runSegment := fun seen _ _ strategy _ =>
    bif seen || strategy.minRequiredCandles == 2 then .error .emptyData else .ok ([], [])

theorem officialEvaluation_revealing (m : CodeModule) (source : String) (version : CodeVersion)
    (config : AppConfig) (filters : SymbolFilters) (candles : List Candle) :
    officialEvaluation (revealing m source) version candidate config filters candles =
      bif sees m source version .engine ||
          sees m source version (.family candidate.strategyModule) then .error .emptyData
      else .ok ([], []) := by
  have hfamily : ∀ seen : Bool, ((if seen then 2 else 1) == 2) = seen := by decide
  calc officialEvaluation (revealing m source) version candidate config filters candles
      = bif sees m source version .engine ||
            (if sees m source version (.family candidate.strategyModule) then 2 else 1) == 2 then
          .error .emptyData
        else .ok ([], []) := rfl
    _ = _ := by rw [hfamily]

/-- A difference in a module that is run shows. -/
theorem revealing_differs (hruns : Runs candidate m) (hdiffers : version m ≠ version' m)
    (config : AppConfig) (filters : SymbolFilters) (candles : List Candle) :
    officialEvaluation (revealing m (version' m)) version candidate config filters candles ≠
      officialEvaluation (revealing m (version' m)) version' candidate config filters candles := by
  -- in the first version no module has the other source of `m`
  have hnone : ∀ start, sees m (version' m) version start = false := by
    intro start
    refine Bool.eq_false_iff.2 ?_
    intro htraced
    rcases (Linking.link_traces_iff _ version start).1 htraced with ⟨m', -, hsource⟩
    rcases of_decide_eq_true hsource with ⟨rfl, hsame⟩
    exact hdiffers hsame
  have hsome : ∀ start, codeGraph.Reaches start m → sees m (version' m) version' start = true := by
    intro start hreaches
    exact (Linking.link_traces_iff _ version' start).2 ⟨m, hreaches, by simp [isSource]⟩
  have hseen : (sees m (version' m) version' .engine ||
      sees m (version' m) version' (.family candidate.strategyModule)) = true :=
    Bool.or_eq_true_iff.2 (hruns.imp (hsome _) (hsome _))
  rw [officialEvaluation_revealing, officialEvaluation_revealing, hseen, hnone, hnone]
  intro hsame
  cases hsame

/-- A survivor's scorecard entry, as small as it can be. -/
def survivor (candidate : BuildableCandidate) : ScorecardEntry where
  candidateId := candidate.candidateId
  family := candidate.family
  params := candidate.params
  status := .researchSurvivor
  criteria := []
  reasons := []
  totalTradeCount := 0
  blocksWithATrade := 0
  blockCount := 0
  medianBlockRealizedReturnPct := none
  worstBlockRealizedReturnPct := none
  aggregateRealizedPnlQuote := 0
  positiveRealizedPnlBlockFraction := none
  maxBestTradeContributionPct := none
  worstBlockMaxDrawdownPct := none

theorem freezeCandidate_survivor (digests : Digests) (version : CodeVersion)
    (candidate : BuildableCandidate) (config : AppConfig) (filters : SymbolFilters) :
    ∃ record, freezeCandidate digests version none (survivor candidate) 0 0 candidate config filters
      1 = .ok record := by
  simp [freezeCandidate, survivor]

end Evaluation

/-- Acceptance guarantees the same evaluation exactly where equal source texts of the fingerprinted
modules mean equal sources of every module that is run. -/
theorem drift_sound_iff (digests : Digests) (hcollisionFree : Function.Injective digests.sha256)
    (version version' : CodeVersion) (candidate : BuildableCandidate) :
    DriftSound digests version version' candidate ↔
      (SameSourceTexts version version' candidate →
        ∀ m, Runs candidate m → version m = version' m) := by
  constructor
  · intro hsound htexts m hruns
    by_contra hdiffers
    rcases freezeCandidate_survivor digests version candidate {} Scenario.filters with
      ⟨record, hfrozen⟩
    have haccepted := (accepted_iff_sameSourceTexts hcollisionFree hfrozen).2 htexts
    have hsame := hsound (revealing m (version' m)) none _ 0 0 {} Scenario.filters 1 record hfrozen
      haccepted []
    exact revealing_differs hruns hdiffers {} Scenario.filters [] hsame
  · intro hagree behaviour sourceCommitHash entry frozenAtMs freezeBoundaryMs config filters
      candidateVersion record hfrozen haccepted candles
    have htexts := (accepted_iff_sameSourceTexts hcollisionFree hfrozen).1 haccepted
    exact officialEvaluation_congr behaviour (hagree htexts) config filters candles

/-! ## What no fingerprint reads -/

section Unfingerprinted

variable {candidate : BuildableCandidate} {m : CodeModule}

theorem reaches_of_mem_imports {m' : CodeModule} (h : m' ∈ m.imports) : codeGraph.Reaches m m' :=
  Relation.ReflTransGen.single h

/-- The engine runs itself and its imports. -/
theorem reaches_engine_iff : codeGraph.Reaches .engine m ↔ m ∈ .engine :: CodeModule.engine.imports := by
  constructor
  · intro h
    exact h.mem_of_closed List.mem_cons_self (by decide)
  · intro hmem
    rcases List.mem_cons.1 hmem with rfl | himport
    · exact .refl
    · exact reaches_of_mem_imports himport

/-- What a family's class runs besides its own module. -/
def familyRuns : FamilyModule → List CodeModule
  | .breakoutRegimeGate =>
      [.dataModels, .movingAverages, .volatility, .strategyBase, .family .volatilityBreakout]
  | .volatilityBreakout => [.dataModels, .volatility, .strategyBase]
  | _ => [.dataModels, .movingAverages, .volatility, .strategyBase]

theorem reaches_family_iff {family : FamilyModule} :
    codeGraph.Reaches (.family family) m ↔ m ∈ .family family :: familyRuns family := by
  constructor
  · intro h
    refine h.mem_of_closed List.mem_cons_self ?_
    cases family <;> decide
  · intro hmem
    rcases List.mem_cons.1 hmem with rfl | hrun
    · exact .refl
    · -- only the delegated strategy brings a module that its family does not import
      have himport : ∀ m ∈ familyRuns family, m ∈ (CodeModule.family family).imports ∨
          family = .breakoutRegimeGate ∧ m = .volatility := by
        cases family <;> decide
      rcases himport m hrun with hdirect | ⟨rfl, rfl⟩
      · exact reaches_of_mem_imports hdirect
      · have hdelegate : CodeModule.family .volatilityBreakout ∈
            (CodeModule.family .breakoutRegimeGate).imports := by decide
        exact (reaches_of_mem_imports hdelegate).tail (by decide)

/-- The modules that are run and read by no fingerprint: the risk/reward policy, the models, the
journal, and the strategy that the regime gate delegates to. -/
theorem unfingerprinted_iff :
    Runs candidate m ∧ m ∉ fingerprintedModules candidate ↔
      m ∈ [CodeModule.riskReward, .configModels, .dataModels, .journal] ∨
        candidate.strategyModule = .breakoutRegimeGate ∧ m = .family .volatilityBreakout := by
  rw [Runs, reaches_engine_iff, reaches_family_iff, fingerprintedModules, strategyModules]
  generalize candidate.strategyModule = family
  have hall : ∀ family : FamilyModule, ∀ m ∈ .engine :: CodeModule.engine.imports ++
      .family family :: familyRuns family, m ∉ [CodeModule.family family, .movingAverages,
        .volatility, .strategyBase] ++ executionSemanticsModules ↔
      m ∈ [CodeModule.riskReward, .configModels, .dataModels, .journal] ∨
        family = .breakoutRegimeGate ∧ m = .family .volatilityBreakout := by
    intro family
    cases family <;> decide
  constructor
  · rintro ⟨hruns, hunread⟩
    exact (hall family m (List.mem_append.2 hruns)).1 hunread
  · intro hmissed
    have hruns : m ∈ .engine :: CodeModule.engine.imports ++ .family family :: familyRuns family := by
      rcases hmissed with hengine | ⟨rfl, rfl⟩
      · refine List.mem_append_left _ (List.mem_cons_of_mem _ ?_)
        revert hengine
        revert m
        decide
      · decide
    exact ⟨List.mem_append.1 hruns, (hall family m hruns).2 hmissed⟩

end Unfingerprinted

/-! ## The engine as it is, under another risk/reward policy -/

/-- What `engine.py` imports from `backtest/risk_reward.py`. -/
structure RiskRewardExports where
  planRiskRewardEntry : (equity quoteBalance referencePrice stopDistancePct takerFeePct
    slippagePct : ℚ) → SymbolFilters → Except PyError RiskRewardPlan
  buildRealizedPlan : RiskRewardPlan → (fillPrice stopDistancePct takerFeePct slippagePct
    equity : ℚ) → SymbolFilters → Except PyError RiskRewardPlan

def RiskRewardExports.current : RiskRewardExports where
  planRiskRewardEntry := TradingAgent.planRiskRewardEntry
  buildRealizedPlan := TradingAgent.buildRealizedPlan

/-- `run_segment` with `use_fixed_risk_reward_policy=True`, for the policy the module exports. -/
def runCandidate (riskReward : RiskRewardExports) (config : AppConfig) (filters : SymbolFilters)
    (strategy : CandidateStrategy) (candles : List Candle) :
    Except PyError (List Trade × List EquityPoint) :=
  let env : RunEnv :=
    { RunEnv.standard config filters strategy.strategy strategy.minRequiredCandles
        strategy.minRequiredCandlesPos true with
      imports := { EngineImports.current with
        planRiskRewardEntry := riskReward.planRiskRewardEntry
        buildRealizedPlan := riskReward.buildRealizedPlan } }
  (runSegment env candles config.backtest.startingEquity (some [])).map fun ran =>
    (ran.1.trades, ran.1.equityCurve)

/-- The modelled engine; the policy and the strategies are functions of their sources. -/
def simulation (riskReward : String → RiskRewardExports)
    (strategies : FamilyModule → String → CandidateStrategy) : CodeBehaviour where
  Exports
    | .engine => AppConfig → SymbolFilters → CandidateStrategy → List Candle →
        Except PyError (List Trade × List EquityPoint)
    | .riskReward => RiskRewardExports
    | .family _ => CandidateStrategy
    | _ => Unit
  meaning
    | .engine, _, exports => runCandidate (exports .riskReward List.mem_cons_self)
    | .riskReward, source, _ => riskReward source
    | .family family, source, _ => strategies family source
    | .configModels, _, _ | .dataModels, _, _ | .backtestBroker, _, _ | .orderValidator, _, _
    | .journal, _, _ | .diagnostics, _, _ | .extendedReport, _, _ | .performance, _, _
    | .portfolioState, _, _ | .riskEngine, _, _ | .riskLimits, _, _ | .exchangeFilters, _, _
    | .positionSizer, _, _ | .strategyBase, _, _ | .movingAverages, _, _ | .volatility, _, _ => ()
  construct := fun _ strategy _ => strategy
  runSegment := fun engine => engine

theorem officialEvaluation_simulation (riskReward : String → RiskRewardExports)
    (strategies : FamilyModule → String → CandidateStrategy) (version : CodeVersion)
    (candidate : BuildableCandidate) (config : AppConfig) (filters : SymbolFilters)
    (candles : List Candle) :
    officialEvaluation (simulation riskReward strategies) version candidate config filters candles =
      runCandidate (riskReward (version .riskReward)) config filters
        (strategies candidate.strategyModule (version (.family candidate.strategyModule)))
        candles := by
  have hpolicy : Linking.link (simulation riskReward strategies).meaning version .riskReward =
      riskReward (version .riskReward) := Linking.link_eq _ _ _
  have hengine : Linking.link (simulation riskReward strategies).meaning version .engine =
      runCandidate (riskReward (version .riskReward)) := by
    rw [Linking.link_eq, ← hpolicy]
    rfl
  have hfamily : Linking.link (simulation riskReward strategies).meaning version
      (.family candidate.strategyModule) = strategies candidate.strategyModule
        (version (.family candidate.strategyModule)) := Linking.link_eq _ _ _
  rw [officialEvaluation]
  simp only [hengine, hfamily]
  rfl

namespace Drifted

/-- A policy that approves no entry, once its source has changed. -/
def riskReward (source : String) : RiskRewardExports :=
  if source = "" then .current
  else
    { RiskRewardExports.current with
      planRiskRewardEntry := fun _ _ _ _ _ _ _ => .ok (rejectedPlan .rrRejectedInvalidTarget) }

def strategies (_ : FamilyModule) (_ : String) : CandidateStrategy :=
  ⟨Scenario.alternating, 1, Nat.one_pos⟩

def candidate : BuildableCandidate where
  candidateId := "breakout_B1"
  family := "volatility_normalized_breakout"
  params := [("channel_period", 20), ("atr_period", 14), ("breakout_atr_multiple", 1 / 4)]
  strategyModule := .volatilityBreakout
  arguments := [("channel_period", 20), ("atr_period", 14), ("breakout_atr_multiple", 1 / 4)]

def before : CodeVersion := fun _ => ""

/-- Only the risk/reward policy has another source. -/
def after : CodeVersion := fun m => if m = .riskReward then "MIN_NET_REWARD_TO_RISK = 99" else ""

/-- Only the module of another family has. -/
def elsewhere : CodeVersion := fun m => if m = .family .trendRegime then "EMA_FAST = 11" else ""

def digests : Digests where
  sha256 := id
  stableJson := fun _ => ""

def candles : List Candle :=
  [Scenario.candle 0 100 100, Scenario.candle 1 100 100, Scenario.candle 2 100 100]

end Drifted

/-- Another strategy of the package may change. -/
theorem drift_sound_elsewhere :
    DriftSound Drifted.digests Drifted.before Drifted.elsewhere Drifted.candidate := by
  refine (drift_sound_iff Drifted.digests Function.injective_id Drifted.before Drifted.elsewhere
    Drifted.candidate).2 ?_
  intro _ m hruns
  have hother : m ≠ .family .trendRegime := by
    rintro rfl
    rcases hruns with hengine | hfamily
    · exact absurd (reaches_engine_iff.1 hengine) (by decide)
    · exact absurd (reaches_family_iff.1 hfamily) (by decide)
  simp [Drifted.before, Drifted.elsewhere, hother]

/-- A record is accepted although the policy has changed, and the evaluation differs. -/
theorem drift_undetected :
    ∃ record, freezeCandidate Drifted.digests Drifted.before none (survivor Drifted.candidate) 0 0
        Drifted.candidate {} Scenario.filters 1 = .ok record ∧
      assertMatchesCurrentImplementation Drifted.digests Drifted.after record Drifted.candidate {}
        Scenario.filters = .ok () ∧
      officialEvaluation (simulation Drifted.riskReward Drifted.strategies) Drifted.before
          Drifted.candidate {} Scenario.filters Drifted.candles ≠
        officialEvaluation (simulation Drifted.riskReward Drifted.strategies) Drifted.after
          Drifted.candidate {} Scenario.filters Drifted.candles := by
  rcases freezeCandidate_survivor Drifted.digests Drifted.before Drifted.candidate {}
    Scenario.filters with ⟨record, hfrozen⟩
  refine ⟨record, hfrozen, ?_, ?_⟩
  · refine (accepted_iff_sameSourceTexts Function.injective_id hfrozen).2 ?_
    exact sameSourceTexts_of_agree (by decide)
  · rw [officialEvaluation_simulation, officialEvaluation_simulation]
    decide +kernel

end TradingAgent
