import TradingAgent.Library.Linking
import TradingAgent.Research.FixedDuration
import TradingAgent.Research.Freeze

/-!
# Fingerprints — what a frozen record remembers of the code

`research/fingerprint.py`, and the two functions of `research/freeze.py` that use it.  A version of
the code base gives each module its source text.

* `moduleSourceText` is the text a fingerprint of modules is the hash of;
* `freezeCandidate` and `assertMatchesCurrentImplementation` work under a version each.

The hash and the text of a JSON value are parameters; a candidate is given with the class its `build`
constructs.
-/

namespace TradingAgent

/-! ## Modules -/

/-- The modules of `research/candidates`. -/
inductive FamilyModule where
  | trendRegime
  | volatilityBreakout
  | meanReversion
  | breakoutRegimeGate
  | multitimeframeBreakout
  deriving DecidableEq, Repr

def FamilyModule.name : FamilyModule → String
  | .trendRegime => "trading_agent.research.candidates.trend_regime"
  | .volatilityBreakout => "trading_agent.research.candidates.volatility_breakout"
  | .meanReversion => "trading_agent.research.candidates.mean_reversion"
  | .breakoutRegimeGate => "trading_agent.research.candidates.breakout_regime_gate"
  | .multitimeframeBreakout => "trading_agent.research.candidates.multitimeframe_breakout"

/-- The modules of the package that `run_segment` and the candidates' strategies run. -/
inductive CodeModule where
  | engine
  | riskReward
  | configModels
  | dataModels
  | backtestBroker
  | orderValidator
  | journal
  | diagnostics
  | extendedReport
  | performance
  | portfolioState
  | riskEngine
  | riskLimits
  | exchangeFilters
  | positionSizer
  | strategyBase
  | movingAverages
  | volatility
  | family (family : FamilyModule)
  deriving DecidableEq, Repr

namespace CodeModule

def name : CodeModule → String
  | .engine => "trading_agent.backtest.engine"
  | .riskReward => "trading_agent.backtest.risk_reward"
  | .configModels => "trading_agent.config.models"
  | .dataModels => "trading_agent.data.models"
  | .backtestBroker => "trading_agent.execution.backtest_broker"
  | .orderValidator => "trading_agent.execution.order_validator"
  | .journal => "trading_agent.journal.journal"
  | .diagnostics => "trading_agent.metrics.diagnostics"
  | .extendedReport => "trading_agent.metrics.extended_report"
  | .performance => "trading_agent.metrics.performance"
  | .portfolioState => "trading_agent.portfolio.state"
  | .riskEngine => "trading_agent.risk.engine"
  | .riskLimits => "trading_agent.risk.limits"
  | .exchangeFilters => "trading_agent.sizing.exchange_filters"
  | .positionSizer => "trading_agent.sizing.position_sizer"
  | .strategyBase => "trading_agent.strategy.base"
  | .movingAverages => "trading_agent.indicators.moving_averages"
  | .volatility => "trading_agent.indicators.volatility"
  | .family f => f.name

/-- The imports within the package.  The segmentation, the validation and the baseline strategy that
`engine.py` imports as well are for its other entry points, not for `run_segment`. -/
def imports : CodeModule → List CodeModule
  | .engine => [.riskReward, .configModels, .dataModels, .backtestBroker, .orderValidator, .journal,
      .diagnostics, .extendedReport, .performance, .portfolioState, .riskEngine, .riskLimits,
      .exchangeFilters, .positionSizer, .strategyBase]
  | .riskReward => [.exchangeFilters]
  | .configModels => []
  | .dataModels => []
  | .backtestBroker => [.configModels]
  | .orderValidator => [.riskLimits, .exchangeFilters]
  | .journal => []
  | .diagnostics => []
  | .extendedReport => [.diagnostics, .performance]
  | .performance => [.dataModels]
  | .portfolioState => [.strategyBase]
  | .riskEngine => [.configModels, .riskLimits, .strategyBase]
  | .riskLimits => [.strategyBase]
  | .exchangeFilters => []
  | .positionSizer => [.exchangeFilters]
  | .strategyBase => [.dataModels]
  | .movingAverages => []
  | .volatility => [.dataModels]
  | .family .trendRegime => [.dataModels, .movingAverages, .volatility, .strategyBase]
  | .family .volatilityBreakout => [.dataModels, .volatility, .strategyBase]
  | .family .meanReversion => [.dataModels, .movingAverages, .volatility, .strategyBase]
  | .family .breakoutRegimeGate =>
      [.dataModels, .movingAverages, .family .volatilityBreakout, .strategyBase]
  | .family .multitimeframeBreakout => [.dataModels, .movingAverages, .volatility, .strategyBase]

/-- How deep the imports of a module go. -/
def rank : CodeModule → ℕ
  | .engine => 5
  | .riskEngine => 4
  | .extendedReport => 4
  | .orderValidator => 4
  | .family .breakoutRegimeGate => 4
  | .riskLimits => 3
  | .portfolioState => 3
  | .family _ => 3
  | .strategyBase => 2
  | .performance => 2
  | .volatility => 2
  | .backtestBroker => 2
  | .positionSizer => 2
  | .riskReward => 2
  | _ => 1

end CodeModule

def codeGraph : Linking.Graph CodeModule where
  imports := CodeModule.imports
  rank := CodeModule.rank
  rank_lt := by
    have hranks : ∀ m : CodeModule, ∀ m' ∈ m.imports, m'.rank < m.rank := by
      intro m
      cases m with
      | family f => cases f <;> decide
      | _ => decide
    exact fun {m m'} h => hranks m m' h

/-- A version of the code base: what `inspect.getsource` returns for each module. -/
abbrev CodeVersion := CodeModule → String

/-! ## Candidates and their evidence -/

/-- A registry entry with the class its `build` constructs and the arguments it passes. -/
structure BuildableCandidate extends CandidateSpec where
  strategyModule : FamilyModule
  arguments : List (String × ℚ)
  deriving DecidableEq, Repr

inductive ScorecardStatus where
  | rejected
  | researchSurvivor
  | insufficientEvidence
  deriving DecidableEq, Repr

def ScorecardStatus.value : ScorecardStatus → String
  | .rejected => "REJECTED"
  | .researchSurvivor => "RESEARCH_SURVIVOR"
  | .insufficientEvidence => "INSUFFICIENT_EVIDENCE"

structure CriterionResult where
  name : String
  passed : Bool
  detail : String
  deriving DecidableEq, Repr

/-- The fields of a scorecard entry that freezing reads. -/
structure ScorecardEntry where
  candidateId : String
  family : String
  params : List (String × ℚ)
  status : ScorecardStatus
  criteria : List CriterionResult
  reasons : List String
  totalTradeCount : ℕ
  blocksWithATrade : ℕ
  blockCount : ℕ
  medianBlockRealizedReturnPct : Option ℚ
  worstBlockRealizedReturnPct : Option ℚ
  aggregateRealizedPnlQuote : ℚ
  positiveRealizedPnlBlockFraction : Option ℚ
  maxBestTradeContributionPct : Option ℚ
  worstBlockMaxDrawdownPct : Option ℚ
  deriving DecidableEq, Repr

/-! ## Fingerprints -/

/-- What `json.dumps` is given; a decimal is written as its text. -/
inductive Json where
  | null
  | flag (b : Bool)
  | integer (n : ℤ)
  | number (q : ℚ)
  | decimal (q : ℚ)
  | text (s : String)
  | array (items : List Json)
  | object (fields : List (String × Json))

/-- `_sha256` and `_stable_json`. -/
structure Digests where
  sha256 : String → String
  stableJson : Json → String

/-- `EXECUTION_SEMANTICS_MODULES`. -/
def executionSemanticsModules : List CodeModule :=
  [.engine, .backtestBroker, .portfolioState, .riskEngine, .riskLimits, .positionSizer,
    .exchangeFilters, .performance, .extendedReport, .diagnostics, .orderValidator]

/-- The modules of `compute_strategy_implementation_fingerprint`. -/
def strategyModules (candidate : BuildableCandidate) : List CodeModule :=
  [.family candidate.strategyModule, .movingAverages, .volatility, .strategyBase]

/-- The modules some fingerprint of the candidate reads. -/
def fingerprintedModules (candidate : BuildableCandidate) : List CodeModule :=
  strategyModules candidate ++ executionSemanticsModules

/-- What `_module_source_fingerprint` hashes. -/
def moduleSourceText (version : CodeVersion) (modules : List CodeModule) : String :=
  "\n".intercalate ((modules.insertionSort fun a b => a.name ≤ b.name).map fun m =>
    s!"### {m.name} ###\n{version m}")

/-- `relevant_config_snapshot`. -/
def relevantConfigSnapshot (config : AppConfig) : Json :=
  .object
    [("interval", .text config.market.interval),
      ("starting_equity", .number config.backtest.startingEquity),
      ("gap_policy", .text (match config.backtest.gapPolicy with
        | .reject => "reject"
        | .segment => "segment")),
      ("fees", .object
        [("taker_fee_pct", .number config.fees.takerFeePct),
          ("maker_fee_pct", .number config.fees.makerFeePct),
          ("slippage_pct", .number config.fees.slippagePct)]),
      ("sizing", .object
        [("max_allocation_pct", .number config.sizing.maxAllocationPct),
          ("min_quote_buffer", .number config.sizing.minQuoteBuffer)]),
      ("stop_loss", .object [("stop_distance_pct", .number config.stopLoss.stopDistancePct)]),
      ("risk", .object
        [("max_position_pct", .number config.risk.maxPositionPct),
          ("max_risk_per_trade_pct", .number config.risk.maxRiskPerTradePct),
          ("max_daily_loss_pct", .number config.risk.maxDailyLossPct),
          ("max_drawdown_pct", .number config.risk.maxDrawdownPct),
          ("max_trades_per_day", .integer config.risk.maxTradesPerDay),
          ("cooldown_bars_after_loss", .integer config.risk.cooldownBarsAfterLoss),
          ("stale_data_max_age_seconds", .integer config.risk.staleDataMaxAgeSeconds),
          ("min_quote_balance", .number config.risk.minQuoteBalance),
          ("max_consecutive_api_errors", .integer config.risk.maxConsecutiveApiErrors)])]

/-- `symbol_and_exchange_filters_snapshot`. -/
def symbolAndExchangeFiltersSnapshot (filters : SymbolFilters) : Json :=
  .object
    [("symbol", .text filters.symbol), ("tick_size", .decimal filters.tickSize),
      ("min_price", .decimal filters.minPrice), ("max_price", .decimal filters.maxPrice),
      ("step_size", .decimal filters.stepSize), ("min_qty", .decimal filters.minQty),
      ("max_qty", .decimal filters.maxQty), ("min_notional", .decimal filters.minNotional),
      ("max_notional", (filters.maxNotional.map Json.decimal).getD .null),
      ("apply_min_notional_to_market", .flag filters.applyMinNotionalToMarket)]

namespace Digests

variable (digests : Digests)

/-- `_module_source_fingerprint`. -/
def moduleSourceFingerprint (version : CodeVersion) (modules : List CodeModule) : String :=
  digests.sha256 (moduleSourceText version modules)

def strategyImplementationFingerprint (version : CodeVersion) (candidate : BuildableCandidate) :
    String :=
  digests.moduleSourceFingerprint version (strategyModules candidate)

def executionSemanticsFingerprint (version : CodeVersion) : String :=
  digests.moduleSourceFingerprint version executionSemanticsModules

def candidateRegistryFingerprint (candidate : BuildableCandidate) : String :=
  digests.sha256 (digests.stableJson (.object
    [("candidate_id", .text candidate.candidateId), ("family", .text candidate.family),
      ("params", .object (candidate.params.map fun p => (p.1, .number p.2)))]))

def configFingerprint (config : AppConfig) : String :=
  digests.sha256 (digests.stableJson (relevantConfigSnapshot config))

def exchangeFiltersFingerprint (filters : SymbolFilters) : String :=
  digests.sha256 (digests.stableJson (symbolAndExchangeFiltersSnapshot filters))

def scorecardResultFingerprint (entry : ScorecardEntry) : String :=
  let optional : Option ℚ → Json := fun q => (q.map Json.number).getD .null
  digests.sha256 (digests.stableJson (.object
    [("candidate_id", .text entry.candidateId), ("status", .text entry.status.value),
      ("criteria", .array (entry.criteria.map fun c => .object
        [("name", .text c.name), ("passed", .flag c.passed), ("detail", .text c.detail)])),
      ("reasons", .array (entry.reasons.map Json.text)),
      ("total_trade_count", .integer entry.totalTradeCount),
      ("blocks_with_a_trade", .integer entry.blocksWithATrade),
      ("block_count", .integer entry.blockCount),
      ("median_block_realized_return_pct", optional entry.medianBlockRealizedReturnPct),
      ("worst_block_realized_return_pct", optional entry.worstBlockRealizedReturnPct),
      ("aggregate_realized_pnl_quote", .decimal entry.aggregateRealizedPnlQuote),
      ("positive_realized_pnl_block_fraction", optional entry.positiveRealizedPnlBlockFraction),
      ("max_best_trade_contribution_pct", optional entry.maxBestTradeContributionPct),
      ("worst_block_max_drawdown_pct", optional entry.worstBlockMaxDrawdownPct)]))

end Digests

/-! ## Freezing and reloading -/

inductive DriftError where
  | notASurvivor (status : ScorecardStatus) (candidateId : String)
  | scorecardMismatch (candidateId entryId : String)
  | recordMismatch (candidateId recordId : String)
  | implementationDrift (candidateId : String) (candidateVersion : ℤ) (mismatches : List String)
  deriving DecidableEq, Repr

def DriftError.message : DriftError → String
  | .notASurvivor status candidateId =>
      s!"only a RESEARCH_SURVIVOR may be frozen, got {status.value} for '{candidateId}'"
  | .scorecardMismatch candidateId entryId =>
      s!"candidate '{candidateId}' does not match scorecard entry '{entryId}'"
  | .recordMismatch candidateId recordId =>
      s!"candidate '{candidateId}' does not match frozen record '{recordId}'"
  | .implementationDrift candidateId candidateVersion mismatches =>
      s!"frozen candidate '{candidateId}' (version {candidateVersion}) no longer " ++
        "matches the current: " ++ "; ".intercalate mismatches ++
        ". Loading it for a future paper test is " ++
        "REFUSED (fail-closed) - the frozen result was produced by a different implementation or " ++
        "configuration and cannot be trusted to describe the current one. Use " ++
        "`new_candidate_version_migration_id` to mint a new candidate version, re-run the full " ++
        "blocked chronological evaluation and scorecard under it, and freeze that instead - never " ++
        "force this record through unchanged."

/-- `freeze_candidate`, in a version of the code base. -/
def freezeCandidate (digests : Digests) (version : CodeVersion) (sourceCommitHash : Option String)
    (entry : ScorecardEntry) (frozenAtMs freezeBoundaryMs : ℤ) (candidate : BuildableCandidate)
    (config : AppConfig) (filters : SymbolFilters) (candidateVersion : ℤ) :
    Except DriftError FrozenCandidateRecord :=
  if entry.status ≠ .researchSurvivor then
    .error (.notASurvivor entry.status entry.candidateId)
  else if candidate.candidateId ≠ entry.candidateId then
    .error (.scorecardMismatch candidate.candidateId entry.candidateId)
  else
    .ok
      { candidateId := entry.candidateId
        family := entry.family
        params := entry.params.map fun p => (p.1, .number p.2)
        frozenAtMs := frozenAtMs
        freezeBoundaryMs := freezeBoundaryMs
        scorecardStatus := entry.status.value
        scorecardReasons := entry.reasons
        candidateVersion := candidateVersion
        researchCutoffMs := researchCutoffMs
        strategyImplementationFingerprint :=
          digests.strategyImplementationFingerprint version candidate
        executionSemanticsFingerprint := digests.executionSemanticsFingerprint version
        candidateRegistryFingerprint := digests.candidateRegistryFingerprint candidate
        configFingerprint := digests.configFingerprint config
        exchangeFiltersFingerprint := digests.exchangeFiltersFingerprint filters
        scorecardResultFingerprint := digests.scorecardResultFingerprint entry
        symbol := filters.symbol
        sourceCommitHash := sourceCommitHash }

/-- What is appended for a layer that does not match. -/
def unmatched (same : Bool) (text : String) : List String :=
  if same then [] else [text]

theorem unmatched_eq_nil_iff {same : Bool} {text : String} :
    unmatched same text = [] ↔ same = true := by
  cases same <;> simp [unmatched]

/-- What no longer matches the record, layer by layer. -/
def driftMismatches (digests : Digests) (version : CodeVersion) (record : FrozenCandidateRecord)
    (candidate : BuildableCandidate) (config : AppConfig) (filters : SymbolFilters) : List String :=
  unmatched (digests.strategyImplementationFingerprint version candidate =
      record.strategyImplementationFingerprint)
    "strategy implementation (candidate source code or a shared indicator module changed)" ++
  unmatched (digests.executionSemanticsFingerprint version = record.executionSemanticsFingerprint)
    ("execution semantics (backtest engine, broker, portfolio/accounting, risk engine, sizing, " ++
      "exchange-filter validation, order validation, or performance/PnL calculations changed)") ++
  unmatched (digests.candidateRegistryFingerprint candidate = record.candidateRegistryFingerprint)
    "candidate registry entry (declared id/family/params changed)" ++
  unmatched (digests.configFingerprint config = record.configFingerprint)
    "relevant configuration (interval/starting_equity/fees/sizing/stop_loss/risk changed)" ++
  unmatched (digests.exchangeFiltersFingerprint filters = record.exchangeFiltersFingerprint)
    "symbol/exchange-filter snapshot (exchange filters changed)"

/-- `assert_frozen_candidate_matches_current_implementation`, in a version of the code base. -/
def assertMatchesCurrentImplementation (digests : Digests) (version : CodeVersion)
    (record : FrozenCandidateRecord) (candidate : BuildableCandidate) (config : AppConfig)
    (filters : SymbolFilters) : Except DriftError Unit :=
  if candidate.candidateId ≠ record.candidateId then
    .error (.recordMismatch candidate.candidateId record.candidateId)
  else
    let mismatches := driftMismatches digests version record candidate config filters
    if mismatches = [] then .ok ()
    else .error (.implementationDrift record.candidateId record.candidateVersion mismatches)

/-! ## When a record is accepted -/

section Accepted

variable {digests : Digests} {version version' : CodeVersion} {candidate : BuildableCandidate}
  {config : AppConfig} {filters : SymbolFilters} {record : FrozenCandidateRecord}

/-- Both texts that are hashed are the same in two versions. -/
def SameSourceTexts (version version' : CodeVersion) (candidate : BuildableCandidate) : Prop :=
  moduleSourceText version (strategyModules candidate) =
      moduleSourceText version' (strategyModules candidate) ∧
    moduleSourceText version executionSemanticsModules =
      moduleSourceText version' executionSemanticsModules

theorem moduleSourceText_congr {modules : List CodeModule}
    (h : ∀ m ∈ modules, version m = version' m) :
    moduleSourceText version modules = moduleSourceText version' modules := by
  unfold moduleSourceText
  congr 1
  refine List.map_congr_left ?_
  intro m hm
  rw [h m ((List.mem_insertionSort _).1 hm)]

/-- Versions that agree on the fingerprinted modules have the same texts. -/
theorem sameSourceTexts_of_agree
    (h : ∀ m ∈ fingerprintedModules candidate, version m = version' m) :
    SameSourceTexts version version' candidate :=
  ⟨moduleSourceText_congr fun m hm => h m (List.mem_append_left _ hm),
    moduleSourceText_congr fun m hm => h m (List.mem_append_right _ hm)⟩

theorem driftMismatches_eq_nil_iff :
    driftMismatches digests version record candidate config filters = [] ↔
      digests.strategyImplementationFingerprint version candidate =
          record.strategyImplementationFingerprint ∧
        digests.executionSemanticsFingerprint version = record.executionSemanticsFingerprint ∧
        digests.candidateRegistryFingerprint candidate = record.candidateRegistryFingerprint ∧
        digests.configFingerprint config = record.configFingerprint ∧
        digests.exchangeFiltersFingerprint filters = record.exchangeFiltersFingerprint := by
  simp only [driftMismatches, List.append_eq_nil_iff, unmatched_eq_nil_iff, decide_eq_true_eq,
    and_assoc]

/-- A record is accepted exactly where its candidate and all five fingerprints are the current. -/
theorem assertMatches_eq_ok_iff :
    assertMatchesCurrentImplementation digests version record candidate config filters = .ok () ↔
      candidate.candidateId = record.candidateId ∧
        driftMismatches digests version record candidate config filters = [] := by
  unfold assertMatchesCurrentImplementation
  by_cases hid : candidate.candidateId = record.candidateId
  · simp [hid]
  · simp [hid]

/-- Between two versions only the source texts decide, where no two texts hash to the same. -/
theorem accepted_iff_sameSourceTexts (hcollisionFree : Function.Injective digests.sha256)
    {sourceCommitHash : Option String} {entry : ScorecardEntry} {frozenAtMs freezeBoundaryMs : ℤ}
    {candidateVersion : ℤ}
    (hfrozen : freezeCandidate digests version sourceCommitHash entry frozenAtMs freezeBoundaryMs
      candidate config filters candidateVersion = .ok record) :
    assertMatchesCurrentImplementation digests version' record candidate config filters = .ok () ↔
      SameSourceTexts version version' candidate := by
  unfold freezeCandidate at hfrozen
  split at hfrozen
  · cases hfrozen
  split at hfrozen
  · cases hfrozen
  rename_i hid
  cases hfrozen
  rw [assertMatches_eq_ok_iff, driftMismatches_eq_nil_iff]
  simp only [not_ne_iff.1 hid, Digests.strategyImplementationFingerprint,
    Digests.executionSemanticsFingerprint, Digests.moduleSourceFingerprint,
    hcollisionFree.eq_iff, and_true, true_and]
  exact and_congr eq_comm eq_comm

end Accepted

end TradingAgent
