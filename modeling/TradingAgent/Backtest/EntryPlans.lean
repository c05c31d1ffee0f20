import TradingAgent.Backtest.Episodes

/-!
# Entry plans — the figures of each entry beside the trade it becomes

The diagnostics record the figures of a plan when its entry fills; the trade is recorded when the
position closes, by another function and under other conditions.  Both lists are in the order of
the entries, so an index means the same entry in each of them.

* `TradeStep` is what one stage of a candle does to the trades and the figures together;
* `EntryPlans` ties the figures and the trades to one list of entries, and every candle keeps it;
* `traceSegment_entryPlans` reads it off at the end of a run.
-/

namespace TradingAgent

/-! ## The figures of the plans -/

/-- What the diagnostics keep of the plans of the filled entries. -/
structure PlanFigures where
  executedEntries : ℕ
  entriesApproved : ℕ
  plannedRiskQuote : List ℚ
  plannedRewardQuote : List ℚ
  netRewardToRisk : List ℚ
  deriving DecidableEq

def DiagBuilder.planFigures (diag : DiagBuilder) : PlanFigures :=
  ⟨diag.executedEntries, diag.rrEntriesApproved, diag.rrPlannedRiskQuoteValues,
    diag.rrPlannedRewardQuoteValues, diag.rrNetRewardToRiskValues⟩

/-- The figures are those of these plans, one of each kind for each plan. -/
structure PlanFigures.Of (figures : PlanFigures) (plans : List RiskRewardPlan) : Prop where
  executed : figures.executedEntries = plans.length
  approved : figures.entriesApproved = plans.length
  risk : figures.plannedRiskQuote.map some = plans.map RiskRewardPlan.plannedRiskQuote
  reward : figures.plannedRewardQuote.map some = plans.map RiskRewardPlan.plannedRewardQuote
  net : figures.netRewardToRisk.map some = plans.map RiskRewardPlan.netRewardToRisk

theorem PlanFigures.of_nil : (DiagBuilder.planFigures {}).Of [] := by
  constructor <;> rfl

/-- A list of figures that holds one for each plan holds it at the index of the plan. -/
theorem getElem?_of_map_some {values : List ℚ} {figures : List (Option ℚ)}
    (h : values.map some = figures) {i : ℕ} {figure : Option ℚ} (hi : figures[i]? = some figure) :
    values[i]? = figure := by
  rw [← h, List.getElem?_map, Option.map_eq_some_iff] at hi
  rcases hi with ⟨value, hvalue, rfl⟩
  exact hvalue

section Figures

variable {env : RunEnv} {candle : Candle} {v v' : LoopVars} {diag : DiagBuilder}

/-- The figures `EntryFigures` leaves out. -/
def DiagBuilder.rewards (diag : DiagBuilder) : ℕ × List ℚ :=
  (diag.rrEntriesApproved, diag.rrPlannedRewardQuoteValues)

theorem DiagBuilder.planFigures_eq {diag' : DiagBuilder}
    (hfigures : diag'.entryFigures = diag.entryFigures) (hrewards : diag'.rewards = diag.rewards) :
    diag'.planFigures = diag.planFigures := by
  simp only [entryFigures, EntryFigures.mk.injEq] at hfigures
  simp only [rewards, Prod.mk.injEq] at hrewards
  simp only [planFigures, hfigures, hrewards]

theorem rewards_recordSizingRejection (signalType : ActionableSignal) (code : ReasonCode)
    (plan : Option RiskRewardPlan) (diag : DiagBuilder) :
    (recordSizingRejection signalType code plan diag).rewards = diag.rewards := by
  cases signalType with
  | exit => rfl
  | buy =>
      cases plan with
      | none => rfl
      | some plan =>
          simp only [recordSizingRejection]
          split
          · rfl
          · split <;> rfl

@[simp] theorem rewards_recordSignal (signalType : SignalType) (diag : DiagBuilder) :
    (recordSignal signalType diag).rewards = diag.rewards := by
  cases signalType <;> rfl

theorem rewards_recordExit (timeMs : ℤ) (q : ℚ) (fill : SimulatedFill) (reason : ExitReason)
    (ref : ℚ) (portfolio : PortfolioState) :
    (recordExit env timeMs q fill reason ref portfolio v).diag.rewards = v.diag.rewards := by
  cases hopen : v.state.openTrade with
  | none => simp only [recordExit, hopen]
  | some o =>
      simp only [recordExit, hopen]
      split <;> rfl

/-- An exit records no figure. -/
theorem planFigures_recordExit (timeMs : ℤ) (q : ℚ) (fill : SimulatedFill) (reason : ExitReason)
    (ref : ℚ) (portfolio : PortfolioState) :
    (recordExit env timeMs q fill reason ref portfolio v).diag.planFigures = v.diag.planFigures :=
  DiagBuilder.planFigures_eq recordExit_entryFigures (rewards_recordExit _ _ _ _ _ _)

/-- A stage that leaves the rewards alone, or counts one more entry. -/
def RewardsWithEntries (v v' : LoopVars) : Prop :=
  v'.diag.rewards = v.diag.rewards ∨ v'.diag.executedEntries = v.diag.executedEntries + 1

theorem openPosition_rewards {q : ℚ} {fill : SimulatedFill} {plan : Option RiskRewardPlan}
    (h : openPosition env candle q fill plan v = .ok v') : RewardsWithEntries v v' := by
  rw [openPosition_eq_map] at h
  cases hbuy : env.imports.applyBuy v.state.portfolio q fill.fillPrice fill.feeQuote with
  | error e =>
      rw [hbuy] at h
      cases h
  | ok portfolio =>
      rw [hbuy] at h
      cases h
      right
      cases plan <;> rfl

theorem fillBuy_rewards {q equity : ℚ} {plan : Option RiskRewardPlan}
    (h : fillBuy env candle q equity plan v = .ok v') : RewardsWithEntries v v' := by
  unfold fillBuy at h
  cases hrealize : realizePlan env plan q
      (env.imports.simulateBuy env.broker q candle.open).fillPrice equity with
  | error e =>
      simp [hrealize, bind, Except.bind] at h
  | ok realizedPlan =>
      simp only [hrealize, bind, Except.bind] at h
      cases realizedPlan with
      | none => exact openPosition_rewards h
      | some realized =>
          by_cases happroved : realized.approved = true
          · simp only [happroved, if_true] at h
            exact openPosition_rewards h
          · simp only [happroved] at h
            cases h
            exact Or.inl rfl

theorem fillExit_rewards {q : ℚ} (h : fillExit env candle q v = .ok v') :
    RewardsWithEntries v v' := by
  rcases applyExitFill_eq_ok h with ⟨portfolio, -, rfl⟩
  exact Or.inl (rewards_recordExit _ _ _ _ _ _)

/-- Whatever becomes of a sized signal, the rewards change only where an entry is counted. -/
theorem submitSized_rewards {signalType : ActionableSignal} {equity q : ℚ}
    {plan : Option RiskRewardPlan}
    (h : submitSized env signalType candle equity q plan v = .ok v') :
    RewardsWithEntries v v' := by
  simp only [submitSized] at h
  split at h
  · cases h
    cases signalType <;> exact Or.inl rfl
  · rcases exists_of_bind_ok h with ⟨validation, -, h⟩
    split at h
    · cases signalType with
      | buy => exact (fillBuy_rewards h :)
      | exit => exact (fillExit_rewards h :)
    · cases h
      cases signalType <;> exact Or.inl rfl

theorem resolvePendingSignal_rewards {signalType : ActionableSignal}
    (h : resolvePendingSignal env signalType candle v = .ok v') : RewardsWithEntries v v' := by
  simp only [resolvePendingSignal, bind, Except.bind] at h
  split at h
  · cases h
  · split at h
    · exact (submitSized_rewards h :)
    · cases h
      exact Or.inl (rewards_recordSizingRejection _ _ _ _)

end Figures

/-! ## Entries and their plans -/

/-- The candle filled `o` under `plan`: the entry was planned with this equity, and the plan was
built again from the fill itself. -/
structure FilledUnder (env : RunEnv) (candle : Candle) (equity : ℚ) (o : OpenTrade)
    (plan : RiskRewardPlan) : Prop where
  timeMs : o.entryTimeMs = candle.openTimeMs
  openPos : 0 < candle.open
  price : o.entryPrice = entryPrice env candle
  quantityPos : 0 < o.quantity
  stored : o.realizedPlan = some plan
  approved : plan.approved = true
  realized : ∃ quoteBalance planned,
    planRiskRewardEntry equity quoteBalance candle.open env.config.stopLoss.stopDistancePct
        env.config.fees.takerFeePct env.config.fees.slippagePct env.filters = .ok planned ∧
      planned.approved = true ∧ planned.quantity = some o.quantity ∧
      planned.reasonCode = .rrApproved ∧
      buildRealizedPlan planned o.entryPrice env.config.stopLoss.stopDistancePct
        env.config.fees.takerFeePct env.config.fees.slippagePct equity env.filters = .ok plan

/-- An entry of a run: the trade it opened, the plan it was filled under, and the position of its
candle. -/
structure RunEntry where
  opened : OpenTrade
  plan : RiskRewardPlan
  index : ℕ

/-- The candle of `tr` found no position and opened the entry. -/
structure RunEntry.OpenedOn (env : RunEnv) (tr : CandleTrace) (e : RunEntry) : Prop where
  flat : tr.atOpen.state.openTrade = none
  held : tr.filled.state.openTrade = some e.opened
  filled : FilledUnder env tr.candle tr.equityAtOpen e.opened e.plan

/-- `t` is the entry's trade, closed on the candle of `tr`. -/
structure RunEntry.ClosedOn (tr : CandleTrace) (e : RunEntry) (t : Trade) : Prop where
  held : tr.atOpen.state.openTrade = some e.opened ∨ tr.filled.state.openTrade = some e.opened
  gone : tr.guarded.state.openTrade = none
  exitTimeMs : t.exitTimeMs = tr.candle.openTimeMs
  entry : t.entryTimeMs = e.opened.entryTimeMs ∧ t.entryPrice = e.opened.entryPrice ∧
    t.quantity = e.opened.quantity ∧ t.entryFeeQuote = e.opened.entryFee ∧
    t.entryReferencePrice = e.opened.entryReferencePrice

/-- The figures after one more entry under `plan`. -/
def PlanFigures.record (figures : PlanFigures) (plan : RiskRewardPlan) : PlanFigures where
  executedEntries := figures.executedEntries + 1
  entriesApproved := figures.entriesApproved + 1
  plannedRiskQuote := figures.plannedRiskQuote ++ plan.plannedRiskQuote.toList
  plannedRewardQuote := figures.plannedRewardQuote ++ plan.plannedRewardQuote.toList
  netRewardToRisk := figures.netRewardToRisk ++ plan.netRewardToRisk.toList

/-- An approved plan leaves a figure in every list: none of its guards is skipped. -/
theorem FilledUnder.figures {env : RunEnv} {candle : Candle} {equity : ℚ} {o : OpenTrade}
    {plan : RiskRewardPlan} (h : FilledUnder env candle equity o plan) :
    plan.Realized o.entryPrice env.config.stopLoss.stopDistancePct := by
  rcases h.realized with ⟨-, planned, -, -, hquantity, -, hbuilt⟩
  exact buildRealizedPlan_approved hbuilt hquantity h.quantityPos h.approved

theorem map_some_append_toList {values : List ℚ} {figures : List (Option ℚ)} {figure : Option ℚ}
    (h : values.map some = figures) (hsome : figure.isSome = true) :
    (values ++ figure.toList).map some = figures ++ [figure] := by
  rcases Option.isSome_iff_exists.1 hsome with ⟨value, rfl⟩
  simp [h]

theorem PlanFigures.Of.record {figures : PlanFigures} {plans : List RiskRewardPlan}
    {plan : RiskRewardPlan} {fill d : ℚ} (h : figures.Of plans) (hplan : plan.Realized fill d) :
    (figures.record plan).Of (plans ++ [plan]) := by
  constructor
  case executed => simp [PlanFigures.record, h.executed]
  case approved => simp [PlanFigures.record, h.approved]
  case risk => simpa [PlanFigures.record] using map_some_append_toList h.risk hplan.risk
  case reward => simpa [PlanFigures.record] using map_some_append_toList h.reward hplan.reward
  case net => simpa [PlanFigures.record] using map_some_append_toList h.net hplan.net

/-! ## One stage of a candle -/

/-- What a stage of a candle did to the trades and to the figures: nothing, an entry, or an exit. -/
inductive TradeStep (env : RunEnv) (candle : Candle) (equity : ℚ) (v v' : LoopVars) : Prop
  | stays (trades : v'.trades = v.trades) (opened : v'.state.openTrade = v.state.openTrade)
      (figures : v'.diag.planFigures = v.diag.planFigures)
  | enters (o : OpenTrade) (plan : RiskRewardPlan) (flat : v.state.openTrade = none)
      (held : v'.state.openTrade = some o) (trades : v'.trades = v.trades)
      (filled : FilledUnder env candle equity o plan)
      (figures : v'.diag.planFigures = v.diag.planFigures.record plan)
  | exits (o : OpenTrade) (quantity realized ref : ℚ) (fill : SimulatedFill) (reason : ExitReason)
      (held : v.state.openTrade = some o) (gone : v'.state.openTrade = none)
      (trades : v'.trades = v.trades ++
        [closedTrade o candle.openTimeMs quantity fill realized reason ref])
      (whole : quantity = o.quantity) (figures : v'.diag.planFigures = v.diag.planFigures)

section Stages

variable {env : RunEnv} {candle : Candle} {S : ℚ} {v v' : LoopVars}

/-- The plan of a sized BUY is the planner's. -/
theorem sizePendingSignal_planned (henv : env.Standard)
    (hpolicy : env.useFixedRiskRewardPolicy = true) {price equity : ℚ} {p : PortfolioState}
    {sizing : SizingDecision} {plan : Option RiskRewardPlan}
    (h : sizePendingSignal env .buy price equity p = .ok (sizing, plan)) :
    ∃ planned, plan = some planned ∧
      planRiskRewardEntry equity p.quoteBalance price env.config.stopLoss.stopDistancePct
        env.config.fees.takerFeePct env.config.fees.slippagePct env.filters = .ok planned := by
  simp only [sizePendingSignal, henv.imports, EngineImports.current, hpolicy, if_true, bind,
    Except.bind] at h
  split at h
  · cases h
  · rename_i planned hplanned
    cases h
    exact ⟨planned, rfl, hplanned⟩

/-- The plan an entry under the policy is filled under. -/
theorem EntryFill.filledUnder (henv : env.Standard) (hpolicy : env.useFixedRiskRewardPolicy = true)
    (e : EntryFill env candle v) :
    ∃ plan, FilledUnder env candle (v.equityAtOpen candle) e.openTrade plan := by
  have hfacts := e.facts henv
  rcases e.sized with ⟨code, hsized⟩
  rcases sizePendingSignal_planned henv hpolicy hsized with ⟨planned, hplan, hplanned⟩
  rcases sizePendingSignal_policy henv hpolicy hsized with
    ⟨planned', raw, target, hplan', happroved, hquantity, -, hassessed⟩
  have hsame : planned' = planned := Option.some.inj (hplan'.symm.trans hplan)
  subst hsame
  have hprice : e.openTrade.entryPrice = entryPrice env candle :=
    congrArg SimulatedFill.fillPrice (simulateBuy_standard henv e.quantity)
  have hrealized := e.realized
  rw [simulateBuy_standard henv] at hrealized
  simp only [realizePlan, hpolicy, hplan, hquantity, hfacts.quantityEq, if_true, henv.imports,
    EngineImports.current, bind, Except.bind] at hrealized
  cases hbuild : buildRealizedPlan planned' (entryPrice env candle)
      env.config.stopLoss.stopDistancePct env.config.fees.takerFeePct env.config.fees.slippagePct
      (v.equityAtOpen candle) env.filters with
  | error err =>
      simp [hbuild] at hrealized
  | ok plan =>
      have hsome : e.realizedPlan = some plan := by simpa [hbuild] using hrealized.symm
      -- the sizer's reason code says it approved the plan
      have hreason : planned'.reasonCode = .rrApproved := by
        rw [hassessed] at happroved ⊢
        exact if_pos happroved
      refine ⟨plan, rfl, hfacts.pricePos, hprice, hfacts.quantityPos, hsome,
        e.approved plan hsome, _, planned', hplanned, happroved, ?_, hreason,
        by rw [hprice, hbuild]⟩
      rw [hquantity, ← hfacts.quantityEq]
      rfl

theorem EntryFill.tradeStep (henv : env.Standard) (hpolicy : env.useFixedRiskRewardPolicy = true)
    (hkept : LoopInvariant env S v) (e : EntryFill env candle v) :
    TradeStep env candle (v.equityAtOpen candle) v e.result := by
  rcases e.filledUnder henv hpolicy with ⟨plan, hfilled⟩
  have hsome : e.realizedPlan = some plan := hfilled.stored
  rcases applyBuy_eq_ok (e.applied henv) with ⟨hflat, -, -⟩
  refine .enters e.openTrade plan (hkept.openTrade_of_flat hflat).1 e.result_openTrade rfl hfilled ?_
  unfold EntryFill.result EntryAttempt.leaves recordEntry
  rw [hsome]
  rfl

/-- An exit closes the whole open trade and records nothing for it a second time. -/
theorem recordExit_tradeStep {o : OpenTrade} (ho : v.state.openTrade = some o) {quantity : ℚ}
    (hwhole : quantity = o.quantity) (fill : SimulatedFill) (reason : ExitReason) (ref equity : ℚ)
    (portfolio : PortfolioState) :
    TradeStep env candle equity v
      (recordExit env candle.openTimeMs quantity fill reason ref portfolio v) := by
  refine .exits o quantity (portfolio.realizedPnlQuote - v.state.portfolio.realizedPnlQuote) ref fill
    reason ho rfl ?_ hwhole (planFigures_recordExit _ _ _ _ _ _)
  simp only [recordExit, ho, decimal_exact, DecimalContext.exact_sub]

/-- A stage's step reads the trades, the open trade and the figures only. -/
theorem TradeStep.congr {equity : ℚ} (h : TradeStep env candle equity v v') {u u' : LoopVars}
    (htrades : u.trades = v.trades) (hopen : u.state.openTrade = v.state.openTrade)
    (hfigures : u.diag.planFigures = v.diag.planFigures) (htrades' : u'.trades = v'.trades)
    (hopen' : u'.state.openTrade = v'.state.openTrade)
    (hfigures' : u'.diag.planFigures = v'.diag.planFigures) : TradeStep env candle equity u u' := by
  cases h with
  | stays trades opened figures =>
      exact .stays (by rw [htrades', htrades, trades]) (by rw [hopen', hopen, opened])
        (by rw [hfigures', hfigures, figures])
  | enters o plan flat held trades filled figures =>
      exact .enters o plan (by rw [hopen, flat]) (by rw [hopen', held])
        (by rw [htrades', htrades, trades]) filled (by rw [hfigures', hfigures, figures])
  | exits o quantity realized ref fill reason held gone trades whole figures =>
      exact .exits o quantity realized ref fill reason (by rw [hopen, held]) (by rw [hopen', gone])
        (by rw [htrades', htrades, trades]) whole (by rw [hfigures', hfigures, figures])

/-- Filling the pending signal is one step. -/
theorem fillPending_tradeStep (henv : env.Standard) (hpolicy : env.useFixedRiskRewardPolicy = true)
    (hkept : LoopInvariant env S v) (h : fillPending env candle v = .ok v') :
    TradeStep env candle (v.equityAtOpen candle) v v' := by
  rcases fillPending_cases h with ⟨-, rfl⟩ | ⟨signalType, m, -, hres, rfl⟩
  · exact .stays rfl rfl rfl
  · rcases resolvePendingSignal_cases hres with
      ⟨rows, diag, -, hdiag, rfl⟩ | ⟨-, e, rfl⟩ | ⟨-, e, rfl⟩
    · -- no entry is counted, so the rewards stay as they were
      have hrewards : diag.rewards = v.diag.rewards := by
        rcases resolvePendingSignal_rewards hres with hsame | hcounted
        · exact hsame
        · have hexecuted := congrArg EntryFigures.executedEntries hdiag
          exact absurd (hexecuted.symm.trans hcounted) (Nat.succ_ne_self _).symm
      exact .stays rfl rfl (DiagBuilder.planFigures_eq hdiag hrewards)
    · exact (e.tradeStep henv hpolicy hkept).congr rfl rfl rfl rfl rfl rfl
    · rcases hkept.holding_of_exitFill henv e with ⟨o, ho, hold⟩
      have hwhole : e.quantity = o.quantity := (e.quantity_of_holding henv hold).trans hold.base
      exact (recordExit_tradeStep (v := v.decided candle e.rows) ho hwhole _ _ _ _ _).congr
        rfl rfl rfl rfl rfl rfl

end Stages

/-! ## A whole run -/

/-- The trades and the figures of a run, by its entries: the first ones are those of the closed
trades, in order, and one more is there exactly while a position is open. -/
structure EntryPlans (env : RunEnv) (hist : List CandleTrace) (es : List RunEntry) (v : LoopVars) :
    Prop where
  figures : v.diag.planFigures.Of (es.map RunEntry.plan)
  opens : ∀ e ∈ es, ∃ tr, hist[e.index]? = some tr ∧ e.OpenedOn env tr
  closes : ∀ (i : ℕ) t, v.trades[i]? = some t → ∃ e j tr, es[i]? = some e ∧ e.index ≤ j ∧
    hist[j]? = some tr ∧ e.ClosedOn tr t
  rest : (es.drop v.trades.length).map RunEntry.opened = v.state.openTrade.toList

section EntryPlans

variable {env : RunEnv} {hist : List CandleTrace} {tr : CandleTrace} {es : List RunEntry}
  {v v' : LoopVars}

namespace EntryPlans

theorem initial (S firstClose : ℚ) (journal : Journal) :
    EntryPlans env [] [] (initialVars S firstClose journal) := by
  constructor
  case figures => exact PlanFigures.of_nil
  case opens => simp
  case closes => simp [initialVars]
  case rest => rfl

theorem congr (h : EntryPlans env hist es v) (htrades : v'.trades = v.trades)
    (hopen : v'.state.openTrade = v.state.openTrade)
    (hfigures : v'.diag.planFigures = v.diag.planFigures) : EntryPlans env hist es v' := by
  constructor
  case figures => exact hfigures ▸ h.figures
  case opens => exact h.opens
  case closes => exact htrades ▸ h.closes
  case rest => rw [htrades, hopen, h.rest]

theorem grow (h : EntryPlans env hist es v) (tr : CandleTrace) :
    EntryPlans env (hist ++ [tr]) es v := by
  constructor
  case figures => exact h.figures
  case rest => exact h.rest
  case opens =>
      intro e he
      rcases h.opens e he with ⟨old, hold, hopened⟩
      exact ⟨old, getElem?_grow hold tr, hopened⟩
  case closes =>
      intro i t ht
      rcases h.closes i t ht with ⟨e, j, old, he, hle, hold, hclosed⟩
      exact ⟨e, j, old, he, hle, getElem?_grow hold tr, hclosed⟩

/-- No trade was closed without an entry. -/
theorem trades_le (h : EntryPlans env hist es v) : v.trades.length ≤ es.length := by
  cases hlast : v.trades.getLast? with
  | none => simp [List.getLast?_eq_none_iff.1 hlast]
  | some t =>
      rw [List.getLast?_eq_getElem?] at hlast
      rcases h.closes _ t hlast with ⟨e, -, -, he, -⟩
      have hlt := (List.getElem?_eq_some_iff.1 he).1
      omega

theorem length_eq (h : EntryPlans env hist es v) :
    es.length = v.trades.length + v.state.openTrade.toList.length := by
  have hdrop := congrArg List.length h.rest
  simp only [List.length_map, List.length_drop] at hdrop
  have hle := h.trades_le
  omega

/-- The entry of the position that is open now. -/
theorem opened (h : EntryPlans env hist es v) {o : OpenTrade} (ho : v.state.openTrade = some o) :
    ∃ e, es[v.trades.length]? = some e ∧ e.opened = o := by
  have hhead := congrArg List.head? h.rest
  rw [ho, List.head?_map, List.head?_drop] at hhead
  exact Option.map_eq_some_iff.1 hhead

/-- An entry found nothing open, so it is the one after those of the closed trades. -/
theorem enters (h : EntryPlans env (hist ++ [tr]) es v) {o : OpenTrade} {plan : RiskRewardPlan}
    (hnone : v.state.openTrade = none) (hopened : RunEntry.OpenedOn env tr ⟨o, plan, hist.length⟩)
    (htrades : v'.trades = v.trades) (hheld : v'.state.openTrade = some o)
    (hfigures : v'.diag.planFigures = v.diag.planFigures.record plan) :
    EntryPlans env (hist ++ [tr]) (es ++ [⟨o, plan, hist.length⟩]) v' := by
  have hlen : es.length = v.trades.length := by simpa [hnone] using h.length_eq
  constructor
  case figures =>
      rw [hfigures, List.map_append]
      exact h.figures.record hopened.filled.figures
  case opens =>
      intro e he
      rcases List.mem_append.1 he with hold | hnew
      · exact h.opens e hold
      · rw [List.mem_singleton] at hnew
        subst hnew
        exact ⟨tr, by simp, hopened⟩
  case closes =>
      intro i t ht
      rw [htrades] at ht
      rcases h.closes i t ht with ⟨e, j, old, he, hle, hold, hclosed⟩
      have hlt := (List.getElem?_eq_some_iff.1 he).1
      exact ⟨e, j, old, by rw [List.getElem?_append_left hlt, he], hle, hold, hclosed⟩
  case rest =>
      rw [htrades, hheld, List.drop_append_of_le_length hlen.ge, ← hlen]
      simp

/-- An exit closes the entry after those of the closed trades. -/
theorem exits (h : EntryPlans env (hist ++ [tr]) es v) {o : OpenTrade} {t : Trade}
    (ho : v.state.openTrade = some o) (hgone : v'.state.openTrade = none)
    (hclosed : ∀ e : RunEntry, e.opened = o → e.ClosedOn tr t)
    (htrades : v'.trades = v.trades ++ [t])
    (hfigures : v'.diag.planFigures = v.diag.planFigures) :
    EntryPlans env (hist ++ [tr]) es v' := by
  rcases h.opened ho with ⟨e, he, heo⟩
  have hlen := h.length_eq
  constructor
  case figures => exact hfigures ▸ h.figures
  case opens => exact h.opens
  case closes =>
      intro i t' ht'
      rw [htrades] at ht'
      rcases Nat.lt_trichotomy i v.trades.length with hlt | rfl | hgt
      · rw [List.getElem?_append_left hlt] at ht'
        exact h.closes i t' ht'
      · have hsame : t' = t := by simpa using ht'.symm
        subst hsame
        rcases h.opens e (List.mem_of_getElem? he) with ⟨entry, hentry, -⟩
        have hindex : e.index ≤ hist.length := by
          have hlt := (List.getElem?_eq_some_iff.1 hentry).1
          simpa [Nat.lt_succ_iff] using hlt
        exact ⟨e, hist.length, tr, he, hindex, by simp, hclosed e heo⟩
      · rw [List.getElem?_eq_none (by simp; omega)] at ht'
        cases ht'
  case rest =>
      rw [ho] at hlen
      rw [htrades, hgone, List.drop_eq_nil_of_le (by simp at hlen ⊢; omega)]
      rfl

end EntryPlans

/-- The protective check leaves the open trade or removes it. -/
theorem protectiveExit_openTrade {candle : Candle} (h : protectiveExit env candle v = .ok v') :
    v'.state.openTrade = v.state.openTrade ∨ v'.state.openTrade = none := by
  rcases protectiveExit_cases h with rfl | ⟨e, rfl⟩
  · exact Or.inl rfl
  · exact Or.inr rfl

/-- The trade an exit closes, on the candle of `tr`, is the one the entry opened. -/
theorem RunEntry.closedOn {e : RunEntry} {o : OpenTrade} (heo : e.opened = o)
    (hheld : tr.atOpen.state.openTrade = some o ∨ tr.filled.state.openTrade = some o)
    (hgone : tr.guarded.state.openTrade = none) {quantity : ℚ} (hwhole : quantity = o.quantity)
    (fill : SimulatedFill) (realized : ℚ) (reason : ExitReason) (ref : ℚ) :
    e.ClosedOn tr (closedTrade o tr.candle.openTimeMs quantity fill realized reason ref) := by
  subst heo
  exact ⟨hheld, hgone, rfl, rfl, rfl, hwhole, rfl, rfl⟩

/-- Filling the pending signal keeps the correspondence, with at most one entry more. -/
theorem EntryPlans.fillPending {S : ℚ} (henv : env.Standard)
    (hpolicy : env.useFixedRiskRewardPolicy = true) {seen : List Candle} (htr : tr.Valid env seen)
    (hkept : LoopInvariant env S tr.atOpen) (h : EntryPlans env (hist ++ [tr]) es tr.atOpen) :
    ∃ es', EntryPlans env (hist ++ [tr]) es' tr.filled := by
  have hequity : tr.atOpen.equityAtOpen tr.candle = tr.equityAtOpen := by
    rw [LoopVars.equityAtOpen, htr.atOpen_eq, rollDay_portfolio, CandleTrace.equityAtOpen]
  cases fillPending_tradeStep henv hpolicy hkept htr.fills with
  | stays htrades hopen hfigures => exact ⟨es, h.congr htrades hopen hfigures⟩
  | enters o plan hflat hheld htrades hfilled hfigures =>
      rw [hequity] at hfilled
      exact ⟨_, h.enters hflat ⟨hflat, hheld, hfilled⟩ htrades hheld hfigures⟩
  | exits o quantity realized ref fill reason hheld hgone htrades hwhole hfigures =>
      -- nothing is open any more when the protective check comes
      have hguarded : tr.guarded.state.openTrade = none := by
        rcases protectiveExit_openTrade htr.protects with hsame | hnone
        · rw [hsame, hgone]
        · exact hnone
      exact ⟨es, h.exits hheld hgone (fun e heo =>
        RunEntry.closedOn heo (Or.inl hheld) hguarded hwhole fill realized reason ref) htrades
          hfigures⟩

/-- The protective check keeps it without any new entry. -/
theorem EntryPlans.protectiveExit {S : ℚ} {seen : List Candle} (htr : tr.Valid env seen)
    (hkept : LoopInvariant env S tr.filled) (h : EntryPlans env (hist ++ [tr]) es tr.filled) :
    EntryPlans env (hist ++ [tr]) es tr.guarded := by
  rcases protectiveExit_cases htr.protects with hsame | ⟨e, hresult⟩
  · exact hsame ▸ h
  · rcases hkept.holding_of_long e.long with ⟨o, ho, hold⟩
    have hgone : tr.guarded.state.openTrade = none := by
      rw [hresult]
      rfl
    have hclosed : ∀ e' : RunEntry, e'.opened = o → e'.ClosedOn tr (e.trade o) := fun e' heo =>
      RunEntry.closedOn heo (Or.inr ho) hgone hold.base _ _ _ _
    refine h.exits ho hgone hclosed ?_ ?_
    · rw [hresult, e.result_trades ho]
    · rw [hresult]
      simp only [ProtectiveFill.result, planFigures_recordExit]

/-- Every run under the policy has its entries. -/
theorem traceSegment_entryPlans (henv : env.Standard)
    (hpolicy : env.useFixedRiskRewardPolicy = true) {segment : List Candle} {S : ℚ}
    {journal : Journal} {traces : List CandleTrace}
    (h : traceSegment env segment S journal = .ok (traces, v)) :
    LoopInvariant env S v ∧ ∃ es, EntryPlans env traces es v := by
  refine (traceSegment_induct (fun hist u => LoopInvariant env S u ∧
    ∃ es, EntryPlans env hist es u) h ?_ ?_).1
  · intro first _
    exact ⟨.initial S first.close journal, [], .initial S first.close journal⟩
  · rintro hist seen tr rest htr ⟨hbefore, es, hes⟩ _
    have hkept := htr.kept henv hbefore
    refine ⟨hkept.closed, ?_⟩
    -- the roll of the day and the mark record no trade and no figure
    have hopen : EntryPlans env (hist ++ [tr]) es tr.atOpen := by
      refine (hes.grow tr).congr ?_ ?_ ?_ <;> rw [htr.atOpen_eq]
      · exact rollDay_trades
      · exact rollDay_openTrade
      · rw [rollDay_diag]
    rcases hopen.fillPending henv hpolicy htr hkept.atOpen with ⟨es', hfilled⟩
    rcases htr.marks with ⟨signal, -, hclosed⟩
    refine ⟨es', (hfilled.protectiveExit htr hkept.filled).congr ?_ ?_ ?_⟩ <;> rw [hclosed]
    · rfl
    · rfl
    · exact DiagBuilder.planFigures_eq (DiagBuilder.entryFigures_recordSignal _ _)
        (rewards_recordSignal _ _)

end EntryPlans

end TradingAgent
