import TradingAgent.Backtest.Gates
import TradingAgent.Library.Tally

/-!
# Rejections — every BUY signal is accounted for

The diagnostics count rejected entries by reason, keep the first and the last activation of each
risk gate, and count post-fill refusals apart; the journal keeps one row for each decision.  All of
it is a function of one list, the BUYs that were turned down, in order.

* `RejectionFigures.of` is what the diagnostics show of such a list;
* `Resolves` says what the resolution of a pending signal adds to it;
* `Ledger` ties the list to the loop's variables, and every candle keeps it.
-/

namespace TradingAgent

/-! ## Rejected entries -/

/-- The checks a BUY can fail, in the order the engine makes them. -/
inductive RejectionStage where
  | sizing
  | riskGate
  | validation
  | postFill
  deriving DecidableEq, Repr

/-- The row a failed check leaves; a post-fill refusal leaves none. -/
def RejectionStage.entryType? : RejectionStage → Option EntryType
  | .sizing => some .sizing
  | .riskGate => some .riskDecision
  | .validation => some .orderValidation
  | .postFill => none

/-- A BUY that was turned down, with the equity and the drawdown it was decided at. -/
structure RejectedEntry where
  stage : RejectionStage
  code : ReasonCode
  timeMs : ℤ
  equity : ℚ
  drawdown : ℚ
  deriving DecidableEq, Repr

def RejectedEntry.row? (e : RejectedEntry) : Option JournalEntry :=
  e.stage.entryType?.map fun entryType => ⟨e.timeMs, entryType, decisionPayload .buy false e.code⟩

/-- Whether a journal row says that a BUY was turned down. -/
def JournalEntry.refusesBuy (row : JournalEntry) : Bool :=
  row.entryType ∈ [EntryType.sizing, .riskDecision, .orderValidation] &&
    row.payload.take 2 = [("signal_type", .text "buy"), ("approved", .flag false)]

theorem decisionPayload_refuses {timeMs : ℤ} {entryType : EntryType}
    (htype : entryType ∈ [EntryType.sizing, .riskDecision, .orderValidation])
    (signalType : ActionableSignal) (approved : Bool) (code : ReasonCode) :
    JournalEntry.refusesBuy ⟨timeMs, entryType, decisionPayload signalType approved code⟩ =
      (signalType = .buy && !approved) := by
  cases signalType <;> cases approved <;>
    simp [JournalEntry.refusesBuy, decisionPayload, htype, ActionableSignal.text]

/-- The rejections of the risk gate. -/
def gateRejections (refused : List RejectedEntry) : List RejectedEntry :=
  refused.filter fun e => e.stage = .riskGate

/-- What the diagnostics keep of the rejected entries. -/
structure RejectionFigures where
  rejected : Dict ReasonCode ℕ
  first : Dict ReasonCode (ℤ × ℚ × ℚ)
  last : Dict ReasonCode ℤ
  postFill : ℕ
  deriving DecidableEq

/-- The figures a list of rejected entries leads to. -/
def RejectionFigures.of (refused : List RejectedEntry) : RejectionFigures where
  rejected := Dict.tally (refused.map RejectedEntry.code)
  first := Dict.firsts ((gateRejections refused).map fun e => (e.code, e.timeMs, e.equity, e.drawdown))
  last := Dict.updateAll [] ((gateRejections refused).map fun e => (e.code, e.timeMs))
  postFill := refused.countP fun e => e.stage = .postFill

theorem RejectionFigures.of_concat (refused : List RejectedEntry) {e : RejectedEntry}
    (hstage : e.stage ≠ .riskGate) :
    RejectionFigures.of (refused ++ [e]) =
      { RejectionFigures.of refused with
        rejected := (RejectionFigures.of refused).rejected.bump e.code
        postFill := (RejectionFigures.of refused).postFill + if e.stage = .postFill then 1 else 0 } := by
  simp [RejectionFigures.of, gateRejections, Dict.tally_concat, hstage, List.countP_cons]

theorem RejectionFigures.of_concat_gate (refused : List RejectedEntry) {e : RejectedEntry}
    (hstage : e.stage = .riskGate) :
    RejectionFigures.of (refused ++ [e]) =
      { rejected := (RejectionFigures.of refused).rejected.bump e.code
        first :=
          if (RejectionFigures.of refused).first.contains e.code then
            (RejectionFigures.of refused).first
          else (RejectionFigures.of refused).first.set e.code (e.timeMs, e.equity, e.drawdown)
        last := (RejectionFigures.of refused).last.set e.code e.timeMs
        postFill := (RejectionFigures.of refused).postFill } := by
  have hgate : gateRejections (refused ++ [e]) = gateRejections refused ++ [e] := by
    simp [gateRejections, hstage]
  have hlast : Dict.updateAll [] ((gateRejections refused ++ [e]).map fun e => (e.code, e.timeMs)) =
      (Dict.updateAll [] ((gateRejections refused).map fun e => (e.code, e.timeMs))).set e.code
        e.timeMs := by
    simp [Dict.updateAll]
  have hpost : (refused ++ [e]).countP (fun e => e.stage = .postFill) =
      refused.countP fun e => e.stage = .postFill := by
    simp [hstage]
  unfold RejectionFigures.of
  rw [hgate, hlast, hpost, List.map_append, List.map_append, List.map_singleton,
    List.map_singleton, Dict.tally_concat, Dict.firsts_concat]

namespace DiagBuilder

def rejectionFigures (diag : DiagBuilder) : RejectionFigures :=
  ⟨diag.rejectedEntriesByReason, diag.shutdownFirstActivation, diag.shutdownLastActive,
    diag.rrRejectedPostFillRevalidation⟩

/-- The signals counted, and the last entry made. -/
def signalFigures (diag : DiagBuilder) : ℕ × ℕ × Option ℤ :=
  (diag.buySignalsGenerated, diag.exitSignalsGenerated, diag.lastApprovedBuyTimeMs)

/-- `after` is `before` with `e` among the rejected entries. -/
structure Rejects (e : RejectedEntry) (before after : DiagBuilder) : Prop where
  figures : ∀ refused, before.rejectionFigures = .of refused →
    after.rejectionFigures = .of (refused ++ [e])
  signals : after.signalFigures = before.signalFigures
  entries : after.entryFigures = before.entryFigures

variable {diag : DiagBuilder} {e : RejectedEntry}

theorem rejects_recordRejectedEntry (hgate : e.stage ≠ .riskGate) (hfill : e.stage ≠ .postFill) :
    Rejects e diag (diag.recordRejectedEntry e.code) where
  figures := by
    intro refused h
    rw [RejectionFigures.of_concat refused hgate, ← h, if_neg hfill]
    rfl
  signals := rfl
  entries := rfl

/-- The counters of the risk/reward policy that no rejection figure reads. -/
theorem Rejects.congr {after after' : DiagBuilder} (h : Rejects e diag after)
    (hfigures : after'.rejectionFigures = after.rejectionFigures)
    (hsignals : after'.signalFigures = after.signalFigures)
    (hentries : after'.entryFigures = after.entryFigures) : Rejects e diag after' where
  figures := fun refused hrefused => hfigures.trans (h.figures refused hrefused)
  signals := hsignals.trans h.signals
  entries := hentries.trans h.entries

theorem rejects_recordSizingRejection (hstage : e.stage = .sizing) (plan : Option RiskRewardPlan) :
    Rejects e diag (recordSizingRejection .buy e.code plan diag) := by
  have hplain : Rejects e diag (diag.recordRejectedEntry e.code) :=
    rejects_recordRejectedEntry (by simp [hstage]) (by simp [hstage])
  cases plan with
  | none => exact hplain
  | some plan =>
      simp only [recordSizingRejection]
      split
      · exact hplain.congr rfl rfl rfl
      · split
        · exact hplain.congr rfl rfl rfl
        · exact hplain

theorem rejects_recordRiskGateRejection (hstage : e.stage = .riskGate) :
    Rejects e diag (diag.recordRiskGateRejection e.code e.timeMs e.equity e.drawdown) where
  figures := by
    intro refused h
    rw [RejectionFigures.of_concat_gate refused hstage, ← h]
    rfl
  signals := rfl
  entries := rfl

theorem rejects_postFill (hstage : e.stage = .postFill) :
    Rejects e diag { diag.recordRejectedEntry e.code with
      rrRejectedPostFillRevalidation := diag.rrRejectedPostFillRevalidation + 1 } where
  figures := by
    intro refused h
    rw [RejectionFigures.of_concat refused (by simp [hstage]), ← h, if_pos hstage]
    rfl
  signals := rfl
  entries := rfl

@[simp] theorem rejectionFigures_recordExecutedEntry (timeMs : ℤ) :
    (diag.recordExecutedEntry timeMs).rejectionFigures = diag.rejectionFigures := rfl

@[simp] theorem rejectionFigures_recordSignal (signalType : SignalType) :
    (recordSignal signalType diag).rejectionFigures = diag.rejectionFigures := by
  cases signalType <;> rfl

end DiagBuilder

/-! ## What the resolution of a pending signal records -/

section Decisions

variable {env : RunEnv} {candle : Candle} {v v' : LoopVars}

/-- What a pending signal came to: `refusal` is the BUY that was turned down, if one was. -/
structure Resolves (env : RunEnv) (signalType : ActionableSignal) (candle : Candle)
    (equity drawdown : ℚ) (before after : LoopVars) (refusal : Option RejectedEntry) : Prop where
  rows : ∃ rows, after.journal = before.journal.extend rows ∧
    rows.filter JournalEntry.refusesBuy = (refusal.bind RejectedEntry.row?).toList
  figures : ∀ refused, before.diag.rejectionFigures = .of refused →
    after.diag.rejectionFigures = .of (refused ++ refusal.toList)
  buys : after.diag.buySignalsGenerated = before.diag.buySignalsGenerated
  exits : after.diag.exitSignalsGenerated = before.diag.exitSignalsGenerated
  entries : after.diag.executedEntries + refusal.toList.length =
    before.diag.executedEntries + if signalType = .buy then 1 else 0
  lastEntry : after.diag.lastApprovedBuyTimeMs =
    if after.diag.executedEntries = before.diag.executedEntries then
      before.diag.lastApprovedBuyTimeMs
    else some candle.openTimeMs
  decidedAt : ∀ e ∈ refusal, e.timeMs = candle.openTimeMs ∧ e.equity = equity ∧
    e.drawdown = drawdown
  gate : ∀ e ∈ refusal, e.stage = .riskGate → ∃ intent context,
    intent.signalType = .buy ∧ context = riskContext before.state equity drawdown ∧
      env.imports.evaluate env.riskEngine intent context = ⟨false, e.code⟩
  postFill : ∀ e ∈ refusal, e.stage = .postFill → env.useFixedRiskRewardPolicy = true
  kept : ∀ e ∈ refusal, signalType = .buy ∧ after.state = before.state ∧
    after.trades = before.trades

namespace Resolves

variable {signalType : ActionableSignal} {equity drawdown : ℚ} {refusal : Option RejectedEntry}

/-- A BUY was turned down, at most one row being written for it. -/
theorem refused {e : RejectedEntry} (hdiag : DiagBuilder.Rejects e v.diag v'.diag)
    {rows : List JournalEntry} (hjournal : v'.journal = v.journal.extend rows)
    (hrows : rows.filter JournalEntry.refusesBuy = e.row?.toList)
    (hat : e.timeMs = candle.openTimeMs ∧ e.equity = equity ∧ e.drawdown = drawdown)
    (hgate : e.stage = .riskGate → ∃ intent context,
      intent.signalType = .buy ∧ context = riskContext v.state equity drawdown ∧
        env.imports.evaluate env.riskEngine intent context = ⟨false, e.code⟩)
    (hfill : e.stage = .postFill → env.useFixedRiskRewardPolicy = true)
    (hkept : v'.state = v.state ∧ v'.trades = v.trades) :
    Resolves env .buy candle equity drawdown v v' (some e) where
  rows := ⟨rows, hjournal, hrows⟩
  figures := hdiag.figures
  buys := congrArg Prod.fst hdiag.signals
  exits := congrArg (fun figures => figures.2.1) hdiag.signals
  entries := congrArg (fun figures => figures.executedEntries + 1) hdiag.entries
  lastEntry := by
    have hsame : v'.diag.executedEntries = v.diag.executedEntries :=
      congrArg EntryFigures.executedEntries hdiag.entries
    rw [if_pos hsame]
    exact congrArg (fun figures => figures.2.2) hdiag.signals
  decidedAt := by
    intro e' he'
    cases Option.some.inj he'
    exact hat
  gate := by
    intro e' he'
    cases Option.some.inj he'
    exact hgate
  postFill := by
    intro e' he'
    cases Option.some.inj he'
    exact hfill
  kept := by
    intro e' _
    exact ⟨rfl, hkept⟩

/-- The rows of the earlier decisions, none of them a refusal, come first. -/
theorem after_rows {rows : List JournalEntry} (hrows : rows.filter JournalEntry.refusesBuy = [])
    (peak : ℚ) (h : Resolves env signalType candle equity drawdown
      { v with peakEquity := peak, journal := v.journal.extend rows } v' refusal) :
    Resolves env signalType candle equity drawdown v v' refusal where
  rows := by
    rcases h.rows with ⟨later, hjournal, hlater⟩
    refine ⟨rows ++ later, ?_, ?_⟩
    · rw [hjournal, Journal.extend_extend]
    · rw [List.filter_append, hrows, hlater, List.nil_append]
  figures := h.figures
  buys := h.buys
  exits := h.exits
  entries := h.entries
  lastEntry := h.lastEntry
  decidedAt := h.decidedAt
  gate := h.gate
  postFill := h.postFill
  kept := h.kept

/-- An EXIT came to `v'`, which counts nothing. -/
theorem exited {rows : List JournalEntry} (hjournal : v'.journal = v.journal.extend rows)
    (hrows : rows.filter JournalEntry.refusesBuy = [])
    (hfigures : v'.diag.rejectionFigures = v.diag.rejectionFigures)
    (hsignals : v'.diag.signalFigures = v.diag.signalFigures)
    (hentries : v'.diag.entryFigures = v.diag.entryFigures) :
    Resolves env .exit candle equity drawdown v v' none where
  rows := ⟨rows, hjournal, hrows⟩
  figures := by
    intro refused h
    simpa using hfigures.trans h
  buys := congrArg Prod.fst hsignals
  exits := congrArg (fun figures => figures.2.1) hsignals
  entries := congrArg EntryFigures.executedEntries hentries
  lastEntry := by
    have hsame : v'.diag.executedEntries = v.diag.executedEntries :=
      congrArg EntryFigures.executedEntries hentries
    rw [if_pos hsame]
    exact congrArg (fun figures => figures.2.2) hsignals
  decidedAt := by simp
  gate := by simp
  postFill := by simp
  kept := by simp

/-- An entry was made. -/
theorem entered (q : ℚ) (fill : SimulatedFill) (plan : Option RiskRewardPlan)
    (portfolio : PortfolioState) :
    Resolves env .buy candle equity drawdown v
      (recordEntry env candle q fill plan portfolio v) none where
  rows := ⟨[], by rw [Journal.extend_nil]; rfl, rfl⟩
  figures := by
    intro refused h
    rw [Option.toList_none, List.append_nil, ← h]
    cases plan <;> rfl
  buys := by cases plan <;> rfl
  exits := by cases plan <;> rfl
  entries := by cases plan <;> rfl
  lastEntry := by cases plan <;> simp [recordEntry, DiagBuilder.recordExecutedEntry,
    DiagBuilder.recordRealizedPlan]
  decidedAt := by simp
  gate := by simp
  postFill := by simp
  kept := by simp

end Resolves

theorem recordExit_figures (env : RunEnv) (v : LoopVars) (timeMs : ℤ) (q : ℚ) (fill : SimulatedFill)
    (reason : ExitReason) (ref : ℚ) (portfolio : PortfolioState) :
    (recordExit env timeMs q fill reason ref portfolio v).diag.rejectionFigures =
        v.diag.rejectionFigures ∧
      (recordExit env timeMs q fill reason ref portfolio v).diag.signalFigures =
          v.diag.signalFigures ∧
        (recordExit env timeMs q fill reason ref portfolio v).diag.entryFigures =
          v.diag.entryFigures := by
  unfold recordExit
  cases v.state.openTrade with
  | none => exact ⟨rfl, rfl, rfl⟩
  | some openTrade =>
      simp only
      split <;> exact ⟨rfl, rfl, rfl⟩

/-- A BUY that reached the broker is an entry or a post-fill refusal. -/
theorem fillBuy_decides {q equity : ℚ} {plan : Option RiskRewardPlan} (drawdown : ℚ)
    (h : fillBuy env candle q equity plan v = .ok v') :
    ∃ refusal, Resolves env .buy candle equity drawdown v v' refusal := by
  have hopens : ∀ plan : Option RiskRewardPlan,
      openPosition env candle q (env.imports.simulateBuy env.broker q candle.open) plan v = .ok v' →
        Resolves env .buy candle equity drawdown v v' none := by
    intro plan hopen
    rw [openPosition_eq_map] at hopen
    rcases exists_of_map_ok hopen with ⟨portfolio, -, rfl⟩
    exact .entered q _ plan portfolio
  unfold fillBuy at h
  rcases exists_of_bind_ok h with ⟨realizedPlan, hrealize, h⟩
  cases realizedPlan with
  | none => exact ⟨none, hopens none h⟩
  | some realized =>
      -- only the risk/reward policy validates a plan again
      have hpolicy : env.useFixedRiskRewardPolicy = true := by
        by_contra hplain
        simp [realizePlan, hplain] at hrealize
      simp only at h
      split at h
      · exact ⟨none, hopens (some realized) h⟩
      · cases h
        exact ⟨some ⟨.postFill, realized.reasonCode, candle.openTimeMs, equity, drawdown⟩,
          .refused (DiagBuilder.rejects_postFill rfl) (Journal.extend_nil _).symm rfl
            ⟨rfl, rfl, rfl⟩ (by simp) (fun _ => hpolicy) ⟨rfl, rfl⟩⟩

/-- Plain risk-based sizing gives a quantity exactly when it approves. -/
theorem computeRiskBasedBuyQuantity_isSome {equity price stop risk cap fee slippage : ℚ}
    {filters : SymbolFilters} {context : DecimalContext} {sizing : SizingDecision}
    (h : computeRiskBasedBuyQuantity equity price stop risk cap fee slippage filters context =
      .ok sizing) : sizing.quantity.isSome = sizing.approved := by
  unfold computeRiskBasedBuyQuantity at h
  split at h
  · cases h
    rfl
  split at h
  · cases h
    rfl
  dsimp only at h
  split at h
  · cases h
    rfl
  rcases exists_of_bind_ok h with ⟨quantity, -, h⟩
  split at h
  · cases h
    rfl
  split at h <;>
    · cases h
      rfl

theorem validateOrder_isSome {intent : TradeIntent} {filters : SymbolFilters}
    {context : DecimalContext} {validation : OrderValidationResult}
    (h : validateOrder intent filters context = .ok validation) :
    validation.validatedQuantity.isSome = validation.approved := by
  unfold validateOrder at h
  split at h
  · cases h
    rfl
  rcases exists_of_bind_ok h with ⟨quantity, -, h⟩
  split at h
  · cases h
    rfl
  split at h
  · cases h
    rfl
  split at h <;>
    · cases h
      rfl

/-- A sizing that is not turned down has a quantity. -/
theorem sizePendingSignal_quantity (henv : env.Standard) {price equity : ℚ} {p : PortfolioState}
    {sizing : SizingDecision} {plan : Option RiskRewardPlan}
    (h : sizePendingSignal env .buy price equity p = .ok (sizing, plan))
    (happroved : sizing.approved = true) : sizing.quantity.isSome = true := by
  simp only [sizePendingSignal, henv.imports, EngineImports.current] at h
  split at h
  · rcases exists_of_bind_ok h with ⟨approvedPlan, hplan, hok⟩
    cases hok
    rcases planRiskRewardEntry_approved hplan happroved with ⟨-, -, q, hfillable⟩
    simp [hfillable.quantity_eq]
  · rcases exists_of_bind_ok h with ⟨sized, hsized, hok⟩
    cases hok
    exact (computeRiskBasedBuyQuantity_isSome hsized).trans happroved

/-- A sized BUY is turned down by the gate, by the validator or after the fill, or entered. -/
theorem submitSized_decides (henv : env.Standard) {q equity : ℚ} {plan : Option RiskRewardPlan}
    (h : submitSized env .buy candle equity q plan v = .ok v') :
    ∃ refusal, Resolves env .buy candle equity (drawdownPct v.peakEquity equity) v v' refusal := by
  simp only [submitSized, Journal.record_eq_extend] at h
  split at h
  · rename_i hgate
    cases h
    refine ⟨some ⟨.riskGate, _, candle.openTimeMs, equity, drawdownPct v.peakEquity equity⟩,
      .refused (DiagBuilder.rejects_recordRiskGateRejection rfl) rfl ?_ ⟨rfl, rfl, rfl⟩ ?_ (by simp)
        ⟨rfl, rfl⟩⟩
    · rw [hgate]
      rfl
    · intro _
      refine ⟨⟨.buy, candle.symbol, q, candle.open⟩, _, rfl, rfl, ?_⟩
      rw [← hgate]
  · rename_i hgate
    have hgated : (env.imports.evaluate env.riskEngine ⟨.buy, candle.symbol, q, candle.open⟩
        (riskContext v.state equity (drawdownPct v.peakEquity equity))).approved = true :=
      eq_true_of_ne_false hgate
    -- the gate's row says approved, and so does the validator's unless it refuses
    rcases exists_of_bind_ok h with ⟨validation, hvalidation, h⟩
    split at h
    · rename_i quantity hvalid hquantity
      rcases fillBuy_decides (drawdownPct v.peakEquity equity) h with ⟨refusal, hfill⟩
      refine ⟨refusal, .after_rows ?_ v.peakEquity (.after_rows ?_ v.peakEquity hfill)⟩
      · simp [hgated, decisionPayload_refuses]
      · simp [hvalid, decisionPayload_refuses]
    · rename_i hrefused
      have hinvalid : validation.approved = false := by
        rw [henv.imports] at hvalidation
        by_contra hvalid
        have hvalid := eq_true_of_ne_false hvalid
        rcases Option.isSome_iff_exists.1 ((validateOrder_isSome hvalidation).trans hvalid) with
          ⟨validated, hvalidated⟩
        exact hrefused validated hvalid hvalidated
      cases h
      refine ⟨some ⟨.validation, _, candle.openTimeMs, equity, drawdownPct v.peakEquity equity⟩,
        .after_rows ?_ v.peakEquity (.refused
          (DiagBuilder.rejects_recordRejectedEntry (by simp) (by simp)) rfl ?_ ⟨rfl, rfl, rfl⟩
          (by simp) (by simp) ⟨rfl, rfl⟩)⟩
      · simp [hgated, decisionPayload_refuses]
      · rw [hinvalid]
        rfl

/-- Selling what an EXIT asks for counts nothing. -/
theorem submitSized_exit_decides {q equity drawdown : ℚ} {plan : Option RiskRewardPlan}
    (h : submitSized env .exit candle equity q plan v = .ok v') :
    Resolves env .exit candle equity drawdown v v' none := by
  simp only [submitSized, Journal.record_eq_extend] at h
  split at h
  · cases h
    exact .exited rfl (by simp [decisionPayload_refuses]) rfl rfl rfl
  · rcases exists_of_bind_ok h with ⟨validation, -, h⟩
    split at h
    · rename_i quantity _ _
      rcases applyExitFill_eq_ok h with ⟨portfolio, -, rfl⟩
      have hfigures := recordExit_figures env v candle.openTimeMs quantity
        (env.imports.simulateSell env.broker quantity candle.open) .strategyExit candle.open portfolio
      refine .exited (by rw [← Journal.extend_extend]; rfl) ?_ hfigures.1
        hfigures.2.1 hfigures.2.2
      simp [decisionPayload_refuses]
    · cases h
      refine .exited (by rw [← Journal.extend_extend]) ?_ rfl rfl rfl
      simp [decisionPayload_refuses]

/-- Everything the resolution of a pending signal adds to the diagnostics and the journal. -/
theorem resolvePendingSignal_resolves (henv : env.Standard) {signalType : ActionableSignal}
    (h : resolvePendingSignal env signalType candle v = .ok v') :
    ∃ refusal, Resolves env signalType candle (v.equityAtOpen candle)
      (drawdownPct (v.peakAtOpen candle) (v.equityAtOpen candle)) v v' refusal := by
  simp only [resolvePendingSignal, Journal.record_eq_extend] at h
  rcases exists_of_bind_ok h with ⟨⟨sizing, plan⟩, hsize, h⟩
  simp only at h
  split at h
  · rename_i quantity happroved _
    cases signalType with
    | buy =>
        rcases submitSized_decides henv h with ⟨refusal, hdecides⟩
        refine ⟨refusal, .after_rows ?_ (v.peakAtOpen candle) hdecides⟩
        simp [happroved, decisionPayload_refuses]
    | exit =>
        refine ⟨none, .after_rows ?_ (v.peakAtOpen candle) (submitSized_exit_decides h)⟩
        simp [decisionPayload_refuses]
  · rename_i hrefused
    cases h
    cases signalType with
    | buy =>
        -- an approved size has a quantity, so this one was not approved
        have hunsized : sizing.approved = false := by
          by_contra happroved
          have happroved := eq_true_of_ne_false happroved
          rcases Option.isSome_iff_exists.1 (sizePendingSignal_quantity henv hsize happroved) with
            ⟨quantity, hquantity⟩
          exact hrefused quantity happroved hquantity
        refine ⟨some ⟨.sizing, _, candle.openTimeMs, _, _⟩,
          .refused (DiagBuilder.rejects_recordSizingRejection rfl plan) rfl ?_ ⟨rfl, rfl, rfl⟩
            (by simp) (by simp) ⟨rfl, rfl⟩⟩
        rw [hunsized]
        rfl
    | exit =>
        exact ⟨none, .exited rfl (by simp [decisionPayload_refuses]) rfl rfl rfl⟩

end Decisions

end TradingAgent
