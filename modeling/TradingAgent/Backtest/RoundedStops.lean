import TradingAgent.Backtest.Affordability
import TradingAgent.Backtest.Episodes

/-!
# Rounded stops — what a stop costs with 28 digits

The planned risk of an entry and the loss of its stop are the same figure computed in two ways, and
each way rounds in its own places.  The stop is placed below the price that filled, which slippage
has raised above the open.

* `Unrounded` figures agree, and `CandleTrace.FiguresFit` says which figures these are;
* `stopPnl_eq`: a stop that fills at its own price then books exactly the planned risk;
* `exceeding_is_later_gap`: only a later gap costs more, as long as slippage cannot lift the stop
  above the open it fills at.
-/

namespace TradingAgent

open DecimalContext (Near unitRoundoff)

/-! ## The condition -/

/-- A figure that 28 digits hold. -/
def Unrounded (x : ℚ) : Prop :=
  DecimalContext.default.round x = x

instance (x : ℚ) : Decidable (Unrounded x) :=
  inferInstanceAs (Decidable (DecimalContext.default.round x = x))

/-- Slippage does not lift the stop of an entry above the open it fills at: by more than the figures
are rounded, or no figure is. -/
def AppConfig.StopStaysBelow (config : AppConfig) (openPrice : ℚ) : Prop :=
  let raised := 1 + config.fees.slippagePct
  let kept := 1 - config.stopLoss.stopDistancePct
  raised * kept ≤ 1 - roundingRoom ∨
    raised * kept ≤ 1 ∧
      ∀ figure ∈ [raised, openPrice * raised, kept, openPrice * raised * kept], Unrounded figure

instance (config : AppConfig) (openPrice : ℚ) : Decidable (config.StopStaysBelow openPrice) :=
  inferInstanceAs (Decidable (_ ∨ _))

/-- The figures that the planned risk and the loss of a stop at its own price are computed from. -/
def stopFigures (config : AppConfig) (o : OpenTrade) (stop realized : ℚ) : List ℚ :=
  let fee := config.fees.takerFeePct
  let kept := 1 - config.fees.slippagePct
  let exit := stop * kept
  let loss := o.entryPrice - exit + o.entryPrice * fee + exit * fee
  [o.quantity, kept, exit, o.entryPrice - exit, o.entryPrice * fee,
    o.entryPrice - exit + o.entryPrice * fee, exit * fee, loss, o.quantity * loss,
    o.quantity * o.entryPrice, o.quantity * o.entryPrice * fee, o.quantity * (exit - o.entryPrice),
    o.quantity * exit, o.quantity * exit * fee,
    o.quantity * (exit - o.entryPrice) - o.quantity * exit * fee, realized - o.quantity * loss]

/-- A candle that fills an entry keeps its stop below the open, and one that touches a stop it opens
above computes with figures that 28 digits hold. -/
def CandleTrace.FiguresFit (config : AppConfig) (tr : CandleTrace) : Prop :=
  (tr.atOpen.pendingSignal = some .buy → config.StopStaysBelow tr.candle.open) ∧
    ∀ o ∈ tr.filled.state.openTrade, ∀ stop ∈ tr.filled.state.stopPrice,
      tr.candle.low ≤ stop → stop ≤ tr.candle.open →
        ∀ figure ∈ stopFigures config o stop tr.filled.state.portfolio.realizedPnlQuote,
          Unrounded figure

instance (config : AppConfig) (tr : CandleTrace) : Decidable (tr.FiguresFit config) :=
  inferInstanceAs (Decidable (_ ∧ _))

/-! ## The two figures -/

/-- The stop the engine places below an entry. -/
def OpenTrade.roundedStop (config : AppConfig) (o : OpenTrade) : ℚ :=
  DecimalContext.default.mul o.entryPrice
    (DecimalContext.default.sub 1 config.stopLoss.stopDistancePct)

/-- The risk the plan of a filled entry has. -/
def OpenTrade.roundedRisk (config : AppConfig) (o : OpenTrade) : ℚ :=
  DecimalContext.default.mul o.quantity
    (filledLoss o.entryPrice config.stopLoss.stopDistancePct config.fees.takerFeePct
      config.fees.slippagePct .default)

/-- The price a sale from `reference` fills at. -/
def soldAt (config : AppConfig) (reference : ℚ) : ℚ :=
  DecimalContext.default.mul reference (DecimalContext.default.sub 1 config.fees.slippagePct)

/-- What selling the whole position from `reference` books, once it is taken from the running profit
again. -/
def stopPnl (config : AppConfig) (o : OpenTrade) (reference realized : ℚ) : ℚ :=
  let base := DecimalContext.default.round o.quantity
  let exit := soldAt config reference
  let gross := DecimalContext.default.mul base (DecimalContext.default.sub exit o.entryPrice)
  let exitFee := DecimalContext.default.mul (DecimalContext.default.mul base exit)
    config.fees.takerFeePct
  let entryFee := DecimalContext.default.mul o.entryFee (DecimalContext.default.div base base)
  DecimalContext.default.sub
    (DecimalContext.default.add realized
      (DecimalContext.default.sub (DecimalContext.default.sub gross exitFee) entryFee)) realized

theorem Unrounded.neg {x : ℚ} (h : Unrounded x) : Unrounded (-x) := by
  rw [Unrounded, DecimalContext.default, DecimalContext.significant_neg]
  exact congrArg Neg.neg h

/-- Where 28 digits hold every figure, a stop that fills at its own price books the planned risk. -/
theorem stopPnl_eq {config : AppConfig} {o : OpenTrade} {realized : ℚ} (hpos : 0 < o.quantity)
    (hfee : o.entryFee = DecimalContext.default.mul
      (DecimalContext.default.mul o.quantity o.entryPrice) config.fees.takerFeePct)
    (hfit : ∀ figure ∈ stopFigures config o (o.roundedStop config) realized, Unrounded figure) :
    stopPnl config o (o.roundedStop config) realized = -o.roundedRisk config := by
  set stop := o.roundedStop config with hstop
  simp only [stopFigures, List.forall_mem_cons] at hfit
  rcases hfit with ⟨hq, hkept, hexit, hgap, hentryFee, hsum, hexitFee, hloss, hrisk, hnotional,
    hpaid, hgross, hsold, hsoldFee, hnet, hbooked, -⟩
  have hmargin : Unrounded (stop * (1 - config.fees.slippagePct) - o.entryPrice) := by
    rw [← neg_sub]
    exact hgap.neg
  unfold Unrounded at *
  -- the plan and the sale compute with the same exit price
  have hplanned : o.roundedRisk config = o.quantity * (o.entryPrice -
      stop * (1 - config.fees.slippagePct) + o.entryPrice * config.fees.takerFeePct +
        stop * (1 - config.fees.slippagePct) * config.fees.takerFeePct) := by
    unfold OpenTrade.roundedStop at hstop
    simp only [OpenTrade.roundedRisk, filledLoss, lossPerUnit, ← hstop]
    simp only [DecimalContext.sub, DecimalContext.mul, DecimalContext.add]
    simp only [hkept, hexit, hgap, hentryFee, hsum, hexitFee, hloss, hrisk]
  have hone : DecimalContext.default.div o.quantity o.quantity = 1 := by
    rw [DecimalContext.div, div_self hpos.ne']
    decide +kernel
  have htotal : o.quantity * (stop * (1 - config.fees.slippagePct) - o.entryPrice) -
      o.quantity * (stop * (1 - config.fees.slippagePct)) * config.fees.takerFeePct -
        o.quantity * o.entryPrice * config.fees.takerFeePct = -o.roundedRisk config := by
    rw [hplanned]
    ring
  have hnegRisk : DecimalContext.default.round (-o.roundedRisk config) = -o.roundedRisk config := by
    rw [hplanned]
    exact Unrounded.neg hrisk
  rw [← hplanned, sub_eq_add_neg] at hbooked
  simp only [stopPnl, soldAt, hfee, hq, hone]
  simp only [DecimalContext.sub, DecimalContext.mul, DecimalContext.add]
  simp only [hkept, hexit, hmargin, hgross, hsold, hsoldFee, hnet, hnotional, hpaid, mul_one, htotal,
    hnegRisk, hbooked]
  rw [add_sub_cancel_left, hnegRisk]

/-! ## A fresh stop -/

section Fresh

variable {config : AppConfig} {o : OpenTrade} {openPrice : ℚ}

/-- A stop is near its share of the open, which slippage has raised and the stop distance lowered. -/
theorem roundedStop_near (hopen : 0 < openPrice)
    (hprice : o.entryPrice = fillPriceAt openPrice config.fees.slippagePct) :
    Near 4 (o.roundedStop config) (openPrice *
      ((1 + config.fees.slippagePct) * (1 - config.stopLoss.stopDistancePct))) := by
  have hkept : 0 ≤ 1 - config.stopLoss.stopDistancePct := by
    linarith [config.stopLoss.stopDistancePctLt]
  have hfill := fillPriceAt_near hopen.le config.fees.slippagePctNonneg
  have hstop := hfill.mul (Near.refl hkept).round
  rw [mul_assoc] at hstop
  rw [OpenTrade.roundedStop, hprice]
  exact hstop

theorem roundedStop_le_open (hopen : 0 < openPrice)
    (hprice : o.entryPrice = fillPriceAt openPrice config.fees.slippagePct)
    (hbelow : config.StopStaysBelow openPrice) : o.roundedStop config ≤ openPrice := by
  rcases hbelow with hroom | ⟨hle, hfit⟩
  · have hu := DecimalContext.unitRoundoff_pos
    have hlast : (1 - roundingRoom) * (1 + unitRoundoff) ^ 4 ≤ 1 := by
      norm_num [roundingRoom, unitRoundoff]
    calc o.roundedStop config
        ≤ openPrice * ((1 + config.fees.slippagePct) * (1 - config.stopLoss.stopDistancePct)) *
            (1 + unitRoundoff) ^ 4 := (roundedStop_near hopen hprice).high
      _ ≤ openPrice * (1 - roundingRoom) * (1 + unitRoundoff) ^ 4 :=
          mul_le_mul_of_nonneg_right (mul_le_mul_of_nonneg_left hroom hopen.le)
            (pow_nonneg (by linarith) 4)
      _ = openPrice * ((1 - roundingRoom) * (1 + unitRoundoff) ^ 4) := by ring
      _ ≤ openPrice * 1 := mul_le_mul_of_nonneg_left hlast hopen.le
      _ = openPrice := mul_one _
  · -- no figure is rounded, so the stop is its exact share of the open
    simp only [List.forall_mem_cons] at hfit
    rcases hfit with ⟨hraised, hfill, hkept, hstop, -⟩
    unfold Unrounded at *
    have heq : o.roundedStop config = openPrice * (1 + config.fees.slippagePct) *
        (1 - config.stopLoss.stopDistancePct) := by
      rw [OpenTrade.roundedStop, hprice, fillPriceAt]
      simp only [DecimalContext.sub, DecimalContext.mul, DecimalContext.add]
      simp only [hraised, hfill, hkept, hstop]
    rw [heq, mul_assoc]
    exact mul_le_of_le_one_right hopen.le hle

/-- A stop that is not above its open leaves slippage below the stop distance, but for the room of
the roundings. -/
theorem share_lt_of_roundedStop_le (hopen : 0 < openPrice)
    (hprice : o.entryPrice = fillPriceAt openPrice config.fees.slippagePct)
    (hle : o.roundedStop config ≤ openPrice) :
    (1 + config.fees.slippagePct) * (1 - config.stopLoss.stopDistancePct) < 1 + roundingRoom := by
  have hu1 := DecimalContext.unitRoundoff_lt_one
  have hkept : 0 < (1 - unitRoundoff) ^ 4 := pow_pos (by linarith) 4
  have hlow : openPrice * ((1 + config.fees.slippagePct) * (1 - config.stopLoss.stopDistancePct) *
      (1 - unitRoundoff) ^ 4) ≤ openPrice * 1 := by
    rw [← mul_assoc, mul_one]
    exact (roundedStop_near hopen hprice).low.trans hle
  have hshare := le_of_mul_le_mul_left hlow hopen
  have hroom : 1 < (1 + roundingRoom) * (1 - unitRoundoff) ^ 4 := by
    norm_num [roundingRoom, unitRoundoff]
  exact lt_of_mul_lt_mul_right (hshare.trans_lt hroom) hkept.le

end Fresh

/-! ## Entries and stop exits -/

section Rounded

open scoped Interpreter

variable {env : RunEnv} {v : LoopVars} {tr : CandleTrace}

/-- The candle of `tr` filled the entry that opened `o`. -/
structure RoundedOpens (env : RunEnv) (tr : CandleTrace) (o : OpenTrade) : Prop where
  pending : tr.atOpen.pendingSignal = some .buy
  held : tr.filled.state.openTrade = some o
  timeMs : o.entryTimeMs = tr.candle.openTimeMs
  reference : o.entryReferencePrice = tr.candle.open
  referencePos : 0 < tr.candle.open
  price : o.entryPrice = fillPriceAt tr.candle.open env.config.fees.slippagePct
  fee : o.entryFee = DecimalContext.default.mul
    (DecimalContext.default.mul o.quantity o.entryPrice) env.config.fees.takerFeePct
  quantityPos : 0 < o.quantity
  plannedRisk : o.plannedRisk = some (o.roundedRisk env.config)

/-- The candle of `tr` touched the stop of `o` and closed it as `t`. -/
structure RoundedStopExit (env : RunEnv) (tr : CandleTrace) (o : OpenTrade) (t : Trade) : Prop where
  held : tr.filled.state.openTrade = some o
  stop : tr.filled.state.stopPrice = some (o.roundedStop env.config)
  touched : tr.candle.low ≤ o.roundedStop env.config
  entryTimeMs : t.entryTimeMs = o.entryTimeMs
  exitTimeMs : t.exitTimeMs = tr.candle.openTimeMs
  reference : t.exitReferencePrice = min (o.roundedStop env.config) tr.candle.open
  pnl : t.pnlQuote = stopPnl env.config o (min (o.roundedStop env.config) tr.candle.open)
    tr.filled.state.portfolio.realizedPnlQuote

/-- The position is the open trade as it was bought. -/
structure HeldAsBought (state : LoopState) (o : OpenTrade) : Prop where
  long : state.portfolio.positionSide = .long
  base : state.portfolio.baseBalance = DecimalContext.default.round o.quantity
  avg : state.portfolio.avgEntryPrice = some o.entryPrice
  fee : state.portfolio.openPositionEntryFee = o.entryFee

/-- What the next entry and the next stop exit find: a tidy portfolio, and the open trade in it. -/
structure BooksKept (state : LoopState) : Prop where
  tidy : state.portfolio.Tidy
  holding : ∀ o, state.openTrade = some o → HeldAsBought state o

theorem EntryFill.roundedOpens (henv : env.Standard)
    (hpolicy : env.useFixedRiskRewardPolicy = true) (e : EntryFill env tr.candle tr.atOpen)
    (hpending : tr.atOpen.pendingSignal = some .buy) (hfilled : tr.filled.state = e.result.state) :
    RoundedOpens env tr e.openTrade ∧
      tr.filled.state.stopPrice = some (e.openTrade.roundedStop env.config) := by
  have hsized := e.sizedFacts henv
  rcases e.revalidated henv hpolicy with ⟨plan, raw, target, -, hsome⟩
  have hprice : e.openTrade.entryPrice =
      fillPriceAt tr.candle.open env.config.fees.slippagePct := by
    simp only [EntryFill.openTrade, henv.imports, henv.broker]
    rfl
  constructor
  · constructor
    case pending => exact hpending
    case held => rw [hfilled, e.result_openTrade]
    case timeMs => rfl
    case reference => rfl
    case referencePos => exact hsized.pricePos
    case price => exact hprice
    case fee =>
        simp only [EntryFill.openTrade, henv.imports, henv.broker]
        rfl
    case quantityPos => exact hsized.quantityPos
    case plannedRisk =>
        rw [OpenTrade.plannedRisk, show e.openTrade.realizedPlan = _ from hsome]
        rfl
  · rw [hfilled]
    simp only [EntryFill.result, EntryAttempt.leaves, recordEntry, hsome]
    rfl

/-- What a stop exit of the open trade books. -/
theorem ProtectiveFill.roundedStopExit (henv : env.Standard) {o : OpenTrade}
    (e : ProtectiveFill env tr.candle tr.filled) (hpos : 0 < o.quantity)
    (hheld : HeldAsBought tr.filled.state o) (ho : tr.filled.state.openTrade = some o)
    (hstop : tr.filled.state.stopPrice = some (o.roundedStop env.config))
    (hreason : e.reason = .stopLoss) : RoundedStopExit env tr o (e.trade o) := by
  rcases e.trigger with ⟨-, stopPrice, hset, hlow, href⟩ | ⟨hprofit, -⟩
  swap
  · rw [hreason] at hprofit
    cases hprofit
  have hstopPrice : stopPrice = o.roundedStop env.config := Option.some.inj (hset.symm.trans hstop)
  subst hstopPrice
  have hsold := e.sold
  rw [henv.imports] at hsold
  rcases applySell_returned hsold with ⟨avg, -, havg, -, hportfolio⟩
  have hentry : avg = o.entryPrice := Option.some.inj (havg.symm.trans hheld.avg)
  have hbase : 0 < DecimalContext.default.round o.quantity :=
    DecimalContext.keepsSign_default.pos _ hpos
  constructor
  case held => exact ho
  case stop => exact hstop
  case touched => exact hlow
  case entryTimeMs => rfl
  case exitTimeMs => rfl
  case reference => exact href
  case pnl =>
      rw [← href]
      simp only [ProtectiveFill.trade, closedTrade, hportfolio, hentry, entryFeeAllocated, hheld.base,
        hheld.fee, if_pos hbase, henv.broker, stopPnl, soldAt]
      rfl

/-! ## A whole run -/

namespace BooksKept

theorem initial (S firstClose : ℚ) (journal : Journal) :
    BooksKept (initialVars S firstClose journal).state := by
  refine ⟨⟨fun _ => rfl, ?_⟩, ?_⟩
  · intro hlong
    cases hlong
  · intro o ho
    cases ho

/-- A buy from a flat portfolio holds just what it bought. -/
theorem entry (henv : env.Standard) (h : BooksKept tr.atOpen.state)
    (e : EntryFill env tr.candle tr.atOpen) : BooksKept e.result.state := by
  have hbought := e.bought
  unfold EntryAttempt.buy at hbought
  rw [henv.imports] at hbought
  refine ⟨PortfolioState.tidy_applyBuy hbought, ?_⟩
  intro o ho
  rw [e.result_openTrade] at ho
  cases ho
  rcases applyBuy_returned hbought with ⟨hflat, -, hportfolio⟩
  have hbase : e.portfolio.baseBalance = DecimalContext.default.round e.quantity := by
    simp [hportfolio, h.tidy.flatBase hflat, DecimalContext.add]
  constructor
  case long => simp [EntryFill.result, EntryAttempt.leaves, recordEntry, hportfolio]
  case base => exact hbase
  case avg =>
      simp [EntryFill.result, EntryAttempt.leaves, recordEntry, hportfolio, EntryFill.openTrade,
        henv.imports]
  case fee =>
      simp [EntryFill.result, EntryAttempt.leaves, recordEntry, hportfolio, EntryFill.openTrade,
        henv.imports]

theorem filled (henv : env.Standard) {seen : List Candle} (htr : tr.Valid env seen)
    (h : BooksKept tr.atOpen.state) : BooksKept tr.filled.state := by
  have htidy := h.tidy.filled henv htr.fills
  rcases fillPending_cases htr.fills with ⟨-, hfilled⟩ | ⟨signalType, m, -, hres, hfilled⟩
  · exact hfilled ▸ h
  rcases resolvePendingSignal_cases hres with
    ⟨rows, diag, -, -, rfl⟩ | ⟨-, e, rfl⟩ | ⟨-, e, rfl⟩
  · rw [hfilled]
    exact h
  · rw [hfilled]
    exact h.entry henv e
  · rw [hfilled] at htidy ⊢
    refine ⟨htidy, ?_⟩
    intro o ho
    cases ho

theorem guarded (henv : env.Standard) {seen : List Candle} (htr : tr.Valid env seen)
    (h : BooksKept tr.filled.state) : BooksKept tr.guarded.state := by
  have htidy := h.tidy.guarded henv htr.protects
  rcases protectiveExit_cases htr.protects with hguarded | ⟨e, hguarded⟩
  · exact hguarded ▸ h
  · rw [hguarded] at htidy ⊢
    refine ⟨htidy, ?_⟩
    intro o ho
    cases ho

end BooksKept

theorem CandleTrace.Valid.booksAtOpen {seen : List Candle} (htr : tr.Valid env seen)
    (h : BooksKept tr.before.state) : BooksKept tr.atOpen.state := by
  have hportfolio : tr.atOpen.state.portfolio = tr.before.state.portfolio := by
    rw [htr.atOpen_eq, rollDay_portfolio]
  have hopen : tr.atOpen.state.openTrade = tr.before.state.openTrade := by
    rw [htr.atOpen_eq, rollDay_openTrade]
  refine ⟨hportfolio ▸ h.tidy, ?_⟩
  intro o ho
  rw [hopen] at ho
  rcases h.holding o ho with ⟨hlong, hbase, havg, hfee⟩
  constructor <;> rw [hportfolio] <;> assumption

theorem CandleTrace.Valid.booksClosed (henv : env.Standard) {seen : List Candle}
    (htr : tr.Valid env seen) (h : BooksKept tr.before.state) : BooksKept tr.closed.state := by
  have hguarded := ((htr.booksAtOpen h).filled henv htr).guarded henv htr
  rcases htr.marks with ⟨signal, -, hclosed⟩
  rw [hclosed]
  exact hguarded

/-- The ledger of a run with 28 digits. -/
abbrev RoundedEpisodes (env : RunEnv) (hist : List CandleTrace) (eps : List Episode) (v : LoopVars) :
    Prop :=
  TradeLedger (RoundedOpens env) (RoundedStopExit env) (OpenTrade.roundedStop env.config) hist eps v

theorem traceSegment_roundedEpisodes (henv : env.Standard)
    (hpolicy : env.useFixedRiskRewardPolicy = true) {segment : List Candle} {S : ℚ}
    {journal : Journal} {traces : List CandleTrace}
    (h : traceSegment env segment S journal = .ok (traces, v)) :
    ∃ eps, RoundedEpisodes env traces eps v := by
  have hrun := traceSegment_induct (fun hist u => BooksKept u.state ∧
    ∃ eps, RoundedEpisodes env hist eps u) h
    (fun first _ => ⟨.initial S first.close journal, [], .initial S first.close journal⟩) ?_
  · exact hrun.1.2
  · rintro hist seen tr rest htr ⟨hbefore, eps, heps⟩ _
    have hopen := htr.booksAtOpen hbefore
    refine ⟨htr.booksClosed henv hbefore, heps.step htr ?_ ?_⟩
    · intro e hfilled hpending
      rcases e.roundedOpens henv hpolicy hpending hfilled with ⟨hopens, hstop⟩
      refine ⟨?_, hopens, hstop⟩
      -- a portfolio that can buy holds no open trade
      have hbought := e.bought
      unfold EntryAttempt.buy at hbought
      rw [henv.imports] at hbought
      have hflat := (applyBuy_returned hbought).1
      cases ho : tr.atOpen.state.openTrade with
      | none => rfl
      | some o =>
          have hlong := (hopen.holding o ho).long
          rw [hflat] at hlong
          cases hlong
    · intro e o entry _ ho hstop hopens hreason
      exact e.roundedStopExit henv hopens.quantityPos ((hopen.filled henv htr).holding o ho) ho hstop
        hreason

/-- The trade `t` was opened as `o` on the candle of `entry` and stopped on the candle of `exit`. -/
structure RoundedStopped (env : RunEnv) (traces : List CandleTrace) (t : Trade) (o : OpenTrade)
    (i j : ℕ) (entry exit : CandleTrace) : Prop where
  ordered : i ≤ j
  entryAt : traces[i]? = some entry
  exitAt : traces[j]? = some exit
  opens : RoundedOpens env entry o
  stops : RoundedStopExit env exit o t

/-- A stop never lies above the open its entry filled at, and a stopped trade loses more than its
planned risk only on a later candle that opens below the stop. -/
structure LaterGapsOnly (env : RunEnv) (traces : List CandleTrace) (r : SegmentRunResult) : Prop where
  fresh : ∀ tr ∈ traces, ∀ o, RoundedOpens env tr o → o.roundedStop env.config ≤ tr.candle.open
  exceeding : ∀ (k : ℕ) t, r.trades[k]? = some t → t.exitReason = .stopLoss →
    ∃ o a b entry exit risk, RoundedStopped env traces t o a b entry exit ∧
      r.recordedRisk k = some risk ∧
        (risk < -t.pnlQuote → a < b ∧ exit.candle.open < o.roundedStop env.config)

/-- A stop whose candle opens at or above it loses no more than was planned, where 28 digits hold its
figures. -/
theorem RoundedStopped.loss_eq {traces : List CandleTrace} {t : Trade} {o : OpenTrade} {a b : ℕ}
    {entry exit : CandleTrace} (h : RoundedStopped env traces t o a b entry exit)
    (hfit : exit.FiguresFit env.config) (hopen : o.roundedStop env.config ≤ exit.candle.open) :
    -t.pnlQuote = o.roundedRisk env.config := by
  have hfigures := hfit.2 o h.stops.held _ h.stops.stop h.stops.touched hopen
  rw [h.stops.pnl, min_eq_left hopen, stopPnl_eq h.opens.quantityPos h.opens.fee hfigures, neg_neg]

/-- **Exceeding the planned risk is a later gap.**  In every run under the policy whose entries keep
their stops below the open and whose stops compute with figures that 28 digits hold; and no run that
fills an entry does so when slippage lifts its stop above the open by more than is rounded. -/
theorem exceeding_is_later_gap (config : AppConfig) (filters : SymbolFilters)
    (strategy : Strategy) (minRequired : ℕ) (hpos : 0 < minRequired) (segment : List Candle)
    (S : ℚ) (journal j : Journal) (r : SegmentRunResult)
    (h : runSegment (.standard config filters strategy minRequired hpos true) segment S journal =
      .ok (r, j)) :
    ∃ traces v,
      traceSegment (.standard config filters strategy minRequired hpos true) segment S journal =
          .ok (traces, v) ∧
        ((∀ tr ∈ traces, tr.FiguresFit config) →
          LaterGapsOnly (.standard config filters strategy minRequired hpos true) traces r) ∧
        ((∃ tr ∈ traces, ∃ o,
            RoundedOpens (.standard config filters strategy minRequired hpos true) tr o) →
          LaterGapsOnly (.standard config filters strategy minRequired hpos true) traces r →
            (1 + config.fees.slippagePct) * (1 - config.stopLoss.stopDistancePct) <
              1 + roundingRoom) := by
  have henv := RunEnv.standard_standard config filters strategy minRequired hpos true
  rcases runSegment_traced h with ⟨traces, last, v, -, htraces, rfl, rfl⟩
  rcases traceSegment_roundedEpisodes henv rfl htraces with ⟨eps, heps⟩
  refine ⟨traces, v, htraces, ?_, ?_⟩
  · intro hfit
    have hfresh : ∀ tr ∈ traces, ∀ o,
        RoundedOpens (.standard config filters strategy minRequired hpos true) tr o →
          o.roundedStop config ≤ tr.candle.open := fun tr htr o hopens =>
      roundedStop_le_open hopens.referencePos hopens.price ((hfit tr htr).1 hopens.pending)
    refine ⟨hfresh, ?_⟩
    intro k t hk hreason
    rcases heps.stopped hk hreason with
      ⟨ep, a, b, entry, exit, hep, hle, hentry, hexit, hopens, hstops⟩
    have hstopped : RoundedStopped (.standard config filters strategy minRequired hpos true) traces t
        ep.opened a b entry exit := ⟨hle, hentry, hexit, hopens, hstops⟩
    refine ⟨ep.opened, a, b, entry, exit, _, hstopped,
      heps.recordedRisk (fun _ _ hopened => hopened.plannedRisk) rfl hep S last, ?_⟩
    intro hexceeds
    have hgap : exit.candle.open < ep.opened.roundedStop config := by
      by_contra hopen
      have hloss := hstopped.loss_eq (hfit exit (List.mem_of_getElem? hexit)) (not_lt.1 hopen)
      exact absurd hexceeds (not_lt.2 hloss.le)
    refine ⟨lt_of_le_of_ne hle ?_, hgap⟩
    -- on the entry's own candle the stop is not above the open
    rintro rfl
    have hsame : entry = exit := Option.some.inj (hentry.symm.trans hexit)
    have hbelow := hfresh entry (List.mem_of_getElem? hentry) _ hopens
    rw [hsame] at hbelow
    exact absurd hgap (not_lt.2 hbelow)
  · rintro ⟨tr, htr, o, hopens⟩ hgaps
    exact share_lt_of_roundedStop_le hopens.referencePos hopens.price (hgaps.fresh tr htr o hopens)

/-- Buys whenever flat, and waits for the stop. -/
def Scenario.waiting : Strategy := fun _ side =>
  match side with
  | .flat => .ok ⟨.buy, "ALWAYS_BUY", 0, []⟩
  | .long => .ok ⟨.hold, "WAIT", 0, []⟩

/-- An entry that its own candle stops, and one, when the cooldown is over, that a later candle opens
below. -/
def Scenario.stopAndGap : List Candle :=
  [Scenario.candle 0 100 100, Scenario.candle 1 100 90, Scenario.candle 2 90 90,
    Scenario.candle 3 100 100, Scenario.candle 4 90 90]

/-- The first stop costs what was planned; the second, after a gap, costs more. -/
theorem exceeding_is_later_gap_two_stops :
    ∃ r j traces v t risk, runSegment (.standard {} Scenario.filters Scenario.waiting 1 Nat.one_pos
        true) Scenario.stopAndGap 50 none = .ok (r, j) ∧
      traceSegment (.standard {} Scenario.filters Scenario.waiting 1 Nat.one_pos true)
        Scenario.stopAndGap 50 none = .ok (traces, v) ∧
      (r.trades[0]?.map fun first => (first.exitReason, some (-first.pnlQuote))) =
        some (.stopLoss, r.recordedRisk 0) ∧
      r.trades[1]? = some t ∧ t.exitReason = .stopLoss ∧ r.recordedRisk 1 = some risk ∧
      risk < -t.pnlQuote ∧
      LaterGapsOnly (.standard {} Scenario.filters Scenario.waiting 1 Nat.one_pos true) traces r := by
  rcases exists_of_isOk (x := runSegment (.standard {} Scenario.filters Scenario.waiting 1
    Nat.one_pos true) Scenario.stopAndGap 50 none) (by decide +kernel) with ⟨⟨r, j⟩, h⟩
  have hfirst : (runSegment (.standard {} Scenario.filters Scenario.waiting 1 Nat.one_pos true)
      Scenario.stopAndGap 50 none).map (fun x => decide
        ((x.1.trades[0]?.map fun first => (first.exitReason, some (-first.pnlQuote))) =
          some (.stopLoss, x.1.recordedRisk 0))) = .ok true := by decide +kernel
  have hsecond : (runSegment (.standard {} Scenario.filters Scenario.waiting 1 Nat.one_pos true)
      Scenario.stopAndGap 50 none).map
        (fun x => x.1.trades[1]?.bind fun t => (x.1.recordedRisk 1).map fun risk =>
          (t.exitReason, decide (risk < -t.pnlQuote))) = .ok (some (.stopLoss, true)) := by
    decide +kernel
  have hfit : (traceSegment (.standard {} Scenario.filters Scenario.waiting 1 Nat.one_pos true)
      Scenario.stopAndGap 50 none).map (fun x => decide (∀ tr ∈ x.1, tr.FiguresFit {})) =
        .ok true := by decide +kernel
  rw [h] at hfirst hsecond
  rcases Option.bind_eq_some_iff.1 (Except.ok.inj hsecond) with ⟨t, ht, hrest⟩
  rcases Option.map_eq_some_iff.1 hrest with ⟨risk, hrisk, hpair⟩
  have hfields := Prod.mk.inj hpair
  rcases exceeding_is_later_gap {} Scenario.filters Scenario.waiting 1 Nat.one_pos _ 50 none j r h
    with ⟨traces, v, htraces, hgaps, -⟩
  rw [htraces] at hfit
  exact ⟨r, j, traces, v, t, risk, h, htraces, of_decide_eq_true (Except.ok.inj hfirst), ht,
    hfields.1, hrisk, of_decide_eq_true hfields.2, hgaps (of_decide_eq_true (Except.ok.inj hfit))⟩

/-- Five percent of slippage over a one percent stop distance. -/
def Scenario.slippery : AppConfig where
  fees := { FeesConfig.default with slippagePct := 5 / 100, slippagePctNonneg := by norm_num }
  stopLoss := { stopDistancePct := 1 / 100 }

/-- The stop lies above the open its entry fills at, so the entry's own candle stops it out for
more than the planned risk, without any gap. -/
theorem stop_above_open_exceeds_on_entry_candle :
    ∃ r j traces v t risk, runSegment (.standard Scenario.slippery Scenario.filters
        Scenario.alternating 1 Nat.one_pos true) [Scenario.candle 0 100 100,
        Scenario.candle 1 100 100] 500 none = .ok (r, j) ∧
      traceSegment (.standard Scenario.slippery Scenario.filters Scenario.alternating 1 Nat.one_pos
        true) [Scenario.candle 0 100 100, Scenario.candle 1 100 100] 500 none = .ok (traces, v) ∧
      r.trades[0]? = some t ∧ t.exitReason = .stopLoss ∧ t.exitTimeMs = t.entryTimeMs ∧
      r.recordedRisk 0 = some risk ∧ risk < -t.pnlQuote ∧
      ¬LaterGapsOnly (.standard Scenario.slippery Scenario.filters Scenario.alternating 1
        Nat.one_pos true) traces r := by
  rcases exists_of_isOk (x := runSegment (.standard Scenario.slippery Scenario.filters
    Scenario.alternating 1 Nat.one_pos true) [Scenario.candle 0 100 100,
    Scenario.candle 1 100 100] 500 none) (by decide +kernel) with ⟨⟨r, j⟩, h⟩
  have hlost : (runSegment (.standard Scenario.slippery Scenario.filters Scenario.alternating 1
      Nat.one_pos true) [Scenario.candle 0 100 100, Scenario.candle 1 100 100] 500 none).map
        (fun x => x.1.trades[0]?.bind fun t => (x.1.recordedRisk 0).map fun risk =>
          (t.exitReason, decide (t.exitTimeMs = t.entryTimeMs ∧ risk < -t.pnlQuote))) =
            .ok (some (.stopLoss, true)) := by
    decide +kernel
  rw [h] at hlost
  rcases Option.bind_eq_some_iff.1 (Except.ok.inj hlost) with ⟨t, ht, hrest⟩
  rcases Option.map_eq_some_iff.1 hrest with ⟨risk, hrisk, hpair⟩
  have hfields := Prod.mk.inj hpair
  have hsame := of_decide_eq_true hfields.2
  rcases runSegment_traced h with ⟨traces, last, v, -, htraces, -, -⟩
  refine ⟨r, j, traces, v, t, risk, h, htraces, ht, hfields.1, hsame.1, hrisk, hsame.2, ?_⟩
  intro hgaps
  rcases hgaps.exceeding 0 t ht hfields.1 with ⟨o, a, b, entry, exit, _, hstopped, -, -⟩
  -- the stop of the entry is not below its open
  have hfresh := hgaps.fresh entry (List.mem_of_getElem? hstopped.entryAt) o hstopped.opens
  have hshare := share_lt_of_roundedStop_le hstopped.opens.referencePos hstopped.opens.price hfresh
  norm_num [roundingRoom, RunEnv.standard, Scenario.slippery] at hshare

/-- A quantity of 28 digits: the loss of the stop is rounded to one unit of its last digit more than
the planned risk, and the engine counts the candle of the entry as a gap. -/
example : (runSegment (.standard {} { Scenario.filters with
    stepSize := 0, stepScaled := by decide +kernel } Scenario.waiting 1 Nat.one_pos true)
    [Scenario.candle 0 101 101, Scenario.candle 1 101 90] 50 none).map
      (fun x => (x.1.riskReward.map RiskRewardDiagnostics.gapLossesExceedingPlannedRisk,
        x.1.recordedRisk 0, x.1.trades.map fun t => (t.exitTimeMs - t.entryTimeMs, t.pnlQuote))) =
    .ok (some 1, some (4955192488099911147892702932 / 10 ^ 28),
      [(0, -4955192488099911147892702933 / 10 ^ 28)]) := by
  decide +kernel

end Rounded

end TradingAgent
