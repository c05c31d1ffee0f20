import TradingAgent.Backtest.EntrySizing
import TradingAgent.Backtest.Gates
import Mathlib.Tactic.Positivity

/-!
# Affordability — when the simulator can overspend

Plain risk-based sizing bounds the risk and the notional of a position at the reference price, and
reserves nothing for slippage and the entry fee, which the fill then adds.  The risk/reward policy
does reserve them, but its last digit can be rounded up.

* `CanPay` is what leaves room for both, as a condition on the configuration or on the balance that
  an entry finds;
* `EntryAttempt.affordable` carries the roundings of one entry, `SafeSoFar` those facts of a run that
  the next entry and exit rely on;
* `never_overspends` runs the loop with 28 digits under the condition.
-/

namespace TradingAgent

open DecimalContext (Near unitRoundoff)

/-! ## The condition -/

/-- What a unit spent at the reference price costs once slippage and the entry fee are added. -/
def costFactor (config : AppConfig) : ℚ :=
  (1 + config.fees.slippagePct) * (1 + config.fees.takerFeePct)

/-- What a unit bought at a reference price of one loses at its stop. -/
def lossFraction (config : AppConfig) : ℚ :=
  totalLossPerUnit 1 (1 - config.stopLoss.stopDistancePct) config.fees.takerFeePct
    config.fees.slippagePct

/-- The share of the equity an entry may lose at its stop. -/
def riskShare (config : AppConfig) (policy : Bool) : ℚ :=
  if policy then fixedMaxRiskPerTradePct else config.risk.maxRiskPerTradePct

/-- More than the roundings of one entry add up to, as a share of what is rounded. -/
def roundingRoom : ℚ :=
  1 / 10 ^ 25

/-- An entry can be paid for: no BUY passes the quote-balance gate, or the largest position, or the
whole risk budget spent on one, leaves room for the costs, or the policy reserves them and the
balance is not just what some number of steps costs. -/
inductive CanPay (config : AppConfig) (policy : Bool) (filters : SymbolFilters)
    (quoteBalance price : ℚ) : Prop
  | neverOpen : config.backtest.startingEquity < config.risk.minQuoteBalance →
      CanPay config policy filters quoteBalance price
  | position : config.risk.maxPositionPct * costFactor config ≤ 1 - roundingRoom →
      CanPay config policy filters quoteBalance price
  | risk : (riskShare config policy + roundingRoom) * costFactor config ≤ lossFraction config →
      CanPay config policy filters quoteBalance price
  | reserved : policy = true → filters.stepSize ≠ 0 →
      (∀ steps : ℤ, quoteBalance * roundingRoom <
        |steps * |filters.stepSize| * (price * costFactor config) - quoteBalance|) →
      CanPay config policy filters quoteBalance price

/-! ## What rounding adds to a cost -/

section Budget

variable {price d fee slippage quantity raw : ℚ} {filters : SymbolFilters}

theorem fillPriceAt_near (hprice : 0 ≤ price) (hslippage : 0 ≤ slippage) :
    Near 2 (fillPriceAt price slippage) (price * (1 + slippage)) :=
  (Near.refl hprice).mul ((Near.refl zero_le_one).add (.refl hslippage))

/-- What `apply_buy` computes an entry to cost. -/
def buyCost (quantity price fee slippage : ℚ) : ℚ :=
  let notional := DecimalContext.default.mul quantity (fillPriceAt price slippage)
  DecimalContext.default.add notional (DecimalContext.default.mul notional fee)

theorem buyCost_le (hquantity : 0 ≤ quantity) (hprice : 0 ≤ price) (hfee : 0 ≤ fee)
    (hslippage : 0 ≤ slippage) :
    buyCost quantity price fee slippage ≤
      quantity * (price * ((1 + slippage) * (1 + fee))) * (1 + unitRoundoff) ^ 5 := by
  have hnotional := (Near.refl hquantity).mul (fillPriceAt_near hprice hslippage)
  have hcost := (hnotional.mono (by decide : 3 ≤ 4)).add (hnotional.mul (.refl hfee))
  calc buyCost quantity price fee slippage
      ≤ (quantity * (price * (1 + slippage)) + quantity * (price * (1 + slippage)) * fee) *
          (1 + unitRoundoff) ^ 5 := hcost.high
    _ = quantity * (price * ((1 + slippage) * (1 + fee))) * (1 + unitRoundoff) ^ 5 := by ring

theorem entryCost_near (hprice : 0 ≤ price) (hfee : 0 ≤ fee) (hslippage : 0 ≤ slippage) :
    Near 4 (entryCost price fee slippage .default) (price * ((1 + slippage) * (1 + fee))) := by
  have hcost := (fillPriceAt_near hprice hslippage).mul ((Near.refl zero_le_one).add (.refl hfee))
  rw [mul_assoc] at hcost
  exact hcost

/-- Rounding to a step adds at most what its quotient was rounded by. -/
theorem rounded_le (h : roundQuantity raw filters .default = .ok quantity) (hpos : 0 < quantity) :
    quantity ≤ raw * (1 + unitRoundoff) := by
  have hraw := raw_pos h hpos
  by_cases hstep : filters.stepSize = 0
  · rw [roundQuantity_of_step_zero hstep] at h
    cases h
    nlinarith [DecimalContext.unitRoundoff_pos]
  · have hunit : 0 < |filters.stepSize| := abs_pos.2 hstep
    have hquotient := ((Near.refl (div_nonneg hraw.le hunit.le)).round).high
    have hfloor := Int.floor_le (DecimalContext.default.div raw |filters.stepSize|)
    rw [(rounded_eq h hraw.le hstep).1, shownQuantity, stepsHeld]
    calc (⌊DecimalContext.default.div raw |filters.stepSize|⌋ : ℚ) * |filters.stepSize|
        ≤ raw / |filters.stepSize| * (1 + unitRoundoff) ^ (0 + 1) * |filters.stepSize| :=
          mul_le_mul_of_nonneg_right (hfloor.trans hquotient) hunit.le
      _ = raw * (1 + unitRoundoff) := by
          field_simp
          ring

/-- Rounding a stop's loss per unit takes little of it. -/
theorem rounded_loss_ge {entry exit a b : ℚ} (hentry : Near 2 entry a) (hexit : Near 4 exit b)
    (hba : b ≤ a) (hfee : 0 ≤ fee) :
    a - b + a * fee + b * fee - a * (1 + fee) / 10 ^ 26 ≤
      DecimalContext.default.add
        (DecimalContext.default.add (DecimalContext.default.sub entry exit)
          (DecimalContext.default.mul entry fee))
        (DecimalContext.default.mul exit fee) := by
  have hpaid := hentry.mul (.refl hfee)
  have hlater := hexit.mul (.refl hfee)
  have hbaFee := mul_le_mul_of_nonneg_right hba hfee
  generalize DecimalContext.default.mul entry fee = paid at hpaid
  generalize DecimalContext.default.mul exit fee = later at hlater
  -- the three roundings of the sum, each by a share of what it adds up
  have hgap := abs_le.1 (DecimalContext.abs_default_sub_sub_le entry exit)
  generalize DecimalContext.default.sub entry exit = gap at hgap
  have hsum := abs_le.1 (DecimalContext.abs_default_add_sub_le gap paid)
  generalize DecimalContext.default.add gap paid = sum at hsum
  have htotal := (abs_le.1 (DecimalContext.abs_default_add_sub_le sum later)).1
  generalize DecimalContext.default.add sum later = total at htotal
  rw [abs_of_nonneg hentry.rounded_nonneg, abs_of_nonneg hexit.rounded_nonneg] at hgap
  rw [abs_of_nonneg hpaid.rounded_nonneg] at hsum
  rw [abs_of_nonneg hlater.rounded_nonneg] at htotal
  have ha := hentry.nonneg
  have haFee := hpaid.nonneg
  have hentryHigh := hentry.high
  have hentryLow := hentry.low
  have hexitHigh := hexit.high
  have hpaidHigh := hpaid.high
  have hpaidLow := hpaid.low
  have hlaterHigh := hlater.high
  have hlaterLow := hlater.low
  norm_num [unitRoundoff] at hentryHigh hentryLow hexitHigh
  norm_num [unitRoundoff] at hpaidHigh hpaidLow hlaterHigh hlaterLow
  norm_num [unitRoundoff] at hgap hsum htotal
  have hgapAbs : |gap| ≤ 3 * a := by
    rw [abs_le]
    constructor <;> linarith
  have hsumAbs : |sum| ≤ 4 * a + 2 * (a * fee) := by
    rw [abs_le]
    constructor <;> linarith
  linarith

/-- The rounded loss per unit of an entry, against the loss fraction of its configuration. -/
theorem entryLoss_ge (config : AppConfig) (hslippage : config.fees.slippagePct < 1)
    (hprice : 0 ≤ price) :
    price * (lossFraction config - costFactor config / 10 ^ 26) ≤
      entryLoss price config.stopLoss.stopDistancePct config.fees.takerFeePct
        config.fees.slippagePct .default := by
  have hfee := config.fees.takerFeePctNonneg
  have hslip := config.fees.slippagePctNonneg
  have hd := config.stopLoss.stopDistancePctPos
  have hd1 := config.stopLoss.stopDistancePctLt
  have hdistance : 0 ≤ 1 - config.stopLoss.stopDistancePct := by linarith
  have hkept : 0 ≤ 1 - config.fees.slippagePct := by linarith
  have hstop := (Near.refl hprice).mul (Near.refl hdistance).round
  have hexit := hstop.mul (Near.refl hkept).round
  have hshare : (1 - config.stopLoss.stopDistancePct) * (1 - config.fees.slippagePct) ≤
      1 + config.fees.slippagePct :=
    (mul_le_one₀ (by linarith) hkept (by linarith)).trans (by linarith)
  have hba : price * (1 - config.stopLoss.stopDistancePct) * (1 - config.fees.slippagePct) ≤
      price * (1 + config.fees.slippagePct) := by
    rw [mul_assoc]
    exact mul_le_mul_of_nonneg_left hshare hprice
  have hloss := rounded_loss_ge (fillPriceAt_near hprice hslip) hexit hba hfee
  refine le_trans (le_of_eq ?_) hloss
  simp only [lossFraction, totalLossPerUnit, costFactor, DecimalContext.exact_add,
    DecimalContext.exact_sub, DecimalContext.exact_mul]
  ring

end Budget

theorem costFactor_pos (config : AppConfig) : 0 < costFactor config := by
  have hs := config.fees.slippagePctNonneg
  have hf := config.fees.takerFeePctNonneg
  exact mul_pos (by linarith) (by linarith)

theorem riskShare_mem (config : AppConfig) (policy : Bool) :
    0 ≤ riskShare config policy ∧ riskShare config policy ≤ 1 := by
  unfold riskShare
  split
  · norm_num [fixedMaxRiskPerTradePct]
  · exact ⟨config.risk.maxRiskPerTradePctPos.le, config.risk.maxRiskPerTradePctLe⟩

section Entry

open scoped Interpreter

variable {env : RunEnv} {candle : Candle} {v v' : LoopVars} {S : ℚ}

/-- Everything about an entry that its cost depends on. -/
structure EntryAttempt.Sized (e : EntryAttempt env candle v) : Prop where
  pricePos : 0 < candle.open
  gates : RiskEngine.BuyGatesOpen env.config.risk
    ⟨.buy, candle.symbol, e.quantity, candle.open⟩ (v.contextAtOpen candle) .default
  quantityPos : 0 < e.quantity
  lossPos : 0 < entryLoss candle.open env.config.stopLoss.stopDistancePct
    env.config.fees.takerFeePct env.config.fees.slippagePct .default
  byRisk : e.quantity ≤ DecimalContext.default.div
    (DecimalContext.default.mul (v.equityAtOpen candle)
      (riskShare env.config env.useFixedRiskRewardPolicy))
    (entryLoss candle.open env.config.stopLoss.stopDistancePct env.config.fees.takerFeePct
      env.config.fees.slippagePct .default) * (1 + unitRoundoff)
  byBalance : env.useFixedRiskRewardPolicy = true →
    e.quantity ≤ DecimalContext.default.div v.state.portfolio.quoteBalance
      (entryCost candle.open env.config.fees.takerFeePct env.config.fees.slippagePct .default) *
        (1 + unitRoundoff)
  onGrid : env.filters.stepSize ≠ 0 → ∃ steps : ℤ, e.quantity = steps * |env.filters.stepSize|

/-- The raw size of an entry, in either sizing mode. -/
theorem sizePendingSignal_raw (henv : env.Standard) {price equity q : ℚ} {p : PortfolioState}
    {code : ReasonCode} {plan : Option RiskRewardPlan}
    (h : sizePendingSignal env .buy price equity p = .ok (⟨true, some q, code⟩, plan)) :
    0 < price ∧
    0 < entryLoss price env.config.stopLoss.stopDistancePct env.config.fees.takerFeePct
      env.config.fees.slippagePct .default ∧
    ∃ raw, roundQuantity raw env.filters .default = .ok q ∧
      raw ≤ DecimalContext.default.div
        (DecimalContext.default.mul equity (riskShare env.config env.useFixedRiskRewardPolicy))
        (entryLoss price env.config.stopLoss.stopDistancePct env.config.fees.takerFeePct
          env.config.fees.slippagePct .default) ∧
      (env.useFixedRiskRewardPolicy = true →
        raw ≤ DecimalContext.default.div p.quoteBalance
          (entryCost price env.config.fees.takerFeePct env.config.fees.slippagePct .default)) := by
  simp only [sizePendingSignal, henv.imports, EngineImports.current] at h
  by_cases hpolicy : env.useFixedRiskRewardPolicy = true
  · rw [if_pos hpolicy] at h
    rcases exists_of_bind_ok h with ⟨approvedPlan, hplan, hsized⟩
    simp only [Except.ok.injEq, Prod.mk.injEq, SizingDecision.mk.injEq] at hsized
    rcases hsized with ⟨⟨happroved, hquantity, -⟩, rfl⟩
    rcases exists_admitted hplan happroved with ⟨quantity, rawTarget, target, hadmitted, rfl⟩
    rw [assessedPlan_quantity happroved, Option.some.injEq] at hquantity
    subst hquantity
    refine ⟨hadmitted.pricePos, hadmitted.lossPos, _, hadmitted.capped, ?_, fun _ => min_le_right _ _⟩
    rw [riskShare, if_pos hpolicy]
    exact min_le_left _ _
  · rw [if_neg hpolicy] at h
    rcases exists_of_bind_ok h with ⟨sizing, hsized, hsizing⟩
    cases hsizing
    rcases computeRiskBasedBuyQuantity_approved hsized with ⟨hprice, -, hloss, hrounded⟩
    refine ⟨hprice, hloss, _, hrounded, ?_, fun htrue => absurd htrue hpolicy⟩
    rw [riskShare, if_neg hpolicy]
    exact min_le_left _ _

theorem EntryAttempt.sizedFacts (henv : env.Standard) (e : EntryAttempt env candle v) : e.Sized := by
  rcases e.sized with ⟨code, hsized⟩
  rcases e.validated with ⟨validCode, hvalidated⟩
  rcases sizePendingSignal_raw henv hsized with ⟨hprice, hloss, raw, hraw, hrisk, hbalance⟩
  rw [henv.imports] at hvalidated
  rcases validateOrder_approved hvalidated with ⟨hagain, hpos⟩
  -- rounding an already rounded size again changes nothing
  have hrequested : 0 < e.requested := raw_pos hagain hpos
  have hquantity : e.quantity = e.requested :=
    Except.ok.inj (hagain.symm.trans (roundQuantity_rounded_default hraw hrequested))
  have hgated := e.gated
  rw [henv.imports, henv.riskEngine, ← hquantity] at hgated
  have hle := rounded_le hraw hrequested
  have hroom : 0 ≤ 1 + unitRoundoff := by linarith [DecimalContext.unitRoundoff_pos]
  rw [← hquantity] at hle hraw
  refine ⟨hprice, RiskEngine.evaluate_buy_approved rfl hgated, hpos, hloss,
    hle.trans (mul_le_mul_of_nonneg_right hrisk hroom),
    fun hpolicy => hle.trans (mul_le_mul_of_nonneg_right (hbalance hpolicy) hroom), ?_⟩
  intro hstep
  exact ⟨_, (rounded_eq hraw (raw_pos hraw hpos).le hstep).1⟩

/-! ## One entry -/

theorem equityAtOpen_of_flat (hbase : v.state.portfolio.baseBalance = 0) :
    v.equityAtOpen candle = DecimalContext.default.round v.state.portfolio.quoteBalance := by
  simp [LoopVars.equityAtOpen, PortfolioState.equity, hbase, DecimalContext.mul, DecimalContext.add,
    DecimalContext.keepsSign_default.zero]

/-- A size that was rounded down from a quotient spends what was divided, up to two roundings. -/
theorem mul_le_of_le_rounded_div {a b q : ℚ} (ha : 0 ≤ a) (hb : 0 < b)
    (h : q ≤ DecimalContext.default.div a b * (1 + unitRoundoff)) :
    q * b ≤ a * (1 + unitRoundoff) ^ 2 := by
  have hu := DecimalContext.unitRoundoff_pos
  have hquotient := ((Near.refl (div_nonneg ha hb.le)).round).high
  calc q * b ≤ a / b * (1 + unitRoundoff) ^ (0 + 1) * (1 + unitRoundoff) * b :=
        mul_le_mul_of_nonneg_right
          (h.trans (mul_le_mul_of_nonneg_right hquotient (by linarith))) hb.le
    _ = a * (1 + unitRoundoff) ^ 2 := by
        field_simp
        ring

/-- The balance covers what the entry costs, with room for the five roundings of its cost. -/
def EntryAttempt.Covered (e : EntryAttempt env candle v) : Prop :=
  e.quantity * (candle.open * costFactor env.config) * (1 + unitRoundoff) ^ 5 ≤
    v.state.portfolio.quoteBalance

namespace EntryAttempt.Sized

variable {e : EntryAttempt env candle v}

/-- The gate bounds the position, and the largest one leaves room for its costs. -/
theorem covered_of_position (h : e.Sized)
    (hequity : v.equityAtOpen candle ≤ v.state.portfolio.quoteBalance * (1 + unitRoundoff))
    (hroom : env.config.risk.maxPositionPct * costFactor env.config ≤ 1 - roundingRoom) :
    e.Covered := by
  have hu := DecimalContext.unitRoundoff_pos
  have hu1 := DecimalContext.unitRoundoff_lt_one
  have hE : 0 < v.equityAtOpen candle := h.gates.equity
  have hQ : 0 < v.state.portfolio.quoteBalance :=
    pos_of_mul_pos_left (hE.trans_le hequity) (by linarith)
  have hcf := costFactor_pos env.config
  -- the gate compares a share that was rounded twice, the notional and the quotient
  have hnotional := (Near.refl h.quantityPos.le).mul (Near.refl h.pricePos.le)
  have hgate := ((Near.refl (div_nonneg hnotional.rounded_nonneg hE.le)).round).low.trans
    h.gates.position
  have hbound : e.quantity * candle.open * (1 - unitRoundoff) ^ 2 ≤
      env.config.risk.maxPositionPct * v.equityAtOpen candle := by
    rw [div_mul_eq_mul_div, div_le_iff₀ hE] at hgate
    calc e.quantity * candle.open * (1 - unitRoundoff) ^ 2
        = e.quantity * candle.open * (1 - unitRoundoff) ^ (0 + 0 + 1) *
            (1 - unitRoundoff) ^ (0 + 1) := by ring
      _ ≤ DecimalContext.default.mul e.quantity candle.open * (1 - unitRoundoff) ^ (0 + 1) :=
        mul_le_mul_of_nonneg_right hnotional.low (pow_nonneg (by linarith) _)
      _ ≤ env.config.risk.maxPositionPct * v.equityAtOpen candle := hgate
  -- the room is more than all the roundings of the gate and of the cost
  have hlast : (1 - roundingRoom) * (1 + unitRoundoff) ^ 6 ≤ (1 - unitRoundoff) ^ 2 := by
    norm_num [roundingRoom, unitRoundoff]
  refine le_of_mul_le_mul_right ?_ (pow_pos (by linarith : 0 < 1 - unitRoundoff) 2)
  calc e.quantity * (candle.open * costFactor env.config) * (1 + unitRoundoff) ^ 5 *
        (1 - unitRoundoff) ^ 2
      = e.quantity * candle.open * (1 - unitRoundoff) ^ 2 *
          (costFactor env.config * (1 + unitRoundoff) ^ 5) := by ring
    _ ≤ env.config.risk.maxPositionPct * (v.state.portfolio.quoteBalance * (1 + unitRoundoff)) *
          (costFactor env.config * (1 + unitRoundoff) ^ 5) :=
        mul_le_mul_of_nonneg_right
          (hbound.trans (mul_le_mul_of_nonneg_left hequity env.config.risk.maxPositionPctPos.le))
          (mul_nonneg hcf.le (pow_nonneg (by linarith) 5))
    _ = env.config.risk.maxPositionPct * costFactor env.config *
          (v.state.portfolio.quoteBalance * (1 + unitRoundoff) ^ 6) := by ring
    _ ≤ (1 - roundingRoom) * (v.state.portfolio.quoteBalance * (1 + unitRoundoff) ^ 6) :=
        mul_le_mul_of_nonneg_right hroom (mul_nonneg hQ.le (pow_nonneg (by linarith) 6))
    _ = v.state.portfolio.quoteBalance * ((1 - roundingRoom) * (1 + unitRoundoff) ^ 6) := by ring
    _ ≤ v.state.portfolio.quoteBalance * (1 - unitRoundoff) ^ 2 :=
        mul_le_mul_of_nonneg_left hlast hQ.le

/-- The budget bounds the loss, and the whole of it spent on one entry leaves room for its costs. -/
theorem covered_of_risk (h : e.Sized) (hslippage : env.config.fees.slippagePct < 1)
    (hequity : v.equityAtOpen candle ≤ v.state.portfolio.quoteBalance * (1 + unitRoundoff))
    (hroom : (riskShare env.config env.useFixedRiskRewardPolicy + roundingRoom) *
      costFactor env.config ≤ lossFraction env.config) :
    e.Covered := by
  have hu := DecimalContext.unitRoundoff_pos
  have hE : 0 < v.equityAtOpen candle := h.gates.equity
  have hQ : 0 < v.state.portfolio.quoteBalance :=
    pos_of_mul_pos_left (hE.trans_le hequity) (by linarith)
  have hcf := costFactor_pos env.config
  rcases riskShare_mem env.config env.useFixedRiskRewardPolicy with ⟨hr, hr1⟩
  have hL := h.lossPos
  have hloss := entryLoss_ge env.config hslippage h.pricePos.le
  have hsize := h.byRisk
  generalize entryLoss candle.open env.config.stopLoss.stopDistancePct env.config.fees.takerFeePct
    env.config.fees.slippagePct .default = loss at hL hloss hsize
  generalize riskShare env.config env.useFixedRiskRewardPolicy = share at hr hr1 hroom hsize
  have hbudget := (Near.refl hE.le).mul (Near.refl hr)
  -- the loss of the whole entry stays within the budget, up to three roundings
  have hrisk : e.quantity * loss ≤ v.equityAtOpen candle * share * (1 + unitRoundoff) ^ 3 := by
    calc e.quantity * loss ≤ DecimalContext.default.mul (v.equityAtOpen candle) share *
          (1 + unitRoundoff) ^ 2 := mul_le_of_le_rounded_div hbudget.rounded_nonneg hL hsize
      _ ≤ v.equityAtOpen candle * share * (1 + unitRoundoff) ^ (0 + 0 + 1) *
            (1 + unitRoundoff) ^ 2 :=
          mul_le_mul_of_nonneg_right hbudget.high (pow_nonneg (by linarith) 2)
      _ = v.equityAtOpen candle * share * (1 + unitRoundoff) ^ 3 := by ring
  have hroomPos : (0 : ℚ) < roundingRoom - 1 / 10 ^ 26 := by norm_num [roundingRoom]
  have hunit : candle.open * costFactor env.config * (share + (roundingRoom - 1 / 10 ^ 26)) ≤
      loss := by
    have hfraction : costFactor env.config * (share + (roundingRoom - 1 / 10 ^ 26)) ≤
        lossFraction env.config - costFactor env.config / 10 ^ 26 := by linarith
    calc candle.open * costFactor env.config * (share + (roundingRoom - 1 / 10 ^ 26))
        = candle.open * (costFactor env.config * (share + (roundingRoom - 1 / 10 ^ 26))) := by ring
      _ ≤ candle.open * (lossFraction env.config - costFactor env.config / 10 ^ 26) :=
          mul_le_mul_of_nonneg_left hfraction h.pricePos.le
      _ ≤ loss := hloss
  have hlast : share * (1 + unitRoundoff) ^ 9 ≤ share + (roundingRoom - 1 / 10 ^ 26) := by
    have hpower : (1 + unitRoundoff) ^ 9 ≤ 1 + (roundingRoom - 1 / 10 ^ 26) := by
      norm_num [roundingRoom, unitRoundoff]
    calc share * (1 + unitRoundoff) ^ 9 ≤ share * (1 + (roundingRoom - 1 / 10 ^ 26)) :=
          mul_le_mul_of_nonneg_left hpower hr
      _ = share + share * (roundingRoom - 1 / 10 ^ 26) := by ring
      _ ≤ share + 1 * (roundingRoom - 1 / 10 ^ 26) := by
          linarith [mul_le_mul_of_nonneg_right hr1 hroomPos.le]
      _ = share + (roundingRoom - 1 / 10 ^ 26) := by ring
  refine le_of_mul_le_mul_right ?_ (by linarith : 0 < share + (roundingRoom - 1 / 10 ^ 26))
  calc e.quantity * (candle.open * costFactor env.config) * (1 + unitRoundoff) ^ 5 *
        (share + (roundingRoom - 1 / 10 ^ 26))
      = e.quantity * (candle.open * costFactor env.config *
          (share + (roundingRoom - 1 / 10 ^ 26))) * (1 + unitRoundoff) ^ 5 := by ring
    _ ≤ e.quantity * loss * (1 + unitRoundoff) ^ 5 :=
        mul_le_mul_of_nonneg_right (mul_le_mul_of_nonneg_left hunit h.quantityPos.le)
          (pow_nonneg (by linarith) 5)
    _ ≤ v.equityAtOpen candle * share * (1 + unitRoundoff) ^ 3 * (1 + unitRoundoff) ^ 5 :=
        mul_le_mul_of_nonneg_right hrisk (pow_nonneg (by linarith) 5)
    _ = v.equityAtOpen candle * (share * (1 + unitRoundoff) ^ 8) := by ring
    _ ≤ v.state.portfolio.quoteBalance * (1 + unitRoundoff) * (share * (1 + unitRoundoff) ^ 8) :=
        mul_le_mul_of_nonneg_right hequity (mul_nonneg hr (pow_nonneg (by linarith) 8))
    _ = v.state.portfolio.quoteBalance * (share * (1 + unitRoundoff) ^ 9) := by ring
    _ ≤ v.state.portfolio.quoteBalance * (share + (roundingRoom - 1 / 10 ^ 26)) :=
        mul_le_mul_of_nonneg_left hlast hQ.le

/-- The policy divides the balance by the cost of a unit, and what was rounded down to a step is
further below it than rounding reaches. -/
theorem covered_of_reserve (h : e.Sized) (hQ : 0 ≤ v.state.portfolio.quoteBalance)
    (hpolicy : env.useFixedRiskRewardPolicy = true) (hstep : env.filters.stepSize ≠ 0)
    (hroom : ∀ steps : ℤ, v.state.portfolio.quoteBalance * roundingRoom <
      |steps * |env.filters.stepSize| * (candle.open * costFactor env.config) -
        v.state.portfolio.quoteBalance|) :
    e.Covered := by
  have hu := DecimalContext.unitRoundoff_pos
  have hu1 := DecimalContext.unitRoundoff_lt_one
  have hunit : 0 < candle.open * costFactor env.config :=
    mul_pos h.pricePos (costFactor_pos env.config)
  have hcost := entryCost_near h.pricePos.le env.config.fees.takerFeePctNonneg
    env.config.fees.slippagePctNonneg
  have hpower : 0 < (1 - unitRoundoff) ^ 4 := pow_pos (by linarith) 4
  have hcostPos : 0 < entryCost candle.open env.config.fees.takerFeePct
      env.config.fees.slippagePct .default := (mul_pos hunit hpower).trans_le hcost.low
  have hle : e.quantity * (candle.open * costFactor env.config) ≤
      v.state.portfolio.quoteBalance * (1 + roundingRoom) := by
    have hlast : (1 + unitRoundoff) ^ 2 ≤ (1 + roundingRoom) * (1 - unitRoundoff) ^ 4 := by
      norm_num [roundingRoom, unitRoundoff]
    refine le_of_mul_le_mul_right ?_ hpower
    calc e.quantity * (candle.open * costFactor env.config) * (1 - unitRoundoff) ^ 4
        = e.quantity * (candle.open * costFactor env.config * (1 - unitRoundoff) ^ 4) := by ring
      _ ≤ e.quantity * entryCost candle.open env.config.fees.takerFeePct
            env.config.fees.slippagePct .default :=
          mul_le_mul_of_nonneg_left hcost.low h.quantityPos.le
      _ ≤ v.state.portfolio.quoteBalance * (1 + unitRoundoff) ^ 2 :=
          mul_le_of_le_rounded_div hQ hcostPos (h.byBalance hpolicy)
      _ ≤ v.state.portfolio.quoteBalance * (1 + roundingRoom) * (1 - unitRoundoff) ^ 4 := by
          rw [mul_assoc]
          exact mul_le_mul_of_nonneg_left hlast hQ
  rcases h.onGrid hstep with ⟨steps, hsteps⟩
  have hoff := hroom steps
  rw [← hsteps] at hoff
  -- it is not just above the balance, so it is well below
  have hbelow : e.quantity * (candle.open * costFactor env.config) ≤
      v.state.portfolio.quoteBalance * (1 - roundingRoom) := by
    rcases lt_abs.1 hoff with habove | hbelow
    · linarith
    · linarith
  have hlast : (1 - roundingRoom) * (1 + unitRoundoff) ^ 5 ≤ 1 := by
    norm_num [roundingRoom, unitRoundoff]
  calc e.quantity * (candle.open * costFactor env.config) * (1 + unitRoundoff) ^ 5
      ≤ v.state.portfolio.quoteBalance * (1 - roundingRoom) * (1 + unitRoundoff) ^ 5 :=
        mul_le_mul_of_nonneg_right hbelow (pow_nonneg (by linarith) 5)
    _ = v.state.portfolio.quoteBalance * ((1 - roundingRoom) * (1 + unitRoundoff) ^ 5) := by ring
    _ ≤ v.state.portfolio.quoteBalance * 1 := mul_le_mul_of_nonneg_left hlast hQ
    _ = v.state.portfolio.quoteBalance := mul_one _

end EntryAttempt.Sized

/-- What the broker charges for an entry, and what it costs exactly. -/
structure EntryAttempt.Paid (e : EntryAttempt env candle v) : Prop where
  charged : decimal.add
      (decimal.mul e.quantity (env.imports.simulateBuy env.broker e.quantity candle.open).fillPrice)
      (env.imports.simulateBuy env.broker e.quantity candle.open).feeQuote ≤
    v.state.portfolio.quoteBalance
  exact : e.quantity * (candle.open * costFactor env.config) ≤ v.state.portfolio.quoteBalance

theorem EntryAttempt.Covered.paid (henv : env.Standard) {e : EntryAttempt env candle v}
    (h : e.Covered) (hsized : e.Sized) : e.Paid := by
  have hunit : 0 ≤ e.quantity * (candle.open * costFactor env.config) :=
    mul_nonneg hsized.quantityPos.le
      (mul_nonneg hsized.pricePos.le (costFactor_pos env.config).le)
  refine ⟨?_, le_trans ?_ h⟩
  · have hcost := buyCost_le hsized.quantityPos.le hsized.pricePos.le
      env.config.fees.takerFeePctNonneg env.config.fees.slippagePctNonneg
    rw [henv.imports, henv.broker]
    exact hcost.trans h
  · exact le_mul_of_one_le_right hunit
      (one_le_pow₀ (by linarith [DecimalContext.unitRoundoff_pos]))

/-! ## The books of a run -/

/-- The base balance and the entry price go with the position. -/
structure PortfolioState.Tidy (p : PortfolioState) : Prop where
  flatBase : p.positionSide = .flat → p.baseBalance = 0
  longAvg : p.positionSide = .long → ∃ avg, p.avgEntryPrice = some avg

theorem PortfolioState.tidy_applyBuy {p p' : PortfolioState} {q price fee : ℚ} {estimated : Bool}
    {context : DecimalContext} (h : applyBuy p q price fee estimated context = .ok p') : p'.Tidy := by
  rcases applyBuy_returned h with ⟨-, -, rfl⟩
  refine ⟨?_, fun _ => ⟨price, rfl⟩⟩
  intro hflat
  cases hflat

/-- What is left of a position that is not open any more is nothing. -/
theorem PortfolioState.tidy_applySell {p p' : PortfolioState} {q price fee : ℚ} {estimated : Bool}
    (h : applySell p q price fee estimated .default = .ok p') : p'.Tidy := by
  rcases applySell_returned h with ⟨avg, -, -, hq, rfl⟩
  have hleft : 0 ≤ DecimalContext.default.sub p.baseBalance q :=
    DecimalContext.significant_nonneg (sub_nonneg.2 hq)
  constructor
  · intro hflat
    by_cases hopen : DecimalContext.default.sub p.baseBalance q > 0
    · simp [hopen] at hflat
    · exact le_antisymm (not_lt.1 hopen) hleft
  · intro hlong
    by_cases hopen : DecimalContext.default.sub p.baseBalance q > 0
    · exact ⟨avg, by simp [hopen]⟩
    · simp [hopen] at hlong

theorem PortfolioState.Tidy.sells {p : PortfolioState} (h : p.Tidy) (hlong : p.positionSide = .long)
    {q : ℚ} (hq : q ≤ p.baseBalance) (price fee : ℚ) (context : DecimalContext) :
    ∃ p', applySell p q price fee false context = .ok p' := by
  rcases h.longAvg hlong with ⟨avg, havg⟩
  simp [applySell, hlong, havg, not_lt.2 hq]

theorem PortfolioState.Tidy.filled (henv : env.Standard) (h : v.state.portfolio.Tidy)
    (hfill : fillPending env candle v = .ok v') : v'.state.portfolio.Tidy := by
  rcases fillPending_cases hfill with ⟨-, rfl⟩ | ⟨signalType, m, -, hres, rfl⟩
  · exact h
  rcases resolvePendingSignal_cases hres with
    ⟨rows, diag, -, -, rfl⟩ | ⟨-, e, rfl⟩ | ⟨-, e, rfl⟩
  · exact h
  · have hbought := e.bought
    unfold EntryAttempt.buy at hbought
    rw [henv.imports] at hbought
    exact tidy_applyBuy hbought
  · have hsold := e.sold
    unfold ExitAttempt.sell at hsold
    rw [henv.imports] at hsold
    exact tidy_applySell hsold

theorem PortfolioState.Tidy.guarded (henv : env.Standard) (h : v.state.portfolio.Tidy)
    (hexit : protectiveExit env candle v = .ok v') : v'.state.portfolio.Tidy := by
  rcases protectiveExit_cases hexit with rfl | ⟨e, rfl⟩
  · exact h
  · have hsold := e.sold
    rw [henv.imports] at hsold
    exact tidy_applySell hsold

/-- The loop, with every pending signal one its strategy may emit for the position it will find. -/
structure SafeSoFar (env : RunEnv) (S : ℚ) (v : LoopVars) : Prop where
  tidy : v.state.portfolio.Tidy
  pendingBuy : v.pendingSignal = some .buy → v.state.portfolio.positionSide = .flat
  pendingExit : v.pendingSignal = some .exit → v.state.portfolio.positionSide = .long
  idle : S < env.config.risk.minQuoteBalance → v.state.portfolio = .initial S

/-- An entry that reaches the portfolio can be paid for. -/
theorem EntryAttempt.covered (henv : env.Standard) (hslippage : env.config.fees.slippagePct < 1)
    (hS : S = env.config.backtest.startingEquity) (hsafe : SafeSoFar env S v)
    (hflat : v.state.portfolio.positionSide = .flat)
    (hpay : CanPay env.config env.useFixedRiskRewardPolicy env.filters
      v.state.portfolio.quoteBalance candle.open) (e : EntryAttempt env candle v) : e.Covered := by
  have hsized := e.sizedFacts henv
  have hround : v.equityAtOpen candle =
      DecimalContext.default.round v.state.portfolio.quoteBalance :=
    equityAtOpen_of_flat (hsafe.tidy.flatBase hflat)
  have hQ : 0 ≤ v.state.portfolio.quoteBalance := by
    by_contra hneg
    have hE : 0 < v.equityAtOpen candle := hsized.gates.equity
    have hmirror : 0 ≤ DecimalContext.default.round (-v.state.portfolio.quoteBalance) :=
      DecimalContext.significant_nonneg (neg_nonneg.2 (not_le.1 hneg).le)
    rw [DecimalContext.default, DecimalContext.significant_neg] at hmirror
    rw [hround] at hE
    exact absurd hE (not_lt.2 (neg_nonneg.1 hmirror))
  have hequity : v.equityAtOpen candle ≤ v.state.portfolio.quoteBalance * (1 + unitRoundoff) := by
    rw [hround]
    simpa using ((Near.refl hQ).round).high
  cases hpay with
  | neverOpen hidle =>
      -- the balance is still the first one, which the gate stops
      have hquote := hsized.gates.quote
      rw [← hS] at hidle
      simp only [LoopVars.contextAtOpen, riskContext, hsafe.idle hidle, PortfolioState.initial]
        at hquote
      exact absurd hquote (not_le.2 hidle)
  | position hroom => exact hsized.covered_of_position hequity hroom
  | risk hroom => exact hsized.covered_of_risk hslippage hequity hroom
  | reserved hpolicy hstep hroom => exact hsized.covered_of_reserve hQ hpolicy hstep hroom

/-! ## The loop -/

theorem sizePendingSignal_error (henv : env.Standard) {signalType : ActionableSignal}
    {price equity : ℚ} {p : PortfolioState} {e : PyError}
    (h : sizePendingSignal env signalType price equity p = .error e) :
    e = .zeroDivision ∨ e = .invalidOperation := by
  simp only [sizePendingSignal, henv.imports, EngineImports.current] at h
  cases signalType with
  | buy =>
      dsimp only at h
      split at h
      · rcases exists_of_bind_error h with hplan | ⟨plan, -, hok⟩
        · exact (planRiskRewardEntry_eq_error_iff.1 hplan).error_eq
        · cases hok
      · rcases exists_of_bind_error h with hsize | ⟨sizing, -, hok⟩
        · exact Or.inr (computeRiskBasedBuyQuantity_eq_error hsize)
        · cases hok
  | exit =>
      rcases exists_of_bind_error h with hsize | ⟨sizing, -, hok⟩
      · exact Or.inr (computeSellQuantity_eq_error hsize)
      · cases hok

/-- What planning raises is no transition error. -/
theorem planningError_standard (henv : env.Standard) {e : PyError} (h : PlanningError env e) :
    e.isInvalidTransition = false := by
  rcases h with ⟨signalType, price, equity, portfolio, hsize⟩ | ⟨intent, hvalidate⟩ |
    ⟨plan, q, price, equity, hrealize⟩
  · rcases sizePendingSignal_error henv hsize with rfl | rfl <;> rfl
  · rw [henv.imports] at hvalidate
    rw [validateOrder_eq_error hvalidate]
    rfl
  · unfold realizePlan at hrealize
    rw [henv.imports] at hrealize
    split at hrealize
    · rcases exists_of_bind_error hrealize with hbuild | ⟨realized, -, hok⟩
      · rcases buildRealizedPlan_eq_error hbuild with hraises | rfl
        · rcases hraises.error_eq with rfl | rfl <;> rfl
        · rfl
      · cases hok
    · cases hrealize

theorem protectiveExit_safe (henv : env.Standard) (htidy : v.state.portfolio.Tidy) {e : PyError}
    (h : protectiveExit env candle v = .error e) : e.isInvalidTransition = false := by
  unfold protectiveExit at h
  split at h
  · rename_i stopPrice hlong hstop
    have hsells : ∀ fill : SimulatedFill, ∃ p',
        env.imports.applySell v.state.portfolio v.state.portfolio.baseBalance fill.fillPrice
          fill.feeQuote = .ok p' := by
      intro fill
      rw [henv.imports]
      exact htidy.sells hlong le_rfl _ _ _
    split at h
    · rcases hsells (env.imports.simulateSell env.broker v.state.portfolio.baseBalance
        (min stopPrice candle.open)) with ⟨portfolio, hsell⟩
      simp [executeStopExit, hstop, applyExitFill_eq_map, hsell, bind, Except.bind, Except.map] at h
    · split at h
      · rename_i target hpolicy htarget
        split at h
        · rcases hsells (env.imports.simulateSell env.broker v.state.portfolio.baseBalance target)
            with ⟨portfolio, hsell⟩
          simp [executeTakeProfitExit, htarget, applyExitFill_eq_map, hsell, bind, Except.bind,
            Except.map] at h
        · cases h
      · cases h
  · cases h

/-- A strategy exit sells no more than is held: rounding it twice is rounding it once. -/
theorem ExitAttempt.quantity_le (henv : env.Standard) (a : ExitAttempt env candle v) :
    a.quantity ≤ v.state.portfolio.baseBalance := by
  rcases a.sized with ⟨code, hsized⟩
  rcases a.validated with ⟨validCode, hvalidated⟩
  rw [henv.imports] at hsized hvalidated
  rcases computeSellQuantity_approved hsized with ⟨hrounded, hpos, hle⟩
  have hagain := (validateOrder_approved hvalidated).1
  have hquantity : a.quantity = a.requested :=
    Except.ok.inj (hagain.symm.trans (roundQuantity_rounded_default hrounded hpos))
  rw [hquantity]
  exact hle

/-- Filling the pending signal raises no transition error where an entry can be paid for. -/
theorem fillPending_safe (henv : env.Standard) (hslippage : env.config.fees.slippagePct < 1)
    (hS : S = env.config.backtest.startingEquity) (hsafe : SafeSoFar env S v)
    (hpay : v.pendingSignal = some .buy → CanPay env.config env.useFixedRiskRewardPolicy env.filters
      v.state.portfolio.quoteBalance candle.open) {e : PyError}
    (h : fillPending env candle v = .error e) : e.isInvalidTransition = false := by
  unfold fillPending at h
  split at h
  · cases h
  rename_i signalType hpending
  rcases exists_of_bind_error h with hresolve | ⟨m, -, hok⟩
  swap
  · cases hok
  rcases resolvePendingSignal_outcome env signalType candle v with
    ⟨e', hplanning, herror⟩ | ⟨rows, diag, -, -, hok⟩ | ⟨rfl, a, hmap⟩ | ⟨rfl, a, hmap⟩
  · rw [hresolve] at herror
    cases herror
    exact planningError_standard henv hplanning
  · rw [hresolve] at hok
    cases hok
  · -- the buy is paid for, so it returns
    have hflat := hsafe.pendingBuy hpending
    have hcovered := a.covered henv hslippage hS hsafe hflat (hpay hpending)
    have hcharged := (hcovered.paid henv (a.sizedFacts henv)).charged
    have hbuy : ∃ p', a.buy = .ok p' := by
      unfold EntryAttempt.buy
      rw [henv.imports] at hcharged ⊢
      exact applyBuy_of_paid hflat hcharged false
    rcases hbuy with ⟨p', hbuy⟩
    rw [hbuy, hresolve] at hmap
    cases hmap
  · -- the sale is of no more than is held, so it returns
    have hsell : ∃ p', a.sell = .ok p' := by
      unfold ExitAttempt.sell
      have hle := a.quantity_le henv
      rw [henv.imports]
      exact hsafe.tidy.sells (hsafe.pendingExit hpending) hle _ _ _
    rcases hsell with ⟨p', hsell⟩
    rw [hsell, hresolve] at hmap
    cases hmap

theorem SafeSoFar.initial (firstClose : ℚ) (journal : Journal) :
    SafeSoFar env S (initialVars S firstClose journal) := by
  refine ⟨⟨fun _ => rfl, ?_⟩, ?_, ?_, fun _ => rfl⟩
  · intro hlong
    cases hlong
  · intro hpending
    cases hpending
  · intro hpending
    cases hpending

theorem SafeSoFar.rollDay (h : SafeSoFar env S v) : SafeSoFar env S (rollDay candle v) := by
  refine ⟨?_, ?_, ?_, ?_⟩
  · rw [rollDay_portfolio]
    exact h.tidy
  · intro hpending
    rw [rollDay_portfolio]
    exact h.pendingBuy hpending
  · intro hpending
    rw [rollDay_portfolio]
    exact h.pendingExit hpending
  · intro hidle
    rw [rollDay_portfolio]
    exact h.idle hidle

/-- What a stage of a candle leaves when nothing is pending any more. -/
structure NothingPending (env : RunEnv) (S : ℚ) (v : LoopVars) : Prop where
  tidy : v.state.portfolio.Tidy
  nonePending : v.pendingSignal = none
  idle : S < env.config.risk.minQuoteBalance → v.state.portfolio = .initial S

theorem SafeSoFar.filled (henv : env.Standard) (h : SafeSoFar env S v)
    (hfill : fillPending env candle v = .ok v') : NothingPending env S v' := by
  have htidy := h.tidy.filled henv hfill
  rcases fillPending_cases hfill with ⟨hnone, rfl⟩ | ⟨signalType, m, hpending, hres, rfl⟩
  · exact ⟨htidy, hnone, h.idle⟩
  rcases resolvePendingSignal_cases hres with
    ⟨rows, diag, -, -, rfl⟩ | ⟨-, e, rfl⟩ | ⟨rfl, e, rfl⟩
  · exact ⟨htidy, rfl, h.idle⟩
  · refine ⟨htidy, rfl, fun hidle => ?_⟩
    -- an account below the gate never enters
    have hquote := (e.sizedFacts henv).gates.quote
    simp only [LoopVars.contextAtOpen, riskContext, h.idle hidle, PortfolioState.initial] at hquote
    exact absurd hquote (not_le.2 hidle)
  · refine ⟨htidy, rfl, fun hidle => ?_⟩
    have hlong := h.pendingExit hpending
    rw [h.idle hidle] at hlong
    cases hlong

theorem NothingPending.guarded (henv : env.Standard) (h : NothingPending env S v)
    (hexit : protectiveExit env candle v = .ok v') : NothingPending env S v' := by
  have htidy := h.tidy.guarded henv hexit
  rcases protectiveExit_cases hexit with rfl | ⟨e, rfl⟩
  · exact h
  · refine ⟨htidy, h.nonePending, fun hidle => ?_⟩
    have hlong := e.long
    rw [h.idle hidle] at hlong
    cases hlong

/-- A candle keeps the run safe. -/
theorem SafeSoFar.step (henv : env.Standard) (hstrategy : env.strategy.RespectsPosition)
    {seen : List Candle} {tr : CandleTrace} (h : SafeSoFar env S tr.before)
    (htr : tr.Valid env seen) : SafeSoFar env S tr.closed := by
  have hopen : SafeSoFar env S tr.atOpen := htr.atOpen_eq ▸ h.rollDay
  have hsettled := (hopen.filled henv htr.fills).guarded henv htr.protects
  rcases htr.marks with ⟨signal, hsignal, hclosed⟩
  -- whatever is pending now was emitted for the position the candle ends in
  have hpending : tr.closed.pendingSignal = signal.type.actionable? := by
    rw [hclosed]
    simp [recordMark, hsettled.nonePending]
  have hportfolio : tr.closed.state.portfolio = tr.guarded.state.portfolio := by
    rw [hclosed]
    rfl
  refine ⟨hportfolio ▸ hsettled.tidy, ?_, ?_, fun hlow => hportfolio.trans (hsettled.idle hlow)⟩
  · intro hbuy
    rw [hpending] at hbuy
    cases hside : tr.guarded.state.portfolio.positionSide with
    | flat => rw [hportfolio, hside]
    | long =>
        rw [hside] at hsignal
        cases htype : signal.type with
        | buy => exact absurd htype (hstrategy.buyOnlyFlat seen signal hsignal)
        | exit => simp [htype, SignalType.actionable?] at hbuy
        | hold => simp [htype, SignalType.actionable?] at hbuy
  · intro hexit
    rw [hpending] at hexit
    cases hside : tr.guarded.state.portfolio.positionSide with
    | long => rw [hportfolio, hside]
    | flat =>
        rw [hside] at hsignal
        cases htype : signal.type with
        | exit => exact absurd htype (hstrategy.exitOnlyLong seen signal hsignal)
        | buy => simp [htype, SignalType.actionable?] at hexit
        | hold => simp [htype, SignalType.actionable?] at hexit

/-- A candle raises no transition error where an entry can be paid for. -/
theorem processCandle_safe (henv : env.Standard) (hstrategy : env.strategy.RespectsPosition)
    (hslippage : env.config.fees.slippagePct < 1) (hS : S = env.config.backtest.startingEquity)
    (hsafe : SafeSoFar env S v)
    (hpay : v.pendingSignal = some .buy → CanPay env.config env.useFixedRiskRewardPolicy env.filters
      v.state.portfolio.quoteBalance candle.open) {seen : List Candle} {e : PyError}
    (h : processCandle env seen candle v = .error e) : e.isInvalidTransition = false := by
  rcases exists_of_bind_error h with hfill | ⟨filled, hfill, hrest⟩
  · refine fillPending_safe henv hslippage hS hsafe.rollDay ?_ hfill
    rw [rollDay_portfolio]
    exact hpay
  rcases exists_of_bind_error hrest with hexit | ⟨guarded, hexit, hmark⟩
  · exact protectiveExit_safe henv (hsafe.rollDay.filled henv hfill).tidy hexit
  rcases exists_of_bind_error hmark with hsignal | ⟨signal, -, hok⟩
  · exact hstrategy.noTransition _ _ _ hsignal
  · cases hok

theorem run_safe (henv : env.Standard) (hstrategy : env.strategy.RespectsPosition)
    {seen rest : List Candle} (hsafe : SafeSoFar env S v)
    (h : CausalRun.run (processCandle env) seen rest v = .ok v') : SafeSoFar env S v' := by
  refine CausalRun.run_induct (fun _ u => SafeSoFar env S u) ?_ hsafe h
  intro seen candle u u' hu hstep
  rcases processCandle_cases hstep with ⟨tr, htr, -, rfl, rfl⟩
  exact hu.step henv hstrategy htr

/-! ## A whole run -/

/-- A run of the segment gets to `candle` with the variables `v`. -/
def RunReaches (env : RunEnv) (segment : List Candle) (S : ℚ) (journal : Journal) (candle : Candle)
    (v : LoopVars) : Prop :=
  ∃ first read rest, segment[env.minRequired - 1]? = some first ∧
    segment.drop (env.minRequired - 1) = read ++ candle :: rest ∧
    CausalRun.run (processCandle env) (segment.take (env.minRequired - 1)) read
      (initialVars S first.close journal) = .ok v

/-- The run raises no `InvalidTransitionError`, and every entry it makes is paid for out of the quote
balance. -/
structure NeverOverspends (env : RunEnv) (segment : List Candle) (S : ℚ) (journal : Journal) :
    Prop where
  noTransition : ∀ e, runSegment env segment S journal = .error e → e.isInvalidTransition = false
  paid : ∀ candle v, RunReaches env segment S journal candle v → v.pendingSignal = some .buy →
    ∀ a : EntryAttempt env candle (TradingAgent.rollDay candle v), a.Paid

/-- **When the simulator never overspends.**  In a run whose every BUY finds a balance that can pay,
no transition fails and every entry is paid for. -/
theorem never_overspends (config : AppConfig) (filters : SymbolFilters) (strategy : Strategy)
    (minRequired : ℕ) (hpos : 0 < minRequired) (policy : Bool) (segment : List Candle)
    (journal : Journal) (hslippage : config.fees.slippagePct < 1)
    (hstrategy : strategy.RespectsPosition)
    (hpay : ∀ candle v, RunReaches (.standard config filters strategy minRequired hpos policy) segment
        config.backtest.startingEquity journal candle v →
      v.pendingSignal = some .buy →
        CanPay config policy filters v.state.portfolio.quoteBalance candle.open) :
    NeverOverspends (.standard config filters strategy minRequired hpos policy) segment
      config.backtest.startingEquity journal := by
  have henv := RunEnv.standard_standard config filters strategy minRequired hpos policy
  constructor
  · -- the error of a run is the error of one of its candles, reached safely
    intro e herror
    unfold runSegment at herror
    split at herror
    · rename_i first last hfirst hlast
      rcases exists_of_bind_error herror with hloop | ⟨u, -, hok⟩
      · rcases CausalRun.exists_step_of_run_error hloop with
          ⟨pre, candle, post, m, hsplit, hpre, hstep⟩
        have hsafe := run_safe henv hstrategy
          (S := config.backtest.startingEquity) (.initial first.close journal) hpre
        exact processCandle_safe henv hstrategy hslippage rfl hsafe
          (hpay candle m ⟨first, pre, post, hfirst, hsplit, hpre⟩) hstep
      · cases hok
    · cases herror
      rfl
  · intro candle u hreaches hpending a
    rcases hreaches with ⟨first, read, rest, hfirst, hsplit, hrun⟩
    have hsafe : SafeSoFar _ config.backtest.startingEquity (TradingAgent.rollDay candle u) :=
      (run_safe henv hstrategy (.initial first.close journal) hrun).rollDay
    have hcan : CanPay config policy filters
        (TradingAgent.rollDay candle u).state.portfolio.quoteBalance candle.open := by
      rw [rollDay_portfolio]
      exact hpay candle u ⟨first, read, rest, hfirst, hsplit, hrun⟩ hpending
    exact (a.covered henv hslippage rfl hsafe (hsafe.pendingBuy hpending) hcan).paid henv
      (a.sizedFacts henv)

namespace Overspend

/-- Buys when flat, holds when long. -/
def buyAndHold : Strategy := fun _ side =>
  match side with
  | .flat => .ok ⟨.buy, "BUY", 0, []⟩
  | .long => .ok ⟨.hold, "HOLD", 0, []⟩

theorem buyAndHold_respectsPosition : buyAndHold.RespectsPosition := by
  refine ⟨?_, ?_, ?_⟩
  · intro candles s h
    cases h
    decide
  · intro candles s h
    cases h
    decide
  · intro candles side e h
    cases side <;> cases h

/-- Two candles of constant price. -/
def segment (price : ℚ) : List Candle :=
  [Scenario.candle 0 price price, Scenario.candle 1 price price]

theorem segment_positivePrices {price : ℚ} (hprice : 0 < price) :
    ∀ c ∈ segment price, c.PositivePrices := by
  intro c hc
  simp only [segment, List.mem_cons, List.not_mem_nil, or_false] at hc
  rcases hc with rfl | rfl <;> constructor <;> simpa [Scenario.candle] using hprice

end Overspend

/-- The default configuration may invest nine tenths of its equity, which leaves room: the BUY on the
second candle is filled. -/
theorem never_overspends_default :
    NeverOverspends (.standard {} Scenario.filters Overspend.buyAndHold 1 Nat.one_pos false)
        (Overspend.segment 100) 50 none ∧
      (runSegment (.standard {} Scenario.filters Overspend.buyAndHold 1 Nat.one_pos false)
        (Overspend.segment 100) 50 none).map (fun result => result.1.diagnostics.executedEntries) =
          .ok 1 := by
  refine ⟨never_overspends {} Scenario.filters Overspend.buyAndHold 1 Nat.one_pos false
    (Overspend.segment 100) none (by norm_num) Overspend.buyAndHold_respectsPosition ?_,
    by decide +kernel⟩
  intro candle v _ _
  exact .position (by norm_num [costFactor, roundingRoom])

/-- The default configuration with the whole equity allowed in one position: the BUY on the second
candle costs 50.075025 of the 50 the account holds. -/
theorem simulator_overspends :
    let config : AppConfig := { risk := { maxPositionPct := 1 } }
    config.fees.takerFeePct < 1 ∧ config.fees.slippagePct < 1 ∧
      Overspend.buyAndHold.RespectsPosition ∧
      (∀ c ∈ Overspend.segment 100, c.PositivePrices) ∧ 1 ≤ (Overspend.segment 100).length ∧
      ∃ e, e.isInvalidTransition = true ∧
        runSegment (.standard config Scenario.filters Overspend.buyAndHold 1 Nat.one_pos false)
          (Overspend.segment 100) config.backtest.startingEquity none = .error e := by
  refine ⟨by decide +kernel, by decide +kernel, Overspend.buyAndHold_respectsPosition,
    Overspend.segment_positivePrices (by norm_num), by decide, ?_⟩
  exact ⟨.invalidTransition (.buyCostExceeds (2003001 / 40000) 50), rfl, by decide +kernel⟩

/-- The policy reserves the costs, but its quotient is rounded up in the last digit: the BUY costs
50.00000000000000000000000001. -/
example : runSegment (.standard
    { risk := { maxPositionPct := 1 }, stopLoss := { stopDistancePct := 1 / 1000 } }
    { Scenario.filters with stepSize := 0, stepScaled := by decide +kernel } Overspend.buyAndHold 1
    Nat.one_pos true) (Overspend.segment 3) 50 none =
      .error (.invalidTransition (.buyCostExceeds (50 + 1 / 10 ^ 26) 50)) := by decide +kernel

end Entry

end TradingAgent
