import TradingAgent.Core.Decimal
import TradingAgent.Core.Market
import Mathlib.Tactic.Linarith

/-!
# Portfolio state — the pure functions that transition it

`portfolio/state.py`.  Each transition either raises or returns a new state, computing in the
current arithmetic context; the lemmas are about exact arithmetic.

* `applyBuy`, `applyPartialFillIncrease`, `applySell` are the three primitive transitions;
* `applyFillDelta` turns one execution delta into one of them;
* the `_returned` lemmas say everything a transition that succeeds has checked and written, the
  `_eq_ok` lemmas what that is in exact arithmetic, so nothing after this file unfolds a transition.
-/

namespace TradingAgent

structure PortfolioState where
  quoteBalance : ℚ
  baseBalance : ℚ
  positionSide : PositionSide
  avgEntryPrice : Option ℚ
  realizedPnlQuote : ℚ
  openPositionEntryFee : ℚ := 0
  pnlIsEstimated : Bool := false
  deriving DecidableEq, Repr

namespace PortfolioState

def equity [CurrentContext] (state : PortfolioState) (currentPrice : ℚ) : ℚ :=
  decimal.add state.quoteBalance (decimal.mul state.baseBalance currentPrice)

theorem equity_eq (state : PortfolioState) (currentPrice : ℚ) :
    state.equity currentPrice = state.quoteBalance + state.baseBalance * currentPrice := rfl

def initial (startingQuoteBalance : ℚ) : PortfolioState where
  quoteBalance := startingQuoteBalance
  baseBalance := 0
  positionSide := .flat
  avgEntryPrice := none
  realizedPnlQuote := 0

end PortfolioState

inductive OrderSide where
  | buy
  | sell
  deriving DecidableEq, Repr

/-! ## Transitions -/

def applyBuy (state : PortfolioState) (quantity price feeQuote : ℚ)
    (feeIsEstimated : Bool := false) (context : DecimalContext := .exact) :
    Except PyError PortfolioState :=
  if state.positionSide = .long then .error (.invalidTransition .buyWhileHolding)
  else
    let cost := context.add (context.mul quantity price) feeQuote
    if cost > state.quoteBalance then
      .error (.invalidTransition (.buyCostExceeds cost state.quoteBalance))
    else
      .ok { state with
        quoteBalance := context.sub state.quoteBalance cost
        baseBalance := context.add state.baseBalance quantity
        positionSide := .long
        avgEntryPrice := some price
        openPositionEntryFee := feeQuote
        pnlIsEstimated := feeIsEstimated }

/-- Add newly confirmed execution to an already open position. -/
def applyPartialFillIncrease (state : PortfolioState) (quantity price feeQuote : ℚ)
    (feeIsEstimated : Bool := false) (context : DecimalContext := .exact) :
    Except PyError PortfolioState :=
  match state.positionSide, state.avgEntryPrice with
  | .long, some avgEntryPrice =>
      let cost := context.add (context.mul quantity price) feeQuote
      if cost > state.quoteBalance then
        .error (.invalidTransition (.partialFillCostExceeds cost state.quoteBalance))
      else
        let totalQty := context.add state.baseBalance quantity
        let weighted := context.add (context.mul avgEntryPrice state.baseBalance)
          (context.mul price quantity)
        if totalQty = 0 then .error .zeroDivision
        else
          .ok { state with
            quoteBalance := context.sub state.quoteBalance cost
            baseBalance := totalQty
            avgEntryPrice := some (context.div weighted totalQty)
            openPositionEntryFee := context.add state.openPositionEntryFee feeQuote
            pnlIsEstimated := state.pnlIsEstimated || feeIsEstimated }
  | _, _ => .error (.invalidTransition .increaseNotOpen)

/-- The share of the entry fee a sale of `quantity` takes with it. -/
def entryFeeAllocated (state : PortfolioState) (quantity : ℚ)
    (context : DecimalContext := .exact) : ℚ :=
  if state.baseBalance > 0 then
    context.mul state.openPositionEntryFee (context.div quantity state.baseBalance)
  else 0

def applySell (state : PortfolioState) (quantity price feeQuote : ℚ)
    (feeIsEstimated : Bool := false) (context : DecimalContext := .exact) :
    Except PyError PortfolioState :=
  match state.positionSide, state.avgEntryPrice with
  | .long, some avgEntryPrice =>
      if quantity > state.baseBalance then
        .error (.invalidTransition (.sellExceedsHeld quantity state.baseBalance))
      else
        let proceeds := context.sub (context.mul quantity price) feeQuote
        let entryFee := entryFeeAllocated state quantity context
        let realizedPnl :=
          context.sub
            (context.sub (context.mul quantity (context.sub price avgEntryPrice)) feeQuote) entryFee
        let remainingBase := context.sub state.baseBalance quantity
        .ok { state with
          quoteBalance := context.add state.quoteBalance proceeds
          baseBalance := remainingBase
          positionSide := if remainingBase > 0 then .long else .flat
          avgEntryPrice := if remainingBase > 0 then some avgEntryPrice else none
          realizedPnlQuote := context.add state.realizedPnlQuote realizedPnl
          openPositionEntryFee :=
            if remainingBase > 0 then context.sub state.openPositionEntryFee entryFee else 0
          pnlIsEstimated :=
            if remainingBase > 0 then state.pnlIsEstimated || feeIsEstimated else false }
  | _, _ => .error (.invalidTransition .sellNotHolding)

/-- Apply one execution delta, accounting for commission by its actual asset. -/
def applyFillDelta (state : PortfolioState) (side : OrderSide)
    (deltaBaseQty deltaQuoteQty commissionQuote commissionBase : ℚ)
    (feeIsEstimated : Bool := false) (context : DecimalContext := .exact) :
    Except PyError PortfolioState :=
  match side with
  | .buy =>
      let netBaseQty := context.sub deltaBaseQty commissionBase
      if netBaseQty ≤ 0 then
        .error (.invalidTransition (.commissionConsumesQuantity commissionBase deltaBaseQty))
      else
        let effectivePrice := context.div deltaQuoteQty netBaseQty
        if state.positionSide = .long then
          applyPartialFillIncrease state netBaseQty effectivePrice commissionQuote feeIsEstimated
            context
        else applyBuy state netBaseQty effectivePrice commissionQuote feeIsEstimated context
  | .sell =>
      if commissionBase ≠ 0 then .error (.unsupportedCommission commissionBase)
      else if deltaBaseQty ≤ 0 then .error (.invalidTransition .nonPositiveSellDelta)
      else
        let effectivePrice := context.div deltaQuoteQty deltaBaseQty
        applySell state deltaBaseQty effectivePrice commissionQuote feeIsEstimated context

/-! ## What a successful transition has checked and written -/

theorem applyBuy_returned {s t : PortfolioState} {q p fee : ℚ} {est : Bool} {context : DecimalContext}
    (h : applyBuy s q p fee est context = .ok t) :
    s.positionSide = .flat ∧ context.add (context.mul q p) fee ≤ s.quoteBalance ∧
      t = { s with
        quoteBalance := context.sub s.quoteBalance (context.add (context.mul q p) fee)
        baseBalance := context.add s.baseBalance q
        positionSide := .long
        avgEntryPrice := some p
        openPositionEntryFee := fee
        pnlIsEstimated := est } := by
  unfold applyBuy at h
  split at h
  · cases h
  rename_i hside
  simp only at h
  split at h
  · cases h
  rename_i hcost
  cases h
  refine ⟨?_, not_lt.1 hcost, rfl⟩
  cases hs : s.positionSide with
  | flat => rfl
  | long => exact absurd hs hside

theorem applyBuy_eq_ok {s t : PortfolioState} {q p fee : ℚ} {est : Bool}
    (h : applyBuy s q p fee est = .ok t) :
    s.positionSide = .flat ∧ q * p + fee ≤ s.quoteBalance ∧
      t = { s with
        quoteBalance := s.quoteBalance - (q * p + fee)
        baseBalance := s.baseBalance + q
        positionSide := .long
        avgEntryPrice := some p
        openPositionEntryFee := fee
        pnlIsEstimated := est } :=
  applyBuy_returned h

/-- A buy from a flat position that can be paid for is made, in any context. -/
theorem applyBuy_of_paid {s : PortfolioState} {q p fee : ℚ} {context : DecimalContext}
    (hflat : s.positionSide = .flat) (hcost : context.add (context.mul q p) fee ≤ s.quoteBalance)
    (est : Bool) : ∃ t, applyBuy s q p fee est context = .ok t := by
  simp [applyBuy, hflat, not_lt.2 hcost]

theorem applyPartialFillIncrease_eq_ok {s t : PortfolioState} {q p fee : ℚ} {est : Bool}
    (h : applyPartialFillIncrease s q p fee est = .ok t) :
    ∃ avg, s.positionSide = .long ∧ s.avgEntryPrice = some avg ∧
      q * p + fee ≤ s.quoteBalance ∧ s.baseBalance + q ≠ 0 ∧
      t = { s with
        quoteBalance := s.quoteBalance - (q * p + fee)
        baseBalance := s.baseBalance + q
        avgEntryPrice := some ((avg * s.baseBalance + p * q) / (s.baseBalance + q))
        openPositionEntryFee := s.openPositionEntryFee + fee
        pnlIsEstimated := s.pnlIsEstimated || est } := by
  unfold applyPartialFillIncrease at h
  split at h
  · rename_i avg hside havg
    simp only at h
    split at h
    · cases h
    rename_i hcost
    split at h
    · cases h
    rename_i hne
    cases h
    exact ⟨avg, hside, havg, not_lt.1 hcost, hne, rfl⟩
  · cases h

theorem applySell_returned {s t : PortfolioState} {q p fee : ℚ} {est : Bool} {context : DecimalContext}
    (h : applySell s q p fee est context = .ok t) :
    ∃ avg, s.positionSide = .long ∧ s.avgEntryPrice = some avg ∧ q ≤ s.baseBalance ∧
      t = { s with
        quoteBalance :=
          context.add s.quoteBalance (context.sub (context.mul q p) fee)
        baseBalance := context.sub s.baseBalance q
        positionSide := if context.sub s.baseBalance q > 0 then .long else .flat
        avgEntryPrice := if context.sub s.baseBalance q > 0 then some avg else none
        realizedPnlQuote := context.add s.realizedPnlQuote
          (context.sub (context.sub (context.mul q (context.sub p avg)) fee)
            (entryFeeAllocated s q context))
        openPositionEntryFee :=
          if context.sub s.baseBalance q > 0 then
            context.sub s.openPositionEntryFee (entryFeeAllocated s q context)
          else 0
        pnlIsEstimated :=
          if context.sub s.baseBalance q > 0 then s.pnlIsEstimated || est else false } := by
  unfold applySell at h
  split at h
  · rename_i avg hside havg
    split at h
    · cases h
    rename_i hq
    cases h
    exact ⟨avg, hside, havg, not_lt.1 hq, rfl⟩
  · cases h

theorem applySell_eq_ok {s t : PortfolioState} {q p fee : ℚ} {est : Bool}
    (h : applySell s q p fee est = .ok t) :
    ∃ avg, s.positionSide = .long ∧ s.avgEntryPrice = some avg ∧ q ≤ s.baseBalance ∧
      t = { s with
        quoteBalance := s.quoteBalance + (q * p - fee)
        baseBalance := s.baseBalance - q
        positionSide := if s.baseBalance - q > 0 then .long else .flat
        avgEntryPrice := if s.baseBalance - q > 0 then some avg else none
        realizedPnlQuote :=
          s.realizedPnlQuote + (q * (p - avg) - fee - entryFeeAllocated s q)
        openPositionEntryFee :=
          if s.baseBalance - q > 0 then s.openPositionEntryFee - entryFeeAllocated s q else 0
        pnlIsEstimated :=
          if s.baseBalance - q > 0 then s.pnlIsEstimated || est else false } :=
  applySell_returned h

/-- Selling the whole of an open position always succeeds and leaves it closed. -/
theorem applySell_all {s : PortfolioState} {avg : ℚ} (hside : s.positionSide = .long)
    (havg : s.avgEntryPrice = some avg) (hbase : 0 < s.baseBalance) (p fee : ℚ) (est : Bool) :
    applySell s s.baseBalance p fee est = .ok { s with
        quoteBalance := s.quoteBalance + (s.baseBalance * p - fee)
        baseBalance := 0
        positionSide := .flat
        avgEntryPrice := none
        realizedPnlQuote :=
          s.realizedPnlQuote + (s.baseBalance * (p - avg) - fee - s.openPositionEntryFee)
        openPositionEntryFee := 0
        pnlIsEstimated := false } := by
  have hshare : entryFeeAllocated s s.baseBalance = s.openPositionEntryFee := by
    simp [entryFeeAllocated, hbase, div_self hbase.ne']
  simp [applySell, hside, havg, hshare]

/-- A successful BUY delta is a buy, or an increase of the open position, of the net quantity. -/
theorem applyFillDelta_buy_eq_ok {s t : PortfolioState} {dBase dQuote cQuote cBase : ℚ} {est : Bool}
    (h : applyFillDelta s .buy dBase dQuote cQuote cBase est = .ok t) :
    0 < dBase - cBase ∧
      ((s.positionSide = .long ∧
          applyPartialFillIncrease s (dBase - cBase) (dQuote / (dBase - cBase)) cQuote est = .ok t) ∨
        (s.positionSide = .flat ∧
          applyBuy s (dBase - cBase) (dQuote / (dBase - cBase)) cQuote est = .ok t)) := by
  simp only [applyFillDelta] at h
  split at h
  · cases h
  rename_i hnet
  refine ⟨not_le.1 hnet, ?_⟩
  split at h
  · rename_i hlong
    exact Or.inl ⟨hlong, h⟩
  · exact Or.inr ⟨(applyBuy_eq_ok h).1, h⟩

/-- A successful SELL delta is a sell; it carries no base commission. -/
theorem applyFillDelta_sell_eq_ok {s t : PortfolioState} {dBase dQuote cQuote cBase : ℚ} {est : Bool}
    (h : applyFillDelta s .sell dBase dQuote cQuote cBase est = .ok t) :
    cBase = 0 ∧ 0 < dBase ∧ applySell s dBase (dQuote / dBase) cQuote est = .ok t := by
  simp only [applyFillDelta] at h
  split at h
  · cases h
  rename_i hbase
  split at h
  · cases h
  rename_i hpos
  exact ⟨not_not.1 hbase, not_le.1 hpos, h⟩

/-- What a successful execution delta does to the two balances, whichever way it filled. -/
theorem applyFillDelta_balances {s t : PortfolioState} {side : OrderSide}
    {dBase dQuote cQuote cBase : ℚ} {est : Bool}
    (h : applyFillDelta s side dBase dQuote cQuote cBase est = .ok t) :
    match side with
    | .buy =>
        t.baseBalance = s.baseBalance + (dBase - cBase) ∧
          t.quoteBalance = s.quoteBalance - (dQuote + cQuote)
    | .sell =>
        cBase = 0 ∧ t.baseBalance = s.baseBalance - dBase ∧
          t.quoteBalance = s.quoteBalance + (dQuote - cQuote) := by
  cases side with
  | buy =>
      rcases applyFillDelta_buy_eq_ok h with ⟨hnet, ⟨-, hinc⟩ | ⟨-, hbuy⟩⟩
      · rcases applyPartialFillIncrease_eq_ok hinc with ⟨avg, -, -, -, -, rfl⟩
        simp [mul_div_cancel₀ dQuote hnet.ne']
      · rcases applyBuy_eq_ok hbuy with ⟨-, -, rfl⟩
        simp [mul_div_cancel₀ dQuote hnet.ne']
  | sell =>
      rcases applyFillDelta_sell_eq_ok h with ⟨hzero, hpos, hsell⟩
      rcases applySell_eq_ok hsell with ⟨avg, -, -, -, rfl⟩
      simp [hzero, mul_div_cancel₀ dQuote hpos.ne']

end TradingAgent
