import TradingAgent.Portfolio.State
import Mathlib.Tactic.FieldSimp
import Mathlib.Tactic.Ring

/-!
# Portfolio conservation

No sequence of portfolio operations creates or loses quote currency: cash, the cost basis of the
held base asset and the unallocated entry fee always add up to the starting balance plus the
realized profit.

* `Conserved S` is the invariant of a portfolio that started from `S`;
* each primitive transition preserves it, so `PortfolioOp.apply` does, so every run does.
-/

namespace TradingAgent

/-! ## Operations -/

/-- One call of a public transition of `portfolio/state.py`. -/
inductive PortfolioOp where
  | buy (quantity price feeQuote : ℚ) (feeIsEstimated : Bool)
  | partialFillIncrease (quantity price feeQuote : ℚ) (feeIsEstimated : Bool)
  | sell (quantity price feeQuote : ℚ) (feeIsEstimated : Bool)
  | fillDelta (side : OrderSide) (deltaBaseQty deltaQuoteQty commissionQuote commissionBase : ℚ)
      (feeIsEstimated : Bool)

namespace PortfolioOp

def apply (state : PortfolioState) : PortfolioOp → Except PyError PortfolioState
  | buy q p fee est => applyBuy state q p fee est
  | partialFillIncrease q p fee est => applyPartialFillIncrease state q p fee est
  | sell q p fee est => applySell state q p fee est
  | fillDelta side dBase dQuote cQuote cBase est =>
      applyFillDelta state side dBase dQuote cQuote cBase est

/-- Positive quantities and prices, and non-negative fees. -/
def WellFormed : PortfolioOp → Prop
  | buy q p fee _ => 0 < q ∧ 0 < p ∧ 0 ≤ fee
  | partialFillIncrease q p fee _ => 0 < q ∧ 0 < p ∧ 0 ≤ fee
  | sell q p fee _ => 0 < q ∧ 0 < p ∧ 0 ≤ fee
  | fillDelta _ dBase dQuote cQuote cBase _ => 0 < dBase ∧ 0 < dQuote ∧ 0 ≤ cQuote ∧ 0 ≤ cBase

instance (op : PortfolioOp) : Decidable op.WellFormed := by
  cases op <;> unfold WellFormed <;> infer_instance

/-- Apply the operations in order, stopping at the first that raises. -/
def applyAll : PortfolioState → List PortfolioOp → Except PyError PortfolioState
  | state, [] => .ok state
  | state, op :: ops =>
      match op.apply state with
      | .error e => .error e
      | .ok state' => applyAll state' ops

theorem applyAll_cons_eq_ok {s t : PortfolioState} {op : PortfolioOp} {ops : List PortfolioOp}
    (h : applyAll s (op :: ops) = .ok t) :
    ∃ m, op.apply s = .ok m ∧ applyAll m ops = .ok t := by
  cases hop : op.apply s with
  | error e =>
      simp [applyAll, hop] at h
  | ok m =>
      exact ⟨m, rfl, by simpa [applyAll, hop] using h⟩

end PortfolioOp

/-! ## The invariant -/

/-- A portfolio whose books balance against the starting balance `S`. -/
structure Conserved (S : ℚ) (s : PortfolioState) : Prop where
  balanced :
    s.quoteBalance + s.baseBalance * s.avgEntryPrice.getD 0 + s.openPositionEntryFee =
      S + s.realizedPnlQuote
  longIffBase : s.positionSide = .long ↔ 0 < s.baseBalance
  baseIffAvg : 0 < s.baseBalance ↔ s.avgEntryPrice.isSome = true
  feeNonneg : 0 ≤ s.openPositionEntryFee
  flatFee : s.positionSide = .flat → s.openPositionEntryFee = 0
  flatBase : s.positionSide = .flat → s.baseBalance = 0

namespace Conserved

variable {S : ℚ} {s t : PortfolioState} {q p fee : ℚ} {est : Bool}

theorem initial (S : ℚ) : Conserved S (PortfolioState.initial S) := by
  constructor <;> simp [PortfolioState.initial]

theorem buy (hs : Conserved S s) (hq : 0 < q) (hfee : 0 ≤ fee)
    (h : applyBuy s q p fee est = .ok t) : Conserved S t := by
  rcases applyBuy_eq_ok h with ⟨hflat, -, rfl⟩
  have hbase := hs.flatBase hflat
  have hbal := hs.balanced
  rw [hbase, hs.flatFee hflat] at hbal
  refine ⟨?_, ?_, ?_, hfee, ?_, ?_⟩
  · simp only [hbase, Option.getD_some]
    linarith
  · simpa [hbase] using hq
  · simpa [hbase] using hq
  · intro hside
    cases hside
  · intro hside
    cases hside

theorem partialFillIncrease (hs : Conserved S s) (hq : 0 < q) (hfee : 0 ≤ fee)
    (h : applyPartialFillIncrease s q p fee est = .ok t) : Conserved S t := by
  rcases applyPartialFillIncrease_eq_ok h with ⟨avg, hlong, havg, -, hne, rfl⟩
  have hbase : 0 < s.baseBalance := hs.longIffBase.1 hlong
  have hbal := hs.balanced
  rw [havg, Option.getD_some] at hbal
  refine ⟨?_, ?_, ?_, add_nonneg hs.feeNonneg hfee, ?_, ?_⟩
  · -- the new average carries exactly the old cost basis plus the notional of this fill
    have hcost : (s.baseBalance + q) * ((avg * s.baseBalance + p * q) / (s.baseBalance + q)) =
        avg * s.baseBalance + p * q := mul_div_cancel₀ _ hne
    simp only [Option.getD_some, hcost]
    linarith
  · simp [hlong, add_pos hbase hq]
  · simp [add_pos hbase hq]
  · intro hside
    rw [hlong] at hside
    cases hside
  · intro hside
    rw [hlong] at hside
    cases hside

/-- A sale takes with it a share of the entry fee between nothing and all of it. -/
theorem entryFeeAllocated_le (hs : Conserved S s) (hlong : s.positionSide = .long)
    (hle : q ≤ s.baseBalance) : entryFeeAllocated s q ≤ s.openPositionEntryFee := by
  have hbase : 0 < s.baseBalance := hs.longIffBase.1 hlong
  have hshare : q / s.baseBalance ≤ 1 := (div_le_one₀ hbase).2 hle
  have : s.openPositionEntryFee * (q / s.baseBalance) ≤ s.openPositionEntryFee * 1 :=
    mul_le_mul_of_nonneg_left hshare hs.feeNonneg
  simpa [entryFeeAllocated, hbase] using this

theorem sell (hs : Conserved S s) (hq : 0 < q) (h : applySell s q p fee est = .ok t) :
    Conserved S t := by
  rcases applySell_eq_ok h with ⟨avg, hlong, havg, hle, rfl⟩
  have hbase : 0 < s.baseBalance := hs.longIffBase.1 hlong
  have hbal := hs.balanced
  rw [havg, Option.getD_some] at hbal
  by_cases hrest : s.baseBalance - q > 0
  · -- a partial close keeps the price and the unsold share of the entry fee
    refine ⟨?_, ?_, ?_, ?_, ?_, ?_⟩
    · simp only [hrest, if_true, Option.getD_some]
      linarith
    · simp [hrest]
    · simp [hrest]
    · simpa [hrest] using hs.entryFeeAllocated_le hlong hle
    · simp [hrest]
    · simp [hrest]
  · -- a full close realizes the whole entry fee
    have hall : q = s.baseBalance := le_antisymm hle (by linarith [not_lt.1 hrest])
    subst hall
    have hshare : entryFeeAllocated s s.baseBalance = s.openPositionEntryFee := by
      simp [entryFeeAllocated, hbase, div_self hbase.ne']
    refine ⟨?_, ?_, ?_, ?_, ?_, ?_⟩
    · simp only [hrest, if_false, Option.getD_none, hshare]
      linarith
    all_goals simp

theorem fillDelta {side : OrderSide} {dBase dQuote cQuote cBase : ℚ} (hs : Conserved S s)
    (hfee : 0 ≤ cQuote) (h : applyFillDelta s side dBase dQuote cQuote cBase est = .ok t) :
    Conserved S t := by
  cases side with
  | buy =>
      rcases applyFillDelta_buy_eq_ok h with ⟨hnet, ⟨-, hinc⟩ | ⟨-, hbuy⟩⟩
      · exact hs.partialFillIncrease hnet hfee hinc
      · exact hs.buy hnet hfee hbuy
  | sell =>
      rcases applyFillDelta_sell_eq_ok h with ⟨-, hpos, hsell⟩
      exact hs.sell hpos hsell

/-- Every well-formed operation keeps the books balanced. -/
theorem apply (hs : Conserved S s) {op : PortfolioOp} (hop : op.WellFormed)
    (h : op.apply s = .ok t) : Conserved S t := by
  cases op with
  | buy q p fee est => exact hs.buy hop.1 hop.2.2 h
  | partialFillIncrease q p fee est => exact hs.partialFillIncrease hop.1 hop.2.2 h
  | sell q p fee est => exact hs.sell hop.1 h
  | fillDelta side dBase dQuote cQuote cBase est => exact hs.fillDelta hop.2.2.1 h

theorem applyAll {ops : List PortfolioOp} (hs : Conserved S s)
    (hops : ∀ op ∈ ops, op.WellFormed) (h : PortfolioOp.applyAll s ops = .ok t) :
    Conserved S t := by
  induction ops generalizing s with
  | nil =>
      cases h
      exact hs
  | cons op ops ih =>
      rcases PortfolioOp.applyAll_cons_eq_ok h with ⟨m, hop, hrest⟩
      have hm : Conserved S m := hs.apply (hops op List.mem_cons_self) hop
      exact ih hm (fun o ho => hops o (List.mem_cons_of_mem _ ho)) hrest

end Conserved

/-- Every run of well-formed operations from a fresh portfolio keeps the books balanced. -/
theorem portfolio_conservation (S : ℚ) (ops : List PortfolioOp) (final : PortfolioState)
    (hops : ∀ op ∈ ops, op.WellFormed)
    (h : PortfolioOp.applyAll (PortfolioState.initial S) ops = .ok final) :
    final.quoteBalance + final.baseBalance * final.avgEntryPrice.getD 0 +
        final.openPositionEntryFee = S + final.realizedPnlQuote ∧
      (final.positionSide = .flat → final.baseBalance = 0 ∧ final.openPositionEntryFee = 0) ∧
      (final.positionSide = .long ↔ 0 < final.baseBalance) ∧
      (0 < final.baseBalance ↔ final.avgEntryPrice ≠ none) ∧
      0 ≤ final.openPositionEntryFee := by
  have hfinal : Conserved S final := (Conserved.initial S).applyAll hops h
  refine ⟨hfinal.balanced, fun hflat => ⟨hfinal.flatBase hflat, hfinal.flatFee hflat⟩,
    hfinal.longIffBase, ?_, hfinal.feeNonneg⟩
  exact hfinal.baseIffAvg.trans Option.isSome_iff_ne_none

/-- A buy, a partial close and a base-commission fill of the remaining position. -/
theorem portfolio_conservation_example :
    let ops := [PortfolioOp.buy 2 10 1 false, .sell 1 12 (1 / 10) false,
      .fillDelta .buy 1 11 0 (1 / 100) false]
    let final : PortfolioState :=
      { quoteBalance := 799 / 10, baseBalance := 199 / 100, positionSide := .long,
        avgEntryPrice := some (2100 / 199), realizedPnlQuote := 7 / 5,
        openPositionEntryFee := 1 / 2, pnlIsEstimated := false }
    PortfolioOp.applyAll (PortfolioState.initial 100) ops = .ok final ∧
      final.quoteBalance + final.baseBalance * final.avgEntryPrice.getD 0 +
        final.openPositionEntryFee = 100 + final.realizedPnlQuote :=
  have hrun : PortfolioOp.applyAll (PortfolioState.initial 100)
      [PortfolioOp.buy 2 10 1 false, .sell 1 12 (1 / 10) false,
        .fillDelta .buy 1 11 0 (1 / 100) false] = .ok
      { quoteBalance := 799 / 10, baseBalance := 199 / 100, positionSide := .long,
        avgEntryPrice := some (2100 / 199), realizedPnlQuote := 7 / 5,
        openPositionEntryFee := 1 / 2, pnlIsEstimated := false } := by decide +kernel
  ⟨hrun, (portfolio_conservation 100 _ _ (by decide +kernel) hrun).1⟩

end TradingAgent
