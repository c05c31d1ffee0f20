import TradingAgent.Core.Market

/-!
# Research cutoff

`research/cutoff.py`: candles at or after the cutoff are consumed, and no candidate may be developed
or scored on them.
-/

namespace TradingAgent

/-- 2025-05-16T00:00:00Z. -/
def researchCutoffMs : ℤ := 1747353600000

/-- How many candles were at or after the cutoff. -/
structure ResearchCutoffViolation where
  offending : ℕ
  deriving DecidableEq, Repr

def ResearchCutoffViolation.message (e : ResearchCutoffViolation) : String :=
  s!"{e.offending} candle(s) at or after the immutable research cutoff " ++
    s!"(2025-05-16T00:00:00Z, {researchCutoffMs}ms) were included in a candidate " ++
    "development/scoring run. That period is already observed and permanently " ++
    "consumed (see the frozen v0.1 EMA baseline's rejection). Filter to " ++
    "strictly-before-cutoff data first - see `split_at_cutoff`."

def assertPreCutoff (candles : List Candle) : Except ResearchCutoffViolation Unit :=
  let offending := candles.filter fun c => c.openTimeMs ≥ researchCutoffMs
  if offending.isEmpty = false then .error ⟨offending.length⟩ else .ok ()

theorem assertPreCutoff_eq_ok_iff (candles : List Candle) :
    assertPreCutoff candles = .ok () ↔ ∀ c ∈ candles, c.openTimeMs < researchCutoffMs := by
  unfold assertPreCutoff
  constructor
  · intro h c hc
    by_contra hlate
    have hmem : c ∈ candles.filter fun c => c.openTimeMs ≥ researchCutoffMs :=
      List.mem_filter.2 ⟨hc, by simpa using hlate⟩
    have hempty := List.isEmpty_eq_false_iff_exists_mem.2 ⟨c, hmem⟩
    simp [hempty] at h
  · intro h
    have hnone : (candles.filter fun c => c.openTimeMs ≥ researchCutoffMs) = [] := by
      refine List.filter_eq_nil_iff.2 ?_
      intro c hc
      simpa using h c hc
    simp [hnone]

end TradingAgent
