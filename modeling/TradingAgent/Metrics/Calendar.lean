import TradingAgent.Backtest.Engine
import Mathlib.Data.Prod.Lex

/-!
# Calendar — the UTC month of a point in time

`datetime.fromtimestamp(ms / 1000, tz=UTC)` as far as its year and its month are read: the Gregorian
calendar, with 1970-01-01 as day 0.  Later times never lie in earlier months
(`utcYearMonth_mono`).
-/

namespace TradingAgent

def IsLeapYear (year : ℤ) : Prop :=
  year % 4 = 0 ∧ (year % 100 ≠ 0 ∨ year % 400 = 0)

instance (year : ℤ) : Decidable (IsLeapYear year) :=
  inferInstanceAs (Decidable (_ ∧ _))

/-- The day of the first of January. -/
def daysBeforeYear (year : ℤ) : ℤ :=
  365 * (year - 1970) + (year - 1) / 4 - (year - 1) / 100 + (year - 1) / 400 - 477

theorem daysBeforeYear_succ (year : ℤ) :
    daysBeforeYear (year + 1) = daysBeforeYear year + if IsLeapYear year then 366 else 365 := by
  by_cases hleap : IsLeapYear year
  · rw [if_pos hleap]
    unfold daysBeforeYear IsLeapYear at *
    omega
  · rw [if_neg hleap]
    unfold daysBeforeYear IsLeapYear at *
    omega

/-- A year later or earlier than the average length of a year suggests, where that is off by one. -/
def yearOfDay (day : ℤ) : ℤ :=
  let guess := 1970 + day * 400 / 146097
  if day < daysBeforeYear guess then guess - 1
  else if daysBeforeYear (guess + 1) ≤ day then guess + 1
  else guess

theorem yearOfDay_spec (day : ℤ) :
    daysBeforeYear (yearOfDay day) ≤ day ∧ day < daysBeforeYear (yearOfDay day + 1) := by
  unfold yearOfDay
  generalize hguess : 1970 + day * 400 / 146097 = guess
  have hle : (guess - 1970) * 146097 ≤ day * 400 := by omega
  have hlt : day * 400 < (guess - 1970) * 146097 + 146097 := by omega
  simp only
  split
  · rename_i hearly
    refine ⟨?_, by simpa using hearly⟩
    unfold daysBeforeYear
    omega
  · split
    · rename_i hlate
      refine ⟨hlate, ?_⟩
      unfold daysBeforeYear
      omega
    · rename_i hearly hlate
      exact ⟨not_lt.1 hearly, not_le.1 hlate⟩

theorem daysBeforeYear_mono {year year' : ℤ} (h : year ≤ year') :
    daysBeforeYear year ≤ daysBeforeYear year' := by
  unfold daysBeforeYear
  omega

theorem yearOfDay_mono {day day' : ℤ} (h : day ≤ day') : yearOfDay day ≤ yearOfDay day' := by
  by_contra hlt
  have hyears := daysBeforeYear_mono (show yearOfDay day' + 1 ≤ yearOfDay day by omega)
  have hbefore := (yearOfDay_spec day').2
  have hafter := (yearOfDay_spec day).1
  omega

/-- The day of the year on which each month begins. -/
def monthStarts (year : ℤ) : List ℤ :=
  let leap := if IsLeapYear year then 1 else 0
  [0, 31, 59 + leap, 90 + leap, 120 + leap, 151 + leap, 181 + leap, 212 + leap, 243 + leap,
    273 + leap, 304 + leap, 334 + leap]

/-- How many months of the year have begun. -/
def monthOfDay (day : ℤ) : ℕ :=
  let year := yearOfDay day
  (monthStarts year).countP fun start => decide (start ≤ day - daysBeforeYear year)

theorem monthOfDay_mono {day day' : ℤ} (h : day ≤ day') (hyear : yearOfDay day = yearOfDay day') :
    monthOfDay day ≤ monthOfDay day' := by
  unfold monthOfDay
  simp only [hyear]
  refine List.countP_mono_left ?_
  intro start _ hstart
  rw [decide_eq_true_eq] at hstart ⊢
  omega

/-- `(dt.year, dt.month)`, compared year first. -/
def utcYearMonth (timeMs : ℤ) : ℤ ×ₗ ℕ :=
  toLex (yearOfDay (timeMs / msPerDay), monthOfDay (timeMs / msPerDay))

def utcYear (timeMs : ℤ) : ℤ :=
  yearOfDay (timeMs / msPerDay)

theorem utcYearMonth_mono {time time' : ℤ} (h : time ≤ time') :
    utcYearMonth time ≤ utcYearMonth time' := by
  have hday : time / msPerDay ≤ time' / msPerDay :=
    Int.ediv_le_ediv (by unfold msPerDay; decide) h
  rcases (yearOfDay_mono hday).lt_or_eq with hlt | heq
  · exact Prod.Lex.toLex_le_toLex.2 (Or.inl hlt)
  · exact Prod.Lex.toLex_le_toLex.2 (Or.inr ⟨heq, monthOfDay_mono hday heq⟩)

example : utcYearMonth 1709164800000 = toLex (2024, 2) := by decide

example : utcYearMonth 1709251200000 = toLex (2024, 3) := by decide

end TradingAgent
