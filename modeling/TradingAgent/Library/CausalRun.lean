import Mathlib.Data.List.Basic
import Mathlib.Tactic.Common

/-!
# CausalRun — loops that read their input one item at a time

A *causal step* receives everything read so far (the newest item included), the newest item and
the loop's state.  `CausalRun.run` feeds a list to such a step, stopping at the first error.

* `run_append` splits a run at any point of its input;
* `run_induct` is the invariant rule: what one step preserves, a whole run preserves;
* `run_rel` lifts a reflexive transitive relation from one step to a run;
* `exists_step_of_run_error` finds the step that raised;
* `recorded` runs a step that also keeps a record of each item, and `run_recorded` relates the
  recorded run to the plain one.
-/

namespace CausalRun

variable {α σ ε ρ : Type*}

abbrev Step (α σ ε : Type*) := List α → α → σ → Except ε σ

/-- Feed `rest` to `step`, the items `seen` having been read before. -/
def run (step : Step α σ ε) : List α → List α → σ → Except ε σ
  | _, [], s => .ok s
  | seen, a :: rest, s =>
      match step (seen ++ [a]) a s with
      | .error e => .error e
      | .ok s' => run step (seen ++ [a]) rest s'

@[simp] theorem run_nil (step : Step α σ ε) (seen : List α) (s : σ) : run step seen [] s = .ok s :=
  rfl

theorem run_cons_ok {step : Step α σ ε} {seen rest : List α} {a : α} {s s' : σ}
    (h : step (seen ++ [a]) a s = .ok s') :
    run step seen (a :: rest) s = run step (seen ++ [a]) rest s' := by
  simp [run, h]

theorem run_cons_error {step : Step α σ ε} {seen rest : List α} {a : α} {s : σ} {e : ε}
    (h : step (seen ++ [a]) a s = .error e) : run step seen (a :: rest) s = .error e := by
  simp [run, h]

/-- A run that ends normally took its first step. -/
theorem run_cons_eq_ok {step : Step α σ ε} {seen rest : List α} {a : α} {s t : σ}
    (h : run step seen (a :: rest) s = .ok t) :
    ∃ s', step (seen ++ [a]) a s = .ok s' ∧ run step (seen ++ [a]) rest s' = .ok t := by
  cases hstep : step (seen ++ [a]) a s with
  | error e =>
      rw [run_cons_error hstep] at h
      cases h
  | ok s' =>
      rw [run_cons_ok hstep] at h
      exact ⟨s', rfl, h⟩

/-! ## Splitting a run -/

theorem run_append (step : Step α σ ε) (seen xs ys : List α) (s : σ) :
    run step seen (xs ++ ys) s =
      (run step seen xs s).bind fun s' => run step (seen ++ xs) ys s' := by
  induction xs generalizing seen s with
  | nil =>
      simp [run, Except.bind]
  | cons a xs ih =>
      cases hstep : step (seen ++ [a]) a s with
      | error e =>
          rw [List.cons_append, run_cons_error hstep, run_cons_error hstep]
          rfl
      | ok s' =>
          rw [List.cons_append, run_cons_ok hstep, run_cons_ok hstep, ih]
          simp

/-- A run over `xs ++ ys` passes through the state reached after `xs`. -/
theorem run_append_eq_ok {step : Step α σ ε} {seen xs ys : List α} {s t : σ}
    (h : run step seen (xs ++ ys) s = .ok t) :
    ∃ m, run step seen xs s = .ok m ∧ run step (seen ++ xs) ys m = .ok t := by
  rw [run_append] at h
  cases hxs : run step seen xs s with
  | error e =>
      rw [hxs] at h
      cases h
  | ok m =>
      rw [hxs] at h
      exact ⟨m, rfl, h⟩

/-! ## Invariants of runs -/

/-- What every step preserves holds at the end of a run. -/
theorem run_induct {step : Step α σ ε} (P : List α → σ → Prop)
    (hstep : ∀ seen a s s', P seen s → step (seen ++ [a]) a s = .ok s' → P (seen ++ [a]) s')
    {seen rest : List α} {s t : σ} (h0 : P seen s) (h : run step seen rest s = .ok t) :
    P (seen ++ rest) t := by
  induction rest generalizing seen s with
  | nil =>
      cases h
      simpa using h0
  | cons a rest ih =>
      obtain ⟨s', hs, hrest⟩ := run_cons_eq_ok h
      have := ih (hstep seen a s s' h0 hs) hrest
      simpa using this

/-- `run_induct` for steps whose item satisfies a side condition every item of the input has. -/
theorem run_induct_mem {step : Step α σ ε} (P : List α → σ → Prop) {seen rest : List α}
    (hstep : ∀ pre a post s s', rest = pre ++ a :: post → P (seen ++ pre) s →
      step (seen ++ pre ++ [a]) a s = .ok s' → P (seen ++ pre ++ [a]) s')
    {s t : σ} (h0 : P seen s) (h : run step seen rest s = .ok t) :
    P (seen ++ rest) t := by
  induction rest generalizing seen s with
  | nil =>
      cases h
      simpa using h0
  | cons a rest ih =>
      obtain ⟨s', hs, hrest⟩ := run_cons_eq_ok h
      have hP : P (seen ++ [a]) s' := by
        simpa using hstep [] a rest s s' rfl (by simpa using h0) (by simpa using hs)
      have hrestStep : ∀ pre b post u u', rest = pre ++ b :: post → P (seen ++ [a] ++ pre) u →
          step (seen ++ [a] ++ pre ++ [b]) b u = .ok u' → P (seen ++ [a] ++ pre ++ [b]) u' := by
        intro pre b post u u' hsplit hu hub
        have := hstep (a :: pre) b post u u' (by simp [hsplit]) (by simpa using hu)
          (by simpa using hub)
        simpa using this
      simpa using ih hrestStep hP hrest

/-- A reflexive, transitive relation that every step respects relates the two ends of a run. -/
theorem run_rel {step : Step α σ ε} (R : σ → σ → Prop) (hrefl : ∀ s, R s s)
    (htrans : ∀ {a b c}, R a b → R b c → R a c)
    (hstep : ∀ seen a s s', step (seen ++ [a]) a s = .ok s' → R s s')
    {seen rest : List α} {s t : σ} (h : run step seen rest s = .ok t) : R s t := by
  induction rest generalizing seen s with
  | nil =>
      cases h
      exact hrefl _
  | cons a rest ih =>
      obtain ⟨s', hs, hrest⟩ := run_cons_eq_ok h
      exact htrans (hstep seen a s s' hs) (ih hrest)

/-- A run that fails got to some item normally, and that item's step raised the error. -/
theorem exists_step_of_run_error {step : Step α σ ε} {seen rest : List α} {s : σ} {e : ε}
    (h : run step seen rest s = .error e) :
    ∃ pre a post m, rest = pre ++ a :: post ∧ run step seen pre s = .ok m ∧
      step (seen ++ pre ++ [a]) a m = .error e := by
  induction rest generalizing seen s with
  | nil =>
      cases h
  | cons a rest ih =>
      cases hstep : step (seen ++ [a]) a s with
      | error e' =>
          rw [run_cons_error hstep] at h
          cases h
          exact ⟨[], a, rest, s, rfl, rfl, by simpa using hstep⟩
      | ok s' =>
          rw [run_cons_ok hstep] at h
          obtain ⟨pre, b, post, m, rfl, hpre, hb⟩ := ih h
          refine ⟨a :: pre, b, post, m, rfl, ?_, by simpa using hb⟩
          rw [run_cons_ok hstep]
          exact hpre

/-! ## Runs that keep a record of every item -/

/-- The plain step of a detailed one: keep only the state the detail ends in. -/
def plain (detail : List α → α → σ → Except ε ρ) (out : ρ → σ) : Step α σ ε :=
  fun seen a s => (detail seen a s).map out

/-- The recording step: append the detail of this item to the history. -/
def recorded (detail : List α → α → σ → Except ε ρ) (out : ρ → σ) : Step α (List ρ × σ) ε :=
  fun seen a hs => (detail seen a hs.2).map fun r => (hs.1 ++ [r], out r)

theorem plain_eq_ok {detail : List α → α → σ → Except ε ρ} {out : ρ → σ} {seen : List α} {a : α}
    {s s' : σ} (h : plain detail out seen a s = .ok s') :
    ∃ r, detail seen a s = .ok r ∧ s' = out r := by
  unfold plain at h
  cases hd : detail seen a s with
  | error e =>
      rw [hd] at h
      cases h
  | ok r =>
      rw [hd] at h
      cases h
      exact ⟨r, rfl, rfl⟩

theorem recorded_eq_ok {detail : List α → α → σ → Except ε ρ} {out : ρ → σ} {seen : List α} {a : α}
    {hist hist' : List ρ} {s s' : σ}
    (h : recorded detail out seen a (hist, s) = .ok (hist', s')) :
    ∃ r, detail seen a s = .ok r ∧ hist' = hist ++ [r] ∧ s' = out r := by
  unfold recorded at h
  cases hd : detail seen a s with
  | error e =>
      simp only [hd] at h
      cases h
  | ok r =>
      simp only [hd] at h
      cases h
      exact ⟨r, rfl, rfl, rfl⟩

/-- Every plain run has a recorded run with the same end. -/
theorem exists_recorded {detail : List α → α → σ → Except ε ρ} {out : ρ → σ} {seen rest : List α}
    {s t : σ} (h : run (plain detail out) seen rest s = .ok t) (hist : List ρ) :
    ∃ hist', run (recorded detail out) seen rest (hist, s) = .ok (hist', t) := by
  induction rest generalizing seen s hist with
  | nil =>
      cases h
      exact ⟨hist, rfl⟩
  | cons a rest ih =>
      obtain ⟨s', hs, hrest⟩ := run_cons_eq_ok h
      obtain ⟨r, hr, rfl⟩ := plain_eq_ok hs
      obtain ⟨hist', h'⟩ := ih hrest (hist ++ [r])
      refine ⟨hist', ?_⟩
      have hstep : recorded detail out (seen ++ [a]) a (hist, s) = .ok (hist ++ [r], out r) := by
        simp [recorded, hr, Except.map]
      simpa [run_cons_ok hstep] using h'

end CausalRun
