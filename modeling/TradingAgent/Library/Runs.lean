import Mathlib.Tactic.Common

/-!
# Runs — commands that take a state to the next

A deterministic system is a function of its state and the next command.  `Along P` says that every
command of a run is as `P` says in the state it is given in; an invariant carries one such property
over to another (`along_of_invariant`).
-/

namespace Runs

variable {σ α : Type*}

/-- The state after a list of commands. -/
def final (step : σ → α → σ) (s : σ) (commands : List α) : σ :=
  commands.foldl step s

/-- Every command is as `P` says in the state it is given in. -/
def Along (step : σ → α → σ) (P : σ → α → Prop) : σ → List α → Prop
  | _, [] => True
  | s, a :: rest => P s a ∧ Along step P (step s a) rest

variable {step : σ → α → σ} {P Q : σ → α → Prop}

@[simp] theorem final_nil (s : σ) : final step s [] = s := rfl

@[simp] theorem final_concat (s : σ) (commands : List α) (a : α) :
    final step s (commands ++ [a]) = step (final step s commands) a := by
  simp [final]

/-- Where steps as `P` says keep the invariant and are as `Q` says, so are all steps of a run. -/
theorem along_of_invariant (Inv : σ → Prop)
    (hstep : ∀ s a, Inv s → P s a → Inv (step s a) ∧ Q s a) {s : σ} {commands : List α}
    (hs : Inv s) (h : Along step P s commands) : Along step Q s commands := by
  induction commands generalizing s with
  | nil => trivial
  | cons a rest ih =>
      rcases hstep s a hs h.1 with ⟨hnext, hq⟩
      exact ⟨hq, ih hnext h.2⟩

/-- The last command of a run is given in the state the ones before it lead to. -/
theorem along_concat {s : σ} {commands : List α} {a : α} :
    Along step P s (commands ++ [a]) ↔
      Along step P s commands ∧ P (final step s commands) a := by
  induction commands generalizing s with
  | nil => simp [Along]
  | cons b rest ih => simp [Along, ih, final, and_assoc]

end Runs
