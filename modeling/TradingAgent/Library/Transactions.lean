import Mathlib.Tactic.Common

/-!
# Transactions — statements that are committed together or not at all

A connection keeps what is committed apart from what its open transaction sees.  `transact` executes
statements in turn; an exception at one of them, or at the commit, rolls all of them back.
-/

namespace Transactions

variable {σ : Type*}

/-- What is committed, and what the open transaction sees. -/
structure Connection (σ : Type*) where
  committed : σ
  working : σ

/-- A connection without an open transaction. -/
def Connection.idle (s : σ) : Connection σ :=
  ⟨s, s⟩

/-- Execute the statements in turn, up to the one at which an exception is raised; whether all of
them and the commit succeed. -/
def execute : List (σ → σ) → Option ℕ → σ → σ × Bool
  | [], fault, s => (s, fault.isNone)
  | _ :: _, some 0, s => (s, false)
  | statement :: rest, some (n + 1), s => execute rest (some n) (statement s)
  | statement :: rest, none, s => execute rest none (statement s)

/-- One transaction: commit what was executed, or roll it back. -/
def transact (statements : List (σ → σ)) (fault : Option ℕ) (connection : Connection σ) :
    Connection σ × Bool :=
  match execute statements fault connection.working with
  | (s, true) => (.idle s, true)
  | (_, false) => (.idle connection.committed, false)

theorem execute_none (statements : List (σ → σ)) (s : σ) :
    execute statements none s = (statements.foldl (fun s statement => statement s) s, true) := by
  induction statements generalizing s with
  | nil => rfl
  | cons statement rest ih => exact ih (statement s)

theorem execute_some (statements : List (σ → σ)) (n : ℕ) (s : σ) :
    (execute statements (some n) s).2 = false := by
  induction statements generalizing n s with
  | nil => rfl
  | cons statement rest ih =>
      cases n with
      | zero => rfl
      | succ n => exact ih n (statement s)

/-- Without a fault everything is committed. -/
theorem transact_none (statements : List (σ → σ)) (s : σ) :
    transact statements none (.idle s) =
      (.idle (statements.foldl (fun s statement => statement s) s), true) := by
  simp only [transact, Connection.idle, execute_none]

/-- With one nothing is. -/
theorem transact_some (statements : List (σ → σ)) (n : ℕ) (s : σ) :
    transact statements (some n) (.idle s) = (.idle s, false) := by
  have hfailed := execute_some statements n s
  cases hexecute : execute statements (some n) s with
  | mk s' succeeded =>
      have hfalse : succeeded = false := by simpa only [hexecute] using hfailed
      simp only [transact, Connection.idle, hexecute, hfalse]

end Transactions
