import Mathlib.Logic.Relation
import Mathlib.Tactic.Common

/-!
# Effects — programs that run in an environment of their own mind

A program asks its environment to perform effects and goes on with the answers.  Between any two
effects the environment may take steps of its own, and the program may be stopped there for good.

* `Machine` is one program at a time over a shared world, with crashes and restarts;
* `Triple` is the partial correctness of a program under interference: its assertions are stable
  under the environment's steps, the world invariant holds throughout, and every effect is asked for
  where its precondition holds;
* `Returns` is a run that returns, and `Triple.returns` what a triple says about it;
* `Machine.reachable_safe` turns triples into facts about every reachable state.
-/

namespace Effects

/-- A program over effects `E` with answers `A`, that returns `α` or raises `ε`. -/
inductive Program (E : Type) (A : E → Type) (ε α : Type) : Type where
  | done (a : α)
  | fail (e : ε)
  | ask (effect : E) (next : A effect → Program E A ε α)

namespace Program

variable {E : Type} {A : E → Type} {ε α β : Type}

def bind (p : Program E A ε α) (f : α → Program E A ε β) : Program E A ε β :=
  match p with
  | .done a => f a
  | .fail e => .fail e
  | .ask effect next => .ask effect fun answer => (next answer).bind f

instance : Monad (Program E A ε) where
  pure := .done
  bind := bind

/-- Ask for one effect. -/
def request (effect : E) : Program E A ε (A effect) :=
  .ask effect .done

/-- Raise what a pure function raised. -/
def ofExcept : Except ε α → Program E A ε α
  | .ok a => .done a
  | .error e => .fail e

/-- The program asks for allowed effects only. -/
def Uses (allowed : E → Prop) : Program E A ε α → Prop
  | .done _ => True
  | .fail _ => True
  | .ask effect next => allowed effect ∧ ∀ answer, (next answer).Uses allowed

namespace Uses

variable {allowed : E → Prop}

theorem pure (a : α) : (Pure.pure a : Program E A ε α).Uses allowed := trivial

theorem fail (e : ε) : (Program.fail e : Program E A ε α).Uses allowed := trivial

theorem request {effect : E} (h : allowed effect) :
    (Program.request effect : Program E A ε (A effect)).Uses allowed :=
  ⟨h, fun _ => trivial⟩

theorem bind {p : Program E A ε α} {f : α → Program E A ε β} (hp : p.Uses allowed)
    (hf : ∀ a, (f a).Uses allowed) : (p >>= f).Uses allowed := by
  change (p.bind f).Uses allowed
  induction p with
  | done a => exact hf a
  | fail e => trivial
  | ask effect next ih => exact ⟨hp.1, fun answer => ih answer (hp.2 answer)⟩

theorem ofExcept (x : Except ε α) : (Program.ofExcept x : Program E A ε α).Uses allowed := by
  cases x <;> trivial

end Uses

end Program

/-! ## Environments -/

/-- What the environment does by itself, and how it performs an effect. -/
structure Environment (E : Type) (A : E → Type) (W : Type) where
  step : W → W → Prop
  serve : (effect : E) → W → A effect → W → Prop

/-- What is to hold of a world at all times, and of the world an effect is asked for in. -/
structure Contract (E W : Type) where
  inv : W → Prop
  pre : E → W → Prop

variable {E : Type} {A : E → Type} {W ε α β : Type}
variable {env : Environment E A W} {contract : Contract E W}

/-- An assertion the environment cannot falsify. -/
def Stable (env : Environment E A W) (P : W → Prop) : Prop :=
  ∀ w w', env.step w w' → P w → P w'

theorem Stable.drift {P : W → Prop} (h : Stable env P) {w w' : W}
    (hdrift : Relation.ReflTransGen env.step w w') (hw : P w) : P w' := by
  induction hdrift with
  | refl => exact hw
  | tail _ hstep ih => exact h _ _ hstep ih

theorem Stable.and {P Q : W → Prop} (hP : Stable env P) (hQ : Stable env Q) :
    Stable env fun w => P w ∧ Q w := by
  intro w w' hstep hw
  exact ⟨hP w w' hstep hw.1, hQ w w' hstep hw.2⟩

theorem Stable.forall {ι : Sort*} {P : ι → W → Prop} (h : ∀ i, Stable env (P i)) :
    Stable env fun w => ∀ i, P i w := by
  intro w w' hstep hw i
  exact h i w w' hstep (hw i)

/-- The program keeps the contract from `w` on, whatever the environment does meanwhile, and
returns only where `post` holds. -/
def Safe (env : Environment E A W) (contract : Contract E W) (post : α → W → Prop) :
    Program E A ε α → W → Prop
  | .done a, w => ∀ w', Relation.ReflTransGen env.step w w' → contract.inv w' ∧ post a w'
  | .fail _, w => ∀ w', Relation.ReflTransGen env.step w w' → contract.inv w'
  | .ask effect next, w => ∀ w', Relation.ReflTransGen env.step w w' →
      contract.inv w' ∧ contract.pre effect w' ∧
        ∀ answer w'', env.serve effect w' answer w'' → Safe env contract post (next answer) w''

namespace Safe

variable {post : α → W → Prop}

theorem drift {p : Program E A ε α} {w w' : W} (h : Safe env contract post p w)
    (hdrift : Relation.ReflTransGen env.step w w') : Safe env contract post p w' := by
  cases p with
  | done a => exact fun w'' hw'' => h w'' (hdrift.trans hw'')
  | fail e => exact fun w'' hw'' => h w'' (hdrift.trans hw'')
  | ask effect next => exact fun w'' hw'' => h w'' (hdrift.trans hw'')

theorem inv {p : Program E A ε α} {w : W} (h : Safe env contract post p w) :
    contract.inv w := by
  cases p with
  | done a => exact (h w .refl).1
  | fail e => exact h w .refl
  | ask effect next => exact (h w .refl).1

theorem bind {next : α → Program E A ε β} {post' : β → W → Prop}
    {p : Program E A ε α} {w : W} (h : Safe env contract post p w)
    (hnext : ∀ a w', post a w' → Safe env contract post' (next a) w') :
    Safe env contract post' (p.bind next) w := by
  induction p generalizing w with
  | done a => exact hnext a w (h w .refl).2
  | fail e => exact h
  | ask effect k ih =>
      intro w' hdrift
      rcases h w' hdrift with ⟨hinv, hpre, hserve⟩
      exact ⟨hinv, hpre, fun answer w'' hw'' => ih answer (hserve answer w'' hw'')⟩

theorem weaken {post' : α → W → Prop} {p : Program E A ε α} {w : W}
    (h : Safe env contract post p w) (himp : ∀ a w, post a w → post' a w) :
    Safe env contract post' p w := by
  induction p generalizing w with
  | done a =>
      intro w' hdrift
      exact ⟨(h w' hdrift).1, himp a w' (h w' hdrift).2⟩
  | fail e => exact h
  | ask effect k ih =>
      intro w' hdrift
      rcases h w' hdrift with ⟨hinv, hpre, hserve⟩
      exact ⟨hinv, hpre, fun answer w'' hw'' => ih answer (hserve answer w'' hw'')⟩

end Safe

/-! ## Triples -/

/-- From any world where `P` holds, the program keeps the contract and returns where `Q` holds. -/
def Triple (env : Environment E A W) (contract : Contract E W) (P : W → Prop)
    (p : Program E A ε α) (Q : α → W → Prop) : Prop :=
  ∀ w, P w → Safe env contract Q p w

namespace Triple

variable {P P' : W → Prop} {Q Q' : α → W → Prop}

theorem done {a : α} (hstable : Stable env P) (hinv : ∀ w, P w → contract.inv w)
    (hpost : ∀ w, P w → Q a w) :
    Triple env contract P (.done a : Program E A ε α) Q := by
  intro w hw w' hdrift
  have hw' : P w' := hstable.drift hdrift hw
  exact ⟨hinv w' hw', hpost w' hw'⟩

theorem fail {e : ε} (hstable : Stable env P) (hinv : ∀ w, P w → contract.inv w) :
    Triple env contract P (.fail e : Program E A ε α) Q := by
  intro w hw w' hdrift
  exact hinv w' (hstable.drift hdrift hw)

/-- An effect asked for under a stable assertion, the rest going on from what its answers say. -/
theorem ask {effect : E} {next : A effect → Program E A ε α} {R : A effect → W → Prop}
    (hstable : Stable env P) (hinv : ∀ w, P w → contract.inv w)
    (hpre : ∀ w, P w → contract.pre effect w)
    (hserve : ∀ w answer w', P w → env.serve effect w answer w' → R answer w')
    (hnext : ∀ answer, Triple env contract (R answer) (next answer) Q) :
    Triple env contract P (.ask effect next) Q := by
  intro w hw w' hdrift
  have hw' : P w' := hstable.drift hdrift hw
  refine ⟨hinv w' hw', hpre w' hw', ?_⟩
  intro answer w'' hw''
  exact hnext answer w'' (hserve w' answer w'' hw' hw'')

/-- An effect asked for under a stable assertion. -/
theorem request {effect : E} {R : A effect → W → Prop} (hstable : Stable env P)
    (hinv : ∀ w, P w → contract.inv w) (hpre : ∀ w, P w → contract.pre effect w)
    (hserve : ∀ w answer w', P w → env.serve effect w answer w' → R answer w')
    (hanswer : ∀ answer, Stable env (R answer) ∧ ∀ w, R answer w → contract.inv w) :
    Triple env contract P (Program.request effect : Program E A ε (A effect)) R :=
  ask hstable hinv hpre hserve fun answer =>
    done (hanswer answer).1 (hanswer answer).2 fun _ hw => hw

theorem bind {p : Program E A ε α} {f : α → Program E A ε β} {R : β → W → Prop}
    (hp : Triple env contract P p Q) (hf : ∀ a, Triple env contract (Q a) (f a) R) :
    Triple env contract P (p >>= f) R :=
  fun w hw => (hp w hw).bind fun a w' ha => hf a w' ha

theorem strengthen {p : Program E A ε α} (hp : Triple env contract P p Q)
    (h : ∀ w, P' w → P w) : Triple env contract P' p Q :=
  fun w hw => hp w (h w hw)

theorem weaken {p : Program E A ε α} (hp : Triple env contract P p Q)
    (h : ∀ a w, Q a w → Q' a w) : Triple env contract P p Q' :=
  fun w hw => (hp w hw).weaken h

/-- A program whose effects all keep an assertion keeps it. -/
theorem of_uses {allowed : E → Prop} {p : Program E A ε α} (hstable : Stable env P)
    (hinv : ∀ w, P w → contract.inv w)
    (hpre : ∀ effect w, allowed effect → P w → contract.pre effect w)
    (hserve : ∀ effect w answer w', allowed effect → P w → env.serve effect w answer w' → P w')
    (h : p.Uses allowed) : Triple env contract P p fun _ => P := by
  induction p with
  | done a => exact done hstable hinv fun _ hw => hw
  | fail e => exact fail hstable hinv
  | ask effect next ih =>
      exact ask hstable hinv (hpre effect · h.1) (hserve effect · · · h.1)
        fun answer => ih answer (h.2 answer)

end Triple

/-! ## Runs that return -/

/-- The program, started in the first world, returns the value in the second one. -/
inductive Returns (env : Environment E A W) :
    Program E A ε α → W → α → W → Prop where
  | done {a : α} {w : W} : Returns env (.done a) w a w
  | drift {p : Program E A ε α} {a : α} {w w' w'' : W} :
      env.step w w' → Returns env p w' a w'' → Returns env p w a w''
  | serve {effect : E} {next : A effect → Program E A ε α} {answer : A effect} {a : α}
      {w w' w'' : W} :
      env.serve effect w answer w' → Returns env (next answer) w' a w'' →
        Returns env (.ask effect next) w a w''

/-- A triple tells where the runs that return end. -/
theorem Safe.returns {post : α → W → Prop} {p : Program E A ε α} {a : α} {w w' : W}
    (h : Safe env contract post p w) (hreturns : Returns env p w a w') : post a w' := by
  induction hreturns with
  | done => exact (h _ .refl).2
  | drift hstep _ ih => exact ih (h.drift (.single hstep))
  | serve hserve _ ih => exact ih ((h _ .refl).2.2 _ _ hserve)

theorem Triple.returns {P : W → Prop} {Q : α → W → Prop} {p : Program E A ε α} {a : α} {w w' : W}
    (h : Triple env contract P p Q) (hw : P w) (hreturns : Returns env p w a w') : Q a w' :=
  (h w hw).returns hreturns

section Still

/-! In an environment that does nothing by itself, a run is read off its program. -/

variable (hstill : ∀ w w', ¬env.step w w')
include hstill

theorem returns_done_iff {a b : α} {w w' : W} :
    Returns env (.done a : Program E A ε α) w b w' ↔ b = a ∧ w' = w := by
  constructor
  · intro h
    cases h with
    | done => exact ⟨rfl, rfl⟩
    | drift hstep _ => exact absurd hstep (hstill _ _)
  · rintro ⟨rfl, rfl⟩
    exact .done

theorem returns_pure_iff {a b : α} {w w' : W} :
    Returns env (Pure.pure a : Program E A ε α) w b w' ↔ b = a ∧ w' = w :=
  returns_done_iff hstill

theorem returns_fail_iff {e : ε} {a : α} {w w' : W} :
    Returns env (.fail e : Program E A ε α) w a w' ↔ False := by
  constructor
  · intro h
    cases h with
    | drift hstep _ => exact hstill _ _ hstep
  · exact False.elim

theorem returns_ask_iff {effect : E} {next : A effect → Program E A ε α} {a : α} {w w'' : W} :
    Returns env (.ask effect next) w a w'' ↔
      ∃ answer w', env.serve effect w answer w' ∧ Returns env (next answer) w' a w'' := by
  constructor
  · intro h
    cases h with
    | drift hstep _ => exact absurd hstep (hstill _ _)
    | serve hserve hnext => exact ⟨_, _, hserve, hnext⟩
  · rintro ⟨answer, w', hserve, hnext⟩
    exact .serve hserve hnext

theorem returns_request_iff {effect : E} {answer : A effect} {w w' : W} :
    Returns env (Program.request effect : Program E A ε (A effect)) w answer w' ↔
      env.serve effect w answer w' := by
  rw [Program.request, returns_ask_iff hstill]
  constructor
  · rintro ⟨b, u, hserve, hdone⟩
    rcases (returns_done_iff hstill).1 hdone with ⟨rfl, rfl⟩
    exact hserve
  · intro hserve
    exact ⟨answer, w', hserve, .done⟩

theorem returns_bind_iff {p : Program E A ε α} {f : α → Program E A ε β} {b : β} {w w'' : W} :
    Returns env (p >>= f) w b w'' ↔ ∃ a w', Returns env p w a w' ∧ Returns env (f a) w' b w'' := by
  change Returns env (p.bind f) w b w'' ↔ _
  induction p generalizing w with
  | done a =>
      constructor
      · intro h
        exact ⟨a, w, .done, h⟩
      · rintro ⟨a', w', hdone, hf⟩
        rcases (returns_done_iff hstill).1 hdone with ⟨rfl, rfl⟩
        exact hf
  | fail e =>
      constructor
      · intro h
        exact ((returns_fail_iff hstill).1 h).elim
      · rintro ⟨a, w', hfail, -⟩
        exact ((returns_fail_iff hstill).1 hfail).elim
  | ask effect next ih =>
      rw [Program.bind, returns_ask_iff hstill]
      constructor
      · rintro ⟨answer, w', hserve, hnext⟩
        rcases (ih answer).1 hnext with ⟨a, u, hp, hf⟩
        exact ⟨a, u, .serve hserve hp, hf⟩
      · rintro ⟨a, u, hp, hf⟩
        rcases (returns_ask_iff hstill).1 hp with ⟨answer, w', hserve, hnext⟩
        exact ⟨answer, w', hserve, (ih answer).2 ⟨a, u, hnext, hf⟩⟩

end Still

namespace Program

/-- The run whose answers are chosen by `choose`. -/
def execute (choose : (effect : E) → W → A effect × W) :
    Program E A ε α → W → Except ε α × W
  | .done a, w => (.ok a, w)
  | .fail e, w => (.error e, w)
  | .ask effect next, w =>
      execute choose (next (choose effect w).1) (choose effect w).2

/-- Where the answers chosen are ones the environment may give, an executed run is a run. -/
theorem returns_of_execute {choose : (effect : E) → W → A effect × W}
    (hchoose : ∀ effect w, env.serve effect w (choose effect w).1 (choose effect w).2)
    {p : Program E A ε α} {a : α} {w w' : W} (h : p.execute choose w = (.ok a, w')) :
    Returns env p w a w' := by
  induction p generalizing w with
  | done b =>
      cases h
      exact .done
  | fail e => cases h
  | ask effect next ih => exact .serve (hchoose effect w) (ih _ h)

end Program

/-! ## One program at a time -/

/-- A shared world and the program running over it, if any. -/
structure Machine (E : Type) (A : E → Type) (W ε α : Type) where
  world : W
  running : Option (Program E A ε α)

namespace Machine

/-- What can happen next: the environment takes a step, a startable program starts, the running one
is served an effect, or it stops (it has returned, raised or crashed). -/
inductive Step (env : Environment E A W) (startable : Program E A ε α → Prop) :
    Machine E A W ε α → Machine E A W ε α → Prop where
  | drift {w w' : W} {running : Option (Program E A ε α)} :
      env.step w w' → Step env startable ⟨w, running⟩ ⟨w', running⟩
  | start {w : W} {p : Program E A ε α} :
      startable p → Step env startable ⟨w, none⟩ ⟨w, some p⟩
  | serve {w w' : W} {effect : E} {next : A effect → Program E A ε α} {answer : A effect} :
      env.serve effect w answer w' →
        Step env startable ⟨w, some (.ask effect next)⟩ ⟨w', some (next answer)⟩
  | stop {w : W} {p : Program E A ε α} :
      Step env startable ⟨w, some p⟩ ⟨w, none⟩

abbrev Reaches (env : Environment E A W) (startable : Program E A ε α → Prop) :
    Machine E A W ε α → Machine E A W ε α → Prop :=
  Relation.ReflTransGen (Step env startable)

/-- The world is as the contract says, and so is everything the running program will do. -/
structure SafeState (env : Environment E A W) (contract : Contract E W)
    (m : Machine E A W ε α) : Prop where
  inv : contract.inv m.world
  running : ∀ p, m.running = some p → Safe env contract (fun _ _ => True) p m.world

variable {startable : Program E A ε α → Prop} {m m' : Machine E A W ε α}

theorem SafeState.pre (h : SafeState env contract m) {effect : E}
    {next : A effect → Program E A ε α} (hrunning : m.running = some (.ask effect next)) :
    contract.pre effect m.world :=
  (h.running _ hrunning m.world .refl).2.1

theorem SafeState.step (hstable : Stable env contract.inv)
    (hstart : ∀ p, startable p → Triple env contract contract.inv p fun _ _ => True)
    (h : SafeState env contract m) (hstep : Step env startable m m') :
    SafeState env contract m' := by
  cases hstep with
  | drift hw =>
      refine ⟨hstable _ _ hw h.inv, ?_⟩
      intro p hp
      exact (h.running p hp).drift (.single hw)
  | start hp =>
      refine ⟨h.inv, ?_⟩
      intro q hq
      cases hq
      exact hstart _ hp _ h.inv
  | serve hserve =>
      have hsafe := (h.running _ rfl _ .refl).2.2 _ _ hserve
      refine ⟨hsafe.inv, ?_⟩
      intro q hq
      cases hq
      exact hsafe
  | stop =>
      refine ⟨h.inv, ?_⟩
      intro q hq
      cases hq

/-- Every state reachable from a safe one is safe. -/
theorem reachable_safe (hstable : Stable env contract.inv)
    (hstart : ∀ p, startable p → Triple env contract contract.inv p fun _ _ => True)
    (h : SafeState env contract m) (hreach : Reaches env startable m m') :
    SafeState env contract m' := by
  induction hreach with
  | refl => exact h
  | tail _ hstep ih => exact ih.step hstable hstart hstep

/-- What the environment's steps and the effects asked for as the contract says preserve stays true
from a safe state on. -/
theorem reachable_preserves {J : W → Prop} (hstable : Stable env contract.inv)
    (hstart : ∀ p, startable p → Triple env contract contract.inv p fun _ _ => True)
    (hdrift : Stable env J)
    (hserve : ∀ effect w answer w', contract.inv w → contract.pre effect w → J w →
      env.serve effect w answer w' → J w')
    (h : SafeState env contract m) (hJ : J m.world) (hreach : Reaches env startable m m') :
    J m'.world := by
  induction hreach with
  | refl => exact hJ
  | tail hprefix hstep ih =>
      have hsafe := reachable_safe hstable hstart h hprefix
      cases hstep with
      | drift hw => exact hdrift _ _ hw ih
      | start hp => exact ih
      | serve hw => exact hserve _ _ _ _ hsafe.inv (hsafe.pre rfl) ih hw
      | stop => exact ih

/-! ### Runs with the answers chosen -/

/-- Serve the running program `n` effects, answered as chosen. -/
def follow (choose : (effect : E) → W → A effect × W) :
    ℕ → Machine E A W ε α → Machine E A W ε α
  | n + 1, ⟨w, some (.ask effect next)⟩ =>
      follow choose n ⟨(choose effect w).2, some (next (choose effect w).1)⟩
  | _, m => m

/-- Where the answers chosen are ones the environment may give, the run is one of the machine. -/
theorem reaches_follow {choose : (effect : E) → W → A effect × W}
    (hchoose : ∀ effect w, env.serve effect w (choose effect w).1 (choose effect w).2) (n : ℕ)
    (m : Machine E A W ε α) : Reaches env startable m (follow choose n m) := by
  induction n generalizing m with
  | zero => exact .refl
  | succ n ih =>
      match m with
      | ⟨w, none⟩ => exact .refl
      | ⟨w, some (.done a)⟩ => exact .refl
      | ⟨w, some (.fail e)⟩ => exact .refl
      | ⟨w, some (.ask effect next)⟩ => exact .head (.serve (hchoose effect w)) (ih _)

/-- The answers chosen are asked for in worlds that are `ok`. -/
def followOk (choose : (effect : E) → W → A effect × W) (ok : E → W → Bool) :
    ℕ → Machine E A W ε α → Bool
  | n + 1, ⟨w, some (.ask effect next)⟩ =>
      ok effect w && followOk choose ok n ⟨(choose effect w).2, some (next (choose effect w).1)⟩
  | _, _ => true

/-- As `reaches_follow`, where the answers chosen may be given in the worlds the run goes through. -/
theorem reaches_follow_of_ok {choose : (effect : E) → W → A effect × W} {ok : E → W → Bool}
    (hchoose : ∀ effect w, ok effect w = true →
      env.serve effect w (choose effect w).1 (choose effect w).2) (n : ℕ)
    (m : Machine E A W ε α) (hok : followOk choose ok n m = true) :
    Reaches env startable m (follow choose n m) := by
  induction n generalizing m with
  | zero => exact .refl
  | succ n ih =>
      match m with
      | ⟨w, none⟩ => exact .refl
      | ⟨w, some (.done a)⟩ => exact .refl
      | ⟨w, some (.fail e)⟩ => exact .refl
      | ⟨w, some (.ask effect next)⟩ =>
          rcases Bool.and_eq_true_iff.1 hok with ⟨hhere, hlater⟩
          exact .head (.serve (hchoose effect w hhere)) (ih _ hlater)

/-- A machine can come to rest. -/
theorem reaches_rest (m : Machine E A W ε α) : Reaches env startable m ⟨m.world, none⟩ := by
  match m with
  | ⟨w, none⟩ => exact .refl
  | ⟨w, some p⟩ => exact .single .stop

end Machine

end Effects
