import Mathlib.Logic.Relation
import Mathlib.Tactic.Common

/-!
# Linking — modules whose behaviour is a function of their sources

A module sees its own source and what the modules it imports export.  No module imports itself
through others, so the sources of a code base determine what each module exports.

* `link` computes the exports of a module;
* `link_congr`: they depend on the sources of the modules it reaches only;
* `link_traces_iff`: on each of these they can depend.
-/

namespace Linking

/-- Which modules a module imports, with a rank that imports descend. -/
structure Graph (M : Type*) where
  imports : M → List M
  rank : M → ℕ
  rank_lt : ∀ {m m'}, m' ∈ imports m → rank m' < rank m

variable {M Source : Type*} {graph : Graph M} {Exports : M → Type*}

/-- One module imports another, directly or through others. -/
def Graph.Reaches (graph : Graph M) : M → M → Prop :=
  Relation.ReflTransGen fun m m' => m' ∈ graph.imports m

/-- What each module makes of its source and of what its imports export. -/
def Meaning (graph : Graph M) (Source : Type*) (Exports : M → Type*) :=
  (m : M) → Source → ((m' : M) → m' ∈ graph.imports m → Exports m') → Exports m

/-- The exports of a module in a code base. -/
def link (meaning : Meaning graph Source Exports) (sources : M → Source) (m : M) : Exports m :=
  meaning m (sources m) fun m' _ => link meaning sources m'
termination_by graph.rank m
decreasing_by
  apply graph.rank_lt
  assumption

theorem link_eq (meaning : Meaning graph Source Exports) (sources : M → Source) (m : M) :
    link meaning sources m = meaning m (sources m) fun m' _ => link meaning sources m' := by
  rw [link]

/-- Induction along the imports. -/
theorem Graph.importInduction (graph : Graph M) {P : M → Prop}
    (h : ∀ m, (∀ m' ∈ graph.imports m, P m') → P m) (m : M) : P m := by
  induction hrank : graph.rank m using Nat.strongRecOn generalizing m with
  | ind rank ih =>
      refine h m ?_
      intro m' hm'
      exact ih (graph.rank m') (hrank ▸ graph.rank_lt hm') m' rfl

/-- Code bases that agree on what a module reaches give it the same exports. -/
theorem link_congr (meaning : Meaning graph Source Exports) {sources sources' : M → Source} {m : M}
    (h : ∀ m', graph.Reaches m m' → sources m' = sources' m') :
    link meaning sources m = link meaning sources' m := by
  induction m using graph.importInduction with
  | h m ih =>
      rw [link_eq, link_eq, h m .refl]
      congr 1
      funext m' hm'
      refine ih m' hm' ?_
      intro m'' hreaches
      exact h m'' (Relation.ReflTransGen.head hm' hreaches)

/-- What a set of modules closed under imports holds. -/
theorem Graph.Reaches.mem_of_closed {m m' : M} (h : graph.Reaches m m') {closed : List M}
    (hm : m ∈ closed) (hclosed : ∀ a ∈ closed, ∀ b ∈ graph.imports a, b ∈ closed) :
    m' ∈ closed := by
  induction h with
  | refl => exact hm
  | tail _ hstep ih => exact hclosed _ ih _ hstep

/-! ## A behaviour that shows every difference -/

/-- A module exports whether it or a module it reaches has a source with the property. -/
def traces (graph : Graph M) (p : M → Source → Bool) : Meaning graph Source fun _ => Bool :=
  fun m source exports =>
    p m source || (graph.imports m).attach.any fun m' => exports m'.1 m'.2

theorem link_traces_iff (p : M → Source → Bool) (sources : M → Source) (m : M) :
    link (traces graph p) sources m = true ↔
      ∃ m', graph.Reaches m m' ∧ p m' (sources m') = true := by
  induction m using graph.importInduction with
  | h m ih =>
      rw [link_eq, traces, Bool.or_eq_true, List.any_eq_true]
      constructor
      · rintro (hown | ⟨⟨m', hm'⟩, -, htraced⟩)
        · exact ⟨m, .refl, hown⟩
        · rcases (ih m' hm').1 htraced with ⟨m'', hreaches, hp⟩
          exact ⟨m'', .head hm' hreaches, hp⟩
      · rintro ⟨m', hreaches, hp⟩
        rcases Relation.ReflTransGen.cases_head hreaches with rfl | ⟨next, hnext, hrest⟩
        · exact Or.inl hp
        · exact Or.inr ⟨⟨next, hnext⟩, List.mem_attach _ _, (ih next hnext).2 ⟨m', hrest, hp⟩⟩

end Linking
