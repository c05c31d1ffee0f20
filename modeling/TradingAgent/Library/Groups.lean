import Mathlib.Data.List.SplitBy
import Mathlib.Tactic.Common

/-!
# Groups — the maximal runs of a growing list

`List.splitBy` cuts a list where two neighbours are not related.  More elements leave all groups but
the last as they are; the last may go on.
-/

namespace Groups

variable {α : Type*} {r : α → α → Bool} {l p : List α} {init : List (List α)}

/-- A chain goes on into what follows it, as far as that is related. -/
theorem splitBy_chain_append (hne : p ≠ []) (hchain : p.IsChain fun a b => r a b = true)
    (later : List α) : ∃ x rest, (p ++ later).splitBy r = (p ++ x) :: rest := by
  induction later generalizing p with
  | nil => exact ⟨[], [], by simpa using List.splitBy_of_isChain hne hchain⟩
  | cons c later ih =>
      by_cases hrelated : r (p.getLast hne) c = true
      · have hchain' : (p ++ [c]).IsChain fun a b => r a b = true := by
          refine List.isChain_append.2 ⟨hchain, List.isChain_singleton c, ?_⟩
          intro a ha b hb
          rw [List.getLast?_eq_some_getLast hne, Option.mem_some_iff] at ha
          rw [List.head?_cons, Option.mem_some_iff] at hb
          rw [← ha, ← hb]
          exact hrelated
        rcases ih (by simp) hchain' with ⟨x, rest, hrest⟩
        exact ⟨c :: x, rest, by simpa using hrest⟩
      · have hcut : ∀ a ∈ p.getLast?, r a c = false := by
          intro a ha
          rw [List.getLast?_eq_some_getLast hne, Option.mem_some_iff] at ha
          rw [← ha]
          simpa using hrelated
        refine ⟨[], (c :: later).splitBy r, ?_⟩
        rw [List.splitBy_append_cons later hcut, List.splitBy_of_isChain hne hchain,
          List.append_nil]
        rfl

/-- More elements leave all groups but the last as they are; the last may go on. -/
theorem splitBy_append_eq (h : l.splitBy r = init ++ [p]) (later : List α) :
    ∃ x rest, (l ++ later).splitBy r = init ++ (p ++ x) :: rest := by
  rcases List.splitBy_eq_iff.1 h with ⟨hflat, hne, hchains, hcuts⟩
  have hp : p ≠ [] := fun hnil => hne (by simp [hnil])
  have hchain := hchains p (by simp)
  rcases splitBy_chain_append hp hchain later with ⟨x, rest, hrest⟩
  refine ⟨x, rest, ?_⟩
  have hinit : init.flatten.splitBy r = init := by
    refine List.splitBy_flatten (fun hmem => hne (by simp [hmem])) ?_
      (List.isChain_append.1 hcuts).1
    intro m hm
    exact hchains m (by simp [hm])
  -- the last group starts after a cut
  have hcut : ∀ a ∈ init.flatten.getLast?, ∀ b ∈ (p ++ later).head?, r a b = false := by
    intro a ha b hb
    rcases List.eq_nil_or_concat init with hnil | ⟨front, q, hfront⟩
    · simp [hnil] at ha
    · subst hfront
      have hq : q ≠ [] := fun hnil => hne (by simp [hnil])
      have hlast := (List.isChain_append.1 hcuts).2.2 q (by simp) p (by simp)
      rcases hlast with ⟨_, _, hfalse⟩
      have haq : q.getLast hq = a := by
        simpa [List.getLast?_append_of_ne_nil _ hq, List.getLast?_eq_some_getLast hq] using ha
      have hbp : p.head hp = b := by
        simpa [List.head?_append_of_ne_nil _ hp, List.head?_eq_some_head hp] using hb
      rw [← haq, ← hbp]
      exact hfalse
  calc (l ++ later).splitBy r
      = (init.flatten ++ (p ++ later)).splitBy r := by simp [hflat]
    _ = init.flatten.splitBy r ++ (p ++ later).splitBy r := List.splitBy_append hcut
    _ = init ++ (p ++ x) :: rest := by rw [hinit, hrest]

end Groups
