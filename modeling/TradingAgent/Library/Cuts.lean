import Mathlib.Data.List.Basic
import Mathlib.Data.List.Infix
import Mathlib.Tactic.Common

/-!
# Cuts — cutting a list that is in order

A predicate is downward closed along a list when it passes from an element to the ones before it.
Filtering by one cuts the list in two: `filter_initial` and `filter_append_filter_not`.
-/

namespace Cuts

variable {α : Type*} {r : α → α → Prop} {p : α → Bool} {l : List α}

/-- What a downward closed predicate keeps is an initial part of the list. -/
theorem filter_initial (hl : l.Pairwise r) (hp : ∀ a b, r a b → p b = true → p a = true) :
    l.filter p <+: l := by
  induction l with
  | nil => exact List.prefix_rfl
  | cons a l ih =>
      rcases List.pairwise_cons.1 hl with ⟨hfirst, hrest⟩
      by_cases ha : p a = true
      · rw [List.filter_cons_of_pos ha]
        exact (List.prefix_cons_inj a).2 (ih hrest)
      · -- nothing after a rejected element is kept
        have hnone : l.filter p = [] := by
          refine List.filter_eq_nil_iff.2 ?_
          intro b hb hkept
          exact ha (hp a b (hfirst b hb) hkept)
        rw [List.filter_cons_of_neg ha, hnone]
        exact List.nil_prefix

/-- The list is what the predicate keeps, followed by what it rejects. -/
theorem filter_append_filter_not (hl : l.Pairwise r)
    (hp : ∀ a b, r a b → p b = true → p a = true) :
    l.filter p ++ l.filter (fun a => !p a) = l := by
  induction l with
  | nil => rfl
  | cons a l ih =>
      rcases List.pairwise_cons.1 hl with ⟨hfirst, hrest⟩
      by_cases ha : p a = true
      · rw [List.filter_cons_of_pos ha, List.filter_cons_of_neg (by simp [ha]), List.cons_append,
          ih hrest]
      · have hnone : ∀ b ∈ a :: l, ¬p b = true := by
          intro b hb hkept
          rcases List.mem_cons.1 hb with rfl | hb
          · exact ha hkept
          · exact ha (hp a b (hfirst b hb) hkept)
        rw [List.filter_eq_nil_iff.2 hnone, List.nil_append, List.filter_eq_self]
        intro b hb
        simpa using hnone b hb

/-- A sublist of the kept elements, followed by the rejected ones, is a sublist of the list. -/
theorem append_filter_not_sublist (hl : l.Pairwise r)
    (hp : ∀ a b, r a b → p b = true → p a = true) {front : List α} (hsub : front.Sublist l)
    (hfront : ∀ a ∈ front, p a = true) : (front ++ l.filter fun a => !p a).Sublist l := by
  have hkept : front.Sublist (l.filter p) := by
    have := hsub.filter p
    rwa [List.filter_eq_self.2 hfront] at this
  have happend := hkept.append_right (l.filter fun a => !p a)
  rwa [filter_append_filter_not hl hp] at happend

/-- Among the elements a downward closed predicate keeps, an initial part is an initial part of
the whole list. -/
theorem prefix_filter_iff (hl : l.Pairwise r) (hp : ∀ a b, r a b → p b = true → p a = true)
    {front : List α} (hfront : ∀ a ∈ front, p a = true) : front <+: l.filter p ↔ front <+: l := by
  constructor
  · intro h
    exact h.trans (filter_initial hl hp)
  · intro h
    have hfilter := h.filter p
    rwa [List.filter_eq_self.2 hfront] at hfilter

end Cuts
