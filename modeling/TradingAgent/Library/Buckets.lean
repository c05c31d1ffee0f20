import Mathlib.Data.List.Dedup
import Mathlib.Data.List.Sort

/-!
# Buckets — the items of a list under each of their keys

`buckets` is the dictionary of lists that `setdefault(key(x), []).append(x)` fills, read in the order
of its keys.  The buckets are the items in another order (`flatten_buckets_perm`), and in the order
they had where that is the order of their keys (`flatten_buckets`).
-/

open scoped List

namespace Buckets

variable {α κ : Type*}

section Bucket

variable [DecidableEq κ] (key : α → κ)

def bucket (xs : List α) (k : κ) : List α :=
  xs.filter fun x => decide (key x = k)

variable {key} {ks : List κ}

/-- The buckets of distinct keys are the items with one of these keys. -/
theorem flatMap_bucket_perm (hks : ks.Nodup) (xs : List α) :
    ks.flatMap (bucket key xs) ~ xs.filter fun x => decide (key x ∈ ks) := by
  induction ks with
  | nil => simp
  | cons k ks ih =>
      rcases List.nodup_cons.1 hks with ⟨hk, hrest⟩
      have hfirst : (xs.filter fun x => decide (key x ∈ k :: ks)).filter
          (fun x => decide (key x = k)) = bucket key xs k := by
        rw [List.filter_filter]
        refine List.filter_congr ?_
        intro x _
        by_cases hx : key x = k <;> simp [hx]
      have hlater : (xs.filter fun x => decide (key x ∈ k :: ks)).filter
          (fun x => !decide (key x = k)) = xs.filter fun x => decide (key x ∈ ks) := by
        rw [List.filter_filter]
        refine List.filter_congr ?_
        intro x _
        by_cases hx : key x = k <;> simp [hx, hk]
      calc (k :: ks).flatMap (bucket key xs)
          = bucket key xs k ++ ks.flatMap (bucket key xs) := List.flatMap_cons
        _ ~ bucket key xs k ++ xs.filter fun x => decide (key x ∈ ks) := (ih hrest).append_left _
        _ ~ xs.filter fun x => decide (key x ∈ k :: ks) := by
            rw [← hfirst, ← hlater]
            exact List.filter_append_perm _ _

/-- The buckets of distinct keys among which every item has its own are the items. -/
theorem flatMap_bucket_perm_self {xs : List α} (hks : ks.Nodup) (hcover : ∀ x ∈ xs, key x ∈ ks) :
    ks.flatMap (bucket key xs) ~ xs := by
  refine (flatMap_bucket_perm hks xs).trans ?_
  rw [List.filter_eq_self.2]
  intro x hx
  exact decide_eq_true (hcover x hx)

end Bucket

variable [LinearOrder κ] (key : α → κ)

/-- The keys of some items, each once, in order. -/
def keys (xs : List α) : List κ :=
  (xs.map key).dedup.mergeSort fun a b => decide (a ≤ b)

def buckets (xs : List α) : List (κ × List α) :=
  (keys key xs).map fun k => (k, bucket key xs k)

variable {key} {xs : List α} {ks : List κ} {k : κ}

theorem mem_keys : k ∈ keys key xs ↔ ∃ x ∈ xs, key x = k := by
  unfold keys
  rw [List.mem_mergeSort, List.mem_dedup, List.mem_map]

theorem keys_pairwise (key : α → κ) (xs : List α) : (keys key xs).Pairwise (· < ·) := by
  have hsorted : (keys key xs).Pairwise fun a b => decide (a ≤ b) = true := by
    apply List.pairwise_mergeSort
    · intro a b c hab hbc
      rw [decide_eq_true_eq] at *
      exact hab.trans hbc
    · intro a b
      rw [Bool.or_eq_true, decide_eq_true_eq, decide_eq_true_eq]
      exact le_total a b
  have hnodup : (keys key xs).Nodup :=
    (List.mergeSort_perm _ _).nodup_iff.2 (List.nodup_dedup _)
  refine (hsorted.and hnodup).imp ?_
  rintro a b ⟨hle, hne⟩
  exact lt_of_le_of_ne (of_decide_eq_true hle) hne

theorem flatten_buckets_perm (key : α → κ) (xs : List α) :
    (buckets key xs).flatMap Prod.snd ~ xs := by
  rw [buckets, List.flatMap_map]
  exact flatMap_bucket_perm_self ((keys_pairwise key xs).imp ne_of_lt)
    fun x hx => mem_keys.2 ⟨x, hx, rfl⟩

/-- In the order of their keys the items of the least key come first. -/
theorem filter_append_filter (hsorted : xs.Pairwise fun a b => key a ≤ key b)
    (hleast : ∀ x ∈ xs, k ≤ key x) :
    (xs.filter fun x => decide (key x = k)) ++ (xs.filter fun x => !decide (key x = k)) = xs := by
  induction xs with
  | nil => rfl
  | cons x xs ih =>
      rcases List.pairwise_cons.1 hsorted with ⟨hx, hrest⟩
      by_cases hk : key x = k
      · simp only [hk, List.filter_cons, decide_true, Bool.not_true, if_true, List.cons_append,
          Bool.false_eq_true, if_false]
        rw [ih hrest fun y hy => hleast y (List.mem_cons_of_mem x hy)]
      · have hlater : ∀ y ∈ x :: xs, key y ≠ k := by
          intro y hy
          have hlt : k < key x := lt_of_le_of_ne (hleast x (by simp)) (Ne.symm hk)
          rcases List.mem_cons.1 hy with rfl | hmem
          · exact hk
          · exact (hlt.trans_le (hx y hmem)).ne'
        have hnone : (x :: xs).filter (fun x => decide (key x = k)) = [] :=
          List.filter_eq_nil_iff.2 fun y hy => by simp [hlater y hy]
        have hall : (x :: xs).filter (fun x => !decide (key x = k)) = x :: xs :=
          List.filter_eq_self.2 fun y hy => by simp [hlater y hy]
        rw [hnone, hall, List.nil_append]

theorem flatMap_bucket_eq (hks : ks.Pairwise (· < ·))
    (hsorted : xs.Pairwise fun a b => key a ≤ key b) (hcover : ∀ x ∈ xs, key x ∈ ks) :
    ks.flatMap (bucket key xs) = xs := by
  induction ks generalizing xs with
  | nil =>
      have hnil : xs = [] := List.eq_nil_iff_forall_not_mem.2 fun x hx => by
        simpa using hcover x hx
      rw [hnil]
      rfl
  | cons k ks ih =>
      rcases List.pairwise_cons.1 hks with ⟨hk, hrest⟩
      have hleast : ∀ x ∈ xs, k ≤ key x := by
        intro x hx
        rcases List.mem_cons.1 (hcover x hx) with heq | hmem
        · exact heq.ge
        · exact (hk _ hmem).le
      have hothers : ks.flatMap (bucket key xs) =
          ks.flatMap (bucket key (xs.filter fun x => !decide (key x = k))) := by
        refine List.flatMap_congr ?_
        intro k' hk'
        unfold bucket
        rw [List.filter_filter]
        refine List.filter_congr ?_
        intro x _
        have hne := (hk k' hk').ne'
        by_cases hx : key x = k' <;> simp [hx, hne]
      rw [List.flatMap_cons, hothers, ih hrest (hsorted.filter _)]
      · exact filter_append_filter hsorted hleast
      · intro x hx
        rcases List.mem_filter.1 hx with ⟨hmem, hne⟩
        refine List.mem_of_ne_of_mem ?_ (hcover x hmem)
        simpa using hne

/-- Items in the order of their keys are their buckets end to end. -/
theorem flatten_buckets (hsorted : xs.Pairwise fun a b => key a ≤ key b) :
    (buckets key xs).flatMap Prod.snd = xs := by
  rw [buckets, List.flatMap_map]
  exact flatMap_bucket_eq (keys_pairwise key xs) hsorted fun x hx => mem_keys.2 ⟨x, hx, rfl⟩

/-- No bucket is empty. -/
theorem ne_nil_of_mem {b : κ × List α} (h : b ∈ buckets key xs) : b.2 ≠ [] := by
  rcases List.mem_map.1 h with ⟨k, hk, rfl⟩
  rcases mem_keys.1 hk with ⟨x, hx, hkey⟩
  exact List.ne_nil_of_mem (List.mem_filter.2 ⟨hx, decide_eq_true hkey⟩)

end Buckets
