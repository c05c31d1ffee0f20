import TradingAgent.Library.KeyedTable
import Mathlib.Algebra.BigOperators.Group.Finset.Basic
import Mathlib.Algebra.Ring.Nat

/-!
# Tally — dictionaries that summarise a list of keyed events

An accumulator that counts events by key, keeps the first event of each key and the last one.  Each
dictionary is a function of the list of events seen so far, so what it holds is read off the list.

* `getD_tally` and `total_tally`: the counts are those of the list, and add up to its length;
* `mem_firsts`: the entry of a key is its first event;
* `get?_updateAll`: after a run of updates the entry of a key is its last event.
-/

namespace Dict

variable {κ ν : Type*} [DecidableEq κ]

theorem contains_iff_mem_keys (d : Dict κ ν) (k : κ) :
    d.contains k = true ↔ k ∈ d.map Prod.fst := by
  rw [contains_iff, List.mem_map]

/-- An entry with a key of its own is the one found under that key. -/
theorem get?_of_mem {d : Dict κ ν} (hnodup : (d.map Prod.fst).Nodup) {k : κ} {v : ν}
    (h : (k, v) ∈ d) : d.get? k = some v := by
  have hlookup : KeyedTable.lookup Prod.fst d k = some (k, v) :=
    KeyedTable.lookup_eq_of_mem (r := (k, v)) hnodup h
  unfold KeyedTable.lookup at hlookup
  rw [get?, hlookup, Option.map_some]

/-! ## Counting -/

/-- `d[k] = d.get(k, 0) + 1`. -/
def bump (d : Dict κ ℕ) (k : κ) : Dict κ ℕ :=
  d.set k (d.getD k 0 + 1)

/-- How often each key occurs. -/
def tally (keys : List κ) : Dict κ ℕ :=
  keys.foldl bump []

/-- The sum of all counts. -/
def total (d : Dict κ ℕ) : ℕ :=
  (d.map Prod.snd).sum

@[simp] theorem tally_nil : tally ([] : List κ) = [] := rfl

theorem tally_concat (keys : List κ) (k : κ) : tally (keys ++ [k]) = (tally keys).bump k := by
  rw [tally, List.foldl_append]
  rfl

theorem nodup_keys_tally (keys : List κ) : ((tally keys).map Prod.fst).Nodup := by
  induction keys using List.reverseRecOn with
  | nil => exact List.nodup_nil
  | append_singleton keys k ih =>
      rw [tally_concat]
      exact nodup_keys_set ih k _

theorem getD_tally (keys : List κ) (k : κ) : (tally keys).getD k 0 = keys.count k := by
  induction keys using List.reverseRecOn with
  | nil => rfl
  | append_singleton keys k' ih =>
      rw [tally_concat, bump, List.count_append]
      by_cases hk : k = k'
      · subst hk
        rw [getD, get?_set_self, Option.getD_some, ih, List.count_singleton_self]
      · have hne : ¬k' = k := fun heq => hk heq.symm
        rw [getD, get?_set_of_ne _ hk, List.count_singleton, if_neg (by simpa using hne)]
        exact ih

theorem mem_keys_tally {keys : List κ} {k : κ} : k ∈ (tally keys).map Prod.fst ↔ k ∈ keys := by
  induction keys using List.reverseRecOn with
  | nil => simp
  | append_singleton keys k' ih =>
      rw [tally_concat, bump, mem_keys_set, ih, List.mem_append, List.mem_singleton, or_comm]

/-- The entries of a tally are the counts of the keys there are. -/
theorem mem_tally {keys : List κ} {k : κ} {n : ℕ} :
    (k, n) ∈ tally keys ↔ k ∈ keys ∧ n = keys.count k := by
  have hcount : ∀ m, (k, m) ∈ tally keys → m = keys.count k := by
    intro m hm
    have hget := get?_of_mem (nodup_keys_tally keys) hm
    rw [← getD_tally, getD, hget, Option.getD_some]
  constructor
  · intro hmem
    exact ⟨mem_keys_tally.1 (List.mem_map_of_mem hmem), hcount n hmem⟩
  · rintro ⟨hk, rfl⟩
    rcases List.mem_map.1 (mem_keys_tally.2 hk) with ⟨⟨k', m⟩, hm, rfl⟩
    exact hcount m hm ▸ hm

/-- The counts of a tally add up to the number of events. -/
theorem total_tally (keys : List κ) : total (tally keys) = keys.length := by
  have hcounts : (tally keys).map Prod.snd = ((tally keys).map Prod.fst).map keys.count := by
    rw [List.map_map]
    refine List.map_congr_left ?_
    rintro ⟨k, n⟩ hp
    exact (mem_tally.1 hp).2
  have hkeys : ((tally keys).map Prod.fst).toFinset = keys.toFinset := by
    ext k
    rw [List.mem_toFinset, List.mem_toFinset, mem_keys_tally]
  calc total (tally keys) = (((tally keys).map Prod.fst).map keys.count).sum := by
        rw [total, hcounts]
    _ = ∑ k ∈ keys.toFinset, keys.count k := by
        rw [← hkeys, List.sum_toFinset _ (nodup_keys_tally keys)]
    _ = keys.length := List.sum_toFinset_count_eq_length keys

/-! ## The first and the last event of each key -/

/-- `if k not in d: d[k] = v`, for each event in turn. -/
def firsts (events : List (κ × ν)) : Dict κ ν :=
  events.foldl (fun d p => if d.contains p.1 then d else d.set p.1 p.2) []

theorem firsts_concat (events : List (κ × ν)) (p : κ × ν) :
    firsts (events ++ [p]) =
      if (firsts events).contains p.1 then firsts events else (firsts events).set p.1 p.2 := by
  rw [firsts, List.foldl_append]
  rfl

theorem mem_keys_firsts {events : List (κ × ν)} {k : κ} :
    k ∈ (firsts events).map Prod.fst ↔ k ∈ events.map Prod.fst := by
  induction events using List.reverseRecOn with
  | nil => simp [firsts]
  | append_singleton events p ih =>
      rw [firsts_concat, List.map_append, List.mem_append, ← ih]
      split
      · rename_i hin
        -- the event repeats a key there is
        have hold : p.1 ∈ (firsts events).map Prod.fst := (contains_iff_mem_keys _ _).1 hin
        constructor
        · exact Or.inl
        · intro h
          rcases h with h | h
          · exact h
          · rw [List.map_singleton, List.mem_singleton] at h
            exact h ▸ hold
      · rw [mem_keys_set, List.map_singleton, List.mem_singleton, or_comm]

/-- The entry of a key is its first event. -/
theorem mem_firsts {events : List (κ × ν)} {p : κ × ν} :
    p ∈ firsts events ↔ (events.find? fun q => q.1 = p.1) = some p := by
  induction events using List.reverseRecOn with
  | nil => simp [firsts]
  | append_singleton events q ih =>
      rw [firsts_concat, List.find?_append]
      cases hfound : events.find? fun r => r.1 = p.1 with
      | some r =>
          -- the key was there before, and keeps its entry
          have hkey : p.1 ∈ (firsts events).map Prod.fst := by
            rw [mem_keys_firsts]
            exact List.mem_map.2 ⟨r, List.mem_of_find?_eq_some hfound,
              by simpa using List.find?_some hfound⟩
          rw [Option.some_or, ← hfound, ← ih]
          split
          · rfl
          · rename_i hout
            have hne : p.1 ≠ q.1 := fun heq => hout ((contains_iff_mem_keys _ _).2 (heq ▸ hkey))
            rw [mem_set]
            constructor
            · intro hp
              rcases hp with rfl | hp
              · exact absurd rfl hne
              · exact hp.1
            · intro hp
              exact Or.inr ⟨hp, hne⟩
      | none =>
          have hkey : p.1 ∉ (firsts events).map Prod.fst := by
            rw [mem_keys_firsts]
            intro hmem
            rcases List.mem_map.1 hmem with ⟨r, hr, hrp⟩
            exact absurd (List.find?_eq_none.1 hfound r hr) (by simpa using hrp)
          have hp : p ∉ firsts events := fun hmem => hkey (List.mem_map_of_mem hmem)
          rw [Option.none_or, List.find?_singleton]
          by_cases hq : q.1 = p.1
          · have hout : ¬(firsts events).contains q.1 = true := by
              rw [contains_iff_mem_keys, hq]
              exact hkey
            rw [if_neg hout, if_pos (by simpa using hq), Option.some.injEq, mem_set]
            constructor
            · intro h
              exact (h.resolve_right fun hold => hp hold.1).symm
            · intro h
              exact Or.inl h.symm
          · have hlast : (if decide (q.1 = p.1) = true then some q else none) = none :=
              if_neg (by simpa using hq)
            rw [hlast]
            refine iff_of_false ?_ (by simp)
            split
            · exact hp
            · rw [mem_set]
              rintro (rfl | hold)
              · exact hq rfl
              · exact hp hold.1

/-- After a run of updates the entry of a key is its last event, if it has one. -/
theorem get?_updateAll (d : Dict κ ν) (events : List (κ × ν)) (k : κ) :
    (d.updateAll events).get? k =
      (((events.filter fun p => p.1 = k).getLast?).map Prod.snd).or (d.get? k) := by
  induction events using List.reverseRecOn with
  | nil => rfl
  | append_singleton events p ih =>
      have hstep : d.updateAll (events ++ [p]) = (d.updateAll events).set p.1 p.2 := by
        rw [updateAll, List.foldl_append]
        rfl
      rw [hstep, List.filter_append]
      by_cases hp : p.1 = k
      · subst hp
        simp
      · rw [get?_set_of_ne _ (Ne.symm hp), ih]
        simp [hp]

end Dict
