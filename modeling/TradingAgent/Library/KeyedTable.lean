import Mathlib.Data.List.Basic
import Mathlib.Data.List.Nodup
import Mathlib.Data.List.Perm.Subperm
import Mathlib.Data.List.Sort
import Mathlib.Order.Defs.LinearOrder
import Mathlib.Tactic.Common

/-!
# KeyedTable — dictionaries and tables with a primary key

Insertion-ordered dictionaries, and tables whose rows carry a key: `insertNew` is
`INSERT ... ON CONFLICT DO NOTHING`, `update` is `UPDATE ... WHERE key = ?`, `lookup` is
`SELECT ... WHERE key = ?`.  A batch of rows with fresh, pairwise distinct keys is appended as it
stands (`insertAll_of_fresh`), and so are the rows after a high-water mark (`insertAll_after`).
-/

/-- An insertion-ordered dictionary. -/
abbrev Dict (κ ν : Type*) := List (κ × ν)

namespace Dict

variable {κ ν : Type*} [DecidableEq κ]

def get? (d : Dict κ ν) (k : κ) : Option ν :=
  (d.find? fun p => p.1 = k).map Prod.snd

def getD (d : Dict κ ν) (k : κ) (default : ν) : ν :=
  (d.get? k).getD default

def contains (d : Dict κ ν) (k : κ) : Bool :=
  d.any fun p => p.1 = k

/-- Overwrite the value at `k` in place, or append a new entry. -/
def set (d : Dict κ ν) (k : κ) (v : ν) : Dict κ ν :=
  if d.contains k then d.map fun p => if p.1 = k then (k, v) else p else d ++ [(k, v)]

theorem contains_iff (d : Dict κ ν) (k : κ) : d.contains k = true ↔ ∃ p ∈ d, p.1 = k := by
  simp [contains]

@[simp] theorem get?_set_self (d : Dict κ ν) (k : κ) (v : ν) : (d.set k v).get? k = some v := by
  unfold set
  split
  · rename_i hin
    have hfind : ∀ e : Dict κ ν, (∃ p ∈ e, p.1 = k) →
        (e.map fun p => if p.1 = k then (k, v) else p).find? (fun p => p.1 = k) = some (k, v) := by
      intro e
      induction e with
      | nil =>
          intro hex
          rcases hex with ⟨p, hp, -⟩
          cases hp
      | cons p e ih =>
          intro hex
          by_cases hk : p.1 = k
          · simp [hk]
          · have hrest : ∃ q ∈ e, q.1 = k := by simpa [hk] using hex
            simpa [hk] using ih hrest
    simp [get?, hfind d ((contains_iff d k).1 hin)]
  · rename_i hout
    have hnone : d.find? (fun p => p.1 = k) = none := by
      refine List.find?_eq_none.2 fun p hp heq => hout ?_
      exact (contains_iff d k).2 ⟨p, hp, by simpa using heq⟩
    simp [get?, List.find?_append, hnone]

theorem get?_set_of_ne (d : Dict κ ν) {k k' : κ} (h : k' ≠ k) (v : ν) :
    (d.set k v).get? k' = d.get? k' := by
  have hfind : ∀ e : Dict κ ν, (e.map fun p => if p.1 = k then (k, v) else p).find?
      (fun p => p.1 = k') = e.find? fun p => p.1 = k' := by
    intro e
    induction e with
    | nil =>
        rfl
    | cons p e ih =>
        by_cases hk : p.1 = k
        · have hk' : p.1 ≠ k' := fun heq => h (heq.symm.trans hk)
          rw [List.map_cons, if_pos hk, List.find?_cons_of_neg (by simpa using h.symm),
            List.find?_cons_of_neg (by simpa using hk'), ih]
        · by_cases hp : p.1 = k'
          · simp [hp, h]
          · rw [List.map_cons, if_neg hk, List.find?_cons_of_neg (by simpa using hp),
              List.find?_cons_of_neg (by simpa using hp), ih]
  unfold set
  split
  · simp only [get?, hfind]
  · simp [get?, List.find?_append, h.symm]

theorem set_of_fresh {d : Dict κ ν} {k : κ} (h : ∀ p ∈ d, p.1 ≠ k) (v : ν) :
    d.set k v = d ++ [(k, v)] := by
  have hout : ¬d.contains k = true := by
    intro hin
    rcases (contains_iff d k).1 hin with ⟨p, hp, hk⟩
    exact h p hp hk
  simp [set, hout]

theorem mem_set {d : Dict κ ν} {k : κ} {v : ν} {p : κ × ν} :
    p ∈ d.set k v ↔ p = (k, v) ∨ p ∈ d ∧ p.1 ≠ k := by
  unfold set
  split
  · rename_i hin
    rcases (contains_iff d k).1 hin with ⟨q, hq, hk⟩
    rw [List.mem_map]
    constructor
    · intro hmem
      rcases hmem with ⟨r, hr, rfl⟩
      by_cases hrk : r.1 = k
      · simp [hrk]
      · simp [hrk, hr]
    · intro hmem
      rcases hmem with rfl | ⟨hp, hpk⟩
      · exact ⟨q, hq, by simp [hk]⟩
      · exact ⟨p, hp, by simp [hpk]⟩
  · rename_i hout
    have hfresh : ∀ q ∈ d, q.1 ≠ k := by
      intro q hq hk
      exact hout ((contains_iff d k).2 ⟨q, hq, hk⟩)
    rw [List.mem_append, List.mem_singleton]
    constructor
    · intro hmem
      rcases hmem with hp | hp
      · exact .inr ⟨hp, hfresh p hp⟩
      · exact .inl hp
    · intro hmem
      rcases hmem with hp | ⟨hp, -⟩
      · exact .inr hp
      · exact .inl hp

theorem nodup_keys_set {d : Dict κ ν} (h : (d.map Prod.fst).Nodup) (k : κ) (v : ν) :
    ((d.set k v).map Prod.fst).Nodup := by
  unfold set
  split
  · have hkeys : (d.map fun p => if p.1 = k then (k, v) else p).map Prod.fst = d.map Prod.fst := by
      rw [List.map_map]
      refine List.map_congr_left fun p _ => ?_
      by_cases hk : p.1 = k <;> simp [hk]
    rwa [hkeys]
  · rename_i hout
    have hfresh : k ∉ d.map Prod.fst := by
      intro hmem
      rcases List.mem_map.1 hmem with ⟨p, hp, hk⟩
      exact hout ((contains_iff d k).2 ⟨p, hp, hk⟩)
    rw [List.map_append, List.nodup_append]
    refine ⟨h, List.nodup_singleton _, ?_⟩
    intro a ha b hb heq
    have hk : a = k := heq.trans (by simpa using hb)
    exact hfresh (hk ▸ ha)

/-- `d.update(other)`. -/
def updateAll (d other : Dict κ ν) : Dict κ ν :=
  other.foldl (fun d p => d.set p.1 p.2) d

/-- The entries of the other dictionary, and those of this one under keys the other does not have. -/
theorem mem_updateAll {d other : Dict κ ν} (hnodup : (other.map Prod.fst).Nodup) {p : κ × ν} :
    p ∈ d.updateAll other ↔ p ∈ other ∨ p ∈ d ∧ p.1 ∉ other.map Prod.fst := by
  induction other generalizing d with
  | nil => simp [updateAll]
  | cons q other ih =>
      have hcons : q.1 ∉ other.map Prod.fst ∧ (other.map Prod.fst).Nodup :=
        List.nodup_cons.1 hnodup
      have hstep : p ∈ d.updateAll (q :: other) ↔ p ∈ (d.set q.1 q.2).updateAll other := Iff.rfl
      rw [hstep, ih hcons.2, mem_set, List.map_cons, List.mem_cons, List.mem_cons, not_or]
      constructor
      · rintro (hother | ⟨rfl | ⟨hd, hq⟩, hp⟩)
        · exact .inl (.inr hother)
        · exact .inl (.inl rfl)
        · exact .inr ⟨hd, hq, hp⟩
      · rintro ((rfl | hother) | ⟨hd, hq, hp⟩)
        · exact .inr ⟨.inl rfl, hcons.1⟩
        · exact .inl hother
        · exact .inr ⟨.inr ⟨hd, hq⟩, hp⟩

/-- Set the values of a list, each under its own key, in turn. -/
def setAll (key : ν → κ) (d : Dict κ ν) (values : List ν) : Dict κ ν :=
  values.foldl (fun d v => d.set (key v) v) d

/-- Every entry is stored under the key of its value. -/
def KeyedBy (key : ν → κ) (d : Dict κ ν) : Prop :=
  ∀ p ∈ d, key p.2 = p.1

omit [DecidableEq κ] in
/-- Entries that are kept under their own keys are told by the values there are. -/
theorem perm_of_keyed {key : ν → κ} {d d' : Dict κ ν} (hunique : (d.map Prod.fst).Nodup)
    (hunique' : (d'.map Prod.fst).Nodup) (hkeyed : KeyedBy key d) (hkeyed' : KeyedBy key d')
    (hsame : ∀ v, (key v, v) ∈ d ↔ (key v, v) ∈ d') : d.Perm d' := by
  apply (List.perm_ext_iff_of_nodup hunique.of_map hunique'.of_map).2
  intro p
  have hvalue := hsame p.2
  constructor
  · intro hmem
    rw [hkeyed p hmem] at hvalue
    exact hvalue.1 hmem
  · intro hmem
    rw [hkeyed' p hmem] at hvalue
    exact hvalue.2 hmem

/-- `DELETE ... WHERE key = ?`, for each of the keys. -/
def eraseAll (d : Dict κ ν) (keys : List κ) : Dict κ ν :=
  d.filter fun p => p.1 ∉ keys

theorem mem_eraseAll {d : Dict κ ν} {keys : List κ} {p : κ × ν} :
    p ∈ d.eraseAll keys ↔ p ∈ d ∧ p.1 ∉ keys := by
  simp [eraseAll]

@[simp] theorem eraseAll_nil (d : Dict κ ν) : d.eraseAll [] = d := by
  simp [eraseAll]

/-- Deleting one key after the others. -/
theorem eraseAll_eraseAll (d : Dict κ ν) (keys keys' : List κ) :
    (d.eraseAll keys).eraseAll keys' = d.eraseAll (keys ++ keys') := by
  unfold eraseAll
  rw [List.filter_filter]
  refine List.filter_congr ?_
  intro p _
  by_cases hk : p.1 ∈ keys
  · simp [hk]
  · simp [hk]

section SetAll

variable {key : ν → κ} {d : Dict κ ν} {values : List ν}

theorem KeyedBy.set (h : KeyedBy key d) (v : ν) : KeyedBy key (d.set (key v) v) := by
  intro p hp
  rcases mem_set.1 hp with rfl | ⟨hp, -⟩
  · rfl
  · exact h p hp

theorem KeyedBy.setAll (h : KeyedBy key d) (values : List ν) :
    KeyedBy key (setAll key d values) := by
  induction values generalizing d with
  | nil => exact h
  | cons v values ih => exact ih (h.set v)

theorem nodup_keys_setAll (h : (d.map Prod.fst).Nodup) (values : List ν) :
    ((setAll key d values).map Prod.fst).Nodup := by
  induction values generalizing d with
  | nil => exact h
  | cons v values ih => exact ih (nodup_keys_set h (key v) v)

/-- What is stored afterwards was stored before or is one of the values. -/
theorem mem_of_mem_setAll {p : κ × ν} (h : p ∈ setAll key d values) : p ∈ d ∨ p.2 ∈ values := by
  induction values generalizing d with
  | nil => exact .inl h
  | cons v values ih =>
      rcases ih h with hset | hrest
      · rcases mem_set.1 hset with rfl | ⟨hp, -⟩
        · exact .inr List.mem_cons_self
        · exact .inl hp
      · exact .inr (List.mem_cons_of_mem v hrest)

theorem mem_keys_set {k k' : κ} {v : ν} :
    k' ∈ (d.set k v).map Prod.fst ↔ k' = k ∨ k' ∈ d.map Prod.fst := by
  constructor
  · intro hmem
    rcases List.mem_map.1 hmem with ⟨p, hp, rfl⟩
    rcases mem_set.1 hp with rfl | ⟨hp, -⟩
    · exact .inl rfl
    · exact .inr (List.mem_map_of_mem hp)
  · intro hmem
    by_cases hk : k' = k
    · exact List.mem_map.2 ⟨(k, v), mem_set.2 (.inl rfl), hk.symm⟩
    · rcases List.mem_map.1 (hmem.resolve_left hk) with ⟨p, hp, rfl⟩
      exact List.mem_map_of_mem (mem_set.2 (.inr ⟨hp, hk⟩))

theorem mem_keys_setAll {k : κ} :
    k ∈ (setAll key d values).map Prod.fst ↔ k ∈ d.map Prod.fst ∨ ∃ v ∈ values, key v = k := by
  induction values generalizing d with
  | nil => simp [setAll]
  | cons v values ih =>
      have hstep : k ∈ (setAll key (d.set (key v) v) values).map Prod.fst ↔ _ := ih
      rw [show setAll key d (v :: values) = setAll key (d.set (key v) v) values from rfl, hstep,
        mem_keys_set, List.exists_mem_cons_iff]
      constructor
      · intro h
        rcases h with (rfl | h) | h
        · exact .inr (.inl rfl)
        · exact .inl h
        · exact .inr (.inr h)
      · intro h
        rcases h with h | rfl | h
        · exact .inl (.inr h)
        · exact .inl (.inl rfl)
        · exact .inr h

/-- Values with pairwise distinct keys replace what was stored under their keys. -/
theorem mem_setAll (hnodup : (values.map key).Nodup) {p : κ × ν} :
    p ∈ setAll key d values ↔
      (p.2 ∈ values ∧ key p.2 = p.1) ∨ p ∈ d ∧ ∀ v ∈ values, key v ≠ p.1 := by
  induction values generalizing d with
  | nil => simp [setAll]
  | cons v values ih =>
      have hcons : key v ∉ values.map key ∧ (values.map key).Nodup := List.nodup_cons.1 hnodup
      have hrest : p ∈ setAll key (d.set (key v) v) values ↔ _ := ih hcons.2
      have hstep : p ∈ setAll key d (v :: values) ↔ p ∈ setAll key (d.set (key v) v) values :=
        Iff.rfl
      rw [hstep, hrest, mem_set]
      constructor
      · intro h
        rcases h with ⟨hp, hkey⟩ | ⟨rfl | ⟨hp, hne⟩, hothers⟩
        · exact .inl ⟨List.mem_cons_of_mem v hp, hkey⟩
        · exact .inl ⟨List.mem_cons_self, rfl⟩
        · refine .inr ⟨hp, ?_⟩
          intro w hw
          rcases List.mem_cons.1 hw with rfl | hw
          · exact hne.symm
          · exact hothers w hw
      · intro h
        rcases h with ⟨hp, hkey⟩ | ⟨hp, hothers⟩
        · rcases List.mem_cons.1 hp with heq | hp
          · -- no later value has the key of the first
            refine .inr ⟨.inl (Prod.ext (by rw [← hkey, heq]) heq), ?_⟩
            intro w hw hwkey
            exact hcons.1 (List.mem_map.2 ⟨w, hw, by rw [hwkey, ← hkey, heq]⟩)
          · exact .inl ⟨hp, hkey⟩
        · refine .inr ⟨.inr ⟨hp, (hothers v List.mem_cons_self).symm⟩, ?_⟩
          intro w hw
          exact hothers w (List.mem_cons_of_mem v hw)

/-- Values with fresh, pairwise distinct keys are appended in order. -/
theorem setAll_of_fresh (hnodup : (values.map key).Nodup)
    (hfresh : ∀ v ∈ values, ∀ p ∈ d, p.1 ≠ key v) :
    setAll key d values = d ++ values.map fun v => (key v, v) := by
  induction values generalizing d with
  | nil => simp [setAll]
  | cons v values ih =>
      have hcons : key v ∉ values.map key ∧ (values.map key).Nodup := List.nodup_cons.1 hnodup
      have hset : d.set (key v) v = d ++ [(key v, v)] :=
        set_of_fresh (hfresh v List.mem_cons_self) v
      have hrest : setAll key (d ++ [(key v, v)]) values =
          d ++ [(key v, v)] ++ values.map fun v => (key v, v) := by
        refine ih hcons.2 ?_
        intro w hw p hp
        rcases List.mem_append.1 hp with hp | hp
        · exact hfresh w (List.mem_cons_of_mem v hw) p hp
        · rw [List.mem_singleton.1 hp]
          intro heq
          exact hcons.1 (List.mem_map.2 ⟨w, hw, heq.symm⟩)
      simpa [setAll, hset] using hrest

end SetAll

end Dict

namespace KeyedTable

variable {ρ κ : Type*} [DecidableEq κ]

/-- `INSERT ... ON CONFLICT(key) DO NOTHING`. -/
def insertNew (key : ρ → κ) (table : List ρ) (row : ρ) : List ρ :=
  if table.any fun r => key r = key row then table else table ++ [row]

def insertAll (key : ρ → κ) (table rows : List ρ) : List ρ :=
  rows.foldl (insertNew key) table

/-- `SELECT ... WHERE key = ?`. -/
def lookup (key : ρ → κ) (table : List ρ) (k : κ) : Option ρ :=
  table.find? fun r => key r = k

/-- `UPDATE ... WHERE key = ?`. -/
def update (key : ρ → κ) (table : List ρ) (k : κ) (f : ρ → ρ) : List ρ :=
  table.map fun r => if key r = k then f r else r

theorem lookup_eq_some {key : ρ → κ} {table : List ρ} {k : κ} {r : ρ}
    (h : lookup key table k = some r) : r ∈ table ∧ key r = k :=
  ⟨List.mem_of_find?_eq_some h, by simpa using List.find?_some h⟩

theorem lookup_eq_none_iff {key : ρ → κ} {table : List ρ} {k : κ} :
    lookup key table k = none ↔ ∀ r ∈ table, key r ≠ k := by
  simp [lookup]

/-- Where keys are unique the row found is the only one with its key. -/
theorem lookup_eq_of_mem {key : ρ → κ} {table : List ρ} (hnodup : (table.map key).Nodup) {r : ρ}
    (hr : r ∈ table) : lookup key table (key r) = some r := by
  induction table with
  | nil =>
      cases hr
  | cons r' table ih =>
      have hcons : key r' ∉ table.map key ∧ (table.map key).Nodup := List.nodup_cons.1 hnodup
      rcases List.mem_cons.1 hr with rfl | hin
      · simp [lookup]
      · have hne : key r' ≠ key r := fun heq => hcons.1 (heq ▸ List.mem_map_of_mem hin)
        simpa [lookup, hne] using ih hcons.2 hin

/-- Rows inserted under a new key can be looked up; the others are found as before. -/
theorem lookup_insertNew {key : ρ → κ} {table : List ρ} {row : ρ}
    (hfresh : lookup key table (key row) = none) (k : κ) :
    lookup key (insertNew key table row) k =
      if key row = k then some row else lookup key table k := by
  have hkeys : ∀ r ∈ table, key r ≠ key row := lookup_eq_none_iff.1 hfresh
  have happend : insertNew key table row = table ++ [row] := by
    have hany : (table.any fun r => key r = key row) = false := by simpa using hkeys
    simp [insertNew, hany]
  by_cases hk : key row = k
  · subst hk
    unfold lookup at hfresh
    simp [lookup, happend, List.find?_append, hfresh]
  · simp [lookup, happend, List.find?_append, hk]

theorem lookup_update {key : ρ → κ} {f : ρ → ρ} (hkey : ∀ r, key (f r) = key r) (table : List ρ)
    (k k' : κ) :
    lookup key (update key table k f) k' =
      if k' = k then (lookup key table k).map f else lookup key table k' := by
  induction table with
  | nil =>
      by_cases hk : k' = k <;> simp [lookup, update, hk]
  | cons r table ih =>
      unfold lookup update at ih ⊢
      by_cases hr : key r = k
      · by_cases hk : k' = k
        · simp [hr, hk, hkey]
        · have hne : k ≠ k' := fun heq => hk heq.symm
          simpa [hr, hk, hkey, hne] using ih
      · by_cases hk : k' = k
        · subst hk
          simpa [hr] using ih
        · by_cases hr' : key r = k'
          · simp [hk, hr']
          · simpa [hr, hk, hr'] using ih

@[simp] theorem map_key_update {key : ρ → κ} {f : ρ → ρ} (hkey : ∀ r, key (f r) = key r)
    (table : List ρ) (k : κ) : (update key table k f).map key = table.map key := by
  simp only [update, List.map_map]
  refine List.map_congr_left fun r _ => ?_
  by_cases hr : key r = k <;> simp [hr, hkey]

theorem nodup_insertNew {key : ρ → κ} {table : List ρ} (hnodup : (table.map key).Nodup) (row : ρ) :
    ((insertNew key table row).map key).Nodup := by
  unfold insertNew
  split
  · exact hnodup
  · rename_i hnew
    have hfresh : key row ∉ table.map key := by
      intro hmem
      rcases List.mem_map.1 hmem with ⟨r, hr, hkey⟩
      exact hnew (by simpa using ⟨r, hr, hkey⟩)
    simpa [List.nodup_append] using ⟨hnodup, fun r hr heq => hfresh (heq ▸ List.mem_map_of_mem hr)⟩

/-- An insertion never changes a row that is there. -/
theorem lookup_insertNew_of_found {key : ρ → κ} {table : List ρ} {k : κ} {r : ρ}
    (h : lookup key table k = some r) (row : ρ) :
    lookup key (insertNew key table row) k = some r := by
  unfold insertNew
  split
  · exact h
  · unfold lookup at h ⊢
    rw [List.find?_append, h]
    rfl

theorem lookup_insertAll_of_found {key : ρ → κ} {table : List ρ} {k : κ} {r : ρ}
    (h : lookup key table k = some r) (rows : List ρ) :
    lookup key (insertAll key table rows) k = some r := by
  induction rows generalizing table with
  | nil => exact h
  | cons row rows ih => exact ih (lookup_insertNew_of_found h row)

theorem nodup_insertAll {key : ρ → κ} {table : List ρ} (hnodup : (table.map key).Nodup)
    (rows : List ρ) : ((insertAll key table rows).map key).Nodup := by
  induction rows generalizing table with
  | nil => exact hnodup
  | cons row rows ih => exact ih (nodup_insertNew hnodup row)

@[simp] theorem insertAll_nil (key : ρ → κ) (table : List ρ) : insertAll key table [] = table := rfl

theorem mem_insertAll {key : ρ → κ} {table rows : List ρ} {r : ρ}
    (h : r ∈ insertAll key table rows) : r ∈ table ∨ r ∈ rows := by
  induction rows generalizing table with
  | nil => exact Or.inl h
  | cons row rows ih =>
      rcases ih h with hold | hnew
      · unfold insertNew at hold
        split at hold
        · exact Or.inl hold
        · rcases List.mem_append.1 hold with hmem | hmem
          · exact Or.inl hmem
          · exact Or.inr (List.mem_singleton.1 hmem ▸ List.mem_cons_self)
      · exact Or.inr (List.mem_cons_of_mem row hnew)

theorem insertNew_of_fresh {key : ρ → κ} {table : List ρ} {row : ρ}
    (h : ∀ r ∈ table, key r ≠ key row) : insertNew key table row = table ++ [row] := by
  have hany : (table.any fun r => key r = key row) = false := by
    simpa using h
  simp [insertNew, hany]

/-- Rows with fresh, pairwise distinct keys are appended in order. -/
theorem insertAll_of_fresh {key : ρ → κ} {table rows : List ρ} (hnodup : (rows.map key).Nodup)
    (hfresh : ∀ row ∈ rows, ∀ r ∈ table, key r ≠ key row) :
    insertAll key table rows = table ++ rows := by
  induction rows generalizing table with
  | nil =>
      simp
  | cons row rows ih =>
      have hrow : insertNew key table row = table ++ [row] :=
        insertNew_of_fresh (hfresh row List.mem_cons_self)
      have hcons : key row ∉ rows.map key ∧ (rows.map key).Nodup := List.nodup_cons.1 hnodup
      have hrest : insertAll key (table ++ [row]) rows = table ++ [row] ++ rows := by
        refine ih hcons.2 fun r' hr' r hr => ?_
        rcases List.mem_append.1 hr with hr | hr
        · exact hfresh r' (List.mem_cons_of_mem _ hr') r hr
        · rw [List.mem_singleton] at hr
          subst hr
          intro heq
          exact hcons.1 (heq ▸ List.mem_map_of_mem hr')
      simpa [insertAll, hrow] using hrest

/-! ## A high-water mark -/

section Mark

variable {τ : Type*} [LinearOrder τ] {time : ρ → τ} {mark : τ}

/-- The rows after a mark. -/
def after (time : ρ → τ) (mark : τ) (rows : List ρ) : List ρ :=
  rows.filter fun r => mark < time r

/-- Where rows up to the mark are followed by rows after it, the latter are those after it. -/
theorem after_append {old new : List ρ} (hold : ∀ r ∈ old, time r ≤ mark)
    (hnew : ∀ r ∈ new, mark < time r) : after time mark (old ++ new) = new := by
  have hnone : old.filter (fun r => mark < time r) = [] := by
    refine List.filter_eq_nil_iff.2 ?_
    intro r hr
    simpa using hold r hr
  have hall : new.filter (fun r => mark < time r) = new := by
    refine List.filter_eq_self.2 ?_
    intro r hr
    simpa using hnew r hr
  rw [after, List.filter_append, hnone, hall, List.nil_append]

theorem map_after (rows : List ρ) :
    (after time mark rows).map time = (rows.map time).filter fun t => mark < t := by
  rw [List.filter_map]
  rfl

/-- Lists in strict order of a key are determined by their members. -/
theorem eq_of_mem_iff {rows rows' : List ρ} (h : rows.Pairwise fun a b => time a < time b)
    (h' : rows'.Pairwise fun a b => time a < time b) (hmem : ∀ r, r ∈ rows ↔ r ∈ rows') :
    rows = rows' := by
  have hirrefl : Std.Irrefl fun a b : ρ => time a < time b := ⟨fun a => lt_irrefl (time a)⟩
  have hantisymm : Std.Antisymm fun a b : ρ => time a < time b :=
    ⟨fun a b hab hba => absurd hab hba.asymm⟩
  exact h.eq_of_mem_iff h' hmem

/-- Into a table whose rows are all up to the mark, inserting the rows after it appends them. -/
theorem insertAll_after {key : ρ → κ} {table old new : List ρ}
    (hkey : ∀ a b, key a = key b → time a = time b) (htable : ∀ r ∈ table, time r ≤ mark)
    (hold : ∀ r ∈ old, time r ≤ mark) (hnew : ∀ r ∈ new, mark < time r)
    (hnodup : (new.map key).Nodup) :
    insertAll key table (after time mark (old ++ new)) = table ++ new := by
  rw [after_append hold hnew]
  refine insertAll_of_fresh hnodup ?_
  intro row hrow r hr heq
  have hlt : time r < time row := lt_of_le_of_lt (htable r hr) (hnew row hrow)
  exact absurd (hkey r row heq) (ne_of_lt hlt)

end Mark

end KeyedTable
