import Mathlib.Data.List.Basic
import Mathlib.Data.List.Infix
import Mathlib.Data.List.Nodup
import Mathlib.Tactic.Common

/-!
# Replacing — substituting the matches of a text, from left to right

A rule looks at the rest of a text and says what to put there and how many values it consumes.
`substitute` applies it from the left, each match after the end of the one before; `replace` is the
rule for one word.  The values of a text carry their letter as a key, so that the same definitions
run on letters and on letters with a trace of where they come from (`map_substitute`).

* an occurrence that the inserted text cannot meet was there before (`infix_of_infix_replace`), and
  none of the replaced word is left (`not_infix_replace`);
* an occurrence that every match covers or misses stays whole or is gone (`whole_or_gone`).
-/

namespace Replacing

variable {τ κ : Type*}

/-! ## Substitution -/

/-- The substitution, `skip` values before the end of a match. -/
def scan (rule : List τ → Option (List τ × ℕ)) : ℕ → List τ → List τ
  | _, [] => []
  | skip + 1, _ :: rest => scan rule skip rest
  | 0, c :: rest =>
      match rule (c :: rest) with
      | some (r, n) => r ++ scan rule (n - 1) rest
      | none => c :: scan rule 0 rest

def substitute (rule : List τ → Option (List τ × ℕ)) (text : List τ) : List τ :=
  scan rule 0 text

section Substitute

variable {rule : List τ → Option (List τ × ℕ)} {c : τ} {rest r : List τ} {n : ℕ}

theorem scan_eq (skip : ℕ) (text : List τ) :
    scan rule skip text = substitute rule (text.drop skip) := by
  induction skip generalizing text with
  | zero => rfl
  | succ skip ih =>
      -- a match at the front is skipped value by value
      cases text with
      | nil => rfl
      | cons c rest => exact ih rest

theorem substitute_none (h : rule (c :: rest) = none) :
    substitute rule (c :: rest) = c :: substitute rule rest := by
  simp [substitute, scan, h]

theorem substitute_some (h : rule (c :: rest) = some (r, n)) :
    substitute rule (c :: rest) = r ++ substitute rule (rest.drop (n - 1)) := by
  rw [← scan_eq]
  simp [substitute, scan, h]

/-- Induction along the matches of a text. -/
theorem substitute_induction {motive : List τ → List τ → Prop} (nil : motive [] [])
    (keep : ∀ c rest, rule (c :: rest) = none → motive rest (substitute rule rest) →
      motive (c :: rest) (c :: substitute rule rest))
    (hit : ∀ c rest r n, rule (c :: rest) = some (r, n) →
      motive (rest.drop (n - 1)) (substitute rule (rest.drop (n - 1))) →
      motive (c :: rest) (r ++ substitute rule (rest.drop (n - 1)))) (text : List τ) :
    motive text (substitute rule text) := by
  induction hlength : text.length using Nat.strong_induction_on generalizing text with
  | h k ih =>
      cases text with
      | nil => exact nil
      | cons c rest =>
          have hrest : rest.length < k := by
            rw [← hlength]
            exact Nat.lt_succ_self _
          cases hrule : rule (c :: rest) with
          | none =>
              rw [substitute_none hrule]
              exact keep c rest hrule (ih _ hrest rest rfl)
          | some found =>
              rcases found with ⟨r, n⟩
              rw [substitute_some hrule]
              refine hit c rest r n hrule (ih _ ?_ _ rfl)
              rw [List.length_drop]
              omega

/-- A rule that finds nothing changes nothing. -/
theorem substitute_eq_self {text : List τ} (h : ∀ rest, rest <:+ text → rule rest = none) :
    substitute rule text = text := by
  induction text with
  | nil => rfl
  | cons c rest ih =>
      rw [substitute_none (h _ (List.suffix_refl _)),
        ih fun tail htail => h tail (htail.trans (List.suffix_cons c rest))]

/-- What is in the new text was inserted or was there. -/
theorem mem_substitute {P : τ → Prop} (hrule : ∀ text r n, rule text = some (r, n) →
    ∀ e ∈ r, P e ∨ e ∈ text) {text : List τ} {e : τ} (he : e ∈ substitute rule text) :
    P e ∨ e ∈ text := by
  revert he
  refine substitute_induction (motive := fun text out => e ∈ out → P e ∨ e ∈ text) ?_ ?_ ?_ text
  · exact Or.inr
  · intro c rest _ ih he
    rcases List.mem_cons.1 he with rfl | hrest
    · exact Or.inr List.mem_cons_self
    · exact (ih hrest).imp_right (List.mem_cons_of_mem c)
  · intro c rest r n hhit ih he
    rcases List.mem_append.1 he with hr | hrest
    · exact hrule _ r n hhit e hr
    · exact (ih hrest).imp_right fun h => List.mem_cons_of_mem c (List.mem_of_mem_drop h)

/-- A rule that keeps no more than a part of what it consumes keeps the order of what is left. -/
theorem filterMap_substitute_sublist {β : Type*} {f : τ → Option β}
    (hrule : ∀ text r n, rule text = some (r, n) →
      0 < n ∧ (r.filterMap f).Sublist ((text.take n).filterMap f)) (text : List τ) :
    ((substitute rule text).filterMap f).Sublist (text.filterMap f) := by
  refine substitute_induction (motive := fun text out =>
    (out.filterMap f).Sublist (text.filterMap f)) ?_ ?_ ?_ text
  · exact List.Sublist.refl _
  · intro c rest _ ih
    cases hc : f c with
    | none => simpa [hc] using ih
    | some b => simpa [hc] using ih
  · intro c rest r n hhit ih
    rcases hrule _ r n hhit with ⟨hn, hsub⟩
    -- what the match consumes, and what comes after it
    have hsplit : c :: rest = (c :: rest).take n ++ rest.drop (n - 1) := by
      conv_lhs => rw [← List.take_append_drop n (c :: rest)]
      rw [show n = n - 1 + 1 by omega, List.drop_succ_cons, Nat.add_sub_cancel]
    rw [hsplit, List.filterMap_append, List.filterMap_append]
    exact hsub.append ih

/-- Two rules that agree along a map of the texts give texts that agree along it. -/
theorem map_substitute {σ : Type*} {f : τ → σ} {rule' : List σ → Option (List σ × ℕ)}
    (hrule : ∀ text, rule' (text.map f) = (rule text).map fun found => (found.1.map f, found.2))
    (text : List τ) : (substitute rule text).map f = substitute rule' (text.map f) := by
  refine substitute_induction (motive := fun text out =>
    out.map f = substitute rule' (text.map f)) ?_ ?_ ?_ text
  · rfl
  · intro c rest hkeep ih
    have hrule' := hrule (c :: rest)
    rw [hkeep, List.map_cons] at hrule'
    rw [List.map_cons, List.map_cons, substitute_none hrule', ih]
  · intro c rest r n hhit ih
    have hrule' := hrule (c :: rest)
    rw [hhit, List.map_cons] at hrule'
    rw [List.map_append, List.map_cons, substitute_some hrule', ih, List.map_drop]

end Substitute

/-! ## Words that overlap -/

/-- A copy of the one word can lie across a copy of the other. -/
def Meets (s w : List κ) : Prop :=
  (∃ k < s.length, s.drop k <+: w ∨ w <+: s.drop k) ∨
    ∃ k < w.length, w.drop k <+: s ∨ s <+: w.drop k

instance [DecidableEq κ] (s w : List κ) : Decidable (Meets s w) :=
  inferInstanceAs (Decidable (_ ∨ _))

/-- A stretch of `x ++ w ++ y` whose word does not meet that of `w` lies on one side of `w`. -/
theorem infix_of_not_meets {key : τ → κ} {m x w y : List τ}
    (hmeets : ¬Meets (m.map key) (w.map key)) (hm : m <:+: x ++ w ++ y) : m <:+: x ∨ m <:+: y := by
  rcases hm with ⟨p, q, hm⟩
  -- the stretch ends before `w`, or starts after it
  by_cases hleft : p.length + m.length ≤ x.length
  · left
    have hfirst : p ++ m <+: x := by
      have hx : x <+: x ++ w ++ y := ⟨w ++ y, (List.append_assoc x w y).symm⟩
      exact List.prefix_of_prefix_length_le ⟨q, hm⟩ hx (by simpa using hleft)
    exact (List.suffix_append p m).isInfix.trans hfirst.isInfix
  by_cases hright : x.length + w.length ≤ p.length
  · right
    have hfirst : x ++ w <+: p := by
      have hp : p <+: x ++ w ++ y := ⟨m ++ q, by rw [← hm, List.append_assoc]⟩
      exact List.prefix_of_prefix_length_le ⟨y, rfl⟩ hp (by simpa using hright)
    rcases hfirst with ⟨u, rfl⟩
    have hy : u ++ m ++ q = y := by simpa using hm
    exact ⟨u, q, hy⟩
  -- the two stretches share a place
  exfalso
  refine hmeets ?_
  -- the later of the two starts lies in both: compare what follows it
  by_cases hle : p.length ≤ x.length
  · left
    have hdrop : m.drop (x.length - p.length) ++ q = w ++ y := by
      have := congrArg (List.drop x.length) hm
      rwa [List.append_assoc, List.append_assoc, List.drop_left, List.drop_append,
        List.drop_eq_nil_of_le hle, List.nil_append, List.drop_append_of_le_length (by omega)] at this
    refine ⟨x.length - p.length, by rw [List.length_map]; omega, ?_⟩
    rw [← List.map_drop]
    exact (List.prefix_or_prefix_of_prefix ⟨q, rfl⟩ (hdrop ▸ ⟨y, rfl⟩)).imp
      (fun h => h.map key) (fun h => h.map key)
  · right
    have hdrop : w.drop (p.length - x.length) ++ y = m ++ q := by
      have := congrArg (List.drop p.length) hm.symm
      rwa [List.append_assoc, List.append_assoc, List.drop_left, List.drop_append,
        List.drop_eq_nil_of_le (by omega), List.nil_append,
        List.drop_append_of_le_length (by omega)] at this
    refine ⟨p.length - x.length, by rw [List.length_map]; omega, ?_⟩
    rw [← List.map_drop]
    exact (List.prefix_or_prefix_of_prefix ⟨y, rfl⟩ (hdrop ▸ ⟨q, rfl⟩)).imp
      (fun h => h.map key) (fun h => h.map key)

/-! ## Replacing one word -/

section Replace

variable [DecidableEq κ] {key : τ → κ} {s : List κ} {r : List τ}

def replaceRule (key : τ → κ) (s : List κ) (r : List τ) (text : List τ) : Option (List τ × ℕ) :=
  if s <+: text.map key then some (r, s.length) else none

/-- Replace every match of the word `s` by `r`, from the left. -/
def replace (key : τ → κ) (s : List κ) (r text : List τ) : List τ :=
  substitute (replaceRule key s r) text

theorem replaceRule_eq_none_iff {text : List τ} :
    replaceRule key s r text = none ↔ ¬s <+: text.map key := by
  simp [replaceRule]

theorem replaceRule_eq_some {text r' : List τ} {n : ℕ}
    (h : replaceRule key s r text = some (r', n)) :
    s <+: text.map key ∧ r' = r ∧ n = s.length := by
  unfold replaceRule at h
  split at h
  · rename_i hmatch
    cases h
    exact ⟨hmatch, rfl, rfl⟩
  · cases h

theorem mem_replace {text : List τ} {e : τ} (he : e ∈ replace key s r text) : e ∈ r ∨ e ∈ text := by
  refine mem_substitute (P := (· ∈ r)) ?_ he
  intro text r' n h e' he'
  rcases replaceRule_eq_some h with ⟨-, rfl, -⟩
  exact Or.inl he'

/-- An occurrence that does not meet the inserted text was there before. -/
theorem infix_of_infix_replace {m text : List τ} (hmeets : ¬Meets (m.map key) (r.map key))
    (hm : m <:+: replace key s r text) : m <:+: text := by
  -- `z` is what the scan has already copied; a match starts afresh behind the inserted text
  have hall : ∀ z, m <:+: z ++ replace key s r text → m <:+: z ++ text := by
    refine substitute_induction (motive := fun text out => ∀ z, m <:+: z ++ out → m <:+: z ++ text)
      ?_ ?_ ?_ text
    · exact fun z h => h
    · intro c rest _ ih z h
      -- no match here: the value is copied
      have hnext := ih (z ++ [c]) (by simpa using h)
      simpa using hnext
    · intro c rest r' n hhit ih z h
      rcases replaceRule_eq_some hhit with ⟨-, rfl, -⟩
      rw [← List.append_assoc] at h
      rcases infix_of_not_meets hmeets h with hz | hrest
      · exact hz.trans (List.prefix_append z (c :: rest)).isInfix
      · have hlater : m <:+: rest.drop (n - 1) := ih [] hrest
        refine hlater.trans ?_
        exact ((List.drop_suffix _ _).trans ((List.suffix_cons c rest).trans
          (List.suffix_append z (c :: rest)))).isInfix
  exact hall [] hm

/-- None of the word is left that does not meet the inserted text. -/
theorem not_infix_replace {m text : List τ} (hm : m ≠ []) (hkey : m.map key = s)
    (hmeets : ¬Meets s (r.map key)) : ¬m <:+: replace key s r text := by
  -- no match starts in the part `z` that has been scanned
  have hall : ∀ z, (∀ a < z.length, ¬s <+: ((z ++ text).drop a).map key) →
      ¬m <:+: z ++ replace key s r text := by
    refine substitute_induction (motive := fun text out =>
      ∀ z, (∀ a < z.length, ¬s <+: ((z ++ text).drop a).map key) → ¬m <:+: z ++ out) ?_ ?_ ?_ text
    · rintro z hz ⟨p, q, hpq⟩
      have hlength := congrArg List.length hpq
      have hpos : 0 < m.length := List.length_pos_of_ne_nil hm
      simp only [List.length_append, List.append_nil] at hlength
      refine hz p.length (by omega) ?_
      rw [← hpq, List.append_assoc, List.drop_left, List.map_append, hkey]
      exact List.prefix_append s _
    · intro c rest hkeep ih z hz hmem
      refine ih (z ++ [c]) ?_ (by simpa using hmem)
      intro a ha
      rw [List.append_assoc, List.singleton_append]
      rw [List.length_append, List.length_singleton] at ha
      rcases Nat.lt_succ_iff_lt_or_eq.1 ha with hlt | rfl
      · exact hz a hlt
      · rw [List.drop_left]
        exact replaceRule_eq_none_iff.1 hkeep
    · intro c rest r' n hhit ih z hz hmem
      rcases replaceRule_eq_some hhit with ⟨-, rfl, -⟩
      rw [← List.append_assoc] at hmem
      rw [← hkey] at hmeets
      rcases infix_of_not_meets hmeets hmem with ⟨p, q, hpq⟩ | hrest
      · have hlength := congrArg List.length hpq
        have hpos : 0 < m.length := List.length_pos_of_ne_nil hm
        simp only [List.length_append] at hlength
        refine hz p.length (by omega) ?_
        rw [← hpq, List.append_assoc, List.append_assoc, List.drop_left, List.map_append, hkey]
        exact List.prefix_append s _
      · -- behind the inserted text nothing has been scanned yet
        exact ih [] (by simp) hrest
  exact hall [] (by simp)

theorem replace_cons_of_match {c : τ} {rest : List τ} (h : s <+: (c :: rest).map key) :
    replace key s r (c :: rest) = r ++ replace key s r (rest.drop (s.length - 1)) :=
  substitute_some (by rw [replaceRule, if_pos h])

theorem replace_cons_of_not_match {c : τ} {rest : List τ} (h : ¬s <+: (c :: rest).map key) :
    replace key s r (c :: rest) = c :: replace key s r rest :=
  substitute_none (replaceRule_eq_none_iff.2 h)

/-- A stretch in which no match starts is kept. -/
theorem replace_append_of_not_match {o y : List τ}
    (h : ∀ k < o.length, ¬s <+: (o.drop k ++ y).map key) :
    replace key s r (o ++ y) = o ++ replace key s r y := by
  induction o with
  | nil => rfl
  | cons c o ih =>
      have hfirst : ¬s <+: (c :: (o ++ y)).map key := h 0 (Nat.succ_pos _)
      rw [List.cons_append, replace_cons_of_not_match hfirst, ih, List.cons_append]
      intro k hk
      exact h (k + 1) (Nat.succ_lt_succ hk)

/-- Every match of `s` in `x ++ o ++ y` misses the stretch `o` or covers it. -/
def MissesOrCovers (key : τ → κ) (s : List κ) (x o y : List τ) : Prop :=
  ∀ p, p ≤ (x ++ o ++ y).length → s <+: ((x ++ o ++ y).drop p).map key →
    p + s.length ≤ x.length ∨ x.length + o.length ≤ p ∨
      (p ≤ x.length ∧ x.length + o.length ≤ p + s.length)

omit [DecidableEq κ] in
theorem MissesOrCovers.tail {n : ℕ} {x o y : List τ} (h : MissesOrCovers key s x o y)
    (hn : n ≤ x.length) : MissesOrCovers key s (x.drop n) o y := by
  intro p hp hmatch
  have hdrop : (x.drop n ++ o ++ y).drop p = (x ++ o ++ y).drop (n + p) := by
    rw [← List.drop_drop, List.append_assoc x, List.drop_append_of_le_length hn, List.append_assoc]
  rw [hdrop] at hmatch
  rw [List.length_append, List.length_append, List.length_drop] at hp
  have hcases := h (n + p) (by simp only [List.length_append]; omega) hmatch
  rw [List.length_drop]
  omega

/-- A match that covers the beginning of a text leaves nothing of it. -/
theorem mem_replace_of_covers {o y : List τ} (ho : o ≠ []) (hmatch : s <+: (o ++ y).map key)
    (hcovers : o.length ≤ s.length) {e : τ} (he : e ∈ replace key s r (o ++ y)) :
    e ∈ r ∨ e ∈ y := by
  rcases o with - | ⟨c, o⟩
  · exact absurd rfl ho
  rw [List.cons_append] at hmatch he
  rw [replace_cons_of_match hmatch] at he
  rcases List.mem_append.1 he with hr | hrest
  · exact Or.inl hr
  · refine (mem_replace hrest).imp_right fun hlater => ?_
    rw [List.length_cons] at hcovers
    rw [List.drop_append, List.drop_eq_nil_of_le (by omega), List.nil_append] at hlater
    exact List.mem_of_mem_drop hlater

/-- What every match misses or covers is still whole, or nothing of it is left. -/
theorem whole_or_gone {x o y : List τ} (ho : o ≠ []) (hs : s ≠ [])
    (h : MissesOrCovers key s x o y) :
    o <:+: replace key s r (x ++ o ++ y) ∨
      ∀ e ∈ replace key s r (x ++ o ++ y), e ∈ r ∨ e ∈ x ∨ e ∈ y := by
  have hopos : 0 < o.length := List.length_pos_of_ne_nil ho
  have hspos : 0 < s.length := List.length_pos_of_ne_nil hs
  induction hlength : x.length using Nat.strong_induction_on generalizing x with
  | h k ih =>
      by_cases hmatch : s <+: (x ++ o ++ y).map key
      · rcases h 0 (Nat.zero_le _) hmatch with hbefore | hafter | ⟨-, hcovers⟩
        · -- the match ends before the stretch
          rcases x with - | ⟨c, x⟩
          · simp only [List.length_nil] at hbefore
            omega
          rw [Nat.zero_add, List.length_cons] at hbefore
          have htail : (x ++ o ++ y).drop (s.length - 1) = x.drop (s.length - 1) ++ o ++ y := by
            rw [List.append_assoc, List.drop_append_of_le_length (by omega), List.append_assoc]
          have hrest : MissesOrCovers key s (x.drop (s.length - 1)) o y := by
            have hdrop := h.tail (n := s.length - 1 + 1) (by rw [List.length_cons]; omega)
            rwa [List.drop_succ_cons] at hdrop
          rw [List.cons_append, List.cons_append] at hmatch ⊢
          rw [replace_cons_of_match hmatch, htail]
          rcases ih _ (by rw [List.length_drop, ← hlength, List.length_cons]; omega) hrest rfl with
            hwhole | hgone
          · exact Or.inl (hwhole.trans (List.suffix_append r _).isInfix)
          · refine Or.inr fun e he => ?_
            rcases List.mem_append.1 he with hr | hlater
            · exact Or.inl hr
            · exact (hgone e hlater).imp_right fun hxy =>
                hxy.imp_left fun hx => List.mem_cons_of_mem c (List.mem_of_mem_drop hx)
        · omega
        · right
          intro e he
          exact (mem_replace_of_covers (by simp [ho]) hmatch
            (by rw [List.length_append]; omega) he).imp_right Or.inr
      · rcases x with - | ⟨c, x⟩
        · -- the stretch is next, and no match starts in it
          left
          rw [List.nil_append, replace_append_of_not_match]
          · exact (List.prefix_append o _).isInfix
          · intro i hi hstarts
            rcases Nat.eq_zero_or_pos i with rfl | hpos
            · exact hmatch hstarts
            · have hdrop : ([] ++ o ++ y).drop i = o.drop i ++ y := by
                rw [List.nil_append, List.drop_append_of_le_length hi.le]
              rw [← hdrop] at hstarts
              have hcases := h i (by simp only [List.length_append, List.length_nil]; omega) hstarts
              rw [List.length_nil] at hcases
              omega
        · rw [List.cons_append, List.cons_append] at hmatch ⊢
          rw [replace_cons_of_not_match hmatch]
          have hrest : MissesOrCovers key s x o y := h.tail (n := 1) (by simp)
          rcases ih _ (by rw [← hlength]; exact Nat.lt_succ_self _) hrest rfl with hwhole | hgone
          · exact Or.inl (hwhole.trans (List.suffix_cons c _).isInfix)
          · refine Or.inr fun e he => ?_
            rcases List.mem_cons.1 he with rfl | hlater
            · exact Or.inr (Or.inl List.mem_cons_self)
            · exact (hgone e hlater).imp_right fun hxy => hxy.imp_left (List.mem_cons_of_mem c)

end Replace

end Replacing
