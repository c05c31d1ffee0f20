import Mathlib.Algebra.Order.Group.Defs
import Mathlib.Data.List.Infix
import Mathlib.Tactic.Common

/-!
# Underwater — the longest time a series stays below an earlier high

A scan of a timed series keeps its running high and the time of the latest value at it.  Once a
value falls below, the time at that high is where the series went under water; the first value that
is back at the high ends the period, and so does the end of the series.

* `Drought` is a period under water, up to any of its points;
* `longest_isLongest`: over times in order the scan finds a longest one.
-/

namespace Underwater

variable {τ α : Type*}

section Scan

variable [AddCommGroup τ] [LinearOrder τ]

/-- The running high, where the series went under water if it is, and the longest period so far. -/
structure Scan (τ α : Type*) where
  peak : α
  peakTime : τ
  start : Option τ
  duration : τ
  best : Option (τ × τ)

/-- The period under water, if there is one, ends at `time`; it counts where it is longer. -/
def Scan.record (scan : Scan τ α) (time : τ) : Scan τ α :=
  match scan.start with
  | none => scan
  | some start =>
      if scan.duration < time - start then
        { scan with duration := time - start, best := some (start, time) }
      else scan

/-- What recording does: nothing, or the period that ends at `time` is the longest so far. -/
theorem Scan.record_cases (scan : Scan τ α) (time : τ) :
    (scan.record time = scan ∧ ∀ s, scan.start = some s → time - s ≤ scan.duration) ∨
      ∃ s, scan.start = some s ∧ scan.duration < time - s ∧
        scan.record time = { scan with duration := time - s, best := some (s, time) } := by
  unfold Scan.record
  cases hstart : scan.start with
  | none => exact Or.inl ⟨rfl, by simp⟩
  | some s =>
      by_cases hlt : scan.duration < time - s
      · exact Or.inr ⟨s, rfl, hlt, by simp [hlt]⟩
      · refine Or.inl ⟨by simp [hlt], ?_⟩
        intro s' hs'
        cases hs'
        exact not_lt.1 hlt

theorem Scan.le_record (scan : Scan τ α) (time : τ) :
    scan.duration ≤ (scan.record time).duration ∧
      ∀ s, scan.start = some s → time - s ≤ (scan.record time).duration := by
  rcases scan.record_cases time with ⟨heq, hle⟩ | ⟨s, hs, hlt, heq⟩
  · rw [heq]
    exact ⟨le_rfl, hle⟩
  · rw [heq]
    refine ⟨hlt.le, ?_⟩
    intro s' hs'
    cases hs.symm.trans hs'
    exact le_rfl

/-- The duration kept is that of the period kept. -/
def Scan.Sized (scan : Scan τ α) : Prop :=
  scan.duration = (scan.best.map fun period => period.2 - period.1).getD 0

theorem Scan.Sized.record {scan : Scan τ α} (h : scan.Sized) (time : τ) :
    (scan.record time).Sized := by
  rcases scan.record_cases time with ⟨heq, -⟩ | ⟨s, -, -, heq⟩
  · rw [heq]
    exact h
  · rw [heq]
    rfl

variable [LinearOrder α]

def Scan.observe (scan : Scan τ α) (point : τ × α) : Scan τ α :=
  if scan.peak ≤ point.2 then
    { scan.record point.1 with peak := point.2, peakTime := point.1, start := none }
  else { scan with start := some (scan.start.getD scan.peakTime) }

/-- A scan that starts at a high. -/
def Scan.initial (point : τ × α) : Scan τ α :=
  ⟨point.2, point.1, none, 0, none⟩

@[simp] theorem Scan.observe_initial (point : τ × α) :
    (Scan.initial point).observe point = Scan.initial point := by
  unfold Scan.observe
  rw [if_pos (show (Scan.initial point).peak ≤ point.2 from le_refl point.2)]
  rfl

/-- The scan of a whole series that starts with `first`, its last period ended with it. -/
def scanAll (first : τ × α) (rest : List (τ × α)) : Scan τ α :=
  (rest.foldl Scan.observe (Scan.initial first)).record
    ((first :: rest).getLast (List.cons_ne_nil first rest)).1

theorem Scan.Sized.observe {scan : Scan τ α} (h : scan.Sized) (point : τ × α) :
    (scan.observe point).Sized := by
  unfold Scan.observe
  by_cases hpeak : scan.peak ≤ point.2
  · rw [if_pos hpeak]
    exact h.record point.1
  · rw [if_neg hpeak]
    exact h

theorem Scan.Sized.foldl {scan : Scan τ α} (h : scan.Sized) (points : List (τ × α)) :
    (points.foldl Scan.observe scan).Sized := by
  induction points generalizing scan with
  | nil => exact h
  | cons point rest ih => exact ih (h.observe point)

theorem sized_scanAll (first : τ × α) (rest : List (τ × α)) : (scanAll first rest).Sized :=
  (Scan.Sized.foldl (show (Scan.initial first).Sized from rfl) rest).record _

/-- Where the longest period under water starts and ends. -/
def longest : List (τ × α) → Option (τ × τ)
  | [] => none
  | first :: rest => (scanAll first rest).best

end Scan

/-! ## What is found -/

/-- The value at index `i` is a high, and the series is below it from the next index on, up to `j`;
the value at `j` itself may be the first back at the high. -/
structure DroughtAt [LT α] [LE α] (series : List (τ × α)) (i j : ℕ) (p q : τ × α) : Prop where
  lt : i < j
  starts : series[i]? = some p
  stops : series[j]? = some q
  high : ∀ k r, k ≤ i → series[k]? = some r → r.2 ≤ p.2
  below : ∀ k r, i < k → k < j → series[k]? = some r → r.2 < p.2
  falls : j = i + 1 → q.2 < p.2

/-- A period under water, from one time to another. -/
def Drought [LT α] [LE α] (series : List (τ × α)) (start stop : τ) : Prop :=
  ∃ i j p q, DroughtAt series i j p q ∧ p.1 = start ∧ q.1 = stop

section Periods

variable [LinearOrder α] {seen : List (τ × α)} {i j : ℕ} {p q x : τ × α}

/-- The periods of a series are those of its beginning, and those that its last value ends. -/
theorem DroughtAt.of_concat (h : DroughtAt (seen ++ [x]) i j p q) :
    DroughtAt seen i j p q ∨ (j = seen.length ∧ q = x ∧ i < seen.length ∧ seen[i]? = some p) := by
  have hj : j < seen.length + 1 := by
    simpa using (List.getElem?_eq_some_iff.1 h.stops).1
  have hi : i < seen.length := by
    have hlt := h.lt
    omega
  have hold : ∀ k, k < seen.length → (seen ++ [x])[k]? = seen[k]? := fun k hk =>
    List.getElem?_append_left hk
  rcases Nat.lt_succ_iff_lt_or_eq.1 hj with hlt | rfl
  · left
    constructor
    case lt => exact h.lt
    case starts => rw [← hold i hi, h.starts]
    case stops => rw [← hold j hlt, h.stops]
    case high =>
        intro k r hk hr
        exact h.high k r hk (by rw [hold k (by omega), hr])
    case below =>
        intro k r hik hkj hr
        exact h.below k r hik hkj (by rw [hold k (by omega), hr])
    case falls => exact h.falls
  · right
    have hstops := h.stops
    rw [List.getElem?_concat_length] at hstops
    exact ⟨rfl, (Option.some.inj hstops).symm, hi, by rw [← hold i hi, h.starts]⟩

theorem DroughtAt.concat (h : DroughtAt seen i j p q) (x : τ × α) :
    DroughtAt (seen ++ [x]) i j p q := by
  have hj := (List.getElem?_eq_some_iff.1 h.stops).1
  have hold : ∀ k, k < seen.length → (seen ++ [x])[k]? = seen[k]? := fun k hk =>
    List.getElem?_append_left hk
  have hlt := h.lt
  constructor
  case lt => exact hlt
  case starts => rw [hold i (by omega), h.starts]
  case stops => rw [hold j hj, h.stops]
  case high =>
      intro k r hk hr
      exact h.high k r hk (by rw [← hold k (by omega), hr])
  case below =>
      intro k r hik hkj hr
      exact h.below k r hik hkj (by rw [← hold k (by omega), hr])
  case falls => exact h.falls

theorem Drought.concat {start stop : τ} (h : Drought seen start stop) (x : τ × α) :
    Drought (seen ++ [x]) start stop := by
  rcases h with ⟨i, j, p, q, hd, hs, he⟩
  exact ⟨i, j, p, q, hd.concat x, hs, he⟩

end Periods

section Correct

variable [AddCommGroup τ] [LinearOrder τ] [LinearOrder α] {seen : List (τ × α)}
  {scan : Scan τ α} {c i j : ℕ} {p q x : τ × α}

/-- A period as the scan reports it: none longer, and none at all if none lasts. -/
def IsLongest (series : List (τ × α)) : Option (τ × τ) → Prop
  | none => ∀ s e, Drought series s e → e - s ≤ 0
  | some (start, stop) => Drought series start stop ∧ 0 < stop - start ∧
      ∀ s e, Drought series s e → e - s ≤ stop - start

/-- The period found is one of the series, and `duration` is how long it lasts. -/
def Found (series : List (τ × α)) (duration : τ) : Option (τ × τ) → Prop
  | none => duration = 0
  | some (start, stop) => Drought series start stop ∧ duration = stop - start ∧ 0 < stop - start

theorem Found.mono {series series' : List (τ × α)} {duration : τ} {best : Option (τ × τ)}
    (h : Found series duration best)
    (hgrow : ∀ s e, Drought series s e → Drought series' s e) : Found series' duration best := by
  match best, h with
  | none, h => exact h
  | some (s, e), h => exact ⟨hgrow s e h.1, h.2⟩

theorem Found.nonneg {series : List (τ × α)} {duration : τ} {best : Option (τ × τ)}
    (h : Found series duration best) : 0 ≤ duration := by
  match best, h with
  | none, h => exact (show duration = 0 from h).ge
  | some (s, e), h => exact h.2.1 ▸ h.2.2.le

/-- What a scan knows of the points seen, the latest of them at the running high at index `c`: every
period is counted already, or it is the one the series is in. -/
structure Watches (seen : List (τ × α)) (c : ℕ) (scan : Scan τ α) : Prop where
  peak : seen[c]? = some (scan.peakTime, scan.peak)
  high : ∀ r ∈ seen, r.2 ≤ scan.peak
  below : ∀ k r, c < k → seen[k]? = some r → r.2 < scan.peak
  start : scan.start = if c + 1 = seen.length then none else some scan.peakTime
  found : Found seen scan.duration scan.best
  covered : ∀ s e, Drought seen s e →
    e - s ≤ scan.duration ∨ (scan.start = some s ∧ ∃ r ∈ seen, r.1 = e)

theorem Watches.initial (point : τ × α) : Watches [point] 0 (Scan.initial point) where
  peak := rfl
  high := by simp [Scan.initial]
  below := by
    intro k r hk hr
    rw [List.getElem?_eq_none (by rw [List.length_singleton]; omega)] at hr
    cases hr
  start := rfl
  found := rfl
  covered := by
    rintro s e ⟨i, j, p, q, h, -⟩
    have hj := (List.getElem?_eq_some_iff.1 h.stops).1
    have hlt := h.lt
    simp at hj
    omega

/-- A period that the newest value ends began at the running high. -/
theorem Watches.start_of_last (h : Watches seen c scan)
    (hd : DroughtAt (seen ++ [x]) i seen.length p q) (hi : seen[i]? = some p) : i = c := by
  have hc := (List.getElem?_eq_some_iff.1 h.peak).1
  rcases Nat.lt_trichotomy i c with hlt | heq | hgt
  · -- the high lies inside the period
    have hinside := hd.below c _ hlt hc (by rw [List.getElem?_append_left hc, h.peak])
    have hhigh := h.high p (List.mem_of_getElem? hi)
    exact absurd hinside (not_lt.2 hhigh)
  · exact heq
  · have hlater := h.below i p hgt hi
    have hhigh := hd.high c _ hgt.le (by rw [List.getElem?_append_left hc, h.peak])
    exact absurd hlater (not_lt.2 hhigh)

/-- Once the period that goes on is recorded, at a time no earlier than those seen, none of the
series is longer. -/
theorem Watches.record [IsOrderedAddMonoid τ] (h : Watches seen c scan) {time : τ}
    (htime : ∀ r ∈ seen, r.1 ≤ time) :
    ∀ s e, Drought seen s e → e - s ≤ (scan.record time).duration := by
  intro s e hd
  rcases scan.le_record time with ⟨hgrow, hcurrent⟩
  rcases h.covered s e hd with hcounted | ⟨hstart, r, hr, rfl⟩
  · exact hcounted.trans hgrow
  · exact (sub_le_sub_right (htime r hr) s).trans (hcurrent s hstart)

/-- The period under water ends with the newest value. -/
theorem Watches.drought_last (h : Watches seen c scan) {s : τ} (hs : scan.start = some s)
    (x : τ × α) : Drought (seen ++ [x]) s x.1 := by
  have hc := (List.getElem?_eq_some_iff.1 h.peak).1
  have hstart := h.start
  rw [hs] at hstart
  split at hstart
  · cases hstart
  rename_i hnotLast
  refine ⟨c, seen.length, (scan.peakTime, scan.peak), x, ⟨hc, ?_, ?_, ?_, ?_, ?_⟩,
    (Option.some.inj hstart).symm, rfl⟩
  · rw [List.getElem?_append_left hc, h.peak]
  · exact List.getElem?_concat_length
  · intro k r hk hr
    rw [List.getElem?_append_left (by omega)] at hr
    exact h.high r (List.mem_of_getElem? hr)
  · intro k r hck hk hr
    rw [List.getElem?_append_left hk] at hr
    exact h.below k r hck hr
  · intro heq
    exact absurd heq.symm hnotLast

/-- Recording keeps what is found a period, if the one recorded is. -/
theorem Watches.record_found (h : Watches seen c scan) {series : List (τ × α)} {time : τ}
    (hgrow : ∀ s e, Drought seen s e → Drought series s e)
    (hends : ∀ s, scan.start = some s → Drought series s time) :
    Found series (scan.record time).duration (scan.record time).best := by
  rcases scan.record_cases time with ⟨heq, -⟩ | ⟨s, hs, hlt, heq⟩
  · rw [heq]
    exact h.found.mono hgrow
  · rw [heq]
    exact ⟨hends s hs, rfl, h.found.nonneg.trans_lt hlt⟩

/-- One more point, no earlier than those before. -/
theorem Watches.observe [IsOrderedAddMonoid τ] (h : Watches seen c scan) (x : τ × α)
    (htime : ∀ r ∈ seen, r.1 ≤ x.1) : ∃ c', Watches (seen ++ [x]) c' (scan.observe x) := by
  have hgrow : ∀ s e, Drought seen s e → Drought (seen ++ [x]) s e := fun s e hd => hd.concat x
  have hc := (List.getElem?_eq_some_iff.1 h.peak).1
  by_cases hpeak : scan.peak ≤ x.2
  · -- a new high, or back at the old one
    refine ⟨seen.length, ?_⟩
    have hscan : scan.observe x =
        { scan.record x.1 with peak := x.2, peakTime := x.1, start := none } := if_pos hpeak
    rw [hscan]
    constructor
    case peak => exact List.getElem?_concat_length
    case high =>
        intro r hr
        rcases List.mem_append.1 hr with hold | hnew
        · exact (h.high r hold).trans hpeak
        · rw [List.mem_singleton.1 hnew]
    case below =>
        intro k r hk hr
        have hlt := (List.getElem?_eq_some_iff.1 hr).1
        rw [List.length_append, List.length_singleton] at hlt
        omega
    case start => simp
    case found =>
        exact h.record_found hgrow fun s hs => h.drought_last hs x
    case covered =>
        rintro s e ⟨i, j, p, q, hd, rfl, rfl⟩
        left
        rcases hd.of_concat with hold | ⟨rfl, hx, -, hi⟩
        · exact h.record htime _ _ ⟨i, j, p, q, hold, rfl, rfl⟩
        · -- the period this value ends is the one recorded
          cases h.start_of_last hd hi
          rw [h.peak] at hi
          cases Option.some.inj hi
          have hlater : c + 1 ≠ seen.length := by
            intro hlast
            have hfalls := hd.falls hlast.symm
            rw [hx] at hfalls
            exact absurd hfalls (not_lt.2 hpeak)
          have hstart := h.start
          rw [if_neg hlater] at hstart
          rw [hx]
          exact (scan.le_record x.1).2 _ hstart
  · -- the series stays below its high
    refine ⟨c, ?_⟩
    have hlt := not_le.1 hpeak
    have hstarts : scan.start.getD scan.peakTime = scan.peakTime := by
      rw [h.start]
      split <;> rfl
    have hscan : scan.observe x = { scan with start := some scan.peakTime } := by
      unfold Scan.observe
      rw [if_neg hpeak, hstarts]
    rw [hscan]
    constructor
    case peak => exact (List.getElem?_append_left hc).trans h.peak
    case high =>
        intro r hr
        rcases List.mem_append.1 hr with hold | hnew
        · exact h.high r hold
        · rw [List.mem_singleton.1 hnew]
          exact hlt.le
    case below =>
        intro k r hk hr
        rcases List.mem_append.1 (List.mem_of_getElem? hr) with hold | hnew
        · have hklt := (List.getElem?_eq_some_iff.1 hr).1
          rw [List.length_append, List.length_singleton] at hklt
          rcases Nat.lt_succ_iff_lt_or_eq.1 hklt with hin | rfl
          · rw [List.getElem?_append_left hin] at hr
            exact h.below k r hk hr
          · rw [List.getElem?_concat_length] at hr
            rw [← Option.some.inj hr]
            exact hlt
        · rw [List.mem_singleton.1 hnew]
          exact hlt
    case start =>
        have hlength : c + 1 ≠ (seen ++ [x]).length := by
          rw [List.length_append, List.length_singleton]
          omega
        rw [if_neg hlength]
    case found => exact h.found.mono hgrow
    case covered =>
        rintro s e ⟨i, j, p, q, hd, rfl, rfl⟩
        rcases hd.of_concat with hold | ⟨rfl, rfl, -, hi⟩
        · rcases h.covered _ _ ⟨i, j, p, q, hold, rfl, rfl⟩ with hcounted | ⟨hs, r, hr, he⟩
          · exact Or.inl hcounted
          · right
            have hs' := h.start
            rw [hs] at hs'
            split at hs'
            · cases hs'
            · exact ⟨hs'.symm, r, List.mem_append_left _ hr, he⟩
        · cases h.start_of_last hd hi
          rw [h.peak] at hi
          cases Option.some.inj hi
          exact Or.inr ⟨rfl, q, by simp, rfl⟩

theorem watches_foldl [IsOrderedAddMonoid τ] (h : Watches seen c scan) (rest : List (τ × α))
    (hsorted : (seen ++ rest).Pairwise fun a b => a.1 ≤ b.1) :
    ∃ c', Watches (seen ++ rest) c' (rest.foldl Scan.observe scan) := by
  induction rest generalizing seen c scan with
  | nil => exact ⟨c, by simpa using h⟩
  | cons x rest ih =>
      have hbefore : ∀ r ∈ seen, r.1 ≤ x.1 := fun r hr =>
        (List.pairwise_append.1 hsorted).2.2 r hr x (by simp)
      rcases h.observe x hbefore with ⟨c', hnext⟩
      rw [List.append_cons] at hsorted ⊢
      rw [List.foldl_cons]
      exact ih hnext hsorted

/-- Over times in order the scan finds a longest period under water. -/
theorem longest_isLongest [IsOrderedAddMonoid τ] (series : List (τ × α))
    (hsorted : series.Pairwise fun a b => a.1 ≤ b.1) : IsLongest series (longest series) := by
  cases series with
  | nil =>
      rintro s e ⟨i, j, p, q, hd, -⟩
      have hstarts := hd.starts
      rw [List.getElem?_nil] at hstarts
      cases hstarts
  | cons first rest =>
      rcases watches_foldl (Watches.initial first) rest hsorted with ⟨c, hwatches⟩
      generalize hscan : rest.foldl Scan.observe (Scan.initial first) = scan at hwatches
      generalize hlast : ((first :: rest).getLast (by simp)).1 = time
      have htimes : ∀ r ∈ first :: rest, r.1 ≤ time := by
        intro r hr
        rcases List.mem_iff_getElem.1 hr with ⟨k, hk, rfl⟩
        rw [← hlast, List.getLast_eq_getElem]
        rcases Nat.eq_or_lt_of_le (Nat.le_sub_one_of_lt hk) with heq | hlt
        · simp only [heq]
          exact le_rfl
        · exact List.pairwise_iff_getElem.1 hsorted k _ hk (by simp) hlt
      have hends : ∀ s, scan.start = some s → Drought (first :: rest) s time := by
        intro s hs
        have hc := (List.getElem?_eq_some_iff.1 hwatches.peak).1
        have hstart := hwatches.start
        rw [hs] at hstart
        split at hstart
        · cases hstart
        rename_i hnotLast
        have hlength : [first] ++ rest = first :: rest := rfl
        rw [hlength] at hc hnotLast
        refine ⟨c, (first :: rest).length - 1, _, (first :: rest).getLast (by simp),
          ⟨by omega, hwatches.peak, ?_, ?_, ?_, ?_⟩, (Option.some.inj hstart).symm, hlast⟩
        · rw [← List.getLast?_eq_getElem?, List.getLast?_eq_some_getLast]
        · intro k r _ hr
          exact hwatches.high r (List.mem_of_getElem? hr)
        · intro k r hck _ hr
          exact hwatches.below k r hck hr
        · intro hnext
          refine hwatches.below ((first :: rest).length - 1) _ (by omega) ?_
          exact (List.getLast?_eq_getElem? ..).symm.trans (List.getLast?_eq_some_getLast _)
      have hfound := hwatches.record_found (fun _ _ hd => hd) hends
      have hcovered := hwatches.record htimes
      have hbest : longest (first :: rest) = (scan.record time).best := by
        rw [longest, scanAll, hscan, hlast]
      rw [hbest]
      match (scan.record time).best, hfound with
      | none, hnone => exact fun s e hd => (hcovered s e hd).trans hnone.le
      | some (start, stop), ⟨hdrought, hduration, hpos⟩ =>
          exact ⟨hdrought, hpos, fun s e hd => (hcovered s e hd).trans hduration.le⟩

end Correct

end Underwater
