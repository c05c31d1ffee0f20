import TradingAgent.Data.GapDetection
import TradingAgent.Strategy.MultiTimeframeBreakout
import Mathlib.Tactic.Linarith
import Mathlib.Tactic.Ring

/-!
# No repaint — later hours change no earlier bucket and no earlier setup

The multi-timeframe breakout recomputes its buckets and setups on every call.  On hour-aligned
candles, whatever their gaps, the calls agree.

* `aggregateCompletedBuckets_append`: more hours add later buckets only;
* `setups_not_repainted`: on an initial part of the candles the buckets and setups are those that
  have closed in it.
-/

namespace TradingAgent

open CausalSeries

/-! ## Buckets -/

/-- Every candle opens on a full hour. -/
def HourAligned (candles : List Candle) : Prop :=
  ∀ c ∈ candles, hourMs ∣ c.openTimeMs

/-- The starts of the buckets: every time lies in the bucket it is assigned to, and so does every
other time of that bucket. -/
structure BucketGrid (hoursPerBucket : ℕ) (bucketStart : ℤ → ℤ) : Prop where
  lt_end : ∀ t, t < bucketStart t + hoursPerBucket * hourMs
  start_eq : ∀ t u, bucketStart t ≤ u → u < bucketStart t + hoursPerBucket * hourMs →
    bucketStart u = bucketStart t

theorem fourHGrid : BucketGrid fourHHours fourHBucketStartMs := by
  have hwidth : (fourHHours : ℤ) * hourMs = 14400000 := rfl
  have hms : fourHMs = 14400000 := rfl
  constructor
  case lt_end =>
      intro t
      rw [fourHBucketStartMs, hwidth, hms]
      omega
  case start_eq =>
      intro t u hle hlt
      simp only [fourHBucketStartMs, hwidth, hms] at *
      omega

theorem weeklyGrid : BucketGrid weekHours weeklyBucketStartMs := by
  have hwidth : (weekHours : ℤ) * hourMs = 604800000 := rfl
  have hms : weekMs = 604800000 := rfl
  constructor
  case lt_end =>
      intro t
      simp only [weeklyBucketStartMs, hwidth, hms]
      omega
  case start_eq =>
      intro t u hle hlt
      simp only [weeklyBucketStartMs, hwidth, hms] at *
      omega

section Buckets

variable {hoursPerBucket : ℕ} {bucketStart : ℤ → ℤ}

theorem completedBuckets_append (i : ℕ) (groups groups' : List (List Candle)) :
    completedBuckets hoursPerBucket bucketStart i (groups ++ groups') =
      completedBuckets hoursPerBucket bucketStart i groups ++
        completedBuckets hoursPerBucket bucketStart (i + groups.flatten.length) groups' := by
  induction groups generalizing i with
  | nil => simp [completedBuckets]
  | cons group groups ih =>
      cases group with
      | nil => simpa [completedBuckets] using ih i
      | cons first rest =>
          have hindex : i + ((first :: rest) :: groups).flatten.length =
              i + (rest.length + 1) + groups.flatten.length := by
            simp only [List.flatten_cons, List.length_append, List.length_cons]
            omega
          simp only [List.cons_append, completedBuckets, ih, hindex]
          split
          · rfl
          · rfl

theorem le_lastHourIndex {bucket : CompletedBucket} {i : ℕ} {groups : List (List Candle)}
    (h : bucket ∈ completedBuckets hoursPerBucket bucketStart i groups) :
    i ≤ bucket.lastHourIndex := by
  induction groups generalizing i with
  | nil => cases h
  | cons group groups ih =>
      cases group with
      | nil => exact ih h
      | cons first rest =>
          simp only [completedBuckets] at h
          split at h
          · rcases List.mem_cons.1 h with rfl | hlater
            · exact Nat.le_add_right i rest.length
            · have hle := ih hlater
              omega
          · have hle := ih h
            omega

/-- The only bucket of a group is its last hour's. -/
theorem lastHourIndex_of_mem_singleton {bucket : CompletedBucket} {i : ℕ} {group : List Candle}
    (h : bucket ∈ completedBuckets hoursPerBucket bucketStart i [group]) :
    bucket.lastHourIndex + 1 = i + group.length := by
  cases group with
  | nil => cases h
  | cons first rest =>
      simp only [completedBuckets] at h
      split at h
      · rw [List.mem_singleton.1 h, List.length_cons]
        exact Nat.add_assoc i rest.length 1
      · cases h

/-- The last of hourly candles opens so many hours after the first. -/
theorem openTime_last_of_hourly {first : Candle} {rest : List Candle}
    (h : (first :: rest).IsChain fun a b => b.openTimeMs - a.openTimeMs = hourMs) :
    ((first :: rest).getLast (List.cons_ne_nil first rest)).openTimeMs =
      first.openTimeMs + rest.length * hourMs := by
  induction rest generalizing first with
  | nil => simp
  | cons second rest ih =>
      rcases List.isChain_cons_cons.1 h with ⟨hstep, hrest⟩
      rw [List.getLast_cons (List.cons_ne_nil second rest), ih hrest]
      push_cast [List.length_cons]
      linarith

/-- A group that goes on is not yet a whole bucket. -/
theorem isComplete_eq_false (grid : BucketGrid hoursPerBucket bucketStart) {p x : List Candle}
    {c : Candle} (hordered : Ordered (p ++ c :: x)) (haligned : HourAligned (p ++ c :: x))
    (hsame : (p ++ c :: x).IsChain fun a b => bucketStart a.openTimeMs = bucketStart b.openTimeMs) :
    isComplete hoursPerBucket bucketStart p = false := by
  by_contra hcomplete
  simp only [isComplete, Bool.not_eq_false, Bool.and_eq_true, decide_eq_true_eq] at hcomplete
  rcases hcomplete with ⟨⟨hlength, hgrid⟩, hhourly⟩
  cases p with
  | nil => simp at hgrid
  | cons first rest =>
      simp only [List.head?_cons, Option.any_some, decide_eq_true_eq] at hgrid
      generalize hlastEq : (first :: rest).getLast (List.cons_ne_nil first rest) = last
      have hlastMem : last ∈ (first :: rest).getLast? := by
        rw [List.getLast?_eq_some_getLast (List.cons_ne_nil first rest), hlastEq]
        rfl
      have hlastOpen := openTime_last_of_hourly hhourly
      rw [hlastEq] at hlastOpen
      have hhour : (0 : ℤ) < hourMs := by decide
      have hcount : (hoursPerBucket : ℤ) = rest.length + 1 := by
        rw [← hlength]
        exact Nat.cast_succ rest.length
      have hspan : (hoursPerBucket : ℤ) * hourMs = rest.length * hourMs + hourMs := by
        rw [hcount]
        ring
      have hpos : (0 : ℤ) ≤ rest.length * hourMs := mul_nonneg (Int.natCast_nonneg _) hhour.le
      -- the last hour of the group and the next candle are in the bucket of the first
      have hlastStart : bucketStart last.openTimeMs = first.openTimeMs := by
        rw [grid.start_eq first.openTimeMs last.openTimeMs]
        · exact hgrid.symm
        · rw [← hgrid, hlastOpen]
          linarith
        · rw [← hgrid, hlastOpen, hspan]
          linarith
      have hnextStart : bucketStart c.openTimeMs = first.openTimeMs := by
        have hboundary := (List.isChain_append.1 hsame).2.2 last hlastMem c (by simp)
        rw [← hboundary, hlastStart]
      have hbefore : c.openTimeMs < last.openTimeMs + hourMs := by
        have hend := grid.lt_end c.openTimeMs
        rw [hnextStart, hspan] at hend
        linarith
      -- but the next full hour after the last one is out of it
      have hafter : last.openTimeMs < c.openTimeMs :=
        (List.pairwise_append.1 hordered).2.2 last (List.mem_of_getLast? hlastMem) c (by simp)
      have hdivides : hourMs ∣ c.openTimeMs - last.openTimeMs := by
        refine Int.dvd_sub (haligned c (by simp)) (haligned last ?_)
        exact List.mem_append_left _ (List.mem_of_getLast? hlastMem)
      have hstep := Int.le_of_dvd (by linarith) hdivides
      linarith

/-- More hours add later buckets only. -/
theorem aggregateCompletedBuckets_append (grid : BucketGrid hoursPerBucket bucketStart)
    {candles later : List Candle} (hordered : Ordered (candles ++ later))
    (haligned : HourAligned (candles ++ later)) :
    ∃ more, aggregateCompletedBuckets (candles ++ later) hoursPerBucket bucketStart =
        aggregateCompletedBuckets candles hoursPerBucket bucketStart ++ more ∧
      ∀ bucket ∈ more, candles.length ≤ bucket.lastHourIndex := by
  unfold aggregateCompletedBuckets
  generalize hr : (fun a b : Candle =>
    decide (bucketStart a.openTimeMs = bucketStart b.openTimeMs)) = r
  rcases List.eq_nil_or_concat (candles.splitBy r) with hnil | ⟨init, p, hgroups⟩
  · have hcandles : candles = [] := List.splitBy_eq_nil.1 hnil
    subst hcandles
    refine ⟨completedBuckets hoursPerBucket bucketStart 0 (later.splitBy r), ?_,
      fun bucket _ => Nat.zero_le _⟩
    simp [completedBuckets]
  rw [List.concat_eq_append] at hgroups
  rcases Groups.splitBy_append_eq hgroups later with ⟨x, rest, hrest⟩
  have hflat : init.flatten ++ p = candles := by
    have h := List.flatten_splitBy r candles
    rw [hgroups] at h
    simpa using h
  have hflat' : init.flatten ++ ((p ++ x) ++ rest.flatten) = candles ++ later := by
    have h := List.flatten_splitBy r (candles ++ later)
    rw [hrest] at h
    simpa using h
  have hlength : candles.length = init.flatten.length + p.length := by
    rw [← hflat, List.length_append]
  rw [hgroups, hrest, completedBuckets_append, completedBuckets_append, Nat.zero_add,
    ← List.singleton_append, completedBuckets_append]
  have hrestLater : ∀ bucket ∈ completedBuckets hoursPerBucket bucketStart
      (init.flatten.length + [p ++ x].flatten.length) rest,
        candles.length ≤ bucket.lastHourIndex := by
    intro bucket hbucket
    have hle := le_lastHourIndex hbucket
    simp only [List.flatten_cons, List.flatten_nil, List.append_nil, List.length_append] at hle
    omega
  cases x with
  | nil => exact ⟨_, by rw [List.append_nil, List.append_assoc], hrestLater⟩
  | cons c x =>
      -- the last group goes on, so it had no bucket before
      have hpart : (p ++ c :: x) <:+: candles ++ later :=
        ⟨init.flatten, rest.flatten, by rw [← hflat', List.append_assoc]⟩
      have hchain : (p ++ c :: x).IsChain fun a b =>
          bucketStart a.openTimeMs = bucketStart b.openTimeMs := by
        have hmem : p ++ c :: x ∈ (candles ++ later).splitBy r := by
          rw [hrest]
          simp
        refine (List.isChain_of_mem_splitBy hmem).imp ?_
        intro a b hab
        rw [← hr] at hab
        simpa using hab
      have hnone := isComplete_eq_false grid (hordered.sublist hpart.sublist)
        (fun d hd => haligned d (hpart.subset hd)) hchain
      have hempty : completedBuckets hoursPerBucket bucketStart init.flatten.length [p] = [] := by
        cases p with
        | nil => rfl
        | cons first rest => simp [completedBuckets, hnone]
      refine ⟨completedBuckets hoursPerBucket bucketStart init.flatten.length [p ++ c :: x] ++
        completedBuckets hoursPerBucket bucketStart
          (init.flatten.length + [p ++ c :: x].flatten.length) rest, ?_, ?_⟩
      · rw [hempty, List.append_nil]
      intro bucket hbucket
      rcases List.mem_append.1 hbucket with hlast | hlater
      · have heq := lastHourIndex_of_mem_singleton hlast
        rw [List.length_append, List.length_cons] at heq
        omega
      · exact hrestLater bucket hlater

/-- The buckets of an initial part are those whose last hour lies in it. -/
theorem aggregateCompletedBuckets_initial (grid : BucketGrid hoursPerBucket bucketStart)
    {candles seen : List Candle} (hordered : Ordered candles) (haligned : HourAligned candles)
    (hseen : seen <+: candles) : aggregateCompletedBuckets seen hoursPerBucket bucketStart =
      (aggregateCompletedBuckets candles hoursPerBucket bucketStart).filter
        fun bucket => bucket.lastHourIndex < seen.length := by
  rcases hseen with ⟨later, rfl⟩
  rcases aggregateCompletedBuckets_append grid hordered haligned with ⟨more, heq, hmore⟩
  have hkept : ∀ bucket ∈ aggregateCompletedBuckets seen hoursPerBucket bucketStart,
      decide (bucket.lastHourIndex < seen.length) = true := by
    intro bucket hbucket
    rcases mem_aggregateCompletedBuckets hbucket with ⟨i, hspans⟩
    simpa using hspans.visible
  have hdropped : ∀ bucket ∈ more, ¬decide (bucket.lastHourIndex < seen.length) = true := by
    intro bucket hbucket
    simpa using hmore bucket hbucket
  rw [heq, List.filter_append, List.filter_eq_self.2 hkept, List.filter_eq_nil_iff.2 hdropped,
    List.append_nil]

end Buckets

/-! ## Setups -/

/-- A setup as the first `n` candles show it: a later confirmation is not known yet. -/
def SetupEvent.seenBy (e : SetupEvent) (n : ℕ) : SetupEvent :=
  { e with confirmationIndex := e.confirmationIndex.filter fun h => h < n }

section Setups

variable {indicators : CausalIndicators} {candles seen : List Candle}

/-- The setup that closes with the `i`-th of these buckets. -/
def setupOf (indicators : CausalIndicators) (candles : List Candle)
    (buckets : List CompletedBucket) (i : ℕ) : Option SetupEvent :=
  setupEventAt candles buckets
    (indicators.ema ((buckets.map CompletedBucket.candle).map Candle.close) fourHEmaRegimePeriod)
    (indicators.atr (buckets.map CompletedBucket.candle) fourHAtrPeriod)
    (indicators.rollingMax ((buckets.map CompletedBucket.candle).map Candle.high)
      fourHChannelPeriod) i

theorem scanSetupEvents_eq (indicators : CausalIndicators) (candles : List Candle)
    {buckets : List CompletedBucket}
    (hbuckets : aggregateCompletedBuckets candles fourHHours fourHBucketStartMs = buckets) :
    scanSetupEvents indicators candles =
      (List.range' minFourHIdx (buckets.length - minFourHIdx)).filterMap
        (setupOf indicators candles buckets) := by
  unfold scanSetupEvents
  rw [hbuckets]
  by_cases hshort : buckets.length ≤ minFourHIdx
  · simp [hshort, Nat.sub_eq_zero_of_le hshort]
  · simp only [hshort, if_false]
    rfl

theorem setupOf_eq_some {buckets : List CompletedBucket} {i : ℕ} {e : SetupEvent}
    (h : setupOf indicators candles buckets i = some e) :
    ∃ bucket, buckets[i]? = some bucket ∧ ∃ level, e = setupEvent candles level bucket := by
  unfold setupOf setupEventAt at h
  split at h
  · rename_i bucket donchianHighI atrI emaCurr emaPrior hbucket _ _ _ _
    split at h
    · cases h
    · split at h
      · cases h
      · exact ⟨bucket, hbucket, donchianHighI, (Option.some.inj h).symm⟩
  · cases h

/-- Later buckets do not change what is read at an earlier one. -/
theorem setupOf_append {buckets : List CompletedBucket} {i : ℕ} (hi : i < buckets.length)
    (more : List CompletedBucket) :
    setupOf indicators candles (buckets ++ more) i = setupOf indicators candles buckets i := by
  have hlength : ∀ f : CompletedBucket → ℚ, i < (buckets.map f).length := by
    intro f
    rwa [List.length_map]
  unfold setupOf setupEventAt
  simp only [List.map_append]
  rw [List.getElem?_append_left hi,
    (indicators.rollingMaxCausal _).getElem?_append (by simp; omega),
    (indicators.atrCausal _).getElem?_append (by simpa using hi),
    (indicators.emaCausal _).getElem?_append (by simpa using hi),
    (indicators.emaCausal _).getElem?_append (by simp; omega)]

/-- The confirmation the first candles show is that of all candles, once they reach it. -/
theorem confirmationIndex_initial (hseen : seen <+: candles) (level : ℚ) {start : ℕ}
    (hstart : 0 < start) (stop : ℕ) : confirmationIndex seen level start stop =
      (confirmationIndex candles level start stop).filter fun h => h < seen.length := by
  rcases hseen with ⟨later, rfl⟩
  apply Option.ext
  intro h
  rw [Option.filter_eq_some_iff]
  unfold confirmationIndex
  simp only [List.find?_range'_eq_some, List.mem_range'_1, List.length_append, decide_eq_true_eq]
  have hread : ∀ j < seen.length, (seen ++ later)[j]? = seen[j]? := fun j hj =>
    List.getElem?_append_left hj
  constructor
  · rintro ⟨hconfirms, hrange, hfirst⟩
    have hlt : h < seen.length := by omega
    refine ⟨⟨?_, by omega, ?_⟩, hlt⟩
    · rw [hread h hlt]
      exact hconfirms
    · intro j hj hjh
      rw [hread j (by omega)]
      exact hfirst j hj hjh
  · rintro ⟨⟨hconfirms, hrange, hfirst⟩, hlt⟩
    refine ⟨?_, by omega, ?_⟩
    · rw [← hread h hlt]
      exact hconfirms
    · intro j hj hjh
      rw [← hread j (by omega)]
      exact hfirst j hj hjh

theorem setupEvent_initial (hseen : seen <+: candles) (level : ℚ) (bucket : CompletedBucket) :
    setupEvent seen level bucket = (setupEvent candles level bucket).seenBy seen.length := by
  unfold setupEvent SetupEvent.seenBy
  rw [confirmationIndex_initial hseen level (Nat.succ_pos _)]

theorem setupOf_initial (hseen : seen <+: candles) (buckets : List CompletedBucket) (i : ℕ) :
    setupOf indicators seen buckets i =
      (setupOf indicators candles buckets i).map fun e => e.seenBy seen.length := by
  unfold setupOf setupEventAt
  split
  · split
    · rfl
    · split
      · rfl
      · rw [Option.map_some, setupEvent_initial hseen]
  · rfl

/-- The setups of an initial part are those that have closed in it, as it shows them. -/
theorem scanSetupEvents_initial (hordered : Ordered candles) (haligned : HourAligned candles)
    (hseen : seen <+: candles) : scanSetupEvents indicators seen =
      ((scanSetupEvents indicators candles).filter
        fun e => e.setupHourIndex < seen.length).map fun e => e.seenBy seen.length := by
  have hinitial := hseen
  rcases hseen with ⟨later, rfl⟩
  rcases aggregateCompletedBuckets_append fourHGrid hordered haligned with ⟨more, heq, hmore⟩
  generalize hbuckets : aggregateCompletedBuckets seen fourHHours fourHBucketStartMs = buckets at heq
  have hclosed : ∀ bucket ∈ buckets, bucket.lastHourIndex < seen.length := by
    intro bucket hbucket
    rw [← hbuckets] at hbucket
    rcases mem_aggregateCompletedBuckets hbucket with ⟨i, hspans⟩
    exact hspans.visible
  -- what closes with a later bucket is not seen
  have hunseen : ∀ i, buckets.length ≤ i → ∀ e,
      setupOf indicators (seen ++ later) (buckets ++ more) i = some e →
        ¬decide (e.setupHourIndex < seen.length) = true := by
    intro i hi e he
    rcases setupOf_eq_some he with ⟨bucket, hbucket, level, rfl⟩
    rw [List.getElem?_append_right hi] at hbucket
    have hle := hmore bucket (List.mem_of_getElem? hbucket)
    change ¬decide (bucket.lastHourIndex < seen.length) = true
    simpa using hle
  rw [scanSetupEvents_eq indicators seen hbuckets,
    scanSetupEvents_eq indicators (seen ++ later) heq]
  by_cases hshort : buckets.length < minFourHIdx
  · have hnone : ((List.range' minFourHIdx ((buckets ++ more).length - minFourHIdx)).filterMap
        (setupOf indicators (seen ++ later) (buckets ++ more))).filter
          (fun e => e.setupHourIndex < seen.length) = [] := by
      refine List.filter_eq_nil_iff.2 ?_
      intro e he
      rcases List.mem_filterMap.1 he with ⟨i, hi, hsome⟩
      rw [List.mem_range'_1] at hi
      exact hunseen i (by omega) e hsome
    rw [hnone, Nat.sub_eq_zero_of_le hshort.le]
    rfl
  · have hsplit : List.range' minFourHIdx ((buckets ++ more).length - minFourHIdx) =
        List.range' minFourHIdx (buckets.length - minFourHIdx) ++
          List.range' buckets.length more.length := by
      have hstart : minFourHIdx + (buckets.length - minFourHIdx) = buckets.length := by omega
      have hcount : (buckets ++ more).length - minFourHIdx =
          buckets.length - minFourHIdx + more.length := by
        rw [List.length_append]
        omega
      rw [hcount, ← List.range'_append_1, hstart]
    have hkept : ∀ e ∈ (List.range' minFourHIdx (buckets.length - minFourHIdx)).filterMap
        (setupOf indicators (seen ++ later) (buckets ++ more)),
          decide (e.setupHourIndex < seen.length) = true := by
      intro e he
      rcases List.mem_filterMap.1 he with ⟨i, hi, hsome⟩
      rw [List.mem_range'_1] at hi
      have hlt : i < buckets.length := by omega
      rcases setupOf_eq_some hsome with ⟨bucket, hbucket, level, rfl⟩
      rw [List.getElem?_append_left hlt] at hbucket
      have hvisible := hclosed bucket (List.mem_of_getElem? hbucket)
      exact decide_eq_true hvisible
    have hdropped : ∀ e ∈ (List.range' buckets.length more.length).filterMap
        (setupOf indicators (seen ++ later) (buckets ++ more)),
          ¬decide (e.setupHourIndex < seen.length) = true := by
      intro e he
      rcases List.mem_filterMap.1 he with ⟨i, hi, hsome⟩
      rw [List.mem_range'_1] at hi
      exact hunseen i hi.1 e hsome
    rw [hsplit, List.filterMap_append, List.filter_append, List.filter_eq_self.2 hkept,
      List.filter_eq_nil_iff.2 hdropped, List.append_nil, List.map_filterMap]
    refine List.filterMap_congr ?_
    intro i hi
    rw [List.mem_range'_1] at hi
    rw [setupOf_initial hinitial, setupOf_append (by omega)]

end Setups

/-- On hour-aligned candles, whatever their gaps, every initial part has exactly the buckets and the
setups that have closed in it, with the same levels and windows; and it knows a confirmation exactly
when it reaches it. -/
theorem setups_not_repainted (indicators : CausalIndicators) {candles seen : List Candle}
    (hordered : Ordered candles) (haligned : HourAligned candles) (hseen : seen <+: candles) :
    (aggregateCompletedBuckets seen fourHHours fourHBucketStartMs =
      (aggregateCompletedBuckets candles fourHHours fourHBucketStartMs).filter
        fun bucket => bucket.lastHourIndex < seen.length) ∧
    (aggregateCompletedBuckets seen weekHours weeklyBucketStartMs =
      (aggregateCompletedBuckets candles weekHours weeklyBucketStartMs).filter
        fun bucket => bucket.lastHourIndex < seen.length) ∧
    scanSetupEvents indicators seen =
      ((scanSetupEvents indicators candles).filter
        fun e => e.setupHourIndex < seen.length).map fun e => e.seenBy seen.length :=
  ⟨aggregateCompletedBuckets_initial fourHGrid hordered haligned hseen,
    aggregateCompletedBuckets_initial weeklyGrid hordered haligned hseen,
    scanSetupEvents_initial hordered haligned hseen⟩

/-- Hours from a Monday on, without the sixth. -/
def Scenario.gappedHours : List Candle :=
  ((List.range 12).eraseIdx 5).map (hourCandle (-epochMondayOffsetMs))

/-- The first five of the hours show the one bucket of four that has closed. -/
theorem setups_not_repainted_gapped :
    aggregateCompletedBuckets (Scenario.gappedHours.take 5) fourHHours fourHBucketStartMs =
        (aggregateCompletedBuckets Scenario.gappedHours fourHHours fourHBucketStartMs).filter
          (fun bucket => bucket.lastHourIndex < 5) ∧
      (aggregateCompletedBuckets Scenario.gappedHours fourHHours fourHBucketStartMs).map
        CompletedBucket.lastHourIndex = [3, 10] := by
  constructor
  · have haligned : HourAligned Scenario.gappedHours := by
      unfold HourAligned
      decide
    have hfirst : Scenario.gappedHours.take 5 <+: Scenario.gappedHours :=
      List.take_prefix 5 Scenario.gappedHours
    exact (setups_not_repainted documentedIndicators (by decide) haligned hfirst).1
  · decide +kernel

end TradingAgent
