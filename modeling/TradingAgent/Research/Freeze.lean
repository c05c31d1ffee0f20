import TradingAgent.Core.Market

/-!
# Freeze — the frozen records of research candidates

`research/freeze.py`: a directory holds one record for each candidate id.  `saveFrozenCandidate`
refuses to overwrite a record whose compared fingerprints differ, `validateFuturePaperTest` trusts
the stored freeze boundary.

* `saveAll` is any sequence of saves, each of which may raise;
* `frozen_record_immutable_iff` says when the record of a candidate never changes.
-/

namespace TradingAgent

structure FrozenCandidateRecord where
  candidateId : String
  family : String
  params : Payload
  frozenAtMs : ℤ
  freezeBoundaryMs : ℤ
  scorecardStatus : String
  scorecardReasons : List String
  candidateVersion : ℤ
  researchCutoffMs : ℤ
  strategyImplementationFingerprint : String
  executionSemanticsFingerprint : String
  candidateRegistryFingerprint : String
  configFingerprint : String
  exchangeFiltersFingerprint : String
  scorecardResultFingerprint : String
  symbol : String
  sourceCommitHash : Option String
  deriving DecidableEq, Repr

inductive FreezeError where
  | versionConflict (path candidateId : String)
  | forwardTestViolation (count : ℕ) (candidateId : String) (freezeBoundaryMs : ℤ)
  deriving DecidableEq, Repr

def FreezeError.message : FreezeError → String
  | .versionConflict path candidateId =>
      s!"a frozen candidate record already exists at {path} with DIFFERENT fingerprints " ++
        s!"than the one being saved for '{candidateId}'. A frozen record is never " ++
        "silently overwritten - use `new_candidate_version_migration_id` to mint a new " ++
        "candidate id/version, re-run the full evaluation under it, and freeze that instead."
  | .forwardTestViolation count candidateId freezeBoundaryMs =>
      s!"{count} candle(s) predate frozen candidate '{candidateId}'s freeze " ++
        s!"boundary ({freezeBoundaryMs}ms). Previously observed data can never become a " ++
        "new 'untouched' holdout for a frozen candidate - its next valid test requires candles " ++
        "that arrived strictly after the freeze."

/-- The directory of frozen records, by candidate id (the file is named after it). -/
abbrev FrozenDirectory := Dict String FrozenCandidateRecord

/-- `_fingerprints_match`. -/
def fingerprintsMatch (record other : FrozenCandidateRecord) : Bool :=
  record.strategyImplementationFingerprint = other.strategyImplementationFingerprint ∧
    record.executionSemanticsFingerprint = other.executionSemanticsFingerprint ∧
    record.candidateRegistryFingerprint = other.candidateRegistryFingerprint ∧
    record.configFingerprint = other.configFingerprint ∧
    record.exchangeFiltersFingerprint = other.exchangeFiltersFingerprint

def frozenPath (record : FrozenCandidateRecord) : String := s!"{record.candidateId}.json"

/-- Persist a record, and the directory after the call; a call that raises writes nothing. -/
def saveFrozenCandidate (record : FrozenCandidateRecord) (directory : FrozenDirectory) :
    Except FreezeError String × FrozenDirectory :=
  let conflict : Bool :=
    match directory.get? record.candidateId with
    | some existing => !fingerprintsMatch record existing
    | none => false
  if conflict = true then (.error (.versionConflict (frozenPath record) record.candidateId), directory)
  else (.ok (frozenPath record), directory.set record.candidateId record)

/-- Raise when a candle predates the record's freeze boundary. -/
def validateFuturePaperTest (record : FrozenCandidateRecord) (candles : List Candle) :
    Except FreezeError Unit :=
  let offending := candles.filter fun c => c.openTimeMs < record.freezeBoundaryMs
  if offending.isEmpty = false then
    .error (.forwardTestViolation offending.length record.candidateId record.freezeBoundaryMs)
  else .ok ()

/-- The directory after a sequence of saves. -/
def saveAll (directory : FrozenDirectory) (records : List FrozenCandidateRecord) :
    FrozenDirectory :=
  records.foldl (fun d record => (saveFrozenCandidate record d).2) directory

/-! ## One save -/

section Save

variable {record stored : FrozenCandidateRecord} {directory : FrozenDirectory}

/-- A save over a record whose compared fingerprints differ raises and writes nothing. -/
theorem save_conflict (hstored : directory.get? record.candidateId = some stored)
    (hmatch : fingerprintsMatch record stored = false) :
    saveFrozenCandidate record directory =
      (.error (.versionConflict (frozenPath record) record.candidateId), directory) := by
  simp [saveFrozenCandidate, hstored, hmatch]

/-- A save over a record with the same compared fingerprints overwrites it. -/
theorem save_overwrites (hstored : directory.get? record.candidateId = some stored)
    (hmatch : fingerprintsMatch record stored = true) :
    saveFrozenCandidate record directory =
      (.ok (frozenPath record), directory.set record.candidateId record) := by
  simp [saveFrozenCandidate, hstored, hmatch]

/-- A candle list is accepted exactly when no candle predates the boundary. -/
theorem validateFuturePaperTest_eq_ok_iff (record : FrozenCandidateRecord) (candles : List Candle) :
    validateFuturePaperTest record candles = .ok () ↔
      ∀ c ∈ candles, record.freezeBoundaryMs ≤ c.openTimeMs := by
  unfold validateFuturePaperTest
  constructor
  · intro h c hc
    by_contra hearly
    have hmem : c ∈ candles.filter fun c => c.openTimeMs < record.freezeBoundaryMs :=
      List.mem_filter.2 ⟨hc, by simpa using hearly⟩
    have hempty : (candles.filter fun c => c.openTimeMs < record.freezeBoundaryMs).isEmpty = false :=
      List.isEmpty_eq_false_iff_exists_mem.2 ⟨c, hmem⟩
    simp [hempty] at h
  · intro h
    have hnone : candles.filter (fun c => c.openTimeMs < record.freezeBoundaryMs) = [] := by
      refine List.filter_eq_nil_iff.2 ?_
      intro c hc
      simpa using h c hc
    simp [hnone]

end Save

/-! ## Immutability -/

/-- What a frozen record is trusted for. -/
structure FrozenVerdict where
  freezeBoundaryMs : ℤ
  candidateVersion : ℤ
  scorecardStatus : String
  scorecardReasons : List String
  scorecardResultFingerprint : String
  deriving DecidableEq, Repr

def FrozenCandidateRecord.verdict (record : FrozenCandidateRecord) : FrozenVerdict where
  freezeBoundaryMs := record.freezeBoundaryMs
  candidateVersion := record.candidateVersion
  scorecardStatus := record.scorecardStatus
  scorecardReasons := record.scorecardReasons
  scorecardResultFingerprint := record.scorecardResultFingerprint

/-- Every save of a sequence is as `P` says in the directory it is made in. -/
def EverySave (P : FrozenDirectory → FrozenCandidateRecord → Prop) :
    FrozenDirectory → List FrozenCandidateRecord → Prop
  | _, [] => True
  | directory, record :: rest =>
      P directory record ∧ EverySave P (saveFrozenCandidate record directory).2 rest

/-- After any number of the saves the stored record has the verdict of the first, and accepts no
candle list the first does not accept. -/
def VerdictKept (id : String) (first : FrozenCandidateRecord) (directory : FrozenDirectory)
    (records : List FrozenCandidateRecord) : Prop :=
  ∀ n, ∃ stored, (saveAll directory (records.take n)).get? id = some stored ∧
    stored.verdict = first.verdict ∧
      ∀ candles, validateFuturePaperTest stored candles = .ok () →
        validateFuturePaperTest first candles = .ok ()

/-- A record with another verdict raises the conflict and leaves the file as it was. -/
def ConflictRaised (id : String) (directory : FrozenDirectory) (record : FrozenCandidateRecord) :
    Prop :=
  ∀ stored, directory.get? id = some stored → record.verdict ≠ stored.verdict →
    saveFrozenCandidate record directory =
      (.error (.versionConflict (frozenPath record) record.candidateId), directory)

/-- A record whose compared fingerprints are those of the stored one has its verdict too. -/
def SaveAgrees (id : String) (directory : FrozenDirectory) (record : FrozenCandidateRecord) :
    Prop :=
  ∀ stored, directory.get? id = some stored → fingerprintsMatch record stored = true →
    record.verdict = stored.verdict

section Immutable

variable {id : String} {directory : FrozenDirectory} {records : List FrozenCandidateRecord}
variable {record stored first : FrozenCandidateRecord}

theorem conflictRaised_iff_saveAgrees (hid : record.candidateId = id) :
    ConflictRaised id directory record ↔ SaveAgrees id directory record := by
  subst hid
  constructor
  · intro h stored hstored hmatch
    by_contra hne
    have hraised := h stored hstored hne
    rw [save_overwrites hstored hmatch] at hraised
    cases congrArg Prod.fst hraised
  · intro h stored hstored hne
    cases hmatch : fingerprintsMatch record stored with
    | false => exact save_conflict hstored hmatch
    | true => exact absurd (h stored hstored hmatch) hne

/-- One save keeps the stored verdict where it agrees with it. -/
theorem verdict_save (hid : record.candidateId = id) (hstored : directory.get? id = some stored)
    (hagrees : SaveAgrees id directory record) :
    ∃ stored', (saveFrozenCandidate record directory).2.get? id = some stored' ∧
      stored'.verdict = stored.verdict := by
  subst hid
  cases hmatch : fingerprintsMatch record stored with
  | false =>
      rw [save_conflict hstored hmatch]
      exact ⟨stored, hstored, rfl⟩
  | true =>
      rw [save_overwrites hstored hmatch]
      exact ⟨record, by simp, hagrees stored hstored hmatch⟩

/-- Records with the same verdict accept the same candle lists. -/
theorem accepts_of_verdict (h : stored.verdict = first.verdict) (candles : List Candle)
    (hok : validateFuturePaperTest stored candles = .ok ()) :
    validateFuturePaperTest first candles = .ok () := by
  have hboundary : stored.freezeBoundaryMs = first.freezeBoundaryMs :=
    congrArg FrozenVerdict.freezeBoundaryMs h
  rw [validateFuturePaperTest_eq_ok_iff] at hok ⊢
  rwa [← hboundary]

theorem everySave_conflictRaised_iff (hid : ∀ record ∈ records, record.candidateId = id) :
    EverySave (ConflictRaised id) directory records ↔
      EverySave (SaveAgrees id) directory records := by
  induction records generalizing directory with
  | nil => exact Iff.rfl
  | cons record rest ih =>
      have hrest : EverySave (ConflictRaised id) (saveFrozenCandidate record directory).2 rest ↔
          EverySave (SaveAgrees id) (saveFrozenCandidate record directory).2 rest :=
        ih fun r hr => hid r (List.mem_cons_of_mem _ hr)
      exact and_congr (conflictRaised_iff_saveAgrees (hid record List.mem_cons_self)) hrest

/-- Saves that agree with what is stored keep its verdict. -/
theorem verdictKept_of_agree (hstored : directory.get? id = some stored)
    (hverdict : stored.verdict = first.verdict)
    (hid : ∀ record ∈ records, record.candidateId = id)
    (hagree : EverySave (SaveAgrees id) directory records) :
    VerdictKept id first directory records := by
  induction records generalizing directory stored with
  | nil =>
      intro n
      exact ⟨stored, by simpa [saveAll] using hstored, hverdict, accepts_of_verdict hverdict⟩
  | cons record rest ih =>
      intro n
      cases n with
      | zero => exact ⟨stored, hstored, hverdict, accepts_of_verdict hverdict⟩
      | succ n =>
          rcases verdict_save (hid record List.mem_cons_self) hstored hagree.1 with
            ⟨stored', hstored', hsame⟩
          exact ih hstored' (hsame.trans hverdict)
            (fun r hr => hid r (List.mem_cons_of_mem _ hr)) hagree.2 n

/-- Over any sequence of saves for one candidate id: the stored verdict never changes and the
accepted candle lists never grow, and every save with another verdict raises, if and only if every
save that the compared fingerprints let through agrees with the stored verdict. -/
theorem frozen_record_immutable_iff (hfirst : directory.get? id = some first)
    (hid : ∀ record ∈ records, record.candidateId = id) :
    VerdictKept id first directory records ∧ EverySave (ConflictRaised id) directory records ↔
      EverySave (SaveAgrees id) directory records := by
  constructor
  · intro h
    exact (everySave_conflictRaised_iff hid).1 h.2
  · intro h
    exact ⟨verdictKept_of_agree hfirst rfl hid h, (everySave_conflictRaised_iff hid).2 h⟩

end Immutable

/-! ## A record frozen twice -/

namespace Refrozen

/-- A survivor frozen with its boundary at the given time, by the given strategy source. -/
def record (freezeBoundaryMs : ℤ) (strategyFingerprint : String) : FrozenCandidateRecord where
  candidateId := "multitimeframe_E1"
  family := "multitimeframe_breakout_round3"
  params := []
  frozenAtMs := freezeBoundaryMs
  freezeBoundaryMs := freezeBoundaryMs
  scorecardStatus := "RESEARCH_SURVIVOR"
  scorecardReasons := []
  candidateVersion := 1
  researchCutoffMs := 1747353600000
  strategyImplementationFingerprint := strategyFingerprint
  executionSemanticsFingerprint := "execution"
  candidateRegistryFingerprint := "registry"
  configFingerprint := "config"
  exchangeFiltersFingerprint := "filters"
  scorecardResultFingerprint := "scorecard"
  symbol := "BTCUSDT"
  sourceCommitHash := none

def directory : FrozenDirectory := [("multitimeframe_E1", record 2000 "v1")]

def candle : Candle := ⟨"BTCUSDT", "1h", 1000, 1999, 1, 1, 1, 1, 1⟩

end Refrozen

/-- A second freeze of the same candidate moves the stored boundary back, and a candle the first
record refuses is accepted. -/
theorem frozen_boundary_moves_back :
    (saveAll Refrozen.directory [Refrozen.record 1000 "v1"]).get? "multitimeframe_E1" =
        some (Refrozen.record 1000 "v1") ∧
      validateFuturePaperTest (Refrozen.record 1000 "v1") [Refrozen.candle] = .ok () ∧
      ¬VerdictKept "multitimeframe_E1" (Refrozen.record 2000 "v1") Refrozen.directory
        [Refrozen.record 1000 "v1"] := by
  have hstored : (saveAll Refrozen.directory [Refrozen.record 1000 "v1"]).get?
      "multitimeframe_E1" = some (Refrozen.record 1000 "v1") := by decide +kernel
  refine ⟨hstored, ?_, ?_⟩
  · rw [validateFuturePaperTest_eq_ok_iff]
    decide
  · intro hkept
    rcases hkept 1 with ⟨stored, hfound, hverdict, -⟩
    have hsame : stored = Refrozen.record 1000 "v1" := Option.some.inj (hfound.symm.trans hstored)
    rw [hsame] at hverdict
    exact absurd hverdict (by decide)

/-- A record saved again and one of another implementation: the first is kept, the second raises. -/
theorem frozen_record_immutable_resaved :
    VerdictKept "multitimeframe_E1" (Refrozen.record 2000 "v1") Refrozen.directory
        [Refrozen.record 2000 "v1", Refrozen.record 1000 "v2"] ∧
      EverySave (ConflictRaised "multitimeframe_E1") Refrozen.directory
        [Refrozen.record 2000 "v1", Refrozen.record 1000 "v2"] := by
  have hsaved : (saveFrozenCandidate (Refrozen.record 2000 "v1") Refrozen.directory).2 =
      Refrozen.directory := by decide +kernel
  have hstored : ∀ stored, Refrozen.directory.get? "multitimeframe_E1" = some stored →
      stored = Refrozen.record 2000 "v1" := by
    intro stored h
    exact (Option.some.inj h).symm
  refine (frozen_record_immutable_iff (by decide) ?_).2 ⟨?_, ?_, trivial⟩
  · intro record hrecord
    rcases List.mem_cons.1 hrecord with rfl | hrecord
    · rfl
    · rw [List.mem_singleton.1 hrecord]
      rfl
  · intro stored h _
    rw [hstored stored h]
  · intro stored h hmatch
    rw [hsaved] at h
    rw [hstored stored h] at hmatch
    exact absurd hmatch (by decide)

end TradingAgent
