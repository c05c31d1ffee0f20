import Mathlib.Data.List.Basic
import TradingAgent.Data.RecoveryApply

/-!
# Checkpoint — the recorded results as JSON

The JSON encoders and decoders of `data/gap_recovery.py`, and the dictionary
`GapAuditCheckpoint` keeps their values in.

* the records here carry every field the file holds, their prices decimals of any kind;
* `gapResultFromJson_gapResultToJson` reads back what was written, `gapCheckpointKey_injective` keeps
  the entries of different gaps apart;
* `Represents` ties the entries to the dictionary of results the audits are modelled over, and
  `checkpoint_round_trip` is the result about the file.
-/

namespace TradingAgent

/-! ## JSON values -/

/-- The values the checkpoint file is made of. -/
inductive JsonValue where
  | null
  | int (n : ℤ)
  | str (s : String)
  | arr (values : List JsonValue)
  | obj (fields : List (String × JsonValue))

/-- What a decoder raises. -/
inductive DecodeError where
  | keyError
  | valueError
  | typeError
  /-- `decimal.InvalidOperation`, which is none of the others. -/
  | invalidOperation
  deriving DecidableEq, Repr

/-- `str` and `Decimal` on the decimals `D`; `none` stands for `decimal.InvalidOperation`. -/
structure DecimalFormat (D : Type) where
  str : D → String
  ofStr : String → Option D

/-- A decimal is read back from its text. -/
def DecimalFormat.Exact {D : Type} (format : DecimalFormat D) : Prop :=
  ∀ d, format.ofStr (format.str d) = some d

namespace JsonValue

/-- `d[key]`. -/
def field (d : JsonValue) (key : String) : Except DecodeError JsonValue :=
  match d with
  | .obj fields =>
      match Dict.get? fields key with
      | some value => .ok value
      | none => .error .keyError
  | _ => .error .typeError

/-- An integer field. The decoders take a value of any type as it is; one of another type, which the
encoders never write, is a `TypeError` here, and so it is in a text field. -/
def asInt : JsonValue → Except DecodeError ℤ
  | .int n => .ok n
  | _ => .error .typeError

def asStr : JsonValue → Except DecodeError String
  | .str s => .ok s
  | _ => .error .typeError

/-- `Decimal(value)`. -/
def asDecimal {D : Type} (format : DecimalFormat D) : JsonValue → Except DecodeError D
  | .str s => (format.ofStr s).elim (.error .invalidOperation) .ok
  | .int n => (format.ofStr (toString n)).elim (.error .invalidOperation) .ok
  | _ => .error .typeError

/-- `decode(value) if value is not None else None`. -/
def asOptional {α : Type} (decode : JsonValue → Except DecodeError α) :
    JsonValue → Except DecodeError (Option α)
  | .null => .ok none
  | value => do
      let a ← decode value
      .ok (some a)

def asList {α : Type} (decode : JsonValue → Except DecodeError α) :
    JsonValue → Except DecodeError (List α)
  | .arr values => values.mapM decode
  | _ => .error .typeError

end JsonValue

/-! ## Records -/

/-- A candle with its prices as the file keeps them. -/
structure DecimalCandle (D : Type) where
  symbol : String
  interval : String
  openTimeMs : ℤ
  closeTimeMs : ℤ
  «open» : D
  high : D
  low : D
  close : D
  volume : D

structure RecoveredCandleProvenance where
  source : String
  retrievedAtMs : ℤ
  componentCount : ℤ
  firstComponentOpenTimeMs : ℤ
  lastComponentOpenTimeMs : ℤ
  validationResult : String
  contentHash : String
  deriving DecidableEq, Repr

/-- `MissingHourOutcome` with all of its fields. -/
structure MissingHourRecord (D : Type) where
  openTimeMs : ℤ
  outcome : RecoveryOutcome
  found1mCandleCount : ℤ
  detail : String
  reconstructedCandle : Option (DecimalCandle D) := none
  provenance : Option RecoveredCandleProvenance := none

/-- `GapForensicResult` with all of its fields. -/
structure GapForensicRecord (D : Type) where
  gap : GapRecord
  missingHours : List (MissingHourRecord D)

/-! ## Encoders and decoders -/

def RecoveryOutcome.value : RecoveryOutcome → String
  | .fullyRecoverable => "fully_recoverable"
  | .partiallyRecoverable => "partially_recoverable"
  | .genuineNoData => "genuine_no_data_exchange_outage"
  | .unresolved => "unresolved"

/-- The members of the enumeration. -/
def RecoveryOutcome.members : List RecoveryOutcome :=
  [.fullyRecoverable, .partiallyRecoverable, .genuineNoData, .unresolved]

/-- `RecoveryOutcome(value)`. -/
def RecoveryOutcome.ofValue : JsonValue → Except DecodeError RecoveryOutcome
  | .str s => (members.find? fun outcome => outcome.value = s).elim (.error .valueError) .ok
  | _ => .error .valueError

section Codec

variable {D : Type} (format : DecimalFormat D)

def candleToJson (c : DecimalCandle D) : JsonValue :=
  .obj [("symbol", .str c.symbol), ("interval", .str c.interval),
    ("open_time_ms", .int c.openTimeMs), ("close_time_ms", .int c.closeTimeMs), ("open", .str (format.str c.open)),
    ("high", .str (format.str c.high)), ("low", .str (format.str c.low)),
    ("close", .str (format.str c.close)), ("volume", .str (format.str c.volume))]

def candleFromJson (d : JsonValue) : Except DecodeError (DecimalCandle D) := do
  let symbol ← (← d.field "symbol").asStr
  let interval ← (← d.field "interval").asStr
  let openTimeMs ← (← d.field "open_time_ms").asInt
  let closeTimeMs ← (← d.field "close_time_ms").asInt
  let «open» ← (← d.field "open").asDecimal format
  let high ← (← d.field "high").asDecimal format
  let low ← (← d.field "low").asDecimal format
  let close ← (← d.field "close").asDecimal format
  let volume ← (← d.field "volume").asDecimal format
  .ok ⟨symbol, interval, openTimeMs, closeTimeMs, «open», high, low, close, volume⟩

def provenanceToJson (p : RecoveredCandleProvenance) : JsonValue :=
  .obj [("source", .str p.source), ("retrieved_at_ms", .int p.retrievedAtMs),
    ("component_count", .int p.componentCount),
    ("first_component_open_time_ms", .int p.firstComponentOpenTimeMs),
    ("last_component_open_time_ms", .int p.lastComponentOpenTimeMs),
    ("validation_result", .str p.validationResult), ("content_hash", .str p.contentHash)]

/-- The keywords `RecoveredCandleProvenance` takes. -/
def provenanceKeys : List String :=
  ["source", "retrieved_at_ms", "component_count", "first_component_open_time_ms",
    "last_component_open_time_ms", "validation_result", "content_hash"]

/-- `RecoveredCandleProvenance(**d)`: a missing or an unexpected keyword is a `TypeError`. -/
def provenanceFromJson (d : JsonValue) : Except DecodeError RecoveredCandleProvenance :=
  match d with
  | .obj fields =>
      if (∀ key ∈ provenanceKeys, Dict.contains fields key = true) ∧
          ∀ p ∈ fields, p.1 ∈ provenanceKeys then do
        let source ← (← d.field "source").asStr
        let retrievedAtMs ← (← d.field "retrieved_at_ms").asInt
        let componentCount ← (← d.field "component_count").asInt
        let firstComponentOpenTimeMs ← (← d.field "first_component_open_time_ms").asInt
        let lastComponentOpenTimeMs ← (← d.field "last_component_open_time_ms").asInt
        let validationResult ← (← d.field "validation_result").asStr
        let contentHash ← (← d.field "content_hash").asStr
        .ok ⟨source, retrievedAtMs, componentCount, firstComponentOpenTimeMs,
          lastComponentOpenTimeMs, validationResult, contentHash⟩
      else .error .typeError
  | _ => .error .typeError

def missingHourToJson (m : MissingHourRecord D) : JsonValue :=
  .obj [("open_time_ms", .int m.openTimeMs), ("outcome", .str m.outcome.value),
    ("found_1m_candle_count", .int m.found1mCandleCount), ("detail", .str m.detail),
    ("reconstructed_candle", m.reconstructedCandle.elim .null (candleToJson format)),
    ("provenance", m.provenance.elim .null provenanceToJson)]

def missingHourFromJson (d : JsonValue) : Except DecodeError (MissingHourRecord D) := do
  let openTimeMs ← (← d.field "open_time_ms").asInt
  let outcome ← RecoveryOutcome.ofValue (← d.field "outcome")
  let found1mCandleCount ← (← d.field "found_1m_candle_count").asInt
  let detail ← (← d.field "detail").asStr
  let reconstructedCandle ← (← d.field "reconstructed_candle").asOptional (candleFromJson format)
  let provenance ← (← d.field "provenance").asOptional provenanceFromJson
  .ok ⟨openTimeMs, outcome, found1mCandleCount, detail, reconstructedCandle, provenance⟩

def gapResultToJson (gr : GapForensicRecord D) : JsonValue :=
  .obj [("gap", .obj [("expected_open_time_ms", .int gr.gap.expectedOpenTimeMs),
      ("previous_open_time_ms", .int gr.gap.previousOpenTimeMs),
      ("next_open_time_ms", .int gr.gap.nextOpenTimeMs),
      ("missing_intervals", .int gr.gap.missingIntervals)]),
    ("missing_hours", .arr (gr.missingHours.map (missingHourToJson format)))]

def gapResultFromJson (d : JsonValue) : Except DecodeError (GapForensicRecord D) := do
  let g ← d.field "gap"
  let expectedOpenTimeMs ← (← g.field "expected_open_time_ms").asInt
  let previousOpenTimeMs ← (← g.field "previous_open_time_ms").asInt
  let nextOpenTimeMs ← (← g.field "next_open_time_ms").asInt
  let missingIntervals ← (← g.field "missing_intervals").asInt
  let missingHours ← (← d.field "missing_hours").asList (missingHourFromJson format)
  .ok ⟨⟨expectedOpenTimeMs, previousOpenTimeMs, nextOpenTimeMs, missingIntervals⟩, missingHours⟩

/-! ## Reading back -/

variable {format}

theorem candleFromJson_candleToJson (h : format.Exact) (c : DecimalCandle D) :
    candleFromJson format (candleToJson format c) = .ok c := by
  have hread : ∀ d, (JsonValue.str (format.str d)).asDecimal format = .ok d := by
    intro d
    simp [JsonValue.asDecimal, h d]
  simp [candleFromJson, candleToJson, JsonValue.field, Dict.get?, JsonValue.asStr, JsonValue.asInt,
    hread, bind, Except.bind]

theorem provenanceFromJson_provenanceToJson (p : RecoveredCandleProvenance) :
    provenanceFromJson (provenanceToJson p) = .ok p := by
  simp [provenanceFromJson, provenanceToJson, provenanceKeys, Dict.contains, JsonValue.field,
    Dict.get?, JsonValue.asStr, JsonValue.asInt, bind, Except.bind]

theorem RecoveryOutcome.ofValue_value (outcome : RecoveryOutcome) :
    RecoveryOutcome.ofValue (.str outcome.value) = .ok outcome := by
  cases outcome <;> rfl

/-- An optional part is read back when what it holds is, and is never written as `null`. -/
theorem JsonValue.asOptional_elim {α : Type} {encode : α → JsonValue}
    {decode : JsonValue → Except DecodeError α}
    (hread : ∀ a, decode (encode a) = .ok a) (hnull : ∀ a, encode a ≠ .null) (part : Option α) :
    (part.elim .null encode).asOptional decode = .ok part := by
  cases part with
  | none => rfl
  | some a =>
      have ha := hread a
      have hne := hnull a
      simp only [Option.elim_some]
      cases hencoded : encode a with
      | null => exact absurd hencoded hne
      | int n => simp [asOptional, ← hencoded, ha, bind, Except.bind]
      | str s => simp [asOptional, ← hencoded, ha, bind, Except.bind]
      | arr values => simp [asOptional, ← hencoded, ha, bind, Except.bind]
      | obj fields => simp [asOptional, ← hencoded, ha, bind, Except.bind]

/-- A list is read back when each of its elements is. -/
theorem JsonValue.asList_map {α : Type} {encode : α → JsonValue}
    {decode : JsonValue → Except DecodeError α}
    (hread : ∀ a, decode (encode a) = .ok a) (xs : List α) :
    (JsonValue.arr (xs.map encode)).asList decode = .ok xs := by
  induction xs with
  | nil => rfl
  | cons x xs ih =>
      simp only [asList, List.map_cons, List.mapM_cons] at ih ⊢
      rw [hread, ih]
      rfl

theorem missingHourFromJson_missingHourToJson (h : format.Exact) (m : MissingHourRecord D) :
    missingHourFromJson format (missingHourToJson format m) = .ok m := by
  have hcandle := JsonValue.asOptional_elim (candleFromJson_candleToJson h) (by simp [candleToJson])
    m.reconstructedCandle
  have hprovenance := JsonValue.asOptional_elim provenanceFromJson_provenanceToJson
    (by simp [provenanceToJson]) m.provenance
  simp [missingHourFromJson, missingHourToJson, JsonValue.field, Dict.get?, JsonValue.asStr,
    JsonValue.asInt, RecoveryOutcome.ofValue_value, hcandle, hprovenance, bind, Except.bind]

theorem gapResultFromJson_gapResultToJson (h : format.Exact) (gr : GapForensicRecord D) :
    gapResultFromJson format (gapResultToJson format gr) = .ok gr := by
  have hhours := JsonValue.asList_map (missingHourFromJson_missingHourToJson h) gr.missingHours
  simp [gapResultFromJson, gapResultToJson, JsonValue.field, Dict.get?, JsonValue.asInt, hhours, bind,
    Except.bind]

end Codec

/-! ## Keys -/

def gapCheckpointKey (gap : GapRecord) : String :=
  s!"{gap.expectedOpenTimeMs}:{gap.previousOpenTimeMs}:{gap.nextOpenTimeMs}:{gap.missingIntervals}"

section Keys

theorem natRepr_injective : Function.Injective Nat.repr := by
  intro a b h
  have hdigits : Nat.toDigits 10 a = Nat.toDigits 10 b := by
    rw [← Nat.toList_repr, ← Nat.toList_repr, h]
  calc a = Nat.ofDigitChars 10 (Nat.toDigits 10 a) 0 := Nat.ofDigitChars_ten_toDigits.symm
    _ = Nat.ofDigitChars 10 (Nat.toDigits 10 b) 0 := by rw [hdigits]
    _ = b := Nat.ofDigitChars_ten_toDigits

/-- A character that is no digit is not in the text of a natural number. -/
theorem notMem_natRepr {c : Char} (hc : c.isDigit = false) (m : ℕ) : c ∉ m.repr.toList := by
  intro hmem
  rw [Nat.toList_repr] at hmem
  have hdigit := Nat.isDigit_of_mem_toDigits (by decide) le_rfl hmem
  rw [hc] at hdigit
  cases hdigit

theorem toList_toString_negSucc (m : ℕ) :
    (toString (Int.negSucc m)).toList = '-' :: (m + 1).repr.toList := by
  have htext : toString (Int.negSucc m) = "-" ++ (m + 1).repr := rfl
  rw [htext, String.toList_append]
  rfl

/-- The text of an integer has no colon. -/
theorem colon_notMem_toString (n : ℤ) : ':' ∉ (toString n).toList := by
  cases n with
  | ofNat m => exact notMem_natRepr (by decide) m
  | negSucc m =>
      rw [toList_toString_negSucc, List.mem_cons, not_or]
      exact ⟨by decide, notMem_natRepr (by decide) (m + 1)⟩

theorem toString_int_injective {a b : ℤ} (h : (toString a).toList = (toString b).toList) : a = b := by
  have hminus : ∀ m k : ℕ, (toString (Int.ofNat m)).toList ≠ (toString (Int.negSucc k)).toList := by
    intro m k heq
    have hmem : '-' ∈ m.repr.toList := by
      have hhead : '-' ∈ (toString (Int.negSucc k)).toList := by
        rw [toList_toString_negSucc]
        exact List.mem_cons_self
      rw [← heq] at hhead
      exact hhead
    exact notMem_natRepr (by decide) m hmem
  cases a with
  | ofNat m =>
      cases b with
      | ofNat k => exact congrArg Int.ofNat (natRepr_injective (String.toList_injective h))
      | negSucc k => exact absurd h (hminus m k)
  | negSucc m =>
      cases b with
      | ofNat k => exact absurd h.symm (hminus k m)
      | negSucc k =>
          rw [toList_toString_negSucc, toList_toString_negSucc, List.cons.injEq] at h
          have hsucc := natRepr_injective (String.toList_injective h.2)
          exact congrArg Int.negSucc (Nat.succ.inj hsucc)

theorem toList_gapCheckpointKey (gap : GapRecord) : (gapCheckpointKey gap).toList =
    (toString gap.expectedOpenTimeMs).toList ++ ':' :: ((toString gap.previousOpenTimeMs).toList ++
      ':' :: ((toString gap.nextOpenTimeMs).toList ++
        ':' :: (toString gap.missingIntervals).toList)) := by
  have hcolon : (toString ":").toList = [':'] := rfl
  simp [gapCheckpointKey, String.toList_append, hcolon]

/-- What stands before the first colon and after it. -/
theorem split_first_eq {c : Char} {x x' z z' : List Char} (hx : c ∉ x) (hx' : c ∉ x')
    (h : x ++ c :: z = x' ++ c :: z') : x = x' ∧ z = z' := by
  induction x generalizing x' with
  | nil =>
      cases x' with
      | nil => exact ⟨rfl, (List.cons.inj h).2⟩
      | cons d x' => exact absurd (List.mem_cons.2 (Or.inl (List.cons.inj h).1)) hx'
  | cons d x ih =>
      cases x' with
      | nil => exact absurd (List.mem_cons.2 (Or.inl (List.cons.inj h).1.symm)) hx
      | cons e x' =>
          rcases List.cons.inj h with ⟨rfl, hrest⟩
          have hsame := ih (fun hmem => hx (List.mem_cons_of_mem d hmem))
            (fun hmem => hx' (List.mem_cons_of_mem d hmem)) hrest
          exact ⟨congrArg (List.cons d) hsame.1, hsame.2⟩

/-- Gaps that differ in any of their fields have different keys. -/
theorem gapCheckpointKey_injective : Function.Injective gapCheckpointKey := by
  intro a b h
  have hlists := congrArg String.toList h
  rw [toList_gapCheckpointKey, toList_gapCheckpointKey] at hlists
  -- each colon ends a number, so the numbers are read off one after the other
  rcases split_first_eq (colon_notMem_toString _) (colon_notMem_toString _) hlists with
    ⟨hexpected, hlists⟩
  rcases split_first_eq (colon_notMem_toString _) (colon_notMem_toString _) hlists with
    ⟨hprevious, hlists⟩
  rcases split_first_eq (colon_notMem_toString _) (colon_notMem_toString _) hlists with
    ⟨hnext, hmissing⟩
  cases a
  cases b
  simp only [GapRecord.mk.injEq]
  exact ⟨toString_int_injective hexpected, toString_int_injective hprevious,
    toString_int_injective hnext, toString_int_injective hmissing⟩

end Keys

/-! ## The checkpoint -/

/-- `GapAuditCheckpoint._entries`. -/
abbrev CheckpointEntries := Dict String JsonValue

namespace CheckpointEntries

variable {D : Type} (format : DecimalFormat D)

/-- `get`: an entry that cannot be decoded counts as none, unless `Decimal` refuses one of its
texts. -/
def get (entries : CheckpointEntries) (gap : GapRecord) :
    Except DecodeError (Option (GapForensicRecord D)) :=
  match entries.get? (gapCheckpointKey gap) with
  | none => .ok none
  | some raw =>
      match gapResultFromJson format raw with
      | .ok result => .ok (some result)
      | .error .invalidOperation => .error .invalidOperation
      | .error _ => .ok none

/-- `record`. -/
def record (entries : CheckpointEntries) (result : GapForensicRecord D) : CheckpointEntries :=
  entries.set (gapCheckpointKey result.gap) (gapResultToJson format result)

variable {format} {entries : CheckpointEntries}

theorem get_record_self (h : format.Exact) (result : GapForensicRecord D) :
    (entries.record format result).get format result.gap = .ok (some result) := by
  simp [get, record, gapResultFromJson_gapResultToJson h]

theorem get_record_of_ne {result : GapForensicRecord D} {gap : GapRecord} (hgap : gap ≠ result.gap) :
    (entries.record format result).get format gap = entries.get format gap := by
  have hkey : gapCheckpointKey gap ≠ gapCheckpointKey result.gap :=
    gapCheckpointKey_injective.ne hgap
  simp only [get, record, Dict.get?_set_of_ne entries hkey]

/-- Records for other gaps leave what is read for a gap as it is. -/
theorem get_recordAll_of_ne {results : List (GapForensicRecord D)} {gap : GapRecord}
    (hgap : ∀ result ∈ results, gap ≠ result.gap) :
    (results.foldl (record format) entries).get format gap = entries.get format gap := by
  induction results generalizing entries with
  | nil => rfl
  | cons result results ih =>
      rw [List.foldl_cons, ih fun r hr => hgap r (List.mem_cons_of_mem _ hr)]
      exact get_record_of_ne (hgap result List.mem_cons_self)

end CheckpointEntries

/-! ## The audit's dictionary -/

section Results

variable {D : Type} (value : D → ℚ)

def DecimalCandle.toCandle (c : DecimalCandle D) : Candle :=
  ⟨c.symbol, c.interval, c.openTimeMs, c.closeTimeMs, value c.open, value c.high, value c.low,
    value c.close, value c.volume⟩

/-- The part of an hour's record that a recovery reads. -/
def MissingHourRecord.toOutcome (m : MissingHourRecord D) : MissingHourOutcome :=
  ⟨m.openTimeMs, m.outcome, m.found1mCandleCount.toNat,
    m.reconstructedCandle.map (DecimalCandle.toCandle value)⟩

def GapForensicRecord.toResult (gr : GapForensicRecord D) : GapForensicResult :=
  ⟨gr.gap, gr.missingHours.map (MissingHourRecord.toOutcome value)⟩

/-- The entries hold the results of the dictionary. -/
def Represents (format : DecimalFormat D) (entries : CheckpointEntries)
    (checkpoint : GapAuditCheckpoint) : Prop :=
  ∀ gap, ∃ result, entries.get format gap = .ok result ∧
    result.map (GapForensicRecord.toResult value) = checkpoint.get? gap

variable {value} {format : DecimalFormat D} {entries : CheckpointEntries}
  {checkpoint : GapAuditCheckpoint}

theorem represents_nil : Represents value format [] [] := by
  intro gap
  exact ⟨none, rfl, rfl⟩

/-- Recording a result in the file is recording it in the dictionary. -/
theorem Represents.record (h : Represents value format entries checkpoint) (hformat : format.Exact)
    (result : GapForensicRecord D) :
    Represents value format (entries.record format result)
      (checkpoint.set result.gap (result.toResult value)) := by
  intro gap
  by_cases hgap : gap = result.gap
  · subst hgap
    refine ⟨some result, CheckpointEntries.get_record_self hformat result, ?_⟩
    rw [Dict.get?_set_self]
    rfl
  · rcases h gap with ⟨found, hfound, hsame⟩
    refine ⟨found, (CheckpointEntries.get_record_of_ne hgap).trans hfound, ?_⟩
    rw [Dict.get?_set_of_ne checkpoint hgap, hsame]

end Results

/-- A result is read back as it was recorded, whatever is recorded for other gaps afterwards, and
nothing is read for a gap that was never recorded. -/
theorem checkpoint_round_trip {D : Type} {format : DecimalFormat D} (hformat : format.Exact) :
    (∀ result : GapForensicRecord D,
      gapResultFromJson format (gapResultToJson format result) = .ok result) ∧
    (∀ (entries : CheckpointEntries) (result : GapForensicRecord D)
      (later : List (GapForensicRecord D)), (∀ r ∈ later, r.gap ≠ result.gap) →
      (later.foldl (CheckpointEntries.record format) (entries.record format result)).get format
        result.gap = .ok (some result)) ∧
    ∀ (recorded : List (GapForensicRecord D)) (gap : GapRecord), (∀ r ∈ recorded, r.gap ≠ gap) →
      (recorded.foldl (CheckpointEntries.record format) []).get format gap = .ok none := by
  refine ⟨gapResultFromJson_gapResultToJson hformat, ?_, ?_⟩
  · intro entries result later hothers
    rw [CheckpointEntries.get_recordAll_of_ne fun r hr => (hothers r hr).symm]
    exact CheckpointEntries.get_record_self hformat result
  · intro recorded gap hothers
    exact CheckpointEntries.get_recordAll_of_ne fun r hr => (hothers r hr).symm

namespace Scenario

/-- Whole decimals, whose text is that of the number. -/
def wholeDecimals : DecimalFormat ℕ where
  str := Nat.repr
  ofStr s := if s.toList.all Char.isDigit then some (Nat.ofDigitChars 10 s.toList 0) else none

theorem wholeDecimals_exact : wholeDecimals.Exact := by
  intro n
  have hdigits : (Nat.toDigits 10 n).all Char.isDigit = true := by
    rw [List.all_eq_true]
    exact fun c hc => Nat.isDigit_of_mem_toDigits (by decide) le_rfl hc
  simp only [wholeDecimals, Nat.toList_repr, hdigits, if_true, Nat.ofDigitChars_ten_toDigits]

/-- An hour whose candle was rebuilt. -/
def recoveredHour : MissingHourRecord ℕ where
  openTimeMs := 3600000
  outcome := .fullyRecoverable
  found1mCandleCount := 60
  detail := "all 60 1-minute candles present, continuous, and validated - reconstructed."
  reconstructedCandle := some
    ⟨"BTCUSDT", "1h", 3600000, 7199999, 100, 110, 90, 105, 12⟩
  provenance := none

def recoveredGap : GapForensicRecord ℕ :=
  ⟨⟨3600000, 0, 7200000, 1⟩, [recoveredHour]⟩

/-- A gap recorded after it, of two hours without a trade. -/
def emptyGap : GapForensicRecord ℕ :=
  ⟨⟨18000000, 14400000, 25200000, 2⟩, [18000000, 21600000].map fun hour =>
    ⟨hour, .genuineNoData, 0, "Binance has zero 1-minute candles for this hour - a genuine " ++
      "exchange-side data absence.", none, none⟩⟩

end Scenario

/-- Both results are read back after the second was recorded, and nothing for a third gap. -/
theorem checkpoint_round_trip_recovered :
    let entries := CheckpointEntries.record Scenario.wholeDecimals
      (CheckpointEntries.record Scenario.wholeDecimals [] Scenario.recoveredGap) Scenario.emptyGap
    gapResultFromJson Scenario.wholeDecimals
        (gapResultToJson Scenario.wholeDecimals Scenario.recoveredGap) =
      .ok Scenario.recoveredGap ∧
    entries.get Scenario.wholeDecimals Scenario.recoveredGap.gap =
      .ok (some Scenario.recoveredGap) ∧
    entries.get Scenario.wholeDecimals Scenario.emptyGap.gap = .ok (some Scenario.emptyGap) ∧
    entries.get Scenario.wholeDecimals ⟨36000000, 32400000, 39600000, 1⟩ = .ok none := by
  have hround := checkpoint_round_trip Scenario.wholeDecimals_exact
  refine ⟨hround.1 _, ?_, ?_, ?_⟩
  · apply hround.2.1 [] Scenario.recoveredGap [Scenario.emptyGap]
    simp [Scenario.recoveredGap, Scenario.emptyGap]
  · exact hround.2.1 _ Scenario.emptyGap [] (fun _ hr => absurd hr List.not_mem_nil)
  · apply hround.2.2 [Scenario.recoveredGap, Scenario.emptyGap]
    simp [Scenario.recoveredGap, Scenario.emptyGap]

end TradingAgent
