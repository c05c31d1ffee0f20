import TradingAgent.Logging.Redaction

/-!
# Log lines — no known secret reaches one

The lines of a record are those of its handlers.  Every handler writes the message redacted once
more, and the other fields as they are (`callHandlers_eq`); a record whose message cannot be
formatted has no line.

* `payload_hides_iff` is about one line: its fields besides the message are those of the record;
* `log_lines_safe_iff`: the lines hide the secrets only if the fields besides the message do, and if
  they do and the message is settled, the lines hide them and no remainder of one is left.
-/

namespace TradingAgent

/-! ## What reaches the lines -/

section Lines

variable {Arg Exc : Type} {texts : LogTexts Arg Exc} {record : LogRecord Arg Exc}
  {f : SecretRedactionFilter} {knownSecrets : List Text} {message : Text}

/-- The extra fields, none where there are none. -/
def LogRecord.extra (record : LogRecord Arg Exc) : Dict String FieldValue :=
  record.extraFields.elim [] ExtraFields.fields

/-- What the formatter takes from the record besides the message. -/
def LogRecord.recordFields (texts : LogTexts Arg Exc) (record : LogRecord Arg Exc) :
    Dict String FieldValue :=
  [("timestamp_utc", .text (texts.isoformat record.created)), ("level", .text record.levelname),
    ("logger", .text record.name)] ++
    record.excInfo.toList.map fun excInfo => ("exception", .text (texts.formatException excInfo))

theorem LogRecord.nodup_extra (record : LogRecord Arg Exc) :
    (record.extra.map Prod.fst).Nodup := by
  unfold extra
  cases record.extraFields with
  | none => exact List.nodup_nil
  | some extra => exact extra.nodup

theorem mem_basePayload {field : String × FieldValue} :
    field ∈ JsonFormatter.basePayload texts record message ↔
      field ∈ record.recordFields texts ∨ field = ("message", .text message) := by
  unfold JsonFormatter.basePayload LogRecord.recordFields
  cases record.excInfo with
  | none => simp [or_assoc]
  | some excInfo =>
      simp only
      rw [Dict.set_of_fresh (by simp)]
      simp only [Option.toList_some, List.map_cons, List.map_nil, List.mem_append, List.mem_cons,
        List.not_mem_nil, or_false]
      tauto

/-- The extra fields of a record replace what the formatter took under their names. -/
theorem mem_payload {field : String × FieldValue} :
    field ∈ JsonFormatter.payload texts record message ↔
      field ∈ record.extra ∨
        (field ∈ record.recordFields texts ∨ field = ("message", .text message)) ∧
          field.1 ∉ record.extra.map Prod.fst := by
  rw [← mem_basePayload]
  have hnodup := record.nodup_extra
  unfold JsonFormatter.payload LogRecord.extra at *
  cases hextra : record.extraFields with
  | none => simp
  | some extra =>
      rw [hextra] at hnodup
      simp only [Option.elim_some] at hnodup ⊢
      split
      · rename_i hempty
        rw [List.isEmpty_iff.1 hempty]
        simp
      · exact Dict.mem_updateAll hnodup

/-- The lines a filter writes of a record. -/
def filteredLines (texts : LogTexts Arg Exc) (f : SecretRedactionFilter)
    (record : LogRecord Arg Exc) (message : Text) (handlers : List Handler) :
    List (Handler × Dict String FieldValue) :=
  handlers.mapIdx fun n handler =>
    (handler, JsonFormatter.payload texts record (f.redact^[n + 1] message))

/-- Every handler writes the message redacted once more. -/
theorem callHandlers_eq (handlers : List Handler) (hmessage : record.getMessage texts = .ok message) :
    callHandlers texts f handlers record = .ok (filteredLines texts f record message handlers) := by
  induction handlers generalizing record message with
  | nil => rfl
  | cons handler handlers ih =>
      have hfilter : f.filter texts record =
          .ok { record with msg := f.redact message, args := [] } := by
        rw [SecretRedactionFilter.filter, hmessage]
        rfl
      have hagain : LogRecord.getMessage texts { record with msg := f.redact message, args := [] } =
          .ok (f.redact message) := rfl
      rw [callHandlers, hfilter]
      simp only [JsonFormatter.format, hagain, ih hagain, bind, Except.bind]
      rw [filteredLines, filteredLines, List.mapIdx_cons]
      rfl

/-! ## Hidden secrets -/

/-- No text of the value holds a known secret. -/
def FieldValue.Hides (knownSecrets : List Text) (value : FieldValue) : Prop :=
  ∀ t ∈ value.texts, ∀ secret ∈ knownSecrets, ¬secret <:+: t

instance (knownSecrets : List Text) (value : FieldValue) : Decidable (value.Hides knownSecrets) :=
  inferInstanceAs (Decidable (∀ t ∈ value.texts, ∀ secret ∈ knownSecrets, ¬secret <:+: t))

/-- The fields the filter does not touch, as far as the line has them, hide the secrets. -/
structure UnfilteredHide (texts : LogTexts Arg Exc) (knownSecrets : List Text)
    (record : LogRecord Arg Exc) : Prop where
  recorded : ∀ field ∈ record.recordFields texts, field.1 ∉ record.extra.map Prod.fst →
    field.2.Hides knownSecrets
  extra : ∀ field ∈ record.extra, field.2.Hides knownSecrets

/-- The message of the line number `n`, every character with the place it comes from. -/
def tracedMessage (knownSecrets : List Text) (message : Text) (n : ℕ) : List (Char × Option ℕ) :=
  (Lettering.traced.redact knownSecrets)^[n + 1] (trace message)

theorem map_fst_tracedMessage (knownSecrets : List Text) (message : Text) (n : ℕ) :
    (tracedMessage knownSecrets message n).map Prod.fst =
      (Lettering.characters.redact knownSecrets)^[n + 1] message := by
  unfold tracedMessage
  induction n + 1 with
  | zero => exact map_fst_trace message
  | succ n ih =>
      rw [Function.iterate_succ_apply', Function.iterate_succ_apply', ← ih]
      exact Lettering.traced.map_key_redact knownSecrets _

/-- The lines hide the secrets, and a line that shows the message has no remainder of an occurrence
that another secret, replaced earlier, has cut. -/
structure LinesSafe (knownSecrets : List Text) (record : LogRecord Arg Exc) (message : Text)
    (lines : List (Handler × Dict String FieldValue)) : Prop where
  hidden : ∀ line ∈ lines, ∀ field ∈ line.2, field.2.Hides knownSecrets
  noRemainder : "message" ∉ record.extra.map Prod.fst → ∀ earlier secret later,
    knownSecrets = earlier ++ secret :: later → secret ∉ earlier → ∀ j,
      OccursAt secret message j → CutBefore earlier secret message j →
        ∀ n < lines.length, ∀ e ∈ stretch secret message j, e ∉ tracedMessage knownSecrets message n

/-- Nothing of the message is replaced. -/
structure Untouched (knownSecrets : List Text) (message : Text) : Prop where
  secrets : ∀ secret ∈ knownSecrets, ¬secret <:+: message
  pattern : ∀ rest, rest <:+ message → matchSecretPattern rest = none

/-- The message is not in the lines, or nothing of it is replaced, or replacing is safe. -/
def MessageSettled (knownSecrets : List Text) (record : LogRecord Arg Exc) (message : Text) : Prop :=
  "message" ∈ record.extra.map Prod.fst ∨ Untouched knownSecrets message ∨
    Redactable knownSecrets message

theorem Untouched.redact_eq_self {τ : Type} {L : Lettering τ} {text : List τ}
    (h : Untouched knownSecrets message) (htext : text.map L.key = message) :
    L.redact knownSecrets text = text := by
  have hloop : L.replaceSecrets knownSecrets text = text := by
    have hsecrets := h.secrets
    clear h
    induction knownSecrets with
    | nil => rfl
    | cons secret rest ih =>
        have hfirst : L.replaceSecret secret text = text := by
          refine Replacing.substitute_eq_self fun tail htail => ?_
          refine Replacing.replaceRule_eq_none_iff.2 fun hmatch => ?_
          refine hsecrets secret List.mem_cons_self (hmatch.isInfix.trans ?_)
          exact htext ▸ (htail.map L.key).isInfix
        have hrest := ih fun s hs => hsecrets s (List.mem_cons_of_mem secret hs)
        unfold Lettering.replaceSecrets at hrest ⊢
        rw [List.foldl_cons, hfirst, ite_self, hrest]
  rw [Lettering.redact, hloop]
  refine Replacing.substitute_eq_self fun rest hrest => ?_
  rw [Lettering.patternRule, h.pattern _ (htext ▸ hrest.map L.key)]
  rfl

/-- A redacted message hides the secrets where it is settled and shown. -/
theorem hides_of_settled (hne : ∀ secret ∈ knownSecrets, secret ≠ [])
    (h : Untouched knownSecrets message ∨ Redactable knownSecrets message) (n : ℕ) :
    ∀ secret ∈ knownSecrets,
      ¬secret <:+: (Lettering.characters.redact knownSecrets)^[n + 1] message := by
  intro secret hknown
  rcases h with huntouched | hredactable
  · have hfixed : Function.IsFixedPt (Lettering.characters.redact knownSecrets) message :=
      huntouched.redact_eq_self (by simp [Lettering.characters])
    rw [Function.iterate_fixed hfixed]
    exact huntouched.secrets secret hknown
  · rw [Function.iterate_succ_apply']
    exact Lettering.not_infix_redact hne hknown (hredactable.incompletable secret hknown)
      (by simp [Lettering.characters])

/-- What has a place in the message of a line had it in the message of the line before. -/
theorem mem_tracedMessage {n i : ℕ} {e : Char × Option ℕ} (hplace : e.2 = some i)
    (he : e ∈ tracedMessage knownSecrets message n) : e ∈ tracedMessage knownSecrets message 0 := by
  induction n with
  | zero => exact he
  | succ n ih =>
      rw [tracedMessage, Function.iterate_succ_apply'] at he
      exact ih (mem_of_mem_redact hplace he)

theorem gone_of_settled (hne : ∀ secret ∈ knownSecrets, secret ≠ [])
    (h : Untouched knownSecrets message ∨ Redactable knownSecrets message)
    {earlier later : List Text} {secret : Text} (hknown : knownSecrets = earlier ++ secret :: later)
    (hnew : secret ∉ earlier) {j : ℕ} (hoccurs : OccursAt secret message j)
    (hcut : CutBefore earlier secret message j) (n : ℕ) :
    ∀ e ∈ stretch secret message j, e ∉ tracedMessage knownSecrets message n := by
  intro e he hmem
  rcases h with huntouched | hredactable
  · refine huntouched.secrets secret (by simp [hknown]) ?_
    exact hoccurs.isInfix.trans (List.drop_suffix j message).isInfix
  · rcases place_of_mem_stretch he with ⟨i, hplace⟩
    have hfirst := mem_tracedMessage hplace hmem
    rw [hknown] at hne hredactable hfirst
    exact gone_of_cutBefore hne hredactable hnew hoccurs hcut e he hfirst

/-- A line hides the secrets exactly if the fields besides the message do, and the message where it
is shown. -/
theorem payload_hides_iff :
    (∀ field ∈ JsonFormatter.payload texts record message, field.2.Hides knownSecrets) ↔
      UnfilteredHide texts knownSecrets record ∧
        ("message" ∉ record.extra.map Prod.fst → ∀ secret ∈ knownSecrets, ¬secret <:+: message) := by
  constructor
  · intro h
    refine ⟨⟨?_, ?_⟩, ?_⟩
    · intro field hfield hkey
      exact h field (mem_payload.2 (Or.inr ⟨Or.inl hfield, hkey⟩))
    · intro field hfield
      exact h field (mem_payload.2 (Or.inl hfield))
    · intro hkey secret hknown
      exact h _ (mem_payload.2 (Or.inr ⟨Or.inr rfl, hkey⟩)) message (by simp [FieldValue.texts])
        secret hknown
  · rintro ⟨hunfiltered, hmessage⟩ field hfield
    rcases mem_payload.1 hfield with hextra | ⟨hrecorded | rfl, hkey⟩
    · exact hunfiltered.extra field hextra
    · exact hunfiltered.recorded field hrecorded hkey
    · intro t ht secret hknown
      rw [FieldValue.texts, List.mem_singleton] at ht
      rw [ht]
      exact hmessage hkey secret hknown

theorem unfilteredHide_of_safe {handler : Handler} {handlers : List Handler}
    (h : LinesSafe knownSecrets record message
      (filteredLines texts f record message (handler :: handlers))) :
    UnfilteredHide texts knownSecrets record :=
  (payload_hides_iff.1 (h.hidden _ (by
    rw [filteredLines, List.mapIdx_cons]
    exact List.mem_cons_self))).1

theorem linesSafe_of_settled {handlers : List Handler}
    (hsettled : MessageSettled f.knownSecrets record message)
    (h : UnfilteredHide texts f.knownSecrets record) :
    LinesSafe f.knownSecrets record message (filteredLines texts f record message handlers) := by
  have hshown : "message" ∉ record.extra.map Prod.fst →
      Untouched f.knownSecrets message ∨ Redactable f.knownSecrets message :=
    hsettled.resolve_left
  constructor
  case hidden =>
      intro line hline
      rcases List.mem_mapIdx.1 hline with ⟨n, hn, rfl⟩
      refine payload_hides_iff.2 ⟨h, fun hkey => ?_⟩
      exact hides_of_settled f.nonempty (hshown hkey) n
  case noRemainder =>
      intro hkey earlier secret later hknown hnew j hoccurs hcut n _
      exact gone_of_settled f.nonempty (hshown hkey) hknown hnew hoccurs hcut n

/-- The fields besides the message have to hide the secrets; where they do and the message is
settled, the lines of the record are safe. -/
theorem log_lines_safe_iff (texts : LogTexts Arg Exc) (secrets : Option (List Text))
    (record : LogRecord Arg Exc) (message : Text)
    (hmessage : record.getMessage texts = .ok message) :
    ∃ lines, (configureLogging secrets).handle texts record = .ok lines ∧
      lines.map Prod.fst = [.stream, .file] ∧
      (LinesSafe (SecretRedactionFilter.ofSecrets secrets).knownSecrets record message lines →
        UnfilteredHide texts (SecretRedactionFilter.ofSecrets secrets).knownSecrets record) ∧
      (MessageSettled (SecretRedactionFilter.ofSecrets secrets).knownSecrets record message →
        (LinesSafe (SecretRedactionFilter.ofSecrets secrets).knownSecrets record message lines ↔
          UnfilteredHide texts (SecretRedactionFilter.ofSecrets secrets).knownSecrets record)) :=
  ⟨filteredLines texts (.ofSecrets secrets) record message [.stream, .file],
    callHandlers_eq [.stream, .file] hmessage, rfl, unfilteredHide_of_safe,
    fun hsettled => ⟨unfilteredHide_of_safe, linesSafe_of_settled hsettled⟩⟩

end Lines

namespace Scenario

/-- A record without arguments needs no formatting of a message. -/
def logTexts : LogTexts Empty Text where
  percent msg _ := .ok msg
  isoformat _ := "1970-01-01T00:00:00+00:00".toList
  formatException := id

def logRecord (message : String) (exception : Option String) : LogRecord Empty Text where
  created := 0
  levelname := "ERROR".toList
  name := "trading_agent".toList
  msg := message.toList
  args := []
  excInfo := exception.map String.toList
  extraFields := none

end Scenario

/-- A secret and a part of it, the longer one first. -/
theorem log_lines_safe_longer_first :
    ∃ lines, (configureLogging (some ["abcdefgh".toList, "abcd".toList])).handle Scenario.logTexts
        (Scenario.logRecord "key abcdefgh" none) = .ok lines ∧
      LinesSafe ["abcdefgh".toList, "abcd".toList] (Scenario.logRecord "key abcdefgh" none)
        "key abcdefgh".toList lines := by
  rcases log_lines_safe_iff Scenario.logTexts (some ["abcdefgh".toList, "abcd".toList])
    (Scenario.logRecord "key abcdefgh" none) "key abcdefgh".toList rfl with
    ⟨lines, hlines, -, -, hiff⟩
  refine ⟨lines, hlines, (hiff (Or.inr (Or.inr ?_))).2 ?_⟩
  · refine ⟨?_, by decide +kernel⟩
    have hwords : ∀ secret ∈ ["abcdefgh".toList, "abcd".toList],
        ¬Replacing.Meets secret redactedWord ∧ secret.getLast? ≠ some '=' := by decide +kernel
    intro secret hknown
    have hboth := hwords secret hknown
    exact ⟨hboth.1, not_endsInKeyword hboth.2⟩
  · constructor
    case recorded => decide +kernel
    case extra => decide +kernel

/-- The text of an exception is in the line as it is, and with the shorter of two secrets first its
replacement leaves the rest of the longer one. -/
theorem secrets_reach_log_lines :
    (∃ lines, (configureLogging (some ["abcdefgh".toList])).handle Scenario.logTexts
        (Scenario.logRecord "request failed" (some "401 for abcdefgh")) = .ok lines ∧
      ¬LinesSafe ["abcdefgh".toList] (Scenario.logRecord "request failed" (some "401 for abcdefgh"))
        "request failed".toList lines) ∧
    ∃ lines, (configureLogging (some ["abcd".toList, "abcdefgh".toList])).handle Scenario.logTexts
        (Scenario.logRecord "key abcdefgh" none) = .ok lines ∧
      lines.map (fun line => (line.2.get? "message").map FieldValue.texts) =
        [some ["key ***redacted***efgh".toList], some ["key ***redacted***efgh".toList]] ∧
      ¬LinesSafe ["abcd".toList, "abcdefgh".toList] (Scenario.logRecord "key abcdefgh" none)
        "key abcdefgh".toList lines := by
  constructor
  · refine ⟨_, callHandlers_eq [.stream, .file] rfl, fun hsafe => ?_⟩
    have hexception := (unfilteredHide_of_safe hsafe).recorded
      ("exception", .text "401 for abcdefgh".toList)
      (by simp [LogRecord.recordFields, Scenario.logRecord, Scenario.logTexts]) (by decide +kernel)
    exact absurd hexception (by decide +kernel)
  · refine ⟨_, callHandlers_eq [.stream, .file] rfl, by decide +kernel, fun hsafe => ?_⟩
    -- the first letter of the longer secret is gone before its turn, its fifth is in the line
    refine hsafe.noRemainder (by decide +kernel) ["abcd".toList] "abcdefgh".toList [] rfl
      (by decide +kernel) 4 (by decide +kernel) ⟨('a', some 4), ?_⟩ 0 (by decide +kernel)
      ('e', some 8) (by decide +kernel) (by decide +kernel)
    decide +kernel

end TradingAgent
