import TradingAgent.Core.Market
import TradingAgent.Library.Replacing

/-!
# Logging setup — the redaction filter and the JSON formatter

`logging_setup.py`.  A record passes the filter and the formatter of every handler in turn, and the
filter rewrites the record itself, so each handler redacts what the one before has left.

The filter is stated over texts of any kind of letter (`Lettering`): `SecretRedactionFilter.redact`
runs it on characters, and a trace of where each character comes from runs the same definition.
-/

namespace TradingAgent

/-- A `str`, by its characters. -/
abbrev Text := List Char

/-! ## The pattern of a secret -/

/-- The lower-case letter that `(?i)` takes a character for, as far as ASCII letters are concerned:
the dotted and the dotless i, the long s and the Kelvin sign count as letters. -/
def foldCase (c : Char) : Char :=
  if c = Char.ofNat 0x130 ∨ c = Char.ofNat 0x131 then 'i'
  else if c = Char.ofNat 0x17F then 's'
  else if c = Char.ofNat 0x212A then 'k'
  else c.toLower

/-- The code points of `\s`. -/
def spaceCodes : List ℕ :=
  [0x9, 0xA, 0xB, 0xC, 0xD, 0x1C, 0x1D, 0x1E, 0x1F, 0x20, 0x85, 0xA0, 0x1680, 0x2000, 0x2001, 0x2002,
    0x2003, 0x2004, 0x2005, 0x2006, 0x2007, 0x2008, 0x2009, 0x200A, 0x2028, 0x2029, 0x202F, 0x205F,
    0x3000]

def isSpace (c : Char) : Bool :=
  spaceCodes.contains c.toNat

/-- `[A-Za-z0-9\-_]`. -/
def isTokenChar (c : Char) : Bool :=
  (foldCase c).isLower || c.isDigit || c = '-' || c = '_'

/-- The double and the single quotation mark. -/
def isQuote (c : Char) : Bool :=
  c.toNat = 34 || c.toNat = 39

/-- The length of the match of `(api[_-]?key|api[_-]?secret|secret|signature)` at the start. -/
def keywordLength (text : Text) : Option ℕ :=
  let word := text.map foldCase
  if ['a', 'p', 'i'] <+: word then
    let first := (word.drop 3).head?
    -- `[_-]?` has no choice: no keyword starts with either of them
    let gap := if first = some '_' ∨ first = some '-' then 1 else 0
    let rest := word.drop (3 + gap)
    if ['k', 'e', 'y'] <+: rest then some (6 + gap)
    else if ['s', 'e', 'c', 'r', 'e', 't'] <+: rest then some (9 + gap)
    else none
  else if ['s', 'e', 'c', 'r', 'e', 't'] <+: word then some 6
  else if ['s', 'i', 'g', 'n', 'a', 't', 'u', 'r', 'e'] <+: word then some 9
  else none

/-- What follows a quotation mark, if there is one. -/
def skipQuote : Text → Text
  | [] => []
  | c :: rest => if isQuote c then rest else c :: rest

/-- What `\s*[=:]\s*[\'\"]?[A-Za-z0-9\-_]{8,}[\'\"]?` leaves of a text it matches at the start. -/
def afterValue (text : Text) : Option Text :=
  match text.dropWhile isSpace with
  | [] => none
  | separator :: rest =>
      let value := skipQuote (rest.dropWhile isSpace)
      -- the token and the quotation marks exclude each other, so nothing backtracks
      let token := value.takeWhile isTokenChar
      if (separator = '=' ∨ separator = ':') ∧ 8 ≤ token.length then
        some (skipQuote (value.drop token.length))
      else none

/-- `_SECRET_PATTERN` at the start of a text: the lengths of its group and of the whole match. -/
def matchSecretPattern (text : Text) : Option (ℕ × ℕ) :=
  match keywordLength text with
  | none => none
  | some group =>
      (afterValue (text.drop group)).map fun after => (group, text.length - after.length)

/-! ## The filter -/

/-- Values that stand for characters. -/
structure Lettering (τ : Type) where
  key : τ → Char
  ofChar : Char → τ
  key_ofChar : ∀ c, key (ofChar c) = c

def Lettering.characters : Lettering Char where
  key := id
  ofChar := id
  key_ofChar _ := rfl

/-- `_REDACTED`. -/
def redactedWord : Text :=
  ['*', '*', '*', 'r', 'e', 'd', 'a', 'c', 't', 'e', 'd', '*', '*', '*']

namespace Lettering

variable {τ : Type} (L : Lettering τ)

/-- `message.replace(secret, _REDACTED)`. -/
def replaceSecret (secret : Text) (message : List τ) : List τ :=
  Replacing.replace L.key secret (redactedWord.map L.ofChar) message

/-- The group of a match stays, and what is inserted stands for the rest of it. -/
def patternRule (text : List τ) : Option (List τ × ℕ) :=
  (matchSecretPattern (text.map L.key)).map fun found =>
    (text.take found.1 ++ ('=' :: redactedWord).map L.ofChar, found.2)

/-- `_SECRET_PATTERN.sub(...)`. -/
def subSecretPattern (message : List τ) : List τ :=
  Replacing.substitute L.patternRule message

/-- The loop over the known secrets. -/
def replaceSecrets (knownSecrets : List Text) (message : List τ) : List τ :=
  knownSecrets.foldl
    (fun message secret => if secret = [] then message else L.replaceSecret secret message) message

/-- `_redact`. -/
def redact (knownSecrets : List Text) (message : List τ) : List τ :=
  L.subSecretPattern (L.replaceSecrets knownSecrets message)

end Lettering

/-! ## Records -/

/-- What a JSON value is written from; `literal` is a number, `true`, `false` or `null` as the line
writes it, and an object `json.dumps` does not know is the text of its `str`. -/
inductive FieldValue where
  | text (t : Text)
  | literal (written : Text)
  | list (items : List FieldValue)
  | dict (fields : List (Text × FieldValue))

mutual

/-- The texts in a value. -/
def FieldValue.texts : FieldValue → List Text
  | .text t => [t]
  | .literal written => [written]
  | .list items => itemTexts items
  | .dict fields => fieldTexts fields

def FieldValue.itemTexts : List FieldValue → List Text
  | [] => []
  | value :: rest => value.texts ++ itemTexts rest

def FieldValue.fieldTexts : List (Text × FieldValue) → List Text
  | [] => []
  | (key, value) :: rest => key :: value.texts ++ fieldTexts rest

end

/-- `record.extra_fields`. -/
structure ExtraFields where
  fields : Dict String FieldValue
  nodup : (fields.map Prod.fst).Nodup

structure LogRecord (Arg Exc : Type) where
  created : ℚ
  levelname : Text
  name : Text
  msg : Text
  args : List Arg
  excInfo : Option Exc
  extraFields : Option ExtraFields

/-- The formatting of the standard library: `%`, `isoformat` of a time in UTC and
`formatException`. -/
structure LogTexts (Arg Exc : Type) where
  percent : Text → List Arg → Except PyError Text
  isoformat : ℚ → Text
  formatException : Exc → Text

section Records

variable {Arg Exc : Type} (texts : LogTexts Arg Exc) (record : LogRecord Arg Exc)

def LogRecord.getMessage : Except PyError Text :=
  if record.args.isEmpty then .ok record.msg else texts.percent record.msg record.args

/-! ## Handlers -/

structure SecretRedactionFilter where
  knownSecrets : List Text
  nonempty : ∀ secret ∈ knownSecrets, secret ≠ []

/-- `SecretRedactionFilter.__init__`. -/
def SecretRedactionFilter.ofSecrets (knownSecrets : Option (List Text)) :
    SecretRedactionFilter where
  knownSecrets := (knownSecrets.getD []).filter fun secret => secret ≠ []
  nonempty secret h := by simpa using (List.mem_filter.1 h).2

def SecretRedactionFilter.redact (f : SecretRedactionFilter) (message : Text) : Text :=
  Lettering.characters.redact f.knownSecrets message

def SecretRedactionFilter.filter (f : SecretRedactionFilter) :
    Except PyError (LogRecord Arg Exc) := do
  let message ← record.getMessage texts
  -- the record itself is rewritten, for every later handler as well
  .ok { record with msg := f.redact message, args := [] }

/-- The fields before `payload.update(extra)`. -/
def JsonFormatter.basePayload (message : Text) : Dict String FieldValue :=
  let payload : Dict String FieldValue :=
    [("timestamp_utc", .text (texts.isoformat record.created)), ("level", .text record.levelname),
      ("logger", .text record.name), ("message", .text message)]
  match record.excInfo with
  | some excInfo => payload.set "exception" (.text (texts.formatException excInfo))
  | none => payload

def JsonFormatter.payload (message : Text) : Dict String FieldValue :=
  let payload := JsonFormatter.basePayload texts record message
  match record.extraFields with
  -- `payload.update(extra)` also replaces the message, the exception and the rest
  | some extra => if extra.fields.isEmpty then payload else payload.updateAll extra.fields
  | none => payload

/-- `JsonFormatter.format`, before `json.dumps`. -/
def JsonFormatter.format : Except PyError (Dict String FieldValue) := do
  let message ← record.getMessage texts
  .ok (JsonFormatter.payload texts record message)

inductive Handler where
  | stream
  | file
  deriving DecidableEq, Repr

/-- A logger whose handlers share one filter. -/
structure Logger where
  handlers : List Handler
  redactionFilter : SecretRedactionFilter

def configureLogging (knownSecrets : Option (List Text)) : Logger where
  handlers := [.stream, .file]
  redactionFilter := .ofSecrets knownSecrets

/-- Every handler in turn filters the record and formats what it is then. -/
def callHandlers (f : SecretRedactionFilter) :
    List Handler → LogRecord Arg Exc → Except PyError (List (Handler × Dict String FieldValue))
  | [], _ => .ok []
  | handler :: handlers, record => do
      let record' ← f.filter texts record
      let payload ← JsonFormatter.format texts record'
      let lines ← callHandlers f handlers record'
      .ok ((handler, payload) :: lines)

/-- The lines of a record. -/
def Logger.handle (logger : Logger) :
    Except PyError (List (Handler × Dict String FieldValue)) :=
  callHandlers texts logger.redactionFilter logger.handlers record

end Records

end TradingAgent
