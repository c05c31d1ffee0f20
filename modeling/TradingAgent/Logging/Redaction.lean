import TradingAgent.Logging.LoggingSetup

/-!
# Redaction — what the filter keeps from a log line, and what it leaves in one

The filter rewrites the message and nothing else: the exception text and the extra fields reach the
line as they are.  In the message, secrets are replaced one after the other.

* `not_infix_redact`: a secret that the inserted text cannot complete is in no redacted message;
* `gone_of_cutBefore`: where the occurrence replaced first covers those it overlaps, nothing is left
  of an occurrence that has lost a character to it, followed through the filter by its trace.
-/

namespace TradingAgent

/-! ## What the inserted text can complete -/

/-- The secret ends in `=`, and what is before it can end in a keyword of the pattern. -/
def EndsInKeyword (secret : Text) : Prop :=
  ∃ before text group, secret = before ++ ['='] ∧ keywordLength text = some group ∧
    (before <:+ text.take group ∨ text.take group <:+ before)

theorem not_endsInKeyword {secret : Text} (h : secret.getLast? ≠ some '=') :
    ¬EndsInKeyword secret := by
  rintro ⟨before, text, group, rfl, -⟩
  simp at h

/-- No occurrence of the secret contains a part of what the filter inserts. -/
structure Incompletable (secret : Text) : Prop where
  word : ¬Replacing.Meets secret redactedWord
  keyword : ¬EndsInKeyword secret

theorem length_skipQuote_le (text : Text) : (skipQuote text).length ≤ text.length := by
  cases text with
  | nil => exact le_rfl
  | cons c rest =>
      rw [skipQuote]
      split
      · exact Nat.le_succ _
      · exact le_rfl

/-- A value has at least its separator. -/
theorem length_afterValue_lt {text after : Text} (h : afterValue text = some after) :
    after.length < text.length := by
  have hspaces := (List.dropWhile_sublist isSpace (l := text)).length_le
  unfold afterValue at h
  split at h
  · cases h
  rename_i separator rest hrest
  rw [hrest, List.length_cons] at hspaces
  simp only at h
  split at h
  · cases h
    have hvalue := length_skipQuote_le (rest.dropWhile isSpace)
    have hinner := (List.dropWhile_sublist isSpace (l := rest)).length_le
    refine lt_of_le_of_lt (length_skipQuote_le _) ?_
    rw [List.length_drop]
    omega
  · cases h

theorem matchSecretPattern_eq_some {text : Text} {group n : ℕ}
    (h : matchSecretPattern text = some (group, n)) :
    keywordLength text = some group ∧ group < n ∧ n ≤ text.length := by
  unfold matchSecretPattern at h
  split at h
  · cases h
  rename_i g hg
  rcases Option.map_eq_some_iff.1 h with ⟨after, hafter, heq⟩
  cases heq
  have hlt := length_afterValue_lt hafter
  rw [List.length_drop] at hlt
  exact ⟨hg, by omega, Nat.sub_le _ _⟩

namespace Lettering

variable {τ : Type} (L : Lettering τ)

attribute [simp] key_ofChar

@[simp] theorem key_comp_ofChar : L.key ∘ L.ofChar = id :=
  funext L.key_ofChar

theorem map_key_ofChar (word : Text) : (word.map L.ofChar).map L.key = word := by
  simp

variable {L} {m message : List τ} {secret : Text} {knownSecrets : List Text}

theorem infix_of_infix_replaceSecret (hmeets : ¬Replacing.Meets (m.map L.key) redactedWord)
    (h : m <:+: L.replaceSecret secret message) : m <:+: message :=
  Replacing.infix_of_infix_replace (by rwa [L.map_key_ofChar]) h

theorem replaceSecrets_cons (hne : secret ≠ []) :
    L.replaceSecrets (secret :: knownSecrets) message =
      L.replaceSecrets knownSecrets (L.replaceSecret secret message) := by
  simp [replaceSecrets, hne]

theorem infix_of_infix_replaceSecrets (hne : ∀ secret ∈ knownSecrets, secret ≠ [])
    (hmeets : ¬Replacing.Meets (m.map L.key) redactedWord)
    (h : m <:+: L.replaceSecrets knownSecrets message) : m <:+: message := by
  induction knownSecrets generalizing message with
  | nil => exact h
  | cons secret rest ih =>
      rw [replaceSecrets_cons (hne secret List.mem_cons_self)] at h
      exact infix_of_infix_replaceSecret hmeets
        (ih (fun s hs => hne s (List.mem_cons_of_mem secret hs)) h)

/-- What the pattern's rule finds at the start of a text. -/
theorem patternRule_eq_some {text r : List τ} {n : ℕ} (h : L.patternRule text = some (r, n)) :
    ∃ group, keywordLength (text.map L.key) = some group ∧ group < n ∧ n ≤ text.length ∧
      r = text.take group ++ ('=' :: redactedWord).map L.ofChar := by
  rcases Option.map_eq_some_iff.1 h with ⟨⟨group, n'⟩, hfound, heq⟩
  cases heq
  rcases matchSecretPattern_eq_some hfound with ⟨hgroup, hlt, hle⟩
  rw [List.length_map] at hle
  exact ⟨group, hgroup, hlt, hle, rfl⟩

/-- An occurrence that nothing inserted completes was there before the pattern was replaced. -/
theorem infix_of_infix_subSecretPattern (hincompletable : Incompletable (m.map L.key))
    (hm : m ≠ []) (h : m <:+: L.subSecretPattern message) : m <:+: message := by
  have hall : ∀ z, m <:+: z ++ L.subSecretPattern message → m <:+: z ++ message := by
    refine Replacing.substitute_induction
      (motive := fun text out => ∀ z, m <:+: z ++ out → m <:+: z ++ text) ?_ ?_ ?_ message
    · exact fun z h => h
    · intro c rest _ ih z h
      have hnext := ih (z ++ [c]) (by simpa using h)
      simpa using hnext
    · intro c rest r n hhit ih z h
      rcases patternRule_eq_some hhit with ⟨group, hgroup, hlt, -, rfl⟩
      have hkept : (c :: rest).take group <+: c :: rest := List.take_prefix _ _
      -- the group stays behind `z`, the sign of equality and the word follow it
      have hsplit : z ++ ((c :: rest).take group ++ ('=' :: redactedWord).map L.ofChar ++
          Replacing.substitute L.patternRule (rest.drop (n - 1))) =
          (z ++ (c :: rest).take group ++ [L.ofChar '=']) ++ redactedWord.map L.ofChar ++
            Replacing.substitute L.patternRule (rest.drop (n - 1)) := by
        simp
      rw [hsplit] at h
      have hmeets : ¬Replacing.Meets (m.map L.key) ((redactedWord.map L.ofChar).map L.key) := by
        rw [L.map_key_ofChar]
        exact hincompletable.word
      rcases Replacing.infix_of_not_meets hmeets h with hleft | hrest
      · rcases List.infix_concat_iff.1 hleft with hsuffix | hbefore
        · rcases List.suffix_concat_iff.1 hsuffix with hnil | ⟨before, rfl, hbefore⟩
          · exact absurd hnil hm
          · -- the occurrence ends in the inserted sign of equality
            refine absurd ?_ hincompletable.keyword
            refine ⟨before.map L.key, (c :: rest).map L.key, group, ?_, hgroup, ?_⟩
            · simp
            · rw [← List.map_take]
              exact (List.suffix_or_suffix_of_suffix hbefore (List.suffix_append z _)).imp
                (fun h => h.map L.key) (fun h => h.map L.key)
        · exact hbefore.trans ((List.prefix_append_right_inj z).2 hkept).isInfix
      · have hlater : m <:+: rest.drop (n - 1) := ih [] hrest
        refine hlater.trans ?_
        exact ((List.drop_suffix _ _).trans ((List.suffix_cons c rest).trans
          (List.suffix_append z (c :: rest)))).isInfix
  exact hall [] h

/-- A secret that nothing inserted completes is in no redacted message. -/
theorem not_infix_redact (hne : ∀ secret ∈ knownSecrets, secret ≠ [])
    (hknown : secret ∈ knownSecrets) (hincompletable : Incompletable secret)
    (hm : m.map L.key = secret) : ¬m <:+: L.redact knownSecrets message := by
  intro h
  have hmne : m ≠ [] := by
    rintro rfl
    exact hne secret hknown hm.symm
  have hbefore := infix_of_infix_subSecretPattern (by rwa [hm]) hmne h
  clear h
  induction knownSecrets generalizing message with
  | nil => cases hknown
  | cons first rest ih =>
      have hrest : ∀ secret ∈ rest, secret ≠ [] := fun s hs => hne s (List.mem_cons_of_mem first hs)
      rw [replaceSecrets_cons (hne first List.mem_cons_self)] at hbefore
      rcases List.mem_cons.1 hknown with rfl | hlater
      · have hword := hincompletable.word
        have hgone := infix_of_infix_replaceSecrets hrest (by rwa [hm]) hbefore
        exact Replacing.not_infix_replace hmne hm (by rwa [L.map_key_ofChar]) hgone
      · -- not its turn: it is in what the later replacements are given
        exact ih hrest hlater hbefore

/-- The texts of two letterings with the same characters are redacted alike. -/
theorem map_key_redact (L : Lettering τ) (knownSecrets : List Text) (message : List τ) :
    (L.redact knownSecrets message).map L.key =
      characters.redact knownSecrets (message.map L.key) := by
  have hreplace : ∀ (secret : Text) (message : List τ),
      (L.replaceSecret secret message).map L.key =
        characters.replaceSecret secret (message.map L.key) := by
    intro secret message
    refine Replacing.map_substitute ?_ message
    intro text
    simp only [Replacing.replaceRule, characters, List.map_id]
    split <;> simp
  have hloop : (L.replaceSecrets knownSecrets message).map L.key =
      characters.replaceSecrets knownSecrets (message.map L.key) := by
    unfold replaceSecrets
    induction knownSecrets generalizing message with
    | nil => rfl
    | cons secret rest ih =>
        rw [List.foldl_cons, List.foldl_cons, ih]
        split
        · rfl
        · rw [hreplace]
  rw [redact, redact, ← hloop]
  refine Replacing.map_substitute ?_ _
  intro text
  simp only [patternRule, characters, List.map_id]
  cases matchSecretPattern (text.map L.key) with
  | none => rfl
  | some found => simp [List.map_take]

end Lettering

/-! ## Where the characters of a redacted message come from -/

/-- A character with the place of the message it comes from. -/
def Lettering.traced : Lettering (Char × Option ℕ) where
  key := Prod.fst
  ofChar c := (c, none)
  key_ofChar _ := rfl

def trace (message : Text) : List (Char × Option ℕ) :=
  message.zipIdx.map fun c => (c.1, some c.2)

def OccursAt (secret message : Text) (i : ℕ) : Prop :=
  secret <+: message.drop i

instance (secret message : Text) (i : ℕ) : Decidable (OccursAt secret message i) :=
  inferInstanceAs (Decidable (_ <+: _))

/-- Occurrences of the two secrets, at `i` and at `j`, that share a place. -/
def Overlap (message first second : Text) (i j : ℕ) : Prop :=
  OccursAt first message i ∧ OccursAt second message j ∧ i < j + second.length ∧
    j < i + first.length

instance (message first second : Text) (i j : ℕ) : Decidable (Overlap message first second i j) :=
  inferInstanceAs (Decidable (_ ∧ _))

/-- Where occurrences of the two secrets overlap, that of the first covers that of the second. -/
def CoversOverlaps (message first second : Text) : Prop :=
  ∀ i < message.length, ∀ j < message.length, Overlap message first second i j →
    i ≤ j ∧ j + second.length ≤ i + first.length

instance (message first second : Text) : Decidable (CoversOverlaps message first second) :=
  inferInstanceAs (Decidable (∀ i < message.length, ∀ j < message.length,
    Overlap message first second i j → i ≤ j ∧ j + second.length ≤ i + first.length))

/-- The stretch of the traced message in which an occurrence of the secret at `i` lies. -/
def stretch (secret message : Text) (i : ℕ) : List (Char × Option ℕ) :=
  ((trace message).drop i).take secret.length

section Traces

variable {secret message : Text} {i : ℕ} {text : List (Char × Option ℕ)}

theorem trace_getElem? (message : Text) (i : ℕ) :
    (trace message)[i]? = message[i]?.map fun c => (c, some i) := by
  rw [trace, List.getElem?_map, List.getElem?_zipIdx, Option.map_map]
  simp [Function.comp_def]

theorem map_fst_trace (message : Text) : (trace message).map Prod.fst = message := by
  rw [trace, List.map_map]
  exact List.zipIdx_map_fst 0 message

theorem nodup_trace (message : Text) : ((trace message).filterMap Prod.snd).Nodup := by
  have hplaces : (trace message).filterMap Prod.snd = List.range message.length := by
    rw [trace, List.filterMap_map]
    change message.zipIdx.filterMap (some ∘ Prod.snd) = _
    rw [List.filterMap_eq_map, List.zipIdx_map_snd, List.range_eq_range']
  rw [hplaces]
  exact List.nodup_range

/-- A place occurs only once in a text that has every place at most once. -/
theorem eq_of_place {a b k : ℕ} {e e' : Char × Option ℕ} (hnodup : (text.filterMap Prod.snd).Nodup)
    (ha : text[a]? = some e) (hb : text[b]? = some e') (he : e.2 = some k) (he' : e'.2 = some k) :
    a = b := by
  have hpairs := List.pairwise_iff_getElem.1 (List.pairwise_filterMap.1 hnodup)
  rcases List.getElem?_eq_some_iff.1 ha with ⟨hla, rfl⟩
  rcases List.getElem?_eq_some_iff.1 hb with ⟨hlb, rfl⟩
  rcases lt_trichotomy a b with hlt | heq | hgt
  · exact absurd rfl (hpairs a b hla hlb hlt k he k he')
  · exact heq
  · exact absurd rfl (hpairs b a hlb hla hgt k he' k he)

theorem lt_of_occursAt (hne : secret ≠ []) (h : OccursAt secret message i) :
    i < message.length := by
  have hle := h.length_le
  have hpos := List.length_pos_of_ne_nil hne
  rw [List.length_drop] at hle
  omega

theorem stretch_getElem? (h : OccursAt secret message i) {a : ℕ} (ha : a < secret.length) :
    ∃ c, (stretch secret message i)[a]? = some (c, some (i + a)) := by
  have hle := h.length_le
  rw [List.length_drop] at hle
  refine ⟨message[i + a], ?_⟩
  rw [stretch, List.getElem?_take_of_lt ha, List.getElem?_drop, trace_getElem?,
    List.getElem?_eq_getElem (by omega), Option.map_some]

theorem length_stretch (h : OccursAt secret message i) :
    (stretch secret message i).length = secret.length := by
  have hle := h.length_le
  rw [List.length_drop] at hle
  rw [stretch, List.length_take, List.length_drop, trace, List.length_map, List.length_zipIdx]
  omega

/-- The occurrences in the traced message are the stretches. -/
theorem exists_stretch {m : List (Char × Option ℕ)} (hm : m <:+: trace message)
    (hkey : m.map Prod.fst = secret) :
    ∃ i, OccursAt secret message i ∧ m = stretch secret message i := by
  rcases hm with ⟨p, q, hm⟩
  have hdrop : (trace message).drop p.length = m ++ q := by
    rw [← hm, List.append_assoc, List.drop_left]
  refine ⟨p.length, ?_, ?_⟩
  · have hletters := congrArg (List.map Prod.fst) hdrop
    rw [List.map_drop, map_fst_trace, List.map_append, hkey] at hletters
    rw [OccursAt, hletters]
    exact List.prefix_append secret _
  · rw [stretch, hdrop, ← hkey, List.length_map, List.take_left]

end Traces

/-! ## No remainder of an occurrence -/

/-- The occurrences of the secret in the text are occurrences in the message. -/
def Genuine (secret message : Text) (text : List (Char × Option ℕ)) : Prop :=
  ∀ m, m <:+: text → m.map Prod.fst = secret → m <:+: trace message

/-- The stretch is in the text as it was, or no character of it is. -/
def WholeOrGone (o text : List (Char × Option ℕ)) : Prop :=
  o <:+: text ∨ ∀ e ∈ o, e ∉ text

section Remainders

variable {knownSecrets : List Text} {first secret message : Text} {i j : ℕ}
  {text : List (Char × Option ℕ)} {e : Char × Option ℕ}

theorem place_of_mem_trace (h : e ∈ trace message) :
    ∃ k, e.2 = some k ∧ (trace message)[k]? = some e := by
  rcases List.mem_iff_getElem?.1 h with ⟨k, hk⟩
  have hplace := hk
  rw [trace_getElem?] at hplace
  rcases Option.map_eq_some_iff.1 hplace with ⟨c, -, rfl⟩
  exact ⟨k, rfl, hk⟩

theorem place_of_mem_stretch (h : e ∈ stretch secret message i) : ∃ k, e.2 = some k :=
  (place_of_mem_trace (List.mem_of_mem_drop (List.mem_of_mem_take h))).imp fun _ hk => hk.1

theorem not_mem_inserted {k : ℕ} (he : e.2 = some k) (word : Text) :
    e ∉ word.map Lettering.traced.ofChar := by
  intro hmem
  rcases List.mem_map.1 hmem with ⟨c, -, rfl⟩
  cases he

theorem nodup_replaceSecret (hne : first ≠ []) (h : (text.filterMap Prod.snd).Nodup) :
    ((Lettering.traced.replaceSecret first text).filterMap Prod.snd).Nodup := by
  refine (Replacing.filterMap_substitute_sublist ?_ text).nodup h
  intro rest r n hfound
  rcases Replacing.replaceRule_eq_some hfound with ⟨-, rfl, rfl⟩
  have hinserted : (redactedWord.map Lettering.traced.ofChar).filterMap Prod.snd = [] := by
    decide
  rw [hinserted]
  exact ⟨List.length_pos_of_ne_nil hne, List.nil_sublist _⟩

theorem Genuine.replaceSecret (hmeets : ¬Replacing.Meets secret redactedWord)
    (h : Genuine secret message text) :
    Genuine secret message (Lettering.traced.replaceSecret first text) := by
  intro m hm hkey
  refine h m (Lettering.infix_of_infix_replaceSecret (L := Lettering.traced) ?_ hm) hkey
  change ¬Replacing.Meets (m.map Prod.fst) redactedWord
  rwa [hkey]

/-- A match of the first secret in the text misses an occurrence of the other or covers it, as their
occurrences in the message do. -/
theorem missesOrCovers {x y : List (Char × Option ℕ)} (hne : secret ≠ []) (hfirstNe : first ≠ [])
    (hnodup : ((x ++ stretch secret message j ++ y).filterMap Prod.snd).Nodup)
    (hgenuine : Genuine first message (x ++ stretch secret message j ++ y))
    (hcovers : CoversOverlaps message first secret) (hoccurs : OccursAt secret message j) :
    Replacing.MissesOrCovers Prod.fst first x (stretch secret message j) y := by
  intro p hp hmatch
  have hpos := List.length_pos_of_ne_nil hne
  have hfirstPos := List.length_pos_of_ne_nil hfirstNe
  have hlength := length_stretch hoccurs
  generalize htext : x ++ stretch secret message j ++ y = text at hnodup hgenuine hp hmatch
  have hkey : ((text.drop p).take first.length).map Prod.fst = first := by
    rw [List.map_take]
    exact (List.prefix_iff_eq_take.1 hmatch).symm
  have hstretch : (text.drop p).take first.length <:+: text :=
    (List.take_prefix _ _).isInfix.trans (List.drop_suffix p text).isInfix
  rcases exists_stretch (hgenuine _ hstretch hkey) hkey with ⟨i, hfirst, hm⟩
  have hfirstAt : ∀ a < first.length, ∃ c, text[p + a]? = some (c, some (i + a)) := by
    intro a ha
    rcases stretch_getElem? hfirst ha with ⟨c, hc⟩
    rw [← hm, List.getElem?_take_of_lt ha, List.getElem?_drop] at hc
    exact ⟨c, hc⟩
  have hsecretAt : ∀ b < secret.length, ∃ c, text[x.length + b]? = some (c, some (j + b)) := by
    intro b hb
    rcases stretch_getElem? hoccurs hb with ⟨c, hc⟩
    refine ⟨c, ?_⟩
    rw [← htext, List.append_assoc, List.getElem?_append_right (Nat.le_add_right _ _),
      Nat.add_sub_cancel_left, List.getElem?_append_left (by omega), hc]
  rw [hlength]
  by_cases hleft : p + first.length ≤ x.length
  · exact Or.inl hleft
  by_cases hright : x.length + secret.length ≤ p
  · exact Or.inr (Or.inl hright)
  right
  right
  -- both have the place at the later of their starts
  have hshared : i + (max p x.length - p) = j + (max p x.length - x.length) := by
    rcases hfirstAt (max p x.length - p) (by omega) with ⟨c, hc⟩
    rcases hsecretAt (max p x.length - x.length) (by omega) with ⟨c', hc'⟩
    rw [show p + (max p x.length - p) = x.length + (max p x.length - x.length) by omega, hc'] at hc
    exact Option.some.inj (Prod.mk.inj (Option.some.inj hc)).2.symm
  rcases hcovers i (lt_of_occursAt hfirstNe hfirst) j
    (lt_of_occursAt hne hoccurs) ⟨hfirst, hoccurs, by omega, by omega⟩ with ⟨hle, hge⟩
  rcases hfirstAt (j - i) (by omega) with ⟨c, hc⟩
  rcases hsecretAt 0 hpos with ⟨c', hc'⟩
  have hplace := eq_of_place hnodup hc hc' (k := j) (by simp only; rw [Nat.add_sub_cancel' hle]) rfl
  omega

theorem WholeOrGone.replaceSecret (hne : secret ≠ []) (hfirstNe : first ≠ [])
    (hnodup : (text.filterMap Prod.snd).Nodup) (hgenuine : Genuine first message text)
    (hcovers : CoversOverlaps message first secret) (hoccurs : OccursAt secret message j)
    (h : WholeOrGone (stretch secret message j) text) :
    WholeOrGone (stretch secret message j) (Lettering.traced.replaceSecret first text) := by
  rcases h with ⟨x, y, rfl⟩ | hgone
  · have hstretchNe : stretch secret message j ≠ [] := by
      intro hnil
      have hlength := length_stretch hoccurs
      rw [hnil] at hlength
      exact hne (List.length_eq_zero_iff.1 hlength.symm)
    refine (Replacing.whole_or_gone hstretchNe hfirstNe
      (missesOrCovers hne hfirstNe hnodup hgenuine hcovers hoccurs)).imp_right ?_
    intro hgone e he hmem
    rcases place_of_mem_stretch he with ⟨k, hk⟩
    rcases List.mem_iff_getElem?.1 he with ⟨b, hb⟩
    have hlt := (List.getElem?_eq_some_iff.1 hb).1
    have hhere : (x ++ stretch secret message j ++ y)[x.length + b]? = some e := by
      rw [List.append_assoc, List.getElem?_append_right (Nat.le_add_right _ _),
        Nat.add_sub_cancel_left, List.getElem?_append_left hlt, hb]
    rcases hgone e hmem with hr | hx | hy
    · exact not_mem_inserted hk redactedWord hr
    · rcases List.mem_iff_getElem?.1 hx with ⟨a, ha⟩
      have hlta := (List.getElem?_eq_some_iff.1 ha).1
      have hthere : (x ++ stretch secret message j ++ y)[a]? = some e := by
        rw [List.append_assoc, List.getElem?_append_left hlta, ha]
      have := eq_of_place hnodup hhere hthere hk hk
      omega
    · rcases List.mem_iff_getElem?.1 hy with ⟨a, ha⟩
      have hthere : (x ++ stretch secret message j ++ y)[(x ++ stretch secret message j).length +
          a]? = some e := by
        rw [List.getElem?_append_right (Nat.le_add_right _ _), Nat.add_sub_cancel_left, ha]
      have := eq_of_place hnodup hhere hthere hk hk
      rw [List.length_append] at this
      omega
  · refine Or.inr fun e he hmem => ?_
    rcases place_of_mem_stretch he with ⟨k, hk⟩
    rcases Replacing.mem_replace hmem with hr | htext
    · exact not_mem_inserted hk redactedWord hr
    · exact hgone e he htext

/-- Nothing that is inserted completes a secret, and where occurrences of two secrets overlap, the
one that is replaced first covers the other. -/
structure Redactable (knownSecrets : List Text) (message : Text) : Prop where
  incompletable : ∀ secret ∈ knownSecrets, Incompletable secret
  ordered : knownSecrets.Pairwise fun first second => first ≠ second →
    CoversOverlaps message first second

/-- What has a place after the loop over the secrets had it before. -/
theorem mem_of_mem_replaceSecrets {k : ℕ} (he : e.2 = some k)
    (h : e ∈ Lettering.traced.replaceSecrets knownSecrets text) : e ∈ text := by
  induction knownSecrets generalizing text with
  | nil => exact h
  | cons first rest ih =>
      have hrest := ih h
      simp only at hrest
      split at hrest
      · exact hrest
      · exact (Replacing.mem_replace hrest).resolve_left (not_mem_inserted he redactedWord)

theorem mem_of_mem_subSecretPattern {k : ℕ} (he : e.2 = some k)
    (h : e ∈ Lettering.traced.subSecretPattern text) : e ∈ text := by
  refine (Replacing.mem_substitute (P := fun e => e.2 = none) ?_ h).resolve_left (by simp [he])
  intro rest r n hfound e' he'
  rcases Lettering.patternRule_eq_some hfound with ⟨group, -, -, -, rfl⟩
  rcases List.mem_append.1 he' with hkept | hinserted
  · exact Or.inr (List.mem_of_mem_take hkept)
  · rcases List.mem_map.1 hinserted with ⟨c, -, rfl⟩
    exact Or.inl rfl

theorem mem_of_mem_redact {k : ℕ} (he : e.2 = some k)
    (h : e ∈ Lettering.traced.redact knownSecrets text) : e ∈ text :=
  mem_of_mem_replaceSecrets he (mem_of_mem_subSecretPattern he h)

/-- The replacements of secrets that cover what they overlap leave an occurrence whole, or nothing of
it. -/
theorem WholeOrGone.replaceSecrets (hne : secret ≠ [])
    (hknown : ∀ first ∈ knownSecrets, first ≠ [] ∧ Incompletable first ∧
      CoversOverlaps message first secret)
    (hoccurs : OccursAt secret message j) (hnodup : (text.filterMap Prod.snd).Nodup)
    (hgenuine : ∀ first ∈ knownSecrets, Genuine first message text)
    (h : WholeOrGone (stretch secret message j) text) :
    WholeOrGone (stretch secret message j)
      (Lettering.traced.replaceSecrets knownSecrets text) := by
  induction knownSecrets generalizing text with
  | nil => exact h
  | cons first rest ih =>
      rcases hknown first List.mem_cons_self with ⟨hfirstNe, -, hcovers⟩
      have hrest : ∀ s ∈ rest, s ∈ first :: rest := fun s hs => List.mem_cons_of_mem first hs
      rw [Lettering.replaceSecrets_cons hfirstNe]
      refine ih (fun s hs => hknown s (hrest s hs)) (nodup_replaceSecret hfirstNe hnodup) ?_ ?_
      · intro s hs
        exact (hgenuine s (hrest s hs)).replaceSecret (hknown s (hrest s hs)).2.1.word
      · exact h.replaceSecret hne hfirstNe hnodup (hgenuine first List.mem_cons_self) hcovers hoccurs

/-- An occurrence of the secret at `j` has lost a character to the secrets that are replaced
earlier. -/
def CutBefore (earlier : List Text) (secret message : Text) (j : ℕ) : Prop :=
  ∃ e ∈ stretch secret message j, e ∉ Lettering.traced.replaceSecrets earlier (trace message)

/-- Nothing is left of an occurrence that an earlier replacement has cut. -/
theorem gone_of_cutBefore {earlier later : List Text}
    (hne : ∀ s ∈ earlier ++ secret :: later, s ≠ [])
    (hredactable : Redactable (earlier ++ secret :: later) message) (hnew : secret ∉ earlier)
    (hoccurs : OccursAt secret message j) (hcut : CutBefore earlier secret message j) :
    ∀ e ∈ stretch secret message j,
      e ∉ Lettering.traced.redact (earlier ++ secret :: later) (trace message) := by
  have hordered := (List.pairwise_append.1 hredactable.ordered).2.2
  have hwhole : WholeOrGone (stretch secret message j)
      (Lettering.traced.replaceSecrets earlier (trace message)) := by
    refine WholeOrGone.replaceSecrets (hne secret (by simp)) ?_ hoccurs (nodup_trace message)
      (fun _ _ m hm _ => hm)
      (Or.inl ((List.take_prefix _ _).isInfix.trans (List.drop_suffix j _).isInfix))
    intro first hfirst
    refine ⟨hne first (by simp [hfirst]), hredactable.incompletable first (by simp [hfirst]), ?_⟩
    exact hordered first hfirst secret List.mem_cons_self fun heq => hnew (heq ▸ hfirst)
  have hgone := hwhole.resolve_left fun hstretch => by
    rcases hcut with ⟨e, he, hlost⟩
    exact hlost (hstretch.subset he)
  intro e he hmem
  rcases place_of_mem_stretch he with ⟨k, hk⟩
  have hloop := mem_of_mem_subSecretPattern hk hmem
  rw [Lettering.replaceSecrets, List.foldl_append] at hloop
  exact hgone e he (mem_of_mem_replaceSecrets hk hloop)

end Remainders

end TradingAgent
