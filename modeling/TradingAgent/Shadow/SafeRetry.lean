import TradingAgent.Shadow.Outbox

/-!
# Safe retry — what one `send_message` call has posted

`send_message` takes a `ConnectionError` for a failure before the request reached the wire and posts
again. A connection dropped after the request was written is reported the same way.

* `Transport` is what the network did with a POST, `Transport.reported` what `requests` makes of it;
* `PostsEnd` is every way the loop can end, for every budget of retries;
* `safely_retried_iff` says for which transports a call is safe.
-/

namespace TradingAgent

/-! ## The network -/

/-- What became of one POST. -/
inductive Transport where
  | response (statusCode : ℤ) (accepted : Option Bool) (text : String)
  | readTimeout (text : String)
  /-- DNS failure, refusal or connect timeout: nothing was written. -/
  | neverConnected (text : String)
  /-- The connection was dropped after the request was written. -/
  | droppedAfterSend (text : String)
  | otherError (text : String)
  deriving DecidableEq, Repr

namespace Transport

/-- How `requests` reports it. -/
def reported : Transport → PostOutcome
  | .response statusCode accepted text => .response statusCode accepted text
  | .readTimeout text => .readTimeout text
  | .neverConnected text => .connectionError text
  | .droppedAfterSend text => .connectionError text
  | .otherError text => .requestError text

/-- The request may have reached Telegram. -/
def mayHaveReached : Transport → Bool
  | .neverConnected _ => false
  | _ => true

/-- Telegram is known not to have delivered the message: the request was never written, or its answer
is any other than a confirmed one. -/
def knownUndelivered : Transport → Bool
  | .response statusCode accepted _ => !(decide (statusCode = 200) && decide (accepted = some true))
  | .neverConnected _ => true
  | _ => false

def dropped : Transport → Bool
  | .droppedAfterSend _ => true
  | _ => false

end Transport

/-- `send_message` with its retry budget. -/
def sendMessageWith (botToken : String) (posts : ℕ → PostOutcome) (maxSafeRetries : ℤ) :
    SendResult :=
  sendAttempts botToken posts maxSafeRetries.toNat 0 none

theorem sendMessageWith_default (botToken : String) (posts : ℕ → PostOutcome) :
    sendMessageWith botToken posts defaultMaxSafeRetries = sendMessage botToken posts := rfl

/-! ## How the loop ends -/

namespace PostOutcome

def isConnectionError : PostOutcome → Bool
  | .connectionError _ => true
  | _ => false

/-- What an outcome that ends the loop is classified as. -/
def decision : PostOutcome → SendOutcome
  | .response statusCode accepted _ =>
      if statusCode = 200 ∧ accepted = some true then .sent else .failed
  | _ => .ambiguous

end PostOutcome

section Loop

variable {botToken : String} {posts : ℕ → PostOutcome} {left attempt : ℕ}

/-- The POSTs the loop makes, in order. -/
def postsMade (posts : ℕ → PostOutcome) : (left attempt : ℕ) → List PostOutcome
  | 0, _ => []
  | left + 1, attempt =>
      match posts attempt with
      | .connectionError text => .connectionError text :: postsMade posts left (attempt + 1)
      | last => [last]

/-- How the loop ends: every POST was a connection failure, or the first other outcome decides. -/
inductive PostsEnd (posts : ℕ → PostOutcome) (left attempt : ℕ) : SendResult → Prop
  | exhausted (error : Option String) :
      (∀ j < left, (posts (attempt + j)).isConnectionError = true) →
      PostsEnd posts left attempt ⟨.failed, attempt + left, error⟩
  | decided (k : ℕ) (error : Option String) : k < left →
      (∀ j < k, (posts (attempt + j)).isConnectionError = true) →
      (posts (attempt + k)).isConnectionError = false →
      PostsEnd posts left attempt ⟨(posts (attempt + k)).decision, attempt + k + 1, error⟩

theorem classifyResponse_eq (botToken : String) (statusCode : ℤ) (accepted : Option Bool)
    (text : String) (n : ℕ) :
    ∃ error, classifyResponse botToken statusCode accepted text n =
      ⟨(PostOutcome.response statusCode accepted text).decision, n, error⟩ := by
  by_cases hstatus : statusCode = 200
  · rcases accepted with _ | _ | _ <;> simp [classifyResponse, PostOutcome.decision, hstatus]
  · simp [classifyResponse, PostOutcome.decision, hstatus]

/-- A connection failure puts one more POST in front of the rest of the loop. -/
theorem PostsEnd.retried {result : SendResult}
    (hfirst : (posts attempt).isConnectionError = true)
    (h : PostsEnd posts left (attempt + 1) result) : PostsEnd posts (left + 1) attempt result := by
  have hshift : ∀ j, attempt + 1 + j = attempt + (j + 1) := fun j => by omega
  cases h with
  | exhausted error hall =>
      rw [hshift]
      refine .exhausted error ?_
      intro j hj
      cases j with
      | zero => exact hfirst
      | succ j =>
          rw [← hshift]
          exact hall j (by omega)
  | decided k error hk hbefore hlast =>
      rw [hshift] at hlast ⊢
      refine .decided (k + 1) error (by omega) ?_ hlast
      intro j hj
      cases j with
      | zero => exact hfirst
      | succ j =>
          rw [← hshift]
          exact hbefore j (by omega)

/-- Any other outcome ends the loop. -/
theorem PostsEnd.first {post : PostOutcome} (hpost : posts attempt = post)
    (hends : post.isConnectionError = false) (error : Option String) :
    PostsEnd posts (left + 1) attempt ⟨post.decision, attempt + 1, error⟩ := by
  subst hpost
  exact .decided 0 error (Nat.succ_pos left) (fun j hj => absurd hj (Nat.not_lt_zero j)) hends

theorem sendAttempts_postsEnd (left attempt : ℕ) (lastSafeError : Option String) :
    PostsEnd posts left attempt (sendAttempts botToken posts left attempt lastSafeError) := by
  induction left generalizing attempt lastSafeError with
  | zero => exact .exhausted _ (fun j hj => absurd hj (Nat.not_lt_zero j))
  | succ left ih =>
      simp only [sendAttempts]
      cases hpost : posts attempt with
      | connectionError text => exact (ih (attempt + 1) _).retried (by rw [hpost]; rfl)
      | readTimeout text => exact .first hpost rfl _
      | requestError text => exact .first hpost rfl _
      | response statusCode accepted text =>
          rcases classifyResponse_eq botToken statusCode accepted text (attempt + 1)
            with ⟨error, herror⟩
          dsimp only
          rw [herror]
          exact .first hpost rfl error

/-- The attempts a result counts are the POSTs that were made. -/
theorem sendAttempts_attempts (left attempt : ℕ) (lastSafeError : Option String) :
    (sendAttempts botToken posts left attempt lastSafeError).attempts =
      attempt + (postsMade posts left attempt).length := by
  induction left generalizing attempt lastSafeError with
  | zero => rfl
  | succ left ih =>
      simp only [sendAttempts, postsMade]
      cases hpost : posts attempt with
      | connectionError text =>
          rw [ih, List.length_cons]
          omega
      | readTimeout text => rfl
      | requestError text => rfl
      | response statusCode accepted text =>
          rcases classifyResponse_eq botToken statusCode accepted text (attempt + 1)
            with ⟨error, herror⟩
          dsimp only
          rw [herror]
          rfl

theorem sendMessageWith_attempts (botToken : String) (posts : ℕ → PostOutcome)
    (maxSafeRetries : ℤ) : (sendMessageWith botToken posts maxSafeRetries).attempts =
      (postsMade posts maxSafeRetries.toNat 0).length :=
  (sendAttempts_attempts _ _ _).trans (Nat.zero_add _)

end Loop

/-! ## Safe calls -/

/-- A call is safe: a POST that may have reached Telegram is its last, and it reports a failure only
when Telegram is known to have delivered none of its POSTs. -/
structure SafelyRetried (botToken : String) (maxSafeRetries : ℤ) (transport : ℕ → Transport) :
    Prop where
  lastPost : ∀ i,
    i + 1 < (postsMade (fun i => (transport i).reported) maxSafeRetries.toNat 0).length →
      (transport i).mayHaveReached = false
  failure : (sendMessageWith botToken (fun i => (transport i).reported) maxSafeRetries).outcome =
      .failed →
    ∀ i < (postsMade (fun i => (transport i).reported) maxSafeRetries.toNat 0).length,
      (transport i).knownUndelivered = true

/-- The first POST, among those the budget allows, that does connect is not dropped after it was
written. -/
def NeverDropped (maxSafeRetries : ℤ) (transport : ℕ → Transport) : Prop :=
  ∀ i < maxSafeRetries.toNat, (∀ j < i, (transport j).mayHaveReached = false) →
    (transport i).dropped = false

section Safe

variable {botToken : String} {maxSafeRetries : ℤ} {transport : ℕ → Transport}

namespace Transport

variable {t : Transport}

/-- Without a drop a connection failure is one before the request was written. -/
theorem not_mayHaveReached (herror : t.reported.isConnectionError = true)
    (hdropped : t.dropped = false) : t.mayHaveReached = false := by
  cases t <;> simp_all [reported, PostOutcome.isConnectionError, mayHaveReached, dropped]

theorem reported_of_not_mayHaveReached (h : t.mayHaveReached = false) :
    t.reported.isConnectionError = true ∧ t.knownUndelivered = true := by
  cases t <;> simp_all [reported, PostOutcome.isConnectionError, mayHaveReached, knownUndelivered]

theorem of_dropped (h : t.dropped = true) :
    t.reported.isConnectionError = true ∧ t.mayHaveReached = true ∧ t.knownUndelivered = false := by
  cases t <;>
    simp_all [reported, PostOutcome.isConnectionError, mayHaveReached, knownUndelivered, dropped]

/-- A classified failure is a definitive answer. -/
theorem knownUndelivered_of_failed (h : t.reported.decision = .failed) :
    t.knownUndelivered = true := by
  cases t with
  | response statusCode accepted text =>
      simp only [reported, PostOutcome.decision] at h
      simp only [knownUndelivered, Bool.not_eq_true', Bool.and_eq_false_iff, decide_eq_false_iff_not]
      by_cases hsent : statusCode = 200 ∧ accepted = some true
      · rw [if_pos hsent] at h
        cases h
      · exact not_and_or.1 hsent
  | readTimeout text => cases h
  | neverConnected text => rfl
  | droppedAfterSend text => cases h
  | otherError text => cases h

end Transport

/-- As long as every POST is a connection failure, none of them has reached Telegram. -/
theorem NeverDropped.not_reached (h : NeverDropped maxSafeRetries transport) {n : ℕ}
    (hn : n ≤ maxSafeRetries.toNat)
    (herrors : ∀ j < n, (transport j).reported.isConnectionError = true) :
    ∀ j < n, (transport j).mayHaveReached = false := by
  intro j
  induction j using Nat.strong_induction_on with
  | _ j ih =>
      intro hj
      have hbefore : ∀ i < j, (transport i).mayHaveReached = false :=
        fun i hi => ih i hi (by omega)
      exact Transport.not_mayHaveReached (herrors j hj) (h j (by omega) hbefore)

theorem safelyRetried (h : NeverDropped maxSafeRetries transport) :
    SafelyRetried botToken maxSafeRetries transport := by
  have hend : PostsEnd (fun i => (transport i).reported) maxSafeRetries.toNat 0
      (sendMessageWith botToken (fun i => (transport i).reported) maxSafeRetries) :=
    sendAttempts_postsEnd _ _ _
  have hattempts := sendMessageWith_attempts botToken (fun i => (transport i).reported)
    maxSafeRetries
  cases hrun : sendMessageWith botToken (fun i => (transport i).reported) maxSafeRetries with
  | mk outcome attempts error =>
      rw [hrun] at hend hattempts
      cases hend with
      | exhausted _ herrors =>
          simp only [Nat.zero_add] at herrors hattempts
          have hnone := h.not_reached le_rfl herrors
          constructor
          · intro i hi
            exact hnone i (by omega)
          · intro _ i hi
            exact (Transport.reported_of_not_mayHaveReached (hnone i (by omega))).2
      | decided k _ hk herrors hlast =>
          simp only [Nat.zero_add] at herrors hattempts hlast
          have hnone := h.not_reached hk.le herrors
          constructor
          · intro i hi
            exact hnone i (by omega)
          · intro hfailed i hi
            rw [hrun, Nat.zero_add] at hfailed
            rcases Nat.lt_succ_iff_lt_or_eq.1 (hattempts ▸ hi) with hbefore | rfl
            · exact (Transport.reported_of_not_mayHaveReached (hnone i hbefore)).2
            · exact Transport.knownUndelivered_of_failed hfailed

end Safe

/-- A call is safe exactly when its first POST that connects is not dropped after it was written. -/
theorem safely_retried_iff (botToken : String) (maxSafeRetries : ℤ) (transport : ℕ → Transport) :
    SafelyRetried botToken maxSafeRetries transport ↔ NeverDropped maxSafeRetries transport := by
  constructor
  · intro hsafe i hi hbefore
    by_contra hdropped
    rcases Transport.of_dropped (eq_true_of_ne_false hdropped) with ⟨herror, hreached, hunknown⟩
    have hend : PostsEnd (fun i => (transport i).reported) maxSafeRetries.toNat 0
        (sendMessageWith botToken (fun i => (transport i).reported) maxSafeRetries) :=
      sendAttempts_postsEnd _ _ _
    have hattempts := sendMessageWith_attempts botToken (fun i => (transport i).reported)
      maxSafeRetries
    cases hrun : sendMessageWith botToken (fun i => (transport i).reported) maxSafeRetries with
    | mk outcome attempts error =>
        rw [hrun] at hend hattempts
        cases hend with
        | exhausted _ herrors =>
            -- the budget is used up: the call reports a failure
            simp only [Nat.zero_add] at hattempts
            have hknown := hsafe.failure (by rw [hrun]) i (by omega)
            rw [hunknown] at hknown
            cases hknown
        | decided k _ hk herrors hlast =>
            -- the dropped POST is followed by another
            simp only [Nat.zero_add] at herrors hattempts hlast
            have hlater : i < k := by
              by_contra hle
              rcases Nat.lt_or_eq_of_le (not_lt.1 hle) with hlt | rfl
              · have hknown := (Transport.reported_of_not_mayHaveReached (hbefore k hlt)).1
                rw [hlast] at hknown
                cases hknown
              · rw [hlast] at herror
                cases herror
            have hnone := hsafe.lastPost i (by omega)
            rw [hreached] at hnone
            cases hnone
  · exact safelyRetried

/-- A connection dropped after the request was written, then an accepted request: the message is
posted twice. -/
theorem dropped_request_posted_again : ¬SafelyRetried "123:token" 3 fun i =>
    if i = 0 then .droppedAfterSend "Connection aborted." else .response 200 (some true) "" := by
  intro hsafe
  have hnone := hsafe.lastPost 0 (by decide)
  cases hnone

end TradingAgent
