import TimeCapsule.Login.Session

/-!
# Token reissue, and tokens in pairs

`AuthenticationManager` and the `MessagingDelegate` of the app next to the session. The two tokens
are separate entries of a keychain that holds a third one, and five handlers write them.
`refreshHandler_inv` and `Session.step_inv` say what a handler can do to the pair; `Paired` is the
invariant, and `tokens_paired` follows it along every run.
-/

namespace TimeCapsule.Login
open Foundation

/-- The parameters of `/auth/reissue`. -/
structure RefreshRequest where
  accessToken : String
  refreshToken : String
deriving DecidableEq, Repr

/-- What the handler reads of a `RefreshResponse`, which no source declares. -/
structure RefreshResult where
  accessToken : Option String
  refreshToken : Option String
deriving DecidableEq, Repr

abbrev RefreshResponse := Response (Option RefreshResult)

/-- The session, with the reissues whose handler has not run and what their completions were called
with, latest first. -/
structure Authentication where
  session : Session
  reissues : Wire RefreshRequest (AFResult RefreshResponse) := []
  completions : List Bool := []

inductive AuthenticationEvent where
  | session (e : SessionEvent)
  | refreshAccessToken
  | reissue (traffic : Traffic (AFResult RefreshResponse))
  | didReceiveRegistrationToken (fcmToken : Option String)
deriving DecidableEq, Repr

namespace Authentication

/-- The keychain, which the session shares. -/
def keychain (a : Authentication) : Keychain := a.session.keychain

def setKeychain (a : Authentication) (keychain : Keychain) : Authentication :=
  { a with session := { a.session with keychain } }

/-- Call the completion of a reissue. -/
def completion (a : Authentication) (success : Bool) : Authentication :=
  { a with completions := success :: a.completions }

/-- `AuthenticationManager.refreshAccessToken`. -/
def refreshAccessToken (a : Authentication) : Authentication :=
  match a.keychain.load .accessToken with
  | none => a.completion false
  | some accessToken =>
    match a.keychain.load .refreshToken with
    | none => a.completion false
    | some refreshToken => { a with reissues := a.reissues.send { accessToken, refreshToken } }

def handleTokenBlacklist (a : Authentication) : Authentication :=
  a.setKeychain ((a.keychain.delete .accessToken).delete .refreshToken)

/-- The tokens that an answer brings, if it brings both. -/
def newTokens (response : RefreshResponse) : Option LoginResult := do
  let accessToken ← response.result.bind (·.accessToken)
  let refreshToken ← response.result.bind (·.refreshToken)
  some { accessToken, refreshToken }

/-- The response handler of `refreshAccessToken`. -/
def refreshHandler (a : Authentication) : AFResult RefreshResponse → Authentication
  | .success response =>
    if response.isSuccess then
      let a := a.handleTokenBlacklist
      match newTokens response with
      | some new =>
        let keychain := a.keychain.save new.accessToken .accessToken
        let keychain := keychain.save new.refreshToken .refreshToken
        (a.setKeychain keychain).completion true
      | none => a.completion false
    else
      a.completion false
  | .failure => a.completion false

/-- `AppDelegate.messaging(_:didReceiveRegistrationToken:)`. -/
def didReceiveRegistrationToken (a : Authentication) : Option String → Authentication
  | some fcmToken => a.setKeychain (a.keychain.save fcmToken .fcmToken)
  | none => a

def step (a : Authentication) : AuthenticationEvent → Option Authentication
  | .session e => (a.session.step e).map fun session => { a with session }
  | .refreshAccessToken => some a.refreshAccessToken
  | .reissue traffic =>
    let (reissues, delivered) := a.reissues.step traffic
    match delivered with
    | some (_, result) => some ({ a with reissues }.refreshHandler result)
    | none => some { a with reissues }
  | .didReceiveRegistrationToken fcmToken => some (a.didReceiveRegistrationToken fcmToken)

/-- The tokens of the answer that is handled at this step, if its handler stores them. -/
def issued (a : Authentication) : AuthenticationEvent → Option LoginResult
  | .session e => a.session.loggedIn e
  | .reissue traffic => do
    let (_, result) ← (a.reissues.step traffic).2
    let response ← result.accepted
    newTokens response
  | _ => none

/-- The history notes the tokens of the answers that were stored. -/
def noteIssued (a : Authentication) (e : AuthenticationEvent) (issues : List LoginResult) :
    List LoginResult :=
  (a.issued e).toList ++ issues

/-- The tokens are there together, from one of the answers, and a launch that finds a refresh token
finds a session that can be logged out of: the logout button sends its request. -/
structure TokensPaired (s : Authentication × List LoginResult) : Prop where
  together : (s.1.keychain.load .accessToken).isSome ↔ (s.1.keychain.load .refreshToken).isSome
  sameAnswer : ∀ accessToken ∈ s.1.keychain.load .accessToken,
    ∀ refreshToken ∈ s.1.keychain.load .refreshToken, ⟨accessToken, refreshToken⟩ ∈ s.2
  logout : (s.1.keychain.load .refreshToken).isSome →
    ∃ token, s.1.session.logouts.sent s.1.session.logoutButtonTapped.logouts = [token]

/-- The keychain holds no token, or both of one answer. -/
def Paired (keychain : Keychain) (issues : List LoginResult) : Prop :=
  keychain.load .accessToken = none ∧ keychain.load .refreshToken = none ∨
  ∃ issue ∈ issues, keychain.load .accessToken = some issue.accessToken ∧
    keychain.load .refreshToken = some issue.refreshToken

variable {a : Authentication} {keychain : Keychain} {issues : List LoginResult}

/-! ## What the operations on the keychain do to a pair -/

/-- The pair that was saved last is a pair. -/
lemma paired_save {issue : LoginResult} (h : issue ∈ issues) :
    Paired ((keychain.save issue.accessToken .accessToken).save issue.refreshToken .refreshToken)
      issues := by
  have access : .accessToken ≠ Key.refreshToken := by decide
  refine .inr ⟨issue, h, ?_, Keychain.load_save _ _ _⟩
  rw [Keychain.load_save_ne _ access, Keychain.load_save]

/-- After both deletions there is no token. -/
lemma paired_delete : Paired ((keychain.delete .accessToken).delete .refreshToken) issues := by
  have access : .accessToken ≠ Key.refreshToken := by decide
  refine .inl ⟨?_, Keychain.load_delete _ _⟩
  rw [Keychain.load_delete_ne _ access, Keychain.load_delete]

/-- Another account does not matter to the pair. -/
lemma Paired.save_ne {key : Key} (value : String) (access : .accessToken ≠ key)
    (refresh : .refreshToken ≠ key) (h : Paired keychain issues) :
    Paired (keychain.save value key) issues := by
  rw [Paired, Keychain.load_save_ne _ access, Keychain.load_save_ne _ refresh]
  exact h

/-- A pair of the answers so far is one of the answers to come. -/
lemma Paired.more (new : List LoginResult) (h : Paired keychain issues) :
    Paired keychain (new ++ issues) := by
  obtain none | ⟨issue, mem, pair⟩ := h
  · exact .inl none
  · exact .inr ⟨issue, List.mem_append_right new mem, pair⟩

/-! ## What the handlers do to a pair -/

/-- A step of the session keeps the pair or stores a new one. -/
lemma session_paired {s t : Session} {e : SessionEvent} (h : s.step e = some t)
    (paired : Paired s.keychain issues) :
    Paired t.keychain ((s.loggedIn e).toList ++ issues) := by
  have effect := Session.step_inv h
  generalize t.keychain = after, t.root = root, t.delayed = delayed at effect ⊢
  cases effect with
  | keeps | connects | resets | transitions => exact paired.more _
  | logsIn login => exact paired_save (by simp [login])
  | signsOut => exact paired_delete

/-- A reissue leaves the keychain alone unless it was accepted; then it deletes both tokens, and
stores both if the answer brings both. -/
lemma refreshHandler_keychain (a : Authentication) (result : AFResult RefreshResponse) :
    (a.refreshHandler result).keychain = match result.accepted with
      | none => a.keychain
      | some response => match newTokens response with
        | none => (a.keychain.delete .accessToken).delete .refreshToken
        | some new => (((a.keychain.delete .accessToken).delete .refreshToken).save
            new.accessToken .accessToken).save new.refreshToken .refreshToken := by
  cases result with
  | failure => rfl
  | success response =>
    cases ok : response.isSuccess with
    | false => simp [refreshHandler, AFResult.accepted, ok, completion, keychain]
    | true =>
      simp only [refreshHandler, AFResult.accepted, ok, if_true]
      cases newTokens response <;> rfl

/-- A handled reissue keeps the pair, deletes it or stores a new one. -/
lemma refreshHandler_paired (result : AFResult RefreshResponse)
    (paired : Paired a.keychain issues) :
    Paired (a.refreshHandler result).keychain
      ((result.accepted.bind newTokens).toList ++ issues) := by
  rw [refreshHandler_keychain]
  cases accepted : result.accepted with
  | none => exact paired
  | some response =>
    simp only [Option.bind_some]
    cases newTokens response with
    | none => exact paired_delete
    | some new => exact paired_save (List.mem_cons_self ..)

/-- Every step keeps the pair, deletes it or stores a new one. -/
lemma step_paired {e : AuthenticationEvent} {b : Authentication} (h : a.step e = some b)
    (paired : Paired a.keychain issues) : Paired b.keychain (noteIssued a e issues) := by
  cases e with
  | session e =>
    obtain ⟨session, hs, rfl⟩ := Option.map_eq_some_iff.1 h
    exact session_paired hs paired
  | refreshAccessToken =>
    cases h
    unfold refreshAccessToken
    split
    · exact paired
    · split <;> exact paired
  | reissue traffic =>
    cases hd : (a.reissues.step traffic).2 with
    | none =>
      simp only [step, hd] at h
      cases h
      exact paired.more _
    | some d =>
      simp only [step, hd] at h
      cases h
      have note : noteIssued a (.reissue traffic) issues =
          (d.2.accepted.bind newTokens).toList ++ issues := by simp [noteIssued, issued, hd]
      rw [note]
      exact refreshHandler_paired d.2 paired
  | didReceiveRegistrationToken fcmToken =>
    cases h
    cases fcmToken with
    | none => exact paired
    | some token => exact paired.save_ne token (by decide) (by decide)

/-- Every recorded step keeps the invariant. -/
lemma record_paired (s : Authentication × List LoginResult) (e : AuthenticationEvent)
    (paired : Paired s.1.keychain s.2) :
    Run.After (Run.record step noteIssued) (fun s => Paired s.1.keychain s.2) s e := by
  intro t ht
  obtain ⟨taken, noted⟩ := Run.mem_record.1 ht
  rw [noted]
  exact step_paired taken paired

/-- What the invariant gives. -/
lemma Paired.tokensPaired {s : Authentication × List LoginResult}
    (h : Paired s.1.keychain s.2) : TokensPaired s := by
  obtain ⟨access, refresh⟩ | ⟨issue, mem, access, refresh⟩ := h
  · refine ⟨by rw [access, refresh], fun _ h => ?_, fun h => ?_⟩
    · rw [access] at h
      cases h
    · rw [refresh] at h
      cases h
  · refine ⟨by rw [access, refresh]; rfl, fun _ ha _ hr => ?_, fun _ => ⟨issue.accessToken, ?_⟩⟩
    · rw [access] at ha
      rw [refresh] at hr
      cases ha
      cases hr
      exact mem
    · have found : s.1.session.keychain.load .accessToken = some issue.accessToken := access
      simp [Session.logoutButtonTapped, found]

/-- From a keychain without tokens, the tokens are there together and from one answer in every state
of every run. -/
theorem tokens_paired (a : Authentication) (access : a.keychain.load .accessToken = none)
    (refresh : a.keychain.load .refreshToken = none) (es : List AuthenticationEvent) :
    Run.Always (Run.record step noteIssued) TokensPaired (a, []) es :=
  (Run.always_of_keeps record_paired (.inl ⟨access, refresh⟩) es).mono
    fun _ => Paired.tokensPaired

/-- A Kakao login, a reissue that replaces its tokens while a push token comes in, and a reissue
whose answer brings only one token. -/
theorem tokens_paired_reissue :
    Run.Always (Run.record step noteIssued) TokensPaired
      (⟨.launch ∅, [], []⟩, [])
      [.session (.kakaoLogin "a@b.com" "a"),
        .session (.login (.reply 0 (.success ⟨true, "200", "OK", some ⟨"a", "r"⟩⟩))),
        .session (.login (.deliver 0)), .refreshAccessToken, .refreshAccessToken,
        .reissue (.reply 0 (.success ⟨true, "200", "OK", some ⟨some "b", some "s"⟩⟩)),
        .reissue (.deliver 0), .didReceiveRegistrationToken (some "push"),
        .reissue (.reply 0 (.success ⟨true, "200", "OK", some ⟨some "c", none⟩⟩)),
        .reissue (.deliver 0)] :=
  tokens_paired _ rfl rfl _

end Authentication

end TimeCapsule.Login
