import TimeCapsule.Login.Authentication

/-!
# A failed reissue

One call of `refreshAccessToken` from the keychain it finds to its completion. The handler deletes
both tokens before it looks for the new ones, so an answer that reports success and does not bring
both ends the session; every other failure leaves the keychain alone (`reissue_keeps_iff`).
-/

namespace TimeCapsule.Login
open Foundation

namespace Authentication

/-- Call `refreshAccessToken`; if it sends a request, its outcome comes back and is handled. -/
def reissued (a : Authentication) (outcome : AFResult RefreshResponse) : Option Authentication :=
  Run.exec step a [.refreshAccessToken, .reissue (.reply a.reissues.length outcome),
    .reissue (.deliver a.reissues.length)]

/-- The call completes once: with `false`, and both tokens are as before; or with `true`, and they
are the two that the answer brings. -/
def KeepsSession (a : Authentication) (outcome : AFResult RefreshResponse) : Prop :=
  ∃ b, reissued a outcome = some b ∧
    (b.completions = false :: a.completions ∧
        b.keychain.load .accessToken = a.keychain.load .accessToken ∧
        b.keychain.load .refreshToken = a.keychain.load .refreshToken ∨
      b.completions = true :: a.completions ∧ ∃ new ∈ outcome.accepted.bind newTokens,
        b.keychain.load .accessToken = some new.accessToken ∧
        b.keychain.load .refreshToken = some new.refreshToken)

/-- Both tokens are there, and the answer reports success without bringing both. -/
def LosesTokens (a : Authentication) (outcome : AFResult RefreshResponse) : Prop :=
  ((a.keychain.load .accessToken).isSome ∧ (a.keychain.load .refreshToken).isSome) ∧
    ∃ response ∈ outcome.accepted, newTokens response = none

variable {a : Authentication} {outcome : AFResult RefreshResponse}

/-- The handler calls the completion once, and tells whether the answer brings both tokens. -/
lemma refreshHandler_completions (a : Authentication) (outcome : AFResult RefreshResponse) :
    (a.refreshHandler outcome).completions =
      (outcome.accepted.bind newTokens).isSome :: a.completions := by
  cases outcome with
  | failure => rfl
  | success response =>
    cases ok : response.isSuccess with
    | false => simp [refreshHandler, AFResult.accepted, ok, completion]
    | true =>
      simp only [refreshHandler, AFResult.accepted, ok, if_true, Option.bind_some]
      cases newTokens response <;> rfl

/-- Without both tokens the call fails at once. -/
lemma reissued_of_missing
    (missing : ¬ ((a.keychain.load .accessToken).isSome ∧ (a.keychain.load .refreshToken).isSome)) :
    reissued a outcome = some (a.completion false) := by
  have called : a.refreshAccessToken = a.completion false := by
    unfold refreshAccessToken
    split
    · rfl
    · next access =>
      split
      · rfl
      · next refresh => exact absurd ⟨by simp [access], by simp [refresh]⟩ missing
  obtain ⟨reply, deliver⟩ := a.reissues.step_length outcome
  simp [reissued, step, called, completion, reply, deliver]

/-- With both tokens the request is sent, and its outcome is handled. -/
lemma reissued_of_tokens
    (tokens : (a.keychain.load .accessToken).isSome ∧ (a.keychain.load .refreshToken).isSome) :
    reissued a outcome = some (a.refreshHandler outcome) := by
  obtain ⟨access, ha⟩ := Option.isSome_iff_exists.1 tokens.1
  obtain ⟨refresh, hr⟩ := Option.isSome_iff_exists.1 tokens.2
  have called : a.refreshAccessToken =
      { a with reissues := a.reissues.send ⟨access, refresh⟩ } := by
    simp [refreshAccessToken, ha, hr]
  obtain ⟨reply, deliver⟩ := a.reissues.step_send ⟨access, refresh⟩ outcome
  simp [reissued, step, called, reply, deliver]

/-- A call keeps the session just when it is not answered by a success without both tokens. -/
theorem reissue_keeps_iff (a : Authentication) (outcome : AFResult RefreshResponse) :
    a.KeepsSession outcome ↔ ¬ a.LosesTokens outcome := by
  by_cases tokens :
      (a.keychain.load .accessToken).isSome ∧ (a.keychain.load .refreshToken).isSome
  · have access : .accessToken ≠ Key.refreshToken := by decide
    have stored := a.refreshHandler_keychain outcome
    have completed := a.refreshHandler_completions outcome
    rw [KeepsSession, reissued_of_tokens tokens, LosesTokens, and_iff_right tokens]
    generalize a.refreshHandler outcome = b at stored completed ⊢
    cases accepted : outcome.accepted with
    | none =>
      simp only [accepted, Option.bind_none] at stored completed
      have kept (key : Key) : b.keychain.load key = a.keychain.load key := by rw [stored]
      exact iff_of_true ⟨b, rfl, .inl ⟨completed, kept _, kept _⟩⟩ (by simp)
    | some response =>
      cases new : newTokens response with
      | none =>
        simp only [accepted, Option.bind_some, new] at stored completed
        refine iff_of_false ?_ (not_not.2 ⟨response, rfl, new⟩)
        rintro ⟨c, hc, ⟨_, _, kept⟩ | ⟨success, _⟩⟩
        · -- the refresh token was there, and is deleted
          cases hc
          rw [stored, Keychain.load_delete] at kept
          simp [← kept] at tokens
        · cases hc
          cases completed.symm.trans success
      | some pair =>
        simp only [accepted, Option.bind_some, new] at stored completed
        have loaded : b.keychain.load .accessToken = some pair.accessToken ∧
            b.keychain.load .refreshToken = some pair.refreshToken := by
          rw [stored, Keychain.load_save_ne _ access, Keychain.load_save, Keychain.load_save]
          exact ⟨rfl, rfl⟩
        exact iff_of_true ⟨b, rfl, .inr ⟨completed, pair, new, loaded⟩⟩ (by simp [new])
  · rw [KeepsSession, reissued_of_missing tokens]
    exact iff_of_true ⟨_, rfl, .inl ⟨rfl, rfl, rfl⟩⟩ fun loses => tokens loses.1

/-- A success that brings no tokens ends the session. -/
theorem reissue_loses : ¬ ∀ (a : Authentication) (outcome : AFResult RefreshResponse),
    a.KeepsSession outcome := by
  intro h
  obtain ⟨b, called, ⟨_, _, kept⟩ | ⟨success, _⟩⟩ :=
    h ⟨.launch (((∅ : Keychain).save "a" .accessToken).save "r" .refreshToken), [], []⟩
      (.success ⟨true, "200", "OK", none⟩)
  · cases called
    revert kept
    decide
  · cases called
    cases success

end Authentication

end TimeCapsule.Login
