import TimeCapsule.App.App

/-!
# Isolation of accounts

Whose capsules the list shows. The arrays of the store outlive a session: neither logout nor login
empties them, and an answer is merged whichever session asked for it. `isolated_of_steps` proves
that these two are the only ways in which a capsule of another account gets on screen.
-/

namespace TimeCapsule
open Foundation Home Login

/-- The tokens of the current session. -/
def Login.Session.tokens (s : Session) : List String :=
  (s.keychain.load .accessToken).toList ++ (s.keychain.load .refreshToken).toList

namespace App

/-- A capsule came in an answer to a request with a token of the current session. -/
def Own (a : App) (c : TimeCapsulePreview) : Prop :=
  ∃ answer ∈ a.home.returned, answer.1 ∈ a.session.tokens ∧ c ∈ answer.2

instance (a : App) : DecidablePred a.Own := fun c =>
  inferInstanceAs (Decidable (∃ answer ∈ a.home.returned,
    answer.1 ∈ a.session.tokens ∧ c ∈ answer.2))

/-- While a user is logged in, the store holds capsules of that session only. -/
def HoldsOwn (a : App) : Prop :=
  a.session.HasToken → ∀ c ∈ a.home.store.model.original ++ a.home.store.model.filtered, a.Own c

/-- While a user is logged in and the home screen is up, its list is that user's. -/
def Isolated (a : App) : Prop := a.session.root = .home → a.HoldsOwn

instance : DecidablePred Isolated := fun a =>
  inferInstanceAs (Decidable (_ → _ → ∀ c ∈ a.home.store.model.original ++ _, a.Own c))

/-- A login finds the arrays empty, and while a token is stored no list is handed over that was
requested with a token of another session. -/
def KeepsApart (a : App) : AppEvent → Prop
  | .session e => (a.session.loggedIn e).isSome →
    a.home.store.model.original = [] ∧ a.home.store.model.filtered = []
  | .home e => a.session.HasToken →
    ∀ answer ∈ a.home.delivered e, answer.2 ≠ [] → answer.1 ∈ a.session.tokens

instance (a : App) : DecidablePred a.KeepsApart
  | .session _ => inferInstanceAs (Decidable (_ → _ ∧ _))
  | .home e => inferInstanceAs (Decidable (_ → ∀ answer ∈ a.home.delivered e, _ → _))

variable {a b : App}

/-- What two states with the same tokens and history call a user's own is the same. -/
lemma Own.congr {c : TimeCapsulePreview} (own : a.Own c)
    (tokens : a.session.tokens = b.session.tokens)
    (returned : ∀ answer ∈ a.home.returned, answer ∈ b.home.returned) : b.Own c := by
  obtain ⟨answer, mem, token, hc⟩ := own
  exact ⟨answer, returned answer mem, tokens ▸ token, hc⟩

/-- The session's part: a login is harmless over an empty store, and a logout ends the session. -/
lemma holdsOwn_session {e : SessionEvent} {session : Session} {home : HomeScreen}
    (h : a.session.step e = some session) (sends : HomeScreen.Sends session.keychain a.home home)
    (own : a.HoldsOwn) (apart : a.KeepsApart (.session e)) : HoldsOwn { session, home } := by
  intro token c hc
  rw [sends.store] at hc
  have effect := Session.step_inv h
  -- with the keychain, a step keeps the tokens of the session, and the history only grows
  have kept (same : session.keychain = a.session.keychain) : Own { session, home } c := by
    have has : a.session.HasToken := by rwa [Session.HasToken, ← same]
    have tokens : a.session.tokens = session.tokens := by simp only [Session.tokens, same]
    exact (own has c hc).congr tokens fun answer mem => sends.returned ▸ mem
  generalize e1 : session.keychain = keychain, session.root = root, session.delayed = delayed
    at effect
  cases effect with
  | keeps | connects | resets | transitions => exact kept e1
  | logsIn login =>
    obtain ⟨original, filtered⟩ := apart (by simp [login])
    simp [original, filtered] at hc
  | signsOut => simp [Session.HasToken, e1] at token

/-- The home screen's part: what a step adds to the arrays was requested with a token of the
session. -/
lemma holdsOwn_home {e : HomeEvent} {home : HomeScreen}
    (h : a.home.step a.session.keychain e = some home)
    (own : a.HoldsOwn) (apart : a.KeepsApart (.home e)) : HoldsOwn { a with home } := by
  intro token c hc
  have returned := HomeScreen.step_returned h
  rcases HomeScreen.step_holds h (List.mem_append.1 hc) with hc | ⟨answer, hd, hc⟩
  · refine (own token c (List.mem_append.2 hc)).congr rfl fun answer mem => ?_
    rw [returned]
    exact List.mem_append_left _ mem
  · refine ⟨answer, ?_, apart token answer hd (List.ne_nil_of_mem hc), hc⟩
    rw [returned]
    exact List.mem_append_right _ (Option.mem_toList.2 hd)

/-- A step that keeps sessions apart keeps the arrays to the user's own capsules. -/
lemma step_holdsOwn (a : App) (e : AppEvent) (own : a.HoldsOwn) (apart : a.KeepsApart e) :
    Run.After step HoldsOwn a e := by
  intro b h
  cases step_inv h with
  | session hs sends => exact holdsOwn_session hs sends own apart
  | home hs => exact holdsOwn_home hs own apart

/-- If every login finds the arrays empty, and no list of another session is handed over within a
session, then the home screen shows a user only capsules that were returned to that user. -/
theorem isolated_of_steps (keychain : Keychain) (p : Process) (es : List AppEvent)
    (apart : Run.Steps step KeepsApart (launch keychain p) es) :
    Run.Always step Isolated (launch keychain p) es := by
  have init : (launch keychain p).HoldsOwn := by
    intro _ c hc
    rw [(launch_sends keychain p).store] at hc
    cases hc
  exact (Run.always_of_steps step_holdsOwn init apart).mono (Q := Isolated) fun _ own _ => own

/-- The first list of a session, and its logout. -/
theorem isolated_first_session :
    Run.Always step Isolated
      (launch (((∅ : Keychain).save "a" .accessToken).save "r" .refreshToken)
        ⟨fun _ _ => none, ⟨"", ""⟩, fun _ => 0⟩)
      [.home (.fetch (.reply 0
          (.decoded ⟨true, "200", "OK", [⟨1, 1, false, "t", "가족", "", "", ""⟩]⟩))),
        .home (.fetch (.deliver 0)), .session .logoutButtonTapped,
        .session (.logout (.reply 0 (.success ⟨true, "200", "OK", none⟩))),
        .session (.logout (.deliver 0)), .session .transition] :=
  isolated_of_steps _ _ _ (by decide)

/-- The user with token `r` gets a list and logs out, the user with token `r'` logs in, and the next
scene connection shows the list. -/
theorem not_isolated :
    ¬ ∀ (keychain : Keychain) (p : Process) (es : List AppEvent),
      Run.Always step Isolated (launch keychain p) es := by
  intro h
  have run := h (((∅ : Keychain).save "a" .accessToken).save "r" .refreshToken)
    ⟨fun _ _ => none, ⟨"", ""⟩, fun _ => 0⟩
    [.home (.fetch (.reply 0
        (.decoded ⟨true, "200", "OK", [⟨1, 1, false, "t", "가족", "", "", ""⟩]⟩))),
      .home (.fetch (.deliver 0)), .session .logoutButtonTapped,
      .session (.logout (.reply 0 (.success ⟨true, "200", "OK", none⟩))),
      .session (.logout (.deliver 0)), .session .transition,
      .session (.emailLogin "u@b.com" "abcd1234"),
      .session (.login (.reply 0 (.success ⟨true, "200", "OK", some ⟨"a'", "r'"⟩⟩))),
      .session (.login (.deliver 0)), .session .willConnect]
  revert run
  decide

end App

end TimeCapsule
