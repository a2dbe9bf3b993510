import TimeCapsule.Foundation.Keychain
import TimeCapsule.Login.UserModel
import TimeCapsule.Lib.Run
import TimeCapsule.Lib.Wire

/-!
# The session and the root screen

The keychain and the window's root view controller, with everything that changes one of them:
`SceneDelegate.scene(_:willConnectTo:options:)`, the two logins of `LoginViewController`, logout and
withdrawal in `MyPageViewController`, and the password reset of `ChangePasswordViewController`.
Logout and withdrawal replace the root by a block that runs half a second later.

`presentToHome` builds a navigation stack and drops it, so a login leaves the root as it is.
`InStep` is the invariant that ties the root to the keychain, and `step_inStep` says which steps
keep it.
-/

namespace TimeCapsule.Login
open Foundation

/-- The root view controller of the window. -/
inductive Root where
  | home
  | login
deriving DecidableEq, Repr

inductive LoginRequest where
  | email (parameters : EmailLoginRequest)
  | kakao (parameters : SocialLoginRequest)
deriving DecidableEq, Repr

/-- Keychain and window, the requests whose answer changes one of them, and the number of delayed
transitions that are due. -/
structure Session where
  keychain : Keychain
  root : Root
  logins : Wire LoginRequest (AFResult LoginResponse) := []
  logouts : Wire String (AFResult DeleteUserResponse) := []
  withdrawals : Wire String (AFResult DeleteUserResponse) := []
  resets : Wire PasswordChangeRequestinLoginPage (AFResult PasswordChangeResponse) := []
  delayed : Nat := 0

inductive SessionEvent where
  | willConnect
  | emailLogin (email password : String)
  | kakaoLogin (email nickname : String)
  | login (traffic : Traffic (AFResult LoginResponse))
  | logoutButtonTapped
  | logout (traffic : Traffic (AFResult DeleteUserResponse))
  | withdrawButtonTapped
  | withdraw (traffic : Traffic (AFResult DeleteUserResponse))
  | resetPassword (parameters : PasswordChangeRequestinLoginPage)
  | reset (traffic : Traffic (AFResult PasswordChangeResponse))
  | transition
deriving DecidableEq, Repr

namespace Session

/-- The keychain holds a non-empty refresh token. -/
def HasToken (s : Session) : Prop := ∃ token ∈ s.keychain.load .refreshToken, token ≠ ""

instance : DecidablePred HasToken := fun _ => inferInstanceAs (Decidable (∃ _ ∈ _, _))

/-- `SceneDelegate.scene(_:willConnectTo:options:)`. -/
def willConnect (s : Session) : Session :=
  if s.HasToken then { s with root := .home } else { s with root := .login }

/-- `LoginViewController.presentToHome`. -/
def presentToHome (s : Session) : Session :=
  -- the navigation controller is a local constant: nothing installs it in the window
  let _navigationController : Root := .home
  s

def emailLoginToServer (s : Session) (email password : String) : Session :=
  { s with logins := s.logins.send (.email ⟨email, password⟩) }

def kakaoLoginToServer (s : Session) (email nickname : String) : Session :=
  { s with logins := s.logins.send (.kakao ⟨email, nickname⟩) }

/-- The response handler of both logins; it traps on a success without a result. -/
def loginHandler (s : Session) : AFResult LoginResponse → Option Session
  | .success loginResponse =>
    if loginResponse.isSuccess then
      match loginResponse.result with
      | some result =>
        let keychain := s.keychain.save result.accessToken .accessToken
        let keychain := keychain.save result.refreshToken .refreshToken
        some { s with keychain }.presentToHome
      | none => none
    else
      some s
  | .failure => some s

def logoutButtonTapped (s : Session) : Session :=
  match s.keychain.load .accessToken with
  | some token => { s with logouts := s.logouts.send token }
  | none => s

def withdrawButtonTapped (s : Session) : Session :=
  match s.keychain.load .refreshToken with
  | some token => { s with withdrawals := s.withdrawals.send token }
  | none => s

/-- The response handler of logout and of withdrawal. -/
def signOutHandler (s : Session) : AFResult DeleteUserResponse → Session
  | .success response =>
    if response.isSuccess then
      let keychain := s.keychain.delete .accessToken
      let keychain := keychain.delete .refreshToken
      { s with keychain, delayed := s.delayed + 1 }
    else
      s
  | .failure => s

/-- The block that logout and withdrawal leave behind. -/
def transition (s : Session) : Session :=
  if 0 < s.delayed then { s with root := .login, delayed := s.delayed - 1 } else s

/-- The request of `ChangePasswordViewController`. -/
def resetPassword (s : Session) (parameters : PasswordChangeRequestinLoginPage) : Session :=
  { s with resets := s.resets.send parameters }

def resetHandler (s : Session) : AFResult PasswordChangeResponse → Session
  | .success response => if response.isSuccess then { s with root := .login } else s
  | .failure => s

def step (s : Session) : SessionEvent → Option Session
  | .willConnect => some s.willConnect
  | .emailLogin email password => some (s.emailLoginToServer email password)
  | .kakaoLogin email nickname => some (s.kakaoLoginToServer email nickname)
  | .login traffic =>
    let (logins, delivered) := s.logins.step traffic
    match delivered with
    | some (_, result) => { s with logins }.loginHandler result
    | none => some { s with logins }
  | .logoutButtonTapped => some s.logoutButtonTapped
  | .logout traffic =>
    let (logouts, delivered) := s.logouts.step traffic
    match delivered with
    | some (_, result) => some ({ s with logouts }.signOutHandler result)
    | none => some { s with logouts }
  | .withdrawButtonTapped => some s.withdrawButtonTapped
  | .withdraw traffic =>
    let (withdrawals, delivered) := s.withdrawals.step traffic
    match delivered with
    | some (_, result) => some ({ s with withdrawals }.signOutHandler result)
    | none => some { s with withdrawals }
  | .resetPassword parameters => some (s.resetPassword parameters)
  | .reset traffic =>
    let (resets, delivered) := s.resets.step traffic
    match delivered with
    | some (_, result) => some ({ s with resets }.resetHandler result)
    | none => some { s with resets }
  | .transition => some s.transition

/-- A process that has found `keychain` and connected its first scene. -/
def launch (keychain : Keychain) : Session := willConnect { keychain, root := .login }

/-- No answer and no delayed transition is pending. -/
def Quiet (s : Session) : Prop :=
  s.logins = [] ∧ s.logouts = [] ∧ s.withdrawals = [] ∧ s.resets = [] ∧ s.delayed = 0

instance : DecidablePred Quiet := fun _ => inferInstanceAs (Decidable (_ ∧ _ ∧ _ ∧ _ ∧ _))

/-- The root is the home stack exactly if the keychain holds a token. -/
def Agrees (s : Session) : Prop := s.root = .home ↔ s.HasToken

instance : DecidablePred Agrees := fun _ => inferInstanceAs (Decidable (_ ↔ _))

/-- The keychain holds a token exactly if the home stack is the root and is going to stay. -/
def InStep (s : Session) : Prop := s.HasToken ↔ s.root = .home ∧ s.delayed = 0

/-- The result that the handler of a login stores at this step, if it stores one. -/
def loggedIn (s : Session) : SessionEvent → Option LoginResult
  | .login traffic => do
    let (_, result) ← (s.logins.step traffic).2
    let response ← result.accepted
    response.result
  | _ => none

/-- The answer of a password reset that is handled at this step and was accepted. -/
def resetDone (s : Session) : SessionEvent → Option PasswordChangeResponse
  | .reset traffic => do
    let (_, result) ← (s.resets.step traffic).2
    result.accepted
  | _ => none

/-- A login stores a non-empty token just when the home stack is up to stay already, and a reset
succeeds only while no token is stored. -/
def KeepsStep (s : Session) (e : SessionEvent) : Prop :=
  (∀ result ∈ s.loggedIn e, result.refreshToken ≠ "" ↔ s.root = .home ∧ s.delayed = 0) ∧
    ((s.resetDone e).isSome → ¬ s.HasToken)

instance (s : Session) : DecidablePred s.KeepsStep := fun _ =>
  inferInstanceAs (Decidable (_ ∧ _))

/-! ## The handlers -/

variable {s : Session}

/-- A login changes nothing unless it was accepted; then it stores the tokens and leaves the root
alone. -/
lemma loginHandler_inv {result : AFResult LoginResponse} {t : Session}
    (h : s.loginHandler result = some t) :
    result.accepted = none ∧ t = s ∨
    ∃ response r, result.accepted = some response ∧ response.result = some r ∧
      t = { s with keychain :=
        (s.keychain.save r.accessToken .accessToken).save r.refreshToken .refreshToken } := by
  cases result with
  | failure => cases h; exact .inl ⟨rfl, rfl⟩
  | success response =>
    cases ok : response.isSuccess with
    | false =>
      simp only [loginHandler, ok, Bool.false_eq_true, if_false] at h
      cases h
      exact .inl ⟨by simp [AFResult.accepted, ok], rfl⟩
    | true =>
      cases hr : response.result with
      | none => simp [loginHandler, ok, hr] at h
      | some r =>
        simp only [loginHandler, ok, if_true, hr] at h
        cases h
        exact .inr ⟨response, r, by simp [AFResult.accepted, ok], hr, rfl⟩

/-- A logout or withdrawal changes nothing unless it was accepted; then both tokens go and a
transition becomes due. -/
lemma signOutHandler_eq (result : AFResult DeleteUserResponse) :
    s.signOutHandler result = match result.accepted with
      | some _ => { s with
          keychain := (s.keychain.delete .accessToken).delete .refreshToken
          delayed := s.delayed + 1 }
      | none => s := by
  cases result with
  | failure => rfl
  | success response => cases ok : response.isSuccess <;> simp [signOutHandler, AFResult.accepted, ok]

/-- A password reset changes nothing unless it was accepted; then the login screen comes up. -/
lemma resetHandler_eq (result : AFResult PasswordChangeResponse) :
    s.resetHandler result = match result.accepted with
      | some _ => { s with root := .login }
      | none => s := by
  cases result with
  | failure => rfl
  | success response => cases ok : response.isSuccess <;> simp [resetHandler, AFResult.accepted, ok]

/-- What a step does to the keychain, the root and the delayed transitions: nothing; a scene
connects; a login stores both tokens; a logout or a withdrawal deletes them; a password has been
reset; a transition is carried out. -/
inductive Step (s : Session) (e : SessionEvent) : Keychain → Root → Nat → Prop where
  | keeps :
    s.loggedIn e = none →
    Step s e s.keychain s.root s.delayed
  | connects :
    s.loggedIn e = none →
    Step s e s.keychain (if s.HasToken then .home else .login) s.delayed
  | logsIn {result} :
    s.loggedIn e = some result →
    Step s e
      ((s.keychain.save result.accessToken .accessToken).save result.refreshToken .refreshToken)
      s.root s.delayed
  | signsOut :
    s.loggedIn e = none →
    Step s e ((s.keychain.delete .accessToken).delete .refreshToken) s.root (s.delayed + 1)
  | resets {response} :
    s.loggedIn e = none →
    s.resetDone e = some response →
    Step s e s.keychain .login s.delayed
  | transitions :
    s.loggedIn e = none →
    0 < s.delayed →
    Step s e s.keychain .login (s.delayed - 1)

/-- A logout or withdrawal signs out or does nothing. -/
lemma signOutHandler_step {e : SessionEvent} (login : s.loggedIn e = none) (t : Session)
    (keychain : t.keychain = s.keychain) (root : t.root = s.root) (delayed : t.delayed = s.delayed)
    (result : AFResult DeleteUserResponse) :
    Step s e (t.signOutHandler result).keychain (t.signOutHandler result).root
      (t.signOutHandler result).delayed := by
  rw [signOutHandler_eq]
  split
  · dsimp only
    rw [keychain, root, delayed]
    exact .signsOut login
  · rw [keychain, root, delayed]
    exact .keeps login

/-- Inversion of `step`, for the keychain, the root and the delayed transitions. -/
lemma step_inv {e : SessionEvent} {t : Session} (h : s.step e = some t) :
    Step s e t.keychain t.root t.delayed := by
  cases e with
  | willConnect =>
    cases h
    have connects : Step s .willConnect s.keychain (if s.HasToken then .home else .login) s.delayed :=
      .connects rfl
    unfold willConnect
    split
    · next token => rwa [if_pos token] at connects
    · next token => rwa [if_neg token] at connects
  | emailLogin | kakaoLogin | resetPassword => cases h; exact .keeps rfl
  | logoutButtonTapped =>
    cases h
    unfold logoutButtonTapped
    split <;> exact .keeps rfl
  | withdrawButtonTapped =>
    cases h
    unfold withdrawButtonTapped
    split <;> exact .keeps rfl
  | transition =>
    cases h
    unfold transition
    split
    · next due => exact .transitions rfl due
    · exact .keeps rfl
  | login traffic =>
    cases hd : (s.logins.step traffic).2 with
    | none =>
      simp only [step, hd] at h
      cases h
      exact .keeps (by simp [loggedIn, hd])
    | some d =>
      simp only [step, hd] at h
      rcases loginHandler_inv h with ⟨ha, rfl⟩ | ⟨response, r, ha, hr, rfl⟩
      · exact .keeps (by simp [loggedIn, hd, ha])
      · exact .logsIn (by simp [loggedIn, hd, ha, hr])
  | logout traffic =>
    cases hd : (s.logouts.step traffic).2 with
    | none => simp only [step, hd] at h; cases h; exact .keeps rfl
    | some d =>
      simp only [step, hd] at h
      cases h
      exact signOutHandler_step rfl _ (by rfl) (by rfl) (by rfl) d.2
  | withdraw traffic =>
    cases hd : (s.withdrawals.step traffic).2 with
    | none => simp only [step, hd] at h; cases h; exact .keeps rfl
    | some d =>
      simp only [step, hd] at h
      cases h
      exact signOutHandler_step rfl _ (by rfl) (by rfl) (by rfl) d.2
  | reset traffic =>
    cases hd : (s.resets.step traffic).2 with
    | none => simp only [step, hd] at h; cases h; exact .keeps rfl
    | some d =>
      simp only [step, hd] at h
      cases h
      rw [resetHandler_eq]
      split
      · next response ha =>
        have reset : s.resetDone (.reset traffic) = some response := by simp [resetDone, hd, ha]
        exact .resets rfl reset
      · exact .keeps rfl

/-! ## Which steps keep screen and session in step -/

/-- A step that is neither a login away from home nor a password reset within a session keeps screen
and session in step. -/
lemma step_inStep (s : Session) (e : SessionEvent) (inStep : s.InStep) (keeps : s.KeepsStep e) :
    Run.After step InStep s e := by
  intro t h
  have effect := step_inv h
  obtain ⟨keepsLogin, keepsReset⟩ := keeps
  rw [InStep, HasToken]
  generalize t.keychain = keychain, t.root = root, t.delayed = delayed at effect ⊢
  cases effect with
  | keeps => exact inStep
  | connects =>
    -- the connection makes the root agree with the token, whatever it was before
    split
    · next token => exact ⟨fun _ => ⟨rfl, (inStep.1 token).2⟩, fun _ => token⟩
    · next token => exact ⟨fun h => absurd h token, fun h => nomatch h.1⟩
  | logsIn login =>
    rw [← keepsLogin _ login]
    simp
  | signsOut => simp
  | resets _ reset =>
    have noToken : ¬ s.HasToken := keepsReset (by simp [reset])
    exact ⟨fun token => absurd token noToken, fun h => nomatch h.1⟩
  | transitions _ due =>
    -- a due transition means that the token is gone already
    exact ⟨fun token => absurd (inStep.1 token).2 (Nat.ne_of_gt due), fun h => nomatch h.1⟩

/-- In step, a quiet state shows the home stack exactly if there is a token. -/
lemma InStep.agrees (inStep : s.InStep) : s.Quiet → s.Agrees := by
  rintro ⟨_, _, _, _, delayed⟩
  exact ⟨fun home => inStep.2 ⟨home, delayed⟩, fun token => (inStep.1 token).1⟩

/-- If every login that stores a token finds the home stack up to stay, and no password reset
succeeds within a session, then screen and session agree whenever nothing is pending. -/
theorem screen_agrees (keychain : Keychain) (es : List SessionEvent)
    (keeps : Run.Steps step KeepsStep (launch keychain) es) :
    Run.Always step (fun s => s.Quiet → s.Agrees) (launch keychain) es := by
  have init : (launch keychain).InStep := by
    unfold launch willConnect
    split
    · next h => exact ⟨fun _ => ⟨rfl, rfl⟩, fun _ => h⟩
    · next h => exact ⟨fun h' => absurd h' h, fun h' => nomatch h'.1⟩
  exact (Run.always_of_steps step_inStep init keeps).mono fun _ => InStep.agrees

/-- A logout of a stored session ends in agreement. -/
theorem screen_agrees_logout :
    Run.Always step (fun s => s.Quiet → s.Agrees)
      (launch (((∅ : Keychain).save "a" .accessToken).save "r" .refreshToken))
      [.logoutButtonTapped, .logout (.reply 0 (.success ⟨true, "200", "OK", none⟩)),
        .logout (.deliver 0), .transition] :=
  screen_agrees _ _ (by decide)

/-- An email login that succeeds on a fresh installation: the tokens are stored, nothing is pending,
and the login screen stays. -/
theorem screen_disagrees_login :
    ¬ ∀ (keychain : Keychain) (es : List SessionEvent),
      Run.Always step (fun s => s.Quiet → s.Agrees) (launch keychain) es := by
  intro h
  have run := h ∅ [.emailLogin "a@b.com" "abcd1234",
    .login (.reply 0 (.success ⟨true, "200", "OK", some ⟨"a", "r"⟩⟩)), .login (.deliver 0)]
  revert run
  decide

end Session

end TimeCapsule.Login
