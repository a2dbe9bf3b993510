import TimeCapsule.Lib.Run
import TimeCapsule.Login.Submission
import TimeCapsule.Login.Verification

/-!
# The sign-up screen

`SignUpViewController`: the code that is sent to an address, its confirmation, and the sign-up. The
stored address is written by the send-code tap and by a valid complete tap. The guard of the
complete tap consults the four checks of the form; the confirmation only disables a button.
-/

namespace TimeCapsule.Login
open Foundation

/-- The screen; `main` counts the blocks that successes of verify requests have left on the main
queue. `verified` and `sent` are history variables. -/
structure SignUpViewController where
  email : String := ""
  nickname : String := ""
  password : String := ""
  isValidEmail : Bool := false
  isValidVertifyCode : Bool := false
  isValidNickname : Bool := false
  isValidPassword : Bool := false
  isPasswordMatching : Bool := false
  emailTextField : String := ""
  emailVertifyTextField : String := ""
  nicknameTextField : String := ""
  passwordTextField : String := ""
  passwordRepeatTextField : String := ""
  emailErrorLabel : UILabel := {}
  emailVertifyErrorLabel : UILabel := {}
  nicknameErrorLabel : UILabel := {}
  passwordErrorLabel : UILabel := {}
  passwordRepeatErrorLabel : UILabel := {}
  emailVertifyCheckedButtonIsEnabled : Bool := true
  sends : Wire EmailRequest (AFResult EmailResponse) := []
  verifies : VerifyWire := []
  signups : Wire SignupRequest (AFResult UserResponse) := []
  main : Nat := 0
  verified : List String := []
  sent : List (Submission SignupRequest) := []
deriving DecidableEq, Repr

inductive SignUpEvent where
  | editEmail (text : String)
  | editEmailVertify (text : String)
  | editNickname (text : String)
  | editPassword (text : String)
  | editPasswordRepeat (text : String)
  | emailVertifyButtonTapped
  | send (traffic : Traffic (AFResult EmailResponse))
  | vertifyCodeButtonTapped
  | verify (traffic : VerifyTraffic)
  | main
  | completeButtonTapped
  | signup (traffic : Traffic (AFResult UserResponse))
deriving DecidableEq, Repr

namespace SignUpViewController
variable (canonical : String → String)

def validateUserInfo (s : SignUpViewController) : SignUpViewController :=
  let emailText := s.emailTextField
  let nicknameText := s.nicknameTextField
  let passwordText := s.passwordTextField
  let repeatPasswordText := s.passwordRepeatTextField
  let isValidEmail := isValidEmailFormat emailText
  let isValidNickname := !nicknameText.isEmpty
  let isValidPassword := isValidPasswordFormat passwordText
  let isPasswordMatching :=
    !repeatPasswordText.isEmpty && equal canonical repeatPasswordText passwordText
  let s := { s with isValidEmail, isValidNickname, isValidPassword, isPasswordMatching }
  let s :=
    if isValidEmail && isValidNickname && isValidPassword && isPasswordMatching then
      { s with email := emailText, nickname := nicknameText, password := passwordText }
    else
      s
  { s with
    emailErrorLabel := errorUpdateUI s.emailErrorLabel
      "올바른 이메일 형식이 아닙니다.\n예: example@domain.com" isValidEmail
    nicknameErrorLabel := errorUpdateUI s.nicknameErrorLabel
      "2자 이상의 닉네임을 입력해주세요." isValidNickname
    passwordErrorLabel := errorUpdateUI s.passwordErrorLabel
      "영문, 숫자를 포함한 8자 이상의 비밀번호를 입력해주세요." isValidPassword
    passwordRepeatErrorLabel := errorUpdateUI s.passwordRepeatErrorLabel
      "비밀번호가 일치하지 않습니다." isPasswordMatching }

def handleErrorMessage (s : SignUpViewController) (message : String) : SignUpViewController :=
  if equal canonical "이미 존재하는 이메일입니다." message then
    { s with
      isValidEmail := false
      emailErrorLabel := errorUpdateUI s.emailErrorLabel "이미 존재하는 이메일입니다" false }
  else if equal canonical "인증코드가 일치하지 않습니다." message then
    { s with
      isValidVertifyCode := false
      emailVertifyErrorLabel :=
        errorUpdateUI s.emailVertifyErrorLabel "인증코드가 일치하지 않습니다" false }
  else
    s

/-! ## The send-code button -/

def sendVertifyCodeToServer (s : SignUpViewController) (email : String) : SignUpViewController :=
  { s with sends := s.sends.send ⟨some email⟩ }

def sendHandler (s : SignUpViewController) : AFResult EmailResponse → SignUpViewController
  | .success emailResponse =>
    if emailResponse.isSuccess then s else s.handleErrorMessage canonical emailResponse.message
  | .failure => s

def emailVertifyButtonTapped (s : SignUpViewController) : SignUpViewController :=
  let emailText := s.emailTextField
  if emailText.isEmpty then
    { s with emailErrorLabel := errorUpdateUI s.emailErrorLabel "" s.isValidEmail }
  else if !isValidEmailFormat emailText then
    { s with
      emailErrorLabel := errorUpdateUI s.emailErrorLabel
        "올바른 이메일 형식이 아닙니다.\n예: example@domain.com" s.isValidEmail }
  else
    let s := { s with email := emailText }
    s.sendVertifyCodeToServer s.email

/-! ## The confirm-code button -/

def vertifyCodeToServer (s : SignUpViewController) (email code : String) : SignUpViewController :=
  { s with verifies := s.verifies.send ⟨email, code⟩ }

def verifyHandler (s : SignUpViewController) : AFResult VertifyCodeResponse → SignUpViewController
  | .success response =>
    if response.isSuccess then { s with main := s.main + 1 }
    else s.handleErrorMessage canonical response.message
  | .failure => s

/-- The block that a success leaves on the main queue. -/
def runMain (s : SignUpViewController) : SignUpViewController :=
  if 0 < s.main then
    { s with
      main := s.main - 1
      emailVertifyCheckedButtonIsEnabled := false
      emailVertifyErrorLabel.text := "인증이 완료되었습니다" }
  else
    s

/-- A disabled button takes no taps. -/
def vertifyCodeButtonTapped (s : SignUpViewController) : SignUpViewController :=
  if s.emailVertifyCheckedButtonIsEnabled then
    let vertifyCode := s.emailVertifyTextField
    if vertifyCode.isEmpty then
      { s with emailVertifyErrorLabel :=
          errorUpdateUI s.emailVertifyErrorLabel "인증번호가 올바른지 확인하세요" s.isValidVertifyCode }
    else
      s.vertifyCodeToServer s.email vertifyCode
  else
    s

/-! ## The complete button -/

def signupToServer (s : SignUpViewController) (email nickname password : String) :
    SignUpViewController :=
  let parameters : SignupRequest := ⟨email, nickname, password⟩
  { s with
    signups := s.signups.send parameters
    sent := s.sent ++ [⟨parameters, s.passwordTextField, s.passwordRepeatTextField⟩] }

/-- A success dismisses the screen. -/
def signupHandler (s : SignUpViewController) : AFResult UserResponse → SignUpViewController
  | .success userResponse =>
    if userResponse.isSuccess then s
    else handleErrorMessage canonical { s with isValidEmail := false } userResponse.message
  | .failure => s

def completeButtonTapped (s : SignUpViewController) : SignUpViewController :=
  let s := s.validateUserInfo canonical
  -- `isValidVertifyCode` is not consulted
  if s.isValidEmail && s.isValidNickname && s.isValidPassword && s.isPasswordMatching then
    s.signupToServer s.email s.nickname s.password
  else
    s

def step (s : SignUpViewController) : SignUpEvent → Option SignUpViewController
  | .editEmail text => some { s with emailTextField := text }
  | .editEmailVertify text => some { s with emailVertifyTextField := text }
  | .editNickname text => some { s with nicknameTextField := text }
  | .editPassword text => some { s with passwordTextField := text }
  | .editPasswordRepeat text => some { s with passwordRepeatTextField := text }
  | .emailVertifyButtonTapped => some s.emailVertifyButtonTapped
  | .send traffic =>
    let (sends, delivered) := s.sends.step traffic
    match delivered with
    | some (_, result) => some (sendHandler canonical { s with sends } result)
    | none => some { s with sends }
  | .vertifyCodeButtonTapped => some s.vertifyCodeButtonTapped
  | .verify traffic =>
    let verified := s.verified ++ (Login.verifies s.verifies traffic).toList
    let (verifies, delivered) := s.verifies.step traffic
    match delivered with
    | some (_, result) => some (verifyHandler canonical { s with verifies, verified } result)
    | none => some { s with verifies, verified }
  | .main => some s.runMain
  | .completeButtonTapped => some (s.completeButtonTapped canonical)
  | .signup traffic =>
    let (signups, delivered) := s.signups.step traffic
    match delivered with
    | some (_, result) => some (signupHandler canonical { s with signups } result)
    | none => some { s with signups }

/-! ## Sign-ups -/

/-- The form passes the checks that the complete button makes. -/
def ValidForm (s : SignUpViewController) : Prop :=
  isValidEmailFormat s.emailTextField = true ∧ s.nicknameTextField.isEmpty = false ∧
    ValidPasswords canonical s.passwordTextField s.passwordRepeatTextField

instance : DecidablePred (ValidForm canonical) := fun _ => inferInstanceAs (Decidable (_ ∧ _ ∧ _))

/-- The sign-up that the complete button sends on a valid form. -/
def submission (s : SignUpViewController) : Submission SignupRequest :=
  ⟨⟨s.emailTextField, s.nicknameTextField, s.passwordTextField⟩,
    s.passwordTextField, s.passwordRepeatTextField⟩

/-- Sign-ups are sent for verified addresses. -/
def SignsVerified (s : SignUpViewController) : Prop := ∀ x ∈ s.sent, x.request.email ∈ s.verified

instance : DecidablePred SignsVerified := fun s =>
  inferInstanceAs (Decidable (∀ x ∈ s.sent, x.request.email ∈ s.verified))

def form : PasswordForm SignUpViewController SignUpEvent SignupRequest where
  step := step canonical
  sent := sent
  password := SignupRequest.password
  Valid := ValidForm canonical

/-- The complete button is not tapped on a valid form with an unverified address. -/
def CompletesVerified (s : SignUpViewController) : SignUpEvent → Prop
  | .completeButtonTapped => s.ValidForm canonical → s.emailTextField ∈ s.verified
  | _ => True

variable {canonical} {s t : SignUpViewController}

/-- What a step does to the histories: addresses are verified, or a valid form is sent. -/
inductive Step (canonical : String → String) (s t : SignUpViewController) : SignUpEvent → Prop where
  | keeps {e} :
    t.sent = s.sent →
    t.verified = s.verified →
    (e = .completeButtonTapped → ¬ s.ValidForm canonical) →
    Step canonical s t e
  | verify {traffic} :
    t.sent = s.sent →
    t.verified = s.verified ++ (Login.verifies s.verifies traffic).toList →
    Step canonical s t (.verify traffic)
  | complete :
    s.ValidForm canonical →
    t.sent = s.sent ++ [s.submission] →
    t.verified = s.verified →
    Step canonical s t .completeButtonTapped

/-- What hardly anything changes: the histories, the stored address, the confirm button; and nothing
makes the code valid. -/
structure Keeps (s t : SignUpViewController) : Prop where
  sent : t.sent = s.sent
  verified : t.verified = s.verified
  email : t.email = s.email
  button : t.emailVertifyCheckedButtonIsEnabled = s.emailVertifyCheckedButtonIsEnabled
  code : s.isValidVertifyCode = false → t.isValidVertifyCode = false

lemma Keeps.trans {u : SignUpViewController} (h1 : Keeps s t) (h2 : Keeps t u) : Keeps s u where
  sent := h2.sent.trans h1.sent
  verified := h2.verified.trans h1.verified
  email := h2.email.trans h1.email
  button := h2.button.trans h1.button
  code := h2.code ∘ h1.code

/-- Error messages keep all of it. -/
lemma handleErrorMessage_keeps (s : SignUpViewController) (message : String) :
    Keeps s (s.handleErrorMessage canonical message) := by
  unfold handleErrorMessage
  split
  · exact ⟨rfl, rfl, rfl, rfl, id⟩
  · split
    · exact ⟨rfl, rfl, rfl, rfl, fun _ => rfl⟩
    · exact ⟨rfl, rfl, rfl, rfl, id⟩

/-- So do the response handlers. -/
lemma sendHandler_keeps (s : SignUpViewController) (result : AFResult EmailResponse) :
    Keeps s (s.sendHandler canonical result) := by
  unfold sendHandler
  split
  · split
    · exact ⟨rfl, rfl, rfl, rfl, id⟩
    · exact s.handleErrorMessage_keeps _
  · exact ⟨rfl, rfl, rfl, rfl, id⟩

lemma verifyHandler_keeps (s : SignUpViewController) (result : AFResult VertifyCodeResponse) :
    Keeps s (s.verifyHandler canonical result) := by
  unfold verifyHandler
  split
  · split
    · exact ⟨rfl, rfl, rfl, rfl, id⟩
    · exact s.handleErrorMessage_keeps _
  · exact ⟨rfl, rfl, rfl, rfl, id⟩

lemma signupHandler_keeps (s : SignUpViewController) (result : AFResult UserResponse) :
    Keeps s (s.signupHandler canonical result) := by
  unfold signupHandler
  split
  · split
    · exact ⟨rfl, rfl, rfl, rfl, id⟩
    · refine .trans ?_ (handleErrorMessage_keeps _ _)
      exact ⟨rfl, rfl, rfl, rfl, id⟩
  · exact ⟨rfl, rfl, rfl, rfl, id⟩

/-- So does the confirm tap. -/
lemma vertifyCodeButtonTapped_keeps (s : SignUpViewController) :
    Keeps s s.vertifyCodeButtonTapped := by
  unfold vertifyCodeButtonTapped
  dsimp only
  split
  · split
    · exact ⟨rfl, rfl, rfl, rfl, id⟩
    · exact ⟨rfl, rfl, rfl, rfl, id⟩
  · exact ⟨rfl, rfl, rfl, rfl, id⟩

/-- The send-code tap stores a well-formed address, and keeps the rest. -/
lemma emailVertifyButtonTapped_keeps (s : SignUpViewController) :
    Keeps { s with email :=
        if isValidEmailFormat s.emailTextField = true then s.emailTextField else s.email }
      s.emailVertifyButtonTapped := by
  unfold emailVertifyButtonTapped
  dsimp only
  cases empty : s.emailTextField.isEmpty with
  | true =>
    rw [isValidEmailFormat_of_isEmpty empty]
    exact ⟨rfl, rfl, rfl, rfl, id⟩
  | false =>
    cases isValidEmailFormat s.emailTextField with
    | false => exact ⟨rfl, rfl, rfl, rfl, id⟩
    | true => exact ⟨rfl, rfl, rfl, rfl, id⟩

/-- The four checks of the validation accept exactly the valid forms. -/
lemma checks_iff (s : SignUpViewController) :
    (isValidEmailFormat s.emailTextField && !s.nicknameTextField.isEmpty &&
      isValidPasswordFormat s.passwordTextField && (!s.passwordRepeatTextField.isEmpty &&
        equal canonical s.passwordRepeatTextField s.passwordTextField)) = true ↔
      s.ValidForm canonical := by
  simp [ValidForm, ValidPasswords, and_assoc]

/-- Validation stores the address of a valid form, and keeps the rest. -/
lemma validateUserInfo_keeps (canonical : String → String) (s : SignUpViewController) :
    Keeps { s with email := if s.ValidForm canonical then s.emailTextField else s.email }
      (s.validateUserInfo canonical) := by
  unfold validateUserInfo
  dsimp only
  by_cases valid : s.ValidForm canonical
  · rw [if_pos valid, if_pos (s.checks_iff.2 valid)]
    exact ⟨rfl, rfl, rfl, rfl, id⟩
  · rw [if_neg valid, if_neg (mt s.checks_iff.1 valid)]
    exact ⟨rfl, rfl, rfl, rfl, id⟩

/-- The traffic of the code requests keeps all of it, -/
lemma step_send {traffic} (h : s.step canonical (.send traffic) = some t) : Keeps s t := by
  cases hd : (s.sends.step traffic).2 with
  | none => simp only [step, hd] at h; cases h; exact ⟨rfl, rfl, rfl, rfl, id⟩
  | some d =>
    simp only [step, hd] at h
    cases h
    refine .trans ?_ (sendHandler_keeps _ d.2)
    exact ⟨rfl, rfl, rfl, rfl, id⟩

/-- that of the sign-ups, -/
lemma step_signup {traffic} (h : s.step canonical (.signup traffic) = some t) : Keeps s t := by
  cases hd : (s.signups.step traffic).2 with
  | none => simp only [step, hd] at h; cases h; exact ⟨rfl, rfl, rfl, rfl, id⟩
  | some d =>
    simp only [step, hd] at h
    cases h
    refine .trans ?_ (signupHandler_keeps _ d.2)
    exact ⟨rfl, rfl, rfl, rfl, id⟩

/-- and that of the confirmations, which puts verified addresses on record. -/
lemma step_verify {traffic} (h : s.step canonical (.verify traffic) = some t) :
    Keeps { s with verified := s.verified ++ (Login.verifies s.verifies traffic).toList } t := by
  cases hd : (s.verifies.step traffic).2 with
  | none => simp only [step, hd] at h; cases h; exact ⟨rfl, rfl, rfl, rfl, id⟩
  | some d =>
    simp only [step, hd] at h
    cases h
    refine .trans ?_ (verifyHandler_keeps _ d.2)
    exact ⟨rfl, rfl, rfl, rfl, id⟩

/-- The guard of the complete button lets exactly the valid forms pass. -/
lemma guard_iff (s : SignUpViewController) :
    ((s.validateUserInfo canonical).isValidEmail && (s.validateUserInfo canonical).isValidNickname &&
      (s.validateUserInfo canonical).isValidPassword &&
      (s.validateUserInfo canonical).isPasswordMatching) = true ↔ s.ValidForm canonical := by
  unfold validateUserInfo
  dsimp only
  split
  · exact s.checks_iff
  · exact s.checks_iff

/-- Validation keeps the password fields, and stores the texts of a valid form. -/
lemma validateUserInfo_stored (valid : s.ValidForm canonical) :
    (s.validateUserInfo canonical).email = s.emailTextField ∧
      (s.validateUserInfo canonical).nickname = s.nicknameTextField ∧
      (s.validateUserInfo canonical).password = s.passwordTextField ∧
      (s.validateUserInfo canonical).passwordTextField = s.passwordTextField ∧
      (s.validateUserInfo canonical).passwordRepeatTextField = s.passwordRepeatTextField := by
  obtain ⟨email, nickname, format, nonempty, matching⟩ := valid
  simp [validateUserInfo, email, nickname, format, nonempty, matching]

/-- The complete button sends a valid form, and nothing else. -/
lemma completeButtonTapped_step (canonical : String → String) (s : SignUpViewController) :
    Step canonical s (s.completeButtonTapped canonical) .completeButtonTapped := by
  obtain ⟨sent, verified, _⟩ := s.validateUserInfo_keeps canonical
  unfold completeButtonTapped
  dsimp only
  split
  · next h =>
    have valid := s.guard_iff.1 h
    obtain ⟨email, nickname, password, field, repetition⟩ := validateUserInfo_stored valid
    generalize s.validateUserInfo canonical = v at *
    refine .complete valid ?_ verified
    simp only [signupToServer, submission, sent, email, nickname, password, field, repetition]
  · next h => exact .keeps sent verified fun _ => mt s.guard_iff.2 h

/-- Inversion of `step`, for the histories. -/
lemma step_inv {e : SignUpEvent} (h : s.step canonical e = some t) : Step canonical s t e := by
  cases e with
  | editEmail | editEmailVertify | editNickname | editPassword | editPasswordRepeat =>
    cases h
    exact .keeps rfl rfl nofun
  | emailVertifyButtonTapped =>
    cases h
    have keeps := s.emailVertifyButtonTapped_keeps
    exact .keeps keeps.sent keeps.verified nofun
  | vertifyCodeButtonTapped =>
    cases h
    have keeps := s.vertifyCodeButtonTapped_keeps
    exact .keeps keeps.sent keeps.verified nofun
  | main =>
    cases h
    unfold runMain
    split <;> exact .keeps rfl rfl nofun
  | completeButtonTapped => cases h; exact s.completeButtonTapped_step canonical
  | send => exact .keeps (step_send h).sent (step_send h).verified nofun
  | verify => exact .verify (step_verify h).sent (step_verify h).verified
  | signup => exact .keeps (step_signup h).sent (step_signup h).verified nofun

/-- A step signs up verified addresses only just when it completes no form with an unverified
one. -/
lemma step_signsVerified_iff (s : SignUpViewController) (e : SignUpEvent)
    (signs : s.SignsVerified) :
    Run.After (step canonical) SignsVerified s e ↔ s.CompletesVerified canonical e := by
  constructor
  · intro after
    cases e with
    | completeButtonTapped =>
      intro valid
      have signs' := after _ rfl
      cases s.completeButtonTapped_step canonical with
      | keeps _ _ invalid => exact absurd valid (invalid rfl)
      | complete _ sent verified =>
        rw [SignsVerified, sent, verified] at signs'
        exact signs' _ (List.mem_append_right _ (List.mem_singleton.2 rfl))
    | _ => exact trivial
  · intro completes t h
    cases step_inv h with
    | keeps sent verified => rwa [SignsVerified, sent, verified]
    | verify sent verified =>
      rw [SignsVerified, sent, verified]
      exact fun x hx => List.mem_append_left _ (signs x hx)
    | complete valid sent verified =>
      rw [SignsVerified, sent, verified]
      intro x hx
      rcases List.mem_append.1 hx with hx | hx
      · exact signs x hx
      · cases List.mem_singleton.1 hx
        exact completes valid

/-- A step sends nothing, or a validated password from a valid form. -/
lemma step_sends (s : SignUpViewController) (e : SignUpEvent) :
    ∀ t ∈ s.step canonical e, (form canonical).Sends canonical s t := by
  intro t h
  cases step_inv h with
  | keeps sent => exact .nothing sent
  | verify sent => exact .nothing sent
  | complete valid sent => exact .submission s.submission valid ⟨rfl, valid.2.2⟩ sent

/-- Sign-ups are sent for verified addresses only just when the complete button is never tapped on a
valid form whose address is not verified. -/
theorem signs_verified_iff (canonical : String → String) (es : List SignUpEvent) :
    Run.Always (step canonical) SignsVerified {} es ↔
      Run.Steps (step canonical) (CompletesVerified canonical) {} es :=
  Run.always_iff_steps step_signsVerified_iff (List.forall_mem_nil _)

/-- A valid form is completed without a code having been asked for. -/
theorem signs_unverified :
    ¬ ∀ (canonical : String → String) (es : List SignUpEvent),
      Run.Always (step canonical) SignsVerified {} es := by
  intro h
  have run := h id [.editEmail "a@b.com", .editNickname "n", .editPassword "abcd1234",
    .editPasswordRepeat "abcd1234", .completeButtonTapped]
  revert run
  decide

end SignUpViewController

end TimeCapsule.Login
