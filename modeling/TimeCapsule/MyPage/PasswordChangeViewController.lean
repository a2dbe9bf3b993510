import TimeCapsule.Lib.Wire
import TimeCapsule.Foundation.Keychain
import TimeCapsule.Login.Submission
import TimeCapsule.Login.UserModel

/-!
# The change screen of My Page

`PasswordChangeViewController`. A tap on the button stores the texts of all three fields at once;
the guard then lets valid forms pass, for which a token has to be in the keychain as well.
-/

namespace TimeCapsule.MyPage
open Foundation Login

/-- The parameters of the request with its token. -/
structure PasswordChange where
  parameters : PasswordChangeRequestinMyPage
  token : String
deriving DecidableEq, Repr

/-- The screen and the keychain; `sent` is a history variable. -/
structure PasswordChangeViewController where
  currentPassword : String := ""
  newPassword : String := ""
  repeatPassword : String := ""
  isValidcurrentPassword : Bool := false
  isValidnewPassword : Bool := false
  isPasswordMatching : Bool := false
  currentPasswordTextField : String := ""
  newPasswordTextField : String := ""
  passwordRepeatTextField : String := ""
  currentPasswordErrorLabel : UILabel := {}
  newPasswordErrorLabel : UILabel := {}
  passwordRepeatErrorLabel : UILabel := {}
  keychain : Keychain := ∅
  changes : Wire PasswordChange (AFResult PasswordChangeResponse) := []
  sent : List (Submission PasswordChange) := []

/-- `keychain` is what the rest of the app does to the keychain meanwhile. -/
inductive PasswordChangeEvent where
  | editCurrentPassword (text : String)
  | editNewPassword (text : String)
  | editPasswordRepeat (text : String)
  | completeButtonTapped
  | change (traffic : Traffic (AFResult PasswordChangeResponse))
  | keychain (keychain : Keychain)

namespace PasswordChangeViewController
variable (canonical : String → String)

def validateUserInfo (s : PasswordChangeViewController) : PasswordChangeViewController :=
  let currentPassword := s.currentPasswordTextField
  let newPassword := s.newPasswordTextField
  let repeatPassword := s.passwordRepeatTextField
  let isValidcurrentPassword := !currentPassword.isEmpty
  let isValidnewPassword := isValidPasswordFormat newPassword
  let isPasswordMatching := !repeatPassword.isEmpty && equal canonical repeatPassword newPassword
  { s with
    currentPassword, newPassword, repeatPassword
    isValidcurrentPassword, isValidnewPassword, isPasswordMatching
    currentPasswordErrorLabel :=
      errorUpdateUI s.currentPasswordErrorLabel "" isValidcurrentPassword
    newPasswordErrorLabel := errorUpdateUI s.newPasswordErrorLabel
      "영문, 숫자를 포함한 8자 이상의 비밀번호를 입력해주세요." isValidnewPassword
    passwordRepeatErrorLabel := errorUpdateUI s.passwordRepeatErrorLabel
      "비밀번호가 일치하지 않습니다." isPasswordMatching }

def handleErrorMessage (s : PasswordChangeViewController) (message : String) :
    PasswordChangeViewController :=
  if equal canonical "비밀번호가 다릅니다." message then
    { s with
      isValidcurrentPassword := false
      currentPasswordErrorLabel :=
        errorUpdateUI s.currentPasswordErrorLabel "기존 비밀번호가 틀렸습니다" false }
  else if equal canonical "비밀번호가 기존이랑 같습니다." message then
    { s with
      isValidnewPassword := false
      newPasswordErrorLabel :=
        errorUpdateUI s.newPasswordErrorLabel "비밀번호가 기존이랑 같습니다" false }
  else
    s

/-- A success pops the screen. -/
def changeHandler (s : PasswordChangeViewController) :
    AFResult PasswordChangeResponse → PasswordChangeViewController
  | .success response =>
    if response.isSuccess then s else s.handleErrorMessage canonical response.message
  | .failure => s

def completeButtonTapped (s : PasswordChangeViewController) : PasswordChangeViewController :=
  let s := s.validateUserInfo canonical
  if s.isValidcurrentPassword && s.isValidnewPassword && s.isPasswordMatching then
    match s.keychain.load .refreshToken with
    | none => s
    | some token =>
      let parameters : PasswordChangeRequestinMyPage := ⟨s.currentPassword, s.newPassword⟩
      { s with
        changes := s.changes.send ⟨parameters, token⟩
        sent := s.sent ++
          [⟨⟨parameters, token⟩, s.newPasswordTextField, s.passwordRepeatTextField⟩] }
  else
    s

def step (s : PasswordChangeViewController) :
    PasswordChangeEvent → Option PasswordChangeViewController
  | .editCurrentPassword text => some { s with currentPasswordTextField := text }
  | .editNewPassword text => some { s with newPasswordTextField := text }
  | .editPasswordRepeat text => some { s with passwordRepeatTextField := text }
  | .completeButtonTapped => some (s.completeButtonTapped canonical)
  | .change traffic =>
    let (changes, delivered) := s.changes.step traffic
    match delivered with
    | some (_, result) => some (changeHandler canonical { s with changes } result)
    | none => some { s with changes }
  | .keychain keychain => some { s with keychain }

/-- The form passes the checks. -/
def ValidForm (s : PasswordChangeViewController) : Prop :=
  s.currentPasswordTextField.isEmpty = false ∧
    ValidPasswords canonical s.newPasswordTextField s.passwordRepeatTextField

instance : DecidablePred (ValidForm canonical) := fun _ => inferInstanceAs (Decidable (_ ∧ _))

def form : PasswordForm PasswordChangeViewController PasswordChangeEvent PasswordChange where
  step := step canonical
  sent := sent
  password := fun r => r.parameters.newPassword
  Valid := ValidForm canonical

variable {canonical} {s : PasswordChangeViewController}

/-- The guard lets exactly the valid forms pass. -/
lemma guard_iff (s : PasswordChangeViewController) :
    ((s.validateUserInfo canonical).isValidcurrentPassword &&
      (s.validateUserInfo canonical).isValidnewPassword &&
      (s.validateUserInfo canonical).isPasswordMatching) = true ↔ s.ValidForm canonical := by
  simp [validateUserInfo, ValidForm, ValidPasswords, and_assoc]

/-- Handlers send nothing. -/
lemma changeHandler_sent (s : PasswordChangeViewController)
    (result : AFResult PasswordChangeResponse) :
    (s.changeHandler canonical result).sent = s.sent := by
  unfold changeHandler
  split
  · split
    · rfl
    · unfold handleErrorMessage
      split
      · rfl
      · split <;> rfl
  · rfl

/-- A tap sends the password of a valid form, or nothing. -/
lemma completeButtonTapped_sends (canonical : String → String)
    (s : PasswordChangeViewController) :
    (form canonical).Sends canonical s (s.completeButtonTapped canonical) := by
  unfold completeButtonTapped
  dsimp only
  split
  · next h =>
    have valid := s.guard_iff.1 h
    split
    · exact .nothing rfl
    · next token _ =>
      refine .submission ⟨⟨⟨_, _⟩, token⟩, _, _⟩ valid ⟨rfl, valid.2⟩ rfl
  · exact .nothing rfl

/-- A step sends nothing, or a validated password from a valid form. -/
lemma step_sends (s : PasswordChangeViewController) (e : PasswordChangeEvent) :
    ∀ t ∈ s.step canonical e, (form canonical).Sends canonical s t := by
  intro t h
  cases e with
  | completeButtonTapped => cases h; exact s.completeButtonTapped_sends canonical
  | change traffic =>
    cases hd : (s.changes.step traffic).2 with
    | none => simp only [step, hd] at h; cases h; exact .nothing rfl
    | some d =>
      simp only [step, hd] at h
      cases h
      exact .nothing (changeHandler_sent _ d.2)
  | _ => cases h; exact .nothing rfl

end PasswordChangeViewController

end TimeCapsule.MyPage
