import TimeCapsule.Lib.Run
import TimeCapsule.Lib.Wire
import TimeCapsule.Login.Submission
import TimeCapsule.Login.UserModel

/-!
# The change screen of the find-password flow

`ChangePasswordViewController`. A tap on the button validates the form, which stores the password if
it is valid, and sends the stored password in any case. What a success does to the window is part of
the session (`Session.resetHandler`).
-/

namespace TimeCapsule.Login
open Foundation

/-- The screen; `sent` is a history variable. -/
structure ChangePasswordViewController where
  email : String := ""
  newPassword : String := ""
  isValidnewPassword : Bool := false
  isPasswordMatching : Bool := false
  newPasswordTextField : String := ""
  passwordRepeatTextField : String := ""
  newPasswordErrorLabel : UILabel := {}
  passwordRepeatErrorLabel : UILabel := {}
  changes : Wire PasswordChangeRequestinLoginPage (AFResult PasswordChangeResponse) := []
  sent : List (Submission PasswordChangeRequestinLoginPage) := []
deriving DecidableEq, Repr

inductive ChangePasswordEvent where
  | editNewPassword (text : String)
  | editPasswordRepeat (text : String)
  | changePawwordCompleteButtonTapped
  | change (traffic : Traffic (AFResult PasswordChangeResponse))
deriving DecidableEq, Repr

namespace ChangePasswordViewController
variable (canonical : String → String)

def validateUserInfo (s : ChangePasswordViewController) : ChangePasswordViewController :=
  let newpasswordText := s.newPasswordTextField
  let repeatPasswordText := s.passwordRepeatTextField
  let isValidnewPassword := isValidPasswordFormat newpasswordText
  let isPasswordMatching :=
    !repeatPasswordText.isEmpty && equal canonical repeatPasswordText newpasswordText
  { s with
    isValidnewPassword
    isPasswordMatching
    newPassword := if isValidnewPassword && isPasswordMatching then newpasswordText else s.newPassword
    newPasswordErrorLabel := errorUpdateUI s.newPasswordErrorLabel
      "영문, 숫자를 포함한 8자 이상의 비밀번호를 입력해주세요." isValidnewPassword
    passwordRepeatErrorLabel := errorUpdateUI s.passwordRepeatErrorLabel
      "비밀번호가 일치하지 않습니다." isPasswordMatching }

/-- The request is not guarded by the checks. -/
def changePawwordCompleteButtonTapped (s : ChangePasswordViewController) :
    ChangePasswordViewController :=
  let s := s.validateUserInfo canonical
  let parameters : PasswordChangeRequestinLoginPage := ⟨s.email, s.newPassword⟩
  { s with
    changes := s.changes.send parameters
    sent := s.sent ++ [⟨parameters, s.newPasswordTextField, s.passwordRepeatTextField⟩] }

def step (s : ChangePasswordViewController) :
    ChangePasswordEvent → Option ChangePasswordViewController
  | .editNewPassword text => some { s with newPasswordTextField := text }
  | .editPasswordRepeat text => some { s with passwordRepeatTextField := text }
  | .changePawwordCompleteButtonTapped => some (s.changePawwordCompleteButtonTapped canonical)
  | .change traffic => some { s with changes := (s.changes.step traffic).1 }

/-- The form passes the checks. -/
def ValidForm (s : ChangePasswordViewController) : Prop :=
  ValidPasswords canonical s.newPasswordTextField s.passwordRepeatTextField

instance : DecidablePred (ValidForm canonical) := fun _ =>
  inferInstanceAs (Decidable (ValidPasswords _ _ _))

def form : PasswordForm ChangePasswordViewController ChangePasswordEvent
    PasswordChangeRequestinLoginPage where
  step := step canonical
  sent := sent
  password := PasswordChangeRequestinLoginPage.password
  Valid := ValidForm canonical

/-- The button is tapped only on a valid form. -/
def TapsValid (s : ChangePasswordViewController) : ChangePasswordEvent → Prop
  | .changePawwordCompleteButtonTapped => s.ValidForm canonical
  | _ => True

variable {canonical}

/-- A tap sends the stored password, which is the one in the field if the form is valid. -/
lemma tap_sent (canonical : String → String) (s : ChangePasswordViewController) :
    ∃ password, (s.changePawwordCompleteButtonTapped canonical).sent = s.sent ++
        [⟨⟨s.email, password⟩, s.newPasswordTextField, s.passwordRepeatTextField⟩] ∧
      (s.ValidForm canonical → password = s.newPasswordTextField) := by
  refine ⟨_, rfl, ?_⟩
  rintro ⟨format, nonempty, matching⟩
  simp [validateUserInfo, format, nonempty, matching]

/-- What a tap sends is validated exactly if the form is valid. -/
lemma tap_validated (canonical : String → String) (s : ChangePasswordViewController) :
    ∃ x : Submission PasswordChangeRequestinLoginPage,
      (s.changePawwordCompleteButtonTapped canonical).sent = s.sent ++ [x] ∧
      (x.Validated canonical PasswordChangeRequestinLoginPage.password ↔
        s.ValidForm canonical) := by
  obtain ⟨password, sent, stored⟩ := tap_sent canonical s
  exact ⟨_, sent, And.right, fun valid => ⟨stored valid, valid⟩⟩

/-- A step sends nothing but validated passwords just when it is no tap on an invalid form. -/
lemma step_validated_iff (s : ChangePasswordViewController) (e : ChangePasswordEvent)
    (only : (form canonical).Validated canonical s) :
    Run.After (step canonical) ((form canonical).Validated canonical) s e ↔
      s.TapsValid canonical e := by
  cases e with
  | changePawwordCompleteButtonTapped =>
    obtain ⟨x, sent, validated⟩ := tap_validated canonical s
    constructor
    · intro after
      have mem : x ∈ (s.changePawwordCompleteButtonTapped canonical).sent := by
        rw [sent]
        exact List.mem_append_right _ (List.mem_singleton.2 rfl)
      exact validated.1 (after _ rfl x mem)
    · intro valid t ht
      cases ht
      exact PasswordForm.Sends.validated (.submission x valid (validated.2 valid) sent) only
  | _ =>
    refine ⟨fun _ => trivial, fun _ t ht => ?_⟩
    cases ht
    exact only

/-- A step that is no tap on an invalid form sends nothing from an invalid form. -/
lemma TapsValid.silent {s : ChangePasswordViewController} {e : ChangePasswordEvent}
    (taps : s.TapsValid canonical e) : (form canonical).Silent s e := by
  intro invalid t ht
  cases e with
  | changePawwordCompleteButtonTapped => exact absurd taps invalid
  | _ => cases ht; rfl

/-- Only validated passwords are submitted just when the button is tapped on valid forms only. -/
theorem onlyValidated_iff (canonical : String → String) {s : ChangePasswordViewController}
    (init : s.sent = []) (es : List ChangePasswordEvent) :
    (form canonical).OnlyValidated canonical s es ↔
      Run.Steps (step canonical) (TapsValid canonical) s es := by
  have validated : (form canonical).Validated canonical s := by
    rw [PasswordForm.Validated, show (form canonical).sent s = [] from init]
    exact List.forall_mem_nil _
  have always : Run.Always (step canonical) ((form canonical).Validated canonical) s es ↔
      Run.Steps (step canonical) (TapsValid canonical) s es :=
    Run.always_iff_steps step_validated_iff validated
  exact ⟨fun h => always.1 h.1, fun h => ⟨always.2 h, h.mono fun _ _ => TapsValid.silent⟩⟩

end ChangePasswordViewController

end TimeCapsule.Login
