import TimeCapsule.Login.ChangePasswordViewController
import TimeCapsule.Login.SignUpViewController
import TimeCapsule.MyPage.PasswordChangeViewController

/-!
# Submitted passwords

The three forms that send a new password side by side. The guards of the sign-up screen and of My
Page's change screen make them submit validated passwords only, whatever happens. The change screen
of the find-password flow has no guard: it does so just when it is tapped on valid forms only.
-/

namespace TimeCapsule.App
open Foundation Login MyPage

/-- The sign-up screen submits validated passwords only. -/
lemma signUp_onlyValidated (canonical : String → String) (es : List SignUpEvent) :
    (SignUpViewController.form canonical).OnlyValidated canonical {} es :=
  PasswordForm.onlyValidated_of_sends SignUpViewController.step_sends rfl es

/-- My Page's change screen submits validated passwords only. -/
lemma passwordChange_onlyValidated (canonical : String → String) (keychain : Keychain)
    (es : List PasswordChangeEvent) :
    (PasswordChangeViewController.form canonical).OnlyValidated canonical { keychain } es :=
  PasswordForm.onlyValidated_of_sends PasswordChangeViewController.step_sends rfl es

/-- All three forms submit validated passwords only. -/
def PasswordsValidated (canonical : String → String) (signUp : List SignUpEvent) (email : String)
    (change : List ChangePasswordEvent) (keychain : Keychain) (myPage : List PasswordChangeEvent) :
    Prop :=
  (SignUpViewController.form canonical).OnlyValidated canonical {} signUp ∧
    (ChangePasswordViewController.form canonical).OnlyValidated canonical { email } change ∧
    (PasswordChangeViewController.form canonical).OnlyValidated canonical { keychain } myPage

/-- All three forms submit validated passwords only, just when the button of the find-password
flow's change screen is tapped on valid forms only. -/
theorem passwords_validated_iff (canonical : String → String) (signUp : List SignUpEvent)
    (email : String) (change : List ChangePasswordEvent) (keychain : Keychain)
    (myPage : List PasswordChangeEvent) :
    PasswordsValidated canonical signUp email change keychain myPage ↔
      Run.Steps (ChangePasswordViewController.step canonical)
        (ChangePasswordViewController.TapsValid canonical) { email } change := by
  constructor
  · rintro ⟨_, only, _⟩
    exact (ChangePasswordViewController.onlyValidated_iff canonical rfl change).1 only
  · intro taps
    refine ⟨signUp_onlyValidated canonical signUp, ?_,
      passwordChange_onlyValidated canonical keychain myPage⟩
    exact (ChangePasswordViewController.onlyValidated_iff canonical rfl change).2 taps

/-- A password is changed, the fields are edited so that they differ, and the next tap sends the old
text again. -/
theorem passwords_not_validated :
    ¬ ∀ (canonical : String → String) (signUp : List SignUpEvent) (email : String)
      (change : List ChangePasswordEvent) (keychain : Keychain)
      (myPage : List PasswordChangeEvent),
      PasswordsValidated canonical signUp email change keychain myPage := by
  intro h
  have run := (h id [] "a@b.com" [.editNewPassword "abcd1234", .editPasswordRepeat "abcd1234",
    .changePawwordCompleteButtonTapped, .editNewPassword "efgh5678",
    .changePawwordCompleteButtonTapped] ∅ []).2.1.1
  revert run
  decide

end TimeCapsule.App
