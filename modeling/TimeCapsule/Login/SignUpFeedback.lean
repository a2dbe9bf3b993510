import TimeCapsule.Login.SignUpViewController

/-!
# What the sign-up screen shows

Two things the sign-up screen shows of its state: the error labels of its fields, and whether the
confirm button can be tapped. The label of the address is driven by a flag that the send-code tap
does not compute but finds (`shows_errors_iff`), and the button stays disabled when the stored
address changes (`lock_verified_iff`).
-/

namespace TimeCapsule.Login
open Foundation

namespace SignUpViewController

/-! ## Error labels -/

/-- What the labels tell after an event: a rejected field has a visible error, and the complete tap
hides those of the fields it accepts. -/
def LabelsTell (canonical : String → String) (s t : SignUpViewController) : SignUpEvent → Prop
  | .emailVertifyButtonTapped =>
    s.emailTextField.isEmpty = true ∨ isValidEmailFormat s.emailTextField = false →
      t.emailErrorLabel.isHidden = false
  | .vertifyCodeButtonTapped =>
    s.emailVertifyCheckedButtonIsEnabled = true → s.emailVertifyTextField.isEmpty = true →
      t.emailVertifyErrorLabel.isHidden = false
  | .completeButtonTapped =>
    t.emailErrorLabel.isHidden = isValidEmailFormat s.emailTextField ∧
      t.nicknameErrorLabel.isHidden = !s.nicknameTextField.isEmpty ∧
      t.passwordErrorLabel.isHidden = isValidPasswordFormat s.passwordTextField ∧
      t.passwordRepeatErrorLabel.isHidden = (!s.passwordRepeatTextField.isEmpty &&
        equal canonical s.passwordRepeatTextField s.passwordTextField)
  | _ => True

/-- The labels tell what the step has found. -/
def ShowsErrors (canonical : String → String) (s : SignUpViewController) (e : SignUpEvent) : Prop :=
  ∀ t ∈ s.step canonical e, LabelsTell canonical s t e

/-- A send-code tap on an address that it rejects finds the address flagged as invalid. -/
def FindsInvalid (s : SignUpViewController) : SignUpEvent → Prop
  | .emailVertifyButtonTapped =>
    isValidEmailFormat s.emailTextField = false → s.isValidEmail = false
  | _ => True

/-! ## The confirm button -/

/-- The confirm button is disabled only for an address that the server has verified. -/
def LockVerified (s : SignUpViewController) : Prop :=
  s.emailVertifyCheckedButtonIsEnabled = false → s.email ∈ s.verified

instance : DecidablePred LockVerified := fun s =>
  inferInstanceAs (Decidable (s.emailVertifyCheckedButtonIsEnabled = false → s.email ∈ s.verified))

/-- The button is switched off, and while it is off an address is stored, only for an address that
has been verified. -/
def KeepsLock (canonical : String → String) (s : SignUpViewController) : SignUpEvent → Prop
  | .main => 0 < s.main → s.email ∈ s.verified
  | .emailVertifyButtonTapped =>
    s.emailVertifyCheckedButtonIsEnabled = false → isValidEmailFormat s.emailTextField = true →
      s.emailTextField ∈ s.verified
  | .completeButtonTapped =>
    s.emailVertifyCheckedButtonIsEnabled = false → s.ValidForm canonical →
      s.emailTextField ∈ s.verified
  | _ => True

variable {canonical : String → String} {s t : SignUpViewController}

/-! ## What the taps do -/

/-- Validation shows what it finds. -/
lemma validateUserInfo_shows (canonical : String → String) (s : SignUpViewController) :
    LabelsTell canonical s (s.validateUserInfo canonical) .completeButtonTapped := by
  unfold validateUserInfo
  dsimp only
  split <;> simp [LabelsTell]

/-- The complete tap shows what the validation finds, whether it sends the form or not. -/
lemma completeButtonTapped_shows (canonical : String → String) (s : SignUpViewController) :
    LabelsTell canonical s (s.completeButtonTapped canonical) .completeButtonTapped := by
  have shows := s.validateUserInfo_shows canonical
  unfold completeButtonTapped
  dsimp only
  generalize s.validateUserInfo canonical = v at shows ⊢
  split
  · exact shows
  · exact shows

/-- The complete tap stores the address of a valid form, may send it, and keeps the rest. -/
lemma completeButtonTapped_keeps (canonical : String → String) (s : SignUpViewController) :
    Keeps { s with
        email := if s.ValidForm canonical then s.emailTextField else s.email
        sent := (s.completeButtonTapped canonical).sent }
      (s.completeButtonTapped canonical) := by
  have keeps := s.validateUserInfo_keeps canonical
  unfold completeButtonTapped
  dsimp only
  generalize s.validateUserInfo canonical = v at keeps ⊢
  cases v.isValidEmail && v.isValidNickname && v.isValidPassword && v.isPasswordMatching with
  | false => exact ⟨rfl, keeps.verified, keeps.email, keeps.button, keeps.code⟩
  | true => exact ⟨rfl, keeps.verified, keeps.email, keeps.button, keeps.code⟩

/-- A rejecting send-code tap shows the flag that it finds. -/
lemma emailVertifyButtonTapped_shows
    (malformed : isValidEmailFormat s.emailTextField = false) :
    s.emailVertifyButtonTapped.emailErrorLabel.isHidden = s.isValidEmail := by
  unfold emailVertifyButtonTapped
  dsimp only
  split
  · simp
  · simp [malformed]

/-- No step makes the code valid. -/
lemma step_code (s : SignUpViewController) (e : SignUpEvent)
    (code : s.isValidVertifyCode = false) :
    Run.After (step canonical) (fun t => t.isValidVertifyCode = false) s e := by
  intro t h
  cases e with
  | editEmail | editEmailVertify | editNickname | editPassword | editPasswordRepeat =>
    cases h
    exact code
  | emailVertifyButtonTapped =>
    cases h
    exact s.emailVertifyButtonTapped_keeps.code code
  | vertifyCodeButtonTapped =>
    cases h
    exact s.vertifyCodeButtonTapped_keeps.code code
  | main =>
    cases h
    unfold runMain
    split <;> exact code
  | completeButtonTapped =>
    cases h
    exact (s.completeButtonTapped_keeps canonical).code code
  | send => exact (step_send h).code code
  | verify => exact (step_verify h).code code
  | signup => exact (step_signup h).code code

/-! ## Rejected fields -/

/-- While the code is not valid, only a send-code tap can hide an error: it shows the flag it
finds. -/
lemma showsErrors_iff (s : SignUpViewController) (e : SignUpEvent)
    (code : s.isValidVertifyCode = false) : ShowsErrors canonical s e ↔ s.FindsInvalid e := by
  cases e with
  | emailVertifyButtonTapped =>
    constructor
    · intro shows malformed
      rw [← emailVertifyButtonTapped_shows malformed]
      exact shows _ rfl (.inr malformed)
    · intro finds t h rejected
      cases h
      have malformed := rejected.elim isValidEmailFormat_of_isEmpty id
      rw [emailVertifyButtonTapped_shows malformed]
      exact finds malformed
  | vertifyCodeButtonTapped =>
    refine iff_of_true (fun t h enabled empty => ?_) trivial
    cases h
    simp [vertifyCodeButtonTapped, enabled, empty, code]
  | completeButtonTapped =>
    refine iff_of_true (fun t h => ?_) trivial
    cases h
    exact s.completeButtonTapped_shows canonical
  | _ => exact iff_of_true (fun _ _ => trivial) trivial

/-- In a run, the labels tell what the taps find just when every send-code tap on an address that it
rejects finds the address flagged as invalid. -/
theorem shows_errors_iff (canonical : String → String) (es : List SignUpEvent) :
    Run.Steps (step canonical) (ShowsErrors canonical) {} es ↔
      Run.Steps (step canonical) FindsInvalid {} es :=
  Run.Steps.congr step_code showsErrors_iff rfl

/-- A form is completed, its address is edited, and the send-code tap that rejects the new one hides
the error. -/
theorem error_hidden :
    ¬ ∀ (canonical : String → String) (es : List SignUpEvent),
      Run.Steps (step canonical) (ShowsErrors canonical) {} es := by
  intro h
  have run := (h id [.editEmail "a@b.com", .completeButtonTapped, .editEmail "a@b",
    .emailVertifyButtonTapped]).2 _ rfl
  have visible := ((run.2 _ rfl).2 _ rfl).1 _ rfl (.inr (by decide))
  revert visible
  decide

/-! ## The locked button -/

/-- What a tap that stores an address does to the lock. -/
lemma lockVerified_iff_of_stores {P : Prop} [Decidable P] {text : String}
    {sent : List (Submission SignupRequest)} (lock : s.LockVerified)
    (keeps : Keeps { s with email := if P then text else s.email, sent } t) :
    t.LockVerified ↔ (s.emailVertifyCheckedButtonIsEnabled = false → P → text ∈ s.verified) := by
  rw [LockVerified, keeps.button, keeps.verified, keeps.email]
  constructor
  · intro locked off stores
    have mem := locked off
    rwa [if_pos stores] at mem
  · intro stored off
    split
    · next stores => exact stored off stores
    · exact lock off

/-- An answer adds to the record at most. -/
lemma Keeps.lockVerified {verified : List String} (keeps : Keeps { s with verified } t)
    (more : s.verified ⊆ verified) (lock : s.LockVerified) : t.LockVerified := by
  intro off
  rw [keeps.button] at off
  rw [keeps.email, keeps.verified]
  exact more (lock off)

/-- A step keeps the lock on verified addresses just when it meets the condition. -/
lemma step_lockVerified_iff (s : SignUpViewController) (e : SignUpEvent) (lock : s.LockVerified) :
    Run.After (step canonical) LockVerified s e ↔ s.KeepsLock canonical e := by
  cases e with
  | editEmail | editEmailVertify | editNickname | editPassword | editPasswordRepeat =>
    exact iff_of_true (fun t h => by cases h; exact lock) trivial
  | emailVertifyButtonTapped =>
    rw [Run.after_iff_of_step rfl]
    exact lockVerified_iff_of_stores lock s.emailVertifyButtonTapped_keeps
  | completeButtonTapped =>
    rw [Run.after_iff_of_step rfl]
    exact lockVerified_iff_of_stores lock (s.completeButtonTapped_keeps canonical)
  | vertifyCodeButtonTapped =>
    refine iff_of_true (fun t h => ?_) trivial
    cases h
    exact s.vertifyCodeButtonTapped_keeps.lockVerified (.refl _) lock
  | main =>
    rw [Run.after_iff_of_step rfl, runMain]
    split
    · next block => exact ⟨fun locked _ => locked rfl, fun verified _ => verified block⟩
    · next block => exact iff_of_true lock fun h => absurd h block
  | send => exact iff_of_true (fun t h => (step_send h).lockVerified (.refl _) lock) trivial
  | signup => exact iff_of_true (fun t h => (step_signup h).lockVerified (.refl _) lock) trivial
  | verify =>
    refine iff_of_true (fun t h => ?_) trivial
    exact (step_verify h).lockVerified (List.subset_append_left ..) lock

/-- In every state of a run the confirm button is disabled only for a verified address, just when it
is switched off for verified addresses only, and only these are stored while it is off. -/
theorem lock_verified_iff (canonical : String → String) (es : List SignUpEvent) :
    Run.Always (step canonical) LockVerified {} es ↔
      Run.Steps (step canonical) (KeepsLock canonical) {} es :=
  Run.always_iff_steps step_lockVerified_iff nofun

/-- After the confirmation of an address a code is sent to another one. -/
theorem locked_unverified :
    ¬ ∀ (canonical : String → String) (es : List SignUpEvent),
      Run.Always (step canonical) LockVerified {} es := by
  intro h
  have run := h id [.editEmail "a@b.com", .emailVertifyButtonTapped, .editEmailVertify "1234",
    .vertifyCodeButtonTapped, .verify (.reply 0 (.success ⟨true, "200", "OK", none⟩)),
    .verify (.deliver 0), .main, .editEmail "c@d.com", .emailVertifyButtonTapped]
  revert run
  decide

end SignUpViewController

end TimeCapsule.Login
