import TimeCapsule.Login.ChangePasswordViewController
import TimeCapsule.Login.Verification

/-!
# The find-password screen

`FindPasswordViewController` with the change screen that it presents. The verify request carries the
address that is stored when it is sent; the handler of its success hands on the address that is
stored by then. `presented_verified_iff` says when these two make no difference.
-/

namespace TimeCapsule.Login
open Foundation

/-- The screen; `verified` is a history variable. -/
structure FindPasswordViewController where
  email : String := ""
  isValidEmail : Bool := false
  isValidVertifyCode : Bool := false
  emailTextField : String := ""
  vertifyCodeTextField : String := ""
  emailErrorLabel : UILabel := {}
  vertifyCodeErrorLabel : UILabel := {}
  sends : Wire EmailRequest (AFResult EmailResponse) := []
  verifies : VerifyWire := []
  presented : Option ChangePasswordViewController := none
  verified : List String := []
deriving DecidableEq, Repr

inductive FindPasswordEvent where
  | editEmail (text : String)
  | editVertifyCode (text : String)
  | sendButtonTapped
  | send (traffic : Traffic (AFResult EmailResponse))
  | changePasswordButtonTapped
  | verify (traffic : VerifyTraffic)
  | change (e : ChangePasswordEvent)
deriving DecidableEq, Repr

namespace FindPasswordViewController

def sendButtonTapped (s : FindPasswordViewController) : FindPasswordViewController :=
  let emailText := s.emailTextField
  if emailText.isEmpty then
    { s with emailErrorLabel := errorUpdateUI s.emailErrorLabel "" s.isValidEmail }
  else
    let s := { s with email := emailText }
    { s with sends := s.sends.send ⟨some s.email⟩ }

def changePasswordButtonTapped (s : FindPasswordViewController) : FindPasswordViewController :=
  let vertifyCode := s.vertifyCodeTextField
  if vertifyCode.isEmpty then
    { s with vertifyCodeErrorLabel :=
        errorUpdateUI s.vertifyCodeErrorLabel "인증번호가 올바른지 확인하세요" s.isValidVertifyCode }
  else
    { s with verifies := s.verifies.send ⟨s.email, vertifyCode⟩ }

/-- `present`, which UIKit ignores while another screen is presented. -/
def present (s : FindPasswordViewController) (changePwdVC : ChangePasswordViewController) :
    FindPasswordViewController :=
  match s.presented with
  | none => { s with presented := some changePwdVC }
  | some _ => s

def verifyHandler (s : FindPasswordViewController) :
    AFResult VertifyCodeResponse → FindPasswordViewController
  | .success response => if response.isSuccess then s.present { email := s.email } else s
  | .failure => s

variable (canonical : String → String)

def step (s : FindPasswordViewController) : FindPasswordEvent → Option FindPasswordViewController
  | .editEmail text => some { s with emailTextField := text }
  | .editVertifyCode text => some { s with vertifyCodeTextField := text }
  | .sendButtonTapped => some s.sendButtonTapped
  | .send traffic => some { s with sends := (s.sends.step traffic).1 }
  | .changePasswordButtonTapped => some s.changePasswordButtonTapped
  | .verify traffic =>
    let verified := s.verified ++ (Login.verifies s.verifies traffic).toList
    let (verifies, delivered) := s.verifies.step traffic
    match delivered with
    | some (_, result) => some ({ s with verifies, verified }.verifyHandler result)
    | none => some { s with verifies, verified }
  | .change e =>
    match s.presented with
    | none => some s
    | some changePwdVC => do
      let changePwdVC ← changePwdVC.step canonical e
      some { s with presented := some changePwdVC }

/-- The change screen is up for a verified address, and changes the password of no other. -/
def PresentsVerified (s : FindPasswordViewController) : Prop :=
  ∀ vc ∈ s.presented, vc.email ∈ s.verified ∧ ∀ x ∈ vc.sent, x.request.email ∈ s.verified

instance : DecidablePred PresentsVerified := fun s =>
  inferInstanceAs (Decidable (∀ vc ∈ s.presented, _ ∧ ∀ x ∈ vc.sent, _))

/-- When the success of a verify request is handled with no change screen up, the stored address is
still the one of the request, or it has been verified as well. -/
def KeepsAddress (s : FindPasswordViewController) : FindPasswordEvent → Prop
  | .verify traffic => ∀ r ∈ handlesSuccess s.verifies traffic, s.presented = none →
    s.email = r.email ∨ s.email ∈ s.verified
  | _ => True

/-- The record of verified addresses is complete, and a change screen works for its address. -/
structure Wired (s : FindPasswordViewController) : Prop where
  recorded : Recorded s.verifies s.verified
  changes : ∀ vc ∈ s.presented, ∀ x ∈ vc.sent, x.request.email = vc.email

/-! ## One step -/

variable {canonical} {s t : FindPasswordViewController}

/-- The change screen keeps its address and uses it for all its requests. -/
lemma change_email {vc vc' : ChangePasswordViewController} {e : ChangePasswordEvent}
    (h : vc.step canonical e = some vc') (own : ∀ x ∈ vc.sent, x.request.email = vc.email) :
    vc'.email = vc.email ∧ ∀ x ∈ vc'.sent, x.request.email = vc'.email := by
  cases e with
  | changePawwordCompleteButtonTapped =>
    obtain ⟨password, sent, _⟩ := vc.tap_sent canonical
    cases h
    rw [sent]
    refine ⟨rfl, fun x hx => ?_⟩
    rcases List.mem_append.1 hx with hx | hx
    · exact own x hx
    · cases List.mem_singleton.1 hx
      rfl
  | _ =>
    cases h
    exact ⟨rfl, own⟩

/-- The kinds of steps: texts, labels and the other wire; a verify request is sent; one is answered
or picked up without success; a success is handled; the change screen takes a step. -/
inductive Step (canonical : String → String) (s : FindPasswordViewController) :
    FindPasswordEvent → FindPasswordViewController → Prop where
  | keeps {e t} :
    (∀ traffic, e ≠ .verify traffic) →
    t.verifies = s.verifies → t.presented = s.presented → t.verified = s.verified →
    Step canonical s e t
  | asks {e r} :
    (∀ traffic, e ≠ .verify traffic) →
    Step canonical s e { s with verifies := s.verifies.send r }
  | verifyMoves {traffic} :
    handlesSuccess s.verifies traffic = none →
    Step canonical s (.verify traffic) { s with
      verifies := (s.verifies.step traffic).1
      verified := s.verified ++ (Login.verifies s.verifies traffic).toList }
  | success {traffic r} :
    handlesSuccess s.verifies traffic = some r →
    Step canonical s (.verify traffic) (present { s with
      verifies := (s.verifies.step traffic).1
      verified := s.verified ++ (Login.verifies s.verifies traffic).toList } { email := s.email })
  | changes {e vc vc'} :
    s.presented = some vc →
    vc.step canonical e = some vc' →
    Step canonical s (.change e) { s with presented := some vc' }

/-- The handler of a verification acts on a success only. -/
lemma verifyHandler_eq (s : FindPasswordViewController) (result : AFResult VertifyCodeResponse) :
    s.verifyHandler result = match result.accepted with
      | some _ => s.present { email := s.email }
      | none => s := by
  cases result with
  | failure => rfl
  | success response =>
    cases ok : response.isSuccess <;> simp [verifyHandler, AFResult.accepted, ok]

/-- Inversion of `step`. -/
lemma step_inv {e : FindPasswordEvent} (h : s.step canonical e = some t) :
    Step canonical s e t := by
  cases e with
  | editEmail | editVertifyCode | send => cases h; exact .keeps nofun rfl rfl rfl
  | sendButtonTapped =>
    cases h
    unfold sendButtonTapped
    dsimp only
    split <;> exact .keeps nofun rfl rfl rfl
  | changePasswordButtonTapped =>
    cases h
    unfold changePasswordButtonTapped
    dsimp only
    split
    · exact .keeps nofun rfl rfl rfl
    · exact .asks nofun
  | verify traffic =>
    cases hd : (s.verifies.step traffic).2 with
    | none =>
      simp only [step, hd] at h
      cases h
      exact .verifyMoves (by simp [handlesSuccess, hd])
    | some d =>
      obtain ⟨r, result⟩ := d
      simp only [step, hd] at h
      cases h
      rw [verifyHandler_eq]
      cases ha : result.accepted with
      | none => exact .verifyMoves (by simp [handlesSuccess, hd, ha])
      | some response => exact .success (r := r) (by simp [handlesSuccess, hd, ha])
  | change e =>
    cases hp : s.presented with
    | none =>
      simp only [step, hp] at h
      cases h
      exact .keeps nofun rfl rfl rfl
    | some vc =>
      simp only [step, hp] at h
      obtain ⟨vc', hv, h⟩ := Option.bind_eq_some_iff.1 h
      cases h
      exact .changes hp hv

/-- Presenting changes the presented screen only, and only if there is none. -/
lemma present_inv (s : FindPasswordViewController) (vc : ChangePasswordViewController) :
    s.present vc = s ∧ s.presented ≠ none ∨
      s.present vc = { s with presented := some vc } ∧ s.presented = none := by
  unfold present
  cases s.presented <;> simp

/-- Every step keeps the record, and the change screen to its address. -/
lemma step_wired (s : FindPasswordViewController) (e : FindPasswordEvent) (wired : s.Wired) :
    Run.After (step canonical) Wired s e := by
  intro t h
  obtain ⟨recorded, changes⟩ := wired
  cases step_inv h with
  | keeps _ verifies presented verified =>
    exact ⟨by rwa [verifies, verified], by rwa [presented]⟩
  | asks => exact ⟨recorded.send _, changes⟩
  | verifyMoves => exact ⟨recorded.step _, changes⟩
  | @success traffic r =>
    generalize hs : { s with
      verifies := (s.verifies.step traffic).1
      verified := s.verified ++ (Login.verifies s.verifies traffic).toList } = s'
    have recorded' : Recorded s'.verifies s'.verified := hs ▸ recorded.step traffic
    have changes' : ∀ vc ∈ s'.presented, ∀ x ∈ vc.sent, x.request.email = vc.email := hs ▸ changes
    rcases s'.present_inv { email := s.email } with ⟨e, _⟩ | ⟨e, _⟩
    · rw [e]
      exact ⟨recorded', changes'⟩
    · rw [e]
      refine ⟨recorded', fun vc hv => ?_⟩
      cases hv
      exact List.forall_mem_nil _
  | changes hp hv =>
    refine ⟨recorded, fun vc hvc => ?_⟩
    cases hvc
    exact (change_email hv (changes _ hp)).2

/-- More verified addresses do no harm. -/
lemma PresentsVerified.mono (presents : s.PresentsVerified) (same : t.presented = s.presented)
    (verified : ∀ address ∈ s.verified, address ∈ t.verified) : t.PresentsVerified := by
  intro vc hv
  obtain ⟨address, requests⟩ := presents vc (same ▸ hv)
  exact ⟨verified _ address, fun x hx => verified _ (requests x hx)⟩

/-- A screen that is presented afresh has sent nothing. -/
lemma PresentsVerified.present {s : FindPasswordViewController} {email : String}
    (presents : s.PresentsVerified) (address : s.presented = none → email ∈ s.verified) :
    (s.present { email }).PresentsVerified := by
  rcases s.present_inv { email } with ⟨e, _⟩ | ⟨e, none⟩
  · rwa [e]
  · rw [e]
    intro vc hv
    cases hv
    exact ⟨address none, List.forall_mem_nil _⟩

/-- A step hands on a verified address if it presents, and changes passwords, for verified addresses
only. -/
lemma keepsAddress_of_step (e : FindPasswordEvent)
    (after : Run.After (step canonical) PresentsVerified s e) : s.KeepsAddress e := by
  cases e with
  | verify traffic =>
    intro r hr none
    obtain ⟨t, ht⟩ : ∃ t, s.step canonical (.verify traffic) = some t := by
      cases hd : (s.verifies.step traffic).2 <;> exact ⟨_, by simp only [step, hd]; rfl⟩
    have presents := after t ht
    cases step_inv ht with
    | keeps other => exact absurd rfl (other traffic)
    | asks other => exact absurd rfl (other traffic)
    | verifyMoves idle => cases idle.symm.trans hr
    | success =>
      have address := (presents { email := s.email } (by simp [present, none])).1
      simp only [FindPasswordViewController.present, none, verifies_of_handlesSuccess hr] at address
      exact .inr (by simpa using address)
  | _ => exact trivial

/-- A step that hands on a verified address presents, and changes passwords, for verified addresses
only. -/
lemma step_presentsVerified {e : FindPasswordEvent} (wired : s.Wired) (presents : s.PresentsVerified)
    (keeps : s.KeepsAddress e) : Run.After (step canonical) PresentsVerified s e := by
  intro t h
  cases step_inv h with
  | keeps _ _ presented verified => exact presents.mono presented fun _ ha => verified ▸ ha
  | asks => exact presents
  | verifyMoves => exact presents.mono rfl fun _ ha => List.mem_append_left _ ha
  | @success traffic r hr =>
    have moved : PresentsVerified { s with
        verifies := (s.verifies.step traffic).1
        verified := s.verified ++ (Login.verifies s.verifies traffic).toList } :=
      presents.mono rfl fun _ ha => List.mem_append_left _ ha
    apply moved.present
    intro none
    -- the request's own address is on record, because its success is
    rcases keeps r hr none with same | verified
    · exact List.mem_append_left _ (same ▸ wired.recorded.handled hr)
    · exact List.mem_append_left _ verified
  | @changes _ vc vc' hp hv =>
    intro vc'' hvc
    cases hvc
    obtain ⟨email, own⟩ := change_email hv (wired.changes vc hp)
    have address := (presents vc hp).1
    refine ⟨email ▸ address, fun x hx => ?_⟩
    rw [own x hx, email]
    exact address

/-- A step presents, and changes passwords, for verified addresses only just when it hands on a
verified address. -/
lemma step_presentsVerified_iff (s : FindPasswordViewController) (e : FindPasswordEvent)
    (wired : s.Wired) (presents : s.PresentsVerified) :
    Run.After (step canonical) PresentsVerified s e ↔ s.KeepsAddress e :=
  ⟨keepsAddress_of_step e, step_presentsVerified wired presents⟩

/-- The change screen is only ever presented for a verified address, and the password of no other
address is changed, just when no success of a verify request finds another, unverified address
stored. -/
theorem presented_verified_iff (canonical : String → String) (es : List FindPasswordEvent) :
    Run.Always (step canonical) PresentsVerified {} es ↔
      Run.Steps (step canonical) KeepsAddress {} es :=
  Run.always_iff_steps_of step_wired step_presentsVerified_iff ⟨nofun, nofun⟩ nofun

/-- A code is sent to one address and asked for; before the answer arrives, a code is sent to
another address. The success of the first presents the change screen for the second. -/
theorem presented_unverified :
    ¬ ∀ (canonical : String → String) (es : List FindPasswordEvent),
      Run.Always (step canonical) PresentsVerified {} es := by
  intro h
  have run := h id [.editEmail "mine@b.com", .sendButtonTapped, .editVertifyCode "123456",
    .changePasswordButtonTapped, .editEmail "yours@b.com", .sendButtonTapped,
    .verify (.reply 0 (.success ⟨true, "200", "OK", none⟩)), .verify (.deliver 0)]
  revert run
  decide

end FindPasswordViewController

end TimeCapsule.Login
