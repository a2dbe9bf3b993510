import TimeCapsule.Lib.Run
import TimeCapsule.Foundation.UIViewController

/-!
# Submitted passwords

What the three forms that send a new password have in common: a request is kept with the texts that
stood in the two password fields at the tap that sent it. A form whose steps send nothing, or a
validated request from valid fields, submits validated passwords only (`onlyValidated_of_sends`).
-/

namespace TimeCapsule.Login
open Foundation

/-- A request, with the password fields at the tap that sent it. -/
structure Submission (ρ : Type) where
  request : ρ
  newPassword : String
  passwordRepeat : String
deriving DecidableEq, Repr

/-- The two password fields pass the checks: the format, and a repetition that is not empty. -/
def ValidPasswords (canonical : String → String) (newPassword passwordRepeat : String) : Prop :=
  isValidPasswordFormat newPassword = true ∧ passwordRepeat.isEmpty = false ∧
    equal canonical passwordRepeat newPassword = true

instance (canonical : String → String) (newPassword passwordRepeat : String) :
    Decidable (ValidPasswords canonical newPassword passwordRepeat) :=
  inferInstanceAs (Decidable (_ ∧ _ ∧ _))

/-- A request carries the password that stood in the field, and the fields passed the checks. -/
def Submission.Validated {ρ : Type} (canonical : String → String) (password : ρ → String)
    (x : Submission ρ) : Prop :=
  password x.request = x.newPassword ∧ ValidPasswords canonical x.newPassword x.passwordRepeat

instance {ρ : Type} (canonical : String → String) (password : ρ → String) :
    DecidablePred (Submission.Validated canonical password) := fun _ =>
  inferInstanceAs (Decidable (_ ∧ _))

/-- A screen with a form that sends a new password: its steps, the requests it has sent, the
password in a request, and the checks on its fields. -/
structure PasswordForm (σ ε ρ : Type) where
  step : σ → ε → Option σ
  sent : σ → List (Submission ρ)
  password : ρ → String
  Valid : σ → Prop

namespace PasswordForm

variable {σ ε ρ : Type} (f : PasswordForm σ ε ρ) (canonical : String → String)

/-- Every request that was sent carries the validated password. -/
def Validated (s : σ) : Prop := ∀ x ∈ f.sent s, x.Validated canonical f.password

instance : DecidablePred (f.Validated canonical) := fun s =>
  inferInstanceAs (Decidable (∀ x ∈ f.sent s, x.Validated canonical f.password))

/-- From an invalid form the step sends nothing. -/
def Silent (s : σ) (e : ε) : Prop := ¬ f.Valid s → Run.After f.step (f.sent · = f.sent s) s e

/-- Only validated passwords are submitted along a run. -/
def OnlyValidated (s : σ) (es : List ε) : Prop :=
  Run.Always f.step (f.Validated canonical) s es ∧ Run.Steps f.step f.Silent s es

/-- Nothing is sent, or a validated request from a valid form. -/
inductive Sends (s t : σ) : Prop where
  | nothing : f.sent t = f.sent s → Sends s t
  | submission (x : Submission ρ) :
    f.Valid s → x.Validated canonical f.password → f.sent t = f.sent s ++ [x] → Sends s t

variable {f canonical} {s t : σ}

/-- Requests stay validated. -/
lemma Sends.validated (h : f.Sends canonical s t) (only : f.Validated canonical s) :
    f.Validated canonical t := by
  cases h with
  | nothing sent => rwa [Validated, sent]
  | submission x _ validated sent =>
    rw [Validated, sent]
    intro y hy
    rcases List.mem_append.1 hy with hy | hy
    · exact only y hy
    · cases List.mem_singleton.1 hy
      exact validated

/-- An invalid form sends nothing. -/
lemma Sends.silent (h : f.Sends canonical s t) (invalid : ¬ f.Valid s) : f.sent t = f.sent s := by
  cases h with
  | nothing sent => exact sent
  | submission _ valid => exact absurd valid invalid

/-- If every step sends nothing or a validated request from a valid form, only validated passwords
are submitted. -/
theorem onlyValidated_of_sends (sends : ∀ s e, ∀ t ∈ f.step s e, f.Sends canonical s t)
    (init : f.sent s = []) (es : List ε) : f.OnlyValidated canonical s es := by
  have always : Run.Always f.step (f.Validated canonical) s es := by
    refine Run.always_of_keeps (fun s e only t ht => (sends s e t ht).validated only) ?_ es
    rw [Validated, init]
    exact List.forall_mem_nil _
  exact ⟨always, always.steps fun s e _ invalid t ht => (sends s e t ht).silent invalid⟩

end PasswordForm

end TimeCapsule.Login
