import TimeCapsule.Home.CapsuleCreation2ViewController
import TimeCapsule.Login.Session
import TimeCapsule.MyPage.MyPageViewController

/-!
# Answers without a result

The result of an envelope is optional, and its flag says nothing about it. The handlers of the two
logins, of the user info and of an upload unwrap it by force as soon as the flag is set. The block
of an upload has added the image to the first array by then.
-/

namespace TimeCapsule
open Foundation Home Login MyPage

/-- An accepted answer has a result. -/
def Foundation.Response.HasResult {α : Type} (response : Response (Option α)) : Prop :=
  response.isSuccess = true → response.result.isSome

instance {α : Type} (response : Response (Option α)) : Decidable response.HasResult :=
  inferInstanceAs (Decidable (_ → _))

/-- An accepted answer without a result is the one that the handlers do not get through with. -/
lemma Foundation.Response.not_hasResult_iff {α : Type} {response : Response (Option α)} :
    ¬ response.HasResult ↔ response.isSuccess = true ∧ response.result = none := by
  rw [HasResult, Classical.not_imp, Option.not_isSome_iff_eq_none]

namespace Login.Session

/-- The tokens are as they were, whenever an accepted answer has no result. -/
def KeepsTokens (s : Session) (response : LoginResponse) (t : Session) : Prop :=
  response.isSuccess = true → response.result = none → t.keychain = s.keychain

/-- The handler of a login gets through just when an accepted answer has a result. -/
lemma loginHandler_finishes_iff (s : Session) (response : LoginResponse) :
    (∃ t, s.loginHandler (.success response) = some t ∧ s.KeepsTokens response t) ↔
      response.HasResult := by
  constructor
  · rintro ⟨t, ht, _⟩
    by_contra lacks
    obtain ⟨ok, none⟩ := Response.not_hasResult_iff.1 lacks
    simp [loginHandler, ok, none] at ht
  · intro has
    cases ok : response.isSuccess with
    | false =>
      exact ⟨s, by simp [loginHandler, ok], fun yes => absurd yes (by simp [ok])⟩
    | true =>
      obtain ⟨result, found⟩ := Option.isSome_iff_exists.1 (has ok)
      have finishes : ∃ t, s.loginHandler (.success response) = some t := by
        simp only [loginHandler, ok, if_true, found]
        exact ⟨_, rfl⟩
      obtain ⟨t, ht⟩ := finishes
      refine ⟨t, ht, fun _ none => ?_⟩
      simp [found] at none

end Login.Session

namespace MyPage.MyPageViewController

/-- The handler of the user info gets through just when an accepted answer has a result. -/
lemma userInfoHandler_finishes_iff (s : MyPageViewController) (response : UserResponse) :
    (s.userInfoHandler (.success response)).isSome ↔ response.HasResult := by
  cases ok : response.isSuccess with
  | false => simp [userInfoHandler, Response.HasResult, ok]
  | true => cases found : response.result <;> simp [userInfoHandler, Response.HasResult, ok, found]

end MyPage.MyPageViewController

namespace Home.CapsuleCreation2ViewController
variable {s u : CapsuleCreation2ViewController}

/-- The blocks that the handler of an upload leaves on the main queue. -/
def uploadBlocks (r : ImageUploadRequest) (response : ImageUploadResponse) : List CreationBlock :=
  if response.isSuccess then [.uploaded r.image response] else []

/-- The arrays are as they were, whenever an accepted answer has no result. -/
def KeepsImages (u : CapsuleCreation2ViewController) (response : ImageUploadResponse)
    (v : CapsuleCreation2ViewController) : Prop :=
  response.isSuccess = true → response.result = none → v.images = u.images ∧ v.imageIds = u.imageIds

/-- The handler of an upload leaves the arrays to its blocks. -/
lemma uploadHandler_blocks (r : ImageUploadRequest) (response : ImageUploadResponse) :
    (s.uploadHandler r (.success response)).main = s.main ++ uploadBlocks r response ∧
      (s.uploadHandler r (.success response)).images = s.images ∧
      (s.uploadHandler r (.success response)).imageIds = s.imageIds := by
  cases ok : response.isSuccess <;> simp [uploadHandler, uploadBlocks, ok]

/-- The blocks of an upload get through just when an accepted answer has a result, whatever the
screen has become in the meantime. -/
lemma uploadBlocks_finish_iff (r : ImageUploadRequest) (response : ImageUploadResponse)
    {main : List CreationBlock} (next : u.main = uploadBlocks r response ++ main) :
    (∃ v, Run.exec step u ((uploadBlocks r response).map fun _ => .main) = some v ∧
      u.KeepsImages response v) ↔ response.HasResult := by
  cases ok : response.isSuccess with
  | false =>
    have none : uploadBlocks r response = [] := by simp [uploadBlocks, ok]
    rw [none]
    refine iff_of_true ⟨u, rfl, fun yes => absurd yes (by simp [ok])⟩ fun yes => ?_
    simp [ok] at yes
  | true =>
    have one : uploadBlocks r response = [.uploaded r.image response] := by simp [uploadBlocks, ok]
    rw [one] at next ⊢
    have run : Run.exec step u [.main] = { u with main }.uploaded r.image response := by
      simp only [Run.exec_cons, Run.exec_nil, step, runMain, next, List.singleton_append,
        Option.bind_fun_some]
    rw [List.map_singleton, run]
    cases found : response.result with
    | none =>
      -- the image is in the first array when the unwrap fails
      refine iff_of_false ?_ fun has => ?_
      · rintro ⟨v, hv, _⟩
        simp [uploaded, found] at hv
      · simpa [found] using has ok
    | some id =>
      have finishes : ∃ v, { u with main }.uploaded r.image response = some v := by
        simp only [uploaded, found]
        exact ⟨_, rfl⟩
      obtain ⟨v, hv⟩ := finishes
      refine iff_of_true ⟨v, hv, fun _ none => ?_⟩ fun _ => ?_
      · simp [found] at none
      · simp [found]

end Home.CapsuleCreation2ViewController

/-- The handlers of the logins, of the user info and of an upload get through and keep tokens and
arrays on an answer without a result just when an accepted answer has a result. -/
theorem handlers_finish_iff (session : Session) (login : LoginResponse)
    (page : MyPageViewController) (info : UserResponse) (screen : CapsuleCreation2ViewController)
    (r : ImageUploadRequest) (upload : ImageUploadResponse) :
    ((∃ t, session.loginHandler (.success login) = some t ∧ session.KeepsTokens login t) ↔
      login.HasResult) ∧
    ((page.userInfoHandler (.success info)).isSome ↔ info.HasResult) ∧
    (screen.uploadHandler r (.success upload)).main =
      screen.main ++ CapsuleCreation2ViewController.uploadBlocks r upload ∧
    (screen.uploadHandler r (.success upload)).images = screen.images ∧
    (screen.uploadHandler r (.success upload)).imageIds = screen.imageIds ∧
    ∀ (u : CapsuleCreation2ViewController) (main : List CreationBlock),
      u.main = CapsuleCreation2ViewController.uploadBlocks r upload ++ main →
      ((∃ v, Run.exec CapsuleCreation2ViewController.step u
          ((CapsuleCreation2ViewController.uploadBlocks r upload).map fun _ => .main) = some v ∧
        u.KeepsImages upload v) ↔ upload.HasResult) := by
  obtain ⟨blocks, images, imageIds⟩ : (screen.uploadHandler r (.success upload)).main =
      screen.main ++ CapsuleCreation2ViewController.uploadBlocks r upload ∧
      (screen.uploadHandler r (.success upload)).images = screen.images ∧
      (screen.uploadHandler r (.success upload)).imageIds = screen.imageIds :=
    CapsuleCreation2ViewController.uploadHandler_blocks r upload
  refine ⟨session.loginHandler_finishes_iff login, page.userInfoHandler_finishes_iff info, blocks,
    images, imageIds, ?_⟩
  intro u main next
  exact CapsuleCreation2ViewController.uploadBlocks_finish_iff r upload next

/-- A login is accepted in an envelope without a result: its handler traps. -/
theorem handlers_finish_not :
    ¬ ((∀ (s : Session) (response : LoginResponse),
      ∃ t, s.loginHandler (.success response) = some t ∧ s.KeepsTokens response t) ∧
    (∀ (s : MyPageViewController) (response : UserResponse),
      (s.userInfoHandler (.success response)).isSome) ∧
    ∀ (u : CapsuleCreation2ViewController) (r : ImageUploadRequest) (response : ImageUploadResponse)
      (main : List CreationBlock),
      u.main = CapsuleCreation2ViewController.uploadBlocks r response ++ main →
      ∃ v, Run.exec CapsuleCreation2ViewController.step u
          ((CapsuleCreation2ViewController.uploadBlocks r response).map fun _ => .main) = some v ∧
        u.KeepsImages response v) := by
  rintro ⟨login, _, _⟩
  obtain ⟨t, ht, _⟩ := login (.launch ∅) ⟨true, "200", "OK", none⟩
  cases ht

end TimeCapsule
