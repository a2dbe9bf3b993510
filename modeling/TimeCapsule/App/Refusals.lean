import TimeCapsule.App.App
import TimeCapsule.Home.CapsuleCreation2ViewController

/-!
# Refused requests

What the handlers do with an answer whose envelope says that the request was refused. The handlers
of login, logout, withdrawal, upload and creation look at the flag first. Those of lists and pages
do not: they store what the envelope carries, so a refusal goes unnoticed only if it restates what
the store holds.
-/

namespace TimeCapsule
open Foundation Home Login

namespace Home.TimeCapsulePreviewModel

/-- Arrays and paging position are the same. -/
def Same (m m' : TimeCapsulePreviewModel) : Prop :=
  m'.original = m.original ∧ m'.filtered = m.filtered ∧ m'.cursor = m.cursor ∧
    m'.hasNext = m.hasNext

/-- The displayed list is the view of `original`, and a list brings no new id. -/
def Covers (m : TimeCapsulePreviewModel) (timeCapsules : List TimeCapsulePreview) : Prop :=
  (∀ c ∈ timeCapsules, c.id ∈ m.original.map (·.id)) ∧ m.filtered = m.view m.original

/-- A page names the position that is stored. -/
def AtPage (m : TimeCapsulePreviewModel) (result : TimeCapsulePreviewResult) : Prop :=
  result.cursor = m.cursor ∧ (result.hasNext = false → m.hasNext = false)

instance (m m' : TimeCapsulePreviewModel) : Decidable (m.Same m') :=
  inferInstanceAs (Decidable (_ ∧ _ ∧ _ ∧ _))

instance (m : TimeCapsulePreviewModel) : DecidablePred m.Covers := fun _ =>
  inferInstanceAs (Decidable (_ ∧ _))

instance (m : TimeCapsulePreviewModel) : DecidablePred m.AtPage := fun _ =>
  inferInstanceAs (Decidable (_ ∧ _))

variable {m : TimeCapsulePreviewModel}

/-- A merge changes nothing just when the list is covered. -/
lemma fetch_same_iff (r : List TimeCapsulePreview) :
    m.Same (m.fetchTimeCapsulePreviews r) ↔ m.Covers r := by
  rw [Same, fetchTimeCapsulePreviews_filtered, fetchTimeCapsulePreviews_original, Covers,
    Keyed.mergeOn_eq_left_iff]
  constructor
  · rintro ⟨known, filtered, _⟩
    rw [Keyed.mergeOn_eq_left_iff.2 known] at filtered
    exact ⟨known, filtered.symm⟩
  · rintro ⟨known, viewed⟩
    rw [Keyed.mergeOn_eq_left_iff.2 known, viewed]
    exact ⟨known, rfl, filter_cursor _, filter_hasNext _⟩

/-- The first refresh of a deletion changes nothing just when it brings `original`. -/
lemma confirmedDeletion_same_iff (r : List TimeCapsulePreview) :
    m.Same (m.confirmedDeletion r) ↔ r = m.original :=
  ⟨fun same => same.1, fun same => ⟨same, rfl, rfl, rfl⟩⟩

/-- What the page service stores is the same just when the page names the stored position. -/
lemma pageInfo_iff (result : TimeCapsulePreviewResult) :
    (m.pageInfo result.hasNext result.cursor).cursor = m.cursor ∧
      (m.pageInfo result.hasNext result.cursor).hasNext = m.hasNext ↔ m.AtPage result := by
  apply and_congr_right
  intro _
  cases result.hasNext with
  | true => exact ⟨fun _ more => Bool.noConfusion more, fun _ => rfl⟩
  | false => exact ⟨fun same _ => same.symm, fun none => (none rfl).symm⟩

/-- A merged page changes nothing just when it is covered, names the stored position, and there are
no duplicates to remove. -/
lemma page_same_iff (result : TimeCapsulePreviewResult) :
    m.Same ((m.pageInfo result.hasNext result.cursor).fetchTimeCapsulePreviews
      result.capsuleList).removeDuplicate ↔
    m.AtPage result ∧ m.Covers result.capsuleList ∧ m.original.Nodup := by
  rw [← pageInfo_iff]
  generalize hm : m.pageInfo result.hasNext result.cursor = m1
  have original : m1.original = m.original := by rw [← hm]; rfl
  have view : m1.view = m.view := by rw [← hm]; rfl
  have cursor : (m1.fetchTimeCapsulePreviews result.capsuleList).removeDuplicate.cursor = m1.cursor :=
    filter_cursor _
  have hasNext : (m1.fetchTimeCapsulePreviews result.capsuleList).removeDuplicate.hasNext =
    m1.hasNext := filter_hasNext _
  have arrays : (m1.fetchTimeCapsulePreviews result.capsuleList).removeDuplicate.original =
      removingDuplicates (Keyed.mergeOn (·.id) m.original result.capsuleList) ∧
      (m1.fetchTimeCapsulePreviews result.capsuleList).removeDuplicate.filtered =
      removingDuplicates (m.view (Keyed.mergeOn (·.id) m.original result.capsuleList)) := by
    rw [← original, ← view]
    constructor
    · exact congrArg _ (fetchTimeCapsulePreviews_original _)
    · exact congrArg _ ((fetchTimeCapsulePreviews_filtered _).trans
        (congrArg _ (fetchTimeCapsulePreviews_original _)))
  rw [Same, arrays.1, arrays.2, cursor, hasNext, Covers]
  constructor
  · rintro ⟨same, filtered, position⟩
    have nodup : m.original.Nodup := by
      rw [← same, removingDuplicates_eq]
      exact List.Nodup.of_map id Keyed.nodup_newOn
    have known : ∀ c ∈ result.capsuleList, c.id ∈ m.original.map (·.id) := by
      intro c hc
      have key : c.id ∈ (Keyed.mergeOn (·.id) m.original result.capsuleList).map (·.id) :=
        Keyed.key_mem_mergeOn.2 (.inr (List.mem_map_of_mem (f := (·.id)) hc))
      obtain ⟨d, hd, e⟩ := List.mem_map.1 key
      rw [← mem_removingDuplicates, same] at hd
      exact List.mem_map.2 ⟨d, hd, e⟩
    have shown : (m.view m.original).Nodup := nodup.filter _
    rw [Keyed.mergeOn_eq_left_iff.2 known, removingDuplicates_of_nodup shown] at filtered
    exact ⟨position, ⟨known, filtered.symm⟩, nodup⟩
  · rintro ⟨position, ⟨known, viewed⟩, nodup⟩
    rw [Keyed.mergeOn_eq_left_iff.2 known, viewed, removingDuplicates_of_nodup nodup]
    exact ⟨rfl, removingDuplicates_of_nodup (nodup.filter _), position⟩

/-- The page of `viewDidLoad` changes nothing just when it restates `original` and the position. -/
lemma firstFetch_same_iff (result : TimeCapsulePreviewResult) :
    m.Same ((m.pageInfo result.hasNext result.cursor).firstFetch result.capsuleList) ↔
    m.AtPage result ∧ result.capsuleList = m.original ∧ m.filtered = m.view m.original := by
  rw [← pageInfo_iff, Same, firstFetch_original]
  have filtered : ((m.pageInfo result.hasNext result.cursor).firstFetch result.capsuleList).filtered =
      m.view result.capsuleList := filter_filtered _
  have position : ((m.pageInfo result.hasNext result.cursor).firstFetch result.capsuleList).cursor =
      (m.pageInfo result.hasNext result.cursor).cursor ∧
      ((m.pageInfo result.hasNext result.cursor).firstFetch result.capsuleList).hasNext =
      (m.pageInfo result.hasNext result.cursor).hasNext := ⟨filter_cursor _, filter_hasNext _⟩
  rw [filtered, position.1, position.2]
  constructor
  · rintro ⟨same, shown, position⟩
    exact ⟨position, same, by rw [← shown, same]⟩
  · rintro ⟨position, same, viewed⟩
    exact ⟨same, by rw [viewed, same], position⟩

end Home.TimeCapsulePreviewModel

/-- The app and a creation screen in it. -/
structure Client where
  app : App
  creation : CapsuleCreation2ViewController

/-- An answer that has been decoded, with the request that its handler keeps. -/
inductive Answer where
  | list (r : FetchRequest) (response : TimeCapsulePreviewResponse)
  | page (r : PageRequest) (response : TimeCapsulePreviewPaginationResponse)
  | login (response : LoginResponse)
  | logout (response : DeleteUserResponse)
  | withdraw (response : DeleteUserResponse)
  | upload (r : ImageUploadRequest) (response : ImageUploadResponse)
  | creation (response : CapsuleResponse)
deriving DecidableEq, Repr

def Answer.isSuccess : Answer → Bool
  | .list _ response => response.isSuccess
  | .page _ response => response.isSuccess
  | .login response => response.isSuccess
  | .logout response => response.isSuccess
  | .withdraw response => response.isSuccess
  | .upload _ response => response.isSuccess
  | .creation response => response.isSuccess

namespace Client

/-- Run the handler of an answer. -/
def handle (c : Client) : Answer → Option Client
  | .list r response =>
    some { c with
      app.home := c.app.home.fetchHandler c.app.session.keychain r (.decoded response) }
  | .page r response => some { c with app.home := c.app.home.pageHandler r (.decoded response) }
  | .login response => do
    let session ← c.app.session.loginHandler (.success response)
    some { c with app.session := session }
  | .logout response =>
    some { c with app.session := c.app.session.signOutHandler (.success response) }
  | .withdraw response =>
    some { c with app.session := c.app.session.signOutHandler (.success response) }
  | .upload r response => some { c with creation := c.creation.uploadHandler r (.success response) }
  | .creation response => some { c with creation := c.creation.creationHandler (.success response) }

/-- The request of the answer is outstanding. -/
def Asked (c : Client) : Answer → Prop
  | .list r _ => ⟨r, none⟩ ∈ c.app.home.fetches
  | .page r _ => ⟨r, none⟩ ∈ c.app.home.pages
  | .login _ => ∃ x ∈ c.app.session.logins, x.answer = none
  | .logout _ => ∃ x ∈ c.app.session.logouts, x.answer = none
  | .withdraw _ => ∃ x ∈ c.app.session.withdrawals, x.answer = none
  | .upload r _ => ⟨r, none⟩ ∈ c.creation.uploads
  | .creation _ => ∃ x ∈ c.creation.creations, x.answer = none

/-- Store, keychain and image arrays are the same. -/
def Unchanged (c d : Client) : Prop :=
  c.app.home.store.model.Same d.app.home.store.model ∧
    d.app.session.keychain = c.app.session.keychain ∧
    d.creation.images = c.creation.images ∧ d.creation.imageIds = c.creation.imageIds

/-- A list or page restates what the store holds; the other answers carry nothing that matters. -/
def Restates (c : Client) : Answer → Prop
  | .list r response =>
    match r.completion with
    | .fetchdata => c.app.home.store.model.Covers response.result
    | .confirmPressed _ => response.result = c.app.home.store.model.original
    | .didConfirmDeletion _ => c.app.home.store.model.Covers response.result
  | .page r response =>
    c.app.home.store.model.AtPage response.result ∧
    match r.completion with
    | .fetchdataPagination => c.app.home.store.model.Covers response.result.capsuleList ∧
      c.app.home.store.model.original.Nodup
    | .viewDidLoad => response.result.capsuleList = c.app.home.store.model.original ∧
      c.app.home.store.model.filtered = c.app.home.store.model.view c.app.home.store.model.original
  | _ => True

variable {c : Client}

/-- The store of a refused list. -/
lemma list_same_iff (r : FetchRequest) (response : TimeCapsulePreviewResponse) :
    c.app.home.store.model.Same (c.app.home.fetchHandler c.app.session.keychain r
      (.decoded response)).store.model ↔ c.Restates (.list r response) := by
  obtain ⟨token, completion⟩ := r
  cases completion with
  | fetchdata => exact TimeCapsulePreviewModel.fetch_same_iff _
  | confirmPressed data =>
    simp only [HomeScreen.fetchHandler, fetchTimeCapsulesResult, HomeScreen.didConfirmDeletion]
    -- whether the second refresh is sent does not matter to the store
    split <;> exact TimeCapsulePreviewModel.confirmedDeletion_same_iff _
  | didConfirmDeletion data => exact TimeCapsulePreviewModel.fetch_same_iff _

/-- The store of a refused page. -/
lemma page_same_iff (r : PageRequest) (response : TimeCapsulePreviewPaginationResponse) :
    c.app.home.store.model.Same (c.app.home.pageHandler r (.decoded response)).store.model ↔
      c.Restates (.page r response) := by
  obtain ⟨token, cursor, completion⟩ := r
  cases completion with
  | fetchdataPagination => exact TimeCapsulePreviewModel.page_same_iff _
  | viewDidLoad => exact TimeCapsulePreviewModel.firstFetch_same_iff _

lemma Unchanged.refl (c : Client) : c.Unchanged c := ⟨⟨rfl, rfl, rfl, rfl⟩, rfl, rfl, rfl⟩

/-- The handler of a login does nothing on a refusal. -/
lemma handle_login_refused {response : LoginResponse} (refused : response.isSuccess = false) :
    c.handle (.login response) = some c := by
  have kept : c.app.session.loginHandler (.success response) = some c.app.session := by
    simp only [Session.loginHandler, refused, Bool.false_eq_true, if_false]
  simp only [handle, kept]
  rfl

/-- The handler of a logout or withdrawal does nothing on a refusal. -/
lemma signOut_refused {s : Session} {response : DeleteUserResponse}
    (refused : response.isSuccess = false) : s.signOutHandler (.success response) = s := by
  simp only [Session.signOutHandler, refused, Bool.false_eq_true, if_false]

/-- The handler of an upload does nothing on a refusal. -/
lemma upload_refused {s : CapsuleCreation2ViewController} {r : ImageUploadRequest}
    {response : ImageUploadResponse} (refused : response.isSuccess = false) :
    s.uploadHandler r (.success response) = s := by
  simp only [CapsuleCreation2ViewController.uploadHandler, refused, Bool.false_eq_true, if_false]

/-- The handler of a creation does nothing on a refusal. -/
lemma creation_refused {s : CapsuleCreation2ViewController} {response : CapsuleResponse}
    (refused : response.isSuccess = false) : s.creationHandler (.success response) = s := by
  simp only [CapsuleCreation2ViewController.creationHandler, refused, Bool.false_eq_true, if_false]

/-- An answer that says the request was refused is handled without any change just when, if it
carries a list or a page, this restates what the store holds. -/
theorem refusal_unchanged_iff (c : Client) (answer : Answer) (refused : answer.isSuccess = false) :
    (∃ d, c.handle answer = some d ∧ c.Unchanged d) ↔ c.Restates answer := by
  -- a handler that leaves the client alone returns it unchanged, and asks nothing of its answer
  have alone (h : c.handle answer = some c) : ∃ d, c.handle answer = some d ∧ c.Unchanged d :=
    ⟨c, h, .refl c⟩
  cases answer with
  | list r response =>
    rw [← list_same_iff]
    constructor
    · rintro ⟨d, hd, unchanged⟩
      cases hd
      exact unchanged.1
    · exact fun same => ⟨_, rfl, same, rfl, rfl, rfl⟩
  | page r response =>
    rw [← page_same_iff]
    constructor
    · rintro ⟨d, hd, unchanged⟩
      cases hd
      exact unchanged.1
    · exact fun same => ⟨_, rfl, same, rfl, rfl, rfl⟩
  | login response => exact iff_of_true (alone (handle_login_refused refused)) trivial
  | logout response | withdraw response =>
    have kept : c.app.session.signOutHandler (.success response) = c.app.session :=
      signOut_refused refused
    exact iff_of_true (alone (by rw [handle, kept])) trivial
  | upload r response =>
    have kept : c.creation.uploadHandler r (.success response) = c.creation :=
      upload_refused refused
    exact iff_of_true (alone (by rw [handle, kept])) trivial
  | creation response =>
    have kept : c.creation.creationHandler (.success response) = c.creation :=
      creation_refused refused
    exact iff_of_true (alone (by rw [handle, kept])) trivial

/-- The list of a launched app is refused, and the refusal brings no capsule. -/
theorem refusal_unchanged_empty :
    ∃ d, handle
      { app := .launch ((∅ : Keychain).save "r" .refreshToken) ⟨fun _ _ => none, ⟨"", ""⟩, fun _ => 0⟩
        creation := .create ∅ (fun _ _ => "") 0 }
      (.list ⟨"r", .fetchdata⟩ ⟨false, "401", "", []⟩) = some d ∧
    Unchanged
      { app := .launch ((∅ : Keychain).save "r" .refreshToken) ⟨fun _ _ => none, ⟨"", ""⟩, fun _ => 0⟩
        creation := .create ∅ (fun _ _ => "") 0 } d :=
  (refusal_unchanged_iff _ (.list ⟨"r", .fetchdata⟩ ⟨false, "401", "", []⟩) rfl).2
    ⟨List.forall_mem_nil _, rfl⟩

/-- The first page of a launched app is refused, in an envelope without a next page: paging is
over. -/
theorem refusal_not_unchanged :
    ¬ ∀ (keychain : Keychain) (p : Process) (dateFormatter : String → Rat → String) (date : Rat)
      (es : List AppEvent) (fs : List CreationEvent) (c : Client) (answer : Answer),
      Run.exec App.step (.launch keychain p) es = some c.app →
      Run.exec CapsuleCreation2ViewController.step (.create keychain dateFormatter date) fs =
        some c.creation →
      c.Asked answer → answer.isSuccess = false → ∃ d, c.handle answer = some d ∧ c.Unchanged d := by
  intro h
  obtain ⟨d, hd, same, _⟩ := h (((∅ : Keychain).save "r" .refreshToken).save "f" .fcmToken)
    ⟨fun _ _ => none, ⟨"", ""⟩, fun _ => 0⟩ (fun _ _ => "") 0 [] [] ⟨_, _⟩
    (.page ⟨"r", 0, .fetchdataPagination⟩ ⟨false, "500", "", ⟨[], false, 9⟩⟩) rfl rfl (.head _) rfl
  cases hd
  revert same
  decide

end Client

end TimeCapsule
