import TimeCapsule.Foundation.API
import TimeCapsule.Foundation.Keychain
import TimeCapsule.Home.TimeCapsulePreview
import TimeCapsule.Lib.Run
import TimeCapsule.Lib.Wire

/-!
# The creation screen

`CapsuleCreation2ViewController` with its view, and the services that upload and delete images. A
successful upload is stored by a block on the main queue; a tap on the delete button of a cell takes
the image out of both arrays at once and leaves the server to follow.

`slots_paired_iff` is about these two arrays: `addImageToCollectionView` refuses a fifth image, the
`append` of its id does not.
-/

namespace TimeCapsule.Home
open Foundation

/-- An image object with its JPEG data, if it can be converted. -/
structure UIImage where
  object : Nat
  jpegData : Option (List UInt8)
deriving DecidableEq, Repr

structure TimeCapsuleRequest where
  title : String
  content : String
  deadline : String
  tagName : String
  imageList : List Int
deriving DecidableEq, Repr

structure ResultData where
  id : Int
  createdAt : String
deriving DecidableEq, Repr

abbrev CapsuleResponse := Response (Option ResultData)

abbrev ImageUploadResponse := Response (Option Int)

abbrev DeleteImageResponse := Response (Option String)

/-- The upload of an image; the handler keeps the image. -/
structure ImageUploadRequest where
  image : UIImage
  imageData : List UInt8
  token : String
deriving DecidableEq, Repr

structure DeleteImageRequest where
  imageId : Int
  accessToken : String
deriving DecidableEq, Repr

structure CreationRequest where
  requestData : TimeCapsuleRequest
  token : String
deriving DecidableEq, Repr

/-- The blocks that response handlers leave on the main queue. -/
inductive CreationBlock where
  | uploaded (image : UIImage) (response : ImageUploadResponse)
  | deleted (imageId : Int)
  | created
deriving DecidableEq, Repr

/-- `CapsuleCreation2View`: its fields, the tag button with its drop-down, and the date picker. -/
structure CapsuleCreation2View where
  addCapsuleTitleTextField : String := ""
  addTextTextView : String := ""
  addDatePicker : Rat
  addTagButton : Option String := none
  isTagSelected : Bool := false
  tagDropDownTableViewIsHidden : Bool := true
deriving DecidableEq, Repr

/-- The screen, the keychain it reads, what a `DateFormatter` with a format prints, and the requests
and blocks under way. `returned` is a history variable: which id was returned for which image. -/
structure CapsuleCreation2ViewController where
  view : CapsuleCreation2View
  images : List UIImage := []
  imageIds : List Int := []
  alert : Option String := none
  popped : Bool := false
  keychain : Keychain
  dateFormatter : String → Rat → String
  uploads : Wire ImageUploadRequest (AFResult ImageUploadResponse) := []
  deletions : Wire DeleteImageRequest (AFResult DeleteImageResponse) := []
  creations : Wire CreationRequest (AFResult CapsuleResponse) := []
  main : List CreationBlock := []
  returned : List (UIImage × Int) := []

inductive CreationEvent where
  | editTitle (text : String)
  | editContent (text : String)
  | pickDate (date : Rat)
  | showTagDropDown
  | didSelectRowAt (row : Fin K.String.tags.length)
  | didFinishPickingMediaWithInfo (editedImage originalImage : Option UIImage)
  | deleteImageButtonTap (sender : Nat)
  | cancelCreationButtonTap
  | doneCreationButtonTap
  | upload (traffic : Traffic (AFResult ImageUploadResponse))
  | deletion (traffic : Traffic (AFResult DeleteImageResponse))
  | creation (traffic : Traffic (AFResult CapsuleResponse))
  | main
  | keychain (keychain : Keychain)

namespace CapsuleCreation2ViewController

/-! ## Tag, text and date -/

def showTagDropDown (s : CapsuleCreation2ViewController) : CapsuleCreation2ViewController :=
  let s := { s with
    view.tagDropDownTableViewIsHidden := !s.view.tagDropDownTableViewIsHidden }
  if !s.view.tagDropDownTableViewIsHidden then { s with view.isTagSelected := false } else s

def didSelectRowAt (s : CapsuleCreation2ViewController) (row : Fin K.String.tags.length) :
    CapsuleCreation2ViewController :=
  { s with
    view.addTagButton := some (K.String.tags.get row)
    view.tagDropDownTableViewIsHidden := true
    view.isTagSelected := true }

/-- The message of the alert that `validateRequestData` shows, if it refuses. -/
def validateRequestData (s : CapsuleCreation2ViewController) : Option String :=
  if s.view.addCapsuleTitleTextField.isEmpty then some "제목을 입력해주세요."
  else if s.view.addTextTextView.isEmpty then some "내용을 입력해주세요."
  else if !s.view.isTagSelected then some "태그를 선택해주세요."
  else none

/-- The `requestData` of `sendTimeCapsuleRequest`. -/
def requestData (s : CapsuleCreation2ViewController) : TimeCapsuleRequest where
  title := s.view.addCapsuleTitleTextField
  content := s.view.addTextTextView
  deadline := s.dateFormatter "yyyy-MM-dd" s.view.addDatePicker
  tagName := s.view.addTagButton.getD ""
  imageList := s.imageIds

def sendTimeCapsuleRequest (s : CapsuleCreation2ViewController) : CapsuleCreation2ViewController :=
  match s.keychain.load .refreshToken with
  | some token => { s with creations := s.creations.send ⟨s.requestData, token⟩ }
  | none => s

def doneCreationButtonTap (s : CapsuleCreation2ViewController) : CapsuleCreation2ViewController :=
  match s.validateRequestData with
  | some message => { s with alert := some message }
  | none => s.sendTimeCapsuleRequest

def creationHandler (s : CapsuleCreation2ViewController) :
    AFResult CapsuleResponse → CapsuleCreation2ViewController
  | .success response =>
    if response.isSuccess then { s with main := s.main ++ [.created] } else s
  | .failure => s

/-! ## Images -/

def uploadImage (s : CapsuleCreation2ViewController) (image : UIImage) :
    CapsuleCreation2ViewController :=
  match s.keychain.load .refreshToken with
  | some token =>
    match image.jpegData with
    | some imageData => { s with uploads := s.uploads.send ⟨image, imageData, token⟩ }
    | none => s
  | none => s

/-- `imagePickerController(_:didFinishPickingMediaWithInfo:)`. -/
def didFinishPickingMediaWithInfo (s : CapsuleCreation2ViewController)
    (editedImage originalImage : Option UIImage) : CapsuleCreation2ViewController :=
  match editedImage, originalImage with
  | some editedImage, _ => s.uploadImage editedImage
  | none, some originalImage => s.uploadImage originalImage
  | none, none => s

/-- The handler of an upload; the answer is kept in `returned` as well. -/
def uploadHandler (s : CapsuleCreation2ViewController) (r : ImageUploadRequest) :
    AFResult ImageUploadResponse → CapsuleCreation2ViewController
  | .success response =>
    if response.isSuccess then
      { s with
        main := s.main ++ [.uploaded r.image response]
        returned := s.returned ++ (response.result.map (r.image, ·)).toList }
    else
      s
  | .failure => s

def addImageToCollectionView (s : CapsuleCreation2ViewController) (image : UIImage) :
    CapsuleCreation2ViewController :=
  if s.images.length < 4 then { s with images := s.images ++ [image] } else s

/-- The block of a successful upload; it traps on a missing result. -/
def uploaded (s : CapsuleCreation2ViewController) (image : UIImage)
    (response : ImageUploadResponse) : Option CapsuleCreation2ViewController :=
  let s := s.addImageToCollectionView image
  match response.result with
  | some id => some { s with imageIds := s.imageIds ++ [id] }
  | none => none

/-- The number of cells that show an image; every change of `images` reloads the cells before the
next touch. -/
def imageCells (s : CapsuleCreation2ViewController) : Nat := min (s.images.length + 1) 5 - 1

/-- `ImageDeletionService.deleteImage`. -/
def deleteImage (s : CapsuleCreation2ViewController) (imageId : Int) :
    CapsuleCreation2ViewController :=
  match s.keychain.load .refreshToken with
  | some accessToken => { s with deletions := s.deletions.send ⟨imageId, accessToken⟩ }
  | none => s

/-- Only the button of a rendered cell can be tapped; the subscript traps outside `imageIds`. -/
def deleteImageButtonTap (s : CapsuleCreation2ViewController) (sender : Nat) :
    Option CapsuleCreation2ViewController :=
  if sender < s.imageCells then
    match s.imageIds[sender]? with
    | some imageId =>
      let s := s.deleteImage imageId
      some { s with
        images := s.images.eraseIdx sender
        imageIds := s.imageIds.eraseIdx sender }
    | none => none
  else
    some s

def deletionHandler (s : CapsuleCreation2ViewController) (r : DeleteImageRequest) :
    AFResult DeleteImageResponse → CapsuleCreation2ViewController
  | .success response =>
    if response.isSuccess then { s with main := s.main ++ [.deleted r.imageId] } else s
  | .failure => s

/-- Its body is empty. -/
def removeImageFromCollectionView (s : CapsuleCreation2ViewController) (_imageId : Int) :
    CapsuleCreation2ViewController := s

/-- Run the next block of the main queue. -/
def runMain (s : CapsuleCreation2ViewController) : Option CapsuleCreation2ViewController :=
  match s.main with
  | [] => some s
  | .uploaded image response :: main => { s with main }.uploaded image response
  | .deleted imageId :: main => some ({ s with main }.removeImageFromCollectionView imageId)
  | .created :: main => some { s with main, popped := true }

def step (s : CapsuleCreation2ViewController) :
    CreationEvent → Option CapsuleCreation2ViewController
  | .editTitle text => some { s with view.addCapsuleTitleTextField := text }
  | .editContent text => some { s with view.addTextTextView := text }
  | .pickDate date => some { s with view.addDatePicker := date }
  | .showTagDropDown => some s.showTagDropDown
  | .didSelectRowAt row => some (s.didSelectRowAt row)
  | .didFinishPickingMediaWithInfo editedImage originalImage =>
    some (s.didFinishPickingMediaWithInfo editedImage originalImage)
  | .deleteImageButtonTap sender => s.deleteImageButtonTap sender
  | .cancelCreationButtonTap => some { s with popped := true }
  | .doneCreationButtonTap => some s.doneCreationButtonTap
  | .upload traffic =>
    let (uploads, delivered) := s.uploads.step traffic
    match delivered with
    | some (r, result) => some ({ s with uploads }.uploadHandler r result)
    | none => some { s with uploads }
  | .deletion traffic =>
    let (deletions, delivered) := s.deletions.step traffic
    match delivered with
    | some (r, result) => some ({ s with deletions }.deletionHandler r result)
    | none => some { s with deletions }
  | .creation traffic =>
    let (creations, delivered) := s.creations.step traffic
    match delivered with
    | some (_, result) => some ({ s with creations }.creationHandler result)
    | none => some { s with creations }
  | .main => s.runMain
  | .keychain keychain => some { s with keychain }

/-- The screen as it is pushed. -/
def create (keychain : Keychain) (dateFormatter : String → Rat → String) (date : Rat) :
    CapsuleCreation2ViewController :=
  { view := { addDatePicker := date }, keychain, dateFormatter }

/-! ## What the operations change -/

/-- The drop-down opens or closes; the flag is cleared or left. -/
lemma showTagDropDown_eq (s : CapsuleCreation2ViewController) : ∃ hidden selected,
    (selected = true → s.view.isTagSelected = true) ∧
      s.showTagDropDown = { s with
        view.tagDropDownTableViewIsHidden := hidden
        view.isTagSelected := selected } := by
  unfold showTagDropDown
  dsimp only
  split
  · exact ⟨_, false, (nomatch ·), rfl⟩
  · exact ⟨_, s.view.isTagSelected, id, rfl⟩

/-- The done button shows an alert, sends a creation, or does nothing. -/
lemma doneCreationButtonTap_eq (s : CapsuleCreation2ViewController) : ∃ alert creations,
    s.doneCreationButtonTap = { s with alert, creations } := by
  unfold doneCreationButtonTap sendTimeCapsuleRequest
  split
  · exact ⟨_, s.creations, rfl⟩
  · split
    · exact ⟨s.alert, _, rfl⟩
    · exact ⟨s.alert, s.creations, rfl⟩

/-- Picking an image changes nothing but the uploads. -/
lemma didFinishPickingMediaWithInfo_eq (s : CapsuleCreation2ViewController)
    (editedImage originalImage : Option UIImage) : ∃ uploads,
    s.didFinishPickingMediaWithInfo editedImage originalImage = { s with uploads } := by
  have upload (image : UIImage) : ∃ uploads, s.uploadImage image = { s with uploads } := by
    unfold uploadImage
    split
    · split
      · exact ⟨_, rfl⟩
      · exact ⟨s.uploads, rfl⟩
    · exact ⟨s.uploads, rfl⟩
  unfold didFinishPickingMediaWithInfo
  split
  · exact upload _
  · exact upload _
  · exact ⟨s.uploads, rfl⟩

/-- Deleting an image puts at most its own deletion on the wire. -/
lemma deleteImage_eq (s : CapsuleCreation2ViewController) (imageId : Int) : ∃ deletions,
    (∀ x ∈ deletions, x ∈ s.deletions ∨ x.request.imageId = imageId) ∧
      s.deleteImage imageId = { s with deletions } := by
  unfold deleteImage
  split
  · refine ⟨_, fun x hx => ?_, rfl⟩
    apply (Wire.mem_send.1 hx).imp id
    rintro rfl
    rfl
  · exact ⟨s.deletions, fun x hx => .inl hx, rfl⟩

/-- A tap outside the rendered cells does nothing; inside, it empties the slot of the cell. -/
lemma deleteImageButtonTap_cases {s t : CapsuleCreation2ViewController} {sender : Nat}
    (h : s.deleteImageButtonTap sender = some t) :
    t = s ∨ sender < s.imageCells ∧ ∃ imageId deletions, s.imageIds[sender]? = some imageId ∧
      (∀ x ∈ deletions, x ∈ s.deletions ∨ x.request.imageId = imageId) ∧
      t = { s with
        deletions
        images := s.images.eraseIdx sender
        imageIds := s.imageIds.eraseIdx sender } := by
  unfold deleteImageButtonTap at h
  split at h
  · next rendered =>
    split at h
    · next imageId hi =>
      cases h
      obtain ⟨deletions, sent, eq⟩ := s.deleteImage_eq imageId
      exact .inr ⟨rendered, imageId, deletions, hi, sent, by rw [eq]⟩
    · cases h
  · cases h
    exact .inl rfl

/-- A successful upload leaves its block and is noted. -/
lemma uploadHandler_cases (s : CapsuleCreation2ViewController) (r : ImageUploadRequest)
    (result : AFResult ImageUploadResponse) :
    s.uploadHandler r result = s ∨ ∃ response, s.uploadHandler r result = { s with
      main := s.main ++ [.uploaded r.image response]
      returned := s.returned ++ (response.result.map (r.image, ·)).toList } := by
  unfold uploadHandler
  split
  · split
    · exact .inr ⟨_, rfl⟩
    · exact .inl rfl
  · exact .inl rfl

/-- A successful deletion leaves its block. -/
lemma deletionHandler_cases (s : CapsuleCreation2ViewController) (r : DeleteImageRequest)
    (result : AFResult DeleteImageResponse) :
    s.deletionHandler r result = s ∨
      s.deletionHandler r result = { s with main := s.main ++ [.deleted r.imageId] } := by
  unfold deletionHandler
  split
  · split
    · exact .inr rfl
    · exact .inl rfl
  · exact .inl rfl

/-- A creation leaves its block just when it is accepted. -/
lemma creationHandler_eq (s : CapsuleCreation2ViewController)
    (result : AFResult CapsuleResponse) :
    s.creationHandler result =
      { s with main := s.main ++ if result.accepted.isSome then [.created] else [] } := by
  unfold creationHandler
  split
  · next response =>
    cases ok : response.isSuccess <;> simp [AFResult.accepted, ok]
  · simp [AFResult.accepted]

/-- The traffic of the uploads leaves at most the block of a success. -/
lemma upload_cases {s t : CapsuleCreation2ViewController} {traffic}
    (h : s.step (.upload traffic) = some t) :
    t = { s with uploads := (s.uploads.step traffic).1 } ∨ ∃ image response, t = { s with
      uploads := (s.uploads.step traffic).1
      main := s.main ++ [.uploaded image response]
      returned := s.returned ++ (response.result.map (image, ·)).toList } := by
  obtain ⟨uploads, d, hw⟩ := s.uploads.exists_step traffic
  simp only [step, hw] at h ⊢
  cases d with
  | none =>
    cases h
    exact .inl rfl
  | some d =>
    cases h
    rcases uploadHandler_cases { s with uploads } d.1 d.2 with eq | ⟨response, eq⟩
    · exact .inl eq
    · exact .inr ⟨d.1.image, response, eq⟩

/-- The traffic of the deletions leaves at most the block of a success. -/
lemma deletion_cases {s t : CapsuleCreation2ViewController} {traffic}
    (h : s.step (.deletion traffic) = some t) :
    t = { s with deletions := (s.deletions.step traffic).1 } ∨ ∃ imageId, t = { s with
      deletions := (s.deletions.step traffic).1
      main := s.main ++ [.deleted imageId] } := by
  obtain ⟨deletions, d, hw⟩ := s.deletions.exists_step traffic
  simp only [step, hw] at h ⊢
  cases d with
  | none =>
    cases h
    exact .inl rfl
  | some d =>
    cases h
    exact (deletionHandler_cases { s with deletions } d.1 d.2).imp id fun eq => ⟨_, eq⟩

/-- The traffic of the creations leaves the block of an answer that is accepted. -/
lemma creation_eq {s t : CapsuleCreation2ViewController} {traffic}
    (h : s.step (.creation traffic) = some t) : t = { s with
      creations := (s.creations.step traffic).1
      main := s.main ++
        if (s.creations.step traffic).2.any (·.2.accepted.isSome) then [.created] else [] } := by
  obtain ⟨creations, d, hw⟩ := s.creations.exists_step traffic
  simp only [step, hw] at h ⊢
  cases d with
  | none =>
    cases h
    simp
  | some d =>
    cases h
    exact creationHandler_eq { s with creations } d.2

/-- What running the next block does. -/
lemma runMain_cases {s t : CapsuleCreation2ViewController} (h : s.runMain = some t) :
    s.main = [] ∧ t = s ∨
    (∃ image response main id, s.main = .uploaded image response :: main ∧
      response.result = some id ∧
      t = { s with
        main
        images := if s.images.length < 4 then s.images ++ [image] else s.images
        imageIds := s.imageIds ++ [id] }) ∨
    (∃ imageId main, s.main = .deleted imageId :: main ∧ t = { s with main }) ∨
    ∃ main, s.main = .created :: main ∧ t = { s with main, popped := true } := by
  unfold runMain at h
  split at h
  · next hm =>
    cases h
    exact .inl ⟨hm, rfl⟩
  · next image response main hm =>
    unfold uploaded addImageToCollectionView at h
    cases hr : response.result with
    | none => simp [hr] at h
    | some id =>
      refine .inr (.inl ⟨image, response, main, id, hm, hr, ?_⟩)
      by_cases room : s.images.length < 4
      · simp only [hr, room, if_true] at h ⊢
        cases h
        rfl
      · simp only [hr, room, if_false] at h ⊢
        cases h
        rfl
  · next imageId main hm =>
    cases h
    exact .inr (.inr (.inl ⟨imageId, main, hm, rfl⟩))
  · next main hm =>
    cases h
    exact .inr (.inr (.inr ⟨main, hm, rfl⟩))

/-! ## The image slots -/

/-- The image and id that the block of this step stores. -/
def stored (s : CapsuleCreation2ViewController) : CreationEvent → Option (UIImage × Int)
  | .main =>
    match s.main with
    | .uploaded image response :: _ => response.result.map (image, ·)
    | _ => none
  | _ => none

/-- Both arrays have the same length, at most 4, and pair each image with an id that was returned
for it. -/
def Paired (s : CapsuleCreation2ViewController) : Prop :=
  s.images.length = s.imageIds.length ∧ s.imageIds.length ≤ 4 ∧
    ∀ p ∈ s.images.zip s.imageIds, p ∈ s.returned

instance : DecidablePred Paired := fun s =>
  inferInstanceAs (Decidable (_ ∧ _ ∧ ∀ p ∈ s.images.zip s.imageIds, p ∈ s.returned))

/-- An upload is stored only while there are fewer than four images. -/
def StoresInRoom (s : CapsuleCreation2ViewController) (e : CreationEvent) : Prop :=
  (s.stored e).isSome → s.images.length < 4

instance (s : CapsuleCreation2ViewController) : DecidablePred s.StoresInRoom := fun _ =>
  inferInstanceAs (Decidable (_ → _))

/-- A creation request lists exactly the ids of the images on screen, and the deletion of a cell is
requested for an id of its image. -/
def SendsPaired (s : CapsuleCreation2ViewController) : CreationEvent → Prop
  | .doneCreationButtonTap => Run.After step (fun t => ∀ x ∈ t.creations, x ∈ s.creations ∨
    s.images.length = x.request.requestData.imageList.length ∧
      ∀ p ∈ s.images.zip x.request.requestData.imageList, p ∈ s.returned) s .doneCreationButtonTap
  | .deleteImageButtonTap sender => Run.After step (fun t => ∀ x ∈ t.deletions, x ∈ s.deletions ∨
    ∃ image ∈ s.images[sender]?, (image, x.request.imageId) ∈ s.returned)
    s (.deleteImageButtonTap sender)
  | _ => True

/-- Blocks that are going to store an image hold what was returned for it. -/
def Logged (s : CapsuleCreation2ViewController) : Prop :=
  ∀ image response, CreationBlock.uploaded image response ∈ s.main →
    ∀ id ∈ response.result, (image, id) ∈ s.returned

/-- Erasing the same index from two lists erases it from the list of pairs. -/
lemma zip_eraseIdx {α β : Type} (l : List α) (r : List β) (i : Nat) :
    (l.eraseIdx i).zip (r.eraseIdx i) = (l.zip r).eraseIdx i := by
  induction l generalizing r i with
  | nil => simp
  | cons x xs ih =>
    cases r with
    | nil => simp
    | cons y ys =>
      cases i with
      | zero => rfl
      | succ i => simp [ih]

/-! ## Inversion -/

/-- Slots, history, and the blocks that store uploads are left alone. -/
structure Keeps (s t : CapsuleCreation2ViewController) : Prop where
  images : t.images = s.images
  imageIds : t.imageIds = s.imageIds
  blocks : ∀ image response,
    CreationBlock.uploaded image response ∈ t.main → .uploaded image response ∈ s.main
  returned : t.returned = s.returned

/-- The kinds of steps: the slots are kept, an answer is logged with the block that is going to
store it, such a block runs, or a rendered cell is deleted. -/
inductive Step (s : CapsuleCreation2ViewController) :
    CreationEvent → CapsuleCreation2ViewController → Prop where
  | keeps {e t} :
    s.stored e = none →
    s.Keeps t →
    Step s e t
  | answered {traffic uploads image response} :
    Step s (.upload traffic) { s with
      uploads
      main := s.main ++ [.uploaded image response]
      returned := s.returned ++ (response.result.map (image, ·)).toList }
  | stores {image response main id} :
    s.main = .uploaded image response :: main →
    response.result = some id →
    Step s .main { s with
      main
      images := if s.images.length < 4 then s.images ++ [image] else s.images
      imageIds := s.imageIds ++ [id] }
  | deletes {sender imageId deletions} :
    sender < s.imageCells →
    s.imageIds[sender]? = some imageId →
    (∀ x ∈ deletions, x ∈ s.deletions ∨ x.request.imageId = imageId) →
    Step s (.deleteImageButtonTap sender) { s with
      deletions
      images := s.images.eraseIdx sender
      imageIds := s.imageIds.eraseIdx sender }

variable {s t : CapsuleCreation2ViewController} {e : CreationEvent}

lemma Keeps.refl (s : CapsuleCreation2ViewController) : s.Keeps s := ⟨rfl, rfl, fun _ _ h => h, rfl⟩

/-- What keeps the slots, the blocks and the history keeps the slots. -/
lemma keeps_of_same (images : t.images = s.images) (imageIds : t.imageIds = s.imageIds)
    (main : t.main = s.main) (returned : t.returned = s.returned) : s.Keeps t :=
  ⟨images, imageIds, fun _ _ h => main ▸ h, returned⟩

/-- What keeps the slots keeps them when the screen is popped. -/
lemma Keeps.popped {popped} (h : s.Keeps t) : s.Keeps { t with popped } :=
  ⟨h.images, h.imageIds, h.blocks, h.returned⟩

/-- Running a block. -/
lemma runMain_step (h : s.runMain = some t) : Step s .main t := by
  have keeps {block main} (hm : s.main = block :: main) : s.Keeps { s with main } :=
    ⟨rfl, rfl, fun _ _ h => hm ▸ .tail _ h, rfl⟩
  rcases runMain_cases h with
    ⟨hm, rfl⟩ | ⟨image, response, main, id, hm, hr, rfl⟩ | ⟨imageId, main, hm, rfl⟩ | ⟨main, hm, rfl⟩
  · exact .keeps (by simp [stored, hm]) (.refl _)
  · exact .stores hm hr
  · exact .keeps (by simp [stored, hm]) (keeps hm)
  · exact .keeps (by simp [stored, hm]) (keeps hm).popped

/-- Tapping the delete button of a cell. -/
lemma deleteImageButtonTap_step {sender : Nat} (h : s.deleteImageButtonTap sender = some t) :
    Step s (.deleteImageButtonTap sender) t := by
  rcases deleteImageButtonTap_cases h with rfl | ⟨rendered, imageId, deletions, hi, sent, rfl⟩
  · exact .keeps rfl (.refl _)
  · exact .deletes rendered hi sent

/-- Inversion of `step`. -/
lemma step_inv (h : s.step e = some t) : Step s e t := by
  cases e with
  | editTitle | editContent | pickDate | didSelectRowAt | cancelCreationButtonTap | keychain =>
    cases h
    exact .keeps rfl (keeps_of_same rfl rfl rfl rfl)
  | showTagDropDown =>
    cases h
    obtain ⟨hidden, selected, _, eq⟩ := s.showTagDropDown_eq
    rw [eq]
    exact .keeps rfl (keeps_of_same rfl rfl rfl rfl)
  | didFinishPickingMediaWithInfo editedImage originalImage =>
    cases h
    obtain ⟨uploads, eq⟩ := s.didFinishPickingMediaWithInfo_eq editedImage originalImage
    rw [eq]
    exact .keeps rfl (keeps_of_same rfl rfl rfl rfl)
  | doneCreationButtonTap =>
    cases h
    obtain ⟨alert, creations, eq⟩ := s.doneCreationButtonTap_eq
    rw [eq]
    exact .keeps rfl (keeps_of_same rfl rfl rfl rfl)
  | deleteImageButtonTap => exact deleteImageButtonTap_step h
  | main => exact runMain_step h
  | upload =>
    rcases upload_cases h with rfl | ⟨image, response, rfl⟩
    · exact .keeps rfl (keeps_of_same rfl rfl rfl rfl)
    · exact .answered
  | deletion =>
    rcases deletion_cases h with rfl | ⟨imageId, rfl⟩
    · exact .keeps rfl (keeps_of_same rfl rfl rfl rfl)
    · exact .keeps rfl ⟨rfl, rfl, fun _ _ hb => by simpa using hb, rfl⟩
  | creation =>
    rw [creation_eq h]
    refine .keeps rfl ⟨rfl, rfl, fun image response hb => ?_, rfl⟩
    apply (List.mem_append.1 hb).resolve_right
    split <;> simp

/-! ## Which runs keep the slots paired -/

/-- Every step keeps the blocks to what the server returned. -/
lemma step_logged (s : CapsuleCreation2ViewController) (e : CreationEvent) (logged : s.Logged) :
    Run.After step Logged s e := by
  intro t h
  cases step_inv h with
  | keeps _ keeps =>
    intro image response hb id hid
    rw [keeps.returned]
    exact logged image response (keeps.blocks image response hb) id hid
  | answered =>
    intro image response hb id hid
    rcases List.mem_append.1 hb with hb | hb
    · exact List.mem_append_left _ (logged image response hb id hid)
    · cases List.mem_singleton.1 hb
      exact List.mem_append_right _ (by simp [Option.mem_def.1 hid])
  | stores hm => exact fun image response hb => logged image response (hm ▸ .tail _ hb)
  | deletes => exact logged

/-- An upload with an id does get stored. -/
lemma step_stored {image : UIImage} {id : Int} (h : s.stored e = some (image, id)) :
    ∃ t, s.step e = some t ∧
      t.images = (if s.images.length < 4 then s.images ++ [image] else s.images) ∧
      t.imageIds = s.imageIds ++ [id] := by
  obtain ⟨t, ht⟩ : ∃ t, s.step e = some t := by
    cases e with
    | main =>
      simp only [stored] at h
      split at h
      · next image' response main hm =>
        obtain ⟨id', hr, _⟩ := Option.map_eq_some_iff.1 h
        simp only [step, runMain, hm, uploaded, hr]
        exact ⟨_, rfl⟩
      · cases h
    | _ => cases h
  refine ⟨t, ht, ?_⟩
  cases step_inv ht with
  | keeps none => cases none.symm.trans h
  | answered => cases h
  | stores hm hr =>
    simp only [stored, hm, hr, Option.map_some, Option.some.injEq, Prod.mk.injEq] at h
    obtain ⟨rfl, rfl⟩ := h
    exact ⟨rfl, rfl⟩
  | deletes => cases h

/-- A step keeps the slots paired just when it does not store an upload over four images. -/
lemma step_paired_iff (s : CapsuleCreation2ViewController) (e : CreationEvent) (logged : s.Logged)
    (paired : s.Paired) : Run.After step Paired s e ↔ s.StoresInRoom e := by
  obtain ⟨length, four, pairs⟩ := paired
  constructor
  · intro after hs
    obtain ⟨⟨image, id⟩, hp⟩ := Option.isSome_iff_exists.1 hs
    obtain ⟨t, ht, images, imageIds⟩ := step_stored hp
    obtain ⟨length', _⟩ := after t ht
    -- over four images the id is appended and the image is not
    by_contra full
    rw [images, imageIds, if_neg full, length, List.length_append] at length'
    simp at length'
  · intro room t h
    cases step_inv h with
    | keeps _ keeps =>
      rw [Paired, keeps.images, keeps.imageIds, keeps.returned]
      exact ⟨length, four, pairs⟩
    | answered => exact ⟨length, four, fun p hp => List.mem_append_left _ (pairs p hp)⟩
    | @stores image response main id hm hr =>
      have room : s.images.length < 4 := room (by simp [stored, hm, hr])
      simp only [Paired, room, if_true]
      refine ⟨by simp [length], by simp; omega, fun p hp => ?_⟩
      rw [List.zip_append length] at hp
      rcases List.mem_append.1 hp with hp | hp
      · exact pairs p hp
      · cases List.mem_singleton.1 hp
        exact logged image response (hm ▸ .head _) id hr
    | @deletes sender imageId deletions hs hi =>
      refine ⟨?_, ?_, fun p hp => ?_⟩
      · simp only [List.length_eraseIdx, length]
      · exact (List.length_eraseIdx_le ..).trans four
      · rw [zip_eraseIdx] at hp
        exact pairs p (List.mem_of_mem_eraseIdx hp)

/-- While the slots are paired, a creation request lists the ids of the images on screen. -/
lemma Paired.doneCreationButtonTap (paired : s.Paired) : s.SendsPaired .doneCreationButtonTap := by
  obtain ⟨length, _, pairs⟩ := paired
  intro t ht x hx
  cases ht
  unfold CapsuleCreation2ViewController.doneCreationButtonTap sendTimeCapsuleRequest at hx
  split at hx
  · exact .inl hx
  · split at hx
    · rcases Wire.mem_send.1 hx with hx | rfl
      · exact .inl hx
      · exact .inr ⟨length, pairs⟩
    · exact .inl hx

/-- The image and the id in one slot were returned together. -/
lemma Paired.slot (paired : s.Paired) {sender : Nat} {imageId : Int}
    (hi : s.imageIds[sender]? = some imageId) :
    ∃ image ∈ s.images[sender]?, (image, imageId) ∈ s.returned := by
  obtain ⟨length, _, pairs⟩ := paired
  obtain ⟨hl, hi⟩ := List.getElem?_eq_some_iff.1 hi
  have hl' : sender < s.images.length := length ▸ hl
  refine ⟨s.images[sender], List.getElem?_eq_getElem hl', pairs _ ?_⟩
  rw [← hi, ← List.getElem_zip (h := by simp [hl, hl'])]
  exact List.getElem_mem _

/-- While the slots are paired, the id of a tapped cell is an id of its image. -/
lemma Paired.deleteImageButtonTap (paired : s.Paired) (sender : Nat) :
    s.SendsPaired (.deleteImageButtonTap sender) := by
  intro t ht x hx
  rcases deleteImageButtonTap_cases ht with rfl | ⟨_, imageId, deletions, hi, sent, rfl⟩
  · exact .inl hx
  · apply (sent x hx).imp id
    rintro rfl
    exact paired.slot hi

/-- While the slots are paired, what is sent about images is about the images on screen. -/
lemma Paired.sendsPaired (s : CapsuleCreation2ViewController) (e : CreationEvent)
    (paired : s.Paired) : s.SendsPaired e := by
  cases e with
  | doneCreationButtonTap => exact paired.doneCreationButtonTap
  | deleteImageButtonTap sender => exact paired.deleteImageButtonTap sender
  | _ => exact trivial

end CapsuleCreation2ViewController

end TimeCapsule.Home
