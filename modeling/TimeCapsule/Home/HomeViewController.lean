import TimeCapsule.Foundation.API
import TimeCapsule.Foundation.Keychain
import TimeCapsule.Home.Store
import TimeCapsule.Lib.Wire

/-!
# The home screen

`HomeViewController` and `DeletionAlertViewController` with the capsule service: which requests they
send, with which token, and what the response handlers do to the store. The three kinds of answers
(list, page, deletion) travel on three wires and are handled in any order.

`returned` is a history variable: the capsules that answers have brought so far, each list with the
token of the request it answers.
-/

namespace TimeCapsule.Home
open Foundation

/-- Whose completion a request for the full list carries; the closures of the deletion flow capture
the capsule of their alert. -/
inductive FetchCompletion where
  | fetchdata
  | confirmPressed (data : TimeCapsulePreview)
  | didConfirmDeletion (data : TimeCapsulePreview)
deriving DecidableEq, Repr

structure FetchRequest where
  token : String
  completion : FetchCompletion
deriving DecidableEq, Repr

/-- Whose completion a request for a page carries. -/
inductive PageCompletion where
  | fetchdataPagination
  | viewDidLoad
deriving DecidableEq, Repr

structure PageRequest where
  token : String
  cursor : Int
  completion : PageCompletion
deriving DecidableEq, Repr

structure DeleteRequest where
  token : String
  data : TimeCapsulePreview
deriving DecidableEq, Repr

/-- The errors that the service hands to a completion. -/
inductive ServiceError where
  | unexpectedResponseFormat
  | af
deriving DecidableEq, Repr

abbrev FetchTraffic := Traffic (DataResponse TimeCapsulePreviewResponse)
abbrev PageTraffic := Traffic (DataResponse TimeCapsulePreviewPaginationResponse)
abbrev DeleteTraffic := Traffic (AFResult DeleteResponse)

structure HomeScreen where
  store : Store
  fetches : Wire FetchRequest (DataResponse TimeCapsulePreviewResponse) := []
  pages : Wire PageRequest (DataResponse TimeCapsulePreviewPaginationResponse) := []
  deletions : Wire DeleteRequest (AFResult DeleteResponse) := []
  returned : List (String × List TimeCapsulePreview) := []

inductive HomeEvent where
  | viewWillAppear
  | scrollViewDidScroll (offsetY contentHeight frameHeight : Rat)
  | handleTagButtonTap (sender : Fin K.String.tags.length)
  | toggleCapsuleViewButton (sender : CapsuleToggle)
  | sort (action : SortAction)
  | confirmPressed (data : TimeCapsulePreview)
  | fetch (traffic : FetchTraffic)
  | page (traffic : PageTraffic)
  | deletion (traffic : DeleteTraffic)
deriving DecidableEq, Repr

/-- The store event of a button or menu. -/
def HomeEvent.tap : HomeEvent → Option StoreEvent
  | .handleTagButtonTap sender => some (.handleTagButtonTap sender)
  | .toggleCapsuleViewButton sender => some (.toggleCapsuleViewButton sender)
  | .sort action => some (.sort action)
  | _ => none

/-! ## The service -/

/-- What `fetchTimeCapsules` calls its completion with, if it calls it: data that is text but no
list is only printed. -/
def fetchTimeCapsulesResult :
    DataResponse TimeCapsulePreviewResponse → Option (Except ServiceError (List TimeCapsulePreview))
  | .decoded json => some (.ok json.result)
  | .text _ => none
  | .binary => some (.error .unexpectedResponseFormat)
  | .failure => some (.error .af)

/-- What `fetchTimeCapsulesPagination` stores of an answer, and what it calls its completion
with. -/
def fetchTimeCapsulesPaginationResult (m : TimeCapsulePreviewModel) :
    DataResponse TimeCapsulePreviewPaginationResponse →
      TimeCapsulePreviewModel × Option (Except ServiceError (List TimeCapsulePreview))
  | .decoded json =>
    (m.pageInfo json.result.hasNext json.result.cursor, some (.ok json.result.capsuleList))
  | .text _ => (m, none)
  | .binary => (m, some (.error .unexpectedResponseFormat))
  | .failure => (m, some (.error .af))

namespace HomeScreen

def fetchTimeCapsules (s : HomeScreen) (token : String) (completion : FetchCompletion) :
    HomeScreen :=
  { s with fetches := s.fetches.send ⟨token, completion⟩ }

def fetchTimeCapsulesPagination (s : HomeScreen) (token : String) (completion : PageCompletion) :
    HomeScreen :=
  { s with pages := s.pages.send ⟨token, s.store.model.cursor, completion⟩ }

def deleteTimeCapsule (s : HomeScreen) (token : String) (data : TimeCapsulePreview) : HomeScreen :=
  { s with deletions := s.deletions.send ⟨token, data⟩ }

/-! ## The view controllers -/

section Keychain
variable (keychain : Keychain)

def fetchdata (s : HomeScreen) : HomeScreen :=
  match keychain.load .refreshToken with
  | some token => s.fetchTimeCapsules token .fetchdata
  | none => s

def fetchdataPagination (s : HomeScreen) : HomeScreen :=
  match keychain.load .refreshToken with
  | some token => s.fetchTimeCapsulesPagination token .fetchdataPagination
  | none => s

def viewDidLoad (s : HomeScreen) : HomeScreen :=
  match keychain.load .refreshToken with
  | some token =>
    match keychain.load .fcmToken with
    | some _ =>
      if s.store.model.hasNext then
        -- two requests with one cursor: the first is merged, the second replaces
        (s.fetchdataPagination keychain).fetchTimeCapsulesPagination token .viewDidLoad
      else
        s
    | none => s
  | none => s

def viewWillAppear (s : HomeScreen) : HomeScreen := s.fetchdata keychain

def scrollViewDidScroll (s : HomeScreen) (offsetY contentHeight frameHeight : Rat) : HomeScreen :=
  if offsetY > contentHeight - frameHeight - 100 then
    if s.store.model.hasNext then s.fetchdataPagination keychain else s
  else
    s

/-- `DeletionAlertViewController.confirmPressed`. -/
def confirmPressed (s : HomeScreen) (data : TimeCapsulePreview) : HomeScreen :=
  match keychain.load .refreshToken with
  | some token => s.deleteTimeCapsule token data
  | none => s

/-- The closure that `showCustomAlert` installs as `didConfirmDeletion`. -/
def didConfirmDeletion (s : HomeScreen) (data : TimeCapsulePreview) : HomeScreen :=
  match keychain.load .refreshToken with
  | some token => s.fetchTimeCapsules token (.didConfirmDeletion data)
  | none => s

def fetchHandler (s : HomeScreen) (r : FetchRequest)
    (response : DataResponse TimeCapsulePreviewResponse) : HomeScreen :=
  match fetchTimeCapsulesResult response with
  | some (.ok timeCapsules) =>
    let s := { s with returned := s.returned ++ [(r.token, timeCapsules)] }
    match r.completion with
    | .fetchdata => { s with store.model := s.store.model.fetchTimeCapsulePreviews timeCapsules }
    | .confirmPressed data =>
      -- the closure keeps the token of the deletion, `didConfirmDeletion` loads the current one
      { s with store.model := s.store.model.confirmedDeletion timeCapsules }.didConfirmDeletion
        keychain data
    | .didConfirmDeletion _ =>
      { s with store.model := s.store.model.fetchTimeCapsulePreviews timeCapsules }
  | some (.error _) => s
  | none => s

end Keychain

def pageHandler (s : HomeScreen) (r : PageRequest)
    (response : DataResponse TimeCapsulePreviewPaginationResponse) : HomeScreen :=
  let (model, result) := fetchTimeCapsulesPaginationResult s.store.model response
  let s := { s with store.model := model }
  match result with
  | some (.ok timeCapsules) =>
    let s := { s with returned := s.returned ++ [(r.token, timeCapsules)] }
    match r.completion with
    | .fetchdataPagination =>
      let model := s.store.model.fetchTimeCapsulePreviews timeCapsules
      { s with store.model := model.removeDuplicate }
    | .viewDidLoad => { s with store.model := s.store.model.firstFetch timeCapsules }
  | some (.error _) => s
  | none => s

/-- The answer to a deletion; its flag is not looked at. -/
def deletionHandler (s : HomeScreen) (r : DeleteRequest) : AFResult DeleteResponse → HomeScreen
  | .success _ => s.fetchTimeCapsules r.token (.confirmPressed r.data)
  | .failure => s

def step (keychain : Keychain) (s : HomeScreen) : HomeEvent → Option HomeScreen
  | .viewWillAppear => some (s.viewWillAppear keychain)
  | .scrollViewDidScroll offsetY contentHeight frameHeight =>
    some (s.scrollViewDidScroll keychain offsetY contentHeight frameHeight)
  | .handleTagButtonTap sender => do
    let store ← s.store.step (.handleTagButtonTap sender)
    some { s with store }
  | .toggleCapsuleViewButton sender => do
    let store ← s.store.step (.toggleCapsuleViewButton sender)
    some { s with store }
  | .sort action => do
    let store ← s.store.step (.sort action)
    some { s with store }
  | .confirmPressed data => some (s.confirmPressed keychain data)
  | .fetch traffic =>
    let (fetches, delivered) := s.fetches.step traffic
    match delivered with
    | some (r, response) => some ({ s with fetches }.fetchHandler keychain r response)
    | none => some { s with fetches }
  | .page traffic =>
    let (pages, delivered) := s.pages.step traffic
    match delivered with
    | some (r, response) => some ({ s with pages }.pageHandler r response)
    | none => some { s with pages }
  | .deletion traffic =>
    let (deletions, delivered) := s.deletions.step traffic
    match delivered with
    | some (r, result) => some ({ s with deletions }.deletionHandler r result)
    | none => some { s with deletions }

/-- No request is outstanding. -/
def Quiet (s : HomeScreen) : Prop := s.fetches = [] ∧ s.pages = [] ∧ s.deletions = []

instance : DecidablePred Quiet := fun _ => inferInstanceAs (Decidable (_ ∧ _ ∧ _))

/-! ## Sending -/

/-- `t` is `s` with more requests on its wires, all of them with the stored token: lists for
`fetchdata`, and pages from the current cursor. -/
structure Sends (keychain : Keychain) (s t : HomeScreen) : Prop where
  store : t.store = s.store
  returned : t.returned = s.returned
  fetch : ∀ x ∈ t.fetches, x ∈ s.fetches ∨ ∃ token, keychain.load .refreshToken = some token ∧
    x = ⟨⟨token, .fetchdata⟩, none⟩
  page : ∀ x ∈ t.pages, x ∈ s.pages ∨ ∃ token completion,
    keychain.load .refreshToken = some token ∧
    x = ⟨⟨token, s.store.model.cursor, completion⟩, none⟩
  deletions : t.deletions = s.deletions
  fetches : ∀ x ∈ s.fetches, x ∈ t.fetches
  pages : ∀ x ∈ s.pages, x ∈ t.pages

section Sends
variable {keychain : Keychain} {s t u : HomeScreen}

lemma Sends.refl (s : HomeScreen) : Sends keychain s s where
  store := rfl
  returned := rfl
  fetch _ hx := .inl hx
  page _ hx := .inl hx
  deletions := rfl
  fetches _ hx := hx
  pages _ hx := hx

lemma Sends.trans (h1 : Sends keychain s t) (h2 : Sends keychain t u) : Sends keychain s u where
  store := h2.store.trans h1.store
  returned := h2.returned.trans h1.returned
  fetch x hx := (h2.fetch x hx).elim (h1.fetch x) .inr
  page x hx := (h2.page x hx).elim (h1.page x) fun h => .inr (h1.store ▸ h)
  deletions := h2.deletions.trans h1.deletions
  fetches x hx := h2.fetches x (h1.fetches x hx)
  pages x hx := h2.pages x (h1.pages x hx)

lemma sends_fetch {token : String} (h : keychain.load .refreshToken = some token) :
    Sends keychain s (s.fetchTimeCapsules token .fetchdata) :=
  { Sends.refl s with
    fetch := fun _ hx => (Wire.mem_send.1 hx).imp id fun e => ⟨token, h, e⟩
    fetches := fun _ hx => Wire.mem_send.2 (.inl hx) }

lemma sends_page {token : String} {completion : PageCompletion}
    (h : keychain.load .refreshToken = some token) :
    Sends keychain s (s.fetchTimeCapsulesPagination token completion) :=
  { Sends.refl s with
    page := fun _ hx => (Wire.mem_send.1 hx).imp id fun e => ⟨token, completion, h, e⟩
    pages := fun _ hx => Wire.mem_send.2 (.inl hx) }

lemma fetchdata_sends : Sends keychain s (s.fetchdata keychain) := by
  unfold fetchdata
  split
  · next token h => exact sends_fetch h
  · exact .refl s

lemma fetchdataPagination_sends : Sends keychain s (s.fetchdataPagination keychain) := by
  unfold fetchdataPagination
  split
  · next token h => exact sends_page h
  · exact .refl s

lemma viewDidLoad_sends : Sends keychain s (s.viewDidLoad keychain) := by
  unfold viewDidLoad
  split
  · next token h =>
    split
    · split
      · exact fetchdataPagination_sends.trans (sends_page h)
      · exact .refl s
    · exact .refl s
  · exact .refl s

lemma scrollViewDidScroll_sends {offsetY contentHeight frameHeight : Rat} :
    Sends keychain s (s.scrollViewDidScroll keychain offsetY contentHeight frameHeight) := by
  unfold scrollViewDidScroll
  split
  · split
    · exact fetchdataPagination_sends
    · exact .refl s
  · exact .refl s

end Sends

end HomeScreen

end TimeCapsule.Home
