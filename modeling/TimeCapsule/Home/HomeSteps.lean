import TimeCapsule.Home.HomeViewController

/-!
# Steps of the home screen

`Step` inverts the step function of the home screen: what is sent, which wire moves, which handler
runs. For the store each step is a short run of the store's own machine, which `storeEvents` names
(`step_store`); `delivered` is the list that an answer hands over at a step, with the token of its
request. What the arrays hold has been delivered (`step_holds`).
-/

namespace TimeCapsule.Home
open Foundation

/-- The list that an event hands to the store. -/
def StoreEvent.capsules : StoreEvent → List TimeCapsulePreview
  | .fetchTimeCapsulePreviews timeCapsules => timeCapsules
  | .firstFetch timeCapsules => timeCapsules
  | .confirmedDeletion timeCapsules => timeCapsules
  | _ => []

namespace Store

/-- A capsule is in one of the two arrays. -/
def Holds (s : Store) (c : TimeCapsulePreview) : Prop :=
  c ∈ s.model.original ∨ c ∈ s.model.filtered

/-- What `original` holds after an event it held before, or the event brought it. -/
lemma step_original {s t : Store} {e : StoreEvent} (h : s.step e = some t) {c : TimeCapsulePreview}
    (hc : c ∈ t.model.original) : c ∈ s.model.original ∨ c ∈ e.capsules := by
  have change := step_change h
  generalize t.model = m at change hc
  cases change with
  | tag =>
    rw [TimeCapsulePreviewModel.filter_original] at hc
    exact .inl hc
  | state =>
    rw [TimeCapsulePreviewModel.filter_original] at hc
    exact .inl hc
  | sort perm =>
    rw [TimeCapsulePreviewModel.filter_original] at hc
    exact .inl (perm.mem_iff.1 hc)
  | fetch =>
    rw [TimeCapsulePreviewModel.fetchTimeCapsulePreviews_original] at hc
    exact Keyed.of_mem_mergeOn hc
  | removeDuplicate => exact .inl (mem_removingDuplicates.1 hc)
  | firstFetch =>
    rw [TimeCapsulePreviewModel.firstFetch_original] at hc
    exact .inr hc
  | confirmedDeletion => exact .inr hc
  | pageInfo => exact .inl hc

/-- What is on screen after an event is in `original`, or was on screen before. -/
lemma step_filtered {s t : Store} {e : StoreEvent} (h : s.step e = some t) {c : TimeCapsulePreview}
    (hc : c ∈ t.model.filtered) : c ∈ t.model.original ∨ c ∈ s.model.filtered := by
  have viewed {m : TimeCapsulePreviewModel} (hc : c ∈ m.filter.filtered) : c ∈ m.filter.original := by
    rw [TimeCapsulePreviewModel.filter_filtered] at hc
    rw [TimeCapsulePreviewModel.filter_original]
    exact List.mem_of_mem_filter hc
  have change := step_change h
  generalize t.model = m at change hc
  cases change with
  | tag => exact .inl (viewed hc)
  | state => exact .inl (viewed hc)
  | sort => exact .inl (viewed hc)
  | fetch => exact .inl (viewed hc)
  | removeDuplicate => exact .inr (mem_removingDuplicates.1 hc)
  | firstFetch => exact .inl (viewed hc)
  | confirmedDeletion => exact .inr hc
  | pageInfo => exact .inr hc

/-- What the arrays hold after an event they held before, or the event brought it. -/
lemma step_holds {s t : Store} {e : StoreEvent} (h : s.step e = some t) {c : TimeCapsulePreview}
    (hc : t.Holds c) : s.Holds c ∨ c ∈ e.capsules := by
  have original (hc : c ∈ t.model.original) : s.Holds c ∨ c ∈ e.capsules :=
    (step_original h hc).imp .inl id
  rcases hc with hc | hc
  · exact original hc
  · exact (step_filtered h hc).elim original fun hc => .inl (.inr hc)

/-- What the arrays hold after a run of the store they held before, or the run brought it. -/
lemma exec_holds {s t : Store} {es : List StoreEvent} (h : Run.exec step s es = some t)
    {c : TimeCapsulePreview} (hc : t.Holds c) : s.Holds c ∨ ∃ e ∈ es, c ∈ e.capsules := by
  have inv : t.Holds c → s.Holds c ∨ ∃ e ∈ es, c ∈ e.capsules := by
    refine Run.exec_inv (I := fun u => u.Holds c → s.Holds c ∨ ∃ e ∈ es, c ∈ e.capsules) ?_ .inl h
    intro u e he ih v hv hc
    exact (step_holds hv hc).elim ih fun h => .inr ⟨e, he, h⟩
  exact inv hc

end Store

/-- What the handler of a list does to the store. -/
def FetchRequest.storeEvents (r : FetchRequest) :
    DataResponse TimeCapsulePreviewResponse → List StoreEvent
  | .decoded json =>
    match r.completion with
    | .fetchdata => [.fetchTimeCapsulePreviews json.result]
    | .confirmPressed _ => [.confirmedDeletion json.result]
    | .didConfirmDeletion _ => [.fetchTimeCapsulePreviews json.result]
  | _ => []

/-- What the handler of a page does to the store. -/
def PageRequest.storeEvents (r : PageRequest) :
    DataResponse TimeCapsulePreviewPaginationResponse → List StoreEvent
  | .decoded json =>
    .pageInfo json.result.hasNext json.result.cursor ::
      match r.completion with
      | .fetchdataPagination =>
        [.fetchTimeCapsulePreviews json.result.capsuleList, .removeDuplicate]
      | .viewDidLoad => [.firstFetch json.result.capsuleList]
  | _ => []

/-- The list in an answer, with the token of its request. -/
def FetchRequest.delivers (r : FetchRequest) :
    DataResponse TimeCapsulePreviewResponse → Option (String × List TimeCapsulePreview)
  | .decoded json => some (r.token, json.result)
  | _ => none

/-- The list in a page, with the token of its request. -/
def PageRequest.delivers (r : PageRequest) :
    DataResponse TimeCapsulePreviewPaginationResponse → Option (String × List TimeCapsulePreview)
  | .decoded json => some (r.token, json.result.capsuleList)
  | _ => none

namespace HomeScreen

/-- What a step of the screen does to the store. -/
def storeEvents (s : HomeScreen) : HomeEvent → List StoreEvent
  | .fetch traffic => (s.fetches.step traffic).2.elim [] fun (r, response) => r.storeEvents response
  | .page traffic => (s.pages.step traffic).2.elim [] fun (r, response) => r.storeEvents response
  | e => e.tap.toList

/-- The list that is handed over at this step, with the token of its request. -/
def delivered (s : HomeScreen) : HomeEvent → Option (String × List TimeCapsulePreview)
  | .fetch traffic => (s.fetches.step traffic).2.bind fun (r, response) => r.delivers response
  | .page traffic => (s.pages.step traffic).2.bind fun (r, response) => r.delivers response
  | _ => none

/-- The screen after the traffic of an event, before any handler has run. -/
def moved (s : HomeScreen) : HomeEvent → HomeScreen
  | .fetch traffic => { s with fetches := (s.fetches.step traffic).1 }
  | .page traffic => { s with pages := (s.pages.step traffic).1 }
  | .deletion traffic => { s with deletions := (s.deletions.step traffic).1 }
  | _ => s

/-- The page that is handled at this step, with its request. -/
def handledPage (s : HomeScreen) :
    HomeEvent → Option (PageRequest × TimeCapsulePreviewPaginationResponse)
  | .page traffic => (s.pages.step traffic).2.bind fun (r, response) => response.json.map (r, ·)
  | _ => none

/-- The kinds of steps of the home screen: requests are sent, a button changes the store, a wire
moves by itself, or an answer is handled. -/
inductive Step (keychain : Keychain) (s : HomeScreen) : HomeEvent → HomeScreen → Prop where
  | sends {e t} :
    Sends keychain s t → s.storeEvents e = [] → s.delivered e = none →
    Step keychain s e t
  | deletes {token data} :
    keychain.load .refreshToken = some token →
    Step keychain s (.confirmPressed data) (s.deleteTimeCapsule token data)
  | tap {e event store} :
    e.tap = some event →
    s.store.step event = some store →
    Step keychain s e { s with store }
  | fetchMoves {traffic fetches} :
    s.fetches.step traffic = (fetches, none) →
    Step keychain s (.fetch traffic) { s with fetches }
  | fetchHandled {traffic fetches r response} :
    s.fetches.step traffic = (fetches, some (r, response)) →
    Step keychain s (.fetch traffic) ({ s with fetches }.fetchHandler keychain r response)
  | pageMoves {traffic pages} :
    s.pages.step traffic = (pages, none) →
    Step keychain s (.page traffic) { s with pages }
  | pageHandled {traffic pages r response} :
    s.pages.step traffic = (pages, some (r, response)) →
    Step keychain s (.page traffic) ({ s with pages }.pageHandler r response)
  | deletionMoves {traffic deletions} :
    s.deletions.step traffic = (deletions, none) →
    Step keychain s (.deletion traffic) { s with deletions }
  | deletionHandled {traffic deletions r result} :
    s.deletions.step traffic = (deletions, some (r, result)) →
    Step keychain s (.deletion traffic) ({ s with deletions }.deletionHandler r result)

/-- Inversion of `step`. -/
lemma step_inv {keychain : Keychain} {s t : HomeScreen} {e : HomeEvent}
    (h : s.step keychain e = some t) : Step keychain s e t := by
  cases e with
  | viewWillAppear => cases h; exact .sends fetchdata_sends rfl rfl
  | scrollViewDidScroll => cases h; exact .sends scrollViewDidScroll_sends rfl rfl
  | confirmPressed data =>
    cases h
    unfold confirmPressed
    split
    · next token h => exact .deletes h
    · exact .sends (.refl s) rfl rfl
  | handleTagButtonTap sender => cases h; exact .tap rfl rfl
  | toggleCapsuleViewButton sender => cases h; exact .tap rfl rfl
  | sort action =>
    obtain ⟨store, hs, h⟩ := Option.bind_eq_some_iff.1 h
    cases h
    exact .tap rfl hs
  | fetch traffic =>
    obtain ⟨fetches, d, hw⟩ := s.fetches.exists_step traffic
    simp only [step, hw] at h
    cases d with
    | none => cases h; exact .fetchMoves hw
    | some d => cases h; exact .fetchHandled hw
  | page traffic =>
    obtain ⟨pages, d, hw⟩ := s.pages.exists_step traffic
    simp only [step, hw] at h
    cases d with
    | none => cases h; exact .pageMoves hw
    | some d => cases h; exact .pageHandled hw
  | deletion traffic =>
    obtain ⟨deletions, d, hw⟩ := s.deletions.exists_step traffic
    simp only [step, hw] at h
    cases d with
    | none => cases h; exact .deletionMoves hw
    | some d => cases h; exact .deletionHandled hw

section Step
variable {keychain : Keychain} {s t : HomeScreen} {e : HomeEvent}

/-- The store's part of the list handler. -/
lemma fetchHandler_store (s : HomeScreen) (r : FetchRequest)
    (response : DataResponse TimeCapsulePreviewResponse) :
    Run.exec Store.step s.store (r.storeEvents response) =
      some (s.fetchHandler keychain r response).store := by
  obtain ⟨token, completion⟩ := r
  cases response with
  | decoded json =>
    cases completion with
    | confirmPressed data =>
      simp only [fetchHandler, fetchTimeCapsulesResult, didConfirmDeletion]
      split <;> rfl
    | _ => rfl
  | _ => rfl

/-- The store's part of the page handler. -/
lemma pageHandler_store (s : HomeScreen) (r : PageRequest)
    (response : DataResponse TimeCapsulePreviewPaginationResponse) :
    Run.exec Store.step s.store (r.storeEvents response) =
      some (s.pageHandler r response).store := by
  obtain ⟨token, cursor, completion⟩ := r
  cases response with
  | decoded json => cases completion <;> rfl
  | _ => rfl

/-- A step of the screen runs the store through its `storeEvents`. -/
theorem step_store (h : s.step keychain e = some t) :
    Run.exec Store.step s.store (s.storeEvents e) = some t.store := by
  cases step_inv h with
  | sends sends none => rw [none, sends.store]; rfl
  | deletes => rfl
  | @tap _ event store he hs =>
    have one : s.storeEvents e = [event] := by
      cases e with
      | fetch | page => cases he
      | _ => simp [storeEvents, he]
    rw [one, Run.exec_cons, hs]
    rfl
  | fetchMoves hw => simp [storeEvents, hw]
  | @fetchHandled _ fetches r response hw =>
    simp only [storeEvents, hw, Option.elim_some]
    exact fetchHandler_store { s with fetches } r response
  | pageMoves hw => simp [storeEvents, hw]
  | @pageHandled _ pages r response hw =>
    simp only [storeEvents, hw, Option.elim_some]
    exact pageHandler_store { s with pages } r response
  | deletionMoves => rfl
  | @deletionHandled _ _ r result => cases result <;> rfl

/-- The history grows by what is delivered. -/
lemma step_returned (h : s.step keychain e = some t) :
    t.returned = s.returned ++ (s.delivered e).toList := by
  cases step_inv h with
  | sends sends _ none => simp [none, sends.returned]
  | deletes => simp [delivered, deleteTimeCapsule]
  | tap he =>
    cases e with
    | fetch | page => cases he
    | _ => simp [delivered]
  | fetchMoves hw => simp [delivered, hw]
  | @fetchHandled _ _ r response hw =>
    obtain ⟨token, completion⟩ := r
    cases response with
    | decoded json =>
      cases completion with
      | confirmPressed data =>
        simp only [delivered, hw, fetchHandler, fetchTimeCapsulesResult, didConfirmDeletion]
        split <;> rfl
      | _ => simp [delivered, hw, FetchRequest.delivers, fetchHandler, fetchTimeCapsulesResult]
    | _ => simp [delivered, hw, FetchRequest.delivers, fetchHandler, fetchTimeCapsulesResult]
  | pageMoves hw => simp [delivered, hw]
  | @pageHandled _ _ r response hw =>
    obtain ⟨token, cursor, completion⟩ := r
    cases response with
    | decoded json =>
      cases completion <;> simp [delivered, hw, PageRequest.delivers, pageHandler,
        fetchTimeCapsulesPaginationResult]
    | _ =>
      simp [delivered, hw, PageRequest.delivers, pageHandler, fetchTimeCapsulesPaginationResult]
  | deletionMoves => simp [delivered]
  | @deletionHandled _ _ r result =>
    cases result <;> simp [delivered, deletionHandler, fetchTimeCapsules]

/-- What the handler of a list brings to the store is in the answer. -/
lemma mem_fetch_storeEvents {r : FetchRequest} {response : DataResponse TimeCapsulePreviewResponse}
    {event : StoreEvent} (he : event ∈ r.storeEvents response) {c : TimeCapsulePreview}
    (hc : c ∈ event.capsules) : ∃ d ∈ r.delivers response, c ∈ d.2 := by
  obtain ⟨token, completion⟩ := r
  cases response with
  | decoded json =>
    cases completion <;>
    · cases List.mem_singleton.1 he
      exact ⟨_, rfl, hc⟩
  | _ => cases he

/-- What the handler of a page brings to the store is in the answer. -/
lemma mem_page_storeEvents {r : PageRequest}
    {response : DataResponse TimeCapsulePreviewPaginationResponse} {event : StoreEvent}
    (he : event ∈ r.storeEvents response) {c : TimeCapsulePreview} (hc : c ∈ event.capsules) :
    ∃ d ∈ r.delivers response, c ∈ d.2 := by
  obtain ⟨token, cursor, completion⟩ := r
  cases response with
  | decoded json =>
    refine ⟨_, rfl, ?_⟩
    cases completion <;>
    · simp only [PageRequest.storeEvents, List.mem_cons, List.not_mem_nil, or_false] at he
      rcases he with rfl | rfl | rfl <;> first | exact hc | cases hc
  | _ => cases he

/-- What a step brings to the store is what it delivers. -/
lemma mem_storeEvents {event : StoreEvent} (he : event ∈ s.storeEvents e) {c : TimeCapsulePreview}
    (hc : c ∈ event.capsules) : ∃ d ∈ s.delivered e, c ∈ d.2 := by
  cases e with
  | fetch traffic =>
    cases hd : (s.fetches.step traffic).2 with
    | none => simp [storeEvents, hd] at he
    | some d =>
      simp only [storeEvents, delivered, hd, Option.elim_some, Option.bind_some] at he ⊢
      exact mem_fetch_storeEvents he hc
  | page traffic =>
    cases hd : (s.pages.step traffic).2 with
    | none => simp [storeEvents, hd] at he
    | some d =>
      simp only [storeEvents, delivered, hd, Option.elim_some, Option.bind_some] at he ⊢
      exact mem_page_storeEvents he hc
  | handleTagButtonTap | toggleCapsuleViewButton | sort =>
    cases List.mem_singleton.1 he
    cases hc
  | _ => cases he

/-- What the arrays hold after a step they held before, or the step delivered it. -/
lemma step_holds (h : s.step keychain e = some t) {c : TimeCapsulePreview} (hc : t.store.Holds c) :
    s.store.Holds c ∨ ∃ d ∈ s.delivered e, c ∈ d.2 :=
  (Store.exec_holds (step_store h) hc).imp id fun ⟨_, he, hc⟩ => mem_storeEvents he hc

end Step

/-! ## The handlers and the buttons -/

section Handlers
variable {keychain : Keychain} {s : HomeScreen}

/-- A button leaves `original` as it is up to order, and the paging position alone. -/
lemma tap_store {e : HomeEvent} {event : StoreEvent} (he : e.tap = some event) {store : Store}
    (h : s.store.step event = some store) :
    store.model.original.Perm s.store.model.original ∧
      store.model.cursor = s.store.model.cursor ∧
      store.model.hasNext = s.store.model.hasNext := by
  have change := Store.step_change h
  generalize store.model = m at change
  cases change with
  | tag => simp
  | state => simp
  | sort perm => simpa using perm
  | _ => cases e <;> cases he

/-- An answer that is no list leaves the home screen alone. -/
lemma fetchHandler_eq_self {r : FetchRequest} {response : DataResponse TimeCapsulePreviewResponse}
    (h : response.json = none) : s.fetchHandler keychain r response = s := by
  cases response with
  | decoded => cases h
  | _ => rfl

/-- An answer that is no page leaves the home screen alone. -/
lemma pageHandler_eq_self {r : PageRequest}
    {response : DataResponse TimeCapsulePreviewPaginationResponse} (h : response.json = none) :
    s.pageHandler r response = s := by
  cases response with
  | decoded => cases h
  | _ => rfl

/-- A handled page moves the cursor behind it. -/
lemma pageHandler_position (s : HomeScreen) (r : PageRequest)
    (json : TimeCapsulePreviewPaginationResponse) :
    (s.pageHandler r (.decoded json)).store.model.cursor = json.result.cursor ∧
      (s.pageHandler r (.decoded json)).store.model.hasNext =
        (json.result.hasNext && s.store.model.hasNext) := by
  obtain ⟨token, cursor, completion⟩ := r
  have hasNext : (if !json.result.hasNext then false else s.store.model.hasNext) =
      (json.result.hasNext && s.store.model.hasNext) := by
    cases json.result.hasNext <;> rfl
  cases completion with
  | fetchdataPagination =>
    exact ⟨TimeCapsulePreviewModel.filter_cursor _,
      (TimeCapsulePreviewModel.filter_hasNext _).trans hasNext⟩
  | viewDidLoad =>
    exact ⟨TimeCapsulePreviewModel.filter_cursor _,
      (TimeCapsulePreviewModel.filter_hasNext _).trans hasNext⟩

/-- A list handler leaves the paging position alone. -/
lemma fetchHandler_position (r : FetchRequest) (response : DataResponse TimeCapsulePreviewResponse) :
    (s.fetchHandler keychain r response).store.model.cursor = s.store.model.cursor ∧
      (s.fetchHandler keychain r response).store.model.hasNext = s.store.model.hasNext := by
  obtain ⟨token, completion⟩ := r
  cases response with
  | decoded json =>
    cases completion with
    | fetchdata | didConfirmDeletion =>
      exact ⟨TimeCapsulePreviewModel.filter_cursor _, TimeCapsulePreviewModel.filter_hasNext _⟩
    | confirmPressed data =>
      simp only [fetchHandler, fetchTimeCapsulesResult, didConfirmDeletion]
      split <;> exact ⟨rfl, rfl⟩
  | _ => exact ⟨rfl, rfl⟩

/-- The handler of a deletion leaves the store alone. -/
lemma deletionHandler_store (r : DeleteRequest) (result : AFResult DeleteResponse) :
    (s.deletionHandler r result).store = s.store := by
  cases result <;> rfl

/-- A step that delivers nothing handles no page. -/
lemma handledPage_of_delivered {e : HomeEvent} (h : s.delivered e = none) :
    s.handledPage e = none := by
  cases e with
  | page traffic =>
    cases hd : (s.pages.step traffic).2 with
    | none => simp [handledPage, hd]
    | some d =>
      obtain ⟨r, response⟩ := d
      simp only [delivered, hd, Option.bind_some] at h
      cases response with
      | decoded => cases h
      | _ => simp [handledPage, hd, DataResponse.json]
  | _ => rfl

/-- Only a page that is handled moves the paging position. -/
lemma step_position {t : HomeScreen} {e : HomeEvent} (h : s.step keychain e = some t) :
    t.store.model.cursor =
        (s.handledPage e).elim s.store.model.cursor (fun d => d.2.result.cursor) ∧
      t.store.model.hasNext = (s.handledPage e).elim s.store.model.hasNext
        (fun d => d.2.result.hasNext && s.store.model.hasNext) := by
  cases step_inv h with
  | sends sends _ nothing =>
    rw [handledPage_of_delivered nothing, sends.store]
    exact ⟨rfl, rfl⟩
  | deletes => exact ⟨rfl, rfl⟩
  | tap he hs =>
    have noPage : s.handledPage e = none := by cases e <;> first | rfl | cases he
    rw [noPage]
    exact (tap_store he hs).2
  | fetchMoves => exact ⟨rfl, rfl⟩
  | @fetchHandled traffic fetches r response =>
    exact fetchHandler_position (s := { s with fetches }) r response
  | pageMoves hw =>
    simp only [handledPage, hw]
    exact ⟨rfl, rfl⟩
  | @pageHandled traffic pages r response hw =>
    simp only [handledPage, hw, Option.bind_some]
    cases hj : response.json with
    | none =>
      rw [pageHandler_eq_self hj]
      exact ⟨rfl, rfl⟩
    | some json =>
      cases DataResponse.json_eq_some.1 hj
      exact pageHandler_position { s with pages } r json
  | deletionMoves => exact ⟨rfl, rfl⟩
  | @deletionHandled traffic deletions r result =>
    rw [deletionHandler_store]
    exact ⟨rfl, rfl⟩

end Handlers

/-! ## Outstanding requests -/

section Outstanding
variable {keychain : Keychain} {s t : HomeScreen} {e : HomeEvent}

/-- A list handler only adds list requests. -/
lemma mem_fetchHandler_fetches {r : FetchRequest}
    {response : DataResponse TimeCapsulePreviewResponse}
    {x : Exchange FetchRequest (DataResponse TimeCapsulePreviewResponse)} (hx : x ∈ s.fetches) :
    x ∈ (s.fetchHandler keychain r response).fetches := by
  obtain ⟨token, completion⟩ := r
  cases response with
  | decoded json =>
    cases completion with
    | confirmPressed data =>
      simp only [fetchHandler, fetchTimeCapsulesResult, didConfirmDeletion]
      split
      · exact Wire.mem_send.2 (.inl hx)
      · exact hx
    | _ => exact hx
  | _ => exact hx

/-- A list handler sends no other requests. -/
lemma fetchHandler_wires {r : FetchRequest} {response : DataResponse TimeCapsulePreviewResponse} :
    (s.fetchHandler keychain r response).pages = s.pages ∧
      (s.fetchHandler keychain r response).deletions = s.deletions := by
  obtain ⟨token, completion⟩ := r
  cases response with
  | decoded json =>
    cases completion with
    | confirmPressed data =>
      simp only [fetchHandler, fetchTimeCapsulesResult, didConfirmDeletion]
      split <;> exact ⟨rfl, rfl⟩
    | _ => exact ⟨rfl, rfl⟩
  | _ => exact ⟨rfl, rfl⟩

/-- A page handler sends nothing. -/
lemma pageHandler_wires (s : HomeScreen) (r : PageRequest)
    (response : DataResponse TimeCapsulePreviewPaginationResponse) :
    (s.pageHandler r response).fetches = s.fetches ∧
      (s.pageHandler r response).pages = s.pages ∧
      (s.pageHandler r response).deletions = s.deletions := by
  obtain ⟨token, cursor, completion⟩ := r
  cases response with
  | decoded json => cases completion <;> exact ⟨rfl, rfl, rfl⟩
  | _ => exact ⟨rfl, rfl, rfl⟩

/-- The handler of a deletion only adds list requests. -/
lemma mem_deletionHandler_fetches {r : DeleteRequest} {result : AFResult DeleteResponse}
    {x : Exchange FetchRequest (DataResponse TimeCapsulePreviewResponse)} (hx : x ∈ s.fetches) :
    x ∈ (s.deletionHandler r result).fetches := by
  cases result with
  | success => exact Wire.mem_send.2 (.inl hx)
  | failure => exact hx

/-- The handler of a deletion deletes nothing more. -/
lemma deletionHandler_deletions {r : DeleteRequest} {result : AFResult DeleteResponse} :
    (s.deletionHandler r result).deletions = s.deletions := by
  cases result <;> rfl

/-- An outstanding list request stays outstanding until its answer is handled, with every property
that its answer does not spoil. -/
lemma step_fetch (h : s.step keychain e = some t)
    {Q : Exchange FetchRequest (DataResponse TimeCapsulePreviewResponse) → Prop}
    {x : Exchange FetchRequest (DataResponse TimeCapsulePreviewResponse)} (hx : x ∈ s.fetches)
    (hq : Q x) (reply : ∀ i response, e = .fetch (.reply i response) → s.fetches[i]? = some x →
      x.answer = none → Q ⟨x.request, some response⟩) :
    (∃ y ∈ t.fetches, y.request = x.request ∧ Q y) ∨ ∃ traffic fetches response,
      e = .fetch traffic ∧ s.fetches.step traffic = (fetches, some (x.request, response)) ∧
      x.answer = some response ∧ t = { s with fetches }.fetchHandler keychain x.request response := by
  have stays (ht : x ∈ t.fetches) : ∃ y ∈ t.fetches, y.request = x.request ∧ Q y :=
    ⟨x, ht, rfl, hq⟩
  -- only traffic on its own wire can touch the request, and only its own delivery takes it away
  cases step_inv h with
  | sends sends => exact .inl (stays (sends.fetches x hx))
  | deletes => exact .inl (stays hx)
  | tap => exact .inl (stays hx)
  | @fetchMoves traffic fetches hw =>
    have moves := Wire.moves_of_step hw
    rcases moves.keeps hx hq fun i a he => reply i a (he ▸ rfl) with kept | ⟨a, _, hd⟩
    · exact .inl kept
    · cases hd
  | @fetchHandled traffic fetches r response hw =>
    have moves := Wire.moves_of_step hw
    rcases moves.keeps hx hq fun i a he => reply i a (he ▸ rfl) with ⟨y, hy, hr, hq⟩ | ⟨a, ha, hd⟩
    · exact .inl ⟨y, mem_fetchHandler_fetches hy, hr, hq⟩
    · cases hd
      exact .inr ⟨traffic, fetches, response, rfl, hw, ha, rfl⟩
  | pageMoves => exact .inl (stays hx)
  | pageHandled => exact .inl (stays (by rwa [(pageHandler_wires _ _ _).1]))
  | deletionMoves => exact .inl (stays hx)
  | deletionHandled => exact .inl (stays (mem_deletionHandler_fetches hx))

/-- An outstanding deletion stays outstanding until its answer is handled, with every property that
its answer does not spoil. -/
lemma step_deletion (h : s.step keychain e = some t)
    {Q : Exchange DeleteRequest (AFResult DeleteResponse) → Prop}
    {x : Exchange DeleteRequest (AFResult DeleteResponse)} (hx : x ∈ s.deletions) (hq : Q x)
    (reply : ∀ i result, e = .deletion (.reply i result) → s.deletions[i]? = some x →
      x.answer = none → Q ⟨x.request, some result⟩) :
    (∃ y ∈ t.deletions, y.request = x.request ∧ Q y) ∨ ∃ deletions result,
      x.answer = some result ∧ t = { s with deletions }.deletionHandler x.request result := by
  have stays (ht : x ∈ t.deletions) : ∃ y ∈ t.deletions, y.request = x.request ∧ Q y :=
    ⟨x, ht, rfl, hq⟩
  cases step_inv h with
  | sends sends => exact .inl (stays (sends.deletions ▸ hx))
  | deletes => exact .inl (stays (Wire.mem_send.2 (.inl hx)))
  | tap => exact .inl (stays hx)
  | fetchMoves => exact .inl (stays hx)
  | fetchHandled => exact .inl (stays (by rwa [fetchHandler_wires.2]))
  | pageMoves => exact .inl (stays hx)
  | pageHandled => exact .inl (stays (by rwa [(pageHandler_wires _ _ _).2.2]))
  | deletionMoves hw =>
    have moves := Wire.moves_of_step hw
    rcases moves.keeps hx hq fun i a he => reply i a (he ▸ rfl) with kept | ⟨a, _, hd⟩
    · exact .inl kept
    · cases hd
  | @deletionHandled traffic deletions r result hw =>
    have moves := Wire.moves_of_step hw
    rcases moves.keeps hx hq fun i a he => reply i a (he ▸ rfl) with ⟨y, hy, hr, hq⟩ | ⟨a, ha, hd⟩
    · exact .inl ⟨y, by rwa [deletionHandler_deletions], hr, hq⟩
    · cases hd
      exact .inr ⟨deletions, result, ha, rfl⟩

end Outstanding

end HomeScreen

end TimeCapsule.Home
