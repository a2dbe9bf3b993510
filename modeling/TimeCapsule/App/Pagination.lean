import TimeCapsule.App.App
import TimeCapsule.Lib.Chain

/-!
# Pagination

Whether paging through an unchanging list collects all of it. Requests carry the cursor of the
moment they are sent and may overlap, yet the merging handlers lose nothing: `Paged` is kept by all
of them, in any order. The page handler of `viewDidLoad` replaces what the others have merged.
`paged_of_steps` says when that does no harm.
-/

namespace TimeCapsule
open Foundation Home Login

namespace Home

/-- A list of capsules that does not change, as a chain of pages from cursor 0 and as a whole. -/
structure Listing where
  pages : List (Chain.Page Int TimeCapsulePreview)
  last : Int
  list : List TimeCapsulePreview
  start : pages.head?.map Chain.Page.cursor = some 0
  distinct : (pages.map Chain.Page.cursor).Nodup
  agree : ∀ c ∈ list ++ Chain.all pages, ∀ d ∈ list ++ Chain.all pages, c.id = d.id → c = d

namespace Listing
variable (L : Listing)

/-- The answer to the page request with a cursor. -/
def answer (cursor : Int) : Option TimeCapsulePreviewResult :=
  (Chain.answer L.last L.pages cursor).map fun r => ⟨r.items, r.hasNext, r.next⟩

/-- The capsules of the pages that precede a cursor. -/
def before (cursor : Int) : List TimeCapsulePreview := Chain.before cursor L.pages

/-- The capsules of all pages. -/
def all : List TimeCapsulePreview := Chain.all L.pages

variable {L}

/-- No page precedes cursor 0. -/
lemma before_zero : L.before 0 = [] := by
  have start := L.start
  unfold before
  cases h : L.pages with
  | nil => simp [h] at start
  | cons p ps => exact Chain.before_first (by simpa [h] using start)

/-- Who holds the pages before a cursor and the answer for it holds the pages before the next
one. -/
lemma covers_answer {cursor : Int} {r : TimeCapsulePreviewResult} (h : L.answer cursor = some r)
    {l : List TimeCapsulePreview} (old : ∀ c ∈ L.before cursor, c ∈ l)
    (new : ∀ c ∈ r.capsuleList, c ∈ l) :
    (∀ c ∈ L.before r.cursor, c ∈ l) ∧ (r.hasNext = false → ∀ c ∈ L.all, c ∈ l) := by
  obtain ⟨r, hr, rfl⟩ := Option.map_eq_some_iff.1 h
  exact Chain.covers_answer L.distinct hr old new

/-- An answer lists capsules of the list. -/
lemma mem_all_of_answer {cursor : Int} {r : TimeCapsulePreviewResult}
    (h : L.answer cursor = some r) {c : TimeCapsulePreview} (hc : c ∈ r.capsuleList) : c ∈ L.all := by
  obtain ⟨r, hr, rfl⟩ := Option.map_eq_some_iff.1 h
  exact Chain.mem_all_of_answer hr hc

/-- Over capsules of the list, merging loses nothing. -/
lemma mem_mergeOn {l r : List TimeCapsulePreview} (hl : ∀ c ∈ l, c ∈ L.list ++ L.all)
    (hr : ∀ c ∈ r, c ∈ L.list ++ L.all) {c : TimeCapsulePreview} :
    c ∈ Keyed.mergeOn TimeCapsulePreview.id l r ↔ c ∈ l ∨ c ∈ r := by
  refine ⟨Keyed.of_mem_mergeOn, ?_⟩
  rintro (hc | hc)
  · exact Keyed.mem_mergeOn_left hc
  · by_cases hk : c.id ∈ l.map TimeCapsulePreview.id
    · obtain ⟨d, hd, e⟩ := List.mem_map.1 hk
      exact L.agree d (hl d hd) c (hr c hc) e ▸ Keyed.mem_mergeOn_left hd
    · exact Keyed.mem_mergeOn_right hc hk fun d hd e => L.agree d (hr d hd) c (hr c hc) e

end Listing

namespace HomeScreen

/-- The server answers from the list, and no capsule is deleted. -/
def Unchanging (L : Listing) (s : HomeScreen) : HomeEvent → Prop
  | .fetch (.reply _ response) => ∀ json ∈ response.json, json.result = L.list
  | .page (.reply i response) => ∀ x ∈ s.pages[i]?, x.answer = none →
    ∀ json ∈ response.json, L.answer x.request.cursor = some json.result
  | .confirmPressed _ => False
  | _ => True

/-- The page that `viewDidLoad` installs is the first one, no request beyond the second page is
outstanding, and the last page has not been handled, unless this is it. -/
def InstallsFirst (s : HomeScreen) : HomeEvent → Prop
  | .page traffic => ∀ d ∈ (s.pages.step traffic).2, d.1.completion = .viewDidLoad →
    ∀ json ∈ d.2.json, d.1.cursor = 0 ∧
      (∀ x ∈ (s.pages.step traffic).1,
        x.request.cursor = 0 ∨ x.request.cursor = json.result.cursor) ∧
      (s.store.model.hasNext = true ∨ json.result.hasNext = false)
  | _ => True

/-- The pages before the cursor have been collected, and all of them once there is no next. -/
def Complete (L : Listing) (s : HomeScreen) : Prop :=
  (∀ c ∈ L.before s.store.model.cursor, c ∈ s.store.model.original) ∧
    (s.store.model.hasNext = false → ∀ c ∈ L.all, c ∈ s.store.model.original)

instance (L : Listing) (s : HomeScreen) : DecidablePred (s.Unchanging L)
  | .fetch (.reply _ response) =>
    inferInstanceAs (Decidable (∀ json ∈ response.json, json.result = L.list))
  | .page (.reply i response) =>
    inferInstanceAs (Decidable (∀ x ∈ s.pages[i]?, _ → ∀ json ∈ response.json, _))
  | .confirmPressed _ => inferInstanceAs (Decidable False)
  | .fetch (.deliver _) | .page (.deliver _) | .deletion _ | .viewWillAppear
  | .scrollViewDidScroll .. | .handleTagButtonTap _ | .toggleCapsuleViewButton _ | .sort _ =>
    inferInstanceAs (Decidable True)

instance (s : HomeScreen) : DecidablePred s.InstallsFirst
  | .page traffic =>
    inferInstanceAs (Decidable (∀ d ∈ (s.pages.step traffic).2, _ → ∀ json ∈ d.2.json,
      _ ∧ (∀ x ∈ (s.pages.step traffic).1, _ ∨ _) ∧ (_ ∨ _)))
  | .fetch _ | .deletion _ | .viewWillAppear | .scrollViewDidScroll .. | .handleTagButtonTap _
  | .toggleCapsuleViewButton _ | .sort _ | .confirmPressed _ => inferInstanceAs (Decidable True)

instance (L : Listing) : DecidablePred (Complete L) := fun s =>
  inferInstanceAs (Decidable ((∀ c ∈ L.before s.store.model.cursor, _) ∧ (_ → ∀ c ∈ L.all, _)))

/-- The invariant of paging: what was collected, and what the outstanding requests can bring. -/
structure Paged (L : Listing) (s : HomeScreen) : Prop where
  complete : s.Complete L
  known : ∀ c ∈ s.store.model.original, c ∈ L.list ++ L.all
  behind : ∀ x ∈ s.pages, ∀ c ∈ L.before x.request.cursor, c ∈ s.store.model.original
  pages : ∀ x ∈ s.pages, ∀ response ∈ x.answer, ∀ json ∈ response.json,
    L.answer x.request.cursor = some json.result
  fetches : ∀ x ∈ s.fetches, x.request.completion = .fetchdata ∧
    ∀ response ∈ x.answer, ∀ json ∈ response.json, json.result = L.list
  deletions : s.deletions = []

/-! ## One step -/

section Step
variable {L : Listing} {keychain : Keychain} {s t : HomeScreen}

/-- Requests that are sent carry the current cursor. -/
lemma Paged.sends (paged : s.Paged L) (sends : Sends keychain s t) : t.Paged L where
  complete := by
    rw [Complete, sends.store]
    exact paged.complete
  known := by
    rw [sends.store]
    exact paged.known
  behind := by
    rw [sends.store]
    intro x hx
    rcases sends.page x hx with hx | ⟨token, completion, _, rfl⟩
    · exact paged.behind x hx
    · -- a new request carries the cursor, and the pages before that are there
      exact paged.complete.1
  pages x hx := by
    rcases sends.page x hx with hx | ⟨token, completion, _, rfl⟩
    · exact paged.pages x hx
    · exact Wire.unanswered
  fetches x hx := by
    rcases sends.fetch x hx with hx | ⟨token, _, rfl⟩
    · exact paged.fetches x hx
    · exact ⟨rfl, Wire.unanswered⟩
  deletions := sends.deletions.trans paged.deletions

/-- A store that holds more and is at the same place pages as well. -/
lemma Paged.grow (paged : s.Paged L) {store : Store}
    {returned : List (String × List TimeCapsulePreview)}
    (keeps : ∀ c ∈ s.store.model.original, c ∈ store.model.original)
    (known : ∀ c ∈ store.model.original, c ∈ L.list ++ L.all)
    (cursor : store.model.cursor = s.store.model.cursor)
    (hasNext : store.model.hasNext = s.store.model.hasNext) :
    Paged L { s with store, returned } where
  complete := by
    rw [Complete, cursor, hasNext]
    exact ⟨fun c hc => keeps c (paged.complete.1 c hc), fun done c hc =>
      keeps c (paged.complete.2 done c hc)⟩
  known := known
  behind x hx c hc := keeps c (paged.behind x hx c hc)
  pages := paged.pages
  fetches := paged.fetches
  deletions := paged.deletions

/-- What happens to the list requests: the answers are the list. -/
lemma Paged.fetchMoves (paged : s.Paged L) {traffic : FetchTraffic}
    (unchanging : s.Unchanging L (.fetch traffic)) {fetches} {d}
    (hw : s.fetches.step traffic = (fetches, d)) : Paged L { s with fetches } :=
  { paged with
    fetches := fun x hx => by
      rcases (Wire.moves_of_step hw).mem hx with hx | ⟨i, response, r, rfl, hi, rfl⟩
      · exact paged.fetches x hx
      · refine ⟨(paged.fetches ⟨r, none⟩ (List.mem_of_getElem? hi)).1, fun response' hr json hj => ?_⟩
        cases hr
        exact unchanging json hj }

/-- What happens to the page requests: the answers are the pages. -/
lemma Paged.pageMoves (paged : s.Paged L) {traffic : PageTraffic}
    (unchanging : s.Unchanging L (.page traffic)) {pages} {d}
    (hw : s.pages.step traffic = (pages, d)) : Paged L { s with pages } :=
  { paged with
    behind := fun x hx => by
      rcases (Wire.moves_of_step hw).mem hx with hx | ⟨i, response, r, rfl, hi, rfl⟩
      · exact paged.behind x hx
      · exact paged.behind ⟨r, none⟩ (List.mem_of_getElem? hi)
    pages := fun x hx => by
      rcases (Wire.moves_of_step hw).mem hx with hx | ⟨i, response, r, rfl, hi, rfl⟩
      · exact paged.pages x hx
      · intro response' hr json hj
        cases hr
        exact unchanging ⟨r, none⟩ hi rfl json hj }

/-- The handler of the full list merges it. -/
lemma Paged.fetchHandler (paged : s.Paged L) {r : FetchRequest}
    {response : DataResponse TimeCapsulePreviewResponse} (fetchdata : r.completion = .fetchdata)
    (result : ∀ json ∈ response.json, json.result = L.list) :
    Paged L (s.fetchHandler keychain r response) := by
  cases hj : response.json with
  | none =>
    rw [fetchHandler_eq_self hj]
    exact paged
  | some json =>
    cases DataResponse.json_eq_some.1 hj
    obtain ⟨token, completion⟩ := r
    cases fetchdata
    have list := result json rfl
    have merged {c : TimeCapsulePreview} :
        c ∈ (s.store.model.fetchTimeCapsulePreviews json.result).original ↔
          c ∈ s.store.model.original ∨ c ∈ json.result := by
      rw [TimeCapsulePreviewModel.fetchTimeCapsulePreviews_original]
      exact Listing.mem_mergeOn paged.known fun c hc => List.mem_append_left _ (list ▸ hc)
    refine paged.grow (fun c hc => merged.2 (.inl hc)) (fun c hc => ?_)
      (TimeCapsulePreviewModel.filter_cursor _) (TimeCapsulePreviewModel.filter_hasNext _)
    exact (merged.1 hc).elim (paged.known c) fun hc => List.mem_append_left _ (list ▸ hc)

/-- A handled page keeps the invariant if afterwards `original` holds it, the pages before it, and
what the outstanding requests rely on. -/
lemma Paged.pageHandler (paged : s.Paged L) {r : PageRequest}
    {json : TimeCapsulePreviewPaginationResponse} (answer : L.answer r.cursor = some json.result)
    (original : List TimeCapsulePreview)
    (same : (s.pageHandler r (.decoded json)).store.model.original = original)
    (known : ∀ c ∈ original, c ∈ L.list ++ L.all)
    (old : ∀ c ∈ L.before r.cursor, c ∈ original) (new : ∀ c ∈ json.result.capsuleList, c ∈ original)
    (behind : ∀ x ∈ s.pages, ∀ c ∈ L.before x.request.cursor, c ∈ original)
    (done : s.store.model.hasNext = false → json.result.hasNext = true →
      ∀ c ∈ L.all, c ∈ original) :
    Paged L (s.pageHandler r (.decoded json)) := by
  obtain ⟨position, complete⟩ := Listing.covers_answer answer old new
  obtain ⟨cursor, hasNext⟩ := s.pageHandler_position r json
  obtain ⟨fetches, pages, deletions⟩ := s.pageHandler_wires r (.decoded json)
  constructor
  · rw [Complete, cursor, hasNext, same]
    refine ⟨position, fun last => ?_⟩
    cases more : json.result.hasNext with
    | false => exact complete more
    | true => exact done (by simpa [more] using last) more
  · rwa [same]
  · rwa [pages, same]
  · rw [pages]
    exact paged.pages
  · rw [fetches]
    exact paged.fetches
  · rw [deletions]
    exact paged.deletions

/-- A merged page keeps everything there was. -/
lemma Paged.mergePage (paged : s.Paged L) {token : String} {cursor : Int}
    {json : TimeCapsulePreviewPaginationResponse} (answer : L.answer cursor = some json.result)
    (behind : ∀ c ∈ L.before cursor, c ∈ s.store.model.original) :
    Paged L (s.pageHandler ⟨token, cursor, .fetchdataPagination⟩ (.decoded json)) := by
  have page (c : TimeCapsulePreview) (hc : c ∈ json.result.capsuleList) : c ∈ L.list ++ L.all :=
    List.mem_append_right _ (Listing.mem_all_of_answer answer hc)
  generalize ho :
    (s.pageHandler ⟨token, cursor, .fetchdataPagination⟩ (.decoded json)).store.model.original = l
  have merged {c : TimeCapsulePreview} :
      c ∈ l ↔ c ∈ s.store.model.original ∨ c ∈ json.result.capsuleList := by
    subst ho
    apply mem_removingDuplicates.trans
    rw [TimeCapsulePreviewModel.fetchTimeCapsulePreviews_original]
    exact Listing.mem_mergeOn paged.known page
  refine paged.pageHandler answer l ho ?_ ?_ ?_ ?_ ?_
  · exact fun c hc => (merged.1 hc).elim (paged.known c) (page c)
  · exact fun c hc => merged.2 (.inl (behind c hc))
  · exact fun c hc => merged.2 (.inr hc)
  · exact fun x hx c hc => merged.2 (.inl (paged.behind x hx c hc))
  · exact fun last _ c hc => merged.2 (.inl (paged.complete.2 last c hc))

/-- A page that replaces `original` keeps what is relied on if it is the first one, and early. -/
lemma Paged.installPage (paged : s.Paged L) {token : String} {cursor : Int}
    {json : TimeCapsulePreviewPaginationResponse} (answer : L.answer cursor = some json.result)
    (first : cursor = 0)
    (outstanding : ∀ x ∈ s.pages,
      x.request.cursor = 0 ∨ x.request.cursor = json.result.cursor)
    (early : s.store.model.hasNext = true ∨ json.result.hasNext = false) :
    Paged L (s.pageHandler ⟨token, cursor, .viewDidLoad⟩ (.decoded json)) := by
  subst first
  have none (c : TimeCapsulePreview) (hc : c ∈ L.before 0) : c ∈ json.result.capsuleList := by
    rw [Listing.before_zero] at hc
    cases hc
  refine paged.pageHandler answer json.result.capsuleList
    (TimeCapsulePreviewModel.firstFetch_original _) ?_ none (fun _ hc => hc) ?_ ?_
  · exact fun c hc => List.mem_append_right _ (Listing.mem_all_of_answer answer hc)
  · -- `original` is down to the first page, which is all that the outstanding requests rely on
    intro x hx
    rcases outstanding x hx with h | h
    · rw [h]
      exact none
    · rw [h]
      exact (Listing.covers_answer answer none fun _ hc => hc).1
  · intro last more
    rcases early with h | h
    · cases last.symm.trans h
    · cases more.symm.trans h

/-- Every step keeps the invariant over an unchanging list, if only first pages are installed. -/
lemma step_paged {e : HomeEvent} (h : s.step keychain e = some t) (paged : s.Paged L)
    (unchanging : s.Unchanging L e) (first : s.InstallsFirst e) : t.Paged L := by
  cases step_inv h with
  | sends sends => exact paged.sends sends
  | deletes => exact unchanging.elim
  | @tap _ event store he hs =>
    obtain ⟨perm, cursor, hasNext⟩ := tap_store he hs
    exact paged.grow (fun c hc => perm.mem_iff.2 hc) (fun c hc => paged.known c (perm.mem_iff.1 hc))
      cursor hasNext
  | fetchMoves hw => exact paged.fetchMoves unchanging hw
  | fetchHandled hw =>
    obtain ⟨fetchdata, result⟩ := paged.fetches _ ((Wire.moves_of_step hw).delivered rfl)
    exact (paged.fetchMoves unchanging hw).fetchHandler fetchdata (result _ rfl)
  | pageMoves hw => exact paged.pageMoves unchanging hw
  | @pageHandled traffic pages r response hw =>
    have mem := (Wire.moves_of_step hw).delivered rfl
    have paged' := paged.pageMoves unchanging hw
    cases hj : response.json with
    | none =>
      rw [pageHandler_eq_self hj]
      exact paged'
    | some json =>
      cases DataResponse.json_eq_some.1 hj
      have answer := paged.pages _ mem _ rfl json rfl
      obtain ⟨token, cursor, completion⟩ := r
      cases completion with
      | fetchdataPagination => exact paged'.mergePage answer (paged.behind _ mem)
      | viewDidLoad =>
        obtain ⟨zero, outstanding, early⟩ := first _ (by rw [hw]; rfl) rfl json rfl
        rw [hw] at outstanding
        exact paged'.installPage answer zero outstanding early
  | deletionMoves hw =>
    -- there is no deletion, so nothing happens to one
    rw [paged.deletions, Wire.step_nil] at hw
    cases hw
    exact { paged with deletions := rfl }
  | deletionHandled hw =>
    rw [paged.deletions, Wire.step_nil] at hw
    cases hw

end Step
end HomeScreen
end Home

namespace App

/-- The server answers from the list, and no capsule is deleted. -/
def Unchanging (L : Listing) (a : App) : AppEvent → Prop
  | .session _ => True
  | .home e => a.home.Unchanging L e

/-- A page that a scene connection installs is a first one, and early. -/
def InstallsFirst (a : App) : AppEvent → Prop
  | .session _ => True
  | .home e => a.home.InstallsFirst e

instance (L : Listing) (a : App) : DecidablePred (a.Unchanging L)
  | .session _ => inferInstanceAs (Decidable True)
  | .home e => inferInstanceAs (Decidable (a.home.Unchanging L e))

instance (a : App) : DecidablePred a.InstallsFirst
  | .session _ => inferInstanceAs (Decidable True)
  | .home e => inferInstanceAs (Decidable (a.home.InstallsFirst e))

/-- Every step of the app keeps the invariant. -/
lemma step_paged {L : Listing} (a : App) (e : AppEvent) (paged : a.home.Paged L)
    (h : a.Unchanging L e ∧ a.InstallsFirst e) :
    Run.After step (fun a => a.home.Paged L) a e := by
  intro b hb
  cases step_inv hb with
  | session _ sends => exact paged.sends sends
  | home hs => exact HomeScreen.step_paged hs paged h.1 h.2

/-- A launched app has collected nothing and asks for the first page. -/
lemma launch_paged (L : Listing) (keychain : Keychain) (p : Process) :
    (launch keychain p).home.Paged L := by
  have zero : L.before (Store.launch p).model.cursor = [] := Listing.before_zero
  have fresh : HomeScreen.Paged L { store := .launch p } :=
    { complete := by
        refine ⟨?_, fun last => by cases last⟩
        rw [zero]
        exact fun c hc => by cases hc
      known := fun c hc => by cases hc
      behind := fun x hx => by cases hx
      pages := fun x hx => by cases hx
      fetches := fun x hx => by cases hx
      deletions := rfl }
  exact fresh.sends (launch_sends keychain p)

/-- Over an unchanging list all pages before the cursor have been collected, and all pages once
there is no next, as long as the page that `viewDidLoad` installs is the first one, is handled
before the last, and no request beyond the second page is outstanding then. -/
theorem paged_of_steps (L : Listing) (keychain : Keychain) (p : Process) (es : List AppEvent)
    (h : Run.Steps step (fun a e => a.Unchanging L e ∧ a.InstallsFirst e) (launch keychain p) es) :
    Run.Always step (fun a => a.home.Complete L) (launch keychain p) es :=
  (Run.always_of_steps step_paged (launch_paged L keychain p) h).mono fun _ paged => paged.complete

/-- Two pages, with the installed page handled first. -/
theorem paged_installed_first :
    Run.Always step
      (fun a => a.home.Complete
        ⟨[⟨0, [⟨1, 1, false, "t", "가족", "", "", ""⟩]⟩, ⟨8, [⟨2, 1, true, "u", "친구", "", "", ""⟩]⟩],
          16, [⟨1, 1, false, "t", "가족", "", "", ""⟩], rfl, by decide, by decide⟩)
      (launch (((∅ : Keychain).save "r" .refreshToken).save "f" .fcmToken)
        ⟨fun _ _ => none, ⟨"", ""⟩, fun _ => 0⟩)
      [.home (.page (.reply 1 (.decoded ⟨true, "200", "OK",
          ⟨[⟨1, 1, false, "t", "가족", "", "", ""⟩], true, 8⟩⟩))),
        .home (.page (.deliver 1)), .home (.scrollViewDidScroll 0 0 0),
        .home (.page (.reply 1 (.decoded ⟨true, "200", "OK",
          ⟨[⟨2, 1, true, "u", "친구", "", "", ""⟩], false, 16⟩⟩))),
        .home (.page (.deliver 1))] :=
  paged_of_steps _ _ _ _ (by decide +kernel)

/-- Two pages, with the installed page handled last: the second page is lost. -/
theorem not_paged :
    ¬ ∀ (L : Listing) (keychain : Keychain) (p : Process) (es : List AppEvent),
      Run.Steps step (fun a e => a.Unchanging L e) (launch keychain p) es →
      Run.Always step (fun a => a.home.Complete L) (launch keychain p) es := by
  intro h
  have run := h
    ⟨[⟨0, [⟨1, 1, false, "t", "가족", "", "", ""⟩]⟩, ⟨8, [⟨2, 1, true, "u", "친구", "", "", ""⟩]⟩],
      16, [⟨1, 1, false, "t", "가족", "", "", ""⟩, ⟨2, 1, true, "u", "친구", "", "", ""⟩],
      rfl, by decide, by decide⟩
    (((∅ : Keychain).save "r" .refreshToken).save "f" .fcmToken)
    ⟨fun _ _ => none, ⟨"", ""⟩, fun _ => 0⟩
    [.home (.page (.reply 0 (.decoded ⟨true, "200", "OK",
        ⟨[⟨1, 1, false, "t", "가족", "", "", ""⟩], true, 8⟩⟩))),
      .home (.page (.deliver 0)), .home (.scrollViewDidScroll 0 0 0),
      .home (.page (.reply 1 (.decoded ⟨true, "200", "OK",
        ⟨[⟨2, 1, true, "u", "친구", "", "", ""⟩], false, 16⟩⟩))),
      .home (.page (.deliver 1)),
      .home (.page (.reply 0 (.decoded ⟨true, "200", "OK",
        ⟨[⟨1, 1, false, "t", "가족", "", "", ""⟩], true, 8⟩⟩))),
      .home (.page (.deliver 0))] (by decide +kernel)
  revert run
  decide +kernel

end App

end TimeCapsule
