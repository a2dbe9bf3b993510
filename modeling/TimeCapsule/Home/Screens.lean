import TimeCapsule.Home.HomeSteps

/-!
# Any number of home screens

Each home screen that is built loads, and all of them work on one static store; the closures keep
the wires of every screen alive, so the wires are shared as well. The keychain is whatever it is at
the moment of an event.

The server fails on the last cursor. `nothing_past_end` says that it is never asked for it:
`pages_issued` is what both senders have in common, and the flag can only fall.
-/

namespace TimeCapsule.Home
open Foundation

inductive ScreensEvent where
  | viewDidLoad (keychain : Keychain)
  | screen (keychain : Keychain) (e : HomeEvent)

namespace Screens

/-- The shared state of the screens of a process. -/
def launch (p : Process) : HomeScreen := { store := .launch p }

def step (s : HomeScreen) : ScreensEvent → Option HomeScreen
  | .viewDidLoad keychain => some (s.viewDidLoad keychain)
  | .screen keychain e => s.step keychain e

/-- The screens after the traffic of an event, before any handler has run. -/
def moved (s : HomeScreen) : ScreensEvent → HomeScreen
  | .viewDidLoad _ => s
  | .screen _ e => s.moved e

/-- The page that is handled at this step, with its request. -/
def handledPage (s : HomeScreen) :
    ScreensEvent → Option (PageRequest × TimeCapsulePreviewPaginationResponse)
  | .viewDidLoad _ => none
  | .screen _ e => s.handledPage e

/-- The page requests that are issued at this step. -/
def issued (s : HomeScreen) (e : ScreensEvent) : List PageRequest :=
  match step s e with
  | some t => (moved s e).pages.sent t.pages
  | none => []

/-- The history notes whether a page without a next one has been handled. -/
def noteEnded (s : HomeScreen) (e : ScreensEvent) (ended : Bool) : Bool :=
  ended || (handledPage s e).any fun d => !d.2.result.hasNext

/-- `hasNext` is false exactly if a page without a next one has been handled. -/
def EndKnown (s : HomeScreen × Bool) : Prop := s.1.store.model.hasNext = false ↔ s.2 = true

/-- After the last page no page is requested. -/
def NothingPastEnd (s : HomeScreen × Bool) (e : ScreensEvent) : Prop :=
  s.2 = true → issued s.1 e = []

/-! ## Requests for pages -/

/-- Behind the wire `pages` there are new requests in `t`: while there is a next page, and from the
cursor of the moment. -/
def Requests (s : HomeScreen)
    (pages : Wire PageRequest (DataResponse TimeCapsulePreviewPaginationResponse))
    (t : HomeScreen) : Prop :=
  ∃ rs : List PageRequest, t.pages = pages ++ rs.map (fun r => ⟨r, none⟩) ∧
    ∀ r ∈ rs, s.store.model.hasNext = true ∧ r.cursor = s.store.model.cursor

variable {keychain : Keychain} {s t : HomeScreen}
  {pages : Wire PageRequest (DataResponse TimeCapsulePreviewPaginationResponse)}

/-- No request is sent. -/
lemma Requests.nothing (h : t.pages = pages) : Requests s pages t :=
  ⟨[], by simpa using h, List.forall_mem_nil _⟩

/-- `fetchdataPagination` sends at most one request. -/
lemma fetchdataPagination_requests (more : s.store.model.hasNext = true) :
    Requests s s.pages (s.fetchdataPagination keychain) := by
  unfold HomeScreen.fetchdataPagination
  split
  · next token _ =>
    refine ⟨[⟨token, s.store.model.cursor, .fetchdataPagination⟩], rfl, fun r hr => ?_⟩
    cases List.mem_singleton.1 hr
    exact ⟨more, rfl⟩
  · exact .nothing rfl

/-- `viewDidLoad` sends two requests from one cursor, or none. -/
lemma viewDidLoad_requests : Requests s s.pages (s.viewDidLoad keychain) := by
  unfold HomeScreen.viewDidLoad
  split
  · next token found =>
    split
    · split
      · next more =>
        have first : (s.fetchdataPagination keychain) =
            s.fetchTimeCapsulesPagination token .fetchdataPagination := by
          simp only [HomeScreen.fetchdataPagination, found]
        rw [first]
        refine ⟨[⟨token, s.store.model.cursor, .fetchdataPagination⟩,
          ⟨token, s.store.model.cursor, .viewDidLoad⟩], ?_, fun r hr => ?_⟩
        · simp [HomeScreen.fetchTimeCapsulesPagination, Wire.send]
        · simp only [List.mem_cons, List.not_mem_nil, or_false] at hr
          obtain rfl | rfl := hr <;> exact ⟨more, rfl⟩
      · exact .nothing rfl
    · exact .nothing rfl
  · exact .nothing rfl

/-- Scrolling sends at most one request. -/
lemma scrollViewDidScroll_requests (offsetY contentHeight frameHeight : Rat) :
    Requests s s.pages (s.scrollViewDidScroll keychain offsetY contentHeight frameHeight) := by
  unfold HomeScreen.scrollViewDidScroll
  split
  · split
    · next more => exact fetchdataPagination_requests more
    · exact .nothing rfl
  · exact .nothing rfl

/-- A step of a screen requests pages as its scroll handler does, or not at all. -/
lemma step_screen_requests {e : HomeEvent} (h : s.step keychain e = some t) :
    Requests s (s.moved e).pages t := by
  cases e with
  | viewWillAppear =>
    cases h
    apply Requests.nothing
    unfold HomeScreen.viewWillAppear HomeScreen.fetchdata
    split <;> rfl
  | scrollViewDidScroll =>
    cases h
    exact scrollViewDidScroll_requests _ _ _
  | confirmPressed data =>
    cases h
    apply Requests.nothing
    unfold HomeScreen.confirmPressed
    split <;> rfl
  | handleTagButtonTap | toggleCapsuleViewButton => cases h; exact .nothing rfl
  | sort action =>
    obtain ⟨store, _, h⟩ := Option.bind_eq_some_iff.1 h
    cases h
    exact .nothing rfl
  | fetch traffic =>
    obtain ⟨fetches, d, hw⟩ := s.fetches.exists_step traffic
    simp only [HomeScreen.step, hw] at h
    cases d with
    | none => cases h; exact .nothing rfl
    | some d => cases h; exact .nothing HomeScreen.fetchHandler_wires.1
  | page traffic =>
    obtain ⟨pages, d, hw⟩ := s.pages.exists_step traffic
    simp only [HomeScreen.step, hw] at h
    simp only [HomeScreen.moved, hw]
    cases d with
    | none => cases h; exact .nothing rfl
    | some d => cases h; exact .nothing (HomeScreen.pageHandler_wires _ _ _).2.1
  | deletion traffic =>
    obtain ⟨deletions, d, hw⟩ := s.deletions.exists_step traffic
    simp only [HomeScreen.step, hw] at h
    cases d with
    | none => cases h; exact .nothing rfl
    | some d =>
      obtain ⟨r, result⟩ := d
      cases h
      cases result <;> exact .nothing rfl

/-- Pages are requested while there is a next one, and from the cursor of the moment. -/
lemma step_requests {e : ScreensEvent} (h : step s e = some t) : Requests s (moved s e).pages t := by
  cases e with
  | viewDidLoad => cases h; exact viewDidLoad_requests
  | screen keychain e => exact step_screen_requests h

/-- The requests that are issued ask for the cursor of the moment, while there is a next page. -/
lemma of_mem_issued {e : ScreensEvent} {r : PageRequest} (hr : r ∈ issued s e) :
    s.store.model.hasNext = true ∧ r.cursor = s.store.model.cursor := by
  cases h : step s e with
  | none =>
    simp only [issued, h] at hr
    cases hr
  | some t =>
    obtain ⟨rs, sent, position⟩ := step_requests h
    simp only [issued, h, sent, Wire.sent_append] at hr
    exact position r hr

/-! ## The end -/

/-- Only a page that is handled moves the paging position. -/
lemma step_position {e : ScreensEvent} (h : step s e = some t) :
    t.store.model.cursor =
        (handledPage s e).elim s.store.model.cursor (fun d => d.2.result.cursor) ∧
      t.store.model.hasNext = (handledPage s e).elim s.store.model.hasNext
        (fun d => d.2.result.hasNext && s.store.model.hasNext) := by
  cases e with
  | viewDidLoad keychain =>
    cases h
    rw [HomeScreen.viewDidLoad_sends.store]
    exact ⟨rfl, rfl⟩
  | screen keychain e => exact HomeScreen.step_position h

/-- Whatever is handled, the flag tells whether the end is known. -/
lemma step_endKnown (s : HomeScreen × Bool) (e : ScreensEvent) (known : EndKnown s) :
    Run.After (Run.record step noteEnded) EndKnown s e := by
  intro t ht
  obtain ⟨taken, noted⟩ := Run.mem_record.1 ht
  rw [EndKnown, noted, (step_position taken).2, noteEnded]
  cases handledPage s.1 e with
  | none =>
    rw [Option.any_none, Bool.or_false]
    exact known
  | some d =>
    -- a later page that claims there is more cannot raise the flag again
    have both : (d.2.result.hasNext && s.1.store.model.hasNext) = false ↔
        d.2.result.hasNext = false ∨ s.2 = true := by
      rw [Bool.and_eq_false_iff]
      exact or_congr_right known
    simp only [Option.elim_some, both, Option.any_some, Bool.or_eq_true, Bool.not_eq_true']
    exact or_comm

/-- The flag is false exactly once a last page has been handled, and then no page is ever requested,
whatever the screens do and whatever answers come late. -/
theorem nothing_past_end (p : Process) (es : List ScreensEvent) :
    Run.Always (Run.record step noteEnded) EndKnown (launch p, false) es ∧
      Run.Steps (Run.record step noteEnded) NothingPastEnd (launch p, false) es := by
  have known : Run.Always (Run.record step noteEnded) EndKnown (launch p, false) es := by
    refine Run.always_of_keeps step_endKnown ?_ es
    simp [EndKnown, launch, Store.launch]
  refine ⟨known, known.steps fun s e known ended => ?_⟩
  apply List.eq_nil_iff_forall_not_mem.2
  intro r hr
  have more := (of_mem_issued hr).1
  rw [known.2 ended] at more
  cases more

end Screens

end TimeCapsule.Home
